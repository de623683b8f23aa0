/-
# FactScan.Proofs.Facts.Workbench — how many values there are

What a program has got together from documents and terms (`Workbench.Reachable`), by
evaluating them against one another and defining operators by them, reads as histories do,
wherever it looks: in results, in what `prev` remembers, in facts, rows, and rows laid over
facts.  It follows that `nil`, `one` and `many` tell apart whether an operand has no value, one,
or more, and that `exists`, `absent` and `nil` say the same of a field.

* `Workbench.Reachable.isNormal`: everything is normal;
* `Workbench.Reachable.values_counted`: results are, and operands are counted;
* `Workbench.counts_refused`: a count needs its operator hosted, and a level for its operand.
-/
import FactScan.Proofs.Copies
import FactScan.Proofs.Facts.NormalForm
import FactScan.Proofs.Hosts
import FactScan.Proofs.Inlining.Depth

namespace FactScan

set_option autoImplicit false

/-! ## Programs -/

/-- Facts as documents give them. -/
def Fact.IsLoaded : Fact → Prop
  | .memory h => ∃ j, Histories.ofJson j = .ok h
  | .row r => ∃ j, Row.ofJson j = .ok r
  | .empty => True
  | .overlay .. => False

/-- A fact that is kept as a row, or can be made one. -/
def Fact.row? : Fact → Option Row
  | .memory h => some h.toRow
  | .row r => some r
  | .empty | .overlay .. => none

/-- All that a program works with. -/
structure Workbench where
  host : Host := {}
  pool : List Instance := []
  rows : List Row := []

namespace Workbench

/-- What a program can do without functions of its own.  Instances and rows stay, for it may
have kept copies. -/
inductive Step (s : Workbench) : Workbench → Prop
  | engine (hosted : List Builtin) : Step s { s with host := (s.host.addRegistry { hosted }).2 }
  | build (t : Term) : Step s { s with pool := ⟨t, .blank⟩ :: s.pool }
  | fresh {i : Instance} : i ∈ s.pool → Step s { s with pool := i.fresh :: s.pool }
  | instantiate {i caller : Instance} : i ∈ s.pool → caller ∈ s.pool →
      Step s { s with pool := i.instantiate caller :: s.pool }
  | fact {x : Fact} : x.IsLoaded → Step s { s with host := (s.host.addFact x).2 }
  | row {j : Json} {r : Row} : Row.ofJson j = .ok r → Step s { s with rows := r :: s.rows }
  /-- A copy of a fact as it stands. -/
  | take {id : Nat} {r : Row} : (s.host.fact id).row? = some r →
      Step s { s with rows := r :: s.rows }
  /-- An evaluation that succeeds or fails. -/
  | evaluate {i i' : Instance} {rows : List Row} {result : Except EvalError Value} {host : Host}
      (engine : Engine) (id : Nat) : i ∈ s.pool → (∀ row ∈ rows, row ∈ s.rows) →
      s.host.evaluate engine rows i id = (result, i', host) →
      Step s { s with host, pool := i' :: s.pool }
  | define {d : Definition} {body : Instance} {result : Except EvalError Unit} {host : Host}
      (registry : Nat) : d.body = .expression body → body ∈ s.pool →
      s.host.define registry d = (result, host) → Step s { s with host }
  | redefine {d : Definition} {body : Instance} {result : Except EvalError (Option Definition)}
      {host : Host} (registry : Nat) : d.body = .expression body → body ∈ s.pool →
      s.host.redefine registry d = (result, host) → Step s { s with host }
  | undefine {name : String} {result : Except EvalError Bool} {host : Host} (registry : Nat) :
      s.host.undefine registry name = (result, host) → Step s { s with host }

/-- What a program that starts with nothing can get to. -/
inductive Reachable : Workbench → Prop
  | start : Reachable {}
  | step {s s' : Workbench} : Reachable s → Step s s' → Reachable s'

/-- All facts and rows read as histories do, and nothing else is remembered. -/
structure IsNormal (s : Workbench) : Prop where
  registry (id : Nat) : (s.host.registry id).IsNormal
  fact (id : Nat) : (s.host.fact id).IsNormal
  pool : ∀ i ∈ s.pool, i.UsesOnly .normal
  rows : ∀ row ∈ s.rows, row.IsNormal

end Workbench

/-! ## Steps -/

theorem Fact.IsLoaded.isNormal {x : Fact} (loaded : x.IsLoaded) : x.IsNormal := by
  cases x with
  | memory h => exact isNormal_memory h
  | row r =>
      obtain ⟨j, read⟩ := loaded
      exact Row.isNormal_ofJson read
  | empty => exact isNormal_empty
  | overlay r outer => cases loaded

theorem Fact.IsNormal.row? {x : Fact} {r : Row} (normal : x.IsNormal) (is : x.row? = some r) :
    r.IsNormal := by
  cases x with
  | memory h => cases is; exact Row.isNormal_toRow h
  | row r => cases is; exact normal
  | empty => cases is
  | overlay r outer => cases is

namespace Registry.IsNormal

theorem hosted (hosted : List Builtin) : Registry.IsNormal { hosted } :=
  ⟨fun _ member => absurd member List.not_mem_nil, fun _ member => absurd member List.not_mem_nil⟩

variable {w w' : World} (normal : w.registry.IsNormal) {d : Definition} {body : Instance}
include normal

theorem define (isBody : d.body = .expression body) (uses : body.UsesOnly .normal)
    (made : w.define d = .ok w') : w'.registry.IsNormal where
  free := World.forall_define normal.free made ⟨body, isBody⟩
  bodies := World.forall_define normal.bodies made fun other is => by
    cases isBody.symm.trans is
    exact uses

theorem redefine {replaced : Option Definition} (isBody : d.body = .expression body)
    (uses : body.UsesOnly .normal) (made : w.redefine d = .ok (w', replaced)) :
    w'.registry.IsNormal where
  free := World.forall_redefine normal.free made ⟨body, isBody⟩
  bodies := World.forall_redefine normal.bodies made fun other is => by
    cases isBody.symm.trans is
    exact uses

theorem undefine {name : String} {removed : Bool} (done : w.undefine name = .ok (w', removed)) :
    w'.registry.IsNormal where
  free := World.forall_undefine normal.free done
  bodies := World.forall_undefine normal.bodies done

end Registry.IsNormal

/-- An evaluation of an instance in a normal world, over normal rows. -/
theorem Instance.evaluate_isNormal (settings : Settings) {rows : List Row} {i : Instance}
    {w : World} (normalRows : ∀ row ∈ rows, row.IsNormal) (remembers : i.UsesOnly .normal)
    (normal : w.IsNormal) :
    let after := i.evaluate settings rows w
    (∀ v, after.1 = .ok v → v.IsNormal) ∧ after.2.1.UsesOnly .normal ∧ after.2.2.IsNormal := by
  intro after
  obtain ⟨left, given⟩ := evalAt_gives settings (settings.maxDepth + 1) ⟨rows, 0⟩ i.term normalRows
    ⟨i.memory, w⟩ ⟨remembers.memory, normal⟩
  exact ⟨given, ⟨remembers.term, left.memory⟩, left.world⟩

namespace Workbench

variable {s s' : Workbench}

/-- **What one step keeps normal.** -/
theorem Step.isNormal (step : Step s s') (normal : s.IsNormal) : s'.IsNormal := by
  obtain ⟨registry, fact, pool, rows⟩ := normal
  -- A new instance, or a new row.
  have join {i : Instance} (uses : i.UsesOnly .normal) : ∀ j ∈ i :: s.pool, j.UsesOnly .normal :=
    List.forall_mem_cons.2 ⟨uses, pool⟩
  have enter {r : Row} (new : r.IsNormal) : ∀ row ∈ r :: s.rows, row.IsNormal :=
    List.forall_mem_cons.2 ⟨new, rows⟩
  -- A registry changed, or none.
  have change {α : Type} {id : Nat} {f : World → Except EvalError (World × α)}
      {result : Except EvalError α} {host : Host} (done : s.host.change id f = (result, host))
      (keeps : ∀ w a, f (s.host.world id .empty) = .ok (w, a) → w.registry.IsNormal) :
      IsNormal { s with host } := by
    rcases Host.change_cases done with ⟨w, a, changed, rfl⟩ | rfl
    · exact ⟨Host.forall_registry_absorb registry (keeps w a changed) id, fact, pool, rows⟩
    · exact ⟨registry, fact, pool, rows⟩
  cases step with
  | engine hosted =>
      exact ⟨Host.forall_registry_addRegistry registry (.hosted hosted), fact, pool, rows⟩
  | build t => exact ⟨registry, fact, join ⟨t.usesOnly_normal, Memory.usesOnly_blank t⟩, rows⟩
  | fresh member => exact ⟨registry, fact, join (pool _ member).fresh, rows⟩
  | instantiate member member' =>
      exact ⟨registry, fact, join ((pool _ member).instantiate (pool _ member')), rows⟩
  | fact loaded => exact ⟨registry, Host.forall_fact_addFact fact loaded.isNormal, pool, rows⟩
  | row read => exact ⟨registry, fact, pool, enter (Row.isNormal_ofJson read)⟩
  | take is => exact ⟨registry, fact, pool, enter ((fact _).row? is)⟩
  | @evaluate i i' among result host engine id member known ran =>
      obtain ⟨-, remembers, world⟩ := i.evaluate_isNormal engine.settings
        (fun row inside => rows row (known row inside)) (pool i member)
        (w := s.host.world engine.registry (s.host.fact id)) ⟨fact id, registry engine.registry⟩
      cases ran
      exact ⟨Host.forall_registry_absorb registry world.registry engine.registry,
        Host.forall_fact_setFact fact world.fact id, join remembers, rows⟩
  | define id isBody member done =>
      refine change done fun w a made => ?_
      cases defined : (s.host.world id .empty).define _ with
      | error e => rw [defined] at made; cases made
      | ok w' =>
          rw [defined] at made
          cases made
          exact (registry id).define isBody (pool _ member) defined
  | redefine id isBody member done =>
      exact change done fun w a made => (registry id).redefine isBody (pool _ member) made
  | undefine id done =>
      exact change done fun w a removed => (registry id).undefine removed

/-- **Whatever a program can get to is normal.** -/
theorem Reachable.isNormal (reachable : s.Reachable) : s.IsNormal := by
  induction reachable with
  | start =>
      refine ⟨fun id => ?_, fun id => Fact.isNormal_empty, nofun, nofun⟩
      match id with
      | 0 => exact .hosted _
      | _ + 1 => exact .hosted _
  | step _ step ih => exact step.isNormal ih

end Workbench

/-! ## Operands -/

/-- The value of an operand by itself.  That of a nested term is found one level down. -/
def Part.value? (settings : Settings) (rows : List Row) (x : Part) (w : World) : Option Value :=
  match x.operand with
  | .nested t => (evalAt settings settings.maxDepth ⟨rows, 1⟩ t ⟨x.memory, w⟩).1.toOption
  | .literal a => some (.scalar a)
  | .field name => some (w.fact.read name)
  | .placeholder _ => none

/-- A term that the operand holds is an instance of the pool. -/
def Part.IsFrom (pool : List Instance) (x : Part) : Prop :=
  ∀ c, x.operand.carried? = some c → ⟨c, x.memory⟩ ∈ pool

section

variable {settings : Settings} {rows : List Row} {x : Part} {w : World} {v : Value}

theorem Part.resolve_eq (value : x.value? settings rows w = some v) (op : Operator) (r : Record) :
    ∃ s, resolve (evalAt settings settings.maxDepth) ⟨rows, 0⟩ (.mk op [x.operand]) 0
      ⟨.mk none [x.memory], w.note r⟩ = (.ok v.normalized, s) := by
  obtain ⟨o, m⟩ := x
  cases o with
  | nested t =>
      replace value : (evalAt settings settings.maxDepth ⟨rows, 1⟩ t ⟨m, w⟩).1.toOption = some v :=
        value
      -- By the time the operand is evaluated, the call of its operator has been logged.
      obtain ⟨log, same⟩ :=
        evalAt_withLog settings settings.maxDepth ⟨rows, 1⟩ t ⟨m, w⟩ (r :: w.log)
      rw [← congrArg Prod.fst same] at value
      change (evalAt settings settings.maxDepth ⟨rows, 1⟩ t ⟨m, w.note r⟩).1.toOption = _ at value
      rcases ran : evalAt settings settings.maxDepth ⟨rows, 1⟩ t ⟨m, w.note r⟩ with ⟨result, s⟩
      rw [ran] at value
      cases result with
      | error e => cases value
      | ok v' =>
          cases value
          have child : Act.atChild 0 (evalAt settings settings.maxDepth ⟨rows, 1⟩ t)
              ⟨.mk none [m], w.note r⟩ =
              (.ok v, { s with memory := (Memory.mk none [m]).setChild 0 s.memory }) := by
            rw [Act.atChild_apply]
            exact congrArg (fun x : Except EvalError Value × State =>
              (x.1, { x.2 with memory := (Memory.mk none [m]).setChild 0 x.2.memory })) ran
          exact ⟨_, Act.bind_ok child fun v => pure v.normalized⟩
  | literal a => cases value; exact ⟨_, rfl⟩
  | field name => cases value; exact ⟨_, rfl⟩
  | placeholder i => cases value

/-- An operator that computes a value from that of its only operand. -/
theorem Part.evaluate_eq {b : Builtin} {f : Value → Value}
    (runs : ∀ evaluate site t, b.run settings evaluate site t = (do
      checkArity t (.exactly 1)
      return f (← resolve evaluate site t 0)))
    (hosted : w.registry.hosts b = true) (value : x.value? settings rows w = some v) :
    (Instance.evaluate settings rows (.ofParts (.builtin b) [x]) w).1 = .ok (f v.normalized) := by
  obtain ⟨s, resolved⟩ := x.resolve_eq value (.builtin b)
    (.dispatched 0 (.mk (.builtin b) [x.operand]))
  show (evalAt settings (settings.maxDepth + 1) ⟨rows, 0⟩ (.mk (.builtin b) [x.operand])
    ⟨.mk none [x.memory], w⟩).1 = _
  have ran : b.run settings (evalAt settings settings.maxDepth) ⟨rows, 0⟩
      (.mk (.builtin b) [x.operand]) ⟨.mk none [x.memory],
        w.note (.dispatched 0 (.mk (.builtin b) [x.operand]))⟩ = (.ok (f v.normalized), s) := by
    rw [runs]
    exact Act.bind_ok resolved fun v => pure (f v)
  rw [evalAt_succ, dispatch_builtin rfl hosted, Act.mapError, ran]

end

/-! ## Counts -/

/-- Operators that count the values of an operand, or ask whether a field has any. -/
def Builtin.counting : List Builtin := [.size, .isNil, .one, .many, .present, .absent]

namespace Workbench

/-- Facts that a program's terms are evaluated against: those it keeps, as they are or after
some appends, the empty one of the second operand of `agg`, and rows over others of the
first. -/
inductive Faces (s : Workbench) : Fact → Prop
  | kept (id : Nat) : Faces s (s.host.fact id)
  | append {x y : Fact} {field : String} {a : Scalar} : Faces s x → x.append? field a = some y →
      Faces s y
  | vacant : Faces s .empty
  | overlay {row : Row} {outer : Fact} : row ∈ s.rows → Faces s outer →
      Faces s (.overlay row outer)

theorem Faces.isNormal {s : Workbench} {x : Fact} (faces : s.Faces x) (normal : s.IsNormal) :
    x.IsNormal := by
  induction faces with
  | kept id => exact normal.fact id
  | append _ appended ih => exact ih.append appended
  | vacant => exact Fact.isNormal_empty
  | overlay member _ ih => exact ih.overlay (normal.rows _ member)

end Workbench

theorem Part.isNormal_of_value? {settings : Settings} {rows : List Row} {x : Part} {w : World}
    {v : Value} (value : x.value? settings rows w = some v)
    (normalRows : ∀ row ∈ rows, row.IsNormal) (normal : w.IsNormal)
    (remembers : ∀ c, x.operand.carried? = some c → x.memory.UsesOnly .normal c) : v.IsNormal := by
  obtain ⟨o, m⟩ := x
  cases o with
  | nested t =>
      obtain ⟨-, given⟩ := evalAt_gives settings settings.maxDepth ⟨rows, 1⟩ t normalRows ⟨m, w⟩
        ⟨remembers t rfl, normal⟩
      replace value : (evalAt settings settings.maxDepth ⟨rows, 1⟩ t ⟨m, w⟩).1.toOption = some v :=
        value
      cases result : (evalAt settings settings.maxDepth ⟨rows, 1⟩ t ⟨m, w⟩).1 with
      | ok v' =>
          rw [result] at value
          cases value
          exact given v result
      | error e => rw [result] at value; cases value
  | literal a => cases value; trivial
  | field name => cases value; exact normal.fact name
  | placeholder i => cases value

/-- **Operands are counted**: `size` gives the number of values, and `nil`, `one` and `many` say
whether it is none, one, or more. -/
theorem Part.counted {settings : Settings} {rows : List Row} {x : Part} {w : World} {v : Value}
    (value : x.value? settings rows w = some v) (normal : v.IsNormal)
    (hosted : ∀ b ∈ Builtin.counting, w.registry.hosts b = true) :
    let answer (b : Builtin) :=
      (Instance.evaluate settings rows (.ofParts (.builtin b) [x]) w).1
    answer .size = .ok (.integer v.length) ∧
      answer .isNil = .ok (.boolean (decide (v.length = 0))) ∧
      answer .one = .ok (.boolean (decide (v.length = 1))) ∧
      answer .many = .ok (.boolean (decide (1 < v.length))) := by
  simp only [Builtin.counting, List.forall_mem_cons] at hosted
  obtain ⟨size, isNil, one, many, -⟩ := hosted
  dsimp only
  refine ⟨?_, ?_, ?_, ?_⟩
  · rw [x.evaluate_eq (f := fun v => .integer v.length) (fun _ _ _ => rfl) size value,
      v.length_normalized]
  · rw [x.evaluate_eq (f := fun v => .boolean v.isNil) (fun _ _ _ => rfl) isNil value,
      v.isNil_normalized, normal.isNil_eq]
  · rw [x.evaluate_eq (f := fun v => .boolean (v.length = 1)) (fun _ _ _ => rfl) one value,
      v.length_normalized]
  · rw [x.evaluate_eq (f := fun v => .boolean (1 < v.length)) (fun _ _ _ => rfl) many value,
      v.length_normalized]

/-- What is asked of a field has one answer, whatever the fact, and wherever it is asked. -/
theorem evalAt_field (settings : Settings) (levels : Nat) (site : Site) (field : String) (s : State)
    (hosted : ∀ b ∈ Builtin.counting, s.world.registry.hosts b = true) :
    let answer (b : Builtin) :=
      (evalAt settings (levels + 1) site (.mk (.builtin b) [.field field]) s).1
    answer .present = .ok (.boolean (s.world.fact.holds field)) ∧
      answer .absent = .ok (.boolean !s.world.fact.holds field) ∧
      answer .isNil = .ok (.boolean !s.world.fact.holds field) := by
  simp only [Builtin.counting, List.forall_mem_cons] at hosted
  obtain ⟨-, isNil, -, -, present, absent, -⟩ := hosted
  dsimp only
  rw [evalAt_succ, dispatch_builtin rfl present, dispatch_builtin rfl absent,
    dispatch_builtin rfl isNil]
  refine ⟨rfl, rfl, ?_⟩
  show Except.ok (Value.boolean (s.world.fact.read field).normalized.isNil) = _
  rw [Value.isNil_normalized, Fact.holds_eq, Bool.not_not]

namespace Workbench

variable {s : Workbench}

/-- **Values stay as histories read them.**  Whatever a program with no functions of its own has
got to, everything it has is normal, the facts its terms face are, and so is each value that an
evaluation gives.  On an engine that hosts the operators, an operand with a value is then
counted: exactly one of `nil`, `one` and `many` is true of it, the one that its size says.  And
`exists` says of a field what `absent` and `nil` deny, at any depth and against any fact. -/
theorem Reachable.values_counted (reachable : s.Reachable) :
    s.IsNormal ∧ (∀ x, s.Faces x → x.IsNormal) ∧
    ∀ (engine : Engine) (rows : List Row), (∀ row ∈ rows, row ∈ s.rows) →
      (∀ i ∈ s.pool, ∀ x, s.Faces x → ∀ v,
        (i.evaluate engine.settings rows (s.host.world engine.registry x)).1 = .ok v →
          v.IsNormal) ∧
      ((∀ b ∈ Builtin.counting, (s.host.registry engine.registry).hosts b = true) →
        (∀ x, s.Faces x → ∀ part : Part, part.IsFrom s.pool → ∀ v,
          part.value? engine.settings rows (s.host.world engine.registry x) = some v →
            let answer (b : Builtin) := (Instance.evaluate engine.settings rows
              (.ofParts (.builtin b) [part]) (s.host.world engine.registry x)).1
            answer .size = .ok (.integer v.length) ∧
              answer .isNil = .ok (.boolean (decide (v.length = 0))) ∧
              answer .one = .ok (.boolean (decide (v.length = 1))) ∧
              answer .many = .ok (.boolean (decide (1 < v.length)))) ∧
        ∀ x, s.Faces x → ∀ (field : String) (levels : Nat) (site : Site) (m : Memory),
          let answer (b : Builtin) := (evalAt engine.settings (levels + 1) site
            (.mk (.builtin b) [.field field]) ⟨m, s.host.world engine.registry x⟩).1
          answer .present = .ok (.boolean (x.holds field)) ∧
            answer .absent = .ok (.boolean !x.holds field) ∧
            answer .isNil = .ok (.boolean !x.holds field)) := by
  have normal := reachable.isNormal
  refine ⟨normal, fun x faces => faces.isNormal normal, fun engine rows known => ?_⟩
  have normalRows (row : Row) (member : row ∈ rows) := normal.rows row (known row member)
  have world {x : Fact} (faces : s.Faces x) : (s.host.world engine.registry x).IsNormal :=
    ⟨faces.isNormal normal, normal.registry engine.registry⟩
  refine ⟨fun i member x faces => ?_, fun hosted => ⟨fun x faces part known v value => ?_,
    fun x faces field levels site m => ?_⟩⟩
  · exact (i.evaluate_isNormal engine.settings normalRows (normal.pool i member) (world faces)).1
  · exact part.counted value (part.isNormal_of_value? value normalRows (world faces)
      fun c carried => (normal.pool _ (known c carried)).memory) hosted
  · exact evalAt_field engine.settings levels site field ⟨m, s.host.world engine.registry x⟩ hosted

/-- A document with `[1]` under `k`, against which `(as k 2)` is evaluated: then the field has
two values, and `(many k)` is true. -/
theorem Reachable.values_counted_many :
    let one : Scalar := .integer 1
    let two : Scalar := .integer 2
    let part : Part := ⟨.field "k", .blank⟩
    ∃ s : Workbench, s.Reachable ∧ s.host.fact 0 = .memory [("k", [one, two])] ∧
      part.IsFrom s.pool ∧
      (∀ b ∈ Builtin.counting, (s.host.registry Host.common).hosts b = true) ∧
      let w := s.host.world Host.common (s.host.fact 0)
      part.value? {} [] w = some (.sequence [one, two]) ∧
      let answer (b : Builtin) := (Instance.evaluate {} [] (.ofParts (.builtin b) [part]) w).1
      answer .size = .ok (.integer 2) ∧ answer .isNil = .ok (.boolean false) ∧
        answer .one = .ok (.boolean false) ∧ answer .many = .ok (.boolean true) := by
  intro one two part
  let x : Fact := .memory [("k", [one])]
  let i : Instance := ⟨.mk (.builtin .assign) [.field "k", .literal two], .blank⟩
  let engine : Engine := ⟨Host.common, {}⟩
  let begun : Workbench := { host := (({} : Host).addFact x).2, pool := [i] }
  let after := begun.host.evaluate engine [] i 0
  let s : Workbench := { begun with host := after.2.2, pool := after.2.1 :: begun.pool }
  have loaded : x.IsLoaded := ⟨.object [("k", .array [.integer 1])], rfl⟩
  have prepared : begun.Reachable := .step (.step .start (.fact loaded)) (.build i.term)
  have reachable : s.Reachable :=
    .step prepared (.evaluate engine 0 List.mem_cons_self
      (fun _ member => absurd member List.not_mem_nil) rfl)
  have from_ : part.IsFrom s.pool := nofun
  have hosted : ∀ b ∈ Builtin.counting, (s.host.registry Host.common).hosts b = true := by decide
  have counted := (reachable.values_counted.2.2 engine [] nofun).2 hosted |>.1 (s.host.fact 0)
    (.kept 0) part from_ (.sequence [one, two]) rfl
  exact ⟨s, reachable, rfl, from_, hosted, rfl, counted⟩

/-- Without their operators hosted, operands are not counted: none of `(nil 1)`, `(one 1)` and
`(many 1)` is true.  Nor is one of them of `(size 1)` where that has a value only as long as it
stands in no other term. -/
theorem counts_refused :
    let lone : Part := ⟨.literal (.integer 1), .blank⟩
    let size : Term := .mk (.builtin .size) [.literal (.integer 1)]
    let s : Workbench := { host := (({} : Host).addRegistry {}).2 }
    let bare : Engine := ⟨1, {}⟩
    let shallow : Engine := ⟨Host.common, { maxDepth := 0 }⟩
    let answer (engine : Engine) (x : Part) (b : Builtin) :=
      (s.host.evaluate engine [] (.ofParts (.builtin b) [x]) 0).1
    s.Reachable ∧
    (lone.value? {} [] (s.host.world bare.registry (s.host.fact 0)) = some (.integer 1) ∧
      ∀ b ∈ [Builtin.isNil, .one, .many], ∃ e, answer bare lone b = .error e) ∧
    (s.host.evaluate shallow [] ⟨size, .blank⟩ 0).1 = .ok (.integer 1) ∧
      ∀ b ∈ [Builtin.isNil, .one, .many],
        ∃ e, answer shallow ⟨.nested size, .blank⟩ b = .error e := by
  intro lone size s bare shallow answer
  refine ⟨.step .start (.engine []), ⟨rfl, fun b member => ?_⟩, rfl, fun b member => ?_⟩
  · simp only [List.mem_cons, List.not_mem_nil, or_false] at member
    rcases member with rfl | rfl | rfl <;> exact ⟨_, rfl⟩
  · simp only [List.mem_cons, List.not_mem_nil, or_false] at member
    rcases member with rfl | rfl | rfl <;> exact ⟨_, rfl⟩

end Workbench

end FactScan
