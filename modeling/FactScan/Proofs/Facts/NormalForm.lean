/-
# FactScan.Proofs.Facts.NormalForm — values as histories read them

A history reads as nothing, as its only scalar, or as a sequence of all it holds, so a
sequence has more than one scalar (`Value.IsNormal`).  Operands come to operators in another
shape, lone scalars as sequences of one, and operators give some of them back.  Whatever
they do in between, from facts, rows and remembered values that are normal come only normal
values: `evalAt_gives`.

An act is judged by a triple (`Act.Gives`): from a state with a property it leaves such a
state, and what it gives has a property, too.  For all but a few operators the value needs no
such state, for they make it themselves (`Builtin.run_makes`).
-/
import FactScan.Proofs.DepthLimit
import FactScan.Proofs.Facts.Loading
import FactScan.Proofs.Facts.Sight

namespace FactScan

set_option autoImplicit false

/-! ## Values -/

namespace Value

/-- A sequence has more than one scalar. -/
def IsNormal : Value → Prop
  | .sequence items => 1 < items.length
  | _ => True

theorem isNormal_ofHistory (items : List Scalar) : (ofHistory items).IsNormal := by
  match items with
  | [] | [_] => trivial
  | _ :: _ :: rest => exact Nat.le_add_left 2 rest.length

variable {v : Value}

/-- An operand has the value that it was made from, after all. -/
theorem IsNormal.unwrapped_normalized (normal : v.IsNormal) : v.normalized.unwrapped = v := by
  match v, normal with
  | .nil, _ | .scalar _, _ | .sequence (_ :: _ :: _), _ => rfl

theorem IsNormal.isNil_eq (normal : v.IsNormal) : v.isNil = decide (v.length = 0) := by
  match v, normal with
  | .nil, _ | .scalar _, _ | .sequence (_ :: _ :: _), _ => rfl

theorem isNil_normalized (v : Value) : v.normalized.isNil = v.isNil := by
  cases v <;> rfl

theorem length_normalized (v : Value) : v.normalized.length = v.length :=
  congrArg List.length v.items_normalized

end Value

/-! ## Facts and rows -/

/-- Every field reads as a history does. -/
def Row.IsNormal (r : Row) : Prop := ∀ name, (r.read name).IsNormal

def Fact.IsNormal (x : Fact) : Prop := ∀ name, (x.read name).IsNormal

namespace Fact

variable {x y : Fact} {r : Row} {field : String} {a : Scalar}

theorem isNormal_memory (h : Histories) : (memory h).IsNormal :=
  fun name => Value.isNormal_ofHistory (h.history name)

theorem isNormal_empty : empty.IsNormal := fun _ => trivial

theorem IsNormal.overlay (outer : x.IsNormal) (row : r.IsNormal) : (overlay r x).IsNormal := by
  intro name
  rw [read]
  split
  · exact row name
  · exact outer name

theorem IsNormal.append (normal : x.IsNormal) (appended : x.append? field a = some y) :
    y.IsNormal := by
  intro name
  rw [read_append appended]
  split
  · exact Value.isNormal_ofHistory _
  · exact normal name

end Fact

namespace Row

theorem isNormal_nil : IsNormal [] := fun _ => trivial

theorem IsNormal.enter {r : Row} (normal : r.IsNormal) (field : String) (items : List Scalar) :
    IsNormal (r.alter field fun _ => .ofHistory items) := by
  intro name
  unfold read
  by_cases same : name = field
  · subst same
    rw [Fields.get?_alter_self]
    exact Value.isNormal_ofHistory items
  · rw [Fields.get?_alter_ne same]
    exact normal name

theorem IsNormal.load {r : Row} (normal : r.IsNormal) (entries : List (String × List Scalar)) :
    (Row.load entries r).IsNormal := by
  induction entries generalizing r with
  | nil => exact normal
  | cons e rest ih => exact ih (normal.enter e.1 e.2)

/-- Rows from documents are normal, for an array is taken for a history. -/
theorem isNormal_ofJson {j : Json} {r : Row} (read : Row.ofJson j = .ok r) : r.IsNormal := by
  rw [ofJson_eq] at read
  cases found : entriesOf j with
  | error e => rw [found] at read; cases read
  | ok entries =>
      rw [found] at read
      cases read
      exact isNormal_nil.load entries

/-- So is a fact in memory, taken as a row. -/
theorem isNormal_toRow (h : Histories) : h.toRow.IsNormal := by
  intro name
  suffices same : (h.toRow.get? name) = (h.get? name).map Value.ofHistory by
    unfold read
    rw [same]
    cases h.get? name with
    | none => trivial
    | some items => exact Value.isNormal_ofHistory items
  induction h with
  | nil => rfl
  | cons e rest ih =>
      obtain ⟨n, items⟩ := e
      show (if n = name then _ else _) = Option.map _ (if n = name then _ else _)
      split
      · rfl
      · exact ih

end Row

/-! ## Triples -/

namespace Act

variable {α β : Type} {J : State → Prop} {P : α → Prop} {R : β → Prop}

/-- From a state with a property the act leaves such a state, whether it succeeds or fails, and
what it gives has a property, too. -/
def Gives (J : State → Prop) (P : α → Prop) (act : Act α) : Prop :=
  ∀ s, J s → J (act s).2 ∧ ∀ a, (act s).1 = .ok a → P a

namespace Gives

theorem pure {a : α} (has : P a) : Gives J P (Pure.pure a) :=
  fun _ before => ⟨before, fun _ same => by cases same; exact has⟩

theorem fail {e : EvalError} : Gives J P (Act.fail e) := fun _ before => ⟨before, nofun⟩

theorem bind {act : Act α} {f : α → Act β} (first : Gives J P act)
    (next : ∀ a, P a → Gives J R (f a)) : Gives J R (act >>= f) := by
  intro s before
  obtain ⟨after, given⟩ := first s before
  rcases bind_cases act f s with ⟨a, s₁, ran, whole⟩ | ⟨e, s₁, ran, whole⟩
  · rw [ran] at after given
    rw [whole]
    exact next a (given a rfl) s₁ after
  · rw [ran] at after
    rw [whole]
    exact ⟨after, nofun⟩

theorem imp {P' : α → Prop} {act : Act α} (gives : Gives J P act) (weaker : ∀ a, P a → P' a) :
    Gives J P' act := fun s before =>
  ⟨(gives s before).1, fun a same => weaker a ((gives s before).2 a same)⟩

theorem mapError {act : Act α} (gives : Gives J P act) (f : EvalError → EvalError) :
    Gives J P (Act.mapError f act) := by
  intro s before
  obtain ⟨after, given⟩ := gives s before
  refine ⟨mapError_state f act s ▸ after, fun a same => given a ?_⟩
  unfold Act.mapError at same
  split at same
  · rename_i ran
    rw [ran]
    exact same
  · cases same

/-- A value that an act gives from any state. -/
theorem made {act : Act α} (keeps : Gives J (fun _ => True) act)
    (makes : Gives (fun _ => True) P act) : Gives J P act :=
  fun s before => ⟨(keeps s before).1, (makes s trivial).2⟩

theorem composes (J : State → Prop) :
    Composes fun α (act : Unit → Act α) => Gives J (fun _ => True) (act ()) where
  pure _ := .pure trivial
  bind first next := first.bind fun a _ => next a
  fail _ := .fail

end Gives

/-- What an act gives from any state has a property. -/
abbrev Makes (P : α → Prop) (act : Act α) : Prop := Gives (fun _ => True) P act

theorem Makes.andThen {act : Act α} {f : α → Act β} (next : ∀ a, Makes R (f a)) :
    Makes R (act >>= f) :=
  Gives.bind (P := fun _ => True) (fun _ _ => ⟨trivial, fun _ _ => trivial⟩) fun a _ => next a

end Act

/-! ## Operators that make their own values -/

/-- Operators that hand on a value of an operand, of a row, or that they remember. -/
def Builtin.handsOn : Builtin → Bool
  | .either | .previous | .nth | .first | .traced | .aggregate => true
  | _ => false

section

open Act

variable (evaluate : Evaluator) (site : Site) (t : Term)

theorem Operators.ofOperand_makes (f : Value → Value) (normal : ∀ v, (f v).IsNormal) :
    Makes Value.IsNormal (do
      checkArity t (.exactly 1)
      return f (← resolve evaluate site t 0)) :=
  .andThen fun _ => .andThen fun v => .pure (normal v)

theorem Operators.item_makes : Makes Value.IsNormal (item evaluate site t) := by
  refine .andThen fun _ => .andThen fun _ => .andThen fun sequence => .andThen fun index => ?_
  cases index with
  | none => exact .pure trivial
  | some index =>
      dsimp only
      split
      · exact .pure trivial
      · refine .andThen fun n => ?_
        split
        · exact .pure trivial
        · exact .fail

theorem Operators.isMatch_makes : Makes Value.IsNormal (isMatch evaluate site t) := by
  refine .andThen fun _ => .andThen fun _ => .andThen fun _ => .andThen fun subject =>
    .andThen fun pattern => ?_
  split
  · split
    · split
      · exact .pure trivial
      · exact .andThen fun _ => .pure trivial
      · exact .fail
    · exact .fail
  · exact .pure trivial

theorem Operators.const_makes : Makes Value.IsNormal (const t) := by
  refine .andThen fun _ => ?_
  split
  · exact .pure trivial
  · exact .fail

theorem Operators.extreme_makes (wanted : Ordering) :
    Makes Value.IsNormal (extreme site t wanted) := by
  refine .andThen fun _ => .andThen fun _ => .andThen fun best => ?_
  cases best with
  | none => exact .pure trivial
  | some a => exact .pure trivial

theorem Operators.count_makes : Makes Value.IsNormal (count site t) := by
  refine .andThen fun _ => ?_
  split
  · exact .pure trivial
  · exact .andThen fun _ => .pure trivial

theorem Operators.define_makes : Makes Value.IsNormal (define t) :=
  .andThen fun _ => .andThen fun _ => .andThen fun _ => .andThen fun _ => .andThen fun _ =>
    .andThen fun _ => .pure trivial

theorem Arithmetic.run_makes (a : Arithmetic) : Makes Value.IsNormal (a.run evaluate site t) := by
  refine .andThen fun _ => .andThen fun _ => .andThen fun _ => .andThen fun left =>
    .andThen fun right => ?_
  cases left with
  | none => exact .pure trivial
  | some left =>
      cases right with
      | none => exact .pure trivial
      | some right => exact .andThen fun _ => .pure trivial

/-- **All other operators make their values**: nothing, a scalar, or a truth value. -/
theorem Builtin.run_makes (settings : Settings) {b : Builtin} (own : b.handsOn = false) :
    Makes Value.IsNormal (b.run settings evaluate site t) := by
  cases b with
  | either | previous | nth | first | traced | aggregate => cases own
  | present => exact .andThen fun _ => .andThen fun _ => .andThen fun _ => .pure trivial
  | absent => exact .andThen fun _ => .andThen fun _ => .andThen fun _ => .pure trivial
  | isNil => exact Operators.ofOperand_makes evaluate site t _ fun _ => trivial
  | item => exact Operators.item_makes evaluate site t
  | unique => exact .andThen fun _ => .andThen fun _ => .andThen fun _ => .pure trivial
  | many => exact Operators.ofOperand_makes evaluate site t _ fun _ => trivial
  | one => exact Operators.ofOperand_makes evaluate site t _ fun _ => trivial
  | size => exact Operators.ofOperand_makes evaluate site t _ fun _ => trivial
  | kind => exact Operators.ofOperand_makes evaluate site t _ fun _ => trivial
  | assign =>
      exact .andThen fun _ => .andThen fun _ => .andThen fun _ => .andThen fun _ => .pure trivial
  | isMatch => exact Operators.isMatch_makes evaluate site t
  | define => exact Operators.define_makes t
  | undefine => exact .andThen fun _ => .andThen fun _ => .andThen fun _ => .pure trivial
  | least => exact Operators.extreme_makes site t .lt
  | greatest => exact Operators.extreme_makes site t .gt
  | count => exact Operators.count_makes site t
  | sum => exact .andThen fun _ => .andThen fun _ => .pure trivial
  | const => exact Operators.const_makes t
  | compare c =>
      exact .andThen fun _ => .andThen fun _ => .andThen fun _ => .andThen fun _ => .pure trivial
  | arithmetic a => exact a.run_makes evaluate site t
  | and => exact .andThen fun _ => .andThen fun _ => .pure trivial
  | or => exact .andThen fun _ => .andThen fun _ => .pure trivial
  | not => exact Operators.ofOperand_makes evaluate site t _ fun _ => trivial

end

/-! ## Normal states -/

/-- Terms may name anything, and `prev` may remember normal values. -/
def Vocabulary.normal : Vocabulary where
  remembered := Value.IsNormal

theorem Term.usesOnly_normal (t : Term) : t.UsesOnly .normal :=
  t.usesOnly_of_all (fun _ => trivial) fun _ => trivial

/-- All operators are defined by terms, which remember normal values. -/
structure Registry.IsNormal (r : Registry) : Prop where
  free : r.IsNativeFree
  bodies : r.UsesOnly .normal

structure World.IsNormal (w : World) : Prop where
  fact : w.fact.IsNormal
  registry : w.registry.IsNormal

/-- The term that is evaluated remembers normal values, too. -/
structure State.IsNormal (t : Term) (s : State) : Prop where
  memory : s.memory.UsesOnly .normal t
  world : s.world.IsNormal

theorem World.normalFact_lasting {appends : String → Prop} {operators : Builtin → Prop} :
    Lasting (fun w w' => w.fact.IsNormal → w'.fact.IsNormal) appends operators where
  refl _ := id
  trans first second := second ∘ first
  note _ _ _ := id
  append _ appended normal := normal.append appended
  define _ made := fact_of_define made ▸ id
  undefine _ done := fact_of_undefine done ▸ id
  against _ := id

namespace Act.Gives

variable {t : Term} {α : Type} {P : α → Prop}

/-- An act that keeps to normal values keeps a normal state. -/
theorem of_within {act : Unit → Act α}
    (within : KeepsWithin .normal (fun w w' => (w.fact.IsNormal → w'.fact.IsNormal) ∧
      (w.registry.IsNativeFree → w'.registry.IsNativeFree)) t α act) :
    Gives (State.IsNormal t) (fun _ => True) (act ()) := by
  rintro s ⟨memory, fact, free, bodies⟩
  obtain ⟨after, normal, nativeFree⟩ := within s ⟨memory, bodies⟩
  exact ⟨⟨after.memory, normal fact, nativeFree free, after.registry⟩, fun _ _ => trivial⟩

/-- An act that leaves the state as it is. -/
theorem of_still {J : State → Prop} {act : Act α} (still : ∀ s, (act s).2 = s)
    (given : ∀ s a, J s → (act s).1 = .ok a → P a) : Gives J P act :=
  fun s before => ⟨(still s).symm ▸ before, fun a => given s a before⟩

theorem fact : Gives (State.IsNormal t) Fact.IsNormal Act.fact :=
  .of_still (fun _ => rfl) fun s x before same => by cases same; exact before.world.fact

/-- What is done against a fact that is normal. -/
theorem withFact {x : Fact} (normal : x.IsNormal) {act : Act α}
    (inside : Gives (State.IsNormal t) P act) :
    Gives (State.IsNormal t) P (Act.withFact x act) := by
  rintro s ⟨memory, fact, free, bodies⟩
  obtain ⟨⟨memory', -, free', bodies'⟩, given⟩ :=
    inside { s with world := { s.world with fact := x } } ⟨memory, normal, free, bodies⟩
  exact ⟨⟨memory', fact, free', bodies'⟩, given⟩

/-- A carried term, evaluated on its own memory. -/
theorem atChild {p : Nat} {c : Term} (carried : (t.operand? p).bind Operand.carried? = some c)
    {act : Act α} (inside : Gives (State.IsNormal c) P act) :
    Gives (State.IsNormal t) P (Act.atChild p act) := by
  rintro s ⟨memory, world⟩
  obtain ⟨⟨memory', world'⟩, given⟩ :=
    inside { s with memory := s.memory.child p } ⟨memory.child carried, world⟩
  exact ⟨⟨memory.setChild carried memory', world'⟩, given⟩

end Act.Gives

/-! ## Evaluations -/

section

open Act

variable {evaluate : Evaluator} {rows : List Row} {depth : Nat} {t : Term}
  (inside : ∀ c, Gives (State.IsNormal c) Value.IsNormal (evaluate ⟨rows, depth + 1⟩ c))
include inside

theorem counterparts_normal (t : Term) :
    Counterparts (fun α (act : Unit → Act α) => Gives (State.IsNormal t) (fun _ => True) (act ()))
      (fun _ => evaluate.over rows) (fun _ => depth) fun _ => t :=
  .ofTerm (fun _ c carried _ => (Gives.atChild carried (inside c)).imp fun _ _ => trivial)
    (fun _ _ _ => ⟨.of_still (fun _ => rfl) fun _ _ _ _ => trivial,
      .of_still (fun _ => rfl) fun _ _ _ _ => trivial⟩)
    (fun _ => .fail) fun _ _ => .fail

/-- The value of an operand is normal before it is given its other shape. -/
theorem resolve_gives (p : Nat) :
    Gives (State.IsNormal t) (fun v => v.unwrapped.IsNormal)
      (resolve evaluate ⟨rows, depth⟩ t p) := by
  unfold resolve
  cases at_ : t.operand? p with
  | none => exact .fail
  | some o =>
      cases o with
      | nested c =>
          have carried : (t.operand? p).bind Operand.carried? = some c := by rw [at_]; rfl
          refine (Gives.atChild carried (inside c)).bind fun v normal => .pure ?_
          rw [normal.unwrapped_normalized]
          exact normal
      | literal a => exact .pure trivial
      | field name =>
          refine Gives.fact.bind fun x normal => .pure ?_
          rw [(normal name).unwrapped_normalized]
          exact normal name
      | placeholder i => exact .fail

/-- Steps that come before a value, if that value is normal whatever they give. -/
theorem checkArity_gives {f : Unit → Act Value} {expected : Arity}
    (next : Gives (State.IsNormal t) Value.IsNormal (f ())) :
    Gives (State.IsNormal t) Value.IsNormal (checkArity t expected >>= f) := by
  have arity : Gives (State.IsNormal t) (fun _ => True) (checkArity t expected) :=
    checkArity_closed (Gives.composes _) (counterparts_normal inside t) expected
  exact arity.bind fun _ _ => next

omit inside in
theorem fieldName_gives {f : String → Act Value} {p : Nat}
    (next : ∀ name, Gives (State.IsNormal t) Value.IsNormal (f name)) :
    Gives (State.IsNormal t) Value.IsNormal (fieldName t p >>= f) := by
  unfold fieldName
  split
  · exact next _
  · exact .fail

namespace Operators

theorem either_gives :
    Gives (State.IsNormal t) Value.IsNormal (either evaluate ⟨rows, depth⟩ t) := by
  refine checkArity_gives inside ((resolve_gives inside 0).bind fun a normal => ?_)
  split
  · exact (resolve_gives inside 1).bind fun b normal => .pure normal
  · exact .pure normal

/-- `prev` gives what it remembers, and remembers the value of its operand. -/
theorem previous_gives :
    Gives (State.IsNormal t) Value.IsNormal (previous evaluate ⟨rows, depth⟩ t) := by
  refine checkArity_gives inside ((resolve_gives inside 0).bind fun v normal => ?_)
  rintro s ⟨memory, world⟩
  refine ⟨⟨memory.setPrevious normal, world⟩, ?_⟩
  rintro _ ⟨⟩
  show (previousOf s.memory.block).IsNormal
  unfold previousOf
  split
  · rename_i block
    exact memory.remembered block
  · trivial

theorem traced_gives (level : Level) :
    Gives (State.IsNormal t) Value.IsNormal (traced evaluate ⟨rows, depth⟩ t level) := by
  have value : Gives (State.IsNormal t) Value.IsNormal (tracedValue evaluate ⟨rows, depth⟩ t) := by
    unfold tracedValue
    split
    · rename_i c at_
      exact .atChild (by rw [at_]; rfl) (inside c)
    · exact (resolve_gives inside 0).bind fun v normal => .pure normal
  refine checkArity_gives inside (value.bind fun v normal => ?_)
  rintro s ⟨memory, world⟩
  exact ⟨⟨memory, world.fact, world.registry⟩, fun _ same => by cases same; exact normal⟩

section

variable (normalRows : ∀ row ∈ rows, row.IsNormal)
include normalRows

theorem first_gives : Gives (State.IsNormal t) Value.IsNormal (first ⟨rows, depth⟩ t) := by
  refine checkArity_gives inside (fieldName_gives fun name => ?_)
  cases rows with
  | nil => exact .pure trivial
  | cons row _ => exact .pure (normalRows row List.mem_cons_self name)

theorem nth_gives :
    Gives (State.IsNormal t) Value.IsNormal (nth evaluate ⟨rows, depth⟩ t) := by
  have L := Gives.composes (State.IsNormal t)
  refine checkArity_gives inside ((resolve_gives inside 0).bind fun v _ => ?_)
  refine (L.single "nth" v).bind fun index _ => ?_
  cases index with
  | none => exact .fail
  | some index =>
      refine (L.integer index).bind fun n _ => fieldName_gives fun name => ?_
      cases found : elementAt? rows n with
      | none => exact .fail
      | some row =>
          refine .pure (normalRows row ?_ name)
          unfold elementAt? at found
          split at found
          · cases found
          · exact List.mem_of_getElem? found

end

end Operators

end

section

open Act

variable {evaluate : Evaluator} {t : Term} (below : ∀ site c, (∀ row ∈ site.rows, row.IsNormal) →
    Gives (State.IsNormal c) Value.IsNormal (evaluate site c))
include below

/-- The selector sees a normal row over a normal fact. -/
theorem Operators.keptRows_gives {site : Site} (normalRows : ∀ row ∈ site.rows, row.IsNormal)
    {selector : Term} (carried : (t.operand? 0).bind Operand.carried? = some selector)
    (rows : List Row) (normal : ∀ row ∈ rows, row.IsNormal) :
    Gives (State.IsNormal t) (fun kept => ∀ row ∈ kept, row.IsNormal)
      (keptRows evaluate site selector rows) := by
  induction rows with
  | nil => exact .pure nofun
  | cons row rest ih =>
      obtain ⟨first, others⟩ := List.forall_mem_cons.1 normal
      refine Gives.fact.bind fun outer normalFact => ?_
      have selected := Gives.atChild carried (below site.deeper selector normalRows)
      refine (selected.withFact (normalFact.overlay first)).bind fun v _ => ?_
      refine (ih others).bind fun kept normalKept => .pure ?_
      split
      · exact List.forall_mem_cons.2 ⟨first, normalKept⟩
      · exact normalKept

theorem Operators.aggregate_gives {site : Site} (normalRows : ∀ row ∈ site.rows, row.IsNormal) :
    Gives (State.IsNormal t) Value.IsNormal (aggregate evaluate site t) := by
  refine checkArity_gives (fun c => below ⟨site.rows, site.depth + 1⟩ c normalRows) ?_
  rcases carriedTerm_cases t 0 with ⟨selector, carried, selecting⟩ | selecting
  rotate_left
  · rw [selecting]
    exact .fail
  rw [selecting]
  refine (keptRows_gives below normalRows carried site.rows normalRows).bind fun kept normal => ?_
  have noted : Gives (State.IsNormal t) (fun _ => True)
      (Act.note (.kept kept.length site.rows.length)) := by
    rintro s ⟨memory, world⟩
    exact ⟨⟨memory, world.fact, world.registry⟩, fun _ _ => trivial⟩
  refine noted.bind fun _ _ => ?_
  rcases carriedTerm_cases t 1 with ⟨value, carried, valued⟩ | valued
  · rw [valued]
    exact .withFact Fact.isNormal_empty (.atChild carried (below _ value normal))
  · rw [valued]
    exact .fail

/-- **What a built-in operator gives is normal**, and it leaves a normal state. -/
theorem Builtin.run_gives (settings : Settings) {b : Builtin} (operator : t.operator = .builtin b)
    {site : Site} (normalRows : ∀ row ∈ site.rows, row.IsNormal) :
    Gives (State.IsNormal t) Value.IsNormal (b.run settings evaluate site t) := by
  have inside (c : Term) := below ⟨site.rows, site.depth + 1⟩ c normalRows
  cases hands : b.handsOn with
  | true =>
      cases b with
      | either => exact Operators.either_gives inside
      | previous => exact Operators.previous_gives inside
      | nth => exact Operators.nth_gives inside normalRows
      | first => exact Operators.first_gives inside normalRows
      | traced => exact Operators.traced_gives inside settings.traceLevel
      | aggregate => exact Operators.aggregate_gives below normalRows
      | _ => cases hands
  | false =>
      -- Its value is normal whatever it finds, so the operands need only keep the state normal.
      have other : b ≠ .aggregate := by rintro rfl; cases hands
      have permitted := KeepsWithin.permitted
        (World.normalFact_lasting.and World.nativeFree_lasting.restrict) t.usesOnly_normal
        settings.traceLevel operator fun is => by subst is; cases hands
      have keeps : Gives (State.IsNormal t) (fun _ => True)
          (b.run settings (evaluate.over site.rows) site t) :=
        Builtin.run_composed (Gives.composes _) (counterparts_normal inside t) settings other
          (permitted.imp Gives.of_within)
      have same := @Builtin.run_over .whole evaluate site.rows site.rows site.depth t
        (Row.AgreeOn.forall₂_refl _ _) (t.usesOnly_of_all (fun _ => trivial) fun _ => trivial)
        settings b other
      exact .made (same ▸ keeps) (run_makes evaluate site t settings hands)

/-- A body runs on a memory of its own, in the same world. -/
theorem Definition.run_gives {d : Definition} {body : Instance} (isBody : d.body = .expression body)
    (inside : body.UsesOnly .normal) {site : Site} (normalRows : ∀ row ∈ site.rows, row.IsNormal) :
    Gives (State.IsNormal t) Value.IsNormal (d.run evaluate site t) := by
  rintro s ⟨memory, fact, free, bodies⟩
  cases admitted : d.arity.admits t.arity with
  | false =>
      rw [run_refused admitted]
      exact ⟨⟨memory, fact, free, bodies⟩, nofun⟩
  | true =>
      have ⟨term', filled⟩ := d.expansionFor_usesOnly t.usesOnly_normal memory inside
      have entered : State.IsNormal (d.expansionFor body t s.memory).term
          ⟨(d.expansionFor body t s.memory).memory, d.worldFor t s.memory s.world⟩ := by
        refine ⟨filled, ?_, ?_, ?_⟩
        · rw [d.fact_worldFor]
          exact fact
        · rw [d.registry_worldFor]
          exact free
        · rw [d.registry_worldFor]
          exact bodies
      obtain ⟨after, given⟩ := below site.deeper _ normalRows _ entered
      rw [run_expression isBody admitted]
      exact ⟨⟨memory.setExpansion term' after.memory d.generation, after.world⟩, given⟩

/-- **One step gives a normal value and leaves a normal state**, if the evaluations below do. -/
theorem dispatch_gives (settings : Settings) {site : Site}
    (normalRows : ∀ row ∈ site.rows, row.IsNormal) :
    Gives (State.IsNormal t) Value.IsNormal (dispatch settings evaluate site t) := by
  rintro s ⟨memory, fact, free, bodies⟩
  have entered : State.IsNormal t ⟨s.memory, s.world.note (.dispatched site.depth t)⟩ :=
    ⟨memory, fact, free, bodies⟩
  cases operator : t.operator with
  | builtin b =>
      cases hosted : s.world.registry.hosts b with
      | false =>
          rw [dispatch_unhosted operator hosted]
          exact ⟨entered, nofun⟩
      | true =>
          rw [dispatch_builtin operator hosted]
          exact (Builtin.run_gives below settings operator normalRows).mapError _ _ entered
  | custom name =>
      cases found : s.world.registry.lookup? name with
      | none =>
          rw [dispatch_undefined operator found]
          exact ⟨entered, nofun⟩
      | some d =>
          have member := Registry.mem_of_lookup? found
          obtain ⟨body, isBody⟩ := free d member
          rw [dispatch_custom operator found]
          exact (Definition.run_gives below isBody (bodies d member body isBody)
            normalRows).mapError _ _ entered

end

/-- **Evaluations give normal values**, and leave normal states, also when they fail. -/
theorem evalAt_gives (settings : Settings) : ∀ levels site t, (∀ row ∈ site.rows, row.IsNormal) →
    Act.Gives (State.IsNormal t) Value.IsNormal (evalAt settings levels site t)
  | 0, _, _, _ => .fail
  | levels + 1, _, _, normalRows =>
      dispatch_gives (fun site c => evalAt_gives settings levels site c) settings normalRows

end FactScan
