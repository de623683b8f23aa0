/-
# FactScan.Proofs.Tracing.InStep — three runs side by side

A term is run three times: as it is, under marks, and with `traced` in their place.  The second
and the third run keep in step with the first (`Act.InStep`) if, whenever it succeeds, they give
the same value and leave worlds that differ only in their logs, the first two with the same
memory, the third with a related one, and the records that terms ask for are aligned
(`Record.Aligned`).

That is closed under what operators do with their operands (`Act.InStep.closed`), and all single
steps have it (`Act.InStep.permitted`), so a step of evaluation has it as far as the operands do:
`Act.InStep.dispatch_builtin` for terms whose operands correspond, `Act.InStep.dispatch_same` for
one term in all three runs.
-/
import FactScan.Proofs.Tracing.Watching

namespace FactScan

set_option autoImplicit false

/-! ## Three runs -/

inductive Run where
  | plain | watched | traced

/-- What a run has around the operands at the spots. -/
def Run.wrap : Run → Term → Term
  | .plain => id
  | .watched => Term.watchedOf
  | .traced => Term.tracedOf

/-- Something of its own for the run with `traced` put in. -/
def Run.apart {α : Type} (own : α) (others : Run → α) : Run → α
  | .traced => own
  | i => others i

/-- The records of an operand at a spot: of its mark, and of `traced`. -/
def Run.noted (level : Level) (S : Spots) (u : Term) (v : Value) : Run → List Record
  | .plain => []
  | .watched => [.traced level (u.wrapped .watchedOf S).watchedOf v]
  | .traced => [.traced level (u.wrapped .tracedOf S).tracedOf v]

/-- The states of three runs, whose worlds differ in the logs. -/
structure Runs where
  memory : Run → Memory
  world : World
  log : Run → List Record

def Runs.state (j : Runs) (i : Run) : State := ⟨j.memory i, j.world.withLog (j.log i)⟩

/-- Logs that have grown from one start by records that are aligned. -/
def Runs.Logs (start : List Record) (log : Run → List Record) : Prop :=
  ∃ new : Run → List Record, (∀ i, log i = new i ++ start) ∧
    Record.Aligned ((new .plain).filter (·.isTraced)) ((new .watched).filter (·.isTraced))
      ((new .traced).filter (·.isTraced))

namespace Runs.Logs

variable {start : List Record} {log : Run → List Record}

theorem refl (start : List Record) : Logs start fun _ => start :=
  ⟨fun _ => [], fun _ => rfl, .none⟩

/-- Records that no term asks for. -/
theorem quiet (logs : Logs start log) (more : Run → List Record)
    (untraced : ∀ i, (more i).filter (·.isTraced) = []) : Logs start fun i => more i ++ log i := by
  obtain ⟨new, grown, aligned⟩ := logs
  refine ⟨fun i => more i ++ new i, fun i => ?_, ?_⟩
  · dsimp only
    rw [grown i, List.append_assoc]
  · simpa [List.filter_append, untraced] using aligned

/-- A record that a term asks for in all three runs. -/
theorem own (logs : Logs start log) (level : Level) (S : Spots) (t : Term) (v : Value) :
    Logs start fun i => .traced level (t.wrapped i.wrap S) v :: log i := by
  obtain ⟨new, grown, aligned⟩ := logs
  refine ⟨fun i => .traced level (t.wrapped i.wrap S) v :: new i, fun i => ?_, ?_⟩
  · dsimp only
    rw [grown i, List.cons_append]
  · have next := aligned.own level S t v
    simpa [Record.isTraced, Run.wrap] using next

/-- The records of an operand at a spot. -/
theorem spot (logs : Logs start log) (level : Level) (S : Spots) (u : Term) (v : Value) :
    Logs start fun i => i.noted level S u v ++ log i := by
  obtain ⟨new, grown, aligned⟩ := logs
  refine ⟨fun i => i.noted level S u v ++ new i, fun i => ?_, aligned.spot level S u v⟩
  dsimp only
  rw [grown i, List.append_assoc]

/-- What is read off the logs of worlds that have grown from one. -/
theorem aligned {w w' : World} (logs : Logs w.log log) :
    Record.Aligned (w.tracedSince (w'.withLog (log .plain)))
      (w.tracedSince (w'.withLog (log .watched))) (w.tracedSince (w'.withLog (log .traced))) := by
  obtain ⟨new, grown, aligned⟩ := logs
  have shown (i : Run) : w.tracedSince (w'.withLog (log i)) = (new i).filter (·.isTraced) := by
    have since : w.since (w'.withLog (log i)) = new i := World.since_eq (grown i)
    rw [World.tracedSince, since]
  rw [shown, shown, shown]
  exact aligned

end Runs.Logs

/-- Three runs with aligned logs in a world that hosts `traced`.  The first two remember the same,
the third something related. -/
structure Runs.Related (start : List Record) (R : Memory → Memory → Prop) (j : Runs) : Prop where
  memories : R (j.memory .plain) (j.memory .traced)
  watched : j.memory .watched = j.memory .plain
  hosted : j.world.registry.hosts .traced = true
  logs : Logs start j.log

/-- What related memories have in common, all three runs have. -/
theorem Runs.Related.agree {start : List Record} {R : Memory → Memory → Prop} {j : Runs}
    (related : j.Related start R) {α : Type} (f : Memory → α)
    (common : ∀ m m', R m m' → f m = f m') (i : Run) : f (j.memory i) = f (j.memory .plain) := by
  cases i with
  | plain => rfl
  | watched => rw [related.watched]
  | traced => exact (common _ _ related.memories).symm

theorem Runs.Related.memory_eq {start : List Record} {j : Runs} (related : j.Related start Eq)
    (i : Run) : j.memory i = j.memory .plain :=
  related.agree id (fun _ _ => id) i

/-- The three acts keep in step: if the first succeeds the others do, with the same result. -/
def Act.InStep (start : List Record) (R : Memory → Memory → Prop) (α : Type)
    (act : Run → Act α) : Prop :=
  ∀ j : Runs, j.Related start R → ∀ a : α, (act .plain (j.state .plain)).1 = .ok a →
    ∃ j' : Runs, j'.Related start R ∧ ∀ i, act i (j.state i) = (.ok a, j'.state i)

namespace Act.InStep

variable {start : List Record} {R R' : Memory → Memory → Prop} {α β : Type}

/-- An act that fails in the first run. -/
theorem of_failing {act : Run → Act α} (failing : ∀ s, ∃ e, (act .plain s).1 = .error e) :
    InStep start R α act := by
  intro j _ a ran
  obtain ⟨e, failed⟩ := failing (j.state .plain)
  rw [failed] at ran
  cases ran

theorem fail (e : EvalError) : InStep start R α fun _ => Act.fail e :=
  of_failing fun _ => ⟨e, rfl⟩

/-- An act that does nothing, but to look at the fact. -/
theorem of_still {act : Run → Act α} {r : Fact → Except EvalError α}
    (still : ∀ i s, act i s = (r s.world.fact, s)) : InStep start R α act := by
  intro j related a ran
  rw [still] at ran
  refine ⟨j, related, fun i => ?_⟩
  rw [still]
  exact Prod.ext ran rfl

/-- What is done against another fact. -/
theorem withFact {act : Run → Act α} (step : InStep start R α act) (fact : Fact → Fact) :
    InStep start R α fun i s => Act.withFact (fact s.world.fact) (act i) s := by
  intro j related a ran
  obtain ⟨j', related', run⟩ := step
    { j with world := { j.world with fact := fact j.world.fact } } { related with } a ran
  refine ⟨{ j' with world := { j'.world with fact := j.world.fact } }, { related' with },
    fun i => ?_⟩
  exact (withFact_apply _ (act i) (j.state i)).trans
    (congrArg (fun r => (r.1, State.mk r.2.memory { r.2.world with fact := j.world.fact })) (run i))

/-- What is done for the operand at a position. -/
theorem atChild {act : Run → Act α} {p : Nat} (carries : Memory.Carries R R' p)
    (step : InStep start R' α act) : InStep start R α fun i => Act.atChild p (act i) := by
  intro j related a ran
  obtain ⟨j', related', run⟩ := step { j with memory := fun i => (j.memory i).child p }
    { related with
      memories := carries.child related.memories
      watched := congrArg (Memory.child · p) related.watched } a ran
  refine ⟨{ j' with memory := fun i => (j.memory i).setChild p (j'.memory i) },
    { related' with
      memories := carries.setChild related.memories related'.memories
      watched := by
        dsimp only
        rw [related.watched, related'.watched] },
    fun i => ?_⟩
  exact (atChild_apply p (act i) (j.state i)).trans
    (congrArg (fun r => (r.1, State.mk ((j.memory i).setChild p r.2.memory) r.2.world)) (run i))

/-- What is done for an expansion, in runs that remember the same. -/
theorem inExpansion {act : Run → Act α} (step : InStep start Eq α act) (generation : Nat)
    (body : Term) (m : Memory) :
    InStep start Eq α fun i => Act.inExpansion generation body m (act i) := by
  intro j related a ran
  obtain ⟨j', related', run⟩ := step { j with memory := fun _ => m }
    { related with
      memories := rfl
      watched := rfl } a ran
  let kept (i : Run) : Memory :=
    (j.memory i).setBlock (some (.expansion generation body (j'.memory i)))
  have same (i : Run) : kept i = kept .plain := by
    dsimp only [kept]
    rw [related.memory_eq i, related'.memory_eq i]
  refine ⟨{ j' with memory := kept },
    { related' with
      memories := (same .traced).symm
      watched := same .watched }, fun i => ?_⟩
  exact (inExpansion_apply generation body m (act i) (j.state i)).trans
    (congrArg (fun r => (r.1, State.mk
      ((j.memory i).setBlock (some (.expansion generation body r.2.memory))) r.2.world)) (run i))

theorem closed : Closed (InStep start R) where
  pure a := .of_still (r := fun _ => .ok a) fun _ _ => rfl
  fail _ := .fail _
  bind {_ _ act f} first next := by
    intro j related b ran
    rcases bind_cases (act .plain) (f .plain) (j.state .plain) with
      ⟨a, s, done, rest⟩ | ⟨e, s, _, failed⟩
    · obtain ⟨j₁, related₁, run₁⟩ := first j related a (congrArg Prod.fst done)
      cases done.symm.trans (run₁ .plain)
      dsimp only at ran
      rw [rest] at ran
      obtain ⟨j₂, related₂, run₂⟩ := next a j₁ related₁ b ran
      exact ⟨j₂, related₂, fun i => (bind_ok (run₁ i) (f i)).trans (run₂ i)⟩
    · dsimp only at ran
      rw [failed] at ran
      cases ran
  overlay row _ step := step.withFact (.overlay row)
  vacant step := step.withFact fun _ => .empty

theorem looks (field : String) : Looks (InStep start R) field where
  read := .of_still (r := fun x => .ok (x.read field)) fun _ _ => rfl
  holds := .of_still (r := fun x => .ok (x.holds field)) fun _ _ => rfl

theorem mapError {act : Run → Act α} (step : InStep start R α act)
    (f : Run → EvalError → EvalError) : InStep start R α fun i => Act.mapError (f i) (act i) := by
  intro j related a ran
  obtain ⟨s, ran⟩ : ∃ s, Act.mapError (f .plain) (act .plain) (j.state .plain) = (.ok a, s) :=
    ⟨_, Prod.ext ran rfl⟩
  obtain ⟨j', related', run⟩ := step j related a (congrArg Prod.fst (mapError_ok.1 ran))
  exact ⟨j', related', fun i => mapError_ok.2 (run i)⟩

/-- Records that no term asks for. -/
theorem note (r : Run → Record) (untraced : ∀ i, (r i).isTraced = false) :
    InStep start R Unit fun i => Act.note (r i) := by
  intro j related a _
  exact ⟨{ j with log := fun i => r i :: j.log i },
    { related with logs := related.logs.quiet (fun i => [r i]) (by simpa using untraced) },
    fun _ => rfl⟩

/-- The record of a term of its own. -/
theorem noteOwn (level : Level) (S : Spots) (t : Term) (v : Value) :
    InStep start R Unit fun i => Act.note (.traced level (t.wrapped i.wrap S) v) := by
  intro j related a _
  exact ⟨{ j with log := fun i => .traced level (t.wrapped i.wrap S) v :: j.log i },
    { related with logs := related.logs.own level S t v }, fun _ => rfl⟩

/-- An act that is one that keeps in step, on these states. -/
theorem transfer {act act' : Run → Act α} (step : InStep start R α act') {j : Runs}
    (related : j.Related start R) (same : ∀ i, act i (j.state i) = act' i (j.state i)) {a : α}
    (ran : (act .plain (j.state .plain)).1 = .ok a) :
    ∃ j' : Runs, j'.Related start R ∧ ∀ i, act i (j.state i) = (.ok a, j'.state i) := by
  rw [same] at ran
  obtain ⟨j', related', run⟩ := step j related a ran
  exact ⟨j', related', fun i => (same i).trans (run i)⟩

/-! ### Steps of operators -/

/-- An act that asks for the block and puts another in its place. -/
theorem of_block (tied : Memory.Tied R) {act : Act α} (result : Option Block → α)
    (next : Option Block → Option Block)
    (run : ∀ s, act s = (.ok (result s.memory.block),
      { s with memory := s.memory.setBlock (next s.memory.block) })) :
    InStep start R α fun _ => act := by
  intro j related a ran
  dsimp only at ran ⊢
  have same := related.agree Memory.block fun _ _ => tied.block
  let b := next (j.memory .plain).block
  refine ⟨{ j with memory := fun i => (j.memory i).setBlock b },
    { related with
      memories := tied.setBlock b related.memories
      watched := congrArg (Memory.setBlock · b) related.watched }, fun i => ?_⟩
  rw [run] at ran ⊢
  cases ran
  dsimp only [Runs.state]
  rw [same i]

/-- A change of the world that does not look at the log, in which it leaves records that no term
asks for. -/
theorem change {f : World → Except EvalError World}
    (made : ∀ w w', f w = .ok w' → w'.registry.hosted = w.registry.hosted ∧
      ∃ more : List Record, more.filter (·.isTraced) = [] ∧
        ∀ log, f (w.withLog log) = .ok (w'.withLog (more ++ log))) :
    InStep start R Unit fun _ => Act.change f := by
  intro j related a ran
  dsimp only at ran ⊢
  cases first : f (j.state .plain).world with
  | error e =>
      rw [change_error first] at ran
      cases ran
  | ok w =>
      obtain ⟨hosted, more, untraced, others⟩ := made _ _ first
      refine ⟨{ j with world := w, log := fun i => more ++ j.log i },
        { related with
          hosted := ?_
          logs := related.logs.quiet (fun _ => more) fun _ => untraced }, fun i => ?_⟩
      · have before := related.hosted
        unfold Registry.hosts at before ⊢
        rw [← before]
        exact congrArg (List.contains · Builtin.traced) hosted
      · exact change_ok (s := j.state i) (others (j.log i))

theorem append (field : String) (a : Scalar) :
    InStep start R Unit fun _ => Act.append field a := by
  intro j related _ ran
  have fact (i : Run) : (j.state i).world.fact = j.world.fact := rfl
  dsimp only at ran ⊢
  unfold Act.append at ran ⊢
  cases appended : j.world.fact.append? field a with
  | none =>
      rw [fact, appended] at ran
      cases ran
  | some longer =>
      refine ⟨{ j with world := { j.world with fact := longer } }, { related with }, fun i => ?_⟩
      dsimp only
      rw [fact, appended]
      rfl

theorem undefine (name : String) :
    InStep start R Unit fun _ => Act.change fun w => (w.undefine name).map (·.1) := by
  refine change fun w w' made => ?_
  rw [World.undefine_apply] at made
  cases reserved : Builtin.ofName? name with
  | some b =>
      rw [reserved] at made
      cases made
  | none =>
      rw [reserved] at made
      cases made
      refine ⟨by rw [World.registry_removing], ?_⟩
      refine ⟨if (w.registry.lookup? name).isSome then [.undefined name] else [], ?_, ?_⟩
      · split <;> rfl
      · intro log
        rw [World.undefine_apply, reserved]
        dsimp only [Except.map]
        unfold World.removing
        dsimp only
        rw [show (w.withLog log).registry = w.registry from rfl]
        split <;> rfl

/-- Defining an operator by a body whose memory is the same in all runs. -/
theorem register (carries : Memory.Carries R Eq 1) (name : String) (body : Term) :
    InStep start R Value fun _ s => (do
      let d ← Act.ofExcept (Definition.make name ⟨body, s.memory.child 1⟩)
      Act.change (·.define d)
      return .boolean true : Act Value) s := by
  rcases Definition.make_cases name body with ⟨-, make⟩ | ⟨-, make⟩
  rotate_left
  · exact of_failing fun s => ⟨.abort "attempt to add with overflow", by rw [make]; rfl⟩
  simp only [make]
  show InStep start R Value fun _ s => (do
    Act.change (·.define (.ofTerm name ⟨body, s.memory.child 1⟩))
    return .boolean true : Act Value) s
  intro j related a ran
  let k := (j.memory .plain).child 1
  have same := related.agree (Memory.child · 1) fun _ _ => carries.child
  have define : InStep start R Unit fun _ => Act.change (·.define (.ofTerm name ⟨body, k⟩)) := by
    refine change fun w w' made => ⟨?_, [.defined (.ofTerm name ⟨body, k⟩)], rfl, fun log => ?_⟩
    · obtain ⟨-, -, rfl⟩ := World.define_eq_ok.1 made
      rfl
    · rcases w.define_withLog log (.ofTerm name ⟨body, k⟩) with
        ⟨e, failed, -⟩ | ⟨done, done'⟩
      · rw [failed] at made
        cases made
      · cases done.symm.trans made
        exact done'
  refine (closed.bind define fun _ => closed.pure (.boolean true)).transfer related
    (fun i => ?_) ran
  rw [show (j.state i).memory = j.memory i from rfl, same i]

section

variable {evaluate : Run → Evaluator} {depth : Run → Nat} {t : Run → Term}

theorem define (C : Counterparts (InStep start R) evaluate depth t)
    (kept : ∀ i, (t i).operand? 1 = (t .plain).operand? 1)
    (carries : ∀ o, (t .plain).operand? 1 = some o → Memory.Carries R Eq 1) :
    InStep start R Value fun i => Operators.define (t i) := by
  have L : Closed (InStep start R) := closed
  unfold Operators.define
  refine L.bind (checkArity_closed L.toComposes C _) fun _ => ?_
  refine L.bind (symbol_closed L.toComposes C 0) fun name => ?_
  rcases carriedTerm_cases (t .plain) 1 with ⟨body, carried, -⟩ | refused
  · obtain ⟨o, operand, -⟩ := Option.bind_eq_some_iff.1 carried
    have found (i : Run) : carriedTerm (t i) 1 = pure body :=
      carriedTerm_of_carried (by rw [kept i, carried])
    simp only [found]
    exact register (carries o operand) name body
  · refine of_failing fun s => ⟨.wrongOperand (t .plain) 1 "term", ?_⟩
    rw [refused]
    rfl

end

/-- The steps that only some operators take, on terms of which one is the others with operands
wrapped up. -/
theorem permitted (tied : Memory.Tied R) {S : Spots} {t : Term} {b : Builtin} (level : Level)
    (define : b = .define → InStep start R Value fun i => Operators.define (t.wrapped i.wrap S)) :
    b.Permitted (InStep start R) level fun i => t.wrapped i.wrap S where
  exchange _ v := of_block tied Operators.previousOf (fun _ => some (.previous v)) fun _ => rfl
  collect _ keys := of_block tied
    (fun b => keys.all fun key => !(Operators.seenOf b).contains key)
    (fun b => some (.seen (keys.foldl Operators.insertKey (Operators.seenOf b)))) fun _ => rfl
  pattern _ source := by
    cases compiled : Pattern.ofSource source with
    | ok p =>
        refine of_block tied (fun _ => p) (fun _ => some (.pattern p)) fun s => ?_
        rw [Operators.patternOf_eq, compiled]
    | error e =>
        refine of_failing fun s => ⟨.invalidPattern source e.message, ?_⟩
        rw [Operators.patternOf_eq, compiled]
  append _ field _ a := append field a
  define := define
  undefine _ name := undefine name
  kept _ k n := note _ fun _ => rfl
  traced _ v := noteOwn level S t v

end Act.InStep

/-! ## Steps of evaluation -/

namespace Act.InStep

variable {start : List Record} {R : Memory → Memory → Prop} {rows : List Row}

/-- A step of evaluation of terms of one built-in operator, whose operands correspond. -/
theorem dispatch_builtin {settings : Run → Settings} {level : Level}
    (logged : ∀ i, (settings i).traceLevel = level) {evaluate : Run → Evaluator}
    {depth : Run → Nat} {t : Run → Term} {b : Builtin}
    (operator : ∀ i, (t i).operator = .builtin b)
    (C : Counterparts (InStep start R) evaluate depth t)
    (P : b.Permitted (InStep start R) level t) :
    InStep start R Value fun i => dispatch (settings i) (evaluate i) ⟨rows, depth i⟩ (t i) := by
  intro j related a ran
  have hosted : j.world.registry.hosts b = true :=
    hosts_of_dispatch (s := j.state .plain) (operator .plain) (Prod.ext ran rfl)
  rw [← logged .plain] at P
  have run : InStep start R Value fun i =>
      b.run (settings .plain) (evaluate i) ⟨rows, depth i⟩ (t i) :=
    Builtin.run_closed closed C (settings .plain) b P
  refine (closed.bind (note (fun i => .dispatched (depth i) (t i)) fun _ => rfl)
    fun _ => run.mapError fun i => (·.leaving ⟨rows, depth i⟩ (t i))).transfer related
      (fun i => ?_) ran
  rw [FactScan.dispatch_builtin (operator i) hosted,
    Builtin.run_settings ((logged i).trans (logged .plain).symm)]
  rfl

/-- The operands of one term, in runs that remember the same. -/
theorem counterparts_same {evaluate : Run → Evaluator}
    (below : ∀ rows (depth : Run → Nat) c,
      InStep start Eq Value fun i => evaluate i ⟨rows, depth i⟩ c)
    (depth : Run → Nat) (c : Term) :
    Counterparts (InStep start Eq) evaluate depth fun _ => c :=
  .ofTerm (fun p u _ rows => (below rows (fun i => depth i + 1) u).atChild (Memory.carries_eq p))
    (fun _ name _ => looks name) (fun _ => .fail _) fun _ _ => .fail _

/-- The operands of a term with some of them wrapped up: data is the same in all runs, nested
terms correspond if their evaluations do. -/
theorem counterparts_wrapped {evaluate : Run → Evaluator} {op : Operator}
    {operands : List Operand} {S : Spots}
    (data : ∀ rows (depth : Run → Nat) c,
      InStep start Eq Value fun i => evaluate i ⟨rows, depth i⟩ c)
    (nested : ∀ (p : Nat) (u : Term), operands[p]? = some (.nested u) →
      op.keepsBody p = false → ∀ rows (depth : Run → Nat), InStep start
        (fun m m' => Memory.Mirrors (S.under p) u m (if S [p] then m'.child 0 else m')) Value
        fun i => evaluate i ⟨rows, depth i⟩
          (if S [p] then i.wrap (u.wrapped i.wrap (S.under p))
            else u.wrapped i.wrap (S.under p)))
    (depth : Run → Nat) :
    Counterparts (InStep start (Memory.Mirrors S (.mk op operands))) evaluate depth
      fun i => (Term.mk op operands).wrapped i.wrap S where
  arity := ⟨operands.length, fun _ => Term.arity_wrapped _⟩
  wrongArity _ := of_failing fun _ => ⟨_, rfl⟩
  wrongOperand _ _ := of_failing fun _ => ⟨_, rfl⟩
  operand p := by
    cases found : operands[p]? with
    | none => exact .missing fun _ => Term.operand?_wrapped_none found
    | some o =>
        rcases o.data_or_entered p with isData | ⟨u, rfl, entered⟩
        · have at_ (i : Run) : ((Term.mk op operands).wrapped i.wrap S).operand? p = some o :=
            Term.operand?_wrapped_data found isData
          have carries : Memory.Carries (Memory.Mirrors S (.mk op operands)) Eq p :=
            Memory.Mirrors.carries_data found isData
          have inside (c : Term) (rows : List Row) :=
            (data rows (fun i => depth i + 1) c).atChild carries
          cases o with
          | literal a => exact .literal a at_ fun c rows _ => inside c rows
          | field name => exact .field name at_ (looks name)
          | placeholder n => exact .placeholder n at_
          | nested u => exact .nested (fun _ => u) at_ (inside u)
        · refine .nested _ (fun _ => Term.operand?_wrapped_nested found entered) fun rows => ?_
          exact (nested p u found entered rows fun i => depth i + 1).atChild
            (Memory.Mirrors.carries_nested found entered)

/-- A call of a custom operator, in runs that remember the same. -/
theorem definition_run {evaluate : Run → Evaluator}
    (below : ∀ rows (depth : Run → Nat) c,
      InStep start Eq Value fun i => evaluate i ⟨rows, depth i⟩ c)
    (d : Definition) (depth : Run → Nat) (c : Term) :
    InStep start Eq Value fun i => d.run (evaluate i) ⟨rows, depth i⟩ c := by
  cases admitted : d.arity.admits c.arity with
  | false =>
      exact of_failing fun s => ⟨_, congrArg Prod.fst (Definition.run_refused admitted _ _ s)⟩
  | true =>
      cases isBody : d.body with
      | native run =>
          simp only [Definition.run_native isBody admitted]
          have args : InStep start Eq (List Value) fun i =>
              resolveAll (evaluate i) ⟨rows, depth i⟩ c c.positions :=
            resolveAll_closed closed.toComposes (counterparts_same below depth c) c.positions
          refine closed.bind args fun args => ?_
          refine of_still (r := fun fact => run args fact rows) fun i s => ?_
          show Act.ofExcept (run args s.world.fact rows) s = _
          cases run args s.world.fact rows <;> rfl
      | expression body =>
          intro j related a ran
          obtain ⟨m, same⟩ : ∃ m, ∀ i, (j.state i).memory = m := ⟨_, related.memory_eq⟩
          let e := d.expansionFor body c m
          have call : InStep start Eq Value fun i =>
              Act.inExpansion d.generation e.term e.memory
                (evaluate i ⟨rows, depth i + 1⟩ e.term) :=
            (below rows (fun i => depth i + 1) e.term).inExpansion d.generation e.term e.memory
          have opened (i : Run) : d.expansionFor body c (j.state i).memory = e := by rw [same i]
          have entered (i : Run) : d.worldFor c (j.state i).memory = d.worldFor c m := by
            rw [same i]
          -- The body is kept or filled in alike; only a new one is logged.
          cases kept : d.isKept m with
          | true =>
              refine call.transfer related (fun i => ?_) ran
              rw [Definition.run_expression isBody admitted, opened, entered,
                Definition.worldFor, kept]
              rfl
          | false =>
              refine (closed.bind (note (fun _ => .expanding d.name c.arity) fun _ => rfl)
                fun _ => call).transfer related (fun i => ?_) ran
              rw [Definition.run_expression isBody admitted, opened, entered,
                Definition.worldFor, kept]
              rfl

/-- A step of evaluation of one term, in runs that remember the same. -/
theorem dispatch_same {settings : Run → Settings} {level : Level}
    (logged : ∀ i, (settings i).traceLevel = level) {evaluate : Run → Evaluator}
    (below : ∀ rows (depth : Run → Nat) c,
      InStep start Eq Value fun i => evaluate i ⟨rows, depth i⟩ c)
    (depth : Run → Nat) (c : Term) :
    InStep start Eq Value fun i => dispatch (settings i) (evaluate i) ⟨rows, depth i⟩ c := by
  have C := counterparts_same below depth c
  cases operator : c.operator with
  | builtin b =>
      have define : InStep start Eq Value fun _ => Operators.define c :=
        define C (fun _ => rfl) fun _ _ => Memory.carries_eq 1
      have P : b.Permitted (InStep start Eq) level fun i => c.wrapped i.wrap .nowhere :=
        permitted Memory.tied_eq level fun _ => by simpa only [Term.wrapped_nowhere] using define
      simp only [Term.wrapped_nowhere] at P
      exact dispatch_builtin logged (fun _ => operator) C P
  | custom name =>
      intro j related a ran
      cases found : j.world.registry.lookup? name with
      | none =>
          dsimp only at ran
          rw [dispatch_undefined (s := j.state .plain) operator found] at ran
          cases ran
      | some d =>
          have run : InStep start Eq Value fun i => d.run (evaluate i) ⟨rows, depth i⟩ c :=
            definition_run below d depth c
          refine (closed.bind (note (fun i => .dispatched (depth i) c) fun _ => rfl)
            fun _ => run.mapError fun i => (·.leaving ⟨rows, depth i⟩ c)).transfer related
              (fun i => ?_) ran
          rw [dispatch_custom (s := j.state i) operator found]
          rfl

end Act.InStep

end FactScan
