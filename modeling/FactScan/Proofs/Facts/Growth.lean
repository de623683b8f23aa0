/-
# FactScan.Proofs.Facts.Growth — histories only grow, and only through `as` outside `agg`

Facts change by appends alone, so over any evaluation, also one that fails, the history of a
field before is a prefix of the one after.  Where no `as` can be named, the fact stays as it
is.  And `agg` runs its operands against facts that cannot be written: everything called from
there finds such a fact again, at whatever distance (`Call.isReadOnly_of_runs`).

* `Host.evaluate_histories`: the three together;
* `Call.assigns_nothing`: an `as` whose operand holds no scalar at all succeeds there, for it
  has nothing to append.

What a call calls is defined by what its result depends on: `Call.Dispatches`.
-/
import FactScan.Proofs.Coincidence
import FactScan.Proofs.Facts.Vocabulary
import FactScan.Proofs.Hosts

namespace FactScan

set_option autoImplicit false

/-! ## What happens to the fact -/

namespace World

/-- Nothing that was in a history at one moment is gone at a later one. -/
def Grows (w w' : World) : Prop :=
  ∀ field, (w.fact.read field).items <+: (w'.fact.read field).items

theorem grows_lasting : Lasting Grows where
  refl w field := List.prefix_rfl
  trans first second field := (first field).trans (second field)
  note w r _ field := List.prefix_rfl
  append _ appended field := by
    rw [Fact.items_read_append appended]
    exact List.prefix_append _ _
  define _ made field := fact_of_define made ▸ List.prefix_rfl
  undefine _ done field := fact_of_undefine done ▸ List.prefix_rfl
  against _ field := List.prefix_rfl

/-- The same fact at two moments. -/
def SameFact (w w' : World) : Prop := w'.fact = w.fact

theorem sameFact_lasting {appends : String → Prop} {operators : Builtin → Prop}
    (none : ∀ field, ¬ appends field) : Lasting SameFact appends operators where
  refl _ := rfl
  trans first second := second.trans first
  note _ _ _ := rfl
  append named := absurd named (none _)
  define _ := fact_of_define
  undefine _ := fact_of_undefine
  against _ := rfl

/-- The same fact at two moments, if it takes no appends. -/
def SameReadOnly (w w' : World) : Prop := w.fact.isReadOnly = true → w'.fact = w.fact

theorem sameReadOnly_lasting : Lasting SameReadOnly where
  refl w _ := rfl
  trans {u v w} first second readOnly := by
    rw [second (first readOnly ▸ readOnly), first readOnly]
  note w r _ _ := rfl
  append _ appended readOnly := by
    rw [Fact.append?_of_isReadOnly readOnly] at appended
    cases appended
  define _ made _ := fact_of_define made
  undefine _ done _ := fact_of_undefine done
  against _ _ := rfl

end World

/-- All operators but `as`. -/
def Vocabulary.assignless : Vocabulary where
  operator op := op ≠ .builtin .assign

/-- A term without `as`, evaluated where no definition holds one, leaves the fact as it is. -/
theorem evalAt_fact_of_assignless (settings : Settings) (levels : Nat) (site : Site) {t : Term}
    {s : State} (term : t.UsesOnly .assignless) (state : s.UsesOnly .assignless t) :
    (evalAt settings levels site t s).2.world.fact = s.world.fact :=
  have T : World.Lasting World.SameFact Vocabulary.assignless.appends
      Vocabulary.assignless.comesTo := World.sameFact_lasting fun _ named => named.1 rfl
  (evalAt_within T (fun _ => trivial) settings levels site t term s state).2

/-! ## Calls from calls -/

namespace Call

variable (settings : Settings)

/-- The state that a call leaves. -/
def after (c : Call) : State := (evalAt settings c.levels c.site c.term c.state).2

/-- The first call makes the second one, one level below: if just the second came out
differently, so could the first. -/
def Dispatches (c c' : Call) : Prop :=
  c.levels = c'.levels + 1 ∧ ∃ E : Evaluator,
    (∀ site t s, ¬ (site = c'.site ∧ t = c'.term ∧ s = c'.state) →
      E site t s = evalAt settings c'.levels site t s) ∧
    operate settings E c.site c.term c.state ≠
      operate settings (evalAt settings c'.levels) c.site c.term c.state

/-- The first call makes the second one, directly or through calls in between. -/
def Runs : Call → Call → Prop := Relation.TransGen (Dispatches settings)

/-- The call is of `as` and comes to append a value to a field. -/
structure Assigns (c : Call) (field : String) (v : Value) : Prop where
  operator : c.term.operator = .builtin .assign
  hosted : c.state.world.registry.hosts .assign = true
  arity : c.term.arity = 2
  field : c.term.operand? 0 = some (.field field)
  resolved : ∃ levels s, c.levels = levels + 1 ∧
    resolve (evalAt settings levels) c.site c.term 1
      ⟨c.state.memory, c.state.world.note (.dispatched c.site.depth c.term)⟩ = (.ok v, s)

open Classical in
/-- An evaluator with another error in the place of one call. -/
noncomputable def failing (c : Call) (e : EvalError) : Evaluator := fun site t s =>
  if site = c.site ∧ t = c.term ∧ s = c.state then (.error e, s)
  else evalAt settings c.levels site t s

variable {settings} {c c' : Call}

theorem failing_self (e : EvalError) :
    c.failing settings e c.site c.term c.state = (.error e, c.state) := if_pos ⟨rfl, rfl, rfl⟩

/-- A call whose errors would come through has been made. -/
theorem Dispatches.of_passes (levels : c.levels = c'.levels + 1)
    (passes : ∀ e, c.resultWith settings (c'.failing settings e) = .error e) :
    c.Dispatches settings c' := by
  -- Of two different errors, one at least is not what comes out anyway.
  have made (e : EvalError) (other : c.resultWith settings (evalAt settings c'.levels) ≠ .error e) :
      c.Dispatches settings c' := by
    refine ⟨levels, c'.failing settings e, fun site t s different => if_neg different, ?_⟩
    intro same
    exact other (by rw [← passes e, resultWith, resultWith, same])
  by_cases first : c.resultWith settings (evalAt settings c'.levels) = .error .divisionByZero
  · refine made (.overflow "+") fun second => ?_
    rw [first] at second
    cases second
  · exact made _ first

/-- What must be so for a call to be made is so of the calls made: evaluators that coincide where
it holds come out the same. -/
theorem Dispatches.holds {P : Term → State → Prop} (made : c.Dispatches settings c')
    (congr : ∀ E, E.Coincide P (evalAt settings c'.levels) →
      operate settings E c.site c.term c.state =
        operate settings (evalAt settings c'.levels) c.site c.term c.state) :
    P c'.term c'.state := by
  obtain ⟨-, E, elsewhere, differs⟩ := made
  by_contra other
  refine differs (congr E fun site t s holds => elsewhere site t s ?_)
  rintro ⟨-, rfl, rfl⟩
  exact other holds

end Call

/-! ## Scopes that cannot be written -/

/-- The fact that a term finds cannot be written. -/
def State.FindsReadOnly (_ : Term) (s : State) : Prop := s.world.fact.isReadOnly = true

theorem evalAt_readOnly (settings : Settings) (levels : Nat) (site : Site) (t : Term) :
    Act.Keeps World.SameReadOnly Value fun _ => evalAt settings levels site t :=
  evalAt_lasting World.sameReadOnly_lasting settings levels site t

theorem State.findsReadOnly_inherited (settings : Settings) (levels : Nat) :
    State.Inherited FindsReadOnly settings (evalAt settings levels) where
  scopes _ := ⟨fun _ readOnly => readOnly, fun holds _ => holds⟩
  note _ holds := holds
  child _ holds := holds
  back {t c p site s} _ holds := by
    have kept := evalAt_readOnly settings levels site c { s with memory := s.memory.child p } holds
    have still : Fact.isReadOnly s.world.fact = true := holds
    rwa [← kept] at still
  permitted {t b} _ := by
    have keeps := Act.Keeps.permitted World.sameReadOnly_lasting settings.traceLevel t (b := b)
      trivial fun _ _ _ => trivial
    refine keeps.imp fun keeps => .of_keeps fun s holds => ?_
    show Fact.isReadOnly _ = true
    rw [keeps s holds]
    exact holds
  expansion {t name d body s} _ _ _ holds := by
    show (d.worldFor t s.memory s.world).fact.isReadOnly = true
    rw [d.fact_worldFor]
    exact holds

/-! ### `agg` -/

section

variable {E E' : Evaluator} (coincide : E.Coincide State.FindsReadOnly E')
include coincide

theorem Operators.keptRows_congr (site : Site) (selector : Term) (rows : List Row) :
    keptRows E site selector rows = keptRows E' site selector rows := by
  induction rows with
  | nil => rfl
  | cons row rest ih =>
      have inside (outer : Fact) :
          Act.withFact (.overlay row outer) (Act.atChild 0 (E site.deeper selector)) =
            Act.withFact (.overlay row outer) (Act.atChild 0 (E' site.deeper selector)) :=
        funext fun s => coincide.withFact rfl
      simp only [keptRows, inside, ih]

omit coincide in
/-- Selecting rows leaves the fact as it is: each selector has one of its own. -/
theorem Operators.keptRows_fact (site : Site) (selector : Term) (rows : List Row) :
    Act.Keeps World.SameFact (List Row) fun _ => keptRows E site selector rows := by
  have T : World.Lasting World.SameFact fun _ => False := World.sameFact_lasting fun _ => id
  have L := Act.Keeps.closed T
  induction rows with
  | nil => exact L.pure []
  | cons row rest ih =>
      have own (outer : Fact) : Act.Keeps World.SameFact Value fun _ =>
          Act.withFact (.overlay row outer) (Act.atChild 0 (E site.deeper selector)) :=
        fun s => rfl
      have whole (outer : Fact) := L.bind (own outer) fun v => L.bind ih fun others =>
        L.pure (if v.isTruthy then row :: others else others)
      exact fun s => whole s.world.fact s

omit coincide in
theorem Operators.aggregate_fact (site : Site) (t : Term) :
    Act.Keeps World.SameFact Value fun _ => aggregate E site t := by
  have T : World.Lasting World.SameFact fun _ => False := World.sameFact_lasting fun _ => id
  have L := Act.Keeps.closed T
  unfold aggregate
  rcases checkArity_cases t (.exactly 2) with arity | arity
  rotate_left
  · rw [arity]
    exact fun s => rfl
  rcases carriedTerm_cases t 0 with ⟨selector, -, first⟩ | first
  rotate_left
  · rw [arity, first]
    exact fun s => rfl
  rw [arity, first]
  -- Whatever the value term does to its fact, that fact is dropped afterwards.
  have value (kept : List Row) : Act.Keeps World.SameFact Value fun _ =>
      carriedTerm t 1 >>= fun value =>
        Act.withFact .empty (Act.atChild 1 (E ⟨kept, site.depth + 1⟩ value)) := by
    rcases carriedTerm_cases t 1 with ⟨value, -, second⟩ | second
    · rw [second]
      exact fun s => rfl
    · rw [second]
      exact fun s => rfl
  have noted (k n : Nat) : Act.Keeps World.SameFact Unit fun _ => Act.note (.kept k n) :=
    fun s => rfl
  have kept : Act.Keeps World.SameFact (List Row) fun _ => keptRows E site selector site.rows :=
    keptRows_fact site selector site.rows
  have whole := L.bind kept fun kept => L.bind (noted kept.length site.rows.length) fun _ =>
    value kept
  exact whole

/-- `agg` evaluates nothing but against facts that cannot be written. -/
theorem Operators.aggregate_congr (site : Site) (t : Term) :
    aggregate E site t = aggregate E' site t := by
  have inside (rows : List Row) (value : Term) :
      Act.withFact .empty (Act.atChild 1 (E ⟨rows, site.depth + 1⟩ value)) =
        Act.withFact .empty (Act.atChild 1 (E' ⟨rows, site.depth + 1⟩ value)) :=
    funext fun s => coincide.withFact rfl
  simp only [aggregate, keptRows_congr coincide, inside]

theorem operate_aggregate_congr (settings : Settings) (site : Site) {t : Term} (s : State)
    (operator : t.operator = .builtin .aggregate) :
    operate settings E site t s = operate settings E' site t s := by
  rw [operate_builtin operator, operate_builtin operator]
  show (if _ then Operators.aggregate E site t else _ : Act Value) _ =
    (if _ then Operators.aggregate E' site t else _ : Act Value) _
  rw [Operators.aggregate_congr coincide]

end

/-! ## What runs inside `agg` -/

namespace Call

variable {settings : Settings} {c c' : Call}

/-- **A call from `agg`, or from a scope that cannot be written, finds a fact that cannot be
written.** -/
theorem Dispatches.isReadOnly (made : c.Dispatches settings c')
    (scope : c.term.operator = .builtin .aggregate ∨ c.state.world.fact.isReadOnly = true) :
    c'.state.world.fact.isReadOnly = true := by
  refine made.holds (P := State.FindsReadOnly) fun E coincide => ?_
  rcases scope with operator | readOnly
  · exact operate_aggregate_congr coincide settings c.site c.state operator
  · exact operate_congr (State.findsReadOnly_inherited settings c'.levels) coincide c.site readOnly

theorem isReadOnly_of_runs (operator : c.term.operator = .builtin .aggregate)
    (runs : c.Runs settings c') : c'.state.world.fact.isReadOnly = true := by
  induction runs with
  | single made => exact made.isReadOnly (.inl operator)
  | tail _ made ih => exact made.isReadOnly (.inr ih)

theorem after_fact_of_isReadOnly (readOnly : c.state.world.fact.isReadOnly = true) :
    (c.after settings).world.fact = c.state.world.fact :=
  evalAt_readOnly settings c.levels c.site c.term c.state readOnly

theorem after_fact_of_aggregate (operator : c.term.operator = .builtin .aggregate) :
    (c.after settings).world.fact = c.state.world.fact := by
  unfold after
  cases c.levels with
  | zero => rfl
  | succ levels =>
      rw [evalAt_succ]
      cases hosted : c.state.world.registry.hosts .aggregate with
      | false =>
          rw [dispatch_unhosted operator hosted]
          rfl
      | true =>
          rw [dispatch_builtin operator hosted, Act.mapError_state]
          exact Operators.aggregate_fact c.site c.term _

/-! ### `as` -/

/-- A call of `as` appends the scalars of the value to the field. -/
theorem Assigns.result_eq {field : String} {v : Value} (assigns : c.Assigns settings field v) :
    ∃ s, (c.state.world.fact.isReadOnly = true → s.world.fact = c.state.world.fact) ∧
      c.result settings = (Act.mapError (·.leaving c.site c.term)
        (do Operators.appendAll field v.items; return .boolean true) s).1 := by
  obtain ⟨levels, s, isLevel, resolved⟩ := assigns.resolved
  refine ⟨s, ?_, ?_⟩
  · have keeps : Act.Keeps World.SameReadOnly Value fun _ =>
        resolve (evalAt settings levels) c.site c.term 1 :=
      resolve_closed (Act.Keeps.closed World.sameReadOnly_lasting).toComposes
        (Act.Keeps.counterparts World.sameReadOnly_lasting (evalAt_readOnly settings levels)
          c.site.depth c.term) 1
    have kept := keeps ⟨c.state.memory, c.state.world.note (.dispatched c.site.depth c.term)⟩
    dsimp only at kept
    rw [resolved] at kept
    exact kept
  · have arity : checkArity c.term (.exactly 2) = pure () :=
      checkArity_of_admits (by rw [assigns.arity]; rfl)
    have named : fieldName c.term 0 = pure field := by
      rw [fieldName, assigns.field]
      rfl
    have run : Operators.assign (evalAt settings levels) c.site c.term = (do
        let v ← resolve (evalAt settings levels) c.site c.term 1
        Operators.appendAll field v.items
        return .boolean true) := by
      unfold Operators.assign
      rw [arity, named]
      rfl
    rw [result, isLevel, evalAt_succ, dispatch_builtin assigns.operator assigns.hosted]
    show (Act.mapError _ (Operators.assign (evalAt settings levels) c.site c.term) _).1 = _
    rw [run, Act.mapError, Act.mapError, Act.bind_ok resolved]

theorem Assigns.fails {field : String} {v : Value} (assigns : c.Assigns settings field v)
    (readOnly : c.state.world.fact.isReadOnly = true) (some_ : v.items ≠ []) :
    c.result settings = .error (c.wrap (.readOnlyFact field)) := by
  obtain ⟨s, same, result⟩ := assigns.result_eq
  obtain ⟨a, rest, items⟩ := List.exists_cons_of_ne_nil some_
  have refused : Act.append field a s = (.error (.readOnlyFact field), s) := by
    unfold Act.append
    rw [same readOnly, Fact.append?_of_isReadOnly readOnly]
  have failed : ((do Operators.appendAll field (a :: rest); return .boolean true : Act Value) s).1 =
      .error (.readOnlyFact field) := by
    refine Act.bind_fst_error ?_
    exact Act.bind_fst_error (congrArg Prod.fst refused)
  rw [result, items, Act.mapError_fst_error _ failed, EvalError.leaving_of_not_concerns rfl]
  rfl

/-- The first row, if there is one, is put before the selector. -/
theorem dispatches_selector {levels : Nat} {selector : Term} {row : Row} {rest : List Row}
    (isLevel : c.levels = levels + 1) (operator : c.term.operator = .builtin .aggregate)
    (hosted : c.state.world.registry.hosts .aggregate = true) (arity : c.term.arity = 2)
    (carried : (c.term.operand? 0).bind Operand.carried? = some selector)
    (rows : c.site.rows = row :: rest) :
    c.Dispatches settings ⟨levels, c.site.deeper, selector, c.state.memory.child 0,
      { c.state.world.note (.dispatched c.site.depth c.term) with
        fact := .overlay row c.state.world.fact }⟩ := by
  refine .of_passes isLevel fun e => ?_
  generalize isCallee : Call.mk levels c.site.deeper selector _ = callee
  have refused := @failing_self settings callee e
  generalize callee.failing settings e = E at refused ⊢
  subst isCallee
  have admitted : checkArity c.term (.exactly 2) = pure () :=
    checkArity_of_admits (by rw [arity]; rfl)
  rw [resultWith, operate_builtin operator, hosted, if_pos rfl]
  show (Operators.aggregate E c.site c.term _).1 = _
  unfold Operators.aggregate
  rw [admitted, carriedTerm_of_carried carried, rows]
  have first : (Act.withFact (.overlay row c.state.world.fact)
      (Act.atChild 0 (E c.site.deeper selector))
        ⟨c.state.memory, c.state.world.note (.dispatched c.site.depth c.term)⟩).1 = .error e := by
    rw [Act.withFact_apply, Act.atChild_apply]
    exact congrArg Prod.fst refused
  have selecting : (Operators.keptRows E c.site selector (row :: rest)
      ⟨c.state.memory, c.state.world.note (.dispatched c.site.depth c.term)⟩).1 = .error e :=
    Act.bind_fst_error (f := fun v : Value => do
      let others ← Operators.keptRows E c.site selector rest
      return if v.isTruthy then row :: others else others) first
  exact Act.bind_fst_error (f := fun kept => do
    Act.note (.kept kept.length (row :: rest).length)
    let value ← carriedTerm c.term 1
    Act.withFact .empty (Act.atChild 1 (E ⟨kept, c.site.depth + 1⟩ value))) selecting

end Call

/-- **Histories only grow, and only through `as` outside `agg`.**  Whether an evaluation
succeeds or fails, every history of every fact before is a prefix of the one after, and if no
`as` stands in the term, in what it remembers or in a body, all facts are as before.  Whatever
`agg` calls, at any distance, leaves the fact it finds as it is, and so does `agg` itself; an
`as` called there with a value that holds any scalar fails because the fact is only for
reading. -/
theorem Host.evaluate_histories (h : Host) (engine : Engine) (rows : List Row) (i : Instance)
    (id : Nat) :
    let after := (h.evaluate engine rows i id).2.2
    (∀ other field, ((h.fact other).read field).items <+: ((after.fact other).read field).items) ∧
    (i.UsesOnly .assignless → (h.registry engine.registry).UsesOnly .assignless →
      ∀ other, after.fact other = h.fact other) ∧
    ∀ c : Call, c.term.operator = .builtin .aggregate →
      (c.after engine.settings).world.fact = c.state.world.fact ∧
      ∀ c', c.Runs engine.settings c' →
        (c'.after engine.settings).world.fact = c'.state.world.fact ∧
        ∀ field v, c'.Assigns engine.settings field v → v.items ≠ [] →
          c'.result engine.settings = .error (c'.wrap (.readOnlyFact field)) := by
  intro after
  have facts := h.fact_evaluate engine rows i id
  refine ⟨fun other field => ?_, fun term bodies other => ?_, fun c operator => ?_⟩
  · rcases facts other with same | ⟨rfl, is⟩
    · exact same ▸ List.prefix_rfl
    · rw [is]
      exact evalAt_lasting World.grows_lasting engine.settings (engine.settings.maxDepth + 1)
        ⟨rows, 0⟩ i.term ⟨i.memory, h.world engine.registry (h.fact other)⟩ field
  · rcases facts other with same | ⟨rfl, is⟩
    · exact same
    · rw [is]
      exact evalAt_fact_of_assignless engine.settings (engine.settings.maxDepth + 1) ⟨rows, 0⟩
        term.term (s := ⟨i.memory, h.world engine.registry (h.fact other)⟩) ⟨term.memory, bodies⟩
  · refine ⟨Call.after_fact_of_aggregate operator, fun c' runs => ?_⟩
    have readOnly := Call.isReadOnly_of_runs operator runs
    exact ⟨Call.after_fact_of_isReadOnly readOnly, fun field v assigns some_ =>
      assigns.fails readOnly some_⟩

/-- In `(and (as k k) (agg (as k k) (count)))` the first `as` appends and the second one, called
from `agg`, fails; `(not (exists k))` appends nothing. -/
theorem Host.evaluate_histories_refused :
    let one : Scalar := .integer 1
    let rows : List Row := [[("k", .scalar (.integer 2))]]
    let h : Host := { facts := [.memory [("k", [one])]] }
    let assign : Term := .mk (.builtin .assign) [.field "k", .field "k"]
    let agg : Term := .mk (.builtin .aggregate) [.nested assign, .nested (.mk (.builtin .count) [])]
    let both : Term := .mk (.builtin .and) [.nested assign, .nested agg]
    let absent : Term := .mk (.builtin .not) [.nested (.mk (.builtin .present) [.field "k"])]
    let ran := h.evaluate ⟨0, {}⟩ rows ⟨both, .blank⟩ 0
    let call : Call := ⟨257, ⟨rows, 0⟩, agg, .blank, h.world 0 (h.fact 0)⟩
    let called : Call := ⟨256, ⟨rows, 1⟩, assign, .blank, { (h.world 0 (h.fact 0)).note
      (.dispatched 0 agg) with fact := .overlay [("k", .scalar (.integer 2))] (h.fact 0) }⟩
    (ran.1.toOption.isNone ∧ ((ran.2.2.fact 0).read "k").items = [one, one] ∧
      ((h.fact 0).read "k").items <+: ((ran.2.2.fact 0).read "k").items) ∧
    (h.evaluate ⟨0, {}⟩ rows ⟨absent, .blank⟩ 0).2.2.fact 0 = h.fact 0 ∧
    call.Runs {} called ∧ (called.after {}).world.fact = called.state.world.fact ∧
    called.result {} = .error (called.wrap (.readOnlyFact "k")) := by
  intro one rows h assign agg both absent ran call called
  have grows := h.evaluate_histories ⟨0, {}⟩ rows ⟨both, .blank⟩ 0
  have absent_ : Instance.UsesOnly .assignless ⟨absent, .blank⟩ := by
    refine ⟨?_, Memory.usesOnly_blank _⟩
    intro u inside
    simp only [absent, Term.walkAll, Operand.listWalkAll, Operand.walkAll, List.append_nil,
      List.mem_cons, List.not_mem_nil, or_false] at inside
    rcases inside with rfl | rfl
    · exact ⟨fun is => (by cases is), fun _ _ => trivial⟩
    · exact ⟨fun is => (by cases is), fun _ _ => trivial⟩
  have same := (h.evaluate_histories ⟨0, {}⟩ rows ⟨absent, .blank⟩ 0).2.1 absent_
    (fun _ member => absurd member List.not_mem_nil) 0
  have runs : call.Runs {} called :=
    .single (Call.dispatches_selector (c := call) rfl rfl rfl rfl rfl rfl)
  obtain ⟨still, fails⟩ := (grows.2.2 call rfl).2 called runs
  have assigns : called.Assigns {} "k" (.sequence [.integer 2]) :=
    ⟨rfl, rfl, rfl, rfl, 255, _, rfl, rfl⟩
  exact ⟨⟨rfl, rfl, grows.1 0 "k"⟩, same, runs, still,
    fails "k" _ assigns (List.cons_ne_nil _ _)⟩

/-- A value without scalars is not nothing, and still there is nothing to append: `prev` here
remembers an empty sequence, as a function of a host can have left it with, and in
`(agg (as k (prev (lst))) (count))` the `as` succeeds. -/
theorem Call.assigns_nothing :
    let previous : Term := .mk (.builtin .previous) [.nested (.mk (.custom "lst") [])]
    let assign : Term := .mk (.builtin .assign) [.field "k", .nested previous]
    let agg : Term := .mk (.builtin .aggregate) [.nested assign, .nested (.mk (.builtin .count) [])]
    let lst : Definition := .ofTerm "lst" ⟨.constantOf (.integer 1), .blank⟩
    let held : Memory := .mk none
      [.mk none [.blank, .mk (some (.previous (.sequence []))) []], .blank]
    let w : World := { fact := .memory [], registry := { Registry.standard with custom := [lst] } }
    let row : Row := [("k", .scalar (.integer 1))]
    let call : Call := ⟨257, ⟨[row], 0⟩, agg, held, w⟩
    ∃ called, call.Runs {} called ∧ called.Assigns {} "k" (.sequence []) ∧
      Value.sequence [] ≠ .nil ∧ called.result {} = .ok (.boolean true) := by
  intro previous assign agg lst held w row call
  refine ⟨_, .single (Call.dispatches_selector (c := call) rfl rfl rfl rfl rfl rfl), ?_, nofun, rfl⟩
  exact ⟨rfl, rfl, rfl, rfl, 255, _, rfl, rfl⟩

end FactScan
