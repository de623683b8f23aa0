/-
# FactScan.Proofs.Aggregates.Selection — `agg` selects, then aggregates

`agg` evaluates one selector for row after row, each laid over the fact, and then its value term
over the rows on which the selector was true.  The selector remembers things from one row to
the next, so its verdict on a row might depend on the rows before.  For a steady selector it
does not: between two rows nothing has changed but the log and what the selector keeps, which
cannot be noticed (`Operators.Selecting`), so every verdict is that of a fresh selector, and
the value term finds the world as `agg` found it.

* `Operators.Selecting.row`: one row;
* `Operators.Selecting.rows` and `Operators.Selecting.stops`: all rows, and rows up to the first
  one on which the selector fails;
* `aggregate_selects`: an evaluation of `agg`, at any call that a program comes to make.
-/
import FactScan.Proofs.Programs
import FactScan.Proofs.Steadiness

namespace FactScan

set_option autoImplicit false

/-- A row hides what it lies over, except where it holds nothing. -/
theorem Fact.read_overlay (row : Row) (outer : Fact) (field : String) :
    (Fact.overlay row outer).read field =
      if (row.read field).isNil then outer.read field else row.read field := by
  rw [read, Row.holds]
  cases (row.read field).isNil <;> rfl

namespace Operators

/-! ## One row after another -/

section

variable {E : Evaluator} {site : Site} {selector : Term} {row : Row} {rest : List Row}
variable {s s' : State}

theorem keptRows_cons_ok {v : Value}
    (ran : Act.withFact (.overlay row s.world.fact) (Act.atChild 0 (E site.deeper selector)) s =
      (.ok v, s')) :
    keptRows E site selector (row :: rest) s =
      (do
        let others ← keptRows E site selector rest
        return if v.isTruthy then row :: others else others : Act (List Row)) s' :=
  Act.bind_ok ran _

theorem keptRows_cons_error {e : EvalError}
    (ran : Act.withFact (.overlay row s.world.fact) (Act.atChild 0 (E site.deeper selector)) s =
      (.error e, s')) :
    keptRows E site selector (row :: rest) s = (.error e, s') :=
  Act.bind_error ran _

/-- `agg` with its operands at hand. -/
theorem aggregate_eq {a b : Operand} {value : Term} (first : a.carried? = some selector)
    (second : b.carried? = some value) (E : Evaluator) (site : Site) :
    aggregate E site (.mk (.builtin .aggregate) [a, b]) = (do
      let kept ← keptRows E site selector site.rows
      Act.note (.kept kept.length site.rows.length)
      Act.withFact .empty (Act.atChild 1 (E ⟨kept, site.depth + 1⟩ value))) := by
  let t : Term := .mk (.builtin .aggregate) [a, b]
  have arity : checkArity t (.exactly 2) = pure () := rfl
  have carried : carriedTerm t 0 = pure selector := carriedTerm_of_carried first
  have carried' : carriedTerm t 1 = pure value := carriedTerm_of_carried second
  unfold aggregate
  rw [arity, carried, carried']
  rfl

end

/-- What a fresh selector gives on a row laid over the fact of a world. -/
def verdict (settings : Settings) (levels : Nat) (site : Site) (selector : Term) (w : World)
    (row : Row) : Except EvalError Value :=
  (evalAt settings levels site selector ⟨.blank, { w with fact := .overlay row w.fact }⟩).1

/-- What `agg` asks about as it selects: its selector, with one of some rows laid over a fact. -/
def Selects (selector : Term) (rows : List Row) (fact : Fact) (t : Term) (s : State) : Prop :=
  t = selector ∧ ∃ row ∈ rows, s.world.fact = .overlay row fact

/-- Between two rows, where `w` is the world that `agg` found and `k` what its value term
remembers: nothing but the log has changed in the world, and the selector keeps soundly what it
keeps. -/
structure Selecting (w : World) (selector : Term) (k : Memory) (s : State) : Prop where
  world : w.Alike s.world
  selector : (s.memory.child 0).IsSound w selector
  value : s.memory.child 1 = k

namespace Selecting

variable {settings : Settings} {levels : Nat} {site : Site} {selector : Term} {w : World}
variable {k : Memory} {s : State}

theorem fact (selecting : Selecting w selector k s) : s.world.fact = w.fact :=
  selecting.world.parts.1.symm

/-- Whatever else an evaluator gives, it is asked about the row alone. -/
theorem agrees (selecting : Selecting w selector k s) {E E' : Evaluator} {asked : List Row}
    (coincide : E.Coincide (Selects selector asked w.fact) E') {row : Row} (inside : row ∈ asked) :
    Act.withFact (.overlay row s.world.fact) (Act.atChild 0 (E site selector)) s =
      Act.withFact (.overlay row s.world.fact) (Act.atChild 0 (E' site selector)) s :=
  coincide.withFact ⟨rfl, row, inside, congrArg (Fact.overlay row) selecting.fact⟩

section

variable (settings levels site) (steady : selector.UsesOnly .steady)
  (bodies : w.registry.IsSteady) (world : w.IsSound)
include steady bodies world

/-- **One row**: the verdict is that of a fresh selector. -/
theorem row (selecting : Selecting w selector k s) (row : Row) :
    ∃ s', Selecting w selector k s' ∧
      Act.withFact (.overlay row s.world.fact)
        (Act.atChild 0 (evalAt settings levels site selector)) s =
          (verdict settings levels site selector w row, s') := by
  obtain ⟨⟨log, same⟩, kept, value⟩ := selecting
  obtain ⟨m, v⟩ := s
  obtain rfl : v = w.withLog log := same
  let laid : World := { w with fact := .overlay row w.fact }
  have laidSound : (laid.withLog log).IsSound := world.alike rfl rfl
  have laidKept : (m.child 0).IsSound (laid.withLog log) selector :=
    .elsewhere (w := w) rfl rfl kept
  obtain ⟨result, definitions, keptAfter⟩ := evalAt_steady settings levels site (t := selector)
    (s := ⟨m.child 0, laid.withLog log⟩) steady bodies laidSound laidKept
  obtain ⟨fresh, -, -⟩ := evalAt_of_alike settings levels site selector .blank
    (w := laid) ⟨log, rfl⟩
  rw [Act.withFact_apply, Act.atChild_apply]
  refine ⟨_, ⟨⟨_, definitions.restored w.fact⟩, ?_, ?_⟩, congrArg (·, _) (result.trans fresh)⟩
  · rw [Memory.child_setChild_self]
    exact .elsewhere (w := laid.withLog log) rfl rfl keptAfter
  · rw [Memory.child_setChild_ne _ Nat.zero_ne_one]
    exact value

/-- A row on which a fresh selector has a value. -/
theorem passes (selecting : Selecting w selector k s) {row : Row}
    (ok : (verdict settings levels site selector w row).isOk) :
    ∃ v s', verdict settings levels site selector w row = .ok v ∧ Selecting w selector k s' ∧
      Act.withFact (.overlay row s.world.fact)
        (Act.atChild 0 (evalAt settings levels site selector)) s = (.ok v, s') := by
  obtain ⟨s', selecting', ran⟩ := selecting.row settings levels site steady bodies world row
  cases given : verdict settings levels site selector w row with
  | error e =>
      rw [given] at ok
      cases ok
  | ok v =>
      rw [given] at ran
      exact ⟨v, s', rfl, selecting', ran⟩

/-- **All rows**, if the selector fails on none. -/
theorem rows (rows : List Row)
    (verdicts : ∀ row ∈ rows, (verdict settings levels site.deeper selector w row).isOk) :
    ∀ {s : State}, Selecting w selector k s →
      ∃ s', Selecting w selector k s' ∧
        keptRows (evalAt settings levels) site selector rows s =
          (.ok (rows.filter fun row =>
            (verdict settings levels site.deeper selector w row).toOption.any Value.isTruthy),
            s') := by
  induction rows with
  | nil =>
      intro s selecting
      exact ⟨s, selecting, rfl⟩
  | cons row rest ih =>
      intro s selecting
      obtain ⟨here, later⟩ := List.forall_mem_cons.1 verdicts
      obtain ⟨v, s₁, given, selecting₁, ran⟩ :=
        selecting.passes settings levels site.deeper steady bodies world here
      obtain ⟨s₂, selecting₂, others⟩ := ih later selecting₁
      refine ⟨s₂, selecting₂, ?_⟩
      rw [keptRows_cons_ok ran, Act.bind_ok others, List.filter_cons, given]
      rfl

/-- **Rows up to the first on which the selector fails**: whatever else an evaluator would give,
it is only asked about the selector and these rows. -/
theorem stops {before : List Row} {row : Row} (after : List Row) {e : EvalError}
    (verdicts : ∀ r ∈ before, (verdict settings levels site.deeper selector w r).isOk)
    (failed : verdict settings levels site.deeper selector w row = .error e)
    {asked : List Row} (inside : ∀ r ∈ before ++ [row], r ∈ asked) :
    ∀ {s : State}, Selecting w selector k s →
      ∃ s', Selecting w selector k s' ∧ ∀ E : Evaluator,
        E.Coincide (Selects selector asked w.fact) (evalAt settings levels) →
        keptRows E site selector (before ++ row :: after) s = (.error e, s') := by
  induction before with
  | nil =>
      intro s selecting
      obtain ⟨s₁, selecting₁, ran⟩ :=
        selecting.row settings levels site.deeper steady bodies world row
      rw [failed] at ran
      refine ⟨s₁, selecting₁, fun E coincide => keptRows_cons_error ?_⟩
      rw [selecting.agrees coincide (inside row List.mem_cons_self), ran]
  | cons first before ih =>
      intro s selecting
      obtain ⟨here, later⟩ := List.forall_mem_cons.1 verdicts
      obtain ⟨inside₁, insideLater⟩ := List.forall_mem_cons.1 inside
      obtain ⟨v, s₁, -, selecting₁, ran⟩ :=
        selecting.passes settings levels site.deeper steady bodies world here
      obtain ⟨s₂, selecting₂, others⟩ := ih later insideLater selecting₁
      refine ⟨s₂, selecting₂, fun E coincide => ?_⟩
      have asked := (selecting.agrees coincide inside₁).trans ran
      exact (keptRows_cons_ok asked).trans (Act.bind_error (others E coincide) _)

/-! ## `agg` -/

variable {a b : Operand} {value : Term} (first : a.carried? = some selector)
  (second : b.carried? = some value)
include first second

/-- `agg` whose selector fails on a row fails with it, whatever else an evaluator would give. -/
theorem aggregate_stops (selecting : Selecting w selector k s) {before after : List Row}
    {row : Row} {e : EvalError} (rows : site.rows = before ++ row :: after)
    (verdicts : ∀ r ∈ before, (verdict settings levels site.deeper selector w r).isOk)
    (failed : verdict settings levels site.deeper selector w row = .error e) :
    ∃ s', Selecting w selector k s' ∧ ∀ E : Evaluator,
      E.Coincide (Selects selector (before ++ [row]) w.fact) (evalAt settings levels) →
      aggregate E site (.mk (.builtin .aggregate) [a, b]) s = (.error e, s') := by
  obtain ⟨s', selecting', stopped⟩ :=
    stops settings levels site steady bodies world after verdicts failed (fun _ => id) selecting
  refine ⟨s', selecting', fun E coincide => ?_⟩
  rw [aggregate_eq first second, rows]
  exact Act.bind_error (stopped E coincide) _

/-- `agg` whose selector fails on no row runs its value term in the world as it was. -/
theorem aggregate_goes_on (selecting : Selecting w selector k s)
    (verdicts : ∀ row ∈ site.rows, (verdict settings levels site.deeper selector w row).isOk) :
    let kept := site.rows.filter fun row =>
      (verdict settings levels site.deeper selector w row).toOption.any Value.isTruthy
    let rest := evalAt settings levels ⟨kept, site.depth + 1⟩ value
      ⟨k, { w with fact := .empty }⟩
    ∃ m log, m.child 1 = rest.2.memory ∧
      aggregate (evalAt settings levels) site (.mk (.builtin .aggregate) [a, b]) s =
        (rest.1, ⟨m, { rest.2.world with fact := w.fact, log }⟩) := by
  intro kept rest
  obtain ⟨s', selecting', selected⟩ :=
    Selecting.rows settings levels site steady bodies world site.rows verdicts selecting
  let noted : Record := .kept kept.length site.rows.length
  obtain ⟨result, memory, logged, after⟩ := evalAt_of_alike settings levels
    ⟨kept, site.depth + 1⟩ value k ((selecting'.world.note noted).against .empty)
  have run : aggregate (evalAt settings levels) site (.mk (.builtin .aggregate) [a, b]) s =
      Act.withFact .empty (Act.atChild 1 (evalAt settings levels ⟨kept, site.depth + 1⟩ value))
        ⟨s'.memory, s'.world.note noted⟩ := by
    rw [aggregate_eq first second]
    exact Act.bind_ok selected _
  rw [run, Act.withFact_apply, Act.atChild_apply]
  dsimp only
  have fact : (s'.world.note noted).fact = w.fact := selecting'.fact
  rw [selecting'.value, result, after, fact]
  exact ⟨_, logged, (Memory.child_setChild_self _ _ _).trans memory, rfl⟩

end

end Selecting

end Operators

/-- **`agg` is to filter, then to aggregate**, at any call of it that a program comes to make, if
its selector and every registered body are steady.  The fact stays as it is.  If a fresh selector
fails on a row, `agg` fails by the same cause as on the first such row, and asks about nothing but
the selector on the rows up to that one.  If it fails on none, `agg` gives what its value term
gives, one level deeper and against the empty fact, among exactly the rows on which a fresh
selector is true. -/
theorem aggregate_selects {settings : Settings} {levels : Nat} {site : Site} {s : State}
    {a b : Operand} {selector value : Term}
    (arises : Call.Arises settings ⟨levels + 1, site, .mk (.builtin .aggregate) [a, b], s⟩)
    (hosted : s.world.registry.hosts .aggregate = true)
    (first : a.carried? = some selector) (second : b.carried? = some value)
    (steady : selector.UsesOnly .steady) (bodies : s.world.registry.IsSteady) :
    let t : Term := .mk (.builtin .aggregate) [a, b]
    let ran := evalAt settings (levels + 1) site t s
    let verdict (row : Row) := (evalAt settings levels site.deeper selector
      ⟨.blank, { s.world with fact := .overlay row s.world.fact }⟩).1
    let kept := site.rows.filter fun row => (verdict row).toOption.any Value.isTruthy
    let rest := evalAt settings levels ⟨kept, site.depth + 1⟩ value
      ⟨s.memory.child 1, { s.world with fact := .empty }⟩
    ran.2.world.fact = s.world.fact ∧
    (∀ before row after e, site.rows = before ++ row :: after →
      (∀ r ∈ before, (verdict r).isOk) → verdict row = .error e →
        ran.1 = .error (e.leaving site t) ∧ (e.leaving site t).rootCause = e.rootCause ∧
        ran.2.memory.child 1 = s.memory.child 1 ∧
        ∀ c, Call.Dispatches settings ⟨levels + 1, site, t, s⟩ c →
          c.term = selector ∧ ∃ r ∈ before ++ [row], c.state.world.fact = .overlay r s.world.fact) ∧
    ((∀ row ∈ site.rows, (verdict row).isOk) →
      ran.1 = rest.1.mapError (·.leaving site t) ∧ ran.2.memory.child 1 = rest.2.memory ∧
      ran.2.world.registry = rest.2.world.registry ∧
      ran.2.world.nextGeneration = rest.2.world.nextGeneration) ∧
    ∀ row field, (Fact.overlay row s.world.fact).read field =
      if (row.read field).isNil then s.world.fact.read field else row.read field := by
  intro t ran verdict kept rest
  obtain ⟨world, memory⟩ := arises.isSound
  have selecting : Operators.Selecting s.world selector (s.memory.child 1)
      ⟨s.memory, s.world.note (.dispatched site.depth t)⟩ :=
    ⟨⟨_, rfl⟩, memory.child first, rfl⟩
  have ran_eq : ran = Act.mapError (·.leaving site t)
      (Operators.aggregate (evalAt settings levels) site t)
      ⟨s.memory, s.world.note (.dispatched site.depth t)⟩ := dispatch_builtin rfl hosted
  refine ⟨Call.after_fact_of_aggregate (c := ⟨levels + 1, site, t, s⟩) rfl, ?_, ?_,
    fun row field => Fact.read_overlay row _ field⟩
  · intro before row after e rows verdicts failed
    obtain ⟨s', selecting', stopped⟩ := selecting.aggregate_stops settings levels site steady bodies
      world first second rows verdicts failed
    rw [ran_eq, Act.mapError_apply, stopped _ fun _ _ _ _ => rfl]
    refine ⟨rfl, EvalError.rootCause_leaving site t e, selecting'.value, fun c made => ?_⟩
    obtain ⟨below, site', u, s₁⟩ := c
    obtain rfl : levels = below := Nat.succ.inj made.1
    have given (E : Evaluator) (coincide : E.Coincide
        (Operators.Selects selector (before ++ [row]) s.world.fact) (evalAt settings levels)) :
        operate settings E site t s = (.error e, s') := by
      rw [operate_builtin rfl, hosted, if_pos rfl]
      exact stopped E coincide
    exact made.holds (P := Operators.Selects selector (before ++ [row]) s.world.fact)
      fun E coincide => (given E coincide).trans (given _ fun _ _ _ _ => rfl).symm
  · intro verdicts
    obtain ⟨m, log, memory', run⟩ := selecting.aggregate_goes_on settings levels site steady bodies
      world first second verdicts
    rw [ran_eq, Act.mapError_apply, run]
    exact ⟨rfl, memory', rfl, rfl⟩

/-- `(agg (big k) (sum k))` where `big` is `(gt $0 1)`, and the selector was evaluated before it was
put into the term: it has kept an expansion, and its verdicts are those of a fresh one. -/
theorem aggregate_selects_reused :
    let selector : Term := .mk (.custom "big") [.field "k"]
    let value : Term := .mk (.builtin .sum) [.field "k"]
    let agg : Term := .mk (.builtin .aggregate) [.nested selector, .literal (.term value)]
    let row (v : Scalar) : Row := [("k", .scalar v)]
    ∃ s : State, (s.memory.child 0).block.isSome = true ∧
      (∀ rows, Call.Arises {} ⟨257, ⟨rows, 0⟩, agg, s⟩) ∧
      s.world.registry.hosts .aggregate = true ∧ selector.UsesOnly .steady ∧
      s.world.registry.IsSteady ∧
      (evalAt {} 257 ⟨[row (.integer 1), row (.integer 2), row (.integer 3)], 0⟩ agg s).1 =
        .ok (.scalar (.integer 5)) ∧
      ((evalAt {} 257 ⟨[row (.integer 2), row (.string "x"), row (.integer 3)], 0⟩ agg s).1.mapError
        EvalError.rootCause) = .error (.typeMismatch "string" "integer") := by
  intro selector value agg row
  let body : Instance := ⟨.mk (.builtin (.compare .gt)) [.placeholder 0, .literal (.integer 1)],
    .blank⟩
  let big : Definition := { name := "big", body := .expression body, arity := .exactly 1 }
  let built : World := { registry := { hosted := Registry.standard.hosted } }
  let defined : World := built.adding big
  let used := Instance.evaluate {} [] ⟨selector, .blank⟩ { defined with fact := .empty }
  have named : Registry.checkName "big" = .ok () := rfl
  have made : built.define big = .ok defined := World.define_eq_ok.2 ⟨named, rfl, rfl⟩
  have fromPool {pool : List Instance} (member : body ∈ pool) :
      ∀ b, big.body = .expression b → b ∈ pool := by
    rintro _ ⟨⟩
    exact member
  have ready : Session.Attainable ⟨[⟨selector, .blank⟩, ⟨agg, .blank⟩, body], defined⟩ :=
    .step (.step (.step (.step (.start Registry.standard.hosted 1) (.build body.term))
      (.build agg)) (.build selector)) (.define (fromPool (by simp [body])) made)
  have ran : Instance.evaluate {} [] ⟨selector, .blank⟩ { defined with fact := .empty } =
      (used.1, ⟨selector, used.2.1.memory⟩, used.2.2) := rfl
  have attainable := (Session.Attainable.step ready (.evaluate {} [] .empty (by simp) ran)).put
    (i := ⟨agg, .blank⟩) (c := selector) (k := used.2.1.memory) (p := 0) (by simp) (by simp) rfl
  let s : State := ⟨Memory.blank.setChild 0 used.2.1.memory, { used.2.2 with fact := .empty }⟩
  have registry : s.world.registry = defined.registry := rfl
  have arises (rows : List Row) : Call.Arises {} ⟨256 + 1, ⟨rows, 0⟩, agg, s⟩ :=
    .evaluate 257 ⟨rows, 0⟩ .empty attainable List.mem_cons_self
  have steady : selector.UsesOnly .steady := by
    refine Term.usesOnly_mk.2 ⟨⟨fun b is => (by cases is), fun _ _ => trivial⟩, ?_⟩
    intro o member t carried
    rw [List.mem_singleton.1 member] at carried
    cases carried
  have bodies : s.world.registry.IsSteady := by
    rw [registry]
    intro d member body' isBody
    obtain rfl := List.mem_singleton.1 member
    cases isBody
    refine Term.usesOnly_mk.2 ⟨⟨fun b is => ?_, fun _ _ => trivial⟩, ?_⟩
    · cases is
      decide
    · intro o member t carried
      simp only [List.mem_cons, List.not_mem_nil, or_false] at member
      rcases member with rfl | rfl <;> cases carried
  have good := aggregate_selects (arises [row (.integer 1), row (.integer 2), row (.integer 3)])
    rfl rfl rfl steady bodies
  have bad := aggregate_selects (arises [row (.integer 2), row (.string "x"), row (.integer 3)])
    rfl rfl rfl steady bodies
  refine ⟨s, rfl, arises, rfl, steady, bodies, ?_, ?_⟩
  · refine (good.2.2.1 fun r member => ?_).1.trans rfl
    simp only [List.mem_cons, List.not_mem_nil, or_false] at member
    rcases member with rfl | rfl | rfl <;> rfl
  · obtain ⟨failed, cause, -⟩ := bad.2.1 [row (.integer 2)] (row (.string "x")) [row (.integer 3)]
      _ rfl (fun r member => by rw [List.mem_singleton.1 member]; rfl) rfl
    rw [failed]
    exact congrArg Except.error cause

end FactScan
