/-
# FactScan.Proofs.Tracing.Undisturbed — `traced` around operands

Putting `traced` around operands of a term changes nothing but the log, if as many levels are
added.  The runs of a term as it is, under marks, and with `traced` in their place keep in step:

* `Act.InStep.evaluator_same`: for any one term in all three runs;
* `Act.InStep.evaluator_wrapped`: for a term of built-in operators with `traced` put in, by
  induction on the term, for every set of spots;
* `Instance.scan_traced`: for scans.
-/
import FactScan.Proofs.Tracing.InStep

namespace FactScan

set_option autoImplicit false

/-! ## Evaluations -/

/-- The evaluators of three runs: that with `traced` put in has more levels. -/
def Run.evaluator (settings : Run → Settings) (levels extra : Nat) : Run → Evaluator
  | .plain => evalAt (settings .plain) levels
  | .watched => watchAt (settings .watched) levels
  | .traced => evalAt (settings .traced) (levels + extra)

section

variable {settings : Run → Settings} {levels extra : Nat} {rows : List Row}

/-- With a level left, a term that `traced` would not refuse is dispatched. -/
theorem Run.evaluator_succ {i : Run} {site : Site} {t : Term}
    (unmarked : t.operator = .builtin .traced → t.arity = 1) :
    i.evaluator settings (levels + 1) extra site t =
      dispatch (settings i) (i.evaluator settings levels extra) site t := by
  cases i with
  | plain => rfl
  | watched => exact watch_unmarked unmarked
  | traced =>
      show evalAt (settings .traced) (levels + 1 + extra) site t = _
      rw [Nat.add_right_comm, evalAt_succ]
      rfl

namespace Act.InStep

variable {start : List Record} {R : Memory → Memory → Prop}

theorem evaluator_zero (depth : Run → Nat) (t : Run → Term) :
    InStep start R Value fun i => i.evaluator settings 0 extra ⟨rows, depth i⟩ (t i) :=
  of_failing fun _ => ⟨_, rfl⟩

theorem evaluator_succ {depth : Run → Nat} {t : Run → Term}
    (operator : ∀ i, (t i).operator = (t .plain).operator)
    (arity : ∀ i, (t i).arity = (t .plain).arity)
    (step : InStep start R Value fun i =>
      dispatch (settings i) (i.evaluator settings levels extra) ⟨rows, depth i⟩ (t i)) :
    InStep start R Value fun i =>
      i.evaluator settings (levels + 1) extra ⟨rows, depth i⟩ (t i) := by
  intro j related a ran
  obtain ⟨s, done⟩ : ∃ s, dispatch (settings .plain) (evalAt (settings .plain) levels)
      ⟨rows, depth .plain⟩ (t .plain) (j.state .plain) = (.ok a, s) := ⟨_, Prod.ext ran rfl⟩
  have unmarked (is : (t .plain).operator = .builtin .traced) : (t .plain).arity = 1 :=
    dispatch_traced_arity is done
  refine step.transfer related (fun i => ?_) ran
  rw [Run.evaluator_succ fun is => (arity i).trans (unmarked ((operator i).symm.trans is))]

variable {level : Level} (logged : ∀ i, (settings i).traceLevel = level)
include logged

/-- **One term in all three runs**, which remember the same. -/
theorem evaluator_same (extra : Nat) : ∀ (levels : Nat) (rows : List Row) (depth : Run → Nat)
    (c : Term),
    InStep start Eq Value fun i => i.evaluator settings levels extra ⟨rows, depth i⟩ c
  | 0, _, _, _ => evaluator_zero _ _
  | levels + 1, _, depth, c =>
      evaluator_succ (fun _ => rfl) (fun _ => rfl)
        (dispatch_same logged (evaluator_same extra levels) depth c)

/-- An operand at a spot: the mark notes its value and takes no level, `traced` shows the value
and takes a level of its own. -/
theorem evaluator_spot {S : Spots} {u : Term}
    (inside : ∀ (rows : List Row) (depth : Run → Nat), InStep start (Memory.Mirrors S u) Value
      fun i => i.evaluator settings levels extra ⟨rows, depth i⟩ (u.wrapped i.wrap S))
    (rows : List Row) (depth : Run → Nat) :
    InStep start (fun m m' => Memory.Mirrors S u m (m'.child 0)) Value fun i =>
      i.evaluator settings levels (extra + 1) ⟨rows, depth i⟩ (i.wrap (u.wrapped i.wrap S)) := by
  intro j related v ran
  let outer : Term := (u.wrapped .tracedOf S).tracedOf
  -- Only `traced` is dispatched before the operand, and its memory is left for that of the operand.
  obtain ⟨j', related', run⟩ := inside rows (Run.apart (depth .traced + 1) depth)
    { memory := Run.apart ((j.memory .traced).child 0) j.memory
      world := j.world
      log := fun i =>
        Run.apart [.dispatched (depth .traced) outer] (fun _ => []) i ++ j.log i }
    { related with logs := related.logs.quiet _ (by rintro ⟨⟩ <;> rfl) } v ran
  refine ⟨{ memory := Run.apart ((j.memory .traced).setChild 0 (j'.memory .traced)) j'.memory
            world := j'.world
            log := fun i => i.noted level S u v ++ j'.log i },
    { related' with
      memories := ?_
      logs := related'.logs.spot level S u v }, fun i => ?_⟩
  · show Memory.Mirrors S u (j'.memory .plain)
      (((j.memory .traced).setChild 0 (j'.memory .traced)).child 0)
    rw [Memory.child_setChild_self]
    exact related'.memories
  · cases i with
    | plain => exact run .plain
    | watched =>
        have noted := watchAt_watchedOf (run .watched)
        rw [logged] at noted
        exact noted
    | traced =>
        have ran : evalAt (settings .traced) (levels + extra) (Site.deeper ⟨rows, depth .traced⟩)
            (u.wrapped .tracedOf S) ⟨(j.state .traced).memory.child 0,
              (j.state .traced).world.note (.dispatched (depth .traced) outer)⟩ =
            (.ok v, j'.state .traced) := run .traced
        have shown := evalAt_tracedOf related.hosted ran
        rw [logged] at shown
        exact shown

/-- **A term with `traced` put in**, against the term itself: as long as there are as many levels
more as there are spots, the runs keep in step. -/
theorem evaluator_wrapped {t : Term} (builtin : t.IsBuiltin) :
    ∀ (S : Spots) (levels extra : Nat), t.spotCount S ≤ extra →
      ∀ (rows : List Row) (depth : Run → Nat), InStep start (Memory.Mirrors S t) Value
        fun i => i.evaluator settings levels extra ⟨rows, depth i⟩ (t.wrapped i.wrap S) := by
  induction builtin with
  | @mk b operands _ ih =>
      intro S levels extra enough rows depth
      cases levels with
      | zero => exact evaluator_zero depth _
      | succ levels =>
          have nested (p : Nat) (u : Term) (found : operands[p]? = some (.nested u))
              (entered : (Operator.builtin b).keepsBody p = false) (rows : List Row)
              (depth : Run → Nat) : InStep start
                (fun m m' => Memory.Mirrors (S.under p) u m (if S [p] then m'.child 0 else m'))
                Value fun i => i.evaluator settings levels extra ⟨rows, depth i⟩
                  (if S [p] then i.wrap (u.wrapped i.wrap (S.under p))
                    else u.wrapped i.wrap (S.under p)) := by
            have below := Nat.le_trans (Term.spotCount_nested_le (S := S) found entered) enough
            cases spot : S [p] with
            | false =>
                simp only [spot, Bool.false_eq_true, if_false, Nat.zero_add] at below ⊢
                exact ih p u found entered (S.under p) levels extra below rows depth
            | true =>
                simp only [spot, if_true] at below ⊢
                obtain ⟨extra, rfl⟩ :=
                  Nat.exists_eq_add_of_le' (Nat.le_trans (Nat.le_add_right 1 _) below)
                exact evaluator_spot logged
                  (ih p u found entered (S.under p) levels extra (by omega)) rows depth
          have C := counterparts_wrapped (evaluator_same logged extra levels) nested depth
          refine evaluator_succ (fun i => ?_) (fun i => ?_)
            (dispatch_builtin logged (fun i => Term.operator_wrapped _) C
              (permitted Memory.Mirrors.tied level fun is => ?_))
          · rw [Term.operator_wrapped, Term.operator_wrapped]
          · rw [Term.arity_wrapped, Term.arity_wrapped]
          · subst is
            have body (i : Run) :
                ((Term.mk (.builtin .define) operands).wrapped i.wrap S).operand? 1 =
                  operands[1]? := Term.operand?_wrapped_body rfl
            refine define C (fun i => (body i).trans (body .plain).symm) fun o found => ?_
            exact Memory.Mirrors.carries_data ((body .plain).symm.trans found) (.inl rfl)

end Act.InStep

end

/-! ## Scans -/

namespace Instance

/-- Scans keep in step if evaluations do. -/
theorem scanWith_inStep {start : List Record} {R : Memory → Memory → Prop}
    {evaluate : Run → Evaluator} {rows : List Row} {t : Run → Term}
    (step : Act.InStep start R Value fun i => evaluate i ⟨rows, 0⟩ (t i)) (facts : List Fact) :
    ∀ (j : Runs), j.Related start R → ∀ values,
      (scanWith (evaluate .plain) rows facts ⟨t .plain, j.memory .plain⟩
        (j.state .plain).world).values = .ok values →
      ∃ (j' : Runs) (left : List Fact), j'.Related start R ∧ ∀ i,
        scanWith (evaluate i) rows facts ⟨t i, j.memory i⟩ (j.state i).world =
          ⟨.ok values, ⟨t i, j'.memory i⟩, left, (j'.state i).world⟩ := by
  induction facts with
  | nil =>
      intro j related values succeeded
      cases succeeded
      exact ⟨j, [], related, fun _ => rfl⟩
  | cons fact facts ih =>
      intro j related values succeeded
      rcases ran : evaluate .plain ⟨rows, 0⟩ (t .plain)
        ⟨j.memory .plain, { (j.state .plain).world with fact }⟩ with ⟨e | v, s⟩
      · rw [scanWith_error ran] at succeeded
        cases succeeded
      · rw [scanWith_ok ran] at succeeded
        obtain ⟨j₁, related₁, run⟩ := step { j with world := { j.world with fact } }
          { related with } v (congrArg Prod.fst ran)
        cases ran.symm.trans (run .plain)
        obtain ⟨vs, rest, rfl⟩ := ScanResult.after_ok succeeded
        obtain ⟨j₂, left, related₂, all⟩ := ih j₁ related₁ vs rest
        refine ⟨j₂, j₁.world.fact :: left, related₂, fun i => ?_⟩
        rw [scanWith_ok (run i)]
        exact congrArg (ScanResult.after v j₁.world.fact) (all i)

/-- **`traced` does not disturb.**  Let `traced` be put around any nested operands, at any depth,
of a term of built-in operators, and let the limit be raised by their number.  As long as a scan
of the term itself succeeds, the scan with `traced` gives the same values, leaves the same facts
and registry, and every term remembers the same.  The values of the operands, as an evaluator
under marks notes them in a scan that is otherwise the same, are shown one by one in records that
come between those that the term asks for by itself. -/
theorem scan_traced (settings : Settings) (rows : List Row) (facts : List Fact) {t : Term}
    (builtin : t.IsBuiltin) (S : Spots) {m m' : Memory} (mirrors : Memory.Mirrors S t m m')
    {w : World} (hosted : w.registry.hosts .traced = true) {values : List Value}
    (succeeded : (Instance.scan settings rows facts ⟨t, m⟩ w).values = .ok values) :
    let raised : Settings := { settings with maxDepth := settings.maxDepth + t.spotCount S }
    let plain := Instance.scan settings rows facts ⟨t, m⟩ w
    let watched := Instance.scanWith (watchAt settings (settings.maxDepth + 1)) rows facts
      ⟨t.wrapped .watchedOf S, m⟩ w
    let traced := Instance.scan raised rows facts ⟨t.wrapped .tracedOf S, m'⟩ w
    (traced.values = .ok values ∧ traced.facts = plain.facts ∧ plain.world.Alike traced.world ∧
      Memory.Mirrors S t plain.term.memory traced.term.memory) ∧
    (watched.values = .ok values ∧ watched.facts = plain.facts ∧
      plain.world.Alike watched.world ∧ watched.term.memory = plain.term.memory) ∧
    Record.Aligned (w.tracedSince plain.world) (w.tracedSince watched.world)
      (w.tracedSince traced.world) := by
  intro raised plain watched traced
  let own : Run → Settings := Run.apart raised fun _ => settings
  have logged (i : Run) : (own i).traceLevel = settings.traceLevel := by
    cases i <;> rfl
  have step : Act.InStep w.log (Memory.Mirrors S t) Value fun i =>
      i.evaluator own (settings.maxDepth + 1) (t.spotCount S) ⟨rows, 0⟩ (t.wrapped i.wrap S) :=
    Act.InStep.evaluator_wrapped logged builtin S (settings.maxDepth + 1) (t.spotCount S)
      (Nat.le_refl _) rows fun _ => 0
  let before : Runs := ⟨Run.apart m' fun _ => m, w, fun _ => w.log⟩
  have related : before.Related w.log (Memory.Mirrors S t) :=
    ⟨mirrors, rfl, hosted, .refl w.log⟩
  rw [scan_eq_scanWith] at succeeded
  obtain ⟨after, left, related', all⟩ := scanWith_inStep step facts before related values
    (by rw [show Run.plain.wrap = id from rfl, Term.wrapped_id]; exact succeeded)
  have plainEnd : plain =
      ⟨.ok values, ⟨t, after.memory .plain⟩, left, (after.state .plain).world⟩ := by
    have run := all .plain
    rw [show Run.plain.wrap = id from rfl, Term.wrapped_id] at run
    exact (scan_eq_scanWith ..).trans run
  have watchedEnd : watched =
      ⟨.ok values, ⟨t.wrapped .watchedOf S, after.memory .watched⟩, left,
        (after.state .watched).world⟩ := all .watched
  have tracedEnd : traced =
      ⟨.ok values, ⟨t.wrapped .tracedOf S, after.memory .traced⟩, left,
        (after.state .traced).world⟩ := by
    have levels : raised.maxDepth + 1 = settings.maxDepth + 1 + t.spotCount S :=
      Nat.add_right_comm ..
    have asRun := scan_eq_scanWith raised rows facts ⟨t.wrapped .tracedOf S, m'⟩ w
    rw [levels] at asRun
    exact asRun.trans (all .traced)
  rw [plainEnd, watchedEnd, tracedEnd]
  exact ⟨⟨rfl, rfl, ⟨_, rfl⟩, related'.memories⟩, ⟨rfl, rfl, ⟨_, rfl⟩, related'.watched⟩,
    related'.logs.aligned⟩

/-- `(prev (unique true))` against two facts, with `traced` around its operand. -/
theorem scan_traced_previous :
    let u : Term := .mk (.builtin .unique) [.literal (.boolean true)]
    let t : Term := .mk (.builtin .previous) [.nested u]
    let S : Spots := fun path => path == [0]
    let settings : Settings := { maxDepth := 1 }
    let plain := Instance.scan settings [] [.empty, .empty] ⟨t, .blank⟩ {}
    let traced := Instance.scan { settings with maxDepth := settings.maxDepth + t.spotCount S } []
      [.empty, .empty] ⟨t.wrapped .tracedOf S, .blank⟩ {}
    t.wrapped .tracedOf S = .mk (.builtin .previous) [.nested u.tracedOf] ∧ t.spotCount S = 1 ∧
      plain.values = .ok [.nil, .boolean true] ∧ traced.values = .ok [.nil, .boolean true] ∧
      traced.facts = plain.facts ∧ plain.world.Alike traced.world ∧
      Memory.Mirrors S t plain.term.memory traced.term.memory ∧
      World.tracedSince {} plain.world = [] ∧
      (World.tracedSince {} traced.world).length = 2 := by
  intro u t S settings
  have inner : u.IsBuiltin := .mk fun p c found _ => by
    cases p <;> cases found
  have builtin : t.IsBuiltin := .mk fun p c found _ => by
    cases p with
    | zero =>
        cases found
        exact inner
    | succ p => cases found
  have succeeded : (Instance.scan settings [] [.empty, .empty] ⟨t, .blank⟩ {}).values =
      .ok [.nil, .boolean true] := rfl
  obtain ⟨⟨values, facts, alike, mirrors⟩, -, -⟩ := scan_traced settings [] [.empty, .empty]
    builtin S (.blank S t) (Registry.standard_hosts .traced) succeeded
  exact ⟨rfl, rfl, succeeded, values, facts, alike, mirrors, rfl, by decide +kernel⟩

end Instance

end FactScan
