/-
# FactScan.Proofs.Simplify.Worth — terms whose value is known

`Act.Returns` is a logic of acts that change nothing but the log: the rules for sequences
and for the steps of operators, and from them what terms of constants are worth.  Pure
operands change nothing, whatever their value (`resolve_of_isPure`).

What a term is worth is only claimed where its evaluation succeeds, so none of this needs to
know whether its operators are hosted, or how deep it stands.
-/
import FactScan.Proofs.Purity
import FactScan.Proofs.Simplify.Refinement

namespace FactScan

set_option autoImplicit false

/-! ## Rules -/

namespace Act.Returns

variable {α β : Type} {P : α → Prop} {R : β → Prop} {act : Act α} {f : α → Act β}

theorem pure {a : α} (holds : P a) : Returns (Pure.pure a : Act α) P := by
  rintro s _ _ ⟨⟩
  exact ⟨holds, .refl _⟩

theorem fail {e : EvalError} : Returns (Act.fail e) P := by
  rintro s _ _ ⟨⟩

theorem bind (first : act.Returns P) (next : ∀ a, P a → (f a).Returns R) :
    (act >>= f).Returns R := by
  intro s b s₂ ran
  obtain ⟨a, s₁, ran₁, ran₂⟩ := bind_eq_ok ran
  obtain ⟨holds, agrees₁⟩ := first s a s₁ ran₁
  obtain ⟨holds₂, agrees₂⟩ := next a holds s₁ b s₂ ran₂
  exact ⟨holds₂, agrees₁.trans agrees₂⟩

theorem mono {P' : α → Prop} (returns : act.Returns P) (weaker : ∀ a, P a → P' a) :
    act.Returns P' :=
  fun s a s' ran => (returns s a s' ran).imp_left (weaker a)

theorem atChild (p : Nat) (returns : act.Returns P) : (Act.atChild p act).Returns P := by
  intro s a s' ran
  rw [atChild_apply] at ran
  rcases inner : act { s with memory := s.memory.child p } with ⟨result, s₁⟩
  rw [inner] at ran
  cases ran
  exact returns { s with memory := s.memory.child p } a s₁ inner

theorem ofExcept (r : Except EvalError α) : (Act.ofExcept r).Returns fun a => r = .ok a := by
  cases r with
  | ok a => exact pure rfl
  | error e => exact fail

theorem checkArity (t : Term) (expected : Arity) :
    (FactScan.checkArity t expected).Returns fun _ => expected.admits t.arity = true := by
  unfold FactScan.checkArity
  split
  · exact pure (by assumption)
  · exact fail

end Act.Returns

theorem dispatch_returns {settings : Settings} {evaluate : Evaluator} {site : Site} {t : Term}
    {b : Builtin} (isBuiltin : t.operator = .builtin b) {P : Value → Prop}
    (returns : (b.run settings evaluate site t).Returns P) :
    (dispatch settings evaluate site t).Returns P := by
  intro s v s' ran
  rw [dispatch_builtin isBuiltin (hosts_of_dispatch isBuiltin ran)] at ran
  obtain ⟨holds, agrees⟩ := returns _ v s' (Act.mapError_ok.1 ran)
  exact ⟨holds, (World.Agrees.noted s.world rfl).trans agrees⟩

section

variable (settings : Settings) (levels : Nat) (site : Site)

/-! ## Constants -/

theorem evalAt_constantOf (a : Scalar) :
    (evalAt settings levels site (.constantOf a)).Returns (· = .scalar a) := by
  cases levels with
  | zero => exact .fail
  | succ levels =>
      refine dispatch_returns rfl ?_
      show (Operators.const (.constantOf a)).Returns _
      exact .bind (.checkArity _ _) fun _ _ => .pure rfl

/-- Where `const` is hosted, a constant has its value. -/
theorem evalAt_constantOf_eq (a : Scalar) {s : State}
    (hosted : s.world.registry.hosts .const = true) :
    evalAt settings (levels + 1) site (.constantOf a) s =
      (.ok (.scalar a),
        { s with world := s.world.note (.dispatched site.depth (.constantOf a)) }) := by
  rw [evalAt_succ, dispatch_builtin rfl hosted]
  rfl

theorem resolve_constant {t : Term} {p : Nat} {a : Scalar}
    (constant : (t.operand? p).bind Operand.constant? = some a) :
    (resolve (evalAt settings levels) site t p).Returns (· = .sequence [a]) := by
  obtain ⟨o, at_, isConstant⟩ := Option.bind_eq_some_iff.1 constant
  unfold resolve
  rw [at_]
  rcases Operand.constant?_cases isConstant with rfl | rfl
  · exact .pure rfl
  · refine .bind (.atChild p (evalAt_constantOf settings levels site.deeper a)) fun v is => ?_
    subst is
    exact .pure rfl

end

/-! ## Pure terms -/

/-- Routine records make no definition. -/
theorem World.Agrees.logged (w : World) {new : List Record}
    (routine : ∀ x ∈ new, x.isRoutine = true) : w.Agrees (w.logged new) := by
  have idle : new.filterMap Record.definition? = [] := by
    rw [List.filterMap_eq_nil_iff]
    intro x member
    have isRoutine := routine x member
    cases x <;> first | rfl | cases isRoutine
  refine ⟨rfl, rfl, rfl, ?_⟩
  show _ = (new ++ w.log).filterMap Record.definition?
  rw [List.filterMap_append, idle, List.nil_append]

theorem Act.IsQuiet.returns {α : Type} {act : Unit → Act α} (quiet : IsQuiet α act) :
    (act ()).Returns fun _ => True := by
  intro s a s' ran
  obtain ⟨r, new, routine, run⟩ := quiet s.world
  obtain ⟨m', ran'⟩ := run s.memory
  cases ran.symm.trans ran'
  exact ⟨trivial, .logged s.world routine⟩

/-- **Pure operands change nothing**, as long as the terms they carry as data are inert. -/
theorem resolve_of_isPure (settings : Settings) (levels : Nat) (site : Site) {t : Term}
    {p : Nat} {o : Operand} (at_ : t.operand? p = some o) (isPure : o.isPure = true)
    (carries : o.CarriesInert) :
    (resolve (evalAt settings levels) site t p).Returns fun _ => True :=
  (Operand.resolve_isQuiet settings levels site at_ isPure carries).returns

/-! ## What simplification makes of constants -/

section

variable (settings : Settings) (levels : Nat) (site : Site) {t : Term}

theorem Value.isTruthy_single (a : Scalar) : (Value.sequence [a]).isTruthy = a.isTruthy := by
  cases a <;> rfl

/-- Operands up to an absorbing constant: one of them decides. -/
theorem anyIs_absorbed {absorbing : Bool} {p : Nat} {a : Scalar}
    (last : (t.operand? p).bind Operand.constant? = some a) (absorbs : a.isTruthy = absorbing)
    (ps : List Nat)
    (before : ∀ q ∈ ps, (resolve (evalAt settings levels) site t q).Returns fun _ => True) :
    (Operators.anyIs (evalAt settings levels) site t absorbing (ps ++ [p])).Returns
      (· = true) := by
  induction ps with
  | nil =>
      refine .bind (resolve_constant settings levels site last) fun v is => ?_
      subst is
      rw [Value.isTruthy_single, absorbs, if_pos rfl]
      exact .pure rfl
  | cons q ps ih =>
      have rest := ih fun q' member => before q' (List.mem_cons_of_mem _ member)
      refine .bind (before q List.mem_cons_self) fun v _ => ?_
      split
      · exact .pure rfl
      · exact rest

/-- Constants that are all neutral. -/
theorem anyIs_neutral {absorbing : Bool} (ps : List Nat)
    (neutral : ∀ q ∈ ps, ∃ a, (t.operand? q).bind Operand.constant? = some a ∧
      a.isTruthy ≠ absorbing) :
    (Operators.anyIs (evalAt settings levels) site t absorbing ps).Returns (· = false) := by
  induction ps with
  | nil => exact .pure rfl
  | cons q ps ih =>
      have rest := ih fun q' member => neutral q' (List.mem_cons_of_mem _ member)
      obtain ⟨a, constant, passes⟩ := neutral q List.mem_cons_self
      refine .bind (resolve_constant settings levels site constant) fun v is => ?_
      subst is
      rw [Value.isTruthy_single, if_neg passes]
      exact rest

end

/-- What `and` and `or` do with the answer of their operands. -/
theorem Builtin.run_junction (absorbing : Bool) (settings : Settings) (evaluate : Evaluator)
    (site : Site) (t : Term) :
    (junction absorbing).run settings evaluate site t = (do
      checkArity t (.atLeast 1)
      return .boolean
        ((← Operators.anyIs evaluate site t absorbing t.positions) == absorbing)) := by
  cases absorbing with
  | true =>
      show Operators.or evaluate site t = _
      unfold Operators.or
      simp only [beq_true]
  | false =>
      show Operators.and evaluate site t = _
      unfold Operators.and
      simp only [beq_false]

/-- A comparison or computation of two scalars. -/
def Builtin.combine (b : Builtin) (x y : Scalar) : Except EvalError Value :=
  match b with
  | .compare c => (c.values (.sequence [x]) (.sequence [y])).map .boolean
  | .arithmetic a => (a.apply x y).map .scalar
  | _ => .error .divisionByZero

namespace Term

variable {settings : Settings} {b : Builtin} {t : Term} {a : Scalar}

theorem isWorth_of_run (isBuiltin : t.operator = .builtin b)
    (returns : ∀ levels site,
      (b.run settings (evalAt settings levels) site t).Returns (· = .scalar a)) :
    t.IsWorth settings a := by
  intro levels site
  cases levels with
  | zero => exact .fail
  | succ levels => exact dispatch_returns isBuiltin (returns levels site)

theorem isWorth_absorbed {absorbing : Bool} {os : List Operand} {o : Operand}
    (constant : o.constant? = some a) (absorbs : a.isTruthy = absorbing)
    (isPure : ∀ o' ∈ os, o'.isPure = true) (carries : ∀ o' ∈ os, o'.CarriesInert) :
    (Term.mk (.builtin (.junction absorbing)) (os ++ [o])).IsWorth settings
      (.boolean absorbing) := by
  generalize made : Term.mk (.builtin (.junction absorbing)) (os ++ [o]) = t
  refine isWorth_of_run (b := .junction absorbing) (made ▸ rfl) fun levels site => ?_
  have positions : t.positions = List.range os.length ++ [os.length] := by
    rw [← made]
    show List.range (os ++ [o]).length = _
    rw [List.length_append, List.length_singleton, List.range_succ]
  have last : (t.operand? os.length).bind Operand.constant? = some a := by
    rw [← made]
    show ((os ++ [o])[os.length]?).bind _ = _
    rw [List.getElem?_concat_length]
    exact constant
  have before : ∀ q ∈ List.range os.length,
      (resolve (evalAt settings levels) site t q).Returns fun _ => True := by
    intro q low
    rw [List.mem_range] at low
    have at_ : t.operand? q = some os[q] := by
      rw [← made]
      show (os ++ [o])[q]? = _
      rw [List.getElem?_append_left low, List.getElem?_eq_getElem low]
    have member := List.getElem_mem low
    exact resolve_of_isPure settings levels site at_ (isPure _ member) (carries _ member)
  rw [Builtin.run_junction, positions]
  refine .bind (.checkArity _ _) fun _ _ => ?_
  refine .bind (anyIs_absorbed settings levels site last absorbs _ before) fun decided is => ?_
  subst is
  refine .pure ?_
  rw [Bool.true_beq]
  rfl

theorem isWorth_neutral {absorbing : Bool} {os : List Operand}
    (neutral : ∀ o ∈ os, ∃ a, o.constant? = some a ∧ a.isTruthy ≠ absorbing) :
    (Term.mk (.builtin (.junction absorbing)) os).IsWorth settings (.boolean !absorbing) := by
  refine isWorth_of_run (b := .junction absorbing) rfl fun levels site => ?_
  have all : ∀ q ∈ (Term.mk (.builtin (.junction absorbing)) os).positions, ∃ a,
      ((Term.mk (.builtin (.junction absorbing)) os).operand? q).bind Operand.constant? = some a ∧
        a.isTruthy ≠ absorbing := by
    intro q low
    have low : q < os.length := List.mem_range.1 low
    obtain ⟨a, constant, passes⟩ := neutral os[q] (List.getElem_mem low)
    refine ⟨a, ?_, passes⟩
    show (os[q]?).bind _ = _
    rw [List.getElem?_eq_getElem low]
    exact constant
  rw [Builtin.run_junction]
  refine .bind (.checkArity _ _) fun _ _ => ?_
  refine .bind (anyIs_neutral settings levels site _ all) fun decided is => ?_
  subst is
  refine .pure ?_
  rw [Bool.false_beq]
  rfl

theorem isWorth_not {o : Operand} (constant : o.constant? = some a) :
    (Term.mk (.builtin .not) [o]).IsWorth settings (.boolean !a.isTruthy) := by
  refine isWorth_of_run (b := .not) rfl fun levels site => ?_
  show (Operators.not (evalAt settings levels) site (.mk (.builtin .not) [o])).Returns _
  unfold Operators.not
  refine .bind (.checkArity _ _) fun _ _ => ?_
  refine .bind (resolve_constant settings levels site constant) fun v is => ?_
  subst is
  refine .pure ?_
  rw [Value.isTruthy_single]
  rfl

theorem isWorth_either {o o' : Operand} (constant : o.constant? = some a) :
    (Term.mk (.builtin .either) [o, o']).IsWorth settings a := by
  refine isWorth_of_run (b := .either) rfl fun levels site => ?_
  show (Operators.either (evalAt settings levels) site (.mk (.builtin .either) [o, o'])).Returns _
  unfold Operators.either
  refine .bind (.checkArity _ _) fun _ _ => ?_
  refine .bind (resolve_constant settings levels site constant) fun v is => ?_
  subst is
  exact .pure rfl

end Term

/-! ## Comparisons and computations -/

/-- What a comparison or computation gives, if anything, from what its operands come to. -/
theorem Builtin.run_binary {settings : Settings} {evaluate : Evaluator} {b : Builtin}
    {site : Site} {t : Term} {P R : Scalar → Prop}
    (left : t.arity = 2 → (resolve evaluate site t 0).Returns fun v =>
      ∃ x, v = .sequence [x] ∧ P x)
    (right : t.arity = 2 → (resolve evaluate site t 1).Returns fun v =>
      ∃ y, v = .sequence [y] ∧ R y)
    (isBinary : (∃ c, b = .compare c) ∨ ∃ a, b = .arithmetic a) :
    (b.run settings evaluate site t).Returns fun v =>
      t.arity = 2 ∧ ∃ x y, P x ∧ R y ∧ b.combine x y = .ok v := by
  rcases isBinary with ⟨c, rfl⟩ | ⟨a, rfl⟩
  · show (c.run evaluate site t).Returns _
    unfold Comparison.run
    refine .bind (.checkArity _ _) fun _ admitted => ?_
    have two : t.arity = 2 := beq_iff_eq.1 admitted
    refine .bind (left two) fun l ⟨x, is, isX⟩ => ?_
    refine .bind (right two) fun r ⟨y, is', isY⟩ => ?_
    subst is is'
    refine .bind (.ofExcept _) fun holds made => .pure ⟨two, x, y, isX, isY, ?_⟩
    rw [combine, made]
    rfl
  · show (a.run evaluate site t).Returns _
    unfold Arithmetic.run
    refine .bind (.checkArity _ _) fun _ admitted => ?_
    have two : t.arity = 2 := beq_iff_eq.1 admitted
    refine .bind (left two) fun l ⟨x, is, isX⟩ => ?_
    refine .bind (right two) fun r ⟨y, is', isY⟩ => ?_
    subst is is'
    have x_ : (single a.name (.sequence [x])).Returns (· = some x) := .pure rfl
    have y_ : (single a.name (.sequence [y])).Returns (· = some y) := .pure rfl
    refine .bind x_ fun _ is => ?_
    subst is
    refine .bind y_ fun _ is => ?_
    subst is
    refine .bind (.ofExcept _) fun z made => .pure ⟨two, x, y, isX, isY, ?_⟩
    rw [combine, made]
    rfl

/-- What a comparison or computation of two constants gives, if anything. -/
theorem Builtin.run_constants {settings : Settings} {b : Builtin} {levels : Nat} {site : Site}
    {op : Operator} {o o' : Operand} {x y : Scalar} (first : o.constant? = some x)
    (second : o'.constant? = some y)
    (isBinary : (∃ c, b = .compare c) ∨ ∃ a, b = .arithmetic a) :
    (b.run settings (evalAt settings levels) site (.mk op [o, o'])).Returns
      fun v => b.combine x y = .ok v := by
  have left := resolve_constant settings levels site (t := .mk op [o, o']) (p := 0) first
  have right := resolve_constant settings levels site (t := .mk op [o, o']) (p := 1) second
  refine (run_binary (P := (· = x)) (R := (· = y)) (fun _ => left.mono fun v is => ⟨x, is, rfl⟩)
    (fun _ => right.mono fun v is => ⟨y, is, rfl⟩) isBinary).mono ?_
  rintro v ⟨-, _, _, rfl, rfl, made⟩
  exact made

/-- What the simplifier finds out about two constants, in a world without a fact. -/
theorem Builtin.combine_of_worth {settings : Settings} {registry : Registry} {b : Builtin}
    {x y a : Scalar} (isBinary : (∃ c, b = .compare c) ∨ ∃ a, b = .arithmetic a)
    (worth : Simplify.worth? settings registry (.mk (.builtin b) [.literal x, .literal y]) =
      some a) :
    b.combine x y = .ok (.scalar a) := by
  unfold Simplify.worth? evaluate at worth
  generalize ran : evalAt settings (settings.maxDepth + 1) ⟨[], 0⟩
    (.mk (.builtin b) [.literal x, .literal y]) ⟨.blank, { registry }⟩ = outcome at worth
  obtain ⟨result, s⟩ := outcome
  have returns : (evalAt settings (settings.maxDepth + 1) ⟨[], 0⟩
      (.mk (.builtin b) [.literal x, .literal y])).Returns fun v => b.combine x y = .ok v :=
    dispatch_returns rfl (run_constants rfl rfl isBinary)
  split at worth
  · rename_i a' is
    cases worth
    cases is
    exact (returns _ _ s ran).1
  · cases worth

/-- Truth values, numbers and strings: what comparisons and computations give. -/
def Scalar.isMade : Scalar → Bool
  | .boolean _ | .integer _ | .float _ | .string _ => true
  | _ => false

theorem Arithmetic.apply_isMade {op : Arithmetic} {x y a : Scalar} (made : op.apply x y = .ok a) :
    a.isMade = true := by
  unfold Arithmetic.apply Arithmetic.onIntegers Arithmetic.onFloats at made
  repeat' split at made
  all_goals cases made
  all_goals rfl

theorem Builtin.combine_isMade {b : Builtin} {x y : Scalar} {v : Value}
    (made : b.combine x y = .ok v) : ∃ a, v = .scalar a ∧ a.isMade = true := by
  unfold combine at made
  split at made
  · rename_i op
    cases h : op.values (.sequence [x]) (.sequence [y]) with
    | error e =>
        rw [h] at made
        cases made
    | ok holds =>
        rw [h] at made
        cases made
        exact ⟨_, rfl, rfl⟩
  · rename_i op
    cases h : op.apply x y with
    | error e =>
        rw [h] at made
        cases made
    | ok z =>
        rw [h] at made
        cases made
        exact ⟨z, rfl, Arithmetic.apply_isMade h⟩
  · cases made

/-- **Folding** two constants: what they give in a world without a fact is what they give
anywhere. -/
theorem Term.isWorth_folded {settings : Settings} {b : Builtin} {o o' : Operand}
    {x y a : Scalar} (first : o.constant? = some x) (second : o'.constant? = some y)
    (isBinary : (∃ c, b = .compare c) ∨ ∃ a, b = .arithmetic a)
    (made : b.combine x y = .ok (.scalar a)) :
    (Term.mk (.builtin b) [o, o']).IsWorth settings a := by
  refine isWorth_of_run rfl fun levels site => ?_
  refine (Builtin.run_constants first second isBinary).mono fun v gives => ?_
  exact Except.ok.inj (gives.symm.trans made)

end FactScan
