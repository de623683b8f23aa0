/-
# FactScan.Proofs.Simplify.Folding — closed expressions fold completely

A term of comparisons, computations and logic over literals (`Term.isClosed`) needs no fact.
Simplification works such a term out, operand by operand, and evaluation does so step by step,
stopping at the operand that decides.  Both come to the same: where evaluating a closed term
gives a value, it is one scalar, and the simplified term is the constant of that scalar
(`Instance.simplify_closed`).  Nothing is said of operands that evaluation does not reach, and
those may be in error.

The proof runs along the acts of an evaluation that succeeds (`Act.Returns`), and says of each
operand reached that its simplified form stands for the scalar it came to
(`Simplify.StandsFor`).
-/
import FactScan.Proofs.Simplify.Outcome
import Mathlib.Data.List.Forall2

namespace FactScan

set_option autoImplicit false

/-- The operators that simplification works out on constants, and `const` itself. -/
def Builtin.isCombining : Builtin → Bool
  | .const | .compare _ | .arithmetic _ | .and | .or | .not | .either => true
  | _ => false

/-- An expression of such operators over literals. -/
def Term.isClosed (t : Term) : Bool :=
  t.walk.all fun u => u.operator.builtin?.any Builtin.isCombining && u.operands.all fun o =>
    match o with
    | .literal _ | .nested _ => true
    | _ => false

theorem Term.isClosed_mk {op : Operator} {operands : List Operand}
    (closed : (Term.mk op operands).isClosed = true) :
    (∃ b, op = .builtin b ∧ b.isCombining = true) ∧
      ∀ o ∈ operands, (∃ a, o = .literal a) ∨ ∃ t, o = .nested t ∧ t.isClosed = true := by
  have within {u : Term} (inside : u ∈ (Term.mk op operands).walk) :=
    List.all_eq_true.1 closed u inside
  have own := within (Term.self_mem_walk _)
  simp only [Term.operator, Term.operands, Bool.and_eq_true, List.all_eq_true] at own
  obtain ⟨isCombining, flat⟩ := own
  constructor
  · cases op with
    | builtin b => exact ⟨b, rfl, isCombining⟩
    | custom name => cases isCombining
  · intro o member
    cases o with
    | literal a => exact .inl ⟨a, rfl⟩
    | nested t =>
        refine .inr ⟨t, rfl, List.all_eq_true.2 fun u inside => ?_⟩
        exact within (Term.mem_walk.2 (.inr ⟨t, member, inside⟩))
    | field name => cases flat _ member
    | placeholder n => cases flat _ member

namespace Simplify

/-- A simplified operand stands for the scalar that the operand it was made from comes to. -/
def StandsFor (evaluate : Evaluator) (site : Site) (t : Term) (p : Nat) (part : Part) : Prop :=
  (resolve evaluate site t p).Returns fun v => ∃ a, v = .sequence [a] ∧
    part.operand.constant? = some a

/-! ## Junctions -/

section

variable {evaluate : Evaluator} {site : Site} {t : Term} {parts : List Part}

/-- The operands of a junction that were reached are constants, and decide as they did. -/
theorem anyIs_live (absorbing : Bool) {ps : List Nat}
    (known : List.Forall₂ (StandsFor evaluate site t) ps parts) :
    (Operators.anyIs evaluate site t absorbing ps).Returns fun decided =>
      if decided then ∃ part a, live absorbing parts = ([part], true) ∧
        part.operand.constant? = some a
      else live absorbing parts = ([], false) := by
  induction known with
  | nil => exact .pure rfl
  | @cons p part ps parts first _ ih =>
      refine .bind first fun v comes => ?_
      obtain ⟨a, rfl, constant⟩ := comes
      rw [Value.isTruthy_single]
      by_cases absorbs : a.isTruthy = absorbing
      · rw [if_pos absorbs]
        refine .pure ⟨part, a, ?_, constant⟩
        rw [live, constant]
        exact if_pos absorbs
      · have dropped : live absorbing (part :: parts) = live absorbing parts := by
          rw [live, constant]
          exact if_neg absorbs
        rw [if_neg absorbs, dropped]
        exact ih

theorem junction_folds (absorbing : Bool) (op : Operator)
    (known : List.Forall₂ (StandsFor evaluate site t) t.positions parts)
    (settings : Settings) :
    ((Builtin.junction absorbing).run settings evaluate site t).Returns fun v =>
      ∃ a, v = .scalar a ∧ junction absorbing op parts = constant a := by
  rw [Builtin.run_junction]
  refine .bind (.checkArity _ _) fun _ admitted => ?_
  refine .bind (anyIs_live absorbing known) fun decided outcome => .pure ?_
  refine ⟨.boolean (decided == absorbing), rfl, ?_⟩
  have some_ : ¬ (parts.isEmpty = true) := by
    intro empty
    have none_ : t.arity = 0 := by
      have same := known.length_eq
      rw [List.isEmpty_iff.1 empty] at same
      simpa [Term.positions] using same
    rw [none_] at admitted
    cases admitted
  rw [junction, if_neg some_]
  cases decided with
  | false =>
      have live_ : live absorbing parts = ([], false) := outcome
      rw [live_, Bool.false_beq]
  | true =>
      obtain ⟨part, a, live_, known⟩ := outcome
      have isPure : [part].all (·.operand.isPure) = true := by
        simp [Operand.isPure_of_constant known]
      rw [live_, Bool.true_beq]
      exact if_pos isPure

end

/-! ## Comparisons and computations -/

/-- Two literals are compared or computed with in one step. -/
theorem run_literals {b : Builtin} (isBinary : (∃ c, b = .compare c) ∨ ∃ a, b = .arithmetic a)
    (settings : Settings) (evaluate : Evaluator) (site : Site) (op : Operator) (x y : Scalar)
    (s : State) :
    b.run settings evaluate site (.mk op [.literal x, .literal y]) s = (b.combine x y, s) := by
  rcases isBinary with ⟨c, rfl⟩ | ⟨a, rfl⟩
  · have step : (Builtin.compare c).run settings evaluate site
        (.mk op [.literal x, .literal y]) s =
        (Act.ofExcept (c.values (.sequence [x]) (.sequence [y])) >>= fun holds =>
          Pure.pure (Value.boolean holds)) s := rfl
    rw [step, Builtin.combine]
    cases c.values (.sequence [x]) (.sequence [y]) <;> rfl
  · have step : (Builtin.arithmetic a).run settings evaluate site
        (.mk op [.literal x, .literal y]) s =
        (Act.ofExcept (a.apply x y) >>= fun z => Pure.pure (Value.scalar z)) s := rfl
    rw [step, Builtin.combine]
    cases a.apply x y <;> rfl

variable {settings : Settings} {registry : Registry} {evaluate : Evaluator} {site : Site}
  {t : Term} {parts : List Part}

/-- What two constants give is found out, where their operator is hosted. -/
theorem worth_of_combine {b : Builtin} {x y a : Scalar} (hosted : registry.hosts b = true)
    (isBinary : (∃ c, b = .compare c) ∨ ∃ a, b = .arithmetic a)
    (made : b.combine x y = .ok (.scalar a)) :
    worth? settings registry (.mk (.builtin b) [.literal x, .literal y]) = some a := by
  unfold worth? FactScan.evaluate
  rw [evalAt_succ, dispatch_builtin rfl hosted, Act.mapError, run_literals isBinary, made]

theorem fold_folds {b : Builtin} (hosted : registry.hosts b = true)
    (isBinary : (∃ c, b = .compare c) ∨ ∃ a, b = .arithmetic a)
    (known : List.Forall₂ (StandsFor evaluate site t) t.positions parts) :
    (b.run settings evaluate site t).Returns fun v =>
      ∃ a, v = .scalar a ∧ fold settings registry (.builtin b) parts = constant a := by
  have operands (two : t.arity = 2) : ∃ part other, parts = [part, other] ∧
      StandsFor evaluate site t 0 part ∧ StandsFor evaluate site t 1 other := by
    rw [Term.positions, two] at known
    obtain _ | ⟨first, _ | ⟨second, _ | _⟩⟩ := known
    exact ⟨_, _, rfl, first, second⟩
  -- What each side stands for, in terms that need not know yet how many operands there are.
  let isWorth (p : Nat) (x : Scalar) : Prop := parts[p]?.bind (·.operand.constant?) = some x
  have left (two : t.arity = 2) : (resolve evaluate site t 0).Returns fun v =>
      ∃ x, v = .sequence [x] ∧ isWorth 0 x := by
    obtain ⟨part, other, rfl, first, -⟩ := operands two
    exact first
  have right (two : t.arity = 2) : (resolve evaluate site t 1).Returns fun v =>
      ∃ y, v = .sequence [y] ∧ isWorth 1 y := by
    obtain ⟨part, other, rfl, -, second⟩ := operands two
    exact second
  refine (Builtin.run_binary left right isBinary).mono ?_
  rintro v ⟨two, x, y, isX, isY, made⟩
  obtain ⟨part, other, rfl, -, -⟩ := operands two
  obtain ⟨a, rfl, -⟩ := Builtin.combine_isMade made
  have isX : part.operand.constant? = some x := isX
  have isY : other.operand.constant? = some y := isY
  refine ⟨a, rfl, ?_⟩
  rw [fold, probe?, isX, isY]
  simp only [Option.bind_some, worth_of_combine hosted isBinary made]

/-! ## Rules -/

theorem not_folds (known : List.Forall₂ (StandsFor evaluate site t) t.positions parts) :
    (Builtin.not.run settings evaluate site t).Returns fun v =>
      ∃ a, v = .scalar a ∧ builtin settings registry .not parts = constant a := by
  show (Operators.not evaluate site t).Returns _
  unfold Operators.not
  refine .bind (.checkArity _ _) fun _ admitted => ?_
  rw [Term.positions, beq_iff_eq.1 admitted] at known
  obtain _ | ⟨first, _ | _⟩ := known
  refine .bind first fun v comes => .pure ?_
  obtain ⟨a, rfl, constant⟩ := comes
  refine ⟨.boolean !a.isTruthy, ?_, ?_⟩
  · rw [Value.isTruthy_single]
    rfl
  · rw [builtin, constant]
    rfl

theorem either_folds (known : List.Forall₂ (StandsFor evaluate site t) t.positions parts) :
    (Builtin.either.run settings evaluate site t).Returns fun v =>
      ∃ a, v = .scalar a ∧ builtin settings registry .either parts = constant a := by
  show (Operators.either evaluate site t).Returns _
  unfold Operators.either
  refine .bind (.checkArity _ _) fun _ admitted => ?_
  rw [Term.positions, beq_iff_eq.1 admitted] at known
  obtain _ | ⟨first, _ | ⟨_, _ | _⟩⟩ := known
  refine .bind first fun v comes => ?_
  obtain ⟨a, rfl, constant⟩ := comes
  -- A scalar is not nothing, so the second operand is not reached.
  refine .pure ⟨a, rfl, ?_⟩
  rw [builtin, constant]
  rfl

/-- Every rule gives the constant that its operator comes to. -/
theorem builtin_folds (hosted : ∀ b, registry.hosts b = true) {b : Builtin}
    (isCombining : b.isCombining = true) (other : b ≠ .const)
    (known : List.Forall₂ (StandsFor evaluate site t) t.positions parts) :
    (b.run settings evaluate site t).Returns fun v =>
      ∃ a, v = .scalar a ∧ builtin settings registry b parts = constant a := by
  cases b with
  | and => exact junction_folds false _ known settings
  | or => exact junction_folds true _ known settings
  | not => exact not_folds known
  | either => exact either_folds known
  | compare c => exact fold_folds (hosted _) (.inl ⟨c, rfl⟩) known
  | arithmetic a => exact fold_folds (hosted _) (.inr ⟨a, rfl⟩) known
  | const => exact absurd rfl other
  | _ => cases isCombining

end Simplify

/-! ## Expressions -/

section

variable {settings : Settings} {registry : Registry}

theorem Term.simplifyAt_constantOf (depth : Nat) (m : Memory) (a : Scalar) :
    ((Term.constantOf a).simplifyAt settings registry depth m).term = .constantOf a := by
  rw [Term.constantOf, Term.simplifyAt]
  split
  · rfl
  · cases a <;> rfl

theorem Operators.const_folds (t : Term) :
    (Operators.const t).Returns fun v => ∃ a, v = .scalar a ∧ t.operands = [.literal a] := by
  unfold Operators.const
  refine .bind (.checkArity _ _) fun _ admitted => ?_
  obtain ⟨op, operands⟩ := t
  obtain ⟨o, rfl⟩ := List.length_eq_one_iff.1 (beq_iff_eq.1 admitted)
  cases o with
  | literal a => exact .pure ⟨a, rfl, rfl⟩
  | _ => exact .fail

/-- What an operand of a closed expression comes to is what its simplified form stands for. -/
theorem Operand.simplifyAt_standsFor {levels : Nat} {site : Site} {t : Term} {p : Nat}
    {o : Operand} (at_ : t.operand? p = some o) (m : Memory)
    (isClosed : (∃ a, o = .literal a) ∨ ∃ u, o = .nested u ∧
      (evalAt settings levels site.deeper u).Returns fun v => ∃ a, v = .scalar a ∧
        (u.simplifyAt settings registry site.deeper.depth m).term = .constantOf a) :
    Simplify.StandsFor (evalAt settings levels) site t p
      (o.simplifyAt settings registry site.deeper.depth m) := by
  unfold Simplify.StandsFor resolve
  rw [at_]
  rcases isClosed with ⟨a, rfl⟩ | ⟨u, rfl, folds⟩
  · refine .pure ⟨a, rfl, ?_⟩
    cases a <;> rfl
  · refine .bind (.atChild p folds) fun v comes => ?_
    obtain ⟨a, rfl, same⟩ := comes
    refine .pure ⟨a, rfl, ?_⟩
    show (u.simplifyAt settings registry site.deeper.depth m).term.constant? = some a
    rw [same]
    rfl

/-- Operands side by side with their simplified forms. -/
theorem Operand.listSimplifyAt_forall {R : Nat → Part → Prop} {depth : Nat}
    {operands : List Operand} {ms : List Memory}
    (each : ∀ p o, operands[p]? = some o →
      R p (o.simplifyAt settings registry depth (ms.getD p .blank))) :
    List.Forall₂ R (List.range operands.length)
      (Operand.listSimplifyAt settings registry depth operands ms) := by
  refine List.forall₂_iff_get.2 ⟨?_, fun p low low' => ?_⟩
  · rw [List.length_range, Operand.length_listSimplifyAt]
  · have inside : p < operands.length := by simpa using low
    have found := Operand.getElem?_listSimplifyAt settings registry depth operands ms p
    rw [List.getElem?_eq_getElem low', List.getElem?_eq_getElem inside] at found
    rw [List.get_eq_getElem, List.get_eq_getElem, List.getElem_range, Option.some.inj found]
    exact each p _ (List.getElem?_eq_getElem inside)

/-- **Closed expressions fold**, at every level, to what they are evaluated to. -/
theorem Term.evalAt_folds (hosted : ∀ b, registry.hosts b = true) (t : Term)
    (closed : t.isClosed = true) (levels : Nat) (site : Site) (m : Memory)
    (level : site.depth + levels = settings.maxDepth + 1) :
    (evalAt settings levels site t).Returns fun v => ∃ a, v = .scalar a ∧
      (t.simplifyAt settings registry site.depth m).term = .constantOf a := by
  induction t using Term.nested_induction generalizing levels site m with
  | step op operands ih =>
      cases levels with
      | zero => exact .fail
      | succ levels =>
          obtain ⟨⟨b, rfl, isCombining⟩, below⟩ := Term.isClosed_mk closed
          refine dispatch_returns rfl ?_
          by_cases isConst : b = .const
          · subst isConst
            refine (Operators.const_folds _).mono ?_
            rintro v ⟨a, rfl, same⟩
            refine ⟨a, rfl, ?_⟩
            obtain rfl : operands = [.literal a] := same
            exact simplifyAt_constantOf site.depth m a
          · -- With a level left to evaluate the term, it is not too deep to simplify.
            have within : ¬ (Simplify.isKept settings site.depth (.builtin b) = true) := by
              have deep : ¬ settings.maxDepth < site.depth := by omega
              have other : b ≠ .define := by
                rintro rfl
                cases isCombining
              simp [Simplify.isKept, deep, other]
            rw [Term.simplifyAt, if_neg within]
            have known : List.Forall₂
                (Simplify.StandsFor (evalAt settings levels) site (.mk (.builtin b) operands))
                (Term.mk (.builtin b) operands).positions
                (Operand.listSimplifyAt settings registry (site.depth + 1) operands
                  m.children) := by
              refine Operand.listSimplifyAt_forall fun p o found => ?_
              have member := List.mem_of_getElem? found
              refine Operand.simplifyAt_standsFor found _ ?_
              rcases below o member with isLiteral | ⟨u, rfl, inside⟩
              · exact .inl isLiteral
              · have deeper : site.deeper.depth + levels = settings.maxDepth + 1 := by
                  show site.depth + 1 + levels = _
                  omega
                exact .inr ⟨u, rfl, ih u member inside levels site.deeper _ deeper⟩
            refine (Simplify.builtin_folds hosted isCombining isConst known).mono ?_
            rintro v ⟨a, rfl, same⟩
            exact ⟨a, rfl, congrArg Instance.term same⟩

end

/-- **Closed expressions fold completely, to what evaluation computes.**  Take an engine that
hosts all families, with any settings, and an expression of comparisons, computations and
logic over literals.  If it has a value, whatever the fact and the rows, then that value is
one scalar, and simplifying gives the constant of that scalar.  Operands that the evaluation
did not reach may well be in error. -/
theorem Instance.simplify_closed (settings : Settings) (registry : Registry)
    (hosted : ∀ b, registry.hosts b = true) (i : Instance) (closed : i.term.isClosed = true)
    (rows : List Row) (w : World) (v : Value) (ran : (i.evaluate settings rows w).1 = .ok v) :
    ∃ a, v = .scalar a ∧ (i.simplify settings registry).term = .constantOf a := by
  obtain ⟨s, step, -⟩ := Instance.evaluate_ok ran
  have folds := Term.evalAt_folds hosted i.term closed (settings.maxDepth + 1) ⟨rows, 0⟩ i.memory
    (Nat.zero_add _)
  exact (folds _ v s step).1

/-- In `(or (not (lt 2 1)) (div 1 0))` the division is not reached, and all of it is
`(const true)`. -/
theorem Instance.simplify_closed_unreached :
    let quotient : Term := .mk (.builtin (.arithmetic .div)) [.literal (.integer 1),
      .literal (.integer 0)]
    let below : Term := .mk (.builtin (.compare .lt)) [.literal (.integer 2),
      .literal (.integer 1)]
    let i : Instance := ⟨.mk (.builtin .or)
      [.nested (.mk (.builtin .not) [.nested below]), .nested quotient], .blank⟩
    let w : World := { registry := .standard }
    (Instance.evaluate {} [] ⟨quotient, .blank⟩ w).1.toOption.isNone = true ∧
    i.term.isClosed = true ∧ (i.evaluate {} [] w).1 = .ok (.boolean true) ∧
    ∃ a, Value.boolean true = .scalar a ∧ (i.simplify {} .standard).term = .constantOf a := by
  intro quotient below i w
  exact ⟨rfl, rfl, rfl, Instance.simplify_closed {} .standard Registry.standard_hosts i rfl [] w _
    rfl⟩

end FactScan
