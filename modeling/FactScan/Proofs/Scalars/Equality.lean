/-
# FactScan.Proofs.Scalars.Equality — equality of scalars and terms is an equivalence

Scalars are equal by kind and shape, and a scalar may be a term, whose operands may be scalars
again; so this is one induction, along the terms that operands hold.  `Equates` is what it
proves of each of them: equality behaves as such wherever the element stands on its left.

* `Scalar.beq_cases`, `Operand.beq_cases`: apart from patterns and from what holds terms, what is
  equal is the same.
* `Term.equates`, `Scalar.equates`: so equality is an equivalence.
-/
import FactScan.Proofs.Terms
import FactScan.Term.Equality

namespace FactScan

set_option autoImplicit false

/-- Equality is reflexive at an element, symmetric there, and transitive from it on. -/
structure Equates {α : Type} [BEq α] (a : α) : Prop where
  self : (a == a) = true
  symm (b : α) : (a == b) = (b == a)
  trans {b c : α} : (a == b) = true → (b == c) = true → (a == c) = true

namespace Equates

/-- Equality that makes a difference only between elements that hold something, in one of two
ways, and then is equality of what they hold. -/
theorem of_held {α β γ : Type} [BEq α] [BEq β] [BEq γ] {f : β → α} {g : γ → α}
    (first : ∀ x y, (f x == f y) = (x == y)) (second : ∀ x y, (g x == g y) = (x == y))
    (apart : ∀ x y, f x ≠ g y)
    (cases : ∀ {a b : α}, (a == b) = true →
      a = b ∨ (∃ x y, a = f x ∧ b = f y) ∨ ∃ x y, a = g x ∧ b = g y)
    {a : α} (self : (a == a) = true) (holds : ∀ x, a = f x → Equates x)
    (holds' : ∀ x, a = g x → Equates x) : Equates a := by
  refine ⟨self, fun b => Bool.eq_iff_iff.2 ⟨fun same => ?_, fun same => ?_⟩,
    fun {b c} same next => ?_⟩
  · rcases cases same with rfl | ⟨x, y, rfl, rfl⟩ | ⟨x, y, rfl, rfl⟩
    · exact same
    · rwa [first, ← (holds x rfl).symm, ← first]
    · rwa [second, ← (holds' x rfl).symm, ← second]
  · rcases cases same with rfl | ⟨y, x, rfl, rfl⟩ | ⟨y, x, rfl, rfl⟩
    · exact same
    · rwa [first, (holds x rfl).symm, ← first]
    · rwa [second, (holds' x rfl).symm, ← second]
  · rcases cases same with rfl | ⟨x, y, rfl, rfl⟩ | ⟨x, y, rfl, rfl⟩
    · exact next
    · rcases cases next with rfl | ⟨_, z, -, rfl⟩ | ⟨_, _, is, -⟩
      · exact same
      · rw [first] at same next ⊢
        exact (holds x rfl).trans same next
      · exact absurd is (apart _ _)
    · rcases cases next with rfl | ⟨_, _, is, -⟩ | ⟨_, z, -, rfl⟩
      · exact same
      · exact absurd is.symm (apart _ _)
      · rw [second] at same next ⊢
        exact (holds' x rfl).trans same next

/-- Lists are equal element by element. -/
theorem list {α : Type} [BEq α] {as : List α} (each : ∀ a ∈ as, Equates a) : Equates as := by
  induction as with
  | nil =>
      refine ⟨rfl, fun bs => ?_, fun {bs cs} same next => ?_⟩
      · cases bs <;> rfl
      · cases bs with
        | nil => exact next
        | cons b bs => cases same
  | cons a as ih =>
      have head := each a List.mem_cons_self
      have tail := ih fun a' member => each a' (List.mem_cons_of_mem a member)
      refine ⟨?_, fun bs => ?_, fun {bs cs} same next => ?_⟩
      · rw [List.cons_beq_cons, head.self, tail.self, Bool.and_self]
      · cases bs with
        | nil => rfl
        | cons b bs => rw [List.cons_beq_cons, List.cons_beq_cons, head.symm b, tail.symm bs]
      · cases bs with
        | nil => cases same
        | cons b bs =>
            cases cs with
            | nil => cases next
            | cons c cs =>
                rw [List.cons_beq_cons, Bool.and_eq_true] at same next ⊢
                exact ⟨head.trans same.1 next.1, tail.trans same.2 next.2⟩

/-- What there is is equal as such, and there is one way to be nothing. -/
theorem option {α : Type} [BEq α] {a : Option α} (held : ∀ x, a = some x → Equates x) :
    Equates a := by
  cases a with
  | none =>
      refine ⟨rfl, fun b => ?_, fun {b c} same next => ?_⟩
      · cases b <;> rfl
      · cases b with
        | none => exact next
        | some y => cases same
  | some x =>
      have inner := held x rfl
      refine ⟨inner.self, fun b => ?_, fun {b c} same next => ?_⟩
      · cases b with
        | none => rfl
        | some y => exact inner.symm y
      · rcases b with _ | y
        · cases same
        · rcases c with _ | z
          · cases next
          · exact inner.trans (b := y) (c := z) same next

theorem equivBEq {α : Type} [BEq α] (all : ∀ a : α, Equates a) : EquivBEq α where
  rfl := fun {a} => (all a).self
  symm := fun {a b} same => ((all a).symm b) ▸ same
  trans := fun {a _ _} same next => (all a).trans same next

end Equates

/-! ## Scalars -/

theorem Pattern.equates (p : Pattern) : Equates p where
  self := Pattern.beq_iff.2 rfl
  symm q := Bool.eq_iff_iff.2 (by rw [Pattern.beq_iff, Pattern.beq_iff, eq_comm])
  trans same next := Pattern.beq_iff.2 ((Pattern.beq_iff.1 same).trans (Pattern.beq_iff.1 next))

namespace Scalar

theorem regex_beq (p q : Pattern) : (regex p == regex q) = (p == q) := Scalar.same.eq_6 p q

theorem term_beq (t u : Term) : (term t == term u) = (t == u) := Scalar.same.eq_7 t u

/-- A scalar that is no term is equal to itself. -/
theorem beq_self_of_flat {s : Scalar} (flat : ∀ t, s ≠ .term t) : (s == s) = true := by
  show Scalar.same s s = true
  cases s with
  | term t => exact absurd rfl (flat t)
  | integer n => rw [Scalar.same, beq_self_eq_true]
  | float x => rw [Scalar.same, beq_self_eq_true]
  | string s => rw [Scalar.same, beq_self_eq_true]
  | boolean b => rw [Scalar.same, beq_self_eq_true]
  | timestamp t => rw [Scalar.same, beq_self_eq_true]
  | regex p => exact (regex_beq p p).trans p.equates.self

/-- Equal scalars are the same, or both are patterns, or both are terms. -/
theorem beq_cases {a b : Scalar} (same : (a == b) = true) :
    a = b ∨ (∃ p q, a = .regex p ∧ b = .regex q) ∨ ∃ t u, a = .term t ∧ b = .term u := by
  change Scalar.same a b = true at same
  unfold Scalar.same at same
  split at same
  · exact .inl (congrArg _ (eq_of_beq same))
  · exact .inl (congrArg _ (eq_of_beq same))
  · exact .inl (congrArg _ (eq_of_beq same))
  · exact .inl (congrArg _ (eq_of_beq same))
  · exact .inl (congrArg _ (eq_of_beq same))
  · exact .inr (.inl ⟨_, _, rfl, rfl⟩)
  · exact .inr (.inr ⟨_, _, rfl, rfl⟩)
  · cases same

theorem equates_of_carried {a : Scalar} (carried : ∀ t, a = .term t → Equates t) :
    Equates a := by
  refine .of_held regex_beq term_beq nofun beq_cases ?_ (fun p _ => p.equates) carried
  cases a with
  | term t => exact (term_beq t t).trans (carried t rfl).self
  | _ => exact beq_self_of_flat nofun

end Scalar

/-! ## Operands -/

namespace Operand

theorem literal_beq (a b : Scalar) : (literal a == literal b) = (a == b) := Operand.same.eq_1 a b

theorem nested_beq (t u : Term) : (nested t == nested u) = (t == u) := Operand.same.eq_3 t u

/-- An operand that holds neither a scalar nor a term is equal to itself. -/
theorem beq_self_of_bare {o : Operand} (scalar : ∀ a, o ≠ .literal a) (term : ∀ t, o ≠ .nested t) :
    (o == o) = true := by
  show Operand.same o o = true
  cases o with
  | literal a => exact absurd rfl (scalar a)
  | nested t => exact absurd rfl (term t)
  | field name => rw [Operand.same, beq_self_eq_true]
  | placeholder i => rw [Operand.same, beq_self_eq_true]

/-- Equal operands are the same, or both are literals, or both are nested terms. -/
theorem beq_cases {o o' : Operand} (same : (o == o') = true) :
    o = o' ∨ (∃ a b, o = .literal a ∧ o' = .literal b) ∨
      ∃ t u, o = .nested t ∧ o' = .nested u := by
  change Operand.same o o' = true at same
  unfold Operand.same at same
  split at same
  · exact .inr (.inl ⟨_, _, rfl, rfl⟩)
  · exact .inl (congrArg _ (eq_of_beq same))
  · exact .inr (.inr ⟨_, _, rfl, rfl⟩)
  · exact .inl (congrArg _ (eq_of_beq same))
  · cases same

theorem equates_of_carried {o : Operand} (carried : ∀ t, o.carried? = some t → Equates t) :
    Equates o := by
  have literal (a : Scalar) (is : o = .literal a) : Equates a :=
    Scalar.equates_of_carried fun t isTerm => carried t (by rw [is, isTerm]; rfl)
  have nested (t : Term) (is : o = .nested t) : Equates t := carried t (by rw [is]; rfl)
  refine .of_held literal_beq nested_beq nofun beq_cases ?_ literal nested
  cases o with
  | literal a => exact (literal_beq a a).trans (literal a rfl).self
  | nested t => exact (nested_beq t t).trans (nested t rfl).self
  | _ => exact beq_self_of_bare nofun nofun

theorem listSame_eq (operands operands' : List Operand) :
    listSame operands operands' = (operands == operands') := by
  induction operands generalizing operands' with
  | nil =>
      cases operands' with
      | nil => simp [listSame]
      | cons o' rest' => simp [listSame]
  | cons o rest ih =>
      cases operands' with
      | nil => simp [listSame]
      | cons o' rest' =>
          rw [listSame, ih rest', List.cons_beq_cons]
          rfl

end Operand

/-! ## Terms -/

theorem Term.mk_beq (op op' : Operator) (operands operands' : List Operand) :
    (Term.mk op operands == Term.mk op' operands') = (op == op' && operands == operands') := by
  rw [← Operand.listSame_eq]
  exact Term.same.eq_1 op operands op' operands'

/-- **Equality of terms is an equivalence**, whatever they carry. -/
theorem Term.equates (t : Term) : Equates t := by
  induction t using Term.carried_induction with
  | step op operands ih =>
      have parts : Equates operands :=
        .list fun o member => Operand.equates_of_carried (ih o member)
      refine ⟨?_, fun u => ?_, fun {u v} same next => ?_⟩
      · rw [mk_beq, beq_self_eq_true, parts.self, Bool.and_self]
      · obtain ⟨op', operands'⟩ := u
        rw [mk_beq, mk_beq, BEq.comm, parts.symm]
      · obtain ⟨op', operands'⟩ := u
        obtain ⟨op'', operands''⟩ := v
        rw [mk_beq, Bool.and_eq_true] at same next ⊢
        exact ⟨BEq.trans same.1 next.1, parts.trans same.2 next.2⟩

/-- **Equality of scalars is an equivalence.** -/
theorem Scalar.equates (a : Scalar) : Equates a :=
  equates_of_carried fun t _ => t.equates

theorem Operand.equates (o : Operand) : Equates o := equates_of_carried fun t _ => t.equates

instance : EquivBEq Scalar := Equates.equivBEq Scalar.equates

instance : EquivBEq (Option Scalar) := Equates.equivBEq fun _ => .option fun a _ => a.equates

end FactScan
