/-
# FactScan.Proofs.Simplify.Outcome — what a rule leaves behind

The rules of simplification are read here, once.  Given operands that were simplified
already, a rule leaves a constant, or some of the operands under the same operator
(`Simplify.apply_outcome`); a hook of the host leaves what it likes.  A constant is one of
those among the operands, or a truth value, number or string (`Scalar.isMade`).  And what
keeps its operator cannot be simplified once more: `Simplify.NoRule` says of every operator
what there is left to look for, and the rules pass over such a term (`Simplify.apply_eq`).

From this, `Term.simplifyAt_rec` proves what holds of every term and its simplified form, and
`Simplify.Compositional.simplifyAt` that simplification keeps what is said of a term by saying
it of its operators and operands.
-/
import Mathlib.Data.List.Forall2
import FactScan.Proofs.Simplify.Worth

namespace FactScan

set_option autoImplicit false

/-- A constant operand is pure. -/
theorem Operand.isPure_of_constant {o : Operand} {a : Scalar} (constant : o.constant? = some a) :
    o.isPure = true := by
  rcases constant?_cases constant with rfl | rfl <;> rfl

namespace Simplify

/-! ## The operands of a junction -/

section

variable {absorbing : Bool}

/-- Operands up to an absorbing constant; none of those before it is a constant. -/
theorem live_absorbed {parts kept : List Part} (live_ : live absorbing parts = (kept, true)) :
    ∃ front part a, kept = front ++ [part] ∧ (∀ p ∈ front, p.operand.constant? = none) ∧
      part.operand.constant? = some a ∧ a.isTruthy = absorbing := by
  induction parts generalizing kept with
  | nil => cases live_
  | cons part rest ih =>
      rw [live] at live_
      split at live_
      · rename_i a constant
        split at live_
        · rename_i absorbs
          cases live_
          exact ⟨[], part, a, rfl, by simp, constant, absorbs⟩
        · exact ih live_
      · rename_i constant
        generalize below : live absorbing rest = outcome at live_
        obtain ⟨kept', absorbed⟩ := outcome
        cases live_
        obtain ⟨front, last, a, rfl, none_, isLast, absorbs⟩ := ih below
        exact ⟨part :: front, last, a, rfl, List.forall_mem_cons.2 ⟨constant, none_⟩, isLast,
          absorbs⟩

/-- Without an absorbing constant, no constant is left at all. -/
theorem live_undecided {parts kept : List Part} (live_ : live absorbing parts = (kept, false)) :
    ∀ part ∈ kept, part.operand.constant? = none := by
  induction parts generalizing kept with
  | nil =>
      cases live_
      simp
  | cons part rest ih =>
      rw [live] at live_
      split at live_
      · split at live_
        · cases live_
        · exact ih live_
      · rename_i constant
        generalize below : live absorbing rest = outcome at live_
        obtain ⟨kept', absorbed⟩ := outcome
        cases live_
        exact List.forall_mem_cons.2 ⟨constant, ih below⟩

theorem live_empty {parts : List Part} (live_ : live absorbing parts = ([], false)) :
    ∀ part ∈ parts, ∃ a, part.operand.constant? = some a ∧ a.isTruthy ≠ absorbing := by
  induction parts with
  | nil =>
      intro part member
      cases member
  | cons part rest ih =>
      rw [live] at live_
      split at live_
      · rename_i a constant
        split at live_
        · cases live_
        · rename_i neutral
          intro part' member
          rcases List.mem_cons.1 member with rfl | member
          · exact ⟨a, constant, neutral⟩
          · exact ih live_ part' member
      · generalize live absorbing rest = outcome at live_
        obtain ⟨kept, absorbed⟩ := outcome
        cases live_

theorem live_sublist (absorbing : Bool) (parts : List Part) :
    (live absorbing parts).1.Sublist parts := by
  induction parts with
  | nil => exact .slnil
  | cons first rest ih =>
      rw [live]
      split
      · split
        · exact List.singleton_sublist.2 List.mem_cons_self
        · exact ih.cons first
      · exact ih.cons_cons first

/-- Operands without a constant are all kept. -/
theorem live_open {parts : List Part} (none_ : ∀ part ∈ parts, part.operand.constant? = none) :
    live absorbing parts = (parts, false) := by
  induction parts with
  | nil => rfl
  | cons part rest ih =>
      obtain ⟨first, others⟩ := List.forall_mem_cons.1 none_
      rw [live, first, ih others]

/-- And so are those before an absorbing constant at the end. -/
theorem live_closed {front : List Part} {part : Part} {a : Scalar}
    (none_ : ∀ p ∈ front, p.operand.constant? = none) (constant : part.operand.constant? = some a)
    (absorbs : a.isTruthy = absorbing) :
    live absorbing (front ++ [part]) = (front ++ [part], true) := by
  induction front with
  | nil => simp [live, constant, absorbs]
  | cons first front ih =>
      obtain ⟨isNone, others⟩ := List.forall_mem_cons.1 none_
      rw [List.cons_append, live, isNone, ih others]

end

/-! ## Terms that no rule is about -/

/-- Operands of a junction among which nothing is left to drop: none of them is a constant,
but for an absorbing one at the end, behind an operand that could do more than give a
value. -/
inductive IsSettledJunction (absorbing : Bool) : List Operand → Prop
  | opened {os : List Operand} : (∀ o ∈ os, o.constant? = none) → IsSettledJunction absorbing os
  | closed {front : List Operand} {o : Operand} {a : Scalar} :
      (∀ p ∈ front, p.constant? = none) → o.constant? = some a → a.isTruthy = absorbing →
      (∃ p ∈ front, p.isPure = false) → IsSettledJunction absorbing (front ++ [o])

/-- No two constants that can be compared or computed with. -/
def IsSettledPair (settings : Settings) (registry : Registry) (op : Operator)
    (os : List Operand) : Prop :=
  ∀ o o' x y, os = [o, o'] → o.constant? = some x → o'.constant? = some y →
    worth? settings registry (.mk op [.literal x, .literal y]) = none

/-- No rule is about a term of this operator and these operands. -/
def NoRule (settings : Settings) (registry : Registry) : Operator → List Operand → Prop
  | .builtin .and, os => IsSettledJunction false os
  | .builtin .or, os => IsSettledJunction true os
  | .builtin .not, os => ∀ o, os = [o] → o.constant? = none
  | .builtin .either, os => ∀ o o', os = [o, o'] → o.constant? = none
  | .builtin (.compare c), os => IsSettledPair settings registry (.builtin (.compare c)) os
  | .builtin (.arithmetic a), os => IsSettledPair settings registry (.builtin (.arithmetic a)) os
  | _, _ => True

section

variable {settings : Settings} {registry : Registry}

theorem junction_eq {absorbing : Bool} (op : Operator) {parts : List Part}
    (settled : IsSettledJunction absorbing (parts.map (·.operand))) :
    junction absorbing op parts = .ofParts op parts := by
  unfold junction
  split
  · rfl
  · rename_i some_
    generalize operands : parts.map (·.operand) = os at settled
    cases settled with
    | opened none_ =>
        have live_ : live absorbing parts = (parts, false) := by
          refine live_open fun part member => none_ _ ?_
          exact operands ▸ List.mem_map_of_mem member
        rw [live_]
        cases parts with
        | nil => exact absurd rfl some_
        | cons part rest => rfl
    | @closed front o a none_ constant absorbs impure =>
        obtain ⟨before, last, rfl, rfl, single⟩ := List.map_eq_append_iff.1 operands
        obtain ⟨part, rfl, rfl⟩ := List.map_eq_singleton_iff.1 single
        have live_ : live absorbing (before ++ [part]) = (before ++ [part], true) :=
          live_closed (fun p member => none_ _ (List.mem_map_of_mem member)) constant absorbs
        have keeps : ¬ ((before ++ [part]).all (·.operand.isPure) = true) := by
          intro pures
          obtain ⟨o, member, isImpure⟩ := impure
          obtain ⟨p, inside, rfl⟩ := List.mem_map.1 member
          have isPure := List.all_eq_true.1 pures p (List.mem_append_left _ inside)
          exact absurd (isPure.symm.trans isImpure) (by decide)
        rw [live_]
        exact if_neg keeps

theorem fold_eq {op : Operator} {parts : List Part}
    (settled : IsSettledPair settings registry op (parts.map (·.operand))) :
    fold settings registry op parts = .ofParts op parts := by
  have none_ : (probe? op parts).bind (worth? settings registry) = none := by
    unfold probe?
    split
    · split
      · rename_i first second
        exact settled _ _ _ _ rfl first second
      · rfl
    · rfl
  rw [fold, none_]

/-- **Where no rule is about a term, it stays as it is.** -/
theorem apply_eq (hookless : ∀ d ∈ registry.custom, d.hook = none) {op : Operator}
    {parts : List Part} (settled : NoRule settings registry op (parts.map (·.operand))) :
    apply settings registry op parts = .ofParts op parts := by
  cases op with
  | custom name =>
      have none_ : (registry.lookup? name).bind (·.hook) = none := by
        cases found : registry.lookup? name with
        | none => rfl
        | some d => exact hookless d (Registry.mem_of_lookup? found)
      simp [apply, none_]
  | builtin b =>
      cases b with
      | and => exact junction_eq _ settled
      | or => exact junction_eq _ settled
      | compare c => exact fold_eq settled
      | arithmetic a => exact fold_eq settled
      | not =>
          match parts, settled with
          | [], _ => rfl
          | [part], settled => simp [apply, builtin, settled part.operand rfl]
          | _ :: _ :: _, _ => rfl
      | either =>
          match parts, settled with
          | [], _ => rfl
          | [_], _ => rfl
          | [part, other], settled =>
              simp [apply, builtin, settled part.operand other.operand rfl]
          | _ :: _ :: _ :: _, _ => rfl
      | _ => rfl

end

/-! ## What the rules leave -/

theorem not_hooked {registry : Registry} (hookless : ∀ d ∈ registry.custom, d.hook = none)
    {d : Definition} (member : d ∈ registry.custom) (hook : SimplifyHook) :
    d.hook ≠ some hook := by
  simp [hookless d member]

/-- What is left of a term: a constant known or made, some of its operands with no rule for
them, or what a hook of the host puts there. -/
inductive Outcome (settings : Settings) (registry : Registry) (op : Operator)
    (parts : List Part) : Instance → Prop
  | constant {a : Scalar} :
      parts ≠ [] → a.isMade = true ∨ (∃ part ∈ parts, part.operand.constant? = some a) →
      Outcome settings registry op parts (constant a)
  | kept {kept : List Part} :
      kept.Sublist parts → NoRule settings registry op (kept.map (·.operand)) →
      Outcome settings registry op parts (.ofParts op kept)
  | hooked {d : Definition} {hook : SimplifyHook} {i : Instance} :
      d ∈ registry.custom → d.hook = some hook → hook (.ofParts op parts) = some i →
      Outcome settings registry op parts i

section

variable {settings : Settings} {registry : Registry}

/-- A term that is left as it was. -/
theorem Outcome.same {op : Operator} {parts : List Part}
    (settled : NoRule settings registry op (parts.map (·.operand))) :
    Outcome settings registry op parts (.ofParts op parts) :=
  .kept (.refl parts) settled

theorem junction_outcome {absorbing : Bool} {op : Operator} (parts : List Part)
    (rule : ∀ os, IsSettledJunction absorbing os → NoRule settings registry op os) :
    Outcome settings registry op parts (junction absorbing op parts) := by
  unfold junction
  split
  · rename_i empty
    refine .same (rule _ (.opened ?_))
    simp [List.isEmpty_iff.1 empty]
  · rename_i some_
    have nonempty : parts ≠ [] := fun empty => some_ (List.isEmpty_iff.2 empty)
    have inside := live_sublist absorbing parts
    split
    · rename_i kept live_
      rw [live_] at inside
      split
      · exact .constant nonempty (.inl rfl)
      · rename_i impure
        obtain ⟨front, part, a, rfl, none_, constant, absorbs⟩ := live_absorbed live_
        refine .kept inside (rule _ ?_)
        rw [List.map_append]
        refine .closed (by simpa using none_) constant absorbs ?_
        -- The operand that is not pure is none of the constants.
        simp only [List.all_append, List.all_cons, List.all_nil, Bool.and_true,
          Operand.isPure_of_constant constant] at impure
        obtain ⟨p, inside, isImpure⟩ := List.all_eq_false.1 (eq_false_of_ne_true impure)
        exact ⟨p.operand, List.mem_map_of_mem inside, eq_false_of_ne_true isImpure⟩
    · exact .constant nonempty (.inl rfl)
    · rename_i kept _ live_
      rw [live_] at inside
      refine .kept inside (rule _ (.opened ?_))
      simpa using live_undecided live_

theorem fold_outcome {b : Builtin} (parts : List Part)
    (isBinary : (∃ c, b = .compare c) ∨ ∃ a, b = .arithmetic a) :
    Outcome settings registry (.builtin b) parts (fold settings registry (.builtin b) parts) := by
  unfold fold
  split
  · rename_i a worth
    obtain ⟨probe, probed, worth⟩ := Option.bind_eq_some_iff.1 worth
    unfold probe? at probed
    split at probed
    · split at probed
      · cases probed
        obtain ⟨_, ⟨⟩, isMade⟩ :=
          Builtin.combine_isMade (Builtin.combine_of_worth isBinary worth)
        exact .constant (List.cons_ne_nil _ _) (.inl isMade)
      · cases probed
    · cases probed
  · rename_i none_
    refine .same ?_
    have settled : IsSettledPair settings registry (.builtin b) (parts.map (·.operand)) := by
      intro o o' x y operands first second
      obtain ⟨part, rest, rfl, rfl, others⟩ := List.map_eq_cons_iff.1 operands
      obtain ⟨other, rfl, rfl⟩ := List.map_eq_singleton_iff.1 others
      simpa [probe?, first, second] using none_
    rcases isBinary with ⟨c, rfl⟩ | ⟨a, rfl⟩
    · exact settled
    · exact settled

/-- **What a rule leaves**, for every operator. -/
theorem apply_outcome (op : Operator) (parts : List Part) :
    Outcome settings registry op parts (apply settings registry op parts) := by
  cases op with
  | custom name =>
      unfold apply
      dsimp only
      split
      · rename_i hook found
        obtain ⟨d, isNamed, hooked⟩ := Option.bind_eq_some_iff.1 found
        cases gives : hook (.ofParts (.custom name) parts) with
        | none => exact .same trivial
        | some i => exact .hooked (Registry.mem_of_lookup? isNamed) hooked gives
      · exact .same trivial
  | builtin b =>
      unfold apply
      dsimp only
      cases b with
      | and => exact junction_outcome parts fun _ settled => settled
      | or => exact junction_outcome parts fun _ settled => settled
      | compare c => exact fold_outcome parts (.inl ⟨c, rfl⟩)
      | arithmetic a => exact fold_outcome parts (.inr ⟨a, rfl⟩)
      | not =>
          match parts with
          | [] => exact .same (by simp [NoRule])
          | _ :: _ :: _ => exact .same (by simp [NoRule])
          | [part] =>
              cases known : part.operand.constant? with
              | none =>
                  rw [builtin, known]
                  exact .same (by simpa [NoRule] using known)
              | some a =>
                  rw [builtin, known]
                  exact .constant (List.cons_ne_nil _ _) (.inl rfl)
      | either =>
          match parts with
          | [] => exact .same (by simp [NoRule])
          | [_] => exact .same (by simp [NoRule])
          | _ :: _ :: _ :: _ => exact .same (by simp [NoRule])
          | [part, other] =>
              cases known : part.operand.constant? with
              | none =>
                  rw [builtin, known]
                  exact .same (by simpa [NoRule] using known)
              | some a =>
                  rw [builtin, known]
                  exact .constant (List.cons_ne_nil _ _) (.inr ⟨part, List.mem_cons_self, known⟩)
      | _ => exact .same trivial

end

end Simplify

/-! ## The simplifier -/

section

variable (settings : Settings) (registry : Registry)

theorem Operand.getElem?_listSimplifyAt (depth : Nat) (operands : List Operand)
    (ms : List Memory) (p : Nat) :
    (Operand.listSimplifyAt settings registry depth operands ms)[p]? =
      operands[p]?.map fun o => o.simplifyAt settings registry depth (ms.getD p .blank) := by
  induction operands generalizing ms p with
  | nil => rfl
  | cons o rest ih =>
      cases p with
      | zero => cases ms <;> rfl
      | succ p =>
          have step := ih ms.tail p
          cases ms <;> exact step

theorem Operand.length_listSimplifyAt (depth : Nat) (operands : List Operand)
    (ms : List Memory) :
    (Operand.listSimplifyAt settings registry depth operands ms).length = operands.length := by
  induction operands generalizing ms with
  | nil => rfl
  | cons o rest ih => exact congrArg (· + 1) (ih ms.tail)

/-- The same operand, but for a nested term. -/
inductive Operand.Nesting (P : Term → Term → Prop) : Operand → Operand → Prop
  | nested {t t' : Term} : P t t' → Nesting P (.nested t) (.nested t')
  | flat {o : Operand} : (∀ t, o ≠ .nested t) → Nesting P o o

theorem Operand.exists_nesting {P : Term → Term → Prop} {operands : List Operand}
    {parts : List Part} (all : List.Forall₂ (fun o part => o.Nesting P part.operand) operands parts)
    {part : Part} (member : part ∈ parts) : ∃ o ∈ operands, o.Nesting P part.operand := by
  induction all with
  | nil => cases member
  | cons first _ ih =>
      rcases List.mem_cons.1 member with rfl | later
      · exact ⟨_, List.mem_cons_self, first⟩
      · obtain ⟨o, inside, nesting⟩ := ih later
        exact ⟨o, List.mem_cons_of_mem _ inside, nesting⟩

variable {settings registry} in
/-- Simplified operands, one by one, in terms of what holds of nested terms. -/
theorem Operand.forall₂_listSimplifyAt {P : Term → Term → Prop} {depth : Nat}
    {operands : List Operand} (ms : List Memory)
    (nested : ∀ t, .nested t ∈ operands → ∀ m, P t (t.simplifyAt settings registry depth m).term) :
    List.Forall₂ (fun o part => o.Nesting P part.operand) operands
      (Operand.listSimplifyAt settings registry depth operands ms) := by
  induction operands generalizing ms with
  | nil => exact .nil
  | cons o rest ih =>
      refine .cons ?_ (ih ms.tail fun t member => nested t (List.mem_cons_of_mem o member))
      match o with
      | .nested t => exact .nested (nested t List.mem_cons_self _)
      | .literal s => cases s <;> exact .flat nofun
      | .field _ => exact .flat nofun
      | .placeholder _ => exact .flat nofun

/-- **Induction along the simplifier**: what holds of terms that are kept, and is passed on
from nested terms to what a rule leaves of them, holds of every term and its simplified
form. -/
theorem Term.simplifyAt_rec {P : Nat → Term → Term → Prop}
    (kept : ∀ depth op operands, Simplify.isKept settings depth op = true →
      P depth (.mk op operands) (.mk op operands))
    (rule : ∀ depth op operands parts i, Simplify.isKept settings depth op = false →
      List.Forall₂ (fun o part => o.Nesting (P (depth + 1)) part.operand) operands parts →
      Simplify.Outcome settings registry op parts i → P depth (.mk op operands) i.term)
    (t : Term) (depth : Nat) (m : Memory) :
    P depth t (t.simplifyAt settings registry depth m).term := by
  induction t using Term.nested_induction generalizing depth m with
  | step op operands ih =>
      rw [Term.simplifyAt]
      split
      · exact kept depth op operands (by assumption)
      · rename_i simplified
        refine rule depth op operands _ _ (by simpa using simplified) ?_
          (Simplify.apply_outcome op _)
        exact Operand.forall₂_listSimplifyAt _ fun t member m => ih t member (depth + 1) m

end

/-! ## Properties that simplification keeps -/

/-- A property of terms, by their depth, that is one of the operator and of each operand, and
that constants have which are made or were among the operands. -/
structure Simplify.Compositional (T : Nat → Term → Prop) (O : Nat → Operator → Prop)
    (Q : Nat → Operand → Prop) : Prop where
  term : ∀ {depth op operands},
    T depth (.mk op operands) ↔ O depth op ∧ ∀ o ∈ operands, Q depth o
  nested : ∀ {depth t}, Q depth (.nested t) ↔ T (depth + 1) t
  const : ∀ {depth op}, O depth op → O depth (.builtin .const)
  made : ∀ {depth a}, a.isMade = true → Q depth (.literal a)
  raised : ∀ {depth a}, Q (depth + 1) (.literal a) → Q depth (.literal a)

/-- **Simplification keeps compositional properties**, if hooks do. -/
theorem Simplify.Compositional.simplifyAt {T : Nat → Term → Prop} {O : Nat → Operator → Prop}
    {Q : Nat → Operand → Prop} (compositional : Compositional T O Q) {settings : Settings}
    {registry : Registry}
    (hooks : ∀ d ∈ registry.custom, ∀ hook, d.hook = some hook → ∀ depth i j, hook i = some j →
      T depth i.term → T depth j.term)
    {t : Term} {depth : Nat} (holds : T depth t) (m : Memory) :
    T depth (t.simplifyAt settings registry depth m).term := by
  refine Term.simplifyAt_rec settings registry (P := fun depth t t' => T depth t → T depth t')
    (fun _ _ _ _ holds => holds) ?_ t depth m holds
  intro depth op operands parts i _ below outcome holds
  obtain ⟨own, each⟩ := compositional.term.1 holds
  have parts_ : ∀ part ∈ parts, Q depth part.operand := by
    intro part member
    obtain ⟨o, inside, nesting⟩ := Operand.exists_nesting below member
    have before := each o inside
    generalize part.operand = o' at nesting
    cases nesting with
    | nested passes => exact compositional.nested.2 (passes (compositional.nested.1 before))
    | flat _ => exact before
  -- What is passed to a hook is what a rule would keep: the term of simplified operands.
  have ofParts {kept : List Part} (inside : ∀ part ∈ kept, part ∈ parts) :
      T depth (Instance.ofParts op kept).term := by
    refine compositional.term.2 ⟨own, fun o member => ?_⟩
    obtain ⟨part, within, rfl⟩ := List.mem_map.1 member
    exact parts_ part (inside part within)
  cases outcome with
  | constant _ origin =>
      refine compositional.term.2 ⟨compositional.const own, fun o member => ?_⟩
      rw [List.mem_singleton.1 member]
      rcases origin with made | ⟨part, inside, constant⟩
      · exact compositional.made made
      · have held := parts_ part inside
        rcases Operand.constant?_cases constant with isLiteral | isNested
        · exact isLiteral ▸ held
        · rw [isNested, compositional.nested] at held
          exact compositional.raised ((compositional.term.1 held).2 _ List.mem_cons_self)
  | kept inside _ => exact ofParts fun part member => inside.subset member
  | hooked member hooked gives =>
      exact hooks _ member _ hooked _ _ _ gives (ofParts fun _ member => member)

end FactScan
