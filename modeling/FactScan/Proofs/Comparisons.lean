/-
# FactScan.Proofs.Comparisons — a comparison asks for one pair

Pairs of elements are looked at with the left side outermost until one is accepted.  Equality
has an answer for every pair; an ordering has none for scalars of unrelated kinds, and fails
there unless a pair before it was accepted.  With the sides swapped the pairs come in another
order, so of a comparison and its converse one may succeed and the other fail.  They agree
wherever both succeed, since whether there is an accepted pair at all does not depend on the
order.

* `Comparison.pairs_eq_append_cons_iff`: what comes before a pair.
* `Comparison.holdsSome_error_iff`, `Comparison.holdsSome_ok_iff`: a scan of pairs.
* `Comparison.values_consistent`: comparisons of two values, and what the terms make of them.
-/
import FactScan.Proofs.Dispatch
import FactScan.Proofs.Scalars.Order

namespace FactScan

set_option autoImplicit false

/-- Timestamps tie where they are equal. -/
theorem Timestamp.compare_eq_iff {t u : Timestamp} : t.compare u = .eq ↔ t = u := by
  obtain ⟨day, second, nano⟩ := t
  obtain ⟨day', second', nano'⟩ := u
  unfold Timestamp.compare
  simp only [Ordering.then_eq_eq, Std.compare_eq_iff_eq, Timestamp.mk.injEq]

theorem Scalar.compareText_eq_iff {s t : String} : compareText s t = .eq ↔ s = t := by
  unfold compareText
  grind

/-- Scalars that have an order tie exactly where they are loosely equal. -/
theorem Scalar.looselyEquals_iff_tie {a b : Scalar} {o : Ordering}
    (verdict : a.compare b = some o) : a.looselyEquals b = true ↔ o = .eq := by
  have tie : a.compare b = some .eq ↔ o = .eq := by rw [verdict, Option.some.injEq]
  rw [← tie]
  cases a <;> cases b
  -- numbers are loosely equal by their order; the others are equal on their own line only
  case string.string s t =>
    have same : (Scalar.string s == .string t) = (s == t) := Scalar.same.eq_3 s t
    show (Scalar.string s == .string t) = true ↔ some (compareText s t) = some .eq
    rw [same, beq_iff_eq, Option.some.injEq, compareText_eq_iff]
  case boolean.boolean p q =>
    have same : (Scalar.boolean p == .boolean q) = (p == q) := Scalar.same.eq_4 p q
    show (Scalar.boolean p == .boolean q) = true ↔ some (Ord.compare p.toNat q.toNat) = some .eq
    rw [same]
    cases p <;> cases q <;> decide
  case timestamp.timestamp t u =>
    have same : (Scalar.timestamp t == .timestamp u) = (t == u) := Scalar.same.eq_5 t u
    show (Scalar.timestamp t == .timestamp u) = true ↔ some (t.compare u) = some .eq
    rw [same, beq_iff_eq, Option.some.injEq, Timestamp.compare_eq_iff]
  all_goals first
    | exact beq_iff_eq
    | cases verdict

namespace Comparison

/-- The comparisons that ask for an order. -/
def orderings : List Comparison := [.lt, .le, .gt, .ge]

/-- Two scalars have an order, and one that the comparison accepts. -/
def Accepts (c : Comparison) (a b : Scalar) : Prop :=
  ∃ o, a.compare b = some o ∧ c.accepts o = true

/-- Two scalars without an order come up before any accepted pair does, where pairs are taken
with the left side outermost. -/
def Stumbles (c : Comparison) (left right : Value) : Prop :=
  ∃ (as : List Scalar) (a : Scalar) (as' bs : List Scalar) (b : Scalar) (bs' : List Scalar),
    left.items = as ++ a :: as' ∧ right.items = bs ++ b :: bs' ∧ a.compare b = none ∧
      (∀ x ∈ as, ∀ y ∈ right.items, ¬ c.Accepts x y) ∧ ∀ y ∈ bs, ¬ c.Accepts a y

variable {c : Comparison} {ps : List (Scalar × Scalar)}

/-! ## Scans of pairs -/

theorem holdsSome_eq (ps : List (Scalar × Scalar)) :
    Comparison.eq.holdsSome ps = .ok (ps.any fun p => p.1.looselyEquals p.2) := by
  induction ps with
  | nil => rfl
  | cons p rest ih =>
      have own : Comparison.eq.holds p.1 p.2 = .ok (p.1.looselyEquals p.2) := rfl
      rw [holdsSome, own, List.any_cons]
      cases p.1.looselyEquals p.2
      · exact ih
      · rfl

theorem holds_of_ordering (ordering : c ∈ orderings) (a b : Scalar) :
    c.holds a b =
      match a.compare b with
      | some o => .ok (c.accepts o)
      | none => .error (.typeMismatch a.typeName b.typeName) := by
  cases c <;> first | rfl | exact absurd ordering (by decide)

/-- What a scan does with its first pair. -/
theorem holdsSome_cons_cases (ordering : c ∈ orderings) (a b : Scalar)
    (rest : List (Scalar × Scalar)) :
    (a.compare b = none ∧
        c.holdsSome ((a, b) :: rest) = .error (.typeMismatch a.typeName b.typeName)) ∨
      (a.compare b ≠ none ∧ c.Accepts a b ∧ c.holdsSome ((a, b) :: rest) = .ok true) ∨
      (a.compare b ≠ none ∧ ¬ c.Accepts a b ∧
        c.holdsSome ((a, b) :: rest) = c.holdsSome rest) := by
  have own := holds_of_ordering ordering a b
  cases verdict : a.compare b with
  | none =>
      rw [verdict] at own
      exact .inl ⟨rfl, by rw [holdsSome, own]⟩
  | some o =>
      rw [verdict] at own
      have accepts_iff : c.Accepts a b ↔ c.accepts o = true := by
        constructor
        · rintro ⟨o', same, accepted⟩
          rw [verdict, Option.some.injEq] at same
          rwa [same]
        · exact fun accepted => ⟨o, verdict, accepted⟩
      replace own : c.holds a b = .ok (c.accepts o) := own
      rw [accepts_iff]
      cases accepted : c.accepts o <;> rw [accepted] at own
      · exact .inr (.inr ⟨Option.some_ne_none o, Bool.false_ne_true, by rw [holdsSome, own]⟩)
      · exact .inr (.inl ⟨Option.some_ne_none o, rfl, by rw [holdsSome, own]⟩)

/-- **A scan fails at a pair without an order** that comes before the accepted ones. -/
theorem holdsSome_error_iff (ordering : c ∈ orderings) (ps : List (Scalar × Scalar)) :
    (∃ e, c.holdsSome ps = .error e) ↔
      ∃ before a b after, ps = before ++ (a, b) :: after ∧ a.compare b = none ∧
        ∀ p ∈ before, ¬ c.Accepts p.1 p.2 := by
  induction ps with
  | nil =>
      refine ⟨fun ⟨_, failed⟩ => (nomatch failed), fun ⟨before, a, b, after, same, _⟩ => ?_⟩
      exact absurd same.symm (List.append_ne_nil_of_right_ne_nil _ (List.cons_ne_nil _ _))
  | cons p rest ih =>
      obtain ⟨a, b⟩ := p
      obtain ⟨none_, run⟩ | ⟨some_, accepted, run⟩ | ⟨some_, refused, run⟩ :=
        holdsSome_cons_cases ordering a b rest
      all_goals rw [run]
      · exact ⟨fun _ => ⟨[], a, b, rest, rfl, none_, nofun⟩, fun _ => ⟨_, rfl⟩⟩
      · constructor
        · rintro ⟨_, failed⟩
          cases failed
        · rintro ⟨before, a', b', after, same, none_, refused⟩
          obtain ⟨rfl, first⟩ | ⟨before', rfl, -⟩ := List.cons_eq_append_iff.1 same
          · cases first
            exact absurd none_ some_
          · exact absurd accepted (refused _ List.mem_cons_self)
      · rw [ih]
        constructor
        · rintro ⟨before, a', b', after, rfl, none_, refused'⟩
          exact ⟨(a, b) :: before, a', b', after, rfl, none_,
            List.forall_mem_cons.2 ⟨refused, refused'⟩⟩
        · rintro ⟨before, a', b', after, same, none_, refused'⟩
          obtain ⟨rfl, first⟩ | ⟨before', rfl, later⟩ := List.cons_eq_append_iff.1 same
          · cases first
            exact absurd none_ some_
          · exact ⟨before', a', b', after, later, none_, (List.forall_mem_cons.1 refused').2⟩

/-- **A scan that succeeds says whether there is an accepted pair.** -/
theorem holdsSome_ok_iff (ordering : c ∈ orderings) {v : Bool} (ran : c.holdsSome ps = .ok v) :
    v = true ↔ ∃ p ∈ ps, c.Accepts p.1 p.2 := by
  induction ps with
  | nil =>
      cases ran
      exact ⟨nofun, fun ⟨_, member, _⟩ => nomatch member⟩
  | cons p rest ih =>
      obtain ⟨a, b⟩ := p
      obtain ⟨-, run⟩ | ⟨-, accepted, run⟩ | ⟨-, refused, run⟩ :=
        holdsSome_cons_cases ordering a b rest
      all_goals rw [run] at ran
      · cases ran
      · cases ran
        exact ⟨fun _ => ⟨_, List.mem_cons_self, accepted⟩, fun _ => rfl⟩
      · rw [ih ran]
        simp only [List.mem_cons, exists_eq_or_imp]
        exact (or_iff_right refused).symm

/-- The failure is that of a pair without an order. -/
theorem holdsSome_error_eq (ordering : c ∈ orderings) {e : EvalError}
    (ran : c.holdsSome ps = .error e) :
    ∃ p ∈ ps, p.1.compare p.2 = none ∧ e = .typeMismatch p.1.typeName p.2.typeName := by
  induction ps with
  | nil => cases ran
  | cons p rest ih =>
      obtain ⟨a, b⟩ := p
      obtain ⟨none_, run⟩ | ⟨-, -, run⟩ | ⟨-, -, run⟩ := holdsSome_cons_cases ordering a b rest
      all_goals rw [run] at ran
      · cases ran
        exact ⟨_, List.mem_cons_self, none_, rfl⟩
      · cases ran
      · obtain ⟨p, member, mismatch⟩ := ih ran
        exact ⟨p, List.mem_cons_of_mem _ member, mismatch⟩

/-! ## Pairs of two values -/

theorem mem_pairs_iff {left right : Value} {p : Scalar × Scalar} :
    p ∈ pairs left right ↔ p.1 ∈ left.items ∧ p.2 ∈ right.items := by
  obtain ⟨a, b⟩ := p
  simp only [pairs, List.mem_flatMap, List.mem_map, Prod.mk.injEq]
  grind

/-- **What comes before a pair**: all pairs of elements further left, then those of the same
element with what comes before on the right. -/
theorem pairs_eq_append_cons_iff {left right : Value} {before : List (Scalar × Scalar)}
    {a b : Scalar} :
    (∃ after, pairs left right = before ++ (a, b) :: after) ↔
      ∃ as as' bs bs', left.items = as ++ a :: as' ∧ right.items = bs ++ b :: bs' ∧
        before = (as.flatMap fun x => right.items.map fun y => (x, y)) ++
          bs.map fun y => (a, y) := by
  unfold pairs
  generalize left.items = xs
  generalize right.items = ys
  constructor
  · rintro ⟨after, same⟩
    induction xs generalizing before with
    | nil => exact absurd same.symm (List.append_ne_nil_of_right_ne_nil _ (List.cons_ne_nil _ _))
    | cons x xs ih =>
        rw [List.flatMap_cons] at same
        obtain ⟨further, rfl, later⟩ | ⟨own, here, rest⟩ := List.append_eq_append_iff.1 same
        · obtain ⟨as, as', bs, bs', rfl, split, rfl⟩ := ih later
          exact ⟨x :: as, as', bs, bs', rfl, split, by rw [List.flatMap_cons, List.append_assoc]⟩
        · cases own with
          | nil =>
              rw [List.append_nil] at here
              obtain ⟨as, as', bs, bs', rfl, split, none_⟩ :=
                ih (rest.symm.trans (List.nil_append _).symm)
              refine ⟨x :: as, as', bs, bs', rfl, split, ?_⟩
              rw [List.flatMap_cons, List.append_assoc, ← none_, List.append_nil, here]
          | cons p own =>
              obtain ⟨rfl, -⟩ := List.cons.inj rest
              obtain ⟨bs, further, rfl, rfl, last⟩ := List.map_eq_append_iff.1 here
              obtain ⟨y, bs', rfl, first, -⟩ := List.map_eq_cons_iff.1 last
              cases first
              exact ⟨[], xs, bs, bs', rfl, rfl, rfl⟩
  · rintro ⟨as, as', bs, bs', rfl, rfl, rfl⟩
    refine ⟨(bs'.map fun y => (a, y)) ++
      as'.flatMap fun x => (bs ++ b :: bs').map fun y => (x, y), ?_⟩
    simp only [List.flatMap_append, List.flatMap_cons, List.map_append, List.map_cons,
      List.append_assoc, List.cons_append]

/-! ## Comparisons of two values -/

section

variable {left right : Value}

theorem values_of_nil (nil : left.isNil = true ∨ right.isNil = true) (c : Comparison) :
    c.values left right = .ok false := if_pos (Bool.or_eq_true _ _ ▸ nil)

/-- Of no value there are no pairs, so this needs no case for it. -/
theorem values_eq_holdsSome (other : c ≠ .ne) (left right : Value) :
    c.values left right = c.holdsSome (pairs left right) := by
  have none_ : pairs left .nil = [] := List.flatMap_eq_nil_iff.2 fun _ _ => rfl
  unfold values
  rw [if_neg other]
  cases left with
  | nil => rfl
  | scalar a =>
      cases right with
      | nil => rw [none_]; rfl
      | scalar b => rfl
      | sequence bs => rfl
  | sequence as =>
      cases right with
      | nil => rw [none_]; rfl
      | scalar b => rfl
      | sequence bs => rfl

/-- Some element on the left is loosely equal to one on the right. -/
def meet (left right : Value) : Bool :=
  (pairs left right).any fun p => p.1.looselyEquals p.2

theorem meet_iff :
    meet left right = true ↔
      ∃ a ∈ left.items, ∃ b ∈ right.items, a.looselyEquals b = true := by
  simp only [meet, List.any_eq_true, mem_pairs_iff, Prod.exists]
  grind

theorem meet_comm (left right : Value) : meet left right = meet right left := by
  rw [Bool.eq_iff_iff, meet_iff, meet_iff]
  constructor
  all_goals
    rintro ⟨a, member, b, member', equal⟩
    exact ⟨b, member', a, member, (Scalar.looselyEquals_comm _ _).trans equal⟩

theorem values_eq (left right : Value) :
    Comparison.eq.values left right = .ok (meet left right) :=
  (values_eq_holdsSome (by decide) left right).trans (holdsSome_eq _)

theorem values_ne (some_ : left.isNil = false) (some_' : right.isNil = false) :
    Comparison.ne.values left right = .ok (!meet left right) := by
  unfold values
  rw [some_, some_']
  exact congrArg (Except.map (!·)) (holdsSome_eq _)

theorem ne_of_ordering (ordering : c ∈ orderings) : c ≠ .ne := by
  rintro rfl
  exact absurd ordering (by decide)

/-- **Where an ordering fails.** -/
theorem values_error_iff (ordering : c ∈ orderings) (left right : Value) :
    (∃ e, c.values left right = .error e) ↔ c.Stumbles left right := by
  rw [values_eq_holdsSome (ne_of_ordering ordering), holdsSome_error_iff ordering]
  constructor
  · rintro ⟨before, a, b, after, same, none_, refused⟩
    obtain ⟨as, as', bs, bs', split, split', rfl⟩ := pairs_eq_append_cons_iff.1 ⟨after, same⟩
    obtain ⟨further, own⟩ := List.forall_mem_append.1 refused
    refine ⟨as, a, as', bs, b, bs', split, split', none_, fun x member y member' => ?_,
      fun y member => own (a, y) (List.mem_map_of_mem member)⟩
    exact further (x, y) (List.mem_flatMap.2 ⟨x, member, List.mem_map_of_mem member'⟩)
  · rintro ⟨as, a, as', bs, b, bs', split, split', none_, further, own⟩
    obtain ⟨after, same⟩ := pairs_eq_append_cons_iff.2 ⟨as, as', bs, bs', split, split', rfl⟩
    refine ⟨_, a, b, after, same, none_, List.forall_mem_append.2 ⟨?_, ?_⟩⟩
    · intro p member
      obtain ⟨x, left_, inner⟩ := List.mem_flatMap.1 member
      obtain ⟨y, right_, rfl⟩ := List.mem_map.1 inner
      exact further x left_ y right_
    · intro p member
      obtain ⟨y, earlier, rfl⟩ := List.mem_map.1 member
      exact own y earlier

/-- **What an ordering says** where it does not fail. -/
theorem values_ok_iff (ordering : c ∈ orderings) {v : Bool}
    (ran : c.values left right = .ok v) :
    v = true ↔ ∃ a ∈ left.items, ∃ b ∈ right.items, c.Accepts a b := by
  rw [values_eq_holdsSome (ne_of_ordering ordering)] at ran
  rw [holdsSome_ok_iff ordering ran]
  simp only [mem_pairs_iff, Prod.exists]
  grind

theorem values_error_eq (ordering : c ∈ orderings) {e : EvalError}
    (ran : c.values left right = .error e) :
    ∃ a ∈ left.items, ∃ b ∈ right.items,
      a.compare b = none ∧ e = .typeMismatch a.typeName b.typeName := by
  rw [values_eq_holdsSome (ne_of_ordering ordering)] at ran
  obtain ⟨⟨a, b⟩, member, mismatch⟩ := holdsSome_error_eq ordering ran
  obtain ⟨member, member'⟩ := mem_pairs_iff.1 member
  exact ⟨a, member, b, member', mismatch⟩

/-- An ordering that succeeds in spite of a pair without an order has come to an accepted one. -/
theorem exists_accepted_of_none (ordering : c ∈ orderings) {v : Bool}
    (ran : c.values left right = .ok v) {a b : Scalar} (member : a ∈ left.items)
    (member' : b ∈ right.items) (none_ : a.compare b = none) :
    ∃ x ∈ left.items, ∃ y ∈ right.items, c.Accepts x y := by
  refine Classical.byContradiction fun refused => ?_
  have each (x : Scalar) (left_ : x ∈ left.items) (y : Scalar) (right_ : y ∈ right.items) :
      ¬ c.Accepts x y := fun accepted => refused ⟨x, left_, y, right_, accepted⟩
  obtain ⟨as, as', split⟩ := List.append_of_mem member
  obtain ⟨bs, bs', split'⟩ := List.append_of_mem member'
  have stumbles : c.Stumbles left right :=
    ⟨as, a, as', bs, b, bs', split, split', none_,
      fun x further => each x (split ▸ List.mem_append_left _ further),
      fun y earlier => each a member y (split' ▸ List.mem_append_left _ earlier)⟩
  obtain ⟨e, failed⟩ := (values_error_iff ordering left right).2 stumbles
  rw [failed] at ran
  cases ran

/-- Two orderings of which one accepts what the other does with the sides swapped agree where
both succeed. -/
theorem values_agree {c' : Comparison} (ordering : c ∈ orderings) (ordering' : c' ∈ orderings)
    (converse : ∀ o : Ordering, c'.accepts o.swap = c.accepts o) {v w : Bool}
    (ran : c.values left right = .ok v) (ran' : c'.values right left = .ok w) : v = w := by
  have swapped (a b : Scalar) : c'.Accepts b a ↔ c.Accepts a b := by
    unfold Accepts
    rw [a.compare_swap b]
    simp only [Option.map_eq_some_iff]
    constructor
    · rintro ⟨_, ⟨o, verdict, rfl⟩, accepted⟩
      exact ⟨o, verdict, by rwa [converse] at accepted⟩
    · rintro ⟨o, verdict, accepted⟩
      exact ⟨o.swap, ⟨o, verdict, rfl⟩, by rwa [converse]⟩
  rw [Bool.eq_iff_iff, values_ok_iff ordering ran, values_ok_iff ordering' ran']
  constructor
  · rintro ⟨a, member, b, member', accepted⟩
    exact ⟨b, member', a, member, (swapped a b).2 accepted⟩
  · rintro ⟨b, member', a, member, accepted⟩
    exact ⟨a, member, b, member', (swapped a b).1 accepted⟩

/-- At most is less or equal.  A pair that is equal and has no order, such as two equal regexes,
does no harm: where `le` succeeds, some other pair is accepted. -/
theorem values_le {v w : Bool} (ran : Comparison.lt.values left right = .ok v)
    (ran' : Comparison.le.values left right = .ok w) : w = (v || meet left right) := by
  have lt_iff := values_ok_iff (by decide) ran
  have le_iff := values_ok_iff (by decide) ran'
  rw [Bool.eq_iff_iff, Bool.or_eq_true, lt_iff, le_iff, meet_iff]
  constructor
  · rintro ⟨a, member, b, member', o, verdict, accepted⟩
    cases o with
    | lt => exact .inl ⟨a, member, b, member', .lt, verdict, rfl⟩
    | eq => exact .inr ⟨a, member, b, member', (Scalar.looselyEquals_iff_tie verdict).2 rfl⟩
    | gt => exact absurd accepted (by decide)
  · rintro (⟨a, member, b, member', o, verdict, accepted⟩ | ⟨a, member, b, member', equal⟩)
    · refine ⟨a, member, b, member', o, verdict, ?_⟩
      cases o <;> first | rfl | exact accepted
    · cases verdict : a.compare b with
      | some o =>
          obtain rfl := (Scalar.looselyEquals_iff_tie verdict).1 equal
          exact ⟨a, member, b, member', .eq, verdict, rfl⟩
      | none => exact exists_accepted_of_none (by decide) ran' member member' verdict

/-! ## Terms -/

/-- A comparison fails by what its values are, with its term as the only context. -/
theorem run_resolved (c : Comparison) {evaluate : Evaluator} {site : Site} {l r : Operand}
    {s s' s'' : State} (resolved : resolve evaluate site (.mk (.builtin (.compare c)) [l, r]) 0 s =
      (.ok left, s'))
    (resolved' : resolve evaluate site (.mk (.builtin (.compare c)) [l, r]) 1 s' =
      (.ok right, s'')) :
    c.run evaluate site (.mk (.builtin (.compare c)) [l, r]) s =
      ((c.values left right).map .boolean, s'') := by
  have arity : checkArity (.mk (.builtin (.compare c)) [l, r]) (.exactly 2) = pure () := rfl
  unfold run
  rw [arity]
  refine (Act.bind_ok resolved _).trans ((Act.bind_ok resolved' _).trans ?_)
  cases c.values left right <;> rfl

end

/-- **Comparisons are existential and consistent.**  Nothing compares with no value.  Two values
are equal if some element of the one is loosely equal to one of the other, and unequal if not:
neither fails, and sides do not matter.  An ordering fails where a pair without an order comes up
before the first accepted one, and otherwise says whether there is an accepted pair.  So an
ordering and its converse agree where both succeed, and at most is less or equal.  The term of a
comparison gives what its resolved operands give. -/
theorem values_consistent (left right : Value) :
    (left.isNil = true ∨ right.isNil = true → ∀ c : Comparison, c.values left right = .ok false) ∧
    (left.isNil = false → right.isNil = false →
      (∃ equal : Bool,
        Comparison.eq.values left right = .ok equal ∧
        Comparison.ne.values left right = .ok (!equal) ∧
        (equal = true ↔ ∃ a ∈ left.items, ∃ b ∈ right.items, a.looselyEquals b = true)) ∧
      Comparison.eq.values left right = Comparison.eq.values right left ∧
      Comparison.ne.values left right = Comparison.ne.values right left ∧
      ∀ c ∈ orderings,
        ((∃ e, c.values left right = .error e) ↔ c.Stumbles left right) ∧
        (∀ e, c.values left right = .error e → ∃ a ∈ left.items, ∃ b ∈ right.items,
          a.compare b = none ∧ e = .typeMismatch a.typeName b.typeName) ∧
        ∀ v, c.values left right = .ok v →
          (v = true ↔ ∃ a ∈ left.items, ∃ b ∈ right.items, c.Accepts a b)) ∧
    (∀ v w, Comparison.lt.values left right = .ok v →
      Comparison.gt.values right left = .ok w → v = w) ∧
    (∀ v w, Comparison.le.values left right = .ok v →
      Comparison.ge.values right left = .ok w → v = w) ∧
    (∀ v w, Comparison.lt.values left right = .ok v → Comparison.le.values left right = .ok w →
      ∃ equal, Comparison.eq.values left right = .ok equal ∧ w = (v || equal)) ∧
    ∀ (settings : Settings) (levels : Nat) (site : Site) (c : Comparison) (l r : Operand)
      (s s' s'' : State),
      let t : Term := .mk (.builtin (.compare c)) [l, r]
      let evaluate := evalAt settings levels
      s.world.registry.hosts (.compare c) = true →
      resolve evaluate site t 0 ⟨s.memory, s.world.note (.dispatched site.depth t)⟩ =
        (.ok left, s') →
      resolve evaluate site t 1 s' = (.ok right, s'') →
      evalAt settings (levels + 1) site t s =
        (((c.values left right).map .boolean).mapError
          (.evaluation t.text ⟨site.depth, t.name, site.rows.length⟩), s'') := by
  refine ⟨values_of_nil, fun some_ some_' => ⟨?equality, ?symmetric, ?symmetric', ?orders⟩,
    fun v w => values_agree (by decide) (by decide) (by decide),
    fun v w => values_agree (by decide) (by decide) (by decide),
    fun v w ran ran' => ⟨meet left right, values_eq left right, values_le ran ran'⟩, ?term⟩
  case equality =>
    exact ⟨meet left right, values_eq left right, values_ne some_ some_', meet_iff⟩
  case symmetric => rw [values_eq, values_eq, meet_comm]
  case symmetric' => rw [values_ne some_ some_', values_ne some_' some_, meet_comm]
  case orders =>
    intro c ordering
    exact ⟨values_error_iff ordering left right, fun e => values_error_eq ordering,
      fun v => values_ok_iff ordering⟩
  case term =>
    intro settings levels site c l r s s' s'' t evaluate hosted resolved resolved'
    have dispatched : dispatch settings evaluate site t s =
        Act.mapError (·.leaving site t) (c.run evaluate site t)
          ⟨s.memory, s.world.note (.dispatched site.depth t)⟩ := dispatch_builtin rfl hosted
    rw [evalAt_succ, dispatched, Act.mapError_apply, run_resolved c resolved resolved']
    cases compared : c.values left right with
    | ok v => rfl
    | error e =>
        have own := values_error_isLocal c left right e compared
        exact congrArg (fun e => (Except.error e, s''))
          (EvalError.leaving_of_not_concerns (own.concerns_eq_false t.text))

/-- A sequence with a string last: `lt` comes to an accepted pair first, and its converse, which
has the sides swapped, to the string.  Of two integers the converses agree. -/
theorem values_consistent_ends :
    let left : Value := .sequence [.integer 1, .string "x"]
    let right : Value := .sequence [.integer 0, .integer 2]
    let one : Value := .sequence [.integer 1]
    let two : Value := .sequence [.integer 2]
    let t : Term := .mk (.builtin (.compare .gt)) [.literal (.integer 2), .literal (.string "x")]
    (Value.nil.isNil = true ∧ Comparison.ne.values .nil right = .ok false) ∧
      (left.isNil = false ∧ right.isNil = false ∧
        Comparison.eq.values left right = Comparison.eq.values right left ∧
        Comparison.lt.values left right = .ok true ∧
        (∃ a ∈ left.items, ∃ b ∈ right.items, Comparison.lt.Accepts a b) ∧
        Comparison.gt.values right left = .error (.typeMismatch "integer" "string") ∧
        Comparison.gt.Stumbles right left) ∧
      (∃ v w, Comparison.lt.values one two = .ok v ∧ Comparison.gt.values two one = .ok w ∧
        v = w) ∧
      (∃ v w, Comparison.le.values one two = .ok v ∧ Comparison.ge.values two one = .ok w ∧
        v = w) ∧
      (∃ v w equal, Comparison.lt.values one two = .ok v ∧ Comparison.le.values one two = .ok w ∧
        Comparison.eq.values one two = .ok equal ∧ w = (v || equal)) ∧
      Registry.standard.hosts (.compare .gt) = true ∧
        (evalAt {} 1 ⟨[], 0⟩ t ⟨.mk none [], {}⟩).1 =
          .error (.evaluation t.text ⟨0, t.name, 0⟩ (.typeMismatch "integer" "string")) := by
  intro left right one two t
  have lt : Comparison.lt.values left right = .ok true := rfl
  have gt : Comparison.gt.values right left = .error (.typeMismatch "integer" "string") := rfl
  obtain ⟨-, consistent, -⟩ := values_consistent left right
  obtain ⟨-, consistent', -⟩ := values_consistent right left
  obtain ⟨-, symmetric, -, orders⟩ := consistent rfl rfl
  obtain ⟨-, -, -, orders'⟩ := consistent' rfl rfl
  obtain ⟨-, -, agree, agree', atMost, -⟩ := values_consistent one two
  obtain ⟨equal, ran, decided⟩ := atMost true true rfl rfl
  obtain ⟨-, -, -, -, -, term⟩ := values_consistent two (.sequence [.string "x"])
  have hosted := Registry.standard_hosts (.compare .gt)
  refine ⟨⟨rfl, (values_consistent .nil right).1 (.inl rfl) .ne⟩,
    ⟨rfl, rfl, symmetric, lt, ((orders .lt (by decide)).2.2 _ lt).1 rfl, gt,
      (orders' .gt (by decide)).1.1 ⟨_, gt⟩⟩,
    ⟨true, true, rfl, rfl, agree true true rfl rfl⟩,
    ⟨true, true, rfl, rfl, agree' true true rfl rfl⟩,
    ⟨true, true, equal, rfl, rfl, ran, decided⟩, hosted, ?_⟩
  exact congrArg Prod.fst (term {} 0 ⟨[], 0⟩ .gt (.literal (.integer 2)) (.literal (.string "x"))
    ⟨.mk none [], {}⟩ _ _ hosted rfl rfl)

end Comparison

end FactScan
