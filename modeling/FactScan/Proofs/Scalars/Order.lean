/-
# FactScan.Proofs.Scalars.Order — how far the order of scalars is one

Two scalars can be compared when they are on one line: two numbers, strings, booleans or
timestamps.  On the last three lines the order is an order.  On the line of numbers, two integers
are compared as they are, but an integer and a float by the double nearest to the integer
(`Binary64.nearestRank`), which is the same for many a pair of integers beyond `2 ^ 53`.  So a
float may be equal to two integers of which one is less.  Rounding keeps the order, hence nothing
worse happens.

* `Scalar.compare_integers`, `Scalar.compare_ranks`: how numbers compare, by the units that they
  denote.
* `Scalar.compare_lt_trans`: the strict order is transitive on all scalars.
* `Scalar.chained_of_separated`: and so is the order with ties, among scalars none of which is a
  float that is equal to two integers.
* `Scalar.compare_order`, `Scalar.compare_round_integers`: the whole, and where it ends.
-/
import FactScan.Proofs.Reading.Places
import FactScan.Proofs.Scalars.Equality

namespace FactScan

set_option autoImplicit false

/-! ## Doubles as counts of units -/

namespace Binary64

/-- The rank of the double nearest to a count of units. -/
def nearestRank (u : Int) : Int := rank (u < 0) (nearestPlace u.natAbs 1)

/-- A count of units that some double has. -/
def Representable (u : Int) : Prop :=
  ∃ (negative : Bool) (place : Nat), place ≤ top ∧ signedUnits negative place = u

theorem nearestPlace_own {place : Nat} (finite : place ≤ top) :
    nearestPlace (units place) 1 = place := by
  have own := nearestPlace_units finite Nat.one_pos
  rwa [Nat.mul_one] at own

/-- A double is nearest to itself. -/
theorem nearestRank_signedUnits (negative : Bool) {place : Nat} (finite : place ≤ top) :
    nearestRank (signedUnits negative place) = rank negative place := by
  have own := nearestPlace_own finite
  cases negative with
  | false =>
      have sign : ¬ (units place : Int) < 0 := by omega
      show rank (decide ((units place : Int) < 0)) (nearestPlace (units place) 1) = _
      rw [decide_eq_false sign, own]
  | true =>
      show rank (decide (-(units place : Int) < 0))
        (nearestPlace (-(units place : Int)).natAbs 1) = _
      rw [Int.natAbs_neg, Int.natAbs_natCast, own]
      rcases Nat.eq_zero_or_pos place with rfl | positive
      · rfl
      · have sign : -(units place : Int) < 0 := by
          have : 0 < units place := units_lt positive
          omega
        rw [decide_eq_true sign]

/-- **Rounding keeps the order.** -/
theorem nearestRank_mono {u v : Int} (less : u ≤ v) : nearestRank u ≤ nearestRank v := by
  have upward (p q : Nat) (h : p ≤ q) := nearestPlace_mono h 1
  unfold nearestRank rank
  rcases Int.lt_or_le u 0 with negative | positive
  · rw [decide_eq_true negative, if_pos rfl]
    rcases Int.lt_or_le v 0 with negative' | positive'
    · have := upward v.natAbs u.natAbs (by omega)
      rw [decide_eq_true negative', if_pos rfl]
      omega
    · rw [decide_eq_false (Int.not_lt.2 positive'), if_neg Bool.false_ne_true]
      omega
  · have := upward u.natAbs v.natAbs (by omega)
    rw [decide_eq_false (Int.not_lt.2 positive), if_neg Bool.false_ne_true,
      decide_eq_false (Int.not_lt.2 (Int.le_trans positive less)), if_neg Bool.false_ne_true]
    omega

/-- Only the zeros share a rank. -/
theorem eq_of_rank_eq {s t : Bool} {p q : Nat} (same : rank s p = rank t q) :
    p = q ∧ (s = t ∨ p = 0) := by
  unfold rank at same
  cases s <;> cases t <;> simp only [Bool.false_eq_true, if_false, if_true] at same <;> simp <;>
    omega

theorem signedUnits_congr {s t : Bool} {p q : Nat} (same : rank s p = rank t q) :
    signedUnits s p = signedUnits t q := by
  obtain ⟨rfl, rfl | rfl⟩ := eq_of_rank_eq same
  · rfl
  · cases s <;> cases t <;> rfl

theorem nearestRank_injective {u v : Int} (own : Representable u) (own' : Representable v)
    (same : nearestRank u = nearestRank v) : u = v := by
  obtain ⟨s, p, finite, rfl⟩ := own
  obtain ⟨t, q, finite', rfl⟩ := own'
  rw [nearestRank_signedUnits s finite, nearestRank_signedUnits t finite'] at same
  exact signedUnits_congr same

/-- Among doubles, nothing is lost. -/
theorem compare_nearestRank {u v : Int} (own : Representable u) (own' : Representable v) :
    Ord.compare (nearestRank u) (nearestRank v) = Ord.compare u v := by
  have apart := nearestRank_injective own own'
  rcases Int.lt_trichotomy u v with less | rfl | greater
  · have mono := nearestRank_mono (Int.le_of_lt less)
    rw [Int.compare_eq_lt.2 less, Int.compare_eq_lt]
    omega
  · rw [Std.compare_self, Std.compare_self]
  · have mono := nearestRank_mono (Int.le_of_lt greater)
    rw [Int.compare_eq_gt.2 greater, Int.compare_eq_gt]
    omega

/-- A count with a sign. -/
theorem signedUnits_of_units {u : Int} {place : Nat} (same : units place = u.natAbs) :
    signedUnits (u < 0) place = u := by
  unfold signedUnits
  rw [same]
  rcases Int.lt_or_le u 0 with negative | positive
  · rw [decide_eq_true negative, if_pos rfl]
    omega
  · rw [decide_eq_false (Int.not_lt.2 positive), if_neg Bool.false_ne_true]
    omega

/-- A count of up to 53 bits ones fills its place. -/
theorem exists_place_of_small {n : Nat} (small : n ≤ 2 * stretch) :
    ∃ place, place ≤ top ∧ units place = n * one := by
  rcases Nat.eq_zero_or_pos n with rfl | positive
  · exact ⟨0, Nat.zero_le _, (Nat.zero_mul _).symm⟩
  · obtain ⟨shift, near, normal, inside⟩ :
        ∃ shift ≤ 52, stretch ≤ n * 2 ^ shift ∧ n * 2 ^ shift ≤ 2 * stretch := by
      have least := Nat.log2_self_le (Nat.ne_of_gt positive)
      have most := @Nat.lt_log2_self n
      refine ⟨52 - n.log2, Nat.sub_le _ _, ?_, ?_⟩
      · calc stretch = 2 ^ 52 := rfl
          _ ≤ 2 ^ (n.log2 + (52 - n.log2)) := Nat.pow_le_pow_right (by decide) (by omega)
          _ = 2 ^ n.log2 * 2 ^ (52 - n.log2) := Nat.pow_add ..
          _ ≤ n * 2 ^ (52 - n.log2) := Nat.mul_le_mul_right _ least
      · rcases Nat.lt_or_ge 52 n.log2 with large | small'
        · rw [Nat.sub_eq_zero_of_le (Nat.le_of_lt large), Nat.pow_zero, Nat.mul_one]
          exact small
        · calc n * 2 ^ (52 - n.log2)
              _ ≤ 2 ^ (n.log2 + 1) * 2 ^ (52 - n.log2) :=
                  Nat.mul_le_mul_right _ (Nat.le_of_lt most)
              _ = 2 ^ 53 := by rw [← Nat.pow_add]; congr 1; omega
              _ = 2 * stretch := rfl
    obtain ⟨e, least, most, isPower⟩ : ∃ e, 52 ≤ e ∧ e ≤ 2045 ∧ one = 2 ^ e :=
      ⟨1074, by decide, by decide, by decide +kernel⟩
    refine ⟨(e - shift) * stretch + n * 2 ^ shift, ?_, ?_⟩
    · have := Nat.mul_le_mul_right stretch (Nat.le_trans (Nat.sub_le e shift) most)
      unfold top
      omega
    · rw [units_of_stretch _ normal inside, Nat.mul_assoc, ← Nat.pow_add,
        Nat.add_sub_cancel' (Nat.le_trans near least), isPower]

/-- Integers of up to 53 bits are doubles. -/
theorem representable_of_small {n : Int} (small : n.natAbs ≤ 2 ^ 53) :
    Representable (n * one) := by
  obtain ⟨place, finite, same⟩ := exists_place_of_small small
  refine ⟨n * one < 0, place, finite, signedUnits_of_units ?_⟩
  rw [same, Int.natAbs_mul, Int.natAbs_natCast]

/-- **No double is nearer** to a count than those of its nearest rank. -/
theorem nearestRank_nearest {u v w : Int} (finite : u.natAbs < units top) (own : Representable v)
    (nearest : nearestRank u = nearestRank v) (other : Representable w) :
    (u - v).natAbs ≤ (u - w).natAbs := by
  obtain ⟨s, p, finite', rfl⟩ := own
  obtain ⟨t, q, -, rfl⟩ := other
  rw [nearestRank_signedUnits s finite'] at nearest
  have near := nearestPlace_nearest finite q
  have zero := nearestPlace_nearest finite 0
  rw [show units 0 = 0 from rfl] at zero
  rw [← signedUnits_congr nearest]
  unfold signedUnits
  rcases Int.lt_or_le u 0 with negative | positive
  · rw [decide_eq_true negative, if_pos rfl]
    cases t <;> simp only [if_true, Bool.false_eq_true, if_false] <;> omega
  · rw [decide_eq_false (Int.not_lt.2 positive), if_neg Bool.false_ne_true]
    cases t <;> simp only [if_true, Bool.false_eq_true, if_false] <;> omega

/-- Integers are rounded as the units they denote. -/
theorem ofInt_rank (n : Int) :
    rank (n < 0) (nearestPlace (n.natAbs * one) 1) = nearestRank (n * one) := by
  have positive : (0 : Int) < one := by decide +kernel
  have sign : (n * one : Int) < 0 ↔ n < 0 := by
    refine ⟨fun less => Int.lt_of_not_ge fun above => ?_, (Int.mul_neg_of_neg_of_pos · positive)⟩
    exact Int.not_lt.2 (Int.mul_nonneg above (Int.le_of_lt positive)) less
  unfold nearestRank
  rw [decide_eq_decide.2 sign, Int.natAbs_mul, Int.natAbs_natCast]

theorem compare_swap (x y : Binary64) : y.compare x = (x.compare y).map Ordering.swap := by
  cases x with
  | nan => cases y <;> rfl
  | point s p =>
      cases y with
      | nan => rfl
      | point t q => exact congrArg some Std.OrientedOrd.eq_swap

end Binary64

/-- Chronological order is one of days, then seconds, then nanoseconds. -/
instance : Std.TransCmp Timestamp.compare :=
  inferInstanceAs (Std.TransCmp (compareLex (compareOn Timestamp.day)
    (compareLex (compareOn Timestamp.second) (compareOn Timestamp.nano))))

/-! ## Lines -/

namespace Scalar

open Binary64 (nearestRank signedUnits Representable)

/-- A line on which scalars have their places. -/
inductive Line where
  | numbers
  | strings
  | booleans
  | timestamps
  deriving DecidableEq

/-- The line that a scalar is on, if any. -/
def line? : Scalar → Option Line
  | .integer _ => some .numbers
  | .float x => if x.isNaN then none else some .numbers
  | .string _ => some .strings
  | .boolean _ => some .booleans
  | .timestamp _ => some .timestamps
  | .regex _ => none
  | .term _ => none

/-- The number that a scalar denotes, in units of `2 ^ (-1074)`.  Infinity is laid out as the
power of two above all finite numbers. -/
def units? : Scalar → Option Int
  | .integer n => some (n.toInt * Binary64.one)
  | .float (.point negative place) => some (signedUnits negative place)
  | _ => none

/-- A scalar comes before another, or they tie. -/
def AtMost (a b : Scalar) : Prop := a.compare b = some .lt ∨ a.compare b = some .eq

/-- **Reversing a comparison reverses its verdict.** -/
theorem compare_swap (a b : Scalar) : b.compare a = (a.compare b).map Ordering.swap := by
  cases a <;> cases b
  case integer.integer m n => exact congrArg some Std.OrientedOrd.eq_swap
  case float.float x y => exact x.compare_swap y
  case float.integer x n => exact x.compare_swap (.ofInt n.toInt)
  case integer.float m y => exact (Binary64.ofInt m.toInt).compare_swap y
  case string.string s t => exact congrArg some (@Std.OrientedOrd.eq_swap String _ _ _ _)
  case boolean.boolean p q => exact congrArg some Std.OrientedOrd.eq_swap
  case timestamp.timestamp t u =>
    exact congrArg some (@Std.OrientedCmp.eq_swap _ Timestamp.compare _ _ _)
  all_goals rfl

/-- **What can be compared is on one line.** -/
theorem isSome_compare_iff (a b : Scalar) :
    (a.compare b).isSome = true ↔ ∃ line, a.line? = some line ∧ b.line? = some line := by
  rcases a with _ | (_ | _) | _ | _ | _ | _ | _ <;>
    rcases b with _ | (_ | _) | _ | _ | _ | _ | _ <;>
    simp [compare, line?, Binary64.compare, Binary64.isNaN, Binary64.ofInt, Binary64.round]

/-! ### Chains -/

/-- The order is one on three scalars: it is transitive, and the ends of a chain tie only where
all do. -/
def Chained (a b c : Scalar) : Prop :=
  a.AtMost b → b.AtMost c →
    a.AtMost c ∧ (a.compare c = some .eq → a.compare b = some .eq ∧ b.compare c = some .eq)

variable {a b c : Scalar}

theorem atMost_iff {o : Ordering} (verdict : a.compare b = some o) :
    a.AtMost b ↔ o.isLE = true := by
  unfold AtMost
  rw [verdict]
  cases o <;> decide

theorem AtMost.isSome (atMost : a.AtMost b) : (a.compare b).isSome = true := by
  rcases atMost with less | same
  · rw [less]
    rfl
  · rw [same]
    rfl

theorem compare_reverse {o : Ordering} (verdict : a.compare b = some o) :
    b.compare a = some o.swap := by
  rw [compare_swap, verdict]
  rfl

/-- The strict order is asymmetric, either way. -/
theorem compare_asymm {o : Ordering} (strict : o ≠ .eq) (verdict : a.compare b = some o) :
    b.compare a ≠ some o := by
  rw [compare_reverse verdict]
  cases o with
  | eq => exact absurd rfl strict
  | lt => exact nofun
  | gt => exact nofun

theorem compare_eq_of_atMost (first : a.AtMost b) (second : b.AtMost a) :
    a.compare b = some .eq := by
  rcases first with less | same
  · rcases second with less' | same'
    · exact absurd less' (compare_asymm nofun less)
    · exact compare_reverse same'
  · exact same

theorem Chained.lt_trans (chained : Chained a b c) (first : a.compare b = some .lt)
    (second : b.compare c = some .lt) : a.compare c = some .lt := by
  obtain ⟨less | same, tie⟩ := chained (.inl first) (.inl second)
  · exact less
  · have tied := (tie same).1
    rw [first] at tied
    cases tied

/-- An order has no other chains. -/
theorem Chained.of_comparator {α : Type} (cmp : α → α → Ordering) [Std.TransCmp cmp]
    {f : α → Scalar} (compare_eq : ∀ x y, (f x).compare (f y) = some (cmp x y)) (x y z : α) :
    Chained (f x) (f y) (f z) := by
  unfold Chained
  rw [atMost_iff (compare_eq x y), atMost_iff (compare_eq y z), atMost_iff (compare_eq x z),
    compare_eq, compare_eq, compare_eq]
  intro first second
  refine ⟨Std.TransCmp.isLE_trans first second, fun ends => ?_⟩
  have ends' := Option.some.inj ends
  have notLess : cmp x y ≠ .lt := fun less => by
    rw [Std.TransCmp.lt_of_lt_of_isLE less second] at ends'
    cases ends'
  have notLess' : cmp y z ≠ .lt := fun less => by
    rw [Std.TransCmp.lt_of_isLE_of_lt first less] at ends'
    cases ends'
  exact ⟨congrArg some ((Ordering.isLE_iff_eq_lt_or_eq_eq.1 first).resolve_left notLess),
    congrArg some ((Ordering.isLE_iff_eq_lt_or_eq_eq.1 second).resolve_left notLess')⟩

theorem chained_integers (m n k : Int64) : Chained (.integer m) (.integer n) (.integer k) :=
  .of_comparator (compareOn Int64.toInt) (fun _ _ => rfl) m n k

/-- A whole line with an order. -/
theorem Chained.of_line {α : Type} (cmp : α → α → Ordering) [Std.TransCmp cmp] (f : α → Scalar)
    (compare_eq : ∀ x y, (f x).compare (f y) = some (cmp x y)) {line : Line}
    (places : ∀ a, a.line? = some line → ∃ x, a = f x) (own : b.line? = some line) :
    Chained a b c := by
  intro less less'
  obtain ⟨_, first, own'⟩ := (isSome_compare_iff a b).1 less.isSome
  obtain ⟨_, own'', last⟩ := (isSome_compare_iff b c).1 less'.isSome
  obtain rfl := Option.some.inj (own.symm.trans own')
  obtain rfl := Option.some.inj (own.symm.trans own'')
  obtain ⟨x, rfl⟩ := places a first
  obtain ⟨y, rfl⟩ := places b own
  obtain ⟨z, rfl⟩ := places c last
  exact Chained.of_comparator cmp compare_eq x y z less less'

/-- The places of each line. -/
theorem line?_cases {line : Line} (on : a.line? = some line) :
    (line = .numbers ∧ ∃ u, a.units? = some u) ∨ (line = .strings ∧ ∃ s, a = .string s) ∨
      (line = .booleans ∧ ∃ p, a = .boolean p) ∨ (line = .timestamps ∧ ∃ t, a = .timestamp t) := by
  rcases a with n | (_ | ⟨negative, place⟩) | s | p | t | _ | _
  case integer => exact .inl ⟨(Option.some.inj on).symm, _, rfl⟩
  case float.point => exact .inl ⟨(Option.some.inj on).symm, _, rfl⟩
  case string => exact .inr (.inl ⟨(Option.some.inj on).symm, s, rfl⟩)
  case boolean => exact .inr (.inr (.inl ⟨(Option.some.inj on).symm, p, rfl⟩))
  case timestamp => exact .inr (.inr (.inr ⟨(Option.some.inj on).symm, t, rfl⟩))
  all_goals cases on

/-- Off the line of numbers nothing goes wrong. -/
theorem chained_of_line {line : Line} (own : b.line? = some line) (other : line ≠ .numbers) :
    Chained a b c := by
  cases line with
  | numbers => exact absurd rfl other
  | strings =>
      refine .of_line (fun s t : String => Ord.compare s t) .string (fun _ _ => rfl)
        (fun a on => ?_) own
      simpa using line?_cases on
  | booleans =>
      refine .of_line (compareOn Bool.toNat) .boolean (fun _ _ => rfl)
        (fun a on => ?_) own
      simpa using line?_cases on
  | timestamps =>
      refine .of_line Timestamp.compare .timestamp (fun _ _ => rfl)
        (fun a on => ?_) own
      simpa using line?_cases on

/-! ### Numbers -/

variable {u v w : Int}

theorem units?_cases (number : a.units? = some u) :
    (∃ n, a = .integer n ∧ u = n.toInt * Binary64.one) ∨
      ∃ s p, a = .float (.point s p) ∧ u = signedUnits s p := by
  rcases a with n | (_ | ⟨s, p⟩) | _ | _ | _ | _ | _
  case integer => exact .inl ⟨n, rfl, (Option.some.inj number).symm⟩
  case float.point => exact .inr ⟨s, p, rfl, (Option.some.inj number).symm⟩
  all_goals cases number

theorem mixed_or_integers (a b : Scalar) :
    (a.integer? = none ∨ b.integer? = none) ∨ ∃ m n, a = .integer m ∧ b = .integer n := by
  cases a with
  | integer m =>
      cases b with
      | integer n => exact .inr ⟨m, n, rfl, rfl⟩
      | _ => exact .inl (.inr rfl)
  | _ => exact .inl (.inl rfl)

/-- Integers compare as they are. -/
theorem compare_integers (m n : Int64) :
    (Scalar.integer m).compare (.integer n) =
      some (Ord.compare (m.toInt * Binary64.one) (n.toInt * Binary64.one)) := by
  have positive : (0 : Int) < Binary64.one := by decide +kernel
  refine congrArg some ?_
  rcases Int.lt_trichotomy m.toInt n.toInt with less | same | greater
  · rw [Int.compare_eq_lt.2 less,
      Int.compare_eq_lt.2 (Int.mul_lt_mul_of_pos_right less positive)]
  · rw [same, Std.compare_self, Std.compare_self]
  · rw [Int.compare_eq_gt.2 greater,
      Int.compare_eq_gt.2 (Int.mul_lt_mul_of_pos_right greater positive)]

/-- Numbers one of which is a float compare by the doubles nearest to them. -/
theorem compare_ranks (number : a.units? = some u) (number' : b.units? = some v)
    (mixed : a.integer? = none ∨ b.integer? = none) :
    a.compare b = some (Ord.compare (nearestRank u) (nearestRank v)) := by
  have own (negative : Bool) (place : Fin (Binary64.top + 1)) :=
    Binary64.nearestRank_signedUnits negative (Nat.le_of_lt_succ place.isLt)
  rcases units?_cases number with ⟨m, rfl, rfl⟩ | ⟨s, p, rfl, rfl⟩
  · rcases units?_cases number' with ⟨n, rfl, rfl⟩ | ⟨t, q, rfl, rfl⟩
    · rcases mixed with none_ | none_ <;> cases none_
    · rw [own, ← Binary64.ofInt_rank]
      rfl
  · rcases units?_cases number' with ⟨n, rfl, rfl⟩ | ⟨t, q, rfl, rfl⟩
    · rw [own, ← Binary64.ofInt_rank]
      rfl
    · rw [own, own]
      rfl

/-- However numbers are compared, their nearest doubles are in that order or the same. -/
theorem AtMost.rank_le (atMost : a.AtMost b) (number : a.units? = some u)
    (number' : b.units? = some v) : nearestRank u ≤ nearestRank v := by
  rcases mixed_or_integers a b with mixed | ⟨m, n, rfl, rfl⟩
  · rw [atMost_iff (compare_ranks number number' mixed)] at atMost
    exact Std.isLE_compare.1 atMost
  · obtain rfl := Option.some.inj number
    obtain rfl := Option.some.inj number'
    rw [atMost_iff (compare_integers m n)] at atMost
    exact Binary64.nearestRank_mono (Std.isLE_compare.1 atMost)

/-- Numbers whose nearest doubles are apart are compared as those are. -/
theorem compare_lt_of_rank_lt (number : a.units? = some u) (number' : b.units? = some v)
    (less : nearestRank u < nearestRank v) : a.compare b = some .lt := by
  have line : a.line? = some .numbers ∧ b.line? = some .numbers := by
    rcases units?_cases number with ⟨m, rfl, -⟩ | ⟨s, p, rfl, -⟩ <;>
      rcases units?_cases number' with ⟨n, rfl, -⟩ | ⟨t, q, rfl, -⟩ <;> exact ⟨rfl, rfl⟩
  have some_ := (isSome_compare_iff a b).2 ⟨_, line⟩
  have notBack : ¬ b.AtMost a := fun back =>
    Int.not_lt.2 (back.rank_le number' number) less
  cases verdict : a.compare b with
  | none =>
      rw [verdict] at some_
      cases some_
  | some o =>
      cases o with
      | lt => rfl
      | eq => exact absurd (.inr (compare_reverse verdict)) notBack
      | gt => exact absurd (.inl (compare_reverse verdict)) notBack

theorem exists_units (on : a.line? = some .numbers) : ∃ u, a.units? = some u := by
  simpa using line?_cases on

/-- Chains are those of an order, but for numbers one of which is a float. -/
theorem chained_or_numbers (first : a.AtMost b) (second : b.AtMost c) :
    Chained a b c ∨ ∃ u v w, a.units? = some u ∧ b.units? = some v ∧ c.units? = some w ∧
      (a.integer? = none ∨ b.integer? = none ∨ c.integer? = none) := by
  obtain ⟨line, on, on'⟩ := (isSome_compare_iff a b).1 first.isSome
  obtain ⟨_, own, on''⟩ := (isSome_compare_iff b c).1 second.isSome
  obtain rfl := Option.some.inj (on'.symm.trans own)
  by_cases numbers : line = .numbers
  rotate_left
  · exact .inl (chained_of_line on' numbers)
  subst numbers
  obtain ⟨u, number⟩ := exists_units on
  obtain ⟨v, number'⟩ := exists_units on'
  obtain ⟨w, number''⟩ := exists_units on''
  rcases mixed_or_integers a b with (mixed | mixed) | ⟨m, n, rfl, rfl⟩
  · exact .inr ⟨u, v, w, number, number', number'', .inl mixed⟩
  · exact .inr ⟨u, v, w, number, number', number'', .inr (.inl mixed)⟩
  · rcases units?_cases number'' with ⟨k, rfl, -⟩ | ⟨s, p, rfl, -⟩
    · exact .inl (chained_integers m n k)
    · exact .inr ⟨u, v, w, number, number', number'', .inr (.inr rfl)⟩

/-- **The strict order is transitive**, between integers and floats in any mixture: rounding may
take two integers together, but never past a float. -/
theorem compare_lt_trans (first : a.compare b = some .lt) (second : b.compare c = some .lt) :
    a.compare c = some .lt := by
  rcases chained_or_numbers (.inl first) (.inl second) with
    chained | ⟨u, v, w, number, number', number'', float⟩
  · exact chained.lt_trans first second
  have le : nearestRank u ≤ nearestRank v :=
    AtMost.rank_le (.inl first) number number'
  have le' : nearestRank v ≤ nearestRank w :=
    AtMost.rank_le (.inl second) number' number''
  refine compare_lt_of_rank_lt number number'' ?_
  -- The float is in one of the two steps, which thus is one between doubles.
  rcases mixed_or_integers a b with mixed | ⟨m, n, rfl, rfl⟩
  · rw [compare_ranks number number' mixed, Option.some.injEq, Int.compare_eq_lt] at first
    exact Int.lt_of_lt_of_le first le'
  · have float' : c.integer? = none := by simpa [integer?] using float
    rw [compare_ranks number' number'' (.inr float'), Option.some.injEq, Int.compare_eq_lt]
      at second
    exact Int.lt_of_le_of_lt le second

theorem compare_strict_trans {o : Ordering} (strict : o ≠ .eq) (first : a.compare b = some o)
    (second : b.compare c = some o) : a.compare c = some o := by
  cases o with
  | lt => exact compare_lt_trans first second
  | eq => exact absurd rfl strict
  | gt =>
      exact compare_reverse (compare_lt_trans (compare_reverse second) (compare_reverse first))

/-! ### Floats that are equal to two integers -/

/-- None of the scalars is a float that is equal to two of the integers among them. -/
def Separated (as : List Scalar) : Prop :=
  ∀ m n x, .integer m ∈ as → .integer n ∈ as → .float x ∈ as →
    (Scalar.integer m).compare (.float x) = some .eq →
      (Scalar.integer n).compare (.float x) = some .eq → m = n

variable {as : List Scalar}

/-- Numbers with one nearest double tie. -/
theorem Separated.tie (separated : Separated as) (member : a ∈ as) (member' : b ∈ as)
    (member'' : c ∈ as) (number : a.units? = some u) (number' : b.units? = some v)
    (number'' : c.units? = some w) (same : nearestRank u = nearestRank v)
    (same' : nearestRank v = nearestRank w)
    (float : a.integer? = none ∨ b.integer? = none ∨ c.integer? = none) :
    a.compare b = some .eq := by
  rcases mixed_or_integers a b with mixed | ⟨m, n, rfl, rfl⟩
  · rw [compare_ranks number number' mixed, same, Std.compare_self]
  · have float' : c.integer? = none := by simpa [integer?] using float
    rcases units?_cases number'' with ⟨k, rfl, -⟩ | ⟨s, p, rfl, -⟩
    · cases float'
    have tie := compare_ranks number number'' (.inr float')
    have tie' := compare_ranks number' number'' (.inr float')
    rw [same, same', Std.compare_self] at tie
    rw [same', Std.compare_self] at tie'
    obtain rfl := separated m n _ member member' member'' tie tie'
    rw [compare_integers, Std.compare_self]

/-- Without such floats the order is one. -/
theorem chained_of_separated (separated : Separated as) (member : a ∈ as) (member' : b ∈ as)
    (member'' : c ∈ as) : Chained a b c := by
  intro first second
  rcases chained_or_numbers first second with
    chained | ⟨u, v, w, number, number', number'', float⟩
  · exact chained first second
  have le := first.rank_le number number'
  have le' := second.rank_le number' number''
  -- Three numbers with one nearest double tie, whichever of them is the float.
  have ties (back : nearestRank w ≤ nearestRank u) :
      a.compare b = some .eq ∧ b.compare c = some .eq ∧ a.compare c = some .eq :=
    ⟨separated.tie member member' member'' number number' number'' (by omega) (by omega)
        float,
      separated.tie member' member'' member number' number'' number (by omega) (by omega)
        (or_rotate.1 float),
      separated.tie member member'' member' number number'' number' (by omega) (by omega)
        (float.imp_right Or.symm)⟩
  constructor
  · rcases Int.lt_or_le (nearestRank u) (nearestRank w) with less | back
    · exact .inl (compare_lt_of_rank_lt number number'' less)
    · exact .inr (ties back).2.2
  · intro same
    have back : c.AtMost a := .inr (compare_reverse same)
    obtain ⟨tie, tie', -⟩ := ties (back.rank_le number'' number)
    exact ⟨tie, tie'⟩

/-- And only without them. -/
theorem separated_of_chained (chained : ∀ a ∈ as, ∀ b ∈ as, ∀ c ∈ as, Chained a b c) :
    Separated as := by
  intro m n x member member' member'' same same'
  have tie := compare_eq_of_atMost
    (chained _ member _ member'' _ member' (.inr same) (.inr (compare_reverse same'))).1
    (chained _ member' _ member'' _ member (.inr same') (.inr (compare_reverse same))).1
  exact Int64.toInt_inj.1 (Std.compare_eq_iff_eq.1 (Option.some.inj tie))

/-! ### What numbers denote -/

theorem representable_float {x : Binary64} (number : (Scalar.float x).units? = some v) :
    Representable v := by
  rcases units?_cases number with ⟨m, isInteger, -⟩ | ⟨s, p, -, rfl⟩
  · cases isInteger
  · exact ⟨s, p, Nat.le_of_lt_succ p.isLt, rfl⟩

/-- **A verdict that a number is less is right**, whatever was rounded for it. -/
theorem units_lt_of_compare (number : a.units? = some u) (number' : b.units? = some v)
    (less : a.compare b = some .lt) : u < v := by
  rcases mixed_or_integers a b with mixed | ⟨m, n, rfl, rfl⟩
  · rw [compare_ranks number number' mixed, Option.some.injEq, Int.compare_eq_lt] at less
    exact Int.lt_of_not_ge fun above => Int.not_lt.2 (Binary64.nearestRank_mono above) less
  · obtain rfl := Option.some.inj number
    obtain rfl := Option.some.inj number'
    rw [compare_integers, Option.some.injEq, Int.compare_eq_lt] at less
    exact less

/-- Numbers that are doubles are compared as they are. -/
theorem compare_units (number : a.units? = some u) (number' : b.units? = some v)
    (own : Representable u) (own' : Representable v) :
    a.compare b = some (Ord.compare u v) := by
  rcases mixed_or_integers a b with mixed | ⟨m, n, rfl, rfl⟩
  · rw [compare_ranks number number' mixed, Binary64.compare_nearestRank own own']
  · obtain rfl := Option.some.inj number
    obtain rfl := Option.some.inj number'
    exact compare_integers m n

theorem units_small (n : Int64) :
    (n.toInt * Binary64.one).natAbs < Binary64.units Binary64.top := by
  have bounds : n.toInt.natAbs ≤ 2 ^ 63 := by
    have := n.toInt_lt
    have := n.le_toInt
    omega
  rw [Int.natAbs_mul, Int.natAbs_natCast]
  exact Nat.lt_of_le_of_lt (Nat.mul_le_mul_right _ bounds) (by decide +kernel)

/-- An integer ties with a float only if no float is nearer to it. -/
theorem nearest_of_compare {n : Int64} {x : Binary64} (number : (Scalar.float x).units? = some v)
    (same : (Scalar.integer n).compare (.float x) = some .eq) (other : Representable w) :
    (n.toInt * Binary64.one - v).natAbs ≤ (n.toInt * Binary64.one - w).natAbs := by
  rw [compare_ranks rfl number (.inr rfl), Option.some.injEq, Std.compare_eq_iff_eq] at same
  exact Binary64.nearestRank_nearest (units_small n) (representable_float number) same other

theorem separated_of_small
    (small : ∀ n, .integer n ∈ as → n.toInt.natAbs ≤ 2 ^ 53) : Separated as := by
  intro m n x member member' _ same same'
  obtain ⟨v, number⟩ : ∃ v, (Scalar.float x).units? = some v := by
    cases x with
    | nan => cases same
    | point s p => exact ⟨_, rfl⟩
  have own := representable_float number
  rw [compare_units rfl number (Binary64.representable_of_small (small m member)) own,
    Option.some.injEq, Std.compare_eq_iff_eq] at same
  rw [compare_units rfl number (Binary64.representable_of_small (small n member')) own,
    Option.some.injEq, Std.compare_eq_iff_eq] at same'
  have nonzero : (Binary64.one : Int) ≠ 0 := by decide +kernel
  exact Int64.toInt_inj.1 (Int.eq_of_mul_eq_mul_right nonzero (same.trans same'.symm))

/-! ### Loose equality -/

theorem isNumeric_eq_of_beq (same : (a == b) = true) : a.isNumeric = b.isNumeric := by
  rcases beq_cases same with rfl | ⟨p, q, rfl, rfl⟩ | ⟨t, t', rfl, rfl⟩
  · rfl
  · rfl
  · rfl

theorem looselyEquals_comm (a b : Scalar) : a.looselyEquals b = b.looselyEquals a := by
  unfold looselyEquals
  rw [Bool.and_comm]
  split
  · rw [a.compare_swap b]
    cases a.compare b with
    | none => rfl
    | some o => cases o <;> rfl
  · exact BEq.comm

theorem looselyEquals_self (number : a ≠ .float .nan) : a.looselyEquals a = true := by
  unfold looselyEquals
  split
  · rename_i numeric
    have on : a.line? = some .numbers := by
      rcases a with _ | (_ | _) | _ | _ | _ | _ | _
      case float.nan => exact absurd rfl number
      case integer => rfl
      case float.point => rfl
      all_goals cases numeric
    rcases verdict : a.compare a with _ | o
    · have some_ := (isSome_compare_iff a a).2 ⟨_, on, on⟩
      rw [verdict] at some_
      cases some_
    · cases o with
      | eq => rfl
      | lt => exact absurd verdict (compare_asymm nofun verdict)
      | gt => exact absurd verdict (compare_asymm nofun verdict)
  · exact BEq.rfl

theorem looselyEquals_trans (separated : Separated as) (member : a ∈ as) (member' : b ∈ as)
    (member'' : c ∈ as) (same : a.looselyEquals b = true) (same' : b.looselyEquals c = true) :
    a.looselyEquals c = true := by
  have kind (a b : Scalar) (same : a.looselyEquals b = true) : a.isNumeric = b.isNumeric := by
    unfold looselyEquals at same
    split at same
    · rename_i numeric
      rw [Bool.and_eq_true] at numeric
      rw [numeric.1, numeric.2]
    · exact isNumeric_eq_of_beq same
  have kinds := kind a b same
  have kinds' := kind b c same'
  unfold looselyEquals at same same' ⊢
  rw [kinds, kinds', Bool.and_self] at same ⊢
  rw [kinds', Bool.and_self] at same'
  split
  · rename_i numeric
    rw [if_pos numeric, beq_iff_eq] at same same'
    rw [beq_iff_eq]
    exact compare_eq_of_atMost
      (chained_of_separated separated member member' member'' (.inr same) (.inr same')).1
      (chained_of_separated separated member'' member' member (.inr (compare_reverse same'))
        (.inr (compare_reverse same))).1
  · rename_i plain
    rw [if_neg plain] at same same'
    exact BEq.trans same same'

theorem separated_of_looselyEquals_trans
    (trans : ∀ a ∈ as, ∀ b ∈ as, ∀ c ∈ as, a.looselyEquals b = true →
      b.looselyEquals c = true → a.looselyEquals c = true) : Separated as := by
  intro m n x member member' member'' same same'
  have loose : (Scalar.integer m).looselyEquals (.float x) = true := beq_iff_eq.2 same
  have loose' : (Scalar.float x).looselyEquals (.integer n) = true :=
    beq_iff_eq.2 (compare_reverse same')
  have tie := beq_iff_eq.1 (trans _ member _ member'' _ member' loose loose')
  exact Int64.toInt_inj.1 (Std.compare_eq_iff_eq.1 (Option.some.inj tie))

/-! ## How far the order is one -/

/-- **The order of scalars.**  A comparison reversed has the reverse verdict, what can be compared
is what is on one line, and the strict order is transitive, on all scalars.  With ties it is a
total preorder among some scalars, and their loose equality an equivalence, exactly if none of
them is a float that is equal to two of the integers among them; with integers of up to 53 bits
there is no such float.  An integer and a float that are found apart are so as the numbers they
denote; they are found equal only if no float is nearer to the integer. -/
theorem compare_order (as : List Scalar) :
    (∀ a b : Scalar, b.compare a = (a.compare b).map Ordering.swap) ∧
    (∀ a b : Scalar, (a.compare b).isSome = true ↔
      ∃ line, a.line? = some line ∧ b.line? = some line) ∧
    (∀ a b c : Scalar, a.compare b = some .lt → b.compare c = some .lt →
      a.compare c = some .lt) ∧
    ((∀ a ∈ as, ∀ b ∈ as, ∀ c ∈ as, a.AtMost b → b.AtMost c → a.AtMost c ∧
        (a.compare c = some .eq → a.compare b = some .eq ∧ b.compare c = some .eq)) ↔
      Separated as) ∧
    (∀ a : Scalar, a ≠ .float .nan → a.looselyEquals a = true) ∧
    (∀ a b : Scalar, a.looselyEquals b = b.looselyEquals a) ∧
    ((∀ a ∈ as, ∀ b ∈ as, ∀ c ∈ as, a.looselyEquals b = true →
      b.looselyEquals c = true → a.looselyEquals c = true) ↔ Separated as) ∧
    ((∀ n, .integer n ∈ as → n.toInt.natAbs ≤ 2 ^ 53) → Separated as) ∧
    (∀ (n : Int64) (x : Binary64) (v : Int), (Scalar.float x).units? = some v →
      let u := n.toInt * Binary64.one
      let verdict := (Scalar.integer n).compare (.float x)
      (verdict = some .lt → u < v) ∧ (verdict = some .gt → v < u) ∧
        (verdict = some .eq → ∀ w, Representable w → (u - v).natAbs ≤ (u - w).natAbs) ∧
        (n.toInt.natAbs ≤ 2 ^ 53 → verdict = some (Ord.compare u v))) := by
  refine ⟨compare_swap, isSome_compare_iff, fun _ _ _ => compare_lt_trans,
    ⟨separated_of_chained, fun separated a member b member' c member'' =>
      chained_of_separated separated member member' member''⟩,
    fun _ => looselyEquals_self, looselyEquals_comm,
    ⟨separated_of_looselyEquals_trans, fun separated a member b member' c member'' =>
      looselyEquals_trans separated member member' member''⟩,
    separated_of_small, fun n x v number => ⟨?less, ?greater, ?equal, ?exact⟩⟩
  case less => exact units_lt_of_compare rfl number
  case greater =>
    exact fun greater => units_lt_of_compare (b := .integer n) number rfl (compare_reverse greater)
  case equal => exact fun same w => nearest_of_compare number same
  case exact =>
    exact fun small => compare_units rfl number (Binary64.representable_of_small small)
      (representable_float number)

/-- Two integers that differ by one, and a float that is equal to both: equality is not transitive,
and neither is the order. -/
theorem compare_round_integers :
    let odd : Scalar := .integer 9007199254740993
    let even : Scalar := .integer 9007199254740992
    let float : Scalar := .float (.ofInt 9007199254740992)
    odd.compare float = some .eq ∧ float.compare even = some .eq ∧ odd.compare even = some .gt ∧
      odd.units? ≠ float.units? ∧ odd.looselyEquals float = true ∧
      float.looselyEquals even = true ∧ odd.looselyEquals even = false := by
  decide +kernel

end Scalar

end FactScan
