/-
# FactScan.Proofs.Reading.Places — the nearest double is found

The magnitudes of the places are strictly increasing, so a number of units lies between those of
one place and of the next, and that place is `Binary64.placeBelow`.  Hence a magnitude is nearest
to its own place, however it is written as a fraction.  A fraction that is less than half a unit
goes to zero, and one that is as great as infinity goes there.

* `Binary64.units_placeBelow`: what the place below a number is.
* `Binary64.nearestPlace_units`: the place nearest to a magnitude is its own.
* `Binary64.nearestPlace_scale`: a fraction in other terms has the same nearest place.
* `Binary64.nearestPlace_mono`: the nearest place of a greater number is no lower.
-/
import FactScan.Decimal.Binary
import Mathlib.Algebra.Group.Nat.Defs

namespace FactScan.Binary64

set_option autoImplicit false

/-! ## Magnitudes -/

theorem stretch_pos : 0 < stretch := by decide

/-- Places up to the second power of two are one unit apart. -/
theorem units_of_lt {place : Nat} (low : place < stretch) : units place = place := if_pos low

/-- The places of one stretch are equally far apart, up to the first of the next one. -/
theorem units_of_stretch (q : Nat) {m : Nat} (normal : stretch ≤ m) (next : m ≤ 2 * stretch) :
    units (q * stretch + m) = m * 2 ^ q := by
  have pos := stretch_pos
  unfold units
  rw [if_neg (by omega)]
  rcases Nat.lt_or_eq_of_le next with inside | rfl
  · obtain ⟨r, rfl⟩ : ∃ r, m = stretch + r := ⟨m - stretch, by omega⟩
    have split : q * stretch + (stretch + r) = r + (q + 1) * stretch := by
      rw [Nat.add_mul, Nat.one_mul]
      omega
    rw [split, Nat.add_mul_mod_self_right, Nat.add_mul_div_right _ _ pos,
      Nat.mod_eq_of_lt (by omega), Nat.div_eq_of_lt (by omega), Nat.zero_add,
      Nat.add_sub_cancel]
    rfl
  · have split : q * stretch + 2 * stretch = 0 + (q + 2) * stretch := by
      rw [Nat.add_mul, Nat.zero_add]
    rw [split, Nat.add_mul_mod_self_right, Nat.add_mul_div_right _ _ pos, Nat.zero_mod,
      Nat.zero_div, Nat.zero_add, Nat.add_zero, Nat.mul_comm 2, Nat.mul_assoc,
      show q + 2 - 1 = q + 1 by omega]
    show stretch * 2 ^ (q + 1) = stretch * (2 * 2 ^ q)
    rw [Nat.pow_succ, Nat.mul_comm 2]

/-- Every place is in the first stretch, or in one of those after it. -/
theorem place_cases (place : Nat) :
    place < stretch ∨ ∃ q m, stretch ≤ m ∧ m < 2 * stretch ∧ place = q * stretch + m := by
  rcases Nat.lt_or_ge place stretch with low | high
  · exact .inl low
  · have pos := stretch_pos
    have parts := Nat.div_add_mod place stretch
    have below := Nat.mod_lt place pos
    have some_ : 0 < place / stretch := Nat.div_pos high pos
    obtain ⟨q, quotient⟩ : ∃ q, place / stretch = q + 1 := ⟨place / stretch - 1, by omega⟩
    refine .inr ⟨q, stretch + place % stretch, by omega, by omega, ?_⟩
    rw [quotient, Nat.mul_comm, Nat.add_mul, Nat.one_mul] at parts
    omega

theorem units_lt_succ (place : Nat) : units place < units (place + 1) := by
  rcases place_cases place with low | ⟨q, m, normal, inside, rfl⟩
  · rw [units_of_lt low]
    rcases Nat.lt_or_eq_of_le (Nat.succ_le_of_lt low) with low' | last
    · rw [units_of_lt low']
      exact Nat.lt_succ_self _
    · have first := units_of_stretch 0 (Nat.le_refl stretch) (by omega)
      rw [Nat.zero_mul, Nat.zero_add, Nat.pow_zero, Nat.mul_one] at first
      rw [show place + 1 = stretch from last, first]
      exact low
  · rw [Nat.add_assoc, units_of_stretch q normal (by omega),
      units_of_stretch q (by omega) (by omega)]
    exact Nat.mul_lt_mul_of_pos_right (Nat.lt_succ_self m) (Nat.two_pow_pos q)

theorem units_lt {p q : Nat} (less : p < q) : units p < units q := by
  induction less with
  | refl => exact units_lt_succ p
  | step _ ih => exact Nat.lt_trans ih (units_lt_succ _)

theorem units_le {p q : Nat} (less : p ≤ q) : units p ≤ units q := by
  rcases Nat.lt_or_eq_of_le less with apart | rfl
  · exact Nat.le_of_lt (units_lt apart)
  · exact Nat.le_refl _

theorem le_of_units_lt {p q : Nat} (less : units p < units (q + 1)) : p ≤ q :=
  Nat.le_of_not_lt fun greater => Nat.not_lt.2 (units_le greater) less

/-- **A number of units is between its place and the next one.** -/
theorem units_placeBelow (n : Nat) :
    units (placeBelow n) ≤ n ∧ n < units (placeBelow n + 1) := by
  have pos := stretch_pos
  unfold placeBelow
  split
  · rename_i low
    have own : units n = n := by
      rcases Nat.lt_or_ge n stretch with first | normal
      · exact units_of_lt first
      · have := units_of_stretch 0 normal (Nat.le_of_lt low)
        simpa using this
    exact ⟨Nat.le_of_eq own, Nat.lt_of_le_of_lt (Nat.le_of_eq own.symm) (units_lt_succ n)⟩
  · rename_i high
    have nonzero : n ≠ 0 := by omega
    have isStretch : stretch = 2 ^ 52 := rfl
    have log : 53 ≤ n.log2 := (Nat.le_log2 nonzero).2 (by rw [isStretch] at high; omega)
    obtain ⟨shift, isShift⟩ : ∃ shift, n.log2 = shift + 52 := ⟨n.log2 - 52, by omega⟩
    rw [isShift, Nat.add_sub_cancel]
    have least := Nat.log2_self_le nonzero
    have most := @Nat.lt_log2_self n
    rw [isShift, Nat.pow_add, Nat.mul_comm] at least
    rw [isShift, show shift + 52 + 1 = 53 + shift by omega, Nat.pow_add] at most
    have power : 0 < 2 ^ shift := Nat.two_pow_pos shift
    have normal : stretch ≤ n / 2 ^ shift := (Nat.le_div_iff_mul_le power).2 least
    have inside : n / 2 ^ shift < 2 * stretch := (Nat.div_lt_iff_lt_mul power).2 most
    show units (shift * stretch + n / 2 ^ shift) ≤ n ∧
      n < units (shift * stretch + n / 2 ^ shift + 1)
    rw [Nat.add_assoc, units_of_stretch shift normal (by omega),
      units_of_stretch shift (by omega) (by omega)]
    exact ⟨Nat.div_mul_le_self n _, Nat.lt_mul_of_div_lt (Nat.lt_succ_self _) power⟩

theorem placeBelow_units (place : Nat) : placeBelow (units place) = place := by
  obtain ⟨below, above⟩ := units_placeBelow (units place)
  refine Nat.le_antisymm (le_of_units_lt (Nat.lt_of_le_of_lt below (units_lt_succ place))) ?_
  exact le_of_units_lt above

theorem placeBelow_mono {m n : Nat} (less : m ≤ n) : placeBelow m ≤ placeBelow n :=
  le_of_units_lt (Nat.lt_of_le_of_lt (Nat.le_trans (units_placeBelow m).1 less)
    (units_placeBelow n).2)

/-! ## Rounding -/

/-- **The place nearest to a magnitude is its own.** -/
theorem nearestPlace_units {place : Nat} (finite : place ≤ top) {denominator : Nat}
    (positive : 0 < denominator) :
    nearestPlace (units place * denominator) denominator = place := by
  have nearer : 2 * (units place * denominator) <
      (units place + units (place + 1)) * denominator := by
    rw [← Nat.mul_assoc]
    refine Nat.mul_lt_mul_of_pos_right ?_ positive
    have := units_lt_succ place
    omega
  unfold nearestPlace
  dsimp only
  rw [Nat.mul_div_cancel _ positive, placeBelow_units, if_pos nearer]
  exact Nat.min_eq_left finite

/-- A fraction in other terms is rounded alike. -/
theorem nearestPlace_scale (numerator denominator : Nat) {factor : Nat} (positive : 0 < factor) :
    nearestPlace (numerator * factor) (denominator * factor) =
      nearestPlace numerator denominator := by
  unfold nearestPlace
  dsimp only
  rw [Nat.mul_div_mul_right _ _ positive, ← Nat.mul_assoc, ← Nat.mul_assoc]
  simp only [Nat.mul_lt_mul_right positive]

theorem nearestPlace_small {numerator denominator : Nat} (small : 2 * numerator < denominator) :
    nearestPlace numerator denominator = 0 := by
  have zero : placeBelow (numerator / denominator) = 0 := by
    rw [Nat.div_eq_of_lt (by omega)]
    rfl
  have nearer : 2 * numerator < (units 0 + units (0 + 1)) * denominator := by
    rw [show units 0 + units (0 + 1) = 1 from rfl, Nat.one_mul]
    exact small
  unfold nearestPlace
  dsimp only
  rw [zero, if_pos nearer]
  rfl

theorem nearestPlace_great {numerator denominator : Nat} (positive : 0 < denominator)
    (great : units top * denominator ≤ numerator) : nearestPlace numerator denominator = top := by
  have beyond : top ≤ placeBelow (numerator / denominator) := by
    refine le_of_units_lt (Nat.lt_of_le_of_lt ?_ (units_placeBelow _).2)
    exact (Nat.le_div_iff_mul_le positive).2 great
  unfold nearestPlace
  dsimp only
  refine Nat.min_eq_right ?_
  split <;> (try split) <;> (try split) <;> omega

/-- A fraction goes to the next place when it is more than halfway there, or halfway there from an
odd place. -/
theorem nearestPlace_eq (numerator denominator : Nat) :
    let low := placeBelow (numerator / denominator)
    let middle := (units low + units (low + 1)) * denominator
    nearestPlace numerator denominator =
      min (if middle < 2 * numerator ∨ middle = 2 * numerator ∧ low % 2 = 1 then low + 1 else low)
        top := by
  unfold nearestPlace
  generalize placeBelow (numerator / denominator) = low
  dsimp only
  generalize (units low + units (low + 1)) * denominator = middle
  congr 1
  split <;> split <;> (try split) <;> (try split) <;> omega

/-- **Rounding keeps the order**, though it may take two numbers together. -/
theorem nearestPlace_mono {m n : Nat} (less : m ≤ n) (denominator : Nat) :
    nearestPlace m denominator ≤ nearestPlace n denominator := by
  have below := placeBelow_mono (Nat.div_le_div_right (c := denominator) less)
  rw [nearestPlace_eq, nearestPlace_eq]
  refine Nat.le_min.2 ⟨Nat.le_trans (Nat.min_le_left _ _) ?_, Nat.min_le_right _ _⟩
  rcases Nat.lt_or_eq_of_le below with apart | same
  · -- The place below the greater number is the next one, or beyond.
    split <;> split <;> omega
  · rw [same]
    split
    · exact Nat.le_of_eq (if_pos (by omega)).symm
    · split <;> omega

/-- **No place is nearer.** -/
theorem nearestPlace_nearest {n : Nat} (finite : n < units top) (place : Nat) :
    ((n : Int) - units (nearestPlace n 1)).natAbs ≤ ((n : Int) - units place).natAbs := by
  obtain ⟨below, above⟩ := units_placeBelow n
  have inside : placeBelow n + 1 ≤ top := by
    exact Nat.lt_of_not_ge fun beyond =>
      Nat.not_lt.2 (Nat.le_trans (units_le beyond) below) finite
  have side : units place ≤ units (placeBelow n) ∨ units (placeBelow n + 1) ≤ units place :=
    (Nat.lt_or_ge (placeBelow n) place).elim (fun beyond => .inr (units_le beyond))
      (fun within => .inl (units_le within))
  rw [nearestPlace_eq, Nat.div_one, Nat.mul_one]
  split
  · rw [Nat.min_eq_left inside]
    omega
  · rw [Nat.min_eq_left (Nat.le_of_succ_le inside)]
    omega

end FactScan.Binary64
