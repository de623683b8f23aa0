/-
# FactScan.Proofs.Reading.Doubles — doubles read back

The digits of a double were chosen because their nearest double is that double, or they are the
double exactly, so whatever reads them as the same decimal gets it back.  The texts differ from
the digits by zeros at their ends and by where the point stands, neither of which changes the
decimal (`Binary64.ofDecimal_shift`).  Far outside the range of doubles the reader does not work
the decimal out, and what it answers there is what it would have found
(`Binary64.ofDecimal_eq`).

* `Decimal.place_shortest`: the shortest decimal of a place is nearest to it.
* `Decimal.Layout.unsignedFloat?_magnitude`: the text of a magnitude is read as that, in any
  layout.
* `Decimal.float?_of_floatChars`: every double reads back from its text.
-/
import FactScan.Proofs.Reading.Numerals
import FactScan.Proofs.Reading.Places

namespace FactScan

set_option autoImplicit false

/-! ## Decimals of the same value -/

namespace Binary64

theorem decimalPlace_succ (significand : Nat) (exponent : Int) :
    decimalPlace (significand * 10) exponent = decimalPlace significand (exponent + 1) := by
  match exponent with
  | .ofNat e =>
      show nearestPlace (significand * 10 * 10 ^ e * one) 1 =
        nearestPlace (significand * 10 ^ (e + 1) * one) 1
      rw [Nat.pow_succ, Nat.mul_comm (10 ^ e), Nat.mul_assoc significand]
  | .negSucc 0 =>
      show nearestPlace (significand * 10 * one) (1 * 10) =
        nearestPlace (significand * 1 * one) 1
      rw [Nat.mul_right_comm, nearestPlace_scale _ _ (by decide), Nat.mul_one]
  | .negSucc (e + 1) =>
      show nearestPlace (significand * 10 * one) (10 ^ (e + 1) * 10) =
        nearestPlace (significand * one) (10 ^ (e + 1))
      rw [Nat.mul_right_comm, nearestPlace_scale _ _ (by decide)]

/-- Zeros after the digits are a greater exponent. -/
theorem decimalPlace_shift (significand zeros : Nat) (exponent : Int) :
    decimalPlace (significand * 10 ^ zeros) exponent =
      decimalPlace significand (exponent + zeros) := by
  induction zeros generalizing exponent with
  | zero => simp
  | succ zeros ih =>
      rw [Nat.pow_succ, ← Nat.mul_assoc, decimalPlace_succ, ih, Int.add_assoc,
        Int.add_comm 1, Int.natCast_succ]

/-! ## Decimals far outside the range -/

theorem lt_pow_digitCount (n : Nat) : n < 10 ^ digitCount n := by
  unfold digitCount
  split
  · rename_i zero
    rw [zero]
    decide
  · exact (Nat.length_toDigits_le_iff (by decide)
      (List.length_pos_iff.2 Nat.toDigits_ne_nil)).1 (Nat.le_refl _)

theorem pow_digitCount_le {n : Nat} (nonzero : n ≠ 0) : 10 ^ (digitCount n - 1) ≤ n := by
  unfold digitCount
  rw [if_neg nonzero]
  rcases Nat.eq_zero_or_pos ((Nat.toDigits 10 n).length - 1) with none | some
  · rw [none]
    exact Nat.one_le_iff_ne_zero.2 nonzero
  · refine Nat.le_of_not_lt fun less => ?_
    have := (Nat.length_toDigits_le_iff (by decide) some).2 less
    omega

theorem decimalPlace_zero (exponent : Int) : decimalPlace 0 exponent = 0 := by
  cases exponent with
  | ofNat e =>
      show nearestPlace (0 * 10 ^ e * one) 1 = 0
      rw [Nat.zero_mul, Nat.zero_mul]
      exact nearestPlace_small (by decide)
  | negSucc e =>
      show nearestPlace (0 * one) (10 ^ (e + 1)) = 0
      rw [Nat.zero_mul]
      exact nearestPlace_small (Nat.pow_pos (by decide))

/-- A decimal below `10 ^ (-400)` is nearest to zero. -/
theorem decimalPlace_tiny {significand : Nat} {exponent : Int}
    (tiny : exponent + digitCount significand < -400) :
    decimalPlace significand exponent = 0 := by
  match exponent with
  | .ofNat e => exact absurd tiny (by rw [Int.ofNat_eq_natCast]; omega)
  | .negSucc e =>
      have deep : digitCount significand + 400 ≤ e + 1 := by omega
      obtain ⟨k, isK, half⟩ : ∃ k, k = 400 ∧ 2 * one ≤ 10 ^ k := ⟨400, rfl, by decide +kernel⟩
      rw [← isK] at deep
      refine nearestPlace_small ?_
      show 2 * (significand * one) < 10 ^ (e + 1)
      calc 2 * (significand * one)
          = significand * (2 * one) := Nat.mul_left_comm 2 significand one
        _ ≤ significand * 10 ^ k := Nat.mul_le_mul_left _ half
        _ < 10 ^ digitCount significand * 10 ^ k :=
            Nat.mul_lt_mul_of_pos_right (lt_pow_digitCount _) (Nat.pow_pos (by decide))
        _ = 10 ^ (digitCount significand + k) := (Nat.pow_add 10 _ _).symm
        _ ≤ 10 ^ (e + 1) := Nat.pow_le_pow_right (by decide) deep

/-- A decimal from `10 ^ 400` on is nearest to infinity. -/
theorem decimalPlace_huge {significand : Nat} {exponent : Int} (nonzero : significand ≠ 0)
    (huge : (400 : Nat) < exponent + digitCount significand) :
    decimalPlace significand exponent = top := by
  have least := pow_digitCount_le nonzero
  -- Infinity stands for two to the power of 1024.
  obtain ⟨k, infinity, isInfinity, isK, beyond⟩ :
      ∃ k infinity, units top = infinity * one ∧ k = 400 ∧ infinity ≤ 10 ^ k :=
    ⟨400, 2 ^ 1024, by decide +kernel, rfl, by decide +kernel⟩
  rw [← isK] at huge
  match exponent with
  | .ofNat e =>
      have long : k ≤ digitCount significand - 1 + e := by
        rw [Int.ofNat_eq_natCast] at huge
        omega
      refine nearestPlace_great Nat.one_pos ?_
      show units top * 1 ≤ significand * 10 ^ e * one
      rw [Nat.mul_one, isInfinity]
      refine Nat.mul_le_mul_right _ ?_
      calc infinity
          ≤ 10 ^ k := beyond
        _ ≤ 10 ^ (digitCount significand - 1 + e) := Nat.pow_le_pow_right (by decide) long
        _ = 10 ^ (digitCount significand - 1) * 10 ^ e := Nat.pow_add 10 _ _
        _ ≤ significand * 10 ^ e := Nat.mul_le_mul_right _ least
  | .negSucc e =>
      have long : k + (e + 1) ≤ digitCount significand - 1 := by omega
      refine nearestPlace_great (Nat.pow_pos (by decide)) ?_
      show units top * 10 ^ (e + 1) ≤ significand * one
      rw [isInfinity, Nat.mul_right_comm]
      refine Nat.mul_le_mul_right _ ?_
      calc infinity * 10 ^ (e + 1)
          ≤ 10 ^ k * 10 ^ (e + 1) := Nat.mul_le_mul_right _ beyond
        _ = 10 ^ (k + (e + 1)) := (Nat.pow_add 10 _ _).symm
        _ ≤ 10 ^ (digitCount significand - 1) := Nat.pow_le_pow_right (by decide) long
        _ ≤ significand := least

/-- **What is read without working the decimal out is its nearest double, too.** -/
theorem ofDecimal_eq (negative : Bool) (significand : Nat) (exponent : Int) :
    ofDecimal negative significand exponent =
      .point negative ⟨decimalPlace significand exponent,
        Nat.lt_succ_of_le (decimalPlace_le_top _ _)⟩ := by
  unfold ofDecimal
  dsimp only
  split
  · rename_i low
    have zero : decimalPlace significand exponent = 0 := by
      rcases low with rfl | tiny
      · exact decimalPlace_zero exponent
      · exact decimalPlace_tiny tiny
    exact congrArg (point negative) (Fin.ext zero.symm)
  · rename_i notLow
    split
    · rename_i huge
      have infinite := decimalPlace_huge (fun zero => notLow (.inl zero)) huge
      exact congrArg (point negative) (Fin.ext infinite.symm)
    · rfl

theorem ofDecimal_shift (negative : Bool) (significand zeros : Nat) (exponent : Int) :
    ofDecimal negative (significand * 10 ^ zeros) exponent =
      ofDecimal negative significand (exponent + zeros) := by
  rw [ofDecimal_eq, ofDecimal_eq]
  exact congrArg (point negative) (Fin.ext (decimalPlace_shift significand zeros exponent))

end Binary64

/-! ## The shortest decimal -/

namespace Decimal

theorem place_of_onGrid? {tie : Tie} {place : Nat} {grid : Int} {d : Decimal}
    (hit : onGrid? tie place grid = some d) : d.place = place := by
  have either : ∀ (preferHigh : Bool) {low high : Decimal}, low.place = place →
      high.place = place → (if preferHigh then high else low).place = place := by
    intro preferHigh low high atLow atHigh
    cases preferHigh
    · exact atLow
    · exact atHigh
  unfold onGrid? at hit
  dsimp only at hit
  split at hit
  · rename_i atLow atHigh
    cases hit
    exact either _ (of_decide_eq_true atLow) (of_decide_eq_true atHigh)
  · rename_i atLow _
    cases hit
    exact of_decide_eq_true atLow
  · rename_i _ atHigh
    cases hit
    exact of_decide_eq_true atHigh
  · cases hit

theorem place_search (tie : Tie) {place : Nat} (finite : place ≤ Binary64.top) (point : Int)
    (tries digits : Nat) : (search tie place point tries digits).place = place := by
  induction tries generalizing digits with
  | zero =>
      -- A unit is two to the power of minus 1074, and five makes up the tens.
      obtain ⟨k, length, one⟩ : ∃ k, 1074 = k + 1 ∧ Binary64.one = 2 ^ (k + 1) :=
        ⟨1073, rfl, by decide +kernel⟩
      have exponent : (-1074 : Int) = .negSucc k := by omega
      rw [search, length, exponent]
      show Binary64.nearestPlace (Binary64.units place * 5 ^ (k + 1) * Binary64.one)
        (10 ^ (k + 1)) = place
      rw [one, Nat.mul_assoc, ← Nat.mul_pow]
      exact Binary64.nearestPlace_units finite (Nat.pow_pos (by decide))
  | succ tries ih =>
      rw [search]
      split
      · rename_i d hit
        exact place_of_onGrid? hit
      · exact ih (digits + 1)

theorem place_stripZeros (n : Nat) (d : Decimal) : (stripZeros n d).place = d.place := by
  induction n generalizing d with
  | zero => rfl
  | succ n ih =>
      rw [stripZeros]
      split
      · rename_i zero
        rw [ih]
        show Binary64.decimalPlace (d.significand / 10) (d.exponent + 1) =
          Binary64.decimalPlace d.significand d.exponent
        rw [← Binary64.decimalPlace_succ, Nat.div_mul_cancel (Nat.dvd_of_mod_eq_zero zero)]
      · rfl

/-- **The shortest decimal of a place is nearest to it.** -/
theorem place_shortest (tie : Tie) {place : Nat} (finite : place ≤ Binary64.top) :
    (shortest tie place).place = place := by
  unfold shortest
  split
  · rename_i zero
    rw [zero]
    exact Binary64.decimalPlace_zero 0
  · dsimp only
    rw [place_stripZeros, place_search tie finite]

/-! ## Texts of decimals -/

/-- What may end a number is nothing, or an exponent under its letter. -/
theorem exponent?_cases {rest : List Char} {exponent : Int}
    (ends : exponent? rest = some exponent) :
    rest = [] ∧ exponent = 0 ∨
      ∃ c cs, rest = c :: cs ∧ (c = 'e' ∨ c = 'E') ∧ int? cs = some exponent := by
  cases rest with
  | nil => exact .inl ⟨rfl, (Option.some.inj ends).symm⟩
  | cons c cs =>
      by_cases letter : c = 'e' ∨ c = 'E'
      · rw [exponent?, if_pos letter] at ends
        exact .inr ⟨c, cs, rfl, letter, ends⟩
      · rw [exponent?, if_neg letter] at ends
        cases ends

/-- Digits are taken up to what ends the number. -/
theorem takeWhile_of_exponent? {digits rest : List Char} {exponent : Int}
    (allDigits : ∀ c ∈ digits, c.isDigit = true) (ends : exponent? rest = some exponent) :
    (digits ++ rest).takeWhile Char.isDigit = digits ∧
      (digits ++ rest).dropWhile Char.isDigit = rest := by
  rw [List.takeWhile_append_of_pos allDigits, List.dropWhile_append_of_pos allDigits]
  rcases exponent?_cases ends with ⟨rfl, -⟩ | ⟨c, cs, rfl, letter, -⟩
  · exact ⟨List.append_nil _, rfl⟩
  · have noDigit : ¬ c.isDigit = true := by rcases letter with rfl | rfl <;> decide
    rw [List.takeWhile_cons_of_neg noDigit, List.dropWhile_cons_of_neg noDigit]
    exact ⟨List.append_nil _, rfl⟩

/-- Digits around a point are read as one number, of which the fraction lowers the exponent. -/
theorem unsignedFloat?_point (negative : Bool) {whole fraction rest : List Char} {exponent : Int}
    (wholeDigits : ∀ c ∈ whole, c.isDigit = true)
    (fractionDigits : ∀ c ∈ fraction, c.isDigit = true) (nonempty : whole ++ fraction ≠ [])
    (ends : exponent? rest = some exponent) :
    unsignedFloat? negative (whole ++ '.' :: (fraction ++ rest)) =
      some (.ofDecimal negative (Nat.ofDigitChars 10 (whole ++ fraction) 0)
        (exponent - fraction.length)) := by
  have digits : ∀ c ∈ whole ++ fraction, c.isDigit = true := by
    intro c member
    exact (List.mem_append.1 member).elim (wholeDigits c) (fractionDigits c)
  obtain ⟨taken, dropped⟩ := takeWhile_of_exponent? fractionDigits ends
  unfold unsignedFloat?
  rw [List.takeWhile_append_of_pos wholeDigits, List.dropWhile_append_of_pos wholeDigits,
    List.takeWhile_cons_of_neg (by decide), List.dropWhile_cons_of_neg (by decide),
    List.append_nil]
  show ((nat? (whole ++ (fraction ++ rest).takeWhile Char.isDigit)).bind fun significand =>
    (exponent? ((fraction ++ rest).dropWhile Char.isDigit)).bind fun exponent =>
      some (Binary64.ofDecimal negative significand
        (exponent - ((fraction ++ rest).takeWhile Char.isDigit).length))) = _
  rw [taken, dropped, nat?_eq_some.2 ⟨nonempty, digits, rfl⟩, ends]
  rfl

/-- Digits without a point are read as they stand. -/
theorem unsignedFloat?_whole (negative : Bool) {whole rest : List Char} {exponent : Int}
    (wholeDigits : ∀ c ∈ whole, c.isDigit = true) (nonempty : whole ≠ [])
    (ends : exponent? rest = some exponent) :
    unsignedFloat? negative (whole ++ rest) =
      some (.ofDecimal negative (Nat.ofDigitChars 10 whole 0) exponent) := by
  obtain ⟨taken, dropped⟩ := takeWhile_of_exponent? wholeDigits ends
  have noFraction : unsignedFloat? negative (whole ++ rest) =
      (nat? (whole ++ [])).bind fun significand =>
        (exponent? rest).bind fun exponent =>
          some (Binary64.ofDecimal negative significand (exponent - 0)) := by
    unfold unsignedFloat?
    rw [taken, dropped]
    rcases exponent?_cases ends with ⟨rfl, -⟩ | ⟨c, cs, rfl, rfl | rfl, -⟩
    all_goals rfl
  rw [noFraction, List.append_nil, nat?_eq_some.2 ⟨nonempty, wholeDigits, rfl⟩, ends]
  show some (Binary64.ofDecimal negative _ (exponent - 0)) = _
  rw [Int.sub_zero]

/-- Where nothing is written after the digits, those after the point are all that lowers the
exponent. -/
theorem unsignedFloat?_fraction (negative : Bool) {whole fraction : List Char} {significand : Nat}
    {exponent : Int} (wholeDigits : ∀ c ∈ whole, c.isDigit = true)
    (fractionDigits : ∀ c ∈ fraction, c.isDigit = true) (nonempty : whole ++ fraction ≠ [])
    (value : Nat.ofDigitChars 10 (whole ++ fraction) 0 = significand)
    (lowered : -(fraction.length : Int) = exponent) :
    unsignedFloat? negative (whole ++ '.' :: fraction) =
      some (.ofDecimal negative significand exponent) := by
  have ends : exponent? [] = some 0 := rfl
  have read := unsignedFloat?_point negative wholeDigits fractionDigits nonempty ends
  rw [List.append_nil, value, Int.zero_sub, lowered] at read
  exact read

namespace Layout

/-- A decimal with its point among, before or after its digits is read as that decimal. -/
theorem unsignedFloat?_positional (negative : Bool) (significand : Nat) (exponent : Int) :
    unsignedFloat? negative
        (positional (natChars significand) (exponent + (natChars significand).length)) =
      some (.ofDecimal negative significand exponent) := by
  have digits : ∀ c ∈ natChars significand, c.isDigit = true := fun _ => isDigit_of_mem_natChars
  have zeros (k : Nat) : ∀ c ∈ List.replicate k '0', c.isDigit = true := isDigit_of_mem_zeros
  have value := ofDigitChars_natChars significand
  have nonempty := natChars_ne_nil significand
  have long := List.length_pos_iff.2 nonempty
  generalize natChars significand = cs at digits value nonempty long
  unfold positional
  split
  · rename_i before
    obtain ⟨k, gap⟩ : ∃ k, (exponent + cs.length).natAbs = k := ⟨_, rfl⟩
    rw [gap]
    show unsignedFloat? negative (List.replicate 1 '0' ++ '.' :: (List.replicate k '0' ++ cs)) = _
    refine unsignedFloat?_fraction negative (zeros 1)
      (List.forall_mem_append.2 ⟨zeros k, digits⟩) (List.cons_ne_nil _ _) ?_ ?_
    · rw [ofDigitChars_zeros_append, ofDigitChars_zeros_append, value]
    · rw [List.length_append, List.length_replicate]
      omega
  · dsimp only
    split
    · rename_i after
      obtain ⟨k, gap⟩ : ∃ k, (exponent + cs.length).toNat - cs.length = k := ⟨_, rfl⟩
      have raised : -((List.replicate 1 '0').length : Int) + (k + 1 : Nat) = exponent := by
        rw [List.length_replicate]
        omega
      rw [gap, ← raised, ← Binary64.ofDecimal_shift]
      show unsignedFloat? negative (cs ++ List.replicate k '0' ++ '.' :: List.replicate 1 '0') = _
      refine unsignedFloat?_fraction negative (List.forall_mem_append.2 ⟨digits, zeros k⟩)
        (zeros 1) (by simp) ?_ rfl
      rw [List.append_assoc, List.replicate_append_replicate, Nat.ofDigitChars_append,
        Nat.ofDigitChars_replicate_zero, value, Nat.mul_comm]
    · rename_i among
      obtain ⟨k, point⟩ : ∃ k, (exponent + cs.length).toNat = k := ⟨_, rfl⟩
      rw [point]
      refine unsignedFloat?_fraction negative
        (fun c inside => digits c (List.mem_of_mem_take inside))
        (fun c inside => digits c (List.mem_of_mem_drop inside)) ?_ ?_ ?_
      · rw [List.take_append_drop]
        exact nonempty
      · rw [List.take_append_drop, value]
      · rw [List.length_drop]
        omega

/-- One digit before the point and the power of ten after the others are that decimal, too. -/
theorem unsignedFloat?_scientific (layout : Layout) (negative : Bool) (significand : Nat)
    (exponent : Int) :
    unsignedFloat? negative (layout.scientific (natChars significand)
        (exponent + (natChars significand).length - 1)) =
      some (.ofDecimal negative significand exponent) := by
  obtain ⟨power, isPower⟩ : ∃ power, exponent + (natChars significand).length - 1 = power :=
    ⟨_, rfl⟩
  have ends : exponent? ('e' :: (if layout.plus ∧ 0 ≤ power then ['+'] else []) ++
      intChars power) = some power := by
    show int? ((if layout.plus ∧ 0 ≤ power then ['+'] else []) ++ intChars power) = some power
    split
    · rename_i signed
      have plain : intChars power = natChars power.natAbs := by
        unfold intChars
        rw [if_neg (Int.not_lt.2 signed.2)]
      show int? ('+' :: intChars power) = some power
      rw [plain, int?_eq_map]
      show (nat? (natChars power.natAbs)).map (fun n : Nat => (n : Int)) = some power
      rw [nat?_natChars, Option.map_some, Int.natAbs_of_nonneg signed.2]
    · exact int?_intChars power
  have digits : ∀ c ∈ natChars significand, c.isDigit = true := fun _ => isDigit_of_mem_natChars
  have value := ofDigitChars_natChars significand
  have nonempty := natChars_ne_nil significand
  rw [isPower]
  unfold scientific
  dsimp only
  rw [List.append_assoc]
  generalize natChars significand = cs at digits value nonempty isPower
  match cs with
  | [] => exact absurd rfl nonempty
  | [d] =>
      have read := unsignedFloat?_whole negative digits nonempty ends
      have same : power = exponent := by
        rw [List.length_singleton] at isPower
        omega
      rw [value, same] at read
      rw [same]
      exact read
  | d :: e :: rest =>
      obtain ⟨first, others⟩ := List.forall_mem_cons.1 digits
      have read := unsignedFloat?_point negative (List.forall_mem_singleton.2 first) others
        nonempty ends
      have lowered : power - (e :: rest).length = exponent := by
        rw [List.length_cons] at isPower
        omega
      rw [List.singleton_append, List.singleton_append, value, lowered] at read
      exact read

/-- **The text of a magnitude is read as that magnitude.** -/
theorem unsignedFloat?_magnitude (layout : Layout) (negative : Bool)
    (place : Fin (Binary64.top + 1)) :
    unsignedFloat? negative (layout.magnitude place.val) = some (.point negative place) := by
  have nearest : Binary64.ofDecimal negative (shortest layout.tie place.val).significand
      (shortest layout.tie place.val).exponent = .point negative place := by
    rw [Binary64.ofDecimal_eq]
    exact congrArg (Binary64.point negative)
      (Fin.ext (place_shortest layout.tie (Nat.le_of_lt_succ place.isLt)))
  unfold magnitude
  dsimp only
  split
  · rename_i zero
    rw [← nearest, zero]
    rfl
  · split
    · rw [unsignedFloat?_positional, nearest]
    · rw [unsignedFloat?_scientific, nearest]

end Layout

/-! ## Doubles -/

theorem toLower_of_isDigit {c : Char} (digit : c.isDigit = true) : c.toLower = c := by
  have atMostNine : c.val ≤ '9'.val := of_decide_eq_true (Bool.and_eq_true_iff.1 digit).2
  exact dif_neg fun letter => absurd (UInt32.le_trans letter.1 atMostNine) (by decide)

/-- A text that begins with a digit is no name of what is not finite. -/
theorem float?_of_startsWithDigit {cs : List Char} (start : Layout.StartsWithDigit cs) :
    float? cs = unsignedFloat? false cs ∧ float? ('-' :: cs) = unsignedFloat? true cs := by
  obtain ⟨c, rest, rfl, digit⟩ := start
  have noName : ∀ d name, d.isDigit = false → (c :: rest).map Char.toLower ≠ d :: name := by
    intro d name letter same
    rw [List.map_cons, toLower_of_isDigit digit, List.cons.injEq] at same
    rw [← same.1, digit] at letter
    cases letter
  have unnamed : ∀ negative, (if (c :: rest).map Char.toLower = ['i', 'n', 'f'] ∨
        (c :: rest).map Char.toLower = ['i', 'n', 'f', 'i', 'n', 'i', 't', 'y'] then
      some (Binary64.infinity negative)
    else if (c :: rest).map Char.toLower = ['n', 'a', 'n'] then some .nan
    else unsignedFloat? negative (c :: rest)) = unsignedFloat? negative (c :: rest) := by
    intro negative
    rw [if_neg (not_or.2 ⟨noName 'i' _ (by decide), noName 'i' _ (by decide)⟩),
      if_neg (noName 'n' _ (by decide))]
  have noSign : sign (c :: rest) = (false, c :: rest) := by
    unfold sign
    split
    · rename_i shape
      cases shape
      exact absurd digit (by decide)
    · rename_i shape
      cases shape
      exact absurd digit (by decide)
    · rfl
  refine ⟨?_, unnamed true⟩
  unfold float?
  rw [noSign]
  exact unnamed false

/-- **Every double reads back from its text.** -/
theorem float?_of_floatChars (x : Binary64) : float? (floatChars x) = some x := by
  refine float?_floatChars fun finite => ?_
  match x with
  | .nan => cases finite
  | .point negative place =>
      have below : place.val < Binary64.top := of_decide_eq_true finite
      obtain ⟨plain, signed⟩ :=
        float?_of_startsWithDigit (Layout.magnitude_shape .term place.val).1
      have read := fun negative => Layout.unsignedFloat?_magnitude .term negative place
      unfold floatChars
      dsimp only
      rw [if_neg (Nat.ne_of_lt below)]
      cases negative
      · exact plain.trans (read false)
      · exact signed.trans (read true)

end Decimal

end FactScan
