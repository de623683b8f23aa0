/-
# FactScan.Proofs.Reading.Timestamps — timestamps read back

A timestamp that was read is one that can be written: its day has a date in the years that are
kept, its second is one of that day, and a leap second is the last of its minute
(`Timestamp.IsWritable`).  An offset moves it by less than a day, and only the form with four
digits in the year has one.  What is written then has four digits in the year and is read in
that form, or a sign and is read in the other one.

* `Timestamp.isWritable_of_ofChars?`: what is read can be written.
* `Timestamp.ofChars?_chars`: what can be written is read back.
-/
import FactScan.Proofs.Reading.Calendar
import FactScan.Proofs.Reading.Numerals
import Mathlib.Algebra.Group.Nat.Defs
import Mathlib.Data.List.TakeWhile

namespace FactScan

set_option autoImplicit false

/-! ## Digits -/

namespace Decimal

theorem ofDigitChars_lt {cs : List Char} (digits : ∀ c ∈ cs, c.isDigit = true) :
    Nat.ofDigitChars 10 cs 0 < 10 ^ cs.length := by
  suffices below : ∀ acc, Nat.ofDigitChars 10 cs acc < (acc + 1) * 10 ^ cs.length by
    simpa using below 0
  induction cs with
  | nil =>
      intro acc
      simp
  | cons c cs ih =>
      intro acc
      have digit : c.toNat - '0'.toNat < 10 := by
        have range := Char.isDigit_iff_toNat.1 (digits c List.mem_cons_self)
        have zero : '0'.toNat = 48 := rfl
        have nine : '9'.toNat = 57 := rfl
        omega
      rw [Nat.ofDigitChars_cons, List.length_cons, Nat.pow_succ]
      refine Nat.lt_of_lt_of_le (ih (fun d member => digits d (List.mem_cons_of_mem _ member)) _) ?_
      rw [← Nat.mul_assoc, Nat.mul_right_comm]
      exact Nat.mul_le_mul_right _ (by omega)

theorem length_paddedChars {width n : Nat} (some : 0 < width) (fits : n < 10 ^ width) :
    (paddedChars width n).length = width := by
  have fewer : (natChars n).length ≤ width := (Nat.length_toDigits_le_iff (by decide) some).2 fits
  simp only [paddedChars, List.length_append, List.length_replicate]
  omega

theorem nat?_paddedChars (width n : Nat) : nat? (paddedChars width n) = some n := by
  refine nat?_eq_some.2 ⟨paddedChars_ne_nil width n, fun _ => isDigit_of_mem_paddedChars, ?_⟩
  unfold paddedChars
  dsimp only
  rw [ofDigitChars_zeros_append, ofDigitChars_natChars]

end Decimal

namespace Timestamp

open Decimal (paddedChars)

/-! ## Fields -/

section

variable {width n : Nat} (wide : 0 < width) (fits : n < 10 ^ width) (rest : List Char)
include wide fits

theorem take_paddedChars :
    (paddedChars width n ++ rest).take width = paddedChars width n ∧
      (paddedChars width n ++ rest).drop width = rest := by
  have length := Decimal.length_paddedChars wide fits
  exact ⟨List.take_left' length, List.drop_left' length⟩

theorem fixed?_paddedChars : fixed? width (paddedChars width n ++ rest) = some (n, rest) := by
  obtain ⟨taken, left⟩ := take_paddedChars wide fits rest
  unfold fixed?
  rw [taken, left, Decimal.nat?_paddedChars, Decimal.length_paddedChars wide fits]
  show (if width = width then some (n, rest) else none) = _
  rw [if_pos rfl]

theorem upTo?_paddedChars : upTo? width (paddedChars width n ++ rest) = some (n, rest) := by
  obtain ⟨taken, left⟩ := take_paddedChars wide fits rest
  have digits : (paddedChars width n).takeWhile Char.isDigit = paddedChars width n :=
    List.takeWhile_eq_self_iff.2 fun _ => Decimal.isDigit_of_mem_paddedChars
  unfold upTo?
  dsimp only
  rw [taken, digits, Decimal.nat?_paddedChars, Decimal.length_paddedChars wide fits, left]
  rfl

end

theorem mark?_self (c : Char) (rest : List Char) : mark? c (c :: rest) = some rest := if_pos rfl

theorem cut?_append {c : Char} {before : List Char} (absent : c ∉ before) (after : List Char) :
    cut? c (before ++ c :: after) = some (before, after) := by
  have others : ∀ d ∈ before, (d != c) = true := fun d member => by
    rw [bne_iff_ne]
    exact fun same => absent (same ▸ member)
  unfold cut?
  rw [List.dropWhile_append_of_pos others, List.takeWhile_append_of_pos others]
  simp

theorem unsigned?_paddedChars {bits width n : Nat} (fits : n < 2 ^ bits) :
    Decimal.unsigned? bits (paddedChars width n) = some n := by
  obtain ⟨d, rest, shape⟩ := List.exists_cons_of_ne_nil (Decimal.paddedChars_ne_nil width n)
  have digit : d.isDigit = true :=
    Decimal.isDigit_of_mem_paddedChars (shape ▸ List.mem_cons_self)
  have unmarked : d ≠ '+' := by
    rintro rfl
    cases digit
  unfold Decimal.unsigned?
  rw [shape]
  split
  · rename_i same
    cases same
    exact absurd rfl unmarked
  · rw [← shape, Decimal.nat?_paddedChars]
    show (if n < 2 ^ bits then some n else none) = _
    rw [if_pos fits]

/-- A fraction is read up to what is no digit. -/
theorem fraction?_fractionChars {nano : Nat} (fits : nano < billion) {rest : List Char}
    (stops : rest = [] ∨ rest = ['Z']) :
    fraction? (fractionChars nano ++ rest) = some (nano, rest) := by
  have digits (width n : Nat) (wide : 0 < width) (narrow : width ≤ 9) (small : n < 10 ^ width) :
      fraction? ('.' :: paddedChars width n ++ rest) = some (n * 10 ^ (9 - width), rest) := by
    have length := Decimal.length_paddedChars wide small
    have all : (paddedChars width n ++ rest).takeWhile Char.isDigit = paddedChars width n := by
      rw [List.takeWhile_append_of_pos fun _ => Decimal.isDigit_of_mem_paddedChars]
      rcases stops with rfl | rfl
      · exact List.append_nil _
      · exact List.append_nil _
    rw [List.cons_append, fraction?, all, List.take_of_length_le (length.trans_le narrow),
      Decimal.nat?_paddedChars, length, List.drop_left' length]
    rfl
  unfold billion at fits
  unfold fractionChars
  split
  · rename_i zero
    rw [zero]
    rcases stops with rfl | rfl <;> rfl
  · split
    · rw [digits 3 _ (by decide) (by decide) (by omega)]
      congr
      omega
    · split
      · rw [digits 6 _ (by decide) (by decide) (by omega)]
        congr
        omega
      · rw [digits 9 _ (by decide) (by decide) (by omega)]
        congr
        omega

/-! ## What can be written -/

/-- A timestamp whose parts are those of a date and a time of day, with a year that is kept. -/
structure IsWritable (t : Timestamp) : Prop where
  year : Date.yearMin ≤ t.date.year ∧ t.date.year ≤ Date.yearMax
  second : t.second < 86400
  nano : t.nano < 2 * billion
  leap : billion ≤ t.nano → t.second % 60 = 59

theorem checked?_eq_some {date : Date} {clock : Clock} {offset : Int} {t : Timestamp} :
    checked? date clock offset = some t ↔
      date.isValid = true ∧ clock.isValid = true ∧ ofParts date clock offset = t := by
  unfold checked?
  cases date.isValid <;> cases clock.isValid <;> simp

theorem Clock.isValid_iff {c : Clock} :
    c.isValid = true ↔ c.hour < 24 ∧ c.minute < 60 ∧ c.second ≤ 60 ∧ c.nano < billion := by
  simp only [isValid, Bool.and_eq_true, decide_eq_true_eq, and_assoc]

/-- The parts of a timestamp are those of a date and a time that make it again. -/
theorem IsWritable.checked?_parts {t : Timestamp} (writable : t.IsWritable) :
    checked? t.date t.clock 0 = some t := by
  obtain ⟨day, second, nano⟩ := t
  obtain ⟨year, inDay, small, leap⟩ := writable
  dsimp only at inDay small leap
  refine checked?_eq_some.2 ⟨Date.isValid_iff.2 ⟨Date.isCivil_ofDays day, year⟩, ?_, ?_⟩
  · refine Clock.isValid_iff.2 ?_
    unfold clock
    dsimp only
    split <;> omega
  · -- The second of the day comes together from its hour, minute and second.
    have parts : ((second / 3600 : Nat) : Int) * 3600 + ((second / 60 % 60 : Nat) : Int) * 60 +
        ((second % 60 : Nat) : Int) - 0 = second := by omega
    have whole : (second : Int).fdiv 86400 = 0 ∧ ((second : Int).fmod 86400).toNat = second := by
      rw [Int.fdiv_eq_ediv_of_nonneg _ (by decide), Int.fmod_eq_emod_of_nonneg _ (by decide)]
      omega
    by_cases long : billion ≤ nano
    · have last := leap long
      simp only [ofParts, clock, date, if_pos long, last, if_true, Nat.sub_add_cancel long,
        Date.toDays_ofDays]
      rw [← last, parts, whole.1, whole.2, Int.add_zero]
    · have common : second % 60 ≠ 60 := by omega
      simp only [ofParts, clock, date, if_neg long, if_neg common, Date.toDays_ofDays]
      rw [parts, whole.1, whole.2, Int.add_zero]

/-- A date and a time are those of a timestamp that can be written, with an offset of less than a
day too if the year has four digits. -/
theorem isWritable_ofParts {date : Date} {clock : Clock} {offset : Int}
    (onCalendar : date.isValid = true) (valid : clock.isValid = true)
    (moved : offset = 0 ∨ (0 ≤ date.year ∧ date.year ≤ 9999) ∧
      offset % 60 = 0 ∧ -86400 < offset ∧ offset < 86400) :
    (ofParts date clock offset).IsWritable := by
  obtain ⟨civil, kept⟩ := Date.isValid_iff.1 onCalendar
  obtain ⟨hour, minute, second, nano⟩ := Clock.isValid_iff.1 valid
  unfold billion at nano
  have second' : (if clock.second = 60 then 59 else clock.second) ≤ 59 := by split <;> omega
  simp only [ofParts]
  generalize isSecond : (if clock.second = 60 then 59 else clock.second) = s at second'
  rw [Int.fdiv_eq_ediv_of_nonneg _ (by decide), Int.fmod_eq_emod_of_nonneg _ (by decide)]
  constructor
  · dsimp only [Timestamp.date]
    rcases moved with rfl | ⟨year, -, low, high⟩
    · rw [show ((clock.hour : Int) * 3600 + clock.minute * 60 + s - 0) / 86400 = 0 by omega,
        Int.add_zero, Date.ofDays_toDays civil]
      exact kept
    · exact Date.year_ofDays_near civil year (by omega)
  · dsimp only
    omega
  · dsimp only
    unfold billion
    split <;> omega
  · dsimp only
    unfold billion
    intro long
    split at long
    · rename_i leap
      rw [if_pos leap] at isSecond
      have whole : offset % 60 = 0 := by
        rcases moved with rfl | ⟨-, whole, -⟩
        · rfl
        · exact whole
      omega
    · omega

/-! ## Reading back -/

/-- What a text begins with when it is in the first form. -/
theorem standard?_eq_none {c : Char} (sign : c.isDigit = false) (rest : List Char) :
    standard? (c :: rest) = none := by
  have noNumber : Decimal.nat? ((c :: rest).take 4) = none := by
    refine Option.eq_none_iff_forall_ne_some.2 fun n read => ?_
    rw [(Decimal.nat?_eq_some.1 read).2.1 c List.mem_cons_self] at sign
    cases sign
  unfold standard? fixed?
  rw [noNumber]
  rfl

section

variable {t : Timestamp} (writable : t.IsWritable)
include writable

/-- The fields but the year have two digits. -/
theorem IsWritable.fields :
    (t.date.month < 10 ^ 2 ∧ t.date.day < 10 ^ 2) ∧ t.clock.hour < 10 ^ 2 ∧
      t.clock.minute < 10 ^ 2 ∧ t.clock.second < 10 ^ 2 ∧ t.clock.nano < billion := by
  obtain ⟨onCalendar, valid, -⟩ := checked?_eq_some.1 writable.checked?_parts
  obtain ⟨⟨⟨-, month⟩, -, day⟩, -⟩ := Date.isValid_iff.1 onCalendar
  obtain ⟨hour, minute, second, nano⟩ := Clock.isValid_iff.1 valid
  have longest : Date.daysInMonth t.date.year t.date.month ≤ 31 := by
    unfold Date.daysInMonth
    split <;> (try split) <;> decide
  exact ⟨⟨by omega, by omega⟩, by omega, by omega, by omega, nano⟩

theorem standard?_chars (year : 0 ≤ t.date.year ∧ t.date.year ≤ 9999) :
    standard? t.chars = some t := by
  obtain ⟨⟨month, day⟩, hour, minute, second, nano⟩ := writable.fields
  have digits : t.date.year.toNat < 10 ^ 4 := by omega
  have parts := writable.checked?_parts
  unfold chars yearChars
  dsimp only
  rw [if_pos year]
  simp only [List.append_assoc, List.cons_append]
  unfold standard?
  simp only [fixed?_paddedChars (by decide) digits, fixed?_paddedChars (by decide) month,
    fixed?_paddedChars (by decide) day, fixed?_paddedChars (by decide) hour,
    fixed?_paddedChars (by decide) minute, fixed?_paddedChars (by decide) second, mark?_self,
    fraction?_fractionChars nano (.inr rfl), Option.bind_eq_bind, Option.bind_some,
    Option.orElse_eq_orElse, Option.orElse_some]
  have zulu : offset? ['Z'] = some 0 := rfl
  rw [zulu, Option.bind_some, Int.toNat_of_nonneg year.1]
  exact parts

theorem looseClock?_chars :
    looseClock? (paddedChars 2 t.clock.hour ++ ':' :: (paddedChars 2 t.clock.minute ++
      ':' :: (paddedChars 2 t.clock.second ++ fractionChars t.clock.nano))) = some t.clock := by
  obtain ⟨-, hour, minute, second, nano⟩ := writable.fields
  have fraction := fraction?_fractionChars nano (.inl rfl)
  rw [List.append_nil] at fraction
  unfold looseClock?
  simp only [upTo?_paddedChars (by decide) hour, upTo?_paddedChars (by decide) minute,
    upTo?_paddedChars (by decide) second, mark?_self, fraction, Option.bind_eq_bind,
    Option.bind_some]
  rfl

theorem looseDate?_chars (year : ¬ (0 ≤ t.date.year ∧ t.date.year ≤ 9999)) :
    looseDate? (yearChars t.date.year ++ '-' :: (paddedChars 2 t.date.month ++
      '-' :: paddedChars 2 t.date.day)) = some t.date := by
  obtain ⟨⟨month, day⟩, -⟩ := writable.fields
  have noMark {width n : Nat} : '-' ∉ paddedChars width n := fun member =>
    absurd (Decimal.isDigit_of_mem_paddedChars member) (by decide)
  have small : t.date.year.natAbs < 2 ^ 31 := by
    have := writable.year
    unfold Date.yearMin Date.yearMax at this
    omega
  have signed : Decimal.sign (yearChars t.date.year ++ '-' :: (paddedChars 2 t.date.month ++
      '-' :: paddedChars 2 t.date.day)) =
      (decide (t.date.year < 0), paddedChars 4 t.date.year.natAbs ++
        '-' :: (paddedChars 2 t.date.month ++ '-' :: paddedChars 2 t.date.day)) := by
    unfold yearChars
    rw [if_neg year]
    by_cases past : t.date.year < 0
    · rw [if_pos past, decide_eq_true past]
      rfl
    · rw [if_neg past, decide_eq_false past]
      rfl
  have month' : t.date.month < 2 ^ 32 := Nat.lt_trans month (by decide)
  have day' : t.date.day < 2 ^ 32 := Nat.lt_trans day (by decide)
  unfold looseDate?
  rw [signed]
  simp only [cut?_append noMark, Option.bind_eq_bind, Option.bind_some,
    unsigned?_paddedChars small, unsigned?_paddedChars month', unsigned?_paddedChars day',
    decide_eq_true_eq]
  have value : (if t.date.year < 0 then -(t.date.year.natAbs : Int) else t.date.year.natAbs) =
      t.date.year := by
    split <;> omega
  rw [value]

theorem extended?_chars (year : ¬ (0 ≤ t.date.year ∧ t.date.year ≤ 9999)) :
    extended? t.chars = some t := by
  have parts := writable.checked?_parts
  have date := looseDate?_chars writable year
  have clock := looseClock?_chars writable
  generalize isDate : yearChars t.date.year ++ '-' :: (paddedChars 2 t.date.month ++
      '-' :: paddedChars 2 t.date.day) = dateChars at date
  generalize isClock : paddedChars 2 t.clock.hour ++ ':' :: (paddedChars 2 t.clock.minute ++
      ':' :: (paddedChars 2 t.clock.second ++ fractionChars t.clock.nano)) = clockChars at clock
  have shape : t.chars = dateChars ++ 'T' :: (clockChars ++ ['Z']) := by
    rw [← isDate, ← isClock]
    simp only [chars, List.append_assoc, List.cons_append]
  have noMark : 'T' ∉ dateChars := by
    have digits {width n : Nat} : 'T' ∉ paddedChars width n := fun member =>
      absurd (Decimal.isDigit_of_mem_paddedChars member) (by decide)
    rw [← isDate, yearChars, if_neg year]
    simp only [List.mem_append, List.mem_cons, digits, or_false, false_or, not_or]
    refine ⟨?_, by decide, by decide⟩
    split <;> decide
  unfold extended?
  rw [shape, cut?_append noMark]
  simp only [Option.bind_eq_bind, Option.bind_some, List.getLast?_concat, List.dropLast_concat,
    if_true, clock, date]
  exact parts

/-- **What can be written is read back.** -/
theorem ofChars?_chars : ofChars? t.chars = some t := by
  unfold ofChars?
  by_cases year : 0 ≤ t.date.year ∧ t.date.year ≤ 9999
  · rw [standard?_chars writable year]
    rfl
  · have first : ∃ c rest, t.chars = c :: rest ∧ c.isDigit = false := by
      unfold chars yearChars
      dsimp only
      rw [if_neg year]
      split
      · exact ⟨'-', _, rfl, rfl⟩
      · exact ⟨'+', _, rfl, rfl⟩
    obtain ⟨c, rest, shape, sign⟩ := first
    have extended := extended?_chars writable year
    rw [shape] at extended ⊢
    rw [standard?_eq_none sign, extended]
    rfl

end

/-! ## What is read -/

theorem fixed?_lt {width n : Nat} {cs rest : List Char} (read : fixed? width cs = some (n, rest)) :
    n < 10 ^ width := by
  unfold fixed? at read
  cases digits : Decimal.nat? (cs.take width) with
  | none =>
      rw [digits] at read
      cases read
  | some m =>
      rw [digits] at read
      change (if (cs.take width).length = width then some (m, cs.drop width) else none) = _ at read
      split at read
      · rename_i length
        cases read
        obtain ⟨-, all, rfl⟩ := Decimal.nat?_eq_some.1 digits
        have below := Decimal.ofDigitChars_lt all
        rwa [length] at below
      · cases read

/-- An offset is of whole minutes, and less than a day. -/
theorem offset?_range {cs : List Char} {offset : Int} (read : offset? cs = some offset) :
    offset % 60 = 0 ∧ -86400 < offset ∧ offset < 86400 := by
  have signed : offset = 0 ∨ ∃ hours minutes : Nat, hours < 24 ∧ minutes < 60 ∧
      (offset = hours * 3600 + minutes * 60 ∨ offset = -(hours * 3600 + minutes * 60)) := by
    unfold offset? at read
    split at read
    · exact .inl (Option.some.inj read).symm
    · exact .inl (Option.some.inj read).symm
    · refine .inr ?_
      simp only [Option.bind_eq_bind, Option.bind_some, Option.bind_none] at read
      split at read
      · simp only [Option.bind_eq_some_iff, Prod.exists] at read
        obtain ⟨hours, _, -, _, -, minutes, _, -, last⟩ := read
        split at last
        · rename_i inDay
          exact ⟨hours, minutes, inDay.2.1, inDay.2.2, .inl (by cases last; omega)⟩
        · cases last
      · split at read
        · simp only [Option.bind_eq_some_iff, Prod.exists] at read
          obtain ⟨hours, _, -, _, -, minutes, _, -, last⟩ := read
          split at last
          · rename_i inDay
            exact ⟨hours, minutes, inDay.2.1, inDay.2.2, .inr (by cases last; omega)⟩
          · cases last
        · cases read
    · cases read
  rcases signed with rfl | ⟨hours, minutes, inDay, inHour, rfl | rfl⟩ <;> omega

theorem isWritable_of_standard? {cs : List Char} {t : Timestamp}
    (read : standard? cs = some t) : t.IsWritable := by
  unfold standard? at read
  simp only [Option.bind_eq_bind, Option.bind_eq_some_iff, Prod.exists] at read
  obtain ⟨year, _, digits, _, -, _, _, -, _, -, _, _, -, _, -, _, _, -, _, -, _, _, -, _, -, _, _,
    -, _, _, -, offset, moved, checked⟩ := read
  obtain ⟨onCalendar, valid, rfl⟩ := checked?_eq_some.1 checked
  have below := fixed?_lt digits
  exact isWritable_ofParts onCalendar valid (.inr ⟨by dsimp only; omega, offset?_range moved⟩)

theorem isWritable_of_extended? {cs : List Char} {t : Timestamp}
    (read : extended? cs = some t) : t.IsWritable := by
  unfold extended? at read
  simp only [Option.bind_eq_bind, Option.bind_eq_some_iff, Prod.exists] at read
  obtain ⟨_, _, -, read⟩ := read
  split at read
  · simp only [Option.bind_eq_some_iff] at read
    obtain ⟨_, -, _, -, checked⟩ := read
    obtain ⟨onCalendar, valid, rfl⟩ := checked?_eq_some.1 checked
    exact isWritable_ofParts onCalendar valid (.inl rfl)
  · cases read

/-- **What is read can be written.** -/
theorem isWritable_of_ofChars? {cs : List Char} {t : Timestamp} (read : ofChars? cs = some t) :
    t.IsWritable := by
  unfold ofChars? at read
  cases first : standard? cs with
  | some t' =>
      rw [first] at read
      cases read
      exact isWritable_of_standard? first
  | none =>
      rw [first] at read
      exact isWritable_of_extended? read

end Timestamp

end FactScan
