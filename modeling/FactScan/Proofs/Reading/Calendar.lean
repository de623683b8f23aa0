/-
# FactScan.Proofs.Reading.Calendar — days and dates are the same thing

A day has its place in the cycles of the Gregorian calendar: an era of four centuries, a
century in it, four years in that, a year and a day of the year.  With years that begin in
March the long year is the last of its four, the short century any but the last of its four,
and a leap day the last day of a year, so that the place is found by divisions alone
(`Date.Parts`).  Both conversions go through it.

* `Date.toDays_ofDays`, `Date.ofDays_toDays`: the conversions undo each other.
* `Date.isCivil_ofDays`: every day has a date on the calendar.
* `Date.year_ofDays_near`: the year of a day next to one of a year of four digits.
-/
import FactScan.Calendar.Timestamp

namespace FactScan.Date

set_option autoImplicit false

/-- A date on the calendar, in whichever year. -/
structure IsCivil (d : Date) : Prop where
  month : 1 ≤ d.month ∧ d.month ≤ 12
  day : 1 ≤ d.day ∧ d.day ≤ daysInMonth d.year d.month

theorem isValid_iff {d : Date} :
    d.isValid = true ↔ d.IsCivil ∧ yearMin ≤ d.year ∧ d.year ≤ yearMax := by
  simp only [isValid, Bool.and_eq_true, decide_eq_true_eq]
  exact ⟨fun ⟨⟨⟨⟨⟨low, high⟩, m1⟩, m12⟩, d1⟩, dn⟩ => ⟨⟨⟨m1, m12⟩, d1, dn⟩, low, high⟩,
    fun ⟨⟨⟨m1, m12⟩, d1, dn⟩, low, high⟩ => ⟨⟨⟨⟨⟨low, high⟩, m1⟩, m12⟩, d1⟩, dn⟩⟩

/-! ## Places in the cycles -/

/-- A day by its place in the cycles of the calendar, in which years begin in March: an era, a
century of that, a cycle of four years of that, a year of that and a day of that. -/
structure Parts where
  era : Int
  century : Int
  cycle : Int
  year : Int
  day : Int

namespace Parts

/-- Only the last year of a cycle has 366 days, and of the last cycle of a century only that of
the last century. -/
structure IsProper (p : Parts) : Prop where
  century : 0 ≤ p.century ∧ p.century ≤ 3
  cycle : 0 ≤ p.cycle ∧ p.cycle ≤ 24
  year : 0 ≤ p.year ∧ p.year ≤ 3
  day : 0 ≤ p.day ∧ p.day ≤ 365
  leap : p.day = 365 → p.year = 3 ∧ (p.cycle = 24 → p.century = 3)

def dayOfEra (p : Parts) : Int := 36524 * p.century + 1461 * p.cycle + 365 * p.year + p.day

def yearOfEra (p : Parts) : Int := 100 * p.century + 4 * p.cycle + p.year

/-- Days since 1970-01-01. -/
def days (p : Parts) : Int := p.era * 146097 + p.dayOfEra - 719468

/-- The month, counted from March on. -/
def month (p : Parts) : Int := (5 * p.day + 2) / 153

def date (p : Parts) : Date :=
  let month := if p.month < 10 then p.month + 3 else p.month - 9
  ⟨p.yearOfEra + p.era * 400 + (if month ≤ 2 then 1 else 0), month.toNat,
    (p.day - (153 * p.month + 2) / 5 + 1).toNat⟩

/-- Every day has its place. -/
theorem exists_days (n : Int) : ∃ p : Parts, p.IsProper ∧ p.days = n := by
  obtain ⟨era, doe, low, high, shape⟩ : ∃ era doe : Int, 0 ≤ doe ∧ doe < 146097 ∧
      n = era * 146097 + doe - 719468 :=
    ⟨(n + 719468) / 146097, (n + 719468) % 146097, by omega, by omega, by omega⟩
  obtain ⟨c, r, c0, c3, r0, r1, r2, rfl⟩ : ∃ c r : Int, 0 ≤ c ∧ c ≤ 3 ∧ 0 ≤ r ∧ r ≤ 36524 ∧
      (r = 36524 → c = 3) ∧ doe = 36524 * c + r := by
    by_cases last : doe = 146096
    · exact ⟨3, 36524, by omega, by omega, by omega, by omega, by omega, by omega⟩
    · exact ⟨doe / 36524, doe % 36524, by omega, by omega, by omega, by omega, by omega, by omega⟩
  obtain ⟨a, d, a0, a3, d0, d1, d2, year⟩ : ∃ a d : Int, 0 ≤ a ∧ a ≤ 3 ∧ 0 ≤ d ∧ d ≤ 365 ∧
      (d = 365 → a = 3) ∧ r % 1461 = 365 * a + d := by
    by_cases last : r % 1461 = 1460
    · exact ⟨3, 365, by omega, by omega, by omega, by omega, by omega, by omega⟩
    · exact ⟨r % 1461 / 365, r % 1461 % 365, by omega, by omega, by omega, by omega, by omega,
        by omega⟩
  refine ⟨⟨era, c, r / 1461, a, d⟩, ⟨⟨c0, c3⟩, by dsimp only; omega, ⟨a0, a3⟩, ⟨d0, d1⟩,
    fun full => ⟨d2 full, fun last => r2 ?_⟩⟩, ?_⟩
  · have := d2 full
    dsimp only at last full
    omega
  · simp only [days, dayOfEra]
    omega

variable {p : Parts} (proper : p.IsProper)
include proper

/-- The year as it is worked out from the day of the era. -/
theorem yearOfEra_eq :
    (p.dayOfEra - p.dayOfEra / 1460 + p.dayOfEra / 36524 - p.dayOfEra / 146096) / 365 =
      p.yearOfEra := by
  obtain ⟨era, c, q, a, d⟩ := p
  obtain ⟨⟨c0, c3⟩, ⟨q0, q24⟩, ⟨a0, a3⟩, ⟨d0, d1⟩, leap⟩ := proper
  simp only [dayOfEra, yearOfEra] at *
  obtain ⟨e, e0, e1, quarter⟩ : ∃ e : Int, (d = 365 → e = 1) ∧ (e = 0 ∨ e = 1 ∧ 0 < d) ∧
      (36524 * c + 1461 * q + 365 * a + d) / 1460 = 25 * c + q + e := by
    refine ⟨(24 * c + q + 365 * a + d) / 1460, ?_, ?_, ?_⟩ <;> omega
  obtain ⟨f, f0, f1⟩ : ∃ f : Int, (36524 * c + 1461 * q + 365 * a + d) / 36524 = c + f ∧
      (36524 * c + 1461 * q + 365 * a + d) / 146096 = f := by
    by_cases last : c = 3 ∧ q = 24 ∧ a = 3 ∧ d = 365
    · exact ⟨1, by omega, by omega⟩
    · exact ⟨0, by omega, by omega⟩
  rw [quarter, f0, f1]
  omega

theorem ofDays_days : ofDays p.days = p.date := by
  have yoe := yearOfEra_eq proper
  obtain ⟨⟨c0, c3⟩, ⟨q0, q24⟩, ⟨a0, a3⟩, ⟨d0, d1⟩, leap⟩ := proper
  have range : 0 ≤ p.dayOfEra ∧ p.dayOfEra < 146097 := by
    unfold dayOfEra
    omega
  have era : (p.days + 719468).fdiv 146097 = p.era := by
    rw [Int.fdiv_eq_ediv_of_nonneg _ (by decide), days]
    omega
  have doe : p.days + 719468 - p.era * 146097 = p.dayOfEra := by
    rw [days]
    omega
  have doy : p.dayOfEra - (365 * p.yearOfEra + p.yearOfEra / 4 - p.yearOfEra / 100) = p.day := by
    unfold dayOfEra yearOfEra
    omega
  simp only [ofDays, era, doe, yoe, doy]
  rfl

/-- The months before January, and those after. -/
theorem date_cases :
    (0 ≤ p.month ∧ p.month < 10 ∧ p.date = ⟨p.yearOfEra + p.era * 400, (p.month + 3).toNat,
        (p.day - (153 * p.month + 2) / 5 + 1).toNat⟩) ∨
      (10 ≤ p.month ∧ p.month < 12 ∧ p.date = ⟨p.yearOfEra + p.era * 400 + 1, (p.month - 9).toNat,
        (p.day - (153 * p.month + 2) / 5 + 1).toNat⟩) := by
  have range : 0 ≤ p.month ∧ p.month < 12 := by
    have := proper.day
    unfold month
    omega
  unfold date
  dsimp only
  by_cases late : p.month < 10
  · rw [if_pos late, if_neg (by omega), Int.add_zero]
    exact .inl ⟨range.1, late, rfl⟩
  · rw [if_neg late, if_pos (by omega)]
    exact .inr ⟨by omega, range.2, rfl⟩

theorem toDays_date : p.date.toDays = p.days := by
  have yoe : 0 ≤ p.yearOfEra ∧ p.yearOfEra < 400 := by
    obtain ⟨c, q, a, -, -⟩ := proper
    unfold yearOfEra
    omega
  have era : (p.yearOfEra + p.era * 400).fdiv 400 = p.era := by
    rw [Int.fdiv_eq_ediv_of_nonneg _ (by decide)]
    omega
  have day : (153 * p.month + 2) / 5 ≤ p.day := by
    have := proper.day
    unfold month
    omega
  have total : p.era * 146097 + (p.yearOfEra * 365 + p.yearOfEra / 4 - p.yearOfEra / 100 + p.day) -
      719468 = p.days := by
    obtain ⟨c, q, a, -, -⟩ := proper
    unfold days dayOfEra yearOfEra
    omega
  rw [← total]
  obtain ⟨m0, m9, shape⟩ | ⟨m10, m11, shape⟩ := date_cases proper
  · have month : ((p.month + 3).toNat : Int) - 3 = p.month := by omega
    rw [shape, toDays]
    dsimp only
    rw [if_neg (by omega), if_neg (by omega), era, month]
    omega
  · have month : ((p.month - 9).toNat : Int) + 9 = p.month := by omega
    have year : p.yearOfEra + p.era * 400 + 1 - 1 = p.yearOfEra + p.era * 400 := by omega
    rw [shape, toDays]
    dsimp only
    rw [if_pos (by omega), if_pos (by omega), year, era, month]
    omega

end Parts

/-! ## Dates -/

theorem isLeap_iff {year : Int} :
    isLeap year = true ↔ year % 4 = 0 ∧ (year % 100 ≠ 0 ∨ year % 400 = 0) := by
  simp [isLeap]

/-- The lengths of the months, counted from March on up to January. -/
theorem daysInMonth_of_lt (year : Int) {m : Nat} (notLast : m < 11) :
    daysInMonth year (if m < 10 then m + 3 else m - 9) =
      (153 * (m + 1) + 2) / 5 - (153 * m + 2) / 5 := by
  match m, notLast with
  | 0, _ | 1, _ | 2, _ | 3, _ | 4, _ | 5, _ | 6, _ | 7, _ | 8, _ | 9, _ | 10, _ => rfl

namespace Parts

/-- The year in which a cycle ends is a leap year just when its last day is a leap day. -/
theorem isLeap_last {p : Parts} (proper : p.IsProper) :
    isLeap (p.yearOfEra + p.era * 400 + 1) = true ↔
      p.year = 3 ∧ (p.cycle = 24 → p.century = 3) := by
  obtain ⟨c, q, a, -, -⟩ := proper
  rw [isLeap_iff, yearOfEra]
  omega

theorem isCivil_date {p : Parts} (proper : p.IsProper) : p.date.IsCivil := by
  obtain ⟨d0, d1⟩ := proper.day
  have isMonth : p.month = (5 * p.day + 2) / 153 := rfl
  obtain ⟨m, nat⟩ : ∃ m : Nat, p.month = m := ⟨p.month.toNat, by omega⟩
  have before : (((153 * m + 2) / 5 : Nat) : Int) ≤ p.day := by omega
  have after : p.day < ((153 * (m + 1) + 2) / 5 : Nat) := by omega
  have same : (153 * p.month + 2) / 5 = ((153 * m + 2) / 5 : Nat) := by omega
  obtain ⟨m0, m9, shape⟩ | ⟨m10, m11, shape⟩ := date_cases proper
  · have length := daysInMonth_of_lt (p.yearOfEra + p.era * 400) (m := m) (by omega)
    rw [if_pos (by omega), show m + 3 = (p.month + 3).toNat by omega] at length
    rw [shape, same]
    constructor
    · dsimp only
      omega
    · dsimp only
      rw [length]
      omega
  · have leap := isLeap_last proper
    have full := proper.leap
    rw [shape, same]
    constructor
    · dsimp only
      omega
    · dsimp only
      by_cases last : p.month = 11
      · rw [last, show ((11 : Int) - 9).toNat = 2 from rfl, daysInMonth]
        split
        · omega
        · rename_i common
          rw [leap] at common
          omega
      · have length := daysInMonth_of_lt (p.yearOfEra + p.era * 400 + 1) (m := m) (by omega)
        rw [if_neg (by omega), show m - 9 = (p.month - 9).toNat by omega] at length
        rw [length]
        omega

/-- Every month of every year is one counted from March on. -/
theorem exists_march (year : Int) {month : Nat} (range : 1 ≤ month ∧ month ≤ 12) :
    ∃ (y : Int) (m : Nat), m < 12 ∧ month = (if m < 10 then m + 3 else m - 9) ∧
      year = y + (if m < 10 then 0 else 1) := by
  by_cases early : month ≤ 2
  · refine ⟨year - 1, month + 9, by omega, ?_, ?_⟩ <;> rw [if_neg (by omega)] <;> omega
  · refine ⟨year, month - 3, by omega, ?_, ?_⟩ <;> rw [if_pos (by omega)] <;> omega

/-- The last days of the months: those of the formula, and in the twelfth month from March on the
29th if the year is a leap year. -/
theorem day_le {year : Int} {m day : Nat}
    (inside : day ≤ daysInMonth year (if m < 10 then m + 3 else m - 9)) :
    (m < 11 → day ≤ (153 * (m + 1) + 2) / 5 - (153 * m + 2) / 5) ∧
      (m = 11 → day ≤ 29 ∧ (day = 29 → isLeap year = true)) := by
  constructor
  · intro notLast
    rw [← daysInMonth_of_lt year notLast]
    exact inside
  · rintro rfl
    change day ≤ (if isLeap year = true then 29 else 28) at inside
    split at inside
    · rename_i leap
      exact ⟨inside, fun _ => leap⟩
    · omega

/-- Every date has its place. -/
theorem exists_date {d : Date} (civil : d.IsCivil) : ∃ p : Parts, p.IsProper ∧ p.date = d := by
  obtain ⟨year, month, day⟩ := d
  obtain ⟨⟨m1, m12⟩, d1, dn⟩ := civil
  dsimp only at *
  obtain ⟨y, m, m11, isMonth, isYear⟩ := exists_march year ⟨m1, m12⟩
  rw [isMonth] at dn
  obtain ⟨length, february⟩ := day_le dn
  obtain ⟨x, isDay⟩ : ∃ x : Int, x = ((153 * m + 2) / 5 : Nat) + (day : Int) - 1 := ⟨_, rfl⟩
  have bound : m < 11 → x < ((153 * (m + 1) + 2) / 5 : Nat) := by omega
  have range : 0 ≤ x ∧ x ≤ 365 := by omega
  obtain ⟨p, proper, days, years, months⟩ : ∃ p : Parts, p.IsProper ∧ p.day = x ∧
      p.yearOfEra + p.era * 400 = y ∧ p.month = m := by
    refine ⟨⟨y / 400, y % 400 / 100, y % 100 / 4, y % 4, x⟩, ?_, rfl, ?_, ?_⟩
    · constructor <;> dsimp only
      · omega
      · omega
      · omega
      · exact range
      · intro full
        have leap := (february (by omega)).2 (by omega)
        rw [isLeap_iff, isYear, if_neg (by omega)] at leap
        omega
    · dsimp only [yearOfEra]
      omega
    · show (5 * x + 2) / 153 = (m : Int)
      omega
  have nth : (x - (153 * (m : Int) + 2) / 5 + 1).toNat = day := by omega
  refine ⟨p, proper, ?_⟩
  obtain ⟨-, early, shape⟩ | ⟨late, -, shape⟩ := date_cases proper
  · rw [if_pos (by omega)] at isMonth isYear
    rw [shape, days, years, months, nth, isMonth, isYear, Int.add_zero]
    rfl
  · rw [if_neg (by omega)] at isMonth isYear
    rw [shape, days, years, months, nth, isMonth, isYear,
      show ((m : Int) - 9).toNat = m - 9 by omega]

end Parts

/-- **The date of a day is the day of that date**, and the other way round. -/
theorem toDays_ofDays (n : Int) : (ofDays n).toDays = n := by
  obtain ⟨p, proper, rfl⟩ := Parts.exists_days n
  rw [Parts.ofDays_days proper, Parts.toDays_date proper]

theorem ofDays_toDays {d : Date} (civil : d.IsCivil) : ofDays d.toDays = d := by
  obtain ⟨p, proper, rfl⟩ := Parts.exists_date civil
  rw [Parts.toDays_date proper, Parts.ofDays_days proper]

/-- Every day has a date on the calendar. -/
theorem isCivil_ofDays (n : Int) : (ofDays n).IsCivil := by
  obtain ⟨p, proper, rfl⟩ := Parts.exists_days n
  rw [Parts.ofDays_days proper]
  exact Parts.isCivil_date proper

/-- The year of a day, up to the era it is in. -/
theorem year_ofDays (n : Int) :
    (n + 719468) / 146097 * 400 ≤ (ofDays n).year ∧
      (ofDays n).year ≤ (n + 719468) / 146097 * 400 + 400 := by
  obtain ⟨p, proper, rfl⟩ := Parts.exists_days n
  rw [Parts.ofDays_days proper]
  have era : (p.days + 719468) / 146097 = p.era := by
    obtain ⟨c, q, a, d, -⟩ := proper
    unfold Parts.days Parts.dayOfEra
    omega
  rw [era]
  obtain ⟨-, -, shape⟩ | ⟨-, -, shape⟩ := Parts.date_cases proper
  all_goals
    rw [shape]
    obtain ⟨c, q, a, d, -⟩ := proper
    unfold Parts.yearOfEra
    dsimp only
    omega

/-- A day before or after a year of four digits is in a year that is kept. -/
theorem year_ofDays_near {d : Date} (civil : d.IsCivil) (year : 0 ≤ d.year ∧ d.year ≤ 9999)
    {n : Int} (near : d.toDays - 1 ≤ n ∧ n ≤ d.toDays + 1) :
    yearMin ≤ (ofDays n).year ∧ (ofDays n).year ≤ yearMax := by
  have here := year_ofDays d.toDays
  have there := year_ofDays n
  rw [ofDays_toDays civil] at here
  unfold yearMin yearMax
  omega

end FactScan.Date
