/-
# FactScan.Calendar.Date — days of the Gregorian calendar

Days are counted from 1970-01-01, and a date is a year, a month and a day of the
Gregorian calendar extended in both directions.  Years run from March inside the
conversion, so that the leap day comes last.
-/

namespace FactScan

set_option autoImplicit false

/-- A date by year, month and day. -/
structure Date where
  year : Int
  month : Nat
  day : Nat
  deriving DecidableEq, Repr

namespace Date

def isLeap (year : Int) : Bool :=
  year % 4 = 0 && (year % 100 != 0 || year % 400 = 0)

def daysInMonth (year : Int) (month : Nat) : Nat :=
  match month with
  | 2 => if isLeap year then 29 else 28
  | 4 | 6 | 9 | 11 => 30
  | _ => 31

/-- The years that dates are kept for. -/
def yearMin : Int := -262143
def yearMax : Int := 262142

/-- A date of the calendar, in the years that are kept. -/
def isValid (d : Date) : Bool :=
  yearMin ≤ d.year && d.year ≤ yearMax && 1 ≤ d.month && d.month ≤ 12 && 1 ≤ d.day
    && d.day ≤ daysInMonth d.year d.month

/-- Days since 1970-01-01. -/
def toDays (d : Date) : Int :=
  let year := if d.month ≤ 2 then d.year - 1 else d.year
  let era := year.fdiv 400
  let yearOfEra := year - era * 400
  let month : Int := if d.month ≤ 2 then d.month + 9 else d.month - 3
  let dayOfYear := (153 * month + 2) / 5 + d.day - 1
  let dayOfEra := yearOfEra * 365 + yearOfEra / 4 - yearOfEra / 100 + dayOfYear
  era * 146097 + dayOfEra - 719468

/-- The date a number of days after 1970-01-01. -/
def ofDays (days : Int) : Date :=
  let shifted := days + 719468
  let era := shifted.fdiv 146097
  let dayOfEra := shifted - era * 146097
  let yearOfEra := (dayOfEra - dayOfEra / 1460 + dayOfEra / 36524 - dayOfEra / 146096) / 365
  let dayOfYear := dayOfEra - (365 * yearOfEra + yearOfEra / 4 - yearOfEra / 100)
  let month := (5 * dayOfYear + 2) / 153
  let day := dayOfYear - (153 * month + 2) / 5 + 1
  let civilMonth := if month < 10 then month + 3 else month - 9
  let year := yearOfEra + era * 400 + (if civilMonth ≤ 2 then 1 else 0)
  ⟨year, civilMonth.toNat, day.toNat⟩

end Date

end FactScan
