/-
# FactScan.Calendar.Timestamp — points in time

A timestamp is a day, a second of that day and a count of nanoseconds within the second,
always in Coordinated Universal Time.  During a leap second the nanoseconds run on past a
full second, so that order stays lexicographic.
-/
import FactScan.Calendar.Date

namespace FactScan

set_option autoImplicit false

structure Timestamp where
  /-- Days since 1970-01-01. -/
  day : Int
  /-- Second of the day, below 86400. -/
  second : Nat
  /-- Nanoseconds, below two thousand million; the second half is a leap second. -/
  nano : Nat
  deriving DecidableEq, Repr

namespace Timestamp

/-- Nanoseconds in a second. -/
def billion : Nat := 1000000000

/-- Chronological order. -/
def compare (a b : Timestamp) : Ordering :=
  (Ord.compare a.day b.day).then ((Ord.compare a.second b.second).then (Ord.compare a.nano b.nano))

/-- A time of day; the sixtieth second is written for a leap second. -/
structure Clock where
  hour : Nat
  minute : Nat
  second : Nat
  nano : Nat
  deriving DecidableEq, Repr

def Clock.isValid (c : Clock) : Bool :=
  c.hour < 24 && c.minute < 60 && c.second ≤ 60 && c.nano < billion

/-- The timestamp of a date and time read `offset` seconds ahead of Coordinated Universal
Time. -/
def ofParts (date : Date) (clock : Clock) (offset : Int) : Timestamp :=
  let leap := clock.second = 60
  let second := if leap then 59 else clock.second
  let nano := if leap then clock.nano + billion else clock.nano
  let total : Int := clock.hour * 3600 + clock.minute * 60 + second - offset
  ⟨date.toDays + total.fdiv 86400, (total.fmod 86400).toNat, nano⟩

def date (t : Timestamp) : Date := .ofDays t.day

def clock (t : Timestamp) : Clock :=
  let leap := billion ≤ t.nano
  { hour := t.second / 3600
    minute := t.second / 60 % 60
    second := if leap then t.second % 60 + 1 else t.second % 60
    nano := if leap then t.nano - billion else t.nano }

end Timestamp

end FactScan
