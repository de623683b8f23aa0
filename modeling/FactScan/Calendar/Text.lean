/-
# FactScan.Calendar.Text — timestamps as text

A timestamp is written as a date, `T`, a time and `Z`.  A year outside `0` to `9999` has a
sign; the fraction has as many groups of three digits as it needs.

Two forms are read.  The first has exactly four digits in the year and two in every other
field, and an offset.  The second is always in universal time and allows a sign and any
number of digits in the date, and one or two digits in each field of the time.
-/
import FactScan.Calendar.Timestamp
import FactScan.Decimal.Reader

namespace FactScan.Timestamp

set_option autoImplicit false

open Decimal (paddedChars)

/-! ## Writing -/

/-- Four digits, or a sign and at least four. -/
def yearChars (year : Int) : List Char :=
  if 0 ≤ year ∧ year ≤ 9999 then paddedChars 4 year.toNat
  else (if year < 0 then '-' else '+') :: paddedChars 4 year.natAbs

/-- The fraction of a second: nothing, or 3, 6 or 9 digits. -/
def fractionChars (nano : Nat) : List Char :=
  if nano = 0 then []
  else if nano % 1000000 = 0 then '.' :: paddedChars 3 (nano / 1000000)
  else if nano % 1000 = 0 then '.' :: paddedChars 6 (nano / 1000)
  else '.' :: paddedChars 9 nano

/-- The text of a timestamp. -/
def chars (t : Timestamp) : List Char :=
  let date := t.date
  let clock := t.clock
  yearChars date.year ++ '-' :: paddedChars 2 date.month ++ '-' :: paddedChars 2 date.day
    ++ 'T' :: paddedChars 2 clock.hour ++ ':' :: paddedChars 2 clock.minute
    ++ ':' :: paddedChars 2 clock.second ++ fractionChars clock.nano ++ ['Z']

/-! ## Reading -/

/-- Exactly `width` digits, and what follows them. -/
def fixed? (width : Nat) (cs : List Char) : Option (Nat × List Char) := do
  let n ← Decimal.nat? (cs.take width)
  if (cs.take width).length = width then some (n, cs.drop width) else none

/-- One to `width` digits, as many as there are, and what follows them. -/
def upTo? (width : Nat) (cs : List Char) : Option (Nat × List Char) := do
  let digits := (cs.take width).takeWhile Char.isDigit
  let n ← Decimal.nat? digits
  some (n, cs.drop digits.length)

/-- The character `c`, and what follows it. -/
def mark? (c : Char) : List Char → Option (List Char)
  | d :: rest => if c = d then some rest else none
  | [] => none

/-- A fraction of a second in nanoseconds, cut after the ninth digit; none written is
zero. -/
def fraction? : List Char → Option (Nat × List Char)
  | '.' :: cs => do
    let digits := cs.takeWhile Char.isDigit
    let kept := digits.take 9
    let n ← Decimal.nat? kept
    some (n * Nat.pow 10 (9 - kept.length), cs.drop digits.length)
  | cs => some (0, cs)

/-- An offset in seconds: `Z`, or a sign, hours and minutes. -/
def offset? : List Char → Option Int
  | ['Z'] => some 0
  | ['z'] => some 0
  | s :: cs => do
    let sign : Int ← if s = '+' then some 1 else if s = '-' ∨ s = '−' then some (-1) else none
    let (hours, cs) ← fixed? 2 cs
    let cs ← mark? ':' cs
    let (minutes, cs) ← fixed? 2 cs
    if cs.isEmpty ∧ hours < 24 ∧ minutes < 60 then some (sign * (hours * 3600 + minutes * 60))
    else none
  | [] => none

/-- The timestamp of a date and time, if there is such a date and such a time. -/
def checked? (date : Date) (clock : Clock) (offset : Int) : Option Timestamp :=
  if date.isValid && clock.isValid then some (.ofParts date clock offset) else none

/-- A date and time with an offset, every field at its full width. -/
def standard? (cs : List Char) : Option Timestamp := do
  let (year, cs) ← fixed? 4 cs
  let cs ← mark? '-' cs
  let (month, cs) ← fixed? 2 cs
  let cs ← mark? '-' cs
  let (day, cs) ← fixed? 2 cs
  let cs ← (mark? 'T' cs <|> mark? 't' cs <|> mark? ' ' cs)
  let (hour, cs) ← fixed? 2 cs
  let cs ← mark? ':' cs
  let (minute, cs) ← fixed? 2 cs
  let cs ← mark? ':' cs
  let (second, cs) ← fixed? 2 cs
  let (nano, cs) ← fraction? cs
  let offset ← offset? cs
  checked? ⟨year, month, day⟩ ⟨hour, minute, second, nano⟩ offset

/-- A time in fields of one or two digits, and nothing after it. -/
def looseClock? (cs : List Char) : Option Clock := do
  let (hour, cs) ← upTo? 2 cs
  let cs ← mark? ':' cs
  let (minute, cs) ← upTo? 2 cs
  let cs ← mark? ':' cs
  let (second, cs) ← upTo? 2 cs
  let (nano, cs) ← fraction? cs
  if cs.isEmpty then some ⟨hour, minute, second, nano⟩ else none

/-- The part of a text before the first `c` and the part after it. -/
def cut? (c : Char) (cs : List Char) : Option (List Char × List Char) :=
  match cs.dropWhile (· != c) with
  | [] => none
  | _ :: rest => some (cs.takeWhile (· != c), rest)

/-- A date whose fields have any width, the year below `2 ^ 31`. -/
def looseDate? (cs : List Char) : Option Date := do
  let (negative, cs) := Decimal.sign cs
  let (year, cs) ← cut? '-' cs
  let (month, day) ← cut? '-' cs
  let year ← Decimal.unsigned? 31 year
  let month ← Decimal.unsigned? 32 month
  let day ← Decimal.unsigned? 32 day
  some ⟨if negative then -(year : Int) else year, month, day⟩

/-- A date and time in universal time, the fields at any width. -/
def extended? (cs : List Char) : Option Timestamp := do
  let (date, time) ← cut? 'T' cs
  let clock ← if time.getLast? = some 'Z' then looseClock? time.dropLast else none
  let date ← looseDate? date
  checked? date clock 0

/-- A timestamp in either form. -/
def ofChars? (cs : List Char) : Option Timestamp := standard? cs <|> extended? cs

end FactScan.Timestamp
