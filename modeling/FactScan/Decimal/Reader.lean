/-
# FactScan.Decimal.Reader — reading numbers

Integers are an optional sign and digits; a double is an optional sign and either one of
the names `inf`, `infinity`, `nan` in any case, or digits around at most one point with an
optional exponent.  A double read is the nearest one to the decimal written.
-/
import FactScan.Decimal.Layout

namespace FactScan.Decimal

set_option autoImplicit false

/-- The value of a digit sequence; nothing if it is empty or holds anything else. -/
def nat? (cs : List Char) : Option Nat :=
  if cs.isEmpty ∨ ¬ cs.all Char.isDigit then none
  else some (cs.foldl (fun n c => n * 10 + (c.toNat - '0'.toNat)) 0)

/-- A sign, if one is written, and what follows it. -/
def sign : List Char → Bool × List Char
  | '-' :: cs => (true, cs)
  | '+' :: cs => (false, cs)
  | cs => (false, cs)

def int? (cs : List Char) : Option Int :=
  let (negative, digits) := sign cs
  (nat? digits).map fun n => if negative then -(n : Int) else n

/-- An integer of 64 bits, if it fits. -/
def int64? (cs : List Char) : Option Int64 := do
  let n ← int? cs
  if Int64.minValue.toInt ≤ n ∧ n ≤ Int64.maxValue.toInt then some (Int64.ofInt n) else none

/-- A natural number below `2 ^ bits`, a plus sign allowed. -/
def unsigned? (bits : Nat) (cs : List Char) : Option Nat := do
  let n ← nat? (match cs with | '+' :: rest => rest | _ => cs)
  if n < Nat.pow 2 bits then some n else none

/-- The exponent that ends a number: nothing written is zero. -/
def exponent? : List Char → Option Int
  | [] => some 0
  | c :: cs => if c = 'e' ∨ c = 'E' then int? cs else none

/-- Digits around an optional point, then an optional exponent. -/
def unsignedFloat? (negative : Bool) (cs : List Char) : Option Binary64 := do
  let whole := cs.takeWhile Char.isDigit
  let rest := cs.dropWhile Char.isDigit
  let (fraction, rest) :=
    match rest with
    | '.' :: tail => (tail.takeWhile Char.isDigit, tail.dropWhile Char.isDigit)
    | _ => ([], rest)
  let significand ← nat? (whole ++ fraction)
  let exponent ← exponent? rest
  some (.ofDecimal negative significand (exponent - fraction.length))

/-- A double. -/
def float? (cs : List Char) : Option Binary64 :=
  let (negative, rest) := sign cs
  let name := rest.map Char.toLower
  if name = ['i', 'n', 'f'] ∨ name = ['i', 'n', 'f', 'i', 'n', 'i', 't', 'y'] then
    some (.infinity negative)
  else if name = ['n', 'a', 'n'] then some .nan
  else unsignedFloat? negative rest

end FactScan.Decimal
