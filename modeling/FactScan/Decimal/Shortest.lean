/-
# FactScan.Decimal.Shortest — the fewest digits that read back

A double is written with the fewest significant digits whose nearest double is the same
double.  For one digit, then two, and so on, the two neighbours of the exact value on
that decimal grid are tried; the first grid on which one reads back wins, and of two
hits the nearer.  Which of two equally near ones is taken is left to the format.
-/
import FactScan.Decimal.Binary

namespace FactScan

set_option autoImplicit false

/-- A decimal number `significand * 10 ^ exponent`. -/
structure Decimal where
  significand : Nat
  exponent : Int
  deriving DecidableEq

namespace Decimal

/-- What becomes of a value halfway between two candidates. -/
inductive Tie where
  | up
  | toEven
  deriving DecidableEq

/-- Drop trailing zeros of the significand, at most `n` of them. -/
def stripZeros : Nat → Decimal → Decimal
  | 0, d => d
  | n + 1, d =>
    if d.significand % 10 = 0 then stripZeros n ⟨d.significand / 10, d.exponent + 1⟩ else d

/-- The place of the double nearest to a decimal. -/
def place (d : Decimal) : Nat := Binary64.decimalPlace d.significand d.exponent

/-- The exponent `k` with `10 ^ (k - 1) ≤ v < 10 ^ k`, for the magnitude `v` of a
place other than zero. -/
def pointOf (place : Nat) : Int :=
  let n := Binary64.units place
  if Binary64.one ≤ n then Binary64.digitCount (n / Binary64.one)
  else
    let zeros := Binary64.digitCount (Binary64.one / n)
    if n * Nat.pow 10 (zeros - 1) < Binary64.one then 1 - zeros else 2 - zeros

/-- Numerator and denominator of the magnitude at `place` measured in `10 ^ grid`. -/
def onGrid (place : Nat) : Int → Nat × Nat
  | .ofNat g => (Binary64.units place, Binary64.one * Nat.pow 10 g)
  | .negSucc g => (Binary64.units place * Nat.pow 10 (g + 1), Binary64.one)

/-- The better of the two neighbours of the magnitude at `place` on the grid
`10 ^ grid`, if one of them reads back. -/
def onGrid? (tie : Tie) (place : Nat) (grid : Int) : Option Decimal :=
  let (numerator, denominator) := onGrid place grid
  let low : Decimal := ⟨numerator / denominator, grid⟩
  let high : Decimal := ⟨numerator / denominator + 1, grid⟩
  let twice := 2 * (numerator % denominator)
  let preferHigh : Bool :=
    if twice = denominator then
      match tie with
      | .up => true
      | .toEven => low.significand % 2 = 1
    else denominator < twice
  match decide (low.place = place), decide (high.place = place) with
  | true, true => some (if preferHigh then high else low)
  | true, false => some low
  | false, true => some high
  | false, false => none

/-- Try grids of `digits`, `digits + 1`, … significant digits; after `tries` of them
write the value out exactly. -/
def search (tie : Tie) (place : Nat) (point : Int) : Nat → Nat → Decimal
  | 0, _ => ⟨Binary64.units place * Nat.pow 5 1074, -1074⟩
  | tries + 1, digits =>
    match onGrid? tie place (point - digits) with
    | some d => d
    | none => search tie place point tries (digits + 1)

/-- The shortest decimal that reads back as the magnitude at `place`. -/
def shortest (tie : Tie) (place : Nat) : Decimal :=
  if place = 0 then ⟨0, 0⟩
  else
    let d := search tie place (pointOf place) 17 1
    stripZeros (Binary64.digitCount d.significand) d

end Decimal

end FactScan
