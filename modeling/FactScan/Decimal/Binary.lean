/-
# FactScan.Decimal.Binary — double precision numbers as places on a grid

A finite double is a multiple of `2 ^ (-1074)`, and the doubles of one sign form a
ladder: place `0` is zero, place `1` the least positive number, and the top place
stands for infinity, whose neighbours are laid out as if it were `2 ^ 1024`.  Order is
the order of places, so no comparison ever meets a rounding.  Rounding to nearest is one
function on exact fractions, `nearestPlace`, and every operation is that function applied
to the exact result.

There is a single value that is not a number: nothing in the library tells two apart.
-/

namespace FactScan

set_option autoImplicit false

namespace Binary64

/-- Places from one power of two to the next. -/
def stretch : Nat := Nat.pow 2 52

/-- The place of infinity, above every finite magnitude. -/
def top : Nat := 2047 * stretch

/-- Magnitude at a place, counted in units of `2 ^ (-1074)`. -/
def units (place : Nat) : Nat :=
  if place < stretch then place
  else (stretch + place % stretch) * Nat.pow 2 (place / stretch - 1)

/-- The highest place whose magnitude is at most `n` units. -/
def placeBelow (n : Nat) : Nat :=
  if n < 2 * stretch then n
  else
    let shift := n.log2 - 52
    shift * stretch + n / Nat.pow 2 shift

/-- The place nearest to `numerator / denominator` units; a fraction halfway between two
places goes to the even one. -/
def nearestPlace (numerator denominator : Nat) : Nat :=
  let low := placeBelow (numerator / denominator)
  let twice := 2 * numerator
  let middle := (units low + units (low + 1)) * denominator
  let place :=
    if twice < middle then low
    else if middle < twice then low + 1
    else if low % 2 = 0 then low
    else low + 1
  min place top

theorem nearestPlace_le_top (numerator denominator : Nat) :
    nearestPlace numerator denominator ≤ top :=
  Nat.min_le_right _ _

/-- Units in one. -/
def one : Nat := Nat.pow 2 1074

end Binary64

/-- A double precision number. -/
inductive Binary64 where
  | nan
  | point (negative : Bool) (place : Fin (Binary64.top + 1))
  deriving DecidableEq

namespace Binary64

/-! ## Building -/

/-- The number of the given sign nearest to `numerator / denominator` units. -/
def round (negative : Bool) (numerator denominator : Nat) : Binary64 :=
  .point negative
    ⟨nearestPlace numerator denominator, Nat.lt_succ_of_le (nearestPlace_le_top _ _)⟩

def zero (negative : Bool) : Binary64 := .point negative ⟨0, Nat.succ_pos _⟩

def infinity (negative : Bool) : Binary64 := .point negative ⟨top, Nat.lt_succ_self _⟩

instance : Inhabited Binary64 := ⟨zero false⟩

/-- The nearest double to an integer. -/
def ofInt (n : Int) : Binary64 := round (n < 0) (n.natAbs * one) 1

/-- How many decimal digits a number has; zero has none. -/
def digitCount (n : Nat) : Nat :=
  if n = 0 then 0 else (Nat.toDigits 10 n).length

/-- The place nearest to `significand * 10 ^ exponent`. -/
def decimalPlace (significand : Nat) : Int → Nat
  | .ofNat e => nearestPlace (significand * Nat.pow 10 e * one) 1
  | .negSucc e => nearestPlace (significand * one) (Nat.pow 10 (e + 1))

theorem decimalPlace_le_top (significand : Nat) (exponent : Int) :
    decimalPlace significand exponent ≤ top := by
  cases exponent <;> exact nearestPlace_le_top _ _

/-- The nearest double to `significand * 10 ^ exponent`.  Far outside the range of
doubles the power is not worked out: the answer is infinity or zero. -/
def ofDecimal (negative : Bool) (significand : Nat) (exponent : Int) : Binary64 :=
  let scale := exponent + digitCount significand
  if significand = 0 ∨ scale < -400 then zero negative
  else if 400 < scale then infinity negative
  else
    .point negative
      ⟨decimalPlace significand exponent, Nat.lt_succ_of_le (decimalPlace_le_top _ _)⟩

/-! ## Order -/

/-- Position on the line of all numbers; both zeros are at `0`. -/
def rank (negative : Bool) (place : Nat) : Int :=
  if negative then -(place : Int) else place

/-- Numeric order; a value that is not a number compares with nothing. -/
def compare : Binary64 → Binary64 → Option Ordering
  | .point s p, .point t q => some (Ord.compare (rank s p) (rank t q))
  | _, _ => none

def isNaN : Binary64 → Bool
  | .nan => true
  | .point .. => false

/-- Either zero. -/
def isZero : Binary64 → Bool
  | .nan => false
  | .point _ p => p.val = 0

def isFinite : Binary64 → Bool
  | .nan => false
  | .point _ p => p.val < top

/-! ## Arithmetic, rounded once -/

/-- Signed magnitude in units. -/
def signedUnits (negative : Bool) (place : Nat) : Int :=
  if negative then -(units place : Int) else units place

def neg : Binary64 → Binary64
  | .nan => .nan
  | .point s p => .point (!s) p

/-- A sum of opposite values is positive zero. -/
def add : Binary64 → Binary64 → Binary64
  | .point s p, .point t q =>
    if p.val = top then
      if q.val = top ∧ s ≠ t then .nan else .point s p
    else if q.val = top then .point t q
    else
      let total := signedUnits s p + signedUnits t q
      if total = 0 then zero (s && t) else round (total < 0) total.natAbs 1
  | _, _ => .nan

def sub (a b : Binary64) : Binary64 := add a (neg b)

def mul : Binary64 → Binary64 → Binary64
  | .point s p, .point t q =>
    let negative := s != t
    if p.val = top ∨ q.val = top then
      if p.val = 0 ∨ q.val = 0 then .nan else infinity negative
    else round negative (units p * units q) one
  | _, _ => .nan

def div : Binary64 → Binary64 → Binary64
  | .point s p, .point t q =>
    let negative := s != t
    if p.val = top then
      if q.val = top then .nan else infinity negative
    else if q.val = top then zero negative
    else if q.val = 0 then
      if p.val = 0 then .nan else infinity negative
    else round negative (units p * one) (units q)
  | _, _ => .nan

end Binary64

end FactScan
