/-
# FactScan.Decimal.Layout — writing digits down

A layout says how the digits of a double become text: between which powers of ten the
point stands among the digits, and how an exponent is written outside that range.  The
two texts of the library, that of terms and that of documents, are two layouts.
-/
import FactScan.Decimal.Shortest

namespace FactScan

set_option autoImplicit false

namespace Decimal

/-- Decimal digits of a natural number. -/
def natChars (n : Nat) : List Char := Nat.toDigits 10 n

/-- Decimal digits of an integer, with a sign only if it is negative. -/
def intChars (n : Int) : List Char :=
  if n < 0 then '-' :: natChars n.natAbs else natChars n.natAbs

/-- Digits of a number in at least `width` places, filled up with zeros. -/
def paddedChars (width n : Nat) : List Char :=
  let digits := natChars n
  List.replicate (width - digits.length) '0' ++ digits

/-- How doubles are written. -/
structure Layout where
  tie : Tie
  /-- Least power of ten of the first digit that is written without an exponent. -/
  least : Int
  /-- First power of ten above those written without an exponent. -/
  bound : Int
  /-- Whether an exponent that is not negative carries a plus sign. -/
  plus : Bool

namespace Layout

/-- In terms: exponents from `1e16` on and below `1e-4`. -/
def term : Layout := ⟨.up, -4, 16, false⟩

/-- In documents: exponents from `1e+16` on and below `1e-5`. -/
def document : Layout := ⟨.toEven, -5, 16, true⟩

/-- Digits with the point after the first `point` of them; a number without a fraction
ends in `.0`. -/
def positional (digits : List Char) (point : Int) : List Char :=
  if point ≤ 0 then
    '0' :: '.' :: List.replicate point.natAbs '0' ++ digits
  else
    let whole := point.toNat
    if digits.length ≤ whole then
      digits ++ List.replicate (whole - digits.length) '0' ++ ['.', '0']
    else
      digits.take whole ++ '.' :: digits.drop whole

/-- One digit, the others after a point, and the power of ten. -/
def scientific (layout : Layout) (digits : List Char) (power : Int) : List Char :=
  let mantissa :=
    match digits with
    | [] => ['0']
    | [d] => [d]
    | d :: rest => d :: '.' :: rest
  let sign := if layout.plus ∧ 0 ≤ power then ['+'] else []
  mantissa ++ 'e' :: sign ++ intChars power

/-- Text of a magnitude. -/
def magnitude (layout : Layout) (place : Nat) : List Char :=
  let d := shortest layout.tie place
  let digits := natChars d.significand
  let point := d.exponent + digits.length
  if place = 0 then ['0', '.', '0']
  else if layout.least ≤ point - 1 ∧ point - 1 < layout.bound then positional digits point
  else scientific layout digits (point - 1)

/-- Text of a finite double. -/
def finite (layout : Layout) (negative : Bool) (place : Nat) : List Char :=
  if negative then '-' :: layout.magnitude place else layout.magnitude place

end Layout

/-- Text of a double inside a term.  What is not finite carries a sign, so that it is
never taken for a name. -/
def floatChars : Binary64 → List Char
  | .nan => ['+', 'n', 'a', 'n']
  | .point negative place =>
    if place.val = Binary64.top then (if negative then '-' else '+') :: ['i', 'n', 'f']
    else Layout.term.finite negative place.val

end Decimal

end FactScan
