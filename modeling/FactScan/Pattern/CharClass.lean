/-
# FactScan.Pattern.CharClass — sets of characters in patterns

A class is built from ranges by the operations a pattern can write: union, intersection,
difference, symmetric difference, complement, and closing under case.  `contains` gives
each operation its meaning, one clause to each.
-/
import FactScan.Text.CaseFolding

namespace FactScan.Pattern

set_option autoImplicit false

/-- A set of characters. -/
inductive CharClass where
  | ranges (members : List (Nat × Nat))
  | union (a b : CharClass)
  | inter (a b : CharClass)
  | diff (a b : CharClass)
  | symmDiff (a b : CharClass)
  | complement (a : CharClass)
  /-- Closed under case, of letters in the ASCII range only or of all. -/
  | folded (ascii : Bool) (a : CharClass)

/-- An ASCII letter with its other case; any other character alone. -/
def asciiVariants (c : Char) : List Char :=
  if c.isUpper then [c, c.toLower] else if c.isLower then [c, c.toUpper] else [c]

namespace CharClass

def contains : CharClass → Char → Bool
  | .ranges members, c => Text.inRanges members c.toNat
  | .union a b, c => a.contains c || b.contains c
  | .inter a b, c => a.contains c && b.contains c
  | .diff a b, c => a.contains c && !b.contains c
  | .symmDiff a b, c => a.contains c != b.contains c
  | .complement a, c => !a.contains c
  | .folded ascii a, c => (if ascii then asciiVariants c else Text.caseVariants c).any a.contains

/-- One character. -/
def single (c : Char) : CharClass := .ranges [(c.toNat, c.toNat)]

def none : CharClass := .ranges []

/-- The complement, where a class is written with a negation sign. -/
def negated (negative : Bool) (a : CharClass) : CharClass :=
  if negative then .complement a else a

/-- About how many bytes a range takes up when it is matched byte by byte. -/
def rangeWeight : Nat × Nat → Nat
  | (low, high) =>
    if high < 128 then 8 else if low < 128 ∨ low + 0x1000 ≤ high then 400 else 58

/-- About how many bytes a class takes up. -/
def weight : CharClass → Nat
  | .ranges members => (members.map rangeWeight).foldl (· + ·) 0
  | .union a b | .inter a b | .diff a b | .symmDiff a b => a.weight + b.weight
  | .complement a => a.weight + 936
  | .folded _ (.ranges [range]) => 2 * rangeWeight range
  | .folded _ a => a.weight

end CharClass

end FactScan.Pattern
