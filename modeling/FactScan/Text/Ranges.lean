/-
# FactScan.Text.Ranges — sets of characters written as ranges

A table of characters is a list of lines of hexadecimal ranges such as `41-5a 61-7a aa`,
read when it is asked for.
-/

namespace FactScan.Text

set_option autoImplicit false

/-- The value of a hexadecimal digit in either case. -/
def hexDigit? (c : Char) : Option Nat :=
  if '0' ≤ c ∧ c ≤ '9' then some (c.toNat - '0'.toNat)
  else if 'a' ≤ c ∧ c ≤ 'f' then some (c.toNat - 'a'.toNat + 10)
  else if 'A' ≤ c ∧ c ≤ 'F' then some (c.toNat - 'A'.toNat + 10)
  else none

/-- The value of hexadecimal digits; other characters are passed over. -/
def hexValue (cs : List Char) : Nat :=
  (cs.filterMap hexDigit?).foldl (fun n d => n * 16 + d) 0

/-- The pieces of a text between the characters that satisfy `stop`. -/
def pieces (stop : Char → Bool) (cs : List Char) : List (List Char) :=
  cs.foldr
    (fun c ps =>
      if stop c then [] :: ps
      else
        match ps with
        | p :: rest => (c :: p) :: rest
        | [] => [[c]])
    [[]]

/-- Groups of hexadecimal numbers: groups are separated by blanks, numbers by commas. -/
def hexLists (lines : List String) : List (List Nat) :=
  lines.flatMap fun line =>
    (pieces (· == ' ') line.toList).map fun group => (pieces (· == ',') group).map hexValue

/-- The ranges of a table. -/
def rangesOf (lines : List String) : List (Nat × Nat) :=
  lines.flatMap fun line =>
    (pieces (· == ' ') line.toList).filterMap fun piece =>
      match (pieces (· == '-') piece).map hexValue with
      | [n] => some (n, n)
      | [low, high] => some (low, high)
      | _ => none

/-- Ranges in order, those that touch or overlap as one. -/
def joined : List (Nat × Nat) → List (Nat × Nat)
  | (a, b) :: (c, d) :: rest =>
    if c ≤ b + 1 then joined ((a, max b d) :: rest) else (a, b) :: joined ((c, d) :: rest)
  | ranges => ranges
termination_by ranges => ranges.length

/-- The same characters in the fewest ranges. -/
def normalized (ranges : List (Nat × Nat)) : List (Nat × Nat) :=
  joined (ranges.mergeSort fun a b => a.1 ≤ b.1)

def inRanges (ranges : List (Nat × Nat)) (n : Nat) : Bool :=
  ranges.any fun (low, high) => low ≤ n && n ≤ high

end FactScan.Text
