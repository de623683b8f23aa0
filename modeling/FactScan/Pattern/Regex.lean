/-
# FactScan.Pattern.Regex — regular expressions and where they match

A regular expression relates positions of a text: from the position before the match to
the position after it.  Positions `0` to `n` of a text of length `n` are the bits of a
number, and an expression carries a set of positions to the set of positions where a match
begun in it can end.  A text matches when some position leads anywhere.
-/
import FactScan.Pattern.CharClass

namespace FactScan.Pattern

set_option autoImplicit false

/-- Conditions on a position, by the characters before and after it. -/
inductive Look where
  | start
  | stop
  | lineStart (crlf : Bool)
  | lineEnd (crlf : Bool)
  | wordBoundary (isWord : CharClass)
  | notWordBoundary (isWord : CharClass)
  | wordStart (isWord : CharClass)
  | wordEnd (isWord : CharClass)
  | wordStartHalf (isWord : CharClass)
  | wordEndHalf (isWord : CharClass)

/-- Whether a condition holds between two neighbouring characters. -/
def Look.holds (before after : Option Char) : Look → Bool
  | .start => before.isNone
  | .stop => after.isNone
  | .lineStart false => before.isNone || before == some '\n'
  | .lineEnd false => after.isNone || after == some '\n'
  | .lineStart true =>
    before.isNone || before == some '\n' || (before == some '\r' && after != some '\n')
  | .lineEnd true =>
    after.isNone || after == some '\r' || (after == some '\n' && before != some '\r')
  | .wordBoundary w => before.any w.contains != after.any w.contains
  | .notWordBoundary w => before.any w.contains == after.any w.contains
  | .wordStart w => !before.any w.contains && after.any w.contains
  | .wordEnd w => before.any w.contains && !after.any w.contains
  | .wordStartHalf w => !before.any w.contains
  | .wordEndHalf w => !after.any w.contains

/-- Regular expressions.  Only whether a text matches is ever asked, so there are no
groups and no greed. -/
inductive Regex where
  | empty
  | look (condition : Look)
  | oneOf (chars : CharClass)
  | seq (first second : Regex)
  | alt (left right : Regex)
  | loop (least : Nat) (most : Option Nat) (body : Regex)

/-! ## Sets of positions -/

/-- The positions at which a test on the neighbouring characters succeeds. -/
def positions (test : Option Char → Option Char → Bool) : Option Char → List Char → Nat
  | before, [] => (test before none).toNat
  | before, c :: rest =>
    (test before (some c)).toNat + 2 * positions test (some c) rest

/-- All positions of a text of length `n`. -/
def everywhere (n : Nat) : Nat := 1 <<< (n + 1) - 1

/-- A regular expression with each of its leaves worked out for one text. -/
inductive Moves where
  /-- Stay at the given positions. -/
  | stay (at_ : Nat)
  /-- From the given positions, move on by one character. -/
  | advance (at_ : Nat)
  | seq (first second : Moves)
  | alt (left right : Moves)
  /-- At least `least` rounds, and then at most `extra` more. -/
  | loop (least extra : Nat) (body : Moves)

/-- The moves of an expression on a text.  A round that adds no position adds none later
either, so no loop needs more rounds than there are positions. -/
def Regex.moves (text : List Char) : Regex → Moves
  | .empty => .stay (everywhere text.length)
  | .look condition => .stay (positions (fun b a => condition.holds b a) none text)
  | .oneOf chars => .advance (positions (fun _ a => a.any chars.contains) none text)
  | .seq a b => .seq (a.moves text) (b.moves text)
  | .alt a b => .alt (a.moves text) (b.moves text)
  | .loop least most body =>
    let extra :=
      match most with
      | some n => n - least
      | none => text.length + 1
    .loop least extra (body.moves text)

/-- `n` rounds of `step`, fewer if a round changes nothing. -/
def rounds (step : Nat → Nat) : Nat → Nat → Nat
  | 0, here => here
  | n + 1, here =>
    let there := step here
    if there = here then here else rounds step n there

/-- Positions reached from a set of positions. -/
def Moves.reach : Moves → Nat → Nat
  | .stay m, here => here &&& m
  | .advance m, here => (here &&& m) <<< 1
  | .seq a b, here => b.reach (a.reach here)
  | .alt a b, here => a.reach here ||| b.reach here
  | .loop least extra body, here =>
    rounds (fun s => s ||| body.reach s) extra (rounds body.reach least here)

/-- Whether an expression matches somewhere in a text. -/
def Regex.isMatch (r : Regex) (text : List Char) : Bool :=
  (r.moves text).reach (everywhere text.length) != 0

/-- About how many bytes an expression takes up once its loops are unrolled: 32 for each
state and a few more for each way out of it. -/
def Regex.cost : Regex → Nat
  | .empty => 0
  | .look _ => 32
  | .oneOf (.ranges [(low, high)]) =>
    if low = high then 32 * (Char.ofNat low).utf8Size
    else 64 + CharClass.rangeWeight (low, high)
  | .oneOf chars => 64 + chars.weight
  | .seq a b => a.cost + b.cost
  | .alt a b => a.cost + b.cost + 36
  | .loop least most body =>
    match most with
    | some n => n * body.cost + 40 * (n - least)
    | none => (max least 1) * body.cost + 40

end FactScan.Pattern
