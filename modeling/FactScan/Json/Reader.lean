/-
# FactScan.Json.Reader — reading documents

A document is read strictly where its content matters: strings are whole characters, numbers
stay in the range of doubles, and nesting is bounded.  What is passed over is only checked
for its form.

A number without fraction and exponent that fits 64 bits, with a sign or without, is an
integer.  Any other is taken by its first digits that fit 64 bits and a power of ten, and
multiplied or divided out in double precision, so the last digit of a long decimal may differ
from the nearest double's.
-/
import FactScan.Decimal.Reader
import FactScan.Json.Basic
import FactScan.Text.Blank
import FactScan.Text.Ranges

namespace FactScan.Json

set_option autoImplicit false

namespace Reader

open Text (skipSpacing)

/-- How deep a document may be nested. -/
def maxNesting : Nat := 127

/-- The text after `word`, if it begins with that. -/
def expect? (word : List Char) (cs : List Char) : Option (List Char) :=
  if word.isPrefixOf cs then some (cs.drop word.length) else none

/-! ## Strings -/

/-- Four hexadecimal digits. -/
def hex4? (cs : List Char) : Option (Nat × List Char) :=
  let digits := cs.take 4
  if digits.length = 4 ∧ digits.all (fun c => (Text.hexDigit? c).isSome) then
    some (Text.hexValue digits, cs.drop 4)
  else none

/-- A character by its number, after `\u`.  The two halves of a large number must follow
each other. -/
def unicodeEscape? (strict : Bool) (cs : List Char) : Option (Char × List Char) := do
  let (n, rest) ← hex4? cs
  if !strict then some (Char.ofNat n, rest)
  else if 0xd800 ≤ n ∧ n ≤ 0xdbff then
    let rest ← expect? ['\\', 'u'] rest
    let (m, rest) ← hex4? rest
    if 0xdc00 ≤ m ∧ m ≤ 0xdfff then
      some (Char.ofNat (0x10000 + (n - 0xd800) * 0x400 + (m - 0xdc00)), rest)
    else none
  else if 0xdc00 ≤ n ∧ n ≤ 0xdfff then none
  else some (Char.ofNat n, rest)

/-- What follows a backslash. -/
def escape? (strict : Bool) : List Char → Option (Char × List Char)
  | '"' :: cs => some ('"', cs)
  | '\\' :: cs => some ('\\', cs)
  | '/' :: cs => some ('/', cs)
  | 'b' :: cs => some ('\x08', cs)
  | 'f' :: cs => some ('\x0c', cs)
  | 'n' :: cs => some ('\n', cs)
  | 'r' :: cs => some ('\r', cs)
  | 't' :: cs => some ('\t', cs)
  | 'u' :: cs => unicodeEscape? strict cs
  | _ => none

/-- The characters of a string after its opening quote, at most `n` of them. -/
def stringRest? (strict : Bool) : Nat → List Char → Option (List Char × List Char)
  | 0, _ => none
  | _ + 1, [] => none
  | _ + 1, '"' :: cs => some ([], cs)
  | n + 1, '\\' :: cs => do
    let (c, rest) ← escape? strict cs
    let (s, rest) ← stringRest? strict n rest
    some (c :: s, rest)
  | n + 1, c :: cs => do
    if c.toNat < 32 then none
    let (s, rest) ← stringRest? strict n cs
    some (c :: s, rest)

def string? (strict : Bool) (cs : List Char) : Option (String × List Char) := do
  let cs ← expect? ['"'] cs
  let (s, rest) ← stringRest? strict (cs.length + 1) cs
  some (String.ofList s, rest)

/-! ## Numbers -/

/-- As many digits as fit below `2 ^ 64`, appended to a significand, and the others. -/
def takeDigits (significand : Nat) : List Char → Nat × List Char
  | [] => (significand, [])
  | c :: rest =>
    let next := significand * 10 + (c.toNat - '0'.toNat)
    if next < UInt64.size then takeDigits next rest else (significand, c :: rest)

/-- `x * 10 ^ exponent` in double precision, at most `10 ^ 308` at a time; nothing if it
overflows. -/
def scaled? : Nat → Binary64 → Int → Option Binary64
  | 0, x, _ => some x
  | n + 1, x, exponent =>
    if exponent.natAbs ≤ 308 then
      let power := Binary64.ofDecimal false 1 exponent.natAbs
      if 0 ≤ exponent then
        let product := x.mul power
        if product.isFinite then some product else none
      else some (x.div power)
    else if x.isZero then some x
    else if 0 ≤ exponent then none
    else scaled? n (x.div (.ofDecimal false 1 308)) (exponent + 308)

/-- A number as it is written. -/
structure Numeral where
  negative : Bool
  whole : List Char
  fraction : List Char
  exponent : Option Int

namespace Numeral

/-- A number that is a natural number with a sign. -/
def isIntegral (n : Numeral) : Bool := n.fraction.isEmpty && n.exponent.isNone

/-- The double of a number, if it has one. -/
def float? (n : Numeral) : Option Binary64 := do
  let (significand, left) := takeDigits 0 n.whole
  let (significand, lost) := takeDigits significand n.fraction
  let exponent : Int := n.exponent.getD 0 + left.length - (n.fraction.length - lost.length)
  let x ← scaled? 3 (.ofInt significand) exponent
  some (if n.negative then x.neg else x)

/-- The document of a number.  Negative zero is a double. -/
def json? (n : Numeral) : Option Json :=
  let integral : Option Json :=
    if n.isIntegral ∧ ¬(n.negative ∧ n.whole = ['0']) then
      (Decimal.int? (if n.negative then '-' :: n.whole else n.whole)).bind Json.ofInt?
    else none
  match integral with
  | some j => some j
  | none => n.float?.map .ofFloat

end Numeral

/-- Digits, the first of which is zero only if it is the only one. -/
def whole? (cs : List Char) : Option (List Char × List Char) :=
  match cs with
  | '0' :: rest => if rest.head?.any Char.isDigit then none else some (['0'], rest)
  | _ =>
    let digits := cs.takeWhile Char.isDigit
    if digits.isEmpty then none else some (digits, cs.dropWhile Char.isDigit)

/-- A number. -/
def numeral? (cs : List Char) : Option (Numeral × List Char) := do
  let (negative, cs) :=
    match cs with
    | '-' :: rest => (true, rest)
    | _ => (false, cs)
  let (whole, cs) ← whole? cs
  let (fraction, cs) ←
    match cs with
    | '.' :: rest =>
      let digits := rest.takeWhile Char.isDigit
      if digits.isEmpty then none else some (digits, rest.dropWhile Char.isDigit)
    | _ => some ([], cs)
  let exponent (rest : List Char) : Option (Numeral × List Char) := do
    let (down, rest) := Decimal.sign rest
    let n ← Decimal.nat? (rest.takeWhile Char.isDigit)
    some (⟨negative, whole, fraction, some (if down then -(n : Int) else n)⟩,
      rest.dropWhile Char.isDigit)
  match cs with
  | 'e' :: rest => exponent rest
  | 'E' :: rest => exponent rest
  | _ => some (⟨negative, whole, fraction, none⟩, cs)

/-- A number as a document; what is passed over may be out of range. -/
def number? (strict : Bool) (cs : List Char) : Option (Json × List Char) := do
  let (n, rest) ← numeral? cs
  if strict then some (← n.json?, rest) else some (.null, rest)

/-! ## Nesting -/

section Sequences

variable {α : Type} (close : Char) (item : List Char → Option (α × List Char))

/-- The items after the first one, at most `n` of them, up to the closing character. -/
def moreItems? : Nat → List Char → Option (List α × List Char)
  | 0, _ => none
  | n + 1, cs =>
    match skipSpacing cs with
    | ',' :: rest => do
      let (a, rest) ← item (skipSpacing rest)
      let (as, rest) ← moreItems? n rest
      some (a :: as, rest)
    | c :: rest => if c = close then some ([], rest) else none
    | [] => none

/-- Items with commas between them, after the opening character. -/
def items? (cs : List Char) : Option (List α × List Char) := do
  let cs := skipSpacing cs
  match expect? [close] cs with
  | some rest => some ([], rest)
  | none =>
    let (a, rest) ← item cs
    let (as, rest) ← moreItems? close item (rest.length + 1) rest
    some (a :: as, rest)

end Sequences

/-- A name, a colon and a value. -/
def member? {α : Type} (strict : Bool) (value : String → List Char → Option (α × List Char))
    (cs : List Char) : Option ((String × α) × List Char) := do
  let (name, rest) ← string? strict cs
  let rest ← expect? [':'] (skipSpacing rest)
  let (v, rest) ← value name (skipSpacing rest)
  some ((name, v), rest)

/-- A document with `room` levels of nesting. -/
def value? (strict : Bool) : Nat → List Char → Option (Json × List Char)
  | room, cs =>
    match cs with
    | 'n' :: _ => (expect? ['n', 'u', 'l', 'l'] cs).map fun rest => (.null, rest)
    | 't' :: _ => (expect? ['t', 'r', 'u', 'e'] cs).map fun rest => (.boolean true, rest)
    | 'f' :: _ => (expect? ['f', 'a', 'l', 's', 'e'] cs).map fun rest => (.boolean false, rest)
    | '"' :: _ => (string? strict cs).map fun (s, rest) => (.string s, rest)
    | '[' :: rest =>
      match room with
      | 0 => none
      | room + 1 => (items? ']' (value? strict room) rest).map fun (js, rest) => (.array js, rest)
    | '\x7b' :: rest =>
      match room with
      | 0 => none
      | room + 1 =>
        (items? '\x7d' (member? strict fun _ => value? strict room) rest).map
          fun (ms, rest) => (.ofMembers ms, rest)
    | _ => number? strict cs

/-- A value that is only checked for its form. -/
def skipped? (cs : List Char) : Option (List Char) :=
  (value? false (cs.length + 1) cs).map (·.2)

end Reader

/-- The document that a text is, with spacing around it. -/
def ofText? (source : String) : Option Json := do
  let (j, rest) ← Reader.value? true Reader.maxNesting (Text.skipSpacing source.toList)
  if (Text.skipSpacing rest).isEmpty then some j else none

end FactScan.Json
