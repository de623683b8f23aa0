/-
# FactScan.Json.Text — writing documents

A document is written on one line, or with every item and member on a line of its own,
two spaces further in than what holds it.
-/
import FactScan.Decimal.Layout
import FactScan.Json.Basic

namespace FactScan.Json

set_option autoImplicit false

/-- A control character by its number. -/
def hexEscape (c : Char) : List Char :=
  let digits := Nat.toDigits 16 c.toNat
  ['\\', 'u'] ++ List.replicate (4 - digits.length) '0' ++ digits

/-- A character inside a string. -/
def escapedChar (c : Char) : List Char :=
  if c = '"' then ['\\', '"']
  else if c = '\\' then ['\\', '\\']
  else if c = '\n' then ['\\', 'n']
  else if c = '\r' then ['\\', 'r']
  else if c = '\t' then ['\\', 't']
  else if c = '\x08' then ['\\', 'b']
  else if c = '\x0c' then ['\\', 'f']
  else if c.toNat < 32 then hexEscape c
  else [c]

def stringChars (s : String) : List Char :=
  '"' :: s.toList.flatMap escapedChar ++ ['"']

/-- A number; what is not finite is written as nothing. -/
def floatChars : Binary64 → List Char
  | .nan => ['n', 'u', 'l', 'l']
  | .point negative place =>
    if place.val = Binary64.top then ['n', 'u', 'l', 'l']
    else Decimal.Layout.document.finite negative place.val

/-- How the parts of a document are set apart: `none` for one line, or the depth at which
a part stands. -/
abbrev Indent := Option Nat

def Indent.inner (i : Indent) : Indent := i.map (· + 1)

/-- A line break and the indentation of the next line. -/
def Indent.line : Indent → List Char
  | none => []
  | some depth => '\n' :: List.replicate (2 * depth) ' '

/-- What stands between a name and its value. -/
def Indent.colon : Indent → List Char
  | none => [':']
  | some _ => [':', ' ']

/-- Parts between an opening and a closing character, each on its own line if the document
has lines. -/
def enclosed (indent : Indent) (opening closing : Char) (parts : List (List Char)) :
    List Char :=
  if parts.isEmpty then [opening, closing]
  else
    let separator := ',' :: indent.inner.line
    opening :: indent.inner.line ++ (parts.intersperse separator).flatten ++ indent.line
      ++ [closing]

mutual

def chars (indent : Indent) : Json → List Char
  | .null => ['n', 'u', 'l', 'l']
  | .boolean true => ['t', 'r', 'u', 'e']
  | .boolean false => ['f', 'a', 'l', 's', 'e']
  | .integer n => Decimal.intChars n.toInt
  | .large n _ => Nat.toDigits 10 n.toNat
  | .float x _ => floatChars x
  | .string s => stringChars s
  | .array items => enclosed indent '[' ']' (listChars indent.inner items)
  | .object members => enclosed indent '\x7b' '\x7d' (memberChars indent.inner members)

def listChars (indent : Indent) : List Json → List (List Char)
  | [] => []
  | j :: rest => chars indent j :: listChars indent rest

def memberChars (indent : Indent) : List (String × Json) → List (List Char)
  | [] => []
  | (name, j) :: rest =>
    (stringChars name ++ indent.colon ++ chars indent j) :: memberChars indent rest

end

/-- The text of a document on one line. -/
def text (j : Json) : String := String.ofList (j.chars none)

/-- The text of a document over several lines. -/
def prettyText (j : Json) : String := String.ofList (j.chars (some 0))

end FactScan.Json
