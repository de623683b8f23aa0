/-
# FactScan.Pattern.Syntax — patterns as they are written

The parts of a pattern with the stretches they were read from, before flags and names of
properties have been given a meaning.
-/
import FactScan.Pattern.Fault

namespace FactScan.Pattern

set_option autoImplicit false

inductive Flag where
  | caseInsensitive
  | multiLine
  | dotMatchesNewLine
  | swapGreed
  | unicode
  | crlf
  | ignoreWhitespace
  deriving DecidableEq

/-- Flags switched on (`true`) or off. -/
abbrev FlagChanges := List (Flag × Bool)

/-- What a list of changes does to a flag. -/
def FlagChanges.state? (changes : FlagChanges) (flag : Flag) : Option Bool :=
  (changes.find? (·.1 = flag)).map (·.2)

inductive AssertionKind where
  | lineStart
  | lineEnd
  | textStart
  | textEnd
  | wordBoundary
  | notWordBoundary
  | wordStart
  | wordEnd
  | wordStartHalf
  | wordEndHalf
  deriving DecidableEq

/-- The three classes with a letter of their own. -/
inductive LetterClass where
  | digit
  | space
  | word
  deriving DecidableEq

/-- A property as it is named. -/
inductive PropertyName where
  | letter (c : Char)
  | named (name : List Char)
  | valued (name : List Char) (equal : Bool) (value : List Char)

/-- A character, with whether it was written as a byte. -/
structure Letter where
  span : Span
  char : Char
  isByte : Bool := false

/-- The parts of a pattern that stand for one position or one character. -/
inductive Atom where
  | letter (l : Letter)
  | dot (span : Span)
  | assertion (span : Span) (kind : AssertionKind)
  | property (span : Span) (negated : Bool) (name : PropertyName)
  | letterClass (span : Span) (negated : Bool) (kind : LetterClass)

def Atom.span : Atom → Span
  | .letter l => l.span
  | .dot s | .assertion s _ | .property s _ _ | .letterClass s _ _ => s

inductive SetOp where
  | intersection
  | difference
  | symmetricDifference
  deriving DecidableEq

/-- What stands between brackets. -/
inductive ClassItem where
  | letter (l : Letter)
  | range (span : Span) (low high : Letter)
  | ascii (negated : Bool) (ranges : List (Nat × Nat))
  | property (span : Span) (negated : Bool) (name : PropertyName)
  | letterClass (span : Span) (negated : Bool) (kind : LetterClass)
  | bracketed (span : Span) (negated : Bool) (body : ClassItem)
  | union (span : Span) (items : List ClassItem)
  | operation (span : Span) (op : SetOp) (left right : ClassItem)

/-- A pattern. -/
inductive Node where
  | empty
  | flags (changes : FlagChanges)
  | atom (a : Atom)
  | bracketed (span : Span) (negated : Bool) (body : ClassItem)
  | repetition (span : Span) (least : Nat) (most : Option Nat) (body : Node)
  | group (span : Span) (changes : FlagChanges) (body : Node)
  | alternation (span : Span) (branches : List Node)
  | concat (span : Span) (parts : List Node)

/-! ## Depth

Every part that holds others adds a level.  A pattern nested too deep is refused at the
first part, in reading order, that lies beyond the limit. -/

mutual

/-- The first part of a class that lies below `room` levels. -/
def ClassItem.tooDeep? (room : Nat) : ClassItem → Option Span
  | .bracketed span _ body =>
    match room with
    | 0 => some span
    | room + 1 => body.tooDeep? room
  | .union span items =>
    match room, items with
    | _, [] => none
    | 0, _ => some span
    | room + 1, items => ClassItem.listTooDeep? room items
  | .operation span _ left right =>
    match room with
    | 0 => some span
    | room + 1 => left.tooDeep? room <|> right.tooDeep? room
  | _ => none

def ClassItem.listTooDeep? (room : Nat) : List ClassItem → Option Span
  | [] => none
  | item :: rest => item.tooDeep? room <|> ClassItem.listTooDeep? room rest

end

mutual

/-- The first part of a pattern that lies below `room` levels. -/
def Node.tooDeep? (room : Nat) : Node → Option Span
  | .bracketed span _ body =>
    match room with
    | 0 => some span
    | room + 1 => body.tooDeep? room
  | .repetition span _ _ body | .group span _ body =>
    match room with
    | 0 => some span
    | room + 1 => body.tooDeep? room
  | .alternation span parts | .concat span parts =>
    match room with
    | 0 => some span
    | room + 1 => Node.listTooDeep? room parts
  | _ => none

def Node.listTooDeep? (room : Nat) : List Node → Option Span
  | [] => none
  | node :: rest => node.tooDeep? room <|> Node.listTooDeep? room rest

end

end FactScan.Pattern
