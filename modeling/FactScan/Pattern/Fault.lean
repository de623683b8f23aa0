/-
# FactScan.Pattern.Fault — what can be wrong with a pattern

A fault is a kind, the stretch of the pattern it lies in, and for duplicates the stretch
of the first occurrence.  `Fault.report` shows the pattern with carets below those
stretches; a pattern of several lines has its lines numbered.
-/
import FactScan.Decimal.Layout

namespace FactScan.Pattern

set_option autoImplicit false

/-- A position in a pattern; lines and columns count from one. -/
structure Place where
  offset : Nat
  line : Nat
  column : Nat
  deriving DecidableEq

def Place.start : Place := ⟨0, 1, 1⟩

/-- The position after a character. -/
def Place.after (p : Place) (c : Char) : Place :=
  if c = '\n' then ⟨p.offset + 1, p.line + 1, 1⟩ else ⟨p.offset + 1, p.line, p.column + 1⟩

/-- A stretch of a pattern. -/
structure Span where
  first : Place
  last : Place
  deriving DecidableEq

def Span.at (p : Place) : Span := ⟨p, p⟩

inductive FaultKind where
  | classEscapeInvalid
  | classRangeInvalid
  | classRangeLiteral
  | classUnclosed
  | decimalEmpty
  | decimalInvalid
  | escapeHexEmpty
  | escapeHexInvalid
  | escapeHexInvalidDigit
  | escapeUnexpectedEnd
  | escapeUnrecognized
  | flagDanglingNegation
  | flagDuplicate
  | flagRepeatedNegation
  | flagUnexpectedEnd
  | flagUnrecognized
  | groupNameDuplicate
  | groupNameEmpty
  | groupNameInvalid
  | groupNameUnexpectedEnd
  | groupUnclosed
  | groupUnopened
  | nestLimitExceeded (limit : Nat)
  | repetitionCountInvalid
  | repetitionCountDecimalEmpty
  | repetitionCountUnclosed
  | repetitionMissing
  | boundaryUnclosed
  | boundaryUnrecognized
  | boundaryUnexpectedEnd
  | unicodeClassInvalid
  | backreference
  | lookAround
  | unicodeNotAllowed
  | invalidUtf8
  | propertyNotFound
  | propertyValueNotFound
  deriving DecidableEq

def FaultKind.message : FaultKind → String
  | .classEscapeInvalid => "invalid escape sequence found in character class"
  | .classRangeInvalid => "invalid character class range, the start must be <= the end"
  | .classRangeLiteral => "invalid range boundary, must be a literal"
  | .classUnclosed => "unclosed character class"
  | .decimalEmpty => "decimal literal empty"
  | .decimalInvalid => "decimal literal invalid"
  | .escapeHexEmpty => "hexadecimal literal empty"
  | .escapeHexInvalid => "hexadecimal literal is not a Unicode scalar value"
  | .escapeHexInvalidDigit => "invalid hexadecimal digit"
  | .escapeUnexpectedEnd => "incomplete escape sequence, reached end of pattern prematurely"
  | .escapeUnrecognized => "unrecognized escape sequence"
  | .flagDanglingNegation => "dangling flag negation operator"
  | .flagDuplicate => "duplicate flag"
  | .flagRepeatedNegation => "flag negation operator repeated"
  | .flagUnexpectedEnd => "expected flag but got end of regex"
  | .flagUnrecognized => "unrecognized flag"
  | .groupNameDuplicate => "duplicate capture group name"
  | .groupNameEmpty => "empty capture group name"
  | .groupNameInvalid => "invalid capture group character"
  | .groupNameUnexpectedEnd => "unclosed capture group name"
  | .groupUnclosed => "unclosed group"
  | .groupUnopened => "unopened group"
  | .nestLimitExceeded limit =>
    "exceed the maximum number of nested parentheses/brackets (" ++
      String.ofList (Decimal.natChars limit) ++ ")"
  | .repetitionCountInvalid =>
    "invalid repetition count range, the start must be <= the end"
  | .repetitionCountDecimalEmpty => "repetition quantifier expects a valid decimal"
  | .repetitionCountUnclosed => "unclosed counted repetition"
  | .repetitionMissing => "repetition operator missing expression"
  | .boundaryUnclosed =>
    "special word boundary assertion is either unclosed or contains an invalid character"
  | .boundaryUnrecognized =>
    "unrecognized special word boundary assertion, valid choices are: start, end, "
      ++ "start-half or end-half"
  | .boundaryUnexpectedEnd =>
    "found either the beginning of a special word boundary or a bounded repetition on a "
      ++ "\\b with an opening brace, but no closing brace"
  | .unicodeClassInvalid => "invalid Unicode character class"
  | .backreference => "backreferences are not supported"
  | .lookAround => "look-around, including look-ahead and look-behind, is not supported"
  | .unicodeNotAllowed => "Unicode not allowed here"
  | .invalidUtf8 => "pattern can match invalid UTF-8"
  | .propertyNotFound => "Unicode property not found"
  | .propertyValueNotFound => "Unicode property value not found"

structure Fault where
  kind : FaultKind
  span : Span
  /-- The first occurrence of what is a duplicate. -/
  earlier : Option Span := none
  deriving DecidableEq

namespace Fault

/-- The lines of a pattern; a line break at the very end begins no further line. -/
def lines (cs : List Char) : List (List Char) :=
  let parts := pieces cs
  if parts.getLast? = some [] then parts.dropLast else parts
where
  /-- Stretches between line feeds; a carriage return before a line feed is dropped. -/
  pieces : List Char → List (List Char)
    | [] => [[]]
    | '\n' :: rest => [] :: pieces rest
    | '\r' :: '\n' :: rest => [] :: pieces rest
    | c :: rest =>
      match pieces rest with
      | p :: ps => (c :: p) :: ps
      | [] => [[c]]

/-- Carets below the spans of a line, each at least one wide. -/
def carets : Nat → List Span → List Char
  | _, [] => []
  | column, s :: rest =>
    let gap := s.first.column - 1 - column
    let width := max 1 (s.last.column - s.first.column)
    List.replicate gap ' ' ++ List.replicate width '^' ++ carets (column + gap + width) rest

/-- The spans of a fault in order. -/
def spans (f : Fault) : List Span :=
  match f.earlier with
  | none => [f.span]
  | some o =>
    if o.first.offset < f.span.first.offset
        ∨ (o.first.offset = f.span.first.offset ∧ o.last.offset ≤ f.span.last.offset) then
      [o, f.span]
    else [f.span, o]

/-- The lines of the pattern, each with its carets. -/
def notated (f : Fault) (pattern : List Char) : List Char :=
  let shown := lines pattern
  let count := if pattern.getLast? = some '\n' then shown.length + 1 else shown.length
  let width := if count ≤ 1 then 0 else (Decimal.natChars count).length
  let padding := if width = 0 then 4 else width + 2
  (shown.zipIdx 1).flatMap fun (line, number) =>
    let label :=
      if width = 0 then List.replicate 4 ' '
      else
        let digits := Decimal.natChars number
        List.replicate (width - digits.length) ' ' ++ digits ++ [':', ' ']
    let here := f.spans.filter fun s => s.first.line = number && s.last.line = number
    let notes :=
      if here.isEmpty then [] else List.replicate padding ' ' ++ carets 0 here ++ ['\n']
    label ++ line ++ '\n' :: notes

/-- Where a span of several lines begins and ends. -/
def lineNote (s : Span) : String :=
  let text (n : Nat) := String.ofList (Decimal.natChars n)
  "on line " ++ text s.first.line ++ " (column " ++ text s.first.column ++ ") through line " ++
    text s.last.line ++ " (column " ++ text (s.last.column - 1) ++ ")"

/-- The report of a fault. -/
def report (f : Fault) (pattern : List Char) : String :=
  let notes := String.ofList (f.notated pattern)
  let head := "regex parse error:\n"
  let tail := "error: " ++ f.kind.message
  if pattern.contains '\n' then
    let divider := String.ofList (List.replicate 79 '~') ++ "\n"
    let several := f.spans.filter fun s => s.first.line != s.last.line
    let lineNotes :=
      if several.isEmpty then "" else "\n".intercalate (several.map lineNote) ++ "\n"
    head ++ divider ++ notes ++ divider ++ lineNotes ++ tail
  else head ++ notes ++ tail

end Fault

end FactScan.Pattern
