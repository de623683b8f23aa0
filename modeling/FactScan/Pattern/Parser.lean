/-
# FactScan.Pattern.Parser — reading patterns

A pattern is read from left to right.  Under the flag `x` blanks and comments between its
parts are passed over.  Every step of a loop takes at least one character, so the number of
characters left bounds the steps; the bound is the first argument of the readers that call
each other.
-/
import FactScan.Pattern.Syntax
import FactScan.Decimal.Reader
import FactScan.Text.Blank
import FactScan.Text.Named

namespace FactScan.Pattern

set_option autoImplicit false

/-- How far reading has come. -/
structure Reading where
  rest : List Char
  place : Place := .start
  /-- Whether blanks and comments are passed over. -/
  verbose : Bool := false
  /-- Names of groups with their places. -/
  names : List (List Char × Span) := []

namespace Reading

/-- Move on by `n` characters. -/
def skip : Nat → Reading → Reading
  | 0, r => r
  | n + 1, r =>
    match r.rest with
    | [] => r
    | c :: rest => skip n { r with rest := rest, place := r.place.after c }

/-- How many characters of blanks and comments a text begins with. -/
def ignored : Bool → List Char → Nat
  | _, [] => 0
  | true, c :: rest => 1 + ignored (c != '\n') rest
  | false, c :: rest =>
    if Text.isBlank c then 1 + ignored false rest
    else if c = '#' then 1 + ignored true rest
    else 0

def skipIgnored (r : Reading) : Reading :=
  if r.verbose then r.skip (ignored false r.rest) else r

end Reading

abbrev Reader := StateT Reading (Except Fault)

namespace Reader

def fault {α : Type} (kind : FaultKind) (span : Span) : Reader α := throw ⟨kind, span, none⟩

def place : Reader Place := return (← get).place

def peek? : Reader (Option Char) := return (← get).rest.head?

/-- The stretch of the next character. -/
def charSpan : Reader Span := do
  let r ← get
  return ⟨r.place, (r.skip 1).place⟩

def spanFrom (start : Place) : Reader Span := return ⟨start, ← place⟩

def bumpSpace : Reader Unit := modify (·.skipIgnored)

/-- Take a character; whether there is another one. -/
def bump : Reader Bool := do
  modify (·.skip 1)
  return !(← get).rest.isEmpty

/-- Take a character and what may be passed over; whether there is another character. -/
def bumpAndSpace : Reader Bool := do
  if ← bump then
    bumpSpace
    return !(← get).rest.isEmpty
  else return false

/-- Take `text` if it comes next. -/
def bumpIf (text : List Char) : Reader Bool := do
  if text.isPrefixOf (← get).rest then
    modify (·.skip text.length)
    return true
  else return false

/-- Take the first of several texts that comes next. -/
def bumpAny : List (List Char) → Reader Bool
  | [] => return false
  | text :: others => do
    if ← bumpIf text then return true
    else bumpAny others

/-- The character after the next one. -/
def second? : Reader (Option Char) := return ((← get).rest.drop 1).head?

/-- The character after the next one and what may be passed over. -/
def secondSpaced? : Reader (Option Char) := do
  let r ← get
  if r.verbose then
    let rest := (r.rest.drop 1).dropWhile Text.isBlank
    let past :=
      match rest with
      | '#' :: more => more.dropWhile Text.isBlank
      | _ => rest
    return if past.isEmpty then (r.rest.drop 1).head? else past.head?
  else return (r.rest.drop 1).head?

/-! ## Numbers -/

/-- Take characters that satisfy `p`, each with what may be passed over after it. -/
def takeSpaced (p : Char → Bool) : Nat → List Char → Reader (List Char)
  | 0, taken => return taken.reverse
  | n + 1, taken => do
    match ← peek? with
    | some c =>
      if p c then
        let _ ← bumpAndSpace
        takeSpaced p n (c :: taken)
      else return taken.reverse
    | none => return taken.reverse

/-- As many rounds as there are characters left. -/
def budget : Reader Nat := return (← get).rest.length

/-- A decimal number below `2 ^ 32`, blanks around it allowed.  Without a digit the fault
is given back and not raised. -/
def decimal : Reader (Except Fault Nat) := do
  modify fun r => r.skip (r.rest.takeWhile Text.isBlank).length
  let start ← place
  let digits ← takeSpaced Char.isDigit (← budget) []
  let span ← spanFrom start
  let _ ← takeSpaced Text.isBlank (← budget) []
  match Decimal.unsigned? 32 digits with
  | some n => return .ok n
  | none =>
    if digits.isEmpty then return .error ⟨.repetitionCountDecimalEmpty, span, none⟩
    else return .error ⟨.decimalInvalid, span, none⟩

def settle {α : Type} : Except Fault α → Reader α
  | .ok a => return a
  | .error e => throw e

/-! ## Escapes -/

def isHex (c : Char) : Bool := (Text.hexDigit? c).isSome

/-- The character of a code point given by its digits. -/
def scalar? (digits : List Char) : Option Char :=
  let n := Text.hexValue digits
  if h : n.isValidChar then some (Char.ofNatAux n h) else none

/-- `width` hexadecimal digits. -/
def hexFixed (width : Nat) : Reader (List Char) := do
  let rec go : Nat → List Char → Reader (List Char)
    | 0, taken => return taken.reverse
    | n + 1, taken => do
      if !taken.isEmpty then
        if !(← bumpAndSpace) then
          fault .escapeUnexpectedEnd (.at (← place))
      match ← peek? with
      | some c =>
        if isHex c then go n (c :: taken) else fault .escapeHexInvalidDigit (← charSpan)
      | none => fault .escapeUnexpectedEnd (.at (← place))
  go width []

/-- Hexadecimal digits up to a closing brace, from the opening one. -/
def hexBraced : Nat → List Char → Reader (List Char)
  | 0, taken => return taken.reverse
  | n + 1, taken => do
    if ← bumpAndSpace then
      match ← peek? with
      | some '\x7d' => return taken.reverse
      | some c =>
        if isHex c then hexBraced n (c :: taken)
        else fault .escapeHexInvalidDigit (← charSpan)
      | none => return taken.reverse
    else return taken.reverse

/-- A character by its code point, from the letter that gives the number of digits. -/
def hexLetter (start : Place) (kind : Char) : Reader Atom := do
  let width := if kind = 'x' then 2 else if kind = 'u' then 4 else 8
  if !(← bumpAndSpace) then
    fault .escapeUnexpectedEnd (.at (← place))
  if (← peek?) = some '\x7b' then
    let brace ← place
    let first := (← charSpan).last
    let digits ← hexBraced (← budget) []
    if (← get).rest.isEmpty then
      fault .escapeUnexpectedEnd (← spanFrom brace)
    let last ← place
    let _ ← bumpAndSpace
    if digits.isEmpty then
      fault .escapeHexEmpty (← spanFrom brace)
    match scalar? digits with
    | some c => return .letter { span := ⟨start, last⟩, char := c }
    | none => fault .escapeHexInvalid ⟨first, last⟩
  else
    let first ← place
    let digits ← hexFixed width
    let _ ← bumpAndSpace
    let last ← place
    match scalar? digits with
    | some c => return .letter { span := ⟨start, last⟩, char := c, isByte := kind = 'x' }
    | none => fault .escapeHexInvalid ⟨first, last⟩

/-- The characters up to a closing brace. -/
def braced : Nat → List Char → Reader (List Char)
  | 0, taken => return taken.reverse
  | n + 1, taken => do
    if ← bumpAndSpace then
      match ← peek? with
      | some '\x7d' => return taken.reverse
      | some c => braced n (c :: taken)
      | none => return taken.reverse
    else return taken.reverse

/-- The parts of a text before and after the first occurrence of `mark`. -/
def splitAt? (mark : List Char) : List Char → Option (List Char × List Char)
  | [] => none
  | c :: rest =>
    if mark.isPrefixOf (c :: rest) then some ([], (c :: rest).drop mark.length)
    else (splitAt? mark rest).map fun (before, after) => (c :: before, after)

/-- What a property in braces names. -/
def propertyName (name : List Char) : PropertyName :=
  match splitAt? ['!', '='] name with
  | some (n, v) => .valued n false v
  | none =>
    match splitAt? [':'] name with
    | some (n, v) => .valued n true v
    | none =>
      match splitAt? ['='] name with
      | some (n, v) => .valued n true v
      | none => .named name

/-- A property, from the letter `p` or `P`. -/
def property (start : Place) (negated : Bool) : Reader Atom := do
  if !(← bumpAndSpace) then
    fault .escapeUnexpectedEnd (.at (← place))
  match ← peek? with
  | some '\x7b' =>
    let name ← braced (← budget) []
    if (← get).rest.isEmpty then
      fault .escapeUnexpectedEnd (.at (← place))
    let _ ← bump
    return .property (← spanFrom start) negated (propertyName name)
  | some '\\' => fault .unicodeClassInvalid (← charSpan)
  | some c =>
    let _ ← bumpAndSpace
    return .property (← spanFrom start) negated (.letter c)
  | none => fault .escapeUnexpectedEnd (.at (← place))

/-- The characters with a meaning of their own. -/
def isMeta (c : Char) : Bool := "\\.+*?()|[]\x7b\x7d^$#&-~".toList.contains c

/-- The characters that a backslash leaves as they are. -/
def isEscapeable (c : Char) : Bool :=
  isMeta c || (c.toNat < 128 && !c.isAlphanum && c != '<' && c != '>')

/-- The kind of boundary named in braces after `\b`; nothing if the brace begins a count. -/
def boundaryKind? (start : Place) : Reader (Option AssertionKind) := do
  let isNameChar (c : Char) : Bool := c.isAlpha || c = '-'
  let before ← get
  if !(← bumpAndSpace) then
    fault .boundaryUnexpectedEnd (← spanFrom start)
  let contents ← place
  if ((← peek?).any isNameChar) = false then
    set before
    return none
  let name ← takeSpaced isNameChar (← budget) []
  if (← peek?) != some '\x7d' then
    fault .boundaryUnclosed (← spanFrom before.place)
  let last ← place
  let _ ← bump
  match String.ofList name with
  | "start" => return some .wordStart
  | "end" => return some .wordEnd
  | "start-half" => return some .wordStartHalf
  | "end-half" => return some .wordEndHalf
  | _ => fault .boundaryUnrecognized ⟨contents, last⟩

/-- What follows a backslash. -/
def escape : Reader Atom := do
  let start ← place
  let _ ← bump
  match ← peek? with
  | none => fault .escapeUnexpectedEnd (← spanFrom start)
  | some c =>
    if c.isDigit then fault .backreference ⟨start, (← charSpan).last⟩
    match c with
    | 'x' | 'u' | 'U' => hexLetter start c
    | 'p' => property start false
    | 'P' => property start true
    | 'd' | 's' | 'w' | 'D' | 'S' | 'W' =>
      let _ ← bump
      let kind : LetterClass :=
        if c.toLower = 'd' then .digit else if c.toLower = 's' then .space else .word
      return .letterClass (← spanFrom start) c.isUpper kind
    | _ =>
      let _ ← bump
      let span ← spanFrom start
      if isEscapeable c then return .letter { span := span, char := c }
      match c with
      | 'a' => return .letter { span := span, char := '\x07' }
      | 'f' => return .letter { span := span, char := '\x0c' }
      | 't' => return .letter { span := span, char := '\t' }
      | 'n' => return .letter { span := span, char := '\n' }
      | 'r' => return .letter { span := span, char := '\r' }
      | 'v' => return .letter { span := span, char := '\x0b' }
      | 'A' => return .assertion span .textStart
      | 'z' => return .assertion span .textEnd
      | 'B' => return .assertion span .notWordBoundary
      | '<' => return .assertion span .wordStart
      | '>' => return .assertion span .wordEnd
      | 'b' =>
        if (← peek?) = some '\x7b' then
          match ← boundaryKind? start with
          | some kind => return .assertion (← spanFrom start) kind
          | none => return .assertion span .wordBoundary
        else return .assertion span .wordBoundary
      | _ => fault .escapeUnrecognized span

/-! ## Classes -/

/-- The ranges of a class named between `[:` and `:]`. -/
def asciiClass? : String → Option (List (Nat × Nat))
  | "alnum" => some [(0x30, 0x39), (0x41, 0x5a), (0x61, 0x7a)]
  | "alpha" => some [(0x41, 0x5a), (0x61, 0x7a)]
  | "ascii" => some [(0, 0x7f)]
  | "blank" => some [(9, 9), (0x20, 0x20)]
  | "cntrl" => some [(0, 0x1f), (0x7f, 0x7f)]
  | "digit" => some [(0x30, 0x39)]
  | "graph" => some [(0x21, 0x7e)]
  | "lower" => some [(0x61, 0x7a)]
  | "print" => some [(0x20, 0x7e)]
  | "punct" => some [(0x21, 0x2f), (0x3a, 0x40), (0x5b, 0x60), (0x7b, 0x7e)]
  | "space" => some [(9, 13), (0x20, 0x20)]
  | "upper" => some [(0x41, 0x5a)]
  | "word" => some [(0x30, 0x39), (0x41, 0x5a), (0x5f, 0x5f), (0x61, 0x7a)]
  | "xdigit" => some [(0x30, 0x39), (0x41, 0x46), (0x61, 0x66)]
  | _ => none

/-- A class such as `[:alpha:]`, from its opening bracket; anything else is left alone. -/
def namedClass? : Reader (Option ClassItem) := do
  let r ← get
  match r.rest with
  | '[' :: ':' :: rest =>
    let (negated, rest) :=
      match rest with
      | '^' :: more => (true, more)
      | _ => (false, rest)
    let name := rest.takeWhile (· != ':')
    match rest.drop name.length, asciiClass? (String.ofList name) with
    | ':' :: ']' :: _, some ranges =>
      set (r.skip (name.length + (if negated then 5 else 4)))
      return some (.ascii negated ranges)
    | _, _ => return none
  | _ => return none

/-- One side of a range, or a part of a class on its own. -/
def classAtom : Reader Atom := do
  match ← peek? with
  | some '\\' => escape
  | some c =>
    let span ← charSpan
    let _ ← bump
    return .letter { span := span, char := c }
  | none => fault .classUnclosed (.at (← place))

def Atom.classItem : Atom → Reader ClassItem
  | .letter l => return .letter l
  | .property span negated name => return .property span negated name
  | .letterClass span negated kind => return .letterClass span negated kind
  | a => fault .classEscapeInvalid a.span

def Atom.rangeEnd : Atom → Reader Letter
  | .letter l => return l
  | a => fault .classRangeLiteral a.span

/-- A part of a class, or a range; `opened` is the opening of the class around it. -/
def classRange (opened : Span) : Reader ClassItem := do
  let first ← classAtom
  bumpSpace
  match ← peek? with
  | none => fault .classUnclosed opened
  | some c =>
    let next ← secondSpaced?
    if c != '-' || next = some ']' || next = some '-' then
      Atom.classItem first
    else
      if !(← bumpAndSpace) then fault .classUnclosed opened
      let last ← classAtom
      let span : Span := ⟨first.span.first, last.span.last⟩
      let low ← Atom.rangeEnd first
      let high ← Atom.rangeEnd last
      if high.char < low.char then fault .classRangeInvalid span
      return .range span low high

/-- The opening of a class: whether it is negated, and the characters that are literal only
here, with the stretch read. -/
def classOpen : Reader (Span × Bool × Place × List ClassItem) := do
  let start ← place
  if !(← bumpAndSpace) then fault .classUnclosed (← spanFrom start)
  let negated := (← peek?) = some '^'
  if negated then
    if !(← bumpAndSpace) then fault .classUnclosed (← spanFrom start)
  let first ← place
  let rec hyphens : Nat → List ClassItem → Reader (List ClassItem)
    | 0, items => return items
    | n + 1, items => do
      if (← peek?) = some '-' then
        let item : ClassItem := .letter { span := ← charSpan, char := '-' }
        if !(← bumpAndSpace) then fault .classUnclosed (.at start)
        hyphens n (item :: items)
      else return items
  let mut items ← hyphens (← budget) []
  if items.isEmpty && (← peek?) = some ']' then
    items := [.letter { span := ← charSpan, char := ']' }]
    if !(← bumpAndSpace) then fault .classUnclosed (← spanFrom start)
  return (← spanFrom start, negated, first, items)

/-- What has been read of a class: parts in reverse order, and an operation whose right side
they belong to. -/
structure ClassSoFar where
  first : Place
  items : List ClassItem
  pending : Option (SetOp × ClassItem × Place)

/-- The parts read as one. -/
def ClassSoFar.item (c : ClassSoFar) (last : Place) : ClassItem :=
  match c.items with
  | [one] => one
  | items => .union ⟨c.first, last⟩ items.reverse

/-- All that was read, with a pending operation applied. -/
def ClassSoFar.whole (c : ClassSoFar) (last : Place) : ClassItem :=
  match c.pending with
  | none => c.item last
  | some (op, left, start) => .operation ⟨start, last⟩ op left (c.item last)

/-- A class from its opening bracket to the closing one. -/
def bracketed : Nat → Reader (Span × Bool × ClassItem)
  | 0 => do fault .classUnclosed (.at (← place))
  | n + 1 => do
    let (opened, negated, first, items) ← classOpen
    let rec go : Nat → ClassSoFar → Reader ClassItem
      | 0, _ => fault .classUnclosed opened
      | m + 1, c => do
        bumpSpace
        let operation (op : SetOp) : Reader ClassItem := do
          let last ← place
          modify (·.skip 2)
          let next ← place
          go m ⟨next, [], some (op, c.whole last, opened.first)⟩
        match ← peek? with
        | none => fault .classUnclosed opened
        | some '[' =>
          match ← namedClass? with
          | some item => go m { c with items := item :: c.items }
          | none =>
            let (span, negated, body) ← bracketed n
            go m { c with items := .bracketed span negated body :: c.items }
        | some ']' =>
          let last ← place
          let _ ← bump
          return c.whole last
        | some ch =>
          if ch = '&' ∧ (← second?) = some '&' then operation .intersection
          else if ch = '-' ∧ (← second?) = some '-' then operation .difference
          else if ch = '~' ∧ (← second?) = some '~' then operation .symmetricDifference
          else
            let item ← classRange opened
            go m { c with items := item :: c.items }
    let body ← go (← budget) ⟨first, items, none⟩
    return (← spanFrom opened.first, negated, body)

/-! ## Groups -/

def flag? : Char → Option Flag
  | 'i' => some .caseInsensitive
  | 'm' => some .multiLine
  | 's' => some .dotMatchesNewLine
  | 'U' => some .swapGreed
  | 'u' => some .unicode
  | 'R' => some .crlf
  | 'x' => some .ignoreWhitespace
  | _ => none

/-- Flags up to `:` or `)`; `minus` is the place of a minus sign among them. -/
def flags :
    Nat → Option Span → Option Span → List (Flag × Bool × Span) → Reader FlagChanges
  | 0, _, _, _ => do fault .flagUnexpectedEnd (.at (← place))
  | n + 1, minus, dangling, taken => do
    let next (minus dangling : Option Span) (taken : List (Flag × Bool × Span)) := do
      if !(← bump) then fault .flagUnexpectedEnd (.at (← place))
      flags n minus dangling taken
    let span ← charSpan
    match ← peek? with
    | none => fault .flagUnexpectedEnd (.at (← place))
    | some c =>
      if c = ':' ∨ c = ')' then
        match dangling with
        | some s => fault .flagDanglingNegation s
        | none => return taken.reverse.map fun (f, on, _) => (f, on)
      else if c = '-' then
        match minus with
        | some s => throw ⟨.flagRepeatedNegation, span, some s⟩
        | none => next (some span) (some span) taken
      else
        match flag? c with
        | none => fault .flagUnrecognized span
        | some f =>
          match taken.find? (·.1 = f) with
          | some (_, _, s) => throw ⟨.flagDuplicate, span, some s⟩
          | none => next minus none ((f, minus.isNone, span) :: taken)

/-- The name of a group up to `>`. -/
def groupName : Reader Unit := do
  let r ← get
  if r.rest.isEmpty then fault .groupNameUnexpectedEnd (.at r.place)
  let name := r.rest.takeWhile (· != '>')
  let isNameChar : Nat → Char → Bool := fun i c =>
    if i = 0 then c = '_' || Text.isAlphabetic c
    else c = '_' || c = '.' || c = '[' || c = ']' || Text.isAlphanumeric c
  match (name.zipIdx.find? fun (c, i) => !isNameChar i c) with
  | some (_, i) =>
    modify (·.skip i)
    fault .groupNameInvalid (← charSpan)
  | none =>
    modify (·.skip name.length)
    let last ← place
    if (← get).rest.isEmpty then fault .groupNameUnexpectedEnd (.at last)
    let _ ← bump
    if name.isEmpty then fault .groupNameEmpty (.at r.place)
    let span : Span := ⟨r.place, last⟩
    match r.names.find? (·.1 = name) with
    | some (_, s) => throw ⟨.groupNameDuplicate, span, some s⟩
    | none => modify fun s => { s with names := (name, span) :: s.names }

/-- The opening of a group. -/
inductive Opening where
  | flags (changes : FlagChanges)
  | group (span : Span) (changes : FlagChanges)

/-- The opening of a group from its parenthesis on. -/
def groupOpen : Reader Opening := do
  let opened ← charSpan
  let _ ← bump
  bumpSpace
  if ← bumpAny [['?', '='], ['?', '!'], ['?', '<', '='], ['?', '<', '!']] then
    fault .lookAround (← spanFrom opened.first)
  let inner ← place
  if ← bumpAny [['?', 'P', '<'], ['?', '<']] then
    groupName
    return .group opened []
  else if ← bumpIf ['?'] then
    if (← get).rest.isEmpty then fault .groupUnclosed opened
    let changes ← flags ((← budget) + 1) none none []
    let closing ← peek?
    let _ ← bump
    if closing = some ')' then
      if changes.isEmpty then fault .repetitionMissing (.at inner)
      return .flags changes
    else return .group opened changes
  else return .group opened []

/-! ## Repetitions -/

/-- The part that a repetition applies to, which is the last one read. -/
def repeated (parts : List Node) : Reader (Node × List Node) := do
  match parts with
  | [] | .empty :: _ | .flags _ :: _ => fault .repetitionMissing (.at (← place))
  | node :: rest => return (node, rest)

/-- A question mark after a repetition. -/
def lazyMark (more : Bool) : Reader Unit := do
  if more && (← peek?) = some '?' then
    let _ ← bump

/-- The bounds of a counted repetition, from its opening brace. -/
def counted : Reader (Nat × Option Nat) := do
  let start ← place
  let unclosed : Reader Unit := do fault .repetitionCountUnclosed (← spanFrom start)
  if !(← bumpAndSpace) then unclosed
  let least ← decimal
  if (← get).rest.isEmpty then unclosed
  let bounds : Nat × Option Nat ←
    if (← peek?) = some ',' then do
      if !(← bumpAndSpace) then unclosed
      if (← peek?) != some '\x7d' then
        let low ← settle least
        let high ← settle (← decimal)
        pure (low, some high)
      else
        let low ← settle least
        pure (low, none)
    else do
      let n ← settle least
      pure (n, some n)
  if (← peek?) != some '\x7d' then unclosed
  lazyMark (← bumpAndSpace)
  if bounds.2.any (· < bounds.1) then fault .repetitionCountInvalid (← spanFrom start)
  return bounds

/-! ## Expressions -/

/-- The start of a part, where it has been kept. -/
def Node.first? : Node → Option Place
  | .empty | .flags _ => none
  | .atom a => some a.span.first
  | .bracketed span _ _ | .repetition span _ _ _ | .group span _ _ | .alternation span _
  | .concat span _ => some span.first

/-- Parts in reverse order as one part. -/
def concatOf (span : Span) : List Node → Node
  | [] => .empty
  | [one] => one
  | parts => .concat span parts.reverse

/-- What has been read of an expression: finished branches and the parts of the current
one, both in reverse order. -/
structure BranchesSoFar where
  start : Place
  branches : List Node
  current : Place
  parts : List Node

def BranchesSoFar.push (b : BranchesSoFar) (node : Node) : BranchesSoFar :=
  { b with parts := node :: b.parts }

/-- All branches as one part. -/
def BranchesSoFar.whole (b : BranchesSoFar) (last : Place) : Node :=
  let final := concatOf ⟨b.current, last⟩ b.parts
  match b.branches with
  | [] => final
  | branches => .alternation ⟨b.start, last⟩ (final :: branches).reverse

/-- An expression up to a closing parenthesis or the end. -/
def expression : Nat → BranchesSoFar → Reader Node
  | 0, b => return b.whole (← place)
  | n + 1, b => do
    bumpSpace
    let here ← place
    let repetition (least : Nat) (most : Option Nat) (node : Node) (rest : List Node) := do
      let start := (Node.first? node).getD here
      let node : Node := .repetition (← spanFrom start) least most node
      expression n { b with parts := node :: rest }
    match ← peek? with
    | none => return b.whole here
    | some ')' => return b.whole here
    | some '|' =>
      let branch := concatOf ⟨b.current, here⟩ b.parts
      let _ ← bump
      expression n { b with branches := branch :: b.branches, current := ← place, parts := [] }
    | some '(' =>
      match ← groupOpen with
      | .flags changes =>
        modify fun r =>
          { r with verbose := (changes.state? .ignoreWhitespace).getD r.verbose }
        expression n (b.push (.flags changes))
      | .group opened changes =>
        let outside := (← get).verbose
        modify fun r => { r with verbose := (changes.state? .ignoreWhitespace).getD outside }
        let inside ← place
        let body ← expression n ⟨inside, [], inside, []⟩
        if (← get).rest.isEmpty then fault .groupUnclosed opened
        modify fun r => { r with verbose := outside }
        let _ ← bump
        expression n (b.push (.group (← spanFrom opened.first) changes body))
    | some '[' =>
      let (span, negated, body) ← bracketed (← budget)
      expression n (b.push (.bracketed span negated body))
    | some '?' =>
      let (node, rest) ← repeated b.parts
      lazyMark (← bump)
      repetition 0 (some 1) node rest
    | some '*' =>
      let (node, rest) ← repeated b.parts
      lazyMark (← bump)
      repetition 0 none node rest
    | some '+' =>
      let (node, rest) ← repeated b.parts
      lazyMark (← bump)
      repetition 1 none node rest
    | some '\x7b' =>
      let (node, rest) ← repeated b.parts
      let (least, most) ← counted
      repetition least most node rest
    | some '\\' => expression n (b.push (.atom (← escape)))
    | some c =>
      let span ← charSpan
      let _ ← bump
      let atom : Atom :=
        match c with
        | '.' => .dot span
        | '^' => .assertion span .lineStart
        | '$' => .assertion span .lineEnd
        | _ => .letter { span := span, char := c }
      expression n (b.push (.atom atom))

/-- How deep the parts of a pattern may be nested. -/
def nestLimit : Nat := 250

/-- A whole pattern. -/
def pattern : Reader Node := do
  let node ← expression ((← budget) + 1) ⟨.start, [], .start, []⟩
  if !(← get).rest.isEmpty then fault .groupUnopened (← charSpan)
  match node.tooDeep? nestLimit with
  | some span => fault (.nestLimitExceeded nestLimit) span
  | none => return node

end Reader

/-- Read a pattern. -/
def Node.ofChars (cs : List Char) : Except Fault Node :=
  (Reader.pattern.run { rest := cs }).map (·.1)

end FactScan.Pattern
