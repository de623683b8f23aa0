/-
# FactScan.Pattern.Meaning — what a pattern stands for

Gives every part of a pattern its regular expression under the flags in force.  A change of
flags holds to the end of the group it stands in.  Without the flag `u` only ASCII has
classes, and a part that could match half a character is refused.
-/
import FactScan.Pattern.Parser
import FactScan.Pattern.Regex

namespace FactScan.Pattern

set_option autoImplicit false

/-- The flags that bear on meaning. -/
structure Mode where
  caseInsensitive : Bool := false
  multiLine : Bool := false
  dotMatchesNewLine : Bool := false
  crlf : Bool := false
  unicode : Bool := true

namespace Mode

def apply (m : Mode) (changes : FlagChanges) : Mode :=
  { caseInsensitive := (changes.state? .caseInsensitive).getD m.caseInsensitive
    multiLine := (changes.state? .multiLine).getD m.multiLine
    dotMatchesNewLine := (changes.state? .dotMatchesNewLine).getD m.dotMatchesNewLine
    crlf := (changes.state? .crlf).getD m.crlf
    unicode := (changes.state? .unicode).getD m.unicode }

/-- The characters of words. -/
def wordClass (m : Mode) : CharClass :=
  if m.unicode then .ranges Text.wordRanges
  else .ranges [(0x30, 0x39), (0x41, 0x5a), (0x5f, 0x5f), (0x61, 0x7a)]

/-- The characters of a class with a letter of its own. -/
def letterClass (m : Mode) : LetterClass → CharClass
  | .word => m.wordClass
  | .digit => if m.unicode then .ranges Text.digitRanges else .ranges [(0x30, 0x39)]
  | .space => if m.unicode then .ranges Text.blankRanges else .ranges [(9, 13), (0x20, 0x20)]

/-- A class closed under case if the flags ask for it. -/
def fold (m : Mode) (c : CharClass) : CharClass :=
  if m.caseInsensitive then .folded (!m.unicode) c else c

def look (m : Mode) : AssertionKind → Look
  | .lineStart => if m.multiLine then .lineStart m.crlf else .start
  | .lineEnd => if m.multiLine then .lineEnd m.crlf else .stop
  | .textStart => .start
  | .textEnd => .stop
  | .wordBoundary => .wordBoundary m.wordClass
  | .notWordBoundary => .notWordBoundary m.wordClass
  | .wordStart => .wordStart m.wordClass
  | .wordEnd => .wordEnd m.wordClass
  | .wordStartHalf => .wordStartHalf m.wordClass
  | .wordEndHalf => .wordEndHalf m.wordClass

end Mode

abbrev Meant (α : Type) := Except Fault α

def refuse {α : Type} (kind : FaultKind) (span : Span) : Meant α := .error ⟨kind, span, none⟩

/-- Without the flag `u`, a class that reaches beyond ASCII could match half a character.
Nothing a class can hold then tells two characters beyond ASCII apart. -/
def asciiOnly (m : Mode) (span : Span) (c : CharClass) : Meant CharClass :=
  if !m.unicode && c.contains '\x80' then refuse .invalidUtf8 span else .ok c

/-- A character on its own. -/
def Letter.checked (m : Mode) (l : Letter) : Meant Char :=
  if !m.unicode && l.isByte && 0x7f < l.char.toNat then refuse .invalidUtf8 l.span
  else .ok l.char

/-- A character inside a class. -/
def Letter.inClass (m : Mode) (l : Letter) : Meant Char := do
  let c ← l.checked m
  if !m.unicode && 0x7f < c.toNat then refuse .unicodeNotAllowed l.span else .ok c

/-- The names of general category and script as properties with values. -/
def propertyKind? (name : String) : Option Bool :=
  if name = "generalcategory" ∨ name = "gc" then some true
  else if name = "script" ∨ name = "sc" ∨ name = "scriptextensions" ∨ name = "scx" then
    some false
  else none

/-- The characters without an assigned meaning are those of the category of that name. -/
def namedCategory? (name : String) : Option CharClass :=
  if name = "assigned" then
    some (.complement (.ranges ((Text.category? "cn").getD [])))
  else (Text.category? name).map .ranges

/-- The characters with a property. -/
def PropertyName.meaning (span : Span) : PropertyName → Meant CharClass
  | .letter c => named (Text.looseName [c])
  | .named name => named (Text.looseName name)
  | .valued name equal value => do
    match propertyKind? (Text.looseName name) with
    | none => refuse .propertyNotFound span
    | some isCategory =>
      let value := Text.looseName value
      let found :=
        if isCategory then namedCategory? value else (Text.script? value).map CharClass.ranges
      match found with
      | some c => .ok (.negated (!equal) c)
      | none => refuse .propertyValueNotFound span
where
  named (name : String) : Meant CharClass :=
    let isProperty := name != "cf" && name != "sc" && name != "lc"
    match (if isProperty then (Text.property? name).map CharClass.ranges else none)
        <|> namedCategory? name <|> (Text.script? name).map CharClass.ranges with
    | some c => .ok c
    | none => refuse .propertyNotFound span

/-- A property as a class. -/
def propertyClass (m : Mode) (span : Span) (negated : Bool) (name : PropertyName) :
    Meant CharClass := do
  if !m.unicode then refuse .unicodeNotAllowed span
  return .negated negated (m.fold (← name.meaning span))

/-- A class with a letter of its own. -/
def letterClassOf (m : Mode) (span : Span) (negated : Bool) (kind : LetterClass) :
    Meant CharClass :=
  asciiOnly m span (.negated negated (m.letterClass kind))

mutual

/-- The set that a part of a class stands for. -/
def ClassItem.meaning (m : Mode) : ClassItem → Meant CharClass
  | .letter l => return .single (← l.inClass m)
  | .range _ low high => do
    let a ← low.inClass m
    let b ← high.inClass m
    return .ranges [(a.toNat, b.toNat)]
  | .ascii negated ranges =>
    return .negated negated (.ranges ranges)
  | .property span negated name => propertyClass m span negated name
  | .letterClass span negated kind => letterClassOf m span negated kind
  | .bracketed span negated body => do
    asciiOnly m span (.negated negated (m.fold (← body.meaning m)))
  | .union _ items => ClassItem.unionMeaning m items
  | .operation _ op left right => do
    let a := m.fold (← left.meaning m)
    let b := m.fold (← right.meaning m)
    return match op with
      | .intersection => .inter a b
      | .difference => .diff a b
      | .symmetricDifference => .symmDiff a b

def ClassItem.unionMeaning (m : Mode) : List ClassItem → Meant CharClass
  | [] => return .none
  | item :: rest => do
    let a ← item.meaning m
    let b ← ClassItem.unionMeaning m rest
    return .union a b

end

/-- The expression of a part for one position or one character. -/
def Atom.meaning (m : Mode) : Atom → Meant Regex
  | .letter l => return .oneOf (m.fold (.single (← l.checked m)))
  | .dot span => do
    if !m.unicode then refuse .invalidUtf8 span
    let excluded : CharClass :=
      if m.dotMatchesNewLine then .none
      else if m.crlf then .ranges [(0x0a, 0x0a), (0x0d, 0x0d)]
      else .ranges [(0x0a, 0x0a)]
    return .oneOf (.complement excluded)
  | .assertion _ kind => return .look (m.look kind)
  | .property span negated name => return .oneOf (← propertyClass m span negated name)
  | .letterClass span negated kind => return .oneOf (← letterClassOf m span negated kind)

mutual

/-- The expression of a pattern, and the flags in force after it. -/
def Node.meaning (m : Mode) : Node → Meant (Regex × Mode)
  | .empty => return (.empty, m)
  | .flags changes => return (.empty, m.apply changes)
  | .atom a => return (← a.meaning m, m)
  | .bracketed span negated body => do
    let c ← asciiOnly m span (.negated negated (m.fold (← body.meaning m)))
    return (.oneOf c, m)
  | .repetition _ least most body => do
    let (r, after) ← body.meaning m
    return (.loop least most r, after)
  | .group _ changes body => do
    let (r, _) ← body.meaning (m.apply changes)
    return (r, m)
  | .alternation _ branches => Node.anyMeaning m branches
  | .concat _ parts => Node.allMeaning m parts

def Node.allMeaning (m : Mode) : List Node → Meant (Regex × Mode)
  | [] => return (.empty, m)
  | node :: rest => do
    let (a, m) ← node.meaning m
    let (b, m) ← Node.allMeaning m rest
    return (.seq a b, m)

def Node.anyMeaning (m : Mode) : List Node → Meant (Regex × Mode)
  | [] => return (.oneOf .none, m)
  | node :: rest => do
    let (a, m) ← node.meaning m
    let (b, m) ← Node.anyMeaning m rest
    return (.alt a b, m)

end

end FactScan.Pattern
