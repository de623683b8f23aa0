/-
# FactScan.Term.Reader — reading terms

A term is `(name operand …)` with spacing between its parts wherever that is wanted.  The
first character of an operand settles what it is.  An operand that cannot be read ends the
operands, so that the closing parenthesis is what is missed; but a pattern that does not
compile and a nesting too deep are faults of their own.
-/
import FactScan.Term.Text
import FactScan.Text.Blank

namespace FactScan

set_option autoImplicit false

namespace Reader

/-! ## Faults -/

inductive FaultKind where
  | noTerm
  | operatorName
  | closing
  | pattern
  | nesting
  | trailing
  deriving DecidableEq

def FaultKind.message : FaultKind → String
  | .noTerm => "malformed term"
  | .operatorName => "invalid operator name"
  | .closing => "invalid closing parenthesis"
  | .pattern => "invalid regular expression"
  | .nesting => "invalid nesting depth"
  | .trailing => "unexpected trailing input"

/-- Faults that no other reading of an operand can mend. -/
def FaultKind.isFinal : FaultKind → Bool
  | .pattern | .nesting => true
  | _ => false

/-- A fault and the text from where it was found. -/
structure Fault where
  kind : FaultKind
  rest : List Char
  deriving DecidableEq

/-- Terms nested deeper than this are refused. -/
def maxNesting : Nat := 256

/-! ## Parts without nesting -/

def isWordStart (c : Char) : Bool := c.isAlpha || c = '_'

def isWordChar (c : Char) : Bool := c.isAlphanum || c = '_' || c = '.'

/-- An operator name or a field. -/
def word? : List Char → Option (String × List Char)
  | [] => none
  | c :: rest =>
    if isWordStart c then
      some (String.ofList (c :: rest.takeWhile isWordChar), rest.dropWhile isWordChar)
    else none

/-- The characters of a string after its opening quote, up to the closing one. -/
def quoted? : List Char → Option (List Char × List Char)
  | [] => none
  | '\'' :: rest => some ([], rest)
  | ['\\'] => none
  | '\\' :: c :: rest => (quoted? rest).map fun (s, rest) => (c :: s, rest)
  | c :: rest => (quoted? rest).map fun (s, rest) => (c :: s, rest)

/-- The source of a pattern after its opening slash, up to the closing one.  Pairs of a
backslash and a character are kept. -/
def slashed? : List Char → Option (List Char × List Char)
  | [] => none
  | '/' :: rest => some ([], rest)
  | ['\\'] => none
  | '\\' :: c :: rest => (slashed? rest).map fun (s, rest) => ('\\' :: c :: s, rest)
  | c :: rest => (slashed? rest).map fun (s, rest) => (c :: s, rest)

/-- A placeholder after its dollar sign. -/
def placeholder? (cs : List Char) : Option (UInt64 × List Char) := do
  let n ← Decimal.nat? (cs.takeWhile Char.isDigit)
  if n < UInt64.size then some (.ofNat n, cs.dropWhile Char.isDigit) else none

/-- The characters of numbers and timestamps. -/
def isNumeric (c : Char) : Bool :=
  c.isAlphanum || c = '-' || c = '+' || c = ':' || c = '.'

/-- The number or timestamp that a token stands for. -/
def number? (token : List Char) : Option Scalar :=
  if token.contains 'T' then (Timestamp.ofChars? token).map .timestamp
  else
    match Decimal.int64? token with
    | some n => some (.integer n)
    | none =>
      let unsigned := token.dropWhile fun c => c = '-' || c = '+'
      if token.contains '.' || token.contains 'e' || token.contains 'E'
          || unsigned = ['i', 'n', 'f'] || unsigned = ['n', 'a', 'n'] then
        (Decimal.float? token).map .float
      else none

/-- The operand of a word: the two booleans, or a field. -/
def wordOperand (name : String) : Operand :=
  if name = "true" then .literal (.boolean true)
  else if name = "false" then .literal (.boolean false)
  else .field name

/-! ## Terms -/

abbrev Result (α : Type) := Except Fault (Option (α × List Char))

/-- An operand, where `term` reads nested terms. -/
def operand (term : List Char → Except Fault (Term × List Char)) (cs : List Char) :
    Result Operand :=
  match cs with
  | [] => .ok none
  | '(' :: _ =>
    match term cs with
    | .ok (t, rest) => .ok (some (.nested t, rest))
    | .error f => if f.kind.isFinal then .error f else .ok none
  | '\'' :: rest =>
    .ok ((quoted? rest).map fun (s, rest) => (.literal (.string (String.ofList s)), rest))
  | '/' :: rest =>
    match slashed? rest with
    | none => .error ⟨.pattern, []⟩
    | some (source, rest) =>
      match Pattern.ofSource (String.ofList source) with
      | .ok p => .ok (some (.literal (.regex p), rest))
      | .error _ => .error ⟨.pattern, cs⟩
  | '$' :: rest => .ok ((placeholder? rest).map fun (i, rest) => (.placeholder i, rest))
  | c :: _ =>
    if c.isDigit || c = '-' || c = '+' then
      .ok ((number? (cs.takeWhile isNumeric)).map fun s =>
        (.literal s, cs.dropWhile isNumeric))
    else .ok ((word? cs).map fun (name, rest) => (wordOperand name, rest))

/-- Operands, at most `n` of them, with spacing before each.  Every operand takes a
character, so a text has fewer operands than characters. -/
def operands (term : List Char → Except Fault (Term × List Char)) :
    Nat → List Char → Except Fault (List Operand × List Char)
  | 0, cs => .ok ([], cs)
  | n + 1, cs => do
    match ← operand term (Text.skipSpacing cs) with
    | none => return ([], cs)
    | some (o, rest) =>
      let (os, rest) ← operands term n rest
      return (o :: os, rest)

/-- A term with `room` more levels of nesting below it. -/
def term : Nat → List Char → Except Fault (Term × List Char)
  | room, '(' :: rest =>
    match room with
    | 0 => .error ⟨.nesting, rest⟩
    | room + 1 => do
      let rest := Text.skipSpacing rest
      match word? rest with
      | none => .error ⟨.operatorName, rest⟩
      | some (name, rest) =>
        let (os, rest) ← operands (term room) rest.length rest
        match Text.skipSpacing rest with
        | ')' :: rest => return (.ofName name os, rest)
        | rest => .error ⟨.closing, rest⟩
  | _, cs => .error ⟨.noTerm, cs⟩

end Reader

/-! ## Whole texts -/

/-- Why a text is no term. -/
inductive ReadError where
  | empty
  | syntaxError (offset : Nat) (detail : String)
  deriving DecidableEq

def ReadError.message : ReadError → String
  | .empty => "Empty input"
  | .syntaxError offset detail =>
    "Syntax error at offset " ++ String.ofList (Decimal.natChars offset) ++ ": " ++ detail

/-- The term that a text is, with spacing around it. -/
def Reader.whole (cs : List Char) : Except Reader.Fault Term := do
  let (t, rest) ← Reader.term Reader.maxNesting (Text.skipSpacing cs)
  match Text.skipSpacing rest with
  | [] => return t
  | rest => .error ⟨.trailing, rest⟩

/-- Read a term; offsets of faults count bytes. -/
def Term.ofChars (cs : List Char) : Except ReadError Term :=
  if cs.all Text.isBlank then .error .empty
  else
    match Reader.whole cs with
    | .ok t => .ok t
    | .error f =>
      .error (.syntaxError (Text.byteCount cs - Text.byteCount f.rest) f.kind.message)

def Term.ofText (source : String) : Except ReadError Term := Term.ofChars source.toList

end FactScan
