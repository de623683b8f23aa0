/-
# FactScan.Engine.Error — why an evaluation fails

An error is a cause, wrapped once for every term it passed through on its way out.  The
terms, outermost first, are its trail.  An abort is a cause like the others, except that there
is nobody to tell: the program ends with it.
-/
import FactScan.Term.Text

namespace FactScan

set_option autoImplicit false

/-- How many operands an operator takes. -/
inductive Arity where
  | exactly (n : Nat)
  | atLeast (n : Nat)
  | between (low high : Nat)
  deriving DecidableEq, Repr

namespace Arity

def admits : Arity → Nat → Bool
  | .exactly n, count => count == n
  | .atLeast n, count => n ≤ count
  | .between low high, count => low ≤ count && count ≤ high

def text : Arity → String
  | .exactly n => "exactly " ++ toString n
  | .atLeast n => "at least " ++ toString n
  | .between low high => "between " ++ toString low ++ " and " ++ toString high

end Arity

/-- Where a term failed. -/
structure CallContext where
  depth : Nat
  operator : String
  rows : Nat
  deriving DecidableEq, Repr

def CallContext.text (c : CallContext) : String :=
  "operator " ++ c.operator ++ " at depth " ++ toString c.depth ++ " with " ++ toString c.rows
    ++ " rows"

/-- Why an evaluation fails. -/
inductive EvalError where
  | unknownOperator (operator term : String)
  | arity (operator : String) (expected : Arity) (actual : Nat) (term : String)
  | operandType (operator : String) (position : Nat) (expected found term : String)
  /-- A failure inside a term. -/
  | evaluation (term : String) (context : CallContext) (source : EvalError)
  | typeMismatch (expected found : String)
  | cardinality (operator : String) (found : Nat)
  | indexOutOfBounds (index : Int64) (length : Nat)
  | invalidPattern (pattern : String) (message : String)
  | divisionByZero
  | overflow (operation : String)
  | invalidOperatorName (name : String)
  | reservedOperator (name : String)
  | duplicateOperator (name : String)
  | readOnlyFact (field : String)
  | recursionLimit (limit : Nat)
  /-- Reported by a native operator. -/
  | host (message : String)
  /-- The end of the whole program, which nothing handles. -/
  | abort (reason : String)
  deriving DecidableEq

namespace EvalError

def message : EvalError → String
  | .unknownOperator operator term => "Unknown operator '" ++ operator ++ "' in " ++ term
  | .arity operator expected actual term =>
    "Operator " ++ operator ++ " expects " ++ expected.text ++ " operands, found "
      ++ toString actual ++ " in " ++ term
  | .operandType _ position expected found term =>
    "Operand " ++ toString position ++ " of " ++ term ++ " must be a " ++ expected
      ++ ", found " ++ found
  | .evaluation term _ source => "Error evaluating " ++ term ++ ": " ++ source.message
  | .typeMismatch expected found =>
    "Type mismatch: expected " ++ expected ++ ", found " ++ found
  | .cardinality operator found =>
    operator ++ " expects a single value, found " ++ toString found
  | .indexOutOfBounds index length =>
    "Index " ++ toString index.toInt ++ " out of bounds for length " ++ toString length
  | .invalidPattern pattern message => "Invalid regex pattern " ++ pattern ++ ": " ++ message
  | .divisionByZero => "Division by zero"
  | .overflow operation => "Arithmetic overflow in " ++ operation
  | .invalidOperatorName name =>
    "Invalid operator name '" ++ name ++ "': use lowercase letters and underscores"
  | .reservedOperator name => "Operator '" ++ name ++ "' is built in"
  | .duplicateOperator name => "Operator '" ++ name ++ "' is already defined"
  | .readOnlyFact field => "Cannot write field '" ++ field ++ "': fact is read-only"
  | .recursionLimit limit => "Maximum evaluation depth " ++ toString limit ++ " exceeded"
  | .host message => message
  | .abort reason => reason

/-- An error raised for the term of this text itself, before any of its operands was
evaluated. -/
def concerns (text : String) : EvalError → Bool
  | .unknownOperator _ term | .arity _ _ _ term | .operandType _ _ _ _ term => term == text
  | _ => false

/-- The innermost error. -/
def rootCause : EvalError → EvalError
  | .evaluation _ _ source => source.rootCause
  | e => e

/-- Whether the program ended with an error. -/
def isAbort (e : EvalError) : Bool :=
  match e.rootCause with
  | .abort _ => true
  | _ => false

/-- The terms an error passed through, outermost first. -/
def breadcrumb : EvalError → List String
  | .evaluation term _ source => term :: source.breadcrumb
  | _ => []

/-- The contexts of those terms. -/
def contexts : EvalError → List CallContext
  | .evaluation _ context source => context :: source.contexts
  | _ => []

/-- An error and the errors it wraps, outermost first. -/
def chain : EvalError → List EvalError
  | .evaluation term context source => .evaluation term context source :: source.chain
  | e => [e]

/-- The error for an operand of the wrong kind. -/
def wrongOperand (term : Term) (position : Nat) (expected : String) : EvalError :=
  .operandType term.name position expected
    (((term.operand? position).map Operand.kind).getD "nothing") term.text

/-- The error for an operator that is not available. -/
def unknown (term : Term) : EvalError := .unknownOperator term.name term.text

end EvalError

end FactScan
