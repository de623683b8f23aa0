/-
# FactScan.Term.Basic — scalars, terms and values

A term is an operator applied to operands; an operand is a literal scalar, a field, a
nested term, or a placeholder for an operand of the term that calls a definition.  A scalar
may itself be a term carried as data.  A value is what a field holds or a term evaluates
to: nothing, one scalar, or a sequence.
-/
import FactScan.Calendar.Text
import FactScan.Pattern.Basic
import FactScan.Term.Operator

namespace FactScan

set_option autoImplicit false

mutual

/-- A single value. -/
inductive Scalar where
  | integer (n : Int64)
  | float (x : Binary64)
  | string (s : String)
  | boolean (b : Bool)
  | timestamp (t : Timestamp)
  | regex (p : Pattern)
  | term (t : Term)

inductive Operand where
  | literal (s : Scalar)
  | field (name : String)
  | nested (t : Term)
  /-- The operand at this position of the calling term. -/
  | placeholder (index : UInt64)

inductive Term where
  | mk (operator : Operator) (operands : List Operand)

end

/-- What a field holds, or a term evaluates to. -/
inductive Value where
  | nil
  | scalar (s : Scalar)
  | sequence (items : List Scalar)

instance : Inhabited Scalar := ⟨.boolean false⟩
instance : Inhabited Term := ⟨.mk (.custom "") []⟩
instance : Inhabited Operand := ⟨.field ""⟩
instance : Inhabited Value := ⟨.nil⟩

/-! ## Terms -/

namespace Term

def operator : Term → Operator
  | .mk op _ => op

def operands : Term → List Operand
  | .mk _ operands => operands

/-- The term of an operator name and operands. -/
def ofName (name : String) (operands : List Operand) : Term := .mk (.ofName name) operands

def name (t : Term) : String := t.operator.name

def arity (t : Term) : Nat := t.operands.length

def operand? (t : Term) (position : Nat) : Option Operand := t.operands[position]?

/-- `(const s)`. -/
def constantOf (s : Scalar) : Term := .mk (.builtin .const) [.literal s]

/-- The literal of a term `(const s)`. -/
def constant? : Term → Option Scalar
  | .mk (.builtin .const) [.literal s] => some s
  | _ => none

end Term

namespace Operand

/-- What an operand is, for messages. -/
def kind : Operand → String
  | .literal _ => "literal"
  | .field _ => "field reference"
  | .nested _ => "term"
  | .placeholder _ => "argument placeholder"

/-- The scalar that an operand stands for whatever the fact. -/
def constant? : Operand → Option Scalar
  | .literal s => some s
  | .nested t => t.constant?
  | _ => none

/-- The term that an operand holds, nested or carried. -/
def carried? : Operand → Option Term
  | .nested t => some t
  | .literal (.term t) => some t
  | _ => none

end Operand

/-! ## Scalars -/

namespace Scalar

/-- The name of a scalar's type. -/
def typeName : Scalar → String
  | .integer _ => "integer"
  | .float _ => "float"
  | .string _ => "string"
  | .boolean _ => "boolean"
  | .timestamp _ => "timestamp"
  | .regex _ => "regex"
  | .term _ => "term"

def isNumeric : Scalar → Bool
  | .integer _ | .float _ => true
  | _ => false

def integer? : Scalar → Option Int64
  | .integer n => some n
  | _ => none

/-- A number as a double, an integer rounded to the nearest. -/
def float? : Scalar → Option Binary64
  | .integer n => some (.ofInt n.toInt)
  | .float x => some x
  | _ => none

def string? : Scalar → Option String
  | .string s => some s
  | _ => none

def boolean? : Scalar → Option Bool
  | .boolean b => some b
  | _ => none

end Scalar

/-! ## Values -/

namespace Value

/-- The value of a history: nothing, its only scalar, or all of them. -/
def ofHistory : List Scalar → Value
  | [] => .nil
  | [s] => .scalar s
  | items => .sequence items

def boolean (b : Bool) : Value := .scalar (.boolean b)

def integer (n : Nat) : Value := .scalar (.integer (Int64.ofNat n))

def isNil : Value → Bool
  | .nil => true
  | _ => false

/-- The scalars of a value in order. -/
def items : Value → List Scalar
  | .nil => []
  | .scalar s => [s]
  | .sequence items => items

def length (v : Value) : Nat := v.items.length

/-- A lone scalar as a sequence of one. -/
def normalized : Value → Value
  | .scalar s => .sequence [s]
  | v => v

/-- A sequence of one as a lone scalar. -/
def unwrapped : Value → Value
  | .sequence [s] => .scalar s
  | v => v

/-- The scalar of a value that has exactly one. -/
def single? (v : Value) : Option Scalar :=
  match v.items with
  | [s] => some s
  | _ => none

/-- The boolean of a value that is exactly one boolean. -/
def boolean? (v : Value) : Option Bool := v.single? >>= Scalar.boolean?

/-- The name of a value's type. -/
def typeName (v : Value) : String :=
  match v with
  | .nil => "nil"
  | _ =>
    match v.items with
    | [s] => s.typeName
    | _ => "sequence"

/-- Nothing, `false` and sequences of nothing or of `false` alone are false; all else is
true. -/
def isTruthy (v : Value) : Bool :=
  match v.items with
  | [] => false
  | [.boolean b] => b
  | _ => true

@[simp] theorem items_ofHistory (xs : List Scalar) : (ofHistory xs).items = xs := by
  match xs with
  | [] | [_] | _ :: _ :: _ => rfl

@[simp] theorem items_normalized (v : Value) : v.normalized.items = v.items := by
  cases v <;> rfl

end Value

end FactScan
