/-
# FactScan.Engine.Operand — what operators ask of their operands

An operand is resolved to a value: a nested term is evaluated one level deeper, a field is
looked up, a literal stands for itself.  Some operators want a field, a name or a term
instead, and any of them wants a certain number of operands.
-/
import FactScan.Engine.Act

namespace FactScan

set_option autoImplicit false

/-- Fail unless a term has an acceptable number of operands. -/
def checkArity (term : Term) (expected : Arity) : Act Unit :=
  if expected.admits term.arity then Act.pure ()
  else .fail (.arity term.name expected term.arity term.text)

/-- The value of the operand at a position: nothing, or a sequence. -/
def resolve (evaluate : Evaluator) (site : Site) (term : Term) (position : Nat) : Act Value := do
  match term.operand? position with
  | some (.nested t) => return (← Act.atChild position (evaluate site.deeper t)).normalized
  | some (.literal s) => return .sequence [s]
  | some (.field name) => return ((← Act.fact).read name).normalized
  | _ => Act.fail (.wrongOperand term position "value")

/-- The values of operands in order. -/
def resolveAll (evaluate : Evaluator) (site : Site) (term : Term) : List Nat → Act (List Value)
  | [] => return []
  | position :: rest => do
    let v ← resolve evaluate site term position
    return v :: (← resolveAll evaluate site term rest)

/-- The positions of a term's operands. -/
def Term.positions (term : Term) : List Nat := List.range term.arity

/-- The field at a position. -/
def fieldName (term : Term) (position : Nat) : Act String :=
  match term.operand? position with
  | some (.field name) => Act.pure name
  | _ => .fail (.wrongOperand term position "field reference")

/-- The name at a position, a bare word or a string. -/
def symbol (term : Term) (position : Nat) : Act String :=
  match term.operand? position with
  | some (.field name) => Act.pure name
  | some (.literal (.string name)) => Act.pure name
  | _ => .fail (.wrongOperand term position "symbol")

/-- The term at a position, nested or carried. -/
def carriedTerm (term : Term) (position : Nat) : Act Term :=
  match (term.operand? position).bind Operand.carried? with
  | some t => Act.pure t
  | none => .fail (.wrongOperand term position "term")

/-- The scalar of a value that has at most one. -/
def single (operator : String) (v : Value) : Act (Option Scalar) :=
  match v.items with
  | [] => Act.pure none
  | [s] => Act.pure (some s)
  | items => .fail (.cardinality operator items.length)

/-- The number of an integer. -/
def integer (s : Scalar) : Act Int64 :=
  match s.integer? with
  | some n => Act.pure n
  | none => .fail (.typeMismatch "integer" s.typeName)

/-- The element at an index that may be out of range, or negative. -/
def elementAt? {α : Type} (items : List α) (index : Int64) : Option α :=
  if index.toInt < 0 then none else items[index.toInt.toNat]?

end FactScan
