/-
# FactScan.Engine.Operators.Selection — presence, selection and logic

Operators that look at the values of their operands and change nothing themselves.  `and`
and `or` stop at the operand that decides, and `either` resolves its second operand only if
the first is nothing.
-/
import FactScan.Engine.Operand

namespace FactScan

set_option autoImplicit false

namespace Operators

variable (evaluate : Evaluator) (site : Site) (term : Term)

/-- `(exists field)`. -/
def present : Act Value := do
  checkArity term (.exactly 1)
  let field ← fieldName term 0
  return .boolean ((← Act.fact).holds field)

/-- `(absent field)`. -/
def absent : Act Value := do
  checkArity term (.exactly 1)
  let field ← fieldName term 0
  return .boolean (!(← Act.fact).holds field)

/-- `(nil x)`. -/
def isNil : Act Value := do
  checkArity term (.exactly 1)
  return .boolean (← resolve evaluate site term 0).isNil

/-- `(either a b)`. -/
def either : Act Value := do
  checkArity term (.exactly 2)
  let a ← resolve evaluate site term 0
  if a.isNil then return (← resolve evaluate site term 1).unwrapped
  else return a.unwrapped

/-- `(at index sequence)`: an index outside the sequence is an error. -/
def item : Act Value := do
  checkArity term (.exactly 2)
  let index ← resolve evaluate site term 0
  let sequence ← resolve evaluate site term 1
  match ← single "at" index with
  | none => return .nil
  | some index =>
    if sequence.isNil then return .nil
    else
      let index ← integer index
      match elementAt? sequence.items index with
      | some s => return .scalar s
      | none => Act.fail (.indexOutOfBounds index sequence.length)

/-- `(many x)`: more than one value. -/
def many : Act Value := do
  checkArity term (.exactly 1)
  return .boolean (1 < (← resolve evaluate site term 0).length)

/-- `(one x)`: exactly one value. -/
def one : Act Value := do
  checkArity term (.exactly 1)
  return .boolean ((← resolve evaluate site term 0).length = 1)

/-- `(size x)`: how many values. -/
def size : Act Value := do
  checkArity term (.exactly 1)
  return .integer (← resolve evaluate site term 0).length

/-- `(type x)`. -/
def kind : Act Value := do
  checkArity term (.exactly 1)
  return .scalar (.string (← resolve evaluate site term 0).unwrapped.typeName)

/-- `(const literal)`. -/
def const : Act Value := do
  checkArity term (.exactly 1)
  match term.operand? 0 with
  | some (.literal s) => return .scalar s
  | _ => Act.fail (.wrongOperand term 0 "literal")

/-! ## Logic -/

/-- Whether an operand at one of the positions is `wanted`, looking no further than the
first such operand. -/
def anyIs (wanted : Bool) : List Nat → Act Bool
  | [] => return false
  | position :: rest => do
    if (← resolve evaluate site term position).isTruthy = wanted then return true
    else anyIs wanted rest

/-- `(and a b ...)`. -/
def and : Act Value := do
  checkArity term (.atLeast 1)
  return .boolean (!(← anyIs evaluate site term false term.positions))

/-- `(or a b ...)`. -/
def or : Act Value := do
  checkArity term (.atLeast 1)
  return .boolean (← anyIs evaluate site term true term.positions)

/-- `(not x)`. -/
def not : Act Value := do
  checkArity term (.exactly 1)
  return .boolean (!(← resolve evaluate site term 0).isTruthy)

end Operators

end FactScan
