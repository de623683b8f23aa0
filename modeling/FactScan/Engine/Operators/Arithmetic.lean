/-
# FactScan.Engine.Operators.Arithmetic — computing with numbers

Integers are computed exactly and refuse to overflow; a quotient of integers is cut toward
zero.  An integer beside a float becomes a float.  Strings can be added.
-/
import FactScan.Engine.Operand

namespace FactScan

set_option autoImplicit false

namespace Arithmetic

/-- The integer of 64 bits that a number is, if it fits. -/
def fit? (n : Int) : Option Int64 :=
  if Int64.minValue.toInt ≤ n ∧ n ≤ Int64.maxValue.toInt then some (.ofInt n) else none

/-- The exact result on integers. -/
def onInts (a b : Int) : Arithmetic → Int
  | .add => a + b
  | .sub => a - b
  | .mul => a * b
  | .div => a.tdiv b

def onIntegers (op : Arithmetic) (a b : Int64) : Except EvalError Scalar :=
  if op = .div ∧ b = 0 then .error .divisionByZero
  else
    match fit? (onInts a.toInt b.toInt op) with
    | some n => .ok (.integer n)
    | none => .error (.overflow op.name)

def onFloats (op : Arithmetic) (a b : Binary64) : Except EvalError Scalar :=
  match op with
  | .add => .ok (.float (a.add b))
  | .sub => .ok (.float (a.sub b))
  | .mul => .ok (.float (a.mul b))
  | .div => if b.isZero then .error .divisionByZero else .ok (.float (a.div b))

/-- Apply an operation to two scalars; the first that is no number is to blame. -/
def apply (op : Arithmetic) (a b : Scalar) : Except EvalError Scalar :=
  match a, b with
  | .integer m, .integer n => op.onIntegers m n
  | _, _ =>
    match a.float?, b.float? with
    | some x, some y => op.onFloats x y
    | _, _ =>
      match op, a, b with
      | .add, .string s, .string t => .ok (.string (s ++ t))
      | _, _, _ => .error (.typeMismatch "number" (if a.isNumeric then b else a).typeName)

/-- `(add a b)` and its kin: nothing if either side is nothing. -/
def run (op : Arithmetic) (evaluate : Evaluator) (site : Site) (term : Term) : Act Value := do
  checkArity term (.exactly 2)
  let left ← resolve evaluate site term 0
  let right ← resolve evaluate site term 1
  let a ← single op.name left
  let b ← single op.name right
  match a, b with
  | some a, some b => return .scalar (← Act.ofExcept (op.apply a b))
  | _, _ => return .nil

end Arithmetic

end FactScan
