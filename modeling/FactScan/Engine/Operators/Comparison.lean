/-
# FactScan.Engine.Operators.Comparison — comparing values

Comparisons of sequences ask for one pair of elements, taken in order with the left side
outermost.  Nothing compares with no value; `ne` is the negation of `eq`.
-/
import FactScan.Engine.Operand

namespace FactScan

set_option autoImplicit false

namespace Comparison

/-- The orders under which a comparison holds. -/
def accepts : Comparison → Ordering → Bool
  | .eq, o => o == .eq
  | .ne, o => o != .eq
  | .lt, o => o == .lt
  | .le, o => o != .gt
  | .gt, o => o == .gt
  | .ge, o => o != .lt

/-- Whether a comparison holds between two scalars; ordering unrelated kinds is an error. -/
def holds (c : Comparison) (a b : Scalar) : Except EvalError Bool :=
  match c with
  | .eq => .ok (a.looselyEquals b)
  | .ne => .ok (!a.looselyEquals b)
  | _ =>
    match a.compare b with
    | some o => .ok (c.accepts o)
    | none => .error (.typeMismatch a.typeName b.typeName)

/-- Whether a comparison holds of one of the given pairs; the first failure counts, unless
a pair before it decides. -/
def holdsSome (c : Comparison) : List (Scalar × Scalar) → Except EvalError Bool
  | [] => .ok false
  | (a, b) :: rest =>
    match c.holds a b with
    | .ok true => .ok true
    | .ok false => c.holdsSome rest
    | .error e => .error e

/-- All pairs of an element on the left and one on the right. -/
def pairs (left right : Value) : List (Scalar × Scalar) :=
  left.items.flatMap fun a => right.items.map fun b => (a, b)

/-- Whether a comparison holds between two values. -/
def values (c : Comparison) (left right : Value) : Except EvalError Bool :=
  if left.isNil || right.isNil then .ok false
  else if c = .ne then (Comparison.eq.holdsSome (pairs left right)).map (!·)
  else c.holdsSome (pairs left right)

/-- `(eq a b)` and its kin. -/
def run (c : Comparison) (evaluate : Evaluator) (site : Site) (term : Term) : Act Value := do
  checkArity term (.exactly 2)
  let left ← resolve evaluate site term 0
  let right ← resolve evaluate site term 1
  return .boolean (← Act.ofExcept (c.values left right))

end Comparison

end FactScan
