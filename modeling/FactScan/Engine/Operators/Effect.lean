/-
# FactScan.Engine.Operators.Effect — memory, assignment, registration and diagnostics

Operators that leave something behind: on the term they are evaluated for, in the fact, in
the registry or in the log.
-/
import FactScan.Engine.Operand

namespace FactScan

set_option autoImplicit false

namespace Operators

variable (evaluate : Evaluator) (site : Site) (term : Term)

/-! ## Memory -/

/-- The value that a block of `prev` holds. -/
def previousOf : Option Block → Value
  | some (.previous v) => v
  | _ => .nil

/-- The scalars that a block of `unique` holds. -/
def seenOf : Option Block → List (Option Scalar)
  | some (.seen keys) => keys
  | _ => []

/-- The value remembered so far, with another put in its place. -/
def exchange (current : Value) : Act Value := do
  let before := previousOf (← Act.block)
  Act.setBlock (.previous current)
  return before

/-- `(prev x)`: the value of `x` at the call before. -/
def previous : Act Value := do
  checkArity term (.exactly 1)
  exchange (← resolve evaluate site term 0).unwrapped

/-- What `unique` remembers of a value: its scalars, or that there was none. -/
def keysOf : Value → List (Option Scalar)
  | .nil => [none]
  | v => v.items.map some

/-- Keys with one more, unless it is there already. -/
def insertKey (keys : List (Option Scalar)) (key : Option Scalar) : List (Option Scalar) :=
  if keys.contains key then keys else keys ++ [key]

/-- Whether none of the keys was seen so far; from now on they are. -/
def collect (keys : List (Option Scalar)) : Act Bool := do
  let seen := seenOf (← Act.block)
  Act.setBlock (.seen (keys.foldl insertKey seen))
  return keys.all fun key => !seen.contains key

/-- `(unique x)`: none of the values of `x` was seen at an earlier call. -/
def unique : Act Value := do
  checkArity term (.exactly 1)
  return .boolean (← collect (keysOf (← resolve evaluate site term 0)))

/-- The pattern that a block of `matches` holds, if it has the given source. -/
def patternHeld? (source : String) : Option Block → Option Pattern
  | some (.pattern p) => if p.source = source then some p else none
  | _ => none

/-- The pattern of a string, the remembered one if it has that source. -/
def patternOf (source : String) : Act Pattern := do
  match patternHeld? source (← Act.block) with
  | some p => return p
  | none =>
    match Pattern.ofSource source with
    | .ok p =>
      Act.setBlock (.pattern p)
      return p
    | .error e => Act.fail (.invalidPattern source e.message)

/-- `(matches subject pattern)`: false if either side is nothing. -/
def isMatch : Act Value := do
  checkArity term (.exactly 2)
  let subject ← resolve evaluate site term 0
  let pattern ← resolve evaluate site term 1
  let subject ← single "matches" subject
  let pattern ← single "matches" pattern
  match subject, pattern with
  | some subject, some pattern =>
    match subject with
    | .string text =>
      match pattern with
      | .regex p => return .boolean (p.isMatch text)
      | .string source => return .boolean ((← patternOf source).isMatch text)
      | other => Act.fail (.typeMismatch "regex" other.typeName)
    | other => Act.fail (.typeMismatch "string" other.typeName)
  | _, _ => return .boolean false

/-! ## Assignment -/

/-- Append scalars to a field one after the other. -/
def appendAll (field : String) : List Scalar → Act Unit
  | [] => return ()
  | s :: rest => do
    Act.append field s
    appendAll field rest

/-- `(as field x)`: append every value of `x` to a field. -/
def assign : Act Value := do
  checkArity term (.exactly 2)
  let field ← fieldName term 0
  let v ← resolve evaluate site term 1
  appendAll field v.items
  return .boolean true

/-! ## Registration -/

/-- `(defn name (body ...))`: define an operator by a term. -/
def define : Act Value := do
  checkArity term (.exactly 2)
  let name ← symbol term 0
  let body ← carriedTerm term 1
  let memory := (← Act.memory).child 1
  let d ← Act.ofExcept (Definition.make name ⟨body, memory⟩)
  Act.change (·.define d)
  return .boolean true

/-- `(undef name)`: remove an operator, if it is there. -/
def undefine : Act Value := do
  checkArity term (.exactly 1)
  let name ← symbol term 0
  Act.change fun w => (w.undefine name).map (·.1)
  return .boolean true

/-! ## Diagnostics -/

/-- The value of the operand of `traced`: of a nested term as it is, of any other operand
unwrapped. -/
def tracedValue : Act Value :=
  match term.operand? 0 with
  | some (.nested t) => Act.atChild 0 (evaluate site.deeper t)
  | _ => do return (← resolve evaluate site term 0).unwrapped

/-- `(traced x)`: the value of `x`, which is also logged. -/
def traced (level : Level) : Act Value := do
  checkArity term (.exactly 1)
  let v ← tracedValue evaluate site term
  Act.note (.traced level term v)
  return v

end Operators

end FactScan
