/-
# FactScan.Engine.Operators.Aggregate — operators over rows

A row that holds several values for a field contributes each of them.  `agg` evaluates its
second operand over the rows that its first one keeps.
-/
import FactScan.Engine.Operators.Arithmetic

namespace FactScan

set_option autoImplicit false

/-- Every scalar of a field over the rows, in order. -/
def column (rows : List Row) (field : String) : List Scalar :=
  rows.flatMap fun row => (row.read field).items

/-- An extreme of a column: each element takes the place of the one before if it is
`wanted` of it. -/
def extremum (wanted : Ordering) :
    Option Scalar → List Scalar → Except EvalError (Option Scalar)
  | best, [] => .ok best
  | none, s :: rest => extremum wanted (some s) rest
  | some best, s :: rest =>
    match s.compare best with
    | some o => extremum wanted (some (if o = wanted then s else best)) rest
    | none => .error (.typeMismatch best.typeName s.typeName)

/-- The total of a column added to `total`. -/
def sumFrom : Scalar → List Scalar → Except EvalError Scalar
  | total, [] => .ok total
  | total, s :: rest =>
    if s.isNumeric then
      match Arithmetic.add.apply total s with
      | .ok total => sumFrom total rest
      | .error e => .error e
    else .error (.typeMismatch "number" s.typeName)

namespace Operators

variable (evaluate : Evaluator) (site : Site) (term : Term)

/-- `(min field)` and `(max field)`: nothing if no row has a value. -/
def extreme (wanted : Ordering) : Act Value := do
  checkArity term (.exactly 1)
  let field ← fieldName term 0
  match ← Act.ofExcept (extremum wanted none (column site.rows field)) with
  | some s => return .scalar s
  | none => return .nil

/-- `(count)` and `(count field)`: the rows, or those that hold a field. -/
def count : Act Value := do
  checkArity term (.between 0 1)
  if term.arity = 0 then return .integer site.rows.length
  else
    let field ← fieldName term 0
    return .integer (site.rows.filter (·.holds field)).length

/-- `(nth index field)`: a field of one row; an index outside the rows is an error. -/
def nth : Act Value := do
  checkArity term (.exactly 2)
  let index ← resolve evaluate site term 0
  match ← single "nth" index with
  | none => Act.fail (.typeMismatch "integer" "nil")
  | some index =>
    let index ← integer index
    let field ← fieldName term 1
    match elementAt? site.rows index with
    | some row => return row.read field
    | none => Act.fail (.indexOutOfBounds index site.rows.length)

/-- `(first field)`: a field of the first row. -/
def first : Act Value := do
  checkArity term (.exactly 1)
  let field ← fieldName term 0
  match site.rows with
  | [] => return .nil
  | row :: _ => return row.read field

/-- The total of the fields at the given positions. -/
def sumFields : Scalar → List Nat → Act Scalar
  | total, [] => return total
  | total, position :: rest => do
    let field ← fieldName term position
    let total ← Act.ofExcept (sumFrom total (column site.rows field))
    sumFields total rest

/-- `(sum field ...)`: the total over all fields, from zero. -/
def sum : Act Value := do
  checkArity term (.atLeast 1)
  return .scalar (← sumFields site term (.integer 0) term.positions)

/-- The rows on which a selector is true, each laid over the fact. -/
def keptRows (selector : Term) : List Row → Act (List Row)
  | [] => return []
  | row :: rest => do
    let outer ← Act.fact
    let v ← Act.withFact (.overlay row outer) (Act.atChild 0 (evaluate site.deeper selector))
    let others ← keptRows selector rest
    return if v.isTruthy then row :: others else others

/-- `(agg selector value)`: the value over the rows kept, with an empty fact. -/
def aggregate : Act Value := do
  checkArity term (.exactly 2)
  let selector ← carriedTerm term 0
  let kept ← keptRows evaluate site selector site.rows
  Act.note (.kept kept.length site.rows.length)
  let value ← carriedTerm term 1
  Act.withFact .empty (Act.atChild 1 (evaluate ⟨kept, site.depth + 1⟩ value))

end Operators

end FactScan
