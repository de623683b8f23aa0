/-
# FactScan.Fact.Document — facts, rows and values as documents

An object becomes a fact or a row: an array is the history of its field, and nothing leaves
the field out.  Only objects and arrays inside are refused.  Timestamps, patterns and terms
are written as their texts.
-/
import FactScan.Engine.Error
import FactScan.Fact.Basic
import FactScan.Json.Basic

namespace FactScan

set_option autoImplicit false

/-! ## Reading -/

/-- The scalar of a document; none for `null`.  An integer that is too large for a scalar is taken
for a double. -/
def Scalar.ofJson : Json → Except EvalError (Option Scalar)
  | .null => .ok none
  | .boolean b => .ok (some (.boolean b))
  | .integer n => .ok (some (.integer n))
  | .large n _ => .ok (some (.float (.ofInt n.toNat)))
  | .float x _ => .ok (some (.float x))
  | .string s => .ok (some (.string s))
  | j => .error (.typeMismatch "scalar" j.kind)

/-- The scalars of a list of documents. -/
def Scalar.listOfJson : List Json → Except EvalError (List Scalar)
  | [] => .ok []
  | j :: rest => do
    let s ← Scalar.ofJson j
    let others ← Scalar.listOfJson rest
    return s.toList ++ others

/-- The scalars under one name: those of an array, or the one there is. -/
def historyOfJson : Json → Except EvalError (List Scalar)
  | .array items => Scalar.listOfJson items
  | j => return (← Scalar.ofJson j).toList

/-- The members of an object. -/
def membersOf : Json → Except EvalError (List (String × Json))
  | .object members => .ok members
  | j => .error (.typeMismatch "object" j.kind)

/-- The histories of members, in order. -/
def historiesOf : List (String × Json) → Except EvalError (List (String × List Scalar))
  | [] => .ok []
  | (name, j) :: rest => do
    let items ← historyOfJson j
    let others ← historiesOf rest
    return (name, items) :: others

/-- A fact from an object. -/
def Histories.ofJson (j : Json) : Except EvalError Histories := do
  let entries ← historiesOf (← membersOf j)
  return entries.foldl
    (fun h (name, items) => items.foldl (fun h s => Histories.append name s h) h) []

/-- A row from an object. -/
def Row.ofJson (j : Json) : Except EvalError Row := do
  let entries ← historiesOf (← membersOf j)
  return entries.foldl (fun row (name, items) => row.alter name fun _ => .ofHistory items) []

/-- Rows from the items of an array. -/
def Row.listOfJson : List Json → Except EvalError (List Row)
  | [] => .ok []
  | j :: rest => do
    let row ← Row.ofJson j
    let others ← Row.listOfJson rest
    return row :: others

/-- Rows from an array. -/
def Row.rowsOfJson : Json → Except EvalError (List Row)
  | .array items => Row.listOfJson items
  | j => .error (.typeMismatch "array" j.kind)

/-- Facts from the items of an array. -/
def Histories.listOfJson : List Json → Except EvalError (List Histories)
  | [] => .ok []
  | j :: rest => do
    let fact ← Histories.ofJson j
    let others ← Histories.listOfJson rest
    return fact :: others

/-! ## Writing -/

/-- A scalar as a document; a double that is not finite becomes nothing. -/
def Scalar.toJson : Scalar → Json
  | .integer n => .integer n
  | .float x => .ofFloat x
  | .string s => .string s
  | .boolean b => .boolean b
  | s => .string s.text

/-- A value as a document. -/
def Value.toJson : Value → Json
  | .nil => .null
  | .scalar s => s.toJson
  | .sequence items => .array (items.map Scalar.toJson)

end FactScan
