/-
# FactScan.Json.Basic — JSON documents

A document as facts, rows and results use it: numbers are integers of 64 bits, with a sign or
without, or finite doubles, and the members of an object are kept in the order of their names.
-/
import FactScan.Decimal.Binary

namespace FactScan

set_option autoImplicit false

inductive Json where
  | null
  | boolean (b : Bool)
  | integer (n : Int64)
  /-- A number without a sign that is too large for one with a sign. -/
  | large (n : UInt64) (beyond : Int64.maxValue.toInt < n.toNat)
  | float (x : Binary64) (finite : x.isFinite = true)
  | string (s : String)
  | array (items : List Json)
  | object (members : List (String × Json))

namespace Json

/-- The name of a document's kind. -/
def kind : Json → String
  | .null => "null"
  | .boolean _ => "boolean"
  | .integer _ | .large _ _ | .float _ _ => "number"
  | .string _ => "string"
  | .array _ => "array"
  | .object _ => "object"

/-- The document of an integer, if it fits 64 bits with a sign or without. -/
def ofInt? (n : Int) : Option Json :=
  if Int64.minValue.toInt ≤ n ∧ n ≤ Int64.maxValue.toInt then some (.integer (.ofInt n))
  else if fits : Int64.maxValue.toInt < n ∧ n < UInt64.size then
    some (.large (.ofNat n.toNat) (by
      have positive : 0 < Int64.maxValue.toInt := by decide
      rw [UInt64.toNat_ofNat_of_lt' (by omega)]
      omega))
  else none

/-- The document of a double; what is not finite becomes nothing. -/
def ofFloat (x : Binary64) : Json :=
  if finite : x.isFinite = true then .float x finite else .null

/-- Members with one more; a later member replaces an earlier one of its name. -/
def insertMember (name : String) (value : Json) : List (String × Json) → List (String × Json)
  | [] => [(name, value)]
  | (n, v) :: rest =>
    if name < n then (name, value) :: (n, v) :: rest
    else if name = n then (name, value) :: rest
    else (n, v) :: insertMember name value rest

/-- The object of members as they are written. -/
def ofMembers (members : List (String × Json)) : Json :=
  .object (members.foldl (fun ms (name, value) => insertMember name value ms) [])

end Json

end FactScan
