/-
# FactScan.Fact.Basic — facts and rows

A fact is asked for the values of fields and told to append to them; a field's history only
ever grows.  Facts in memory keep histories, rows keep values, and either keeps its fields
in the order of their first appearance.  A row may be laid over another fact for reading.
-/
import FactScan.Term.Equality

namespace FactScan

set_option autoImplicit false

/-! ## Fields in order -/

/-- Entries under names, in the order the names came up. -/
abbrev Fields (α : Type) := List (String × α)

namespace Fields

variable {α : Type}

def get? (name : String) : Fields α → Option α
  | [] => none
  | (n, a) :: rest => if n = name then some a else get? name rest

/-- Replace the entry of a name; a new name goes to the end. -/
def alter (name : String) (f : Option α → α) : Fields α → Fields α
  | [] => [(name, f none)]
  | (n, a) :: rest =>
    if n = name then (n, f (some a)) :: rest else (n, a) :: alter name f rest

theorem get?_alter_self (name : String) (f : Option α → α) (fields : Fields α) :
    get? name (alter name f fields) = some (f (get? name fields)) := by
  induction fields with
  | nil => simp [alter, get?]
  | cons e rest ih =>
    obtain ⟨n, a⟩ := e
    by_cases h : n = name
    · simp [alter, get?, h]
    · simp [alter, get?, h, ih]

theorem get?_alter_ne {name other : String} (h : other ≠ name) (f : Option α → α)
    (fields : Fields α) : get? other (alter name f fields) = get? other fields := by
  induction fields with
  | nil => simp [alter, get?, Ne.symm h]
  | cons e rest ih =>
    obtain ⟨n, a⟩ := e
    by_cases hn : n = name
    · subst hn
      simp [alter, get?, Ne.symm h]
    · by_cases ho : n = other
      · subst ho
        simp [alter, get?, hn]
      · simp [alter, get?, hn, ho, ih]

end Fields

/-! ## Rows -/

/-- One row: a value under each of its fields. -/
abbrev Row := Fields Value

namespace Row

def read (row : Row) (field : String) : Value := (row.get? field).getD .nil

/-- Whether a field holds anything. -/
def holds (row : Row) (field : String) : Bool := !(row.read field).isNil

/-- Grow the value of a field by a scalar. -/
def append (field : String) (s : Scalar) (row : Row) : Row :=
  row.alter field fun v => .ofHistory ((v.getD .nil).items ++ [s])

end Row

/-! ## Histories -/

/-- A fact in memory: the scalars appended to each field, oldest first. -/
abbrev Histories := Fields (List Scalar)

namespace Histories

def history (h : Histories) (field : String) : List Scalar := (h.get? field).getD []

def read (h : Histories) (field : String) : Value := .ofHistory (h.history field)

def append (field : String) (s : Scalar) (h : Histories) : Histories :=
  h.alter field fun items => items.getD [] ++ [s]

/-- The fact as a row. -/
def toRow (h : Histories) : Row := h.map fun (name, items) => (name, .ofHistory items)

end Histories

/-! ## Facts -/

inductive Fact where
  | memory (fields : Histories)
  | row (fields : Row)
  /-- No fields at all. -/
  | empty
  /-- A row over another fact, which it hides where it holds something. -/
  | overlay (row : Row) (outer : Fact)

namespace Fact

def read : Fact → String → Value
  | .memory h, field => h.read field
  | .row r, field => r.read field
  | .empty, _ => .nil
  | .overlay r outer, field => if r.holds field then r.read field else outer.read field

/-- Whether a field holds anything. -/
def holds : Fact → String → Bool
  | .memory h, field => !(h.history field).isEmpty
  | .row r, field => r.holds field
  | .empty, _ => false
  | .overlay r outer, field => r.holds field || outer.holds field

/-- Append to a field; nothing if the fact is only for reading. -/
def append? (field : String) (s : Scalar) : Fact → Option Fact
  | .memory h => some (.memory (h.append field s))
  | .row r => some (.row (r.append field s))
  | .empty | .overlay .. => none

end Fact

end FactScan
