/-
# FactScan.Term.Operator — operators

An operator is built in or custom.  Built-in operators come in three families, which a
registry hosts or does not host as a whole; names are resolved to them first.
-/

namespace FactScan

set_option autoImplicit false

/-- What a group of built-in operators is about. -/
inductive Family where
  /-- Existence, selection, cardinality, assignment, matching, aggregation, registration
  and diagnostics. -/
  | core
  /-- Comparison and arithmetic. -/
  | comparison
  /-- Boolean combinations. -/
  | logical
  deriving DecidableEq, Repr

def Family.name : Family → String
  | .core => "core"
  | .comparison => "comparison"
  | .logical => "logical"

/-- Order relations a term can ask for. -/
inductive Comparison where
  | eq | ne | lt | le | gt | ge
  deriving DecidableEq, Repr

def Comparison.name : Comparison → String
  | .eq => "eq" | .ne => "ne" | .lt => "lt" | .le => "le" | .gt => "gt" | .ge => "ge"

/-- Arithmetic a term can ask for. -/
inductive Arithmetic where
  | add | sub | mul | div
  deriving DecidableEq, Repr

def Arithmetic.name : Arithmetic → String
  | .add => "add" | .sub => "sub" | .mul => "mul" | .div => "div"

/-- The built-in operators. -/
inductive Builtin where
  | present | absent | isNil | either | item | previous | unique | many | one | size | kind
  | assign | isMatch | define | undefine | least | greatest | count | nth | first | sum
  | traced | aggregate | const
  | compare (c : Comparison)
  | arithmetic (a : Arithmetic)
  | and | or | not
  deriving DecidableEq, Repr

namespace Builtin

/-- The name of an operator in terms. -/
def name : Builtin → String
  | .present => "exists"
  | .absent => "absent"
  | .isNil => "nil"
  | .either => "either"
  | .item => "at"
  | .previous => "prev"
  | .unique => "unique"
  | .many => "many"
  | .one => "one"
  | .size => "size"
  | .kind => "type"
  | .assign => "as"
  | .isMatch => "matches"
  | .define => "defn"
  | .undefine => "undef"
  | .least => "min"
  | .greatest => "max"
  | .count => "count"
  | .nth => "nth"
  | .first => "first"
  | .sum => "sum"
  | .traced => "traced"
  | .aggregate => "agg"
  | .const => "const"
  | .compare c => c.name
  | .arithmetic a => a.name
  | .and => "and"
  | .or => "or"
  | .not => "not"

def family : Builtin → Family
  | .compare _ | .arithmetic _ => .comparison
  | .and | .or | .not => .logical
  | _ => .core

/-- Every built-in operator, family by family. -/
def all : List Builtin :=
  [.present, .absent, .isNil, .either, .item, .previous, .unique, .many, .one, .size, .kind,
    .assign, .isMatch, .define, .undefine, .least, .greatest, .count, .nth, .first, .sum,
    .traced, .aggregate, .const,
    .compare .eq, .compare .ne, .compare .lt, .compare .le, .compare .gt, .compare .ge,
    .arithmetic .add, .arithmetic .sub, .arithmetic .mul, .arithmetic .div,
    .and, .or, .not]

theorem mem_all (b : Builtin) : b ∈ all := by
  cases b with
  | compare c => cases c <;> decide
  | arithmetic a => cases a <;> decide
  | _ => decide

def ofName? (name : String) : Option Builtin := all.find? (·.name == name)

/-- Its result depends on earlier calls on the same term. -/
def isStateful : Builtin → Bool
  | .previous | .unique => true
  | _ => false

/-- It does more than return a value. -/
def hasSideEffects : Builtin → Bool
  | .assign | .define | .undefine | .traced => true
  | _ => false

/-- It reads the rows. -/
def isAggregate : Builtin → Bool
  | .least | .greatest | .count | .nth | .first | .sum | .aggregate => true
  | _ => false

end Builtin

/-- The operator of a term. -/
inductive Operator where
  | builtin (b : Builtin)
  | custom (name : String)
  deriving DecidableEq, Repr

namespace Operator

/-- The operator of a name, built in if there is such a one. -/
def ofName (name : String) : Operator :=
  match Builtin.ofName? name with
  | some b => .builtin b
  | none => .custom name

def name : Operator → String
  | .builtin b => b.name
  | .custom name => name

def builtin? : Operator → Option Builtin
  | .builtin b => some b
  | .custom _ => none

end Operator

end FactScan
