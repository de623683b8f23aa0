/-
# FactScan.Engine.Registry — which operators there are

A registry says which built-in operators are hosted and holds the custom ones in the order
of their definition.  A custom operator never takes the name of a built-in one, hosted or
not.  Every definition has a number of its own, its generation.
-/
import FactScan.Engine.Error
import FactScan.Fact.Basic
import FactScan.Term.Memory

namespace FactScan

set_option autoImplicit false

/-- An operator of the host: the values of the operands, the fact and the rows to a value. -/
abbrev Native := List Value → Fact → List Row → Except EvalError Value

/-- What a custom operator does. -/
inductive Body where
  /-- A term evaluated in place of the calling one. -/
  | expression (body : Instance)
  | native (run : Native)

/-- A body as it is shown in messages. -/
def Body.text : Body → String
  | .expression body => "Expression(" ++ body.term.text ++ ")"
  | .native _ => "Native(..)"

/-- How the terms of an operator simplify; where it gives nothing a term stays. -/
abbrev SimplifyHook := Instance → Option Instance

/-- A custom operator. -/
structure Definition where
  name : String
  body : Body
  arity : Arity
  hook : Option SimplifyHook := none
  generation : Nat := 0

namespace Definition

/-- How many operands a body asks for: one more than its highest placeholder. -/
def countOf (body : Term) : Nat := (body.maxPlaceholder.map (·.toNat + 1)).getD 0

/-- An operator defined by a term that asks for a number of operands there can be. -/
def ofTerm (name : String) (body : Instance) : Definition :=
  { name, body := .expression body.fresh, arity := .exactly (countOf body.term) }

/-- Make an operator of a term.  The number of operands is a sum of 64 bits, and the program
ends where it does not fit into them. -/
def make (name : String) (body : Instance) : Except EvalError Definition :=
  if countOf body.term < UInt64.size then .ok (ofTerm name body)
  else .error (.abort "attempt to add with overflow")

def ofNative (name : String) (arity : Arity) (run : Native) : Definition :=
  { name, body := .native run, arity }

end Definition

structure Registry where
  hosted : List Builtin := []
  custom : List Definition := []

namespace Registry

/-- Host the operators of a family. -/
def install (r : Registry) (family : Family) : Registry :=
  { r with
    hosted := r.hosted ++
      Builtin.all.filter fun b => b.family == family && !r.hosted.contains b }

/-- All three families hosted. -/
def standard : Registry :=
  ((({} : Registry).install .core).install .comparison).install .logical

def hosts (r : Registry) (b : Builtin) : Bool := r.hosted.contains b

def lookup? (r : Registry) (name : String) : Option Definition :=
  r.custom.find? (·.name == name)

/-- Names of custom operators are not empty and hold lowercase letters and underscores. -/
def isWellFormed (name : String) : Bool :=
  !name.isEmpty && name.toList.all fun c => c.isLower || c == '_'

/-- Whether a name may be given to a custom operator. -/
def checkName (name : String) : Except EvalError Unit :=
  if !isWellFormed name then .error (.invalidOperatorName name)
  else if (Builtin.ofName? name).isSome then .error (.reservedOperator name)
  else .ok ()

/-- Put a definition in the place of the one of its name, or last. -/
def put (d : Definition) : List Definition → List Definition
  | [] => [d]
  | e :: rest => if e.name == d.name then d :: rest else e :: put d rest

/-- Define an operator that is not defined yet. -/
def define (r : Registry) (d : Definition) : Except EvalError Registry := do
  checkName d.name
  if (r.lookup? d.name).isSome then .error (.duplicateOperator d.name)
  else return { r with custom := put d r.custom }

/-- Define an operator, in the place of an earlier definition if there is one. -/
def redefine (r : Registry) (d : Definition) :
    Except EvalError (Registry × Option Definition) := do
  checkName d.name
  return ({ r with custom := put d r.custom }, r.lookup? d.name)

/-- Remove an operator; whether there was one. -/
def undefine (r : Registry) (name : String) : Except EvalError (Registry × Bool) :=
  if (Builtin.ofName? name).isSome then .error (.reservedOperator name)
  else
    .ok ({ r with custom := r.custom.filter (·.name != name) }, (r.lookup? name).isSome)

/-- A registry as it is shown. -/
def text (r : Registry) : String :=
  "OperatorRegistry \x7b hosted: " ++ toString r.hosted.length ++ ", custom: ["
    ++ ", ".intercalate (r.custom.map fun d => "\"" ++ d.name ++ "\"") ++ "] \x7d"

end Registry

end FactScan
