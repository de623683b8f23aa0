/-
# FactScan.Engine.Record — what an evaluation logs

Records keep what they are about and are put into words only when they are read.
-/
import FactScan.Engine.Registry
import FactScan.Engine.Settings

namespace FactScan

set_option autoImplicit false

inductive Record where
  /-- A term is about to be evaluated. -/
  | dispatched (depth : Nat) (term : Term)
  /-- Rows that a selector kept. -/
  | kept (rows total : Nat)
  /-- The value of a traced operand. -/
  | traced (level : Level) (term : Term) (value : Value)
  | defined (d : Definition)
  | undefined (name : String)
  /-- A definition is filled in for a calling term. -/
  | expanding (name : String) (operands : Nat)

namespace Record

def level : Record → Level
  | .dispatched .. | .kept .. => .trace
  | .traced level _ _ => level
  | .defined .. | .undefined _ | .expanding .. => .debug

/-- Records that terms ask for themselves. -/
def isTraced : Record → Bool
  | .traced .. => true
  | _ => false

def text : Record → String
  | .dispatched depth term => String.ofList (List.replicate (2 * depth) ' ') ++ term.text
  | .kept rows total => "agg kept " ++ toString rows ++ " of " ++ toString total ++ " rows"
  | .traced _ term value => term.text ++ " => " ++ value.text
  | .defined d =>
    "defined operator " ++ d.name ++ " (" ++ d.body.text ++ ", arity " ++ d.arity.text ++ ")"
  | .undefined name => "undefined operator " ++ name
  | .expanding name operands =>
    "expanding " ++ name ++ " with " ++ toString operands ++ " operands"

/-- The definition that a record says was made. -/
def definition? : Record → Option Definition
  | .defined d => some d
  | _ => none

/-- Whether a record says that an operator was defined or removed. -/
def changes (name : String) : Record → Bool
  | .defined d => d.name == name
  | .undefined n => n == name
  | _ => false

end Record

end FactScan
