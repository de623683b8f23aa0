/-
# FactScan.Term.Hash — what a hasher is fed

A scalar or a term is hashed part by part: first which constructor it is of, then what the
constructor holds, and before a list its length.  Doubles are hashed by their bits, and
patterns by their canonical texts.  Where a term is carried as data, it is hashed as a term.
-/
import FactScan.Term.Basic

namespace FactScan

set_option autoImplicit false

/-- The bits of a double: its sign and its place.  There is one pattern for all that is not a
number. -/
def Binary64.bits : Binary64 → Nat
  | .nan => 0x7ff8000000000000
  | .point negative place => negative.toNat * Nat.pow 2 63 + place.val

/-- What a hasher is fed at a time. -/
inductive HashPart where
  /-- Which constructor of its type it is. -/
  | variant (index : Nat)
  | integer (n : Int64)
  | bits (n : Nat)
  | text (s : String)
  | boolean (b : Bool)
  | timestamp (t : Timestamp)
  | index (i : UInt64)
  | length (n : Nat)
  deriving DecidableEq

def Operator.hashInput : Operator → List HashPart
  | .builtin b => [.variant 0, .variant (Builtin.all.idxOf b)]
  | .custom name => [.variant 1, .text name]

mutual

def Scalar.hashInput : Scalar → List HashPart
  | .integer n => [.variant 0, .integer n]
  | .float x => [.variant 1, .bits x.bits]
  | .string s => [.variant 2, .text s]
  | .boolean b => [.variant 3, .boolean b]
  | .timestamp t => [.variant 4, .timestamp t]
  | .regex p => [.variant 5, .text (String.ofList p.canonicalChars)]
  | .term t => .variant 6 :: t.hashInput

def Operand.hashInput : Operand → List HashPart
  | .literal s => .variant 0 :: s.hashInput
  | .field name => [.variant 1, .text name]
  | .nested t => .variant 2 :: t.hashInput
  | .placeholder i => [.variant 3, .index i]

def Term.hashInput : Term → List HashPart
  | .mk op operands => op.hashInput ++ .length operands.length :: Operand.listHashInput operands

def Operand.listHashInput : List Operand → List HashPart
  | [] => []
  | o :: rest => o.hashInput ++ Operand.listHashInput rest

end

end FactScan
