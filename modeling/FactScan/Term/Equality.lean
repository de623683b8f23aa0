/-
# FactScan.Term.Equality — when scalars and terms are the same

Equality is by kind and shape: an integer never equals a float, the two zeros differ, and
patterns are equal when their canonical texts are.  `Scalar.compare` is the order of
numbers, strings, booleans and timestamps, in which integers and floats meet, and
`Scalar.looselyEquals` is equality with that one exception.
-/
import FactScan.Term.Basic

namespace FactScan

set_option autoImplicit false

mutual

def Scalar.same : Scalar → Scalar → Bool
  | .integer a, .integer b => a == b
  | .float a, .float b => a == b
  | .string a, .string b => a == b
  | .boolean a, .boolean b => a == b
  | .timestamp a, .timestamp b => a == b
  | .regex a, .regex b => a == b
  | .term a, .term b => Term.same a b
  | _, _ => false

def Operand.same : Operand → Operand → Bool
  | .literal a, .literal b => Scalar.same a b
  | .field a, .field b => a == b
  | .nested a, .nested b => Term.same a b
  | .placeholder a, .placeholder b => a == b
  | _, _ => false

def Term.same : Term → Term → Bool
  | .mk op operands, .mk op' operands' => op == op' && Operand.listSame operands operands'

def Operand.listSame : List Operand → List Operand → Bool
  | [], [] => true
  | a :: as, b :: bs => Operand.same a b && Operand.listSame as bs
  | _, _ => false

end

instance : BEq Scalar := ⟨Scalar.same⟩
instance : BEq Operand := ⟨Operand.same⟩
instance : BEq Term := ⟨Term.same⟩

def Value.same : Value → Value → Bool
  | .nil, .nil => true
  | .scalar a, .scalar b => a == b
  | .sequence as, .sequence bs => as == bs
  | _, _ => false

instance : BEq Value := ⟨Value.same⟩

namespace Scalar

/-- The order of strings is that of their code points. -/
def compareText (a b : String) : Ordering :=
  if a < b then .lt else if a = b then .eq else .gt

/-- The order of two scalars; most pairs of different kinds have none. -/
def compare (a b : Scalar) : Option Ordering :=
  match a, b with
  | .integer m, .integer n => some (Ord.compare m.toInt n.toInt)
  | .float x, .float y => x.compare y
  | .float x, .integer n => x.compare (.ofInt n.toInt)
  | .integer m, .float y => (Binary64.ofInt m.toInt).compare y
  | .string s, .string t => some (compareText s t)
  | .boolean p, .boolean q => some (Ord.compare p.toNat q.toNat)
  | .timestamp t, .timestamp u => some (t.compare u)
  | _, _ => none

/-- Equality under which `1` and `1.0` are the same. -/
def looselyEquals (a b : Scalar) : Bool :=
  if a.isNumeric && b.isNumeric then a.compare b == some .eq else a == b

end Scalar

end FactScan
