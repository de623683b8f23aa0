/-
# FactScan.Term.Text — the text of terms and values

The canonical text of a term reads back as the term.  Strings stand between quotes with
quotes and backslashes escaped, patterns between slashes, placeholders after a dollar sign.
-/
import FactScan.Term.Basic

namespace FactScan

set_option autoImplicit false

/-- A string between quotes. -/
def quotedChars (s : List Char) : List Char :=
  '\'' :: s.flatMap (fun c => if c = '\'' ∨ c = '\\' then ['\\', c] else [c]) ++ ['\'']

mutual

def Scalar.chars : Scalar → List Char
  | .integer n => Decimal.intChars n.toInt
  | .float x => Decimal.floatChars x
  | .string s => quotedChars s.toList
  | .boolean true => ['t', 'r', 'u', 'e']
  | .boolean false => ['f', 'a', 'l', 's', 'e']
  | .timestamp t => t.chars
  | .regex p => p.chars
  | .term t => t.chars

def Operand.chars : Operand → List Char
  | .literal s => s.chars
  | .field name => name.toList
  | .nested t => t.chars
  | .placeholder i => '$' :: Decimal.natChars i.toNat

def Term.chars : Term → List Char
  | .mk op operands => '(' :: op.name.toList ++ Operand.listChars operands ++ [')']

/-- Operands with a space before each. -/
def Operand.listChars : List Operand → List Char
  | [] => []
  | o :: rest => ' ' :: o.chars ++ Operand.listChars rest

end

namespace Scalar

/-- The text of a scalar. -/
def text (s : Scalar) : String := String.ofList s.chars

end Scalar

namespace Term

/-- The canonical text of a term. -/
def text (t : Term) : String := String.ofList t.chars

end Term

namespace Value

def chars : Value → List Char
  | .nil => ['n', 'i', 'l']
  | .scalar s => s.chars
  | .sequence items =>
    '[' :: ((items.map Scalar.chars).intersperse [',', ' ']).flatten ++ [']']

/-- The text of a value. -/
def text (v : Value) : String := String.ofList v.chars

end Value

end FactScan
