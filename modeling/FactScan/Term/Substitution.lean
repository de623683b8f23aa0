/-
# FactScan.Term.Substitution — placeholders

A definition's body holds placeholders for the operands of the term that calls it.
-/
import FactScan.Term.Basic

namespace FactScan

set_option autoImplicit false

/-- The larger of two optional numbers. -/
def maxIndex : Option UInt64 → Option UInt64 → Option UInt64
  | none, b => b
  | a, none => a
  | some a, some b => some (if a < b then b else a)

mutual

/-- The highest placeholder of a term, outside terms carried as data. -/
def Term.maxPlaceholder : Term → Option UInt64
  | .mk _ operands => Operand.listMaxPlaceholder operands

def Operand.maxPlaceholder : Operand → Option UInt64
  | .placeholder i => some i
  | .nested t => t.maxPlaceholder
  | _ => none

def Operand.listMaxPlaceholder : List Operand → Option UInt64
  | [] => none
  | o :: rest => maxIndex o.maxPlaceholder (Operand.listMaxPlaceholder rest)

end

mutual

/-- A term with its placeholders replaced by `args`; a placeholder beyond them stays. -/
def Term.instantiate (args : List Operand) : Term → Term
  | .mk op operands => .mk op (Operand.listInstantiate args operands)

def Operand.instantiate (args : List Operand) : Operand → Operand
  | .placeholder i => args[i.toNat]?.getD (.placeholder i)
  | .nested t => .nested (t.instantiate args)
  | o => o

def Operand.listInstantiate (args : List Operand) : List Operand → List Operand
  | [] => []
  | o :: rest => o.instantiate args :: Operand.listInstantiate args rest

end

mutual

/-- A term and the terms nested in it, in reading order. -/
def Term.walk : Term → List Term
  | .mk op operands => .mk op operands :: Operand.listWalk operands

def Operand.walk : Operand → List Term
  | .nested t => t.walk
  | _ => []

def Operand.listWalk : List Operand → List Term
  | [] => []
  | o :: rest => o.walk ++ Operand.listWalk rest

end

end FactScan
