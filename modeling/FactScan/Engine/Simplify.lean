/-
# FactScan.Engine.Simplify — simpler terms, worked out without a fact

A term is simplified from the inside out into one that means the same and costs less, as far
as that can be seen without a fact.  What is known is left behind as `(const x)`.  Bodies of
definitions are data and stay as they are, and so do terms nested deeper than the settings
allow to evaluate.  The outcome remembers nothing of what the term does.
-/
import FactScan.Engine.Evaluate

namespace FactScan

set_option autoImplicit false

/-- Whether a scalar counts as true. -/
def Scalar.isTruthy (s : Scalar) : Bool := s.boolean?.getD true

/-- Whether an operand holds no stateful, effectful or custom operator, terms carried as
data aside. -/
def Operand.isPure (o : Operand) : Bool :=
  o.walk.all fun t => t.operator.builtin?.any fun b => !b.isStateful && !b.hasSideEffects

namespace Simplify

/-- `(const s)`. -/
def constant (s : Scalar) : Instance := ⟨.constantOf s, .blank⟩

/-! ## Junctions -/

/-- The operands of `and` or `or` that matter: neutral constants are dropped, and so is all
that follows an absorbing one.  The second component says whether there was one. -/
def live (absorbing : Bool) : List Part → List Part × Bool
  | [] => ([], false)
  | p :: rest =>
    match p.operand.constant? with
    | some s => if s.isTruthy = absorbing then ([p], true) else live absorbing rest
    | none =>
      match live absorbing rest with
      | (kept, absorbed) => (p :: kept, absorbed)

/-- `and`, which `false` absorbs, and `or`, which `true` absorbs.  Operands before an
absorbing constant are kept if they could do more than give a value. -/
def junction (absorbing : Bool) (op : Operator) (parts : List Part) : Instance :=
  if parts.isEmpty then .ofParts op parts
  else
    match live absorbing parts with
    | (kept, true) =>
      if kept.all (·.operand.isPure) then constant (.boolean absorbing) else .ofParts op kept
    | ([], false) => constant (.boolean !absorbing)
    | (kept, false) => .ofParts op kept

/-! ## Constants -/

/-- A comparison or computation of two constants, as a term of two literals. -/
def probe? (op : Operator) : List Part → Option Term
  | [a, b] =>
    match a.operand.constant?, b.operand.constant? with
    | some x, some y => some (.mk op [.literal x, .literal y])
    | _, _ => none
  | _ => none

/-- The scalar that a term of literals evaluates to, if it does. -/
def worth? (settings : Settings) (registry : Registry) (probe : Term) : Option Scalar :=
  match (evaluate settings [] probe ⟨.blank, { registry }⟩).1 with
  | .ok (.scalar s) => some s
  | _ => none

/-- Work out a comparison or computation of constants; what fails is left to evaluation. -/
def fold (settings : Settings) (registry : Registry) (op : Operator) (parts : List Part) :
    Instance :=
  match (probe? op parts).bind (worth? settings registry) with
  | some s => constant s
  | none => .ofParts op parts

/-! ## Rules -/

/-- A term of a built-in operator, given its simplified operands. -/
def builtin (settings : Settings) (registry : Registry) (b : Builtin) (parts : List Part) :
    Instance :=
  let same : Instance := .ofParts (.builtin b) parts
  match b with
  | .and => junction false (.builtin b) parts
  | .or => junction true (.builtin b) parts
  | .not =>
    match parts with
    | [p] => (p.operand.constant?.map fun s => constant (.boolean !s.isTruthy)).getD same
    | _ => same
  | .either =>
    match parts with
    | [p, _] => (p.operand.constant?.map constant).getD same
    | _ => same
  | .compare _ | .arithmetic _ => fold settings registry (.builtin b) parts
  | _ => same

/-- A term of any operator, given its simplified operands. -/
def apply (settings : Settings) (registry : Registry) (op : Operator) (parts : List Part) :
    Instance :=
  match op with
  | .builtin b => builtin settings registry b parts
  | .custom name =>
    let same : Instance := .ofParts op parts
    match (registry.lookup? name).bind (·.hook) with
    | some hook => (hook same).getD same
    | none => same

/-- Terms that are copied as they are: definitions, and what lies too deep. -/
def isKept (settings : Settings) (depth : Nat) (op : Operator) : Bool :=
  settings.maxDepth < depth || op == .builtin .define

end Simplify

mutual

/-- A term at a depth, simplified. -/
def Term.simplifyAt (settings : Settings) (registry : Registry) (depth : Nat) :
    Term → Memory → Instance
  | .mk op operands, m =>
    if Simplify.isKept settings depth op then
      ⟨.mk op operands, .mk none (Operand.listFreshMemory operands m.children)⟩
    else
      Simplify.apply settings registry op
        (Operand.listSimplifyAt settings registry (depth + 1) operands m.children)

def Operand.simplifyAt (settings : Settings) (registry : Registry) (depth : Nat) :
    Operand → Memory → Part
  | .nested t, m =>
    match t.simplifyAt settings registry depth m with
    | ⟨t, m⟩ => ⟨.nested t, m⟩
  | .literal (.term t), m => ⟨.literal (.term t), m⟩
  | o, _ => ⟨o, .blank⟩

def Operand.listSimplifyAt (settings : Settings) (registry : Registry) (depth : Nat) :
    List Operand → List Memory → List Part
  | [], _ => []
  | o :: rest, ms =>
    o.simplifyAt settings registry depth (ms.headD .blank)
      :: Operand.listSimplifyAt settings registry depth rest ms.tail

end

/-- The simplified copy of an instance. -/
def Instance.simplify (settings : Settings) (registry : Registry) (i : Instance) : Instance :=
  i.term.simplifyAt settings registry 0 i.memory

/-- The simplified form of a term. -/
def Term.simplify (settings : Settings) (registry : Registry) (t : Term) : Term :=
  (Instance.simplify settings registry ⟨t, .blank⟩).term

/-! ## What is evaluated on the way -/

mutual

/-- The terms of constants that simplifying a term evaluates, in order. -/
def Term.probesAt (settings : Settings) (registry : Registry) (depth : Nat) : Term → List Term
  | .mk op operands =>
    if Simplify.isKept settings depth op then []
    else
      let parts := Operand.listSimplifyAt settings registry (depth + 1) operands []
      let own :=
        match op with
        | .builtin (.compare _) | .builtin (.arithmetic _) => (Simplify.probe? op parts).toList
        | _ => []
      Operand.listProbesAt settings registry (depth + 1) operands ++ own

def Operand.probesAt (settings : Settings) (registry : Registry) (depth : Nat) :
    Operand → List Term
  | .nested t => t.probesAt settings registry depth
  | _ => []

def Operand.listProbesAt (settings : Settings) (registry : Registry) (depth : Nat) :
    List Operand → List Term
  | [] => []
  | o :: rest =>
    o.probesAt settings registry depth ++ Operand.listProbesAt settings registry depth rest

end

/-- The records that simplifying a term makes, the latest first. -/
def Term.simplifyLog (settings : Settings) (registry : Registry) (t : Term) : List Record :=
  ((t.probesAt settings registry 0).map (Record.dispatched 0)).reverse

end FactScan
