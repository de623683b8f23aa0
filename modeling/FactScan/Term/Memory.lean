/-
# FactScan.Term.Memory — what a term remembers between evaluations

Some operators give answers that depend on earlier calls on the same term, and others keep
work for the next call.  What they keep is a tree beside the term: a block for the term
itself, and the memory of the term at each operand position, nested or carried.  An
instance is a term with such a tree.

A fresh copy forgets the blocks of nested terms.  A carried term is data, and is copied
together with what it remembers.
-/
import FactScan.Term.Substitution

namespace FactScan

set_option autoImplicit false

mutual

inductive Memory where
  | mk (block : Option Block) (children : List Memory)

/-- What one term remembers. -/
inductive Block where
  /-- The value of the call before. -/
  | previous (v : Value)
  /-- The scalars of all calls before; `none` stands for no value. -/
  | seen (keys : List (Option Scalar))
  /-- The last pattern compiled from a string. -/
  | pattern (p : Pattern)
  /-- The body of a definition with this term's operands filled in, and what that body
  remembers. -/
  | expansion (generation : Nat) (body : Term) (memory : Memory)

end

namespace Memory

/-- Nothing remembered. -/
def blank : Memory := .mk none []

instance : Inhabited Memory := ⟨blank⟩

def block : Memory → Option Block
  | .mk b _ => b

def children : Memory → List Memory
  | .mk _ ms => ms

def setBlock (m : Memory) (b : Option Block) : Memory := .mk b m.children

/-- The memory of the operand at a position. -/
def child (m : Memory) (position : Nat) : Memory := m.children.getD position blank

/-- A list with the element at a position replaced, filled up with blanks before it. -/
def place (c : Memory) : Nat → List Memory → List Memory
  | 0, [] => [c]
  | 0, _ :: ms => c :: ms
  | n + 1, [] => blank :: place c n []
  | n + 1, m :: ms => m :: place c n ms

def setChild (m : Memory) (position : Nat) (c : Memory) : Memory :=
  .mk m.block (place c position m.children)

@[simp] theorem block_setBlock (m : Memory) (b : Option Block) : (m.setBlock b).block = b := rfl

@[simp] theorem block_setChild (m : Memory) (i : Nat) (c : Memory) :
    (m.setChild i c).block = m.block := rfl

@[simp] theorem child_setBlock (m : Memory) (b : Option Block) (i : Nat) :
    (m.setBlock b).child i = m.child i := rfl

theorem getD_place_self (c : Memory) (i : Nat) (ms : List Memory) :
    (place c i ms).getD i blank = c := by
  induction i generalizing ms with
  | zero => cases ms <;> rfl
  | succ n ih => cases ms <;> simpa [place] using ih _

theorem getD_place_ne (c : Memory) {i j : Nat} (h : i ≠ j) (ms : List Memory) :
    (place c i ms).getD j blank = ms.getD j blank := by
  induction i generalizing j ms with
  | zero =>
    cases j with
    | zero => exact absurd rfl h
    | succ j => cases ms <;> simp [place]
  | succ n ih =>
    cases j with
    | zero => cases ms <;> simp [place]
    | succ j =>
      have h' : n ≠ j := fun e => h (by rw [e])
      cases ms with
      | nil => simpa [place] using ih h' []
      | cons m ms => simpa [place] using ih h' ms

@[simp] theorem child_setChild_self (m : Memory) (i : Nat) (c : Memory) :
    (m.setChild i c).child i = c := getD_place_self _ _ _

theorem child_setChild_ne (m : Memory) {i j : Nat} (h : i ≠ j) (c : Memory) :
    (m.setChild i c).child j = m.child j := getD_place_ne _ h _

end Memory

/-! ## Copies -/

mutual

/-- The memory of a fresh copy of a term. -/
def Term.freshMemory : Term → Memory → Memory
  | .mk _ operands, m => .mk none (Operand.listFreshMemory operands m.children)

def Operand.freshMemory : Operand → Memory → Memory
  | .nested t, m => t.freshMemory m
  | .literal (.term _), m => m
  | _, _ => .blank

def Operand.listFreshMemory : List Operand → List Memory → List Memory
  | [], _ => []
  | o :: rest, ms => o.freshMemory (ms.headD .blank) :: Operand.listFreshMemory rest ms.tail

end

mutual

/-- The memory of a body filled in with `args`, which have the memories `given`. -/
def Term.instantiateMemory (args : List Operand) (given : List Memory) : Term → Memory → Memory
  | .mk _ operands, m =>
    .mk none (Operand.listInstantiateMemory args given operands m.children)

def Operand.instantiateMemory (args : List Operand) (given : List Memory) :
    Operand → Memory → Memory
  | .placeholder i, _ =>
    match args[i.toNat]? with
    | some arg => arg.freshMemory (given.getD i.toNat .blank)
    | none => .blank
  | .nested t, m => t.instantiateMemory args given m
  | .literal (.term _), m => m
  | _, _ => .blank

def Operand.listInstantiateMemory (args : List Operand) (given : List Memory) :
    List Operand → List Memory → List Memory
  | [], _ => []
  | o :: rest, ms =>
    o.instantiateMemory args given (ms.headD .blank)
      :: Operand.listInstantiateMemory args given rest ms.tail

end

/-- A term with what it remembers. -/
structure Instance where
  term : Term
  memory : Memory := .blank

namespace Instance

/-- A copy that starts over. -/
def fresh (i : Instance) : Instance := ⟨i.term, i.term.freshMemory i.memory⟩

/-- The body with the operands of `caller` filled in. -/
def instantiate (body caller : Instance) : Instance :=
  ⟨body.term.instantiate caller.term.operands,
    body.term.instantiateMemory caller.term.operands caller.memory.children body.memory⟩

end Instance

/-- An operand with the memory of the term it holds. -/
structure Part where
  operand : Operand
  memory : Memory := .blank

namespace Instance

/-- The operands of an instance with their memories. -/
def parts (i : Instance) : List Part :=
  i.term.operands.zipIdx.map fun (o, position) => ⟨o, i.memory.child position⟩

/-- A new instance of an operator and operands, which keep what they remember. -/
def ofParts (op : Operator) (parts : List Part) : Instance :=
  ⟨.mk op (parts.map (·.operand)), .mk none (parts.map (·.memory))⟩

end Instance

/-! ## What is remembered -/

mutual

/-- A term and the terms nested in it, each with its own block. -/
def Term.recorded : Term → Memory → List (Term × Option Block)
  | .mk op operands, m =>
    (.mk op operands, m.block) :: Operand.listRecorded operands m.children

def Operand.recorded : Operand → Memory → List (Term × Option Block)
  | .nested t, m => t.recorded m
  | _, _ => []

def Operand.listRecorded : List Operand → List Memory → List (Term × Option Block)
  | [], _ => []
  | o :: rest, ms => o.recorded (ms.headD .blank) ++ Operand.listRecorded rest ms.tail

end

end FactScan
