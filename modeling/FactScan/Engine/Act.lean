/-
# FactScan.Engine.Act — steps of an evaluation

An act sees and changes what one term remembers and the world, and gives a result or an
error.  What it has changed when it fails stays changed.  The acts here are all that
operators are made of.
-/
import FactScan.Engine.World

namespace FactScan

set_option autoImplicit false

/-- What an act works on: the memory of its term, and the world. -/
structure State where
  memory : Memory
  world : World

/-- A step of an evaluation. -/
def Act (α : Type) : Type := State → Except EvalError α × State

namespace Act

variable {α β : Type}

def pure (a : α) : Act α := fun s => (.ok a, s)

def bind (act : Act α) (f : α → Act β) : Act β := fun s =>
  match act s with
  | (.ok a, s') => f a s'
  | (.error e, s') => (.error e, s')

instance : Monad Act where
  pure := Act.pure
  bind := Act.bind

@[simp] theorem pure_apply (a : α) (s : State) : (Pure.pure a : Act α) s = (.ok a, s) := rfl

theorem bind_ok {act : Act α} {s s' : State} {a : α} (h : act s = (.ok a, s'))
    (f : α → Act β) : (act >>= f) s = f a s' := by
  show Act.bind act f s = _
  rw [Act.bind, h]

theorem bind_error {act : Act α} {s s' : State} {e : EvalError} (h : act s = (.error e, s'))
    (f : α → Act β) : (act >>= f) s = (.error e, s') := by
  show Act.bind act f s = _
  rw [Act.bind, h]

/-! ## Errors -/

def fail (e : EvalError) : Act α := fun s => (.error e, s)

/-- A result worked out without an act. -/
def ofExcept : Except EvalError α → Act α
  | .ok a => Act.pure a
  | .error e => fail e

/-- Change the error of an act. -/
def mapError (f : EvalError → EvalError) (act : Act α) : Act α := fun s =>
  match act s with
  | (.ok a, s') => (.ok a, s')
  | (.error e, s') => (.error (f e), s')

/-! ## The world -/

/-- The fact as it stands. -/
def fact : Act Fact := fun s => (.ok s.world.fact, s)

def registry : Act Registry := fun s => (.ok s.world.registry, s)

def note (r : Record) : Act Unit := fun s => (.ok (), { s with world := s.world.note r })

/-- Append a scalar to a field of the fact. -/
def append (field : String) (a : Scalar) : Act Unit := fun s =>
  match s.world.fact.append? field a with
  | some fact => (.ok (), { s with world := { s.world with fact } })
  | none => (.error (.readOnlyFact field), s)

/-- A change of the world that fails or gives a new one. -/
def change (f : World → Except EvalError World) : Act Unit := fun s =>
  match f s.world with
  | .ok world => (.ok (), { s with world })
  | .error e => (.error e, s)

/-- An act against another fact; afterwards the fact is the one it was. -/
def withFact (fact : Fact) (act : Act α) : Act α := fun s =>
  match act { s with world := { s.world with fact } } with
  | (r, s') => (r, { s' with world := { s'.world with fact := s.world.fact } })

/-! ## Memory -/

/-- What the term remembers for itself. -/
def block : Act (Option Block) := fun s => (.ok s.memory.block, s)

def setBlock (b : Block) : Act Unit := fun s =>
  (.ok (), { s with memory := s.memory.setBlock (some b) })

/-- The memory of the term and its operands. -/
def memory : Act Memory := fun s => (.ok s.memory, s)

/-- An act of the operand at a position, on its own memory. -/
def atChild (position : Nat) (act : Act α) : Act α := fun s =>
  match act { s with memory := s.memory.child position } with
  | (r, s') => (r, { s' with memory := s.memory.setChild position s'.memory })

/-- An act of a body that was filled in for this term, on the body's own memory, which
afterwards is kept in the block. -/
def inExpansion (generation : Nat) (body : Term) (memory : Memory) (act : Act α) : Act α :=
  fun s =>
    match act { s with memory := memory } with
    | (r, s') =>
      (r, { s' with
        memory := s.memory.setBlock (some (.expansion generation body s'.memory)) })

end Act

/-- Where a term is evaluated: among which rows, and how deep. -/
structure Site where
  rows : List Row
  depth : Nat

/-- The same place one level deeper. -/
def Site.deeper (site : Site) : Site := { site with depth := site.depth + 1 }

/-- A way of evaluating terms. -/
abbrev Evaluator := Site → Term → Act Value

end FactScan
