/-
# FactScan.Engine.World — what an evaluation reads and changes

The world of an evaluation is its fact, its registry, the number of the next definition and
the log.  Defining and removing operators are changes of the world, whether the host or a
term asks for them; one that fails changes nothing.
-/
import FactScan.Engine.Record

namespace FactScan

set_option autoImplicit false

structure World where
  fact : Fact := .empty
  registry : Registry := .standard
  nextGeneration : Nat := 1
  /-- Records, the latest first. -/
  log : List Record := []

namespace World

def note (w : World) (r : Record) : World := { w with log := r :: w.log }

/-- A definition with the number it gets when it is made. -/
def numbered (w : World) (d : Definition) : Definition :=
  { d with generation := w.nextGeneration }

/-- The world with a registry that a new definition was put into. -/
def withDefinition (w : World) (d : Definition) (registry : Registry) : World :=
  { w with registry, nextGeneration := w.nextGeneration + 1 }.note (.defined d)

/-- Define an operator that is not defined yet. -/
def define (w : World) (d : Definition) : Except EvalError World := do
  let registry ← w.registry.define (w.numbered d)
  return w.withDefinition d registry

/-- Define an operator; also the definition that was replaced. -/
def redefine (w : World) (d : Definition) : Except EvalError (World × Option Definition) := do
  let (registry, replaced) ← w.registry.redefine (w.numbered d)
  return (w.withDefinition d registry, replaced)

/-- Remove an operator; whether there was one. -/
def undefine (w : World) (name : String) : Except EvalError (World × Bool) := do
  let (registry, removed) ← w.registry.undefine name
  let w := { w with registry }
  return (if removed then w.note (.undefined name) else w, removed)

end World

end FactScan
