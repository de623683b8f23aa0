/-
# FactScan.Host — engines that share registries and facts

A host keeps registries and facts under numbers, so that several engines can share a
registry and several holders a fact.  Registry `0` is the common one of the process.  The
numbers of definitions run on over all registries.
-/
import FactScan.Engine.Scan
import FactScan.Engine.Simplify

namespace FactScan

set_option autoImplicit false

/-- An engine: settings over one of the host's registries. -/
structure Engine where
  registry : Nat
  settings : Settings := {}

structure Host where
  registries : List Registry := [.standard]
  facts : List Fact := []
  nextGeneration : Nat := 1
  /-- Records, the latest first. -/
  log : List Record := []

namespace Host

/-- The common registry of the process. -/
def common : Nat := 0

def registry (h : Host) (id : Nat) : Registry := h.registries[id]?.getD {}

def fact (h : Host) (id : Nat) : Fact := h.facts[id]?.getD .empty

/-- Keep another registry. -/
def addRegistry (h : Host) (r : Registry) : Nat × Host :=
  (h.registries.length, { h with registries := h.registries ++ [r] })

/-- Keep another fact. -/
def addFact (h : Host) (f : Fact) : Nat × Host :=
  (h.facts.length, { h with facts := h.facts ++ [f] })

def setFact (h : Host) (id : Nat) (f : Fact) : Host := { h with facts := h.facts.set id f }

/-- The world of a registry and a fact. -/
def world (h : Host) (registry : Nat) (fact : Fact) : World :=
  { fact, registry := h.registry registry, nextGeneration := h.nextGeneration, log := h.log }

/-- Take back the registry, the numbers and the log of a world. -/
def absorb (h : Host) (registry : Nat) (w : World) : Host :=
  { h with
    registries := h.registries.set registry w.registry
    nextGeneration := w.nextGeneration
    log := w.log }

/-- A change of one registry. -/
def change {α : Type} (h : Host) (registry : Nat) (f : World → Except EvalError (World × α)) :
    Except EvalError α × Host :=
  match f (h.world registry .empty) with
  | .ok (w, a) => (.ok a, h.absorb registry w)
  | .error e => (.error e, h)

def define (h : Host) (registry : Nat) (d : Definition) : Except EvalError Unit × Host :=
  h.change registry fun w => (w.define d).map fun w => (w, ())

def redefine (h : Host) (registry : Nat) (d : Definition) :
    Except EvalError (Option Definition) × Host :=
  h.change registry (·.redefine d)

def undefine (h : Host) (registry : Nat) (name : String) : Except EvalError Bool × Host :=
  h.change registry (·.undefine name)

/-- Evaluate an instance against one of the host's facts. -/
def evaluate (h : Host) (engine : Engine) (rows : List Row) (i : Instance) (factId : Nat) :
    Except EvalError Value × Instance × Host :=
  match i.evaluate engine.settings rows (h.world engine.registry (h.fact factId)) with
  | (r, i, w) => (r, i, (h.absorb engine.registry w).setFact factId w.fact)

/-- Evaluate an instance against facts of its own. -/
def scan (h : Host) (engine : Engine) (rows : List Row) (i : Instance) (facts : List Fact) :
    ScanResult × Host :=
  let result := i.scan engine.settings rows facts (h.world engine.registry .empty)
  (result, h.absorb engine.registry result.world)

def simplify (h : Host) (engine : Engine) (i : Instance) : Instance × Host :=
  let registry := h.registry engine.registry
  (i.simplify engine.settings registry,
    { h with log := i.term.simplifyLog engine.settings registry ++ h.log })

end Host

end FactScan
