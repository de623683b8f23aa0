/-
# FactScan.Engine.Evaluate — evaluating terms

A term is evaluated by its operator: a built-in one that the registry hosts, or a custom
one that it holds.  An operator gets at its operands only through the evaluator one level
below, so levels can be counted down from the settings' depth, and the evaluator with no
level left refuses every term.

The body of a custom operator is filled in with the operands of the calling term once, and
kept in the memory of that term until the definition is another one.
-/
import FactScan.Engine.Operators.Aggregate
import FactScan.Engine.Operators.Comparison
import FactScan.Engine.Operators.Effect
import FactScan.Engine.Operators.Selection

namespace FactScan

set_option autoImplicit false

/-- Evaluate a term of a built-in operator. -/
def Builtin.run (settings : Settings) (evaluate : Evaluator) (site : Site) (term : Term) :
    Builtin → Act Value
  | .present => Operators.present term
  | .absent => Operators.absent term
  | .isNil => Operators.isNil evaluate site term
  | .either => Operators.either evaluate site term
  | .item => Operators.item evaluate site term
  | .previous => Operators.previous evaluate site term
  | .unique => Operators.unique evaluate site term
  | .many => Operators.many evaluate site term
  | .one => Operators.one evaluate site term
  | .size => Operators.size evaluate site term
  | .kind => Operators.kind evaluate site term
  | .assign => Operators.assign evaluate site term
  | .isMatch => Operators.isMatch evaluate site term
  | .define => Operators.define term
  | .undefine => Operators.undefine term
  | .least => Operators.extreme site term .lt
  | .greatest => Operators.extreme site term .gt
  | .count => Operators.count site term
  | .nth => Operators.nth evaluate site term
  | .first => Operators.first site term
  | .sum => Operators.sum site term
  | .traced => Operators.traced evaluate site term settings.traceLevel
  | .aggregate => Operators.aggregate evaluate site term
  | .const => Operators.const term
  | .compare c => c.run evaluate site term
  | .arithmetic a => a.run evaluate site term
  | .and => Operators.and evaluate site term
  | .or => Operators.or evaluate site term
  | .not => Operators.not evaluate site term

/-- The expansion kept for a definition, or a new one. -/
def expansion (d : Definition) (body : Instance) (term : Term) : Act Instance := do
  match ← Act.block with
  | some (.expansion generation t memory) =>
    if generation = d.generation then return ⟨t, memory⟩ else expand
  | _ => expand
where
  expand : Act Instance := do
    Act.note (.expanding d.name term.arity)
    return body.instantiate ⟨term, ← Act.memory⟩

/-- Evaluate a term of a custom operator. -/
def Definition.run (d : Definition) (evaluate : Evaluator) (site : Site) (term : Term) :
    Act Value := do
  checkArity term d.arity
  match d.body with
  | .expression body =>
    let i ← expansion d body term
    Act.inExpansion d.generation i.term i.memory (evaluate site.deeper i.term)
  | .native run =>
    let args ← resolveAll evaluate site term term.positions
    Act.ofExcept (run args (← Act.fact) site.rows)

/-- An error on its way out of a term: wrapped, unless it is about that term itself. -/
def EvalError.leaving (site : Site) (term : Term) (e : EvalError) : EvalError :=
  if e.concerns term.text then e
  else .evaluation term.text ⟨site.depth, term.name, site.rows.length⟩ e

/-- Evaluate a term, where `evaluate` is for the terms below it. -/
def dispatch (settings : Settings) (evaluate : Evaluator) : Evaluator := fun site term => do
  Act.note (.dispatched site.depth term)
  match term.operator with
  | .builtin b =>
    if (← Act.registry).hosts b then
      Act.mapError (·.leaving site term) (b.run settings evaluate site term)
    else Act.fail (.unknown term)
  | .custom name =>
    match (← Act.registry).lookup? name with
    | some d => Act.mapError (·.leaving site term) (d.run evaluate site term)
    | none => Act.fail (.unknown term)

/-- Evaluate terms with so many levels left. -/
def evalAt (settings : Settings) : Nat → Site → Term → Act Value
  | 0, _, _ => Act.fail (.recursionLimit settings.maxDepth)
  | levels + 1, site, term => dispatch settings (evalAt settings levels) site term

theorem evalAt_succ (settings : Settings) (levels : Nat) :
    evalAt settings (levels + 1) = dispatch settings (evalAt settings levels) := rfl

/-- Evaluate a term against the world's fact with the given rows. -/
def evaluate (settings : Settings) (rows : List Row) (term : Term) : Act Value :=
  evalAt settings (settings.maxDepth + 1) ⟨rows, 0⟩ term

/-- Evaluate an instance: the result, what it remembers now, and the world. -/
def Instance.evaluate (settings : Settings) (rows : List Row) (i : Instance) (world : World) :
    Except EvalError Value × Instance × World :=
  match FactScan.evaluate settings rows i.term ⟨i.memory, world⟩ with
  | (result, s) => (result, ⟨i.term, s.memory⟩, s.world)

end FactScan
