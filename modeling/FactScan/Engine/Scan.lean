/-
# FactScan.Engine.Scan — one instance against a series of facts

A scan evaluates one instance against each fact in turn, so that what it remembers passes
from one fact to the next.  It ends at the first failure; facts after that are untouched.
-/
import FactScan.Engine.Evaluate

namespace FactScan

set_option autoImplicit false

/-- What a scan leaves behind: values or the error that ended it, the instance, the facts
and the world. -/
structure ScanResult where
  values : Except EvalError (List Value)
  term : Instance
  facts : List Fact
  world : World

/-- Evaluate an instance against each of the facts. -/
def Instance.scan (settings : Settings) (rows : List Row) : List Fact → Instance → World →
    ScanResult
  | [], i, w => ⟨.ok [], i, [], w⟩
  | fact :: facts, i, w =>
    match i.evaluate settings rows { w with fact } with
    | (.error e, i, w) => ⟨.error e, i, w.fact :: facts, w⟩
    | (.ok v, i, w) =>
      let rest := i.scan settings rows facts w
      { rest with values := rest.values.map (v :: ·), facts := w.fact :: rest.facts }

end FactScan
