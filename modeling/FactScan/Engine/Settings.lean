/-
# FactScan.Engine.Settings — the settings of an engine

Settings are read from a document that may name only some of them.  Names that mean nothing
here are passed over, but a setting is given once.  An array gives the settings in order.
-/
import FactScan.Json.Reader
import FactScan.Json.Text

namespace FactScan

set_option autoImplicit false

/-- Levels of log records. -/
inductive Level where
  | error | warn | info | debug | trace
  deriving DecidableEq, Repr

namespace Level

def name : Level → String
  | .error => "error" | .warn => "warn" | .info => "info" | .debug => "debug" | .trace => "trace"

def all : List Level := [.error, .warn, .info, .debug, .trace]

def ofName? (name : String) : Option Level := all.find? (·.name == name)

end Level

structure Settings where
  /-- Terms nested deeper than this are not evaluated. -/
  maxDepth : Nat := 256
  /-- The level of the records that `traced` makes. -/
  traceLevel : Level := .info
  deriving DecidableEq, Repr

namespace Settings

/-- The settings as a document. -/
def text (s : Settings) : String :=
  "\x7b\"max_depth\":" ++ toString s.maxDepth ++ ",\"trace_level\":\"" ++ s.traceLevel.name
    ++ "\"\x7d"

/-! ## Reading -/

open Json.Reader (expect? string? member? moreItems? items? numeral? skipped?)
open Text (skipSpacing)

/-- A depth: a natural number below `2 ^ 64`, without sign, fraction or exponent. -/
def depth? (cs : List Char) : Option (Nat × List Char) := do
  let (n, rest) ← numeral? cs
  if n.negative || !n.isIntegral then none
  else some (← Decimal.unsigned? 64 n.whole, rest)

/-- A level: its name, or an object that holds nothing under its name. -/
def level? (cs : List Char) : Option (Level × List Char) :=
  match expect? ['\x7b'] cs with
  | none => do
    let (name, rest) ← string? true cs
    some (← Level.ofName? name, rest)
  | some rest => do
    let empty (_ : String) (cs : List Char) : Option (Unit × List Char) :=
      (expect? ['n', 'u', 'l', 'l'] cs).map fun rest => ((), rest)
    let ((name, _), rest) ← member? true empty (skipSpacing rest)
    let rest ← expect? ['\x7d'] (skipSpacing rest)
    some (← Level.ofName? name, rest)

/-- One member of a settings object. -/
inductive Entry where
  | depth (n : Nat)
  | level (l : Level)
  | other

def entry? (name : String) (cs : List Char) : Option (Entry × List Char) :=
  if name = "max_depth" then (depth? cs).map fun (n, rest) => (.depth n, rest)
  else if name = "trace_level" then (level? cs).map fun (l, rest) => (.level l, rest)
  else (skipped? cs).map fun rest => (.other, rest)

/-- The settings of the members of an object; nothing if one is given twice. -/
def ofEntries? (entries : List Entry) : Option Settings :=
  let depths := entries.filterMap fun | .depth n => some n | _ => none
  let levels := entries.filterMap fun | .level l => some l | _ => none
  if 1 < depths.length ∨ 1 < levels.length then none
  else some ⟨depths.headD 256, levels.headD .info⟩

/-- Settings in order, after the opening bracket. -/
def listed? (cs : List Char) : Option (Settings × List Char) :=
  match skipSpacing cs with
  | ']' :: rest => some ({}, rest)
  | cs => do
    let (n, rest) ← depth? cs
    match skipSpacing rest with
    | ']' :: rest => some ({ maxDepth := n }, rest)
    | rest => do
      let rest ← expect? [','] rest
      let (l, rest) ← level? (skipSpacing rest)
      let rest ← expect? [']'] (skipSpacing rest)
      some (⟨n, l⟩, rest)

/-- Settings from the text of a document. -/
def ofText? (source : String) : Option Settings := do
  let (settings, rest) ←
    match skipSpacing source.toList with
    | '[' :: rest => listed? rest
    | '\x7b' :: rest => do
      let (entries, rest) ← items? '\x7d' (member? true entry?) rest
      some (← ofEntries? (entries.map (·.2)), rest)
    | _ => none
  if (skipSpacing rest).isEmpty then some settings else none

end Settings

end FactScan
