/-
# FactScan.Command — the commands

`fmt` writes a term in canonical form, `simplify` in simplified form, and `eval` evaluates
it against a fact or a series of facts.  Files are given by name and content, so that the
commands themselves touch none.  A failure is a chain of causes, outermost first.
-/
import FactScan.Fact.Document
import FactScan.Host
import FactScan.Json.Text
import FactScan.Term.Reader

namespace FactScan

set_option autoImplicit false

namespace Command

/-- A file by its name, and its content if it can be read. -/
structure File where
  name : String
  content : Option String

/-- One cause of a failure. -/
inductive Cause where
  | text (message : String)
  /-- A document that cannot be read. -/
  | document
  /-- A file that cannot be read. -/
  | file
  | evaluation (e : EvalError)

/-- The wording of causes that lie outside this library. -/
def Cause.message : Cause → String
  | .text message => message
  | .document => "<json>"
  | .file => "<io>"
  | .evaluation e => e.message

/-- Causes, outermost first. -/
abbrev Failure := List Cause

abbrev Outcome (α : Type) := Except Failure α

/-- The failure of an evaluation. -/
def Failure.ofEval (e : EvalError) : Failure := e.chain.map .evaluation

/-- Whether the program ended with a failure. -/
def Failure.isAbort (causes : Failure) : Bool :=
  causes.any fun
    | .evaluation e => e.isAbort
    | _ => false

/-- Put a context before a failure. -/
def within {α : Type} (context : String) : Outcome α → Outcome α
  | .ok a => .ok a
  | .error causes => .error (.text context :: causes)

/-- The result of an evaluation as an outcome. -/
def evaluated {α : Type} : Except EvalError α → Outcome α
  | .ok a => .ok a
  | .error e => .error (.ofEval e)

/-- The term given to a command. -/
def readTerm (source : String) : Outcome Term :=
  match Term.ofText source with
  | .ok t => .ok t
  | .error e => .error [.text ("Failed to read term: " ++ source), .text e.message]

/-! ## Settings -/

/-- A level in any case. -/
def traceLevel (value : String) : Outcome Level :=
  match Level.ofName? (String.ofList (value.toList.map Char.toLower)) with
  | some level => .ok level
  | none => .error [.text ("unknown trace level '" ++ value ++ "'")]

/-- The content of a file. -/
def contentOf (kind : String) (f : File) : Outcome String :=
  match f.content with
  | some content => .ok content
  | none => .error [.text ("Failed to read " ++ kind ++ " file: " ++ f.name), .file]

/-- Settings from a file if there is one, and what the command line says instead. -/
def settings (file : Option File) (maxDepth : Option Nat) (level : Option Level) :
    Outcome Settings := do
  let base ←
    match file with
    | none => .ok {}
    | some f =>
      match Settings.ofText? (← contentOf "config" f) with
      | some s => .ok s
      | none => .error [.text ("Failed to parse config file: " ++ f.name), .document]
  return ⟨maxDepth.getD base.maxDepth, level.getD base.traceLevel⟩

/-! ## Data -/

def document (f : File) : Outcome Json := do
  match Json.ofText? (← contentOf "data" f) with
  | some j => .ok j
  | none => .error [.text ("Failed to parse data file: " ++ f.name), .document]

def rows (f : File) : Outcome (List Row) := do
  within ("Invalid rows in " ++ f.name) (evaluated (Row.rowsOfJson (← document f)))

def fact (f : File) : Outcome Fact := do
  let h ← within ("Invalid fact in " ++ f.name) (evaluated (Histories.ofJson (← document f)))
  return .memory h

def facts (f : File) : Outcome (List Fact) := do
  match ← document f with
  | .array items =>
    let hs ← within ("Invalid fact in " ++ f.name) (evaluated (Histories.listOfJson items))
    return hs.map .memory
  | _ => .error [.text ("Expected a JSON array of facts in " ++ f.name)]

/-! ## Output -/

/-- What an evaluation produced: one value, or one for each fact of a scan. -/
inductive Results where
  | single (v : Value)
  | scan (vs : List Value)

/-- A text in a terminal style, if colours are on. -/
def styled (colors : Bool) (style text : String) : String :=
  if colors then "\x1b[" ++ style ++ "m" ++ text ++ "\x1b[0m" else text

/-- A value for the terminal: nothing dimmed, `true` green and `false` red. -/
def valueText (colors : Bool) : Value → String
  | .nil => styled colors "2" "nil"
  | .scalar (.boolean true) => styled colors "32" "true"
  | .scalar (.boolean false) => styled colors "31" "false"
  | v => v.text

/-- A number right-aligned in four columns. -/
def column4 (n : Nat) : String :=
  let digits := toString n
  String.ofList (List.replicate (4 - digits.length) ' ') ++ digits

/-- Results as text, one numbered line for each fact of a scan, or as a document. -/
def render (json colors : Bool) : Results → String
  | .single v => if json then v.toJson.prettyText else valueText colors v
  | .scan vs =>
    if json then (Json.array (vs.map Value.toJson)).prettyText
    else
      "\n".intercalate
        ((vs.zipIdx).map fun (v, i) => column4 i ++ "  " ++ valueText colors v)

/-- A failure on one line. -/
def failureText (colors : Bool) (causes : Failure) : String :=
  styled colors "1;31" "Error:" ++ " " ++ ": ".intercalate (causes.map Cause.message)

/-! ## Commands -/

/-- The canonical form of a term. -/
def format (source : String) : Outcome String := return (← readTerm source).text

/-- The engine of the commands, over the common registry. -/
def engine (settings : Settings) : Engine := ⟨Host.common, settings⟩

/-- The simplified form of a term. -/
def simplify (host : Host) (settings : Settings) (source : String) : Outcome String × Host :=
  match readTerm source with
  | .error causes => (.error causes, host)
  | .ok t =>
    match host.simplify (engine settings) ⟨t, .blank⟩ with
    | (i, host) => (.ok i.term.text, host)

/-- What to evaluate a term against. -/
structure Inputs where
  fact : Option File := none
  rows : Option File := none
  series : Option File := none

/-- Evaluate a term against a fact, or one instance against each fact of a series. -/
def eval (host : Host) (settings : Settings) (source : String) (inputs : Inputs) :
    Outcome Results × Host :=
  let prepared : Outcome (Term × List Row × (Fact ⊕ List Fact)) := do
    let t ← readTerm source
    let rows ←
      match inputs.rows with
      | some f => rows f
      | none => .ok []
    match inputs.series with
    | some f => return (t, rows, .inr (← facts f))
    | none =>
      match inputs.fact with
      | some f => return (t, rows, .inl (← fact f))
      | none => return (t, rows, .inl (.memory []))
  match prepared with
  | .error causes => (.error causes, host)
  | .ok (t, rows, .inl f) =>
    match host.addFact f with
    | (id, host) =>
      match host.evaluate (engine settings) rows ⟨t, .blank⟩ id with
      | (r, _, host) => ((evaluated r).map .single, host)
  | .ok (t, rows, .inr fs) =>
    match host.scan (engine settings) rows ⟨t, .blank⟩ fs with
    | (r, host) => ((evaluated r.values).map .scan, host)

end Command

end FactScan
