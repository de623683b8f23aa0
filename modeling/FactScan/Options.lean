/-
# FactScan.Options — what a command line asks for

A command line is one of the commands with its term, and options before or after it, each
given as `--name value`, `--name=value` or by its letter.
-/
import FactScan.Command

namespace FactScan

set_option autoImplicit false

/-- What to do with a term. -/
inductive Task where
  | format
  | simplify
  | eval
  deriving DecidableEq, Repr

def Task.ofName? : String → Option Task
  | "fmt" => some .format
  | "simplify" => some .simplify
  | "eval" => some .eval
  | _ => none

/-- A command line taken apart; files are still names. -/
structure Options where
  verbose : Bool := false
  json : Bool := false
  /-- Colours whatever the terminal, or never; nothing leaves it to the terminal. -/
  colors : Option Bool := none
  settings : Option String := none
  maxDepth : Option Nat := none
  traceLevel : Option Level := none
  fact : Option String := none
  rows : Option String := none
  series : Option String := none
  /-- What is no option, in order. -/
  words : List String := []

namespace Options

def usage : String :=
  "Usage: factscan [OPTIONS] <COMMAND> <TERM>\n\n"
    ++ "Commands:\n"
    ++ "  eval      Evaluate a term\n"
    ++ "  simplify  Print the simplified form of a term\n"
    ++ "  fmt       Print the canonical form of a term\n\n"
    ++ "Options:\n"
    ++ "  -v, --verbose              Log registry changes and every dispatched term\n"
    ++ "      --json                 Print results as JSON\n"
    ++ "  -c, --config <FILE>        Engine configuration file (JSON)\n"
    ++ "      --max-depth <N>        Maximum evaluation depth\n"
    ++ "      --trace-level <LEVEL>  Level that traced logs at\n"
    ++ "      --color <MODE>         Color output (auto, always, never)\n\n"
    ++ "Options of eval:\n"
    ++ "  -f, --fact <FILE>          Fact to evaluate against (JSON object)\n"
    ++ "  -m, --maps <FILE>          Rows for aggregate operators (JSON array of objects)\n"
    ++ "  -r, --repeat-over <FILE>   Facts to scan (JSON array of objects)"

/-- The mode of colouring; a name that means nothing leaves it to the terminal. -/
def colorsOf (mode : String) : Option Bool :=
  match mode.toLower with
  | "always" => some true
  | "never" => some false
  | _ => none

/-- Switch on an option without value. -/
def switch? (o : Options) : String → Option Options
  | "-v" | "--verbose" => some { o with verbose := true }
  | "--json" => some { o with json := true }
  | _ => none

/-- Set an option that has a value; nothing if there is no such option. -/
def set? (o : Options) (name value : String) : Option (Except String Options) :=
  match name with
  | "-c" | "--config" => some (.ok { o with settings := some value })
  | "-f" | "--fact" => some (.ok { o with fact := some value })
  | "-m" | "--maps" => some (.ok { o with rows := some value })
  | "-r" | "--repeat-over" => some (.ok { o with series := some value })
  | "--color" => some (.ok { o with colors := colorsOf value })
  | "--max-depth" => some <|
    match Decimal.unsigned? 64 value.toList with
    | some n => .ok { o with maxDepth := some n }
    | none => .error ("invalid value '" ++ value ++ "' for '--max-depth'")
  | "--trace-level" => some <|
    match Command.traceLevel value with
    | .ok level => .ok { o with traceLevel := some level }
    | .error causes =>
      .error ("invalid value '" ++ value ++ "' for '--trace-level': "
        ++ ": ".intercalate (causes.map Command.Cause.message))
  | _ => none

/-- Whether an argument is an option rather than a word. -/
def isOption (arg : String) : Bool :=
  match arg.toList with
  | '-' :: _ :: _ => true
  | _ => false

/-- The name and value of an argument of the form `--name=value`. -/
def assignment? (arg : String) : Option (String × String) :=
  let name := arg.toList.takeWhile (· != '=')
  match arg.toList.drop name.length with
  | _ :: value => some (String.ofList name, String.ofList value)
  | [] => none

/-- What an argument that needs no other one does. -/
def alone? (o : Options) (arg : String) : Option (Except String Options) :=
  match o.switch? arg with
  | some o => some (.ok o)
  | none => (assignment? arg).bind fun (name, value) => o.set? name value

/-- The options of a list of arguments. -/
def ofArgs : Options → List String → Except String Options
  | o, [] => .ok o
  | o, arg :: rest =>
    if !isOption arg then ofArgs { o with words := o.words ++ [arg] } rest
    else
      match o.alone? arg, rest with
      | some (.ok o), rest => ofArgs o rest
      | some (.error e), _ => .error e
      | none, [] => .error ("unexpected argument '" ++ arg ++ "'")
      | none, value :: rest =>
        match o.set? arg value with
        | some (.ok o) => ofArgs o rest
        | some (.error e) => .error e
        | none => .error ("unexpected argument '" ++ arg ++ "'")

/-- The task and the term of the options. -/
def task (o : Options) : Except String (Task × String) :=
  match o.words with
  | [name, term] =>
    match Task.ofName? name with
    | none => .error ("unrecognized command '" ++ name ++ "'")
    | some task =>
      if task ≠ .eval ∧ (o.fact.isSome ∨ o.rows.isSome ∨ o.series.isSome) then
        .error "a file of facts or rows is for 'eval' only"
      else if o.fact.isSome ∧ o.series.isSome then
        .error "the argument '--fact' cannot be used with '--repeat-over'"
      else .ok (task, term)
  | _ => .error "a command and a term are required"

end Options

namespace Command

/-- The files that a command line names, as far as they can be read. -/
structure Files where
  settings : Option File := none
  inputs : Inputs := {}

/-- Whether a record is shown: what terms log themselves, or all but single steps. -/
def isShown (verbose : Bool) (r : Record) : Bool :=
  if verbose then r.level ≠ .trace else r.isTraced

/-- Carry out a command line: what to print or why it failed, and the records to show. -/
def carryOut (o : Options) (colors : Bool) (task : Task) (source : String) (files : Files) :
    Outcome String × List Record :=
  match settings files.settings o.maxDepth o.traceLevel with
  | .error causes => (.error causes, [])
  | .ok s =>
    let (outcome, host) : Outcome String × Host :=
      match task with
      | .format => (format source, {})
      | .simplify => simplify {} s source
      | .eval =>
        match eval {} s source files.inputs with
        | (results, host) => (results.map (render o.json colors), host)
    (outcome, host.log.reverse.filter (isShown o.verbose))

end Command

end FactScan
