/-
# FactScan.Main — the command line

Reads the arguments and the files they name, and prints.  Results go to standard output,
records and failures to standard error.
-/
import FactScan.Options

open FactScan

namespace FactScan.Main

set_option autoImplicit false

/-- A file by its name, with its content if it can be read. -/
def readFile (name : String) : IO Command.File := do
  try
    return ⟨name, some (← IO.FS.readFile name)⟩
  catch _ =>
    return ⟨name, none⟩

def readOptional (name : Option String) : IO (Option Command.File) := do
  match name with
  | some name => return some (← readFile name)
  | none => return none

def readFiles (o : Options) : IO Command.Files := do
  let settings ← readOptional o.settings
  let fact ← readOptional o.fact
  let rows ← readOptional o.rows
  let series ← readOptional o.series
  return ⟨settings, ⟨fact, rows, series⟩⟩

/-- Whether to colour when the command line leaves it open. -/
def terminalColors : IO Bool := do
  if (← IO.getEnv "NO_COLOR").isSome then return false
  (← IO.getStdout).isTty

def run (o : Options) (task : Task) (source : String) : IO UInt32 := do
  let colors ← match o.colors with
    | some c => pure c
    | none => terminalColors
  let (outcome, records) := Command.carryOut o colors task source (← readFiles o)
  for r in records do
    IO.eprintln (r.level.name ++ ": " ++ r.text)
  match outcome with
  | .ok out =>
    IO.println out
    return 0
  | .error causes =>
    IO.eprintln (Command.failureText colors causes)
    return if causes.isAbort then 101 else 1

end FactScan.Main

/-- The exit code is `0`, or `1` for a failure, or `2` for a command line that asks for
nothing there is, or `101` for an abort. -/
def main (args : List String) : IO UInt32 := do
  if args.isEmpty || args.contains "-h" || args.contains "--help" then
    IO.println Options.usage
    return if args.isEmpty then 2 else 0
  let parsed := do
    let o ← Options.ofArgs {} args
    let (task, source) ← o.task
    return (o, task, source)
  match parsed with
  | .ok (o, task, source) => FactScan.Main.run o task source
  | .error e =>
    IO.eprintln ("error: " ++ e ++ "\n\n" ++ Options.usage)
    return 2
