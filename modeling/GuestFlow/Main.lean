import GuestFlow.Console.Command

/-!
# The console program

Everything that the commands decide is decided without a console.  What is left for the
program is to fetch the variables and the files that the arguments name, to pass
questions and answers to and fro, and to write the reply.
-/

set_option autoImplicit false

namespace GuestFlow.Console.Program

/-- The variables that settings come from. -/
def variableNames : List String := [
  "WORKFLOW_LOG_LEVEL", "WORKFLOW_LOG_FORMAT", "WORKFLOW_DEFINITIONS_DIR",
  "WORKFLOW_STRICT_OUTPUTS", "WORKFLOW_MAX_AUTO_ADVANCE", "API_HOST", "API_PORT", "API_RELOAD"]

def fetchVariable (name : String) : IO (Option (String × String)) := do
  let value ← IO.getEnv name
  pure (value.map fun text => (name, text))

/-- What lies under a name, if something does. -/
def fetchEntry (name : String) : IO (Option (String × Entry)) := do
  try
    let content ← IO.FS.readBinFile name
    pure (some (name, .file content.toList))
  catch
    | .inappropriateType .. => pure (some (name, .directory))
    | _ => pure none

/-- A line without its end, or nothing where no more lines come. -/
def fetchLine (input : IO.FS.Stream) : IO (Option String) := do
  let line ← input.getLine
  if line.isEmpty then pure none
  else pure (some (if line.endsWith "\n" then (line.dropEnd 1).toString else line))

/-- Asks until the walk is over; what was said is written already. -/
partial def converse (input output : IO.FS.Stream) (walk : Walk) : IO Walk := do
  match walk.stage with
  | .over _ => pure walk
  | _ =>
    output.putStr walk.question
    output.flush
    let (said, after) := walk.answer (← fetchLine input)
    output.putStr said
    converse input output after

def writeReply (reply : Reply) : IO UInt32 := do
  IO.print reply.output
  IO.eprint reply.errors
  match reply.fault with
  | some fault => IO.eprintln fault.message
  | none => pure ()
  pure (UInt32.ofNat reply.code)

/-- Carries out what the arguments ask for and gives the exit code. -/
def execute (arguments : List String) : IO UInt32 := do
  let environment := Environment.ofVariables (← variableNames.filterMapM fetchVariable)
  let tree := Tree.ofEntries (← arguments.filterMapM fetchEntry)
  match proceed tree environment arguments with
  | .done reply => writeReply reply
  | .walking said walk => do
    IO.print said
    let last ← converse (← IO.getStdin) (← IO.getStdout) walk
    writeReply (replyTo "" last)

end GuestFlow.Console.Program

def main (arguments : List String) : IO UInt32 :=
  GuestFlow.Console.Program.execute arguments
