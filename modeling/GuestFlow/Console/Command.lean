import GuestFlow.Console.Arguments
import GuestFlow.Console.Walk
import GuestFlow.Document.Source
import GuestFlow.Settings.Basic

/-!
# The commands of the console

There are four commands: `validate` checks a definition, `inspect` shows one, `run` walks
through one, and `serve` says where the service is to listen.

`proceed` takes the arguments up to the point where a person has to answer, and `conclude`
says what is to be said in the end.  `run` does all of it, given the answers.
-/

set_option autoImplicit false

namespace GuestFlow.Console

/-- Where and how the service is to listen. -/
structure Server where
  host : String
  portNumber : Int
  reload : Bool

/-- What a command leaves behind: its exit code, what it wrote, and a fault that broke it off. -/
structure Reply where
  code : Nat
  output : String
  errors : String
  fault : Option Fault
  server : Option Server

namespace Reply

def said (output : String) : Reply := ⟨0, output, "", none, none⟩

def complained (output errors : String) : Reply := ⟨1, output, errors, none, none⟩

def broken (output : String) (fault : Fault) : Reply := ⟨1, output, "", some fault, none⟩

def misused (output : String) (usage : Usage) : Reply :=
  ⟨2, output, "Error: " ++ usage.message ++ "\n", none, none⟩

end Reply

/-! ## The commands and their options -/

inductive Command where
  | inspect
  | run
  | serve
  | validate
  deriving DecidableEq, Repr

namespace Command

def all : List Command := [.inspect, .run, .serve, .validate]

def name : Command → String
  | .inspect => "inspect"
  | .run => "run"
  | .serve => "serve"
  | .validate => "validate"

def summary : Command → String
  | .inspect => "Show the nodes and transitions of a workflow"
  | .run => "Walk through a workflow interactively"
  | .serve => "Start the API server"
  | .validate => "Validate a workflow definition"

def ofName? (name : String) : Option Command := all.find? fun command => command.name == name

def helpOption : OptionForm := ⟨"--help", false⟩

def options : Command → List OptionForm
  | .inspect => [⟨"--as-json", false⟩, helpOption]
  | .run => [⟨"--event-id", true⟩, helpOption]
  | .serve =>
    [⟨"--host", true⟩, ⟨"--port", true⟩, ⟨"--reload", false⟩, ⟨"--no-reload", false⟩, helpOption]
  | .validate => [helpOption]

/-- The options in front of the command. -/
def commonOptions : List OptionForm := [⟨"--log-level", true⟩, helpOption]

end Command

/-! ## Help -/

/-- Lines of two columns. -/
def columns (rows : List (String × String)) : String :=
  let width := (rows.map fun row => row.1.length).foldl max 0
  String.join (rows.map fun (left, right) =>
    "  " ++ left ++ String.ofList (List.replicate (width + 2 - left.length) ' ') ++ right ++ "\n")

def helpRow : String × String := ("--help", "Show this message and exit.")

def Command.rows : Command → List (String × String)
  | .inspect => [("--as-json", "Print the normalized definition as JSON"), helpRow]
  | .run => [("--event-id TEXT", "Host event id passed to the steps"), helpRow]
  | .serve => [
    ("--host TEXT", "Host to bind to (API_HOST)"),
    ("--port INTEGER", "Port to bind to (API_PORT)"),
    ("--reload / --no-reload", "Toggle auto-reload (API_RELOAD)"), helpRow]
  | .validate => [helpRow]

def Command.help (command : Command) : String :=
  "Usage: cli " ++ command.name ++ " [OPTIONS]" ++
    (if command = .serve then "" else " WORKFLOW_FILE") ++ "\n\n  " ++ command.summary ++
    "\n\nOptions:\n" ++ columns command.rows

def generalHelp : String :=
  "Usage: cli [OPTIONS] COMMAND [ARGS]...\n\n  Guest Workflow Runtime CLI\n\nOptions:\n" ++
    columns [("--log-level TEXT", "Override WORKFLOW_LOG_LEVEL"), helpRow] ++ "\nCommands:\n" ++
    columns (Command.all.map fun command => (command.name, command.summary))

/-! ## The workflow file -/

/-- The name under which the file is asked for. -/
def fileArgument : String := "WORKFLOW_FILE"

/-- Whether a text can only mean a directory. -/
def namesDirectory (text : String) : Bool := text = "" || text.toList.getLast? = some '/'

/-- The path of a file that is there. -/
def existingFile (tree : Tree) (text : String) : Except Usage Path :=
  let path := Path.ofText text
  let absent : Except Usage Path :=
    .error (.badValue fileArgument ("File " ++ Quoted.quote text ++ " does not exist."))
  match tree.find path with
  | .error _ => absent
  | .ok (_, .directory) =>
    if text = "" then absent
    else .error (.badValue fileArgument ("File " ++ Quoted.quote text ++ " is a directory."))
  | .ok (_, .file _) => if namesDirectory text then absent else .ok path

/-- The only plain argument, as a file that is there. -/
def takeFile (tree : Tree) (given : Given) : Except Usage (String × Path) :=
  match given.arguments with
  | [] => .error (.missingArgument fileArgument)
  | text :: rest => do
    let path ← existingFile tree text
    if rest.isEmpty then .ok (text, path) else .error (.extraArguments rest)

/-- The graph of the definition in a file. -/
def loadGraph (tree : Tree) (path : Path) : Except Fault Graph := do
  let (definition, _) ← (Document.readPath tree ⟨0⟩ path).2
  Graph.ofDefinition definition

/-- The problems of a definition that is of no use, or the fault that broke off. -/
def complain (heading : String) (fault : Fault) : Reply :=
  if fault.isDefinitionFault then
    .complained "" (heading ++ Document.listProblems fault.problems none ++ "\n")
  else .broken "" fault

/-! ## Validating -/

/-- The name of a workflow, or its id if it has none. -/
def title (graph : Graph) : String :=
  if graph.definition.name = "" then graph.id else graph.definition.name

def validate (tree : Tree) (text : String) (path : Path) : Reply :=
  match loadGraph tree path with
  | .error fault => complain ("✗ " ++ text ++ " is invalid\n") fault
  | .ok graph =>
    .said ("✓ " ++ title graph ++ " is valid (" ++ toString graph.size ++ " nodes, entry '" ++
      graph.entryId ++ "')\n")

/-! ## Inspecting -/

def outputRow (output : Output) : String :=
  let target := output.target.getD ""
  "    --" ++ output.id ++ "--> " ++ (if target = "" then "(end)" else target) ++ "\n"

/-- A node with its outputs; an asterisk marks the entry. -/
def nodeRows (graph : Graph) (node : Node) : String :=
  (if node.id = graph.entryId then "* " else "  ") ++ node.id ++ " [" ++ node.kind ++ "] " ++
    node.label ++ "\n" ++ String.join (node.outputs.map outputRow)

/-- A workflow on the page. -/
def overview (graph : Graph) : String :=
  "Workflow: " ++ title graph ++ " (v" ++ graph.definition.version ++ ")\nEntry: " ++
    graph.entryId ++ "\n" ++ String.join (graph.definition.nodes.map (nodeRows graph))

def inspect (tree : Tree) (path : Path) (asJson : Bool) : Reply :=
  match loadGraph tree path with
  | .error fault => complain "" fault
  | .ok graph =>
    if asJson then
      match Json.write .page graph.definition.toDocument with
      | .ok text => .said (text ++ "\n")
      | .error fault => .broken "" fault
    else .said (overview graph)

/-! ## Walking -/

/-- A walk through the workflow in a file, at its first question. -/
def beginWalk (tree : Tree) (settings : Settings) (path : Path) (eventId : String) :
    Except Reply (String × Walk) :=
  match loadGraph tree path with
  | .error fault => .error (complain "" fault)
  | .ok graph =>
    .ok (Walk.setOut (Runner.create graph Registry.usual settings.strictOutputs eventId
      settings.maxAutoAdvance (some Agenda.empty)))

/-- What is said when the workflow is over or was left. -/
def conclude (output : String) (runner : Runner) : Reply :=
  let run := runner.machine.run
  let status := output ++ "\nStatus: " ++ run.status.name ++ "\n"
  let message := run.error.getD ""
  let report := status ++ (if message = "" then "" else "Error: " ++ message ++ "\n")
  match Json.write .lenientPage (.record run.data) with
  | .error fault => .broken report fault
  | .ok text =>
    if run.status = .error then .complained (report ++ text ++ "\n") ""
    else .said (report ++ text ++ "\n")

/-- The reply to a walk, with what was seen of it. -/
def replyTo (output : String) (walk : Walk) : Reply :=
  match walk.stage with
  | .over (.failed fault) => .broken output fault
  | .over (.misread problem) => .misused output (.badInput problem)
  | .over .left => conclude output walk.runner
  | _ => .complained output "Aborted!\n"

/-! ## Serving -/

def readPortNumber (text : String) : Except Usage Int :=
  match Numeral.readInteger 10 text with
  | .ok number => .ok number
  | .error _ => .error (.badValue "--port" (Quoted.quote text ++ " is not a valid integer."))

/-- The last word on reloading, if anything was said about it. -/
def reloadChoice (given : Given) : Option Bool :=
  (given.options.reverse.find? fun option =>
    option.name == "--reload" || option.name == "--no-reload").map fun option =>
      option.name == "--reload"

/-- Where the service is to listen: an empty host and the number zero count as not given. -/
def serve (settings : Settings) (given : Given) : Except Usage Reply := do
  let number ← (given.value? "--port").mapM readPortNumber
  if given.arguments.isEmpty then
    let host := (given.value? "--host").getD ""
    let host := if host = "" then settings.host else host
    let portNumber := if number.getD 0 = 0 then settings.portNumber else number.getD 0
    let reload := (reloadChoice given).getD settings.reload
    .ok { Reply.said ("Starting API server on " ++ host ++ ":" ++ toString portNumber ++ "\n") with
      server := some ⟨host, portNumber, reload⟩ }
  else .error (.extraArguments given.arguments)

/-! ## All commands -/

/-- A command that is done, or a walk that waits for an answer after something was said. -/
inductive Progress where
  | done (reply : Reply)
  | walking (said : String) (walk : Walk)

/-- Carries out a command whose arguments are known. -/
def perform (tree : Tree) (settings : Settings) (command : Command) (given : Given) :
    Except Usage Progress :=
  if given.has "--help" then .ok (.done (.said command.help))
  else match command with
    | .serve => do
      let reply ← serve settings given
      .ok (.done reply)
    | .validate => do
      let (text, path) ← takeFile tree given
      .ok (.done (validate tree text path))
    | .inspect => do
      let (_, path) ← takeFile tree given
      .ok (.done (inspect tree path (given.has "--as-json")))
    | .run => do
      let (_, path) ← takeFile tree given
      match beginWalk tree settings path ((given.value? "--event-id").getD "") with
      | .error reply => .ok (.done reply)
      | .ok (said, walk) => .ok (.walking said walk)

/-- Carries out a command. -/
def beginCommand (tree : Tree) (settings : Settings) (command : Command)
    (arguments : List String) : Except Usage Progress := do
  let given ← readArguments command.options true arguments
  perform tree settings command given

/-- The settings of an environment, with the level that an option asks for. -/
def settingsFor (environment : Environment) (given : Given) : Except Fault Settings := do
  let settings ← Settings.ofEnvironment environment
  let level := (given.value? "--log-level").getD ""
  .ok (if level = "" then settings else { settings with logLevel := Letter.capital level })

/-- Finds the command and carries it out. -/
def dispatch (tree : Tree) (environment : Environment) (given : Given) : Except Usage Progress :=
  match given.arguments with
  | [] => .error .missingCommand
  | name :: rest =>
    match Command.ofName? name with
    | none => .error (.noSuchCommand name (Likeness.suggestions name (Command.all.map Command.name)))
    | some command =>
      match settingsFor environment given with
      | .error fault => .ok (.done (.broken "" fault))
      | .ok settings => beginCommand tree settings command rest

/-- Reads all arguments. -/
def interpret (tree : Tree) (environment : Environment) (arguments : List String) :
    Except Usage Progress := do
  let given ← readArguments Command.commonOptions false arguments
  if given.has "--help" then .ok (.done (.said generalHelp))
  else dispatch tree environment given

/-- Carries out what the arguments ask for, up to the first question.  Without any arguments help
is given, but as a complaint. -/
def proceed (tree : Tree) (environment : Environment) (arguments : List String) : Progress :=
  if arguments.isEmpty then .done ⟨2, "", generalHelp, none, none⟩
  else match interpret tree environment arguments with
    | .ok progress => progress
    | .error usage => .done (.misused "" usage)

/-- Carries out what the arguments ask for, with all answers at hand. -/
def run (tree : Tree) (environment : Environment) (arguments answers : List String) : Reply :=
  match proceed tree environment arguments with
  | .done reply => reply
  | .walking said walk =>
    let (seen, last) := walk.play answers
    replyTo (said ++ seen) last

end GuestFlow.Console
