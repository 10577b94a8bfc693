import GuestFlow.Console.Assignments
import GuestFlow.Runner.Waiting

/-!
# Walking through a workflow

On the console a person walks through a workflow step by step.  At every step the walk
describes where it stands and asks two things: which output to take, and what data to
add.  Instead of an output, `back` undoes a step and `quit` ends the walk.

A walk never waits for an answer itself: `Walk.answer` takes one and gives the walk that
follows, with what is to be said.  `Walk.play` gives all answers at once.
-/

set_option autoImplicit false

namespace GuestFlow.Console

/-- How a walk ended. -/
inductive Ending where
  /-- The workflow is over, or the person left it. -/
  | left
  /-- There were no more answers. -/
  | aborted
  /-- The data could not be read. -/
  | misread (problem : String)
  | failed (fault : Fault)

/-- What a walk asks for. -/
inductive Stage where
  /-- An output; an empty answer means the usual one. -/
  | choosing (usual : String)
  /-- The data to complete the output with. -/
  | entering (output : String)
  | over (ending : Ending)

structure Walk where
  runner : Runner
  stage : Stage

namespace Walk

/-! ## Where a walk stands -/

/-- The line about an output. -/
def outputLine (output : Output) : String :=
  let target := output.target.getD ""
  "  - " ++ output.id ++ ": " ++
    (if output.label ≠ "" then output.label else if target ≠ "" then target else "(end)") ++ "\n"

/-- The line about what a condition checks. -/
def conditionLine (node : Node) : Except Fault String := do
  let operator := node.config.field "operator"
  let field ← (node.config.field "field").text?
  let operator ← (if operator.isTruthy then operator else .text "truthy").text?
  let value ← ((node.config.field? "value").getD (.text "")).text?
  .ok ("  condition: " ++ field ++ " " ++ operator ++ " " ++ value ++ "\n")

/-- Everything about a node, up to the first part that has no text. -/
def describe (node : Node) : String × Option Fault :=
  let title := "\n[" ++ node.kind ++ "] " ++ (if node.label = "" then node.id else node.label) ++ "\n"
  let outputs := String.join (node.outputs.map outputLine)
  if node.isCondition then
    match conditionLine node with
    | .ok line => (title ++ line ++ outputs, none)
    | .error fault => (title, some fault)
  else (title ++ outputs, none)

/-- The output that an empty answer means. -/
def usualOutput (node : Node) : String := (node.outputIds.head?).getD defaultOutput

/-- Waits until the current step has been rendered and describes it. -/
def arrive (runner : Runner) : String × Walk :=
  let runner := runner.waitForRendering
  match runner.status, runner.machine.currentNode with
  | .running, some node =>
    match describe node with
    | (text, none) => (text, ⟨runner, .choosing (usualOutput node)⟩)
    | (text, some fault) => (text, ⟨runner, .over (.failed fault)⟩)
  | _, _ => ("", ⟨runner, .over .left⟩)

/-- Starts a workflow and goes to its first step. -/
def setOut (runner : Runner) : String × Walk :=
  match runner.start with
  | (runner, .ok _) => arrive runner
  | (runner, .error fault) => ("", ⟨runner, .over (.failed fault)⟩)

/-! ## Answers -/

/-- Says something and goes on to the next step. -/
def sayAndArrive (text : String) (runner : Runner) : String × Walk :=
  let (more, walk) := arrive runner
  (text ++ more, walk)

/-- What is said about data that was refused without a fault. -/
def refusal (runner : Runner) : String :=
  match runner.machine.lastRejection with
  | some rejection => "Rejected: " ++ rejection.fault.message ++ "\n"
  | none => "Input ignored\n"

def goBack (runner : Runner) : String × Walk :=
  match runner.goBack with
  | (runner, .ok (some _)) => arrive runner
  | (runner, .ok none) => sayAndArrive "Nothing to go back to\n" runner
  | (runner, .error fault) => ("", ⟨runner, .over (.failed fault)⟩)

def choose (runner : Runner) (choice : String) : String × Walk :=
  if choice = "quit" then ("", ⟨runner, .over .left⟩)
  else if choice = "back" then goBack runner
  else ("", ⟨runner, .entering choice⟩)

def submit (runner : Runner) (output : String) (data : Record) : String × Walk :=
  match runner.submit output (some data) with
  | (runner, .ok submission) =>
    if submission.isAccepted then arrive runner else sayAndArrive (refusal runner) runner
  | (runner, .error (.undeclared node output declared)) =>
    sayAndArrive ("Rejected: " ++ (Fault.undeclared node output declared).message ++ "\n") runner
  | (runner, .error fault) => ("", ⟨runner, .over (.failed fault)⟩)

def enter (runner : Runner) (output line : String) : String × Walk :=
  match parseAssignments line with
  | .ok data => submit runner output data
  | .error (.badParameter problem) => ("", ⟨runner, .over (.misread problem)⟩)
  | .error fault => ("", ⟨runner, .over (.failed fault)⟩)

/-- Takes an answer; without one the walk is aborted. -/
def answer (walk : Walk) (line : Option String) : String × Walk :=
  match walk.stage, line with
  | .over _, _ => ("", walk)
  | _, none => ("", { walk with stage := .over .aborted })
  | .choosing usual, some line => choose walk.runner (if line = "" then usual else line)
  | .entering output, some line => enter walk.runner output line

/-- The question that a walk asks. -/
def question (walk : Walk) : String :=
  match walk.stage with
  | .choosing usual => "output (or back/quit) [" ++ usual ++ "]: "
  | .entering _ => "data (key=value ...): "
  | .over _ => ""

/-- Gives answers one after another, and all that is to be seen of it: questions, answers and
what is said. -/
def play : List String → Walk → String × Walk
  | [], walk =>
    let (said, after) := walk.answer none
    (walk.question ++ said, after)
  | line :: rest, walk =>
    match walk.stage with
    | .over _ => ("", walk)
    | _ =>
      let (said, after) := walk.answer (some line)
      let (more, last) := play rest after
      (walk.question ++ line ++ "\n" ++ said ++ more, last)

end Walk

end GuestFlow.Console
