import GuestFlow.Engine.Listener
import GuestFlow.Json.Writer
import GuestFlow.Runner.Agenda
import GuestFlow.Step.Registry

/-!
# The runner

A runner drives an engine on behalf of a host.  After every step it settles: conditions
that can be decided are completed at once, one after another, and then the current step
is given to its renderer, if there is an agenda to render on.

Settling is bounded in two ways.  There is a cap on the conditions completed in a row,
and the same condition is never tried twice at one activation with the same data; both
are visible in `Runner.settleConditions`, which goes down along the cap.
-/

set_option autoImplicit false

namespace GuestFlow

/-- A condition that was tried: the node, the activation and the data. -/
structure Guard where
  node : String
  activation : Nat
  data : String
  deriving DecidableEq, Repr

/-- The answer to a completion by a custom renderer. -/
structure Completion where
  node : String
  activation : Nat
  accepted : Bool
  deriving DecidableEq, Repr

/-- What a renderer is given for one stay at a node. -/
structure Props where
  node : Node
  data : Record
  eventId : String
  activation : Nat
  deriving DecidableEq

structure Runner where
  engine : Engine
  registry : Registry
  /-- The event of the host that the run belongs to. -/
  eventId : String
  /-- The most conditions completed in a row. -/
  cap : Int
  guards : List Guard
  /-- Whether the workflow is over, as far as events told. -/
  isFinished : Bool
  /-- The agenda that renderings run on, if there is one. -/
  agenda : Option Agenda
  /-- The rendering of the current step. -/
  rendering : Option Nat
  journal : Journal
  /-- What listeners noted. -/
  notes : List Value
  completions : List Completion

namespace Runner

def create (graph : Graph) (registry : Registry) (strict : Bool) (eventId : String) (cap : Int)
    (agenda : Option Agenda) : Runner where
  engine := .create (.create graph strict)
  registry
  eventId
  cap
  guards := []
  isFinished := false
  agenda
  rendering := none
  journal := []
  notes := []
  completions := []

def machine (runner : Runner) : Machine := runner.engine.machine

def status (runner : Runner) : Status := runner.machine.run.status

def log (runner : Runner) (journal : Journal) : Runner :=
  { runner with journal := runner.journal ++ journal }

/-- Whether the workflow is over after an event. -/
def finishedAfter (isFinished : Bool) : Option Event → Bool
  | none => isFinished
  | some event =>
    match event.kind with
    | .completed | .error => true
    | .started | .navigatedBack | .reset => false
    | .stepCompleted => isFinished

/-- Takes over what an operation of the engine did. -/
def absorb {α : Type} (runner : Runner) (report : Report α) : Runner :=
  { runner with
    engine := report.engine
    isFinished := finishedAfter runner.isFinished report.announcement
    journal := runner.journal ++ report.journal
    notes := runner.notes ++ report.notes }

/-! ## Rendering -/

/-- What the renderer of the current step is given, while the workflow runs. -/
def props? (runner : Runner) : Option Props :=
  match runner.machine.currentNode, runner.status with
  | some node, .running =>
    some ⟨node, runner.machine.run.data, runner.eventId, runner.machine.activation⟩
  | _, _ => none

/-- Asks the rendering of the current step to stop and forgets it. -/
def cancelRendering (runner : Runner) : Runner :=
  match runner.rendering with
  | none => runner
  | some id =>
    { runner with rendering := none, agenda := runner.agenda.map fun agenda => agenda.cancel id }

/-- Finds the renderer of a kind. -/
def resolve (runner : Runner) (kind : String) : Runner × Renderer :=
  let (registry, journal, renderer, _) := runner.registry.resolve kind
  ({ runner with registry }.log journal, renderer)

/-- The name of a rendering. -/
def renderingName (props : Props) : String :=
  "render-" ++ props.node.id ++ "-" ++ toString props.activation

/-- Gives the current step to its renderer. -/
def render (runner : Runner) : Runner :=
  let runner := runner.cancelRendering
  match runner.props?, runner.agenda with
  | some props, some agenda =>
    let (runner, renderer) := runner.resolve props.node.kind
    let (agenda, id) := agenda.create (renderingName props) props.node.id props.activation
      (renderer.actions props.node)
    { runner with agenda := some agenda, rendering := some id }
  | _, _ => runner

/-! ## Settling -/

/-- The text by which collected data is recognised. -/
def dataText (runner : Runner) : Except Fault String :=
  Json.write .sortedLine (.record runner.machine.run.data)

/-- Forgets the guards of earlier activations. -/
def pruneGuards (runner : Runner) : Runner :=
  { runner with
    guards := runner.guards.filter fun guard => guard.activation == runner.machine.activation }

/-- The current node, if it is a condition of a running workflow. -/
def currentCondition? (runner : Runner) : Option Node :=
  match runner.machine.currentNode, runner.status with
  | some node, .running => if node.isCondition then some node else none
  | _, _ => none

/-- A condition that can be completed now. -/
structure Prospect where
  node : Node
  decision : Decision
  guard : Guard

/-- The condition to be completed next: the current one, if it is decided and was not tried. -/
def prospect (runner : Runner) : Runner × Except Fault (Option Prospect) :=
  match runner.currentCondition? with
  | none => (runner, .ok none)
  | some node =>
    match runner.machine.evaluate (some node) with
    | .error fault => (runner, .error fault)
    | .ok (.unresolved, journal) => (runner.log journal, .ok none)
    | .ok (decision, journal) =>
      let runner := (runner.log journal).pruneGuards
      match runner.dataText with
      | .error fault => (runner, .error fault)
      | .ok data =>
        let guard : Guard := ⟨node.id, runner.machine.activation, data⟩
        (runner, .ok (if runner.guards.contains guard then none else some ⟨node, decision, guard⟩))

/-- What an automatic completion adds to the data. -/
def conditionData (prospect : Prospect) : Record :=
  [(.text ("_condition_" ++ prospect.node.id), .bool (prospect.decision == .holds))]

/-- Completes a condition through the output of its decision, and tells whether that worked. -/
def advance (runner : Runner) (prospect : Prospect) : Runner × Except Fault Bool :=
  let runner := ({ runner with guards := prospect.guard :: runner.guards }).log
    [.debug ("Auto-advancing condition " ++ quoted prospect.node.id ++ " via " ++
      quoted prospect.decision.name)]
  let report := runner.engine.complete prospect.decision.name (conditionData prospect)
    (some (runner.machine.activation : Int)) true
  let runner := runner.absorb report
  match report.reply with
  | .ok verdict => (runner, .ok verdict.isAccepted)
  | .error (.undeclared node output declared) =>
    let fault : Fault := .undeclared node output declared
    (runner.log [.error ("Condition " ++ quoted prospect.node.id ++ " cannot auto-advance: " ++
      fault.message)], .ok false)
  | .error fault => (runner, .error fault)

/-- Completes conditions one after another, at most `remaining` more; `done` counts those that were
completed. -/
def settleConditions : Nat → Nat → Runner → Runner × Except Fault Unit
  | remaining, done, runner =>
    match runner.prospect with
    | (runner, .error fault) => (runner, .error fault)
    | (runner, .ok none) => (runner, .ok ())
    | (runner, .ok (some prospect)) =>
      match remaining with
      | 0 =>
        (runner.log [.warning ("Stopped condition auto-advance at " ++ quoted prospect.node.id ++
          " after " ++ toString done ++ " consecutive steps")], .ok ())
      | remaining + 1 =>
        match runner.advance prospect with
        | (runner, .ok true) => settleConditions remaining (done + 1) runner
        | (runner, .ok false) => (runner, .ok ())
        | (runner, .error fault) => (runner, .error fault)

/-- Completes the conditions that can be completed and renders the step where the run rests. -/
def settle (runner : Runner) : Runner × Except Fault Unit :=
  match settleConditions runner.cap.toNat 0 runner with
  | (runner, .ok ()) => (runner.render, .ok ())
  | (runner, .error fault) => (runner, .error fault)

/-- Settles after an operation that took effect; the reply is that of the operation. -/
def settleAfter {α : Type} (runner : Runner) (reply : α) : Runner × Except Fault α :=
  match runner.settle with
  | (runner, .ok ()) => (runner, .ok reply)
  | (runner, .error fault) => (runner, .error fault)

/-! ## Operations -/

/-- Starts the workflow. -/
def start (runner : Runner) : Runner × Except Fault Bool :=
  let report := runner.engine.start
  let runner := runner.absorb report
  match report.reply with
  | .ok true => runner.settleAfter true
  | reply => (runner, reply)

/-- A completion that was issued for an activation. -/
def completeFor (runner : Runner) (activation : Int) (output : String) (data : Option Record) :
    Runner × Except Fault Verdict :=
  let report := runner.engine.complete output (data.getD []) (some activation) false
  let runner := runner.absorb report
  match report.reply with
  | .ok .accepted => runner.settleAfter .accepted
  | reply => (runner, reply)

/-- Completes the current step directly, without its renderer. -/
def complete (runner : Runner) (output : String) (data : Option Record) (activation : Option Int) :
    Runner × Except Fault Verdict :=
  runner.completeFor (activation.getD runner.machine.activation) output data

/-- What became of a guest's input. -/
inductive Submission where
  | verdict (verdict : Verdict)
  /-- There is no step to give the input to. -/
  | noStep
  /-- The renderer refused the input. -/
  | refused
  deriving DecidableEq, Repr

def Submission.isAccepted : Submission → Bool
  | .verdict answer => answer.isAccepted
  | _ => false

/-- Gives a guest's input to the renderer of the current step. -/
def submit (runner : Runner) (output : String) (data : Option Record) :
    Runner × Except Fault Submission :=
  match runner.props? with
  | none =>
    (runner.log [.debug ("Ignoring input " ++ quoted output ++ ": no active step")], .ok .noStep)
  | some props =>
    let (runner, renderer) := runner.resolve props.node.kind
    match renderer.input props.node output data with
    | none => (runner, .ok .refused)
    | some (output, data) =>
      let (runner, reply) := runner.completeFor props.activation output data
      (runner, reply.map .verdict)

/-- Undoes steps as long as the one undone was automatic; `fuel` bounds their number. -/
def unwind : Nat → Runner → Runner × Except Fault (Option HistoryEntry)
  | fuel, runner =>
    let report := runner.engine.goBack
    let runner := runner.absorb report
    match report.reply with
    | .ok (some entry) =>
      match fuel with
      | 0 => (runner, .ok (some entry))
      | fuel + 1 =>
        if entry.isAutomatic && runner.machine.run.canGoBack then unwind fuel runner
        else (runner, .ok (some entry))
    | reply => (runner, reply)

/-- Goes back to the last step that a person completed. -/
def goBack (runner : Runner) : Runner × Except Fault (Option HistoryEntry) :=
  match unwind runner.machine.run.history.length runner with
  | (runner, .ok (some entry)) => runner.settleAfter (some entry)
  | result => result

/-- Stops the rendering and discards the run. -/
def reset (runner : Runner) : Runner :=
  let runner := { runner.cancelRendering with guards := [] }
  runner.absorb runner.engine.reset

/-- Changes the engine from outside. -/
def withEngine (runner : Runner) (engine : Engine) : Runner := { runner with engine }

end Runner

end GuestFlow
