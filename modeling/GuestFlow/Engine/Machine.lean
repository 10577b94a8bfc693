import GuestFlow.Engine.Run
import GuestFlow.Value.Order
import GuestFlow.Workflow.Graph

/-!
# The machine

The machine walks a graph one step at a time.  It never moves by itself: each of its
operations is one transition, and everything a transition does is in the `Outcome` it
returns: the machine afterwards, the reply, the event to announce and the journal.

Every stay at a node has an activation token.  The token changes whenever the run
changes, so a completion that was issued for an earlier stay is told apart and ignored.
A completion through an output that the node does not declare is rejected; a strict
machine answers with a fault, any other with a verdict.
-/

set_option autoImplicit false

namespace GuestFlow

/-- A completion that was rejected because its output is not declared. -/
structure Rejection where
  node : String
  output : String
  declared : List String
  deriving DecidableEq, Repr

def Rejection.fault (rejection : Rejection) : Fault :=
  .undeclared rejection.node rejection.output rejection.declared

/-- What became of a completion. -/
inductive Verdict where
  | accepted
  /-- The workflow was not running. -/
  | ignored
  /-- The completion was issued for an activation that has ended. -/
  | stale
  /-- The node does not declare the output. -/
  | undeclared
  deriving DecidableEq, Repr

def Verdict.isAccepted : Verdict → Bool
  | .accepted => true
  | _ => false

structure Machine where
  graph : Graph
  /-- Whether a rejected completion is answered with a fault. -/
  strict : Bool
  run : Run
  /-- The events of the current run, the earliest first. -/
  events : List Event
  /-- The token of the current stay at a node. -/
  activation : Nat
  /-- The number of the latest event. -/
  sequence : Nat
  lastRejection : Option Rejection
  deriving DecidableEq

/-- Everything that one operation does. -/
structure Outcome (α : Type) where
  machine : Machine
  reply : Except Fault α
  announcement : Option Event
  journal : Journal

namespace Machine

/-- A machine at rest. -/
def create (graph : Graph) (strict : Bool) : Machine :=
  ⟨graph, strict, .fresh, [], 0, 0, none⟩

/-- The node where the run stands, if the graph still has it. -/
def currentNode (machine : Machine) : Option Node := machine.run.current.bind machine.graph.node?

/-- An operation that leaves the machine as it was. -/
def unchanged {α : Type} (machine : Machine) (reply : α) (journal : Journal) : Outcome α :=
  ⟨machine, .ok reply, none, journal⟩

/-- The machine with another run, at a new activation. -/
def enter (machine : Machine) (run : Run) : Machine :=
  { machine with run, activation := machine.activation + 1 }

/-- Numbers an event, keeps it and announces it, as the last thing an operation does. -/
def announce {α : Type} (machine : Machine) (event : Nat → Event) (reply : α) (journal : Journal) :
    Outcome α :=
  let sequence := machine.sequence + 1
  let event := event sequence
  ⟨{ machine with sequence, events := machine.events ++ [event] }, .ok reply, some event, journal⟩

/-- The name of the workflow, as the journal gives it. -/
def title (machine : Machine) : String := "Workflow " ++ quoted machine.graph.id

/-! ## Beginning -/

/-- Enters the workflow at its entry node. -/
def start (machine : Machine) : Outcome Bool :=
  if machine.run.status = .idle then
    let entry := machine.graph.entryId
    announce ({ machine with events := [] }.enter (.entering entry))
      (fun sequence => { kind := .started, sequence, node := some entry }) true
      [.info (machine.title ++ " started at node " ++ quoted entry)]
  else
    machine.unchanged false [.warning (machine.title ++ " cannot start from status " ++
      quoted machine.run.status.name)]

/-! ## Going forward -/

/-- The run failed: some node it needs is not there. -/
def fail (machine : Machine) (run : Run) (fault : Fault) : Outcome Verdict :=
  let message := fault.message
  announce (machine.enter (run.fail message))
    (fun sequence => { kind := .error, sequence, node := run.current, error := some message })
    .accepted [.error (machine.title ++ " failed: " ++ message)]

/-- The last node was left: the workflow is completed. -/
def finish (machine : Machine) (run : Run) (node output : String) : Outcome Verdict :=
  announce (machine.enter run.complete)
    (fun sequence =>
      { kind := .completed, sequence, node := some node, output := some output, data := run.data })
    .accepted
    [.info (machine.title ++ " completed at node " ++ quoted node ++ " via " ++ quoted output)]

/-- A node was left for another one. -/
def moveOn (machine : Machine) (run : Run) (node output next : String) (additions : Record) :
    Outcome Verdict :=
  announce (machine.enter (run.moveTo next))
    (fun sequence =>
      { kind := .stepCompleted, sequence, node := some node, output := some output,
        next := some next, data := additions })
    .accepted
    [.info ("Step " ++ quoted node ++ " completed via " ++ quoted output ++ " -> " ++ quoted next)]

/-- The completion is rejected: the node does not declare the output. -/
def reject (machine : Machine) (node : Node) (output : String) : Outcome Verdict :=
  let rejection : Rejection := ⟨node.id, output, node.outputIds⟩
  let machine := { machine with lastRejection := some rejection }
  if machine.strict then ⟨machine, .error rejection.fault, none, []⟩
  else machine.unchanged .undeclared
    [.warning ("Rejected completion: " ++ rejection.fault.message)]

/-- Leaves a node through an output it allows. -/
def leave (machine : Machine) (node : Node) (output : String) (additions : Record)
    (isAutomatic : Bool) : Outcome Verdict :=
  let run := machine.run.record node.id output additions isAutomatic
  match machine.graph.next node.id output with
  | .error fault => machine.fail run fault
  | .ok none => machine.finish run node.id output
  | .ok (some next) => machine.moveOn run node.id output next.id additions

/-- Whether a completion was issued for an activation that has ended. -/
def isStale (machine : Machine) (activation : Option Int) : Bool :=
  match activation with
  | none => false
  | some token => token != (machine.activation : Int)

/-- Completes the current step through an output and adds data.  A completion may carry the
activation it was issued for. -/
def complete (machine : Machine) (output : String) (additions : Record) (activation : Option Int)
    (isAutomatic : Bool) : Outcome Verdict :=
  match machine.run.status, machine.run.current with
  | .running, some current =>
    if machine.isStale activation then
      machine.unchanged .stale
        [.info ("Ignoring stale completion " ++ quoted output ++ " for activation " ++
          (match activation with | some token => toString token | none => "") ++ " (current " ++
          toString machine.activation ++ ")")]
    else
      match machine.graph.node? current with
      | none => machine.fail machine.run (.dangling current output current)
      | some node =>
        if node.allows output then machine.leave node output additions isAutomatic
        else machine.reject node output
  | status, _ =>
    machine.unchanged .ignored
      [.debug ("Ignoring completion " ++ quoted output ++ ": workflow is " ++ status.name)]

/-! ## Going back -/

/-- What is announced about a step that was undone. -/
def backData (left : Option String) (restored : List Value) : Record :=
  Record.ofFields [("left_node_id", optionalText left), ("restored_keys", .list restored)]

/-- Undoes the latest step.  The keys it restored are announced in increasing order; if they have
none, the step is undone all the same and the fault is the reply. -/
def goBack (machine : Machine) : Outcome (Option HistoryEntry) :=
  match machine.run.history with
  | [] => machine.unchanged none []
  | entry :: earlier =>
    if machine.run.canGoBack then
      let undone := machine.enter (machine.run.undo entry earlier)
      let journal := [.info ("Navigated back to node " ++ quoted entry.node)]
      match sortWith Value.isBelow entry.touched.keys with
      | .error fault => ⟨undone, .error fault, none, journal⟩
      | .ok restored =>
        announce undone
          (fun sequence =>
            { kind := .navigatedBack, sequence, node := some entry.node,
              output := some entry.output, data := backData machine.run.current restored })
          (some entry) journal
    else
      machine.unchanged none
        [.warning ("Cannot go back from status " ++ quoted machine.run.status.name)]

/-! ## Beginning anew -/

/-- Discards the run.  The announcement is not kept among the events. -/
def reset (machine : Machine) : Outcome Unit :=
  let cleared := { machine with events := [], lastRejection := none }.enter .fresh
  ⟨cleared, .ok (), some { kind := .reset, sequence := machine.sequence },
    [.info (machine.title ++ " reset")]⟩

/-! ## Looking ahead -/

/-- The decision of a condition node, the current one if none is named, on the collected data. -/
def evaluate (machine : Machine) (node : Option Node) : Except Fault (Decision × Journal) :=
  match node.orElse fun _ => machine.currentNode with
  | none => .error .nothingToEvaluate
  | some node => Condition.evaluate node machine.run.data

/-! ## Corruption -/

/-- Overwrites the target of an output of the graph. -/
def setTarget (machine : Machine) (node output : String) (target : Option String) : Machine :=
  { machine with graph := machine.graph.setTarget node output target }

/-- Makes the graph lose a node. -/
def dropNode (machine : Machine) (node : String) : Machine :=
  { machine with graph := machine.graph.dropNode node }

end Machine

end GuestFlow
