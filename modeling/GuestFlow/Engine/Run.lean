import GuestFlow.Value.Order

/-!
# Runs

A run is where a guest stands in a workflow: the current node, the data collected so
far and the way back.  Every step forward leaves a history entry that says what the
data held before, so that the step can be undone exactly; `Touched.restore` does that.

Events tell what happened to a run, in order.
-/

set_option autoImplicit false

namespace GuestFlow

inductive Status where
  | idle
  | running
  | completed
  | error
  deriving DecidableEq, Repr

def Status.name : Status → String
  | .idle => "idle"
  | .running => "running"
  | .completed => "completed"
  | .error => "error"

/-! ## The way back -/

/-- Keys that a step wrote, each with the value it had before, if it had one. -/
abbrev Touched := List (Value × Option Value)

namespace Touched

/-- What additions to a record are about to overwrite. -/
def of (data additions : Record) : Touched :=
  additions.map fun (key, _) => (key, data.get? key)

/-- Puts one key back to what it was. -/
def restoreKey (data : Record) (entry : Value × Option Value) : Record :=
  match entry.2 with
  | none => data.erase entry.1
  | some previous => data.insert entry.1 previous

/-- Puts every key back to what it was. -/
def restore (touched : Touched) (data : Record) : Record := touched.foldl restoreKey data

def keys (touched : Touched) : List Value := touched.map Prod.fst

end Touched

/-- A step forward that can be undone. -/
structure HistoryEntry where
  node : String
  output : String
  touched : Touched
  /-- Whether the step was taken by a condition and not by a person. -/
  isAutomatic : Bool
  deriving DecidableEq

/-- The entry as it is shown, with the keys it touched in increasing order.  If these have no order,
it cannot be shown. -/
def HistoryEntry.toDocument (entry : HistoryEntry) : Except Fault Value := do
  let keys ← sortWith Value.isBelow entry.touched.keys
  .ok (.record (Record.ofFields [
    ("node_id", .text entry.node), ("output_id", .text entry.output),
    ("touched_keys", .list keys), ("auto", .bool entry.isAutomatic)]))

/-! ## Runs -/

structure Run where
  status : Status
  current : Option String
  data : Record
  /-- The steps taken, the latest first. -/
  history : List HistoryEntry
  error : Option String
  hasStarted : Bool
  hasFinished : Bool
  deriving DecidableEq

namespace Run

/-- A run that has not begun. -/
def fresh : Run := ⟨.idle, none, [], [], none, false, false⟩

/-- A run that has just entered a node. -/
def entering (node : String) : Run := ⟨.running, some node, [], [], none, true, false⟩

/-- Whether the latest step can be undone. -/
def canGoBack (run : Run) : Bool :=
  !run.history.isEmpty && (run.status == .running || run.status == .completed)

/-- A run that is over, well or not. -/
def isOver (run : Run) : Bool := run.status == .completed || run.status == .error

/-- The run after data was added and a step was recorded, still at its node. -/
def record (run : Run) (node output : String) (additions : Record) (isAutomatic : Bool) : Run :=
  { run with
    data := run.data.update additions
    history := ⟨node, output, Touched.of run.data additions, isAutomatic⟩ :: run.history }

def moveTo (run : Run) (node : String) : Run := { run with current := some node }

def complete (run : Run) : Run :=
  { run with status := .completed, current := none, hasFinished := true }

def fail (run : Run) (message : String) : Run :=
  { run with status := .error, error := some message, hasFinished := true }

/-- The run with a history entry undone; `earlier` is the history below it. -/
def undo (run : Run) (entry : HistoryEntry) (earlier : List HistoryEntry) : Run :=
  { run with
    status := .running
    current := some entry.node
    data := entry.touched.restore run.data
    history := earlier
    hasFinished := false }

end Run

/-! ## Events -/

inductive EventKind where
  | started
  | stepCompleted
  | navigatedBack
  | completed
  | error
  | reset
  deriving DecidableEq, Repr

def EventKind.name : EventKind → String
  | .started => "STARTED"
  | .stepCompleted => "STEP_COMPLETED"
  | .navigatedBack => "NAVIGATED_BACK"
  | .completed => "COMPLETED"
  | .error => "ERROR"
  | .reset => "RESET"

structure Event where
  kind : EventKind
  sequence : Nat
  node : Option String := none
  output : Option String := none
  next : Option String := none
  data : Record := []
  error : Option String := none
  deriving DecidableEq

end GuestFlow
