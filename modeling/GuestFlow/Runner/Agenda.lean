import GuestFlow.Step.Renderer

/-!
# The agenda

Renderings run beside each other.  Each is a task on the agenda: it carries out its
actions until it waits, is woken when its time has come, and ends.  Tasks that are ready
stand in a queue and are served in its order; the clock moves only when nobody is ready,
and then to the next moment at which a task is to be woken.

A task that is asked to stop does not go on: if it is waiting it is put in the queue,
and when its turn comes it ends.
-/

set_option autoImplicit false

namespace GuestFlow

/-- How far a task has come. -/
inductive Phase where
  /-- In the queue. -/
  | ready
  /-- Waiting for a moment. -/
  | asleep (moment : Binary64)
  | ended
  deriving DecidableEq

/-- A rendering that is under way. -/
structure Task where
  id : Nat
  name : String
  node : String
  activation : Nat
  /-- The actions that are left. -/
  actions : List Action
  phase : Phase
  /-- Whether the task was asked to stop. -/
  isCancelled : Bool
  /-- What is put into the journal if the task stops where it is. -/
  onCancel : Option Remark
  deriving DecidableEq

/-- What stands in the queue: the turn of a task, or a line for the journal. -/
inductive Errand where
  | turn (task : Nat)
  | report (remark : Remark)
  deriving DecidableEq

structure Agenda where
  clock : Binary64
  tasks : List Task
  queue : List Errand
  /-- How many tasks there have been. -/
  created : Nat
  /-- The task whose turn it is. -/
  running : Option Nat
  deriving DecidableEq

namespace Agenda

def empty : Agenda := ⟨Binary64.zero false, [], [], 0, none⟩

def task? (agenda : Agenda) (id : Nat) : Option Task := agenda.tasks.find? fun task => task.id == id

/-- Whether a task has ended; one that is not on the agenda has. -/
def hasEnded (agenda : Agenda) (id : Nat) : Bool :=
  match agenda.task? id with
  | none => true
  | some task => task.phase == .ended

/-- Replaces a task by what it has become. -/
def put (agenda : Agenda) (task : Task) : Agenda :=
  { agenda with tasks := agenda.tasks.map fun other => if other.id = task.id then task else other }

def enqueue (agenda : Agenda) (errand : Errand) : Agenda :=
  { agenda with queue := agenda.queue ++ [errand] }

/-- A new task at the end of the queue, and its id. -/
def create (agenda : Agenda) (name node : String) (activation : Nat) (actions : List Action) :
    Agenda × Nat :=
  let task : Task := ⟨agenda.created, name, node, activation, actions, .ready, false, none⟩
  (({ agenda with tasks := agenda.tasks ++ [task], created := agenda.created + 1 }).enqueue
    (.turn task.id), task.id)

/-- Asks a task to stop.  The task whose turn it is goes on. -/
def cancel (agenda : Agenda) (id : Nat) : Agenda :=
  if agenda.running = some id then agenda
  else match agenda.task? id with
    | none => agenda
    | some task =>
      match task.phase with
      | .ended => agenda
      | .ready => agenda.put { task with isCancelled := true }
      | .asleep _ =>
        (agenda.put { task with isCancelled := true, phase := .ready }).enqueue (.turn id)

/-- A task waits; waiting for no time at all, it only goes to the end of the queue. -/
def suspend (agenda : Agenda) (task : Task) (seconds : Binary64) (onCancel : Option Remark)
    (rest : List Action) : Agenda :=
  let task := { task with actions := rest, onCancel }
  if (Binary64.zero false).less seconds then
    agenda.put { task with phase := .asleep (agenda.clock.add seconds) }
  else (agenda.put { task with phase := .ready }).enqueue (.turn task.id)

/-- A task has ended. -/
def finish (agenda : Agenda) (task : Task) : Agenda :=
  agenda.put { task with phase := .ended, actions := [] }

/-- The moment a task waits for. -/
def wakingTime? (task : Task) : Option Binary64 :=
  match task.phase with
  | .asleep moment => some moment
  | _ => none

/-- The earlier of two tasks that wait, the first one if they wait for the same moment. -/
def earlier (first second : Binary64 × Task) : Binary64 × Task :=
  if second.1.less first.1 then second else first

/-- The task to be woken next, and when. -/
def next? (agenda : Agenda) : Option (Binary64 × Task) :=
  match agenda.tasks.filterMap fun task => (wakingTime? task).map fun moment => (moment, task) with
  | [] => none
  | first :: rest => some (rest.foldl earlier first)

/-- Moves the clock to the moment a task waits for and puts it in the queue. -/
def wake (agenda : Agenda) (moment : Binary64) (task : Task) : Agenda :=
  ({ agenda with clock := moment }.put { task with phase := .ready }).enqueue (.turn task.id)

end Agenda

end GuestFlow
