import GuestFlow.Runner.Settling

/-!
# Running the agenda

`Runner.turn` gives one task its turn: it carries out actions until it waits or ends.
`Runner.serve` serves the first errand of the queue and `Runner.drain` all of them; the
clock stands still meanwhile.  `Runner.waitUntil` also moves the clock, from one waking
to the next, until something has come true or a deadline has passed.  Without a deadline
waiting may have no end, and then there is no answer (`Runner.waitUntilFinished`).

A workflow may go round in circles without ever waiting.  The number of errands served
in one go is therefore bounded, by a number that no sensible run reaches.
-/

set_option autoImplicit false

namespace GuestFlow.Runner

/-- How a turn ended. -/
inductive Pause where
  | ended
  | failed (fault : Fault)
  | asleep (seconds : Binary64) (onCancel : Option Remark) (rest : List Action)

/-- Carries out the actions of a task until it waits or ends. -/
def act (task : Task) : List Action → Runner → Runner × Pause
  | [], runner => (runner, .ended)
  | .say remark :: rest, runner => act task rest (runner.log [remark])
  | .sleep seconds onCancel :: rest, runner => (runner, .asleep seconds onCancel rest)
  | .fail fault :: _, runner => (runner, .failed fault)
  | .complete output data isReported :: rest, runner =>
    match runner.completeFor task.activation output data with
    | (runner, .error fault) => (runner, .failed fault)
    | (runner, .ok verdict) =>
      let completion : Completion := ⟨task.node, task.activation, verdict.isAccepted⟩
      act task rest
        (if isReported then { runner with completions := runner.completions ++ [completion] }
         else runner)

/-- Changes the agenda, if there is one. -/
def onAgenda (runner : Runner) (change : Agenda → Agenda) : Runner :=
  { runner with agenda := runner.agenda.map change }

/-- The journal line about a rendering that failed. -/
def failureRemark (task : Task) (fault : Fault) : Remark :=
  .error ("Step renderer task " ++ task.name ++ " failed: " ++ fault.message)

/-- Gives a task its turn. -/
def turn (runner : Runner) (task : Task) : Runner :=
  if task.isCancelled then
    (runner.log task.onCancel.toList).onAgenda fun agenda => agenda.finish task
  else
    let begun := runner.onAgenda fun agenda => { agenda with running := some task.id }
    let (runner, pause) := act task task.actions begun
    let runner := runner.onAgenda fun agenda => { agenda with running := none }
    match pause with
    | .ended => runner.onAgenda fun agenda => agenda.finish task
    | .failed fault =>
      runner.onAgenda fun agenda =>
        (agenda.finish task).enqueue (.report (failureRemark task fault))
    | .asleep seconds onCancel rest =>
      runner.onAgenda fun agenda => agenda.suspend task seconds onCancel rest

/-- Serves the first errand of the queue; nothing if there is none. -/
def serve (runner : Runner) : Option Runner :=
  match runner.agenda with
  | none => none
  | some agenda =>
    match agenda.queue with
    | [] => none
    | errand :: queue =>
      let runner := { runner with agenda := some { agenda with queue } }
      match errand with
      | .report remark => some (runner.log [remark])
      | .turn id =>
        match agenda.task? id with
        | none => some runner
        | some task => some (runner.turn task)

/-- More errands than any sensible run serves. -/
def patience : Nat := 1000000

/-- Serves errands until the queue is empty. -/
def drainWithin : Nat → Runner → Runner
  | 0, runner => runner
  | fuel + 1, runner =>
    match runner.serve with
    | none => runner
    | some runner => drainWithin fuel runner

def drain (runner : Runner) : Runner := drainWithin patience runner

/-- Whether a rendering has ended. -/
def hasEnded (id : Nat) (runner : Runner) : Bool :=
  match runner.agenda with
  | some agenda => agenda.hasEnded id
  | none => true

/-- The current rendering, unless it has ended. -/
def pendingRendering? (runner : Runner) : Option Nat :=
  runner.rendering.filter fun id => !hasEnded id runner

/-- Moves the clock to a moment that lies ahead. -/
def passTime (runner : Runner) (moment : Binary64) : Runner :=
  runner.onAgenda fun agenda =>
    if agenda.clock.less moment then { agenda with clock := moment } else agenda

/-- The task to be woken next, if that happens before the deadline. -/
def nextWaking? (runner : Runner) (deadline : Option Binary64) : Option (Binary64 × Task) :=
  (runner.agenda.bind Agenda.next?).filter fun waking =>
    match deadline with
    | none => true
    | some moment => !moment.less waking.1

/-- Whether an errand is in the queue. -/
def hasErrands (runner : Runner) : Bool :=
  match runner.agenda with
  | some agenda => !agenda.queue.isEmpty
  | none => false

/-- How waiting for something ends. -/
inductive Ending where
  /-- It has come true. -/
  | come
  /-- The deadline has passed. -/
  | late
  /-- There is no deadline, and nobody is left who could bring it about. -/
  | deserted
  /-- There are errands without end. -/
  | restless
  deriving DecidableEq, Repr

/-- Lets time pass until something has come true. -/
def waitWithin (hasCome : Runner → Bool) (deadline : Option Binary64) :
    Nat → Runner → Runner × Ending
  | 0, runner => (runner, if hasCome runner then .come else .restless)
  | fuel + 1, runner =>
    let runner := runner.drain
    if hasCome runner then (runner, .come)
    else if runner.hasErrands then (runner, .restless)
    else match runner.nextWaking? deadline with
      | some (moment, task) =>
        waitWithin hasCome deadline fuel (runner.onAgenda fun agenda => agenda.wake moment task)
      | none =>
        match deadline with
        | none => (runner, .deserted)
        | some moment => (runner.passTime moment, .late)

def waitUntil (hasCome : Runner → Bool) (deadline : Option Binary64) (runner : Runner) :
    Runner × Ending :=
  waitWithin hasCome deadline patience runner

/-- The moment some seconds from now. -/
def momentIn (runner : Runner) (seconds : Binary64) : Option Binary64 :=
  runner.agenda.map fun agenda => agenda.clock.add seconds

/-! ## What a host waits for -/

/-- Lets some seconds pass. -/
def sleep (runner : Runner) (seconds : Binary64) : Runner :=
  if (Binary64.zero false).less seconds then
    (waitUntil (fun _ => false) (runner.momentIn seconds) runner).1
  else runner.drain

/-- Waits until the current rendering has ended, and again for the one that has taken its place. -/
def waitForRenderingWithin : Nat → Runner → Runner
  | 0, runner => runner
  | fuel + 1, runner =>
    match runner.pendingRendering? with
    | none => runner
    | some id =>
      match waitUntil (hasEnded id) none runner with
      | (runner, .come) => waitForRenderingWithin fuel runner
      | (runner, _) => runner

/-- Waits until the current step, and every step it hands over to, has been rendered. -/
def waitForRendering (runner : Runner) : Runner := waitForRenderingWithin patience runner

/-- Waits until the workflow is over, and tells its status.  Whoever gives no time to wait is late at
once.  Nobody answers if that never happens: somebody who has all the time waits for ever, and so
does everybody while errands have no end. -/
def waitUntilFinished (runner : Runner) (timeout : Option Binary64) :
    Runner × Option (Except Fault Status) :=
  if timeout.any fun seconds => !(Binary64.zero false).less seconds then
    (runner.drain, some (.error .timedOut))
  else if runner.isFinished then (runner, some (.ok runner.status))
  else match waitUntil isFinished (timeout.bind runner.momentIn) runner with
    | (runner, .come) => (runner, some (.ok runner.status))
    | (runner, .late) | (runner, .deserted) => (runner, timeout.map fun _ => .error .timedOut)
    | (runner, .restless) => (runner, none)

/-- Starts the workflow and waits until it is over. -/
def run (runner : Runner) (timeout : Option Binary64) : Runner × Option (Except Fault Status) :=
  match runner.start with
  | (runner, .error fault) => (runner, some (.error fault))
  | (runner, .ok _) => runner.waitUntilFinished timeout

end GuestFlow.Runner
