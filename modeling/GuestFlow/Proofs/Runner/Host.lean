import GuestFlow.Proofs.Engine.Rest
import GuestFlow.Runner.Waiting

/-!
# Runs of a runner

A host drives a runner by calls: it starts and completes steps, hands on input, goes back,
lets tasks have their turn and lets time pass; it may also call the engine behind the
runner, or keep the props of a step and complete through them at any later time
(`HostCall`).  Whatever a host does is a list of such calls (`Runner.play`), and so is
waiting: a run of turns and of passing time that does not end too early
(`Runner.waitWithin_eq_play`).  What a host is told is the answer to each of them
(`Runner.answer`).

Beside every operation of the runner stands the list of the calls that it makes of the
engine (`Runner.callsOf`), in their order: those that are refused and those by which
conditions are completed as well.  The events that these calls announce are all that
anybody hears of a run (`Runner.announced`).
-/

set_option autoImplicit false

namespace GuestFlow

/-- A call of a host. -/
inductive HostCall where
  | start
  | complete (output : String) (data : Option Record) (activation : Option Int)
  /-- A completion through props that were kept; they carry the activation they were given for. -/
  | completeKept (activation : Int) (output : String) (data : Option Record)
  | submit (output : String) (data : Option Record)
  | goBack
  | reset
  | settle
  /-- A call of the engine behind the runner. -/
  | direct (call : Call)
  | subscribe (name : String) (listener : Listener)
  | unsubscribe (name : String)
  | register (kind : String) (renderer : Renderer)
  /-- The first errand of the queue is served. -/
  | serve
  /-- Time passes until the next task is woken, or until a deadline. -/
  | elapse (deadline : Option Binary64)

/-- The calls of a host who only waits: errands are served, and time passes. -/
def HostCall.IsPatient : HostCall → Prop
  | .serve | .elapse _ => True
  | _ => False

/-- A reply as a host sees it: of a completion, only whether it was accepted. -/
def Reply.shown : Reply → Reply
  | .verdict answer => .flag answer.isAccepted
  | reply => reply

namespace Runner

/-- Lets time pass until the next task is woken, or until a deadline. -/
def elapse (runner : Runner) (deadline : Option Binary64) : Runner :=
  match runner.nextWaking? deadline with
  | some (moment, task) => runner.onAgenda fun agenda => agenda.wake moment task
  | none =>
    match deadline with
    | none => runner
    | some moment => runner.passTime moment

/-- Sets the renderer of a kind. -/
def register (runner : Runner) (kind : String) (renderer : Renderer) : Runner :=
  let (registry, journal) := runner.registry.register kind renderer
  { runner with registry }.log journal

/-- Carries out a call of a host. -/
def perform (runner : Runner) : HostCall → Runner
  | .start => runner.start.1
  | .complete output data activation => (runner.complete output data activation).1
  | .completeKept activation output data => (runner.completeFor activation output data).1
  | .submit output data => (runner.submit output data).1
  | .goBack => runner.goBack.1
  | .reset => runner.reset
  | .settle => runner.settle.1
  | .direct call => runner.absorb (runner.engine.perform call)
  | .subscribe name listener => runner.withEngine (runner.engine.subscribe name listener)
  | .unsubscribe name => runner.withEngine (runner.engine.unsubscribe name)
  | .register kind renderer => runner.register kind renderer
  | .serve => runner.serve.getD runner
  | .elapse deadline => runner.elapse deadline

/-- The reply to a call of a host. -/
def answer (runner : Runner) : HostCall → Except Fault Reply
  | .start => runner.start.2.map .flag
  | .complete output data activation =>
    (runner.complete output data activation).2.map fun verdict => .flag verdict.isAccepted
  | .completeKept activation output data =>
    (runner.completeFor activation output data).2.map fun verdict => .flag verdict.isAccepted
  | .submit output data =>
    (runner.submit output data).2.map fun submission => .flag submission.isAccepted
  | .goBack => runner.goBack.2.map .entry
  | .settle => runner.settle.2.map fun _ => .nothing
  | .direct call => (runner.engine.perform call).reply.map Reply.shown
  | .reset | .subscribe .. | .unsubscribe .. | .register .. | .serve | .elapse .. => .ok .nothing

/-- Carries out calls of a host one after another. -/
def play (runner : Runner) (calls : List HostCall) : Runner := calls.foldl perform runner

@[simp] theorem play_nil (runner : Runner) : runner.play [] = runner := rfl

@[simp] theorem play_cons (runner : Runner) (call : HostCall) (calls : List HostCall) :
    runner.play (call :: calls) = (runner.perform call).play calls := rfl

theorem play_append (runner : Runner) (calls more : List HostCall) :
    runner.play (calls ++ more) = (runner.play calls).play more := by
  simp [play, List.foldl_append]

/-! ## Waiting -/

/-- Something has not come true, and nobody is left who could bring it about by a deadline. -/
structure IsForlorn (hasCome : Runner → Bool) (deadline : Option Binary64) (runner : Runner) :
    Prop where
  missing : hasCome runner = false
  idle : runner.hasErrands = false
  nobody : runner.nextWaking? deadline = none

/-- How waiting may have ended after some calls, if `limit` of them are too many. -/
inductive EndsAs (hasCome : Runner → Bool) (deadline : Option Binary64) (limit : Nat)
    (calls : List HostCall) (after : Runner) : Ending → Prop where
  | come (here : hasCome after = true) : EndsAs hasCome deadline limit calls after .come
  | late {before : Runner} {moment : Binary64} (timed : deadline = some moment)
      (forlorn : before.IsForlorn hasCome deadline) (passed : after = before.passTime moment) :
      EndsAs hasCome deadline limit calls after .late
  | deserted (untimed : deadline = none) (forlorn : after.IsForlorn hasCome none) :
      EndsAs hasCome deadline limit calls after .deserted
  | restless (missing : hasCome after = false) (many : limit ≤ calls.length) :
      EndsAs hasCome deadline limit calls after .restless

theorem EndsAs.later {hasCome : Runner → Bool} {deadline : Option Binary64} {limit limitThen : Nat}
    {calls callsThen : List HostCall} {after : Runner} {ending : Ending}
    (ends : EndsAs hasCome deadline limit calls after ending)
    (longer : limit ≤ calls.length → limitThen ≤ callsThen.length) :
    EndsAs hasCome deadline limitThen callsThen after ending := by
  cases ends with
  | come here => exact .come here
  | late timed forlorn passed => exact .late timed forlorn passed
  | deserted untimed forlorn => exact .deserted untimed forlorn
  | restless missing many => exact .restless missing (longer many)

theorem hasErrands_of_serve {runner : Runner} (nothing : runner.serve = none) :
    runner.hasErrands = false := by
  unfold serve at nothing
  unfold hasErrands
  cases agenda_eq : runner.agenda with
  | none => rfl
  | some agenda =>
      rw [agenda_eq] at nothing
      dsimp only at nothing ⊢
      cases queue_eq : agenda.queue with
      | nil => rfl
      | cons errand queue =>
          rw [queue_eq] at nothing
          dsimp only at nothing
          split at nothing
          · cases nothing
          · split at nothing
            · cases nothing
            · cases nothing

/-- Errands are served one after another; if some are left, all the fuel was spent. -/
theorem drainWithin_eq_play (fuel : Nat) (runner : Runner) :
    ∃ count, drainWithin fuel runner = runner.play (List.replicate count .serve) ∧
      ((drainWithin fuel runner).hasErrands = true → count = fuel) := by
  induction fuel generalizing runner with
  | zero => exact ⟨0, rfl, fun _ => rfl⟩
  | succ fuel ih =>
      unfold drainWithin
      cases served : runner.serve with
      | none =>
          refine ⟨0, rfl, fun busy => ?_⟩
          rw [hasErrands_of_serve served] at busy
          cases busy
      | some after =>
          obtain ⟨count, drained, busy⟩ := ih after
          refine ⟨count + 1, ?_, fun left => congrArg (· + 1) (busy left)⟩
          rw [List.replicate_succ, play_cons, perform, served]
          exact drained

theorem arePatient_replicate (count : Nat) :
    ∀ call ∈ List.replicate count HostCall.serve, call.IsPatient := by
  intro call member
  rw [List.eq_of_mem_replicate member]
  trivial

/-- **Waiting is a run of turns and of passing time.**  It ends when what was waited for has come
true; or when nobody is left who could bring it about in time; or when it has taken too many
calls. -/
theorem waitWithin_eq_play (hasCome : Runner → Bool) (deadline : Option Binary64) (fuel : Nat)
    (runner : Runner) :
    ∃ calls, (∀ call ∈ calls, call.IsPatient) ∧
      (waitWithin hasCome deadline fuel runner).1 = runner.play calls ∧
      EndsAs hasCome deadline (min fuel patience) calls
        (waitWithin hasCome deadline fuel runner).1
        (waitWithin hasCome deadline fuel runner).2 := by
  induction fuel generalizing runner with
  | zero =>
      refine ⟨[], List.forall_mem_nil _, rfl, ?_⟩
      unfold waitWithin
      dsimp only
      split
      · rename_i here
        exact .come here
      · rename_i missing
        exact .restless (Bool.eq_false_iff.mpr missing) (by simp)
  | succ fuel ih =>
      obtain ⟨count, drained, busy⟩ := drainWithin_eq_play patience runner
      have patient := arePatient_replicate count
      unfold waitWithin
      dsimp only
      rw [drain]
      generalize drainWithin patience runner = middle at drained busy
      split
      · rename_i here
        exact ⟨_, patient, drained, .come here⟩
      rename_i missing
      split
      · rename_i left
        refine ⟨_, patient, drained, .restless (Bool.eq_false_iff.mpr missing) ?_⟩
        rw [List.length_replicate, busy left]
        exact Nat.min_le_right ..
      rename_i idle
      -- Time passes, whether somebody is woken or not.
      have passed : middle.elapse deadline =
          runner.play (List.replicate count .serve ++ [.elapse deadline]) := by
        rw [play_append, ← drained]
        rfl
      have patientStill : ∀ call ∈ List.replicate count .serve ++ [.elapse deadline],
          HostCall.IsPatient call :=
        List.forall_mem_append.mpr ⟨patient, List.forall_mem_singleton.mpr trivial⟩
      unfold elapse at passed
      split
      · rename_i moment task next
        rw [next] at passed
        dsimp only at passed
        obtain ⟨more, patientThen, waited, ends⟩ := ih (middle.onAgenda fun agenda =>
          agenda.wake moment task)
        refine ⟨_, List.forall_mem_append.mpr ⟨patientStill, patientThen⟩, ?_, ?_⟩
        · rw [waited, passed, ← play_append]
        · refine ends.later fun many => ?_
          simp only [List.length_append, List.length_singleton]
          omega
      · rename_i nothing
        rw [nothing] at passed
        have forlorn : middle.IsForlorn hasCome deadline :=
          ⟨Bool.eq_false_iff.mpr missing, Bool.eq_false_iff.mpr idle, nothing⟩
        split
        · exact ⟨_, patient, drained, .deserted rfl forlorn⟩
        · exact ⟨_, patientStill, passed, .late rfl forlorn rfl⟩

/-! ## The calls that are made of the engine -/

/-- The call by which a condition is completed. -/
def completionOf (runner : Runner) (prospect : Prospect) : Call :=
  .complete prospect.decision.name (conditionData prospect)
    (some (runner.machine.activation : Int)) true

def conditionCalls : Nat → Runner → List Call
  | 0, _ => []
  | remaining + 1, runner =>
    match runner.prospect with
    | (runner, .ok (some prospect)) =>
      runner.completionOf prospect ::
        match runner.advance prospect with
        | (runner, .ok true) => conditionCalls remaining runner
        | _ => []
    | _ => []

def settleCalls (runner : Runner) : List Call := conditionCalls runner.cap.toNat runner

def startCalls (runner : Runner) : List Call :=
  .start ::
    match runner.engine.start.reply with
    | .ok true => (runner.absorb runner.engine.start).settleCalls
    | _ => []

def completeForCalls (runner : Runner) (activation : Int) (output : String)
    (data : Option Record) : List Call :=
  let report := runner.engine.complete output (data.getD []) (some activation) false
  .complete output (data.getD []) (some activation) false ::
    match report.reply with
    | .ok .accepted => (runner.absorb report).settleCalls
    | _ => []

def submitCalls (runner : Runner) (output : String) (data : Option Record) : List Call :=
  match runner.props? with
  | none => []
  | some props =>
    let (runner, renderer) := runner.resolve props.node.kind
    match renderer.input props.node output data with
    | none => []
    | some (output, data) => runner.completeForCalls props.activation output data

def unwindCalls : Nat → Runner → List Call
  | fuel, runner =>
    let report := runner.engine.goBack
    let runner := runner.absorb report
    .goBack ::
      match report.reply with
      | .ok (some entry) =>
        match fuel with
        | 0 => []
        | fuel + 1 =>
          if entry.isAutomatic && runner.machine.run.canGoBack then unwindCalls fuel runner else []
      | _ => []

def goBackCalls (runner : Runner) : List Call :=
  let fuel := runner.machine.run.history.length
  unwindCalls fuel runner ++
    match unwind fuel runner with
    | (runner, .ok (some _)) => runner.settleCalls
    | _ => []

def actCalls (task : Task) : List Action → Runner → List Call
  | [], _ => []
  | .say remark :: rest, runner => actCalls task rest (runner.log [remark])
  | .sleep .. :: _, _ => []
  | .fail _ :: _, _ => []
  | .complete output data isReported :: rest, runner =>
    runner.completeForCalls task.activation output data ++
      match runner.completeFor task.activation output data with
      | (_, .error _) => []
      | (runner, .ok verdict) =>
        let completion : Completion := ⟨task.node, task.activation, verdict.isAccepted⟩
        actCalls task rest
          (if isReported then { runner with completions := runner.completions ++ [completion] }
           else runner)

def turnCalls (runner : Runner) (task : Task) : List Call :=
  if task.isCancelled then []
  else actCalls task task.actions
    (runner.onAgenda fun agenda => { agenda with running := some task.id })

def serveCalls (runner : Runner) : List Call :=
  match runner.agenda with
  | none => []
  | some agenda =>
    match agenda.queue with
    | [] => []
    | .report _ :: _ => []
    | .turn id :: queue =>
      match { agenda with queue }.task? id with
      | none => []
      | some task => { runner with agenda := some { agenda with queue } }.turnCalls task

/-- The calls that a call of the host makes of the engine. -/
def callsOf (runner : Runner) : HostCall → List Call
  | .start => runner.startCalls
  | .complete output data activation =>
    runner.completeForCalls (activation.getD runner.machine.activation) output data
  | .completeKept activation output data => runner.completeForCalls activation output data
  | .submit output data => runner.submitCalls output data
  | .goBack => runner.goBackCalls
  | .reset => [.reset]
  | .settle => runner.settleCalls
  | .direct call => [call]
  | .serve => runner.serveCalls
  | .subscribe .. | .unsubscribe .. | .register .. | .elapse .. => []

/-- The calls that a run of the host makes of the engine. -/
def callsMade (runner : Runner) : List HostCall → List Call
  | [] => []
  | call :: calls => runner.callsOf call ++ (runner.perform call).callsMade calls

/-- Every event that is announced in a run of the host, in the order of the announcements. -/
def announced (runner : Runner) (calls : List HostCall) : List Event :=
  runner.machine.announced (runner.callsMade calls)

end Runner

namespace Booth

/-- A runner of the booth that completes at most three conditions in a row. -/
def runner : Runner := .create graph Registry.usual false "opening" 3 none

end Booth

end GuestFlow
