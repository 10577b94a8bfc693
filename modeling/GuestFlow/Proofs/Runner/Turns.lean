import GuestFlow.Proofs.Runner.Rendering
import GuestFlow.Proofs.Runner.Return

/-!
# Turns of renderings

Renderings have their turns between the calls of a host, and in its turn a task may do what a
host may do: it completes steps, and the engine moves on before the turn is over.  A call of
the host and a turn of a task both keep the rendering of a runner current
(`Runner.Staffed.perform`, `Runner.Staffed.turn`).

A completion is refused, or accepted and what comes next is rendered, or accepted and what
comes next fails to settle (`Runner.Concludes`).  In the second case the task of the stay is
the rendering, because all others have been accounted for, and it is spared as it is its turn
(`Runner.Amid.completeFor`).  In the third the rendering belongs to a stay that is over, but
then its task fails and ends with its turn (`Runner.IsStalled`).
-/

set_option autoImplicit false

namespace GuestFlow

/-! ## Completions that are accepted -/

namespace Machine

/-- In a run of calls a completion that carries the token is accepted. -/
def Accepted (machine : Machine) (calls : List Call) (token : Int) : Prop :=
  ∃ exchange ∈ machine.exchanges calls, exchange.Accepts token

theorem exchanges_append (machine : Machine) (calls more : List Call) :
    machine.exchanges (calls ++ more) =
      machine.exchanges calls ++ (machine.play calls).exchanges more := by
  induction calls generalizing machine with
  | nil => rfl
  | cons call calls ih => exact congrArg (_ :: ·) (ih _)

@[simp] theorem not_accepted_nil (machine : Machine) (token : Int) :
    ¬machine.Accepted [] token := by
  rintro ⟨_, member, _⟩
  cases member

theorem accepted_append {machine : Machine} {calls more : List Call} {token : Int} :
    machine.Accepted (calls ++ more) token ↔
      machine.Accepted calls token ∨ (machine.play calls).Accepted more token := by
  simp [Accepted, exchanges_append, or_and_right, exists_or]

end Machine

namespace Machine

variable {machine after : Machine}

/-- A start that comes too late changes nothing. -/
theorem Step.of_late_start (step : machine.Step .start after (.ok (.flag false))) :
    after = machine := by
  cases step
  rfl

/-- Going back that gives nothing changes nothing. -/
theorem Step.of_nothing_undone (step : machine.Step .goBack after (.ok (.entry none))) :
    after = machine := by
  cases step with
  | nothingBehind | stuck => rfl

end Machine

/-- A call that is made of the runner, and not of the engine behind it. -/
def HostCall.IsOfRunner : HostCall → Prop
  | .direct _ => False
  | _ => True

namespace Runner

/-! ## What operations leave of the rendering -/

section Operations

variable {runner after : Runner}

theorem Onward.refl (runner : Runner) : runner.Onward runner := ⟨rfl, Nat.le_refl _⟩

theorem Onward.trans {middle : Runner} (first : runner.Onward middle)
    (second : middle.Onward after) : runner.Onward after :=
  ⟨second.desk_eq.trans first.desk_eq, Nat.le_trans first.activation_le second.activation_le⟩

theorem Drives.onward {calls : List Call} (drives : runner.Drives calls after)
    (orderly : runner.IsOrderly) (desk_eq : after.desk = runner.desk) : runner.Onward after := by
  refine ⟨desk_eq, ?_⟩
  rw [(drives.play orderly).2]
  exact runner.machine.activation_le_play calls

theorem Unmoved.trans {middle : Runner} (first : runner.Unmoved middle)
    (second : middle.Unmoved after) : runner.Unmoved after :=
  ⟨second.desk_eq.trans first.desk_eq, second.activation_eq.trans first.activation_eq,
    second.status_eq.trans first.status_eq⟩

theorem Unmoved.onward (unmoved : runner.Unmoved after) : runner.Onward after :=
  ⟨unmoved.desk_eq, unmoved.activation_eq.ge⟩

/-- Settling renders where it rests, or it renders nothing. -/
theorem IsOrderly.settle_cases (orderly : runner.IsOrderly) :
    (∃ middle, runner.Onward middle ∧ runner.settle = (middle.render, .ok ())) ∨
      ∃ after fault, runner.Onward after ∧ runner.settle = (after, .error fault) := by
  rcases runner.settle_cases with ⟨last, settles, told⟩ | ⟨after, fault, settles, told⟩
  · exact .inl ⟨last, settles.drives.onward orderly (isAside_desk.settles settles), told⟩
  · exact .inr ⟨after, fault, settles.drives.onward orderly (isAside_desk.settles settles), told⟩

theorem IsOrderly.settleAfter_cases {α : Type} (orderly : runner.IsOrderly) (reply : α) :
    (∃ middle, runner.Onward middle ∧ runner.settleAfter reply = (middle.render, .ok reply)) ∨
      ∃ after fault, runner.Onward after ∧ runner.settleAfter reply = (after, .error fault) := by
  rw [settleAfter_eq]
  rcases orderly.settle_cases with ⟨middle, onward, settled⟩ | ⟨after, fault, onward, settled⟩
  · rw [settled]
    exact .inl ⟨middle, onward, rfl⟩
  · rw [settled]
    exact .inr ⟨after, fault, onward, rfl⟩

/-- What can become of a completion for an activation, and how it is answered. -/
inductive Concludes (runner : Runner) (token : Int) (calls : List Call) :
    Runner → Except Fault Verdict → Prop where
  | refused {after : Runner} {reply : Except Fault Verdict}
      (turnedDown : ¬runner.machine.Accepted calls token) (unmoved : runner.Unmoved after) :
      Concludes runner token calls after reply
  | rendered {middle : Runner} (taken : runner.machine.Accepted calls token)
      (current : token = runner.machine.activation) (onward : runner.Onward middle)
      (later : runner.machine.activation < middle.machine.activation) :
      Concludes runner token calls middle.render (.ok .accepted)
  | stalled {after : Runner} {fault : Fault} (taken : runner.machine.Accepted calls token)
      (current : token = runner.machine.activation) (onward : runner.Onward after)
      (later : runner.machine.activation < after.machine.activation) :
      Concludes runner token calls after (.error fault)

section Completion

variable {token : Int} {output : String} {data : Option Record}

/-- **A completion is refused, or what comes next is rendered, or it fails to settle.** -/
theorem IsOrderly.completeFor_concludes (orderly : runner.IsOrderly)
    {reply : Except Fault Verdict} (told : runner.completeFor token output data = (after, reply)) :
    runner.Concludes token (runner.completeForCalls token output data) after reply := by
  let call : Call := .complete output (data.getD []) (some token) false
  have replied := Engine.perform_reply orderly.rest call
  have step := runner.machine.step_perform call
  obtain ⟨orderlyAfter, moved⟩ := (Drives.called runner call).play orderly
  rw [Machine.play_cons, Machine.play_nil] at moved
  cases undertakes_of_completeFor told with
  | ended answer without made =>
      have replied : (runner.machine.perform call).reply = reply.map .verdict :=
        replied.symm.trans (congrArg (Except.map Reply.verdict) answer)
      have refused : (runner.machine.perform call).reply ≠ .ok (.verdict .accepted) := by
        rw [replied]
        intro agreed
        obtain ⟨verdict, given, same⟩ := map_eq_ok_iff.mp agreed
        cases same
        exact without given
      obtain ⟨⟨rejection, rested⟩, _⟩ := step.of_refused refused
      rw [rested] at moved
      rw [made]
      refine .refused ?_ ⟨rfl, ?_, ?_⟩
      · rintro ⟨exchange, member, _, agreed⟩
        obtain rfl := List.mem_singleton.mp member
        exact refused agreed
      · exact (congrArg Machine.activation moved).trans rfl
      · exact (congrArg (·.run.status) moved).trans rfl
  | settled took settles made =>
      have agreed : (runner.machine.perform call).reply = .ok (.verdict .accepted) :=
        replied.symm.trans (congrArg (Except.map Reply.verdict) took)
      have accepted : runner.machine.Accepted (runner.completeForCalls token output data) token :=
        made ▸ ⟨_, .head _, ⟨output, _, false, rfl⟩, agreed⟩
      rw [agreed] at step
      obtain ⟨timely, entered⟩ := step.of_accepted
      have current := Machine.token_eq_of_isStale timely
      have later : runner.machine.activation <
          (runner.absorb (runner.engine.perform call)).machine.activation := by
        rw [moved, entered]
        exact Nat.lt_succ_self _
      have begun : runner.Onward (runner.absorb (runner.engine.perform call)) := ⟨rfl, later.le⟩
      rcases orderlyAfter.settleAfter_cases Verdict.accepted with
        ⟨middle, onward, settled⟩ | ⟨last, fault, onward, settled⟩
      · cases settles.symm.trans settled
        exact .rendered accepted current (begun.trans onward)
          (later.trans_le onward.activation_le)
      · cases settles.symm.trans settled
        exact .stalled accepted current (begun.trans onward) (later.trans_le onward.activation_le)

end Completion

/-- What an operation that returns can leave of the rendering. -/
inductive HandsOver (before : Runner) : Runner → Prop where
  | rests {after : Runner} (unmoved : before.Unmoved after) : HandsOver before after
  | renders {middle : Runner} (onward : before.Onward middle) : HandsOver before middle.render

/-- An operation may begin with something that does not matter. -/
theorem Unmoved.handsOver {middle : Runner} (unmoved : runner.Unmoved middle)
    (handsOver : middle.HandsOver after) : runner.HandsOver after := by
  cases handsOver with
  | rests more => exact .rests (unmoved.trans more)
  | renders onward => exact .renders (unmoved.onward.trans onward)

section Orderly

variable (orderly : runner.IsOrderly)
include orderly

/-- Calls were made of the engine, and then the runner settled. -/
theorem IsOrderly.settled_handsOver {α : Type} {middle : Runner} {calls : List Call}
    (drives : runner.Drives calls middle) (desk_eq : middle.desk = runner.desk) {reply answer : α}
    (told : middle.settleAfter reply = (after, .ok answer)) : runner.HandsOver after := by
  have begun := drives.onward orderly desk_eq
  rcases (drives.play orderly).1.settleAfter_cases reply with
    ⟨last, onward, settled⟩ | ⟨_, fault, _, settled⟩
  · rw [settled] at told
    cases told
    exact .renders (begun.trans onward)
  · rw [settled] at told
    cases told

/-- A call of the engine that leaves the machine where it is. -/
theorem IsOrderly.unmoved_of_idle (call : Call)
    (idle : (runner.machine.perform call).machine = runner.machine) :
    runner.Unmoved (runner.absorb (runner.engine.perform call)) := by
  have moved : (runner.absorb (runner.engine.perform call)).machine = runner.machine :=
    (Engine.perform_machine orderly.rest call).trans idle
  exact ⟨rfl, congrArg Machine.activation moved, congrArg (·.run.status) moved⟩

theorem IsOrderly.start_handsOver {took : Bool} (told : runner.start = (after, .ok took)) :
    runner.HandsOver after := by
  cases undertakes_of_start told with
  | settled _ settles => exact orderly.settled_handsOver (.called runner .start) rfl settles
  | ended answer without =>
      obtain rfl : took = false := by simpa using without
      refine .rests (orderly.unmoved_of_idle .start ?_)
      exact (orderly.step .start (congrArg (Except.map Reply.flag) answer)).of_late_start

theorem IsOrderly.completeFor_handsOver {token : Int} {output : String} {data : Option Record}
    {verdict : Verdict} (told : runner.completeFor token output data = (after, .ok verdict)) :
    runner.HandsOver after := by
  cases orderly.completeFor_concludes told with
  | refused _ unmoved => exact .rests unmoved
  | rendered _ _ onward => exact .renders onward

theorem IsOrderly.submit_handsOver {output : String} {data : Option Record} {answer : Submission}
    (told : runner.submit output data = (after, .ok answer)) : runner.HandsOver after := by
  cases submits_of_eq told with
  | noStep | refused => exact .rests ⟨rfl, rfl, rfl⟩
  | @handedOn props _ _ _ _ _ _ _ completed answered =>
      obtain ⟨verdict, rfl, rfl⟩ := map_eq_ok_iff.mp answered.symm
      have unmoved : runner.Unmoved (runner.resolve props.node.kind).1 := ⟨rfl, rfl, rfl⟩
      have orderlyStill := ((runner.drives_resolve props.node.kind).play orderly).1
      exact unmoved.handsOver (orderlyStill.completeFor_handsOver completed)

theorem IsOrderly.goBack_handsOver {entry : Option HistoryEntry}
    (told : runner.goBack = (after, .ok entry)) : runner.HandsOver after := by
  cases entry with
  | some entry =>
      obtain ⟨middle, calls, unwinds, settled⟩ := unwinds_of_goBack told
      exact orderly.settled_handsOver unwinds.drives (isAside_desk.unwinds unwinds) settled
  | none =>
      obtain ⟨_, answer, rfl⟩ := orderly.goBack_none told
      refine .rests (orderly.unmoved_of_idle .goBack ?_)
      exact (orderly.step .goBack (congrArg (Except.map Reply.entry) answer)).of_nothing_undone

theorem IsOrderly.settle_handsOver (told : runner.settle = (after, .ok ())) :
    runner.HandsOver after := by
  rcases orderly.settle_cases with ⟨middle, onward, settled⟩ | ⟨_, fault, _, settled⟩
  · rw [settled] at told
    cases told
    exact .renders onward
  · rw [settled] at told
    cases told

end Orderly

end Operations

/-! ## Calls of the host -/

section Staff

variable {completed : Nat → Prop} {agenda : Agenda} {runner after : Runner}

/-- Between turns what an operation leaves of the rendering is current. -/
theorem Staffed.handsOver (staffed : runner.Staffed completed agenda)
    (between : agenda.running = none) (handsOver : runner.HandsOver after) :
    ∃ later, after.Staffed completed later ∧ later.running = none := by
  cases handsOver with
  | rests unmoved => exact ⟨agenda, staffed.of_unmoved unmoved, between⟩
  | @renders middle onward =>
      obtain ⟨agenda_eq, rendering_eq⟩ := Prod.ext_iff.mp onward.desk_eq
      dsimp only [desk] at agenda_eq rendering_eq
      have accounted := staffed.toAccounted.onward onward.activation_le
      rw [← rendering_eq] at accounted
      obtain ⟨later, staffedAfter, running_eq, _⟩ :=
        accounted.render (agenda_eq.trans staffed.agenda_eq) fun id _ turn => by
          rw [between] at turn
          cases turn
      exact ⟨later, staffedAfter, running_eq.trans between⟩

theorem Staffed.reset (staffed : runner.Staffed completed agenda)
    (orderly : runner.IsOrderly) (between : agenda.running = none) :
    ∃ later, runner.reset.Staffed completed later ∧ later.running = none := by
  obtain ⟨later, desk_eq, accounted, running_eq, _⟩ :=
    staffed.toAccounted.cancelRendering staffed.agenda_eq fun id _ turn => by
      rw [between] at turn
      cases turn
  obtain ⟨agenda_eq, rendering_eq⟩ := Prod.ext_iff.mp desk_eq
  dsimp only [desk] at agenda_eq rendering_eq
  have onward : runner.machine.activation ≤ runner.reset.machine.activation := by
    rw [(runner.drives_reset.play orderly).2]
    exact runner.machine.activation_le_play [.reset]
  have forgotten : runner.reset.rendering = none := rendering_eq
  refine ⟨later, ⟨?_, agenda_eq, ?_⟩, running_eq.trans between⟩
  · rw [forgotten]
    exact accounted.onward onward
  · intro task _ here
    rw [forgotten] at here
    cases here

theorem Staffed.onAgenda (staffed : runner.Staffed completed agenda) (change : Agenda → Agenda)
    (changed : (change agenda).IsKept ∧ agenda.Continues (change agenda)) :
    (runner.onAgenda change).Staffed completed (change agenda) := by
  have went := staffed.continue changed.2 changed.1
  rwa [← Option.map_some, ← staffed.agenda_eq] at went

theorem Staffed.passTime (staffed : runner.Staffed completed agenda) (moment : Binary64) :
    ∃ later, (runner.passTime moment).Staffed completed later ∧ later.running = agenda.running := by
  let change (agenda : Agenda) : Agenda :=
    if agenda.clock.less moment then { agenda with clock := moment } else agenda
  have changed : (change agenda).tasks = agenda.tasks ∧
      (change agenda).created = agenda.created ∧ (change agenda).running = agenda.running := by
    unfold change
    split
    · exact ⟨rfl, rfl, rfl⟩
    · exact ⟨rfl, rfl, rfl⟩
  obtain ⟨tasks_eq, created_eq, running_eq⟩ := changed
  refine ⟨change agenda, staffed.onAgenda change ?_, running_eq⟩
  exact ⟨staffed.kept.of_tasks_eq tasks_eq created_eq,
    (Agenda.Continues.refl agenda).of_tasks_eq tasks_eq created_eq⟩

theorem Staffed.elapse (staffed : runner.Staffed completed agenda)
    (between : agenda.running = none) (deadline : Option Binary64) :
    ∃ later, (runner.elapse deadline).Staffed completed later ∧ later.running = none := by
  unfold Runner.elapse
  split
  · rename_i moment task next
    have waking := (Option.filter_eq_some_iff.mp next).1
    rw [staffed.agenda_eq] at waking
    obtain ⟨member, live⟩ := Agenda.mem_of_next? waking
    exact ⟨_, staffed.onAgenda _ (staffed.kept.wake member live moment), between⟩
  · split
    · exact ⟨agenda, staffed, between⟩
    · obtain ⟨later, staffedAfter, running_eq⟩ := staffed.passTime _
      exact ⟨later, staffedAfter, running_eq.trans between⟩

/-- **Between turns a call of the host that returns keeps the rendering current.** -/
theorem Staffed.perform (staffed : runner.Staffed completed agenda) (orderly : runner.IsOrderly)
    (between : agenda.running = none) {call : HostCall} (driven : call.IsOfRunner)
    (noTurn : call ≠ .serve) (returned : (runner.answer call).isOk = true) :
    ∃ later, (runner.perform call).Staffed completed later ∧ later.running = none := by
  cases call with
  | start =>
      obtain ⟨took, told⟩ := exists_of_map_isOk returned
      exact staffed.handsOver between (orderly.start_handsOver (Prod.ext rfl told))
  | complete output data activation =>
      obtain ⟨verdict, told⟩ := exists_of_map_isOk returned
      exact staffed.handsOver between (orderly.completeFor_handsOver (Prod.ext rfl told))
  | completeKept activation output data =>
      obtain ⟨verdict, told⟩ := exists_of_map_isOk returned
      exact staffed.handsOver between (orderly.completeFor_handsOver (Prod.ext rfl told))
  | submit output data =>
      obtain ⟨answer, told⟩ := exists_of_map_isOk returned
      exact staffed.handsOver between (orderly.submit_handsOver (Prod.ext rfl told))
  | goBack =>
      obtain ⟨entry, told⟩ := exists_of_map_isOk returned
      exact staffed.handsOver between (orderly.goBack_handsOver (Prod.ext rfl told))
  | reset => exact staffed.reset orderly between
  | settle =>
      obtain ⟨_, told⟩ := exists_of_map_isOk returned
      exact staffed.handsOver between (orderly.settle_handsOver (Prod.ext rfl told))
  | direct call => exact driven.elim
  | subscribe => exact ⟨agenda, staffed.of_unmoved ⟨rfl, rfl, rfl⟩, between⟩
  | unsubscribe name =>
      have still := runner.engine.unsubscribe_machine name
      refine ⟨agenda, staffed.of_unmoved ⟨rfl, ?_, ?_⟩, between⟩
      · exact congrArg Machine.activation still
      · exact congrArg (·.run.status) still
  | register => exact ⟨agenda, staffed.of_unmoved ⟨rfl, rfl, rfl⟩, between⟩
  | serve => exact absurd rfl noTurn
  | elapse deadline => exact staffed.elapse between deadline

end Staff

/-! ## Turns of tasks -/

/-- The turn of a task, amid which the rendering is current. -/
structure Amid (completed : Nat → Prop) (task : Task) (runner : Runner) (agenda : Agenda) : Prop
    extends runner.Staffed completed agenda where
  turn : agenda.running = some task.id
  member : task ∈ agenda.tasks

/-- The task has completed its own step, which did not settle: the rendering is still that task, but
its stay is over. -/
structure IsStalled (completed : Nat → Prop) (task : Task) (runner : Runner) (agenda : Agenda) :
    Prop extends Accounted completed runner.machine.activation runner.rendering agenda where
  agenda_eq : runner.agenda = some agenda
  own : runner.rendering = some task.id
  turn : agenda.running = some task.id
  member : task ∈ agenda.tasks

/-- Those that have completed their own steps once calls were made in the turn of a task. -/
def Completing (completed : Nat → Prop) (task : Task) (machine : Machine) (calls : List Call) :
    Nat → Prop :=
  fun id => completed id ∨ id = task.id ∧ machine.Accepted calls task.activation

section Turn

variable {completed : Nat → Prop} {agenda : Agenda} {runner : Runner} {task : Task}

theorem completing_of_not {machine : Machine} {calls : List Call}
    (none : ¬machine.Accepted calls task.activation) :
    Completing completed task machine calls = completed := by
  funext id
  simp [Completing, none]

theorem completing_nil {machine : Machine} : Completing completed task machine [] = completed :=
  completing_of_not (machine.not_accepted_nil _)

theorem completing_append {machine : Machine} {calls more : List Call} :
    Completing completed task machine (calls ++ more) =
      Completing (Completing completed task machine calls) task (machine.play calls) more := by
  funext id
  simp only [Completing, Machine.accepted_append, and_or_left, or_assoc]

/-- Of the tasks that may go on, only the rendering has a stay that is not over. -/
theorem Staffed.rendering_of_current (staffed : runner.Staffed completed agenda)
    (member : task ∈ agenda.tasks) (live : task.phase ≠ .ended) (free : task.isCancelled = false)
    (current : task.activation = runner.machine.activation) :
    runner.rendering = some task.id := by
  by_contra apart
  rcases staffed.parted task member apart live with asked | done
  · rw [free] at asked
    cases asked
  · exact absurd current (Nat.ne_of_lt (staffed.overtaken task member done))

/-- A completion was taken in the turn of a task, and the engine has moved on. -/
theorem Amid.taken (amid : Amid completed task runner agenda) {calls : List Call} {after : Runner}
    (current : task.activation = runner.machine.activation) (onward : runner.Onward after)
    (later : runner.machine.activation < after.machine.activation) :
    after.agenda = some agenda ∧ after.rendering = runner.rendering ∧
      Accounted (Completing completed task runner.machine calls) after.machine.activation
        after.rendering agenda := by
  obtain ⟨agenda_eq, rendering_eq⟩ := Prod.ext_iff.mp onward.desk_eq
  dsimp only [desk] at agenda_eq rendering_eq
  refine ⟨agenda_eq.trans amid.agenda_eq, rendering_eq, ?_⟩
  rw [rendering_eq]
  refine amid.toAccounted.overtake onward.activation_le (fun id => .inl) ?_
  rintro id (done | ⟨rfl, _⟩)
  · exact .inl done
  · exact .inr ⟨task, amid.member, rfl, current ▸ later⟩

/-- **A completion in the turn of a task keeps the rendering current**, or it stalls. -/
theorem Amid.completeFor (amid : Amid completed task runner agenda) (orderly : runner.IsOrderly)
    (live : task.phase ≠ .ended) (free : task.isCancelled = false) {output : String}
    {data : Option Record} {after : Runner} {reply : Except Fault Verdict}
    (told : runner.completeFor task.activation output data = (after, reply)) :
    let others := Completing completed task runner.machine
      (runner.completeForCalls task.activation output data)
    ∃ later, Amid others task after later ∨
      (∃ fault, reply = .error fault) ∧ IsStalled others task after later := by
  have concludes := orderly.completeFor_concludes told
  dsimp only at concludes ⊢
  cases concludes with
  | refused turnedDown unmoved =>
      rw [completing_of_not turnedDown]
      exact ⟨agenda, .inl ⟨amid.toStaffed.of_unmoved unmoved, amid.turn, amid.member⟩⟩
  | @rendered middle taken current onward passed =>
      obtain ⟨agenda_eq, _, accounted⟩ := amid.taken (Int.ofNat_inj.mp current) onward passed
      obtain ⟨later, staffed, running_eq, stays⟩ := accounted.render agenda_eq fun id _ turn => by
        obtain rfl : task.id = id := Option.some.inj (amid.turn.symm.trans turn)
        exact .inr ⟨rfl, taken⟩
      exact ⟨later, .inl ⟨staffed, running_eq.trans amid.turn, stays task amid.member amid.turn⟩⟩
  | stalled taken current onward passed =>
      have same := Int.ofNat_inj.mp current
      obtain ⟨agenda_eq, rendering_eq, accounted⟩ := amid.taken same onward passed
      have own := amid.rendering_of_current amid.member live free same
      exact ⟨agenda, .inr ⟨⟨_, rfl⟩,
        ⟨accounted, agenda_eq, rendering_eq.trans own, amid.turn, amid.member⟩⟩⟩

/-- **The actions of a task keep the rendering current**, unless a completion stalls and the task
fails. -/
theorem Amid.act (amid : Amid completed task runner agenda) (orderly : runner.IsOrderly)
    (free : task.isCancelled = false) {actions : List Action}
    (spent : task.phase = .ended → actions = []) {after : Runner} {pause : Pause}
    (acted : Runner.act task actions runner = (after, pause)) :
    let others := Completing completed task runner.machine (actCalls task actions runner)
    ∃ later, Amid others task after later ∨
      (∃ fault, pause = .failed fault) ∧ IsStalled others task after later := by
  induction actions generalizing runner completed agenda with
  | nil =>
      cases acted
      exact ⟨agenda, .inl (by simpa only [actCalls, completing_nil] using amid)⟩
  | cons action rest ih =>
      have live : task.phase ≠ .ended := fun hasEnded => nomatch spent hasEnded
      have onward : task.phase = .ended → rest = [] := fun hasEnded => absurd hasEnded live
      cases action with
      | say remark =>
          have logged : Amid completed task (runner.log [remark]) agenda :=
            ⟨amid.toStaffed.of_unmoved ⟨rfl, rfl, rfl⟩, amid.turn, amid.member⟩
          exact ih logged ((runner.drives_log [remark]).play orderly).1 onward acted
      | sleep | fail =>
          cases acted
          exact ⟨agenda, .inl (by simpa only [actCalls, completing_nil] using amid)⟩
      | complete output data isReported =>
          unfold Runner.act at acted
          unfold actCalls
          cases told : runner.completeFor task.activation output data with
          | mk middle reply =>
              rw [told] at acted
              obtain ⟨orderlyStill, moved⟩ :=
                ((undertakes_of_completeFor told).drives rfl).play orderly
              obtain ⟨later, kept⟩ := amid.completeFor orderly live free told
              cases reply with
              | error fault =>
                  cases acted
                  refine ⟨later, ?_⟩
                  simp only [List.append_nil]
                  exact kept.imp_right fun stalled => ⟨⟨fault, rfl⟩, stalled.2⟩
              | ok verdict =>
                  rcases kept with still | ⟨⟨_, failed⟩, _⟩
                  · dsimp only at acted ⊢
                    rw [completing_append, ← moved]
                    cases isReported with
                    | false => exact ih still orderlyStill onward acted
                    | true =>
                        refine ih (?_ : Amid _ task _ later) ?_ onward acted
                        · exact ⟨still.toStaffed.of_unmoved ⟨rfl, rfl, rfl⟩, still.turn,
                            still.member⟩
                        · exact ⟨orderlyStill.rest, orderlyStill.guards_le⟩
                  · cases failed

/-- At the end of its turn a task ends or waits. -/
theorem Amid.closing (amid : Amid completed task runner agenda) (change : Agenda → Agenda)
    (changed : ∀ agenda : Agenda, agenda.IsKept → task ∈ agenda.tasks →
      (change agenda).IsKept ∧ agenda.Continues (change agenda) ∧
        (change agenda).running = agenda.running) :
    ∃ later, ((runner.onAgenda fun agenda => { agenda with running := none }).onAgenda
      change).Staffed completed later ∧ later.running = none := by
  have kept : ({ agenda with running := none } : Agenda).IsKept := amid.kept.of_tasks_eq rfl rfl
  have closed := amid.toStaffed.onAgenda (fun agenda => { agenda with running := none })
    ⟨kept, (Agenda.Continues.refl agenda).of_tasks_eq rfl rfl⟩
  obtain ⟨keptAfter, continues, running_eq⟩ := changed _ kept amid.member
  exact ⟨_, closed.onAgenda change ⟨keptAfter, continues⟩, running_eq⟩

/-- A task whose completion stalled ends, and with it the rendering of the stay that is over. -/
theorem IsStalled.closing (stalled : IsStalled completed task runner agenda) (remark : Remark) :
    ∃ later, ((runner.onAgenda fun agenda => { agenda with running := none }).onAgenda
      fun agenda => (agenda.finish task).enqueue (.report remark)).Staffed completed later ∧
        later.running = none := by
  have kept : ({ agenda with running := none } : Agenda).IsKept :=
    stalled.kept.of_tasks_eq rfl rfl
  obtain ⟨keptAfter, continues⟩ := Agenda.IsKept.finish
    (show task ∈ ({ agenda with running := none } : Agenda).tasks from stalled.member) kept
  let ended := (({ agenda with running := none } : Agenda).finish task).enqueue (.report remark)
  refine ⟨ended, ⟨?_, ?_, ?_⟩, rfl⟩
  · have through : agenda.Continues ended :=
      ⟨continues.created_eq, continues.becomes⟩
    exact stalled.toAccounted.continue through (keptAfter.of_tasks_eq rfl rfl)
  · simp [Runner.onAgenda, stalled.agenda_eq, ended]
  · intro other member here live
    have same : task.id = other.id := Option.some.inj (stalled.own.symm.trans here)
    rcases Agenda.mem_put_iff.mp member with ⟨_, apart⟩ | ⟨rfl, _⟩
    · exact absurd same.symm apart
    · exact absurd rfl live

/-- **A turn of a task keeps the rendering current.** -/
theorem Staffed.turn (staffed : runner.Staffed completed agenda) (orderly : runner.IsOrderly)
    (between : agenda.running = none) (member : task ∈ agenda.tasks) :
    ∃ later, (runner.turn task).Staffed
      (Completing completed task runner.machine (runner.turnCalls task)) later ∧
        later.running = none := by
  unfold Runner.turn turnCalls
  by_cases asked : task.isCancelled = true
  · rw [if_pos asked, if_pos asked, completing_nil]
    have logged : (runner.log task.onCancel.toList).Staffed completed agenda :=
      staffed.of_unmoved ⟨rfl, rfl, rfl⟩
    exact ⟨_, logged.onAgenda _ (staffed.kept.finish member), between⟩
  · rw [if_neg asked, if_neg asked]
    have free : task.isCancelled = false := Bool.not_eq_true _ ▸ asked
    have began := staffed.onAgenda (fun agenda => { agenda with running := some task.id })
      ⟨staffed.kept.of_tasks_eq rfl rfl, (Agenda.Continues.refl agenda).of_tasks_eq rfl rfl⟩
    have amid : Amid completed task _ _ := ⟨began, rfl, member⟩
    have orderlyBegun := ((runner.drives_onAgenda
      fun agenda => { agenda with running := some task.id }).play orderly).1
    dsimp only
    cases acted : Runner.act task task.actions
        (runner.onAgenda fun agenda => { agenda with running := some task.id }) with
    | mk after pause =>
        have spent := staffed.kept.spent task member
        obtain ⟨later, amidAfter | ⟨⟨fault, rfl⟩, stalled⟩⟩ :=
          amid.act orderlyBegun free spent acted
        · cases pause with
          | ended =>
              exact amidAfter.closing _ fun agenda kept member =>
                ⟨(kept.finish member).1, (kept.finish member).2, rfl⟩
          | failed fault =>
              refine amidAfter.closing _ fun agenda kept member => ?_
              obtain ⟨keptAfter, continues⟩ := kept.finish member
              exact ⟨keptAfter.of_tasks_eq rfl rfl, continues.of_tasks_eq rfl rfl, rfl⟩
          | asleep seconds onCancel rest =>
              have live : task.phase ≠ .ended := by
                intro hasEnded
                rw [spent hasEnded] at acted
                cases acted
              refine amidAfter.closing _ fun agenda kept member => ?_
              obtain ⟨keptAfter, continues⟩ := kept.suspend member live seconds onCancel rest
              exact ⟨keptAfter, continues, agenda.running_suspend task seconds onCancel rest⟩
        · exact stalled.closing (failureRemark task fault)

end Turn

end Runner

end GuestFlow
