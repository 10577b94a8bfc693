import GuestFlow.Proofs.Engine.Refusal

/-!
# Runs under listeners

Listeners are told an event when the machine has already moved, and while they are told
it an operation is in progress.  This module compares a run of calls under listeners with
the same calls of an engine to which nobody listens (`listeners_leave_runs_alone`).

Nothing is assumed of the listeners.  Each of them is a program of its own, and between
two calls they may become any others (`Engine.Move.relist`), so that a listener which
remembers what it was told is one that goes on as another listener.

Who is told what is said by `Engine.hearings` and not by the delivery itself: these are
the deeds of everyone who listens when the delivery begins, each listener by itself, in the
order of the subscriptions.  Of the calls among these deeds the engine answers only
those that would change nothing.

Failures may be of any kind.  A failure that has no words cannot be put into the journal;
the fault of asking for them escapes (`Engine.Turn.outcry?`).  That is the only way in
which a listener can be noticed by a caller: those after it are not told, and the caller
hears the fault, but the call has gone through as if nobody listened.
-/

set_option autoImplicit false

namespace GuestFlow

namespace Machine

/-! ## What a call emits -/

/-- What a call announces, and what it makes of the events that are kept. -/
inductive Emits (machine : Machine) (call : Call) (after : Machine) : Option Event → Prop where
  | nothing (keeps : call ≠ .reset) (same : after.events = machine.events) :
      Emits machine call after none
  | appended {event : Event} (keeps : call ≠ .reset)
      (kept : after.events = machine.events ++ [event]) : Emits machine call after (some event)
  /-- A run that begins has no earlier events. -/
  | first {event : Event} (begins : call = .start) (kept : after.events = [event]) :
      Emits machine call after (some event)
  /-- A reset is announced, but not kept. -/
  | cleared {event : Event} (resets : call = .reset) (isReset : event.kind = .reset)
      (numbered : event.sequence = machine.sequence) (kept : after.events = []) :
      Emits machine call after (some event)

theorem emits_keep {machine before : Machine} {call : Call} {event : Nat → Event}
    (keeps : call ≠ .reset) (numbered : before.sequence = machine.sequence)
    (kept : before.events = machine.events) :
    machine.Emits call (before.keep event) (machine.announcementOf call (before.keep event)) := by
  rw [announcementOf_keep keeps numbered]
  exact .appended keeps (by simp [keep, numbered, kept])

theorem emits_of_sequence_eq {machine after : Machine} {call : Call} (keeps : call ≠ .reset)
    (same : after.sequence = machine.sequence) (kept : after.events = machine.events) :
    machine.Emits call after (machine.announcementOf call after) := by
  rw [announcementOf_of_sequence_eq keeps same]
  exact .nothing keeps kept

/-- What a step keeps and what it announces go together. -/
theorem Step.emits {machine after : Machine} {call : Call} {reply : Except Fault Reply}
    (step : machine.Step call after reply) :
    machine.Emits call after (machine.announcementOf call after) := by
  cases step with
  | started =>
      rw [announcementOf_keep]
      · exact .first rfl rfl
      · exact nofun
      · rfl
  | lost | broken | finished | moved | undone => exact emits_keep nofun rfl rfl
  | cleared => exact .cleared rfl rfl rfl rfl
  | alreadyStarted | ignored | stale | undeclared | nothingBehind | stuck | undoneInSilence
  | evaluated => exact emits_of_sequence_eq nofun rfl rfl

/-- **Whatever a call keeps among the events it announces, and only a reset besides.** -/
theorem emits_perform (machine : Machine) (call : Call) :
    machine.Emits call (machine.perform call).machine (machine.perform call).announcement := by
  rw [machine.perform_announcement call]
  exact (machine.step_perform call).emits

end Machine

namespace Engine

/-! ## Runs with listeners -/

/-- What happens to an engine from outside: a call, or a change of those who listen. -/
inductive Move (Failure : Type := Fault) where
  | call (call : Call)
  | subscribe (name : String) (listener : Listener Failure)
  | unsubscribe (name : String)
  /-- Those who listen become any others. -/
  | relist (change : List (Listener Failure) → List (Listener Failure))

variable {Failure : Type}

def Move.isCall : Move Failure → Bool
  | .call _ => true
  | _ => false

/-- A call of an engine. -/
structure Turn (Failure : Type := Fault) where
  before : Engine Failure
  call : Call

variable [Worded Failure]

/-- The calls of an engine during a run, each with the engine that is called. -/
def turns (engine : Engine Failure) : List (Move Failure) → List (Turn Failure)
  | [] => []
  | .call call :: moves => ⟨engine, call⟩ :: (engine.perform call).engine.turns moves
  | .subscribe name listener :: moves => (engine.subscribe name listener).turns moves
  | .unsubscribe name :: moves => (engine.unsubscribe name).turns moves
  | .relist change :: moves =>
    { engine with subscriptions := change engine.subscriptions }.turns moves

namespace Turn

def report (turn : Turn Failure) : Report Reply Failure := turn.before.perform turn.call

/-- What those do who are told what the call announces. -/
def hearings (turn : Turn Failure) : List (Hearing Failure) := turn.before.hearings turn.call

/-- The fault that escapes from those who are told what the call announces. -/
def outcry? (turn : Turn Failure) : Option Fault := turn.hearings.findSome? Hearing.outcry?

/-- Those who listen when the call announces something. -/
def audience (turn : Turn Failure) : List (Listener Failure) :=
  match turn.report.announcement with
  | none => []
  | some _ => turn.before.subscriptions

/-- How what a call announces is delivered. -/
structure IsDelivered (turn : Turn Failure) : Prop where
  /-- Everyone who listens when the delivery begins is told once, in order, and nobody else is. -/
  told : turn.outcry? = none → turn.hearings.map Hearing.listener = turn.audience
  /-- If a fault escapes, the listeners after it are not told. -/
  inOrder : turn.hearings.map Hearing.listener <+: turn.audience
  /-- A listener is told what the call announces and finds the machine as the call leaves it. -/
  hearing_eq : ∀ hearing ∈ turn.hearings, ∃ operation event,
    turn.call.operation? = some operation ∧ turn.report.announcement = some event ∧
      hearing = hearing.listener.hearing turn.report.engine.machine operation event
  /-- Whatever would change the machine is refused. -/
  refused : ∀ hearing ∈ turn.hearings, ∀ asked reply journal,
    .asked asked reply journal ∈ hearing.deeds → ∀ operation, asked.operation? = some operation →
      ∃ active, turn.call.operation? = some active ∧ reply = .error (.reentrant operation active)
  notes_eq : turn.report.notes = turn.hearings.flatMap Hearing.notes
  /-- Of what listeners do, only the subscriptions they change stay. -/
  engine_eq : turn.report.engine = (turn.hearings.flatMap Hearing.deeds).foldl mark
    { turn.before with machine := turn.report.engine.machine }

/-- How a call that listeners are told of compares with the same call where nobody listens. -/
structure IsUnmoved (heard alone : Turn Failure) : Prop where
  call_eq : heard.call = alone.call
  nobody : alone.before.subscriptions = []
  before_eq : heard.before.machine = alone.before.machine
  /-- The run, the events, their number and the activation are the same, and so is the rest. -/
  after_eq : heard.report.engine.machine = alone.report.engine.machine
  /-- The reply is the same, unless a fault escapes. -/
  reply_eq : heard.report.reply = replyAfter heard.outcry? alone.report.reply
  announcement_eq : heard.report.announcement = alone.report.announcement
  /-- No operation is in progress any more. -/
  rest : heard.report.engine.active = none
  /-- Every event is announced, also the one that a reset does not keep. -/
  emits : heard.before.machine.Emits heard.call heard.report.engine.machine
    heard.report.announcement
  journal_eq : heard.report.journal =
    alone.report.journal ++ heard.hearings.flatMap Hearing.journal
  delivered : heard.IsDelivered

variable {heard alone : Turn Failure}

section Rest

variable (rest : heard.before.active = none)
include rest

/-- Whoever is told comes in the order of the subscriptions, and nobody is left out but after an
outcry. -/
theorem told_of_rest :
    heard.hearings.map Hearing.listener <+: heard.audience ∧
      (heard.outcry? = none → heard.hearings.map Hearing.listener = heard.audience) := by
  have announcement_eq : heard.report.announcement = _ := perform_announcement rest heard.call
  unfold outcry? hearings audience
  rw [announcement_eq]
  rcases heard.before.hearings_cases heard.call with
    ⟨silent, nobody⟩ | ⟨operation, event, -, announced, hearings_eq⟩
  · rw [silent, nobody]
    exact ⟨List.nil_prefix, fun _ => rfl⟩
  · rw [announced, hearings_eq]
    exact ⟨Hearing.inTurn_ordered _, fun quiet => Hearing.inTurn_of_noOutcry quiet⟩

/-- What a listener does it does by itself, in the middle of the operation. -/
theorem hearing_eq_of_mem {hearing : Hearing Failure} (told : hearing ∈ heard.hearings) :
    ∃ operation event, heard.call.operation? = some operation ∧
      heard.report.announcement = some event ∧
      hearing = hearing.listener.hearing heard.report.engine.machine operation event := by
  have machine_eq : heard.report.engine.machine = _ := perform_machine rest heard.call
  have announcement_eq : heard.report.announcement = _ := perform_announcement rest heard.call
  unfold hearings at told
  rcases heard.before.hearings_cases heard.call with
    ⟨-, nobody⟩ | ⟨operation, event, asked, announced, hearings_eq⟩
  · rw [nobody] at told
    cases told
  · rw [hearings_eq] at told
    rw [machine_eq, announcement_eq]
    exact ⟨operation, event, asked, announced, Hearing.eq_hearing_of_mem_inTurn told⟩

/-- Whatever a listener asks for that would change the machine is refused. -/
theorem refused_of_mem {hearing : Hearing Failure} (told : hearing ∈ heard.hearings) {asked : Call}
    {reply : Except Fault Reply} {journal : Journal}
    (made : .asked asked reply journal ∈ hearing.deeds) {operation : Operation}
    (would : asked.operation? = some operation) :
    ∃ active, heard.call.operation? = some active ∧
      reply = .error (.reentrant operation active) := by
  obtain ⟨active, event, called, -, hearing_eq⟩ := hearing_eq_of_mem rest told
  rw [hearing_eq] at made
  have answer_eq := Program.eq_answer_of_mem_deeds _ made
  unfold Machine.answerDuring at answer_eq
  rw [would] at answer_eq
  exact ⟨active, called, congrArg Prod.fst answer_eq⟩

theorem isDelivered : heard.IsDelivered := by
  have machine_eq : heard.report.engine.machine = _ := perform_machine rest heard.call
  have report_eq : heard.report = _ := perform_eq rest heard.call
  obtain ⟨inOrder, told⟩ := told_of_rest rest
  refine
    { told, inOrder
      hearing_eq := fun hearing there => hearing_eq_of_mem rest there
      refused := fun hearing there asked reply journal made operation would =>
        refused_of_mem rest there made would
      notes_eq := ?_
      engine_eq := ?_ }
  · rw [report_eq]
    rfl
  · rw [machine_eq, report_eq]
    rfl

/-- One call: if nobody but the listeners of the first engine differs, nothing else does. -/
theorem isUnmoved (restAlone : alone.before.active = none)
    (nobody : alone.before.subscriptions = []) (call_eq : heard.call = alone.call)
    (before_eq : heard.before.machine = alone.before.machine) : heard.IsUnmoved alone := by
  have report_eq : heard.report = _ := perform_eq rest heard.call
  have machine_eq : heard.report.engine.machine = _ := perform_machine rest heard.call
  have announcement_eq : heard.report.announcement = _ := perform_announcement rest heard.call
  have alone_eq : alone.report = _ := perform_of_nobody restAlone nobody alone.call
  rw [← call_eq, ← before_eq] at alone_eq
  refine
    { call_eq, nobody, before_eq
      after_eq := ?_
      reply_eq := ?_
      announcement_eq := ?_
      rest := perform_active rest heard.call
      emits := ?_
      journal_eq := ?_
      delivered := isDelivered rest }
  · rw [machine_eq, alone_eq]
  · rw [report_eq, alone_eq]
    rfl
  · rw [announcement_eq, alone_eq]
  · rw [machine_eq, announcement_eq]
    exact Machine.emits_perform ..
  · rw [report_eq, alone_eq]
    rfl

end Rest

/-- Nothing escapes where every failure has words. -/
theorem outcry?_eq_none [WellWorded Failure] (turn : Turn Failure) : turn.outcry? = none := by
  apply List.findSome?_eq_none_iff.mpr
  intro hearing _
  cases out : hearing.outcry? with
  | none => rfl
  | some fault =>
      obtain ⟨failure, -, wordless⟩ := Hearing.of_outcry out
      exact (WellWorded.words_ne_error failure fault wordless).elim

end Turn

/-- Engines at rest with one machine, of which nobody listens to the second, do the same calls. -/
theorem turns_unmoved {heard alone : Engine Failure} (rest : heard.active = none)
    (restAlone : alone.active = none) (nobody : alone.subscriptions = [])
    (same : heard.machine = alone.machine) (moves : List (Move Failure)) :
    List.Forall₂ Turn.IsUnmoved (heard.turns moves) (alone.turns (moves.filter Move.isCall)) := by
  induction moves generalizing heard alone with
  | nil => exact .nil
  | cons move moves ih =>
      cases move with
      | call call =>
          have unmoved : Turn.IsUnmoved ⟨heard, call⟩ ⟨alone, call⟩ :=
            Turn.isUnmoved rest restAlone nobody rfl same
          have stillNobody : (alone.perform call).engine.subscriptions = [] := by
            rw [perform_of_nobody restAlone nobody]
            exact nobody
          exact .cons unmoved
            (ih (perform_active rest call) (perform_active restAlone call) stillNobody
              unmoved.after_eq)
      | subscribe name listener => exact ih rest restAlone nobody same
      | unsubscribe name =>
          exact ih ((heard.unsubscribe_active name).trans rest) restAlone nobody
            ((heard.unsubscribe_machine name).trans same)
      | relist change => exact ih rest restAlone nobody same

end Engine

namespace Booth

/-- A listener who resets the booth whenever something happens, and fails when that is refused. -/
def meddler : Listener where
  identity := 0
  hears _ event :=
    .note (.text event.kind.name) (.call .reset fun
      | .ok _ => .done
      | .error fault => .fail fault)

/-- A listener who has the meddler removed and wants to know what comes next. -/
def usher : Listener where
  identity := 1
  hears machine _ :=
    .note (.text (machine.run.current.getD "nowhere")) (.unsubscribe "meddler" .done)

/-- The meddler subscribes twice, with the usher in between, and the guest takes the first step,
goes back and leaves. -/
def meddling : List Engine.Move :=
  [.subscribe "meddler" meddler, .subscribe "usher" usher, .subscribe "helper" meddler,
    .call .start, .call (.complete "default" [] none false), .call .goBack, .call .reset]

/-- A listener whose failure has no words. -/
def mute : Listener Outburst where
  identity := 2
  hears _ _ := .fail ⟨.error (.stepFailed "speechless")⟩

/-- The start goes through, but the guest hears of the failure, and the second subscription hears
nothing. -/
example :
    ((Engine.create (.create graph false) Outburst).turns
        [.subscribe "mute" mute, .subscribe "echo" mute, .call .start]).map (fun turn =>
      (turn.report.reply, turn.hearings.length, turn.report.engine.machine.run.current)) =
      [(.error (.stepFailed "speechless"), 1, some "touch")] := rfl

end Booth

end GuestFlow
