import GuestFlow.Proofs.Machine.Step

/-!
# Engines at rest

An engine is at rest when no operation is in progress.  A call of an engine at rest does
to its machine what the machine does by itself, whoever listens
(`Engine.perform_machine`), and leaves the engine at rest (`Engine.perform_active`).  The
reason is that an operation in progress holds the machine still: a listener may call the
engine, but every call that would change the machine is refused until the operation is
over (`Engine.Delivery.deliver_still`).

The reply is the one the machine gives by itself as well (`Engine.perform_reply`), unless
a listener fails and has no words for it.  Faults always have words.

So whatever a run of calls does to a machine, it does to an engine at rest
(`Engine.play_machine`).
-/

set_option autoImplicit false

namespace GuestFlow

/-- Whoever fails with a failure of this kind has words for it. -/
class WellWorded (Failure : Type) [Worded Failure] : Prop where
  exists_words (failure : Failure) : ∃ words, Worded.words failure = .ok words

instance : WellWorded Fault := ⟨fun fault => ⟨fault.message, rfl⟩⟩

theorem WellWorded.words_ne_error {Failure : Type} [Worded Failure] [WellWorded Failure]
    (failure : Failure) (fault : Fault) : Worded.words failure ≠ .error fault := by
  obtain ⟨words, worded⟩ := exists_words failure
  rw [worded]
  exact nofun

/-- An outcome with another kind of reply. -/
def Outcome.map {α β : Type} (change : α → β) (outcome : Outcome α) : Outcome β :=
  ⟨outcome.machine, outcome.reply.map change, outcome.announcement, outcome.journal⟩

variable {Failure : Type}

/-- A report with another kind of reply. -/
def Report.map {α β : Type} (change : α → β) (report : Report α Failure) : Report β Failure :=
  ⟨report.engine, report.reply.map change, report.announcement, report.notes, report.journal⟩

namespace Engine

theorem unsubscribe_machine (engine : Engine Failure) (name : String) :
    (engine.unsubscribe name).machine = engine.machine := by
  unfold unsubscribe
  split
  · rfl
  · rfl

theorem unsubscribe_active (engine : Engine Failure) (name : String) :
    (engine.unsubscribe name).active = engine.active := by
  unfold unsubscribe
  split
  · rfl
  · rfl

/-! ## Deliveries -/

namespace Delivery

/-- An operation is in progress and the machine is as given. -/
structure Still (machine : Machine) (operation : Operation) (delivery : Delivery Failure) :
    Prop where
  machine_eq : delivery.engine.machine = machine
  active_eq : delivery.engine.active = some operation

variable {machine : Machine} {operation : Operation} {delivery : Delivery Failure}

/-- A call of a listener is refused, or it changes nothing. -/
theorem call_still (still : Still machine operation delivery) (call : Call) :
    Still machine operation (delivery.call call).1 := by
  cases call with
  | evaluate =>
      exact ⟨(Machine.perform_evaluate_machine _).trans still.machine_eq, still.active_eq⟩
  | start => simpa [Delivery.call, Call.operation?, still.active_eq] using still
  | complete => simpa [Delivery.call, Call.operation?, still.active_eq] using still
  | goBack => simpa [Delivery.call, Call.operation?, still.active_eq] using still
  | reset => simpa [Delivery.call, Call.operation?, still.active_eq] using still

theorem run_still (program : Program Failure) (still : Still machine operation delivery) :
    Still machine operation (delivery.run program).1 := by
  induction program generalizing delivery with
  | done => exact still
  | fail => exact still
  | note content rest ih => exact ih ⟨still.machine_eq, still.active_eq⟩
  | subscribe name identity hears rest _ ih => exact ih ⟨still.machine_eq, still.active_eq⟩
  | unsubscribe name rest ih =>
      exact ih ⟨(unsubscribe_machine ..).trans still.machine_eq,
        (unsubscribe_active ..).trans still.active_eq⟩
  | call call rest ih => exact ih _ (call_still still call)

variable [Worded Failure]

/-- A telling is a run of the listener's program, and a failure of it is put into words. -/
theorem tell_cases (delivery : Delivery Failure) (event : Event) (listener : Listener Failure) :
    (∃ after, delivery.run (listener.hears delivery.engine.machine event) = (after, none) ∧
        delivery.tell event listener = (after, none)) ∨
      (∃ after failure words,
        delivery.run (listener.hears delivery.engine.machine event) = (after, some failure) ∧
          Worded.words failure = .ok words ∧ delivery.tell event listener =
            ({ after with journal := after.journal ++ [failureRemark event words] }, none)) ∨
      ∃ after failure fault,
        delivery.run (listener.hears delivery.engine.machine event) = (after, some failure) ∧
          Worded.words failure = .error fault ∧
          delivery.tell event listener = (after, some fault) := by
  unfold tell
  rcases delivery.run (listener.hears delivery.engine.machine event) with ⟨after, _ | failure⟩
  · exact .inl ⟨after, rfl, rfl⟩
  · dsimp only
    cases worded : Worded.words failure with
    | ok words => exact .inr (.inl ⟨after, failure, words, rfl, worded, rfl⟩)
    | error fault => exact .inr (.inr ⟨after, failure, fault, rfl, worded, rfl⟩)

theorem tell_still (event : Event) (still : Still machine operation delivery)
    (listener : Listener Failure) :
    Still machine operation (delivery.tell event listener).1 := by
  have ran := run_still (listener.hears delivery.engine.machine event) still
  rcases delivery.tell_cases event listener with
    ⟨after, run, told⟩ | ⟨after, _, _, run, _, told⟩ | ⟨after, _, _, run, _, told⟩
  · rw [run] at ran
    rw [told]
    exact ran
  · rw [run] at ran
    rw [told]
    exact ⟨ran.machine_eq, ran.active_eq⟩
  · rw [run] at ran
    rw [told]
    exact ran

theorem tellAll_still (event : Event) (listeners : List (Listener Failure))
    (still : Still machine operation delivery) :
    Still machine operation (delivery.tellAll event listeners).1 := by
  induction listeners generalizing delivery with
  | nil => exact still
  | cons listener others ih =>
      have told := tell_still event still listener
      unfold tellAll
      split
      · rename_i after onward
        rw [onward] at told
        exact ih told
      · rename_i after fault out
        rw [out] at told
        exact told

/-- **Listeners cannot move a machine while an operation is in progress.** -/
theorem deliver_still (event : Event) (still : Still machine operation delivery) :
    Still machine operation (delivery.deliver event).1 :=
  tellAll_still event _ still

/-- No fault comes out where every failure has words. -/
theorem tellAll_of_wellWorded [WellWorded Failure] (event : Event)
    (listeners : List (Listener Failure)) (delivery : Delivery Failure) :
    (delivery.tellAll event listeners).2 = none := by
  induction listeners generalizing delivery with
  | nil => rfl
  | cons listener others ih =>
      unfold tellAll
      rcases delivery.tell_cases event listener with
        ⟨after, _, told⟩ | ⟨after, _, _, _, _, told⟩ | ⟨after, failure, fault, _, worded, _⟩
      · rw [told]
        exact ih _
      · rw [told]
        exact ih _
      · exact (WellWorded.words_ne_error failure fault worded).elim

end Delivery

/-! ## Operations -/

@[simp] theorem replyAfter_none {α : Type} (reply : Except Fault α) :
    replyAfter none reply = reply := rfl

@[simp] theorem replyAfter_some {α : Type} (fault : Fault) (reply : Except Fault α) :
    replyAfter (some fault) reply = .error fault := rfl

variable [Worded Failure]

/-- What comes of an operation of an engine at rest: the delivery of what it announces, and the
fault that comes out of it. -/
def delivered {α : Type} (engine : Engine Failure) (operation : Operation) (outcome : Outcome α) :
    Delivery Failure × Option Fault :=
  let begun : Delivery Failure :=
    ⟨{ engine with machine := outcome.machine, active := some operation }, [], outcome.journal⟩
  match outcome.announcement with
  | none => (begun, none)
  | some event => begun.deliver event

section Delivered

variable {α : Type} (engine : Engine Failure) (operation : Operation) (outcome : Outcome α)

theorem delivered_still :
    Delivery.Still outcome.machine operation (engine.delivered operation outcome).1 := by
  unfold delivered
  dsimp only
  split
  · exact ⟨rfl, rfl⟩
  · exact Delivery.deliver_still _ ⟨rfl, rfl⟩

theorem delivered_of_wellWorded [WellWorded Failure] :
    (engine.delivered operation outcome).2 = none := by
  unfold delivered
  dsimp only
  split
  · rfl
  · exact Delivery.tellAll_of_wellWorded ..

end Delivered

/-- An operation of an engine at rest is its transition and the delivery of what that announces. -/
theorem guarded_eq {α : Type} {engine : Engine Failure} (rest : engine.active = none)
    (operation : Operation) (transition : Machine → Outcome α) :
    engine.guarded operation transition =
      let outcome := transition engine.machine
      let (delivery, outcry) := engine.delivered operation outcome
      ⟨{ delivery.engine with active := none }, replyAfter outcry outcome.reply,
        outcome.announcement, delivery.notes, delivery.journal⟩ := by
  unfold guarded
  rw [rest]
  rfl

/-- An operation of an engine at rest is its transition, and leaves the engine at rest. -/
theorem guarded_of_rest {α : Type} {engine : Engine Failure} (rest : engine.active = none)
    (operation : Operation) (transition : Machine → Outcome α) :
    (engine.guarded operation transition).engine.machine = (transition engine.machine).machine ∧
      (engine.guarded operation transition).engine.active = none := by
  rw [guarded_eq rest]
  exact ⟨(engine.delivered_still operation (transition engine.machine)).machine_eq, rfl⟩

/-- Where every failure has words, the reply is that of the transition. -/
theorem guarded_reply [WellWorded Failure] {α : Type} {engine : Engine Failure}
    (rest : engine.active = none) (operation : Operation) (transition : Machine → Outcome α) :
    (engine.guarded operation transition).reply = (transition engine.machine).reply := by
  rw [guarded_eq rest]
  dsimp only
  rw [delivered_of_wellWorded, replyAfter_none]

/-- An operation that is called while another one is in progress is refused and changes nothing. -/
theorem guarded_of_busy {α : Type} {engine : Engine Failure} {active : Operation}
    (busy : engine.active = some active) (operation : Operation)
    (transition : Machine → Outcome α) :
    engine.guarded operation transition =
      ⟨engine, .error (.reentrant operation active), none, [], []⟩ := by
  simp [guarded, busy]

/-- Carries out a call from outside. -/
def perform (engine : Engine Failure) : Call → Report Reply Failure
  | .start => engine.start.map .flag
  | .complete output additions activation isAutomatic =>
    (engine.complete output additions activation isAutomatic).map .verdict
  | .goBack => engine.goBack.map .entry
  | .reset => engine.reset.map fun _ => .nothing
  | .evaluate =>
    let outcome := engine.machine.perform .evaluate
    ⟨{ engine with machine := outcome.machine }, outcome.reply, none, [], outcome.journal⟩

/-- A call asks for an evaluation, or it is one operation, of an engine as of its machine. -/
theorem perform_cases (Failure : Type) [Worded Failure] (call : Call) :
    call = .evaluate ∨ ∃ operation, call.operation? = some operation ∧
      ∃ (α : Type) (transition : Machine → Outcome α) (change : α → Reply),
        (∀ machine : Machine, machine.perform call = (transition machine).map change) ∧
        ∀ engine : Engine Failure,
          engine.perform call = (engine.guarded operation transition).map change := by
  cases call with
  | evaluate => exact .inl rfl
  | start =>
      exact .inr ⟨.start, rfl, Bool, Machine.start, .flag, fun _ => rfl, fun _ => rfl⟩
  | complete output additions activation isAutomatic =>
      exact .inr ⟨.completeStep, rfl, Verdict, fun machine =>
        machine.complete output additions activation isAutomatic, .verdict, fun _ => rfl,
        fun _ => rfl⟩
  | goBack =>
      exact .inr ⟨.goBack, rfl, Option HistoryEntry, Machine.goBack, .entry, fun _ => rfl,
        fun _ => rfl⟩
  | reset =>
      exact .inr ⟨.reset, rfl, Unit, Machine.reset, fun _ => .nothing, fun _ => rfl,
        fun _ => rfl⟩

section Rest

variable {engine : Engine Failure} (rest : engine.active = none)
include rest

/-- **A call does to the machine of an engine what the machine does by itself.** -/
theorem perform_machine (call : Call) :
    (engine.perform call).engine.machine = (engine.machine.perform call).machine := by
  rcases perform_cases Failure call with rfl | ⟨operation, -, α, transition, change, alone, guarded⟩
  · rfl
  · rw [guarded, alone]
    exact (guarded_of_rest rest operation transition).1

theorem perform_active (call : Call) : (engine.perform call).engine.active = none := by
  rcases perform_cases Failure call with rfl | ⟨operation, -, α, transition, change, -, guarded⟩
  · exact rest
  · rw [guarded]
    exact (guarded_of_rest rest operation transition).2

section WellWorded

variable [WellWorded Failure]

theorem start_reply : engine.start.reply = engine.machine.start.reply := guarded_reply rest _ _

theorem complete_reply (output : String) (additions : Record) (activation : Option Int)
    (isAutomatic : Bool) :
    (engine.complete output additions activation isAutomatic).reply =
      (engine.machine.complete output additions activation isAutomatic).reply :=
  guarded_reply rest _ _

theorem goBack_reply : engine.goBack.reply = engine.machine.goBack.reply := guarded_reply rest _ _

/-- The reply to a call is the one the machine gives by itself. -/
theorem perform_reply (call : Call) :
    (engine.perform call).reply = (engine.machine.perform call).reply := by
  rcases perform_cases Failure call with rfl | ⟨operation, -, α, transition, change, alone, guarded⟩
  · rfl
  · rw [guarded, alone]
    exact congrArg (Except.map change) (guarded_reply rest operation transition)

end WellWorded

theorem guarded_announcement {α : Type} (operation : Operation)
    (transition : Machine → Outcome α) :
    (engine.guarded operation transition).announcement =
      (transition engine.machine).announcement := by
  rw [guarded_eq rest]

/-- A call announces what the machine announces by itself. -/
theorem perform_announcement (call : Call) :
    (engine.perform call).announcement = (engine.machine.perform call).announcement := by
  rcases perform_cases Failure call with rfl | ⟨operation, -, α, transition, change, alone, guarded⟩
  · exact (Machine.perform_evaluate_announcement _).symm
  · rw [guarded, alone]
    exact guarded_announcement rest operation transition

theorem guarded_of_silent {α : Type} (operation : Operation) {transition : Machine → Outcome α}
    (silent : (transition engine.machine).announcement = none) :
    engine.guarded operation transition =
      let outcome := transition engine.machine
      ⟨{ engine with machine := outcome.machine }, outcome.reply, none, [], outcome.journal⟩ := by
  rw [guarded_eq rest]
  unfold delivered
  dsimp only
  rw [silent, ← rest]
  rfl

/-- A call that announces nothing changes the machine, and nobody is told of it. -/
theorem perform_of_silent {call : Call}
    (silent : (engine.machine.perform call).announcement = none) :
    engine.perform call =
      let outcome := engine.machine.perform call
      ⟨{ engine with machine := outcome.machine }, outcome.reply, none, [], outcome.journal⟩ := by
  rcases perform_cases Failure call with rfl | ⟨operation, -, α, transition, change, alone, guarded⟩
  · rfl
  · rw [alone] at silent
    rw [guarded, alone, guarded_of_silent rest operation silent]
    rfl

end Rest

/-! ## Runs of calls -/

/-- Carries out calls one after another. -/
def play (engine : Engine Failure) (calls : List Call) : Engine Failure :=
  calls.foldl (fun engine call => (engine.perform call).engine) engine

@[simp] theorem play_nil (engine : Engine Failure) : engine.play [] = engine := rfl

@[simp] theorem play_cons (engine : Engine Failure) (call : Call) (calls : List Call) :
    engine.play (call :: calls) = (engine.perform call).engine.play calls := rfl

/-- **A run of calls does to the machine of an engine what the machine does by itself.** -/
theorem play_machine {engine : Engine Failure} (rest : engine.active = none) (calls : List Call) :
    (engine.play calls).machine = engine.machine.play calls ∧
      (engine.play calls).active = none := by
  induction calls generalizing engine with
  | nil => exact ⟨rfl, rest⟩
  | cons call calls ih =>
      rw [play_cons, Machine.play_cons, ← perform_machine rest call]
      exact ih (perform_active rest call)

end Engine

end GuestFlow
