import GuestFlow.Proofs.Engine.Rest

/-!
# What listeners do

A listener is handed the machine and an event, and whatever it asks of the machine in the
middle of an operation has an answer that is known beforehand
(`Machine.answerDuring`).  So all that it does can be said without the delivery in which
it does it, and without the other listeners: its `Hearing` lists its deeds in their order
and the failure it ends with.

A delivery is the hearings of those who are told, one after another
(`Engine.Delivery.tellAll_eq`).  These are all who listen when the delivery begins, in
the order of their subscriptions, unless a failure without words breaks it off
(`Hearing.inTurn`); and a call of an engine is the call of its machine together with
these hearings (`Engine.perform_eq`).
-/

set_option autoImplicit false

namespace GuestFlow

/-- What a machine answers to a listener who calls it in the middle of an operation, and what that
leaves in the journal. -/
def Machine.answerDuring (machine : Machine) (active : Operation) (call : Call) :
    Except Fault Reply × Journal :=
  match call.operation? with
  | some operation => (.error (.reentrant operation active), [])
  | none => ((machine.perform call).reply, (machine.perform call).journal)

/-! ## Deeds -/

/-- One thing that a listener does. -/
inductive Deed (Failure : Type := Fault) where
  | noted (content : Value)
  | subscribed (name : String) (listener : Listener Failure)
  | unsubscribed (name : String)
  | asked (call : Call) (reply : Except Fault Reply) (journal : Journal)

variable {Failure : Type}

namespace Deed

def notes : Deed Failure → List Value
  | .noted content => [content]
  | _ => []

def journal : Deed Failure → Journal
  | .asked _ _ journal => journal
  | _ => []

end Deed

namespace Program

variable (answer : Call → Except Fault Reply × Journal)

/-- What a program does, if its calls have these answers. -/
def deeds : Program Failure → List (Deed Failure)
  | .done | .fail _ => []
  | .note content rest => .noted content :: deeds rest
  | .subscribe name identity hears rest => .subscribed name ⟨identity, hears⟩ :: deeds rest
  | .unsubscribe name rest => .unsubscribed name :: deeds rest
  | .call asked rest =>
    .asked asked (answer asked).1 (answer asked).2 :: deeds (rest (answer asked).1)

/-- What a program fails with in the end. -/
def failure? : Program Failure → Option Failure
  | .done => none
  | .fail failure => some failure
  | .note _ rest | .subscribe _ _ _ rest | .unsubscribe _ rest => failure? rest
  | .call asked rest => failure? (rest (answer asked).1)

/-- A program asks nothing that was not answered so. -/
theorem eq_answer_of_mem_deeds {program : Program Failure} {call : Call}
    {reply : Except Fault Reply} {journal : Journal}
    (asked : .asked call reply journal ∈ program.deeds answer) :
    (reply, journal) = answer call := by
  induction program with
  | done | fail => cases asked
  | note _ _ ih | unsubscribe _ _ ih =>
      rcases List.mem_cons.mp asked with now | later
      · cases now
      · exact ih later
  | subscribe _ _ _ _ _ ih =>
      rcases List.mem_cons.mp asked with now | later
      · cases now
      · exact ih later
  | call _ _ ih =>
      rcases List.mem_cons.mp asked with now | later
      · cases now
        rfl
      · exact ih _ later

end Program

/-- What a deed does to the subscriptions. -/
def Engine.mark (engine : Engine Failure) : Deed Failure → Engine Failure
  | .subscribed name listener => engine.subscribe name listener
  | .unsubscribed name => engine.unsubscribe name
  | .noted _ | .asked _ _ _ => engine

namespace Engine

/-- Deeds do not look at the operation in progress. -/
theorem mark_withActive (engine : Engine Failure) (active : Option Operation)
    (deed : Deed Failure) :
    { engine with active }.mark deed = { engine.mark deed with active } := by
  cases deed with
  | noted | asked | subscribed => rfl
  | unsubscribed name =>
      unfold mark unsubscribe
      dsimp only
      split
      · rfl
      · rfl

theorem foldl_mark_withActive (engine : Engine Failure) (active : Option Operation)
    (deeds : List (Deed Failure)) :
    deeds.foldl mark { engine with active } = { deeds.foldl mark engine with active } := by
  induction deeds generalizing engine with
  | nil => rfl
  | cons deed deeds ih => rw [List.foldl_cons, List.foldl_cons, mark_withActive, ih]

end Engine

/-! ## Hearings -/

/-- What a listener did when it was told an event. -/
structure Hearing (Failure : Type := Fault) where
  listener : Listener Failure
  event : Event
  /-- What the listener did, in order. -/
  deeds : List (Deed Failure)
  /-- What the listener failed with in the end. -/
  failure? : Option Failure

/-- What a listener does when it is told an event while an operation is in progress. -/
def Listener.hearing (listener : Listener Failure) (machine : Machine) (active : Operation)
    (event : Event) : Hearing Failure :=
  let program := listener.hears machine event
  let answer := machine.answerDuring active
  ⟨listener, event, program.deeds answer, program.failure? answer⟩

namespace Hearing

def notes (hearing : Hearing Failure) : List Value := hearing.deeds.flatMap Deed.notes

variable [Worded Failure]

/-- The fault of asking a failure for its words. -/
def outcry? (hearing : Hearing Failure) : Option Fault :=
  match hearing.failure?.map Worded.words with
  | some (.error fault) => some fault
  | _ => none

theorem of_outcry {hearing : Hearing Failure} {fault : Fault}
    (out : hearing.outcry? = some fault) :
    ∃ failure, hearing.failure? = some failure ∧ Worded.words failure = .error fault := by
  unfold outcry? at out
  cases failed : hearing.failure? with
  | none =>
      rw [failed] at out
      cases out
  | some failure =>
      rw [failed, Option.map_some] at out
      cases worded : Worded.words failure with
      | ok words => simp [worded] at out
      | error _ =>
          obtain rfl : _ = fault := by simpa [worded] using out
          exact ⟨failure, rfl, worded⟩

/-- What is put into the journal: what the answers left there, and the words of a failure. -/
def journal (hearing : Hearing Failure) : Journal :=
  hearing.deeds.flatMap Deed.journal ++
    match hearing.failure?.map Worded.words with
    | some (.ok words) => [Engine.failureRemark hearing.event words]
    | _ => []

/-- The hearings of those who are told an event: everyone in order, unless an outcry breaks off. -/
def inTurn (machine : Machine) (active : Operation) (event : Event) :
    List (Listener Failure) → List (Hearing Failure)
  | [] => []
  | listener :: others =>
    let hearing := listener.hearing machine active event
    match hearing.outcry? with
    | none => hearing :: inTurn machine active event others
    | some _ => [hearing]

variable {machine : Machine} {active : Operation} {event : Event}

/-- Those who are told come in the order of their subscriptions. -/
theorem inTurn_ordered (listeners : List (Listener Failure)) :
    (inTurn machine active event listeners).map listener <+: listeners := by
  induction listeners with
  | nil => exact List.nil_prefix
  | cons listener others ih =>
      unfold inTurn
      dsimp only
      split
      · exact List.cons_prefix_cons.mpr ⟨rfl, ih⟩
      · exact List.cons_prefix_cons.mpr ⟨rfl, List.nil_prefix⟩

/-- Everyone is told, unless an outcry breaks off. -/
theorem inTurn_of_noOutcry {listeners : List (Listener Failure)}
    (quiet : (inTurn machine active event listeners).findSome? outcry? = none) :
    (inTurn machine active event listeners).map listener = listeners := by
  induction listeners with
  | nil => rfl
  | cons listener others ih =>
      unfold inTurn at quiet ⊢
      dsimp only at quiet ⊢
      split at quiet
      · rename_i nothing
        rw [List.findSome?_cons, nothing] at quiet
        exact congrArg (List.cons listener) (ih quiet)
      · rename_i fault out
        rw [List.findSome?_cons, out] at quiet
        cases quiet

theorem eq_hearing_of_mem_inTurn {listeners : List (Listener Failure)} {hearing : Hearing Failure}
    (told : hearing ∈ inTurn machine active event listeners) :
    hearing = hearing.listener.hearing machine active event := by
  induction listeners with
  | nil => cases told
  | cons listener others ih =>
      unfold inTurn at told
      dsimp only at told
      split at told
      · rcases List.mem_cons.mp told with rfl | later
        · rfl
        · exact ih later
      · rw [List.mem_singleton.mp told]
        rfl

end Hearing

/-! ## Deliveries -/

namespace Engine

namespace Delivery

variable {machine : Machine} {active : Operation} {event : Event} {delivery : Delivery Failure}

/-- A call of a listener has its answer and changes nothing. -/
theorem call_eq (still : Still machine active delivery) (call : Call) :
    delivery.call call =
      ({ delivery with journal := delivery.journal ++ (machine.answerDuring active call).2 },
        (machine.answerDuring active call).1) := by
  obtain ⟨rfl, busy⟩ := still
  cases call with
  | evaluate =>
      unfold Delivery.call Machine.answerDuring
      dsimp only [Call.operation?]
      rw [Machine.perform_evaluate_machine]
  | start | complete | goBack | reset =>
      simp [Delivery.call, Machine.answerDuring, Call.operation?, busy]

/-- A run of a program is its deeds, one after another. -/
theorem run_eq (program : Program Failure) (still : Still machine active delivery) :
    delivery.run program =
      let deeds := program.deeds (machine.answerDuring active)
      (⟨deeds.foldl mark delivery.engine, delivery.notes ++ deeds.flatMap Deed.notes,
        delivery.journal ++ deeds.flatMap Deed.journal⟩,
        program.failure? (machine.answerDuring active)) := by
  induction program generalizing delivery with
  | done | fail => simp [run, Program.deeds, Program.failure?]
  | note content rest ih =>
      have stillThen : Still machine active
          { delivery with notes := delivery.notes ++ [content] } :=
        ⟨still.machine_eq, still.active_eq⟩
      rw [run, ih stillThen]
      simp [Program.deeds, Program.failure?, mark, Deed.notes, Deed.journal]
  | subscribe name identity hears rest _ ih =>
      have stillThen : Still machine active
          { delivery with engine := delivery.engine.subscribe name ⟨identity, hears⟩ } :=
        ⟨still.machine_eq, still.active_eq⟩
      rw [run, ih stillThen]
      simp [Program.deeds, Program.failure?, mark, Deed.notes, Deed.journal]
  | unsubscribe name rest ih =>
      have stillThen : Still machine active
          { delivery with engine := delivery.engine.unsubscribe name } :=
        ⟨(unsubscribe_machine ..).trans still.machine_eq,
          (unsubscribe_active ..).trans still.active_eq⟩
      rw [run, ih stillThen]
      simp [Program.deeds, Program.failure?, mark, Deed.notes, Deed.journal]
  | call call rest ih =>
      have stillThen := call_still still call
      rw [call_eq still] at stillThen
      rw [run, call_eq still]
      dsimp only
      rw [ih _ stillThen]
      simp [Program.deeds, Program.failure?, mark, Deed.notes, Deed.journal]

variable [Worded Failure]

/-- A delivery after what listeners did. -/
def after (delivery : Delivery Failure) (hearings : List (Hearing Failure)) : Delivery Failure :=
  ⟨(hearings.flatMap Hearing.deeds).foldl mark delivery.engine,
    delivery.notes ++ hearings.flatMap Hearing.notes,
    delivery.journal ++ hearings.flatMap Hearing.journal⟩

/-- What a listener who is told an event does is what its hearing says. -/
theorem tell_eq (still : Still machine active delivery) (listener : Listener Failure) :
    delivery.tell event listener =
      let hearing := listener.hearing machine active event
      (delivery.after [hearing], hearing.outcry?) := by
  have ran := run_eq (listener.hears machine event) still
  unfold tell
  rw [still.machine_eq, ran]
  unfold after Hearing.notes Hearing.outcry? Hearing.journal Listener.hearing
  dsimp only
  cases (listener.hears machine event).failure? (machine.answerDuring active) with
  | none => simp
  | some failure =>
      cases worded : Worded.words failure with
      | ok words => simp [worded]
      | error fault => simp [worded]

/-- **A delivery is the hearings of those who are told, one after another.** -/
theorem tellAll_eq (listeners : List (Listener Failure)) (still : Still machine active delivery) :
    delivery.tellAll event listeners =
      let hearings := Hearing.inTurn machine active event listeners
      (delivery.after hearings, hearings.findSome? Hearing.outcry?) := by
  induction listeners generalizing delivery with
  | nil => simp [tellAll, Hearing.inTurn, after]
  | cons listener others ih =>
      have told : delivery.tell event listener = _ := tell_eq still listener
      have stillThen := tell_still event still listener
      rw [told] at stillThen
      unfold tellAll Hearing.inTurn
      rw [told]
      dsimp only
      cases out : (listener.hearing machine active event).outcry? with
      | none =>
          dsimp only
          rw [ih stillThen]
          simp [after, out]
      | some fault => simp [after, out]

end Delivery

/-! ## Calls -/

variable [Worded Failure]

/-- What those do who are told what an operation announces. -/
def hearingsOf {α : Type} (engine : Engine Failure) (operation : Operation) (outcome : Outcome α) :
    List (Hearing Failure) :=
  match outcome.announcement with
  | none => []
  | some event => Hearing.inTurn outcome.machine operation event engine.subscriptions

/-- What those do who are told what a call announces. -/
def hearings (engine : Engine Failure) (call : Call) : List (Hearing Failure) :=
  match call.operation? with
  | none => []
  | some operation => engine.hearingsOf operation (engine.machine.perform call)

/-- Either nothing is announced and nobody is told, or an event is announced and told. -/
theorem hearings_cases (engine : Engine Failure) (call : Call) :
    ((engine.machine.perform call).announcement = none ∧ engine.hearings call = []) ∨
      ∃ operation event, call.operation? = some operation ∧
        (engine.machine.perform call).announcement = some event ∧
        engine.hearings call =
          Hearing.inTurn (engine.machine.perform call).machine operation event
            engine.subscriptions := by
  unfold hearings hearingsOf
  cases asked : call.operation? with
  | none =>
      cases call with
      | evaluate => exact .inl ⟨Machine.perform_evaluate_announcement _, rfl⟩
      | _ => cases asked
  | some operation =>
      cases announced : (engine.machine.perform call).announcement with
      | none => exact .inl ⟨rfl, rfl⟩
      | some event => exact .inr ⟨operation, event, rfl, rfl, rfl⟩

/-- What hearings make of an outcome. -/
def reported {α : Type} (engine : Engine Failure) (outcome : Outcome α)
    (hearings : List (Hearing Failure)) : Report α Failure :=
  ⟨(hearings.flatMap Hearing.deeds).foldl mark { engine with machine := outcome.machine },
    replyAfter (hearings.findSome? Hearing.outcry?) outcome.reply, outcome.announcement,
    hearings.flatMap Hearing.notes, outcome.journal ++ hearings.flatMap Hearing.journal⟩

theorem delivered_eq {α : Type} (engine : Engine Failure) (operation : Operation)
    (outcome : Outcome α) :
    engine.delivered operation outcome =
      let hearings := engine.hearingsOf operation outcome
      (Delivery.after ⟨{ engine with machine := outcome.machine, active := some operation }, [],
        outcome.journal⟩ hearings, hearings.findSome? Hearing.outcry?) := by
  unfold delivered hearingsOf
  dsimp only
  cases outcome.announcement with
  | none => simp [Delivery.after]
  | some event => exact Delivery.tellAll_eq engine.subscriptions ⟨rfl, rfl⟩

theorem reported_map {α β : Type} (change : α → β) (engine : Engine Failure) (outcome : Outcome α)
    (hearings : List (Hearing Failure)) :
    (engine.reported outcome hearings).map change =
      engine.reported (outcome.map change) hearings := by
  unfold Report.map reported Outcome.map
  cases hearings.findSome? Hearing.outcry? with
  | none => rfl
  | some fault => rfl

variable {engine : Engine Failure} (rest : engine.active = none)
include rest

/-- An operation of an engine at rest is its transition and the hearings of those who are told. -/
theorem guarded_eq_reported {α : Type} (operation : Operation) (transition : Machine → Outcome α) :
    engine.guarded operation transition =
      engine.reported (transition engine.machine)
        (engine.hearingsOf operation (transition engine.machine)) := by
  have settled : ∀ machine : Machine,
      ({ engine with machine, active := none } : Engine Failure) = { engine with machine } := by
    intro machine
    rw [← rest]
  rw [guarded_eq rest]
  dsimp only
  rw [delivered_eq]
  unfold reported Delivery.after
  dsimp only
  rw [← foldl_mark_withActive, settled, List.nil_append]

/-- **A call of an engine is the call of its machine and the hearings of those who are told.** -/
theorem perform_eq (call : Call) :
    engine.perform call =
      engine.reported (engine.machine.perform call) (engine.hearings call) := by
  rcases perform_cases Failure call with
    rfl | ⟨operation, asked, α, transition, change, alone, guarded⟩
  · simp [perform, hearings, reported, Call.operation?, Machine.perform_evaluate_announcement]
  · have hearings_eq : engine.hearings call =
        engine.hearingsOf operation (transition engine.machine) := by
      unfold hearings
      rw [asked, alone]
      rfl
    rw [guarded, alone, hearings_eq, guarded_eq_reported rest, reported_map]

/-- Where nobody listens, nobody is told anything. -/
theorem perform_of_nobody (nobody : engine.subscriptions = []) (call : Call) :
    engine.perform call =
      let outcome := engine.machine.perform call
      ⟨{ engine with machine := outcome.machine }, outcome.reply, outcome.announcement, [],
        outcome.journal⟩ := by
  have nothing : engine.hearings call = [] := by
    rcases engine.hearings_cases call with ⟨-, nothing⟩ | ⟨_, _, -, -, hearings_eq⟩
    · exact nothing
    · rw [hearings_eq, nobody]
      rfl
  rw [perform_eq rest, nothing]
  simp [reported]

end Engine

end GuestFlow
