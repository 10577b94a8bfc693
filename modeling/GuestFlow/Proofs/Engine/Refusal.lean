import GuestFlow.Proofs.Engine.Hearing
import GuestFlow.Proofs.Machine.Log

/-!
# Calls that are refused

A call that is refused, or that raises a fault, should leave no trace: the run, the events,
the activation and the operation in progress are what they were, and only the note of the
latest rejection may be new, after a completion through an undeclared output
(`Engine.Untouched`).

There is one exception that the machine makes.  Going back undoes the step first and then
lists the keys that the step touched in increasing order.  If these have no order, the list
fails and the step stays undone, although nobody is told (`Engine.UndoesInSilence`).  The
history entry of such a step cannot be shown either (`Machine.UndoFails.toDocument_eq`).
`Booth.mixed_keys_undone_in_silence` shows it.  Keys that are texts always have an order, so
where all data came under text keys the exception does not arise
(`Machine.Step.touchesTexts`, `Machine.not_undoFails`).

A listener makes another one, if it fails and its failure has no words: then a call that
went through is lost on the caller, who hears a fault instead of the reply
(`Engine.BreaksOut`).  Failures that always have words, as faults do, do not
(`Engine.not_breaksOut`).  `refused_calls_leave_no_trace` states that these two are the only
ones, whoever calls, whoever listens and whatever an engine is doing.
-/

set_option autoImplicit false

namespace GuestFlow

/-- The reply tells that a call was refused, or that it raised a fault. -/
def Refuses : Except Fault Reply → Prop
  | .error _ => True
  | .ok (.flag took) => took = false
  | .ok (.verdict verdict) => verdict.isAccepted = false
  | .ok (.entry entry) => entry = none
  | .ok (.decision _) | .ok .nothing => False

/-! ## Machines -/

namespace Machine

/-- A completion of the step where the machine stands, through an output that the step does not
allow. -/
structure Rejects (machine : Machine) (call : Call) (rejection : Rejection) : Prop where
  completes : ∃ output additions activation isAutomatic,
    call = .complete output additions activation isAutomatic ∧ rejection.output = output
  undeclared : ∃ node, machine.StandsAt node ∧ node.allows rejection.output = false ∧
    rejection.node = node.id ∧ rejection.declared = node.outputIds

/-- The latest step can be undone, but the keys it touched have no order. -/
structure UndoFails (machine : Machine) (entry : HistoryEntry) (earlier : List HistoryEntry)
    (fault : Fault) : Prop where
  behind : machine.run.history = entry :: earlier
  able : machine.run.canGoBack = true
  unordered : sortWith Value.isBelow entry.touched.keys = .error fault

/-- A step that fails to be undone aloud fails to be shown in the same way. -/
theorem UndoFails.toDocument_eq {machine : Machine} {entry : HistoryEntry}
    {earlier : List HistoryEntry} {fault : Fault} (fails : machine.UndoFails entry earlier fault) :
    entry.toDocument = .error fault := by
  unfold HistoryEntry.toDocument
  rw [fails.unordered]
  rfl

/-- **A refused call changes nothing**, or it notes a rejection, or it undoes a step whose keys have
no order. -/
theorem Step.of_refuses {machine after : Machine} {call : Call} {reply : Except Fault Reply}
    (step : machine.Step call after reply) (refused : Refuses reply) :
    after = machine ∨
      (∃ rejection, machine.Rejects call rejection ∧
        after = { machine with lastRejection := some rejection }) ∨
      (call = .goBack ∧ ∃ entry earlier fault, machine.UndoFails entry earlier fault ∧
        reply = .error fault ∧ after = machine.enter (machine.run.undo entry earlier)) := by
  cases step with
  | started => cases refused
  | lost | broken | finished | moved => cases refused
  | undone => cases refused
  | cleared => exact refused.elim
  | alreadyStarted | ignored | stale | nothingBehind | stuck | evaluated => exact .inl rfl
  | @undeclared output additions activation isAutomatic node stands timely unknown =>
      refine .inr (.inl ⟨⟨node.id, output, node.outputIds⟩, ⟨?_, ?_⟩, rfl⟩)
      · exact ⟨output, additions, activation, isAutomatic, rfl, rfl⟩
      · exact ⟨node, stands, unknown, rfl, rfl⟩
  | @undoneInSilence entry earlier fault behind able unordered =>
      exact .inr (.inr ⟨rfl, entry, earlier, fault, ⟨behind, able, unordered⟩, rfl, rfl⟩)

/-- A completion raises a fault only where a strict machine rejects it. -/
theorem Step.rejects_of_fault {machine after : Machine} {output : String} {additions : Record}
    {activation : Option Int} {isAutomatic : Bool} {fault : Fault}
    (step : machine.Step (.complete output additions activation isAutomatic) after
      (.error fault)) :
    machine.strict = true ∧ ∃ rejection,
      machine.Rejects (.complete output additions activation isAutomatic) rejection ∧
        fault = rejection.fault ∧ after = { machine with lastRejection := some rejection } := by
  generalize reached : (Except.error fault : Except Fault Reply) = reply at step
  cases step with
  | ignored | stale | lost | broken | finished | moved => cases reached
  | @undeclared _ _ _ _ node stands timely unknown =>
      split at reached
      · rename_i strict
        cases reached
        exact ⟨strict, ⟨node.id, output, node.outputIds⟩,
          ⟨⟨output, additions, activation, isAutomatic, rfl, rfl⟩,
            ⟨node, stands, unknown, rfl, rfl⟩⟩, rfl, rfl⟩
      · cases reached

/-- Going back raises a fault only over keys that have no order. -/
theorem Step.undoFails_of_fault {machine after : Machine} {fault : Fault}
    (step : machine.Step .goBack after (.error fault)) :
    ∃ entry earlier, machine.UndoFails entry earlier fault := by
  cases step with
  | undoneInSilence behind able unordered => exact ⟨_, _, behind, able, unordered⟩

/-- Starting raises no fault. -/
theorem Step.start_ne_fault {machine after : Machine} {fault : Fault} :
    ¬machine.Step .start after (.error fault) := by
  intro step
  cases step

end Machine

/-! ## Steps that touched texts -/

/-- Every step of the history touched texts only. -/
def Run.TouchesTexts (run : Run) : Prop := ∀ entry ∈ run.history, entry.TouchesTexts

/-- A step forward with data under text keys touches texts. -/
theorem Run.TouchesTexts.record {run : Run} (texts : run.TouchesTexts) {additions : Record}
    (textual : additions.IsTextual) (node output : String) (isAutomatic : Bool) :
    (run.record node output additions isAutomatic).TouchesTexts := by
  intro entry member
  rcases List.mem_cons.mp member with rfl | old
  · intro key touched
    rw [Touched.keys_of] at touched
    exact textual.keysAreTexts key touched
  · exact texts entry old

namespace Machine

/-- **Calls with data under text keys keep a history of steps that touched texts.** -/
theorem Step.touchesTexts {machine after : Machine} {call : Call} {reply : Except Fault Reply}
    (step : machine.Step call after reply) (textual : call.IsTextual)
    (texts : machine.run.TouchesTexts) : after.run.TouchesTexts := by
  cases step with
  | started | cleared => exact fun _ member => nomatch member
  | broken | finished | moved => exact texts.record textual _ _ _
  | undone behind | undoneInSilence behind =>
      intro entry member
      exact texts entry (behind ▸ List.mem_cons_of_mem _ member)
  | alreadyStarted | ignored | stale | undeclared | lost | nothingBehind | stuck | evaluated =>
      exact texts

theorem touchesTexts_play {machine : Machine} (texts : machine.run.TouchesTexts)
    (calls : List Call) (textual : ∀ call ∈ calls, call.IsTextual) :
    (machine.play calls).run.TouchesTexts :=
  @play_keeps (fun other => other.run.TouchesTexts) Call.IsTextual
    (fun permitted step texts => step.touchesTexts permitted texts) calls textual machine texts

/-- Texts have an order, so a step that touched texts can be listed. -/
theorem not_undoFails {machine : Machine} (texts : machine.run.TouchesTexts)
    {entry : HistoryEntry} {earlier : List HistoryEntry} {fault : Fault} :
    ¬machine.UndoFails entry earlier fault := by
  intro fails
  have latest : entry ∈ machine.run.history := fails.behind ▸ List.mem_cons_self ..
  obtain ⟨restored, ordered⟩ := sortWith_texts (texts entry latest)
  rw [fails.unordered] at ordered
  cases ordered

/-! ## Nothing is announced -/

/-- A refused call keeps no event. -/
theorem Step.announcementOf_of_refuses {machine after : Machine} {call : Call}
    {reply : Except Fault Reply} (step : machine.Step call after reply) (refused : Refuses reply) :
    machine.announcementOf call after = none := by
  cases step with
  | started | lost | broken | finished | moved | undone => cases refused
  | cleared => exact refused.elim
  | alreadyStarted | ignored | stale | undeclared | nothingBehind | stuck | undoneInSilence
  | evaluated => exact announcementOf_of_sequence_eq nofun rfl

/-- A refused call announces nothing. -/
theorem announcement_of_refuses {machine : Machine} {call : Call}
    (refused : Refuses (machine.perform call).reply) :
    (machine.perform call).announcement = none := by
  rw [machine.perform_announcement call]
  exact (machine.step_perform call).announcementOf_of_refuses refused

end Machine

/-! ## Engines -/

namespace Engine

variable {Failure : Type}

/-- The engine is what it was, but for the note of a rejection that its machine met. -/
inductive Untouched (engine : Engine Failure) (call : Call) (after : Engine Failure) : Prop where
  | unchanged (same : after = engine)
  | noted {rejection : Rejection} (rest : engine.active = none)
      (rejects : engine.machine.Rejects call rejection)
      (noted : after =
        { engine with machine := { engine.machine with lastRejection := some rejection } })

/-- The call goes back and raises a fault, because the keys of the latest step have no order; that
step is undone all the same, at a new activation, and everything else is what it was. -/
structure UndoesInSilence (engine : Engine Failure) (call : Call)
    (report : Report Reply Failure) : Prop where
  called : call = .goBack
  rest : engine.active = none
  undone : ∃ entry earlier fault, engine.machine.UndoFails entry earlier fault ∧
    report.reply = .error fault ∧
    report.engine =
      { engine with machine := engine.machine.enter (engine.machine.run.undo entry earlier) }

/-- The call went through, but one of those who were told of it failed and has no words for it. -/
structure BreaksOut [Worded Failure] (engine : Engine Failure) (call : Call)
    (report : Report Reply Failure) : Prop where
  rest : engine.active = none
  wordless : ∃ hearing ∈ engine.hearings call, ∃ failure fault,
    hearing.failure? = some failure ∧ Worded.words failure = .error fault ∧
      report.reply = .error fault
  machine_eq : report.engine.machine = (engine.machine.perform call).machine

/-- Nobody breaks out where every failure has words. -/
theorem not_breaksOut [Worded Failure] [WellWorded Failure] {engine : Engine Failure} {call : Call}
    {report : Report Reply Failure} : ¬engine.BreaksOut call report := by
  intro breaks
  obtain ⟨-, -, failure, fault, -, wordless, -⟩ := breaks.wordless
  exact WellWorded.words_ne_error failure fault wordless

/-- A call of a busy engine changes nothing. -/
theorem perform_of_busy [Worded Failure] {engine : Engine Failure} {active : Operation}
    (busy : engine.active = some active) (call : Call) :
    (engine.perform call).engine = engine := by
  rcases perform_cases Failure call with rfl | ⟨operation, -, α, transition, change, -, guarded⟩
  · unfold perform
    dsimp only
    rw [Machine.perform_evaluate_machine]
  · rw [guarded, guarded_of_busy busy]
    rfl

variable [Worded Failure] {engine : Engine Failure} (rest : engine.active = none)
include rest

/-- The reply to a call is the one the machine gives by itself, unless somebody breaks out. -/
theorem perform_reply_or_breaksOut (call : Call) :
    (engine.perform call).reply = (engine.machine.perform call).reply ∨
      engine.BreaksOut call (engine.perform call) := by
  have reply_eq : (engine.perform call).reply = replyAfter
      ((engine.hearings call).findSome? Hearing.outcry?) (engine.machine.perform call).reply := by
    rw [perform_eq rest call]
    rfl
  cases out : (engine.hearings call).findSome? Hearing.outcry? with
  | none =>
      left
      rw [reply_eq, out, replyAfter_none]
  | some fault =>
      right
      obtain ⟨hearing, told, outcry⟩ := List.exists_of_findSome?_eq_some out
      obtain ⟨failure, failed, wordless⟩ := Hearing.of_outcry outcry
      refine ⟨rest, ⟨hearing, told, failure, fault, failed, wordless, ?_⟩, perform_machine rest call⟩
      rw [reply_eq, out, replyAfter_some]

/-- A call that the machine refuses changes the machine of an engine at rest and nothing else. -/
theorem perform_of_refuses {call : Call} (refused : Refuses (engine.machine.perform call).reply) :
    (engine.perform call).engine =
      { engine with machine := (engine.machine.perform call).machine } := by
  rw [perform_of_silent rest (Machine.announcement_of_refuses refused)]

end Engine

/-- **A call that is refused, or that raises a fault, leaves no trace**, unless it goes back over a
step whose keys have no order, or it went through and a listener then failed without having words
for it.  The engine may have any listeners, whatever they fail with, and may be in the middle of an
operation. -/
theorem refused_calls_leave_no_trace {Failure : Type} [Worded Failure] (engine : Engine Failure)
    (call : Call) (refused : Refuses (engine.perform call).reply) :
    engine.Untouched call (engine.perform call).engine ∨
      engine.UndoesInSilence call (engine.perform call) ∨
      engine.BreaksOut call (engine.perform call) := by
  cases rest : engine.active with
  | some active => exact .inl (.unchanged (Engine.perform_of_busy rest call))
  | none =>
      rcases Engine.perform_reply_or_breaksOut rest call with reply_eq | breaks
      · rw [reply_eq] at refused
        have changed := Engine.perform_of_refuses rest refused
        have step := engine.machine.step_perform call
        rcases step.of_refuses refused with
          same | ⟨rejection, rejects, noted⟩ | ⟨back, entry, earlier, fault, fails, told, undone⟩
        · rw [same] at changed
          exact .inl (.unchanged changed)
        · rw [noted] at changed
          exact .inl (.noted rest rejects changed)
        · rw [undone] at changed
          exact .inr (.inl ⟨back, rest, entry, earlier, fault, fails, reply_eq.trans told, changed⟩)
      · exact .inr (.inr breaks)

namespace Booth

/-- The strict booth in the middle of the visit. -/
def halfway : Engine := (Engine.create (.create graph true)).play (visit.take 7)

/-- Nobody leaves the print sideways, and trying it leaves no trace. -/
theorem sideways_leaves_no_trace :
    let call := Call.complete "sideways" [(.text "note", .null)] (some 1) false
    halfway.machine.run.current = some "print" ∧ Refuses (halfway.perform call).reply ∧
      halfway.Untouched call (halfway.perform call).engine := by
  refine ⟨rfl, rfl, ?_⟩
  have traceless := refused_calls_leave_no_trace halfway
    (.complete "sideways" [(.text "note", .null)] (some 1) false) rfl
  rcases traceless with untouched | silence | breaks
  · exact untouched
  · cases silence.called
  · exact (Engine.not_breaksOut breaks).elim

/-- A guest who leaves an entry without a name beside one with a name. -/
def mixed : List Call :=
  [.start, .complete "default" [(.null, .int 1), (.text "Album", .int 2)] none false]

/-- Going back raises a fault, because the two keys have no order, but the guest stands at the first
step again, at a new activation, with nothing left of what was collected and nothing announced. -/
theorem mixed_keys_undone_in_silence :
    let engine := (Engine.create (.create graph true)).play mixed
    let report := engine.perform .goBack
    report.reply = .error (.incomparable "str" "NoneType") ∧
      engine.machine.run.current = some "again" ∧
      engine.machine.run.history.map HistoryEntry.toDocument =
        [.error (.incomparable "str" "NoneType")] ∧
      report.engine.machine.run.current = some "touch" ∧
      report.engine.machine.run.history = [] ∧ report.engine.machine.run.data = [] ∧
      report.engine.machine.activation = engine.machine.activation + 1 ∧
      report.engine.machine.events = engine.machine.events :=
  ⟨rfl, rfl, rfl, rfl, rfl, rfl, rfl, rfl⟩

end Booth

end GuestFlow
