import GuestFlow.Proofs.Engine.Refusal
import GuestFlow.Proofs.Graph
import GuestFlow.Proofs.Runner.Driving

/-!
# When a runner is finished

A runner hears of its workflow only by the events that the engine announces.  By these it
knows whether the workflow is over, and whoever waits for the end asks the runner.  So no
change of the status may go unannounced: not a failure on a damaged graph, and not a workflow that
was completed and is entered again (`Machine.isOver_perform`).

There is one exception.  A step whose keys have no order is undone in silence
(`Engine.UndoesInSilence`), and a runner that was finished goes on believing it.  Where data
comes under text keys, a runner is finished exactly if its workflow is over, whatever is
called and whatever happens to the graph (`finished_mirrors_status`).
-/

set_option autoImplicit false

namespace GuestFlow

/-! ## Announcements -/

/-- The call completes a step. -/
def Call.IsCompletion : Call → Prop
  | .complete .. => True
  | _ => False

namespace Machine

/-- What a step announces tells whether the run is over, unless it is undone in silence. -/
theorem Step.isOver_eq {machine after : Machine} {call : Call} {reply : Except Fault Reply}
    (step : machine.Step call after reply)
    (ordered : call = .goBack → ∀ entry earlier fault, ¬machine.UndoFails entry earlier fault) :
    after.run.isOver =
      Runner.finishedAfter machine.run.isOver (machine.announcementOf call after) := by
  cases step with
  | started | lost | broken | finished | moved | undone =>
      rw [announcementOf_keep]
      · rfl
      · exact nofun
      · rfl
  | cleared => rfl
  | undoneInSilence behind able unordered =>
      exact (ordered rfl _ _ _ ⟨behind, able, unordered⟩).elim
  | alreadyStarted | ignored | stale | undeclared | nothingBehind | stuck | evaluated =>
      rw [announcementOf_of_sequence_eq]
      · rfl
      · exact nofun
      · rfl

/-- **What a call announces tells whether the run is over**, unless a step is undone in silence. -/
theorem isOver_perform (machine : Machine) (call : Call)
    (ordered : call = .goBack → ∀ entry earlier fault, ¬machine.UndoFails entry earlier fault) :
    (machine.perform call).machine.run.isOver =
      Runner.finishedAfter machine.run.isOver (machine.perform call).announcement := by
  rw [machine.perform_announcement call]
  exact (machine.step_perform call).isOver_eq ordered

end Machine

/-- What can happen to a live runner. -/
inductive Occurrence where
  | call (call : HostCall)
  /-- An output is given another target, or none. -/
  | redirected (node output : String) (target : Option String)
  /-- The graph loses a node, which may be its entry. -/
  | lost (node : String)

namespace Runner

/-! ## Runners -/

/-- What an occurrence makes of a runner. -/
def meet (runner : Runner) : Occurrence → Runner
  | .call call => runner.perform call
  | .redirected node output target =>
    runner.withEngine (runner.engine.corrupt fun machine => machine.setTarget node output target)
  | .lost node => runner.withEngine (runner.engine.corrupt fun machine => machine.dropNode node)

/-- What occurrences, one after another, make of a runner. -/
def endure (runner : Runner) (occurrences : List Occurrence) : Runner :=
  occurrences.foldl meet runner

/-- The calls that are made of the engine meanwhile. -/
def callsEndured (runner : Runner) : List Occurrence → List Call
  | [] => []
  | .call call :: rest => runner.callsOf call ++ (runner.perform call).callsEndured rest
  | occurrence :: rest => (runner.meet occurrence).callsEndured rest

theorem callsEndured_append (runner : Runner) (occurrences more : List Occurrence) :
    runner.callsEndured (occurrences ++ more) =
      runner.callsEndured occurrences ++ (runner.endure occurrences).callsEndured more := by
  induction occurrences generalizing runner with
  | nil => rfl
  | cons occurrence rest ih =>
      have later := ih (runner.meet occurrence)
      cases occurrence with
      | call call =>
          exact (congrArg (runner.callsOf call ++ ·) later).trans (List.append_assoc ..).symm
      | redirected | lost => exact later

/-- The runner knows whether its workflow is over. -/
structure KnowsEnd (runner : Runner) : Prop extends runner.IsOrderly where
  told : runner.isFinished = runner.machine.run.isOver

variable {runner after : Runner} {calls : List Call}

/-- A call tells the runner whether the workflow is over. -/
theorem KnowsEnd.called (knows : runner.KnowsEnd) (call : Call)
    (ordered : call = .goBack → ∀ entry earlier fault,
      ¬runner.machine.UndoFails entry earlier fault) :
    (runner.absorb (runner.engine.perform call)).KnowsEnd := by
  refine ⟨((Drives.called runner call).play knows.toIsOrderly).1, ?_⟩
  have ended := runner.machine.isOver_perform call ordered
  have moved := Engine.perform_machine knows.rest call
  have announced := Engine.perform_announcement knows.rest call
  calc finishedAfter runner.isFinished (runner.engine.perform call).announcement
      = finishedAfter runner.machine.run.isOver (runner.machine.perform call).announcement := by
        rw [knows.told, announced]
        rfl
    _ = (runner.machine.perform call).machine.run.isOver := ended.symm
    _ = (runner.engine.perform call).engine.machine.run.isOver := by
        rw [moved]
        rfl

/-- What happens beside the engine tells the runner nothing. -/
theorem KnowsEnd.of_told_eq (knows : runner.KnowsEnd) (orderly : after.IsOrderly)
    (machine_eq : after.machine = runner.machine)
    (isFinished_eq : after.isFinished = runner.isFinished) : after.KnowsEnd :=
  ⟨orderly, by rw [isFinished_eq, machine_eq, knows.told]⟩

/-- A runner that does not go back knows the end, whatever its data. -/
theorem Drives.knowsEnd (drives : runner.Drives calls after) (noBack : .goBack ∉ calls)
    (knows : runner.KnowsEnd) : after.KnowsEnd := by
  have orderly := (drives.play knows.toIsOrderly).1
  induction drives with
  | aside machine_eq _ _ _ isFinished_eq => exact knows.of_told_eq orderly machine_eq isFinished_eq
  | noted => exact knows.of_told_eq orderly rfl rfl
  | called runner call =>
      refine knows.called call ?_
      rintro rfl
      exact absurd (List.mem_singleton.mpr rfl) noBack
  | followed before _ first second =>
      have apart := mt List.mem_append.mpr noBack
      have between := (before.play knows.toIsOrderly).1
      exact second (fun later => apart (.inr later)) (first (fun here => apart (.inl here)) knows
        between) orderly

/-- **Where every step touched texts, a runner knows the end**, whatever it does. -/
theorem Drives.knowsEnd_of_texts (drives : runner.Drives calls after)
    (textual : ∀ call ∈ calls, call.IsTextual) (texts : runner.machine.run.TouchesTexts)
    (knows : runner.KnowsEnd) : after.KnowsEnd ∧ after.machine.run.TouchesTexts := by
  have orderly := (drives.play knows.toIsOrderly).1
  induction drives with
  | aside machine_eq _ _ _ isFinished_eq =>
      exact ⟨knows.of_told_eq orderly machine_eq isFinished_eq, machine_eq ▸ texts⟩
  | noted => exact ⟨knows.of_told_eq orderly rfl rfl, texts⟩
  | called runner call =>
      refine ⟨knows.called call fun _ _ _ _ => Machine.not_undoFails texts, ?_⟩
      rw [show (runner.absorb (runner.engine.perform call)).machine =
        (runner.machine.perform call).machine from Engine.perform_machine knows.rest call]
      exact (runner.machine.step_perform call).touchesTexts
        (textual call (List.mem_singleton.mpr rfl)) texts
  | followed before _ first second =>
      obtain ⟨here, later⟩ := List.forall_mem_append.mp textual
      obtain ⟨knowsStill, textsStill⟩ := first here texts knows (before.play knows.toIsOrderly).1
      exact second later textsStill knowsStill orderly

/-- Whatever happens to a runner, it knows the end. -/
theorem KnowsEnd.endure (knows : runner.KnowsEnd) (texts : runner.machine.run.TouchesTexts)
    (occurrences : List Occurrence)
    (textual : ∀ call ∈ runner.callsEndured occurrences, call.IsTextual) :
    (runner.endure occurrences).KnowsEnd ∧
      (runner.endure occurrences).machine.run.TouchesTexts := by
  induction occurrences generalizing runner with
  | nil => exact ⟨knows, texts⟩
  | cons occurrence rest ih =>
      cases occurrence with
      | call call =>
          obtain ⟨here, later⟩ := List.forall_mem_append.mp textual
          obtain ⟨knowsStill, textsStill⟩ :=
            (runner.drives_perform call).knowsEnd_of_texts here texts knows
          exact ih knowsStill textsStill later
      | redirected | lost =>
          -- Damage changes nothing but the graph.
          exact ih ⟨⟨knows.rest, knows.guards_le⟩, knows.told⟩ texts textual

/-! ## Turns -/

theorem areCompletions_conditionCalls (remaining : Nat) (runner : Runner) :
    ∀ call ∈ conditionCalls remaining runner, call.IsCompletion := by
  induction remaining generalizing runner with
  | zero => exact List.forall_mem_nil _
  | succ remaining ih =>
      unfold conditionCalls
      split
      · rename_i middle prospect _
        refine List.forall_mem_cons.mpr ⟨trivial, ?_⟩
        split
        · exact ih _
        · exact List.forall_mem_nil _
      · exact List.forall_mem_nil _

theorem areCompletions_completeForCalls (runner : Runner) (activation : Int) (output : String)
    (data : Option Record) :
    ∀ call ∈ runner.completeForCalls activation output data, call.IsCompletion := by
  refine List.forall_mem_cons.mpr ⟨trivial, ?_⟩
  split
  · exact areCompletions_conditionCalls _ _
  · exact List.forall_mem_nil _

theorem areCompletions_actCalls (task : Task) (actions : List Action) (runner : Runner) :
    ∀ call ∈ actCalls task actions runner, call.IsCompletion := by
  induction actions generalizing runner with
  | nil => exact List.forall_mem_nil _
  | cons action rest ih =>
      cases action with
      | say remark => exact ih _
      | sleep | fail => exact List.forall_mem_nil _
      | complete output data isReported =>
          refine List.forall_mem_append.mpr ⟨?_, ?_⟩
          · exact areCompletions_completeForCalls runner task.activation output data
          · split
            · exact List.forall_mem_nil _
            · exact ih _

/-- All that a turn asks of the engine is to complete steps. -/
theorem areCompletions_serveCalls (runner : Runner) :
    ∀ call ∈ runner.serveCalls, call.IsCompletion := by
  unfold serveCalls
  split
  · exact List.forall_mem_nil _
  · split
    · exact List.forall_mem_nil _
    · exact List.forall_mem_nil _
    · split
      · exact List.forall_mem_nil _
      · unfold turnCalls
        split
        · exact List.forall_mem_nil _
        · exact areCompletions_actCalls _ _ _

/-- Serving keeps what a runner knows. -/
theorem KnowsEnd.serve (knows : runner.KnowsEnd) : (runner.perform .serve).KnowsEnd :=
  (runner.drives_perform .serve).knowsEnd (fun back => runner.areCompletions_serveCalls _ back) knows

/-! ## Waiting -/

/-- Whether a runner that knows the end is finished can be read off the status. -/
theorem KnowsEnd.isFinished_iff (knows : runner.KnowsEnd) :
    runner.isFinished = true ↔ runner.status = .completed ∨ runner.status = .error := by
  rw [knows.told]
  simp [Run.isOver, status]

/-- Whoever waits keeps what the runner knows. -/
theorem KnowsEnd.perform_of_isPatient (knows : runner.KnowsEnd) {call : HostCall}
    (patient : call.IsPatient) : (runner.perform call).KnowsEnd := by
  cases call with
  | serve => exact knows.serve
  | elapse deadline => exact (runner.drives_perform (.elapse deadline)).knowsEnd nofun knows
  | _ => exact patient.elim

theorem KnowsEnd.play_of_isPatient (knows : runner.KnowsEnd) {calls : List HostCall}
    (patient : ∀ call ∈ calls, call.IsPatient) : (runner.play calls).KnowsEnd := by
  induction calls generalizing runner with
  | nil => exact knows
  | cons call calls ih =>
      obtain ⟨here, later⟩ := List.forall_mem_cons.mp patient
      exact ih (knows.perform_of_isPatient here) later

/-- The clock does not matter to those who are left. -/
theorem IsForlorn.passTime {before : Runner} {deadline : Option Binary64}
    (forlorn : before.IsForlorn isFinished deadline) (moment : Binary64) :
    (before.passTime moment).IsForlorn isFinished deadline := by
  obtain ⟨missing, idle, nobody⟩ := forlorn
  unfold hasErrands at idle
  unfold nextWaking? at nobody
  unfold Runner.passTime onAgenda
  cases agenda_eq : before.agenda with
  | none =>
      rw [agenda_eq] at idle nobody
      exact ⟨missing, idle, nobody⟩
  | some agenda =>
      rw [agenda_eq] at idle nobody
      rw [Option.map_some]
      split
      · exact ⟨missing, idle, nobody⟩
      · exact ⟨missing, idle, nobody⟩

/-- Somebody has all the time, or any. -/
def HasTime (timeout : Option Binary64) : Prop :=
  ∀ seconds ∈ timeout, (Binary64.zero false).less seconds = true

/-- What somebody hears who waited for the end: the status, where the workflow is over.  Else nobody
is left who could bring the end about in time, and whoever has a timeout hears that it has passed;
or there are too many errands, and nothing is heard. -/
inductive HearsOfEnd (timeout deadline : Option Binary64) (calls : List HostCall) (after : Runner) :
    Option (Except Fault Status) → Prop where
  | ended (finished : after.isFinished = true)
      (isOver : after.status = .completed ∨ after.status = .error) :
      HearsOfEnd timeout deadline calls after (some (.ok after.status))
  | inVain (forlorn : after.IsForlorn isFinished deadline) :
      HearsOfEnd timeout deadline calls after (timeout.map fun _ => .error .timedOut)
  | restless (unfinished : after.isFinished = false) (many : patience ≤ calls.length) :
      HearsOfEnd timeout deadline calls after none

theorem HasTime.not_any {timeout : Option Binary64} (time : HasTime timeout) :
    ¬(timeout.any fun seconds => !(Binary64.zero false).less seconds) = true := by
  cases timeout with
  | none => exact nofun
  | some seconds => simp [time seconds rfl]

/-- Whoever waits for a runner that is finished hears the status at once. -/
theorem waitUntilFinished_of_isFinished (finished : runner.isFinished = true)
    {timeout : Option Binary64} (time : HasTime timeout) :
    runner.waitUntilFinished timeout = (runner, some (.ok runner.status)) := by
  unfold waitUntilFinished
  rw [if_neg time.not_any, if_pos finished]

/-- Nobody waits for ever for a runner that is finished. -/
theorem waitUntilFinished_isSome (finished : runner.isFinished = true)
    (timeout : Option Binary64) : (runner.waitUntilFinished timeout).2.isSome = true := by
  unfold waitUntilFinished
  rw [if_pos finished]
  split
  · rfl
  · rfl

/-- **Whoever waits for a runner that is not finished waits until its workflow is over**, or until
nobody is left who could end it. -/
theorem KnowsEnd.waitUntilFinished (knows : runner.KnowsEnd)
    (unfinished : runner.isFinished = false) {timeout : Option Binary64}
    (time : HasTime timeout) :
    ∃ calls, (∀ call ∈ calls, call.IsPatient) ∧
      (runner.waitUntilFinished timeout).1 = runner.play calls ∧
      HearsOfEnd timeout (timeout.bind runner.momentIn) calls
        (runner.waitUntilFinished timeout).1 (runner.waitUntilFinished timeout).2 := by
  obtain ⟨calls, patient, waited, ends⟩ :=
    waitWithin_eq_play isFinished (timeout.bind runner.momentIn) patience runner
  rw [Nat.min_self] at ends
  have knowsStill := knows.play_of_isPatient patient
  rw [← waited] at knowsStill
  refine ⟨calls, patient, ?_⟩
  unfold Runner.waitUntilFinished waitUntil
  rw [if_neg time.not_any, if_neg (by simp [unfinished])]
  generalize waitWithin isFinished (timeout.bind runner.momentIn) patience runner = result
    at waited ends knowsStill
  obtain ⟨after, ending⟩ := result
  cases ends with
  | come here => exact ⟨waited, .ended here (knowsStill.isFinished_iff.mp here)⟩
  | late timed forlorn passed =>
      dsimp only at passed waited
      refine ⟨waited, .inVain ?_⟩
      rw [passed]
      exact forlorn.passTime _
  | deserted untimed forlorn =>
      refine ⟨waited, .inVain ?_⟩
      rw [untimed]
      exact forlorn
  | restless missing many => exact ⟨waited, .restless missing many⟩

end Runner

namespace Booth

/-- A printer that reports back by itself prints for a guest, who then wants to go back.  Somebody
takes the printer away. -/
def restless : List Occurrence := [
  .call (.register "PRINT" ⟨.custom [.complete "default" none false] false, none⟩),
  .call .start,
  .call (.complete "default" (some [(.text "more", .bool false)]) none),
  .call .serve,
  .call .serve,
  .call .goBack,
  .lost "print",
  .call .goBack,
  .call (.complete "default" (some [(.text "more", .bool false)]) none)]

/-- The booth that restless guests come to. -/
def staffed : Runner := Runner.create graph Registry.usual false "opening" 50 (some .empty)

theorem restless_textual : ∀ call ∈ staffed.callsEndured restless, call.IsTextual := by
  have made : staffed.callsEndured restless = [
      .start,
      .complete "default" [(.text "more", .bool false)] (some (1 : Int)) false,
      .complete "else" [(.text "_condition_again", .bool false)] (some (2 : Int)) true,
      .complete "default" [] (some (3 : Int)) false,
      .goBack,
      .goBack,
      .goBack,
      .complete "default" [(.text "more", .bool false)] (some (7 : Int)) false,
      .complete "else" [(.text "_condition_again", .bool false)] (some (8 : Int)) true] := by
    decide +kernel
  have nothing : Record.IsTextual [] := ⟨(fun _ member => nomatch member), List.nodup_nil⟩
  simp [made, Call.IsTextual, Record.isTextual_singleton, nothing]

/-- A guest who never comes is waited for without an answer. -/
example : ((staffed.endure [.call .start]).waitUntilFinished none).2.isNone = true := by
  decide +kernel

end Booth

end GuestFlow
