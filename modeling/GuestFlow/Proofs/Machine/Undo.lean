import GuestFlow.Proofs.Machine.Walk
import GuestFlow.Proofs.Record
import GuestFlow.Proofs.Sorting

/-!
# Going back

An undone step never happened.  Beside an engine one can keep a stack of the completions
it accepted: an accepted completion is put on it, and going back takes one off
(`Engine.standing`).  The run is then the one that a fresh engine has after it was
started and only the completions left on the stack were carried out
(`undone_is_as_if_never_done`).

The invariant is `Retraces`: the stack, step by step, leads from the entry to the run.
It holds because a history entry is the exact inverse of the step it records
(`Run.undo_pass`): each key that the step touched is put back to what it was before.
-/

set_option autoImplicit false

namespace GuestFlow

/-! ## Passages -/

/-- A completion that was accepted, without the activation it was issued for. -/
structure Passage where
  output : String
  additions : Record
  isAutomatic : Bool

namespace Passage

/-- The completion of whatever step is current. -/
def call (passage : Passage) : Call :=
  .complete passage.output passage.additions none passage.isAutomatic

/-- What is left of a stack of passages, the latest first, after a call and its reply. -/
def standing (stack : List Passage) : Call → Except Fault Reply → List Passage
  | .complete output additions _ isAutomatic, .ok (.verdict .accepted) =>
    ⟨output, additions, isAutomatic⟩ :: stack
  | .goBack, .ok (.entry (some _)) => stack.tail
  | _, _ => stack

end Passage

/-- The passages left standing on a stack after calls. -/
def Machine.standing (machine : Machine) (stack : List Passage) : List Call → List Passage
  | [] => stack
  | call :: calls =>
    let outcome := machine.perform call
    outcome.machine.standing (Passage.standing stack call outcome.reply) calls

/-- The passages left standing on a stack after calls of an engine. -/
def Engine.standing (engine : Engine) (stack : List Passage) : List Call → List Passage
  | [] => stack
  | call :: calls =>
    let report := engine.perform call
    report.engine.standing (Passage.standing stack call report.reply) calls

/-- An engine at rest leaves the passages standing that its machine does. -/
theorem Engine.standing_eq {engine : Engine} (rest : engine.active = none) (stack : List Passage)
    (calls : List Call) : engine.standing stack calls = engine.machine.standing stack calls := by
  induction calls generalizing engine stack with
  | nil => rfl
  | cons call calls ih =>
      dsimp only [Engine.standing, Machine.standing]
      rw [ih (perform_active rest call), perform_machine rest, perform_reply rest]

/-- A call adds data under text keys, if it adds any. -/
def Call.IsTextual : Call → Prop
  | .complete _ additions _ _ => additions.IsTextual
  | _ => True

/-! ## One step forward and back -/

/-- The run after a passage out of a node of a sound graph. -/
def Run.pass (graph : Graph) (run : Run) (node : Node) (passage : Passage) : Run :=
  let recorded := run.record node.id passage.output passage.additions passage.isAutomatic
  match graph.next node.id passage.output with
  | .ok (some next) => recorded.moveTo next.id
  | _ => recorded.complete

namespace Run

variable {graph : Graph} {run : Run} {node : Node}

/-- Only these fields change when a node is left. -/
theorem pass_cases (graph : Graph) (run : Run) (node : Node) (passage : Passage) :
    let recorded := run.record node.id passage.output passage.additions passage.isAutomatic
    (∃ next : Node, run.pass graph node passage = recorded.moveTo next.id) ∨
      run.pass graph node passage = recorded.complete := by
  unfold pass
  dsimp only
  split
  · rename_i next _
    exact .inl ⟨next, rfl⟩
  · exact .inr rfl

theorem history_pass (passage : Passage) :
    (run.pass graph node passage).history =
      ⟨node.id, passage.output, Touched.of run.data passage.additions, passage.isAutomatic⟩ ::
        run.history := by
  rcases pass_cases graph run node passage with ⟨next, passed⟩ | passed
  · rw [passed]
    rfl
  · rw [passed]
    rfl

/-- **Undoing a passage gives back the run**, if it stood at the node. -/
theorem undo_pass {passage : Passage} (mapping : passage.additions.IsMapping)
    (running : run.status = .running) (here : run.current = some node.id)
    (unfinished : run.hasFinished = false) :
    (run.pass graph node passage).undo
      ⟨node.id, passage.output, Touched.of run.data passage.additions, passage.isAutomatic⟩
      run.history = run := by
  have restored := Touched.restore_update mapping run.data
  rcases pass_cases graph run node passage with ⟨next, passed⟩ | passed
  · rw [passed]
    simp only [undo, record, moveTo, restored, ← running, ← here, ← unfinished]
  · rw [passed]
    simp only [undo, record, complete, restored, ← running, ← here, ← unfinished]

end Run

/-! ## The invariant -/

/-- `Retraces graph stack run`: the passages, the latest first, lead from the entry of the graph to
the run. -/
inductive Retraces (graph : Graph) : List Passage → Run → Prop where
  | entered : Retraces graph [] (.entering graph.entryId)
  | passed {stack : List Passage} {run : Run} {node : Node} {passage : Passage}
      (behind : Retraces graph stack run) (running : run.status = .running)
      (here : run.current = some node.id) (found : graph.node? node.id = some node)
      (allowed : node.allows passage.output = true) (textual : passage.additions.IsTextual) :
      Retraces graph (passage :: stack) (run.pass graph node passage)

namespace Retraces

variable {graph : Graph} {stack : List Passage} {run : Run}

theorem length_eq (retraces : Retraces graph stack run) : stack.length = run.history.length := by
  induction retraces with
  | entered => rfl
  | passed _ _ _ _ _ _ ih => rw [Run.history_pass, List.length_cons, List.length_cons, ih]

/-- A retraced run is under way, with no end noted, or completed. -/
theorem status (retraces : Retraces graph stack run) :
    (run.status = .running ∧ run.hasFinished = false) ∨ run.status = .completed := by
  induction retraces with
  | entered => exact .inl ⟨rfl, rfl⟩
  | @passed stack run node passage _ running _ _ _ _ ih =>
      rcases Run.pass_cases graph run node passage with ⟨next, passed⟩ | passed
      · rw [passed]
        rcases ih with before | completed
        · exact .inl before
        · rw [running] at completed
          cases completed
      · rw [passed]
        exact .inr rfl

/-- A retraced run under way stands at a node that is there, on a sound graph. -/
theorem stands (retraces : Retraces graph stack run) (sound : graph.IsSound)
    (running : run.status = .running) :
    ∃ node, run.current = some node.id ∧ graph.node? node.id = some node := by
  cases retraces with
  | entered =>
      obtain ⟨node, found⟩ := Option.isSome_iff_exists.mp sound.entryFound
      have same := Graph.id_of_node? found
      rw [← same] at found
      exact ⟨node, congrArg some same.symm, found⟩
  | @passed stack before node passage _ _ _ found _ _ =>
      obtain ⟨behind, followed⟩ :=
        sound.next_ok (Option.isSome_iff_exists.mpr ⟨node, found⟩) passage.output
      unfold Run.pass at running ⊢
      rw [followed] at running ⊢
      cases behind with
      | none => cases running
      | some next => exact ⟨next, rfl, (Graph.exit?_of_next_some found followed).2⟩

/-- The run before the latest passage is what undoing its history entry gives, and the keys of the
entry are texts. -/
theorem undo {entry : HistoryEntry} {earlier : List HistoryEntry}
    (retraces : Retraces graph stack run) (behind : run.history = entry :: earlier) :
    Retraces graph stack.tail (run.undo entry earlier) ∧
      ∀ key ∈ entry.touched.keys, ∃ name : String, key = .text name := by
  cases retraces with
  | entered => cases behind
  | @passed stack before node passage retraced running here _ _ textual =>
      rw [Run.history_pass, List.cons.injEq] at behind
      obtain ⟨rfl, rfl⟩ := behind
      have unfinished : before.hasFinished = false := by
        rcases retraced.status with under | completed
        · exact under.2
        · rw [running] at completed
          cases completed
      refine ⟨?_, ?_⟩
      · rw [Run.undo_pass textual.isMapping running here unfinished]
        exact retraced
      · rw [Touched.keys_of]
        exact textual.keysAreTexts

/-- A stack retraces one run only. -/
theorem unique {other : Run} (retraces : Retraces graph stack run)
    (again : Retraces graph stack other) : run = other := by
  induction retraces generalizing other with
  | entered =>
      cases again
      rfl
  | passed _ _ here found _ _ ih =>
      cases again with
      | passed behind _ place there _ _ =>
          have same := ih behind
          subst same
          rw [here, Option.some.injEq] at place
          rw [place, there, Option.some.injEq] at found
          rw [found]

/-- A retraced run that has left a node can go back. -/
theorem canGoBack {entry : HistoryEntry} {earlier : List HistoryEntry}
    (retraces : Retraces graph stack run) (behind : run.history = entry :: earlier) :
    run.canGoBack = true := by
  rcases retraces.status with ⟨running, _⟩ | completed
  · simp [Run.canGoBack, behind, running]
  · simp [Run.canGoBack, behind, completed]

end Retraces

namespace Machine

/-- Leaving a node of a sound graph is a passage, and is accepted. -/
theorem StandsAt.leave {machine : Machine} (sound : machine.graph.IsSound) {node : Node}
    (stands : machine.StandsAt node) (passage : Passage) :
    let outcome := machine.leave node passage.output passage.additions passage.isAutomatic
    outcome.machine.run = machine.run.pass machine.graph node passage ∧
      outcome.machine.graph = machine.graph ∧ outcome.reply = .ok .accepted := by
  obtain ⟨behind, followed⟩ :=
    sound.next_ok (Option.isSome_iff_exists.mpr ⟨node, stands.found⟩) passage.output
  unfold Machine.leave Run.pass
  dsimp only
  rw [followed]
  cases behind with
  | none => exact ⟨rfl, rfl, rfl⟩
  | some next => exact ⟨rfl, rfl, rfl⟩

/-- **Every call but a reset keeps the stack in step with the run.** -/
theorem Step.retraces {machine after : Machine} {call : Call} {reply : Except Fault Reply}
    (sound : machine.graph.IsSound) (step : machine.Step call after reply)
    (noReset : call ≠ .reset) (textual : call.IsTextual) {stack : List Passage}
    (retraces : Retraces machine.graph stack machine.run) :
    Retraces machine.graph (Passage.standing stack call reply) after.run := by
  cases step with
  | started idle =>
      rcases retraces.status with ⟨running, _⟩ | completed
      · rw [running] at idle
        cases idle
      · rw [completed] at idle
        cases idle
  | undeclared =>
      dsimp only
      split
      · exact retraces
      · exact retraces
  | lost running here _ missing =>
      obtain ⟨node, place, found⟩ := retraces.stands sound running
      rw [here, Option.some.injEq] at place
      rw [place, found] at missing
      cases missing
  | broken stands _ _ dangles => exact absurd dangles (sound.next_ne_error stands.found)
  | @finished output additions _ isAutomatic node stands _ allowed ends =>
      have passed := @Retraces.passed machine.graph stack machine.run node
        ⟨output, additions, isAutomatic⟩ retraces stands.running stands.current stands.found allowed
        textual
      simp only [Run.pass, ends] at passed
      exact passed
  | @moved output additions _ isAutomatic node next stands _ allowed leads =>
      have passed := @Retraces.passed machine.graph stack machine.run node
        ⟨output, additions, isAutomatic⟩ retraces stands.running stands.current stands.found allowed
        textual
      simp only [Run.pass, leads] at passed
      exact passed
  | undone behind => exact (retraces.undo behind).1
  | undoneInSilence behind _ unordered =>
      obtain ⟨restored, ordered⟩ := sortWith_texts (retraces.undo behind).2
      rw [ordered] at unordered
      cases unordered
  | cleared => exact absurd rfl noReset
  | alreadyStarted | ignored | stale | nothingBehind | stuck | evaluated => exact retraces

/-- Along calls without a reset the stack stays in step with the run. -/
theorem retraces_play {machine : Machine} (sound : machine.graph.IsSound) {stack : List Passage}
    (retraces : Retraces machine.graph stack machine.run) (calls : List Call)
    (noReset : Call.reset ∉ calls) (textual : ∀ call ∈ calls, call.IsTextual) :
    Retraces machine.graph (machine.standing stack calls) (machine.play calls).run ∧
      (machine.play calls).graph = machine.graph := by
  induction calls generalizing machine stack with
  | nil => exact ⟨retraces, rfl⟩
  | cons call calls ih =>
      have step := machine.step_perform call
      have notThis : call ≠ .reset := fun same => noReset (same ▸ List.mem_cons_self ..)
      have kept := step.retraces sound notThis (textual call (List.mem_cons_self ..)) retraces
      have same := step.graph_eq
      rw [← same] at sound kept ⊢
      exact ih sound kept (fun member => noReset (List.mem_cons_of_mem _ member))
        (fun other member => textual other (List.mem_cons_of_mem _ member))

/-! ## Carrying out what is left on the stack -/

theorem standing_append (machine : Machine) (stack : List Passage) (calls more : List Call) :
    machine.standing stack (calls ++ more) =
      (machine.play calls).standing (machine.standing stack calls) more := by
  induction calls generalizing machine stack with
  | nil => rfl
  | cons call calls ih => exact ih _ _

/-- **A machine that entered the graph and carries out the passages of a stack has the run that the
stack retraces**, and every one of them is accepted. -/
theorem play_passages {graph : Graph} (sound : graph.IsSound) {stack : List Passage} {run : Run}
    (retraces : Retraces graph stack run) {machine : Machine} (same : machine.graph = graph)
    (entered : machine.run = .entering graph.entryId) :
    let calls := stack.reverse.map Passage.call
    (machine.play calls).run = run ∧ (machine.play calls).graph = graph ∧
      machine.standing [] calls = stack := by
  induction retraces with
  | entered => exact ⟨entered, same, rfl⟩
  | @passed stack run node passage _ running here found allowed _ ih =>
      obtain ⟨reached, kept, stood⟩ := ih
      dsimp only
      rw [List.reverse_cons, List.map_append, play_append, standing_append, stood]
      generalize machine.play (stack.reverse.map Passage.call) = middle at reached kept
      subst reached
      subst kept
      have stands : middle.StandsAt node := ⟨running, here, found⟩
      have left := @StandsAt.complete_eq_leave middle node stands passage.output none rfl allowed
        passage.additions passage.isAutomatic
      obtain ⟨moved, graphKept, accepted⟩ := stands.leave sound passage
      have performed : middle.perform passage.call =
          { middle.leave node passage.output passage.additions passage.isAutomatic with
            reply := .ok (.verdict .accepted) } := by
        simp only [perform, Passage.call, left, accepted, Except.map]
      simp only [List.map_cons, List.map_nil, play_cons, play_nil, standing, performed]
      exact ⟨moved, graphKept, rfl⟩

/-- Going back from a retraced run takes one passage off the stack. -/
theorem goBack_of_retraces {machine : Machine} {passage : Passage} {stack : List Passage}
    (retraces : Retraces machine.graph (passage :: stack) machine.run) :
    (∃ entry, machine.goBack.reply = .ok (some entry)) ∧
      Retraces machine.graph stack machine.goBack.machine.run := by
  have taken := retraces.length_eq
  cases behind : machine.run.history with
  | nil =>
      rw [behind] at taken
      cases taken
  | cons entry earlier =>
      obtain ⟨before, texts⟩ := retraces.undo behind
      obtain ⟨restored, ordered⟩ := sortWith_texts texts
      obtain ⟨replied, undone⟩ := goBack_of_ordered behind (retraces.canGoBack behind) ordered
      exact ⟨⟨entry, replied⟩, undone ▸ before⟩

/-- An accepted completion is undone by going back. -/
theorem goBack_of_accepted {machine : Machine} (sound : machine.graph.IsSound)
    {stack : List Passage} (retraces : Retraces machine.graph stack machine.run) {output : String}
    {additions : Record} {activation : Option Int} {isAutomatic : Bool}
    (textual : additions.IsTextual)
    (agreed : (machine.complete output additions activation isAutomatic).reply = .ok .accepted) :
    let after := (machine.complete output additions activation isAutomatic).machine
    (∃ entry, after.goBack.reply = .ok (some entry)) ∧ after.goBack.machine.run = machine.run := by
  have step := machine.step_complete output additions activation isAutomatic
  rw [agreed] at step
  have onTop := step.retraces sound (by simp) textual retraces
  rw [← step.graph_eq] at onTop
  obtain ⟨answered, before⟩ := goBack_of_retraces onTop
  rw [step.graph_eq] at before
  exact ⟨answered, before.unique retraces⟩

end Machine

/-! ## Every run of an engine -/

/-- An engine that was started is at rest and has entered its graph. -/
theorem Engine.entered_of_start {engine : Engine} (started : engine.start.reply = .ok true) :
    engine.start.engine.active = none ∧
      engine.start.engine.machine.graph = engine.machine.graph ∧
      engine.start.engine.machine.run = .entering engine.machine.graph.entryId := by
  cases active : engine.active with
  | some operation =>
      rw [Engine.start, guarded_of_busy active] at started
      cases started
  | none =>
      obtain ⟨moved, rested⟩ := guarded_of_rest active .start Machine.start
      have replied := guarded_reply active .start Machine.start
      rw [Engine.start] at started ⊢
      rw [moved, rested]
      rw [replied] at started
      unfold Machine.start at started ⊢
      split
      · exact ⟨rfl, rfl, rfl⟩
      · rename_i busy
        rw [if_neg busy] at started
        cases started

/-- **What was undone is as if it had never been done.**  After an engine was started and any calls
but a reset were made, the run is the one of a fresh engine that carried out only the completions
left standing, each of which it accepts; there are as many of them as history entries.  In
particular, an accepted completion followed by going back leaves the run as it was. -/
theorem undone_is_as_if_never_done {definition : Definition} {graph : Graph}
    (accepted : Graph.ofDefinition definition = .ok graph) {engine : Engine}
    (same : engine.machine.graph = graph) (started : engine.start.reply = .ok true)
    (calls : List Call) (noReset : Call.reset ∉ calls) (textual : ∀ call ∈ calls, call.IsTextual)
    (strict : Bool) :
    let final := engine.start.engine.play calls
    let standing := engine.start.engine.standing [] calls
    let fresh := Engine.create (.create graph strict)
    let again := Call.start :: standing.reverse.map Passage.call
    (fresh.play again).machine.run = final.machine.run ∧
      fresh.standing [] again = standing ∧
      standing.length = final.machine.run.history.length ∧
      ∀ output additions activation isAutomatic, additions.IsTextual →
        let completed := final.complete output additions activation isAutomatic
        completed.reply = .ok .accepted →
          (∃ entry, completed.engine.goBack.reply = .ok (some entry)) ∧
            completed.engine.goBack.engine.machine.run = final.machine.run := by
  subst same
  have sound := Graph.isSound_of_ofDefinition accepted
  obtain ⟨rest, kept, entered⟩ := Engine.entered_of_start started
  generalize engine.machine.graph = graph at sound kept entered
  generalize engine.start.engine = begun at rest kept entered
  subst kept
  dsimp only
  have retraced : Retraces begun.machine.graph [] begun.machine.run := entered ▸ .entered
  obtain ⟨along, graphKept⟩ := Machine.retraces_play sound retraced calls noReset textual
  obtain ⟨played, still⟩ := Engine.play_machine rest calls
  rw [Engine.standing_eq rest, Engine.standing_eq rfl, (Engine.play_machine rfl _).1]
  rw [← played] at along graphKept
  generalize begun.play calls = final at along graphKept still
  generalize begun.machine.standing [] calls = stack at along
  obtain ⟨reached, -, stood⟩ := @Machine.play_passages _ sound _ _ along
    ((Machine.create begun.machine.graph strict).perform .start).machine rfl rfl
  refine ⟨reached, stood, along.length_eq, ?_⟩
  intro output additions activation isAutomatic names agreed
  let call : Call := .complete output additions activation isAutomatic
  have rested : (final.perform call).engine.active = none := Engine.perform_active still call
  have moved : (final.perform call).engine.machine =
      (final.machine.complete output additions activation isAutomatic).machine :=
    Engine.perform_machine still call
  have back : (final.perform call).engine.goBack.engine.machine =
      (final.perform call).engine.machine.goBack.machine :=
    Engine.perform_machine rested .goBack
  rw [Engine.complete_reply still] at agreed
  obtain ⟨answered, restored⟩ :=
    Machine.goBack_of_accepted (graphKept ▸ sound) (graphKept ▸ along) names agreed
  rw [← moved, ← back] at restored
  rw [← moved, ← Engine.goBack_reply rested] at answered
  exact ⟨answered, restored⟩

namespace Booth

theorem visit_textual : ∀ call ∈ visit, call.IsTextual := by
  have textual : ∀ record : Record, (∀ key ∈ record.keys, ∃ name : String, key = .text name) →
      record.keys.Nodup → record.IsTextual := fun _ texts differ => ⟨texts, differ⟩
  simp [visit, Call.IsTextual, textual, Record.keys]

/-- Of the visit two completions are left standing, and its end can be taken back once more. -/
theorem visit_undone :
    let engine := Engine.create (.create graph true)
    let final := engine.start.engine.play visit
    let standing := engine.start.engine.standing [] visit
    let completed := final.complete "anything" [(.text "note", .text "last")] none false
    standing.map Passage.output = ["else", "default"] ∧
      ((Engine.create (.create graph false)).play
        (.start :: standing.reverse.map Passage.call)).machine.run = final.machine.run ∧
      completed.engine.machine.run.status = .completed ∧
      completed.engine.goBack.engine.machine.run = final.machine.run := by
  have undone := @undone_is_as_if_never_done definition graph accepted
    (.create (.create graph true)) rfl rfl visit (by simp [visit]) visit_textual false
  exact ⟨rfl, undone.1, rfl, (undone.2.2.2 _ _ none false (Record.isTextual_singleton _ _) rfl).2⟩

end Booth

end GuestFlow
