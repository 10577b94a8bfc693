import GuestFlow.Proofs.Machine.Undo
import GuestFlow.Proofs.Runner.Driving

/-!
# Settling

After every step a runner completes the conditions that can be decided.  It completes at
most as many as its cap allows, each through the output of the decision on the data of
that moment, and then rests: no condition is left behind that could have been completed
(`conditions_settle`).

A condition is not tried twice at one activation with the same data.  This never keeps a
condition from being completed after an operation that took effect, because conditions
that were noted belong to earlier activations (`IsReady`): the operation has entered a
later one, and so does every condition that is completed.
-/

set_option autoImplicit false

namespace GuestFlow

/-! ## Completing conditions -/

namespace Machine

/-- What completing a condition adds to the data. -/
def decisionData (node : Node) (decision : Decision) : Record :=
  [(.text ("_condition_" ++ node.id), .bool (decision == .holds))]

/-- The machine stands at a condition that is decided, and completes it through the output of the
decision. -/
structure Decides (machine : Machine) (node : Node) (decision : Decision) (after : Machine) :
    Prop where
  stands : machine.StandsAt node
  isCondition : node.isCondition = true
  decided : Condition.decide node machine.run.data = .ok decision
  resolved : decision ≠ .unresolved
  accepted :
    (machine.complete decision.name (decisionData node decision) (some machine.activation)
      true).reply = .ok .accepted
  completed :
    (machine.complete decision.name (decisionData node decision) (some machine.activation)
      true).machine = after
  data_eq : after.run.data = machine.run.data.update (decisionData node decision)
  history_eq : after.run.history =
    ⟨node.id, decision.name, Touched.of machine.run.data (decisionData node decision), true⟩ ::
      machine.run.history

/-- `machine.AutoAdvances count after`: the machine completes conditions, `count` of them, one after
another.  One more completion may have been rejected at the end. -/
inductive AutoAdvances : Machine → Nat → Machine → Prop where
  | rest (machine : Machine) (rejection : Option Rejection) :
      AutoAdvances machine 0 { machine with lastRejection := rejection }
  | advance {machine middle after : Machine} {node : Node} {decision : Decision} {count : Nat}
      (decides : machine.Decides node decision middle) (onward : middle.AutoAdvances count after) :
      AutoAdvances machine (count + 1) after

theorem AutoAdvances.refl (machine : Machine) : machine.AutoAdvances 0 machine :=
  .rest machine machine.lastRejection

/-- Why no more conditions are completed, without regard to any cap. -/
inductive Rests (machine : Machine) : Prop where
  | ended (notRunning : machine.run.status ≠ .running)
  | waiting {node : Node} (stands : machine.StandsAt node) (noCondition : node.isCondition = false)
  | unresolved {node : Node} (stands : machine.StandsAt node)
      (undecided : Condition.decide node machine.run.data = .ok .unresolved)
  | undeclared {node : Node} {decision : Decision} (stands : machine.StandsAt node)
      (decided : Condition.decide node machine.run.data = .ok decision)
      (hasOutputs : node.outputs ≠ []) (missing : node.hasOutput decision.name = false)

/-- The note of a rejection does not matter. -/
theorem Rests.of_rejection {machine : Machine} {rejection : Option Rejection}
    (rests : machine.Rests) : { machine with lastRejection := rejection }.Rests := by
  cases rests with
  | ended notRunning => exact .ended notRunning
  | waiting stands noCondition =>
      exact .waiting ⟨stands.running, stands.current, stands.found⟩ noCondition
  | unresolved stands undecided =>
      exact .unresolved ⟨stands.running, stands.current, stands.found⟩ undecided
  | undeclared stands decided hasOutputs missing =>
      exact .undeclared ⟨stands.running, stands.current, stands.found⟩ decided hasOutputs missing

/-- A decided condition whose output is allowed is completed, on a sound graph. -/
theorem StandsAt.decides {machine : Machine} {node : Node} (stands : machine.StandsAt node)
    (sound : machine.graph.IsSound) (isCondition : node.isCondition = true) {decision : Decision}
    (decided : Condition.decide node machine.run.data = .ok decision)
    (resolved : decision ≠ .unresolved) (allowed : node.allows decision.name = true) :
    machine.Decides node decision
      (machine.complete decision.name (decisionData node decision) (some machine.activation)
        true).machine := by
  have timely : machine.isStale (some (machine.activation : Int)) = false := by simp [isStale]
  have left := stands.complete_eq_leave timely allowed (decisionData node decision) true
  obtain ⟨passed, -, accepted⟩ :=
    stands.leave sound ⟨decision.name, decisionData node decision, true⟩
  dsimp only at passed accepted
  rw [left]
  refine ⟨stands, isCondition, decided, resolved, ?_, by rw [left], ?_, ?_⟩
  · rw [left]
    exact accepted
  · rw [passed]
    rcases Run.pass_cases machine.graph machine.run node
      ⟨decision.name, decisionData node decision, true⟩ with ⟨next, moved⟩ | ended
    · rw [moved]
      rfl
    · rw [ended]
      rfl
  · rw [passed, Run.history_pass]

/-- Completing a condition is a step. -/
theorem Decides.step {machine after : Machine} {node : Node} {decision : Decision}
    (decides : machine.Decides node decision after) :
    machine.Step (.complete decision.name (decisionData node decision)
      (some machine.activation) true) after (.ok (.verdict .accepted)) := by
  have step := machine.step_complete decision.name (decisionData node decision)
    (some machine.activation) true
  rwa [decides.completed, decides.accepted] at step

/-- A timely completion through an output that the node does not allow is rejected. -/
theorem StandsAt.complete_eq_reject {machine : Machine} {node : Node}
    (stands : machine.StandsAt node) {output : String} {activation : Option Int}
    (timely : machine.isStale activation = false) (refused : node.allows output = false)
    (additions : Record) (isAutomatic : Bool) :
    machine.complete output additions activation isAutomatic = machine.reject node output := by
  simp [complete, stands.running, stands.current, stands.found, timely, refused]

/-- A rejection changes only the note of the latest one. -/
theorem reject_machine (machine : Machine) (node : Node) (output : String) :
    (machine.reject node output).machine =
      { machine with lastRejection := some ⟨node.id, output, node.outputIds⟩ } := by
  unfold reject
  dsimp only
  split
  · rfl
  · rfl

theorem reject_reply (machine : Machine) (node : Node) (output : String) :
    (machine.reject node output).reply = .ok .undeclared ∨
      (machine.reject node output).reply = .error (.undeclared node.id output node.outputIds) := by
  unfold reject
  dsimp only
  split
  · exact .inr rfl
  · exact .inl rfl

/-- Only an undeclared output keeps a decided condition from being completed. -/
theorem StandsAt.rests {machine : Machine} {node : Node} (stands : machine.StandsAt node)
    {decision : Decision} (decided : Condition.decide node machine.run.data = .ok decision)
    (refused : node.allows decision.name = false) : machine.Rests := by
  simp only [Node.allows, Node.isTerminal, Bool.or_eq_false_iff] at refused
  exact .undeclared stands decided (by simpa using refused.1) refused.2

end Machine

namespace Runner

/-! ## Runners that are ready to settle -/

/-- What holds of every runner on a sound graph, between the calls of its host. -/
structure IsSteady (graph : Graph) (runner : Runner) : Prop extends runner.IsOrderly where
  graph_eq : runner.machine.graph = graph
  course : OnCourse graph runner.machine.run

/-- Moreover, no condition was tried at the current activation. -/
structure IsReady (graph : Graph) (runner : Runner) : Prop extends runner.IsSteady graph where
  untried : ∀ guard ∈ runner.guards, guard.activation < runner.machine.activation

variable {graph : Graph} {runner after : Runner}

theorem isSteady_create (registry : Registry) (strict : Bool) (eventId : String) (cap : Int)
    (agenda : Option Agenda) : (create graph registry strict eventId cap agenda).IsSteady graph :=
  ⟨isOrderly_create .., rfl, .fresh⟩

/-- A steady runner stays so, whatever its host calls. -/
theorem IsSteady.play (steady : runner.IsSteady graph) (sound : graph.IsSound)
    (calls : List HostCall) :
    (runner.play calls).IsSteady graph ∧ (runner.play calls).cap = runner.cap := by
  have drives := runner.drives_play calls
  obtain ⟨orderly, played⟩ := drives.play steady.toIsOrderly
  have same := steady.graph_eq
  subst same
  have kept := Machine.onCourse_play sound steady.course (runner.callsMade calls)
  exact ⟨⟨orderly, (congrArg Machine.graph played).trans kept.1,
    (congrArg Machine.run played) ▸ kept.2⟩, drives.cap_eq⟩

/-- What the engine of an orderly runner replies, its machine replies. -/
theorem IsOrderly.step (orderly : runner.IsOrderly) (call : Call) {reply : Except Fault Reply}
    (told : (runner.engine.perform call).reply = reply) :
    runner.machine.Step call (runner.machine.perform call).machine reply := by
  rw [← told, Engine.perform_reply orderly.rest call]
  exact runner.machine.step_perform call

/-- A call that enters the next activation makes a steady runner ready. -/
theorem IsSteady.called (steady : runner.IsSteady graph) (sound : graph.IsSound) {call : Call}
    (onward : (runner.machine.perform call).machine.activation = runner.machine.activation + 1) :
    (runner.absorb (runner.engine.perform call)).IsReady graph := by
  obtain ⟨orderly, moved⟩ := (Drives.called runner call).play steady.toIsOrderly
  have step := runner.machine.step_perform call
  have same := steady.graph_eq
  subst same
  rw [Machine.play_cons, Machine.play_nil] at moved
  refine ⟨⟨orderly, moved ▸ step.graph_eq, ?_⟩, ?_⟩
  · have course := step.onCourse sound steady.course
    rw [step.graph_eq] at course
    exact moved ▸ course
  · intro guard member
    rw [moved, onward]
    exact Nat.lt_succ_of_le (steady.guards_le guard member)

/-- Whether a runner is ready is a matter of its engine and of the conditions it noted. -/
theorem IsReady.of_engine_eq (ready : runner.IsReady graph) (same : after.engine = runner.engine)
    (fewer : after.guards ⊆ runner.guards) : after.IsReady graph := by
  have still : after.machine = runner.machine := congrArg Engine.machine same
  refine ⟨⟨⟨same ▸ ready.rest, ?_⟩, still ▸ ready.graph_eq, still ▸ ready.course⟩, ?_⟩
  · intro guard member
    exact still ▸ ready.guards_le guard (fewer member)
  · intro guard member
    exact still ▸ ready.untried guard (fewer member)

/-- On a ready runner no guard keeps a condition from being completed. -/
theorem IsReady.pruned (ready : runner.IsReady graph) : runner.pruneGuards.guards = [] := by
  refine List.filter_eq_nil_iff.mpr ?_
  intro guard member same
  have earlier := ready.untried guard member
  rw [beq_iff_eq] at same
  omega

/-- If no prospect is found, there is nothing to be completed. -/
theorem rests_of_prospect (ready : runner.IsReady graph)
    (found : runner.prospect = (after, .ok none)) :
    after.machine = runner.machine ∧ runner.machine.Rests := by
  cases looks_of_eq found with
  | away nowhere =>
      refine ⟨rfl, ?_⟩
      by_cases running : runner.machine.run.status = .running
      · cases ready.course with
        | idle idle => simp [idle] at running
        | outside completed => simp [completed] at running
        | @inside node _ here there _ =>
            have stands : runner.machine.StandsAt node :=
              ⟨running, here, ready.graph_eq ▸ there⟩
            refine .waiting stands ?_
            simpa [currentCondition?, stands.currentNode_eq, status, running] using nowhere
      · exact .ended running
  | unresolved here undecided =>
      obtain ⟨stands, isCondition⟩ := standsAt_of_currentCondition? here
      exact ⟨rfl, .unresolved stands (congrArg (Except.map Prod.fst) undecided)⟩
  | tried _ _ _ _ tried =>
      rw [ready.pruned] at tried
      cases tried

/-! ## The loop -/

/-- A prospect whose output is allowed is completed, and the runner is ready again. -/
theorem advance_of_allowed (ready : runner.IsReady graph) (sound : graph.IsSound)
    {prospect : Prospect} (due : prospect.IsDue runner.machine)
    (allowed : prospect.node.allows prospect.decision.name = true) :
    ∃ after, runner.advance prospect = (after, .ok true) ∧
      runner.machine.Decides prospect.node prospect.decision after.machine ∧
      after.IsReady graph := by
  have orderly := ((runner.drives_noting prospect due.current).play ready.toIsOrderly).1
  have steady : (runner.noting prospect).IsSteady graph :=
    ⟨orderly, ready.graph_eq, ready.course⟩
  have decides := due.stands.decides (ready.graph_eq ▸ sound) due.isCondition due.decided
    due.resolved allowed
  have accepted := (Engine.complete_reply ready.rest prospect.decision.name
    (conditionData prospect) (some (runner.machine.activation : Int)) true).trans decides.accepted
  have moved := Engine.perform_machine ready.rest (runner.completionOf prospect)
  refine ⟨(runner.noting prospect).absorb
    (runner.engine.perform (runner.completionOf prospect)), ?_, ?_, ?_⟩
  · rw [advance_eq]
    dsimp only
    rw [accepted]
    rfl
  · have reached : ((runner.noting prospect).absorb
        (runner.engine.perform (runner.completionOf prospect))).machine =
          (runner.machine.perform (runner.completionOf prospect)).machine := moved
    rw [reached]
    exact decides
  · exact steady.called sound decides.step.of_accepted.2

/-- A prospect whose output is not declared is left where it is. -/
theorem advance_of_refused (rest : runner.engine.active = none) {prospect : Prospect}
    (due : prospect.IsDue runner.machine)
    (refused : prospect.node.allows prospect.decision.name = false) :
    ∃ after rejection, runner.advance prospect = (after, .ok false) ∧
      after.machine = { runner.machine with lastRejection := rejection } := by
  have timely : runner.machine.isStale (some (runner.machine.activation : Int)) = false := by
    simp [Machine.isStale]
  have rejected := due.stands.complete_eq_reject timely refused (conditionData prospect) true
  have replied := Engine.complete_reply rest prospect.decision.name (conditionData prospect)
    (some (runner.machine.activation : Int)) true
  have moved : (runner.engine.perform (runner.completionOf prospect)).engine.machine =
      (runner.machine.reject prospect.node prospect.decision.name).machine :=
    (Engine.perform_machine rest _).trans (congrArg Outcome.machine rejected)
  rw [Machine.reject_machine] at moved
  have told := replied.trans (congrArg Outcome.reply rejected)
  rw [advance_eq]
  dsimp only
  rcases runner.machine.reject_reply prospect.node prospect.decision.name with plain | strict
  · rw [told.trans plain]
    exact ⟨_, _, rfl, moved⟩
  · rw [told.trans strict]
    exact ⟨_, _, rfl, moved⟩

/-- On a ready runner a condition that was found is completed, or it rests there. -/
theorem IsReady.advance_cases (ready : runner.IsReady graph) (sound : graph.IsSound)
    {middle : Runner} {prospect : Prospect} {worked : Except Fault Bool}
    (found : runner.prospect = (middle, .ok (some prospect)))
    (went : middle.advance prospect = (after, worked)) :
    (worked = .ok true ∧
        runner.machine.Decides prospect.node prospect.decision after.machine ∧
        after.IsReady graph) ∨
      (worked = .ok false ∧ runner.machine.AutoAdvances 0 after.machine ∧ after.machine.Rests) := by
  obtain ⟨due, same, fewer⟩ := isDue_of_prospect found
  have still : middle.machine = runner.machine := congrArg Engine.machine same
  have readyStill : middle.IsReady graph := ready.of_engine_eq same fewer
  rw [← still] at due ⊢
  cases allowed : prospect.node.allows prospect.decision.name with
  | true =>
      obtain ⟨last, advanced, decides, readyAgain⟩ :=
        advance_of_allowed readyStill sound due allowed
      rw [went] at advanced
      cases advanced
      exact .inl ⟨rfl, decides, readyAgain⟩
  | false =>
      obtain ⟨last, rejection, stopped, noted⟩ := advance_of_refused readyStill.rest due allowed
      rw [went] at stopped
      cases stopped
      rw [noted]
      exact .inr ⟨rfl, .rest _ rejection,
        (due.stands.rests due.decided allowed).of_rejection⟩

/-- **Settling completes at most as many conditions as remain, and then the machine rests**, unless
looking for the next condition fails. -/
theorem Settles.autoAdvances (sound : graph.IsSound) {remaining done : Nat} {calls : List Call}
    {reply : Except Fault Unit} (settles : Settles remaining done runner calls after reply)
    (ready : runner.IsReady graph) :
    ∃ count ≤ remaining, runner.machine.AutoAdvances count after.machine ∧
      ((reply = .ok () ∧ (after.machine.Rests ∨ count = remaining)) ∨
        ∃ (last : Runner) (fault : Fault), last.prospect = (after, .error fault) ∧
          reply = .error fault) := by
  induction settles with
  | failed found =>
      have same := ((looks_of_eq found).drives.play ready.toIsOrderly).2
      exact ⟨0, Nat.zero_le _, same ▸ .refl _, .inr ⟨_, _, found, rfl⟩⟩
  | nothing found =>
      obtain ⟨same, rests⟩ := rests_of_prospect ready found
      exact ⟨0, Nat.zero_le _, same ▸ .refl _, .inl ⟨rfl, .inl (same ▸ rests)⟩⟩
  | capped found =>
      have same := ((looks_of_eq found).drives.play ready.toIsOrderly).2
      exact ⟨0, Nat.le_refl 0, same ▸ .refl _, .inl ⟨rfl, .inr rfl⟩⟩
  | refused found went =>
      rcases ready.advance_cases sound found went with ⟨worked, _⟩ | ⟨_, stays, rests⟩
      · cases worked
      · exact ⟨0, Nat.zero_le _, stays, .inl ⟨rfl, .inl rests⟩⟩
  | raised found went =>
      rcases ready.advance_cases sound found went with ⟨worked, _⟩ | ⟨worked, _⟩
      · cases worked
      · cases worked
  | advanced found went _ ih =>
      rcases ready.advance_cases sound found went with ⟨_, decides, readyAgain⟩ | ⟨worked, _⟩
      · obtain ⟨count, within, onward, ends⟩ := ih readyAgain
        refine ⟨count + 1, Nat.succ_le_succ within, .advance decides onward, ?_⟩
        exact ends.imp_left fun ⟨told, rests⟩ => ⟨told, rests.imp_right (congrArg Nat.succ)⟩
      · cases worked

/-! ## Operations that take effect -/

/-- After its own calls of the engine an operation completed conditions, at most as many as the cap
allows, and then the machine rests or the cap is reached. -/
def SettlesAfter (runner : Runner) (own : List Call) (after : Runner) : Prop :=
  ∃ count : Nat, (count : Int) ≤ max 0 runner.cap ∧
    (runner.machine.play own).AutoAdvances count after.machine ∧
    (after.machine.Rests ∨ (count : Int) = max 0 runner.cap)

theorem render_machine (runner : Runner) : runner.render.machine = runner.machine := by
  unfold render cancelRendering
  dsimp only
  split
  · split
    · rfl
    · rfl
  · split
    · rfl
    · rfl

/-- A ready runner settles. -/
theorem IsReady.settlesAfter {α : Type} {middle : Runner} {own : List Call} {reply answer : α}
    (ready : middle.IsReady graph) (sound : graph.IsSound)
    (reached : middle.machine = runner.machine.play own) (sameCap : middle.cap = runner.cap)
    (settled : middle.settleAfter reply = (after, .ok answer)) : runner.SettlesAfter own after := by
  obtain ⟨_, last, settles, rfl⟩ := settleAfter_eq_ok settled
  obtain ⟨count, within, onward, ends⟩ := settles.autoAdvances sound ready
  rcases ends with ⟨_, rests⟩ | ⟨_, _, _, raised⟩
  · rw [reached] at onward
    rw [sameCap] at within rests
    unfold SettlesAfter
    rw [render_machine]
    refine ⟨count, by omega, onward, rests.imp_right ?_⟩
    omega
  · cases raised

/-- Looking a renderer up leaves a runner steady. -/
theorem IsSteady.resolve (steady : runner.IsSteady graph) (kind : String) :
    (runner.resolve kind).1.IsSteady graph :=
  ⟨⟨steady.rest, steady.guards_le⟩, steady.graph_eq, steady.course⟩

variable (steady : runner.IsSteady graph) (sound : graph.IsSound)
include steady sound

theorem IsSteady.start_settles (took : runner.start = (after, .ok true)) :
    runner.SettlesAfter [.start] after := by
  cases undertakes_of_start took with
  | ended _ without => exact absurd rfl without
  | settled answer settles =>
      have step := steady.step .start (congrArg (Except.map Reply.flag) answer)
      exact (steady.called sound step.of_started).settlesAfter sound
        (Engine.perform_machine steady.rest .start) rfl settles

theorem IsSteady.completeFor_settles {activation : Int} {output : String} {data : Option Record}
    (took : runner.completeFor activation output data = (after, .ok .accepted)) :
    runner.SettlesAfter [.complete output (data.getD []) (some activation) false] after := by
  cases undertakes_of_completeFor took with
  | ended _ without => exact absurd rfl without
  | settled answer settles =>
      have step := steady.step (.complete output (data.getD []) (some activation) false)
        (congrArg (Except.map Reply.verdict) answer)
      exact (steady.called sound step.of_accepted.2).settlesAfter sound
        (Engine.perform_machine steady.rest _) rfl settles

theorem IsSteady.submit_settles {output : String} {data : Option Record}
    (took : runner.submit output data = (after, .ok (.verdict .accepted))) :
    ∃ node given additions, runner.machine.StandsAt node ∧
      (runner.resolve node.kind).2.input node output data = some (given, additions) ∧
      runner.SettlesAfter
        [.complete given (additions.getD []) (some (runner.machine.activation : Int)) false]
        after := by
  cases submits_of_eq took with
  | @handedOn props given additions _ _ _ shown input completed answered =>
      obtain ⟨_, rfl, same⟩ := map_eq_ok_iff.mp answered.symm
      cases same
      obtain ⟨stands, current⟩ := standsAt_of_props? shown
      rw [current] at completed
      exact ⟨props.node, given, additions, stands, input,
        (steady.resolve props.node.kind).completeFor_settles sound completed⟩

/-- Undoing a step enters the next activation, which leaves the runner ready. -/
theorem IsSteady.undo_ready {entry : HistoryEntry}
    (undone : runner.engine.goBack.reply = .ok (some entry)) :
    (runner.absorb runner.engine.goBack).IsReady graph ∧
      runner.machine.activation < (runner.absorb runner.engine.goBack).machine.activation := by
  have step := steady.step .goBack (congrArg (Except.map Reply.entry) undone)
  have entered : (runner.absorb runner.engine.goBack).machine.activation =
      runner.machine.activation + 1 :=
    (congrArg Machine.activation (Engine.perform_machine steady.rest .goBack)).trans step.of_undone
  exact ⟨steady.called sound step.of_undone, by omega⟩

/-- Going back undoes some steps, the latest first, and leaves the runner ready. -/
theorem IsSteady.unwind_ready {fuel : Nat} {calls : List Call} {entry : HistoryEntry}
    (unwinds : Unwinds fuel runner calls after (.ok (some entry))) :
    (∃ count, calls = List.replicate (count + 1) .goBack) ∧ after.IsReady graph ∧
      after.cap = runner.cap ∧ runner.machine.activation < after.machine.activation := by
  generalize told : Except.ok (some entry) = reply at unwinds
  induction unwinds with
  | ended _ nothing => exact absurd told.symm (nothing entry)
  | stopped undone =>
      obtain ⟨ready, later⟩ := steady.undo_ready sound undone
      exact ⟨⟨0, rfl⟩, ready, rfl, later⟩
  | onward undone _ _ _ ih =>
      obtain ⟨ready, later⟩ := steady.undo_ready sound undone
      obtain ⟨⟨count, rfl⟩, readyAfter, sameCap, laterStill⟩ := ih ready.toIsSteady told
      exact ⟨⟨count + 1, rfl⟩, readyAfter, sameCap, later.trans laterStill⟩

theorem IsSteady.goBack_settles {entry : HistoryEntry}
    (took : runner.goBack = (after, .ok (some entry))) :
    ∃ count, runner.SettlesAfter (List.replicate (count + 1) .goBack) after := by
  obtain ⟨middle, calls, unwinds, settled⟩ := unwinds_of_goBack took
  obtain ⟨⟨count, rfl⟩, ready, sameCap, _⟩ := steady.unwind_ready sound unwinds
  have reached := (unwinds.drives.play steady.toIsOrderly).2
  exact ⟨count, ready.settlesAfter sound reached sameCap settled⟩

end Runner

/-- **Conditions are completed as far as they can be, and no further than the cap allows.**  On an
accepted definition, from wherever a host may have brought a runner, every start, completion, input
and going back that takes effect and returns completes conditions by the decisions on the data of
each moment, and then the machine rests or the cap is reached. -/
theorem conditions_settle {definition : Definition} {graph : Graph}
    (accepted : Graph.ofDefinition definition = .ok graph) (registry : Registry) (strict : Bool)
    (eventId : String) (cap : Int) (agenda : Option Agenda) (calls : List HostCall) :
    let runner := (Runner.create graph registry strict eventId cap agenda).play calls
    runner.cap = cap ∧
      (∀ after, runner.start = (after, .ok true) → runner.SettlesAfter [.start] after) ∧
      (∀ activation output data after,
        runner.completeFor activation output data = (after, .ok .accepted) →
          runner.SettlesAfter [.complete output (data.getD []) (some activation) false] after) ∧
      (∀ output data activation after,
        runner.complete output data activation = (after, .ok .accepted) →
          runner.SettlesAfter
            [.complete output (data.getD [])
              (some (activation.getD (runner.machine.activation : Int))) false] after) ∧
      (∀ output data after, runner.submit output data = (after, .ok (.verdict .accepted)) →
        ∃ node given additions, runner.machine.StandsAt node ∧
          (runner.resolve node.kind).2.input node output data = some (given, additions) ∧
          runner.SettlesAfter
            [.complete given (additions.getD []) (some (runner.machine.activation : Int)) false]
            after) ∧
      ∀ entry after, runner.goBack = (after, .ok (some entry)) →
        ∃ count, runner.SettlesAfter (List.replicate (count + 1) .goBack) after := by
  have sound := Graph.isSound_of_ofDefinition accepted
  obtain ⟨steady, capped⟩ :=
    (Runner.isSteady_create registry strict eventId cap agenda).play sound calls
  refine ⟨capped, ?_, ?_, ?_, ?_, ?_⟩
  · intro after took
    exact steady.start_settles sound took
  · intro activation output data after took
    exact steady.completeFor_settles sound took
  · intro output data activation after took
    exact steady.completeFor_settles sound took
  · intro output data after took
    exact steady.submit_settles sound took
  · intro entry after took
    exact steady.goBack_settles sound took

namespace Booth

/-- More is wanted, so the condition leads back to itself until the cap is reached. -/
theorem guest_settles :
    let standing := runner.play [.start]
    let after := (standing.completeFor 1 "default" (some [(.text "more", .bool true)])).1
    after.machine.activation = 5 ∧
      standing.SettlesAfter
        [.complete "default" [(.text "more", .bool true)] (some (1 : Int)) false] after := by
  have reached : ((runner.play [.start]).completeFor 1 "default"
      (some [(.text "more", .bool true)])).1.machine.activation = 5 := by decide +kernel
  have accepts : ((runner.play [.start]).completeFor 1 "default"
      (some [(.text "more", .bool true)])).2.toOption = some .accepted := by decide +kernel
  generalize standing : runner.play [.start] = middle at reached accepts ⊢
  have settles := (conditions_settle accepted Registry.usual false "opening" 3 none [.start]).2.2.1
  rw [show (Runner.create graph Registry.usual false "opening" 3 none).play [.start] = middle from
    standing] at settles
  exact ⟨reached, settles 1 "default" (some [(.text "more", .bool true)]) _
    (Prod.ext rfl (toOption_eq_some_iff.mp accepts))⟩

end Booth

end GuestFlow
