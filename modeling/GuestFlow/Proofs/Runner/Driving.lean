import GuestFlow.Proofs.Machine.Token
import GuestFlow.Proofs.Runner.Operations

/-!
# How a runner drives its engine

Whatever a runner does, it does by three kinds of moves: it calls its engine, it notes a
condition that it is about to complete, and it does other things that leave the machine
alone (`Runner.Drives`).  Every operation is composed of such moves, and the calls among
them are the ones of `Runner.callsOf` (`Runner.drives_perform`).

So the machine of a runner is the one of an engine that was only called
(`Runner.Drives.play`), and what all moves keep, every run of a host keeps.
-/

set_option autoImplicit false

namespace GuestFlow

namespace Runner

/-- `runner.Drives calls after`: by moves, among which the calls of the engine are those given, the
runner can become `after`. -/
inductive Drives : Runner → List Call → Runner → Prop where
  /-- The machine is left alone. -/
  | aside {runner after : Runner} (machine_eq : after.machine = runner.machine)
      (active_eq : after.engine.active = runner.engine.active)
      (guards_subset : after.guards ⊆ runner.guards) (cap_eq : after.cap = runner.cap)
      (isFinished_eq : after.isFinished = runner.isFinished) : Drives runner [] after
  /-- A condition is noted that is about to be completed at the current activation. -/
  | noted {runner : Runner} {guard : Guard}
      (current : guard.activation = runner.machine.activation) :
      Drives runner [] { runner with guards := guard :: runner.guards }
  | called (runner : Runner) (call : Call) :
      Drives runner [call] (runner.absorb (runner.engine.perform call))
  | followed {runner middle after : Runner} {calls more : List Call}
      (first : Drives runner calls middle) (second : Drives middle more after) :
      Drives runner (calls ++ more) after

/-- A runner whose engine is at rest and that has noted conditions of no later activation. -/
structure IsOrderly (runner : Runner) : Prop where
  rest : runner.engine.active = none
  guards_le : ∀ guard ∈ runner.guards, guard.activation ≤ runner.machine.activation

theorem isOrderly_create (graph : Graph) (registry : Registry) (strict : Bool) (eventId : String)
    (cap : Int) (agenda : Option Agenda) :
    (create graph registry strict eventId cap agenda).IsOrderly :=
  ⟨rfl, fun _ member => nomatch member⟩

namespace Drives

variable {runner middle after : Runner} {calls more : List Call}

/-- Nothing happens to the engine, and the conditions noted stay. -/
theorem engineKept (engine_eq : after.engine = runner.engine)
    (guards_eq : after.guards = runner.guards) (cap_eq : after.cap = runner.cap)
    (isFinished_eq : after.isFinished = runner.isFinished) : runner.Drives [] after :=
  .aside (congrArg Engine.machine engine_eq) (congrArg Engine.active engine_eq)
    (guards_eq ▸ List.Subset.refl _) cap_eq isFinished_eq

theorem refl (runner : Runner) : runner.Drives [] runner := .engineKept rfl rfl rfl rfl

theorem cap_eq (drives : runner.Drives calls after) : after.cap = runner.cap := by
  induction drives with
  | aside _ _ _ same => exact same
  | noted | called => rfl
  | followed _ _ first second => exact second.trans first

/-- An orderly runner stays so, and its machine is the one that the calls lead to. -/
theorem play (drives : runner.Drives calls after) (orderly : runner.IsOrderly) :
    after.IsOrderly ∧ after.machine = runner.machine.play calls := by
  induction drives with
  | aside machine_eq active_eq guards_subset =>
      refine ⟨⟨active_eq.trans orderly.rest, ?_⟩, machine_eq⟩
      intro guard member
      rw [machine_eq]
      exact orderly.guards_le guard (guards_subset member)
  | @noted runner guard current =>
      refine ⟨⟨orderly.rest, ?_⟩, rfl⟩
      intro other member
      rcases List.mem_cons.mp member with rfl | old
      · exact Nat.le_of_eq current
      · exact orderly.guards_le other old
  | called runner call =>
      have moved := Engine.perform_machine orderly.rest call
      have onward : Exchange.IsStep ⟨runner.machine, call, _, _⟩ := runner.machine.step_perform call
      refine ⟨⟨Engine.perform_active orderly.rest call, ?_⟩, moved⟩
      intro guard member
      have risen : runner.machine.activation ≤
          (runner.engine.perform call).engine.machine.activation := by
        rw [moved]
        exact onward.activation_le
      exact Nat.le_trans (orderly.guards_le guard member) risen
  | followed _ _ first second =>
      obtain ⟨between, reached⟩ := first orderly
      obtain ⟨orderlyAfter, led⟩ := second between
      exact ⟨orderlyAfter, by rw [led, reached, Machine.play_append]⟩

end Drives

/-! ## Moves beside the engine -/

section Moves

variable (runner : Runner)

theorem drives_log (journal : Journal) : runner.Drives [] (runner.log journal) :=
  .engineKept rfl rfl rfl rfl

theorem drives_resolve (kind : String) : runner.Drives [] (runner.resolve kind).1 :=
  .engineKept rfl rfl rfl rfl

theorem drives_cancelRendering : runner.Drives [] runner.cancelRendering := by
  unfold cancelRendering
  split
  · exact .refl runner
  · exact .engineKept rfl rfl rfl rfl

theorem drives_onAgenda (change : Agenda → Agenda) : runner.Drives [] (runner.onAgenda change) :=
  .engineKept rfl rfl rfl rfl

theorem drives_render : runner.Drives [] runner.render := by
  have cancelled := runner.drives_cancelRendering
  unfold render
  dsimp only
  split
  · exact .followed cancelled (.engineKept rfl rfl rfl rfl)
  · exact cancelled

theorem drives_pruneGuards : runner.Drives [] runner.pruneGuards :=
  .aside rfl rfl List.filter_sublist.subset rfl rfl

variable {runner} in
theorem Looks.drives {after : Runner} {reply : Except Fault (Option Prospect)}
    (looks : runner.Looks after reply) : runner.Drives [] after := by
  cases looks with
  | away | undecidable => exact .refl runner
  | unresolved => exact runner.drives_log _
  | textless | tried | found => exact .followed (runner.drives_log _) (drives_pruneGuards _)

end Moves

/-! ## Prospects -/

/-- The condition where the machine stands can be completed now. -/
structure Prospect.IsDue (prospect : Prospect) (machine : Machine) : Prop where
  stands : machine.StandsAt prospect.node
  isCondition : prospect.node.isCondition = true
  decided : Condition.decide prospect.node machine.run.data = .ok prospect.decision
  resolved : prospect.decision ≠ .unresolved
  current : prospect.guard.activation = machine.activation

/-- The current condition is one where a running machine stands. -/
theorem standsAt_of_currentCondition? {runner : Runner} {node : Node}
    (found : runner.currentCondition? = some node) :
    runner.machine.StandsAt node ∧ node.isCondition = true := by
  unfold currentCondition? at found
  split at found
  · rename_i here running
    split at found
    · rename_i isCondition
      cases found
      exact ⟨Machine.standsAt_of_currentNode running here, isCondition⟩
    · cases found
  · cases found

/-- Props are given for the node where the machine stands, at the current activation. -/
theorem standsAt_of_props? {runner : Runner} {props : Props} (given : runner.props? = some props) :
    runner.machine.StandsAt props.node ∧ props.activation = runner.machine.activation := by
  unfold props? at given
  split at given
  · rename_i here running
    cases given
    exact ⟨Machine.standsAt_of_currentNode running here, rfl⟩
  · cases given

/-- A prospect is due, and looking for it leaves the engine alone. -/
theorem isDue_of_prospect {runner after : Runner} {prospect : Prospect}
    (found : runner.prospect = (after, .ok (some prospect))) :
    prospect.IsDue runner.machine ∧ after.engine = runner.engine ∧
      after.guards ⊆ runner.guards := by
  cases looks_of_eq found with
  | found here decided resolved =>
      obtain ⟨stands, isCondition⟩ := standsAt_of_currentCondition? here
      exact ⟨⟨stands, isCondition, congrArg (Except.map Prod.fst) decided, resolved, rfl⟩, rfl,
        List.filter_sublist.subset⟩

/-- The runner once it has noted a condition that it is about to complete. -/
def noting (runner : Runner) (prospect : Prospect) : Runner :=
  ({ runner with guards := prospect.guard :: runner.guards }).log
    [.debug ("Auto-advancing condition " ++ quoted prospect.node.id ++ " via " ++
      quoted prospect.decision.name)]

theorem advance_eq (runner : Runner) (prospect : Prospect) :
    runner.advance prospect =
      let report := runner.engine.complete prospect.decision.name (conditionData prospect)
        (some (runner.machine.activation : Int)) true
      let after := (runner.noting prospect).absorb report
      match report.reply with
      | .ok verdict => (after, .ok verdict.isAccepted)
      | .error (.undeclared node output declared) =>
        (after.log [.error ("Condition " ++ quoted prospect.node.id ++ " cannot auto-advance: " ++
          (Fault.undeclared node output declared).message)], .ok false)
      | .error fault => (after, .error fault) := rfl

/-! ## Operations -/

section Operations

variable (runner : Runner)

theorem drives_noting (prospect : Prospect)
    (current : prospect.guard.activation = runner.machine.activation) :
    runner.Drives [] (runner.noting prospect) :=
  .followed (.noted current) (drives_log _ _)

theorem drives_advance (prospect : Prospect)
    (current : prospect.guard.activation = runner.machine.activation) :
    runner.Drives [runner.completionOf prospect] (runner.advance prospect).1 := by
  have completed : runner.Drives [runner.completionOf prospect] ((runner.noting prospect).absorb
      (runner.engine.perform (runner.completionOf prospect))) :=
    .followed (runner.drives_noting prospect current) (.called (runner.noting prospect) _)
  rw [advance_eq]
  dsimp only
  split
  · exact completed
  · exact .followed completed (drives_log _ _)
  · exact completed

variable {runner}

/-- Completing the condition that was found. -/
theorem drives_of_advance {middle after : Runner} {prospect : Prospect} {worked : Except Fault Bool}
    (found : runner.prospect = (middle, .ok (some prospect)))
    (went : middle.advance prospect = (after, worked)) :
    runner.Drives [middle.completionOf prospect] after := by
  obtain ⟨due, same, _⟩ := isDue_of_prospect found
  have current : prospect.guard.activation = middle.machine.activation :=
    due.current.trans (congrArg (·.machine.activation) same.symm)
  have advanced := middle.drives_advance prospect current
  rw [went] at advanced
  exact .followed (looks_of_eq found).drives advanced

theorem Settles.drives {remaining done : Nat} {calls : List Call} {after : Runner}
    {reply : Except Fault Unit} (settles : Settles remaining done runner calls after reply) :
    runner.Drives calls after := by
  induction settles with
  | failed found | nothing found => exact (looks_of_eq found).drives
  | capped found => exact .followed (looks_of_eq found).drives (drives_log _ _)
  | refused found went | raised found went => exact drives_of_advance found went
  | advanced found went _ ih => exact .followed (drives_of_advance found went) ih

variable (runner) in
theorem drives_settle : runner.Drives runner.settleCalls runner.settle.1 := by
  rcases runner.settle_cases with ⟨last, settles, told⟩ | ⟨last, fault, settles, told⟩
  · rw [told]
    exact List.append_nil runner.settleCalls ▸ .followed settles.drives last.drives_render
  · rw [told]
    exact settles.drives

theorem drives_of_settleAfter {α : Type} {value : α} {after : Runner} {reply : Except Fault α}
    (settled : runner.settleAfter value = (after, reply)) :
    runner.Drives runner.settleCalls after := by
  have drives := runner.drives_settle
  rw [settleAfter_eq] at settled
  cases settled
  exact drives

/-- An operation that calls the engine of its own accord drives it by this call and those that
follow when it settles. -/
theorem Undertakes.drives {α : Type} {call : Call} {report : Report α} {effect : α}
    {calls : List Call} {after : Runner} {reply : Except Fault α}
    (undertakes : runner.Undertakes call report effect calls after reply)
    (performed : runner.absorb (runner.engine.perform call) = runner.absorb report) :
    runner.Drives calls after := by
  have called := Drives.called runner call
  rw [performed] at called
  cases undertakes with
  | ended _ _ made => exact made ▸ called
  | settled _ settles made => exact made ▸ .followed called (drives_of_settleAfter settles)

theorem Submits.drives {output : String} {data : Option Record} {calls : List Call} {after : Runner}
    {answer : Except Fault Submission} (submits : runner.Submits output data calls after answer) :
    runner.Drives calls after := by
  cases submits with
  | noStep _ made => exact made ▸ runner.drives_log _
  | refused _ _ made => exact made ▸ runner.drives_resolve _
  | handedOn _ _ completed _ made =>
      exact made ▸
        .followed (runner.drives_resolve _) ((undertakes_of_completeFor completed).drives rfl)

theorem Unwinds.drives {fuel : Nat} {calls : List Call} {after : Runner}
    {reply : Except Fault (Option HistoryEntry)} (unwinds : Unwinds fuel runner calls after reply) :
    runner.Drives calls after := by
  induction unwinds with
  | ended | stopped => exact .called _ .goBack
  | onward _ _ _ _ ih => exact .followed (.called _ .goBack) ih

theorem GoesBack.drives {calls : List Call} {after : Runner}
    {reply : Except Fault (Option HistoryEntry)} (goesBack : runner.GoesBack calls after reply) :
    runner.Drives calls after := by
  cases goesBack with
  | ended unwinds => exact unwinds.drives
  | settled unwinds settles made =>
      exact made ▸ .followed unwinds.drives (drives_of_settleAfter settles)

variable (runner)

theorem drives_reset : runner.Drives [.reset] runner.reset := by
  have cleared : runner.Drives [] { runner.cancelRendering with guards := [] } :=
    .followed runner.drives_cancelRendering (.aside rfl rfl (List.nil_subset _) rfl rfl)
  exact .followed cleared (.called _ .reset)

theorem drives_act (task : Task) (actions : List Action) :
    runner.Drives (actCalls task actions runner) (act task actions runner).1 := by
  induction actions generalizing runner with
  | nil => exact .refl runner
  | cons action rest ih =>
      cases action with
      | say remark => exact .followed (runner.drives_log [remark]) (ih _)
      | sleep => exact .refl runner
      | fail => exact .refl runner
      | complete output data isReported =>
          have completed :=
            (runner.undertakes_completeFor task.activation output data).drives rfl
          unfold act actCalls
          cases found : runner.completeFor task.activation output data with
          | mk after reply =>
              rw [found] at completed
              match reply with
              | .error fault => rwa [List.append_nil]
              | .ok verdict =>
                  have kept : ∀ completion : Completion, after.Drives []
                      (if isReported then
                        { after with completions := after.completions ++ [completion] }
                      else after) := by
                    intro completion
                    split
                    · exact .engineKept rfl rfl rfl rfl
                    · exact .refl after
                  exact .followed completed (.followed (kept _) (ih _))

theorem drives_turn (task : Task) : runner.Drives (runner.turnCalls task) (runner.turn task) := by
  unfold turn turnCalls
  split
  · exact .followed (runner.drives_log _) (drives_onAgenda _ _)
  · have acted := Drives.followed
      (runner.drives_onAgenda fun agenda => { agenda with running := some task.id })
      (drives_act _ task task.actions)
    have finished := fun change : Agenda → Agenda => Drives.followed
      (Drives.followed acted (drives_onAgenda _ fun agenda => { agenda with running := none }))
      (drives_onAgenda _ change)
    simp only [List.nil_append, List.append_nil] at finished
    dsimp only
    split
    · exact finished _
    · exact finished _
    · exact finished _

theorem drives_serve : runner.Drives runner.serveCalls (runner.serve.getD runner) := by
  unfold serve serveCalls
  match runner.agenda with
  | none => exact .refl runner
  | some agenda =>
      dsimp only
      match agenda.queue with
      | [] => exact .refl runner
      | errand :: queue =>
          have taken : runner.Drives [] { runner with agenda := some { agenda with queue } } :=
            .engineKept rfl rfl rfl rfl
          match errand with
          | .report remark => exact .followed taken (drives_log _ _)
          | .turn id =>
              dsimp only
              match { agenda with queue }.task? id with
              | none => exact taken
              | some task => exact .followed taken (drives_turn _ task)

theorem drives_elapse (deadline : Option Binary64) : runner.Drives [] (runner.elapse deadline) := by
  unfold elapse
  split
  · exact runner.drives_onAgenda _
  · split
    · exact .refl runner
    · exact runner.drives_onAgenda _

/-- **Every call of a host drives the engine by the calls that are made of it.** -/
theorem drives_perform (call : HostCall) :
    runner.Drives (runner.callsOf call) (runner.perform call) := by
  cases call with
  | start => exact runner.undertakes_start.drives rfl
  | complete output data activation =>
      exact (runner.undertakes_completeFor _ output data).drives rfl
  | completeKept activation output data =>
      exact (runner.undertakes_completeFor activation output data).drives rfl
  | submit output data => exact (runner.submits output data).drives
  | goBack => exact runner.goesBack.drives
  | reset => exact runner.drives_reset
  | settle => exact runner.drives_settle
  | direct call => exact .called runner call
  | subscribe => exact .aside rfl rfl (List.Subset.refl _) rfl rfl
  | unsubscribe name =>
      exact .aside (runner.engine.unsubscribe_machine name) (runner.engine.unsubscribe_active name)
        (List.Subset.refl _) rfl rfl
  | register => exact .engineKept rfl rfl rfl rfl
  | serve => exact runner.drives_serve
  | elapse deadline => exact runner.drives_elapse deadline

theorem drives_play (calls : List HostCall) :
    runner.Drives (runner.callsMade calls) (runner.play calls) := by
  induction calls generalizing runner with
  | nil => exact .refl runner
  | cons call calls ih => exact .followed (runner.drives_perform call) (ih _)

end Operations

end Runner

end GuestFlow
