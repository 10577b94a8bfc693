import GuestFlow.Proofs.Runner.Settling

/-!
# How histories are laid

Steps of a person and steps of conditions are laid on each other in a history.  A condition
is completed only if its field is among the data, and a run without steps has none; so a
condition never begins a history (`Laid.history_eq_nil_iff`).

`Laid graph cap issued run` says how the history of a run came about: each of its steps can
be undone to the very run before it (`Run.Covers`), and the steps of a person began in the
runs listed.  Those runs had settled, for otherwise nobody would have been asked: there was
no condition to be completed, or the cap had been reached (`Run.IsSettled`).  Completing
conditions keeps this (`Machine.AutoAdvances.laid`).
-/

set_option autoImplicit false

namespace GuestFlow

/-! ## Runs that wait for a person -/

namespace Run

/-- The run stands at a condition that can be completed by its decision. -/
structure Decides (graph : Graph) (run : Run) (node : Node) (decision : Decision) : Prop where
  running : run.status = .running
  current : run.current = some node.id
  found : graph.node? node.id = some node
  isCondition : node.isCondition = true
  decided : Condition.decide node run.data = .ok decision
  resolved : decision ≠ .unresolved
  allowed : node.allows decision.name = true

/-- The run stands at a condition that is decided, but as many steps as the cap allows were
automatic when it came there. -/
structure IsStopped (graph : Graph) (cap : Int) (run : Run) : Prop where
  positive : 0 < cap
  decides : ∃ node decision, run.Decides graph node decision
  reached : cap.toNat ≤ run.history.length
  automatic : ∀ entry ∈ run.history.take cap.toNat, entry.isAutomatic = true

/-- Only the cap keeps the run from going on by itself. -/
def IsSettled (graph : Graph) (cap : Int) (run : Run) : Prop :=
  0 < cap → ∀ node decision, run.Decides graph node decision → run.IsStopped graph cap

/-- The run was recorded by an entry on top of another run, and undoing gives that one back. -/
structure Covers (run : Run) (entry : HistoryEntry) (before : Run) : Prop where
  history_eq : run.history = entry :: before.history
  undo_eq : run.undo entry before.history = before
  unfinished : run.status = .running → run.hasFinished = false

/-- Without data no condition is decided. -/
theorem Decides.data_ne_nil {graph : Graph} {run : Run} {node : Node} {decision : Decision}
    (decides : run.Decides graph node decision) : run.data ≠ [] := by
  intro empty
  have decided := decides.decided
  rw [empty] at decided
  have nothing : Condition.collected? node [] = .ok none ∨
      ∃ fault, Condition.collected? node [] = .error fault := by
    unfold Condition.collected?
    dsimp only
    split
    · cases (Condition.fieldName node).asKey with
      | error fault => exact .inr ⟨fault, rfl⟩
      | ok key => exact .inl rfl
    · exact .inl rfl
  unfold Condition.decide Condition.evaluate at decided
  rw [if_pos decides.isCondition] at decided
  rcases nothing with uncollected | ⟨fault, unusable⟩
  · rw [uncollected] at decided
    cases decided
    exact decides.resolved rfl
  · rw [unusable] at decided
    cases decided

theorem Covers.running {run before : Run} {entry : HistoryEntry}
    (covers : run.Covers entry before) : before.status = .running :=
  congrArg Run.status covers.undo_eq.symm

theorem Covers.current {run before : Run} {entry : HistoryEntry}
    (covers : run.Covers entry before) : before.current = some entry.node :=
  congrArg Run.current covers.undo_eq.symm

/-- A passage covers the run it leaves. -/
theorem covers_pass {graph : Graph} {run : Run} {node : Node} {passage : Passage}
    (mapping : passage.additions.IsMapping) (running : run.status = .running)
    (here : run.current = some node.id) (unfinished : run.hasFinished = false) :
    (run.pass graph node passage).Covers
      ⟨node.id, passage.output, Touched.of run.data passage.additions, passage.isAutomatic⟩
      run := by
  refine ⟨history_pass passage, undo_pass mapping running here unfinished, ?_⟩
  rcases pass_cases graph run node passage with ⟨next, passed⟩ | passed
  · rw [passed]
    exact fun _ => unfinished
  · rw [passed]
    intro still
    cases still

end Run

/-! ## The invariant -/

/-- `Laid graph cap issued run`: the history of the run was laid step by step, and the steps of a
person began in the runs listed, the latest first. -/
inductive Laid (graph : Graph) (cap : Int) : List Run → Run → Prop where
  | clear {run : Run} (empty : run.history = []) (blank : run.data = [])
      (unfinished : run.status = .running → run.hasFinished = false) : Laid graph cap [] run
  | manual {issued : List Run} {before run : Run} {entry : HistoryEntry}
      (below : Laid graph cap issued before) (covers : run.Covers entry before)
      (byPerson : entry.isAutomatic = false) (settled : before.IsSettled graph cap) :
      Laid graph cap (before :: issued) run
  | automatic {issued : List Run} {before run : Run} {entry : HistoryEntry}
      (below : Laid graph cap issued before) (covers : run.Covers entry before)
      (byItself : entry.isAutomatic = true) (beneath : before.history ≠ []) :
      Laid graph cap issued run

namespace Laid

variable {graph : Graph} {cap : Int} {issued : List Run} {run : Run}

theorem unfinished (laid : Laid graph cap issued run) (running : run.status = .running) :
    run.hasFinished = false := by
  cases laid with
  | clear _ _ unfinished => exact unfinished running
  | manual _ covers => exact covers.unfinished running
  | automatic _ covers => exact covers.unfinished running

/-- A run without steps has no data. -/
theorem data_eq_nil (laid : Laid graph cap issued run) (empty : run.history = []) :
    run.data = [] := by
  cases laid with
  | clear _ blank => exact blank
  | manual _ covers =>
      rw [covers.history_eq] at empty
      cases empty
  | automatic _ covers =>
      rw [covers.history_eq] at empty
      cases empty

/-- There are steps exactly when some of them are a person's. -/
theorem history_eq_nil_iff (laid : Laid graph cap issued run) :
    run.history = [] ↔ issued = [] := by
  induction laid with
  | clear empty => exact iff_of_true empty rfl
  | manual _ covers => simp [covers.history_eq]
  | automatic _ covers _ beneath ih =>
      exact iff_of_false (by simp [covers.history_eq]) (mt ih.mpr beneath)

end Laid

/-! ## Steps of the machine -/

namespace Machine

variable {machine after : Machine}

/-- A machine stands at one node only. -/
theorem StandsAt.unique {node other : Node} (stands : machine.StandsAt node)
    (again : machine.StandsAt other) : node = other := by
  have same := stands.current.symm.trans again.current
  rw [Option.some.injEq] at same
  have found := stands.found
  rw [same, again.found, Option.some.injEq] at found
  exact found.symm

/-- On a sound graph an accepted completion is a passage out of the node where the machine
stands. -/
theorem Step.passes (sound : machine.graph.IsSound) (course : OnCourse machine.graph machine.run)
    {output : String} {additions : Record} {activation : Option Int} {isAutomatic : Bool}
    (step : machine.Step (.complete output additions activation isAutomatic) after
      (.ok (.verdict .accepted))) :
    ∃ node, machine.StandsAt node ∧ node.allows output = true ∧
      after.run = machine.run.pass machine.graph node ⟨output, additions, isAutomatic⟩ := by
  generalize reached : (Except.ok (.verdict .accepted) : Except Fault Reply) = reply at step
  cases step with
  | ignored => cases reached
  | stale => cases reached
  | undeclared =>
      split at reached
      · cases reached
      · cases reached
  | lost running here _ missing => exact absurd missing (course.found running here)
  | broken stands _ _ dangles => exact absurd dangles (sound.next_ne_error stands.found)
  | finished stands _ allowed ends => exact ⟨_, stands, allowed, by simp only [Run.pass, ends]; rfl⟩
  | moved stands _ allowed leads => exact ⟨_, stands, allowed, by simp only [Run.pass, leads]; rfl⟩

/-- A start that was accepted has entered the graph. -/
theorem Step.enters (step : machine.Step .start after (.ok (.flag true))) :
    after.run = .entering machine.graph.entryId := by
  cases step
  rfl

/-- A start that was refused changes nothing. -/
theorem Step.stays (step : machine.Step .start after (.ok (.flag false))) : after = machine := by
  cases step
  rfl

/-- Going back that gives an entry undoes the step it records. -/
theorem Step.undoes {entry : HistoryEntry}
    (step : machine.Step .goBack after (.ok (.entry (some entry)))) :
    ∃ earlier, machine.run.history = entry :: earlier ∧
      after.run = machine.run.undo entry earlier := by
  cases step with
  | undone behind => exact ⟨_, behind, rfl⟩

/-- Going back that gives nothing found nothing that it could undo. -/
theorem Step.unable (step : machine.Step .goBack after (.ok (.entry none))) :
    machine.run.canGoBack = false := by
  cases step with
  | nothingBehind empty => simp [Run.canGoBack, empty]
  | stuck unable => exact unable

/-- A condition that is completed is one by which the run could go on. -/
theorem Decides.run_decides (sound : machine.graph.IsSound)
    (course : OnCourse machine.graph machine.run) {node : Node} {decision : Decision}
    (decides : machine.Decides node decision after) :
    machine.run.Decides machine.graph node decision ∧
      after.run = machine.run.pass machine.graph node
        ⟨decision.name, decisionData node decision, true⟩ := by
  obtain ⟨other, stands, allowed, passed⟩ := decides.step.passes sound course
  obtain rfl := decides.stands.unique stands
  exact ⟨⟨stands.running, stands.current, stands.found, decides.isCondition, decides.decided,
    decides.resolved, allowed⟩, passed⟩

/-- A machine at rest stands at no condition that can be completed. -/
theorem Rests.not_decides (rests : machine.Rests) {node : Node} {decision : Decision}
    (decides : machine.run.Decides machine.graph node decision) : False := by
  have here : machine.StandsAt node := ⟨decides.running, decides.current, decides.found⟩
  cases rests with
  | ended notRunning => exact notRunning decides.running
  | waiting stands noCondition =>
      obtain rfl := here.unique stands
      rw [decides.isCondition] at noCondition
      cases noCondition
  | unresolved stands undecided =>
      obtain rfl := here.unique stands
      rw [decides.decided, Except.ok.injEq] at undecided
      exact decides.resolved undecided
  | undeclared stands decided hasOutputs missing =>
      obtain rfl := here.unique stands
      rw [decides.decided, Except.ok.injEq] at decided
      subst decided
      have allowed := decides.allowed
      simp [Node.allows, Node.isTerminal, missing, hasOutputs] at allowed

/-- **Completing conditions lays automatic steps on a run**, one for each condition. -/
theorem AutoAdvances.laid {cap : Int} {issued : List Run} {count : Nat}
    (advances : machine.AutoAdvances count after) (sound : machine.graph.IsSound)
    (course : OnCourse machine.graph machine.run)
    (laid : Laid machine.graph cap issued machine.run) :
    Laid machine.graph cap issued after.run ∧ ∃ steps : List HistoryEntry,
      steps.length = count ∧ (∀ entry ∈ steps, entry.isAutomatic = true) ∧
        after.run.history = steps ++ machine.run.history := by
  induction advances with
  | rest => exact ⟨laid, [], rfl, by simp, rfl⟩
  | @advance machine middle after node decision count decides onward ih =>
      obtain ⟨due, passed⟩ := decides.run_decides sound course
      have covers := @Run.covers_pass machine.graph machine.run node
        ⟨decision.name, decisionData node decision, true⟩
        (Record.isTextual_singleton _ _).isMapping due.running due.current
        (laid.unfinished due.running)
      rw [← passed] at covers
      have laidOn := laid.automatic covers rfl (mt laid.data_eq_nil due.data_ne_nil)
      have same := decides.step.graph_eq
      have courseOn := decides.step.onCourse sound course
      rw [← same] at sound laidOn ⊢
      obtain ⟨laidAfter, steps, length, automatic, history⟩ := ih sound courseOn laidOn
      obtain ⟨step, byItself, recorded⟩ : ∃ step : HistoryEntry, step.isAutomatic = true ∧
          middle.run.history = step :: machine.run.history := ⟨_, rfl, decides.history_eq⟩
      refine ⟨laidAfter, steps ++ [step], by simp [length], ?_, ?_⟩
      · rw [List.forall_mem_append, List.forall_mem_singleton]
        exact ⟨automatic, byItself⟩
      · rw [history, recorded, List.append_assoc]
        rfl

end Machine

end GuestFlow
