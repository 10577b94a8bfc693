import GuestFlow.Proofs.Machine.Later
import GuestFlow.Proofs.Machine.Strict
import GuestFlow.Proofs.Runner.Driving

/-!
# Translations

Two runners can do the same and yet look different: the one counts its activations from
another number, or reports a rejection in another way.  A `Translation` says how the machine
of the one looks, given that of the other, and carries the laws that make this a difference
of looks: a translated machine does by a translated call the translation of what the machine
does.

The laws are about single calls of a machine.  From them follows the same about runners
without an agenda, whatever a host does with them (`Translation.Relates.play`): they settle
alike, note the same conditions, make the same calls of their engines and answer alike.
-/

set_option autoImplicit false

namespace GuestFlow

/-! ## Replies -/

/-- The second reply is the first one, or tells mildly that the first one is a rejection.  Where
rejections are softened, every rejection is. -/
inductive Retells {α : Type} (softens : Bool) (mild : α) :
    Except Fault α → Except Fault α → Prop where
  | same {reply : Except Fault α} (told : softens = true → NeverRejects reply) :
      Retells softens mild reply reply
  | softened (soft : softens = true) (node output : String) (declared : List String) :
      Retells softens mild (.error (.undeclared node output declared)) (.ok mild)

section Replies

variable {α β : Type} {softens : Bool} {first second : Except Fault α}

theorem Retells.of_ok (mild result : α) : Retells softens mild (.ok result) (.ok result) :=
  .same fun _ => .of_ok result

theorem Agrees.retells (agrees : Agrees first second) (mild : α) :
    Retells softens mild first second := by
  obtain ⟨rfl, neverRejects⟩ := agrees
  exact .same fun _ => neverRejects

theorem Retells.map {mild : α} (retells : Retells softens mild first second) (change : α → β) :
    Retells softens (change mild) (first.map change) (second.map change) := by
  cases retells with
  | same told => exact .same fun soft => (told soft).map
  | softened soft node output declared => exact .softened soft node output declared

theorem map_injective {change : α → β} (injective : Function.Injective change) :
    Function.Injective (Except.map change : Except Fault α → Except Fault β) := by
  intro first second same
  cases first with
  | error fault => exact (map_eq_error_iff.mp same.symm).symm
  | ok result =>
      obtain ⟨other, found, changed⟩ := map_eq_ok_iff.mp same.symm
      rw [found, injective changed]

/-- What retells a changed reply does so without the change. -/
theorem Retells.of_map {change : α → β} (injective : Function.Injective change) {mild : α}
    (retells : Retells softens (change mild) (first.map change) (second.map change)) :
    Retells softens mild first second := by
  generalize one : first.map change = told at retells
  generalize other : second.map change = toldSecond at retells
  cases retells with
  | same neverRejects =>
      rw [map_injective injective (other.trans one.symm)]
      refine .same fun soft fault failed => ?_
      rw [failed] at one
      exact neverRejects soft fault one.symm
  | softened soft node output declared =>
      rw [map_eq_error_iff.mp one]
      obtain ⟨result, found, changed⟩ := map_eq_ok_iff.mp other
      rw [found, injective changed]
      exact .softened soft node output declared

/-- A reply that is no rejection is retold as it is. -/
theorem Retells.agrees {change : α → β} (injective : Function.Injective change) {mild : β}
    (retells : Retells softens mild (first.map change) (second.map change))
    (neverRejects : NeverRejects first) : Agrees first second := by
  generalize one : first.map change = told at retells
  generalize other : second.map change = toldSecond at retells
  cases retells with
  | same => exact ⟨map_injective injective (other.trans one.symm), neverRejects⟩
  | softened => cases neverRejects _ (map_eq_error_iff.mp one)

end Replies

/-! ## Larger tokens -/

/-- The call of the host with a token, if it names one, that is larger by so many activations. -/
def HostCall.later (tokens : Nat) : HostCall → HostCall
  | .complete output data activation =>
    .complete output data (activation.map fun token => token + tokens)
  | .completeKept activation output data => .completeKept (activation + tokens) output data
  | .direct call => .direct (call.later tokens)
  | call => call

theorem HostCall.later_zero (call : HostCall) : call.later 0 = call := by
  cases call with
  | complete output data activation => cases activation <;> simp [later]
  | completeKept => simp [later]
  | direct call => simp [later, Call.later_zero]
  | _ => rfl

def Guard.later (tokens : Nat) (guard : Guard) : Guard :=
  { guard with activation := guard.activation + tokens }

theorem Guard.later_injective (tokens : Nat) : Function.Injective (Guard.later tokens) := by
  intro first second same
  obtain ⟨node, activation, data⟩ := first
  obtain ⟨other, token, text⟩ := second
  simp only [later, Guard.mk.injEq] at same ⊢
  exact ⟨same.1, Nat.add_right_cancel same.2.1, same.2.2⟩

def Props.later (tokens : Nat) (props : Props) : Props :=
  { props with activation := props.activation + tokens }

namespace Runner

def Prospect.later (tokens : Nat) (prospect : Prospect) : Prospect :=
  { prospect with guard := prospect.guard.later tokens }

@[simp] theorem Prospect.node_later (tokens : Nat) (prospect : Prospect) :
    (prospect.later tokens).node = prospect.node := rfl

@[simp] theorem Prospect.decision_later (tokens : Nat) (prospect : Prospect) :
    (prospect.later tokens).decision = prospect.decision := rfl

@[simp] theorem conditionData_later (tokens : Nat) (prospect : Prospect) :
    conditionData (prospect.later tokens) = conditionData prospect := rfl

end Runner

/-! ## Translations -/

/-- How a second machine looks, given a first one. -/
structure Translation where
  machine : Machine → Machine
  event : Event → Event
  /-- By how many activations the tokens of the second machine are larger. -/
  tokens : Nat
  /-- Whether the second machine tells mildly what the first one rejects. -/
  softens : Bool
  /-- How the registries of two runners may differ. -/
  registries : Registry → Registry → Prop
  run_eq : ∀ first, (machine first).run = first.run
  graph_eq : ∀ first, (machine first).graph = first.graph
  activation_eq : ∀ first, (machine first).activation = first.activation + tokens
  kind_eq : ∀ told, (event told).kind = told.kind
  machine_perform : ∀ first call,
    ((machine first).perform (call.later tokens)).machine = machine (first.perform call).machine
  announcement_perform : ∀ first call,
    ((machine first).perform (call.later tokens)).announcement =
      (first.perform call).announcement.map event
  reply_perform : ∀ first call, Retells softens (.verdict .undeclared) (first.perform call).reply
    ((machine first).perform (call.later tokens)).reply
  resolve : ∀ {first second} kind, registries first second →
    registries (first.resolve kind).1 (second.resolve kind).1 ∧
      (second.resolve kind).2.2.1 = (first.resolve kind).2.2.1
  register : ∀ {first second} kind renderer, registries first second →
    registries (first.register kind renderer).1 (second.register kind renderer).1

namespace Translation

variable (translation : Translation)

/-- A translated machine announces the translated events. -/
theorem announced_eq (machine : Machine) (calls : List Call) :
    (translation.machine machine).announced (calls.map (Call.later translation.tokens)) =
      (machine.announced calls).map translation.event := by
  induction calls generalizing machine with
  | nil => rfl
  | cons call calls ih =>
      simp only [List.map_cons, Machine.announced, translation.announcement_perform,
        translation.machine_perform, ih, List.map_append]
      cases (machine.perform call).announcement <;> rfl

/-- Two runners without an agenda, the second of which looks like a translation of the first. -/
structure Relates (first second : Runner) : Prop where
  rest : first.engine.active = none
  restSecond : second.engine.active = none
  machine_eq : second.machine = translation.machine first.machine
  registries : translation.registries first.registry second.registry
  eventId_eq : second.eventId = first.eventId
  cap_eq : second.cap = first.cap
  guards_eq : second.guards = first.guards.map (Guard.later translation.tokens)
  isFinished_eq : second.isFinished = first.isFinished
  noAgenda : first.agenda = none
  noAgendaSecond : second.agenda = none

/-- Two runners come out related, and so do their replies; meanwhile they have made the same calls
of their engines. -/
structure ComesOut {α : Type} (related : Except Fault α → Except Fault α → Prop)
    (first second : Runner × Except Fault α) (made madeSecond : List Call) : Prop where
  relates : translation.Relates first.1 second.1
  related : related first.2 second.2
  calls_eq : madeSecond = made.map (Call.later translation.tokens)

variable {translation}

/-- Two runners fail with one fault, which is no rejection, or return one value. -/
theorem ComesOut.split {α : Type} {first second : Runner × Except Fault α}
    {made madeSecond : List Call}
    (out : translation.ComesOut Agrees first second made madeSecond) :
    (∃ after afterSecond fault, translation.Relates after afterSecond ∧
        fault.isRejection = false ∧
        first = (after, .error fault) ∧ second = (afterSecond, .error fault)) ∨
      ∃ after afterSecond value, translation.Relates after afterSecond ∧
        first = (after, .ok value) ∧ second = (afterSecond, .ok value) := by
  obtain ⟨after, reply⟩ := first
  obtain ⟨afterSecond, replySecond⟩ := second
  obtain ⟨relates, ⟨same, neverRejects⟩, _⟩ := out
  dsimp only at relates same neverRejects
  subst same
  cases replySecond with
  | error fault =>
      exact .inl ⟨after, afterSecond, fault, relates, neverRejects fault rfl, rfl, rfl⟩
  | ok value => exact .inr ⟨after, afterSecond, value, relates, rfl, rfl⟩

end Translation

/-! ## Runners without an agenda -/

namespace Runner

/-- Without an agenda there is nothing to stop. -/
theorem cancelRendering_of_noAgenda {runner : Runner} (noAgenda : runner.agenda = none) :
    runner.cancelRendering = { runner with rendering := none } := by
  obtain ⟨engine, registry, eventId, cap, guards, isFinished, agenda, rendering⟩ := runner
  cases noAgenda
  cases rendering with
  | none => rfl
  | some id => rfl

/-- Without an agenda nothing is rendered. -/
theorem render_of_noAgenda {runner : Runner} (noAgenda : runner.agenda = none) :
    runner.render = { runner with rendering := none } := by
  have cancelled := cancelRendering_of_noAgenda noAgenda
  unfold render
  dsimp only
  rw [cancelled]
  dsimp only
  rw [noAgenda]
  split
  · rename_i nothing
    cases nothing
  · rfl

/-- The prospect of a condition that is decided. -/
def decidedProspect (runner : Runner) (node : Node) (decision : Decision) :
    Runner × Except Fault (Option Prospect) :=
  match runner.dataText with
  | .error fault => (runner, .error fault)
  | .ok data =>
    let guard : Guard := ⟨node.id, runner.machine.activation, data⟩
    (runner, .ok (if runner.guards.contains guard then none else some ⟨node, decision, guard⟩))

theorem prospect_eq (runner : Runner) :
    runner.prospect =
      match runner.currentCondition? with
      | none => (runner, .ok none)
      | some node =>
        match runner.machine.evaluate (some node) with
        | .error fault => (runner, .error fault)
        | .ok (.unresolved, journal) => (runner.log journal, .ok none)
        | .ok (decision, journal) =>
          (runner.log journal).pruneGuards.decidedProspect node decision := by
  unfold Runner.prospect
  rfl

end Runner

namespace Translation.Relates

variable {translation : Translation} {first second : Runner}
  (relates : translation.Relates first second)
include relates

/-! ## What both runners see -/

theorem run_eq : second.machine.run = first.machine.run := by
  rw [relates.machine_eq, translation.run_eq]

theorem activation_eq :
    second.machine.activation = first.machine.activation + translation.tokens := by
  rw [relates.machine_eq, translation.activation_eq]

theorem currentNode_eq : second.machine.currentNode = first.machine.currentNode := by
  unfold Machine.currentNode
  rw [relates.run_eq, relates.machine_eq, translation.graph_eq]

theorem currentCondition?_eq : second.currentCondition? = first.currentCondition? := by
  unfold Runner.currentCondition? Runner.status
  rw [relates.currentNode_eq, relates.run_eq]

theorem props?_eq : second.props? = first.props?.map (Props.later translation.tokens) := by
  unfold Runner.props? Runner.status
  rw [relates.currentNode_eq, relates.run_eq, relates.activation_eq, relates.eventId_eq]
  split
  · rfl
  · rfl

theorem evaluate_eq (node : Option Node) :
    second.machine.evaluate node = first.machine.evaluate node := by
  unfold Machine.evaluate
  rw [relates.currentNode_eq, relates.run_eq]

theorem dataText_eq : second.dataText = first.dataText := by
  unfold Runner.dataText
  rw [relates.run_eq]

/-- The same conditions were tried. -/
theorem contains_eq (guard : Guard) :
    second.guards.contains (guard.later translation.tokens) = first.guards.contains guard := by
  rw [relates.guards_eq, Bool.eq_iff_iff, List.contains_iff_mem, List.contains_iff_mem,
    List.mem_map_of_injective (Guard.later_injective _)]

/-! ## What leaves both engines alone -/

theorem log (journal other : Journal) : translation.Relates (first.log journal) (second.log other) :=
  { relates with }

theorem noting (prospect : Runner.Prospect) :
    translation.Relates (first.noting prospect)
      (second.noting (prospect.later translation.tokens)) :=
  { relates with
    guards_eq := congrArg (List.cons (prospect.guard.later translation.tokens)) relates.guards_eq }

theorem pruneGuards : translation.Relates first.pruneGuards second.pruneGuards := by
  have current : ∀ token : Nat, (token + translation.tokens == second.machine.activation) =
      (token == first.machine.activation) := by
    intro token
    rw [relates.activation_eq, Bool.eq_iff_iff, beq_iff_eq, beq_iff_eq]
    omega
  refine { relates with guards_eq := ?_ }
  unfold Runner.pruneGuards
  dsimp only
  rw [relates.guards_eq, List.filter_map]
  exact congrArg _ (List.filter_congr fun guard _ => current guard.activation)

theorem onAgenda (change other : Agenda → Agenda) :
    translation.Relates (first.onAgenda change) (second.onAgenda other) :=
  { relates with
    noAgenda := by simp [Runner.onAgenda, relates.noAgenda]
    noAgendaSecond := by simp [Runner.onAgenda, relates.noAgendaSecond] }

theorem resolve (kind : String) :
    translation.Relates (first.resolve kind).1 (second.resolve kind).1 ∧
      (second.resolve kind).2 = (first.resolve kind).2 :=
  have resolved := translation.resolve kind relates.registries
  ⟨{ relates with registries := resolved.1 }, resolved.2⟩

theorem cancelRendering : translation.Relates first.cancelRendering second.cancelRendering := by
  rw [Runner.cancelRendering_of_noAgenda relates.noAgenda,
    Runner.cancelRendering_of_noAgenda relates.noAgendaSecond]
  exact { relates with }

theorem render : translation.Relates first.render second.render := by
  rw [Runner.render_of_noAgenda relates.noAgenda, Runner.render_of_noAgenda relates.noAgendaSecond]
  exact { relates with }

/-! ## Calls of the engine -/

/-- **A call of the engine leaves two runners related**, whoever listens to either of them. -/
theorem called (call : Call) :
    translation.Relates (first.absorb (first.engine.perform call))
      (second.absorb (second.engine.perform (call.later translation.tokens))) := by
  have moved := translation.machine_perform first.machine call
  have announced := translation.announcement_perform first.machine call
  rw [← relates.machine_eq] at moved announced
  refine { relates with
    rest := Engine.perform_active relates.rest call
    restSecond := Engine.perform_active relates.restSecond _
    machine_eq := ?_
    isFinished_eq := ?_ }
  · calc (second.engine.perform (call.later translation.tokens)).engine.machine
        = (second.machine.perform (call.later translation.tokens)).machine :=
          Engine.perform_machine relates.restSecond _
      _ = translation.machine (first.machine.perform call).machine := moved
      _ = translation.machine (first.engine.perform call).engine.machine := by
          rw [Engine.perform_machine relates.rest call]
          rfl
  · have told : (second.engine.perform (call.later translation.tokens)).announcement =
        (first.engine.perform call).announcement.map translation.event := by
      rw [Engine.perform_announcement relates.restSecond, Engine.perform_announcement relates.rest]
      exact announced
    unfold Runner.absorb
    dsimp only
    rw [told, relates.isFinished_eq]
    cases (first.engine.perform call).announcement with
    | none => rfl
    | some event =>
        simp only [Option.map_some, Runner.finishedAfter, translation.kind_eq]

theorem perform_reply (call : Call) :
    Retells translation.softens (.verdict .undeclared) (first.engine.perform call).reply
      (second.engine.perform (call.later translation.tokens)).reply := by
  have retells := translation.reply_perform first.machine call
  rw [← relates.machine_eq] at retells
  rw [Engine.perform_reply relates.rest, Engine.perform_reply relates.restSecond]
  exact retells

theorem start_reply : Agrees first.engine.start.reply second.engine.start.reply := by
  have neverRejects := first.machine.start_relaxed.2.neverRejects
  refine Retells.agrees (fun _ _ same => Reply.flag.inj same) (relates.perform_reply .start) ?_
  rw [Engine.start_reply relates.rest]
  exact neverRejects

theorem complete_reply (output : String) (additions : Record) (activation : Option Int)
    (isAutomatic : Bool) :
    Retells translation.softens .undeclared
      (first.engine.complete output additions activation isAutomatic).reply
      (second.engine.complete output additions
        (activation.map fun token => token + translation.tokens) isAutomatic).reply :=
  Retells.of_map (fun _ _ same => Reply.verdict.inj same)
    (relates.perform_reply (.complete output additions activation isAutomatic))

theorem goBack_reply : Agrees first.engine.goBack.reply second.engine.goBack.reply := by
  have neverRejects := first.machine.goBack_relaxed.2.neverRejects
  refine Retells.agrees (fun _ _ same => Reply.entry.inj same) (relates.perform_reply .goBack) ?_
  rw [Engine.goBack_reply relates.rest]
  exact neverRejects

/-! ## Settling -/

theorem decidedProspect (node : Node) (decision : Decision) :
    (∃ fault, fault.isRejection = false ∧
        first.decidedProspect node decision = (first, .error fault) ∧
        second.decidedProspect node decision = (second, .error fault)) ∨
      ∃ found, first.decidedProspect node decision = (first, .ok found) ∧
        second.decidedProspect node decision =
          (second, .ok (found.map (Runner.Prospect.later translation.tokens))) := by
  have written : NeverRejects first.dataText := Json.write_neverRejects _ _
  unfold Runner.decidedProspect
  rw [relates.dataText_eq]
  cases text : first.dataText with
  | error fault => exact .inl ⟨fault, written fault text, rfl, rfl⟩
  | ok data =>
      have tried := relates.contains_eq ⟨node.id, first.machine.activation, data⟩
      unfold Guard.later at tried
      dsimp only at tried ⊢
      rw [relates.activation_eq, tried]
      refine .inr ⟨_, rfl, ?_⟩
      split
      · rfl
      · rfl

/-- Both runners come to the same condition, or to none, or fail alike. -/
theorem prospect :
    (∃ after afterSecond fault, translation.Relates after afterSecond ∧
        fault.isRejection = false ∧
        first.prospect = (after, .error fault) ∧ second.prospect = (afterSecond, .error fault)) ∨
      ∃ after afterSecond found, translation.Relates after afterSecond ∧
        first.prospect = (after, .ok found) ∧
        second.prospect =
          (afterSecond, .ok (found.map (Runner.Prospect.later translation.tokens))) := by
  have evaluated := first.machine.evaluate_neverRejects
  rw [Runner.prospect_eq, Runner.prospect_eq, relates.currentCondition?_eq]
  cases first.currentCondition? with
  | none => exact .inr ⟨first, second, none, relates, rfl, rfl⟩
  | some node =>
      dsimp only
      rw [relates.evaluate_eq]
      cases found : first.machine.evaluate (some node) with
      | error fault =>
          exact .inl ⟨first, second, fault, relates, evaluated (some node) fault found, rfl, rfl⟩
      | ok answer =>
          obtain ⟨decision, journal⟩ := answer
          have pruned := (relates.log journal journal).pruneGuards
          cases decision with
          | unresolved =>
              exact .inr ⟨_, _, none, relates.log journal journal, rfl, rfl⟩
          | holds | fails =>
              rcases pruned.decidedProspect node _ with
                ⟨fault, noRejection, one, other⟩ | ⟨found, one, other⟩
              · exact .inl ⟨_, _, fault, pruned, noRejection, one, other⟩
              · exact .inr ⟨_, _, found, pruned, one, other⟩

theorem completionOf_eq (prospect : Runner.Prospect) :
    second.completionOf (prospect.later translation.tokens) =
      (first.completionOf prospect).later translation.tokens := by
  unfold Runner.completionOf
  rw [relates.activation_eq]
  rfl

/-- A condition is completed for both runners, or for neither. -/
theorem advance (prospect : Runner.Prospect) :
    translation.ComesOut Agrees (first.advance prospect)
      (second.advance (prospect.later translation.tokens)) [first.completionOf prospect]
      [second.completionOf (prospect.later translation.tokens)] := by
  have retells : Retells translation.softens .undeclared
      (first.engine.complete prospect.decision.name (Runner.conditionData prospect)
        (some (first.machine.activation : Int)) true).reply
      (second.engine.complete prospect.decision.name (Runner.conditionData prospect)
        (some ((first.machine.activation + translation.tokens : Nat) : Int)) true).reply :=
    relates.complete_reply prospect.decision.name (Runner.conditionData prospect)
      (some (first.machine.activation : Int)) true
  have called := (relates.noting prospect).called (first.completionOf prospect)
  have calls := congrArg (fun call => [call]) (relates.completionOf_eq prospect)
  rw [Runner.advance_eq, Runner.advance_eq, relates.activation_eq]
  simp only [Runner.Prospect.node_later, Runner.Prospect.decision_later, Runner.conditionData_later]
  generalize (first.engine.complete prospect.decision.name (Runner.conditionData prospect)
    (some (first.machine.activation : Int)) true).reply = told at retells ⊢
  generalize (second.engine.complete prospect.decision.name (Runner.conditionData prospect)
    (some ((first.machine.activation + translation.tokens : Nat) : Int)) true).reply = toldSecond
    at retells ⊢
  cases retells with
  | softened soft node output declared =>
      -- The first runner catches the fault and notes it; for both the condition is not completed.
      exact ⟨{ called with }, Agrees.of_ok false, calls⟩
  | same =>
      split
      · exact ⟨called, Agrees.of_ok _, calls⟩
      · exact ⟨called.log _ _, Agrees.of_ok false, calls⟩
      · rename_i fault other _
        refine ⟨called, ⟨rfl, .of_error ?_⟩, calls⟩
        cases fault with
        | undeclared node output declared => exact (other node output declared rfl).elim
        | _ => rfl

/-- **Conditions are completed for both runners**, and completing them raises no rejection. -/
theorem settleConditions (remaining done : Nat) :
    translation.ComesOut Agrees (Runner.settleConditions remaining done first)
      (Runner.settleConditions remaining done second) (Runner.conditionCalls remaining first)
      (Runner.conditionCalls remaining second) := by
  induction remaining generalizing first second done with
  | zero =>
      unfold Runner.settleConditions Runner.conditionCalls
      rcases relates.prospect with
        ⟨after, afterSecond, fault, onward, noRejection, found, foundSecond⟩ |
        ⟨after, afterSecond, found?, onward, found, foundSecond⟩
      · rw [found, foundSecond]
        exact ⟨onward, ⟨rfl, .of_error noRejection⟩, rfl⟩
      · rw [found, foundSecond]
        cases found? with
        | none => exact ⟨onward, .of_ok (), rfl⟩
        | some prospect => exact ⟨onward.log _ _, .of_ok (), rfl⟩
  | succ remaining ih =>
      unfold Runner.settleConditions Runner.conditionCalls
      rcases relates.prospect with
        ⟨after, afterSecond, fault, onward, noRejection, found, foundSecond⟩ |
        ⟨after, afterSecond, found?, onward, found, foundSecond⟩
      · rw [found, foundSecond]
        exact ⟨onward, ⟨rfl, .of_error noRejection⟩, rfl⟩
      · rw [found, foundSecond]
        cases found? with
        | none => exact ⟨onward, .of_ok (), rfl⟩
        | some prospect =>
            have advanced := onward.advance prospect
            have made := advanced.calls_eq
            dsimp only [Option.map_some]
            rcases advanced.split with
              ⟨last, lastSecond, fault, further, noRejection, went, wentSecond⟩ |
              ⟨last, lastSecond, worked, further, went, wentSecond⟩
            · rw [went, wentSecond]
              exact ⟨further, ⟨rfl, .of_error noRejection⟩, made⟩
            · rw [went, wentSecond]
              cases worked with
              | false => exact ⟨further, .of_ok (), made⟩
              | true =>
                  obtain ⟨settled, agrees, calls⟩ := ih further (done + 1)
                  exact ⟨settled, agrees, congrArg₂ List.append made calls⟩

theorem settle : translation.ComesOut Agrees first.settle second.settle first.settleCalls
    second.settleCalls := by
  have settled := relates.settleConditions first.cap.toNat 0
  have made := settled.calls_eq
  unfold Runner.settle Runner.settleCalls
  rw [relates.cap_eq]
  rcases settled.split with
    ⟨after, afterSecond, fault, onward, noRejection, one, other⟩ |
    ⟨after, afterSecond, _, onward, one, other⟩
  · rw [one, other]
    exact ⟨onward, ⟨rfl, .of_error noRejection⟩, made⟩
  · rw [one, other]
    exact ⟨onward.render, .of_ok (), made⟩

theorem settleAfter {α : Type} (reply : α) :
    translation.ComesOut Agrees (first.settleAfter reply) (second.settleAfter reply)
      first.settleCalls second.settleCalls := by
  have made := relates.settle.calls_eq
  unfold Runner.settleAfter
  rcases relates.settle.split with
    ⟨after, afterSecond, fault, onward, noRejection, one, other⟩ |
    ⟨after, afterSecond, _, onward, one, other⟩
  · rw [one, other]
    exact ⟨onward, ⟨rfl, .of_error noRejection⟩, made⟩
  · rw [one, other]
    exact ⟨onward, .of_ok reply, made⟩

/-! ## Operations -/

theorem start : translation.ComesOut Agrees first.start second.start first.startCalls
    second.startCalls := by
  obtain ⟨same, neverRejects⟩ := relates.start_reply
  have called := relates.called .start
  unfold Runner.start Runner.startCalls
  dsimp only
  rw [same]
  generalize first.engine.start.reply = reply at neverRejects ⊢
  match reply with
  | .error fault => exact ⟨called, ⟨rfl, neverRejects⟩, rfl⟩
  | .ok false => exact ⟨called, .of_ok false, rfl⟩
  | .ok true =>
      obtain ⟨settled, agrees, calls⟩ := called.settleAfter true
      exact ⟨settled, agrees, congrArg (List.cons Call.start) calls⟩

/-- Both runners settle after a completion, or neither does. -/
theorem completeFor (activation : Int) (output : String) (data : Option Record) :
    translation.ComesOut (Retells translation.softens .undeclared)
      (first.completeFor activation output data)
      (second.completeFor (activation + translation.tokens) output data)
      (first.completeForCalls activation output data)
      (second.completeForCalls (activation + translation.tokens) output data) := by
  have retells : Retells translation.softens .undeclared
      (first.engine.complete output (data.getD []) (some activation) false).reply
      (second.engine.complete output (data.getD [])
        (some (activation + translation.tokens)) false).reply :=
    relates.complete_reply output (data.getD []) (some activation) false
  have called := relates.called (.complete output (data.getD []) (some activation) false)
  unfold Runner.completeFor Runner.completeForCalls
  dsimp only
  generalize (first.engine.complete output (data.getD []) (some activation) false).reply = told
    at retells ⊢
  generalize (second.engine.complete output (data.getD [])
    (some (activation + translation.tokens)) false).reply = toldSecond at retells ⊢
  cases retells with
  | softened soft node output declared =>
      exact ⟨called, .softened soft node output declared, rfl⟩
  | same neverRejects =>
      match told with
      | .error fault => exact ⟨called, .same neverRejects, rfl⟩
      | .ok .accepted =>
          obtain ⟨settled, agrees, calls⟩ := called.settleAfter Verdict.accepted
          exact ⟨settled, agrees.retells _, congrArg (List.cons _) calls⟩
      | .ok .ignored | .ok .stale | .ok .undeclared => exact ⟨called, .same neverRejects, rfl⟩

/-- Where no token is named, both runners name the token of their own activation. -/
theorem getD_eq (activation : Option Int) :
    (activation.map fun token => token + (translation.tokens : Int)).getD
        second.machine.activation =
      activation.getD first.machine.activation + translation.tokens := by
  rw [relates.activation_eq]
  cases activation <;> rfl

theorem submit (output : String) (data : Option Record) :
    translation.ComesOut (Retells translation.softens (.verdict .undeclared))
      (first.submit output data) (second.submit output data) (first.submitCalls output data)
      (second.submitCalls output data) := by
  unfold Runner.submit Runner.submitCalls
  rw [relates.props?_eq]
  cases first.props? with
  | none => exact ⟨relates.log _ _, .of_ok _ _, rfl⟩
  | some props =>
      obtain ⟨resolved, same⟩ := relates.resolve props.node.kind
      dsimp only [Option.map_some, Props.later]
      rw [same]
      cases (first.resolve props.node.kind).2.input props.node output data with
      | none => exact ⟨resolved, .of_ok _ _, rfl⟩
      | some completion =>
          obtain ⟨onward, retells, calls⟩ :=
            resolved.completeFor props.activation completion.1 completion.2
          exact ⟨onward, retells.map Runner.Submission.verdict, calls⟩

theorem unwind (fuel : Nat) :
    translation.ComesOut Agrees (Runner.unwind fuel first) (Runner.unwind fuel second)
      (Runner.unwindCalls fuel first) (Runner.unwindCalls fuel second) := by
  induction fuel using Nat.strong_induction_on generalizing first second with
  | h fuel ih =>
      obtain ⟨same, neverRejects⟩ := relates.goBack_reply
      have called : translation.Relates (first.absorb first.engine.goBack)
          (second.absorb second.engine.goBack) := relates.called .goBack
      unfold Runner.unwind Runner.unwindCalls
      dsimp only
      rw [same]
      generalize first.engine.goBack.reply = reply at neverRejects ⊢
      cases reply with
      | error fault => exact ⟨called, ⟨rfl, neverRejects⟩, rfl⟩
      | ok entry? =>
          cases entry? with
          | none => exact ⟨called, .of_ok none, rfl⟩
          | some entry =>
              cases fuel with
              | zero => exact ⟨called, .of_ok (some entry), rfl⟩
              | succ fuel =>
                  dsimp only
                  rw [called.run_eq]
                  by_cases onward : (entry.isAutomatic &&
                      (first.absorb first.engine.goBack).machine.run.canGoBack) = true
                  · rw [if_pos onward, if_pos onward, if_pos onward, if_pos onward]
                    obtain ⟨settled, agrees, calls⟩ := ih fuel (Nat.lt_succ_self fuel) called
                    exact ⟨settled, agrees, congrArg (List.cons Call.goBack) calls⟩
                  · rw [if_neg onward, if_neg onward, if_neg onward, if_neg onward]
                    exact ⟨called, .of_ok (some entry), rfl⟩

theorem goBack : translation.ComesOut Agrees first.goBack second.goBack first.goBackCalls
    second.goBackCalls := by
  have unwound := relates.unwind first.machine.run.history.length
  have made := unwound.calls_eq
  unfold Runner.goBack Runner.goBackCalls
  rw [relates.run_eq]
  dsimp only
  rcases unwound.split with
    ⟨after, afterSecond, fault, onward, noRejection, one, other⟩ |
    ⟨after, afterSecond, entry?, onward, one, other⟩
  · rw [one, other]
    exact ⟨onward, ⟨rfl, .of_error noRejection⟩, by simp [made]⟩
  · rw [one, other]
    cases entry? with
    | none => exact ⟨onward, .of_ok none, by simp [made]⟩
    | some entry =>
        obtain ⟨settled, agrees, calls⟩ := onward.settleAfter (some entry)
        exact ⟨settled, agrees, by simp [made, calls]⟩

theorem reset : translation.Relates first.reset second.reset := by
  have cancelled := relates.cancelRendering
  have cleared : translation.Relates { first.cancelRendering with guards := [] }
      { second.cancelRendering with guards := [] } :=
    { cancelled with guards_eq := rfl }
  exact cleared.called .reset

theorem register (kind : String) (renderer : Renderer) :
    translation.Relates (first.register kind renderer) (second.register kind renderer) :=
  { relates with registries := translation.register kind renderer relates.registries }

theorem subscribe (name : String) (listener : Listener) :
    translation.Relates (first.withEngine (first.engine.subscribe name listener))
      (second.withEngine (second.engine.subscribe name listener)) :=
  { relates with }

theorem unsubscribe (name : String) :
    translation.Relates (first.withEngine (first.engine.unsubscribe name))
      (second.withEngine (second.engine.unsubscribe name)) := by
  refine { relates with rest := ?_, restSecond := ?_, machine_eq := ?_ }
  · exact (first.engine.unsubscribe_active name).trans relates.rest
  · exact (second.engine.unsubscribe_active name).trans relates.restSecond
  · rw [show (second.withEngine (second.engine.unsubscribe name)).machine = second.machine from
        second.engine.unsubscribe_machine name,
      show (first.withEngine (first.engine.unsubscribe name)).machine = first.machine from
        first.engine.unsubscribe_machine name]
    exact relates.machine_eq

/-- Without an agenda no errand is served. -/
theorem serve : translation.Relates (first.serve.getD first) (second.serve.getD second) := by
  unfold Runner.serve
  rw [relates.noAgenda, relates.noAgendaSecond]
  exact relates

theorem elapse (deadline : Option Binary64) :
    translation.Relates (first.elapse deadline) (second.elapse deadline) := by
  have nobody : ∀ runner : Runner, runner.agenda = none → runner.nextWaking? deadline = none := by
    intro runner noAgenda
    simp [Runner.nextWaking?, noAgenda]
  unfold Runner.elapse
  rw [nobody first relates.noAgenda, nobody second relates.noAgendaSecond]
  cases deadline with
  | none => exact relates
  | some moment => exact relates.onAgenda _ _

/-! ## Calls of a host -/

/-- **A call of a host leaves two runners related.** -/
theorem perform (call : HostCall) :
    translation.Relates (first.perform call) (second.perform (call.later translation.tokens)) := by
  cases call with
  | start => exact relates.start.relates
  | complete output data activation =>
      change translation.Relates (first.completeFor _ output data).1
        (second.completeFor _ output data).1
      rw [relates.getD_eq]
      exact (relates.completeFor _ output data).relates
  | completeKept activation output data => exact (relates.completeFor activation output data).relates
  | submit output data => exact (relates.submit output data).relates
  | goBack => exact relates.goBack.relates
  | reset => exact relates.reset
  | settle => exact relates.settle.relates
  | direct call => exact relates.called call
  | subscribe name listener => exact relates.subscribe name listener
  | unsubscribe name => exact relates.unsubscribe name
  | register kind renderer => exact relates.register kind renderer
  | serve => exact relates.serve
  | elapse deadline => exact relates.elapse deadline

theorem play (calls : List HostCall) :
    translation.Relates (first.play calls)
      (second.play (calls.map (HostCall.later translation.tokens))) := by
  induction calls generalizing first second with
  | nil => exact relates
  | cons call calls ih => exact ih (relates.perform call)

/-- **Two related runners answer alike.** -/
theorem answer (call : HostCall) :
    Retells translation.softens (.flag false) (first.answer call)
      (second.answer (call.later translation.tokens)) := by
  cases call with
  | start => exact (relates.start.related.map Reply.flag).retells _
  | complete output data activation =>
      change Retells _ _ ((first.completeFor _ output data).2.map _)
        ((second.completeFor _ output data).2.map _)
      rw [relates.getD_eq]
      exact (relates.completeFor _ output data).related.map fun verdict =>
        Reply.flag verdict.isAccepted
  | completeKept activation output data =>
      exact (relates.completeFor activation output data).related.map fun verdict =>
        Reply.flag verdict.isAccepted
  | submit output data =>
      exact (relates.submit output data).related.map fun submission =>
        Reply.flag submission.isAccepted
  | goBack => exact (relates.goBack.related.map Reply.entry).retells _
  | settle => exact (relates.settle.related.map fun _ => Reply.nothing).retells _
  | direct call => exact (relates.perform_reply call).map Reply.shown
  | reset | subscribe | unsubscribe | register | serve | elapse => exact .of_ok _ _

/-! ## What is announced -/

/-- Two related runners make the same calls of their engines. -/
theorem callsOf_eq (call : HostCall) :
    second.callsOf (call.later translation.tokens) =
      (first.callsOf call).map (Call.later translation.tokens) := by
  cases call with
  | start => exact relates.start.calls_eq
  | complete output data activation =>
      change second.completeForCalls _ output data = _
      rw [relates.getD_eq]
      exact (relates.completeFor _ output data).calls_eq
  | completeKept activation output data =>
      exact (relates.completeFor activation output data).calls_eq
  | submit output data => exact (relates.submit output data).calls_eq
  | goBack => exact relates.goBack.calls_eq
  | settle => exact relates.settle.calls_eq
  | serve =>
      change second.serveCalls = first.serveCalls.map _
      unfold Runner.serveCalls
      rw [relates.noAgenda, relates.noAgendaSecond]
      rfl
  | reset | direct | subscribe | unsubscribe | register | elapse => rfl

theorem callsMade_eq (calls : List HostCall) :
    second.callsMade (calls.map (HostCall.later translation.tokens)) =
      (first.callsMade calls).map (Call.later translation.tokens) := by
  induction calls generalizing first second with
  | nil => rfl
  | cons call calls ih =>
      simp only [List.map_cons, Runner.callsMade, List.map_append]
      rw [relates.callsOf_eq, ih (relates.perform call)]

/-- **Two related runners announce the same events**, but for their looks. -/
theorem announced (calls : List HostCall) :
    second.announced (calls.map (HostCall.later translation.tokens)) =
      (first.announced calls).map translation.event := by
  unfold Runner.announced
  rw [relates.callsMade_eq, relates.machine_eq, translation.announced_eq]

end Translation.Relates

end GuestFlow
