import GuestFlow.Proofs.Engine.Refusal
import GuestFlow.Proofs.Runner.Settling

/-!
# Calls that raise a fault

A host that sees a fault would like to know that nothing has happened.  That is so for a
strict runner that rejects a completion (`Runner.Rejects`).

It is not so for any other fault.  A call takes effect first and completes conditions
afterwards, and there it can meet a condition that cannot be decided, or data that has no
text by which it could be recognised.  The fault then comes from a runner that has moved, as
far as that condition (`Runner.StallsAfter`).  `raising_calls_reject_or_stall` states that
every call that raises a fault does one or the other, and `Booth.counting_stalls` shows a
completion that is applied although it raises.
-/

set_option autoImplicit false

namespace GuestFlow

namespace Machine

/-- The machine stands at a condition that cannot be settled, because of a fault. -/
inductive Stalls (machine : Machine) (fault : Fault) : Prop where
  /-- The condition cannot be evaluated on the collected data. -/
  | undecidable {node : Node} (stands : machine.StandsAt node)
      (isCondition : node.isCondition = true)
      (fails : Condition.decide node machine.run.data = .error fault)
  /-- The condition is decided, but the collected data has no text. -/
  | textless {node : Node} {decision : Decision} (stands : machine.StandsAt node)
      (isCondition : node.isCondition = true)
      (decided : Condition.decide node machine.run.data = .ok decision)
      (resolved : decision ≠ .unresolved)
      (fails : Json.write .sortedLine (.record machine.run.data) = .error fault)

end Machine

namespace Runner

variable {graph : Graph} {runner after : Runner} {fault : Fault}

/-! ## Settling -/

/-- Looking for a condition to be completed fails only where the machine stalls. -/
theorem stalls_of_prospect (found : runner.prospect = (after, .error fault)) :
    after.machine = runner.machine ∧ runner.machine.Stalls fault := by
  cases looks_of_eq found with
  | undecidable here fails =>
      obtain ⟨stands, isCondition⟩ := standsAt_of_currentCondition? here
      exact ⟨rfl, .undecidable stands isCondition (congrArg (Except.map Prod.fst) fails)⟩
  | @textless node decision _ _ here decided resolved fails =>
      obtain ⟨stands, isCondition⟩ := standsAt_of_currentCondition? here
      have decides : Condition.decide node runner.machine.run.data = .ok decision :=
        congrArg (Except.map Prod.fst) decided
      exact ⟨rfl, .textless stands isCondition decides resolved fails⟩

/-! ## What a call that raises a fault has done -/

/-- The machine is strict and has rejected the call; only the note of the rejection is new. -/
def Rejects (runner : Runner) (call : Call) (after : Runner) (fault : Fault) : Prop :=
  runner.machine.strict = true ∧ ∃ rejection : Rejection, runner.machine.Rejects call rejection ∧
    fault = rejection.fault ∧
    after.machine = { runner.machine with lastRejection := some rejection }

/-- After its own calls of the engine, which took effect, an operation completed conditions, at most
as many as the cap allows, and then came to one where the machine stalls. -/
def StallsAfter (runner : Runner) (own : List Call) (after : Runner) (fault : Fault) : Prop :=
  runner.machine.activation < (runner.machine.play own).activation ∧
    ∃ count : Nat, (count : Int) ≤ max 0 runner.cap ∧
      (runner.machine.play own).AutoAdvances count after.machine ∧ after.machine.Stalls fault

/-- A ready runner that settles with a fault stalls. -/
theorem IsReady.stallsAfter {α : Type} {middle : Runner} {own : List Call} {reply : α}
    (ready : middle.IsReady graph) (sound : graph.IsSound)
    (reached : middle.machine = runner.machine.play own) (sameCap : middle.cap = runner.cap)
    (onward : runner.machine.activation < middle.machine.activation)
    (settled : middle.settleAfter reply = (after, .error fault)) :
    runner.StallsAfter own after fault := by
  have settles := settleAfter_eq_error settled
  obtain ⟨count, within, advances, ends⟩ := settles.autoAdvances sound ready
  rcases ends with ⟨returned, _⟩ | ⟨last, other, found, raised⟩
  · cases returned
  · cases raised
    obtain ⟨same, stalls⟩ := stalls_of_prospect found
    rw [reached] at advances onward
    rw [sameCap] at within
    exact ⟨onward, count, by omega, advances, same ▸ stalls⟩

/-! ## Every operation -/

section Operations

variable (steady : runner.IsSteady graph) (sound : graph.IsSound)
include steady sound

/-- A call that entered the next activation and then settles with a fault stalls. -/
theorem IsSteady.stallsAfter {α : Type} {call : Call} {reply : α}
    (onward : (runner.machine.perform call).machine.activation = runner.machine.activation + 1)
    (settled : (runner.absorb (runner.engine.perform call)).settleAfter reply =
      (after, .error fault)) :
    runner.StallsAfter [call] after fault := by
  have moved := Engine.perform_machine steady.rest call
  have further : runner.machine.activation <
      (runner.engine.perform call).engine.machine.activation := by
    rw [moved, show runner.engine.machine = runner.machine from rfl, onward]
    exact Nat.lt_succ_self _
  exact (steady.called sound onward).stallsAfter sound moved rfl further settled

theorem IsSteady.start_stalls (raised : runner.start = (after, .error fault)) :
    runner.StallsAfter [.start] after fault := by
  cases undertakes_of_start raised with
  | ended told =>
      have step := steady.step .start (congrArg (Except.map Reply.flag) told)
      exact (Machine.Step.start_ne_fault step).elim
  | settled took settles =>
      have step := steady.step .start (congrArg (Except.map Reply.flag) took)
      exact steady.stallsAfter sound step.of_started settles

theorem IsSteady.completeFor_raises {activation : Int} {output : String} {data : Option Record}
    (raised : runner.completeFor activation output data = (after, .error fault)) :
    let call := Call.complete output (data.getD []) (some activation) false
    runner.Rejects call after fault ∨ runner.StallsAfter [call] after fault := by
  dsimp only
  cases undertakes_of_completeFor raised with
  | ended told =>
      have step := steady.step (.complete output (data.getD []) (some activation) false)
        (congrArg (Except.map Reply.verdict) told)
      obtain ⟨strict, rejection, rejects, worded, noted⟩ := step.rejects_of_fault
      exact .inl ⟨strict, rejection, rejects, worded,
        (Engine.perform_machine steady.rest _).trans noted⟩
  | settled took settles =>
      have step := steady.step (.complete output (data.getD []) (some activation) false)
        (congrArg (Except.map Reply.verdict) took)
      exact .inr (steady.stallsAfter sound step.of_accepted.2 settles)

theorem IsSteady.submit_raises {output : String} {data : Option Record}
    (raised : runner.submit output data = (after, .error fault)) :
    ∃ node given additions, runner.machine.StandsAt node ∧
      (runner.resolve node.kind).2.input node output data = some (given, additions) ∧
      let call := Call.complete given (additions.getD []) (some runner.machine.activation) false
      runner.Rejects call after fault ∨ runner.StallsAfter [call] after fault := by
  cases submits_of_eq raised with
  | @handedOn props given additions _ _ _ shown input completed answered =>
      obtain ⟨stands, current⟩ := standsAt_of_props? shown
      rw [current, map_eq_error_iff.mp answered.symm] at completed
      exact ⟨props.node, given, additions, stands, input,
        (steady.resolve props.node.kind).completeFor_raises sound completed⟩

/-- Unwinding raises a fault only over a step that touched more than texts. -/
theorem IsSteady.not_touchesTexts {fuel : Nat} {calls : List Call}
    (unwinds : Unwinds fuel runner calls after (.error fault)) :
    ¬runner.machine.run.TouchesTexts := by
  generalize told : Except.error fault = reply at unwinds
  induction unwinds with
  | ended answer =>
      rw [← told] at answer
      intro texts
      have step := steady.step .goBack (congrArg (Except.map Reply.entry) answer)
      obtain ⟨entry, earlier, fails⟩ := step.undoFails_of_fault
      exact Machine.not_undoFails texts fails
  | stopped => cases told
  | @onward _ runner _ _ _ _ undone _ _ _ ih =>
      intro texts
      have step := steady.step .goBack (congrArg (Except.map Reply.entry) undone)
      have moved : (runner.absorb runner.engine.goBack).machine =
          (runner.machine.perform .goBack).machine := Engine.perform_machine steady.rest .goBack
      refine ih (steady.undo_ready sound undone).1.toIsSteady told ?_
      rw [moved]
      exact step.touchesTexts trivial texts

theorem IsSteady.goBack_stalls (texts : runner.machine.run.TouchesTexts)
    (raised : runner.goBack = (after, .error fault)) :
    ∃ count, runner.StallsAfter (List.replicate (count + 1) .goBack) after fault := by
  cases goesBack_of_eq raised with
  | ended unwinds => exact (steady.not_touchesTexts sound unwinds texts).elim
  | settled unwinds settles =>
      obtain ⟨⟨count, rfl⟩, ready, sameCap, later⟩ := steady.unwind_ready sound unwinds
      have reached := (unwinds.drives.play steady.toIsOrderly).2
      exact ⟨count, ready.stallsAfter sound reached sameCap later settles⟩

end Operations

end Runner

/-- **A call that raises a fault has been rejected, or it has taken effect and stalls.**  On an
accepted definition, from wherever a host may have brought a runner with data under text keys, a
completion that a strict runner rejects changes nothing but the note of the rejection; every other
fault comes from a condition that cannot be settled, after the call has taken effect. -/
theorem raising_calls_reject_or_stall {definition : Definition} {graph : Graph}
    (accepted : Graph.ofDefinition definition = .ok graph) (registry : Registry) (strict : Bool)
    (eventId : String) (cap : Int) (agenda : Option Agenda) (calls : List HostCall)
    (textual : ∀ made ∈ (Runner.create graph registry strict eventId cap agenda).callsMade calls,
      made.IsTextual) :
    let runner := (Runner.create graph registry strict eventId cap agenda).play calls
    (∀ after fault, runner.start = (after, .error fault) →
        runner.StallsAfter [.start] after fault) ∧
      (∀ output data activation after fault,
        runner.complete output data activation = (after, .error fault) →
          let call := Call.complete output (data.getD [])
            (some (activation.getD (runner.machine.activation : Int))) false
          runner.Rejects call after fault ∨ runner.StallsAfter [call] after fault) ∧
      (∀ activation output data after fault,
        runner.completeFor activation output data = (after, .error fault) →
          let call := Call.complete output (data.getD []) (some activation) false
          runner.Rejects call after fault ∨ runner.StallsAfter [call] after fault) ∧
      (∀ output data after fault, runner.submit output data = (after, .error fault) →
        ∃ node given additions, runner.machine.StandsAt node ∧
          (runner.resolve node.kind).2.input node output data = some (given, additions) ∧
          let call := Call.complete given (additions.getD [])
            (some (runner.machine.activation : Int)) false
          runner.Rejects call after fault ∨ runner.StallsAfter [call] after fault) ∧
      ∀ after fault, runner.goBack = (after, .error fault) →
        ∃ count, runner.StallsAfter (List.replicate (count + 1) .goBack) after fault := by
  have sound := Graph.isSound_of_ofDefinition accepted
  have created := @Runner.isSteady_create graph registry strict eventId cap agenda
  have texts : ((Runner.create graph registry strict eventId cap agenda).play
      calls).machine.run.TouchesTexts := by
    rw [((Runner.drives_play _ calls).play created.toIsOrderly).2]
    exact Machine.touchesTexts_play (by intro entry member; cases member) _ textual
  obtain ⟨steady, _⟩ := created.play sound calls
  refine ⟨?_, ?_, ?_, ?_, ?_⟩
  · intro after fault raised
    exact steady.start_stalls sound raised
  · intro output data activation after fault raised
    exact steady.completeFor_raises sound raised
  · intro activation output data after fault raised
    exact steady.completeFor_raises sound raised
  · intro output data after fault raised
    exact steady.submit_raises sound raised
  · intro after fault raised
    exact steady.goBack_stalls sound texts raised

namespace Booth

/-- The booth before a guest whose step is not left sideways. -/
def waiting : Runner := (Runner.create graph Registry.usual true "opening" 3 none).play [.start]

/-- Leaving the first step sideways raises a fault, and the runner stays where it is. -/
theorem sideways_is_rejected :
    let raised := waiting.complete "sideways" none none
    raised.2 = .error (.undeclared "touch" "sideways" ["default"]) ∧
      raised.1.machine.run = waiting.machine.run ∧
      waiting.Rejects (.complete "sideways" [] (some (1 : Int)) false) raised.1
        (.undeclared "touch" "sideways" ["default"]) := by
  have made : (Runner.create graph Registry.usual true "opening" 3 none).callsMade [.start] =
      [.start] := by decide +kernel
  have rule := (raising_calls_reject_or_stall accepted Registry.usual true "opening" 3 none [.start]
    (by simp [made, Call.IsTextual])).2.1
  have raised : (waiting.complete "sideways" none none).2 =
      .error (.undeclared "touch" "sideways" ["default"]) := by decide +kernel
  refine ⟨raised, by decide +kernel, ?_⟩
  rcases rule "sideways" none none _ _ (Prod.ext rfl raised) with rejects | stalls
  · exact rejects
  · -- A runner that stalls has moved on.
    exact absurd stalls.1 (by decide +kernel)

/-- A booth that asks how many copies are wanted only of guests who want more than five. -/
def copies : Definition where
  id := "copies"
  name := "Photo booth"
  description := none
  nodes := [
    ⟨"touch", Kind.touchToStart, "", [], [⟨"default", "", "default", some "many"⟩], false, []⟩,
    ⟨"many", Kind.condition, "", [(.text "field", .text "copies"),
      (.text "operator", .text "gt"), (.text "value", .int 5)],
      [⟨"then", "", "default", some "ask"⟩, ⟨"else", "", "default", some "print"⟩], false, []⟩,
    ⟨"ask", "SELECTION_SCREEN", "", [], [⟨"default", "", "default", some "print"⟩], false, []⟩,
    ⟨"print", "PRINT", "", [], [], false, []⟩]
  version := "1.0.0"
  flowType := none
  metadata := []

/-- A number of copies beyond every float, which no comparison with another number survives.  The
completion raises a fault, but the first step has been left, and the guest stands at the
condition at a new activation. -/
theorem counting_stalls :
    let counting := (Runner.create ⟨copies, [], "touch"⟩ Registry.usual false "opening" 50
      none).play [.start]
    let raised := counting.complete "default" (some [(.text "copies", .int (Nat.pow 10 309))]) none
    Graph.ofDefinition copies = .ok ⟨copies, [], "touch"⟩ ∧
      raised.2 = .error .integerTooLarge ∧
      counting.machine.run.current = some "touch" ∧ counting.machine.activation = 1 ∧
      raised.1.machine.run.current = some "many" ∧ raised.1.machine.activation = 2 ∧
      raised.1.machine.run.history.length = 1 := by
  refine ⟨rfl, ?_⟩
  decide +kernel

end Booth

end GuestFlow
