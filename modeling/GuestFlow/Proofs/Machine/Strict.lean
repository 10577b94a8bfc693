import GuestFlow.Proofs.Engine.Refusal
import GuestFlow.Proofs.Value.Failure

/-!
# Strict and lenient machines

A machine rejects a completion through an output that its node does not declare.  A strict
machine answers with a fault, a lenient one tells that nothing was accepted.  This module
says that there is no other difference: a machine that is made lenient (`Machine.relaxed`)
does by every call what it did when it was strict, and answers the same unless the call
is rejected (`Machine.complete_relaxed`, `Machine.perform_relaxed`).
-/

set_option autoImplicit false

namespace GuestFlow

/-! ## Answers -/

/-- The two answers are one, and it is no rejection. -/
structure Agrees {α : Type} (strict lenient : Except Fault α) : Prop where
  same : lenient = strict
  neverRejects : NeverRejects strict

/-- The two answers are one and no rejection, or the strict one is a rejection and the lenient one
is mild. -/
inductive Softens {α : Type} (mild : α) : Except Fault α → Except Fault α → Prop where
  | same {answer : Except Fault α} (neverRejects : NeverRejects answer) :
      Softens mild answer answer
  | rejected (node output : String) (declared : List String) :
      Softens mild (.error (.undeclared node output declared)) (.ok mild)

section Answers

variable {α β : Type} {strict lenient : Except Fault α}

theorem Agrees.of_ok (result : α) : Agrees (.ok result : Except Fault α) (.ok result) :=
  ⟨rfl, .of_ok result⟩

theorem Agrees.map (agrees : Agrees strict lenient) (change : α → β) :
    Agrees (strict.map change) (lenient.map change) :=
  ⟨congrArg (Except.map change) agrees.same, agrees.neverRejects.map⟩

theorem Agrees.softens (agrees : Agrees strict lenient) (mild : α) :
    Softens mild strict lenient := by
  obtain ⟨rfl, neverRejects⟩ := agrees
  exact .same neverRejects

theorem Softens.map {mild : α} (softens : Softens mild strict lenient) (change : α → β) :
    Softens (change mild) (strict.map change) (lenient.map change) := by
  cases softens with
  | same neverRejects => exact .same neverRejects.map
  | rejected node output declared => exact .rejected node output declared

end Answers

namespace Machine

/-- The machine, made lenient. -/
def relaxed (machine : Machine) : Machine := { machine with strict := false }

/-- A machine and an announcement are what they were, but for strictness. -/
structure Matches {α : Type} (strict lenient : Outcome α) : Prop where
  machine_eq : lenient.machine = strict.machine.relaxed
  announcement_eq : lenient.announcement = strict.announcement

variable (machine : Machine)

@[simp] theorem relaxed_graph : machine.relaxed.graph = machine.graph := rfl

@[simp] theorem relaxed_run : machine.relaxed.run = machine.run := rfl

@[simp] theorem relaxed_isStale (activation : Option Int) :
    machine.relaxed.isStale activation = machine.isStale activation := rfl

@[simp] theorem relaxed_evaluate (node : Option Node) :
    machine.relaxed.evaluate node = machine.evaluate node := rfl

/-! ## Calls -/

theorem start_relaxed :
    Matches machine.start machine.relaxed.start ∧
      Agrees machine.start.reply machine.relaxed.start.reply := by
  unfold start
  rw [relaxed_run]
  by_cases idle : machine.run.status = .idle
  · rw [if_pos idle, if_pos idle]
    exact ⟨⟨rfl, rfl⟩, Agrees.of_ok true⟩
  · rw [if_neg idle, if_neg idle]
    exact ⟨⟨rfl, rfl⟩, Agrees.of_ok false⟩

theorem leave_relaxed (node : Node) (output : String) (additions : Record) (isAutomatic : Bool) :
    Matches (machine.leave node output additions isAutomatic)
        (machine.relaxed.leave node output additions isAutomatic) ∧
      Agrees (machine.leave node output additions isAutomatic).reply
        (machine.relaxed.leave node output additions isAutomatic).reply := by
  unfold leave
  simp only [relaxed_graph, relaxed_run]
  cases machine.graph.next node.id output with
  | error fault => exact ⟨⟨rfl, rfl⟩, Agrees.of_ok Verdict.accepted⟩
  | ok next =>
      cases next with
      | none => exact ⟨⟨rfl, rfl⟩, Agrees.of_ok Verdict.accepted⟩
      | some next => exact ⟨⟨rfl, rfl⟩, Agrees.of_ok Verdict.accepted⟩

theorem reject_relaxed (node : Node) (output : String) :
    Matches (machine.reject node output) (machine.relaxed.reject node output) ∧
      Softens .undeclared (machine.reject node output).reply
        (machine.relaxed.reject node output).reply := by
  unfold reject
  dsimp only [relaxed]
  by_cases strict : machine.strict = true
  · rw [if_pos strict]
    exact ⟨⟨rfl, rfl⟩, .rejected _ _ _⟩
  · rw [if_neg strict]
    exact ⟨⟨rfl, rfl⟩, .same (.of_ok _)⟩

/-- **A completion does the same whether the machine is strict or not**, and is answered the same
unless it is rejected. -/
theorem complete_relaxed (output : String) (additions : Record) (activation : Option Int)
    (isAutomatic : Bool) :
    Matches (machine.complete output additions activation isAutomatic)
        (machine.relaxed.complete output additions activation isAutomatic) ∧
      Softens .undeclared (machine.complete output additions activation isAutomatic).reply
        (machine.relaxed.complete output additions activation isAutomatic).reply := by
  unfold complete
  rw [relaxed_run, relaxed_graph, relaxed_isStale]
  split
  · rename_i current running here
    by_cases stale : machine.isStale activation = true
    · rw [if_pos stale, if_pos stale]
      exact ⟨⟨rfl, rfl⟩, .same (.of_ok _)⟩
    · rw [if_neg stale, if_neg stale]
      cases machine.graph.node? current with
      | none => exact ⟨⟨rfl, rfl⟩, .same (.of_ok Verdict.accepted)⟩
      | some node =>
          dsimp only
          by_cases allowed : node.allows output = true
          · rw [if_pos allowed, if_pos allowed]
            have left := machine.leave_relaxed node output additions isAutomatic
            exact ⟨left.1, left.2.softens _⟩
          · rw [if_neg allowed, if_neg allowed]
            exact machine.reject_relaxed node output
  · exact ⟨⟨rfl, rfl⟩, .same (.of_ok _)⟩

theorem goBack_relaxed :
    Matches machine.goBack machine.relaxed.goBack ∧
      Agrees machine.goBack.reply machine.relaxed.goBack.reply := by
  unfold goBack
  rw [relaxed_run]
  cases machine.run.history with
  | nil => exact ⟨⟨rfl, rfl⟩, .of_ok _⟩
  | cons entry earlier =>
      by_cases able : machine.run.canGoBack = true
      · dsimp only
        rw [if_pos able, if_pos able]
        cases ordered : sortWith Value.isBelow entry.touched.keys with
        | error fault =>
            have neverRejects := sortWith_fails Value.isBelow_neverRejects entry.touched.keys
            exact ⟨⟨rfl, rfl⟩, rfl, .of_error (neverRejects fault ordered)⟩
        | ok restored => exact ⟨⟨rfl, rfl⟩, .of_ok _⟩
      · dsimp only
        rw [if_neg able, if_neg able]
        exact ⟨⟨rfl, rfl⟩, .of_ok _⟩

theorem evaluate_neverRejects (node : Option Node) : NeverRejects (machine.evaluate node) := by
  unfold evaluate
  split
  · exact .of_error rfl
  · exact Condition.evaluate_neverRejects _ _

theorem perform_evaluate_relaxed :
    Matches (machine.perform .evaluate) (machine.relaxed.perform .evaluate) ∧
      Agrees (machine.perform .evaluate).reply (machine.relaxed.perform .evaluate).reply := by
  have evaluated := machine.evaluate_neverRejects none
  unfold perform
  simp only [relaxed_evaluate]
  cases found : machine.evaluate none with
  | error fault => exact ⟨⟨rfl, rfl⟩, rfl, .of_error (evaluated fault found)⟩
  | ok answer => exact ⟨⟨rfl, rfl⟩, .of_ok _⟩

/-- **A call does the same whether the machine is strict or not**, and is answered the same unless
it is a completion that is rejected. -/
theorem perform_relaxed (call : Call) :
    Matches (machine.perform call) (machine.relaxed.perform call) ∧
      Softens (.verdict .undeclared) (machine.perform call).reply
        (machine.relaxed.perform call).reply := by
  cases call with
  | start =>
      obtain ⟨⟨same, announced⟩, agrees⟩ := machine.start_relaxed
      exact ⟨⟨same, announced⟩, (agrees.map Reply.flag).softens _⟩
  | complete output additions activation isAutomatic =>
      obtain ⟨⟨same, announced⟩, softens⟩ :=
        machine.complete_relaxed output additions activation isAutomatic
      exact ⟨⟨same, announced⟩, softens.map Reply.verdict⟩
  | goBack =>
      obtain ⟨⟨same, announced⟩, agrees⟩ := machine.goBack_relaxed
      exact ⟨⟨same, announced⟩, (agrees.map Reply.entry).softens _⟩
  | reset => exact ⟨⟨rfl, rfl⟩, (Agrees.of_ok Reply.nothing).softens _⟩
  | evaluate =>
      obtain ⟨same, agrees⟩ := machine.perform_evaluate_relaxed
      exact ⟨same, agrees.softens _⟩

/-- Only completions are rejected, and a rejection leaves its note and nothing else. -/
theorem noted_of_rejected {call : Call} {node output : String} {declared : List String}
    (rejected : (machine.perform call).reply = .error (.undeclared node output declared)) :
    (∃ given additions activation isAutomatic,
        call = .complete given additions activation isAutomatic) ∧
      (machine.perform call).machine =
        { machine with lastRejection := some ⟨node, output, declared⟩ } := by
  cases call with
  | start => cases (machine.start_relaxed.2.map Reply.flag).neverRejects _ rejected
  | complete given additions activation isAutomatic =>
      have step := machine.step_perform (.complete given additions activation isAutomatic)
      rw [rejected] at step
      obtain ⟨_, rejection, _, worded, noted⟩ := step.rejects_of_fault
      cases worded
      exact ⟨⟨given, additions, activation, isAutomatic, rfl⟩, noted⟩
  | goBack => cases (machine.goBack_relaxed.2.map Reply.entry).neverRejects _ rejected
  | reset => cases rejected
  | evaluate => cases machine.perform_evaluate_relaxed.2.neverRejects _ rejected

end Machine

end GuestFlow
