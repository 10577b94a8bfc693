import GuestFlow.Proofs.Machine.Walk
import GuestFlow.Proofs.Runner.Driving

/-!
# Tokens of engines and runners

Engines and runners use every activation at most once (`tokens_are_used_once`), whoever
holds it: a rendering, props that were kept, or a client far away.  Nothing that they do
goes past the machine, so its discipline is theirs.
-/

set_option autoImplicit false

namespace GuestFlow

/-- The exchanges of a run of calls of an engine. -/
def Engine.exchanges (engine : Engine) : List Call → List Exchange
  | [] => []
  | call :: calls =>
    let report := engine.perform call
    ⟨engine.machine, call, report.reply, report.engine.machine⟩ :: report.engine.exchanges calls

/-- An engine at rest has the exchanges that its machine has. -/
theorem Engine.exchanges_eq {engine : Engine} (rest : engine.active = none) (calls : List Call) :
    engine.exchanges calls = engine.machine.exchanges calls := by
  induction calls generalizing engine with
  | nil => rfl
  | cons call calls ih =>
      dsimp only [Engine.exchanges, Machine.exchanges]
      rw [ih (perform_active rest call), perform_machine rest, perform_reply rest]

/-- A completion for an activation that is not the current one is turned down, and the machine stays
as it is. -/
theorem Machine.complete_of_ne {machine : Machine} {token : Int}
    (late : token ≠ machine.activation) (output : String) (additions : Record)
    (isAutomatic : Bool) :
    (machine.complete output additions (some token) isAutomatic).machine = machine ∧
      ∃ verdict : Verdict,
        (machine.complete output additions (some token) isAutomatic).reply = .ok verdict ∧
          verdict.isAccepted = false := by
  have stale : machine.isStale (some token) = true := by simpa [isStale] using late
  unfold complete
  split
  · rw [if_pos stale]
    exact ⟨rfl, .stale, rfl, rfl⟩
  · exact ⟨rfl, .ignored, rfl, rfl⟩

namespace Runner

/-- A completion through props of a stay that has ended is turned down and settles nothing. -/
theorem completeFor_of_ne {runner : Runner} (rest : runner.engine.active = none) {token : Int}
    (late : token ≠ runner.machine.activation) (output : String) (data : Option Record) :
    (runner.completeFor token output data).1.machine = runner.machine ∧
      ∃ verdict : Verdict, (runner.completeFor token output data).2 = .ok verdict ∧
        verdict.isAccepted = false := by
  obtain ⟨kept, verdict, told, refused⟩ :=
    Machine.complete_of_ne late output (data.getD []) false
  have moved := Engine.perform_machine rest (.complete output (data.getD []) (some token) false)
  have replied :=
    (Engine.complete_reply rest output (data.getD []) (some token) false).trans told
  have different : (.ok verdict : Except Fault Verdict) ≠ .ok .accepted := by
    rintro same
    cases same
    cases refused
  obtain ⟨after_eq, reply_eq⟩ :=
    (runner.undertakes_completeFor token output data).of_without replied different
  rw [after_eq, reply_eq]
  exact ⟨moved.trans kept, verdict, rfl, refused⟩

end Runner

/-- **Activation tokens are used at most once and never come back.**  This holds for every run of an
engine with any listeners, and for every run of a runner with all the calls that it makes of its
engine: for its host, for renderings, for props that were kept and for conditions.  Through props of
a stay that has ended a runner is not moved. -/
theorem tokens_are_used_once (graph : Graph) (registry : Registry) (strict : Bool)
    (eventId : String) (cap : Int) (agenda : Option Agenda) (calls : List HostCall) :
    let runner := Runner.create graph registry strict eventId cap agenda
    let made := runner.callsMade calls
    let final := runner.play calls
    (∀ engine : Engine, engine.active = none → ∀ engineCalls,
        KeepsTokens (engine.exchanges engineCalls)) ∧
      final.machine = runner.machine.play made ∧ KeepsTokens (runner.machine.exchanges made) ∧
      ∀ token output data, token ≠ (final.machine.activation : Int) →
        (final.completeFor token output data).1.machine = final.machine ∧
          ∃ verdict : Verdict, (final.completeFor token output data).2 = .ok verdict ∧
            verdict.isAccepted = false := by
  dsimp only
  have orderly := Runner.isOrderly_create graph registry strict eventId cap agenda
  generalize Runner.create graph registry strict eventId cap agenda = runner at orderly
  obtain ⟨orderlyAfter, played⟩ := (runner.drives_play calls).play orderly
  refine ⟨?_, played, Machine.keepsTokens _ _, ?_⟩
  · intro engine rest engineCalls
    rw [Engine.exchanges_eq rest]
    exact Machine.keepsTokens _ _
  · intro token output data late
    exact Runner.completeFor_of_ne orderlyAfter.rest late output data

namespace Booth

/-- Two guests, one after the other, and props of the first one that are still used. -/
def guests : List HostCall := [
  .start,
  .completeKept 1 "default" (some [(.text "more", .bool true)]),
  .completeKept 1 "default" none,
  .direct (.complete "then" [] (some 5) false),
  .reset,
  .start,
  .completeKept 1 "default" none,
  .goBack,
  .submit "default" none]

/-- Three conditions are completed for the first guest, and its token is refused twice. -/
theorem guests_use_tokens_once :
    let made := runner.callsMade guests
    let final := runner.play guests
    (runner.machine.exchanges made).map (fun exchange => exchange.before.activation) =
        [0, 1, 2, 3, 4, 5, 5, 6, 7, 8, 8, 8] ∧
      final.machine.activation = 9 ∧ KeepsTokens (runner.machine.exchanges made) ∧
      KeepsTokens (final.engine.exchanges visit) ∧
      (final.completeFor 1 "default" none).1.machine = final.machine := by
  obtain ⟨engines, -, kept, refused⟩ :=
    tokens_are_used_once graph Registry.usual false "opening" 3 none guests
  exact ⟨by decide +kernel, by decide +kernel, kept, engines _ (by decide +kernel) visit,
    (refused 1 "default" none (by decide +kernel)).1⟩

end Booth

end GuestFlow
