import GuestFlow.Proofs.Fallible
import GuestFlow.Proofs.Machine.Token
import GuestFlow.Proofs.Runner.Driving

/-!
# Settling in parts

A runner settles up to its cap, and it can be made to settle once more.  What it completes in two
parts, it completes in one with the sum of the two caps (`settling_composes`).

Nothing is carried from one part to the next but the conditions that were tried, and of these only
the ones of the current activation matter (`Runner.SettlesLike`).  That is enough: a condition
that was rejected has been noted, so the second part does not try it again
(`Runner.prospect_of_refused`), and a condition before which the cap was reached has not
been noted, so the second part begins with it.
-/

set_option autoImplicit false

namespace GuestFlow

/-- A completion that is not accepted leaves of the machine all but the note of a rejection. -/
theorem Engine.machine_of_refused {engine : Engine} (rest : engine.active = none) (output : String)
    (additions : Record) (activation : Option Int) (isAutomatic : Bool)
    (refused : (engine.complete output additions activation isAutomatic).reply ≠ .ok .accepted) :
    ∃ rejection, (engine.complete output additions activation isAutomatic).engine.machine =
      { engine.machine with lastRejection := rejection } := by
  have moved : (engine.complete output additions activation isAutomatic).engine.machine =
      (engine.machine.complete output additions activation isAutomatic).machine :=
    Engine.perform_machine rest (.complete output additions activation isAutomatic)
  have step := engine.machine.step_complete output additions activation isAutomatic
  rw [Engine.complete_reply rest] at refused
  rw [moved]
  refine (step.of_refused fun accepted => refused ?_).1
  obtain ⟨verdict, replied, same⟩ := map_eq_ok_iff.mp accepted
  cases same
  exact replied

namespace Runner

/-- Both runners settle in the same way, up to their caps: they have the same engine, and tried the
same conditions at its activation. -/
structure SettlesLike (one other : Runner) : Prop where
  engine_eq : other.engine = one.engine
  tried_eq : other.pruneGuards.guards = one.pruneGuards.guards
  isFinished_eq : other.isFinished = one.isFinished

namespace SettlesLike

variable {one other third : Runner}

theorem refl (runner : Runner) : runner.SettlesLike runner := ⟨rfl, rfl, rfl⟩

theorem symm (alike : one.SettlesLike other) : other.SettlesLike one :=
  ⟨alike.engine_eq.symm, alike.tried_eq.symm, alike.isFinished_eq.symm⟩

theorem trans (first : one.SettlesLike other) (second : other.SettlesLike third) :
    one.SettlesLike third :=
  ⟨second.engine_eq.trans first.engine_eq, second.tried_eq.trans first.tried_eq,
    second.isFinished_eq.trans first.isFinished_eq⟩

theorem of_guards_eq (engine_eq : other.engine = one.engine) (guards_eq : other.guards = one.guards)
    (isFinished_eq : other.isFinished = one.isFinished) : one.SettlesLike other := by
  refine ⟨engine_eq, ?_, isFinished_eq⟩
  unfold pruneGuards machine
  rw [guards_eq, engine_eq]

theorem machine_eq (alike : one.SettlesLike other) : other.machine = one.machine :=
  congrArg Engine.machine alike.engine_eq

end SettlesLike

variable {runner middle after one other : Runner} {prospect : Prospect}

/-! ## Prospects -/

theorem settlesLike_log (runner : Runner) (journal : Journal) :
    runner.SettlesLike (runner.log journal) := .of_guards_eq rfl rfl rfl

theorem settlesLike_pruneGuards (runner : Runner) : runner.SettlesLike runner.pruneGuards := by
  refine ⟨rfl, ?_, rfl⟩
  unfold pruneGuards machine
  simp

/-- Looking for a condition to be completed changes nothing that matters. -/
theorem Looks.settlesLike {reply : Except Fault (Option Prospect)}
    (looks : runner.Looks after reply) : runner.SettlesLike after := by
  cases looks with
  | away | undecidable => exact .refl runner
  | unresolved => exact runner.settlesLike_log _
  | textless | tried | found =>
      exact (runner.settlesLike_log _).trans (settlesLike_pruneGuards _)

/-- Runners that settle alike find the same condition. -/
theorem SettlesLike.prospect_reply (alike : one.SettlesLike other) :
    other.prospect.2 = one.prospect.2 := by
  have same := alike.machine_eq
  have here : other.currentCondition? = one.currentCondition? := by
    simp only [currentCondition?, status, same]
  have written (journal : Journal) : (other.log journal).pruneGuards.dataText =
      (one.log journal).pruneGuards.dataText :=
    congrArg (fun machine : Machine => Json.write .sortedLine (.record machine.run.data)) same
  have tried (journal : Journal) : (other.log journal).pruneGuards.guards =
      (one.log journal).pruneGuards.guards := alike.tried_eq
  have current (journal : Journal) : (other.log journal).pruneGuards.machine =
      (one.log journal).pruneGuards.machine := same
  unfold Runner.prospect
  rw [here, same]
  cases one.currentCondition? with
  | none => rfl
  | some node =>
      dsimp only
      cases one.machine.evaluate (some node) with
      | error fault => rfl
      | ok evaluated =>
          obtain ⟨decision, journal⟩ := evaluated
          cases decision with
          | unresolved => rfl
          | holds | fails =>
              dsimp only
              rw [written, tried, current]
              split
              · rfl
              · rfl

/-- A prospect is the current condition with its decision, and was not tried. -/
theorem prospect_eq_some (found : runner.prospect = (after, .ok (some prospect))) :
    ∃ journal data, runner.currentCondition? = some prospect.node ∧
      runner.machine.evaluate (some prospect.node) = .ok (prospect.decision, journal) ∧
      prospect.decision ≠ .unresolved ∧ runner.dataText = .ok data ∧
      prospect.guard = ⟨prospect.node.id, runner.machine.activation, data⟩ ∧
      after = (runner.log journal).pruneGuards := by
  cases looks_of_eq found with
  | found here decided resolved written =>
      exact ⟨_, _, here, decided, resolved, written, rfl, rfl⟩

/-- Once a condition was found, the conditions tried at earlier activations are forgotten. -/
theorem SettlesLike.guards_of_prospect {left right : Runner} {second : Prospect}
    (alike : one.SettlesLike other) (foundOne : one.prospect = (left, .ok (some prospect)))
    (foundOther : other.prospect = (right, .ok (some second))) : right.guards = left.guards := by
  obtain ⟨_, _, _, _, _, _, _, rfl⟩ := prospect_eq_some foundOne
  obtain ⟨_, _, _, _, _, _, _, rfl⟩ := prospect_eq_some foundOther
  exact alike.tried_eq

/-- A condition that was tried is no prospect. -/
theorem prospect_of_tried {node : Node} {decision : Decision} {journal : Journal} {data : String}
    (here : runner.currentCondition? = some node)
    (evaluated : runner.machine.evaluate (some node) = .ok (decision, journal))
    (written : runner.dataText = .ok data)
    (tried : ⟨node.id, runner.machine.activation, data⟩ ∈ runner.guards) :
    runner.prospect.2 = .ok none := by
  have writtenStill : (runner.log journal).pruneGuards.dataText = .ok data := written
  have triedStill : (⟨node.id, (runner.log journal).pruneGuards.machine.activation, data⟩ : Guard) ∈
      (runner.log journal).pruneGuards.guards :=
    List.mem_filter.mpr ⟨tried, beq_self_eq_true _⟩
  unfold Runner.prospect
  rw [here]
  dsimp only
  rw [evaluated]
  cases decision with
  | unresolved => rfl
  | holds | fails =>
      dsimp only
      rw [writtenStill]
      dsimp only
      rw [if_pos (List.contains_iff_mem.mpr triedStill)]

/-! ## Completions -/

/-- What a completion does and replies is a matter of the engine. -/
theorem advance_congr (engine_eq : other.engine = one.engine)
    (guards_eq : other.guards = one.guards) (isFinished_eq : other.isFinished = one.isFinished)
    (prospect : Prospect) :
    (other.advance prospect).2 = (one.advance prospect).2 ∧
      (one.advance prospect).1.SettlesLike (other.advance prospect).1 := by
  have same : other.machine = one.machine := congrArg Engine.machine engine_eq
  have absorbed {α : Type} (report : Report α) : ((one.noting prospect).absorb report).SettlesLike
      ((other.noting prospect).absorb report) :=
    .of_guards_eq rfl (congrArg (prospect.guard :: ·) guards_eq)
      (congrArg (finishedAfter · report.announcement) isFinished_eq)
  rw [advance_eq, advance_eq, engine_eq, same]
  dsimp only
  split
  · exact ⟨rfl, absorbed _⟩
  · exact ⟨rfl, ((settlesLike_log _ _).symm.trans (absorbed _)).trans (settlesLike_log _ _)⟩
  · exact ⟨rfl, absorbed _⟩

/-- An engine at rest is at rest again after a completion. -/
theorem rest_of_advance (rest : runner.engine.active = none) (prospect : Prospect) :
    (runner.advance prospect).1.engine.active = none := by
  have resting := Engine.perform_active rest (runner.completionOf prospect)
  rw [advance_eq]
  dsimp only
  split
  · exact resting
  · exact resting
  · exact resting

/-- A completion that did not work has been noted, and of the machine only the note of a rejection
is new. -/
theorem refused_of_advance (rest : runner.engine.active = none)
    (stopped : runner.advance prospect = (after, .ok false)) :
    after.guards = prospect.guard :: runner.guards ∧
      ∃ rejection, after.machine = { runner.machine with lastRejection := rejection } := by
  have still := Engine.machine_of_refused rest prospect.decision.name (conditionData prospect)
    (some (runner.machine.activation : Int)) true
  rw [advance_eq] at stopped
  dsimp only at stopped
  split at stopped
  · rename_i verdict told
    cases verdict with
    | accepted => cases stopped
    | ignored | stale | undeclared =>
        cases stopped
        exact ⟨rfl, still (by simp [told])⟩
  · rename_i told
    cases stopped
    exact ⟨rfl, still (by simp [told])⟩
  · cases stopped

/-- **A condition that was rejected is not tried again.** -/
theorem prospect_of_refused (rest : runner.engine.active = none)
    (found : runner.prospect = (middle, .ok (some prospect)))
    (stopped : middle.advance prospect = (after, .ok false)) : after.prospect.2 = .ok none := by
  obtain ⟨journal, data, here, evaluated, _, written, guard_eq, rfl⟩ := prospect_eq_some found
  obtain ⟨guarded, rejection, same⟩ :=
    @refused_of_advance (runner.log journal).pruneGuards after prospect rest stopped
  have still : after.machine = { runner.machine with lastRejection := rejection } := same
  refine @prospect_of_tried after prospect.node prospect.decision journal data ?_ ?_ ?_ ?_
  · rw [← here]
    simp only [currentCondition?, status, still, Machine.currentNode]
  · rw [still]
    exact evaluated
  · unfold dataText
    rw [still]
    exact written
  · rw [guarded, guard_eq, still]
    exact List.mem_cons_self ..

/-- Looking for a condition leaves the engine at rest. -/
theorem rest_of_prospect (rest : runner.engine.active = none)
    {reply : Except Fault (Option Prospect)} (found : runner.prospect = (after, reply)) :
    after.engine.active = none := by
  have same := runner.looks.settlesLike.engine_eq
  rw [found] at same
  exact (congrArg Engine.active same).trans rest

/-! ## The loop -/

/-- Runners that settle alike complete the same conditions. -/
theorem SettlesLike.settleConditions (alike : one.SettlesLike other) (remaining done again : Nat) :
    (Runner.settleConditions remaining again other).2 =
        (Runner.settleConditions remaining done one).2 ∧
      (Runner.settleConditions remaining done one).1.SettlesLike
        (Runner.settleConditions remaining again other).1 := by
  induction remaining using Nat.strongRecOn generalizing one other done again with
  | ind remaining ih =>
      have replies := alike.prospect_reply
      have between := (one.looks.settlesLike.symm.trans alike).trans other.looks.settlesLike
      unfold Runner.settleConditions
      rcases foundOne : one.prospect with ⟨left, reply⟩
      rcases foundOther : other.prospect with ⟨right, replyOther⟩
      rw [foundOne, foundOther] at replies between
      dsimp only at replies between
      subst replies
      rcases replyOther with fault | _ | prospect
      · exact ⟨rfl, between⟩
      · exact ⟨rfl, between⟩
      · cases remaining with
        | zero =>
            exact ⟨rfl, ((settlesLike_log _ _).symm.trans between).trans (settlesLike_log _ _)⟩
        | succ remaining =>
            obtain ⟨answers, onward⟩ := advance_congr between.engine_eq
              (alike.guards_of_prospect foundOne foundOther) between.isFinished_eq prospect
            dsimp only
            rcases wentOne : left.advance prospect with ⟨leftLast, worked⟩
            rcases wentOther : right.advance prospect with ⟨rightLast, workedOther⟩
            rw [wentOne, wentOther] at answers onward
            dsimp only at answers onward
            subst answers
            rcases workedOther with fault | _ | _
            · exact ⟨rfl, onward⟩
            · exact ⟨rfl, onward⟩
            · exact ih remaining (Nat.lt_succ_self remaining) onward _ _

/-- Where nothing is found to be completed, settling changes nothing that matters. -/
theorem settleConditions_of_prospect (nothing : runner.prospect.2 = .ok none)
    (remaining done : Nat) :
    settleConditions remaining done runner = (runner.prospect.1, .ok ()) ∧
      conditionCalls remaining runner = [] := by
  cases found : runner.prospect with
  | mk middle reply =>
      rw [found] at nothing
      cases nothing
      constructor
      · unfold settleConditions
        rw [found]
      · cases remaining with
        | zero => rfl
        | succ remaining =>
            unfold conditionCalls
            rw [found]

/-- Whether the cap keeps a runner from completing a condition that is left. -/
def capStops : Nat → Runner → Bool
  | remaining, runner =>
    match runner.prospect with
    | (runner, .ok (some prospect)) =>
      match remaining with
      | 0 => true
      | remaining + 1 =>
        match runner.advance prospect with
        | (runner, .ok true) => capStops remaining runner
        | _ => false
    | _ => false

/-- The cap stops a runner only after as many completions as it allows. -/
theorem length_of_capStops {remaining : Nat} (stops : capStops remaining runner = true) :
    (conditionCalls remaining runner).length = remaining := by
  induction remaining generalizing runner with
  | zero => rfl
  | succ remaining ih =>
      unfold capStops at stops
      unfold conditionCalls
      rcases found : runner.prospect with ⟨between, fault | _ | prospect⟩ <;> rw [found] at stops
      · cases stops
      · cases stops
      · dsimp only at stops ⊢
        rcases went : between.advance prospect with ⟨last, fault | _ | _⟩ <;> rw [went] at stops
        · cases stops
        · cases stops
        · exact congrArg Nat.succ (ih stops)

/-- **Unless the cap stopped it, settling leaves nothing to be completed.** -/
theorem Settles.prospect_reply {remaining done : Nat} {calls : List Call}
    (settles : Settles remaining done runner calls after (.ok ()))
    (rest : runner.engine.active = none) (free : capStops remaining runner = false) :
    after.prospect.2 = .ok none := by
  generalize told : Except.ok () = reply at settles
  induction settles with
  | failed | raised => cases told
  | nothing found =>
      have again := (looks_of_eq found).settlesLike.prospect_reply
      rwa [found] at again
  | capped found =>
      unfold capStops at free
      rw [found] at free
      cases free
  | refused found went => exact prospect_of_refused rest found went
  | @advanced _ _ _ middle _ _ prospect _ _ found went _ ih =>
      unfold capStops at free
      rw [found] at free
      dsimp only at free
      rw [went] at free
      have restingStill := rest_of_advance (rest_of_prospect rest found) prospect
      rw [went] at restingStill
      exact ih restingStill free told

/-- **What is completed in two parts is completed in one.** -/
theorem Settles.add {first second done again : Nat} {last : Runner} {calls more : List Call}
    (settles : Settles first done runner calls middle (.ok ()))
    (rest : runner.engine.active = none) (alike : middle.SettlesLike other)
    (settlesAgain : Settles second again other more last (.ok ())) :
    ∃ once, settleConditions (first + second) done runner = (once, .ok ()) ∧
      once.SettlesLike last := by
  -- Where the first part leaves nothing, the second one completes nothing.
  have ended (nothing : middle.prospect.2 = .ok none) : middle.SettlesLike last := by
    have stopped := (settleConditions_of_prospect
      (alike.prospect_reply.trans nothing) second again).1
    rw [settlesAgain.eq] at stopped
    cases stopped
    exact alike.trans other.looks.settlesLike
  generalize told : Except.ok () = reply at settles
  induction settles with
  | failed | raised => cases told
  | nothing found =>
      have looked := (looks_of_eq found).settlesLike
      have nothing := looked.prospect_reply
      rw [found] at nothing
      exact ⟨_, (Settles.nothing found).eq, ended nothing⟩
  | capped found =>
      -- The second part begins with the condition before which the first one stopped.
      have whole := (looks_of_eq found).settlesLike.trans ((settlesLike_log _ _).trans alike)
      obtain ⟨answers, reaches⟩ := whole.settleConditions second _ again
      rw [settlesAgain.eq] at answers reaches
      rw [Nat.zero_add]
      exact ⟨_, Prod.ext rfl answers.symm, reaches⟩
  | refused found went =>
      rw [Nat.succ_add]
      exact ⟨_, (Settles.refused found went).eq, ended (prospect_of_refused rest found went)⟩
  | @advanced _ _ _ _ _ _ prospect _ _ found went _ ih =>
      have restingStill := rest_of_advance (rest_of_prospect rest found) prospect
      rw [went] at restingStill
      obtain ⟨once, whole, same⟩ := ih restingStill alike ended told
      rw [Nat.succ_add]
      exact ⟨once, (Settles.advanced found went (settles_of_eq whole)).eq, same⟩

/-! ## Settling -/

/-- The runner with another cap. -/
def capped (runner : Runner) (cap : Int) : Runner := { runner with cap }

theorem settlesLike_capped (runner : Runner) (cap : Int) : runner.SettlesLike (runner.capped cap) :=
  .of_guards_eq rfl rfl rfl

theorem settlesLike_render (runner : Runner) : runner.SettlesLike runner.render := by
  have cancelled : runner.SettlesLike runner.cancelRendering := by
    unfold cancelRendering
    split
    · exact .refl runner
    · exact .of_guards_eq rfl rfl rfl
  unfold render
  dsimp only
  split
  · exact cancelled.trans (.of_guards_eq rfl rfl rfl)
  · exact cancelled

/-- Settling is completing conditions, and what is rendered afterwards does not matter. -/
theorem settle_capped (runner : Runner) (cap : Int) :
    (runner.capped cap).settle.2 = (settleConditions cap.toNat 0 runner).2 ∧
      (settleConditions cap.toNat 0 runner).1.SettlesLike (runner.capped cap).settle.1 := by
  obtain ⟨replies, alike⟩ := (runner.settlesLike_capped cap).settleConditions cap.toNat 0 0
  unfold settle
  rw [show (runner.capped cap).cap = cap from rfl]
  split
  · rename_i found
    rw [found] at replies alike
    exact ⟨replies, alike.trans (settlesLike_render _)⟩
  · rename_i found
    rw [found] at replies alike
    exact ⟨replies, alike⟩

end Runner

/-- **Settling in two parts is settling in one with the sum of the caps.**  From wherever a host may
have brought a runner, if it settles up to one cap and then up to another, its engine is in the end
the one that it has after settling once up to their sum: with the same run, events, activation and
latest rejection.  The cap stops a runner only after as many completions as it allows.  Unless it
did, a runner that has settled settles again without a call of its engine, even if the condition
where it rests was rejected. -/
theorem settling_composes (graph : Graph) (registry : Registry) (strict : Bool) (eventId : String)
    (cap : Int) (agenda : Option Agenda) (calls : List HostCall) {first : Nat} {middle : Runner}
    (settled : (((Runner.create graph registry strict eventId cap agenda).play calls).capped
      first).settle = (middle, .ok ())) :
    let runner := (Runner.create graph registry strict eventId cap agenda).play calls
    (∀ (second : Nat) (after : Runner), (middle.capped second).settle = (after, .ok ()) →
      ∃ once, (runner.capped (first + second : Nat)).settle = (once, .ok ()) ∧
        once.engine = after.engine ∧ once.isFinished = after.isFinished) ∧
    (Runner.capStops first runner = true → (Runner.conditionCalls first runner).length = first) ∧
    (Runner.capStops first runner = false → ∀ again : Int,
      (middle.capped again).settleCalls = [] ∧
        ∃ after, (middle.capped again).settle = (after, .ok ()) ∧
          after.engine = middle.engine ∧ after.isFinished = middle.isFinished) := by
  have orderly := ((Runner.drives_play _ calls).play
    (Runner.isOrderly_create graph registry strict eventId cap agenda)).1
  generalize (Runner.create graph registry strict eventId cap agenda).play calls = runner
    at settled orderly ⊢
  obtain ⟨told, alike⟩ := runner.settle_capped first
  rw [settled] at told alike
  rw [Int.toNat_natCast] at told alike
  have completed : Runner.settleConditions first 0 runner = (_, .ok ()) := Prod.ext rfl told.symm
  refine ⟨fun second after settledAgain => ?_, Runner.length_of_capStops, fun free again => ?_⟩
  · obtain ⟨toldAgain, alikeAgain⟩ := middle.settle_capped second
    rw [settledAgain] at toldAgain alikeAgain
    rw [Int.toNat_natCast] at toldAgain alikeAgain
    have completedAgain : Runner.settleConditions second 0 middle = (_, .ok ()) :=
      Prod.ext rfl toldAgain.symm
    obtain ⟨once, whole, same⟩ := (Runner.settles_of_eq completed).add orderly.rest alike
      (Runner.settles_of_eq completedAgain)
    obtain ⟨toldWhole, alikeWhole⟩ := runner.settle_capped (first + second : Nat)
    rw [Int.toNat_natCast, whole] at toldWhole alikeWhole
    have reaches := (alikeWhole.symm.trans same).trans alikeAgain
    exact ⟨_, Prod.ext rfl toldWhole, reaches.engine_eq.symm, reaches.isFinished_eq.symm⟩
  · have nothing := alike.prospect_reply.trans
      ((Runner.settles_of_eq completed).prospect_reply orderly.rest free)
    obtain ⟨stops, _⟩ := Runner.settleConditions_of_prospect nothing again.toNat 0
    obtain ⟨toldAgain, alikeAgain⟩ := middle.settle_capped again
    rw [stops] at toldAgain alikeAgain
    have reaches := middle.looks.settlesLike.trans alikeAgain
    have nothingStill := (middle.settlesLike_capped again).prospect_reply.trans nothing
    exact ⟨(Runner.settleConditions_of_prospect nothingStill again.toNat 0).2,
      _, Prod.ext rfl toldAgain, reaches.engine_eq, reaches.isFinished_eq⟩

namespace Booth

/-- A guest wants more, in a booth that completes no conditions by itself. -/
def hesitant : Runner :=
  (Runner.create graph Registry.usual false "opening" 0 none).play
    [.start, .complete "default" (some [(.text "more", .bool true)]) none]

/-- After one condition and two more the booth stands where it stands after three. -/
theorem hesitant_settles_in_parts :
    let middle := (hesitant.capped 1).settle.1
    let after := (middle.capped 2).settle.1
    hesitant.machine.activation = 2 ∧ middle.machine.activation = 3 ∧
      after.machine.activation = 5 ∧
      ∃ once, (hesitant.capped 3).settle = (once, .ok ()) ∧ once.engine = after.engine := by
  obtain ⟨before, between, last, first, second⟩ :
      hesitant.machine.activation = 2 ∧ (hesitant.capped 1).settle.1.machine.activation = 3 ∧
        ((hesitant.capped 1).settle.1.capped 2).settle.1.machine.activation = 5 ∧
        (hesitant.capped 1).settle.2.toOption = some () ∧
        ((hesitant.capped 1).settle.1.capped 2).settle.2.toOption = some () := by decide +kernel
  have composes := fun middle => @settling_composes graph Registry.usual false "opening" 0 none
    [.start, .complete "default" (some [(.text "more", .bool true)]) none] 1 middle
  rw [show (Runner.create graph Registry.usual false "opening" 0 none).play
    [.start, .complete "default" (some [(.text "more", .bool true)]) none] = hesitant from rfl]
    at composes
  generalize hesitant = runner at before between last first second composes ⊢
  obtain ⟨once, whole, same, _⟩ := (composes _ (Prod.ext rfl (toOption_eq_some_iff.mp first))).1 2 _
    (Prod.ext rfl (toOption_eq_some_iff.mp second))
  exact ⟨before, between, last, once, whole, same⟩

end Booth

end GuestFlow
