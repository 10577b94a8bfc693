import GuestFlow.Proofs.Runner.Host

/-!
# The ways an operation of a runner can go

An operation of a runner may look for a condition, complete conditions one after another,
undo steps, and call its engine once of its own accord.  For each of these there is a list
of the ways in which it can go: `Runner.Looks`, `Runner.Settles`, `Runner.Unwinds` and
`Runner.Undertakes`.  Each of them also tells which calls were made of the engine.

What holds of every run of an operation follows by cases on these lists, or by induction on
them where the operation repeats itself.
-/

set_option autoImplicit false

namespace GuestFlow

namespace Runner

/-! ## Looking for a condition -/

/-- `runner.Looks after reply`: looking for a condition to be completed can leave the runner as
`after`, with the reply. -/
inductive Looks (runner : Runner) : Runner → Except Fault (Option Prospect) → Prop where
  | away (nowhere : runner.currentCondition? = none) : Looks runner runner (.ok none)
  | undecidable {node : Node} {fault : Fault} (here : runner.currentCondition? = some node)
      (fails : runner.machine.evaluate (some node) = .error fault) :
      Looks runner runner (.error fault)
  | unresolved {node : Node} {journal : Journal} (here : runner.currentCondition? = some node)
      (undecided : runner.machine.evaluate (some node) = .ok (.unresolved, journal)) :
      Looks runner (runner.log journal) (.ok none)
  | textless {node : Node} {decision : Decision} {journal : Journal} {fault : Fault}
      (here : runner.currentCondition? = some node)
      (decided : runner.machine.evaluate (some node) = .ok (decision, journal))
      (resolved : decision ≠ .unresolved) (fails : runner.dataText = .error fault) :
      Looks runner (runner.log journal).pruneGuards (.error fault)
  | tried {node : Node} {decision : Decision} {journal : Journal} {data : String}
      (here : runner.currentCondition? = some node)
      (decided : runner.machine.evaluate (some node) = .ok (decision, journal))
      (resolved : decision ≠ .unresolved) (written : runner.dataText = .ok data)
      (tried : ⟨node.id, runner.machine.activation, data⟩ ∈ runner.pruneGuards.guards) :
      Looks runner (runner.log journal).pruneGuards (.ok none)
  | found {node : Node} {decision : Decision} {journal : Journal} {data : String}
      (here : runner.currentCondition? = some node)
      (decided : runner.machine.evaluate (some node) = .ok (decision, journal))
      (resolved : decision ≠ .unresolved) (written : runner.dataText = .ok data)
      (untried : ⟨node.id, runner.machine.activation, data⟩ ∉ runner.pruneGuards.guards) :
      Looks runner (runner.log journal).pruneGuards
        (.ok (some ⟨node, decision, ⟨node.id, runner.machine.activation, data⟩⟩))

theorem looks (runner : Runner) : runner.Looks runner.prospect.1 runner.prospect.2 := by
  unfold prospect
  split
  · rename_i nowhere
    exact .away nowhere
  · rename_i node here
    split
    · rename_i fails
      exact .undecidable here fails
    · rename_i undecided
      exact .unresolved here undecided
    · rename_i decision journal resolved decided
      dsimp only
      split
      · rename_i fails
        exact .textless here decided resolved fails
      · rename_i data written
        split
        · rename_i tried
          exact .tried here decided resolved written (List.contains_iff_mem.mp tried)
        · rename_i untried
          exact .found here decided resolved written fun tried =>
            untried (List.contains_iff_mem.mpr tried)

theorem looks_of_eq {runner after : Runner} {reply : Except Fault (Option Prospect)}
    (found : runner.prospect = (after, reply)) : runner.Looks after reply := by
  have looked := runner.looks
  rwa [found] at looked

/-! ## Completing conditions -/

/-- `Settles remaining done runner calls after reply`: by the calls of its engine, at most
`remaining`, the runner can complete conditions until it is `after`, with the reply. -/
inductive Settles :
    Nat → Nat → Runner → List Call → Runner → Except Fault Unit → Prop where
  | failed {remaining done : Nat} {runner after : Runner} {fault : Fault}
      (found : runner.prospect = (after, .error fault)) :
      Settles remaining done runner [] after (.error fault)
  | nothing {remaining done : Nat} {runner after : Runner}
      (found : runner.prospect = (after, .ok none)) : Settles remaining done runner [] after (.ok ())
  | capped {done : Nat} {runner middle : Runner} {prospect : Prospect}
      (found : runner.prospect = (middle, .ok (some prospect))) :
      Settles 0 done runner []
        (middle.log [.warning ("Stopped condition auto-advance at " ++ quoted prospect.node.id ++
          " after " ++ toString done ++ " consecutive steps")]) (.ok ())
  | refused {remaining done : Nat} {runner middle after : Runner} {prospect : Prospect}
      (found : runner.prospect = (middle, .ok (some prospect)))
      (went : middle.advance prospect = (after, .ok false)) :
      Settles (remaining + 1) done runner [middle.completionOf prospect] after (.ok ())
  | raised {remaining done : Nat} {runner middle after : Runner} {prospect : Prospect}
      {fault : Fault} (found : runner.prospect = (middle, .ok (some prospect)))
      (went : middle.advance prospect = (after, .error fault)) :
      Settles (remaining + 1) done runner [middle.completionOf prospect] after (.error fault)
  | advanced {remaining done : Nat} {runner middle last after : Runner} {prospect : Prospect}
      {calls : List Call} {reply : Except Fault Unit}
      (found : runner.prospect = (middle, .ok (some prospect)))
      (went : middle.advance prospect = (last, .ok true))
      (onward : Settles remaining (done + 1) last calls after reply) :
      Settles (remaining + 1) done runner (middle.completionOf prospect :: calls) after reply

theorem settles_settleConditions (remaining done : Nat) (runner : Runner) :
    Settles remaining done runner (conditionCalls remaining runner)
      (settleConditions remaining done runner).1 (settleConditions remaining done runner).2 := by
  induction remaining generalizing runner done with
  | zero =>
      unfold settleConditions conditionCalls
      split
      · rename_i found
        exact .failed found
      · rename_i found
        exact .nothing found
      · rename_i found
        exact .capped found
  | succ remaining ih =>
      unfold settleConditions conditionCalls
      rcases found : runner.prospect with ⟨middle, fault | _ | prospect⟩
      · exact .failed found
      · exact .nothing found
      · dsimp only
        rcases went : middle.advance prospect with ⟨last, fault | _ | _⟩
        · exact .raised found went
        · exact .refused found went
        · exact .advanced found went (ih (done + 1) last)

theorem settles_of_eq {remaining done : Nat} {runner after : Runner} {reply : Except Fault Unit}
    (settled : settleConditions remaining done runner = (after, reply)) :
    Settles remaining done runner (conditionCalls remaining runner) after reply := by
  have settles := settles_settleConditions remaining done runner
  rwa [settled] at settles

theorem Settles.eq {remaining done : Nat} {runner after : Runner} {calls : List Call}
    {reply : Except Fault Unit} (settles : Settles remaining done runner calls after reply) :
    settleConditions remaining done runner = (after, reply) := by
  induction settles with
  | failed found | nothing found | capped found => simp [settleConditions, found]
  | refused found went | raised found went => simp [settleConditions, found, went]
  | advanced found went _ ih => simp [settleConditions, found, went, ih]

/-- A runner settles and renders the step where it rests, or it fails to settle. -/
theorem settle_cases (runner : Runner) :
    (∃ last, Settles runner.cap.toNat 0 runner runner.settleCalls last (.ok ()) ∧
        runner.settle = (last.render, .ok ())) ∨
      ∃ after fault, Settles runner.cap.toNat 0 runner runner.settleCalls after (.error fault) ∧
        runner.settle = (after, .error fault) := by
  unfold settle
  rcases found : settleConditions runner.cap.toNat 0 runner with ⟨last, fault | _⟩
  · exact .inr ⟨last, fault, settles_of_eq found, rfl⟩
  · exact .inl ⟨last, settles_of_eq found, rfl⟩

/-- Settling keeps the reply, unless it fails. -/
theorem settleAfter_eq {α : Type} (runner : Runner) (value : α) :
    runner.settleAfter value = (runner.settle.1, runner.settle.2.map fun _ => value) := by
  unfold settleAfter
  rcases runner.settle with ⟨after, fault | _⟩
  · rfl
  · rfl

theorem settleAfter_eq_ok {α : Type} {runner after : Runner} {value answer : α}
    (settled : runner.settleAfter value = (after, .ok answer)) :
    answer = value ∧ ∃ last,
      Settles runner.cap.toNat 0 runner runner.settleCalls last (.ok ()) ∧ after = last.render := by
  rw [settleAfter_eq] at settled
  rcases runner.settle_cases with ⟨last, settles, told⟩ | ⟨last, fault, settles, told⟩
  · rw [told] at settled
    cases settled
    exact ⟨rfl, last, settles, rfl⟩
  · rw [told] at settled
    cases settled

theorem settleAfter_eq_error {α : Type} {runner after : Runner} {value : α} {fault : Fault}
    (settled : runner.settleAfter value = (after, .error fault)) :
    Settles runner.cap.toNat 0 runner runner.settleCalls after (.error fault) := by
  rw [settleAfter_eq] at settled
  rcases runner.settle_cases with ⟨last, settles, told⟩ | ⟨last, fault, settles, told⟩
  · rw [told] at settled
    cases settled
  · rw [told] at settled
    cases settled
    exact settles

/-! ## Calls of its own accord -/

/-- The runner calls its engine, which reports, and settles if the call had the effect; `calls` are
made in all. -/
inductive Undertakes {α : Type} (runner : Runner) (call : Call) (report : Report α) (effect : α)
    (calls : List Call) : Runner → Except Fault α → Prop where
  | ended {reply : Except Fault α} (told : report.reply = reply) (without : reply ≠ .ok effect)
      (made : calls = [call]) :
      Undertakes runner call report effect calls (runner.absorb report) reply
  | settled {after : Runner} {reply : Except Fault α} (took : report.reply = .ok effect)
      (settles : (runner.absorb report).settleAfter effect = (after, reply))
      (made : calls = call :: (runner.absorb report).settleCalls) :
      Undertakes runner call report effect calls after reply

section Undertakes

variable {α : Type} {runner after : Runner} {call : Call} {report : Report α} {effect : α}
  {calls : List Call} {reply : Except Fault α}

theorem Undertakes.of_took (undertakes : runner.Undertakes call report effect calls after reply)
    (took : report.reply = .ok effect) :
    (runner.absorb report).settleAfter effect = (after, reply) := by
  cases undertakes with
  | ended told without => exact absurd (told.symm.trans took) without
  | settled _ settles => exact settles

theorem Undertakes.of_without (undertakes : runner.Undertakes call report effect calls after reply)
    {told : Except Fault α} (answer : report.reply = told) (without : told ≠ .ok effect) :
    after = runner.absorb report ∧ reply = told := by
  cases undertakes with
  | ended same => exact ⟨rfl, same.symm.trans answer⟩
  | settled took => exact absurd (answer.symm.trans took) without

end Undertakes

theorem undertakes_start (runner : Runner) :
    runner.Undertakes .start runner.engine.start true runner.startCalls runner.start.1
      runner.start.2 := by
  unfold start startCalls
  dsimp only
  match told : runner.engine.start.reply with
  | .ok true => exact .settled told rfl rfl
  | .ok false => exact .ended told (by simp) rfl
  | .error fault => exact .ended told (by simp) rfl

theorem undertakes_completeFor (runner : Runner) (activation : Int) (output : String)
    (data : Option Record) :
    runner.Undertakes (.complete output (data.getD []) (some activation) false)
      (runner.engine.complete output (data.getD []) (some activation) false) .accepted
      (runner.completeForCalls activation output data)
      (runner.completeFor activation output data).1
      (runner.completeFor activation output data).2 := by
  unfold completeFor completeForCalls
  dsimp only
  match told : (runner.engine.complete output (data.getD []) (some activation) false).reply with
  | .ok .accepted => exact .settled told rfl rfl
  | .ok .ignored | .ok .stale | .ok .undeclared => exact .ended told (by simp) rfl
  | .error fault => exact .ended told (by simp) rfl

theorem undertakes_of_start {runner after : Runner} {reply : Except Fault Bool}
    (told : runner.start = (after, reply)) :
    runner.Undertakes .start runner.engine.start true runner.startCalls after reply := by
  have undertakes := runner.undertakes_start
  rwa [told] at undertakes

theorem undertakes_of_completeFor {runner after : Runner} {activation : Int} {output : String}
    {data : Option Record} {reply : Except Fault Verdict}
    (told : runner.completeFor activation output data = (after, reply)) :
    runner.Undertakes (.complete output (data.getD []) (some activation) false)
      (runner.engine.complete output (data.getD []) (some activation) false) .accepted
      (runner.completeForCalls activation output data) after reply := by
  have undertakes := runner.undertakes_completeFor activation output data
  rwa [told] at undertakes

/-- Input comes to nothing, or it is handed on as a completion of the step that is shown; `calls` are
made in all. -/
inductive Submits (runner : Runner) (output : String) (data : Option Record) (calls : List Call) :
    Runner → Except Fault Submission → Prop where
  | noStep (nothing : runner.props? = none) (made : calls = []) :
      Submits runner output data calls
        (runner.log [.debug ("Ignoring input " ++ quoted output ++ ": no active step")])
        (.ok .noStep)
  | refused {props : Props} (shown : runner.props? = some props)
      (input : (runner.resolve props.node.kind).2.input props.node output data = none)
      (made : calls = []) :
      Submits runner output data calls (runner.resolve props.node.kind).1 (.ok .refused)
  | handedOn {props : Props} {given : String} {additions : Option Record} {after : Runner}
      {reply : Except Fault Verdict} {answer : Except Fault Submission}
      (shown : runner.props? = some props)
      (input : (runner.resolve props.node.kind).2.input props.node output data =
        some (given, additions))
      (completed : (runner.resolve props.node.kind).1.completeFor props.activation given additions =
        (after, reply))
      (answered : answer = reply.map .verdict)
      (made : calls =
        (runner.resolve props.node.kind).1.completeForCalls props.activation given additions) :
      Submits runner output data calls after answer

theorem submits (runner : Runner) (output : String) (data : Option Record) :
    runner.Submits output data (runner.submitCalls output data) (runner.submit output data).1
      (runner.submit output data).2 := by
  unfold submit submitCalls
  cases shown : runner.props? with
  | none => exact .noStep shown rfl
  | some props =>
      dsimp only
      cases input : (runner.resolve props.node.kind).2.input props.node output data with
      | none => exact .refused shown input rfl
      | some completion => exact .handedOn shown input rfl rfl rfl

theorem submits_of_eq {runner after : Runner} {output : String} {data : Option Record}
    {answer : Except Fault Submission} (told : runner.submit output data = (after, answer)) :
    runner.Submits output data (runner.submitCalls output data) after answer := by
  have submits := runner.submits output data
  rwa [told] at submits

/-! ## Going back -/

/-- `Unwinds fuel runner calls after reply`: the runner can undo steps, one with each call of its
engine, until it is `after`, with the reply. -/
inductive Unwinds :
    Nat → Runner → List Call → Runner → Except Fault (Option HistoryEntry) → Prop where
  | ended {fuel : Nat} {runner : Runner} {reply : Except Fault (Option HistoryEntry)}
      (told : runner.engine.goBack.reply = reply) (nothing : ∀ entry, reply ≠ .ok (some entry)) :
      Unwinds fuel runner [.goBack] (runner.absorb runner.engine.goBack) reply
  | stopped {fuel : Nat} {runner : Runner} {entry : HistoryEntry}
      (undone : runner.engine.goBack.reply = .ok (some entry))
      (stays : fuel = 0 ∨ ¬(entry.isAutomatic = true ∧
        (runner.absorb runner.engine.goBack).machine.run.canGoBack = true)) :
      Unwinds fuel runner [.goBack] (runner.absorb runner.engine.goBack) (.ok (some entry))
  | onward {fuel : Nat} {runner after : Runner} {entry : HistoryEntry} {calls : List Call}
      {reply : Except Fault (Option HistoryEntry)}
      (undone : runner.engine.goBack.reply = .ok (some entry))
      (byItself : entry.isAutomatic = true)
      (able : (runner.absorb runner.engine.goBack).machine.run.canGoBack = true)
      (unwinds : Unwinds fuel (runner.absorb runner.engine.goBack) calls after reply) :
      Unwinds (fuel + 1) runner (.goBack :: calls) after reply

theorem unwinds (fuel : Nat) (runner : Runner) :
    Unwinds fuel runner (unwindCalls fuel runner) (unwind fuel runner).1
      (unwind fuel runner).2 := by
  induction fuel generalizing runner with
  | zero =>
      unfold unwind unwindCalls
      dsimp only
      match told : runner.engine.goBack.reply with
      | .ok (some entry) => exact .stopped told (.inl rfl)
      | .ok none => exact .ended told (by simp)
      | .error fault => exact .ended told (by simp)
  | succ fuel ih =>
      unfold unwind unwindCalls
      dsimp only
      match told : runner.engine.goBack.reply with
      | .ok none => exact .ended told (by simp)
      | .error fault => exact .ended told (by simp)
      | .ok (some entry) =>
          dsimp only
          by_cases goesOn : (entry.isAutomatic &&
              (runner.absorb runner.engine.goBack).machine.run.canGoBack) = true
          · rw [if_pos goesOn, if_pos goesOn]
            obtain ⟨byItself, able⟩ := (Bool.and_eq_true _ _).mp goesOn
            exact .onward told byItself able (ih _)
          · rw [if_neg goesOn, if_neg goesOn]
            exact .stopped told (.inr (by simpa using goesOn))

/-- The runner unwinds, and settles if that has undone a step; `calls` are made in all. -/
inductive GoesBack (runner : Runner) (calls : List Call) :
    Runner → Except Fault (Option HistoryEntry) → Prop where
  | ended {after : Runner} {reply : Except Fault (Option HistoryEntry)}
      (unwinds : Unwinds runner.machine.run.history.length runner calls after reply)
      (nothing : ∀ entry, reply ≠ .ok (some entry)) : GoesBack runner calls after reply
  | settled {own : List Call} {middle after : Runner} {entry : HistoryEntry}
      {reply : Except Fault (Option HistoryEntry)}
      (unwinds : Unwinds runner.machine.run.history.length runner own middle (.ok (some entry)))
      (settles : middle.settleAfter (some entry) = (after, reply))
      (made : calls = own ++ middle.settleCalls) : GoesBack runner calls after reply

theorem goesBack (runner : Runner) :
    runner.GoesBack runner.goBackCalls runner.goBack.1 runner.goBack.2 := by
  have unwinds := unwinds runner.machine.run.history.length runner
  unfold goBack goBackCalls
  dsimp only
  match told : unwind runner.machine.run.history.length runner with
  | (middle, .ok (some entry)) =>
      rw [told] at unwinds
      exact .settled unwinds rfl rfl
  | (after, .ok none) | (after, .error fault) =>
      rw [told] at unwinds
      rw [List.append_nil]
      exact .ended unwinds (by simp)

theorem goesBack_of_eq {runner after : Runner} {reply : Except Fault (Option HistoryEntry)}
    (told : runner.goBack = (after, reply)) : runner.GoesBack runner.goBackCalls after reply := by
  have goesBack := runner.goesBack
  rwa [told] at goesBack

/-- Going back that gives an entry unwinds to that entry and settles there. -/
theorem unwinds_of_goBack {runner after : Runner} {entry : HistoryEntry}
    (took : runner.goBack = (after, .ok (some entry))) :
    ∃ middle calls,
      Unwinds runner.machine.run.history.length runner calls middle (.ok (some entry)) ∧
        middle.settleAfter (some entry) = (after, .ok (some entry)) := by
  cases goesBack_of_eq took with
  | ended _ nothing => exact absurd rfl (nothing entry)
  | settled unwinds settles =>
      cases (settleAfter_eq_ok settles).1
      exact ⟨_, _, unwinds, settles⟩

end Runner

end GuestFlow
