import GuestFlow.Proofs.Runner.Laid

/-!
# Going back to the guest

Going back is meant for a person: it undoes the latest step that a person completed, and
the conditions that were completed since then with it.

Beside a runner one can keep the runs in which a person's completions were issued, as far
as these still stand (`Runner.issued`).  The history of the runner is laid on these runs
(`Runner.IsTraced`), so undoing automatic steps ends at a person's step, in the run that
was kept for it (`Runner.IsSteady.unwind_returns`).

Then conditions are completed anew.  If there was none to be completed when the person was
asked, going back stays there.  If the cap had been reached it does not, because the count
begins anew: `back_to_the_guest` states both, and `Booth.hurried_guest_not_returned` shows
the second.
-/

set_option autoImplicit false

namespace GuestFlow

/-! ## What a host is told -/

/-- The calls by which a host steps through a workflow.  Data comes as a mapping. -/
def HostCall.IsPlain : HostCall → Prop
  | .start | .goBack | .reset => True
  | .complete _ data _ | .submit _ data => (data.getD []).IsMapping
  | _ => False

/-- What a call did, as far as its reply tells. -/
inductive Effect where
  | nothing
  /-- The run began anew. -/
  | cleared
  | completed
  | undone
  deriving DecidableEq, Repr

/-- The runs in which the completions left standing were issued, the latest first, after a call of a
runner with the given run. -/
def Effect.issued (effect : Effect) (run : Run) (before : List Run) : List Run :=
  match effect with
  | .nothing => before
  | .cleared => []
  | .completed => run :: before
  | .undone => before.tail

namespace Runner

def effect (runner : Runner) : HostCall → Except Fault Effect
  | .start => runner.start.2.map fun took => if took then .cleared else .nothing
  | .complete output data activation =>
    (runner.complete output data activation).2.map fun verdict =>
      if verdict.isAccepted then .completed else .nothing
  | .submit output data =>
    (runner.submit output data).2.map fun answer =>
      if answer.isAccepted then .completed else .nothing
  | .goBack => runner.goBack.2.map fun entry => if entry.isSome then .undone else .nothing
  | .reset => .ok .cleared
  | _ => .ok .nothing

/-- The runs in which the completions left standing were issued, after calls none of which raised a
fault. -/
def issued (runner : Runner) (before : List Run) : List HostCall → Except Fault (List Run)
  | [] => .ok before
  | call :: calls => do
    let effect ← runner.effect call
    (runner.perform call).issued (effect.issued runner.machine.run before) calls

end Runner

/-! ## Runners with the runs kept beside them -/

/-- A renderer that adds to the input of a guest adds names. -/
theorem Renderer.input_isMapping {renderer : Renderer} {node : Node} {output chosen : String}
    {data additions : Option Record} (mapping : (data.getD []).IsMapping)
    (input : renderer.input node output data = some (chosen, additions)) :
    (additions.getD []).IsMapping := by
  have counts (name : String) : (Value.text name).sameKey (.text name) = true :=
    (Value.sameKey_text _ name).mpr rfl
  unfold Renderer.input at input
  split at input
  · cases input
    exact mapping
  · cases input
    exact mapping
  · cases input
    exact (mapping.insert (counts _) _).insert (counts _) _
  · cases input
    exact mapping.insert (counts _) _
  · split at input
    · cases input
    · cases input
      exact mapping

namespace Runner

variable {graph : Graph} {cap : Int} {issued : List Run} {runner after : Runner}

/-- What holds of a runner between the calls of its host, with the runs kept beside it. -/
structure IsTraced (graph : Graph) (cap : Int) (issued : List Run) (runner : Runner) : Prop
    extends runner.IsSteady graph where
  cap_eq : runner.cap = cap
  laid : Laid graph cap issued runner.machine.run
  settled : runner.machine.run.IsSettled graph cap

theorem isTraced_create (registry : Registry) (strict : Bool) (eventId : String) (cap : Int)
    (agenda : Option Agenda) :
    (create graph registry strict eventId cap agenda).IsTraced graph cap [] where
  toIsSteady := isSteady_create registry strict eventId cap agenda
  cap_eq := rfl
  laid := .clear rfl rfl fun _ => rfl
  settled _ _ _ decides := nomatch decides.running

/-- What leaves the run alone leaves it traced. -/
theorem IsTraced.of_run_eq (traced : runner.IsTraced graph cap issued)
    (steady : after.IsSteady graph) (capped : after.cap = cap)
    (sameRun : after.machine.run = runner.machine.run) : after.IsTraced graph cap issued :=
  ⟨steady, capped, sameRun ▸ traced.laid, sameRun ▸ traced.settled⟩

/-- Whatever a host calls, the runner stays steady and keeps its cap. -/
theorem IsTraced.performed (traced : runner.IsTraced graph cap issued) (sound : graph.IsSound)
    (call : HostCall) (reached : runner.perform call = after) :
    after.IsSteady graph ∧ after.cap = cap := by
  obtain ⟨steady, sameCap⟩ := traced.toIsSteady.play sound [call]
  rw [play_cons, play_nil, reached] at steady sameCap
  exact ⟨steady, sameCap.trans traced.cap_eq⟩

/-- **What settles is traced**, if its own calls led to a run that is laid. -/
theorem IsTraced.of_settlesAfter (sound : graph.IsSound) (steady : runner.IsSteady graph)
    (capped : runner.cap = cap) {own : List Call} (settles : runner.SettlesAfter own after)
    (laid : Laid graph cap issued (runner.machine.play own).run)
    (steadyAfter : after.IsSteady graph) (cappedAfter : after.cap = cap) :
    after.IsTraced graph cap issued := by
  obtain ⟨count, _, onward, rests⟩ := settles
  have same := steady.graph_eq
  subst same
  obtain ⟨graphKept, course⟩ := Machine.onCourse_play sound steady.course own
  rw [← graphKept] at sound course laid
  obtain ⟨laidAfter, steps, length, automatic, history⟩ := onward.laid sound course laid
  rw [graphKept] at laidAfter
  refine ⟨steadyAfter, cappedAfter, laidAfter, ?_⟩
  intro positive node decision decides
  rcases rests with rests | full
  · exact (rests.not_decides (steadyAfter.graph_eq ▸ decides)).elim
  · have size : steps.length = cap.toNat := by omega
    refine ⟨positive, ⟨node, decision, decides⟩, ?_, ?_⟩
    · rw [history, List.length_append]
      omega
    · rw [history, List.take_left' size]
      exact automatic

/-! ## Starting and completing -/

section Calls

variable (traced : runner.IsTraced graph cap issued) (sound : graph.IsSound)
include traced sound

theorem IsTraced.start {took : Bool} (told : runner.start = (after, .ok took)) :
    after.IsTraced graph cap (if took then [] else issued) := by
  obtain ⟨steady, capped⟩ := traced.performed sound .start (congrArg Prod.fst told)
  cases undertakes_of_start told with
  | ended answer without =>
      obtain rfl : took = false := by simpa using without
      have step := traced.toIsSteady.step .start (congrArg (Except.map Reply.flag) answer)
      have moved := (Engine.perform_machine traced.rest .start).trans step.stays
      exact traced.of_run_eq steady capped (congrArg Machine.run moved)
  | settled answer settles =>
      obtain ⟨rfl, _⟩ := settleAfter_eq_ok settles
      have step := traced.toIsSteady.step .start (congrArg (Except.map Reply.flag) answer)
      refine .of_settlesAfter sound traced.toIsSteady traced.cap_eq
        (traced.toIsSteady.start_settles sound told) ?_ steady capped
      rw [Machine.play_cons, Machine.play_nil, step.enters]
      exact .clear rfl rfl fun _ => rfl

theorem IsTraced.completeFor {activation : Int} {output : String} {data : Option Record}
    (mapping : (data.getD []).IsMapping) {verdict : Verdict}
    (told : runner.completeFor activation output data = (after, .ok verdict)) :
    after.IsTraced graph cap
      (if verdict.isAccepted then runner.machine.run :: issued else issued) := by
  obtain ⟨steady, capped⟩ := traced.performed sound (.completeKept activation output data)
    (congrArg Prod.fst told)
  cases undertakes_of_completeFor told with
  | ended answer without =>
      have different : verdict ≠ .accepted := fun same => without (congrArg Except.ok same)
      have step := traced.toIsSteady.step (.complete output (data.getD []) (some activation) false)
        (congrArg (Except.map Reply.verdict) answer)
      obtain ⟨⟨rejection, still⟩, _⟩ := step.of_refused (by simpa [Except.map] using different)
      have moved := congrArg Machine.run ((Engine.perform_machine traced.rest
        (.complete output (data.getD []) (some activation) false)).trans still)
      have refused : verdict.isAccepted = false := by
        cases verdict with
        | accepted => exact absurd rfl different
        | ignored | stale | undeclared => rfl
      rw [refused]
      exact traced.of_run_eq steady capped moved
  | settled answer settles =>
      obtain ⟨rfl, _⟩ := settleAfter_eq_ok settles
      have step := traced.toIsSteady.step (.complete output (data.getD []) (some activation) false)
        (congrArg (Except.map Reply.verdict) answer)
      have same := traced.graph_eq
      subst same
      obtain ⟨node, stands, _, passed⟩ := step.passes sound traced.course
      have covers := @Run.covers_pass runner.machine.graph runner.machine.run node
        ⟨output, data.getD [], false⟩ mapping stands.running stands.current
        (traced.laid.unfinished stands.running)
      rw [← passed] at covers
      exact .of_settlesAfter sound traced.toIsSteady traced.cap_eq
        (traced.toIsSteady.completeFor_settles sound told)
        (.manual traced.laid covers rfl traced.settled) steady capped

/-- Input that is turned into a completion still comes as a mapping. -/
theorem IsTraced.submit {output : String} {data : Option Record}
    (mapping : (data.getD []).IsMapping) {answer : Submission}
    (told : runner.submit output data = (after, .ok answer)) :
    after.IsTraced graph cap
      (if answer.isAccepted then runner.machine.run :: issued else issued) := by
  obtain ⟨steady, capped⟩ := traced.performed sound (.submit output data) (congrArg Prod.fst told)
  cases submits_of_eq told with
  | noStep | refused => exact traced.of_run_eq steady capped rfl
  | @handedOn props given additions _ _ _ shown input completed answered =>
      obtain ⟨verdict, rfl, rfl⟩ := map_eq_ok_iff.mp answered.symm
      have resolved : (runner.resolve props.node.kind).1.IsTraced graph cap issued :=
        traced.of_run_eq (traced.toIsSteady.resolve props.node.kind) traced.cap_eq rfl
      exact resolved.completeFor sound (Renderer.input_isMapping mapping input) completed

theorem IsTraced.reset : runner.reset.IsTraced graph cap [] := by
  obtain ⟨steady, capped⟩ := traced.performed sound .reset rfl
  have cleared : runner.reset.machine.run = .fresh :=
    congrArg Machine.run (runner.drives_reset.play traced.toIsOrderly).2
  refine ⟨steady, capped, ?_, ?_⟩
  · rw [cleared]
    exact .clear rfl rfl fun _ => rfl
  · intro _ node decision decides
    rw [cleared] at decides
    cases decides.running

end Calls

/-! ## Going back -/

/-- Undoing the step on top of a run gives back the run that it covers. -/
theorem IsSteady.goBack_covers (steady : runner.IsSteady graph) (sound : graph.IsSound)
    {entry latest : HistoryEntry} {before : Run} (covers : runner.machine.run.Covers entry before)
    (answer : runner.engine.goBack.reply = .ok (some latest)) :
    latest = entry ∧ (runner.absorb runner.engine.goBack).machine.run = before ∧
      (runner.absorb runner.engine.goBack).IsReady graph := by
  have step := steady.step .goBack (congrArg (Except.map Reply.entry) answer)
  obtain ⟨earlier, behind, undone⟩ := step.undoes
  rw [covers.history_eq, List.cons.injEq] at behind
  obtain ⟨rfl, rfl⟩ := behind
  have moved := congrArg Machine.run (Engine.perform_machine steady.rest .goBack)
  exact ⟨rfl, (moved.trans undone).trans covers.undo_eq, steady.called sound step.of_undone⟩

/-- The entry records a person's step that began in a run that had settled. -/
structure ReturnsTo (graph : Graph) (cap : Int) (entry : HistoryEntry) (before : Run)
    (earlier : List Run) : Prop where
  byPerson : entry.isAutomatic = false
  running : before.status = .running
  current : before.current = some entry.node
  settled : before.IsSettled graph cap
  laid : Laid graph cap earlier before

/-- Undoing the latest step gives back the run where a person took it, or one whose history was laid
with a step less, if the step was automatic. -/
theorem IsSteady.undo_laid (steady : runner.IsSteady graph) (sound : graph.IsSound)
    (laid : Laid graph cap issued runner.machine.run) {latest : HistoryEntry}
    (undone : runner.engine.goBack.reply = .ok (some latest)) :
    let back := runner.absorb runner.engine.goBack
    back.IsReady graph ∧
      ((∃ earlier, issued = back.machine.run :: earlier ∧
          ReturnsTo graph cap latest back.machine.run earlier) ∨
        (latest.isAutomatic = true ∧ back.machine.run.canGoBack = true ∧
          Laid graph cap issued back.machine.run ∧
          back.machine.run.history.length < runner.machine.run.history.length)) := by
  generalize place : runner.machine.run = run at laid
  dsimp only
  cases laid with
  | clear empty =>
      obtain ⟨earlier, behind, _⟩ :=
        (steady.step .goBack (congrArg (Except.map Reply.entry) undone)).undoes
      rw [place, empty] at behind
      cases behind
  | @manual issued before run step below covers byPerson settled =>
      subst place
      obtain ⟨rfl, reached, ready⟩ := steady.goBack_covers sound covers undone
      rw [reached]
      exact ⟨ready, .inl ⟨issued, rfl, byPerson, covers.running, covers.current, settled, below⟩⟩
  | @automatic issued before run step below covers byItself beneath =>
      subst place
      obtain ⟨rfl, reached, ready⟩ := steady.goBack_covers sound covers undone
      rw [reached]
      refine ⟨ready, .inr ⟨byItself, ?_, below, ?_⟩⟩
      · simp [Run.canGoBack, covers.running, beneath]
      · simp [covers.history_eq]

/-- **Unwinding ends at the latest step of a person**, in the run where it began. -/
theorem IsSteady.unwind_returns (steady : runner.IsSteady graph) (sound : graph.IsSound)
    (laid : Laid graph cap issued runner.machine.run) {fuel : Nat}
    (enough : runner.machine.run.history.length ≤ fuel + 1) {calls : List Call}
    {entry : HistoryEntry} (unwinds : Unwinds fuel runner calls after (.ok (some entry))) :
    ∃ before earlier, issued = before :: earlier ∧ ReturnsTo graph cap entry before earlier ∧
      after.machine.run = before ∧ after.IsReady graph ∧ after.cap = runner.cap := by
  generalize told : Except.ok (some entry) = reply at unwinds
  induction unwinds with
  | ended _ nothing => exact absurd told.symm (nothing entry)
  | @stopped fuel runner latest undone stays =>
      cases told
      obtain ⟨ready, ⟨earlier, rfl, returns⟩ | ⟨byItself, able, _, fewer⟩⟩ :=
        steady.undo_laid sound laid undone
      · exact ⟨_, earlier, rfl, returns, rfl, ready, rfl⟩
      · -- A condition never begins a history, so there is more to undo, and fuel is left for it.
        have more : 0 < (runner.absorb runner.engine.goBack).machine.run.history.length := by
          refine List.length_pos_of_ne_nil fun empty => ?_
          simp [Run.canGoBack, empty] at able
        exact (stays.resolve_left (by omega) ⟨byItself, able⟩).elim
  | onward undone byItself able _ ih =>
      obtain ⟨ready, ⟨_, _, returns⟩ | ⟨_, _, laidStill, fewer⟩⟩ :=
        steady.undo_laid sound laid undone
      · rw [returns.byPerson] at byItself
        cases byItself
      · exact ih ready.toIsSteady laidStill (by omega) told

/-- Unwinding gives nothing only if there is nothing to undo, after one call of the engine. -/
theorem IsOrderly.unwind_none (orderly : runner.IsOrderly) {fuel : Nat} {calls : List Call}
    (unwinds : Unwinds fuel runner calls after (.ok none)) :
    runner.machine.run.canGoBack = false ∧ runner.engine.goBack.reply = .ok none ∧
      after = runner.absorb runner.engine.goBack := by
  generalize told : Except.ok none = reply at unwinds
  induction unwinds with
  | ended answer =>
      subst told
      exact ⟨(orderly.step .goBack (congrArg (Except.map Reply.entry) answer)).unable, answer, rfl⟩
  | stopped => cases told
  | onward _ _ able _ ih =>
      have unable := (ih ((Drives.called _ .goBack).play orderly).1 told).1
      exact absurd able (Bool.eq_false_iff.mp unable)

theorem IsOrderly.goBack_none (orderly : runner.IsOrderly)
    (told : runner.goBack = (after, .ok none)) :
    runner.machine.run.canGoBack = false ∧ runner.engine.goBack.reply = .ok none ∧
      after = runner.absorb runner.engine.goBack := by
  cases goesBack_of_eq told with
  | settled _ settles => cases (settleAfter_eq_ok settles).1
  | ended unwinds => exact orderly.unwind_none unwinds

/-- Without steps going back is no step, and nothing changes. -/
theorem IsOrderly.goBack_of_empty (orderly : runner.IsOrderly)
    (empty : runner.machine.run.history = []) : runner.goBack = (runner, .ok none) := by
  have idle : runner.engine.goBack = ⟨runner.engine, .ok none, none, [], []⟩ := by
    have nothing : runner.engine.machine.goBack = runner.engine.machine.unchanged none [] := by
      have empty : runner.engine.machine.run.history = [] := empty
      simp [Machine.goBack, empty]
    have resting : { runner.engine with active := none } = runner.engine := by
      rw [← orderly.rest]
    simp [Engine.goBack, Engine.guarded, orderly.rest, nothing, Machine.unchanged, resting]
  have still : runner.absorb runner.engine.goBack = runner := by
    simp [idle, absorb, finishedAfter]
  unfold goBack
  rw [empty]
  unfold unwind
  dsimp only
  rw [still, idle]

section Back

variable (traced : runner.IsTraced graph cap issued) (sound : graph.IsSound)
include traced sound

omit sound in
/-- **Going back gives nothing exactly when no step of a person stands**, and then nothing
changes. -/
theorem IsTraced.goBack_eq_none_iff :
    runner.goBack = (after, .ok none) ↔ issued = [] ∧ after = runner := by
  rw [← traced.laid.history_eq_nil_iff]
  constructor
  · intro told
    have empty := traced.course.history_eq_nil (traced.goBack_none told).1
    rw [traced.goBack_of_empty empty] at told
    cases told
    exact ⟨empty, rfl⟩
  · rintro ⟨empty, rfl⟩
    exact traced.goBack_of_empty empty

/-- **Going back returns to the latest step of a person** and stays there, unless only the cap had
kept that step from completing itself. -/
theorem IsTraced.goBack {entry : HistoryEntry}
    (told : runner.goBack = (after, .ok (some entry))) :
    ∃ before earlier, issued = before :: earlier ∧ ReturnsTo graph cap entry before earlier ∧
      after.IsTraced graph cap earlier ∧
      (after.machine.run = before ↔ ¬ before.IsStopped graph cap) := by
  obtain ⟨steady, cappedAfter⟩ := traced.performed sound .goBack (congrArg Prod.fst told)
  obtain ⟨middle, calls, unwinds, settled⟩ := unwinds_of_goBack told
  obtain ⟨before, earlier, ledger, returns, reached, ready, capKept⟩ :=
    traced.unwind_returns sound traced.laid (Nat.le_succ _) unwinds
  have capped : middle.cap = cap := capKept.trans traced.cap_eq
  have settles : middle.SettlesAfter [] after := ready.settlesAfter sound rfl rfl settled
  have laid : Laid graph cap earlier (middle.machine.play []).run := reached ▸ returns.laid
  refine ⟨before, earlier, ledger, returns,
    .of_settlesAfter sound ready.toIsSteady capped settles laid steady cappedAfter, ?_⟩
  obtain ⟨count, within, onward, rests⟩ := settles
  rw [capped] at within rests
  have same := ready.graph_eq
  subst same
  constructor
  · rintro still ⟨positive, ⟨node, decision, decides⟩, _, _⟩
    rcases rests with rests | full
    · exact rests.not_decides (steady.graph_eq ▸ still ▸ decides)
    · -- As many conditions were completed as the cap allows, so the history has grown.
      obtain ⟨_, steps, length, _, history⟩ := onward.laid sound ready.course laid
      rw [still, Machine.play_nil, reached] at history
      have grown := congrArg List.length history
      rw [List.length_append, length] at grown
      omega
  · intro free
    generalize after.machine = resting at onward ⊢
    cases onward with
    | rest => exact reached
    | advance decides =>
        obtain ⟨due, _⟩ := decides.run_decides sound ready.course
        rw [reached] at due
        exact (free (returns.settled (by omega) _ _ due)).elim

end Back

/-! ## Runs of a host -/

section Runs

variable (sound : graph.IsSound)
include sound

/-- **One call of a host keeps the runs kept beside a runner true.** -/
theorem IsTraced.perform (traced : runner.IsTraced graph cap issued) {call : HostCall}
    (plain : call.IsPlain) {effect : Effect} (told : runner.effect call = .ok effect) :
    (runner.perform call).IsTraced graph cap (effect.issued runner.machine.run issued) := by
  cases call with
  | start =>
      obtain ⟨took, answer, rfl⟩ := map_eq_ok_iff.mp told
      have started := traced.start sound (Prod.ext rfl answer : runner.start = (_, .ok took))
      cases took with
      | false | true => exact started
  | complete output data activation =>
      obtain ⟨verdict, answer, rfl⟩ := map_eq_ok_iff.mp told
      have completed := traced.completeFor sound plain
        (Prod.ext rfl answer : runner.complete output data activation = (_, .ok verdict))
      cases verdict with
      | accepted | ignored | stale | undeclared => exact completed
  | submit output data =>
      obtain ⟨answer, replied, rfl⟩ := map_eq_ok_iff.mp told
      have submitted := traced.submit sound plain
        (Prod.ext rfl replied : runner.submit output data = (_, .ok answer))
      cases accepts : answer.isAccepted with
      | false | true => simpa [accepts, Effect.issued, Runner.perform] using submitted
  | goBack =>
      obtain ⟨latest, answer, rfl⟩ := map_eq_ok_iff.mp told
      have back : runner.goBack = (runner.goBack.1, .ok latest) := Prod.ext rfl answer
      cases latest with
      | none =>
          obtain ⟨_, still⟩ := traced.goBack_eq_none_iff.mp back
          have kept : runner.goBack.1.IsTraced graph cap issued := by
            rw [still]
            exact traced
          exact kept
      | some entry =>
          obtain ⟨before, earlier, rfl, _, tracedAfter, _⟩ := traced.goBack sound back
          exact tracedAfter
  | reset =>
      cases told
      exact traced.reset sound
  | completeKept | settle | direct | subscribe | unsubscribe | register | serve | elapse =>
      exact plain.elim

/-- The runs kept are true after calls none of which raised a fault. -/
theorem IsTraced.play {before : List Run} (traced : runner.IsTraced graph cap before)
    {calls : List HostCall} (plain : ∀ call ∈ calls, call.IsPlain)
    (returned : runner.issued before calls = .ok issued) :
    (runner.play calls).IsTraced graph cap issued := by
  induction calls generalizing runner before with
  | nil =>
      cases returned
      exact traced
  | cons call calls ih =>
      obtain ⟨effect, told, onward⟩ := bind_eq_ok_iff.mp returned
      rw [List.forall_mem_cons] at plain
      exact ih (traced.perform sound plain.1 told) plain.2 onward

end Runs

end Runner

/-- **Going back leads to the latest step that a person completed**, to the very run in which that
completion was issued, and stays there unless only the cap had kept the step from completing
itself.  When no completion of a person stands, going back gives nothing and changes nothing.  This
holds on an accepted definition, after any calls of a host none of which raised a fault. -/
theorem back_to_the_guest {definition : Definition} {graph : Graph}
    (accepted : Graph.ofDefinition definition = .ok graph) (registry : Registry) (strict : Bool)
    (eventId : String) (cap : Int) (agenda : Option Agenda) {calls : List HostCall}
    (plain : ∀ call ∈ calls, call.IsPlain) {issued : List Run}
    (returned :
      (Runner.create graph registry strict eventId cap agenda).issued [] calls = .ok issued) :
    let runner := (Runner.create graph registry strict eventId cap agenda).play calls
    (∀ entry after, runner.goBack = (after, .ok (some entry)) →
      ∃ before earlier, issued = before :: earlier ∧ entry.isAutomatic = false ∧
        before.status = .running ∧ before.current = some entry.node ∧
        (after.machine.run = before ↔ ¬ before.IsStopped graph cap)) ∧
      ∀ after, runner.goBack = (after, .ok none) ↔ issued = [] ∧ after = runner := by
  have sound := Graph.isSound_of_ofDefinition accepted
  have created := @Runner.isTraced_create graph registry strict eventId cap agenda
  have traced := created.play sound plain returned
  refine ⟨?_, fun after => traced.goBack_eq_none_iff⟩
  intro entry after took
  obtain ⟨before, earlier, ledger, returns, _, stays⟩ := traced.goBack sound took
  exact ⟨before, earlier, ledger, returns.byPerson, returns.running, returns.current, stays⟩

namespace Booth

/-- A guest who wants no more; the condition is completed for them. -/
def content : List HostCall :=
  [.start, .complete "default" (some [(.text "more", .bool false)]) none]

/-- The guest comes back from the print to the first step. -/
theorem content_guest_returned :
    let before := (runner.play [.start]).machine.run
    (runner.play content).machine.run.current = some "print" ∧
      (runner.play content).goBack.1.machine.run = before ∧
      before.current = some "touch" := by
  have plain : ∀ call ∈ content, call.IsPlain := by
    simp [content, HostCall.IsPlain, (Record.isTextual_singleton _ _).isMapping]
  have ledger : runner.issued [] content = .ok [(runner.play [.start]).machine.run] :=
    toOption_eq_some_iff.mp (by decide +kernel)
  have returns := (back_to_the_guest accepted Registry.usual false "opening" 3 none plain ledger).1
  obtain ⟨entry, took⟩ : ∃ entry, (runner.play content).goBack.2 = .ok (some entry) := by
    refine ⟨⟨"touch", "default", [(.text "more", none)], false⟩, toOption_eq_some_iff.mp ?_⟩
    decide +kernel
  obtain ⟨before, earlier, same, _, _, _, stays⟩ := returns entry _ (Prod.ext rfl took)
  obtain ⟨rfl, rfl⟩ := List.cons.inj same
  refine ⟨by decide +kernel, stays.mpr fun stopped => ?_, by decide +kernel⟩
  have reached := stopped.reached
  revert reached
  decide +kernel

/-- Two conditions that look at one answer, so that a cap of one stops at the second. -/
def wishes : Definition where
  id := "wishes"
  name := "Photo booth"
  description := none
  nodes := [
    ⟨"touch", Kind.touchToStart, "", [], [⟨"default", "", "default", some "frame"⟩], false, []⟩,
    ⟨"frame", Kind.condition, "", [(.text "field", .text "more")],
      [⟨"then", "", "default", some "copies"⟩, ⟨"else", "", "default", some "print"⟩], false, []⟩,
    ⟨"copies", Kind.condition, "", [(.text "field", .text "more")],
      [⟨"then", "", "default", some "choose"⟩, ⟨"else", "", "default", some "print"⟩], false, []⟩,
    ⟨"choose", "SELECTION_SCREEN", "", [], [⟨"default", "", "default", some "print"⟩], false, []⟩,
    ⟨"print", "PRINT", "", [], [], false, []⟩]
  version := "1.0.0"
  flowType := none
  metadata := []

/-- A guest who wants more is asked about copies, because of the cap, and wants none. -/
def hurried : List HostCall :=
  [.start, .complete "default" (some [(.text "more", .bool true)]) none,
    .complete "else" none none]

/-- The guest goes back from the print to the question, and is moved on to the choice at once: the
count of conditions has begun anew. -/
theorem hurried_guest_not_returned :
    let runner := Runner.create ⟨wishes, [], "touch"⟩ Registry.usual false "opening" 1 none
    let asked := (runner.play (hurried.take 2)).machine.run
    let back := (runner.play hurried).goBack
    (Graph.ofDefinition wishes).toOption = some ⟨wishes, [], "touch"⟩ ∧
      (runner.issued [] hurried).toOption =
        some [asked, (runner.play (hurried.take 1)).machine.run] ∧
      back.2.toOption = some (some ⟨"copies", "else", [], false⟩) ∧
      asked.current = some "copies" ∧ asked.history.length = 2 ∧
      back.1.machine.run.current = some "choose" ∧ back.1.machine.run.history.length = 3 := by
  decide +kernel

end Booth

end GuestFlow
