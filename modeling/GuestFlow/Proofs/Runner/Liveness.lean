import GuestFlow.Proofs.Runner.Token
import GuestFlow.Proofs.Runner.Turns

/-!
# Live renderings

At any time only the rendering of the current stay is live (`only_current_renderings_live`):
the rendering that a runner holds belongs to the current activation, every other task has
ended, was asked to stop or has completed its own step, and whatever a task does once its
stay is over, it does not move the engine.  This holds after every call of a host that
returns, every turn of a task and every passing of time.
-/

set_option autoImplicit false

namespace GuestFlow

/-- A completion for a stay that is over changes nothing at all. -/
theorem Exchange.IsStep.of_late {exchange : Exchange} (step : exchange.IsStep) {token : Int}
    (carries : exchange.Carries token)
    (late : token ≠ exchange.before.activation ∨ exchange.before.run.status ≠ .running) :
    exchange.after = exchange.before := by
  obtain ⟨before, call, reply, after⟩ := exchange
  obtain ⟨output, additions, isAutomatic, rfl⟩ := carries
  change before.Step _ after reply at step
  dsimp only at late ⊢
  have timely_or : before.isStale (some token) = false → before.run.status = .running → False :=
    fun timely running => late.elim (· (Machine.token_eq_of_isStale timely)) (· running)
  cases step with
  | ignored | stale => rfl
  | undeclared stands timely => exact (timely_or timely stands.running).elim
  | lost running _ timely => exact (timely_or timely running).elim
  | broken stands timely => exact (timely_or timely stands.running).elim
  | finished stands timely => exact (timely_or timely stands.running).elim
  | moved stands timely => exact (timely_or timely stands.running).elim

namespace Runner

/-! ## Runs -/

def tasks (runner : Runner) : List Task :=
  match runner.agenda with
  | none => []
  | some agenda => agenda.tasks

/-- The task that has its turn when the first errand of the queue is served. -/
def serving? (runner : Runner) : Option Task :=
  match runner.agenda with
  | none => none
  | some agenda =>
    match agenda.queue with
    | .turn id :: _ => agenda.task? id
    | _ => none

/-- The call is a turn of a task, and in it a completion by the task for its own activation is
accepted. -/
def CompletesOwn (runner : Runner) (call : HostCall) (id : Nat) : Prop :=
  match call with
  | .serve => ∃ task, runner.serving? = some task ∧ task.id = id ∧
      runner.machine.Accepted runner.serveCalls task.activation
  | _ => False

/-- In some turn of a run a task completes its own step. -/
def CompletedOwn (runner : Runner) : List HostCall → Nat → Prop
  | [], _ => False
  | call :: calls, id => runner.CompletesOwn call id ∨ (runner.perform call).CompletedOwn calls id

/-- Whether every call of a run returns without a fault. -/
def returns (runner : Runner) : List HostCall → Bool
  | [] => true
  | call :: calls => (runner.answer call).isOk && (runner.perform call).returns calls

section Runs

variable {completed : Nat → Prop} {agenda : Agenda} {runner : Runner}

/-- Where no task has its turn, none completes its step. -/
theorem not_completesOwn_serve (nobody : runner.serving? = none) (id : Nat) :
    ¬runner.CompletesOwn .serve id := by
  rintro ⟨task, serves, _⟩
  rw [nobody] at serves
  cases serves

theorem serve_of_serving {task : Task} (serves : runner.serving? = some task) :
    ∃ agenda queue, runner.agenda = some agenda ∧ task ∈ agenda.tasks ∧
      runner.serve = some ({ runner with agenda := some { agenda with queue } }.turn task) ∧
      runner.serveCalls =
        { runner with agenda := some { agenda with queue } }.turnCalls task := by
  unfold serving? at serves
  cases held : runner.agenda with
  | none =>
      rw [held] at serves
      cases serves
  | some agenda =>
      rw [held] at serves
      dsimp only at serves
      split at serves
      · rename_i id queue queued
        have found : ({ agenda with queue } : Agenda).task? id = some task := serves
        refine ⟨agenda, queue, rfl, (Agenda.mem_of_task? serves).1, ?_, ?_⟩
        · simp [Runner.serve, held, queued, serves]
        · simp [serveCalls, held, queued, found]
      · cases serves

/-- If no task has its turn, at most an errand is taken from the queue. -/
theorem serve_of_nobody (agenda_eq : runner.agenda = some agenda)
    (nobody : runner.serving? = none) :
    ∃ queue, ({ runner with agenda := some { agenda with queue } } : Runner).Unmoved
      (runner.serve.getD runner) := by
  unfold serving? at nobody
  rw [agenda_eq] at nobody
  unfold Runner.serve
  rw [agenda_eq]
  dsimp only at nobody ⊢
  cases queued : agenda.queue with
  | nil => exact ⟨[], Prod.ext (by simp [desk, agenda_eq, ← queued]) rfl, rfl, rfl⟩
  | cons errand queue =>
      rw [queued] at nobody
      cases errand with
      | report remark => exact ⟨queue, rfl, rfl, rfl⟩
      | turn id =>
          dsimp only at nobody ⊢
          rw [nobody]
          exact ⟨queue, rfl, rfl, rfl⟩

theorem Staffed.serve (staffed : runner.Staffed completed agenda) (orderly : runner.IsOrderly)
    (between : agenda.running = none) :
    ∃ later, (runner.serve.getD runner).Staffed
      (fun id => completed id ∨ runner.CompletesOwn .serve id) later ∧ later.running = none := by
  have popped (queue : List Errand) : { runner with agenda := some { agenda with queue } }.Staffed
      completed { agenda with queue } :=
    staffed.continue ((Agenda.Continues.refl agenda).of_tasks_eq rfl rfl)
      (staffed.kept.of_tasks_eq rfl rfl)
  cases serves : runner.serving? with
  | none =>
      obtain ⟨queue, unmoved⟩ := serve_of_nobody staffed.agenda_eq serves
      refine ⟨_, ((popped queue).of_unmoved unmoved).congr fun id => ?_, between⟩
      exact (or_iff_left (not_completesOwn_serve serves id)).symm
  | some task =>
      obtain ⟨held, queue, agenda_eq, member, served, made⟩ := serve_of_serving serves
      obtain rfl : agenda = held := Option.some.inj (staffed.agenda_eq.symm.trans agenda_eq)
      obtain ⟨later, turned, after⟩ :=
        (popped queue).turn ⟨orderly.rest, orderly.guards_le⟩ between member
      rw [served]
      refine ⟨later, turned.congr fun other => or_congr_right ?_, after⟩
      rw [← made]
      constructor
      · rintro ⟨rfl, accepted⟩
        exact ⟨task, serves, rfl, accepted⟩
      · rintro ⟨other, servesOther, rfl, accepted⟩
        obtain rfl := Option.some.inj (serves.symm.trans servesOther)
        exact ⟨rfl, accepted⟩

/-- **A run of calls that return keeps the rendering current.** -/
theorem Staffed.play (staffed : runner.Staffed completed agenda) (orderly : runner.IsOrderly)
    (between : agenda.running = none) {calls : List HostCall}
    (driven : ∀ call ∈ calls, call.IsOfRunner) (returned : runner.returns calls = true) :
    ∃ later, (runner.play calls).Staffed
      (fun id => completed id ∨ runner.CompletedOwn calls id) later ∧ later.running = none := by
  induction calls generalizing runner completed agenda with
  | nil => exact ⟨agenda, staffed.congr fun _ => (or_iff_left not_false).symm, between⟩
  | cons call calls ih =>
      obtain ⟨answered, rest⟩ := Bool.and_eq_true_iff.mp returned
      obtain ⟨first, others⟩ := List.forall_mem_cons.mp driven
      have orderlyNext := ((runner.drives_perform call).play orderly).1
      obtain ⟨later, performed, after⟩ : ∃ later, (runner.perform call).Staffed
          (fun id => completed id ∨ runner.CompletesOwn call id) later ∧ later.running = none := by
        by_cases turn : call = .serve
        · exact turn ▸ staffed.serve orderly between
        · obtain ⟨later, performed, after⟩ :=
            staffed.perform orderly between first turn answered
          refine ⟨later, performed.congr fun _ => (or_iff_left ?_).symm, after⟩
          cases call with
          | serve => exact absurd rfl turn
          | _ => exact not_false
      obtain ⟨last, played, afterAll⟩ := ih performed orderlyNext after others rest
      exact ⟨last, played.congr fun id => or_assoc, afterAll⟩

theorem staffed_create (graph : Graph) (registry : Registry) (strict : Bool) (eventId : String)
    (cap : Int) :
    (create graph registry strict eventId cap (some .empty)).Staffed (fun _ => False) .empty := by
  refine ⟨⟨Agenda.isKept_empty, nofun, nofun, nofun⟩, rfl, nofun⟩

/-! ## Tasks whose stay is over -/

theorem act_of_late (task : Task) (actions : List Action) (orderly : runner.IsOrderly)
    (late : task.activation ≠ runner.machine.activation) :
    (act task actions runner).1.machine = runner.machine := by
  induction actions generalizing runner with
  | nil => rfl
  | cons action rest ih =>
      cases action with
      | say remark => exact ih ((runner.drives_log [remark]).play orderly).1 late
      | sleep | fail => rfl
      | complete output data isReported =>
          obtain ⟨kept, verdict, told, _⟩ := completeFor_of_ne orderly.rest
            (mt Int.ofNat_inj.mp late) output data
          unfold act
          cases completed : runner.completeFor task.activation output data with
          | mk middle reply =>
              have drives := (undertakes_of_completeFor completed).drives rfl
              rw [completed] at kept told
              dsimp only at kept told
              subst told
              rw [← kept] at late ⊢
              have orderlyStill := (drives.play orderly).1
              cases isReported with
              | false => exact ih orderlyStill late
              | true => exact ih ⟨orderlyStill.rest, orderlyStill.guards_le⟩ late

theorem turn_of_late (orderly : runner.IsOrderly) {task : Task}
    (late : task.activation ≠ runner.machine.activation) :
    (runner.turn task).machine = runner.machine := by
  have orderlyBegun := ((runner.drives_onAgenda
    fun agenda => { agenda with running := some task.id }).play orderly).1
  have acted := act_of_late task task.actions orderlyBegun late
  unfold Runner.turn
  split
  · rfl
  · dsimp only
    split
    · exact acted
    · exact acted
    · exact acted

/-- The turn of a task whose stay is over leaves the engine where it is. -/
theorem serve_of_late (orderly : runner.IsOrderly) {task : Task}
    (serves : runner.serving? = some task) (late : task.activation ≠ runner.machine.activation) :
    (runner.perform .serve).machine = runner.machine := by
  obtain ⟨agenda, queue, _, _, served, _⟩ := serve_of_serving serves
  have orderlyStill : { runner with agenda := some { agenda with queue } }.IsOrderly :=
    ⟨orderly.rest, orderly.guards_le⟩
  have performed : runner.perform .serve =
      { runner with agenda := some { agenda with queue } }.turn task := by
    simp [Runner.perform, served]
  rw [performed]
  exact turn_of_late orderlyStill late

end Runs

end Runner

/-- **Only the rendering of the current stay is live.**  In every run of a runner that renders on an
agenda, with any renderers and with turns of tasks and the passing of time in between, in which
every call returns: the rendering that the runner holds has ended, or it was created for the current
activation and the workflow runs; every other task has ended, was asked to stop or has completed its
own step; and neither a completion by a task whose stay is over nor a whole turn of it changes the
engine. -/
theorem only_current_renderings_live (graph : Graph) (registry : Registry) (strict : Bool)
    (eventId : String) (cap : Int) (calls : List HostCall)
    (driven : ∀ call ∈ calls, call.IsOfRunner)
    (returned : (Runner.create graph registry strict eventId cap (some .empty)).returns calls =
      true) :
    let runner := Runner.create graph registry strict eventId cap (some .empty)
    let final := runner.play calls
    (∀ task ∈ final.tasks, final.rendering = some task.id → task.phase ≠ .ended →
        task.activation = final.machine.activation ∧ final.status = .running) ∧
      (∀ task ∈ final.tasks, final.rendering ≠ some task.id → task.phase ≠ .ended →
        task.isCancelled = true ∨ runner.CompletedOwn calls task.id) ∧
      ∀ task, final.serving? = some task →
        (∀ exchange ∈ final.machine.exchanges (final.callsOf .serve),
          exchange.Carries task.activation →
          (task.activation : Int) ≠ exchange.before.activation ∨
            exchange.before.run.status ≠ .running →
          exchange.after = exchange.before) ∧
        (task.activation ≠ final.machine.activation →
          (final.perform .serve).machine = final.machine) := by
  dsimp only
  have orderly := Runner.isOrderly_create graph registry strict eventId cap (some .empty)
  have staffed := Runner.staffed_create graph registry strict eventId cap
  generalize Runner.create graph registry strict eventId cap (some .empty) = runner at *
  obtain ⟨later, played, _⟩ := staffed.play orderly rfl driven returned
  have orderlyAfter := ((runner.drives_play calls).play orderly).1
  have tasks_eq : (runner.play calls).tasks = later.tasks := by
    simp [Runner.tasks, played.agenda_eq]
  rw [tasks_eq]
  refine ⟨played.current, ?_, ?_⟩
  · intro task member apart live
    exact (played.parted task member apart live).imp_right fun done => done.resolve_left id
  · intro task serves
    refine ⟨?_, Runner.serve_of_late orderlyAfter serves⟩
    intro exchange member carries late
    exact (Machine.isStep_of_mem_exchanges member).of_late carries late

namespace Booth

/-- Renderers that go on after they have completed their step. -/
def eager : Registry :=
  ((Registry.usual.register Kind.touchToStart ⟨.custom
      [.complete "default" (some [(.text "more", .bool false)]) true,
        .sleep (.ofInt 1) none, .complete "default" none true] false, none⟩).1.register "PRINT"
    ⟨.custom [.sleep (.ofInt 9) none, .complete "default" none false] false, none⟩).1

/-- A runner of the booth that renders on an agenda. -/
def rendering : Runner := .create graph eager false "opening" 3 (some .empty)

/-- The guest touches the screen and goes back while the print is under way. -/
def hurry : List HostCall := [.start, .serve, .serve, .elapse none, .goBack]

/-- The rendering of the first stay has completed its step and is about to do so again, that of the
second was asked to stop, and the third is current. -/
theorem hurry_renders :
    let final := rendering.play hurry
    final.tasks.map (fun task => (task.id, task.activation, task.isCancelled)) =
        [(0, 1, false), (1, 3, true), (2, 5, false)] ∧
      (∃ task ∈ final.tasks, task.id = 2 ∧ task.activation = final.machine.activation ∧
        final.status = .running) ∧
      rendering.CompletedOwn hurry 0 ∧ (final.perform .serve).machine = final.machine := by
  have driven : ∀ call ∈ hurry, call.IsOfRunner := by simp [hurry, HostCall.IsOfRunner]
  obtain ⟨current, parted, late⟩ :=
    only_current_renderings_live graph eager false "opening" 3 hurry driven (by decide +kernel)
  refine ⟨by decide +kernel, ?_, ?_, ?_⟩
  · obtain ⟨task, member, here, live, number⟩ : ∃ task ∈ (rendering.play hurry).tasks,
        (rendering.play hurry).rendering = some task.id ∧ task.phase ≠ .ended ∧ task.id = 2 := by
      decide +kernel
    exact ⟨task, member, number, current task member here live⟩
  · obtain ⟨task, member, apart, live, free, number⟩ : ∃ task ∈ (rendering.play hurry).tasks,
        (rendering.play hurry).rendering ≠ some task.id ∧ task.phase ≠ .ended ∧
          task.isCancelled = false ∧ task.id = 0 := by decide +kernel
    rcases parted task member apart live with asked | done
    · rw [free] at asked
      cases asked
    · exact number ▸ done
  · obtain ⟨task, serves, overdue⟩ : ∃ task ∈ (rendering.play hurry).serving?,
        task.activation ≠ (rendering.play hurry).machine.activation := by decide +kernel
    exact (late task serves).2 overdue

end Booth

end GuestFlow
