import GuestFlow.Proofs.Runner.Agenda
import GuestFlow.Proofs.Runner.Equipment

/-!
# Renderings and activations

Each stay at a node is rendered by a task of its own, and when the stay is over its task is
asked to stop.  There is one exception: a task that ends its stay itself, by completing its
step, goes on with whatever it has left to do.

So the tasks of a runner fall into three classes: the rendering that the runner holds, tasks
that have completed their own step, and tasks that have ended or were asked to stop.
`Accounted` says so of an agenda, and is kept while the engine moves on; `Staffed` adds that
the rendering belongs to the current stay, and is restored whenever a step is given to its
renderer (`Accounted.render`).
-/

set_option autoImplicit false

namespace GuestFlow.Runner

/-! ## Tasks that are accounted for -/

/-- Every task that is not the rendering has ended, was asked to stop or is one of those that have
completed their own steps; these belong to earlier activations. -/
structure Accounted (completed : Nat → Prop) (activation : Nat) (rendering : Option Nat)
    (agenda : Agenda) : Prop where
  kept : agenda.IsKept
  known : ∀ id, completed id → id < agenda.created
  overtaken : ∀ task ∈ agenda.tasks, completed task.id → task.activation < activation
  parted : ∀ task ∈ agenda.tasks, rendering ≠ some task.id → task.phase ≠ .ended →
    task.isCancelled = true ∨ completed task.id

/-- Moreover, the rendering was created for the current activation of a running machine. -/
structure Staffed (completed : Nat → Prop) (runner : Runner) (agenda : Agenda) : Prop
    extends Accounted completed runner.machine.activation runner.rendering agenda where
  agenda_eq : runner.agenda = some agenda
  current : ∀ task ∈ agenda.tasks, runner.rendering = some task.id → task.phase ≠ .ended →
    task.activation = runner.machine.activation ∧ runner.status = .running

section Accounts

variable {completed : Nat → Prop} {activation : Nat} {rendering : Option Nat}
  {agenda later : Agenda}

theorem Accounted.continue (accounted : Accounted completed activation rendering agenda)
    (continues : agenda.Continues later) (kept : later.IsKept) :
    Accounted completed activation rendering later := by
  refine ⟨kept, ?_, ?_, ?_⟩
  · intro id done
    exact continues.created_eq ▸ accounted.known id done
  · intro task member done
    obtain ⟨old, inOld, becomes⟩ := continues.becomes task member
    rw [becomes.activation_eq]
    exact accounted.overtaken old inOld (becomes.id_eq ▸ done)
  · intro task member apart live
    obtain ⟨old, inOld, becomes⟩ := continues.becomes task member
    rw [becomes.id_eq] at apart ⊢
    exact (accounted.parted old inOld apart (becomes.live live)).imp_left (becomes.asked live)

/-- The machine moves on, and a task may have completed its own step. -/
theorem Accounted.overtake {others : Nat → Prop} {now : Nat}
    (accounted : Accounted completed activation rendering agenda) (onward : activation ≤ now)
    (more : ∀ id, completed id → others id)
    (known : ∀ id, others id → completed id ∨ ∃ task ∈ agenda.tasks, task.id = id ∧
      task.activation < now) :
    Accounted others now rendering agenda := by
  refine ⟨accounted.kept, ?_, ?_, ?_⟩
  · intro id done
    rcases known id done with before | ⟨task, member, rfl, _⟩
    · exact accounted.known id before
    · exact accounted.kept.numbered task member
  · intro task member done
    rcases known task.id done with before | ⟨other, inOther, same, less⟩
    · exact Nat.lt_of_lt_of_le (accounted.overtaken task member before) onward
    · rwa [accounted.kept.alone other inOther task member same] at less
  · intro task member apart live
    exact (accounted.parted task member apart live).imp_right (more task.id)

theorem Accounted.onward {now : Nat} (onward : activation ≤ now)
    (accounted : Accounted completed activation rendering agenda) :
    Accounted completed now rendering agenda :=
  accounted.overtake onward (fun _ done => done) fun _ done => .inl done

/-- The rendering is asked to stop and forgotten, unless its task has completed its own step. -/
theorem Accounted.cancel {id : Nat} (accounted : Accounted completed activation (some id) agenda)
    (exempt : agenda.running = some id → completed id) :
    Accounted completed activation none (agenda.cancel id) := by
  obtain ⟨kept, continues, _⟩ := accounted.kept.cancel id
  have carried := accounted.continue continues kept
  refine ⟨kept, carried.known, carried.overtaken, ?_⟩
  intro task member _ live
  by_cases named : task.id = id
  · by_cases turn : agenda.running = some id
    · exact .inr (named ▸ exempt turn)
    · exact .inl (accounted.kept.isCancelled_of_cancel turn member named live)
  · refine carried.parted task member ?_ live
    rintro same
    exact named (Option.some.inj same).symm

theorem Staffed.congr {others : Nat → Prop} {runner : Runner}
    (staffed : runner.Staffed completed agenda) (same : ∀ id, completed id ↔ others id) :
    runner.Staffed others agenda := by
  obtain rfl : completed = others := funext fun id => propext (same id)
  exact staffed

/-- The agenda of a staffed runner goes on. -/
theorem Staffed.continue {runner : Runner} (staffed : runner.Staffed completed agenda)
    (continues : agenda.Continues later) (kept : later.IsKept) :
    { runner with agenda := some later }.Staffed completed later := by
  refine ⟨staffed.toAccounted.continue continues kept, rfl, ?_⟩
  intro task member here live
  obtain ⟨old, inOld, becomes⟩ := continues.becomes task member
  rw [becomes.id_eq] at here
  rw [becomes.activation_eq]
  exact staffed.current old inOld here (becomes.live live)

end Accounts

/-! ## Giving a step to its renderer -/

/-- What a runner renders on, and what. -/
def desk (runner : Runner) : Option Agenda × Option Nat := (runner.agenda, runner.rendering)

theorem isAside_desk : IsAside desk := ⟨fun _ _ => rfl, fun _ _ => rfl, fun _ _ => rfl⟩

/-- Neither the rendering nor the stay at a node has changed. -/
structure Unmoved (before after : Runner) : Prop where
  desk_eq : after.desk = before.desk
  activation_eq : after.machine.activation = before.machine.activation
  status_eq : after.status = before.status

/-- The engine may have moved on, but nothing was rendered or stopped. -/
structure Onward (before after : Runner) : Prop where
  desk_eq : after.desk = before.desk
  activation_le : before.machine.activation ≤ after.machine.activation

theorem Staffed.of_unmoved {completed : Nat → Prop} {agenda : Agenda} {before after : Runner}
    (staffed : before.Staffed completed agenda) (unmoved : before.Unmoved after) :
    after.Staffed completed agenda := by
  obtain ⟨agenda_eq, rendering_eq⟩ := Prod.ext_iff.mp unmoved.desk_eq
  dsimp only [desk] at agenda_eq rendering_eq
  refine ⟨?_, agenda_eq.trans staffed.agenda_eq, ?_⟩
  · rw [unmoved.activation_eq, rendering_eq]
    exact staffed.toAccounted
  · rw [unmoved.activation_eq, rendering_eq, unmoved.status_eq]
    exact staffed.current

section Render

variable {completed : Nat → Prop} {agenda : Agenda} {runner : Runner}

/-- A runner whose rendering is forgotten. -/
theorem Accounted.cancelRendering (agenda_eq : runner.agenda = some agenda) {activation : Nat}
    (accounted : Accounted completed activation runner.rendering agenda)
    (exempt : ∀ id, runner.rendering = some id → agenda.running = some id → completed id) :
    ∃ later, runner.cancelRendering.desk = (some later, none) ∧
      Accounted completed activation none later ∧ later.running = agenda.running ∧
      ∀ task ∈ agenda.tasks, agenda.running = some task.id → task ∈ later.tasks := by
  unfold Runner.cancelRendering
  cases held : runner.rendering with
  | none =>
      rw [held] at accounted
      exact ⟨agenda, Prod.ext agenda_eq held, accounted, rfl, fun _ member _ => member⟩
  | some id =>
      rw [held] at accounted
      refine ⟨agenda.cancel id, ?_, accounted.cancel (exempt id held),
        (accounted.kept.cancel id).2.2, fun task member turn =>
          Agenda.mem_cancel_of_running member turn id⟩
      simp [desk, agenda_eq]

theorem cancelRendering_machine (runner : Runner) :
    runner.cancelRendering.machine = runner.machine := by
  unfold Runner.cancelRendering
  split
  · rfl
  · rfl

/-- **Giving the current step to its renderer makes the rendering current**, and parts with the one
before. -/
theorem Accounted.render (agenda_eq : runner.agenda = some agenda)
    (accounted : Accounted completed runner.machine.activation runner.rendering agenda)
    (exempt : ∀ id, runner.rendering = some id → agenda.running = some id → completed id) :
    ∃ later, runner.render.Staffed completed later ∧ later.running = agenda.running ∧
      ∀ task ∈ agenda.tasks, agenda.running = some task.id → task ∈ later.tasks := by
  obtain ⟨middle, desk_eq, between, running_eq, stays⟩ := accounted.cancelRendering agenda_eq exempt
  have machine_eq := runner.cancelRendering_machine
  obtain ⟨middle_eq, held⟩ := Prod.ext_iff.mp desk_eq
  dsimp only [desk] at middle_eq held
  unfold Runner.render
  generalize runner.cancelRendering = cancelled at middle_eq held machine_eq
  dsimp only
  rw [← machine_eq] at between
  rw [middle_eq]
  cases given : cancelled.props? with
  | none =>
      refine ⟨middle, ⟨held ▸ between, middle_eq, ?_⟩, running_eq, stays⟩
      intro task _ here
      rw [held] at here
      cases here
  | some props =>
      obtain ⟨stands, activated⟩ := standsAt_of_props? given
      refine ⟨_, ⟨⟨between.kept.create .., ?_, ?_, ?_⟩, rfl, ?_⟩, running_eq, ?_⟩
      · intro id done
        exact Nat.lt_succ_of_lt (between.known id done)
      · intro task member done
        rcases Agenda.mem_create_iff.mp member with old | rfl
        · exact between.overtaken task old done
        · exact absurd (between.known _ done) (Nat.lt_irrefl _)
      · intro task member apart live
        rcases Agenda.mem_create_iff.mp member with old | rfl
        · exact between.parted task old nofun live
        · exact absurd rfl apart
      · intro task member here _
        rcases Agenda.mem_create_iff.mp member with old | rfl
        · have same : middle.created = task.id := Option.some.inj here
          exact absurd same.symm (Nat.ne_of_lt (between.kept.numbered task old))
        · exact ⟨activated, stands.running⟩
      · intro task member turn
        exact Agenda.mem_create_iff.mpr (.inl (stays task member turn))

end Render

end GuestFlow.Runner
