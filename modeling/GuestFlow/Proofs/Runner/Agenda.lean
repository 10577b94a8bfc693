import GuestFlow.Runner.Agenda

/-!
# Tasks on an agenda

Operations of an agenda put tasks in the place of tasks.  A task that stands on an agenda
after an operation is what one of the tasks before it has become (`Task.Becomes`): it has
kept its number and the activation it was created for, it has not come back to life, and
if it was asked to stop it still is.  So what is known of the tasks of an agenda carries
over from operation to operation (`Agenda.Continues`); only `Agenda.create` adds a task.

Numbers tell tasks apart, and a task that has ended has nothing left to do
(`Agenda.IsKept`).
-/

set_option autoImplicit false

namespace GuestFlow

/-- What a task can become. -/
structure Task.Becomes (task later : Task) : Prop where
  id_eq : later.id = task.id
  activation_eq : later.activation = task.activation
  live : later.phase ≠ .ended → task.phase ≠ .ended
  asked : later.phase ≠ .ended → task.isCancelled = true → later.isCancelled = true

theorem Task.Becomes.refl (task : Task) : task.Becomes task :=
  ⟨rfl, rfl, fun live => live, fun _ asked => asked⟩

namespace Agenda

/-- Tasks are numbered, no number serves twice, and tasks that have ended have nothing left to
do. -/
structure IsKept (agenda : Agenda) : Prop where
  numbered : ∀ task ∈ agenda.tasks, task.id < agenda.created
  alone : ∀ first ∈ agenda.tasks, ∀ second ∈ agenda.tasks, first.id = second.id → first = second
  spent : ∀ task ∈ agenda.tasks, task.phase = .ended → task.actions = []

/-- The tasks of one agenda have become those of another, and no task was created. -/
structure Continues (agenda later : Agenda) : Prop where
  created_eq : later.created = agenda.created
  becomes : ∀ task ∈ later.tasks, ∃ old ∈ agenda.tasks, old.Becomes task

variable {agenda : Agenda} {task other : Task} {id : Nat}

theorem isKept_empty : empty.IsKept :=
  ⟨by simp [empty], by simp [empty], by simp [empty]⟩

theorem mem_of_task? (found : agenda.task? id = some task) :
    task ∈ agenda.tasks ∧ task.id = id :=
  ⟨List.mem_of_find?_eq_some found, by simpa using List.find?_some found⟩

theorem ne_of_task?_none (missing : agenda.task? id = none) (member : task ∈ agenda.tasks) :
    task.id ≠ id := by
  simpa using List.find?_eq_none.mp missing task member

/-! ## Putting a task in the place of another -/

theorem mem_put_iff :
    other ∈ (agenda.put task).tasks ↔
      (other ∈ agenda.tasks ∧ other.id ≠ task.id) ∨
        (other = task ∧ ∃ old ∈ agenda.tasks, old.id = task.id) := by
  unfold put
  rw [List.mem_map]
  constructor
  · rintro ⟨old, member, rfl⟩
    split
    · rename_i same
      exact .inr ⟨rfl, old, member, same⟩
    · rename_i differs
      exact .inl ⟨member, differs⟩
  · rintro (⟨member, differs⟩ | ⟨rfl, old, member, same⟩)
    · exact ⟨other, member, if_neg differs⟩
    · exact ⟨old, member, if_pos same⟩

section Put

variable {old : Task} (member : old ∈ agenda.tasks) (becomes : old.Becomes task)
include member becomes

theorem IsKept.put (kept : agenda.IsKept)
    (spent : task.phase = .ended → task.actions = []) : (agenda.put task).IsKept := by
  refine ⟨?_, ?_, ?_⟩
  · intro other put
    rcases mem_put_iff.mp put with ⟨still, _⟩ | ⟨rfl, _⟩
    · exact kept.numbered other still
    · exact becomes.id_eq ▸ kept.numbered old member
  · intro first inFirst second inSecond same
    rcases mem_put_iff.mp inFirst with ⟨stillFirst, differs⟩ | ⟨rfl, _⟩
    · rcases mem_put_iff.mp inSecond with ⟨stillSecond, _⟩ | ⟨rfl, _⟩
      · exact kept.alone first stillFirst second stillSecond same
      · exact absurd same differs
    · rcases mem_put_iff.mp inSecond with ⟨_, differs⟩ | ⟨rfl, _⟩
      · exact absurd same.symm differs
      · rfl
  · intro other put hasEnded
    rcases mem_put_iff.mp put with ⟨still, _⟩ | ⟨rfl, _⟩
    · exact kept.spent other still hasEnded
    · exact spent hasEnded

theorem continues_put : agenda.Continues (agenda.put task) := by
  refine ⟨rfl, ?_⟩
  intro other put
  rcases mem_put_iff.mp put with ⟨still, _⟩ | ⟨rfl, _⟩
  · exact ⟨other, still, .refl other⟩
  · exact ⟨old, member, becomes⟩

end Put

/-! ## Operations -/

theorem Continues.refl (agenda : Agenda) : agenda.Continues agenda :=
  ⟨rfl, fun task member => ⟨task, member, .refl task⟩⟩

/-- The queue, the clock and whose turn it is have no part in it. -/
theorem IsKept.of_tasks_eq {later : Agenda} (kept : agenda.IsKept)
    (tasks_eq : later.tasks = agenda.tasks) (created_eq : later.created = agenda.created) :
    later.IsKept := by
  refine ⟨?_, ?_, ?_⟩
  · rw [tasks_eq, created_eq]
    exact kept.numbered
  · rw [tasks_eq]
    exact kept.alone
  · rw [tasks_eq]
    exact kept.spent

theorem Continues.of_tasks_eq {middle later : Agenda} (continues : agenda.Continues middle)
    (tasks_eq : later.tasks = middle.tasks) (created_eq : later.created = middle.created) :
    agenda.Continues later := by
  refine ⟨created_eq.trans continues.created_eq, ?_⟩
  rw [tasks_eq]
  exact continues.becomes

/-- Asking a task to stop keeps the agenda and what is known of its tasks. -/
theorem IsKept.cancel (kept : agenda.IsKept) (id : Nat) :
    (agenda.cancel id).IsKept ∧ agenda.Continues (agenda.cancel id) ∧
      (agenda.cancel id).running = agenda.running := by
  unfold Agenda.cancel
  split
  · exact ⟨kept, .refl agenda, rfl⟩
  · split
    · exact ⟨kept, .refl agenda, rfl⟩
    · rename_i task found
      have member := (mem_of_task? found).1
      split
      · exact ⟨kept, .refl agenda, rfl⟩
      · rename_i waiting
        have becomes : task.Becomes { task with isCancelled := true } :=
          ⟨rfl, rfl, fun live => live, fun _ _ => rfl⟩
        exact ⟨kept.put member becomes fun hasEnded => by simp [waiting] at hasEnded,
          continues_put member becomes, rfl⟩
      · rename_i moment waiting
        have becomes : task.Becomes { task with isCancelled := true, phase := .ready } :=
          ⟨rfl, rfl, fun _ => by simp [waiting], fun _ _ => rfl⟩
        exact ⟨(kept.put member becomes fun hasEnded => nomatch hasEnded).of_tasks_eq rfl rfl,
          (continues_put member becomes).of_tasks_eq rfl rfl, rfl⟩

/-- A task that was asked to stop has ended or has been told, unless it is its turn. -/
theorem IsKept.isCancelled_of_cancel (kept : agenda.IsKept) (waits : agenda.running ≠ some id)
    (member : task ∈ (agenda.cancel id).tasks) (named : task.id = id)
    (live : task.phase ≠ .ended) : task.isCancelled = true := by
  unfold Agenda.cancel at member
  rw [if_neg waits] at member
  cases found : agenda.task? id with
  | none =>
      rw [found] at member
      exact absurd named (ne_of_task?_none found member)
  | some old =>
      obtain ⟨inOld, oldNamed⟩ := mem_of_task? found
      rw [found] at member
      dsimp only at member
      split at member
      · rename_i hasEnded
        have same := kept.alone task member old inOld (named.trans oldNamed.symm)
        exact absurd (same ▸ hasEnded) live
      · rcases mem_put_iff.mp member with ⟨_, differs⟩ | ⟨rfl, _⟩
        · exact absurd (named.trans oldNamed.symm) differs
        · rfl
      · rcases mem_put_iff.mp member with ⟨_, differs⟩ | ⟨rfl, _⟩
        · exact absurd (named.trans oldNamed.symm) differs
        · rfl

/-- Asking any other task to stop leaves a task as it is. -/
theorem mem_cancel_of_running (member : task ∈ agenda.tasks)
    (turn : agenda.running = some task.id) (id : Nat) : task ∈ (agenda.cancel id).tasks := by
  unfold Agenda.cancel
  split
  · exact member
  · rename_i waits
    split
    · exact member
    · rename_i old found
      have differs : task.id ≠ old.id := by
        rw [(mem_of_task? found).2]
        rintro rfl
        exact waits turn
      split
      · exact member
      · exact mem_put_iff.mpr (.inl ⟨member, differs⟩)
      · exact mem_put_iff.mpr (.inl ⟨member, differs⟩)

theorem mem_create_iff {name node : String} {activation : Nat} {actions : List Action} :
    task ∈ (agenda.create name node activation actions).1.tasks ↔
      task ∈ agenda.tasks ∨
        task = ⟨agenda.created, name, node, activation, actions, .ready, false, none⟩ := by
  simp [create, enqueue]

theorem IsKept.create (kept : agenda.IsKept) (name node : String) (activation : Nat)
    (actions : List Action) : (agenda.create name node activation actions).1.IsKept := by
  refine ⟨?_, ?_, ?_⟩
  · intro task member
    rcases mem_create_iff.mp member with old | rfl
    · exact Nat.lt_succ_of_lt (kept.numbered task old)
    · exact Nat.lt_succ_self _
  · intro first inFirst second inSecond same
    rcases mem_create_iff.mp inFirst with oldFirst | rfl
    · rcases mem_create_iff.mp inSecond with oldSecond | rfl
      · exact kept.alone first oldFirst second oldSecond same
      · exact absurd same (Nat.ne_of_lt (kept.numbered first oldFirst))
    · rcases mem_create_iff.mp inSecond with oldSecond | rfl
      · exact absurd same.symm (Nat.ne_of_lt (kept.numbered second oldSecond))
      · rfl
  · intro task member hasEnded
    rcases mem_create_iff.mp member with old | rfl
    · exact kept.spent task old hasEnded
    · cases hasEnded

theorem running_suspend (agenda : Agenda) (task : Task) (seconds : Binary64)
    (onCancel : Option Remark) (rest : List Action) :
    (agenda.suspend task seconds onCancel rest).running = agenda.running := by
  unfold suspend
  dsimp only
  split
  · rfl
  · rfl

section Turn

variable (member : task ∈ agenda.tasks)
include member

theorem IsKept.finish (kept : agenda.IsKept) :
    (agenda.finish task).IsKept ∧ agenda.Continues (agenda.finish task) := by
  have becomes : task.Becomes { task with phase := .ended, actions := [] } :=
    ⟨rfl, rfl, fun live => absurd rfl live, fun live => absurd rfl live⟩
  exact ⟨kept.put member becomes fun _ => rfl, continues_put member becomes⟩

theorem IsKept.suspend (kept : agenda.IsKept) (live : task.phase ≠ .ended) (seconds : Binary64)
    (onCancel : Option Remark) (rest : List Action) :
    (agenda.suspend task seconds onCancel rest).IsKept ∧
      agenda.Continues (agenda.suspend task seconds onCancel rest) := by
  unfold Agenda.suspend
  dsimp only
  split
  · have becomes : task.Becomes { task with
        actions := rest, onCancel := onCancel, phase := .asleep (agenda.clock.add seconds) } :=
      ⟨rfl, rfl, fun _ => live, fun _ asked => asked⟩
    exact ⟨kept.put member becomes (fun hasEnded => nomatch hasEnded), continues_put member becomes⟩
  · have becomes : task.Becomes { task with
        actions := rest, onCancel := onCancel, phase := .ready } :=
      ⟨rfl, rfl, fun _ => live, fun _ asked => asked⟩
    exact ⟨(kept.put member becomes fun hasEnded => nomatch hasEnded).of_tasks_eq rfl rfl,
      (continues_put member becomes).of_tasks_eq rfl rfl⟩

theorem IsKept.wake (kept : agenda.IsKept) (live : task.phase ≠ .ended) (moment : Binary64) :
    (agenda.wake moment task).IsKept ∧ agenda.Continues (agenda.wake moment task) := by
  have becomes : task.Becomes { task with phase := .ready } :=
    ⟨rfl, rfl, fun _ => live, fun _ asked => asked⟩
  have put := kept.put member becomes fun hasEnded => nomatch hasEnded
  have continues := continues_put member becomes
  exact ⟨put.of_tasks_eq rfl rfl, continues.of_tasks_eq rfl rfl⟩

end Turn

/-- The task that is woken next is one that waits. -/
theorem mem_of_next? {moment : Binary64} (next : agenda.next? = some (moment, task)) :
    task ∈ agenda.tasks ∧ task.phase ≠ .ended := by
  have waits : ∀ waking ∈ agenda.tasks.filterMap fun task =>
      (wakingTime? task).map fun moment => (moment, task),
      waking.2 ∈ agenda.tasks ∧ waking.2.phase ≠ .ended := by
    intro waking member
    obtain ⟨old, inOld, made⟩ := List.mem_filterMap.mp member
    obtain ⟨time, asleep, rfl⟩ := Option.map_eq_some_iff.mp made
    refine ⟨inOld, fun hasEnded => ?_⟩
    dsimp only at hasEnded
    simp [wakingTime?, hasEnded] at asleep
  have chosen : ∀ (rest : List (Binary64 × Task)) (first : Binary64 × Task),
      rest.foldl earlier first ∈ first :: rest := by
    intro rest
    induction rest with
    | nil => simp
    | cons second rest ih =>
        intro first
        rcases List.mem_cons.mp (ih (earlier first second)) with same | later
        · rw [List.foldl_cons, same]
          unfold earlier
          split
          · simp
          · simp
        · exact List.mem_cons_of_mem _ (List.mem_cons_of_mem _ later)
  unfold next? at next
  split at next
  · cases next
  · rename_i first rest listed
    have found := chosen rest first
    rw [← listed, Option.some.inj next] at found
    exact waits _ found

end Agenda

end GuestFlow
