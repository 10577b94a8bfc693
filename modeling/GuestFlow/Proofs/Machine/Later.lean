import GuestFlow.Proofs.Machine.Step

/-!
# Later machines

A machine compares activation tokens and nothing else; it counts events and never looks at
the count.  So a machine that has counted further, by so many tokens and so many events,
does by every call what the other does, only later: its tokens stay ahead by the one number
and its events by the other, and it replies the same (`Machine.perform_later`).  A call that
names a token has to name the later one.
-/

set_option autoImplicit false

namespace GuestFlow

/-- The event with a number that is larger by so many events. -/
def Event.later (numbers : Nat) (event : Event) : Event :=
  { event with sequence := event.sequence + numbers }

/-- The call with a token, if it names one, that is larger by so many activations. -/
def Call.later (tokens : Nat) : Call → Call
  | .complete output additions activation isAutomatic =>
    .complete output additions (activation.map fun token => token + tokens) isAutomatic
  | call => call

theorem Call.later_zero (call : Call) : call.later 0 = call := by
  cases call with
  | complete output additions activation => cases activation <;> simp [later]
  | _ => rfl

namespace Machine

/-- The machine once it has counted so many more activations and so many more events. -/
def later (tokens numbers : Nat) (machine : Machine) : Machine :=
  { machine with
    events := machine.events.map (Event.later numbers)
    activation := machine.activation + tokens
    sequence := machine.sequence + numbers }

/-- The second outcome is the first one, later. -/
structure Postpones {α : Type} (tokens numbers : Nat) (first second : Outcome α) : Prop where
  machine_eq : second.machine = first.machine.later tokens numbers
  reply_eq : second.reply = first.reply
  announcement_eq : second.announcement = first.announcement.map (Event.later numbers)

variable (tokens numbers : Nat) (machine : Machine)

@[simp] theorem later_graph : (machine.later tokens numbers).graph = machine.graph := rfl

@[simp] theorem later_run : (machine.later tokens numbers).run = machine.run := rfl

@[simp] theorem later_evaluate (node : Option Node) :
    (machine.later tokens numbers).evaluate node = machine.evaluate node := rfl

theorem later_enter (run : Run) :
    (machine.later tokens numbers).enter run = (machine.enter run).later tokens numbers := by
  simp [enter, later, Nat.add_right_comm]

/-- Tokens are only compared, so it does not matter how far they have been counted. -/
theorem later_isStale (activation : Option Int) :
    (machine.later tokens numbers).isStale (activation.map fun token => token + tokens) =
      machine.isStale activation := by
  cases activation with
  | none => rfl
  | some token =>
      change (token + tokens != ((machine.activation + tokens : Nat) : Int)) =
        (token != (machine.activation : Int))
      rw [Bool.eq_iff_iff, bne_iff_ne, bne_iff_ne]
      omega

theorem later_unchanged {α : Type} (reply : α) (journal other : Journal) :
    Postpones tokens numbers (machine.unchanged reply journal)
      ((machine.later tokens numbers).unchanged reply other) :=
  ⟨rfl, rfl, rfl⟩

/-- An event that is announced later gets a larger number and is the same otherwise. -/
theorem later_announce {α : Type} {event : Nat → Event}
    (numbered : ∀ sequence, event (sequence + numbers) = (event sequence).later numbers)
    (reply : α) (journal other : Journal) :
    Postpones tokens numbers (machine.announce event reply journal)
      ((machine.later tokens numbers).announce event reply other) := by
  have next : (machine.later tokens numbers).sequence + 1 = machine.sequence + 1 + numbers :=
    Nat.add_right_comm ..
  unfold announce
  dsimp only
  rw [next, numbered]
  exact ⟨by simp [later], rfl, rfl⟩

/-- An activation that is entered later has a larger token. -/
theorem later_enter_announce {α : Type} {event : Nat → Event}
    (numbered : ∀ sequence, event (sequence + numbers) = (event sequence).later numbers)
    (run : Run) (reply : α) (journal other : Journal) :
    Postpones tokens numbers ((machine.enter run).announce event reply journal)
      (((machine.later tokens numbers).enter run).announce event reply other) := by
  rw [later_enter]
  exact later_announce tokens numbers _ numbered reply journal other

/-! ## Calls -/

theorem start_later :
    Postpones tokens numbers machine.start (machine.later tokens numbers).start := by
  unfold start
  rw [later_run]
  by_cases idle : machine.run.status = .idle
  · rw [if_pos idle, if_pos idle]
    exact later_enter_announce tokens numbers { machine with events := [] } (fun _ => rfl) ..
  · rw [if_neg idle, if_neg idle]
    exact later_unchanged ..

theorem fail_later (run : Run) (fault : Fault) :
    Postpones tokens numbers (machine.fail run fault)
      ((machine.later tokens numbers).fail run fault) := by
  unfold fail
  exact later_enter_announce tokens numbers machine (fun _ => rfl) ..

theorem leave_later (node : Node) (output : String) (additions : Record) (isAutomatic : Bool) :
    Postpones tokens numbers (machine.leave node output additions isAutomatic)
      ((machine.later tokens numbers).leave node output additions isAutomatic) := by
  unfold leave
  simp only [later_graph, later_run]
  cases machine.graph.next node.id output with
  | error fault => exact fail_later ..
  | ok next =>
      cases next with
      | none => exact later_enter_announce tokens numbers machine (fun _ => rfl) ..
      | some next => exact later_enter_announce tokens numbers machine (fun _ => rfl) ..

theorem reject_later (node : Node) (output : String) :
    Postpones tokens numbers (machine.reject node output)
      ((machine.later tokens numbers).reject node output) := by
  unfold reject
  dsimp only [later]
  split
  · exact ⟨rfl, rfl, rfl⟩
  · exact ⟨rfl, rfl, rfl⟩

theorem complete_later (output : String) (additions : Record) (activation : Option Int)
    (isAutomatic : Bool) :
    Postpones tokens numbers (machine.complete output additions activation isAutomatic)
      ((machine.later tokens numbers).complete output additions
        (activation.map fun token => token + tokens) isAutomatic) := by
  unfold complete
  rw [later_run, later_graph, later_isStale]
  split
  · rename_i current running here
    by_cases stale : machine.isStale activation = true
    · rw [if_pos stale, if_pos stale]
      exact later_unchanged ..
    · rw [if_neg stale, if_neg stale]
      cases machine.graph.node? current with
      | none => exact fail_later ..
      | some node =>
          dsimp only
          by_cases allowed : node.allows output = true
          · rw [if_pos allowed, if_pos allowed]
            exact leave_later ..
          · rw [if_neg allowed, if_neg allowed]
            exact reject_later ..
  · exact later_unchanged ..

theorem goBack_later :
    Postpones tokens numbers machine.goBack (machine.later tokens numbers).goBack := by
  unfold goBack
  rw [later_run]
  cases machine.run.history with
  | nil => exact later_unchanged ..
  | cons entry earlier =>
      by_cases able : machine.run.canGoBack = true
      · dsimp only
        rw [if_pos able, if_pos able, later_enter]
        cases sortWith Value.isBelow entry.touched.keys with
        | error fault => exact ⟨rfl, rfl, rfl⟩
        | ok restored => exact later_announce _ _ _ (fun _ => rfl) ..
      · dsimp only
        rw [if_neg able, if_neg able]
        exact later_unchanged ..

/-- Discarding a run keeps the count of the events, and so the distance. -/
theorem reset_later :
    Postpones tokens numbers machine.reset (machine.later tokens numbers).reset := by
  have cleared := later_enter tokens numbers
    { machine with events := [], lastRejection := none } .fresh
  exact ⟨cleared, rfl, rfl⟩

/-- **A later machine does by every call what the machine does, later**, and replies the same. -/
theorem perform_later (call : Call) :
    Postpones tokens numbers (machine.perform call)
      ((machine.later tokens numbers).perform (call.later tokens)) := by
  have mapped : ∀ {α : Type} {first second : Outcome α} (change : α → Reply),
      Postpones tokens numbers first second →
        Postpones tokens numbers { first with reply := first.reply.map change }
          { second with reply := second.reply.map change } :=
    fun change postpones =>
      ⟨postpones.machine_eq, congrArg (Except.map change) postpones.reply_eq,
        postpones.announcement_eq⟩
  cases call with
  | start => exact mapped .flag (start_later ..)
  | complete => exact mapped .verdict (complete_later ..)
  | goBack => exact mapped .entry (goBack_later ..)
  | reset => exact mapped (fun _ => .nothing) (reset_later ..)
  | evaluate =>
      unfold perform
      dsimp only [Call.later]
      rw [later_evaluate]
      cases machine.evaluate none with
      | error fault => exact ⟨rfl, rfl, rfl⟩
      | ok answer => exact later_unchanged ..

end Machine

end GuestFlow
