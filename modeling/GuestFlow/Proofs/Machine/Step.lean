import GuestFlow.Engine.Listener
import GuestFlow.Proofs.Graph

/-!
# The steps of a machine

`Machine.Step` lists the ways in which a call of a machine can end: for each of them
when it is taken, what the machine is afterwards, and the reply.  `Machine.step_perform`
says that carrying out a call ends in one of these ways, so whatever all of them keep,
every run of calls keeps (`Machine.play_keeps`).

A way that changes the run enters a new activation (`Machine.enter`) and, with one
exception, keeps an event (`Machine.keep`): a step that was undone although the keys it
restored have no order is not announced.
-/

set_option autoImplicit false

namespace GuestFlow

namespace Machine

/-- Keeps an event under the next number. -/
def keep (machine : Machine) (event : Nat → Event) : Machine :=
  { machine with
    sequence := machine.sequence + 1
    events := machine.events ++ [event (machine.sequence + 1)] }

/-- The machine runs and stands at a node of its graph. -/
structure StandsAt (machine : Machine) (node : Node) : Prop where
  running : machine.run.status = .running
  current : machine.run.current = some node.id
  found : machine.graph.node? node.id = some node

theorem StandsAt.of_node? {machine : Machine} {current : String} {node : Node}
    (running : machine.run.status = .running) (here : machine.run.current = some current)
    (found : machine.graph.node? current = some node) : machine.StandsAt node := by
  have same := Graph.id_of_node? found
  subst same
  exact ⟨running, here, found⟩

theorem StandsAt.currentNode_eq {machine : Machine} {node : Node} (stands : machine.StandsAt node) :
    machine.currentNode = some node := by
  simp [currentNode, stands.current, stands.found]

theorem standsAt_of_currentNode {machine : Machine} {node : Node}
    (running : machine.run.status = .running) (here : machine.currentNode = some node) :
    machine.StandsAt node := by
  obtain ⟨current, stood, found⟩ := Option.bind_eq_some_iff.mp here
  exact .of_node? running stood found

/-! ## The ways a call can end -/

/-- `machine.Step call after reply`: the call can leave the machine as `after`, with the reply. -/
inductive Step (machine : Machine) : Call → Machine → Except Fault Reply → Prop where
  | started (idle : machine.run.status = .idle) :
      Step machine .start
        (({ machine with events := [] }.enter (.entering machine.graph.entryId)).keep
          fun sequence => { kind := .started, sequence, node := some machine.graph.entryId })
        (.ok (.flag true))
  | alreadyStarted (busy : machine.run.status ≠ .idle) :
      Step machine .start machine (.ok (.flag false))
  | ignored {output : String} {additions : Record} {activation : Option Int} {isAutomatic : Bool}
      (away : ¬(machine.run.status = .running ∧ machine.run.current.isSome)) :
      Step machine (.complete output additions activation isAutomatic) machine
        (.ok (.verdict .ignored))
  | stale {output : String} {additions : Record} {activation : Option Int} {isAutomatic : Bool}
      (running : machine.run.status = .running) (late : machine.isStale activation = true) :
      Step machine (.complete output additions activation isAutomatic) machine
        (.ok (.verdict .stale))
  | undeclared {output : String} {additions : Record} {activation : Option Int}
      {isAutomatic : Bool} {node : Node} (stands : machine.StandsAt node)
      (timely : machine.isStale activation = false) (refused : node.allows output = false) :
      Step machine (.complete output additions activation isAutomatic)
        { machine with lastRejection := some ⟨node.id, output, node.outputIds⟩ }
        (if machine.strict then .error (.undeclared node.id output node.outputIds)
          else .ok (.verdict .undeclared))
  | lost {output : String} {additions : Record} {activation : Option Int} {isAutomatic : Bool}
      {current : String} (running : machine.run.status = .running)
      (here : machine.run.current = some current) (timely : machine.isStale activation = false)
      (missing : machine.graph.node? current = none) :
      Step machine (.complete output additions activation isAutomatic)
        ((machine.enter (machine.run.fail (Fault.dangling current output current).message)).keep
          fun sequence =>
            { kind := .error, sequence, node := machine.run.current,
              error := some (Fault.dangling current output current).message })
        (.ok (.verdict .accepted))
  | broken {output : String} {additions : Record} {activation : Option Int} {isAutomatic : Bool}
      {node : Node} {fault : Fault} (stands : machine.StandsAt node)
      (timely : machine.isStale activation = false) (allowed : node.allows output = true)
      (dangles : machine.graph.next node.id output = .error fault) :
      Step machine (.complete output additions activation isAutomatic)
        ((machine.enter
            ((machine.run.record node.id output additions isAutomatic).fail fault.message)).keep
          fun sequence =>
            { kind := .error, sequence, node := machine.run.current, error := some fault.message })
        (.ok (.verdict .accepted))
  | finished {output : String} {additions : Record} {activation : Option Int} {isAutomatic : Bool}
      {node : Node} (stands : machine.StandsAt node)
      (timely : machine.isStale activation = false) (allowed : node.allows output = true)
      (ends : machine.graph.next node.id output = .ok none) :
      Step machine (.complete output additions activation isAutomatic)
        ((machine.enter (machine.run.record node.id output additions isAutomatic).complete).keep
          fun sequence =>
            { kind := .completed, sequence, node := some node.id, output := some output,
              data := machine.run.data.update additions })
        (.ok (.verdict .accepted))
  | moved {output : String} {additions : Record} {activation : Option Int} {isAutomatic : Bool}
      {node next : Node} (stands : machine.StandsAt node)
      (timely : machine.isStale activation = false) (allowed : node.allows output = true)
      (leads : machine.graph.next node.id output = .ok (some next)) :
      Step machine (.complete output additions activation isAutomatic)
        ((machine.enter
            ((machine.run.record node.id output additions isAutomatic).moveTo next.id)).keep
          fun sequence =>
            { kind := .stepCompleted, sequence, node := some node.id, output := some output,
              next := some next.id, data := additions })
        (.ok (.verdict .accepted))
  | nothingBehind (empty : machine.run.history = []) :
      Step machine .goBack machine (.ok (.entry none))
  | stuck (unable : machine.run.canGoBack = false) :
      Step machine .goBack machine (.ok (.entry none))
  | undone {entry : HistoryEntry} {earlier : List HistoryEntry} {restored : List Value}
      (behind : machine.run.history = entry :: earlier) (able : machine.run.canGoBack = true)
      (ordered : sortWith Value.isBelow entry.touched.keys = .ok restored) :
      Step machine .goBack
        ((machine.enter (machine.run.undo entry earlier)).keep
          fun sequence =>
            { kind := .navigatedBack, sequence, node := some entry.node,
              output := some entry.output, data := backData machine.run.current restored })
        (.ok (.entry (some entry)))
  | undoneInSilence {entry : HistoryEntry} {earlier : List HistoryEntry} {fault : Fault}
      (behind : machine.run.history = entry :: earlier) (able : machine.run.canGoBack = true)
      (unordered : sortWith Value.isBelow entry.touched.keys = .error fault) :
      Step machine .goBack (machine.enter (machine.run.undo entry earlier)) (.error fault)
  | cleared :
      Step machine .reset ({ machine with events := [], lastRejection := none }.enter .fresh)
        (.ok .nothing)
  | evaluated : Step machine .evaluate machine (machine.perform .evaluate).reply

/-! ## Every call ends in one of these ways -/

/-- A timely completion through an output that the node allows leaves the node. -/
theorem StandsAt.complete_eq_leave {machine : Machine} {node : Node}
    (stands : machine.StandsAt node) {output : String} {activation : Option Int}
    (timely : machine.isStale activation = false) (allowed : node.allows output = true)
    (additions : Record) (isAutomatic : Bool) :
    machine.complete output additions activation isAutomatic =
      machine.leave node output additions isAutomatic := by
  simp [complete, stands.running, stands.current, stands.found, timely, allowed]

/-- A completion is ignored while the machine does not run. -/
theorem complete_of_not_running {machine : Machine} (away : machine.run.status ≠ .running)
    (output : String) (additions : Record) (activation : Option Int) (isAutomatic : Bool) :
    (machine.complete output additions activation isAutomatic).reply = .ok .ignored ∧
      (machine.complete output additions activation isAutomatic).machine = machine := by
  unfold complete
  split
  · rename_i running _
    exact absurd running away
  · exact ⟨rfl, rfl⟩

/-- Going back undoes the latest step, if the keys it restores have an order. -/
theorem goBack_of_ordered {machine : Machine} {entry : HistoryEntry} {earlier : List HistoryEntry}
    {restored : List Value} (behind : machine.run.history = entry :: earlier)
    (able : machine.run.canGoBack = true)
    (ordered : sortWith Value.isBelow entry.touched.keys = .ok restored) :
    machine.goBack.reply = .ok (some entry) ∧
      machine.goBack.machine.run = machine.run.undo entry earlier := by
  unfold goBack
  rw [behind]
  dsimp only
  rw [if_pos able, ordered]
  exact ⟨rfl, rfl⟩

theorem step_start (machine : Machine) :
    machine.Step .start machine.start.machine (machine.start.reply.map .flag) := by
  unfold start
  split
  · rename_i idle
    exact Step.started idle
  · rename_i busy
    exact Step.alreadyStarted busy

theorem step_reject {machine : Machine} {node : Node} {output : String} {additions : Record}
    {activation : Option Int} {isAutomatic : Bool} (stands : machine.StandsAt node)
    (timely : machine.isStale activation = false) (refused : node.allows output = false) :
    machine.Step (.complete output additions activation isAutomatic)
      (machine.reject node output).machine ((machine.reject node output).reply.map .verdict) := by
  have step := @Step.undeclared machine output additions activation isAutomatic node stands timely
    refused
  unfold reject
  dsimp only
  split
  · rename_i strict
    rw [if_pos strict] at step
    exact step
  · rename_i lenient
    rw [if_neg lenient] at step
    exact step

theorem step_leave {machine : Machine} {node : Node} {output : String} {additions : Record}
    {activation : Option Int} {isAutomatic : Bool} (stands : machine.StandsAt node)
    (timely : machine.isStale activation = false) (allowed : node.allows output = true) :
    machine.Step (.complete output additions activation isAutomatic)
      (machine.leave node output additions isAutomatic).machine
      ((machine.leave node output additions isAutomatic).reply.map .verdict) := by
  unfold leave
  cases behind : machine.graph.next node.id output with
  | error fault => exact Step.broken stands timely allowed behind
  | ok next =>
      cases next with
      | none => exact Step.finished stands timely allowed behind
      | some next => exact Step.moved stands timely allowed behind

theorem step_complete (machine : Machine) (output : String) (additions : Record)
    (activation : Option Int) (isAutomatic : Bool) :
    machine.Step (.complete output additions activation isAutomatic)
      (machine.complete output additions activation isAutomatic).machine
      ((machine.complete output additions activation isAutomatic).reply.map .verdict) := by
  unfold complete
  split
  · rename_i current running here
    split
    · rename_i late
      exact Step.stale running late
    · rename_i timely
      rw [Bool.not_eq_true] at timely
      split
      · rename_i missing
        exact Step.lost running here timely missing
      · rename_i node found
        have stands := StandsAt.of_node? running here found
        split
        · rename_i allowed
          exact step_leave stands timely allowed
        · rename_i refused
          rw [Bool.not_eq_true] at refused
          exact step_reject stands timely refused
  · rename_i elsewhere
    refine Step.ignored ?_
    rintro ⟨running, stood⟩
    obtain ⟨current, here⟩ := Option.isSome_iff_exists.mp stood
    exact elsewhere current running here

theorem step_goBack (machine : Machine) :
    machine.Step .goBack machine.goBack.machine (machine.goBack.reply.map .entry) := by
  unfold goBack
  split
  · rename_i empty
    exact Step.nothingBehind empty
  · rename_i entry earlier behind
    split
    · rename_i able
      dsimp only
      split
      · rename_i fault unordered
        exact Step.undoneInSilence behind able unordered
      · rename_i restored ordered
        exact Step.undone behind able ordered
    · rename_i unable
      exact Step.stuck (by simpa using unable)

/-- Evaluating a condition changes nothing. -/
theorem perform_evaluate_machine (machine : Machine) :
    (machine.perform .evaluate).machine = machine := by
  unfold perform
  dsimp only
  split <;> rfl

theorem step_evaluate (machine : Machine) :
    machine.Step .evaluate (machine.perform .evaluate).machine
      (machine.perform .evaluate).reply := by
  rw [perform_evaluate_machine]
  exact Step.evaluated

/-- **Carrying out a call ends in one of the listed ways.** -/
theorem step_perform (machine : Machine) (call : Call) :
    machine.Step call (machine.perform call).machine (machine.perform call).reply := by
  cases call with
  | start => exact step_start machine
  | complete output additions activation isAutomatic =>
      exact step_complete machine output additions activation isAutomatic
  | goBack => exact step_goBack machine
  | reset => exact Step.cleared
  | evaluate => exact step_evaluate machine

/-! ## What a call announces -/

/-- Evaluating a condition is not announced. -/
theorem perform_evaluate_announcement (machine : Machine) :
    (machine.perform .evaluate).announcement = none := by
  unfold perform
  dsimp only
  split <;> rfl

/-- The event that a transition to `after` has kept, if it has numbered one. -/
def kept (machine after : Machine) : Option Event :=
  if after.sequence = machine.sequence then none else after.events.getLast?

theorem kept_of_sequence_eq {machine after : Machine} (same : after.sequence = machine.sequence) :
    machine.kept after = none :=
  if_pos same

theorem kept_keep {machine before : Machine} (same : before.sequence = machine.sequence)
    (event : Nat → Event) : machine.kept (before.keep event) = some (event (machine.sequence + 1)) := by
  have numbered : (before.keep event).sequence ≠ machine.sequence := by
    simp [keep, same]
  rw [kept, if_neg numbered]
  simp [keep, same]

/-- The outcome announces the event that it kept, and nothing if it kept none. -/
def Tells {α : Type} (machine : Machine) (outcome : Outcome α) : Prop :=
  outcome.announcement = machine.kept outcome.machine

theorem tells_announce {α : Type} {machine before : Machine}
    (same : before.sequence = machine.sequence) (event : Nat → Event) (reply : α)
    (journal : Journal) : machine.Tells (before.announce event reply journal) := by
  change some (event (before.sequence + 1)) = machine.kept (before.keep event)
  rw [kept_keep same, same]

theorem tells_of_silent {α : Type} {machine : Machine} {outcome : Outcome α}
    (silent : outcome.announcement = none)
    (same : outcome.machine.sequence = machine.sequence) : machine.Tells outcome := by
  rw [Tells, silent, kept_of_sequence_eq same]

theorem tells_start (machine : Machine) : machine.Tells machine.start := by
  unfold start
  split
  · exact tells_announce rfl ..
  · exact tells_of_silent rfl rfl

theorem tells_leave (machine : Machine) (node : Node) (output : String) (additions : Record)
    (isAutomatic : Bool) : machine.Tells (machine.leave node output additions isAutomatic) := by
  unfold leave
  dsimp only
  split
  · exact tells_announce rfl ..
  · exact tells_announce rfl ..
  · exact tells_announce rfl ..

theorem tells_reject (machine : Machine) (node : Node) (output : String) :
    machine.Tells (machine.reject node output) := by
  unfold reject
  dsimp only
  split
  · exact tells_of_silent rfl rfl
  · exact tells_of_silent rfl rfl

theorem tells_complete (machine : Machine) (output : String) (additions : Record)
    (activation : Option Int) (isAutomatic : Bool) :
    machine.Tells (machine.complete output additions activation isAutomatic) := by
  unfold complete
  split
  · split
    · exact tells_of_silent rfl rfl
    · split
      · exact tells_announce rfl ..
      · split
        · exact machine.tells_leave ..
        · exact machine.tells_reject ..
  · exact tells_of_silent rfl rfl

theorem tells_goBack (machine : Machine) : machine.Tells machine.goBack := by
  unfold goBack
  split
  · exact tells_of_silent rfl rfl
  · split
    · dsimp only
      split
      · exact tells_of_silent rfl rfl
      · exact tells_announce rfl ..
    · exact tells_of_silent rfl rfl

/-- What a call that led to `after` has announced.  A reset takes no number and keeps no event. -/
def announcementOf (machine : Machine) (call : Call) (after : Machine) : Option Event :=
  match call with
  | .reset => some { kind := .reset, sequence := machine.sequence }
  | _ => machine.kept after

theorem announcementOf_keep {machine before : Machine} {call : Call} {event : Nat → Event}
    (keeps : call ≠ .reset) (same : before.sequence = machine.sequence) :
    machine.announcementOf call (before.keep event) = some (event (machine.sequence + 1)) := by
  cases call with
  | reset => exact absurd rfl keeps
  | _ => exact kept_keep same event

theorem announcementOf_of_sequence_eq {machine after : Machine} {call : Call}
    (keeps : call ≠ .reset) (same : after.sequence = machine.sequence) :
    machine.announcementOf call after = none := by
  cases call with
  | reset => exact absurd rfl keeps
  | _ => exact kept_of_sequence_eq same

/-- **Where a call led tells what it announced**, so what the steps of a machine say about
announcements needs no second look at its operations. -/
theorem perform_announcement (machine : Machine) (call : Call) :
    (machine.perform call).announcement =
      machine.announcementOf call (machine.perform call).machine := by
  cases call with
  | start => exact machine.tells_start
  | complete => exact machine.tells_complete ..
  | goBack => exact machine.tells_goBack
  | reset => rfl
  | evaluate =>
      rw [perform_evaluate_announcement, perform_evaluate_machine]
      exact (kept_of_sequence_eq rfl).symm

/-! ## Runs of calls -/

/-- Carries out calls one after another. -/
def play (machine : Machine) (calls : List Call) : Machine :=
  calls.foldl (fun machine call => (machine.perform call).machine) machine

@[simp] theorem play_nil (machine : Machine) : machine.play [] = machine := rfl

@[simp] theorem play_cons (machine : Machine) (call : Call) (calls : List Call) :
    machine.play (call :: calls) = (machine.perform call).machine.play calls := rfl

theorem play_append (machine : Machine) (calls more : List Call) :
    machine.play (calls ++ more) = (machine.play calls).play more := by
  simp [play, List.foldl_append]

/-- Every event that is announced in a run of calls, in the order of the announcements. -/
def announced (machine : Machine) : List Call → List Event
  | [] => []
  | call :: calls =>
    (machine.perform call).announcement.toList ++ (machine.perform call).machine.announced calls

/-- What every step under a permitted call keeps, every run of permitted calls keeps. -/
theorem play_keeps {Holds : Machine → Prop} {Permitted : Call → Prop}
    (step : ∀ {machine after : Machine} {call : Call} {reply : Except Fault Reply},
      Permitted call → machine.Step call after reply → Holds machine → Holds after)
    (calls : List Call) (permitted : ∀ call ∈ calls, Permitted call) {machine : Machine}
    (initially : Holds machine) : Holds (machine.play calls) := by
  induction calls generalizing machine with
  | nil => exact initially
  | cons call rest ih =>
      have after := step (permitted call (List.mem_cons_self ..)) (machine.step_perform call)
        initially
      exact ih (fun other member => permitted other (List.mem_cons_of_mem _ member)) after

/-- No call changes the graph. -/
theorem Step.graph_eq {machine after : Machine} {call : Call} {reply : Except Fault Reply}
    (step : machine.Step call after reply) : after.graph = machine.graph := by
  cases step <;> rfl

/-- No call changes whether the machine is strict. -/
theorem Step.strict_eq {machine after : Machine} {call : Call} {reply : Except Fault Reply}
    (step : machine.Step call after reply) : after.strict = machine.strict := by
  cases step <;> rfl

end Machine

end GuestFlow
