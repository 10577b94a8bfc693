import Mathlib.Data.List.Chain
import GuestFlow.Proofs.Engine.Rest

/-!
# Runs walk their graph

The history of a run, read from its beginning, is a walk of the graph: it begins at the
entry, every step leaves its node through an output the node allows, and the next step
begins where that output leads (`Trail`).  On a sound graph every call keeps this,
going back included (`Machine.Step.onCourse`), and no call fails.

`runs_follow_their_graph` states what follows for every run of calls on an accepted
definition.
-/

set_option autoImplicit false

namespace GuestFlow

/-! ## Trails -/

/-- Where the exit of a history entry leads. -/
def Graph.target? (graph : Graph) (entry : HistoryEntry) : Option String :=
  (graph.node? entry.node).bind fun node => node.exit? entry.output

/-- `Trail graph history position`: the history, the latest step first, leads from the entry of the
graph to a position, which is a node or, without one, the outside of the workflow. -/
inductive Trail (graph : Graph) : List HistoryEntry → Option String → Prop where
  | entered : Trail graph [] (some graph.entryId)
  | left {entry : HistoryEntry} {earlier : List HistoryEntry} {node : Node}
      (behind : Trail graph earlier (some entry.node))
      (found : graph.node? entry.node = some node) (allowed : node.allows entry.output = true) :
      Trail graph (entry :: earlier) (graph.target? entry)

namespace Trail

variable {graph : Graph} {history : List HistoryEntry} {position : Option String}

/-- Every step but the latest led to the node of the step after it. -/
theorem linked (trail : Trail graph history position) :
    history.IsChain fun later earlier => graph.target? earlier = some later.node := by
  induction trail with
  | entered => exact .nil
  | left behind _ _ ih =>
      generalize place : some _ = position at behind
      cases behind with
      | entered => exact .singleton _
      | left => exact .cons_cons place.symm ih

/-- The first step left the entry. -/
theorem begins (trail : Trail graph history position) :
    ∀ first, history.getLast? = some first → first.node = graph.entryId := by
  induction trail with
  | entered => simp
  | left behind _ _ ih =>
      intro first last
      generalize place : some _ = position at behind
      cases behind with
      | entered =>
          simp only [List.getLast?_singleton, Option.some.injEq] at last
          rw [← last]
          exact Option.some.inj place
      | left =>
          rw [List.getLast?_cons_cons] at last
          exact ih first last

/-- Every step left its node through an output that the node declares, or the node declares none. -/
theorem allowed (trail : Trail graph history position) :
    ∀ entry ∈ history, ∃ node, graph.node? entry.node = some node ∧
      (node.outputs = [] ∨ node.hasOutput entry.output = true) := by
  induction trail with
  | entered => simp
  | left _ found permitted ih =>
      intro entry member
      rcases List.mem_cons.mp member with rfl | member
      · refine ⟨_, found, ?_⟩
        simpa [Node.allows, Node.isTerminal] using permitted
      · exact ih entry member

/-- Without any step the position is the entry. -/
theorem stays (trail : Trail graph [] position) : position = some graph.entryId := by
  cases trail
  rfl

/-- The latest step led to the position. -/
theorem leads {entry : HistoryEntry} {earlier : List HistoryEntry}
    (trail : Trail graph (entry :: earlier) position) : graph.target? entry = position := by
  cases trail
  rfl

end Trail

/-! ## The invariant -/

/-- A run is on its course if it has not begun, stands at a node of the graph where its history
leads, or has left the workflow where its history leads out of it. -/
inductive OnCourse (graph : Graph) (run : Run) : Prop where
  | idle (idle : run.status = .idle) (empty : run.history = [])
  | inside {node : Node} (running : run.status = .running) (here : run.current = some node.id)
      (found : graph.node? node.id = some node) (trail : Trail graph run.history (some node.id))
  | outside (completed : run.status = .completed) (nowhere : run.current = none)
      (trail : Trail graph run.history none)

namespace OnCourse

variable {graph : Graph} {run : Run}

theorem fresh : OnCourse graph .fresh := .idle rfl rfl

theorem entering (sound : graph.IsSound) : OnCourse graph (.entering graph.entryId) := by
  obtain ⟨node, found⟩ := Option.isSome_iff_exists.mp sound.entryFound
  have same := Graph.id_of_node? found
  rw [← same] at found
  refine .inside rfl (congrArg some same.symm) found ?_
  rw [same]
  exact .entered

/-- A run that is under way stands at a node that is there. -/
theorem found (course : OnCourse graph run) (running : run.status = .running) {current : String}
    (here : run.current = some current) : graph.node? current ≠ none := by
  cases course with
  | idle idle => simp [idle] at running
  | inside _ place found _ =>
      rw [here, Option.some.injEq] at place
      simp [place, found]
  | outside completed => simp [completed] at running

/-- A run that cannot go back has no steps. -/
theorem history_eq_nil (course : OnCourse graph run) (unable : run.canGoBack = false) :
    run.history = [] := by
  cases course with
  | idle _ empty => exact empty
  | inside running => simpa [Run.canGoBack, running] using unable
  | outside completed => simpa [Run.canGoBack, completed] using unable

/-- A run with a history that can be undone has a trail. -/
theorem trail_of_canGoBack (course : OnCourse graph run) (able : run.canGoBack = true) :
    ∃ position, Trail graph run.history position := by
  cases course with
  | idle _ empty => simp [Run.canGoBack, empty] at able
  | inside _ _ _ trail => exact ⟨_, trail⟩
  | outside _ _ trail => exact ⟨_, trail⟩

/-- Undoing the latest step leads back to its node. -/
theorem undo (course : OnCourse graph run) (able : run.canGoBack = true) {entry : HistoryEntry}
    {earlier : List HistoryEntry} (behind : run.history = entry :: earlier) :
    OnCourse graph (run.undo entry earlier) := by
  obtain ⟨position, trail⟩ := course.trail_of_canGoBack able
  rw [behind] at trail
  cases trail with
  | left before found _ =>
      have same := Graph.id_of_node? found
      refine .inside rfl (congrArg some same.symm) ?_ ?_
      · rw [same]
        exact found
      · rw [same]
        exact before

/-- The trail of a run that is recorded to leave its node. -/
theorem trail_record (course : OnCourse graph run) {node : Node} (running : run.status = .running)
    (here : run.current = some node.id) (found : graph.node? node.id = some node) {output : String}
    (allowed : node.allows output = true) (additions : Record) (isAutomatic : Bool) :
    Trail graph (run.record node.id output additions isAutomatic).history (node.exit? output) := by
  have behind : Trail graph run.history (some node.id) := by
    cases course with
    | idle idle => simp [idle] at running
    | inside _ place _ trail =>
        rw [here] at place
        rwa [← place] at trail
    | outside completed => simp [completed] at running
  have left := @Trail.left graph
    ⟨node.id, output, Touched.of run.data additions, isAutomatic⟩ run.history node behind found
    allowed
  simp only [Graph.target?, found, Option.bind_some] at left
  exact left

end OnCourse

namespace Machine

/-- **Every call keeps a run on its course**, on a sound graph. -/
theorem Step.onCourse {machine after : Machine} {call : Call} {reply : Except Fault Reply}
    (sound : machine.graph.IsSound) (step : machine.Step call after reply)
    (course : OnCourse machine.graph machine.run) : OnCourse after.graph after.run := by
  cases step with
  | started => exact .entering sound
  | lost running here _ missing => exact absurd missing (course.found running here)
  | broken stands _ _ dangles => exact absurd dangles (sound.next_ne_error stands.found)
  | finished stands _ allowed ends =>
      have trail := course.trail_record stands.running stands.current stands.found allowed
      rw [Graph.exit?_of_next_none stands.found ends] at trail
      exact .outside rfl rfl (trail _ _)
  | moved stands _ allowed leads =>
      have trail := course.trail_record stands.running stands.current stands.found allowed
      obtain ⟨aimed, there⟩ := Graph.exit?_of_next_some stands.found leads
      rw [aimed] at trail
      exact .inside stands.running rfl there (trail _ _)
  | undone behind able => exact course.undo able behind
  | undoneInSilence behind able => exact course.undo able behind
  | cleared => exact .fresh
  | alreadyStarted | ignored | stale | undeclared | nothingBehind | stuck | evaluated =>
      exact course

/-- On a sound graph every run of calls is on its course. -/
theorem onCourse_play {machine : Machine} (sound : machine.graph.IsSound)
    (course : OnCourse machine.graph machine.run) (calls : List Call) :
    (machine.play calls).graph = machine.graph ∧
      OnCourse machine.graph (machine.play calls).run := by
  refine @play_keeps (fun other => other.graph = machine.graph ∧ OnCourse machine.graph other.run)
    (fun _ => True) ?_ calls (fun _ _ => trivial) machine ⟨rfl, course⟩
  rintro other after call reply - step ⟨same, course⟩
  have kept := step.graph_eq.trans same
  rw [← same] at sound course
  exact ⟨kept, kept ▸ step.onCourse sound course⟩

end Machine

/-! ## What follows for every run -/

/-- What it means for a run to walk its graph. -/
structure Run.Follows (graph : Graph) (run : Run) : Prop where
  noError : run.status ≠ .error
  standsInside : run.status = .running →
    ∃ current, run.current = some current ∧ (graph.node? current).isSome
  beginsAtEntry : ∀ first, run.history.getLast? = some first → first.node = graph.entryId
  waitsAtEntry : run.status = .running → run.history = [] → run.current = some graph.entryId
  leavesAsAllowed : ∀ entry ∈ run.history, ∃ node, graph.node? entry.node = some node ∧
    (node.outputs = [] ∨ node.hasOutput entry.output = true)
  linked : run.history.IsChain fun later earlier => graph.target? earlier = some later.node
  leadsHere : run.status = .running → ∀ last, run.history.head? = some last →
    graph.target? last = run.current
  endsOutside : run.status = .completed ↔
    ∃ last, run.history.head? = some last ∧ graph.target? last = none

theorem OnCourse.follows {graph : Graph} {run : Run} (course : OnCourse graph run) :
    run.Follows graph := by
  cases course with
  | idle idle empty =>
      constructor <;> simp [idle, empty]
  | inside running here found trail =>
      refine ⟨by simp [running], fun _ => ⟨_, here, by simp [found]⟩, trail.begins, ?_,
        trail.allowed, trail.linked, ?_, ?_⟩
      · intro _ empty
        rw [empty] at trail
        rw [here, trail.stays]
      · intro _ last latest
        obtain ⟨earlier, behind⟩ := List.head?_eq_some_iff.mp latest
        rw [behind] at trail
        rw [trail.leads, here]
      · constructor
        · simp [running]
        · rintro ⟨last, latest, out⟩
          obtain ⟨earlier, behind⟩ := List.head?_eq_some_iff.mp latest
          rw [behind] at trail
          rw [trail.leads] at out
          cases out
  | outside completed nowhere trail =>
      refine ⟨by simp [completed], by simp [completed], trail.begins, by simp [completed],
        trail.allowed, trail.linked, by simp [completed], fun _ => ?_, fun _ => completed⟩
      cases steps : run.history with
      | nil =>
          rw [steps] at trail
          cases trail.stays
      | cons last earlier =>
          rw [steps] at trail
          exact ⟨last, rfl, trail.leads⟩

/-- **On an accepted definition no run fails, and every run walks the graph.**  The engine may have
any listeners, and the calls may come in any order and with any arguments. -/
theorem runs_follow_their_graph {definition : Definition} {graph : Graph}
    (accepted : Graph.ofDefinition definition = .ok graph) {engine : Engine} {strict : Bool}
    (new : engine.machine = .create graph strict) (rest : engine.active = none)
    (calls : List Call) :
    (engine.play calls).machine.graph = graph ∧
      (engine.play calls).machine.run.Follows graph ∧
      ∀ id output, (graph.node? id).isSome → ∃ behind, graph.next id output = .ok behind := by
  have sound := Graph.isSound_of_ofDefinition accepted
  have played : (engine.play calls).machine = (Machine.create graph strict).play calls := by
    rw [(Engine.play_machine rest calls).1, new]
  have kept := @Machine.onCourse_play (.create graph strict) sound .fresh calls
  rw [played]
  exact ⟨kept.1, kept.2.follows, fun id output found => sound.next_ok found output⟩

namespace Booth

/-- A visit with data overwritten, steps undone, a rejected and a stale completion, and an end that
is taken back. -/
def visit : List Call := [
  .start,
  .complete "default" [(.text "more", .bool true), (.text "note", .null)] none false,
  .complete "then" [(.text "more", .bool false), (.text "count", .int 1)] (some 2) true,
  .complete "sideways" [] none false,
  .complete "else" [] (some 2) false,
  .goBack,
  .complete "else" [(.text "note", .text "hi")] none false,
  .start,
  .complete "anything" [(.text "printed", .bool true)] none false,
  .goBack]

theorem visit_follows_graph :
    let run := ((Engine.create (.create graph true)).play visit).machine.run
    run.history.map HistoryEntry.node = ["again", "touch"] ∧ run.current = some "print" ∧
      run.Follows graph :=
  ⟨rfl, rfl, (@runs_follow_their_graph definition graph accepted (.create (.create graph true)) true
    rfl rfl visit).2.1⟩

end Booth

end GuestFlow
