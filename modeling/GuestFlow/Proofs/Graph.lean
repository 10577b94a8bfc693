import GuestFlow.Proofs.Fallible
import GuestFlow.Workflow.Graph

/-!
# Sound graphs

A graph is sound when a run on it cannot get lost: the node where it begins is there,
and so is the node behind every output (`Graph.IsSound`).  A definition that passes the
checks gives a sound graph (`Graph.isSound_of_ofDefinition`), and on a sound graph every
exit of a node that is there leads to a node that is there, or out of the workflow
(`Graph.IsSound.next_ok`).

`Booth.graph` is a small sound graph with a condition that leads back to itself.
-/

set_option autoImplicit false

namespace GuestFlow

/-! ## What the checks look for -/

theorem findNode?_isSome_of_mem {definition : Definition} {node : Node}
    (member : node ∈ definition.nodes) : (findNode? definition [] node.id).isSome := by
  simp only [findNode?, List.contains_nil, Bool.false_eq_true, if_false, List.find?_isSome]
  exact ⟨node, member, by simp⟩

/-- There is nothing wrong with the outputs of a node exactly when every target is found. -/
theorem outputProblems_eq_nil_iff {definition : Definition} {dropped : List String} {node : Node} :
    outputProblems definition dropped node = [] ↔
      ∀ output ∈ node.outputs, ∀ target, output.target = some target →
        (findNode? definition dropped target).isSome := by
  simp only [outputProblems, List.filterMap_eq_nil_iff]
  refine forall₂_congr fun output _ => ?_
  cases output.target with
  | none => simp
  | some target => simp [← Option.isSome_iff_ne_none]

/-- A node with no problems has no problem with its outputs. -/
theorem outputProblems_of_nodeProblems {definition : Definition} {dropped : List String}
    {node : Node} (none : nodeProblems definition dropped node = .ok []) :
    outputProblems definition dropped node = [] := by
  obtain ⟨conditions, _, joined⟩ := bind_eq_ok_iff.mp none
  simp only [Except.ok.injEq, List.append_eq_nil_iff] at joined
  exact joined.1.2

theorem mem_nodes_of_mem_entryCandidates {definition : Definition} {node : Node}
    (member : node ∈ entryCandidates definition) : node ∈ definition.nodes := by
  unfold entryCandidates at member
  dsimp only at member
  split at member
  · exact List.mem_of_mem_filter member
  · exact List.mem_of_mem_filter member

/-- What was found to be repeated stays found. -/
theorem prefix_repeated (ids seen found : List String) : found <+: repeated seen found ids := by
  induction ids generalizing seen found with
  | nil => exact List.prefix_rfl
  | cons id rest ih =>
      unfold repeated
      dsimp only
      refine List.IsPrefix.trans ?_ (ih _ _)
      split
      · exact List.prefix_append _ _
      · exact List.prefix_rfl

/-- Where nothing is repeated, every id stands once. -/
theorem nodup_of_repeated {ids : List String} (seen : List String)
    (none : repeated seen [] ids = []) : ids.Nodup ∧ ∀ id ∈ ids, id ∉ seen := by
  induction ids generalizing seen with
  | nil => simp
  | cons id rest ih =>
      have new : id ∉ seen := by
        intro old
        have begins := prefix_repeated rest (seen ++ [id]) [id]
        simp [repeated, old] at none
        simp [none] at begins
      simp only [repeated, List.contains_eq_mem, new, decide_false, Bool.false_and,
        Bool.false_eq_true, if_false] at none
      obtain ⟨unique, apart⟩ := ih _ none
      simp only [List.mem_append, List.mem_singleton, not_or] at apart
      refine ⟨List.nodup_cons.mpr ⟨fun again => (apart id again).2 rfl, unique⟩, ?_⟩
      exact List.forall_mem_cons.mpr ⟨new, fun other member => (apart other member).1⟩

/-- The target of an output of a node; nothing if the output is not declared or ends the
workflow. -/
def Node.exit? (node : Node) (output : String) : Option String :=
  (node.output? output).bind Output.target

namespace Graph

/-- What an accepted definition is: one without problems, with a node to enter at. -/
theorem ofDefinition_eq_ok {definition : Definition} {graph : Graph}
    (accepted : ofDefinition definition = .ok graph) :
    problemsOf definition [] = .ok [] ∧ ∃ entry others,
      entryCandidates definition = entry :: others ∧ graph = ⟨definition, [], entry.id⟩ := by
  obtain ⟨found, computed, checked⟩ := bind_eq_ok_iff.mp accepted
  split at checked
  · rename_i entry others candidates
    cases checked
    exact ⟨computed, entry, others, candidates, rfl⟩
  · cases checked

/-! ## Sound graphs -/

/-- The node to enter at is there, and so is the node behind every output. -/
structure IsSound (graph : Graph) : Prop where
  entryFound : (graph.node? graph.entryId).isSome
  targetFound : ∀ {id : String} {node : Node} {output : Output} {target : String},
    graph.node? id = some node → output ∈ node.outputs → output.target = some target →
      (graph.node? target).isSome

theorem mem_nodes_of_node? {graph : Graph} {id : String} {node : Node}
    (found : graph.node? id = some node) : node ∈ graph.definition.nodes ∧ node.id = id := by
  unfold node? findNode? at found
  split at found
  · cases found
  · exact ⟨List.mem_of_find?_eq_some found, by simpa using List.find?_some found⟩

/-- A node is found under its own id. -/
theorem id_of_node? {graph : Graph} {id : String} {node : Node}
    (found : graph.node? id = some node) : node.id = id := (mem_nodes_of_node? found).2

/-- **The graph of an accepted definition is sound.** -/
theorem isSound_of_ofDefinition {definition : Definition} {graph : Graph}
    (accepted : ofDefinition definition = .ok graph) : graph.IsSound := by
  obtain ⟨clean, entry, others, candidates, rfl⟩ := ofDefinition_eq_ok accepted
  obtain ⟨inside, looked, joined⟩ := bind_eq_ok_iff.mp clean
  simp only [Except.ok.injEq, List.append_eq_nil_iff] at joined
  constructor
  · exact findNode?_isSome_of_mem
      (mem_nodes_of_mem_entryCandidates (candidates ▸ List.mem_cons_self ..))
  · intro id node output target found member leads
    have noProblems := eq_nil_of_mapM_flatten looked joined.1.2 (mem_nodes_of_node? found).1
    exact outputProblems_eq_nil_iff.mp (outputProblems_of_nodeProblems noProblems) output member
      target leads

/-! ## Unique ids -/

/-- **Every node of an accepted definition has an id of its own.** -/
theorem nodup_ids_of_ofDefinition {definition : Definition} {graph : Graph}
    (accepted : ofDefinition definition = .ok graph) : (definition.nodes.map Node.id).Nodup := by
  obtain ⟨inside, _, joined⟩ := bind_eq_ok_iff.mp (ofDefinition_eq_ok accepted).1
  simp only [Except.ok.injEq, List.append_eq_nil_iff] at joined
  refine (nodup_of_repeated [] ?_).1
  have single := joined.1.1
  unfold duplicateProblems at single
  dsimp only at single
  split at single
  · rename_i none
    exact List.isEmpty_iff.mp none
  · cases single

/-- **Every output of a node of an accepted definition has an id of its own there.** -/
theorem nodup_outputIds_of_ofDefinition {definition : Definition} {graph : Graph}
    (accepted : ofDefinition definition = .ok graph) {node : Node}
    (member : node ∈ definition.nodes) : node.outputIds.Nodup := by
  obtain ⟨inside, looked, joined⟩ := bind_eq_ok_iff.mp (ofDefinition_eq_ok accepted).1
  simp only [Except.ok.injEq, List.append_eq_nil_iff] at joined
  obtain ⟨conditions, _, alone⟩ :=
    bind_eq_ok_iff.mp (eq_nil_of_mapM_flatten looked joined.1.2 member)
  simp only [Except.ok.injEq, List.append_eq_nil_iff] at alone
  refine (nodup_of_repeated [] ?_).1
  have single := alone.1.1
  split at single
  · rename_i none
    exact List.isEmpty_iff.mp none
  · cases single

/-! ## Where exits lead -/

/-- An exit that ends the workflow has no target. -/
theorem exit?_of_next_none {graph : Graph} {id output : String} {node : Node}
    (found : graph.node? id = some node) (ends : graph.next id output = .ok none) :
    node.exit? output = none := by
  unfold next at ends
  rw [found] at ends
  dsimp only at ends
  split at ends
  · assumption
  · split at ends <;> cases ends

/-- An exit that leads to a node has its id as target, and the node is there. -/
theorem exit?_of_next_some {graph : Graph} {id output : String} {node behind : Node}
    (found : graph.node? id = some node) (leads : graph.next id output = .ok (some behind)) :
    node.exit? output = some behind.id ∧ graph.node? behind.id = some behind := by
  unfold next at leads
  rw [found] at leads
  dsimp only at leads
  split at leads
  · cases leads
  · rename_i target aimed
    split at leads
    · cases leads
    · rename_i other there
      simp only [Except.ok.injEq, Option.some.injEq] at leads
      subst leads
      have same := id_of_node? there
      subst same
      exact ⟨aimed, there⟩

/-- **On a sound graph every exit of a node that is there can be followed.** -/
theorem IsSound.next_ok {graph : Graph} (sound : graph.IsSound) {id : String}
    (found : (graph.node? id).isSome) (output : String) :
    ∃ behind, graph.next id output = .ok behind := by
  obtain ⟨node, there⟩ := Option.isSome_iff_exists.mp found
  unfold next
  rw [there]
  dsimp only
  split
  · exact ⟨none, rfl⟩
  · rename_i target aimed
    obtain ⟨chosen, member, leads⟩ := Option.bind_eq_some_iff.mp aimed
    obtain ⟨behind, reached⟩ := Option.isSome_iff_exists.mp
      (sound.targetFound there (List.mem_of_find?_eq_some member) leads)
    rw [reached]
    exact ⟨some behind, rfl⟩

theorem IsSound.next_ne_error {graph : Graph} (sound : graph.IsSound) {id output : String}
    {node : Node} (found : graph.node? id = some node) {fault : Fault} :
    graph.next id output ≠ .error fault := by
  obtain ⟨behind, followed⟩ := sound.next_ok (Option.isSome_iff_exists.mpr ⟨node, found⟩) output
  rw [followed]
  simp

end Graph

/-! ## A booth -/

namespace Booth

/-- A trigger, a condition that leads back to itself, and a last step. -/
def definition : Definition where
  id := "booth"
  name := "Photo booth"
  description := none
  nodes := [
    ⟨"touch", Kind.touchToStart, "", [], [⟨"default", "", "default", some "again"⟩], false, []⟩,
    ⟨"again", Kind.condition, "", [(.text "field", .text "more")],
      [⟨"then", "", "default", some "again"⟩, ⟨"else", "", "default", some "print"⟩], false, []⟩,
    ⟨"print", "PRINT", "", [], [], false, []⟩]
  version := "1.0.0"
  flowType := none
  metadata := []

def graph : Graph := ⟨definition, [], "touch"⟩

theorem accepted : Graph.ofDefinition definition = .ok graph := rfl

end Booth

end GuestFlow
