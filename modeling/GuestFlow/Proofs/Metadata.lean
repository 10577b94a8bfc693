import GuestFlow.Proofs.Fallible
import GuestFlow.Workflow.Graph

/-!
# The metadata of nodes

The metadata of a node is for those who draw workflows.  It is not written into documents,
and neither the checks of a definition nor the way through its graph look at it:
definitions that differ in nothing else are accepted alike and lead the same way.
-/

set_option autoImplicit false

namespace GuestFlow

/-- The node with nothing but what is written of it. -/
def Node.withoutMetadata (node : Node) : Node := { node with metadata := [] }

def Definition.withoutNodeMetadata (definition : Definition) : Definition :=
  { definition with nodes := definition.nodes.map Node.withoutMetadata }

def Graph.withoutNodeMetadata (graph : Graph) : Graph :=
  { graph with definition := graph.definition.withoutNodeMetadata }

/-- The metadata of nodes is not written. -/
theorem Definition.toDocument_withoutNodeMetadata (definition : Definition) :
    definition.withoutNodeMetadata.toDocument = definition.toDocument := by
  simp only [toDocument, withoutNodeMetadata, List.map_map]
  rfl

/-! ## Checks -/

section Checks

variable (definition : Definition) (dropped : List String) (node : Node)

theorem findNode?_withoutNodeMetadata (id : String) :
    findNode? definition.withoutNodeMetadata dropped id =
      (findNode? definition dropped id).map Node.withoutMetadata := by
  unfold findNode?
  split
  · rfl
  · exact List.find?_map

theorem nodeProblems_withoutNodeMetadata :
    nodeProblems definition.withoutNodeMetadata dropped node.withoutMetadata =
      nodeProblems definition dropped node := by
  have outputs : outputProblems definition.withoutNodeMetadata dropped node.withoutMetadata =
      outputProblems definition dropped node := by
    simp only [outputProblems, findNode?_withoutNodeMetadata, Option.isSome_map]
    rfl
  unfold nodeProblems
  rw [outputs]
  rfl

theorem ids_withoutNodeMetadata (nodes : List Node) :
    (nodes.map Node.withoutMetadata).map Node.id = nodes.map Node.id := List.map_map

theorem markedNodes_withoutNodeMetadata :
    markedNodes definition.withoutNodeMetadata =
      (markedNodes definition).map Node.withoutMetadata := List.filter_map

theorem triggerNodes_withoutNodeMetadata :
    triggerNodes definition.withoutNodeMetadata =
      (triggerNodes definition).map Node.withoutMetadata := List.filter_map

theorem entryCandidates_withoutNodeMetadata :
    entryCandidates definition.withoutNodeMetadata =
      (entryCandidates definition).map Node.withoutMetadata := by
  simp only [entryCandidates, markedNodes_withoutNodeMetadata, triggerNodes_withoutNodeMetadata,
    List.isEmpty_map]
  split <;> rfl

theorem problemsOf_withoutNodeMetadata :
    problemsOf definition.withoutNodeMetadata dropped = problemsOf definition dropped := by
  have inside : definition.withoutNodeMetadata.nodes.mapM
        (nodeProblems definition.withoutNodeMetadata dropped) =
      definition.nodes.mapM (nodeProblems definition dropped) := by
    rw [Definition.withoutNodeMetadata, List.mapM_map]
    exact congrArg (definition.nodes.mapM ·)
      (funext (nodeProblems_withoutNodeMetadata definition dropped))
  have duplicates : duplicateProblems definition.withoutNodeMetadata =
      duplicateProblems definition := by
    rw [duplicateProblems, Definition.withoutNodeMetadata, ids_withoutNodeMetadata]
    rfl
  have entries : entryProblems definition.withoutNodeMetadata = entryProblems definition := by
    simp only [entryProblems, markedNodes_withoutNodeMetadata, triggerNodes_withoutNodeMetadata,
      ids_withoutNodeMetadata]
  rw [problemsOf, problemsOf, inside, duplicates, entries]

end Checks

/-! ## Graphs -/

namespace Graph

/-- **Definitions are accepted, or refused with the same problems, whatever metadata their nodes
have.** -/
theorem ofDefinition_withoutNodeMetadata (definition : Definition) :
    ofDefinition definition.withoutNodeMetadata =
      (ofDefinition definition).map withoutNodeMetadata := by
  unfold ofDefinition
  rw [problemsOf_withoutNodeMetadata, entryCandidates_withoutNodeMetadata]
  cases problemsOf definition [] with
  | error fault => rfl
  | ok found =>
      cases found with
      | nil =>
          cases entryCandidates definition with
          | nil => rfl
          | cons entry rest => rfl
      | cons problem others => rfl

/-- A definition that differs from an accepted one in the metadata of nodes only is accepted too,
and its graph differs in nothing else. -/
theorem ofDefinition_of_same {definition other : Definition} {graph : Graph}
    (accepted : ofDefinition definition = .ok graph)
    (same : other.withoutNodeMetadata = definition.withoutNodeMetadata) :
    ∃ drawn, ofDefinition other = .ok drawn ∧
      drawn.withoutNodeMetadata = graph.withoutNodeMetadata := by
  have alike := ofDefinition_withoutNodeMetadata other
  rw [same, ofDefinition_withoutNodeMetadata, accepted] at alike
  cases computed : ofDefinition other with
  | error fault =>
      rw [computed] at alike
      cases alike
  | ok drawn =>
      rw [computed] at alike
      exact ⟨drawn, rfl, (Except.ok.inj alike).symm⟩

/-- The way through a graph without metadata is the way through the graph. -/
theorem next_withoutNodeMetadata (graph : Graph) (id output : String) :
    graph.withoutNodeMetadata.next id output =
      (graph.next id output).map (Option.map Node.withoutMetadata) := by
  have found (id : String) : graph.withoutNodeMetadata.node? id =
      (graph.node? id).map Node.withoutMetadata :=
    findNode?_withoutNodeMetadata graph.definition graph.dropped id
  unfold next
  rw [found]
  cases graph.node? id with
  | none => rfl
  | some node =>
      have exit : node.withoutMetadata.output? output = node.output? output := rfl
      simp only [Option.map_some, exit]
      cases (node.output? output).bind Output.target with
      | none => rfl
      | some target =>
          simp only [found]
          cases graph.node? target with
          | none => rfl
          | some behind => rfl

end Graph

end GuestFlow
