import GuestFlow.Proofs.Document.Edges
import GuestFlow.Proofs.Document.RoundTrip
import GuestFlow.Proofs.Graph

/-!
# The canvas layout

A definition can also be written as a canvas document: every node is a widget that holds
its step, and the connections stand apart as edges.  The author of the document chooses
the kinds of the widgets, the order of the edges and, where the usual output is meant,
how its handle is spelt (`Edge.IsWritten`).

None of these choices matters (`canvas_means_the_same`): the canvas document of a
definition that was read and accepted is read as the same definition, and the graph of
what was read leads the same way.
-/

set_option autoImplicit false

namespace GuestFlow

/-! ## Writing on the canvas -/

/-- An output on the canvas; where it leads is left to the edges. -/
def Output.toCanvas (output : Output) : Value :=
  .record (Record.ofFields [
    ("id", .text output.id), ("label", .text output.label), ("type", .text output.kind)])

/-- The step of a node on the canvas. -/
def Node.toStep (node : Node) : Value :=
  .record (Record.ofFields [
    ("type", .text node.kind), ("label", .text node.label), ("config", .record node.config),
    ("isEntry", .bool node.isEntry), ("outputs", .list (node.outputs.map Output.toCanvas))])

/-- A node on the canvas, as a widget of some kind. -/
def Node.toCanvas (widget : String) (node : Node) : Value :=
  .record (Record.ofFields [("id", .text node.id), ("type", .text widget), ("data", node.toStep)])

/-- The ways to write an edge.  The handle of the usual output need not be spelt out. -/
inductive Edge.IsWritten (edge : Edge) : Value → Prop where
  | inFull : edge.IsWritten (.record (Record.ofFields [
      ("source", .text edge.source), ("sourceHandle", .text edge.handle),
      ("target", .text edge.target)]))
  | withBlank (usual : edge.handle = defaultOutput) {blank : Value}
      (isBlank : blank = .null ∨ blank = .text "") : edge.IsWritten (.record (Record.ofFields [
        ("source", .text edge.source), ("sourceHandle", blank), ("target", .text edge.target)]))
  | without (usual : edge.handle = defaultOutput) : edge.IsWritten (.record (Record.ofFields [
      ("source", .text edge.source), ("target", .text edge.target)]))

/-- The canvas document of a definition with some kinds of widgets and some written edges. -/
def Definition.toCanvas (definition : Definition) (widget : Node → String) (edges : List Value) :
    Value :=
  .record (definition.documentAround (Record.ofFields [
    ("nodes", .list (definition.nodes.map fun node => node.toCanvas (widget node))),
    ("edges", .list edges)]))

/-! ## Reading outputs and nodes -/

theorem Output.toCanvas_obeys {output : Output} (named : output.IsNamed) :
    Schema.Obeys output.toCanvas Schema.output := by
  refine Schema.object_iff.mpr ⟨_, rfl, ⟨by simp, ?_⟩⟩
  simp [named.id_ne]

theorem Node.toStep_obeys {node : Node} (named : node.IsNamed) :
    Schema.Obeys node.toStep Schema.step := by
  refine Schema.object_iff.mpr ⟨_, rfl, ⟨by simp, ?_⟩⟩
  have outputs : ∀ output ∈ node.outputs, Schema.Obeys output.toCanvas Schema.output :=
    fun output member => output.toCanvas_obeys (named.outputs output member)
  simpa [named.kind_ne] using outputs

theorem Node.toCanvas_obeys {node : Node} (named : node.IsNamed) {widget : String}
    (long : widget ≠ "") : Schema.Obeys (node.toCanvas widget) Schema.node := by
  refine Schema.record_iff.mpr ⟨_, rfl, ⟨by simp, ?_⟩, .inr ⟨["type"], by simp, by rfl⟩⟩
  simp [named.id_ne, long, node.toStep_obeys named]

/-- The node as it is read from the canvas: the kind of its widget is metadata. -/
def Node.onCanvas (widget : String) (node : Node) : Node :=
  { node with metadata := [(.text "canvasType", .text widget)] }

namespace Document

theorem readOutput_toCanvas {output : Output} (named : output.IsNamed) (source : String) :
    readOutput (asRecord output.toCanvas) = output.boundBy [] source := by
  simp [readOutput, Output.toCanvas, textField, textFieldOr, firstField, Record.field,
    named.kind_ne, Output.boundBy]

/-- A step has no fields besides those that describe it. -/
theorem filter_step (kind label : String) (config : Record) (isEntry : Bool)
    (outputs : List Value) :
    ((Record.ofFields [("type", .text kind), ("label", .text label), ("config", .record config),
      ("isEntry", .bool isEntry), ("outputs", .list outputs)]).filter fun entry =>
        !isStepField entry.1) = [] := by
  simp [Record.ofFields, isStepField, stepFields]

theorem readNode_toCanvas {node : Node} (named : node.IsNamed) (widget : String) :
    readNode (asRecord (node.toCanvas widget)) = .ok ((node.onCanvas widget).boundBy []) := by
  have outputs : node.outputs.map (fun output => readOutput (asRecord output.toCanvas)) =
      node.outputs.map (Output.boundBy [] node.id) :=
    List.map_congr_left fun output member =>
      readOutput_toCanvas (named.outputs output member) node.id
  simp only [readNode, Node.toCanvas, Node.toStep, asRecord_record, Record.field,
    Record.field?_ofFields_cons, reduceIte, String.reduceEq, Option.getD_some]
  rw [readCanvasNode, filter_step]
  simp [textField, recordField, Record.field, Value.isTruthy, Node.onCanvas, Node.boundBy,
    ← outputs, Function.comp_def, carryField, Record.insert]

end Document

/-! ## Reading edges -/

namespace Edge.IsWritten

variable {edge : Edge} {written : Value}

theorem obeys (isWritten : edge.IsWritten written) (source_ne : edge.source ≠ "")
    (target_ne : edge.target ≠ "") : Schema.Obeys written Schema.edge := by
  cases isWritten with
  | inFull => exact Schema.object_iff.mpr ⟨_, rfl, ⟨by simp, by simp [source_ne, target_ne]⟩⟩
  | withBlank usual isBlank =>
      refine Schema.object_iff.mpr ⟨_, rfl, ⟨by simp, ?_⟩⟩
      obtain rfl | rfl := isBlank
      · simp [source_ne, target_ne]
      · simp [source_ne, target_ne]
  | without usual => exact Schema.object_iff.mpr ⟨_, rfl, ⟨by simp, by simp [source_ne, target_ne]⟩⟩

theorem readEdge (isWritten : edge.IsWritten written) (handle_ne : edge.handle ≠ "") :
    Document.readEdge (Document.asRecord written) = edge := by
  obtain ⟨source, handle, target⟩ := edge
  cases isWritten with
  | inFull =>
      have long : handle ≠ "" := handle_ne
      simp [Document.readEdge, Document.textField, Document.textFieldOr, Record.field, long]
  | withBlank usual isBlank =>
      obtain rfl : handle = defaultOutput := usual
      obtain rfl | rfl := isBlank
      · simp [Document.readEdge, Document.textField, Document.textFieldOr, Record.field]
      · simp [Document.readEdge, Document.textField, Document.textFieldOr, Record.field]
  | without usual =>
      obtain rfl : handle = defaultOutput := usual
      simp [Document.readEdge, Document.textField, Document.textFieldOr, Record.field]

end Edge.IsWritten

/-! ## Accepted definitions -/

namespace Graph

variable {definition : Definition} {graph : Graph}

/-- An accepted definition can be told apart node by node and output by output. -/
theorem haveIds_of_ofDefinition (accepted : ofDefinition definition = .ok graph) :
    HaveIds definition.nodes where
  nodup_ids := nodup_ids_of_ofDefinition accepted
  nodup_outputIds _ member := nodup_outputIds_of_ofDefinition accepted member

/-- Every node of an accepted definition is found in its graph. -/
theorem node?_of_mem (accepted : ofDefinition definition = .ok graph) {node : Node}
    (member : node ∈ definition.nodes) : graph.node? node.id = some node := by
  obtain ⟨_, entry, _, _, rfl⟩ := ofDefinition_eq_ok accepted
  exact find?_of_nodup (nodup_ids_of_ofDefinition accepted) member

end Graph

/-- An edge that obeys the schema of edges however it is written, and is read as it is. -/
structure Edge.IsNamed (edge : Edge) : Prop where
  source_ne : edge.source ≠ ""
  handle_ne : edge.handle ≠ ""
  target_ne : edge.target ≠ ""

/-- The connections of an accepted definition lead from names to names. -/
theorem connections_isNamed {definition : Definition} {graph : Graph} (named : definition.IsNamed)
    (accepted : Graph.ofDefinition definition = .ok graph) :
    ∀ edge ∈ connections definition.nodes, edge.IsNamed := by
  intro edge member
  obtain ⟨node, inside, leaves⟩ := List.mem_flatMap.mp member
  obtain ⟨output, declared, aimed, source, handle⟩ := Node.mem_connections.mp leaves
  obtain ⟨behind, found⟩ := Option.isSome_iff_exists.mp
    ((Graph.isSound_of_ofDefinition accepted).targetFound (Graph.node?_of_mem accepted inside)
      declared aimed)
  obtain ⟨there, target⟩ := Graph.mem_nodes_of_node? found
  obtain ⟨_, entry, _, _, rfl⟩ := Graph.ofDefinition_eq_ok accepted
  exact ⟨source ▸ (named.nodes node inside).id_ne,
    handle ▸ ((named.nodes node inside).outputs output declared).id_ne,
    target ▸ (named.nodes behind there).id_ne⟩

/-! ## Reading the canvas -/

/-- The definition as it is read from its canvas document. -/
def Definition.onCanvas (definition : Definition) (widget : Node → String) : Definition :=
  { definition with nodes := definition.nodes.map fun node => node.onCanvas (widget node) }

theorem Definition.withoutNodeMetadata_onCanvas (definition : Definition)
    (widget : Node → String) :
    (definition.onCanvas widget).withoutNodeMetadata = definition.withoutNodeMetadata := by
  simp only [withoutNodeMetadata, onCanvas, List.map_map]
  rfl

/-- The kinds of widgets change no connection, and the nodes can still be told apart. -/
theorem HaveIds.onCanvas {definition : Definition} (unique : HaveIds definition.nodes)
    (widget : Node → String) : HaveIds (definition.onCanvas widget).nodes := by
  constructor
  · rw [Definition.onCanvas, List.map_map]
    exact unique.nodup_ids
  · intro node member
    obtain ⟨original, inside, rfl⟩ := List.mem_map.mp member
    exact unique.nodup_outputIds original inside

theorem connections_onCanvas (definition : Definition) (widget : Node → String) :
    connections (definition.onCanvas widget).nodes = connections definition.nodes := by
  simp only [connections, Definition.onCanvas, List.flatMap_map]
  rfl

/-- **The canvas document of a definition is read as the definition.** -/
theorem Document.definition_toCanvas {definition : Definition} (named : definition.IsNamed)
    (unique : HaveIds definition.nodes)
    (links : ∀ edge ∈ connections definition.nodes, edge.IsNamed) {widget : Node → String}
    (long : ∀ node ∈ definition.nodes, widget node ≠ "") {edges : List Edge}
    (order : edges.Perm (connections definition.nodes)) {written : List Value}
    (areWritten : List.Forall₂ Edge.IsWritten edges written) (supply : IdSupply) :
    Document.definition supply (definition.toCanvas widget written) =
      .ok (definition.onCanvas widget, supply) := by
  have edgesNamed : ∀ edge ∈ edges, edge.IsNamed :=
    fun edge member => links edge (order.mem_iff.mp member)
  have spelt : (∀ item ∈ written, Schema.Obeys item Schema.edge) ∧
      written.map (fun item => readEdge (asRecord item)) = edges := by
    clear order
    induction areWritten with
    | nil => simp
    | cons first _ ih =>
        rw [List.forall_mem_cons] at edgesNamed
        obtain ⟨fine, same⟩ := ih edgesNamed.2
        refine ⟨List.forall_mem_cons.mpr ⟨first.obeys edgesNamed.1.source_ne
          edgesNamed.1.target_ne, fine⟩, ?_⟩
        rw [List.map_cons, same, first.readEdge edgesNamed.1.handle_ne]
  have listed : ∀ node ∈ definition.nodes,
      Schema.Obeys (node.toCanvas (widget node)) Schema.node :=
    fun node member => node.toCanvas_obeys (named.nodes node member) (long node member)
  have each : List.Forall₂ (fun item node => readNode (asRecord item) = .ok node)
      (definition.nodes.map fun node => node.toCanvas (widget node))
      ((definition.onCanvas widget).nodes.map (Node.boundBy [])) := by
    rw [Definition.onCanvas, List.map_map, List.forall₂_map_left_iff, List.forall₂_map_right_iff,
      List.forall₂_same]
    exact fun node member => readNode_toCanvas (named.nodes node member) (widget node)
  have bound := Edge.bindAll_of_perm (unique.onCanvas widget)
    ((connections_onCanvas definition widget).symm ▸ order)
  refine definition_documentAround named.id_ne named.version_ne ?_ ?_ supply
  · refine Schema.object_iff.mpr ⟨_, rfl, ⟨by simp, ?_⟩⟩
    simpa using ⟨listed, spelt.1⟩
  · refine readNodes_eq_ok (definition.field?_steps _) (listField_eq (by simp)) each ?_ bound
    rw [@listField_eq _ "edges" written (by simp), spelt.2]

/-- **The canvas layout means the same workflow as the plain one**: what was read and accepted
can be drawn with any kinds of widgets, its edges in any order and usual handles spelt in any
way.  It is read as a definition that is written in the same way, is accepted with the same
node to enter at, and has the same node behind every output. -/
theorem canvas_means_the_same {supply later : IdSupply} {value : Value} {definition : Definition}
    {graph : Graph} (read : Document.definition supply value = .ok (definition, later))
    (accepted : Graph.ofDefinition definition = .ok graph) {widget : Node → String}
    (long : ∀ node ∈ definition.nodes, widget node ≠ "") {edges : List Edge}
    (order : edges.Perm (connections definition.nodes)) {written : List Value}
    (areWritten : List.Forall₂ Edge.IsWritten edges written) (another : IdSupply) :
    ∃ drawn drawnGraph,
      Document.definition another (definition.toCanvas widget written) = .ok (drawn, another) ∧
      drawn.toDocument = definition.toDocument ∧
      Graph.ofDefinition drawn = .ok drawnGraph ∧
      drawnGraph.entryId = graph.entryId ∧
      ∀ node output, (drawnGraph.next node output).map (Option.map Node.withoutMetadata) =
        (graph.next node output).map (Option.map Node.withoutMetadata) := by
  have named := Document.isNamed_of_definition read
  have same := definition.withoutNodeMetadata_onCanvas widget
  obtain ⟨drawnGraph, drawnAccepted, alike⟩ := Graph.ofDefinition_of_same accepted same
  have entry : drawnGraph.withoutNodeMetadata.entryId = graph.withoutNodeMetadata.entryId :=
    congrArg Graph.entryId alike
  refine ⟨definition.onCanvas widget, drawnGraph,
    Document.definition_toCanvas named (Graph.haveIds_of_ofDefinition accepted)
      (connections_isNamed named accepted) long order areWritten another,
    ?_, drawnAccepted, entry, ?_⟩
  · rw [← Definition.toDocument_withoutNodeMetadata, same,
      Definition.toDocument_withoutNodeMetadata]
  · intro node output
    rw [← Graph.next_withoutNodeMetadata, alike, Graph.next_withoutNodeMetadata]

namespace Booth

/-- The edges of the sketch, the last one first, and with a handle only where one is needed. -/
def drawnEdges : List Value := [
  .record (Record.ofFields [("source", .text "pick"), ("target", .text "print")]),
  .record (Record.ofFields [
    ("source", .text "touch"), ("sourceHandle", .text "go"), ("target", .text "pick")])]

theorem sketch_drawn :
    Document.definition ⟨0⟩ sketch = .ok (sketched, ⟨0⟩) ∧
      Graph.ofDefinition sketched = .ok ⟨sketched, [], "touch"⟩ ∧
      ∃ drawn drawnGraph,
        Document.definition ⟨3⟩ (sketched.toCanvas (fun _ => "workflowStep") drawnEdges) =
          .ok (drawn, ⟨3⟩) ∧
        drawn.toDocument = sketched.toDocument ∧
        Graph.ofDefinition drawn = .ok drawnGraph ∧
        drawnGraph.entryId = "touch" ∧
        ∀ node output, (drawnGraph.next node output).map (Option.map Node.withoutMetadata) =
          (Graph.next ⟨sketched, [], "touch"⟩ node output).map
            (Option.map Node.withoutMetadata) := by
  have accepted : Graph.ofDefinition sketched = .ok ⟨sketched, [], "touch"⟩ := rfl
  have order : [⟨"pick", "default", "print"⟩, ⟨"touch", "go", "pick"⟩].Perm
      (connections sketched.nodes) := .swap _ _ _
  have areWritten : List.Forall₂ Edge.IsWritten
      [⟨"pick", "default", "print"⟩, ⟨"touch", "go", "pick"⟩] drawnEdges :=
    .cons (.without rfl) (.cons .inFull .nil)
  exact ⟨sketch_read, accepted, canvas_means_the_same sketch_read accepted
    (fun _ _ => by decide) order areWritten ⟨3⟩⟩

end Booth

end GuestFlow
