import GuestFlow.Proofs.Document.Naming
import GuestFlow.Proofs.Metadata

/-!
# Definitions can be read back

A definition with its names, written in the plain layout, is a document again, and
reading that document gives the same definition.  Only the metadata of nodes is gone,
which is not written (`definition_toDocument`).

What was read from a document, in whatever layout, has its names.  So it can always be
written and read back (`written_definitions_read_back`), and a second writing brings
nothing new.
-/

set_option autoImplicit false

namespace GuestFlow

/-! ## Records of named fields -/

namespace Record

@[simp] theorem field?_ofFields_nil (name : String) : (ofFields []).field? name = none := rfl

@[simp] theorem field?_ofFields_cons (first name : String) (value : Value)
    (rest : List (String × Value)) :
    (ofFields ((first, value) :: rest)).field? name =
      if first = name then some value else (ofFields rest).field? name := by
  simp [ofFields, field?, get?, Value.sameKey]

end Record

/-! ## Values that fit -/

namespace Schema

@[simp] theorem text_obeys_optionalText (characters : String) :
    Obeys (.text characters) optionalText :=
  anyOf_iff.mpr (.inr ⟨.string, by simp, rfl⟩)

@[simp] theorem null_obeys_optionalText : Obeys .null optionalText :=
  anyOf_iff.mpr (.inr ⟨.null, by simp, rfl⟩)

@[simp] theorem optionalText_obeys (written : Option String) :
    Obeys (GuestFlow.optionalText written) optionalText := by
  cases written with
  | none => exact null_obeys_optionalText
  | some characters => exact text_obeys_optionalText characters

@[simp] theorem record_obeys_optionalObject (entries : Record) :
    Obeys (.record entries) optionalObject :=
  anyOf_iff.mpr (.inr ⟨.object, by simp, rfl⟩)

@[simp] theorem bool_obeys_boolean (flag : Bool) : Obeys (.bool flag) (anyOf [.boolean]) :=
  anyOf_iff.mpr (.inr ⟨.boolean, by simp, rfl⟩)

@[simp] theorem text_obeys_name {characters : String} :
    Obeys (.text characters) name ↔ characters ≠ "" := by
  simp [name_iff]

@[simp] theorem list_obeys_listOf {items : List Value} {schema : Schema} :
    Obeys (.list items) (listOf schema) ↔ ∀ item ∈ items, Obeys item schema := by
  simp [listOf_iff]

end Schema

/-! ## Outputs and nodes -/

theorem Output.toDocument_obeys {output : Output} (named : output.IsNamed) :
    Schema.Obeys output.toDocument Schema.output := by
  refine Schema.object_iff.mpr ⟨_, rfl, ⟨by simp, ?_⟩⟩
  simp [named.id_ne]

theorem Node.toDocument_obeys {node : Node} (named : node.IsNamed) :
    Schema.Obeys node.toDocument Schema.node := by
  refine Schema.record_iff.mpr ⟨_, rfl, ⟨by simp, ?_⟩, .inr ⟨["type"], by simp, by rfl⟩⟩
  have outputs : ∀ output ∈ node.outputs, Schema.Obeys output.toDocument Schema.output :=
    fun output member => output.toDocument_obeys (named.outputs output member)
  simpa [named.id_ne, named.kind_ne] using outputs

namespace Document

@[simp] theorem asRecord_record (entries : Record) : asRecord (.record entries) = entries := rfl

/-- A text that may be missing is read as it was written. -/
theorem optionalField_eq {record : Record} {name : String} {written : Option String}
    (found : record.field? name = some (optionalText written)) :
    optionalField record name = written := by
  cases written with
  | none => simp [optionalField, Record.field, found, optionalText]
  | some characters => simp [optionalField, Record.field, found, optionalText]

theorem readOutput_toDocument {output : Output} (named : output.IsNamed) :
    readOutput (asRecord output.toDocument) = output := by
  obtain ⟨id, label, kind, target⟩ := output
  have kind_ne : kind ≠ "" := named.kind_ne
  cases target with
  | none =>
      simp [readOutput, Output.toDocument, textField, textFieldOr, firstField, Record.field,
        optionalText, kind_ne]
  | some target =>
      simp [readOutput, Output.toDocument, textField, textFieldOr, firstField, Record.field,
        optionalText, kind_ne]

theorem readNode_toDocument {node : Node} (named : node.IsNamed) :
    readNode (asRecord node.toDocument) = .ok node.withoutMetadata := by
  have outputs : node.outputs.map (fun output => readOutput (asRecord output.toDocument)) =
      node.outputs := by
    rw [List.map_congr_left fun output member =>
      readOutput_toDocument (named.outputs output member)]
    exact List.map_id _
  simp [readNode, readPlainNode, Node.toDocument, textField, recordField, listField, firstField,
    Record.field, Record.ofOptional, Value.isTruthy, Node.withoutMetadata, outputs, bind_eq_ok_iff,
    Function.comp_def]

end Document

/-! ## Definitions -/

namespace Definition

/-- The document of a definition around some steps. -/
def documentAround (definition : Definition) (steps : Record) : Record :=
  Record.ofFields [
    ("id", .text definition.id), ("name", .text definition.name),
    ("description", optionalText definition.description), ("version", .text definition.version),
    ("flowType", optionalText definition.flowType), ("metadata", .record definition.metadata),
    ("steps", .record steps)]

theorem field?_steps (definition : Definition) (steps : Record) :
    (definition.documentAround steps).field? "steps" = some (.record steps) := by
  simp [documentAround]

theorem toDocument_eq (definition : Definition) :
    definition.toDocument = .record (definition.documentAround
      (Record.ofFields [("nodes", .list (definition.nodes.map Node.toDocument))])) := rfl

end Definition

namespace Document

/-- What is read from the document around some steps is the definition with the nodes that are
read from the steps. -/
theorem definition_documentAround {definition : Definition} {steps : Record} {nodes : List Node}
    (id_ne : definition.id ≠ "") (version_ne : definition.version ≠ "")
    (obeys : Schema.Obeys (.record steps) (Schema.object ["nodes"]
      [("nodes", .listOf Schema.node), ("edges", .listOf Schema.edge)]))
    (read : readNodes (definition.documentAround steps) = .ok nodes) (supply : IdSupply) :
    Document.definition supply (.record (definition.documentAround steps)) =
      .ok ({ definition with nodes }, supply) := by
  have plain : unwrap (definition.documentAround steps) = definition.documentAround steps := by
    simp [unwrap, Definition.documentAround, Record.field]
  have fits : problems (.record (definition.documentAround steps)) = .ok [] := by
    refine problems_eq_nil_iff.mpr (Schema.object_iff.mpr ⟨_, rfl, ⟨?_, ?_⟩⟩)
    · simp [Definition.documentAround]
    · have id : Schema.Obeys (.text definition.id) (.anyOf [.string, .integer]) :=
        Schema.anyOf_iff.mpr (.inr ⟨.string, by simp, rfl⟩)
      simpa [Definition.documentAround, id] using obeys
  have given : givenId? (definition.documentAround steps) = .ok (some definition.id) := by
    simp [givenId?, Definition.documentAround, Record.field, Value.isTruthy, Value.text?,
      Value.isWritable, Value.rendering, id_ne, Except.map]
  unfold Document.definition
  dsimp only
  rw [plain, bind_eq_ok_iff]
  refine ⟨[], fits, ?_⟩
  rw [List.isEmpty_nil, if_pos rfl, readChecked, bind_eq_ok_iff]
  refine ⟨nodes, read, bind_eq_ok_iff.mpr ⟨_, given, ?_⟩⟩
  have description : optionalField (definition.documentAround steps) "description" =
      definition.description := optionalField_eq (by simp [Definition.documentAround])
  have flowType : optionalField (definition.documentAround steps) "flowType" =
      definition.flowType := optionalField_eq (by simp [Definition.documentAround])
  dsimp only
  rw [description, flowType]
  simp [Definition.documentAround, textField, textFieldOr, recordField, Record.field, version_ne]

/-- The steps of a document are read node by node, and then the edges are bound. -/
theorem readNodes_eq_ok {document steps : Record} {items : List Value} {unbound nodes : List Node}
    {edges : List Edge} {exits : List (String × String)}
    (there : document.field? "steps" = some (.record steps))
    (listed : listField steps "nodes" = items)
    (each : List.Forall₂ (fun item node => readNode (asRecord item) = .ok node) items unbound)
    (drawn : (listField steps "edges").map (fun item => readEdge (asRecord item)) = edges)
    (bound : Edge.bindAll unbound edges = ⟨nodes, exits, []⟩) : readNodes document = .ok nodes := by
  rw [readNodes, recordField_eq there, bind_eq_ok_iff]
  refine ⟨unbound, mapM_eq_ok_iff.mpr (listed ▸ each), ?_⟩
  dsimp only
  rw [drawn, bound]
  rfl

/-- **A definition with its names can be written and read back.** -/
theorem definition_toDocument {definition : Definition} (named : definition.IsNamed)
    (supply : IdSupply) :
    Document.definition supply definition.toDocument =
      .ok (definition.withoutNodeMetadata, supply) := by
  have listed : ∀ node ∈ definition.nodes, Schema.Obeys node.toDocument Schema.node :=
    fun node member => node.toDocument_obeys (named.nodes node member)
  have each : List.Forall₂ (fun item node => readNode (asRecord item) = .ok node)
      (definition.nodes.map Node.toDocument) (definition.nodes.map Node.withoutMetadata) := by
    rw [List.forall₂_map_left_iff, List.forall₂_map_right_iff, List.forall₂_same]
    exact fun node member => readNode_toDocument (named.nodes node member)
  rw [Definition.toDocument_eq]
  refine definition_documentAround named.id_ne named.version_ne ?_ ?_ supply
  · refine Schema.object_iff.mpr ⟨_, rfl, ⟨by simp, ?_⟩⟩
    simpa using listed
  · exact readNodes_eq_ok (definition.field?_steps _) (listField_eq (by simp)) each rfl rfl

end Document

/-- **Whatever was read from a document can be written and read back**: all of the definition
returns but the metadata of its nodes, and writing it once more gives the same document. -/
theorem written_definitions_read_back {supply later : IdSupply} {value : Value}
    {definition : Definition} (read : Document.definition supply value = .ok (definition, later))
    (another : IdSupply) :
    Document.definition another definition.toDocument =
        .ok (definition.withoutNodeMetadata, another) ∧
      definition.withoutNodeMetadata.toDocument = definition.toDocument :=
  ⟨Document.definition_toDocument (Document.isNamed_of_definition read) another,
    definition.toDocument_withoutNodeMetadata⟩

namespace Booth

/-- A document of both layouts: a trigger that says itself where it leads, a step on the canvas
whose only output is bound by an edge, and a last step. -/
def sketch : Value :=
  .record (Record.ofFields [("workflow", .record (Record.ofFields [
    ("id", .int 7), ("name", .null), ("steps", .record (Record.ofFields [
      ("nodes", .list [
        .record (Record.ofFields [
          ("id", .text "touch"), ("type", .text Kind.touchToStart),
          ("metadata", .record (Record.ofFields [("place", .text "foyer")])),
          ("outputs", .list [
            .record (Record.ofFields [("id", .text "go"), ("next", .text "pick")])])]),
        .record (Record.ofFields [
          ("id", .text "pick"), ("type", .text "workflowStep"),
          ("data", .record (Record.ofFields [("type", .text "SELECTION_SCREEN")]))]),
        .record (Record.ofFields [("id", .text "print"), ("type", .text "PRINT")])]),
      ("edges", .list [
        .record (Record.ofFields [("source", .text "pick"), ("target", .text "print")])])]))]))])

def sketched : Definition where
  id := "7"
  name := ""
  description := none
  nodes := [
    ⟨"touch", Kind.touchToStart, "", [], [⟨"go", "", "default", some "pick"⟩], false,
      Record.ofFields [("place", .text "foyer")]⟩,
    ⟨"pick", "SELECTION_SCREEN", "", [], [⟨"default", "", "default", some "print"⟩], false,
      Record.ofFields [("canvasType", .text "workflowStep")]⟩,
    ⟨"print", "PRINT", "", [], [], false, []⟩]
  version := "1.0.0"
  flowType := none
  metadata := []

theorem sketch_read : Document.definition ⟨0⟩ sketch = .ok (sketched, ⟨0⟩) := by decide +kernel

theorem sketch_reads_back :
    Document.definition ⟨0⟩ sketch = .ok (sketched, ⟨0⟩) ∧
      Document.definition ⟨3⟩ sketched.toDocument = .ok (sketched.withoutNodeMetadata, ⟨3⟩) ∧
      sketched.withoutNodeMetadata.toDocument = sketched.toDocument :=
  ⟨sketch_read, written_definitions_read_back sketch_read ⟨3⟩⟩

end Booth

end GuestFlow
