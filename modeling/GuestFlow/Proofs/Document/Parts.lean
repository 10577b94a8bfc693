import GuestFlow.Proofs.Document.Naming
import GuestFlow.Proofs.Json.Reading

/-!
# The free parts of a definition

The configurations of the steps and the metadata of a definition are free in form.  They are
parts of the document that the definition was read from, in either layout, so they have every
property that comes down to the parts of a value (`Document.free_of_definition`).  And the
document that a definition is written as has every property that goes up from the free parts to
the whole (`Definition.Free.toDocument`).
-/

set_option autoImplicit false

namespace GuestFlow

/-! ## Properties of parts -/

namespace Value

/-- A property that the empty record has, and that comes down to the fields of a record and to
the items of a list. -/
structure IsHereditary (Holds : Value → Prop) : Prop where
  empty : Holds (.record [])
  field {entries : Record} {name : String} {found : Value} :
    Holds (.record entries) → entries.field? name = some found → Holds found
  item {items : List Value} : Holds (.list items) → ∀ item ∈ items, Holds item

theorem isHereditary_isJson : IsHereditary IsJson where
  empty := .empty
  field said there := said.of_field? there
  item said := by
    cases said with
    | list each => exact each

theorem isHereditary_isSound : IsHereditary IsSound where
  empty := .empty
  field sound there := by
    cases sound with
    | record _ _ ofValues =>
        obtain ⟨stored, member⟩ := Record.mem_of_get? there
        exact ofValues _ member
  item sound := by
    cases sound with
    | list each => exact each

end Value

/-- The free parts of a definition have a property. -/
structure Definition.Free (Holds : Value → Prop) (definition : Definition) : Prop where
  metadata : Holds (.record definition.metadata)
  configs : ∀ node ∈ definition.nodes, Holds (.record node.config)

namespace Document

section Hereditary

variable {Holds : Value → Prop} (hereditary : Value.IsHereditary Holds) {record : Record}

include hereditary

theorem holds_recordField (whole : Holds (.record record)) (name : String) :
    Holds (.record (recordField record name)) := by
  unfold recordField Record.field
  cases there : record.field? name with
  | none => exact hereditary.empty
  | some found =>
      have inside := hereditary.field whole there
      cases found with
      | record entries => exact inside
      | _ => exact hereditary.empty

theorem holds_listField (whole : Holds (.record record)) (name : String) :
    ∀ item ∈ listField record name, Holds item := by
  unfold listField Record.field
  cases there : record.field? name with
  | none => simp
  | some found =>
      have inside := hereditary.field whole there
      cases found with
      | list items => exact hereditary.item inside
      | _ => simp

theorem holds_asRecord {item : Value} (whole : Holds item) : Holds (.record (asRecord item)) := by
  cases item with
  | record entries => exact whole
  | _ => exact hereditary.empty

theorem holds_unwrap (whole : Holds (.record record)) : Holds (.record (unwrap record)) := by
  unfold unwrap Record.field
  cases there : record.field? "workflow" with
  | none => exact whole
  | some found =>
      have inside := hereditary.field whole there
      cases found with
      | record entries => exact inside
      | _ => exact whole

/-- The configuration of a node is a part of what describes the node. -/
theorem holds_readNode (whole : Holds (.record record)) {node : Node}
    (read : readNode record = .ok node) : Holds (.record node.config) := by
  unfold readNode Record.field at read
  split at read
  · rename_i step there
    cases read
    cases found : record.field? "data" with
    | none =>
        rw [found] at there
        cases there
    | some value =>
        rw [found] at there
        cases there
        exact holds_recordField hereditary (hereditary.field whole found) "config"
  · obtain ⟨metadata, _, built⟩ := bind_eq_ok_iff.mp read
    cases built
    exact holds_recordField hereditary whole "config"

/-- **What comes down to the parts of a value comes down to the free parts of the definition**
that the value describes. -/
theorem free_of_definition {value : Value} (whole : Holds value) {supply later : IdSupply}
    {definition : Definition}
    (read : Document.definition supply value = .ok (definition, later)) :
    definition.Free Holds := by
  unfold Document.definition at read
  split at read
  · rename_i entries
    obtain ⟨found, _, read⟩ := bind_eq_ok_iff.mp read
    have whole := holds_unwrap hereditary whole
    generalize unwrap entries = document at read whole
    split at read
    · obtain ⟨nodes, readNodes, read⟩ := bind_eq_ok_iff.mp read
      obtain ⟨given, _, built⟩ := bind_eq_ok_iff.mp read
      have items := holds_listField hereditary (holds_recordField hereditary whole "steps") "nodes"
      have kept : Edge.IsKeptByTargets fun node => Holds (.record node.config) :=
        fun _ _ _ holds => holds
      have configs := forall_readNodes kept (fun item member _ =>
        holds_readNode hereditary (holds_asRecord hereditary (items item member))) readNodes
      have metadata := holds_recordField hereditary whole "metadata"
      cases given with
      | none =>
          cases built
          exact ⟨metadata, configs⟩
      | some id =>
          cases built
          exact ⟨metadata, configs⟩
    · cases read
  · cases read

end Hereditary

end Document

/-! ## Written definitions -/

section Written

variable {Holds : Value → Prop} (inductively : Json.IsInductive Holds)

include inductively

theorem holds_optionalText (written : Option String) : Holds (optionalText written) := by
  cases written with
  | none => exact inductively.null
  | some characters => exact inductively.text characters

/-- Fields with different names are a record. -/
theorem holds_ofFields {fields : List (String × Value)}
    (distinct : (fields.map Prod.fst).Nodup) (each : ∀ field ∈ fields, Holds field.2) :
    Holds (.record (Record.ofFields fields)) := by
  have distinct : (Record.ofFields fields).HasDistinctKeys := by
    rw [List.Nodup, List.pairwise_map] at distinct
    unfold Record.HasDistinctKeys Record.keys Record.ofFields
    rw [List.map_map, List.pairwise_map]
    refine distinct.imp fun differ => ?_
    simpa [Value.sameKey] using differ
  rw [← Record.ofEntries_eq distinct]
  refine inductively.record fun entry member => ?_
  obtain ⟨field, inside, rfl⟩ := List.mem_map.mp member
  exact ⟨⟨field.1, rfl⟩, each field inside⟩

theorem holds_output (output : Output) : Holds output.toDocument := by
  refine holds_ofFields inductively (by simp) ?_
  simp [inductively.text, holds_optionalText inductively]

theorem holds_node {node : Node} (config : Holds (.record node.config)) :
    Holds node.toDocument := by
  have outputs : Holds (.list (node.outputs.map Output.toDocument)) := by
    refine inductively.list fun item member => ?_
    obtain ⟨output, -, rfl⟩ := List.mem_map.mp member
    exact holds_output inductively output
  refine holds_ofFields inductively (by simp) ?_
  simp [inductively.text, inductively.bool, config, outputs]

/-- **What goes up from parts to the whole holds of a written definition** if it holds of the free
parts. -/
theorem Definition.Free.toDocument {definition : Definition} (free : definition.Free Holds) :
    Holds definition.toDocument := by
  have nodes : Holds (.list (definition.nodes.map Node.toDocument)) := by
    refine inductively.list fun item member => ?_
    obtain ⟨node, inside, rfl⟩ := List.mem_map.mp member
    exact holds_node inductively (free.configs node inside)
  have steps : Holds (.record (Record.ofFields
      [("nodes", .list (definition.nodes.map Node.toDocument))])) :=
    holds_ofFields inductively (by simp) (by simpa using nodes)
  refine holds_ofFields inductively (by simp) ?_
  simp [inductively.text, holds_optionalText inductively, free.metadata, steps]

end Written

end GuestFlow
