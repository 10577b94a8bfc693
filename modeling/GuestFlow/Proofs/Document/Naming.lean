import GuestFlow.Document.Reading
import GuestFlow.Proofs.Document.Schema
import GuestFlow.Proofs.Value.Text

/-!
# Definitions that were read

The schema of workflow documents wants names not to be empty.  What was read from a
document therefore has names where it must: ids and kinds of nodes and outputs, and the
id and the version of the definition itself (`Definition.IsNamed`).

The proofs follow the reader, from outputs to the whole definition
(`Document.isNamed_of_definition`).
-/

set_option autoImplicit false

namespace GuestFlow

/-! ## Names -/

structure Output.IsNamed (output : Output) : Prop where
  id_ne : output.id ≠ ""
  kind_ne : output.kind ≠ ""

structure Node.IsNamed (node : Node) : Prop where
  id_ne : node.id ≠ ""
  kind_ne : node.kind ≠ ""
  outputs : ∀ output ∈ node.outputs, output.IsNamed

structure Definition.IsNamed (definition : Definition) : Prop where
  id_ne : definition.id ≠ ""
  version_ne : definition.version ≠ ""
  nodes : ∀ node ∈ definition.nodes, node.IsNamed

namespace Document

/-! ## Fields -/

theorem textField_eq {record : Record} {name characters : String}
    (found : record.field? name = some (.text characters)) :
    textField record name = characters := by
  simp [textField, Record.field, found]

theorem recordField_eq {record entries : Record} {name : String}
    (found : record.field? name = some (.record entries)) : recordField record name = entries := by
  simp [recordField, Record.field, found]

theorem listField_eq {record : Record} {name : String} {items : List Value}
    (found : record.field? name = some (.list items)) : listField record name = items := by
  simp [listField, Record.field, found]

/-- A text with a usual one in its place is not empty. -/
theorem textFieldOr_ne_empty (record : Record) (name : String) {usual : String}
    (long : usual ≠ "") : textFieldOr record name usual ≠ "" := by
  unfold textFieldOr
  dsimp only
  split
  · exact long
  · assumption

/-- What is read from a list of described items is what holds of every described item. -/
theorem forall_listField (Holds : Value → Prop) {record : Record} {name : String}
    {schema : Schema}
    (obeys : ∀ field, record.field? name = some field → Schema.Obeys field (.listOf schema))
    (each : ∀ {item}, Schema.Obeys item schema → Holds item) :
    ∀ item ∈ listField record name, Holds item := by
  intro item member
  cases found : record.field? name with
  | none => simp [listField, Record.field, found] at member
  | some field =>
      obtain ⟨items, rfl, obey⟩ := Schema.listOf_iff.mp (obeys field found)
      rw [listField_eq found] at member
      exact each (obey item member)

/-! ## Outputs and nodes -/

theorem readOutput_isNamed {item : Value} (obeys : Schema.Obeys item Schema.output) :
    (readOutput (asRecord item)).IsNamed := by
  obtain ⟨entries, rfl, described⟩ := Schema.object_iff.mp obeys
  obtain ⟨id, found, long⟩ := @Schema.DescribedBy.name_of_required _ _ _ described "id" (by simp)
    (by simp)
  exact ⟨by rwa [readOutput, asRecord, textField_eq found],
    textFieldOr_ne_empty _ _ (by decide)⟩

/-- A node that holds a step has the step's kind. -/
theorem readCanvasNode_isNamed {data step : Record} {id : String}
    (identified : data.field? "id" = some (.text id)) (long : id ≠ "")
    (obeys : Schema.Obeys (.record step) Schema.step) : (readCanvasNode data step).IsNamed := by
  obtain ⟨_, same, described⟩ := Schema.object_iff.mp obeys
  cases same
  obtain ⟨kind, found, kindLong⟩ := @Schema.DescribedBy.name_of_required _ _ _ described "type"
    (by simp) (by simp)
  refine ⟨by rwa [readCanvasNode, textField_eq identified],
    by rwa [readCanvasNode, textField_eq found], ?_⟩
  have outputs := described.obeys ("outputs", .listOf Schema.output) (by simp)
  intro output member
  unfold readCanvasNode at member
  dsimp only at member
  split at member
  · rename_i items there
    obtain ⟨_, same, obey⟩ := Schema.listOf_iff.mp (outputs _ there)
    cases same
    obtain ⟨item, inside, rfl⟩ := List.mem_map.mp member
    exact readOutput_isNamed (obey item inside)
  · rw [List.mem_singleton] at member
    subst member
    exact ⟨by decide, by decide⟩

theorem readNode_isNamed {item : Value} (obeys : Schema.Obeys item Schema.node) {node : Node}
    (read : readNode (asRecord item) = .ok node) : node.IsNamed := by
  obtain ⟨entries, rfl, described, alternative⟩ := Schema.record_iff.mp obeys
  obtain ⟨id, identified, long⟩ := @Schema.DescribedBy.name_of_required _ _ _ described "id"
    (by simp) (by simp)
  have ofStep := described.obeys ("data", Schema.step) (by simp)
  unfold readNode asRecord at read
  cases there : Record.field? entries "data" with
  | some held =>
      obtain ⟨step, rfl, _⟩ := Schema.object_iff.mp (ofStep held there)
      simp only [Record.field, there, Option.getD_some] at read
      cases read
      exact readCanvasNode_isNamed identified long (ofStep _ there)
  | none =>
      simp only [Record.field, there, Option.getD_none, readPlainNode] at read
      obtain ⟨metadata, _, built⟩ := bind_eq_ok_iff.mp read
      cases built
      have typed : ∃ field, Record.field? entries "type" = some field := by
        simpa [Schema.missing_record_iff, there] using alternative
      obtain ⟨field, found⟩ := typed
      obtain ⟨kind, rfl, kindLong⟩ := Schema.name_iff.mp
        (described.obeys ("type", Schema.name) (by simp) field found)
      refine ⟨by rwa [textField_eq identified], by rwa [textField_eq found], ?_⟩
      intro output member
      obtain ⟨item, inside, rfl⟩ := List.mem_map.mp member
      exact forall_listField (fun item => (readOutput (asRecord item)).IsNamed)
        (described.obeys ("outputs", .listOf Schema.output) (by simp)) readOutput_isNamed item
        inside

end Document

/-! ## Edges -/

/-- What holds of every item, and is kept by a change, holds after the first item picked was
changed. -/
theorem Graph.forall_changeFirst {α : Type} {Holds : α → Prop} {picks : α → Bool} {change : α → α}
    (kept : ∀ {item}, Holds item → Holds (change item)) {items : List α}
    (each : ∀ item ∈ items, Holds item) : ∀ item ∈ changeFirst picks change items, Holds item := by
  induction items with
  | nil => exact each
  | cons first rest ih =>
      rw [List.forall_mem_cons] at each
      unfold changeFirst
      split
      · exact List.forall_mem_cons.mpr ⟨kept each.1, each.2⟩
      · exact List.forall_mem_cons.mpr ⟨each.1, ih each.2⟩

namespace Edge

/-- A property of nodes that does not depend on where their outputs lead. -/
def IsKeptByTargets (Holds : Node → Prop) : Prop :=
  ∀ (node : Node) (handle target : String), Holds node → Holds { node with
    outputs := Graph.changeFirst (fun output => output.id == handle)
      (fun output => { output with target := some target }) node.outputs }

variable {Holds : Node → Prop} (kept : IsKeptByTargets Holds)
include kept

theorem forall_bind {progress : Progress} (each : ∀ node ∈ progress.nodes, Holds node)
    (edge : Edge) : ∀ node ∈ (bind progress edge).nodes, Holds node := by
  unfold bind
  split
  · exact each
  · split
    · exact each
    · split
      · exact each
      · exact Graph.forall_changeFirst (kept _ _ _) each

theorem forall_bindAll {nodes : List Node} (each : ∀ node ∈ nodes, Holds node)
    (edges : List Edge) : ∀ node ∈ (bindAll nodes edges).nodes, Holds node := by
  have bound : ∀ {progress : Progress}, (∀ node ∈ progress.nodes, Holds node) →
      ∀ node ∈ (edges.foldl bind progress).nodes, Holds node := by
    induction edges with
    | nil => exact fun each => each
    | cons edge rest ih => exact fun each => ih (forall_bind kept each edge)
  exact bound each

omit kept in
/-- Binding an edge leaves all names. -/
theorem isNamed_isKept : IsKeptByTargets Node.IsNamed := fun _ _ _ was =>
  ⟨was.id_ne, was.kind_ne, Graph.forall_changeFirst
    (fun output => ⟨output.id_ne, output.kind_ne⟩) was.outputs⟩

end Edge

/-! ## Documents -/

namespace Document

/-- What holds of every node as it is read holds of every node of the document, if binding the
edges keeps it. -/
theorem forall_readNodes {Holds : Node → Prop} (kept : Edge.IsKeptByTargets Holds)
    {document : Record} {nodes : List Node}
    (each : ∀ item ∈ listField (recordField document "steps") "nodes",
      ∀ {node}, readNode (asRecord item) = .ok node → Holds node)
    (read : readNodes document = .ok nodes) : ∀ node ∈ nodes, Holds node := by
  unfold readNodes at read
  obtain ⟨unbound, readEach, bound⟩ := bind_eq_ok_iff.mp read
  have holds : ∀ node ∈ unbound, Holds node := by
    have related := mapM_eq_ok_iff.mp readEach
    generalize listField (recordField document "steps") "nodes" = items at related each
    clear readEach bound read
    induction related with
    | nil => simp
    | cons first _ ih =>
        rw [List.forall_mem_cons] at each ⊢
        exact ⟨each.1 first, ih each.2⟩
  dsimp only at bound
  split at bound
  · cases bound
    exact Edge.forall_bindAll kept holds _
  · cases bound

/-- An id that a document gives is not empty. -/
theorem givenId?_ne_empty {document : Record}
    (obeys : ∀ field, document.field? "id" = some field →
      Schema.Obeys field (.anyOf [.string, .integer])) {id : String}
    (given : givenId? document = .ok (some id)) : id ≠ "" := by
  unfold givenId? Record.field at given
  dsimp only at given
  split at given
  · rename_i counts
    cases found : document.field? "id" with
    | none =>
        rw [found] at counts
        cases counts
    | some field =>
        rw [found, Option.getD_some] at given counts
        have shape := Schema.anyOf_iff.mp (obeys field found)
        unfold Value.text? at given
        split at given
        · cases given
          cases field with
          | text characters => simpa [Value.isTruthy, Value.rendering] using counts
          | int number => exact Value.int_text_ne_empty number
          | float number => exact Binary64.text_ne_empty number
          | _ => simp [Shape.fits] at shape
        · cases given
  · cases given

theorem fresh_ne_empty (supply : IdSupply) : supply.fresh.1 ≠ "" := by
  simp [IdSupply.fresh, String.append_eq_empty_iff]

/-- **A definition that was read has its names.** -/
theorem isNamed_of_definition {supply later : IdSupply} {value : Value} {definition : Definition}
    (read : Document.definition supply value = .ok (definition, later)) : definition.IsNamed := by
  unfold Document.definition at read
  split at read
  · rename_i entries
    obtain ⟨found, checked, read⟩ := bind_eq_ok_iff.mp read
    split at read
    · rename_i nothing
      rw [List.isEmpty_iff] at nothing
      subst nothing
      generalize unwrap entries = document at checked read
      obtain ⟨_, same, described⟩ := Schema.object_iff.mp (problems_eq_nil_iff.mp checked)
      cases same
      obtain ⟨held, there⟩ := described.has "steps" (by simp)
      obtain ⟨steps, rfl, listed⟩ := Schema.object_iff.mp
        (described.obeys ("steps", _) (by simp; rfl) held there)
      obtain ⟨nodes, readNodes, read⟩ := bind_eq_ok_iff.mp read
      obtain ⟨given, identified, built⟩ := bind_eq_ok_iff.mp read
      have readable := forall_listField (fun item => ∀ {node},
        readNode (asRecord item) = .ok node → node.IsNamed)
        (listed.obeys ("nodes", .listOf Schema.node) (by simp)) readNode_isNamed
      rw [← recordField_eq there] at readable
      have named := forall_readNodes Edge.isNamed_isKept readable readNodes
      have version : textFieldOr document "version" "1.0.0" ≠ "" :=
        textFieldOr_ne_empty document "version" (by decide)
      cases given with
      | none =>
          cases built
          exact ⟨fresh_ne_empty supply, version, named⟩
      | some id =>
          cases built
          exact ⟨givenId?_ne_empty
            (described.obeys ("id", .anyOf [.string, .integer]) (by simp)) identified, version,
            named⟩
    · cases read
  · cases read

end Document

end GuestFlow
