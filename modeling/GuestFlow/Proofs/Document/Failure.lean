import GuestFlow.Proofs.Document.Naming
import GuestFlow.Proofs.Value.Writing

/-!
# How reading fails

A value that is no workflow document should be answered with what is wrong with it, and
with nothing else: the schema is checked first, and what the reader then looks for is
there.  `documents_fail_over_metadata` says how far this goes.

Two failures of another kind are possible.  Neither the check nor the reader can write an
integer that is too long, as a part of an issue or as the id of the definition.  And the
schema leaves the metadata of a node free, while a node that describes its step itself
needs a record there, or what can be read as one (`Document.MetadataFails`): so a number in
that place is accepted and then breaks the reader (`Booth.numbered_metadata_fails`).
-/

set_option autoImplicit false

namespace GuestFlow

/-! ## Checking against a schema -/

namespace Schema

section Parts

variable (path : List String) (value : Value)

theorem issueAbout_fails (complaint : String) :
    FailsOnlyWith value.IsTooLong (issueAbout path value complaint) :=
  FailsOnlyWith.bind (fun _ failed => Value.isTooLong_of_literal? failed) fun _ => .of_ok _

theorem shapeIssues_fails (shapes : List Shape) :
    FailsOnlyWith value.IsTooLong (shapeIssues path value shapes) := by
  unfold shapeIssues
  split
  · exact .of_ok _
  · exact issueAbout_fails path value _

theorem lengthIssues_fails (nonEmpty : Bool) :
    FailsOnlyWith value.IsTooLong (lengthIssues path value nonEmpty) := by
  unfold lengthIssues
  split
  · exact issueAbout_fails path value _
  · exact .of_ok _

theorem alternativeIssues_fails (alternatives : List (List String)) :
    FailsOnlyWith value.IsTooLong (alternativeIssues path value alternatives) := by
  unfold alternativeIssues
  split
  · exact .of_ok _
  · exact issueAbout_fails path value _

/-- An item that is too long makes the value too long. -/
theorem isTooLong_of_numberedItem {numbered : Nat × Value} (member : numbered ∈ numberedItems value)
    {fault : Fault} (long : numbered.2.IsTooLong fault) : value.IsTooLong fault := by
  cases value with
  | list items => exact long.of_item (List.of_mem_zip member).2
  | _ => cases member

/-- A field that is too long makes the value too long. -/
theorem isTooLong_of_fieldOf? {name : String} {field : Value}
    (found : fieldOf? name value = some field) {fault : Fault} (long : field.IsTooLong fault) :
    value.IsTooLong fault := by
  cases value with
  | record entries => exact long.of_field found
  | _ => cases found

end Parts

mutual

/-- **Checking a value fails only where some integer in it is too long.** -/
theorem issues_fails (path : List String) (value : Value) :
    (schema : Schema) → FailsOnlyWith value.IsTooLong (issues path value schema)
  | .rules shapes nonEmpty items required properties alternatives => by
    unfold issues
    exact (shapeIssues_fails path value shapes).bind fun _ =>
      (lengthIssues_fails path value nonEmpty).bind fun _ =>
      (itemIssues_fails path value items).bind fun _ =>
      (propertyIssues_fails path value properties).bind fun _ =>
      (alternativeIssues_fails path value alternatives).bind fun _ => .of_ok _

theorem itemIssues_fails (path : List String) (value : Value) :
    (items : Option Schema) → FailsOnlyWith value.IsTooLong (itemIssues path value items)
  | none => .of_ok []
  | some schema => by
    unfold itemIssues
    refine FailsOnlyWith.bind (.mapM fun numbered member => ?_) fun _ => .of_ok _
    exact (issues_fails _ numbered.2 schema).mono fun _ => isTooLong_of_numberedItem value member

theorem propertyIssues_fails (path : List String) (value : Value) :
    (properties : List (String × Schema)) →
      FailsOnlyWith value.IsTooLong (propertyIssues path value properties)
  | [] => .of_ok []
  | (name, schema) :: rest => by
    have later := propertyIssues_fails path value rest
    unfold propertyIssues
    cases found : fieldOf? name value with
    | none => exact later.bind fun _ => .of_ok _
    | some field =>
      have here := (issues_fails (path ++ [name]) field schema).mono fun _ =>
        isTooLong_of_fieldOf? value found
      exact here.bind fun _ => later.bind fun _ => .of_ok _

end

end Schema

/-! ## Reading a value as a record -/

namespace Record

theorem ofOptional_eq_error_iff {value : Value} {fault : Fault} :
    ofOptional value = .error fault ↔ value.isTruthy = true ∧ ofValue value = .error fault := by
  unfold ofOptional
  split
  · rename_i given
    simp [given]
  · rename_i blank
    simp [blank]

theorem addPairs_fails (items : List Value) (record : Record) (index : Nat) :
    FailsOnlyWith (fun fault => fault.isDefinitionFault = false) (addPairs record index items) := by
  induction items generalizing record index with
  | nil => exact .of_ok record
  | cons item rest ih =>
      unfold addPairs
      split
      · exact .of_error rfl
      · rename_i key value _
        refine FailsOnlyWith.bind ?_ fun key => ih _ _
        unfold Value.asKey
        split
        · exact .of_error rfl
        · exact .of_ok _
      · exact .of_error rfl

/-- That a value is no record is never a fault about documents. -/
theorem ofValue_fails (value : Value) :
    FailsOnlyWith (fun fault => fault.isDefinitionFault = false) (ofValue value) := by
  unfold ofValue
  split
  · exact .of_ok _
  · split
    · exact addPairs_fails _ _ _
    · exact .of_error rfl

end Record

namespace Document

/-! ## Reading nodes -/

/-- A node describes its step itself, and its metadata is neither blank nor anything that can be
read as a record. -/
structure MetadataFails (data : Record) (fault : Fault) : Prop where
  isPlain : ∀ step, data.field "data" ≠ .record step
  given : (data.field "metadata").isTruthy = true
  unreadable : Record.ofValue (data.field "metadata") = .error fault

/-- Reading a node fails exactly where its metadata does. -/
theorem readNode_eq_error_iff {data : Record} {fault : Fault} :
    readNode data = .error fault ↔ MetadataFails data fault := by
  unfold readNode
  split
  · rename_i step there
    exact iff_of_false (fun failed => nomatch failed) fun fails => fails.isPlain step there
  · rename_i plain
    constructor
    · intro failed
      rcases bind_eq_error_iff.mp failed with unreadable | ⟨_, _, built⟩
      · obtain ⟨given, unreadable⟩ := Record.ofOptional_eq_error_iff.mp unreadable
        exact ⟨plain, given, unreadable⟩
      · cases built
    · intro fails
      exact bind_eq_error_iff.mpr
        (.inl (Record.ofOptional_eq_error_iff.mpr ⟨fails.given, fails.unreadable⟩))

/-- What a document lists as its nodes. -/
def nodeItems (document : Record) : List Value := listField (recordField document "steps") "nodes"

theorem readNodes_fails (document : Record) :
    FailsOnlyWith (fun fault => fault.isDefinitionFault = true ∨
      ∃ item ∈ nodeItems document, MetadataFails (asRecord item) fault) (readNodes document) := by
  unfold readNodes
  refine FailsOnlyWith.bind (.mapM fun item member fault failed => ?_) fun nodes => ?_
  · exact .inr ⟨item, member, readNode_eq_error_iff.mp failed⟩
  · dsimp only
    split
    · exact .of_ok _
    · exact .of_error (.inl rfl)

/-- The first node whose metadata fails breaks the reader. -/
theorem readNodes_of_metadataFails {document : Record} {item : Value}
    (member : item ∈ nodeItems document) {fault : Fault}
    (fails : MetadataFails (asRecord item) fault) :
    ∃ other ∈ nodeItems document, ∃ first, MetadataFails (asRecord other) first ∧
      readNodes document = .error first := by
  have unread : readNode (asRecord item) = .error fault := readNode_eq_error_iff.mpr fails
  obtain ⟨first, failed⟩ := @mapM_error_of_mem _ _ (fun item => readNode (asRecord item)) _ _
    member _ unread
  obtain ⟨other, inside, breaks⟩ := exists_of_mapM_error failed
  exact ⟨other, inside, first, readNode_eq_error_iff.mp breaks,
    bind_eq_error_iff.mpr (.inl failed)⟩

/-! ## Reading documents -/

/-- Finding the id that a document gives fails only where that id is too long. -/
theorem givenId?_fails (document : Record) :
    FailsOnlyWith (Value.record document).IsTooLong (givenId? document) := by
  unfold givenId?
  dsimp only
  split
  · rename_i given
    refine FailsOnlyWith.map fun fault failed => ?_
    have long := Value.text?_eq_error_iff.mp failed
    unfold Record.field at given long
    cases found : document.field? "id" with
    | none =>
        rw [found] at given
        cases given
    | some id =>
        rw [found] at long
        exact long.of_field found
  · exact .of_ok none

/-- The record inside a field `workflow` is no longer than the whole. -/
theorem isTooLong_of_unwrap {entries : Record} {fault : Fault}
    (long : (Value.record (unwrap entries)).IsTooLong fault) :
    (Value.record entries).IsTooLong fault := by
  unfold unwrap at long
  split at long
  · rename_i inner there
    unfold Record.field at there
    cases found : Record.field? entries "workflow" with
    | none =>
        rw [found] at there
        cases there
    | some field =>
        rw [found, Option.getD_some] at there
        subst there
        exact long.of_field found
  · exact long

/-- A value describes a document that the schema accepts, with a node whose metadata fails. -/
inductive NodeFails : Value → Fault → Prop where
  | intro {entries : Record} {item : Value} {fault : Fault}
      (accepted : problems (.record (unwrap entries)) = .ok [])
      (member : item ∈ nodeItems (unwrap entries))
      (fails : MetadataFails (asRecord item) fault) : NodeFails (.record entries) fault

theorem NodeFails.isDefinitionFault {value : Value} {fault : Fault} (fails : NodeFails value fault) :
    fault.isDefinitionFault = false := by
  cases fails with
  | intro _ _ fails => exact Record.ofValue_fails _ fault fails.unreadable

theorem readChecked_fails (supply : IdSupply) (document : Record) :
    FailsOnlyWith (fun fault => fault.isDefinitionFault = true ∨
        (Value.record document).IsTooLong fault ∨
        ∃ item ∈ nodeItems document, MetadataFails (asRecord item) fault)
      (readChecked supply document) := by
  unfold readChecked
  refine ((readNodes_fails document).mono ?_).bind fun nodes =>
    ((givenId?_fails document).mono ?_).bind fun given => ?_
  · rintro fault (own | fails)
    · exact .inl own
    · exact .inr (.inr fails)
  · exact fun fault long => .inr (.inl long)
  · cases given with
    | none => exact .of_ok _
    | some id => exact .of_ok _

theorem definition_fails (supply : IdSupply) (value : Value) :
    FailsOnlyWith (fun fault => fault.isDefinitionFault = true ∨ value.IsTooLong fault ∨
      NodeFails value fault) (definition supply value) := by
  unfold definition
  split
  · rename_i entries
    have checked : FailsOnlyWith (Value.record entries).IsTooLong
        (problems (.record (unwrap entries))) :=
      (FailsOnlyWith.map (Schema.issues_fails [] _ _)).mono fun _ => isTooLong_of_unwrap
    intro fault failed
    rcases bind_eq_error_iff.mp failed with failed | ⟨found, looked, failed⟩
    · exact .inr (.inl (checked fault failed))
    · split at failed
      · rename_i nothing
        rw [List.isEmpty_iff.mp nothing] at looked
        rcases readChecked_fails supply _ fault failed with own | long | ⟨item, member, fails⟩
        · exact .inl own
        · exact .inr (.inl (isTooLong_of_unwrap long))
        · exact .inr (.inr (.intro looked member fails))
      · cases failed
        exact .inl rfl
  · exact .of_error (.inl rfl)

end Document

/-- **Reading a value fails as it says, with two exceptions**: an integer in the value is too long
to be written, or a node of a document that the schema accepts has metadata that cannot be read as
a record.  Where there is such a node, reading fails over one, and not as it says. -/
theorem documents_fail_over_metadata (supply : IdSupply) (value : Value) :
    FailsOnlyWith (fun fault => fault.isDefinitionFault = true ∨ value.IsTooLong fault ∨
        Document.NodeFails value fault) (Document.definition supply value) ∧
      ∀ fault, Document.NodeFails value fault →
        ∃ first, Document.definition supply value = .error first ∧
          Document.NodeFails value first ∧ first.isDefinitionFault = false := by
  refine ⟨Document.definition_fails supply value, ?_⟩
  rintro fault ⟨accepted, member, fails⟩
  obtain ⟨other, inside, first, breaks, failed⟩ := Document.readNodes_of_metadataFails member fails
  have fails := Document.NodeFails.intro accepted inside breaks
  refine ⟨first, ?_, fails, fails.isDefinitionFault⟩
  refine bind_eq_error_iff.mpr (.inr ⟨[], accepted, ?_⟩)
  exact bind_eq_error_iff.mpr (.inl failed)

namespace Booth

/-- A workflow of one step, with a number where the metadata of the step should be. -/
def numbered : Value :=
  .record (Record.ofFields [("id", .text "booth"), ("name", .text "Photo booth"),
    ("steps", .record (Record.ofFields [("nodes", .list [
      .record (Record.ofFields [("id", .text "touch"), ("type", .text Kind.touchToStart),
        ("metadata", .int 5)])])]))])

/-- The schema has nothing against the number, but reading fails, and not because the value were no
workflow document. -/
theorem numbered_metadata_fails :
    Document.problems numbered = .ok [] ∧
      Document.definition ⟨0⟩ numbered = .error (.notIterable "int") ∧
      (Fault.notIterable "int").isDefinitionFault = false := by
  decide +kernel

end Booth

end GuestFlow
