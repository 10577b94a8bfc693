import GuestFlow.Document.Schema
import GuestFlow.Proofs.Fallible

/-!
# What a schema accepts

`Schema.Obeys` says directly, along the schema, what a value has to look like: its shape,
its items, its fields and the fields it must have.  Checking a value lists no issue
exactly when the value obeys (`Schema.issues_eq_nil_iff`), so a document has no problem
exactly when it obeys the schema of workflow documents (`Document.problems_eq_nil_iff`).

The texts of issues play no part: an issue whose text cannot be written is a fault, and
then the value does not obey either.

For the schemas that documents are made of, the condition is then said in words of values
(`Schema.object_iff`, `Schema.name_iff`, `Schema.anyOf_iff`, `Schema.listOf_iff`).
-/

set_option autoImplicit false

namespace GuestFlow

namespace Schema

/-! ## Obeying -/

/-- The items of a list; other values have none. -/
def itemsOf : Value → List Value
  | .list items => items
  | _ => []

mutual

/-- The value is as the schema wants it. -/
def Obeys (value : Value) : Schema → Prop
  | .rules shapes nonEmpty items required properties alternatives =>
    (shapes = [] ∨ ∃ shape ∈ shapes, shape.fits value = true) ∧
      (nonEmpty = true → value ≠ .text "") ∧
      ItemsObey value items ∧
      missing required value = [] ∧
      FieldsObey value properties ∧
      (alternatives = [] ∨ ∃ required ∈ alternatives, missing required value = [])

/-- Every item of the value is as the schema wants it. -/
def ItemsObey (value : Value) : Option Schema → Prop
  | none => True
  | some schema => ∀ item ∈ itemsOf value, Obeys item schema

/-- Every field that is named and there is as its schema wants it. -/
def FieldsObey (value : Value) : List (String × Schema) → Prop
  | [] => True
  | (name, schema) :: rest =>
    (∀ field, fieldOf? name value = some field → Obeys field schema) ∧ FieldsObey value rest

end

/-! ## Parts of a check -/

/-- An issue is never no issue. -/
theorem issueAbout_ne_nil (path : List String) (value : Value) (complaint : String) :
    issueAbout path value complaint ≠ .ok [] := by
  unfold issueAbout
  cases value.literal? with
  | error fault => simp [bind, Except.bind]
  | ok shown => simp [bind, Except.bind]

theorem shapeIssues_eq_nil_iff {path : List String} {value : Value} {shapes : List Shape} :
    shapeIssues path value shapes = .ok [] ↔
      shapes = [] ∨ ∃ shape ∈ shapes, shape.fits value = true := by
  unfold shapeIssues
  split
  · rename_i fits
    simpa using fits
  · rename_i misfits
    simp only [Bool.or_eq_true, List.isEmpty_iff, List.any_eq_true] at misfits
    exact iff_of_false (issueAbout_ne_nil _ _ _) misfits

theorem lengthIssues_eq_nil_iff {path : List String} {value : Value} {nonEmpty : Bool} :
    lengthIssues path value nonEmpty = .ok [] ↔ (nonEmpty = true → value ≠ .text "") := by
  unfold lengthIssues
  split
  · rename_i short
    simp only [Bool.and_eq_true, beq_iff_eq] at short
    exact iff_of_false (issueAbout_ne_nil _ _ _) fun long => long short.1 short.2
  · rename_i long
    simpa using long

theorem alternativeIssues_eq_nil_iff {path : List String} {value : Value}
    {alternatives : List (List String)} :
    alternativeIssues path value alternatives = .ok [] ↔
      alternatives = [] ∨ ∃ required ∈ alternatives, missing required value = [] := by
  unfold alternativeIssues
  split
  · rename_i met
    simpa using met
  · rename_i unmet
    simp only [Bool.or_eq_true, List.isEmpty_iff, List.any_eq_true] at unmet
    exact iff_of_false (issueAbout_ne_nil _ _ _) unmet

theorem requiredIssues_eq_nil_iff {path : List String} {value : Value} {required : List String} :
    requiredIssues path value required = [] ↔ missing required value = [] := List.map_eq_nil_iff

/-- A check item by item finds nothing exactly when it finds nothing at any item, whatever its
number. -/
theorem mapM_numberedItems_iff {value : Value} {check : Nat × Value → Except Fault (List Issue)}
    {Fine : Value → Prop} (checked : ∀ index item, check (index, item) = .ok [] ↔ Fine item) :
    (∃ found, (numberedItems value).mapM check = .ok found ∧ found.flatten = []) ↔
      ∀ item ∈ itemsOf value, Fine item := by
  constructor
  · rintro ⟨found, computed, nothing⟩ item member
    cases value with
    | list items =>
        obtain ⟨index, small, there⟩ := List.mem_iff_getElem.mp member
        have numbered : (index, item) ∈ numberedItems (.list items) := by
          refine List.mem_iff_getElem.mpr ⟨index, ?_, ?_⟩
          · simpa [numberedItems, itemsOf] using small
          · simpa [numberedItems, itemsOf] using there
        exact (checked index item).mp (eq_nil_of_mapM_flatten computed nothing numbered)
    | _ => cases member
  · intro fine
    have quiet : ∀ numbered ∈ numberedItems value, check numbered = .ok [] := by
      intro numbered member
      cases value with
      | list items => exact (checked _ _).mpr (fine _ (List.of_mem_zip member).2)
      | _ => cases member
    refine ⟨(numberedItems value).map fun _ => [], mapM_eq_ok_iff.mpr ?_, by simp⟩
    rw [List.forall₂_map_right_iff, List.forall₂_same]
    exact quiet

/-! ## The check and the condition -/

mutual

/-- **A schema has nothing to object to exactly when the value obeys it.** -/
theorem issues_eq_nil_iff (path : List String) (value : Value) :
    (schema : Schema) → (issues path value schema = .ok [] ↔ Obeys value schema)
  | .rules shapes nonEmpty items required properties alternatives => by
    have ofItems := itemIssues_eq_nil_iff path value items
    have ofFields := propertyIssues_eq_nil_iff path value properties
    simp only [issues, Obeys, bind_eq_ok_iff, Except.ok.injEq, List.append_eq_nil_iff,
      requiredIssues_eq_nil_iff]
    constructor
    · rintro ⟨_, shape, _, length, _, item, _, field, _, alternative, ⟨⟨⟨⟨rfl, rfl⟩, rfl⟩, there⟩,
        rfl⟩, rfl⟩
      exact ⟨shapeIssues_eq_nil_iff.mp shape, lengthIssues_eq_nil_iff.mp length, ofItems.mp item,
        there, ofFields.mp field, alternativeIssues_eq_nil_iff.mp alternative⟩
    · rintro ⟨shape, length, item, there, field, alternative⟩
      exact ⟨[], shapeIssues_eq_nil_iff.mpr shape, [], lengthIssues_eq_nil_iff.mpr length, [],
        ofItems.mpr item, [], ofFields.mpr field, [], alternativeIssues_eq_nil_iff.mpr alternative,
        ⟨⟨⟨⟨rfl, rfl⟩, rfl⟩, there⟩, rfl⟩, rfl⟩

theorem itemIssues_eq_nil_iff (path : List String) (value : Value) :
    (items : Option Schema) → (itemIssues path value items = .ok [] ↔ ItemsObey value items)
  | none => by simp [itemIssues, ItemsObey]
  | some schema => by
    simp only [itemIssues, ItemsObey, bind_eq_ok_iff, Except.ok.injEq]
    exact mapM_numberedItems_iff fun index item =>
      issues_eq_nil_iff (path ++ [toString index]) item schema

theorem propertyIssues_eq_nil_iff (path : List String) (value : Value) :
    (properties : List (String × Schema)) →
      (propertyIssues path value properties = .ok [] ↔ FieldsObey value properties)
  | [] => by simp [propertyIssues, FieldsObey]
  | (name, schema) :: rest => by
    have ofRest := propertyIssues_eq_nil_iff path value rest
    simp only [propertyIssues, FieldsObey, ← ofRest]
    cases fieldOf? name value with
    | none => simp [bind_eq_ok_iff]
    | some field =>
      have ofField := issues_eq_nil_iff (path ++ [name]) field schema
      simp [bind_eq_ok_iff, ← ofField]

end

/-! ## Single schemas as statements -/

/-- A field that a schema describes is as described. -/
theorem fieldsObey_iff {value : Value} {properties : List (String × Schema)} :
    FieldsObey value properties ↔
      ∀ property ∈ properties, ∀ field, fieldOf? property.1 value = some field →
        Obeys field property.2 := by
  induction properties with
  | nil => simp [FieldsObey]
  | cons property rest ih =>
      obtain ⟨name, schema⟩ := property
      simp [FieldsObey, ih]

/-- A record that has the fields it must have, with every field as described. -/
structure DescribedBy (entries : Record) (required : List String)
    (properties : List (String × Schema)) : Prop where
  has : ∀ name ∈ required, ∃ field, entries.field? name = some field
  obeys : ∀ property ∈ properties, ∀ field, entries.field? property.1 = some field →
    Obeys field property.2

theorem missing_record_iff {entries : Record} {required : List String} :
    missing required (.record entries) = [] ↔
      ∀ name ∈ required, ∃ field, entries.field? name = some field := by
  simp [missing, Record.hasField, Option.ne_none_iff_exists']

/-- The value is a record and met by a description. -/
theorem record_iff {value : Value} {required : List String} {properties : List (String × Schema)}
    {alternatives : List (List String)} :
    Obeys value (.rules [.object] false none required properties alternatives) ↔
      ∃ entries, value = .record entries ∧ DescribedBy entries required properties ∧
        (alternatives = [] ∨ ∃ required ∈ alternatives, missing required value = []) := by
  constructor
  · rintro ⟨shape, _, _, there, fields, alternative⟩
    cases value with
    | record entries =>
        exact ⟨entries, rfl, ⟨missing_record_iff.mp there, fieldsObey_iff.mp fields⟩, alternative⟩
    | _ => simp [Shape.fits] at shape
  · rintro ⟨entries, rfl, described, alternative⟩
    exact ⟨.inr ⟨.object, by simp, rfl⟩, by simp, trivial, missing_record_iff.mpr described.has,
      fieldsObey_iff.mpr described.obeys, alternative⟩

theorem object_iff {value : Value} {required : List String} {properties : List (String × Schema)} :
    Obeys value (object required properties) ↔
      ∃ entries, value = .record entries ∧ DescribedBy entries required properties := by
  rw [object, record_iff]
  simp

theorem name_iff {value : Value} :
    Obeys value name ↔ ∃ characters, value = .text characters ∧ characters ≠ "" := by
  constructor
  · rintro ⟨shape, long, _⟩
    cases value with
    | text characters => exact ⟨characters, rfl, by simpa using long⟩
    | _ => simp [Shape.fits] at shape
  · rintro ⟨characters, rfl, long⟩
    exact ⟨.inr ⟨.string, by simp, rfl⟩, by simpa using long, trivial, rfl, trivial, .inl rfl⟩

/-- A schema of shapes alone. -/
theorem anyOf_iff {value : Value} {shapes : List Shape} :
    Obeys value (anyOf shapes) ↔ shapes = [] ∨ ∃ shape ∈ shapes, shape.fits value = true := by
  have nothing : missing [] value = [] := by cases value <;> rfl
  simp [anyOf, Obeys, ItemsObey, FieldsObey, nothing]

theorem listOf_iff {value : Value} {schema : Schema} :
    Obeys value (listOf schema) ↔
      ∃ items, value = .list items ∧ ∀ item ∈ items, Obeys item schema := by
  constructor
  · rintro ⟨shape, _, each, _⟩
    cases value with
    | list items => exact ⟨items, rfl, each⟩
    | _ => simp [Shape.fits] at shape
  · rintro ⟨items, rfl, each⟩
    exact ⟨.inr ⟨.array, by simp, rfl⟩, by simp, each, rfl, trivial, .inl rfl⟩

namespace DescribedBy

variable {entries : Record} {required : List String} {properties : List (String × Schema)}

/-- A name that is required is there and not empty. -/
theorem name_of_required (described : DescribedBy entries required properties) {field : String}
    (member : field ∈ required) (property : (field, name) ∈ properties) :
    ∃ characters, entries.field? field = some (.text characters) ∧ characters ≠ "" := by
  obtain ⟨value, found⟩ := described.has field member
  obtain ⟨characters, rfl, long⟩ := name_iff.mp (described.obeys _ property value found)
  exact ⟨characters, found, long⟩

end DescribedBy

end Schema

/-- A value is a workflow document exactly when it obeys the schema of such documents. -/
theorem Document.problems_eq_nil_iff {document : Value} :
    problems document = .ok [] ↔ Schema.Obeys document Schema.workflow := by
  rw [← Schema.issues_eq_nil_iff []]
  unfold problems
  cases Schema.issues [] document Schema.workflow with
  | error fault => simp [Except.map]
  | ok issues =>
      have same : sortIssues issues = [] ↔ issues = [] := by
        rw [← List.length_eq_zero_iff, ← List.length_eq_zero_iff]
        simp [sortIssues]
      simp [Except.map, same]

end GuestFlow
