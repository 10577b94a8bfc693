import GuestFlow.Proofs.Document.Failure

/-!
# The grammar of documents

What a workflow document looks like can be said without a schema: a record whose steps are a
record that lists nodes, each of them a record with a name, and so on down to texts, truth
values and whole numbers (`Grammar.IsDocument`).  A field that the grammar does not speak of is
free, and so is everything inside configurations and metadata.

`documents_follow_a_grammar` says that the check finds nothing wrong with a value exactly if the
value follows the grammar.  With any other value something is found: the problems stand in the
order of their places, and every place is one in the value (`Value.HasPart`).  Only where a
problem would have to show an integer that is too long is there no list at all.
-/

set_option autoImplicit false

namespace GuestFlow

/-! ## Fields -/

namespace Record

/-- What the record holds under a name, if it holds anything there, is as wanted. -/
def Allows (entries : Record) (name : String) (Fits : Value → Prop) : Prop :=
  ∀ held, entries.field? name = some held → Fits held

/-- The record holds something under a name, and that is as wanted. -/
def Demands (entries : Record) (name : String) (Fits : Value → Prop) : Prop :=
  ∃ held, entries.field? name = some held ∧ Fits held

theorem hasField_iff {entries : Record} {name : String} :
    entries.hasField name = true ↔ ∃ held, entries.field? name = some held :=
  Option.isSome_iff_exists

/-- A field that is demanded is there and allowed. -/
theorem demands_iff {entries : Record} {name : String} {Fits : Value → Prop} :
    entries.Demands name Fits ↔ entries.hasField name = true ∧ entries.Allows name Fits := by
  unfold Demands Allows hasField
  cases entries.field? name <;> simp

end Record

/-! ## The grammar -/

namespace Grammar

def IsName (value : Value) : Prop := ∃ characters, value = .text characters ∧ characters ≠ ""

def IsOptionalText (value : Value) : Prop := value = .null ∨ ∃ characters, value = .text characters

def IsOptionalRecord (value : Value) : Prop := value = .null ∨ ∃ entries, value = .record entries

def IsFlag (value : Value) : Prop := ∃ flag, value = .bool flag

/-- A text or a whole number.  A number with a fraction of zero is whole; a truth value is not. -/
inductive IsId : Value → Prop where
  | text (characters : String) : IsId (.text characters)
  | int (number : Int) : IsId (.int number)
  | float {negative : Bool} {significand : Nat} {exponent number : Int}
      (whole : Binary64.scaled negative significand exponent = number * Binary64.scale) :
      IsId (.float (.finite negative significand exponent))

def IsRecordOf (Fits : Record → Prop) (value : Value) : Prop :=
  ∃ entries, value = .record entries ∧ Fits entries

def IsListOf (Fits : Value → Prop) (value : Value) : Prop :=
  ∃ items, value = .list items ∧ ∀ item ∈ items, Fits item

/-- An exit of a node; it may say in three ways where it leads. -/
@[mk_iff]
structure IsOutput (entries : Record) : Prop where
  id : entries.Demands "id" IsName
  label : entries.Allows "label" IsOptionalText
  kind : entries.Allows "type" IsOptionalText
  target : entries.Allows "target" IsOptionalText
  next : entries.Allows "next" IsOptionalText
  goesTo : entries.Allows "to" IsOptionalText

/-- The fields that a step has wherever it stands: in a node of its own, or inside one of the
canvas. -/
@[mk_iff]
structure IsStep (entries : Record) : Prop where
  kind : entries.Allows "type" IsName
  label : entries.Allows "label" IsOptionalText
  config : entries.Allows "config" IsOptionalRecord
  outputs : entries.Allows "outputs" (IsListOf (IsRecordOf IsOutput))
  isEntry : entries.Allows "isEntry" IsFlag

/-- A step inside a node of the canvas has to say its kind. -/
@[mk_iff]
structure IsCanvasStep (entries : Record) : Prop extends IsStep entries where
  hasKind : entries.hasField "type" = true

/-- A node has a name, and it says its kind itself or holds a step that does. -/
@[mk_iff]
structure IsNode (entries : Record) : Prop extends IsStep entries where
  id : entries.Demands "id" IsName
  isEntryToo : entries.Allows "is_entry" IsFlag
  step : entries.Allows "data" (IsRecordOf IsCanvasStep)
  hasKindOrStep : entries.hasField "type" = true ∨ entries.hasField "data" = true

@[mk_iff]
structure IsEdge (entries : Record) : Prop where
  source : entries.Demands "source" IsName
  target : entries.Demands "target" IsName
  handle : entries.Allows "sourceHandle" IsOptionalText

@[mk_iff]
structure IsPlan (entries : Record) : Prop where
  nodes : entries.Demands "nodes" (IsListOf (IsRecordOf IsNode))
  edges : entries.Allows "edges" (IsListOf (IsRecordOf IsEdge))

@[mk_iff]
structure IsWorkflow (entries : Record) : Prop where
  id : entries.Allows "id" IsId
  name : entries.Allows "name" IsOptionalText
  description : entries.Allows "description" IsOptionalText
  version : entries.Allows "version" IsOptionalText
  flowType : entries.Allows "flowType" IsOptionalText
  metadata : entries.Allows "metadata" IsOptionalRecord
  steps : entries.Demands "steps" (IsRecordOf IsPlan)

/-- The value is a workflow document. -/
def IsDocument (value : Value) : Prop := IsRecordOf IsWorkflow value

end Grammar

/-! ## The schema and the grammar -/

namespace Schema

open Grammar

/-! ### Single values -/

theorem name_iff_isName (value : Value) : Obeys value name ↔ IsName value := name_iff

theorem optionalText_iff (value : Value) : Obeys value optionalText ↔ IsOptionalText value := by
  rw [optionalText, anyOf_iff]
  cases value <;> simp [Shape.fits, IsOptionalText]

theorem optionalObject_iff (value : Value) :
    Obeys value optionalObject ↔ IsOptionalRecord value := by
  rw [optionalObject, anyOf_iff]
  cases value <;> simp [Shape.fits, IsOptionalRecord]

theorem boolean_iff (value : Value) : Obeys value (anyOf [.boolean]) ↔ IsFlag value := by
  rw [anyOf_iff]
  cases value <;> simp [Shape.fits, IsFlag]

theorem toInt?_isSome_iff (number : Binary64) :
    number.toInt?.isSome = true ↔ IsId (.float number) := by
  rw [Option.isSome_iff_exists]
  constructor
  · rintro ⟨whole, found⟩
    cases number with
    | finite negative significand exponent =>
        exact .float (Binary64.toInt?_finite_iff.mp found)
    | infinite | nan => cases found
  · rintro (_ | _ | whole)
    exact ⟨_, Binary64.toInt?_finite_iff.mpr whole⟩

theorem id_iff (value : Value) : Obeys value (anyOf [.string, .integer]) ↔ IsId value := by
  rw [anyOf_iff]
  constructor
  · intro fits
    cases value with
    | text characters => exact .text characters
    | int number => exact .int number
    | float number => exact (toInt?_isSome_iff number).mp (by simpa [Shape.fits] using fits)
    | _ => simp [Shape.fits] at fits
  · rintro (characters | number | whole)
    · simp [Shape.fits]
    · simp [Shape.fits]
    · simpa [Shape.fits] using (toInt?_isSome_iff _).mpr (.float whole)

theorem listOf_iff_isListOf {schema : Schema} {Fits : Value → Prop}
    (each : ∀ item, Obeys item schema ↔ Fits item) (value : Value) :
    Obeys value (listOf schema) ↔ IsListOf Fits value := by
  simp only [listOf_iff, IsListOf, each]

/-! ### Records -/

theorem object_iff_isRecordOf {required : List String} {properties : List (String × Schema)}
    {Fits : Record → Prop}
    (same : ∀ entries, DescribedBy entries required properties ↔ Fits entries) (value : Value) :
    Obeys value (object required properties) ↔ IsRecordOf Fits value := by
  simp only [object_iff, IsRecordOf, same]

/-- Everything that is required is there, and every field is as described. -/
theorem describedBy_iff {entries : Record} {required : List String}
    {properties : List (String × Schema)} :
    DescribedBy entries required properties ↔
      (∀ name ∈ required, entries.hasField name = true) ∧
        ∀ property ∈ properties, entries.Allows property.1 (Obeys · property.2) := by
  simp only [Record.hasField_iff]
  exact ⟨fun described => ⟨described.has, described.obeys⟩, fun ⟨has, obeys⟩ => ⟨has, obeys⟩⟩

theorem alternatives_iff {entries : Record} {first second : String} :
    ([[first], [second]] = [] ∨ ∃ required ∈ [[first], [second]],
        missing required (.record entries) = []) ↔
      entries.hasField first = true ∨ entries.hasField second = true := by
  simp [missing]

section Records

variable (value : Value)

theorem output_iff : Obeys value output ↔ IsRecordOf IsOutput value := by
  refine object_iff_isRecordOf (fun entries => ?_) value
  rw [describedBy_iff, isOutput_iff]
  simp only [List.forall_mem_cons, List.not_mem_nil, false_implies, implies_true, and_true,
    name_iff_isName, optionalText_iff, Record.demands_iff, and_assoc]

theorem outputs_iff : Obeys value (listOf output) ↔ IsListOf (IsRecordOf IsOutput) value :=
  listOf_iff_isListOf output_iff value

theorem step_iff : Obeys value step ↔ IsRecordOf IsCanvasStep value := by
  refine object_iff_isRecordOf (fun entries => ?_) value
  rw [describedBy_iff, isCanvasStep_iff, isStep_iff]
  simp only [List.forall_mem_cons, List.not_mem_nil, false_implies, implies_true, and_true,
    name_iff_isName, optionalText_iff, optionalObject_iff, outputs_iff, boolean_iff]
  exact and_comm

theorem node_iff : Obeys value node ↔ IsRecordOf IsNode value := by
  rw [node, record_iff]
  refine exists_congr fun entries => and_congr_right fun same => ?_
  rw [describedBy_iff, isNode_iff, isStep_iff, same]
  simp only [List.forall_mem_cons, List.not_mem_nil, false_implies, implies_true, and_true,
    name_iff_isName, optionalText_iff, optionalObject_iff, outputs_iff, boolean_iff, step_iff,
    Record.demands_iff, alternatives_iff]
  tauto

theorem edge_iff : Obeys value edge ↔ IsRecordOf IsEdge value := by
  refine object_iff_isRecordOf (fun entries => ?_) value
  rw [describedBy_iff, isEdge_iff]
  simp only [List.forall_mem_cons, List.not_mem_nil, false_implies, implies_true, and_true,
    name_iff_isName, optionalText_iff, Record.demands_iff, and_assoc]
  tauto

/-- **The schema of workflow documents is the grammar.** -/
theorem workflow_iff : Obeys value workflow ↔ IsDocument value := by
  have plan (value : Value) : Obeys value (object ["nodes"] [("nodes", listOf node),
      ("edges", listOf edge)]) ↔ IsRecordOf IsPlan value := by
    refine object_iff_isRecordOf (fun entries => ?_) value
    rw [describedBy_iff, isPlan_iff]
    simp only [List.forall_mem_cons, List.not_mem_nil, false_implies, implies_true, and_true,
      listOf_iff_isListOf node_iff, listOf_iff_isListOf edge_iff, Record.demands_iff, and_assoc]
  refine object_iff_isRecordOf (fun entries => ?_) value
  rw [describedBy_iff, isWorkflow_iff]
  simp only [List.forall_mem_cons, List.not_mem_nil, false_implies, implies_true, and_true,
    id_iff, optionalText_iff, optionalObject_iff, plan, Record.demands_iff]
  tauto

end Records

end Schema

/-! ## Places -/

/-- A path leads from a value to one of its parts. -/
inductive Value.HasPart : Value → List String → Value → Prop where
  | whole (value : Value) : HasPart value [] value
  | item {items : List Value} {index : Nat} {item part : Value} {path : List String}
      (stands : items[index]? = some item) (within : HasPart item path part) :
      HasPart (.list items) (toString index :: path) part
  | field {entries : Record} {name : String} {held part : Value} {path : List String}
      (holds : entries.field? name = some held) (within : HasPart held path part) :
      HasPart (.record entries) (name :: path) part

namespace Schema

/-- The issues are about parts of a value to which a path has led. -/
def StandIn (path : List String) (value : Value) (issues : List Issue) : Prop :=
  ∀ issue ∈ issues, ∃ further part, issue.path = path ++ further ∧ value.HasPart further part

section Parts

variable {path : List String} {value : Value} {found : List Issue}

/-- An issue about the value itself. -/
theorem standIn_of_path_eq (here : ∀ issue ∈ found, issue.path = path) :
    StandIn path value found :=
  fun issue member => ⟨[], value, by rw [here issue member, List.append_nil], .whole value⟩

theorem standIn_nil : StandIn path value [] := fun _ member => nomatch member

theorem StandIn.append {others : List Issue} (first : StandIn path value found)
    (second : StandIn path value others) : StandIn path value (found ++ others) :=
  List.forall_mem_append.mpr ⟨first, second⟩

/-- Issues inside an item or a field are issues inside the whole. -/
theorem StandIn.within {name : String} {inner : Value}
    (leads : ∀ further part, inner.HasPart further part → value.HasPart (name :: further) part)
    (inside : StandIn (path ++ [name]) inner found) : StandIn path value found := by
  intro issue member
  obtain ⟨further, part, place, reaches⟩ := inside issue member
  exact ⟨name :: further, part, by rw [place, List.append_assoc]; rfl, leads further part reaches⟩

theorem issueAbout_standIn {complaint : String}
    (listed : issueAbout path value complaint = .ok found) : StandIn path value found := by
  obtain ⟨shown, _, built⟩ := bind_eq_ok_iff.mp listed
  cases built
  exact standIn_of_path_eq (by simp)

theorem shapeIssues_standIn {shapes : List Shape}
    (listed : shapeIssues path value shapes = .ok found) : StandIn path value found := by
  unfold shapeIssues at listed
  split at listed
  · cases listed
    exact standIn_nil
  · exact issueAbout_standIn listed

theorem lengthIssues_standIn {nonEmpty : Bool}
    (listed : lengthIssues path value nonEmpty = .ok found) : StandIn path value found := by
  unfold lengthIssues at listed
  split at listed
  · exact issueAbout_standIn listed
  · cases listed
    exact standIn_nil

theorem alternativeIssues_standIn {alternatives : List (List String)}
    (listed : alternativeIssues path value alternatives = .ok found) :
    StandIn path value found := by
  unfold alternativeIssues at listed
  split at listed
  · cases listed
    exact standIn_nil
  · exact issueAbout_standIn listed

theorem requiredIssues_standIn (required : List String) :
    StandIn path value (requiredIssues path value required) := by
  refine standIn_of_path_eq fun issue member => ?_
  obtain ⟨name, _, rfl⟩ := List.mem_map.mp member
  rfl

end Parts

/-- An item stands at its number. -/
theorem hasPart_of_numbered {value item : Value} {index : Nat}
    (numbered : (index, item) ∈ numberedItems value) (further : List String) (part : Value)
    (within : item.HasPart further part) : value.HasPart (toString index :: further) part := by
  cases value with
  | list items =>
      obtain ⟨place, small, there⟩ := List.mem_iff_getElem.mp numbered
      simp only [numberedItems, List.getElem_zip, List.getElem_range, Prod.mk.injEq] at there
      obtain ⟨rfl, rfl⟩ := there
      exact .item (List.getElem?_eq_getElem _) within
  | _ => cases numbered

theorem hasPart_of_field {value held : Value} {name : String}
    (holds : fieldOf? name value = some held) (further : List String) (part : Value)
    (within : held.HasPart further part) : value.HasPart (name :: further) part := by
  cases value with
  | record entries => exact .field holds within
  | _ => cases holds

mutual

/-- **Every issue is about a part of the value**, and its path leads there. -/
theorem issues_standIn (path : List String) (value : Value) : (schema : Schema) →
    {found : List Issue} → issues path value schema = .ok found → StandIn path value found
  | .rules shapes nonEmpty items required properties alternatives, _, listed => by
    simp only [issues, bind_eq_ok_iff, Except.ok.injEq] at listed
    obtain ⟨_, ofShape, _, ofLength, _, ofItems, _, ofFields, _, ofAlternatives, rfl⟩ := listed
    exact (((((shapeIssues_standIn ofShape).append (lengthIssues_standIn ofLength)).append
      (itemIssues_standIn path value items ofItems)).append
      (requiredIssues_standIn required)).append (propertyIssues_standIn path value properties ofFields)).append
      (alternativeIssues_standIn ofAlternatives)

theorem itemIssues_standIn (path : List String) (value : Value) : (items : Option Schema) →
    {found : List Issue} → itemIssues path value items = .ok found → StandIn path value found
  | none, _, listed => by
    cases listed
    exact standIn_nil
  | some schema, _, listed => by
    obtain ⟨lists, computed, built⟩ := bind_eq_ok_iff.mp listed
    cases built
    intro issue member
    obtain ⟨inside, inList, inInside⟩ := List.mem_flatten.mp member
    obtain ⟨⟨index, item⟩, numbered, listedThere⟩ := exists_of_mem_mapM computed inList
    exact (issues_standIn _ item schema listedThere).within (hasPart_of_numbered numbered) issue
      inInside

theorem propertyIssues_standIn (path : List String) (value : Value) :
    (properties : List (String × Schema)) → {found : List Issue} →
      propertyIssues path value properties = .ok found → StandIn path value found
  | [], _, listed => by
    cases listed
    exact standIn_nil
  | (name, schema) :: rest, _, listed => by
    unfold propertyIssues at listed
    cases holds : fieldOf? name value with
    | none =>
        rw [holds] at listed
        obtain ⟨_, ofNothing, later⟩ := bind_eq_ok_iff.mp listed
        cases ofNothing
        obtain ⟨others, ofRest, built⟩ := bind_eq_ok_iff.mp later
        cases built
        exact propertyIssues_standIn path value rest ofRest
    | some held =>
        rw [holds] at listed
        obtain ⟨here, ofField, later⟩ := bind_eq_ok_iff.mp listed
        obtain ⟨others, ofRest, built⟩ := bind_eq_ok_iff.mp later
        cases built
        exact ((issues_standIn _ held schema ofField).within (hasPart_of_field holds)).append
          (propertyIssues_standIn path value rest ofRest)

end

end Schema

namespace Document

theorem sortIssues_perm (issues : List Issue) : (sortIssues issues).Perm issues :=
  List.mergeSort_perm _ _

/-- No issue comes after one whose place is behind its own. -/
theorem pairwise_sortIssues (issues : List Issue) :
    (sortIssues issues).Pairwise fun earlier later => ¬ later.path < earlier.path := by
  have order {left right : Issue} :
      (!decide (right.path < left.path)) = true ↔ ¬ right.path < left.path := by
    rw [Bool.not_eq_true', decide_eq_false_iff_not]
  refine (List.pairwise_mergeSort ?_ ?_ issues).imp order.mp
  · intro first second third early late
    rw [order] at early late ⊢
    exact List.not_lt.mpr (List.le_trans (List.not_lt.mp early) (List.not_lt.mp late))
  · intro first second
    rw [Bool.or_eq_true, order, order, ← not_and_or]
    exact fun ⟨less, more⟩ => List.lt_asymm less more

end Document

/-- **The check finds nothing wrong with exactly the values that follow the grammar.**  With any
other value it finds problems, in the order of their places in the value, unless an integer that
is too long keeps it from telling them. -/
theorem documents_follow_a_grammar (document : Value) :
    (Document.problems document = .ok [] ↔ Grammar.IsDocument document) ∧
      (Grammar.IsDocument document ∨
        (∃ issues : List Issue, issues ≠ [] ∧
          Document.problems document = .ok (issues.map Document.issueLine) ∧
          issues.Pairwise (fun earlier later => ¬ later.path < earlier.path) ∧
          ∀ issue ∈ issues, ∃ part, document.HasPart issue.path part) ∨
        ∃ fault, Document.problems document = .error fault ∧ document.IsTooLong fault) := by
  have accepted : Document.problems document = .ok [] ↔ Grammar.IsDocument document :=
    Document.problems_eq_nil_iff.trans (Schema.workflow_iff document)
  refine ⟨accepted, ?_⟩
  by_cases follows : Grammar.IsDocument document
  · exact .inl follows
  · right
    cases checked : Schema.issues [] document Schema.workflow with
    | error fault =>
        exact .inr ⟨fault, by rw [Document.problems, checked]; rfl,
          Schema.issues_fails [] document Schema.workflow fault checked⟩
    | ok found =>
        have listed : Document.problems document =
            .ok ((Document.sortIssues found).map Document.issueLine) := by
          rw [Document.problems, checked]
          rfl
        refine .inl ⟨Document.sortIssues found, ?_, listed, Document.pairwise_sortIssues found, ?_⟩
        · intro nothing
          rw [nothing] at listed
          exact follows (accepted.mp listed)
        · intro issue member
          obtain ⟨further, part, place, reaches⟩ := Schema.issues_standIn [] document _ checked
            issue ((Document.sortIssues_perm found).mem_iff.mp member)
          exact ⟨part, by rwa [place]⟩

end GuestFlow
