import GuestFlow.Proofs.Document.Parts
import GuestFlow.Service.Answer

/-!
# What can be answered

The free parts of a definition, the configurations of its steps and its metadata, go into
an answer as they are.  If they came as JSON, there is only one thing that can be in the way:
they may be nested too deep (`Service.jsonRecord_hinges`).  So a definition that was read
from JSON and makes a graph can be answered exactly when all of its parts are shallow
(`Service.detail_hinges`).
-/

set_option autoImplicit false

namespace GuestFlow

/-! ## Depth -/

namespace Value

mutual

/-- How deep a value is nested; what has no parts is one deep. -/
def depth : Value → Nat
  | .list items => depthOfItems items + 1
  | .tuple items => depthOfItems items + 1
  | .set items => depthOfItems items + 1
  | .record entries => depthOfEntries entries + 1
  | _ => 1

def depthOfItems : List Value → Nat
  | [] => 0
  | item :: rest => max item.depth (depthOfItems rest)

def depthOfEntries : List (Value × Value) → Nat
  | [] => 0
  | (_, value) :: rest => max value.depth (depthOfEntries rest)

end

end Value

namespace Service

/-- The computation succeeds under the condition, and otherwise fails for depth. -/
structure HingesOn {α : Type} (condition : Prop) (computed : Except Fault α) : Prop where
  works : condition → ∃ result, computed = .ok result
  fails : ¬condition → computed = .error .nestedTooDeep

namespace HingesOn

variable {α β : Type} {condition other : Prop} {computed : Except Fault α}

theorem of_ok (result : α) : HingesOn True (.ok result : Except Fault α) :=
  ⟨fun _ => ⟨result, rfl⟩, fun never => absurd trivial never⟩

theorem congr (hinges : HingesOn condition computed) (same : condition ↔ other) :
    HingesOn other computed :=
  ⟨fun holds => hinges.works (same.mpr holds), fun fails => hinges.fails (mt same.mp fails)⟩

theorem bind {next : α → Except Fault β} (hinges : HingesOn condition computed)
    (later : ∀ value, HingesOn other (next value)) :
    HingesOn (condition ∧ other) (computed >>= next) := by
  constructor
  · rintro ⟨holds, holdsLater⟩
    obtain ⟨value, worked⟩ := hinges.works holds
    obtain ⟨result, finished⟩ := (later value).works holdsLater
    exact ⟨result, bind_eq_ok_iff.mpr ⟨value, worked, finished⟩⟩
  · intro fails
    by_cases holds : condition
    · obtain ⟨value, worked⟩ := hinges.works holds
      have failed := (later value).fails fun holdsLater => fails ⟨holds, holdsLater⟩
      exact bind_eq_error_iff.mpr (.inr ⟨value, worked, failed⟩)
    · exact bind_eq_error_iff.mpr (.inl (hinges.fails holds))

theorem map (hinges : HingesOn condition computed) (change : α → β) :
    HingesOn condition (computed.map change) := by
  constructor
  · intro holds
    obtain ⟨value, worked⟩ := hinges.works holds
    exact ⟨change value, map_eq_ok_iff.mpr ⟨value, worked, rfl⟩⟩
  · exact fun fails => map_eq_error_iff.mpr (hinges.fails fails)

theorem mapM {needs : β → Prop} {step : β → Except Fault α} {items : List β}
    (each : ∀ item ∈ items, HingesOn (needs item) (step item)) :
    HingesOn (∀ item ∈ items, needs item) (items.mapM step) := by
  induction items with
  | nil => exact (of_ok []).congr (by simp)
  | cons item rest ih =>
      obtain ⟨first, later⟩ := List.forall_mem_cons.mp each
      rw [List.mapM_cons]
      refine (first.bind fun value => (ih later).bind fun values => of_ok _).congr ?_
      rw [and_true, List.forall_mem_cons]

end HingesOn

/-! ## Values -/

/-- The computation needs so much room. -/
def NeedsRoom {α : Type} (computed : Nat → Except Fault α) (needed : Nat) : Prop :=
  ∀ room, HingesOn (needed ≤ room) (computed room)

namespace NeedsRoom

variable {α β γ : Type} {first : Nat → Except Fault α} {second : Nat → Except Fault β}
  {left right needed : Nat}

theorem of_ok (result : α) : NeedsRoom (fun _ => .ok result) 0 :=
  fun room => (HingesOn.of_ok result).congr (by simp)

/-- Two computations need as much room as the one that needs more. -/
theorem both (needs : NeedsRoom first left) (needsToo : NeedsRoom second right) (join : α → β → γ) :
    NeedsRoom (fun room => do
      let value ← first room
      let other ← second room
      .ok (join value other)) (max left right) := by
  intro room
  refine ((needs room).bind fun value => (needsToo room).bind fun other =>
    .of_ok (join value other)).congr ?_
  rw [and_true, Nat.max_le]

/-- A step inwards needs room as well. -/
theorem inside {outer : Nat → Except Fault β} (needs : NeedsRoom first needed) (change : α → β)
    (none : outer 0 = .error .nestedTooDeep)
    (more : ∀ room, outer (room + 1) = (first room).map change) : NeedsRoom outer (needed + 1) := by
  intro room
  cases room with
  | zero =>
      rw [none]
      exact ⟨fun enough => absurd enough (Nat.not_succ_le_zero _), fun _ => rfl⟩
  | succ room =>
      rw [more]
      exact ((needs room).map change).congr Nat.add_le_add_iff_right.symm

end NeedsRoom

mutual

/-- **A value that came as JSON can be answered where there is room for it**, and otherwise fails
for nothing but its depth. -/
theorem jsonValue_needsRoom : (value : Value) → value.IsJson →
    NeedsRoom (fun room => jsonValue room value) value.depth
  | .null, _ => (NeedsRoom.of_ok ()).inside (fun _ => Value.null) rfl fun _ => rfl
  | .bool flag, _ => (NeedsRoom.of_ok flag).inside Value.bool rfl fun _ => rfl
  | .text characters, _ => (NeedsRoom.of_ok characters).inside Value.text rfl fun _ => rfl
  | .int number, said => by
    cases said with
    | int fits =>
      refine (NeedsRoom.of_ok number).inside Value.int rfl fun _ => ?_
      rw [jsonValue, if_pos fits]
      rfl
  | .float number, _ => by
    cases number with
    | finite => exact (NeedsRoom.of_ok _).inside Value.float rfl fun _ => rfl
    | infinite | nan => exact (NeedsRoom.of_ok ()).inside (fun _ => Value.null) rfl fun _ => rfl
  | .list items, said => by
    cases said with
    | list each => exact (jsonItems_needsRoom items each).inside Value.list rfl fun _ => rfl
  | .record entries, said => by
    cases said with
    | record keys each =>
      exact (jsonEntries_needsRoom entries keys each).inside
        (fun entries => Value.record (Record.ofEntries entries)) rfl fun _ => rfl

theorem jsonItems_needsRoom : (items : List Value) → (∀ item ∈ items, item.IsJson) →
    NeedsRoom (fun room => jsonItems room items) (Value.depthOfItems items)
  | [], _ => by
    unfold jsonItems
    exact .of_ok []
  | item :: rest, each => by
    obtain ⟨first, later⟩ := List.forall_mem_cons.mp each
    unfold jsonItems
    exact (jsonValue_needsRoom item first).both (jsonItems_needsRoom rest later) List.cons

theorem jsonEntries_needsRoom : (entries : List (Value × Value)) →
    (∀ key ∈ Record.keys entries, ∃ name, key = .text name) → (∀ entry ∈ entries, entry.2.IsJson) →
    NeedsRoom (fun room => jsonEntries room entries) (Value.depthOfEntries entries)
  | [], _, _ => by
    unfold jsonEntries
    exact .of_ok []
  | (key, value) :: rest, keys, each => by
    obtain ⟨⟨name, named⟩, otherKeys⟩ := List.forall_mem_cons.mp keys
    obtain ⟨first, later⟩ := List.forall_mem_cons.mp each
    cases named
    unfold jsonEntries
    exact (jsonValue_needsRoom value first).both (jsonEntries_needsRoom rest otherKeys later)
      fun value entries => (.text name, value) :: entries

end

theorem jsonRecord_hinges {record : Record} (said : (Value.record record).IsJson) :
    HingesOn ((Value.record record).depth ≤ deepest + 1) (jsonRecord record) := by
  have textual : record.keys.find? (fun key => key.kind != "str") = none := by
    cases said with
    | record keys each =>
        refine List.find?_eq_none.mpr fun key member => ?_
        obtain ⟨name, rfl⟩ := keys key member
        simp [Value.kind]
  unfold jsonRecord
  rw [textual]
  exact jsonValue_needsRoom _ said (deepest + 1)

end Service

/-! ## Definitions -/

/-- The free parts of a definition are what JSON can say. -/
structure Definition.IsJson (definition : Definition) : Prop where
  metadata : (Value.record definition.metadata).IsJson
  configs : ∀ node ∈ definition.nodes, (Value.record node.config).IsJson

/-- The free parts of a definition are nested no deeper than an answer may be. -/
structure Definition.IsShallow (definition : Definition) : Prop where
  metadata : (Value.record definition.metadata).depth ≤ Service.deepest + 1
  configs : ∀ node ∈ definition.nodes, (Value.record node.config).depth ≤ Service.deepest + 1

namespace Service

theorem nodeAnswer_hinges {node : Node} (said : (Value.record node.config).IsJson) :
    HingesOn ((Value.record node.config).depth ≤ deepest + 1) (nodeAnswer node) := by
  unfold nodeAnswer
  refine ((jsonRecord_hinges said).bind fun config => .of_ok _).congr ?_
  rw [and_true]

/-- **A definition that came as JSON and makes a graph can be answered if it is shallow**, and
otherwise fails for its depth. -/
theorem detail_hinges {definition : Definition} (said : definition.IsJson) {graph : Graph}
    (ruled : Graph.ofDefinition definition = .ok graph) :
    HingesOn definition.IsShallow (detail definition) := by
  obtain ⟨fields, brief⟩ : ∃ fields, summaryFields definition = .ok fields := by
    unfold summaryFields
    rw [ruled]
    exact ⟨_, rfl⟩
  have nodes := HingesOn.mapM fun node member => nodeAnswer_hinges (said.configs node member)
  unfold detail
  rw [brief]
  refine (nodes.bind fun nodes => (jsonRecord_hinges said.metadata).bind fun metadata =>
    .of_ok _).congr ?_
  simp only [and_true]
  exact ⟨fun ⟨configs, metadata⟩ => ⟨metadata, configs⟩,
    fun ⟨metadata, configs⟩ => ⟨configs, metadata⟩⟩

end Service

/-! ## Documents -/

namespace Document

/-- **The free parts of a definition that was read from JSON are what JSON can say.** -/
theorem isJson_of_definition {record : Record} (said : (Value.record record).IsJson)
    {supply later : IdSupply} {definition : Definition}
    (read : Document.definition supply (.record record) = .ok (definition, later)) :
    definition.IsJson :=
  have free := free_of_definition Value.isHereditary_isJson said read
  ⟨free.metadata, free.configs⟩

end Document

end GuestFlow
