import Mathlib.Data.List.Forall2
import Mathlib.Data.List.Nodup

/-!
# Complete reports

A check that answers in lines should have a line for everything that is wrong, and one line
for each.  `Reports` states this: the lines are those of all the things that are wrong, and
no thing is named twice.  So the report is empty exactly when nothing is wrong
(`Reports.eq_nil_iff`).

Reports are joined where they are about different things (`Reports.append`).  Along a list,
what is found at an item is told apart by the place of the item (`Finding`), and the reports
of the items together are the report of the list (`Reports.along`).
-/

set_option autoImplicit false

namespace GuestFlow

/-- The lines are those of all things that are wrong, each thing once. -/
def Reports {α : Type} (lines : List String) (line : α → String) (Wrong : α → Prop) : Prop :=
  ∃ things : List α, things.Nodup ∧ (∀ thing, thing ∈ things ↔ Wrong thing) ∧
    lines = things.map line

/-- Something that was found at an item of a list, with the place of the item. -/
structure Finding (α β : Type) where
  place : Nat
  item : α
  found : β

namespace Reports

variable {α β : Type} {lines others : List String} {line : α → String} {Wrong Other : α → Prop}

theorem nil (fine : ∀ thing, ¬Wrong thing) : Reports [] line Wrong := by
  refine ⟨[], List.nodup_nil, fun thing => ?_, rfl⟩
  simpa using fine thing

theorem single {text : String} (thing : α) (told : text = line thing)
    (only : ∀ other, Wrong other ↔ other = thing) : Reports [text] line Wrong := by
  subst told
  refine ⟨[thing], List.nodup_singleton thing, fun other => ?_, rfl⟩
  rw [only, List.mem_singleton]

theorem congr (reports : Reports lines line Wrong) (same : ∀ thing, Wrong thing ↔ Other thing) :
    Reports lines line Other := by
  obtain ⟨things, once, all, told⟩ := reports
  exact ⟨things, once, fun thing => (all thing).trans (same thing), told⟩

/-- Reports about different things, one after the other. -/
theorem append (first : Reports lines line Wrong) (second : Reports others line Other)
    (apart : ∀ thing, Wrong thing → ¬Other thing) :
    Reports (lines ++ others) line fun thing => Wrong thing ∨ Other thing := by
  obtain ⟨left, leftOnce, leftAll, rfl⟩ := first
  obtain ⟨right, rightOnce, rightAll, rfl⟩ := second
  refine ⟨left ++ right, leftOnce.append rightOnce ?_, fun thing => ?_, List.map_append.symm⟩
  · intro thing inLeft inRight
    exact apart thing ((leftAll thing).mp inLeft) ((rightAll thing).mp inRight)
  · rw [List.mem_append, leftAll, rightAll]

/-- The same report, when the things are seen as parts of something larger. -/
theorem embed (reports : Reports lines line Wrong) (whole : β → String) (within : α → β)
    (injective : Function.Injective within) (told : ∀ thing, whole (within thing) = line thing) :
    Reports lines whole fun other => ∃ thing, Wrong thing ∧ within thing = other := by
  obtain ⟨things, once, all, rfl⟩ := reports
  refine ⟨things.map within, once.map injective, fun other => ?_, ?_⟩
  · simp only [List.mem_map, all]
  · rw [List.map_map]
    exact List.map_congr_left fun thing _ => (told thing).symm

/-- **A report is empty exactly when nothing is wrong.** -/
theorem eq_nil_iff (reports : Reports lines line Wrong) : lines = [] ↔ ∀ thing, ¬Wrong thing := by
  obtain ⟨things, _, all, rfl⟩ := reports
  rw [List.map_eq_nil_iff, List.eq_nil_iff_forall_not_mem]
  exact forall_congr' fun thing => not_congr (all thing)

/-! ## Along a list -/

section Along

variable {item : α} {rest : List α} {tell : α → β → String} (At : Nat → α → β → Prop)

/-- The report of a first item and that of the others, whose places move by one. -/
theorem cons (here : Reports lines (tell item) (At 0 item))
    (later : Reports others (fun finding : Finding α β => tell finding.item finding.found)
      fun finding => rest[finding.place]? = some finding.item ∧
        At (finding.place + 1) finding.item finding.found) :
    Reports (lines ++ others) (fun finding : Finding α β => tell finding.item finding.found)
      fun finding => (item :: rest)[finding.place]? = some finding.item ∧
        At finding.place finding.item finding.found := by
  let whole (finding : Finding α β) : String := tell finding.item finding.found
  have first := here.embed whole (fun found => ⟨0, item, found⟩)
    (fun _ _ same => by cases same; rfl) fun _ => rfl
  have second := later.embed whole (fun finding => { finding with place := finding.place + 1 })
    (fun left right same => by cases left; cases right; cases same; rfl) fun _ => rfl
  refine (first.append second ?_).congr ?_
  · rintro _ ⟨_, _, rfl⟩ ⟨_, _, same⟩
    cases same
  · rintro ⟨place, item', found⟩
    cases place with
    | zero =>
        simp only [List.getElem?_cons_zero, Option.some.injEq]
        constructor
        · rintro (⟨_, wrong, same⟩ | ⟨_, _, same⟩)
          · cases same
            exact ⟨rfl, wrong⟩
          · cases same
        · rintro ⟨rfl, wrong⟩
          exact .inl ⟨found, wrong, rfl⟩
    | succ place =>
        simp only [List.getElem?_cons_succ]
        constructor
        · rintro (⟨_, _, same⟩ | ⟨finding, wrong, same⟩)
          · cases same
          · cases same
            exact wrong
        · intro wrong
          exact .inr ⟨⟨place, item', found⟩, wrong, rfl⟩

end Along

/-- **The reports of the items of a list are together the report of the list.** -/
theorem along {items : List α} {reports : List (List String)} {tell : α → β → String}
    {Wrong : α → β → Prop}
    (each : List.Forall₂ (fun item lines => Reports lines (tell item) (Wrong item)) items
      reports) :
    Reports reports.flatten (fun finding : Finding α β => tell finding.item finding.found)
      fun finding => items[finding.place]? = some finding.item ∧
        Wrong finding.item finding.found := by
  induction each with
  | nil => exact nil fun finding wrong => by simp at wrong
  | cons here _ ih => exact cons (fun _ => Wrong) here ih

/-- A report in which every item of a list has at most one line. -/
theorem along_filterMap {items : List α} {tell? : α → Option String} {tell : α → β → String}
    {Wrong : α → β → Prop}
    (each : ∀ item ∈ items, Reports (tell? item).toList (tell item) (Wrong item)) :
    Reports (items.filterMap tell?) (fun finding : Finding α β => tell finding.item finding.found)
      fun finding => items[finding.place]? = some finding.item ∧
        Wrong finding.item finding.found := by
  have joined : items.filterMap tell? = (items.map fun item => (tell? item).toList).flatten := by
    rw [← List.flatMap_def, List.filterMap_eq_flatMap_toList]
  rw [joined]
  refine along ?_
  rw [List.forall₂_map_right_iff, List.forall₂_same]
  exact each

end Reports

end GuestFlow
