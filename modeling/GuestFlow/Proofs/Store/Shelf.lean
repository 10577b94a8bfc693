import Mathlib.Data.List.Basic
import GuestFlow.Store.Shelf

/-!
# Things on shelves

What is put under an id is found there, and everything else stays where it is: under the
other ids stands what stood there before (`get?_put_of_ne`, `get?_erase_of_ne`), and in the
same order (`erase_put`).
-/

set_option autoImplicit false

namespace GuestFlow.Shelf

variable {α : Type} {shelf : Shelf α} {id other : String} {item : α}

@[simp] theorem get?_empty (id : String) : (empty : Shelf α).get? id = none := rfl

theorem lookup_putEntry_self (entries : List (String × α)) :
    (putEntry id item entries).lookup id = some item := by
  induction entries with
  | nil => simp [putEntry]
  | cons entry rest ih =>
      obtain ⟨stored, old⟩ := entry
      unfold putEntry
      split
      · simp
      · rename_i differs
        rw [List.lookup_cons, beq_false_of_ne (Ne.symm differs)]
        exact ih

theorem lookup_putEntry_of_ne (differs : other ≠ id) (entries : List (String × α)) :
    (putEntry id item entries).lookup other = entries.lookup other := by
  induction entries with
  | nil => simp [putEntry, List.lookup_cons, beq_false_of_ne differs]
  | cons entry rest ih =>
      obtain ⟨stored, old⟩ := entry
      unfold putEntry
      split
      · rename_i same
        subst same
        simp [List.lookup_cons, beq_false_of_ne differs]
      · rw [List.lookup_cons, List.lookup_cons, ih]

@[simp] theorem get?_put_self (shelf : Shelf α) (id : String) (item : α) :
    (shelf.put id item).get? id = some item := lookup_putEntry_self shelf.entries

theorem get?_put_of_ne (differs : other ≠ id) (shelf : Shelf α) (item : α) :
    (shelf.put id item).get? other = shelf.get? other :=
  lookup_putEntry_of_ne differs shelf.entries

theorem get?_erase_self (shelf : Shelf α) (id : String) : (shelf.erase id).get? id = none := by
  refine List.lookup_eq_none_iff.mpr fun entry member => ?_
  have differs : entry.1 ≠ id := by simpa using (List.mem_filter.mp member).2
  simpa using differs.symm

theorem get?_erase_of_ne (differs : other ≠ id) (shelf : Shelf α) :
    (shelf.erase id).get? other = shelf.get? other := by
  obtain ⟨entries⟩ := shelf
  unfold get? erase
  induction entries with
  | nil => rfl
  | cons entry rest ih =>
      dsimp only at ih ⊢
      rw [List.filter_cons, List.lookup_cons]
      split
      · rw [List.lookup_cons, ih]
      · rename_i gone
        have same : entry.1 = id := by simpa using gone
        rw [beq_false_of_ne (same ▸ differs), ih]

/-- Apart from the id under which something is put, the shelf is as it was. -/
theorem erase_put (shelf : Shelf α) (id : String) (item : α) :
    (shelf.put id item).erase id = shelf.erase id := by
  obtain ⟨entries⟩ := shelf
  unfold put erase
  refine congrArg Shelf.mk ?_
  induction entries with
  | nil => simp [putEntry]
  | cons entry rest ih =>
      obtain ⟨stored, old⟩ := entry
      dsimp only at ih ⊢
      unfold putEntry
      split
      · rename_i same
        subst same
        simp
      · rw [List.filter_cons, List.filter_cons, ih]

/-- Changing every thing where it stands. -/
theorem get?_mapped {β : Type} (change : α → β) (shelf : Shelf α) (id : String) :
    (⟨shelf.entries.map fun entry => (entry.1, change entry.2)⟩ : Shelf β).get? id =
      (shelf.get? id).map change := by
  obtain ⟨entries⟩ := shelf
  unfold get?
  induction entries with
  | nil => rfl
  | cons entry rest ih =>
      dsimp only at ih ⊢
      rw [List.map_cons, List.lookup_cons, List.lookup_cons, ih]
      split
      · rfl
      · rfl

end GuestFlow.Shelf
