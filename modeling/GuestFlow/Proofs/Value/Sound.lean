import GuestFlow.Proofs.Number.Rounding
import GuestFlow.Proofs.Record

/-!
# Sound values

A value is sound if its numbers are in their lowest form and its records have no key twice
(`Value.IsSound`).  Setting a key keeps a record sound, and so every record is that was made of
sound entries one after another.  Different keys are entries that `Record.ofEntries` leaves as
they are (`Record.ofEntries_eq`).
-/

set_option autoImplicit false

namespace GuestFlow

namespace Record

/-- No two keys of a record are the same. -/
def HasDistinctKeys (record : Record) : Prop :=
  record.keys.Pairwise fun key other => key.sameKey other = false

theorem HasDistinctKeys.insert {record : Record} (distinct : record.HasDistinctKeys)
    (key value : Value) : (record.insert key value).HasDistinctKeys := by
  unfold HasDistinctKeys
  rcases record.keys_insert key value with kept | ⟨added, new⟩
  · rw [kept]
    exact distinct
  · rw [added, List.pairwise_append]
    exact ⟨distinct, by simp, by simpa using new⟩

/-- A record that is made of entries has no key twice, for a key that comes again keeps its
place. -/
theorem hasDistinctKeys_ofEntries (entries : Record) : (ofEntries entries).HasDistinctKeys := by
  suffices ∀ record : Record, record.HasDistinctKeys → (record.update entries).HasDistinctKeys from
    this [] List.Pairwise.nil
  induction entries with
  | nil => exact fun record distinct => distinct
  | cons entry rest ih => exact fun record distinct => ih _ (distinct.insert entry.1 entry.2)

/-- A key that is not there yet goes to the end. -/
theorem insert_eq_append {record : Record} {key : Value}
    (new : ∀ stored ∈ record.keys, stored.sameKey key = false) (value : Value) :
    record.insert key value = record ++ [(key, value)] := by
  induction record with
  | nil => rfl
  | cons entry rest ih =>
      obtain ⟨stored, old⟩ := entry
      obtain ⟨differs, later⟩ := List.forall_mem_cons.mp new
      rw [insert_cons, differs, if_neg Bool.false_ne_true, ih later]
      rfl

/-- **Entries with different keys are a record as they are.** -/
theorem ofEntries_eq {entries : Record} (distinct : entries.HasDistinctKeys) :
    ofEntries entries = entries := by
  suffices ∀ record : Record, HasDistinctKeys (record ++ entries) →
      record.update entries = record ++ entries from this [] distinct
  induction entries with
  | nil => exact fun record _ => (List.append_nil record).symm
  | cons entry rest ih =>
      intro record distinct
      obtain ⟨key, value⟩ := entry
      have later : HasDistinctKeys rest := (List.pairwise_cons.mp ‹_›).2
      have new : ∀ stored ∈ record.keys, stored.sameKey key = false := by
        unfold HasDistinctKeys keys at distinct
        rw [List.map_append, List.pairwise_append] at distinct
        exact fun stored member => distinct.2.2 stored member key (List.mem_cons_self ..)
      rw [update_cons, insert_eq_append new, ih later]
      · rw [List.append_assoc]
        rfl
      · rw [List.append_assoc]
        exact distinct

end Record

namespace Value

/-- The numbers of a value are in their lowest form, and its records have no key twice. -/
inductive IsSound : Value → Prop where
  | null : IsSound .null
  | bool (flag : Bool) : IsSound (.bool flag)
  | int (number : Int) : IsSound (.int number)
  | float {number : Binary64} (normal : number.IsNormal) : IsSound (.float number)
  | text (characters : String) : IsSound (.text characters)
  | bytes (content : List UInt8) : IsSound (.bytes content)
  | date (day : Calendar.Date) : IsSound (.date day)
  | moment (instant : Calendar.Moment) : IsSound (.moment instant)
  | list {items : List Value} (each : ∀ item ∈ items, IsSound item) : IsSound (.list items)
  | tuple {items : List Value} (each : ∀ item ∈ items, IsSound item) : IsSound (.tuple items)
  | set {items : List Value} (each : ∀ item ∈ items, IsSound item) : IsSound (.set items)
  | record {entries : Record} (distinct : entries.HasDistinctKeys)
      (ofKeys : ∀ entry ∈ entries, IsSound entry.1)
      (ofValues : ∀ entry ∈ entries, IsSound entry.2) : IsSound (.record entries)

namespace IsSound

theorem empty : IsSound (.record []) := .record List.Pairwise.nil (by simp) (by simp)

theorem ofEntries {entries : List (Value × Value)}
    (each : ∀ entry ∈ entries, IsSound entry.1 ∧ IsSound entry.2) :
    IsSound (.record (Record.ofEntries entries)) := by
  have all := @Record.forall_update IsSound IsSound [] entries
    (fun _ member => nomatch member) each
  exact .record (Record.hasDistinctKeys_ofEntries entries)
    (fun entry member => (all entry member).1) fun entry member => (all entry member).2

end IsSound

end Value

end GuestFlow
