import GuestFlow.Proofs.Fallible
import GuestFlow.Proofs.Record
import GuestFlow.Value.Text

/-!
# Values that cannot be written

A value has a text unless some integer inside it is too long.  Looking for that integer
goes through all parts of the value, so a value with a part that cannot be written cannot
be written either (`Value.IsTooLong.of_item`, `Value.IsTooLong.of_field`).
-/

set_option autoImplicit false

namespace GuestFlow.Value

/-- The fault of a value that holds an integer too long to be written. -/
structure IsTooLong (value : Value) (fault : Fault) : Prop where
  unwritable : value.isWritable = false
  fault_eq : fault = .tooManyDigits none

variable {value : Value} {fault : Fault}

theorem text?_eq_error_iff : value.text? = .error fault ↔ value.IsTooLong fault := by
  unfold text?
  split
  · rename_i writable
    refine iff_of_false (fun failed => nomatch failed) fun long => ?_
    rw [long.unwritable] at writable
    cases writable
  · rename_i unwritable
    constructor
    · intro failed
      cases failed
      exact ⟨Bool.eq_false_iff.mpr unwritable, rfl⟩
    · rintro ⟨_, rfl⟩
      rfl

theorem isTooLong_of_literal? (failed : value.literal? = .error fault) :
    value.IsTooLong fault := by
  unfold literal? at failed
  split at failed
  · cases failed
  · rename_i unwritable
    cases failed
    exact ⟨Bool.eq_false_iff.mpr unwritable, rfl⟩

/-! ## Parts -/

theorem areWritable_iff {items : List Value} :
    areWritable items = true ↔ ∀ item ∈ items, item.isWritable = true := by
  induction items with
  | nil => simp [areWritable]
  | cons item rest ih => simp [areWritable, ih]

theorem areWritableEntries_iff {entries : List (Value × Value)} :
    areWritableEntries entries = true ↔
      ∀ entry ∈ entries, entry.1.isWritable = true ∧ entry.2.isWritable = true := by
  induction entries with
  | nil => simp [areWritableEntries]
  | cons entry rest ih =>
      obtain ⟨key, value⟩ := entry
      simp [areWritableEntries, ih]

namespace IsTooLong

/-- A list with an item that is too long is too long. -/
theorem of_item {items : List Value} {item : Value} (long : item.IsTooLong fault)
    (member : item ∈ items) : (Value.list items).IsTooLong fault := by
  refine ⟨Bool.eq_false_iff.mpr fun written => ?_, long.fault_eq⟩
  have short := areWritable_iff.mp written item member
  rw [long.unwritable] at short
  cases short

/-- A record with a field that is too long is too long. -/
theorem of_field {entries : Record} {name : String} {field : Value}
    (long : field.IsTooLong fault) (found : entries.field? name = some field) :
    (Value.record entries).IsTooLong fault := by
  refine ⟨Bool.eq_false_iff.mpr fun written => ?_, long.fault_eq⟩
  obtain ⟨stored, member⟩ := Record.mem_of_get? found
  have short := (areWritableEntries_iff.mp written _ member).2
  rw [long.unwritable] at short
  cases short

end IsTooLong

end GuestFlow.Value
