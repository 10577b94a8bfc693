import GuestFlow.Engine.Run
import GuestFlow.Proofs.Value.Key

/-!
# Records as mappings

Setting and removing one key leaves every other key alone, and two such operations on
different keys can change places.  It matters here that being the same key is symmetric
and transitive, so that no stored key is the same as two different ones.

What a step adds to the collected data is a mapping: its keys can be found again, and no
two of them are the same key (`Record.IsMapping`).  Texts that differ are such keys
(`Record.IsTextual`).  The main statement is `restore_update`: the keys that additions
touched, put back to what they were, give the record that was there before, in its order.
-/

set_option autoImplicit false

namespace GuestFlow

namespace Value

/-- A text is the same key as itself and as nothing else. -/
theorem sameKey_text (stored : Value) (name : String) :
    stored.sameKey (.text name) = true ↔ stored = .text name := by
  cases stored <;> simp [sameKey, isInteger, isNumber]

theorem sameKey_comm (left right : Value) : left.sameKey right = right.sameKey left :=
  Bool.eq_iff_iff.mpr ⟨sameKey_symm, sameKey_symm⟩

/-- What is the same key as one of two different keys is not the same as the other. -/
theorem not_sameKey_of_sameKey {stored key other : Value} (differ : key.sameKey other = false)
    (same : stored.sameKey other = true) : stored.sameKey key = false := by
  cases again : stored.sameKey key with
  | false => rfl
  | true => rw [sameKey_trans (sameKey_symm again) same] at differ; exact differ

end Value

namespace Record

/-! ## Entry by entry -/

section Entries

variable (stored old : Value) (rest : Record) (key value : Value)

theorem get?_nil : get? [] key = none := rfl

theorem get?_cons : get? ((stored, old) :: rest) key =
    if stored.sameKey key then some old else get? rest key := rfl

theorem insert_nil : insert [] key value = [(key, value)] := rfl

theorem insert_cons : insert ((stored, old) :: rest) key value =
    if stored.sameKey key then (stored, value) :: rest
    else (stored, old) :: insert rest key value := rfl

theorem keys_cons : keys ((stored, old) :: rest) = stored :: keys rest := rfl

theorem erase_nil : erase [] key = [] := rfl

theorem erase_cons : erase ((stored, old) :: rest) key =
    if stored.sameKey key then rest else (stored, old) :: erase rest key := rfl

end Entries

/-! ## One key -/

section OneKey

variable {record : Record} {key : Value}

/-- What is found is the value of an entry. -/
theorem mem_of_get? {found : Value} (there : record.get? key = some found) :
    ∃ stored, (stored, found) ∈ record := by
  induction record with
  | nil => cases there
  | cons entry rest ih =>
      obtain ⟨stored, value⟩ := entry
      rw [get?_cons] at there
      split at there
      · cases there
        exact ⟨stored, List.mem_cons_self ..⟩
      · obtain ⟨other, member⟩ := ih there
        exact ⟨other, List.mem_cons_of_mem _ member⟩

/-- A key that was just set is found with its value. -/
theorem get?_insert_self (counts : key.sameKey key = true) (record : Record) (value : Value) :
    (record.insert key value).get? key = some value := by
  induction record with
  | nil => simp [insert_nil, get?_cons, counts]
  | cons entry rest ih =>
      obtain ⟨stored, old⟩ := entry
      cases same : stored.sameKey key with
      | true => simp [insert_cons, get?_cons, same]
      | false => simpa [insert_cons, get?_cons, same] using ih

/-- A key that was set and had no value is gone again when it is erased. -/
theorem erase_insert_of_get?_none (counts : key.sameKey key = true)
    (absent : record.get? key = none) (value : Value) :
    (record.insert key value).erase key = record := by
  induction record with
  | nil => simp [insert_nil, erase_cons, counts]
  | cons entry rest ih =>
      obtain ⟨stored, old⟩ := entry
      cases same : stored.sameKey key with
      | true => simp [get?_cons, same] at absent
      | false =>
          have further : get? rest key = none := by simpa [get?_cons, same] using absent
          simp [insert_cons, erase_cons, same, ih further]

/-- A key that was set and had a value has its place and its value again when it is set back. -/
theorem insert_insert_of_get?_some {old : Value} (present : record.get? key = some old)
    (value : Value) : (record.insert key value).insert key old = record := by
  induction record with
  | nil => simp [get?_nil] at present
  | cons entry rest ih =>
      obtain ⟨stored, before⟩ := entry
      cases same : stored.sameKey key with
      | true =>
          have held : before = old := by simpa [get?_cons, same] using present
          simp [insert_cons, same, held]
      | false =>
          have further : get? rest key = some old := by simpa [get?_cons, same] using present
          simp [insert_cons, same, ih further]

end OneKey

/-! ## Two keys -/

section TwoKeys

variable {key other : Value} (differ : key.sameKey other = false)
include differ

/-- Setting one key does not change what is found under another. -/
theorem get?_insert_of_ne (record : Record) (value : Value) :
    (record.insert other value).get? key = record.get? key := by
  induction record with
  | nil => simp [insert_nil, get?_cons, Value.sameKey_comm other key, differ]
  | cons entry rest ih =>
      obtain ⟨stored, old⟩ := entry
      cases same : stored.sameKey other with
      | true => simp [insert_cons, get?_cons, same, Value.not_sameKey_of_sameKey differ same]
      | false => simp [insert_cons, get?_cons, same, ih]

/-- Erasing one key and setting another can change places. -/
theorem erase_insert_of_ne (record : Record) (value : Value) :
    (record.insert other value).erase key = (record.erase key).insert other value := by
  induction record with
  | nil => simp [insert_nil, erase_cons, erase_nil, Value.sameKey_comm other key, differ]
  | cons entry rest ih =>
      obtain ⟨stored, old⟩ := entry
      cases same : stored.sameKey other with
      | true => simp [insert_cons, erase_cons, same, Value.not_sameKey_of_sameKey differ same]
      | false =>
          cases found : stored.sameKey key with
          | true => simp [insert_cons, erase_cons, same, found]
          | false => simp [insert_cons, erase_cons, same, found, ih]

/-- Setting a key that is there and setting another can change places.  A key that is not there goes
to the end, so for two of those the order would show. -/
theorem insert_insert_of_ne {record : Record} (present : (record.get? key).isSome)
    (value added : Value) :
    (record.insert other added).insert key value =
      (record.insert key value).insert other added := by
  induction record with
  | nil => simp [get?_nil] at present
  | cons entry rest ih =>
      obtain ⟨stored, old⟩ := entry
      cases same : stored.sameKey other with
      | true => simp [insert_cons, same, Value.not_sameKey_of_sameKey differ same]
      | false =>
          cases found : stored.sameKey key with
          | true => simp [insert_cons, same, found]
          | false =>
              have further : (get? rest key).isSome := by simpa [get?_cons, found] using present
              simp [insert_cons, same, found, ih further]

end TwoKeys

/-! ## Many keys -/

/-- A record whose keys can be found again, no two of them the same. -/
structure IsMapping (record : Record) : Prop where
  keysCount : ∀ key ∈ record.keys, key.sameKey key = true
  keysDiffer : record.keys.Pairwise fun key other => key.sameKey other = false

/-- A record whose keys are texts, each of them once. -/
structure IsTextual (record : Record) : Prop where
  keysAreTexts : ∀ key ∈ record.keys, ∃ name : String, key = .text name
  keysDiffer : record.keys.Nodup

theorem IsTextual.isMapping {record : Record} (textual : record.IsTextual) : record.IsMapping where
  keysCount key member := by
    obtain ⟨name, rfl⟩ := textual.keysAreTexts key member
    exact (Value.sameKey_text _ name).mpr rfl
  keysDiffer := by
    refine textual.keysDiffer.imp_of_mem ?_
    intro key other _ member different
    obtain ⟨name, rfl⟩ := textual.keysAreTexts other member
    exact Bool.eq_false_iff.mpr (mt (Value.sameKey_text key name).mp different)

/-- Of a mapping, the first key is not the same as any later one. -/
theorem IsMapping.cons {key value : Value} {rest : Record}
    (mapping : IsMapping ((key, value) :: rest)) :
    key.sameKey key = true ∧ (∀ other ∈ rest.keys, key.sameKey other = false) ∧ rest.IsMapping := by
  obtain ⟨counts, differ⟩ := mapping
  simp only [keys, List.map_cons, List.forall_mem_cons, List.pairwise_cons] at counts differ
  exact ⟨counts.1, differ.1, counts.2, differ.2⟩

/-- The names of a single entry. -/
theorem isTextual_singleton (name : String) (value : Value) : IsTextual [(.text name, value)] :=
  ⟨by simp [keys], by simp [keys]⟩

/-- The keys after a key was set are those before and perhaps that key, which is new then. -/
theorem keys_insert (record : Record) (key value : Value) :
    (record.insert key value).keys = record.keys ∨
      (record.insert key value).keys = record.keys ++ [key] ∧
        ∀ stored ∈ record.keys, stored.sameKey key = false := by
  induction record with
  | nil => exact .inr ⟨rfl, by simp [keys]⟩
  | cons entry rest ih =>
      obtain ⟨stored, old⟩ := entry
      cases same : stored.sameKey key with
      | true => exact .inl (by simp [insert_cons, keys, same])
      | false =>
          rcases ih with kept | ⟨added, new⟩
          · refine .inl ?_
            simp only [keys] at kept ⊢
            simp [insert_cons, same, kept]
          · refine .inr ⟨?_, ?_⟩
            · simp only [keys] at added ⊢
              simp [insert_cons, same, added]
            · exact List.forall_mem_cons.mpr ⟨same, new⟩

/-- Setting a key brings in no other key and no other value. -/
theorem mem_insert {record : Record} {key value : Value} {entry : Value × Value}
    (member : entry ∈ record.insert key value) :
    (entry.1 = key ∨ entry.1 ∈ record.keys) ∧ (entry.2 = value ∨ entry ∈ record) := by
  induction record with
  | nil =>
      rw [insert, List.mem_singleton] at member
      subst member
      exact ⟨.inl rfl, .inl rfl⟩
  | cons first rest ih =>
      obtain ⟨stored, old⟩ := first
      unfold insert at member
      split at member
      · rcases List.mem_cons.mp member with rfl | later
        · exact ⟨.inr (by simp [keys]), .inl rfl⟩
        · exact ⟨.inr (List.mem_map_of_mem (List.mem_cons_of_mem _ later)),
            .inr (List.mem_cons_of_mem _ later)⟩
      · rcases List.mem_cons.mp member with rfl | later
        · exact ⟨.inr (by simp [keys]), .inr (List.mem_cons_self ..)⟩
        · obtain ⟨named, valued⟩ := ih later
          exact ⟨named.imp_right (List.mem_cons_of_mem _),
            valued.imp_right (List.mem_cons_of_mem _)⟩

/-- Setting a key keeps a record a mapping. -/
theorem IsMapping.insert {record : Record} (mapping : record.IsMapping) {key : Value}
    (counts : key.sameKey key = true) (value : Value) : (record.insert key value).IsMapping := by
  rcases record.keys_insert key value with kept | ⟨added, new⟩
  · exact ⟨kept ▸ mapping.keysCount, kept ▸ mapping.keysDiffer⟩
  · constructor
    · rw [added, List.forall_mem_append]
      exact ⟨mapping.keysCount, by simpa using counts⟩
    · rw [added, List.pairwise_append]
      exact ⟨mapping.keysDiffer, by simp, by simpa using new⟩

/-- Setting a text keeps the keys of a record texts. -/
theorem IsTextual.insert {record : Record} (textual : record.IsTextual) (name : String)
    (value : Value) : (record.insert (.text name) value).IsTextual := by
  rcases record.keys_insert (.text name) value with kept | ⟨added, new⟩
  · exact ⟨kept ▸ textual.keysAreTexts, kept ▸ textual.keysDiffer⟩
  · constructor
    · rw [added, List.forall_mem_append]
      exact ⟨textual.keysAreTexts, by simp⟩
    · rw [added, List.nodup_append]
      refine ⟨textual.keysDiffer, by simp, ?_⟩
      intro stored member last single same
      rw [List.mem_singleton.mp single] at same
      have counts := (Value.sameKey_text stored name).mpr same
      rw [new stored member] at counts
      cases counts

/-- The keys after a text was set are those before and that text. -/
theorem mem_keys_insert_text {record : Record} {name : String} {value key : Value} :
    key ∈ (record.insert (.text name) value).keys ↔ key ∈ record.keys ∨ key = .text name := by
  induction record with
  | nil => simp [insert_nil, keys]
  | cons entry rest ih =>
      obtain ⟨stored, old⟩ := entry
      rw [insert_cons, keys_cons]
      split
      case isTrue same =>
        have present : stored = .text name := (Value.sameKey_text stored name).mp same
        rw [keys_cons, present]
        exact ⟨.inl, fun either => either.elim id fun added => added ▸ List.mem_cons_self ..⟩
      case isFalse => rw [keys_cons, List.mem_cons, List.mem_cons, ih, or_assoc]

@[simp] theorem update_nil (record : Record) : record.update [] = record := rfl

theorem update_cons (record : Record) (key value : Value) (rest : Record) :
    record.update ((key, value) :: rest) = (record.insert key value).update rest := rfl

/-- What holds of the keys and of the values on both sides holds of them together. -/
theorem forall_update {ofKey ofValue : Value → Prop} {record additions : Record}
    (before : ∀ entry ∈ record, ofKey entry.1 ∧ ofValue entry.2)
    (added : ∀ entry ∈ additions, ofKey entry.1 ∧ ofValue entry.2) :
    ∀ entry ∈ record.update additions, ofKey entry.1 ∧ ofValue entry.2 := by
  induction additions generalizing record with
  | nil => exact before
  | cons addition rest ih =>
      obtain ⟨key, value⟩ := addition
      obtain ⟨first, later⟩ := List.forall_mem_cons.mp added
      refine ih (fun entry member => ⟨?_, ?_⟩) later
      · rcases (mem_insert member).1 with same | old
        · exact same ▸ first.1
        · obtain ⟨stored, inside, same⟩ := List.mem_map.mp old
          exact same ▸ (before stored inside).1
      · rcases (mem_insert member).2 with same | old
        · exact same ▸ first.2
        · exact (before entry old).2

/-- Erasing a key that additions do not mention can be done before they are made. -/
theorem erase_update {key : Value} {additions : Record}
    (unmentioned : ∀ other ∈ additions.keys, key.sameKey other = false) (record : Record) :
    (record.update additions).erase key = (record.erase key).update additions := by
  induction additions generalizing record with
  | nil => rfl
  | cons entry rest ih =>
      obtain ⟨other, value⟩ := entry
      obtain ⟨differ, further⟩ := List.forall_mem_cons.mp unmentioned
      rw [update_cons, update_cons, ih further, erase_insert_of_ne differ]

/-- Setting a key that is there and that additions do not mention can be done before they are
made. -/
theorem insert_update {key : Value} {additions : Record}
    (unmentioned : ∀ other ∈ additions.keys, key.sameKey other = false) {record : Record}
    (present : (record.get? key).isSome) (value : Value) :
    (record.update additions).insert key value = (record.insert key value).update additions := by
  induction additions generalizing record with
  | nil => rfl
  | cons entry rest ih =>
      obtain ⟨other, added⟩ := entry
      obtain ⟨differ, further⟩ := List.forall_mem_cons.mp unmentioned
      have still : ((record.insert other added).get? key).isSome := by
        rwa [get?_insert_of_ne differ]
      rw [update_cons, update_cons, ih further still, insert_insert_of_ne differ present]

end Record

namespace Touched

open Record

theorem keys_of (data additions : Record) : (Touched.of data additions).keys = additions.keys := by
  simp [Touched.of, Touched.keys, Record.keys]

/-- The first of several additions is undone by restoring its key, whatever came after it. -/
theorem restoreKey_update {key : Value} (counts : key.sameKey key = true) {rest : Record}
    (unmentioned : ∀ other ∈ rest.keys, key.sameKey other = false) (data : Record)
    (value : Value) :
    restoreKey ((data.insert key value).update rest) (key, data.get? key) = data.update rest := by
  cases before : data.get? key with
  | none =>
      simp only [restoreKey]
      rw [erase_update unmentioned, erase_insert_of_get?_none counts before]
  | some old =>
      simp only [restoreKey]
      rw [insert_update unmentioned (by simp [get?_insert_self counts]),
        insert_insert_of_get?_some before]

/-- **Restoring what additions touched undoes them**, the order of the keys included. -/
theorem restore_update {additions : Record} (mapping : additions.IsMapping) (data : Record) :
    (Touched.of data additions).restore (data.update additions) = data := by
  induction additions with
  | nil => rfl
  | cons entry rest ih =>
      obtain ⟨key, value⟩ := entry
      obtain ⟨counts, unmentioned, restMapping⟩ := mapping.cons
      have first := restoreKey_update counts unmentioned data value
      calc
        (Touched.of data ((key, value) :: rest)).restore (data.update ((key, value) :: rest))
          = (Touched.of data rest).restore (restoreKey
              ((data.insert key value).update rest) (key, data.get? key)) := rfl
        _ = (Touched.of data rest).restore (data.update rest) := by rw [first]
        _ = data := ih restMapping

end Touched

end GuestFlow
