import GuestFlow.Json.Reader
import GuestFlow.Proofs.Fallible
import GuestFlow.Proofs.Value.Sound
import GuestFlow.Value.Text

/-!
# What JSON says

JSON has only some of the values: no dates, no bytes, lists as the only sequences, and texts
as the only keys (`Value.IsJson`).  Whatever a JSON text is read as is one of these, down to
its innermost parts (`Json.isJson_of_read`).  The integers in it have few enough digits to be
written again, for an integer that has too many is refused when it is read.
-/

set_option autoImplicit false

namespace GuestFlow

/-- A value that a JSON text can say. -/
inductive Value.IsJson : Value → Prop where
  | null : IsJson .null
  | bool (flag : Bool) : IsJson (.bool flag)
  | int {number : Int} (fits : Value.fitsLimit number = true) : IsJson (.int number)
  | float (number : Binary64) : IsJson (.float number)
  | text (characters : String) : IsJson (.text characters)
  | list {items : List Value} (each : ∀ item ∈ items, IsJson item) : IsJson (.list items)
  | record {entries : Record} (keys : ∀ key ∈ entries.keys, ∃ name, key = .text name)
      (each : ∀ entry ∈ entries, IsJson entry.2) : IsJson (.record entries)

namespace Value.IsJson

theorem empty : IsJson (.record []) := .record (by simp [Record.keys]) (by simp)

/-- Of entries with text keys a record is made that JSON can say. -/
theorem ofEntries {entries : List (Value × Value)}
    (each : ∀ entry ∈ entries, (∃ name, entry.1 = .text name) ∧ IsJson entry.2) :
    IsJson (.record (Record.ofEntries entries)) := by
  have all := @Record.forall_update (fun key => ∃ name, key = .text name) IsJson [] entries
    (fun _ member => nomatch member) each
  refine .record (fun key member => ?_) fun entry member => (all entry member).2
  obtain ⟨entry, inside, rfl⟩ := List.mem_map.mp member
  exact (all entry inside).1

/-- What is found in a record that JSON can say is said by it, too. -/
theorem of_field? {entries : Record} (said : IsJson (.record entries)) {name : String}
    {found : Value} (there : entries.field? name = some found) : found.IsJson := by
  cases said with
  | record keys each =>
      unfold Record.field? at there
      induction entries with
      | nil => cases there
      | cons entry rest ih =>
          obtain ⟨stored, value⟩ := entry
          rw [Record.keys, List.map_cons, List.forall_mem_cons] at keys
          obtain ⟨first, later⟩ := List.forall_mem_cons.mp each
          unfold Record.get? at there
          split at there
          · cases there
            exact first
          · exact ih there keys.2 later

end Value.IsJson

/-! ## Integers -/

/-- A number can be written if it has not too many digits. -/
theorem Value.fitsLimit_iff {number : Int} :
    fitsLimit number = true ↔ number.natAbs < Nat.pow 10 digitLimit := by
  -- The bounds are given other names, so that their powers are not computed.
  obtain ⟨bound, same, short⟩ : ∃ bound, bound = 14000 ∧ Nat.pow 2 bound ≤ Nat.pow 10 digitLimit :=
    ⟨14000, rfl, by decide +kernel⟩
  unfold fitsLimit
  generalize Nat.pow 10 digitLimit = most at short
  rw [← same, Bool.or_eq_true, decide_eq_true_eq, decide_eq_true_eq, or_iff_right_iff_imp]
  intro few
  by_cases nothing : number.natAbs = 0
  · rw [nothing]
    exact Nat.lt_of_lt_of_le (Nat.two_pow_pos bound) short
  · exact Nat.lt_of_lt_of_le ((Nat.log2_lt nothing).mp few) short

/-- A number of few digits can be written. -/
theorem Value.fitsLimit_of_lt {number : Int} {digits : Nat} (few : digits ≤ digitLimit)
    (small : number.natAbs < Nat.pow 10 digits) : fitsLimit number = true := by
  rw [fitsLimit_iff]
  generalize digitLimit = limit at few
  exact Nat.lt_of_lt_of_le small (Nat.pow_le_pow_right (by decide) few)

namespace Numeral

theorem digit?_lt {base digit : Nat} {character : Char}
    (found : digit? base character = some digit) : digit < base := by
  obtain ⟨small, same⟩ := Option.ite_none_right_eq_some.mp found
  exact Option.some.inj same ▸ small

theorem takeDigits_lt (base : Nat) (characters : List Char) :
    ∀ digit ∈ (takeDigits base characters).1, digit < base := by
  fun_induction takeDigits base characters with
  | case1 | case2 | case4 | case5 => simp
  | case3 _ _ _ ih => exact ih
  | case6 character rest _ digit found digits dangling remaining split ih =>
      rw [split] at ih
      exact List.forall_mem_cons.mpr ⟨digit?_lt found, ih⟩

/-- A number is less than the next power of the base after its digits. -/
theorem value_lt {base : Nat} {digits : List Nat} (each : ∀ digit ∈ digits, digit < base) :
    value base digits < Nat.pow base digits.length := by
  suffices ∀ total, digits.foldl (fun total digit => total * base + digit) total <
      (total + 1) * Nat.pow base digits.length by simpa [value] using this 0
  induction digits with
  | nil => simp
  | cons digit rest ih =>
      intro total
      obtain ⟨small, later⟩ := List.forall_mem_cons.mp each
      calc rest.foldl (fun total digit => total * base + digit) (total * base + digit)
          < (total * base + digit + 1) * Nat.pow base rest.length := ih later _
        _ ≤ ((total + 1) * base) * Nat.pow base rest.length :=
            Nat.mul_le_mul_right _ (by rw [Nat.add_mul]; omega)
        _ = (total + 1) * Nat.pow base (rest.length + 1) := by
            rw [Nat.mul_assoc, Nat.mul_comm base]
            rfl

/-- An integer that was read from a decimal numeral can be written. -/
theorem fitsLimit_of_readInteger {text : String} {number : Int}
    (read : readInteger 10 text = .ok number) : Value.fitsLimit number = true := by
  unfold readInteger at read
  dsimp only at read
  generalize skipBaseMark 10 (takeSign (plain text)).2 = characters at read
  have digits := takeDigits_lt 10 characters
  generalize (takeDigits 10 characters).1 = found at read digits
  split at read
  · cases read
  · split at read
    · cases read
    · split at read
      · cases read
      · rename_i few
        have few : found.length ≤ digitLimit := by simpa using few
        split at read
        · have magnitude : number.natAbs = value 10 found := by
            cases read
            split
            · rw [Int.natAbs_neg, Int.natAbs_natCast]
            · rw [Int.natAbs_natCast]
          exact Value.fitsLimit_of_lt few (magnitude ▸ value_lt digits)
        · cases read

end Numeral

/-! ## Reading -/

namespace Json

/-- A property that scalars have and that records and lists have if their parts have it. -/
structure IsInductive (Holds : Value → Prop) : Prop where
  null : Holds .null
  bool (flag : Bool) : Holds (.bool flag)
  int {number : Int} (fits : Value.fitsLimit number = true) : Holds (.int number)
  float {number : Binary64} (normal : number.IsNormal) : Holds (.float number)
  text (characters : String) : Holds (.text characters)
  list {items : List Value} (each : ∀ item ∈ items, Holds item) : Holds (.list items)
  record {entries : List (Value × Value)}
    (each : ∀ entry ∈ entries, (∃ name, entry.1 = .text name) ∧ Holds entry.2) :
    Holds (.record (Record.ofEntries entries))

theorem isInductive_isJson : IsInductive Value.IsJson where
  null := .null
  bool := .bool
  int := .int
  float {number} _ := .float number
  text := .text
  list := .list
  record := .ofEntries

theorem isInductive_isSound : IsInductive Value.IsSound where
  null := .null
  bool := .bool
  int {number} _ := .int number
  float := .float
  text := .text
  list := .list
  record each := .ofEntries fun entry member => by
    obtain ⟨⟨name, named⟩, sound⟩ := each entry member
    exact ⟨named ▸ .text name, sound⟩

section Reading

variable {Holds : Value → Prop}

theorem holds_of_readWord? (inductively : IsInductive Holds) {characters left : List Char}
    {value : Value} (read : readWord? characters = some (value, left)) : Holds value := by
  unfold readWord? at read
  obtain ⟨⟨word, meant⟩, member, found⟩ := List.exists_of_findSome?_eq_some read
  obtain ⟨_, same⟩ := Option.ite_none_right_eq_some.mp found
  cases same
  simp only [words, List.mem_cons, Prod.mk.injEq, List.not_mem_nil, or_false] at member
  rcases member with ⟨_, rfl⟩ | ⟨_, rfl⟩ | ⟨_, rfl⟩ | ⟨_, rfl⟩ | ⟨_, rfl⟩ | ⟨_, rfl⟩
  · exact inductively.null
  · exact inductively.bool true
  · exact inductively.bool false
  · exact inductively.float .nan
  · exact inductively.float (.infinite false)
  · exact inductively.float (.infinite true)

theorem holds_of_readNumber (inductively : IsInductive Holds) {characters left : List Char}
    {value : Value} (read : readNumber characters = .ok (value, left)) : Holds value := by
  unfold readNumber at read
  dsimp only at read
  -- The two cases of the sign come to the same.
  split at read
  all_goals
    split at read
    · cases read
    · split at read
      · split at read
        · rename_i integer
          cases read
          exact inductively.int (Numeral.fitsLimit_of_readInteger integer)
        · cases read
      · cases read
        refine inductively.float ?_
        cases found : Numeral.readNumber? _ with
        | none => exact .nan
        | some number => exact Numeral.isNormal_of_readNumber? found

mutual

/-- **Whatever is read has every property that is kept by lists and records**, down to its
innermost parts. -/
theorem holds_of_readValue (inductively : IsInductive Holds) : (fuel : Nat) →
    {characters left : List Char} → {value : Value} →
    readValue fuel characters = .ok (value, left) → Holds value
  | 0, _, _, _, read => by cases read
  | fuel + 1, _, _, _, read => by
    unfold readValue at read
    split at read
    · obtain ⟨content, _, rest⟩ := bind_eq_ok_iff.mp read
      cases rest
      exact inductively.text _
    · split at read
      · cases read
        exact inductively.list (by simp)
      · obtain ⟨⟨values, _⟩, items, rest⟩ := bind_eq_ok_iff.mp read
        cases rest
        exact inductively.list (holds_of_readItems inductively fuel items)
    · split at read
      · cases read
        have none : ∀ entry ∈ ([] : List (Value × Value)),
            (∃ name, entry.1 = .text name) ∧ Holds entry.2 := by simp
        exact inductively.record none
      · obtain ⟨⟨entries, _⟩, members, rest⟩ := bind_eq_ok_iff.mp read
        cases rest
        exact inductively.record (holds_of_readMembers inductively fuel members)
    · split at read
      · rename_i word
        cases read
        exact holds_of_readWord? inductively word
      · exact holds_of_readNumber inductively read

theorem holds_of_readItems (inductively : IsInductive Holds) : (fuel : Nat) →
    {characters left : List Char} → {values : List Value} →
    readItems fuel characters = .ok (values, left) →
    ∀ value ∈ values, Holds value
  | 0, _, _, _, read => by cases read
  | fuel + 1, _, _, _, read => by
    unfold readItems at read
    obtain ⟨⟨value, _⟩, first, rest⟩ := bind_eq_ok_iff.mp read
    have said := holds_of_readValue inductively fuel first
    dsimp only at rest
    split at rest
    · cases rest
      simpa using said
    · obtain ⟨⟨values, _⟩, later, built⟩ := bind_eq_ok_iff.mp rest
      cases built
      exact List.forall_mem_cons.mpr ⟨said, holds_of_readItems inductively fuel later⟩
    · cases rest

theorem holds_of_readMembers (inductively : IsInductive Holds) : (fuel : Nat) →
    {characters left : List Char} → {entries : List (Value × Value)} →
    readMembers fuel characters = .ok (entries, left) →
    ∀ entry ∈ entries, (∃ name, entry.1 = .text name) ∧ Holds entry.2
  | 0, _, _, _, read => by cases read
  | fuel + 1, _, _, _, read => by
    unfold readMembers at read
    split at read
    · obtain ⟨⟨name, _⟩, _, rest⟩ := bind_eq_ok_iff.mp read
      dsimp only at rest
      split at rest
      · obtain ⟨⟨value, _⟩, first, rest⟩ := bind_eq_ok_iff.mp rest
        have said := holds_of_readValue inductively fuel first
        dsimp only at rest
        split at rest
        · cases rest
          simpa using said
        · obtain ⟨⟨entries, _⟩, later, built⟩ := bind_eq_ok_iff.mp rest
          cases built
          exact List.forall_mem_cons.mpr
            ⟨⟨⟨_, rfl⟩, said⟩, holds_of_readMembers inductively fuel later⟩
        · cases rest
      · cases rest
    · cases read

end

theorem holds_of_read (inductively : IsInductive Holds) {text : String} {value : Value}
    (read : Json.read text = .ok value) :
    Holds value := by
  unfold Json.read readCharacters at read
  split at read
  · cases read
  · obtain ⟨⟨value, _⟩, first, rest⟩ := bind_eq_ok_iff.mp read
    dsimp only at rest
    split at rest
    · cases rest
      exact holds_of_readValue inductively _ first
    · cases rest

end Reading

/-- **Whatever is read is something that JSON can say.** -/
theorem isJson_of_read {text : String} {value : Value} (read : Json.read text = .ok value) :
    value.IsJson :=
  holds_of_read isInductive_isJson read

theorem isSound_of_read {text : String} {value : Value} (read : Json.read text = .ok value) :
    value.IsSound :=
  holds_of_read isInductive_isSound read

end Json

end GuestFlow
