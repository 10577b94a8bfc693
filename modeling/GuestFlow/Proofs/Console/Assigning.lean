import GuestFlow.Console.Assignments
import GuestFlow.Proofs.Record
import GuestFlow.Proofs.Yaml.Failure
import Mathlib.Data.List.Induction
import Mathlib.Data.List.TakeWhile

/-!
# What a line of assignments says

Every word of the line assigns the text behind its first equals sign to the key before it
(`Assigns`), and the text means its value as YAML, or itself where it is no YAML (`Means`).  A word
without an equals sign is refused, and so is one whose text is YAML up to a scalar that has no
value, such as a day that is not in the calendar (`Refuses`).

A line of which no word is refused describes a record in which each key has what its last word
means; any other line fails as its first refused word does (`assignments_fail_over_scalars`).
That well-formed YAML can be refused is more than the prompt expects: only what is malformed
falls back to the text itself.
-/

set_option autoImplicit false

namespace GuestFlow.Console

/-! ## One word -/

/-- The word has its first equals sign between the key and the text. -/
structure Assigns (word key text : String) : Prop where
  spelled : word.toList = key.toList ++ '=' :: text.toList
  isFirst : '=' ∉ key.toList

/-- What the text behind an equals sign means. -/
inductive Means : String → Value → Prop where
  | nothing : Means "" (.text "")
  | value {text : String} {value : Value} (isSome : text ≠ "")
      (read : Yaml.read text = .ok value) : Means text value
  | itself {text : String} (malformed : Yaml.read text = .error .malformed) :
      Means text (.text text)

/-- The word cannot be taken, and the fault says why. -/
inductive Refuses (word : String) : Fault → Prop where
  | noSign (missing : '=' ∉ word.toList) :
      Refuses word (.badParameter ("Expected key=value, got '" ++ word ++ "'"))
  | noValue {key text : String} {fault : Fault} (assigns : Assigns word key text)
      (read : Yaml.read text = .error (.fault fault)) : Refuses word fault

theorem read_empty : Yaml.read "" = .ok .null := by decide +kernel

theorem assignedValue_eq_ok_iff {text : String} {value : Value} :
    assignedValue text = .ok value ↔ Means text value := by
  constructor
  · intro assigned
    unfold assignedValue at assigned
    split at assigned
    case isTrue empty =>
      cases assigned
      exact empty ▸ .nothing
    case isFalse isSome =>
      split at assigned
      case h_1 read =>
        cases assigned
        exact .value isSome read
      case h_2 malformed =>
        cases assigned
        exact .itself malformed
      case h_3 => cases assigned
  · intro meant
    cases meant with
    | nothing => rfl
    | value isSome read => simp [assignedValue, isSome, read]
    | itself malformed =>
        have isSome : text ≠ "" := by
          rintro rfl
          cases read_empty.symm.trans malformed
        simp [assignedValue, isSome, malformed]

theorem assignedValue_eq_error_iff {text : String} {fault : Fault} :
    assignedValue text = .error fault ↔ Yaml.read text = .error (.fault fault) := by
  unfold assignedValue
  split
  case isTrue empty => simp [empty, read_empty]
  case isFalse => split <;> simp [*]

section Word

variable {word key text : String} (assigns : Assigns word key text)
include assigns

theorem Assigns.noSign : ∀ character ∈ key.toList, (character != '=') = true :=
  fun _ member => bne_iff_ne.mpr fun same => assigns.isFirst (same ▸ member)

theorem Assigns.takeWhile_eq : word.toList.takeWhile (· != '=') = key.toList := by
  rw [assigns.spelled, List.takeWhile_append_of_pos assigns.noSign]
  simp

theorem Assigns.dropWhile_eq : word.toList.dropWhile (· != '=') = '=' :: text.toList := by
  rw [assigns.spelled, List.dropWhile_append_of_pos assigns.noSign]
  simp

theorem Assigns.assign_eq (record : Record) : assign record word =
    (assignedValue text).map fun value => record.insert (.text key) value := by
  simp only [assign, assigns.takeWhile_eq, assigns.dropWhile_eq, String.ofList_toList]
  cases assignedValue text <;> rfl

/-- A word assigns one text to one key. -/
theorem Assigns.unique {key' text' : String} (again : Assigns word key' text') :
    key = key' ∧ text = text' := by
  have keys := assigns.takeWhile_eq.symm.trans again.takeWhile_eq
  have texts := assigns.dropWhile_eq.symm.trans again.dropWhile_eq
  exact ⟨String.toList_inj.mp keys, String.toList_inj.mp (List.cons.inj texts).2⟩

end Word

/-- A word assigns something exactly if it has an equals sign. -/
theorem exists_assigns_iff {word : String} :
    (∃ key text, Assigns word key text) ↔ '=' ∈ word.toList := by
  constructor
  · rintro ⟨key, text, assigns⟩
    simp [assigns.spelled]
  · intro member
    obtain ⟨before, after, split, isFirst⟩ := List.eq_append_cons_of_mem member
    exact ⟨String.ofList before, String.ofList after, by simpa using split, by simpa using isFirst⟩

theorem assign_of_missing {word : String} (missing : '=' ∉ word.toList) (record : Record) :
    assign record word = .error (.badParameter ("Expected key=value, got '" ++ word ++ "'")) := by
  have nothing : word.toList.dropWhile (· != '=') = [] := by
    rw [List.dropWhile_eq_nil_iff]
    exact fun character member => bne_iff_ne.mpr fun same => missing (same ▸ member)
  simp only [assign, nothing]

theorem assign_eq_ok_iff {record later : Record} {word : String} :
    assign record word = .ok later ↔ ∃ key text value, Assigns word key text ∧
      Means text value ∧ later = record.insert (.text key) value := by
  constructor
  · intro assigned
    by_cases member : '=' ∈ word.toList
    · obtain ⟨key, text, assigns⟩ := exists_assigns_iff.mpr member
      rw [assigns.assign_eq, map_eq_ok_iff] at assigned
      obtain ⟨value, read, rfl⟩ := assigned
      exact ⟨key, text, value, assigns, assignedValue_eq_ok_iff.mp read, rfl⟩
    · rw [assign_of_missing member] at assigned
      cases assigned
  · rintro ⟨key, text, value, assigns, meant, rfl⟩
    rw [assigns.assign_eq, assignedValue_eq_ok_iff.mpr meant]
    rfl

theorem assign_eq_error_iff {record : Record} {word : String} {fault : Fault} :
    assign record word = .error fault ↔ Refuses word fault := by
  constructor
  · intro failed
    by_cases member : '=' ∈ word.toList
    · obtain ⟨key, text, assigns⟩ := exists_assigns_iff.mpr member
      rw [assigns.assign_eq, map_eq_error_iff, assignedValue_eq_error_iff] at failed
      exact .noValue assigns failed
    · rw [assign_of_missing member] at failed
      cases failed
      exact .noSign member
  · intro refuses
    cases refuses with
    | noSign missing => exact assign_of_missing missing record
    | noValue assigns read =>
        rw [assigns.assign_eq, map_eq_error_iff, assignedValue_eq_error_iff]
        exact read

/-- A word with an equals sign is refused only over a scalar that has no value. -/
theorem Refuses.isOfScalar {word : String} {fault : Fault} (refuses : Refuses word fault)
    (member : '=' ∈ word.toList) : fault.isOfScalar = true := by
  cases refuses with
  | noSign missing => exact absurd member missing
  | noValue assigns read =>
      exact (read ▸ Yaml.read_sound _ : Yaml.Gives Value.IsSound _).of_error

/-- The fault of a missing sign is that of no scalar. -/
theorem Refuses.badParameter_iff {word : String} {fault : Fault} (refuses : Refuses word fault) :
    (∃ text, fault = .badParameter text) ↔ '=' ∉ word.toList := by
  constructor
  · rintro ⟨text, rfl⟩ member
    cases refuses.isOfScalar member
  · intro missing
    cases refuses with
    | noSign => exact ⟨_, rfl⟩
    | noValue assigns _ => exact absurd (exists_assigns_iff.mp ⟨_, _, assigns⟩) missing

/-! ## Word by word -/

/-- The last of the words that assign anything to the key assigns the text. -/
def AssignsLast (words : List String) (key text : String) : Prop :=
  ∃ before word after, words = before ++ word :: after ∧ Assigns word key text ∧
    ∀ later ∈ after, ∀ other, ¬ Assigns later key other

/-- The record has the keys of the words, each of them with what its last word means. -/
structure Describes (words : List String) (record : Record) : Prop where
  textual : record.IsTextual
  mem_keys_iff : ∀ key : String,
    .text key ∈ record.keys ↔ ∃ word ∈ words, ∃ text, Assigns word key text
  get?_iff : ∀ key value, record.get? (.text key) = some value ↔
    ∃ text, AssignsLast words key text ∧ Means text value

/-- The fault is the one that the first refused word is refused for. -/
def RefusesFirst (words : List String) (fault : Fault) : Prop :=
  ∃ before word after, words = before ++ word :: after ∧
    (∀ earlier ∈ before, ∀ other, ¬ Refuses earlier other) ∧ Refuses word fault

/-- Another word has the last say about its own key and none about the others. -/
theorem assignsLast_snoc_iff {words : List String} {word key text : String} :
    AssignsLast (words ++ [word]) key text ↔
      Assigns word key text ∨ AssignsLast words key text ∧ ∀ other, ¬ Assigns word key other := by
  constructor
  · rintro ⟨before, last, after, split, assigns, silent⟩
    rcases List.eq_nil_or_concat' after with rfl | ⟨between, final, rfl⟩
    · obtain ⟨-, same⟩ := List.append_inj' split rfl
      cases same
      exact .inl assigns
    · rw [← List.cons_append, ← List.append_assoc] at split
      obtain ⟨rfl, same⟩ := List.append_inj' split rfl
      cases same
      rw [List.forall_mem_append] at silent
      exact .inr ⟨⟨before, last, between, rfl, assigns, silent.1⟩, silent.2 word (by simp)⟩
  · rintro (assigns | ⟨⟨before, last, after, rfl, assigns, silent⟩, silentThere⟩)
    · exact ⟨words, word, [], rfl, assigns, fun _ member => nomatch member⟩
    · refine ⟨before, last, after ++ [word], by simp, assigns, ?_⟩
      rw [List.forall_mem_append]
      exact ⟨silent, by simpa using silentThere⟩

/-- One more word sets its key. -/
theorem Describes.snoc {words : List String} {record : Record} (describes : Describes words record)
    {word key text : String} (assigns : Assigns word key text) {value : Value}
    (meant : Means text value) :
    Describes (words ++ [word]) (record.insert (.text key) value) where
  textual := describes.textual.insert key value
  mem_keys_iff other := by
    rw [Record.mem_keys_insert_text, describes.mem_keys_iff]
    simp only [List.mem_append, List.mem_singleton, or_and_right, exists_or, exists_eq_left]
    refine or_congr_right ⟨?_, ?_⟩
    · intro same
      cases same
      exact ⟨text, assigns⟩
    · rintro ⟨_, again⟩
      rw [(again.unique assigns).1]
  get?_iff other found := by
    by_cases same : other = key
    · subst same
      have counts := (Value.sameKey_text (.text other) other).mpr rfl
      have last : ∀ behind, AssignsLast (words ++ [word]) other behind ↔ behind = text := by
        intro behind
        rw [assignsLast_snoc_iff]
        constructor
        · rintro (again | ⟨-, silent⟩)
          · exact (again.unique assigns).2
          · exact absurd assigns (silent text)
        · rintro rfl
          exact .inl assigns
      simp only [Record.get?_insert_self counts, last, exists_eq_left, Option.some.injEq]
      rw [← assignedValue_eq_ok_iff, assignedValue_eq_ok_iff.mpr meant, Except.ok.injEq]
    · have differ : (Value.text other).sameKey (.text key) = false := by
        rw [Bool.eq_false_iff, ne_eq, Value.sameKey_text, Value.text.injEq]
        exact same
      have silent : ∀ behind, ¬ Assigns word other behind := fun behind again =>
        same (again.unique assigns).1
      simp only [Record.get?_insert_of_ne differ, describes.get?_iff, assignsLast_snoc_iff, silent,
        false_or, not_false_eq_true, implies_true, and_true]

/-- What reading the words from left to right describes; the last word is the last step. -/
theorem describes_of_foldlM {words : List String} {record : Record}
    (read : words.foldlM assign [] = .ok record) : Describes words record := by
  induction words using List.reverseRecOn generalizing record with
  | nil =>
      cases read
      exact ⟨⟨by simp [Record.keys], List.nodup_nil⟩, by simp [Record.keys],
        by simp [Record.get?_nil, AssignsLast]⟩
  | append_singleton words word ih =>
      rw [List.foldlM_append] at read
      obtain ⟨earlier, before, last⟩ := bind_eq_ok_iff.mp read
      obtain ⟨later, there, same⟩ := bind_eq_ok_iff.mp last
      cases same
      obtain ⟨key, text, value, assigns, meant, rfl⟩ := assign_eq_ok_iff.mp there
      exact (ih before).snoc assigns meant

/-- Reading stops at the first refused word, whatever was read before it. -/
theorem foldlM_assign_eq_error_iff {words : List String} {record : Record} {fault : Fault} :
    words.foldlM assign record = .error fault ↔ RefusesFirst words fault := by
  induction words generalizing record with
  | nil => simp [RefusesFirst, pure, Except.pure]
  | cons word rest ih =>
      rw [List.foldlM_cons, bind_eq_error_iff, assign_eq_error_iff]
      constructor
      · rintro (refuses | ⟨later, there, failed⟩)
        · exact ⟨[], word, rest, rfl, by simp, refuses⟩
        · obtain ⟨before, refused, after, rfl, fine, refuses⟩ := ih.mp failed
          refine ⟨word :: before, refused, after, rfl, ?_, refuses⟩
          rw [List.forall_mem_cons]
          refine ⟨fun other first => ?_, fine⟩
          cases there.symm.trans (assign_eq_error_iff.mpr first)
      · rintro ⟨before, refused, after, split, fine, refuses⟩
        cases before with
        | nil =>
            cases split
            exact .inl refuses
        | cons _ before =>
            cases split
            rw [List.forall_mem_cons] at fine
            cases there : assign record word with
            | error other => exact absurd (assign_eq_error_iff.mp there) (fine.1 other)
            | ok later =>
                exact .inr ⟨later, rfl, ih.mpr ⟨before, refused, after, rfl, fine.2, refuses⟩⟩

/-- Of several words one is the first that is refused, if any is. -/
theorem exists_refusesFirst_iff {words : List String} :
    (∃ fault, RefusesFirst words fault) ↔ ∃ word ∈ words, ∃ fault, Refuses word fault := by
  constructor
  · rintro ⟨fault, before, word, after, rfl, -, refuses⟩
    exact ⟨word, by simp, fault, refuses⟩
  · rintro ⟨word, member, fault, refuses⟩
    classical
    have there : (words.find? fun word => decide (∃ fault, Refuses word fault)).isSome :=
      List.find?_isSome.mpr ⟨word, member, decide_eq_true ⟨fault, refuses⟩⟩
    obtain ⟨first, found⟩ := Option.isSome_iff_exists.mp there
    obtain ⟨refused, before, after, split, fine⟩ := List.find?_eq_some_iff_append.mp found
    obtain ⟨other, refuses⟩ := of_decide_eq_true refused
    refine ⟨other, before, first, after, split, fun earlier inside other again => ?_, refuses⟩
    have passed := fine earlier inside
    rw [decide_eq_true ⟨other, again⟩] at passed
    cases passed

/-! ## A line -/

/-- **A line of assignments fails exactly as its first refused word**, and a word with an equals
sign is refused only over a scalar without a value; any other line describes the record of what its
words mean. -/
theorem assignments_fail_over_scalars (line : String) :
    ((∃ record, parseAssignments line = .ok record) ↔
      ∀ word ∈ Blank.words line, ∀ fault, ¬ Refuses word fault) ∧
    (∀ record, parseAssignments line = .ok record → Describes (Blank.words line) record) ∧
    (∀ fault, parseAssignments line = .error fault ↔ RefusesFirst (Blank.words line) fault) ∧
    ∀ word fault, Refuses word fault →
      ((∃ text, fault = .badParameter text) ↔ '=' ∉ word.toList) ∧
      ('=' ∈ word.toList → fault.isOfScalar = true) := by
  refine ⟨?_, fun record => describes_of_foldlM, fun fault => foldlM_assign_eq_error_iff,
    fun word fault refuses => ⟨refuses.badParameter_iff, refuses.isOfScalar⟩⟩
  have fails : (∃ fault, parseAssignments line = .error fault) ↔
      ∃ word ∈ Blank.words line, ∃ fault, Refuses word fault := by
    rw [← exists_refusesFirst_iff]
    exact exists_congr fun fault => foldlM_assign_eq_error_iff
  cases parsed : parseAssignments line with
  | ok record =>
      refine iff_of_true ⟨record, rfl⟩ fun word member fault refuses => ?_
      obtain ⟨other, failed⟩ := fails.mpr ⟨word, member, fault, refuses⟩
      cases parsed.symm.trans failed
  | error fault =>
      refine iff_of_false (by simp) fun fine => ?_
      obtain ⟨word, member, other, refuses⟩ := fails.mp ⟨fault, parsed⟩
      exact fine word member other refuses

/-- A key that comes again has its last text, nothing means no text, and what is no YAML means
itself. -/
theorem copies_described : ∃ record,
    parseAssignments "copies=3 wish=[ copies=" = .ok record ∧
      Describes ["copies=3", "wish=[", "copies="] record :=
  have read : parseAssignments "copies=3 wish=[ copies=" =
      .ok [(.text "copies", .text ""), (.text "wish", .text "[")] := by decide +kernel
  have words : Blank.words "copies=3 wish=[ copies=" = ["copies=3", "wish=[", "copies="] := by
    decide +kernel
  ⟨_, read, words ▸ (assignments_fail_over_scalars "copies=3 wish=[ copies=").2.1 _ read⟩

/-- The thirtieth of February is assigned with an equals sign, and yet it is refused. -/
theorem impossible_day_refused :
    (∀ word ∈ Blank.words "day=2024-02-30", '=' ∈ word.toList) ∧
      parseAssignments "day=2024-02-30" = .error (.calendar .day) := by
  decide +kernel

end GuestFlow.Console
