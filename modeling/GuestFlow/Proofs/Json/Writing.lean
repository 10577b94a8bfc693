import GuestFlow.Proofs.Number.Text

/-!
# What is written on the page

The text of a value on the page is read as that value (`Json.writes_of_write`), if JSON can say the
value and the value is sound: every character comes out of its escape, every number out of its
numeral, and every member is found again in its place.  A text holds no carriage return, so it
stands in a file as it is.

More values can be written than JSON can say.  A tuple is written as a list is, and a key that is
a number, a truth value or nothing as its text; `Json.exists_write_iff` tells which values are
written at all (`Value.IsPrintable`).
-/

set_option autoImplicit false

namespace GuestFlow

namespace Json

open Script (Escape Code Figure Gap Whole)

/-! ## Strings -/

/-- A control has four digits that write its number. -/
theorem exists_code {number : Nat} (control : number < 0x20) :
    ∃ code : Code, code.digits = Quoted.hex 4 number ∧ code.number = number ∧
      '\r' ∉ code.digits := by
  have table : ∀ number < 0x20,
      Quoted.hex 4 number =
        ['0', '0', Nat.digitChar (number / 0x10), Nat.digitChar (number % 0x10)] ∧
      fourDigits? '0' '0' (Nat.digitChar (number / 0x10)) (Nat.digitChar (number % 0x10)) =
        some number ∧
      '\r' ∉ Quoted.hex 4 number := by decide +kernel
  obtain ⟨digits, written, noReturn⟩ := table number control
  refine ⟨⟨'0', '0', _, _, number, written, ?_⟩, digits.symm, rfl, digits ▸ noReturn⟩
  simp only [isHighHalf, isLowHalf, Bool.and_eq_false_iff, decide_eq_false_iff_not]
  omega

/-- A character is written with an escape of its own, with its number, or as it stands. -/
theorem escapeChar_cases (character : Char) :
    (∃ escape : Escape, escapeChar character = ['\\', escape.mark] ∧ escape.meaning = character) ∨
    (∃ code : Code, escapeChar character = '\\' :: 'u' :: code.digits ∧
      Char.ofNat code.number = character ∧ '\r' ∉ code.digits) ∨
    (escapeChar character = [character] ∧ character ≠ '"' ∧ character ≠ '\\' ∧
      0x20 ≤ character.toNat) := by
  unfold escapeChar
  split
  · exact .inl ⟨.quote, rfl, rfl⟩
  · exact .inl ⟨.backslash, rfl, rfl⟩
  · exact .inl ⟨.lineFeed, rfl, rfl⟩
  · exact .inl ⟨.carriageReturn, rfl, rfl⟩
  · exact .inl ⟨.tab, rfl, rfl⟩
  · exact .inl ⟨.backspace, rfl, rfl⟩
  · exact .inl ⟨.formFeed, rfl, rfl⟩
  · rename_i noQuote noBackslash _ _ _ _ _
    split
    · rename_i control
      obtain ⟨code, digits, number, noReturn⟩ := exists_code control
      exact .inr (.inl ⟨code, digits ▸ rfl, by rw [number, Char.ofNat_toNat], noReturn⟩)
    · rename_i printable
      exact .inr (.inr ⟨rfl, noQuote, noBackslash, Nat.le_of_not_lt printable⟩)

/-- The reader takes a written character for the character; behind it something follows, if only
the closing quote. -/
theorem readString_escapeChar (start : List Char) (character next : Char) (rest : List Char) :
    readString start none (escapeChar character ++ next :: rest) =
      prepend [character] (readString start none (next :: rest)) := by
  rcases escapeChar_cases character with
    ⟨escape, written, rfl⟩ | ⟨code, written, rfl, -⟩ | ⟨written, noQuote, noBackslash, printable⟩
  · rw [written]
    exact Script.readString_escaped start escape _
  · rw [written]
    exact Script.readString_numbered start code next rest
  · rw [written]
    exact Script.readString_raw start noQuote noBackslash printable _

theorem readString_flatMap (start characters rest : List Char) :
    readString start none (characters.flatMap escapeChar ++ '"' :: rest) =
      .ok (characters, rest) := by
  induction characters with
  | nil => rfl
  | cons character later ih =>
      obtain ⟨next, behind, written⟩ :
          ∃ next behind, later.flatMap escapeChar ++ '"' :: rest = next :: behind := by
        cases later.flatMap escapeChar with
        | nil => exact ⟨_, _, rfl⟩
        | cons next behind => exact ⟨_, _, rfl⟩
      rw [List.flatMap_cons, List.append_assoc]
      rw [written] at ih ⊢
      rw [readString_escapeChar, ih]
      rfl

theorem noReturn_escapeChar (character : Char) : '\r' ∉ escapeChar character := by
  rcases escapeChar_cases character with
    ⟨escape, written, -⟩ | ⟨code, written, -, noReturn⟩ | ⟨written, -, -, printable⟩
  · rw [written]
    cases escape <;> decide
  · rw [written]
    simpa using noReturn
  · rw [written, List.mem_singleton]
    rintro rfl
    exact absurd printable (by decide)

/-- A text between quotes is read as the text. -/
theorem quotes_stringText (text : String) : Quotes (stringText text).toList text.toList := by
  refine ⟨text.toList.flatMap escapeChar ++ ['"'], ?_, fun start rest => ?_⟩
  · rw [stringText, String.toList_ofList]
    rfl
  · rw [List.append_assoc]
    exact readString_flatMap start text.toList rest

/-! ## Written values -/

/-- A text is read as a value, and stands in a file as it is. -/
structure Writes (text : String) (value : Value) : Prop where
  spells : Spells text.toList value
  noReturn : '\r' ∉ text.toList

theorem writes_stringText (text : String) : Writes (stringText text) (.text text) where
  spells := by
    have spells := (quotes_stringText text).spells
    rwa [String.ofList_toList] at spells
  noReturn := by
    have inside : '\r' ∉ text.toList.flatMap escapeChar := by
      rw [List.mem_flatMap]
      rintro ⟨character, -, member⟩
      exact noReturn_escapeChar character member
    rw [stringText, String.toList_ofList]
    simp [inside]

/-- An integer that fits has a figure. -/
theorem exists_figure {number : Int} (fits : Value.fitsLimit number = true) :
    ∃ figure : Figure, (toString number).toList = figure.characters ∧
      figure.value = .int number := by
  have small := Value.fitsLimit_iff.mp fits
  -- The limit is given another name, so that its power is not computed.
  obtain ⟨limit, same_limit⟩ : ∃ limit, limit = Value.digitLimit := ⟨_, rfl⟩
  rw [← same_limit] at small
  have same := Numeral.digitsValue_toDigits number.natAbs
  have noLeadingZero : Nat.toDigits 10 number.natAbs = ['0'] ∨
      (Nat.toDigits 10 number.natAbs).head? ≠ some '0' := by
    rcases Nat.eq_zero_or_pos number.natAbs with nothing | positive
    · rw [nothing]
      exact .inl rfl
    · exact .inr (Numeral.head?_toDigits positive)
  have few : (Nat.toDigits 10 number.natAbs).length ≤ Numeral.digitLimit := by
    rcases Nat.eq_zero_or_pos number.natAbs with nothing | positive
    · rw [nothing]
      decide
    · have bounds := (Binary64.toDigits_bounds positive).1
      have less := (Nat.pow_lt_pow_iff_right (by decide)).mp (Nat.lt_of_le_of_lt bounds small)
      rw [show Numeral.digitLimit = limit from same_limit.symm]
      omega
  refine ⟨.integer (decide (number < 0)) ⟨Numeral.digitsOf number.natAbs, noLeadingZero⟩ few,
    ?_, ?_⟩
  · rw [Numeral.toString_eq, String.toList_ofList]
    rfl
  · simp only [Figure.value, Numeral.digitsOf, same, decide_eq_true_eq]
    split
    · congr 1
      omega
    · congr 1
      omega

section Marks

variable {characters : List Char}
  (marks : ∀ character ∈ characters, Numeral.isMark character = true)

include marks

theorem noReturn_of_areMarks : '\r' ∉ characters := by
  intro member
  cases marks _ member

theorem begins_of_areMarks (nonempty : characters ≠ []) :
    ∃ first later, characters = first :: later ∧ isSpace first = false ∧ first ≠ ']' := by
  obtain ⟨first, later, rfl⟩ := List.exists_cons_of_ne_nil nonempty
  have mark := marks first (List.mem_cons_self ..)
  refine ⟨first, later, rfl, Bool.eq_false_iff.mpr fun space => ?_, ?_⟩
  · simp only [isSpace, Bool.or_eq_true, beq_iff_eq] at space
    rcases space with ((rfl | rfl) | rfl) | rfl <;> cases mark
  · rintro rfl
    cases mark

end Marks

theorem writes_int {number : Int} (fits : Value.fitsLimit number = true) :
    Writes (toString number) (.int number) := by
  obtain ⟨figure, written, value⟩ := exists_figure fits
  have spells := Script.spells_number figure
  rw [Script.characters_number] at spells
  constructor
  · rw [written, ← value]
    exact spells
  · rw [written]
    exact noReturn_of_areMarks figure.areMarks

theorem writes_numberText {number : Binary64} (normal : number.IsNormal) :
    Writes (numberText number) (.float number) := by
  have reads (fuel : Nat) (rest : List Char) (ends : Script.Ends rest) :
      readValue (fuel + 1) ((numberText number).toList ++ rest) = .ok (.float number, rest) :=
    readValue_numberText normal fuel ends
  cases number with
  | nan => exact ⟨.of_scalar ⟨_, _, rfl, by decide⟩ reads, by decide⟩
  | infinite negative =>
      cases negative
      · exact ⟨.of_scalar ⟨_, _, rfl, by decide⟩ reads, by decide⟩
      · exact ⟨.of_scalar ⟨_, _, rfl, by decide⟩ reads, by decide⟩
  | finite negative significand exponent =>
      obtain ⟨decimal, written, -⟩ := Binary64.exists_magnitude Binary64.Layout.json normal
      have marks := List.forall_mem_append.mpr ⟨Figure.areMarks_sign negative, decimal.areMarks⟩
      obtain ⟨whole, behind, begins⟩ := decimal.exists_whole
      have written : (numberText (.finite negative significand exponent)).toList =
          Figure.sign negative ++ decimal.characters := written
      rw [← written] at marks
      refine ⟨.of_scalar (begins_of_areMarks marks ?_) reads, noReturn_of_areMarks marks⟩
      simp [written, begins, whole.nonempty]

/-! ## Arrays and objects -/

/-- The line break and the indentation of a level. -/
def indentation (level : Nat) : Gap := .lineFeed :: List.replicate (2 * level) .space

theorem toList_lineBreak (level : Nat) :
    (lineBreak .page level).toList = (indentation level).characters := by
  simp [lineBreak, Style.page, indentation, Gap.characters, Script.Blank.character]

theorem noReturn_indentation (level : Nat) : '\r' ∉ (indentation level).characters := by
  simp [indentation, Gap.characters, Script.Blank.character]

/-- What stands behind the first part: the others, each behind a comma and on a line of its own,
and the closing bracket. -/
def following (level : Nat) (closing : String) : List String → List Char
  | [] => (indentation level).characters ++ closing.toList
  | text :: texts =>
    ',' :: ((indentation (level + 1)).characters ++
      (text.toList ++ following level closing texts))

theorem toList_bracketed_nil (level : Nat) (opening closing : String) :
    (bracketed .page level opening closing []).toList = opening.toList ++ closing.toList := by
  simp [bracketed]

theorem toList_bracketed_cons (level : Nat) (opening closing first : String) (texts : List String) :
    (bracketed .page level opening closing (first :: texts)).toList =
      opening.toList ++ ((indentation (level + 1)).characters ++
        (first.toList ++ following level closing texts)) := by
  have joined : (String.intercalate ("," ++ lineBreak .page (level + 1)) (first :: texts)).toList ++
      ((indentation level).characters ++ closing.toList) =
        first.toList ++ following level closing texts := by
    induction texts generalizing first with
    | nil => simp [following]
    | cons text texts ih =>
        rw [following, ← ih]
        simp [toList_lineBreak]
  have page : Style.page.isPage = true := rfl
  rw [← joined]
  simp only [bracketed, List.isEmpty_cons, Bool.false_eq_true, if_false, page, if_true,
    String.toList_append, toList_lineBreak, List.append_assoc]

section Parts

variable {level : Nat} {texts : List String}

theorem noReturn_following {closing : String} (closed : '\r' ∉ closing.toList)
    (each : ∀ text ∈ texts, '\r' ∉ text.toList) : '\r' ∉ following level closing texts := by
  induction texts with
  | nil => simp [following, noReturn_indentation, closed]
  | cons text texts ih =>
      obtain ⟨first, later⟩ := List.forall_mem_cons.mp each
      simp [following, noReturn_indentation, first, ih later]

theorem noReturn_bracketed {opening closing : String} (opened : '\r' ∉ opening.toList)
    (closed : '\r' ∉ closing.toList) (each : ∀ text ∈ texts, '\r' ∉ text.toList) :
    '\r' ∉ (bracketed .page level opening closing texts).toList := by
  cases texts with
  | nil => simp [bracketed, opened, closed]
  | cons first texts =>
      obtain ⟨ofFirst, later⟩ := List.forall_mem_cons.mp each
      rw [toList_bracketed_cons]
      simp [opened, noReturn_indentation, ofFirst, noReturn_following closed later]

theorem itemsBehind_following {values : List Value}
    (each : List.Forall₂ Writes texts values) : ItemsBehind (following level "]" texts) values := by
  induction each with
  | nil => exact .close (indentation level)
  | cons writes _ ih => exact .next [] (indentation (level + 1)) writes.spells ih

/-- Items between brackets are read as the list of them. -/
theorem writes_list {values : List Value} (each : List.Forall₂ Writes texts values) :
    Writes (bracketed .page level "[" "]" texts) (.list values) where
  spells := by
    cases each with
    | nil =>
        rw [toList_bracketed_nil]
        exact .emptyArray []
    | cons writes later =>
        rw [toList_bracketed_cons]
        exact .array (indentation (level + 1)) writes.spells (itemsBehind_following later)
  noReturn := by
    have both := each.imp fun _ _ writes => And.intro writes.noReturn writes
    exact noReturn_bracketed (by decide) (by decide) ((List.forall₂_and_left _ _).mp both).1

/-- A text is read as a member of an object. -/
structure WritesMember (text : String) (entry : Value × Value) : Prop where
  isMember : IsMember text.toList entry
  noReturn : '\r' ∉ text.toList

theorem writesMember (name : String) {text : String} {value : Value} (writes : Writes text value) :
    WritesMember (stringText name ++ ": " ++ text) (.text name, value) where
  isMember := by
    have member := IsMember.intro [] [.space] (quotes_stringText name) writes.spells
    rw [String.ofList_toList] at member
    rw [String.toList_append, String.toList_append, List.append_assoc]
    exact member
  noReturn := by
    have ofName := (writes_stringText name).noReturn
    simp [ofName, writes.noReturn]

theorem membersBehind_following {entries : List (Value × Value)}
    (each : List.Forall₂ WritesMember texts entries) :
    MembersBehind (following level "\x7d" texts) entries := by
  induction each with
  | nil => exact .close (indentation level)
  | cons writes _ ih => exact .next [] (indentation (level + 1)) writes.isMember ih

/-- Members between braces are read as the record of them. -/
theorem writes_record {entries : Record} (distinct : entries.HasDistinctKeys)
    (each : List.Forall₂ WritesMember texts entries) :
    Writes (bracketed .page level "\x7b" "\x7d" texts) (.record entries) where
  spells := by
    rw [← Record.ofEntries_eq distinct]
    cases each with
    | nil =>
        rw [toList_bracketed_nil]
        exact .emptyObject []
    | cons writes later =>
        rw [toList_bracketed_cons]
        exact .object (indentation (level + 1)) writes.isMember (membersBehind_following later)
  noReturn := by
    have both := each.imp fun _ _ writes => And.intro writes.noReturn writes
    exact noReturn_bracketed (by decide) (by decide) ((List.forall₂_and_left _ _).mp both).1

end Parts

/-! ## Values -/

theorem writeItems_eq (style : Style) (level : Nat) (items : List Value) :
    writeItems style level items = items.mapM (writeAt style level) := by
  induction items with
  | nil => rfl
  | cons item rest ih =>
      rw [writeItems, List.mapM_cons, ih]
      rfl

/-- A member as it is written on the page. -/
def memberAt (level : Nat) (entry : Value × Value) : Except Fault String := do
  let name ← keyText .page entry.1
  let text ← writeAt .page level entry.2
  .ok (name ++ ": " ++ text)

/-- On the page members keep their order. -/
theorem arrange_eq (level : Nat) (entries : List (Value × Value)) :
    arrange .page (writeMembers .page level entries) = entries.mapM (memberAt level) := by
  have inOrder (members : List (Value × Except Fault String)) :
      arrange .page members = members.mapM Prod.snd := rfl
  rw [inOrder]
  induction entries with
  | nil => rfl
  | cons entry rest ih =>
      obtain ⟨key, value⟩ := entry
      rw [writeMembers, List.mapM_cons, List.mapM_cons, ih]
      rfl

/-- **The text of a value on the page is read as the value**, if JSON can say it and it is
sound. -/
theorem writes_of_write {value : Value} (said : value.IsJson) (sound : value.IsSound)
    {level : Nat} {text : String} (written : writeAt .page level value = .ok text) :
    Writes text value := by
  induction said generalizing level text with
  | null =>
      cases written
      exact ⟨Script.spells_word .null, by decide⟩
  | bool flag =>
      cases written
      cases flag
      · exact ⟨Script.spells_word .false, by decide⟩
      · exact ⟨Script.spells_word .true, by decide⟩
  | int fits =>
      rw [writeAt, integerText, if_pos fits] at written
      cases written
      exact writes_int fits
  | float number =>
      cases written
      cases sound with
      | float normal => exact writes_numberText normal
  | text characters =>
      cases written
      exact writes_stringText characters
  | @list items _ ih =>
      cases sound with
      | list each =>
          rw [writeAt, writeItems_eq, map_eq_ok_iff] at written
          obtain ⟨texts, written, rfl⟩ := written
          have told : ∀ item ∈ items, ∀ text, writeAt .page (level + 1) item = .ok text →
              Writes text item := fun item member text => ih item member (each item member)
          have both := (List.forall₂_and_left _ _).mpr ⟨told, mapM_eq_ok_iff.mp written⟩
          exact writes_list (both.imp fun _ text told => told.1 text told.2).flip
  | @record entries keys _ ih =>
      cases sound with
      | record distinct _ each =>
          rw [writeAt, arrange_eq, map_eq_ok_iff] at written
          obtain ⟨texts, written, rfl⟩ := written
          have members : ∀ entry ∈ entries, ∀ text, memberAt (level + 1) entry = .ok text →
              WritesMember text entry := by
            intro entry member text written
            obtain ⟨key, value⟩ := entry
            obtain ⟨name, named⟩ := keys key (List.mem_map_of_mem member)
            obtain ⟨_, quoted, written⟩ := bind_eq_ok_iff.mp written
            obtain ⟨told, ofValue, joined⟩ := bind_eq_ok_iff.mp written
            cases named
            cases quoted
            cases joined
            exact writesMember name (ih _ member (each _ member) ofValue)
          have both := (List.forall₂_and_left _ _).mpr ⟨members, mapM_eq_ok_iff.mp written⟩
          exact writes_record distinct (both.imp fun _ text told => told.1 text told.2).flip

end Json

/-! ## What is written at all -/

namespace Value

/-- A key with a name: on the page such keys are texts. -/
inductive HasName : Value → Prop where
  | null : HasName .null
  | bool (flag : Bool) : HasName (.bool flag)
  | int {number : Int} (fits : fitsLimit number = true) : HasName (.int number)
  | float (number : Binary64) : HasName (.float number)
  | text (characters : String) : HasName (.text characters)

/-- A value that is written on the page. -/
inductive IsPrintable : Value → Prop where
  | null : IsPrintable .null
  | bool (flag : Bool) : IsPrintable (.bool flag)
  | int {number : Int} (fits : fitsLimit number = true) : IsPrintable (.int number)
  | float (number : Binary64) : IsPrintable (.float number)
  | text (characters : String) : IsPrintable (.text characters)
  | list {items : List Value} (each : ∀ item ∈ items, IsPrintable item) :
      IsPrintable (.list items)
  | tuple {items : List Value} (each : ∀ item ∈ items, IsPrintable item) :
      IsPrintable (.tuple items)
  | record {entries : List (Value × Value)} (keys : ∀ entry ∈ entries, HasName entry.1)
      (each : ∀ entry ∈ entries, IsPrintable entry.2) : IsPrintable (.record entries)

theorem IsJson.isPrintable {value : Value} (said : value.IsJson) : value.IsPrintable := by
  induction said with
  | null => exact .null
  | bool flag => exact .bool flag
  | int fits => exact .int fits
  | float number => exact .float number
  | text characters => exact .text characters
  | list _ ih => exact .list ih
  | record keys _ ih =>
      refine .record (fun entry member => ?_) ih
      obtain ⟨name, named⟩ := keys entry.1 (List.mem_map_of_mem member)
      exact named ▸ .text name

/-- Induction on values: of a collection it may be assumed that the claim holds of everything
inside. -/
@[elab_as_elim]
theorem induct {Holds : Value → Prop} (null : Holds .null) (bool : ∀ flag, Holds (.bool flag))
    (int : ∀ number, Holds (.int number)) (float : ∀ number, Holds (.float number))
    (text : ∀ characters, Holds (.text characters)) (bytes : ∀ content, Holds (.bytes content))
    (date : ∀ day, Holds (.date day)) (moment : ∀ instant, Holds (.moment instant))
    (list : ∀ items, (∀ item ∈ items, Holds item) → Holds (.list items))
    (tuple : ∀ items, (∀ item ∈ items, Holds item) → Holds (.tuple items))
    (set : ∀ items, (∀ item ∈ items, Holds item) → Holds (.set items))
    (record : ∀ entries : List (Value × Value), (∀ entry ∈ entries, Holds entry.1) →
      (∀ entry ∈ entries, Holds entry.2) → Holds (.record entries)) (value : Value) :
    Holds value :=
  @Value.rec Holds (fun items => ∀ item ∈ items, Holds item)
    (fun entries => (∀ entry ∈ entries, Holds entry.1) ∧ ∀ entry ∈ entries, Holds entry.2)
    (fun entry => Holds entry.1 ∧ Holds entry.2)
    null bool int float text bytes date moment list tuple set
    (fun entries each => record entries each.1 each.2)
    (fun _ member => nomatch member)
    (fun _ _ head tail => List.forall_mem_cons.mpr ⟨head, tail⟩)
    ⟨(fun _ member => nomatch member), (fun _ member => nomatch member)⟩
    (fun _ _ head tail => ⟨List.forall_mem_cons.mpr ⟨head.1, tail.1⟩,
      List.forall_mem_cons.mpr ⟨head.2, tail.2⟩⟩)
    (fun _ _ key held => ⟨key, held⟩) value

end Value

namespace Json

theorem exists_integerText_iff {number : Int} :
    (∃ text, integerText number = .ok text) ↔ Value.fitsLimit number = true := by
  unfold integerText
  split
  · rename_i fits
    exact iff_of_true ⟨_, rfl⟩ fits
  · rename_i long
    exact iff_of_false (fun ⟨_, written⟩ => nomatch written) long

theorem exists_keyText_iff {key : Value} :
    (∃ name, keyText .page key = .ok name) ↔ key.HasName := by
  constructor
  · rintro ⟨name, named⟩
    cases key with
    | null => exact .null
    | bool flag => exact .bool flag
    | int number =>
        obtain ⟨text, written, -⟩ := map_eq_ok_iff.mp named
        exact .int (exists_integerText_iff.mp ⟨text, written⟩)
    | float number => exact .float number
    | text characters => exact .text characters
    | bytes | date | moment | list | tuple | set | record => cases named
  · intro named
    cases named with
    | null | bool | float | text => exact ⟨_, rfl⟩
    | int fits =>
        obtain ⟨text, written⟩ := exists_integerText_iff.mpr fits
        exact ⟨_, map_eq_ok_iff.mpr ⟨text, written, rfl⟩⟩

section Collections

variable {level : Nat}

theorem exists_writeItems_iff {items : List Value}
    (each : ∀ item ∈ items, (∃ text, writeAt .page level item = .ok text) ↔ item.IsPrintable) :
    (∃ texts, writeItems .page level items = .ok texts) ↔ ∀ item ∈ items, item.IsPrintable := by
  rw [writeItems_eq, exists_mapM_iff]
  exact forall₂_congr each

theorem exists_memberAt_iff {entry : Value × Value} :
    (∃ text, memberAt level entry = .ok text) ↔
      entry.1.HasName ∧ ∃ text, writeAt .page level entry.2 = .ok text := by
  rw [← exists_keyText_iff]
  constructor
  · rintro ⟨_, written⟩
    obtain ⟨name, named, written⟩ := bind_eq_ok_iff.mp written
    obtain ⟨text, told, -⟩ := bind_eq_ok_iff.mp written
    exact ⟨⟨name, named⟩, text, told⟩
  · rintro ⟨⟨name, named⟩, text, told⟩
    exact ⟨_, bind_eq_ok_iff.mpr ⟨name, named, bind_eq_ok_iff.mpr ⟨text, told, rfl⟩⟩⟩

theorem exists_arrange_iff {entries : List (Value × Value)}
    (each : ∀ entry ∈ entries,
      (∃ text, writeAt .page level entry.2 = .ok text) ↔ entry.2.IsPrintable) :
    (∃ texts, arrange .page (writeMembers .page level entries) = .ok texts) ↔
      (∀ entry ∈ entries, entry.1.HasName) ∧ ∀ entry ∈ entries, entry.2.IsPrintable := by
  rw [arrange_eq, exists_mapM_iff, ← forall₂_and]
  refine forall₂_congr fun entry member => ?_
  rw [exists_memberAt_iff, each entry member]

end Collections

/-- **A value is written on the page exactly if it and everything inside it can be.** -/
theorem exists_write_iff {value : Value} {level : Nat} :
    (∃ text, writeAt .page level value = .ok text) ↔ value.IsPrintable := by
  induction value using Value.induct generalizing level with
  | null => exact iff_of_true ⟨_, rfl⟩ .null
  | bool flag => exact iff_of_true ⟨_, rfl⟩ (.bool flag)
  | int number =>
      rw [writeAt, exists_integerText_iff]
      exact ⟨.int, fun printable => by cases printable with | int fits => exact fits⟩
  | float number => exact iff_of_true ⟨_, rfl⟩ (.float number)
  | text characters => exact iff_of_true ⟨_, rfl⟩ (.text characters)
  | bytes | date | moment | set =>
      refine iff_of_false ?_ (by rintro ⟨⟩)
      rintro ⟨_, written⟩
      cases written
  | list items each =>
      rw [writeAt, exists_map_iff, exists_writeItems_iff fun item member => each item member]
      exact ⟨.list, fun printable => by cases printable with | list each => exact each⟩
  | tuple items each =>
      rw [writeAt, exists_map_iff, exists_writeItems_iff fun item member => each item member]
      exact ⟨.tuple, fun printable => by cases printable with | tuple each => exact each⟩
  | record entries _ each =>
      rw [writeAt, exists_map_iff, exists_arrange_iff fun entry member => each entry member]
      refine ⟨fun both => .record both.1 both.2, fun printable => ?_⟩
      cases printable with
      | record keys each => exact ⟨keys, each⟩

end Json

end GuestFlow
