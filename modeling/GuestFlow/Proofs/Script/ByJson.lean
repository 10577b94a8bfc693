import GuestFlow.Proofs.Json.Spelling
import GuestFlow.Proofs.Script.Figure

/-!
# Scripts as JSON

The characters of a script spell its value as JSON (`Script.spells`), so the JSON reader takes a
page for the value that it writes (`Script.Page.readJson`).
-/

set_option autoImplicit false

namespace GuestFlow

namespace Script

/-! ## Where values begin and end -/

/-- The characters that values begin with. -/
def isBeginning : Char → Bool := isDigitOr ['-', '"', '[', '\x7b', 'n', 't', 'f']

theorem exists_beginning (script : Script) :
    ∃ first rest, script.characters = first :: rest ∧ isBeginning first = true := by
  cases script with
  | word said => cases said <;> exact ⟨_, _, rfl, by decide⟩
  | number figure =>
      have sign (isNegative : Bool) (whole : Whole) (rest : List Char) :
          ∃ first later, Figure.sign isNegative ++ (whole.characters ++ rest) = first :: later ∧
            isBeginning first = true := by
        obtain ⟨first, later, written, isDigit⟩ := whole.exists_first
        cases isNegative with
        | true => exact ⟨_, _, rfl, by decide⟩
        | false => exact ⟨first, later ++ rest, by rw [written]; rfl, isDigitOr_of_isDigit _ isDigit⟩
      cases figure with
      | integer isNegative whole few =>
          have begins := sign isNegative whole []
          rw [List.append_nil] at begins
          exact begins
      | decimal isNegative whole fraction => exact sign isNegative whole _
  | string glyphs => exact ⟨_, _, rfl, by decide⟩
  | emptyArray gap => exact ⟨_, _, rfl, by decide⟩
  | array first others => obtain ⟨before, content, after⟩ := first; exact ⟨_, _, rfl, by decide⟩
  | emptyObject gap => exact ⟨_, _, rfl, by decide⟩
  | object first others =>
      obtain ⟨before, name, between, content, after⟩ := first
      exact ⟨_, _, rfl, by decide⟩

theorem isSpace_of_isBeginning {first : Char} (beginning : isBeginning first = true) :
    Json.isSpace first = false := by
  refine @forall_isDigitOr (fun first => Json.isSpace first = false) _ (fun digit isDigit => ?_)
    (by decide) first beginning
  refine Bool.eq_false_iff.mpr fun isSpace => ?_
  simp only [Json.isSpace, Bool.or_eq_true, beq_iff_eq] at isSpace
  rcases isSpace with ((rfl | rfl) | rfl) | rfl <;> cases isDigit

/-! ## Strings -/

/-- What stands for itself is no quote, no backslash and no tab, and ends no line. -/
theorem isPlain_iff {character : Char} : isPlain character = true ↔
    Yaml.isAllowed character = true ∧ character ≠ '"' ∧ character ≠ '\\' ∧ character ≠ '\t' ∧
      Yaml.isBreak character = false := by
  simp only [isPlain, Bool.and_eq_true, Bool.not_eq_true', Bool.or_eq_false_iff,
    beq_eq_false_iff_ne, and_assoc, ne_eq]

/-- What stands for itself is no control either. -/
theorem printable_of_isPlain {character : Char} (plain : isPlain character = true) :
    0x20 ≤ character.toNat := by
  obtain ⟨allowed, -, -, noTab, noBreak⟩ := isPlain_iff.mp plain
  simp only [Yaml.isBreak, Bool.or_eq_false_iff, beq_eq_false_iff_ne] at noBreak
  simp only [Yaml.isAllowed, Bool.or_eq_true, Bool.and_eq_true, beq_iff_eq,
    decide_eq_true_eq] at allowed
  have differs {other : Char} (differs : character ≠ other) : character.toNat ≠ other.toNat :=
    fun same => differs (Char.toNat_inj.mp same)
  have noTab : character.toNat ≠ 0x9 := differs noTab
  have noFeed : character.toNat ≠ 0xa := differs noBreak.1.1.1.1
  have noReturn : character.toNat ≠ 0xd := differs noBreak.1.1.1.2
  omega

/-- What is no quote, no backslash and no control stands for itself. -/
theorem readString_raw (start : List Char) {character : Char} (noQuote : character ≠ '"')
    (noBackslash : character ≠ '\\') (printable : 0x20 ≤ character.toNat) (rest : List Char) :
    Json.readString start none (character :: rest) =
      Json.prepend [character] (Json.readString start none rest) := by
  rw [Json.readString.eq_def start none (character :: rest)]
  split
  · rename_i none
    cases none
  · rename_i quote
    exact absurd (List.cons.inj quote).1 noQuote
  · rename_i backslash
    exact absurd (List.cons.inj backslash).1 noBackslash
  · rename_i backslash
    exact absurd (List.cons.inj backslash).1 noBackslash
  · rename_i backslash
    exact absurd (List.cons.inj backslash).1 noBackslash
  · rename_i backslash
    exact absurd (List.cons.inj backslash).1 noBackslash
  · rename_i same
    obtain ⟨rfl, rfl⟩ := List.cons.inj same
    rw [if_neg (by omega)]
    rfl

theorem readString_plain (start : List Char) {character : Char}
    (plain : isPlain character = true) (rest : List Char) :
    Json.readString start none (character :: rest) =
      Json.prepend [character] (Json.readString start none rest) := by
  obtain ⟨-, noQuote, noBackslash, -, -⟩ := isPlain_iff.mp plain
  exact readString_raw start noQuote noBackslash (printable_of_isPlain plain) rest

theorem readString_escaped (start : List Char) (escape : Escape) (rest : List Char) :
    Json.readString start none ('\\' :: escape.mark :: rest) =
      Json.prepend [escape.meaning] (Json.readString start none rest) := by
  cases escape <;> rfl

/-- Behind the number of a character something follows, if only the closing quote. -/
theorem readString_numbered (start : List Char) (code : Code) (next : Char) (rest : List Char) :
    Json.readString start none ('\\' :: 'u' :: (code.digits ++ next :: rest)) =
      Json.prepend [Char.ofNat code.number] (Json.readString start none (next :: rest)) := by
  obtain ⟨first, second, third, fourth, number, written, noHigh, noLow⟩ := code
  simp only [Code.digits, List.cons_append, List.nil_append]
  rw [Json.readString.eq_def]
  simp only [written, noHigh, noLow, Bool.false_eq_true, if_false]

/-- The rest of a string up to and with its closing quote. -/
theorem readString_glyphs (start : List Char) (glyphs : List Glyph) (rest : List Char) :
    Json.readString start none (Glyph.text glyphs ++ '"' :: rest) =
      .ok (glyphs.map Glyph.meaning, rest) := by
  induction glyphs with
  | nil => rfl
  | cons glyph glyphs ih =>
      have prepended : Json.prepend [glyph.meaning] (.ok (glyphs.map Glyph.meaning, rest)) =
          .ok ((glyph :: glyphs).map Glyph.meaning, rest) := rfl
      rw [Glyph.text, List.flatMap_cons, List.append_assoc, ← Glyph.text, ← prepended, ← ih]
      cases glyph with
      | plain character plain => exact readString_plain start plain _
      | escaped escape => exact readString_escaped start escape _
      | numbered code =>
          obtain ⟨next, later, written⟩ :
              ∃ next later, Glyph.text glyphs ++ '"' :: rest = next :: later := by
            cases Glyph.text glyphs with
            | nil => exact ⟨_, _, rfl⟩
            | cons next later => exact ⟨_, _, rfl⟩
          rw [written]
          exact readString_numbered start code next later

/-! ## Numbers -/

theorem spanWhole_eq (whole : Whole) {rest : List Char}
    (stops : ∀ next ∈ rest.head?, next.isDigit = false) :
    Json.spanWhole (whole.characters ++ rest) = (whole.characters, rest) := by
  have spanned := Numeral.spanDigits_append whole.areDigits stops
  rcases whole.noLeadingZero with zero | differs
  · rw [zero]
    rfl
  · obtain ⟨first, later, written, -⟩ := whole.exists_first
    rw [written] at differs spanned ⊢
    unfold Json.spanWhole
    split
    · rename_i zero
      exact absurd (congrArg some (List.cons.inj zero).1) differs
    · exact spanned

theorem spanFraction_of_ends {rest : List Char} (ends : Ends rest) :
    Json.spanFraction rest = ([], rest) := by
  unfold Json.spanFraction
  split
  · cases ends '.' rfl
  · rfl

theorem spanExponent_of_ends {rest : List Char} (ends : Ends rest) :
    Json.spanExponent rest = ([], rest) := by
  unfold Json.spanExponent
  split
  · rfl
  · rename_i mark later
    have differs : ¬(mark = 'e' ∨ mark = 'E') := by
      rintro (rfl | rfl)
      · cases ends 'e' rfl
      · cases ends 'E' rfl
    rw [if_neg (by simpa using differs)]

theorem spanExponent_eq (exponent : Exponent) {rest : List Char} (ends : Ends rest) :
    Json.spanExponent (exponent.characters ++ rest) = (exponent.characters, rest) := by
  obtain ⟨isCapital, isNegative, digits⟩ := exponent
  have spanned := Numeral.spanDigits_append digits.areDigits ends.not_isDigit
  have nonempty : digits.characters.isEmpty = false := by simp [digits.nonempty]
  cases isCapital <;> cases isNegative <;>
    simp [Json.spanExponent, Exponent.characters, spanned, nonempty]

theorem spanFraction_eq (fraction : Fraction) {rest : List Char} (ends : Ends rest) :
    Json.spanFraction (fraction.characters ++ rest) =
      ('.' :: fraction.digits.characters, fraction.ending ++ rest) := by
  have stops : ∀ next ∈ (fraction.ending ++ rest).head?, next.isDigit = false := by
    cases written : fraction.ending with
    | nil => exact ends.not_isDigit
    | cons first later =>
        have stopped := Figure.stops_ending fraction
        rw [written] at stopped
        exact stopped
  have spanned := Numeral.spanDigits_append fraction.digits.areDigits stops
  have nonempty : fraction.digits.characters.isEmpty = false := by simp [fraction.digits.nonempty]
  simp only [Fraction.characters, List.cons_append, List.append_assoc, Json.spanFraction, spanned,
    nonempty, Bool.false_eq_true, if_false]

theorem spanExponent_ending (fraction : Fraction) {rest : List Char} (ends : Ends rest) :
    Json.spanExponent (fraction.ending ++ rest) = (fraction.ending, rest) := by
  unfold Fraction.ending
  cases fraction.exponent with
  | none => exact spanExponent_of_ends ends
  | some exponent => exact spanExponent_eq exponent ends

/-- A number is read from its parts. -/
theorem readNumber_of_spans (isNegative : Bool) (whole : Whole)
    {rest fraction afterFraction exponent left : List Char}
    (stops : ∀ next ∈ rest.head?, next.isDigit = false)
    (fractionSpan : Json.spanFraction rest = (fraction, afterFraction))
    (exponentSpan : Json.spanExponent afterFraction = (exponent, left)) :
    Json.readNumber (Figure.sign isNegative ++ (whole.characters ++ rest)) =
      let numeral := String.ofList
        (Figure.sign isNegative ++ whole.characters ++ fraction ++ exponent)
      if fraction.isEmpty && exponent.isEmpty then
        ((Numeral.readInteger 10 numeral).mapError Json.Failure.number).map
          fun number => (.int number, left)
      else .ok (.float ((Numeral.readNumber? numeral).getD .nan), left) := by
  have wholeSpan := spanWhole_eq whole stops
  have nonempty : ¬whole.characters.isEmpty = true := by simp [whole.nonempty]
  unfold Json.readNumber
  split
  rename_i sign unsigned parted
  obtain ⟨rfl, rfl⟩ : sign = Figure.sign isNegative ∧ unsigned = whole.characters ++ rest := by
    cases isNegative with
    | true => cases parted; exact ⟨rfl, rfl⟩
    | false =>
        obtain ⟨first, later, written, isDigit⟩ := whole.exists_first
        rw [written] at parted ⊢
        split at parted
        · rename_i minus
          obtain ⟨rfl, -⟩ := List.cons.inj minus
          cases isDigit
        · cases parted
          exact ⟨rfl, rfl⟩
  rw [wholeSpan]
  dsimp only
  rw [if_neg nonempty, fractionSpan]
  dsimp only
  rw [exponentSpan]
  dsimp only
  split
  · cases Numeral.readInteger 10 (String.ofList
      (Figure.sign isNegative ++ whole.characters ++ fraction ++ exponent)) <;> rfl
  · rfl

theorem readNumber_figure (figure : Figure) {rest : List Char} (ends : Ends rest) :
    Json.readNumber (figure.characters ++ rest) = .ok (figure.value, rest) := by
  cases figure with
  | integer isNegative whole few =>
      have read := Figure.readInteger_eq isNegative whole.toDigits few
      simp only [Figure.characters, List.append_assoc]
      rw [readNumber_of_spans isNegative whole ends.not_isDigit (spanFraction_of_ends ends)
        (spanExponent_of_ends ends)]
      simp only [List.isEmpty_nil, Bool.and_self, if_true, List.append_nil, read]
      rfl
  | decimal isNegative whole fraction =>
      have read := Figure.readNumber?_eq isNegative whole fraction
      have stops : ∀ next ∈ (fraction.characters ++ rest).head?, next.isDigit = false := by
        intro next member
        cases member
        decide
      simp only [Figure.characters, List.append_assoc]
      rw [readNumber_of_spans isNegative whole stops (spanFraction_eq fraction ends)
        (spanExponent_ending fraction ends)]
      simp only [Fraction.characters] at read
      simp only [List.isEmpty_cons, Bool.false_and, Bool.false_eq_true, if_false, List.append_assoc,
        List.cons_append, read]
      rfl

/-! ## Words -/

theorem readWord?_word (said : Word) (rest : List Char) :
    Json.readWord? (said.text.toList ++ rest) = some (said.value, rest) := by
  cases said <;> rfl

/-- A number is no word; the only word with a sign has a letter behind it. -/
theorem readWord?_signed (isNegative : Bool) (whole : Whole) (rest : List Char) :
    Json.readWord? (Figure.sign isNegative ++ (whole.characters ++ rest)) = none := by
  obtain ⟨first, later, written, isDigit⟩ := whole.exists_first
  have differs {other : Char} (noDigit : other.isDigit = false) : ¬other = first := by
    rintro rfl
    rw [noDigit] at isDigit
    cases isDigit
  have noWord : ∀ entry ∈ Json.words,
      entry.1.toList.isPrefixOf (Figure.sign isNegative ++ (whole.characters ++ rest)) = false := by
    have unlike {word : String} {other : Char} {others : List Char}
        (spelled : word.toList = other :: others) (noDigit : other.isDigit = false)
        (behind : List Char) : word.toList.isPrefixOf (first :: behind) = false := by
      simp [spelled, List.isPrefixOf, differs noDigit]
    rw [written]
    simp only [Json.words, List.forall_mem_cons]
    cases isNegative with
    | true =>
        have infinity : "-Infinity".toList.isPrefixOf ('-' :: first :: (later ++ rest)) = false := by
          rw [show "-Infinity".toList = '-' :: "Infinity".toList from rfl]
          exact unlike rfl rfl _
        exact ⟨rfl, rfl, rfl, rfl, rfl, infinity, fun _ member => nomatch member⟩
    | false =>
        exact ⟨unlike rfl rfl _, unlike rfl rfl _, unlike rfl rfl _, unlike rfl rfl _,
          unlike rfl rfl _, unlike rfl rfl _, fun _ member => nomatch member⟩
  exact List.findSome?_eq_none_iff.mpr fun entry member => by simp [noWord entry member]

/-! ## Values -/

/-- Where no string and no bracket begins, a word or a number is read. -/
theorem readValue_plain {first : Char} (differs : first ≠ '"' ∧ first ≠ '[' ∧ first ≠ '\x7b')
    (fuel : Nat) (rest : List Char) :
    Json.readValue (fuel + 1) (first :: rest) =
      (Json.readWord? (first :: rest)).elim (Json.readNumber (first :: rest)) .ok := by
  obtain ⟨noQuote, noBracket, noBrace⟩ := differs
  rw [Json.readValue]
  · cases Json.readWord? (first :: rest) <;> rfl
  · exact fun _ same => noQuote (List.cons.inj same).1
  · exact fun _ same => noBracket (List.cons.inj same).1
  · exact fun _ same => noBrace (List.cons.inj same).1

/-- Where a number begins, a number is read. -/
theorem readValue_signed (isNegative : Bool) (whole : Whole) (fuel : Nat) (rest : List Char) :
    Json.readValue (fuel + 1) (Figure.sign isNegative ++ (whole.characters ++ rest)) =
      Json.readNumber (Figure.sign isNegative ++ (whole.characters ++ rest)) := by
  have noWord := readWord?_signed isNegative whole rest
  obtain ⟨first, later, written, mark⟩ : ∃ first later,
      Figure.sign isNegative ++ (whole.characters ++ rest) = first :: later ∧
        Numeral.isMark first = true := by
    obtain ⟨first, later, written, isDigit⟩ := whole.exists_first
    cases isNegative with
    | true => exact ⟨'-', _, rfl, rfl⟩
    | false =>
        exact ⟨first, later ++ rest, by rw [written]; rfl, isDigitOr_of_isDigit _ isDigit⟩
  have differs : first ≠ '"' ∧ first ≠ '[' ∧ first ≠ '\x7b' := by
    refine ⟨?_, ?_, ?_⟩ <;> rintro rfl <;> cases mark
  rw [written] at noWord ⊢
  rw [readValue_plain differs, noWord]
  rfl

/-- What the reader takes for the value of a script without calling itself spells it. -/
theorem spells_of_scalar {script : Script}
    (reads : ∀ (fuel : Nat) (rest : List Char), Ends rest →
      Json.readValue (fuel + 1) (script.characters ++ rest) = .ok (script.value, rest)) :
    Json.Spells script.characters script.value := by
  obtain ⟨first, later, written, beginning⟩ := script.exists_beginning
  refine .of_scalar ⟨first, later, written, isSpace_of_isBeginning beginning, ?_⟩ reads
  rintro rfl
  cases beginning

theorem spells_word (said : Word) : Json.Spells (characters (.word said)) (value (.word said)) := by
  refine spells_of_scalar fun fuel rest _ => ?_
  have read := readWord?_word said rest
  obtain ⟨first, later, written, differs⟩ : ∃ first later, said.text.toList = first :: later ∧
      first ≠ '"' ∧ first ≠ '[' ∧ first ≠ '\x7b' := by
    cases said <;> exact ⟨_, _, rfl, by decide⟩
  rw [characters_word]
  rw [written, List.cons_append] at read ⊢
  rw [readValue_plain differs, read]
  rfl

theorem spells_number (figure : Figure) :
    Json.Spells (characters (.number figure)) (value (.number figure)) := by
  refine spells_of_scalar fun fuel rest ends => ?_
  have read := readNumber_figure figure ends
  rw [characters_number]
  cases figure with
  | integer isNegative whole few =>
      rw [Figure.characters, List.append_assoc] at read ⊢
      rw [readValue_signed, read]
      rfl
  | decimal isNegative whole fraction =>
      rw [Figure.characters, List.append_assoc, List.append_assoc] at read ⊢
      rw [readValue_signed, read]
      rfl

theorem quotes_glyphs (glyphs : List Glyph) :
    Json.Quotes (Glyph.quoted glyphs) (glyphs.map Glyph.meaning) := by
  refine ⟨_, rfl, fun start rest => ?_⟩
  rw [List.append_assoc]
  exact readString_glyphs start glyphs rest

/-! ## Collections -/

/-- The blanks in front of the colon of a name are a gap. -/
theorem isMember_name (name : Name) (between : Gap) {content : List Char} {value : Value}
    (spells : Json.Spells content value) :
    Json.IsMember (name.characters ++ ':' :: (between.characters ++ content))
      (.text (Glyph.content name.glyphs), value) := by
  have member := Json.IsMember.intro (List.replicate name.spaces .space) between
    (quotes_glyphs name.glyphs) spells
  rw [Gap.characters, List.map_replicate] at member
  rw [Name.characters, List.append_assoc]
  exact member

theorem itemsBehind {others : List (Item Script)} (after : Gap)
    (each : ∀ item ∈ others, Json.Spells item.content.characters item.content.value) :
    Json.ItemsBehind (after.characters ++ (itemCharacters others ++ [']']))
      (itemValues others) := by
  induction others generalizing after with
  | nil => exact .close after
  | cons item others ih =>
      obtain ⟨before, content, nextAfter⟩ := item
      obtain ⟨next, later⟩ := List.forall_mem_cons.mp each
      simp only [itemCharacters, List.cons_append, List.append_assoc]
      exact .next after before next (ih nextAfter later)

theorem membersBehind {others : List (Member Script)} (after : Gap)
    (each : ∀ member ∈ others, Json.Spells member.content.characters member.content.value) :
    Json.MembersBehind (after.characters ++ (memberCharacters others ++ ['\x7d']))
      (memberValues others) := by
  induction others generalizing after with
  | nil => exact .close after
  | cons member others ih =>
      obtain ⟨before, name, between, content, nextAfter⟩ := member
      obtain ⟨next, later⟩ := List.forall_mem_cons.mp each
      have behind := Json.MembersBehind.next after before (isMember_name name between next)
        (ih nextAfter later)
      simp only [List.cons_append, List.append_assoc] at behind
      simp only [memberCharacters, List.cons_append, List.append_assoc]
      exact behind

/-- **The characters of a script spell its value as JSON.** -/
theorem spells (script : Script) : Json.Spells script.characters script.value := by
  induction script using induct with
  | word said => exact spells_word said
  | number figure => exact spells_number figure
  | string glyphs => exact (quotes_glyphs glyphs).spells
  | emptyArray gap => exact .emptyArray gap
  | array first others ofFirst each =>
      obtain ⟨before, content, after⟩ := first
      rw [characters_array]
      exact .array before ofFirst (itemsBehind after each)
  | emptyObject gap => exact .emptyObject gap
  | object first others ofFirst each =>
      obtain ⟨before, name, between, content, after⟩ := first
      have spelled := Json.Spells.object before (isMember_name name between ofFirst)
        (membersBehind after each)
      simp only [List.cons_append, List.append_assoc] at spelled
      rw [characters_object]
      exact spelled

/-- **Read as JSON a page is the value that it writes.** -/
theorem Page.readJson (page : Page) : Json.read page.text = .ok page.root.value :=
  page.root.spells.read_eq page.before page.after

end Script

end GuestFlow
