import GuestFlow.Proofs.Json.Reading
import GuestFlow.Proofs.Script.ByJson
import GuestFlow.Yaml.Flow

/-!
# Scalars of scripts in YAML

Where a string of a script begins, YAML reads a quoted scalar of the same content up to the
closing quote (`readQuoted_glyphs`); where a number or a word begins, it reads a plain scalar
(`readPlain_eq`).  A plain scalar could go on in the next line, so what stands between it and
the next mark is taken with it.
-/

set_option autoImplicit false

namespace GuestFlow

namespace Yaml

/-! ## Places -/

namespace Cursor

variable {cursor : Cursor} {character : Char} {rest : List Char}

theorem step_left (cursor : Cursor) : cursor.step.left = cursor.left.tail := by
  unfold step
  cases written : cursor.left with
  | nil => exact written
  | cons character rest =>
      dsimp only
      split
      · rfl
      · split <;> rfl

theorem step_index (standing : cursor.left = character :: rest) :
    cursor.step.index = cursor.index + 1 := by
  unfold step
  rw [standing]
  dsimp only
  split
  · rfl
  · split <;> rfl

theorem step_line (standing : cursor.left = character :: rest)
    (goesOn : isBreak character = false) : cursor.step.line = cursor.line := by
  simp only [isBreak, Bool.or_eq_false_iff, beq_eq_false_iff_ne] at goesOn
  obtain ⟨⟨⟨⟨noFeed, noReturn⟩, noNext⟩, noLine⟩, noParagraph⟩ := goesOn
  unfold step
  rw [standing]
  dsimp only
  rw [if_neg (by simp [noFeed, noReturn, noNext, noLine, noParagraph])]
  split <;> rfl

theorem skip_left (cursor : Cursor) (count : Nat) :
    (cursor.skip count).left = cursor.left.drop count := by
  induction count generalizing cursor with
  | zero => rfl
  | succ count ih => rw [skip, ih, step_left, List.drop_tail]

theorem skip_add (cursor : Cursor) (first second : Nat) :
    cursor.skip (first + second) = (cursor.skip first).skip second := by
  induction first generalizing cursor with
  | zero => rw [Nat.zero_add]; rfl
  | succ first ih => rw [Nat.succ_add, skip, ih]; rfl

/-- Characters that end no line lead along the line. -/
theorem skip_along (characters : List Char) (standing : cursor.left = characters ++ rest)
    (goesOn : ∀ character ∈ characters, isBreak character = false) :
    (cursor.skip characters.length).index = cursor.index + characters.length ∧
      (cursor.skip characters.length).line = cursor.line := by
  induction characters generalizing cursor with
  | nil => exact ⟨rfl, rfl⟩
  | cons first later ih =>
      obtain ⟨goesOnFirst, goesOnLater⟩ := List.forall_mem_cons.mp goesOn
      have behind : cursor.step.left = later ++ rest := by rw [step_left, standing]; rfl
      obtain ⟨index, line⟩ := ih behind goesOnLater
      rw [List.length_cons, skip, index, line, step_index standing, step_line standing goesOnFirst]
      exact ⟨by omega, rfl⟩

theorem here_eq (standing : cursor.left = character :: rest) : cursor.here = character := by
  rw [here, standing]
  rfl

theorem peek_eq (standing : cursor.left = character :: rest) (distance : Nat) :
    cursor.peek (distance + 1) = rest.getD distance endMark := by
  rw [peek, standing]
  rfl

/-- What is taken ends in front of a character that fails the test. -/
theorem take_eq {test : Char → Bool} (characters : List Char)
    (standing : cursor.left = characters ++ rest)
    (passes : ∀ character ∈ characters, test character = true)
    (stops : ∀ next ∈ rest.head?, test next = false) :
    cursor.take test = (characters, cursor.skip characters.length) := by
  have taken : cursor.run test = characters := by
    rw [run, standing, List.takeWhile_append_of_pos passes]
    cases rest with
    | nil => simp
    | cons next rest =>
        have stop : test next = false := stops next rfl
        simp [stop]
  rw [take, taken]

/-- Nothing is taken in front of a character that fails the test. -/
theorem take_none {test : Char → Bool} (standing : cursor.left = character :: rest)
    (fails : test character = false) : cursor.take test = ([], cursor) :=
  @take_eq cursor (character :: rest) test [] standing (fun _ member => nomatch member)
    fun next member => by cases member; exact fails

/-- A character that passes the test is taken with what follows. -/
theorem take_cons {test : Char → Bool} (standing : cursor.left = character :: rest)
    (passes : test character = true) :
    cursor.take test = (character :: (cursor.step.take test).1, (cursor.step.take test).2) := by
  have behind : cursor.step.left = rest := by rw [step_left, standing]; rfl
  have taken : cursor.run test = character :: cursor.step.run test := by
    rw [run, run, standing, behind, List.takeWhile_cons_of_pos passes]
  rw [take, take, taken]
  rfl

end Cursor

/-! ## Quoted scalars -/

namespace Flow

/-- Puts pieces in front of what is read next. -/
def prepend (pieces : List Piece) (reading : Except Failure (List Piece × Cursor)) :
    Except Failure (List Piece × Cursor) :=
  reading.map fun (later, after) => (pieces ++ later, after)

variable {cursor : Cursor} {character : Char} {rest : List Char}

/-- Inside double quotes ordinary characters are read up to the closing quote, or up to something
that is read in its own way. -/
theorem readContent_succ (fuel : Nat) (cursor : Cursor) :
    readContent true (fuel + 1) cursor =
      let (ordinary, place) := cursor.take isOrdinary
      if place.here = '"' then .ok (characters ordinary, place.step)
      else (if place.here = '\\' then readEscape fuel place.step
          else if place.here = '\'' then .ok ([.character '\''], place.step)
          else readSpaces fuel place).bind fun (pieces, after) =>
        (readContent true fuel after).map fun (more, last) =>
          (characters ordinary ++ pieces ++ more, last) := by
  rw [readContent]
  generalize cursor.take isOrdinary = taken
  obtain ⟨ordinary, place⟩ := taken
  simp only [Bool.not_true, Bool.false_and, Bool.false_eq_true, if_false, if_true, Bool.and_true,
    decide_eq_true_eq]
  by_cases quote : place.here = '"'
  · rw [if_pos quote, if_pos quote]
    rfl
  · rw [if_neg quote, if_neg quote]
    by_cases escape : place.here = '\\'
    · rw [if_pos escape, if_pos escape]
      cases readEscape fuel place.step <;> rfl
    · rw [if_neg escape, if_neg escape]
      by_cases other : place.here = '\''
      · rw [if_pos other, if_pos (by simp [other]), other]
        rfl
      · rw [if_neg other, if_neg (by simp [other, quote, escape])]
        cases readSpaces fuel place <;> rfl

theorem readContent_ordinary (fuel : Nat) (standing : cursor.left = character :: rest)
    (ordinary : isOrdinary character = true) :
    readContent true (fuel + 1) cursor =
      prepend [.character character] (readContent true (fuel + 1) cursor.step) := by
  rw [readContent_succ, readContent_succ, Cursor.take_cons standing ordinary]
  generalize cursor.step.take isOrdinary = taken
  obtain ⟨run, place⟩ := taken
  dsimp only
  split
  · rfl
  · generalize (if place.here = '\\' then readEscape fuel place.step else _) = reading
    cases reading with
    | error failure => rfl
    | ok read =>
        dsimp only [Except.bind]
        cases readContent true fuel read.2 <;> rfl

theorem readContent_quote (fuel : Nat) (standing : cursor.left = '"' :: rest) :
    readContent true (fuel + 1) cursor = .ok ([], cursor.step) := by
  rw [readContent_succ, Cursor.take_none standing (by decide)]
  exact if_pos (Cursor.here_eq standing)

/-- The quote of the other kind stands for itself. -/
theorem readContent_apostrophe (fuel : Nat) (standing : cursor.left = '\'' :: rest) :
    readContent true (fuel + 1) cursor =
      prepend [.character '\''] (readContent true fuel cursor.step) := by
  rw [readContent_succ, Cursor.take_none standing (by decide)]
  dsimp only
  rw [Cursor.here_eq standing, if_neg (by decide), if_neg (by decide), if_pos rfl]
  rfl

theorem readContent_escape (fuel : Nat) (standing : cursor.left = '\\' :: rest)
    {piece : Piece} {count : Nat}
    (read : readEscape fuel cursor.step = .ok ([piece], cursor.step.skip count)) :
    readContent true (fuel + 1) cursor =
      prepend [piece] (readContent true fuel (cursor.step.skip count)) := by
  rw [readContent_succ, Cursor.take_none standing (by decide)]
  dsimp only
  rw [Cursor.here_eq standing, if_neg (by decide), if_pos rfl, read]
  rfl

/-- The blanks that are taken together inside quotes. -/
def isQuotedBlank (character : Char) : Bool := character == ' ' || character == '\t'

theorem readContent_spaces (fuel : Nat) (standing : cursor.left = character :: rest)
    (blank : isQuotedBlank character = true)
    (goesOn : isLineEnd (cursor.take isQuotedBlank).2.here = false) :
    readContent true (fuel + 1) cursor =
      prepend (characters (cursor.take isQuotedBlank).1)
        (readContent true fuel (cursor.take isQuotedBlank).2) := by
  obtain ⟨noEnd, noBreak⟩ := Bool.or_eq_false_iff.mp goesOn
  have extraordinary : isOrdinary character = false := by
    rcases Bool.or_eq_true_iff.mp blank with same | same <;> rw [beq_iff_eq.mp same] <;> decide
  have spaces : readSpaces fuel cursor =
      .ok (characters (cursor.take isQuotedBlank).1, (cursor.take isQuotedBlank).2) := by
    have named : (fun character => character == ' ' || character == '\t') = isQuotedBlank := rfl
    unfold readSpaces
    rw [named]
    dsimp only
    rw [if_neg (by simpa using noEnd), if_neg (by simp [noBreak])]
  have others : ¬(character = '"') ∧ ¬(character = '\\') ∧ ¬(character = '\'') := by
    rcases Bool.or_eq_true_iff.mp blank with same | same <;> rw [beq_iff_eq.mp same] <;> decide
  rw [readContent_succ, Cursor.take_none standing extraordinary]
  dsimp only
  rw [Cursor.here_eq standing, if_neg others.1, if_neg others.2.1, if_neg others.2.2, spaces]
  rfl

/-- One blank inside quotes is taken like a character for itself.  Blanks in a row are taken
together, and so the fuel is used up only behind the last one. -/
theorem readContent_space (fuel : Nat) (standing : cursor.left = ' ' :: rest)
    (goesOn : isLineEnd (cursor.take isQuotedBlank).2.here = false) :
    ∃ later, fuel ≤ later ∧ readContent true (fuel + 1) cursor =
      prepend [.character ' '] (readContent true later cursor.step) := by
  have behind : cursor.step.left = rest := by rw [Cursor.step_left, standing]; rfl
  rw [readContent_spaces fuel standing rfl goesOn]
  rw [Cursor.take_cons standing rfl] at goesOn ⊢
  cases rest with
  | nil =>
      have none : cursor.step.take isQuotedBlank = ([], cursor.step) :=
        @Cursor.take_eq cursor.step [] isQuotedBlank [] behind (fun _ member => nomatch member)
          (fun _ member => nomatch member)
      rw [none]
      exact ⟨fuel, Nat.le_refl fuel, rfl⟩
  | cons next rest =>
      by_cases blank : isQuotedBlank next = true
      · refine ⟨fuel + 1, Nat.le_succ fuel, ?_⟩
        rw [readContent_spaces fuel behind blank goesOn]
        dsimp only
        cases readContent true fuel (cursor.step.take isQuotedBlank).2 <;> rfl
      · rw [Cursor.take_none behind (by simpa using blank)]
        exact ⟨fuel, Nat.le_refl fuel, rfl⟩

end Flow

end Yaml

namespace Script

open Yaml (Cursor)

/-! ## Strings -/

theorem isOrdinary_of_isPlain {character : Char} (plain : isPlain character = true)
    (noBlank : character ≠ ' ') (noQuote : character ≠ '\'') :
    Yaml.Flow.isOrdinary character = true := by
  obtain ⟨allowed, noDouble, noBackslash, noTab, noBreak⟩ := isPlain_iff.mp plain
  have noEnd : character ≠ Yaml.endMark := by
    rintro rfl
    cases allowed
  simp [Yaml.Flow.isOrdinary, Yaml.isGapOrEnd, Yaml.isSpaceOrEnd, Yaml.isLineEnd, *]

theorem readEscape_escaped (fuel : Nat) {cursor : Cursor} (escape : Escape) {rest : List Char}
    (standing : cursor.left = escape.mark :: rest) :
    Yaml.Flow.readEscape fuel cursor = .ok ([.character escape.meaning], cursor.skip 1) := by
  have found : Yaml.Flow.simpleEscapes.lookup escape.mark = some escape.meaning := by
    cases escape <;> decide
  unfold Yaml.Flow.readEscape
  rw [Cursor.here_eq standing]
  dsimp only
  rw [found]
  rfl

/-- The four digits have values, which make the number. -/
theorem Code.exists_values (code : Code) : ∃ values,
    code.digits.mapM (Numeral.digit? 16) = some values ∧ values.length = 4 ∧
      Numeral.value 16 values = code.number ∧ code.number < 0x110000 ∧
      ∀ digit ∈ code.digits, ∃ value, Numeral.digit? 16 digit = some value := by
  obtain ⟨first, second, third, fourth, number, written, -⟩ := code
  obtain ⟨values, mapped, valued⟩ := Option.bind_eq_some_iff.mp written
  have valued : Numeral.value 16 values = number := Option.some.inj valued
  refine ⟨values, mapped, ?_⟩
  simp only [List.mapM_cons, List.mapM_nil, Option.bind_eq_bind, Option.bind_eq_some_iff,
    Option.pure_def, Option.some.injEq, exists_eq_left'] at mapped
  obtain ⟨a, ofFirst, _, ⟨b, ofSecond, _, ⟨c, ofThird, _, ⟨d, ofFourth, rfl⟩, rfl⟩, rfl⟩, rfl⟩ :=
    mapped
  have each : ∀ digit ∈ [a, b, c, d], digit < 16 := by
    simp [Numeral.digit?_lt ofFirst, Numeral.digit?_lt ofSecond, Numeral.digit?_lt ofThird,
      Numeral.digit?_lt ofFourth]
  have bound := Numeral.value_lt each
  rw [valued] at bound
  refine ⟨rfl, valued, Nat.lt_trans bound (show Nat.pow 16 4 < 0x110000 by decide), ?_⟩
  simp [Code.digits, ofFirst, ofSecond, ofThird, ofFourth]

theorem readEscape_numbered (fuel : Nat) {cursor : Cursor} (code : Code) {rest : List Char}
    (standing : cursor.left = 'u' :: (code.digits ++ rest)) :
    Yaml.Flow.readEscape fuel cursor =
      .ok ([.character (Char.ofNat code.number)], cursor.skip 5) := by
  obtain ⟨values, mapped, four, valued, small, -⟩ := code.exists_values
  have digits : cursor.step.left.take 4 = code.digits := by
    rw [Cursor.step_left, standing]
    rfl
  have piece : Yaml.Flow.pieceOf code.number = .ok (.character (Char.ofNat code.number)) := by
    unfold Yaml.Flow.pieceOf
    rw [code.isWhole.1, code.isWhole.2, if_neg (by decide), if_pos small]
  have noSimple : Yaml.Flow.simpleEscapes.lookup 'u' = none := by decide
  have counted : Yaml.Flow.numberedEscapes.lookup 'u' = some 4 := by decide
  unfold Yaml.Flow.readEscape
  rw [Cursor.here_eq standing]
  dsimp only
  rw [noSimple]
  dsimp only
  rw [counted]
  dsimp only
  rw [digits, mapped]
  dsimp only
  rw [if_pos four, valued, piece]
  rfl

/-- A plain character may stand in a text and ends no line. -/
theorem isAllowed_of_bounds {character : Char}
    (bounds : 0x20 ≤ character.toNat ∧ character.toNat ≤ 0x7e) :
    Yaml.isAllowed character = true ∧ Yaml.isBreak character = false := by
  have differs {other : Char} (far : other.toNat < 0x20 ∨ 0x7e < other.toNat) :
      character ≠ other := by
    rintro rfl
    omega
  constructor
  · simp [Yaml.isAllowed, bounds]
  · simp only [Yaml.isBreak, Bool.or_eq_false_iff, beq_eq_false_iff_ne]
    exact ⟨⟨⟨⟨differs (by decide), differs (by decide)⟩, differs (by decide)⟩,
      differs (by decide)⟩, differs (by decide)⟩

theorem bounds_of_digit? {base digit : Nat} {character : Char}
    (found : Numeral.digit? base character = some digit) :
    0x20 ≤ character.toNat ∧ character.toNat ≤ 0x7e := by
  obtain ⟨small, -⟩ := Option.ite_none_right_eq_some.mp found
  simp only [Bool.and_eq_true, decide_eq_true_eq] at small
  split_ifs at small <;> omega

theorem Code.bounds_of_mem (code : Code) :
    ∀ digit ∈ code.digits, 0x20 ≤ digit.toNat ∧ digit.toNat ≤ 0x7e := by
  obtain ⟨_, _, _, _, _, each⟩ := code.exists_values
  intro digit member
  obtain ⟨value, found⟩ := each digit member
  exact bounds_of_digit? found

/-- The characters of a string may stand in a text and end no line. -/
theorem isAllowed_of_mem_text {glyphs : List Glyph} : ∀ character ∈ Glyph.text glyphs,
    Yaml.isAllowed character = true ∧ Yaml.isBreak character = false := by
  intro character member
  obtain ⟨glyph, -, inside⟩ := List.mem_flatMap.mp member
  cases glyph with
  | plain only plain =>
      cases List.mem_singleton.mp inside
      obtain ⟨allowed, -, -, -, noBreak⟩ := isPlain_iff.mp plain
      exact ⟨allowed, noBreak⟩
  | escaped escape =>
      refine isAllowed_of_bounds ?_
      simp only [Glyph.characters, List.mem_cons, List.not_mem_nil, or_false] at inside
      rcases inside with rfl | rfl
      · decide
      · cases escape <;> decide
  | numbered code =>
      refine isAllowed_of_bounds ?_
      simp only [Glyph.characters, List.mem_cons] at inside
      rcases inside with rfl | rfl | inside
      · decide
      · decide
      · exact code.bounds_of_mem character inside

theorem isLineEnd_of_mem_text {glyphs : List Glyph} :
    ∀ character ∈ Glyph.text glyphs, Yaml.isLineEnd character = false := by
  intro character member
  obtain ⟨allowed, noBreak⟩ := isAllowed_of_mem_text character member
  have noEnd : character ≠ Yaml.endMark := by
    rintro rfl
    cases allowed
  simp [Yaml.isLineEnd, noEnd, noBreak]

/-- Behind the blanks in a string the line goes on. -/
theorem goesOn_of_text {cursor : Cursor} {text rest : List Char}
    (standing : cursor.left = text ++ '"' :: rest)
    (goesOn : ∀ character ∈ text, Yaml.isLineEnd character = false) :
    Yaml.isLineEnd (cursor.take Yaml.Flow.isQuotedBlank).2.here = false := by
  induction text generalizing cursor with
  | nil =>
      rw [Cursor.take_none standing (by decide), Cursor.here_eq standing]
      decide
  | cons first later ih =>
      obtain ⟨ofFirst, ofLater⟩ := List.forall_mem_cons.mp goesOn
      by_cases blank : Yaml.Flow.isQuotedBlank first = true
      · rw [Cursor.take_cons standing blank]
        exact ih (by rw [Cursor.step_left, standing]; rfl) ofLater
      · rw [Cursor.take_none standing (by simpa using blank), Cursor.here_eq standing]
        exact ofFirst

/-- One glyph is one piece. -/
theorem readContent_glyph (glyph : Glyph) (glyphs : List Glyph) {cursor : Cursor}
    {rest : List Char}
    (standing : cursor.left = glyph.characters ++ (Glyph.text glyphs ++ '"' :: rest))
    (fuel : Nat) : ∃ later, fuel ≤ later ∧
      Yaml.Flow.readContent true (fuel + 1) cursor = Yaml.Flow.prepend
        [.character glyph.meaning] (Yaml.Flow.readContent true later
          (cursor.skip glyph.characters.length)) := by
  cases glyph with
  | plain character plain =>
      by_cases blank : character = ' '
      · subst blank
        have goesOn : ∀ character ∈ ' ' :: Glyph.text glyphs,
            Yaml.isLineEnd character = false :=
          List.forall_mem_cons.mpr ⟨by decide, isLineEnd_of_mem_text⟩
        exact Yaml.Flow.readContent_space fuel standing (goesOn_of_text standing goesOn)
      · by_cases quote : character = '\''
        · subst quote
          exact ⟨fuel, Nat.le_refl fuel, Yaml.Flow.readContent_apostrophe fuel standing⟩
        · exact ⟨fuel + 1, Nat.le_succ fuel, Yaml.Flow.readContent_ordinary fuel standing
            (isOrdinary_of_isPlain plain blank quote)⟩
  | escaped escape =>
      have behind : cursor.step.left = escape.mark :: (Glyph.text glyphs ++ '"' :: rest) := by
        rw [Cursor.step_left, standing]
        rfl
      exact ⟨fuel, Nat.le_refl fuel, Yaml.Flow.readContent_escape fuel standing
        (readEscape_escaped fuel escape behind)⟩
  | numbered code =>
      have behind : cursor.step.left =
          'u' :: (code.digits ++ (Glyph.text glyphs ++ '"' :: rest)) := by
        rw [Cursor.step_left, standing]
        rfl
      exact ⟨fuel, Nat.le_refl fuel, Yaml.Flow.readContent_escape fuel standing
        (readEscape_numbered fuel code behind)⟩

/-- The content of a string, up to and with its closing quote. -/
theorem readContent_glyphs (glyphs : List Glyph) {cursor : Cursor} {rest : List Char}
    (standing : cursor.left = Glyph.text glyphs ++ '"' :: rest) {fuel : Nat}
    (enough : (Glyph.text glyphs).length < fuel) :
    Yaml.Flow.readContent true fuel cursor =
      .ok (Yaml.Flow.characters (glyphs.map Glyph.meaning),
        cursor.skip ((Glyph.text glyphs).length + 1)) := by
  induction glyphs generalizing cursor fuel with
  | nil =>
      obtain ⟨fuel, rfl⟩ : ∃ less, fuel = less + 1 := Nat.exists_eq_add_one.mpr (by omega)
      exact Yaml.Flow.readContent_quote fuel standing
  | cons glyph glyphs ih =>
      obtain ⟨fuel, rfl⟩ : ∃ less, fuel = less + 1 := Nat.exists_eq_add_one.mpr (by omega)
      rw [Glyph.text, List.flatMap_cons, ← Glyph.text, List.append_assoc] at standing
      rw [Glyph.text, List.flatMap_cons, ← Glyph.text, List.length_append] at enough ⊢
      have behind : (cursor.skip glyph.characters.length).left =
          Glyph.text glyphs ++ '"' :: rest := by
        rw [Cursor.skip_left, standing, List.drop_left]
      have written : 0 < glyph.characters.length := by cases glyph <;> exact Nat.succ_pos _
      obtain ⟨later, more, read⟩ := readContent_glyph glyph glyphs standing fuel
      rw [read, ih behind (by omega), ← Cursor.skip_add, ← Nat.add_assoc]
      rfl

theorem joinPieces_characters (text : List Char) :
    Yaml.Flow.joinPieces (Yaml.Flow.characters text) = text := by
  induction text with
  | nil => rfl
  | cons first rest ih => exact congrArg (first :: ·) ih

/-- **A string is read as a quoted scalar of the same content.** -/
theorem readQuoted_glyphs (glyphs : List Glyph) {cursor : Cursor} {rest : List Char}
    (standing : cursor.left = Glyph.quoted glyphs ++ rest) :
    Yaml.Flow.readQuoted cursor =
      .ok (.scalar (Glyph.content glyphs) false, cursor.skip (Glyph.quoted glyphs).length) := by
  have quoted : cursor.left = '"' :: (Glyph.text glyphs ++ '"' :: rest) := by
    rw [standing]
    simp [Glyph.quoted]
  have behind : cursor.step.left = Glyph.text glyphs ++ '"' :: rest := by
    rw [Cursor.step_left, quoted]
    rfl
  have enough : (Glyph.text glyphs).length < cursor.left.length + 1 := by
    rw [quoted, List.length_cons, List.length_append]
    omega
  have read := readContent_glyphs glyphs behind enough
  unfold Yaml.Flow.readQuoted
  rw [Cursor.here_eq quoted, beq_self_eq_true, read]
  dsimp only [bind, Except.bind]
  rw [joinPieces_characters]
  have counted : (Glyph.quoted glyphs).length = (Glyph.text glyphs).length + 1 + 1 := by
    simp [Glyph.quoted]
  rw [counted]
  rfl

/-! ## Gaps -/

/-- The marks that stand behind values inside brackets. -/
def isCloser (character : Char) : Bool := [',', ']', '\x7d'].contains character

/-- The characters that tokens of scripts begin with. -/
def isFront : Char → Bool :=
  isDigitOr ['-', '"', '[', '\x7b', 'n', 't', 'f', ',', ']', '\x7d', ':']

/-- A token is begun neither by a blank nor by the end of a line. -/
theorem noGap_of_isFront {character : Char} (front : isFront character = true) :
    Yaml.isGapOrEnd character = false ∧ character ≠ '#' ∧ character ≠ '\ufeff' := by
  refine @forall_isDigitOr (fun character => Yaml.isGapOrEnd character = false ∧
    character ≠ '#' ∧ character ≠ '\ufeff') _ (fun digit isDigit => ?_) (by decide) character front
  have bounds := bounds_of_isDigit isDigit
  have differs {other : Char} (far : other.toNat < 0x30 ∨ 0x39 < other.toNat) : digit ≠ other := by
    rintro rfl
    omega
  refine ⟨?_, differs (by decide), differs (by decide)⟩
  simp only [Yaml.isGapOrEnd, Yaml.isSpaceOrEnd, Yaml.isLineEnd, Yaml.isBreak,
    Bool.or_eq_false_iff, beq_eq_false_iff_ne]
  exact ⟨differs (by decide), differs (by decide), differs (by decide),
    ⟨⟨⟨differs (by decide), differs (by decide)⟩, differs (by decide)⟩, differs (by decide)⟩,
    differs (by decide)⟩

/-- Tokens begin here, if anything does. -/
def Starts (rest : List Char) : Prop := ∀ next ∈ rest.head?, isFront next = true

/-- A gap begins with its blanks. -/
theorem exists_spaces (gap : Gap) : ∃ count later, gap = List.replicate count Blank.space ++ later ∧
    ∀ next ∈ later.head?, Yaml.isBreak next.character = true := by
  induction gap with
  | nil => exact ⟨0, [], rfl, fun _ member => nomatch member⟩
  | cons blank gap ih =>
      cases blank with
      | space =>
          obtain ⟨count, later, rfl, ends⟩ := ih
          exact ⟨count + 1, later, rfl, ends⟩
      | lineFeed => exact ⟨0, _, rfl, fun _ member => by cases member; rfl⟩
      | carriageReturn => exact ⟨0, _, rfl, fun _ member => by cases member; rfl⟩

section Gaps

variable {cursor : Cursor} {gap : Gap} {rest : List Char}

/-- Where a token begins no line ends. -/
theorem Starts.noBreak (starts : Starts rest) :
    ∀ next ∈ rest.head?, Yaml.isBreak next = false := by
  intro next member
  have noGap := (noGap_of_isFront (starts next member)).1
  simp only [Yaml.isGapOrEnd, Yaml.isSpaceOrEnd, Yaml.isLineEnd, Bool.or_eq_false_iff] at noGap
  exact noGap.2.2.2

/-- What is true of blanks, of the end and of the fronts of tokens is true at every gap. -/
theorem here_of_gap {Holds : Char → Prop}
    (blanks : [' ', '\n', '\r', Yaml.endMark].Forall Holds)
    (fronts : ∀ front, isFront front = true → Holds front)
    (standing : cursor.left = gap.characters ++ rest) (starts : Starts rest) :
    Holds cursor.here := by
  rw [List.forall_iff_forall_mem] at blanks
  cases gap with
  | nil =>
      cases rest with
      | nil =>
          rw [Cursor.here, standing]
          exact blanks _ (by decide)
      | cons next rest =>
          rw [Cursor.here_eq standing]
          exact fronts next (starts next rfl)
  | cons blank gap =>
      rw [Cursor.here_eq standing]
      cases blank <;> exact blanks _ (by decide)

/-- Blanks in front of the end of a line, or of a token. -/
theorem take_spaces (standing : cursor.left = gap.characters ++ rest) (starts : Starts rest) :
    ∃ count later, gap = List.replicate count Blank.space ++ later ∧
      (∀ next ∈ later.head?, Yaml.isBreak next.character = true) ∧
      cursor.take (· == ' ') = (List.replicate count ' ', cursor.skip count) ∧
      (cursor.skip count).left = Gap.characters later ++ rest := by
  obtain ⟨count, later, rfl, ends⟩ := exists_spaces gap
  have written : Gap.characters (List.replicate count Blank.space ++ later) =
      List.replicate count ' ' ++ Gap.characters later := by
    simp [Gap.characters, Blank.character]
  rw [written, List.append_assoc] at standing
  have stops : ∀ next ∈ (Gap.characters later ++ rest).head?, (next == ' ') = false := by
    cases later with
    | nil =>
        intro next member
        have noGap := (noGap_of_isFront (starts next member)).1
        simp only [Yaml.isGapOrEnd, Yaml.isSpaceOrEnd, Bool.or_eq_false_iff] at noGap
        exact noGap.2.1
    | cons blank later =>
        intro next member
        cases member
        have ended := ends blank rfl
        cases blank with
        | space => cases ended
        | lineFeed => rfl
        | carriageReturn => rfl
  have taken := @Cursor.take_eq cursor _ (· == ' ') _ standing
    (fun character member => beq_iff_eq.mpr (List.eq_of_mem_replicate member)) stops
  rw [List.length_replicate] at taken
  refine ⟨count, later, rfl, ends, taken, ?_⟩
  rw [Cursor.skip_left, standing, List.drop_left' (List.length_replicate)]

/-- The end of a line takes at least one blank of a gap. -/
theorem takeBreak_gap (standing : cursor.left = gap.characters ++ rest) (starts : Starts rest)
    (ended : Yaml.isBreak cursor.here = true) :
    ∃ later : Gap, later.length < gap.length ∧
      cursor.takeBreak.2.left = later.characters ++ rest := by
  cases gap with
  | nil =>
      rw [Gap.characters, List.map_nil, List.nil_append] at standing
      cases rest with
      | nil =>
          rw [Cursor.here, standing] at ended
          cases ended
      | cons next rest =>
          rw [Cursor.here_eq standing, starts.noBreak next rfl] at ended
          cases ended
  | cons blank gap =>
      have standing : cursor.left = blank.character :: (Gap.characters gap ++ rest) := standing
      have behind : cursor.step.left = Gap.characters gap ++ rest := by
        rw [Cursor.step_left, standing]
        rfl
      unfold Cursor.takeBreak
      rw [Cursor.here_eq standing] at ended ⊢
      cases blank with
      | space => cases ended
      | lineFeed => exact ⟨gap, Nat.lt_succ_self _, behind⟩
      | carriageReturn =>
          dsimp only [Blank.character]
          by_cases paired : cursor.peek 1 = '\n'
          · rw [if_pos (by simp [paired])]
            rw [Cursor.peek_eq standing] at paired
            cases gap with
            | nil =>
                cases rest with
                | nil => cases paired
                | cons next rest =>
                    have noBreak := starts.noBreak next rfl
                    have paired : next = '\n' := paired
                    rw [paired] at noBreak
                    cases noBreak
            | cons next gap =>
                refine ⟨gap, by simp only [List.length_cons]; omega, ?_⟩
                dsimp only [Cursor.skip]
                rw [Cursor.step_left, behind]
                rfl
          · rw [if_neg (by simp [paired]), if_pos (by decide)]
            exact ⟨gap, Nat.lt_succ_self _, behind⟩

/-- A value may end here: in front of a mark of the brackets around it, or at the end. -/
def Stops (inBrackets : Bool) (rest : List Char) : Prop :=
  rest = [] ∨ inBrackets = true ∧ ∃ mark later, rest = mark :: later ∧ isCloser mark = true

variable {inBrackets : Bool}

/-- What is true of the end and of the closing marks is true where a value ends. -/
theorem Stops.here {Holds : Char → Prop} (atEnd : Holds Yaml.endMark)
    (closers : [',', ']', '\x7d'].Forall Holds) (stops : Stops inBrackets rest)
    (standing : cursor.left = rest) : Holds cursor.here := by
  rcases stops with rfl | ⟨-, mark, later, rfl, closer⟩
  · rw [Cursor.here, standing]
    exact atEnd
  · rw [Cursor.here_eq standing]
    exact List.forall_iff_forall_mem.mp closers mark (List.contains_iff_mem.mp closer)

theorem Stops.starts (stops : Stops inBrackets rest) : Starts rest := by
  rcases stops with rfl | ⟨-, mark, later, rfl, closer⟩
  · exact fun _ member => nomatch member
  · have fronts : ∀ mark ∈ [',', ']', '\x7d'], isFront mark = true :=
      List.forall_iff_forall_mem.mp (by decide)
    intro next member
    cases member
    exact fronts mark (List.contains_iff_mem.mp closer)

/-- No document begins or ends behind a value. -/
theorem isAtDocumentMark_eq_false (standing : cursor.left = gap.characters ++ rest)
    (stops : Stops inBrackets rest) : cursor.isAtDocumentMark = false := by
  have differs : cursor.here ≠ '-' ∧ cursor.here ≠ '.' := by
    cases gap with
    | nil =>
        exact @Stops.here _ _ _ (fun here => here ≠ '-' ∧ here ≠ '.') (by decide) (by decide)
          stops standing
    | cons blank gap =>
        rw [Cursor.here_eq standing]
        cases blank <;> decide
  simp [Cursor.isAtDocumentMark, Cursor.isAtMark, differs]

/-! ## Plain scalars -/

theorem readPlainBreaks_gap (stops : Stops inBrackets rest) {fuel : Nat}
    (enough : gap.length < fuel) (standing : cursor.left = gap.characters ++ rest) :
    ∃ breaks after, Yaml.Flow.readPlainBreaks fuel cursor = (some breaks, after) ∧
      after.left = rest := by
  induction fuel generalizing cursor gap with
  | zero => cases enough
  | succ fuel ih =>
      unfold Yaml.Flow.readPlainBreaks
      cases gap with
      | nil =>
          obtain ⟨noSpace, noBreak⟩ := @Stops.here _ _ _
            (fun here => here ≠ ' ' ∧ Yaml.isBreak here = false) (by decide) (by decide)
            stops standing
          rw [if_neg noSpace, if_neg (by simp [noBreak])]
          exact ⟨[], cursor, rfl, standing⟩
      | cons blank gap =>
          have standing' : cursor.left = blank.character :: (Gap.characters gap ++ rest) := standing
          have behind : cursor.step.left = Gap.characters gap ++ rest := by
            rw [Cursor.step_left, standing']
            rfl
          by_cases space : blank = .space
          · subst space
            have here : cursor.here = ' ' := Cursor.here_eq standing'
            rw [if_pos here]
            exact ih (Nat.lt_of_succ_lt_succ enough) behind
          · have ended : Yaml.isBreak cursor.here = true := by
              rw [Cursor.here_eq standing']
              cases blank with
              | space => exact absurd rfl space
              | lineFeed => rfl
              | carriageReturn => rfl
            have noSpace : cursor.here ≠ ' ' := by
              intro same
              rw [same] at ended
              cases ended
            obtain ⟨later, shorter, left⟩ := takeBreak_gap standing stops.starts ended
            obtain ⟨breaks, after, read, left'⟩ := @ih _ later (by omega) left
            rw [if_neg noSpace, if_pos ended]
            dsimp only
            rw [isAtDocumentMark_eq_false left stops, if_neg Bool.false_ne_true, read]
            exact ⟨_, after, rfl, left'⟩

theorem readPlainSpaces_gap (stops : Stops inBrackets rest) {fuel : Nat}
    (enough : gap.length ≤ fuel) (standing : cursor.left = gap.characters ++ rest) :
    ∃ spaces after ended, Yaml.Flow.readPlainSpaces fuel cursor = (spaces, after, ended) ∧
      after.left = rest := by
  obtain ⟨count, later, rfl, ends, taken, left⟩ := take_spaces standing stops.starts
  unfold Yaml.Flow.readPlainSpaces
  rw [taken]
  dsimp only
  by_cases ended : Yaml.isBreak (cursor.skip count).here = true
  · obtain ⟨shorter, fewer, left'⟩ := takeBreak_gap left stops.starts ended
    rw [List.length_append] at enough
    obtain ⟨breaks, after, read, standing'⟩ :=
      readPlainBreaks_gap stops (show shorter.length < fuel by omega) left'
    rw [if_pos ended, isAtDocumentMark_eq_false left' stops, if_neg Bool.false_ne_true, read]
    exact ⟨_, after, true, rfl, standing'⟩
  · rw [if_neg ended]
    refine ⟨_, _, false, rfl, ?_⟩
    cases later with
    | nil => exact left
    | cons blank later =>
        rw [Cursor.here_eq left] at ended
        exact absurd (ends blank rfl) ended

/-- The characters that words of plain scalars consist of. -/
def isLetter : Char → Bool :=
  isDigitOr ['+', '-', '.', 'e', 'E', 'n', 'u', 'l', 't', 'r', 'f', 'a', 's']

theorem endsWord_of_isLetter {character : Char} (letter : isLetter character = true)
    (next : Char) : Yaml.Flow.endsWord inBrackets character next = false := by
  obtain ⟨noGap, noColon, noMark⟩ : Yaml.isGapOrEnd character = false ∧ character ≠ ':' ∧
      [',', '?', '[', ']', '\x7b', '\x7d'].contains character = false := by
    refine @forall_isDigitOr (fun character => Yaml.isGapOrEnd character = false ∧
      character ≠ ':' ∧ [',', '?', '[', ']', '\x7b', '\x7d'].contains character = false) _
      (fun digit isDigit => ?_) (by decide) character letter
    have differs {other : Char} (noDigit : other.isDigit = false) : digit ≠ other := by
      rintro rfl
      rw [noDigit] at isDigit
      cases isDigit
    refine ⟨(noGap_of_isFront (isDigitOr_of_isDigit _ isDigit)).1, differs (by decide), ?_⟩
    refine Bool.eq_false_iff.mpr fun found => ?_
    have marks : ∀ mark ∈ [',', '?', '[', ']', '\x7b', '\x7d'], mark.isDigit = false :=
      List.forall_iff_forall_mem.mp (by decide)
    exact differs (marks _ (List.contains_iff_mem.mp found)) rfl
  unfold Yaml.Flow.endsWord
  rw [noGap, noMark, beq_eq_false_iff_ne.mpr noColon, Bool.and_false]
  rfl

/-- A word ends at a gap and where a value may end. -/
theorem endsWord_of_stops (stops : Stops inBrackets rest) :
    ∀ first ∈ (gap.characters ++ rest).head?, ∀ next,
      Yaml.Flow.endsWord inBrackets first next = true := by
  intro first member next
  unfold Yaml.Flow.endsWord
  cases gap with
  | cons blank gap =>
      cases member
      cases blank <;> rfl
  | nil =>
      rcases stops with rfl | ⟨rfl, mark, later, rfl, closer⟩
      · cases member
      · cases member
        have ends : ∀ mark ∈ [',', ']', '\x7d'],
            [',', '?', '[', ']', '\x7b', '\x7d'].contains mark = true :=
          List.forall_iff_forall_mem.mp (by decide)
        simp only [ends _ (List.contains_iff_mem.mp closer), Bool.and_self, Bool.or_true]

theorem word_eq {found tail : List Char}
    (letters : ∀ character ∈ found, isLetter character = true)
    (ends : ∀ first ∈ tail.head?, ∀ next, Yaml.Flow.endsWord inBrackets first next = true) :
    Yaml.Flow.word inBrackets (found ++ tail) = found := by
  induction found with
  | nil =>
      cases tail with
      | nil => rfl
      | cons first tail => rw [List.nil_append, Yaml.Flow.word, ends first rfl, if_pos rfl]
  | cons first later ih =>
      obtain ⟨ofFirst, ofLater⟩ := List.forall_mem_cons.mp letters
      rw [List.cons_append, Yaml.Flow.word, endsWord_of_isLetter ofFirst,
        if_neg Bool.false_ne_true, ih ofLater]

/-- Where a value may end there are no more words. -/
theorem readWords_stops (stops : Stops inBrackets rest) (standing : cursor.left = rest)
    (fuel : Nat) (before : List Char) (lineEnded : Bool) (indent : Int) :
    Yaml.Flow.readWords inBrackets indent (fuel + 1) before lineEnded cursor =
      ([], cursor, lineEnded) := by
  have none : Yaml.Flow.word inBrackets cursor.left = [] := by
    rw [standing]
    exact @word_eq _ [] rest (fun _ member => nomatch member) (@endsWord_of_stops [] _ _ stops)
  unfold Yaml.Flow.readWords
  rw [none, ite_self]
  rfl

/-- **A word is read as a plain scalar, together with the gap behind it.** -/
theorem readPlain_eq {found : List Char} (nonempty : found ≠ [])
    (letters : ∀ character ∈ found, isLetter character = true) (stops : Stops inBrackets rest)
    (standing : cursor.left = found ++ (gap.characters ++ rest)) (indent : Int) :
    ∃ after lineEnded, Yaml.Flow.readPlain inBrackets indent cursor =
      (.scalar (String.ofList found) true, after, lineEnded) ∧ after.left = rest := by
  have words :
      (if cursor.here = '#' then [] else Yaml.Flow.word inBrackets cursor.left) = found := by
    have noComment : cursor.here ≠ '#' := by
      obtain ⟨first, later, rfl⟩ := List.exists_cons_of_ne_nil nonempty
      rw [Cursor.here_eq standing]
      rintro rfl
      cases letters '#' (List.mem_cons_self ..)
    rw [if_neg noComment, standing]
    exact word_eq letters (endsWord_of_stops stops)
  have behind : (cursor.skip found.length).left = gap.characters ++ rest := by
    rw [Cursor.skip_left, standing, List.drop_left]
  have enough : gap.length ≤ cursor.left.length := by
    rw [standing, Gap.characters, List.length_append, List.length_append, List.length_map]
    omega
  obtain ⟨spaces, after, ended, read, left⟩ := readPlainSpaces_gap stops enough behind
  have isWord : found.isEmpty = false := by simp [nonempty]
  unfold Yaml.Flow.readPlain Yaml.Flow.readWords
  rw [words]
  dsimp only
  rw [isWord, if_neg Bool.false_ne_true, read]
  dsimp only
  split
  · exact ⟨after, ended, rfl, left⟩
  · obtain ⟨less, more⟩ : ∃ less, cursor.left.length = less + 1 := by
      refine Nat.exists_eq_add_one.mpr ?_
      rw [standing, List.length_append]
      exact Nat.lt_of_lt_of_le (List.length_pos_of_ne_nil nonempty) (Nat.le_add_right _ _)
    rw [more, readWords_stops stops left]
    exact ⟨after, ended, by simp, left⟩

end Gaps

end Script

end GuestFlow
