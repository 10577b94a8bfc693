import GuestFlow.Proofs.Script.Syntax
import GuestFlow.Yaml.Scalar
import Mathlib.Data.List.TakeWhile

/-!
# How numbers are read

The number that a script writes is read in the same way by JSON and by YAML, once it is known
where its digits end.  JSON reads the numeral with its sign; YAML reads the digits in small
letters, and the sign on its own.
-/

set_option autoImplicit false

namespace GuestFlow

/-! ## Digits -/

theorem bounds_of_isDigit {digit : Char} (isDigit : digit.isDigit = true) :
    0x30 ≤ digit.toNat ∧ digit.toNat ≤ 0x39 := by
  simp only [Char.isDigit, Bool.and_eq_true, decide_eq_true_eq, ge_iff_le] at isDigit
  exact ⟨UInt32.le_iff_toNat_le.mp isDigit.1, UInt32.le_iff_toNat_le.mp isDigit.2⟩

theorem toLower_of_isDigit {digit : Char} (isDigit : digit.isDigit = true) :
    digit.toLower = digit := by
  have bounds := bounds_of_isDigit isDigit
  unfold Char.toLower
  refine dif_neg fun upper => ?_
  have least : 'A'.toNat ≤ digit.toNat := UInt32.le_iff_toNat_le.mp upper.1
  have letter : 'A'.toNat = 0x41 := rfl
  omega

/-- A digit or one of some marks. -/
def isDigitOr (marks : List Char) (character : Char) : Bool :=
  character.isDigit || marks.contains character

/-- What is true of the digits and of the marks is true of all such characters. -/
theorem forall_isDigitOr {Holds : Char → Prop} {marks : List Char}
    (digits : ∀ digit, digit.isDigit = true → Holds digit) (others : marks.Forall Holds)
    {character : Char} (found : isDigitOr marks character = true) : Holds character := by
  rcases Bool.or_eq_true_iff.mp found with digit | other
  · exact digits character digit
  · exact List.forall_iff_forall_mem.mp others character (List.contains_iff_mem.mp other)

theorem isDigitOr_of_isDigit (marks : List Char) {digit : Char} (isDigit : digit.isDigit = true) :
    isDigitOr marks digit = true := by
  rw [isDigitOr, isDigit, Bool.true_or]

namespace Numeral

/-- The characters that numbers of scripts are written with. -/
def isMark : Char → Bool := isDigitOr ['+', '-', '.', 'e', 'E']

theorem simplify_eq {character : Char} (mark : isMark character = true) :
    simplify character = character := by
  have small : character.toNat < 0x7f := by
    refine @forall_isDigitOr (fun character => character.toNat < 0x7f) _ (fun digit isDigit => ?_)
      (by decide) character mark
    have bounds := bounds_of_isDigit isDigit
    omega
  unfold simplify
  rw [if_pos small]

theorem isPlainBlank_eq_false {character : Char} (mark : isMark character = true) :
    isPlainBlank character = false := by
  refine @forall_isDigitOr (fun character => isPlainBlank character = false) _
    (fun digit isDigit => ?_) (by decide) character mark
  have bounds := bounds_of_isDigit isDigit
  have differs : digit ≠ ' ' := by rintro rfl; cases isDigit
  simp only [isPlainBlank, Bool.or_eq_false_iff, beq_eq_false_iff_ne, ne_eq, differs,
    not_false_eq_true, true_and, Bool.and_eq_false_iff, decide_eq_false_iff_not]
  omega

theorem ne_underscore {character : Char} (mark : isMark character = true) : character ≠ '_' := by
  rintro rfl
  cases mark

variable {characters : List Char}

/-- A numeral of such characters has nothing around it. -/
theorem plain_eq (marks : ∀ character ∈ characters, isMark character = true) :
    plain (String.ofList characters) = characters := by
  have simplified : characters.map simplify = characters := by
    rw [List.map_congr_left fun character member => simplify_eq (marks character member)]
    exact List.map_id _
  have solid (list : List Char) (within : ∀ character ∈ list, character ∈ characters) :
      list.dropWhile isPlainBlank = list := by
    cases list with
    | nil => rfl
    | cons first rest =>
        rw [List.dropWhile_cons_of_neg]
        simp [isPlainBlank_eq_false (marks first (within first (List.mem_cons_self ..)))]
  unfold plain
  dsimp only
  rw [String.toList_ofList, simplified, solid characters fun _ member => member,
    solid characters.reverse fun _ member => List.mem_reverse.mp member, List.reverse_reverse]

theorem dropUnderscores_eq (marks : ∀ character ∈ characters, isMark character = true)
    {previous : Option Char} (before : previous ≠ some '_') :
    dropUnderscores previous characters = some characters := by
  induction characters generalizing previous with
  | nil => simp [dropUnderscores, before]
  | cons first rest ih =>
      obtain ⟨mark, later⟩ := List.forall_mem_cons.mp marks
      have differs := ne_underscore mark
      unfold dropUnderscores
      split
      · rename_i none
        cases none
      · rename_i some
        exact absurd (List.cons.inj some).1 differs
      · rename_i same
        cases same
        rw [if_neg (by simp [before]), ih later (by simpa using differs)]
        rfl

/-- Digits in front of something else are taken up to there. -/
theorem spanDigits_append {digits rest : List Char}
    (areDigits : ∀ digit ∈ digits, digit.isDigit = true)
    (stops : ∀ next ∈ rest.head?, next.isDigit = false) :
    spanDigits (digits ++ rest) = (digits, rest) := by
  unfold spanDigits
  rw [List.takeWhile_append_of_pos areDigits, List.dropWhile_append_of_pos areDigits]
  cases rest with
  | nil => simp
  | cons next rest =>
      have stop : next.isDigit = false := stops next rfl
      simp [stop]

theorem spanDigits_eq {digits : List Char} (areDigits : ∀ digit ∈ digits, digit.isDigit = true) :
    spanDigits digits = (digits, []) := by
  simpa using @spanDigits_append digits [] areDigits (by simp)

theorem digit?_of_isDigit {digit : Char} (isDigit : digit.isDigit = true) :
    digit? 10 digit = some (digit.toNat - 0x30) := by
  have bounds := bounds_of_isDigit isDigit
  have value_lt : digit.toNat - 0x30 < 10 := by omega
  simp [digit?, bounds, value_lt]

theorem takeDigits_eq {digits : List Char} (areDigits : ∀ digit ∈ digits, digit.isDigit = true) :
    takeDigits 10 digits = (digits.map fun digit => digit.toNat - 0x30, false, []) := by
  induction digits with
  | nil => rfl
  | cons first rest ih =>
      obtain ⟨isDigit, later⟩ := List.forall_mem_cons.mp areDigits
      unfold takeDigits
      split
      · rename_i none
        cases none
      · rename_i some
        obtain ⟨rfl, _⟩ := List.cons.inj some
        cases isDigit
      · rename_i same
        cases same
        rw [digit?_of_isDigit isDigit, ih later]
        rfl

theorem skipBaseMark_ten (characters : List Char) : skipBaseMark 10 characters = characters := by
  unfold skipBaseMark
  split
  · simp
  · rfl

end Numeral

namespace Script

namespace Digits

variable (digits : Digits)

/-- The first digit. -/
theorem exists_first : ∃ first rest, digits.characters = first :: rest ∧ first.isDigit = true := by
  cases written : digits.characters with
  | nil => exact absurd written digits.nonempty
  | cons first rest =>
      exact ⟨first, rest, rfl, digits.areDigits first (by rw [written]; exact List.mem_cons_self ..)⟩

theorem areMarks : ∀ digit ∈ digits.characters, Numeral.isMark digit = true := by
  exact fun digit member => isDigitOr_of_isDigit _ (digits.areDigits digit member)

end Digits

namespace Figure

/-- A numeral is split into its sign and the rest. -/
theorem takeSign_sign (isNegative : Bool) {first : Char} (isDigit : first.isDigit = true)
    (rest : List Char) :
    Numeral.takeSign (sign isNegative ++ first :: rest) = (isNegative, first :: rest) := by
  cases isNegative with
  | true => rfl
  | false =>
      unfold Numeral.takeSign sign
      split
      · rename_i minus
        obtain ⟨rfl, _⟩ := List.cons.inj minus
        cases isDigit
      · rename_i plus
        obtain ⟨rfl, _⟩ := List.cons.inj plus
        cases isDigit
      · rfl

theorem areMarks_sign (isNegative : Bool) :
    ∀ character ∈ sign isNegative, Numeral.isMark character = true := by
  cases isNegative <;> exact List.forall_iff_forall_mem.mp (by decide)

theorem readInteger_eq (isNegative : Bool) (digits : Digits)
    (few : digits.characters.length ≤ Numeral.digitLimit) :
    Numeral.readInteger 10 (String.ofList (sign isNegative ++ digits.characters)) =
      .ok (if isNegative then -(Numeral.digitsValue digits.characters : Int)
        else Numeral.digitsValue digits.characters) := by
  have marks : ∀ character ∈ sign isNegative ++ digits.characters,
      Numeral.isMark character = true := by
    rw [List.forall_mem_append]
    exact ⟨areMarks_sign isNegative, digits.areMarks⟩
  obtain ⟨first, rest, written, isDigit⟩ := digits.exists_first
  have differs : first ≠ '_' := by
    rintro rfl
    cases isDigit
  unfold Numeral.readInteger
  rw [Numeral.plain_eq marks]
  have areDigits := digits.areDigits
  rw [written] at areDigits few ⊢
  rw [takeSign_sign isNegative isDigit]
  dsimp only
  rw [Numeral.skipBaseMark_ten, if_neg (by simpa using differs), Numeral.takeDigits_eq areDigits]
  dsimp only
  rw [if_neg (by simp), if_neg (by simpa using few)]
  rfl

/-- A word for a number has no digit in front. -/
theorem special?_eq_none (isNegative : Bool) {first : Char} (isDigit : first.isDigit = true)
    (rest : List Char) : Numeral.special? isNegative (first :: rest) = none := by
  have differs {word : String} {other : Char} {others : List Char}
      (spelled : word.toList = other :: others) (noDigit : other.isDigit = false) :
      String.ofList ((first :: rest).map Char.toLower) ≠ word := by
    intro same
    have same := congrArg String.toList same
    rw [String.toList_ofList, List.map_cons, toLower_of_isDigit isDigit, spelled] at same
    rw [(List.cons.inj same).1, noDigit] at isDigit
    cases isDigit
  have noInfinity : ¬(String.ofList ((first :: rest).map Char.toLower) = "inf" ||
      String.ofList ((first :: rest).map Char.toLower) = "infinity") = true := by
    simp only [Bool.or_eq_true, decide_eq_true_eq, not_or]
    exact ⟨differs rfl rfl, differs rfl rfl⟩
  unfold Numeral.special?
  dsimp only
  rw [if_neg noInfinity, if_neg (differs rfl rfl)]

theorem readExponent?_ending (fraction : Fraction) :
    Numeral.readExponent? fraction.ending =
      some (fraction.scale + (fraction.digits.characters.length : Nat)) := by
  unfold Fraction.ending Fraction.scale
  cases fraction.exponent with
  | none =>
      simp only [Numeral.readExponent?, Option.some.injEq]
      omega
  | some exponent =>
      obtain ⟨isCapital, isNegative, digits⟩ := exponent
      have signed : Numeral.takeSign ((if isNegative then '-' else '+') :: digits.characters) =
          (isNegative, digits.characters) := by
        cases isNegative with
        | true => rfl
        | false => rfl
      have nonempty : digits.characters.isEmpty = false := by simp [digits.nonempty]
      simp [Exponent.characters, Exponent.value, Numeral.readExponent?, signed, nonempty,
        Numeral.spanDigits_eq digits.areDigits]

theorem areMarks_fraction (fraction : Fraction) :
    ∀ character ∈ fraction.characters, Numeral.isMark character = true := by
  obtain ⟨digits, exponent⟩ := fraction
  have ending : ∀ character ∈ Fraction.ending ⟨digits, exponent⟩,
      Numeral.isMark character = true := by
    cases exponent with
    | none => simp [Fraction.ending]
    | some exponent =>
        obtain ⟨isCapital, isNegative, digits⟩ := exponent
        simp only [Fraction.ending, Exponent.characters, List.forall_mem_cons]
        exact ⟨by cases isCapital <;> rfl, by cases isNegative <;> rfl, digits.areMarks⟩
  rw [Fraction.characters, List.forall_mem_cons, List.forall_mem_append]
  exact ⟨by decide, digits.areMarks, ending⟩

/-- The fraction ends before its exponent. -/
theorem stops_ending (fraction : Fraction) :
    ∀ next ∈ fraction.ending.head?, next.isDigit = false := by
  unfold Fraction.ending
  cases fraction.exponent with
  | none => simp
  | some exponent =>
      intro next member
      have same : (if exponent.isCapital = true then 'E' else 'e') = next := by
        simpa [Exponent.characters] using member
      subst same
      cases exponent.isCapital <;> decide

theorem readDecimal?_eq (isNegative : Bool) (whole : Whole) (fraction : Fraction) :
    Numeral.readDecimal? isNegative (whole.characters ++ fraction.characters) =
      some (Binary64.ofDecimal isNegative
        (Numeral.digitsValue (whole.characters ++ fraction.digits.characters)) fraction.scale) := by
  have nonempty : whole.characters.isEmpty = false := by simp [whole.nonempty]
  unfold Numeral.readDecimal?
  rw [Numeral.spanDigits_append whole.areDigits (by simp [Fraction.characters])]
  simp only [Fraction.characters]
  rw [Numeral.spanDigits_append fraction.digits.areDigits (stops_ending fraction)]
  dsimp only
  rw [if_neg (by simp [nonempty]), readExponent?_ending]
  simp

theorem readNumber?_eq (isNegative : Bool) (whole : Whole) (fraction : Fraction) :
    Numeral.readNumber? (String.ofList
        (sign isNegative ++ (whole.characters ++ fraction.characters))) =
      some (Binary64.ofDecimal isNegative
        (Numeral.digitsValue (whole.characters ++ fraction.digits.characters)) fraction.scale) := by
  have marks : ∀ character ∈ sign isNegative ++ (whole.characters ++ fraction.characters),
      Numeral.isMark character = true := by
    rw [List.forall_mem_append, List.forall_mem_append]
    exact ⟨areMarks_sign isNegative, whole.areMarks, areMarks_fraction fraction⟩
  have decimal := readDecimal?_eq isNegative whole fraction
  obtain ⟨first, rest, written, isDigit⟩ := whole.exists_first
  unfold Numeral.readNumber?
  rw [Numeral.plain_eq marks, Numeral.dropUnderscores_eq marks (Option.some_ne_none _).symm]
  rw [written, List.cons_append] at decimal ⊢
  rw [Option.bind_some, takeSign_sign isNegative isDigit]
  dsimp only
  rw [special?_eq_none isNegative isDigit, decimal]
  rfl

/-! ## The form of a number -/

variable (figure : Figure)

/-- A figure begins with a sign or with a digit. -/
theorem areMarks : ∀ character ∈ figure.characters, Numeral.isMark character = true := by
  cases figure with
  | integer isNegative whole few =>
      exact List.forall_mem_append.mpr ⟨areMarks_sign isNegative, whole.areMarks⟩
  | decimal isNegative whole fraction =>
      exact List.forall_mem_append.mpr ⟨areMarks_sign isNegative,
        List.forall_mem_append.mpr ⟨whole.areMarks, areMarks_fraction fraction⟩⟩

theorem characters_ne_nil : figure.characters ≠ [] := by
  cases figure with
  | integer isNegative whole few => simp [characters, whole.nonempty]
  | decimal isNegative whole fraction => simp [characters, whole.nonempty]

/-- No text that begins with something else is the text of a figure. -/
theorem ne_of_head {text : String} (differs : text.toList.head?.any Numeral.isMark = false) :
    String.ofList figure.characters ≠ text := by
  rintro rfl
  rw [String.toList_ofList] at differs
  cases written : figure.characters with
  | nil => exact figure.characters_ne_nil written
  | cons first rest =>
      have mark := figure.areMarks first (by rw [written]; exact List.mem_cons_self ..)
      rw [written, List.head?_cons, Option.any_some, mark] at differs
      cases differs

theorem withoutLineEnd_eq : Yaml.Tag.withoutLineEnd figure.characters = figure.characters := by
  refine if_neg fun ended => ?_
  have mark := figure.areMarks '\n' (List.mem_of_getLast? ended)
  cases mark

theorem withoutSign_eq (isNegative : Bool) {first : Char} (isDigit : first.isDigit = true)
    (rest : List Char) : Yaml.Tag.withoutSign (sign isNegative ++ first :: rest) = first :: rest := by
  cases isNegative with
  | true => rfl
  | false =>
      unfold Yaml.Tag.withoutSign sign
      split
      · rename_i plus
        obtain ⟨rfl, _⟩ := List.cons.inj plus
        cases isDigit
      · rename_i minus
        obtain ⟨rfl, _⟩ := List.cons.inj minus
        cases isDigit
      · rfl

/-- A figure is no word. -/
theorem isTruthWord_eq_false :
    Yaml.Tag.isTruthWord (String.ofList figure.characters) = false := by
  have letters : ∀ word ∈ Yaml.Tag.truthWords.flatMap Yaml.Tag.spellings,
      word.toList.head?.any Numeral.isMark = false := by decide +kernel
  refine Bool.eq_false_iff.mpr fun isWord => ?_
  have member := List.contains_iff_mem.mp isWord
  exact figure.ne_of_head (letters _ member) rfl

/-! ## The tag of a number -/

theorem isDigits_eq (digits : Digits) : Yaml.Tag.isDigits digits.characters = true := by
  obtain ⟨first, rest, written, isDigit⟩ := digits.exists_first
  have areDigits := digits.areDigits
  rw [written, List.forall_mem_cons] at areDigits
  rw [written]
  simp only [Yaml.Tag.isDigits, isDigit, Bool.true_and, List.all_eq_true]
  intro digit member
  simp [Yaml.Tag.orUnderscore, areDigits.2 digit member]

theorem isInteger_eq (isNegative : Bool) (whole : Whole) :
    Yaml.Tag.isInteger (sign isNegative ++ whole.characters) = true := by
  obtain ⟨first, rest, written, isDigit⟩ := whole.exists_first
  have areDigits := isDigits_eq whole.toDigits
  have noLeadingZero := whole.noLeadingZero
  unfold Yaml.Tag.isInteger
  rw [written] at areDigits noLeadingZero ⊢
  rw [withoutSign_eq isNegative isDigit]
  rcases noLeadingZero with zero | differs
  · obtain ⟨rfl, rfl⟩ := List.cons.inj zero
    rfl
  · have differs : first ≠ '0' := fun same => differs (by rw [same]; rfl)
    split
    · rename_i zero
      exact absurd (List.cons.inj zero).1 differs
    · rename_i zero
      exact absurd (List.cons.inj zero).1 differs
    · rename_i zero
      exact absurd (List.cons.inj zero).1 differs
    · rename_i zero
      exact absurd (List.cons.inj zero).1 differs
    · rw [areDigits, Bool.true_or]

/-- Digits end at the point, if there is one. -/
theorem ne_point {digits : List Char} (areDigits : ∀ digit ∈ digits, digit.isDigit = true) :
    ∀ digit ∈ digits, (digit != '.') = true := by
  intro digit member
  refine bne_iff_ne.mpr ?_
  rintro rfl
  cases areDigits '.' member

theorem isNumber_whole (isNegative : Bool) (whole : Whole) :
    Yaml.Tag.isNumber (sign isNegative ++ whole.characters) = false := by
  have noPoint := ne_point whole.areDigits
  obtain ⟨first, rest, written, isDigit⟩ := whole.exists_first
  unfold Yaml.Tag.isNumber
  rw [written] at noPoint ⊢
  rw [withoutSign_eq isNegative isDigit]
  have consumed : (first :: rest).dropWhile (fun character => character != '.') = [] :=
    List.dropWhile_eq_nil_iff.mpr noPoint
  dsimp only
  rw [consumed]

theorem isFraction_eq (fraction : Fraction) :
    Yaml.Tag.isFraction (fraction.digits.characters ++ fraction.ending) = true := by
  have areDigits : ∀ digit ∈ fraction.digits.characters,
      Yaml.Tag.orUnderscore Char.isDigit digit = true := by
    intro digit member
    simp [Yaml.Tag.orUnderscore, fraction.digits.areDigits digit member]
  unfold Yaml.Tag.isFraction
  rw [List.dropWhile_append_of_pos areDigits]
  unfold Fraction.ending
  cases fraction.exponent with
  | none => rfl
  | some exponent =>
      obtain ⟨isCapital, isNegative, digits⟩ := exponent
      have nonempty : digits.characters.isEmpty = false := by simp [digits.nonempty]
      have all : digits.characters.all Char.isDigit = true := List.all_eq_true.mpr digits.areDigits
      cases isCapital <;> cases isNegative <;>
        simp [Exponent.characters, Yaml.Tag.orUnderscore, Yaml.Tag.isExponent, nonempty, all]

theorem isNumber_fraction (isNegative : Bool) (whole : Whole) (fraction : Fraction) :
    Yaml.Tag.isNumber (sign isNegative ++ (whole.characters ++ fraction.characters)) = true := by
  have noPoint := ne_point whole.areDigits
  have areDigits := isDigits_eq whole.toDigits
  have nonempty : whole.characters.isEmpty = false := by simp [whole.nonempty]
  have unsigned : Yaml.Tag.withoutSign
      (sign isNegative ++ (whole.characters ++ fraction.characters)) =
        whole.characters ++ fraction.characters := by
    obtain ⟨first, rest, written, isDigit⟩ := whole.exists_first
    rw [written]
    exact withoutSign_eq isNegative isDigit _
  unfold Yaml.Tag.isNumber
  rw [unsigned]
  dsimp only
  rw [List.takeWhile_append_of_pos noPoint, List.dropWhile_append_of_pos noPoint]
  simp [Fraction.characters, nonempty, areDigits, isFraction_eq]

/-- The tag of the number. -/
def tag : Figure → Yaml.Tag
  | integer .. => .int
  | decimal .. => .float

/-- A plain scalar that is a figure is tagged as the kind of number that it is. -/
theorem ofPlain_eq : Yaml.Tag.ofPlain (String.ofList figure.characters) = figure.tag := by
  unfold Yaml.Tag.ofPlain
  dsimp only
  rw [String.toList_ofList, withoutLineEnd_eq, if_neg (by simp [isTruthWord_eq_false])]
  cases figure with
  | integer isNegative whole few =>
      have noNumber : Yaml.Tag.isNumber (integer isNegative whole few).characters = false :=
        isNumber_whole isNegative whole
      have isInteger : Yaml.Tag.isInteger (integer isNegative whole few).characters = true :=
        isInteger_eq isNegative whole
      rw [noNumber, isInteger, if_neg Bool.false_ne_true, if_pos rfl]
      rfl
  | decimal isNegative whole fraction =>
      have isNumber : Yaml.Tag.isNumber (decimal isNegative whole fraction).characters = true :=
        isNumber_fraction isNegative whole fraction
      rw [isNumber, if_pos rfl]
      rfl

/-! ## The value of a number -/

theorem withoutUnderscores_eq :
    Yaml.Scalar.withoutUnderscores (String.ofList figure.characters) = figure.characters := by
  unfold Yaml.Scalar.withoutUnderscores
  rw [String.toList_ofList, List.filter_eq_self]
  intro character member
  exact bne_iff_ne.mpr (Numeral.ne_underscore (figure.areMarks character member))

theorem readMagnitude_eq (whole : Whole)
    (few : whole.characters.length ≤ Numeral.digitLimit) :
    Yaml.Scalar.readMagnitude whole.characters =
      .ok (Numeral.digitsValue whole.characters : Int) := by
  have read := readInteger_eq false whole.toDigits few
  have noLeadingZero := whole.noLeadingZero
  have noColon : whole.characters.contains ':' = false := by
    refine Bool.eq_false_iff.mpr fun member => ?_
    cases whole.areDigits ':' (List.contains_iff_mem.mp member)
  obtain ⟨first, rest, written, isDigit⟩ := whole.exists_first
  unfold Yaml.Scalar.readMagnitude
  simp only [sign, Bool.false_eq_true, if_false, List.nil_append] at read
  rw [written] at noLeadingZero noColon read ⊢
  rcases noLeadingZero with zero | differs
  · obtain ⟨rfl, rfl⟩ := List.cons.inj zero
    rfl
  · have differs : first ≠ '0' := fun same => differs (by rw [same]; rfl)
    split
    · rename_i none
      cases none
    · rename_i zero
      exact absurd (List.cons.inj zero).1 differs
    · rename_i zero
      exact absurd (List.cons.inj zero).1 differs
    · rename_i zero
      exact absurd (List.cons.inj zero).1 differs
    · rename_i zero
      exact absurd (List.cons.inj zero).1 differs
    · rw [noColon, if_neg Bool.false_ne_true, read]
      rfl

theorem scalar_readInteger_eq (isNegative : Bool) (whole : Whole)
    (few : whole.characters.length ≤ Numeral.digitLimit) :
    Yaml.Scalar.readInteger (String.ofList (integer isNegative whole few).characters) =
      .ok (integer isNegative whole few).value := by
  have nonempty := (integer isNegative whole few).characters_ne_nil
  have signed : Numeral.takeSign (integer isNegative whole few).characters =
      (isNegative, whole.characters) := by
    obtain ⟨first, rest, written, isDigit⟩ := whole.exists_first
    simp only [characters, written]
    exact takeSign_sign isNegative isDigit rest
  unfold Yaml.Scalar.readInteger
  rw [withoutUnderscores_eq]
  dsimp only
  rw [if_neg (by simpa using nonempty), signed]
  dsimp only
  rw [readMagnitude_eq whole few]
  rfl

/-- The same fraction in small letters. -/
def smallFraction (fraction : Fraction) : Fraction :=
  { fraction with exponent := fraction.exponent.map ({ · with isCapital := false }) }

theorem map_toLower_digits (digits : Digits) :
    digits.characters.map Char.toLower = digits.characters := by
  rw [List.map_congr_left fun digit member => toLower_of_isDigit (digits.areDigits digit member)]
  exact List.map_id _

theorem map_toLower_fraction (fraction : Fraction) :
    fraction.characters.map Char.toLower = (smallFraction fraction).characters := by
  obtain ⟨digits, exponent⟩ := fraction
  cases exponent with
  | none =>
      simp only [Fraction.characters, Fraction.ending, smallFraction, List.map_cons,
        List.map_append, map_toLower_digits]
      rfl
  | some exponent =>
      obtain ⟨isCapital, isNegative, exponentDigits⟩ := exponent
      simp only [Fraction.characters, Fraction.ending, smallFraction, Option.map_some,
        Exponent.characters, List.map_cons, List.map_append, map_toLower_digits]
      cases isCapital <;> cases isNegative <;> rfl

theorem scale_smallFraction (fraction : Fraction) :
    (smallFraction fraction).scale = fraction.scale := by
  obtain ⟨digits, exponent⟩ := fraction
  cases exponent <;> rfl

theorem toLower_sign (isNegative : Bool) :
    (sign isNegative).map Char.toLower = sign isNegative := by
  cases isNegative <;> rfl

theorem toNat_lt_of_isMark {character : Char} (mark : Numeral.isMark character = true) :
    character.toNat < 0x80 := by
  refine @forall_isDigitOr (fun character => character.toNat < 0x80) _ (fun digit isDigit => ?_)
    (by decide) character mark
  have bounds := bounds_of_isDigit isDigit
  omega

theorem small_eq : (Letter.small (String.ofList figure.characters)).toList =
    figure.characters.map Char.toLower := by
  unfold Letter.small
  rw [String.toList_ofList, String.toList_ofList, List.map_eq_flatMap, List.flatMap_def,
    List.flatMap_def]
  congr 1
  refine List.map_congr_left fun character member => ?_
  rw [if_pos (toNat_lt_of_isMark (figure.areMarks character member))]

theorem negate_ofDecimal (digits : Nat) (scale : Int) :
    (Binary64.ofDecimal false digits scale).negate = Binary64.ofDecimal true digits scale := by
  have rounded (numerator denominator : Nat) :
      (Binary64.round false numerator denominator).negate =
        Binary64.round true numerator denominator := by
    unfold Binary64.round
    dsimp only
    split_ifs <;> rfl
  unfold Binary64.ofDecimal
  dsimp only
  split_ifs
  · rfl
  · rfl
  · rfl
  · exact rounded _ _
  · exact rounded _ _

/-- No colon stands in a number, and no point at its front. -/
theorem readUnsigned_eq (whole : Whole) (fraction : Fraction) :
    Yaml.Scalar.readUnsigned (String.ofList (whole.characters ++ fraction.characters)) =
      .ok (Binary64.ofDecimal false
        (Numeral.digitsValue (whole.characters ++ fraction.digits.characters)) fraction.scale) := by
  have read := readNumber?_eq false whole fraction
  simp only [sign, Bool.false_eq_true, if_false, List.nil_append] at read
  have noColon : (whole.characters ++ fraction.characters).contains ':' = false := by
    refine Bool.eq_false_iff.mpr fun member => ?_
    cases (decimal false whole fraction).areMarks ':' (List.contains_iff_mem.mp member)
  have differs {text : String} {others : List Char} (spelled : text.toList = '.' :: others) :
      String.ofList (whole.characters ++ fraction.characters) ≠ text := by
    intro same
    have same := congrArg String.toList same
    obtain ⟨first, rest, written, isDigit⟩ := whole.exists_first
    rw [String.toList_ofList, written, spelled, List.cons_append] at same
    rw [(List.cons.inj same).1] at isDigit
    cases isDigit
  unfold Yaml.Scalar.readUnsigned
  rw [if_neg (differs rfl), if_neg (differs rfl), String.toList_ofList, noColon,
    if_neg Bool.false_ne_true]
  unfold Value.toNumber
  dsimp only
  rw [read]

theorem scalar_readNumber_eq (isNegative : Bool) (whole : Whole) (fraction : Fraction) :
    Yaml.Scalar.readNumber (String.ofList (decimal isNegative whole fraction).characters) =
      .ok (decimal isNegative whole fraction).value := by
  have nonempty := (decimal isNegative whole fraction).characters_ne_nil
  have inSmall : (decimal isNegative whole fraction).characters.map Char.toLower =
      sign isNegative ++ (whole.characters ++ (smallFraction fraction).characters) := by
    simp only [characters, List.map_append, toLower_sign, map_toLower_digits, map_toLower_fraction]
  have signed : Numeral.takeSign
      (sign isNegative ++ (whole.characters ++ (smallFraction fraction).characters)) =
        (isNegative, whole.characters ++ (smallFraction fraction).characters) := by
    obtain ⟨first, rest, written, isDigit⟩ := whole.exists_first
    rw [written]
    exact takeSign_sign isNegative isDigit _
  unfold Yaml.Scalar.readNumber
  rw [withoutUnderscores_eq, small_eq]
  dsimp only
  rw [if_neg (by simpa using nonempty), inSmall, signed]
  dsimp only
  rw [readUnsigned_eq, scale_smallFraction]
  cases isNegative with
  | false => rfl
  | true =>
      have negated := negate_ofDecimal
        (Numeral.digitsValue (whole.characters ++ fraction.digits.characters)) fraction.scale
      exact congrArg (fun number => Except.ok (Value.float number)) negated

/-- **A plain scalar that is a figure has the value of the figure.** -/
theorem read_ofPlain :
    Yaml.Scalar.read (Yaml.Tag.ofPlain (String.ofList figure.characters))
      (String.ofList figure.characters) = .ok figure.value := by
  rw [ofPlain_eq]
  cases figure with
  | integer isNegative whole few => exact scalar_readInteger_eq isNegative whole few
  | decimal isNegative whole fraction => exact scalar_readNumber_eq isNegative whole fraction

end Figure

/-- A plain scalar that is a word has the value of the word. -/
theorem Word.read_ofPlain (word : Word) :
    Yaml.Scalar.read (Yaml.Tag.ofPlain word.text) word.text = .ok word.value := by
  cases word <;> decide +kernel

end Script

end GuestFlow
