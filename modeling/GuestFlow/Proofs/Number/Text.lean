import GuestFlow.Json.Writer
import GuestFlow.Proofs.Number.Digits
import GuestFlow.Proofs.Number.Shortest
import GuestFlow.Proofs.Script.ByJson

/-!
# The text of a number

The text of a number of 64 bits, in each layout that names the infinities as JSON does, is a
numeral that the JSON reader takes for that number (`Json.readValue_numberText`).  The numeral
has a point, or an exponent, or both: a `Json.Decimal`.  It is enough that it stands for the
same decimal as the shortest digits, because that one is rounded to the number.
-/

set_option autoImplicit false

namespace GuestFlow

open Script (Digits Whole Fraction Exponent)

namespace Json

/-! ## Numerals -/

/-- An unsigned numeral of a number of 64 bits: it has a point, or an exponent. -/
inductive Decimal where
  | pointed (whole : Whole) (fraction : Fraction)
  | raised (whole : Whole) (exponent : Exponent)

namespace Decimal

def characters : Decimal → List Char
  | pointed whole fraction => whole.characters ++ fraction.characters
  | raised whole exponent => whole.characters ++ exponent.characters

def digits : Decimal → ℕ
  | pointed whole fraction => Numeral.digitsValue (whole.characters ++ fraction.digits.characters)
  | raised whole _ => Numeral.digitsValue whole.characters

def scale : Decimal → ℤ
  | pointed _ fraction => fraction.scale
  | raised _ exponent => exponent.value

/-- What a numeral stands for. -/
def worth (decimal : Decimal) : ℚ := decimal.digits * 10 ^ decimal.scale

/-- The digits that a numeral begins with, and what follows them. -/
theorem exists_whole (decimal : Decimal) :
    ∃ (whole : Whole) (rest : List Char), decimal.characters = whole.characters ++ rest := by
  cases decimal with
  | pointed whole fraction => exact ⟨whole, _, rfl⟩
  | raised whole exponent => exact ⟨whole, _, rfl⟩

theorem areMarks_raised (exponent : Exponent) :
    ∀ character ∈ exponent.characters, Numeral.isMark character = true := by
  obtain ⟨isCapital, isNegative, digits⟩ := exponent
  rw [Exponent.characters, List.forall_mem_cons, List.forall_mem_cons]
  exact ⟨by cases isCapital <;> rfl, by cases isNegative <;> rfl, digits.areMarks⟩

theorem areMarks (decimal : Decimal) :
    ∀ character ∈ decimal.characters, Numeral.isMark character = true := by
  cases decimal with
  | pointed whole fraction =>
      exact List.forall_mem_append.mpr ⟨whole.areMarks, Script.Figure.areMarks_fraction fraction⟩
  | raised whole exponent =>
      exact List.forall_mem_append.mpr ⟨whole.areMarks, areMarks_raised exponent⟩

/-- An exponent begins with a letter that neither is a digit nor a point. -/
theorem exists_mark (exponent : Exponent) :
    ∃ mark rest, exponent.characters = mark :: rest ∧ mark.isDigit = false ∧ mark ≠ '.' := by
  obtain ⟨isCapital, isNegative, digits⟩ := exponent
  cases isCapital
  · exact ⟨'e', _, rfl, rfl, by decide⟩
  · exact ⟨'E', _, rfl, rfl, by decide⟩

theorem readDecimal?_raised (isNegative : Bool) (whole : Whole) (exponent : Exponent) :
    Numeral.readDecimal? isNegative (whole.characters ++ exponent.characters) =
      some (Binary64.ofDecimal isNegative (Numeral.digitsValue whole.characters)
        exponent.value) := by
  have nonempty : whole.characters.isEmpty = false := by simp [whole.nonempty]
  have read := Script.Figure.readExponent?_ending ⟨whole.toDigits, some exponent⟩
  obtain ⟨mark, rest, written, noDigit, noPoint⟩ := exists_mark exponent
  have stops : ∀ next ∈ exponent.characters.head?, next.isDigit = false := by
    rw [written]
    intro next member
    cases member
    exact noDigit
  unfold Numeral.readDecimal?
  rw [Numeral.spanDigits_append whole.areDigits stops]
  simp only [Fraction.ending, Fraction.scale] at read
  dsimp only
  rw [written] at read ⊢
  split
  · rename_i point
    exact absurd (List.cons.inj point).1 noPoint
  · rw [if_neg (by simp [nonempty]), read]
    simp

theorem readNumber?_raised (isNegative : Bool) (whole : Whole) (exponent : Exponent) :
    Numeral.readNumber? (String.ofList
        (Script.Figure.sign isNegative ++ (whole.characters ++ exponent.characters))) =
      some (Binary64.ofDecimal isNegative (Numeral.digitsValue whole.characters)
        exponent.value) := by
  have marks : ∀ character ∈
      Script.Figure.sign isNegative ++ (whole.characters ++ exponent.characters),
      Numeral.isMark character = true := by
    rw [List.forall_mem_append, List.forall_mem_append]
    exact ⟨Script.Figure.areMarks_sign isNegative, whole.areMarks, areMarks_raised exponent⟩
  have decimal := readDecimal?_raised isNegative whole exponent
  obtain ⟨first, rest, written, isDigit⟩ := whole.exists_first
  unfold Numeral.readNumber?
  rw [Numeral.plain_eq marks, Numeral.dropUnderscores_eq marks (Option.some_ne_none _).symm]
  rw [written, List.cons_append] at decimal ⊢
  rw [Option.bind_some, Script.Figure.takeSign_sign isNegative isDigit]
  dsimp only
  rw [Script.Figure.special?_eq_none isNegative isDigit, decimal]
  rfl

/-- A numeral is read as the number that its decimal is rounded to. -/
theorem readNumber_eq (isNegative : Bool) (decimal : Decimal) {rest : List Char}
    (ends : Script.Ends rest) :
    readNumber (Script.Figure.sign isNegative ++ (decimal.characters ++ rest)) =
      .ok (.float (Binary64.ofDecimal isNegative decimal.digits decimal.scale), rest) := by
  cases decimal with
  | pointed whole fraction =>
      have read := Script.readNumber_figure (.decimal isNegative whole fraction) ends
      simp only [Script.Figure.characters, List.append_assoc] at read
      simp only [characters, List.append_assoc, read]
      rfl
  | raised whole exponent =>
      have read := readNumber?_raised isNegative whole exponent
      have exponentSpan := Script.spanExponent_eq exponent ends
      obtain ⟨mark, later, written, noDigit, noPoint⟩ := exists_mark exponent
      have stops : ∀ next ∈ (exponent.characters ++ rest).head?, next.isDigit = false := by
        rw [written]
        intro next member
        cases member
        exact noDigit
      have fractionSpan : spanFraction (exponent.characters ++ rest) =
          ([], exponent.characters ++ rest) := by
        rw [written]
        unfold spanFraction
        split
        · rename_i point
          exact absurd (List.cons.inj point).1 noPoint
        · rfl
      have some : exponent.characters.isEmpty = false := by
        rw [written]
        rfl
      simp only [characters, List.append_assoc]
      rw [Script.readNumber_of_spans isNegative whole stops fractionSpan exponentSpan]
      simp only [some, List.isEmpty_nil, Bool.and_false, Bool.false_eq_true, if_false,
        List.append_nil, List.append_assoc, read]
      rfl

/-! ## Layouts -/

/-- A single zero. -/
def nought : Digits := ⟨['0'], List.forall_iff_forall_mem.mp (by decide), by decide⟩

/-- Digits with zeros in front of them. -/
def padded (count : ℕ) (digits : Digits) : Digits where
  characters := List.replicate count '0' ++ digits.characters
  areDigits := List.forall_mem_append.mpr
    ⟨fun _ member => List.eq_of_mem_replicate member ▸ rfl, digits.areDigits⟩
  nonempty := List.append_ne_nil_of_right_ne_nil _ digits.nonempty

/-- Digits with zeros behind them. -/
def extended (digits : Digits) (count : ℕ) : Digits where
  characters := digits.characters ++ List.replicate count '0'
  areDigits := List.forall_mem_append.mpr
    ⟨digits.areDigits, fun _ member => List.eq_of_mem_replicate member ▸ rfl⟩
  nonempty := List.append_ne_nil_of_left_ne_nil digits.nonempty _

/-- The exponent of a layout, with zeros in front up to its least number of digits. -/
def exponentOf (layout : Binary64.Layout) (exponent : ℤ) : Exponent :=
  ⟨false, decide (exponent < 0),
    padded (layout.exponentDigits - (Nat.toDigits 10 exponent.natAbs).length)
      (Numeral.digitsOf exponent.natAbs)⟩

theorem exponentOf_value (layout : Binary64.Layout) (exponent : ℤ) :
    (exponentOf layout exponent).value = exponent := by
  unfold Exponent.value exponentOf padded Numeral.digitsOf
  dsimp only
  rw [Numeral.digitsValue_append, Numeral.digitsValue_zeros, Numeral.digitsValue_toDigits]
  by_cases negative : exponent < 0
  · simp only [negative, decide_true, if_true]
    omega
  · simp only [negative, decide_false, Bool.false_eq_true, if_false]
    omega

theorem exponentOf_characters (layout : Binary64.Layout) (exponent : ℤ) :
    (exponentOf layout exponent).characters =
      'e' :: (if exponent < 0 then '-' else '+') ::
        (List.replicate (layout.exponentDigits - (Nat.toDigits 10 exponent.natAbs).length) '0' ++
          Nat.toDigits 10 exponent.natAbs) := by
  by_cases negative : exponent < 0 <;>
    simp [Exponent.characters, exponentOf, padded, Numeral.digitsOf, negative]

/-- The digits with a point behind the first, if it is not the last. -/
def mantissa : List Char → List Char
  | first :: second :: rest => first :: '.' :: second :: rest
  | digits => digits

/-- Far from the first digit the point is not written, and an exponent says where it is. -/
theorem toList_place_far (layout : Binary64.Layout) {point : ℤ}
    (far : ¬ (decide (layout.firstPoint ≤ point) && decide (point ≤ layout.lastPoint)) = true)
    {digits : List Char} (nonempty : digits ≠ []) :
    (layout.place digits point).toList =
      mantissa digits ++ (exponentOf layout (point - 1)).characters := by
  have sign (negative : Prop) [Decidable negative] :
      (if negative then "-" else "+").toList = [if negative then '-' else '+'] := by
    split <;> rfl
  unfold Binary64.Layout.place
  rw [if_neg far, exponentOf_characters]
  match digits with
  | [] => exact absurd rfl nonempty
  | [first] => simp [mantissa, sign]
  | first :: second :: rest => simp [mantissa, sign]

/-- A numeral with a point stands for all its digits. -/
theorem worth_pointed (whole : Whole) (fraction : Fraction) :
    (pointed whole fraction).worth =
      Numeral.digitsValue (whole.characters ++ fraction.digits.characters) *
        10 ^ ((fraction.exponent.elim 0 Exponent.value) -
          (fraction.digits.characters.length : ℤ)) := by
  obtain ⟨digits, exponent⟩ := fraction
  cases exponent <;> rfl

section Layout

variable (digits : Digits) (noZero : digits.characters.head? ≠ some '0') (layout : Binary64.Layout)

/-- The numeral stands for digits with their point after some places. -/
def Places (decimal : Decimal) (point : ℤ) : Prop :=
  decimal.worth =
    Numeral.digitsValue digits.characters * 10 ^ (point - (digits.characters.length : ℤ))

theorem places_front (zeros : ℕ) :
    Places digits (.pointed ⟨nought, .inl rfl⟩ ⟨padded zeros digits, none⟩) (-(zeros : ℤ)) := by
  unfold Places
  rw [worth_pointed]
  simp only [nought, padded, Numeral.digitsValue_append, Numeral.digitsValue_zeros,
    List.length_append, List.length_replicate, Option.elim_none]
  rw [show Numeral.digitsValue ['0'] = 0 from rfl]
  congr 2
  · simp
  · push_cast
    ring

include noZero

theorem exists_back (zeros : ℕ) :
    ∃ whole : Whole, whole.toDigits = extended digits zeros ∧
      Places digits (.pointed whole ⟨nought, none⟩)
        ((digits.characters.length + zeros : ℕ) : ℤ) := by
  have noLeadingZero : (extended digits zeros).characters.head? ≠ some '0' := by
    unfold extended
    rwa [List.head?_append_of_ne_nil _ digits.nonempty]
  refine ⟨⟨extended digits zeros, .inr noLeadingZero⟩, rfl, ?_⟩
  unfold Places
  rw [worth_pointed]
  simp only [nought, extended, Numeral.digitsValue_append, Numeral.digitsValue_zeros,
    List.length_replicate, List.length_singleton, Option.elim_none]
  rw [show Numeral.digitsValue ['0'] = 0 from rfl,
    show ((digits.characters.length + zeros : ℕ) : ℤ) - digits.characters.length = zeros by omega,
    zpow_natCast]
  push_cast
  rw [zpow_neg_one]
  ring

theorem exists_inside (places : ℕ) (positive : 0 < places)
    (few : places < digits.characters.length) :
    ∃ (whole : Whole) (behind : Digits), whole.characters = digits.characters.take places ∧
      behind.characters = digits.characters.drop places ∧
      Places digits (.pointed whole ⟨behind, none⟩) (places : ℤ) := by
  have noLeadingZero : (digits.characters.take places).head? ≠ some '0' := by
    rwa [List.head?_take, if_neg (by omega)]
  have nonempty : digits.characters.take places ≠ [] :=
    List.ne_nil_of_length_pos (by rw [List.length_take]; omega)
  have nonempty' : digits.characters.drop places ≠ [] :=
    List.ne_nil_of_length_pos (by rw [List.length_drop]; omega)
  refine ⟨⟨⟨_, fun _ member => digits.areDigits _ (List.mem_of_mem_take member), nonempty⟩,
    .inr noLeadingZero⟩, ⟨_, fun _ member => digits.areDigits _ (List.mem_of_mem_drop member),
    nonempty'⟩, rfl, rfl, ?_⟩
  unfold Places
  rw [worth_pointed]
  simp only [List.take_append_drop, List.length_drop, Option.elim_none]
  congr 2
  omega

theorem exists_raised (exponent : Exponent) :
    ∃ decimal : Decimal, decimal.characters = mantissa digits.characters ++ exponent.characters ∧
      Places digits decimal (exponent.value + 1) := by
  obtain ⟨written, areDigits, nonempty⟩ := digits
  match written with
  | [] => exact absurd rfl nonempty
  | [first] =>
      refine ⟨.raised ⟨⟨[first], areDigits, nonempty⟩, .inr noZero⟩ exponent, rfl, ?_⟩
      simp [Places, worth, Decimal.digits, scale]
  | first :: second :: rest =>
      obtain ⟨one, others⟩ := List.forall_mem_cons.mp areDigits
      refine ⟨.pointed ⟨⟨[first], List.forall_mem_singleton.mpr one, List.cons_ne_nil _ _⟩,
        .inr noZero⟩ ⟨⟨second :: rest, others, List.cons_ne_nil _ _⟩, some exponent⟩, rfl, ?_⟩
      unfold Places
      rw [worth_pointed]
      simp only [Option.elim_some, List.length_cons, List.singleton_append]
      congr 2
      omega

/-- **Every layout of digits is a numeral** that stands for them, with the point where it is
asked for. -/
theorem exists_place (point : ℤ) :
    ∃ decimal : Decimal, (layout.place digits.characters point).toList = decimal.characters ∧
      Places digits decimal point := by
  by_cases near : (decide (layout.firstPoint ≤ point) && decide (point ≤ layout.lastPoint)) = true
  · unfold Binary64.Layout.place
    rw [if_pos near]
    split
    · obtain ⟨places, rfl⟩ : ∃ places : ℕ, point = -(places : ℤ) := ⟨point.natAbs, by omega⟩
      refine ⟨_, ?_, places_front digits places⟩
      simp [characters, Fraction.characters, Fraction.ending, nought, padded]
    · obtain ⟨places, rfl⟩ : ∃ places : ℕ, point = places := ⟨point.natAbs, by omega⟩
      rw [Int.natAbs_natCast]
      split
      · obtain ⟨zeros, rfl⟩ : ∃ zeros, places = digits.characters.length + zeros :=
          ⟨places - digits.characters.length, by omega⟩
        obtain ⟨whole, same, placed⟩ := exists_back digits noZero zeros
        refine ⟨_, ?_, placed⟩
        simp [characters, Fraction.characters, Fraction.ending, nought, same, extended]
      · obtain ⟨whole, behind, front, back, placed⟩ :=
          exists_inside digits noZero places (by omega) (by omega)
        refine ⟨_, ?_, placed⟩
        simp [characters, Fraction.characters, Fraction.ending, front, back]
  · obtain ⟨decimal, written, placed⟩ :=
      exists_raised digits noZero (exponentOf layout (point - 1))
    rw [exponentOf_value, sub_add_cancel] at placed
    exact ⟨decimal, (toList_place_far layout near digits.nonempty).trans written.symm, placed⟩

end Layout

end Decimal

end Json

/-! ## Shortest digits -/

namespace Binary64

/-- Zeros at the end are counted and not written. -/
theorem exists_trimZeros (digits : List Char) (power : ℤ) :
    ∃ count : ℕ, digits = (trimZeros digits power).1 ++ List.replicate count '0' ∧
      (trimZeros digits power).2 = power + count := by
  have parts := @List.takeWhile_append_dropWhile _ (· == '0') digits.reverse
  have zeros : digits.reverse.takeWhile (· == '0') =
      List.replicate (digits.reverse.takeWhile (· == '0')).length '0' := by
    refine List.eq_replicate_iff.mpr ⟨rfl, fun digit member => ?_⟩
    exact beq_iff_eq.mp (@List.mem_takeWhile_imp _ (· == '0') _ _ member)
  generalize (digits.reverse.takeWhile (· == '0')).length = count at zeros
  have split : digits = (digits.reverse.dropWhile (· == '0')).reverse ++
      List.replicate count '0' := by
    rw [← List.reverse_inj, List.reverse_append, List.reverse_replicate, List.reverse_reverse,
      ← zeros, parts]
  refine ⟨count, split, ?_⟩
  have lengths := congrArg List.length split
  rw [List.length_append, List.length_replicate] at lengths
  unfold trimZeros
  dsimp only
  omega

/-- The digits of a positive number without the zeros at their end, which are counted in the
power. -/
theorem exists_kept {number : ℕ} (positive : 0 < number) (power : ℤ) :
    ∃ digits : Script.Digits,
      digits.characters = (trimZeros (Nat.toDigits 10 number) power).1 ∧
      digits.characters.head? ≠ some '0' ∧
      (Numeral.digitsValue digits.characters *
        10 ^ (trimZeros (Nat.toDigits 10 number) power).2 : ℚ) = number * 10 ^ power := by
  have head := Numeral.head?_toDigits positive
  have same := Numeral.digitsValue_toDigits number
  have areDigits : ∀ digit ∈ Nat.toDigits 10 number, digit.isDigit = true :=
    (Numeral.digitsOf number).areDigits
  obtain ⟨count, split, shift⟩ := exists_trimZeros (Nat.toDigits 10 number) power
  rw [shift]
  generalize (trimZeros (Nat.toDigits 10 number) power).1 = kept at split
  rw [split] at head same areDigits
  have nonempty : kept ≠ [] := by
    rintro rfl
    rw [List.nil_append, Numeral.digitsValue_zeros] at same
    omega
  rw [List.head?_append_of_ne_nil _ nonempty] at head
  refine ⟨⟨kept, (List.forall_mem_append.mp areDigits).1, nonempty⟩, rfl, head, ?_⟩
  rw [← same, Numeral.digitsValue_append, Numeral.digitsValue_zeros, List.length_replicate,
    zpow_add₀ (by decide), zpow_natCast]
  push_cast
  ring

section Magnitude

variable {negative : Bool} {significand : ℕ} {exponent : ℤ}

/-- The shortest digits in a layout are a numeral that is rounded to the number. -/
theorem exists_placed (layout : Layout)
    (normal : IsNormal (.finite negative significand exponent)) (positive : 0 < significand) :
    let found := shortestDigits significand exponent
    let kept := trimZeros (Nat.toDigits 10 found.1) found.2
    ∃ decimal : Json.Decimal,
      (layout.place kept.1 (kept.2 + kept.1.length)).toList = decimal.characters ∧
      ofDecimal negative decimal.digits decimal.scale = .finite negative significand exponent := by
  have within := within_shortestDigits normal positive
  have pos := within.pos positive
  dsimp only
  generalize shortestDigits significand exponent = found at within pos ⊢
  obtain ⟨number, power⟩ := found
  dsimp only at within pos ⊢
  have something : 0 < number := by
    by_contra nothing
    rw [Nat.eq_zero_of_not_pos nothing] at pos
    simp at pos
  obtain ⟨digits, same, head, value⟩ := exists_kept something power
  obtain ⟨decimal, written, placed⟩ := Json.Decimal.exists_place digits head layout
    ((trimZeros (Nat.toDigits 10 number) power).2 + digits.characters.length)
  rw [← same]
  refine ⟨decimal, written, ofDecimal_eq normal positive ?_⟩
  have worth : decimal.worth = number * 10 ^ power := by
    rw [placed, add_sub_cancel_right, value]
  rwa [← worth] at within

/-- **The magnitude of a number is written as a numeral that is rounded to it.** -/
theorem exists_magnitude (layout : Layout)
    (normal : IsNormal (.finite negative significand exponent)) :
    ∃ decimal : Json.Decimal,
      (render layout (.finite negative significand exponent)).toList =
        Script.Figure.sign negative ++ decimal.characters ∧
      ofDecimal negative decimal.digits decimal.scale = .finite negative significand exponent := by
  have signed : (if negative then "-" else "").toList = Script.Figure.sign negative := by
    cases negative <;> rfl
  unfold render
  rw [String.toList_append, signed]
  by_cases nothing : significand = 0
  · refine ⟨.pointed ⟨Json.Decimal.nought, .inl rfl⟩ ⟨Json.Decimal.nought, none⟩, ?_, ?_⟩
    · rw [if_pos nothing]
      rfl
    · cases normal with
      | finite _ few least greatest many =>
          obtain rfl : exponent = leastExponent := many.resolve_right (by omega)
          rw [nothing]
          rfl
  · obtain ⟨decimal, written, rounded⟩ :=
      exists_placed layout normal (Nat.pos_of_ne_zero nothing)
    rw [if_neg nothing]
    exact ⟨decimal, congrArg _ written, rounded⟩

end Magnitude

end Binary64

/-- **The JSON text of a number is read as the number.** -/
theorem Json.readValue_numberText {number : Binary64} (normal : number.IsNormal) (fuel : ℕ)
    {rest : List Char} (ends : Script.Ends rest) :
    Json.readValue (fuel + 1) ((numberText number).toList ++ rest) = .ok (.float number, rest) := by
  cases number with
  | nan => rfl
  | infinite negative => cases negative <;> rfl
  | finite negative significand exponent =>
      obtain ⟨decimal, written, rounded⟩ :=
        Binary64.exists_magnitude Binary64.Layout.json normal
      obtain ⟨whole, behind, begins⟩ := decimal.exists_whole
      have read := Decimal.readNumber_eq negative decimal ends
      have number : (numberText (.finite negative significand exponent)).toList =
          Script.Figure.sign negative ++ decimal.characters := written
      rw [number, List.append_assoc]
      rw [rounded, begins, List.append_assoc] at read
      rw [begins, List.append_assoc, Script.readValue_signed, read]

end GuestFlow
