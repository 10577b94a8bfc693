import GuestFlow.Value.Record

/-!
# What a key means

Values count as one key of a record when they mean the same: whole numbers, fractional
numbers and truth values are numbers, and moments are instants.  `Value.meaning?` gives
what a value means as a key, if it can be told, and two values are the same key exactly
when both have one meaning (`Value.sameKey_iff`).

So being the same key is symmetric and transitive.  It is not reflexive: a number that is
none equals nothing, and sequences cannot be keys.
-/

set_option autoImplicit false

namespace GuestFlow

namespace Binary64

theorem scale_pos : 0 < scale := by
  unfold scale
  generalize 1074 = size
  exact Nat.two_pow_pos size

/-- A finite number is an integer exactly when it counts a multiple of the unit. -/
theorem toInt?_finite_iff {negative : Bool} {significand : Nat} {exponent number : Int} :
    (finite negative significand exponent).toInt? = some number ↔
      scaled negative significand exponent = number * scale := by
  have positive := Int.ofNat_ne_zero.mpr (Nat.ne_of_gt scale_pos)
  unfold toInt?
  dsimp only
  generalize scaled negative significand exponent = count
  generalize (scale : Int) = unit at positive
  constructor
  · intro whole
    split at whole
    · rename_i divides
      cases whole
      exact (Int.tdiv_mul_cancel (Int.dvd_of_tmod_eq_zero divides)).symm
    · cases whole
  · rintro rfl
    rw [if_pos (Int.mul_tmod_left number unit), Int.mul_tdiv_cancel number positive]

end Binary64

namespace Value

/-- What a value means as a key. -/
inductive Meaning where
  | null
  /-- A number, counted in units of the least fraction. -/
  | number (count : Int)
  | infinite (negative : Bool)
  | text (characters : String)
  | bytes (content : List UInt8)
  | date (day : Calendar.Date)
  | moment (hasOffset : Bool) (instant : Int)
  | tuple (items : List Meaning)

/-- What an integer means. -/
def Meaning.ofInt (number : Int) : Meaning := .number (number * Binary64.scale)

/-- What a fractional number means. -/
def Meaning.ofNumber? : Binary64 → Option Meaning
  | .finite negative significand exponent =>
    some (.number (Binary64.scaled negative significand exponent))
  | .infinite negative => some (.infinite negative)
  | .nan => none

mutual

def meaning? : Value → Option Meaning
  | .null => some .null
  | .bool flag => some (.ofInt (if flag then 1 else 0))
  | .int number => some (.ofInt number)
  | .float number => Meaning.ofNumber? number
  | .text characters => some (.text characters)
  | .bytes content => some (.bytes content)
  | .date day => some (.date day)
  | .moment instant => some (.moment instant.offset.isSome instant.instant)
  | .tuple items => (meanings? items).map .tuple
  | .list _ => none
  | .set _ => none
  | .record _ => none

def meanings? : List Value → Option (List Meaning)
  | [] => some []
  | item :: rest => (meaning? item).bind fun first => (meanings? rest).map fun others =>
    first :: others

end

/-! ## Numbers -/

theorem Meaning.ofInt_inj {left right : Int} : ofInt left = ofInt right ↔ left = right := by
  have positive := Int.ofNat_ne_zero.mpr (Nat.ne_of_gt Binary64.scale_pos)
  rw [ofInt, ofInt, number.injEq]
  exact Int.mul_eq_mul_right_iff positive

/-- An integer means nothing but a number. -/
theorem Meaning.ofInt_ne {number : Int} {other : Meaning}
    (noNumber : ∀ count, other ≠ .number count) : ofInt number ≠ other :=
  fun same => noNumber _ same.symm

/-- A fractional number is an integer exactly when it means the same. -/
theorem Meaning.ofNumber?_eq_ofInt_iff {number : Binary64} {whole : Int} :
    ofNumber? number = some (ofInt whole) ↔ number.toInt? = some whole := by
  cases number with
  | finite negative significand exponent =>
      rw [Binary64.toInt?_finite_iff, ofNumber?, ofInt, Option.some.injEq, Meaning.number.injEq]
  | infinite negative =>
      have differ : ofInt whole ≠ .infinite negative := ofInt_ne (by simp)
      simp [ofNumber?, differ.symm, Binary64.toInt?]
  | nan => simp [ofNumber?, Binary64.toInt?]

/-- Fractional numbers are the same exactly when they mean the same. -/
theorem Meaning.ofNumber?_eq_iff {left right : Binary64} :
    left.same right = true ↔ (ofNumber? left).isSome ∧ ofNumber? right = ofNumber? left := by
  cases left with
  | finite =>
      cases right with
      | finite => simpa [ofNumber?, Binary64.same] using eq_comm
      | _ => simp [ofNumber?, Binary64.same]
  | infinite =>
      cases right with
      | infinite => simpa [ofNumber?, Binary64.same] using eq_comm
      | _ => simp [ofNumber?, Binary64.same]
  | nan => simp [ofNumber?, Binary64.same]

/-- A value is the number of an integer exactly when it means that. -/
theorem isInteger_iff {number : Int} {value : Value} :
    value.isInteger number = true ↔ value.meaning? = some (.ofInt number) := by
  obtain ⟨count, counted⟩ : ∃ count, Meaning.ofInt number = .number count := ⟨_, rfl⟩
  cases value with
  | float other => simp [isInteger, meaning?, Meaning.ofNumber?_eq_ofInt_iff]
  | bool flag => simp [isInteger, meaning?, Meaning.ofInt_inj]
  | int other => simp [isInteger, meaning?, Meaning.ofInt_inj]
  | _ => simp [isInteger, meaning?, counted]

/-- A value is a fractional number exactly when it means that. -/
theorem isNumber_iff {number : Binary64} {value : Value} :
    value.isNumber number = true ↔
      (Meaning.ofNumber? number).isSome ∧ value.meaning? = Meaning.ofNumber? number := by
  have ofInteger (whole : Int) : number.toInt? = some whole ↔
      (Meaning.ofNumber? number).isSome ∧
        some (Meaning.ofInt whole) = Meaning.ofNumber? number := by
    rw [← Meaning.ofNumber?_eq_ofInt_iff]
    constructor
    · intro means
      simp [means]
    · rintro ⟨_, means⟩
      exact means.symm
  cases value with
  | float other => simp [isNumber, meaning?, Meaning.ofNumber?_eq_iff]
  | bool flag => simpa [isNumber, meaning?] using ofInteger _
  | int other => simpa [isNumber, meaning?] using ofInteger other
  | _ => cases number <;> simp [isNumber, meaning?, Meaning.ofNumber?]

/-! ## One key -/

mutual

/-- **Two values are the same key exactly when they have a meaning, and the same one.** -/
theorem sameKey_iff : (left right : Value) →
    (left.sameKey right = true ↔ left.meaning?.isSome ∧ right.meaning? = left.meaning?)
  | .null, right => by
    cases right with
    | float number => cases number <;> simp [sameKey, meaning?, Meaning.ofNumber?]
    | _ => simp [sameKey, meaning?, Meaning.ofInt_ne]
  | .bool flag, right => by simp [sameKey, meaning?, isInteger_iff]
  | .int number, right => by simp [sameKey, meaning?, isInteger_iff]
  | .float number, right => by simp [sameKey, meaning?, isNumber_iff]
  | .text left, right => by
    cases right with
    | float number => cases number <;> simp [sameKey, meaning?, Meaning.ofNumber?]
    | text right => simpa [sameKey, meaning?] using eq_comm
    | _ => simp [sameKey, meaning?, Meaning.ofInt_ne]
  | .bytes left, right => by
    cases right with
    | float number => cases number <;> simp [sameKey, meaning?, Meaning.ofNumber?]
    | bytes right => simpa [sameKey, meaning?] using eq_comm
    | _ => simp [sameKey, meaning?, Meaning.ofInt_ne]
  | .date left, right => by
    cases right with
    | float number => cases number <;> simp [sameKey, meaning?, Meaning.ofNumber?]
    | date right => simpa [sameKey, meaning?] using eq_comm
    | _ => simp [sameKey, meaning?, Meaning.ofInt_ne]
  | .moment left, right => by
    cases right with
    | float number => cases number <;> simp [sameKey, meaning?, Meaning.ofNumber?]
    | moment right =>
      have both := @eq_comm _ (left.offset.isSome, left.instant)
        (right.offset.isSome, right.instant)
      simpa [sameKey, meaning?, Calendar.Moment.same] using both
    | _ => simp [sameKey, meaning?, Meaning.ofInt_ne]
  | .tuple lefts, right => by
    have items := sameKeys_iff lefts
    cases right with
    | float number =>
      simp only [sameKey, meaning?]
      cases number <;> cases meanings? lefts <;> simp [Meaning.ofNumber?]
    | tuple rights =>
      simp only [sameKey, meaning?, items]
      cases meanings? lefts <;> cases meanings? rights <;> simp
    | _ =>
      simp only [sameKey, meaning?]
      cases meanings? lefts <;> simp [Meaning.ofInt_ne]
  | .list _, right => by simp [sameKey, meaning?]
  | .set _, right => by simp [sameKey, meaning?]
  | .record _, right => by simp [sameKey, meaning?]

theorem sameKeys_iff : (lefts rights : List Value) → (sameKeys lefts rights = true ↔
    (meanings? lefts).isSome ∧ meanings? rights = meanings? lefts)
  | [], [] => by simp [sameKeys, meanings?]
  | [], right :: rights => by
    simp only [sameKeys, meanings?]
    cases meaning? right <;> cases meanings? rights <;> simp
  | left :: lefts, [] => by
    simp only [sameKeys, meanings?]
    cases meaning? left <;> cases meanings? lefts <;> simp
  | left :: lefts, right :: rights => by
    have first := sameKey_iff left right
    have others := sameKeys_iff lefts rights
    simp only [sameKeys, meanings?, Bool.and_eq_true, first, others]
    cases meaning? left <;> cases meaning? right <;> cases meanings? lefts <;>
      cases meanings? rights <;> simp

end

theorem sameKey_symm {left right : Value} (same : left.sameKey right = true) :
    right.sameKey left = true := by
  obtain ⟨means, agree⟩ := (sameKey_iff left right).mp same
  exact (sameKey_iff right left).mpr ⟨agree ▸ means, agree.symm⟩

theorem sameKey_trans {left middle right : Value} (first : left.sameKey middle = true)
    (second : middle.sameKey right = true) : left.sameKey right = true := by
  obtain ⟨means, agree⟩ := (sameKey_iff left middle).mp first
  obtain ⟨_, agreeAgain⟩ := (sameKey_iff middle right).mp second
  exact (sameKey_iff left right).mpr ⟨means, agreeAgain.trans agree⟩

end Value

end GuestFlow
