import GuestFlow.Proofs.Value.Key
import Mathlib.Algebra.Group.Nat.Defs

/-!
# The number nearest to an integer

Numbers of 64 bits have 53 binary digits, so an integer of up to 53 digits is such a number
itself.  Near a longer one the numbers lie apart by a power of two, its `gap`, and the integer
is rounded to a multiple of it (`rounded`); what is rounded to `ceiling` or beyond becomes
infinite.  `ofInt_cases` says that `ofInt` does nothing else.

Rounding keeps the order of integers, but not strictly.  So of two numbers that stand for
integers one is less exactly if its integer is less and the two integers are not `Alike`
(`less_ofInt_iff`).  Integers that are numbers themselves are alike only if they are equal
(`alike_iff_of_isExact`).
-/

set_option autoImplicit false

namespace GuestFlow.Binary64

/-! ## Rounding a quotient -/

theorem nearestEven_bounds (quotient remainder divisor : Nat) :
    quotient ≤ nearestEven quotient remainder divisor ∧
      nearestEven quotient remainder divisor ≤ quotient + 1 := by
  unfold nearestEven
  split
  · omega
  · split
    · omega
    · split <;> omega

theorem nearestEven_zero (quotient : Nat) {divisor : Nat} (positive : 0 < divisor) :
    nearestEven quotient 0 divisor = quotient :=
  if_pos (by omega)

/-- A larger dividend has no smaller quotient, after rounding as well as before. -/
theorem nearestEven_mono (divisor : Nat) {smaller larger : Nat} (le : smaller ≤ larger) :
    nearestEven (smaller / divisor) (smaller % divisor) divisor ≤
      nearestEven (larger / divisor) (larger % divisor) divisor := by
  have quotients : smaller / divisor ≤ larger / divisor := Nat.div_le_div_right le
  rcases Nat.lt_or_eq_of_le quotients with less | same
  · have above := (nearestEven_bounds (smaller / divisor) (smaller % divisor) divisor).2
    have below := (nearestEven_bounds (larger / divisor) (larger % divisor) divisor).1
    omega
  · have remainders : smaller % divisor ≤ larger % divisor := by
      have first := Nat.div_add_mod smaller divisor
      have second := Nat.div_add_mod larger divisor
      rw [same] at first
      omega
    rw [same]
    unfold nearestEven
    repeat' split
    all_goals omega

/-! ## Rounding an integer -/

/-- How far the numbers near an integer lie apart. -/
def gap (magnitude : Nat) : Nat := 2 ^ (magnitude.log2 - 52)

/-- The multiple of the gap that is nearest to an integer. -/
def rounded (magnitude : Nat) : Nat :=
  nearestEven (magnitude / gap magnitude) (magnitude % gap magnitude) (gap magnitude) *
    gap magnitude

theorem gap_pos (magnitude : Nat) : 0 < gap magnitude := Nat.two_pow_pos _

theorem two_pow_mul {first second sum : Nat} (adds : first + second = sum) :
    2 ^ first * 2 ^ second = 2 ^ sum := by
  rw [← Nat.pow_add, adds]

theorem rounded_of_dvd {magnitude : Nat} (divides : gap magnitude ∣ magnitude) :
    rounded magnitude = magnitude := by
  unfold rounded
  rw [Nat.mod_eq_zero_of_dvd divides, nearestEven_zero _ (gap_pos magnitude),
    Nat.div_mul_cancel divides]

/-- Integers of few digits are not changed. -/
theorem rounded_of_short {magnitude : Nat} (short : magnitude ≤ 2 ^ 53) :
    rounded magnitude = magnitude := by
  refine rounded_of_dvd ?_
  rcases Nat.lt_or_eq_of_le short with less | rfl
  · have few : magnitude.log2 - 52 = 0 := by
      by_cases nothing : magnitude = 0
      · rw [nothing]
        rfl
      · have digits := (Nat.log2_lt nothing).mpr less
        omega
    unfold gap
    rw [few]
    exact Nat.one_dvd magnitude
  · unfold gap
    rw [Nat.log2_two_pow]
    exact Nat.pow_dvd_pow 2 (by decide)

/-- Of a long integer 53 digits are left in front of the gap. -/
theorem digits_of_long {magnitude : Nat} (long : 52 ≤ magnitude.log2) :
    2 ^ 52 ≤ magnitude / gap magnitude ∧ magnitude / gap magnitude < 2 ^ 53 := by
  have positive : magnitude ≠ 0 := by
    rintro rfl
    exact absurd long (by decide)
  have least := Nat.log2_self_le positive
  have most := @Nat.lt_log2_self magnitude
  unfold gap
  rw [Nat.le_div_iff_mul_le (Nat.two_pow_pos _), Nat.div_lt_iff_lt_mul (Nat.two_pow_pos _),
    two_pow_mul (Nat.add_sub_cancel' long),
    two_pow_mul (show 53 + (magnitude.log2 - 52) = magnitude.log2 + 1 by omega)]
  exact ⟨least, most⟩

/-- Rounding leads no further than to the next power of two. -/
theorem rounded_bounds {magnitude : Nat} (positive : magnitude ≠ 0) :
    2 ^ magnitude.log2 ≤ rounded magnitude ∧ rounded magnitude ≤ 2 ^ (magnitude.log2 + 1) := by
  by_cases long : 52 ≤ magnitude.log2
  · obtain ⟨least, most⟩ := digits_of_long long
    obtain ⟨above, below⟩ := nearestEven_bounds (magnitude / gap magnitude)
      (magnitude % gap magnitude) (gap magnitude)
    rw [← two_pow_mul (Nat.add_sub_cancel' long),
      ← two_pow_mul (show 53 + (magnitude.log2 - 52) = magnitude.log2 + 1 by omega)]
    exact ⟨Nat.mul_le_mul_right _ (Nat.le_trans least above),
      Nat.mul_le_mul_right _ (Nat.le_trans below most)⟩
  · have short : magnitude < 2 ^ 53 := (Nat.log2_lt positive).mp (by omega)
    rw [rounded_of_short (Nat.le_of_lt short)]
    exact ⟨Nat.log2_self_le positive, Nat.le_of_lt Nat.lt_log2_self⟩

/-- **Rounding keeps the order.** -/
theorem rounded_mono {smaller larger : Nat} (le : smaller ≤ larger) :
    rounded smaller ≤ rounded larger := by
  by_cases nothing : smaller = 0
  · rw [nothing, rounded_of_short (Nat.zero_le _)]
    exact Nat.zero_le _
  · have something : larger ≠ 0 := by omega
    have digits : smaller.log2 ≤ larger.log2 :=
      (Nat.le_log2 something).mpr (Nat.le_trans (Nat.log2_self_le nothing) le)
    rcases Nat.lt_or_eq_of_le digits with fewer | same
    · -- A power of two lies between them.
      calc rounded smaller ≤ 2 ^ (smaller.log2 + 1) := (rounded_bounds nothing).2
        _ ≤ 2 ^ larger.log2 := Nat.pow_le_pow_right (by decide) fewer
        _ ≤ rounded larger := (rounded_bounds something).1
    · have gaps : gap smaller = gap larger := congrArg (fun digits => 2 ^ (digits - 52)) same
      unfold rounded
      rw [gaps]
      exact Nat.mul_le_mul_right _ (nearestEven_mono _ le)

/-! ## Measuring an integer -/

/-- What is as large as this has no number. -/
def ceiling : Nat := Nat.pow 2 1024

/-- The powers of the format, by their exponents. -/
theorem powers_eq : ∃ size limit : Nat, scale = 2 ^ size ∧ leastExponent = -(size : Int) ∧
    ceiling = 2 ^ limit ∧ greatestExponent + 53 = limit ∧ 52 < size := by
  refine ⟨1074, 1024, ?_, rfl, ?_, rfl, by decide⟩
  · unfold scale
    generalize 1074 = size
    rfl
  · unfold ceiling
    generalize 1024 = limit
    rfl

theorem short_lt_ceiling {magnitude : Nat} (short : magnitude ≤ 2 ^ 53) : magnitude < ceiling := by
  obtain ⟨_, limit, _, _, top, greatest, _⟩ := powers_eq
  rw [top]
  have large : greatestExponent = 971 := rfl
  exact Nat.lt_of_le_of_lt short (Nat.pow_lt_pow_right (by decide) (by omega))

theorem measure_of_neg (numerator : Nat) {exponent : Int} (negative : exponent < 0) :
    measure numerator 1 exponent = (numerator * 2 ^ exponent.natAbs, 0, 1) := by
  simp [measure, negative, Nat.mod_one]

theorem measure_natCast (numerator exponent : Nat) :
    measure numerator 1 exponent =
      (numerator / 2 ^ exponent, numerator % 2 ^ exponent, 2 ^ exponent) := by
  have noSign : ¬(exponent : Int) < 0 := by omega
  simp [measure, noSign]

/-- The significand of 53 digits that an integer is given, in the unit of its last digit. -/
theorem exists_significand {magnitude : Nat} (positive : magnitude ≠ 0) :
    let measured := measure magnitude 1 ((magnitude.log2 : Int) - 52)
    let significand := nearestEven measured.1 measured.2.1 measured.2.2
    2 ^ 52 ≤ measured.1 ∧ 2 ^ 52 ≤ significand ∧ significand ≤ 2 ^ 53 ∧
      significand * 2 ^ ((magnitude.log2 : Int) - 52 - leastExponent).toNat =
        rounded magnitude * scale := by
  obtain ⟨size, _, scaled, least, _, _, large⟩ := powers_eq
  rw [scaled, least]
  by_cases long : 52 ≤ magnitude.log2
  · obtain ⟨above, below⟩ := digits_of_long long
    obtain ⟨up, down⟩ := nearestEven_bounds (magnitude / gap magnitude)
      (magnitude % gap magnitude) (gap magnitude)
    have exponent : (magnitude.log2 : Int) - 52 = ((magnitude.log2 - 52 : Nat) : Int) := by omega
    have shift : (((magnitude.log2 - 52 : Nat) : Int) - -(size : Int)).toNat =
        (magnitude.log2 - 52) + size := by omega
    dsimp only
    rw [exponent, measure_natCast, shift, Nat.pow_add, ← Nat.mul_assoc]
    exact ⟨above, Nat.le_trans above up, Nat.le_trans down below, rfl⟩
  · have short : magnitude < 2 ^ 53 := (Nat.log2_lt positive).mp (by omega)
    have negative : (magnitude.log2 : Int) - 52 < 0 := by omega
    have places : ((magnitude.log2 : Int) - 52).natAbs = 52 - magnitude.log2 := by omega
    have shift : (52 - magnitude.log2) + ((magnitude.log2 : Int) - 52 - -(size : Int)).toNat =
        size := by omega
    have least : 2 ^ 52 ≤ magnitude * 2 ^ (52 - magnitude.log2) := by
      rw [← two_pow_mul (show magnitude.log2 + (52 - magnitude.log2) = 52 by omega)]
      exact Nat.mul_le_mul_right _ (Nat.log2_self_le positive)
    have most : magnitude * 2 ^ (52 - magnitude.log2) ≤ 2 ^ 53 := by
      rw [← two_pow_mul (show (magnitude.log2 + 1) + (52 - magnitude.log2) = 53 by omega)]
      exact Nat.mul_le_mul_right _ (Nat.le_of_lt Nat.lt_log2_self)
    dsimp only
    rw [measure_of_neg _ negative, places, rounded_of_short (Nat.le_of_lt short),
      nearestEven_zero _ Nat.one_pos, Nat.mul_assoc, two_pow_mul shift]
    exact ⟨least, least, most, rfl⟩

theorem unitExponent_one {magnitude : Nat} (positive : magnitude ≠ 0) :
    unitExponent magnitude 1 = (magnitude.log2 : Int) - 52 := by
  obtain ⟨size, _, _, least, _, _, large⟩ := powers_eq
  have digits : ¬(measure magnitude 1 ((magnitude.log2 : Int) - 52)).1 < Nat.pow 2 52 :=
    Nat.not_lt.mpr (exists_significand positive).1
  have one : Nat.log2 1 = 0 := by decide
  unfold unitExponent
  rw [one, Int.natCast_zero, Int.sub_zero]
  dsimp only
  rw [if_neg digits, least]
  omega

/-- The number of a positive integer has 53 digits and stands for what the integer is rounded to,
unless that is too large. -/
theorem round_one (negative : Bool) {magnitude : Nat} (positive : magnitude ≠ 0) :
    ∃ significand exponent, 2 ^ 52 ≤ significand ∧ significand < 2 ^ 53 ∧
      leastExponent ≤ exponent ∧
      significand * 2 ^ (exponent - leastExponent).toNat = rounded magnitude * scale ∧
      round negative magnitude 1 =
        if greatestExponent < exponent then .infinite negative
        else .finite negative significand exponent := by
  obtain ⟨size, _, _, least, _, _, large⟩ := powers_eq
  have found := exists_significand positive
  have unit := unitExponent_one positive
  generalize (magnitude.log2 : Int) - 52 = exponent at found unit
  have inside : leastExponent ≤ exponent := by
    rw [← unit]
    exact Int.le_max_right _ _
  unfold round
  rw [if_neg positive, unit]
  dsimp only at found ⊢
  obtain ⟨_, lower, upper, stands⟩ := found
  generalize nearestEven (measure magnitude 1 exponent).1 (measure magnitude 1 exponent).2.1
    (measure magnitude 1 exponent).2.2 = significand at lower upper stands ⊢
  have bound : significandBound = 2 ^ 53 := rfl
  by_cases carries : significand = 2 ^ 53
  · -- Rounding has made one digit more.
    have shift : (exponent + 1 - leastExponent).toNat = 1 + (exponent - leastExponent).toNat := by
      omega
    refine ⟨2 ^ 52, exponent + 1, Nat.le_refl _, by decide, by omega, ?_, ?_⟩
    · rw [← stands, carries, shift, Nat.pow_add, ← Nat.mul_assoc,
        two_pow_mul (show 52 + 1 = 53 from rfl)]
    · rw [bound, if_pos carries]
      rfl
  · refine ⟨significand, exponent, lower, by omega, inside, stands, ?_⟩
    rw [bound, if_neg carries]
    exact if_neg (by omega)

/-- An integer has an infinite number exactly if it is rounded to the ceiling or beyond. -/
theorem ceiling_le_rounded_iff {magnitude significand : Nat} {exponent : Int}
    (lower : 2 ^ 52 ≤ significand) (upper : significand < 2 ^ 53)
    (inside : leastExponent ≤ exponent)
    (stands : significand * 2 ^ (exponent - leastExponent).toNat = rounded magnitude * scale) :
    greatestExponent < exponent ↔ ceiling ≤ rounded magnitude := by
  obtain ⟨size, limit, scaled, least, top, greatest, _⟩ := powers_eq
  rw [scaled] at stands
  rw [top]
  constructor
  · intro beyond
    refine Nat.le_of_mul_le_mul_right ?_ (Nat.two_pow_pos size)
    have powers : 2 ^ 52 * 2 ^ (limit + size - 52) = 2 ^ limit * 2 ^ size :=
      (two_pow_mul (by omega)).trans (two_pow_mul rfl).symm
    calc 2 ^ limit * 2 ^ size = 2 ^ 52 * 2 ^ (limit + size - 52) := powers.symm
      _ ≤ significand * 2 ^ (exponent - leastExponent).toNat :=
          Nat.mul_le_mul lower (Nat.pow_le_pow_right (by decide) (by omega))
      _ = rounded magnitude * 2 ^ size := stands
  · intro high
    refine Decidable.by_contra fun within => ?_
    have powers : 2 ^ 53 * 2 ^ (limit + size - 53) = 2 ^ limit * 2 ^ size :=
      (two_pow_mul (by omega)).trans (two_pow_mul rfl).symm
    refine absurd (Nat.mul_le_mul_right (2 ^ size) high) (Nat.not_le.mpr ?_)
    calc rounded magnitude * 2 ^ size = significand * 2 ^ (exponent - leastExponent).toNat :=
          stands.symm
      _ < 2 ^ 53 * 2 ^ (exponent - leastExponent).toNat :=
          Nat.mul_lt_mul_of_pos_right upper (Nat.two_pow_pos _)
      _ ≤ 2 ^ 53 * 2 ^ (limit + size - 53) :=
          Nat.mul_le_mul_left _ (Nat.pow_le_pow_right (by decide) (by omega))
      _ = 2 ^ limit * 2 ^ size := powers

/-! ## Numbers of integers -/

/-- What has no number is infinite. -/
theorem round_of_ceiling_le (negative : Bool) {magnitude : Nat} (high : ceiling ≤ magnitude) :
    round negative magnitude 1 = .infinite negative := by
  obtain ⟨_, limit, _, _, top, _⟩ := powers_eq
  have positive : magnitude ≠ 0 := Nat.ne_of_gt
    (Nat.lt_of_lt_of_le (short_lt_ceiling (Nat.zero_le _)) high)
  obtain ⟨significand, exponent, lower, upper, inside, stands, numbered⟩ :=
    round_one negative positive
  have beyond : ceiling ≤ rounded magnitude := by
    rw [top] at high ⊢
    have digits := (Nat.le_log2 positive).mpr high
    exact Nat.le_trans (Nat.pow_le_pow_right (by decide) digits) (rounded_bounds positive).1
  rw [numbered, if_pos ((ceiling_le_rounded_iff lower upper inside stands).mpr beyond)]

theorem pow_le_of_length_toDigits {digits length : Nat} (positive : 0 < length)
    (many : length < (Nat.toDigits 10 digits).length) : 10 ^ length ≤ digits := by
  rw [← Nat.not_lt, ← Nat.length_toDigits_le_iff (by decide) positive]
  omega

/-- A decimal without a fraction has the number of its integer. -/
theorem ofDecimal_zero (negative : Bool) (digits : Nat) :
    ofDecimal negative digits 0 = round negative digits 1 := by
  unfold ofDecimal
  by_cases nothing : digits = 0
  · rw [if_pos nothing, nothing]
    rfl
  · rw [if_neg nothing]
    dsimp only
    by_cases many : 310 < (Nat.toDigits 10 digits).length
    · have large := pow_le_of_length_toDigits (by decide) many
      have most : ceiling ≤ 10 ^ 310 := by decide +kernel
      rw [if_pos (by omega), round_of_ceiling_le negative (Nat.le_trans most large)]
    · rw [if_neg (by omega), if_neg (by omega), if_neg (by decide), Int.natAbs_zero, Nat.pow_eq,
        Nat.pow_zero, Nat.mul_one]

/-- What an integer is rounded to. -/
def nearest (number : Int) : Int :=
  if number < 0 then -(rounded number.natAbs : Int) else rounded number.natAbs

/-- The number of an integer is what the integer is rounded to, or infinite if that is too large. -/
theorem ofInt_cases (number : Int) :
    (rounded number.natAbs < ceiling ∧ ∃ significand exponent,
        ofInt number = .finite (decide (number < 0)) significand exponent ∧
        scaled (decide (number < 0)) significand exponent = nearest number * scale) ∨
      (ceiling ≤ rounded number.natAbs ∧ ofInt number = .infinite (decide (number < 0))) := by
  unfold ofInt nearest
  by_cases nothing : number.natAbs = 0
  · obtain rfl := Int.natAbs_eq_zero.mp nothing
    left
    rw [Int.natAbs_zero, rounded_of_short (Nat.zero_le _)]
    refine ⟨short_lt_ceiling (Nat.zero_le _), 0, leastExponent, rfl, ?_⟩
    unfold scaled
    generalize (scale : Int) = unit
    simp
  · obtain ⟨significand, exponent, lower, upper, inside, stands, numbered⟩ :=
      round_one (decide (number < 0)) nothing
    have beyond := ceiling_le_rounded_iff lower upper inside stands
    rw [numbered]
    by_cases high : ceiling ≤ rounded number.natAbs
    · exact .inr ⟨high, if_pos (beyond.mpr high)⟩
    · refine .inl ⟨Nat.lt_of_not_le high, significand, exponent,
        if_neg fun past => high (beyond.mp past), ?_⟩
      unfold scaled
      rw [show significand * Nat.pow 2 (exponent - leastExponent).toNat =
        rounded number.natAbs * scale from stands, Int.natCast_mul]
      generalize (scale : Int) = unit
      by_cases negative : number < 0
      · rw [if_pos negative, if_pos (decide_eq_true negative), Int.neg_mul]
      · rw [if_neg negative, decide_eq_false negative]
        rfl

/-- What has a finite number is below the ceiling itself. -/
theorem natAbs_lt_ceiling {number : Int} (finite : overflows number = false) :
    number.natAbs < ceiling := by
  refine Nat.lt_of_not_le fun high => ?_
  rw [overflows, ofInt, round_of_ceiling_le _ high] at finite
  cases finite

theorem nearest_mono {left right : Int} (le : left ≤ right) : nearest left ≤ nearest right := by
  unfold nearest
  by_cases negative : left < 0
  · rw [if_pos negative]
    by_cases both : right < 0
    · have smaller := @rounded_mono right.natAbs left.natAbs (by omega)
      rw [if_pos both]
      omega
    · rw [if_neg both]
      omega
  · have larger := @rounded_mono left.natAbs right.natAbs (by omega)
    rw [if_neg negative, if_neg (by omega)]
    omega

/-- Finite numbers are compared by what their integers are rounded to. -/
theorem mul_scale_lt_iff {left right : Int} : left * scale < right * scale ↔ left < right :=
  Int.mul_lt_mul_right (Int.natCast_pos.mpr scale_pos)

theorem mul_scale_inj {left right : Int} : left * scale = right * scale ↔ left = right :=
  Int.mul_eq_mul_right_iff (Int.ofNat_ne_zero.mpr (Nat.ne_of_gt scale_pos))

/-- Two integers that have the same number. -/
def Alike (left right : Int) : Prop := (ofInt left).same (ofInt right) = true

instance (left right : Int) : Decidable (Alike left right) := inferInstanceAs (Decidable (_ = true))

theorem alike_self (number : Int) : Alike number number := by
  unfold Alike
  rcases ofInt_cases number with ⟨_, first, place, numbered, _⟩ | ⟨_, numbered⟩ <;>
    rw [numbered] <;> simp [same]

theorem same_comm (left right : Binary64) : left.same right = right.same left := by
  cases left <;> cases right <;> simp [same, eq_comm, Bool.beq_comm]

theorem alike_comm {left right : Int} : Alike left right ↔ Alike right left := by
  unfold Alike
  rw [same_comm]

/-- **Integers are compared through their numbers as far as these tell them apart.** -/
theorem less_ofInt_iff (left right : Int) :
    (ofInt left).less (ofInt right) = true ↔ left < right ∧ ¬Alike left right := by
  have order : left < right → nearest left ≤ nearest right := fun less =>
    nearest_mono (Int.le_of_lt less)
  have reverse : ¬left < right → nearest right ≤ nearest left := fun less =>
    nearest_mono (Int.not_lt.mp less)
  have magnitudes : left.natAbs ≤ right.natAbs →
      rounded left.natAbs ≤ rounded right.natAbs := rounded_mono
  have others : right.natAbs ≤ left.natAbs →
      rounded right.natAbs ≤ rounded left.natAbs := rounded_mono
  unfold Alike
  rcases ofInt_cases left with ⟨low, first, place, numbered, counted⟩ | ⟨high, numbered⟩ <;>
    rcases ofInt_cases right with
      ⟨low', second, place', numbered', counted'⟩ | ⟨high', numbered'⟩ <;>
    rw [numbered, numbered']
  · simp only [less, same, counted, counted', decide_eq_true_eq, mul_scale_lt_iff, mul_scale_inj]
    omega
  · simp only [less, same, Bool.not_eq_true', decide_eq_false_iff_not, Bool.false_eq_true,
      not_false_eq_true, and_true]
    omega
  · simp only [less, same, decide_eq_true_eq, Bool.false_eq_true, not_false_eq_true, and_true]
    omega
  · by_cases negative : left < 0 <;> by_cases negative' : right < 0 <;>
      simp [less, same, negative, negative'] <;> omega

/-- An integer that is a number of 64 bits itself. -/
def IsExact (number : Int) : Prop := (ofInt number).toInt? = some number

theorem isExact_of_short {number : Int} (short : number.natAbs ≤ 2 ^ 53) : IsExact number := by
  have unchanged := rounded_of_short short
  unfold IsExact
  rcases ofInt_cases number with ⟨_, significand, exponent, numbered, counted⟩ | ⟨high, _⟩
  · have itself : nearest number = number := by
      unfold nearest
      rw [unchanged]
      omega
    rw [numbered, toInt?_finite_iff, counted, itself]
  · rw [unchanged] at high
    exact absurd (short_lt_ceiling short) (Nat.not_lt.mpr high)

/-- Integers that are numbers themselves are told apart. -/
theorem alike_iff_of_isExact {left right : Int} (exact : IsExact left) (exact' : IsExact right) :
    Alike left right ↔ left = right := by
  unfold IsExact at exact exact'
  unfold Alike
  cases first : ofInt left with
  | finite negative significand exponent =>
      cases second : ofInt right with
      | finite negative' significand' exponent' =>
          rw [first, toInt?_finite_iff] at exact
          rw [second, toInt?_finite_iff] at exact'
          simp only [same, decide_eq_true_eq, exact, exact', mul_scale_inj]
      | infinite | nan =>
          rw [second] at exact'
          cases exact'
  | infinite | nan =>
      rw [first] at exact
      cases exact

end GuestFlow.Binary64
