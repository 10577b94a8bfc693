import GuestFlow.Number.Numeral
import GuestFlow.Number.Shortest
import GuestFlow.Proofs.Number.Nearest
import Mathlib.Algebra.Order.Field.Basic
import Mathlib.Algebra.Order.Field.Power
import Mathlib.Data.Rat.Cast.Order
import Mathlib.Tactic.FieldSimp
import Mathlib.Tactic.Linarith
import Mathlib.Tactic.Positivity
import Mathlib.Tactic.Ring

/-!
# The number nearest to a fraction

A fraction is measured in units of a power of two, its quotient is rounded, and the unit is
chosen so that 53 digits are left, as far as there are such small units.  So what rounding gives
is in its lowest form (`Binary64.IsNormal`): no other significand and exponent stand for the same
number.

Which fractions are rounded to a number of that form is said by `roundingInterval`: all those
between its ends, and the ends themselves where the significand is even (`round_eq`).  Below a
power of two the numbers lie closer together, so the interval is shorter there.  The same is true
of decimals (`ofDecimal_eq`), and so what is read from a numeral is in its lowest form, too.
-/

set_option autoImplicit false

namespace GuestFlow

namespace Binary64

/-! ## Powers -/

theorem two_zpow_pos (exponent : ℤ) : (0 : ℚ) < 2 ^ exponent := zpow_pos two_pos exponent

theorem two_zpow_le {smaller larger : ℤ} (le : smaller ≤ larger) :
    (2 : ℚ) ^ smaller ≤ 2 ^ larger :=
  zpow_le_zpow_right₀ one_le_two le

theorem two_zpow_succ (exponent : ℤ) : (2 : ℚ) ^ (exponent + 1) = 2 ^ exponent * 2 :=
  zpow_add_one₀ two_ne_zero exponent

/-! ## Rounding a quotient -/

/-- A fraction lies between two bounds, and is neither of them unless these count. -/
structure Between (closed : Prop) (low high fraction : ℚ) : Prop where
  lower : low ≤ fraction
  upper : fraction ≤ high
  inner : ¬closed → low < fraction ∧ fraction < high

/-- A quotient with its remainder is rounded to the whole number that it is nearest to, and in the
middle of two to the even one. -/
theorem nearestEven_of_bounds {quotient remainder divisor whole : ℕ} (small : remainder < divisor)
    (lower : 2 * (divisor * whole) ≤ 2 * (divisor * quotient + remainder) + divisor)
    (upper : 2 * (divisor * quotient + remainder) ≤ 2 * (divisor * whole) + divisor)
    (inner : whole % 2 ≠ 0 →
      2 * (divisor * whole) < 2 * (divisor * quotient + remainder) + divisor ∧
        2 * (divisor * quotient + remainder) < 2 * (divisor * whole) + divisor) :
    nearestEven quotient remainder divisor = whole := by
  have notFar : whole ≤ quotient + 1 := by
    by_contra far
    have more := Nat.mul_le_mul_left divisor (show quotient + 2 ≤ whole by omega)
    rw [Nat.mul_add] at more
    omega
  have notLess : quotient ≤ whole := by
    by_contra less
    have more := Nat.mul_le_mul_left divisor (show whole + 1 ≤ quotient by omega)
    rw [Nat.mul_add] at more
    omega
  unfold nearestEven
  obtain rfl | rfl : whole = quotient ∨ whole = quotient + 1 := by omega
  · repeat' split
    all_goals omega
  · rw [Nat.mul_add] at lower upper inner
    repeat' split
    all_goals omega

/-- A quotient is rounded to the whole number that it is nearest to. -/
theorem nearestEven_eq {dividend divisor whole : ℕ} (positive : 0 < divisor)
    (near : Between (whole % 2 = 0) (whole - 1 / 2) (whole + 1 / 2) (dividend / divisor : ℚ)) :
    nearestEven (dividend / divisor) (dividend % divisor) divisor = whole := by
  obtain ⟨lower, upper, inner⟩ := near
  have positive' : (0 : ℚ) < divisor := Nat.cast_pos.mpr positive
  -- The bounds, multiplied by twice the divisor.
  rw [le_div_iff₀ positive'] at lower
  rw [div_le_iff₀ positive'] at upper
  rw [lt_div_iff₀ positive', div_lt_iff₀ positive'] at inner
  have lower : 2 * (divisor * whole) ≤ 2 * dividend + divisor := by
    have cleared : (2 * (divisor * whole) : ℚ) ≤ 2 * dividend + divisor := by linarith
    exact_mod_cast cleared
  have upper : 2 * dividend ≤ 2 * (divisor * whole) + divisor := by
    have cleared : (2 * dividend : ℚ) ≤ 2 * (divisor * whole) + divisor := by linarith
    exact_mod_cast cleared
  have inner (odd : whole % 2 ≠ 0) : 2 * (divisor * whole) < 2 * dividend + divisor ∧
      2 * dividend < 2 * (divisor * whole) + divisor := by
    obtain ⟨first, second⟩ := inner odd
    have cleared : (2 * (divisor * whole) : ℚ) < 2 * dividend + divisor ∧
        (2 * dividend : ℚ) < 2 * (divisor * whole) + divisor := by
      constructor <;> linarith
    exact_mod_cast cleared
  have parts := Nat.div_add_mod dividend divisor
  exact nearestEven_of_bounds (Nat.mod_lt dividend positive) (parts.symm ▸ lower)
    (parts.symm ▸ upper) (parts.symm ▸ inner)

/-! ## Units -/

/-- The units of a fraction as a division of whole numbers. -/
theorem exists_measure (numerator : ℕ) {denominator : ℕ} (positive : 0 < denominator)
    (exponent : ℤ) :
    ∃ dividend divisor : ℕ, 0 < divisor ∧
      measure numerator denominator exponent =
        (dividend / divisor, dividend % divisor, divisor) ∧
      (dividend / divisor : ℚ) = numerator / denominator / 2 ^ exponent := by
  have nonzero : (denominator : ℚ) ≠ 0 := Nat.cast_ne_zero.mpr (Nat.ne_of_gt positive)
  unfold measure
  by_cases negative : exponent < 0
  · obtain ⟨places, rfl, some⟩ : ∃ places : ℕ, exponent = -(places : ℤ) ∧ 0 < places :=
      ⟨exponent.natAbs, by omega, by omega⟩
    refine ⟨numerator * 2 ^ places, denominator, positive, by simp [some], ?_⟩
    rw [zpow_neg, zpow_natCast]
    push_cast
    field_simp
  · obtain ⟨places, rfl⟩ : ∃ places : ℕ, exponent = places := ⟨exponent.natAbs, by omega⟩
    refine ⟨numerator, denominator * 2 ^ places, Nat.mul_pos positive (Nat.two_pow_pos places),
      by simp [negative], ?_⟩
    rw [zpow_natCast]
    push_cast
    field_simp

/-- A fraction has at most 53 digits in front of its unit, and exactly so many unless the unit is
the least one. -/
structure Suits (exponent : ℤ) (fraction : ℚ) : Prop where
  least : leastExponent ≤ exponent
  upper : fraction < 2 ^ 53 * 2 ^ exponent
  lower : exponent = leastExponent ∨ 2 ^ 52 * 2 ^ exponent ≤ fraction

/-- Only one unit suits a fraction. -/
theorem Suits.unique {first second : ℤ} {fraction : ℚ} (suits : Suits first fraction)
    (suits' : Suits second fraction) : first = second := by
  have notLess {smaller larger : ℤ} (small : Suits smaller fraction)
      (large : Suits larger fraction) : ¬smaller < larger := by
    intro less
    have least := small.least
    have upper := small.upper
    have lower := large.lower.resolve_left (by omega)
    have powers : (2 : ℚ) ^ smaller * 2 ≤ 2 ^ larger :=
      two_zpow_succ smaller ▸ two_zpow_le (by omega)
    linarith
  exact le_antisymm (not_lt.mp (notLess suits' suits)) (not_lt.mp (notLess suits suits'))

section Unit

variable {numerator denominator : ℕ}

/-- A fraction lies between two powers of two that are told by the digits of its parts. -/
theorem fraction_bounds (positive : 0 < numerator) (positive' : 0 < denominator) :
    (2 : ℚ) ^ ((numerator.log2 : ℤ) - denominator.log2 - 1) < numerator / denominator ∧
      (numerator / denominator : ℚ) < 2 ^ ((numerator.log2 : ℤ) - denominator.log2 + 1) := by
  have above : (2 ^ numerator.log2 : ℚ) ≤ numerator := by
    exact_mod_cast Nat.log2_self_le (Nat.ne_of_gt positive)
  have below : (numerator : ℚ) < 2 ^ numerator.log2 * 2 := by
    exact_mod_cast (Nat.pow_succ 2 _ ▸ @Nat.lt_log2_self numerator)
  have above' : (2 ^ denominator.log2 : ℚ) ≤ denominator := by
    exact_mod_cast Nat.log2_self_le (Nat.ne_of_gt positive')
  have below' : (denominator : ℚ) < 2 ^ denominator.log2 * 2 := by
    exact_mod_cast (Nat.pow_succ 2 _ ▸ @Nat.lt_log2_self denominator)
  have divisor : (0 : ℚ) < denominator := Nat.cast_pos.mpr positive'
  have power : (0 : ℚ) < 2 ^ denominator.log2 := by positivity
  have power' : (0 : ℚ) < 2 ^ numerator.log2 := by positivity
  rw [zpow_sub_one₀ two_ne_zero, zpow_add_one₀ two_ne_zero, zpow_sub₀ two_ne_zero,
    zpow_natCast, zpow_natCast, lt_div_iff₀ divisor, div_lt_iff₀ divisor]
  generalize (2 : ℚ) ^ numerator.log2 = digits, (2 : ℚ) ^ denominator.log2 = digits' at *
  constructor
  · calc digits / digits' * 2⁻¹ * denominator
        < digits / digits' * 2⁻¹ * (digits' * 2) := by gcongr
      _ = digits := by field_simp
      _ ≤ numerator := above
  · calc (numerator : ℚ) < digits * 2 := below
      _ = digits / digits' * 2 * digits' := by field_simp
      _ ≤ digits / digits' * 2 * denominator := by gcongr

/-- An estimate of the unit that gives 52 digits at least and 54 at most is right, or too large
by one. -/
theorem estimate_settles {dividend divisor : ℕ} (positive : 0 < divisor) {fraction : ℚ}
    {estimate : ℤ} (counted : (dividend / divisor : ℚ) = fraction / 2 ^ estimate)
    (above : 2 ^ 51 * 2 ^ estimate < fraction) (below : fraction < 2 ^ 53 * 2 ^ estimate) :
    ∃ settled : ℤ,
      (if dividend / divisor < Nat.pow 2 52 then estimate - 1 else estimate) = settled ∧
        fraction < 2 ^ 53 * 2 ^ settled ∧ 2 ^ 52 * 2 ^ settled ≤ fraction := by
  have unit := two_zpow_pos estimate
  by_cases few : dividend / divisor < Nat.pow 2 52
  · refine ⟨estimate - 1, if_pos few, ?_⟩
    have whole : (dividend / divisor : ℚ) < 2 ^ 52 := by
      rw [div_lt_iff₀ (Nat.cast_pos.mpr positive)]
      exact_mod_cast (Nat.div_lt_iff_lt_mul positive).mp few
    rw [counted, div_lt_iff₀ unit] at whole
    have half := two_zpow_succ (estimate - 1)
    rw [sub_add_cancel] at half
    constructor <;> linarith
  · refine ⟨estimate, if_neg few, below, ?_⟩
    have whole : (2 ^ 52 : ℚ) ≤ dividend / divisor := by
      rw [le_div_iff₀ (Nat.cast_pos.mpr positive)]
      exact_mod_cast (Nat.le_div_iff_mul_le positive).mp (Nat.not_lt.mp few)
    rwa [counted, le_div_iff₀ unit] at whole

/-- **The unit of a fraction suits it.** -/
theorem suits_unitExponent (positive : 0 < numerator) (positive' : 0 < denominator) :
    Suits (unitExponent numerator denominator) (numerator / denominator) := by
  obtain ⟨above, below⟩ := fraction_bounds positive positive'
  have measured := exists_measure numerator positive'
  unfold unitExponent
  dsimp only
  generalize (numerator / denominator : ℚ) = fraction at above below measured ⊢
  have shift : (numerator.log2 : ℤ) - denominator.log2 =
      (numerator.log2 : ℤ) - denominator.log2 - 52 + 52 := by omega
  rw [shift] at above below
  generalize (numerator.log2 : ℤ) - denominator.log2 - 52 = estimate at above below ⊢
  have above : 2 ^ 51 * 2 ^ estimate < fraction := by
    rw [show estimate + 52 - 1 = estimate + (51 : ℕ) by omega, zpow_add₀ two_ne_zero,
      zpow_natCast] at above
    linarith
  have below : fraction < 2 ^ 53 * 2 ^ estimate := by
    rw [show estimate + 52 + 1 = estimate + (53 : ℕ) by omega, zpow_add₀ two_ne_zero,
      zpow_natCast] at below
    linarith
  obtain ⟨dividend, divisor, positive'', same, counted⟩ := measured estimate
  rw [same]
  dsimp only
  obtain ⟨settled, same, upper, lower⟩ := estimate_settles positive'' counted above below
  rw [same]
  rcases le_total leastExponent settled with inside | small
  · rw [max_eq_left inside]
    exact ⟨inside, upper, .inr lower⟩
  · rw [max_eq_right small]
    refine ⟨le_refl _, ?_, .inl rfl⟩
    have powers := two_zpow_le small
    linarith

/-! ## Lowest form -/

/-- A number in its lowest form: its significand has 53 digits unless its unit is the least one. -/
inductive IsNormal : Binary64 → Prop where
  | finite (negative : Bool) {significand : ℕ} {exponent : ℤ} (few : significand < 2 ^ 53)
      (least : leastExponent ≤ exponent) (greatest : exponent ≤ greatestExponent)
      (many : exponent = leastExponent ∨ 2 ^ 52 ≤ significand) :
      IsNormal (.finite negative significand exponent)
  | infinite (negative : Bool) : IsNormal (.infinite negative)
  | nan : IsNormal .nan

theorem isNormal_zero (negative : Bool) : IsNormal (zero negative) :=
  .finite negative (by decide) (le_refl _) (by decide) (.inl rfl)

theorem IsNormal.negate {number : Binary64} (normal : number.IsNormal) :
    number.negate.IsNormal := by
  cases normal with
  | finite negative few least greatest many => exact .finite _ few least greatest many
  | infinite negative => exact .infinite _
  | nan => exact .nan

/-- A quotient of fewer than 54 digits is rounded to a significand, or to the next power of two. -/
theorem nearestEven_le {quotient : ℕ} (few : quotient < 2 ^ 53) (remainder divisor : ℕ) :
    nearestEven quotient remainder divisor ≤ 2 ^ 53 :=
  le_trans (nearestEven_bounds quotient remainder divisor).2 few

/-- Rounding, once the unit of a fraction is known. -/
theorem round_of_measure (negative : Bool) (something : numerator ≠ 0) {exponent : ℤ}
    (unit : unitExponent numerator denominator = exponent) {quotient remainder divisor : ℕ}
    (measured : measure numerator denominator exponent = (quotient, remainder, divisor)) :
    round negative numerator denominator =
      let significand := nearestEven quotient remainder divisor
      if significand = 2 ^ 53 then
        if greatestExponent < exponent + 1 then .infinite negative
        else .finite negative (2 ^ 52) (exponent + 1)
      else if significand = 0 then zero negative
      else if greatestExponent < exponent then .infinite negative
      else .finite negative significand exponent := by
  have bound : significandBound = 2 ^ 53 := rfl
  unfold round
  rw [if_neg something, unit]
  dsimp only
  rw [measured]
  dsimp only
  rw [bound]
  by_cases carries : nearestEven quotient remainder divisor = 2 ^ 53
  · rw [if_pos carries, if_pos carries]
    rfl
  · rw [if_neg carries, if_neg carries]

/-- Rounding, once the unit of a fraction is known and the whole number of units that it is nearest
to. -/
theorem round_of_near (negative : Bool) (something : numerator ≠ 0) (positive' : 0 < denominator)
    {exponent : ℤ} (unit : unitExponent numerator denominator = exponent) {whole : ℕ}
    (near : Between (whole % 2 = 0) (whole - 1 / 2) (whole + 1 / 2)
      (numerator / denominator / 2 ^ exponent)) :
    round negative numerator denominator =
      if whole = 2 ^ 53 then
        if greatestExponent < exponent + 1 then .infinite negative
        else .finite negative (2 ^ 52) (exponent + 1)
      else if whole = 0 then zero negative
      else if greatestExponent < exponent then .infinite negative
      else .finite negative whole exponent := by
  obtain ⟨dividend, divisor, positive, same, counted⟩ :=
    exists_measure numerator positive' exponent
  rw [← counted] at near
  rw [round_of_measure negative something unit same, nearestEven_eq positive near]

/-- **What rounding gives is in its lowest form.** -/
theorem isNormal_round (negative : Bool) (positive' : 0 < denominator) :
    IsNormal (round negative numerator denominator) := by
  by_cases nothing : numerator = 0
  · rw [round, if_pos nothing]
    exact isNormal_zero negative
  · obtain ⟨least, upper, lower⟩ := suits_unitExponent (Nat.pos_of_ne_zero nothing) positive'
    obtain ⟨dividend, divisor, positive, same, counted⟩ :=
      exists_measure numerator positive' (unitExponent numerator denominator)
    rw [round_of_measure negative nothing rfl same]
    generalize unitExponent numerator denominator = exponent at least upper lower counted ⊢
    rw [← div_lt_iff₀ (two_zpow_pos exponent), ← counted,
      div_lt_iff₀ (Nat.cast_pos.mpr positive)] at upper
    rw [← le_div_iff₀ (two_zpow_pos exponent), ← counted,
      le_div_iff₀ (Nat.cast_pos.mpr positive)] at lower
    have few : dividend / divisor < 2 ^ 53 :=
      (Nat.div_lt_iff_lt_mul positive).mpr (by exact_mod_cast upper)
    have many : exponent = leastExponent ∨ 2 ^ 52 ≤ dividend / divisor :=
      lower.imp_right fun lower => (Nat.le_div_iff_mul_le positive).mpr (by exact_mod_cast lower)
    have most := nearestEven_le few (dividend % divisor) divisor
    have more := (nearestEven_bounds (dividend / divisor) (dividend % divisor) divisor).1
    dsimp only
    generalize nearestEven (dividend / divisor) (dividend % divisor) divisor = significand
      at most more ⊢
    split
    · split
      · exact .infinite negative
      · exact .finite negative (by decide) (by omega) (by omega) (.inr (le_refl _))
    · split
      · exact isNormal_zero negative
      · split
        · exact .infinite negative
        · exact .finite negative (by omega) least (by omega)
            (many.imp_right fun many => le_trans many more)

end Unit

/-! ## What is rounded to a number -/

/-- The fractions that are rounded to a positive number; the interval counts in quarters of the
unit. -/
def Within (significand : ℕ) (exponent : ℤ) (fraction : ℚ) : Prop :=
  Between (significand % 2 = 0)
    ((roundingInterval significand exponent).1 / 4 * 2 ^ exponent)
    ((roundingInterval significand exponent).2.1 / 4 * 2 ^ exponent) fraction

section Within

variable {significand : ℕ} {exponent : ℤ} {fraction : ℚ}

/-- The lower end lies half a unit below a number, and a quarter of a unit below a power of two. -/
theorem lower_eq (positive : 0 < significand) (exponent : ℤ) :
    ((roundingInterval significand exponent).1 / 4 : ℚ) =
      significand - if significand = 2 ^ 52 ∧ leastExponent < exponent then 1 / 4 else 1 / 2 := by
  have whole : Nat.pow 2 52 = 2 ^ 52 := rfl
  unfold roundingInterval
  simp only [whole, Bool.and_eq_true, decide_eq_true_eq]
  split
  · rw [Nat.cast_sub (by omega)]
    push_cast
    ring
  · rw [Nat.cast_sub (by omega)]
    push_cast
    ring

theorem upper_eq (significand : ℕ) (exponent : ℤ) :
    ((roundingInterval significand exponent).2.1 / 4 : ℚ) = significand + 1 / 2 := by
  unfold roundingInterval
  push_cast
  ring

theorem Within.pos (within : Within significand exponent fraction) (positive : 0 < significand) :
    0 < fraction := by
  refine lt_of_lt_of_le (mul_pos ?_ (two_zpow_pos exponent)) within.lower
  have one : (1 : ℚ) ≤ significand := by exact_mod_cast positive
  rw [lower_eq positive]
  split <;> linarith

/-- The interval in units of the number. -/
theorem Within.measured (within : Within significand exponent fraction)
    (positive : 0 < significand) :
    Between (significand % 2 = 0)
      (significand - if significand = 2 ^ 52 ∧ leastExponent < exponent then 1 / 4 else 1 / 2)
      (significand + 1 / 2) (fraction / 2 ^ exponent) := by
  have unit := two_zpow_pos exponent
  obtain ⟨lower, upper, inner⟩ := within
  rw [lower_eq positive] at lower inner
  rw [upper_eq] at upper inner
  exact ⟨(le_div_iff₀ unit).mpr lower, (div_le_iff₀ unit).mpr upper,
    fun odd => ⟨(lt_div_iff₀ unit).mpr (inner odd).1, (div_lt_iff₀ unit).mpr (inner odd).2⟩⟩

/-- In its own unit a number is the whole number that is nearest to what lies in its interval. -/
theorem Within.near (within : Within significand exponent fraction)
    (positive : 0 < significand) :
    Between (significand % 2 = 0) (significand - 1 / 2) (significand + 1 / 2)
      (fraction / 2 ^ exponent) := by
  obtain ⟨lower, upper, inner⟩ := within.measured positive
  split at lower
  · exact ⟨by linarith, upper, fun odd => ⟨by linarith, (inner odd).2⟩⟩
  · rename_i half
    rw [if_neg half] at inner
    exact ⟨lower, upper, inner⟩

/-- What lies below a number, and yet in its interval, lies just below a power of two. -/
theorem Within.eq_power (within : Within significand exponent fraction)
    (positive : 0 < significand) (many : 2 ^ 52 ≤ significand)
    (below : fraction / 2 ^ exponent < 2 ^ 52) :
    significand = 2 ^ 52 := by
  by_contra differs
  have lower := (within.measured positive).lower
  have more : (2 ^ 52 + 1 : ℚ) ≤ significand := by
    exact_mod_cast (by omega : 2 ^ 52 + 1 ≤ significand)
  rw [if_neg fun power => differs power.1] at lower
  linarith

/-- Just below a power of two the unit is half as large, and there the power is nearest. -/
theorem near_below_power {exponent : ℤ} {fraction : ℚ} (more : leastExponent < exponent)
    (lower : 2 ^ 52 - 1 / 4 ≤ fraction / 2 ^ exponent) (below : fraction / 2 ^ exponent < 2 ^ 52) :
    Suits (exponent - 1) fraction ∧
      Between (2 ^ 53 % 2 = 0) ((2 ^ 53 : ℕ) - 1 / 2) ((2 ^ 53 : ℕ) + 1 / 2)
        (fraction / 2 ^ (exponent - 1)) := by
  have unit := two_zpow_pos (exponent - 1)
  have halved : fraction / 2 ^ (exponent - 1) = fraction / 2 ^ exponent * 2 := by
    rw [zpow_sub_one₀ two_ne_zero]
    field_simp
  constructor
  · refine ⟨by omega, ?_, .inr ?_⟩
    · rw [← div_lt_iff₀ unit, halved]
      linarith
    · rw [← le_div_iff₀ unit, halved]
      linarith
  · rw [halved]
    push_cast
    exact ⟨by linarith, by linarith, fun odd => absurd (by decide) odd⟩

/-- **What lies in the interval of a number is rounded to it.** -/
theorem round_eq {negative : Bool} (normal : IsNormal (.finite negative significand exponent))
    (positive : 0 < significand) {numerator denominator : ℕ} (positive' : 0 < denominator)
    (within : Within significand exponent (numerator / denominator)) :
    round negative numerator denominator = .finite negative significand exponent := by
  have something : 0 < numerator := by
    by_contra nothing
    have pos := within.pos positive
    rw [Nat.eq_zero_of_not_pos nothing] at pos
    simp at pos
  obtain ⟨least, greatest, few, many⟩ : leastExponent ≤ exponent ∧ exponent ≤ greatestExponent ∧
      significand < 2 ^ 53 ∧ (exponent = leastExponent ∨ 2 ^ 52 ≤ significand) := by
    cases normal with
    | finite _ few least greatest many => exact ⟨least, greatest, few, many⟩
  have suits := suits_unitExponent something positive'
  have rounds := @round_of_near numerator denominator negative (Nat.ne_of_gt something) positive'
  generalize (numerator / denominator : ℚ) = fraction at within suits rounds
  have unit := two_zpow_pos exponent
  have near := within.near positive
  have small : fraction < 2 ^ 53 * 2 ^ exponent := by
    have fewQ : (significand : ℚ) + 1 ≤ 2 ^ 53 := by exact_mod_cast few
    have upper := near.upper
    rw [← div_lt_iff₀ unit]
    linarith
  by_cases inside : exponent = leastExponent ∨ 2 ^ 52 * 2 ^ exponent ≤ fraction
  · -- The unit of the fraction is that of the number.
    rw [rounds (suits.unique ⟨least, small, inside⟩) near, if_neg (Nat.ne_of_lt few),
      if_neg (Nat.ne_of_gt positive), if_neg (by omega)]
  · obtain ⟨notLeast, below⟩ := not_or.mp inside
    rw [← le_div_iff₀ unit, not_le] at below
    have power := within.eq_power positive (many.resolve_left notLeast) below
    have lower := (within.measured positive).lower
    rw [if_pos ⟨power, by omega⟩, power] at lower
    push_cast at lower
    obtain ⟨suits', nearPower⟩ := near_below_power (by omega) lower below
    rw [rounds (suits.unique suits') nearPower, if_pos rfl, sub_add_cancel, if_neg (by omega),
      power]

end Within

/-! ## Arithmetic -/

theorem isNormal_ofInt (number : ℤ) : IsNormal (ofInt number) := isNormal_round _ Nat.one_pos

theorem isNormal_add (left right : Binary64) : IsNormal (left.add right) := by
  unfold add
  split
  · exact .nan
  · exact .nan
  · split
    · exact .infinite _
    · exact .nan
  · exact .infinite _
  · exact .infinite _
  · dsimp only
    split
    · exact isNormal_zero _
    · exact isNormal_round _ scale_pos

/-! ## Decimals -/

theorem ten_zpow_pos (exponent : ℤ) : (0 : ℚ) < 10 ^ exponent := zpow_pos (by decide) exponent

theorem ten_zpow_le {smaller larger : ℤ} (le : smaller ≤ larger) :
    (10 : ℚ) ^ smaller ≤ 10 ^ larger :=
  zpow_le_zpow_right₀ (by decide) le

/-- A number has as many digits as the power of ten below it tells. -/
theorem toDigits_bounds {digits : ℕ} (positive : 0 < digits) :
    10 ^ ((Nat.toDigits 10 digits).length - 1) ≤ digits ∧
      digits < 10 ^ (Nat.toDigits 10 digits).length := by
  have some : 0 < (Nat.toDigits 10 digits).length := List.length_pos_iff.mpr Nat.toDigits_ne_nil
  constructor
  · by_cases single : (Nat.toDigits 10 digits).length = 1
    · rw [single]
      exact positive
    · exact pow_le_of_length_toDigits (by omega) (by omega)
  · exact (Nat.length_toDigits_le_iff (by decide) some).mp (le_refl _)

/-- A decimal lies between the powers of ten that its digits tell. -/
theorem decimal_bounds {digits : ℕ} (positive : 0 < digits) (scale : ℤ) :
    (10 : ℚ) ^ (((Nat.toDigits 10 digits).length : ℤ) + scale - 1) ≤ digits * 10 ^ scale ∧
      (digits * 10 ^ scale : ℚ) < 10 ^ (((Nat.toDigits 10 digits).length : ℤ) + scale) := by
  obtain ⟨lower, upper⟩ := toDigits_bounds positive
  have some : 0 < (Nat.toDigits 10 digits).length := List.length_pos_iff.mpr Nat.toDigits_ne_nil
  generalize (Nat.toDigits 10 digits).length = length at lower upper some ⊢
  have power := ten_zpow_pos scale
  constructor
  · rw [show (length : ℤ) + scale - 1 = ((length - 1 : ℕ) : ℤ) + scale by omega,
      zpow_add₀ (by decide), zpow_natCast]
    exact mul_le_mul_of_nonneg_right (by exact_mod_cast lower) power.le
  · rw [zpow_add₀ (by decide), zpow_natCast]
    exact mul_lt_mul_of_pos_right (by exact_mod_cast upper) power

theorem least_power : (10 : ℚ) ^ (-330 : ℤ) ≤ 2 ^ (leastExponent - 1) := by
  have powers : 2 ^ 1075 ≤ 10 ^ 330 := by decide +kernel
  rw [show leastExponent - 1 = -((1075 : ℕ) : ℤ) from rfl,
    show (-330 : ℤ) = -((330 : ℕ) : ℤ) from rfl, zpow_neg, zpow_neg, zpow_natCast, zpow_natCast]
  exact inv_anti₀ (by positivity) (by exact_mod_cast powers)

theorem greatest_power : (2 : ℚ) ^ 53 * 2 ^ greatestExponent < 10 ^ (310 : ℤ) := by
  have powers : 2 ^ 53 * 2 ^ 971 < 10 ^ 310 := by decide +kernel
  rw [show greatestExponent = ((971 : ℕ) : ℤ) from rfl,
    show (310 : ℤ) = ((310 : ℕ) : ℤ) from rfl, zpow_natCast, zpow_natCast]
  exact_mod_cast powers

/-- A positive number lies far above the least and far below the greatest decimals. -/
theorem Within.bounds {negative : Bool} {significand : ℕ} {exponent : ℤ} {fraction : ℚ}
    (within : Within significand exponent fraction) (positive : 0 < significand)
    (normal : IsNormal (.finite negative significand exponent)) :
    10 ^ (-330 : ℤ) ≤ fraction ∧ fraction < 10 ^ (310 : ℤ) := by
  obtain ⟨least, greatest, few⟩ : leastExponent ≤ exponent ∧ exponent ≤ greatestExponent ∧
      significand < 2 ^ 53 := by
    cases normal with
    | finite _ few least greatest _ => exact ⟨least, greatest, few⟩
  have unit := two_zpow_pos exponent
  obtain ⟨lower, upper, -⟩ := within.near positive
  rw [le_div_iff₀ unit] at lower
  rw [div_le_iff₀ unit] at upper
  constructor
  · have one : (1 : ℚ) ≤ significand := by exact_mod_cast positive
    have half := two_zpow_succ (leastExponent - 1)
    rw [sub_add_cancel] at half
    calc (10 : ℚ) ^ (-330 : ℤ) ≤ 2 ^ (leastExponent - 1) := least_power
      _ = 1 / 2 * 2 ^ leastExponent := by linarith
      _ ≤ 1 / 2 * 2 ^ exponent := by gcongr; exact one_le_two
      _ ≤ (significand - 1 / 2) * 2 ^ exponent := by gcongr; linarith
      _ ≤ fraction := lower
  · have fewQ : (significand : ℚ) + 1 ≤ 2 ^ 53 := by exact_mod_cast few
    calc fraction ≤ (significand + 1 / 2) * 2 ^ exponent := upper
      _ ≤ 2 ^ 53 * 2 ^ exponent := by gcongr; linarith
      _ ≤ 2 ^ 53 * 2 ^ greatestExponent := by gcongr; exact one_le_two
      _ < 10 ^ (310 : ℤ) := greatest_power

theorem isNormal_ofDecimal (negative : Bool) (digits : ℕ) (scale : ℤ) :
    IsNormal (ofDecimal negative digits scale) := by
  unfold ofDecimal
  split
  · exact isNormal_zero negative
  · dsimp only
    repeat' split
    · exact .infinite negative
    · exact isNormal_zero negative
    · exact isNormal_round negative (Nat.pow_pos (by decide))
    · exact isNormal_round negative Nat.one_pos

/-- **A decimal in the interval of a number is rounded to it.** -/
theorem ofDecimal_eq {negative : Bool} {significand : ℕ} {exponent : ℤ}
    (normal : IsNormal (.finite negative significand exponent)) (positive : 0 < significand)
    {digits : ℕ} {scale : ℤ} (within : Within significand exponent (digits * 10 ^ scale)) :
    ofDecimal negative digits scale = .finite negative significand exponent := by
  have pos := within.pos positive
  obtain ⟨large, small⟩ := within.bounds positive normal
  have something : 0 < digits := by
    by_contra nothing
    rw [Nat.eq_zero_of_not_pos nothing] at pos
    simp at pos
  obtain ⟨lower, upper⟩ := decimal_bounds something scale
  have notLarge : ((Nat.toDigits 10 digits).length : ℤ) + scale - 1 < 310 :=
    (zpow_lt_zpow_iff_right₀ (by decide)).mp (lt_of_le_of_lt lower small)
  have notSmall : -330 < ((Nat.toDigits 10 digits).length : ℤ) + scale :=
    (zpow_lt_zpow_iff_right₀ (by decide)).mp (lt_of_le_of_lt large upper)
  unfold ofDecimal
  rw [if_neg (Nat.ne_of_gt something)]
  dsimp only
  rw [if_neg (by omega), if_neg (by omega)]
  by_cases fractional : scale < 0
  · rw [if_pos fractional]
    obtain ⟨places, rfl⟩ : ∃ places : ℕ, scale = -(places : ℤ) := ⟨scale.natAbs, by omega⟩
    refine round_eq normal positive (Nat.pow_pos (by decide)) ?_
    rw [zpow_neg, zpow_natCast] at within
    simpa [div_eq_mul_inv] using within
  · rw [if_neg fractional]
    obtain ⟨places, rfl⟩ : ∃ places : ℕ, scale = places := ⟨scale.natAbs, by omega⟩
    refine round_eq normal positive Nat.one_pos ?_
    rw [zpow_natCast] at within
    simpa using within

end Binary64

/-! ## Numerals -/

namespace Numeral

theorem isNormal_of_special? {negative : Bool} {characters : List Char} {number : Binary64}
    (read : special? negative characters = some number) : number.IsNormal := by
  unfold special? at read
  dsimp only at read
  split at read
  · cases read
    exact .infinite negative
  · split at read
    · cases read
      exact .nan
    · cases read

theorem isNormal_of_readDecimal? {negative : Bool} {characters : List Char} {number : Binary64}
    (read : readDecimal? negative characters = some number) : number.IsNormal := by
  unfold readDecimal? at read
  dsimp only at read
  -- With a point or without, what was read is rounded in the end.
  split at read
  all_goals
    obtain ⟨_, found⟩ := Option.ite_none_left_eq_some.mp read
    obtain ⟨exponent, _, rounded⟩ := Option.map_eq_some_iff.mp found
    exact rounded ▸ Binary64.isNormal_ofDecimal _ _ _

/-- **A number that was read from a numeral is in its lowest form.** -/
theorem isNormal_of_readNumber? {text : String} {number : Binary64}
    (read : readNumber? text = some number) : number.IsNormal := by
  obtain ⟨characters, _, read⟩ := Option.bind_eq_some_iff.mp read
  dsimp only at read
  generalize (takeSign characters).1 = negative, (takeSign characters).2 = unsigned at read
  cases word : special? negative unsigned with
  | some special =>
      rw [word] at read
      cases read
      exact isNormal_of_special? word
  | none =>
      rw [word] at read
      exact isNormal_of_readDecimal? read

end Numeral

end GuestFlow
