import GuestFlow.Proofs.Number.Rounding

/-!
# The shortest digits of a number

The digits that are written for a number stand for a decimal in its interval
(`Binary64.within_shortestDigits`), so that reading them gives the number back.  They are looked
for on finer and finer decimal grids.  On the grid of seventeen digits at least one of the two
neighbours of the number lies in its interval, because the steps of that grid are smaller than
the unit of the number (`Shortest.exists_attempt`).
-/

set_option autoImplicit false

namespace GuestFlow.Binary64

/-! ## The power of ten below a fraction -/

/-- A search for the power of ten goes on until it has found one below the fraction. -/
theorem search_le {numerator denominator : ℕ} (positive : 0 < denominator) (step fuel : ℕ)
    (enough : (10 : ℚ) ^ (-((step + fuel : ℕ) : ℤ)) ≤ numerator / denominator) :
    (10 : ℚ) ^ decimalPower.search numerator denominator step fuel ≤ numerator / denominator := by
  induction fuel generalizing step with
  | zero => exact enough
  | succ fuel ih =>
      unfold decimalPower.search
      split
      · rename_i found
        rw [zpow_neg, zpow_natCast, le_div_iff₀ (Nat.cast_pos.mpr positive),
          inv_mul_le_iff₀ (by positivity), mul_comm]
        exact_mod_cast found
      · exact ih (step + 1) (by rwa [show step + 1 + fuel = step + (fuel + 1) by omega])

theorem decimalPower_le {numerator denominator : ℕ} (positive : 0 < denominator)
    (enough : (10 : ℚ) ^ (-401 : ℤ) ≤ numerator / denominator) :
    (10 : ℚ) ^ decimalPower numerator denominator ≤ numerator / denominator := by
  unfold decimalPower
  split
  · rename_i large
    have whole := (toDigits_bounds (Nat.div_pos large positive)).1
    have some : 0 < (Nat.toDigits 10 (numerator / denominator)).length :=
      List.length_pos_iff.mpr Nat.toDigits_ne_nil
    generalize (Nat.toDigits 10 (numerator / denominator)).length = length at whole some ⊢
    rw [show (length : ℤ) - 1 = ((length - 1 : ℕ) : ℤ) by omega, zpow_natCast,
      le_div_iff₀ (Nat.cast_pos.mpr positive)]
    exact_mod_cast (Nat.le_div_iff_mul_le positive).mp whole
  · exact search_le positive 1 400 enough

/-! ## Candidates -/

namespace Shortest

/-- A power as a fraction: what stands above the line … -/
def above (base : ℕ) (exponent : ℤ) : ℕ := if exponent < 0 then 1 else Nat.pow base exponent.natAbs

/-- … and what stands below it. -/
def below (base : ℕ) (exponent : ℤ) : ℕ := if exponent < 0 then Nat.pow base exponent.natAbs else 1

theorem above_pos {base : ℕ} (positive : 0 < base) (exponent : ℤ) : 0 < above base exponent := by
  unfold above
  split
  · exact Nat.one_pos
  · exact Nat.pow_pos positive

theorem below_pos {base : ℕ} (positive : 0 < base) (exponent : ℤ) : 0 < below base exponent := by
  unfold below
  split
  · exact Nat.pow_pos positive
  · exact Nat.one_pos

theorem above_div_below (base : ℕ) (exponent : ℤ) :
    (above base exponent / below base exponent : ℚ) = (base : ℚ) ^ exponent := by
  unfold above below
  by_cases negative : exponent < 0
  · obtain ⟨places, rfl⟩ : ∃ places : ℕ, exponent = -(places : ℤ) := ⟨exponent.natAbs, by omega⟩
    rw [if_pos negative, if_pos negative, zpow_neg, zpow_natCast, Int.natAbs_neg,
      Int.natAbs_natCast]
    simp
  · obtain ⟨places, rfl⟩ : ∃ places : ℕ, exponent = places := ⟨exponent.natAbs, by omega⟩
    rw [if_neg negative, if_neg negative, zpow_natCast, Int.natAbs_natCast]
    simp

section Candidates

variable (significand : ℕ) (exponent : ℤ)

/-- A number in quarters of its unit, as far as it stands above the line. -/
def target : ℕ := 4 * significand * above 2 (exponent - 2)

/-- Whether the decimal `digits * 10 ^ step` lies in the interval of a number. -/
def fits (step : ℤ) (digits : ℕ) : Bool :=
  let interval := roundingInterval significand exponent
  let position := digits * above 10 step * below 2 (exponent - 2)
  let least := interval.1 * above 2 (exponent - 2) * below 10 step
  let most := interval.2.1 * above 2 (exponent - 2) * below 10 step
  if interval.2.2 then decide (least ≤ position) && decide (position ≤ most)
  else decide (least < position) && decide (position < most)

/-- How far a decimal lies from a number. -/
def distance (step : ℤ) (digits : ℕ) : ℕ :=
  let position := digits * above 10 step * below 2 (exponent - 2)
  let target := target significand exponent * below 10 step
  if position ≤ target then target - position else position - target

/-- The digits of the last decimal that is not above a number. -/
def neighbour (step : ℤ) : ℕ :=
  target significand exponent * below 10 step / (below 2 (exponent - 2) * above 10 step)

/-- The candidate on a grid: of the two neighbours the one that fits, or the nearer one. -/
def attempt (step : ℤ) : Option (ℕ × ℤ) :=
  let first := neighbour significand exponent step
  match fits significand exponent step first, fits significand exponent step (first + 1) with
  | true, true =>
    if distance significand exponent step first <
        distance significand exponent step (first + 1) then some (first, step)
    else if distance significand exponent step (first + 1) <
        distance significand exponent step first then some (first + 1, step)
    else some (if first % 2 = 0 then first else first + 1, step)
  | true, false => some (first, step)
  | false, true => some (first + 1, step)
  | false, false => none

/-- The coarsest grid with one digit, and sixteen finer ones are tried. -/
theorem shortestDigits_eq :
    shortestDigits significand exponent =
      ((List.range 17).findSome? fun count : ℕ => attempt significand exponent
        (decimalPower (target significand exponent) (below 2 (exponent - 2)) - count)).getD
        (significand, 0) :=
  rfl

end Candidates

section Candidates

variable {significand : ℕ} {exponent step : ℤ} {digits : ℕ}

theorem quarter (exponent : ℤ) : (2 : ℚ) ^ (exponent - 2) = 2 ^ exponent / 4 := by
  rw [zpow_sub₀ two_ne_zero]
  norm_num

theorem target_eq (significand : ℕ) (exponent : ℤ) :
    (target significand exponent / below 2 (exponent - 2) : ℚ) = significand * 2 ^ exponent := by
  have ratio := above_div_below 2 (exponent - 2)
  rw [Nat.cast_ofNat, quarter] at ratio
  unfold target
  push_cast
  rw [mul_div_assoc, ratio]
  ring

/-- To stand at a decimal is to be that many steps of its grid away from zero. -/
theorem compare_position (digits bound : ℕ) (exponent step : ℤ) :
    (bound * above 2 (exponent - 2) * below 10 step ≤
        digits * above 10 step * below 2 (exponent - 2) ↔
      (bound / 4 * 2 ^ exponent : ℚ) ≤ digits * 10 ^ step) ∧
    (digits * above 10 step * below 2 (exponent - 2) ≤
        bound * above 2 (exponent - 2) * below 10 step ↔
      (digits * 10 ^ step : ℚ) ≤ bound / 4 * 2 ^ exponent) := by
  have unit := above_div_below 2 (exponent - 2)
  have grid := above_div_below 10 step
  rw [Nat.cast_ofNat, quarter] at unit
  rw [Nat.cast_ofNat] at grid
  have positive : (0 : ℚ) < below 2 (exponent - 2) := Nat.cast_pos.mpr (below_pos two_pos _)
  have positive' : (0 : ℚ) < below 10 step := Nat.cast_pos.mpr (below_pos (by decide) _)
  have left : (bound / 4 * 2 ^ exponent : ℚ) =
      (bound * above 2 (exponent - 2) * below 10 step : ℕ) /
        (below 2 (exponent - 2) * below 10 step : ℚ) := by
    rw [show (bound / 4 * 2 ^ exponent : ℚ) = bound * (2 ^ exponent / 4) by ring, ← unit]
    push_cast
    field_simp
  have right : (digits * 10 ^ step : ℚ) =
      (digits * above 10 step * below 2 (exponent - 2) : ℕ) /
        (below 2 (exponent - 2) * below 10 step : ℚ) := by
    rw [← grid]
    push_cast
    field_simp
  rw [left, right, div_le_div_iff_of_pos_right (mul_pos positive positive'),
    div_le_div_iff_of_pos_right (mul_pos positive positive'), Nat.cast_le, Nat.cast_le]
  exact ⟨Iff.rfl, Iff.rfl⟩

theorem fits_iff : fits significand exponent step digits = true ↔
    Within significand exponent (digits * 10 ^ step) := by
  obtain ⟨lower, upper⟩ :=
    compare_position digits (roundingInterval significand exponent).1 exponent step
  obtain ⟨lower', upper'⟩ :=
    compare_position digits (roundingInterval significand exponent).2.1 exponent step
  have closed : (roundingInterval significand exponent).2.2 = true ↔ significand % 2 = 0 :=
    beq_iff_eq
  unfold fits Within
  dsimp only
  split
  · rename_i even
    rw [Bool.and_eq_true, decide_eq_true_eq, decide_eq_true_eq, lower, upper']
    exact ⟨fun both => ⟨both.1, both.2, fun odd => absurd (closed.mp even) odd⟩,
      fun between => ⟨between.lower, between.upper⟩⟩
  · rename_i odd
    rw [Bool.and_eq_true, decide_eq_true_eq, decide_eq_true_eq, ← not_le, ← not_le, upper, lower',
      not_le, not_le]
    exact ⟨fun both => ⟨both.1.le, both.2.le, fun _ => both⟩,
      fun between => between.inner fun even => odd (closed.mpr even)⟩

/-- A candidate lies in the interval, on the grid. -/
theorem within_of_attempt {found : ℕ × ℤ}
    (candidate : attempt significand exponent step = some found) :
    Within significand exponent (found.1 * 10 ^ found.2) := by
  unfold attempt at candidate
  dsimp only at candidate
  split at candidate
  · rename_i first second
    repeat' split at candidate
    all_goals
      cases candidate
      first | exact fits_iff.mp first | exact fits_iff.mp second
  · rename_i first _
    cases candidate
    exact fits_iff.mp first
  · rename_i _ second
    cases candidate
    exact fits_iff.mp second
  · cases candidate

/-- The number lies between its neighbours on a grid. -/
theorem neighbour_bounds (significand : ℕ) (exponent step : ℤ) :
    (neighbour significand exponent step * 10 ^ step : ℚ) ≤ significand * 2 ^ exponent ∧
      (significand * 2 ^ exponent : ℚ) <
        (neighbour significand exponent step + 1 : ℕ) * 10 ^ step := by
  have grid := above_div_below 10 step
  rw [Nat.cast_ofNat] at grid
  have positive : 0 < below 2 (exponent - 2) := below_pos two_pos _
  have positive' : (0 : ℚ) < below 10 step := Nat.cast_pos.mpr (below_pos (by decide) _)
  have positive'' : 0 < above 10 step := above_pos (by decide) _
  have divisor : 0 < below 2 (exponent - 2) * above 10 step := Nat.mul_pos positive positive''
  have lower := Nat.div_mul_le_self (target significand exponent * below 10 step)
    (below 2 (exponent - 2) * above 10 step)
  have upper := Nat.lt_div_mul_add (a := target significand exponent * below 10 step) divisor
  rw [← Nat.succ_mul] at upper
  rw [← target_eq, ← grid]
  unfold neighbour
  generalize target significand exponent * below 10 step /
    (below 2 (exponent - 2) * above 10 step) = first at lower upper ⊢
  have positive : (0 : ℚ) < below 2 (exponent - 2) := Nat.cast_pos.mpr positive
  have lower : (first * (below 2 (exponent - 2) * above 10 step) : ℚ) ≤
    target significand exponent * below 10 step := by exact_mod_cast lower
  have upper : (target significand exponent * below 10 step : ℚ) <
    (first + 1 : ℕ) * (below 2 (exponent - 2) * above 10 step) := by exact_mod_cast upper
  constructor
  · rw [mul_div_assoc', div_le_div_iff₀ positive' positive]
    linarith
  · rw [mul_div_assoc', div_lt_div_iff₀ positive positive']
    linarith

theorem exists_attempt_of_fits (one : fits significand exponent step
      (neighbour significand exponent step) = true ∨
    fits significand exponent step (neighbour significand exponent step + 1) = true) :
    ∃ found, attempt significand exponent step = some found := by
  unfold attempt
  dsimp only
  generalize fits significand exponent step (neighbour significand exponent step) = first at one ⊢
  generalize fits significand exponent step (neighbour significand exponent step + 1) = second
    at one ⊢
  cases first <;> cases second
  · simp at one
  · exact ⟨_, rfl⟩
  · exact ⟨_, rfl⟩
  · dsimp only
    repeat' split
    all_goals exact ⟨_, rfl⟩

/-- What lies less than half a unit above a number, or as near below it as its interval reaches, is
rounded to it. -/
theorem within_of_near {fraction : ℚ} (positive : 0 < significand)
    (lower :
      (significand - if significand = 2 ^ 52 ∧ leastExponent < exponent then 1 / 4 else 1 / 2 : ℚ) *
        2 ^ exponent < fraction)
    (upper : fraction < (significand + 1 / 2) * 2 ^ exponent) :
    Within significand exponent fraction := by
  rw [← lower_eq positive] at lower
  rw [← upper_eq significand exponent] at upper
  exact ⟨lower.le, upper.le, fun _ => ⟨lower, upper⟩⟩

/-- **On a fine grid a neighbour of the number lies in its interval.** -/
theorem exists_attempt (few : significand < 2 ^ 53) (positive : 0 < significand)
    (fine : (10 ^ 16 * 10 ^ step : ℚ) ≤ significand * 2 ^ exponent) :
    ∃ found, attempt significand exponent step = some found := by
  refine exists_attempt_of_fits ?_
  rw [fits_iff, fits_iff]
  obtain ⟨first, second⟩ := neighbour_bounds significand exponent step
  generalize neighbour significand exponent step = digits at first second ⊢
  have unit := two_zpow_pos exponent
  have next : ((digits + 1 : ℕ) * 10 ^ step : ℚ) = digits * 10 ^ step + 10 ^ step := by
    push_cast
    ring
  rw [next] at second ⊢
  by_cases power : significand = 2 ^ 52 ∧ leastExponent < exponent
  · -- The steps are smaller than half the unit, so the upper neighbour is near enough.
    have narrow : (10 ^ step : ℚ) < 1 / 2 * 2 ^ exponent := by
      rw [power.1] at fine
      push_cast at fine
      linarith
    refine .inr (within_of_near positive ?_ (by linarith))
    rw [if_pos power]
    linarith
  · -- The steps are smaller than the unit, so the nearer neighbour is near enough.
    have narrow : (10 ^ step : ℚ) < 2 ^ exponent := by
      have few : (significand : ℚ) * 2 ^ exponent < 2 ^ 53 * 2 ^ exponent :=
        mul_lt_mul_of_pos_right (by exact_mod_cast few) unit
      linarith
    rcases lt_or_ge (significand * 2 ^ exponent - digits * 10 ^ step : ℚ) (1 / 2 * 2 ^ exponent)
      with near | far
    · refine .inl (within_of_near positive ?_ (by linarith))
      rw [if_neg power]
      linarith
    · refine .inr (within_of_near positive ?_ (by linarith))
      rw [if_neg power]
      linarith

end Candidates

end Shortest

/-- **The shortest digits stand for a decimal that is rounded to the number.** -/
theorem within_shortestDigits {negative : Bool} {significand : ℕ} {exponent : ℤ}
    (normal : IsNormal (.finite negative significand exponent)) (positive : 0 < significand) :
    Within significand exponent
      ((shortestDigits significand exponent).1 * 10 ^ (shortestDigits significand exponent).2) := by
  have few : significand < 2 ^ 53 := by
    cases normal with
    | finite _ few _ _ _ => exact few
  have unit := two_zpow_pos exponent
  have itself : Within significand exponent (significand * 2 ^ exponent) := by
    refine Shortest.within_of_near positive ?_ (by linarith)
    split <;> linarith
  have large : (10 : ℚ) ^ (-401 : ℤ) ≤ significand * 2 ^ exponent :=
    le_trans (ten_zpow_le (by decide)) (itself.bounds positive normal).1
  have below := decimalPower_le (Shortest.below_pos two_pos (exponent - 2))
    ((Shortest.target_eq significand exponent).symm ▸ large)
  rw [Shortest.target_eq] at below
  rw [Shortest.shortestDigits_eq]
  generalize decimalPower (Shortest.target significand exponent)
    (Shortest.below 2 (exponent - 2)) = power at below ⊢
  cases tried : (List.range 17).findSome? fun count : ℕ =>
      Shortest.attempt significand exponent (power - count) with
  | some found =>
      obtain ⟨count, _, candidate⟩ := List.exists_of_findSome?_eq_some tried
      exact Shortest.within_of_attempt candidate
  | none =>
      have nothing := List.findSome?_eq_none_iff.mp tried 16 (by decide)
      have fine : (10 ^ 16 * 10 ^ (power - (16 : ℕ)) : ℚ) ≤ significand * 2 ^ exponent := by
        rw [zpow_sub₀ (by decide), zpow_natCast]
        field_simp
        exact below
      obtain ⟨found, candidate⟩ := Shortest.exists_attempt few positive fine
      rw [nothing] at candidate
      cases candidate

end GuestFlow.Binary64
