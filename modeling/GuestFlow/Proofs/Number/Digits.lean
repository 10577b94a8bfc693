import GuestFlow.Proofs.Json.Reading
import GuestFlow.Proofs.Number.Rounding
import GuestFlow.Proofs.Script.Figure

/-!
# Decimal digits

The digits of a number are read as the number again (`Numeral.digitsValue_toDigits`), and they
begin with a zero only if the number is zero.  Zeros in front of digits do not count, and each
zero behind them makes the number ten times as large.
-/

set_option autoImplicit false

namespace GuestFlow

namespace Numeral

theorem digitsValue_toDigits (number : ℕ) : digitsValue (Nat.toDigits 10 number) = number := by
  have read := @Nat.ofDigitChars_ten_toDigits number
  rw [Nat.ofDigitChars_eq_foldl] at read
  refine Eq.trans ?_ read
  unfold digitsValue value
  rw [List.foldl_map]
  congr 1
  funext total digit
  rw [Nat.mul_comm]
  rfl

theorem digitsValue_append (first second : List Char) :
    digitsValue (first ++ second) =
      digitsValue first * 10 ^ second.length + digitsValue second := by
  induction second using List.reverseRecOn with
  | nil => simp [digitsValue, value]
  | append_singleton second last ih =>
      rw [← List.append_assoc]
      simp only [digitsValue, value, List.map_append, List.foldl_append, List.map_cons,
        List.map_nil, List.foldl_cons, List.foldl_nil, List.length_append, List.length_singleton,
        pow_succ] at ih ⊢
      rw [ih]
      ring

theorem digitsValue_zeros (count : ℕ) : digitsValue (List.replicate count '0') = 0 := by
  induction count with
  | zero => rfl
  | succ count ih =>
      rw [List.replicate_succ', digitsValue_append, ih]
      rfl

theorem digitsValue_lt {digits : List Char} (areDigits : ∀ digit ∈ digits, digit.isDigit = true) :
    digitsValue digits < 10 ^ digits.length := by
  refine lt_of_lt_of_eq (value_lt fun digit member => ?_) (by rw [List.length_map]; rfl)
  obtain ⟨character, inside, rfl⟩ := List.mem_map.mp member
  have bounds := bounds_of_isDigit (areDigits character inside)
  omega

/-- The digits that a number is written with. -/
def digitsOf (number : ℕ) : Script.Digits where
  characters := Nat.toDigits 10 number
  areDigits := fun _ member => Nat.isDigit_of_mem_toDigits (by decide) (by decide) member
  nonempty := Nat.toDigits_ne_nil

/-- The digits of a positive number do not begin with zero. -/
theorem head?_toDigits {number : ℕ} (positive : 0 < number) :
    (Nat.toDigits 10 number).head? ≠ some '0' := by
  have areDigits : ∀ digit ∈ Nat.toDigits 10 number, digit.isDigit = true :=
    (digitsOf number).areDigits
  have same := digitsValue_toDigits number
  have least := (Binary64.toDigits_bounds positive).1
  cases written : Nat.toDigits 10 number with
  | nil => simp
  | cons first rest =>
      rw [written] at areDigits same least
      intro zero
      cases zero
      have few := digitsValue_lt (List.forall_mem_cons.mp areDigits).2
      have rest : digitsValue ('0' :: rest) = digitsValue rest := by
        rw [← List.singleton_append, digitsValue_append]
        simp [digitsValue, value]
      rw [List.length_cons, Nat.add_sub_cancel] at least
      omega

/-- The decimal text of an integer is its sign and its digits. -/
theorem toString_eq (number : Int) :
    toString number = String.ofList
      (Script.Figure.sign (decide (number < 0)) ++ Nat.toDigits 10 number.natAbs) := by
  cases number with
  | ofNat magnitude =>
      rw [show toString (Int.ofNat magnitude) = magnitude.repr from rfl,
        Nat.repr_eq_ofList_toDigits]
      rfl
  | negSucc magnitude =>
      have negative : decide (Int.negSucc magnitude < 0) = true :=
        decide_eq_true (Int.negSucc_lt_zero magnitude)
      rw [show toString (Int.negSucc magnitude) = "-" ++ (magnitude + 1).repr from rfl,
        Nat.repr_eq_ofList_toDigits, show "-" = String.ofList ['-'] from rfl,
        ← String.ofList_append, negative]
      rfl

end Numeral

end GuestFlow
