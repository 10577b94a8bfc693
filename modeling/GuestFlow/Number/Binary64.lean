/-!
# Numbers of 64 bits

The fractional numbers of a document are binary floating-point numbers with a
significand of 53 bits.  This module keeps such a number as exact integers: a sign,
a significand and a power of two.  Nothing here uses the machine's own floating
point, so every operation can be evaluated and reasoned about.

Every finite number is produced by `Binary64.round`, which takes an exact fraction
and returns the number nearest to it, a tie going to the even significand.  The
arithmetic is the exact operation on fractions followed by that one rounding.
-/

set_option autoImplicit false

namespace GuestFlow

/-- A binary floating-point number.  `finite negative significand exponent` stands for
`± significand * 2 ^ exponent`. -/
inductive Binary64 where
  | finite (negative : Bool) (significand : Nat) (exponent : Int)
  | infinite (negative : Bool)
  | nan
  deriving DecidableEq

namespace Binary64

/-- The exponent of the numbers nearest to zero. -/
def leastExponent : Int := -1074

/-- The exponent of the largest numbers. -/
def greatestExponent : Int := 971

/-- Significands stay below this bound. -/
def significandBound : Nat := Nat.pow 2 53

instance : Inhabited Binary64 := ⟨.finite false 0 leastExponent⟩

/-- Zero with a sign. -/
def zero (negative : Bool) : Binary64 := .finite negative 0 leastExponent

/-! ## Rounding a fraction -/

/-- A fraction measured in units of `2 ^ exponent`: quotient, remainder and divisor. -/
def measure (numerator denominator : Nat) (exponent : Int) : Nat × Nat × Nat :=
  let scaledNumerator := if exponent < 0 then numerator * Nat.pow 2 exponent.natAbs else numerator
  let scaledDenominator := if exponent < 0 then denominator else denominator * Nat.pow 2 exponent.natAbs
  (scaledNumerator / scaledDenominator, scaledNumerator % scaledDenominator, scaledDenominator)

/-- The quotient rounded to the nearest whole number, a tie going to the even one. -/
def nearestEven (quotient remainder divisor : Nat) : Nat :=
  if 2 * remainder < divisor then quotient
  else if divisor < 2 * remainder then quotient + 1
  else if quotient % 2 = 0 then quotient else quotient + 1

/-- The unit in which a positive fraction has a significand of 53 bits, or the least unit. -/
def unitExponent (numerator denominator : Nat) : Int :=
  let estimate : Int := (numerator.log2 : Int) - (denominator.log2 : Int) - 52
  let settled :=
    if (measure numerator denominator estimate).1 < Nat.pow 2 52 then estimate - 1 else estimate
  max settled leastExponent

/-- The number nearest to `± numerator / denominator`; beyond the largest number it is infinite. -/
def round (negative : Bool) (numerator denominator : Nat) : Binary64 :=
  if numerator = 0 then zero negative
  else
    let exponent := unitExponent numerator denominator
    let (quotient, remainder, divisor) := measure numerator denominator exponent
    let significand := nearestEven quotient remainder divisor
    let (significand, exponent) :=
      if significand = significandBound then (Nat.pow 2 52, exponent + 1) else (significand, exponent)
    if significand = 0 then zero negative
    else if greatestExponent < exponent then .infinite negative
    else .finite negative significand exponent

/-- The number nearest to an integer. -/
def ofInt (value : Int) : Binary64 := round (decide (value < 0)) value.natAbs 1

/-- Whether an integer is too large for any finite number. -/
def overflows (value : Int) : Bool :=
  match ofInt value with
  | .infinite _ => true
  | _ => false

/-- The number nearest to `± digits * 10 ^ scale`. -/
def ofDecimal (negative : Bool) (digits : Nat) (scale : Int) : Binary64 :=
  if digits = 0 then zero negative
  else
    let size : Int := (Nat.toDigits 10 digits).length + scale
    if size > 310 then .infinite negative
    else if size < -330 then zero negative
    else if scale < 0 then round negative digits (Nat.pow 10 scale.natAbs)
    else round negative (digits * Nat.pow 10 scale.natAbs) 1

/-! ## Exact views -/

def isNan : Binary64 → Bool
  | .nan => true
  | _ => false

/-- A finite number counted in units of `2 ^ leastExponent`, which is always exact. -/
def scaled (negative : Bool) (significand : Nat) (exponent : Int) : Int :=
  let magnitude : Int := (significand * Nat.pow 2 (exponent - leastExponent).toNat : Nat)
  if negative then -magnitude else magnitude

/-- The denominator that belongs to `scaled`. -/
def scale : Nat := Nat.pow 2 1074

/-- The integer a finite number is truncated to, toward zero. -/
def truncate? : Binary64 → Option Int
  | .finite negative significand exponent =>
    some ((scaled negative significand exponent).tdiv scale)
  | _ => none

/-- The integer a number is, if it is one. -/
def toInt? : Binary64 → Option Int
  | .finite negative significand exponent =>
    let count := scaled negative significand exponent
    if count.tmod scale = 0 then some (count.tdiv scale) else none
  | _ => none

/-- Zero is the only number that counts as false. -/
def isZero : Binary64 → Bool
  | .finite _ significand _ => significand == 0
  | _ => false

/-! ## Order -/

/-- The order of numbers; nothing is below or above `nan`, and the two zeros are equal. -/
def less : Binary64 → Binary64 → Bool
  | .nan, _ => false
  | _, .nan => false
  | .infinite leftNegative, .infinite rightNegative => leftNegative && !rightNegative
  | .infinite leftNegative, .finite .. => leftNegative
  | .finite .., .infinite rightNegative => !rightNegative
  | .finite leftNegative leftSignificand leftExponent,
    .finite rightNegative rightSignificand rightExponent =>
      decide (scaled leftNegative leftSignificand leftExponent <
        scaled rightNegative rightSignificand rightExponent)

/-- Equality of the numbers meant; `nan` equals nothing. -/
def same : Binary64 → Binary64 → Bool
  | .nan, _ => false
  | _, .nan => false
  | .infinite leftNegative, .infinite rightNegative => leftNegative == rightNegative
  | .finite leftNegative leftSignificand leftExponent,
    .finite rightNegative rightSignificand rightExponent =>
      decide (scaled leftNegative leftSignificand leftExponent =
        scaled rightNegative rightSignificand rightExponent)
  | _, _ => false

/-! ## Arithmetic -/

def isNegative : Binary64 → Bool
  | .finite negative _ _ => negative
  | .infinite negative => negative
  | .nan => false

def negate : Binary64 → Binary64
  | .finite negative significand exponent => .finite (!negative) significand exponent
  | .infinite negative => .infinite (!negative)
  | .nan => .nan

/-- The number nearest to `± significand * 2 ^ exponent` for an exponent of any size. -/
def ofScaled (negative : Bool) (significand : Nat) (exponent : Int) : Binary64 :=
  if exponent < 0 then round negative significand (Nat.pow 2 exponent.natAbs)
  else round negative (significand * Nat.pow 2 exponent.natAbs) 1

/-- The product, rounded once. -/
def multiply : Binary64 → Binary64 → Binary64
  | .nan, _ => .nan
  | _, .nan => .nan
  | .infinite negative, other =>
    if other.isZero then .nan else .infinite (negative != other.isNegative)
  | other, .infinite negative =>
    if other.isZero then .nan else .infinite (negative != other.isNegative)
  | .finite leftNegative leftSignificand leftExponent,
    .finite rightNegative rightSignificand rightExponent =>
      ofScaled (leftNegative != rightNegative) (leftSignificand * rightSignificand)
        (leftExponent + rightExponent)

/-- The sum, rounded once; a sum of zero is negative only if both terms are. -/
def add : Binary64 → Binary64 → Binary64
  | .nan, _ => .nan
  | _, .nan => .nan
  | .infinite leftNegative, .infinite rightNegative =>
    if leftNegative = rightNegative then .infinite leftNegative else .nan
  | .infinite negative, .finite .. => .infinite negative
  | .finite .., .infinite negative => .infinite negative
  | .finite leftNegative leftSignificand leftExponent,
    .finite rightNegative rightSignificand rightExponent =>
      let sum := scaled leftNegative leftSignificand leftExponent +
        scaled rightNegative rightSignificand rightExponent
      if sum = 0 then zero (leftNegative && rightNegative)
      else round (decide (sum < 0)) sum.natAbs scale

/-- The number with at most `places` decimal places that is nearest, a tie going to the even digit. -/
def toPlaces (places : Nat) : Binary64 → Binary64
  | .finite negative significand exponent =>
    let count := (scaled negative significand exponent).natAbs * Nat.pow 10 places
    round negative (nearestEven (count / scale) (count % scale) scale) (Nat.pow 10 places)
  | other => other

end Binary64

end GuestFlow
