import GuestFlow.Number.Binary64

/-!
# The shortest decimal text of a number

A finite number is written with the fewest significant digits that read back as the
same number, and among those with the digits nearest to it.  `shortestDigits` finds
them by testing, for one digit, two digits and so on, the two neighbours of the number
on that decimal grid; a neighbour is accepted when it lies in the interval of fractions
that round to the number.

How the digits are laid out is a matter of format and is kept apart, in `Layout`.
-/

set_option autoImplicit false

namespace GuestFlow

namespace Binary64

/-- The greatest `power` with `10 ^ power ≤ numerator / denominator`, for a positive fraction. -/
def decimalPower (numerator denominator : Nat) : Int :=
  if denominator ≤ numerator then
    ((Nat.toDigits 10 (numerator / denominator)).length : Int) - 1
  else search 1 400
where
  search (step : Nat) : Nat → Int
    | 0 => -(step : Int)
    | fuel + 1 =>
      if denominator ≤ numerator * Nat.pow 10 step then -(step : Int) else search (step + 1) fuel

/-- The fractions that round to `significand * 2 ^ exponent`, in quarters of a unit:
the lower end, the upper end, and whether the ends belong to it. -/
def roundingInterval (significand : Nat) (exponent : Int) : Nat × Nat × Bool :=
  let lower :=
    if significand = Nat.pow 2 52 && decide (leastExponent < exponent)
    then 4 * significand - 1 else 4 * significand - 2
  (lower, 4 * significand + 2, significand % 2 == 0)

/-- The digits and the power of ten of the shortest decimal for a positive number. -/
def shortestDigits (significand : Nat) (exponent : Int) : Nat × Int :=
  -- All quantities are multiples of a quarter unit, `2 ^ (exponent - 2)`.
  let quarter := exponent - 2
  let up := if quarter < 0 then 1 else Nat.pow 2 quarter.natAbs
  let down := if quarter < 0 then Nat.pow 2 quarter.natAbs else 1
  let (lower, upper, closed) := roundingInterval significand exponent
  let value := 4 * significand * up
  let power := decimalPower value down
  let attempt (count : Nat) : Option (Nat × Int) :=
    let step : Int := power - count
    let stepUp := if step < 0 then 1 else Nat.pow 10 step.natAbs
    let stepDown := if step < 0 then Nat.pow 10 step.natAbs else 1
    -- A candidate `digits` stands for `digits * stepUp / stepDown`.
    let below := value * stepDown / (down * stepUp)
    let fits (digits : Nat) : Bool :=
      let position := digits * stepUp * down
      let least := lower * up * stepDown
      let most := upper * up * stepDown
      if closed then decide (least ≤ position) && decide (position ≤ most)
      else decide (least < position) && decide (position < most)
    let distance (digits : Nat) : Nat :=
      let position := digits * stepUp * down
      let target := value * stepDown
      if position ≤ target then target - position else position - target
    match fits below, fits (below + 1) with
    | true, true =>
      if distance below < distance (below + 1) then some (below, step)
      else if distance (below + 1) < distance below then some (below + 1, step)
      else some (if below % 2 = 0 then below else below + 1, step)
    | true, false => some (below, step)
    | false, true => some (below + 1, step)
    | false, false => none
  ((List.range 17).findSome? attempt).getD (significand, 0)

/-- How the digits of a number are laid out. -/
structure Layout where
  /-- Positional notation is used while the point stands after this place … -/
  firstPoint : Int
  /-- … and not after this one. -/
  lastPoint : Int
  /-- The least number of digits of an exponent. -/
  exponentDigits : Nat
  infinity : String
  notANumber : String

/-- Values are written positionally from 0.0001 up to 10^16, with a point in every finite number,
and otherwise with a signed exponent of at least two digits. -/
def Layout.value : Layout := ⟨-3, 16, 2, "inf", "nan"⟩

/-- JSON has the same numbers under other names for the infinities and for no number. -/
def Layout.json : Layout := { Layout.value with infinity := "Infinity", notANumber := "NaN" }

/-- Digits without the zeros at the end, and the power of ten that keeps their value. -/
def trimZeros (digits : List Char) (power : Int) : List Char × Int :=
  let kept := (digits.reverse.dropWhile (· == '0')).reverse
  (kept, power + ((digits.length - kept.length : Nat) : Int))

/-- Digits laid out with their point after `point` places. -/
def Layout.place (layout : Layout) (digits : List Char) (point : Int) : String :=
  if decide (layout.firstPoint ≤ point) && decide (point ≤ layout.lastPoint) then
    if point ≤ 0 then
      "0." ++ String.ofList (List.replicate point.natAbs '0' ++ digits)
    else if digits.length ≤ point.natAbs then
      String.ofList (digits ++ List.replicate (point.natAbs - digits.length) '0') ++ ".0"
    else
      String.ofList (digits.take point.natAbs) ++ "." ++ String.ofList (digits.drop point.natAbs)
  else
    let exponent := point - 1
    let exponentText := Nat.toDigits 10 exponent.natAbs
    let padding := List.replicate (layout.exponentDigits - exponentText.length) '0'
    let mantissa := match digits with
      | [] => "0"
      | [digit] => String.singleton digit
      | digit :: rest => String.singleton digit ++ "." ++ String.ofList rest
    mantissa ++ "e" ++ (if exponent < 0 then "-" else "+") ++
      String.ofList (padding ++ exponentText)

/-- The text of a number in a layout. -/
def render (layout : Layout) : Binary64 → String
  | .nan => layout.notANumber
  | .infinite negative => (if negative then "-" else "") ++ layout.infinity
  | .finite negative significand exponent =>
    let magnitude :=
      if significand = 0 then "0.0"
      else
        let (digits, power) := shortestDigits significand exponent
        let (digits, power) := trimZeros (Nat.toDigits 10 digits) power
        layout.place digits (power + digits.length)
    (if negative then "-" else "") ++ magnitude

/-- The text of a number. -/
def text (number : Binary64) : String := number.render Layout.value

end Binary64

end GuestFlow
