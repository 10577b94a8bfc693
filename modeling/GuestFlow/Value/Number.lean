import GuestFlow.Number.Numeral
import GuestFlow.Value.Text

/-!
# The number of a value

Truth values, integers, fractional numbers and numerals have a number of 64 bits.  An
integer beyond the largest such number has none; everything else that is no numeral
does not have one either, and the two failures are told apart.
-/

set_option autoImplicit false

namespace GuestFlow.Value

/-- The text that a byte string spells, if all its bytes are plain characters. -/
def asciiText? (content : List UInt8) : Option String :=
  if content.all fun byte => byte.toNat < 0x80 then
    some (String.ofList (content.map fun byte => Char.ofNat byte.toNat))
  else none

/-- The number of 64 bits nearest to an integer. -/
def numberOfInt (number : Int) : Except Fault Binary64 :=
  if Binary64.overflows number then .error .integerTooLarge else .ok (Binary64.ofInt number)

def toNumber : Value → Except Fault Binary64
  | .bool flag => .ok (Binary64.ofInt (if flag then 1 else 0))
  | .int number => numberOfInt number
  | .float number => .ok number
  | .text characters =>
    match Numeral.readNumber? characters with
    | some number => .ok number
    | none => .error (.notANumber (Value.text characters).literal)
  | .bytes content =>
    match (asciiText? content).bind Numeral.readNumber? with
    | some number => .ok number
    | none => .error (.notANumber (Value.bytes content).literal)
  | value => .error (.notNumeric value.fullKind)

/-- The integer a number of 64 bits is cut to. -/
def integerPart (number : Binary64) : Except Fault Int :=
  match number with
  | .nan => .error .nanInteger
  | .infinite _ => .error .infiniteInteger
  | .finite .. => .ok (number.truncate?.getD 0)

end GuestFlow.Value
