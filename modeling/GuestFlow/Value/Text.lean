import GuestFlow.Fault
import GuestFlow.Number.Shortest
import GuestFlow.Value.Basic

/-!
# The text of a value

Messages and answers show values as text.  A scalar text stands for itself at the top
and in quotes inside other values; records, sequences and sets are written with their
brackets.  Only one thing has no text: an integer with more than 4300 digits.

`Value.literal` and `Value.rendering` write, `Value.isWritable` says whether the limit
is kept, and `Value.text` puts them together.
-/

set_option autoImplicit false

namespace GuestFlow.Value

/-- Integers with more digits than this have no decimal text. -/
def digitLimit : Nat := 4300

/-- Whether the decimal text of an integer stays within the limit. -/
def fitsLimit (number : Int) : Bool :=
  -- A short binary form settles almost every case without the large power.
  number.natAbs.log2 < 14000 || decide (number.natAbs < Nat.pow 10 digitLimit)

mutual

/-- Whether every integer inside a value has a text. -/
def isWritable : Value → Bool
  | .int number => fitsLimit number
  | .list items => areWritable items
  | .tuple items => areWritable items
  | .set items => areWritable items
  | .record entries => areWritableEntries entries
  | _ => true

def areWritable : List Value → Bool
  | [] => true
  | item :: rest => isWritable item && areWritable rest

def areWritableEntries : List (Value × Value) → Bool
  | [] => true
  | (key, value) :: rest => isWritable key && isWritable value && areWritableEntries rest

end

/-- The text of a truth value. -/
def flagText (flag : Bool) : String := if flag then "True" else "False"

mutual

/-- A value as it is shown inside other values. -/
def literal : Value → String
  | .null => "None"
  | .bool flag => flagText flag
  | .int number => toString number
  | .float number => number.text
  | .text characters => Quoted.quote characters
  | .bytes content => Quoted.quoteBytes content
  | .date day => day.literal
  | .moment instant => instant.literal
  | .list items => "[" ++ commaSeparated (literals items) ++ "]"
  | .tuple [] => "()"
  | .tuple [item] => "(" ++ literal item ++ ",)"
  | .tuple items => "(" ++ commaSeparated (literals items) ++ ")"
  | .set [] => "set()"
  | .set items => "\x7b" ++ commaSeparated (literals items) ++ "\x7d"
  | .record entries => "\x7b" ++ commaSeparated (entryLiterals entries) ++ "\x7d"

def literals : List Value → List String
  | [] => []
  | item :: rest => literal item :: literals rest

def entryLiterals : List (Value × Value) → List String
  | [] => []
  | (key, value) :: rest => (literal key ++ ": " ++ literal value) :: entryLiterals rest

end

/-- A value as it is shown on its own. -/
def rendering : Value → String
  | .text characters => characters
  | .date day => day.text
  | .moment instant => instant.text
  | value => value.literal

/-- The text of a value, unless an integer in it is too long. -/
def text? (value : Value) : Except Fault String :=
  if value.isWritable then .ok value.rendering else .error (.tooManyDigits none)

/-- The quoted text of a value, unless an integer in it is too long. -/
def literal? (value : Value) : Except Fault String :=
  if value.isWritable then .ok value.literal else .error (.tooManyDigits none)

end GuestFlow.Value
