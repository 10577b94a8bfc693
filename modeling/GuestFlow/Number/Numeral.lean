import GuestFlow.Fault
import GuestFlow.Number.Binary64
import GuestFlow.Text.Blank
import GuestFlow.Text.Digit

/-!
# Reading numerals

Numbers arrive as text from forms, files and settings.  An integer is an optional sign
and digits; a fractional number may also have a point, an exponent, or be one of the
words for infinity and for no number.  Digits of every script are accepted, single
underscores may stand between digits, and blanks around the numeral do not count.

`readInteger` and `readNumber` give the number or say what was wrong with the text.
-/

set_option autoImplicit false

namespace GuestFlow.Numeral

/-- The most digits a decimal numeral may have. -/
def digitLimit : Nat := 4300

/-- The controls and the plain blank that may surround a numeral. -/
def isPlainBlank (character : Char) : Bool :=
  character == ' ' || (0x9 ≤ character.toNat && character.toNat ≤ 0xd)

/-- Digits of other scripts as plain digits, and blanks of other scripts as plain blanks. -/
def simplify (character : Char) : Char :=
  if character.toNat < 0x7f then character
  else if Blank.isBlank character then ' '
  else match Digit.digitValue? character with
    | some value => Char.ofNat (0x30 + value)
    | none => character

/-- The characters of a numeral in plain form, without surrounding blanks. -/
def plain (text : String) : List Char :=
  let characters := text.toList.map simplify
  ((characters.dropWhile isPlainBlank).reverse.dropWhile isPlainBlank).reverse

/-- The value of a digit in a base of at most 36. -/
def digit? (base : Nat) (character : Char) : Option Nat :=
  let point := character.toNat
  let value :=
    if 0x30 ≤ point && point ≤ 0x39 then point - 0x30
    else if 0x61 ≤ point && point ≤ 0x7a then point - 0x61 + 10
    else if 0x41 ≤ point && point ≤ 0x5a then point - 0x41 + 10
    else base
  if value < base then some value else none

/-- The value written by digits, highest first. -/
def value (base : Nat) (digits : List Nat) : Nat :=
  digits.foldl (fun total digit => total * base + digit) 0

/-- Digits with single underscores between them: the digits, whether an underscore was left
over, and what follows. -/
def takeDigits (base : Nat) : List Char → List Nat × Bool × List Char
  | [] => ([], false, [])
  | '_' :: rest =>
    match rest with
    | [] => ([], true, [])
    | next :: _ =>
      if (digit? base next).isSome then takeDigits base rest else ([], true, rest)
  | character :: rest =>
    match digit? base character with
    | none => ([], false, character :: rest)
    | some digit =>
      let (digits, dangling, remaining) := takeDigits base rest
      (digit :: digits, dangling, remaining)

/-- A numeral split into its sign and the rest. -/
def takeSign : List Char → Bool × List Char
  | '-' :: rest => (true, rest)
  | '+' :: rest => (false, rest)
  | characters => (false, characters)

/-- The mark in front of numerals of base 2, 8 and 16, such as `0x`, may be given. -/
def skipBaseMark (base : Nat) : List Char → List Char
  | '0' :: mark :: rest =>
    let fits := (base == 16 && (mark == 'x' || mark == 'X')) ||
      (base == 8 && (mark == 'o' || mark == 'O')) || (base == 2 && (mark == 'b' || mark == 'B'))
    if fits then (match rest with | '_' :: digits => digits | digits => digits)
    else '0' :: mark :: rest
  | characters => characters

/-- Read an integer in a base.  The number of digits is limited where the base is no power of
two, and that limit is noticed before anything that follows the digits. -/
def readInteger (base : Nat) (text : String) : Except Fault Int :=
  let failure : Except Fault Int := .error (.notAnInteger text base)
  let (negative, unsigned) := takeSign (plain text)
  let characters := skipBaseMark base unsigned
  if characters.head? = some '_' then failure
  else
    let (digits, dangling, rest) := takeDigits base characters
    if digits.isEmpty || dangling then failure
    else if base = 10 && digitLimit < digits.length then
      .error (.tooManyDigits (some digits.length))
    else if rest.isEmpty then
      let magnitude : Int := value base digits
      .ok (if negative then -magnitude else magnitude)
    else failure

/-! ## Fractional numbers -/

/-- Underscores may stand only between two digits; they are dropped. -/
def dropUnderscores (previous : Option Char) : List Char → Option (List Char)
  | [] => if previous = some '_' then none else some []
  | '_' :: rest =>
    match previous with
    | some character =>
      if character.isDigit then dropUnderscores (some '_') rest else none
    | none => none
  | character :: rest =>
    if previous = some '_' && !character.isDigit then none
    else (dropUnderscores (some character) rest).map (character :: ·)

/-- Leading decimal digits and what follows. -/
def spanDigits (characters : List Char) : List Char × List Char :=
  (characters.takeWhile Char.isDigit, characters.dropWhile Char.isDigit)

def digitsValue (digits : List Char) : Nat :=
  value 10 (digits.map fun digit => digit.toNat - 0x30)

/-- The words for numbers that have no digits. -/
def special? (negative : Bool) (characters : List Char) : Option Binary64 :=
  let word := String.ofList (characters.map Char.toLower)
  if word = "inf" || word = "infinity" then some (.infinite negative)
  else if word = "nan" then some .nan
  else none

/-- The power of ten after a mantissa: nothing, or `e`, a sign and digits up to the end. -/
def readExponent? : List Char → Option Int
  | [] => some 0
  | mark :: rest =>
    if mark = 'e' || mark = 'E' then
      let (negative, unsigned) := takeSign rest
      let (digits, remaining) := spanDigits unsigned
      if digits.isEmpty || !remaining.isEmpty then none
      else
        let magnitude : Int := digitsValue digits
        some (if negative then -magnitude else magnitude)
    else none

/-- A mantissa with an optional exponent, read exactly and rounded once. -/
def readDecimal? (negative : Bool) (characters : List Char) : Option Binary64 :=
  let (whole, afterWhole) := spanDigits characters
  let (fraction, afterFraction) := match afterWhole with
    | '.' :: rest => spanDigits rest
    | rest => ([], rest)
  if whole.isEmpty && fraction.isEmpty then none
  else (readExponent? afterFraction).map fun exponent =>
    Binary64.ofDecimal negative (digitsValue (whole ++ fraction))
      (exponent - (fraction.length : Nat))

/-- Read a number of 64 bits. -/
def readNumber? (text : String) : Option Binary64 :=
  (dropUnderscores none (plain text)).bind fun characters =>
    let (negative, unsigned) := takeSign characters
    (special? negative unsigned).orElse fun _ => readDecimal? negative unsigned

end GuestFlow.Numeral
