import GuestFlow.Number.Numeral
import GuestFlow.Text.Base64
import GuestFlow.Text.Letter
import GuestFlow.Value.Number
import GuestFlow.Yaml.Cursor
import GuestFlow.Yaml.Tag

/-!
# The values of scalars

A scalar with a tag is read as that tag says.  Integers may be written in base two,
eight, ten, sixteen or, with colons, sixty; fractional numbers in base ten or sixty.
Underscores in numbers are there for the eye only.
-/

set_option autoImplicit false

namespace GuestFlow.Yaml.Scalar

def failed {α : Type} (fault : Fault) : Except Failure α := .error (.fault fault)

/-- A fault of the value as a failure of the text. -/
def lift {α : Type} : Except Fault α → Except Failure α
  | .ok result => .ok result
  | .error fault => failed fault

/-! ## Truth values -/

def readTruth (content : String) : Except Failure Value :=
  let word := Letter.small content
  if ["yes", "true", "on"].contains word then .ok (.bool true)
  else if ["no", "false", "off"].contains word then .ok (.bool false)
  else failed (.unknownTruthWord word)

/-! ## Integers -/

def withoutUnderscores (content : String) : List Char :=
  content.toList.filter (· != '_')

def parts (characters : List Char) : List String :=
  (Tag.colonParts characters).map String.ofList

/-- The number whose digits in base sixty are given, highest first. -/
def sexagesimal (digits : List Int) : Int :=
  digits.foldl (fun total digit => total * 60 + digit) 0

/-- The magnitude of an integer, in the base that its first characters tell. -/
def readMagnitude (characters : List Char) : Except Failure Int :=
  match characters with
  | [] => failed .emptyNumeral
  | ['0'] => .ok 0
  | '0' :: 'b' :: digits => lift (Numeral.readInteger 2 (String.ofList digits))
  | '0' :: 'x' :: digits => lift (Numeral.readInteger 16 (String.ofList digits))
  | '0' :: _ => lift (Numeral.readInteger 8 (String.ofList characters))
  | _ =>
    if characters.contains ':' then do
      let digits ← lift ((parts characters).mapM (Numeral.readInteger 10))
      .ok (sexagesimal digits)
    else lift (Numeral.readInteger 10 (String.ofList characters))

def readInteger (content : String) : Except Failure Value := do
  let characters := withoutUnderscores content
  if characters.isEmpty then failed .emptyNumeral
  else
    let (negative, unsigned) := Numeral.takeSign characters
    let magnitude ← readMagnitude unsigned
    .ok (.int (if negative then -magnitude else magnitude))

/-! ## Fractional numbers -/

/-- Adds up digits in base sixty, lowest first; `base` is the worth of the next one. -/
def addSixtieths (total : Binary64) (base : Int) : List Binary64 → Except Fault Binary64
  | [] => .ok total
  | digit :: rest => do
    let worth ← Value.numberOfInt base
    addSixtieths (total.add (digit.multiply worth)) (base * 60) rest

def readUnsigned (text : String) : Except Fault Binary64 :=
  if text = ".inf" then .ok (.infinite false)
  else if text = ".nan" then .ok .nan
  else if text.toList.contains ':' then do
    let digits ← (parts text.toList).mapM fun part => (Value.text part).toNumber
    addSixtieths (Binary64.ofInt 0) 1 digits.reverse
  else (Value.text text).toNumber

def readNumber (content : String) : Except Failure Value := do
  let characters := (Letter.small (String.ofList (withoutUnderscores content))).toList
  if characters.isEmpty then failed .emptyNumeral
  else
    let (negative, unsigned) := Numeral.takeSign characters
    let number ← lift (readUnsigned (String.ofList unsigned))
    .ok (.float (if negative then number.negate else number))

/-! ## Bytes -/

def readBytes (content : String) : Except Failure Value :=
  let characters := content.toList
  if characters.all fun character => character.toNat < 0x80 then
    match Base64.decode? characters with
    | some bytes => .ok (.bytes bytes)
    | none => .error .malformed
  else .error .malformed

/-! ## Dates -/

/-- The number of a run of digits. -/
def number (digits : List Char) : Nat := Numeral.digitsValue digits

/-- Takes a run of digits whose length lies between two bounds. -/
def takeNumber (least most : Nat) (characters : List Char) : Option (Nat × List Char) :=
  (Tag.skipDigits least most characters).map fun rest =>
    (number (characters.take (characters.length - rest.length)), rest)

/-- The millionths of a second that the first six digits of a fraction stand for. -/
def millionths (fraction : List Char) : Nat :=
  let digits := fraction.take 6
  number (digits ++ List.replicate (6 - digits.length) '0')

/-- The minutes ahead of universal time; nothing where nothing is said. -/
def readZone (characters : List Char) : Option (Option Int) :=
  match characters.dropWhile Tag.isSpaceOrTab with
  | [] => if characters.isEmpty then some none else none
  | 'Z' :: rest => if rest.isEmpty then some (some 0) else none
  | sign :: rest => do
    guard (sign == '+' || sign == '-')
    let (hours, rest) ← takeNumber 1 2 rest
    let minutes ← match rest with
      | [] => some 0
      | ':' :: rest => do
        let (minutes, rest) ← takeNumber 2 2 rest
        guard rest.isEmpty
        some minutes
      | _ => none
    let total : Int := (hours * 60 + minutes : Nat)
    some (some (if sign = '-' then -total else total))

/-- The parts of a time of day. -/
structure Clock where
  hour : Nat
  minute : Nat
  second : Nat
  microsecond : Nat
  offset : Option Int

def readClock (characters : List Char) : Option Clock := do
  let (hour, rest) ← takeNumber 1 2 characters
  let rest ← Tag.skipMark ':' rest
  let (minute, rest) ← takeNumber 2 2 rest
  let rest ← Tag.skipMark ':' rest
  let (second, rest) ← takeNumber 2 2 rest
  let (fraction, rest) := match rest with
    | '.' :: rest => (rest.takeWhile Char.isDigit, rest.dropWhile Char.isDigit)
    | _ => ([], rest)
  let offset ← readZone rest
  some ⟨hour, minute, second, millionths fraction, offset⟩

/-- A date, and what stands behind it. -/
def readDate (characters : List Char) : Option ((Nat × Nat × Nat) × List Char) := do
  let (year, rest) ← takeNumber 4 4 characters
  let rest ← Tag.skipMark '-' rest
  let (month, rest) ← takeNumber 1 2 rest
  let rest ← Tag.skipMark '-' rest
  let (day, rest) ← takeNumber 1 2 rest
  some ((year, month, day), rest)

def fitting {α : Type} : Except Calendar.Misfit α → Except Failure α
  | .ok result => .ok result
  | .error part => failed (.calendar part)

/-- A date, or a moment if a time of day follows. -/
def readTimestamp (content : String) : Except Failure Value :=
  match readDate (Tag.withoutLineEnd content.toList) with
  | none => failed .notATimestamp
  | some ((year, month, day), []) => do
    let date ← fitting (Calendar.Date.make? year month day)
    .ok (.date date)
  | some ((year, month, day), rest) =>
    match (Tag.skipSeparator rest).bind readClock with
    | none => failed .notATimestamp
    | some clock => do
      let moment ← fitting (Calendar.Moment.make? year month day clock.hour clock.minute
        clock.second clock.microsecond clock.offset)
      .ok (.moment moment)

/-! ## All scalars -/

/-- The value of a scalar.  Collections are no scalars, and unknown tags have no values. -/
def read (tag : Tag) (content : String) : Except Failure Value :=
  match tag with
  | .null => .ok .null
  | .bool => readTruth content
  | .int => readInteger content
  | .float => readNumber content
  | .binary => readBytes content
  | .timestamp => readTimestamp content
  | .str => .ok (.text content)
  | _ => .error .malformed

end GuestFlow.Yaml.Scalar
