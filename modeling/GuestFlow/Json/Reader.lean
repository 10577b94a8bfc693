import GuestFlow.Number.Numeral
import GuestFlow.Value.Record

/-!
# Reading JSON

A JSON text is read from left to right into a value.  Objects become records; of
members with one name the last counts, at the place of the first.  Numbers with a point
or an exponent are numbers of 64 bits and all others are integers of any size.  The
names `NaN`, `Infinity` and `-Infinity` are numbers as well.

A text that is not JSON is refused with what was expected and with the place, by line,
column and count of characters, where it was expected.  The reader works on the
characters that are left, so a place is kept as the number of characters left there.
-/

set_option autoImplicit false

namespace GuestFlow.Json

/-- What a JSON text can be refused for. -/
inductive Complaint where
  | byteOrderMark
  | value
  | memberName
  | colon
  | comma
  | extraData
  | unterminated
  | control
  | escape
  | unicodeEscape
  deriving DecidableEq, Repr

def Complaint.text : Complaint → String
  | .byteOrderMark => "Unexpected UTF-8 BOM (decode using utf-8-sig)"
  | .value => "Expecting value"
  | .memberName => "Expecting property name enclosed in double quotes"
  | .colon => "Expecting ':' delimiter"
  | .comma => "Expecting ',' delimiter"
  | .extraData => "Extra data"
  | .unterminated => "Unterminated string starting at"
  | .control => "Invalid control character at"
  | .escape => "Invalid \\escape"
  | .unicodeEscape => "Invalid \\uXXXX escape"

/-- Why reading failed: a complaint with the number of characters left at its place, or a number
with too many digits. -/
inductive Failure where
  | malformed (complaint : Complaint) (left : Nat)
  | number (fault : Fault)
  deriving DecidableEq

/-- A complaint about the place where these characters are left. -/
def complain {α : Type} (complaint : Complaint) (left : List Char) : Except Failure α :=
  .error (.malformed complaint left.length)

def isSpace (character : Char) : Bool :=
  character == ' ' || character == '\t' || character == '\n' || character == '\r'

def skipSpace (characters : List Char) : List Char := characters.dropWhile isSpace

/-! ## Strings -/

/-- The character that a simple escape stands for. -/
def simpleEscape? (character : Char) : Option Char :=
  match character with
  | '"' => some '"'
  | '\\' => some '\\'
  | '/' => some '/'
  | 'b' => some '\x08'
  | 'f' => some '\x0c'
  | 'n' => some '\n'
  | 'r' => some '\r'
  | 't' => some '\t'
  | _ => none

/-- The number written by four hexadecimal digits. -/
def fourDigits? (first second third fourth : Char) : Option Nat := do
  let digits ← [first, second, third, fourth].mapM (Numeral.digit? 16)
  some (Numeral.value 16 digits)

def isHighHalf (unit : Nat) : Bool := 0xd800 ≤ unit && unit < 0xdc00

def isLowHalf (unit : Nat) : Bool := 0xdc00 ≤ unit && unit < 0xe000

/-- The character made of two halves. -/
def joinHalves (high low : Nat) : Char :=
  Char.ofNat (0x10000 + (high - 0xd800) * 0x400 + (low - 0xdc00))

/-- A half without its partner has no character of its own. -/
def loneHalf : Char := Char.ofNat 0xfffd

/-- Characters in front of which a waiting high half, if any, is given up. -/
def giveUpHalf (waiting : Option Nat) (characters : List Char) : List Char :=
  if waiting.isSome then loneHalf :: characters else characters

/-- Puts characters in front of what is read next. -/
def prepend (characters : List Char) (reading : Except Failure (List Char × List Char)) :
    Except Failure (List Char × List Char) :=
  reading.map fun (later, left) => (characters ++ later, left)

/-- The rest of a string whose opening quote stands at the front of `start`.  `waiting` is a high
half whose low half may follow. -/
def readString (start : List Char) (waiting : Option Nat) :
    List Char → Except Failure (List Char × List Char)
  | [] => complain .unterminated start
  | '"' :: rest => .ok (giveUpHalf waiting [], rest)
  | '\\' :: [] => complain .unterminated start
  | '\\' :: 'u' :: first :: second :: third :: fourth :: next :: rest =>
    match fourDigits? first second third fourth with
    | none => complain .unicodeEscape ('u' :: first :: second :: third :: fourth :: next :: rest)
    | some unit =>
      match waiting with
      | some high =>
        if isLowHalf unit then
          prepend [joinHalves high unit] (readString start none (next :: rest))
        else if isHighHalf unit then
          prepend [loneHalf] (readString start (some unit) (next :: rest))
        else prepend [loneHalf, Char.ofNat unit] (readString start none (next :: rest))
      | none =>
        if isHighHalf unit then readString start (some unit) (next :: rest)
        else if isLowHalf unit then prepend [loneHalf] (readString start none (next :: rest))
        else prepend [Char.ofNat unit] (readString start none (next :: rest))
  | '\\' :: 'u' :: rest => complain .unicodeEscape ('u' :: rest)
  | '\\' :: character :: rest =>
    match simpleEscape? character with
    | some meant => prepend (giveUpHalf waiting [meant]) (readString start none rest)
    | none => complain .escape ('\\' :: character :: rest)
  | character :: rest =>
    if character.toNat ≤ 0x1f then complain .control (character :: rest)
    else prepend (giveUpHalf waiting [character]) (readString start none rest)

/-! ## Numbers -/

/-- The integer part of a number, a zero or digits that do not begin with zero. -/
def spanWhole : List Char → List Char × List Char
  | '0' :: rest => (['0'], rest)
  | characters => Numeral.spanDigits characters

/-- A point with at least one digit after it. -/
def spanFraction : List Char → List Char × List Char
  | '.' :: rest =>
    let (digits, left) := Numeral.spanDigits rest
    if digits.isEmpty then ([], '.' :: rest) else ('.' :: digits, left)
  | characters => ([], characters)

/-- The mark of an exponent, perhaps a sign, and at least one digit. -/
def spanExponent : List Char → List Char × List Char
  | [] => ([], [])
  | mark :: rest =>
    if mark = 'e' || mark = 'E' then
      let (sign, unsigned) := match rest with
        | '+' :: later => (['+'], later)
        | '-' :: later => (['-'], later)
        | later => ([], later)
      let (digits, left) := Numeral.spanDigits unsigned
      if digits.isEmpty then ([], mark :: rest) else (mark :: (sign ++ digits), left)
    else ([], mark :: rest)

/-- A number at the front of the characters. -/
def readNumber (characters : List Char) : Except Failure (Value × List Char) :=
  let (sign, unsigned) := match characters with
    | '-' :: rest => (['-'], rest)
    | other => ([], other)
  let (whole, afterWhole) := spanWhole unsigned
  if whole.isEmpty then complain .value characters
  else
    let (fraction, afterFraction) := spanFraction afterWhole
    let (exponent, left) := spanExponent afterFraction
    let numeral := String.ofList (sign ++ whole ++ fraction ++ exponent)
    if fraction.isEmpty && exponent.isEmpty then
      match Numeral.readInteger 10 numeral with
      | .ok number => .ok (.int number, left)
      | .error fault => .error (.number fault)
    else .ok (.float ((Numeral.readNumber? numeral).getD .nan), left)

/-! ## Values -/

/-- The words that stand for a value. -/
def words : List (String × Value) := [
  ("null", .null), ("true", .bool true), ("false", .bool false), ("NaN", .float .nan),
  ("Infinity", .float (.infinite false)), ("-Infinity", .float (.infinite true))]

/-- The value of a word at the front of the characters. -/
def readWord? (characters : List Char) : Option (Value × List Char) :=
  words.findSome? fun (word, value) =>
    if word.toList.isPrefixOf characters then some (value, characters.drop word.length) else none

mutual

/-- A value at the front of the characters; `fuel` bounds the number of nested calls. -/
def readValue : Nat → List Char → Except Failure (Value × List Char)
  | 0, characters => complain .value characters
  | fuel + 1, characters =>
    match characters with
    | '"' :: rest => do
      let (content, left) ← readString characters none rest
      .ok (.text (String.ofList content), left)
    | '[' :: rest =>
      match skipSpace rest with
      | ']' :: left => .ok (.list [], left)
      | items => do
        let (values, left) ← readItems fuel items
        .ok (.list values, left)
    | '\x7b' :: rest =>
      match skipSpace rest with
      | '\x7d' :: left => .ok (.record [], left)
      | members => do
        let (entries, left) ← readMembers fuel members
        .ok (.record (Record.ofEntries entries), left)
    | _ =>
      match readWord? characters with
      | some reading => .ok reading
      | none => readNumber characters

/-- The items of an array, up to and with its closing bracket. -/
def readItems : Nat → List Char → Except Failure (List Value × List Char)
  | 0, characters => complain .value characters
  | fuel + 1, characters => do
    let (value, afterValue) ← readValue fuel characters
    match skipSpace afterValue with
    | ']' :: left => .ok ([value], left)
    | ',' :: rest => do
      let (values, left) ← readItems fuel (skipSpace rest)
      .ok (value :: values, left)
    | other => complain .comma other

/-- The members of an object, up to and with its closing brace. -/
def readMembers : Nat → List Char → Except Failure (List (Value × Value) × List Char)
  | 0, characters => complain .memberName characters
  | fuel + 1, characters =>
    match characters with
    | '"' :: rest => do
      let (name, afterName) ← readString characters none rest
      match skipSpace afterName with
      | ':' :: afterColon => do
        let (value, afterValue) ← readValue fuel (skipSpace afterColon)
        let entry := (Value.text (String.ofList name), value)
        match skipSpace afterValue with
        | '\x7d' :: left => .ok ([entry], left)
        | ',' :: later => do
          let (entries, left) ← readMembers fuel (skipSpace later)
          .ok (entry :: entries, left)
        | other => complain .comma other
      | other => complain .colon other
    | other => complain .memberName other

end

/-- The value of a whole text. -/
def readCharacters (characters : List Char) : Except Failure Value := do
  let (value, left) ← readValue (2 * characters.length + 2) (skipSpace characters)
  match skipSpace left with
  | [] => .ok value
  | extra => complain .extraData extra

/-- Line, column and count of characters at a place. -/
def placeText (characters : List Char) (left : Nat) : String :=
  let before := characters.take (characters.length - left)
  let line := before.count '\n' + 1
  let column := (before.reverse.takeWhile (· != '\n')).length + 1
  "line " ++ toString line ++ " column " ++ toString column ++ " (char " ++
    toString before.length ++ ")"

/-- The message of a complaint, for the text it is about. -/
def complaintMessage (characters : List Char) (complaint : Complaint) (left : Nat) : String :=
  complaint.text ++ ": " ++ placeText characters left

/-- Reads a JSON text. -/
def read (text : String) : Except Failure Value :=
  match text.toList with
  | '\ufeff' :: rest => complain .byteOrderMark ('\ufeff' :: rest)
  | characters => readCharacters characters

end GuestFlow.Json
