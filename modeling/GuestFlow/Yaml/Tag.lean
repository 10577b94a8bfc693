/-!
# Tags

The tag of a node says what kind of value it stands for.  A tag can be given; a plain
scalar without one gets it from the form of its text, so that `12` is an integer, `1.5`
a number, `yes` a truth value and everything of no special form a text.

`Tag.ofPlain` looks at the form, `Tag.ofName` at a given tag.
-/

set_option autoImplicit false

namespace GuestFlow.Yaml

inductive Tag where
  | null
  | bool
  | int
  | float
  | binary
  | timestamp
  | omap
  | pairs
  | set
  | str
  | seq
  | map
  | merge
  | value
  /-- A tag that no kind of value belongs to. -/
  | unknown
  deriving DecidableEq, Repr

namespace Tag

/-- What the names of the common tags begin with. -/
def commonSpace : String := "tag:yaml.org,2002:"

def commonNames : List (String × Tag) := [
  ("null", .null), ("bool", .bool), ("int", .int), ("float", .float), ("binary", .binary),
  ("timestamp", .timestamp), ("omap", .omap), ("pairs", .pairs), ("set", .set), ("str", .str),
  ("seq", .seq), ("map", .map), ("merge", .merge), ("value", .value)]

/-- The tag with a full name. -/
def ofName (name : String) : Tag :=
  match commonNames.find? fun (short, _) => commonSpace ++ short == name with
  | some (_, tag) => tag
  | none => .unknown

/-! ## Forms of plain scalars -/

def isOctal (character : Char) : Bool := '0' ≤ character && character ≤ '7'

def isHexadecimal (character : Char) : Bool :=
  character.isDigit || ('a' ≤ character && character ≤ 'f') || ('A' ≤ character && character ≤ 'F')

/-- Whether a character is of a class or an underscore. -/
def orUnderscore (test : Char → Bool) (character : Char) : Bool :=
  test character || character == '_'

/-- A digit, then digits and underscores. -/
def isDigits : List Char → Bool
  | first :: rest => first.isDigit && rest.all (orUnderscore Char.isDigit)
  | [] => false

def withoutSign : List Char → List Char
  | '+' :: rest => rest
  | '-' :: rest => rest
  | characters => characters

/-- One digit, or two up to 59. -/
def isSixtieth : List Char → Bool
  | [one] => one.isDigit
  | [tens, one] => '0' ≤ tens && tens ≤ '5' && one.isDigit
  | _ => false

/-- The parts of a text between colons. -/
def colonParts : List Char → List (List Char)
  | [] => [[]]
  | ':' :: rest => [] :: colonParts rest
  | character :: rest =>
    match colonParts rest with
    | first :: others => (character :: first) :: others
    | [] => [[character]]

/-- Digits, then at least one part in base sixty behind a colon. -/
def isSexagesimal (characters : List Char) : Bool :=
  match colonParts characters with
  | first :: second :: rest => isDigits first && (second :: rest).all isSixtieth
  | _ => false

def isInteger (characters : List Char) : Bool :=
  match withoutSign characters with
  | ['0'] => true
  | '0' :: 'b' :: digits =>
    !digits.isEmpty && digits.all (orUnderscore fun digit => digit == '0' || digit == '1')
  | '0' :: 'x' :: digits => !digits.isEmpty && digits.all (orUnderscore isHexadecimal)
  | '0' :: digits => digits.all (orUnderscore isOctal)
  | unsigned => isDigits unsigned || isSexagesimal unsigned

/-- Nothing, or an exponent with its sign. -/
def isExponent : List Char → Bool
  | [] => true
  | mark :: sign :: digits =>
    (mark == 'e' || mark == 'E') && (sign == '+' || sign == '-') && !digits.isEmpty &&
      digits.all Char.isDigit
  | _ => false

/-- The part of a number behind its point. -/
def isFraction (characters : List Char) : Bool :=
  isExponent (characters.dropWhile (orUnderscore Char.isDigit))

def isNumber (characters : List Char) : Bool :=
  let unsigned := withoutSign characters
  let whole := unsigned.takeWhile fun character => character != '.'
  match unsigned.dropWhile fun character => character != '.' with
  | '.' :: rest =>
    if whole.isEmpty then
      let word := String.ofList rest
      (word == "inf" || word == "Inf" || word == "INF") ||
        (unsigned == characters &&
          ((word == "nan" || word == "NaN" || word == "NAN") ||
            (rest.head?.any Char.isDigit && isFraction rest)))
    else
      (isDigits whole && isFraction rest) ||
        (isSexagesimal whole && rest.all (orUnderscore Char.isDigit))
  | _ => false

/-- The words for truth values; each may also begin with a capital or consist of capitals. -/
def truthWords : List String := ["yes", "no", "true", "false", "on", "off"]

/-- The ways to write a word with capitals. -/
def spellings (word : String) : List String := [word, word.capitalize, word.toUpper]

def isTruthWord (text : String) : Bool := (truthWords.flatMap spellings).contains text

def isNullWord (text : String) : Bool := ("~" :: spellings "null").contains text

/-! ## Forms of dates -/

/-- Steps over a run of digits whose length lies between two bounds. -/
def skipDigits (least most : Nat) (characters : List Char) : Option (List Char) :=
  let length := min most (characters.takeWhile Char.isDigit).length
  if least ≤ length then some (characters.drop length) else none

def skipMark (mark : Char) : List Char → Option (List Char)
  | character :: rest => if character = mark then some rest else none
  | [] => none

/-- Year, month and day. -/
def skipDate (leastDigits : Nat) (characters : List Char) : Option (List Char) := do
  let rest ← skipDigits 4 4 characters
  let rest ← skipMark '-' rest
  let rest ← skipDigits leastDigits 2 rest
  let rest ← skipMark '-' rest
  skipDigits leastDigits 2 rest

def isSpaceOrTab (character : Char) : Bool := character == ' ' || character == '\t'

/-- What separates date and time: a letter, or blanks. -/
def skipSeparator : List Char → Option (List Char)
  | [] => none
  | character :: rest =>
    if character = 'T' || character = 't' then some rest
    else if isSpaceOrTab character then some (rest.dropWhile isSpaceOrTab)
    else none

/-- Hour, minute and second, with a fraction. -/
def skipTime (characters : List Char) : Option (List Char) := do
  let rest ← skipDigits 1 2 characters
  let rest ← skipMark ':' rest
  let rest ← skipDigits 2 2 rest
  let rest ← skipMark ':' rest
  let rest ← skipDigits 2 2 rest
  some (match rest with
    | '.' :: fraction => fraction.dropWhile Char.isDigit
    | _ => rest)

/-- Whether the rest is the distance from universal time, if anything. -/
def isZone (characters : List Char) : Bool :=
  match characters.dropWhile isSpaceOrTab with
  | [] => characters.isEmpty
  | 'Z' :: rest => rest.isEmpty
  | sign :: rest =>
    (sign == '+' || sign == '-') &&
      match skipDigits 1 2 rest with
      | some [] => true
      | some (':' :: minutes) => skipDigits 2 2 minutes == some []
      | _ => false

def isMoment (characters : List Char) : Bool :=
  match (skipDate 1 characters).bind skipSeparator |>.bind skipTime with
  | some rest => isZone rest
  | none => false

/-- A date needs all its digits when no time follows. -/
def isTimestamp (characters : List Char) : Bool :=
  skipDate 2 characters == some [] || isMoment characters

/-! ## The tag of a form -/

/-- The end of a line behind a scalar does not count for its form. -/
def withoutLineEnd (characters : List Char) : List Char :=
  if characters.getLast? = some '\n' then characters.dropLast else characters

/-- The tag of a plain scalar. -/
def ofPlain (content : String) : Tag :=
  let characters := withoutLineEnd content.toList
  let text := String.ofList characters
  if isTruthWord text then .bool
  else if isNumber characters then .float
  else if isInteger characters then .int
  else if text = "<<" then .merge
  else if content = "" || isNullWord text then .null
  else if isTimestamp characters then .timestamp
  else if text = "=" then .value
  else .str

end Tag

end GuestFlow.Yaml
