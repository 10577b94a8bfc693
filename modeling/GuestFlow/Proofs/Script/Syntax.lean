import Mathlib
import GuestFlow.Json.Reader
import GuestFlow.Yaml.Layout

/-!
# What JSON and YAML share

A script is a value as it is written where JSON and YAML agree: the tree of what is said,
with every blank, every end of a line, every escape and every digit as it stands there.  A
script has characters (`Script.characters`) and a value (`Script.value`).

Nearly every JSON text is one.  The difference is in what YAML takes otherwise:
blanks between tokens are no tabs; a colon follows its key on the same line, and not too far
from where the key began; characters in strings are printable and end no line; escapes do not
write halves of characters; and a number with an exponent has a point, and a sign in front of
its exponent.
-/

set_option autoImplicit false

namespace GuestFlow

namespace Script

/-! ## Between tokens -/

/-- What may stand between tokens. -/
inductive Blank where
  | space
  | lineFeed
  | carriageReturn
  deriving DecidableEq

def Blank.character : Blank → Char
  | .space => ' '
  | .lineFeed => '\n'
  | .carriageReturn => '\r'

/-- Blanks and ends of lines. -/
abbrev Gap := List Blank

def Gap.characters (gap : Gap) : List Char := gap.map Blank.character

/-! ## Strings -/

/-- The escapes of a single character. -/
inductive Escape where
  | quote
  | backslash
  | slash
  | backspace
  | formFeed
  | lineFeed
  | carriageReturn
  | tab
  deriving DecidableEq

/-- The character behind the backslash. -/
def Escape.mark : Escape → Char
  | .quote => '"'
  | .backslash => '\\'
  | .slash => '/'
  | .backspace => 'b'
  | .formFeed => 'f'
  | .lineFeed => 'n'
  | .carriageReturn => 'r'
  | .tab => 't'

def Escape.meaning : Escape → Char
  | .quote => '"'
  | .backslash => '\\'
  | .slash => '/'
  | .backspace => '\x08'
  | .formFeed => '\x0c'
  | .lineFeed => '\n'
  | .carriageReturn => '\r'
  | .tab => '\t'

/-- Four digits that write the number of a character, and not of a half of one. -/
structure Code where
  first : Char
  second : Char
  third : Char
  fourth : Char
  number : Nat
  written : Json.fourDigits? first second third fourth = some number
  isWhole : Json.isHighHalf number = false ∧ Json.isLowHalf number = false

def Code.digits (code : Code) : List Char := [code.first, code.second, code.third, code.fourth]

/-- Characters that stand for themselves in a string. -/
def isPlain (character : Char) : Bool :=
  Yaml.isAllowed character &&
    !(character == '"' || character == '\\' || character == '\t' || Yaml.isBreak character)

/-- A character of a string as it is written. -/
inductive Glyph where
  | plain (character : Char) (plain : isPlain character = true)
  | escaped (escape : Escape)
  | numbered (code : Code)

namespace Glyph

def characters : Glyph → List Char
  | plain character _ => [character]
  | escaped escape => ['\\', escape.mark]
  | numbered code => '\\' :: 'u' :: code.digits

/-- The character that is meant. -/
def meaning : Glyph → Char
  | plain character _ => character
  | escaped escape => escape.meaning
  | numbered code => Char.ofNat code.number

/-- A string as it is written between its quotes. -/
def text (glyphs : List Glyph) : List Char := glyphs.flatMap characters

def content (glyphs : List Glyph) : String := String.ofList (glyphs.map meaning)

/-- A string as it is written. -/
def quoted (glyphs : List Glyph) : List Char := '"' :: (text glyphs ++ ['"'])

end Glyph

/-- The name of a member, with the blanks in front of its colon. -/
structure Name where
  glyphs : List Glyph
  spaces : Nat
  isShort : (Glyph.quoted glyphs).length + spaces ≤ Yaml.keyLimit

def Name.characters (name : Name) : List Char :=
  Glyph.quoted name.glyphs ++ List.replicate name.spaces ' '

/-! ## Numbers -/

/-- Digits, at least one. -/
structure Digits where
  characters : List Char
  areDigits : ∀ digit ∈ characters, digit.isDigit = true
  nonempty : characters ≠ []

/-- The digits in front of a point; only a single one may be a zero at the front. -/
structure Whole extends Digits where
  noLeadingZero : characters = ['0'] ∨ characters.head? ≠ some '0'

/-- An exponent with its sign. -/
structure Exponent where
  isCapital : Bool
  isNegative : Bool
  digits : Digits

namespace Exponent

def characters (exponent : Exponent) : List Char :=
  (if exponent.isCapital then 'E' else 'e') :: (if exponent.isNegative then '-' else '+') ::
    exponent.digits.characters

def value (exponent : Exponent) : Int :=
  let magnitude : Int := Numeral.digitsValue exponent.digits.characters
  if exponent.isNegative then -magnitude else magnitude

end Exponent

/-- What a number has from its point on. -/
structure Fraction where
  digits : Digits
  exponent : Option Exponent

namespace Fraction

/-- The characters of the exponent, if there is one. -/
def ending (fraction : Fraction) : List Char :=
  match fraction.exponent with
  | none => []
  | some exponent => exponent.characters

def characters (fraction : Fraction) : List Char :=
  '.' :: (fraction.digits.characters ++ fraction.ending)

/-- The power of ten that the last digit counts. -/
def scale (fraction : Fraction) : Int :=
  (match fraction.exponent with
    | none => 0
    | some exponent => exponent.value) - (fraction.digits.characters.length : Nat)

end Fraction

/-- A number; an integer has not too many digits to be read. -/
inductive Figure where
  | integer (isNegative : Bool) (whole : Whole)
      (few : whole.characters.length ≤ Numeral.digitLimit)
  | decimal (isNegative : Bool) (whole : Whole) (fraction : Fraction)

namespace Figure

def sign (isNegative : Bool) : List Char := if isNegative then ['-'] else []

def characters : Figure → List Char
  | integer isNegative whole _ => sign isNegative ++ whole.characters
  | decimal isNegative whole fraction =>
    sign isNegative ++ (whole.characters ++ fraction.characters)

def value : Figure → Value
  | integer isNegative whole _ =>
    let magnitude : Int := Numeral.digitsValue whole.characters
    .int (if isNegative then -magnitude else magnitude)
  | decimal isNegative whole fraction =>
    .float (Binary64.ofDecimal isNegative
      (Numeral.digitsValue (whole.characters ++ fraction.digits.characters)) fraction.scale)

end Figure

/-! ## Words -/

inductive Word where
  | null
  | true
  | false
  deriving DecidableEq

namespace Word

def text : Word → String
  | null => "null"
  | true => "true"
  | false => "false"

def value : Word → Value
  | null => .null
  | true => .bool Bool.true
  | false => .bool Bool.false

end Word

/-! ## Collections -/

/-- An item of an array with the gaps around it. -/
structure Item (α : Type) where
  before : Gap
  content : α
  after : Gap

/-- A member of an object with the gaps around its parts. -/
structure Member (α : Type) where
  before : Gap
  name : Name
  between : Gap
  content : α
  after : Gap

end Script

/-- A value as it is written where JSON and YAML agree. -/
inductive Script where
  | word (word : Script.Word)
  | number (figure : Script.Figure)
  | string (glyphs : List Script.Glyph)
  | emptyArray (gap : Script.Gap)
  | array (first : Script.Item Script) (others : List (Script.Item Script))
  | emptyObject (gap : Script.Gap)
  | object (first : Script.Member Script) (others : List (Script.Member Script))

namespace Script

mutual

def characters : Script → List Char
  | word said => said.text.toList
  | number figure => figure.characters
  | string glyphs => Glyph.quoted glyphs
  | emptyArray gap => '[' :: (gap.characters ++ [']'])
  | array ⟨before, content, after⟩ others =>
    '[' :: (before.characters ++ (content.characters ++ (after.characters ++
      (itemCharacters others ++ [']']))))
  | emptyObject gap => '\x7b' :: (gap.characters ++ ['\x7d'])
  | object ⟨before, name, between, content, after⟩ others =>
    '\x7b' :: (before.characters ++ (name.characters ++ ':' :: (between.characters ++
      (content.characters ++ (after.characters ++ (memberCharacters others ++ ['\x7d']))))))

/-- Items with the commas in front of them. -/
def itemCharacters : List (Item Script) → List Char
  | [] => []
  | ⟨before, content, after⟩ :: rest =>
    ',' :: (before.characters ++ (content.characters ++ (after.characters ++
      itemCharacters rest)))

/-- Members with the commas in front of them. -/
def memberCharacters : List (Member Script) → List Char
  | [] => []
  | ⟨before, name, between, content, after⟩ :: rest =>
    ',' :: (before.characters ++ (name.characters ++ ':' :: (between.characters ++
      (content.characters ++ (after.characters ++ memberCharacters rest)))))

end

mutual

/-- The value that is written. -/
def value : Script → Value
  | word said => said.value
  | number figure => figure.value
  | string glyphs => .text (Glyph.content glyphs)
  | emptyArray _ => .list []
  | array ⟨_, content, _⟩ others => .list (content.value :: itemValues others)
  | emptyObject _ => .record []
  | object ⟨_, name, _, content, _⟩ others => .record (Record.ofEntries
    ((.text (Glyph.content name.glyphs), content.value) :: memberValues others))

def itemValues : List (Item Script) → List Value
  | [] => []
  | ⟨_, content, _⟩ :: rest => content.value :: itemValues rest

def memberValues : List (Member Script) → List (Value × Value)
  | [] => []
  | ⟨_, name, _, content, _⟩ :: rest =>
    (.text (Glyph.content name.glyphs), content.value) :: memberValues rest

end

section Characters

variable (before between after : Gap) (name : Name) (content : Script)

theorem characters_word (said : Word) : characters (.word said) = said.text.toList := rfl

theorem characters_number (figure : Figure) : characters (.number figure) = figure.characters := rfl

theorem characters_array (others : List (Item Script)) :
    characters (.array ⟨before, content, after⟩ others) =
      '[' :: (before.characters ++ (content.characters ++ (after.characters ++
        (itemCharacters others ++ [']'])))) := rfl

theorem characters_object (others : List (Member Script)) :
    characters (.object ⟨before, name, between, content, after⟩ others) =
      '\x7b' :: (before.characters ++ (name.characters ++ ':' :: (between.characters ++
        (content.characters ++ (after.characters ++
          (memberCharacters others ++ ['\x7d'])))))) := rfl

end Characters

/-- Induction on scripts: of a collection it may be assumed that the claim holds of everything
inside. -/
@[elab_as_elim]
theorem induct {Holds : Script → Prop} (word : ∀ said, Holds (word said))
    (number : ∀ figure, Holds (number figure)) (string : ∀ glyphs, Holds (string glyphs))
    (emptyArray : ∀ gap, Holds (emptyArray gap))
    (array : ∀ first others, Holds first.content → (∀ item ∈ others, Holds item.content) →
      Holds (array first others))
    (emptyObject : ∀ gap, Holds (emptyObject gap))
    (object : ∀ first others, Holds first.content → (∀ member ∈ others, Holds member.content) →
      Holds (object first others)) (script : Script) : Holds script :=
  @Script.rec Holds (fun item => Holds item.content)
    (fun items => ∀ item ∈ items, Holds item.content) (fun member => Holds member.content)
    (fun members => ∀ member ∈ members, Holds member.content)
    word number string emptyArray array emptyObject object
    (fun _ _ _ content => content) (fun _ member => nomatch member)
    (fun _ _ head tail => List.forall_mem_cons.mpr ⟨head, tail⟩)
    (fun _ _ _ _ _ content => content) (fun _ member => nomatch member)
    (fun _ _ head tail => List.forall_mem_cons.mpr ⟨head, tail⟩) script

/-- A whole text. -/
structure Page where
  before : Gap
  root : Script
  after : Gap

def Page.characters (page : Page) : List Char :=
  page.before.characters ++ (page.root.characters ++ page.after.characters)

/-- The text of a page. -/
def Page.text (page : Page) : String := String.ofList page.characters

end Script

end GuestFlow
