import GuestFlow.Fault

/-!
# A place in a YAML text

Reading YAML depends on columns: how far a line is indented decides where it belongs.
A cursor is a place in a text: the characters that are left, and the line and column
that have been reached.  Past the end every character reads as the null character,
which no YAML text contains.
-/

set_option autoImplicit false

namespace GuestFlow.Yaml

/-- Why a text has no YAML value: it is not YAML, or a scalar in it has no value. -/
inductive Failure where
  | malformed
  | fault (fault : Fault)
  deriving DecidableEq

/-- A place in a text. -/
structure Cursor where
  left : List Char
  index : Nat
  line : Nat
  column : Nat
  deriving DecidableEq

/-- What stands behind the end of a text. -/
def endMark : Char := '\x00'

/-- Characters that end a line. -/
def isBreak (character : Char) : Bool :=
  character == '\n' || character == '\r' || character == '\u0085' || character == '\u2028' ||
    character == '\u2029'

/-- The end of a line or of the text. -/
def isLineEnd (character : Char) : Bool := character == endMark || isBreak character

/-- A blank, the end of a line or of the text. -/
def isSpaceOrEnd (character : Char) : Bool := character == ' ' || isLineEnd character

/-- A blank, a tab, the end of a line or of the text. -/
def isGapOrEnd (character : Char) : Bool := character == '\t' || isSpaceOrEnd character

/-- Characters of names. -/
def isNameChar (character : Char) : Bool :=
  character.isAlphanum || character == '-' || character == '_'

/-- The characters a YAML text may consist of. -/
def isAllowed (character : Char) : Bool :=
  let point := character.toNat
  point == 0x9 || point == 0xa || point == 0xd || (0x20 ≤ point && point ≤ 0x7e) ||
    point == 0x85 || (0xa0 ≤ point && point ≤ 0xd7ff) || (0xe000 ≤ point && point ≤ 0xfffd) ||
    0x10000 ≤ point

namespace Cursor

def ofText (text : List Char) : Cursor := ⟨text, 0, 0, 0⟩

/-- The character some places ahead. -/
def peek (cursor : Cursor) (distance : Nat) : Char := cursor.left.getD distance endMark

/-- The character at the cursor. -/
def here (cursor : Cursor) : Char := cursor.left.headD endMark

/-- Steps over one character. -/
def step (cursor : Cursor) : Cursor :=
  match cursor.left with
  | [] => cursor
  | character :: rest =>
    let index := cursor.index + 1
    if character = '\n' || character = '\u0085' || character = '\u2028' ||
        character = '\u2029' || (character = '\r' && rest.head? ≠ some '\n') then
      ⟨rest, index, cursor.line + 1, 0⟩
    else if character = '\ufeff' then ⟨rest, index, cursor.line, cursor.column⟩
    else ⟨rest, index, cursor.line, cursor.column + 1⟩

/-- Steps over some characters. -/
def skip (cursor : Cursor) : Nat → Cursor
  | 0 => cursor
  | count + 1 => cursor.step.skip count

/-- The characters at the cursor that pass a test. -/
def run (cursor : Cursor) (test : Char → Bool) : List Char := cursor.left.takeWhile test

/-- Reads the characters at the cursor that pass a test. -/
def take (cursor : Cursor) (test : Char → Bool) : List Char × Cursor :=
  let characters := cursor.run test
  (characters, cursor.skip characters.length)

/-- Steps over the characters that pass a test. -/
def skipWhile (cursor : Cursor) (test : Char → Bool) : Cursor := (cursor.take test).2

/-- Steps over blanks. -/
def skipSpaces (cursor : Cursor) : Cursor := cursor.skipWhile (· == ' ')

/-- Steps over a comment, up to the end of its line. -/
def skipComment (cursor : Cursor) : Cursor :=
  if cursor.here = '#' then cursor.skipWhile fun character => !isLineEnd character else cursor

/-- Reads the end of a line; the usual ones read as one and the same. -/
def takeBreak (cursor : Cursor) : List Char × Cursor :=
  let character := cursor.here
  if character = '\r' && cursor.peek 1 = '\n' then (['\n'], cursor.skip 2)
  else if character = '\r' || character = '\n' || character = '\u0085' then (['\n'], cursor.step)
  else if character = '\u2028' || character = '\u2029' then ([character], cursor.step)
  else ([], cursor)

/-- Whether three equal marks and then a gap stand at the cursor. -/
def isAtMark (cursor : Cursor) (mark : Char) : Bool :=
  cursor.here = mark && cursor.peek 1 = mark && cursor.peek 2 = mark && isGapOrEnd (cursor.peek 3)

/-- Whether a document begins or ends at the cursor. -/
def isAtDocumentMark (cursor : Cursor) : Bool := cursor.isAtMark '-' || cursor.isAtMark '.'

end Cursor

end GuestFlow.Yaml
