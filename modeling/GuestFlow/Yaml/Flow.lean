import GuestFlow.Json.Reader
import GuestFlow.Yaml.Token

/-!
# Scalars in one flow

A scalar may stand in the flow of a text, in quotes or plain.  Where it goes on over the
end of a line, that end counts as a blank; empty lines between count as line ends.

In double quotes characters can be escaped.  In plain scalars a colon and a number sign
end the scalar where they would mean something else; inside brackets so do commas and
brackets.
-/

set_option autoImplicit false

namespace GuestFlow.Yaml.Flow

/-! ## Escapes -/

/-- The characters that simple escapes stand for. -/
def simpleEscapes : List (Char × Char) := [
  ('0', '\x00'), ('a', '\x07'), ('b', '\x08'), ('t', '\t'), ('\t', '\t'), ('n', '\n'),
  ('v', '\x0b'), ('f', '\x0c'), ('r', '\r'), ('e', '\x1b'), (' ', ' '), ('"', '"'),
  ('\\', '\\'), ('/', '/'), ('N', '\u0085'), ('_', '\u00a0'), ('L', '\u2028'), ('P', '\u2029')]

/-- The escapes that are followed by a number, with the count of its digits. -/
def numberedEscapes : List (Char × Nat) := [('x', 2), ('u', 4), ('U', 8)]

/-- The largest number that a character can be asked for by. -/
def largestRequest : Nat := 0x7fffffff

/-- The units of text that a scalar is put together from: characters, or halves of one. -/
inductive Piece where
  | character (character : Char)
  | half (unit : Nat)
  deriving DecidableEq, Repr

/-- The piece with a number. -/
def pieceOf (number : Nat) : Except Failure Piece :=
  if Json.isHighHalf number || Json.isLowHalf number then .ok (.half number)
  else if number < 0x110000 then .ok (.character (Char.ofNat number))
  else .error (.fault (if largestRequest < number then .characterTooLarge else .notACharacter))

/-- Pieces as characters: two halves that belong together are one. -/
def joinPieces : List Piece → List Char
  | [] => []
  | .character character :: rest => character :: joinPieces rest
  | .half high :: .half low :: rest =>
    if Json.isHighHalf high && Json.isLowHalf low then Json.joinHalves high low :: joinPieces rest
    else Json.loneHalf :: joinPieces (.half low :: rest)
  | .half _ :: rest => Json.loneHalf :: joinPieces rest

def characters (text : List Char) : List Piece := text.map Piece.character

/-! ## Ends of lines -/

/-- Ends of lines and the blanks around them; a mark of a document may not stand there. -/
def readBreaks : Nat → Cursor → Except Failure (List Char × Cursor)
  | 0, _ => Token.malformed
  | fuel + 1, cursor =>
    if cursor.isAtDocumentMark then Token.malformed
    else
      let cursor := cursor.skipWhile fun character => character == ' ' || character == '\t'
      if isBreak cursor.here then do
        let (lineEnd, after) := cursor.takeBreak
        let (more, after) ← readBreaks fuel after
        .ok (lineEnd ++ more, after)
      else .ok ([], cursor)

/-- What the end of a line and the empty lines after it count as. -/
def fold (lineEnd breaks : List Char) : List Char :=
  if lineEnd ≠ ['\n'] then lineEnd ++ breaks
  else if breaks.isEmpty then [' '] else breaks

/-! ## Quoted scalars -/

/-- An escape, from behind its backslash. -/
def readEscape (fuel : Nat) (cursor : Cursor) : Except Failure (List Piece × Cursor) :=
  let mark := cursor.here
  match simpleEscapes.lookup mark with
  | some meant => .ok ([.character meant], cursor.step)
  | none =>
    match numberedEscapes.lookup mark with
    | some count => do
      let digits := cursor.step.left.take count
      match digits.mapM (Numeral.digit? 16) with
      | some values =>
        if values.length = count then do
          let piece ← pieceOf (Numeral.value 16 values)
          .ok ([piece], cursor.step.skip count)
        else Token.malformed
      | none => Token.malformed
    | none =>
      if isBreak mark then do
        let (breaks, after) ← readBreaks fuel cursor.takeBreak.2
        .ok (characters breaks, after)
      else Token.malformed

/-- Blanks and ends of lines inside a quoted scalar. -/
def readSpaces (fuel : Nat) (cursor : Cursor) : Except Failure (List Piece × Cursor) :=
  let (spaces, after) := cursor.take fun character => character == ' ' || character == '\t'
  if after.here = endMark then Token.malformed
  else if isBreak after.here then do
    let (lineEnd, after) := after.takeBreak
    let (breaks, after) ← readBreaks fuel after
    .ok (characters (fold lineEnd breaks), after)
  else .ok (characters spaces, after)

/-- Characters that stand for themselves in quotes of either kind. -/
def isOrdinary (character : Char) : Bool :=
  !(character == '\'' || character == '"' || character == '\\' || isGapOrEnd character)

/-- The content of a quoted scalar, from behind its opening quote. -/
def readContent (isDouble : Bool) : Nat → Cursor → Except Failure (List Piece × Cursor)
  | 0, _ => Token.malformed
  | fuel + 1, cursor => do
    let (ordinary, cursor) := cursor.take isOrdinary
    let here := cursor.here
    let (pieces, after?) ←
      if !isDouble && here = '\'' && cursor.peek 1 = '\'' then
        .ok ([Piece.character '\''], some (cursor.skip 2))
      else if here = (if isDouble then '"' else '\'') then .ok ([], none)
      else if here = '\\' && isDouble then do
        let (pieces, after) ← readEscape fuel cursor.step
        .ok (pieces, some after)
      else if here = '\'' || here = '"' || here = '\\' then
        .ok ([Piece.character here], some cursor.step)
      else do
        let (pieces, after) ← readSpaces fuel cursor
        .ok (pieces, some after)
    match after? with
    | none => .ok (characters ordinary, cursor.step)
    | some after => do
      let (more, last) ← readContent isDouble fuel after
      .ok (characters ordinary ++ pieces ++ more, last)

/-- A quoted scalar. -/
def readQuoted (cursor : Cursor) : Except Failure (Token × Cursor) := do
  let (pieces, after) ←
    readContent (cursor.here == '"') (cursor.left.length + 1) cursor.step
  .ok (.scalar (String.ofList (joinPieces pieces)) false, after)

/-! ## Plain scalars -/

/-- Whether a character, with the one after it, ends a word of a plain scalar. -/
def endsWord (inBrackets : Bool) (character next : Char) : Bool :=
  isGapOrEnd character ||
    (character == ':' && (isGapOrEnd next ||
      (inBrackets && [',', '[', ']', '\x7b', '\x7d'].contains next))) ||
    (inBrackets && [',', '?', '[', ']', '\x7b', '\x7d'].contains character)

/-- A word of a plain scalar. -/
def word (inBrackets : Bool) : List Char → List Char
  | [] => []
  | character :: rest =>
    if endsWord inBrackets character (rest.headD endMark) then []
    else character :: word inBrackets rest

/-- Blanks and ends of lines after the end of a line in a plain scalar; nothing where a document
begins or ends. -/
def readPlainBreaks : Nat → Cursor → Option (List Char) × Cursor
  | 0, cursor => (none, cursor)
  | fuel + 1, cursor =>
    if cursor.here = ' ' then readPlainBreaks fuel cursor.step
    else if isBreak cursor.here then
      let (lineEnd, after) := cursor.takeBreak
      if after.isAtDocumentMark then (none, after)
      else
        let (more, last) := readPlainBreaks fuel after
        (more.map (lineEnd ++ ·), last)
    else (some [], cursor)

/-- What stands between the words of a plain scalar.  The flag tells whether a line ended. -/
def readPlainSpaces (fuel : Nat) (cursor : Cursor) : List Char × Cursor × Bool :=
  let (spaces, after) := cursor.take (· == ' ')
  if isBreak after.here then
    let (lineEnd, after) := after.takeBreak
    if after.isAtDocumentMark then ([], after, true)
    else
      match readPlainBreaks fuel after with
      | (none, after) => ([], after, true)
      | (some breaks, after) => (fold lineEnd breaks, after, true)
  else (spaces, after, false)

/-- The words of a plain scalar with what stands between them; `before` stands in front of the next
word, and `lineEnded` tells whether a line ended since the last one. -/
def readWords (inBrackets : Bool) (indent : Int) :
    Nat → List Char → Bool → Cursor → List Char × Cursor × Bool
  | 0, _, lineEnded, cursor => ([], cursor, lineEnded)
  | fuel + 1, before, lineEnded, cursor =>
    let found := if cursor.here = '#' then [] else word inBrackets cursor.left
    if found.isEmpty then ([], cursor, lineEnded)
    else
      let (spaces, after, lineEnded) := readPlainSpaces fuel (cursor.skip found.length)
      if spaces.isEmpty || after.here = '#' ||
          (!inBrackets && decide ((after.column : Int) < indent)) then
        (before ++ found, after, lineEnded)
      else
        let (more, last, lineEnded) := readWords inBrackets indent fuel spaces lineEnded after
        (before ++ found ++ more, last, lineEnded)

/-- A plain scalar, and whether a line ended behind its last word. -/
def readPlain (inBrackets : Bool) (indent : Int) (cursor : Cursor) : Token × Cursor × Bool :=
  let (content, after, lineEnded) :=
    readWords inBrackets indent (cursor.left.length + 1) [] false cursor
  (.scalar (String.ofList content) true, after, lineEnded)

end GuestFlow.Yaml.Flow
