import GuestFlow.Yaml.Block
import GuestFlow.Yaml.Flow

/-!
# The layout of a text

In YAML the indentation of a line is structure.  While the tokens of a text are read
from left to right, the layout keeps how far the open blocks are indented, and adds the
tokens that begin and end them.

A key needs no mark in front of it: that something was a key shows only at the colon
behind it.  So wherever a key may stand the layout remembers it as a candidate, and at
the colon puts the tokens for the key, and for the mapping that may begin with it, in
their place.  A candidate has to end on its own line, within 1024 characters.

`tokens` gives all tokens of a text; where they cannot be read on, the last one says so.
-/

set_option autoImplicit false

namespace GuestFlow.Yaml

/-- Something that would be a key if a colon followed. -/
structure Candidate where
  /-- The number of tokens in front of it. -/
  place : Nat
  /-- Whether nothing but a key can stand there. -/
  isRequired : Bool
  cursor : Cursor

/-- The most characters between the beginning of a key and its colon. -/
def keyLimit : Nat := 1024

/-- Whether a candidate can still be a key at a cursor. -/
def Candidate.isAlive (candidate : Candidate) (cursor : Cursor) : Bool :=
  candidate.cursor.line = cursor.line && cursor.index - candidate.cursor.index ≤ keyLimit

/-- Tokens in a row, the last one first, and how many they are. -/
structure Row where
  reversed : List Token
  size : Nat

namespace Row

def empty : Row := ⟨[], 0⟩

def push (row : Row) (token : Token) : Row := ⟨token :: row.reversed, row.size + 1⟩

/-- Puts a token behind the first `place` ones. -/
def insertAt (row : Row) (place : Nat) (token : Token) : Row :=
  let later := row.size - place
  ⟨row.reversed.take later ++ token :: row.reversed.drop later, row.size + 1⟩

def toList (row : Row) : List Token := row.reversed.reverse

end Row

/-- What is known about a text up to a place. -/
structure Layout where
  cursor : Cursor
  tokens : Row
  /-- The column of the innermost block; there is none at first. -/
  indent : Int
  /-- The columns of the blocks around it. -/
  outer : List Int
  /-- Whether a key may begin here. -/
  allowsKey : Bool
  /-- The candidate inside the innermost brackets. -/
  candidate : Option Candidate
  /-- The candidates around the open brackets, innermost first. -/
  enclosing : List (Option Candidate)

namespace Layout

def ofText (text : List Char) : Layout := ⟨Cursor.ofText text, Row.empty, -1, [], true, none, []⟩

/-- Inside brackets indentation does not count. -/
def inBrackets (layout : Layout) : Bool := !layout.enclosing.isEmpty

def column (layout : Layout) : Int := (layout.cursor.column : Nat)

def add (layout : Layout) (token : Token) : Layout :=
  { layout with tokens := layout.tokens.push token }

/-- Adds a token that was read, up to where it ends. -/
def addUpTo (layout : Layout) (token : Token) (after : Cursor) : Layout :=
  { layout with tokens := layout.tokens.push token, cursor := after }

def insertAt (layout : Layout) (place : Nat) (token : Token) : Layout :=
  { layout with tokens := layout.tokens.insertAt place token }

def allowKey (layout : Layout) (allowed : Bool) : Layout := { layout with allowsKey := allowed }

/-! ## Blanks and comments -/

/-- Steps over blanks, comments and ends of lines. -/
def skipGaps : Nat → Layout → Layout
  | 0, layout => layout
  | fuel + 1, layout =>
    let after := layout.cursor.skipSpaces.skipComment
    if isBreak after.here then
      skipGaps fuel
        { layout with
          cursor := after.takeBreak.2
          allowsKey := layout.allowsKey || !layout.inBrackets }
    else { layout with cursor := after }

/-- A mark of the byte order may stand at the very front. -/
def skipByteOrderMark (layout : Layout) : Layout :=
  if layout.cursor.index = 0 && layout.cursor.here = '\ufeff' then
    { layout with cursor := layout.cursor.step }
  else layout

/-! ## Blocks -/

/-- Ends the blocks that are indented farther than a column; `blocks` are those outside. -/
def endBlocks (column : Int) (tokens : Row) (indent : Int) :
    List Int → Row × Int × List Int
  | [] => (tokens, indent, [])
  | next :: rest =>
    if column < indent then endBlocks column (tokens.push .blockEnd) next rest
    else (tokens, indent, next :: rest)

def unwind (layout : Layout) (column : Int) : Layout :=
  if layout.inBrackets then layout
  else
    let (tokens, indent, outer) := endBlocks column layout.tokens layout.indent layout.outer
    { layout with tokens := tokens, indent := indent, outer := outer }

/-- Begins a block where a column lies farther in than the open ones. -/
def beginBlock (layout : Layout) (column : Int) (place : Nat) (token : Token) : Layout :=
  if layout.indent < column then
    { layout.insertAt place token with indent := column, outer := layout.indent :: layout.outer }
  else layout

/-! ## Candidates -/

/-- Drops a candidate that is no key after all. -/
def dropped : Option Candidate → Except Failure (Option Candidate)
  | some candidate => if candidate.isRequired then Token.malformed else .ok none
  | none => .ok none

/-- Drops a candidate that can no longer be a key. -/
def refreshed (cursor : Cursor) (candidate : Option Candidate) :
    Except Failure (Option Candidate) :=
  match candidate with
  | some key => if key.isAlive cursor then .ok candidate else dropped candidate
  | none => .ok none

def refresh (layout : Layout) : Except Failure Layout := do
  let enclosing ← layout.enclosing.mapM (refreshed layout.cursor)
  let candidate ← refreshed layout.cursor layout.candidate
  .ok { layout with candidate := candidate, enclosing := enclosing }

def dropCandidate (layout : Layout) : Except Failure Layout := do
  let candidate ← dropped layout.candidate
  .ok { layout with candidate := candidate }

/-- Remembers that what begins here may be a key. -/
def offerCandidate (layout : Layout) : Except Failure Layout :=
  if layout.allowsKey then do
    let layout ← layout.dropCandidate
    let isRequired := !layout.inBrackets && layout.indent == layout.column
    .ok { layout with candidate := some ⟨layout.tokens.size, isRequired, layout.cursor⟩ }
  else .ok layout

/-! ## Structure -/

/-- The end of the text. -/
def finish (layout : Layout) : Except Failure Layout := do
  let layout ← (layout.unwind (-1)).dropCandidate
  .ok (layout.add .streamEnd)

def addDirective (layout : Layout) : Except Failure Layout := do
  let layout ← (layout.unwind (-1)).dropCandidate
  let (token, after) ← Token.readDirective layout.cursor
  .ok ((layout.allowKey false).addUpTo token after)

def addDocumentMark (layout : Layout) (token : Token) : Except Failure Layout := do
  let layout ← (layout.unwind (-1)).dropCandidate
  .ok ((layout.allowKey false).addUpTo token (layout.cursor.skip 3))

def openBrackets (layout : Layout) (token : Token) : Except Failure Layout := do
  let layout ← layout.offerCandidate
  let inside := { layout with
    enclosing := layout.candidate :: layout.enclosing, candidate := none, allowsKey := true }
  .ok (inside.addUpTo token layout.cursor.step)

/-- Nothing can be closed where nothing is open. -/
def closeBrackets (layout : Layout) (token : Token) : Except Failure Layout := do
  let layout ← layout.dropCandidate
  match layout.enclosing with
  | [] => Token.malformed
  | candidate :: enclosing =>
    let outside := { layout with
      enclosing := enclosing, candidate := candidate, allowsKey := false }
    .ok (outside.addUpTo token layout.cursor.step)

def addComma (layout : Layout) : Except Failure Layout := do
  let layout ← layout.dropCandidate
  .ok ((layout.allowKey true).addUpTo .flowEntry layout.cursor.step)

/-- Begins a block at a mark, where a block may begin. -/
def beginBlockHere (layout : Layout) (token : Token) : Except Failure Layout :=
  if layout.inBrackets then .ok layout
  else if layout.allowsKey then
    .ok (layout.beginBlock layout.column layout.tokens.size token)
  else Token.malformed

def addBlockEntry (layout : Layout) : Except Failure Layout := do
  let layout ← (← layout.beginBlockHere .blockSequenceStart).dropCandidate
  .ok ((layout.allowKey true).addUpTo .blockEntry layout.cursor.step)

def addKeyMark (layout : Layout) : Except Failure Layout := do
  let layout ← (← layout.beginBlockHere .blockMappingStart).dropCandidate
  .ok ((layout.allowKey (!layout.inBrackets)).addUpTo .key layout.cursor.step)

/-- A colon makes a candidate a key. -/
def addValueMark (layout : Layout) : Except Failure Layout :=
  match layout.candidate with
  | some key =>
    let settled := { layout with candidate := none, allowsKey := false }
    let settled := settled.insertAt key.place .key
    let settled :=
      if settled.inBrackets then settled
      else settled.beginBlock (key.cursor.column : Nat) key.place .blockMappingStart
    .ok (settled.addUpTo .value layout.cursor.step)
  | none => do
    let layout ← layout.beginBlockHere .blockMappingStart
    .ok ((layout.allowKey (!layout.inBrackets)).addUpTo .value layout.cursor.step)

/-! ## Content -/

/-- Adds a token that may be a key, as a reader gives it. -/
def addContent (layout : Layout) (read : Cursor → Except Failure (Token × Cursor)) :
    Except Failure Layout := do
  let layout ← layout.offerCandidate
  let (token, after) ← read layout.cursor
  .ok ((layout.allowKey false).addUpTo token after)

def readAlias (cursor : Cursor) : Except Failure (Token × Cursor) := do
  let (name, after) ← Token.readName cursor
  .ok (.reference name, after)

def readAnchor (cursor : Cursor) : Except Failure (Token × Cursor) := do
  let (name, after) ← Token.readName cursor
  .ok (.anchor name, after)

def addBlockScalar (layout : Layout) : Except Failure Layout := do
  let layout ← layout.dropCandidate
  let (token, after) ← Block.read layout.indent layout.cursor
  .ok ((layout.allowKey true).addUpTo token after)

def addPlain (layout : Layout) : Except Failure Layout := do
  let layout ← layout.offerCandidate
  let (token, after, lineEnded) :=
    Flow.readPlain layout.inBrackets (layout.indent + 1) layout.cursor
  .ok ((layout.allowKey lineEnded).addUpTo token after)

/-- Characters that mean something at the front of a scalar. -/
def isIndicator (character : Char) : Bool :=
  "-?:,[]\x7b\x7d#&*!|>'\"%@\x60".toList.contains character

/-- Whether a plain scalar begins at a cursor. -/
def beginsPlain (inBrackets : Bool) (cursor : Cursor) : Bool :=
  let here := cursor.here
  !(isGapOrEnd here || isIndicator here) ||
    (!isGapOrEnd (cursor.peek 1) && (here == '-' || (!inBrackets && (here == '?' || here == ':'))))

/-! ## All tokens -/

/-- Whether a mark stands for itself: a gap follows, or brackets are open. -/
def isMark (layout : Layout) : Bool := layout.inBrackets || isGapOrEnd (layout.cursor.peek 1)

/-- Reads the token at the cursor, which is not the end of the text. -/
def readToken (layout : Layout) : Except Failure Layout :=
  let cursor := layout.cursor
  let here := cursor.here
  if here = '%' && cursor.column = 0 then layout.addDirective
  else if cursor.column = 0 && cursor.isAtMark '-' then layout.addDocumentMark .documentStart
  else if cursor.column = 0 && cursor.isAtMark '.' then layout.addDocumentMark .documentEnd
  else if here = '[' then layout.openBrackets .flowSequenceStart
  else if here = '\x7b' then layout.openBrackets .flowMappingStart
  else if here = ']' then layout.closeBrackets .flowSequenceEnd
  else if here = '\x7d' then layout.closeBrackets .flowMappingEnd
  else if here = ',' then layout.addComma
  else if here = '-' && isGapOrEnd (cursor.peek 1) then layout.addBlockEntry
  else if here = '?' && layout.isMark then layout.addKeyMark
  else if here = ':' && layout.isMark then layout.addValueMark
  else if here = '*' then layout.addContent readAlias
  else if here = '&' then layout.addContent readAnchor
  else if here = '!' then layout.addContent Token.readTag
  else if (here = '|' || here = '>') && !layout.inBrackets then layout.addBlockScalar
  else if here = '\'' || here = '"' then layout.addContent Flow.readQuoted
  else if beginsPlain layout.inBrackets cursor then layout.addPlain
  else Token.malformed

/-- Reads the next token with what stands in front of it, and tells whether it was the last.  There
are at most `lines` ends of lines in front of it. -/
def advance (lines : Nat) (layout : Layout) : Except Failure (Layout × Bool) := do
  let layout := layout.skipByteOrderMark
  let layout ← (layout.skipGaps (lines + 1)).refresh
  let layout := layout.unwind layout.column
  if layout.cursor.left.isEmpty then
    let layout ← layout.finish
    .ok (layout, true)
  else
    let layout ← layout.readToken
    .ok (layout, false)

/-- Every token uses up a character, so as many steps as characters are enough, and a step never
skips more lines than there are steps left. -/
def readTokens : Nat → Layout → List Token
  | 0, layout => layout.tokens.toList ++ [.unreadable .malformed]
  | fuel + 1, layout =>
    match layout.advance fuel with
    | .error failure => layout.tokens.toList ++ [.unreadable failure]
    | .ok (after, true) => after.tokens.toList
    | .ok (after, false) => readTokens fuel after

/-- How reading goes on after a step. -/
def goOn (layout : Layout) (read : Layout → List Token) :
    Except Failure (Layout × Bool) → List Token
  | .error failure => layout.tokens.toList ++ [.unreadable failure]
  | .ok (after, true) => after.tokens.toList
  | .ok (after, false) => read after

section

-- Otherwise the elaborator tries to compute the step.
attribute [local irreducible] advance

theorem readTokens_succ (fuel : Nat) (layout : Layout) :
    layout.readTokens (fuel + 1) = goOn layout (readTokens fuel) (layout.advance fuel) := rfl

end

end Layout

/-- The tokens of a text. -/
def tokens (text : List Char) : List Token :=
  Layout.readTokens (text.length + 1) (Layout.ofText text)

end GuestFlow.Yaml
