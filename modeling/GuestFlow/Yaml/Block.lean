import GuestFlow.Yaml.Token

/-!
# Block scalars

A block scalar is a number of lines that are indented more than what they belong to.
Behind a bar its lines are kept as they are, behind an angle bracket they are folded
into paragraphs.  A sign after the mark says what becomes of the ends of the last lines,
and a digit how far the block is indented.
-/

set_option autoImplicit false

namespace GuestFlow.Yaml.Block

/-- What becomes of the ends of lines behind the last line with text. -/
inductive Chomping where
  /-- One is kept. -/
  | clip
  | strip
  | keep
  deriving DecidableEq, Repr

/-- What stands behind the mark of a block scalar. -/
structure Header where
  chomping : Chomping
  increment : Option Nat
  deriving DecidableEq, Repr

def sign? (character : Char) : Option Chomping :=
  if character = '+' then some .keep else if character = '-' then some .strip else none

/-- A digit that says how far the block is indented; zero is none. -/
def readIncrement (cursor : Cursor) : Except Failure (Option Nat × Cursor) :=
  if cursor.here.isDigit then
    let number := cursor.here.toNat - 0x30
    if number = 0 then Token.malformed else .ok (some number, cursor.step)
  else .ok (none, cursor)

/-- Sign and digit, in either order. -/
def readHeader (cursor : Cursor) : Except Failure (Header × Cursor) := do
  let (header, after) ←
    match sign? cursor.here with
    | some chomping => do
      let (increment, after) ← readIncrement cursor.step
      .ok ((⟨chomping, increment⟩ : Header), after)
    | none => do
      let (increment, after) ← readIncrement cursor
      match increment, sign? after.here with
      | some _, some chomping => .ok (⟨chomping, increment⟩, after.step)
      | _, _ => .ok (⟨.clip, increment⟩, after)
  if isSpaceOrEnd after.here then .ok (header, after) else Token.malformed

/-- The rest of the line with the mark. -/
def endHeader (cursor : Cursor) : Except Failure Cursor :=
  let after := cursor.skipSpaces.skipComment
  if isLineEnd after.here then .ok after.takeBreak.2 else Token.malformed

/-- Steps over blanks as far as a column. -/
def skipToColumn (cursor : Cursor) (column : Nat) : Cursor :=
  cursor.skip (min (column - cursor.column) (cursor.run (· == ' ')).length)

/-- Empty lines in front of the first line with text, and the farthest column that their blanks
reach. -/
def readLeading : Nat → Nat → Cursor → List Char × Nat × Cursor
  | 0, deepest, cursor => ([], deepest, cursor)
  | fuel + 1, deepest, cursor =>
    if cursor.here = ' ' then
      let after := cursor.step
      readLeading fuel (max deepest after.column) after
    else if isBreak cursor.here then
      let (lineEnd, after) := cursor.takeBreak
      let (more, deepest, last) := readLeading fuel deepest after
      (lineEnd ++ more, deepest, last)
    else ([], deepest, cursor)

/-- Empty lines, and the indentation of the line after them. -/
def readBreaks (column : Nat) : Nat → Cursor → List Char × Cursor
  | 0, cursor => ([], cursor)
  | fuel + 1, cursor =>
    let cursor := skipToColumn cursor column
    if isBreak cursor.here then
      let (lineEnd, after) := cursor.takeBreak
      let (more, last) := readBreaks column fuel after
      (lineEnd ++ more, last)
    else ([], cursor)

def isSpaceOrTab (character : Char) : Bool := character == ' ' || character == '\t'

/-- What stands between two lines of a block.  In a folded block a single end of a line between
lines that begin with text counts as a blank. -/
def joint (isFolded : Bool) (lineEnd breaks : List Char) (textFollowsText : Bool) : List Char :=
  if isFolded && lineEnd == ['\n'] && textFollowsText then (if breaks.isEmpty then [' '] else [])
  else lineEnd

/-- The lines of a block; `breaks` stand in front of the next one. -/
def readLines (isFolded : Bool) (chomping : Chomping) (column : Nat) :
    Nat → List Char → List Char → Cursor → List Char × Cursor
  | 0, _, _, cursor => ([], cursor)
  | fuel + 1, lineEnd, breaks, cursor =>
    if cursor.column = column && cursor.here ≠ endMark then
      let beginsWithText := !isSpaceOrTab cursor.here
      let (text, after) := cursor.take fun character => !isLineEnd character
      let (lineEnd, after) := after.takeBreak
      let (nextBreaks, after) := readBreaks column fuel after
      if after.column = column && after.here ≠ endMark then
        let (more, last) := readLines isFolded chomping column fuel lineEnd nextBreaks after
        (breaks ++ text ++
          joint isFolded lineEnd nextBreaks (beginsWithText && !isSpaceOrTab after.here) ++ more,
          last)
      else
        (breaks ++ text ++ tail lineEnd nextBreaks, after)
    else (tail lineEnd breaks, cursor)
where
  /-- The ends of lines behind the text. -/
  tail (lineEnd breaks : List Char) : List Char :=
    match chomping with
    | .strip => []
    | .clip => lineEnd
    | .keep => lineEnd ++ breaks

/-- A block scalar inside a block that is indented by `indent`. -/
def read (indent : Int) (cursor : Cursor) : Except Failure (Token × Cursor) := do
  let (header, after) ← readHeader cursor.step
  let after ← endHeader after
  let fuel := cursor.left.length + 1
  let least := max (indent + 1) 1
  let (column, breaks, after) := match header.increment with
    | none =>
      let (breaks, deepest, after) := readLeading fuel 0 after
      (max least.toNat deepest, breaks, after)
    | some increment =>
      let column := least.toNat + increment - 1
      let (breaks, after) := readBreaks column fuel after
      (column, breaks, after)
  let (content, after) :=
    readLines (cursor.here == '>') header.chomping column fuel [] breaks after
  .ok (.scalar (String.ofList content) false, after)

end GuestFlow.Yaml.Block
