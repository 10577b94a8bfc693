import GuestFlow.Number.Numeral
import GuestFlow.Yaml.Cursor

/-!
# Tokens

A YAML text is cut into tokens: marks of structure, names and scalars.  This module
reads the tokens that can be read without knowing the structure around them: anchors
and aliases, tags and directives.
-/

set_option autoImplicit false

namespace GuestFlow.Yaml

/-- What a line that begins with a percent sign says. -/
inductive Directive where
  | version (major : Nat)
  | handle (handle meaning : String)
  | other
  deriving DecidableEq, Repr

inductive Token where
  | directive (directive : Directive)
  | documentStart
  | documentEnd
  | streamEnd
  | blockSequenceStart
  | blockMappingStart
  | blockEnd
  | flowSequenceStart
  | flowSequenceEnd
  | flowMappingStart
  | flowMappingEnd
  | flowEntry
  | blockEntry
  | key
  | value
  | reference (name : String)
  | anchor (name : String)
  /-- A tag as it is written: the handle, if it has one, and what follows it. -/
  | tag (handle : Option String) (suffix : String)
  | scalar (content : String) (isPlain : Bool)
  /-- The place from which on no token could be read, and why. -/
  | unreadable (failure : Failure)
  deriving DecidableEq

namespace Token

/-- The text is not YAML. -/
def malformed {α : Type} : Except Failure α := .error .malformed

/-! ## Anchors and aliases -/

/-- What may follow the name of an anchor. -/
def endsName (character : Char) : Bool :=
  isGapOrEnd character || ['?', ':', ',', ']', '\x7d', '%', '@', '\x60'].contains character

/-- The name behind the mark of an anchor or an alias. -/
def readName (cursor : Cursor) : Except Failure (String × Cursor) :=
  let (name, after) := cursor.step.take isNameChar
  if name.isEmpty || !endsName after.here then malformed else .ok (String.ofList name, after)

/-! ## Tags -/

/-- Characters of a tag; a percent sign begins an escaped one. -/
def isTagChar (character : Char) : Bool :=
  character.isAlphanum || "-;/?:@&=+$,_.!~*'()[]%".toList.contains character

/-- The byte that two hexadecimal digits write. -/
def hexByte? (first second : Char) : Option UInt8 := do
  let high ← Numeral.digit? 16 first
  let low ← Numeral.digit? 16 second
  some (UInt8.ofNat (high * 16 + low))

/-- A character of a tag as bytes, escapes resolved. -/
def tagBytes : List Char → Except Failure (List UInt8)
  | [] => .ok []
  | '%' :: first :: second :: rest => do
    match hexByte? first second with
    | none => malformed
    | some byte => do
      let bytes ← tagBytes rest
      .ok (byte :: bytes)
  | '%' :: _ => malformed
  | character :: rest => do
    let bytes ← tagBytes rest
    .ok ((String.singleton character).toUTF8.toList ++ bytes)

/-- The name of a tag or what a handle stands for. -/
def readTagName (cursor : Cursor) : Except Failure (String × Cursor) := do
  let (characters, after) := cursor.take isTagChar
  if characters.isEmpty then malformed
  else
    let bytes ← tagBytes characters
    match String.fromUTF8? ⟨bytes.toArray⟩ with
    | none => malformed
    | some name => .ok (name, after)

/-- A handle: an exclamation mark, or a name between two. -/
def readHandle (cursor : Cursor) : Except Failure (String × Cursor) :=
  if cursor.here ≠ '!' then malformed
  else
    let next := cursor.step
    if next.here = ' ' then .ok ("!", next)
    else
      let (name, after) := next.take isNameChar
      if after.here = '!' then .ok (String.ofList ('!' :: name ++ ['!']), after.step)
      else malformed

/-- Whether a second exclamation mark stands in a tag. -/
def hasHandle (cursor : Cursor) : Bool :=
  (cursor.step.run fun character => !isSpaceOrEnd character).contains '!'

/-- A tag, and that it is followed by a blank or the end of the line. -/
def readTag (cursor : Cursor) : Except Failure (Token × Cursor) := do
  let next := cursor.peek 1
  let (token, after) ←
    if next = '<' then do
      let (name, after) ← readTagName (cursor.skip 2)
      if after.here = '>' then .ok (Token.tag none name, after.step) else malformed
    else if isGapOrEnd next then .ok (Token.tag none "!", cursor.step)
    else if hasHandle cursor then do
      let (handle, after) ← readHandle cursor
      let (name, after) ← readTagName after
      .ok (Token.tag (some handle) name, after)
    else do
      let (name, after) ← readTagName cursor.step
      .ok (Token.tag (some "!") name, after)
  if isSpaceOrEnd after.here then .ok (token, after) else malformed

/-! ## Directives -/

/-- The rest of the line of a directive. -/
def endDirective (cursor : Cursor) : Except Failure Cursor :=
  let after := cursor.skipSpaces.skipComment
  if isLineEnd after.here then .ok after.takeBreak.2 else malformed

/-- A number of a version. -/
def readVersionNumber (cursor : Cursor) : Except Failure (Nat × Cursor) :=
  let (digits, after) := cursor.take Char.isDigit
  if digits.isEmpty then malformed
  else match Numeral.readInteger 10 (String.ofList digits) with
    | .ok number => .ok (number.toNat, after)
    | .error fault => .error (.fault fault)

def readVersion (cursor : Cursor) : Except Failure (Directive × Cursor) := do
  let (major, after) ← readVersionNumber cursor.skipSpaces
  if after.here ≠ '.' then malformed
  else
    let (_, after) ← readVersionNumber after.step
    if isSpaceOrEnd after.here then .ok (.version major, after) else malformed

def readHandleMeaning (cursor : Cursor) : Except Failure (Directive × Cursor) := do
  let (handle, after) ← readHandle cursor.skipSpaces
  if after.here ≠ ' ' then malformed
  else
    let (meaning, after) ← readTagName after.skipSpaces
    if isSpaceOrEnd after.here then .ok (.handle handle meaning, after) else malformed

/-- A directive, up to the end of its line. -/
def readDirective (cursor : Cursor) : Except Failure (Token × Cursor) := do
  let (name, after) := cursor.step.take isNameChar
  if name.isEmpty || !isSpaceOrEnd after.here then malformed
  else
    let (said, after) ←
      if String.ofList name = "YAML" then readVersion after
      else if String.ofList name = "TAG" then readHandleMeaning after
      else .ok (Directive.other, after.skipWhile fun character => !isLineEnd character)
    let after ← endDirective after
    .ok (.directive said, after)

end Token

end GuestFlow.Yaml
