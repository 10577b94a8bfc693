import GuestFlow.Yaml.Tag
import GuestFlow.Yaml.Token

/-!
# Nodes

The tokens of a text describe a tree.  Its nodes are scalars, sequences and mappings,
each with the tag that tells its kind.  An anchor gives a node a name; an alias stands
for the node of that name.  An alias inside that very node makes it endless; of such a
node a tree can keep no more than its beginning, and it counts as empty
(`Node.isFinite`).

`Node.ofTokens?` reads the one document that a text may hold; a text without a document
has no node.  Tokens in a place where they make no sense are a malformed text.
-/

set_option autoImplicit false

namespace GuestFlow.Yaml

inductive Node where
  | scalar (tag : Tag) (content : String)
  | sequence (tag : Tag) (items : List Node)
  | mapping (tag : Tag) (entries : List (Node × Node))
  /-- An alias inside the very node that it stands for, of which the beginning is kept. -/
  | endless (beginning : Node)

namespace Node

/-- What stands where a value was left out. -/
def empty : Node := .scalar (Tag.ofPlain "") ""

mutual

/-- Whether no alias stands inside the very node that it stands for. -/
def isFinite : Node → Bool
  | .scalar _ _ => true
  | .sequence _ items => areFinite items
  | .mapping _ entries => entriesAreFinite entries
  | .endless _ => false

def areFinite : List Node → Bool
  | [] => true
  | item :: rest => isFinite item && areFinite rest

def entriesAreFinite : List (Node × Node) → Bool
  | [] => true
  | (key, value) :: rest => isFinite key && isFinite value && entriesAreFinite rest

end

/-! ## Reading -/

/-- A node that an anchor has named.  While the node is still being read it is endless here. -/
structure Named where
  name : String
  node : Node

/-- The tokens that are left, and what the document has said so far. -/
structure Reading where
  left : List Token
  anchors : List Named
  /-- The handles of tags and what they stand for. -/
  handles : List (String × String)

/-- The token to read next.  Behind the last one nothing can be read. -/
def Reading.next (reading : Reading) : Token :=
  reading.left.headD (.unreadable .malformed)

def Reading.skip (reading : Reading) : Reading := { reading with left := reading.left.tail }

/-- A token does not fit where it stands. -/
def refuse {α : Type} : Token → Except Failure α
  | .unreadable failure => .error failure
  | _ => .error .malformed

/-- Steps over a token that has to stand here. -/
def Reading.expect (reading : Reading) (token : Token) : Except Failure Reading :=
  if reading.next = token then .ok reading.skip else refuse reading.next

/-! ## Names and tags -/

/-- The node that an alias stands for. -/
def Reading.resolve (reading : Reading) (name : String) : Except Failure Node :=
  match reading.anchors.find? fun named => named.name == name with
  | some named => .ok named.node
  | none => Token.malformed

/-- Names the node that begins here; a name serves once. -/
def Reading.introduce (reading : Reading) (name : Option String) (beginning : Node) :
    Except Failure Reading :=
  match name with
  | none => .ok reading
  | some name =>
    if reading.anchors.any fun named => named.name == name then Token.malformed
    else .ok { reading with anchors := ⟨name, .endless beginning⟩ :: reading.anchors }

/-- Completes the node of a name. -/
def Reading.close (reading : Reading) (name : Option String) (node : Node) : Reading :=
  match name with
  | none => reading
  | some name =>
    { reading with anchors := reading.anchors.map fun named =>
        if named.name = name then ⟨name, node⟩ else named }

/-- What may stand in front of a node: a name and a tag in full. -/
structure Properties where
  anchor : Option String
  tag : Option String

/-- The tag of a collection, which a bare exclamation mark leaves as it is. -/
def Properties.collectionTag (properties : Properties) (usual : Tag) : Tag :=
  match properties.tag with
  | none => usual
  | some name => if name = "!" then usual else Tag.ofName name

def Properties.scalarTag (properties : Properties) (content : String) (isPlain : Bool) : Tag :=
  match properties.tag with
  | none => if isPlain then Tag.ofPlain content else .str
  | some name => if name = "!" then Tag.ofPlain content else Tag.ofName name

def Reading.fullTag (reading : Reading) : Option String × String → Except Failure String
  | (none, name) => .ok name
  | (some handle, name) =>
    match reading.handles.lookup handle with
    | some meaning => .ok (meaning ++ name)
    | none => Token.malformed

/-- A name and a tag as they are written, in either order. -/
def Reading.takeProperties (reading : Reading) :
    Option String × Option (Option String × String) × Reading :=
  match reading.left with
  | .anchor name :: .tag handle written :: rest =>
    (some name, some (handle, written), { reading with left := rest })
  | .tag handle written :: .anchor name :: rest =>
    (some name, some (handle, written), { reading with left := rest })
  | .anchor name :: rest => (some name, none, { reading with left := rest })
  | .tag handle written :: rest => (none, some (handle, written), { reading with left := rest })
  | _ => (none, none, reading)

def Reading.properties (reading : Reading) : Except Failure (Properties × Reading) := do
  let (anchor, written, after) := reading.takeProperties
  let tag ← written.mapM after.fullTag
  .ok (⟨anchor, tag⟩, after)

/-! ## Where a value was left out -/

def endsBlockItem (token : Token) : Bool := token == .blockEntry || token == .blockEnd

def endsBlockPart (token : Token) : Bool :=
  token == .key || token == .value || token == .blockEnd

def endsPlainItem (token : Token) : Bool := token == .blockEntry || endsBlockPart token

def endsFlowItem (token : Token) : Bool := token == .flowEntry || token == .flowSequenceEnd

def endsFlowPart (token : Token) : Bool := token == .flowEntry || token == .flowMappingEnd

/-! ## Nodes -/

/-- Where a node stands: in brackets, in a block, or in a mapping of a block, where the items of a
sequence need not be indented. -/
inductive Place where
  | flow
  | block
  | blockPart
  deriving DecidableEq, Repr

/-- The node that begins at a token, as far as the token shows it. -/
def beginning (properties : Properties) : Token → Node
  | .blockEntry | .blockSequenceStart | .flowSequenceStart =>
    .sequence (properties.collectionTag .seq) []
  | .blockMappingStart | .flowMappingStart => .mapping (properties.collectionTag .map) []
  | _ => empty

mutual

def readNode : Nat → Place → Reading → Except Failure (Node × Reading)
  | 0, _, _ => Token.malformed
  | fuel + 1, place, reading =>
    match reading.next with
    | .reference name => do
      let node ← reading.resolve name
      .ok (node, reading.skip)
    | _ => do
      let (properties, reading) ← reading.properties
      let inside ← reading.introduce properties.anchor (beginning properties reading.next)
      let (node, after) ← readContent fuel place properties inside
      .ok (node, after.close properties.anchor node)

def readContent : Nat → Place → Properties → Reading → Except Failure (Node × Reading)
  | 0, _, _, _ => Token.malformed
  | fuel + 1, place, properties, reading =>
    let next := reading.next
    if next = .blockEntry && place = .blockPart then do
      let (items, after) ← readPlainItems fuel reading
      .ok (.sequence (properties.collectionTag .seq) items, after)
    else match next with
      | .scalar content isPlain =>
        .ok (.scalar (properties.scalarTag content isPlain) content, reading.skip)
      | .flowSequenceStart => do
        let (items, after) ← readFlowItems fuel true reading.skip
        .ok (.sequence (properties.collectionTag .seq) items, after)
      | .flowMappingStart => do
        let (entries, after) ← readFlowEntries fuel true reading.skip
        .ok (.mapping (properties.collectionTag .map) entries, after)
      | _ =>
        if next = .blockSequenceStart && place ≠ .flow then do
          let (items, after) ← readBlockItems fuel reading.skip
          .ok (.sequence (properties.collectionTag .seq) items, after)
        else if next = .blockMappingStart && place ≠ .flow then do
          let (entries, after) ← readBlockEntries fuel reading.skip
          .ok (.mapping (properties.collectionTag .map) entries, after)
        else if properties.anchor.isSome || properties.tag.isSome then
          .ok (.scalar (properties.scalarTag "" properties.tag.isNone) "", reading)
        else refuse next

/-- The items of a sequence in a block of its own. -/
def readBlockItems : Nat → Reading → Except Failure (List Node × Reading)
  | 0, _ => Token.malformed
  | fuel + 1, reading =>
    if reading.next = .blockEntry then do
      let (item, after) ← readPart fuel .block endsBlockItem reading.skip
      let (items, after) ← readBlockItems fuel after
      .ok (item :: items, after)
    else do
      let after ← reading.expect .blockEnd
      .ok ([], after)

/-- The items of a sequence that is not indented more than the mapping around it. -/
def readPlainItems : Nat → Reading → Except Failure (List Node × Reading)
  | 0, _ => Token.malformed
  | fuel + 1, reading =>
    if reading.next = .blockEntry then do
      let (item, after) ← readPart fuel .block endsPlainItem reading.skip
      let (items, after) ← readPlainItems fuel after
      .ok (item :: items, after)
    else .ok ([], reading)

def readBlockEntries : Nat → Reading → Except Failure (List (Node × Node) × Reading)
  | 0, _ => Token.malformed
  | fuel + 1, reading =>
    if reading.next = .key then do
      let (key, after) ← readPart fuel .blockPart endsBlockPart reading.skip
      let (value, after) ← readValue fuel .blockPart endsBlockPart after
      let (entries, after) ← readBlockEntries fuel after
      .ok ((key, value) :: entries, after)
    else do
      let after ← reading.expect .blockEnd
      .ok ([], after)

/-- The items in square brackets.  A key and a value there are a mapping of their own. -/
def readFlowItems : Nat → Bool → Reading → Except Failure (List Node × Reading)
  | 0, _, _ => Token.malformed
  | fuel + 1, isFirst, reading =>
    if reading.next = .flowSequenceEnd then .ok ([], reading.skip)
    else do
      let reading ← if isFirst then .ok reading else reading.expect .flowEntry
      if reading.next = .flowSequenceEnd then .ok ([], reading.skip)
      else do
        let (item, after) ←
          if reading.next = .key then do
            let (key, after) ←
              readPart fuel .flow (fun next => next == .value || endsFlowItem next) reading.skip
            let (value, after) ← readValue fuel .flow endsFlowItem after
            .ok (Node.mapping .map [(key, value)], after)
          else readNode fuel .flow reading
        let (items, after) ← readFlowItems fuel false after
        .ok (item :: items, after)

/-- The entries in curly brackets; a key without a value has an empty one. -/
def readFlowEntries : Nat → Bool → Reading → Except Failure (List (Node × Node) × Reading)
  | 0, _, _ => Token.malformed
  | fuel + 1, isFirst, reading =>
    if reading.next = .flowMappingEnd then .ok ([], reading.skip)
    else do
      let reading ← if isFirst then .ok reading else reading.expect .flowEntry
      if reading.next = .flowMappingEnd then .ok ([], reading.skip)
      else do
        let (entry, after) ←
          if reading.next = .key then do
            let (key, after) ←
              readPart fuel .flow (fun next => next == .value || endsFlowPart next) reading.skip
            let (value, after) ← readValue fuel .flow endsFlowPart after
            .ok ((key, value), after)
          else do
            let (key, after) ← readNode fuel .flow reading
            .ok ((key, empty), after)
        let (entries, after) ← readFlowEntries fuel false after
        .ok (entry :: entries, after)

/-- A node, unless what follows shows that it was left out. -/
def readPart : Nat → Place → (Token → Bool) → Reading → Except Failure (Node × Reading)
  | 0, _, _, _ => Token.malformed
  | fuel + 1, place, isLeftOut, reading =>
    if isLeftOut reading.next then .ok (empty, reading) else readNode fuel place reading

/-- The value behind a colon, if there is a colon. -/
def readValue : Nat → Place → (Token → Bool) → Reading → Except Failure (Node × Reading)
  | 0, _, _, _ => Token.malformed
  | fuel + 1, place, isLeftOut, reading =>
    if reading.next = .value then readPart fuel place isLeftOut reading.skip
    else .ok (empty, reading)

end

/-! ## Documents -/

/-- The handles that need no directive. -/
def usualHandles : List (String × String) := [("!", "!"), ("!!", Tag.commonSpace)]

/-- What the directives in front of a document have said. -/
structure Preamble where
  hasVersion : Bool
  handles : List (String × String)

/-- Directives: a version of one, at most once, and the meanings of handles, each once. -/
def readDirectives (preamble : Preamble) : List Token → Except Failure (Preamble × List Token)
  | .directive (.version major) :: rest =>
    if preamble.hasVersion || major ≠ 1 then Token.malformed
    else readDirectives { preamble with hasVersion := true } rest
  | .directive (.handle handle meaning) :: rest =>
    if (preamble.handles.lookup handle).isSome then Token.malformed
    else readDirectives { preamble with handles := (handle, meaning) :: preamble.handles } rest
  | .directive .other :: rest => readDirectives preamble rest
  | rest => .ok (preamble, rest)

/-- Whether a token in front of a document says that it begins with a mark. -/
def isOutside : Token → Bool
  | .directive _ | .documentStart | .streamEnd => true
  | _ => false

/-- Whether a document with a mark has no content. -/
def isContentless (token : Token) : Bool := isOutside token || token == .documentEnd

/-- Reading calls at most four functions for every token. -/
def fuelFor (tokens : List Token) : Nat := 4 * tokens.length + 8

/-- Makes sure that nothing follows a document. -/
def checkEnd (tokens : List Token) : Except Failure Unit := do
  let rest := tokens.dropWhile (· == .documentEnd)
  let next := rest.headD (.unreadable .malformed)
  if next = .streamEnd then .ok ()
  else
    let (_, rest) ← readDirectives ⟨false, []⟩ rest
    refuse (rest.headD (.unreadable .malformed))

/-- The node of a document, up to the end of the text. -/
def readDocument (handles : List (String × String)) (tokens : List Token) :
    Except Failure Node := do
  let (node, after) ← readNode (fuelFor tokens) .block ⟨tokens, [], handles⟩
  checkEnd after.left
  .ok node

/-- A document behind its mark. -/
def readMarked (tokens : List Token) : Except Failure Node := do
  let (preamble, rest) ← readDirectives ⟨false, []⟩ tokens
  match rest with
  | .documentStart :: content =>
    if isContentless (content.headD (.unreadable .malformed)) then do
      checkEnd content
      .ok empty
    else readDocument (preamble.handles ++ usualHandles) content
  | next :: _ => refuse next
  | [] => Token.malformed

/-- The node of the only document in a text; an empty text has none. -/
def ofTokens? (tokens : List Token) : Except Failure (Option Node) :=
  match tokens with
  | .streamEnd :: _ => .ok none
  | first :: _ =>
    if isOutside first then do
      let node ← readMarked tokens
      .ok (some node)
    else do
      let node ← readDocument usualHandles tokens
      .ok (some node)
  | [] => Token.malformed

end Node

end GuestFlow.Yaml
