import GuestFlow.Document.Edges
import GuestFlow.Document.Schema
import GuestFlow.Journal

/-!
# Reading workflow documents

A document is a record, perhaps wrapped in a field `workflow`.  Its nodes come in two
layouts, which may be mixed: in the plain layout a node describes its step itself, in
the canvas layout the step stands in the field `data` and the connections are edges.

`Document.read` checks a document against the schema, reads the nodes and binds the
edges.  It has a supply of fresh ids for documents without one; a fresh id is used only
when everything else went well.
-/

set_option autoImplicit false

namespace GuestFlow

/-- A supply of fresh ids; `used` counts those that were given out. -/
structure IdSupply where
  used : Nat
  deriving DecidableEq, Repr

/-- The next fresh id of a definition, and the supply after it. -/
def IdSupply.fresh (supply : IdSupply) : String × IdSupply :=
  ("generated-" ++ toString (supply.used + 1), ⟨supply.used + 1⟩)

namespace Document

/-! ## Fields -/

/-- The text of a field; a field that is missing, null or no text reads as empty. -/
def textField (record : Record) (name : String) : String :=
  match record.field name with
  | .text characters => characters
  | _ => ""

/-- The text of a field, or another text where it would be empty. -/
def textFieldOr (record : Record) (name usual : String) : String :=
  let found := textField record name
  if found = "" then usual else found

def optionalField (record : Record) (name : String) : Option String :=
  match record.field name with
  | .text characters => some characters
  | _ => none

def listField (record : Record) (name : String) : List Value :=
  match record.field name with
  | .list items => items
  | _ => []

def recordField (record : Record) (name : String) : Record :=
  match record.field name with
  | .record entries => entries
  | _ => []

/-- The record that a value is, or the empty one. -/
def asRecord : Value → Record
  | .record entries => entries
  | _ => []

/-- The first of some fields that is there at all decides, even when it is null. -/
def firstField (record : Record) : List String → Value
  | [] => .null
  | name :: rest => (record.field? name).getD (firstField record rest)

/-! ## Nodes -/

def readOutput (data : Record) : Output where
  id := textField data "id"
  label := textField data "label"
  kind := textFieldOr data "type" defaultOutput
  target := match firstField data ["target", "next", "to"] with
    | .text characters => some characters
    | _ => none

/-- Fields of a canvas step that describe the node; all others are metadata. -/
def stepFields : List String := ["type", "label", "config", "outputs", "isEntry"]

def isStepField : Value → Bool
  | .text characters => stepFields.contains characters
  | _ => false

/-- The entries of a record that a field adds, if the record `data` has that field. -/
def carryField (data : Record) (name newName : String) (metadata : Record) : Record :=
  match data.field? name with
  | some value => metadata.insert (.text newName) value
  | none => metadata

/-- A node whose step stands in its field `data`; the node's own kind names a widget. -/
def readCanvasNode (data step : Record) : Node where
  id := textField data "id"
  kind := textField step "type"
  label := textField step "label"
  config := recordField step "config"
  outputs := match step.field? "outputs" with
    | some (.list items) => items.map fun item => readOutput (asRecord item)
    | _ => [⟨defaultOutput, "", defaultOutput, none⟩]
  isEntry := ((step.field? "isEntry").getD (data.field "isEntry")).isTruthy
  metadata := carryField data "type" "canvasType" (carryField data "position" "position"
    (step.filter fun entry => !isStepField entry.1))

/-- A node that describes its step itself. -/
def readPlainNode (data : Record) : Except Fault Node := do
  let metadata ← Record.ofOptional (data.field "metadata")
  .ok {
    id := textField data "id"
    kind := textField data "type"
    label := textField data "label"
    config := recordField data "config"
    outputs := (listField data "outputs").map fun item => readOutput (asRecord item)
    isEntry := (firstField data ["isEntry", "is_entry"]).isTruthy
    metadata }

def readNode (data : Record) : Except Fault Node :=
  match data.field "data" with
  | .record step => .ok (readCanvasNode data step)
  | _ => readPlainNode data

def readEdge (data : Record) : Edge where
  source := textField data "source"
  handle := textFieldOr data "sourceHandle" defaultOutput
  target := textField data "target"

/-! ## Documents -/

/-- The document inside a field `workflow`, if that field holds a record. -/
def unwrap (document : Record) : Record :=
  match document.field "workflow" with
  | .record inner => inner
  | _ => document

/-- The id a document gives; nothing where it counts as false. -/
def givenId? (document : Record) : Except Fault (Option String) :=
  let given := document.field "id"
  if given.isTruthy then given.text?.map some else .ok none

/-- The nodes of a checked document with its edges bound. -/
def readNodes (document : Record) : Except Fault (List Node) := do
  let steps := recordField document "steps"
  let nodes ← (listField steps "nodes").mapM fun item => readNode (asRecord item)
  let edges := (listField steps "edges").map fun item => readEdge (asRecord item)
  let progress := Edge.bindAll nodes edges
  if progress.problems.isEmpty then .ok progress.nodes
  else .error (.invalidDefinition
    ("Workflow edges are invalid: " ++ String.intercalate "; " progress.problems)
    progress.problems)

/-- The definition of a checked document. -/
def readChecked (supply : IdSupply) (document : Record) : Except Fault (Definition × IdSupply) := do
  let nodes ← readNodes document
  let given ← givenId? document
  let (id, supply) := match given with
    | some id => (id, supply)
    | none => supply.fresh
  .ok ({
    id
    name := textField document "name"
    description := optionalField document "description"
    nodes
    version := textFieldOr document "version" "1.0.0"
    flowType := optionalField document "flowType"
    metadata := recordField document "metadata" }, supply)

/-- The definition a value describes, or why it describes none. -/
def definition (supply : IdSupply) (value : Value) : Except Fault (Definition × IdSupply) :=
  match value with
  | .record entries => do
    let document := unwrap entries
    let found ← problems (.record document)
    if found.isEmpty then readChecked supply document
    else .error (.invalidDefinition
      ("Workflow document is invalid: " ++ String.intercalate "; " found) found)
  | other => .error (.unreadable ("Workflow document must be a mapping, got " ++ other.kind))

/-- The journal lines of reading a value. -/
def readingJournal (value : Value) (result : Except Fault (Definition × IdSupply)) : Journal :=
  match result with
  | .ok (definition, _) =>
    [.debug ("Parsed workflow definition " ++ quoted definition.id ++ " with " ++
      toString definition.nodes.length ++ " nodes")]
  | .error _ =>
    match value with
    | .record entries =>
      match problems (.record (unwrap entries)) with
      | .ok [] => []
      | .ok found =>
        [.debug ("Workflow document failed schema validation with " ++ toString found.length ++
          " errors")]
      | .error _ => []
    | _ => []

/-- Reads a value and keeps the journal. -/
def read (supply : IdSupply) (value : Value) : Logged (Definition × IdSupply) :=
  let result := definition supply value
  (readingJournal value result, result)

end Document

end GuestFlow
