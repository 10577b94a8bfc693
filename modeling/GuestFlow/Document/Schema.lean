import GuestFlow.Value.Record
import GuestFlow.Value.Text

/-!
# Schemas of documents

A schema says which kinds a value may have, how its items and fields look and which
fields it must have.  `Schema.issues` checks a value and lists every issue with the path
to the part it is about; `Document.problems` applies the schema of workflow documents
and puts the issues in the order of their paths.

An integer may also be written as a number without a fraction; truth values are no
integers.  Fields that a schema does not name are free.
-/

set_option autoImplicit false

namespace GuestFlow

/-- The kinds a schema tells apart. -/
inductive Shape where
  | object
  | array
  | string
  | integer
  | boolean
  | null
  deriving DecidableEq, Repr

def Shape.name : Shape → String
  | .object => "object"
  | .array => "array"
  | .string => "string"
  | .integer => "integer"
  | .boolean => "boolean"
  | .null => "null"

/-- Whether a value has a shape. -/
def Shape.fits : Shape → Value → Bool
  | .object, .record _ => true
  | .array, .list _ => true
  | .string, .text _ => true
  | .integer, .int _ => true
  | .integer, .float number => number.toInt?.isSome
  | .boolean, .bool _ => true
  | .null, .null => true
  | _, _ => false

/-- What a value has to obey.  `shapes` are the allowed ones, or empty for any; `required` and
`properties` are about records and `items` is about lists; of `alternatives`, lists of required
fields, at least one has to be met if there are any. -/
inductive Schema where
  | rules (shapes : List Shape) (nonEmpty : Bool) (items : Option Schema)
      (required : List String) (properties : List (String × Schema))
      (alternatives : List (List String))

/-- Something a value does not obey, and where. -/
structure Issue where
  path : List String
  text : String
  deriving DecidableEq, Repr

namespace Schema

/-! ## Checking a value -/

/-- An issue about a value: its text and what is wrong with it. -/
def issueAbout (path : List String) (value : Value) (complaint : String) :
    Except Fault (List Issue) := do
  let shown ← value.literal?
  .ok [⟨path, shown ++ complaint⟩]

def shapeIssues (path : List String) (value : Value) (shapes : List Shape) :
    Except Fault (List Issue) :=
  if shapes.isEmpty || shapes.any fun shape => shape.fits value then .ok []
  else issueAbout path value (" is not of type " ++
    commaSeparated (shapes.map fun shape => Quoted.quote shape.name))

def lengthIssues (path : List String) (value : Value) (nonEmpty : Bool) :
    Except Fault (List Issue) :=
  if nonEmpty && value == .text "" then issueAbout path value " should be non-empty" else .ok []

/-- The required fields that a record lacks; other values lack none. -/
def missing (required : List String) : Value → List String
  | .record entries => required.filter fun name => !Record.hasField entries name
  | _ => []

def requiredIssues (path : List String) (value : Value) (required : List String) : List Issue :=
  (missing required value).map fun name =>
    ⟨path, Quoted.quote name ++ " is a required property"⟩

def alternativeIssues (path : List String) (value : Value) (alternatives : List (List String)) :
    Except Fault (List Issue) :=
  if alternatives.isEmpty || alternatives.any fun required => (missing required value).isEmpty then
    .ok []
  else issueAbout path value " is not valid under any of the given schemas"

/-- The items of a list with their places. -/
def numberedItems : Value → List (Nat × Value)
  | .list items => (List.range items.length).zip items
  | _ => []

/-- The field of a record. -/
def fieldOf? (name : String) : Value → Option Value
  | .record entries => Record.field? entries name
  | _ => none

mutual

/-- Everything in a value that a schema objects to; a path leads from the whole document to it. -/
def issues (path : List String) (value : Value) : Schema → Except Fault (List Issue)
  | .rules shapes nonEmpty items required properties alternatives => do
    let aboutShape ← shapeIssues path value shapes
    let aboutLength ← lengthIssues path value nonEmpty
    let aboutItems ← itemIssues path value items
    let aboutFields ← propertyIssues path value properties
    let aboutAlternatives ← alternativeIssues path value alternatives
    .ok (aboutShape ++ aboutLength ++ aboutItems ++ requiredIssues path value required ++
      aboutFields ++ aboutAlternatives)

def itemIssues (path : List String) (value : Value) : Option Schema → Except Fault (List Issue)
  | none => .ok []
  | some schema => do
    let found ← (numberedItems value).mapM fun (index, item) =>
      issues (path ++ [toString index]) item schema
    .ok found.flatten

def propertyIssues (path : List String) (value : Value) :
    List (String × Schema) → Except Fault (List Issue)
  | [] => .ok []
  | (name, schema) :: rest => do
    let here ← match fieldOf? name value with
      | some field => issues (path ++ [name]) field schema
      | none => .ok []
    let later ← propertyIssues path value rest
    .ok (here ++ later)

end

/-! ## The schema of workflow documents -/

/-- A value of one of some shapes. -/
def anyOf (shapes : List Shape) : Schema := .rules shapes false none [] [] []

/-- A text that is not empty. -/
def name : Schema := .rules [.string] true none [] [] []

def optionalText : Schema := anyOf [.string, .null]

def optionalObject : Schema := anyOf [.object, .null]

def listOf (items : Schema) : Schema := .rules [.array] false (some items) [] [] []

/-- A record with required and described fields. -/
def object (required : List String) (properties : List (String × Schema)) : Schema :=
  .rules [.object] false none required properties []

def output : Schema :=
  object ["id"] [("id", name), ("label", optionalText), ("type", optionalText),
    ("target", optionalText), ("next", optionalText), ("to", optionalText)]

/-- The step inside a node of the canvas layout. -/
def step : Schema :=
  object ["type"] [("type", name), ("label", optionalText), ("config", optionalObject),
    ("outputs", listOf output), ("isEntry", anyOf [.boolean])]

/-- A node names its kind itself or holds a step that does. -/
def node : Schema :=
  .rules [.object] false none ["id"] [("id", name), ("type", name), ("label", optionalText),
    ("config", optionalObject), ("outputs", listOf output), ("isEntry", anyOf [.boolean]),
    ("is_entry", anyOf [.boolean]), ("data", step)] [["type"], ["data"]]

def edge : Schema :=
  object ["source", "target"] [("source", name), ("target", name), ("sourceHandle", optionalText)]

def workflow : Schema :=
  object ["steps"] [("id", anyOf [.string, .integer]), ("name", optionalText),
    ("description", optionalText), ("version", optionalText), ("flowType", optionalText),
    ("metadata", optionalObject),
    ("steps", object ["nodes"] [("nodes", listOf node), ("edges", listOf edge)])]

end Schema

/-! ## Problems of a document -/

namespace Document

/-- An issue as one line: its path, or that it is about the whole document, and its text. -/
def issueLine (issue : Issue) : String :=
  (if issue.path.isEmpty then "root" else String.intercalate "." issue.path) ++ ": " ++ issue.text

/-- Issues in the order of their paths; issues at one place keep their order. -/
def sortIssues (issues : List Issue) : List Issue :=
  issues.mergeSort fun left right => !decide (right.path < left.path)

/-- Everything that keeps a value from being a workflow document. -/
def problems (document : Value) : Except Fault (List String) :=
  (Schema.issues [] document Schema.workflow).map fun issues => (sortIssues issues).map issueLine

/-- Problems as an indented list, cut after `most` of them if a number other than zero is given;
a negative number counts from the end. -/
def listProblems (problems : List String) (most : Option Int) : String :=
  let lines (shown : List String) : String :=
    String.intercalate "\n" (shown.map fun problem => "  - " ++ problem)
  let count : Int := problems.length
  if problems.isEmpty then "No validation errors"
  else match most with
    | some limit =>
      if limit ≠ 0 && decide (limit < count) then
        let kept := if limit < 0 then (count + limit).toNat else limit.toNat
        "Validation errors:\n" ++ lines (problems.take kept) ++ "\n  ... and " ++
          toString (count - limit) ++ " more errors"
      else "Validation errors:\n" ++ lines problems
    | none => "Validation errors:\n" ++ lines problems

end Document

end GuestFlow
