import GuestFlow.Document.Reading
import GuestFlow.File.Tree
import GuestFlow.Json.Reader
import GuestFlow.Text.Letter
import GuestFlow.Text.Utf8
import GuestFlow.Yaml.Reader

/-!
# Where documents come from

A document can be given as a value, as YAML text, or as the path of a file in YAML or
JSON.  The suffix of a file says what it holds.  A text that has the suffix of such a
file, or names a file that is there, is taken for a path.

Reading a file leaves a line in the journal.
-/

set_option autoImplicit false

namespace GuestFlow.Document

/-- The forms in which documents are written. -/
inductive Form where
  | yaml
  | json
  deriving DecidableEq, Repr

/-- The form that a suffix without its dot stands for. -/
def Form.ofSuffix? (suffix : String) : Option Form :=
  if suffix = "yaml" || suffix = "yml" then some .yaml
  else if suffix = "json" then some .json
  else none

/-- The suffix of a path in small letters, without its dot. -/
def plainSuffix (path : Path) : String := ((Letter.small path.suffix).drop 1).toString

def readYaml (text : String) : Except Fault Value :=
  match Yaml.read text with
  | .ok value => .ok value
  | .error .malformed => .error (.unreadable "Failed to parse YAML")
  | .error (.fault fault) => .error fault

def readJson (text : String) : Except Fault Value :=
  match Json.read text with
  | .ok value => .ok value
  | .error (.malformed complaint left) =>
    .error (.unreadable ("Failed to parse JSON: " ++
      Json.complaintMessage text.toList complaint left))
  | .error (.number fault) => .error fault

def Form.read : Form → String → Except Fault Value
  | .yaml => readYaml
  | .json => readJson

/-- Whether a text in a form describes a value that comes to an end. -/
def Form.isFinite : Form → String → Bool
  | .yaml => Yaml.isFinite
  | .json => fun _ => true

/-- The text of a file. -/
def fileText (tree : Tree) (path : Path) : Except Fault String :=
  if path.hasNull then .error .nullInPath
  else match tree.content path with
    | .error obstacle =>
      .error (.unreadable ("Cannot read workflow file " ++ path.text ++ ": " ++
        obstacle.message path))
    | .ok bytes =>
      match Utf8.decode bytes with
      | .ok characters => .ok (String.ofList (Utf8.plainLines characters))
      | .error complaint => .error (.notUtf8 complaint.message)

/-- The value that a file holds. -/
def fileValue (tree : Tree) (path : Path) : Except Fault Value :=
  let suffix := plainSuffix path
  match Form.ofSuffix? suffix with
  | none =>
    .error (.unreadable ("Unsupported file format: " ++
      if suffix = "" then path.name else suffix))
  | some form => do
    let text ← fileText tree path
    form.read text

/-- Whether a file describes a value that comes to an end. -/
def fileIsFinite (tree : Tree) (path : Path) : Bool :=
  match Form.ofSuffix? (plainSuffix path), fileText tree path with
  | some form, .ok text => form.isFinite text
  | _, _ => true

/-- Reads a value that may have failed to come. -/
def readResult (supply : IdSupply) : Except Fault Value → Logged (Definition × IdSupply)
  | .ok value => read supply value
  | .error fault => ([], .error fault)

/-- Reads a file. -/
def readPath (tree : Tree) (supply : IdSupply) (path : Path) : Logged (Definition × IdSupply) :=
  let (journal, result) := readResult supply (fileValue tree path)
  match result with
  | .ok (definition, _) =>
    (journal ++ [.info ("Loaded workflow definition " ++ quoted definition.id ++ " from " ++
      path.text)], result)
  | .error _ => (journal, result)

/-- Reads a text. -/
def readText (supply : IdSupply) (text : String) : Logged (Definition × IdSupply) :=
  readResult supply (readYaml text)

/-- The most characters of a text that may be a path. -/
def pathLimit : Nat := 4096

/-- Whether a text is taken for a path. -/
def looksLikePath (tree : Tree) (text : String) : Bool :=
  let path := Path.ofText text
  !text.toList.contains '\n' && text.length ≤ pathLimit &&
    ((Form.ofSuffix? (plainSuffix path)).isSome || tree.isFile path)

/-- Reads a document in any form: a record, a text, or a text that is a path. -/
def readAny (tree : Tree) (supply : IdSupply) (source : Value) : Logged (Definition × IdSupply) :=
  match source with
  | .record _ => read supply source
  | .text text =>
    if looksLikePath tree text then readPath tree supply (Path.ofText text)
    else readText supply text
  | other => ([], .error (.unreadable ("Unsupported source type: " ++ other.kind)))

end GuestFlow.Document
