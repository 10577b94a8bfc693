import GuestFlow.Console.Command
import GuestFlow.Proofs.Document.Parts
import GuestFlow.Proofs.Document.RoundTrip
import GuestFlow.Proofs.Graph
import GuestFlow.Proofs.Json.Writing
import GuestFlow.Proofs.Script.File
import GuestFlow.Proofs.Yaml.Failure

/-!
# Printed definitions

The console prints a definition as JSON.  What is printed is read as the definition again exactly
if JSON can say the free parts of it, which are the configurations of its steps and its metadata
(`printed_definitions_read_back`).  That is so for every definition that comes from a JSON file.

From YAML more can come.  A date, bytes or a set cannot be written, and the command breaks off
(`Value.IsPrintable`); and a tuple or a key that is a number is written as something else, so that
another definition is read.

Two kinds of files are left out.  An alias that stands inside its own node makes a value without end
(`Document.fileIsFinite`), which cannot be written either but is no value here.  And texts are of
whole characters: an escape may spell half of a surrogate pair alone, which is read as a replacement
character (`Json.loneHalf`), and two halves that meet in YAML are joined (`Yaml.Flow.joinPieces`).
-/

set_option autoImplicit false

namespace GuestFlow

/-! ## The free parts in the document -/

namespace Value

theorem isHereditary_isPrintable : IsHereditary IsPrintable where
  empty := IsJson.empty.isPrintable
  field printable there := by
    cases printable with
    | record _ each =>
        obtain ⟨stored, member⟩ := Record.mem_of_get? there
        exact each _ member
  item printable := by
    cases printable with
    | list each => exact each

end Value

theorem Json.isInductive_isPrintable : IsInductive Value.IsPrintable where
  null := .null
  bool := .bool
  int := .int
  float {number} _ := .float number
  text := .text
  list := .list
  record {entries} each := by
    have all := @Record.forall_update Value.HasName Value.IsPrintable [] entries
      (fun _ member => nomatch member) fun entry member => by
        obtain ⟨⟨name, named⟩, printable⟩ := each entry member
        exact ⟨named ▸ .text name, printable⟩
    exact .record (fun entry member => (all entry member).1) fun entry member =>
      (all entry member).2

/-- A property of all parts holds of the free parts of a definition exactly if it holds of the
document that the definition is written as. -/
theorem Definition.IsNamed.free_iff {definition : Definition} (named : definition.IsNamed)
    {Holds : Value → Prop} (hereditary : Value.IsHereditary Holds)
    (inductively : Json.IsInductive Holds) :
    definition.Free Holds ↔ Holds definition.toDocument := by
  refine ⟨Definition.Free.toDocument inductively, fun whole => ?_⟩
  -- The document is read back, and with it the free parts.
  have free := Document.free_of_definition hereditary whole
    (Document.definition_toDocument named ⟨0⟩)
  refine ⟨free.metadata, fun node member => ?_⟩
  exact free.configs node.withoutMetadata (List.mem_map_of_mem member)

/-! ## Values of files -/

namespace Document

theorem readJson_eq_ok_iff {text : String} {value : Value} :
    readJson text = .ok value ↔ Json.read text = .ok value := by
  unfold readJson
  split <;> simp [*]

theorem readYaml_eq_ok_iff {text : String} {value : Value} :
    readYaml text = .ok value ↔ Yaml.read text = .ok value := by
  unfold readYaml
  split <;> simp [*]

/-- What a file holds was read from a text. -/
theorem exists_of_fileValue {tree : Tree} {path : Path} {value : Value}
    (held : fileValue tree path = .ok value) :
    ∃ form text, Form.ofSuffix? (plainSuffix path) = some form ∧ form.read text = .ok value := by
  unfold fileValue at held
  dsimp only at held
  split at held
  · cases held
  · rename_i form known
    obtain ⟨text, _, read⟩ := bind_eq_ok_iff.mp held
    exact ⟨form, text, known, read⟩

theorem isSound_of_fileValue {tree : Tree} {path : Path} {value : Value}
    (held : fileValue tree path = .ok value) : value.IsSound := by
  obtain ⟨form, text, -, read⟩ := exists_of_fileValue held
  cases form with
  | yaml =>
      have sound := Yaml.read_sound text
      rw [readYaml_eq_ok_iff.mp read] at sound
      exact sound.of_ok
  | json => exact Json.isSound_of_read (readJson_eq_ok_iff.mp read)

theorem isJson_of_fileValue {tree : Tree} {path : Path} (suffix : plainSuffix path = "json")
    {value : Value} (held : fileValue tree path = .ok value) : value.IsJson := by
  obtain ⟨form, text, known, read⟩ := exists_of_fileValue held
  rw [suffix] at known
  cases known
  exact Json.isJson_of_read (readJson_eq_ok_iff.mp read)

/-- The definition in a file is that of the value in it. -/
theorem exists_of_readPath {tree : Tree} {path : Path} {supply : IdSupply}
    {result : Definition × IdSupply} (read : (readPath tree supply path).2 = .ok result) :
    ∃ value, fileValue tree path = .ok value ∧ Document.definition supply value = .ok result := by
  rw [readPath_result] at read
  cases held : fileValue tree path with
  | error fault =>
      rw [held] at read
      cases read
  | ok value =>
      rw [held] at read
      exact ⟨value, rfl, read⟩

/-- A JSON file is read as its text is, if no line of the text ends in a carriage return. -/
theorem readPath_json {tree : Tree} {path : Path} {bytes : List UInt8} {text : String}
    (suffix : plainSuffix path = "json") (named : path.hasNull = false)
    (held : tree.content path = .ok bytes) (spells : Utf8.decode bytes = .ok text.toList)
    (noReturn : '\r' ∉ text.toList) (supply : IdSupply) :
    (readPath tree supply path).2 = (readResult supply (readJson text)).2 := by
  have same := Script.plainLines_append noReturn []
  rw [Utf8.plainLines, List.append_nil] at same
  rw [readPath_result, fileValue_json suffix named held spells, same, String.ofList_toList]

end Document

namespace Console

variable {tree : Tree} {path : Path}

/-! ## Commands on a file -/

theorem complain_code (heading : String) (fault : Fault) : (complain heading fault).code = 1 := by
  unfold complain
  split <;> rfl

/-- A file that is accepted holds a definition that gives a graph. -/
theorem exists_graph_of_validate {text : String} (accepted : (validate tree text path).code = 0) :
    ∃ graph, loadGraph tree path = .ok graph := by
  unfold validate at accepted
  split at accepted
  · rw [complain_code] at accepted
    cases accepted
  · rename_i graph loaded
    exact ⟨graph, loaded⟩

section Loaded

variable {graph : Graph} (loaded : loadGraph tree path = .ok graph)

include loaded

theorem exists_readPath_of_loadGraph :
    ∃ later, (Document.readPath tree ⟨0⟩ path).2 = .ok (graph.definition, later) := by
  obtain ⟨⟨definition, later⟩, read, built⟩ := bind_eq_ok_iff.mp loaded
  obtain ⟨-, _, _, -, rfl⟩ := Graph.ofDefinition_eq_ok built
  exact ⟨later, read⟩

theorem inspect_eq : inspect tree path true =
    match Json.write .page graph.definition.toDocument with
    | .ok text => .said (text ++ "\n")
    | .error fault => .broken "" fault := by
  unfold inspect
  rw [loaded]
  rfl

theorem inspect_of_write {text : String}
    (written : Json.write .page graph.definition.toDocument = .ok text) :
    inspect tree path true = .said (text ++ "\n") := by
  rw [inspect_eq loaded, written]

/-- The command succeeds if the document can be written. -/
theorem inspect_code_eq_zero_iff : (inspect tree path true).code = 0 ↔
    graph.definition.toDocument.IsPrintable := by
  rw [← Json.exists_write_iff, inspect_eq loaded]
  change _ ↔ ∃ text, Json.write .page graph.definition.toDocument = .ok text
  generalize Json.write .page graph.definition.toDocument = written
  cases written with
  | ok text => exact iff_of_true rfl ⟨text, rfl⟩
  | error fault => exact iff_of_false Nat.one_ne_zero fun ⟨_, same⟩ => nomatch same

end Loaded

/-- The reply is a success, and its output is read as JSON as a definition with this document. -/
structure Reply.PrintsBack (reply : Reply) (document : Value) : Prop where
  code_eq : reply.code = 0
  reads : ∃ copy : Definition, copy.toDocument = document ∧ ∀ supply,
    (Document.readResult supply (Document.readJson reply.output)).2 = .ok (copy, supply)

/-- What is read from JSON has a document that JSON can say. -/
theorem Reply.PrintsBack.isJson {reply : Reply} {document : Value}
    (back : reply.PrintsBack document) : document.IsJson := by
  obtain ⟨copy, rfl, reads⟩ := back.reads
  have read := reads ⟨0⟩
  cases told : Document.readJson reply.output with
  | error fault =>
      rw [told] at read
      cases read
  | ok value =>
      rw [told] at read
      have said := Json.isJson_of_read (Document.readJson_eq_ok_iff.mp told)
      exact (Document.free_of_definition Value.isHereditary_isJson said read).toDocument
        Json.isInductive_isJson

/-- A sound document that JSON can say is printed so that it is read back. -/
theorem printsBack_of_isJson {graph : Graph} (loaded : loadGraph tree path = .ok graph)
    (named : graph.definition.IsNamed) (said : graph.definition.toDocument.IsJson)
    (sound : graph.definition.toDocument.IsSound) :
    (inspect tree path true).PrintsBack graph.definition.toDocument ∧
      '\r' ∉ (inspect tree path true).output.toList := by
  obtain ⟨text, written⟩ := Json.exists_write_iff.mpr said.isPrintable
  have writes := Json.writes_of_write said sound written
  have read : Document.readJson (text ++ "\n") = .ok graph.definition.toDocument := by
    rw [Document.readJson_eq_ok_iff, ← writes.spells.read_eq [] [.lineFeed]]
    refine congrArg Json.read (String.toList_inj.mp ?_)
    rw [String.toList_ofList, String.toList_append]
    rfl
  rw [inspect_of_write loaded written]
  refine ⟨⟨rfl, _, graph.definition.toDocument_withoutNodeMetadata, fun supply => ?_⟩, ?_⟩
  · rw [Reply.said, read]
    exact Document.definition_toDocument named supply
  · rw [Reply.said, String.toList_append, List.mem_append, not_or]
    exact ⟨writes.noReturn, by decide⟩

/-- **A definition is printed exactly if its free parts can be written, and what is printed is read
as the definition again exactly if JSON can say them.**  So it is for every accepted JSON file.  In
YAML files no alias may stand inside its own node; and texts are of whole characters, without lone
halves of surrogate pairs. -/
theorem printed_definitions_read_back {text : String}
    (_finite : Document.fileIsFinite tree path = true)
    (accepted : (validate tree text path).code = 0) :
    ∃ definition later, (Document.readPath tree ⟨0⟩ path).2 = .ok (definition, later) ∧
      ((inspect tree path true).code = 0 ↔ definition.Free Value.IsPrintable) ∧
      ((inspect tree path true).PrintsBack definition.toDocument ↔
        definition.Free Value.IsJson) ∧
      (definition.Free Value.IsJson → ∀ (drawer : Tree) (file : Path) (bytes : List UInt8),
        Document.plainSuffix file = "json" → file.hasNull = false →
        drawer.content file = .ok bytes →
        Utf8.decode bytes = .ok (inspect tree path true).output.toList →
        ∃ copy, (Document.readPath drawer ⟨0⟩ file).2 = .ok (copy, ⟨0⟩) ∧
          copy.toDocument = definition.toDocument) ∧
      (Document.plainSuffix path = "json" → definition.Free Value.IsJson) := by
  obtain ⟨graph, loaded⟩ := exists_graph_of_validate accepted
  obtain ⟨later, read⟩ := exists_readPath_of_loadGraph loaded
  obtain ⟨value, held, described⟩ := Document.exists_of_readPath read
  have named := Document.isNamed_of_definition described
  have sound := (Document.free_of_definition Value.isHereditary_isSound
    (Document.isSound_of_fileValue held) described).toDocument Json.isInductive_isSound
  have printable := named.free_iff Value.isHereditary_isPrintable Json.isInductive_isPrintable
  have sayable := named.free_iff Value.isHereditary_isJson Json.isInductive_isJson
  have prints (free : graph.definition.Free Value.IsJson) :=
    printsBack_of_isJson loaded named (sayable.mp free) sound
  refine ⟨graph.definition, later, read, ?_, ⟨fun back => sayable.mpr back.isJson, fun free =>
    (prints free).1⟩, ?_, fun suffix => ?_⟩
  · rw [printable, inspect_code_eq_zero_iff loaded]
  · intro free drawer file bytes suffix noNull content spells
    obtain ⟨back, noReturn⟩ := prints free
    obtain ⟨copy, same, reads⟩ := back.reads
    refine ⟨copy, ?_, same⟩
    rw [Document.readPath_json suffix noNull content spells noReturn]
    exact reads ⟨0⟩
  · exact Document.free_of_definition Value.isHereditary_isJson
      (Document.isJson_of_fileValue suffix held) described

end Console

namespace Booth

/-- The printed page of a definition is read back as the definition. -/
theorem powerful_prints_back :
    (Console.validate (drawer powerful) "booth.json" leafletFile).code = 0 ∧
      ∃ definition later,
        (Document.readPath (drawer powerful) ⟨0⟩ leafletFile).2 = .ok (definition, later) ∧
        (Console.inspect (drawer powerful) leafletFile true).PrintsBack definition.toDocument := by
  have accepted : (Console.validate (drawer powerful) "booth.json" leafletFile).code = 0 := by
    decide +kernel
  obtain ⟨definition, later, read, -, back, -, json⟩ :=
    Console.printed_definitions_read_back (by decide +kernel) accepted
  exact ⟨accepted, definition, later, read, back.mpr (json (by decide +kernel))⟩

/-- An alias inside its own node makes a file without end, and an alias behind it does not. -/
example : Yaml.isFinite "config: &page {back: *page}" = false ∧
    Yaml.isFinite "config: &page {}\nmetadata: *page" = true := by
  decide +kernel

/-- The step of this workflow was set up on a day, which YAML takes for a date. -/
def dated : List Char :=
  ("id: booth\nname: Photo booth\nsteps:\n  nodes:\n  - id: touch\n    type: TOUCH_TO_START\n" ++
    "    config:\n      day: 2024-05-01\n").toList

def datedShelf : Tree := .ofEntries [("booth.yaml", .file (bytesOf dated))]

def datedFile : Path := .ofText "booth.yaml"

/-- **A definition with a date is valid and cannot be printed.** -/
theorem dated_definition_breaks_off :
    (Console.validate datedShelf "booth.yaml" datedFile).code = 0 ∧
      (Console.inspect datedShelf datedFile true).code = 1 ∧
      (Console.inspect datedShelf datedFile true).fault = some (.unwritable "date") := by
  decide +kernel

end Booth

end GuestFlow
