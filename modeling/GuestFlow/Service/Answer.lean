import GuestFlow.Engine.Run
import GuestFlow.Store.Definitions
import GuestFlow.Store.Sessions

/-!
# What the service answers

Answers are JSON.  Values that JSON does not know are written as texts, collections of
every kind as lists, and numbers that are infinite or none as nothing.  Values of any form
may be nested in an answer only so deep (`deepest`).

The service keeps no clock.  Where an answer is to give a time it holds `timeMark`, and
whoever sends it puts the time there.
-/

set_option autoImplicit false

namespace GuestFlow.Service

/-- What stands in an answer where the time belongs. -/
def timeMark : Value := .bool true

/-! ## Values as JSON -/

/-- The international notation of a moment; universal time has a letter. -/
def momentText (moment : Calendar.Moment) : String :=
  if moment.offset = some 0 then { moment with offset := none }.textWith "T" ++ "Z"
  else moment.textWith "T"

def bytesText (content : List UInt8) : Except Fault String :=
  match Utf8.decode content with
  | .ok characters => .ok (String.ofList characters)
  | .error complaint => .error (.notUtf8 complaint.message)

mutual

/-- A value inside a key. -/
def keyText : Value → Except Fault String
  | .null => .ok "None"
  | .bool flag => .ok (if flag then "true" else "false")
  | .int number =>
    if Value.fitsLimit number then .ok (toString number) else .error (.tooManyDigits none)
  | .float number => .ok number.text
  | .text characters => .ok characters
  | .bytes content => bytesText content
  | .date day => .ok day.text
  | .moment instant => .ok (momentText instant)
  | .tuple items => do
    let texts ← keyTexts items
    .ok (String.intercalate "," texts)
  | value => .error (.unwritableKey value.kind)

def keyTexts : List Value → Except Fault (List String)
  | [] => .ok []
  | item :: rest => do
    let text ← keyText item
    let texts ← keyTexts rest
    .ok (text :: texts)

end

/-- How deep the values in a record of an answer may be nested. -/
def deepest : Nat := 255

mutual

/-- A value as JSON knows it; it may be nested only so deep. -/
def jsonValue : Nat → Value → Except Fault Value
  | 0, _ => .error .nestedTooDeep
  | _ + 1, .int number =>
    if Value.fitsLimit number then .ok (.int number) else .error (.tooManyDigits none)
  | _ + 1, .float number =>
    match number with
    | .finite .. => .ok (.float number)
    | _ => .ok .null
  | _ + 1, .bytes content => (bytesText content).map .text
  | _ + 1, .date day => .ok (.text day.text)
  | _ + 1, .moment instant => .ok (.text (momentText instant))
  | room + 1, .list items => (jsonItems room items).map .list
  | room + 1, .tuple items => (jsonItems room items).map .list
  | room + 1, .set items => (jsonItems room items).map .list
  | room + 1, .record entries => do
    let entries ← jsonEntries room entries
    .ok (.record (Record.ofEntries entries))
  | _ + 1, value => .ok value

def jsonItems : Nat → List Value → Except Fault (List Value)
  | _, [] => .ok []
  | room, item :: rest => do
    let item ← jsonValue room item
    let items ← jsonItems room rest
    .ok (item :: items)

def jsonEntries : Nat → List (Value × Value) → Except Fault (List (Value × Value))
  | _, [] => .ok []
  | room, (key, value) :: rest => do
    let key ← keyText key
    let value ← jsonValue room value
    let entries ← jsonEntries room rest
    .ok ((.text key, value) :: entries)

end

/-- A record that an answer holds as such; its own keys have to be texts. -/
def jsonRecord (record : Record) : Except Fault Value :=
  match record.keys.find? fun key => key.kind != "str" with
  | some key => .error (.unwritableKey key.kind)
  | none => jsonValue (deepest + 1) (.record record)

/-! ## Definitions -/

def count (number : Nat) : Value := .int number

/-- The fields of a definition in brief. -/
def summaryFields (definition : Definition) : Except Fault (List (String × Value)) := do
  let entry ← match Graph.ofDefinition definition with
    | .ok graph => .ok (Value.text graph.entryId)
    | .error fault => if fault.isDefinitionFault then .ok Value.null else .error fault
  .ok [
    ("id", .text definition.id), ("name", .text definition.name),
    ("version", .text definition.version), ("description", optionalText definition.description),
    ("flow_type", optionalText definition.flowType),
    ("node_count", count definition.nodes.length), ("entry_node_id", entry)]

def summary (definition : Definition) : Except Fault Value := do
  let fields ← summaryFields definition
  .ok (.record (Record.ofFields fields))

def nodeAnswer (node : Node) : Except Fault Value := do
  let config ← jsonRecord node.config
  .ok (.record (Record.ofFields [
    ("id", .text node.id), ("type", .text node.kind), ("label", .text node.label),
    ("config", config), ("is_entry", .bool node.isEntry),
    ("outputs", .list (node.outputs.map Output.toDocument))]))

/-- A definition with its nodes. -/
def detail (definition : Definition) : Except Fault Value := do
  let fields ← summaryFields definition
  let nodes ← definition.nodes.mapM nodeAnswer
  let metadata ← jsonRecord definition.metadata
  .ok (.record (Record.ofFields (fields ++ [("nodes", .list nodes), ("metadata", metadata)])))

/-! ## Sessions -/

/-- The state of a session. -/
def sessionAnswer (session : Session) : Except Fault Value := do
  let machine := session.runner.machine
  let run := machine.run
  let data ← jsonRecord run.data
  let history ← run.history.reverse.mapM HistoryEntry.toDocument
  let metadata ← jsonRecord session.metadata
  .ok (.record (Record.ofFields [
    ("id", .text session.id), ("definition_id", .text session.definitionId),
    ("event_id", .text session.eventId), ("status", .text run.status.name),
    ("current_node_id", optionalText run.current),
    ("current_node_type", optionalText (machine.currentNode.map Node.kind)),
    ("activation", count machine.activation), ("can_go_back", .bool run.canGoBack),
    ("collected_data", data), ("history", .list history), ("error", optionalText run.error),
    ("created_at", timeMark), ("updated_at", timeMark), ("metadata", metadata)]))

def eventAnswer (event : Event) : Except Fault Value := do
  let data ← jsonRecord event.data
  .ok (.record (Record.ofFields [
    ("type", .text event.kind.name), ("sequence", count event.sequence),
    ("node_id", optionalText event.node), ("output_id", optionalText event.output),
    ("next_node_id", optionalText event.next), ("data", data),
    ("error", optionalText event.error), ("timestamp", timeMark)]))

/-- The events of the current run. -/
def eventsAnswer (session : Session) : Except Fault Value := do
  let events ← session.runner.machine.events.mapM eventAnswer
  .ok (.list events)

end GuestFlow.Service
