import GuestFlow.Value.Record

/-!
# Workflow definitions

A workflow is a list of steps.  A step, here a node, has a kind, a configuration that
is free in form, and outputs: named exits, each of which leads to another node or out
of the workflow.  Definitions say nothing about where a run stands; they do not change
while it goes on.

`Definition.toDocument` writes a definition in the plain document layout, which can be
read back.
-/

set_option autoImplicit false

namespace GuestFlow

/-- A named exit of a node; without a target it leads out of the workflow. -/
structure Output where
  id : String
  label : String
  kind : String
  target : Option String
  deriving DecidableEq

structure Node where
  id : String
  kind : String
  label : String
  config : Record
  outputs : List Output
  isEntry : Bool
  metadata : Record
  deriving DecidableEq

structure Definition where
  id : String
  name : String
  description : Option String
  nodes : List Node
  version : String
  flowType : Option String
  metadata : Record
  deriving DecidableEq

/-- The id and the kind of the output that is used where none is named. -/
def defaultOutput : String := "default"

/-! ## Kinds of nodes -/

namespace Kind

def condition : String := "CONDITION"

def delay : String := "DELAY"

def touchToStart : String := "TOUCH_TO_START"

/-- Kinds that begin like this start a workflow. -/
def triggerBeginning : String := "TRIGGER_"

/-- The kinds the library knows about; others are allowed. -/
def known : List String := [
  "TRIGGER_MANUAL", "TRIGGER_PHOTO_UPLOAD", "TRIGGER_QR_SCAN", "TRIGGER_TIMER",
  "TRIGGER_EVENT_STATE", touchToStart, condition, delay, "LOOP", "BEFORE_COUNTDOWN", "COUNTDOWN",
  "COMPLIMENT", "AFTER_SHARE", "TAKE_PHOTO", "SELECTION_SCREEN", "DIGITAL_GRAFFITI", "FOTO_SPIEL",
  "LEAD_COLLECTION", "FACE_SEARCH", "AI_MODIFY", "EMAIL_SHARE", "SMS_SHARE", "QR_CODE", "PRINT",
  "LED_RING"]

def isKnown (kind : String) : Bool := known.contains kind

/-- Whether nodes of a kind start a workflow. -/
def isTrigger (kind : String) : Bool :=
  triggerBeginning.toList.isPrefixOf kind.toList || kind == touchToStart

end Kind

/-! ## Nodes -/

namespace Node

def isTrigger (node : Node) : Bool := Kind.isTrigger node.kind

def isCondition (node : Node) : Bool := node.kind == Kind.condition

/-- A node without outputs ends the workflow through any exit. -/
def isTerminal (node : Node) : Bool := node.outputs.isEmpty

/-- The first output with an id. -/
def output? (node : Node) (id : String) : Option Output :=
  node.outputs.find? fun output => output.id == id

def hasOutput (node : Node) (id : String) : Bool := (node.output? id).isSome

def outputIds (node : Node) : List String := node.outputs.map Output.id

/-- Whether a completion through an output is one the node allows. -/
def allows (node : Node) (output : String) : Bool := node.isTerminal || node.hasOutput output

end Node

/-! ## Documents -/

/-- A text that may be missing, as a value. -/
def optionalText : Option String → Value
  | none => .null
  | some text => .text text

def Output.toDocument (output : Output) : Value :=
  .record (Record.ofFields [
    ("id", .text output.id), ("label", .text output.label), ("type", .text output.kind),
    ("target", optionalText output.target)])

def Node.toDocument (node : Node) : Value :=
  .record (Record.ofFields [
    ("id", .text node.id), ("type", .text node.kind), ("label", .text node.label),
    ("config", .record node.config), ("isEntry", .bool node.isEntry),
    ("outputs", .list (node.outputs.map Output.toDocument))])

/-- The definition in the plain document layout; the metadata of nodes is not part of it. -/
def Definition.toDocument (definition : Definition) : Value :=
  .record (Record.ofFields [
    ("id", .text definition.id), ("name", .text definition.name),
    ("description", optionalText definition.description), ("version", .text definition.version),
    ("flowType", optionalText definition.flowType), ("metadata", .record definition.metadata),
    ("steps", .record (Record.ofFields [
      ("nodes", .list (definition.nodes.map Node.toDocument))]))])

end GuestFlow
