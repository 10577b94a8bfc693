import GuestFlow.Step.Delay
import GuestFlow.Workflow.Definition

/-!
# Step renderers

A renderer shows one kind of step to the guest.  When the step becomes the current one
its rendering is run, a list of actions carried out one after another: it may wait,
complete the step and fail.  Input that the guest gives is turned into a completion by
`Renderer.input`; a renderer may also refuse it.

The actions of a renderer are data, so that whoever carries them out decides what waiting
and completing mean.
-/

set_option autoImplicit false

namespace GuestFlow

inductive Action where
  | say (remark : Remark)
  /-- Waits; a rendering that is cancelled meanwhile leaves `onCancel` in the journal. -/
  | sleep (seconds : Binary64) (onCancel : Option Remark)
  /-- Completes the step; the answer to a completion that is `reported` is kept. -/
  | complete (output : String) (data : Option Record) (isReported : Bool)
  | fail (fault : Fault)
  deriving DecidableEq

/-- The ways of rendering a step. -/
inductive Behaviour where
  /-- Waits for input and passes it on. -/
  | generic
  /-- Begins a workflow, by itself if it is configured so. -/
  | trigger
  /-- Lets the guest choose the branch of a condition. -/
  | condition
  /-- Waits as long as configured and goes on. -/
  | delay
  /-- Carries out given actions; it may refuse all input. -/
  | custom (actions : List Action) (refusesInput : Bool)
  deriving DecidableEq

structure Renderer where
  behaviour : Behaviour
  /-- A name that tells a renderer from others of its behaviour. -/
  name : Option String
  deriving DecidableEq

namespace Renderer

/-- The data of a trigger that was fired. -/
def triggerData (node : Node) (data : Option Record) : Record :=
  ((data.getD []).insert (.text "triggered") (.bool true)).insert (.text "triggerType")
    (.text node.kind)

/-- The completion that a guest's input becomes; nothing if the input is refused. -/
def input (renderer : Renderer) (node : Node) (output : String) (data : Option Record) :
    Option (String × Option Record) :=
  match renderer.behaviour with
  | .generic => some (output, data)
  | .delay => some (output, data)
  | .trigger => some (output, some (triggerData node data))
  | .condition =>
    some (output, some ((data.getD []).insert (.text "condition_choice") (.text output)))
  | .custom _ refusesInput => if refusesInput then none else some (output, data)

/-- A trigger fires by itself only if it is configured to. -/
def triggerActions (node : Node) : List Action :=
  if node.config.field "triggerType" = .text "auto" then
    [.say (.info ("Trigger '" ++ node.id ++ "' fires automatically")),
      .complete defaultOutput (some (triggerData node none)) false]
  else []

/-- The data of a delay that is over. -/
def delayData (milliseconds : Int) : Record :=
  Record.ofFields [("delayed", .bool true), ("delayMs", .int milliseconds)]

/-- Waiting a number of seconds and completing; the length is told in whole milliseconds. -/
def waitActions (node : Node) (seconds : Binary64) : List Action :=
  let title := "Delay '" ++ node.id ++ "' "
  [.say (.debug (title ++ "waiting " ++ seconds.text ++ "s")),
    .sleep seconds (some (.debug (title ++ "cancelled"))),
    match Value.integerPart (seconds.multiply (Binary64.ofInt 1000)) with
    | .ok milliseconds => .complete defaultOutput (some (delayData milliseconds)) false
    | .error fault => .fail fault]

def delayActions (node : Node) : List Action :=
  let (journal, seconds) := Delay.seconds node.config
  journal.map Action.say ++
    (match seconds with
      | .ok seconds => waitActions node seconds
      | .error fault => [.fail fault])

/-- What rendering a node consists of. -/
def actions (renderer : Renderer) (node : Node) : List Action :=
  match renderer.behaviour with
  | .generic => []
  | .condition => []
  | .trigger => triggerActions node
  | .delay => delayActions node
  | .custom actions _ => actions

end Renderer

end GuestFlow
