import GuestFlow.Value.Text
import GuestFlow.Workflow.Condition

/-!
# Workflow graphs

A graph is a definition that has been checked: ids are unique, targets exist, conditions
are configured and there is exactly one node to enter at.  `Graph.ofDefinition` checks a
definition and reports every problem; from then on the graph finds nodes by id and
resolves the exits of a node.

A node can be dropped from the graph while the definition keeps it; the graph then no
longer finds it.  This is how a graph gets out of step with its definition, and all
operations have an answer for it.
-/

set_option autoImplicit false

namespace GuestFlow

structure Graph where
  definition : Definition
  /-- The ids of nodes that were dropped. -/
  dropped : List String
  /-- The id of the node where the workflow begins. -/
  entryId : String
  deriving DecidableEq

/-! ## Finding nodes -/

/-- The first node with an id, unless that id was dropped. -/
def findNode? (definition : Definition) (dropped : List String) (id : String) : Option Node :=
  if dropped.contains id then none else definition.nodes.find? fun node => node.id == id

/-- The items of a list without later repetitions. -/
def withoutRepeats (ids : List String) : List String :=
  ids.foldl (fun seen id => if seen.contains id then seen else seen ++ [id]) []

/-- Every id that stands in a list more than once, in the order of its second appearance. -/
def repeated : List String → List String → List String → List String
  | _, found, [] => found
  | seen, found, id :: rest =>
    let found := if seen.contains id && !found.contains id then found ++ [id] else found
    repeated (seen ++ [id]) found rest

/-! ## Problems -/

/-- An id in single quotes. -/
def quoted (id : String) : String := "'" ++ id ++ "'"

def duplicateProblems (definition : Definition) : List String :=
  let duplicates := repeated [] [] (definition.nodes.map Node.id)
  if duplicates.isEmpty then []
  else ["Duplicate node IDs found: " ++ commaSeparated duplicates]

def outputProblems (definition : Definition) (dropped : List String) (node : Node) : List String :=
  node.outputs.filterMap fun output =>
    match output.target with
    | none => none
    | some target =>
      if (findNode? definition dropped target).isSome then none
      else some ("Output " ++ quoted output.id ++ " of node " ++ quoted node.id ++
        " targets unknown node " ++ quoted target)

/-- Whether a configured field is the name of a field. -/
def isFieldName : Value → Bool
  | .text characters => characters != ""
  | _ => false

/-- What is wrong with the operator of a condition, or with the value it needs. -/
def operatorProblems (node : Node) : Except Fault (List String) := do
  let name := Condition.operatorName node
  -- A set is never the name of an operator; every other kind has to be usable as a key.
  match name with
  | .set _ => pure ()
  | other => let _ ← other.asKey
  match Condition.operator? name with
  | none => do
    let text ← name.text?
    .ok ["Condition node " ++ quoted node.id ++ " uses unknown operator '" ++ text ++ "'"]
  | some operator =>
    if operator.needsValue && Condition.isBlankValue (Condition.comparedValue node) then do
      let text ← name.text?
      .ok ["Condition node " ++ quoted node.id ++ " needs a value for operator '" ++ text ++ "'"]
    else .ok []

def conditionProblems (node : Node) : Except Fault (List String) :=
  if node.isCondition then do
    let fields :=
      if isFieldName (Condition.fieldName node) then []
      else ["Condition node " ++ quoted node.id ++ " has no field configured"]
    let operators ← operatorProblems node
    .ok (fields ++ operators)
  else .ok []

def nodeProblems (definition : Definition) (dropped : List String) (node : Node) :
    Except Fault (List String) := do
  let repeats :=
    if (repeated [] [] node.outputIds).isEmpty then []
    else ["Node " ++ quoted node.id ++ " declares duplicate output IDs"]
  let conditions ← conditionProblems node
  .ok (repeats ++ outputProblems definition dropped node ++ conditions)

def markedNodes (definition : Definition) : List Node := definition.nodes.filter Node.isEntry

def triggerNodes (definition : Definition) : List Node := definition.nodes.filter Node.isTrigger

/-- The nodes where the workflow may begin: those marked, or else those that are triggers. -/
def entryCandidates (definition : Definition) : List Node :=
  let marked := markedNodes definition
  if marked.isEmpty then triggerNodes definition else marked

def entryProblems (definition : Definition) : List String :=
  let marked := (markedNodes definition).map Node.id
  let triggers := (triggerNodes definition).map Node.id
  if 1 < marked.length then
    ["More than one node is marked as entry: " ++ commaSeparated marked]
  else if !marked.isEmpty then []
  else if triggers.isEmpty then
    ["No entry node: add a trigger node or mark one node with isEntry"]
  else if 1 < triggers.length then
    ["Ambiguous entry: trigger nodes " ++ commaSeparated triggers ++
      " need an explicit isEntry marker"]
  else []

/-- Everything that is wrong with a definition from which some nodes were dropped. -/
def problemsOf (definition : Definition) (dropped : List String) : Except Fault (List String) := do
  let inside ← definition.nodes.mapM (nodeProblems definition dropped)
  .ok (duplicateProblems definition ++ inside.flatten ++ entryProblems definition)

namespace Graph

/-- Everything that is wrong with a graph. -/
def problems (graph : Graph) : Except Fault (List String) :=
  problemsOf graph.definition graph.dropped

/-- Checks a definition. -/
def ofDefinition (definition : Definition) : Except Fault Graph := do
  let found ← problemsOf definition []
  match found, entryCandidates definition with
  | [], entry :: _ => .ok ⟨definition, [], entry.id⟩
  | problems, _ =>
    .error (.invalidDefinition ("Workflow " ++ quoted definition.id ++ " is invalid: " ++
      String.intercalate "; " problems) problems)

/-- The journal line about a graph that was built. -/
def entryRemark (graph : Graph) : Remark :=
  .debug ("Workflow " ++ quoted graph.definition.id ++ " enters at node " ++ quoted graph.entryId)

/-! ## Look-up -/

def id (graph : Graph) : String := graph.definition.id

def node? (graph : Graph) (id : String) : Option Node :=
  findNode? graph.definition graph.dropped id

def contains (graph : Graph) (id : String) : Bool := (graph.node? id).isSome

def entry? (graph : Graph) : Option Node :=
  graph.definition.nodes.find? fun node => node.id == graph.entryId

/-- The number of nodes that the graph finds. -/
def size (graph : Graph) : Nat :=
  ((withoutRepeats (graph.definition.nodes.map Node.id)).filter graph.contains).length

/-- The node behind an output, nothing behind an exit of the workflow, or the fault that the
node or its target is unknown. -/
def next (graph : Graph) (nodeId outputId : String) : Except Fault (Option Node) :=
  match graph.node? nodeId with
  | none => .error (.dangling nodeId outputId nodeId)
  | some node =>
    match (node.output? outputId).bind Output.target with
    | none => .ok none
    | some target =>
      match graph.node? target with
      | none => .error (.dangling nodeId outputId target)
      | some found => .ok (some found)

/-- The nodes behind the outputs of a node. -/
def downstream (graph : Graph) (nodeId : String) : List Node :=
  match graph.node? nodeId with
  | none => []
  | some node => node.outputs.filterMap fun output => output.target.bind graph.node?

/-! ## Corruption -/

/-- Changes the first item that a test picks. -/
def changeFirst {α : Type} (picks : α → Bool) (change : α → α) : List α → List α
  | [] => []
  | item :: rest =>
    if picks item then change item :: rest else item :: changeFirst picks change rest

/-- Overwrites the target of an output. -/
def setTarget (graph : Graph) (nodeId outputId : String) (target : Option String) : Graph :=
  let redirect (output : Output) : Output := { output with target }
  let change (node : Node) : Node :=
    { node with outputs := changeFirst (fun output => output.id == outputId) redirect node.outputs }
  { graph with
    definition := { graph.definition with
      nodes := changeFirst (fun node => node.id == nodeId) change graph.definition.nodes } }

/-- Makes the graph lose a node. -/
def dropNode (graph : Graph) (nodeId : String) : Graph :=
  { graph with dropped := nodeId :: graph.dropped }

end Graph

end GuestFlow
