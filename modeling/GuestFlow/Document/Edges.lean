import GuestFlow.Workflow.Graph

/-!
# Edges

In the canvas layout the connections between nodes stand apart from the nodes, as
edges: from an output of a source node to a target.  `Edge.bindAll` folds the edges into
the targets of the outputs.  An edge is bound once; it is refused when its source or its
output is unknown, or when that output already has a target.
-/

set_option autoImplicit false

namespace GuestFlow

structure Edge where
  source : String
  /-- The output of the source that the edge leaves through. -/
  handle : String
  target : String
  deriving DecidableEq, Repr

namespace Edge

/-- The outputs that have a target, each as the ids of its node and itself. -/
def boundOutputs (nodes : List Node) : List (String × String) :=
  nodes.flatMap fun node => node.outputs.filterMap fun output =>
    if output.target.isSome then some (node.id, output.id) else none

/-- What happened so far: the nodes, the outputs bound, and what was refused. -/
structure Progress where
  nodes : List Node
  bound : List (String × String)
  problems : List String

def Progress.refuse (progress : Progress) (problem : String) : Progress :=
  { progress with problems := progress.problems ++ [problem] }

/-- Gives the first output with the edge's handle, of the first node with its source, the target. -/
def bindTarget (edge : Edge) (nodes : List Node) : List Node :=
  Graph.changeFirst (fun node => node.id == edge.source)
    (fun node =>
      { node with
        outputs := Graph.changeFirst (fun output => output.id == edge.handle)
          (fun output => { output with target := some edge.target }) node.outputs }) nodes

/-- Binds one edge or says why not. -/
def bind (progress : Progress) (edge : Edge) : Progress :=
  match progress.nodes.find? fun node => node.id == edge.source with
  | none => progress.refuse ("Edge source " ++ quoted edge.source ++ " not found in nodes")
  | some source =>
    if !source.hasOutput edge.handle then
      progress.refuse ("Edge from node " ++ quoted source.id ++ " uses undeclared output " ++
        quoted edge.handle)
    else if progress.bound.contains (source.id, edge.handle) then
      progress.refuse ("Output " ++ quoted edge.handle ++ " of node " ++ quoted source.id ++
        " is bound to more than one node")
    else
      { progress with
        nodes := bindTarget edge progress.nodes
        bound := (source.id, edge.handle) :: progress.bound }

/-- Binds edges one after another. -/
def bindAll (nodes : List Node) (edges : List Edge) : Progress :=
  edges.foldl bind ⟨nodes, boundOutputs nodes, []⟩

end Edge

end GuestFlow
