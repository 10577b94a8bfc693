import Mathlib.Data.List.Nodup
import GuestFlow.Document.Edges

/-!
# Edges drawn in any order

The connections of some nodes are their outputs that have a target.  Taken from the nodes
and drawn as edges instead, they are bound again one after another.

What has been bound so far depends only on which edges were drawn, not on their order:
every output has its target once its edge was there, and none before (`Node.boundBy`).
`Edge.bind_boundBy` is the step and `Edge.foldl_bind` the run.  So all edges together give
the nodes back, in whatever order they are drawn (`Edge.bindAll_of_perm`).
-/

set_option autoImplicit false

namespace GuestFlow

/-! ## Names of their own -/

section Names

variable {α : Type} {nameOf : α → String} {items : List α}

/-- Where all items have names of their own, an item is the first one of its name. -/
theorem find?_of_nodup (unique : (items.map nameOf).Nodup) {item : α} (member : item ∈ items) :
    items.find? (fun other => nameOf other == nameOf item) = some item := by
  cases found : items.find? fun other => nameOf other == nameOf item with
  | none => simpa using List.find?_eq_none.mp found item member
  | some other =>
      have same : nameOf other = nameOf item := by simpa using List.find?_some found
      rw [List.inj_on_of_nodup_map unique (List.mem_of_find?_eq_some found) member same]

/-- Where all items have names of their own, changing the first one of a name is changing every
one of that name. -/
theorem Graph.changeFirst_eq_map (unique : (items.map nameOf).Nodup) (change : α → α)
    (name : String) :
    changeFirst (fun item => nameOf item == name) change items =
      items.map fun item => if nameOf item = name then change item else item := by
  induction items with
  | nil => rfl
  | cons first rest ih =>
      rw [List.map_cons, List.nodup_cons] at unique
      unfold changeFirst
      rw [List.map_cons]
      by_cases same : nameOf first = name
      · have others : ∀ item ∈ rest, (if nameOf item = name then change item else item) = item := by
          intro item member
          refine if_neg fun again => unique.1 ?_
          rw [same, ← again]
          exact List.mem_map_of_mem member
        rw [if_pos (beq_iff_eq.mpr same), if_pos same, List.map_congr_left others, List.map_id']
      · rw [if_neg (beq_iff_eq.not.mpr same), if_neg same, ih unique.2]

end Names

/-- Nodes and outputs that can be told apart by their ids. -/
structure HaveIds (nodes : List Node) : Prop where
  nodup_ids : (nodes.map Node.id).Nodup
  nodup_outputIds : ∀ node ∈ nodes, node.outputIds.Nodup

/-! ## Connections -/

/-- The connections that leave a node, as edges. -/
def Node.connections (node : Node) : List Edge :=
  node.outputs.filterMap fun output => output.target.map fun target => ⟨node.id, output.id, target⟩

/-- The connections of some nodes. -/
def connections (nodes : List Node) : List Edge := nodes.flatMap Node.connections

/-- The output that an edge leaves through, by its names. -/
def Edge.exit (edge : Edge) : String × String := (edge.source, edge.handle)

theorem Node.mem_connections {node : Node} {edge : Edge} :
    edge ∈ node.connections ↔ ∃ output ∈ node.outputs,
      output.target = some edge.target ∧ node.id = edge.source ∧ output.id = edge.handle := by
  obtain ⟨source, handle, target⟩ := edge
  simp only [connections, List.mem_filterMap, Option.map_eq_some_iff, Edge.mk.injEq]
  constructor
  · rintro ⟨output, member, _, aimed, rfl, rfl, rfl⟩
    exact ⟨output, member, aimed, rfl, rfl⟩
  · rintro ⟨output, member, aimed, rfl, rfl⟩
    exact ⟨output, member, target, aimed, rfl, rfl, rfl⟩

/-- The connections of a node leave through some of its outputs, in their order. -/
theorem Node.handles_sublist (node : Node) :
    (node.connections.map Edge.handle).Sublist node.outputIds := by
  unfold connections outputIds
  induction node.outputs with
  | nil => exact .slnil
  | cons output rest ih =>
      cases aimed : output.target with
      | none => simpa [aimed] using ih.cons output.id
      | some target => simpa [aimed] using ih.cons_cons output.id

/-- No two connections leave through the same output. -/
theorem HaveIds.nodup_exits {nodes : List Node} (unique : HaveIds nodes) :
    ((connections nodes).map Edge.exit).Nodup := by
  rw [connections, List.map_flatMap, List.nodup_flatMap]
  constructor
  · intro node member
    have handles := (unique.nodup_outputIds node member).sublist node.handles_sublist
    refine List.Nodup.of_map Prod.snd ?_
    rwa [List.map_map]
  · refine (List.pairwise_map.mp unique.nodup_ids).imp ?_
    intro node other different exit ofNode ofOther
    obtain ⟨edge, leaves, rfl⟩ := List.mem_map.mp ofNode
    obtain ⟨again, leavesOther, same⟩ := List.mem_map.mp ofOther
    obtain ⟨_, _, _, source, _⟩ := Node.mem_connections.mp leaves
    obtain ⟨_, _, _, otherSource, _⟩ := Node.mem_connections.mp leavesOther
    have sources : again.source = edge.source := congrArg Prod.fst same
    exact different (by rw [source, otherSource, sources])

/-! ## Binding edge after edge -/

/-- The output of a node when it has its target only if its connection is among some edges. -/
def Output.boundBy (edges : List Edge) (source : String) (output : Output) : Output :=
  { output with
    target := output.target.filter fun target => ⟨source, output.id, target⟩ ∈ edges }

/-- The node when of its outputs only those have a target whose connection is among some edges. -/
def Node.boundBy (edges : List Edge) (node : Node) : Node :=
  { node with outputs := node.outputs.map (Output.boundBy edges node.id) }

/-- A node whose connections are all among the edges has all its targets. -/
theorem Node.boundBy_of_subset {edges : List Edge} {node : Node}
    (all : ∀ edge ∈ node.connections, edge ∈ edges) : node.boundBy edges = node := by
  have outputs : ∀ output ∈ node.outputs, output.boundBy edges node.id = output := by
    rintro ⟨id, label, kind, target⟩ member
    cases target with
    | none => rfl
    | some target =>
        have drawn : (⟨node.id, id, target⟩ : Edge) ∈ edges :=
          all _ (mem_connections.mpr ⟨_, member, rfl, rfl, rfl⟩)
        simp [Output.boundBy, drawn]
  unfold boundBy
  rw [List.map_congr_left outputs, List.map_id']

/-- An edge binds no other output than the one it leaves through. -/
theorem Output.boundBy_cons_of_ne {edge : Edge} {drawn : List Edge} {source : String}
    {output : Output} (other : ¬(source = edge.source ∧ output.id = edge.handle)) :
    output.boundBy (edge :: drawn) source = output.boundBy drawn source := by
  have apart (target : String) : (⟨source, output.id, target⟩ : Edge) ≠ edge := by
    rintro rfl
    exact other ⟨rfl, rfl⟩
  simp [boundBy, apart]

/-- An edge that was drawn gives the output it leaves through its target. -/
theorem Output.boundBy_cons_self {edge : Edge} {drawn : List Edge} {output : Output}
    (aimed : output.target = some edge.target) (leaves : output.id = edge.handle) :
    output.boundBy (edge :: drawn) edge.source = { output with target := some edge.target } := by
  simp [boundBy, aimed, leaves]

namespace Edge

variable {nodes : List Node}

/-- Giving an output of a node its target, when some edges were drawn before. -/
theorem changeFirst_boundBy {edge : Edge} {outputs : List Output}
    (unique : (outputs.map Output.id).Nodup) {output : Output} (declared : output ∈ outputs)
    (aimed : output.target = some edge.target) (leaves : output.id = edge.handle)
    (drawn : List Edge) :
    Graph.changeFirst (fun output => output.id == edge.handle)
        (fun output => { output with target := some edge.target })
        (outputs.map (Output.boundBy drawn edge.source)) =
      outputs.map (Output.boundBy (edge :: drawn) edge.source) := by
  have ids : ((outputs.map (Output.boundBy drawn edge.source)).map Output.id).Nodup := by
    rwa [List.map_map]
  rw [Graph.changeFirst_eq_map ids, List.map_map]
  refine List.map_congr_left fun other member => ?_
  by_cases same : other.id = edge.handle
  · obtain rfl : other = output :=
      List.inj_on_of_nodup_map unique member declared (same.trans leaves.symm)
    rw [Output.boundBy_cons_self aimed leaves]
    exact if_pos same
  · rw [Output.boundBy_cons_of_ne fun both => same both.2]
    exact if_neg same

/-- Giving a node a target, when some edges were drawn before. -/
theorem bindTarget_boundBy (unique : HaveIds nodes) {edge : Edge}
    (member : edge ∈ connections nodes) (drawn : List Edge) :
    bindTarget edge (nodes.map (Node.boundBy drawn)) =
      nodes.map (Node.boundBy (edge :: drawn)) := by
  obtain ⟨node, inside, leaves⟩ := List.mem_flatMap.mp member
  obtain ⟨output, declared, aimed, source, handle⟩ := Node.mem_connections.mp leaves
  have ids : ((nodes.map (Node.boundBy drawn)).map Node.id).Nodup := by
    rw [List.map_map]
    exact unique.nodup_ids
  unfold bindTarget
  rw [Graph.changeFirst_eq_map ids, List.map_map]
  refine List.map_congr_left fun other there => ?_
  by_cases same : other.id = edge.source
  · refine (if_pos same).trans ?_
    obtain rfl : other = node :=
      List.inj_on_of_nodup_map unique.nodup_ids there inside (same.trans source.symm)
    have bound :=
      changeFirst_boundBy (unique.nodup_outputIds other there) declared aimed handle drawn
    unfold Node.boundBy
    rw [source, bound]
  · refine (if_neg same).trans ?_
    refine congrArg (fun outputs => { other with outputs }) (List.map_congr_left fun exit _ => ?_)
    exact (Output.boundBy_cons_of_ne fun both => same both.1).symm

/-- **Binding one more edge.** -/
theorem bind_boundBy (unique : HaveIds nodes) {edge : Edge} (member : edge ∈ connections nodes)
    {drawn : List Edge} (new : edge.exit ∉ drawn.map exit) :
    bind ⟨nodes.map (Node.boundBy drawn), drawn.map exit, []⟩ edge =
      ⟨nodes.map (Node.boundBy (edge :: drawn)), (edge :: drawn).map exit, []⟩ := by
  obtain ⟨node, inside, leaves⟩ := List.mem_flatMap.mp member
  obtain ⟨output, declared, _, source, handle⟩ := Node.mem_connections.mp leaves
  have found : (nodes.map (Node.boundBy drawn)).find? (fun other => other.id == edge.source) =
      some (node.boundBy drawn) := by
    rw [List.find?_map, ← source]
    exact congrArg _ (find?_of_nodup unique.nodup_ids inside)
  have has : (node.boundBy drawn).hasOutput edge.handle = true := by
    rw [Node.hasOutput, Node.output?, List.find?_isSome]
    exact ⟨_, List.mem_map_of_mem declared, beq_iff_eq.mpr handle⟩
  have through : ((node.boundBy drawn).id, edge.handle) = edge.exit := by
    rw [exit, ← source]
    rfl
  unfold bind
  rw [found]
  dsimp only
  rw [has, through]
  simp [new, bindTarget_boundBy unique member]

/-- Binding the edges that are left, after some were drawn. -/
theorem foldl_bind (unique : HaveIds nodes) {rest drawn : List Edge}
    (known : ∀ edge ∈ rest, edge ∈ connections nodes)
    (apart : ((rest.reverse ++ drawn).map exit).Nodup) :
    rest.foldl bind ⟨nodes.map (Node.boundBy drawn), drawn.map exit, []⟩ =
      ⟨nodes.map (Node.boundBy (rest.reverse ++ drawn)), (rest.reverse ++ drawn).map exit, []⟩ := by
  induction rest generalizing drawn with
  | nil => rfl
  | cons edge rest ih =>
      rw [List.forall_mem_cons] at known
      have next : ((rest.reverse ++ edge :: drawn).map exit).Nodup := by
        simpa using apart
      have new : edge.exit ∉ drawn.map exit := by
        rw [List.map_append, List.map_cons] at next
        exact (List.nodup_cons.mp next.of_append_right).1
      rw [List.foldl_cons, bind_boundBy unique known.1 new, ih known.2 next]
      simp

/-- **The connections of nodes, taken away and drawn as edges in any order, are all bound
again.** -/
theorem bindAll_of_perm (unique : HaveIds nodes) {edges : List Edge}
    (order : edges.Perm (connections nodes)) :
    bindAll (nodes.map (Node.boundBy [])) edges = ⟨nodes, edges.reverse.map exit, []⟩ := by
  have apart : ((edges.reverse ++ []).map exit).Nodup := by
    rw [List.append_nil, List.map_reverse, List.nodup_reverse]
    exact (order.map exit).nodup_iff.mpr unique.nodup_exits
  have unbound : boundOutputs (nodes.map (Node.boundBy [])) = [] := by
    simp [boundOutputs, Node.boundBy, Output.boundBy]
  have bound := foldl_bind unique (fun edge member => order.mem_iff.mp member) apart
  have whole : ∀ node ∈ nodes, node.boundBy (edges.reverse ++ []) = node := by
    intro node member
    refine Node.boundBy_of_subset fun edge leaves => ?_
    rw [List.append_nil, List.mem_reverse]
    exact order.mem_iff.mpr (List.mem_flatMap.mpr ⟨node, member, leaves⟩)
  rw [bindAll, unbound]
  rw [List.map_congr_left whole, List.map_id', List.append_nil] at bound
  exact bound

end Edge

end GuestFlow
