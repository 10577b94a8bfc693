import GuestFlow.Proofs.Document.Edges
import GuestFlow.Proofs.Document.Naming
import GuestFlow.Proofs.Reporting

/-!
# Which edges are bound

Edges are bound one after another, and what has been bound is remembered on the way.  What
is wrong with an edge can be said without the way: its source is no node, its source does
not declare its output, or that output is bound, in the document or by an earlier edge
(`Edge.Misfits`).  `Edge.bindAll_problems` states that these are the problems found, one
for each such edge, and `Edge.refusals_perm` that the order of the edges plays no part.

Where no edge is refused, every edge gives its target to the first output of its name, at
the first node of its name, and nothing else changes (`Edge.Redirects`).  This says what the
nodes are then (`Edge.Redirects.unique`), so their order plays no part here either.
`edges_bind_once` puts both together, for edges as they stand in a document.
-/

set_option autoImplicit false

namespace GuestFlow

/-! ## Edges in a document -/

/-- The output an edge leaves through: the one it names, or the usual one where it names none. -/
inductive Edge.NamesHandle : Option Value → String → Prop where
  | named {name : String} (long : name ≠ "") : NamesHandle (some (.text name)) name
  | missing : NamesHandle none defaultOutput
  | null : NamesHandle (some .null) defaultOutput
  | empty : NamesHandle (some (.text "")) defaultOutput

/-- The edge is the one that a value describes. -/
inductive Edge.IsDrawnAs (edge : Edge) : Value → Prop where
  | intro {data : Record} (source : data.field? "source" = some (.text edge.source))
      (target : data.field? "target" = some (.text edge.target))
      (handle : NamesHandle (data.field? "sourceHandle") edge.handle) :
      IsDrawnAs edge (.record data)

namespace Document

/-- The edges that the items of a list describe. -/
def edgesOf (items : List Value) : List Edge := items.map fun item => readEdge (asRecord item)

/-- An item that obeys the schema of edges describes the edge that is read from it. -/
theorem isDrawnAs_readEdge {item : Value} (valid : Schema.Obeys item Schema.edge) :
    (readEdge (asRecord item)).IsDrawnAs item := by
  obtain ⟨data, rfl, described⟩ := Schema.object_iff.mp valid
  obtain ⟨source, foundSource, _⟩ :=
    @Schema.DescribedBy.name_of_required _ _ _ described "source" (by simp) (by simp)
  obtain ⟨target, foundTarget, _⟩ :=
    @Schema.DescribedBy.name_of_required _ _ _ described "target" (by simp) (by simp)
  refine .intro ?_ ?_ ?_
  · rw [foundSource]
    exact congrArg (some ∘ Value.text) (textField_eq foundSource).symm
  · rw [foundTarget]
    exact congrArg (some ∘ Value.text) (textField_eq foundTarget).symm
  · have obeys := described.obeys ("sourceHandle", Schema.optionalText) (by simp)
    show Edge.NamesHandle (Record.field? data "sourceHandle")
      (textFieldOr data "sourceHandle" defaultOutput)
    unfold textFieldOr textField Record.field
    cases found : Record.field? data "sourceHandle" with
    | none => exact .missing
    | some field =>
        have shape := Schema.anyOf_iff.mp (obeys field found)
        cases field with
        | null => exact .null
        | text characters =>
            by_cases long : characters = ""
            · subst long
              exact .empty
            · simpa [long] using Edge.NamesHandle.named long
        | _ => simp [Shape.fits] at shape

end Document

/-! ## Misfits -/

theorem Node.hasOutput_iff {node : Node} {id : String} :
    node.hasOutput id = true ↔ id ∈ node.outputIds := by
  simp [hasOutput, output?, outputIds]

namespace Edge

/-- What can be wrong with an edge. -/
inductive Misfit where
  | unknownSource
  | undeclaredOutput
  | boundTwice
  deriving DecidableEq

/-- The first node that has the edge's source as its id declares the edge's output. -/
def IsDeclared (edge : Edge) (nodes : List Node) : Prop :=
  ∃ node, nodes.find? (fun node => node.id == edge.source) = some node ∧
    edge.handle ∈ node.outputIds

/-- An output with the names of the edge's exit has a target already. -/
def IsBound (edge : Edge) (nodes : List Node) : Prop :=
  ∃ node ∈ nodes, node.id = edge.source ∧
    ∃ output ∈ node.outputs, output.id = edge.handle ∧ output.target ≠ none

/-- What is wrong with an edge that is drawn after others. -/
inductive Misfits (nodes : List Node) (earlier : List Edge) (edge : Edge) : Misfit → Prop where
  | unknownSource (unknown : ∀ node ∈ nodes, node.id ≠ edge.source) :
      Misfits nodes earlier edge .unknownSource
  | undeclaredOutput {node : Node}
      (source : nodes.find? (fun node => node.id == edge.source) = some node)
      (undeclared : edge.handle ∉ node.outputIds) : Misfits nodes earlier edge .undeclaredOutput
  | boundTwice (declared : edge.IsDeclared nodes)
      (bound : edge.IsBound nodes ∨ ∃ other ∈ earlier, other.exit = edge.exit) :
      Misfits nodes earlier edge .boundTwice

/-- The message about an edge. -/
def complaint (edge : Edge) : Misfit → String
  | .unknownSource => "Edge source " ++ quoted edge.source ++ " not found in nodes"
  | .undeclaredOutput =>
    "Edge from node " ++ quoted edge.source ++ " uses undeclared output " ++ quoted edge.handle
  | .boundTwice =>
    "Output " ++ quoted edge.handle ++ " of node " ++ quoted edge.source ++
      " is bound to more than one node"

/-- What is wrong with an edge, if anything is. -/
def misfit? (nodes : List Node) (earlier : List Edge) (edge : Edge) : Option Misfit :=
  match nodes.find? fun node => node.id == edge.source with
  | none => some .unknownSource
  | some node =>
    if !node.hasOutput edge.handle then some .undeclaredOutput
    else if (boundOutputs nodes).contains edge.exit || (earlier.map exit).contains edge.exit then
      some .boundTwice
    else none

/-- The messages about edges that are drawn after others. -/
def refusals (nodes : List Node) : List Edge → List Edge → List String
  | _, [] => []
  | earlier, edge :: rest =>
    ((misfit? nodes earlier edge).map edge.complaint).toList ++
      refusals nodes (edge :: earlier) rest

section Misfit

variable {nodes : List Node} {earlier others : List Edge} {edge other : Edge}

theorem exit_mem_boundOutputs_iff : edge.exit ∈ boundOutputs nodes ↔ edge.IsBound nodes := by
  unfold boundOutputs IsBound exit
  simp only [List.mem_flatMap, List.mem_filterMap, Option.ite_none_right_eq_some, Option.some.injEq,
    Prod.mk.injEq, Option.isSome_iff_ne_none]
  constructor
  · rintro ⟨node, member, output, inside, aimed, source, handle⟩
    exact ⟨node, member, source, output, inside, handle, aimed⟩
  · rintro ⟨node, member, source, output, inside, handle, aimed⟩
    exact ⟨node, member, output, inside, aimed, source, handle⟩

/-- The edge binds an output that a node or an earlier edge has bound. -/
theorem isTaken_iff :
    ((boundOutputs nodes).contains edge.exit || (earlier.map exit).contains edge.exit) = true ↔
      edge.IsBound nodes ∨ ∃ other ∈ earlier, other.exit = edge.exit := by
  rw [Bool.or_eq_true, List.contains_iff_mem, List.contains_iff_mem, exit_mem_boundOutputs_iff,
    List.mem_map]

theorem misfits_of_misfit? {misfit : Misfit} (found : misfit? nodes earlier edge = some misfit) :
    edge.Misfits nodes earlier misfit := by
  unfold misfit? at found
  split at found
  · rename_i lost
    cases found
    exact .unknownSource (by simpa using lost)
  · rename_i node source
    split at found
    · rename_i undeclared
      cases found
      rw [Bool.not_eq_true', Bool.eq_false_iff, ne_eq, Node.hasOutput_iff] at undeclared
      exact .undeclaredOutput source undeclared
    · rename_i declared
      rw [Bool.not_eq_true', Bool.not_eq_false, Node.hasOutput_iff] at declared
      split at found
      · rename_i taken
        cases found
        exact .boundTwice ⟨node, source, declared⟩ (isTaken_iff.mp taken)
      · cases found

theorem Misfits.misfit?_eq {misfit : Misfit} (misfits : edge.Misfits nodes earlier misfit) :
    misfit? nodes earlier edge = some misfit := by
  unfold misfit?
  cases misfits with
  | unknownSource unknown =>
      have lost : nodes.find? (fun node => node.id == edge.source) = none := by simpa using unknown
      rw [lost]
  | undeclaredOutput source undeclared =>
      rw [source]
      dsimp only
      rw [Bool.eq_false_iff.mpr (mt Node.hasOutput_iff.mp undeclared)]
      rfl
  | boundTwice declared bound =>
      obtain ⟨node, source, declared⟩ := declared
      rw [source]
      dsimp only
      rw [Node.hasOutput_iff.mpr declared, isTaken_iff.mpr bound]
      rfl

theorem misfit?_eq_some_iff {misfit : Misfit} :
    misfit? nodes earlier edge = some misfit ↔ edge.Misfits nodes earlier misfit :=
  ⟨misfits_of_misfit?, Misfits.misfit?_eq⟩

/-- Only the exits of edges count. -/
theorem misfit?_congr (same : edge.exit = other.exit)
    (exits : ∀ exit, exit ∈ earlier.map Edge.exit ↔ exit ∈ others.map Edge.exit) :
    misfit? nodes earlier edge = misfit? nodes others other := by
  have contained : (earlier.map exit).contains other.exit =
      (others.map exit).contains other.exit := by
    rw [Bool.eq_iff_iff, List.contains_iff_mem, List.contains_iff_mem, exits]
  obtain ⟨sources, handles⟩ := Prod.mk.inj same
  unfold misfit?
  rw [same, sources, handles, contained]

theorem complaint_congr (same : edge.exit = other.exit) : edge.complaint = other.complaint := by
  obtain ⟨sources, handles⟩ := Prod.mk.inj same
  unfold complaint
  rw [sources, handles]

/-- An edge between two others matters to the later one only if they leave through the same exit. -/
theorem misfit?_cons_of_ne (differ : other.exit ≠ edge.exit) :
    misfit? nodes (other :: earlier) edge = misfit? nodes earlier edge := by
  have contained : ((other :: earlier).map exit).contains edge.exit =
      (earlier.map exit).contains edge.exit := by
    rw [Bool.eq_iff_iff, List.contains_iff_mem, List.contains_iff_mem, List.map_cons, List.mem_cons]
    exact or_iff_right (Ne.symm differ)
  unfold misfit?
  rw [contained]

theorem refusals_congr {rest : List Edge}
    (exits : ∀ exit, exit ∈ earlier.map Edge.exit ↔ exit ∈ others.map Edge.exit) :
    refusals nodes earlier rest = refusals nodes others rest := by
  induction rest generalizing earlier others with
  | nil => rfl
  | cons edge rest ih =>
      unfold refusals
      rw [misfit?_congr rfl exits]
      refine congrArg (_ ++ ·) (ih fun exit => ?_)
      rw [List.map_cons, List.map_cons, List.mem_cons, List.mem_cons, exits]

/-- **Drawing the edges in another order permutes the messages.** -/
theorem refusals_perm {edges rest : List Edge} (order : edges.Perm rest) :
    (refusals nodes earlier edges).Perm (refusals nodes earlier rest) := by
  induction order generalizing earlier with
  | nil => exact .nil
  | cons edge _ ih => exact ih.append_left _
  | trans _ _ first second => exact first.trans second
  | swap first second rest =>
      unfold refusals
      unfold refusals
      rw [← List.append_assoc, ← List.append_assoc,
        @refusals_congr nodes (first :: second :: earlier) (second :: first :: earlier) rest
          (by simp [or_left_comm])]
      refine List.Perm.append_right _ ?_
      by_cases same : first.exit = second.exit
      · -- Whichever of the two comes first, the same is said about it, and about the other one.
        have exits : ∀ exit, exit ∈ (first :: earlier).map Edge.exit ↔
            exit ∈ (second :: earlier).map Edge.exit := by simp [same]
        have one : misfit? nodes earlier first = misfit? nodes earlier second :=
          misfit?_congr same fun _ => Iff.rfl
        have two : misfit? nodes (first :: earlier) second =
            misfit? nodes (second :: earlier) first := misfit?_congr same.symm exits
        rw [complaint_congr same, one, two]
      · rw [misfit?_cons_of_ne same, misfit?_cons_of_ne (Ne.symm same)]
        exact List.perm_append_comm

theorem Misfits.unique {first second : Misfit} (one : edge.Misfits nodes earlier first)
    (another : edge.Misfits nodes earlier second) : first = second := by
  rw [← misfit?_eq_some_iff] at one another
  exact Option.some.inj (one.symm.trans another)

/-- The order in which earlier edges were drawn plays no part. -/
theorem misfits_reverse_iff {misfit : Misfit} :
    edge.Misfits nodes earlier.reverse misfit ↔ edge.Misfits nodes earlier misfit := by
  have exits : ∀ exit, exit ∈ earlier.reverse.map Edge.exit ↔ exit ∈ earlier.map Edge.exit := by
    simp
  rw [← misfit?_eq_some_iff, ← misfit?_eq_some_iff, misfit?_congr rfl exits]

/-- **There is one message for every edge that misfits.** -/
theorem refusals_reports (nodes : List Node) (rest earlier : List Edge) :
    Reports (refusals nodes earlier rest)
      (fun finding : Finding Edge Misfit => finding.item.complaint finding.found)
      fun finding => rest[finding.place]? = some finding.item ∧
        finding.item.Misfits nodes ((rest.take finding.place).reverse ++ earlier)
          finding.found := by
  induction rest generalizing earlier with
  | nil => exact .nil fun finding wrong => by simp at wrong
  | cons edge rest ih =>
      have here : Reports ((misfit? nodes earlier edge).map edge.complaint).toList edge.complaint
          fun misfit => edge.Misfits nodes earlier misfit := by
        cases found : misfit? nodes earlier edge with
        | none =>
            refine .nil fun misfit misfits => ?_
            rw [misfit?_eq_some_iff.mpr misfits] at found
            cases found
        | some misfit =>
            have misfits := misfit?_eq_some_iff.mp found
            refine .single misfit rfl fun other => ⟨fun again => again.unique misfits, ?_⟩
            rintro rfl
            exact misfits
      have later := ih (edge :: earlier)
      refine .cons (fun place edge' misfit =>
        edge'.Misfits nodes (((edge :: rest).take place).reverse ++ earlier) misfit) here
        (later.congr fun finding => ?_)
      simp

/-! ## Edges that fit -/

/-- Every edge leaves through a declared output that is free in the document, no two through the
same. -/
structure Fit (nodes : List Node) (edges : List Edge) : Prop where
  isDeclared : ∀ edge ∈ edges, edge.IsDeclared nodes
  isFree : ∀ edge ∈ edges, ¬edge.IsBound nodes
  nodup_exits : (edges.map exit).Nodup

theorem misfit?_eq_none_iff :
    misfit? nodes earlier edge = none ↔
      edge.IsDeclared nodes ∧ ¬edge.IsBound nodes ∧ edge.exit ∉ earlier.map exit := by
  have drawn : edge.exit ∈ earlier.map exit ↔ ∃ other ∈ earlier, other.exit = edge.exit :=
    List.mem_map
  rw [Option.eq_none_iff_forall_not_mem]
  constructor
  · intro fits
    have declared : edge.IsDeclared nodes := by
      cases source : nodes.find? fun node => node.id == edge.source with
      | none =>
          have unknown : ∀ node ∈ nodes, node.id ≠ edge.source := by simpa using source
          exact (fits _ (misfit?_eq_some_iff.mpr (.unknownSource unknown))).elim
      | some node =>
          by_contra undeclared
          refine fits _ (misfit?_eq_some_iff.mpr (.undeclaredOutput source fun handle => ?_))
          exact undeclared ⟨node, source, handle⟩
    refine ⟨declared, fun bound => ?_, fun again => ?_⟩
    · exact fits _ (misfit?_eq_some_iff.mpr (.boundTwice declared (.inl bound)))
    · exact fits _ (misfit?_eq_some_iff.mpr (.boundTwice declared (.inr (drawn.mp again))))
  · rintro ⟨⟨node, source, handle⟩, free, new⟩ misfit found
    cases misfit?_eq_some_iff.mp found with
    | unknownSource unknown =>
        exact unknown node (List.mem_of_find?_eq_some source)
          (by simpa using List.find?_some source)
    | undeclaredOutput same undeclared =>
        cases source.symm.trans same
        exact undeclared handle
    | boundTwice _ bound => exact bound.elim free fun again => new (drawn.mpr again)

/-- Nothing is said about edges exactly where all of them fit, after those drawn before. -/
theorem refusals_eq_nil_iff {rest : List Edge} :
    refusals nodes earlier rest = [] ↔
      Fit nodes rest ∧ ∀ edge ∈ rest, edge.exit ∉ earlier.map exit := by
  induction rest generalizing earlier with
  | nil => exact iff_of_true rfl ⟨⟨by simp, by simp, List.nodup_nil⟩, by simp⟩
  | cons edge rest ih =>
      have quiet : ((misfit? nodes earlier edge).map edge.complaint).toList = [] ↔
          misfit? nodes earlier edge = none := by simp
      unfold refusals
      rw [List.append_eq_nil_iff, quiet, misfit?_eq_none_iff, ih]
      constructor
      · rintro ⟨⟨declared, free, new⟩, ⟨allDeclared, allFree, nodup⟩, apart⟩
        refine ⟨⟨List.forall_mem_cons.mpr ⟨declared, allDeclared⟩,
          List.forall_mem_cons.mpr ⟨free, allFree⟩, List.nodup_cons.mpr ⟨?_, nodup⟩⟩,
          List.forall_mem_cons.mpr ⟨new, fun other member old => ?_⟩⟩
        · intro again
          obtain ⟨other, member, same⟩ := List.mem_map.mp again
          exact apart other member (by rw [same]; exact List.mem_cons_self ..)
        · exact apart other member (List.mem_cons_of_mem _ old)
      · rintro ⟨⟨declared, free, nodup⟩, apart⟩
        rw [List.forall_mem_cons] at declared free apart
        rw [List.map_cons, List.nodup_cons] at nodup
        refine ⟨⟨declared.1, free.1, apart.1⟩, ⟨declared.2, free.2, nodup.2⟩, ?_⟩
        intro other member old
        rcases List.mem_cons.mp old with same | old
        · exact nodup.1 (same ▸ List.mem_map_of_mem member)
        · exact apart.2 other member old

end Misfit

end Edge

/-! ## Nodes apart from their targets -/

/-- An output without its target. -/
def Output.untargeted (output : Output) : Output := { output with target := none }

/-- A node without the targets of its outputs. -/
def Node.untargeted (node : Node) : Node :=
  { node with outputs := node.outputs.map Output.untargeted }

@[simp] theorem Node.id_untargeted (node : Node) : node.untargeted.id = node.id := rfl

@[simp] theorem Node.outputIds_untargeted (node : Node) :
    node.untargeted.outputIds = node.outputIds := by
  unfold untargeted outputIds
  rw [List.map_map]
  rfl

/-- The target of an output, by the places of its node and of itself. -/
def targetAt? (nodes : List Node) (place exit : Nat) : Option (Option String) :=
  ((nodes[place]?).bind fun node => node.outputs[exit]?).map Output.target

theorem outputs_eq_of_untargeted {left right : List Output}
    (shape : left.map Output.untargeted = right.map Output.untargeted)
    (targets : left.map Output.target = right.map Output.target) : left = right := by
  induction left generalizing right with
  | nil => exact (List.map_eq_nil_iff.mp shape.symm).symm
  | cons output rest ih =>
      cases right with
      | nil => cases shape
      | cons other others =>
          rw [List.map_cons, List.map_cons, List.cons.injEq] at shape targets
          obtain ⟨_, _, _, _⟩ := output
          obtain ⟨_, _, _, _⟩ := other
          simp only [Output.untargeted, Output.mk.injEq] at shape targets
          simp [shape.1, targets.1, ih shape.2 targets.2]

theorem Node.eq_of_untargeted {left right : Node} (shape : left.untargeted = right.untargeted)
    (targets : left.outputs.map Output.target = right.outputs.map Output.target) :
    left = right := by
  obtain ⟨_, _, _, _, outputs, _, _⟩ := left
  obtain ⟨_, _, _, _, others, _, _⟩ := right
  simp only [untargeted, Node.mk.injEq] at shape
  have same : outputs = others := outputs_eq_of_untargeted (by simp [shape]) targets
  simp [shape, same]

/-- Nodes are known by what they are without their targets, and their targets. -/
theorem eq_of_untargeted {left right : List Node}
    (shape : left.map Node.untargeted = right.map Node.untargeted)
    (targets : ∀ place exit, targetAt? left place exit = targetAt? right place exit) :
    left = right := by
  refine List.ext_getElem? fun place => ?_
  have same : (left[place]?).map Node.untargeted = (right[place]?).map Node.untargeted := by
    rw [← List.getElem?_map, ← List.getElem?_map, shape]
  have aims := targets place
  unfold targetAt? at aims
  cases inLeft : left[place]? with
  | none =>
      rw [inLeft] at same
      exact (Option.map_eq_none_iff.mp same.symm).symm
  | some one =>
      cases inRight : right[place]? with
      | none => simp [inLeft, inRight] at same
      | some other =>
          simp only [inLeft, inRight, Option.map_some, Option.some.injEq, Option.bind_some]
            at same aims
          refine congrArg some (Node.eq_of_untargeted same (List.ext_getElem? fun exit => ?_))
          rw [List.getElem?_map, List.getElem?_map, aims]

/-! ## Changing the first of a list -/

namespace Graph

variable {α β : Type} {picks : α → Bool} {change : α → α} {items : List α}

theorem changeFirst_eq_modify (change : α → α) {place : Nat}
    (found : items.findIdx? picks = some place) :
    changeFirst picks change items = items.modify place change := by
  induction items generalizing place with
  | nil => cases found
  | cons item rest ih =>
      rw [List.findIdx?_cons] at found
      unfold changeFirst
      by_cases picked : picks item = true
      · rw [if_pos picked] at found ⊢
        cases found
        rfl
      · rw [if_neg picked] at found ⊢
        obtain ⟨later, foundLater, rfl⟩ := Option.map_eq_some_iff.mp found
        rw [ih foundLater]
        rfl

theorem map_changeFirst {view : α → β} (kept : ∀ item, view (change item) = view item)
    (items : List α) : (changeFirst picks change items).map view = items.map view := by
  induction items with
  | nil => rfl
  | cons item rest ih =>
      unfold changeFirst
      split
      · rw [List.map_cons, List.map_cons, kept]
      · rw [List.map_cons, List.map_cons, ih]

end Graph

/-! ## The place of an exit -/

namespace Edge

/-- The edge leaves through the first output of its name, at the first node of its name. -/
structure LeavesAt (edge : Edge) (nodes : List Node) (place exit : Nat) : Prop where
  source : nodes.findIdx? (fun node => node.id == edge.source) = some place
  handle : (nodes[place]?).bind (fun node => node.outputIds.findIdx? fun id => id == edge.handle) =
    some exit

/-- The nodes afterwards are those before, where every edge has given its target to the output it
leaves through, and every other output has kept what it had. -/
structure Redirects (edges : List Edge) (nodes after : List Node) : Prop where
  shape : after.map Node.untargeted = nodes.map Node.untargeted
  bound : ∀ edge ∈ edges, ∃ place exit, edge.LeavesAt nodes place exit ∧
    targetAt? after place exit = some (some edge.target)
  kept : ∀ place exit, (∀ edge ∈ edges, ¬edge.LeavesAt nodes place exit) →
    targetAt? after place exit = targetAt? nodes place exit

section Places

variable {nodes others : List Node} {edge other : Edge} {place exit : Nat}

theorem LeavesAt.unique {place' exit' : Nat} (leaves : edge.LeavesAt nodes place exit)
    (again : edge.LeavesAt nodes place' exit') : place = place' ∧ exit = exit' := by
  obtain rfl : place = place' := Option.some.inj (leaves.source.symm.trans again.source)
  exact ⟨rfl, Option.some.inj (leaves.handle.symm.trans again.handle)⟩

/-- **The edges and the nodes before say what the nodes are afterwards.** -/
theorem Redirects.unique {edges rest : List Edge} {first second : List Node}
    (same : ∀ edge, edge ∈ edges ↔ edge ∈ rest) (one : Redirects edges nodes first)
    (another : Redirects rest nodes second) : first = second := by
  refine eq_of_untargeted (one.shape.trans another.shape.symm) fun place exit => ?_
  by_cases drawn : ∃ edge ∈ edges, edge.LeavesAt nodes place exit
  · obtain ⟨edge, member, leaves⟩ := drawn
    obtain ⟨_, _, here, target⟩ := one.bound edge member
    obtain ⟨_, _, there, target'⟩ := another.bound edge ((same edge).mp member)
    obtain ⟨rfl, rfl⟩ := leaves.unique here
    obtain ⟨rfl, rfl⟩ := leaves.unique there
    rw [target, target']
  · have none : ∀ edge ∈ edges, ¬edge.LeavesAt nodes place exit := fun edge member leaves =>
      drawn ⟨edge, member, leaves⟩
    rw [one.kept place exit none,
      another.kept place exit fun edge member => none edge ((same edge).mpr member)]

/-! ## Names and places -/

/-- Nodes that differ in their targets only have the same nodes under an id. -/
theorem find?_of_shape (shape : nodes.map Node.untargeted = others.map Node.untargeted)
    (id : String) :
    (nodes.find? fun node => node.id == id).map Node.untargeted =
      (others.find? fun node => node.id == id).map Node.untargeted := by
  have inside (nodes : List Node) : (nodes.find? fun node => node.id == id).map Node.untargeted =
      (nodes.map Node.untargeted).find? fun node => node.id == id := by
    rw [List.find?_map]
    rfl
  rw [inside, inside, shape]

/-- Nodes that differ in their targets only have the same exits at the same places. -/
theorem leavesAt_iff_of_shape (shape : nodes.map Node.untargeted = others.map Node.untargeted) :
    edge.LeavesAt nodes place exit ↔ edge.LeavesAt others place exit := by
  have sources (nodes : List Node) : nodes.findIdx? (fun node => node.id == edge.source) =
      (nodes.map Node.untargeted).findIdx? fun node => node.id == edge.source := by
    rw [List.findIdx?_map]
    rfl
  have handles (nodes : List Node) :
      (nodes[place]?).bind (fun node => node.outputIds.findIdx? fun id => id == edge.handle) =
        ((nodes.map Node.untargeted)[place]?).bind fun node =>
          node.outputIds.findIdx? fun id => id == edge.handle := by
    rw [List.getElem?_map, Option.bind_map]
    refine congrArg _ (funext fun node => ?_)
    rw [Function.comp_apply, Node.outputIds_untargeted]
  constructor
  · rintro ⟨source, handle⟩
    rw [sources, shape, ← sources] at source
    rw [handles, shape, ← handles] at handle
    exact ⟨source, handle⟩
  · rintro ⟨source, handle⟩
    rw [sources, ← shape, ← sources] at source
    rw [handles, ← shape, ← handles] at handle
    exact ⟨source, handle⟩

theorem IsDeclared.congr (declared : edge.IsDeclared nodes) (same : edge.exit = other.exit) :
    other.IsDeclared nodes := by
  obtain ⟨sources, handles⟩ := Prod.mk.inj same
  unfold IsDeclared
  rw [← sources, ← handles]
  exact declared

/-- An edge that is declared leaves through an output. -/
theorem IsDeclared.exists_leavesAt (declared : edge.IsDeclared nodes) :
    ∃ place exit, edge.LeavesAt nodes place exit := by
  obtain ⟨node, source, handle⟩ := declared
  rw [List.find?_eq_bind_findIdx?_getElem?, Option.bind_eq_some_iff] at source
  obtain ⟨place, found, there⟩ := source
  have named : ∃ id ∈ node.outputIds, (id == edge.handle) = true := ⟨_, handle, beq_self_eq_true _⟩
  exact ⟨place, _, found, by rw [there, Option.bind_some, List.findIdx?_eq_some_of_exists named]⟩

/-- Edges that leave at one place have one exit. -/
theorem LeavesAt.exit_eq (leaves : edge.LeavesAt nodes place exit)
    (again : other.LeavesAt nodes place exit) : edge.exit = other.exit := by
  obtain ⟨inside, here, _⟩ := List.findIdx?_eq_some_iff_getElem.mp leaves.source
  obtain ⟨_, there, _⟩ := List.findIdx?_eq_some_iff_getElem.mp again.source
  have one := leaves.handle
  have another := again.handle
  rw [List.getElem?_eq_getElem inside, Option.bind_some, List.findIdx?_eq_some_iff_getElem]
    at one another
  obtain ⟨_, this, _⟩ := one
  obtain ⟨_, that, _⟩ := another
  rw [beq_iff_eq] at here there this that
  exact Prod.ext (here.symm.trans there) (this.symm.trans that)

/-! ## Giving an output its target -/

theorem untargeted_bindTarget (edge : Edge) (nodes : List Node) :
    (bindTarget edge nodes).map Node.untargeted = nodes.map Node.untargeted := by
  refine Graph.map_changeFirst (fun node => ?_) nodes
  have kept (output : Output) :
      ({ output with target := some edge.target } : Output).untargeted = output.untargeted := rfl
  exact congrArg (fun outputs => { node with outputs })
    (Graph.map_changeFirst kept node.outputs)

/-- **An edge gives its target to the output that it leaves through, and to no other.** -/
theorem targetAt?_bindTarget (leaves : edge.LeavesAt nodes place exit) (place' exit' : Nat) :
    targetAt? (bindTarget edge nodes) place' exit' =
      if place = place' ∧ exit = exit' then some (some edge.target)
      else targetAt? nodes place' exit' := by
  obtain ⟨node, there, handle⟩ := Option.bind_eq_some_iff.mp leaves.handle
  replace handle : node.outputs.findIdx? (fun output => output.id == edge.handle) = some exit := by
    rwa [Node.outputIds, List.findIdx?_map] at handle
  obtain ⟨inside, _⟩ := List.findIdx?_eq_some_iff_getElem.mp handle
  unfold targetAt? bindTarget
  rw [Graph.changeFirst_eq_modify _ leaves.source, List.getElem?_modify]
  by_cases here : place = place'
  · subst here
    rw [there]
    simp only [Option.map_eq_map, Option.map_some, Option.bind_some, if_true, true_and]
    rw [Graph.changeFirst_eq_modify _ handle, List.getElem?_modify]
    by_cases same : exit = exit'
    · subst same
      simp [List.getElem?_eq_getElem inside]
    · simp [same]
  · simp [here]

end Places

/-! ## Binding edge after edge -/

/-- What is known when some edges have been drawn: the nodes, apart from their targets, and
the exits of declared edges that are taken. -/
structure Progress.Follows (nodes : List Node) (drawn : List Edge) (progress : Progress) :
    Prop where
  shape : progress.nodes.map Node.untargeted = nodes.map Node.untargeted
  bound : ∀ edge : Edge, edge.IsDeclared nodes →
    (edge.exit ∈ progress.bound ↔ edge.exit ∈ boundOutputs nodes ∨ edge.exit ∈ drawn.map exit)

section Run

variable {nodes : List Node} {drawn : List Edge} {progress : Progress} {edge : Edge}

/-- **What drawing one edge does.** -/
theorem Progress.Follows.bind_eq (follows : progress.Follows nodes drawn) (edge : Edge) :
    bind progress edge =
      match misfit? nodes drawn edge with
      | some misfit => progress.refuse (edge.complaint misfit)
      | none =>
        ⟨bindTarget edge progress.nodes, edge.exit :: progress.bound, progress.problems⟩ := by
  have same := find?_of_shape follows.shape edge.source
  unfold bind misfit?
  cases source : nodes.find? fun node => node.id == edge.source with
  | none =>
      rw [source] at same
      rw [Option.map_eq_none_iff.mp same]
      rfl
  | some node =>
      rw [source] at same
      obtain ⟨other, found, shape⟩ := Option.map_eq_some_iff.mp same
      have id : other.id = edge.source := by simpa using List.find?_some found
      have declares : other.hasOutput edge.handle = node.hasOutput edge.handle := by
        rw [Bool.eq_iff_iff, Node.hasOutput_iff, Node.hasOutput_iff, ← other.outputIds_untargeted,
          shape, Node.outputIds_untargeted]
      rw [found]
      dsimp only
      rw [declares, id]
      cases declared : node.hasOutput edge.handle with
      | false => rfl
      | true =>
          have taken : progress.bound.contains (edge.source, edge.handle) =
              ((boundOutputs nodes).contains edge.exit || (drawn.map exit).contains edge.exit) := by
            rw [Bool.eq_iff_iff, Bool.or_eq_true, List.contains_iff_mem, List.contains_iff_mem,
              List.contains_iff_mem]
            exact follows.bound edge ⟨node, source, Node.hasOutput_iff.mp declared⟩
          rw [taken]
          cases (boundOutputs nodes).contains edge.exit || (drawn.map exit).contains edge.exit with
          | false => rfl
          | true => rfl

/-- **What is known stays known with every edge.** -/
theorem Progress.Follows.bind (follows : progress.Follows nodes drawn) (edge : Edge) :
    (Edge.bind progress edge).Follows nodes (edge :: drawn) := by
  rw [follows.bind_eq]
  cases found : misfit? nodes drawn edge with
  | none =>
      refine ⟨(untargeted_bindTarget ..).trans follows.shape, fun other declared => ?_⟩
      rw [List.mem_cons, follows.bound other declared, List.map_cons, List.mem_cons, or_left_comm]
  | some misfit =>
      refine ⟨follows.shape, fun other declared => (follows.bound other declared).trans ?_⟩
      -- An edge with a declared exit is refused only where that exit was taken before.
      have taken (same : other.exit = edge.exit) :
          edge.exit ∈ boundOutputs nodes ∨ edge.exit ∈ drawn.map exit := by
        by_contra free
        rw [not_or, exit_mem_boundOutputs_iff] at free
        have fits := misfit?_eq_none_iff.mpr ⟨declared.congr same, free⟩
        rw [fits] at found
        cases found
      rw [List.map_cons, List.mem_cons]
      constructor
      · exact Or.imp_right .inr
      · rintro (document | same | before)
        · exact .inl document
        · exact same ▸ taken same
        · exact .inr before

/-- **One message is added for every edge that misfits.** -/
theorem foldl_bind_problems (follows : progress.Follows nodes drawn) (rest : List Edge) :
    (rest.foldl bind progress).problems = progress.problems ++ refusals nodes drawn rest := by
  induction rest generalizing progress drawn with
  | nil => exact (List.append_nil _).symm
  | cons edge rest ih =>
      rw [List.foldl_cons, ih (follows.bind edge), follows.bind_eq, refusals, ← List.append_assoc]
      cases misfit? nodes drawn edge with
      | none => simp
      | some misfit => rfl

/-- **Edges that are not refused give their targets to the outputs they leave through.** -/
theorem foldl_bind_nodes (follows : progress.Follows nodes drawn) {rest : List Edge}
    (quiet : refusals nodes drawn rest = []) :
    Redirects rest progress.nodes (rest.foldl bind progress).nodes := by
  induction rest generalizing progress drawn with
  | nil => exact ⟨rfl, by simp, fun _ _ _ => rfl⟩
  | cons edge rest ih =>
      have next := follows.bind edge
      rw [refusals, List.append_eq_nil_iff] at quiet
      have fits : misfit? nodes drawn edge = none := by simpa using quiet.1
      have bound := follows.bind_eq edge
      rw [fits] at bound
      obtain ⟨_, apart⟩ := refusals_eq_nil_iff.mp quiet.2
      obtain ⟨shape, later, kept⟩ := ih next quiet.2
      rw [bound] at shape later kept
      rw [List.foldl_cons, bound]
      have changed := untargeted_bindTarget edge progress.nodes
      have declared := (misfit?_eq_none_iff.mp fits).1
      obtain ⟨place, exit, inDocument⟩ := declared.exists_leavesAt
      have leaves := (leavesAt_iff_of_shape follows.shape).mpr inDocument
      refine ⟨shape.trans changed, List.forall_mem_cons.mpr ⟨⟨place, exit, leaves, ?_⟩, ?_⟩, ?_⟩
      · rw [kept place exit fun other member again => ?_, targetAt?_bindTarget leaves,
          if_pos ⟨rfl, rfl⟩]
        refine apart other member ?_
        rw [((leavesAt_iff_of_shape changed).mp again).exit_eq leaves, List.map_cons]
        exact List.mem_cons_self ..
      · intro other member
        obtain ⟨place, exit, leaves, target⟩ := later other member
        exact ⟨place, exit, (leavesAt_iff_of_shape changed).mp leaves, target⟩
      · intro place' exit' none
        rw [List.forall_mem_cons] at none
        rw [kept place' exit' fun other member again =>
          none.2 other member ((leavesAt_iff_of_shape changed).mp again),
          targetAt?_bindTarget leaves, if_neg]
        rintro ⟨rfl, rfl⟩
        exact none.1 leaves

end Run

section All

variable {nodes : List Node}

/-- Before any edge is drawn, the document says what is bound. -/
theorem follows_nil (nodes : List Node) :
    Progress.Follows nodes [] ⟨nodes, boundOutputs nodes, []⟩ :=
  ⟨rfl, fun _ _ => by simp⟩

/-- **The problems found are the messages about the edges that misfit.** -/
theorem bindAll_problems (nodes : List Node) (edges : List Edge) :
    (bindAll nodes edges).problems = refusals nodes [] edges :=
  foldl_bind_problems (follows_nil nodes) edges

theorem bindAll_redirects {edges : List Edge} (quiet : (bindAll nodes edges).problems = []) :
    Redirects edges nodes (bindAll nodes edges).nodes := by
  rw [bindAll_problems] at quiet
  exact foldl_bind_nodes (follows_nil nodes) quiet

theorem bindAll_problems_eq_nil_iff {edges : List Edge} :
    (bindAll nodes edges).problems = [] ↔ Fit nodes edges := by
  rw [bindAll_problems, refusals_eq_nil_iff]
  simp

theorem bindAll_reports (nodes : List Node) (edges : List Edge) :
    Reports (bindAll nodes edges).problems
      (fun finding : Finding Edge Misfit => finding.item.complaint finding.found)
      fun finding => edges[finding.place]? = some finding.item ∧
        finding.item.Misfits nodes (edges.take finding.place) finding.found := by
  rw [bindAll_problems]
  refine (refusals_reports nodes edges []).congr fun finding => ?_
  rw [List.append_nil, misfits_reverse_iff]

end All

end Edge

/-- **Every edge is bound once, or refused.**  The problems are one message for each edge that has
an unknown source, an output not declared, or one that was bound before.  There are none exactly
where all edges fit; then each gives its target to the output it leaves through, and nothing else
changes.  Drawn in another order, the edges lead to the same messages, in another order, and the
same nodes. -/
theorem edges_bind_once (nodes : List Node) {items : List Value}
    (valid : ∀ item ∈ items, Schema.issues [] item Schema.edge = .ok []) :
    let edges := Document.edgesOf items
    let progress := Edge.bindAll nodes edges
    List.Forall₂ Edge.IsDrawnAs edges items ∧
      Reports progress.problems
        (fun finding : Finding Edge Edge.Misfit => finding.item.complaint finding.found)
        (fun finding => edges[finding.place]? = some finding.item ∧
          finding.item.Misfits nodes (edges.take finding.place) finding.found) ∧
      (∀ {edge : Edge} {earlier : List Edge} {one another : Edge.Misfit},
        edge.Misfits nodes earlier one → edge.Misfits nodes earlier another → one = another) ∧
      (progress.problems = [] ↔ Edge.Fit nodes edges) ∧
      (progress.problems = [] → Edge.Redirects edges nodes progress.nodes) ∧
      ∀ others, others.Perm items →
        let again := Edge.bindAll nodes (Document.edgesOf others)
        again.problems.Perm progress.problems ∧
          (progress.problems = [] → again.nodes = progress.nodes) := by
  intro edges progress
  refine ⟨?_, Edge.bindAll_reports nodes edges, Edge.Misfits.unique,
    Edge.bindAll_problems_eq_nil_iff, Edge.bindAll_redirects, fun others order => ?_⟩
  · refine List.forall₂_map_left_iff.mpr (List.forall₂_same.mpr fun item member => ?_)
    have obeys := (Schema.issues_eq_nil_iff [] item Schema.edge).mp (valid item member)
    exact Document.isDrawnAs_readEdge obeys
  · have drawn : (Document.edgesOf others).Perm edges := order.map _
    have problems : (Edge.bindAll nodes (Document.edgesOf others)).problems.Perm
        (Edge.bindAll nodes edges).problems := by
      rw [Edge.bindAll_problems, Edge.bindAll_problems]
      exact Edge.refusals_perm drawn
    refine ⟨problems, fun quiet => ?_⟩
    have quietAgain := List.perm_nil.mp (quiet ▸ problems)
    exact (Edge.bindAll_redirects quietAgain).unique (fun edge => drawn.mem_iff)
      (Edge.bindAll_redirects quiet)

namespace Booth

/-- Three nodes, of which one has an output with a target and two have the same id. -/
def stations : List Node := [
  ⟨"touch", Kind.touchToStart, "", [], [⟨"default", "", "default", none⟩], false, []⟩,
  ⟨"pay", "PAYMENT", "", [],
    [⟨"default", "", "default", none⟩, ⟨"vip", "", "default", some "touch"⟩], false, []⟩,
  ⟨"pay", "PAYMENT", "", [], [⟨"exit", "", "default", none⟩], false, []⟩]

/-- Edges of which only the first two fit. -/
def tangle : List Value := [
  .record (Record.ofFields [("source", .text "touch"), ("target", .text "pay")]),
  .record (Record.ofFields [("source", .text "pay"), ("target", .text "gone"),
    ("sourceHandle", .null)]),
  .record (Record.ofFields [("source", .text "lounge"), ("target", .text "pay")]),
  .record (Record.ofFields [("source", .text "pay"), ("target", .text "touch"),
    ("sourceHandle", .text "exit")]),
  .record (Record.ofFields [("source", .text "pay"), ("target", .text "pay"),
    ("sourceHandle", .text "vip")]),
  .record (Record.ofFields [("source", .text "touch"), ("target", .text "touch"),
    ("sourceHandle", .text "")])]

/-- Four edges are refused, the other way round in the other order; the first two redirect. -/
theorem tangle_is_sorted_out :
    (Edge.bindAll stations (Document.edgesOf tangle)).problems = [
      "Edge source 'lounge' not found in nodes",
      "Edge from node 'pay' uses undeclared output 'exit'",
      "Output 'vip' of node 'pay' is bound to more than one node",
      "Output 'default' of node 'touch' is bound to more than one node"] ∧
    ¬Edge.Fit stations (Document.edgesOf tangle) ∧
    (Edge.bindAll stations (Document.edgesOf tangle.reverse)).problems.Perm
      (Edge.bindAll stations (Document.edgesOf tangle)).problems ∧
    Edge.Redirects (Document.edgesOf (tangle.take 2)) stations
      (Edge.bindAll stations (Document.edgesOf (tangle.take 2))).nodes := by
  have valid : ∀ item ∈ tangle, Schema.issues [] item Schema.edge = .ok [] := by decide +kernel
  have problems : (Edge.bindAll stations (Document.edgesOf tangle)).problems = [
      "Edge source 'lounge' not found in nodes",
      "Edge from node 'pay' uses undeclared output 'exit'",
      "Output 'vip' of node 'pay' is bound to more than one node",
      "Output 'default' of node 'touch' is bound to more than one node"] := by decide +kernel
  obtain ⟨_, _, _, fit_iff, _, reordered⟩ := edges_bind_once stations valid
  obtain ⟨_, _, _, _, redirects, _⟩ := edges_bind_once stations fun item member =>
    valid item (List.mem_of_mem_take (i := 2) member)
  refine ⟨problems, fun fits => ?_, (reordered _ (List.reverse_perm tangle)).1,
    redirects (by decide +kernel)⟩
  have none := fit_iff.mpr fits
  rw [problems] at none
  cases none

end Booth

end GuestFlow
