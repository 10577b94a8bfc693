import GuestFlow.Value.Record
import GuestFlow.Yaml.Node
import GuestFlow.Yaml.Scalar

/-!
# What nodes mean

A node of a known tag has a value.  A mapping may take over the entries of others with a
merge key; its own entries count more, and of several merged mappings the first.  Keys of
mappings and members of sets cannot be collections.

A text can fail in several places.  Collections are filled level by level from the
outside, so the failure of the outermost level is reported, and on one level the first:
`Outcome` keeps the level of a failure.
-/

set_option autoImplicit false

namespace GuestFlow.Yaml

/-- A failure, and how many levels below a node it shows. -/
structure Problem where
  level : Nat
  failure : Failure

/-- What a node means as far as it can be said, and the failure that is reported for it. -/
structure Outcome where
  value : Value
  problem : Option Problem

namespace Outcome

/-- Of two problems the one that is reported: the outer one, or else the first. -/
def outermost (first second : Option Problem) : Option Problem :=
  match first, second with
  | some left, some right => if right.level < left.level then second else first
  | none, _ => second
  | some _, none => first

def outermostOf (problems : List (Option Problem)) : Option Problem :=
  problems.foldl outermost none

/-- A problem of a part as it shows from its collection. -/
def inside (problem : Option Problem) : Option Problem :=
  problem.map fun found => { found with level := found.level + 1 }

/-- The text is malformed on a level. -/
def malformed (level : Nat) : Outcome := ⟨.null, some ⟨level, .malformed⟩⟩

/-- The outcome of a scalar. -/
def ofScalar : Except Failure Value → Outcome
  | .ok value => ⟨value, none⟩
  | .error failure => ⟨.null, some ⟨0, failure⟩⟩

/-- A sequence of the parts of a collection. -/
def ofItems (items : List Outcome) : Outcome :=
  ⟨.list (items.map Outcome.value), inside (outermostOf (items.map Outcome.problem))⟩

end Outcome

/-- An entry of a mapping whose key and value have been read. -/
structure Entry where
  key : Outcome
  value : Outcome

namespace Entry

/-- What is reported for an entry: its key may have no value or be no key, or its value fails. -/
def problem (entry : Entry) : Option Problem :=
  let collection : Option Problem :=
    if entry.key.value.unhashable?.isSome then some ⟨0, .malformed⟩ else none
  Outcome.outermostOf [entry.key.problem, collection, entry.value.problem]

/-- The same where any value may stand in place of a key. -/
def pairProblem (entry : Entry) : Option Problem :=
  Outcome.outermost entry.key.problem entry.value.problem

def record (entries : List Entry) : Record :=
  Record.ofEntries (entries.map fun entry => (entry.key.value, entry.value.value))

def pair (entry : Entry) : Value := .tuple [entry.key.value, entry.value.value]

end Entry

namespace Node

def tag : Node → Tag
  | .scalar tag _ => tag
  | .sequence tag _ => tag
  | .mapping tag _ => tag
  | .endless beginning => beginning.tag

mutual

/-- The text of a node where a scalar is asked for: of a mapping that of its default value. -/
def scalarText? : Node → Option String
  | .scalar _ content => some content
  | .sequence _ _ => none
  | .mapping _ entries => defaultText? entries
  | .endless _ => none

/-- The text of the value whose key is an equals sign. -/
def defaultText? : List (Node × Node) → Option String
  | [] => none
  | (key, value) :: rest => if key.tag = .value then scalarText? value else defaultText? rest

end

/-- An equals sign as a key is a text. -/
def keyText (key : Node) : Except Failure Value :=
  match key.scalarText? with
  | some content => .ok (.text content)
  | none => .error .malformed

/-- The value of a mapping with the tag of a scalar, which is that of its default text.  A moment is
searched for in the mapping itself, and that fails. -/
def readDefault (tag : Tag) (content : String) : Except Failure Value :=
  match tag with
  | .timestamp => .error (.fault (.unsearchable "list"))
  | _ => Scalar.read tag content

/-- Merged entries in front of those of a mapping itself. -/
structure Flattened where
  merged : List Entry
  own : List Entry

def Flattened.all (flattened : Flattened) : List Entry := flattened.merged ++ flattened.own

/-- A mapping as its entries; no entries where something cannot be merged. -/
def ofFlattened : Option Flattened → Outcome
  | none => Outcome.malformed 1
  | some flattened =>
    ⟨.record (Entry.record flattened.all),
      Outcome.inside (Outcome.outermostOf (flattened.all.map Entry.problem))⟩

/-- A set as the keys of its entries. -/
def setOfFlattened (flattened : Option Flattened) : Outcome :=
  match ofFlattened flattened with
  | ⟨.record entries, problem⟩ => ⟨.set (Record.keys entries), problem⟩
  | outcome => outcome

/-- Pairs in their order, each from a mapping of a single entry. -/
def ofPairs (pairs : List (Option Entry)) : Outcome :=
  let problem (pair : Option Entry) : Option Problem :=
    match pair with
    | some entry => entry.pairProblem
    | none => some ⟨0, .malformed⟩
  ⟨.list (pairs.filterMap fun pair => pair.map Entry.pair),
    Outcome.inside (Outcome.outermostOf (pairs.map problem))⟩

mutual

/-- What a node means. -/
def outcome : Node → Outcome
  | .scalar tag content =>
    match tag with
    | .seq | .map | .set | .omap | .pairs => Outcome.malformed 1
    | _ => Outcome.ofScalar (Scalar.read tag content)
  | .sequence tag items =>
    match tag with
    | .seq => Outcome.ofItems (outcomes items)
    | .omap | .pairs => ofPairs (pairsOf items)
    | .map | .set => Outcome.malformed 1
    | _ => Outcome.malformed 0
  | .mapping tag entries =>
    match tag with
    | .map => ofFlattened (flatten entries)
    | .set => setOfFlattened (flatten entries)
    | .seq | .omap | .pairs => Outcome.malformed 1
    | _ =>
      match defaultText? entries with
      | some content => Outcome.ofScalar (readDefault tag content)
      | none => Outcome.malformed 0
  | .endless beginning => outcome beginning

def outcomes : List Node → List Outcome
  | [] => []
  | item :: rest => outcome item :: outcomes rest

/-- The single entry of every mapping in a list. -/
def pairsOf : List Node → List (Option Entry)
  | [] => []
  | .mapping _ [(key, value)] :: rest => some ⟨outcome key, outcome value⟩ :: pairsOf rest
  | _ :: rest => none :: pairsOf rest

/-- The entries of a mapping, with those that it takes over. -/
def flatten : List (Node × Node) → Option Flattened
  | [] => some ⟨[], []⟩
  | (key, value) :: rest =>
    match flatten rest with
    | none => none
    | some flattened =>
      if key.tag = .merge then
        (mergedFrom value).map fun added => { flattened with merged := added ++ flattened.merged }
      else
        let read :=
          if key.tag = .value then Outcome.ofScalar (keyText key) else outcome key
        some { flattened with own := ⟨read, outcome value⟩ :: flattened.own }

/-- The entries that a merge key takes over: those of a mapping, or of the mappings in a list, the
first of which counts most. -/
def mergedFrom : Node → Option (List Entry)
  | .scalar _ _ => none
  | .mapping _ entries => (flatten entries).map Flattened.all
  | .sequence _ items => mergedFromAll items
  | .endless _ => none

def mergedFromAll : List Node → Option (List Entry)
  | [] => some []
  | .mapping _ entries :: rest =>
    match flatten entries, mergedFromAll rest with
    | some first, some others => some (others ++ first.all)
    | _, _ => none
  | _ :: _ => none

end

/-- The value of a node. -/
def value (node : Node) : Except Failure Value :=
  match node.outcome with
  | ⟨_, some problem⟩ => .error problem.failure
  | ⟨value, none⟩ => .ok value

end Node

end GuestFlow.Yaml
