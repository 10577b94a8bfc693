import GuestFlow.Proofs.Script.Tokens
import GuestFlow.Yaml.Reader

/-!
# Scripts as YAML

The tokens of a script describe one node (`Script.node`), and that node means what the script
writes (`Script.means`).  Names are always texts, because they are quoted, so no member is
a merge key or a default value.  Together with the tokens this gives `Page.readYaml`: the YAML
reader takes a page for the value that it writes.
-/

set_option autoImplicit false

namespace GuestFlow

open Yaml (Token Tag)
open Yaml.Node (Reading)

namespace Script

mutual

/-- The node that a script describes. -/
def node : Script → Yaml.Node
  | word said => .scalar (Tag.ofPlain said.text) said.text
  | number figure =>
    .scalar (Tag.ofPlain (String.ofList figure.characters)) (String.ofList figure.characters)
  | string glyphs => .scalar .str (Glyph.content glyphs)
  | emptyArray _ => .sequence .seq []
  | array ⟨_, content, _⟩ others => .sequence .seq (content.node :: itemNodes others)
  | emptyObject _ => .mapping .map []
  | object ⟨_, name, _, content, _⟩ others =>
    .mapping .map ((.scalar .str (Glyph.content name.glyphs), content.node) :: memberNodes others)

def itemNodes : List (Item Script) → List Yaml.Node
  | [] => []
  | ⟨_, content, _⟩ :: rest => content.node :: itemNodes rest

def memberNodes : List (Member Script) → List (Yaml.Node × Yaml.Node)
  | [] => []
  | ⟨_, name, _, content, _⟩ :: rest =>
    (.scalar .str (Glyph.content name.glyphs), content.node) :: memberNodes rest

end

/-! ## Reading nodes -/

/-- The tokens that nodes of scripts begin with. -/
def Opens : Token → Prop
  | .scalar _ _ | .flowSequenceStart | .flowMappingStart => True
  | _ => False

theorem exists_opening (script : Script) :
    ∃ first later, script.tokens = first :: later ∧ Opens first := by
  cases script with
  | word said => exact ⟨_, _, rfl, trivial⟩
  | number figure => exact ⟨_, _, rfl, trivial⟩
  | string glyphs => exact ⟨_, _, rfl, trivial⟩
  | emptyArray gap => exact ⟨_, _, rfl, trivial⟩
  | array first others => exact ⟨_, _, rfl, trivial⟩
  | emptyObject gap => exact ⟨_, _, rfl, trivial⟩
  | object first others => exact ⟨_, _, rfl, trivial⟩

section Reading

variable {reading : Reading} {first : Token} {rest : List Token}

theorem next_eq (standing : reading.left = first :: rest) : reading.next = first := by
  rw [Reading.next, standing]
  rfl

/-- Nothing stands in front of a node of a script. -/
theorem readNode_opens (standing : reading.left = first :: rest) (opens : Opens first)
    (fuel : Nat) (place : Yaml.Node.Place) :
    Yaml.Node.readNode (fuel + 1) place reading =
      Yaml.Node.readContent fuel place ⟨none, none⟩ reading := by
  have bare : reading.takeProperties = (none, none, reading) := by
    unfold Reading.takeProperties
    rw [standing]
    cases first <;> first | rfl | cases opens
  have properties : reading.properties = .ok (⟨none, none⟩, reading) := by
    unfold Reading.properties
    rw [bare]
    rfl
  rw [Yaml.Node.readNode, next_eq standing]
  split
  · cases opens
  · rw [properties]
    dsimp only [bind, Except.bind, Reading.introduce, Reading.close]
    cases Yaml.Node.readContent fuel place ⟨none, none⟩ reading <;> rfl

theorem readContent_scalar {content : String} {isPlain : Bool}
    (standing : reading.left = .scalar content isPlain :: rest) (fuel : Nat)
    (place : Yaml.Node.Place) :
    Yaml.Node.readContent (fuel + 1) place ⟨none, none⟩ reading =
      .ok (.scalar (if isPlain then Tag.ofPlain content else .str) content,
        { reading with left := rest }) := by
  rw [Yaml.Node.readContent, next_eq standing]
  dsimp only
  rw [if_neg (by simp)]
  dsimp only [Reading.skip]
  rw [standing]
  rfl

theorem readContent_array (standing : reading.left = .flowSequenceStart :: rest) (fuel : Nat)
    (place : Yaml.Node.Place) :
    Yaml.Node.readContent (fuel + 1) place ⟨none, none⟩ reading =
      (Yaml.Node.readFlowItems fuel true { reading with left := rest }).map
        fun (items, after) => (.sequence .seq items, after) := by
  rw [Yaml.Node.readContent, next_eq standing]
  dsimp only
  rw [if_neg (by simp)]
  dsimp only [Reading.skip, bind, Except.bind]
  rw [standing]
  dsimp only [List.tail_cons]
  cases Yaml.Node.readFlowItems fuel true { reading with left := rest } <;> rfl

theorem readContent_object (standing : reading.left = .flowMappingStart :: rest) (fuel : Nat)
    (place : Yaml.Node.Place) :
    Yaml.Node.readContent (fuel + 1) place ⟨none, none⟩ reading =
      (Yaml.Node.readFlowEntries fuel true { reading with left := rest }).map
        fun (entries, after) => (.mapping .map entries, after) := by
  rw [Yaml.Node.readContent, next_eq standing]
  dsimp only
  rw [if_neg (by simp)]
  dsimp only [Reading.skip, bind, Except.bind]
  rw [standing]
  dsimp only [List.tail_cons]
  cases Yaml.Node.readFlowEntries fuel true { reading with left := rest } <;> rfl

end Reading

/-- The tokens of a script are read as its node, wherever they stand. -/
def IsParsed (script : Script) : Prop :=
  ∀ (fuel : Nat) (place : Yaml.Node.Place) (reading : Reading) (rest : List Token),
    reading.left = script.tokens ++ rest → 4 * script.tokens.length ≤ fuel →
      Yaml.Node.readNode fuel place reading = .ok (script.node, { reading with left := rest })

theorem isParsed_scalar {script : Script} {content : String} {isPlain : Bool}
    (cut : script.tokens = [.scalar content isPlain])
    (described : script.node = .scalar (if isPlain then Tag.ofPlain content else .str) content) :
    IsParsed script := by
  intro fuel place reading rest standing enough
  rw [cut] at standing enough
  have standing : reading.left = .scalar content isPlain :: rest := standing
  obtain ⟨fuel, rfl⟩ : ∃ less, fuel = less + 2 := ⟨fuel - 2, by
    simp only [List.length_cons, List.length_nil] at enough
    omega⟩
  rw [readNode_opens standing trivial, readContent_scalar standing, described]

section Collections

variable {reading last : Reading} {content : Script} {rest : List Token} {fuel : Nat}

/-! ## Items -/

theorem readFlowItems_end (standing : reading.left = .flowSequenceEnd :: rest) (isFirst : Bool) :
    Yaml.Node.readFlowItems (fuel + 1) isFirst reading =
      .ok ([], { reading with left := rest }) := by
  rw [Yaml.Node.readFlowItems, next_eq standing, if_pos rfl, Reading.skip, standing]
  rfl

/-- An item is followed by the others. -/
theorem readFlowItems_item {items : List Yaml.Node} (parsed : IsParsed content)
    (standing : reading.left = content.tokens ++ rest) (enough : 4 * content.tokens.length ≤ fuel)
    (readOn : Yaml.Node.readFlowItems fuel false { reading with left := rest } =
      .ok (items, last)) :
    Yaml.Node.readFlowItems (fuel + 1) true reading = .ok (content.node :: items, last) := by
  have read := parsed fuel .flow reading rest standing enough
  obtain ⟨first, later, written, opens⟩ := content.exists_opening
  rw [written] at standing
  have noEnd : first ≠ .flowSequenceEnd := by rintro rfl; exact opens
  have noKey : first ≠ .key := by rintro rfl; exact opens
  rw [Yaml.Node.readFlowItems, next_eq standing, if_neg noEnd]
  dsimp only [bind, Except.bind]
  rw [if_pos rfl, next_eq standing, if_neg noEnd, if_neg noKey, read]
  dsimp only
  rw [readOn]

/-- Behind a comma an item is read like the first one. -/
theorem readFlowItems_comma (standing : reading.left = .flowEntry :: (content.tokens ++ rest)) :
    Yaml.Node.readFlowItems (fuel + 1) false reading =
      Yaml.Node.readFlowItems (fuel + 1) true { reading with left := content.tokens ++ rest } := by
  obtain ⟨first, later, written, opens⟩ := content.exists_opening
  have noEnd : first ≠ .flowSequenceEnd := by rintro rfl; exact opens
  have next : Reading.next { reading with left := content.tokens ++ rest } = first :=
    next_eq (by rw [written]; rfl)
  have entered : reading.expect .flowEntry =
      .ok { reading with left := content.tokens ++ rest } := by
    rw [Reading.expect, next_eq standing, if_pos rfl, Reading.skip, standing]
    rfl
  rw [Yaml.Node.readFlowItems, Yaml.Node.readFlowItems, next_eq standing, next, if_neg noEnd,
    if_neg (by decide), entered]
  rfl

theorem readFlowItems_eq {others : List (Item Script)}
    (each : ∀ item ∈ others, IsParsed item.content) (parsed : IsParsed content)
    (standing : reading.left = content.tokens ++ (itemTokens others ++ .flowSequenceEnd :: rest))
    (enough : 4 * (content.tokens.length + (itemTokens others).length + 1) ≤ fuel) :
    Yaml.Node.readFlowItems fuel true reading =
      .ok (content.node :: itemNodes others, { reading with left := rest }) := by
  induction others generalizing content fuel reading with
  | nil =>
      obtain ⟨fuel, rfl⟩ : ∃ less, fuel = less + 2 := ⟨fuel - 2, by omega⟩
      exact readFlowItems_item parsed standing (by omega) (readFlowItems_end rfl false)
  | cons item others ih =>
      obtain ⟨fuel, rfl⟩ : ∃ less, fuel = less + 2 := ⟨fuel - 2, by omega⟩
      obtain ⟨before, next, after⟩ := item
      rw [List.forall_mem_cons] at each
      simp only [itemTokens, List.length_cons, List.length_append] at enough
      simp only [itemTokens, List.cons_append, List.append_assoc] at standing
      refine readFlowItems_item parsed standing (by omega) ?_
      rw [readFlowItems_comma rfl]
      exact ih each.2 each.1 rfl (by omega)

/-! ## Members -/

theorem readFlowEntries_end (standing : reading.left = .flowMappingEnd :: rest)
    (isFirst : Bool) :
    Yaml.Node.readFlowEntries (fuel + 1) isFirst reading =
      .ok ([], { reading with left := rest }) := by
  rw [Yaml.Node.readFlowEntries, next_eq standing, if_pos rfl, Reading.skip, standing]
  rfl

/-- What begins with the token of a node was not left out. -/
theorem readPart_opens {first : Token} (standing : reading.left = first :: rest)
    (place : Yaml.Node.Place) {isLeftOut : Token → Bool} (there : isLeftOut first = false) :
    Yaml.Node.readPart (fuel + 1) place isLeftOut reading =
      Yaml.Node.readNode fuel place reading := by
  rw [Yaml.Node.readPart, next_eq standing, there, if_neg Bool.false_ne_true]

/-- A member with its name and its colon is followed by the others. -/
theorem readFlowEntries_member {name : String} {entries : List (Yaml.Node × Yaml.Node)}
    (parsed : IsParsed content)
    (standing : reading.left = .key :: .scalar name false :: .value :: (content.tokens ++ rest))
    (enough : 4 * content.tokens.length ≤ fuel + 1)
    (readOn : Yaml.Node.readFlowEntries (fuel + 3) false { reading with left := rest } =
      .ok (entries, last)) :
    Yaml.Node.readFlowEntries (fuel + 4) true reading =
      .ok ((.scalar .str name, content.node) :: entries, last) := by
  have named : Yaml.Node.readPart (fuel + 3) .flow
      (fun next => next == .value || Yaml.Node.endsFlowPart next) reading.skip =
        .ok (.scalar .str name, { reading with left := .value :: (content.tokens ++ rest) }) := by
    have standing : reading.skip.left =
        .scalar name false :: .value :: (content.tokens ++ rest) := by
      rw [Reading.skip, standing]
      rfl
    rw [readPart_opens standing .flow rfl, readNode_opens standing trivial,
      readContent_scalar standing]
    rfl
  have valued : Yaml.Node.readValue (fuel + 3) .flow Yaml.Node.endsFlowPart
      { reading with left := .value :: (content.tokens ++ rest) } =
        .ok (content.node, { reading with left := rest }) := by
    have colon : Reading.next { reading with left := .value :: (content.tokens ++ rest) } =
        .value := rfl
    have read := parsed (fuel + 1) .flow { reading with left := content.tokens ++ rest } rest rfl
      enough
    obtain ⟨first, later, written, opens⟩ := content.exists_opening
    have there : Yaml.Node.endsFlowPart first = false := by
      cases first <;> first | rfl | cases opens
    have part := @readPart_opens { reading with left := content.tokens ++ rest } (later ++ rest)
      (fuel + 1) first (by rw [written]; rfl) .flow _ there
    rw [Yaml.Node.readValue, colon, if_pos rfl]
    exact part.trans read
  rw [Yaml.Node.readFlowEntries, next_eq standing, if_neg (by decide)]
  dsimp only [bind, Except.bind]
  rw [if_pos rfl, next_eq standing, if_neg (by decide), if_pos rfl, named]
  dsimp only
  rw [valued]
  dsimp only
  rw [readOn]

theorem readFlowEntries_comma (standing : reading.left = .flowEntry :: .key :: rest) :
    Yaml.Node.readFlowEntries (fuel + 1) false reading =
      Yaml.Node.readFlowEntries (fuel + 1) true { reading with left := .key :: rest } := by
  have next : Reading.next { reading with left := .key :: rest } = .key := rfl
  have entered : reading.expect .flowEntry = .ok { reading with left := .key :: rest } := by
    rw [Reading.expect, next_eq standing, if_pos rfl, Reading.skip, standing]
    rfl
  rw [Yaml.Node.readFlowEntries, Yaml.Node.readFlowEntries, next_eq standing, next,
    if_neg (by decide), if_neg (by decide), entered]
  rfl

theorem readFlowEntries_eq {others : List (Member Script)}
    (each : ∀ member ∈ others, IsParsed member.content) {name : Name} (parsed : IsParsed content)
    (standing : reading.left = .key :: .scalar (Glyph.content name.glyphs) false :: .value ::
      (content.tokens ++ (memberTokens others ++ .flowMappingEnd :: rest)))
    (enough : 4 * (content.tokens.length + (memberTokens others).length + 2) ≤ fuel) :
    Yaml.Node.readFlowEntries fuel true reading =
      .ok ((.scalar .str (Glyph.content name.glyphs), content.node) :: memberNodes others,
        { reading with left := rest }) := by
  induction others generalizing name content fuel reading with
  | nil =>
      obtain ⟨fuel, rfl⟩ : ∃ less, fuel = less + 4 := ⟨fuel - 4, by omega⟩
      exact readFlowEntries_member parsed standing (by omega) (readFlowEntries_end rfl false)
  | cons member others ih =>
      obtain ⟨fuel, rfl⟩ : ∃ less, fuel = less + 4 := ⟨fuel - 4, by omega⟩
      obtain ⟨before, next, between, nextContent, after⟩ := member
      rw [List.forall_mem_cons] at each
      simp only [memberTokens, List.length_cons, List.length_append] at enough
      simp only [memberTokens, List.cons_append, List.append_assoc] at standing
      refine readFlowEntries_member parsed standing (by omega) ?_
      rw [readFlowEntries_comma rfl]
      exact ih each.2 each.1 rfl (by omega)

end Collections

/-! ## Scripts -/

theorem isParsed_emptyArray (gap : Gap) : IsParsed (.emptyArray gap) := by
  intro fuel place reading rest standing enough
  obtain ⟨fuel, rfl⟩ : ∃ less, fuel = less + 3 := ⟨fuel - 3, by
    simp only [tokens, List.length_cons, List.length_nil] at enough
    omega⟩
  rw [readNode_opens standing trivial, readContent_array standing, readFlowItems_end rfl]
  rfl

theorem isParsed_array {first : Item Script} {others : List (Item Script)}
    (ofFirst : IsParsed first.content) (each : ∀ item ∈ others, IsParsed item.content) :
    IsParsed (.array first others) := by
  intro fuel place reading rest standing enough
  obtain ⟨before, content, after⟩ := first
  replace ofFirst : IsParsed content := ofFirst
  simp only [tokens, List.cons_append, List.append_assoc, List.nil_append] at standing
  simp only [tokens, List.length_cons, List.length_append, List.length_nil] at enough
  obtain ⟨fuel, rfl⟩ : ∃ less, fuel = less + 2 := ⟨fuel - 2, by omega⟩
  rw [readNode_opens standing trivial, readContent_array standing,
    readFlowItems_eq each ofFirst rfl (by omega)]
  rfl

theorem isParsed_emptyObject (gap : Gap) : IsParsed (.emptyObject gap) := by
  intro fuel place reading rest standing enough
  obtain ⟨fuel, rfl⟩ : ∃ less, fuel = less + 3 := ⟨fuel - 3, by
    simp only [tokens, List.length_cons, List.length_nil] at enough
    omega⟩
  rw [readNode_opens standing trivial, readContent_object standing, readFlowEntries_end rfl]
  rfl

theorem isParsed_object {first : Member Script} {others : List (Member Script)}
    (ofFirst : IsParsed first.content) (each : ∀ member ∈ others, IsParsed member.content) :
    IsParsed (.object first others) := by
  intro fuel place reading rest standing enough
  obtain ⟨before, name, between, content, after⟩ := first
  replace ofFirst : IsParsed content := ofFirst
  simp only [tokens, List.cons_append, List.append_assoc, List.nil_append] at standing
  simp only [tokens, List.length_cons, List.length_append, List.length_nil] at enough
  obtain ⟨fuel, rfl⟩ : ∃ less, fuel = less + 2 := ⟨fuel - 2, by omega⟩
  rw [readNode_opens standing trivial, readContent_object standing,
    readFlowEntries_eq each ofFirst rfl (by omega)]
  rfl

/-- **The tokens of a script are read as its node.** -/
theorem isParsed (script : Script) : IsParsed script := by
  induction script using induct with
  | word said => exact @isParsed_scalar (.word said) _ true rfl rfl
  | number figure => exact @isParsed_scalar (.number figure) _ true rfl rfl
  | string glyphs => exact @isParsed_scalar (.string glyphs) _ false rfl rfl
  | emptyArray gap => exact isParsed_emptyArray gap
  | array first others ofFirst each => exact isParsed_array ofFirst each
  | emptyObject gap => exact isParsed_emptyObject gap
  | object first others ofFirst each => exact isParsed_object ofFirst each

/-- The node of a page is the node of its root. -/
theorem Page.ofTokens?_eq (page : Page) :
    Yaml.Node.ofTokens? (Yaml.tokens page.characters) = .ok (some page.root.node) := by
  have enough : 4 * page.root.tokens.length ≤
      Yaml.Node.fuelFor (page.root.tokens ++ [.streamEnd]) := by
    rw [Yaml.Node.fuelFor, List.length_append]
    omega
  have parsed := page.root.isParsed _ .block
    ⟨page.root.tokens ++ [.streamEnd], [], Yaml.Node.usualHandles⟩ [.streamEnd] rfl enough
  have read : Yaml.Node.readDocument Yaml.Node.usualHandles (page.root.tokens ++ [.streamEnd]) =
      .ok page.root.node := by
    unfold Yaml.Node.readDocument
    rw [parsed]
    rfl
  rw [page.tokens_eq]
  obtain ⟨first, later, written, opens⟩ := page.root.exists_opening
  rw [written] at read ⊢
  have inside : Yaml.Node.isOutside first = false := by cases first <;> first | rfl | cases opens
  have noEnd : first ≠ .streamEnd := by rintro rfl; exact opens
  rw [List.cons_append] at read ⊢
  unfold Yaml.Node.ofTokens?
  split
  · rename_i ended
    exact absurd (List.cons.inj ended).1 noEnd
  · rename_i same
    obtain ⟨rfl, rfl⟩ := List.cons.inj same
    rw [inside, if_neg Bool.false_ne_true, read]
    rfl
  · rename_i none
    cases none

/-! ## The values of nodes -/

/-- The tags that no scalar has a value with. -/
def collectionTags : List Tag := [.seq, .map, .set, .omap, .pairs]

theorem outcome_scalar {tag : Tag} (noCollection : tag ∉ collectionTags) (content : String) :
    Yaml.Node.outcome (.scalar tag content) =
      Yaml.Outcome.ofScalar (Yaml.Scalar.read tag content) := by
  rw [Yaml.Node.outcome]
  all_goals
    rintro rfl
    exact noCollection (by decide)

/-- Where nothing has a problem there is none to report. -/
theorem outermostOf_eq_none {problems : List (Option Yaml.Problem)}
    (fine : ∀ problem ∈ problems, problem = none) : Yaml.Outcome.outermostOf problems = none := by
  unfold Yaml.Outcome.outermostOf
  induction problems with
  | nil => rfl
  | cons first rest ih =>
      obtain ⟨rfl, later⟩ := List.forall_mem_cons.mp fine
      exact ih later

theorem ofItems_eq (values : List Value) :
    Yaml.Outcome.ofItems (values.map (⟨·, none⟩)) = ⟨.list values, none⟩ := by
  have fine : Yaml.Outcome.outermostOf ((values.map fun value => (⟨value, none⟩ : Yaml.Outcome)).map
      Yaml.Outcome.problem) = none := by
    refine outermostOf_eq_none fun problem member => ?_
    simp only [List.map_map, List.mem_map] at member
    obtain ⟨value, -, rfl⟩ := member
    rfl
  rw [Yaml.Outcome.ofItems, fine, List.map_map]
  simp [Function.comp_def, Yaml.Outcome.inside]

/-- The entry of a member. -/
def entryOf (member : Value × Value) : Yaml.Entry := ⟨⟨member.1, none⟩, ⟨member.2, none⟩⟩

/-- Entries whose names are texts make a record. -/
theorem ofFlattened_eq {members : List (Value × Value)}
    (named : ∀ member ∈ members, ∃ name, member.1 = .text name) :
    Yaml.Node.ofFlattened (some ⟨[], members.map entryOf⟩) =
      ⟨.record (Record.ofEntries members), none⟩ := by
  have fine : Yaml.Outcome.outermostOf ((members.map entryOf).map Yaml.Entry.problem) = none := by
    refine outermostOf_eq_none fun problem member => ?_
    simp only [List.map_map, List.mem_map] at member
    obtain ⟨⟨key, value⟩, there, rfl⟩ := member
    obtain ⟨name, rfl⟩ : ∃ name, key = .text name := named _ there
    rfl
  have whole : Yaml.Node.Flattened.all ⟨[], members.map entryOf⟩ = members.map entryOf := rfl
  rw [Yaml.Node.ofFlattened, whole, fine, Yaml.Entry.record, List.map_map]
  simp [Function.comp_def, entryOf, Yaml.Outcome.inside]

/-- The node of a script means what the script writes, without a problem. -/
def Means (script : Script) : Prop := script.node.outcome = ⟨script.value, none⟩

theorem outcomes_itemNodes {others : List (Item Script)}
    (each : ∀ item ∈ others, Means item.content) :
    Yaml.Node.outcomes (itemNodes others) = (itemValues others).map (⟨·, none⟩) := by
  induction others with
  | nil => rw [itemNodes, Yaml.Node.outcomes, itemValues, List.map_nil]
  | cons item others ih =>
      obtain ⟨before, content, after⟩ := item
      rw [List.forall_mem_cons] at each
      obtain ⟨ofContent, ofOthers⟩ : Means content ∧ _ := each
      rw [itemNodes, Yaml.Node.outcomes, itemValues, List.map_cons, ofContent, ih ofOthers]

theorem means_array {first : Item Script} {others : List (Item Script)}
    (ofFirst : Means first.content) (each : ∀ item ∈ others, Means item.content) :
    Means (.array first others) := by
  obtain ⟨before, content, after⟩ := first
  replace ofFirst : Means content := ofFirst
  rw [Means, node, value, Yaml.Node.outcome, Yaml.Node.outcomes, ofFirst, outcomes_itemNodes each]
  exact ofItems_eq (content.value :: itemValues others)

/-- A member with a quoted name is an entry of its own. -/
theorem flatten_member {name : String} {content : Script} {entries : List (Yaml.Node × Yaml.Node)}
    {members : List (Value × Value)} (ofContent : Means content)
    (flattened : Yaml.Node.flatten entries = some ⟨[], members.map entryOf⟩) :
    Yaml.Node.flatten ((.scalar .str name, content.node) :: entries) =
      some ⟨[], ((.text name, content.value) :: members).map entryOf⟩ := by
  have named : Yaml.Node.outcome (.scalar .str name) = ⟨.text name, none⟩ :=
    outcome_scalar (by decide) name
  have noMerge : Yaml.Node.tag (.scalar .str name) ≠ .merge := nofun
  have noDefault : Yaml.Node.tag (.scalar .str name) ≠ .value := nofun
  rw [Yaml.Node.flatten, flattened]
  dsimp only
  rw [if_neg noMerge, if_neg noDefault, named, ofContent]
  rfl

theorem flatten_memberNodes {others : List (Member Script)}
    (each : ∀ member ∈ others, Means member.content) :
    Yaml.Node.flatten (memberNodes others) = some ⟨[], (memberValues others).map entryOf⟩ := by
  induction others with
  | nil => rw [memberNodes, Yaml.Node.flatten, memberValues, List.map_nil]
  | cons member others ih =>
      obtain ⟨before, name, between, content, after⟩ := member
      rw [List.forall_mem_cons] at each
      rw [memberNodes, memberValues]
      exact flatten_member each.1 (ih each.2)

theorem named_memberValues (others : List (Member Script)) :
    ∀ member ∈ memberValues others, ∃ name, member.1 = .text name := by
  induction others with
  | nil =>
      rw [memberValues]
      exact fun _ member => nomatch member
  | cons member others ih =>
      obtain ⟨before, name, between, content, after⟩ := member
      rw [memberValues]
      exact List.forall_mem_cons.mpr ⟨⟨_, rfl⟩, ih⟩

theorem means_object {first : Member Script} {others : List (Member Script)}
    (ofFirst : Means first.content) (each : ∀ member ∈ others, Means member.content) :
    Means (.object first others) := by
  obtain ⟨before, name, between, content, after⟩ := first
  rw [Means, node, value, Yaml.Node.outcome, flatten_member ofFirst (flatten_memberNodes each)]
  exact ofFlattened_eq (List.forall_mem_cons.mpr ⟨⟨_, rfl⟩, named_memberValues others⟩)

/-- **The node of a script means what the script writes.** -/
theorem means (script : Script) : Means script := by
  induction script using induct with
  | word said =>
      rw [Means, node, value, outcome_scalar (by cases said <;> decide +kernel),
        said.read_ofPlain]
      rfl
  | number figure =>
      have noCollection : figure.tag ∉ collectionTags := by
        cases figure with
        | integer isNegative whole few => exact (by decide : Tag.int ∉ collectionTags)
        | decimal isNegative whole fraction => exact (by decide : Tag.float ∉ collectionTags)
      rw [← figure.ofPlain_eq] at noCollection
      rw [Means, node, value, outcome_scalar noCollection, figure.read_ofPlain]
      rfl
  | string glyphs => exact outcome_scalar (by decide) _
  | emptyArray gap =>
      rw [Means, node, value, Yaml.Node.outcome, Yaml.Node.outcomes]
      exact ofItems_eq []
  | array first others ofFirst each => exact means_array ofFirst each
  | emptyObject gap =>
      rw [Means, node, value, Yaml.Node.outcome, Yaml.Node.flatten]
      exact @ofFlattened_eq [] (by simp)
  | object first others ofFirst each => exact means_object ofFirst each

/-! ## Whole texts -/

theorem isAllowed_gap (gap : Gap) :
    ∀ character ∈ gap.characters, Yaml.isAllowed character = true := by
  intro character member
  obtain ⟨blank, -, rfl⟩ := List.mem_map.mp member
  cases blank <;> rfl

theorem isAllowed_quoted (glyphs : List Glyph) :
    ∀ character ∈ Glyph.quoted glyphs, Yaml.isAllowed character = true := by
  rw [Glyph.quoted, List.forall_mem_cons, List.forall_mem_append]
  exact ⟨rfl, fun character member => (isAllowed_of_mem_text character member).1,
    List.forall_mem_singleton.mpr rfl⟩

theorem isAllowed_name (name : Name) :
    ∀ character ∈ name.characters, Yaml.isAllowed character = true := by
  rw [Name.characters, List.forall_mem_append]
  refine ⟨isAllowed_quoted name.glyphs, fun character member => ?_⟩
  rw [List.eq_of_mem_replicate member]
  rfl

theorem isAllowed_items {others : List (Item Script)}
    (each : ∀ item ∈ others, ∀ character ∈ item.content.characters,
      Yaml.isAllowed character = true) :
    ∀ character ∈ itemCharacters others, Yaml.isAllowed character = true := by
  induction others with
  | nil =>
      rw [itemCharacters]
      exact List.forall_mem_nil _
  | cons item others ih =>
      obtain ⟨before, content, after⟩ := item
      rw [List.forall_mem_cons] at each
      simp only [itemCharacters, List.forall_mem_cons, List.forall_mem_append]
      exact ⟨rfl, isAllowed_gap before, each.1, isAllowed_gap after, ih each.2⟩

theorem isAllowed_members {others : List (Member Script)}
    (each : ∀ member ∈ others, ∀ character ∈ member.content.characters,
      Yaml.isAllowed character = true) :
    ∀ character ∈ memberCharacters others, Yaml.isAllowed character = true := by
  induction others with
  | nil =>
      rw [memberCharacters]
      exact List.forall_mem_nil _
  | cons member others ih =>
      obtain ⟨before, name, between, content, after⟩ := member
      rw [List.forall_mem_cons] at each
      simp only [memberCharacters, List.forall_mem_cons, List.forall_mem_append]
      exact ⟨rfl, isAllowed_gap before, isAllowed_name name, rfl, isAllowed_gap between, each.1,
        isAllowed_gap after, ih each.2⟩

/-- Scripts consist of characters that a YAML text may consist of. -/
theorem isAllowed_characters (script : Script) :
    ∀ character ∈ script.characters, Yaml.isAllowed character = true := by
  induction script using induct with
  | word said => cases said <;> exact List.forall_iff_forall_mem.mp (by decide)
  | number figure =>
      intro character member
      refine @forall_isDigitOr (fun character => Yaml.isAllowed character = true) _
        (fun digit isDigit => ?_) (by decide) character (figure.areMarks character member)
      have bounds := bounds_of_isDigit isDigit
      exact (isAllowed_of_bounds (by omega)).1
  | string glyphs => exact isAllowed_quoted glyphs
  | emptyArray gap =>
      simp only [characters, List.forall_mem_cons, List.forall_mem_append]
      exact ⟨rfl, isAllowed_gap gap, rfl, List.forall_mem_nil _⟩
  | array first others ofFirst each =>
      obtain ⟨before, content, after⟩ := first
      simp only [characters, List.forall_mem_cons, List.forall_mem_append]
      exact ⟨rfl, isAllowed_gap before, ofFirst, isAllowed_gap after, isAllowed_items each,
        rfl, List.forall_mem_nil _⟩
  | emptyObject gap =>
      simp only [characters, List.forall_mem_cons, List.forall_mem_append]
      exact ⟨rfl, isAllowed_gap gap, rfl, List.forall_mem_nil _⟩
  | object first others ofFirst each =>
      obtain ⟨before, name, between, content, after⟩ := first
      simp only [characters, List.forall_mem_cons, List.forall_mem_append]
      exact ⟨rfl, isAllowed_gap before, isAllowed_name name, rfl, isAllowed_gap between, ofFirst,
        isAllowed_gap after, isAllowed_members each, rfl, List.forall_mem_nil _⟩

/-- **Read as YAML a page is the value that it writes.** -/
theorem Page.readYaml (page : Page) : Yaml.read page.text = .ok page.root.value := by
  have allowed : page.characters.all Yaml.isAllowed = true := by
    rw [List.all_eq_true, Page.characters]
    simp only [List.forall_mem_append]
    exact ⟨isAllowed_gap page.before, page.root.isAllowed_characters, isAllowed_gap page.after⟩
  have valued : page.root.node.value = .ok page.root.value := by
    rw [Yaml.Node.value, page.root.means]
  unfold Yaml.read Page.text
  rw [String.toList_ofList]
  dsimp only
  rw [if_pos allowed, page.ofTokens?_eq]
  exact valued

end Script

end GuestFlow
