import GuestFlow.Proofs.Fallible
import GuestFlow.Proofs.Value.Sound
import GuestFlow.Yaml.Meaning

/-!
# What nodes can mean

Whatever YAML says, its values are sound, and so are the parts of a node that can be said where
others fail.  If nothing is wrong with the form of a text, then only a scalar can fail: its word is
no truth value, its digits are no number, its date is not in the calendar
(`Fault.isOfScalar`).
-/

set_option autoImplicit false

namespace GuestFlow

/-- Whether a fault is one of a scalar that has no value. -/
def Fault.isOfScalar : Fault → Bool
  | .unknownTruthWord _ | .emptyNumeral | .notAnInteger .. | .tooManyDigits _ | .notANumber _
  | .integerTooLarge | .calendar _ | .notATimestamp | .unsearchable _ | .notACharacter
  | .characterTooLarge => true
  | _ => false

namespace Yaml

/-- The text is malformed, or a scalar in it has no value. -/
def Failure.IsMild : Failure → Prop
  | .malformed => True
  | .fault cause => cause.isOfScalar = true

/-- The computation has a result with a property, or fails over the text or a scalar in it. -/
abbrev Gives {α : Type} (holds : α → Prop) (computed : Except Failure α) : Prop :=
  Ensures Failure.IsMild holds computed

namespace Scalar

/-! ## Scalars -/

/-- The computation has a result with a property, or the fault of a scalar. -/
abbrev Finds {α : Type} (holds : α → Prop) (computed : Except Fault α) : Prop :=
  Ensures (fun fault => fault.isOfScalar = true) holds computed

theorem gives_lift {α : Type} {holds : α → Prop} {computed : Except Fault α}
    (finds : Finds holds computed) : Gives holds (lift computed) := by
  cases finds with
  | ok held => exact .ok held
  | error may => exact .error may

theorem readTruth_sound (content : String) : Gives Value.IsSound (readTruth content) := by
  unfold readTruth
  dsimp only
  split
  · exact .ok (.bool true)
  · split
    · exact .ok (.bool false)
    · exact .error rfl

theorem finds_integer (base : Nat) (text : String) :
    Finds (fun _ => True) (Numeral.readInteger base text) := by
  unfold Numeral.readInteger
  dsimp only
  repeat' split
  all_goals first | exact .ok trivial | exact .error rfl

theorem finds_magnitude (characters : List Char) :
    Gives (fun _ => True) (readMagnitude characters) := by
  unfold readMagnitude
  split
  · exact .error rfl
  · exact .ok trivial
  · exact gives_lift (finds_integer 2 _)
  · exact gives_lift (finds_integer 16 _)
  · exact gives_lift (finds_integer 8 _)
  · split
    · exact (gives_lift (Ensures.mapM fun part _ => finds_integer 10 part)).bind
        fun _ _ => .ok trivial
    · exact gives_lift (finds_integer 10 _)

theorem readInteger_sound (content : String) : Gives Value.IsSound (readInteger content) := by
  unfold readInteger
  dsimp only
  split
  · exact .error rfl
  · exact (finds_magnitude _).bind fun magnitude _ => .ok (.int _)

theorem finds_toNumber (text : String) : Finds Binary64.IsNormal (Value.text text).toNumber := by
  unfold Value.toNumber
  dsimp only
  split
  · rename_i read
    exact .ok (Numeral.isNormal_of_readNumber? read)
  · exact .error rfl

theorem finds_addSixtieths {total : Binary64} (normal : total.IsNormal) (base : Int)
    (digits : List Binary64) : Finds Binary64.IsNormal (addSixtieths total base digits) := by
  induction digits generalizing total base with
  | nil => exact .ok normal
  | cons digit rest ih =>
      have worth : Finds (fun _ => True) (Value.numberOfInt base) := by
        unfold Value.numberOfInt
        split
        · exact .error rfl
        · exact .ok trivial
      exact worth.bind fun worth _ => ih (Binary64.isNormal_add _ _) _

theorem finds_unsigned (text : String) : Finds Binary64.IsNormal (readUnsigned text) := by
  unfold readUnsigned
  split
  · exact .ok (.infinite false)
  · split
    · exact .ok .nan
    · split
      · refine (Ensures.mapM fun part _ => finds_toNumber part).bind fun digits _ => ?_
        exact finds_addSixtieths (Binary64.isNormal_ofInt 0) 1 _
      · exact finds_toNumber text

theorem readNumber_sound (content : String) : Gives Value.IsSound (readNumber content) := by
  unfold readNumber
  generalize (Letter.small (String.ofList (withoutUnderscores content))).toList = characters
  dsimp only
  split
  · exact .error rfl
  · refine (gives_lift (finds_unsigned _)).bind fun number normal => .ok (.float ?_)
    split
    · exact normal.negate
    · exact normal

theorem readBytes_sound (content : String) : Gives Value.IsSound (readBytes content) := by
  unfold readBytes
  dsimp only
  split
  · split
    · exact .ok (.bytes _)
    · exact .error trivial
  · exact .error trivial

theorem gives_fitting {α : Type} (checked : Except Calendar.Misfit α) :
    Gives (fun _ => True) (fitting checked) := by
  cases checked with
  | error part => exact .error rfl
  | ok result => exact .ok trivial

theorem readTimestamp_sound (content : String) : Gives Value.IsSound (readTimestamp content) := by
  unfold readTimestamp
  split
  · exact .error rfl
  · exact (gives_fitting _).bind fun date _ => .ok (.date date)
  · split
    · exact .error rfl
    · exact (gives_fitting _).bind fun moment _ => .ok (.moment moment)

/-- **A scalar has a sound value**, or the fault of a scalar. -/
theorem read_sound (tag : Tag) (content : String) : Gives Value.IsSound (read tag content) := by
  cases tag with
  | null => exact .ok .null
  | bool => exact readTruth_sound content
  | int => exact readInteger_sound content
  | float => exact readNumber_sound content
  | binary => exact readBytes_sound content
  | timestamp => exact readTimestamp_sound content
  | str => exact .ok (.text content)
  | omap | pairs | set | seq | map | merge | value | unknown => exact .error trivial

end Scalar

/-! ## Problems -/

/-- What is reported, if anything, is mild. -/
def Problem.AreMild (problem : Option Problem) : Prop :=
  ∀ found, problem = some found → found.failure.IsMild

namespace Problem.AreMild

theorem none : AreMild Option.none := nofun

theorem some {level : Nat} {failure : Failure} (mild : failure.IsMild) :
    AreMild (Option.some ⟨level, failure⟩) := by
  intro found same
  cases same
  exact mild

theorem outermost {first second : Option Problem} (mild : AreMild first)
    (mildToo : AreMild second) : AreMild (Outcome.outermost first second) := by
  unfold Outcome.outermost
  split
  · split
    · exact mildToo
    · exact mild
  · exact mildToo
  · exact mild

theorem outermostOf {problems : List (Option Problem)}
    (each : ∀ problem ∈ problems, AreMild problem) : AreMild (Outcome.outermostOf problems) := by
  suffices ∀ first, AreMild first → AreMild (problems.foldl Outcome.outermost first) from
    this Option.none none
  induction problems with
  | nil => exact fun first mild => mild
  | cons problem rest ih =>
      intro first mild
      obtain ⟨here, later⟩ := List.forall_mem_cons.mp each
      exact ih later _ (mild.outermost here)

theorem inside {problem : Option Problem} (mild : AreMild problem) :
    AreMild (Outcome.inside problem) := by
  intro found same
  obtain ⟨inner, there, rfl⟩ := Option.map_eq_some_iff.mp same
  exact mild inner there

end Problem.AreMild

/-! ## Outcomes -/

open Problem (AreMild)

/-- What can be said is sound, and what is reported is mild. -/
structure Outcome.IsSound (outcome : Outcome) : Prop where
  value : outcome.value.IsSound
  problem : AreMild outcome.problem

/-- A key and a value that are sound. -/
structure Entry.IsSound (entry : Entry) : Prop where
  key : entry.key.IsSound
  value : entry.value.IsSound

theorem Outcome.isSound_malformed (level : Nat) : (Outcome.malformed level).IsSound :=
  ⟨.null, .some trivial⟩

theorem Outcome.isSound_ofScalar {read : Except Failure Value} (gives : Gives Value.IsSound read) :
    (Outcome.ofScalar read).IsSound := by
  cases gives with
  | ok sound => exact ⟨sound, .none⟩
  | error mild => exact ⟨.null, .some mild⟩

theorem Outcome.isSound_ofItems {items : List Outcome} (each : ∀ item ∈ items, item.IsSound) :
    (Outcome.ofItems items).IsSound where
  value := .list <| List.forall_mem_map.mpr fun item member => (each item member).value
  problem := .inside <| .outermostOf <| List.forall_mem_map.mpr fun item member =>
    (each item member).problem

namespace Entry

theorem IsSound.problem_areMild {entry : Entry} (sound : entry.IsSound) :
    AreMild entry.problem := by
  unfold problem
  refine .outermostOf (List.forall_mem_cons.mpr ⟨sound.key.problem, List.forall_mem_cons.mpr
    ⟨?_, List.forall_mem_singleton.mpr sound.value.problem⟩⟩)
  split
  · exact .some trivial
  · exact .none

theorem IsSound.pairProblem_areMild {entry : Entry} (sound : entry.IsSound) :
    AreMild entry.pairProblem :=
  sound.key.problem.outermost sound.value.problem

theorem IsSound.pair_isSound {entry : Entry} (sound : entry.IsSound) : entry.pair.IsSound :=
  .tuple (List.forall_mem_cons.mpr
    ⟨sound.key.value, List.forall_mem_singleton.mpr sound.value.value⟩)

theorem isSound_record {entries : List Entry} (each : ∀ entry ∈ entries, entry.IsSound) :
    (Value.record (record entries)).IsSound :=
  .ofEntries <| List.forall_mem_map.mpr fun entry member =>
    ⟨(each entry member).key.value, (each entry member).value.value⟩

end Entry

namespace Node

/-- The entries, if there are any, are sound. -/
def AreSound (entries : Option (List Entry)) : Prop :=
  ∀ found, entries = some found → ∀ entry ∈ found, entry.IsSound

theorem isSound_ofFlattened {flattened : Option Flattened}
    (each : AreSound (flattened.map Flattened.all)) : (ofFlattened flattened).IsSound := by
  cases flattened with
  | none => exact Outcome.isSound_malformed 1
  | some flattened =>
      have each := each _ rfl
      exact ⟨Entry.isSound_record each, .inside <| .outermostOf <| List.forall_mem_map.mpr
        fun entry member => (each entry member).problem_areMild⟩

theorem isSound_setOfFlattened {flattened : Option Flattened}
    (each : AreSound (flattened.map Flattened.all)) : (setOfFlattened flattened).IsSound := by
  have sound := isSound_ofFlattened each
  unfold setOfFlattened
  split
  · rename_i same
    rw [same] at sound
    cases sound.value with
    | record _ ofKeys _ => exact ⟨.set (List.forall_mem_map.mpr ofKeys), sound.problem⟩
  · exact sound

theorem isSound_ofPairs {pairs : List (Option Entry)}
    (each : ∀ pair ∈ pairs, ∀ entry, pair = some entry → entry.IsSound) :
    (ofPairs pairs).IsSound where
  value := by
    refine .list fun item member => ?_
    obtain ⟨pair, inside, mapped⟩ := List.mem_filterMap.mp member
    obtain ⟨entry, same, rfl⟩ := Option.map_eq_some_iff.mp mapped
    exact (each pair inside entry same).pair_isSound
  problem := by
    refine .inside (.outermostOf (List.forall_mem_map.mpr fun pair member => ?_))
    cases pair with
    | none => exact .some trivial
    | some entry => exact (each _ member entry rfl).pairProblem_areMild

theorem readDefault_sound (tag : Tag) (content : String) :
    Gives Value.IsSound (readDefault tag content) := by
  unfold readDefault
  split
  · exact .error rfl
  · exact Scalar.read_sound tag content

theorem keyText_sound (key : Node) : Gives Value.IsSound (keyText key) := by
  unfold keyText
  split
  · exact .ok (.text _)
  · exact .error trivial

mutual

/-- **What a node means is sound, and what is reported for it is mild.** -/
theorem outcome_isSound : (node : Node) → node.outcome.IsSound
  | .scalar tag content => by
    unfold outcome
    split
    · exact Outcome.isSound_malformed 1
    · exact Outcome.isSound_malformed 1
    · exact Outcome.isSound_malformed 1
    · exact Outcome.isSound_malformed 1
    · exact Outcome.isSound_malformed 1
    · exact Outcome.isSound_ofScalar (Scalar.read_sound tag content)
  | .sequence tag items => by
    unfold outcome
    split
    · exact Outcome.isSound_ofItems (outcomes_areSound items)
    · exact isSound_ofPairs (pairsOf_areSound items)
    · exact isSound_ofPairs (pairsOf_areSound items)
    · exact Outcome.isSound_malformed 1
    · exact Outcome.isSound_malformed 1
    · exact Outcome.isSound_malformed 0
  | .mapping tag entries => by
    unfold outcome
    split
    · exact isSound_ofFlattened (flatten_areSound entries)
    · exact isSound_setOfFlattened (flatten_areSound entries)
    · exact Outcome.isSound_malformed 1
    · exact Outcome.isSound_malformed 1
    · exact Outcome.isSound_malformed 1
    · split
      · exact Outcome.isSound_ofScalar (readDefault_sound tag _)
      · exact Outcome.isSound_malformed 0
  | .endless beginning => by
    unfold outcome
    exact outcome_isSound beginning

theorem outcomes_areSound : (items : List Node) → ∀ outcome ∈ outcomes items, outcome.IsSound
  | [] => by
    unfold outcomes
    exact fun _ member => nomatch member
  | item :: rest => by
    unfold outcomes
    exact List.forall_mem_cons.mpr ⟨outcome_isSound item, outcomes_areSound rest⟩

theorem pairsOf_areSound : (items : List Node) →
    ∀ pair ∈ pairsOf items, ∀ entry, pair = some entry → entry.IsSound
  | [] => by
    unfold pairsOf
    exact fun _ member => nomatch member
  | .mapping _ [(key, value)] :: rest => by
    unfold pairsOf
    refine List.forall_mem_cons.mpr ⟨fun entry same => ?_, pairsOf_areSound rest⟩
    cases same
    exact ⟨outcome_isSound key, outcome_isSound value⟩
  | .mapping _ [] :: rest | .mapping _ (_ :: _ :: _) :: rest | .scalar _ _ :: rest
  | .sequence _ _ :: rest | .endless _ :: rest => by
    unfold pairsOf
    refine List.forall_mem_cons.mpr ⟨fun entry same => ?_, pairsOf_areSound rest⟩
    cases same

theorem flatten_areSound : (entries : List (Node × Node)) →
    AreSound ((flatten entries).map Flattened.all)
  | [] => by
    unfold flatten
    intro found same
    cases same
    exact fun _ member => nomatch member
  | (key, value) :: rest => by
    have ofKey := outcome_isSound key
    have ofValue := outcome_isSound value
    have merged := mergedFrom_areSound value
    have later := flatten_areSound rest
    unfold flatten
    cases tail : flatten rest with
    | none => exact fun _ same => nomatch same
    | some flattened =>
        have later := later flattened.all (by rw [tail]; rfl)
        dsimp only
        split
        · intro found same
          obtain ⟨taken, whole, rfl⟩ := Option.map_eq_some_iff.mp same
          obtain ⟨added, there, rfl⟩ := Option.map_eq_some_iff.mp whole
          rw [Flattened.all, List.append_assoc]
          exact List.forall_mem_append.mpr ⟨merged added there, later⟩
        · intro found same
          cases same
          obtain ⟨before, own⟩ := List.forall_mem_append.mp later
          refine List.forall_mem_append.mpr ⟨before, List.forall_mem_cons.mpr ⟨⟨?_, ofValue⟩, own⟩⟩
          split
          · exact Outcome.isSound_ofScalar (keyText_sound key)
          · exact ofKey

theorem mergedFrom_areSound : (node : Node) → AreSound (mergedFrom node)
  | .scalar _ _ => by
    unfold mergedFrom
    exact fun _ same => nomatch same
  | .mapping _ entries => by
    unfold mergedFrom
    exact flatten_areSound entries
  | .sequence _ items => by
    unfold mergedFrom
    exact mergedFromAll_areSound items
  | .endless _ => by
    unfold mergedFrom
    exact fun _ same => nomatch same

theorem mergedFromAll_areSound : (items : List Node) → AreSound (mergedFromAll items)
  | [] => by
    unfold mergedFromAll
    intro found same
    cases same
    exact fun _ member => nomatch member
  | .scalar _ _ :: _ | .sequence _ _ :: _ | .endless _ :: _ => by
    unfold mergedFromAll
    exact fun _ same => nomatch same
  | .mapping _ entries :: rest => by
    have here := flatten_areSound entries
    have later := mergedFromAll_areSound rest
    unfold mergedFromAll
    split
    · rename_i first others ofFirst ofOthers
      intro found same
      cases same
      exact List.forall_mem_append.mpr
        ⟨later others ofOthers, here first.all (by rw [ofFirst]; rfl)⟩
    · exact fun _ same => nomatch same

end

/-- **The value of a node is sound**; without one, the text is malformed or a scalar has no
value. -/
theorem value_sound (node : Node) : Gives Value.IsSound node.value := by
  have sound := node.outcome_isSound
  unfold value
  split
  · rename_i same
    rw [same] at sound
    exact .error (sound.problem _ rfl)
  · rename_i same
    rw [same] at sound
    exact .ok sound.value

end Node

end Yaml

end GuestFlow
