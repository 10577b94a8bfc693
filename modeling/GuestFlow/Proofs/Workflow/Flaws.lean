import GuestFlow.Proofs.Document.Edges
import GuestFlow.Proofs.Reporting
import GuestFlow.Proofs.Workflow.Checking

/-!
# Every flaw of a definition

What makes a definition usable can be said without the check: ids are not shared, targets
exist, conditions are configured, and there is one place to enter at
(`Definition.IsWellFormed`).  What is wrong with one that is not well formed is a list of
flaws, each at its place: a `NodeFlaw` of some node, or an `EntryFlaw` of the whole.

`checks_find_every_flaw` states that the check agrees.  Its report has one line for every
flaw (`Definition.IsReportedBy`), so it is empty exactly for the well-formed definitions,
which are the ones that give a graph.  The graph is entered at the one node that is marked,
or else at the one trigger, in whatever order the nodes are listed.
-/

set_option autoImplicit false

namespace GuestFlow

open Condition (Operator operatorName comparedValue)

/-! ## Well-formed definitions -/

/-- The operator that a condition is configured with; what counts as false means the usual one. -/
inductive Node.HasOperator (node : Node) : Operator → Prop where
  | usual (blank : (node.config.field "operator").isTruthy = false) : HasOperator node .truthy
  | named {name : String} {operator : Operator} (long : name ≠ "")
      (given : node.config.field "operator" = .text name)
      (known : (name, operator) ∈ Condition.operatorNames) : HasOperator node operator

/-- A condition names a field, an operator, and a value if the operator needs one. -/
structure Node.IsConfigured (node : Node) : Prop where
  field : ∃ name, node.config.field "field" = .text name ∧ name ≠ ""
  operator : ∃ operator, node.HasOperator operator
  value : node.HasOperator .contains →
    node.config.field "value" ≠ .null ∧ node.config.field "value" ≠ .text ""

/-- The node is the only one that is marked, or nothing is marked and it is the only trigger. -/
inductive Definition.EntersAt (definition : Definition) (entry : Node) : Prop where
  | marked (only : definition.nodes.filter Node.isEntry = [entry])
  | trigger (unmarked : definition.nodes.filter Node.isEntry = [])
      (only : definition.nodes.filter Node.isTrigger = [entry])

structure Definition.IsWellFormed (definition : Definition) : Prop where
  nodup_ids : (definition.nodes.map Node.id).Nodup
  nodup_outputIds : ∀ node ∈ definition.nodes, node.outputIds.Nodup
  targetFound : ∀ node ∈ definition.nodes, ∀ output ∈ node.outputs, ∀ target,
    output.target = some target → ∃ other ∈ definition.nodes, other.id = target
  isConfigured : ∀ node ∈ definition.nodes, node.kind = Kind.condition → node.IsConfigured
  enters : ∃ entry, definition.EntersAt entry

/-! ## Flaws -/

/-- What can be wrong with a node. -/
inductive NodeFlaw where
  | repeatedOutputs
  | dangling (finding : Finding Output String)
  | noField
  | unknownOperator
  | noValue

/-- What can be wrong with the way into a workflow. -/
inductive EntryFlaw where
  | severalMarked
  | missing
  | severalTriggers

/-- What can be wrong with a definition, apart from shared ids. -/
inductive Flaw where
  | node (finding : Finding Node NodeFlaw)
  | entry (flaw : EntryFlaw)

/-- The flaw is one of the node, which stands in the definition. -/
inductive NodeFlaw.Spoils (definition : Definition) (node : Node) : NodeFlaw → Prop where
  | repeatedOutputs (twice : ¬node.outputIds.Nodup) : Spoils definition node .repeatedOutputs
  | dangling {finding : Finding Output String}
      (there : node.outputs[finding.place]? = some finding.item)
      (aimed : finding.item.target = some finding.found)
      (lost : ∀ other ∈ definition.nodes, other.id ≠ finding.found) :
      Spoils definition node (.dangling finding)
  | noField (isCondition : node.kind = Kind.condition)
      (nameless : ∀ name, node.config.field "field" = .text name → name = "") :
      Spoils definition node .noField
  | unknownOperator (isCondition : node.kind = Kind.condition)
      (unknown : ∀ operator, ¬node.HasOperator operator) : Spoils definition node .unknownOperator
  | noValue (isCondition : node.kind = Kind.condition) (needed : node.HasOperator .contains)
      (blank : node.config.field "value" = .null ∨ node.config.field "value" = .text "") :
      Spoils definition node .noValue

inductive EntryFlaw.Spoils (definition : Definition) : EntryFlaw → Prop where
  | severalMarked (several : 1 < (definition.nodes.filter Node.isEntry).length) :
      Spoils definition .severalMarked
  | missing (unmarked : definition.nodes.filter Node.isEntry = [])
      (idle : definition.nodes.filter Node.isTrigger = []) : Spoils definition .missing
  | severalTriggers (unmarked : definition.nodes.filter Node.isEntry = [])
      (several : 1 < (definition.nodes.filter Node.isTrigger).length) :
      Spoils definition .severalTriggers

inductive Flaw.Spoils (definition : Definition) : Flaw → Prop where
  | node {finding : Finding Node NodeFlaw}
      (there : definition.nodes[finding.place]? = some finding.item)
      (spoils : finding.found.Spoils definition finding.item) : Spoils definition (.node finding)
  | entry {flaw : EntryFlaw} (spoils : flaw.Spoils definition) : Spoils definition (.entry flaw)

/-! ## Lines -/

def NodeFlaw.line (node : Node) : NodeFlaw → String
  | .repeatedOutputs => "Node " ++ quoted node.id ++ " declares duplicate output IDs"
  | .dangling ⟨_, output, target⟩ =>
    "Output " ++ quoted output.id ++ " of node " ++ quoted node.id ++ " targets unknown node " ++
      quoted target
  | .noField => "Condition node " ++ quoted node.id ++ " has no field configured"
  | .unknownOperator =>
    "Condition node " ++ quoted node.id ++ " uses unknown operator '" ++
      (operatorName node).rendering ++ "'"
  | .noValue =>
    "Condition node " ++ quoted node.id ++ " needs a value for operator '" ++
      (operatorName node).rendering ++ "'"

def EntryFlaw.line (definition : Definition) : EntryFlaw → String
  | .severalMarked =>
    "More than one node is marked as entry: " ++
      commaSeparated ((definition.nodes.filter Node.isEntry).map Node.id)
  | .missing => "No entry node: add a trigger node or mark one node with isEntry"
  | .severalTriggers =>
    "Ambiguous entry: trigger nodes " ++
      commaSeparated ((definition.nodes.filter Node.isTrigger).map Node.id) ++
      " need an explicit isEntry marker"

def Flaw.line (definition : Definition) : Flaw → String
  | .node finding => finding.found.line finding.item
  | .entry flaw => flaw.line definition

/-- Ids that are shared are named in one line, if there are any. -/
def sharedLines (shared : List String) : List String :=
  if shared = [] then [] else ["Duplicate node IDs found: " ++ commaSeparated shared]

/-- The lines name every id that more than one node has, once, and have a line for every other flaw,
one for each. -/
def Definition.IsReportedBy (definition : Definition) (lines : List String) : Prop :=
  ∃ shared others, lines = sharedLines shared ++ others ∧ shared.Nodup ∧
    (∀ id, id ∈ shared ↔ 1 < (definition.nodes.map Node.id).count id) ∧
    Reports others (Flaw.line definition) (Flaw.Spoils definition)

/-! ## Repeated ids -/

/-- An id is found when it stands more than once, what was seen before being counted in. -/
theorem mem_repeated_iff {ids seen found : List String} {id : String} :
    id ∈ repeated seen found ids ↔
      id ∈ found ∨ (id ∈ seen ∧ id ∈ ids) ∨ 1 < ids.count id := by
  induction ids generalizing seen found with
  | nil => simp [repeated]
  | cons first rest ih =>
      unfold repeated
      rw [ih]
      by_cases same : first = id
      · subst same
        have twice : 1 < (first :: rest).count first ↔ first ∈ rest := by
          rw [List.count_cons_self, ← List.count_pos_iff]
          omega
        have again : 1 < rest.count first → first ∈ rest := fun several =>
          List.count_pos_iff.mp (Nat.zero_lt_of_lt several)
        rw [twice]
        by_cases old : first ∈ seen
        · by_cases known : first ∈ found
          · simp [old, known]
          · simp [old, known]
        · simp only [old, List.contains_eq_mem, decide_false, Bool.false_and, Bool.false_eq_true,
            if_false, List.mem_append, List.mem_singleton, or_true, true_and, false_and, false_or]
          exact or_congr_right ⟨fun either => either.elim (fun later => later) again, .inl⟩
      · rw [List.count_cons_of_ne same]
        split
        · simp [Ne.symm same]
        · simp [Ne.symm same]

theorem nodup_repeated {ids seen found : List String} (once : found.Nodup) :
    (repeated seen found ids).Nodup := by
  induction ids generalizing seen found with
  | nil => exact once
  | cons first rest ih =>
      unfold repeated
      refine ih ?_
      split
      · rename_i new
        simp only [List.contains_eq_mem, Bool.and_eq_true, Bool.not_eq_true',
          decide_eq_false_iff_not] at new
        exact once.append (List.nodup_singleton first)
          (List.disjoint_singleton.mpr new.2)
      · exact once

/-- Nothing is repeated exactly where every id stands once. -/
theorem repeated_eq_nil_iff {ids : List String} : repeated [] [] ids = [] ↔ ids.Nodup := by
  rw [List.eq_nil_iff_forall_not_mem, List.nodup_iff_count_le_one]
  refine forall_congr' fun id => ?_
  rw [mem_repeated_iff]
  simp

/-! ## Operators -/

theorem mem_operatorNames_iff {name : String} {operator : Operator} :
    (name, operator) ∈ Condition.operatorNames ↔
      Condition.operatorNames.lookup name = some operator := by
  constructor
  · have each : ∀ entry ∈ Condition.operatorNames,
        Condition.operatorNames.lookup entry.1 = some entry.2 := by decide
    exact each _
  · intro found
    obtain ⟨before, after, split, _⟩ := List.lookup_eq_some_iff.mp found
    rw [split]
    simp

/-- The operator that is looked up is the one that the condition has. -/
theorem operator?_operatorName_iff {node : Node} {operator : Operator} :
    Condition.operator? (operatorName node) = some operator ↔ node.HasOperator operator := by
  unfold operatorName
  dsimp only
  split
  · rename_i given
    constructor
    · intro found
      cases configured : node.config.field "operator" with
      | text name =>
          rw [configured] at found given
          exact .named (by simpa [Value.isTruthy] using given) configured
            (mem_operatorNames_iff.mpr found)
      | _ =>
          rw [configured] at found
          cases found
    · rintro (blank | ⟨_, configured, known⟩)
      · rw [blank] at given
        cases given
      · rw [configured]
        exact mem_operatorNames_iff.mp known
  · rename_i blank
    constructor
    · intro found
      cases found
      exact .usual (Bool.eq_false_iff.mpr blank)
    · rintro (_ | ⟨long, configured, _⟩)
      · rfl
      · rw [configured] at blank
        simp [Value.isTruthy, long] at blank

theorem Node.HasOperator.unique {node : Node} {first second : Operator}
    (one : node.HasOperator first) (other : node.HasOperator second) : first = second := by
  rw [← operator?_operatorName_iff] at one other
  rw [one] at other
  exact Option.some.inj other

theorem isBlankValue_iff {value : Value} :
    Condition.isBlankValue value = true ↔ value = .null ∨ value = .text "" := by
  cases value <;> simp [Condition.isBlankValue]

theorem isFieldName_iff {value : Value} :
    isFieldName value = true ↔ ∃ name, value = .text name ∧ name ≠ "" := by
  cases value <;> simp [isFieldName]

/-! ## The report about a node -/

section Nodes

variable {definition : Definition} {node : Node} {lines : List String}

/-- Looking an operator up has no result other than what is said about it. -/
theorem verdictOn_of_operatorProblems (checked : operatorProblems node = .ok lines) :
    Condition.verdictOn node (operatorName node) = .ok lines := by
  rw [operatorProblems_eq] at checked
  split at checked
  · rename_i items isSet
    rw [isSet]
    exact checked
  · obtain ⟨_, _, told⟩ := bind_eq_ok_iff.mp checked
    exact told

theorem rendering_of_text? {value : Value} {text : String} (shown : value.text? = .ok text) :
    value.rendering = text := by
  unfold Value.text? at shown
  split at shown
  · exact Except.ok.inj shown
  · cases shown

theorem operatorProblems_reports (definition : Definition)
    (isCondition : node.kind = Kind.condition) (checked : operatorProblems node = .ok lines) :
    Reports lines (NodeFlaw.line node) fun flaw =>
      flaw.Spoils definition node ∧ (flaw = .unknownOperator ∨ flaw = .noValue) := by
  have told := verdictOn_of_operatorProblems checked
  unfold Condition.verdictOn at told
  split at told
  · rename_i none
    have unknown : ∀ operator, ¬node.HasOperator operator := fun operator has => by
      rw [operator?_operatorName_iff.mpr has] at none
      cases none
    obtain ⟨text, shown, joined⟩ := bind_eq_ok_iff.mp told
    cases joined
    rw [← rendering_of_text? shown]
    refine .single NodeFlaw.unknownOperator rfl fun flaw => ?_
    constructor
    · rintro ⟨spoils, rfl | rfl⟩
      · rfl
      · cases spoils with
        | noValue _ needed => exact (unknown _ needed).elim
    · rintro rfl
      exact ⟨.unknownOperator isCondition unknown, .inl rfl⟩
  · rename_i operator known
    have has := operator?_operatorName_iff.mp known
    split at told
    · rename_i needs
      rw [Bool.and_eq_true, isBlankValue_iff] at needs
      obtain rfl : operator = .contains := by
        cases operator with
        | contains => rfl
        | _ => cases needs.1
      obtain ⟨text, shown, joined⟩ := bind_eq_ok_iff.mp told
      cases joined
      rw [← rendering_of_text? shown]
      refine .single NodeFlaw.noValue rfl fun flaw => ?_
      constructor
      · rintro ⟨spoils, rfl | rfl⟩
        · cases spoils with
          | unknownOperator _ unknown => exact (unknown _ has).elim
        · rfl
      · rintro rfl
        exact ⟨.noValue isCondition has needs.2, .inr rfl⟩
    · rename_i fine
      cases told
      refine .nil fun flaw => ?_
      rintro ⟨spoils, rfl | rfl⟩
      · cases spoils with
        | unknownOperator _ unknown => exact unknown _ has
      · cases spoils with
        | noValue _ needed blank =>
            obtain rfl := has.unique needed
            exact fine (Bool.and_eq_true_iff.mpr ⟨rfl, isBlankValue_iff.mpr blank⟩)

theorem conditionProblems_reports (definition : Definition)
    (checked : conditionProblems node = .ok lines) :
    Reports lines (NodeFlaw.line node) fun flaw =>
      flaw.Spoils definition node ∧
        (flaw = .noField ∨ flaw = .unknownOperator ∨ flaw = .noValue) := by
  unfold conditionProblems at checked
  split at checked
  · rename_i isCondition
    have isCondition : node.kind = Kind.condition := beq_iff_eq.mp isCondition
    obtain ⟨about, looked, joined⟩ := bind_eq_ok_iff.mp checked
    cases joined
    have field : Reports
        (if isFieldName (Condition.fieldName node) then []
          else ["Condition node " ++ quoted node.id ++ " has no field configured"])
        (NodeFlaw.line node) fun flaw => flaw.Spoils definition node ∧ flaw = .noField := by
      split
      · rename_i named
        obtain ⟨name, given, long⟩ := isFieldName_iff.mp named
        refine .nil fun flaw => ?_
        rintro ⟨spoils, rfl⟩
        cases spoils with
        | noField _ nameless => exact long (nameless name given)
      · rename_i nameless
        refine .single NodeFlaw.noField rfl fun flaw => ⟨fun spoils => spoils.2, ?_⟩
        rintro rfl
        refine ⟨.noField isCondition fun name given => ?_, rfl⟩
        by_contra long
        exact nameless (isFieldName_iff.mpr ⟨name, given, long⟩)
    refine (field.append (operatorProblems_reports definition isCondition looked) ?_).congr ?_
    · rintro _ ⟨_, rfl⟩ ⟨_, other⟩
      simp at other
    · exact fun flaw => and_or_left.symm
  · rename_i noCondition
    cases checked
    refine .nil fun flaw => ?_
    have noCondition : node.kind ≠ Kind.condition := fun same => noCondition (beq_iff_eq.mpr same)
    rintro ⟨spoils, rfl | rfl | rfl⟩
    all_goals cases spoils; contradiction

/-- A target is found exactly where some node has it as its id. -/
theorem findNode?_isSome_iff {target : String} :
    (findNode? definition [] target).isSome ↔ ∃ other ∈ definition.nodes, other.id = target := by
  simp [findNode?]

theorem outputProblems_reports (definition : Definition) (node : Node) :
    Reports (outputProblems definition [] node) (NodeFlaw.line node) fun flaw =>
      flaw.Spoils definition node ∧ ∃ finding, flaw = .dangling finding := by
  let tell (output : Output) (target : String) : String :=
    "Output " ++ quoted output.id ++ " of node " ++ quoted node.id ++ " targets unknown node " ++
      quoted target
  let Lost (output : Output) (target : String) : Prop :=
    output.target = some target ∧ ∀ other ∈ definition.nodes, other.id ≠ target
  have lines : Reports (outputProblems definition [] node)
      (fun finding : Finding Output String => tell finding.item finding.found)
      fun finding => node.outputs[finding.place]? = some finding.item ∧
        Lost finding.item finding.found := by
    refine .along_filterMap fun output _ => ?_
    cases aimed : output.target with
    | none => exact .nil fun target lost => nomatch aimed.symm.trans lost.1
    | some target =>
        dsimp only
        split
        · rename_i found
          obtain ⟨other, member, same⟩ := findNode?_isSome_iff.mp found
          refine .nil fun _ lost => ?_
          cases aimed.symm.trans lost.1
          exact lost.2 other member same
        · rename_i lost
          refine .single target rfl fun other => ⟨fun lost => ?_, ?_⟩
          · cases aimed.symm.trans lost.1
            rfl
          · rintro rfl
            refine ⟨aimed, fun other member same => lost ?_⟩
            exact findNode?_isSome_iff.mpr ⟨other, member, same⟩
  refine (lines.embed (NodeFlaw.line node) .dangling (fun _ _ => NodeFlaw.dangling.inj)
    fun _ => rfl).congr fun flaw => ?_
  constructor
  · rintro ⟨finding, ⟨there, aimed, lost⟩, rfl⟩
    exact ⟨.dangling there aimed lost, finding, rfl⟩
  · rintro ⟨spoils, finding, rfl⟩
    cases spoils with
    | dangling there aimed lost => exact ⟨finding, ⟨there, aimed, lost⟩, rfl⟩

/-- **The check of a node reports every flaw of the node.** -/
theorem nodeProblems_reports (checked : nodeProblems definition [] node = .ok lines) :
    Reports lines (NodeFlaw.line node) (NodeFlaw.Spoils definition node) := by
  obtain ⟨conditions, looked, joined⟩ := bind_eq_ok_iff.mp checked
  cases joined
  have repeats : Reports
      (if (repeated [] [] node.outputIds).isEmpty then []
        else ["Node " ++ quoted node.id ++ " declares duplicate output IDs"])
      (NodeFlaw.line node) fun flaw => flaw.Spoils definition node ∧ flaw = .repeatedOutputs := by
    split
    · rename_i none
      have once := repeated_eq_nil_iff.mp (List.isEmpty_iff.mp none)
      refine .nil fun flaw => ?_
      rintro ⟨spoils, rfl⟩
      cases spoils with
      | repeatedOutputs twice => exact twice once
    · rename_i some
      refine .single NodeFlaw.repeatedOutputs rfl fun flaw => ⟨fun spoils => spoils.2, ?_⟩
      rintro rfl
      refine ⟨.repeatedOutputs fun once => some ?_, rfl⟩
      exact List.isEmpty_iff.mpr (repeated_eq_nil_iff.mpr once)
  have outputs := outputProblems_reports definition node
  have condition := conditionProblems_reports definition looked
  refine ((repeats.append outputs ?_).append condition ?_).congr fun flaw => ?_
  · rintro _ ⟨_, rfl⟩ ⟨_, _, other⟩
    cases other
  · rintro _ (⟨_, rfl⟩ | ⟨_, _, rfl⟩) ⟨_, other⟩
    · simp at other
    · simp at other
  · cases flaw <;> simp

end Nodes

/-! ## The report about a definition -/

section Definitions

variable {definition : Definition} {lines : List String}

theorem entryProblems_reports (definition : Definition) :
    Reports (entryProblems definition) (EntryFlaw.line definition)
      (EntryFlaw.Spoils definition) := by
  unfold entryProblems markedNodes triggerNodes
  simp only [List.length_map, List.isEmpty_map]
  split
  · rename_i several
    refine .single EntryFlaw.severalMarked rfl fun flaw => ⟨fun spoils => ?_, ?_⟩
    · cases spoils with
      | severalMarked => rfl
      | missing unmarked | severalTriggers unmarked => simp [unmarked] at several
    · rintro rfl
      exact .severalMarked several
  · rename_i few
    split
    · rename_i marked
      refine .nil fun flaw spoils => ?_
      cases spoils with
      | severalMarked several => exact few several
      | missing unmarked | severalTriggers unmarked => simp [unmarked] at marked
    · rename_i unmarked
      simp only [Bool.not_eq_true', Bool.not_eq_false, List.isEmpty_iff] at unmarked
      split
      · rename_i idle
        rw [List.isEmpty_iff] at idle
        refine .single EntryFlaw.missing rfl fun flaw => ⟨fun spoils => ?_, ?_⟩
        · cases spoils with
          | missing => rfl
          | severalMarked several => exact (few several).elim
          | severalTriggers _ several => simp [idle] at several
        · rintro rfl
          exact .missing unmarked idle
      · rename_i busy
        rw [List.isEmpty_iff] at busy
        split
        · rename_i several
          refine .single EntryFlaw.severalTriggers rfl fun flaw => ⟨fun spoils => ?_, ?_⟩
          · cases spoils with
            | severalTriggers => rfl
            | severalMarked several => exact (few several).elim
            | missing _ idle => exact (busy idle).elim
          · rintro rfl
            exact .severalTriggers unmarked several
        · rename_i one
          refine .nil fun flaw spoils => ?_
          cases spoils with
          | severalMarked several => exact few several
          | missing _ idle => exact busy idle
          | severalTriggers _ several => exact one several

/-- **The check of a definition reports every flaw.** -/
theorem isReportedBy_of_problemsOf (checked : problemsOf definition [] = .ok lines) :
    definition.IsReportedBy lines := by
  obtain ⟨inside, looked, joined⟩ := bind_eq_ok_iff.mp checked
  cases joined
  refine ⟨repeated [] [] (definition.nodes.map Node.id),
    inside.flatten ++ entryProblems definition, ?_, nodup_repeated List.nodup_nil, fun id => ?_, ?_⟩
  · rw [List.append_assoc]
    refine congrArg (· ++ _) ?_
    unfold duplicateProblems sharedLines
    simp only [List.isEmpty_iff]
  · rw [mem_repeated_iff]
    simp
  · have nodes := Reports.along ((mapM_eq_ok_iff.mp looked).imp fun _ _ => nodeProblems_reports)
    have entry := entryProblems_reports definition
    refine ((nodes.embed (Flaw.line definition) .node (fun _ _ => Flaw.node.inj)
      fun _ => rfl).append (entry.embed (Flaw.line definition) .entry (fun _ _ => Flaw.entry.inj)
        fun _ => rfl) ?_).congr fun flaw => ?_
    · rintro _ ⟨_, _, rfl⟩ ⟨_, _, other⟩
      cases other
    · constructor
      · rintro (⟨finding, ⟨there, spoils⟩, rfl⟩ | ⟨flaw, spoils, rfl⟩)
        · exact .node there spoils
        · exact .entry spoils
      · rintro (⟨there, spoils⟩ | ⟨spoils⟩)
        · exact .inl ⟨_, ⟨there, spoils⟩, rfl⟩
        · exact .inr ⟨_, spoils, rfl⟩

end Definitions

/-! ## Well-formed definitions have no flaws -/

section WellFormed

variable {definition : Definition} {entry : Node}

/-- There is one place to enter at exactly where nothing is wrong with the entry. -/
theorem exists_entersAt_iff :
    (∃ entry, definition.EntersAt entry) ↔ ∀ flaw, ¬EntryFlaw.Spoils definition flaw := by
  constructor
  · rintro ⟨entry, only | ⟨unmarked, only⟩⟩ flaw spoils
    · cases spoils with
      | severalMarked several => simp [only] at several
      | missing unmarked | severalTriggers unmarked => simp [only] at unmarked
    · cases spoils with
      | severalMarked several => simp [unmarked] at several
      | missing _ idle => simp [only] at idle
      | severalTriggers _ several => simp [only] at several
  · intro fine
    match marked : definition.nodes.filter Node.isEntry with
    | [entry] => exact ⟨entry, .marked marked⟩
    | _ :: _ :: _ => exact (fine _ (.severalMarked (by simp [marked]))).elim
    | [] =>
        match triggers : definition.nodes.filter Node.isTrigger with
        | [entry] => exact ⟨entry, .trigger marked triggers⟩
        | [] => exact (fine _ (.missing marked triggers)).elim
        | _ :: _ :: _ => exact (fine _ (.severalTriggers marked (by simp [triggers]))).elim

theorem Node.isConfigured_iff {node : Node} (isCondition : node.kind = Kind.condition) :
    node.IsConfigured ↔ ∀ flaw, NodeFlaw.Spoils definition node flaw →
      flaw ≠ .noField ∧ flaw ≠ .unknownOperator ∧ flaw ≠ .noValue := by
  constructor
  · rintro ⟨⟨name, given, long⟩, ⟨operator, has⟩, value⟩ flaw spoils
    refine ⟨?_, ?_, ?_⟩
    · rintro rfl
      cases spoils with
      | noField _ nameless => exact long (nameless name given)
    · rintro rfl
      cases spoils with
      | unknownOperator _ unknown => exact unknown operator has
    · rintro rfl
      cases spoils with
      | noValue _ needed blank => exact blank.elim (value needed).1 (value needed).2
  · intro fine
    refine ⟨?_, ?_, fun needed => ⟨fun null => ?_, fun empty => ?_⟩⟩
    · by_contra nameless
      refine (fine _ (.noField isCondition fun name given => ?_)).1 rfl
      by_contra long
      exact nameless ⟨name, given, long⟩
    · by_contra unknown
      exact (fine _ (.unknownOperator isCondition (not_exists.mp unknown))).2.1 rfl
    · exact (fine _ (.noValue isCondition needed (.inl null))).2.2 rfl
    · exact (fine _ (.noValue isCondition needed (.inr empty))).2.2 rfl

theorem Node.unspoiled_iff {node : Node} :
    (∀ flaw, ¬NodeFlaw.Spoils definition node flaw) ↔
      node.outputIds.Nodup ∧
        (∀ output ∈ node.outputs, ∀ target, output.target = some target →
          ∃ other ∈ definition.nodes, other.id = target) ∧
        (node.kind = Kind.condition → node.IsConfigured) := by
  constructor
  · intro fine
    refine ⟨?_, fun output inside target aimed => ?_, fun isCondition => ?_⟩
    · by_contra twice
      exact fine _ (.repeatedOutputs twice)
    · by_contra lost
      obtain ⟨exit, there⟩ := List.mem_iff_getElem?.mp inside
      refine fine _ (@NodeFlaw.Spoils.dangling _ _ ⟨exit, output, target⟩ there aimed ?_)
      exact fun other found same => lost ⟨other, found, same⟩
    · exact (Node.isConfigured_iff isCondition).mpr fun flaw spoils => (fine flaw spoils).elim
  · rintro ⟨once, targets, configured⟩ flaw spoils
    have conditions (isCondition : node.kind = Kind.condition) :=
      (Node.isConfigured_iff isCondition).mp (configured isCondition) flaw spoils
    cases spoils with
    | repeatedOutputs twice => exact twice once
    | dangling inside aimed lost =>
        obtain ⟨other, found, same⟩ := targets _ (List.mem_of_getElem? inside) _ aimed
        exact lost other found same
    | noField isCondition => exact (conditions isCondition).1 rfl
    | unknownOperator isCondition => exact (conditions isCondition).2.1 rfl
    | noValue isCondition => exact (conditions isCondition).2.2 rfl

theorem unspoiled_iff :
    (∀ flaw, ¬Flaw.Spoils definition flaw) ↔
      (∀ node ∈ definition.nodes, ∀ flaw, ¬NodeFlaw.Spoils definition node flaw) ∧
        ∀ flaw, ¬EntryFlaw.Spoils definition flaw := by
  constructor
  · intro fine
    refine ⟨fun node member flaw spoils => ?_, fun flaw spoils => fine _ (.entry spoils)⟩
    obtain ⟨place, there⟩ := List.mem_iff_getElem?.mp member
    exact fine _ (@Flaw.Spoils.node _ ⟨place, node, flaw⟩ there spoils)
  · rintro ⟨nodes, entry⟩ _ (⟨there, spoils⟩ | ⟨spoils⟩)
    · exact nodes _ (List.mem_of_getElem? there) _ spoils
    · exact entry _ spoils

/-- A definition is well formed exactly when no id is shared and it has no flaw. -/
theorem isWellFormed_iff_unspoiled :
    definition.IsWellFormed ↔
      (definition.nodes.map Node.id).Nodup ∧ ∀ flaw, ¬Flaw.Spoils definition flaw := by
  rw [unspoiled_iff, ← exists_entersAt_iff]
  constructor
  · rintro ⟨ids, outputIds, targets, conditions, enters⟩
    refine ⟨ids, fun node member => Node.unspoiled_iff.mpr ?_, enters⟩
    exact ⟨outputIds _ member, targets _ member, conditions _ member⟩
  · rintro ⟨ids, nodes, enters⟩
    have each {node : Node} (member : node ∈ definition.nodes) :=
      Node.unspoiled_iff.mp (nodes node member)
    exact ⟨ids, fun _ member => (each member).1, fun _ member => (each member).2.1,
      fun _ member => (each member).2.2, enters⟩

/-- A report is empty exactly for a definition that is well formed. -/
theorem Definition.IsReportedBy.eq_nil_iff {lines : List String}
    (reported : definition.IsReportedBy lines) : lines = [] ↔ definition.IsWellFormed := by
  obtain ⟨shared, others, rfl, _, all, reports⟩ := reported
  have unshared : sharedLines shared = [] ↔ (definition.nodes.map Node.id).Nodup := by
    have none : sharedLines shared = [] ↔ shared = [] := by simp [sharedLines]
    rw [none, List.eq_nil_iff_forall_not_mem, List.nodup_iff_count_le_one]
    exact forall_congr' fun id => by rw [all, Nat.not_lt]
  rw [List.append_eq_nil_iff, unshared, reports.eq_nil_iff, isWellFormed_iff_unspoiled]

/-! ## The order of the nodes -/

theorem Definition.EntersAt.perm (enters : definition.EntersAt entry) {nodes : List Node}
    (order : nodes.Perm definition.nodes) : { definition with nodes }.EntersAt entry := by
  rcases enters with only | ⟨unmarked, only⟩
  · exact .marked (List.perm_singleton.mp (only ▸ order.filter Node.isEntry))
  · exact .trigger (List.perm_nil.mp (unmarked ▸ order.filter Node.isEntry))
      (List.perm_singleton.mp (only ▸ order.filter Node.isTrigger))

theorem Definition.IsWellFormed.perm (fine : definition.IsWellFormed) {nodes : List Node}
    (order : nodes.Perm definition.nodes) : { definition with nodes }.IsWellFormed := by
  obtain ⟨entry, enters⟩ := fine.enters
  refine ⟨(order.map Node.id).nodup_iff.mpr fine.nodup_ids, fun node member => ?_,
    fun node member output inside target aimed => ?_, fun node member => ?_, entry,
    enters.perm order⟩
  · exact fine.nodup_outputIds node (order.mem_iff.mp member)
  · obtain ⟨other, found, same⟩ :=
      fine.targetFound node (order.mem_iff.mp member) output inside target aimed
    exact ⟨other, order.mem_iff.mpr found, same⟩
  · exact fine.isConfigured node (order.mem_iff.mp member)

/-- Whether the check has a result does not depend on the order of the nodes. -/
theorem exists_problemsOf_perm {found : List String} {nodes : List Node}
    (order : nodes.Perm definition.nodes) (checked : problemsOf definition [] = .ok found) :
    ∃ others, problemsOf { definition with nodes } [] = .ok others := by
  cases again : problemsOf { definition with nodes } [] with
  | ok others => exact ⟨others, rfl⟩
  | error fault =>
      obtain ⟨node, member, breaks⟩ := exists_of_mapM_error (problemsOf_eq_error_iff.mp again)
      have fails := nodeProblems_eq_error_iff.mp breaks
      obtain ⟨first, failed⟩ := mapM_error_of_mem (order.mem_iff.mp member)
        (nodeProblems_eq_error_iff.mpr fails)
      rw [problemsOf_eq_error_iff.mpr failed] at checked
      cases checked

/-! ## Building the graph -/

theorem entryCandidates_of_entersAt (enters : definition.EntersAt entry) :
    entryCandidates definition = [entry] := by
  unfold entryCandidates markedNodes triggerNodes
  rcases enters with only | ⟨unmarked, only⟩
  · simp [only]
  · simp [unmarked, only]

/-- A well-formed definition that can be checked gives a graph, entered at its entry. -/
theorem Definition.IsWellFormed.ofDefinition {found : List String}
    (fine : definition.IsWellFormed) (checked : problemsOf definition [] = .ok found)
    (enters : definition.EntersAt entry) :
    ∃ graph, Graph.ofDefinition definition = .ok graph ∧ graph.entry? = some entry := by
  have none : found = [] := (isReportedBy_of_problemsOf checked).eq_nil_iff.mpr fine
  have candidates := entryCandidates_of_entersAt enters
  have member : entry ∈ definition.nodes :=
    mem_nodes_of_mem_entryCandidates (candidates ▸ List.mem_singleton_self entry)
  refine ⟨⟨definition, [], entry.id⟩, ?_, find?_of_nodup fine.nodup_ids member⟩
  unfold Graph.ofDefinition
  rw [checked, none, candidates]
  rfl

end WellFormed

/-- **The check accepts exactly the well-formed definitions and misses no flaw.**  Where it has a
result, the result reports every flaw, each once; it is empty for a definition that is well formed,
which then gives a graph, and otherwise it is why there is none.  The graph is entered at the one
node that is marked or else the one trigger, and listing the nodes in another order changes
nothing about that. -/
theorem checks_find_every_flaw {definition : Definition} {found : List String}
    (checked : problemsOf definition [] = .ok found) :
    definition.IsReportedBy found ∧ (found = [] ↔ definition.IsWellFormed) ∧
      ((∃ graph, Graph.ofDefinition definition = .ok graph) ↔ definition.IsWellFormed) ∧
      (¬definition.IsWellFormed → ∃ summary,
        Graph.ofDefinition definition = .error (.invalidDefinition summary found)) ∧
      ∀ graph, Graph.ofDefinition definition = .ok graph →
        ∃ entry, graph.entry? = some entry ∧ definition.EntersAt entry ∧
          ∀ nodes, nodes.Perm definition.nodes → ∃ other,
            Graph.ofDefinition { definition with nodes } = .ok other ∧
              other.entry? = some entry := by
  have reported := isReportedBy_of_problemsOf checked
  have accepted_iff :
      (∃ graph, Graph.ofDefinition definition = .ok graph) ↔ definition.IsWellFormed := by
    constructor
    · rintro ⟨graph, accepted⟩
      have clean := (Graph.ofDefinition_eq_ok accepted).1
      exact (isReportedBy_of_problemsOf clean).eq_nil_iff.mp rfl
    · intro fine
      obtain ⟨entry, enters⟩ := fine.enters
      obtain ⟨graph, built, _⟩ := fine.ofDefinition checked enters
      exact ⟨graph, built⟩
  refine ⟨reported, reported.eq_nil_iff, accepted_iff, fun spoiled => ?_, fun graph accepted => ?_⟩
  · rcases Graph.ofDefinition_of_problems checked with built | ⟨_, summary, told⟩
    · exact (spoiled (accepted_iff.mp built)).elim
    · exact ⟨summary, told⟩
  · have fine := accepted_iff.mp ⟨graph, accepted⟩
    obtain ⟨entry, enters⟩ := fine.enters
    obtain ⟨same, built, entered⟩ := fine.ofDefinition checked enters
    cases accepted.symm.trans built
    refine ⟨entry, entered, enters, fun nodes order => ?_⟩
    obtain ⟨others, again⟩ := exists_problemsOf_perm order checked
    exact (fine.perm order).ofDefinition again (enters.perm order)

namespace Booth

/-- A workflow with two triggers of one id, an output that leads nowhere and one that stands twice,
and a condition without a field and without the value that its operator needs. -/
def crooked : Definition :=
  { definition with
    nodes := [
      ⟨"touch", Kind.touchToStart, "", [], [⟨"default", "", "default", some "lounge"⟩], false, []⟩,
      ⟨"again", Kind.condition, "", Record.ofFields [("operator", .text "contains")],
        [⟨"then", "", "default", some "touch"⟩, ⟨"then", "", "default", none⟩], false, []⟩,
      ⟨"touch", "TRIGGER_TIMER", "", [], [], false, []⟩] }

def crookedProblems : List String := [
  "Duplicate node IDs found: touch",
  "Output 'default' of node 'touch' targets unknown node 'lounge'",
  "Node 'again' declares duplicate output IDs",
  "Condition node 'again' has no field configured",
  "Condition node 'again' needs a value for operator 'contains'",
  "Ambiguous entry: trigger nodes touch, touch need an explicit isEntry marker"]

/-- The six flaws are reported, and there is no graph. -/
theorem crooked_is_reported :
    problemsOf crooked [] = .ok crookedProblems ∧ crooked.IsReportedBy crookedProblems ∧
      ¬crooked.IsWellFormed ∧ ∃ summary,
        Graph.ofDefinition crooked = .error (.invalidDefinition summary crookedProblems) := by
  have checked : problemsOf crooked [] = .ok crookedProblems := by decide +kernel
  obtain ⟨reported, empty_iff, _, refused, _⟩ := checks_find_every_flaw checked
  have spoiled : ¬crooked.IsWellFormed := fun fine => nomatch empty_iff.mpr fine
  exact ⟨checked, reported, spoiled, refused spoiled⟩

end Booth

end GuestFlow
