import GuestFlow.Proofs.Document.Failure
import GuestFlow.Proofs.Graph

/-!
# How checking a definition fails

A definition that gives no graph should be answered with everything that is wrong with it.
`graphs_fail_over_operators` says that this is so, and that something is wrong then, with
one exception: the operator of a condition is free in form, and it is looked up among the
known ones before anything is said about it.  A list or a record cannot be looked up, and
an operator that holds an integer too long to be written cannot be shown
(`Condition.LookUpFails`).  `Booth.listed_operator_fails` is a document of that kind.
-/

set_option autoImplicit false

namespace GuestFlow

/-! ## Operators -/

namespace Condition

/-- A name cannot be looked up among the operators, or it is none of them and too long to be
written.  A set is no key, but looking it up is no failure: there is no such operator. -/
inductive LookUpFails (name : Value) : Fault → Prop where
  | unhashable {kind : String} (noSet : ∀ items, name ≠ .set items)
      (found : name.unhashable? = some kind) : LookUpFails name (.unhashable kind)
  | tooLong {fault : Fault} (lookedUp : (∃ items, name = .set items) ∨ name.unhashable? = none)
      (long : name.IsTooLong fault) : LookUpFails name fault

theorem LookUpFails.isDefinitionFault {name : Value} {fault : Fault}
    (fails : LookUpFails name fault) : fault.isDefinitionFault = false := by
  cases fails with
  | unhashable => rfl
  | tooLong _ long =>
      rw [long.fault_eq]
      rfl

/-- The names of operators are texts, and every text can be written. -/
theorem isWritable_of_operator? {name : Value} {operator : Operator}
    (known : operator? name = some operator) : name.isWritable = true := by
  cases name with
  | text characters => rfl
  | _ => cases known

/-- What is said about a condition once the name of its operator was looked up. -/
def verdictOn (node : Node) (name : Value) : Except Fault (List String) :=
  match operator? name with
  | none => do
    let text ← name.text?
    .ok ["Condition node " ++ quoted node.id ++ " uses unknown operator '" ++ text ++ "'"]
  | some operator =>
    if operator.needsValue && isBlankValue (comparedValue node) then do
      let text ← name.text?
      .ok ["Condition node " ++ quoted node.id ++ " needs a value for operator '" ++ text ++ "'"]
    else .ok []

theorem verdictOn_eq_error_iff {node : Node} {name : Value} {fault : Fault} :
    verdictOn node name = .error fault ↔ name.IsTooLong fault := by
  have shown : ∀ line : String → List String,
      (name.text? >>= fun text => .ok (line text)) = .error fault ↔ name.IsTooLong fault := by
    intro line
    rw [bind_eq_error_iff, Value.text?_eq_error_iff]
    exact or_iff_left fun ⟨_, _, built⟩ => nomatch built
  unfold verdictOn
  split
  · exact shown _
  · rename_i operator known
    split
    · exact shown _
    · refine iff_of_false (fun failed => nomatch failed) fun long => ?_
      have short := isWritable_of_operator? known
      rw [long.unwritable] at short
      cases short

end Condition

open Condition (LookUpFails verdictOn verdictOn_eq_error_iff operatorName)

/-- A set is looked up as it is; every other name has to be usable as a key. -/
theorem operatorProblems_eq (node : Node) :
    operatorProblems node =
      match operatorName node with
      | .set items => verdictOn node (.set items)
      | name => name.asKey >>= fun _ => verdictOn node name := by
  unfold operatorProblems
  dsimp only
  generalize operatorName node = name
  cases name with
  | _ => rfl

theorem operatorProblems_eq_error_iff {node : Node} {fault : Fault} :
    operatorProblems node = .error fault ↔ LookUpFails (operatorName node) fault := by
  rw [operatorProblems_eq]
  split
  · rename_i items isSet
    rw [isSet, verdictOn_eq_error_iff]
    constructor
    · exact fun long => .tooLong (.inl ⟨items, rfl⟩) long
    · intro fails
      cases fails with
      | unhashable noSet => exact absurd rfl (noSet items)
      | tooLong _ long => exact long
  · rename_i noSet
    rw [bind_eq_error_iff]
    unfold Value.asKey
    split
    · rename_i kind found
      constructor
      · rintro (failed | ⟨_, worked, _⟩)
        · cases failed
          exact .unhashable noSet found
        · cases worked
      · intro fails
        cases fails with
        | unhashable _ other =>
            rw [found] at other
            cases other
            exact .inl rfl
        | tooLong lookedUp =>
            rcases lookedUp with ⟨items, isSet⟩ | none
            · exact absurd isSet (noSet items)
            · rw [found] at none
              cases none
    · rename_i none
      constructor
      · rintro (failed | ⟨_, _, failed⟩)
        · cases failed
        · exact .tooLong (.inr none) (verdictOn_eq_error_iff.mp failed)
      · intro fails
        cases fails with
        | unhashable _ found =>
            rw [none] at found
            cases found
        | tooLong _ long => exact .inr ⟨_, rfl, verdictOn_eq_error_iff.mpr long⟩

/-! ## Nodes -/

/-- A condition whose operator cannot be looked up or shown. -/
structure Node.CheckFails (node : Node) (fault : Fault) : Prop where
  isCondition : node.isCondition = true
  lookUpFails : LookUpFails (operatorName node) fault

/-- Checking a node fails exactly where the operator of a condition does. -/
theorem nodeProblems_eq_error_iff {definition : Definition} {dropped : List String} {node : Node}
    {fault : Fault} :
    nodeProblems definition dropped node = .error fault ↔ node.CheckFails fault := by
  have ofCondition : conditionProblems node = .error fault ↔ node.CheckFails fault := by
    unfold conditionProblems
    split
    · rename_i isCondition
      have whole : (operatorProblems node >>= fun operators => .ok
            ((if isFieldName (Condition.fieldName node) then []
              else ["Condition node " ++ quoted node.id ++ " has no field configured"]) ++
              operators)) = .error fault ↔ operatorProblems node = .error fault := by
        rw [bind_eq_error_iff]
        exact or_iff_left fun ⟨_, _, built⟩ => nomatch built
      rw [operatorProblems_eq_error_iff] at whole
      exact whole.trans ⟨fun fails => ⟨isCondition, fails⟩, fun fails => fails.lookUpFails⟩
    · rename_i noCondition
      exact iff_of_false (fun failed => nomatch failed) fun fails => noCondition fails.isCondition
  unfold nodeProblems
  dsimp only
  rw [bind_eq_error_iff, ofCondition]
  exact or_iff_left fun ⟨_, _, built⟩ => nomatch built

/-! ## Definitions -/

/-- Where nothing is wrong with the entry, there is a node to enter at. -/
theorem exists_entry {definition : Definition} (fine : entryProblems definition = []) :
    ∃ entry others, entryCandidates definition = entry :: others := by
  unfold entryProblems at fine
  unfold entryCandidates
  dsimp only at fine ⊢
  cases marked : markedNodes definition with
  | cons entry others => exact ⟨entry, others, rfl⟩
  | nil =>
      rw [marked] at fine
      cases triggers : triggerNodes definition with
      | cons entry others => exact ⟨entry, others, rfl⟩
      | nil =>
          rw [triggers] at fine
          cases fine

theorem exists_entry_of_problemsOf {definition : Definition} {dropped : List String}
    (fine : problemsOf definition dropped = .ok []) :
    ∃ entry others, entryCandidates definition = entry :: others := by
  obtain ⟨inside, _, joined⟩ := bind_eq_ok_iff.mp fine
  rw [Except.ok.injEq, List.append_eq_nil_iff] at joined
  exact exists_entry joined.2

/-- Checking a definition fails exactly where checking some node does. -/
theorem problemsOf_eq_error_iff {definition : Definition} {dropped : List String} {fault : Fault} :
    problemsOf definition dropped = .error fault ↔
      definition.nodes.mapM (nodeProblems definition dropped) = .error fault := by
  unfold problemsOf
  rw [bind_eq_error_iff]
  exact or_iff_left fun ⟨_, _, built⟩ => nomatch built

namespace Graph

/-- A definition that was checked gives a graph or the problems that were found. -/
theorem ofDefinition_of_problems {definition : Definition} {found : List String}
    (checked : problemsOf definition [] = .ok found) :
    (∃ graph, ofDefinition definition = .ok graph) ∨
      found ≠ [] ∧ ∃ summary, ofDefinition definition = .error (.invalidDefinition summary found) := by
  unfold ofDefinition
  rw [checked]
  cases found with
  | cons problem others => exact .inr ⟨List.cons_ne_nil _ _, _, rfl⟩
  | nil =>
      obtain ⟨entry, others, candidates⟩ := exists_entry_of_problemsOf checked
      rw [candidates]
      exact .inl ⟨_, rfl⟩

end Graph

/-- **A definition gives a graph or the list of what is wrong with it, with one exception**: a
condition has an operator that cannot be looked up or shown.  Where there is such a condition, the
check fails over one and says nothing about the definition. -/
theorem graphs_fail_over_operators (definition : Definition) :
    FailsOnlyWith (fun fault =>
        (∃ summary problems, fault = .invalidDefinition summary problems ∧ problems ≠ []) ∨
          ∃ node ∈ definition.nodes, node.CheckFails fault) (Graph.ofDefinition definition) ∧
      ((∃ fault, Graph.ofDefinition definition = .error fault ∧ fault.isDefinitionFault = false) ↔
        ∃ node ∈ definition.nodes, ∃ fault, node.CheckFails fault) := by
  cases checked : problemsOf definition [] with
  | error fault =>
      have failed : Graph.ofDefinition definition = .error fault :=
        bind_eq_error_iff.mpr (.inl checked)
      obtain ⟨node, member, breaks⟩ := exists_of_mapM_error (problemsOf_eq_error_iff.mp checked)
      have fails := nodeProblems_eq_error_iff.mp breaks
      rw [failed]
      refine ⟨.of_error (.inr ⟨node, member, fails⟩), ?_⟩
      exact iff_of_true ⟨fault, rfl, fails.lookUpFails.isDefinitionFault⟩ ⟨node, member, fault, fails⟩
  | ok found =>
      have unbroken : ¬∃ node ∈ definition.nodes, ∃ fault, node.CheckFails fault := by
        rintro ⟨node, member, fault, fails⟩
        obtain ⟨first, failed⟩ := mapM_error_of_mem member (nodeProblems_eq_error_iff.mpr fails)
        rw [problemsOf_eq_error_iff.mpr failed] at checked
        cases checked
      rcases Graph.ofDefinition_of_problems checked with ⟨graph, built⟩ | ⟨some, summary, told⟩
      · rw [built]
        exact ⟨.of_ok graph, iff_of_false (fun ⟨_, failed, _⟩ => nomatch failed) unbroken⟩
      · rw [told]
        refine ⟨.of_error (.inl ⟨summary, found, rfl, some⟩), iff_of_false ?_ unbroken⟩
        rintro ⟨fault, failed, other⟩
        cases failed
        cases other

namespace Booth

/-- A workflow with a condition whose operator is given as a list of one name. -/
def listed : Value :=
  .record (Record.ofFields [("id", .text "booth"), ("name", .text "Photo booth"),
    ("steps", .record (Record.ofFields [("nodes", .list [
      .record (Record.ofFields [("id", .text "touch"), ("type", .text Kind.touchToStart),
        ("outputs", .list [
          .record (Record.ofFields [("id", .text "default"), ("target", .text "again")])])]),
      .record (Record.ofFields [("id", .text "again"), ("type", .text Kind.condition),
        ("config", .record (Record.ofFields [
          ("field", .text "more"), ("operator", .list [.text "gt"])])),
        ("outputs", .list [
          .record (Record.ofFields [("id", .text "then")]),
          .record (Record.ofFields [("id", .text "else")])])])])]))])

def listedDefinition : Definition where
  id := "booth"
  name := "Photo booth"
  description := none
  nodes := [
    ⟨"touch", Kind.touchToStart, "", [], [⟨"default", "", "default", some "again"⟩], false, []⟩,
    ⟨"again", Kind.condition, "",
      Record.ofFields [("field", .text "more"), ("operator", .list [.text "gt"])],
      [⟨"then", "", "default", none⟩, ⟨"else", "", "default", none⟩], false, []⟩]
  version := "1.0.0"
  flowType := none
  metadata := []

/-- The document is read, but its check fails over the operator and tells no problem. -/
theorem listed_operator_fails :
    Document.definition ⟨0⟩ listed = .ok (listedDefinition, ⟨0⟩) ∧
      Graph.ofDefinition listedDefinition = .error (.unhashable "list") ∧
      (Fault.unhashable "list").isDefinitionFault = false := by
  decide +kernel

end Booth

end GuestFlow
