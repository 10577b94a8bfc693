import GuestFlow.Proofs.Workflow.Flaws

/-!
# When conditions decide

A condition of a checked workflow is unresolved as long as its field was not collected, and
afterwards it should take one of two branches, whatever was collected.
`conditions_decide_unless_numbers_break` states how far this goes.

Two kinds of numbers break it.  An integer beyond the largest number of 64 bits cannot be
compared, while everything that is no number at all just fails the comparison
(`Condition.compareNumbers_eq_error_iff`); so a count that is too large stops a workflow where
a word would not (`Booth.endless_copies_decide_nothing`).  And an integer that is too long has
no text to be compared or shown by.  What hinders a check is said operator by operator in
`Condition.Hinders`, and nothing else does (`Condition.Operator.check_eq_error_iff`).
-/

set_option autoImplicit false

namespace GuestFlow

open Condition (Operator comparedValue)

/-- The other branch. -/
def Decision.opposite : Decision → Decision
  | .holds => .fails
  | .fails => .holds
  | .unresolved => .unresolved

/-! ## Numbers -/

namespace Value

/-- The value has a number, be it one that is too large. -/
inductive IsNumeric : Value → Prop where
  | bool (flag : Bool) : IsNumeric (.bool flag)
  | int (number : Int) : IsNumeric (.int number)
  | float (number : Binary64) : IsNumeric (.float number)
  | text {characters : String} {number : Binary64}
      (numeral : Numeral.readNumber? characters = some number) : IsNumeric (.text characters)
  | bytes {content : List UInt8} {characters : String} {number : Binary64}
      (plain : asciiText? content = some characters)
      (numeral : Numeral.readNumber? characters = some number) : IsNumeric (.bytes content)

/-- An integer beyond every number of 64 bits. -/
inductive IsTooLarge : Value → Prop where
  | int {number : Int} (large : Binary64.overflows number = true) : IsTooLarge (.int number)

theorem IsTooLarge.isNumeric {value : Value} (large : value.IsTooLarge) : value.IsNumeric := by
  cases large with
  | int => exact .int _

/-- The items of a list, a tuple or a set. -/
inductive HasItems : Value → List Value → Prop where
  | list (items : List Value) : HasItems (.list items) items
  | tuple (items : List Value) : HasItems (.tuple items) items
  | set (items : List Value) : HasItems (.set items) items

theorem HasItems.unique {value : Value} {items others : List Value} (holds : value.HasItems items)
    (again : value.HasItems others) : items = others := by
  cases holds <;> cases again <;> rfl

end Value

namespace Condition

section Check

variable {value actual expected : Value} {fault : Fault}

/-- **A value has a number, or none, or it is too large.** -/
theorem comparedNumber_cases (value : Value) :
    (¬value.IsNumeric ∧ comparedNumber value = .ok none) ∨
      (value.IsTooLarge ∧ comparedNumber value = .error .integerTooLarge) ∨
      (value.IsNumeric ∧ ¬value.IsTooLarge ∧
        ∃ number, comparedNumber value = .ok (some number)) := by
  unfold comparedNumber Value.toNumber
  cases value with
  | bool flag => exact .inr (.inr ⟨.bool flag, (nomatch ·), _, rfl⟩)
  | float number => exact .inr (.inr ⟨.float number, (nomatch ·), _, rfl⟩)
  | int number =>
      dsimp only
      unfold Value.numberOfInt
      cases large : Binary64.overflows number with
      | true => exact .inr (.inl ⟨.int large, rfl⟩)
      | false =>
          refine .inr (.inr ⟨.int number, fun other => ?_, _, rfl⟩)
          cases other with
          | int overflows =>
              rw [large] at overflows
              cases overflows
  | text characters =>
      dsimp only
      cases numeral : Numeral.readNumber? characters with
      | some number => exact .inr (.inr ⟨.text numeral, (nomatch ·), _, rfl⟩)
      | none =>
          refine .inl ⟨fun numeric => ?_, rfl⟩
          cases numeric with
          | text other =>
              rw [numeral] at other
              cases other
  | bytes content =>
      dsimp only
      cases numeral : (Value.asciiText? content).bind Numeral.readNumber? with
      | some number =>
          obtain ⟨characters, plain, spelt⟩ := Option.bind_eq_some_iff.mp numeral
          exact .inr (.inr ⟨.bytes plain spelt, (nomatch ·), _, rfl⟩)
      | none =>
          refine .inl ⟨fun numeric => ?_, rfl⟩
          cases numeric with
          | bytes plain spelt =>
              rw [plain, Option.bind_some, spelt] at numeral
              cases numeral
  | _ => exact .inl ⟨(nomatch ·), rfl⟩

theorem comparedNumber_eq_none_iff : comparedNumber value = .ok none ↔ ¬value.IsNumeric := by
  rcases comparedNumber_cases value with ⟨apart, computed⟩ | ⟨large, computed⟩ |
    ⟨numeric, _, number, computed⟩
  · exact iff_of_true computed apart
  · rw [computed]
    exact iff_of_false (fun none => nomatch none) fun apart => apart large.isNumeric
  · rw [computed]
    exact iff_of_false (fun none => nomatch none) fun apart => apart numeric

theorem comparedNumber_eq_error_iff :
    comparedNumber value = .error fault ↔ value.IsTooLarge ∧ fault = .integerTooLarge := by
  rcases comparedNumber_cases value with ⟨apart, computed⟩ | ⟨large, computed⟩ |
    ⟨_, small, number, computed⟩
  · rw [computed]
    exact iff_of_false (fun failed => nomatch failed) fun ⟨large, _⟩ => apart large.isNumeric
  · rw [computed]
    constructor
    · intro failed
      cases failed
      exact ⟨large, rfl⟩
    · rintro ⟨_, rfl⟩
      rfl
  · rw [computed]
    exact iff_of_false (fun failed => nomatch failed) fun ⟨large, _⟩ => small large

/-- A comparison fails over an integer that is too large, but over nothing that is no number. -/
theorem compareNumbers_eq_error_iff {relation : Binary64 → Binary64 → Bool} :
    compareNumbers relation actual expected = .error fault ↔
      (actual.IsTooLarge ∨ actual.IsNumeric ∧ expected.IsTooLarge) ∧ fault = .integerTooLarge := by
  unfold compareNumbers
  rw [bind_eq_error_iff, comparedNumber_eq_error_iff]
  constructor
  · rintro (⟨large, same⟩ | ⟨_ | left, first, failed⟩)
    · exact ⟨.inl large, same⟩
    · cases failed
    · have numeric : actual.IsNumeric := by
        by_contra apart
        rw [comparedNumber_eq_none_iff.mpr apart] at first
        cases first
      rcases bind_eq_error_iff.mp failed with failed | ⟨_ | right, _, built⟩
      · obtain ⟨large, same⟩ := comparedNumber_eq_error_iff.mp failed
        exact ⟨.inr ⟨numeric, large⟩, same⟩
      · cases built
      · cases built
  · rintro ⟨large | ⟨numeric, large⟩, same⟩
    · exact .inl ⟨large, same⟩
    · rcases comparedNumber_cases actual with ⟨apart, _⟩ | ⟨largeToo, _⟩ | ⟨_, _, left, first⟩
      · exact (apart numeric).elim
      · exact .inl ⟨largeToo, same⟩
      · refine .inr ⟨some left, first, bind_eq_error_iff.mpr (.inl ?_)⟩
        exact comparedNumber_eq_error_iff.mpr ⟨large, same⟩

/-- A comparison with something that is no number does not hold. -/
theorem compareNumbers_of_not_isNumeric {relation : Binary64 → Binary64 → Bool} {answer : Bool}
    (apart : ¬actual.IsNumeric ∨ ¬expected.IsNumeric)
    (compared : compareNumbers relation actual expected = .ok answer) : answer = false := by
  obtain ⟨_ | left, first, compared⟩ := bind_eq_ok_iff.mp compared
  · cases compared
    rfl
  · obtain ⟨_ | right, second, compared⟩ := bind_eq_ok_iff.mp compared
    · cases compared
      rfl
    · rcases apart with apart | apart
      · rw [comparedNumber_eq_none_iff.mpr apart] at first
        cases first
      · rw [comparedNumber_eq_none_iff.mpr apart] at second
        cases second

/-! ## Texts -/

/-- The common form of a value is there unless the value has no text. -/
theorem commonText_eq_error_iff : commonText value = .error fault ↔ value.IsTooLong fault := by
  have short {value : Value} {text : String} (writable : value.isWritable = true) :
      (.ok text : Except Fault String) = .error fault ↔ value.IsTooLong fault :=
    iff_of_false (nomatch ·) fun long => by
      have unwritable := long.unwritable
      rw [writable] at unwritable
      cases unwritable
  unfold commonText
  split
  · exact short rfl
  · exact short rfl
  · split
    · exact short rfl
    · exact short rfl
  · exact Value.text?_eq_error_iff

/-- Two computations one after the other fail where one of them does, if both fail alike. -/
theorem both_eq_error_iff {α β γ : Type} {first : Except Fault α} {second : Except Fault β}
    {build : α → β → γ}
    (alike : ∀ {one other}, first = .error one → second = .error other → one = other) :
    (first >>= fun left => second >>= fun right => .ok (build left right)) = .error fault ↔
      first = .error fault ∨ second = .error fault := by
  rw [bind_eq_error_iff]
  constructor
  · rintro (failed | ⟨left, _, failed⟩)
    · exact .inl failed
    · exact .inr ((bind_eq_error_iff.mp failed).resolve_right fun ⟨_, _, built⟩ => nomatch built)
  · rintro (failed | failed)
    · exact .inl failed
    · cases worked : first with
      | error other => exact .inl (congrArg _ (alike worked failed))
      | ok left => exact .inr ⟨left, rfl, bind_eq_error_iff.mpr (.inl failed)⟩

theorem areEqual_eq_error_iff :
    areEqual actual expected = .error fault ↔
      actual.IsTooLong fault ∨ expected.IsTooLong fault := by
  unfold areEqual
  rw [both_eq_error_iff, commonText_eq_error_iff, commonText_eq_error_iff]
  intro one other first second
  exact (commonText_eq_error_iff.mp first).fault_eq.trans
    (commonText_eq_error_iff.mp second).fault_eq.symm

/-- The search among items fails at an item without a text, unless it ended before. -/
theorem someEqual_eq_error_iff {items : List Value} :
    someEqual expected items = .error fault ↔
      ∃ before item after, items = before ++ item :: after ∧
        (∀ earlier ∈ before, areEqual earlier expected = .ok false) ∧
        (item.IsTooLong fault ∨ expected.IsTooLong fault) := by
  induction items with
  | nil => simp [someEqual]
  | cons first rest ih =>
      unfold someEqual
      rw [bind_eq_error_iff, areEqual_eq_error_iff]
      constructor
      · rintro (long | ⟨same, compared, failed⟩)
        · exact ⟨[], first, rest, rfl, by simp, long⟩
        · cases same with
          | true => cases failed
          | false =>
              obtain ⟨before, item, after, rfl, passed, long⟩ := ih.mp failed
              exact ⟨first :: before, item, after, rfl, List.forall_mem_cons.mpr ⟨compared, passed⟩,
                long⟩
      · rintro ⟨before, item, after, split, passed, long⟩
        cases before with
        | nil =>
            cases split
            exact .inl long
        | cons _ before =>
            cases split
            obtain ⟨compared, passed⟩ := List.forall_mem_cons.mp passed
            exact .inr ⟨false, compared, ih.mpr ⟨before, item, after, rfl, passed, long⟩⟩

/-! ## Searching -/

/-- Looking for a value in another one meets something that has no text. -/
inductive SearchFails (expected : Value) : Value → Fault → Prop where
  | record {entries : Record} {fault : Fault}
      (long : expected.IsTooLong fault ∨ ∃ key ∈ entries.keys, key.IsTooLong fault) :
      SearchFails expected (.record entries) fault
  | items {value : Value} {before after : List Value} {item : Value} {fault : Fault}
      (holds : value.HasItems (before ++ item :: after))
      (passed : ∀ earlier ∈ before, areEqual earlier expected = .ok false)
      (long : item.IsTooLong fault ∨ expected.IsTooLong fault) : SearchFails expected value fault
  | text {value : Value} {fault : Fault} (noRecord : ∀ entries, value ≠ .record entries)
      (noItems : ∀ items, ¬value.HasItems items)
      (long : expected.IsTooLong fault ∨ value.IsTooLong fault) : SearchFails expected value fault

theorem mapM_commonText_eq_error_iff {keys : List Value} :
    keys.mapM commonText = .error fault ↔ ∃ key ∈ keys, key.IsTooLong fault := by
  constructor
  · intro failed
    obtain ⟨key, member, fails⟩ := exists_of_mapM_error failed
    exact ⟨key, member, commonText_eq_error_iff.mp fails⟩
  · rintro ⟨key, member, long⟩
    obtain ⟨first, failed⟩ := mapM_error_of_mem member (commonText_eq_error_iff.mpr long)
    obtain ⟨_, _, fails⟩ := exists_of_mapM_error failed
    rw [failed, (commonText_eq_error_iff.mp fails).fault_eq, long.fault_eq]

theorem searchFails_record_iff {entries : Record} :
    SearchFails expected (.record entries) fault ↔
      expected.IsTooLong fault ∨ ∃ key ∈ entries.keys, key.IsTooLong fault := by
  constructor
  · rintro (long | ⟨holds, _⟩ | ⟨noRecord, _⟩)
    · exact long
    · cases holds
    · exact (noRecord entries rfl).elim
  · exact .record

theorem searchFails_items_iff {items : List Value} (holds : actual.HasItems items) :
    SearchFails expected actual fault ↔ someEqual expected items = .error fault := by
  rw [someEqual_eq_error_iff]
  constructor
  · rintro (_ | ⟨again, passed, long⟩ | ⟨_, noItems, _⟩)
    · cases holds
    · obtain rfl := holds.unique again
      exact ⟨_, _, _, rfl, passed, long⟩
    · exact (noItems _ holds).elim
  · rintro ⟨before, item, after, rfl, passed, long⟩
    exact .items holds passed long

theorem searchFails_text_iff (noRecord : ∀ entries, actual ≠ .record entries)
    (noItems : ∀ items, ¬actual.HasItems items) :
    SearchFails expected actual fault ↔ expected.IsTooLong fault ∨ actual.IsTooLong fault := by
  constructor
  · rintro (_ | ⟨holds, _⟩ | ⟨_, _, long⟩)
    · exact (noRecord _ rfl).elim
    · exact (noItems _ holds).elim
    · exact long
  · exact .text noRecord noItems

/-- Whatever is searched, the search fails over a part without a text. -/
theorem doesContain_eq_error_iff :
    doesContain actual expected = .error fault ↔
      isBlankValue expected = false ∧ SearchFails expected actual fault := by
  unfold doesContain
  split
  · rename_i blank
    exact iff_of_false (nomatch ·) fun ⟨given, _⟩ => by
      rw [given] at blank
      cases blank
  · rename_i given
    rw [Bool.not_eq_true] at given
    rw [and_iff_right given]
    split
    · rw [both_eq_error_iff, commonText_eq_error_iff, mapM_commonText_eq_error_iff,
        searchFails_record_iff]
      intro one other first second
      obtain ⟨key, _, long⟩ := mapM_commonText_eq_error_iff.mp second
      exact (commonText_eq_error_iff.mp first).fault_eq.trans long.fault_eq.symm
    · exact (searchFails_items_iff (.list _)).symm
    · exact (searchFails_items_iff (.tuple _)).symm
    · exact (searchFails_items_iff (.set _)).symm
    · rename_i noRecord noList noTuple noSet
      have noItems : ∀ items, ¬actual.HasItems items := by
        rintro items (_ | _ | _)
        · exact noList _ rfl
        · exact noTuple _ rfl
        · exact noSet _ rfl
      rw [both_eq_error_iff, commonText_eq_error_iff, commonText_eq_error_iff,
        searchFails_text_iff noRecord noItems]
      intro one other first second
      exact (commonText_eq_error_iff.mp first).fault_eq.trans
        (commonText_eq_error_iff.mp second).fault_eq.symm

/-! ## Operators -/

/-- What hinders an operator to check a value against the one that is expected. -/
inductive Hinders (actual expected : Value) : Operator → Fault → Prop where
  | comparison {operator : Operator} {fault : Fault}
      (compares : operator = .greaterThan ∨ operator = .lessThan)
      (large : actual.IsTooLarge ∨ actual.IsNumeric ∧ expected.IsTooLarge)
      (same : fault = .integerTooLarge) : Hinders actual expected operator fault
  | equation {operator : Operator} {fault : Fault}
      (equates : operator = .equals ∨ operator = .notEquals)
      (long : actual.IsTooLong fault ∨ expected.IsTooLong fault) :
      Hinders actual expected operator fault
  | search {fault : Fault} (given : isBlankValue expected = false)
      (fails : SearchFails expected actual fault) : Hinders actual expected .contains fault

/-- **An operator fails exactly where something hinders it.** -/
theorem Operator.check_eq_error_iff {operator : Operator} :
    operator.check actual expected = .error fault ↔ Hinders actual expected operator fault := by
  have equation (equates : operator = .equals ∨ operator = .notEquals) :
      areEqual actual expected = .error fault ↔ Hinders actual expected operator fault := by
    rw [areEqual_eq_error_iff]
    refine ⟨.equation equates, ?_⟩
    rintro (⟨compares, _⟩ | ⟨_, long⟩ | _)
    · rcases equates with rfl | rfl <;> simp at compares
    · exact long
    · simp at equates
  have comparison (compares : operator = .greaterThan ∨ operator = .lessThan)
      (relation : Binary64 → Binary64 → Bool) :
      compareNumbers relation actual expected = .error fault ↔
        Hinders actual expected operator fault := by
    rw [compareNumbers_eq_error_iff]
    refine ⟨fun ⟨large, same⟩ => .comparison compares large same, ?_⟩
    rintro (⟨_, large, same⟩ | ⟨equates, _⟩ | _)
    · exact ⟨large, same⟩
    · rcases compares with rfl | rfl <;> simp at equates
    · simp at compares
  cases operator with
  | equals => exact equation (.inl rfl)
  | notEquals => exact map_eq_error_iff.trans (equation (.inr rfl))
  | greaterThan => exact comparison (.inl rfl) _
  | lessThan => exact comparison (.inr rfl) _
  | contains =>
      refine doesContain_eq_error_iff.trans ⟨fun ⟨given, fails⟩ => .search given fails, ?_⟩
      rintro (⟨compares, _⟩ | ⟨equates, _⟩ | ⟨given, fails⟩)
      · simp at compares
      · simp at equates
      · exact ⟨given, fails⟩
  | truthy | falsy | «exists» =>
      refine iff_of_false (nomatch ·) ?_
      rintro (⟨compares, _⟩ | ⟨equates, _⟩)
      · simp at compares
      · simp at equates

end Check

/-! ## Decisions -/

/-- What an operator makes of the value that was collected, if there is one.  The value that is
expected is shown in the journal. -/
def outcome (operator : Operator) (expected : Value) : Option Value → Except Fault Decision
  | none => .ok .unresolved
  | some actual => do
    let answer ← operator.check actual expected
    expected.literal?.map fun _ => if answer then .holds else .fails

/-- There is no decision: the check is hindered, or the value that is expected cannot be shown. -/
inductive Undecided (operator : Operator) (actual expected : Value) (fault : Fault) : Prop where
  | hindered (hinders : Hinders actual expected operator fault)
  | unshown (unhindered : ∀ other, ¬Hinders actual expected operator other)
      (long : expected.IsTooLong fault)

/-- The operator decides the opposite of the other one. -/
inductive Operator.Opposes : Operator → Operator → Prop where
  | equals : Opposes .notEquals .equals
  | truthy : Opposes .falsy .truthy

section Outcome

variable {operator other : Operator} {actual expected : Value} {fault : Fault}

theorem literal?_eq_error_iff : expected.literal? = .error fault ↔ expected.IsTooLong fault := by
  refine ⟨Value.isTooLong_of_literal?, fun long => ?_⟩
  unfold Value.literal?
  rw [long.unwritable, long.fault_eq]
  rfl

/-- **There is a decision unless one of the two reasons is in the way.** -/
theorem outcome_eq_error_iff :
    outcome operator expected (some actual) = .error fault ↔
      Undecided operator actual expected fault := by
  unfold outcome
  rw [bind_eq_error_iff, Operator.check_eq_error_iff]
  constructor
  · rintro (hinders | ⟨answer, checked, failed⟩)
    · exact .hindered hinders
    · have long := literal?_eq_error_iff.mp (map_eq_error_iff.mp failed)
      refine .unshown (fun other hinders => ?_) long
      rw [Operator.check_eq_error_iff.mpr hinders] at checked
      cases checked
  · rintro (hinders | ⟨unhindered, long⟩)
    · exact .inl hinders
    · cases checked : operator.check actual expected with
      | error other => exact (unhindered other (Operator.check_eq_error_iff.mp checked)).elim
      | ok answer => exact .inr ⟨answer, rfl, map_eq_error_iff.mpr (literal?_eq_error_iff.mpr long)⟩

theorem outcome_eq_unresolved_iff {collected : Option Value} :
    outcome operator expected collected = .ok .unresolved ↔ collected = none := by
  cases collected with
  | none => exact iff_of_true rfl rfl
  | some actual =>
      refine iff_of_false (fun resolved => ?_) (nomatch ·)
      obtain ⟨answer, _, shown⟩ := bind_eq_ok_iff.mp resolved
      obtain ⟨_, _, same⟩ := map_eq_ok_iff.mp shown
      cases answer <;> cases same

/-- A decision about something that was collected is one of the two branches. -/
theorem outcome_of_decided (decided : ∀ fault, ¬Undecided operator actual expected fault) :
    outcome operator expected (some actual) = .ok .holds ∨
      outcome operator expected (some actual) = .ok .fails := by
  cases computed : outcome operator expected (some actual) with
  | error fault => exact (decided fault (outcome_eq_error_iff.mp computed)).elim
  | ok decision =>
      cases decision with
      | holds => exact .inl rfl
      | fails => exact .inr rfl
      | unresolved => cases outcome_eq_unresolved_iff.mp computed

/-- A comparison does not hold of what is no number. -/
theorem outcome_ne_holds (compares : operator = .greaterThan ∨ operator = .lessThan)
    (apart : ¬actual.IsNumeric ∨ ¬expected.IsNumeric) :
    outcome operator expected (some actual) ≠ .ok .holds := by
  intro holds
  obtain ⟨answer, checked, shown⟩ := bind_eq_ok_iff.mp holds
  obtain ⟨_, _, same⟩ := map_eq_ok_iff.mp shown
  have fails : answer = false := by
    rcases compares with rfl | rfl
    · exact compareNumbers_of_not_isNumeric apart checked
    · exact compareNumbers_of_not_isNumeric apart checked
  subst fails
  cases same

/-- **Opposite operators decide for opposite branches.** -/
theorem outcome_of_opposes (opposes : other.Opposes operator) (collected : Option Value) :
    outcome other expected collected =
      (outcome operator expected collected).map Decision.opposite := by
  cases collected with
  | none => rfl
  | some actual =>
      have checks : other.check actual expected = (operator.check actual expected).map (!·) := by
        cases opposes <;> rfl
      unfold outcome
      dsimp only
      rw [checks]
      cases operator.check actual expected with
      | error fault => rfl
      | ok answer =>
          cases expected.literal? with
          | error fault => rfl
          | ok shown => cases answer <;> rfl

end Outcome

/-- The decision of a configured condition is what its operator makes of its field. -/
theorem decide_eq_outcome {node : Node} {field : String} {operator : Operator}
    (isCondition : node.kind = Kind.condition) (named : node.config.field "field" = .text field)
    (long : field ≠ "") (has : node.HasOperator operator) (data : Record) :
    Condition.decide node data = outcome operator (comparedValue node) (data.field? field) := by
  have known := operator?_operatorName_iff.mpr has
  have collected : collected? node data = .ok (data.field? field) := by
    unfold collected? fieldName
    rw [named]
    exact if_pos (by simpa [Value.isTruthy] using long)
  have decides : node.isCondition = true := beq_iff_eq.mpr isCondition
  unfold Condition.decide evaluate
  rw [if_pos decides, collected]
  cases data.field? field with
  | none => rfl
  | some actual =>
      cases spelt : operatorName node with
      | text name =>
          rw [spelt] at known
          have found : findOperator node = .ok operator := by
            unfold findOperator
            rw [spelt]
            dsimp only [Value.asKey, Value.unhashable?, bind, Except.bind]
            rw [known]
          have told (decision : Decision) : ∃ line : String → Remark,
              remark node decision = (comparedValue node).literal?.map line := by
            unfold remark fieldName
            rw [named, spelt]
            exact ⟨_, rfl⟩
          dsimp only [outcome, bind, Except.bind]
          rw [found]
          dsimp only
          cases operator.check actual (comparedValue node) with
          | error fault => rfl
          | ok answer =>
              obtain ⟨line, remarked⟩ := told (if answer then .holds else .fails)
              dsimp only
              rw [remarked]
              cases (comparedValue node).literal? with
              | error fault => rfl
              | ok shown => rfl
      | _ =>
          rw [spelt] at known
          cases known

end Condition

open Condition (Undecided)

/-- **A condition of a checked workflow decides, unless a number is too large or too long.**  It is
unresolved exactly as long as its field was not collected.  Afterwards it takes one of the two
branches, except where the check is hindered or the value that is expected cannot be shown; what
is no number passes no comparison, and opposite operators decide for opposite branches. -/
theorem conditions_decide_unless_numbers_break {definition : Definition} {graph : Graph}
    (accepted : Graph.ofDefinition definition = .ok graph) {node : Node}
    (member : node ∈ definition.nodes) (isCondition : node.kind = Kind.condition) (data : Record) :
    ∃ field operator, node.config.field "field" = .text field ∧ field ≠ "" ∧
      node.HasOperator operator ∧
      (Condition.decide node data = .ok .unresolved ↔ data.field? field = none) ∧
      (∀ actual, data.field? field = some actual →
        (∀ fault, Condition.decide node data = .error fault ↔
          Undecided operator actual (comparedValue node) fault) ∧
        ((∀ fault, ¬Undecided operator actual (comparedValue node) fault) →
          Condition.decide node data = .ok .holds ∨ Condition.decide node data = .ok .fails) ∧
        (operator = .greaterThan ∨ operator = .lessThan →
          ¬actual.IsNumeric ∨ ¬(comparedValue node).IsNumeric →
            Condition.decide node data ≠ .ok .holds)) ∧
      ∀ (twin : Node) (other : Operator), twin.kind = Kind.condition →
        twin.config.field "field" = .text field → comparedValue twin = comparedValue node →
        twin.HasOperator other → other.Opposes operator →
          Condition.decide twin data = (Condition.decide node data).map Decision.opposite := by
  have clean := (Graph.ofDefinition_eq_ok accepted).1
  have fine : definition.IsWellFormed := (isReportedBy_of_problemsOf clean).eq_nil_iff.mp rfl
  obtain ⟨⟨field, named, long⟩, ⟨operator, has⟩, _⟩ := fine.isConfigured node member isCondition
  have decided := Condition.decide_eq_outcome isCondition named long has data
  refine ⟨field, operator, named, long, has, ?_, fun actual collected => ?_, ?_⟩
  · rw [decided, Condition.outcome_eq_unresolved_iff]
  · rw [decided, collected]
    exact ⟨fun fault => Condition.outcome_eq_error_iff, Condition.outcome_of_decided,
      Condition.outcome_ne_holds⟩
  · intro twin other twinIsCondition twinNamed same twinHas opposes
    rw [Condition.decide_eq_outcome twinIsCondition twinNamed long twinHas data, decided, same]
    exact Condition.outcome_of_opposes opposes _

namespace Booth

/-- A condition that compares the number of copies with a word. -/
def wordy : Node :=
  ⟨"many", Kind.condition, "", Record.ofFields [("field", .text "copies"), ("operator", .text "gt"),
    ("value", .text "dozens")],
    [⟨"then", "", "default", none⟩, ⟨"else", "", "default", none⟩], false, []⟩

def wordyDefinition : Definition :=
  { definition with
    nodes := [
      ⟨"touch", Kind.touchToStart, "", [], [⟨"default", "", "default", some "many"⟩], false, []⟩,
      wordy] }

/-- Nothing is more than a word, but a number of copies beyond every float is not compared. -/
theorem endless_copies_decide_nothing :
    Graph.ofDefinition wordyDefinition = .ok ⟨wordyDefinition, [], "touch"⟩ ∧
      wordy ∈ wordyDefinition.nodes ∧ ¬(comparedValue wordy).IsNumeric ∧
      Condition.decide wordy [(.text "copies", .int 12)] = .ok .fails ∧
      Condition.decide wordy [(.text "copies", .int (Nat.pow 10 309))] =
        .error .integerTooLarge := by
  refine ⟨rfl, by decide +kernel, ?_, by decide +kernel, by decide +kernel⟩
  rw [← Condition.comparedNumber_eq_none_iff]
  decide +kernel

/-- Nothing is in the way of the usual number of copies. -/
theorem dozen_copies_are_decided :
    Graph.ofDefinition wordyDefinition = .ok ⟨wordyDefinition, [], "touch"⟩ ∧
      wordy ∈ wordyDefinition.nodes ∧ wordy.kind = Kind.condition ∧
      ∃ operator, wordy.HasOperator operator ∧
        ∀ fault, ¬Undecided operator (.int 12) (.text "dozens") fault := by
  have member : wordy ∈ wordyDefinition.nodes := by decide +kernel
  have decided : Condition.decide wordy [(.text "copies", .int 12)] = .ok .fails := by
    decide +kernel
  obtain ⟨field, operator, named, _, has, _, present, _⟩ :=
    @conditions_decide_unless_numbers_break wordyDefinition ⟨wordyDefinition, [], "touch"⟩ rfl wordy
      member rfl [(.text "copies", .int 12)]
  cases named
  refine ⟨rfl, member, rfl, operator, has, fun fault undecided => ?_⟩
  have failed := ((present (.int 12) rfl).1 fault).mpr undecided
  rw [decided] at failed
  cases failed

end Booth

end GuestFlow
