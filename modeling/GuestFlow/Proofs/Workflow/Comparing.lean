import GuestFlow.Proofs.Json.Reading
import GuestFlow.Proofs.Number.Digits
import GuestFlow.Proofs.Script.Figure
import GuestFlow.Proofs.Workflow.Deciding

/-!
# How integers are compared

The operators `gt` and `lt` compare numbers of 64 bits.  An integer has one, be it given as an
integer or as its decimal text (`Condition.comparedNumber_of_gives`), and different integers may
have the same one.  A comparison then takes neither of them for the larger
(`Booth.next_copy_is_not_more`), but it never takes the smaller one for the larger.
`integers_compare_up_to_rounding` states both.
-/

set_option autoImplicit false

namespace GuestFlow

open Condition (Operator comparedValue)

/-! ## Decimal texts -/

namespace Numeral

theorem readDecimal?_digits (negative : Bool) (digits : Script.Digits) :
    readDecimal? negative digits.characters =
      some (Binary64.ofDecimal negative (digitsValue digits.characters) 0) := by
  have nonempty : digits.characters.isEmpty = false := by simp [digits.nonempty]
  unfold readDecimal?
  rw [spanDigits_eq digits.areDigits]
  simp [nonempty, readExponent?]

/-- **The decimal text of an integer is read as the number of the integer.** -/
theorem readNumber?_toString (number : Int) :
    readNumber? (toString number) = some (Binary64.ofInt number) := by
  have decimal := readDecimal?_digits (decide (number < 0)) (digitsOf number.natAbs)
  have marks : ∀ character ∈ Script.Figure.sign (decide (number < 0)) ++
      (digitsOf number.natAbs).characters, isMark character = true :=
    List.forall_mem_append.mpr ⟨Script.Figure.areMarks_sign _, (digitsOf number.natAbs).areMarks⟩
  obtain ⟨first, rest, written, isDigit⟩ := (digitsOf number.natAbs).exists_first
  unfold readNumber?
  have same : Nat.toDigits 10 number.natAbs = (digitsOf number.natAbs).characters := rfl
  rw [toString_eq, same, plain_eq marks, dropUnderscores_eq marks (Option.some_ne_none _).symm,
    Option.bind_some]
  rw [written] at decimal ⊢
  rw [Script.Figure.takeSign_sign _ isDigit]
  dsimp only
  rw [Script.Figure.special?_eq_none _ isDigit, decimal, ← written,
    show (digitsOf number.natAbs).characters = Nat.toDigits 10 number.natAbs from rfl,
    digitsValue_toDigits, Binary64.ofDecimal_zero]
  rfl

end Numeral

/-! ## Integers as operands -/

/-- The value gives an integer, as it is or as its decimal text. -/
inductive Value.Gives : Value → Int → Prop where
  | int (number : Int) : Gives (.int number) number
  | text (number : Int) : Gives (.text (toString number)) number

/-- The condition compares a field with an integer that is not too large. -/
structure Node.Compares (node : Node) (field : String) (operator : Operator) (expected : Int) :
    Prop where
  isCondition : node.kind = Kind.condition
  named : node.config.field "field" = .text field
  nonempty : field ≠ ""
  has : node.HasOperator operator
  gives : (comparedValue node).Gives expected
  small : ¬(comparedValue node).IsTooLarge

namespace Condition

variable {value actual : Value} {number collected expected : Int}

theorem comparedNumber_of_gives (gives : value.Gives number) (small : ¬value.IsTooLarge) :
    comparedNumber value = .ok (some (Binary64.ofInt number)) := by
  unfold comparedNumber Value.toNumber
  cases gives with
  | int =>
      have fits : Binary64.overflows number = false :=
        Bool.eq_false_iff.mpr fun large => small (.int large)
      simp only [Value.numberOfInt, fits, Bool.false_eq_true, if_false]
  | text =>
      dsimp only
      rw [Numeral.readNumber?_toString]

/-- What is not too large can be shown. -/
theorem exists_literal_of_gives (gives : value.Gives number) (small : ¬value.IsTooLarge) :
    ∃ shown, value.literal? = .ok shown := by
  cases gives with
  | text => exact ⟨_, rfl⟩
  | int =>
      have fits : Binary64.overflows number = false :=
        Bool.eq_false_iff.mpr fun large => small (.int large)
      have low := Binary64.natAbs_lt_ceiling fits
      exact ⟨_, if_pos (@Value.fitsLimit_of_lt number 310 (by decide)
        (Nat.lt_of_lt_of_le low (by decide +kernel)))⟩

/-- Operands that give integers are compared as the numbers of these integers are. -/
theorem decide_of_gives (relation : Binary64 → Binary64 → Bool) {node : Node} {field : String}
    {operator : Operator} {data : Record} (compares : node.Compares field operator expected)
    (checks : operator.check actual (comparedValue node) =
      compareNumbers relation actual (comparedValue node))
    (present : data.field? field = some actual) (gives : actual.Gives collected)
    (small : ¬actual.IsTooLarge) :
    Condition.decide node data = .ok
      (if relation (Binary64.ofInt collected) (Binary64.ofInt expected) then .holds
        else .fails) := by
  obtain ⟨shown, literal⟩ := exists_literal_of_gives compares.gives compares.small
  have compared : compareNumbers relation actual (comparedValue node) =
      .ok (relation (Binary64.ofInt collected) (Binary64.ofInt expected)) := by
    unfold compareNumbers
    rw [comparedNumber_of_gives gives small,
      comparedNumber_of_gives compares.gives compares.small]
    rfl
  rw [decide_eq_outcome compares.isCondition compares.named compares.nonempty compares.has, present]
  dsimp only [outcome]
  rw [checks, compared, literal]
  rfl

end Condition

open Binary64 (Alike IsExact)

/-- **Integers are compared as far as their numbers differ.**  Of two integers, each given as an
integer or as its decimal text, the larger one is taken for the larger unless both have the same
number of 64 bits; exactly one of the three is the case.  Equal integers have the same number, and
integers that are such numbers themselves, like all up to `2 ^ 53`, have it only if they
are equal. -/
theorem integers_compare_up_to_rounding {above below : Node} {field : String} {data : Record}
    {actual : Value} {collected expected : Int}
    (more : above.Compares field .greaterThan expected)
    (less : below.Compares field .lessThan expected)
    (present : data.field? field = some actual) (gives : actual.Gives collected)
    (small : ¬actual.IsTooLarge) :
    Condition.decide above data =
        .ok (if expected < collected ∧ ¬Alike collected expected then .holds else .fails) ∧
      Condition.decide below data =
        .ok (if collected < expected ∧ ¬Alike collected expected then .holds else .fails) ∧
      (Condition.decide above data = .ok .holds ∧ Condition.decide below data = .ok .fails ∧
          ¬Alike collected expected ∨
        Condition.decide above data = .ok .fails ∧ Condition.decide below data = .ok .holds ∧
          ¬Alike collected expected ∨
        Condition.decide above data = .ok .fails ∧ Condition.decide below data = .ok .fails ∧
          Alike collected expected) ∧
      (collected = expected → Alike collected expected) ∧
      (IsExact collected → IsExact expected → (Alike collected expected ↔ collected = expected)) ∧
      ∀ number : Int, number.natAbs ≤ 2 ^ 53 → IsExact number := by
  have larger : Condition.decide above data =
      .ok (if expected < collected ∧ ¬Alike collected expected then .holds else .fails) := by
    rw [Condition.decide_of_gives (fun left right => right.less left) more rfl present gives small]
    simp only [Binary64.less_ofInt_iff, Binary64.alike_comm]
  have smaller : Condition.decide below data =
      .ok (if collected < expected ∧ ¬Alike collected expected then .holds else .fails) := by
    rw [Condition.decide_of_gives Binary64.less less rfl present gives small]
    simp only [Binary64.less_ofInt_iff]
  have itself : collected = expected → Alike collected expected := by
    rintro rfl
    exact Binary64.alike_self collected
  refine ⟨larger, smaller, ?_, itself, Binary64.alike_iff_of_isExact,
    fun _ => Binary64.isExact_of_short⟩
  rw [larger, smaller]
  by_cases alike : Alike collected expected
  · simp [alike]
  · have differ : collected ≠ expected := fun same => alike (itself same)
    rcases Int.lt_or_gt_of_ne differ with less | more
    · simp [alike, less, Int.not_lt.mpr (Int.le_of_lt less)]
    · simp [alike, more, Int.not_lt.mpr (Int.le_of_lt more)]

namespace Booth

/-- A condition that compares the number of copies. -/
def counting (operator : String) (expected : Value) : Node :=
  ⟨"many", Kind.condition, "", Record.ofFields [("field", .text "copies"),
    ("operator", .text operator), ("value", expected)],
    [⟨"then", "", "default", none⟩, ⟨"else", "", "default", none⟩], false, []⟩

/-- One copy more than `2 ^ 53` is neither more nor less than `2 ^ 53`. -/
theorem next_copy_is_not_more :
    (9007199254740992 : Int) < 9007199254740993 ∧
      Condition.decide (counting "gt" (.int 9007199254740992))
          [(.text "copies", .int 9007199254740993)] = .ok .fails ∧
      Condition.decide (counting "lt" (.int 9007199254740992))
          [(.text "copies", .int 9007199254740993)] = .ok .fails := by
  decide +kernel

/-- A dozen is more than nine, in whichever way nine is written. -/
theorem dozen_is_more :
    Condition.decide (counting "greater_than" (.text "9")) [(.text "copies", .int 12)] =
        .ok .holds ∧
      Condition.decide (counting "lt" (.int 9)) [(.text "copies", .int 12)] = .ok .fails := by
  have nine : Value.Gives (.text "9") 9 := (by decide : toString (9 : Int) = "9") ▸ .text 9
  have more : (counting "greater_than" (.text "9")).Compares "copies" .greaterThan 9 :=
    ⟨rfl, rfl, by decide, .named (by decide) rfl (by decide), nine, nofun⟩
  have less : (counting "lt" (.int 9)).Compares "copies" .lessThan 9 :=
    ⟨rfl, rfl, by decide, .named (by decide) rfl (by decide), .int 9,
      fun | .int large => nomatch large⟩
  obtain ⟨larger, smaller, _, _, exact, short⟩ := @integers_compare_up_to_rounding _ _ _
    [(.text "copies", .int 12)] _ 12 9 more less rfl (.int 12) (fun | .int large => nomatch large)
  have differ : ¬Alike 12 9 := fun alike =>
    absurd ((exact (short 12 (by decide)) (short 9 (by decide))).mp alike) (by decide)
  rw [if_pos ⟨by decide, differ⟩] at larger
  rw [if_neg (by simp)] at smaller
  exact ⟨larger, smaller⟩

end Booth

end GuestFlow
