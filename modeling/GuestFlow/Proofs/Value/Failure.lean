import GuestFlow.Json.Writer
import GuestFlow.Proofs.Sorting
import GuestFlow.Workflow.Condition

/-!
# How values fail

Comparing values, writing them and deciding a condition about them can fail.  None of
these failures is the rejection of an output that a node does not declare
(`Condition.evaluate_neverRejects`, `Json.write_neverRejects`).
-/

set_option autoImplicit false

namespace GuestFlow

/-- Whether the fault says that a node does not declare an output. -/
def Fault.isRejection : Fault → Bool
  | .undeclared .. => true
  | _ => false

/-- If the computation fails, it is not because a node does not declare an output. -/
abbrev NeverRejects {α : Type} (computed : Except Fault α) : Prop :=
  FailsOnlyWith (fun fault => fault.isRejection = false) computed

namespace Value

/-! ## Comparing -/

mutual

theorem isBelow_neverRejects (left right : Value) : NeverRejects (left.isBelow right) := by
  unfold isBelow
  split
  · exact .of_ok _
  · exact .of_ok _
  · exact .of_ok _
  · exact .of_error rfl
  · exact .of_error rfl
  · split
    · exact .of_ok _
    · exact .of_error rfl
  · rename_i lefts rights
    exact areBelow_neverRejects lefts rights
  · split
    · exact .of_ok _
    · exact .of_error rfl

theorem areBelow_neverRejects (lefts rights : List Value) :
    NeverRejects (areBelow lefts rights) := by
  unfold areBelow
  split
  · exact .of_ok _
  · exact .of_ok _
  · rename_i left lefts right rights
    split
    · exact areBelow_neverRejects lefts rights
    · exact isBelow_neverRejects left right

end

/-! ## Texts and keys -/

theorem text?_neverRejects (value : Value) : NeverRejects value.text? := by
  unfold text?
  split
  · exact .of_ok _
  · exact .of_error rfl

theorem literal?_neverRejects (value : Value) : NeverRejects value.literal? := by
  unfold literal?
  split
  · exact .of_ok _
  · exact .of_error rfl

theorem asKey_neverRejects (value : Value) : NeverRejects value.asKey := by
  unfold asKey
  split
  · exact .of_error rfl
  · exact .of_ok _

theorem toNumber_neverRejects (value : Value) : NeverRejects value.toNumber := by
  unfold toNumber
  split
  · exact .of_ok _
  · unfold numberOfInt
    split
    · exact .of_error rfl
    · exact .of_ok _
  · exact .of_ok _
  · split
    · exact .of_ok _
    · exact .of_error rfl
  · split
    · exact .of_ok _
    · exact .of_error rfl
  · exact .of_error rfl

end Value

namespace Condition

/-! ## Deciding a condition -/

theorem commonText_neverRejects (value : Value) : NeverRejects (commonText value) := by
  unfold commonText
  split
  · exact .of_ok _
  · exact .of_ok _
  · split
    · exact .of_ok _
    · exact .of_ok _
  · exact Value.text?_neverRejects value

theorem areEqual_neverRejects (actual expected : Value) :
    NeverRejects (areEqual actual expected) :=
  (commonText_neverRejects actual).bind fun _ =>
    (commonText_neverRejects expected).bind fun _ => .of_ok _

theorem comparedNumber_neverRejects (value : Value) : NeverRejects (comparedNumber value) := by
  have number := value.toNumber_neverRejects
  unfold comparedNumber
  split
  · exact .of_ok _
  · exact .of_ok _
  · exact .of_ok _
  · rename_i fault _ _ failed
    exact .of_error (number fault failed)

theorem compareNumbers_neverRejects (relation : Binary64 → Binary64 → Bool)
    (actual expected : Value) : NeverRejects (compareNumbers relation actual expected) := by
  refine (comparedNumber_neverRejects actual).bind fun left => ?_
  cases left with
  | none => exact .of_ok _
  | some left =>
      refine (comparedNumber_neverRejects expected).bind fun right => ?_
      cases right with
      | none => exact .of_ok _
      | some right => exact .of_ok _

theorem someEqual_neverRejects (expected : Value) (items : List Value) :
    NeverRejects (someEqual expected items) := by
  induction items with
  | nil => exact .of_ok _
  | cons item rest ih =>
      refine (areEqual_neverRejects item expected).bind fun same => ?_
      cases same with
      | false => exact ih
      | true => exact .of_ok _

theorem doesContain_neverRejects (actual expected : Value) :
    NeverRejects (doesContain actual expected) := by
  unfold doesContain
  split
  · exact .of_ok _
  · split
    · refine (commonText_neverRejects expected).bind fun wanted => ?_
      exact (FailsOnlyWith.mapM fun key _ => commonText_neverRejects key).bind
        fun names => .of_ok _
    · exact someEqual_neverRejects expected _
    · exact someEqual_neverRejects expected _
    · exact someEqual_neverRejects expected _
    · exact (commonText_neverRejects expected).bind fun wanted =>
        (commonText_neverRejects actual).bind fun text => .of_ok _

theorem check_neverRejects (operator : Operator) (actual expected : Value) :
    NeverRejects (operator.check actual expected) := by
  cases operator with
  | equals => exact areEqual_neverRejects actual expected
  | notEquals => exact (areEqual_neverRejects actual expected).map
  | truthy | falsy | «exists» => exact .of_ok _
  | greaterThan => exact compareNumbers_neverRejects _ actual expected
  | lessThan => exact compareNumbers_neverRejects _ actual expected
  | contains => exact doesContain_neverRejects actual expected

theorem findOperator_neverRejects (node : Node) : NeverRejects (findOperator node) := by
  refine (Value.asKey_neverRejects _).bind fun name => ?_
  split
  · exact .of_ok _
  · exact (Value.text?_neverRejects name).bind fun text => .of_error rfl

theorem remark_neverRejects (node : Node) (decision : Decision) :
    NeverRejects (remark node decision) :=
  (Value.text?_neverRejects _).bind fun _ => (Value.text?_neverRejects _).bind fun _ =>
    (Value.literal?_neverRejects _).bind fun _ => .of_ok _

theorem collected?_neverRejects (node : Node) (data : Record) :
    NeverRejects (collected? node data) := by
  unfold collected?
  dsimp only
  split
  · exact (Value.asKey_neverRejects _).map
  · exact .of_ok _

/-- **Evaluating a condition rejects no output.** -/
theorem evaluate_neverRejects (node : Node) (data : Record) :
    NeverRejects (evaluate node data) := by
  unfold evaluate
  split
  · refine (collected?_neverRejects node data).bind fun actual => ?_
    cases actual with
    | none => exact .of_ok _
    | some actual =>
        refine (findOperator_neverRejects node).bind fun operator => ?_
        refine (check_neverRejects operator actual _).bind fun answer => ?_
        exact (remark_neverRejects node _).bind fun line => .of_ok _
  · exact .of_error rfl

end Condition

namespace Json

/-! ## Writing -/

theorem integerText_neverRejects (number : Int) : NeverRejects (integerText number) := by
  unfold integerText
  split
  · exact .of_ok _
  · exact .of_error rfl

theorem keyText_neverRejects (style : Style) (key : Value) : NeverRejects (keyText style key) := by
  unfold keyText
  split
  · exact .of_ok _
  · exact .of_ok _
  · exact .of_ok _
  · exact (integerText_neverRejects _).map
  · exact .of_ok _
  · exact .of_error rfl

theorem arrange_neverRejects (style : Style) {members : List (Value × Except Fault String)}
    (written : ∀ member ∈ members, NeverRejects member.2) :
    NeverRejects (arrange style members) := by
  unfold arrange
  by_cases page : style.isPage = true
  · rw [if_pos page]
    exact FailsOnlyWith.mapM written
  · have sorts : NeverRejects
        (sortWith (fun left right => Value.isBelow left.1 right.1) members) :=
      sortWith_fails (fun left right => Value.isBelow_neverRejects left.1 right.1) members
    rw [if_neg page]
    cases sorted : sortWith (fun left right => Value.isBelow left.1 right.1) members with
    | error fault => exact .of_error (sorts fault sorted)
    | ok ordered =>
        exact FailsOnlyWith.mapM fun member inside =>
          written member ((sortWith_perm sorted).subset inside)

mutual

theorem writeAt_neverRejects (style : Style) (level : Nat) (value : Value) :
    NeverRejects (writeAt style level value) := by
  unfold writeAt
  split
  · exact .of_ok _
  · exact .of_ok _
  · exact integerText_neverRejects _
  · exact .of_ok _
  · exact .of_ok _
  · exact (writeItems_neverRejects style _ _).map
  · exact (writeItems_neverRejects style _ _).map
  · exact (arrange_neverRejects style (writeMembers_neverRejects style _ _)).map
  · split
    · exact (Value.text?_neverRejects _).map
    · exact .of_error rfl

theorem writeItems_neverRejects (style : Style) (level : Nat) (items : List Value) :
    NeverRejects (writeItems style level items) := by
  unfold writeItems
  split
  · exact .of_ok _
  · rename_i item rest
    exact (writeAt_neverRejects style level item).bind fun text =>
      (writeItems_neverRejects style level rest).bind fun texts => .of_ok _

theorem writeMembers_neverRejects (style : Style) (level : Nat) (entries : List (Value × Value)) :
    ∀ member ∈ writeMembers style level entries, NeverRejects member.2 := by
  match entries with
  | [] =>
      intro member inside
      cases inside
  | (key, value) :: rest =>
      intro member inside
      unfold writeMembers at inside
      rcases List.mem_cons.mp inside with rfl | later
      · exact (keyText_neverRejects style key).bind fun name =>
          (writeAt_neverRejects style level value).bind fun text => .of_ok _
      · exact writeMembers_neverRejects style level rest member later

end

/-- **Writing a value rejects no output.** -/
theorem write_neverRejects (style : Style) (value : Value) : NeverRejects (write style value) :=
  writeAt_neverRejects style 0 value

end Json

end GuestFlow
