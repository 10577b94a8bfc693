import GuestFlow.Journal
import GuestFlow.Value.Number
import GuestFlow.Workflow.Definition

/-!
# Conditions

A condition node names a field of the collected data, an operator and a value to
compare with.  As long as the field has not been collected the condition is unresolved;
then the operator decides for one of the two branches.

Texts are compared after bringing both sides to a common form, in which `1.0` reads as
`1` and `true` in small letters.  `gt` and `lt` compare numbers of 64 bits and hold of
nothing else.  `Condition.evaluate` gives the decision or the reason why there is none.
-/

set_option autoImplicit false

namespace GuestFlow

/-- The branch a condition takes. -/
inductive Decision where
  | holds
  | fails
  | unresolved
  deriving DecidableEq, Repr

/-- The name of a decision, which is also the output it leaves through. -/
def Decision.name : Decision → String
  | .holds => "then"
  | .fails => "else"
  | .unresolved => "unresolved"

namespace Condition

inductive Operator where
  | equals
  | notEquals
  | truthy
  | falsy
  | greaterThan
  | lessThan
  | contains
  | exists
  deriving DecidableEq, Repr

/-- The names of operators; some have two. -/
def operatorNames : List (String × Operator) := [
  ("equals", .equals), ("not_equals", .notEquals), ("truthy", .truthy), ("is_true", .truthy),
  ("is_false", .falsy), ("gt", .greaterThan), ("greater_than", .greaterThan), ("lt", .lessThan),
  ("less_than", .lessThan), ("contains", .contains), ("exists", .exists)]

/-- The operator that is used where none is configured. -/
def defaultOperator : Value := .text "truthy"

/-- The operator a value names. -/
def operator? : Value → Option Operator
  | .text name => operatorNames.lookup name
  | _ => none

/-- Only one operator is meaningless without a value. -/
def Operator.needsValue : Operator → Bool
  | .contains => true
  | _ => false

/-! ## Configuration -/

/-- The field a condition looks at, as configured. -/
def fieldName (node : Node) : Value := node.config.field "field"

/-- The operator as configured; what counts as false means the usual one. -/
def operatorName (node : Node) : Value :=
  let configured := node.config.field "operator"
  if configured.isTruthy then configured else defaultOperator

/-- The value to compare with, as configured. -/
def comparedValue (node : Node) : Value := node.config.field "value"

/-- Whether a value is no value to compare with. -/
def isBlankValue : Value → Bool
  | .null => true
  | .text characters => characters == ""
  | _ => false

/-! ## Operators -/

/-- The common form in which values are compared as text. -/
def commonText : Value → Except Fault String
  | .bool flag => .ok (if flag then "true" else "false")
  | .null => .ok ""
  | .float number =>
    match number.toInt? with
    | some whole => .ok (toString whole)
    | none => .ok number.text
  | value => value.text?

def areEqual (actual expected : Value) : Except Fault Bool := do
  let left ← commonText actual
  let right ← commonText expected
  .ok (left == right)

/-- The number of a value, where having none is no failure. -/
def comparedNumber (value : Value) : Except Fault (Option Binary64) :=
  match value.toNumber with
  | .ok number => .ok (some number)
  | .error (.notANumber _) => .ok none
  | .error (.notNumeric _) => .ok none
  | .error fault => .error fault

/-- A comparison of two numbers, which nothing but numbers can pass. -/
def compareNumbers (relation : Binary64 → Binary64 → Bool) (actual expected : Value) :
    Except Fault Bool := do
  match ← comparedNumber actual with
  | none => .ok false
  | some left =>
    match ← comparedNumber expected with
    | none => .ok false
    | some right => .ok (relation left right)

/-- Whether characters occur in a row inside others. -/
def occursIn (wanted : List Char) : List Char → Bool
  | [] => wanted.isEmpty
  | character :: rest => wanted.isPrefixOf (character :: rest) || occursIn wanted rest

/-- Whether some item of a sequence equals the value; later items are not looked at. -/
def someEqual (expected : Value) : List Value → Except Fault Bool
  | [] => .ok false
  | item :: rest => do
    if ← areEqual item expected then .ok true else someEqual expected rest

/-- A record contains its keys, a sequence its items and everything else the parts of its text. -/
def doesContain (actual expected : Value) : Except Fault Bool :=
  if isBlankValue expected then .ok false
  else match actual with
    | .record entries => do
      let wanted ← commonText expected
      let names ← (Record.keys entries).mapM commonText
      .ok (names.contains wanted)
    | .list items => someEqual expected items
    | .tuple items => someEqual expected items
    | .set items => someEqual expected items
    | other => do
      let wanted ← commonText expected
      let text ← commonText other
      .ok (occursIn wanted.toList text.toList)

def Operator.check (operator : Operator) (actual expected : Value) : Except Fault Bool :=
  match operator with
  | .equals => areEqual actual expected
  | .notEquals => (areEqual actual expected).map (!·)
  | .truthy => .ok actual.isTruthy
  | .falsy => .ok (!actual.isTruthy)
  | .greaterThan => compareNumbers (fun left right => right.less left) actual expected
  | .lessThan => compareNumbers Binary64.less actual expected
  | .contains => doesContain actual expected
  | .exists => .ok true

/-! ## Evaluation -/

/-- The operator a node is configured with. -/
def findOperator (node : Node) : Except Fault Operator := do
  let name ← (operatorName node).asKey
  match operator? name with
  | some operator => .ok operator
  | none => do
    let text ← name.text?
    .error (.unknownOperator text)

/-- The journal line about a decision. -/
def remark (node : Node) (decision : Decision) : Except Fault Remark := do
  let field ← (fieldName node).text?
  let operator ← (operatorName node).text?
  let value ← (comparedValue node).literal?
  .ok (.debug ("Condition '" ++ node.id ++ "': " ++ field ++ " " ++ operator ++ " " ++ value ++
    " -> " ++ decision.name))

/-- The value of the configured field in the data, if it was collected. -/
def collected? (node : Node) (data : Record) : Except Fault (Option Value) :=
  let name := fieldName node
  if name.isTruthy then (name.asKey).map data.get? else .ok none

/-- The decision of a condition node on collected data. -/
def evaluate (node : Node) (data : Record) : Except Fault (Decision × Journal) :=
  if node.isCondition then do
    match ← collected? node data with
    | none => .ok (.unresolved, [])
    | some actual =>
      let operator ← findOperator node
      let answer ← operator.check actual (comparedValue node)
      let decision : Decision := if answer then .holds else .fails
      let line ← remark node decision
      .ok (decision, [line])
  else .error (.notACondition node.id node.kind)

/-- The decision alone. -/
def decide (node : Node) (data : Record) : Except Fault Decision :=
  (evaluate node data).map Prod.fst

end Condition

end GuestFlow
