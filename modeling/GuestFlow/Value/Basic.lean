import GuestFlow.Calendar
import GuestFlow.Number.Binary64

/-!
# Values

The data of a workflow is free in form: a step's configuration and whatever a guest
leaves behind are values of a document.  A value is a scalar, a sequence, a set or a
record, which maps keys to values and keeps the order in which its keys came in.

`Value.identical` decides equality of values; `identical_iff` states that it does, and
makes equality of values decidable.  What counts as one key of a record is coarser and
is kept apart, in `Record`.
-/

set_option autoImplicit false

namespace GuestFlow

open Calendar (Date Moment)

/-- A value of a document or of collected data. -/
inductive Value where
  | null
  | bool (flag : Bool)
  | int (number : Int)
  | float (number : Binary64)
  | text (characters : String)
  | bytes (content : List UInt8)
  | date (day : Date)
  | moment (instant : Moment)
  | list (items : List Value)
  | tuple (items : List Value)
  | set (items : List Value)
  | record (entries : List (Value × Value))
  deriving Inhabited

/-- Entries of keys and values, in the order in which the keys came in. -/
abbrev Record := List (Value × Value)

namespace Value

/-- The name of a kind of value, as messages give it. -/
def kind : Value → String
  | .null => "NoneType"
  | .bool _ => "bool"
  | .int _ => "int"
  | .float _ => "float"
  | .text _ => "str"
  | .bytes _ => "bytes"
  | .date _ => "date"
  | .moment _ => "datetime"
  | .list _ => "list"
  | .tuple _ => "tuple"
  | .set _ => "set"
  | .record _ => "dict"

/-- The full name of a kind, where messages give the family of a date as well. -/
def fullKind : Value → String
  | .date _ => "datetime.date"
  | .moment _ => "datetime.datetime"
  | value => value.kind

/-- Whether a value counts as true: nothing, zero and everything empty do not. -/
def isTruthy : Value → Bool
  | .null => false
  | .bool flag => flag
  | .int number => number != 0
  | .float number => !number.isZero
  | .text characters => characters != ""
  | .bytes content => !content.isEmpty
  | .date _ => true
  | .moment _ => true
  | .list items => !items.isEmpty
  | .tuple items => !items.isEmpty
  | .set items => !items.isEmpty
  | .record entries => !entries.isEmpty

/-! ## Equality -/

mutual

/-- Whether two values are the same, part by part. -/
def identical : Value → Value → Bool
  | .null, .null => true
  | .bool left, .bool right => left == right
  | .int left, .int right => decide (left = right)
  | .float left, .float right => decide (left = right)
  | .text left, .text right => left == right
  | .bytes left, .bytes right => decide (left = right)
  | .date left, .date right => decide (left = right)
  | .moment left, .moment right => decide (left = right)
  | .list left, .list right => identicalItems left right
  | .tuple left, .tuple right => identicalItems left right
  | .set left, .set right => identicalItems left right
  | .record left, .record right => identicalEntries left right
  | _, _ => false

def identicalItems : List Value → List Value → Bool
  | [], [] => true
  | left :: lefts, right :: rights => identical left right && identicalItems lefts rights
  | _, _ => false

def identicalEntries : List (Value × Value) → List (Value × Value) → Bool
  | [], [] => true
  | (leftKey, left) :: lefts, (rightKey, right) :: rights =>
    identical leftKey rightKey && identical left right && identicalEntries lefts rights
  | _, _ => false

end

mutual

theorem identical_iff : (left right : Value) → (identical left right = true ↔ left = right)
  | .null, right => by cases right <;> simp [identical]
  | .bool _, right => by cases right <;> simp [identical]
  | .int _, right => by cases right <;> simp [identical]
  | .float _, right => by cases right <;> simp [identical]
  | .text _, right => by cases right <;> simp [identical]
  | .bytes _, right => by cases right <;> simp [identical]
  | .date _, right => by cases right <;> simp [identical]
  | .moment _, right => by cases right <;> simp [identical]
  | .list items, right => by cases right <;> simp [identical, identicalItems_iff items]
  | .tuple items, right => by cases right <;> simp [identical, identicalItems_iff items]
  | .set items, right => by cases right <;> simp [identical, identicalItems_iff items]
  | .record entries, right => by cases right <;> simp [identical, identicalEntries_iff entries]

theorem identicalItems_iff :
    (left right : List Value) → (identicalItems left right = true ↔ left = right)
  | [], right => by cases right <;> simp [identicalItems]
  | head :: tail, right => by
    cases right <;> simp [identicalItems, identical_iff head, identicalItems_iff tail]

theorem identicalEntries_iff :
    (left right : List (Value × Value)) → (identicalEntries left right = true ↔ left = right)
  | [], right => by cases right <;> simp [identicalEntries]
  | (key, value) :: tail, right => by
    cases right with
    | nil => simp [identicalEntries]
    | cons other others =>
      obtain ⟨otherKey, otherValue⟩ := other
      simp [identicalEntries, identical_iff key, identical_iff value, identicalEntries_iff tail,
        and_assoc]

end

instance : DecidableEq Value := fun left right =>
  decidable_of_iff (identical left right = true) (identical_iff left right)

end Value

end GuestFlow
