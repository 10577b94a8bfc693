import GuestFlow.Fault
import GuestFlow.Value.Record

/-!
# The order of values

Keys are listed in increasing order.  Numbers are ordered as numbers, texts and byte
strings character by character, dates and moments in time; values of other kinds, or of
two different kinds, have no order, and sorting them reports the first pair that could
not be compared.

`sortWith` looks for a run at the front and then inserts the remaining items one after
another by halving, so it compares few pairs and keeps equal items in their order.
-/

set_option autoImplicit false

namespace GuestFlow

namespace Value

/-- Numbers of either form, for comparison. -/
inductive Quantity where
  | whole (number : Int)
  | fraction (number : Binary64)

def quantity? : Value → Option Quantity
  | .bool flag => some (.whole (if flag then 1 else 0))
  | .int number => some (.whole number)
  | .float number => some (.fraction number)
  | _ => none

/-- Whether a whole number lies below a fractional one, exactly. -/
def wholeBelow (number : Int) : Binary64 → Bool
  | .nan => false
  | .infinite negative => !negative
  | .finite negative significand exponent =>
    decide (number * Binary64.scale < Binary64.scaled negative significand exponent)

/-- Whether a fractional number lies below a whole one, exactly. -/
def fractionBelow (number : Int) : Binary64 → Bool
  | .nan => false
  | .infinite negative => negative
  | .finite negative significand exponent =>
    decide (Binary64.scaled negative significand exponent < number * Binary64.scale)

def Quantity.isBelow : Quantity → Quantity → Bool
  | .whole left, .whole right => decide (left < right)
  | .whole left, .fraction right => wholeBelow left right
  | .fraction left, .whole right => fractionBelow right left
  | .fraction left, .fraction right => left.less right

/-- Whether one list of bytes comes before another. -/
def bytesBelow : List UInt8 → List UInt8 → Bool
  | _, [] => false
  | [], _ :: _ => true
  | left :: lefts, right :: rights =>
    if left = right then bytesBelow lefts rights else decide (left < right)

mutual

/-- Whether one value comes before another. -/
def isBelow : Value → Value → Except Fault Bool
  | .text left, .text right => .ok (decide (left < right))
  | .bytes left, .bytes right => .ok (bytesBelow left right)
  | .date left, .date right => .ok (left.isBefore right)
  | .date _, .moment _ => .error .mixedDates
  | .moment _, .date _ => .error .mixedDates
  | .moment left, .moment right =>
    match left.isBefore? right with
    | some answer => .ok answer
    | none => .error .mixedOffsets
  | .tuple left, .tuple right => areBelow left right
  | left, right =>
    match left.quantity?, right.quantity? with
    | some left, some right => .ok (left.isBelow right)
    | _, _ => .error (.incomparable left.fullKind right.fullKind)

/-- The first items that differ decide. -/
def areBelow : List Value → List Value → Except Fault Bool
  | _, [] => .ok false
  | [], _ :: _ => .ok true
  | left :: lefts, right :: rights =>
    if left.sameKey right then areBelow lefts rights else isBelow left right

end

end Value

/-! ## Sorting by a comparison that can fail -/

section Sorting

variable {α : Type} (below : α → α → Except Fault Bool)

/-- The items that go on with a falling, or with a never falling, run after `last`; and the rest. -/
def extendRun (falling : Bool) (last : α) : List α → Except Fault (List α × List α)
  | [] => .ok ([], [])
  | item :: rest => do
    let drops ← below item last
    if drops = falling then
      let (run, remaining) ← extendRun falling item rest
      .ok (item :: run, remaining)
    else .ok ([], item :: rest)

/-- The place behind all items of `sorted` that do not come after the item, by halving the range
`low` to `high`. -/
def insertionPlace (sorted : List α) (item : α) : Nat → Nat → Nat → Except Fault Nat
  | 0, low, _ => .ok low
  | fuel + 1, low, high =>
    if low < high then
      let middle := low + (high - low) / 2
      match sorted[middle]? with
      | none => .ok low
      | some other => do
        if ← below item other then insertionPlace sorted item fuel low middle
        else insertionPlace sorted item fuel (middle + 1) high
    else .ok low

/-- Inserts an item into a sorted list. -/
def insertSorted (sorted : List α) (item : α) : Except Fault (List α) := do
  let place ← insertionPlace below sorted item sorted.length 0 sorted.length
  .ok (sorted.take place ++ item :: sorted.drop place)

/-- Sorts a list, or reports the first pair that has no order. -/
def sortWith : List α → Except Fault (List α)
  | [] => .ok []
  | [item] => .ok [item]
  | first :: second :: rest => do
    let falling ← below second first
    let (run, remaining) ← extendRun below falling second rest
    let front := first :: second :: run
    remaining.foldlM (insertSorted below) (if falling then front.reverse else front)

end Sorting

namespace Record

/-- The keys of a record in increasing order. -/
def sortedKeys (record : Record) : Except Fault (List Value) := sortWith Value.isBelow record.keys

/-- The entries of a record in increasing order of their keys. -/
def sortedEntries (record : Record) : Except Fault Record :=
  sortWith (fun left right => Value.isBelow left.1 right.1) record

end Record

end GuestFlow
