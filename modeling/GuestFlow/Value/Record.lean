import GuestFlow.Fault
import GuestFlow.Value.Basic

/-!
# Records

A record finds a value by its key.  Two keys count as one when they mean the same:
whole numbers, fractional numbers and truth values are compared as numbers, moments as
instants.  A key that comes in again keeps its place and its first spelling, and only
its value changes; an erased key leaves the order of the others as it was.

Sequences and records cannot be keys; `Value.unhashable?` names the kind that is in the
way.
-/

set_option autoImplicit false

namespace GuestFlow

namespace Value

/-! ## Keys -/

/-- Whether a value is a number equal to a whole number. -/
def isInteger (number : Int) : Value → Bool
  | .bool flag => decide ((if flag then 1 else 0) = number)
  | .int other => decide (other = number)
  | .float other => other.toInt? == some number
  | _ => false

/-- Whether a value is a number equal to a fractional number. -/
def isNumber (number : Binary64) : Value → Bool
  | .bool flag => number.toInt? == some (if flag then 1 else 0)
  | .int other => number.toInt? == some other
  | .float other => number.same other
  | _ => false

mutual

/-- Whether two values count as one key. -/
def sameKey : Value → Value → Bool
  | .null, .null => true
  | .bool flag, other => other.isInteger (if flag then 1 else 0)
  | .int number, other => other.isInteger number
  | .float number, other => other.isNumber number
  | .text left, .text right => left == right
  | .bytes left, .bytes right => left == right
  | .date left, .date right => left == right
  | .moment left, .moment right => left.same right
  | .tuple left, .tuple right => sameKeys left right
  | _, _ => false

def sameKeys : List Value → List Value → Bool
  | [], [] => true
  | left :: lefts, right :: rights => sameKey left right && sameKeys lefts rights
  | _, _ => false

end

mutual

/-- The kind of the part that keeps a value from being a key. -/
def unhashable? : Value → Option String
  | .list items => some (Value.list items).kind
  | .set items => some (Value.set items).kind
  | .record entries => some (Value.record entries).kind
  | .tuple items => unhashableItem? items
  | _ => none

def unhashableItem? : List Value → Option String
  | [] => none
  | item :: rest => (unhashable? item).orElse fun _ => unhashableItem? rest

end

/-- A value that may serve as a key. -/
def asKey (value : Value) : Except Fault Value :=
  match value.unhashable? with
  | some kind => .error (.unhashable kind)
  | none => .ok value

end Value

/-! ## Operations -/

namespace Record

def get? : Record → Value → Option Value
  | [], _ => none
  | (stored, value) :: rest, key => if stored.sameKey key then some value else get? rest key

def contains (record : Record) (key : Value) : Bool := (record.get? key).isSome

/-- Sets the value of a key; a new key goes to the end. -/
def insert : Record → Value → Value → Record
  | [], key, value => [(key, value)]
  | (stored, old) :: rest, key, value =>
    if stored.sameKey key then (stored, value) :: rest else (stored, old) :: insert rest key value

/-- Removes a key if it is there. -/
def erase : Record → Value → Record
  | [], _ => []
  | (stored, value) :: rest, key =>
    if stored.sameKey key then rest else (stored, value) :: erase rest key

/-- Sets every key of the second record, in its order. -/
def update (record additions : Record) : Record :=
  additions.foldl (fun result (key, value) => result.insert key value) record

def keys (record : Record) : List Value := record.map Prod.fst

/-- The record that a list of entries describes: of entries with one key the last value counts. -/
def ofEntries (entries : List (Value × Value)) : Record := update [] entries

/-! ## Named fields -/

/-- The field of a name, if the record has it. -/
def field? (record : Record) (name : String) : Option Value := record.get? (.text name)

/-- The field of a name, or nothing. -/
def field (record : Record) (name : String) : Value := (record.field? name).getD .null

def hasField (record : Record) (name : String) : Bool := (record.field? name).isSome

/-- A record of named fields. -/
def ofFields (fields : List (String × Value)) : Record :=
  fields.map fun (name, value) => (.text name, value)

/-! ## Reading a record from a value -/

/-- The single characters of a text. -/
def characterItems (characters : String) : List Value :=
  characters.toList.map fun character => .text (String.singleton character)

/-- The members of a value that can be walked through. -/
def membersOf? : Value → Option (List Value)
  | .text characters => some (characterItems characters)
  | .bytes content => some (content.map fun byte => .int byte.toNat)
  | .list items => some items
  | .tuple items => some items
  | .set items => some items
  | .record entries => some (keys entries)
  | _ => none

/-- Adds the pairs of a sequence to a record; `index` counts the pairs before them. -/
def addPairs (record : Record) (index : Nat) : List Value → Except Fault Record
  | [] => .ok record
  | item :: rest =>
    match membersOf? item with
    | none => .error (.itemNotAPair index)
    | some [key, value] => do
      let key ← key.asKey
      addPairs (record.insert key value) (index + 1) rest
    | some members => .error (.itemLength index members.length)

/-- A value read as a record: a record as it is, or a sequence of pairs. -/
def ofValue : Value → Except Fault Record
  | .record entries => .ok entries
  | value =>
    match membersOf? value with
    | some items => addPairs [] 0 items
    | none => .error (.notIterable value.fullKind)

/-- A value read as a record, where everything that counts as false is the empty one. -/
def ofOptional (value : Value) : Except Fault Record :=
  if value.isTruthy then ofValue value else .ok []

end Record

end GuestFlow
