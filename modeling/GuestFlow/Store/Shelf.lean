/-!
# Shelves

A shelf keeps things by their ids, in the order in which the ids first came.  A thing
put under an id that is there already takes the place of the other.

A page of a shelf is a stretch of that order.  Its bounds may be counted from the end, as
negative numbers, and a stretch that reaches beyond the shelf stops there.
-/

set_option autoImplicit false

namespace GuestFlow

structure Shelf (α : Type) where
  entries : List (String × α)

namespace Shelf

variable {α : Type}

def empty : Shelf α := ⟨[]⟩

def get? (shelf : Shelf α) (id : String) : Option α := shelf.entries.lookup id

def contains (shelf : Shelf α) (id : String) : Bool := (shelf.get? id).isSome

def putEntry (id : String) (item : α) : List (String × α) → List (String × α)
  | [] => [(id, item)]
  | (other, stored) :: rest =>
    if other = id then (id, item) :: rest else (other, stored) :: putEntry id item rest

/-- Puts a thing under an id. -/
def put (shelf : Shelf α) (id : String) (item : α) : Shelf α := ⟨putEntry id item shelf.entries⟩

/-- Takes away what stands under an id. -/
def erase (shelf : Shelf α) (id : String) : Shelf α :=
  ⟨shelf.entries.filter fun entry => entry.1 != id⟩

def items (shelf : Shelf α) : List α := shelf.entries.map Prod.snd

def ids (shelf : Shelf α) : List String := shelf.entries.map Prod.fst

def size (shelf : Shelf α) : Nat := shelf.entries.length

end Shelf

/-- The place that a bound means in a list of some length. -/
def placeOf (length : Nat) (bound : Int) : Nat :=
  min (if bound < 0 then bound + (length : Nat) else bound).toNat length

/-- The stretch of a list from `offset` up to `offset + limit`. -/
def page {α : Type} (items : List α) (offset limit : Int) : List α :=
  let first := placeOf items.length offset
  let last := placeOf items.length (offset + limit)
  (items.take last).drop first

end GuestFlow
