/-!
# Likeness of texts

Someone who mistypes a name is shown the names that look like it.  Two texts are alike
as far as they share stretches: the longest common stretch counts, then the longest on
its left and the longest on its right, and so on.
-/

set_option autoImplicit false

namespace GuestFlow.Likeness

/-- The length of what two texts have in common at their fronts. -/
def commonFront : List Char → List Char → Nat
  | left :: lefts, right :: rights => if left = right then commonFront lefts rights + 1 else 0
  | _, _ => 0

/-- A common stretch: where it begins in either text, and its length. -/
structure Stretch where
  left : Nat
  right : Nat
  length : Nat
  deriving DecidableEq, Repr

/-- The first of the longest common stretches. -/
def longest (left right : List Char) : Stretch :=
  let places := (List.range left.length).flatMap fun first =>
    (List.range right.length).map fun second => (first, second)
  places.foldl (fun best (first, second) =>
    let length := commonFront (left.drop first) (right.drop second)
    if best.length < length then ⟨first, second, length⟩ else best) ⟨0, 0, 0⟩

/-- The number of characters in common stretches; `fuel` bounds how often texts are cut. -/
def shared : Nat → List Char → List Char → Nat
  | 0, _, _ => 0
  | fuel + 1, left, right =>
    let best := longest left right
    if best.length = 0 then 0
    else
      shared fuel (left.take best.left) (right.take best.right) + best.length +
        shared fuel (left.drop (best.left + best.length)) (right.drop (best.right + best.length))

/-- The shared characters of two texts, and the characters of both. -/
def measure (left right : List Char) : Nat × Nat :=
  (2 * shared (left.length + 1) left right, left.length + right.length)

/-- Whether at least three fifths of two texts are shared. -/
def areAlike (left right : List Char) : Bool :=
  let (common, total) := measure left right
  3 * total ≤ 5 * common

/-- Whether the first of two measured texts is more like the word, or as much and later in the
alphabet. -/
def comesFirst (first second : (Nat × Nat) × String) : Bool :=
  let left := first.1.1 * second.1.2
  let right := second.1.1 * first.1.2
  decide (right < left) || (left == right && decide (second.2 ≤ first.2))

/-- The names most like a word, at most three. -/
def suggestions (word : String) (names : List String) : List String :=
  let alike := names.filter fun name => areAlike name.toList word.toList
  let measured := alike.map fun name => (measure name.toList word.toList, name)
  ((measured.mergeSort comesFirst).take 3).map Prod.snd

end GuestFlow.Likeness
