/-!
# Blank characters

The characters that separate words: the plain blank, tabs, line and page ends, the
four separator controls and the blanks of every width.  `words` splits a text at runs
of blanks and `trim` removes them at both ends.
-/

set_option autoImplicit false

namespace GuestFlow.Blank

/-- The first and last code point of every range of blanks. -/
def blankRanges : List (Nat × Nat) :=
  [(0x9, 0xd), (0x1c, 0x20), (0x85, 0x85), (0xa0, 0xa0), (0x1680, 0x1680), (0x2000, 0x200a),
    (0x2028, 0x2029), (0x202f, 0x202f), (0x205f, 0x205f), (0x3000, 0x3000)]

/-- Whether a character is a blank. -/
def isBlank (character : Char) : Bool :=
  blankRanges.any fun (first, last) => first ≤ character.toNat && character.toNat ≤ last

/-- Characters without the blanks at either end. -/
def trimChars (characters : List Char) : List Char :=
  ((characters.dropWhile isBlank).reverse.dropWhile isBlank).reverse

/-- Text without the blanks at either end. -/
def trim (text : String) : String := String.ofList (trimChars text.toList)

/-- The runs of characters that are not blanks, from left to right; `current` is the run being
read, backwards. -/
def splitWords : List Char → List Char → List (List Char)
  | [], [] => []
  | [], current => [current.reverse]
  | character :: rest, current =>
    if isBlank character then
      match current with
      | [] => splitWords rest []
      | current => current.reverse :: splitWords rest []
    else splitWords rest (character :: current)

/-- The words of a text. -/
def words (text : String) : List String := (splitWords text.toList []).map String.ofList

end GuestFlow.Blank
