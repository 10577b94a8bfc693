/-!
# Paths

A path names a file by the names of the directories that lead to it.  It is kept in a
plain form: single strokes between the names, and no dots that stand for the place
itself.  Two dots stay, for what they mean depends on the directories.
-/

set_option autoImplicit false

namespace GuestFlow

structure Path where
  /-- The strokes that a path from the root begins with: none, one or two. -/
  root : String
  names : List String
  deriving DecidableEq, Repr

namespace Path

/-- A text split at every mark. -/
def splitAt (mark : Char) : List Char → List (List Char)
  | [] => [[]]
  | character :: rest =>
    if character = mark then [] :: splitAt mark rest
    else match splitAt mark rest with
      | first :: others => (character :: first) :: others
      | [] => [[character]]

/-- Two strokes in front mean something of their own; three are as good as one. -/
def rootOf (characters : List Char) : String :=
  match (characters.takeWhile (· == '/')).length with
  | 0 => ""
  | 2 => "//"
  | _ => "/"

def ofText (text : String) : Path where
  root := rootOf text.toList
  names := ((splitAt '/' text.toList).map String.ofList).filter fun name => name ≠ "" && name ≠ "."

/-- A path in its plain form; where nothing is left it is a dot. -/
def text (path : Path) : String :=
  let joined := path.root ++ String.intercalate "/" path.names
  if joined = "" then "." else joined

/-- The names from the very beginning; the root is a name of its own. -/
def trail (path : Path) : List String :=
  if path.root = "" then path.names else path.root :: path.names

/-- The last name. -/
def name (path : Path) : String := path.names.getLast?.getD ""

/-- The part of a name from its last dot on, unless that is at its front or at its end. -/
def suffixOf (name : List Char) : List Char :=
  let tail := (name.reverse.takeWhile (· != '.')).reverse
  if tail.isEmpty || name.length ≤ tail.length + 1 then [] else '.' :: tail

def suffix (path : Path) : String := String.ofList (suffixOf path.name.toList)

/-- The path of something inside a directory. -/
def child (path : Path) (name : String) : Path := { path with names := path.names ++ [name] }

def hasNull (path : Path) : Bool := path.text.toList.contains '\x00'

end Path

end GuestFlow
