import GuestFlow.File.Path
import GuestFlow.Text.Quoted

/-!
# File trees

A tree holds the files that the library works with, by the names that lead to them from
the directory where it works; a directory is there when it was made or when something
lies in it.  Nothing else is known to be there.

Finding a file can fail in four ways, each with a number and a text of its own.
-/

set_option autoImplicit false

namespace GuestFlow

inductive Entry where
  | file (content : List UInt8)
  | directory
  deriving DecidableEq

/-- Why a file cannot be read. -/
inductive Obstacle where
  | missing
  | notADirectory
  | isADirectory
  | nameTooLong
  deriving DecidableEq, Repr

def Obstacle.code : Obstacle → Nat
  | .missing => 2
  | .notADirectory => 20
  | .isADirectory => 21
  | .nameTooLong => 36

def Obstacle.text : Obstacle → String
  | .missing => "No such file or directory"
  | .notADirectory => "Not a directory"
  | .isADirectory => "Is a directory"
  | .nameTooLong => "File name too long"

/-- The message for an obstacle on the way to a path. -/
def Obstacle.message (obstacle : Obstacle) (path : Path) : String :=
  "[Errno " ++ toString obstacle.code ++ "] " ++ obstacle.text ++ ": " ++ Quoted.quote path.text

/-- Entries by the names that lead to them. -/
structure Tree where
  entries : List (List String × Entry)

namespace Tree

def empty : Tree := ⟨[]⟩

def ofEntries (entries : List (String × Entry)) : Tree :=
  ⟨entries.map fun (text, entry) => ((Path.ofText text).trail, entry)⟩

/-- Whether something lies inside a directory. -/
def hasInside (tree : Tree) (names : List String) : Bool :=
  tree.entries.any fun (found, _) => names.length < found.length && names.isPrefixOf found

/-- What lies at the end of names that are all plain. -/
def entry? (tree : Tree) (names : List String) : Option Entry :=
  match tree.entries.lookup names with
  | some entry => some entry
  | none => if names.isEmpty || tree.hasInside names then some .directory else none

/-- The most bytes of a name, and of a whole path. -/
def nameLimit : Nat := 255

def pathLimit : Nat := 4095

/-- The names of the directory around one.  Above the first directory the two dots stay, for nothing
is known of what lies there except what the tree holds. -/
def outside (here : List String) : List String :=
  match here.getLast? with
  | none | some ".." => here ++ [".."]
  | some name => if name.toList.head? = some '/' then here else here.dropLast

/-- Follows names from a directory, and tells by which names what they lead to is known. -/
def follow (tree : Tree) (here : List String) :
    List String → Except Obstacle (List String × Entry)
  | [] =>
    match tree.entry? here with
    | some entry => .ok (here, entry)
    | none => .error .missing
  | name :: rest =>
    match tree.entry? here with
    | none => .error .missing
    | some (.file _) => .error .notADirectory
    | some .directory =>
      if name = ".." then tree.follow (outside here) rest
      else if nameLimit < name.utf8ByteSize then .error .nameTooLong
      else tree.follow (here ++ [name]) rest

/-- What a path leads to. -/
def find (tree : Tree) (path : Path) : Except Obstacle (List String × Entry) :=
  if pathLimit < path.text.utf8ByteSize then .error .nameTooLong
  else tree.follow [] path.trail

def isFile (tree : Tree) (path : Path) : Bool :=
  match tree.find path with
  | .ok (_, .file _) => !path.hasNull
  | _ => false

def isDirectory (tree : Tree) (path : Path) : Bool :=
  match tree.find path with
  | .ok (_, .directory) => !path.hasNull
  | _ => false

/-- The content of a file. -/
def content (tree : Tree) (path : Path) : Except Obstacle (List UInt8) :=
  match tree.find path with
  | .ok (_, .file content) => .ok content
  | .ok (_, .directory) => .error .isADirectory
  | .error obstacle => .error obstacle

/-- The names inside a directory, each once, in increasing order. -/
def names (tree : Tree) (directory : Path) : List String :=
  match tree.find directory with
  | .error _ => []
  | .ok (here, _) =>
    let inside := tree.entries.filterMap fun (found, _) =>
      if here.isPrefixOf found then found[here.length]? else none
    inside.eraseDups.mergeSort fun left right => decide (left ≤ right)

end Tree

end GuestFlow
