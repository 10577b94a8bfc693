import GuestFlow.Fault
import GuestFlow.Text.Blank

/-!
# The environment

Settings come from variables, and variables that are not set can be given in a file of
lines such as `NAME=value`.  A line may begin with `export` and end with a comment.  A
value may stand in quotes, where it can go on over several lines, and may refer to other
variables as `${NAME}` or, with a text to use where there is none, `${NAME:-text}`.
A line that cannot be read is passed over.

`Environment.load` adds the variables of such a file; those that are set already stay.
-/

set_option autoImplicit false

namespace GuestFlow

/-- Variables and their values, the latest first. -/
structure Environment where
  entries : List (String × String)

namespace Environment

def ofVariables (entries : List (String × String)) : Environment := ⟨entries⟩

def get? (environment : Environment) (name : String) : Option String :=
  environment.entries.lookup name

def getOr (environment : Environment) (name usual : String) : String :=
  (environment.get? name).getD usual

def set (environment : Environment) (name value : String) : Environment :=
  ⟨(name, value) :: environment.entries⟩

end Environment

namespace EnvironmentFile

/-- What a line sets; a name without an equals sign has no value. -/
structure Binding where
  name : String
  value : Option String
  deriving DecidableEq, Repr

def isLineEnd (character : Char) : Bool := character == '\n' || character == '\r'

/-- Blanks that do not end a line. -/
def isGap (character : Char) : Bool := Blank.isBlank character && !isLineEnd character

def skipGap (characters : List Char) : List Char := characters.dropWhile isGap

def skipLine (characters : List Char) : List Char :=
  (characters.dropWhile fun character => !isLineEnd character).drop 1

/-- The end of a line, behind blanks; nothing where something else stands. -/
def endLine? (characters : List Char) : Option (List Char) :=
  match skipGap characters with
  | [] => some []
  | '\r' :: '\n' :: rest => some rest
  | character :: rest => if isLineEnd character then some rest else none

/-- Steps over a comment with the blanks in front of it. -/
def skipComment (characters : List Char) : List Char :=
  match skipGap characters with
  | '#' :: rest => rest.dropWhile fun character => !isLineEnd character
  | _ => characters

/-- Steps over the word `export` and the blanks behind it. -/
def skipExport (characters : List Char) : List Char :=
  let word := "export".toList
  let rest := characters.drop word.length
  if word.isPrefixOf characters && rest.head?.any isGap then skipGap rest else characters

/-! ## Quotes -/

/-- The text up to the closing quote, escapes as they are written, and what follows.  A backslash
keeps a quote from closing, unless no other quote is left to do so. -/
def spanQuoted (quote : Char) : List Char → Option (List Char × List Char)
  | [] => none
  | '\\' :: next :: rest =>
    if next = quote then
      match spanQuoted quote rest with
      | some (content, after) => some ('\\' :: next :: content, after)
      | none => some (['\\'], rest)
    else (spanQuoted quote (next :: rest)).map fun (content, after) => ('\\' :: content, after)
  | character :: rest =>
    if character = quote then some ([], rest)
    else (spanQuoted quote rest).map fun (content, after) => (character :: content, after)
termination_by characters => characters.length

def singleEscapes : List (Char × Char) := [('\\', '\\'), ('\'', '\'')]

def doubleEscapes : List (Char × Char) := [
  ('\\', '\\'), ('\'', '\''), ('"', '"'), ('a', '\x07'), ('b', '\x08'), ('f', '\x0c'),
  ('n', '\n'), ('r', '\r'), ('t', '\t'), ('v', '\x0b')]

/-- Resolves escapes; a backslash in front of anything else stands for itself. -/
def unescape (escapes : List (Char × Char)) : List Char → List Char
  | [] => []
  | '\\' :: next :: rest =>
    match escapes.lookup next with
    | some meant => meant :: unescape escapes rest
    | none => '\\' :: unescape escapes (next :: rest)
  | character :: rest => character :: unescape escapes rest
termination_by characters => characters.length

/-! ## Names and values -/

/-- Whether blanks and then the sign of a comment stand here. -/
def beginsComment (characters : List Char) : Bool :=
  characters.head?.any Blank.isBlank && (characters.dropWhile Blank.isBlank).head? = some '#'

/-- A value without quotes ends where a comment begins. -/
def beforeComment : List Char → List Char
  | [] => []
  | character :: rest =>
    if beginsComment (character :: rest) then [] else character :: beforeComment rest

def trimEnd (characters : List Char) : List Char :=
  (characters.reverse.dropWhile Blank.isBlank).reverse

/-- The value behind an equals sign. -/
def readValue? (characters : List Char) : Option (List Char × List Char) :=
  match characters with
  | '\'' :: rest => (spanQuoted '\'' rest).map fun (content, after) =>
      (unescape singleEscapes content, after)
  | '"' :: rest => (spanQuoted '"' rest).map fun (content, after) =>
      (unescape doubleEscapes content, after)
  | _ =>
    let line := characters.takeWhile fun character => !isLineEnd character
    some (trimEnd (beforeComment line), characters.drop line.length)

def isNameChar (character : Char) : Bool :=
  !(character == '=' || character == '#' || Blank.isBlank character)

/-- A name, perhaps in quotes; `none` inside where a comment stands instead. -/
def readName? (characters : List Char) : Option (Option (List Char) × List Char) :=
  match characters with
  | '#' :: _ => some (none, characters)
  | '\'' :: rest =>
    let name := rest.takeWhile (· != '\'')
    match rest.drop name.length with
    | _ :: after => if name.isEmpty then none else some (some name, after)
    | [] => none
  | _ =>
    let name := characters.takeWhile isNameChar
    if name.isEmpty then none else some (some name, characters.drop name.length)

/-- What was read, and where reading stopped: `none` as a binding means a line to pass over. -/
structure Step where
  binding : Option Binding
  rest : List Char

/-- The end of a line that is as it should be, or the rest of one that is not. -/
def finish (name : Option (List Char)) (value : Option (List Char)) (characters : List Char) : Step :=
  match endLine? (skipComment characters) with
  | some rest =>
    ⟨name.map fun found => ⟨String.ofList found, value.map String.ofList⟩, rest⟩
  | none => ⟨none, skipLine (skipComment characters)⟩

/-- Reads what begins at a place that is not blank. -/
def readBinding (characters : List Char) : Step :=
  let begun := skipExport characters
  match readName? begun with
  | none => ⟨none, skipLine begun⟩
  | some (name, after) =>
    match skipGap after with
    | '=' :: behind =>
      match readValue? (skipGap behind) with
      | some (value, rest) => finish name (some value) rest
      | none => ⟨none, skipLine (skipGap behind)⟩
    | rest => finish name none rest

/-- All bindings of a file.  Every step uses up a character. -/
def readBindings : Nat → List Char → List Binding
  | 0, _ => []
  | fuel + 1, characters =>
    match characters.dropWhile Blank.isBlank with
    | [] => []
    | begun =>
      let step := readBinding begun
      step.binding.toList ++ readBindings fuel step.rest

def bindings (text : String) : List Binding := readBindings (text.length + 1) text.toList

/-! ## References -/

/-- A part of a value: a text, or a variable with what to use in its place. -/
inductive Part where
  | literal (character : Char)
  | reference (name usual : List Char)
  deriving DecidableEq, Repr

/-- A reference, from behind its opening bracket, and what follows it. -/
def readReference? (characters : List Char) : Option (Part × List Char) :=
  let name := characters.takeWhile fun character => character != '\x7d' && character != ':'
  match characters.drop name.length with
  | '\x7d' :: rest => some (.reference name [], rest)
  | ':' :: '-' :: rest =>
    let usual := rest.takeWhile (· != '\x7d')
    match rest.drop usual.length with
    | _ :: after => some (.reference name usual, after)
    | [] => none
  | _ => none

/-- The parts of a value. -/
def parts : Nat → List Char → List Part
  | 0, _ => []
  | _, [] => []
  | fuel + 1, character :: rest =>
    match character, rest with
    | '$', '\x7b' :: inside =>
      match readReference? inside with
      | some (part, after) => part :: parts fuel after
      | none => .literal character :: parts fuel rest
    | _, _ => .literal character :: parts fuel rest

/-- Values of the file so far, the latest first. -/
abbrev Resolved := List (String × Option String)

/-- The value of a variable: from the environment, or else from the file. -/
def lookUp (environment : Environment) (resolved : Resolved) (name : String) :
    Option (Option String) :=
  match environment.get? name with
  | some value => some (some value)
  | none => resolved.lookup name

def Part.text (environment : Environment) (resolved : Resolved) : Part → List Char
  | .literal character => [character]
  | .reference name usual =>
    match lookUp environment resolved (String.ofList name) with
    | some value => (value.getD "").toList
    | none => usual

/-- A value with its references resolved. -/
def resolve (environment : Environment) (resolved : Resolved) (value : String) : String :=
  String.ofList ((parts value.length value.toList).flatMap fun part =>
    part.text environment resolved)

/-- The value that each name has in the end, in the order in which the names first came. -/
def resolveAll (environment : Environment) (found : List Binding) : Resolved :=
  let resolved := found.foldl (fun (resolved : Resolved) binding =>
    (binding.name, binding.value.map (resolve environment resolved)) :: resolved) []
  let names := (resolved.map Prod.fst).reverse.eraseDups
  names.map fun name => (name, (resolved.lookup name).getD none)

/-- A variable that can be set. -/
def checked (name value : String) : Except Fault Unit :=
  if (name ++ value).toList.contains '\x00' then .error .nullInPath
  else if name.toList.contains '=' then .error .badVariable
  else .ok ()

end EnvironmentFile

namespace Environment

/-- Sets a variable that is not set yet. -/
def supply (environment : Environment) (name : String) (value : Option String) :
    Except Fault Environment :=
  match environment.get? name, value with
  | none, some value => do
    EnvironmentFile.checked name value
    .ok (environment.set name value)
  | _, _ => .ok environment

/-- Adds the variables of a file. -/
def load (environment : Environment) (text : String) : Except Fault Environment :=
  (EnvironmentFile.resolveAll environment (EnvironmentFile.bindings text)).foldlM
    (fun result (name, value) => result.supply name value) environment

end Environment

end GuestFlow
