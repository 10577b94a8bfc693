import GuestFlow.Text.Likeness
import GuestFlow.Text.Quoted

/-!
# The arguments of a command

A command takes options and plain arguments.  An option begins with two dashes; its
value is the next argument or stands behind an equals sign.  Two dashes alone end the
options, and what follows is plain whatever it looks like.

`Usage` says what can be wrong with the arguments, and `readArguments` sorts them.
-/

set_option autoImplicit false

namespace GuestFlow.Console

/-- What is wrong with the arguments of a command. -/
inductive Usage where
  | noSuchOption (name : String) (alike : List String)
  | noSuchCommand (name : String) (alike : List String)
  | missingCommand
  | missingValue (option : String)
  | unwantedValue (option : String)
  | missingArgument (name : String)
  | extraArguments (arguments : List String)
  | badValue (name problem : String)
  /-- A value that only the command itself could judge. -/
  | badInput (problem : String)
  deriving DecidableEq, Repr

/-- A question that names what may have been meant. -/
def suggestion (alike : List String) : String :=
  match alike.mergeSort fun left right => decide (left ≤ right) with
  | [] => ""
  | [only] => " Did you mean " ++ Quoted.quote only ++ "?"
  | several => " (Did you mean one of: " ++ String.intercalate ", " (several.map Quoted.quote) ++ "?)"

def Usage.message : Usage → String
  | .noSuchOption name alike => "No such option " ++ Quoted.quote name ++ "." ++ suggestion alike
  | .noSuchCommand name alike => "No such command " ++ Quoted.quote name ++ "." ++ suggestion alike
  | .missingCommand => "Missing command."
  | .missingValue option => "Option " ++ Quoted.quote option ++ " requires an argument."
  | .unwantedValue option => "Option " ++ Quoted.quote option ++ " does not take a value."
  | .missingArgument name => "Missing argument '" ++ name ++ "'."
  | .extraArguments arguments =>
    "Got unexpected extra argument" ++ (if arguments.length = 1 then "" else "s") ++ " (" ++
      String.intercalate " " arguments ++ ")"
  | .badValue name problem => "Invalid value for '" ++ name ++ "': " ++ problem
  | .badInput problem => "Invalid value: " ++ problem

/-- An option that a command knows. -/
structure OptionForm where
  name : String
  takesValue : Bool
  deriving DecidableEq, Repr

/-- An option with its value, if it takes one. -/
structure GivenOption where
  name : String
  value : String
  deriving DecidableEq, Repr

/-- The arguments of a command, sorted. -/
structure Given where
  options : List GivenOption
  arguments : List String
  deriving DecidableEq, Repr

namespace Given

def empty : Given := ⟨[], []⟩

def addOption (option : GivenOption) (given : Given) : Given :=
  { given with options := option :: given.options }

def addArgument (argument : String) (given : Given) : Given :=
  { given with arguments := argument :: given.arguments }

/-- Whether an option is there. -/
def has (given : Given) (name : String) : Bool :=
  given.options.any fun option => option.name == name

/-- The value of an option, the last one if it is there several times. -/
def value? (given : Given) (name : String) : Option String :=
  (given.options.reverse.find? fun option => option.name == name).map GivenOption.value

end Given

/-- An argument split at its first equals sign. -/
def splitValue (argument : String) : String × Option String :=
  let characters := argument.toList
  let name := characters.takeWhile (· != '=')
  match characters.drop name.length with
  | [] => (argument, none)
  | _ :: value => (String.ofList name, some (String.ofList value))

/-- The name under which an unknown option is reported: with a single dash that of its letter. -/
def unknownName (argument : String) : String :=
  let (name, _) := splitValue argument
  match argument.toList with
  | '-' :: '-' :: _ => name
  | '-' :: letter :: _ => String.ofList ['-', letter]
  | _ => name

def findForm? (forms : List OptionForm) (name : String) : Option OptionForm :=
  forms.find? fun form => form.name == name

def unknown (forms : List OptionForm) (argument : String) : Usage :=
  let name := unknownName argument
  .noSuchOption name
    (if argument.toList.take 2 = ['-', '-'] then
      Likeness.suggestions name (forms.map OptionForm.name) else [])

/-- Whether an argument is an option. -/
def looksLikeOption (argument : String) : Bool :=
  match argument.toList with
  | '-' :: _ :: _ => true
  | _ => false

/-- Sorts arguments.  Unless `mixes`, the first plain argument ends the options. -/
def readArguments (forms : List OptionForm) (mixes : Bool) : List String → Except Usage Given
  | [] => .ok .empty
  | argument :: rest =>
    if argument = "--" then .ok ⟨[], rest⟩
    else if looksLikeOption argument then
      let (name, written) := splitValue argument
      match findForm? forms name with
      | none => .error (unknown forms argument)
      | some form =>
        match form.takesValue, written with
        | true, some value => do
          let given ← readArguments forms mixes rest
          .ok (given.addOption ⟨name, value⟩)
        | true, none =>
          match rest with
          | [] => .error (.missingValue name)
          | value :: rest => do
            let given ← readArguments forms mixes rest
            .ok (given.addOption ⟨name, value⟩)
        | false, some _ => .error (.unwantedValue name)
        | false, none => do
          let given ← readArguments forms mixes rest
          .ok (given.addOption ⟨name, ""⟩)
    else if mixes then do
      let given ← readArguments forms mixes rest
      .ok (given.addArgument argument)
    else .ok ⟨[], argument :: rest⟩

end GuestFlow.Console
