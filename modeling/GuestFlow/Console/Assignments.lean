import GuestFlow.Text.Blank
import GuestFlow.Value.Record
import GuestFlow.Yaml.Reader

/-!
# Assignments

On the console data is entered as `key=value` words.  What stands behind the first equals
sign is read as YAML, so that `true` is a truth value and `3` a number; what is no YAML
stays the text it is.
-/

set_option autoImplicit false

namespace GuestFlow.Console

/-- The value of the text behind an equals sign. -/
def assignedValue (text : String) : Except Fault Value :=
  if text = "" then .ok (.text "")
  else match Yaml.read text with
    | .ok value => .ok value
    | .error .malformed => .ok (.text text)
    | .error (.fault fault) => .error fault

/-- Adds what one word assigns; a key that comes again gets its last value. -/
def assign (record : Record) (word : String) : Except Fault Record :=
  let characters := word.toList
  match characters.dropWhile (· != '=') with
  | _ :: behind => do
    let key := String.ofList (characters.takeWhile (· != '='))
    let value ← assignedValue (String.ofList behind)
    .ok (record.insert (.text key) value)
  | [] => .error (.badParameter ("Expected key=value, got '" ++ word ++ "'"))

/-- The record that a line of assignments describes. -/
def parseAssignments (line : String) : Except Fault Record :=
  (Blank.words line).foldlM assign []

end GuestFlow.Console
