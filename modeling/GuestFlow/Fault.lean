import GuestFlow.Calendar
import GuestFlow.Text.Quoted

/-!
# What can go wrong

Every failure of the library is a cause, kept as data; its wording is `Fault.message`.
Causes fall into four families: a workflow document that cannot be read or does not fit,
a run that was asked for something it refuses, a value that cannot be converted,
compared or written, and the outside world (files, time, a step that fails).
-/

set_option autoImplicit false

namespace GuestFlow

/-- The operations that may not be called while one of them is in progress. -/
inductive Operation where
  | start
  | completeStep
  | goBack
  | reset
  deriving DecidableEq, Repr

def Operation.name : Operation → String
  | .start => "start"
  | .completeStep => "complete_step"
  | .goBack => "go_back"
  | .reset => "reset"

inductive Fault where
  -- Workflow documents.
  | invalidDefinition (summary : String) (problems : List String)
  | unreadable (summary : String)
  -- Runs.
  | dangling (node output target : String)
  | undeclared (node output : String) (declared : List String)
  | reentrant (operation active : Operation)
  | notACondition (node kind : String)
  | unknownOperator (operator : String)
  | nothingToEvaluate
  | timedOut
  | stepFailed (text : String)
  -- Conversions of values.
  | notANumber (shown : String)
  | notNumeric (kind : String)
  | notAnInteger (text : String) (base : Nat)
  | tooManyDigits (count : Option Nat)
  | integerTooLarge
  | infiniteInteger
  | nanInteger
  | emptyNumeral
  | notIterable (kind : String)
  | itemNotAPair (index : Nat)
  | itemLength (index length : Nat)
  | unhashable (kind : String)
  | unsearchable (kind : String)
  | incomparable (left right : String)
  | mixedOffsets
  | mixedDates
  | unwritable (kind : String)
  | unwritableKey (kind : String)
  | nestedTooDeep
  | outOfRangeNumber (text : String)
  | calendar (part : Calendar.Misfit)
  | notATimestamp
  | unknownTruthWord (word : String)
  | notACharacter
  | characterTooLarge
  -- The outside world.
  | notUtf8 (description : String)
  | nullInPath
  | badVariable
  | badParameter (text : String)
  deriving DecidableEq

/-- The texts of a list, with commas between them. -/
def commaSeparated (texts : List String) : String := String.intercalate ", " texts

def Fault.message : Fault → String
  | .invalidDefinition summary _ => summary
  | .unreadable summary => summary
  | .dangling node output target =>
    "Output '" ++ output ++ "' of node '" ++ node ++ "' resolves to unknown node '" ++ target ++ "'"
  | .undeclared node output declared =>
    let listed := commaSeparated declared
    "Node '" ++ node ++ "' has no output '" ++ output ++ "' (declared: " ++
      (if listed = "" then "none" else listed) ++ ")"
  | .reentrant operation active =>
    "Cannot call '" ++ operation.name ++ "' while '" ++ active.name ++ "' is in progress"
  | .notACondition node kind => "Node '" ++ node ++ "' is a " ++ kind ++ " node, not a condition"
  | .unknownOperator operator => "Unknown condition operator: " ++ operator
  | .nothingToEvaluate => "No node to evaluate"
  | .timedOut => ""
  | .stepFailed text => text
  | .notANumber shown => "could not convert string to float: " ++ shown
  | .notNumeric kind => "float() argument must be a string or a real number, not '" ++ kind ++ "'"
  | .notAnInteger text base =>
    "invalid literal for int() with base " ++ toString base ++ ": " ++ Quoted.quote text
  | .tooManyDigits count =>
    "Exceeds the limit (4300 digits) for integer string conversion" ++
      (match count with
        | none => ""
        | some digits => ": value has " ++ toString digits ++ " digits") ++
      "; use sys.set_int_max_str_digits() to increase the limit"
  | .integerTooLarge => "int too large to convert to float"
  | .infiniteInteger => "cannot convert float infinity to integer"
  | .nanInteger => "cannot convert float NaN to integer"
  | .emptyNumeral => "string index out of range"
  | .notIterable kind => "'" ++ kind ++ "' object is not iterable"
  | .itemNotAPair index =>
    "cannot convert dictionary update sequence element #" ++ toString index ++ " to a sequence"
  | .itemLength index length =>
    "dictionary update sequence element #" ++ toString index ++ " has length " ++ toString length ++
      "; 2 is required"
  | .unhashable kind => "unhashable type: '" ++ kind ++ "'"
  | .unsearchable kind => "expected string or bytes-like object, got '" ++ kind ++ "'"
  | .incomparable left right =>
    "'<' not supported between instances of '" ++ left ++ "' and '" ++ right ++ "'"
  | .mixedOffsets => "can't compare offset-naive and offset-aware datetimes"
  | .mixedDates => "can't compare datetime.datetime to datetime.date"
  | .unwritable kind => "Object of type " ++ kind ++ " is not JSON serializable"
  | .unwritableKey kind => "keys must be str, int, float, bool or None, not " ++ kind
  | .nestedTooDeep => "Circular reference detected (depth exceeded)"
  | .outOfRangeNumber text => "Out of range float values are not JSON compliant: " ++ text
  | .calendar part => part.message
  | .notATimestamp => "'NoneType' object has no attribute 'groupdict'"
  | .unknownTruthWord word => Quoted.quote word
  | .notACharacter => "chr() arg not in range(0x110000)"
  | .characterTooLarge => "Python int too large to convert to C int"
  | .notUtf8 description => description
  | .nullInPath => "embedded null byte"
  | .badVariable => "illegal environment variable name"
  | .badParameter text => text

/-- The single problems behind a failure of a document: those listed, or the failure itself. -/
def Fault.problems : Fault → List String
  | .invalidDefinition summary problems => if problems.isEmpty then [summary] else problems
  | fault => [fault.message]

/-- Whether the fault says that a document is no usable definition. -/
def Fault.isDefinitionFault : Fault → Bool
  | .invalidDefinition .. | .unreadable _ => true
  | _ => false

end GuestFlow
