import GuestFlow.Json.Reader
import GuestFlow.Service.Request
import GuestFlow.Text.Letter

/-!
# Checking requests

The body of a request is JSON, and some of its fields have to be of a certain kind.  The
checks are lenient: a truth value may be given as one of a few words or as a number, and
a number as a numeral.

A check that fails gives a complaint, which says what kind of mistake it is and where it
is: in the body or in the query, and in which field.  All complaints about a request are
collected before it is refused.
-/

set_option autoImplicit false

namespace GuestFlow.Service

/-- A step on the way to a mistake. -/
inductive Place where
  | name (name : String)
  | index (index : Nat)
  deriving DecidableEq, Repr

structure Complaint where
  kind : String
  place : List Place
  deriving DecidableEq, Repr

/-- The result of a check, or all complaints about it. -/
abbrev Checked (α : Type) := Except (List Complaint) α

namespace Checked

/-- Both results, or the complaints about either. -/
def both {α β : Type} (first : Checked α) (second : Checked β) : Checked (α × β) :=
  match first, second with
  | .ok left, .ok right => .ok (left, right)
  | .error left, .error right => .error (left ++ right)
  | .error left, .ok _ => .error left
  | .ok _, .error right => .error right

end Checked

/-! ## Single values -/

/-- A text, and nothing else. -/
def readText : Value → Except String String
  | .text characters => .ok characters
  | _ => .error "string_type"

def readRecord : Value → Except String Record
  | .record entries => .ok entries
  | _ => .error "dict_type"

/-- The words for the two truth values. -/
def truthWord? (text : String) : Option Bool :=
  let word := text.toLower
  if ["1", "on", "t", "true", "y", "yes"].contains word then some true
  else if ["0", "off", "f", "false", "n", "no"].contains word then some false
  else none

/-- Whether a number has at most 63 binary digits. -/
def isShort (number : Int) : Bool := decide (number.natAbs < Nat.pow 2 63)

/-- A number as a truth value; long numbers do not even look like one. -/
def truthNumber (number : Int) : Except String Bool :=
  if number = 0 then .ok false
  else if number = 1 then .ok true
  else if isShort number then .error "bool_parsing"
  else .error "bool_type"

def readFlag : Value → Except String Bool
  | .bool flag => .ok flag
  | .text text =>
    match truthWord? text with
    | some flag => .ok flag
    | none => .error "bool_parsing"
  | .int number => truthNumber number
  | .float number =>
    match number.toInt? with
    | some whole => truthNumber whole
    | none => .error "bool_type"
  | _ => .error "bool_type"

/-- Blanks around a numeral. -/
def trimNumeral (characters : List Char) : List Char :=
  let isSpace (character : Char) : Bool :=
    Blank.isBlank character && !(0x1c ≤ character.toNat && character.toNat ≤ 0x1f)
  ((characters.dropWhile isSpace).reverse.dropWhile isSpace).reverse

/-- A numeral without the zeros behind its point. -/
def withoutZeros (characters : List Char) : List Char :=
  let whole := characters.takeWhile (· != '.')
  match characters.drop whole.length with
  | '.' :: rest => if rest.all (· == '0') then whole else characters
  | _ => characters

/-- The digits of a numeral; single underscores may stand between them. -/
def digits? (characters : List Char) : Option (List Nat) :=
  match Numeral.takeDigits 10 characters with
  | (digits, false, []) =>
    if digits.isEmpty || characters.head? = some '_' then none else some digits
  | _ => none

/-- The integer that a text writes. -/
def readNumeral (text : String) : Except String Int :=
  let characters := trimNumeral text.toList
  if Numeral.digitLimit < characters.length then .error "int_parsing_size"
  else
    let (negative, unsigned) := Numeral.takeSign characters
    match digits? (withoutZeros unsigned) with
    | some digits =>
      let magnitude : Int := Numeral.value 10 digits
      .ok (if negative then -magnitude else magnitude)
    | none => .error "int_parsing"

def readInteger : Value → Except String Int
  | .bool flag => .ok (if flag then 1 else 0)
  | .int number => .ok number
  | .text text => readNumeral text
  | .float number =>
    match number with
    | .finite .. =>
      match number.toInt? with
      | some whole => if isShort whole then .ok whole else .error "int_parsing_size"
      | none => .error "int_from_float"
    | _ => .error "finite_number"
  | _ => .error "int_type"

/-- Nothing, or what a reader reads. -/
def readOptional {α : Type} (read : Value → Except String α) : Value → Except String (Option α)
  | .null => .ok none
  | value => (read value).map some

/-! ## Fields -/

/-- A complaint about a field of the body. -/
def fieldComplaint (kind name : String) : Complaint := ⟨kind, [.name "body", .name name]⟩

/-- A field that has to be there. -/
def requiredField {α : Type} (record : Record) (name : String) (read : Value → Except String α) :
    Checked α :=
  match record.field? name with
  | none => .error [fieldComplaint "missing" name]
  | some value => (read value).mapError fun kind => [fieldComplaint kind name]

/-- A field that may be left out. -/
def optionalField {α : Type} (record : Record) (name : String) (usual : α)
    (read : Value → Except String α) : Checked α :=
  match record.field? name with
  | none => .ok usual
  | some value => (read value).mapError fun kind => [fieldComplaint kind name]

/-- Complains about fields that are not known. -/
def onlyFields (record : Record) (known : List String) : Checked Unit :=
  let complaints := record.filterMap fun (key, _) =>
    match key with
    | .text name => if known.contains name then none else some (fieldComplaint "extra_forbidden" name)
    | _ => none
  if complaints.isEmpty then .ok () else .error complaints

/-! ## Bodies -/

/-- Why a body cannot be read. -/
inductive BodyFlaw where
  /-- It is not JSON from some place on. -/
  | notJson (index : Nat)
  | unreadable
  deriving DecidableEq, Repr

/-- The text of a body; a mark of the byte order in front does not count. -/
def bodyText (body : String) : String :=
  match body.toList with
  | '\ufeff' :: rest => String.ofList rest
  | _ => body

/-- The value of a body, if there is one. -/
def readBody (body : String) : Except BodyFlaw (Option Value) :=
  if body = "" then .ok none
  else
    let text := bodyText body
    match Json.read text with
    | .ok value => .ok (some value)
    | .error (.malformed _ left) => .error (.notJson (text.length - left))
    | .error (.number _) => .error .unreadable

/-- A body that has to be there and to be a record; `kind` is the mistake if it is something else. -/
def requiredRecord (kind : String) : Option Value → Checked Record
  | some (.record entries) => .ok entries
  | some _ => .error [⟨kind, [.name "body"]⟩]
  | none => .error [⟨"missing", [.name "body"]⟩]

/-! ## Queries -/

/-- A number of a query, between bounds. -/
def queryNumber (request : Request) (name : String) (usual least : Int) (most : Option Int) :
    Checked Int :=
  let complain (kind : String) : Checked Int := .error [⟨kind, [.name "query", .name name]⟩]
  match request.parameter? name with
  | none => .ok usual
  | some text =>
    match readNumeral text with
    | .error kind => complain kind
    | .ok number =>
      if number < least then complain "greater_than_equal"
      else if most.any fun bound => decide (bound < number) then complain "less_than_equal"
      else .ok number

/-! ## The bodies of single requests -/

/-- What a new session is to be. -/
structure SessionForm where
  definitionId : String
  eventId : String
  autoStart : Bool
  metadata : Record

def SessionForm.ofRecord (record : Record) : Checked SessionForm := do
  let ((definitionId, eventId), (autoStart, metadata)) ←
    ((requiredField record "definition_id" readText).both
      (optionalField record "event_id" "" readText)).both
    ((optionalField record "auto_start" false readFlag).both
      (optionalField record "metadata" [] readRecord))
  .ok ⟨definitionId, eventId, autoStart, metadata⟩

/-- How a step is to be completed. -/
structure CompletionForm where
  output : String
  data : Record
  activation : Option Int
  usesRenderer : Bool

def CompletionForm.fields : List String := ["output_id", "data", "activation", "use_renderer"]

def CompletionForm.ofRecord (record : Record) : Checked CompletionForm := do
  let (((output, data), (activation, usesRenderer)), _) ←
    (((optionalField record "output_id" "default" readText).both
      (optionalField record "data" [] readRecord)).both
    ((optionalField record "activation" none (readOptional readInteger)).both
      (optionalField record "use_renderer" true readFlag))).both
    (onlyFields record CompletionForm.fields)
  .ok ⟨output, data, activation, usesRenderer⟩

end GuestFlow.Service
