import GuestFlow.Value.Order
import GuestFlow.Value.Text

/-!
# Writing JSON

A value is written as JSON in one of two styles.  On the page every member and item
stands on a line of its own, indented by two blanks a level, with the members in their
order.  In one line, the members are sorted by their keys, so that two records with the
same entries have the same text; the runner recognises collected data by that text.

Keys that are numbers, truth values or nothing are written as text; other keys have no
JSON form.  Values without a JSON form are written as their text where the style allows
it, and refused otherwise.
-/

set_option autoImplicit false

namespace GuestFlow.Json

structure Style where
  /-- Whether items stand on lines of their own. -/
  isPage : Bool
  /-- Whether a value without a JSON form is written as its text. -/
  allowsAnyValue : Bool

/-- On the page, JSON values only. -/
def Style.page : Style := ⟨true, false⟩

/-- On the page, with the text of every other value. -/
def Style.lenientPage : Style := ⟨true, true⟩

/-- In one line, sorted, with the text of every other value. -/
def Style.sortedLine : Style := ⟨false, true⟩

/-- One character of a JSON string. -/
def escapeChar (character : Char) : List Char :=
  match character with
  | '"' => ['\\', '"']
  | '\\' => ['\\', '\\']
  | '\n' => ['\\', 'n']
  | '\r' => ['\\', 'r']
  | '\t' => ['\\', 't']
  | '\x08' => ['\\', 'b']
  | '\x0c' => ['\\', 'f']
  | other =>
    if other.toNat < 0x20 then '\\' :: 'u' :: Quoted.hex 4 other.toNat else [other]

/-- A JSON string; characters beyond ASCII stand for themselves. -/
def stringText (text : String) : String :=
  String.ofList ('"' :: text.toList.flatMap escapeChar ++ ['"'])

def flagText (flag : Bool) : String := if flag then "true" else "false"

/-- The decimal text of an integer, if it is not too long. -/
def integerText (number : Int) : Except Fault String :=
  if Value.fitsLimit number then .ok (toString number) else .error (.tooManyDigits none)

/-- The text of a number; infinities and no number have names. -/
def numberText (number : Binary64) : String := number.render Binary64.Layout.json

/-- A key as a JSON string. -/
def keyText (style : Style) : Value → Except Fault String
  | .text characters => .ok (stringText characters)
  | .bool flag => .ok (stringText (flagText flag))
  | .null => .ok (stringText "null")
  | .int number => (integerText number).map stringText
  | .float number => .ok (stringText (numberText number))
  | other => .error (.unwritableKey (if style.isPage then other.kind else other.fullKind))

/-- The line break and indentation of a level, or nothing within one line. -/
def lineBreak (style : Style) (level : Nat) : String :=
  if style.isPage then "\n" ++ String.ofList (List.replicate (2 * level) ' ') else ""

/-- Items between brackets. -/
def bracketed (style : Style) (level : Nat) (opening closing : String) (items : List String) :
    String :=
  if items.isEmpty then opening ++ closing
  else
    let separator := if style.isPage then "," ++ lineBreak style (level + 1) else ", "
    opening ++ lineBreak style (level + 1) ++ String.intercalate separator items ++
      lineBreak style level ++ closing

/-- Members in the order of the style. -/
def arrange (style : Style) (members : List (Value × Except Fault String)) :
    Except Fault (List String) := do
  let ordered ←
    if style.isPage then .ok members
    else sortWith (fun left right => Value.isBelow left.1 right.1) members
  ordered.mapM Prod.snd

mutual

def writeAt (style : Style) (level : Nat) : Value → Except Fault String
  | .null => .ok "null"
  | .bool flag => .ok (flagText flag)
  | .int number => integerText number
  | .float number => .ok (numberText number)
  | .text characters => .ok (stringText characters)
  | .list items => (writeItems style (level + 1) items).map (bracketed style level "[" "]")
  | .tuple items => (writeItems style (level + 1) items).map (bracketed style level "[" "]")
  | .record entries =>
    (arrange style (writeMembers style (level + 1) entries)).map
      (bracketed style level "\x7b" "\x7d")
  | other =>
    if style.allowsAnyValue then other.text?.map stringText else .error (.unwritable other.kind)

def writeItems (style : Style) (level : Nat) : List Value → Except Fault (List String)
  | [] => .ok []
  | item :: rest => do
    let text ← writeAt style level item
    let texts ← writeItems style level rest
    .ok (text :: texts)

/-- Every member with its key, as text or as the fault that writing it meets. -/
def writeMembers (style : Style) (level : Nat) :
    List (Value × Value) → List (Value × Except Fault String)
  | [] => []
  | (key, value) :: rest =>
    (key, do
      let name ← keyText style key
      let text ← writeAt style level value
      .ok (name ++ ": " ++ text)) :: writeMembers style level rest

end

/-- The JSON text of a value in a style. -/
def write (style : Style) (value : Value) : Except Fault String := writeAt style 0 value

end GuestFlow.Json
