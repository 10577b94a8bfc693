import GuestFlow.Text.Printable

/-!
# Quoted text

Messages show a text inside quotes.  Single quotes are used, unless the text holds a
single quote and no double quote.  Inside the quotes the backslash, the quote in use
and every character without a visible form are escaped, so a quoted text always stands
on one line and can be told from its neighbours.

Byte strings are shown the same way behind the letter `b`; there every byte outside the
visible ASCII range is escaped.
-/

set_option autoImplicit false

namespace GuestFlow.Quoted

/-- A number in small hexadecimal digits, with zeros in front up to `width`. -/
def hex (width number : Nat) : List Char :=
  let digits := Nat.toDigits 16 number
  List.replicate (width - digits.length) '0' ++ digits

/-- The quote to use around characters: the double one only when it spares an escape. -/
def chosenQuote (characters : List Char) : Char :=
  if characters.contains '\'' && !characters.contains '"' then '"' else '\''

/-- The escapes shared by text and bytes. -/
def commonEscape? (quote character : Char) : Option (List Char) :=
  if character = quote || character = '\\' then some ['\\', character]
  else if character = '\t' then some ['\\', 't']
  else if character = '\n' then some ['\\', 'n']
  else if character = '\r' then some ['\\', 'r']
  else none

/-- One character of a quoted text. -/
def encodeChar (quote character : Char) : List Char :=
  match commonEscape? quote character with
  | some escaped => escaped
  | none =>
    if Printable.isPrintable character then [character]
    else if character.toNat < 0x100 then '\\' :: 'x' :: hex 2 character.toNat
    else if character.toNat < 0x10000 then '\\' :: 'u' :: hex 4 character.toNat
    else '\\' :: 'U' :: hex 8 character.toNat

/-- A text in quotes. -/
def quote (text : String) : String :=
  let characters := text.toList
  let mark := chosenQuote characters
  String.ofList (mark :: characters.flatMap (encodeChar mark) ++ [mark])

/-- One byte of a quoted byte string. -/
def encodeByte (quote : Char) (byte : UInt8) : List Char :=
  let character := Char.ofNat byte.toNat
  match commonEscape? quote character with
  | some escaped => escaped
  | none =>
    if 0x20 ≤ byte.toNat && byte.toNat < 0x7f then [character]
    else '\\' :: 'x' :: hex 2 byte.toNat

/-- A byte string in quotes. -/
def quoteBytes (bytes : List UInt8) : String :=
  let mark := chosenQuote (bytes.map fun byte => Char.ofNat byte.toNat)
  String.ofList ('b' :: mark :: bytes.flatMap (encodeByte mark) ++ [mark])

end GuestFlow.Quoted
