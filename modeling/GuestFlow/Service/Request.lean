import GuestFlow.File.Path
import GuestFlow.Number.Numeral
import GuestFlow.Text.Utf8
import GuestFlow.Value.Record

/-!
# Requests and responses

A request names what it wants by a method and a target: a path, and behind a question
mark the parameters of a query.  In a target characters can be written as a percent sign
with two digits, and a blank of a query as a plus sign.

A response has a status and a body.  It also carries the id of the request, unless the
service broke down over it.
-/

set_option autoImplicit false

namespace GuestFlow.Service

structure Request where
  method : String
  target : String
  headers : List (String × String)
  body : String

structure Response where
  status : Nat
  body : Value
  requestId : Option String

namespace Request

/-! ## Targets -/

/-- The bytes of a target, with percent signs resolved. -/
def bytesOf : List Char → List UInt8
  | [] => []
  | '%' :: first :: second :: rest =>
    match Numeral.digit? 16 first, Numeral.digit? 16 second with
    | some high, some low => UInt8.ofNat (high * 16 + low) :: bytesOf rest
    | _, _ => '%'.toUInt8 :: bytesOf (first :: second :: rest)
  | character :: rest => (String.singleton character).toUTF8.toList ++ bytesOf rest
termination_by characters => characters.length

def unescape (characters : List Char) : String :=
  String.ofList (Utf8.decodeLeniently (bytesOf characters))

/-- The target without what follows a number sign. -/
def relevant (request : Request) : List Char := request.target.toList.takeWhile (· != '#')

/-- The names in the path, the empty one in front of its first stroke included. -/
def segments (request : Request) : List String :=
  let path := unescape (request.relevant.takeWhile (· != '?'))
  (Path.splitAt '/' path.toList).map String.ofList

/-- A parameter of a query. -/
def parameter (written : List Char) : String × String :=
  let plain := written.map fun character => if character = '+' then ' ' else character
  let name := plain.takeWhile (· != '=')
  (unescape name, unescape ((plain.drop name.length).drop 1))

def parameters (request : Request) : List (String × String) :=
  let query := (request.relevant.dropWhile (· != '?')).drop 1
  ((Path.splitAt '&' query).filter fun written => !written.isEmpty).map parameter

/-- The value of a parameter, the last one if it comes several times. -/
def parameter? (request : Request) (name : String) : Option String :=
  request.parameters.reverse.lookup name

/-! ## Headers -/

/-- A header; its name may be written in small or capital letters. -/
def header? (request : Request) (name : String) : Option String :=
  (request.headers.find? fun header => header.1.toLower == name.toLower).map Prod.snd

/-- The id that a request brings along, or a fresh one. -/
def idOr (request : Request) (fresh : String) : String :=
  let given := (request.header? "X-Request-ID").getD ""
  if given = "" then fresh else given

end Request

end GuestFlow.Service
