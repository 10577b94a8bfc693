/-!
# Text in bytes

Files hold text in the eight-bit form of Unicode: a character is one byte or a leading
byte with one to three bytes that continue it.  `decode` reads bytes one after another
and stops at the first that cannot be read, saying where and why.
-/

set_option autoImplicit false

namespace GuestFlow.Utf8

/-- Why bytes are no text. -/
inductive Flaw where
  | start
  | continuation
  | ending
  deriving DecidableEq, Repr

/-- Bytes that are no text: the place of the first and of the last, and the first itself. -/
structure Complaint where
  flaw : Flaw
  first : Nat
  last : Nat
  lead : UInt8
  deriving DecidableEq, Repr

def Flaw.text : Flaw → String
  | .start => "invalid start byte"
  | .continuation => "invalid continuation byte"
  | .ending => "unexpected end of data"

/-- A byte in two hexadecimal digits. -/
def byteText (byte : UInt8) : String :=
  String.ofList [Nat.digitChar (byte.toNat / 16), Nat.digitChar (byte.toNat % 16)]

def Complaint.message (complaint : Complaint) : String :=
  "'utf-8' codec can't decode " ++
    (if complaint.first = complaint.last then
      "byte 0x" ++ byteText complaint.lead ++ " in position " ++ toString complaint.first
    else "bytes in position " ++ toString complaint.first ++ "-" ++ toString complaint.last) ++
    ": " ++ complaint.flaw.text

/-- A character of which some bytes have been read. -/
structure Partial where
  lead : UInt8
  taken : Nat
  /-- How many bytes are still to come, less one. -/
  missing : Nat
  code : Nat
  /-- The bounds of the next byte. -/
  least : Nat
  most : Nat

/-- What a byte at the front of a character begins. -/
inductive Beginning where
  | whole (character : Char)
  | part (waiting : Partial)
  | none

/-- Some leading bytes narrow the byte behind them, so that every character has one form only. -/
def beginningOf (byte : UInt8) : Beginning :=
  let number := byte.toNat
  if number < 0x80 then .whole (Char.ofNat number)
  else if number < 0xc2 then .none
  else if number < 0xe0 then .part ⟨byte, 1, 0, number - 0xc0, 0x80, 0xbf⟩
  else if number < 0xf0 then
    .part ⟨byte, 1, 1, number - 0xe0, if number = 0xe0 then 0xa0 else 0x80,
      if number = 0xed then 0x9f else 0xbf⟩
  else if number < 0xf5 then
    .part ⟨byte, 1, 2, number - 0xf0, if number = 0xf0 then 0x90 else 0x80,
      if number = 0xf4 then 0x8f else 0xbf⟩
  else .none

/-- Decodes from a position on; `waiting` is the character that has begun. -/
def decodeFrom (position : Nat) (waiting : Option Partial) :
    List UInt8 → Except Complaint (List Char)
  | [] =>
    match waiting with
    | none => .ok []
    | some part => .error ⟨.ending, position - part.taken, position - 1, part.lead⟩
  | byte :: rest =>
    match waiting with
    | none =>
      match beginningOf byte with
      | .whole character => do
        let characters ← decodeFrom (position + 1) none rest
        .ok (character :: characters)
      | .part part => decodeFrom (position + 1) (some part) rest
      | .none => .error ⟨.start, position, position, byte⟩
    | some part =>
      if part.least ≤ byte.toNat && byte.toNat ≤ part.most then
        let code := part.code * 64 + (byte.toNat - 0x80)
        match part.missing with
        | 0 => do
          let characters ← decodeFrom (position + 1) none rest
          .ok (Char.ofNat code :: characters)
        | missing + 1 =>
          decodeFrom (position + 1) (some ⟨part.lead, part.taken + 1, missing, code, 0x80, 0xbf⟩)
            rest
      else .error ⟨.continuation, position - part.taken, position - 1, part.lead⟩

/-- The text that bytes spell. -/
def decode (bytes : List UInt8) : Except Complaint (List Char) := decodeFrom 0 none bytes

/-- What stands for bytes that are no text. -/
def replacement : Char := Char.ofNat 0xfffd

/-- Decodes all that can be decoded; every flaw counts as one character. -/
def decodeWithin : Nat → List UInt8 → List Char
  | 0, _ => []
  | fuel + 1, bytes =>
    match decode bytes with
    | .ok characters => characters
    | .error complaint =>
      let front := match decode (bytes.take complaint.first) with
        | .ok characters => characters
        | .error _ => []
      front ++ replacement :: decodeWithin fuel (bytes.drop (complaint.last + 1))

def decodeLeniently (bytes : List UInt8) : List Char := decodeWithin (bytes.length + 1) bytes

/-- Every way to end a line as a line feed. -/
def plainLines : List Char → List Char
  | [] => []
  | '\r' :: '\n' :: rest => '\n' :: plainLines rest
  | '\r' :: rest => '\n' :: plainLines rest
  | character :: rest => character :: plainLines rest

end GuestFlow.Utf8
