/-!
# Bytes in base 64

Four characters of an alphabet of sixty-four write three bytes; equals signs fill up the
last four.  Reading is lenient: characters outside the alphabet do not count, and
nothing counts behind an end that is filled up.  What is left over at the end must
not be an incomplete group.
-/

set_option autoImplicit false

namespace GuestFlow.Base64

/-- The number that a character of the alphabet stands for. -/
def digit? (character : Char) : Option Nat :=
  let point := character.toNat
  if 0x41 ≤ point && point ≤ 0x5a then some (point - 0x41)
  else if 0x61 ≤ point && point ≤ 0x7a then some (point - 0x61 + 26)
  else if 0x30 ≤ point && point ≤ 0x39 then some (point - 0x30 + 52)
  else if character = '+' then some 62
  else if character = '/' then some 63
  else none

/-- Reads on in a group of which `place` characters have come, with `pads` equals signs since the
last of them; `bits` are those of the last character that no byte has taken up. -/
def decodeFrom (place bits pads : Nat) : List Char → Option (List UInt8)
  | [] => if place = 0 then some [] else none
  | character :: rest =>
    if character = '=' then
      if 2 ≤ place && 4 ≤ place + (pads + 1) then some []
      else decodeFrom place bits (if 2 ≤ place then pads + 1 else pads) rest
    else match digit? character with
      | none => decodeFrom place bits pads rest
      | some digit =>
        if place = 0 then decodeFrom 1 digit 0 rest
        else
          -- The number of bits of this character that complete a byte.
          let taken := 2 * place
          let kept := digit % Nat.pow 2 (6 - taken)
          let byte := UInt8.ofNat (bits * Nat.pow 2 taken + digit / Nat.pow 2 (6 - taken))
          (decodeFrom ((place + 1) % 4) kept 0 rest).map (byte :: ·)

/-- The bytes that a text writes. -/
def decode? (text : List Char) : Option (List UInt8) := decodeFrom 0 0 0 text

end GuestFlow.Base64
