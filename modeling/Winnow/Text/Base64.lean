/-!
Reading bytes written in sixty-four characters. Characters outside the alphabet are passed over, and the
padding that completes a group ends the text.
-/
set_option autoImplicit false

namespace Winnow.Text.Base64

def value? (c : Char) : Option Nat :=
  if 'A' ≤ c && c ≤ 'Z' then some (c.toNat - 0x41)
  else if 'a' ≤ c && c ≤ 'z' then some (c.toNat - 0x61 + 26)
  else if c.isDigit then some (c.toNat - 0x30 + 52)
  else if c == '+' then some 62
  else if c == '/' then some 63
  else none

/-- Reads on from a group of which `count` characters are known; `bits` are those that make no byte yet, and
`pads` padding characters have come since the last other one. -/
def decodeFrom (count bits pads : Nat) : List Char → Option (List UInt8)
  | [] => if count == 0 then some [] else none
  | c :: rest =>
    if c == '=' then
      if 2 ≤ count then
        if 4 ≤ count + pads + 1 then some [] else decodeFrom count bits (pads + 1) rest
      else decodeFrom count bits pads rest
    else match value? c with
      | none => decodeFrom count bits pads rest
      | some v =>
        match count with
        | 0 => decodeFrom 1 v 0 rest
        | 1 => (decodeFrom 2 (v % 16) 0 rest).map (UInt8.ofNat (bits * 4 + v / 16) :: ·)
        | 2 => (decodeFrom 3 (v % 4) 0 rest).map (UInt8.ofNat (bits * 16 + v / 4) :: ·)
        | _ => (decodeFrom 0 0 0 rest).map (UInt8.ofNat (bits * 64 + v) :: ·)

def decode (s : String) : Option (List UInt8) := decodeFrom 0 0 0 s.toList

end Winnow.Text.Base64
