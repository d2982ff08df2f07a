import Winnow.Text.CodeText
import Winnow.Text.Printable

/-!
Quoted texts, as they stand in messages. The quote is single unless the text holds a single quote and no
double one; the quote, the backslash and what cannot be shown are escaped.
-/
set_option autoImplicit false

namespace Winnow.Text

def hexDigit (n : Nat) : Char :=
  if n < 10 then Char.ofNat (0x30 + n) else Char.ofNat (0x57 + n)

def hexDigits : (width : Nat) → (n : Nat) → List Char
  | 0, _ => []
  | width + 1, n => hexDigits width (n / 16) ++ [hexDigit (n % 16)]

def quoteFor (t : CodeText) : Nat :=
  if t.contains 0x27 && !t.contains 0x22 then 0x22 else 0x27

def quoteCode (quote c : Nat) : List Char :=
  if c == quote || c == 0x5C then ['\\', Char.ofNat c]
  else if c == 0x09 then ['\\', 't']
  else if c == 0x0A then ['\\', 'n']
  else if c == 0x0D then ['\\', 'r']
  else if isPrintable c then [Char.ofNat c]
  else if c ≤ 0xFF then '\\' :: 'x' :: hexDigits 2 c
  else if c ≤ 0xFFFF then '\\' :: 'u' :: hexDigits 4 c
  else '\\' :: 'U' :: hexDigits 8 c

def quotedCodes (t : CodeText) : String :=
  let quote := quoteFor t
  String.ofList (Char.ofNat quote :: t.flatMap (quoteCode quote) ++ [Char.ofNat quote])

def quoted (s : String) : String := quotedCodes (CodeText.ofString s)

def Unencodable.message (e : Unencodable) : String :=
  if e.count == 1 then
    s!"'utf-8' codec can't encode character {quotedCodes [e.first]} in position {e.position}: surrogates not allowed"
  else
    s!"'utf-8' codec can't encode characters in position {e.position}-{e.position + e.count - 1}: surrogates not allowed"

end Winnow.Text
