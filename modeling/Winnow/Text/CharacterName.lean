import Winnow.Text.CharacterName.Alias
import Winnow.Text.CharacterName.EastAsia
import Winnow.Text.CharacterName.OldScripts
import Winnow.Text.CharacterName.Pictures
import Winnow.Text.CharacterName.Scripts
import Winnow.Text.CharacterName.Symbols
import Winnow.Text.CodeText
import Winnow.Text.Ranges

/-!
Characters by their names. Most names are listed; those of Hangul syllables are put together from the names of
their letters, and those of ideographs hold the number of the character.
-/
set_option autoImplicit false

namespace Winnow.Text.CharacterName

def lists : List String := [scripts, symbols, eastAsia, oldScripts, pictures, aliases]

def hexValue? (digits : List Char) : Option Nat :=
  if digits.all fun c => ('0' ≤ c && c ≤ '9') || ('A' ≤ c && c ≤ 'F') then
    some (digits.foldl (fun n c => n * 16 + (if c ≤ '9' then c.toNat - 48 else c.toNat - 55)) 0)
  else none

def after? (lead : List Char) (t : List Char) : Option (List Char) :=
  if lead.isPrefixOf t then some (t.drop lead.length) else none

def inRow? (name : List Char) (row : String) : Option Nat := do
  let cs := row.toList
  let head := cs.takeWhile (· != ':')
  let rest ← after? ((head.dropWhile (· != ' ')).drop 1) name
  let place ← ((String.ofList (cs.drop (head.length + 1))).splitOn "|").idxOf? (String.ofList rest)
  return (← hexValue? (head.takeWhile (· != ' '))) + place

def inList? (name : List Char) (list : String) : Option Nat :=
  ((String.ofList (list.toList.filter (· != '\n'))).splitOn ";").findSome? (inRow? name)

/-! Hangul syllables. -/

def leads : List String :=
  ["G", "GG", "N", "D", "DD", "R", "M", "B", "BB", "S", "SS", "", "J", "JJ", "C", "K", "T", "P", "H"]

def vowels : List String := [
  "A", "AE", "YA", "YAE", "EO", "E", "YEO", "YE", "O", "WA", "WAE", "OE", "YO", "U", "WEO", "WE", "WI", "YU",
  "EU", "YI", "I"]

def tails : List String := [
  "", "G", "GG", "GS", "N", "NJ", "NH", "D", "L", "LG", "LM", "LB", "LS", "LT", "LP", "LH", "M", "B", "BS", "S",
  "SS", "NG", "J", "C", "K", "T", "P", "H"]

/-- The longest of some letters with which a text begins: its number, and what is left. -/
def longest (letters : List String) (t : List Char) : Option (Nat × List Char) :=
  letters.zipIdx.foldl (fun best (letter, i) =>
    match after? letter.toList t, best with
    | some rest, some (_, other) => if rest.length < other.length then some (i, rest) else best
    | some rest, none => some (i, rest)
    | none, _ => best) none

def hangul? (t : List Char) : Option Nat := do
  let (lead, t) ← longest leads t
  let (vowel, t) ← longest vowels t
  let (tail, t) ← longest tails t
  if t.isEmpty then some (0xAC00 + (lead * vowels.length + vowel) * tails.length + tail) else none

/-! Ideographs. -/

def unified : List (Nat × Nat) := [
  (0x3400, 0x4DBF), (0x4E00, 0x9FFF), (0x20000, 0x2A6DF), (0x2A700, 0x2B738), (0x2B740, 0x2B81D),
  (0x2B820, 0x2CEA1), (0x2CEB0, 0x2EBE0), (0x30000, 0x3134A)]

def compatible : List (Nat × Nat) := [(0xF900, 0xFA6D), (0xFA70, 0xFAD9), (0x2F800, 0x2FA1D)]

def unified? (digits : List Char) : Option Nat := do
  let n ← hexValue? digits
  if (digits.length == 4 || digits.length == 5) && inRanges unified n then some n else none

def compatible? (digits : List Char) : Option Nat := do
  let n ← hexValue? digits
  if digits.head? != some '0' && inRanges compatible n then some n else none

end Winnow.Text.CharacterName

namespace Winnow.Text

open CharacterName in
/-- The code point that a name stands for. Letters count without regard to case, except in the names of
syllables and of unified ideographs. -/
def characterNamed? (name : CodeText) : Option Nat :=
  let given := (CodeText.display name).toList
  let t := given.map Char.toUpper
  match after? "HANGUL SYLLABLE ".toList given, after? "CJK UNIFIED IDEOGRAPH-".toList given with
  | some syllable, _ => hangul? syllable
  | none, some digits => unified? digits
  | none, none =>
    match after? "CJK COMPATIBILITY IDEOGRAPH-".toList t with
    | some digits => compatible? digits
    | none => lists.findSome? (inList? t)

end Winnow.Text
