import Winnow.Text.Ranges

/-!
Blank characters: the space separators, and the control characters that separate fields or lines.
-/
set_option autoImplicit false

namespace Winnow.Text

def blanks : List (Nat × Nat) := [
  (0x9, 0xD), (0x1C, 0x20), (0x85, 0x85), (0xA0, 0xA0), (0x1680, 0x1680), (0x2000, 0x200A),
  (0x2028, 0x2029), (0x202F, 0x202F), (0x205F, 0x205F), (0x3000, 0x3000)]

def isBlank (c : Nat) : Bool := inRanges blanks c

def dropBlanks : List Char → List Char :=
  List.dropWhile fun c => isBlank c.toNat

def trimBlanks (s : String) : String :=
  String.ofList (dropBlanks (dropBlanks s.toList).reverse).reverse

end Winnow.Text
