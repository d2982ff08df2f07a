import Winnow.Text.LowerCase
import Winnow.Text.UpperCase

/-!
Case variants of a single code point, for comparisons that ignore case without changing the length of a text.
Two code points are variants when they have one lower-case form, or when their lower-case forms have one
upper-case form; the second way is listed, as groups.
-/
set_option autoImplicit false

namespace Winnow.Text

def sharedUppers : List (List Nat) := [
  [0x69, 0x131], [0x73, 0x17F], [0xB5, 0x3BC], [0x345, 0x3B9, 0x1FBE], [0x390, 0x1FD3],
  [0x3B0, 0x1FE3], [0x3B2, 0x3D0], [0x3B5, 0x3F5], [0x3B8, 0x3D1], [0x3BA, 0x3F0], [0x3C0, 0x3D6],
  [0x3C1, 0x3F1], [0x3C2, 0x3C3], [0x3C6, 0x3D5], [0x432, 0x1C80], [0x434, 0x1C81],
  [0x43E, 0x1C82], [0x441, 0x1C83], [0x442, 0x1C84, 0x1C85], [0x44A, 0x1C86], [0x463, 0x1C87],
  [0x1C88, 0xA64B], [0x1E61, 0x1E9B], [0xFB05, 0xFB06]]

/-- The lower-case code points, `c` among them, that share an upper-case form with the lower-case `c`. -/
def lowerVariants (c : Nat) : List Nat :=
  match sharedUppers.find? fun group => group.contains c with
  | some group => group
  | none => [c]

def lowerPreimages (c : Nat) : List Nat :=
  let raised := lowerForms.filterMap fun r => r.preimage? c
  let dotted := if c == 0x69 then [0x130] else []
  (if lowerCode c == c then [c] else []) ++ raised ++ dotted

def isCased (c : Nat) : Bool := lowerCode c != c || upperCode c != c

def meetsCasedCode (lo hi : Nat) : Bool :=
  (decide (lo ≤ 0x130) && decide (0x130 ≤ hi)) ||
    lowerForms.any (·.meets lo hi) || upperForms.any (·.meets lo hi)

end Winnow.Text
