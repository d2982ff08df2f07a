import Winnow.Pattern.Syntax
import Winnow.Text.Blank
import Winnow.Text.CaseVariant
import Winnow.Text.Letter

/-!
Which characters a node of a pattern accepts. Classes take all scripts or ASCII alone; when case is ignored, a
character is compared in its lower-case form with the lower-case forms that a literal or a set stands for.
-/
set_option autoImplicit false

namespace Winnow.Pattern
open Winnow.Text

structure Mode where
  ignoreCase : Bool := false
  multiline : Bool := false
  dotAll : Bool := false
  ascii : Bool := false
  template : Bool := false
  deriving DecidableEq, Repr

def Mode.ofFlags (flags : List Flag) : Mode where
  ignoreCase := flags.contains .ignoreCase
  multiline := flags.contains .multiline
  dotAll := flags.contains .dotAll
  ascii := flags.contains .ascii
  template := flags.contains .template

def Mode.switch (m : Mode) (added removed : List Flag) : Mode where
  ignoreCase := (m.ignoreCase || added.contains .ignoreCase) && !removed.contains .ignoreCase
  multiline := (m.multiline || added.contains .multiline) && !removed.contains .multiline
  dotAll := (m.dotAll || added.contains .dotAll) && !removed.contains .dotAll
  ascii := if added.any Flag.isType then added.contains .ascii else m.ascii
  template := m.template

def isAsciiLetter (c : Nat) : Bool := (0x61 ≤ c && c ≤ 0x7A) || (0x41 ≤ c && c ≤ 0x5A)

def asciiLower (c : Nat) : Nat := if 0x41 ≤ c && c ≤ 0x5A then c + 0x20 else c

def Mode.fold (m : Mode) (c : Nat) : Nat :=
  if !m.ignoreCase then c else if m.ascii then asciiLower c else lowerCode c

def CharClass.accepts (ascii : Bool) : CharClass → Nat → Bool
  | .digit, c => if ascii then 0x30 ≤ c && c ≤ 0x39 else isDecimal c
  | .blank, c => if ascii then c == 0x20 || (0x09 ≤ c && c ≤ 0x0D) else isBlank c
  | .word, c =>
    if ascii then isAsciiLetter c || (0x30 ≤ c && c ≤ 0x39) || c == 0x5F else isWordChar c

def Mode.sameChar (m : Mode) (c x : Nat) : Bool :=
  if !m.ignoreCase then x == c
  else if m.ascii then (if isAsciiLetter c then asciiLower x == asciiLower c else x == c)
  else if isCased c then (lowerVariants (lowerCode c)).contains (lowerCode x)
  else x == c

/-- The last code point of the basic plane. Sets treat characters beyond it one by one. -/
def basicLimit : Nat := 0xFFFF

def SetItem.folds (ascii : Bool) : SetItem → Bool
  | .char c => (if ascii then isAsciiLetter c else isCased c) || basicLimit < c
  | .range lo hi =>
    basicLimit < hi ||
      (if ascii then (lo ≤ 0x7A && 0x61 ≤ hi) || (lo ≤ 0x5A && 0x41 ≤ hi) else meetsCasedCode lo hi)
  | .class_ .. => false

def SetItem.accepts (ascii : Bool) : SetItem → Nat → Bool
  | .char c, x => x == c
  | .range lo hi, x => lo ≤ x && x ≤ hi
  | .class_ cls negated, x => cls.accepts ascii x != negated

/-- Whether the item stands for the lower-case `x` when case is ignored. A range beyond the basic plane takes
a character also by its upper-case form, a single character beyond it only as it is. -/
def SetItem.acceptsFolded (ascii : Bool) : SetItem → Nat → Bool
  | .char c, x =>
    if basicLimit < c then x == c
    else if ascii then asciiLower c == x
    else (lowerVariants (lowerCode c)).contains x
  | .range lo hi, x =>
    let within (v : Nat) : Bool := lo ≤ v && v ≤ hi && v ≤ basicLimit
    let sources :=
      if ascii then
        (if asciiLower x == x then [x] else []) ++ (if 0x61 ≤ x && x ≤ 0x7A then [x - 0x20] else [])
      else (lowerVariants x).flatMap lowerPreimages
    sources.any within ||
      (basicLimit < hi && ((lo ≤ x && x ≤ hi) || (lo ≤ upperCode x && upperCode x ≤ hi)))
  | .class_ cls negated, x => cls.accepts ascii x != negated

def Mode.inSet (m : Mode) (negated : Bool) (items : List SetItem) : Nat → Bool :=
  if m.ignoreCase && items.any (·.folds m.ascii) then
    fun x => (items.any fun item => item.acceptsFolded m.ascii (m.fold x)) != negated
  else fun x => (items.any fun item => item.accepts m.ascii x) != negated

end Winnow.Pattern
