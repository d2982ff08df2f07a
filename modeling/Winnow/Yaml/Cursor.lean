/-!
Reading places in the text of a data file. Line ends are unified before a text is read, so a line ends at a
line feed, a next-line mark, or one of the two Unicode separators. A cursor knows its line and its column,
on which indentation depends; a byte order mark takes no column.
-/
set_option autoImplicit false

namespace Winnow.Yaml

def isBreak (c : Char) : Bool :=
  c == '\n' || c == Char.ofNat 0x85 || c == Char.ofNat 0x2028 || c == Char.ofNat 0x2029

def isGap (c : Char) : Bool := c == ' ' || c == '\t' || isBreak c

def isNameChar (c : Char) : Bool := c.isAlphanum || c == '-' || c == '_'

def isAllowed (c : Char) : Bool :=
  let n := c.toNat
  n == 0x09 || n == 0x0A || n == 0x0D || (0x20 ≤ n && n ≤ 0x7E) || n == 0x85 ||
    (0xA0 ≤ n && n ≤ 0xFFFD) || 0x10000 ≤ n

structure Cursor where
  rest : List Char
  index : Nat
  line : Nat
  column : Nat

namespace Cursor

def ofString (text : String) : Cursor := ⟨text.toList, 0, 0, 0⟩

def at? (c : Cursor) (n : Nat) : Option Char := c.rest[n]?

def next? (c : Cursor) : Option Char := c.rest.head?

def sees (c : Cursor) (x : Char) : Bool := c.next? == some x

def gapAt (c : Cursor) (n : Nat) : Bool := (c.at? n).all isGap

def atLineEnd (c : Cursor) : Bool := c.next?.all isBreak

def atWordEnd (c : Cursor) : Bool := c.next?.all fun x => x == ' ' || isBreak x

def forward (c : Cursor) : Cursor :=
  match c.rest with
  | [] => c
  | x :: rest =>
    if isBreak x then ⟨rest, c.index + 1, c.line + 1, 0⟩
    else ⟨rest, c.index + 1, c.line, if x == Char.ofNat 0xFEFF then c.column else c.column + 1⟩

def forwardBy : Nat → Cursor → Cursor
  | 0, c => c
  | n + 1, c => forwardBy n c.forward

def span (p : Char → Bool) (c : Cursor) : List Char × Cursor :=
  let taken := c.rest.takeWhile p
  (taken, c.forwardBy taken.length)

def skip (p : Char → Bool) (c : Cursor) : Cursor := (c.span p).2

def skipSpaces (c : Cursor) : Cursor := c.skip (· == ' ')

def skipIndent (limit : Nat) (c : Cursor) : Cursor :=
  c.forwardBy (min (c.rest.takeWhile (· == ' ')).length (limit - c.column))

/-- Passes the end of a line, if the line ends here. A next-line mark counts as a line feed. -/
def lineBreak? (c : Cursor) : Option (Char × Cursor) :=
  match c.next? with
  | some x => if isBreak x then some (if x == Char.ofNat 0x85 then '\n' else x, c.forward) else none
  | none => none

def atSeparator (c : Cursor) : Bool :=
  (c.rest.take 3 == "---".toList || c.rest.take 3 == "...".toList) && c.gapAt 3

end Cursor

end Winnow.Yaml
