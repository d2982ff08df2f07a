import Winnow.FileTree
import Winnow.Shell.Word

/-!
From expanded words to fields. Blanks that come from an unquoted expansion cut a word into fields; what is
unquoted can be a pattern, which stands for the names that it matches.
-/
set_option autoImplicit false

namespace Winnow.Shell

inductive Item
  | glyph (c : Char) (active splits : Bool)
  /-- There is a field here, even if it is empty. -/
  | mark
  | border
  deriving DecidableEq, Repr

abbrev Field := List (Char × Bool)

def Field.text (f : Field) : Text := f.map (·.1)

def writtenItems (t : Text) (quoted : Bool) : List Item :=
  (if quoted then [.mark] else []) ++ t.map fun c => .glyph c (!quoted) false

def valueItems (t : Text) (quoted : Bool) : List Item :=
  (if quoted then [.mark] else []) ++ t.map fun c => .glyph c (!quoted) (!quoted)

def plainText (items : List Item) : Text :=
  items.filterMap fun
    | .glyph c .. => some c
    | .mark => none
    | .border => some ' '

def plainField (items : List Item) : Field :=
  items.filterMap fun
    | .glyph c active _ => some (c, active)
    | _ => none

def fieldsFrom : (current : Option Field) → List Item → List Field
  | current, [] => current.toList
  | current, .mark :: rest => fieldsFrom (some (current.getD [])) rest
  | current, .border :: rest => current.toList ++ fieldsFrom none rest
  | current, .glyph c active splits :: rest =>
    if splits && " \t\n".toList.contains c then current.toList ++ fieldsFrom none rest
    else fieldsFrom (some (current.getD [] ++ [(c, active)])) rest

def fieldsOf (items : List Item) : List Field := fieldsFrom none items

/-! Patterns. -/

inductive Glyph
  | same (c : Char)
  | any
  | many
  | set (negated : Bool) (ranges : List (Char × Char))
  deriving DecidableEq, Repr

def rangesOf : Text → List (Char × Char)
  | a :: '-' :: b :: rest => (a, b) :: rangesOf rest
  | a :: rest => (a, a) :: rangesOf rest
  | [] => []

def set? (f : Field) : Option (Glyph × Field) :=
  let negated := f.head? == some ('!', true) || f.head? == some ('^', true)
  let inner := if negated then f.tail else f
  let closes (p : Char × Bool) : Bool := p == (']', true)
  let first := inner.take 1
  let more := (inner.drop 1).takeWhile fun p => !closes p
  match (inner.drop 1).dropWhile fun p => !closes p with
  | [] => none
  | _ :: rest => some (.set negated (rangesOf (Field.text (first ++ more))), rest)

def glyphs : (fuel : Nat) → Field → List Glyph
  | 0, _ | _, [] => []
  | fuel + 1, (c, active) :: rest =>
    if active && c == '?' then .any :: glyphs fuel rest
    else if active && c == '*' then .many :: glyphs fuel rest
    else match if active && c == '[' then set? rest else none with
      | some (g, rest) => g :: glyphs fuel rest
      | none => .same c :: glyphs fuel rest

def ends : Text → List Text
  | [] => [[]]
  | c :: rest => (c :: rest) :: ends rest

def Glyph.accepts (g : Glyph) (c : Char) : Bool :=
  match g with
  | .same d => c == d
  | .any | .many => true
  | .set negated ranges => ranges.any (fun (a, b) => a ≤ c && c ≤ b) != negated

def allMatch : List Glyph → Text → Bool
  | [], t => t.isEmpty
  | .many :: gs, t => (ends t).any (allMatch gs)
  | g :: gs, c :: t => g.accepts c && allMatch gs t
  | _ :: _, [] => false

def Field.isMatch (f : Field) (t : Text) : Bool := allMatch (glyphs (f.length + 1) f) t

def Field.isPattern (f : Field) : Bool := f.any fun (c, active) => active && "*?[".toList.contains c

/-- The names in the current directory that a field stands for, or its own text. Hidden names want their dot
written. -/
def Field.names (files : Files) (f : Field) : List Text :=
  if !f.isPattern || f.text.contains '/' then [f.text]
  else
    let names := (files.tree.names files.current).map Text.ofString
    let found := names.filter fun n => (n.head? != some '.' || f.text.head? == some '.') && f.isMatch n
    if found.isEmpty then [f.text] else found.mergeSort fun a b => !List.lex b a fun c d => decide (c.toNat < d.toNat)

/-! Cutting off what a pattern matches. -/

def trimFront (f : Field) (longest : Bool) (t : Text) : Text :=
  let lengths := List.range (t.length + 1)
  let lengths := if longest then lengths.reverse else lengths
  match lengths.find? fun n => f.isMatch (t.take n) with
  | some n => t.drop n
  | none => t

def trimBack (f : Field) (longest : Bool) (t : Text) : Text :=
  let lengths := List.range (t.length + 1)
  let lengths := if longest then lengths else lengths.reverse
  match lengths.find? fun n => f.isMatch (t.drop n) with
  | some n => t.take n
  | none => t

end Winnow.Shell
