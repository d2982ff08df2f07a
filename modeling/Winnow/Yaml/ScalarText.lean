import Winnow.Yaml.Cursor
import Winnow.Yaml.Fault

/-!
The text of scalars in its five written forms: plain, between single or double quotes, and as a literal or
folded block. Line ends inside a flow scalar are folded: a single one becomes a space, of several the first
one is dropped.
-/
set_option autoImplicit false

namespace Winnow.Yaml
open Winnow.Text

def foldBreaks (first : Char) (more : List Char) : List Char :=
  (if first != '\n' then [first] else if more.isEmpty then [' '] else []) ++ more

namespace Plain

def ends (inFlow : Bool) (x : Char) (next : Option Char) : Bool :=
  isGap x ||
    (x == ':' && (next.all isGap || (inFlow && next.any fun y => ",[]\x7b\x7d".toList.contains y))) ||
    (inFlow && ",?[]\x7b\x7d".toList.contains x)

def word (inFlow : Bool) : List Char → List Char
  | [] => []
  | x :: rest => if ends inFlow x rest.head? then [] else x :: word inFlow rest

def emptyLines : (fuel : Nat) → (breaks : List Char) → Cursor → Option (List Char) × Cursor
  | 0, breaks, c => (some breaks, c)
  | fuel + 1, breaks, c =>
    if c.sees ' ' then emptyLines fuel breaks c.forward
    else match c.lineBreak? with
      | none => (some breaks, c)
      | some (x, c) => if c.atSeparator then (none, c) else emptyLines fuel (breaks ++ [x]) c

def gap (c : Cursor) : Option (List Char) × Bool × Cursor :=
  let (spaces, c) := c.span (· == ' ')
  match c.lineBreak? with
  | none => (if spaces.isEmpty then none else some spaces, false, c)
  | some (first, c) =>
    if c.atSeparator then (none, true, c)
    else
      let (more, c) := emptyLines (c.rest.length + 1) [] c
      (more.map (foldBreaks first), true, c)

def words (inFlow : Bool) (indent : Nat) : (fuel : Nat) → (done spaces : List Char) → (lineEnded : Bool) →
    Cursor → List Char × Bool × Cursor
  | 0, done, _, lineEnded, c => (done, lineEnded, c)
  | fuel + 1, done, spaces, lineEnded, c =>
    let w := if c.sees '#' then [] else word inFlow c.rest
    if w.isEmpty then (done, lineEnded, c)
    else
      let done := done ++ spaces ++ w
      match gap (c.forwardBy w.length) with
      | (none, lineEnded, c) => (done, lineEnded, c)
      | (some spaces, lineEnded, c) =>
        if c.sees '#' || (!inFlow && c.column < indent) then (done, lineEnded, c)
        else words inFlow indent fuel done spaces lineEnded c

def read (inFlow : Bool) (indent : Nat) (c : Cursor) : CodeText × Bool × Cursor :=
  let (done, lineEnded, c) := words inFlow indent (c.rest.length + 1) [] [] false c
  (done.map Char.toNat, lineEnded, c)

end Plain

namespace Quoted

def escape? : Char → Option Nat
  | '0' => some 0x00
  | 'a' => some 0x07
  | 'b' => some 0x08
  | 't' => some 0x09
  | '\t' => some 0x09
  | 'n' => some 0x0A
  | 'v' => some 0x0B
  | 'f' => some 0x0C
  | 'r' => some 0x0D
  | 'e' => some 0x1B
  | ' ' => some 0x20
  | '"' => some 0x22
  | '\\' => some 0x5C
  | '/' => some 0x2F
  | 'N' => some 0x85
  | '_' => some 0xA0
  | 'L' => some 0x2028
  | 'P' => some 0x2029
  | _ => none

def escapeWidth? : Char → Option Nat
  | 'x' => some 2
  | 'u' => some 4
  | 'U' => some 8
  | _ => none

/-- The empty lines of a quoted scalar. Marks between documents may not stand in it. -/
def emptyLines : (fuel : Nat) → (breaks : List Char) → Cursor → Except Fault (List Char × Cursor)
  | 0, breaks, c => .ok (breaks, c)
  | fuel + 1, breaks, c =>
    if c.atSeparator then .error .malformed
    else
      let c := c.skip fun x => x == ' ' || x == '\t'
      match c.lineBreak? with
      | none => .ok (breaks, c)
      | some (x, c) => emptyLines fuel (breaks ++ [x]) c

/-- The character that an escape names; `c` is at the letter after the backslash. -/
def escape (c : Cursor) : Except Fault (CodeText × Cursor) :=
  match c.next? with
  | none => .error .malformed
  | some x =>
    match escape? x, escapeWidth? x with
    | some code, _ => .ok ([code], c.forward)
    | none, some width =>
      let digits := c.forward.rest.take width
      if digits.length < width || !(digits.all fun d => (Number.digitValue? 16 d).isSome) then
        .error .malformed
      else
        let code := Number.ofDigits 16 (digits.filterMap (Number.digitValue? 16))
        if 0x110000 ≤ code then .error (.badCharacter code)
        else .ok ([code], c.forward.forwardBy width)
    | none, none =>
      match c.lineBreak? with
      | none => .error .malformed
      | some (_, c) => do
        let (breaks, c) ← emptyLines (c.rest.length + 1) [] c
        return (breaks.map Char.toNat, c)

def gap (c : Cursor) : Except Fault (List Char × Cursor) :=
  let (spaces, c) := c.span fun x => x == ' ' || x == '\t'
  match c.next?, c.lineBreak? with
  | none, _ => .error .malformed
  | some _, none => .ok (spaces, c)
  | some _, some (first, c) => do
    let (more, c) ← emptyLines (c.rest.length + 1) [] c
    return (foldBreaks first more, c)

def body (double : Bool) : (fuel : Nat) → (done : CodeText) → Cursor → Except Fault (CodeText × Cursor)
  | 0, _, _ => .error .malformed
  | fuel + 1, done, c =>
    match c.next? with
    | none => .error .malformed
    | some x =>
      if isGap x then do
        let (spaces, c) ← gap c
        body double fuel (done ++ spaces.map Char.toNat) c
      else if double && x == '"' then .ok (done, c.forward)
      else if double && x == '\\' then do
        let (codes, c) ← escape c.forward
        body double fuel (done ++ codes) c
      else if !double && x == '\'' then
        if c.at? 1 == some '\'' then body double fuel (done ++ [0x27]) (c.forwardBy 2)
        else .ok (done, c.forward)
      else body double fuel (done ++ [x.toNat]) c.forward

def read (double : Bool) (c : Cursor) : Except Fault (CodeText × Cursor) :=
  body double (c.rest.length + 1) [] c.forward

end Quoted

namespace Block

/-- What becomes of the line ends after a block: dropped, one kept, or all kept. -/
inductive Chomping
  | strip
  | clip
  | keep
  deriving DecidableEq, Repr

def chomping? (c : Cursor) : Option Chomping :=
  if c.sees '+' then some .keep else if c.sees '-' then some .strip else none

def indentation? (c : Cursor) : Except Fault (Option Nat) :=
  match c.next? with
  | some x =>
    if x == '0' then .error .malformed
    else if x.isDigit then .ok (some (x.toNat - 0x30))
    else .ok none
  | none => .ok none

/-- The header of a block in either order of its indicators; `c` is after the mark of the style. -/
def header (c : Cursor) : Except Fault (Chomping × Option Nat × Cursor) := do
  let (chomping, increment, c) ← match chomping? c with
    | some chomping => do
      let c := c.forward
      match ← indentation? c with
      | some n => pure (chomping, some n, c.forward)
      | none => pure (chomping, none, c)
    | none => do
      match ← indentation? c with
      | none => pure (.clip, none, c)
      | some n =>
        let c := c.forward
        match chomping? c with
        | some chomping => pure (chomping, some n, c.forward)
        | none => pure (.clip, some n, c)
  if !c.atWordEnd then .error .malformed
  let c := c.skipSpaces
  let c := if c.sees '#' then c.skip (!isBreak ·) else c
  if !c.atLineEnd then .error .malformed
  return (chomping, increment, ((c.lineBreak?).map (·.2)).getD c)

/-- The empty lines before a block whose indentation is not given, and the widest indentation among them and
the first line. -/
def leadingLines : (fuel : Nat) → (breaks : List Char) → (widest : Nat) → Cursor → List Char × Nat × Cursor
  | 0, breaks, widest, c => (breaks, widest, c)
  | fuel + 1, breaks, widest, c =>
    if c.sees ' ' then leadingLines fuel breaks (max widest (c.column + 1)) c.forward
    else match c.lineBreak? with
      | some (x, c) => leadingLines fuel (breaks ++ [x]) widest c
      | none => (breaks, widest, c)

def emptyLines (indent : Nat) : (fuel : Nat) → (breaks : List Char) → Cursor → List Char × Cursor
  | 0, breaks, c => (breaks, c)
  | fuel + 1, breaks, c =>
    let c := c.skipIndent indent
    match c.lineBreak? with
    | some (x, c) => emptyLines indent fuel (breaks ++ [x]) c
    | none => (breaks, c)

def startsLine (indent : Nat) (c : Cursor) : Bool := c.column == indent && c.next?.isSome

def atBlank (c : Cursor) : Bool := c.sees ' ' || c.sees '\t'

/-- The lines of a block after the text `done`, which `breaks` follow. Gives the text up to the end of the
last line, this line end, and the empty lines after it. -/
def lines (folded : Bool) (indent : Nat) : (fuel : Nat) → (done breaks : List Char) → Cursor →
    List Char × List Char × List Char × Cursor
  | 0, done, breaks, c => (done, [], breaks, c)
  | fuel + 1, done, breaks, c =>
    if !startsLine indent c then (done, [], breaks, c)
    else
      let indented := atBlank c
      let (line, c) := c.span (!isBreak ·)
      let done := done ++ breaks ++ line
      let (lineEnd, c) := match c.lineBreak? with
        | some (x, c) => ([x], c)
        | none => ([], c)
      let (breaks, c) := emptyLines indent (c.rest.length + 1) [] c
      if startsLine indent c then
        let joined :=
          if folded && lineEnd == ['\n'] && !indented && !atBlank c then
            if breaks.isEmpty then [' '] else []
          else lineEnd
        lines folded indent fuel (done ++ joined) breaks c
      else (done, lineEnd, breaks, c)

/-- A block scalar; `c` is at the mark of its style, and `outer` is the indentation around it. -/
def read (folded : Bool) (outer : Nat) (c : Cursor) : Except Fault (CodeText × Cursor) := do
  let (chomping, increment, c) ← header c.forward
  let least := max outer 1
  let (indent, breaks, c) := match increment with
    | none =>
      let (breaks, widest, c) := leadingLines (c.rest.length + 1) [] 0 c
      (max least widest, breaks, c)
    | some n =>
      let indent := least + n - 1
      let (breaks, c) := emptyLines indent (c.rest.length + 1) [] c
      (indent, breaks, c)
  let (done, lineEnd, breaks, c) := lines folded indent (c.rest.length + 1) [] breaks c
  let text := match chomping with
    | .strip => done
    | .clip => done ++ lineEnd
    | .keep => done ++ lineEnd ++ breaks
  return (text.map Char.toNat, c)

end Block

end Winnow.Yaml
