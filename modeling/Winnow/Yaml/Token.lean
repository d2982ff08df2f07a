import Winnow.Yaml.ScalarText
import Winnow.Text.Utf8

/-!
The tokens of a data file. Indentation shows as tokens that open and close block collections. A key need not
be marked as such: what could be one is remembered until its colon comes, and then the mark is put in front
of it. Text that is no token ends the sequence with its fault.
-/
set_option autoImplicit false

namespace Winnow.Yaml
open Winnow.Text

inductive Directive
  | version (major : Nat)
  | tag (handle lead : String)
  | other
  deriving DecidableEq, Repr

inductive Token
  | directive (d : Directive)
  | documentStart
  | documentEnd
  | streamEnd
  | blockSequenceStart
  | blockMappingStart
  | blockEnd
  | flowSequenceStart
  | flowSequenceEnd
  | flowMappingStart
  | flowMappingEnd
  | key
  | value
  | blockEntry
  | flowEntry
  | alias (name : String)
  | anchor (name : String)
  | tag (handle : Option String) (suffix : String)
  | scalar (text : CodeText) (plain : Bool)
  | fault (f : Fault)
  deriving DecidableEq, Repr

namespace Token

def name (c : Cursor) : Except Fault (String × Cursor) :=
  let (cs, c) := c.forward.span isNameChar
  if cs.isEmpty then .error .malformed
  else if c.next?.all fun x => isGap x || "?:,]\x7d%@".toList.contains x || x == Char.ofNat 0x60 then
    .ok (String.ofList cs, c)
  else .error .malformed

def handle (c : Cursor) : Except Fault (String × Cursor) :=
  if !c.sees '!' then .error .malformed
  else if c.at? 1 == some ' ' then .ok ("!", c.forward)
  else
    let (cs, after) := c.forward.span isNameChar
    if after.sees '!' then .ok (String.ofList ('!' :: cs ++ ['!']), after.forward)
    else .error .malformed

def isUriChar (c : Char) : Bool := c.isAlphanum || "-;/?:@&=+$,_.!~*'()[]".toList.contains c

def uriBytes : List Char → Option (List UInt8 × List Char)
  | '%' :: rest =>
    match rest with
    | x :: y :: rest =>
      match Number.digitValue? 16 x, Number.digitValue? 16 y with
      | some a, some b => (uriBytes rest).map fun (bytes, rest) => (UInt8.ofNat (16 * a + b) :: bytes, rest)
      | _, _ => none
    | _ => none
  | rest => some ([], rest)

def uri : (fuel : Nat) → (done : List Char) → Cursor → Except Fault (String × Cursor)
  | 0, _, _ => .error .malformed
  | fuel + 1, done, c =>
    let (cs, c) := c.span isUriChar
    let done := done ++ cs
    if c.sees '%' then
      match uriBytes c.rest with
      | none => .error .malformed
      | some (bytes, rest) =>
        match decode bytes with
        | .error _ => .error .malformed
        | .ok text => uri fuel (done ++ text.toList) (c.forwardBy (c.rest.length - rest.length))
    else if done.isEmpty then .error .malformed
    else .ok (String.ofList done, c)

def uriAt (c : Cursor) : Except Fault (String × Cursor) := uri (c.rest.length + 1) [] c

def tagAt (c : Cursor) : Except Fault (Token × Cursor) := do
  let (token, c) ←
    if c.at? 1 == some '<' then do
      let (suffix, c) ← uriAt (c.forwardBy 2)
      if c.sees '>' then pure (Token.tag none suffix, c.forward) else throw .malformed
    else if c.gapAt 1 then pure (Token.tag none "!", c.forward)
    else do
      let word := c.forward.rest.takeWhile fun x => !(x == ' ' || isBreak x)
      let (h, c) ← if word.contains '!' then handle c else pure ("!", c.forward)
      let (suffix, c) ← uriAt c
      pure (Token.tag (some h) suffix, c)
  if c.atWordEnd then return (token, c) else throw .malformed

def number (c : Cursor) : Except Fault (Nat × Cursor) :=
  let (digits, c) := c.span Char.isDigit
  if digits.isEmpty then .error .malformed
  else if Number.digitLimit < digits.length then .error (.badNumber (.tooManyDigits digits.length))
  else .ok (Number.ofDigits 10 (digits.map fun d => d.toNat - 0x30), c)

def directiveAt (c : Cursor) : Except Fault (Token × Cursor) := do
  let (name, c) := c.forward.span isNameChar
  if name.isEmpty || !c.atWordEnd then throw .malformed
  let (found, c) ←
    if name == "YAML".toList then do
      let (major, c) ← number c.skipSpaces
      if !c.sees '.' then throw .malformed
      let (_, c) ← number c.forward
      if !c.atWordEnd then throw .malformed
      pure (Directive.version major, c)
    else if name == "TAG".toList then do
      let (h, c) ← handle c.skipSpaces
      if !c.sees ' ' then throw .malformed
      let (lead, c) ← uriAt c.skipSpaces
      if !c.atWordEnd then throw .malformed
      pure (Directive.tag h lead, c)
    else pure (Directive.other, c.skip (!isBreak ·))
  let c := c.skipSpaces
  let c := if c.sees '#' then c.skip (!isBreak ·) else c
  if !c.atLineEnd then throw .malformed
  return (.directive found, ((c.lineBreak?).map (·.2)).getD c)

end Token

structure PendingKey where
  position : Nat
  required : Bool
  index : Nat
  line : Nat
  column : Nat

/-- The greatest number of characters between the beginning of an unmarked key and its colon. -/
def keyLimit : Nat := 1024

structure Scan where
  cursor : Cursor
  tokens : Array Token
  flow : Nat
  /-- One more than the column of the innermost block collection, or zero outside of all. -/
  indent : Nat
  outer : List Nat
  keyAllowed : Bool
  /-- What could still turn out to be a key, by the number of open flow collections. -/
  pending : List (Nat × PendingKey)

namespace Scan

def ofString (text : String) : Scan := ⟨.ofString text, #[], 0, 0, [], true, []⟩

def push (s : Scan) (t : Token) : Scan := { s with tokens := s.tokens.push t }

def take (s : Scan) (t : Token) (c : Cursor) : Scan := { s.push t with cursor := c }

def inFlow (s : Scan) : Bool := s.flow != 0

def dropStale (s : Scan) : Except Fault Scan :=
  let isStale (k : PendingKey) : Bool := k.line != s.cursor.line || keyLimit < s.cursor.index - k.index
  if s.pending.any fun k => isStale k.2 && k.2.required then .error .malformed
  else .ok { s with pending := s.pending.filter fun k => !isStale k.2 }

def dropKey (s : Scan) : Except Fault Scan :=
  match s.pending.lookup s.flow with
  | some k =>
    if k.required then .error .malformed
    else .ok { s with pending := s.pending.filter fun k => k.1 != s.flow }
  | none => .ok s

def markKey (s : Scan) : Except Fault Scan :=
  if s.keyAllowed then do
    let s ← s.dropKey
    let c := s.cursor
    let k : PendingKey :=
      ⟨s.tokens.size, !s.inFlow && s.indent == c.column + 1, c.index, c.line, c.column⟩
    return { s with pending := (s.flow, k) :: s.pending }
  else .ok s

def closeTo (depth : Nat) : (fuel : Nat) → Scan → Scan
  | 0, s => s
  | fuel + 1, s =>
    if s.inFlow || s.indent ≤ depth then s
    else closeTo depth fuel { s.push .blockEnd with indent := s.outer.headD 0, outer := s.outer.tail }

def unwind (s : Scan) (depth : Nat) : Scan := closeTo depth (s.outer.length + 1) s

def indentTo (s : Scan) (column : Nat) : Option Scan :=
  if s.indent ≤ column then some { s with outer := s.indent :: s.outer, indent := column + 1 } else none

def openBlock (s : Scan) (t : Token) : Except Fault Scan :=
  if s.inFlow then .ok s
  else if !s.keyAllowed then .error .malformed
  else match s.indentTo s.cursor.column with
    | some s => .ok (s.push t)
    | none => .ok s

/-- Skips spaces, comments and line ends. Outside flow collections a key may begin on a new line. -/
def skipBlank : (fuel : Nat) → Scan → Scan
  | 0, s => s
  | fuel + 1, s =>
    let c := s.cursor.skipSpaces
    let c := if c.sees '#' then c.skip (!isBreak ·) else c
    match c.lineBreak? with
    | some (_, c) => skipBlank fuel { s with cursor := c, keyAllowed := s.keyAllowed || !s.inFlow }
    | none => { s with cursor := c }

def single (s : Scan) (t : Token) : Scan := s.take t s.cursor.forward

def outermost (s : Scan) (t : Token) (c : Cursor) : Except Fault Scan := do
  let s ← (s.unwind 0).dropKey
  return { s.take t c with keyAllowed := false }

def openFlow (s : Scan) (t : Token) : Except Fault Scan := do
  let s ← s.markKey
  return { s.single t with flow := s.flow + 1, keyAllowed := true }

def closeFlow (s : Scan) (t : Token) : Except Fault Scan := do
  let s ← s.dropKey
  return { s.single t with flow := s.flow - 1, keyAllowed := false }

def flowEntry (s : Scan) : Except Fault Scan := do
  let s ← s.dropKey
  return { s.single .flowEntry with keyAllowed := true }

def blockEntry (s : Scan) : Except Fault Scan := do
  let s ← s.openBlock .blockSequenceStart
  let s ← s.dropKey
  return { s.single .blockEntry with keyAllowed := true }

def markedKey (s : Scan) : Except Fault Scan := do
  let s ← s.openBlock .blockMappingStart
  let s ← { s with keyAllowed := !s.inFlow }.dropKey
  return s.single .key

/-- A colon. What could be a key before it is one, and opens a block mapping if it is indented deeper than
all others. -/
def mappingValue (s : Scan) : Except Fault Scan :=
  match s.pending.lookup s.flow with
  | some k =>
    let s := { s with
      pending := s.pending.filter fun k => k.1 != s.flow
      tokens := s.tokens.insertIdxIfInBounds k.position .key
      keyAllowed := false }
    let s := if s.inFlow then s else
      match s.indentTo k.column with
      | some s => { s with tokens := s.tokens.insertIdxIfInBounds k.position .blockMappingStart }
      | none => s
    .ok (s.single .value)
  | none => do
    let s ← s.openBlock .blockMappingStart
    let s ← { s with keyAllowed := !s.inFlow }.dropKey
    return s.single .value

def keyStart (s : Scan) (read : Cursor → Except Fault (Token × Cursor)) : Except Fault Scan := do
  let s ← s.markKey
  let (t, c) ← read s.cursor
  return { s.take t c with keyAllowed := false }

def blockScalar (s : Scan) (folded : Bool) : Except Fault Scan := do
  let s ← s.dropKey
  let (text, c) ← Block.read folded s.indent s.cursor
  return { s.take (.scalar text false) c with keyAllowed := true }

def plainScalar (s : Scan) : Except Fault Scan := do
  let s ← s.markKey
  let (text, lineEnded, c) := Plain.read s.inFlow s.indent s.cursor
  return { s.take (.scalar text true) c with keyAllowed := lineEnded }

def indicators : List Char := Char.ofNat 0x60 :: "-?:,[]\x7b\x7d#&*!|>'\"%@".toList

def atPlain (s : Scan) (x : Char) : Bool :=
  (!isGap x && !indicators.contains x) ||
    (!s.cursor.gapAt 1 && (x == '-' || (!s.inFlow && (x == '?' || x == ':'))))

def token (s : Scan) (x : Char) : Except Fault Scan :=
  let c := s.cursor
  let quoted (double : Bool) : Except Fault Scan := s.keyStart fun c => do
    let (text, c) ← Quoted.read double c
    return (.scalar text false, c)
  let gap := c.gapAt 1
  if x == '%' && c.column == 0 then do
    let (t, c) ← Token.directiveAt c
    s.outermost t c
  else if c.column == 0 && c.atSeparator then
    s.outermost (if x == '-' then .documentStart else .documentEnd) (c.forwardBy 3)
  else if x == '[' then s.openFlow .flowSequenceStart
  else if x == '\x7b' then s.openFlow .flowMappingStart
  else if x == ']' then s.closeFlow .flowSequenceEnd
  else if x == '\x7d' then s.closeFlow .flowMappingEnd
  else if x == ',' then s.flowEntry
  else if x == '-' && gap then s.blockEntry
  else if x == '?' && (s.inFlow || gap) then s.markedKey
  else if x == ':' && (s.inFlow || gap) then s.mappingValue
  else if x == '*' then s.keyStart fun c => do
    let (name, c) ← Token.name c
    return (.alias name, c)
  else if x == '&' then s.keyStart fun c => do
    let (name, c) ← Token.name c
    return (.anchor name, c)
  else if x == '!' then s.keyStart Token.tagAt
  else if x == '|' && !s.inFlow then s.blockScalar false
  else if x == '>' && !s.inFlow then s.blockScalar true
  else if x == '\'' then quoted false
  else if x == '"' then quoted true
  else if s.atPlain x then s.plainScalar
  else .error .malformed

def next (s : Scan) : Except Fault (Scan × Bool) := do
  let s ← (skipBlank (s.cursor.rest.length + 1) s).dropStale
  let s := s.unwind (s.cursor.column + 1)
  match s.cursor.next? with
  | some x => return (← s.token x, true)
  | none =>
    let s ← (s.unwind 0).dropKey
    return (s.push .streamEnd, false)

def all : (fuel : Nat) → Scan → Array Token
  | 0, s => s.tokens
  | fuel + 1, s =>
    match s.next with
    | .error f => s.tokens.push (.fault f)
    | .ok (s, true) => all fuel s
    | .ok (s, false) => s.tokens

end Scan

def tokens (text : String) : List Token :=
  if !text.toList.all isAllowed then [.fault .malformed]
  else
    let c := Cursor.ofString text
    let c := if c.sees (Char.ofNat 0xFEFF) then c.forward else c
    (Scan.all (text.length + 2) { Scan.ofString text with cursor := c }).toList

end Winnow.Yaml
