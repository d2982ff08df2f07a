import Winnow.Text.Utf8

/-!
Words of the shell. A shell knows bytes and no characters, so its text has one character for each byte. A word
is made of parts: text as it stands, and places where a parameter, the output of a script or the value of an
arithmetic expression goes. Quotes decide what becomes of a part later: only what is unquoted is split into
fields and can be a pattern.
-/
set_option autoImplicit false

namespace Winnow.Shell

abbrev Text := List Char

def Text.ofBytes (bytes : ByteArray) : Text := bytes.data.toList.map fun b => Char.ofNat b.toNat

def Text.ofString (s : String) : Text := .ofBytes s.toUTF8

def Text.toBytes (t : Text) : List UInt8 := t.map fun c => UInt8.ofNat c.toNat

def Text.toName (t : Text) : String := Text.decodeReplacing t.toBytes

def Text.ofNat (n : Nat) : Text := (toString n).toList

def Text.ofInt (n : Int) : Text := (toString n).toList

def Text.cut (at_ : Char) (t : Text) : Text × Option Text :=
  match t.dropWhile (· != at_) with
  | [] => (t, none)
  | _ :: rest => (t.takeWhile (· != at_), some rest)

inductive Part
  | text (text : Text) (quoted : Bool)
  /-- The value of a parameter, treated as an operator with an operand says, if there is one. -/
  | parameter (name operator operand : Text) (quoted : Bool)
  | output (script : Text) (quoted : Bool)
  | arithmetic (expression : Text) (quoted : Bool)
  deriving DecidableEq, Repr

abbrev Word := List Part

def Word.bare? : Word → Option Text
  | [.text t false] => some t
  | _ => none

def isNameStart (c : Char) : Bool := c.isAlpha || c == '_'

def isNameRest (c : Char) : Bool := c.isAlphanum || c == '_'

/-- The text before the closing bracket that matches one already open, and the text after it. Brackets within
quotes and behind backslashes do not count. -/
def untilClose (opening closing : Char) :
    (depth : Nat) → (quote : Option Char) → Text → Option (Text × Text)
  | _, _, [] => none
  | depth, quote, '\\' :: c :: rest =>
    (untilClose opening closing depth quote rest).map fun (t, r) => ('\\' :: c :: t, r)
  | depth, some q, c :: rest =>
    (untilClose opening closing depth (if c == q then none else some q) rest).map fun (t, r) => (c :: t, r)
  | depth, none, c :: rest =>
    if c == closing && depth == 0 then some ([], rest)
    else
      let depth := if c == opening then depth + 1 else if c == closing then depth - 1 else depth
      let quote := if c == '\'' || c == '"' then some c else none
      (untilClose opening closing depth quote rest).map fun (t, r) => (c :: t, r)

def bracedParameter (inner : Text) (quoted : Bool) : Part :=
  match inner with
  | '#' :: c :: name => .parameter (c :: name) ['#'] [] quoted
  | c :: rest =>
    let name := if isNameStart c then c :: rest.takeWhile isNameRest
      else if c.isDigit then c :: rest.takeWhile Char.isDigit
      else [c]
    match inner.drop name.length with
    | ':' :: o :: operand => .parameter name [':', o] operand quoted
    | '%' :: '%' :: operand => .parameter name ['%', '%'] operand quoted
    | '#' :: '#' :: operand => .parameter name ['#', '#'] operand quoted
    | o :: operand => .parameter name [o] operand quoted
    | [] => .parameter name [] [] quoted
  | [] => .text "$\x7b\x7d".toList quoted

inductive WordFault
  | quote
  | bracket
  | brace
  | backquote
  deriving DecidableEq, Repr

def WordFault.message : WordFault → String
  | .quote => "Unterminated quoted string"
  | .bracket => "end of file unexpected (expecting \")\")"
  | .brace => "Missing '\x7d'"
  | .backquote => "EOF in backquote substitution"

abbrev WordReading := Except WordFault

def orFault {α : Type} (fault : WordFault) : Option α → WordReading α
  | some a => .ok a
  | none => .error fault

def dollar (quoted : Bool) : Text → WordReading (Part × Text)
  | '(' :: rest => do
    let (inner, rest) ← orFault .bracket (untilClose '(' ')' 0 none rest)
    match inner, inner.getLast? with
    | '(' :: expression, some ')' => return (.arithmetic expression.dropLast quoted, rest)
    | _, _ => return (.output inner quoted, rest)
  | '{' :: rest => do
    let (inner, rest) ← orFault .brace (untilClose '{' '}' 0 none rest)
    return (bracedParameter inner quoted, rest)
  | c :: rest =>
    if isNameStart c then
      .ok (.parameter (c :: rest.takeWhile isNameRest) [] [] quoted, rest.dropWhile isNameRest)
    else if c.isDigit || "@*#?$!-".toList.contains c then .ok (.parameter [c] [] [] quoted, rest)
    else .ok (.text ['$'] quoted, c :: rest)
  | [] => .ok (.text ['$'] quoted, [])

def backquoted : Text → WordReading (Text × Text)
  | [] => .error .backquote
  | '\\' :: c :: rest => do
    let (t, r) ← backquoted rest
    return (if c == '\\' || c == '$' || c.toNat == 0x60 then c :: t else '\\' :: c :: t, r)
  | c :: rest =>
    if c.toNat == 0x60 then .ok ([], rest)
    else do
      let (t, r) ← backquoted rest
      return (c :: t, r)

def Word.push (quoted : Bool) (c : Char) : Word → Word
  | .text t q :: rest => if q == quoted then .text (c :: t) q :: rest else .text [c] quoted :: .text t q :: rest
  | w => .text [c] quoted :: w

inductive Extent
  | quote
  | document
  | operand
  deriving DecidableEq, Repr

def inDouble (extent : Extent) : (fuel : Nat) → Text → WordReading (Word × Text)
  | 0, _ => .error .quote
  | _ + 1, [] => if extent == .quote then .error .quote else .ok ([], [])
  | fuel + 1, '\\' :: c :: rest => do
    let (w, r) ← inDouble extent fuel rest
    if c == '\n' then return (w, r)
    else if "$\"\\".toList.contains c || c.toNat == 0x60 then return (w.push true c, r)
    else return ((w.push true c).push true '\\', r)
  | fuel + 1, '$' :: rest => do
    let (part, rest) ← dollar true rest
    let (w, r) ← inDouble extent fuel rest
    return (part :: w, r)
  | fuel + 1, c :: rest =>
    if c == '"' && extent == .quote then .ok ([], rest)
    else if c == '"' && extent == .operand then inDouble extent fuel rest
    else if c.toNat == 0x60 then do
      let (script, rest) ← backquoted rest
      let (w, r) ← inDouble extent fuel rest
      return (.output script true :: w, r)
    else do
      let (w, r) ← inDouble extent fuel rest
      return (w.push true c, r)

def endsWord (c : Char) : Bool := " \t\n;&|<>()".toList.contains c

def readWord (whole : Bool) : (fuel : Nat) → Text → WordReading (Word × Text)
  | 0, _ => .error .quote
  | _ + 1, [] => .ok ([], [])
  | fuel + 1, '\\' :: c :: rest => do
    let (w, r) ← readWord whole fuel rest
    return (if c == '\n' then w else .text [c] true :: w, r)
  | fuel + 1, '\'' :: rest => do
    match Text.cut '\'' rest with
    | (_, none) => throw .quote
    | (inner, some rest) =>
      let (w, r) ← readWord whole fuel rest
      return (.text inner true :: w, r)
  | fuel + 1, '"' :: rest => do
    let (inner, rest) ← inDouble .quote fuel rest
    let (w, r) ← readWord whole fuel rest
    return ((if inner.isEmpty then [.text [] true] else inner) ++ w, r)
  | fuel + 1, '$' :: rest => do
    let (part, rest) ← dollar false rest
    let (w, r) ← readWord whole fuel rest
    return (part :: w, r)
  | fuel + 1, c :: rest =>
    if endsWord c && !whole then .ok ([], c :: rest)
    else if c.toNat == 0x60 then do
      let (script, rest) ← backquoted rest
      let (w, r) ← readWord whole fuel rest
      return (.output script false :: w, r)
    else do
      let (w, r) ← readWord whole fuel rest
      return (w.push false c, r)

end Winnow.Shell
