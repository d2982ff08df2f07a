import Winnow.Yaml.Fault

/-!
Tags, and the tags that plain scalars have by their form. A plain scalar counts as the first of these that
it looks like: a truth value, a number with a point, an integer, the merge mark, nothing, a date, or the
value mark; otherwise it is text.
-/
set_option autoImplicit false

namespace Winnow.Yaml
open Winnow.Text

inductive Tag
  | null
  | bool
  | int
  | float
  | binary
  | timestamp
  | orderedMap
  | pairs
  | set
  | str
  | seq
  | map
  | merge
  | value
  | unknown
  deriving DecidableEq, Repr

namespace Tag

def coreLead : String := "tag:yaml.org,2002:"

def ofUri (uri : String) : Tag :=
  match [("null", null), ("bool", bool), ("int", int), ("float", float), ("binary", binary),
      ("timestamp", timestamp), ("omap", orderedMap), ("pairs", pairs), ("set", set), ("str", str),
      ("seq", seq), ("map", map), ("merge", merge), ("value", value)].find? (fun t => coreLead ++ t.1 == uri)
    with
  | some (_, tag) => tag
  | none => unknown

end Tag

/-! Forms of plain scalars. -/

namespace Form

def isDigitOrLine (c : Char) : Bool := c.isDigit || c == '_'

def unsigned : List Char → List Char
  | '+' :: rest => rest
  | '-' :: rest => rest
  | cs => cs

def digits? : List Char → Option (List Char)
  | c :: rest => if c.isDigit then some (rest.dropWhile isDigitOrLine) else none
  | [] => none

def endsInExponent : List Char → Bool
  | [] => true
  | e :: sign :: rest =>
    (e == 'e' || e == 'E') && (sign == '+' || sign == '-') && !rest.isEmpty && rest.all Char.isDigit
  | _ => false

/-- Parts below sixty, each after a colon, and what follows; `seen` tells whether there was one already. -/
def sixties (seen : Bool) : List Char → Option (List Char)
  | ':' :: a :: b :: rest =>
    if !a.isDigit then if seen then some (':' :: a :: b :: rest) else none
    else if b.isDigit && a ≤ '5' then sixties true rest
    else sixties true (b :: rest)
  | [':', a] => if a.isDigit then some [] else if seen then some [':', a] else none
  | rest => if seen then some rest else none

def isWord (words : List String) (cs : List Char) : Bool := words.contains (String.ofList cs)

def isBool : List Char → Bool :=
  isWord ["yes", "Yes", "YES", "no", "No", "NO", "true", "True", "TRUE", "false", "False", "FALSE",
    "on", "On", "ON", "off", "Off", "OFF"]

def isNull : List Char → Bool := isWord ["~", "null", "Null", "NULL", ""]

def isFloat (cs : List Char) : Bool :=
  let body := unsigned cs
  let decimal : Bool := match digits? body with
    | some ('.' :: rest) => endsInExponent (rest.dropWhile isDigitOrLine)
    | _ => false
  let fraction : Bool := match cs with
    | '.' :: rest => (digits? rest).any endsInExponent
    | _ => false
  let sexagesimal : Bool := match (digits? body).bind (sixties false) with
    | some ('.' :: rest) => rest.all isDigitOrLine
    | _ => false
  decimal || fraction || sexagesimal || isWord [".inf", ".Inf", ".INF"] body ||
    isWord [".nan", ".NaN", ".NAN"] cs

def isInt (cs : List Char) : Bool :=
  match unsigned cs with
  | ['0'] => true
  | '0' :: 'b' :: rest => !rest.isEmpty && rest.all fun c => c == '0' || c == '1' || c == '_'
  | '0' :: 'x' :: rest => !rest.isEmpty && rest.all fun c => c == '_' || (Number.digitValue? 16 c).isSome
  | '0' :: rest => rest.all fun c => c == '_' || (Number.digitValue? 8 c).isSome
  | body =>
    match digits? body with
    | some [] => true
    | some rest => sixties false rest == some []
    | none => false

end Form

/-- The fields of a date as they are written. The time is missing or has three fields, a fraction and an
offset. -/
structure DateText where
  year : List Char
  month : List Char
  day : List Char
  time : Option (List Char × List Char × List Char)
  fraction : List Char
  offset : Option (Bool × List Char × List Char)

namespace DateText

def oneOrTwo (cs : List Char) : Option (List Char × List Char) :=
  match cs with
  | a :: b :: rest =>
    if !a.isDigit then none else if b.isDigit then some ([a, b], rest) else some ([a], b :: rest)
  | [a] => if a.isDigit then some ([a], []) else none
  | [] => none

def exactly (n : Nat) (cs : List Char) : Option (List Char × List Char) :=
  let ds := cs.take n
  if ds.length == n && ds.all Char.isDigit then some (ds, cs.drop n) else none

def mark (c : Char) : List Char → Option (List Char)
  | x :: rest => if x == c then some rest else none
  | [] => none

def isBlankChar (c : Char) : Bool := c == ' ' || c == '\t'

/-- The offset at the end of a date: nothing, the letter of universal time, or hours and minutes. -/
def offset? (cs : List Char) : Option (Option (Bool × List Char × List Char)) :=
  if cs.isEmpty then some none
  else match cs.dropWhile isBlankChar with
    | ['Z'] => some none
    | sign :: rest => do
      if sign != '+' && sign != '-' then none
      let (hours, rest) ← oneOrTwo rest
      match rest with
      | [] => return some (sign == '-', hours, [])
      | ':' :: rest =>
        let (minutes, rest) ← exactly 2 rest
        if rest.isEmpty then return some (sign == '-', hours, minutes) else none
      | _ => none
    | [] => none

def ofChars (cs : List Char) : Option DateText := do
  let (year, rest) ← exactly 4 cs
  let (month, rest) ← oneOrTwo (← mark '-' rest)
  let (day, rest) ← oneOrTwo (← mark '-' rest)
  match rest with
  | [] => return ⟨year, month, day, none, [], none⟩
  | x :: more =>
    let rest := if x == 'T' || x == 't' then more else rest.dropWhile isBlankChar
    if rest.length == (x :: more).length then none
    let (hour, rest) ← oneOrTwo rest
    let (minute, rest) ← exactly 2 (← mark ':' rest)
    let (second, rest) ← exactly 2 (← mark ':' rest)
    let (fraction, rest) := match rest with
      | '.' :: rest => (rest.takeWhile Char.isDigit, rest.dropWhile Char.isDigit)
      | _ => ([], rest)
    return ⟨year, month, day, some (hour, minute, second), fraction, ← offset? rest⟩

/-- Whether a plain scalar with these fields counts as a date: a date without a time needs two digits for
month and day. -/
def isPlain (d : DateText) : Bool := d.time.isSome || (d.month.length == 2 && d.day.length == 2)

end DateText

def formChars (text : CodeText) : List Char :=
  let cs := text.map fun c => if isSurrogate c then Char.ofNat 0xFFFD else Char.ofNat c
  if 1 < cs.length && cs.getLast? == some '\n' then cs.dropLast else cs

def Tag.ofForm (text : CodeText) : Tag :=
  let cs := formChars text
  if Form.isBool cs then .bool
  else if Form.isFloat cs then .float
  else if Form.isInt cs then .int
  else if cs == "<<".toList then .merge
  else if Form.isNull cs then .null
  else if (DateText.ofChars cs).any (·.isPlain) then .timestamp
  else if cs == ['='] then .value
  else if cs == ['!'] || cs == ['&'] || cs == ['*'] then .unknown
  else .str

end Winnow.Yaml
