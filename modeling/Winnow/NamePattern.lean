/-!
Patterns for file names. An asterisk stands for any text, a question mark for any character, and characters
in brackets for one of them, or for any other one after an exclamation mark. Everything else stands for
itself, an opening bracket without a closing one too.
-/
set_option autoImplicit false

namespace Winnow

structure CharRange where
  first : Char
  last : Char
  deriving DecidableEq, Repr

namespace CharRange

def single (c : Char) : CharRange := ⟨c, c⟩

def isEmpty (r : CharRange) : Bool := decide (r.last < r.first)

def contains (r : CharRange) (c : Char) : Bool := decide (r.first ≤ c) && decide (c ≤ r.last)

end CharRange

namespace NamePattern

inductive Part
  | star
  | any
  | oneOf (negated : Bool) (ranges : List CharRange)
  deriving DecidableEq, Repr

def Part.char (c : Char) : Part := .oneOf false [.single c]

/-- The characters and ranges between brackets. A hyphen makes a range if a character stands on each side. -/
def ranges : List Char → List CharRange
  | a :: '-' :: b :: rest => ⟨a, b⟩ :: ranges rest
  | c :: rest => .single c :: ranges rest
  | [] => []

/-- The set that a text between brackets writes. An exclamation mark in front of what is left without empty
ranges negates it, and loses its place as a member. -/
def set (body : List Char) : Part :=
  match body with
  | '!' :: rest => .oneOf true (ranges rest)
  | _ =>
    let all := ranges body
    match all.filter (!·.isEmpty) with
    | ⟨'!', last⟩ :: rest => .oneOf true (if last == '!' then rest else .single '-' :: .single last :: rest)
    | left => .oneOf false left

/-- The text between brackets and what follows, if there is a closing bracket. One directly after the opening,
or after an exclamation mark there, is a member. -/
def bracketed? (cs : List Char) : Option (List Char × List Char) :=
  let lead := match cs with
    | '!' :: ']' :: _ => 2
    | '!' :: _ => 1
    | ']' :: _ => 1
    | _ => 0
  let more := (cs.drop lead).takeWhile (· != ']')
  let body := cs.take (lead + more.length)
  match cs.drop body.length with
  | ']' :: rest => some (body, rest)
  | _ => none

/-- The parts of a pattern; `fuel` bounds its length. -/
def partsOf : (fuel : Nat) → List Char → List Part
  | 0, _ => []
  | _, [] => []
  | fuel + 1, '*' :: rest =>
    match partsOf fuel rest with
    | .star :: parts => .star :: parts
    | parts => .star :: parts
  | fuel + 1, '?' :: rest => .any :: partsOf fuel rest
  | fuel + 1, '[' :: rest =>
    match bracketed? rest with
    | some (body, rest) => set body :: partsOf fuel rest
    | none => .char '[' :: partsOf fuel rest
  | fuel + 1, c :: rest => .char c :: partsOf fuel rest

def Part.accepts (p : Part) (c : Char) : Bool :=
  match p with
  | .star | .any => true
  | .oneOf negated ranges => (ranges.any (·.contains c)) != negated

def accepts : List Part → List Char → Bool
  | [], cs => cs.isEmpty
  | .star :: parts, [] => accepts parts []
  | .star :: parts, c :: cs => accepts parts (c :: cs) || accepts (.star :: parts) cs
  | _ :: _, [] => false
  | part :: parts, c :: cs => part.accepts c && accepts parts cs
termination_by parts cs => parts.length + cs.length

end NamePattern

def NamePattern.ofString (pattern : String) : List NamePattern.Part :=
  partsOf pattern.length pattern.toList

def NamePattern.accept (pattern name : String) : Bool := accepts (ofString pattern) name.toList

end Winnow
