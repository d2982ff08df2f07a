/-!
Search patterns as trees. A pattern is a sequence of nodes; a group, a repetition or a look-around holds
sequences of its own. Characters are code points, so that an escape may name a surrogate, which no text
contains.
-/
set_option autoImplicit false

namespace Winnow.Pattern

inductive CharClass
  | digit
  | blank
  | word
  deriving DecidableEq, Repr

inductive SetItem
  | char (c : Nat)
  | range (lo hi : Nat)
  | class_ (cls : CharClass) (negated : Bool)
  deriving DecidableEq, Repr

inductive Anchor
  | lineStart
  /-- The end of the text, before a line feed that ends it, or the end of a line when lines count. -/
  | lineEnd
  | textStart
  | textEnd
  | wordEdge
  | noWordEdge
  deriving DecidableEq, Repr

inductive RepeatMode
  | greedy
  | lazy
  | possessive
  deriving DecidableEq, Repr

inductive Flag
  | ignoreCase
  | locale
  | multiline
  | dotAll
  | verbose
  | ascii
  | template
  | unicode
  deriving DecidableEq, Repr

def Flag.ofCode? (c : Nat) : Option Flag :=
  match Char.ofNat c with
  | 'i' => some .ignoreCase
  | 'L' => some .locale
  | 'm' => some .multiline
  | 's' => some .dotAll
  | 'x' => some .verbose
  | 'a' => some .ascii
  | 't' => some .template
  | 'u' => some .unicode
  | _ => none

/-- Flags that say which characters the classes take; only one of them may be set at a time. -/
def Flag.isType : Flag → Bool
  | .ascii | .locale | .unicode => true
  | _ => false

inductive Node
  | char (c : Nat)
  | notChar (c : Nat)
  | any
  | set (negated : Bool) (items : List SetItem)
  | anchor (a : Anchor)
  | repeat_ (mode : RepeatMode) (min : Nat) (max : Option Nat) (body : List Node)
  /-- A group with its number, if it captures, and the flags switched on and off inside. -/
  | group (number : Option Nat) (added removed : List Flag) (body : List Node)
  | atomic (body : List Node)
  | alternation (branches : List (List Node))
  | look (behind negated : Bool) (body : List Node)
  | backReference (number : Nat)
  | conditional (number : Nat) (yes : List Node) (no : Option (List Node))

def Node.sameLeaf : Node → Node → Bool
  | .char c, .char d => c == d
  | .notChar c, .notChar d => c == d
  | .any, .any => true
  | .set n items, .set m others => n == m && items == others
  | .anchor a, .anchor b => a == b
  | .backReference g, .backReference h => g == h
  | _, _ => false

def Node.isAnchor : Node → Bool
  | .anchor _ => true
  | _ => false

def Node.isRepeat : Node → Bool
  | .repeat_ .. => true
  | _ => false

def Node.bare? : Node → Option (List Node)
  | .group none [] [] body => some body
  | _ => none

def spliceBare (nodes : List Node) : List Node :=
  nodes.flatMap fun node => node.bare?.getD [node]

end Winnow.Pattern
