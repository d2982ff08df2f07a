import Winnow.Yaml.Tag
import Winnow.Yaml.Token

/-!
The nodes of a document. A collection refers to its members by number, so that an alias can stand for any
node that has an anchor, also for the one that is being read.
-/
set_option autoImplicit false

namespace Winnow.Yaml
open Winnow.Text

inductive Node
  | scalar (tag : Tag) (text : CodeText)
  | sequence (tag : Tag) (items : List Nat)
  | mapping (tag : Tag) (pairs : List (Nat × Nat))
  deriving DecidableEq, Repr

def Node.tag : Node → Tag
  | .scalar tag _ | .sequence tag _ | .mapping tag _ => tag

/-- A document: its nodes, and the number of the outermost one. -/
structure Graph where
  nodes : Array Node
  root : Nat

namespace Graph

structure Reading where
  tokens : List Token
  handles : List (String × String)
  nodes : Array Node
  anchors : List (String × Nat)

abbrev Read := StateT Reading (Except Fault)

def malformed {α : Type} : Read α := throw .malformed

def defaultHandles : List (String × String) := [("!", "!"), ("!!", Tag.coreLead)]

def peek : Read Token := do
  match (← get).tokens with
  | .fault f :: _ => throw f
  | t :: _ => return t
  | [] => malformed

def drop : Read Unit := modify fun s => { s with tokens := s.tokens.tail }

def accept (t : Token) : Read Bool := do
  if (← peek) == t then
    drop
    return true
  return false

def expect (t : Token) : Read Unit := do
  if !(← accept t) then malformed

def add (n : Node) : Read Nat := do
  let s ← get
  set { s with nodes := s.nodes.push n }
  return s.nodes.size

def empty : Read Nat := add (.scalar .null [])

structure Properties where
  anchor : Option String
  tag : Option String

def takeAnchor : Read (Option String) := do
  match ← peek with
  | .anchor name =>
    drop
    return some name
  | _ => return none

def takeTag : Read (Option (Option String × String)) := do
  match ← peek with
  | .tag handle suffix =>
    drop
    return some (handle, suffix)
  | _ => return none

def properties : Read Properties := do
  let first ← takeAnchor
  let tag ← takeTag
  let anchor ← match first with
    | some name => pure (some name)
    | none => if tag.isSome then takeAnchor else pure none
  match tag with
  | none => return ⟨anchor, none⟩
  | some (none, suffix) => return ⟨anchor, some suffix⟩
  | some (some handle, suffix) =>
    match (← get).handles.lookup handle with
    | some lead => return ⟨anchor, some (lead ++ suffix)⟩
    | none => malformed

namespace Properties

def isOpen (p : Properties) : Bool := p.tag == none || p.tag == some "!"

def tagOr (p : Properties) (tag : Tag) : Tag :=
  match p.tag with
  | some uri => if uri == "!" then tag else .ofUri uri
  | none => tag

/-- The tag of a scalar. One in quotes is text, unless its tag leaves the choice to the form. -/
def scalarTag (p : Properties) (text : CodeText) (plain : Bool) : Tag :=
  if (plain && p.tag == none) || p.tag == some "!" then .ofForm text else p.tagOr .str

end Properties

def addNamed (p : Properties) (n : Node) : Read Nat := do
  let id ← add n
  if let some name := p.anchor then modify fun s => { s with anchors := (name, id) :: s.anchors }
  return id

inductive Context
  | flow
  | block
  | member
  deriving DecidableEq

/-- Whether the token closes a block sequence that is not indented, or begins its next entry. -/
def endsEntry : Token → Bool
  | .blockEntry | .key | .value | .blockEnd => true
  | _ => false

mutual

def node (context : Context) : (fuel : Nat) → Read Nat
  | 0 => malformed
  | fuel + 1 => do
    if let .alias name ← peek then
      drop
      match (← get).anchors.lookup name with
      | some id => return id
      | none => malformed
    else
      let p ← properties
      let s ← get
      if p.anchor.any fun name => (s.anchors.lookup name).isSome then malformed
      match ← peek with
      | .scalar text plain =>
        drop
        addNamed p (.scalar (p.scalarTag text plain) text)
      | .flowSequenceStart =>
        drop
        sequence p fun items => flowItems true items fuel
      | .flowMappingStart =>
        drop
        mapping p fun pairs => flowPairs true pairs fuel
      | .blockEntry =>
        if context == .member then sequence p fun items => looseItems items fuel else bare p
      | .blockSequenceStart =>
        if context == .flow then bare p
        else
          drop
          sequence p fun items => blockItems items fuel
      | .blockMappingStart =>
        if context == .flow then bare p
        else
          drop
          mapping p fun pairs => blockPairs pairs fuel
      | _ => bare p
where
  bare (p : Properties) : Read Nat :=
    if p.anchor.isNone && p.tag.isNone then malformed
    else addNamed p (.scalar (if p.isOpen then .ofForm [] else p.tagOr .str) [])
  sequence (p : Properties) (read : List Nat → Read (List Nat)) : Read Nat := do
    let tag := p.tagOr .seq
    let id ← addNamed p (.sequence tag [])
    let items ← read []
    modify fun s => { s with nodes := s.nodes.setIfInBounds id (.sequence tag items.reverse) }
    return id
  mapping (p : Properties) (read : List (Nat × Nat) → Read (List (Nat × Nat))) : Read Nat := do
    let tag := p.tagOr .map
    let id ← addNamed p (.mapping tag [])
    let pairs ← read []
    modify fun s => { s with nodes := s.nodes.setIfInBounds id (.mapping tag pairs.reverse) }
    return id

def blockItems (items : List Nat) : (fuel : Nat) → Read (List Nat)
  | 0 => malformed
  | fuel + 1 => do
    if ← accept .blockEntry then
      let t ← peek
      let item ← if t == .blockEntry || t == .blockEnd then empty else node .block fuel
      blockItems (item :: items) fuel
    else
      expect .blockEnd
      return items

def looseItems (items : List Nat) : (fuel : Nat) → Read (List Nat)
  | 0 => malformed
  | fuel + 1 => do
    if ← accept .blockEntry then
      let item ← if endsEntry (← peek) then empty else node .block fuel
      looseItems (item :: items) fuel
    else return items

def blockMember (mark : Token) : (fuel : Nat) → Read Nat
  | 0 => malformed
  | fuel + 1 => do
    if ← accept mark then
      let t ← peek
      if t == .key || t == .value || t == .blockEnd then empty else node .member fuel
    else empty

def blockPairs (pairs : List (Nat × Nat)) : (fuel : Nat) → Read (List (Nat × Nat))
  | 0 => malformed
  | fuel + 1 => do
    if (← peek) == .key then
      let key ← blockMember .key fuel
      let value ← blockMember .value fuel
      blockPairs ((key, value) :: pairs) fuel
    else
      expect .blockEnd
      return pairs

def flowMember (ends : List Token) : (fuel : Nat) → Read Nat
  | 0 => malformed
  | fuel + 1 => do if ends.contains (← peek) then empty else node .flow fuel

/-- The entries of a flow sequence. A pair among them is a mapping of its own. -/
def flowItems (first : Bool) (items : List Nat) : (fuel : Nat) → Read (List Nat)
  | 0 => malformed
  | fuel + 1 => do
    if ← accept .flowSequenceEnd then return items
    if !first then expect .flowEntry
    match ← peek with
    | .key =>
      drop
      let id ← add (.mapping .map [])
      let key ← flowMember [.value, .flowEntry, .flowSequenceEnd] fuel
      let value ← if ← accept .value then flowMember [.flowEntry, .flowSequenceEnd] fuel else empty
      modify fun s => { s with nodes := s.nodes.setIfInBounds id (.mapping .map [(key, value)]) }
      flowItems false (id :: items) fuel
    | .flowSequenceEnd => flowItems true items fuel
    | _ =>
      let item ← node .flow fuel
      flowItems false (item :: items) fuel

def flowPairs (first : Bool) (pairs : List (Nat × Nat)) : (fuel : Nat) → Read (List (Nat × Nat))
  | 0 => malformed
  | fuel + 1 => do
    if ← accept .flowMappingEnd then return pairs
    if !first then expect .flowEntry
    match ← peek with
    | .key =>
      drop
      let key ← flowMember [.value, .flowEntry, .flowMappingEnd] fuel
      let value ← if ← accept .value then flowMember [.flowEntry, .flowMappingEnd] fuel else empty
      flowPairs false ((key, value) :: pairs) fuel
    | .flowMappingEnd => flowPairs true pairs fuel
    | _ =>
      let key ← node .flow fuel
      let value ← empty
      flowPairs false ((key, value) :: pairs) fuel

end

/-- The directives before a document; `seen` tells whether there was one with the version. -/
def directives (seen : Bool) (handles : List (String × String)) : (fuel : Nat) → Read Unit
  | 0 => malformed
  | fuel + 1 => do
    match ← peek with
    | .directive d =>
      drop
      match d with
      | .version major => if seen || major != 1 then malformed else directives true handles fuel
      | .tag handle lead =>
        if (handles.lookup handle).isSome then malformed
        else directives seen ((handle, lead) :: handles) fuel
      | .other => directives seen handles fuel
    | _ => modify fun s => { s with handles := handles ++ defaultHandles }

def skipEnds : (fuel : Nat) → Read Unit
  | 0 => return
  | fuel + 1 => do if ← accept .documentEnd then skipEnds fuel

def content (fuel : Nat) : Read Nat := do
  match ← peek with
  | .directive _ | .documentStart | .documentEnd | .streamEnd => empty
  | _ => node .block fuel

def document (fuel : Nat) : Read (Option Nat) := do
  match ← peek with
  | .directive _ | .documentStart => explicit
  | .streamEnd => return none
  | _ => return some (← node .block fuel)
where
  explicit : Read (Option Nat) := do
    directives false [] fuel
    expect .documentStart
    return some (← content fuel)

def single (fuel : Nat) : Read (Option Nat) := do
  let root ← document fuel
  if root.isSome then discard <| accept .documentEnd
  skipEnds fuel
  expect .streamEnd
  return root

def ofString (text : String) : Except Fault (Option Graph) := do
  let ts := tokens text
  let (root, s) ← (single (4 * ts.length + 8)).run ⟨ts, defaultHandles, #[], []⟩
  return root.map (⟨s.nodes, ·⟩)

end Graph

end Winnow.Yaml
