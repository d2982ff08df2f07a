import Winnow.Yaml.Node
import Winnow.Yaml.Scalar

/-!
The values of a document. Collections are built level by level: one that is met is set aside, and filled only
after all that were met before it, so of two faults the one nearer to the outside shows. `Value` is what
those see who use a document: a tree that is followed to a given depth.
-/
set_option autoImplicit false

namespace Winnow.Yaml
open Winnow.Text

inductive Value
  | scalar (s : Scalar)
  | list (items : List Value)
  | map (entries : List (Value × Value))
  | set (items : List Value)
  deriving Repr

/-- A value that may hold others: a scalar, or the number of a collection. -/
inductive Item
  | scalar (s : Scalar)
  | collection (number : Nat)

inductive Collection
  | list (items : List Item)
  | map (entries : List (Item × Item))
  | set (items : List Item)

inductive Filling
  | list
  | map
  | set
  | pairs

namespace Build

structure Progress where
  nodes : Array Node
  known : List (Nat × Item)
  collections : Array Collection
  /-- What has been set aside, the last one first: how to fill it, from which node, and its number. -/
  waiting : List (Filling × Nat × Nat)

abbrev Builder := StateT Progress (Except Fault)

def malformed {α : Type} : Builder α := throw .malformed

def nodeAt (id : Nat) : Builder Node := do
  match (← get).nodes[id]? with
  | some n => return n
  | none => malformed

/-- A scalar's text. A mapping with a value mark among its keys stands for the scalar under it. -/
def scalarText : (fuel : Nat) → (id : Nat) → Builder CodeText
  | 0, _ => malformed
  | fuel + 1, id => do
    match ← nodeAt id with
    | .scalar _ t => return t
    | .sequence .. => malformed
    | .mapping _ pairs =>
      let nodes := (← get).nodes
      match pairs.find? fun p => (nodes[p.1]?).any (·.tag == .value) with
      | some (_, value) => scalarText fuel value
      | none => malformed

def setAside (filling : Filling) (id : Nat) (shell : Collection) : Builder Item := do
  let s ← get
  let number := s.collections.size
  set { s with collections := s.collections.push shell, waiting := (filling, id, number) :: s.waiting }
  return .collection number

def item (id : Nat) : Builder Item := do
  match (← get).known.lookup id with
  | some known => return known
  | none =>
    let n ← nodeAt id
    let found ← match n.tag with
      | .seq => setAside .list id (.list [])
      | .map => setAside .map id (.map [])
      | .set => setAside .set id (.set [])
      | .orderedMap | .pairs => setAside .pairs id (.list [])
      | .merge | .value | .unknown => malformed
      | tag => do
        let t ← scalarText ((← get).nodes.size + 1) id
        match tag, n with
        | .timestamp, .mapping .. => throw .dateOfMapping
        | _, _ => pure (.scalar (← Scalar.ofTag tag t))
    modify fun s => { s with known := (id, found) :: s.known }
    return found

def setPairs (id : Nat) (pairs : List (Nat × Nat)) : Builder Unit :=
  modify fun s =>
    match s.nodes[id]? with
    | some (.mapping tag _) => { s with nodes := s.nodes.setIfInBounds id (.mapping tag pairs) }
    | _ => s

def pairsAt (id : Nat) : Builder (List (Nat × Nat)) := do
  match ← nodeAt id with
  | .mapping _ pairs => return pairs
  | _ => malformed

/-- Moves the pairs of merged mappings in front of a mapping's own, and takes a value mark among its keys for
text. `index` pairs have been looked at, and `merged` is what was found so far. -/
def flatten : (fuel : Nat) → (id index : Nat) → (merged : List (Nat × Nat)) → Builder Unit
  | 0, _, _, _ => malformed
  | fuel + 1, id, index, merged => do
    let pairs ← pairsAt id
    match pairs[index]? with
    | none => if !merged.isEmpty then setPairs id (merged ++ pairs)
    | some (key, value) =>
      match ← nodeAt key with
      | .scalar .value t =>
        modify fun s => { s with nodes := s.nodes.setIfInBounds key (.scalar .str t) }
        flatten fuel id (index + 1) merged
      | .sequence .value items =>
        modify fun s => { s with nodes := s.nodes.setIfInBounds key (.sequence .str items) }
        flatten fuel id (index + 1) merged
      | .mapping .value ps =>
        modify fun s => { s with nodes := s.nodes.setIfInBounds key (.mapping .str ps) }
        flatten fuel id (index + 1) merged
      | n =>
        if n.tag == .merge then
          setPairs id (pairs.eraseIdx index)
          match ← nodeAt value with
          | .mapping .. =>
            flatten fuel value 0 []
            flatten fuel id index (merged ++ (← pairsAt value))
          | .sequence _ items =>
            let parts ← items.mapM fun part => do
              discard <| pairsAt part
              flatten fuel part 0 []
              pairsAt part
            flatten fuel id index (merged ++ parts.reverse.flatten)
          | .scalar .. => malformed
        else flatten fuel id (index + 1) merged

def entries (id : Nat) : Builder (List (Item × Item)) := do
  discard <| pairsAt id
  let size := (← get).nodes.foldl (fun n node =>
    match node with
    | .mapping _ pairs => n + pairs.length + 1
    | _ => n + 1) 2
  flatten (size * size) id 0 []
  (← pairsAt id).mapM fun (key, value) => do
    match ← item key with
    | .collection _ => malformed
    | key => return (key, ← item value)

def pairOf (id : Nat) : Builder Item := do
  match ← pairsAt id with
  | [(key, value)] =>
    let key ← item key
    let value ← item value
    let s ← get
    set { s with collections := s.collections.push (.list [key, value]) }
    return .collection s.collections.size
  | _ => malformed

def itemsAt (id : Nat) : Builder (List Nat) := do
  match ← nodeAt id with
  | .sequence _ items => return items
  | _ => malformed

def contents (filling : Filling) (id : Nat) : Builder Collection := do
  match filling with
  | .list => return .list (← (← itemsAt id).mapM item)
  | .map => return .map (← entries id)
  | .set => return .set ((← entries id).map (·.1))
  | .pairs => return .list (← (← itemsAt id).mapM pairOf)

def fill : (fuel : Nat) → Builder Unit
  | 0 => return
  | fuel + 1 => do
    match (← get).waiting.reverse with
    | [] => return
    | level =>
      modify fun s => { s with waiting := [] }
      for (filling, id, number) in level do
        let c ← contents filling id
        modify fun s => { s with collections := s.collections.setIfInBounds number c }
      fill fuel

end Build

def Item.value (collections : Array Collection) : (depth : Nat) → Item → Value
  | _, .scalar s => .scalar s
  | 0, .collection number =>
    match collections[number]? with
    | some (.map _) => .map []
    | some (.set _) => .set []
    | _ => .list []
  | depth + 1, .collection number =>
    match collections[number]? with
    | some (.list items) => .list (items.map (value collections depth))
    | some (.map entries) =>
      .map (entries.map fun e => (value collections depth e.1, value collections depth e.2))
    | some (.set items) => .set (items.map (value collections depth))
    | none => .list []

/-- The value of a document, followed to the given depth, or nothing if the text holds no document. -/
def read (depth : Nat) (text : String) : Except Fault (Option Value) := do
  match ← Graph.ofString text with
  | none => return none
  | some g =>
    let building : Build.Builder Item := do
      let root ← Build.item g.root
      Build.fill (g.nodes.size + 1)
      return root
    let (root, s) ← building.run ⟨g.nodes, [], #[], []⟩
    return some (root.value s.collections depth)

namespace Value

def isText (s : String) : Value → Bool
  | .scalar (.text t) => t == .ofString s
  | _ => false

/-- What stands under a key. Of several entries for one key the last one counts. -/
def get? (entries : List (Value × Value)) (key : String) : Option Value :=
  (entries.reverse.find? (·.1.isText key)).map (·.2)

end Value

end Winnow.Yaml
