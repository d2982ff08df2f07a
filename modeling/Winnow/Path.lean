/-!
Paths as a user writes them: components joined by slashes, from a root or from the current directory. Empty
components and single dots are dropped when a path is read; two dots are kept, because only a file tree can
tell where they lead.
-/
set_option autoImplicit false

namespace Winnow

/-- A path: how many slashes it begins with, and its components. -/
structure Path where
  /-- None, one, or two; two slashes are kept apart from one. -/
  slashes : Nat
  parts : List String
  deriving DecidableEq, Repr

namespace Path

def splitSlashes : List Char → List (List Char)
  | [] => [[]]
  | c :: rest =>
    if c = '/' then [] :: splitSlashes rest
    else match splitSlashes rest with
      | [] => [[c]]
      | piece :: pieces => (c :: piece) :: pieces

def isPart (piece : String) : Bool := piece != "" && piece != "."

def ofString (text : String) : Path :=
  let lead := (text.toList.takeWhile (· == '/')).length
  { slashes := if lead == 2 then 2 else if lead == 0 then 0 else 1
    parts := ((splitSlashes text.toList).map String.ofList).filter isPart }

def toString (p : Path) : String :=
  if p.slashes == 0 && p.parts.isEmpty then "."
  else String.ofList (List.replicate p.slashes '/') ++ "/".intercalate p.parts

instance : ToString Path := ⟨toString⟩

def isAbsolute (p : Path) : Bool := p.slashes != 0

/-- `q` as seen from `p`; an absolute `q` stands for itself. -/
def join (p q : Path) : Path :=
  if q.isAbsolute then q else { p with parts := p.parts ++ q.parts }

def name (p : Path) : String := p.parts.getLast?.getD ""

def parent (p : Path) : Path := { p with parts := p.parts.dropLast }

def withName (p : Path) (name : String) : Path := { p with parts := p.parts.dropLast ++ [name] }

/-- A name without its last extension; a dot at either end begins none. -/
def stemOf (name : String) : String :=
  let cs := name.toList
  let after := cs.reverse.takeWhile (· != '.')
  let stem := cs.take (cs.length - after.length - 1)
  if after.length == cs.length || after.isEmpty || stem.isEmpty then name else String.ofList stem

def stem (p : Path) : String := stemOf p.name

def relativeTo? (p base : Path) : Option Path :=
  if p.slashes == base.slashes && base.parts.isPrefixOf p.parts then
    some ⟨0, p.parts.drop base.parts.length⟩
  else none

end Path

end Winnow
