import Winnow.FileTree
import Winnow.NamePattern

/-!
Patterns for paths below a directory. A component is a pattern for names or a plain name; two dots lead up,
two asterisks stand for any number of directories.
-/
set_option autoImplicit false

namespace Winnow

namespace Glob

inductive Step
  | up
  | anyDepth
  | name (name : String)
  | pattern (pattern : String)
  deriving DecidableEq, Repr

inductive Error
  | starsInName
  deriving DecidableEq, Repr

def Error.message : Error → String
  | .starsInName => "Invalid pattern: '**' can only be an entire path component"

def hasTwoStars : List Char → Bool
  | '*' :: '*' :: _ => true
  | _ :: rest => hasTwoStars rest
  | [] => false

def isPattern (part : String) : Bool := part.toList.any fun c => c == '*' || c == '?' || c == '['

def Step.ofPart (part : String) : Except Error Step :=
  if part == "**" then .ok .anyDepth
  else if part == ".." then .ok .up
  else if hasTwoStars part.toList then .error .starsInName
  else .ok (if isPattern part then .pattern part else .name part)

def steps (pattern : String) : Except Error (List Step × Bool) := do
  return (← (Path.ofString pattern).parts.mapM Step.ofPart, pattern.toList.getLast? == some '/')

/-- The directories below a directory, itself included; `fuel` bounds how deep they are. -/
def directories (f : Files) : (fuel : Nat) → Path → List Path
  | 0, p => [p]
  | fuel + 1, p =>
    match f.place? p with
    | .ok place =>
      let below := (f.tree.names place).filter fun name => f.tree.get? (place ++ [name]) == some .dir
      p :: below.flatMap fun name => directories f fuel (p.join ⟨0, [name]⟩)
    | .error _ => [p]

def depth (t : FileTree) : Nat := t.entries.foldl (fun n e => max n e.1.length) 0

def select (f : Files) (onlyDirs : Bool) : List Step → Path → Except FileError (List Path)
  | [], p => .ok [p]
  | .up :: rest, p => select f onlyDirs rest { p with parts := p.parts ++ [".."] }
  | .name name :: rest, p => do
    let next := p.join ⟨0, [name]⟩
    match ← f.look next with
    | none => return []
    | some entry =>
      if entry == .dir || (rest.isEmpty && !onlyDirs) then select f onlyDirs rest next else return []
  | .pattern pattern :: rest, p => do
    match f.stat p with
    | .ok (place, .dir) =>
      let names := (f.tree.names place).filter fun name =>
        NamePattern.accept pattern name &&
          ((rest.isEmpty && !onlyDirs) || f.tree.get? (place ++ [name]) == some .dir)
      return (← names.mapM fun name => select f onlyDirs rest (p.join ⟨0, [name]⟩)).flatten
    | .ok (_, .file ..) => Files.fail .notDirectory p
    | .error errno => Files.fail errno p
  | .anyDepth :: rest, p => do
    let found ← (directories f (depth f.tree + 1) p).mapM (select f onlyDirs rest)
    return found.flatten.eraseDups

def paths (f : Files) (dir : Path) (steps : List Step) (onlyDirs : Bool) : Except FileError (List Path) := do
  if ← f.isDir dir then select f onlyDirs steps dir else return []

end Glob

end Winnow
