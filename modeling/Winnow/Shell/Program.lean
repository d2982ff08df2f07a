import Winnow.FileTree
import Winnow.Shell.Utility

/-!
Programs that can be started: utilities that every system has, and scripts that name one of them in their
first line.
-/
set_option autoImplicit false

namespace Winnow.Shell

inductive Program
  | utility (name : String)
  | script (runner : String) (own : List Text) (path : Text)
  deriving DecidableEq, Repr

namespace Program

def shells : List String := ["sh", "dash", "bash"]

def utilities : List String := shells ++ ["echo", "printf", "true", "false", "sleep", "cat"]

def directories : List String := ["/bin", "/usr/bin"]

def utilityAt? (path : String) : Option String :=
  utilities.find? fun u => directories.any fun d => Path.ofString path == .ofString (d ++ "/" ++ u)

/-- The utility that the first line of a script names, with an argument for it if there is one. -/
def runner? (line : Text) : Option (String × List Text) :=
  let blank (c : Char) : Bool := c == ' ' || c == '\t'
  let line := ((line.dropWhile blank).reverse.dropWhile blank).reverse
  let interpreter := line.takeWhile fun c => !blank c
  let argument := (line.dropWhile fun c => !blank c).dropWhile blank
  let own : List Text := if argument.isEmpty then [] else [argument]
  if String.ofList interpreter == "/usr/bin/env" then
    (utilities.find? fun u => u.toList == argument).map (·, [])
  else (utilityAt? (String.ofList interpreter)).map (·, own)

def ofFile (f : Files) (path : String) : Except Errno Program := do
  match ← f.stat (.ofString path) with
  | (_, .dir) | (_, .file _ false) => throw .denied
  | (_, .file bytes true) =>
    match Text.ofBytes bytes with
    | '#' :: '!' :: rest =>
      match runner? (Text.cut '\n' rest).1 with
      | some (runner, own) => return .script runner own (Text.ofString path)
      | none => throw .noEntry
    | _ => throw .badProgram

def find (f : Files) (name : String) : Except Errno Program :=
  if name.toList.contains '/' then
    match utilityAt? name with
    | some u => .ok (.utility u)
    | none => ofFile f name
  else if name == "" || name == "." || name == ".." then .error .denied
  else if utilities.contains name then .ok (.utility name)
  else .error .noEntry

end Program

end Winnow.Shell
