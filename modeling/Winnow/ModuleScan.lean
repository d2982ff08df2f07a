import Winnow.ModuleFile
import Winnow.NamePattern
import Winnow.Site
import Winnow.Text.LowerCase

/-!
The modules in a directory: the files directly in it whose names have one of the given forms. Names and
forms are compared in lower case, and the modules are in the order of their names in lower case.
-/
set_option autoImplicit false

namespace Winnow
open Winnow.Text

inductive ScanError
  | site (error : SiteError)
  | missing (source : Path)
  | notDirectory (source : Path)
  deriving DecidableEq, Repr

def ScanError.message : ScanError → String
  | .site e => e.message
  | .missing source => s!"Source directory not found: {source}"
  | .notDirectory source => s!"Source path is not a directory: {source}"

namespace ModuleScan

def defaultPatterns : List String := ["*.dll"]

def isModule (patterns : List String) (name : String) : Bool :=
  patterns.any fun p => NamePattern.accept (lowerCase p) (lowerCase name)

def sorted (names : List String) : List String :=
  names.mergeSort fun a b => decide (lowerCase a ≤ lowerCase b)

/-- The modules directly in a directory. The search fails at the first entry of which it cannot be told whether it is a
file. -/
def list (site : Site) (patterns : List String) (source : Path) : Except ScanError (List ModuleFile) := do
  let dir ← (site.locate source).mapError .site
  match ← (site.files.look dir).mapError fun e => .site (.file e) with
  | none => throw (.missing source)
  | some (.file ..) => throw (.notDirectory source)
  | some .dir =>
    let paths := (sorted (site.files.tree.names dir.parts)).map fun name => dir.join ⟨0, [name]⟩
    let files ← (paths.filterM site.files.isFile).mapError fun e => .site (.file e)
    return (files.filter fun p => isModule patterns p.name).map ModuleFile.mk

end ModuleScan

end Winnow
