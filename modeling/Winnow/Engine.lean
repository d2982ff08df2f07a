import Winnow.ModuleFile
import Winnow.Outputs
import Winnow.TypeTable

/-!
Decompilers, as a run sees them. A module is opened, its types are listed, some of them are decompiled, and
the module is closed. A decompiler may answer every call as it likes, also differently each time: an answer
depends on all calls before it. It looks at files and changes none.
-/
set_option autoImplicit false

namespace Winnow

inductive Call
  /-- Opens a module; assemblies that it refers to are looked for in the given directories. -/
  | openModule (module : Path) (searchPaths : List Path)
  | listTypes (module : Path)
  | decompile (module : Path) (handle : String)
  | close (module : Path)
  deriving DecidableEq, Repr

/-- A decompiler: what it answers to a call after the calls in `history`. A failure is known by its text. -/
structure Engine where
  openModule : (history : Array Call) → Files → (module : Path) → (searchPaths : List Path) →
    List Record × Except String Unit
  listTypes : (history : Array Call) → Files → (module : Path) → Except String (List TypeDescriptor)
  decompile : (history : Array Call) → Files → (module : Path) → (searchPaths : List Path) →
    (handle : String) → Except String Decompiled
  close : (history : Array Call) → (module : Path) → List Record

end Winnow
