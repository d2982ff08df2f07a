import Winnow.Path

/-!
Files that hold compiled modules.
-/
set_option autoImplicit false

namespace Winnow

structure ModuleFile where
  path : Path
  deriving DecidableEq, Repr

def ModuleFile.baseName (m : ModuleFile) : String := m.path.stem

def ModuleFile.fileName (m : ModuleFile) : String := m.path.name

end Winnow
