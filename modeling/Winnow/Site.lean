import Winnow.FileTree
import Winnow.Home

/-!
Where a program runs: the files it sees and the home directories it knows.
-/
set_option autoImplicit false

namespace Winnow

structure Site where
  files : Files
  homes : Homes

inductive SiteError
  | file (error : FileError)
  | home (error : HomeError)
  deriving DecidableEq, Repr

def SiteError.message : SiteError → String
  | .file e => e.message
  | .home e => e.message

def Site.locate (s : Site) (p : Path) : Except SiteError Path := do
  let p ← (s.homes.expand p).mapError .home
  (s.files.resolve p).mapError .file

end Winnow
