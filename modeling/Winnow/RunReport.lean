import Winnow.FileTree
import Winnow.Outcome

/-!
The report of a run as a file.
-/
set_option autoImplicit false

namespace Winnow.RunReport

def write (s : Summary) (stamp : String) (target : Path) (f : Files) : Files × Except FileError Unit :=
  match f.makeDirs target.parent with
  | (f, .error e) => (f, .error e)
  | (f, .ok ()) =>
    match f.writeFile target (s.reportText stamp).toUTF8 with
    | .ok f => (f, .ok ())
    | .error e => (f, .error e)

end Winnow.RunReport
