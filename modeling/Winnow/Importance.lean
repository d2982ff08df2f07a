import Winnow.Text.CaseFold

/-!
Which modules are worth decompiling: those whose name begins with one of the important prefixes, whatever the
case of either.
-/
set_option autoImplicit false

namespace Winnow.Importance
open Winnow.Text

def defaultPrefixes : List String := ["Facepunch", "Assembly-CSharp", "Oxide", "Rust", "0Harmony"]

/-- Whether a module of this name is to be processed. An empty name never is, and an empty prefix makes no
name important. -/
def isImportant (prefixes : List String) (moduleName : String) : Bool :=
  !moduleName.isEmpty &&
    prefixes.any fun p => !p.isEmpty && (foldChars p.toList).isPrefixOf (foldChars moduleName.toList)

end Winnow.Importance
