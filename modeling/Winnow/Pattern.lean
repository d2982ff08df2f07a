import Winnow.Pattern.Program
import Winnow.Pattern.Reader

/-!
Search patterns: read from text, and found anywhere in a name.
-/
set_option autoImplicit false

namespace Winnow
open Winnow.Text

structure Pattern where
  program : Pattern.Program
  groups : Nat

namespace Pattern

def readTree (source : CodeText) : Except Error (List Node × List (Option Width) × List Flag) :=
  let ts := tokens source
  let whole : Reader (List Node) := do
    if ts.head? == some .dangling then failAt 0 .escapeAtEnd
    let nodes ← branches (4 * ts.length + 8) false true []
    let s ← get
    if s.flags.contains .ascii && s.flags.contains .unicode then throw (.error .asciiAndUnicode)
    if !s.rest.isEmpty then failBack .unbalancedParenthesis 0
    for (number, place) in s.conditions do
      if s.widths.length ≤ number then failAt place (.invalidGroupReference number)
    return nodes
  match whole.run { rest := ts, offset := 0 } with
  | .ok (nodes, s) => .ok (nodes, s.widths, s.flags)
  | .error (.fault f offset) => .error (.malformed f (some (Place.of source offset)))
  | .error (.error e) => .error e

def read (source : CodeText) : Except Error Pattern := do
  let (nodes, groups, flags) ← readTree source
  return ⟨← programs groups (Mode.ofFlags flags) nodes, groups.length - 1⟩

def occursIn (p : Pattern) (text : String) : Bool :=
  (p.program.find? p.groups (CodeText.ofString text).toArray).isSome

end Pattern

end Winnow
