import Winnow.Text.Numeral

/-!
Names of types as metadata spells them: the generic arity after a backquote, and the form in which a name can
be part of a file name.
-/
set_option autoImplicit false

namespace Winnow.TypeName
open Winnow.Text

def arityMark : Char := Char.ofNat 0x60

def isNumber (cs : List Char) : Bool := !cs.isEmpty && cs.all fun c => isDigit c.toNat

/-- The name without its generic arity: the part before the last backquote, if digits and nothing else follow
it. -/
def withoutArity (name : String) : String :=
  let cs := name.toList
  let arity := (cs.reverse.takeWhile (· != arityMark)).reverse
  if arity.length < cs.length && isNumber arity then
    String.ofList (cs.take (cs.length - arity.length - 1))
  else name

def unsafeChars : List Char := ['<', '>', ':', '"', '/', '\\', '|', '?', '*']

def safeChar (c : Char) : Char := if unsafeChars.contains c then '_' else c

def fileStem (name : String) : String := String.ofList (name.toList.map safeChar)

end Winnow.TypeName
