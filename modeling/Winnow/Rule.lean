import Winnow.Pattern

/-!
Rules that tell generated type names from authored ones. A rule has a name and a test on simple type names.
The built-in rules know what compilers leave behind: holders of array data, state machines, closures, fixed
buffers, local functions and the attributes that go with them.
-/
set_option autoImplicit false

namespace Winnow
open Winnow.Pattern

structure Rule where
  name : String
  accepts : String → Bool

def standsIn (part : List Char) : List Char → Bool
  | [] => part.isEmpty
  | c :: rest => part.isPrefixOf (c :: rest) || standsIn part rest

def beginsWith (part text : String) : Bool := part.toList.isPrefixOf text.toList

namespace Rule

/-- Names that begin with one of the given prefixes; an empty prefix does not count. -/
def literalPrefix (prefixes : List String) : Rule where
  name := "literal-prefix"
  accepts typeName := prefixes.any fun p => !p.isEmpty && beginsWith p typeName

def ofPattern (name : String) (p : Pattern) : Rule where
  name
  accepts := p.occursIn

def text : List Char → Program
  | [] => .pass
  | [c] => .one (· == c.toNat)
  | c :: rest => .seq (.one (· == c.toNat)) (text rest)

def bracketed (tail : Program) : Pattern where
  program := .seq (.one (· == '<'.toNat)) (.seq (.run .greedy 0 none (· != '\n'.toNat)) tail)
  groups := 0

def number : Program := .run .greedy 1 none Text.isDecimal

def isHexDigit (c : Nat) : Bool :=
  (0x30 ≤ c && c ≤ 0x39) || (0x61 ≤ c && c ≤ 0x66) || (0x41 ≤ c && c ≤ 0x46)

def hexGroups : List Nat → Program
  | [] => .pass
  | [n] => .run .greedy n (some n) isHexDigit
  | n :: rest =>
    .seq (.run .greedy n (some n) isHexDigit) (.seq (.one (· == '-'.toNat)) (hexGroups rest))

def embeddedGuid : Rule := ofPattern "embedded-guid"
  ⟨.seq (.one (· == '<'.toNat)) (.seq (hexGroups [8, 4, 4, 4, 12]) (.one (· == '>'.toNat))), 0⟩

def stateMachine : Rule := ofPattern "state-machine" (bracketed (.seq (text ">d__".toList) number))

def fixedBuffer : Rule := ofPattern "fixed-buffer" (bracketed (text ">e__FixedBuffer".toList))

def anonStorey : Rule :=
  ofPattern "anon-storey" (bracketed (.seq (text ">c__AnonStorey".toList) number))

def legacyIterator : Rule :=
  ofPattern "legacy-iterator" (bracketed (.seq (text ">c__Iterator".toList) number))

def compilerAttribute : Rule where
  name := "compiler-attribute"
  accepts typeName :=
    standsIn "Attribute".toList typeName.toList &&
      ["CompilerGenerated", "NullableContext", "Nullable"].any fun marker =>
        standsIn marker.toList typeName.toList

def localFunction : Rule where
  name := "local-function"
  accepts typeName := beginsWith "<" typeName && standsIn "g__".toList typeName.toList

def defaultPrefixes : List String :=
  ["__StaticArrayInit", "<>", "<PrivateImplementationDetails>", "EmbeddedAttribute",
    "IsReadOnlyAttribute", "<Module>", "$ArrayType="]

def builtins (extraPrefixes : List String) : List Rule :=
  [literalPrefix (defaultPrefixes ++ extraPrefixes), embeddedGuid, stateMachine, fixedBuffer, anonStorey,
    legacyIterator, compilerAttribute, localFunction]

end Rule

end Winnow
