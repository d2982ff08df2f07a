import Winnow.Text.Quoted

/-!
What can be wrong with a search pattern. A fault is a cause, with the piece of the pattern that it quotes; an
error is a fault with the place where reading stopped, and `Error.message` is its text.
-/
set_option autoImplicit false

namespace Winnow.Pattern
open Winnow.Text

inductive Fault
  | escapeAtEnd
  | badEscape (escape : CodeText)
  | incompleteEscape (escape : CodeText)
  | octalTooLarge (escape : CodeText)
  | undefinedCharacter (name : CodeText)
  | missing (what : String)
  | unterminatedName (terminator : String)
  | openGroupReference
  | lookbehindGroupReference
  | invalidGroupReference (number : Nat)
  | unterminatedSet
  | badRange (low high : CodeText)
  | minAboveMax
  | nothingToRepeat
  | multipleRepeat
  | endOfPattern
  | badGroupName (name : CodeText)
  | unknownGroupName (name : CodeText)
  | unknownExtension (text : CodeText)
  | unterminatedComment
  | unterminatedGroup
  | badGroupNumber
  | tooManyBranches
  | globalFlagsNotAtStart
  | groupNameTaken (name : CodeText) (number old : Nat)
  | localeFlag
  | incompatibleTypeFlags
  | globalFlagOn
  | globalFlagOff
  | typeFlagOff
  | flagOnAndOff
  | unknownFlag
  | unbalancedParenthesis
  | lookbehindNotFixed
  | lookbehindTooWide
  | repeatInTemplate (mode : String)
  deriving DecidableEq, Repr

def Fault.message : Fault → String
  | .escapeAtEnd => "bad escape (end of pattern)"
  | .badEscape escape => "bad escape " ++ CodeText.display escape
  | .incompleteEscape escape => "incomplete escape " ++ CodeText.display escape
  | .octalTooLarge escape =>
    "octal escape value " ++ CodeText.display escape ++ " outside of range 0-0o377"
  | .undefinedCharacter name => "undefined character name " ++ quotedCodes name
  | .missing what => "missing " ++ what
  | .unterminatedName terminator => "missing " ++ terminator ++ ", unterminated name"
  | .openGroupReference => "cannot refer to an open group"
  | .lookbehindGroupReference => "cannot refer to group defined in the same lookbehind subpattern"
  | .invalidGroupReference number => s!"invalid group reference {number}"
  | .unterminatedSet => "unterminated character set"
  | .badRange low high =>
    "bad character range " ++ CodeText.display low ++ "-" ++ CodeText.display high
  | .minAboveMax => "min repeat greater than max repeat"
  | .nothingToRepeat => "nothing to repeat"
  | .multipleRepeat => "multiple repeat"
  | .endOfPattern => "unexpected end of pattern"
  | .badGroupName name => "bad character in group name " ++ quotedCodes name
  | .unknownGroupName name => "unknown group name " ++ quotedCodes name
  | .unknownExtension text => "unknown extension ?" ++ CodeText.display text
  | .unterminatedComment => "missing ), unterminated comment"
  | .unterminatedGroup => "missing ), unterminated subpattern"
  | .badGroupNumber => "bad group number"
  | .tooManyBranches => "conditional backref with more than two branches"
  | .globalFlagsNotAtStart => "global flags not at the start of the expression"
  | .groupNameTaken name number old =>
    "redefinition of group name " ++ quotedCodes name ++ s!" as group {number}; was group {old}"
  | .localeFlag => "bad inline flags: cannot use 'L' flag with a str pattern"
  | .incompatibleTypeFlags => "bad inline flags: flags 'a', 'u' and 'L' are incompatible"
  | .globalFlagOn => "bad inline flags: cannot turn on global flag"
  | .globalFlagOff => "bad inline flags: cannot turn off global flag"
  | .typeFlagOff => "bad inline flags: cannot turn off flags 'a', 'u' and 'L'"
  | .flagOnAndOff => "bad inline flags: flag turned on and off"
  | .unknownFlag => "unknown flag"
  | .unbalancedParenthesis => "unbalanced parenthesis"
  | .lookbehindNotFixed => "look-behind requires fixed-width pattern"
  | .lookbehindTooWide => "looks too much behind"
  | .repeatInTemplate mode => "internal: unsupported template operator " ++ mode

/-- Where reading stopped: the offset, and line and column when the pattern has several lines. -/
structure Place where
  offset : Nat
  lineColumn : Option (Nat × Nat)
  deriving DecidableEq, Repr

def Place.of (pattern : CodeText) (offset : Nat) : Place :=
  let before := pattern.take offset
  let line := before.count 0x0A + 1
  let column := (before.reverse.takeWhile (· != 0x0A)).length + 1
  ⟨offset, if pattern.contains 0x0A then some (line, column) else none⟩

inductive Error
  | malformed (fault : Fault) (place : Option Place)
  | repeatTooLarge
  | numeralTooLong (digits : Nat)
  | asciiAndUnicode
  deriving DecidableEq, Repr

def Error.message : Error → String
  | .malformed fault none => fault.message
  | .malformed fault (some place) =>
    let base := fault.message ++ s!" at position {place.offset}"
    match place.lineColumn with
    | none => base
    | some (line, column) => base ++ s!" (line {line}, column {column})"
  | .repeatTooLarge => "the repetition number is too large"
  | .numeralTooLong digits =>
    s!"Exceeds the limit (4300 digits) for integer string conversion: value has {digits} digits; use sys.set_int_max_str_digits() to increase the limit"
  | .asciiAndUnicode => "ASCII and UNICODE flags are incompatible"

end Winnow.Pattern
