import Winnow.Number.Reading

/-!
What can be wrong with a data file. Most faults only make the text malformed; a few values are well formed
and yet name no number, date or character, and these say so in words of their own.
-/
set_option autoImplicit false

namespace Winnow.Yaml
open Winnow.Number Winnow.Text

inductive CalendarFault
  | year (n : Nat)
  | month
  | day
  | hour
  | minute
  | second
  | offset (seconds : Int)
  deriving DecidableEq, Repr

inductive Fault
  | malformed
  | badCharacter (code : Nat)
  | badNumber (fault : ReadFault)
  | emptyNumber
  /-- A number in sixties of so many parts that the unit of the first one is beyond all doubles. -/
  | unitTooLarge
  | notTruth (word : CodeText)
  | notDate
  | dateOfMapping
  | badDate (fault : CalendarFault)
  deriving DecidableEq, Repr

def offsetText (seconds : Int) : String :=
  let days := seconds.fdiv 86400
  let rest := seconds.fmod 86400
  let parts := (if days == 0 then [] else [s!"days={days}"]) ++ (if rest == 0 then [] else [s!"seconds={rest}"])
  "datetime.timedelta(" ++ ", ".intercalate parts ++ ")"

def CalendarFault.message : CalendarFault → String
  | .year n => s!"year {n} is out of range"
  | .month => "month must be in 1..12"
  | .day => "day is out of range for month"
  | .hour => "hour must be in 0..23"
  | .minute => "minute must be in 0..59"
  | .second => "second must be in 0..59"
  | .offset seconds =>
    "offset must be a timedelta strictly between -timedelta(hours=24) and timedelta(hours=24), not " ++
      offsetText seconds ++ "."

def Fault.message : Fault → String
  | .malformed => "malformed document"
  | .badCharacter code =>
    if code < Nat.pow 2 31 then "chr() arg not in range(0x110000)"
    else "Python int too large to convert to C int"
  | .badNumber fault => fault.message
  | .emptyNumber => "string index out of range"
  | .unitTooLarge => "int too large to convert to float"
  | .notTruth word => quotedCodes word
  | .notDate => "'NoneType' object has no attribute 'groupdict'"
  | .dateOfMapping => "expected string or bytes-like object, got 'list'"
  | .badDate fault => fault.message

end Winnow.Yaml
