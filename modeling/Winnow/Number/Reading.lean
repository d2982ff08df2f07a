import Winnow.Text.Blank
import Winnow.Text.Decimal
import Winnow.Text.Quoted

/-!
Reading numbers from text. Blank characters around a number are left out, decimal digits of every script
count, and a low line may stand between two digits.
-/
set_option autoImplicit false

namespace Winnow.Number
open Winnow.Text

/-- Whether a character may stand around a number. The separators of ASCII are blank and yet may not. -/
def isMargin (c : Nat) : Bool := isBlank c && !(0x1C ≤ c && c ≤ 0x1F)

/-- The text with its blank ends removed, its decimal digits made plain, and all else beyond ASCII made
unreadable. -/
def plainDigits (t : CodeText) : List Char :=
  let trimmed := ((t.dropWhile isMargin).reverse.dropWhile isMargin).reverse
  trimmed.map fun c =>
    if c < 0x80 then Char.ofNat c
    else match decimalValue? c with
      | some d => Char.ofNat (0x30 + d)
      | none => '?'

def digitValue? (base : Nat) (c : Char) : Option Nat :=
  let n := c.toNat
  let value? :=
    if 0x30 ≤ n && n ≤ 0x39 then some (n - 0x30)
    else if 0x61 ≤ n && n ≤ 0x66 then some (n - 0x57)
    else if 0x41 ≤ n && n ≤ 0x46 then some (n - 0x37)
    else none
  value?.filter (· < base)

/-- The digits of a numeral in which a low line may stand between two digits, or `none` if it is no
numeral. `inside` tells whether a digit stands before. -/
def digitRun (base : Nat) (inside : Bool) : List Char → Option (List Nat)
  | [] => if inside then some [] else none
  | '_' :: rest => if inside then digitRun base false rest else none
  | c :: rest =>
    match digitValue? base c with
    | some d => (digitRun base true rest).map (d :: ·)
    | none => none

def ofDigits (base : Nat) (digits : List Nat) : Nat :=
  digits.foldl (fun acc d => acc * base + d) 0

inductive ReadFault
  | notInteger (base : Nat) (text : CodeText)
  | tooManyDigits (count : Nat)
  | notFloat (text : CodeText)
  deriving DecidableEq, Repr

def digitLimit : Nat := 4300

def splitSign : List Char → Bool × List Char
  | '-' :: rest => (true, rest)
  | '+' :: rest => (false, rest)
  | cs => (false, cs)

def baseLetter? (base : Nat) : Option Char :=
  if base == 16 then some 'x' else if base == 8 then some 'o' else if base == 2 then some 'b' else none

def dropBaseMark (base : Nat) : List Char → List Char
  | '0' :: c :: rest =>
    if (baseLetter? base).any (fun letter => c == letter || c.toLower == letter) then
      match rest with
      | '_' :: more => more
      | _ => rest
    else '0' :: c :: rest
  | cs => cs

def readInteger (base : Nat) (t : CodeText) : Except ReadFault Int :=
  let (negative, body) := splitSign (plainDigits t)
  match digitRun base false (dropBaseMark base body) with
  | none => .error (.notInteger base t)
  | some digits =>
    if base == 10 && digitLimit < digits.length then .error (.tooManyDigits digits.length)
    else
      let n : Int := ofDigits base digits
      .ok (if negative then -n else n)

def nearestDouble (digits : Nat) (exponent : Int) : Float :=
  if digits == 0 then 0.0
  else
    let leading := exponent + (Nat.toDigits 10 digits).length
    if 310 < leading then 1.0 / 0.0
    else if leading < -330 then 0.0
    else if exponent < 0 then Float.ofScientific digits true exponent.natAbs
    else Float.ofScientific digits false exponent.natAbs

def dropInnerLowLines (before : Option Char) : List Char → Option (List Char)
  | [] => some []
  | '_' :: rest =>
    if before.any Char.isDigit && rest.head?.any Char.isDigit then dropInnerLowLines none rest else none
  | c :: rest => (dropInnerLowLines (some c) rest).map (c :: ·)

def readExponent : List Char → Option Int
  | [] => some 0
  | c :: rest =>
    if c == 'e' || c == 'E' then
      let (negative, digits) := splitSign rest
      if digits.isEmpty || !digits.all Char.isDigit then none
      else
        let n : Int := ofDigits 10 (digits.map fun d => d.toNat - 0x30)
        some (if negative then -n else n)
    else none

/-- An unsigned decimal: digits with a point among or around them, and an exponent. -/
def readDecimal (cs : List Char) : Option Float :=
  let whole := cs.takeWhile Char.isDigit
  let rest := cs.dropWhile Char.isDigit
  let (fraction, tail) := match rest with
    | '.' :: more => (more.takeWhile Char.isDigit, more.dropWhile Char.isDigit)
    | _ => ([], rest)
  if whole.isEmpty && fraction.isEmpty then none
  else (readExponent tail).map fun e =>
    nearestDouble (ofDigits 10 ((whole ++ fraction).map fun d => d.toNat - 0x30)) (e - fraction.length)

/-- The double that a text writes: a decimal, or a word for infinity or for no number. -/
def readFloat (t : CodeText) : Except ReadFault Float :=
  let (negative, body) := splitSign (plainDigits t)
  let word := String.ofList (body.map Char.toLower)
  let value? :=
    if word == "inf" || word == "infinity" then some (1.0 / 0.0 : Float)
    else if word == "nan" then some (0.0 / 0.0 : Float)
    else (dropInnerLowLines none body).bind readDecimal
  match value? with
  | some x => .ok (if negative then -x else x)
  | none => .error (.notFloat t)

def doubleOfInt? (n : Int) : Option Float :=
  if Nat.pow 2 1024 - Nat.pow 2 970 ≤ n.natAbs then none
  else some (if n < 0 then -Float.ofScientific n.natAbs false 0 else Float.ofScientific n.natAbs false 0)

def ReadFault.message : ReadFault → String
  | .notInteger base text =>
    s!"invalid literal for int() with base {base}: " ++ String.ofList ((quotedCodes text).toList.take 200)
  | .tooManyDigits count =>
    s!"Exceeds the limit ({digitLimit} digits) for integer string conversion: value has {count} digits; use sys.set_int_max_str_digits() to increase the limit"
  | .notFloat text => s!"could not convert string to float: {quotedCodes text}"

end Winnow.Number
