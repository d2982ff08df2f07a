import Winnow.Yaml.Tag
import Winnow.Text.Base64
import Winnow.Text.LowerCase

/-!
The values of scalars. A scalar whose tag was given can have any text, so that reading it may fail.
-/
set_option autoImplicit false

namespace Winnow.Yaml
open Winnow.Text Winnow.Number

inductive Scalar
  | null
  | bool (b : Bool)
  | int (n : Int)
  | float (x : Float)
  | text (t : CodeText)
  | bytes (bs : List UInt8)
  | date
  deriving Repr

namespace Scalar

def without (t : CodeText) (c : Char) : CodeText := t.filter (· != c.toNat)

def colonParts : CodeText → List CodeText
  | [] => [[]]
  | c :: rest =>
    if c == ':'.toNat then [] :: colonParts rest
    else match colonParts rest with
      | [] => [[c]]
      | part :: parts => (c :: part) :: parts

def signed (t : CodeText) : Except Fault (Bool × CodeText) :=
  match t with
  | [] => .error .emptyNumber
  | c :: rest =>
    if c == '-'.toNat then .ok (true, rest)
    else if c == '+'.toNat then .ok (false, rest)
    else .ok (false, t)

def integer (base : Nat) (t : CodeText) : Except Fault Int := (readInteger base t).mapError .badNumber

def double (t : CodeText) : Except Fault Float := (readFloat t).mapError .badNumber

/-- The integer that a text writes: in base two, eight or sixteen after its mark, in sixties between colons,
else in base ten. -/
def readInt (t : CodeText) : Except Fault Int := do
  let (negative, body) ← signed (without t '_')
  let n ← match body with
    | [] => throw .emptyNumber
    | [0x30] => pure 0
    | 0x30 :: 0x62 :: rest => integer 2 rest
    | 0x30 :: 0x78 :: rest => integer 16 rest
    | 0x30 :: _ => integer 8 body
    | _ =>
      if body.contains ':'.toNat then do
        let parts ← (colonParts body).mapM (integer 10)
        pure (parts.foldl (fun n part => n * 60 + part) 0)
      else integer 10 body
  return if negative then -n else n

/-- The sum of parts of which each counts sixty times the next one. The last one is added first. -/
def sumSixties (parts : List Float) : Except Fault Float := do
  let (sum, _) ← parts.reverse.foldlM (fun ((sum, unit) : Float × Int) part =>
    match doubleOfInt? unit with
    | some u => .ok (sum + part * u, unit * 60)
    | none => .error .unitTooLarge) (0.0, 1)
  return sum

def lower (t : CodeText) : CodeText :=
  match t.toString? with
  | .ok s => .ofString (lowerCase s)
  | .error _ => t

def readDouble (t : CodeText) : Except Fault Float := do
  let (negative, body) ← signed (lower (without t '_'))
  let x ←
    if body == .ofString ".inf" then pure (1.0 / 0.0)
    else if body == .ofString ".nan" then return 0.0 / 0.0
    else if body.contains ':'.toNat then do sumSixties (← (colonParts body).mapM double)
    else double body
  return if negative then -x else x

def readTruth (t : CodeText) : Except Fault Bool :=
  let word := lower t
  if ["yes", "true", "on"].any (CodeText.ofString · == word) then .ok true
  else if ["no", "false", "off"].any (CodeText.ofString · == word) then .ok false
  else .error (.notTruth word)

def readBytes (t : CodeText) : Except Fault (List UInt8) :=
  if t.all (· < 0x80) then
    match Base64.decode t.display with
    | some bs => .ok bs
    | none => .error .malformed
  else .error .malformed

def daysIn (year month : Nat) : Nat :=
  if month == 2 then
    if year % 4 == 0 && (year % 100 != 0 || year % 400 == 0) then 29 else 28
  else if month == 4 || month == 6 || month == 9 || month == 11 then 30
  else 31

def fieldValue (ds : List Char) : Nat := ofDigits 10 (ds.map fun d => d.toNat - 0x30)

/-- Whether the fields name a day, and a moment of it. The offset is looked at first. -/
def checkDate (d : DateText) : Except Fault Unit := do
  if d.time.isSome then
    if let some (negative, hours, minutes) := d.offset then
      let seconds : Int := fieldValue hours * 3600 + fieldValue minutes * 60
      if 86400 ≤ seconds then throw (.badDate (.offset (if negative then -seconds else seconds)))
  let year := fieldValue d.year
  let month := fieldValue d.month
  let day := fieldValue d.day
  if year == 0 then throw (.badDate (.year year))
  if month == 0 || 12 < month then throw (.badDate .month)
  if day == 0 || daysIn year month < day then throw (.badDate .day)
  if let some (hour, minute, second) := d.time then
    if 23 < fieldValue hour then throw (.badDate .hour)
    if 59 < fieldValue minute then throw (.badDate .minute)
    if 59 < fieldValue second then throw (.badDate .second)

def readDate (t : CodeText) : Except Fault Unit :=
  match DateText.ofChars (formChars t) with
  | some d => checkDate d
  | none => .error .notDate

def ofTag (tag : Tag) (t : CodeText) : Except Fault Scalar :=
  match tag with
  | .null => .ok .null
  | .bool => (readTruth t).map .bool
  | .int => (readInt t).map .int
  | .float => (readDouble t).map .float
  | .binary => (readBytes t).map .bytes
  | .timestamp => (readDate t).map fun _ => .date
  | .str => .ok (.text t)
  | _ => .error .malformed

end Scalar

end Winnow.Yaml
