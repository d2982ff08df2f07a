/-!
Decimal text of binary floating-point numbers. `shortest` finds the fewest digits that read back as the same
number and, among those, the digits nearest to it; `FloatLayout` says how digits and exponent are laid out.
-/
set_option autoImplicit false

namespace Winnow.Number

structure Binary where
  mantissa : Nat
  exponent : Int
  deriving DecidableEq, Repr

structure Decimal where
  digits : Nat
  exponent : Int
  deriving DecidableEq, Repr

inductive Double
  | nan
  | infinite (negative : Bool)
  | zero (negative : Bool)
  | finite (negative : Bool) (value : Binary)
  deriving DecidableEq, Repr

def Double.ofBits (bits : Nat) : Double :=
  let negative := bits / Nat.pow 2 63 % 2 == 1
  let e : Nat := bits / Nat.pow 2 52 % Nat.pow 2 11
  let f : Nat := bits % Nat.pow 2 52
  if e == 2047 then (if f == 0 then .infinite negative else .nan)
  else if e == 0 then (if f == 0 then .zero negative else .finite negative ⟨f, -1074⟩)
  else .finite negative ⟨f + Nat.pow 2 52, (e : Int) - 1075⟩

/-- The reals that round to a double lie between `low / scale` and `high / scale`; the double itself is
`value / scale`. The ends belong to it when its mantissa is even. -/
structure Interval where
  low : Nat
  value : Nat
  high : Nat
  scale : Nat
  closed : Bool

/-- Half the gap to the next double on either side; below a power of two the gap is half as wide. -/
def Binary.interval (b : Binary) : Interval :=
  let up := Nat.pow 2 b.exponent.toNat
  let down := Nat.pow 2 (-b.exponent).toNat
  let below := if b.mantissa == Nat.pow 2 52 && b.exponent != -1074 then 1 else 2
  { low := (4 * b.mantissa - below) * up, value := 4 * b.mantissa * up, high := (4 * b.mantissa + 2) * up,
    scale := 4 * down, closed := b.mantissa % 2 == 0 }

def decimalLength (n : Nat) : Nat := (Nat.toDigits 10 n).length

/-- The exponent of the leading digit of `num / den`, found among the `fuel` steps below one. -/
def leadingBelowOne (num den : Nat) : (fuel : Nat) → Int
  | 0 => 0
  | fuel + 1 => if den ≤ num then 0 else leadingBelowOne (num * 10) den fuel - 1

def Interval.leading (i : Interval) : Int :=
  if i.scale ≤ i.value then decimalLength (i.value / i.scale) - 1
  else leadingBelowOne i.value i.scale 400

def Interval.holds (i : Interval) (d : Nat) (e : Int) : Bool :=
  let x := d * Nat.pow 10 e.toNat * i.scale
  let ten := Nat.pow 10 (-e).toNat
  let low := i.low * ten
  let high := i.high * ten
  if i.closed then low ≤ x && x ≤ high else low < x && x < high

def Interval.onGrid? (i : Interval) (e : Int) : Option Nat :=
  let num := i.value * Nat.pow 10 (-e).toNat
  let den := i.scale * Nat.pow 10 e.toNat
  let below := num / den
  let twice := 2 * (num % den)
  match i.holds below e, i.holds (below + 1) e with
  | true, false => some below
  | false, true => some (below + 1)
  | true, true =>
    some (if twice < den || (twice == den && below % 2 == 0) then below else below + 1)
  | false, false => none

def Interval.search (i : Interval) (leading : Int) (count : Nat) : (fuel : Nat) → Decimal
  | 0 => ⟨i.value / i.scale, 0⟩
  | fuel + 1 =>
    let e := leading - count + 1
    match i.onGrid? e with
    | some d => ⟨d, e⟩
    | none => i.search leading (count + 1) fuel

def Binary.shortest (b : Binary) : Decimal :=
  let i := b.interval
  i.search i.leading 1 17

/-- How decimal digits are laid out: positional between the two exponents of the leading digit, with an
exponent of at least `exponentWidth` digits beyond them. -/
structure FloatLayout where
  positionalFrom : Int
  positionalTo : Int
  exponentWidth : Nat
  infinity : String
  notANumber : String

/-- Positional from ten thousandths up to below ten to the sixteenth, always with a point; two digits of
exponent at least. -/
def floatLayout : FloatLayout := ⟨-4, 15, 2, "inf", "nan"⟩

def Decimal.scientific (d : Decimal) : List Char × Int :=
  let digits := Nat.toDigits 10 d.digits
  let kept := (digits.reverse.dropWhile (· == '0')).reverse
  (if kept.isEmpty then ['0'] else kept, d.exponent + digits.length - 1)

def FloatLayout.positional (digits : List Char) (leading : Int) : List Char :=
  if leading < 0 then
    '0' :: '.' :: List.replicate ((-leading).toNat - 1) '0' ++ digits
  else
    let whole := leading.toNat + 1
    let padded := digits ++ List.replicate (whole - digits.length) '0'
    let fraction := padded.drop whole
    padded.take whole ++ '.' :: (if fraction.isEmpty then ['0'] else fraction)

def FloatLayout.scientific (layout : FloatLayout) (digits : List Char) (leading : Int) : List Char :=
  let fraction := digits.drop 1
  let exponent := (Nat.toDigits 10 leading.natAbs).leftpad layout.exponentWidth '0'
  digits.take 1 ++ (if fraction.isEmpty then [] else '.' :: fraction) ++
    ['e', if leading < 0 then '-' else '+'] ++ exponent

def FloatLayout.render (layout : FloatLayout) : Double → String
  | .nan => layout.notANumber
  | .infinite negative => (if negative then "-" else "") ++ layout.infinity
  | .zero negative => (if negative then "-" else "") ++ "0.0"
  | .finite negative value =>
    let (digits, leading) := value.shortest.scientific
    let body :=
      if layout.positionalFrom ≤ leading && leading ≤ layout.positionalTo
      then FloatLayout.positional digits leading
      else layout.scientific digits leading
    (if negative then "-" else "") ++ String.ofList body

def floatText (x : Float) : String := floatLayout.render (Double.ofBits x.toBits.toNat)

end Winnow.Number
