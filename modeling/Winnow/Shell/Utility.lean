import Winnow.Number.Reading
import Winnow.Shell.Word

/-!
Utilities that print. `echo` and `printf` exist twice: inside the shell and as programs of their own, which
know different escapes and complain in other words.
-/
set_option autoImplicit false

namespace Winnow.Shell

/-- What a utility does: its output, its complaints, each without the name of who complains, its status, and the
time it takes. -/
structure Done where
  output : Text := []
  complaints : List Text := []
  hint : Bool := false
  status : Nat := 0
  seconds : Float := 0

inductive Dialect
  | shell
  | program
  deriving DecidableEq, Repr

/-! Escapes. -/

def characterBytes (code : Nat) : Text := Text.ofString (String.singleton (Char.ofNat code))

def takeDigits (base most : Nat) (t : Text) : Option Nat × Text :=
  let digits := (t.take most).takeWhile fun c => (Number.digitValue? base c).isSome
  if digits.isEmpty then (none, t)
  else (some (digits.foldl (fun n c => n * base + (Number.digitValue? base c).getD 0) 0), t.drop digits.length)

def controls : List (Char × Nat) :=
  [('a', 7), ('b', 8), ('e', 27), ('f', 12), ('n', 10), ('r', 13), ('t', 9), ('v', 11), ('\\', 92)]

/-- Where an escape stands: in a text to echo, in a format, or in an argument that is put into one. -/
inductive EscapePlace
  | echoed
  | format
  | argument
  deriving DecidableEq, Repr

def hexEscape? (letter : Char) (rest : Text) : Option (Text × Text) :=
  let most := if letter == 'x' then 2 else if letter == 'u' then 4 else if letter == 'U' then 8 else 0
  match takeDigits 16 most rest with
  | (some n, rest) => some (if letter == 'x' then [Char.ofNat n] else characterBytes n, rest)
  | (none, _) => none

/-- What a backslash stands for, given what follows it; nothing if the output ends here. An octal number may
have a zero in front of its three digits, except in a format. -/
def escape (d : Dialect) (place : EscapePlace) : Text → Option (Text × Text)
  | [] => some (['\\'], [])
  | c :: rest =>
    let number (most : Nat) (t : Text) (otherwise : Text × Text) : Text × Text :=
      match takeDigits 8 most t with
      | (some n, rest) => ([Char.ofNat (n % 256)], rest)
      | (none, _) => otherwise
    if c == 'c' && (place != .format || d == .program) then none
    else if c == '0' && place != .format then some (number 3 rest (['\x00'], rest))
    else if (Number.digitValue? 8 c).isSome then some (number 3 (c :: rest) ([], rest))
    else match controls.lookup c with
      | some n => some ([Char.ofNat n], rest)
      | none =>
        if c == '"' && d == .program && place != .echoed then some (['"'], rest)
        else match if d == .program then hexEscape? c rest else none with
          | some found => some found
          | none => some (['\\', c], rest)

def unescape (d : Dialect) (place : EscapePlace) : (fuel : Nat) → Text → Text × Bool
  | 0, _ | _, [] => ([], true)
  | fuel + 1, '\\' :: rest =>
    match escape d place rest with
    | none => ([], false)
    | some (t, rest) =>
      let (u, more) := unescape d place fuel rest
      (t ++ u, more)
  | fuel + 1, c :: rest =>
    let (u, more) := unescape d place fuel rest
    (c :: u, more)

/-! `echo` -/

/-- The options of the program, and what is left: whether a line feed is written, and whether escapes count. -/
def echoOptions : (newline escapes : Bool) → List Text → (Bool × Bool) × List Text
  | newline, escapes, ('-' :: c :: cs) :: rest =>
    if (c :: cs).all "neE".toList.contains then
      let escapes := (c :: cs).foldl (fun e c => if c == 'e' then true else if c == 'E' then false else e) escapes
      echoOptions (newline && !(c :: cs).contains 'n') escapes rest
    else ((newline, escapes), ('-' :: c :: cs) :: rest)
  | newline, escapes, rest => ((newline, escapes), rest)

def spaced (arguments : List Text) : Text := [' '].intercalate arguments

def echo (d : Dialect) (arguments : List Text) : Done :=
  let ((newline, escapes), words) := match d with
    | .program => echoOptions true false arguments
    | .shell =>
      if arguments.head? == some ['-', 'n'] then ((false, true), arguments.tail) else ((true, true), arguments)
  let t := spaced words
  let (t, more) := if escapes then unescape d .echoed (t.length + 1) t else (t, true)
  { output := if newline && more then t ++ ['\n'] else t }

/-! `printf` -/

structure Directive where
  flags : Text
  /-- The width and the precision; an argument gives a number that is not written. -/
  width : Option (Option Nat)
  precision : Option (Option Nat)
  conversion : Char
  deriving DecidableEq, Repr

def numberOrStar : Text → Option (Option Nat) × Text
  | '*' :: rest => (some none, rest)
  | t =>
    match takeDigits 10 t.length t with
    | (some n, rest) => (some (some n), rest)
    | (none, rest) => (none, rest)

def directive? (t : Text) : Option (Directive × Text) :=
  let flag (c : Char) : Bool := "#0- +'".toList.contains c
  let (width, rest) := numberOrStar (t.dropWhile flag)
  let (precision, rest) := match rest with
    | '.' :: rest =>
      match numberOrStar rest with
      | (none, rest) => (some (some 0), rest)
      | found => found
    | rest => (none, rest)
  match rest.dropWhile "hljztL".toList.contains with
  | c :: rest => some (⟨t.takeWhile flag, width, precision, c⟩, rest)
  | [] => none

def Directive.pad (d : Directive) (width : Option Int) (zeros : Bool) (sign t : Text) : Text :=
  let left := d.flags.contains '-' || (width.getD 0) < 0
  let missing := (width.getD 0).natAbs - (sign ++ t).length
  if left then sign ++ t ++ List.replicate missing ' '
  else if zeros then sign ++ List.replicate missing '0' ++ t
  else List.replicate missing ' ' ++ sign ++ t

def digitsOf (base n : Nat) : Text := Nat.toDigits base n

def leadingNumber (t : Text) : Option Int × Text :=
  let t := t.dropWhile fun c => c == ' ' || (9 ≤ c.toNat && c.toNat ≤ 13)
  let (negative, digits) := match t with
    | '-' :: rest => (true, rest)
    | '+' :: rest => (false, rest)
    | rest => (false, rest)
  let (value, rest) := match digits with
    | '0' :: 'x' :: rest | '0' :: 'X' :: rest =>
      match takeDigits 16 rest.length rest with
      | (some n, rest) => (some n, rest)
      | (none, _) => (some 0, digits.tail)
    | '0' :: _ => takeDigits 8 digits.length digits
    | _ => takeDigits 10 digits.length digits
  (value.map fun n => if negative then -(n : Int) else n, rest)

def curled (t : Text) : Text := Text.ofString "‘" ++ t ++ Text.ofString "’"

def numberOf (d : Dialect) (t : Text) : Int × Option Text :=
  let quote (t : Text) : Text := if d == .shell then t else curled t
  match t with
  | [] => (0, none)
  | c :: rest =>
    if (c == '\'' || c == '"') && !rest.isEmpty then ((rest.headD c).toNat, none)
    else match leadingNumber t with
      | (none, _) =>
        (0, some (quote t ++ (if d == .shell then ": expected numeric value" else ": expected a numeric value").toList))
      | (some n, []) => (n, none)
      | (some n, _) =>
        (n, some (quote t ++ (if d == .shell then ": not completely converted" else ": value not completely converted").toList))

structure Filling where
  done : Done := {}
  arguments : List Text
  used : Bool := false
  stopped : Bool := false

namespace Filling

def add (f : Filling) (t : Text) : Filling := { f with done := { f.done with output := f.done.output ++ t } }

def complain (f : Filling) (t : Text) : Filling :=
  { f with done := { f.done with complaints := f.done.complaints ++ [t], status := 1 } }

def next (f : Filling) : Text × Filling :=
  (f.arguments.headD [], { f with arguments := f.arguments.tail, used := true })

def nextNumber (d : Dialect) (f : Filling) : Int × Filling :=
  let (t, f) := f.next
  match numberOf d t with
  | (n, none) => (n, f)
  | (n, some complaint) => (n, f.complain complaint)

def size (d : Dialect) (f : Filling) : Option (Option Nat) → Option Int × Filling
  | none => (none, f)
  | some (some n) => (some n, f)
  | some none =>
    let (n, f) := f.nextNumber d
    (some n, f)

/-- Puts an argument where a directive is. Nothing if the directive is not known. -/
def put (dialect : Dialect) (d : Directive) (f : Filling) : Option Filling :=
  let (width, f) := f.size dialect d.width
  let (precision, f) := f.size dialect d.precision
  let cut (t : Text) : Text := match precision with
    | some p => if p < 0 then t else t.take p.toNat
    | none => t
  let least (t : Text) : Text :=
    if precision == some 0 && t == ['0'] then []
    else List.replicate ((precision.getD 0).toNat - t.length) '0' ++ t
  let zeros := d.flags.contains '0' && precision.isNone
  let unsigned (base : Nat) (mark : Text) : Option Filling :=
    let (n, f) := f.nextNumber dialect
    let value := (n % (Nat.pow 2 64 : Nat)).toNat
    let sign := if d.flags.contains '#' && value != 0 then mark else []
    some (f.add (d.pad width zeros sign (least (digitsOf base value))))
  match d.conversion with
  | 's' =>
    let (t, f) := f.next
    some (f.add (d.pad width false [] (cut t)))
  | 'c' =>
    let (t, f) := f.next
    some (f.add (d.pad width false [] (t.take 1)))
  | 'b' =>
    let (t, f) := f.next
    let (t, more) := unescape dialect .argument (t.length + 1) t
    some { f.add (d.pad width false [] (cut t)) with stopped := !more }
  | 'd' | 'i' =>
    let (n, f) := f.nextNumber dialect
    let sign : Text := if n < 0 then ['-'] else if d.flags.contains '+' then ['+']
      else if d.flags.contains ' ' then [' '] else []
    some (f.add (d.pad width zeros sign (least (digitsOf 10 n.natAbs))))
  | 'u' => unsigned 10 []
  | 'o' => unsigned 8 ['0']
  | 'x' => unsigned 16 ['0', 'x']
  | 'X' =>
    (unsigned 16 ['0', 'x']).map fun g =>
      { g with done := { g.done with
          output := f.done.output ++ (g.done.output.drop f.done.output.length).map Char.toUpper } }
  | _ => none

def failed (dialect : Dialect) (f : Filling) : Filling :=
  { f with done := { f.done with status := if dialect == .shell then 2 else 1 } }

def fill (dialect : Dialect) : (fuel : Nat) → Text → Filling → Filling
  | 0, _, f | _, [], f => f
  | fuel + 1, '%' :: '%' :: rest, f => fill dialect fuel rest (f.add ['%'])
  | fuel + 1, '%' :: rest, f =>
    match directive? rest with
    | none =>
      let complaint := match dialect with
        | .shell => "missing format character"
        | .program => "%" ++ String.ofList rest ++ ": invalid conversion specification"
      { (f.complain complaint.toList).failed dialect with stopped := true }
    | some (d, after) =>
      match f.put dialect d with
      | some f => if f.stopped then f else fill dialect fuel after f
      | none =>
        let written := '%' :: rest.take (rest.length - after.length)
        let complaint := match dialect with
          | .shell => ": invalid directive"
          | .program => ": invalid conversion specification"
        { (f.complain (written ++ complaint.toList)).failed dialect with stopped := true }
  | fuel + 1, '\\' :: rest, f =>
    match escape dialect .format rest with
    | some (t, rest) => fill dialect fuel rest (f.add t)
    | none => { f with stopped := true }
  | fuel + 1, c :: rest, f => fill dialect fuel rest (f.add [c])

/-- Fills a format again and again, as long as it uses arguments and there are any left. -/
def fillAll (dialect : Dialect) (format : Text) : (fuel : Nat) → Filling → Filling
  | 0, f => f
  | fuel + 1, f =>
    let f := fill dialect (format.length + 1) format { f with used := false }
    if f.stopped || !f.used || f.arguments.isEmpty then f else fillAll dialect format fuel f

end Filling

def printf (d : Dialect) : List Text → Done
  | ['-', '-'] :: format :: arguments | format :: arguments =>
    (Filling.fillAll d format (arguments.length + 1) { arguments }).done
  | [] =>
    match d with
    | .shell => { complaints := ["usage: printf format [arg ...]".toList], status := 2 }
    | .program => { complaints := ["missing operand".toList], hint := true, status := 1 }

/-! `sleep` -/

def seconds? (t : Text) : Option Float :=
  let factor : Option (Float × Text) := match t.getLast? with
    | some 's' => some (1, t.dropLast)
    | some 'm' => some (60, t.dropLast)
    | some 'h' => some (3600, t.dropLast)
    | some 'd' => some (86400, t.dropLast)
    | _ => some (1, t)
  factor.bind fun (f, digits) =>
    let (whole, fraction) := Text.cut '.' digits
    let fraction := fraction.getD []
    if (whole ++ fraction).isEmpty || !(whole ++ fraction).all Char.isDigit then none
    else
      let n := (whole ++ fraction).foldl (fun n c => n * 10 + (c.toNat - 48)) 0
      some (f * Float.ofScientific n true fraction.length)

def sleep (arguments : List Text) : Done :=
  if arguments.isEmpty then { complaints := ["missing operand".toList], hint := true, status := 1 }
  else match arguments.mapM seconds? with
    | some times => { seconds := times.foldl (· + ·) 0 }
    | none =>
      let wrong := arguments.filter fun a => (seconds? a).isNone
      { complaints := wrong.map fun a => "invalid time interval ".toList ++ curled a, hint := true, status := 1 }

end Winnow.Shell
