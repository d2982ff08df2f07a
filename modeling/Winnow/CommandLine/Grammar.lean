import Winnow.Text.Decimal
import Winnow.Text.Quoted

/-!
Reading a command line by a grammar: options, which may be abbreviated and joined, and positional arguments.
An argument that begins with a hyphen is an option, unless it is a number, is a hyphen alone, holds a blank
and is no known option, or comes after two hyphens.
-/
set_option autoImplicit false

namespace Winnow.CommandLine
open Winnow.Text

/-- An option. One of a single letter takes no value. -/
structure Opt where
  names : List String
  takesValue : Bool := false
  rivals : List String := []
  deriving DecidableEq, Repr

def Opt.key (o : Opt) : String := o.names.getLast?.getD ""

def Opt.title (o : Opt) : String := "/".intercalate o.names

inductive Positional
  | none
  | words (name : String)
  | command (name : String) (choices : List String)
  deriving DecidableEq, Repr

structure Grammar where
  options : List Opt
  positional : Positional
  deriving DecidableEq, Repr

inductive UsageError
  | help
  | missing (name : String)
  | badChoice (name value : String) (choices : List String)
  | valueExpected (option : Opt)
  | rival (option other : Opt)
  | valueIgnored (option : Opt) (value : String)
  | ambiguous (argument : String) (candidates : List String)
  | unrecognized (arguments : List String)
  deriving DecidableEq, Repr

def UsageError.message : UsageError → String
  | .help => ""
  | .missing name => s!"the following arguments are required: {name}"
  | .badChoice name value choices =>
    let choices := ", ".intercalate (choices.map quoted)
    s!"argument {name}: invalid choice: {quoted value} (choose from {choices})"
  | .valueExpected o => s!"argument {o.title}: expected one argument"
  | .rival o other => s!"argument {o.title}: not allowed with argument {other.title}"
  | .valueIgnored o value => s!"argument {o.title}: ignored explicit argument {quoted value}"
  | .ambiguous argument candidates =>
    let candidates := ", ".intercalate candidates
    s!"ambiguous option: {argument} could match {candidates}"
  | .unrecognized arguments => "unrecognized arguments: " ++ " ".intercalate arguments

inductive Attached
  | no
  | explicitly (value : String)
  | directly (value : String)
  deriving DecidableEq, Repr

inductive Kind
  | word
  | separator
  | option (o : Opt) (attached : Attached)
  | stranger
  deriving DecidableEq, Repr

def Kind.isOption : Kind → Bool
  | .option .. | .stranger => true
  | _ => false

namespace Grammar

def names (g : Grammar) : List (String × Opt) := g.options.flatMap fun o => o.names.map (·, o)

def named? (g : Grammar) (name : String) : Option Opt := g.names.lookup name

def splitEquals (cs : List Char) : List Char × Option (List Char) :=
  match cs.dropWhile (· != '=') with
  | [] => (cs, none)
  | _ :: value => (cs.takeWhile (· != '='), some value)

/-- Whether a text is a number below zero: digits, with or without a point among or before them. -/
def isNegativeNumber : List Char → Bool
  | '-' :: cs =>
    let cs := if cs.getLast? == some '\n' then cs.dropLast else cs
    let isDigit (c : Char) : Bool := isDecimal c.toNat
    match cs.dropWhile isDigit with
    | [] => !cs.isEmpty
    | '.' :: fraction => !fraction.isEmpty && fraction.all isDigit
    | _ => false
  | _ => false

def attachedAfter (value : Option (List Char)) : Attached :=
  match value with
  | some v => .explicitly (String.ofList v)
  | none => .no

/-- The options that an argument with one or two hyphens can mean: those whose name begins with it, or a
short one with a value directly after it. -/
def candidates (g : Grammar) (cs : List Char) : List (String × Opt × Attached) :=
  match cs with
  | '-' :: '-' :: _ =>
    let (lead, value) := splitEquals cs
    (g.names.filter fun n => lead.isPrefixOf n.1.toList).map fun n => (n.1, n.2, attachedAfter value)
  | _ =>
    g.names.filterMap fun n =>
      if n.1.toList == cs.take 2 then some (n.1, n.2, .directly (String.ofList (cs.drop 2)))
      else if cs.isPrefixOf n.1.toList then some (n.1, n.2, .no)
      else none

def kind (g : Grammar) (argument : String) : Except UsageError Kind :=
  let cs := argument.toList
  if cs.head? != some '-' then .ok .word
  else match g.named? argument with
    | some o => .ok (.option o .no)
    | none =>
      if cs.length == 1 then .ok .word
      else
        let (name, value) := splitEquals cs
        match value, g.named? (String.ofList name) with
        | some v, some o => .ok (.option o (.explicitly (String.ofList v)))
        | _, _ =>
          match g.candidates cs with
          | [] => .ok (if isNegativeNumber cs || cs.contains ' ' then .word else .stranger)
          | [(_, o, attached)] => .ok (.option o attached)
          | several => .error (.ambiguous argument (several.map (·.1)))

def kinds (g : Grammar) : List String → Except UsageError (List (String × Kind))
  | [] => .ok []
  | argument :: rest =>
    if argument == "--" then .ok ((argument, .separator) :: rest.map (·, .word))
    else do return (argument, ← g.kind argument) :: (← g.kinds rest)

end Grammar

structure Reading where
  given : List (Opt × String) := []
  words : Option (List String) := none
  extras : List String := []

namespace Reading

def take (r : Reading) (o : Opt) (value : String) : Except UsageError Reading :=
  if o.key == "--help" then .error .help
  else match r.given.find? fun g => o.rivals.contains g.1.key with
    | some (other, _) => .error (.rival o other)
    | none => .ok { r with given := r.given ++ [(o, value)] }

/-- The short options joined in one argument: `o`, and those whose letters are in `tail`. What is left from a
letter of no option on has no place. -/
def joined (g : Grammar) (o : Opt) (found : List Opt) : (tail : List Char) →
    Except UsageError (List Opt × List String)
  | [] => .ok (found ++ [o], [])
  | c :: tail =>
    if c == '-' then .error (.valueIgnored o (String.ofList (c :: tail)))
    else match g.named? (String.ofList ['-', c]) with
      | none => .ok (found ++ [o], [String.ofList ('-' :: c :: tail)])
      | some next =>
        match tail with
        | '=' :: value => .error (.valueIgnored next (String.ofList value))
        | _ => joined g next (found ++ [o]) tail

def option (g : Grammar) (r : Reading) (o : Opt) (attached : Attached) (rest : List (String × Kind)) :
    Except UsageError (Reading × List (String × Kind)) :=
  match attached with
  | .explicitly value =>
    if o.takesValue then do return (← r.take o value, rest)
    else .error (.valueIgnored o value)
  | .directly tail => do
    let (found, extras) ← joined g o [] tail.toList
    let r ← found.foldlM (fun r o => r.take o "") r
    return ({ r with extras := r.extras ++ extras }, rest)
  | .no =>
    if o.takesValue then
      match rest with
      | (value, .word) :: rest => do return (← r.take o value, rest)
      | _ => .error (.valueExpected o)
    else do return (← r.take o "", rest)

def run (items : List (String × Kind)) : List String :=
  (items.takeWhile fun i => !i.2.isOption).map (·.1)

def wordCount (g : Grammar) (r : Reading) (items : List (String × Kind)) : Nat :=
  let head := items.takeWhile fun i => !i.2.isOption
  if r.words.isSome || !(head.any fun i => i.2 == .word) then 0
  else match g.positional with
    | .none => 0
    | .words _ => head.length
    | .command .. => items.length

/-- Reads all arguments; `fuel` bounds their number. -/
def all (g : Grammar) : (fuel : Nat) → Reading → List (String × Kind) → Except UsageError Reading
  | 0, r, _ => .ok r
  | _, r, [] => .ok r
  | fuel + 1, r, (argument, kind) :: rest =>
    match kind with
    | .option o attached => do
      let (r, rest) ← option g r o attached rest
      all g fuel r rest
    | .stranger => all g fuel { r with extras := r.extras ++ [argument] } rest
    | .word | .separator =>
      let items := (argument, kind) :: rest
      match wordCount g r items with
      | 0 =>
        let extra := run items
        all g fuel { r with extras := r.extras ++ extra } (items.drop extra.length)
      | n =>
        let words := (items.take n).map (·.1)
        all g fuel { r with words := some words } (items.drop n)

end Reading

def Grammar.read (g : Grammar) (arguments : List String) : Except UsageError Reading := do
  let items ← g.kinds arguments
  let r ← Reading.all g (items.length + 1) {} items
  match g.positional, r.words with
  | .words name, none => throw (.missing name)
  | .command name _, none => throw (.missing name)
  | .words _, some words => return { r with words := some (words.erase "--") }
  | .command name choices, some (first :: _) =>
    if choices.contains first then return r else throw (.badChoice name first choices)
  | _, _ => return r

end Winnow.CommandLine
