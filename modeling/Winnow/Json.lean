import Winnow.Text.Quoted

/-!
Writing JSON over several lines: two blanks for each level of nesting, the members of an object in the order
of their names, and everything beyond ASCII escaped.
-/
set_option autoImplicit false

namespace Winnow.Json
open Winnow.Text

inductive Value
  | text (s : String)
  | number (n : Nat)
  | list (items : List Value)
  | object (members : List (String × Value))
  deriving Repr

def escapeUnit (unit : Nat) : List Char := '\\' :: 'u' :: hexDigits 4 unit

/-- One character between double quotes. Beyond sixteen bits it takes two escapes. -/
def escapeChar (c : Char) : List Char :=
  if c == '"' || c == '\\' then ['\\', c]
  else if c == '\n' then ['\\', 'n']
  else if c == '\r' then ['\\', 'r']
  else if c == '\t' then ['\\', 't']
  else if c.toNat == 0x08 then ['\\', 'b']
  else if c.toNat == 0x0C then ['\\', 'f']
  else if 0x20 ≤ c.toNat && c.toNat < 0x7F then [c]
  else if c.toNat < 0x10000 then escapeUnit c.toNat
  else
    let n := c.toNat - 0x10000
    escapeUnit (0xD800 + n / 0x400) ++ escapeUnit (0xDC00 + n % 0x400)

def string (s : String) : String := String.ofList ('"' :: s.toList.flatMap escapeChar ++ ['"'])

def newLine (level : Nat) : String := "\n" ++ String.ofList (List.replicate (2 * level) ' ')

def block (opening closing : String) (level : Nat) (items : List String) : String :=
  if items.isEmpty then opening ++ closing
  else
    opening ++ newLine (level + 1) ++ ("," ++ newLine (level + 1)).intercalate items ++ newLine level ++ closing

mutual

def render (level : Nat) : Value → String
  | .text s => string s
  | .number n => toString n
  | .list items => block "[" "]" level (renderItems (level + 1) items)
  | .object members =>
    let lines := (renderMembers (level + 1) members).mergeSort fun a b => decide (a.1 ≤ b.1)
    block "\x7b" "\x7d" level (lines.map fun line => string line.1 ++ ": " ++ line.2)

def renderItems (level : Nat) : List Value → List String
  | [] => []
  | v :: rest => render level v :: renderItems level rest

def renderMembers (level : Nat) : List (String × Value) → List (String × String)
  | [] => []
  | (name, v) :: rest => (name, render level v) :: renderMembers level rest

end

def Value.render (v : Value) : String := Json.render 0 v

end Winnow.Json
