import Winnow.Shell.Word

/-!
Arithmetic expressions of the shell: integers, names of variables, brackets, and operators in levels of
precedence. Comparisons and logical operators give one or zero.
-/
set_option autoImplicit false

namespace Winnow.Shell.Arithmetic

inductive Fault
  | divisionByZero
  | operandExpected
  deriving DecidableEq, Repr

def Fault.message : Fault → String
  | .divisionByZero => "division by zero"
  | .operandExpected => "expecting primary"

inductive Token
  | number (n : Int)
  | operator (text : String)
  deriving DecidableEq, Repr

def levels : List (List String) := [
  ["||"], ["&&"], ["|"], ["^"], ["&"], ["==", "!="], ["<=", ">=", "<", ">"], ["<<", ">>"], ["+", "-"],
  ["*", "/", "%"]]

/-- Longer operators first, so that none is taken for its beginning. -/
def operators : List String :=
  ["||", "&&", "==", "!=", "<=", ">=", "<<", ">>", "|", "^", "&", "<", ">", "+", "-", "*", "/", "%", "(", ")", "!", "~"]

/-- The number that digits write: hexadecimal behind `0x`, octal behind `0`. -/
def number? (t : Text) : Option Int :=
  let value (base : Nat) (digits : Text) : Option Int :=
    if digits.isEmpty || !digits.all (fun c => c.isAlphanum) then none
    else some ((digits.foldl (fun n c =>
      n * base + (if c.isDigit then c.toNat - 48 else c.toLower.toNat - 87)) 0 : Nat) : Int)
  match t with
  | '0' :: 'x' :: rest => value 16 rest
  | '0' :: rest => if rest.isEmpty then some 0 else value 8 rest
  | _ => value 10 t

def tokens (bindings : Text → Text) : (fuel : Nat) → Text → Option (List Token)
  | 0, _ | _, [] => some []
  | fuel + 1, c :: rest =>
    if c == ' ' || c == '\t' || c == '\n' then tokens bindings fuel rest
    else if c.isAlphanum || c == '_' then do
      let own := (c :: rest).takeWhile fun c => c.isAlphanum || c == '_'
      let n ← if c.isDigit then number? own
        else
          match bindings own with
          | '-' :: digits => (number? digits).map (- ·)
          | [] => some 0
          | digits => number? digits
      return .number n :: (← tokens bindings fuel ((c :: rest).drop own.length))
    else match operators.find? fun o => o.toList.isPrefixOf (c :: rest) with
      | some o => (tokens bindings fuel ((c :: rest).drop o.length)).map (.operator o :: ·)
      | none => none

def truth (b : Bool) : Int := if b then 1 else 0

def apply (operator : String) (a b : Int) : Except Fault Int :=
  match operator with
  | "||" => .ok (truth (a != 0 || b != 0))
  | "&&" => .ok (truth (a != 0 && b != 0))
  | "|" => .ok (.ofNat (a.toNat ||| b.toNat))
  | "^" => .ok (.ofNat (a.toNat ^^^ b.toNat))
  | "&" => .ok (.ofNat (a.toNat &&& b.toNat))
  | "==" => .ok (truth (a == b))
  | "!=" => .ok (truth (a != b))
  | "<=" => .ok (truth (a ≤ b))
  | ">=" => .ok (truth (b ≤ a))
  | "<" => .ok (truth (a < b))
  | ">" => .ok (truth (b < a))
  | "<<" => .ok (a * Int.pow 2 b.toNat)
  | ">>" => .ok (a / Int.pow 2 b.toNat)
  | "+" => .ok (a + b)
  | "-" => .ok (a - b)
  | "*" => .ok (a * b)
  | "/" => if b == 0 then .error .divisionByZero else .ok (a.tdiv b)
  | "%" => if b == 0 then .error .divisionByZero else .ok (a.tmod b)
  | _ => .error .operandExpected

mutual

def operand : (fuel : Nat) → List Token → Except Fault (Int × List Token)
  | 0, _ => .error .operandExpected
  | fuel + 1, ts =>
    match ts with
    | .number n :: rest => .ok (n, rest)
    | .operator "-" :: rest => (operand fuel rest).map fun (n, r) => (-n, r)
    | .operator "+" :: rest => operand fuel rest
    | .operator "!" :: rest => (operand fuel rest).map fun (n, r) => (truth (n == 0), r)
    | .operator "~" :: rest => (operand fuel rest).map fun (n, r) => (-n - 1, r)
    | .operator "(" :: rest => do
      match ← binary fuel levels rest with
      | (n, .operator ")" :: rest) => return (n, rest)
      | _ => throw .operandExpected
    | _ => .error .operandExpected

def binary : (fuel : Nat) → (levels : List (List String)) → List Token → Except Fault (Int × List Token)
  | 0, _, _ => .error .operandExpected
  | fuel + 1, [], ts => operand fuel ts
  | fuel + 1, level :: tighter, ts => do
    let (n, rest) ← binary fuel tighter ts
    chain fuel level tighter n rest

def chain : (fuel : Nat) → (level : List String) → (tighter : List (List String)) → Int → List Token →
    Except Fault (Int × List Token)
  | 0, _, _, _, _ => .error .operandExpected
  | fuel + 1, level, tighter, n, ts =>
    match ts with
    | .operator o :: rest =>
      if level.contains o then do
        let (m, rest) ← binary fuel tighter rest
        chain fuel level tighter (← apply o n m) rest
      else .ok (n, ts)
    | ts => .ok (n, ts)

end

def value (bindings : Text → Text) (expression : Text) : Except Fault Int :=
  match tokens bindings (expression.length + 1) expression with
  | none => .error .operandExpected
  | some [] => .ok 0
  | some ts => do
    match ← binary (20 * (ts.length + 2)) levels ts with
    | (n, []) => return n
    | _ => throw .operandExpected

end Winnow.Shell.Arithmetic
