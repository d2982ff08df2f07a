import Winnow.Pattern.CharTest
import Winnow.Pattern.Error
import Winnow.Pattern.Width

/-!
Patterns made ready to run. The flags of a pattern are worked into tests on single characters and on places,
and the width of each look-behind is fixed. `Program.run` tries the ways to match one after the other, each
time with what is to follow as a continuation, and gives the first that lets the rest succeed.
-/
set_option autoImplicit false

namespace Winnow.Pattern
open Winnow.Text

abbrev Subject := Array Nat

inductive Program
  | pass
  | one (test : Nat → Bool)
  /-- A place that passes the test; nothing is taken. -/
  | place (test : Subject → Nat → Bool)
  | seq (a b : Program)
  | alt (a b : Program)
  | fail
  | run (mode : RepeatMode) (min : Nat) (max : Option Nat) (test : Nat → Bool)
  | loop (mode : RepeatMode) (min : Nat) (max : Option Nat) (body : Program)
  | capture (number : Nat) (body : Program)
  | atomic (body : Program)
  | ahead (negated : Bool) (body : Program)
  | behind (width : Nat) (negated : Bool) (body : Program)
  | again (number : Nat) (fold : Nat → Nat)
  | ifMatched (number : Nat) (yes no : Program)

/-- How far matching has come: the place, and where each group began and ended last. Group `n` has the
entries `2 * n - 2` and `2 * n - 1`. -/
structure Spot where
  at_ : Nat
  marks : Array (Option Nat)
  deriving DecidableEq, Repr

def Spot.mark (p : Spot) (i : Nat) : Spot := { p with marks := p.marks.setIfInBounds i (some p.at_) }

def Spot.span? (p : Spot) (number : Nat) : Option (Nat × Nat) :=
  match (p.marks[2 * number - 2]?).join, (p.marks[2 * number - 1]?).join with
  | some start, some stop => if start ≤ stop then some (start, stop) else none
  | _, _ => none

abbrev Next := Spot → Option Spot

def runLength (s : Subject) (test : Nat → Bool) (at_ : Nat) : (limit : Nat) → Nat
  | 0 => 0
  | limit + 1 =>
    match s[at_]? with
    | some c => if test c then runLength s test (at_ + 1) limit + 1 else 0
    | none => 0

/-- The first of the places `at_ + count`, …, `at_ + min` that lets the rest succeed, the farthest first. -/
def backOff (k : Next) (p : Spot) (min : Nat) : (extra : Nat) → Option Spot
  | 0 => k { p with at_ := p.at_ + min }
  | extra + 1 =>
    match k { p with at_ := p.at_ + (min + extra + 1) } with
    | some q => some q
    | none => backOff k p min extra

/-- The first of the places `at_ + count`, `at_ + count + 1`, … that lets the rest succeed. -/
def goOn (k : Next) (p : Spot) (count : Nat) : (extra : Nat) → Option Spot
  | 0 => k { p with at_ := p.at_ + count }
  | extra + 1 =>
    match k { p with at_ := p.at_ + count } with
    | some q => some q
    | none => goOn k p (count + 1) extra

def runChars (s : Subject) (mode : RepeatMode) (min : Nat) (max : Option Nat) (test : Nat → Bool)
    (k : Next) (p : Spot) : Option Spot :=
  let room := s.size - p.at_
  let count := runLength s test p.at_ (match max with | some n => Nat.min n room | none => room)
  if count < min then none
  else match mode with
    | .greedy => backOff k p min (count - min)
    | .lazy => goOn k p min (count - min)
    | .possessive => k { p with at_ := p.at_ + count }

def mayRepeat (max : Option Nat) (count : Nat) : Bool := max.all (count < ·)

/-- Rounds of `body`, as many as possible first. Beyond the least number a round that took nothing is the
last; `last` is where the round before began. -/
def loopGreedy (body : Next → Next) (k : Next) (min : Nat) (max : Option Nat) :
    (fuel : Nat) → (count : Nat) → (last : Option Nat) → Next
  | 0, _, _ => k
  | fuel + 1, count, last => fun p =>
    if count < min then body (loopGreedy body k min max fuel (count + 1) last) p
    else if mayRepeat max count && last != some p.at_ then
      match body (loopGreedy body k min max fuel (count + 1) (some p.at_)) p with
      | some q => some q
      | none => k p
    else k p

def loopLazy (body : Next → Next) (k : Next) (min : Nat) (max : Option Nat) :
    (fuel : Nat) → (count : Nat) → (last : Option Nat) → Next
  | 0, _, _ => k
  | fuel + 1, count, last => fun p =>
    if count < min then body (loopLazy body k min max fuel (count + 1) last) p
    else match k p with
      | some q => some q
      | none =>
        if mayRepeat max count && last != some p.at_ then
          body (loopLazy body k min max fuel (count + 1) (some p.at_)) p
        else none

/-- Rounds of `body`, each as it first succeeds, as many as possible and never fewer. -/
def loopPossessive (body : Next → Next) (min : Nat) (max : Option Nat) :
    (fuel : Nat) → (count : Nat) → Next
  | 0, _ => some
  | fuel + 1, count => fun p =>
    if count < min then
      match body some p with
      | some q => loopPossessive body min max fuel (count + 1) q
      | none => none
    else if mayRepeat max count then
      match body some p with
      | some q => if q.at_ == p.at_ then some q else loopPossessive body min max fuel (count + 1) q
      | none => some p
    else some p

def sameText (s : Subject) (fold : Nat → Nat) (start at_ : Nat) : (length : Nat) → Bool
  | 0 => true
  | length + 1 =>
    match s[start]?, s[at_]? with
    | some c, some d => fold c == fold d && sameText s fold (start + 1) (at_ + 1) length
    | _, _ => false

def Program.exec (s : Subject) : Program → Next → Next
  | .pass, k => k
  | .fail, _ => fun _ => none
  | .one test, k => fun p =>
    match s[p.at_]? with
    | some c => if test c then k { p with at_ := p.at_ + 1 } else none
    | none => none
  | .place test, k => fun p => if test s p.at_ then k p else none
  | .seq a b, k => a.exec s (b.exec s k)
  | .alt a b, k => fun p =>
    match a.exec s k p with
    | some q => some q
    | none => b.exec s k p
  | .run mode min max test, k => runChars s mode min max test k
  | .loop mode min max body, k => fun p =>
    let fuel := min + (s.size - p.at_) + 2
    match mode with
    | .greedy => loopGreedy (body.exec s) k min max fuel 0 none p
    | .lazy => loopLazy (body.exec s) k min max fuel 0 none p
    | .possessive => (loopPossessive (body.exec s) min max fuel 0 p).bind k
  | .capture number body, k => fun p =>
    body.exec s (fun q => k (q.mark (2 * number - 1))) (p.mark (2 * number - 2))
  | .atomic body, k => fun p => (body.exec s some p).bind k
  | .ahead negated body, k => fun p =>
    match body.exec s some p with
    | some q => if negated then none else k { q with at_ := p.at_ }
    | none => if negated then k p else none
  | .behind width negated body, k => fun p =>
    if p.at_ < width then (if negated then k p else none)
    else
      match body.exec s some { p with at_ := p.at_ - width } with
      | some q => if negated then none else k { q with at_ := p.at_ }
      | none => if negated then k p else none
  | .again number fold, k => fun p =>
    match p.span? number with
    | some (start, stop) =>
      if sameText s fold start p.at_ (stop - start) then k { p with at_ := p.at_ + (stop - start) }
      else none
    | none => none
  | .ifMatched number yes no, k => fun p =>
    if (p.span? number).isSome then yes.exec s k p else no.exec s k p

def onWordEdge (ascii : Bool) (s : Subject) (at_ : Nat) : Bool :=
  let word (c : Option Nat) : Bool := c.any (CharClass.word.accepts ascii)
  let before := if at_ = 0 then none else s[at_ - 1]?
  word before != word s[at_]?

/-- The places that an anchor names. Neither an edge of a word nor its contrary is found in an empty text. -/
def Anchor.test (m : Mode) : Anchor → Subject → Nat → Bool
  | .textStart, _, i => i == 0
  | .textEnd, s, i => i == s.size
  | .lineStart, s, i => i == 0 || (m.multiline && s[i - 1]? == some 0x0A)
  | .lineEnd, s, i =>
    i == s.size || (s[i]? == some 0x0A && (m.multiline || i + 1 == s.size))
  | .wordEdge, s, i => s.size != 0 && onWordEdge m.ascii s i
  | .noWordEdge, s, i => s.size != 0 && !onWordEdge m.ascii s i

def oneTest? (m : Mode) : List Node → Option (Nat → Bool)
  | [.char c] => some (m.sameChar c)
  | [.notChar c] => some fun x => !m.sameChar c x
  | [.any] => some fun x => m.dotAll || x != 0x0A
  | [.set negated items] => some (m.inSet negated items)
  | _ => none

def RepeatMode.operator : RepeatMode → String
  | .greedy => "MAX_REPEAT"
  | .lazy => "MIN_REPEAT"
  | .possessive => "POSSESSIVE_REPEAT"

def lookbehindLimit : Nat := 4294967295

mutual

def Node.program (groups : List (Option Width)) (m : Mode) : Node → Except Error Program
  | .char c => .ok (.one (m.sameChar c))
  | .notChar c => .ok (.one fun x => !m.sameChar c x)
  | .any => .ok (.one fun x => m.dotAll || x != 0x0A)
  | .set negated items => .ok (.one (m.inSet negated items))
  | .anchor a => .ok (.place (a.test m))
  | .repeat_ mode min max body =>
    if m.template then .error (.malformed (.repeatInTemplate mode.operator) none)
    else match oneTest? m body with
      | some test => .ok (.run mode min max test)
      | none => do return .loop mode min max (← programs groups m body)
  | .group none added removed body => programs groups (m.switch added removed) body
  | .group (some number) added removed body => do
    return .capture number (← programs groups (m.switch added removed) body)
  | .atomic body => do return .atomic (← programs groups m body)
  | .alternation branches => anyProgram groups m branches
  | .look false negated body => do return .ahead negated (← programs groups m body)
  | .look true negated body =>
    let w := width groups body
    if lookbehindLimit < w.low then .error (.malformed .lookbehindTooWide none)
    else if w.low != w.high then .error (.malformed .lookbehindNotFixed none)
    else do return .behind w.low negated (← programs groups m body)
  | .backReference number => .ok (.again number m.fold)
  | .conditional number yes no => do
    let a ← programs groups m yes
    match no with
    | some branch => return .ifMatched number a (← programs groups m branch)
    | none => return .ifMatched number a .pass

def programs (groups : List (Option Width)) (m : Mode) : List Node → Except Error Program
  | [] => .ok .pass
  | [node] => node.program groups m
  | node :: rest => do return .seq (← node.program groups m) (← programs groups m rest)

def anyProgram (groups : List (Option Width)) (m : Mode) : List (List Node) → Except Error Program
  | [] => .ok .fail
  | [branch] => programs groups m branch
  | branch :: rest => do return .alt (← programs groups m branch) (← anyProgram groups m rest)

end

def Program.findFrom (prog : Program) (s : Subject) (groups at_ : Nat) : (room : Nat) → Option Spot
  | 0 => none
  | room + 1 =>
    match prog.exec s some ⟨at_, Array.replicate (2 * groups) none⟩ with
    | some q => some q
    | none => prog.findFrom s groups (at_ + 1) room

def Program.find? (prog : Program) (groups : Nat) (s : Subject) : Option Spot :=
  prog.findFrom s groups 0 (s.size + 1)

end Winnow.Pattern
