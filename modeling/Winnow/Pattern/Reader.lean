import Winnow.Number.Reading
import Winnow.Pattern.Error
import Winnow.Pattern.Width
import Winnow.Text.CharacterName
import Winnow.Text.Identifier

/-!
Reading a search pattern. A pattern is cut into tokens first: a character, or a backslash with the character
after it. The reader then descends through alternatives, sequences and items. Faults are found from left to
right; a backslash that ends the pattern is found as soon as the token before it is taken.
-/
set_option autoImplicit false

namespace Winnow.Pattern
open Winnow.Text

inductive Token
  | lone (c : Nat)
  | escaped (c : Nat)
  | dangling
  deriving DecidableEq, Repr

def Token.width : Token → Nat
  | .escaped _ => 2
  | _ => 1

def Token.text : Token → CodeText
  | .lone c => [c]
  | .escaped c => [0x5C, c]
  | .dangling => [0x5C]

def Token.is (t : Token) (c : Char) : Bool := t == .lone c.toNat

def Token.lone? : Token → Option Nat
  | .lone c => some c
  | _ => none

def tokens : CodeText → List Token
  | [] => []
  | 0x5C :: c :: rest => .escaped c :: tokens rest
  | [c] => [if c = 0x5C then .dangling else .lone c]
  | c :: rest => .lone c :: tokens rest

structure Reading where
  rest : List Token
  offset : Nat
  flags : List Flag := []
  names : List (CodeText × Nat) := []
  widths : List (Option Width) := [none]
  lookbehindGroups : Option Nat := none
  conditions : List (Nat × Nat) := []

/-- Why reading stopped: a fault at an offset, or an error that has no place. -/
inductive Stop
  | fault (f : Fault) (offset : Nat)
  | error (e : Error)

abbrev Reader := StateT Reading (Except Stop)

def failAt {α : Type} (offset : Nat) (f : Fault) : Reader α := throw (.fault f offset)

def failBack {α : Type} (f : Fault) (back : Nat) : Reader α := do failAt ((← get).offset - back) f

def offset : Reader Nat := return (← get).offset

def next? : Reader (Option Token) := return (← get).rest.head?

def moveTo (rest : List Token) (width : Nat) : Reader Unit := do
  let s ← get
  if rest.head? == some .dangling then failAt (s.offset + width) .escapeAtEnd
  set { s with rest, offset := s.offset + width }

def advance : Reader Unit := do
  match (← get).rest with
  | [] => pure ()
  | t :: rest => moveTo rest t.width

def take? : Reader (Option Token) := do
  let t ← next?
  advance
  return t

def accept (c : Char) : Reader Bool := do
  match ← next? with
  | some t => if t.is c then advance; return true else return false
  | none => return false

def takeTokens (p : Token → Bool) : Reader CodeText := do
  let (taken, rest) := (← get).rest.span fun t => t != .dangling && p t
  moveTo rest ((taken.map Token.width).foldr (· + ·) 0)
  return taken.flatMap Token.text

def takeUpTo (p : Nat → Bool) : (n : Nat) → Reader CodeText
  | 0 => return []
  | n + 1 => do
    match ← next? with
    | some (.lone c) => if p c then advance; return c :: (← takeUpTo p n) else return []
    | _ => return []

def takeName (terminator : Char) (what : String) : Reader CodeText := do
  let name ← takeTokens fun t => !t.is terminator
  match ← next? with
  | none =>
    if name.isEmpty then failBack (.missing what) 0
    else failBack (.unterminatedName terminator.toString) name.length
  | some _ =>
    advance
    if name.isEmpty then failBack (.missing what) 1
    return name

def isOctal (c : Nat) : Bool := 0x30 ≤ c && c ≤ 0x37
def isPlainDigit (c : Nat) : Bool := 0x30 ≤ c && c ≤ 0x39
def isHex (c : Nat) : Bool := isPlainDigit c || (0x61 ≤ c && c ≤ 0x66) || (0x41 ≤ c && c ≤ 0x46)
def isPlainLetter (c : Nat) : Bool := (0x61 ≤ c && c ≤ 0x7A) || (0x41 ≤ c && c ≤ 0x5A)

def numeral (base : Nat) (digits : CodeText) : Nat :=
  Number.ofDigits base (digits.map fun c => (Number.digitValue? 16 (Char.ofNat c)).getD 0)

def controlEscape? (c : Nat) : Option Nat :=
  match Char.ofNat c with
  | 'a' => some 0x07
  | 'b' => some 0x08
  | 'f' => some 0x0C
  | 'n' => some 0x0A
  | 'r' => some 0x0D
  | 't' => some 0x09
  | 'v' => some 0x0B
  | '\\' => some 0x5C
  | _ => none

def classEscape? (c : Nat) : Option SetItem :=
  match Char.ofNat c with
  | 'd' => some (.class_ .digit false)
  | 'D' => some (.class_ .digit true)
  | 's' => some (.class_ .blank false)
  | 'S' => some (.class_ .blank true)
  | 'w' => some (.class_ .word false)
  | 'W' => some (.class_ .word true)
  | _ => none

def anchorEscape? (c : Nat) : Option Anchor :=
  match Char.ofNat c with
  | 'A' => some .textStart
  | 'b' => some .wordEdge
  | 'B' => some .noWordEdge
  | 'Z' => some .textEnd
  | _ => none

/-- The character that `\x`, `\u`, `\U` or `\N` names; `start` is the offset of the backslash. -/
def codeEscape? (start c : Nat) : Reader (Option Nat) := do
  let digits (count : Nat) : Reader (Option Nat) := do
    let taken ← takeUpTo isHex count
    if taken.length != count then failAt start (.incompleteEscape (0x5C :: c :: taken))
    let code := numeral 16 taken
    if code ≥ 0x110000 then failAt start (.badEscape (0x5C :: c :: taken))
    return some code
  match Char.ofNat c with
  | 'x' => digits 2
  | 'u' => digits 4
  | 'U' => digits 8
  | 'N' =>
    if !(← accept '\x7b') then failBack (.missing "\x7b") 0
    let name ← takeName '\x7d' "character name"
    match characterNamed? name with
    | some code => return some code
    | none => failBack (.undefinedCharacter name) (name.length + 4)
  | _ => return none

/-- A character after a backslash that has no other meaning: no letter, which is kept for the future. -/
def plainEscape (start c : Nat) : Reader Nat := do
  if isPlainLetter c then failAt start (.badEscape [0x5C, c])
  return c

def octalEscape (start : Nat) (digits : CodeText) : Reader Nat := do
  let code := numeral 8 digits
  if code > 0o377 then failAt start (.octalTooLarge (0x5C :: digits))
  return code

def setEscape (start c : Nat) : Reader SetItem := do
  match controlEscape? c, classEscape? c with
  | some code, _ => return .char code
  | none, some item => return item
  | none, none =>
    match ← codeEscape? start c with
    | some code => return .char code
    | none =>
      if isOctal c then return .char (← octalEscape start (c :: (← takeUpTo isOctal 2)))
      if isPlainDigit c then failAt start (.badEscape [0x5C, c])
      return .char (← plainEscape start c)

def isClosed (number : Nat) : Reader Bool := return ((← get).widths[number]?.join).isSome

/-- Inside a look-behind only groups closed before it may be referred to. -/
def checkLookbehind (number : Nat) : Reader Unit := do
  match (← get).lookbehindGroups with
  | none => pure ()
  | some groups =>
    if !(← isClosed number) then failBack .openGroupReference 0
    if groups ≤ number then failBack .lookbehindGroupReference 0

def groupReference (start : Nat) (digits : CodeText) : Reader Node := do
  let number := numeral 10 digits
  if number < (← get).widths.length then
    if !(← isClosed number) then failAt start .openGroupReference
    checkLookbehind number
    return .backReference number
  failAt (start + 1) (.invalidGroupReference number)

def escape (start c : Nat) : Reader Node := do
  match anchorEscape? c, classEscape? c, controlEscape? c with
  | some a, _, _ => return .anchor a
  | none, some item, _ => return .set false [item]
  | none, none, some code => return .char code
  | none, none, none =>
    match ← codeEscape? start c with
    | some code => return .char code
    | none =>
      if c == 0x30 then return .char (numeral 8 (c :: (← takeUpTo isOctal 2)))
      if isPlainDigit c then
        match ← takeUpTo isPlainDigit 1 with
        | [d] =>
          if isOctal c && isOctal d then
            match ← takeUpTo isOctal 1 with
            | [e] => return .char (← octalEscape start [c, d, e])
            | _ => groupReference start [c, d]
          else groupReference start [c, d]
        | _ => groupReference start [c]
      else return .char (← plainEscape start c)

/-- The members of a set up to the closing bracket; `start` is the offset of the opening one. -/
def setItems (start : Nat) : (fuel : Nat) → List SetItem → Reader (List SetItem)
  | 0, items => return items
  | fuel + 1, items => do
    let member (t : Token) : Reader SetItem := do
      match t with
      | .lone c => return .char c
      | .escaped c => setEscape ((← offset) - 2) c
      | .dangling => return .char 0x5C
    let some this ← take? | failAt start .unterminatedSet
    if this.is ']' && !items.isEmpty then return items
    let first ← member this
    if !(← accept '-') then setItems start fuel (items ++ [first])
    else
      let some that ← take? | failAt start .unterminatedSet
      if that.is ']' then return items ++ [first, .char 0x2D]
      let second ← member that
      let bad : Reader (List SetItem) :=
        failBack (.badRange this.text that.text) (this.width + 1 + that.width)
      match first, second with
      | .char lo, .char hi =>
        if hi < lo then bad else setItems start fuel (items ++ [.range lo hi])
      | _, _ => bad

def charSet (start : Nat) : Reader Node := do
  let negated ← accept '^'
  let items ← setItems start ((← get).rest.length + 1) []
  match items.eraseDups, negated with
  | [.char c], false => return .char c
  | [.char c], true => return .notChar c
  | distinct, _ => return .set negated distinct

/-- The bounds that a repetition sign gives, or `none` if a brace opens no bounds; `here` is the offset after
the sign. -/
def bounds (sign : Char) (here : Nat) : Reader (Option (Nat × Option Nat)) := do
  if sign == '?' then return some (0, some 1)
  if sign == '*' then return some (0, none)
  if sign == '+' then return some (1, none)
  if (← next?).any (·.is '\x7d') then return none
  let before ← get
  let isDigit (t : Token) : Bool := t.lone?.any isPlainDigit
  let lo ← takeTokens isDigit
  let hi ← if ← accept ',' then takeTokens isDigit else pure lo
  if !(← accept '\x7d') then
    set before
    return none
  let bound (digits : CodeText) : Reader (Option Nat) := do
    if digits.isEmpty then return none
    if Number.digitLimit < digits.length then throw (.error (.numeralTooLong digits.length))
    let n := numeral 10 digits
    if repeatLimit ≤ n then throw (.error .repeatTooLarge)
    return some n
  let min := (← bound lo).getD 0
  let max ← bound hi
  if max.any (· < min) then failAt here .minAboveMax
  return some (min, max)

/-- Repeats the last of the items read so far; the latest comes first. -/
def repeatLast (here min : Nat) (max : Option Nat) : List Node → Reader (List Node)
  | [] => failAt (here - 1) .nothingToRepeat
  | last :: before => do
    if last.isAnchor then failAt (here - 1) .nothingToRepeat
    if last.isRepeat then failAt (here - 1) .multipleRepeat
    let body := last.bare?.getD [last]
    let mode ← do
      if ← accept '?' then pure RepeatMode.lazy
      else if ← accept '+' then pure RepeatMode.possessive
      else pure RepeatMode.greedy
    return .repeat_ mode min max body :: before

def flagOf? (t : Token) : Option Flag := t.lone?.bind Flag.ofCode?

def badFlag {α : Type} (t : Token) (missing : String) : Reader α :=
  failBack (if t.lone?.any isLetter then .unknownFlag else .missing missing) t.width

def flagsOn : (fuel : Nat) → Flag → List Flag → Reader (List Flag × Token)
  | 0, flag, added => return (flag :: added, .lone 0x29)
  | fuel + 1, flag, added => do
    if flag == .locale then failBack .localeFlag 0
    let added := flag :: added
    if flag.isType && added.any (fun other => other.isType && other != flag) then
      failBack .incompatibleTypeFlags 0
    let some t ← take? | failBack (.missing "-, : or )") 0
    if t.is ')' || t.is '-' || t.is ':' then return (added, t)
    match flagOf? t with
    | some other => flagsOn fuel other added
    | none => badFlag t "-, : or )"

def flagsOff : (fuel : Nat) → Flag → List Flag → Reader (List Flag)
  | 0, flag, removed => return flag :: removed
  | fuel + 1, flag, removed => do
    if flag.isType then failBack .typeFlagOff 0
    let removed := flag :: removed
    let some t ← take? | failBack (.missing ":") 0
    if t.is ':' then return removed
    match flagOf? t with
    | some other => flagsOff fuel other removed
    | none => badFlag t ":"

def groupFlags (t : Token) : Reader (Option (List Flag × List Flag)) := do
  let fuel := (← get).rest.length + 1
  let (added, ending) ← match flagOf? t with
    | some flag => flagsOn fuel flag []
    | none => pure ([], t)
  if ending.is ')' then
    modify fun s => { s with flags := added ++ s.flags }
    return none
  if added.contains .template then failBack .globalFlagOn 1
  let removed ←
    if ending.is '-' then do
      let some t ← take? | failBack (.missing "flag") 0
      match flagOf? t with
      | some flag => flagsOff fuel flag []
      | none => badFlag t "flag"
    else pure []
  if removed.contains .template then failBack .globalFlagOff 1
  if added.any removed.contains then failBack .flagOnAndOff 1
  return some (added.eraseDups, removed.eraseDups)

def openGroup (name : Option CodeText) : Reader Nat := do
  let s ← get
  let number := s.widths.length
  match name with
  | none => set { s with widths := s.widths ++ [none] }
  | some n =>
    match s.names.find? (·.1 == n) with
    | some (_, old) => failBack (.groupNameTaken n number old) (n.length + 1)
    | none => set { s with widths := s.widths ++ [none], names := (n, number) :: s.names }
  return number

def closeGroup (number : Nat) (body : List Node) : Reader Unit :=
  modify fun s => { s with widths := s.widths.set number (some (width s.widths body)) }

def groupName (terminator : Char) : Reader CodeText := do
  let name ← takeName terminator "group name"
  if !isIdentifier name then failBack (.badGroupName name) (name.length + 1)
  return name

def namedReference (name : CodeText) : Reader Node := do
  match (← get).names.find? (·.1 == name) with
  | none => failBack (.unknownGroupName name) (name.length + 1)
  | some (_, number) =>
    if !(← isClosed number) then failBack .openGroupReference (name.length + 1)
    checkLookbehind number
    return .backReference number

def groupLimit : Nat := 2147483647

def conditionGroup : Reader Nat := do
  let name ← takeName ')' "group name"
  let back := name.length + 1
  if isIdentifier name then
    match (← get).names.find? (·.1 == name) with
    | some (_, number) => return number
    | none => failBack (.unknownGroupName name) back
  else
    match Number.readInteger 10 name with
    | .error _ => failBack (.badGroupName name) back
    | .ok n =>
      if n < 0 then failBack (.badGroupName name) back
      if n == 0 then failBack .badGroupNumber back
      let number := n.toNat
      if groupLimit ≤ number then failBack (.invalidGroupReference number) back
      let place := (← offset) - back
      modify fun s =>
        if s.conditions.any (·.1 == number) then s
        else { s with conditions := s.conditions ++ [(number, place)] }
      return number

def commonHead? : List (List Node) → Option (Node × List (List Node))
  | [] => none
  | [] :: _ => none
  | (node :: rest) :: others =>
    let tails := others.map fun branch =>
      match branch with
      | other :: tail => if node.sameLeaf other then some tail else none
      | [] => none
    if tails.all Option.isSome then some (node, rest :: tails.filterMap id) else none

def splitCommon : (fuel : Nat) → List (List Node) → List Node × List (List Node)
  | 0, branches => ([], branches)
  | fuel + 1, branches =>
    match commonHead? branches with
    | some (node, tails) =>
      let (more, final) := splitCommon fuel tails
      (node :: more, final)
    | none => ([], branches)

def branchItems? : List Node → Option (List SetItem)
  | [.char c] => some [.char c]
  | [.set false items] => some items
  | _ => none

/-- Alternatives as a sequence: common items first, and a set in place of single characters. -/
def alternatives : List (List Node) → List Node
  | [branch] => branch
  | branches =>
    let (shared, rest) := splitCommon ((branches.map List.length).foldr (· + ·) 0 + 1) branches
    let sets := rest.map branchItems?
    if sets.all Option.isSome then
      shared ++ [.set false ((sets.filterMap id).flatten).eraseDups]
    else shared ++ [.alternation rest]

def isLayout (c : Nat) : Bool := c == 0x20 || (0x09 ≤ c && c ≤ 0x0D)

inductive Opening
  /-- A comment, a reference or flags for the whole pattern: nothing is left to close. -/
  | done (node : Option Node)
  | group (capture : Bool) (name : Option CodeText) (added removed : List Flag) (atomic : Bool)
  | look (behind negated : Bool)
  | condition (number : Nat)

def lookSign (behind : Bool) (t : Token) : Option Opening :=
  if t.is '=' then some (.look behind false)
  else if t.is '!' then some (.look behind true)
  else none

/-- What follows an opening parenthesis at `start`. `atStart` tells whether nothing precedes it. -/
def opening (start : Nat) (atStart : Bool) : Reader Opening := do
  let group (capture : Bool) (name : Option CodeText) (added removed : List Flag) (atomic : Bool) :=
    (pure (.group capture name added removed atomic) : Reader Opening)
  if !(← accept '?') then group true none [] [] false
  else
    let some t ← take? | failBack .endOfPattern 0
    if t.is 'P' then
      if ← accept '<' then group true (some (← groupName '>')) [] [] false
      else if ← accept '=' then return .done (some (← namedReference (← groupName ')')))
      else
        let some u ← take? | failBack .endOfPattern 0
        failBack (.unknownExtension (0x50 :: u.text)) (u.width + 2)
    else if t.is ':' then group false none [] [] false
    else if t.is '#' then
      let _ ← takeTokens fun t => !t.is ')'
      if (← next?).isNone then failAt start .unterminatedComment
      advance
      return .done none
    else if let some o := lookSign false t then return o
    else if t.is '<' then
      let some u ← take? | failBack .endOfPattern 0
      match lookSign true u with
      | some o => return o
      | none => failBack (.unknownExtension (0x3C :: u.text)) (u.width + 2)
    else if t.is '(' then return .condition (← conditionGroup)
    else if t.is '>' then group false none [] [] true
    else if (flagOf? t).isSome || t.is '-' then
      match ← groupFlags t with
      | some (added, removed) => group false none added removed false
      | none =>
        if !atStart then failAt start .globalFlagsNotAtStart
        return .done none
    else failBack (.unknownExtension t.text) (t.width + 1)

def closing (start : Nat) : Reader Unit := do
  if !(← accept ')') then failAt start .unterminatedGroup

def globalVerbose : Reader Bool := return (← get).flags.contains .verbose

mutual

/-- Alternatives up to a closing parenthesis or the end. `outer` tells whether no group is open. -/
def branches : (fuel : Nat) → (verbose outer : Bool) → List (List Node) → Reader (List Node)
  | 0, _, _, done => return alternatives done
  | fuel + 1, verbose, outer, done => do
    let branch ← items fuel verbose (outer && done.isEmpty) []
    let done := done ++ [branch]
    if ← accept '|' then
      let verbose ← if outer then globalVerbose else pure verbose
      branches fuel verbose outer done
    else return alternatives done

/-- A sequence of items, of which `acc` has been read, the latest first. `first` tells whether the sequence
begins the pattern. -/
def items : (fuel : Nat) → (verbose first : Bool) → List Node → Reader (List Node)
  | 0, _, _, acc => return spliceBare acc.reverse
  | fuel + 1, verbose, first, acc => do
    let some t ← next? | return spliceBare acc.reverse
    if t.is '|' || t.is ')' then return spliceBare acc.reverse
    let start ← offset
    advance
    match t with
    | .dangling => return spliceBare acc.reverse
    | .escaped c => items fuel verbose first ((← escape start c) :: acc)
    | .lone c =>
      if verbose && isLayout c then items fuel verbose first acc
      else if verbose && c == 0x23 then
        let _ ← takeTokens fun t => !t.is '\n'
        advance
        items fuel verbose first acc
      else match Char.ofNat c with
        | '[' => items fuel verbose first ((← charSet start) :: acc)
        | '.' => items fuel verbose first (.any :: acc)
        | '^' => items fuel verbose first (.anchor .lineStart :: acc)
        | '$' => items fuel verbose first (.anchor .lineEnd :: acc)
        | '(' =>
          match ← opening start (first && acc.isEmpty) with
          | .done none => items fuel (verbose || (first && acc.isEmpty && (← globalVerbose))) first acc
          | .done (some node) => items fuel verbose first (node :: acc)
          | o => items fuel verbose first ((← group fuel verbose start o) :: acc)
        | sign =>
          if sign == '*' || sign == '+' || sign == '?' || sign == '\x7b' then
            match ← bounds sign (start + 1) with
            | none => items fuel verbose first (.char c :: acc)
            | some (min, max) => items fuel verbose first (← repeatLast (start + 1) min max acc)
          else items fuel verbose first (.char c :: acc)

def group : (fuel : Nat) → (verbose : Bool) → (start : Nat) → Opening → Reader Node
  | 0, _, _, _ => return .group none [] [] []
  | _ + 1, _, _, .done node => return node.getD (.group none [] [] [])
  | fuel + 1, verbose, start, .group capture name added removed atomic => do
    let number ← if capture then some <$> openGroup name else pure none
    let inner := (verbose || added.contains .verbose) && !removed.contains .verbose
    let body ← branches fuel inner false []
    closing start
    if let some n := number then closeGroup n body
    return if atomic then .atomic body else .group number added removed body
  | fuel + 1, verbose, start, .look behind negated => do
    let outermost := (← get).lookbehindGroups.isNone
    if behind && outermost then
      modify fun s => { s with lookbehindGroups := some s.widths.length }
    let body ← branches fuel verbose false []
    if behind && outermost then modify fun s => { s with lookbehindGroups := none }
    closing start
    return .look behind negated body
  | fuel + 1, verbose, start, .condition number => do
    checkLookbehind number
    let yes ← items fuel verbose false []
    let no ← do
      if ← accept '|' then
        let no ← items fuel verbose false []
        if (← next?).any (·.is '|') then failBack .tooManyBranches 0
        pure (some no)
      else pure none
    closing start
    return .conditional number yes no

end

end Winnow.Pattern
