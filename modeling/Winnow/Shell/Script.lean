import Winnow.Shell.Word

/-!
Scripts of the shell: their tokens and their commands. A script is read one line of commands at a time, so that
what stands before a fault is still run.
-/
set_option autoImplicit false

namespace Winnow.Shell

inductive Token
  | word (w : Word)
  | descriptor (n : Nat)
  | operator (text : String)
  | document (body : Word)
  | newline
  | fault (f : WordFault)
  deriving DecidableEq, Repr

structure Placed where
  line : Nat
  token : Token
  deriving DecidableEq, Repr

/-! Tokens. -/

def operators : List String :=
  ["&&", "||", ";;", "<<-", "<<", ">>", ">&", "<&", ">|", ";", "&", "|", "(", ")", "<", ">"]

def operator? (t : Text) : Option String := operators.find? fun o => o.toList.isPrefixOf t

structure Wanted where
  place : Nat
  delimiter : Text
  literal : Bool
  stripTabs : Bool

def documentLines (w : Wanted) : (fuel : Nat) → Text → Text × Text × Nat
  | 0, t => ([], t, 0)
  | fuel + 1, t =>
    if t.isEmpty then ([], [], 0)
    else
      let (line, rest) := Text.cut '\n' t
      let line := if w.stripTabs then line.dropWhile (· == '\t') else line
      if line == w.delimiter then ([], rest.getD [], 1)
      else
        let (body, rest, lines) := documentLines w fuel (rest.getD [])
        (line ++ '\n' :: body, rest, lines + 1)

def documentWord (w : Wanted) (body : Text) : Word :=
  if w.literal then [.text body true]
  else match inDouble .document (body.length + 1) body with
    | .ok (w, _) => w
    | .error _ => [.text body true]

def fillDocuments (before : Array Placed) (wanted : List Wanted) (t : Text) : Array Placed × Text × Nat :=
  wanted.foldl (fun (before, t, lines) w =>
    let (body, rest, n) := documentLines w (t.length + 1) t
    (before.modify w.place fun p => { p with token := .document (documentWord w body) }, rest, lines + n))
    (before, t, 0)

def unquoted (w : Word) : Text :=
  w.flatMap fun
    | .text t _ => t
    | .parameter name .. => '$' :: name
    | .output s _ | .arithmetic s _ => s

def isQuoted (w : Word) : Bool :=
  w.any fun
    | .text _ q => q
    | _ => false

def tokensFrom : (fuel : Nat) → (line : Nat) → (before : Array Placed) → List Wanted → Text → Array Placed
  | 0, _, before, _, _ => before
  | _ + 1, _, before, _, [] => before
  | fuel + 1, line, before, wanted, c :: rest =>
    let add (t : Token) : Array Placed := before.push ⟨line, t⟩
    if c == ' ' || c == '\t' then tokensFrom fuel line before wanted rest
    else if c == '#' then tokensFrom fuel line before wanted (rest.dropWhile (· != '\n'))
    else if c == '\n' then
      let (filled, rest, lines) := fillDocuments (add .newline) wanted.reverse rest
      tokensFrom fuel (line + 1 + lines) filled [] rest
    else if c == '\\' && rest.head? == some '\n' then tokensFrom fuel (line + 1) before wanted rest.tail
    else match operator? (c :: rest) with
      | some o =>
        let rest := (c :: rest).drop o.length
        if o == "<<" || o == "<<-" then
          let rest := rest.dropWhile fun c => c == ' ' || c == '\t'
          match readWord false (rest.length + 1) rest with
          | .error f => add (.fault f)
          | .ok (w, rest) =>
            let before := add (.operator "<<")
            let ask : Wanted := ⟨before.size, unquoted w, isQuoted w, o == "<<-"⟩
            tokensFrom fuel line (before.push ⟨line, .document []⟩) (ask :: wanted) rest
        else tokensFrom fuel line (add (.operator o)) wanted rest
      | none =>
        let digits := (c :: rest).takeWhile Char.isDigit
        let after := (c :: rest).dropWhile Char.isDigit
        if !digits.isEmpty && (after.head? == some '<' || after.head? == some '>') then
          tokensFrom fuel line (add (.descriptor ((String.ofList digits).toNat?.getD 0))) wanted after
        else match readWord false (rest.length + 2) (c :: rest) with
          | .error f => add (.fault f)
          | .ok (w, after) =>
            let taken := (c :: rest).take (rest.length + 1 - after.length)
            tokensFrom fuel (line + taken.count '\n') (add (.word w)) wanted after

def tokens (t : Text) : List Placed := (tokensFrom (t.length + 1) 1 #[] [] t).toList

/-! Commands. -/

inductive RedirectKind
  | read
  | write
  | duplicate
  | document
  deriving DecidableEq, Repr

structure Redirect where
  descriptor : Nat
  kind : RedirectKind
  target : Word
  deriving DecidableEq, Repr

inductive Command
  | simple (line : Nat) (assignments : List (Text × Word)) (words : List Word) (redirects : List Redirect)
  | nothing
  | sequence (first second : Command)
  | both (first second : Command)
  | either (first second : Command)
  | negated (command : Command)
  | pipe (first second : Command)
  | background (command : Command)
  | subshell (command : Command)
  | redirected (command : Command) (redirects : List Redirect)
  | branch (condition yes no : Command)
  | repeated (answer : Bool) (condition body : Command)
  | each (name : Text) (words : Option (List Word)) (body : Command)
  | select (subject : Word) (patterns : List Word) (body rest : Command)
  | define (name : Text) (body : Command)

structure ScriptFault where
  line : Nat
  message : String
  deriving DecidableEq, Repr

abbrev Reads := Except ScriptFault

def reserved : List String :=
  ["if", "then", "else", "elif", "fi", "do", "done", "case", "esac", "while", "until", "for", "\x7b", "\x7d", "!", "in"]

def Token.mark? : Token → Option String
  | .operator o => some o
  | .newline => some "\n"
  | .word w => w.bare?.bind fun t => if reserved.contains (String.ofList t) then some (String.ofList t) else none
  | _ => none

def mark? (ts : List Placed) : Option String := ts.head?.bind (·.token.mark?)

def unexpected {α : Type} (last : Nat) (ts : List Placed) (expected : Option String) : Reads (α × List Placed) :=
  let wish := match expected with
    | some e => s!" (expecting \"{e}\")"
    | none => ""
  match ts with
  | [] => .error ⟨last, "end of file unexpected" ++ wish⟩
  | ⟨line, t⟩ :: _ =>
    match t.mark?, t with
    | some "\n", _ => .error ⟨line, "newline unexpected" ++ wish⟩
    | some m, _ => .error ⟨line, s!"\"{m}\" unexpected" ++ wish⟩
    | none, .fault f => .error ⟨last, f.message⟩
    | none, _ => .error ⟨line, "word unexpected" ++ wish⟩

def expect (last : Nat) (mark : String) (ts : List Placed) : Reads (Unit × List Placed) :=
  if mark? ts == some mark then .ok ((), ts.tail) else unexpected last ts (some mark)

def skipNewlines (ts : List Placed) : List Placed := ts.dropWhile (·.token == .newline)

def assignment? (w : Word) : Option (Text × Word) :=
  match w with
  | .text t false :: rest =>
    match Text.cut '=' t with
    | (c :: name, some value) =>
      if isNameStart c && name.all isNameRest then
        some (c :: name, if value.isEmpty then rest else .text value false :: rest)
      else none
    | _ => none
  | _ => none

def redirect? (ts : List Placed) : Option (Redirect × List Placed) :=
  let (given, ts) := match ts with
    | ⟨_, .descriptor n⟩ :: rest => (some n, rest)
    | ts => (none, ts)
  match ts with
  | ⟨_, .operator o⟩ :: ⟨_, .word w⟩ :: rest =>
    let make (usual : Nat) (kind : RedirectKind) := some (⟨given.getD usual, kind, w⟩, rest)
    match o with
    | "<" => make 0 .read
    | ">" | ">>" | ">|" => make 1 .write
    | ">&" => make 1 .duplicate
    | "<&" => make 0 .duplicate
    | _ => none
  | ⟨_, .operator "<<"⟩ :: ⟨_, .document w⟩ :: rest => some (⟨given.getD 0, .document, w⟩, rest)
  | _ => none

def redirectsFrom : (fuel : Nat) → List Placed → List Redirect × List Placed
  | 0, ts => ([], ts)
  | fuel + 1, ts =>
    match redirect? ts with
    | some (r, ts) =>
      let (rs, ts) := redirectsFrom fuel ts
      (r :: rs, ts)
    | none => ([], ts)

def simpleFrom : (fuel : Nat) → (assigning : Bool) → List Placed →
    (List (Text × Word) × List Word × List Redirect) × List Placed
  | 0, _, ts => (([], [], []), ts)
  | fuel + 1, assigning, ts =>
    match redirect? ts with
    | some (r, ts) =>
      let ((as, ws, rs), ts) := simpleFrom fuel assigning ts
      ((as, ws, r :: rs), ts)
    | none =>
      match ts with
      | ⟨_, .word w⟩ :: rest =>
        match if assigning then assignment? w else none with
        | some a =>
          let ((as, ws, rs), ts) := simpleFrom fuel true rest
          ((a :: as, ws, rs), ts)
        | none =>
          let ((as, ws, rs), ts) := simpleFrom fuel false rest
          ((as, w :: ws, rs), ts)
      | _ => (([], [], []), ts)

def wordsFrom : List Placed → List Word × List Placed
  | ⟨_, .word w⟩ :: rest =>
    let (ws, ts) := wordsFrom rest
    (w :: ws, ts)
  | ts => ([], ts)

def patternsFrom (last : Nat) : List Placed → Reads (List Word × List Placed)
  | ⟨_, .word w⟩ :: ⟨_, .operator "|"⟩ :: rest => do
    let (ws, ts) ← patternsFrom last rest
    return (w :: ws, ts)
  | ⟨_, .word w⟩ :: rest => do
    let (_, ts) ← expect last ")" rest
    return ([w], ts)
  | ts => unexpected last ts (if ts.isEmpty then some ")" else none)

def endsList (ts : List Placed) : Bool :=
  match mark? ts with
  | some m => [")", ";;", "then", "else", "elif", "fi", "do", "done", "esac", "\x7d"].contains m
  | none => ts.isEmpty

mutual

def listFrom (last : Nat) : (fuel : Nat) → List Placed → Reads (Command × List Placed)
  | 0, ts => .ok (.nothing, ts)
  | fuel + 1, ts => do
    let ts := skipNewlines ts
    if endsList ts then return (.nothing, ts)
    let (first, ts) ← andOrFrom last fuel ts
    match mark? ts with
    | some "&" => do
      let (second, ts) ← listFrom last fuel ts.tail
      return (.sequence (.background first) second, ts)
    | some ";" | some "\n" => do
      let (second, ts) ← listFrom last fuel ts.tail
      return (.sequence first second, ts)
    | _ => return (first, ts)

def andOrFrom (last : Nat) : (fuel : Nat) → List Placed → Reads (Command × List Placed)
  | 0, ts => .ok (.nothing, ts)
  | fuel + 1, ts => do
    let (first, ts) ← pipelineFrom last fuel ts
    joinFrom last fuel first ts

def joinFrom (last : Nat) : (fuel : Nat) → (first : Command) → List Placed → Reads (Command × List Placed)
  | 0, first, ts => .ok (first, ts)
  | fuel + 1, first, ts =>
    match mark? ts with
    | some "&&" => do
      let (second, ts) ← pipelineFrom last fuel (skipNewlines ts.tail)
      joinFrom last fuel (.both first second) ts
    | some "||" => do
      let (second, ts) ← pipelineFrom last fuel (skipNewlines ts.tail)
      joinFrom last fuel (.either first second) ts
    | _ => .ok (first, ts)

def pipelineFrom (last : Nat) : (fuel : Nat) → List Placed → Reads (Command × List Placed)
  | 0, ts => .ok (.nothing, ts)
  | fuel + 1, ts =>
    if mark? ts == some "!" then do
      let (command, ts) ← pipelineFrom last fuel ts.tail
      return (.negated command, ts)
    else do
      let (first, ts) ← commandFrom last fuel ts
      if mark? ts == some "|" then
        let (second, ts) ← pipelineFrom last fuel (skipNewlines ts.tail)
        return (.pipe first second, ts)
      return (first, ts)

def commandFrom (last : Nat) : (fuel : Nat) → List Placed → Reads (Command × List Placed)
  | 0, ts => .ok (.nothing, ts)
  | fuel + 1, ts => do
    let (command, ts) ← match mark? ts with
      | some "\x7b" => do
        let (body, ts) ← listFrom last fuel ts.tail
        let (_, ts) ← expect last "\x7d" ts
        pure (body, ts)
      | some "(" => do
        let (body, ts) ← listFrom last fuel ts.tail
        let (_, ts) ← expect last ")" ts
        pure (Command.subshell body, ts)
      | some "if" => branchFrom last fuel ts.tail
      | some "while" => repeatedFrom last fuel true ts.tail
      | some "until" => repeatedFrom last fuel false ts.tail
      | some "for" => eachFrom last fuel ts.tail
      | some "case" =>
        match ts.tail with
        | ⟨_, .word subject⟩ :: rest => do
          let (_, rest) ← expect last "in" (skipNewlines rest)
          selectFrom last fuel subject rest
        | rest => unexpected last rest none
      | some "in" | none => return ← simpleCommand last fuel ts
      | some m =>
        if ["<", ">", ">>", ">&", "<&", "<<", ">|"].contains m then return ← simpleCommand last fuel ts
        else unexpected last ts none
    let (redirects, ts) := redirectsFrom ts.length ts
    return (if redirects.isEmpty then command else .redirected command redirects, ts)

def simpleCommand (last : Nat) : (fuel : Nat) → List Placed → Reads (Command × List Placed)
  | 0, ts => .ok (.nothing, ts)
  | fuel + 1, ts =>
    match ts with
    | ⟨_, .word w⟩ :: ⟨_, .operator "("⟩ :: rest =>
      match w.bare?, rest with
      | some name, ⟨_, .operator ")"⟩ :: rest => do
        let (body, ts) ← commandFrom last fuel (skipNewlines rest)
        return (.define name body, ts)
      | _, rest => unexpected last rest (some ")")
    | ⟨line, t⟩ :: rest =>
      let ((assignments, words, redirects), after) := simpleFrom (ts.length + 1) true ts
      if after.length == ts.length then unexpected last (⟨line, t⟩ :: rest) none
      else .ok (.simple line assignments words redirects, after)
    | [] => unexpected last [] none

def branchFrom (last : Nat) : (fuel : Nat) → List Placed → Reads (Command × List Placed)
  | 0, ts => .ok (.nothing, ts)
  | fuel + 1, ts => do
    let (condition, ts) ← listFrom last fuel ts
    let (_, ts) ← expect last "then" ts
    let (yes, ts) ← listFrom last fuel ts
    match mark? ts with
    | some "elif" => do
      let (no, ts) ← branchFrom last fuel ts.tail
      return (.branch condition yes no, ts)
    | some "else" => do
      let (no, ts) ← listFrom last fuel ts.tail
      let (_, ts) ← expect last "fi" ts
      return (.branch condition yes no, ts)
    | _ => do
      let (_, ts) ← expect last "fi" ts
      return (.branch condition yes .nothing, ts)

def repeatedFrom (last : Nat) : (fuel : Nat) → (answer : Bool) → List Placed → Reads (Command × List Placed)
  | 0, _, ts => .ok (.nothing, ts)
  | fuel + 1, answer, ts => do
    let (condition, ts) ← listFrom last fuel ts
    let (_, ts) ← expect last "do" ts
    let (body, ts) ← listFrom last fuel ts
    let (_, ts) ← expect last "done" ts
    return (.repeated answer condition body, ts)

def eachFrom (last : Nat) : (fuel : Nat) → List Placed → Reads (Command × List Placed)
  | 0, ts => .ok (.nothing, ts)
  | fuel + 1, ts => do
    match ts with
    | ⟨_, .word name⟩ :: rest =>
      let rest := skipNewlines rest
      let (words, rest) := if mark? rest == some "in" then
          let (ws, rest) := wordsFrom rest.tail
          (some ws, rest)
        else (none, rest)
      let rest := if mark? rest == some ";" then rest.tail else rest
      let (_, rest) ← expect last "do" (skipNewlines rest)
      let (body, rest) ← listFrom last fuel rest
      let (_, rest) ← expect last "done" rest
      return (.each (unquoted name) words body, rest)
    | rest => unexpected last rest none

def selectFrom (last : Nat) : (fuel : Nat) → (subject : Word) → List Placed → Reads (Command × List Placed)
  | 0, _, ts => .ok (.nothing, ts)
  | fuel + 1, subject, ts => do
    let ts := skipNewlines ts
    if mark? ts == some "esac" then return (.nothing, ts.tail)
    let ts := if mark? ts == some "(" then ts.tail else ts
    let (patterns, ts) ← patternsFrom last ts
    let (body, ts) ← listFrom last fuel ts
    let ts ← match mark? ts with
      | some ";;" => pure ts.tail
      | some "esac" => pure ts
      | _ => do
        let (_, ts) ← expect last ";;" ts
        pure ts
    let (rest, ts) ← selectFrom last fuel subject ts
    return (.select subject patterns body rest, ts)

end

def lineFrom (last : Nat) : (fuel : Nat) → List Placed → Reads (Command × List Placed)
  | 0, ts => .ok (.nothing, ts)
  | fuel + 1, ts => do
    let (first, ts) ← andOrFrom last (2 * ts.length + 20) ts
    let first := if mark? ts == some "&" then .background first else first
    match mark? ts with
    | some "\n" => return (first, ts.tail)
    | some "&" | some ";" =>
      let ts := ts.tail
      if ts.isEmpty then return (first, ts)
      if mark? ts == some "\n" then return (first, ts.tail)
      let (second, ts) ← lineFrom last fuel ts
      return (.sequence first second, ts)
    | _ => if ts.isEmpty then return (first, ts) else unexpected last ts none

def linesFrom (last : Nat) : (fuel : Nat) → List Placed → List Command × Option ScriptFault
  | 0, _ => ([], none)
  | fuel + 1, ts =>
    let ts := skipNewlines ts
    if ts.isEmpty then ([], none)
    else match lineFrom last ts.length ts with
      | .error fault => ([], some fault)
      | .ok (command, ts) =>
        let (commands, fault) := linesFrom last fuel ts
        (command :: commands, fault)

/-- The lines of commands that a script consists of, up to a fault if it has one. -/
def readScript (t : Text) : List Command × Option ScriptFault :=
  let ts := tokens t
  linesFrom (t.count '\n' + 1) (ts.length + 1) ts

end Winnow.Shell
