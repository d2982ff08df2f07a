import Winnow.Shell.Arithmetic
import Winnow.Shell.Field
import Winnow.Shell.Program
import Winnow.Shell.Script

/-!
Running scripts. A session knows its parameters and what has been written where so far. Time passes only while
something sleeps. Nothing changes a file.
-/
set_option autoImplicit false

namespace Winnow.Shell

inductive Ending
  | exited (status : Nat)
  | killed (signal : Nat)
  | never
  deriving DecidableEq, Repr

structure Ended where
  output : Text
  errors : Text
  ending : Ending
  seconds : Float

/-- Outputs are numbered: what is written to the first is lost, the next two are those of the program, and
others are read by another command. -/
abbrev Outlet := Nat

structure Session where
  name : Text
  arguments : List Text
  bindings : List (Text × Text) := []
  exported : List Text := []
  functions : List (Text × Command) := []
  status : Nat := 0
  written : Array (Outlet × Text) := #[]
  fresh : Outlet := 3
  elapsed : Float := 0
  lingering : Float := 0
  exitOnFailure : Bool := false
  strict : Bool := false
  /-- The status of the last script whose output has been put into the present command. -/
  captured : Option Nat := none
  fault : Option Text := none

structure Lines where
  input : Text
  output : Outlet := 1
  errors : Outlet := 2
  /-- Whether a failure is looked at, so that it does not end the script. -/
  tested : Bool := false
  loops : Nat := 0

inductive Flow
  | next
  | leave (status : Nat)
  | killed (signal : Nat)
  | endless
  | stop (levels : Nat)
  /-- Leaves all but the last of so many loops, and goes on with its next round. -/
  | again (levels : Nat)
  | back
  deriving DecidableEq, Repr

def roundLimit : Nat := 100000

def rounds {α : Type} (step : α → α × Option Flow) : (limit : Nat) → α → α × Flow
  | 0, a => (a, .endless)
  | limit + 1, a =>
    match step a with
    | (a, none) => rounds step limit a
    | (a, some flow) => (a, flow)

namespace Session

def write (s : Session) (o : Outlet) (t : Text) : Session :=
  if t.isEmpty || o == 0 then s else { s with written := s.written.push (o, t) }

def writtenTo (s : Session) (o : Outlet) : Text :=
  (s.written.toList.filter fun w => w.1 == o).flatMap (·.2)

def forget (s : Session) (o : Outlet) : Session :=
  { s with written := s.written.filter fun w => w.1 != o }

def complain (s : Session) (l : Lines) (line : Nat) (t : Text) : Session :=
  s.write l.errors (s.name ++ ": ".toList ++ Text.ofNat line ++ ": ".toList ++ t ++ ['\n'])

def environment (s : Session) : List (Text × Text) := s.bindings.filter fun v => s.exported.contains v.1

def setVariable (s : Session) (name value : Text) : Session :=
  { s with bindings := (name, value) :: s.bindings.filter fun v => v.1 != name }

def ownNumber : Nat := 1

def value? (s : Session) (name : Text) : Option Text :=
  match name with
  | ['#'] => some (Text.ofNat s.arguments.length)
  | ['?'] => some (Text.ofNat s.status)
  | ['$'] => some (Text.ofNat ownNumber)
  | ['0'] => some s.name
  | ['@'] | ['*'] => if s.arguments.isEmpty then none else some (spaced s.arguments)
  | _ =>
    if name.all Char.isDigit then s.arguments[((String.ofList name).toNat?.getD 0) - 1]?
    else s.bindings.lookup name

def argumentItems (s : Session) (quoted : Bool) : List Item :=
  [Item.border].intercalate (s.arguments.map fun a => valueItems a quoted)

def rejoin (s apart : Session) : Session :=
  { s with
    written := apart.written
    fresh := apart.fresh
    elapsed := apart.elapsed
    lingering := apart.lingering
    status := apart.status }

/-- Ends a script that runs apart: its flow becomes a status, unless it ends everything. -/
def settle (s : Session) : Flow → Session × Flow
  | .leave status => ({ s with status }, .next)
  | .killed signal => (s, .killed signal)
  | .endless => (s, .endless)
  | _ => (s, .next)

/-! Commands that the shell has itself. -/

def natural? (t : Text) : Option Nat := if t.isEmpty then none else (String.ofList t).toNat?

def signals : List (String × Nat) := [
  ("HUP", 1), ("INT", 2), ("QUIT", 3), ("ILL", 4), ("TRAP", 5), ("ABRT", 6), ("BUS", 7), ("FPE", 8), ("KILL", 9),
  ("USR1", 10), ("SEGV", 11), ("USR2", 12), ("PIPE", 13), ("ALRM", 14), ("TERM", 15)]

def signal? (t : Text) : Option Nat :=
  match natural? t with
  | some n => some n
  | none =>
    let name := String.ofList (t.map Char.toUpper)
    signals.lookup (if "SIG".toList.isPrefixOf name.toList then String.ofList (name.toList.drop 3) else name)

def killArguments : List Text → Option (Nat × List Text)
  | ['-', 's'] :: name :: rest => (signal? name).map (·, rest)
  | ('-' :: c :: name) :: rest => (signal? (c :: name)).map (·, rest)
  | rest => some (15, rest)

def condition (f : Files) : (fuel : Nat) → List Text → Except Text Bool
  | 0, _ => .ok false
  | _ + 1, [] => .ok false
  | fuel + 1, ['!'] :: a :: rest => (condition f fuel (a :: rest)).map (!·)
  | _ + 1, [a] => .ok (!a.isEmpty)
  | _ + 1, [['-', o], a] =>
    let entry : Option Entry := (f.stat (.ofString a.toName)).toOption.map (·.2)
    match o with
    | 'n' => .ok (!a.isEmpty)
    | 'z' => .ok a.isEmpty
    | 'e' => .ok entry.isSome
    | 'd' => .ok (entry == some .dir)
    | 'f' | 'r' =>
      .ok (match entry with
        | some (.file ..) => true
        | _ => false)
    | 's' =>
      .ok (match entry with
        | some (.file bytes _) => bytes.size != 0
        | _ => false)
    | 'x' =>
      .ok (match entry with
        | some (.file _ executable) => executable
        | some .dir => true
        | none => false)
    | _ => .error (['-', o] ++ ": unexpected operator".toList)
  | _ + 1, [a, o, b] =>
    let compare (test : Int → Int → Bool) : Except Text Bool :=
      match leadingNumber a, leadingNumber b with
      | (some x, []), (some y, []) => .ok (test x y)
      | (some _, []), _ => .error ("Illegal number: ".toList ++ b)
      | _, _ => .error ("Illegal number: ".toList ++ a)
    match String.ofList o with
    | "=" | "==" => .ok (a == b)
    | "!=" => .ok (a != b)
    | "-eq" => compare (· == ·)
    | "-ne" => compare (· != ·)
    | "-lt" => compare fun x y => x < y
    | "-le" => compare fun x y => x ≤ y
    | "-gt" => compare fun x y => y < x
    | "-ge" => compare fun x y => y ≤ x
    | o => .error (o.toList ++ ": unexpected operator".toList)
  | fuel + 1, ts =>
    match cutAtWord ['-', 'o'] ts, cutAtWord ['-', 'a'] ts with
    | (a, some b), _ => do return (← condition f fuel a) || (← condition f fuel b)
    | _, (a, some b) => do return (← condition f fuel a) && (← condition f fuel b)
    | _, _ => .error "unexpected operator".toList
where
  cutAtWord (at_ : Text) (ts : List Text) : List Text × Option (List Text) :=
    match ts.dropWhile (· != at_) with
    | [] => (ts, none)
    | _ :: rest => (ts.takeWhile (· != at_), some rest)

def doneBy (s : Session) (l : Lines) (lead : Text) (d : Done) : Session :=
  let s := d.complaints.foldl (fun s t => s.write l.errors (lead ++ t ++ ['\n'])) s
  { s.write l.output d.output with status := d.status, elapsed := s.elapsed + d.seconds }

def builtin (f : Files) (l : Lines) (line : Nat) (name : String) (arguments : List Text) (s : Session) :
    Option (Session × Flow) :=
  let ok (status : Nat) : Option (Session × Flow) := some ({ s with status }, .next)
  let own (t : Text) : Text := name.toList ++ ": ".toList ++ t
  let lead : Text := s.name ++ ": ".toList ++ Text.ofNat line ++ ": ".toList ++ own []
  let refuse (t : Text) : Option (Session × Flow) :=
    some ({ s.complain l line (own t) with status := 2 }, .leave 2)
  let count (usual : Nat) (k : Nat → Option (Session × Flow)) : Option (Session × Flow) :=
    match arguments with
    | [] => k usual
    | a :: _ =>
      match natural? a with
      | some n => k n
      | none => refuse ("Illegal number: ".toList ++ a)
  match name with
  | ":" | "true" | "trap" | "wait" | "umask" => ok 0
  | "export" =>
    some (arguments.foldl (fun s a =>
      let (n, value) := Text.cut '=' a
      let s := { s with exported := n :: s.exported }
      match value with
      | some value => s.setVariable n value
      | none => s) { s with status := 0 }, .next)
  | "false" => ok 1
  | "echo" => some (s.doneBy l lead (echo .shell arguments), .next)
  | "printf" => some (s.doneBy l lead (printf .shell arguments), .next)
  | "exit" => count s.status fun n => some ({ s with status := n % 256 }, .leave (n % 256))
  | "return" => count s.status fun n => some ({ s with status := n }, .back)
  | "break" => count 1 fun n =>
    some ({ s with status := 0 }, if l.loops == 0 then .next else .stop (min n l.loops))
  | "continue" => count 1 fun n =>
    some ({ s with status := 0 }, if l.loops == 0 then .next else .again (min n l.loops))
  | "shift" => count 1 fun n =>
    if s.arguments.length < n then refuse "can't shift that many".toList
    else some ({ s with arguments := s.arguments.drop n, status := 0 }, .next)
  | "unset" =>
    some ({ s with bindings := s.bindings.filter fun v => !arguments.contains v.1, status := 0 }, .next)
  | "pwd" =>
    some ({ s.write l.output (Text.ofString (Path.toString ⟨1, f.current⟩) ++ ['\n']) with status := 0 }, .next)
  | "set" =>
    let options := arguments.takeWhile fun a => a.head? == some '-' && a != ['-', '-']
    let rest := arguments.drop options.length
    let s := { s with
      status := 0
      exitOnFailure := s.exitOnFailure || options.any (·.contains 'e')
      strict := s.strict || options.any (·.contains 'u')
      arguments := if rest.isEmpty then s.arguments else if rest.head? == some ['-', '-'] then rest.tail else rest }
    some (s, .next)
  | "test" | "[" =>
    let inner := if name == "[" then arguments.dropLast else arguments
    if name == "[" && arguments.getLast? != some [']'] then
      some ({ s.complain l line (own "missing ]".toList) with status := 2 }, .next)
    else match condition f (inner.length + 1) inner with
      | .ok answer => ok (if answer then 0 else 1)
      | .error t => some ({ s.complain l line (own t) with status := 2 }, .next)
  | "kill" =>
    match killArguments arguments with
    | some (signal, whom) =>
      if whom.contains (Text.ofNat ownNumber) || whom.contains ['0'] then
        if signal == 0 then ok 0 else some (s, .killed signal)
      else some ({ s.complain l line (own "No such process".toList) with status := 1 }, .next)
    | none => refuse ("Illegal option ".toList ++ arguments.headD [])
  | _ => none

def signalText (signal : Nat) : Text :=
  match signal with
  | 1 => "Hangup\n".toList
  | 6 => "Aborted\n".toList
  | 9 => "Killed\n".toList
  | 11 => "Segmentation fault\n".toList
  | 15 => "Terminated\n".toList
  | _ => []

def endedBy (s : Session) (l : Lines) (e : Ended) : Session × Flow :=
  let s := { (s.write l.output e.output).write l.errors e.errors with elapsed := s.elapsed + e.seconds }
  match e.ending with
  | .exited status => ({ s with status }, .next)
  | .killed signal => ({ s.write l.errors (signalText signal) with status := 128 + signal }, .next)
  | .never => (s, .endless)

def ended (s : Session) (flow : Flow) : Ended where
  output := s.writtenTo 1
  errors := s.writtenTo 2
  ending := match flow with
    | .leave status => .exited status
    | .killed signal => .killed signal
    | .endless => .never
    | _ => .exited s.status
  seconds := max s.elapsed s.lingering

end Session

def concatenate (f : Files) (input : Text) (arguments : List Text) : Done :=
  (if arguments.isEmpty then [['-']] else arguments).foldl (fun d a =>
    if a == ['-'] then { d with output := d.output ++ input }
    else
      let path := Text.toName a
      match f.stat (.ofString path) with
      | .ok (_, .file bytes _) => { d with output := d.output ++ Text.ofBytes bytes }
      | .ok (_, .dir) =>
        { d with complaints := d.complaints ++ [a ++ ": Is a directory".toList], status := 1 }
      | .error e =>
        { d with complaints := d.complaints ++ [a ++ ": ".toList ++ e.text.toList], status := 1 }) {}

def utility (f : Files) (input : Text) (name : String) (arguments : List Text) : Done :=
  match name with
  | "echo" => echo .program arguments
  | "printf" => printf .program arguments
  | "sleep" => sleep arguments
  | "cat" => concatenate f input arguments
  | "false" => { status := 1 }
  | _ => {}

def Done.ended (called : Text) (d : Done) : Ended where
  output := d.output
  errors := (d.complaints.flatMap fun t => called ++ ": ".toList ++ t ++ ['\n']) ++
    (if d.hint then "Try '".toList ++ called ++ " --help' for more information.\n".toList else [])
  ending := .exited d.status
  seconds := d.seconds

inductive ShellTask
  | text (script : Text) (name : Text) (arguments : List Text)
  | file (path : Text) (arguments : List Text)
  | input
  | missing
  deriving DecidableEq, Repr

def shellTask (called : Text) : (exitOnFailure : Bool) → List Text → Bool × ShellTask
  | e, ['-', '-'] :: path :: arguments => (e, .file path arguments)
  | e, ('-' :: o :: os) :: rest =>
    let e := e || (o :: os).contains 'e'
    if (o :: os).contains 'c' then
      (e, match rest with
        | script :: name :: arguments => .text script name arguments
        | [script] => .text script called []
        | [] => .missing)
    else shellTask called e rest
  | e, path :: arguments => (e, .file path arguments)
  | e, [] => (e, .input)

mutual

def Session.expandPart (f : Files) (l : Lines) : (fuel : Nat) → Part → Session → Session × List Item
  | 0, _, s => (s, [])
  | _ + 1, .text t quoted, s => (s, writtenItems t quoted)
  | fuel + 1, .output script quoted, s =>
    let (s, t) := s.capture f l fuel script
    (s, valueItems t quoted)
  | fuel + 1, .arithmetic expression quoted, s =>
    let (s, items) := s.expandOperand f l fuel true expression
    match Arithmetic.value (fun name => (s.value? name).getD []) (plainText items) with
    | .ok n => (s, valueItems (Text.ofInt n) quoted)
    | .error e =>
      let told := "arithmetic expression: " ++ e.message ++ ": \""
      ({ s with fault := some (told.toList ++ plainText items ++ ['"']) }, [])
  | fuel + 1, .parameter name operator operand quoted, s =>
    let given := s.value? name
    let filled := !(given.getD []).isEmpty
    let plain : List Item :=
      if name == ['@'] || (name == ['*'] && !quoted) then s.argumentItems quoted
      else valueItems (given.getD []) quoted
    let other : Session × List Item := s.expandOperand f l fuel quoted operand
    let trimmed (trim : Field → Text → Text) : Session × List Item :=
      (other.1, valueItems (trim (plainField other.2) (given.getD [])) quoted)
    let assigned : Session × List Item := (other.1.setVariable name (plainText other.2), other.2)
    let refused : Session × List Item :=
      let told := plainText other.2
      let told := if told.isEmpty then "parameter not set".toList else told
      ({ s with fault := some (name ++ ": ".toList ++ told) }, [])
    match String.ofList operator with
    | "" =>
      if s.strict && given.isNone && name != ['@'] && name != ['*'] then
        ({ s with fault := some (name ++ ": parameter not set".toList) }, [])
      else (s, plain)
    | "#" =>
      if operand.isEmpty then (s, valueItems (Text.ofNat (given.getD []).length) quoted)
      else trimmed (trimFront · false)
    | "##" => trimmed (trimFront · true)
    | "%" => trimmed (trimBack · false)
    | "%%" => trimmed (trimBack · true)
    | "-" => if given.isSome then (s, plain) else other
    | ":-" => if filled then (s, plain) else other
    | "+" => if given.isSome then other else (s, valueItems [] quoted)
    | ":+" => if filled then other else (s, valueItems [] quoted)
    | "=" => if given.isSome then (s, plain) else assigned
    | ":=" => if filled then (s, plain) else assigned
    | "?" => if given.isSome then (s, plain) else refused
    | ":?" => if filled then (s, plain) else refused
    | _ => (s, plain)

def Session.expandOperand (f : Files) (l : Lines) : (fuel : Nat) → (quoted : Bool) → Text → Session →
    Session × List Item
  | 0, _, _, s => (s, [])
  | fuel + 1, quoted, t, s =>
    match if quoted then inDouble .operand (t.length + 1) t else readWord true (t.length + 1) t with
    | .ok (w, _) =>
      w.foldl (fun (s, items) p =>
        match p with
        | .text t false => (s, items ++ valueItems t false)
        | p =>
          let (s, more) := s.expandPart f l fuel p
          (s, items ++ more)) (s, [])
    | .error _ => (s, [])

def Session.expand (f : Files) (l : Lines) : (fuel : Nat) → Word → Session → Session × List Item
  | 0, _, s => (s, [])
  | fuel + 1, w, s =>
    w.foldl (fun (s, items) p =>
      let (s, more) := s.expandPart f l fuel p
      (s, items ++ more)) (s, [])

def Session.capture (f : Files) (l : Lines) : (fuel : Nat) → (script : Text) → Session → Session × Text
  | 0, _, s => (s, [])
  | fuel + 1, script, s =>
    let outlet := s.fresh
    let (apart, flow) :=
      { s with fresh := outlet + 1 }.runScript f { l with output := outlet, tested := false } fuel script
    let status := match flow with
      | .leave status => status
      | .killed signal => 128 + signal
      | _ => apart.status
    let t := ((apart.writtenTo outlet).reverse.dropWhile (· == '\n')).reverse
    ({ s.rejoin (apart.forget outlet) with status := s.status, captured := some status }, t)

def Session.expandAll (f : Files) (l : Lines) : (fuel : Nat) → List Word → Session → Session × List Text
  | 0, _, s => (s, [])
  | fuel + 1, ws, s =>
    ws.foldl (fun (s, texts) w =>
      let (s, items) := s.expand f l fuel w
      (s, texts ++ (fieldsOf items).flatMap (Field.names f))) (s, [])

/-- Connects a command as redirections say. Nothing if one of them cannot be followed. -/
def Session.connect (f : Files) : (fuel : Nat) → (line : Nat) → List Redirect → Lines → Session →
    Session × Option Lines
  | 0, _, _, l, s => (s, some l)
  | _ + 1, _, [], l, s => (s, some l)
  | fuel + 1, line, r :: rest, l, s =>
    let (s, items) := s.expand f l fuel r.target
    let target := plainText items
    let outlet : Outlet := match target with
      | ['1'] => l.output
      | ['2'] => l.errors
      | _ => 0
    let lead (o : Outlet) : Lines :=
      if r.descriptor == 1 then { l with output := o } else if r.descriptor == 2 then { l with errors := o } else l
    match r.kind with
    | .document => s.connect f fuel line rest { l with input := target }
    | .duplicate => s.connect f fuel line rest (lead outlet)
    | .write => s.connect f fuel line rest (lead 0)
    | .read =>
      if target == "/dev/null".toList then s.connect f fuel line rest { l with input := [] }
      else match f.stat (.ofString (target.toName)) with
        | .ok (_, .file bytes _) => s.connect f fuel line rest { l with input := Text.ofBytes bytes }
        | .ok (_, .dir) => s.connect f fuel line rest { l with input := [] }
        | .error _ =>
          ({ s.complain l line ("cannot open ".toList ++ target ++ ": No such file".toList) with status := 2 }, none)

def Session.start (f : Files) (l : Lines) : (fuel : Nat) → (line : Nat) → (lead : Text) → (name : Text) →
    (arguments : List Text) → Session → Session × Flow
  | 0, _, _, _, _, s => (s, .endless)
  | fuel + 1, line, lead, name, arguments, s =>
    match Program.find f (name.toName) with
    | .ok p => s.endedBy l (runProgram f s.environment l.input fuel name arguments p)
    | .error .badProgram => s.endedBy l (runShell f s.environment l.input fuel name (name :: arguments))
    | .error e =>
      let (status, t) := if e == .noEntry || e == .notDirectory then (127, "not found") else (126, e.text)
      ({ s.complain l line (lead ++ name ++ ": ".toList ++ t.toList) with status }, .next)

def Session.call (f : Files) (l : Lines) : (fuel : Nat) → (line : Nat) → (name : Text) → (arguments : List Text) →
    Session → Session × Flow
  | 0, _, _, _, s => (s, .endless)
  | fuel + 1, line, name, arguments, s =>
    match s.functions.lookup name with
    | some body =>
      let (after, flow) := { s with arguments }.run f l fuel body
      ({ after with arguments := s.arguments }, if flow == .back then .next else flow)
    | none =>
      match String.ofList name, arguments with
      | "exec", program :: rest =>
        let (s, flow) := s.start f l fuel line "exec: ".toList program rest
        (s, match flow with
          | .next => .leave s.status
          | flow => flow)
      | "exec", [] => ({ s with status := 0 }, .next)
      | "eval", words =>
        s.runScript f l fuel (spaced words)
      | "command", program :: rest => s.call f l fuel line program rest
      | own, _ =>
        match s.builtin f l line own arguments with
        | some result => result
        | none => s.start f l fuel line [] name arguments

def Session.run (f : Files) (l : Lines) : (fuel : Nat) → Command → Session → Session × Flow
  | 0, _, s => (s, .endless)
  | _ + 1, .nothing, s => (s, .next)
  | fuel + 1, .simple line assignments words redirects, s =>
    let (s, texts) := { s with captured := none }.expandAll f l fuel words
    let (s, values) := assignments.foldl (fun (s, values) (name, w) =>
      let (s, items) := s.expand f l fuel w
      (s, values ++ [(name, plainText items)])) (s, ([] : List (Text × Text)))
    let (s, connected) := s.connect f fuel line redirects l
    let assign (s : Session) : Session :=
      values.foldl (fun (s : Session) (name, value) => s.setVariable name value) s
    let (s, flow) : Session × Flow := match s.fault, connected, texts with
      | some told, _, _ => ({ s.complain l line told with status := 2 }, .leave 2)
      | none, none, _ => (s, .next)
      | none, some _, [] => ({ assign s with status := s.captured.getD 0 }, .next)
      | none, some lines, name :: arguments =>
        if values.isEmpty then s.call f lines fuel line name arguments
        else
          let kept := s
          let names : List Text := values.map fun v => v.1
          let (s, flow) := { assign s with exported := names ++ s.exported }.call f lines fuel line name arguments
          ({ s with bindings := kept.bindings, exported := kept.exported }, flow)
    (s, if flow == .next && s.status != 0 && s.exitOnFailure && !l.tested then .leave s.status else flow)
  | fuel + 1, .sequence first second, s =>
    match s.run f l fuel first with
    | (s, .next) => s.run f l fuel second
    | ended => ended
  | fuel + 1, .both first second, s =>
    match s.run f { l with tested := true } fuel first with
    | (s, .next) => if s.status == 0 then s.run f l fuel second else (s, .next)
    | ended => ended
  | fuel + 1, .either first second, s =>
    match s.run f { l with tested := true } fuel first with
    | (s, .next) => if s.status == 0 then (s, .next) else s.run f l fuel second
    | ended => ended
  | fuel + 1, .negated command, s =>
    match s.run f { l with tested := true } fuel command with
    | (s, .next) => ({ s with status := if s.status == 0 then 1 else 0 }, .next)
    | ended => ended
  | fuel + 1, .pipe first second, s =>
    let outlet := s.fresh
    let (before, _) := { s with fresh := outlet + 1 }.run f { l with output := outlet } fuel first
    let input := before.writtenTo outlet
    let (after, flow) := { s.rejoin (before.forget outlet) with elapsed := s.elapsed }.run f { l with input } fuel second
    let (after, flow) := after.settle flow
    ({ s.rejoin after with elapsed := max before.elapsed after.elapsed }, flow)
  | fuel + 1, .background command, s =>
    let (apart, flow) := s.run f { l with input := [] } fuel command
    let (apart, flow) := apart.settle flow
    ({ s.rejoin apart with elapsed := s.elapsed, lingering := max s.lingering apart.elapsed, status := 0 },
      if flow == .endless then .endless else .next)
  | fuel + 1, .subshell command, s =>
    let (apart, flow) := s.run f l fuel command
    let (apart, flow) := apart.settle flow
    let s := s.rejoin apart
    (s, if flow == .next && s.status != 0 && s.exitOnFailure && !l.tested then .leave s.status else flow)
  | fuel + 1, .redirected command redirects, s =>
    match s.connect f fuel 1 redirects l with
    | (s, some lines) => s.run f lines fuel command
    | (s, none) => (s, .next)
  | fuel + 1, .branch condition yes no, s =>
    match s.run f { l with tested := true } fuel condition with
    | (s, .next) =>
      if s.status == 0 then { s with status := 0 }.run f l fuel yes else { s with status := 0 }.run f l fuel no
    | ended => ended
  | fuel + 1, .repeated answer condition body, s =>
    let round (s : Session) : Session × Option Flow :=
      let last := s.status
      match s.run f { l with tested := true, loops := l.loops + 1 } fuel condition with
      | (s, .next) =>
        if (s.status == 0) != answer then ({ s with status := last }, some .next)
        else match s.run f { l with loops := l.loops + 1 } fuel body with
          | (s, .next) | (s, .again 1) => (s, none)
          | (s, .stop n) => (s, some (if n ≤ 1 then .next else .stop (n - 1)))
          | (s, .again n) => (s, some (.again (n - 1)))
          | (s, flow) => (s, some flow)
      | (s, flow) => (s, some flow)
    rounds round roundLimit { s with status := 0 }
  | fuel + 1, .each name words body, s =>
    let (s, texts) := match words with
      | some ws => s.expandAll f l fuel ws
      | none => (s, s.arguments)
    let round (state : Session × List Text) : (Session × List Text) × Option Flow :=
      match state with
      | (s, []) => ((s, []), some .next)
      | (s, t :: rest) =>
        match (s.setVariable name t).run f { l with loops := l.loops + 1 } fuel body with
        | (s, .next) | (s, .again 1) => ((s, rest), none)
        | (s, .stop n) => ((s, rest), some (if n ≤ 1 then .next else .stop (n - 1)))
        | (s, .again n) => ((s, rest), some (.again (n - 1)))
        | (s, flow) => ((s, rest), some flow)
    let ((s, _), flow) := rounds round roundLimit ({ s with status := 0 }, texts)
    (s, flow)
  | fuel + 1, .select subject patterns body rest, s =>
    let (s, items) := s.expand f l fuel subject
    let t := plainText items
    let (s, hit) := patterns.foldl (fun (s, hit) w =>
      if hit then (s, hit)
      else
        let (s, items) := s.expand f l fuel w
        (s, (plainField items).isMatch t)) (s, false)
    if hit then { s with status := 0 }.run f l fuel body
    else match rest with
      | .nothing => ({ s with status := 0 }, .next)
      | rest => s.run f l fuel rest
  | _ + 1, .define name body, s => ({ s with functions := (name, body) :: s.functions, status := 0 }, .next)

/-- Runs the lines of a script; a fault in it ends it. -/
def Session.runScript (f : Files) (l : Lines) : (fuel : Nat) → (script : Text) → Session → Session × Flow
  | 0, _, s => (s, .endless)
  | fuel + 1, script, s =>
    let (commands, fault) := readScript script
    let (s, flow) := commands.foldl (fun (s, flow) command =>
      if flow == .next then s.run f l fuel command else (s, flow)) (s, Flow.next)
    match flow, fault with
    | .next, some fault =>
      let s := s.complain l fault.line ("Syntax error: " ++ fault.message).toList
      ({ s with status := 2 }, .leave 2)
    | flow, _ => (s, flow)

def runShell (f : Files) (environment : List (Text × Text)) (input : Text) : (fuel : Nat) → (called : Text) → (arguments : List Text) → Ended
  | 0, _, _ => ⟨[], [], .never, 0⟩
  | fuel + 1, called, arguments =>
    let (exitOnFailure, task) := shellTask called false arguments
    let place := ("PWD".toList, Text.ofString (Path.toString ⟨1, f.current⟩))
    let runText (script name : Text) (arguments : List Text) : Ended :=
      let s : Session := { name, arguments, exitOnFailure
                           bindings := place :: environment, exported := environment.map (·.1) }
      let (s, flow) := s.runScript f { input } fuel script
      s.ended flow
    match task with
    | .text script name arguments => runText script name arguments
    | .input => runText input called []
    | .missing => ⟨[], called ++ ": 0: -c requires an argument\n".toList, .exited 2, 0⟩
    | .file path arguments =>
      match f.stat (.ofString (path.toName)) with
      | .ok (_, .file bytes _) => runText (Text.ofBytes bytes) path arguments
      | _ => ⟨[], called ++ ": 0: cannot open ".toList ++ path ++ ": No such file\n".toList, .exited 2, 0⟩

def runProgram (f : Files) (environment : List (Text × Text)) (input : Text) : (fuel : Nat) → (called : Text) →
    (arguments : List Text) → Program → Ended
  | 0, _, _, _ => ⟨[], [], .never, 0⟩
  | fuel + 1, called, arguments, p =>
    let own (name : String) (called : Text) (arguments : List Text) : Ended :=
      if Program.shells.contains name then runShell f environment input fuel called arguments
      else (utility f input name arguments).ended called
    match p with
    | .utility name => own name called arguments
    | .script runner given path => own runner path (given ++ path :: arguments)

end

def depthLimit : Nat := 10000

def Program.run (f : Files) (called : String) (arguments : List String) (p : Program) : Ended :=
  runProgram f [] [] depthLimit (Text.ofString called) (arguments.map Text.ofString) p

end Winnow.Shell
