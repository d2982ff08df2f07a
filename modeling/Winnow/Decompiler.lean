import Winnow.Engine
import Winnow.Metadata
import Winnow.Number.Shortest
import Winnow.Shell.Session
import Winnow.Text.Blank

/-!
The decompiler that is a program of its own. It is started once for each type, with the module, the type and
the directories where assemblies are looked for, and writes the text of the type to its output. Which types a
module has is read from its metadata, without the program.
-/
set_option autoImplicit false

namespace Winnow

inductive TimeoutFault
  | infinite
  | notANumber
  | tooLong
  | beyondClock
  deriving DecidableEq, Repr

def TimeoutFault.message : TimeoutFault → String
  | .infinite => "cannot convert float infinity to integer"
  | .notANumber => "cannot convert float NaN to integer"
  | .tooLong => "timeout is too large"
  | .beyondClock => "timestamp too large to convert to C _PyTime_t"

def TimeoutFault.of? (seconds : Float) : Option TimeoutFault :=
  if seconds.isNaN then some .notANumber
  else if seconds ≤ 0 then none
  else if seconds.isInf then some .infinite
  else if 9223372036.854775 < seconds then some .beyondClock
  else if 2147483.647 < seconds then some .tooLong
  else none

inductive CommandError
  | missing (program : String)
  | timedOut (seconds : Float)
  /-- It ended with a status, which is negative for a signal, and with something to say. -/
  | failed (program : String) (status : Int) (detail : String)
  | refused (error : FileError)
  | timeout (fault : TimeoutFault)

def CommandError.message : CommandError → String
  | .missing program => s!"Decompiler executable not found: {program}"
  | .timedOut seconds => s!"Decompiler timed out after {Number.floatText seconds}s"
  | .failed program status detail => s!"{program} exited with status {status}: {detail}"
  | .refused e => e.message
  | .timeout fault => fault.message

namespace Decompiler

def outputText (t : Shell.Text) : String := Text.unifyNewlines (Text.decodeReplacing t.toBytes)

def ended (program : String) (timeout : Option Float) (e : Shell.Ended) : Except CommandError String :=
  let late : Option Float := timeout.filter fun seconds => e.ending == .never || seconds ≤ e.seconds
  match late with
  | some seconds => .error (.timedOut seconds)
  | none =>
    let status : Int := match e.ending with
      | .exited n => n
      | .killed n => -n
      | .never => 0
    if status == 0 then .ok (outputText e.output)
    else
      let told := outputText e.errors
      .error (.failed program status (Text.trimBlanks (if told.isEmpty then outputText e.output else told)))

/-- Starts a program and waits for it, at most for a timeout in seconds. -/
def runCommand (f : Files) (timeout : Option Float) (program : String) (arguments : List String) :
    Except CommandError String :=
  if (program :: arguments).any (·.toList.contains '\x00') then .error (.refused .zeroByte)
  else match Shell.Program.find f program with
    | .error .noEntry => .error (.missing program)
    | .error errno => .error (.refused (.os errno program none))
    | .ok p =>
      match timeout.bind TimeoutFault.of? with
      | some fault => .error (.timeout fault)
      | none => ended program timeout (p.run f program arguments)

def arguments (module : Path) (searchPaths : List Path) (handle : String) : List String :=
  [module.toString, "-t", handle] ++ searchPaths.flatMap fun p => ["-r", p.toString]

inductive OpenError
  | missing (module : Path)
  | file (error : FileError)
  | metadata (error : MetadataError)
  deriving DecidableEq, Repr

def OpenError.message : OpenError → String
  | .missing module => s!"Module file not found: {module}"
  | .file e => e.message
  | .metadata e => e.message

def types (read : Files → Path → Except MetadataError TypeTable) (f : Files) (module : Path) :
    Except OpenError (List TypeDescriptor) :=
  match f.isFile module with
  | .error e => .error (.file e)
  | .ok false => .error (.missing module)
  | .ok true => ((read f module).mapError .metadata).map (·.describe)

def tell (message : String) : Record := ⟨.debug, "engines.ilspy", message⟩

/-- How often the program has been started since a module was opened last. -/
def starts (history : Array Call) : Nat :=
  (history.toList.reverse.takeWhile fun
    | .openModule .. => false
    | _ => true).countP fun
    | .decompile .. => true
    | _ => false

/-- The program as a decompiler. It finds types as `read` says, and gives the texts that `run` gives. -/
def engine (executable : String) (read : Files → Path → Except MetadataError TypeTable)
    (run : Files → (arguments : List String) → Except String Decompiled) : Engine where
  openModule := fun _ f module _ =>
    match types read f module with
    | .ok ts => ([tell s!"{module.name} declares {ts.length} type(s)"], .ok ())
    | .error e => ([], .error e.message)
  listTypes := fun _ f module => (types read f module).mapError OpenError.message
  decompile := fun _ f module searchPaths handle => run f (arguments module searchPaths handle)
  close := fun history module =>
    [tell s!"{module.name}: started {executable} {starts history} time(s)"]

def ofSettings (executable : String) (timeout : Option Float) : Engine :=
  engine executable TypeTable.read fun f arguments =>
    match runCommand f timeout executable arguments with
    | .ok t => .ok (.text (.ofString t))
    | .error e => .error e.message

end Decompiler

end Winnow
