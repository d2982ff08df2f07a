import Winnow.FileTree

/-!
The log of a run. Each component logs under a name of its own. The console shows a line for every record at
or above the verbosity that was asked for; a log file, where there is one, takes all of them, with the time
and the component. Opening a log file empties it, so that it tells of one run.
-/
set_option autoImplicit false

namespace Winnow

/-- How serious a record is; a higher value is more serious. -/
structure Level where
  value : Nat
  deriving DecidableEq, Repr

namespace Level

def debug : Level := ⟨10⟩
def info : Level := ⟨20⟩
def warning : Level := ⟨30⟩
def error : Level := ⟨40⟩
def critical : Level := ⟨50⟩

def name (l : Level) : String :=
  if l == debug then "DEBUG"
  else if l == info then "INFO"
  else if l == warning then "WARNING"
  else if l == error then "ERROR"
  else if l == critical then "CRITICAL"
  else s!"Level {l.value}"

def named? (name : String) : Option Level :=
  [debug, info, warning, error, critical].find? (·.name == name)

def passes (threshold l : Level) : Bool := threshold.value ≤ l.value

end Level

structure Record where
  level : Level
  component : String
  message : String
  deriving DecidableEq, Repr

namespace Log

def rootName : String := "typesift"

def fullName (component : String) : String :=
  if component.isEmpty then rootName else rootName ++ "." ++ component

structure Verbosity where
  verbose : Bool := false
  quiet : Bool := false
  deriving DecidableEq, Repr

def Verbosity.level (v : Verbosity) : Level :=
  if v.verbose then .debug else if v.quiet then .warning else .info

structure Sink where
  place : Place
  taken : ByteArray

inductive Outlet
  | console
  | file (sink : Sink)

structure Handler where
  level : Level
  outlet : Outlet

structure State where
  level : Level := .debug
  handlers : List Handler := []

def State.sinkLevels (s : State) : List Level := s.handlers.map (·.level)

def State.attach (s : State) (h : Handler) : State := { s with handlers := s.handlers ++ [h] }

def State.detachAll (s : State) : State := { s with handlers := [] }

def consoleLine (r : Record) : String := s!"[{rootName}] {r.level.name} {r.message}\n"

def fileLine (stamp : String) (r : Record) : String :=
  s!"{stamp} {r.level.name} {fullName r.component}: {r.message}\n"

def plainPath (f : Files) (p : Path) : Path :=
  ⟨1, p.parts.foldl FileTree.enter (if p.isAbsolute then [] else f.current)⟩

def openSink (f : Files) (p : Path) : Files × Except FileError Sink :=
  match f.makeDirs p.parent with
  | (f, .error e) => (f, .error e)
  | (f, .ok ()) =>
    match f.openNew (plainPath f p) with
    | .ok (f, place) => (f, .ok ⟨place, .empty⟩)
    | .error e => (f, .error e)

/-- Attaches handlers for the console and, if one is named, for a log file, in place of those before. If the log file
cannot be opened, the console stays. -/
def State.configure (s : State) (v : Verbosity) (logFile : Option Path) (f : Files) :
    State × Files × Except FileError Unit :=
  let s := { s with level := if logFile.isSome then .debug else v.level }
  let s := s.detachAll.attach ⟨v.level, .console⟩
  match logFile.map (openSink f) with
  | none => (s, f, .ok ())
  | some (f, .ok sink) => (s.attach ⟨.debug, .file sink⟩, f, .ok ())
  | some (f, .error e) => (s, f, .error e)

/-- Adds text to a log file. A file that has been replaced or removed is left alone. -/
def Sink.add (s : Sink) (text : String) (f : Files) : Sink × Files :=
  let taken := s.taken ++ text.toUTF8
  match f.tree.get? s.place with
  | some (.file bytes _) => (⟨s.place, taken⟩, if bytes == s.taken then f.fill s.place taken else f)
  | _ => (⟨s.place, taken⟩, f)

def Handler.offer (h : Handler) (stamp : String) (r : Record) (f : Files) : Handler × Files × String :=
  if !h.level.passes r.level then (h, f, "")
  else match h.outlet with
    | .console => (h, f, consoleLine r)
    | .file sink =>
      let (sink, f) := sink.add (fileLine stamp r) f
      ({ h with outlet := .file sink }, f, "")

def offerAll (stamp : String) (r : Record) : List Handler → Files → List Handler × Files × String
  | [], f => ([], f, "")
  | h :: rest, f =>
    let (h, f, shown) := h.offer stamp r f
    let (rest, f, more) := offerAll stamp r rest f
    (h :: rest, f, shown ++ more)

def State.log (s : State) (stamp : String) (r : Record) (f : Files) : State × Files × String :=
  if !s.level.passes r.level then (s, f, "")
  else if s.handlers.isEmpty then
    -- Without any handler a warning is still shown, bare.
    (s, f, if Level.warning.passes r.level then r.message ++ "\n" else "")
  else
    let (handlers, f, shown) := offerAll stamp r s.handlers f
    ({ s with handlers }, f, shown)

end Log

end Winnow
