import Winnow.CommandLine.Arguments
import Winnow.Run
import Winnow.RunReport

/-!
What the program does with its command line. It reads settings, puts the log in place, and then either tells
of names whether they are generated, or runs over the modules. What is wrong with the settings or with the
places that the user names ends the program with one line of text; any other error leaves it as it is.
-/
set_option autoImplicit false

namespace Winnow

structure Stamps where
  log : String
  report : String

/-- Where the program runs, how it comes by a decompiler, and which rules are offered to it from outside. -/
structure Surroundings where
  homes : Homes
  stamps : Stamps
  decompiler : EngineSettings → Engine
  plugins : List Plugin := []

/-- How far the program has come: the files, both outputs, the log, which decompilers it has made, and what it
has called. -/
structure Execution where
  files : Files
  output : String := ""
  errors : String := ""
  log : Log.State := {}
  engines : List EngineSettings := []
  calls : Array Call := #[]

inductive Escape
  | settings (error : SettingsError)
  | log (error : FileError)
  | rules (error : RuleSetError)
  | run (error : RunError)
  | report (error : FileError)
  deriving DecidableEq, Repr

def Escape.message : Escape → String
  | .settings e => e.message
  | .log e => e.message
  | .rules e => e.message
  | .run e => e.message
  | .report e => e.message

/-- Whether the settings name something that does not exist, so that the user is told in one line. -/
def RuleSetError.isSettingsError : RuleSetError → Bool
  | .unknownDisabled _ | .badPattern .asciiAndUnicode | .badPattern (.numeralTooLong _) => true
  | _ => false

def RunError.refusal? : RunError → Option Errno
  | .file (.os errno ..) | .scan (.site (.file (.os errno ..))) | .prune (.file (.os errno ..)) => some errno
  | .scan (.missing _) => some .noEntry
  | .scan (.notDirectory _) => some .notDirectory
  | _ => none

def argumentPath? (argument : Option String) : Option Path :=
  (argument.filter (!·.isEmpty)).map .ofString

def RunArguments.overrides (r : RunArguments) : Overrides where
  sourceDir := argumentPath? r.source
  outputDir := argumentPath? r.output
  importantPrefixes := r.prefixes.getD []
  reportFile := argumentPath? r.report
  logFile := argumentPath? r.logFile

def Command.settings (site : Site) : Command → Except SettingsError Settings
  | .run r => do (← load r.config).override site r.overrides
  | .classify config _ => load config
where
  load (config : Option String) : Except SettingsError Settings :=
    Settings.load site ((argumentPath? config).getD ⟨1, site.files.current⟩)

namespace Execution

abbrev Result := Execution × Except Escape Nat

def print (x : Execution) (text : String) : Execution := { x with output := x.output ++ text ++ "\n" }

def warn (x : Execution) (text : String) : Execution := { x with errors := x.errors ++ text ++ "\n" }

def quit (x : Execution) (text : String) : Result := (x.warn text, .ok 1)

def logAll (s : Surroundings) (x : Execution) (records : List Record) : Execution :=
  records.foldl (fun x r =>
    let (log, files, shown) := x.log.log s.stamps.log r x.files
    { x with log, files, errors := x.errors ++ shown }) x

def shownPath (x : Execution) (p : Path) : Path := (p.relativeTo? ⟨1, x.files.current⟩).getD p

def classifier (s : Surroundings) (settings : Settings) : Except RuleSetError Classifier :=
  (RuleSet.discover settings.classifier s.plugins).map (⟨·⟩)

def withoutClassifier (x : Execution) (e : RuleSetError) : Result :=
  if e.isSettingsError then x.quit s!"Invalid classifier settings: {e.message}" else (x, .error (.rules e))

def classify (s : Surroundings) (x : Execution) (settings : Settings) (names : List String) : Result :=
  match classifier s settings with
  | .error e => x.withoutClassifier e
  | .ok c =>
    let verdict (name : String) : String :=
      match c.match? name with
      | some rule => if rule.isEmpty then "authored" else s!"generated ({rule})"
      | none => "authored"
    (names.foldl (fun x name => x.print s!"{name}: {verdict name}") x, .ok 0)

def report (s : Surroundings) (x : Execution) (settings : Settings) (summary : Summary) :
    Execution × Except Escape Unit :=
  match settings.output.reportFile.map settings.outputPath with
  | none => (x, .ok ())
  | some target =>
    match RunReport.write summary s.stamps.report target x.files with
    | (files, .ok ()) => (print { x with files } s!"Run report written to {x.shownPath target}", .ok ())
    | (files, .error e) =>
      let x := { x with files }
      if e.isOs then (x.warn s!"Unable to write run report {target}: {e.message}", .ok ())
      else (x, .error (.report e))

def run (s : Surroundings) (x : Execution) (settings : Settings) : Result :=
  let x := { x with engines := x.engines ++ [settings.engine] }
  match classifier s settings with
  | .error e => x.withoutClassifier e
  | .ok c =>
    let plan := Plan.ofSettings settings c (s.decompiler settings.engine) s.homes
    let (w, result) := (Work.start settings x.files).run plan none
    let x := logAll s { x with files := w.files, calls := x.calls ++ w.calls } w.records.toList
    match result with
    | .error e =>
      match e.refusal? with
      | some .noEntry | some .notDirectory => x.quit e.message
      | some _ => x.quit s!"Unable to create output directory {settings.outputDir}: {e.message}"
      | none => (x, .error (.run e))
    | .ok summary =>
      match x.report s settings summary with
      | (x, .error e) => (x, .error e)
      | (x, .ok ()) =>
        let counts := s!"{summary.skippedGenerated} generated skipped, {summary.failedTypes} failed, {summary.failedModules.length} module(s) failed"
        (x.print s!"Decompiled {summary.processed} type(s) into {x.shownPath settings.outputDir} ({counts})", .ok 0)

/-- Does what a command says under its settings, with the log in place. Only a run has a log file. -/
def perform (s : Surroundings) (x : Execution) (a : Arguments) (settings : Settings) : Result :=
  let logFile := match a.command with
    | .run _ => settings.output.logFile.map settings.outputPath
    | .classify .. => none
  let (log, files, configured) := x.log.configure a.verbosity logFile x.files
  let x := { x with log, files }
  match configured, a.command with
  | .error e, _ =>
    let name := (logFile.map Path.toString).getD ""
    if e.isOs then x.quit s!"Unable to open log file {name}: {e.message}" else (x, .error (.log e))
  | .ok (), .run _ => x.run s settings
  | .ok (), .classify _ names => x.classify s settings names

end Execution

def execute (s : Surroundings) (arguments : List String) (files : Files) : Execution.Result :=
  match Arguments.read arguments with
  | .error e => ({ files, output := e.output, errors := e.errors }, .ok e.code)
  | .ok a =>
    match a.command.settings ⟨files, s.homes⟩ with
    | .ok settings => Execution.perform s { files } a settings
    | .error e =>
      if e.isConfigError then Execution.quit { files } s!"Invalid configuration: {e.message}"
      else ({ files }, .error (.settings e))

end Winnow
