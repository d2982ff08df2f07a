import Winnow.Site
import Winnow.Importance
import Winnow.RuleSet
import Winnow.Text.Utf8
import Winnow.Yaml.Value
import Winnow.Number.Shortest

/-!
Settings of a run. They come from a file in the project's root directory, or are the defaults where there is
none; the command line can override some. A value of a type that its key does not take counts as absent.
Paths in the file are relative to the directory of the file and a tilde stands for a home directory.
-/
set_option autoImplicit false

namespace Winnow
open Winnow.Text

structure EngineSettings where
  executable : String := "ilspycmd"
  timeout : Option Float := some 120.0
  referencePaths : List Path := []

structure OutputSettings where
  extension : String := ".cstxt"
  pruneStale : Bool := false
  reportFile : Option Path := none
  logFile : Option Path := none

structure Settings where
  root : Path
  sourceDir : Path
  outputDir : Path
  modulePatterns : List String := ["*.dll"]
  importantPrefixes : List String := Importance.defaultPrefixes
  classifier : RuleSettings := {}
  engine : EngineSettings := {}
  output : OutputSettings := {}

structure Overrides where
  sourceDir : Option Path := none
  outputDir : Option Path := none
  importantPrefixes : List String := []
  reportFile : Option Path := none
  logFile : Option Path := none

inductive SettingsError
  | file (error : FileError)
  | home (error : HomeError)
  | undecodable (error : Undecodable)
  | unnameable (error : Unencodable)
  | malformed (fileName : String)
  | notMapping
  | value (fault : Yaml.Fault)
  | badPattern (pattern : CodeText) (error : Pattern.Error)
  | timeoutTooLarge
  | integerTooLong
  deriving DecidableEq, Repr

namespace Settings

def fileName : String := ".typesift.yml"

end Settings

def SettingsError.message : SettingsError → String
  | .file e => e.message
  | .home e => e.message
  | .undecodable e => e.message
  | .unnameable e => e.message
  | .malformed name => s!"Failed to parse {name}: {Yaml.Fault.malformed.message}"
  | .notMapping => Settings.fileName ++ " must contain a mapping at the root"
  | .value f => f.message
  | .badPattern p e =>
    match e with
    | .malformed .. => s!"Invalid classifier pattern {quotedCodes p}: {e.message}"
    | _ => e.message
  | .timeoutTooLarge => "int too large to convert to float"
  | .integerTooLong =>
    s!"Exceeds the limit ({Number.digitLimit} digits) for integer string conversion; use sys.set_int_max_str_digits() to increase the limit"

/-- Whether the error says that the settings file is wrong, so that the user is told in one line. -/
def SettingsError.isConfigError : SettingsError → Bool
  | .malformed _ | .notMapping | .badPattern _ (.malformed ..) => true
  | _ => false

def SettingsError.ofSite : SiteError → SettingsError
  | .file e => .file e
  | .home e => .home e

namespace Settings

/-! Values as settings take them. -/

def integerText (n : Int) : Except SettingsError CodeText :=
  let s := toString n
  if Number.digitLimit < (toString n.natAbs).length then .error .integerTooLong else .ok (.ofString s)

def text? : Option Yaml.Value → Except SettingsError (Option CodeText)
  | some (.scalar (.text t)) => .ok (some t)
  | some (.scalar (.int n)) => (integerText n).map some
  | some (.scalar (.float x)) => .ok (some (.ofString (Number.floatText x)))
  | _ => .ok none

def filledText? (v : Option Yaml.Value) : Except SettingsError (Option CodeText) := do
  return (← text? v).filter (!·.isEmpty)

/-- An entry of a list of texts, if it has a text: numbers and truth values do. -/
def entryText? : Yaml.Value → Except SettingsError (Option CodeText)
  | .scalar (.bool b) => .ok (some (.ofString (if b then "True" else "False")))
  | v => text? (some v)

/-- A list of texts, or one text alone. Bytes are a list of numbers. -/
def texts : Option Yaml.Value → Except SettingsError (List CodeText)
  | some (.scalar (.text t)) => .ok [t]
  | some (.scalar (.bytes bs)) => .ok (bs.map fun b => .ofString (toString b.toNat))
  | some (.list items) => do return (← items.mapM entryText?).filterMap id
  | _ => .ok []

def strings (v : Option Yaml.Value) : Except SettingsError (List String) := do
  return (← texts v).map (·.display)

/-- A number of seconds: a number, or a text that writes one. -/
def seconds? : Yaml.Value → Except SettingsError (Option Float)
  | .scalar (.float x) => .ok (some x)
  | .scalar (.int n) =>
    match Number.doubleOfInt? n with
    | some x => .ok (some x)
    | none => .error .timeoutTooLarge
  | .scalar (.text t) => .ok (Number.readFloat t).toOption
  | _ => .ok none

/-- Whether a value switches something on: all do but false, nothing, zero and what is empty. -/
def isOn : Option Yaml.Value → Bool
  | none => false
  | some (.scalar .null) => false
  | some (.scalar (.bool b)) => b
  | some (.scalar (.int n)) => n != 0
  | some (.scalar (.float x)) => x != 0.0
  | some (.scalar (.text t)) => !t.isEmpty
  | some (.scalar (.bytes bs)) => !bs.isEmpty
  | some (.scalar .date) => true
  | some (.list items) => !items.isEmpty
  | some (.map entries) => !entries.isEmpty
  | some (.set items) => !items.isEmpty

def section? : Option Yaml.Value → List (Yaml.Value × Yaml.Value)
  | some (.map entries) => entries
  | _ => []

/-- The path that a text writes, relative to `root` and with a tilde at its beginning expanded. -/
def place (site : Site) (root : Path) (text : String) : Except SettingsError Path := do
  let p ← (site.homes.expand (.ofString text)).mapError .home
  (site.files.resolve (root.join p)).mapError .file

/-- The path that a text writes. A component with a surrogate that no file name can hold is looked for in its
directory, or, where a tilde begins the path, as the name of a user. -/
def pathOf (site : Site) (root : Path) (t : CodeText) : Except SettingsError Path :=
  match t.unnameable? with
  | none => place site root t.display
  | some i => do
    let before := t.take i
    let part := before.reverse.takeWhile (· != '/'.toNat)
    let lead := CodeText.display (before.take (i - part.length))
    let count := ((t.drop i).takeWhile isSurrogate).length
    if Path.ofString lead == ⟨0, []⟩ && part.getLast? == some '~'.toNat then
      throw (.unnameable ⟨t.getD i 0, part.length - 1, count⟩)
    let dir ← place site root lead
    let above := if dir.parts.isEmpty then 0 else dir.toString.length
    throw (.unnameable ⟨t.getD i 0, above + 1 + part.length, count⟩)

def path? (site : Site) (root : Path) (v : Option Yaml.Value) : Except SettingsError (Option Path) := do
  match ← filledText? v with
  | some t => return some (← pathOf site root t)
  | none => return none

def default (root : Path) : Settings where
  root := root
  sourceDir := root.join (.ofString "Managed")
  outputDir := root.join (.ofString ".knowledge/Decompiled")

def checkPatterns (patterns : List CodeText) : Except SettingsError Unit :=
  patterns.forM fun p =>
    match Pattern.read p with
    | .ok _ => .ok ()
    | .error e => .error (.badPattern p e)

def readClassifier (entries : List (Yaml.Value × Yaml.Value)) : Except SettingsError RuleSettings := do
  let extraPrefixes ← strings (Yaml.Value.get? entries "extra_prefixes")
  let extraPatterns ← texts (Yaml.Value.get? entries "extra_patterns")
  let disabled ← strings (Yaml.Value.get? entries "disabled")
  checkPatterns extraPatterns
  return { extraPrefixes, extraPatterns, disabled }

def readEngine (site : Site) (root : Path) (entries : List (Yaml.Value × Yaml.Value)) :
    Except SettingsError EngineSettings := do
  let executable ← filledText? (Yaml.Value.get? entries "executable")
  let usual : EngineSettings := {}
  let timeout ← match Yaml.Value.get? entries "timeout" with
    | some v => seconds? v
    | none => pure usual.timeout
  let references ← texts (Yaml.Value.get? entries "reference_paths")
  let referencePaths ← (references.filter (!·.isEmpty)).mapM (pathOf site root)
  return { executable := (executable.map (·.display)).getD usual.executable, timeout, referencePaths }

def dotted (extension : String) : String :=
  if extension.toList.head? == some '.' then extension else "." ++ extension

def readOutput (entries : List (Yaml.Value × Yaml.Value)) : Except SettingsError OutputSettings := do
  let extension ← filledText? (Yaml.Value.get? entries "extension")
  let reportFile ← filledText? (Yaml.Value.get? entries "report_file")
  let logFile ← filledText? (Yaml.Value.get? entries "log_file")
  let usual : OutputSettings := {}
  return {
    extension := dotted ((extension.map (·.display)).getD usual.extension)
    pruneStale := isOn (Yaml.Value.get? entries "prune_stale")
    reportFile := reportFile.map fun t => .ofString t.display
    logFile := logFile.map fun t => .ofString t.display }

def ofEntries (site : Site) (root : Path) (entries : List (Yaml.Value × Yaml.Value)) :
    Except SettingsError Settings := do
  let usual := default root
  let sourceDir ← path? site root (Yaml.Value.get? entries "source_dir")
  let outputDir ← path? site root (Yaml.Value.get? entries "output_dir")
  let patterns ← strings (Yaml.Value.get? entries "module_patterns")
  let importantPrefixes ← match Yaml.Value.get? entries "important_prefixes" with
    | none | some (.scalar .null) => pure usual.importantPrefixes
    | some v => strings (some v)
  let classifier ← readClassifier (section? (Yaml.Value.get? entries "classifier"))
  let engine ← readEngine site root (section? (Yaml.Value.get? entries "engine"))
  let output ← readOutput (section? (Yaml.Value.get? entries "output"))
  return {
    root
    sourceDir := sourceDir.getD usual.sourceDir
    outputDir := outputDir.getD usual.outputDir
    modulePatterns := if patterns.isEmpty then usual.modulePatterns else patterns
    importantPrefixes, classifier, engine, output }

def depth : Nat := 4

/-- The mapping at the root of a settings file, which is empty if the file holds nothing. -/
def readEntries (name : String) (bytes : ByteArray) :
    Except SettingsError (List (Yaml.Value × Yaml.Value)) := do
  let text ← (decode bytes.toList).mapError .undecodable
  let text := unifyNewlines text
  if (trimBlanks text).isEmpty then return []
  match Yaml.read depth text with
  | .error .malformed => throw (.malformed name)
  | .error f => throw (.value f)
  | .ok none | .ok (some (.scalar .null)) => return []
  | .ok (some (.map entries)) => return entries
  | .ok (some _) => throw .notMapping

/-- Where the settings file is: the path itself, or the file of the usual name in it if it is a directory. -/
def locate (site : Site) (path : Path) : Except SettingsError Path := do
  let path ← (site.homes.expand path).mapError .home
  let path :=
    if ← (site.files.isDir path).mapError .file then path.join (.ofString fileName) else path
  (site.files.resolve path).mapError .file

/-- The settings in the file at a path, or the defaults if there is no such file. -/
def load (site : Site) (path : Path) : Except SettingsError Settings := do
  let file ← locate site path
  let root := file.parent
  if !(← (site.files.isThere file).mapError .file) then return default root
  let bytes ← (site.files.readFile file).mapError .file
  ofEntries site root (← readEntries file.name bytes)

def override (s : Settings) (site : Site) (o : Overrides) : Except SettingsError Settings := do
  let sourceDir ← o.sourceDir.mapM fun p => (site.locate p).mapError SettingsError.ofSite
  let outputDir ← o.outputDir.mapM fun p => (site.locate p).mapError SettingsError.ofSite
  return { s with
    sourceDir := sourceDir.getD s.sourceDir
    outputDir := outputDir.getD s.outputDir
    importantPrefixes := if o.importantPrefixes.isEmpty then s.importantPrefixes else o.importantPrefixes
    output := { s.output with
      reportFile := o.reportFile <|> s.output.reportFile
      logFile := o.logFile <|> s.output.logFile } }

/-- Where a report or a log is written: a relative path leads below the output directory. -/
def outputPath (s : Settings) (p : Path) : Path := s.outputDir.join p

end Settings

end Winnow
