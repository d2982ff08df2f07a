import Winnow.Engine
import Winnow.ModuleScan
import Winnow.Outcome
import Winnow.Settings

/-!
A run over the modules of a directory. Unimportant modules are passed over. Of each other module the types
that are neither nameless nor generated are decompiled and written, each to a file of its own name; if that
file belongs to another type of the module already, to a file of its full name. What fails for one type or
one module is recorded, and the run goes on.
-/
set_option autoImplicit false

namespace Winnow
open Winnow.Text

structure Plan where
  sourceDir : Path
  modulePatterns : List String
  importantPrefixes : List String
  pruneStale : Bool
  referencePaths : List Path
  classifier : Classifier
  engine : Engine
  homes : Homes

def Plan.ofSettings (s : Settings) (classifier : Classifier) (engine : Engine) (homes : Homes) : Plan where
  sourceDir := s.sourceDir
  modulePatterns := s.modulePatterns
  importantPrefixes := s.importantPrefixes
  pruneStale := s.output.pruneStale
  referencePaths := s.engine.referencePaths
  classifier
  engine
  homes

def Plan.searchPaths (p : Plan) : List Path := p.sourceDir :: p.referencePaths

/-- How far a run has come: the files as they are now, what has been called, and what has been told. -/
structure Work where
  files : Files
  outputs : Outputs
  calls : Array Call := #[]
  records : Array Record := #[]

/-- What ends a run before it is complete. -/
inductive RunError
  | file (error : FileError)
  | scan (error : ScanError)
  | prune (error : PruneError)
  deriving DecidableEq, Repr

def RunError.message : RunError → String
  | .file e => e.message
  | .scan e => e.message
  | .prune e => e.message

namespace Work

def start (s : Settings) (files : Files) : Work := { files, outputs := ⟨s.outputDir, s.output.extension, []⟩ }

def tell (w : Work) (level : Level) (message : String) : Work :=
  { w with records := w.records.push ⟨level, "pipeline", message⟩ }

def tellAll (w : Work) (records : List Record) : Work :=
  { w with records := w.records ++ records.toArray }

def call (w : Work) (c : Call) : Work := { w with calls := w.calls.push c }

end Work

/-- The form in which output paths of a module are told apart, since some file systems ignore case. -/
def claimKey (p : Path) : String := caseFold p.toString

structure Progress where
  work : Work
  claimed : List String
  report : Report

namespace Progress

def holds (p : Progress) (path : Path) : Bool := p.claimed.contains (claimKey path)

/-- The file for a type: that of its name, or that of its full name if the first one is taken, with the
answer whether it is the second. Nothing if both are taken, or if they are the same. -/
def target? (p : Progress) (dir : Path) (d : TypeDescriptor) : Option (Path × Bool) :=
  let own := p.work.outputs.pathFor dir d.name
  if !p.holds own then some (own, false)
  else if d.fullName.isEmpty || TypeName.fileStem d.fullName == TypeName.fileStem d.name then none
  else
    let qualified := p.work.outputs.pathFor dir d.fullName
    if p.holds qualified then none else some (qualified, true)

def fail (p : Progress) (d : TypeDescriptor) (kind error : String) : Progress × TypeResult :=
  ({ p with work := p.work.tell .warning s!"Error processing type {d.fullName}: {error}" },
    .failed ⟨d.fullName, error, kind⟩)

/-- Notes that a type has been written to `path`, and tells if this is not the file of its name. -/
def claim (p : Progress) (d : TypeDescriptor) (path : Path) (renamed : Bool) : Progress × TypeResult :=
  let p := { p with claimed := claimKey path :: p.claimed }
  let p := if renamed then
      { p with
        work := p.work.tell .warning
          s!"Type name {d.name} already written in {p.report.module}; wrote {path.name}"
        report := { p.report with renamed := p.report.renamed ++ [d.fullName] } }
    else p
  (p, .written path)

def writeType (plan : Plan) (module : Path) (p : Progress) (d : TypeDescriptor) (path : Path)
    (renamed : Bool) : Progress × Except RunError TypeResult :=
  let answer := plan.engine.decompile p.work.calls p.work.files module plan.searchPaths d.handle
  let p := { p with work := p.work.call (.decompile module d.handle) }
  match answer with
  | .error reason =>
    let (p, result) := p.fail d "decompile" reason
    (p, .ok result)
  | .ok value =>
    let (files, written) := Outputs.write path value p.work.files
    let p := { p with work := { p.work with files } }
    match written with
    | .error e =>
      match e.reason with
      | .ok reason =>
        let (p, result) := p.fail d "write" reason
        (p, .ok result)
      | .error e => (p, .error (.file e))
    | .ok () =>
      let (p, result) := p.claim d path renamed
      (p, .ok result)

def processType (plan : Plan) (module dir : Path) (p : Progress) (d : TypeDescriptor) :
    Progress × Except RunError TypeResult :=
  if d.name.isEmpty then (p, .ok .skippedEmpty)
  else match plan.classifier.match? d.name with
    | some rule =>
      ({ p with work := p.work.tell .debug s!"Skipping generated type {d.fullName} ({rule})" },
        .ok (.skippedGenerated (some rule)))
    | none =>
      match p.target? dir d with
      | some (path, renamed) => writeType plan module p d path renamed
      | none =>
        let (p, result) := p.fail d "write" "output file name collides with another type"
        (p, .ok result)

/-- Processes the types of a module in their order, up to one that ends the run. -/
def processTypes (plan : Plan) (module dir : Path) :
    List TypeDescriptor → Progress → Progress × Except RunError Unit
  | [], p => (p, .ok ())
  | d :: rest, p =>
    match processType plan module dir p d with
    | (p, .error e) => (p, .error e)
    | (p, .ok result) =>
      processTypes plan module dir rest { p with report := p.report.record ⟨d.name, d.fullName, result⟩ }

end Progress

namespace Work

def failModule (w : Work) (m : ModuleFile) (attempt reason : String) : Work × ModuleOutcome :=
  (w.tell .error s!"Failed to {attempt} {m.fileName}: {reason}", { module := m, status := .failed, error := reason })

def close (plan : Plan) (module : Path) (w : Work) : Work :=
  (w.tellAll (plan.engine.close w.calls module)).call (.close module)

/-- Removes outputs in a module's directory that this run did not write, if the plan says so. -/
def prune (plan : Plan) (dir : Path) (written : List Path) (w : Work) : Work × Except RunError Unit :=
  if plan.pruneStale then
    let (files, told, result) := w.outputs.pruneStale dir written w.files
    ({ w with files }.tellAll told, (result.map fun _ => ()).mapError .prune)
  else (w, .ok ())

def processOpen (plan : Plan) (m : ModuleFile) (dir : Path) (w : Work) :
    Work × Except RunError ModuleOutcome :=
  let listed := plan.engine.listTypes w.calls w.files m.path
  let w := w.call (.listTypes m.path)
  match listed with
  | .error reason =>
    let (w, outcome) := w.failModule m "list types of" reason
    (w.close plan m.path, .ok outcome)
  | .ok types =>
    let (p, result) := Progress.processTypes plan m.path dir types ⟨w, [], { module := m.baseName }⟩
    let w := p.work.close plan m.path
    match result with
    | .error e => (w, .error e)
    | .ok () =>
      match w.prune plan dir p.report.written with
      | (w, .error e) => (w, .error e)
      | (w, .ok ()) =>
        let r := p.report
        let w := w.tell .info
          s!"{m.baseName}: processed {r.processed} type(s), skipped {r.skippedGenerated} generated, {r.failed.length} failed"
        (w, .ok { module := m, status := .completed, report := r })

def processModule (plan : Plan) (m : ModuleFile) (w : Work) : Work × Except RunError ModuleOutcome :=
  if !Importance.isImportant plan.importantPrefixes m.baseName then
    (w.tell .info s!"Skipping unimportant module: {m.baseName}",
      .ok { module := m, status := .skippedUnimportant })
  else
    let w := w.tell .info s!"Processing module: {m.baseName}"
    let (outputs, files, made) := w.outputs.ensureModuleDir m.baseName w.files
    let w := { w with outputs, files }
    match made with
    | .error e =>
      let (w, outcome) := w.failModule m "process module" e.message
      (w, .ok outcome)
    | .ok dir =>
      let (told, opened) := plan.engine.openModule w.calls w.files m.path plan.searchPaths
      let w := (w.tellAll told).call (.openModule m.path plan.searchPaths)
      match opened with
      | .error reason =>
        let (w, outcome) := w.failModule m "process module" reason
        (w, .ok outcome)
      | .ok () => w.processOpen plan m dir

def processModules (plan : Plan) : List ModuleFile → Work → Work × Except RunError (List ModuleOutcome)
  | [], w => (w, .ok [])
  | m :: rest, w =>
    match w.processModule plan m with
    | (w, .error e) => (w, .error e)
    | (w, .ok outcome) =>
      let (w, outcomes) := processModules plan rest w
      (w, outcomes.map (outcome :: ·))

/-- The modules of a run: those given, or those in the source directory. -/
def modulesOf (plan : Plan) (given : Option (List ModuleFile)) (w : Work) :
    Except RunError (List ModuleFile) :=
  match given with
  | some modules => .ok modules
  | none => (ModuleScan.list ⟨w.files, plan.homes⟩ plan.modulePatterns plan.sourceDir).mapError .scan

def run (plan : Plan) (given : Option (List ModuleFile)) (w : Work) : Work × Except RunError Summary :=
  match w.outputs.ensureRoot w.files with
  | (files, .error e) => ({ w with files }, .error (.file e))
  | (files, .ok _) =>
    let w := { w with files }
    let w := w.tell .info s!"Decompiling modules from {plan.sourceDir}"
    let w := w.tell .info s!"Writing results to {w.outputs.root}"
    match w.modulesOf plan given with
    | .error e => (w, .error e)
    | .ok modules =>
      match w.processModules plan modules with
      | (w, .error e) => (w, .error e)
      | (w, .ok outcomes) =>
        let s : Summary := ⟨outcomes⟩
        let w := w.tell .info
          s!"Finished: {s.processed} type(s) written, {s.skippedGenerated} generated skipped, {s.failedTypes} failed, {s.failedModules.length} module(s) failed"
        (w, .ok s)

end Work

end Winnow
