import Winnow.Json
import Winnow.ModuleFile

/-!
What came of a run: for each type, for each module, and in all.
-/
set_option autoImplicit false

namespace Winnow

structure TypeFailure where
  fullName : String
  error : String
  kind : String
  deriving DecidableEq, Repr

inductive TypeResult
  | written (path : Path)
  | skippedEmpty
  | skippedGenerated (rule : Option String)
  | failed (failure : TypeFailure)
  | other (status : String)
  deriving DecidableEq, Repr

namespace TypeResult

def status : TypeResult → String
  | .written _ => "written"
  | .skippedEmpty => "skipped_empty"
  | .skippedGenerated _ => "skipped_generated"
  | .failed _ => "failed"
  | .other status => status

def ofFields (status : String) (path : Option Path) (rule : Option String) (failure : Option TypeFailure) :
    TypeResult :=
  match path, failure with
  | some path, _ => if status == "written" then .written path else ofRest failure
  | none, _ => ofRest failure
where
  ofRest : Option TypeFailure → TypeResult
    | some failure => if status == "failed" then .failed failure else skipped
    | none => skipped
  skipped : TypeResult :=
    if status == "skipped_empty" then .skippedEmpty
    else if status == "skipped_generated" then .skippedGenerated rule
    else .other status

def path? : TypeResult → Option Path
  | .written path => some path
  | _ => none

def rule? : TypeResult → Option String
  | .skippedGenerated rule => rule
  | _ => none

def failure? : TypeResult → Option TypeFailure
  | .failed failure => some failure
  | _ => none

end TypeResult

structure TypeOutcome where
  name : String
  fullName : String
  result : TypeResult
  deriving DecidableEq, Repr

structure Report where
  module : String
  processed : Nat := 0
  skippedGenerated : Nat := 0
  failed : List TypeFailure := []
  written : List Path := []
  renamed : List String := []
  outcomes : List TypeOutcome := []
  deriving DecidableEq, Repr

namespace Report

def record (r : Report) (o : TypeOutcome) : Report :=
  let r := { r with outcomes := r.outcomes ++ [o] }
  match o.result with
  | .written path => { r with processed := r.processed + 1, written := r.written ++ [path] }
  | .skippedGenerated _ => { r with skippedGenerated := r.skippedGenerated + 1 }
  | .failed failure => { r with failed := r.failed ++ [failure] }
  | .skippedEmpty | .other _ => r

def toJson (r : Report) : Json.Value :=
  .object [
    ("module", .text r.module),
    ("processed", .number r.processed),
    ("skipped_generated", .number r.skippedGenerated),
    ("failed", .list (r.failed.map fun f =>
      .object [("type", .text f.fullName), ("kind", .text f.kind), ("error", .text f.error)])),
    ("renamed", .list (r.renamed.map .text))]

end Report

inductive ModuleStatus
  | skippedUnimportant
  | completed
  | failed
  | other (status : String)
  deriving DecidableEq, Repr

namespace ModuleStatus

def text : ModuleStatus → String
  | .skippedUnimportant => "skipped_unimportant"
  | .completed => "completed"
  | .failed => "failed"
  | .other status => status

def ofText (status : String) : ModuleStatus :=
  if status == "skipped_unimportant" then .skippedUnimportant
  else if status == "completed" then .completed
  else if status == "failed" then .failed
  else .other status

end ModuleStatus

structure ModuleOutcome where
  module : ModuleFile
  status : ModuleStatus
  report : Option Report := none
  error : Option String := none
  deriving DecidableEq, Repr

def ModuleOutcome.toJson (o : ModuleOutcome) : Json.Value :=
  .object ([
    ("module", .text o.module.baseName),
    ("path", .text o.module.path.toString),
    ("status", .text o.status.text)] ++
    (o.report.map fun r => ("report", r.toJson)).toList ++
    (o.error.map fun e => ("error", .text e)).toList)

structure Summary where
  modules : List ModuleOutcome
  deriving DecidableEq, Repr

namespace Summary

def reports (s : Summary) : List Report := s.modules.filterMap (·.report)

def processed (s : Summary) : Nat := (s.reports.map (·.processed)).foldr (· + ·) 0

def skippedGenerated (s : Summary) : Nat := (s.reports.map (·.skippedGenerated)).foldr (· + ·) 0

def failedTypes (s : Summary) : Nat := (s.reports.map (·.failed.length)).foldr (· + ·) 0

def withStatus (s : Summary) (status : ModuleStatus) : List ModuleOutcome :=
  s.modules.filter (·.status == status)

def failedModules (s : Summary) : List ModuleOutcome := s.withStatus .failed

def skippedModules (s : Summary) : List ModuleOutcome := s.withStatus .skippedUnimportant

def reportFor (s : Summary) (baseName : String) : Option Report :=
  (s.modules.find? (·.module.baseName == baseName)).bind (·.report)

def totals (s : Summary) : Json.Value :=
  .object [
    ("modules", .number s.modules.length),
    ("skipped_modules", .number s.skippedModules.length),
    ("failed_modules", .number s.failedModules.length),
    ("processed", .number s.processed),
    ("skipped_generated", .number s.skippedGenerated),
    ("failed_types", .number s.failedTypes)]

def members (s : Summary) : List (String × Json.Value) :=
  [("totals", s.totals), ("modules", .list (s.modules.map (·.toJson)))]

def toJson (s : Summary) : Json.Value := .object s.members

def reportText (s : Summary) (stamp : String) : String :=
  (Json.Value.object ([("version", .number 1), ("generated_at", .text stamp)] ++ s.members)).render

end Summary

end Winnow
