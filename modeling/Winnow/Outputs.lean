import Winnow.Glob
import Winnow.Log
import Winnow.Text.CodeText
import Winnow.Text.Quoted
import Winnow.TypeName

/-!
The output tree: a directory for each module, and in it a file for each type. A file is written beside its
place and then moved there, so that a write that fails leaves nothing behind.
-/
set_option autoImplicit false

namespace Winnow
open Winnow.Text

/-- What a decompiler hands over: a text, or something that is none and has the given kind. -/
inductive Decompiled
  | text (t : CodeText)
  | other (kind : String)
  deriving DecidableEq, Repr

inductive WriteError
  | file (error : FileError)
  | notText (kind : String)
  | unencodable (error : Unencodable)
  deriving DecidableEq, Repr

def WriteError.message : WriteError → String
  | .file e => e.message
  | .notText kind => s!"data must be str, not {kind}"
  | .unencodable e => e.message

/-- What is recorded for a type whose write failed so: the file system refused it, or there was no text that a
file can hold. Any other failure is none of the type alone. -/
def WriteError.reason : WriteError → Except FileError String
  | .file e => if e.isOs then .ok e.message else .error e
  | e => .ok e.message

inductive PruneError
  | file (error : FileError)
  | pattern (error : Glob.Error)
  deriving DecidableEq, Repr

def PruneError.message : PruneError → String
  | .file e => e.message
  | .pattern e => e.message

structure Outputs where
  root : Path
  extension : String
  made : List (String × Path) := []

namespace Outputs

def ensureRoot (o : Outputs) (f : Files) : Files × Except FileError Path :=
  match f.makeDirs o.root with
  | (f, .ok ()) => (f, .ok o.root)
  | (f, .error e) => (f, .error e)

def ensureModuleDir (o : Outputs) (name : String) (f : Files) : Outputs × Files × Except FileError Path :=
  match o.made.lookup name with
  | some dir => (o, f, .ok dir)
  | none =>
    let dir := o.root.join (.ofString name)
    match f.makeDirs dir with
    | (f, .ok ()) => ({ o with made := (name, dir) :: o.made }, f, .ok dir)
    | (f, .error e) => (o, f, .error e)

def pathFor (o : Outputs) (dir : Path) (typeName : String) : Path :=
  dir.join (.ofString (TypeName.fileStem typeName ++ o.extension))

/-- Where a file is written before it is moved to its place. -/
def stagingPath (p : Path) : Path := p.withName ("." ++ p.name ++ ".tmp")

/-- Writes the staging file and moves it. What it leaves behind on failure is not cleaned up yet. -/
def stage (p : Path) (value : Decompiled) (f : Files) : Files × Except WriteError Unit :=
  match value with
  | .other kind => (f, .error (.notText kind))
  | .text t =>
    match f.openNew (stagingPath p) with
    | .error e => (f, .error (.file e))
    | .ok (f, place) =>
      match t.toString? with
      | .error e => (f, .error (.unencodable e))
      | .ok s =>
        let f := f.fill place s.toUTF8
        match f.replace (stagingPath p) p with
        | .ok f => (f, .ok ())
        | .error e => (f, .error (.file e))

/-- Removes the staging file if there is one. A failure to do so takes the place of the one before. -/
def cleanUp (p : Path) (failure : WriteError) (f : Files) : Files × Except WriteError Unit :=
  match f.unlink (stagingPath p) with
  | .ok f => (f, .error failure)
  | .error (.os .noEntry ..) => (f, .error failure)
  | .error e => (f, .error (.file e))

def write (p : Path) (value : Decompiled) (f : Files) : Files × Except WriteError Unit :=
  if p.name.isEmpty then (f, .error (.file (.noName p.toString)))
  else match stage p value f with
    | (f, .ok ()) => (f, .ok ())
    | (f, .error e) => cleanUp p e f

/-- The order of paths: component by component. -/
def pathOrder (a b : Path) : Bool :=
  !b.parts.lex a.parts fun s t => s.toList.lex t.toList fun c d => decide (c.toNat < d.toNat)

/-- Removes one file that is not kept. Gives whether it is gone, and what there is to tell. -/
def prune (kept : List Path) (f : Files) (candidate : Path) :
    Except FileError (Files × Bool × List Record) := do
  if kept.contains (← f.resolve candidate) then return (f, false, [])
  if !(← f.isFile candidate) then return (f, false, [])
  match f.unlink candidate with
  | .ok f => return (f, true, [])
  | .error (.os errno path target) =>
    let reason := (FileError.os errno path target).message
    return (f, false, [⟨.warning, "output", s!"Unable to remove stale file {candidate}: {reason}"⟩])
  | .error e => throw e

def pruneAll (kept : List Path) : List Path → Files → Files × List Record × Except FileError (List Path)
  | [], f => (f, [], .ok [])
  | candidate :: rest, f =>
    match prune kept f candidate with
    | .error e => (f, [], .error e)
    | .ok (f, gone, told) =>
      let (f, more, result) := pruneAll kept rest f
      (f, told ++ more, result.map fun removed => if gone then candidate :: removed else removed)

def candidates (o : Outputs) (dir : Path) (f : Files) : Except PruneError (List Path) := do
  let (steps, onlyDirs) ← (Glob.steps ("*" ++ o.extension)).mapError .pattern
  let found ← (Glob.paths f dir steps onlyDirs).mapError .file
  return found.mergeSort pathOrder

/-- Removes the outputs in a module's directory that are not among those to keep, and gives what is gone. -/
def pruneStale (o : Outputs) (dir : Path) (keep : List Path) (f : Files) :
    Files × List Record × Except PruneError (List Path) :=
  match keep.mapM f.resolve with
  | .error e => (f, [], .error (.file e))
  | .ok kept =>
    match o.candidates dir f with
    | .error e => (f, [], .error e)
    | .ok found =>
      match pruneAll kept found f with
      | (f, told, .error e) => (f, told, .error (.file e))
      | (f, told, .ok removed) =>
        let told := if removed.isEmpty then told else
          told ++ [⟨.debug, "output", s!"Removed {removed.length} stale file(s) from {dir}"⟩]
        (f, told, .ok removed)

end Outputs

end Winnow
