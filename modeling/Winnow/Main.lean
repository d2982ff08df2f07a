import Winnow.CommandLine.Execution
import Winnow.Decompiler
import Winnow.Moment

/-!
The program. It takes in the directories that its command line and settings name, works on them in memory, and
then puts what has changed where it belongs.
-/
set_option autoImplicit false

namespace Winnow

def takeIn (path : Path) : (depth : Nat) → IO (List (Place × Entry))
  | 0 => return []
  | depth + 1 => do
    let place := (← IO.currentDir) / path.toString
    if ← place.isDir then
      let inner ← (← place.readDir).toList.mapM fun entry => takeIn (path.join ⟨0, [entry.fileName]⟩) depth
      return (path.parts, .dir) :: inner.flatten
    else if ← place.pathExists then
      let bytes ← IO.FS.readBinFile place
      return [(path.parts, .file bytes (bytes.toList.take 2 == [0x23, 0x21]))]
    else return []

def takeInAbove (path : Path) : IO (List (Place × Entry)) := do
  let above := (List.range path.parts.length).map fun n => (⟨1, path.parts.take n⟩ : Path)
  let there ← above.filterM fun p => do ((← IO.currentDir) / p.toString).isDir
  return there.map fun p => (p.parts, .dir)

def Files.including (f : Files) (path : Path) (depth : Nat) : IO Files := do
  match f.resolve path with
  | .error _ => return f
  | .ok path =>
    let found := (← takeInAbove path) ++ (← takeIn path depth)
    return { f with tree := ⟨found.foldl (fun t (place, entry) => (FileTree.put ⟨t⟩ place entry).entries) f.tree.entries⟩ }

def outputDepth : Nat := 8

def neededFiles (homes : Homes) (arguments : List String) (f : Files) : IO Files := do
  match Arguments.read arguments with
  | .error _ => return f
  | .ok a =>
    let config := match a.command with
      | .run r => r.config
      | .classify config _ => config
    let f ← match argumentPath? config with
      | some p => f.including ((homes.expand p).toOption.getD p) 2
      | none => pure f
    match a.command.settings ⟨f, homes⟩, a.command with
    | .ok s, .run _ =>
      let f ← f.including s.sourceDir 2
      let f ← f.including s.outputDir outputDepth
      let others := (s.output.reportFile.toList ++ s.output.logFile.toList).map s.outputPath
      let f ← others.foldlM (fun f p => f.including p 1) f
      f.including (.ofString s.engine.executable) 1
    | _, _ => return f

def putBack (before after : FileTree) : IO Unit := do
  let here ← IO.currentDir
  for (place, entry) in after.entries.reverse do
    if before.get? place != some entry then
      let path := here / Path.toString ⟨1, place⟩
      match entry with
      | .dir => IO.FS.createDirAll path
      | .file bytes _ =>
        IO.FS.createDirAll (here / Path.toString ⟨1, place.dropLast⟩)
        IO.FS.writeBinFile path bytes
  for (place, entry) in before.entries do
    if entry != .dir && (after.get? place).isNone then
      IO.FS.removeFile (here / Path.toString ⟨1, place⟩)

def now : IO Moment := do
  try
    let modified := (← ((← IO.currentDir) / "/proc/self").metadata).modified
    return ⟨modified.sec.toNat, modified.nsec.toNat⟩
  catch _ => return ⟨0, 0⟩

end Winnow

open Winnow in
def main (arguments : List String) : IO UInt32 := do
  let current := Path.ofString (← IO.currentDir).toString
  let home := (← IO.getEnv "HOME").getD "/"
  let homes : Homes := ⟨.ofString home, [("root", .ofString "/root")]⟩
  let here : Files := ⟨⟨[]⟩, current.parts⟩
  let before ← neededFiles homes arguments (← here.including current 2)
  let moment ← now
  let surroundings : Surroundings :=
    { homes, stamps := ⟨moment.logText, moment.reportText⟩
      decompiler := fun s => Decompiler.ofSettings s.executable s.timeout }
  let (x, ended) := execute surroundings arguments before
  putBack before.tree x.files.tree
  IO.print x.output
  IO.eprint x.errors
  match ended with
  | .ok code => return code.toUInt32
  | .error e =>
    IO.eprintln e.message
    return 1
