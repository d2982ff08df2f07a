import Winnow.Path
import Winnow.Text.Quoted

/-!
Trees of directories and regular files, and what can be done to them by path. A place in a tree is the list
of names from its root; a path leads to a place through directories that exist, two dots leading one up.
Every operation either succeeds or fails for the first reason that the walk meets, and one that fails leaves
the tree as it was, unless it has already made directories on its way.
-/
set_option autoImplicit false

namespace Winnow

abbrev Place := List String

inductive Entry
  | dir
  | file (bytes : ByteArray) (executable : Bool)

instance : DecidableEq Entry
  | .dir, .dir => isTrue rfl
  | .dir, .file .. => isFalse nofun
  | .file .., .dir => isFalse nofun
  | .file b x, .file b' x' => decidable_of_iff (b.data = b'.data ∧ x = x') (by simp [ByteArray.ext_iff])

structure FileTree where
  entries : List (Place × Entry)

inductive Errno
  | noEntry
  | badProgram
  | denied
  | busy
  | alreadyThere
  | notDirectory
  | isDirectory
  | nameTooLong
  deriving DecidableEq, Repr

def Errno.number : Errno → Nat
  | .noEntry => 2
  | .badProgram => 8
  | .denied => 13
  | .busy => 16
  | .alreadyThere => 17
  | .notDirectory => 20
  | .isDirectory => 21
  | .nameTooLong => 36

def Errno.text : Errno → String
  | .noEntry => "No such file or directory"
  | .badProgram => "Exec format error"
  | .denied => "Permission denied"
  | .busy => "Device or resource busy"
  | .alreadyThere => "File exists"
  | .notDirectory => "Not a directory"
  | .isDirectory => "Is a directory"
  | .nameTooLong => "File name too long"

inductive FileError
  /-- Refused by the file system for a path, or for a move from one path to another. -/
  | os (errno : Errno) (path : String) (target : Option String)
  | zeroByte
  | noName (path : String)
  deriving DecidableEq, Repr

def FileError.message : FileError → String
  | .os errno path target =>
    let base := s!"[Errno {errno.number}] {errno.text}: " ++ Text.quoted path
    match target with
    | some other => base ++ " -> " ++ Text.quoted other
    | none => base
  | .zeroByte => "embedded null byte"
  | .noName path => "PosixPath(" ++ Text.quoted path ++ ") has an empty name"

def FileError.isOs : FileError → Bool
  | .os .. => true
  | _ => false

namespace FileTree

/-- What stands at a place. The root is always a directory. -/
def get? (t : FileTree) (place : Place) : Option Entry :=
  if place.isEmpty then some .dir else t.entries.lookup place

def erase (t : FileTree) (place : Place) : FileTree :=
  ⟨t.entries.filter fun entry => entry.1 != place⟩

/-- The tree with `entry` at a place, whatever was there before. -/
def put (t : FileTree) (place : Place) (entry : Entry) : FileTree :=
  ⟨(place, entry) :: (t.erase place).entries⟩

def names (t : FileTree) (place : Place) : List String :=
  t.entries.filterMap fun entry =>
    if entry.1.length == place.length + 1 && place.isPrefixOf entry.1 then entry.1.getLast? else none

def nameLimit : Nat := 255
def pathLimit : Nat := 4095

def enter (place : Place) (part : String) : Place :=
  if part == ".." then place.dropLast else place ++ [part]

/-- Walks through `parts`, each step out of a directory that exists. The last place need not exist. -/
def walk (t : FileTree) (place : Place) : List String → Except Errno Place
  | [] => .ok place
  | part :: rest =>
    match t.get? place with
    | none => .error .noEntry
    | some (.file ..) => .error .notDirectory
    | some .dir =>
      if nameLimit < part.utf8ByteSize then .error .nameTooLong else walk t (enter place part) rest

end FileTree

structure Files where
  tree : FileTree
  current : Place

namespace Files

def holdsZero (p : Path) : Bool := p.parts.any fun part => part.toList.contains '\x00'

/-- The place that a path leads to, whether or not something stands there. -/
def place? (f : Files) (p : Path) : Except Errno Place :=
  if FileTree.pathLimit < p.toString.utf8ByteSize then .error .nameTooLong
  else f.tree.walk (if p.isAbsolute then [] else f.current) p.parts

def stat (f : Files) (p : Path) : Except Errno (Place × Entry) := do
  let place ← f.place? p
  match f.tree.get? place with
  | some entry => return (place, entry)
  | none => throw .noEntry

def fail {α : Type} (errno : Errno) (p : Path) : Except FileError α := .error (.os errno p.toString none)

def look (f : Files) (p : Path) : Except FileError (Option Entry) :=
  if holdsZero p then .ok none
  else match f.stat p with
    | .ok (_, entry) => .ok (some entry)
    | .error .nameTooLong => fail .nameTooLong p
    | .error _ => .ok none

def isDir (f : Files) (p : Path) : Except FileError Bool := return (← f.look p) == some .dir

def isFile (f : Files) (p : Path) : Except FileError Bool := do
  match ← f.look p with
  | some (.file ..) => return true
  | _ => return false

def isThere (f : Files) (p : Path) : Except FileError Bool := return (← f.look p).isSome

def resolve (f : Files) (p : Path) : Except FileError Path :=
  if holdsZero p then .error .zeroByte
  else .ok ⟨1, p.parts.foldl FileTree.enter (if p.isAbsolute then [] else f.current)⟩

def makeDir (f : Files) (p : Path) : Except FileError Files :=
  if holdsZero p then .error .zeroByte
  else match f.place? p with
    | .error errno => fail errno p
    | .ok place =>
      match f.tree.get? place, f.tree.get? place.dropLast with
      | some _, _ => fail .alreadyThere p
      | none, some .dir => .ok { f with tree := f.tree.put place .dir }
      | none, some (.file ..) => fail .notDirectory p
      | none, none => fail .noEntry p

def excuse (f : Files) (p : Path) (e : FileError) : Except FileError Unit :=
  match e with
  | .os .noEntry .. => .error e
  | .os .. =>
    match f.isDir p with
    | .ok true => .ok ()
    | .ok false => .error e
    | .error e => .error e
  | _ => .error e

def ensureDir (f : Files) (p : Path) : Files × Except FileError Unit :=
  match f.makeDir p with
  | .ok g => (g, .ok ())
  | .error e => (f, f.excuse p e)

/-- Makes a directory and those above it that are missing, at most `above` of them. What has been made stays
even if the rest fails. -/
def makeDirsUp (f : Files) (p : Path) : (above : Nat) → Files × Except FileError Unit
  | 0 => f.ensureDir p
  | above + 1 =>
    match f.ensureDir p with
    | (_, .error (.os .noEntry path target)) =>
      if p.parts.isEmpty then (f, .error (.os .noEntry path target))
      else
        match f.makeDirsUp p.parent above with
        | (g, .ok ()) => g.ensureDir p
        | (g, .error e) => (g, .error e)
    | result => result

/-- Makes a directory with all directories above it; one that is there already is no failure. -/
def makeDirs (f : Files) (p : Path) : Files × Except FileError Unit := f.makeDirsUp p p.parts.length

/-- Opens a file for writing: makes it, or empties it. Gives its place. -/
def openNew (f : Files) (p : Path) : Except FileError (Files × Place) :=
  if holdsZero p then .error .zeroByte
  else match f.place? p with
    | .error errno => fail errno p
    | .ok place =>
      match f.tree.get? place, f.tree.get? place.dropLast with
      | some .dir, _ => fail .isDirectory p
      | some (.file _ executable), _ =>
        .ok ({ f with tree := f.tree.put place (.file .empty executable) }, place)
      | none, some .dir => .ok ({ f with tree := f.tree.put place (.file .empty false) }, place)
      | none, some (.file ..) => fail .notDirectory p
      | none, none => fail .noEntry p

def fill (f : Files) (place : Place) (bytes : ByteArray) : Files :=
  match f.tree.get? place with
  | some (.file _ executable) => { f with tree := f.tree.put place (.file bytes executable) }
  | _ => f

def writeFile (f : Files) (p : Path) (bytes : ByteArray) : Except FileError Files := do
  let (opened, place) ← f.openNew p
  return opened.fill place bytes

def readFile (f : Files) (p : Path) : Except FileError ByteArray :=
  if holdsZero p then .error .zeroByte
  else match f.stat p with
    | .ok (_, .file bytes _) => .ok bytes
    | .ok (_, .dir) => fail .isDirectory p
    | .error errno => fail errno p

def unlink (f : Files) (p : Path) : Except FileError Files :=
  if holdsZero p then .error .zeroByte
  else match f.stat p with
    | .ok (place, .file ..) => .ok { f with tree := f.tree.erase place }
    | .ok (_, .dir) => fail .isDirectory p
    | .error errno => fail errno p

/-- Moves a file onto a path, in place of the file that is there. A path that ends in two dots can be the target
of no move. -/
def replace (f : Files) (source target : Path) : Except FileError Files :=
  let refuse (errno : Errno) : Except FileError Files :=
    .error (.os errno source.toString (some target.toString))
  if holdsZero source || holdsZero target then .error .zeroByte
  else match f.stat source, f.place? target with
    | .error errno, _ => refuse errno
    | .ok _, .error errno => refuse errno
    | .ok (from_, entry), .ok to_ =>
      if target.name == ".." then refuse .busy
      else match entry, f.tree.get? to_, f.tree.get? to_.dropLast with
      | .dir, _, _ => refuse .isDirectory
      | .file .., some .dir, _ => refuse .isDirectory
      | .file .., some (.file ..), _ => .ok { f with tree := (f.tree.erase from_).put to_ entry }
      | .file .., none, some .dir => .ok { f with tree := (f.tree.erase from_).put to_ entry }
      | .file .., none, some (.file ..) => refuse .notDirectory
      | .file .., none, none => refuse .noEntry

end Files

end Winnow
