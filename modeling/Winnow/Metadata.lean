import Winnow.FileTree
import Winnow.Image
import Winnow.Metadata.Table
import Winnow.Text.Utf8
import Winnow.TypeTable

/-!
The metadata of a module: streams of bytes, among them one with tables and one with texts. Of the tables
those of the types and of their nesting are read.
-/
set_option autoImplicit false

namespace Winnow

inductive MetadataError
  | refused (file : String) (error : FileError)
  | directory (path : String) (error : FileError)
  | image (file : String) (fault : ImageFault)
  | noMetadata (file : String)
  deriving DecidableEq, Repr

namespace Metadata

def directoryNumber : Nat := 14

def heapText (heap : ByteArray) (place : Nat) : String :=
  Text.decodeReplacing ((heap.data.toList.drop place).takeWhile (· != 0))

/-- The streams of metadata by name, from `count` headers at `offset`. A name ends with a zero byte, and is
filled up to a multiple of four bytes. -/
def streams (root : ByteArray) (offset : Nat) : (count : Nat) → Option (List (String × ByteArray))
  | 0 => some []
  | count + 1 => do
    let start ← littleEndian? root offset 4
    let size ← littleEndian? root (offset + 4) 4
    let name := ((root.extract (offset + 8) (offset + 40)).data.toList).takeWhile (· != 0)
    let rest ← streams root (offset + 8 + (name.length / 4 + 1) * 4) count
    return (Text.decodeReplacing name, root.extract start (start + size)) :: rest

def streamsOf (i : Image) : Option (List (String × ByteArray)) := do
  let header ← i.directory? directoryNumber
  let address ← littleEndian? (i.take header 72) 8 4
  let size ← littleEndian? (i.take header 72) 12 4
  let root := i.take address size
  if (← littleEndian? root 0 4) != 0x424A5342 then none
  let versionLength ← littleEndian? root 12 4
  streams root (18 + versionLength + 2) (← littleEndian? root (18 + versionLength) 2)

structure Tables where
  bytes : ByteArray
  sizes : Sizes
  start : Nat

/-- The tables that a stream holds as a whole. Bits tell which there are; the count of rows is given for
these. -/
def tables? (bytes : ByteArray) : Option Tables := do
  let heaps ← littleEndian? bytes 6 1
  let valid ← littleEndian? bytes 8 8
  let present := (List.range 64).filter valid.testBit
  let counts ← present.zipIdx.mapM fun (number, i) => do
    return (number, ← littleEndian? bytes (24 + 4 * i) 4)
  let sizes : Sizes := {
    largeTexts := heaps.testBit 0
    largeGuids := heaps.testBit 1
    largeBlobs := heaps.testBit 2
    rows := fun t => (counts.lookup t.number).getD 0 }
  let start := 24 + 4 * present.length
  let size := (Table.all.map fun t => sizes.rows t * t.rowWidth sizes).foldr (· + ·) 0
  if bytes.size < start + size then none else some { bytes, sizes, start }

def Tables.cell? (t : Tables) (table : Table) (row column : Nat) : Option Nat := do
  let widths := table.columns.map (Column.width t.sizes)
  let before := (widths.take column).foldr (· + ·) 0
  let offset := t.start + table.offset t.sizes + row * table.rowWidth t.sizes + before
  littleEndian? t.bytes offset (← widths[column]?)

def Tables.types? (t : Tables) (texts : ByteArray) : Option TypeTable := do
  let rows ← (List.range (t.sizes.rows .typeDef)).mapM fun row => do
    return ⟨heapText texts (← t.cell? .typeDef row 1), heapText texts (← t.cell? .typeDef row 2)⟩
  let enclosing ← (List.range (t.sizes.rows .nestedClass)).mapM fun row => do
    return (Int.ofNat (← t.cell? .nestedClass row 0), Int.ofNat (← t.cell? .nestedClass row 1))
  return ⟨rows, enclosing⟩

def types? (i : Image) : Option TypeTable := do
  let streams ← streamsOf i
  let tables ← (streams.lookup "#~").or (streams.lookup "#-")
  (← tables? tables).types? ((streams.lookup "#Strings").getD .empty)

end Metadata

namespace MetadataError

/-- Whether the file is to blame, not the path. Then its name leads the message. -/
def isOpenError : MetadataError → Bool
  | .refused _ e => e.isOs
  | .directory .. => false
  | .image .. | .noMetadata _ => true

def message : MetadataError → String
  | .refused file e => if e.isOs then s!"{file}: {e.message}" else e.message
  | .directory path e => s!"Unable to access file '{path}': {e.message}"
  | .image file fault => s!"{file}: {Text.quoted fault.message}"
  | .noMetadata file => s!"{file}: no .NET metadata found"

end MetadataError

def TypeTable.read (f : Files) (p : Path) : Except MetadataError TypeTable :=
  match f.readFile p with
  | .error (.os .isDirectory path target) => .error (.directory p.toString (.os .isDirectory path target))
  | .error e => .error (.refused p.name e)
  | .ok bytes =>
    match Image.read bytes with
    | .error fault => .error (.image p.name fault)
    | .ok image =>
      match Metadata.types? image with
      | some types => .ok types
      | none => .error (.noMetadata p.name)

end Winnow
