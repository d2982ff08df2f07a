/-!
Executable images. An image begins with a header that only says where the real ones are; these tell how its
sections are laid out in memory and in the file, and where its directories lie. Numbers are little endian.
Addresses in an image are those in memory; `Image.at?` finds what the file holds for one.
-/
set_option autoImplicit false

namespace Winnow

def littleEndian? (bytes : ByteArray) (offset : Nat) : (width : Nat) → Option Nat
  | 0 => some 0
  | width + 1 =>
    match bytes.data[offset]?, littleEndian? bytes (offset + 1) width with
    | some low, some high => some (low.toNat + 256 * high)
    | _, _ => none

inductive ImageFault
  | empty
  | shortDosHeader
  | swappedDosMagic
  | noDosMagic
  | headersBeyondEnd
  | noHeaders
  | otherFormat (name : String)
  | badSignature
  | noFileHeader
  | noOptionalHeader
  deriving DecidableEq, Repr

def ImageFault.message : ImageFault → String
  | .empty => "The file is empty"
  | .shortDosHeader => "Unable to read the DOS Header, possibly a truncated file."
  | .swappedDosMagic => "Probably a ZM Executable (not a PE file)."
  | .noDosMagic => "DOS Header magic not found."
  | .headersBeyondEnd => "Invalid e_lfanew value, probably not a PE file"
  | .noHeaders => "NT Headers not found."
  | .otherFormat name => s!"Invalid NT Headers signature. Probably a {name} file"
  | .badSignature => "Invalid NT Headers signature."
  | .noFileHeader => "File Header missing"
  | .noOptionalHeader => "No Optional Header found, invalid PE32 or PE32+ file."

structure ImageSection where
  address : Nat
  memorySize : Nat
  offset : Nat
  fileSize : Nat
  deriving DecidableEq, Repr

structure Image where
  bytes : ByteArray
  optionalHeader : Nat
  sections : List ImageSection

namespace ImageSection

def size : Nat := 40

def read? (bytes : ByteArray) (offset : Nat) : Option ImageSection := do
  return {
    memorySize := ← littleEndian? bytes (offset + 8) 4
    address := ← littleEndian? bytes (offset + 12) 4
    fileSize := ← littleEndian? bytes (offset + 16) 4
    offset := ← littleEndian? bytes (offset + 20) 4 }

def holds (s : ImageSection) (address : Nat) : Bool :=
  s.address ≤ address && address < s.address + max s.memorySize s.fileSize

end ImageSection

namespace Image

def otherFormats : List (Nat × String) := [(0x454E, "NE"), (0x454C, "LE"), (0x584C, "LX"), (0x5A56, "TE")]

def headers (bytes : ByteArray) : Except ImageFault Nat :=
  if bytes.size = 0 then .error .empty
  else if bytes.size < 64 then .error .shortDosHeader
  else match littleEndian? bytes 0 2, littleEndian? bytes 0x3C 4 with
    | some 0x4D5A, _ => .error .swappedDosMagic
    | some 0x5A4D, some start =>
      if bytes.size < start then .error .headersBeyondEnd
      else match littleEndian? bytes start 4 with
        | none | some 0 => .error .noHeaders
        | some signature =>
          match otherFormats.lookup (signature % 0x10000) with
          | some name => .error (.otherFormat name)
          | none => if signature == 0x4550 then .ok (start + 4) else .error .badSignature
    | _, _ => .error .noDosMagic

def optionalHeaderLeast : Nat := 69

/-- The image that a file holds. Sections whose headers the file does not hold are left out. -/
def read (bytes : ByteArray) : Except ImageFault Image := do
  let fileHeader ← headers bytes
  let optionalHeader := fileHeader + 20
  match littleEndian? bytes (fileHeader + 2) 2, littleEndian? bytes (fileHeader + 16) 2 with
  | some count, some optionalSize =>
    if bytes.size < optionalHeader + optionalHeaderLeast then throw .noOptionalHeader
    let first := optionalHeader + optionalSize
    let sections := (List.range count).filterMap fun i =>
      ImageSection.read? bytes (first + ImageSection.size * i)
    return { bytes, optionalHeader, sections }
  | _, _ => throw .noFileHeader

/-- Where the list of directories begins; before it stands how many there are. Images of 64 bits have wider
fields in front of it. -/
def directories (i : Image) : Nat :=
  i.optionalHeader + if littleEndian? i.bytes i.optionalHeader 2 == some 0x20B then 112 else 96

def directory? (i : Image) (number : Nat) : Option Nat := do
  let count ← littleEndian? i.bytes (i.directories - 4) 4
  let address ← littleEndian? i.bytes (i.directories + 8 * number) 4
  if number < count && address != 0 then some address else none

/-- Where the file holds what memory has at an address. What no section holds belongs to the headers, which
memory has as they are. -/
def offset (i : Image) (address : Nat) : Nat :=
  match i.sections.find? (·.holds address) with
  | some s => s.offset + (address - s.address)
  | none => address

def take (i : Image) (address size : Nat) : ByteArray :=
  let start := i.offset address
  i.bytes.extract start (start + size)

end Image

end Winnow
