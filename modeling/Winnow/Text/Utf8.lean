/-!
Reading UTF-8. A sequence is decoded one character at a time; where it is ill formed the longest part that
could still begin a character is skipped as a whole. `decode` refuses such a part and says where it stands,
`decodeReplacing` puts one replacement character in its place. `unifyNewlines` then turns both other line
ends into a line feed.
-/
set_option autoImplicit false

namespace Winnow.Text

inductive Utf8Fault
  | startByte
  | continuationByte
  | endOfData
  deriving DecidableEq, Repr

/-- The first character of a byte sequence, or how many bytes of it are ill formed together. -/
inductive Utf8Head
  | char (c : Char) (width : Nat)
  | bad (fault : Utf8Fault) (width : Nat)
  deriving DecidableEq, Repr

/-- The bytes that may follow `lead`: how many, and the least and greatest first one of them. -/
def Utf8.followers? (lead : Nat) : Option (Nat × Nat × Nat) :=
  if lead < 0xC2 then none
  else if lead ≤ 0xDF then some (1, 0x80, 0xBF)
  else if lead == 0xE0 then some (2, 0xA0, 0xBF)
  else if lead == 0xED then some (2, 0x80, 0x9F)
  else if lead ≤ 0xEF then some (2, 0x80, 0xBF)
  else if lead == 0xF0 then some (3, 0x90, 0xBF)
  else if lead ≤ 0xF3 then some (3, 0x80, 0xBF)
  else if lead == 0xF4 then some (3, 0x80, 0x8F)
  else none

/-- Takes `need` continuation bytes, the first of them between `lo` and `hi`, onto the value `acc` that
`width` bytes gave. -/
def Utf8.continue (acc width : Nat) : (need lo hi : Nat) → List UInt8 → Utf8Head
  | 0, _, _, _ => .char (Char.ofNat acc) width
  | _ + 1, _, _, [] => .bad .endOfData width
  | need + 1, lo, hi, b :: rest =>
    if lo ≤ b.toNat && b.toNat ≤ hi then
      Utf8.continue (acc * 64 + b.toNat % 64) (width + 1) need 0x80 0xBF rest
    else .bad .continuationByte width

def Utf8.head (lead : UInt8) (rest : List UInt8) : Utf8Head :=
  if lead.toNat < 0x80 then .char (Char.ofNat lead.toNat) 1
  else match Utf8.followers? lead.toNat with
    | none => .bad .startByte 1
    | some (need, lo, hi) => Utf8.continue (lead.toNat % Nat.pow 2 (6 - need)) 1 need lo hi rest

def Utf8Head.width : Utf8Head → Nat
  | .char _ w | .bad _ w => w

structure Undecodable where
  fault : Utf8Fault
  position : Nat
  width : Nat
  byte : UInt8
  deriving DecidableEq, Repr

/-- The heads of a byte sequence from left to right, each with its position and first byte. `skip` bytes
belong to the head before. -/
def Utf8.heads (position skip : Nat) : List UInt8 → List (Nat × UInt8 × Utf8Head)
  | [] => []
  | b :: rest =>
    match skip with
    | skip + 1 => Utf8.heads (position + 1) skip rest
    | 0 =>
      let head := Utf8.head b rest
      (position, b, head) :: Utf8.heads (position + 1) (head.width - 1) rest

def decodeHeads : List (Nat × UInt8 × Utf8Head) → Except Undecodable (List Char)
  | [] => .ok []
  | (_, _, .char c _) :: rest => (decodeHeads rest).map (c :: ·)
  | (position, byte, .bad fault width) :: _ => .error ⟨fault, position, width, byte⟩

def decode (bytes : List UInt8) : Except Undecodable String :=
  (decodeHeads (Utf8.heads 0 0 bytes)).map String.ofList

/-- The text that the bytes encode, with one replacement character for each ill-formed part. -/
def decodeReplacing (bytes : List UInt8) : String :=
  String.ofList ((Utf8.heads 0 0 bytes).map fun head =>
    match head.2.2 with
    | .char c _ => c
    | .bad _ _ => Char.ofNat 0xFFFD)

/-- Line ends unified: a carriage return, with the line feed after it if there is one, becomes a line feed. -/
def unifyNewlineChars : List Char → List Char
  | [] => []
  | '\r' :: '\n' :: rest => '\n' :: unifyNewlineChars rest
  | c :: rest => (if c = '\r' then '\n' else c) :: unifyNewlineChars rest

def unifyNewlines (s : String) : String := String.ofList (unifyNewlineChars s.toList)

def Utf8Fault.message : Utf8Fault → String
  | .startByte => "invalid start byte"
  | .continuationByte => "invalid continuation byte"
  | .endOfData => "unexpected end of data"

def Undecodable.message (e : Undecodable) : String :=
  if e.width == 1 then
    let hex := String.ofList ((Nat.toDigits 16 e.byte.toNat).leftpad 2 '0')
    s!"'utf-8' codec can't decode byte 0x{hex} in position {e.position}: {e.fault.message}"
  else
    s!"'utf-8' codec can't decode bytes in position {e.position}-{e.position + e.width - 1}: {e.fault.message}"

end Winnow.Text
