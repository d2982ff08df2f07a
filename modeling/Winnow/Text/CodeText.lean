/-!
Text over all code points. A `String` holds scalar values only; escapes in a settings file and texts that
come from a decompiler may also name surrogates, which no UTF-8 file can hold. `CodeText` keeps them apart
until they are encoded.
-/
set_option autoImplicit false

namespace Winnow.Text

abbrev CodeText := List Nat

def isSurrogate (c : Nat) : Bool := 0xD800 ≤ c && c ≤ 0xDFFF

def CodeText.ofString (s : String) : CodeText := s.toList.map Char.toNat

def CodeText.display (t : CodeText) : String :=
  String.ofList (t.map fun c => if isSurrogate c then Char.ofNat 0xFFFD else Char.ofNat c)

def CodeText.surrogateRun? (t : CodeText) : Option (Nat × Nat) :=
  match t.findIdx? isSurrogate with
  | none => none
  | some i => some (i, ((t.drop i).takeWhile isSurrogate).length)

def isNameByte (c : Nat) : Bool := 0xDC80 ≤ c && c ≤ 0xDCFF

def CodeText.unnameable? (t : CodeText) : Option Nat := t.findIdx? fun c => isSurrogate c && !isNameByte c

structure Unencodable where
  first : Nat
  position : Nat
  count : Nat
  deriving DecidableEq, Repr

def CodeText.toString? (t : CodeText) : Except Unencodable String :=
  match t.surrogateRun? with
  | some (i, n) => .error ⟨t.getD i 0, i, n⟩
  | none => .ok (String.ofList (t.map Char.ofNat))

theorem surrogateRun?_ofString (s : String) : (CodeText.ofString s).surrogateRun? = none := by
  have h : (CodeText.ofString s).findIdx? isSurrogate = none := by
    rw [List.findIdx?_eq_none_iff]
    intro c hc
    obtain ⟨ch, _, rfl⟩ := List.mem_map.1 hc
    have hv := ch.valid
    simp only [isSurrogate, Char.toNat, Bool.and_eq_false_imp, decide_eq_true_eq, decide_eq_false_iff_not]
    rcases hv with hv | ⟨hv, _⟩ <;> omega
  simp [CodeText.surrogateRun?, h]

@[simp] theorem toString?_ofString (s : String) : (CodeText.ofString s).toString? = .ok s := by
  unfold CodeText.toString?
  rw [surrogateRun?_ofString]
  have h : Char.ofNat ∘ Char.toNat = id := by funext c; simp
  simp only [CodeText.ofString, List.map_map, h, List.map_id, String.ofList_toList]

end Winnow.Text
