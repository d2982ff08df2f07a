import Winnow.Proofs.Naming
import Winnow.Proofs.TypeStep

/-!
When two types of a module ask for one file. Case folding neither makes nor hides a slash or a dot, so the keys of
their paths are the same exactly if their names are, once they are safe in a file name and fold.
-/
set_option autoImplicit false

namespace Winnow

namespace Text

theorem mapRuns_eq_some {runs : List Run} {c d : Nat} (h : mapRuns runs c = some d) :
    ∃ r ∈ runs, r.image? c = some d := by
  induction runs with
  | nil => cases h
  | cons r rest ih =>
    rw [mapRuns] at h
    split at h
    · cases h
    · split at h
      · next e he =>
        cases h
        exact ⟨r, by simp, he⟩
      · obtain ⟨r', hm, hr⟩ := ih h
        exact ⟨r', by simp [hm], hr⟩

theorem le_target_of_mem : ∀ r ∈ simpleFolds, 0x61 ≤ r.target := by decide +kernel

theorem le_of_mem_longFolds : ∀ e ∈ longFolds, 0x61 ≤ e.2.1 ∧ ∀ d ∈ e.2.2, 0x61 ≤ d := by decide +kernel

theorem foldCode_cases (c : Nat) :
    foldCode c = (c, []) ∨ 0x61 ≤ (foldCode c).1 ∧ ∀ d ∈ (foldCode c).2, 0x61 ≤ d := by
  unfold foldCode
  split
  · next first others hf => exact .inr (le_of_mem_longFolds _ (List.mem_of_find?_eq_some hf))
  · cases hm : mapRuns simpleFolds c with
    | none => exact .inl rfl
    | some d =>
      obtain ⟨r, hr, hi⟩ := mapRuns_eq_some hm
      have hd := (Run.image?_eq_some hi).2.2
      have ht := le_target_of_mem r hr
      exact .inr ⟨by simp; omega, by simp⟩

theorem toNat_of_ofNat {n : Nat} {c : Char} (h : Char.ofNat n = c) (hc : c ≠ '\x00') : c.toNat = n := by
  by_cases hv : n.isValidChar
  · have ho : Char.ofNat n = Char.ofNatAux n hv := dif_pos hv
    rw [← h, ho]
    rfl
  · have ho : Char.ofNat n = '\x00' := dif_neg hv
    exact absurd (h.symm.trans ho) hc

theorem foldChar_of_mem {c mark : Char} (hz : mark ≠ '\x00') (hm : mark.toNat < 0x61) (h : mark ∈ foldChar c) :
    foldChar c = [c] ∧ c = mark := by
  rcases foldCode_cases c.toNat with hf | ⟨hf, hl⟩
  · have hc : foldChar c = [c] := by simp [foldChar, hf]
    rw [hc, List.mem_singleton] at h
    exact ⟨hc, h.symm⟩
  · rcases List.mem_cons.mp h with h | h
    · have := toNat_of_ofNat h.symm hz
      omega
    · obtain ⟨d, hd, h⟩ := List.mem_map.mp h
      have := toNat_of_ofNat h hz
      have := hl d hd
      omega

theorem foldChar_dot : foldChar '.' = ['.'] := by decide

theorem foldChar_slash : foldChar '/' = ['/'] := by decide

theorem foldChars_eq_dot {s : List Char} : foldChars s = ['.'] ↔ s = ['.'] := by
  constructor
  · intro h
    cases s with
    | nil => cases h
    | cons c s =>
      rw [foldChars_cons] at h
      have hd : '.' ∈ foldChar c := by
        obtain ⟨d, ds, hc⟩ := List.exists_cons_of_ne_nil (foldChar_ne_nil c)
        rw [hc, List.cons_append, List.cons.injEq] at h
        simp [hc, h.1]
      obtain ⟨hc, rfl⟩ := foldChar_of_mem (by decide) (by decide) hd
      rw [hc] at h
      simp only [List.cons_append, List.nil_append, List.cons.injEq, true_and] at h
      rw [foldChars_eq_nil.mp h]
  · rintro rfl
    exact foldChar_dot

theorem count_slash_foldChars (s : List Char) : (foldChars s).count '/' = s.count '/' := by
  induction s with
  | nil => rfl
  | cons c s ih =>
    rw [foldChars_cons, List.count_append, ih, List.count_cons]
    by_cases hc : c = '/'
    · rw [hc, foldChar_slash]
      simp [Nat.add_comm]
    · have hn : '/' ∉ foldChar c := fun h => hc (foldChar_of_mem (by decide) (by decide) h).2
      simp [List.count_eq_zero.mpr hn, hc]

theorem toList_caseFold (s : String) : (caseFold s).toList = foldChars s.toList := String.toList_ofList

theorem caseFold_inj {s t : String} : caseFold s = caseFold t ↔ foldChars s.toList = foldChars t.toList := by
  rw [← toList_caseFold, ← toList_caseFold, String.toList_inj]

theorem caseFold_eq_dot {s : String} : caseFold s = caseFold "." ↔ s = "." := by
  have hd : foldChars ".".toList = ['.'] := foldChar_dot
  rw [caseFold_inj, hd, foldChars_eq_dot, ← String.toList_inj]
  rfl

theorem caseFold_append_inj {s t e : String} : caseFold (s ++ e) = caseFold (t ++ e) ↔ caseFold s = caseFold t := by
  simp [caseFold_inj, foldChars_append]

end Text

namespace Path
open Text

theorem intercalate_append_cons (sep p : List Char) (xs ys : List (List Char)) :
    sep.intercalate (xs ++ p :: ys) = xs.flatMap (· ++ sep) ++ p ++ ys.flatMap (sep ++ ·) := by
  induction xs with
  | nil =>
    induction ys generalizing p with
    | nil => simp [List.intercalate]
    | cons y ys ih => simpa [List.intercalate_cons_cons] using ih y
  | cons x xs ih =>
    cases xs with
    | nil => simpa [List.intercalate_cons_cons] using ih
    | cons x' xs => simpa [List.intercalate_cons_cons] using ih

theorem toList_toString (slashes : Nat) (before after : List String) (part : String) :
    (toString ⟨slashes, before ++ part :: after⟩).toList =
      List.replicate slashes '/' ++ (before.map String.toList).flatMap (· ++ ['/']) ++ part.toList ++
        (after.map String.toList).flatMap (['/'] ++ ·) := by
  have hs : "/".toList = ['/'] := rfl
  simp [toString, String.toList_intercalate, hs, intercalate_append_cons]

theorem claimKey_inj_part (slashes : Nat) (before after : List String) (a b : String) :
    claimKey ⟨slashes, before ++ a :: after⟩ = claimKey ⟨slashes, before ++ b :: after⟩ ↔ caseFold a = caseFold b := by
  simp [claimKey, caseFold_inj, toList_toString, foldChars_append]

theorem count_slash_toString (slashes : Nat) (part : String) (parts : List String) :
    (toString ⟨slashes, part :: parts⟩).toList.count '/' + 1 =
      slashes + (((part :: parts).map String.toList).flatMap (['/'] ++ ·)).count '/' := by
  have h := toList_toString slashes [] parts part
  rw [List.nil_append] at h
  rw [h]
  simp only [List.map_nil, List.flatMap_nil, List.append_nil, List.count_append, List.count_replicate_self,
    List.map_cons, List.flatMap_cons, List.count_singleton_self]
  omega

theorem claimKey_ne_insert {slashes : Nat} {before after : List String} {part : String}
    (hp : isPart part = true) :
    claimKey ⟨slashes, before ++ after⟩ ≠ claimKey ⟨slashes, before ++ part :: after⟩ := by
  intro h
  have h := caseFold_inj.mp h
  have hn : part ≠ "" ∧ part ≠ "." := by simpa [isPart] using hp
  cases hba : before ++ after with
  | nil =>
    obtain ⟨rfl, rfl⟩ := List.append_eq_nil_iff.mp hba
    rw [List.append_nil, toList_toString] at h
    cases slashes with
    | zero =>
      have hd : foldChars part.toList = ['.'] := by simpa [toString, foldChar_dot] using h.symm
      exact hn.2 (String.toList_inj.mp (foldChars_eq_dot.mp hd))
    | succ n =>
      have he : foldChars part.toList = [] := by simpa [toString, foldChars_append] using h
      exact hn.1 (String.toList_eq_nil_iff.mp (foldChars_eq_nil.mp he))
  | cons q qs =>
    have hl := congrArg (List.count '/') h
    rw [count_slash_foldChars, count_slash_foldChars, hba] at hl
    have hq := count_slash_toString slashes q qs
    have hr : (toString ⟨slashes, before ++ part :: after⟩).toList.count '/' + 1 =
        slashes + (((before ++ part :: after).map String.toList).flatMap (['/'] ++ ·)).count '/' := by
      cases before with
      | nil => exact count_slash_toString slashes part after
      | cons b bs => exact count_slash_toString slashes b (bs ++ part :: after)
    have hsum := congrArg (fun parts => ((parts.map String.toList).flatMap (['/'] ++ ·)).count '/') hba
    simp only [List.map_append, List.flatMap_append, List.map_cons, List.flatMap_cons, List.count_append,
      List.count_singleton_self] at hsum hr hq
    omega

theorem exists_splitSlashes (cs : List Char) : ∃ piece pieces, splitSlashes cs = piece :: pieces := by
  induction cs with
  | nil => exact ⟨[], [], rfl⟩
  | cons c cs ih =>
    obtain ⟨piece, pieces, hp⟩ := ih
    by_cases hc : c = '/'
    · exact ⟨[], piece :: pieces, by simp [splitSlashes, hc, hp]⟩
    · exact ⟨c :: piece, pieces, by simp [splitSlashes, hc, hp]⟩

theorem splitSlashes_append {cs ds piece : List Char} {pieces : List (List Char)} (h : '/' ∉ cs)
    (hd : splitSlashes ds = piece :: pieces) : splitSlashes (cs ++ ds) = (cs ++ piece) :: pieces := by
  induction cs with
  | nil => exact hd
  | cons c cs ih =>
    simp only [List.mem_cons, not_or] at h
    simp [splitSlashes, Ne.symm h.1, ih h.2]

/-- A text that begins with a name leads to the component that begins with it, unless that is a dot alone. -/
theorem ofString_append (text : String) : ∃ (rest : String) (parts : List String),
    ∀ name : String, name ≠ "" → '/' ∉ name.toList →
      ofString (name ++ text) = ⟨0, [name ++ rest].filter isPart ++ parts⟩ := by
  obtain ⟨piece, pieces, hp⟩ := exists_splitSlashes text.toList
  refine ⟨String.ofList piece, (pieces.map String.ofList).filter isPart, fun name hn hc => ?_⟩
  have hl : (name ++ text).toList.takeWhile (· == '/') = [] := by
    cases hd : name.toList with
    | nil => exact absurd (String.toList_eq_nil_iff.mp hd) hn
    | cons c cs =>
      have hne : c ≠ '/' := fun he => hc (by simp [hd, he])
      simp [hd, hne]
  have hsplit := splitSlashes_append hc hp
  have he : String.ofList (name.toList ++ piece) = name ++ String.ofList piece := by
    rw [← String.toList_inj]
    simp
  rw [String.toList_append] at hl
  simp only [ofString, String.toList_append, hl, hsplit, List.map_cons, he]
  exact congrArg (Path.mk 0) (List.filter_append [name ++ String.ofList piece] _)

/-- A component that can be a dot alone, which a path drops, still decides about the key. -/
theorem claimKey_inj_component (slashes : Nat) (before after : List String) {a b : String} (ha : a ≠ "")
    (hb : b ≠ "") :
    claimKey ⟨slashes, before ++ ([a].filter isPart ++ after)⟩ =
      claimKey ⟨slashes, before ++ ([b].filter isPart ++ after)⟩ ↔ caseFold a = caseFold b := by
  have hdot : ∀ {c : String}, c ≠ "" → (isPart c = false ↔ c = ".") := fun hc => by simp [isPart, hc]
  cases hpa : isPart a with
  | true =>
    cases hpb : isPart b with
    | true => simpa [hpa, hpb] using claimKey_inj_part slashes before after a b
    | false =>
      obtain rfl := (hdot hb).mp hpb
      have hne : a ≠ "." := fun he => by simp [he, isPart] at hpa
      refine iff_of_false ?_ (mt caseFold_eq_dot.mp hne)
      simpa [hpa, hpb] using (claimKey_ne_insert hpa).symm
  | false =>
    obtain rfl := (hdot ha).mp hpa
    cases hpb : isPart b with
    | true =>
      have hne : b ≠ "." := fun he => by simp [he, isPart] at hpb
      refine iff_of_false ?_ fun he => hne (caseFold_eq_dot.mp he.symm)
      simpa [hpa, hpb] using claimKey_ne_insert hpb
    | false =>
      obtain rfl := (hdot hb).mp hpb
      simp

end Path

namespace Outputs
open Text

theorem claimKey_pathFor_inj (o : Outputs) (dir : Path) {a b : String} (ha : a ≠ "") (hb : b ≠ "") :
    claimKey (o.pathFor dir a) = claimKey (o.pathFor dir b) ↔
      caseFold (TypeName.fileStem a) = caseFold (TypeName.fileStem b) := by
  obtain ⟨rest, parts, hparts⟩ := Path.ofString_append o.extension
  have hfor : ∀ {name : String}, name ≠ "" → o.pathFor dir name =
      ⟨dir.slashes, dir.parts ++ ([TypeName.fileStem name ++ rest].filter Path.isPart ++ parts)⟩ := by
    intro name hn
    rw [pathFor, hparts _ (TypeName.fileStem_ne_empty hn) (TypeName.slash_not_mem_fileStem name)]
    rfl
  rw [hfor ha, hfor hb, Path.claimKey_inj_component _ _ _ (by simp [TypeName.fileStem_ne_empty ha])
    (by simp [TypeName.fileStem_ne_empty hb]), caseFold_append_inj]

end Outputs

end Winnow
