import Winnow.Proofs.Writing

/-!
The paths of output files. A type's file lies directly in the directory of its module, under a name that ends in
the extension and so is never the name of a staging file.
-/
set_option autoImplicit false

namespace Winnow

namespace Path

theorem splitSlashes_of_not_mem {cs : List Char} (h : '/' ∉ cs) : splitSlashes cs = [cs] := by
  induction cs with
  | nil => rfl
  | cons c cs ih =>
    simp only [List.mem_cons, not_or] at h
    simp [splitSlashes, Ne.symm h.1, ih h.2]

theorem ofString_of_slashFree {text : String} (h : '/' ∉ text.toList) : ofString text = ⟨0, [text].filter isPart⟩ := by
  have hl : text.toList.takeWhile (· == '/') = [] := by
    cases hc : text.toList with
    | nil => rfl
    | cons c cs =>
      rw [hc] at h
      simp only [List.mem_cons, not_or] at h
      simp [Ne.symm h.1]
  simp [ofString, hl, splitSlashes_of_not_mem h]

theorem ofString_of_not_mem {text : String} (h : '/' ∉ text.toList) (hp : isPart text = true) :
    ofString text = ⟨0, [text]⟩ := by
  rw [ofString_of_slashFree h, List.filter_cons_of_pos hp, List.filter_nil]

theorem eq_of_parent_of_name {p q : Path} (hp : p.name ≠ "") (hq : q.name ≠ "") (h : p.parent = q.parent)
    (hn : p.name = q.name) : p = q := by
  have hs : p.parent.slashes = q.parent.slashes := congrArg slashes h
  have hd : p.parent.parts = q.parent.parts := congrArg parts h
  have hps : p.parts = q.parts := by
    rw [parts_eq_dropLast_append hp, parts_eq_dropLast_append hq, hn]
    exact congrArg (· ++ [q.name]) hd
  obtain ⟨slashes, parts⟩ := p
  obtain ⟨slashes', parts'⟩ := q
  cases hs
  cases hps
  rfl

end Path

namespace TypeName

theorem safeChar_ne_slash (c : Char) : safeChar c ≠ '/' := by
  unfold safeChar
  split
  · decide
  · next h =>
    rintro rfl
    exact h rfl

theorem slash_not_mem_fileStem (name : String) : '/' ∉ (fileStem name).toList := by
  simp [fileStem, safeChar_ne_slash]

theorem fileStem_eq_dot {name : String} (h : fileStem name = ".") : name = "." := by
  have hd : ∀ c, safeChar c = '.' → c = '.' := by
    intro c hc
    unfold safeChar at hc
    split at hc
    · cases hc
    · exact hc
  have hl : name.toList.map safeChar = ['.'] := by simpa [fileStem] using congrArg String.toList h
  obtain ⟨c, hc, hs⟩ := List.map_eq_singleton_iff.mp hl
  rw [hd c hs] at hc
  exact String.toList_inj.mp hc

theorem fileStem_ne_empty {name : String} (h : name ≠ "") : fileStem name ≠ "" := by
  intro he
  have hl := congrArg String.toList he
  simp only [fileStem, String.toList_ofList, String.toList_empty, List.map_eq_nil_iff] at hl
  exact h (String.toList_eq_nil_iff.mp hl)

theorem slash_not_mem_append {extension : String} (hx : '/' ∉ extension.toList) (name : String) :
    '/' ∉ (fileStem name ++ extension).toList := by
  simp [slash_not_mem_fileStem, hx]

theorem isPart_append {extension name : String} (hn : name ≠ "") (hx : extension = "" → name ≠ ".") :
    Path.isPart (fileStem name ++ extension) = true := by
  have hl := mt String.length_eq_zero_iff.mp (fileStem_ne_empty hn)
  simp only [Path.isPart, Bool.and_eq_true, bne_iff_ne, ne_eq]
  refine ⟨fun h => ?_, fun h => ?_⟩
  · have := congrArg String.length h
    rw [String.length_append, String.length_empty] at this
    omega
  · by_cases he : extension = ""
    · rw [he, String.append_empty] at h
      exact hx he (fileStem_eq_dot h)
    · have hle := mt String.length_eq_zero_iff.mp he
      have := congrArg String.length h
      rw [String.length_append, show ".".length = 1 from rfl] at this
      omega

end TypeName

/-- An extension that begins with a dot, holds no slash and does not end like a staging file. -/
structure FileExtension (extension : String) : Prop where
  dotted : extension.toList.head? = some '.'
  slashFree : '/' ∉ extension.toList
  settled : ¬ ".tmp".toList <:+ extension.toList

namespace FileExtension

theorem cstxt : FileExtension ".cstxt" := ⟨rfl, by decide, by decide⟩

variable {extension : String}

theorem isPart (h : FileExtension extension) {name : String} (hn : name ≠ "") :
    Path.isPart (TypeName.fileStem name ++ extension) = true := by
  refine TypeName.isPart_append hn fun he => ?_
  have := h.dotted
  simp [he] at this

theorem not_suffix (h : FileExtension extension) (stem : String) :
    ¬ ".tmp".toList <:+ (stem ++ extension).toList := by
  intro ht
  obtain ⟨rest, hr⟩ := List.head?_eq_some_iff.mp h.dotted
  rw [String.toList_append] at ht
  rcases List.suffix_or_suffix_of_suffix ht (List.suffix_append _ _) with hs | hs
  · exact h.settled hs
  · have hd := h.settled
    rw [hr] at hs hd
    have he : ".tmp".toList = ['.', 't', 'm', 'p'] := rfl
    simp only [he, List.suffix_cons_iff, List.cons.injEq, List.suffix_nil, reduceCtorEq, or_false] at hs hd
    simp at hs
    simp [hs] at hd

end FileExtension

namespace Outputs

theorem tmp_suffix_stagingName (name : String) : ".tmp".toList <:+ (stagingName name).toList := by
  simp [stagingName]

theorem placeOf_ne_stagingPath {f : Files} {p : Path} (hn : p.name ≠ "") (hu : p.name ≠ "..")
    (ht : ¬ ".tmp".toList <:+ p.name.toList) (q : Path) : f.placeOf p ≠ f.placeOf (stagingPath q) := by
  intro h
  rw [placeOf_of_name hn hu, placeOf_stagingPath] at h
  have hl := (List.append_inj' h rfl).2
  simp only [List.cons.injEq, and_true] at hl
  exact ht (hl ▸ tmp_suffix_stagingName q.name)

theorem eq_of_placeOf {f : Files} {p q : Path} (hp : p.name ≠ "") (hpu : p.name ≠ "..") (hq : q.name ≠ "")
    (hqu : q.name ≠ "..") (hd : p.parent = q.parent) (h : f.placeOf p = f.placeOf q) : p = q := by
  rw [placeOf_of_name hp hpu, placeOf_of_name hq hqu] at h
  have hl := (List.append_inj' h rfl).2
  simp only [List.cons.injEq, and_true] at hl
  exact Path.eq_of_parent_of_name hp hq hd hl

/-- The path is that of a type with some name. -/
def IsTarget (o : Outputs) (dir p : Path) : Prop := ∃ name, name ≠ "" ∧ p = o.pathFor dir name

variable {o : Outputs} {dir p : Path}

theorem pathFor_of_slashFree (hx : '/' ∉ o.extension.toList) (dir : Path) (name : String) : o.pathFor dir name =
    { dir with parts := dir.parts ++ [TypeName.fileStem name ++ o.extension].filter Path.isPart } := by
  rw [pathFor, Path.ofString_of_slashFree (TypeName.slash_not_mem_append hx name)]
  rfl

theorem pathFor_eq_child (hx : '/' ∉ o.extension.toList) (dir : Path) {name : String} (hn : name ≠ "")
    (hin : o.extension = "" → name ≠ ".") :
    o.pathFor dir name = dir.child (TypeName.fileStem name ++ o.extension) := by
  rw [pathFor_of_slashFree hx, List.filter_cons_of_pos (TypeName.isPart_append hn hin)]
  rfl

theorem pathFor_eq (he : FileExtension o.extension) {name : String} (hn : name ≠ "") :
    o.pathFor dir name = { dir with parts := dir.parts ++ [TypeName.fileStem name ++ o.extension] } := by
  rw [pathFor_of_slashFree he.slashFree, List.filter_cons_of_pos (he.isPart hn)]
  rfl

theorem IsTarget.parent (he : FileExtension o.extension) (h : o.IsTarget dir p) : p.parent = dir := by
  obtain ⟨name, hn, hp⟩ := h
  rw [hp, pathFor_eq he hn]
  simp [Path.parent]

theorem IsTarget.name_eq (he : FileExtension o.extension) (h : o.IsTarget dir p) :
    ∃ name, name ≠ "" ∧ p.name = TypeName.fileStem name ++ o.extension := by
  obtain ⟨name, hn, hp⟩ := h
  refine ⟨name, hn, ?_⟩
  rw [hp, pathFor_eq he hn]
  simp [Path.name]

theorem IsTarget.name_ne (he : FileExtension o.extension) (h : o.IsTarget dir p) : p.name ≠ "" := by
  obtain ⟨name, hn, hp⟩ := h.name_eq he
  intro h0
  have hi := he.isPart hn
  rw [← hp, h0] at hi
  cases hi

theorem IsTarget.not_suffix (he : FileExtension o.extension) (h : o.IsTarget dir p) :
    ¬ ".tmp".toList <:+ p.name.toList := by
  obtain ⟨name, -, hp⟩ := h.name_eq he
  rw [hp]
  exact he.not_suffix _

end Outputs

end Winnow
