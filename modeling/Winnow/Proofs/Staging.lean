import Winnow.Proofs.Verdict

/-!
Staging files among output files. The staging file of an output lies beside it, so a write could reach another output
only if that has the name of the staging file. No extension allows this but one that repeats the ending of staging
files; with such an extension a write does take other outputs away.
-/
set_option autoImplicit false

namespace Winnow

namespace Files

variable {f g : Files} {dir : Path} {name : String}

theorem stat_child_congr (h : f.SameDirs g) (hd : f.isDir dir = .ok true)
    (he : g.tree.get? (f.placeOf (dir.child name)) = f.tree.get? (f.placeOf (dir.child name))) :
    g.stat (dir.child name) = f.stat (dir.child name) := by
  have hp : g.place? (dir.child name) = f.place? (dir.child name) := by
    rw [place?_child hd, place?_child (isDir_of_dirsKept h.kept hd), h.placeOf]
  unfold stat
  rw [hp]
  cases hq : f.place? (dir.child name) with
  | error errno => rfl
  | ok q =>
    rw [placeOf_of_place? hq] at he
    simp only [bind, Except.bind, he]

theorem stat_of_isDir (hd : f.isDir dir = .ok true) : f.stat dir = .ok (f.placeOf dir, .dir) := by
  obtain ⟨-, q, hq, hqd⟩ := isDir_eq_true.mp hd
  rw [placeOf_of_place? hq]
  exact stat_eq_ok.mpr ⟨hq, hqd⟩

end Files

namespace Outputs

def stagingEnds : Nat → String
  | 0 => ""
  | k + 1 => stagingEnds k ++ ".tmp"

theorem stagingEnds_succ (k : Nat) : stagingEnds (k + 1) = ".tmp" ++ stagingEnds k := by
  induction k with
  | zero => rfl
  | succ k ih =>
    calc stagingEnds (k + 1) ++ ".tmp" = ".tmp" ++ stagingEnds k ++ ".tmp" := by rw [ih]
      _ = ".tmp" ++ stagingEnds (k + 1) := String.append_assoc

theorem stagingName_append (name : String) (k : Nat) :
    stagingName (name ++ stagingEnds k) = stagingName name ++ stagingEnds k := by
  calc "." ++ (name ++ stagingEnds k) ++ ".tmp" = "." ++ name ++ stagingEnds (k + 1) := by
        rw [stagingEnds, ← String.append_assoc, ← String.append_assoc]
    _ = "." ++ name ++ ".tmp" ++ stagingEnds k := by rw [stagingEnds_succ, ← String.append_assoc]

theorem utf8ByteSize_stagingEnds (k : Nat) : (stagingEnds k).utf8ByteSize = 4 * k := by
  induction k with
  | zero => rfl
  | succ k ih =>
    have h4 : ".tmp".utf8ByteSize = 4 := rfl
    rw [stagingEnds, String.utf8ByteSize_append, ih]
    omega

theorem eq_stagingEnds {cs : List Char} (hdot : cs.head? = some '.') (h : cs <:+ cs ++ ".tmp".toList) :
    ∃ k, 1 ≤ k ∧ cs = (stagingEnds k).toList := by
  induction hn : cs.length using Nat.strongRecOn generalizing cs with
  | ind n ih =>
    have htmp : ".tmp".toList = ['.', 't', 'm', 'p'] := rfl
    rcases List.suffix_or_suffix_of_suffix h (List.suffix_append cs ".tmp".toList) with hs | ⟨init, rfl⟩
    · refine ⟨1, Nat.le_refl 1, ?_⟩
      simp only [htmp, List.suffix_cons_iff, List.suffix_nil] at hs
      rcases hs with rfl | rfl | rfl | rfl | rfl
      · rfl
      all_goals simp at hdot
    · obtain ⟨rest, hrest⟩ := h
      have hinit : init <:+ init ++ ".tmp".toList := ⟨rest, List.append_cancel_right (by simpa using hrest)⟩
      cases hi : init with
      | nil => exact ⟨1, Nat.le_refl 1, rfl⟩
      | cons c cs =>
        have hc : init.head? = some '.' := by simpa [hi] using hdot
        have hlt : init.length < n := by rw [← hn, List.length_append, htmp]; simp
        obtain ⟨k, hk, he⟩ := ih _ hlt hc hinit rfl
        exact ⟨k + 1, by omega, by rw [← hi, he, stagingEnds, String.toList_append]⟩

section Names

variable {o : Outputs} {dir : Path} {name other : String}

theorem pathFor_cases (hdot : o.extension.toList.head? = some '.') (hx : '/' ∉ o.extension.toList) (dir : Path)
    (name : String) : o.pathFor dir name = dir.child (TypeName.fileStem name ++ o.extension) ∨
      (o.extension = "." ∧ o.pathFor dir name = dir) := by
  rw [pathFor_of_slashFree hx]
  cases hp : Path.isPart (TypeName.fileStem name ++ o.extension) with
  | true => exact .inl (by rw [List.filter_cons_of_pos hp]; rfl)
  | false =>
    right
    obtain ⟨rest, hrest⟩ := List.head?_eq_some_iff.mp hdot
    have hle : (TypeName.fileStem name ++ o.extension).toList.length ≤ 1 := by
      simp only [Path.isPart, Bool.and_eq_false_iff, bne_eq_false_iff_eq] at hp
      rcases hp with hp | hp <;> simp [hp]
    have hnil : rest = [] := by
      rw [String.toList_append, hrest, List.length_append, List.length_cons] at hle
      exact List.length_eq_zero_iff.mp (by omega)
    refine ⟨?_, ?_⟩
    · rw [← String.toList_inj, hrest, hnil]
      rfl
    · have hneg : ¬ Path.isPart (TypeName.fileStem name ++ o.extension) = true := by rw [hp]; exact Bool.false_ne_true
      rw [List.filter_cons_of_neg hneg, List.filter_nil, List.append_nil]

theorem stagingPath_child (dir : Path) (name : String) : stagingPath (dir.child name) = dir.child (stagingName name) := by
  simp [stagingPath, Path.withName, Path.child, Path.name, stagingName]

/-- The staging file of an output is an output only if the extension repeats the ending of staging files. -/
theorem extension_of_stagingName (hdot : o.extension.toList.head? = some '.')
    (h : stagingName (name ++ o.extension) = other ++ o.extension) : ∃ k, 1 ≤ k ∧ o.extension = stagingEnds k := by
  have hl : '.' :: name.toList ++ (o.extension.toList ++ ".tmp".toList) = other.toList ++ o.extension.toList := by
    simpa [stagingName] using congrArg String.toList h
  have hs : o.extension.toList <:+ o.extension.toList ++ ".tmp".toList := by
    refine List.suffix_of_suffix_length_le ⟨other.toList, hl.symm⟩ (List.suffix_append _ _) ?_
    simp
  obtain ⟨k, hk, he⟩ := eq_stagingEnds hdot hs
  exact ⟨k, hk, String.toList_inj.mp he⟩

theorem stagingName_ne_append_dot (name other : String) : stagingName name ≠ other ++ "." := by
  intro h
  have hlast := congrArg (fun s => s.toList.reverse.head?) h
  simp [stagingName] at hlast

end Names

section Write

variable {p : Path} {value : Decompiled} {f : Files} {o : Outputs} {dir : Path}

theorem write_fst_of_unreached {errno : Errno} (h : f.place? (stagingPath p) = .error errno) : (write p value f).1 = f := by
  by_cases hw : Unwritable p
  · obtain ⟨e, fault, he, -⟩ := write_of_unwritable value f hw
    rw [he]
  · simp only [Unwritable, not_or, Bool.not_eq_true] at hw
    rw [write_of_unreached false hw.1 hw.2 h]

/-- The greatest number of endings for which there is room in the name of a staging file. -/
def endsLimit : Nat := 62

theorem unreached_of_endsLimit {k : Nat} (stem : String) (hk : endsLimit < k) (hd : f.isDir dir = .ok true) :
    f.place? (stagingPath (dir.child (stem ++ stagingEnds k))) = .error .nameTooLong := by
  rw [stagingPath_child, Files.place?_child_eq_error hd, utf8ByteSize_stagingName, String.utf8ByteSize_append,
    utf8ByteSize_stagingEnds]
  unfold endsLimit at hk
  unfold FileTree.nameLimit
  omega

theorem length_placeOf_le (f : Files) (p : Path) : (f.placeOf p).length ≤ (f.placeOf p.parent).length + 1 := by
  rcases List.eq_nil_or_concat p.parts with hn | ⟨init, last, hl⟩
  · simp [Files.placeOf, Path.parent, Path.isAbsolute, hn]
  · have hplace : f.placeOf p = FileTree.enter (f.placeOf p.parent) last := by
      simp [Files.placeOf, Path.parent, Path.isAbsolute, hl]
    rw [hplace, FileTree.enter]
    split
    · rw [List.length_dropLast]
      omega
    · simp

theorem eq_of_placeOf_child {x y : String} (h : f.placeOf (dir.child x) = f.placeOf (dir.child y)) : x = y := by
  have hl := congrArg List.length h
  by_cases hx : x = ".." <;> by_cases hy : y = ".."
  · rw [hx, hy]
  · rw [hx, Files.placeOf_child_up, Files.placeOf_child f dir hy, List.length_dropLast, List.length_append,
      List.length_singleton] at hl
    omega
  · rw [hy, Files.placeOf_child_up, Files.placeOf_child f dir hx, List.length_dropLast, List.length_append,
      List.length_singleton] at hl
    omega
  · rw [Files.placeOf_child f dir hx, Files.placeOf_child f dir hy] at h
    exact List.singleton_inj.mp (List.append_cancel_left h)

theorem placeOf_child_ne_stagingPath {x : String} (hp : (f.placeOf dir).length ≤ (f.placeOf p.parent).length + 1)
    (hs : x ≠ stagingName p.name) : f.placeOf (dir.child x) ≠ f.placeOf (stagingPath p) := by
  intro h
  rw [placeOf_stagingPath] at h
  by_cases hx : x = ".."
  · have hl := congrArg List.length h
    rw [hx, Files.placeOf_child_up, List.length_dropLast, List.length_append, List.length_singleton] at hl
    omega
  · rw [Files.placeOf_child f dir hx] at h
    exact hs (List.singleton_inj.mp (List.append_inj' h rfl).2)

/-- A write leaves all names in the directory as they are but its own and that of its staging file. -/
theorem stat_write_child {x : String} (hd : f.isDir dir = .ok true) (hp : p = dir ∨ ∃ y, p = dir.child y)
    (hx : dir.child x ≠ p) (hs : x ≠ stagingName p.name) :
    (write p value f).1.stat (dir.child x) = f.stat (dir.child x) := by
  obtain ⟨hdirs, hentry⟩ := within_write p value f
  refine Files.stat_child_congr hdirs hd ?_
  rcases hp with rfl | ⟨y, rfl⟩
  · have hstaging := placeOf_child_ne_stagingPath (length_placeOf_le f p) hs
    by_cases hself : f.placeOf (p.child x) = f.placeOf p
    · have hdir := (Files.stat_eq_ok.mp (Files.stat_of_isDir hd)).2
      rw [hself, hdir, (hdirs.dir_iff _).mpr hdir]
    · exact hentry _ hself hstaging
  · have hparent : (dir.child y).parent = dir := by simp [Path.child, Path.parent]
    refine hentry _ (fun h => hx (congrArg dir.child (eq_of_placeOf_child h))) (placeOf_child_ne_stagingPath ?_ hs)
    rw [hparent]
    omega

end Write

/-- That no write to the output of a type changes what the path of another output in the directory leads to. -/
def WritesApart (o : Outputs) : Prop :=
  ∀ f dir name other value, f.isDir dir = .ok true → o.pathFor dir name ≠ o.pathFor dir other →
    (write (o.pathFor dir name) value f).1.stat (o.pathFor dir other) = f.stat (o.pathFor dir other)

section Apart

variable {o : Outputs}

theorem writesApart_of_ne (hdot : o.extension.toList.head? = some '.') (hx : '/' ∉ o.extension.toList)
    (h : ∀ k, 1 ≤ k → k ≤ endsLimit → o.extension ≠ stagingEnds k) : o.WritesApart := by
  intro f dir name other value hd hne
  rcases pathFor_cases hdot hx dir other with ho | ⟨-, ho⟩
  · rw [ho] at hne ⊢
    rcases pathFor_cases hdot hx dir name with hn | ⟨hend, hn⟩
    · rw [hn] at hne ⊢
      by_cases hs : TypeName.fileStem other ++ o.extension = stagingName (TypeName.fileStem name ++ o.extension)
      · obtain ⟨k, hk, hext⟩ := extension_of_stagingName hdot hs.symm
        have hlim : endsLimit < k := Nat.lt_of_not_le fun hle => h k hk hle hext
        have hun := unreached_of_endsLimit (TypeName.fileStem name) hlim hd
        rw [← hext] at hun
        rw [write_fst_of_unreached hun]
      · exact stat_write_child hd (.inr ⟨_, rfl⟩) (Ne.symm hne) (by rwa [Path.name_child])
    · rw [hn] at hne ⊢
      refine stat_write_child hd (.inl rfl) (Ne.symm hne) fun hs => ?_
      exact stagingName_ne_append_dot _ _ (hend ▸ hs.symm)
  · rw [ho]
    have hdirs := (within_write (o.pathFor dir name) value f).dirs
    rw [Files.stat_of_isDir hd, Files.stat_of_isDir (Files.isDir_of_dirsKept hdirs.kept hd), hdirs.placeOf]

theorem not_mem_stagingEnds {c : Char} (hc : c ∉ ".tmp".toList) (k : Nat) : c ∉ (stagingEnds k).toList := by
  induction k with
  | zero => simp [stagingEnds]
  | succ k ih =>
    rw [stagingEnds, String.toList_append, List.mem_append]
    exact not_or.mpr ⟨ih, hc⟩

theorem pathFor_of_stagingEnds {k : Nat} {name : String} (hk : 1 ≤ k) (he : o.extension = stagingEnds k) (dir : Path)
    (hn : name ≠ "") : o.pathFor dir name = dir.child (TypeName.fileStem name ++ stagingEnds k) := by
  rw [← he]
  refine pathFor_eq_child (he ▸ not_mem_stagingEnds (by decide) k) dir hn fun hnil => ?_
  have hsize := utf8ByteSize_stagingEnds k
  rw [← he, hnil, String.utf8ByteSize_empty] at hsize
  omega

theorem not_writesApart_of_stagingPath {f : Files} {dir : Path} {name other : String} {q : Place} {b : ByteArray}
    {x : Bool} (hd : f.isDir dir = .ok true) (ho : o.pathFor dir other = stagingPath (o.pathFor dir name))
    (hw : ¬ Unwritable (o.pathFor dir name)) (hs : f.stat (o.pathFor dir other) = .ok (q, .file b x)) :
    ¬ o.WritesApart := by
  intro h
  have hne : o.pathFor dir name ≠ o.pathFor dir other := by
    intro he
    have hn : (o.pathFor dir name).name = stagingName (o.pathFor dir name).name := by
      simpa [stagingPath, Path.withName, Path.name, stagingName] using congrArg Path.name (he.trans ho)
    exact stagingName_ne _ hn.symm
  have hkept := (h f dir name other (.other "NoneType") hd hne).trans hs
  cases hr : write (o.pathFor dir name) (.other "NoneType") f with
  | mk g result =>
    rw [hr, ho] at hkept
    cases result with
    | ok u =>
      obtain ⟨t, s, ht, -⟩ := write_eq_ok hr
      cases ht
    | error e => exact (write_eq_error hw hr).1.gone q b x hkept

/-- With an extension that repeats the ending of staging files, a write to the output of `A` takes that of `.A.tmp`
away. -/
theorem not_writesApart {k : Nat} (hk : 1 ≤ k) (hlim : k ≤ endsLimit) (he : o.extension = stagingEnds k) :
    ¬ o.WritesApart := by
  have hA : o.pathFor ⟨1, []⟩ "A" = (⟨1, []⟩ : Path).child ("A" ++ stagingEnds k) :=
    pathFor_of_stagingEnds hk he _ (by decide)
  have hother : o.pathFor ⟨1, []⟩ ".A.tmp" = (⟨1, []⟩ : Path).child (".A.tmp" ++ stagingEnds k) :=
    pathFor_of_stagingEnds hk he _ (by decide)
  have hstaging : o.pathFor ⟨1, []⟩ ".A.tmp" = stagingPath (o.pathFor ⟨1, []⟩ "A") := by
    rw [hother, hA, stagingPath_child, stagingName_append]
    rfl
  have hw : ¬ Unwritable (o.pathFor ⟨1, []⟩ "A") := by
    have hz := not_mem_stagingEnds (c := '\x00') (by decide) k
    rw [hA, Unwritable, Path.name_child, ← String.toList_inj]
    simp [Files.holdsZero, Path.child, hz]
  have hroom : (".A.tmp" ++ stagingEnds k).utf8ByteSize = 6 + 4 * k := by
    rw [String.utf8ByteSize_append, utf8ByteSize_stagingEnds]
    rfl
  have hfits : (".A.tmp" ++ stagingEnds k).utf8ByteSize ≤ FileTree.nameLimit := by
    unfold endsLimit at hlim
    unfold FileTree.nameLimit
    omega
  have hup : ".A.tmp" ++ stagingEnds k ≠ ".." := by
    intro h
    rw [h] at hroom
    exact absurd hroom (by rw [show "..".utf8ByteSize = 2 from rfl]; omega)
  exact not_writesApart_of_stagingPath (Files.isDir_lone _) hstaging hw (hother ▸ Files.stat_lone hup hfits)

/-- Writes to outputs are apart exactly if the extension does not repeat the ending of staging files, or repeats it
so often that no staging file can be made. -/
theorem writesApart_iff (hdot : o.extension.toList.head? = some '.') (hx : '/' ∉ o.extension.toList) :
    o.WritesApart ↔ ∀ k, 1 ≤ k → k ≤ endsLimit → o.extension ≠ stagingEnds k := by
  constructor
  · intro h k hk hlim he
    exact not_writesApart hk hlim he h
  · exact writesApart_of_ne hdot hx

theorem writesApart_cstxt : ".cstxt".toList.head? = some '.' ∧ '/' ∉ ".cstxt".toList ∧
    (⟨⟨0, ["out"]⟩, ".cstxt", []⟩ : Outputs).WritesApart := by
  refine ⟨rfl, by decide, (writesApart_iff (o := ⟨⟨0, ["out"]⟩, ".cstxt", []⟩) rfl (by decide)).mpr ?_⟩
  intro k _ _ he
  have hsize := utf8ByteSize_stagingEnds k
  rw [← he, show ".cstxt".utf8ByteSize = 6 from rfl] at hsize
  omega

end Apart

end Outputs

end Winnow
