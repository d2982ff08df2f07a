import Winnow.Outputs
import Winnow.Proofs.Files

/-!
What a write to an output file does. Either the file holds the text afterwards and its staging file is gone,
or nothing has changed but the staging file, which is gone too.
-/
set_option autoImplicit false

namespace Winnow

section MapError

variable {ε ε' α : Type}

@[simp] theorem mapError_ok (g : ε → ε') (a : α) : (Except.ok a).mapError g = .ok a := rfl

@[simp] theorem mapError_error (g : ε → ε') (e : ε) : (Except.error e : Except ε α).mapError g = .error (g e) := rfl

theorem ok_of_mapError {x : Except ε α} {g : ε → ε'} {a : α} (h : x.mapError g = .ok a) : x = .ok a := by
  cases x with
  | ok b => exact congrArg Except.ok (Except.ok.inj h)
  | error e => cases h

end MapError

namespace Path

theorem parts_eq_dropLast_append {p : Path} (h : p.name ≠ "") : p.parts = p.parts.dropLast ++ [p.name] := by
  rcases List.eq_nil_or_concat p.parts with hn | ⟨init, last, hl⟩
  · simp [name, hn] at h
  · simp [name, hl]

end Path

namespace Outputs

def stagingName (name : String) : String := "." ++ name ++ ".tmp"

theorem parts_stagingPath (p : Path) : (stagingPath p).parts = p.parts.dropLast ++ [stagingName p.name] := rfl

theorem length_stagingName (name : String) : (stagingName name).length = name.length + 5 := by
  have h1 : ".".length = 1 := rfl
  have h4 : ".tmp".length = 4 := rfl
  simp only [stagingName, String.length_append]
  omega

theorem stagingName_ne_dots (name : String) : stagingName name ≠ ".." := by
  intro h
  have hl := congrArg String.length h
  rw [length_stagingName] at hl
  have h2 : "..".length = 2 := rfl
  omega

theorem stagingName_ne (name : String) : stagingName name ≠ name := by
  intro h
  have hl := congrArg String.length h
  rw [length_stagingName] at hl
  omega

theorem holdsZero_stagingPath {p : Path} (h : p.name ≠ "") :
    Files.holdsZero (stagingPath p) = Files.holdsZero p := by
  unfold Files.holdsZero
  rw [parts_stagingPath, Path.parts_eq_dropLast_append h]
  simp [stagingName]

theorem placeOf_of_name {f : Files} {p : Path} (h : p.name ≠ "") (hd : p.name ≠ "..") :
    f.placeOf p = f.placeOf p.parent ++ [p.name] := by
  unfold Files.placeOf
  rw [Path.parts_eq_dropLast_append h]
  simp [Path.parent, FileTree.enter, hd, Path.isAbsolute]

theorem placeOf_stagingPath (f : Files) (p : Path) :
    f.placeOf (stagingPath p) = f.placeOf p.parent ++ [stagingName p.name] := by
  unfold Files.placeOf
  rw [parts_stagingPath]
  simp [Path.parent, FileTree.enter, stagingName_ne_dots, Path.isAbsolute, stagingPath, Path.withName]

theorem placeOf_stagingPath_ne {f : Files} {p : Path} (h : p.name ≠ "") (hd : p.name ≠ "..") :
    f.placeOf (stagingPath p) ≠ f.placeOf p := by
  rw [placeOf_stagingPath, placeOf_of_name h hd]
  simp [stagingName_ne]

/-- `g` is `f` after the text `s` has been written to `p`. -/
structure Wrote (f : Files) (p : Path) (s : String) (g : Files) : Prop where
  current : g.current = f.current
  zeroFree : Files.holdsZero p = false
  named : p.name ≠ ""
  notUp : p.name ≠ ".."
  reached : f.place? p = .ok (f.placeOf p)
  free : f.tree.get? (f.placeOf p) ≠ some .dir
  stagingFree : f.tree.get? (f.placeOf (stagingPath p)) ≠ some .dir
  content : ∃ x, g.tree.get? (f.placeOf p) = some (.file s.toUTF8 x)
  staging : g.tree.get? (f.placeOf (stagingPath p)) = none
  others : ∀ q, q ≠ f.placeOf p → q ≠ f.placeOf (stagingPath p) → g.tree.get? q = f.tree.get? q

/-- `g` is `f` after a write to `p` has failed. -/
structure Unwrote (f : Files) (p : Path) (g : Files) : Prop where
  current : g.current = f.current
  entry : ∀ q, g.tree.get? q = f.tree.get? q ∨
    (q = f.placeOf (stagingPath p) ∧ f.tree.get? q ≠ some .dir ∧ g.tree.get? q = none)
  gone : ∀ q b x, g.stat (stagingPath p) ≠ .ok (q, .file b x)

theorem Wrote.dirsKept {f g : Files} {p : Path} {s : String} (h : Wrote f p s g) : f.DirsKept g := by
  refine ⟨h.current, fun q hq => ?_⟩
  by_cases hp : q = f.placeOf p
  · exact absurd (hp ▸ hq) h.free
  · by_cases hs : q = f.placeOf (stagingPath p)
    · exact absurd (hs ▸ hq) h.stagingFree
    · rw [h.others q hp hs, hq]

theorem Unwrote.dirsKept {f g : Files} {p : Path} (h : Unwrote f p g) : f.DirsKept g := by
  refine ⟨h.current, fun q hq => ?_⟩
  rcases h.entry q with he | ⟨-, hn, -⟩
  · rw [he, hq]
  · exact absurd hq hn

structure Staged (f : Files) (p : Path) (g : Files) : Prop where
  current : g.current = f.current
  entry : ∀ q, g.tree.get? q = f.tree.get? q ∨
    (f.place? (stagingPath p) = .ok q ∧ f.tree.get? q ≠ some .dir ∧ ∃ b x, g.tree.get? q = some (.file b x))

theorem Staged.refl (f : Files) (p : Path) : Staged f p f := ⟨rfl, fun _ => .inl rfl⟩

theorem Staged.put {f g : Files} {p : Path} {q : Place} (h : Staged f p g)
    (hp : f.place? (stagingPath p) = .ok q) (hd : f.tree.get? q ≠ some .dir) (b : ByteArray) (x : Bool) :
    Staged f p { g with tree := g.tree.put q (.file b x) } := by
  have hne : q ≠ [] := by rintro rfl; simp at hd
  refine ⟨h.current, fun r => ?_⟩
  by_cases hr : r = q
  · subst hr
    exact .inr ⟨hp, hd, b, x, FileTree.get?_put_self _ _ hne⟩
  · rw [FileTree.get?_put _ _ hr]
    exact h.entry r

theorem Staged.dirsKept {f g : Files} {p : Path} (h : Staged f p g) : f.DirsKept g := by
  refine ⟨h.current, fun q hq => ?_⟩
  rcases h.entry q with he | ⟨-, hn, -⟩
  · rw [he, hq]
  · exact absurd hq hn

theorem Staged.dirsKept_symm {f g : Files} {p : Path} (h : Staged f p g) : g.DirsKept f := by
  refine ⟨h.current.symm, fun q hq => ?_⟩
  rcases h.entry q with he | ⟨-, -, b, x, hb⟩
  · rw [← he, hq]
  · rw [hb] at hq
    cases hq

theorem wrote_of_replace {f k g : Files} {p : Path} {s : String} (hn : p.name ≠ "") (hk : Staged f p k)
    (hs : ∃ x, k.tree.get? (f.placeOf (stagingPath p)) = some (.file s.toUTF8 x))
    (hd : f.tree.get? (f.placeOf (stagingPath p)) ≠ some .dir)
    (h : k.replace (stagingPath p) p = .ok g) : Wrote f p s g := by
  obtain ⟨hz, hu, q, r, b, x, hq, hb, hr, hrd, rfl⟩ := Files.replace_eq_ok h
  have hq' : f.placeOf (stagingPath p) = q :=
    (Files.placeOf_of_current hk.current _).symm.trans (Files.placeOf_of_place? hq)
  have hr' : f.placeOf p = r := (Files.placeOf_of_current hk.current _).symm.trans (Files.placeOf_of_place? hr)
  have hne : q ≠ r := by
    rw [← hq', ← hr']
    exact placeOf_stagingPath_ne hn hu
  have hq0 : q ≠ [] := by rintro rfl; simp at hb
  have hr0 : r ≠ [] := by rintro rfl; simp at hrd
  obtain ⟨y, hy⟩ := hs
  rw [hq', hb] at hy
  cases hy
  refine ⟨hk.current, hz, hn, hu, ?_, ?_, hd, ⟨x, ?_⟩, ?_, ?_⟩
  · rw [hr']
    exact Files.place?_of_dirsKept hk.dirsKept_symm hr
  · rw [hr']
    exact fun hf => hrd (hk.dirsKept.tree r hf)
  · rw [hr']
    exact FileTree.get?_put_self _ _ hr0
  · rw [hq', FileTree.get?_put _ _ hne]
    exact FileTree.get?_erase_self _ hq0
  · intro a har haq
    rw [hr'] at har
    rw [hq'] at haq
    rw [FileTree.get?_put _ _ har, FileTree.get?_erase _ haq]
    rcases hk.entry a with he | ⟨ha, -, -⟩
    · exact he
    · exact absurd (hq'.symm.trans (Files.placeOf_of_place? ha)) (Ne.symm haq)

theorem stage_eq_ok {p : Path} {value : Decompiled} {f g : Files} (hn : p.name ≠ "")
    (h : stage p value f = (g, .ok ())) :
    ∃ t s, value = .text t ∧ t.toString? = .ok s ∧ Wrote f p s g := by
  cases value with
  | other kind => simp [stage] at h
  | text t =>
    unfold stage at h
    cases ho : f.openNew (stagingPath p) with
    | error e => simp [ho] at h
    | ok r =>
      obtain ⟨k, q⟩ := r
      obtain ⟨hq, hd, x, rfl⟩ := Files.openNew_eq_ok ho
      have hne : q ≠ [] := by rintro rfl; simp at hd
      have hq' : f.placeOf (stagingPath p) = q := Files.placeOf_of_place? hq
      cases hs : t.toString? with
      | error e => simp [ho, hs] at h
      | ok s =>
        simp only [ho, hs, Files.fill_put f .empty s.toUTF8 x hne] at h
        split at h
        · next g' hr =>
          cases h
          refine ⟨t, s, rfl, hs, wrote_of_replace hn (((Staged.refl f p).put hq hd _ x).put hq hd _ x) ⟨x, ?_⟩ ?_ hr⟩
          · rw [hq']
            exact FileTree.get?_put_self _ _ hne
          · rw [hq']
            exact hd
        · cases h

theorem stage_eq_error {p : Path} {value : Decompiled} {f g : Files} {e : WriteError}
    (h : stage p value f = (g, .error e)) : Staged f p g := by
  cases value with
  | other kind =>
    cases h
    exact .refl f p
  | text t =>
    unfold stage at h
    cases ho : f.openNew (stagingPath p) with
    | error e =>
      simp only [ho, Prod.mk.injEq] at h
      obtain ⟨rfl, -⟩ := h
      exact .refl f p
    | ok r =>
      obtain ⟨k, q⟩ := r
      obtain ⟨hq, hd, x, rfl⟩ := Files.openNew_eq_ok ho
      have hne : q ≠ [] := by rintro rfl; simp at hd
      have hs1 := (Staged.refl f p).put hq hd .empty x
      cases hs : t.toString? with
      | error e =>
        simp only [ho, hs, Prod.mk.injEq] at h
        obtain ⟨rfl, -⟩ := h
        exact hs1
      | ok s =>
        simp only [ho, hs, Files.fill_put f .empty s.toUTF8 x hne] at h
        split at h
        · cases h
        · cases h
          exact hs1.put hq hd _ x

theorem unwrote_of_cleanUp {p : Path} {e : WriteError} {f k g : Files} {r : Except WriteError Unit}
    (hk : Staged f p k) (hz : Files.holdsZero (stagingPath p) = false) (h : cleanUp p e k = (g, r)) :
    Unwrote f p g := by
  unfold cleanUp at h
  cases hu : k.unlink (stagingPath p) with
  | ok k' =>
    simp only [hu, Prod.mk.injEq] at h
    obtain ⟨rfl, -⟩ := h
    obtain ⟨q, b, x, hq, hb, rfl⟩ := Files.unlink_eq_ok hu
    have hq0 : q ≠ [] := by rintro rfl; simp at hb
    have hq' : f.placeOf (stagingPath p) = q :=
      (Files.placeOf_of_current hk.current _).symm.trans (Files.placeOf_of_place? hq)
    refine ⟨hk.current, fun a => ?_, fun a c y hs => ?_⟩
    · by_cases ha : a = q
      · subst ha
        refine .inr ⟨hq'.symm, fun hf => ?_, FileTree.get?_erase_self _ hq0⟩
        rw [hk.dirsKept.tree a hf] at hb
        cases hb
      · rw [FileTree.get?_erase _ ha]
        rcases hk.entry a with he | ⟨hp, -, -⟩
        · exact .inl he
        · exact absurd ((Files.placeOf_of_place? hp).symm.trans hq') ha
    · obtain ⟨hp, hc⟩ := Files.stat_eq_ok.mp hs
      have ha : a = q := (Files.placeOf_of_place? hp).symm.trans
        ((Files.placeOf_of_current hk.current _).trans hq')
      subst ha
      rw [FileTree.get?_erase_self _ hq0] at hc
      cases hc
  | error u =>
    have hg : g = k := by
      rw [hu] at h
      split at h
      · next heq => cases heq
      · cases h
        rfl
      · cases h
        rfl
    subst hg
    refine ⟨hk.current, fun a => ?_, fun a c y hs => ?_⟩
    · rcases hk.entry a with he | ⟨hp, -, b, x, hb⟩
      · exact .inl he
      · rw [Files.unlink_of_file hz (Files.place?_of_dirsKept hk.dirsKept hp) hb] at hu
        cases hu
    · obtain ⟨hp, hc⟩ := Files.stat_eq_ok.mp hs
      rw [Files.unlink_of_file hz hp hc] at hu
      cases hu

theorem write_eq_ok {p : Path} {value : Decompiled} {f g : Files} (h : write p value f = (g, .ok ())) :
    ∃ t s, value = .text t ∧ t.toString? = .ok s ∧ Wrote f p s g := by
  unfold write at h
  split at h
  · cases h
  · next hn =>
    split at h
    · next hs =>
      cases h
      exact stage_eq_ok (by simpa using hn) hs
    · next k e hs =>
      unfold cleanUp at h
      split at h <;> cases h

/-- A path that no file can have. -/
def Unwritable (p : Path) : Prop := p.name = "" ∨ Files.holdsZero p = true

theorem reason_of_isOs {e : FileError} (h : e.isOs = true) : (WriteError.file e).reason = .ok e.message := by
  simp [WriteError.reason, h]

theorem reason_of_stage {p : Path} {value : Decompiled} {f g : Files} {e : WriteError}
    (hz : Files.holdsZero p = false) (hs : Files.holdsZero (stagingPath p) = false)
    (h : stage p value f = (g, .error e)) : ∃ reason, e.reason = .ok reason := by
  cases value with
  | other kind =>
    cases h
    exact ⟨_, rfl⟩
  | text t =>
    unfold stage at h
    simp only at h
    split at h
    · next fe ho =>
      cases h
      exact ⟨_, reason_of_isOs (Files.isOs_of_openNew ho hs)⟩
    · split at h
      · cases h
        exact ⟨_, rfl⟩
      · split at h
        · cases h
        · next fe hr =>
          cases h
          exact ⟨_, reason_of_isOs (Files.isOs_of_replace hr hs hz)⟩

theorem reason_of_cleanUp {p : Path} {k g : Files} {e e' : WriteError}
    (hs : Files.holdsZero (stagingPath p) = false) (he : ∃ reason, e.reason = .ok reason)
    (h : cleanUp p e k = (g, .error e')) : ∃ reason, e'.reason = .ok reason := by
  unfold cleanUp at h
  split at h
  · cases h
    exact he
  · cases h
    exact he
  · next fe _ hu =>
    cases h
    exact ⟨_, reason_of_isOs (Files.isOs_of_unlink hu hs)⟩

theorem write_eq_error {p : Path} {value : Decompiled} {f g : Files} {e : WriteError} (hw : ¬ Unwritable p)
    (h : write p value f = (g, .error e)) : Unwrote f p g ∧ ∃ reason, e.reason = .ok reason := by
  simp only [Unwritable, not_or, Bool.not_eq_true] at hw
  obtain ⟨hn, hz⟩ := hw
  have hs := (holdsZero_stagingPath hn).trans hz
  unfold write at h
  rw [if_neg (by simpa using hn)] at h
  split at h
  · cases h
  · next k d hd =>
    exact ⟨unwrote_of_cleanUp (stage_eq_error hd) hs h, reason_of_cleanUp hs (reason_of_stage hz hs hd) h⟩

theorem exists_stage_eq_error {p : Path} (value : Decompiled) (f : Files)
    (hs : Files.holdsZero (stagingPath p) = true) : ∃ e, stage p value f = (f, .error e) := by
  cases value with
  | other kind => exact ⟨_, rfl⟩
  | text t =>
    unfold stage
    rw [Files.openNew_of_holdsZero f hs]
    exact ⟨_, rfl⟩

theorem write_of_nameless {p : Path} (value : Decompiled) (f : Files) (h : p.name = "") :
    write p value f = (f, .error (.file (.noName p.toString))) := by
  simp [write, h]

theorem write_of_holdsZero {p : Path} (value : Decompiled) (f : Files) (hn : p.name ≠ "")
    (h : Files.holdsZero p = true) : write p value f = (f, .error (.file .zeroByte)) := by
  have hs : Files.holdsZero (stagingPath p) = true := (holdsZero_stagingPath hn).trans h
  obtain ⟨e, he⟩ := exists_stage_eq_error value f hs
  unfold write
  rw [if_neg (by simpa using hn), he]
  simp [cleanUp, Files.unlink_of_holdsZero f hs]

theorem write_of_unwritable {p : Path} (value : Decompiled) (f : Files) (h : Unwritable p) :
    ∃ e fe, write p value f = (f, .error e) ∧ e.reason = .error fe := by
  by_cases hn : p.name = ""
  · exact ⟨_, _, write_of_nameless value f hn, rfl⟩
  · exact ⟨_, _, write_of_holdsZero value f hn (h.resolve_left hn), rfl⟩

end Outputs

end Winnow
