import Winnow.Proofs.Verdict

/-!
A write is all or nothing. Where nothing stands at the staging path, either the file holds the text afterwards and
nothing else has changed, or the files are what they were and the failure names what stood in the way.
-/
set_option autoImplicit false

namespace Winnow

namespace FileTree

variable {t : FileTree} {p q : Place} {parts : List String}

theorem erase_put (t : FileTree) (p : Place) (e : Entry) : (t.put p e).erase p = t.erase p := by
  simp [put, erase]

theorem put_put (t : FileTree) (p : Place) (e e' : Entry) : (t.put p e).put p e' = t.put p e' := by
  rw [put, erase_put, put]

theorem erase_of_get?_eq_none (h : t.get? p = none) : t.erase p = t := by
  have hp : p ≠ [] := by rintro rfl; simp at h
  rw [get?_of_ne_nil t hp, List.lookup_eq_none_iff] at h
  have hf : (t.entries.filter fun e => e.1 != p) = t.entries := by
    refine List.filter_eq_self.mpr fun e he => ?_
    have hne : p ≠ e.1 := by simpa using h e he
    simpa using hne.symm
  rw [erase, hf]

theorem length_of_walk (h : t.walk p parts = .ok q) : ∀ part ∈ parts, part.utf8ByteSize ≤ nameLimit := by
  induction parts generalizing p with
  | nil => simp
  | cons part rest ih =>
    rw [walk] at h
    split at h
    · cases h
    · cases h
    · split at h
      · cases h
      · next hs => exact List.forall_mem_cons.mpr ⟨Nat.le_of_not_lt hs, ih h⟩

theorem errno_of_walk {errno : Errno} (h : t.walk p parts = .error errno) :
    errno = .noEntry ∨ errno = .notDirectory ∨
      (errno = .nameTooLong ∧ ∃ part ∈ parts, nameLimit < part.utf8ByteSize) := by
  induction parts generalizing p with
  | nil => cases h
  | cons part rest ih =>
    rw [walk] at h
    split at h
    · cases h
      exact .inl rfl
    · cases h
      exact .inr (.inl rfl)
    · split at h
      · next hs =>
        cases h
        exact .inr (.inr ⟨rfl, part, by simp, hs⟩)
      · rcases ih h with he | he | ⟨he, long, hp, hs⟩
        · exact .inl he
        · exact .inr (.inl he)
        · exact .inr (.inr ⟨he, long, List.mem_cons_of_mem _ hp, hs⟩)

end FileTree

namespace Path

/-- That a path or a name in it is too long for the file system. -/
def TooLong (p : Path) : Prop :=
  FileTree.pathLimit < p.toString.utf8ByteSize ∨ ∃ part ∈ p.parts, FileTree.nameLimit < part.utf8ByteSize

end Path

namespace Files

variable {f : Files} {p : Path}

theorem not_tooLong_of_place? {q : Place} (h : f.place? p = .ok q) : ¬ p.TooLong := by
  have hl := FileTree.length_of_walk (walk_of_place? h)
  unfold place? at h
  split at h
  · cases h
  · next hp =>
    rintro (hp' | ⟨part, hm, hs⟩)
    · exact hp hp'
    · exact absurd (hl part hm) (Nat.not_le_of_lt hs)

theorem errno_of_place? {errno : Errno} (h : f.place? p = .error errno) :
    errno = .noEntry ∨ errno = .notDirectory ∨ (errno = .nameTooLong ∧ p.TooLong) := by
  unfold place? at h
  split at h
  · next hp =>
    cases h
    exact .inr (.inr ⟨rfl, .inl hp⟩)
  · exact (FileTree.errno_of_walk h).imp_right fun h => h.imp_right fun h => ⟨h.1, .inr h.2⟩

end Files

namespace WriteError
open Outputs

/-- That what an error tells is the case for a write of the value to the path. -/
def Holds (p : Path) (value : Decompiled) (f : Files) : WriteError → Prop
  | .notText kind => value = .other kind
  | .unencodable u => ∃ t, value = .text t ∧ t.toString? = .error u
  | .file .zeroByte => Files.holdsZero p = true
  | .file (.noName path) => p.name = "" ∧ path = p.toString
  | .file (.os .noEntry path none) | .file (.os .notDirectory path none) =>
    ¬ f.Enters p ∧ path = (stagingPath p).toString
  | .file (.os .nameTooLong path none) => (stagingPath p).TooLong ∧ path = (stagingPath p).toString
  | .file (.os .busy path (some target)) =>
    p.name = ".." ∧ path = (stagingPath p).toString ∧ target = p.toString
  | .file (.os .isDirectory path (some target)) =>
    f.tree.get? (f.placeOf p) = some .dir ∧ path = (stagingPath p).toString ∧ target = p.toString
  | .file (.os ..) => False

end WriteError

namespace Outputs

section Write

variable {p : Path} {value : Decompiled} {f g : Files} {q : Place} {s : String} {e : WriteError}

def Unstaged (f : Files) (p : Path) : Prop := ∀ q e, f.stat (stagingPath p) ≠ .ok (q, e)

theorem Unstaged.get? (h : Unstaged f p) (hq : f.place? (stagingPath p) = .ok q) : f.tree.get? q = none := by
  cases he : f.tree.get? q with
  | none => rfl
  | some e => exact absurd (Files.stat_eq_ok.mpr ⟨hq, he⟩) (h q e)

/-- `g` is `f` with a text in the file that the path names. -/
structure Replaced (f : Files) (p : Path) (s : String) (g : Files) : Prop where
  current : g.current = f.current
  content : g.readFile p = .ok s.toUTF8
  unstaged : Unstaged g p
  others : ∀ q, q ≠ f.placeOf p → g.tree.get? q = f.tree.get? q

theorem Wrote.replaced (hu : Unstaged f p) (hq : f.place? (stagingPath p) = .ok q) (h : Wrote f p s g) :
    Replaced f p s g := by
  have hplace : f.placeOf (stagingPath p) = q := Files.placeOf_of_place? hq
  refine ⟨h.current, h.readFile, fun r e hr => ?_, fun r hr => ?_⟩
  · obtain ⟨hp, he⟩ := Files.stat_eq_ok.mp hr
    rw [← Files.placeOf_of_place? hp, Files.placeOf_of_current h.current, h.staging] at he
    cases he
  · by_cases hs : r = f.placeOf (stagingPath p)
    · rw [hs, h.staging, hplace, hu.get? hq]
    · exact h.others r hr hs

theorem stage_eq_error_of_free (hz : Files.holdsZero (stagingPath p) = false)
    (hq : f.place? (stagingPath p) = .ok q) (hfree : f.tree.get? q = none) (h : stage p value f = (g, .error e)) :
    g = f ∨ ∃ b x, g = { f with tree := f.tree.put q (.file b x) } := by
  cases value with
  | other kind =>
    cases h
    exact .inl rfl
  | text t =>
    obtain ⟨x, ho⟩ := openNew_stagingPath hz hq (by simp [hfree])
    have hne : q ≠ [] := by rintro rfl; simp at hfree
    unfold stage at h
    cases ht : t.toString? with
    | error u =>
      simp only [ho, ht, Prod.mk.injEq] at h
      exact .inr ⟨.empty, x, h.1.symm⟩
    | ok s =>
      simp only [ho, ht, Files.fill_put f .empty s.toUTF8 x hne, FileTree.put_put] at h
      split at h
      · cases h
      · simp only [Prod.mk.injEq] at h
        exact .inr ⟨s.toUTF8, x, h.1.symm⟩

theorem cleanUp_of_free (hz : Files.holdsZero (stagingPath p) = false) (hq : f.place? (stagingPath p) = .ok q)
    (hfree : f.tree.get? q = none) : cleanUp p e f = (f, .error e) := by
  have hu : f.unlink (stagingPath p) = .error (.os .noEntry (stagingPath p).toString none) := by
    simp [Files.unlink, hz, Files.stat, hq, hfree, bind, Except.bind, throw, throwThe, MonadExceptOf.throw, Files.fail]
  simp [cleanUp, hu]

theorem cleanUp_of_staged {b : ByteArray} {x : Bool} (hz : Files.holdsZero (stagingPath p) = false)
    (hq : f.place? (stagingPath p) = .ok q) (hfree : f.tree.get? q = none) :
    cleanUp p e { f with tree := f.tree.put q (.file b x) } = (f, .error e) := by
  have hd : f.tree.get? q ≠ some .dir := by simp [hfree]
  have hne : q ≠ [] := by rintro rfl; simp at hfree
  have hq' := Files.place?_of_dirsKept ((Staged.refl f p).put hq hd b x).dirsKept hq
  have hu := Files.unlink_of_file hz hq' (FileTree.get?_put_self f.tree (.file b x) hne)
  simp only [FileTree.erase_put, FileTree.erase_of_get?_eq_none hfree] at hu
  simp [cleanUp, hu]

theorem write_eq_error_of_unstaged (hu : p.name ≠ "" → Unstaged f p) (h : write p value f = (g, .error e)) : g = f := by
  by_cases hn : p.name = ""
  · rw [write_of_nameless value f hn] at h
    exact (Prod.mk.inj h).1.symm
  cases hz : Files.holdsZero p with
  | true =>
    rw [write_of_holdsZero value f hn hz] at h
    exact (Prod.mk.inj h).1.symm
  | false =>
    have hs := (holdsZero_stagingPath hn).trans hz
    cases hq : f.place? (stagingPath p) with
    | error errno =>
      rw [write_of_unreached false hn hz hq] at h
      exact (Prod.mk.inj h).1.symm
    | ok q =>
      have hfree := (hu hn).get? hq
      unfold write at h
      rw [if_neg (by simpa using hn)] at h
      split at h
      · cases h
      · next k e' hk =>
        rcases stage_eq_error_of_free hs hq hfree hk with rfl | ⟨b, x, rfl⟩
        · rw [cleanUp_of_free hs hq hfree] at h
          exact (Prod.mk.inj h).1.symm
        · rw [cleanUp_of_staged hs hq hfree] at h
          exact (Prod.mk.inj h).1.symm

theorem holds_of_unreached (value : Decompiled) {errno : Errno} (hq : f.place? (stagingPath p) = .error errno) :
    ∃ e, (⟨.error errno, false⟩ : Prospect).verdict p value = .error e ∧ e.Holds p value f := by
  have henters : errno ≠ .nameTooLong → ¬ f.Enters p := by
    intro hlong he
    rw [Files.place?_of_enters (enters_stagingPath.mpr he)
      (by rw [stagingPath_parts_dropLast, parts_stagingPath] : _ = _ ++ [stagingName p.name])] at hq
    split at hq
    · cases hq
      exact hlong rfl
    · cases hq
  rcases Files.errno_of_place? hq with rfl | rfl | ⟨rfl, hlong⟩
  · cases value with
    | other kind => exact ⟨_, rfl, rfl⟩
    | text t => exact ⟨_, rfl, henters nofun, rfl⟩
  · cases value with
    | other kind => exact ⟨_, rfl, henters nofun, rfl⟩
    | text t => exact ⟨_, rfl, henters nofun, rfl⟩
  · cases value with
    | other kind => exact ⟨_, rfl, hlong, rfl⟩
    | text t => exact ⟨_, rfl, hlong, rfl⟩

theorem not_holds {t : Text.CodeText} (hn : p.name ≠ "") (hz : Files.holdsZero p = false)
    (hq : f.place? (stagingPath p) = .ok q) (ht : t.toString? = .ok s) (hup : p.name ≠ "..")
    (hd : f.tree.get? (f.placeOf p) ≠ some .dir) : ¬ e.Holds p (.text t) f := by
  have hent := (place?_of_stagingPath hn hq).1
  have hlong := Files.not_tooLong_of_place? hq
  intro h
  unfold WriteError.Holds at h
  split at h
  · cases h
  · obtain ⟨t', ht', hu⟩ := h
    cases ht'
    cases ht.symm.trans hu
  · cases hz.symm.trans h
  · exact hn h.1
  · exact h.1 hent
  · exact h.1 hent
  · exact hlong h.1
  · exact hup h.1
  · exact hd h.1
  · exact h

/-- A write either replaces the file and nothing else, and then there was nothing that could have hindered it, or it
fails for a reason that is there and leaves the files exactly as they were. -/
theorem write_all_or_nothing (value : Decompiled) (hu : p.name ≠ "" → Unstaged f p) :
    (∃ t s g, value = .text t ∧ t.toString? = .ok s ∧ write p value f = (g, .ok ()) ∧ Replaced f p s g ∧
      ∀ e : WriteError, ¬ e.Holds p value f) ∨
    ∃ e, write p value f = (f, .error e) ∧ e.Holds p value f := by
  have hfails : ∀ e, (write p value f).2 = .error e → e.Holds p value f →
      ∃ e, write p value f = (f, .error e) ∧ e.Holds p value f := by
    intro e he hh
    have hw : write p value f = ((write p value f).1, .error e) := Prod.ext rfl he
    exact ⟨e, by rw [hw, write_eq_error_of_unstaged hu hw], hh⟩
  by_cases hn : p.name = ""
  · exact .inr ⟨_, write_of_nameless value f hn, hn, rfl⟩
  cases hz : Files.holdsZero p with
  | true => exact .inr ⟨_, write_of_holdsZero value f hn hz, hz⟩
  | false =>
    cases hq : f.place? (stagingPath p) with
    | error errno =>
      obtain ⟨e, he, hh⟩ := holds_of_unreached value hq
      exact .inr ⟨e, by rw [write_of_unreached false hn hz hq, he], hh⟩
    | ok q =>
      have hv := write_snd_of_free value hn hz hq (by simp [(hu hn).get? hq])
      cases value with
      | other kind => exact .inr (hfails _ hv rfl)
      | text t =>
        cases ht : t.toString? with
        | error u =>
          simp only [Prospect.verdict, ht] at hv
          exact .inr (hfails _ hv ⟨t, rfl, ht⟩)
        | ok s =>
          simp only [Prospect.verdict, ht] at hv
          split at hv
          · next hup => exact .inr (hfails _ hv ⟨hup, rfl, rfl⟩)
          · next hup =>
            split at hv
            · next hd => exact .inr (hfails _ hv ⟨by simpa using hd, rfl, rfl⟩)
            · next hd =>
              have hw : write p (.text t) f = ((write p (.text t) f).1, .ok ()) := Prod.ext rfl hv
              obtain ⟨t', s', ht', hs', hwrote⟩ := write_eq_ok hw
              cases ht'
              exact .inl ⟨t, s', _, rfl, hs', hw, hwrote.replaced (hu hn) hq,
                fun e => not_holds hn hz hq ht hup (by simpa using hd)⟩

end Write

def earlier : Files := ⟨⟨[(["out"], .dir), (["out", "Door.cstxt"], .file "old".toUTF8 false)]⟩, []⟩

def doorPath : Path := ⟨1, ["out", "Door.cstxt"]⟩

theorem write_all_or_nothing_door :
    Unstaged earlier doorPath ∧
      (∃ g, write doorPath (.text (Text.CodeText.ofString "new")) earlier = (g, .ok ()) ∧
        Replaced earlier doorPath "new" g) ∧
      ∃ e, write doorPath (.text [0x6E, 0xDC80]) earlier = (earlier, .error e) ∧
        e.Holds doorPath (.text [0x6E, 0xDC80]) earlier := by
  have hu : Unstaged earlier doorPath := by
    have hs : earlier.stat (stagingPath doorPath) = .error .noEntry := by decide +kernel
    simp [Unstaged, hs]
  refine ⟨hu, ?_, ?_⟩
  · rcases write_all_or_nothing (.text (Text.CodeText.ofString "new")) (fun _ => hu) with
      ⟨t, s, g, ht, hs, hw, hr, -⟩ | ⟨e, he, -⟩
    · cases ht
      rw [Text.toString?_ofString] at hs
      cases hs
      exact ⟨g, hw, hr⟩
    · have hok : (write doorPath (.text (Text.CodeText.ofString "new")) earlier).2 = .ok () := by decide +kernel
      cases (congrArg Prod.snd he).symm.trans hok
  · rcases write_all_or_nothing (.text [0x6E, 0xDC80]) (fun _ => hu) with ⟨t, s, g, ht, hs, -⟩ | h
    · cases ht
      cases hs
    · exact h

end Outputs

end Winnow
