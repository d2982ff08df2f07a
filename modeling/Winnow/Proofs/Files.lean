import Winnow.Proofs.FileTree

/-!
What the operations on files change. Making directories adds directories and nothing else; opening, filling,
removing and moving a file touch the places they name.
-/
set_option autoImplicit false

namespace Winnow.Files

theorem look_eq_some {f : Files} {p : Path} {e : Entry} :
    f.look p = .ok (some e) ↔ holdsZero p = false ∧ ∃ q, f.place? p = .ok q ∧ f.tree.get? q = some e := by
  unfold look
  cases hz : holdsZero p with
  | true => simp
  | false =>
    simp only [Bool.false_eq_true, if_false, true_and]
    cases hs : f.stat p with
    | error errno =>
      have hn : ¬ ∃ q, f.place? p = .ok q ∧ f.tree.get? q = some e := by
        rintro ⟨q, hq⟩
        rw [stat_eq_ok.mpr hq] at hs
        cases hs
      cases errno <;> simp [fail, hn]
    | ok r =>
      obtain ⟨q, x⟩ := r
      obtain ⟨hp, he⟩ := stat_eq_ok.mp hs
      simp [hp, he]

theorem look_eq_error_iff {f : Files} {p : Path} :
    (∃ e, f.look p = .error e) ↔ holdsZero p = false ∧ f.place? p = .error .nameTooLong := by
  unfold look stat
  cases holdsZero p with
  | true => simp
  | false =>
    cases f.place? p with
    | error errno => cases errno <;> simp [bind, Except.bind, fail]
    | ok q => cases he : f.tree.get? q <;> simp [bind, Except.bind, pure, Except.pure, throw, throwThe,
        MonadExceptOf.throw, he]

theorem isDir_eq_true {f : Files} {p : Path} :
    f.isDir p = .ok true ↔ holdsZero p = false ∧ ∃ q, f.place? p = .ok q ∧ f.tree.get? q = some .dir := by
  rw [← look_eq_some]
  unfold isDir
  cases f.look p with
  | error e => simp [bind, Except.bind]
  | ok r => simp [bind, Except.bind, pure, Except.pure]

theorem isDir_of_dirsKept {f g : Files} (h : f.DirsKept g) {p : Path} (hp : f.isDir p = .ok true) :
    g.isDir p = .ok true := by
  obtain ⟨hz, q, hq, he⟩ := isDir_eq_true.mp hp
  exact isDir_eq_true.mpr ⟨hz, q, place?_of_dirsKept h hq, h.tree q he⟩

theorem enters_child {f : Files} {p : Path} (hd : f.isDir p = .ok true) (name : String) : f.Enters (p.child name) := by
  obtain ⟨-, q, hq, hqd⟩ := isDir_eq_true.mp hd
  refine ⟨q, ?_, hqd⟩
  rw [Path.child, List.dropLast_concat]
  exact walk_of_place? hq

theorem place?_child {f : Files} {p : Path} (hd : f.isDir p = .ok true) (name : String) :
    f.place? (p.child name) = if FileTree.pathLimit < (p.child name).toString.utf8ByteSize ∨
      FileTree.nameLimit < name.utf8ByteSize then .error .nameTooLong else .ok (f.placeOf (p.child name)) :=
  place?_of_enters (enters_child hd name) (by rw [Path.child, List.dropLast_concat])

theorem place?_child_eq_error {f : Files} {p : Path} {name : String} (hd : f.isDir p = .ok true) :
    f.place? (p.child name) = .error .nameTooLong ↔
      FileTree.pathLimit < (p.child name).toString.utf8ByteSize ∨ FileTree.nameLimit < name.utf8ByteSize := by
  rw [place?_child hd]
  split <;> simp_all

/-- `g` is `f` with some directories more, all of them on the way to `p`. -/
structure Grown (f : Files) (p : Path) (g : Files) : Prop where
  current : g.current = f.current
  entry : ∀ q, g.tree.get? q = f.tree.get? q ∨
    (f.tree.get? q = none ∧ g.tree.get? q = some .dir ∧ ∃ n, q = f.placeOf { p with parts := p.parts.take n })

namespace Grown

theorem refl (f : Files) (p : Path) : f.Grown p f := ⟨rfl, fun _ => .inl rfl⟩

theorem trans {f g h : Files} {p : Path} (hf : f.Grown p g) (hg : g.Grown p h) : f.Grown p h := by
  refine ⟨hg.current.trans hf.current, fun q => ?_⟩
  rcases hg.entry q with he | ⟨hn, hd, n, hq⟩
  · rw [he]
    exact hf.entry q
  · rcases hf.entry q with he | ⟨-, hd', -⟩
    · exact .inr ⟨he ▸ hn, hd, n, hq.trans (placeOf_of_current hf.current _)⟩
    · rw [hn] at hd'
      cases hd'

theorem of_parent {f g : Files} {p : Path} (h : f.Grown p.parent g) : f.Grown p g := by
  refine ⟨h.current, fun q => ?_⟩
  rcases h.entry q with he | ⟨hn, hd, n, hq⟩
  · exact .inl he
  · refine .inr ⟨hn, hd, min n (p.parts.length - 1), ?_⟩
    rw [hq]
    simp [Path.parent, List.dropLast_eq_take, List.take_take]

theorem dirsKept {f g : Files} {p : Path} (h : f.Grown p g) : f.DirsKept g := by
  refine ⟨h.current, fun q hq => ?_⟩
  rcases h.entry q with he | ⟨-, hd, -⟩
  · rw [he, hq]
  · exact hd

end Grown

theorem makeDir_eq_ok {f g : Files} {p : Path} (h : f.makeDir p = .ok g) :
    holdsZero p = false ∧ ∃ q, f.place? p = .ok q ∧ f.tree.get? q = none ∧
      g = { f with tree := f.tree.put q .dir } := by
  unfold makeDir at h
  split at h
  · cases h
  · next hz =>
    split at h
    · cases h
    · next q hq =>
      split at h
      · cases h
      · next hn _ =>
        cases h
        exact ⟨by simpa using hz, q, hq, hn, rfl⟩
      · cases h
      · cases h

theorem ensureDir_grown (f : Files) (p : Path) : f.Grown p (f.ensureDir p).1 := by
  unfold ensureDir
  cases h : f.makeDir p with
  | error e => exact .refl f p
  | ok g =>
    obtain ⟨-, q, hp, hn, rfl⟩ := makeDir_eq_ok h
    refine ⟨rfl, fun r => ?_⟩
    by_cases hr : r = q
    · subst hr
      have hne : r ≠ [] := by rintro rfl; simp at hn
      exact .inr ⟨hn, FileTree.get?_put_self _ _ hne, p.parts.length, by simp [placeOf_of_place? hp]⟩
    · exact .inl (FileTree.get?_put _ _ hr)

theorem isDir_of_excuse {f : Files} {p : Path} {e : FileError} (h : f.excuse p e = .ok ()) :
    f.isDir p = .ok true := by
  unfold excuse at h
  split at h
  · cases h
  · split at h
    · next hd => exact hd
    · cases h
    · cases h
  · cases h

theorem isDir_of_ensureDir {f g : Files} {p : Path} (h : f.ensureDir p = (g, .ok ())) :
    g.isDir p = .ok true := by
  unfold ensureDir at h
  cases hm : f.makeDir p with
  | error e =>
    simp only [hm, Prod.mk.injEq] at h
    obtain ⟨rfl, he⟩ := h
    exact isDir_of_excuse he
  | ok k =>
    simp only [hm, Prod.mk.injEq, and_true] at h
    subst h
    obtain ⟨hz, q, hp, hn, rfl⟩ := makeDir_eq_ok hm
    have hne : q ≠ [] := by rintro rfl; simp at hn
    have hk := (ensureDir_grown f p).dirsKept
    simp only [ensureDir, hm] at hk
    exact isDir_eq_true.mpr ⟨hz, q, place?_of_dirsKept hk hp, FileTree.get?_put_self _ _ hne⟩

theorem makeDirsUp_grown (f : Files) (p : Path) (above : Nat) : f.Grown p (f.makeDirsUp p above).1 := by
  induction above generalizing f p with
  | zero => exact ensureDir_grown f p
  | succ above ih =>
    unfold makeDirsUp
    split
    · next hs =>
      split
      · exact .refl f p
      · have hp := (ih f p.parent).of_parent
        split
        · next g hg =>
          rw [hg] at hp
          exact hp.trans (ensureDir_grown g p)
        · next g e hg =>
          rw [hg] at hp
          exact hp
    · exact ensureDir_grown f p

theorem isDir_of_makeDirsUp {f g : Files} {p : Path} {above : Nat} (h : f.makeDirsUp p above = (g, .ok ())) :
    g.isDir p = .ok true := by
  cases above with
  | zero => exact isDir_of_ensureDir h
  | succ above =>
    unfold makeDirsUp at h
    split at h
    · split at h
      · cases h
      · split at h
        · exact isDir_of_ensureDir h
        · cases h
    · exact isDir_of_ensureDir h

theorem makeDirs_grown (f : Files) (p : Path) : f.Grown p (f.makeDirs p).1 := makeDirsUp_grown f p _

theorem isDir_of_makeDirs {f g : Files} {p : Path} (h : f.makeDirs p = (g, .ok ())) : g.isDir p = .ok true :=
  isDir_of_makeDirsUp h

theorem openNew_eq_ok {f g : Files} {p : Path} {q : Place} (h : f.openNew p = .ok (g, q)) :
    f.place? p = .ok q ∧ f.tree.get? q ≠ some .dir ∧
      ∃ x, g = { f with tree := f.tree.put q (.file .empty x) } := by
  unfold openNew at h
  split at h
  · cases h
  · split at h
    · cases h
    · next r hr =>
      split at h
      · cases h
      · next b x hx =>
        cases h
        exact ⟨hr, by simp [hx], x, rfl⟩
      · next hx _ =>
        cases h
        exact ⟨hr, by simp [hx], false, rfl⟩
      · cases h
      · cases h

theorem openNew_of_holdsZero (f : Files) {p : Path} (h : holdsZero p = true) : f.openNew p = .error .zeroByte := by
  simp [openNew, h]

theorem isOs_of_openNew {f : Files} {p : Path} {e : FileError} (h : f.openNew p = .error e)
    (hz : holdsZero p = false) : e.isOs = true := by
  unfold openNew at h
  rw [hz] at h
  simp only [Bool.false_eq_true, if_false] at h
  split at h
  · cases h
    rfl
  · split at h <;> cases h <;> rfl

theorem fill_put (f : Files) (b bytes : ByteArray) (x : Bool) {q : Place} (h : q ≠ []) :
    fill { f with tree := f.tree.put q (.file b x) } q bytes =
      { f with tree := (f.tree.put q (.file b x)).put q (.file bytes x) } := by
  simp [fill, FileTree.get?_put_self _ _ h]

theorem unlink_of_holdsZero (f : Files) {p : Path} (h : holdsZero p = true) : f.unlink p = .error .zeroByte := by
  simp [unlink, h]

theorem unlink_eq_ok {f g : Files} {p : Path} (h : f.unlink p = .ok g) :
    ∃ q b x, f.place? p = .ok q ∧ f.tree.get? q = some (.file b x) ∧
      g = { f with tree := f.tree.erase q } := by
  unfold unlink at h
  split at h
  · cases h
  · split at h
    · next q b x hs =>
      cases h
      obtain ⟨hp, he⟩ := stat_eq_ok.mp hs
      exact ⟨q, b, x, hp, he, rfl⟩
    · cases h
    · cases h

theorem unlink_of_file {f : Files} {p : Path} {q : Place} {b : ByteArray} {x : Bool} (hz : holdsZero p = false)
    (hp : f.place? p = .ok q) (he : f.tree.get? q = some (.file b x)) :
    f.unlink p = .ok { f with tree := f.tree.erase q } := by
  simp [unlink, hz, stat_eq_ok.mpr ⟨hp, he⟩]

theorem isOs_of_unlink {f : Files} {p : Path} {e : FileError} (h : f.unlink p = .error e)
    (hz : holdsZero p = false) : e.isOs = true := by
  unfold unlink at h
  rw [hz] at h
  simp only [Bool.false_eq_true, if_false] at h
  split at h <;> cases h <;> rfl

theorem replace_eq_ok {f g : Files} {s p : Path} (h : f.replace s p = .ok g) :
    holdsZero p = false ∧ p.name ≠ ".." ∧ ∃ q r b x, f.place? s = .ok q ∧ f.tree.get? q = some (.file b x) ∧
      f.place? p = .ok r ∧ f.tree.get? r ≠ some .dir ∧
      g = { f with tree := (f.tree.erase q).put r (.file b x) } := by
  unfold replace at h
  simp only at h
  split at h
  · cases h
  · next hz =>
    simp only [Bool.or_eq_true, not_or, Bool.not_eq_true] at hz
    refine ⟨hz.2, ?_⟩
    split at h
    · cases h
    · cases h
    · next q e r hs hr =>
      obtain ⟨hq, he⟩ := stat_eq_ok.mp hs
      split at h
      · cases h
      · next hn =>
        split at h
        · cases h
        · cases h
        · next b x _ _ hx =>
          cases h
          exact ⟨by simpa using hn, q, r, b, x, hq, he, hr, by simp [hx], rfl⟩
        · next b x hx _ =>
          cases h
          exact ⟨by simpa using hn, q, r, b, x, hq, he, hr, by simp [hx], rfl⟩
        · cases h
        · cases h

theorem isOs_of_replace {f : Files} {s p : Path} {e : FileError} (h : f.replace s p = .error e)
    (hs : holdsZero s = false) (hp : holdsZero p = false) : e.isOs = true := by
  unfold replace at h
  simp only [hs, hp, Bool.or_self, Bool.false_eq_true, if_false] at h
  split at h
  · cases h
    rfl
  · cases h
    rfl
  · split at h
    · cases h
      rfl
    · split at h <;> cases h <;> rfl

section Lone

variable {name : String}

def lone (name : String) : Files := ⟨⟨[([name], .file .empty false)]⟩, []⟩

theorem isDir_lone (name : String) : (lone name).isDir ⟨1, []⟩ = .ok true := isDir_eq_true.mpr ⟨rfl, [], rfl, rfl⟩

theorem get?_lone (name : String) : (lone name).tree.get? [name] = some (.file .empty false) := by
  simp [lone, FileTree.get?]

theorem eq_of_get?_lone {q : Place} (h : (lone name).tree.get? q ≠ none) : q = [] ∨ q = [name] := by
  by_cases hq : q = []
  · exact .inl hq
  · by_cases hn : q = [name]
    · exact .inr hn
    · rw [FileTree.get?_of_ne_nil _ hq] at h
      simp [lone, List.lookup_cons, beq_false_of_ne hn] at h

theorem utf8ByteSize_root_child (name : String) :
    ((⟨1, []⟩ : Path).child name).toString.utf8ByteSize = name.utf8ByteSize + 1 := by
  have hs : ((⟨1, []⟩ : Path).child name).toString = "/" ++ name := by simp [Path.child, Path.toString]
  have h1 : "/".utf8ByteSize = 1 := rfl
  rw [hs, String.utf8ByteSize_append]
  omega

theorem stat_lone (hup : name ≠ "..") (hl : name.utf8ByteSize ≤ FileTree.nameLimit) :
    (lone name).stat ((⟨1, []⟩ : Path).child name) = .ok ([name], .file .empty false) := by
  have hplace := place?_child (isDir_lone name) name
  rw [utf8ByteSize_root_child, if_neg (by unfold FileTree.nameLimit FileTree.pathLimit at *; omega),
    placeOf_child _ _ hup] at hplace
  exact stat_eq_ok.mpr ⟨hplace, get?_lone name⟩

end Lone

end Winnow.Files
