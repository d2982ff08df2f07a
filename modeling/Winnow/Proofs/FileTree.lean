import Winnow.FileTree

/-!
Laws of file trees. The place that a path names can be read off the path alone, because a tree has no links;
the tree only decides whether the way there exists. Every operation on files is described by what stands at
each place afterwards.
-/
set_option autoImplicit false

namespace Winnow

namespace FileTree

@[simp] theorem get?_nil (t : FileTree) : t.get? [] = some .dir := rfl

theorem get?_of_ne_nil (t : FileTree) {p : Place} (h : p ≠ []) : t.get? p = t.entries.lookup p := by
  simp [get?, h]

theorem lookup_filter_ne (l : List (Place × Entry)) {p q : Place} (h : q ≠ p) :
    (l.filter fun e => e.1 != p).lookup q = l.lookup q := by
  induction l with
  | nil => rfl
  | cons e l ih =>
    obtain ⟨r, x⟩ := e
    by_cases hr : r = p
    · subst hr
      simp [List.lookup_cons, beq_false_of_ne h, ih]
    · simp [hr, List.lookup_cons, ih]

theorem lookup_filter_self (l : List (Place × Entry)) (p : Place) :
    (l.filter fun e => e.1 != p).lookup p = none := by
  rw [List.lookup_eq_none_iff]
  intro e he
  have hp := (List.mem_filter.mp he).2
  simp only [bne_iff_ne, ne_eq] at hp
  simp [Ne.symm hp]

theorem get?_erase (t : FileTree) {p q : Place} (h : q ≠ p) : (t.erase p).get? q = t.get? q := by
  by_cases hq : q = []
  · simp [hq]
  · simp [get?_of_ne_nil, hq, erase, lookup_filter_ne _ h]

theorem get?_erase_self (t : FileTree) {p : Place} (h : p ≠ []) : (t.erase p).get? p = none := by
  simp [get?_of_ne_nil, h, erase, lookup_filter_self]

theorem get?_put (t : FileTree) {p q : Place} (e : Entry) (h : q ≠ p) : (t.put p e).get? q = t.get? q := by
  by_cases hq : q = []
  · simp [hq]
  · simp [get?_of_ne_nil, hq, put, erase, List.lookup_cons, beq_false_of_ne h, lookup_filter_ne _ h]

theorem get?_put_self (t : FileTree) {p : Place} (e : Entry) (h : p ≠ []) : (t.put p e).get? p = some e := by
  simp [get?_of_ne_nil, h, put]

theorem mem_names {t : FileTree} {p : Place} {name : String} {e : Entry}
    (h : t.get? (p ++ [name]) = some e) : name ∈ t.names p := by
  rw [get?_of_ne_nil t (by simp)] at h
  obtain ⟨l, r, hl, -⟩ := List.lookup_eq_some_iff.mp h
  simp [names, hl]

theorem eq_of_name {e : Place × Entry} {p : Place} {name : String}
    (h : (if e.1.length == p.length + 1 && p.isPrefixOf e.1 then e.1.getLast? else none) = some name) :
    e.1 = p ++ [name] := by
  split at h
  · next hc =>
    simp only [Bool.and_eq_true, beq_iff_eq, List.isPrefixOf_iff_prefix] at hc
    obtain ⟨hl, rest, hr⟩ := hc
    have h1 : rest.length = 1 := by
      have := congrArg List.length hr
      simp only [List.length_append] at this
      omega
    obtain ⟨last, rfl⟩ := List.length_eq_one_iff.mp h1
    have hlast : last = name := by simpa [← hr] using h
    rw [← hr, hlast]
  · cases h

theorem get?_of_mem_names {t : FileTree} {p : Place} {name : String} (h : name ∈ t.names p) :
    t.get? (p ++ [name]) ≠ none := by
  obtain ⟨e, he, hn⟩ := List.mem_filterMap.mp h
  rw [get?_of_ne_nil t (by simp), Ne, List.lookup_eq_none_iff]
  intro hall
  have := hall e he
  simp [eq_of_name hn] at this

theorem mem_names_iff {t : FileTree} {p : Place} {name : String} : name ∈ t.names p ↔ t.get? (p ++ [name]) ≠ none := by
  refine ⟨get?_of_mem_names, fun h => ?_⟩
  obtain ⟨e, he⟩ := Option.ne_none_iff_exists'.mp h
  exact mem_names he

def DirsKept (t t' : FileTree) : Prop := ∀ p, t.get? p = some .dir → t'.get? p = some .dir

theorem DirsKept.refl (t : FileTree) : t.DirsKept t := fun _ h => h

theorem DirsKept.trans {t u v : FileTree} (h : t.DirsKept u) (g : u.DirsKept v) : t.DirsKept v :=
  fun p hp => g p (h p hp)

theorem walk_of_dirsKept {t t' : FileTree} (h : t.DirsKept t') {parts : List String} {p q : Place}
    (hw : t.walk p parts = .ok q) : t'.walk p parts = .ok q := by
  induction parts generalizing p with
  | nil => exact hw
  | cons part rest ih =>
    simp only [walk] at hw ⊢
    split at hw
    · cases hw
    · cases hw
    · next hp =>
      rw [h p hp]
      split at hw
      · cases hw
      · next hs => simpa [hs] using ih hw

theorem walk_nameTooLong_of_dirsKept {t t' : FileTree} (h : t.DirsKept t') {parts : List String} {p : Place}
    (hw : t.walk p parts = .error .nameTooLong) : t'.walk p parts = .error .nameTooLong := by
  induction parts generalizing p with
  | nil => cases hw
  | cons part rest ih =>
    simp only [walk] at hw ⊢
    split at hw
    · cases hw
    · cases hw
    · next hp =>
      rw [h p hp]
      split at hw
      · next hs => simp [hs]
      · next hs => simpa [hs] using ih hw

theorem foldl_enter_of_walk {t : FileTree} {parts : List String} {p q : Place}
    (h : t.walk p parts = .ok q) : parts.foldl enter p = q := by
  induction parts generalizing p with
  | nil => simpa [walk] using h
  | cons part rest ih =>
    simp only [walk] at h
    split at h
    · cases h
    · cases h
    · split at h
      · cases h
      · exact ih h

theorem walk_append {t : FileTree} {parts more : List String} {p : Place} :
    t.walk p (parts ++ more) = (t.walk p parts).bind (t.walk · more) := by
  induction parts generalizing p with
  | nil => rfl
  | cons part rest ih =>
    simp only [List.cons_append, walk]
    cases t.get? p with
    | none => rfl
    | some e =>
      cases e with
      | file bytes executable => rfl
      | dir =>
        by_cases hs : nameLimit < part.utf8ByteSize
        · simp [hs, Except.bind]
        · simpa [hs] using ih

end FileTree

def Path.child (p : Path) (name : String) : Path := { p with parts := p.parts ++ [name] }

theorem Path.name_child (p : Path) (name : String) : (p.child name).name = name := by simp [child, Path.name]

namespace Files

/-- The place that a path names, whether or not the way there exists. -/
def placeOf (f : Files) (p : Path) : Place :=
  p.parts.foldl FileTree.enter (if p.isAbsolute then [] else f.current)

theorem placeOf_of_place? {f : Files} {p : Path} {q : Place} (h : f.place? p = .ok q) : f.placeOf p = q := by
  unfold place? at h
  split at h
  · cases h
  · exact FileTree.foldl_enter_of_walk h

theorem resolve_eq (f : Files) {p : Path} (h : holdsZero p = false) : f.resolve p = .ok ⟨1, f.placeOf p⟩ := by
  simp [resolve, h, placeOf]

/-- Every directory of the one is a directory of the other, and both are seen from the same place. -/
structure DirsKept (f g : Files) : Prop where
  current : g.current = f.current
  tree : f.tree.DirsKept g.tree

theorem DirsKept.refl (f : Files) : f.DirsKept f := ⟨rfl, .refl _⟩

theorem DirsKept.trans {f g h : Files} (hf : f.DirsKept g) (hg : g.DirsKept h) : f.DirsKept h :=
  ⟨hg.current.trans hf.current, hf.tree.trans hg.tree⟩

theorem placeOf_of_current {f g : Files} (h : g.current = f.current) (p : Path) : g.placeOf p = f.placeOf p := by
  simp [placeOf, h]

theorem place?_of_dirsKept {f g : Files} (h : f.DirsKept g) {p : Path} {q : Place}
    (hp : f.place? p = .ok q) : g.place? p = .ok q := by
  unfold place? at hp ⊢
  split at hp
  · cases hp
  · next hs =>
    rw [if_neg hs, h.current]
    exact FileTree.walk_of_dirsKept h.tree hp

theorem place?_nameTooLong_of_dirsKept {f g : Files} (h : f.DirsKept g) {p : Path}
    (hp : f.place? p = .error .nameTooLong) : g.place? p = .error .nameTooLong := by
  unfold place? at hp ⊢
  split at hp
  · next hs => simp [hs]
  · next hs =>
    rw [if_neg hs, h.current]
    exact FileTree.walk_nameTooLong_of_dirsKept h.tree hp

theorem stat_eq_ok {f : Files} {p : Path} {q : Place} {e : Entry} :
    f.stat p = .ok (q, e) ↔ f.place? p = .ok q ∧ f.tree.get? q = some e := by
  unfold stat
  cases hp : f.place? p with
  | error errno => simp [bind, Except.bind]
  | ok r =>
    cases he : f.tree.get? r with
    | none =>
      simp only [bind, Except.bind, he, throw, throwThe, MonadExceptOf.throw, reduceCtorEq, Except.ok.injEq,
        false_iff, not_and]
      rintro rfl
      simp [he]
    | some x =>
      simp only [bind, Except.bind, he, pure, Except.pure, Except.ok.injEq, Prod.mk.injEq]
      constructor
      · rintro ⟨rfl, rfl⟩
        exact ⟨rfl, he⟩
      · rintro ⟨rfl, h⟩
        exact ⟨rfl, Option.some.inj (he.symm.trans h)⟩

theorem readFile_eq_ok {f : Files} {p : Path} {bytes : ByteArray} :
    f.readFile p = .ok bytes ↔
      holdsZero p = false ∧ ∃ q x, f.place? p = .ok q ∧ f.tree.get? q = some (.file bytes x) := by
  unfold readFile
  cases hz : holdsZero p with
  | true => simp
  | false =>
    simp only [Bool.false_eq_true, if_false, true_and]
    cases hs : f.stat p with
    | error errno =>
      simp only [fail, reduceCtorEq, false_iff, not_exists, not_and]
      intro q x hp he
      rw [stat_eq_ok.mpr ⟨hp, he⟩] at hs
      cases hs
    | ok r =>
      obtain ⟨q, e⟩ := r
      obtain ⟨hp, he⟩ := stat_eq_ok.mp hs
      cases e with
      | dir => simp [fail, hp, he]
      | file b x => cases x <;> simp [hp, he]

/-- The two have the same directories and are seen from the same place. -/
structure SameDirs (f g : Files) : Prop where
  kept : f.DirsKept g
  back : g.DirsKept f

namespace SameDirs

variable {f g h : Files}

theorem refl (f : Files) : f.SameDirs f := ⟨.refl f, .refl f⟩

theorem symm (hs : f.SameDirs g) : g.SameDirs f := ⟨hs.back, hs.kept⟩

theorem trans (hf : f.SameDirs g) (hg : g.SameDirs h) : f.SameDirs h :=
  ⟨hf.kept.trans hg.kept, hg.back.trans hf.back⟩

theorem dir_iff (hs : f.SameDirs g) (q : Place) : g.tree.get? q = some .dir ↔ f.tree.get? q = some .dir :=
  ⟨hs.back.tree q, hs.kept.tree q⟩

theorem placeOf (hs : f.SameDirs g) (p : Path) : g.placeOf p = f.placeOf p := placeOf_of_current hs.kept.current p

theorem place?_eq_ok (hs : f.SameDirs g) {p : Path} {q : Place} :
    g.place? p = .ok q ↔ f.place? p = .ok q :=
  ⟨place?_of_dirsKept hs.back, place?_of_dirsKept hs.kept⟩

end SameDirs

/-- That the way to a path exists, up to the last component. -/
def Enters (f : Files) (p : Path) : Prop :=
  ∃ q, f.tree.walk (if p.isAbsolute then [] else f.current) p.parts.dropLast = .ok q ∧ f.tree.get? q = some .dir

theorem Enters.of_dirsKept {f g : Files} {p : Path} (h : f.DirsKept g) (he : f.Enters p) : g.Enters p := by
  obtain ⟨q, hq, hd⟩ := he
  exact ⟨q, by rw [h.current]; exact FileTree.walk_of_dirsKept h.tree hq, h.tree q hd⟩

theorem enters_of_place? {f : Files} {p : Path} {init : List String} {last : String} {q : Place}
    (hp : p.parts = init ++ [last]) (h : f.place? p = .ok q) :
    ∃ r, f.tree.walk (if p.isAbsolute then [] else f.current) init = .ok r ∧ f.tree.get? r = some .dir ∧
      q = FileTree.enter r last := by
  unfold place? at h
  split at h
  · cases h
  · rw [hp, FileTree.walk_append] at h
    cases hw : f.tree.walk (if p.isAbsolute then [] else f.current) init with
    | error e => simp [hw, Except.bind] at h
    | ok r =>
      simp only [hw, Except.bind, FileTree.walk] at h
      split at h
      · cases h
      · cases h
      · next hd =>
        split at h
        · cases h
        · cases h
          exact ⟨r, rfl, hd, rfl⟩

theorem place?_of_enters {f : Files} {p : Path} {last : String} (he : f.Enters p)
    (hp : p.parts = p.parts.dropLast ++ [last]) :
    f.place? p = if FileTree.pathLimit < p.toString.utf8ByteSize ∨ FileTree.nameLimit < last.utf8ByteSize then
      .error .nameTooLong else .ok (f.placeOf p) := by
  obtain ⟨q, hq, hd⟩ := he
  have hplace : f.placeOf p = FileTree.enter q last := by
    unfold placeOf
    rw [hp, List.foldl_append, FileTree.foldl_enter_of_walk hq]
    rfl
  unfold place?
  rw [hp, FileTree.walk_append, hq]
  simp only [Except.bind, FileTree.walk, hd]
  by_cases hl : FileTree.pathLimit < p.toString.utf8ByteSize
  · simp [hl]
  · by_cases hn : FileTree.nameLimit < last.utf8ByteSize
    · simp [hl, hn]
    · simp [hl, hn, hplace]

theorem walk_of_place? {f : Files} {p : Path} {q : Place} (h : f.place? p = .ok q) :
    f.tree.walk (if p.isAbsolute then [] else f.current) p.parts = .ok q := by
  unfold place? at h
  split at h
  · cases h
  · exact h

theorem placeOf_child (f : Files) (dir : Path) {name : String} (hn : name ≠ "..") :
    f.placeOf (dir.child name) = f.placeOf dir ++ [name] := by
  simp [placeOf, Path.child, Path.isAbsolute, FileTree.enter, hn]

theorem placeOf_child_up (f : Files) (p : Path) : f.placeOf (p.child "..") = (f.placeOf p).dropLast := by
  simp [placeOf, Path.child, Path.isAbsolute, FileTree.enter]

end Files

end Winnow
