import Winnow.Proofs.Evolution

/-!
What a search for modules gives. It asks of every entry of the directory whether it is a file, so it fails if the path
of one of them is too long, whether or not that entry counts as a module; else it gives the files that count.
-/
set_option autoImplicit false

namespace Winnow

section FilterM

variable {α ε : Type} {p : α → Except ε Bool} {q : α → Bool} {l : List α}

theorem filterAuxM_eq_ok (h : ∀ a ∈ l, p a = .ok (q a)) (acc : List α) :
    l.filterAuxM p acc = .ok ((l.filter q).reverse ++ acc) := by
  induction l generalizing acc with
  | nil => rfl
  | cons a l ih =>
    obtain ⟨ha, hl⟩ := List.forall_mem_cons.mp h
    rw [List.filterAuxM, ha]
    simp only [bind, Except.bind]
    rw [ih hl]
    cases hq : q a <;> simp [hq]

theorem filterM_eq_ok (h : ∀ a ∈ l, p a = .ok (q a)) : l.filterM p = .ok (l.filter q) := by
  rw [List.filterM, filterAuxM_eq_ok h]
  simp [bind, Except.bind, pure, Except.pure]

theorem filterAuxM_eq_error (h : ∃ a ∈ l, ∃ e, p a = .error e) (acc : List α) :
    ∃ a ∈ l, ∃ e, p a = .error e ∧ l.filterAuxM p acc = .error e := by
  induction l generalizing acc with
  | nil => simp at h
  | cons a l ih =>
    rw [List.filterAuxM]
    cases ha : p a with
    | error e => exact ⟨a, List.mem_cons_self, e, ha, rfl⟩
    | ok keep =>
      have hl : ∃ b ∈ l, ∃ e, p b = .error e := by simpa [ha] using h
      obtain ⟨b, hb, e, he, hrest⟩ := ih hl (bif keep then a :: acc else acc)
      exact ⟨b, List.mem_cons_of_mem a hb, e, he, hrest⟩

theorem filterM_eq_error (h : ∃ a ∈ l, ∃ e, p a = .error e) :
    ∃ a ∈ l, ∃ e, p a = .error e ∧ l.filterM p = .error e := by
  obtain ⟨a, ha, e, he, haux⟩ := filterAuxM_eq_error h []
  exact ⟨a, ha, e, he, by rw [List.filterM, haux]; rfl⟩

theorem of_mem_filterM {kept : List α} (h : l.filterM p = .ok kept) : ∀ a ∈ kept, a ∈ l ∧ p a = .ok true := by
  by_cases herror : ∃ a ∈ l, ∃ e, p a = .error e
  · obtain ⟨a, -, e, -, hm⟩ := filterM_eq_error herror
    cases hm.symm.trans h
  · have hok : ∀ a ∈ l, p a = .ok ((p a).toOption.getD false) := by
      intro a ha
      cases hp : p a with
      | error e => exact absurd ⟨a, ha, e, hp⟩ herror
      | ok b => rfl
    cases (filterM_eq_ok hok).symm.trans h
    intro a ha
    obtain ⟨hmem, hkeep⟩ := List.mem_filter.mp ha
    exact ⟨hmem, (hok a hmem).trans (congrArg _ hkeep)⟩

end FilterM

namespace FileTree

variable {t : FileTree} {p : Place} {name : String}

/-- That no name is two dots or holds a zero byte, as a file system grants it. -/
def Nameable (t : FileTree) : Prop := ∀ e ∈ t.entries, ∀ name ∈ e.1, name ≠ ".." ∧ '\x00' ∉ name.toList

instance : Decidable t.Nameable := inferInstanceAs (Decidable (∀ _ ∈ _, ∀ _ ∈ _, _))

theorem Nameable.of_mem_names (h : t.Nameable) (hn : name ∈ t.names p) : name ≠ ".." ∧ '\x00' ∉ name.toList := by
  obtain ⟨e, he, hname⟩ := List.mem_filterMap.mp hn
  exact h e he name (by simp [eq_of_name hname])

theorem foldl_enter_of_not_mem {parts : List String} (h : ".." ∉ parts) : parts.foldl enter p = p ++ parts := by
  induction parts generalizing p with
  | nil => simp
  | cons part rest ih =>
    obtain ⟨hpart, hrest⟩ := not_or.mp (mt List.mem_cons.mpr h)
    rw [List.foldl_cons, ih hrest, enter, if_neg (by simpa using Ne.symm hpart), List.append_assoc,
      List.singleton_append]

def fileAt (t : FileTree) (p : Place) : Bool :=
  match t.get? p with
  | some (.file ..) => true
  | _ => false

theorem fileAt_iff : t.fileAt p = true ↔ ∃ bytes executable, t.get? p = some (.file bytes executable) := by
  unfold fileAt
  split
  · next bytes executable he => simp [he]
  · next hn => simpa using fun bytes executable he => hn bytes executable he

end FileTree

namespace Files

variable {f : Files} {p : Path}

theorem isFile_of_place? {q : Place} (hz : holdsZero p = false) (hp : f.place? p = .ok q) :
    f.isFile p = .ok (f.tree.fileAt q) := by
  simp only [isFile, look, hz, stat, hp, bind, Except.bind, Bool.false_eq_true, if_false]
  unfold FileTree.fileAt
  cases f.tree.get? q with
  | none => rfl
  | some e => cases e <;> rfl

theorem isFile_of_tooLong (hz : holdsZero p = false) (hp : f.place? p = .error .nameTooLong) :
    f.isFile p = .error (.os .nameTooLong p.toString none) := by
  simp [isFile, look, hz, stat, hp, bind, Except.bind, fail]

theorem file_of_isFile (h : f.isFile p = .ok true) :
    ∃ bytes executable, f.tree.get? (f.placeOf p) = some (.file bytes executable) := by
  obtain ⟨entry, hlook, h⟩ := exists_of_bind h
  split at h
  · next bytes executable =>
    obtain ⟨-, q, hq, he⟩ := look_eq_some.mp hlook
    exact ⟨bytes, executable, placeOf_of_place? hq ▸ he⟩
  · cases h

end Files

namespace ModuleScan

variable {site : Site} {patterns : List String} {source dir : Path} {t : FileTree} {place : Place} {name : String}

/-- That a search looks into a directory, with names as a file system grants them. -/
structure Sees (site : Site) (source dir : Path) : Prop where
  located : site.locate source = .ok dir
  isDir : site.files.isDir dir = .ok true
  current : ".." ∉ site.files.current
  names : site.files.tree.Nameable

namespace Sees

theorem placeOf_eq (h : Sees site source dir) : site.files.placeOf dir = dir.parts := by
  obtain ⟨expanded, -, hresolve⟩ := exists_of_bind h.located
  have hresolve := ok_of_mapError hresolve
  unfold Files.resolve at hresolve
  split at hresolve
  · cases hresolve
  · cases hresolve
    exact FileTree.foldl_enter_of_not_mem (Files.up_not_mem_placeOf h.current expanded)

theorem zeroFree (h : Sees site source dir) (hn : name ∈ site.files.tree.names dir.parts) :
    Files.holdsZero (dir.child name) = false := by
  have hz := (Files.isDir_eq_true.mp h.isDir).1
  have hname := (h.names.of_mem_names hn).2
  simp_all [Files.holdsZero, Path.child]

theorem isFile_of_fits (h : Sees site source dir) (hn : name ∈ site.files.tree.names dir.parts)
    (hfits : (dir.child name).Fits) :
    site.files.isFile (dir.child name) = .ok (site.files.tree.fileAt (dir.parts ++ [name])) := by
  have hplace := hfits.place? h.isDir
  rw [Files.placeOf_child _ _ (h.names.of_mem_names hn).1, h.placeOf_eq] at hplace
  exact Files.isFile_of_place? hfits.zeroFree hplace

theorem isFile_of_not_fits (h : Sees site source dir) (hn : name ∈ site.files.tree.names dir.parts)
    (hlong : ¬ (dir.child name).Fits) :
    site.files.isFile (dir.child name) = .error (.os .nameTooLong (dir.child name).toString none) := by
  have hz := h.zeroFree hn
  refine Files.isFile_of_tooLong hz ((Files.place?_child_eq_error h.isDir).mpr ?_)
  refine Decidable.byContradiction fun hshort => ?_
  obtain ⟨hpath, hname⟩ := not_or.mp hshort
  exact hlong ⟨hz, Nat.le_of_not_lt hpath, (Path.name_child dir name).symm ▸ Nat.le_of_not_lt hname⟩

end Sees

def counts (patterns : List String) (t : FileTree) (place : Place) (name : String) : Bool :=
  isModule patterns name && t.fileAt (place ++ [name])

theorem counts_iff : counts patterns t place name = true ↔
    isModule patterns name = true ∧ ∃ bytes executable, t.get? (place ++ [name]) = some (.file bytes executable) := by
  rw [counts, Bool.and_eq_true, FileTree.fileAt_iff]

/-- The names of the modules in a directory, as a search gives them. -/
def found (patterns : List String) (t : FileTree) (place : Place) : List String :=
  (sorted (t.names place)).filter (counts patterns t place)

theorem mem_sorted {names : List String} : name ∈ sorted names ↔ name ∈ names := List.mem_mergeSort

theorem mem_found : name ∈ found patterns t place ↔ counts patterns t place name = true := by
  rw [found, List.mem_filter, mem_sorted, FileTree.mem_names_iff, and_iff_right_iff_imp]
  intro h
  obtain ⟨-, bytes, executable, he⟩ := counts_iff.mp h
  simp [he]

theorem list_of_sees (h : Sees site source dir) : list site patterns source =
    ((((sorted (site.files.tree.names dir.parts)).map dir.child).filterM site.files.isFile).mapError
      fun e => .site (.file e)).map fun files => (files.filter fun p => isModule patterns p.name).map ModuleFile.mk := by
  have hlook : site.files.look dir = .ok (some .dir) := Files.look_eq_some.mpr (Files.isDir_eq_true.mp h.isDir)
  unfold list
  rw [h.located, mapError_ok]
  dsimp only [bind, Except.bind]
  rw [hlook, mapError_ok]
  rfl

theorem list_eq (h : Sees site source dir)
    (hfits : ∀ name ∈ site.files.tree.names dir.parts, (dir.child name).Fits) :
    list site patterns source =
      .ok ((found patterns site.files.tree dir.parts).map fun name => ⟨dir.join ⟨0, [name]⟩⟩) := by
  have hask : ∀ p ∈ (sorted (site.files.tree.names dir.parts)).map dir.child,
      site.files.isFile p = .ok (site.files.tree.fileAt (dir.parts ++ [p.name])) := by
    intro p hp
    obtain ⟨name, hname, rfl⟩ := List.mem_map.mp hp
    have hname := mem_sorted.mp hname
    rw [Path.name_child]
    exact h.isFile_of_fits hname (hfits name hname)
  rw [list_of_sees h, filterM_eq_ok hask, mapError_ok, Except.map, found]
  simp only [List.filter_map, List.filter_filter, List.map_map, Function.comp_def, Path.name_child]
  rfl

theorem list_eq_error (h : Sees site source dir)
    (hlong : ∃ name ∈ site.files.tree.names dir.parts, ¬ (dir.child name).Fits) :
    ∃ name ∈ site.files.tree.names dir.parts, ¬ (dir.child name).Fits ∧
      list site patterns source = .error (.site (.file (.os .nameTooLong (dir.child name).toString none))) := by
  obtain ⟨long, hmem, hnot⟩ := hlong
  have hask : ∃ p ∈ (sorted (site.files.tree.names dir.parts)).map dir.child, ∃ e, site.files.isFile p = .error e :=
    ⟨dir.child long, List.mem_map.mpr ⟨long, mem_sorted.mpr hmem, rfl⟩, _, h.isFile_of_not_fits hmem hnot⟩
  obtain ⟨p, hp, e, he, hm⟩ := filterM_eq_error hask
  obtain ⟨name, hname, rfl⟩ := List.mem_map.mp hp
  have hname := mem_sorted.mp hname
  have hnot : ¬ (dir.child name).Fits := by
    intro hfits
    cases (h.isFile_of_fits hname hfits).symm.trans he
  cases (h.isFile_of_not_fits hname hnot).symm.trans he
  exact ⟨name, hname, hnot, by rw [list_of_sees h, hm]; rfl⟩

theorem file_of_list {modules : List ModuleFile} (h : list site patterns source = .ok modules) :
    ∀ m ∈ modules, ∃ place name, m.baseName = Path.stemOf name ∧
      (name ≠ ".." → ∃ bytes executable, site.files.tree.get? (place ++ [name]) = some (.file bytes executable)) := by
  unfold list at h
  obtain ⟨dir, -, h⟩ := exists_of_bind h
  obtain ⟨there, -, h⟩ := exists_of_bind h
  split at h
  · cases h
  · cases h
  · obtain ⟨files, hfiles, h⟩ := exists_of_bind h
    cases h
    intro m hm
    obtain ⟨p, hp, rfl⟩ := List.mem_map.mp hm
    obtain ⟨hmem, hfile⟩ := of_mem_filterM (ok_of_mapError hfiles) p (List.mem_filter.mp hp).1
    obtain ⟨name, -, rfl⟩ := List.mem_map.mp hmem
    refine ⟨site.files.placeOf dir, name, congrArg Path.stemOf (Path.name_child dir name), fun hup => ?_⟩
    rw [← Files.placeOf_child _ _ hup]
    exact Files.file_of_isFile hfile

end ModuleScan
end Winnow
