import Mathlib.Data.List.Nodup
import Winnow.Proofs.Lowering
import Winnow.Proofs.ModuleSearch

/-!
In what order a search finds modules. A directory can give its names in any order; the search puts them in the order of
their lower-case forms and leaves those with one form as they came. So what it finds does not depend on the order in
which the directory was read, except where two modules have names with one lower-case form. Nor does it depend on that
whether the search fails.
-/
set_option autoImplicit false

namespace Winnow

section Pairs

variable {α : Type} {a b : α} {l : List α}

theorem pair_sublist_or (ha : a ∈ l) (hb : b ∈ l) (hne : a ≠ b) : [a, b].Sublist l ∨ [b, a].Sublist l := by
  obtain ⟨before, after, rfl⟩ := List.append_of_mem ha
  rcases List.mem_append.mp hb with hbefore | hafter
  · have hself : [a].Sublist (a :: after) := List.singleton_sublist.mpr List.mem_cons_self
    exact .inr (List.Sublist.append (List.singleton_sublist.mpr hbefore) hself)
  · have hafter : b ∈ after := (List.mem_cons.mp hafter).resolve_left (Ne.symm hne)
    exact .inl (List.Sublist.trans (.cons_cons a (List.singleton_sublist.mpr hafter)) (List.sublist_append_right _ _))

theorem not_pair_sublist_swap (hl : l.Nodup) (hab : [a, b].Sublist l) : ¬ [b, a].Sublist l := by
  intro hba
  obtain ⟨r, s, rfl, har, hbs⟩ := List.cons_sublist_iff.mp hab
  obtain ⟨p, q, heq, hbp, haq⟩ := List.cons_sublist_iff.mp hba
  have hdisjoint := (List.nodup_append.mp hl).2.2
  rw [List.singleton_sublist] at hbs haq
  rcases List.append_eq_append_iff.mp heq with ⟨t, rfl, rfl⟩ | ⟨t, rfl, rfl⟩
  · exact hdisjoint a har a (List.mem_append_right t haq) rfl
  · exact hdisjoint b (List.mem_append_left t hbp) b hbs rfl

end Pairs

namespace FileTree

variable {t : FileTree} {entries : List (Place × Entry)}

/-- That a directory of the tree holds a name once. -/
def Single (t : FileTree) : Prop := (t.entries.map (·.1)).Nodup

instance (t : FileTree) : Decidable t.Single := inferInstanceAs (Decidable (List.Nodup _))

theorem lookup_of_mem {l : List (Place × Entry)} (hl : (l.map (·.1)).Nodup) {p : Place} {e : Entry}
    (h : (p, e) ∈ l) : l.lookup p = some e := by
  induction l with
  | nil => cases h
  | cons first rest ih =>
    obtain ⟨hfirst, hrest⟩ := List.nodup_cons.mp hl
    rcases List.mem_cons.mp h with rfl | h
    · simp
    · have hne : p ≠ first.1 := by
        rintro rfl
        exact hfirst (List.mem_map.mpr ⟨_, h, rfl⟩)
      rw [List.lookup_cons, beq_false_of_ne hne]
      exact ih hrest h

theorem lookup_of_perm {l m : List (Place × Entry)} (h : l.Perm m) (hm : (m.map (·.1)).Nodup) (p : Place) :
    l.lookup p = m.lookup p := by
  have hl : (l.map (·.1)).Nodup := (h.map _).nodup_iff.mpr hm
  cases hp : m.lookup p with
  | none =>
    rw [List.lookup_eq_none_iff] at hp ⊢
    exact fun e he => hp e (h.mem_iff.mp he)
  | some e =>
    obtain ⟨before, after, rfl, -⟩ := List.lookup_eq_some_iff.mp hp
    exact lookup_of_mem hl (h.mem_iff.mpr (by simp))

theorem get?_of_perm (ht : t.Single) (h : entries.Perm t.entries) (p : Place) : get? ⟨entries⟩ p = t.get? p := by
  unfold get?
  rw [lookup_of_perm h ht]

theorem names_of_perm (h : entries.Perm t.entries) (p : Place) : (names ⟨entries⟩ p).Perm (t.names p) :=
  h.filterMap _

theorem nodup_names (ht : t.Single) (p : Place) : (t.names p).Nodup := by
  refine List.Pairwise.filterMap _ (fun e e' hne name hname name' hname' => ?_) (List.pairwise_map.mp ht)
  rintro rfl
  exact hne ((eq_of_name hname).trans (eq_of_name hname').symm)

end FileTree

/-- The site when the entries of its files are given in another order. -/
def Site.listing (site : Site) (entries : List (Place × Entry)) : Site :=
  { site with files := { site.files with tree := ⟨entries⟩ } }

namespace ModuleScan
open Text

variable {site : Site} {patterns : List String} {source dir : Path} {t : FileTree} {place : Place}
  {entries : List (Place × Entry)} {names : List String} {a b name : String}

theorem lowerCase_trans (a b c : String) (hab : decide (lowerCase a ≤ lowerCase b) = true)
    (hbc : decide (lowerCase b ≤ lowerCase c) = true) : decide (lowerCase a ≤ lowerCase c) = true :=
  decide_eq_true (String.le_trans (of_decide_eq_true hab) (of_decide_eq_true hbc))

theorem lowerCase_total (a b : String) :
    (decide (lowerCase a ≤ lowerCase b) || decide (lowerCase b ≤ lowerCase a)) = true := by
  simpa using String.le_total (lowerCase a) (lowerCase b)

theorem sorted_perm (names : List String) : (sorted names).Perm names := List.mergeSort_perm _ _

theorem pairwise_sorted (names : List String) : (sorted names).Pairwise fun a b => lowerCase a ≤ lowerCase b :=
  (List.pairwise_mergeSort lowerCase_trans lowerCase_total names).imp of_decide_eq_true

theorem pair_sublist_sorted (hkey : lowerCase a = lowerCase b) (h : [a, b].Sublist names) :
    [a, b].Sublist (sorted names) :=
  List.pair_sublist_mergeSort lowerCase_trans lowerCase_total (by simp [hkey]) h

theorem found_of_pairwise (h : (t.names place).Pairwise fun a b => lowerCase a ≤ lowerCase b) :
    found patterns t place = (t.names place).filter (counts patterns t place) := by
  rw [found, sorted, List.mergeSort_of_pairwise (h.imp decide_eq_true)]

theorem nodup_found (ht : t.Single) : (found patterns t place).Nodup :=
  ((sorted_perm _).nodup_iff.mpr (FileTree.nodup_names ht place)).filter _

theorem pairwise_found : ((found patterns t place).map lowerCase).Pairwise (· ≤ ·) :=
  List.pairwise_map.mpr ((pairwise_sorted _).filter _)

theorem counts_of_perm (ht : t.Single) (h : entries.Perm t.entries) :
    counts patterns ⟨entries⟩ place = counts patterns t place := by
  funext name
  rw [counts, FileTree.fileAt, FileTree.get?_of_perm ht h]
  rfl

theorem found_perm (ht : t.Single) (h : entries.Perm t.entries) :
    (found patterns ⟨entries⟩ place).Perm (found patterns t place) := by
  have hcounts : counts patterns ⟨entries⟩ place = counts patterns t place := counts_of_perm ht h
  have hnames := (sorted_perm _).trans ((FileTree.names_of_perm h place).trans (sorted_perm _).symm)
  rw [found, found, hcounts]
  exact hnames.filter _

/-- In whatever order the entries are given, the lower-case forms of the names that are found are the same. -/
theorem map_lowerCase_found (ht : t.Single) (h : entries.Perm t.entries) :
    (found patterns ⟨entries⟩ place).map lowerCase = (found patterns t place).map lowerCase :=
  List.Perm.eq_of_pairwise (fun _ _ _ _ hab hba => String.le_antisymm hab hba) pairwise_found pairwise_found
    ((found_perm ht h).map _)

theorem found_eq_of_nodup (ht : t.Single) (hkeys : ((found patterns t place).map lowerCase).Nodup)
    (h : entries.Perm t.entries) : found patterns ⟨entries⟩ place = found patterns t place := by
  have hperm : (found patterns ⟨entries⟩ place).Perm (found patterns t place) := found_perm ht h
  refine List.Perm.eq_of_pairwise (fun a b ha hb hab hba => ?_) (List.pairwise_map.mp pairwise_found)
    (List.pairwise_map.mp pairwise_found) hperm
  exact List.inj_on_of_nodup_map hkeys (hperm.mem_iff.mp ha) hb (String.le_antisymm hab hba)

theorem pair_sublist_found (hkey : lowerCase a = lowerCase b) (ha : counts patterns t place a = true)
    (hb : counts patterns t place b = true) (h : [a, b].Sublist (t.names place)) :
    [a, b].Sublist (found patterns t place) := by
  have hpair : [a, b].filter (counts patterns t place) = [a, b] := by simp [ha, hb]
  rw [found, ← hpair]
  exact (pair_sublist_sorted hkey h).filter _

/-- If two names that are found have one lower-case form, then to read the entries from the other end turns them
round. -/
theorem nodup_of_found_reverse (ht : t.Single)
    (h : found patterns ⟨t.entries.reverse⟩ place = found patterns t place) :
    ((found patterns t place).map lowerCase).Nodup := by
  refine List.pairwise_map.mpr (List.pairwise_iff_forall_sublist.mpr fun {a b} hab hkey => ?_)
  have hne : a ≠ b := List.pairwise_iff_forall_sublist.mp (nodup_found ht) hab
  have ha : counts patterns t place a = true := mem_found.mp (hab.subset (by simp))
  have hb : counts patterns t place b = true := mem_found.mp (hab.subset (by simp))
  have hmem : ∀ {name}, name ∈ found patterns t place → name ∈ t.names place := fun hm =>
    (sorted_perm _).mem_iff.mp (List.mem_of_mem_filter hm)
  refine not_pair_sublist_swap (nodup_found ht) hab ?_
  rcases pair_sublist_or (hmem (mem_found.mpr ha)) (hmem (mem_found.mpr hb)) hne with hforth | hback
  · have hreverse : [b, a].Sublist (FileTree.names ⟨t.entries.reverse⟩ place) := by
      rw [FileTree.names, List.filterMap_reverse]
      exact hforth.reverse
    have hcounts : counts patterns ⟨t.entries.reverse⟩ place = counts patterns t place :=
      counts_of_perm ht (List.reverse_perm t.entries)
    rw [← h]
    exact pair_sublist_found hkey.symm (hcounts ▸ hb) (hcounts ▸ ha) hreverse
  · exact pair_sublist_found hkey.symm hb ha hback

/-- The lower-case forms of the names of modules. -/
def keys (modules : List ModuleFile) : List String := modules.map fun m => lowerCase m.fileName

/-- That a list holds the modules of a directory, each once and in the order of the lower-case forms of their names. -/
structure Lists (patterns : List String) (t : FileTree) (dir : Path) (modules : List ModuleFile) : Prop where
  once : modules.Nodup
  members : ∀ m, m ∈ modules ↔ ∃ name bytes executable, m = ⟨dir.join ⟨0, [name]⟩⟩ ∧ isModule patterns name = true ∧
    t.get? (dir.parts ++ [name]) = some (.file bytes executable)
  ordered : (keys modules).Pairwise (· ≤ ·)

theorem fileName_join (dir : Path) (name : String) : (⟨dir.join ⟨0, [name]⟩⟩ : ModuleFile).fileName = name := by
  simp [ModuleFile.fileName, Path.name, Path.join, Path.isAbsolute]

theorem join_injective (dir : Path) : Function.Injective fun name => (⟨dir.join ⟨0, [name]⟩⟩ : ModuleFile) := by
  intro a b hab
  rw [← fileName_join dir a, ← fileName_join dir b]
  exact congrArg ModuleFile.fileName hab

theorem keys_join (dir : Path) (names : List String) :
    keys (names.map fun name => ⟨dir.join ⟨0, [name]⟩⟩) = names.map lowerCase := by
  simp [keys, fileName_join]

theorem lists_found (ht : t.Single) (h : entries.Perm t.entries) :
    Lists patterns t dir ((found patterns ⟨entries⟩ dir.parts).map fun name => ⟨dir.join ⟨0, [name]⟩⟩) where
  once := (List.nodup_map_iff (join_injective dir)).mpr ((found_perm ht h).nodup_iff.mpr (nodup_found ht))
  members m := by
    simp only [List.mem_map, (found_perm ht h).mem_iff, mem_found, counts_iff]
    constructor
    · rintro ⟨name, ⟨hm, bytes, executable, he⟩, rfl⟩
      exact ⟨name, bytes, executable, rfl, hm, he⟩
    · rintro ⟨name, bytes, executable, rfl, hm, he⟩
      exact ⟨name, ⟨hm, bytes, executable, he⟩, rfl⟩
  ordered := by
    rw [keys_join]
    exact pairwise_found

theorem Sees.listing (h : Sees site source dir) (ht : site.files.tree.Single)
    (hperm : entries.Perm site.files.tree.entries) : Sees (site.listing entries) source dir := by
  have hkept : site.files.DirsKept (site.listing entries).files :=
    ⟨rfl, fun p hp => (FileTree.get?_of_perm ht hperm p).trans hp⟩
  exact ⟨h.located, Files.isDir_of_dirsKept hkept h.isDir, h.current, fun e he => h.names e (hperm.mem_iff.mp he)⟩

theorem list_listing (h : Sees site source dir) (ht : site.files.tree.Single)
    (hperm : entries.Perm site.files.tree.entries)
    (hfits : ∀ name ∈ site.files.tree.names dir.parts, (dir.child name).Fits) :
    list (site.listing entries) patterns source =
      .ok ((found patterns ⟨entries⟩ dir.parts).map fun name => ⟨dir.join ⟨0, [name]⟩⟩) :=
  list_eq (h.listing ht hperm) fun name hname =>
    hfits name ((FileTree.names_of_perm hperm dir.parts).mem_iff.mp hname)

/-- For every directory and every list of patterns, and in whatever order the directory gives its entries: if the path
of an entry is too long, the search fails at such an entry. Else it gives each file whose name has one of the forms,
once and in the order of the lower-case forms of the names. These forms come out the same in every case; the modules do
exactly if no two of them have names with one lower-case form. -/
theorem list_ordered (h : Sees site source dir) (ht : site.files.tree.Single) :
    ((∃ name ∈ site.files.tree.names dir.parts, ¬ (dir.child name).Fits) →
      ∀ entries, entries.Perm site.files.tree.entries →
        ∃ name ∈ site.files.tree.names dir.parts, ¬ (dir.child name).Fits ∧
          list (site.listing entries) patterns source =
            .error (.site (.file (.os .nameTooLong (dir.child name).toString none)))) ∧
    ((∀ name ∈ site.files.tree.names dir.parts, (dir.child name).Fits) →
      ∃ modules, list site patterns source = .ok modules ∧ Lists patterns site.files.tree dir modules ∧
        (∀ entries, entries.Perm site.files.tree.entries →
          ∃ others, list (site.listing entries) patterns source = .ok others ∧
            Lists patterns site.files.tree dir others ∧ keys others = keys modules) ∧
        ((∀ entries, entries.Perm site.files.tree.entries →
          list (site.listing entries) patterns source = .ok modules) ↔ (keys modules).Nodup)) := by
  refine ⟨fun ⟨long, hlong, hnot⟩ entries hperm => ?_, fun hfits => ⟨_, list_eq h hfits, lists_found ht (List.Perm.refl _),
    fun entries hperm => ?_, fun hall => ?_, fun hnodup entries hperm => ?_⟩⟩
  · have hnames := FileTree.names_of_perm hperm dir.parts
    obtain ⟨name, hname, hlist⟩ := @list_eq_error _ patterns _ _ (h.listing ht hperm)
      ⟨long, hnames.mem_iff.mpr hlong, hnot⟩
    exact ⟨name, hnames.mem_iff.mp hname, hlist⟩
  · refine ⟨_, list_listing h ht hperm hfits, lists_found ht hperm, ?_⟩
    rw [keys_join, keys_join]
    exact map_lowerCase_found ht hperm
  · have hreverse := List.reverse_perm site.files.tree.entries
    have heq := Except.ok.inj ((list_listing h ht hreverse hfits).symm.trans (hall _ hreverse))
    rw [keys_join]
    exact nodup_of_found_reverse ht (List.map_injective_iff.mpr (join_injective dir) heq)
  · rw [keys_join] at hnodup
    rw [list_listing h ht hperm hfits, found_eq_of_nodup ht hnodup hperm]

def offering (names : List String) : Site where
  files := ⟨⟨names.map fun name => ([name], .file "MZ".toByteArray false)⟩, []⟩
  homes := ⟨⟨1, ["home"]⟩, []⟩

theorem sees_offering (h : (offering names).files.tree.Nameable) : Sees (offering names) ⟨1, []⟩ ⟨1, []⟩ where
  located := rfl
  isDir := Files.isDir_eq_true.mpr ⟨rfl, [], rfl, rfl⟩
  current := List.not_mem_nil
  names := h

theorem list_offering (hn : (offering names).files.tree.Nameable)
    (hfits : ∀ name ∈ (offering names).files.tree.names [], ((⟨1, []⟩ : Path).child name).Fits)
    (h : ((offering names).files.tree.names []).Pairwise fun a b => lowerCase a ≤ lowerCase b) :
    list (offering names) patterns ⟨1, []⟩ = .ok ((((offering names).files.tree.names []).filter
      (counts patterns (offering names).files.tree [])).map fun name => ⟨⟨1, [name]⟩⟩) := by
  rw [list_eq (sees_offering hn) hfits, found_of_pairwise h]
  rfl

theorem list_ordered_mixed :
    list (offering ["A.DLL", "b.dll", "readme"]) ["*.dll"] ⟨1, []⟩ = .ok [⟨⟨1, ["A.DLL"]⟩⟩, ⟨⟨1, ["b.dll"]⟩⟩] ∧
    list (offering ["readme", "b.dll", "A.DLL"]) ["*.dll"] ⟨1, []⟩ = .ok [⟨⟨1, ["A.DLL"]⟩⟩, ⟨⟨1, ["b.dll"]⟩⟩] := by
  have hn : (offering ["A.DLL", "b.dll", "readme"]).files.tree.Nameable := by decide +kernel
  have ht : (offering ["A.DLL", "b.dll", "readme"]).files.tree.Single := by decide +kernel
  have hfits : ∀ name ∈ (offering ["A.DLL", "b.dll", "readme"]).files.tree.names [],
      ((⟨1, []⟩ : Path).child name).Fits := by decide +kernel
  have hgiven : list (offering ["A.DLL", "b.dll", "readme"]) ["*.dll"] ⟨1, []⟩ =
      .ok [⟨⟨1, ["A.DLL"]⟩⟩, ⟨⟨1, ["b.dll"]⟩⟩] :=
    (list_offering hn hfits (by decide +kernel)).trans (by decide +kernel)
  obtain ⟨modules, hlist, -, -, hsame⟩ := (list_ordered (sees_offering hn) ht).2 hfits
  obtain rfl := Except.ok.inj (hlist.symm.trans hgiven)
  have hreverse := List.reverse_perm (offering ["A.DLL", "b.dll", "readme"]).files.tree.entries
  exact ⟨hgiven, hsame.mpr (by decide +kernel) _ hreverse⟩

/-- Two files whose names differ in case only come as the directory gives them, and a small letter can come before a
capital that is less. -/
theorem list_turned :
    (offering ["a.dll", "A.dll"]).files.tree.entries.Perm (offering ["A.dll", "a.dll"]).files.tree.entries ∧
    list (offering ["A.dll", "a.dll"]) ["*.dll"] ⟨1, []⟩ = .ok [⟨⟨1, ["A.dll"]⟩⟩, ⟨⟨1, ["a.dll"]⟩⟩] ∧
    list (offering ["a.dll", "A.dll"]) ["*.dll"] ⟨1, []⟩ = .ok [⟨⟨1, ["a.dll"]⟩⟩, ⟨⟨1, ["A.dll"]⟩⟩] ∧
    "B.dll" < "a.dll" ∧
    list (offering ["a.dll", "B.dll"]) ["*.dll"] ⟨1, []⟩ = .ok [⟨⟨1, ["a.dll"]⟩⟩, ⟨⟨1, ["B.dll"]⟩⟩] :=
  ⟨.swap .., (list_offering (by decide +kernel) (by decide +kernel) (by decide +kernel)).trans (by decide +kernel),
    (list_offering (by decide +kernel) (by decide +kernel) (by decide +kernel)).trans (by decide +kernel),
    by decide +kernel,
    (list_offering (by decide +kernel) (by decide +kernel) (by decide +kernel)).trans (by decide +kernel)⟩

end ModuleScan
end Winnow
