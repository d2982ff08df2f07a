import Winnow.Proofs.Conversation
import Winnow.Proofs.Evolution
import Winnow.Proofs.Folding

/-!
What a run can reach. Whatever names modules and types have, and however the run ends, it makes, changes and removes
files directly in the directories of important modules and nowhere else, and the directories it makes are these, the
root directory and those above it.
-/
set_option autoImplicit false

namespace Winnow

namespace Path

instance (name : String) : Decidable (IsName name) :=
  decidable_of_iff (isPart name = true ∧ name ≠ ".." ∧ '/' ∉ name.toList)
    ⟨fun h => ⟨h.1, h.2.1, h.2.2⟩, fun h => ⟨h.part, h.notUp, h.slashFree⟩⟩

theorem isName_of_length {name : String} (hl : 3 ≤ name.length) (hs : '/' ∉ name.toList) : IsName name := by
  have hne : ∀ short : String, short.length < 3 → name ≠ short := by
    rintro short hshort rfl
    omega
  refine ⟨?_, hne ".." (by decide), hs⟩
  simp [isPart, hne "" (by decide), hne "." (by decide)]

theorem isName_stagingName {name : String} (hs : '/' ∉ name.toList) : IsName (Outputs.stagingName name) := by
  refine isName_of_length ?_ ?_
  · rw [Outputs.length_stagingName]
    omega
  · simp [Outputs.stagingName, hs]

theorem slash_not_mem_stemOf {name : String} (hs : '/' ∉ name.toList) : '/' ∉ (stemOf name).toList := by
  unfold stemOf
  simp only
  split
  · exact hs
  · rw [String.toList_ofList]
    exact fun h => hs (List.mem_of_mem_take h)

end Path

namespace Importance
open Text

/-- Nothing but a dot folds to a text that begins with a dot, so a name that begins with one has no prefix that
does not. -/
theorem head?_of_isImportant {prefixes : List String} {name : String}
    (hp : ∀ p ∈ prefixes, p.toList.head? ≠ some '.') (h : isImportant prefixes name = true) :
    name ≠ "" ∧ name.toList.head? ≠ some '.' := by
  simp only [isImportant, Bool.and_eq_true, Bool.not_eq_true', List.any_eq_true] at h
  obtain ⟨hne, p, hmem, hpne, hprefix⟩ := h
  refine ⟨by simpa using hne, fun hdot => ?_⟩
  cases hc : p.toList with
  | nil => simp [String.toList_eq_nil_iff.mp hc] at hpne
  | cons c rest =>
    obtain ⟨more, hname⟩ : ∃ more, name.toList = '.' :: more := by
      cases hn : name.toList with
      | nil => simp [hn] at hdot
      | cons d more =>
        rw [hn] at hdot
        exact ⟨more, by simpa using hdot⟩
    rw [hc, hname, foldChars_cons, foldChars_cons, foldChar_dot, List.isPrefixOf_iff_prefix] at hprefix
    obtain ⟨first, others, hfold⟩ := List.exists_cons_of_ne_nil (foldChar_ne_nil c)
    rw [hfold, List.cons_append, List.cons_append, List.cons_prefix_cons] at hprefix
    have hmark : '.' ∈ foldChar c := by simp [hfold, hprefix.1]
    obtain ⟨-, rfl⟩ := foldChar_of_mem (by decide) (by decide) hmark
    exact hp p hmem (by simp [hc])

theorem isName_of_isImportant {prefixes : List String} {name : String}
    (hp : ∀ p ∈ prefixes, p.toList.head? ≠ some '.') (hs : '/' ∉ name.toList)
    (h : isImportant prefixes name = true) : Path.IsName name := by
  obtain ⟨hne, hhead⟩ := head?_of_isImportant hp h
  have hdot : name ≠ "." := by
    rintro rfl
    exact hhead rfl
  have hup : name ≠ ".." := by
    rintro rfl
    exact hhead rfl
  exact ⟨by simp [Path.isPart, hne, hdot], hup, hs⟩

end Importance

namespace FileTree

/-- That the places of a tree are made of names. -/
def WellNamed (t : FileTree) : Prop := ∀ e ∈ t.entries, ∀ name ∈ e.1, Path.IsName name

instance (t : FileTree) : Decidable t.WellNamed := inferInstanceAs (Decidable (∀ _ ∈ _, ∀ _ ∈ _, _))

theorem WellNamed.names {t : FileTree} (h : t.WellNamed) {q : Place} (hq : t.get? q ≠ none) :
    ∀ name ∈ q, Path.IsName name := by
  by_cases hne : q = []
  · simp [hne]
  · rw [get?_of_ne_nil t hne] at hq
    obtain ⟨e, he⟩ := Option.ne_none_iff_exists'.mp hq
    obtain ⟨before, after, hentries, -⟩ := List.lookup_eq_some_iff.mp he
    exact h (q, e) (by simp [hentries])

end FileTree

namespace Files

/-- `g` is `f` with other files in the directories of the given names in `root`, and with such directories more. A
file that was not there before has a name. -/
structure Confined (root : Path) (names : String → Prop) (f g : Files) : Prop where
  current : g.current = f.current
  entry : ∀ q, g.tree.get? q = f.tree.get? q ∨
    (f.tree.get? q = none ∧ g.tree.get? q = some .dir ∧ ∃ n, names n ∧ q = f.placeOf root ++ [n]) ∨
    (f.tree.get? q ≠ some .dir ∧ g.tree.get? q ≠ some .dir ∧ ∃ n x, names n ∧ q = f.placeOf root ++ [n, x] ∧
      (f.tree.get? q = none → Path.IsName x))

namespace Confined

variable {root : Path} {names : String → Prop} {f g h : Files}

theorem refl (root : Path) (names : String → Prop) (f : Files) : f.Confined root names f := ⟨rfl, fun _ => .inl rfl⟩

theorem trans (hf : f.Confined root names g) (hg : g.Confined root names h) : f.Confined root names h := by
  refine ⟨hg.current.trans hf.current, fun q => ?_⟩
  have hroot := placeOf_of_current hf.current root
  rcases hg.entry q with he | ⟨hn, hd, n, hname, hq⟩ | ⟨hgd, hhd, n, x, hname, hq, hx⟩
  · rw [he]
    exact hf.entry q
  · rw [hroot] at hq
    rcases hf.entry q with he | ⟨-, hd', -⟩ | ⟨-, -, n', x', -, hq', -⟩
    · exact .inr (.inl ⟨he ▸ hn, hd, n, hname, hq⟩)
    · cases hn.symm.trans hd'
    · have := congrArg List.length (hq.symm.trans hq')
      simp at this
  · rw [hroot] at hq
    rcases hf.entry q with he | ⟨-, hd, -⟩ | ⟨hfd, -, n', x', -, hq', hx'⟩
    · exact .inr (.inr ⟨he ▸ hgd, hhd, n, x, hname, hq, he ▸ hx⟩)
    · exact absurd hd hgd
    · obtain ⟨-, rfl⟩ : n = n' ∧ x = x' := by simpa using hq.symm.trans hq'
      exact .inr (.inr ⟨hfd, hhd, n, x, hname, hq, hx'⟩)

theorem dirsKept (hc : f.Confined root names g) : f.DirsKept g := by
  refine ⟨hc.current, fun q hq => ?_⟩
  rcases hc.entry q with h | ⟨-, h, -⟩ | ⟨h, -⟩
  · rw [h, hq]
  · exact h
  · exact absurd hq h

end Confined

theorem Housed.confined {f g : Files} {root : Path} {names : String → Prop} {n : String} (hn : names n)
    (h : f.Housed (f.placeOf root ++ [n]) g) : f.Confined root names g := by
  refine ⟨h.current, fun q => ?_⟩
  by_cases hq : q = f.placeOf root ++ [n]
  · rcases h.vacant with hf | hf
    · exact .inr (.inl ⟨hq ▸ hf, hq ▸ h.dir, n, hn, hq⟩)
    · rw [hq, hf]
      exact .inl h.dir
  · exact .inl (h.others q hq)

end Files

namespace Outputs

variable {o : Outputs} {root : Path} {names : String → Prop} {f : Files} {n x : String}

theorem placeOf_child_child (f : Files) (root : Path) (hup : n ≠ "..") (hx : Path.IsName x) :
    f.placeOf ((root.child n).child x) = f.placeOf root ++ [n, x] := by
  rw [Files.placeOf_child f _ hx.notUp, Files.placeOf_child f root hup, List.append_assoc]
  rfl

theorem Within.confined {g : Files} (hn : names n) (hup : n ≠ "..") (hx : Path.IsName x)
    (h : Within f ((root.child n).child x) g) : f.Confined root names g := by
  refine ⟨h.dirs.kept.current, fun q => ?_⟩
  by_cases hd : f.tree.get? q = some .dir
  · exact .inl (((h.dirs.dir_iff q).mpr hd).trans hd.symm)
  · have hg : g.tree.get? q ≠ some .dir := mt (h.dirs.dir_iff q).mp hd
    by_cases hp : q = f.placeOf ((root.child n).child x)
    · exact .inr (.inr ⟨hd, hg, n, x, hn, hp.trans (placeOf_child_child f root hup hx), fun _ => hx⟩)
    · by_cases hs : q = f.placeOf (stagingPath ((root.child n).child x))
      · exact .inr (.inr ⟨hd, hg, n, _, hn, hs.trans (placeOf_stagingPath_child f root hup x),
          fun _ => Path.isName_stagingName hx.slashFree⟩)
      · exact .inl (h.others q hp hs)

theorem confined_write (value : Decompiled) (hn : names n) (hup : n ≠ "..") (hx : Path.IsName x) :
    f.Confined root names (write ((root.child n).child x) value f).1 := (within_write _ value f).confined hn hup hx

theorem removed_of_pruneAll (kept cs : List Path) (f : Files) :
    f.SameDirs (pruneAll kept cs f).1 ∧ ∀ q, (pruneAll kept cs f).1.tree.get? q = f.tree.get? q ∨
      ((pruneAll kept cs f).1.tree.get? q = none ∧ (∃ b x, f.tree.get? q = some (.file b x)) ∧
        ∃ c ∈ cs, f.place? c = .ok q) := by
  induction cs generalizing f with
  | nil => exact ⟨.refl f, fun _ => .inl rfl⟩
  | cons c cs ih =>
    rw [pruneAll]
    cases hp : prune kept f c with
    | error e => exact ⟨.refl f, fun _ => .inl rfl⟩
    | ok r =>
      obtain ⟨g, gone, told⟩ := r
      have hfirst := cleared_of_prune hp
      obtain ⟨hdirs, hrest⟩ := ih g
      refine ⟨hfirst.dirs.trans hdirs, fun q => ?_⟩
      rcases hrest q with he | ⟨hn, hfile, c', hc', hq⟩
      · rcases hfirst.entry q with he' | ⟨hn, hfile, -, c', hc', hq⟩
        · exact .inl (he.trans he')
        · cases List.mem_singleton.mp hc'
          exact .inr ⟨he.trans hn, hfile, c, List.mem_cons_self, hq⟩
      · rcases hfirst.entry q with he | ⟨hn', -⟩
        · exact .inr ⟨hn, he ▸ hfile, c', List.mem_cons_of_mem _ hc', hfirst.dirs.place?_eq_ok.mp hq⟩
        · obtain ⟨b, x, hb⟩ := hfile
          cases hn'.symm.trans hb

theorem isDir_of_mem_candidates {dir c : Path} {found : List Path} (h : o.candidates dir f = .ok found)
    (hc : c ∈ found) : f.isDir dir = .ok true := by
  unfold candidates at h
  obtain ⟨⟨steps, onlyDirs⟩, -, h⟩ := exists_of_bind h
  obtain ⟨paths, hpaths, h⟩ := exists_of_bind h
  cases h
  cases hp : Glob.paths f dir steps onlyDirs with
  | error e => simp [hp] at hpaths
  | ok paths' =>
    rw [hp] at hpaths
    cases hpaths
    unfold Glob.paths at hp
    obtain ⟨there, hd, hp⟩ := exists_of_bind hp
    cases there with
    | true => exact hd
    | false =>
      cases hp
      simp at hc

theorem confined_pruneAll {kept gone found : List Path} (hx : '/' ∉ o.extension.toList) (hstar : o.extension ≠ "*")
    (hroot : f.isDir root = .ok true) (hn : names n) (hup : n ≠ "..")
    (hf : o.candidates (root.child n) f = .ok found) (hg : gone ⊆ found) :
    f.Confined root names (pruneAll kept gone f).1 := by
  have hdir : f.placeOf (root.child n) = f.placeOf root ++ [n] := Files.placeOf_child f root hup
  obtain ⟨hdirs, hentry⟩ := removed_of_pruneAll kept gone f
  refine ⟨hdirs.kept.current, fun q => (hentry q).imp_right ?_⟩
  rintro ⟨hnone, ⟨b, y, hfile⟩, c, hc, hq⟩
  obtain ⟨name, -, -, rfl⟩ := (if_neg hstar ▸ mem_candidates hx (isDir_of_mem_candidates hf (hg hc)) hf).mp (hg hc)
  have hplace : q = f.placeOf root ++ [n, name] := by
    rw [← Files.placeOf_of_place? hq]
    by_cases hname : name = ".."
    · obtain ⟨-, r, hr, hrd⟩ := Files.isDir_eq_true.mp hroot
      rw [← Files.placeOf_of_place? hq, hname, Files.placeOf_child_up, hdir, List.dropLast_concat,
        Files.placeOf_of_place? hr, hrd] at hfile
      cases hfile
    · rw [Files.placeOf_child f _ hname, hdir, List.append_assoc]
      rfl
  exact .inr ⟨by simp [hfile], by simp [hnone], n, name, hn, hplace, fun hno => by simp [hfile] at hno⟩

theorem confined_pruneStale {keep : List Path} (hx : '/' ∉ o.extension.toList) (hstar : o.extension ≠ "*")
    (hroot : f.isDir root = .ok true) (hn : names n) (hup : n ≠ "..") :
    f.Confined root names (o.pruneStale (root.child n) keep f).1 := by
  unfold pruneStale
  cases hk : keep.mapM f.resolve with
  | error e => exact .refl _ _ _
  | ok kept =>
    cases hf : o.candidates (root.child n) f with
    | error e => exact .refl _ _ _
    | ok found =>
      have hall : f.Confined root names (pruneAll kept found f).1 :=
        confined_pruneAll hx hstar hroot hn hup hf (List.Subset.refl found)
      simp only
      rcases hr : pruneAll kept found f with ⟨g, told, result⟩
      rw [hr] at hall
      cases result <;> exact hall

end Outputs

namespace Progress

variable {plan : Plan} {module root : Path} {names : String → Prop} {n : String}

theorem target?_isName {p : Progress} {dir path : Path} {d : TypeDescriptor} {renamed : Bool}
    (hx : '/' ∉ p.work.outputs.extension.toList) (hl : 2 ≤ p.work.outputs.extension.length) (hn : d.name ≠ "")
    (h : p.target? dir d = some (path, renamed)) : ∃ x, path = dir.child x ∧ Path.IsName x := by
  obtain ⟨name, -, hne, hpath⟩ := name_of_target? hn h
  have hfull : p.work.outputs.extension ≠ "" := by
    intro he
    simp [he] at hl
  refine ⟨_, hpath.trans (Outputs.pathFor_eq_child hx dir hne fun he => absurd he hfull), ?_⟩
  refine Path.isName_of_length ?_ (TypeName.slash_not_mem_append hx name)
  have := mt String.length_eq_zero_iff.mp (TypeName.fileStem_ne_empty hne)
  rw [String.length_append]
  omega

theorem confined_of_step {p q : Progress} {d : TypeDescriptor} {a : Option Path} {r : Except RunError TypeResult}
    (hx : '/' ∉ p.work.outputs.extension.toList) (hl : 2 ≤ p.work.outputs.extension.length) (hn : names n)
    (hup : n ≠ "..") (h : TypeStep plan module (root.child n) p d a q r) :
    p.work.files.Confined root names q.work.files := by
  rw [files_eq_of_step h]
  rcases resultOf_cases plan d (p.target? (root.child n) d) (p.answer plan module d) with
    ⟨_, -, hf⟩ | ⟨path, renamed, value, hname, ht, -, hf⟩
  · rw [hf]
    exact .refl _ _ _
  · obtain ⟨x, rfl, hxn⟩ := target?_isName hx hl hname ht
    rw [hf]
    exact Outputs.confined_write value hn hup hxn

theorem confined_of_processTypes (types : List TypeDescriptor) {p : Progress}
    (hx : '/' ∉ p.work.outputs.extension.toList) (hl : 2 ≤ p.work.outputs.extension.length) (hn : names n)
    (hup : n ≠ "..") :
    (processTypes plan module (root.child n) types p).1.work.outputs = p.work.outputs ∧
      p.work.files.Confined root names (processTypes plan module (root.child n) types p).1.work.files := by
  induction types generalizing p with
  | nil => exact ⟨rfl, .refl _ _ _⟩
  | cons d rest ih =>
    have hs := processType_step plan module (root.child n) p d
    rw [processTypes_cons]
    rcases hd : processType plan module (root.child n) p d with ⟨q, result⟩
    rw [hd] at hs
    have ho : q.work.outputs = p.work.outputs := outputs_of_step hs
    have hc : p.work.files.Confined root names q.work.files := confined_of_step hx hl hn hup hs
    cases result with
    | error e => exact ⟨ho, hc⟩
    | ok r =>
      have hq : (q.recorded d r).work.outputs = p.work.outputs := ho
      obtain ⟨hrest, hcrest⟩ := ih (p := q.recorded d r) (hq ▸ hx) (hq ▸ hl)
      exact ⟨hrest.trans ho, hc.trans hcrest⟩

end Progress

namespace Work

/-- The work of a run whose root directory is there, with an extension that makes every text without a slash a
name, and with the directories that modules had before where they would have them now. -/
structure Based (w : Work) : Prop where
  slashFree : '/' ∉ w.outputs.extension.toList
  long : 2 ≤ w.outputs.extension.length
  root : w.files.isDir w.outputs.root = .ok true
  made : ∀ name dir, w.outputs.made.lookup name = some dir → dir = w.outputs.root.join (.ofString name)

variable {plan : Plan} {m : ModuleFile} {w v : Work} {names : String → Prop}

/-- That work has come further and its changes are confined. -/
structure Kept (names : String → Prop) (w v : Work) : Prop where
  based : v.Based
  root : v.outputs.root = w.outputs.root
  files : w.files.Confined w.outputs.root names v.files

theorem Kept.trans {u : Work} (h : w.Kept names v) (h' : v.Kept names u) : w.Kept names u :=
  ⟨h'.based, h'.root.trans h.root, h.files.trans (h.root ▸ h'.files)⟩

theorem Based.kept (hw : w.Based) (ho : v.outputs = w.outputs)
    (hc : w.files.Confined w.outputs.root names v.files) : w.Kept names v := by
  refine ⟨⟨ho ▸ hw.slashFree, ho ▸ hw.long, ?_, ho ▸ hw.made⟩, by rw [ho], hc⟩
  rw [ho]
  exact Files.isDir_of_dirsKept hc.dirsKept hw.root

theorem Based.prepare (hw : w.Based) (hm : Path.IsName m.baseName) (hn : names m.baseName) :
    w.Kept names (w.prepare m).1 ∧ ∀ dir, (w.prepare m).2 = .ok dir → dir = w.outputs.root.child m.baseName := by
  unfold Work.prepare Outputs.ensureModuleDir
  cases hl : w.outputs.made.lookup m.baseName with
  | some dir =>
    refine ⟨hw.kept rfl (.refl _ _ _), fun dir' hd => ?_⟩
    cases hd
    exact (hw.made _ _ hl).trans (Path.join_ofString hm _)
  | none =>
    simp only [Path.join_ofString hm]
    cases ho : w.files.obstacle? (w.outputs.root.child m.baseName) with
    | some e =>
      rw [Files.makeDirs_of_obstacle? hw.root ho]
      exact ⟨hw.kept rfl (.refl _ _ _), fun _ hd => by cases hd⟩
    | none =>
      obtain ⟨g, hg, hh⟩ := Files.makeDirs_of_free hw.root hm.notUp ho
      have hc : w.files.Confined w.outputs.root names g := hh.confined hn
      rw [hg]
      refine ⟨⟨⟨hw.slashFree, hw.long, Files.isDir_of_dirsKept hc.dirsKept hw.root, fun name dir hd => ?_⟩, rfl, hc⟩,
        fun dir hd => (Except.ok.inj hd).symm⟩
      simp only [List.lookup_cons] at hd
      split at hd
      · next heq =>
        cases hd
        rw [eq_of_beq heq, Path.join_ofString hm]
      · exact hw.made name dir hd

theorem Based.ne_star (hw : w.Based) : w.outputs.extension ≠ "*" := by
  intro he
  have hl := hw.long
  rw [he] at hl
  exact absurd hl (by decide)

theorem Based.prune (plan : Plan) (written : List Path) {n : String} (hw : w.Based) (hn : names n) (hup : n ≠ "..") :
    w.Kept names (w.prune plan (w.outputs.root.child n) written).1 := by
  unfold Work.prune
  cases plan.pruneStale with
  | false => exact hw.kept rfl (.refl _ _ _)
  | true => exact hw.kept rfl (Outputs.confined_pruneStale hw.slashFree hw.ne_star hw.root hn hup)

theorem Based.listing? {l : Listing} (hw : w.Based) (hm : Path.IsName m.baseName) (hn : names m.baseName)
    (hl : w.listing? plan m = some l) :
    w.Kept names l.work ∧ l.dir = l.work.outputs.root.child m.baseName := by
  obtain ⟨hd, hf, ho⟩ := prepared_of_listing? hl
  obtain ⟨hkept, hdir⟩ := hw.prepare hm hn
  have hwork : w.Kept names l.work := hkept.trans (hkept.based.kept ho (hf ▸ .refl _ _ _))
  exact ⟨hwork, by rw [hwork.root]; exact hdir l.dir hd⟩

theorem Based.processTypes (plan : Plan) (types : List TypeDescriptor) {l : Listing} (hl : l.work.Based)
    (hm : Path.IsName m.baseName) (hn : names m.baseName) (hd : l.dir = l.work.outputs.root.child m.baseName) :
    l.work.Kept names (Progress.processTypes plan m.path l.dir types (l.begin m)).1.work := by
  obtain ⟨ho, hc⟩ : (Progress.processTypes plan m.path l.dir types (l.begin m)).1.work.outputs = l.work.outputs ∧
      l.work.files.Confined l.work.outputs.root names
        (Progress.processTypes plan m.path l.dir types (l.begin m)).1.work.files := by
    rw [hd]
    exact Progress.confined_of_processTypes types hl.slashFree hl.long hn hm.notUp
  exact hl.kept ho hc

theorem Based.process (plan : Plan) {l : Listing} (hl : l.work.Based) (hm : Path.IsName m.baseName)
    (hn : names m.baseName) (hd : l.dir = l.work.outputs.root.child m.baseName) :
    l.work.Kept names (l.process plan m).1.work := hl.processTypes plan l.types hm hn hd

theorem Based.processModule (hw : w.Based)
    (hm : Importance.isImportant plan.importantPrefixes m.baseName = true →
      Path.IsName m.baseName ∧ names m.baseName) :
    w.Kept names (w.processModule plan m).1 := by
  by_cases hi : Importance.isImportant plan.importantPrefixes m.baseName = true
  · obtain ⟨hname, hn⟩ := hm hi
    have hprocess : ∀ l p result, w.listing? plan m = some l → l.process plan m = (p, result) →
        w.Kept names p.work ∧ l.dir = p.work.outputs.root.child m.baseName := by
      intro l p result hl hp
      obtain ⟨hkept, hd⟩ := hw.listing? hname hn hl
      have hprocess := hkept.based.process plan hname hn hd
      rw [hp] at hprocess
      exact ⟨hkept.trans hprocess, by rw [hprocess.root]; exact hd⟩
    have hpruned : ∀ l p result v pruned, w.listing? plan m = some l → l.process plan m = (p, result) →
        (p.work.close plan m.path).prune plan l.dir p.report.written = (v, pruned) → w.Kept names v := by
      intro l p result v pruned hl hp hv
      obtain ⟨hkept, hd⟩ := hprocess l p result hl hp
      have hclose : w.Kept names (p.work.close plan m.path) := hkept.trans (hkept.based.kept rfl (.refl _ _ _))
      have hprune := hclose.based.prune plan p.report.written hn hname.notUp
      have hd' : l.dir = (p.work.close plan m.path).outputs.root.child m.baseName := hd
      rw [← hd', hv] at hprune
      exact hclose.trans hprune
    have hs := processModule_step plan m w
    generalize (w.processModule plan m).1 = v at hs ⊢
    generalize (w.processModule plan m).2 = result at hs
    cases hs with
    | passed v o hl hmod hst hr hv =>
      rcases hv with ⟨hf, ho⟩ | ⟨hf, ho⟩
      · exact hw.kept ho (hf ▸ .refl _ _ _)
      · obtain ⟨hkept, -⟩ := hw.prepare hname hn
        exact hkept.trans (hkept.based.kept ho (hf ▸ .refl _ _ _))
    | escaped l p e hl hp =>
      obtain ⟨hkept, -⟩ := hprocess l p _ hl hp
      exact hkept.trans (hkept.based.kept rfl (.refl _ _ _))
    | unpruned l p v e hl hp hv => exact hpruned l p _ v _ hl hp hv
    | completed l p v hl hp hv =>
      have hkept := hpruned l p _ v _ hl hp hv
      exact hkept.trans (hkept.based.kept rfl (.refl _ _ _))
  · rw [processModule_eq, if_neg hi]
    exact hw.kept rfl (.refl _ _ _)

theorem Based.processModules {modules : List ModuleFile} (hw : w.Based)
    (hm : ∀ m ∈ modules, Importance.isImportant plan.importantPrefixes m.baseName = true →
      Path.IsName m.baseName ∧ names m.baseName) :
    w.Kept names (w.processModules plan modules).1 := by
  induction modules generalizing w with
  | nil => exact hw.kept rfl (.refl _ _ _)
  | cons m rest ih =>
    obtain ⟨hfirst, hrest⟩ := List.forall_mem_cons.mp hm
    have hkept := hw.processModule hfirst
    rw [processModules_cons]
    rcases hp : w.processModule plan m with ⟨v, result⟩
    rw [hp] at hkept
    cases result with
    | error e => exact hkept
    | ok o => exact hkept.trans (ih hkept.based hrest)

end Work

end Winnow
