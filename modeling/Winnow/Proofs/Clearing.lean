import Winnow.Proofs.NamePattern
import Winnow.Proofs.Pruning

/-!
Pruning with any extension. The pattern for outputs is refused, or selects names directly in the directory, or, for
an asterisk, selects directories at any depth, of which none is removed.
-/
set_option autoImplicit false

namespace Winnow

namespace Files

/-- That no entry is called by two dots. -/
structure Proper (f : Files) : Prop where
  current : ".." ∉ f.current
  names : ∀ q, f.tree.get? q ≠ none → ".." ∉ q

end Files

namespace Glob

theorem steps_of_slashFree {extension : String} (hx : '/' ∉ extension.toList) :
    steps ("*" ++ extension) =
      if extension = "*" then .ok ([.anyDepth], false)
      else if hasTwoStars ("*" ++ extension).toList then .error .starsInName
      else .ok ([.pattern ("*" ++ extension)], false) := by
  have hslash : '/' ∉ ("*" ++ extension).toList := by simp [hx]
  have hpart : Path.isPart ("*" ++ extension) = true := by
    simp only [Path.isPart, Bool.and_eq_true, bne_iff_ne, ne_eq, ← String.toList_inj]
    simp
  have hlast : (("*" ++ extension).toList.getLast? == some '/') = false := by
    rw [beq_eq_false_iff_ne]
    exact fun h => hslash (List.mem_of_getLast? h)
  have hstars : "*" ++ extension = "**" ↔ extension = "*" := by simp [← String.toList_inj]
  have hup : "*" ++ extension ≠ ".." := by simp [← String.toList_inj]
  have hpat : isPattern ("*" ++ extension) = true := by simp [isPattern]
  have hof : Step.ofPart ("*" ++ extension) = if extension = "*" then .ok .anyDepth
      else if hasTwoStars ("*" ++ extension).toList then .error .starsInName
      else .ok (.pattern ("*" ++ extension)) := by
    simp only [Step.ofPart, beq_iff_eq, hstars, hup, hpat, if_false, if_true]
  rw [steps, Path.ofString_of_not_mem hslash hpart, List.mapM_cons, List.mapM_nil, hof, hlast]
  split
  · rfl
  · split <;> rfl

theorem paths_pattern {f : Files} {dir : Path} (pattern : String) (hd : f.isDir dir = .ok true) :
    paths f dir [.pattern pattern] false =
      .ok (((f.tree.names (f.placeOf dir)).filter (NamePattern.accept pattern)).map dir.child) := by
  obtain ⟨hz, q, hq, hqd⟩ := Files.isDir_eq_true.mp hd
  have hs : f.stat dir = .ok (q, .dir) := Files.stat_eq_ok.mpr ⟨hq, hqd⟩
  rw [Files.placeOf_of_place? hq]
  have hm : ∀ names : List String,
      names.mapM (fun name => (.ok [dir.join ⟨0, [name]⟩] : Except FileError (List Path))) =
        .ok (names.map fun name => [dir.child name]) := fun names => List.mapM_pure
  simp only [paths, hd, select, hs, bind, Except.bind, if_true, pure, Except.pure, List.isEmpty_nil, Bool.not_false,
    Bool.and_self, Bool.true_or, Bool.and_true, hm]
  rw [← List.flatMap_def, ← List.map_eq_flatMap]

theorem paths_anyDepth {f : Files} {dir : Path} (hd : f.isDir dir = .ok true) :
    paths f dir [.anyDepth] false = .ok (directories f (depth f.tree + 1) dir).eraseDups := by
  have hm : ∀ ps : List Path, ps.mapM (fun p => (.ok [p] : Except FileError (List Path))) =
      .ok (ps.map fun p => [p]) := fun ps => List.mapM_pure
  simp only [paths, hd, select, bind, Except.bind, if_true, pure, Except.pure, hm]
  rw [← List.flatMap_def, List.flatMap_singleton']

theorem mem_directories_succ {f : Files} {fuel : Nat} {p c : Path} :
    c ∈ directories f (fuel + 1) p ↔ c = p ∨ ∃ q name, f.place? p = .ok q ∧ f.tree.get? (q ++ [name]) = some .dir ∧
      c ∈ directories f fuel (p.child name) := by
  rw [directories]
  cases f.place? p with
  | error e => simp
  | ok q =>
    simp only [List.mem_cons, List.mem_flatMap, List.mem_filter, beq_iff_eq, FileTree.mem_names_iff, Except.ok.injEq]
    constructor
    · rintro (h | ⟨name, ⟨-, hd⟩, hc⟩)
      · exact .inl h
      · exact .inr ⟨q, name, rfl, hd, hc⟩
    · rintro (h | ⟨q', name, rfl, hd, hc⟩)
      · exact .inl h
      · exact .inr ⟨name, ⟨by simp [hd], hd⟩, hc⟩

theorem self_mem_directories (f : Files) (fuel : Nat) (p : Path) : p ∈ directories f fuel p := by
  cases fuel with
  | zero => simp [directories]
  | succ fuel => exact mem_directories_succ.mpr (.inl rfl)

theorem length_le_depth {t : FileTree} {q : Place} (h : t.get? q ≠ none) : q.length ≤ depth t := by
  have hfold : ∀ (l : List (Place × Entry)) (n : Nat), n ≤ l.foldl (fun n e => max n e.1.length) n ∧
      ∀ e ∈ l, e.1.length ≤ l.foldl (fun n e => max n e.1.length) n := by
    intro l
    induction l with
    | nil => simp
    | cons e l ih =>
      intro n
      obtain ⟨hn, hl⟩ := ih (max n e.1.length)
      refine ⟨by simp only [List.foldl_cons]; omega, List.forall_mem_cons.mpr ⟨?_, hl⟩⟩
      simp only [List.foldl_cons]
      omega
  by_cases hq : q = []
  · simp [hq]
  · obtain ⟨e, he⟩ := Option.ne_none_iff_exists'.mp h
    rw [FileTree.get?_of_ne_nil t hq] at he
    obtain ⟨l, r, hl, -⟩ := List.lookup_eq_some_iff.mp he
    exact (hfold t.entries 0).2 (q, e) (by simp [hl])

theorem eq_of_mem_directories {f : Files} {fuel : Nat} {p c : Path} {e : Errno} (hp : f.place? p = .error e)
    (h : c ∈ directories f fuel p) : c = p := by
  cases fuel with
  | zero => simpa [directories] using h
  | succ fuel => simpa [directories, hp] using h

/-- A directory that two trees have, at a level below which they have the same ones. -/
structure Shared (level : Nat) (f g : Files) (p : Path) (q : Place) : Prop where
  walk : f.tree.walk (if p.isAbsolute then [] else f.current) p.parts = .ok q
  walk' : g.tree.walk (if p.isAbsolute then [] else g.current) p.parts = .ok q
  dir : f.tree.get? q = some .dir
  dir' : g.tree.get? q = some .dir
  low : level ≤ q.length

section Shared

variable {level : Nat} {f g : Files} {p c : Path} {q : Place} {name : String}

theorem Shared.place?_eq (h : Shared level f g p q) : g.place? p = f.place? p := by
  unfold Files.place?
  rw [h.walk, h.walk']

theorem Shared.of_place? (h : Shared level f g p q) {r : Place} (hr : g.place? p = .ok r) : r = q :=
  Except.ok.inj ((Files.walk_of_place? hr).symm.trans h.walk')

theorem Shared.walk_child (h : Shared level f g p q) (hn : name ≠ "..") :
    f.tree.walk (if p.isAbsolute then [] else f.current) (p.child name).parts =
        (if FileTree.nameLimit < name.utf8ByteSize then .error .nameTooLong else .ok (q ++ [name])) ∧
      g.tree.walk (if p.isAbsolute then [] else g.current) (p.child name).parts =
        (if FileTree.nameLimit < name.utf8ByteSize then .error .nameTooLong else .ok (q ++ [name])) := by
  rw [Path.child, FileTree.walk_append, FileTree.walk_append, h.walk, h.walk']
  simp [Except.bind, FileTree.walk, h.dir, h.dir', FileTree.enter, hn]

theorem mem_directories_of_shared (hg : g.Proper)
    (hd : ∀ r, level < r.length → (g.tree.get? r = some .dir ↔ f.tree.get? r = some .dir)) {fuel fuel' : Nat}
    (h : Shared level f g p q) (hf : depth f.tree ≤ fuel' + q.length) (hc : c ∈ directories g fuel p) :
    c ∈ directories f fuel' p ∧ (g.place? c = .error .nameTooLong → f.place? c = .error .nameTooLong) ∧
      ∀ r, g.place? c = .ok r → g.tree.get? r = some .dir := by
  have hself : p ∈ directories f fuel' p ∧ (g.place? p = .error .nameTooLong → f.place? p = .error .nameTooLong) ∧
      ∀ r, g.place? p = .ok r → g.tree.get? r = some .dir :=
    ⟨self_mem_directories f fuel' p, fun hp => h.place?_eq ▸ hp, fun r hr => h.of_place? hr ▸ h.dir'⟩
  induction fuel generalizing p q fuel' with
  | zero =>
    cases List.mem_singleton.mp hc
    exact hself
  | succ fuel ih =>
    rcases mem_directories_succ.mp hc with rfl | ⟨r, name, hr, hrd, hc⟩
    · exact hself
    · cases h.of_place? hr
      have hup : name ≠ ".." := by
        rintro rfl
        exact hg.names (q ++ [".."]) (by simp [hrd]) (by simp)
      have hfd : f.tree.get? (q ++ [name]) = some .dir :=
        (hd _ (by simpa using Nat.lt_succ_of_le h.low)).mp hrd
      have hdepth := length_le_depth (show f.tree.get? (q ++ [name]) ≠ none by simp [hfd])
      simp only [List.length_append, List.length_singleton] at hdepth
      obtain ⟨fuel', rfl⟩ := Nat.exists_eq_add_one_of_ne_zero (show fuel' ≠ 0 by omega)
      have hin : ∀ {c}, c ∈ directories f fuel' (p.child name) → c ∈ directories f (fuel' + 1) p := fun hm =>
        mem_directories_succ.mpr (.inr ⟨q, name, h.place?_eq ▸ hr, hfd, hm⟩)
      obtain ⟨hw, hw'⟩ := h.walk_child hup
      by_cases hl : FileTree.nameLimit < name.utf8ByteSize
      · rw [if_pos hl] at hw hw'
        have hlong : f.place? (p.child name) = .error .nameTooLong ∧ g.place? (p.child name) = .error .nameTooLong := by
          unfold Files.place?
          exact ⟨ite_eq_left_iff.mpr fun _ => hw, ite_eq_left_iff.mpr fun _ => hw'⟩
        cases eq_of_mem_directories hlong.2 hc
        exact ⟨hin (self_mem_directories f fuel' _), fun _ => hlong.1, fun r hr => by rw [hlong.2] at hr; cases hr⟩
      · rw [if_neg hl] at hw hw'
        have hchild : Shared level f g (p.child name) (q ++ [name]) :=
          ⟨hw, hw', hfd, hrd, by simpa using Nat.le_succ_of_le h.low⟩
        obtain ⟨hm, hrest⟩ := ih hchild (by simp only [List.length_append, List.length_singleton]; omega) hc
          ⟨self_mem_directories f fuel' _, fun hp => hchild.place?_eq ▸ hp, fun r hr => hchild.of_place? hr ▸ hrd⟩
        exact ⟨hin hm, hrest⟩

end Shared

end Glob

/-- That a file system takes a path for that of a file, if the directory of the file is there. -/
structure Path.Fits (p : Path) : Prop where
  zeroFree : Files.holdsZero p = false
  length : p.toString.utf8ByteSize ≤ FileTree.pathLimit
  name : p.name.utf8ByteSize ≤ FileTree.nameLimit

instance (p : Path) : Decidable p.Fits :=
  decidable_of_iff (Files.holdsZero p = false ∧ p.toString.utf8ByteSize ≤ FileTree.pathLimit ∧
    p.name.utf8ByteSize ≤ FileTree.nameLimit) ⟨fun ⟨hz, hl, hn⟩ => ⟨hz, hl, hn⟩, fun ⟨hz, hl, hn⟩ => ⟨hz, hl, hn⟩⟩

theorem Path.Fits.place? {f : Files} {p : Path} {name : String} (h : (p.child name).Fits) (hd : f.isDir p = .ok true) :
    f.place? (p.child name) = .ok (f.placeOf (p.child name)) := by
  have hl := h.length
  have hn := h.name
  rw [Path.name_child] at hn
  rw [Files.place?_child hd, if_neg (by omega)]

namespace Outputs

section Candidates

variable {o : Outputs} {dir : Path} {f g : Files}

/-- That pruning looks for files of a name. -/
def Selects (o : Outputs) (name : String) : Prop :=
  o.extension ≠ "*" ∧ NamePattern.accept ("*" ++ o.extension) name = true

theorem candidates_eq (hx : '/' ∉ o.extension.toList) (hd : f.isDir dir = .ok true) :
    o.candidates dir f =
      if o.extension = "*" then .ok ((Glob.directories f (Glob.depth f.tree + 1) dir).eraseDups.mergeSort pathOrder)
      else if Glob.hasTwoStars ("*" ++ o.extension).toList then .error (.pattern .starsInName)
      else .ok ((((f.tree.names (f.placeOf dir)).filter (NamePattern.accept ("*" ++ o.extension))).map
        dir.child).mergeSort pathOrder) := by
  rw [candidates, Glob.steps_of_slashFree hx]
  split
  · simp [Glob.paths_anyDepth hd, bind, Except.bind, pure, Except.pure]
  · split
    · rfl
    · simp [Glob.paths_pattern _ hd, bind, Except.bind, pure, Except.pure]

theorem candidates_isOk (hx : '/' ∉ o.extension.toList) (hd : f.isDir dir = .ok true) (hd' : g.isDir dir = .ok true)
    (h : ∃ e, o.candidates dir g = .error e) : ∃ e, o.candidates dir f = .error e := by
  rw [candidates_eq hx hd'] at h
  rw [candidates_eq hx hd]
  split at h
  · simp at h
  · next hstar =>
    split at h
    · next htwo => exact ⟨.pattern .starsInName, by rw [if_neg hstar, if_pos htwo]⟩
    · simp at h

theorem mem_candidates {found : List Path} {c : Path} (hx : '/' ∉ o.extension.toList) (hd : f.isDir dir = .ok true)
    (h : o.candidates dir f = .ok found) :
    c ∈ found ↔ if o.extension = "*" then c ∈ Glob.directories f (Glob.depth f.tree + 1) dir
      else ∃ name, o.Selects name ∧ f.tree.get? (f.placeOf dir ++ [name]) ≠ none ∧ c = dir.child name := by
  rw [candidates_eq hx hd] at h
  split at h
  · next hstar =>
    cases h
    rw [if_pos hstar, List.mem_mergeSort, List.mem_eraseDups]
  · next hstar =>
    split at h
    · cases h
    · cases h
      rw [if_neg hstar, List.mem_mergeSort, List.mem_map]
      simp only [List.mem_filter, FileTree.mem_names_iff, Selects, hstar, ne_eq, not_false_eq_true, true_and]
      constructor
      · rintro ⟨name, ⟨hn, ha⟩, rfl⟩
        exact ⟨name, ha, hn, rfl⟩
      · rintro ⟨name, ha, hn, rfl⟩
        exact ⟨name, ⟨hn, ha⟩, rfl⟩

theorem shared_of_isDir (hc : g.current = f.current) (hd : f.isDir dir = .ok true) (hd' : g.isDir dir = .ok true) :
    Glob.Shared (f.placeOf dir).length f g dir (f.placeOf dir) := by
  obtain ⟨-, q, hq, hqd⟩ := Files.isDir_eq_true.mp hd
  obtain ⟨-, q', hq', hqd'⟩ := Files.isDir_eq_true.mp hd'
  have hp := Files.placeOf_of_place? hq
  have hp' := (Files.placeOf_of_current hc dir).symm.trans (Files.placeOf_of_place? hq')
  refine ⟨?_, ?_, hp ▸ hqd, hp' ▸ hqd', Nat.le_refl _⟩
  · rw [hp]
    exact Files.walk_of_place? hq
  · rw [hp']
    exact Files.walk_of_place? hq'

/-- `g` is `f` without some files of selected names in a directory, none of them among those to keep. -/
structure Swept (o : Outputs) (dir : Path) (keep : List Path) (f g : Files) : Prop where
  dirs : f.SameDirs g
  entry : ∀ q, g.tree.get? q = f.tree.get? q ∨
    (g.tree.get? q = none ∧ (∃ b x, f.tree.get? q = some (.file b x)) ∧
      ∃ name, name ≠ ".." ∧ o.Selects name ∧ q = f.placeOf dir ++ [name] ∧ ∀ p ∈ keep, f.placeOf p ≠ q)

theorem Swept.refl (o : Outputs) (dir : Path) (keep : List Path) (f : Files) : o.Swept dir keep f f :=
  ⟨.refl f, fun _ => .inl rfl⟩

/-- `g` is `f` without the files of selected names in a directory, but for those to keep. -/
structure Weeded (o : Outputs) (dir : Path) (keep : List Path) (f g : Files) : Prop extends
    Swept o dir keep f g where
  gone : ∀ name, o.Selects name → (∀ p ∈ keep, f.placeOf p ≠ f.placeOf dir ++ [name]) →
    ∀ b x, g.tree.get? (f.placeOf dir ++ [name]) ≠ some (.file b x)

/-- That the pattern for outputs does not lead upwards: no entry is called by two dots, or they are not selected. -/
def Inward (o : Outputs) (f : Files) : Prop := f.Proper ∨ o.extension ≠ "*" ∧ ¬ o.Selects ".."

theorem Inward.ne_up {name : String} (h : o.Inward f) (hsel : o.Selects name)
    (hn : f.tree.get? (f.placeOf dir ++ [name]) ≠ none) : name ≠ ".." := by
  rintro rfl
  rcases h with hp | ⟨-, hup⟩
  · exact hp.names _ hn (by simp)
  · exact hup hsel

theorem weeded_of_cleared {keep found : List Path} (hx : '/' ∉ o.extension.toList) (hin : o.Inward f)
    (hd : f.isDir dir = .ok true) (hc : o.candidates dir f = .ok found)
    (hs : ∀ c ∈ found, ¬ Stuck (keep.map fun p => ⟨1, f.placeOf p⟩) f c)
    (h : Cleared (keep.map fun p => ⟨1, f.placeOf p⟩) found f g) : o.Weeded dir keep f g := by
  have hkept : ∀ q, ⟨1, q⟩ ∉ keep.map (fun p => (⟨1, f.placeOf p⟩ : Path)) ↔ ∀ p ∈ keep, f.placeOf p ≠ q := by
    intro q
    simp
  refine ⟨⟨h.dirs, fun q => ?_⟩, fun name hsel hk b x hb => ?_⟩
  · refine (h.entry q).imp_right fun ⟨hn, hfile, hk, c, hm, hq⟩ => ⟨hn, hfile, ?_⟩
    rw [mem_candidates hx hd hc] at hm
    split at hm
    · next hstar =>
      have hp : f.Proper := hin.resolve_right fun h => h.1 hstar
      obtain ⟨-, -, hdir⟩ := Glob.mem_directories_of_shared hp (fun _ _ => Iff.rfl) (shared_of_isDir rfl hd hd)
        (Nat.le_add_right _ _) hm
      obtain ⟨b, x, hb⟩ := hfile
      cases (hdir q hq).symm.trans hb
    · obtain ⟨name, hsel, hne, rfl⟩ := hm
      have hup := hin.ne_up hsel hne
      exact ⟨name, hup, hsel, (Files.placeOf_of_place? hq).symm.trans (Files.placeOf_child f dir hup), (hkept q).mp hk⟩
  · have hf : f.tree.get? (f.placeOf dir ++ [name]) = some (.file b x) := by
      rcases h.entry (f.placeOf dir ++ [name]) with he | ⟨hn, -⟩
      · rw [← he, hb]
      · cases hn.symm.trans hb
    have hne : f.tree.get? (f.placeOf dir ++ [name]) ≠ none := by simp [hf]
    have hm : dir.child name ∈ found := by
      rw [mem_candidates hx hd hc, if_neg hsel.1]
      exact ⟨name, hsel, hne, rfl⟩
    have hplace : f.placeOf (dir.child name) = f.placeOf dir ++ [name] := Files.placeOf_child f dir (hin.ne_up hsel hne)
    have hlong : f.place? (dir.child name) ≠ .error .nameTooLong := fun hl =>
      hs _ hm (.inr ⟨(hkept _).mpr (hplace ▸ hk), hl⟩)
    refine h.gone _ hm _ ?_ ((hkept _).mpr hk) b x hb
    rw [Files.place?_child hd, if_neg (mt (Files.place?_child_eq_error hd).mpr hlong), hplace]

theorem weeded_of_pruneStale {keep removed : List Path} {told : List Record} (hx : '/' ∉ o.extension.toList)
    (hin : o.Inward f) (hd : f.isDir dir = .ok true) (h : o.pruneStale dir keep f = (g, told, .ok removed)) :
    o.Weeded dir keep f g := by
  have hr : (o.pruneStale dir keep f).2.2 = .ok removed := by rw [h]
  obtain ⟨found, told', hf, ha⟩ := pruneAll_of_pruneStale hr
  rw [h] at ha
  refine weeded_of_cleared hx hin hd hf (fun c hm hst => ?_) (cleared_of_pruneAll ha)
  exact (pruneStale_isOk_iff o dir keep f).mp ⟨removed, hr⟩ (.inr (.inr ⟨found, hf, c, hm, hst⟩))

theorem selects_cstxt (he : o.extension = ".cstxt") {name : String} (h : ".cstxt".toList <:+ name.toList) :
    o.Selects name := by
  refine ⟨by simp [he], ?_⟩
  rw [he]
  exact (NamePattern.accept_star_of_plain (by decide)).mpr h

theorem inward_cstxt (he : o.extension = ".cstxt") (f : Files) : o.Inward f := by
  refine .inr ⟨by simp [he], fun h => ?_⟩
  have ha := h.2
  rw [he] at ha
  exact absurd ((NamePattern.accept_star_of_plain (by decide)).mp ha) (by decide)

theorem pruneStale_isOk_of_shared {keep : List Path} (hx : '/' ∉ o.extension.toList) (hp : g.Proper)
    (hc : g.current = f.current) (hd : f.isDir dir = .ok true) (hd' : g.isDir dir = .ok true)
    (hdirs : ∀ r, (f.placeOf dir).length < r.length → (g.tree.get? r = some .dir ↔ f.tree.get? r = some .dir))
    (hnew : ∀ name, f.tree.get? (f.placeOf dir ++ [name]) = none → g.tree.get? (f.placeOf dir ++ [name]) ≠ none →
      (dir.child name).Fits)
    (h : ∃ removed, (o.pruneStale dir keep f).2.2 = .ok removed) :
    ∃ removed, (o.pruneStale dir keep g).2.2 = .ok removed := by
  rw [pruneStale_isOk_iff, Unprunable] at h ⊢
  simp only [not_or] at h ⊢
  obtain ⟨hz, hcand, hstuck⟩ := h
  refine ⟨hz, fun he => hcand (candidates_isOk hx hd hd' he), ?_⟩
  rintro ⟨found', hf', c, hm, hs⟩
  cases hf : o.candidates dir f with
  | error e => exact hcand ⟨e, hf⟩
  | ok found =>
    have hfree : ∀ c ∈ found, (g.place? c = .error .nameTooLong → f.place? c = .error .nameTooLong) →
        ¬ Stuck (keep.map fun p => ⟨1, g.placeOf p⟩) g c := by
      intro c hm hl hs
      refine hstuck ⟨found, hf, c, hm, ?_⟩
      unfold Stuck at hs ⊢
      simp only [Files.placeOf_of_current hc] at hs
      exact hs.imp_right fun hs => ⟨hs.1, hl hs.2⟩
    rw [mem_candidates hx hd' hf'] at hm
    split at hm
    · next hstar =>
      have hdepth : Glob.depth f.tree ≤ Glob.depth f.tree + 1 + (f.placeOf dir).length := by omega
      obtain ⟨hm', hl, -⟩ := Glob.mem_directories_of_shared hp hdirs (shared_of_isDir hc hd hd') hdepth hm
      exact hfree c ((mem_candidates hx hd hf).mpr (by rwa [if_pos hstar])) hl hs
    · next hstar =>
      obtain ⟨name, hsel, hne, rfl⟩ := hm
      rw [Files.placeOf_of_current hc] at hne
      by_cases hfn : f.tree.get? (f.placeOf dir ++ [name]) = none
      · have hfit := hnew name hfn hne
        rcases hs with hz' | ⟨-, hl⟩
        · cases hfit.zeroFree.symm.trans hz'
        · cases (hfit.place? hd').symm.trans hl
      · refine hfree _ ((mem_candidates hx hd hf).mpr ?_) (fun hl => ?_) hs
        · rw [if_neg hstar]
          exact ⟨name, hsel, hfn, rfl⟩
        · exact (Files.place?_child_eq_error hd).mpr ((Files.place?_child_eq_error hd').mp hl)

end Candidates

end Outputs

end Winnow
