import Winnow.Proofs.Confinement
import Winnow.Proofs.RulesInForce
import Winnow.Proofs.SettingsParts

/-!
What can be relied on in settings. Whatever a settings file says, and whatever the command line says after it: the
directories are paths from the root that hold neither dots nor two dots, the extension begins with a dot, there are an
executable and a pattern for modules, and every pattern for type names can be read. And it does not matter from which
directory the file is read.
-/
set_option autoImplicit false

namespace Winnow

namespace Path

def Written (p : Path) : Prop := ∀ part ∈ p.parts, isPart part = true ∧ '/' ∉ part.toList

theorem slash_not_mem_of_mem_splitSlashes {cs piece : List Char} (h : piece ∈ splitSlashes cs) : '/' ∉ piece := by
  induction cs generalizing piece with
  | nil =>
    obtain rfl := List.mem_singleton.mp h
    exact List.not_mem_nil
  | cons c cs ih =>
    obtain ⟨first, others, hsplit⟩ := exists_splitSlashes cs
    rw [hsplit] at ih
    by_cases hc : c = '/'
    · simp only [splitSlashes, hc, if_true, hsplit, List.mem_cons] at h
      obtain rfl | h := h
      · exact List.not_mem_nil
      · exact ih (List.mem_cons.mpr h)
    · simp only [splitSlashes, hc, if_false, hsplit, List.mem_cons] at h
      obtain rfl | h := h
      · simpa [Ne.symm hc] using ih List.mem_cons_self
      · exact ih (List.mem_cons_of_mem _ h)

theorem written_ofString (text : String) : (ofString text).Written := by
  intro part hpart
  obtain ⟨hmem, hp⟩ := List.mem_filter.mp hpart
  obtain ⟨piece, hpiece, rfl⟩ := List.mem_map.mp hmem
  refine ⟨hp, ?_⟩
  rw [String.toList_ofList]
  exact slash_not_mem_of_mem_splitSlashes hpiece

/-- That a path leads from the root through names of entries alone. -/
structure Settled (p : Path) : Prop where
  slashes : p.slashes = 1
  names : ∀ part ∈ p.parts, IsName part

theorem Settled.written {p : Path} (h : p.Settled) : p.Written := fun part hpart =>
  ⟨(h.names part hpart).part, (h.names part hpart).slashFree⟩

theorem Settled.isAbsolute {p : Path} (h : p.Settled) : p.isAbsolute = true := by simp [Path.isAbsolute, h.slashes]

theorem Settled.parent {p : Path} (h : p.Settled) : p.parent.Settled :=
  ⟨h.slashes, fun part hpart => h.names part (List.dropLast_subset _ hpart)⟩

theorem Settled.child {p : Path} (h : p.Settled) {name : String} (hn : IsName name) : (p.child name).Settled := by
  refine ⟨h.slashes, fun part hpart => ?_⟩
  obtain hpart | hpart := List.mem_append.mp hpart
  · exact h.names part hpart
  · exact List.mem_singleton.mp hpart ▸ hn

theorem Written.join {p q : Path} (hp : p.Written) (hq : q.Written) : (p.join q).Written := by
  unfold Path.join
  split
  · exact hq
  · intro part hpart
    exact (List.mem_append.mp hpart).elim (hp part) (hq part)

end Path

theorem FileTree.isName_foldl_enter {parts : List String} {place : Place} (hplace : ∀ n ∈ place, Path.IsName n)
    (hparts : ∀ part ∈ parts, Path.isPart part = true ∧ '/' ∉ part.toList) :
    ∀ n ∈ parts.foldl FileTree.enter place, Path.IsName n := by
  induction parts generalizing place with
  | nil => exact hplace
  | cons part rest ih =>
    obtain ⟨hpart, hrest⟩ := List.forall_mem_cons.mp hparts
    refine ih (fun n hn => ?_) hrest
    unfold FileTree.enter at hn
    split at hn
    · exact hplace n (List.dropLast_subset _ hn)
    · next hup =>
      obtain hn | hn := List.mem_append.mp hn
      · exact hplace n hn
      · exact List.mem_singleton.mp hn ▸ ⟨hpart.1, by simpa using hup, hpart.2⟩

/-- That home directories are paths that a text can write, and that names lead to the current directory. -/
structure Site.Ordinary (site : Site) : Prop where
  current : ∀ name ∈ site.files.current, Path.IsName name
  own : site.homes.own.Written
  others : ∀ home ∈ site.homes.others, home.2.Written

namespace Site.Ordinary
variable {site : Site} {p q : Path}

theorem settled_resolve (h : site.Ordinary) (hp : p.Written) (hq : site.files.resolve p = .ok q) : q.Settled := by
  unfold Files.resolve at hq
  split at hq
  · cases hq
  · cases hq
    refine ⟨rfl, FileTree.isName_foldl_enter ?_ hp⟩
    split
    · exact nofun
    · exact h.current

theorem written_of (h : site.Ordinary) {user : String} (hq : site.homes.of user = .ok q) : q.Written := by
  unfold Homes.of at hq
  split at hq
  · exact Except.ok.inj hq ▸ h.own
  · split at hq
    · cases hq
    · split at hq
      · next home hhome =>
        obtain ⟨before, after, hothers, -⟩ := List.lookup_eq_some_iff.mp hhome
        exact Except.ok.inj hq ▸ h.others (user, home) (by simp [hothers])
      · cases hq

theorem written_expand (h : site.Ordinary) (hp : p.Written) (hq : site.homes.expand p = .ok q) : q.Written := by
  unfold Homes.expand at hq
  split at hq
  · next first rest hslashes hparts =>
    split at hq
    · obtain ⟨home, hhome, hq⟩ := exists_of_bind hq
      cases hq
      intro part hpart
      obtain hpart | hpart := List.mem_append.mp hpart
      · exact h.written_of hhome part hpart
      · exact hp part (hparts ▸ List.mem_cons_of_mem first hpart)
    · exact Except.ok.inj hq ▸ hp
  · exact Except.ok.inj hq ▸ hp

theorem settled_locate (h : site.Ordinary) (hp : p.Written) (hq : site.locate p = .ok q) : q.Settled := by
  obtain ⟨expanded, hexpand, hq⟩ := exists_of_bind hq
  exact h.settled_resolve (h.written_expand hp (ok_of_mapError hexpand)) (ok_of_mapError hq)

end Site.Ordinary

structure Overrides.Written (o : Overrides) : Prop where
  sourceDir : ∀ p ∈ o.sourceDir, p.Written
  outputDir : ∀ p ∈ o.outputDir, p.Written

namespace Settings
open Text Yaml

variable {site : Site} {root path p : Path} {entries : List (Value × Value)}

theorem settled_place (h : site.Ordinary) (hroot : root.Settled) {text : String} (hp : place site root text = .ok p) :
    p.Settled := by
  obtain ⟨expanded, hexpand, hp⟩ := exists_of_bind hp
  have hwritten := h.written_expand (Path.written_ofString text) (ok_of_mapError hexpand)
  exact h.settled_resolve (hroot.written.join hwritten) (ok_of_mapError hp)

theorem settled_pathOf (h : site.Ordinary) (hroot : root.Settled) {t : CodeText} (hp : pathOf site root t = .ok p) :
    p.Settled := by
  unfold pathOf at hp
  cases hn : t.unnameable? with
  | none =>
    rw [hn] at hp
    exact settled_place h hroot hp
  | some i =>
    rw [hn] at hp
    dsimp only at hp
    split at hp
    · cases hp
    · obtain ⟨dir, -, hp⟩ := exists_of_bind hp
      cases hp

theorem settled_path? (h : site.Ordinary) (hroot : root.Settled) {v : Option Value}
    (hp : path? site root v = .ok (some p)) : p.Settled := by
  obtain ⟨t, -, hp⟩ := exists_of_bind hp
  cases t with
  | none => cases hp
  | some t =>
    obtain ⟨q, hq, hp⟩ := exists_of_bind hp
    cases hp
    exact settled_pathOf h hroot hq

/-- That settings have what the rest of a run relies on. -/
structure WellFormed (s : Settings) : Prop where
  root : s.root.Settled
  sourceDir : s.sourceDir.Settled
  outputDir : s.outputDir.Settled
  referencePaths : ∀ p ∈ s.engine.referencePaths, p.Settled
  extension : s.output.extension.toList.head? = some '.'
  executable : s.engine.executable ≠ ""
  modulePatterns : s.modulePatterns ≠ []
  extraPatterns : ∀ t ∈ s.classifier.extraPatterns, ∃ p, Pattern.read t = .ok p

theorem wellFormed_default (h : root.Settled) : WellFormed (default root) where
  root := h
  sourceDir := by
    rw [default, Path.join_ofString (by decide)]
    exact h.child (by decide)
  outputDir := by
    have houtput : Path.ofString ".knowledge/Decompiled" = ⟨0, [".knowledge", "Decompiled"]⟩ := by decide +kernel
    have hjoin : (default root).outputDir = (root.child ".knowledge").child "Decompiled" := by
      simp [default, houtput, Path.join, Path.isAbsolute, Path.child]
    rw [hjoin]
    exact (h.child (by decide)).child (by decide)
  referencePaths := nofun
  extension := by simp [default]
  executable := by simp [default]
  modulePatterns := nofun
  extraPatterns := nofun

theorem head?_dotted (extension : String) : (dotted extension).toList.head? = some '.' := by
  unfold dotted
  split
  · next h => exact eq_of_beq h
  · rw [String.toList_append]
    rfl

theorem display_ne_of_filledText? {v : Option Value} {t : CodeText} (h : filledText? v = .ok (some t)) :
    t.display ≠ "" := by
  obtain ⟨r, -, hr⟩ := exists_of_bind h
  have hfilled : t ≠ [] := by simpa using (Option.filter_eq_some_iff.mp (Except.ok.inj hr)).2
  simpa [CodeText.display] using hfilled

theorem exists_read_of_checkPatterns {patterns : List CodeText} (h : checkPatterns patterns = .ok ()) :
    ∀ t ∈ patterns, ∃ p, Pattern.read t = .ok p := by
  intro t ht
  rw [checkPatterns_eq] at h
  split at h
  · next hnone =>
    have hgood := List.findSome?_eq_none_iff.mp hnone t ht
    split at hgood
    · next p hp => exact ⟨p, hp⟩
    · cases hgood
  · cases h

theorem wellFormed_ofEntries (h : site.Ordinary) (hroot : root.Settled) {s : Settings}
    (hs : ofEntries site root entries = .ok s) : WellFormed s := by
  have hparts := parts hs
  have husual := wellFormed_default hroot
  refine ⟨hparts.root ▸ hroot, ?_, ?_, ?_, ?_, ?_, ?_, exists_read_of_checkPatterns hparts.classifier.checked⟩
  · obtain ⟨source, hsource, hs⟩ := hparts.sourceDir
    rw [hs]
    cases source with
    | none => exact husual.sourceDir
    | some p => exact settled_path? h hroot hsource
  · obtain ⟨output, houtput, hs⟩ := hparts.outputDir
    rw [hs]
    cases output with
    | none => exact husual.outputDir
    | some p => exact settled_path? h hroot houtput
  · obtain ⟨ts, -, hpaths⟩ := hparts.engine.referencePaths
    intro p hp
    obtain ⟨t, -, ht⟩ := (mem_of_mapM hpaths).mp hp
    exact settled_pathOf h hroot ht
  · obtain ⟨t, -, hs⟩ := hparts.output.extension
    rw [hs]
    exact head?_dotted _
  · obtain ⟨t, ht, hs⟩ := hparts.engine.executable
    rw [hs]
    cases t with
    | none => decide
    | some t => exact display_ne_of_filledText? ht
  · obtain ⟨ps, -, hs⟩ := hparts.modulePatterns
    rw [hs]
    split
    · simp
    · next hne => simpa using hne

theorem settled_of_locate (h : site.Ordinary) (hpath : path.Written) {file : Path}
    (hfile : Settings.locate site path = .ok file) : file.Settled := by
  obtain ⟨expanded, hexpand, hfile⟩ := exists_of_bind hfile
  have hexpanded := h.written_expand hpath (ok_of_mapError hexpand)
  obtain ⟨isDir, -, hfile⟩ := exists_of_bind hfile
  refine h.settled_resolve ?_ (ok_of_mapError hfile)
  split
  · exact hexpanded.join (Path.written_ofString fileName)
  · exact hexpanded

theorem wellFormed_load (h : site.Ordinary) (hpath : path.Written) {s : Settings} (hs : load site path = .ok s) :
    WellFormed s := by
  obtain ⟨file, hfile, hs⟩ := exists_of_bind hs
  have hroot := (settled_of_locate h hpath hfile).parent
  obtain ⟨isThere, -, hs⟩ := exists_of_bind hs
  cases isThere with
  | false =>
    cases hs
    exact wellFormed_default hroot
  | true =>
    obtain ⟨bytes, -, hs⟩ := exists_of_bind hs
    obtain ⟨entries, -, hs⟩ := exists_of_bind hs
    exact wellFormed_ofEntries h hroot hs

theorem settled_of_override (h : site.Ordinary) {given : Option Path} (hgiven : ∀ p ∈ given, p.Written)
    {placed : Option Path}
    (hplaced : given.mapM (fun p => (site.locate p).mapError SettingsError.ofSite) = .ok placed) {usual : Path}
    (husual : usual.Settled) : (placed.getD usual).Settled := by
  cases given with
  | none =>
    cases hplaced
    exact husual
  | some p =>
    obtain ⟨q, hq, hplaced⟩ := exists_of_bind hplaced
    cases hplaced
    exact h.settled_locate (hgiven p rfl) (ok_of_mapError hq)

theorem WellFormed.override {s t : Settings} (hs : WellFormed s) (h : site.Ordinary) {o : Overrides} (ho : o.Written)
    (ht : s.override site o = .ok t) : WellFormed t := by
  obtain ⟨source, hsource, ht⟩ := exists_of_bind ht
  obtain ⟨output, houtput, ht⟩ := exists_of_bind ht
  cases ht
  exact { hs with
    sourceDir := settled_of_override h ho.sourceDir hsource hs.sourceDir
    outputDir := settled_of_override h ho.outputDir houtput hs.outputDir }

/-- The settings after several overrides, each made where the program is at that time. -/
def overrideAll (s : Settings) (steps : List (Site × Overrides)) : Except SettingsError Settings :=
  steps.foldlM (fun s step => s.override step.1 step.2) s

theorem WellFormed.overrideAll {s t : Settings} (hs : WellFormed s) {steps : List (Site × Overrides)}
    (hsteps : ∀ step ∈ steps, step.1.Ordinary ∧ step.2.Written) (ht : s.overrideAll steps = .ok t) :
    WellFormed t := by
  induction steps generalizing s with
  | nil =>
    cases ht
    exact hs
  | cons step rest ih =>
    obtain ⟨hstep, hrest⟩ := List.forall_mem_cons.mp hsteps
    obtain ⟨next, hnext, ht⟩ := exists_of_bind ht
    exact ih (hs.override hstep.1 hstep.2 hnext) hrest ht

theorem exists_patternRules {sources : List CodeText} (h : ∀ t ∈ sources, ∃ p, Pattern.read t = .ok p)
    (index : Nat) : ∃ rules, RuleSet.patternRules index sources = .ok rules := by
  induction sources generalizing index with
  | nil => exact ⟨[], rfl⟩
  | cons t rest ih =>
    obtain ⟨⟨p, hp⟩, hrest⟩ := List.forall_mem_cons.mp h
    obtain ⟨rules, hrules⟩ := ih hrest (index + 1)
    simp only [RuleSet.patternRules, hp, hrules]
    exact ⟨_, rfl⟩

theorem WellFormed.discover_eq_error {s : Settings} (hs : WellFormed s) {e : RuleSetError}
    (he : RuleSet.discover s.classifier [] = .error e) : ∃ names, names ≠ [] ∧ e = .unknownDisabled names := by
  obtain ⟨rules, hrules⟩ := exists_patternRules hs.extraPatterns 1
  have hcandidates : RuleSet.candidates s.classifier [] =
      .ok (Rule.builtins s.classifier.extraPrefixes ++ rules ++ []) := by
    unfold RuleSet.candidates
    rw [hrules]
    rfl
  rw [RuleSet.discover_of_candidates hcandidates] at he
  split at he
  · cases he
  · next hunknown => exact ⟨_, hunknown, (Except.error.inj he).symm⟩

theorem isAbsolute_join (hroot : root.isAbsolute = true) (p : Path) : (root.join p).isAbsolute = true := by
  unfold Path.join
  split
  · assumption
  · exact hroot

theorem isAbsolute_of_resolve {f : Files} {q : Path} (h : f.resolve p = .ok q) : q.isAbsolute = true := by
  unfold Files.resolve at h
  split at h
  · cases h
  · cases h
    rfl

theorem expand_of_isAbsolute (homes : Homes) (hp : p.isAbsolute = true) : homes.expand p = .ok p := by
  unfold Homes.expand
  split
  · next hslashes _ => simp [Path.isAbsolute, hslashes] at hp
  · rfl

/-! Where the program is run does not matter for a path from the root. -/

section Elsewhere
variable {f g : Files} {site' : Site}

theorem stat_elsewhere (htree : g.tree = f.tree) (hp : p.isAbsolute = true) : g.stat p = f.stat p := by
  simp [Files.stat, Files.place?, htree, hp]

theorem look_elsewhere (htree : g.tree = f.tree) (hp : p.isAbsolute = true) : g.look p = f.look p := by
  simp [Files.look, stat_elsewhere htree hp]

theorem readFile_elsewhere (htree : g.tree = f.tree) (hp : p.isAbsolute = true) : g.readFile p = f.readFile p := by
  simp [Files.readFile, stat_elsewhere htree hp]

theorem resolve_elsewhere (hp : p.isAbsolute = true) : g.resolve p = f.resolve p := by
  simp [Files.resolve, hp]

theorem locate_elsewhere (htree : site'.files.tree = site.files.tree) (hpath : path.isAbsolute = true) :
    locate site' path = locate site path := by
  have hplace (isDir : Bool) : (if isDir = true then path.join (.ofString fileName) else path).isAbsolute = true := by
    cases isDir with
    | true => simpa using isAbsolute_join hpath _
    | false => exact hpath
  simp only [locate, expand_of_isAbsolute _ hpath, mapError_ok, bind, Except.bind, Files.isDir,
    look_elsewhere htree hpath, resolve_elsewhere (g := site'.files) (f := site.files) (hplace _)]

theorem load_elsewhere (hhomes : site'.homes = site.homes) (htree : site'.files.tree = site.files.tree)
    (hpath : path.isAbsolute = true) : load site' path = load site path := by
  unfold load
  rw [locate_elsewhere htree hpath]
  cases hfile : locate site path with
  | error e => simp only [error_bind]
  | ok file =>
    have habsolute : file.isAbsolute = true := by
      obtain ⟨expanded, -, hfile⟩ := exists_of_bind hfile
      obtain ⟨isDir, -, hfile⟩ := exists_of_bind hfile
      exact isAbsolute_of_resolve (ok_of_mapError hfile)
    have hparent : file.parent.isAbsolute = true := habsolute
    have hplace (text : String) : place site' file.parent text = place site file.parent text := by
      have hresolve (q : Path) : site'.files.resolve (file.parent.join q) = site.files.resolve (file.parent.join q) :=
        resolve_elsewhere (isAbsolute_join hparent q)
      simp only [place, hhomes, hresolve]
    simp only [ok_bind, Files.isThere, look_elsewhere htree habsolute, readFile_elsewhere htree habsolute,
      ofEntries_of_place hplace]

end Elsewhere

/-- For every settings file and whatever overrides come after it: the settings are well formed, only a disabled name
that no rule has can be wrong with the rules they make, and if the file's path begins at the root then it does not
matter from which directory it is read. -/
theorem load_settled {path : Path} {s t : Settings} {steps : List (Site × Overrides)} (hsite : site.Ordinary)
    (hpath : path.Written) (hsteps : ∀ step ∈ steps, step.1.Ordinary ∧ step.2.Written)
    (hs : load site path = .ok s) (ht : s.overrideAll steps = .ok t) :
    WellFormed t ∧
      (∀ e, RuleSet.discover t.classifier [] = .error e → ∃ names, names ≠ [] ∧ e = .unknownDisabled names) ∧
      (path.isAbsolute = true → ∀ current, load ⟨{ site.files with current }, site.homes⟩ path = .ok s) := by
  have hwellFormed := (wellFormed_load hsite hpath hs).overrideAll hsteps ht
  refine ⟨hwellFormed, fun e => hwellFormed.discover_eq_error, fun habsolute current => ?_⟩
  have helsewhere : load ⟨{ site.files with current }, site.homes⟩ path = load site path :=
    load_elsewhere rfl rfl habsolute
  rw [helsewhere, hs]

theorem noted_ordinary (text : String) : (noted text).Ordinary :=
  ⟨nofun, by simp [Path.Written, noted, Path.isPart], nofun⟩

theorem load_settled_upwards : ∃ s t, load (noted "source_dir: ..\n") ⟨1, []⟩ = .ok s ∧
    s.overrideAll [(noted "", { outputDir := some ⟨0, ["..", "out"]⟩ })] = .ok t ∧ WellFormed t := by
  have hentries : readEntries ".typesift.yml" "source_dir: ..\n".toByteArray =
      .ok [(.scalar (.text (.ofString "source_dir")), .scalar (.text (.ofString "..")))] :=
    eq_of_holdsOnly (by decide +kernel)
  have hload := load_noted hentries
  obtain ⟨s, hs⟩ := exists_of_isOk (x := ofEntries (noted "source_dir: ..\n") ⟨1, []⟩
    [(.scalar (.text (.ofString "source_dir")), .scalar (.text (.ofString "..")))]) (by decide +kernel)
  have hlocate : (noted "").locate ⟨0, ["..", "out"]⟩ = .ok ⟨1, ["out"]⟩ := by decide +kernel
  obtain ⟨t, ht⟩ : ∃ t, s.overrideAll [(noted "", { outputDir := some ⟨0, ["..", "out"]⟩ })] = .ok t := by
    simp only [overrideAll, List.foldlM_cons, List.foldlM_nil, override, Option.mapM_some, hlocate]
    exact ⟨_, rfl⟩
  have hoverride : ({ outputDir := some ⟨0, ["..", "out"]⟩ } : Overrides).Written :=
    ⟨by simp, by simp [Path.Written, Path.isPart]⟩
  have hsteps : ∀ step ∈ [(noted "", ({ outputDir := some ⟨0, ["..", "out"]⟩ } : Overrides))],
      step.1.Ordinary ∧ step.2.Written := by
    simpa using ⟨noted_ordinary "", hoverride⟩
  have hpath : (⟨1, []⟩ : Path).Written := by simp [Path.Written]
  exact ⟨s, t, hload.trans hs, ht, (load_settled (noted_ordinary _) hpath hsteps (hload.trans hs) ht).1⟩

end Settings

end Winnow
