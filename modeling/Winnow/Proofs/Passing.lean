import Winnow.Proofs.Confinement
import Winnow.Proofs.ModuleSearch

/-!
What a run changes on its way. At the turn of a module or of a type, while a type is written, while outputs are
removed, and at the end, files have changed nowhere but directly in the directories of important modules.
-/
set_option autoImplicit false

namespace Winnow
open Text

namespace Outputs

/-- The files while something is written to `p`: with its staging file opened, with this filled, and once it has been
moved or what is left of it is about to be removed. -/
inductive Midway (p : Path) (f : Files) : Decompiled → Files → Prop
  | opened {t : CodeText} {g : Files} {q : Place} (ho : f.openNew (stagingPath p) = .ok (g, q)) :
      Midway p f (.text t) g
  | filled {t : CodeText} {s : String} {g : Files} {q : Place} (ho : f.openNew (stagingPath p) = .ok (g, q))
      (hs : t.toString? = .ok s) : Midway p f (.text t) (g.fill q s.toUTF8)
  | staged {value : Decompiled} : Midway p f value (stage p value f).1

theorem staged_of_openNew {f g : Files} {p : Path} {q : Place} (h : f.openNew (stagingPath p) = .ok (g, q)) :
    Staged f p g ∧ ∀ bytes, Staged f p (g.fill q bytes) := by
  obtain ⟨hq, hd, x, rfl⟩ := Files.openNew_eq_ok h
  have hne : q ≠ [] := by
    rintro rfl
    simp at hd
  have hopened := (Staged.refl f p).put hq hd .empty x
  refine ⟨hopened, fun bytes => ?_⟩
  rw [Files.fill_put f .empty bytes x hne]
  exact hopened.put hq hd bytes x

/-- However far a write comes, it reaches the file and its staging file at most. -/
theorem Midway.confined {root : Path} {names : String → Prop} {f g : Files} {n x : String} {value : Decompiled}
    (hn : names n) (hup : n ≠ "..") (hx : Path.IsName x) (h : Midway ((root.child n).child x) f value g) :
    f.Confined root names g := by
  cases h with
  | opened ho => exact (staged_of_openNew ho).1.within.confined hn hup hx
  | filled ho hs => exact ((staged_of_openNew ho).2 _).within.confined hn hup hx
  | staged =>
    have hname : ((root.child n).child x).name ≠ "" := by
      rw [Path.name_child]
      rintro rfl
      exact absurd hx.part (by decide)
    cases hs : stage ((root.child n).child x) value f with
    | mk k result =>
      cases result with
      | error e => exact (stage_eq_error hs).within.confined hn hup hx
      | ok u =>
        obtain ⟨t, s, -, -, hw⟩ := stage_eq_ok hname hs
        exact (hw.touched trivial).within.confined hn hup hx

end Outputs

namespace Progress

variable {plan : Plan} {module dir : Path}

theorem processTypes_of_mem_turns {types : List TypeDescriptor} {p q : Progress} {d : TypeDescriptor}
    (h : (d, q) ∈ turns plan module dir types p) :
    ∃ done, done ++ [d] <+: types ∧ processTypes plan module dir done p = (q, .ok ()) := by
  induction types generalizing p with
  | nil => simp [turns] at h
  | cons e rest ih =>
    rw [turns] at h
    rcases List.mem_cons.mp h with heq | h
    · cases heq
      exact ⟨[], by simp, rfl⟩
    · rcases he : processType plan module dir p e with ⟨r, result⟩
      rw [he] at h
      cases result with
      | error x => cases h
      | ok result =>
        obtain ⟨done, hdone, hq⟩ := ih h
        refine ⟨e :: done, (List.prefix_cons_inj e).mpr hdone, ?_⟩
        rw [processTypes_cons, he]
        exact hq

theorem target?_of_attempt? {p : Progress} {d : TypeDescriptor} {path : Path}
    (h : p.attempt? plan module dir d = some path) :
    d.name ≠ "" ∧ ∃ renamed, p.target? dir d = some (path, renamed) := by
  have hs := processType_step plan module dir p d
  rw [h] at hs
  generalize (processType plan module dir p d).1 = q at hs
  generalize (processType plan module dir p d).2 = result at hs
  cases hs with
  | unwritten path renamed value files e reason hn hm ht ha hw he => exact ⟨hn, renamed, ht⟩
  | unwritable path renamed value files e fault hn hm ht ha hw he => exact ⟨hn, renamed, ht⟩
  | written path renamed value files hn hm ht ha hw => exact ⟨hn, renamed, ht⟩

end Progress

namespace Work

variable {plan : Plan} {given : Option (List ModuleFile)} {w : Work} {names : String → Prop}

/-- The important ones of the modules that are found have proper names: they are named after files that were there
before the root directory was made. -/
theorem isName_of_modulesOf {modules : List ModuleFile} (ht : w.files.tree.WellNamed)
    (hp : ∀ p ∈ plan.importantPrefixes, p.toList.head? ≠ some '.')
    (h : (w.rooted plan).modulesOf plan none = .ok modules) :
    ∀ m ∈ modules, Importance.isImportant plan.importantPrefixes m.baseName = true → Path.IsName m.baseName := by
  intro m hm hi
  have hscan : ModuleScan.list ⟨(w.rooted plan).files, plan.homes⟩ plan.modulePatterns plan.sourceDir =
      .ok modules := by
    unfold modulesOf at h
    cases hs : ModuleScan.list ⟨(w.rooted plan).files, plan.homes⟩ plan.modulePatterns plan.sourceDir with
    | error e => simp [hs] at h
    | ok found =>
      simp only [hs] at h
      exact congrArg Except.ok (Except.ok.inj h)
  obtain ⟨dir, name, hbase, hfile⟩ := ModuleScan.file_of_list hscan m hm
  have hup : name ≠ ".." := by
    rintro rfl
    rw [hbase] at hi
    exact (Importance.head?_of_isImportant hp hi).2 (by decide)
  obtain ⟨bytes, executable, hfile⟩ := hfile hup
  have hgrown : w.files.Grown w.outputs.root (w.rooted plan).files := w.outputs.ensureRoot_grown w.files
  have hthere : w.files.tree.get? (dir ++ [name]) ≠ none := by
    rcases hgrown.entry (dir ++ [name]) with he | ⟨-, hd, -⟩
    · rw [← he, hfile]
      simp
    · cases hfile.symm.trans hd
  have hname : Path.IsName name := ht.names hthere name (by simp)
  rw [hbase] at hi ⊢
  exact Importance.isName_of_isImportant hp (Path.slash_not_mem_stemOf hname.slashFree) hi

theorem files_of_run (plan : Plan) (given : Option (List ModuleFile)) (w : Work) :
    (w.run plan given).1.files =
      match (w.outputs.ensureRoot w.files).2, (w.rooted plan).modulesOf plan given with
      | .ok _, .ok modules => ((w.rooted plan).processModules plan modules).1.files
      | _, _ => (w.rooted plan).files := by
  rw [run_eq]
  cases (w.outputs.ensureRoot w.files).2 with
  | error e => rfl
  | ok root =>
    cases (w.rooted plan).modulesOf plan given with
    | error e => rfl
    | ok modules => exact concluded_files _

theorem processModules_of_mem_turns {modules : List ModuleFile} {v : Work} {m : ModuleFile}
    (h : (m, v) ∈ w.turns plan modules) :
    ∃ before, before ++ [m] <+: modules ∧ (w.processModules plan before).1 = v := by
  induction modules generalizing w with
  | nil => cases h
  | cons e rest ih =>
    rw [turns_cons] at h
    rcases List.mem_cons.mp h with heq | h
    · cases heq
      exact ⟨[], by simp, rfl⟩
    · rcases he : w.processModule plan e with ⟨u, result⟩
      rw [he] at h
      cases result with
      | error x => cases h
      | ok o =>
        obtain ⟨before, hbefore, hv⟩ := ih h
        refine ⟨e :: before, (List.prefix_cons_inj e).mpr hbefore, ?_⟩
        rw [processModules_cons, he]
        exact hv

theorem of_mem_runTurns {v : Work} {m : ModuleFile} (h : (m, v) ∈ w.runTurns plan given) :
    ∃ root modules, (w.outputs.ensureRoot w.files).2 = .ok root ∧ (w.rooted plan).modulesOf plan given = .ok modules ∧
      (m, v) ∈ (w.rooted plan).turns plan modules := by
  unfold runTurns at h
  split at h
  · next root modules hr hm => exact ⟨root, modules, hr, hm, h⟩
  · cases h

/-- That a run comes to the types of a module. -/
def ComesTo (plan : Plan) (given : Option (List ModuleFile)) (w : Work) (m : ModuleFile) (l : Listing) : Prop :=
  ∃ v, (m, v) ∈ w.runTurns plan given ∧ v.listing? plan m = some l

/-- The files that a run passes through once it has asked for its root directory. -/
inductive Passes (plan : Plan) (given : Option (List ModuleFile)) (w : Work) : Files → Prop
  | rooted : Passes plan given w (w.rooted plan).files
  | module {m : ModuleFile} {v : Work} (h : (m, v) ∈ w.runTurns plan given) : Passes plan given w v.files
  | type {m : ModuleFile} {l : Listing} {d : TypeDescriptor} {p : Progress} (hl : w.ComesTo plan given m l)
      (ht : (d, p) ∈ l.turns plan m) : Passes plan given w p.work.files
  | writing {m : ModuleFile} {l : Listing} {d : TypeDescriptor} {p : Progress} {path : Path} {value : Decompiled}
      {f : Files} (hl : w.ComesTo plan given m l) (ht : (d, p) ∈ l.turns plan m)
      (ha : p.attempt? plan m.path l.dir d = some path) (hv : p.answer plan m.path d = .ok value)
      (hf : Outputs.Midway path p.work.files value f) : Passes plan given w f
  | processed {m : ModuleFile} {l : Listing} (hl : w.ComesTo plan given m l) :
      Passes plan given w (l.process plan m).1.work.files
  | pruning {m : ModuleFile} {l : Listing} {p : Progress} {kept gone found : List Path}
      (hl : w.ComesTo plan given m l) (hp : l.process plan m = (p, .ok ())) (hs : plan.pruneStale = true)
      (hk : p.report.written.mapM p.work.files.resolve = .ok kept)
      (hf : p.work.outputs.candidates l.dir p.work.files = .ok found) (hg : gone <+: found) :
      Passes plan given w (Outputs.pruneAll kept gone p.work.files).1
  | ended : Passes plan given w (w.run plan given).1.files

theorem Based.turn {modules : List ModuleFile} {m : ModuleFile} {v : Work} (hw : w.Based)
    (hm : ∀ m ∈ modules, Importance.isImportant plan.importantPrefixes m.baseName = true →
      Path.IsName m.baseName ∧ names m.baseName)
    (h : (m, v) ∈ w.turns plan modules) : m ∈ modules ∧ w.Kept names v := by
  obtain ⟨before, hbefore, rfl⟩ := processModules_of_mem_turns h
  have hmem : ∀ m' ∈ before ++ [m], m' ∈ modules := fun _ h => hbefore.subset h
  refine ⟨hmem m (by simp), hw.processModules fun m' hm' => hm m' (hmem m' (by simp [hm']))⟩

theorem Based.typeTurn {m : ModuleFile} {l : Listing} {d : TypeDescriptor} {p : Progress} (hl : l.work.Based)
    (hm : Path.IsName m.baseName) (hn : names m.baseName) (hd : l.dir = l.work.outputs.root.child m.baseName)
    (h : (d, p) ∈ l.turns plan m) : l.work.Kept names p.work := by
  obtain ⟨done, -, hp⟩ := Progress.processTypes_of_mem_turns h
  have hkept : l.work.Kept names (Progress.processTypes plan m.path l.dir done (l.begin m)).1.work :=
    hl.processTypes plan done hm hn hd
  rwa [hp] at hkept

section Passes

variable (hw : ∀ root, (w.outputs.ensureRoot w.files).2 = .ok root → (w.rooted plan).Based)
  (hm : ∀ modules, (w.rooted plan).modulesOf plan given = .ok modules → ∀ m ∈ modules,
    Importance.isImportant plan.importantPrefixes m.baseName = true → Path.IsName m.baseName ∧ names m.baseName)

include hw hm

theorem kept_of_comesTo {m : ModuleFile} {l : Listing} (h : w.ComesTo plan given m l) :
    Path.IsName m.baseName ∧ names m.baseName ∧ (w.rooted plan).Kept names l.work ∧
      l.dir = l.work.outputs.root.child m.baseName := by
  obtain ⟨v, hturn, hl⟩ := h
  obtain ⟨root, modules, hr, hmodules, hmem⟩ := of_mem_runTurns hturn
  obtain ⟨hin, hkept⟩ := (hw root hr).turn (hm modules hmodules) hmem
  have hi : Importance.isImportant plan.importantPrefixes m.baseName = true := by
    cases hi : Importance.isImportant plan.importantPrefixes m.baseName with
    | true => rfl
    | false => simp [Work.listing?, hi] at hl
  obtain ⟨hname, hn⟩ := hm modules hmodules m hin hi
  obtain ⟨hlist, hd⟩ := hkept.based.listing? hname hn hl
  exact ⟨hname, hn, hkept.trans hlist, hd⟩

theorem confined_of_passes {f : Files} (h : w.Passes plan given f) :
    (w.rooted plan).files.Confined w.outputs.root names f := by
  cases h with
  | rooted => exact .refl _ _ _
  | module h =>
    obtain ⟨root, modules, hr, hmodules, hmem⟩ := of_mem_runTurns h
    exact ((hw root hr).turn (hm modules hmodules) hmem).2.files
  | type hl ht =>
    obtain ⟨hname, hn, hkept, hd⟩ := kept_of_comesTo hw hm hl
    exact (hkept.trans (hkept.based.typeTurn hname hn hd ht)).files
  | writing hl ht ha hv hf =>
    obtain ⟨hname, hn, hkept, hd⟩ := kept_of_comesTo hw hm hl
    have hp := hkept.based.typeTurn hname hn hd ht
    obtain ⟨hne, renamed, htarget⟩ := Progress.target?_of_attempt? ha
    obtain ⟨x, rfl, hx⟩ := Progress.target?_isName hp.based.slashFree hp.based.long hne htarget
    rw [hd, ← hp.root] at hf
    have hroot : (w.rooted plan).outputs.root = _ := (hkept.trans hp).root.symm
    exact (hkept.trans hp).files.trans (hroot ▸ hf.confined hn hname.notUp hx)
  | processed hl =>
    obtain ⟨hname, hn, hkept, hd⟩ := kept_of_comesTo hw hm hl
    exact (hkept.trans (hkept.based.process plan hname hn hd)).files
  | pruning hl hp hs hk hf hg =>
    obtain ⟨hname, hn, hkept, hd⟩ := kept_of_comesTo hw hm hl
    have hprocess := hkept.based.process plan hname hn hd
    rw [hp] at hprocess
    have hall := hkept.trans hprocess
    rw [hd, ← hprocess.root] at hf
    have hroot : (w.rooted plan).outputs.root = _ := hall.root.symm
    exact hall.files.trans (hroot ▸ Outputs.confined_pruneAll hall.based.slashFree hall.based.ne_star hall.based.root
      hn hname.notUp hf hg.subset)
  | ended =>
    rw [files_of_run]
    cases hr : (w.outputs.ensureRoot w.files).2 with
    | error e => exact .refl _ _ _
    | ok root =>
      cases hmodules : (w.rooted plan).modulesOf plan given with
      | error e => exact .refl _ _ _
      | ok modules => exact ((hw root hr).processModules (hm modules hmodules)).files

end Passes

/-- Whatever files a run passes through, they are as they were before it but for files with proper names directly in
the directories of the modules that are worth it, however they and their types are called. Besides there are these
directories in its root directory, this one and those on the way to it. -/
theorem run_confined (ht : w.files.tree.WellNamed)
    (hp : ∀ p ∈ plan.importantPrefixes, p.toList.head? ≠ some '.') (hl : 2 ≤ w.outputs.extension.length)
    (hx : '/' ∉ w.outputs.extension.toList)
    (hm : ∀ name dir, w.outputs.made.lookup name = some dir → dir = w.outputs.root.join (.ofString name))
    {f : Files} (h : w.Passes plan none f) :
    f.current = w.files.current ∧
    ∀ q, f.tree.get? q = w.files.tree.get? q ∨
      (w.files.tree.get? q = none ∧ f.tree.get? q = some .dir ∧
        ∃ n, q = w.files.placeOf { w.outputs.root with parts := w.outputs.root.parts.take n }) ∨
      ∃ modules, (w.rooted plan).modulesOf plan none = .ok modules ∧ ∃ m ∈ modules,
        Importance.isImportant plan.importantPrefixes m.baseName = true ∧ Path.IsName m.baseName ∧
        (w.files.tree.get? q = none ∧ f.tree.get? q = some .dir ∧
            q = w.files.placeOf w.outputs.root ++ [m.baseName] ∨
          w.files.tree.get? q ≠ some .dir ∧ f.tree.get? q ≠ some .dir ∧
            ∃ x, Path.IsName x ∧ q = w.files.placeOf w.outputs.root ++ [m.baseName, x]) := by
  have hgrown : w.files.Grown w.outputs.root (w.rooted plan).files := w.outputs.ensureRoot_grown w.files
  have hroot := Files.placeOf_of_current hgrown.current w.outputs.root
  have hc : (w.rooted plan).files.Confined w.outputs.root (fun n => ∃ modules,
      (w.rooted plan).modulesOf plan none = .ok modules ∧ ∃ m ∈ modules,
        Importance.isImportant plan.importantPrefixes m.baseName = true ∧ Path.IsName m.baseName ∧
          m.baseName = n) f := by
    refine confined_of_passes (fun root hr => ⟨hx, hl, isDir_of_rooted hr, hm⟩) (fun modules hlist m hmem hi => ?_) h
    have hname := isName_of_modulesOf ht hp hlist m hmem hi
    exact ⟨hname, modules, hlist, m, hmem, hi, hname, rfl⟩
  refine ⟨hc.current.trans hgrown.current, fun q => ?_⟩
  rcases hc.entry q with he | ⟨hn, hd, n, ⟨modules, hlist, m, hmem, hi, hname, rfl⟩, hq⟩ |
    ⟨hnd, hd, n, x, ⟨modules, hlist, m, hmem, hi, hname, rfl⟩, hq, hxn⟩
  · simp only [he]
    exact (hgrown.entry q).imp_right .inl
  · rw [hroot] at hq
    rcases hgrown.entry q with he | ⟨-, hd', -⟩
    · exact .inr (.inr ⟨modules, hlist, m, hmem, hi, hname, .inl ⟨he ▸ hn, hd, hq⟩⟩)
    · cases hn.symm.trans hd'
  · rw [hroot] at hq
    rcases hgrown.entry q with he | ⟨-, hd', -⟩
    · have hxname : Path.IsName x := by
        by_cases hnone : w.files.tree.get? q = none
        · exact hxn (he.trans hnone)
        · exact ht.names hnone x (by simp [hq])
      exact .inr (.inr ⟨modules, hlist, m, hmem, hi, hname, .inr ⟨he ▸ hnd, hd, x, hxname, hq⟩⟩)
    · exact absurd hd' hnd

end Work

def oddTree : FileTree := ⟨[(["src"], .dir), (["src", "Rust.dll"], .file .empty false)]⟩

def Plan.odd : Plan := { Plan.steady [⟨"../../x", "/", "1"⟩] with pruneStale := true }

def Work.odd : Work := { Work.bare with files := ⟨oddTree, []⟩ }

theorem Work.run_confined_odd :
    (Work.odd.run Plan.odd none).1.files.tree.get? ["out", "Rust", ".._.._x.cstxt"] ≠ none ∧
      ∀ q, (Work.odd.run Plan.odd none).1.files.tree.get? q ≠ oddTree.get? q → q.head? = some "out" := by
  have htree : Work.odd.files.tree.WellNamed := by decide +kernel
  have hprefixes : ∀ p ∈ Plan.odd.importantPrefixes, p.toList.head? ≠ some '.' := by decide +kernel
  obtain ⟨-, hall⟩ := run_confined htree hprefixes (by decide +kernel) (by decide +kernel)
    (by simp [Work.odd, Work.bare]) (.ended : Work.odd.Passes Plan.odd none _)
  refine ⟨by decide +kernel, fun q hq => ?_⟩
  have hroot : Work.odd.files.placeOf Work.odd.outputs.root = ["out"] := by decide +kernel
  have hparts : Work.odd.outputs.root.parts = ["out"] := rfl
  rcases hall q with he | ⟨hn, -, n, rfl⟩ | ⟨_, -, m, -, -, -, ⟨-, -, rfl⟩ | ⟨-, -, x, -, rfl⟩⟩
  · exact absurd he hq
  · cases n with
    | zero => cases hn
    | succ n =>
      rw [hparts, List.take_succ_cons, List.take_nil]
      rfl
  · rw [hroot]
    rfl
  · rw [hroot]
    rfl

end Winnow
