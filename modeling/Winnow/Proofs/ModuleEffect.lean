import Winnow.Proofs.Claiming
import Winnow.Proofs.Naming

/-!
What a module leaves in the file tree. Each type that was written has its text in its file; a write leaves no
staging file behind; and no entry is changed but these files, staging files and the directory of the module.
-/
set_option autoImplicit false

namespace Winnow

/-- The text in an answer of a decompiler, if there is one that a file can hold. -/
def textIn? (answer : Except String Decompiled) : Option String :=
  match answer with
  | .ok (.text t) => t.toString?.toOption
  | _ => none

/-- The decompiler has one answer for each handle of a module. -/
def Engine.Fixed (e : Engine) (module : Path) (answer : String → Except String Decompiled) : Prop :=
  ∀ history files searchPaths handle, e.decompile history files module searchPaths handle = answer handle

namespace Files

theorem readFile_of_dirsKept {f g : Files} (h : f.DirsKept g) {p : Path} {bytes : ByteArray}
    (he : g.tree.get? (f.placeOf p) = f.tree.get? (f.placeOf p)) (hr : f.readFile p = .ok bytes) :
    g.readFile p = .ok bytes := by
  obtain ⟨hz, q, x, hq, hb⟩ := readFile_eq_ok.mp hr
  refine readFile_eq_ok.mpr ⟨hz, q, x, place?_of_dirsKept h hq, ?_⟩
  rw [placeOf_of_place? hq] at he
  rw [he, hb]

end Files

namespace Outputs

theorem Wrote.readFile {f g : Files} {p : Path} {s : String} (h : Wrote f p s g) :
    g.readFile p = .ok s.toUTF8 := by
  obtain ⟨x, hx⟩ := h.content
  exact Files.readFile_eq_ok.mpr ⟨h.zeroFree, _, x, Files.place?_of_dirsKept h.dirsKept h.reached, hx⟩

/-- `g` is `f` after a write to `p`, which hit its target or left no trace. -/
structure Touched (f : Files) (p : Path) (hit : Prop) (g : Files) : Prop where
  dirs : f.DirsKept g
  dirs_symm : g.DirsKept f
  notUp : hit → p.name ≠ ".."
  entry : ∀ q, g.tree.get? q = f.tree.get? q ∨ (hit ∧ q = f.placeOf p) ∨
    (q = f.placeOf (stagingPath p) ∧ f.tree.get? q ≠ some .dir ∧ g.tree.get? q = none)
  gone : ∀ q b x, g.stat (stagingPath p) ≠ .ok (q, .file b x)

theorem Wrote.touched {f g : Files} {p : Path} {s : String} {hit : Prop} (h : Wrote f p s g) (hh : hit) :
    Touched f p hit g := by
  obtain ⟨x, hx⟩ := h.content
  have hc := Files.placeOf_of_current h.current
  refine ⟨h.dirsKept, ⟨h.current.symm, fun q hq => ?_⟩, fun _ => h.notUp, fun q => ?_, fun q b x hs => ?_⟩
  · by_cases hp : q = f.placeOf p
    · rw [hp, hx] at hq
      cases hq
    · by_cases hs : q = f.placeOf (stagingPath p)
      · rw [hs, h.staging] at hq
        cases hq
      · rw [← h.others q hp hs, hq]
  · by_cases hp : q = f.placeOf p
    · exact .inr (.inl ⟨hh, hp⟩)
    · by_cases hs : q = f.placeOf (stagingPath p)
      · exact .inr (.inr ⟨hs, hs ▸ h.stagingFree, hs ▸ h.staging⟩)
      · exact .inl (h.others q hp hs)
  · obtain ⟨hq, he⟩ := Files.stat_eq_ok.mp hs
    rw [← Files.placeOf_of_place? hq, hc, h.staging] at he
    cases he

theorem Unwrote.touched {f g : Files} {p : Path} {hit : Prop} (h : Unwrote f p g) (hh : ¬ hit) :
    Touched f p hit g := by
  refine ⟨h.dirsKept, ⟨h.current.symm, fun q hq => ?_⟩, fun hh' => absurd hh' hh, fun q => ?_, h.gone⟩
  · rcases h.entry q with he | ⟨-, -, hn⟩
    · rw [← he, hq]
    · rw [hn] at hq
      cases hq
  · exact (h.entry q).imp_right .inr

/-- `g` is `f` but for the file of a path and its staging file. -/
structure Within (f : Files) (p : Path) (g : Files) : Prop where
  dirs : f.SameDirs g
  others : ∀ q, q ≠ f.placeOf p → q ≠ f.placeOf (stagingPath p) → g.tree.get? q = f.tree.get? q

theorem Staged.within {f g : Files} {p : Path} (h : Staged f p g) : Within f p g := by
  refine ⟨⟨h.dirsKept, h.dirsKept_symm⟩, fun q _ hs => ?_⟩
  rcases h.entry q with he | ⟨hp, -⟩
  · exact he
  · exact absurd (Files.placeOf_of_place? hp).symm hs

theorem Touched.within {f g : Files} {p : Path} {hit : Prop} (h : Touched f p hit g) : Within f p g := by
  refine ⟨⟨h.dirs, h.dirs_symm⟩, fun q hp hs => ?_⟩
  rcases h.entry q with he | ⟨-, hq⟩ | ⟨hq, -⟩
  · exact he
  · exact absurd hq hp
  · exact absurd hq hs

theorem within_write (p : Path) (value : Decompiled) (f : Files) : Within f p (write p value f).1 := by
  by_cases hw : Unwritable p
  · obtain ⟨e, fault, he, -⟩ := write_of_unwritable value f hw
    rw [he]
    exact (Staged.refl f p).within
  · cases hr : write p value f with
    | mk g result =>
      cases result with
      | error e => exact ((write_eq_error hw hr).1.touched not_false).within
      | ok u =>
        obtain ⟨t, s, -, -, hwrote⟩ := write_eq_ok hr
        exact (hwrote.touched trivial).within

theorem Touched.readFile {f g : Files} {p q : Path} {hit : Prop} (h : Touched f p hit g)
    (hp : hit → f.placeOf q ≠ f.placeOf p) (hs : f.placeOf q ≠ f.placeOf (stagingPath p)) {bytes : ByteArray}
    (hr : f.readFile q = .ok bytes) : g.readFile q = .ok bytes := by
  refine Files.readFile_of_dirsKept h.dirs ?_ hr
  rcases h.entry (f.placeOf q) with he | ⟨hh, hq⟩ | ⟨hq, -⟩
  · exact he
  · exact absurd hq (hp hh)
  · exact absurd hq hs

theorem Touched.stat_stagingPath {f g : Files} {p q : Path} {hit : Prop} (h : Touched f p hit g)
    (hp : hit → f.placeOf p ≠ f.placeOf (stagingPath q))
    (hg : ∀ r b x, f.stat (stagingPath q) ≠ .ok (r, .file b x)) (r : Place) (b : ByteArray) (x : Bool) :
    g.stat (stagingPath q) ≠ .ok (r, .file b x) := by
  intro hs
  obtain ⟨hr, he⟩ := Files.stat_eq_ok.mp hs
  have hf := Files.place?_of_dirsKept h.dirs_symm hr
  have hq := Files.placeOf_of_place? hf
  rcases h.entry r with hk | ⟨hh, hr⟩ | ⟨-, -, hn⟩
  · exact hg r b x (Files.stat_eq_ok.mpr ⟨hf, hk ▸ he⟩)
  · exact hp hh (hr.symm.trans hq.symm)
  · rw [hn] at he
    cases he

end Outputs

namespace Progress

section Step

variable {plan : Plan} {module dir : Path} {p q : Progress} {d : TypeDescriptor} {a : Option Path}
  {result : TypeResult}

theorem files_of_step (h : TypeStep plan module dir p d a q (.ok result)) :
    (a = none ∧ result.path? = none ∧ q.work.files = p.work.files) ∨
    ∃ path, a = some path ∧ (result.path? = none ∨ result = .written path) ∧
      Outputs.Touched p.work.files path (result = .written path) q.work.files ∧
      (result = .written path →
        ∃ s, textIn? (p.answer plan module d) = some s ∧ q.work.files.readFile path = .ok s.toUTF8) := by
  have hw : ∀ path, a = some path → ¬ Outputs.Unwritable path := fun path hp => writable_of_step h hp
  cases h with
  | unwritten path renamed value files e reason hn hm ht ha hw' he =>
    have hu := (Outputs.write_eq_error (hw path rfl) hw').1
    exact .inr ⟨path, rfl, .inl rfl, hu.touched (by simp), by simp⟩
  | written path renamed value files hn hm ht ha hw' =>
    obtain ⟨t, s, rfl, hs, hf⟩ := Outputs.write_eq_ok hw'
    refine .inr ⟨path, rfl, .inr rfl, ?_, fun _ => ⟨s, by simp [textIn?, ha, hs, Except.toOption], ?_⟩⟩
    · rw [claim_files]
      exact hf.touched rfl
    · rw [claim_files]
      exact hf.readFile
  | _ => exact .inl ⟨rfl, rfl, rfl⟩

theorem target_of_step (h : TypeStep plan module dir p d a q (.ok result)) {path : Path} (ha : a = some path) :
    p.work.outputs.IsTarget dir path ∧ claimKey path ∉ p.claimed := by
  have ht : d.name ≠ "" ∧ ∃ renamed, p.target? dir d = some (path, renamed) := by
    cases h with
    | unwritten path' renamed value files e reason hn hm ht ha' hw he =>
      cases ha
      exact ⟨hn, renamed, ht⟩
    | written path' renamed value files hn hm ht ha' hw =>
      cases ha
      exact ⟨hn, renamed, ht⟩
    | _ => cases ha
  obtain ⟨hn, renamed, ht⟩ := ht
  obtain ⟨hf, ho, hq⟩ := target?_eq_some ht
  refine ⟨?_, hf⟩
  by_cases hk : claimKey (p.work.outputs.pathFor dir d.name) ∈ p.claimed
  · exact ⟨d.fullName, (hq hk).2.1, (hq hk).1⟩
  · exact ⟨d.name, hn, ho hk⟩

end Step

/-- What the files have come to after some types of a module, seen from the files before them. -/
structure Effect (o : Outputs) (answer : String → Except String Decompiled) (dir : Path) (f : Files)
    (done : List TypeDescriptor) (tried : List Path) (p : Progress) : Prop where
  outputs : p.work.outputs = o
  dirs : f.DirsKept p.work.files
  length : p.report.outcomes.length = done.length
  held : ∀ path ∈ p.report.written, claimKey path ∈ p.claimed
  targets : ∀ path ∈ tried, o.IsTarget dir path
  written : ∀ path ∈ p.report.written, path ∈ tried ∧ path.name ≠ ".."
  texts : ∀ d out path, (d, out) ∈ done.zip p.report.outcomes → out.result = .written path →
    path ∈ p.report.written ∧ ∃ s, textIn? (answer d.handle) = some s ∧
      p.work.files.readFile path = .ok s.toUTF8
  gone : ∀ path ∈ tried, ∀ q b x, p.work.files.stat (Outputs.stagingPath path) ≠ .ok (q, .file b x)
  others : ∀ q, p.work.files.tree.get? q = f.tree.get? q ∨ (∃ path ∈ p.report.written, q = f.placeOf path) ∨
    ∃ path ∈ tried, q = f.placeOf (Outputs.stagingPath path) ∧ f.tree.get? q ≠ some .dir ∧
      p.work.files.tree.get? q = none

section Effect

variable {plan : Plan} {module dir : Path} {p q : Progress} {d : TypeDescriptor} {a : Option Path}
  {result : TypeResult} {o : Outputs} {answer : String → Except String Decompiled} {f : Files}
  {done : List TypeDescriptor} {tried : List Path}

theorem Effect.target (he : Effect o answer dir f done tried p) {path : Path} (hp : path ∈ p.report.written) :
    o.IsTarget dir path := he.targets path (he.written path hp).1

theorem Effect.begin (m : ModuleFile) (l : Listing) (answer : String → Except String Decompiled) :
    Effect l.work.outputs answer l.dir l.work.files [] [] (l.begin m) where
  outputs := rfl
  dirs := .refl _
  length := rfl
  held := by simp [Listing.begin]
  targets := by simp
  written := by simp [Listing.begin]
  texts := by simp
  gone := by simp
  others := fun _ => .inl rfl

theorem Effect.apart (hx : FileExtension o.extension) (he : Effect o answer dir f done tried p) {path : Path}
    (ht : o.IsTarget dir path) (hk : claimKey path ∉ p.claimed) (hu : path.name ≠ "..") {path' : Path}
    (hp : path' ∈ p.report.written) : p.work.files.placeOf path' ≠ p.work.files.placeOf path := by
  intro heq
  have ht' := he.target hp
  have hd : path'.parent = path.parent := (ht'.parent hx).trans (ht.parent hx).symm
  have := Outputs.eq_of_placeOf (ht'.name_ne hx) (he.written path' hp).2 (ht.name_ne hx) hu hd heq
  subst this
  exact hk (he.held path' hp)

theorem Effect.placeOf_ne (hx : FileExtension o.extension) (he : Effect o answer dir f done tried p)
    {path : Path} (hp : path ∈ p.report.written) (path' : Path) :
    p.work.files.placeOf path ≠ p.work.files.placeOf (Outputs.stagingPath path') :=
  Outputs.placeOf_ne_stagingPath ((he.target hp).name_ne hx) (he.written path hp).2
    ((he.target hp).not_suffix hx) path'

theorem mem_written_recorded (h : TypeStep plan module dir p d a q (.ok result)) {path : Path} :
    path ∈ (q.recorded d result).report.written ↔ path ∈ p.report.written ∨ result = .written path := by
  rw [recorded_written_of_step h, List.mem_append, Option.mem_toList]
  cases result <;> simp [TypeResult.path?]

theorem mem_zip_recorded (he : Effect o answer dir f done tried p)
    (h : TypeStep plan module dir p d a q (.ok result)) {d' : TypeDescriptor} {out : TypeOutcome} :
    (d', out) ∈ (done ++ [d]).zip (q.recorded d result).report.outcomes ↔
      (d', out) ∈ done.zip p.report.outcomes ∨ d' = d ∧ out = ⟨d.name, d.fullName, result⟩ := by
  rw [recorded_outcomes_of_step h, List.zip_append he.length.symm, List.mem_append, List.zip_cons_cons,
    List.zip_nil_left, List.mem_singleton, Prod.mk.injEq]

theorem Effect.length_step (he : Effect o answer dir f done tried p)
    (h : TypeStep plan module dir p d a q (.ok result)) :
    (q.recorded d result).report.outcomes.length = (done ++ [d]).length := by
  simp [recorded_outcomes_of_step h, he.length]

theorem Effect.held_step (he : Effect o answer dir f done tried p)
    (h : TypeStep plan module dir p d a q (.ok result)) {path : Path}
    (hp : path ∈ (q.recorded d result).report.written) : claimKey path ∈ (q.recorded d result).claimed := by
  have hc : (q.recorded d result).claimed = q.claimed := rfl
  rw [hc, claimed_of_step h, List.mem_append]
  rcases (mem_written_recorded h).mp hp with hp | rfl
  · exact .inr (he.held path hp)
  · exact .inl (by simp [TypeResult.path?])

theorem Effect.texts_step (he : Effect o answer dir f done tried p)
    (h : TypeStep plan module dir p d a q (.ok result))
    (hk : ∀ path bytes, path ∈ p.report.written → p.work.files.readFile path = .ok bytes →
      q.work.files.readFile path = .ok bytes)
    (hs : ∀ path, result = .written path →
      ∃ s, textIn? (answer d.handle) = some s ∧ q.work.files.readFile path = .ok s.toUTF8)
    {d' : TypeDescriptor} {out : TypeOutcome} {path : Path}
    (hd : (d', out) ∈ (done ++ [d]).zip (q.recorded d result).report.outcomes) (hw : out.result = .written path) :
    path ∈ (q.recorded d result).report.written ∧ ∃ s, textIn? (answer d'.handle) = some s ∧
      q.work.files.readFile path = .ok s.toUTF8 := by
  rcases (mem_zip_recorded he h).mp hd with hd | ⟨rfl, rfl⟩
  · obtain ⟨hm, s, ht, hb⟩ := he.texts d' out path hd hw
    exact ⟨(mem_written_recorded h).mpr (.inl hm), s, ht, hk path _ hm hb⟩
  · exact ⟨(mem_written_recorded h).mpr (.inr hw), hs path hw⟩

theorem Effect.others_write (he : Effect o answer dir f done tried p) {path : Path} {hit : Prop} {g : Files}
    (ht : Outputs.Touched p.work.files path hit g) (r : Place) :
    g.tree.get? r = f.tree.get? r ∨ (∃ path' ∈ p.report.written, r = f.placeOf path') ∨
      (hit ∧ r = f.placeOf path) ∨
      ∃ path' ∈ tried ++ [path], r = f.placeOf (Outputs.stagingPath path') ∧ f.tree.get? r ≠ some .dir ∧
        g.tree.get? r = none := by
  have hc := Files.placeOf_of_current he.dirs.current
  rcases ht.entry r with hr | ⟨hh, hr⟩ | ⟨hr, hd, hn⟩
  · rw [hr]
    rcases he.others r with hf | hf | ⟨path', hp, hf⟩
    · exact .inl hf
    · exact .inr (.inl hf)
    · exact .inr (.inr (.inr ⟨path', List.mem_append_left _ hp, hf⟩))
  · exact .inr (.inr (.inl ⟨hh, hr.trans (hc path)⟩))
  · refine .inr (.inr (.inr ⟨path, by simp, hr.trans (hc _), fun hf => hd ?_, hn⟩))
    exact he.dirs.tree r hf

theorem Effect.step_idle (he : Effect o answer dir f done tried p)
    (h : TypeStep plan module dir p d none q (.ok result)) (hr : result.path? = none)
    (hf : q.work.files = p.work.files) : Effect o answer dir f (done ++ [d]) tried (q.recorded d result) := by
  have hn : ∀ path, result ≠ .written path := by
    rintro path rfl
    cases hr
  have hw : (q.recorded d result).report.written = p.report.written := by
    simp [recorded_written_of_step h, hr]
  have hq : (q.recorded d result).work.files = p.work.files := hf
  refine ⟨(outputs_of_step h).trans he.outputs, hq ▸ he.dirs, he.length_step h, fun path => he.held_step h,
    he.targets, hw ▸ he.written, fun d' out path => ?_, hq ▸ he.gone, ?_⟩
  · exact he.texts_step h (fun path bytes _ hb => hf ▸ hb) fun path hp => absurd hp (hn path)
  · rw [hw, hq]
    exact he.others

theorem Effect.step_write (hx : FileExtension o.extension) (ha : plan.engine.Fixed module answer)
    (he : Effect o answer dir f done tried p) {path : Path}
    (h : TypeStep plan module dir p d (some path) q (.ok result))
    (hr : result.path? = none ∨ result = .written path)
    (ht : Outputs.Touched p.work.files path (result = .written path) q.work.files)
    (hs : result = .written path →
      ∃ s, textIn? (p.answer plan module d) = some s ∧ q.work.files.readFile path = .ok s.toUTF8) :
    Effect o answer dir f (done ++ [d]) (tried ++ [path]) (q.recorded d result) := by
  obtain ⟨htg, hk⟩ := target_of_step h rfl
  rw [he.outputs] at htg
  rw [Progress.answer, ha] at hs
  have hpath : ∀ path', result = .written path' → path' = path := by
    rintro path' rfl
    rcases hr with hr | hr
    · cases hr
    · exact TypeResult.written.inj hr
  refine ⟨(outputs_of_step h).trans he.outputs, he.dirs.trans ht.dirs, he.length_step h,
    fun path' => he.held_step h, ?_, ?_, fun d' out path' => he.texts_step h ?_ ?_, ?_, ?_⟩
  · intro path' hp
    rcases List.mem_append.mp hp with hp | hp
    · exact he.targets path' hp
    · rwa [List.mem_singleton.mp hp]
  · intro path' hp
    rcases (mem_written_recorded h).mp hp with hp | hp
    · exact ⟨List.mem_append_left _ (he.written path' hp).1, (he.written path' hp).2⟩
    · obtain rfl := hpath path' hp
      exact ⟨by simp, ht.notUp hp⟩
  · intro path' bytes hp hb
    exact ht.readFile (fun hh => he.apart hx htg hk (ht.notUp hh) hp) (he.placeOf_ne hx hp path) hb
  · intro path' hp
    obtain rfl := hpath path' hp
    exact hs hp
  · intro path' hp
    rcases List.mem_append.mp hp with hp | hp
    · refine ht.stat_stagingPath (fun hh => ?_) (he.gone path' hp)
      exact Outputs.placeOf_ne_stagingPath (htg.name_ne hx) (ht.notUp hh) (htg.not_suffix hx) path'
    · rw [List.mem_singleton.mp hp]
      exact ht.gone
  · intro r
    rcases he.others_write ht r with hq | ⟨path', hp, hq⟩ | ⟨hh, hq⟩ | hq
    · exact .inl hq
    · exact .inr (.inl ⟨path', (mem_written_recorded h).mpr (.inl hp), hq⟩)
    · exact .inr (.inl ⟨path, (mem_written_recorded h).mpr (.inr hh), hq⟩)
    · exact .inr (.inr hq)

theorem Effect.step (hx : FileExtension o.extension) (ha : plan.engine.Fixed module answer)
    (he : Effect o answer dir f done tried p) (h : TypeStep plan module dir p d a q (.ok result)) :
    Effect o answer dir f (done ++ [d]) (tried ++ a.toList) (q.recorded d result) := by
  rcases files_of_step h with ⟨rfl, hr, hf⟩ | ⟨path, rfl, hr, ht, hs⟩
  · simpa using he.step_idle h hr hf
  · exact he.step_write hx ha h hr ht hs

theorem effect_of_process {m : ModuleFile} {l : Listing} (hx : FileExtension l.work.outputs.extension)
    (ha : plan.engine.Fixed m.path answer) (h : l.process plan m = (p, .ok ())) :
    Effect l.work.outputs answer l.dir l.work.files l.types (l.attempts plan m) p :=
  Listing.process_induction (fun _ _ _ _ _ _ _ he hs => he.step hx ha hs) h (Effect.begin m l answer)

end Effect

end Progress

namespace Outputs

theorem ensureModuleDir_grown {o : Outputs} {name : String} {f : Files} {dir : Path}
    (h : (o.ensureModuleDir name f).2.2 = .ok dir) : f.Grown dir (o.ensureModuleDir name f).2.1 := by
  unfold ensureModuleDir at h ⊢
  split at h
  · exact .refl f dir
  · have hg := Files.makeDirs_grown f (o.root.join (.ofString name))
    simp only at h ⊢
    split at h
    · next g hm =>
      cases h
      rw [hm] at hg
      exact hg
    · cases h

end Outputs

theorem mem_zip_of_mem {types : List TypeDescriptor} {outcomes : List TypeOutcome}
    (hl : outcomes.length = types.length) {out : TypeOutcome} (h : out ∈ outcomes) :
    ∃ d, (d, out) ∈ types.zip outcomes := by
  obtain ⟨i, hi, rfl⟩ := List.getElem_of_mem h
  have hz : i < (types.zip outcomes).length := by
    rw [List.length_zip]
    omega
  exact ⟨types[i], List.mem_of_getElem (h := hz) List.getElem_zip⟩

/-- What a module with these types leaves in the files `g` that were `f` before. -/
structure ModuleEffect (answer : String → Except String Decompiled) (f : Files) (dir : Path)
    (types : List TypeDescriptor) (tried : List Path) (report : Report) (g : Files) : Prop where
  current : g.current = f.current
  length : report.outcomes.length = types.length
  written : ∀ path ∈ report.written, ∃ d out, (d, out) ∈ types.zip report.outcomes ∧ out.result = .written path
  texts : ∀ d out path, (d, out) ∈ types.zip report.outcomes → out.result = .written path →
    ∃ s, textIn? (answer d.handle) = some s ∧ g.readFile path = .ok s.toUTF8
  gone : ∀ path ∈ tried, ∀ q b x, g.stat (Outputs.stagingPath path) ≠ .ok (q, .file b x)
  others : ∀ q, g.tree.get? q = f.tree.get? q ∨ (∃ path ∈ report.written, q = f.placeOf path) ∨
    (∃ path ∈ tried, q = f.placeOf (Outputs.stagingPath path) ∧ f.tree.get? q ≠ some .dir ∧
      g.tree.get? q = none) ∨
    (f.tree.get? q = none ∧ g.tree.get? q = some .dir ∧
      ∃ n, q = f.placeOf { dir with parts := dir.parts.take n })

theorem grown_of_listing? {plan : Plan} {m : ModuleFile} {w : Work} {l : Listing}
    (hl : w.listing? plan m = some l) : w.files.Grown l.dir l.work.files := by
  obtain ⟨hd, hf, -⟩ := Work.prepared_of_listing? hl
  rw [hf]
  exact Outputs.ensureModuleDir_grown hd

theorem extension_of_listing? {plan : Plan} {m : ModuleFile} {w : Work} {l : Listing}
    (hl : w.listing? plan m = some l) : l.work.outputs.extension = w.outputs.extension := by
  obtain ⟨made, hm⟩ := Work.outputs_of_listing? hl
  rw [hm]

theorem effect_of_listing? {plan : Plan} {m : ModuleFile} {w : Work} {l : Listing} {p : Progress}
    {answer : String → Except String Decompiled} (hx : FileExtension w.outputs.extension)
    (ha : plan.engine.Fixed m.path answer) (hl : w.listing? plan m = some l)
    (hp : l.process plan m = (p, .ok ())) :
    ModuleEffect answer w.files l.dir l.types (l.attempts plan m) p.report p.work.files := by
  have hg := grown_of_listing? hl
  have he := Progress.effect_of_process (extension_of_listing? hl ▸ hx) ha hp
  have hk := Progress.ledger_of_process hp
  have hc := Files.placeOf_of_current hg.current
  refine ⟨he.dirs.current.trans hg.current, he.length, ?_, ?_, he.gone, ?_⟩
  · intro path hp
    rw [hk.written] at hp
    obtain ⟨out, ho, hout⟩ := List.mem_filterMap.mp hp
    obtain ⟨d, hd⟩ := mem_zip_of_mem hk.length ho
    refine ⟨d, out, hd, ?_⟩
    cases hres : out.result <;> rw [hres] at hout <;> cases hout
    rfl
  · intro d out path hd hp
    exact (he.texts d out path hd hp).2
  · intro q
    rcases he.others q with hq | ⟨path, hp, hq⟩ | ⟨path, hp, hq, hnd, hn⟩
    · rw [hq]
      rcases hg.entry q with hq | hq
      · exact .inl hq
      · exact .inr (.inr (.inr hq))
    · exact .inr (.inl ⟨path, hp, hq.trans (hc path)⟩)
    · exact .inr (.inr (.inl ⟨path, hp, hq.trans (hc _), fun hf => hnd (hg.dirsKept.tree q hf), hn⟩))

end Winnow
