import Winnow.Proofs.Completion
import Winnow.Proofs.ModuleEffect
import Winnow.Proofs.Clearing

/-!
Whether the files that a run writes are still there when it returns. Modules whose directories differ leave each
other's files alone. Two modules of one directory do not: the later one overwrites files of the same name, and
if outputs are pruned it removes all others of the earlier one.
-/
set_option autoImplicit false

namespace Winnow

structure IsOutput (p : Path) : Prop where
  named : p.name ≠ ""
  notUp : p.name ≠ ".."
  extension : ".cstxt".toList <:+ p.name.toList

theorem IsOutput.placeOf {p : Path} (h : IsOutput p) (f : Files) :
    f.placeOf p = f.placeOf p.parent ++ [p.name] := Outputs.placeOf_of_name h.named h.notUp

theorem IsOutput.placeOf_ne {p : Path} (h : IsOutput p) (f : Files) (q : Path) :
    f.placeOf p ≠ f.placeOf (Outputs.stagingPath q) := by
  refine Outputs.placeOf_ne_stagingPath h.named h.notUp (fun ht => ?_) q
  rcases List.suffix_or_suffix_of_suffix ht h.extension with hs | hs
  · exact absurd hs (by decide)
  · exact absurd hs (by decide)

/-- A module that came to have its types processed: where, which types, and what came of them. -/
structure Account where
  module : ModuleFile
  dir : Path
  types : List TypeDescriptor
  report : Report

namespace Work

def account? (plan : Plan) (m : ModuleFile) (w : Work) : Option Account :=
  (w.listing? plan m).map fun l => ⟨m, l.dir, l.types, (l.process plan m).1.report⟩

def accounts (plan : Plan) : List ModuleFile → Work → List Account
  | [], _ => []
  | m :: rest, w => (w.account? plan m).toList ++ accounts plan rest (w.processModule plan m).1

/-- The work of a run between two modules: every directory it has noted down as made is there. -/
structure Ready (w : Work) : Prop where
  extension : w.outputs.extension = ".cstxt"
  made : ∀ name dir, w.outputs.made.lookup name = some dir → w.files.isDir dir = .ok true

end Work

/-- What a module with this account has done to the files `f` that are `g` now. -/
structure Account.Done (plan : Plan) (answer : String → Except String Decompiled) (f : Files) (a : Account)
    (g : Files) : Prop where
  dirs : f.DirsKept g
  length : a.report.outcomes.length = a.types.length
  outputs : ∀ path ∈ a.report.written, IsOutput path ∧ path.parent = a.dir
  distinct : (a.report.written.map f.placeOf).Nodup
  written : ∀ path ∈ a.report.written, ∃ d out, (d, out) ∈ a.types.zip a.report.outcomes ∧ out.result = .written path
  texts : ∀ d out path, (d, out) ∈ a.types.zip a.report.outcomes → out.result = .written path →
    path ∈ a.report.written ∧ ∃ s, textIn? (answer d.handle) = some s ∧ g.readFile path = .ok s.toUTF8
  others : ∀ q, g.tree.get? q = f.tree.get? q ∨ (∃ path ∈ a.report.written, q = f.placeOf path) ∨
    (∃ path, q = f.placeOf (Outputs.stagingPath path)) ∨
    (f.tree.get? q = none ∧ g.tree.get? q = some .dir) ∨
    (plan.pruneStale = true ∧ g.tree.get? q = none ∧ ∃ name, q = f.placeOf a.dir ++ [name])
  gone : plan.pruneStale = true → ∀ name, ".cstxt".toList <:+ name.toList →
    (∀ path ∈ a.report.written, f.placeOf path ≠ f.placeOf a.dir ++ [name]) →
    ∀ b x, g.tree.get? (f.placeOf a.dir ++ [name]) ≠ some (.file b x)

namespace Work

theorem Ready.of_dirsKept {w v : Work} (h : w.Ready) (ho : v.outputs = w.outputs)
    (hd : w.files.DirsKept v.files) : v.Ready := by
  refine ⟨ho ▸ h.extension, fun name dir hm => ?_⟩
  rw [ho] at hm
  exact Files.isDir_of_dirsKept hd (h.made name dir hm)

theorem Ready.prepare {w : Work} (h : w.Ready) (m : ModuleFile) : (w.prepare m).1.Ready ∧
    (∃ p, w.files.Grown p (w.prepare m).1.files) ∧
      ∀ dir, (w.prepare m).2 = .ok dir → (w.prepare m).1.files.isDir dir = .ok true := by
  obtain ⟨hg, hm, hd⟩ := Outputs.ensureModuleDir_made m.baseName h.made
  obtain ⟨made, ho⟩ := w.outputs.ensureModuleDir_fst m.baseName w.files
  exact ⟨⟨(congrArg (·.extension) ho).trans h.extension, hm⟩, hg, hd⟩

@[simp] theorem close_files (plan : Plan) (module : Path) (w : Work) : (w.close plan module).files = w.files := rfl

theorem prune_spec {plan : Plan} {dir : Path} {written : List Path} {w v : Work}
    (hx : w.outputs.extension = ".cstxt") (hd : w.files.isDir dir = .ok true)
    (h : w.prune plan dir written = (v, .ok ())) : v.outputs = w.outputs ∧
      w.outputs.Swept dir written w.files v.files ∧ (plan.pruneStale = true ∨ v.files = w.files) ∧
      (plan.pruneStale = true → w.outputs.Weeded dir written w.files v.files) := by
  obtain ⟨ho, ⟨hoff, hf⟩ | ⟨hon, told, removed, hp⟩⟩ := prune_eq_ok h
  · rw [hf]
    exact ⟨ho, .refl _ _ _ _, .inr rfl, fun hon => by simp [hoff] at hon⟩
  · have hweed := Outputs.weeded_of_pruneStale (by rw [hx]; decide) (Outputs.inward_cstxt hx _) hd hp
    exact ⟨ho, hweed.toSwept, .inl hon, fun _ => hweed⟩

section Step

variable {plan : Plan} {m : ModuleFile} {w : Work} {l : Listing} {p : Progress}
  {answer : String → Except String Decompiled}

theorem outputs_of_process (hx : w.outputs.extension = ".cstxt") (ha : plan.engine.Fixed m.path answer)
    (hl : w.listing? plan m = some l) (hp : l.process plan m = (p, .ok ())) :
    (∀ path ∈ p.report.written, IsOutput path ∧ path.parent = l.dir) ∧
      (p.report.written.map w.files.placeOf).Nodup := by
  have hxl : l.work.outputs.extension = ".cstxt" := (extension_of_listing? hl).trans hx
  have hxf : FileExtension l.work.outputs.extension := hxl ▸ .cstxt
  have he := Progress.effect_of_process hxf ha hp
  have hk := Progress.ledger_of_process hp
  have ho : ∀ path ∈ p.report.written, IsOutput path ∧ path.parent = l.dir := by
    intro path hw
    have ht := he.target hw
    obtain ⟨name, -, hn⟩ := ht.name_eq hxf
    refine ⟨⟨ht.name_ne hxf, (he.written path hw).2, ?_⟩, ht.parent hxf⟩
    rw [hn, hxl, String.toList_append]
    exact List.suffix_append _ _
  refine ⟨ho, ?_⟩
  have hd := hk.distinct
  rw [Progress.heldKeys, ← hk.written, List.Nodup, List.pairwise_map] at hd
  rw [List.Nodup, List.pairwise_map]
  refine hd.imp_of_mem fun {a b} hma hmb hne heq => hne ?_
  obtain ⟨hoa, hpa⟩ := ho a hma
  obtain ⟨hob, hpb⟩ := ho b hmb
  rw [Outputs.eq_of_placeOf hoa.named hoa.notUp hob.named hob.notUp (hpa.trans hpb.symm) heq]

theorem done_of_process {v : Work} (hr : w.Ready) (ha : plan.engine.Fixed m.path answer)
    (hl : w.listing? plan m = some l) (hp : l.process plan m = (p, .ok ()))
    (hv : (p.work.close plan m.path).prune plan l.dir p.report.written = (v, .ok ())) :
    v.Ready ∧ Account.Done plan answer w.files ⟨m, l.dir, l.types, p.report⟩ v.files := by
  obtain ⟨ho, hdist⟩ := outputs_of_process hr.extension ha hl hp
  obtain ⟨hrp, -, hdir⟩ := hr.prepare m
  obtain ⟨hd, hlf, hlo⟩ := prepared_of_listing? hl
  have hxf : FileExtension w.outputs.extension := hr.extension ▸ .cstxt
  have he := effect_of_listing? hxf ha hl hp
  have hpe := Progress.effect_of_process (extension_of_listing? hl ▸ hxf) ha hp
  have hlr : l.work.Ready := hrp.of_dirsKept hlo (hlf ▸ .refl _)
  have hpr : p.work.Ready := hlr.of_dirsKept hpe.outputs hpe.dirs
  have hpd : p.work.files.isDir l.dir = .ok true :=
    Files.isDir_of_dirsKept hpe.dirs (hlf ▸ hdir l.dir hd)
  have hwd : w.files.DirsKept p.work.files := (grown_of_listing? hl).dirsKept.trans hpe.dirs
  have hc : p.work.files.placeOf = w.files.placeOf := funext (Files.placeOf_of_current hwd.current)
  obtain ⟨hvo, hsw, hsame, hgone⟩ := prune_spec (w := p.work.close plan m.path) hpr.extension hpd hv
  rw [close_files] at hsw hsame hgone
  refine ⟨hpr.of_dirsKept hvo hsw.dirs.kept, hwd.trans hsw.dirs.kept, he.length, ho, hdist, he.written, ?_, ?_,
    fun hon => ?_⟩
  · intro d out path hd hw
    have hm := (hpe.texts d out path hd hw).1
    obtain ⟨s, ht, hread⟩ := he.texts d out path hd hw
    refine ⟨hm, s, ht, Files.readFile_of_dirsKept hsw.dirs.kept ?_ hread⟩
    rcases hsw.entry (p.work.files.placeOf path) with hq | ⟨-, -, -, -, -, -, hq⟩
    · exact hq
    · exact absurd rfl (hq path hm)
  · intro q
    rcases hsw.entry q with hq | ⟨hq, ⟨b, x, hb⟩, name, -, -, hn, -⟩
    · rw [hq]
      rcases he.others q with hq | hq | ⟨path, -, hq, -⟩ | ⟨hq, hq', -⟩
      · exact .inl hq
      · exact .inr (.inl hq)
      · exact .inr (.inr (.inl ⟨path, hq⟩))
      · exact .inr (.inr (.inr (.inl ⟨hq, hq'⟩)))
    · rcases hsame with hon | hsame
      · exact .inr (.inr (.inr (.inr ⟨hon, hq, name, hc ▸ hn⟩)))
      · rw [hsame] at hq
        exact absurd (hb.symm.trans hq) (by simp)
  · intro name hname
    have hgone := (hgone hon).gone name (Outputs.selects_cstxt hpr.extension hname)
    rw [hc] at hgone
    exact hgone

theorem done_of_processModule {o : ModuleOutcome} (hr : w.Ready) (ha : plan.engine.Fixed m.path answer)
    (h : (w.processModule plan m).2 = .ok o) :
    (w.processModule plan m).1.Ready ∧ (w.processModule plan m).1.files.placeOf = w.files.placeOf ∧
      ((w.account? plan m = none ∧ o.report = none ∧ ∃ p, w.files.Grown p (w.processModule plan m).1.files) ∨
        ∃ a, w.account? plan m = some a ∧ o.report = some a.report ∧ a.module = m ∧
          a.Done plan answer w.files (w.processModule plan m).1.files) := by
  have hs := processModule_step plan m w
  rw [h] at hs
  generalize (w.processModule plan m).1 = v at hs ⊢
  cases hs with
  | passed v o hl hm hs hrep hv =>
    obtain ⟨hp, ⟨p, hg⟩, -⟩ := hr.prepare m
    have hacc : w.account? plan m = none := by simp [account?, hl]
    rcases hv with ⟨hf, ho⟩ | ⟨hf, ho⟩
    · exact ⟨hr.of_dirsKept ho (hf ▸ .refl _), by rw [hf], .inl ⟨hacc, hrep, ⟨0, []⟩, hf ▸ .refl _ _⟩⟩
    · rw [hf]
      exact ⟨hp.of_dirsKept ho (hf ▸ .refl _), funext (Files.placeOf_of_current hg.current), .inl ⟨hacc, hrep, p, hg⟩⟩
  | completed l p v hl hp hv =>
    obtain ⟨hvr, hd⟩ := done_of_process hr ha hl hp hv
    exact ⟨hvr.of_dirsKept rfl (.refl _), funext (Files.placeOf_of_current hd.dirs.current),
      .inr ⟨_, by simp [account?, hl, hp], rfl, rfl, hd⟩⟩

theorem done_of_mem {o : ModuleOutcome} {a : Account} (hr : w.Ready) (ha : plan.engine.Fixed m.path answer)
    (h : (w.processModule plan m).2 = .ok o) (hmem : a ∈ (w.account? plan m).toList) :
    a.Done plan answer w.files (w.processModule plan m).1.files := by
  have hacc := Option.mem_toList.mp hmem
  obtain ⟨-, -, ⟨hnone, -⟩ | ⟨a', hacc', -, -, hd⟩⟩ := done_of_processModule hr ha h
  · rw [hnone] at hacc
    cases hacc
  · rw [hacc'] at hacc
    cases hacc
    exact hd

end Step

end Work

theorem Files.Grown.readFile {f g : Files} {p path : Path} {bytes : ByteArray} (hg : f.Grown p g)
    (h : f.readFile path = .ok bytes) : g.readFile path = .ok bytes := by
  refine readFile_of_dirsKept hg.dirsKept ?_ h
  obtain ⟨-, q, x, hq, hb⟩ := readFile_eq_ok.mp h
  rw [placeOf_of_place? hq]
  rcases hg.entry q with he | ⟨hn, -⟩
  · exact he
  · rw [hn] at hb
    cases hb

theorem Files.Grown.not_file {f g : Files} {p : Path} {q : Place} (hg : f.Grown p g)
    (h : ∀ b x, f.tree.get? q ≠ some (.file b x)) (b : ByteArray) (x : Bool) :
    g.tree.get? q ≠ some (.file b x) := by
  rcases hg.entry q with he | ⟨-, hd, -⟩
  · rw [he]
    exact h b x
  · simp [hd]

namespace Account

/-- A module with this account leaves the file at a path alone. -/
def Spares (plan : Plan) (f : Files) (path : Path) (a : Account) : Prop :=
  (∀ path' ∈ a.report.written, f.placeOf path' ≠ f.placeOf path) ∧
    (plan.pruneStale = true → f.placeOf path.parent ≠ f.placeOf a.dir)

section Done

variable {plan : Plan} {answer : String → Except String Decompiled} {f g : Files} {a : Account} {path : Path}

theorem Done.readFile (hd : a.Done plan answer f g) (ho : IsOutput path) (hs : a.Spares plan f path)
    {bytes : ByteArray} (h : f.readFile path = .ok bytes) : g.readFile path = .ok bytes := by
  refine Files.readFile_of_dirsKept hd.dirs ?_ h
  obtain ⟨-, q, x, hq, hb⟩ := Files.readFile_eq_ok.mp h
  rcases hd.others (f.placeOf path) with he | ⟨path', hp, he⟩ | ⟨path', he⟩ | ⟨hn, -⟩ | ⟨hon, -, name, he⟩
  · exact he
  · exact absurd he.symm (hs.1 path' hp)
  · exact absurd he (ho.placeOf_ne f path')
  · rw [Files.placeOf_of_place? hq, hb] at hn
    cases hn
  · rw [ho.placeOf] at he
    exact absurd (List.append_inj_left' he rfl) (hs.2 hon)

theorem Done.not_file (hd : a.Done plan answer f g) (ho : IsOutput path)
    (hw : ∀ path' ∈ a.report.written, f.placeOf path' ≠ f.placeOf path)
    (h : ∀ b x, f.tree.get? (f.placeOf path) ≠ some (.file b x)) (b : ByteArray) (x : Bool) :
    g.tree.get? (f.placeOf path) ≠ some (.file b x) := by
  rcases hd.others (f.placeOf path) with he | ⟨path', hp, he⟩ | ⟨path', he⟩ | ⟨-, hn⟩ | ⟨-, hn, -⟩
  · rw [he]
    exact h b x
  · exact absurd he.symm (hw path' hp)
  · exact absurd he (ho.placeOf_ne f path')
  · simp [hn]
  · simp [hn]

theorem Done.pruned (hd : a.Done plan answer f g) (ho : IsOutput path) (hon : plan.pruneStale = true)
    (hdir : f.placeOf path.parent = f.placeOf a.dir)
    (hw : ∀ path' ∈ a.report.written, f.placeOf path' ≠ f.placeOf path) (b : ByteArray) (x : Bool) :
    g.tree.get? (f.placeOf path) ≠ some (.file b x) := by
  rw [ho.placeOf, hdir] at hw ⊢
  exact hd.gone hon path.name ho.extension hw b x

end Done

end Account

namespace Work

section Run

variable {plan : Plan} {answer : Path → String → Except String Decompiled}

theorem accounts_cons (plan : Plan) (m : ModuleFile) (rest : List ModuleFile) (w : Work) :
    w.accounts plan (m :: rest) =
      (w.account? plan m).toList ++ (w.processModule plan m).1.accounts plan rest := rfl

theorem placeOf_of_processModules (ha : ∀ module, plan.engine.Fixed module (answer module))
    {modules : List ModuleFile} {w : Work} {outcomes : List ModuleOutcome} (hr : w.Ready)
    (h : (w.processModules plan modules).2 = .ok outcomes) :
    (w.processModules plan modules).1.files.placeOf = w.files.placeOf := by
  induction modules generalizing w outcomes with
  | nil => rfl
  | cons m rest ih =>
    obtain ⟨o, outcomes', hm, -, hrest, hv⟩ := processModules_eq_ok h
    obtain ⟨hr', hc, -⟩ := done_of_processModule hr (ha m.path) hm
    rw [hv, ih hr' hrest, hc]

theorem readFile_of_processModules (ha : ∀ module, plan.engine.Fixed module (answer module))
    {modules : List ModuleFile} {w : Work} {outcomes : List ModuleOutcome} {path : Path} {bytes : ByteArray}
    (hr : w.Ready) (h : (w.processModules plan modules).2 = .ok outcomes) (ho : IsOutput path)
    (hs : ∀ a ∈ w.accounts plan modules, a.Spares plan w.files path) (hread : w.files.readFile path = .ok bytes) :
    (w.processModules plan modules).1.files.readFile path = .ok bytes := by
  induction modules generalizing w outcomes with
  | nil => exact hread
  | cons m rest ih =>
    obtain ⟨o, outcomes', hm, -, hrest, hv⟩ := processModules_eq_ok h
    obtain ⟨hr', hc, hd⟩ := done_of_processModule hr (ha m.path) hm
    rw [accounts_cons] at hs
    rw [hv]
    refine ih hr' hrest (fun a hmem => ?_) ?_
    · have hsp := hs a (List.mem_append_right _ hmem)
      rw [Account.Spares, ← hc] at hsp
      exact hsp
    · rcases hd with ⟨-, -, p, hg⟩ | ⟨a, hacc, -, -, hd⟩
      · exact hg.readFile hread
      · exact hd.readFile ho (hs a (by simp [hacc])) hread

theorem not_file_of_processModules (ha : ∀ module, plan.engine.Fixed module (answer module))
    {modules : List ModuleFile} {w : Work} {outcomes : List ModuleOutcome} {path : Path} (hr : w.Ready)
    (h : (w.processModules plan modules).2 = .ok outcomes) (ho : IsOutput path)
    (hw : ∀ a ∈ w.accounts plan modules, ∀ path' ∈ a.report.written, w.files.placeOf path' ≠ w.files.placeOf path)
    (hn : ∀ b x, w.files.tree.get? (w.files.placeOf path) ≠ some (.file b x)) (b : ByteArray) (x : Bool) :
    (w.processModules plan modules).1.files.tree.get? (w.files.placeOf path) ≠ some (.file b x) := by
  induction modules generalizing w outcomes with
  | nil => exact hn b x
  | cons m rest ih =>
    obtain ⟨o, outcomes', hm, -, hrest, hv⟩ := processModules_eq_ok h
    obtain ⟨hr', hc, hd⟩ := done_of_processModule hr (ha m.path) hm
    rw [accounts_cons] at hw
    rw [hv, ← hc]
    refine ih hr' hrest (fun a hmem => ?_) fun b x => ?_
    · rw [hc]
      exact hw a (List.mem_append_right _ hmem)
    · rw [hc]
      rcases hd with ⟨-, -, p, hg⟩ | ⟨a, hacc, -, -, hd⟩
      · exact hg.not_file hn b x
      · exact hd.not_file ho (hw a (by simp [hacc])) hn b x

/-- A file in a directory that a module prunes is gone, unless one of the modules has written it. -/
theorem pruned_of_processModules (ha : ∀ module, plan.engine.Fixed module (answer module))
    {modules : List ModuleFile} {w : Work} {outcomes : List ModuleOutcome} {path : Path} (hr : w.Ready)
    (h : (w.processModules plan modules).2 = .ok outcomes) (ho : IsOutput path) (hon : plan.pruneStale = true)
    (hdir : ∃ a ∈ w.accounts plan modules, w.files.placeOf path.parent = w.files.placeOf a.dir)
    (hw : ∀ a ∈ w.accounts plan modules, ∀ path' ∈ a.report.written, w.files.placeOf path' ≠ w.files.placeOf path)
    (b : ByteArray) (x : Bool) :
    (w.processModules plan modules).1.files.tree.get? (w.files.placeOf path) ≠ some (.file b x) := by
  induction modules generalizing w outcomes with
  | nil => simp [accounts] at hdir
  | cons m rest ih =>
    obtain ⟨o, outcomes', hm, -, hrest, hv⟩ := processModules_eq_ok h
    obtain ⟨hr', hc, -⟩ := done_of_processModule hr (ha m.path) hm
    rw [accounts_cons] at hw hdir
    have hw' : ∀ a ∈ (w.processModule plan m).1.accounts plan rest, ∀ path' ∈ a.report.written,
        (w.processModule plan m).1.files.placeOf path' ≠ (w.processModule plan m).1.files.placeOf path := by
      rw [hc]
      exact fun a hmem => hw a (List.mem_append_right _ hmem)
    obtain ⟨a, hmem, hdir⟩ := hdir
    rw [hv, ← hc]
    rcases List.mem_append.mp hmem with hmem | hmem
    · refine not_file_of_processModules ha hr' hrest ho hw' (fun b x => ?_) b x
      rw [hc]
      exact (done_of_mem hr (ha m.path) hm hmem).pruned ho hon hdir (hw a (List.mem_append_left _ hmem)) b x
    · refine ih hr' hrest ⟨a, hmem, ?_⟩ hw'
      rw [hc]
      exact hdir

theorem outputs_of_accounts (ha : ∀ module, plan.engine.Fixed module (answer module))
    {modules : List ModuleFile} {w : Work} {outcomes : List ModuleOutcome} (hr : w.Ready)
    (h : (w.processModules plan modules).2 = .ok outcomes) :
    ∀ a ∈ w.accounts plan modules, a.report.outcomes.length = a.types.length ∧
      ∀ path ∈ a.report.written, IsOutput path ∧ path.parent = a.dir := by
  induction modules generalizing w outcomes with
  | nil => simp [accounts]
  | cons m rest ih =>
    obtain ⟨o, outcomes', hm, -, hrest, -⟩ := processModules_eq_ok h
    obtain ⟨hr', -⟩ := done_of_processModule hr (ha m.path) hm
    intro a hmem
    rw [accounts_cons] at hmem
    rcases List.mem_append.mp hmem with hmem | hmem
    · have hd := done_of_mem hr (ha m.path) hm hmem
      exact ⟨hd.length, hd.outputs⟩
    · exact ih hr' hrest a hmem

theorem reports_of_processModules (ha : ∀ module, plan.engine.Fixed module (answer module))
    {modules : List ModuleFile} {w : Work} {outcomes : List ModuleOutcome} (hr : w.Ready)
    (h : (w.processModules plan modules).2 = .ok outcomes) :
    outcomes.filterMap (·.report) = (w.accounts plan modules).map (·.report) := by
  induction modules generalizing w outcomes with
  | nil =>
    cases h
    rfl
  | cons m rest ih =>
    obtain ⟨o, outcomes', hm, rfl, hrest, -⟩ := processModules_eq_ok h
    obtain ⟨hr', -, hd⟩ := done_of_processModule hr (ha m.path) hm
    rw [accounts_cons, List.map_append, ← ih hr' hrest]
    rcases hd with ⟨hacc, hrep, -⟩ | ⟨a, hacc, hrep, -⟩
    · simp [hacc, hrep]
    · simp [hacc, hrep]

end Run

end Work

/-- That each type that was written has its text in its file, and no two of them the same file. -/
structure NothingLost (answer : Path → String → Except String Decompiled) (accounts : List Account)
    (files : Files) : Prop where
  texts : ∀ a ∈ accounts, ∀ d out path, (d, out) ∈ a.types.zip a.report.outcomes → out.result = .written path →
    ∃ s, textIn? (answer a.module.path d.handle) = some s ∧ files.readFile path = .ok s.toUTF8
  distinct : ((accounts.flatMap (·.report.written)).map files.placeOf).Nodup

/-- That a module and a later one with the same directory keep apart: the later one neither writes a file name of
the earlier one nor prunes the directory of files that the earlier one wrote. -/
def KeptApart (plan : Plan) (files : Files) (a b : Account) : Prop :=
  files.placeOf a.dir = files.placeOf b.dir →
    (plan.pruneStale = true → a.report.written = []) ∧
      ∀ path ∈ a.report.written, ∀ path' ∈ b.report.written, path.name ≠ path'.name

instance (plan : Plan) (files : Files) (a b : Account) : Decidable (KeptApart plan files a b) :=
  inferInstanceAs (Decidable (_ → _ ∧ _))

theorem nothingLost_cons {answer : Path → String → Except String Decompiled} {a : Account} {bs : List Account}
    {files : Files} (hd : (a.report.written.map files.placeOf).Nodup) :
    NothingLost answer (a :: bs) files ↔
      ((∀ d out path, (d, out) ∈ a.types.zip a.report.outcomes → out.result = .written path →
          ∃ s, textIn? (answer a.module.path d.handle) = some s ∧ files.readFile path = .ok s.toUTF8) ∧
        ∀ b ∈ bs, ∀ path ∈ a.report.written, ∀ path' ∈ b.report.written, files.placeOf path ≠ files.placeOf path') ∧
      NothingLost answer bs files := by
  constructor
  · rintro ⟨ht, hn⟩
    rw [List.flatMap_cons, List.map_append, List.nodup_append] at hn
    refine ⟨⟨ht a (by simp), fun b hb path hp path' hp' => ?_⟩, fun b hb => ht b (by simp [hb]), hn.2.1⟩
    exact hn.2.2 _ (List.mem_map_of_mem hp) _ (List.mem_map_of_mem (List.mem_flatMap.mpr ⟨b, hb, hp'⟩))
  · rintro ⟨⟨ht, hne⟩, ht', hn⟩
    refine ⟨fun b hb => ?_, ?_⟩
    · rcases List.mem_cons.mp hb with rfl | hb
      · exact ht
      · exact ht' b hb
    · rw [List.flatMap_cons, List.map_append, List.nodup_append]
      refine ⟨hd, hn, ?_⟩
      rintro _ hx _ hy
      obtain ⟨path, hp, rfl⟩ := List.mem_map.mp hx
      obtain ⟨path', hp', rfl⟩ := List.mem_map.mp hy
      obtain ⟨b, hb, hp'⟩ := List.mem_flatMap.mp hp'
      exact hne b hb path hp path' hp'

namespace Work

section Run

variable {plan : Plan} {answer : Path → String → Except String Decompiled}

/-- What one module wrote is still there after the modules `rest` exactly if it keeps apart from each of them. -/
theorem keptApart_iff (ha : ∀ module, plan.engine.Fixed module (answer module)) {rest : List ModuleFile}
    {w v : Work} {a : Account} {outcomes : List ModuleOutcome} (hr : v.Ready)
    (hd : a.Done plan (answer a.module.path) w.files v.files)
    (h : (v.processModules plan rest).2 = .ok outcomes) :
    ((∀ d out path, (d, out) ∈ a.types.zip a.report.outcomes → out.result = .written path →
        ∃ s, textIn? (answer a.module.path d.handle) = some s ∧
          (v.processModules plan rest).1.files.readFile path = .ok s.toUTF8) ∧
      ∀ b ∈ v.accounts plan rest, ∀ path ∈ a.report.written, ∀ path' ∈ b.report.written,
        v.files.placeOf path ≠ v.files.placeOf path') ↔
      ∀ b ∈ v.accounts plan rest, KeptApart plan v.files a b := by
  have hc : v.files.placeOf = w.files.placeOf := funext (Files.placeOf_of_current hd.dirs.current)
  have hbs := outputs_of_accounts ha hr h
  constructor
  · rintro ⟨ht, hne⟩ b hb hdir
    refine ⟨fun hon => ?_, fun path hp path' hp' hname => ?_⟩
    · refine List.eq_nil_iff_forall_not_mem.mpr fun path hp => ?_
      obtain ⟨ho, hpar⟩ := hd.outputs path hp
      obtain ⟨d, out, hz, hw⟩ := hd.written path hp
      obtain ⟨s, -, hread⟩ := ht d out path hz hw
      obtain ⟨-, q, x, hq, hfile⟩ := Files.readFile_eq_ok.mp hread
      have hq := Files.placeOf_of_place? hq
      rw [placeOf_of_processModules ha hr h] at hq
      refine pruned_of_processModules ha hr h ho hon ⟨b, hb, hpar ▸ hdir⟩ (fun b' hb' path' hp' => ?_) _ x
        (hq ▸ hfile)
      exact Ne.symm (hne b' hb' path hp path' hp')
    · obtain ⟨ho, hpar⟩ := hd.outputs path hp
      obtain ⟨ho', hpar'⟩ := (hbs b hb).2 path' hp'
      refine hne b hb path hp path' hp' ?_
      rw [ho.placeOf, ho'.placeOf, hpar, hpar', hdir, hname]
  · intro hk
    have hne : ∀ b ∈ v.accounts plan rest, ∀ path ∈ a.report.written, ∀ path' ∈ b.report.written,
        v.files.placeOf path ≠ v.files.placeOf path' := by
      intro b hb path hp path' hp' heq
      obtain ⟨ho, hpar⟩ := hd.outputs path hp
      obtain ⟨ho', hpar'⟩ := (hbs b hb).2 path' hp'
      rw [ho.placeOf, ho'.placeOf, hpar, hpar'] at heq
      obtain ⟨hdir, hname⟩ := List.append_inj' heq rfl
      exact (hk b hb hdir).2 path hp path' hp' (List.cons.inj hname).1
    refine ⟨fun d out path hz hw => ?_, hne⟩
    obtain ⟨hp, s, hs, hread⟩ := hd.texts d out path hz hw
    obtain ⟨ho, hpar⟩ := hd.outputs path hp
    refine ⟨s, hs, readFile_of_processModules ha hr h ho (fun b hb => ⟨fun path' hp' => ?_, fun hon hdir => ?_⟩) hread⟩
    · exact Ne.symm (hne b hb path hp path' hp')
    · have hnil := (hk b hb (hpar ▸ hdir)).1 hon
      rw [hnil] at hp
      cases hp

theorem nothingLost_iff (ha : ∀ module, plan.engine.Fixed module (answer module))
    {modules : List ModuleFile} {w : Work} {outcomes : List ModuleOutcome} (hr : w.Ready)
    (h : (w.processModules plan modules).2 = .ok outcomes) :
    NothingLost answer (w.accounts plan modules) (w.processModules plan modules).1.files ↔
      (w.accounts plan modules).Pairwise (KeptApart plan w.files) := by
  induction modules generalizing w outcomes with
  | nil => exact ⟨fun _ => .nil, fun _ => ⟨by simp [accounts], by simp [accounts]⟩⟩
  | cons m rest ih =>
    obtain ⟨o, outcomes', hm, -, hrest, hv⟩ := processModules_eq_ok h
    obtain ⟨hr', hc, hd⟩ := done_of_processModule hr (ha m.path) hm
    have hk : KeptApart plan (w.processModule plan m).1.files = KeptApart plan w.files := by
      funext a b
      simp only [KeptApart, hc]
    have ih := ih hr' hrest
    rw [hk] at ih
    rw [accounts_cons, hv]
    rcases hd with ⟨hacc, -⟩ | ⟨a, hacc, -, rfl, hd⟩
    · simpa [hacc] using ih
    · have hcu := placeOf_of_processModules ha hr' hrest
      have hn := hd.distinct
      rw [← hc, ← hcu] at hn
      rw [hacc, Option.toList_some, List.singleton_append, nothingLost_cons hn, List.pairwise_cons, ih, hcu,
        keptApart_iff ha hr' hd hrest, hk]

/-- Whether a run keeps what it writes. A run that returns keeps all of it, each file with the text of its own
type, exactly if no two of its modules with one directory get in each other's way. -/
theorem run_keeps_iff {given : Option (List ModuleFile)} {w : Work} {s : Summary}
    (hx : w.outputs.extension = ".cstxt") (hm : w.outputs.made = [])
    (ha : ∀ module, plan.engine.Fixed module (answer module)) (h : (w.run plan given).2 = .ok s) :
    ∃ modules, (w.rooted plan).modulesOf plan given = .ok modules ∧
      s.reports = ((w.rooted plan).accounts plan modules).map (·.report) ∧
      (∀ a ∈ (w.rooted plan).accounts plan modules, a.report.outcomes.length = a.types.length) ∧
      (NothingLost answer ((w.rooted plan).accounts plan modules) (w.run plan given).1.files ↔
        ((w.rooted plan).accounts plan modules).Pairwise (KeptApart plan w.files)) := by
  obtain ⟨-, modules, -, hmod, hp, hf⟩ := run_eq_ok h
  have hr : (w.rooted plan).Ready := by
    refine ⟨hx, fun name dir hl => ?_⟩
    have hl : w.outputs.made.lookup name = some dir := hl
    simp [hm] at hl
  have hc : (w.rooted plan).files.placeOf = w.files.placeOf :=
    funext (Files.placeOf_of_current (Outputs.ensureRoot_grown w.outputs w.files).current)
  have hk : KeptApart plan w.files = KeptApart plan (w.rooted plan).files := by
    funext a b
    simp only [KeptApart, hc]
  rw [hf, hk]
  exact ⟨modules, hmod, reports_of_processModules ha hr hp, fun a hmem => (outputs_of_accounts ha hr hp a hmem).1,
    nothingLost_iff ha hr hp⟩

end Run

def oneStem : List ModuleFile := [⟨⟨1, ["src", "Rust.dll"]⟩⟩, ⟨⟨1, ["src", "Rust.exe"]⟩⟩]

theorem run_loses_oneStem :
    ∃ s, (bare.run (Plan.steady [⟨"Player", "Player", "1"⟩]) (some oneStem)).2 = .ok s ∧
      ¬ NothingLost (fun module handle => .ok (.text (Text.CodeText.ofString (module.toString ++ handle))))
        ((bare.rooted (Plan.steady [⟨"Player", "Player", "1"⟩])).accounts
          (Plan.steady [⟨"Player", "Player", "1"⟩]) oneStem)
        (bare.run (Plan.steady [⟨"Player", "Player", "1"⟩]) (some oneStem)).1.files := by
  have hok : (bare.run (Plan.steady [⟨"Player", "Player", "1"⟩]) (some oneStem)).2.isOk = true := by
    decide +kernel
  cases hs : (bare.run (Plan.steady [⟨"Player", "Player", "1"⟩]) (some oneStem)).2 with
  | error e =>
    rw [hs] at hok
    cases hok
  | ok s =>
    refine ⟨s, rfl, ?_⟩
    obtain ⟨modules, hm, -, -, hiff⟩ := run_keeps_iff rfl rfl (fun _ _ _ _ _ => rfl) hs
    cases hm
    rw [hiff]
    decide +kernel

end Work

end Winnow
