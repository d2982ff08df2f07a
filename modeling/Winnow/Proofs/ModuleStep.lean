import Winnow.Proofs.TypeStep

/-!
What processing one module can do. A module whose types come to be listed is either done with all of them or
ends the run; any other module is passed over or fails as a whole, with no type processed.
-/
set_option autoImplicit false

namespace Winnow

instance decidableEqExcept {ε α : Type} [DecidableEq ε] [DecidableEq α] : DecidableEq (Except ε α)
  | .error e, .error e' => decidable_of_iff (e = e') (by simp)
  | .error _, .ok _ => isFalse nofun
  | .ok _, .error _ => isFalse nofun
  | .ok a, .ok a' => decidable_of_iff (a = a') (by simp)

theorem exists_of_isOk {ε α : Type} {x : Except ε α} (h : x.isOk = true) : ∃ a, x = .ok a := by
  cases x with
  | error e => cases h
  | ok a => exact ⟨a, rfl⟩

theorem exists_of_bind {ε α β : Type} {x : Except ε α} {f : α → Except ε β} {b : β} (h : x >>= f = .ok b) :
    ∃ a, x = .ok a ∧ f a = .ok b := by
  cases x with
  | error e => cases h
  | ok a => exact ⟨a, rfl, h⟩

theorem mem_of_mapM {ε α β : Type} {xs : List α} {f : α → Except ε β} {ys : List β} (h : xs.mapM f = .ok ys) {y : β} :
    y ∈ ys ↔ ∃ x ∈ xs, f x = .ok y := by
  induction xs generalizing ys with
  | nil =>
    cases h
    simp
  | cons x xs ih =>
    rw [List.mapM_cons] at h
    obtain ⟨own, hown, h⟩ := exists_of_bind h
    obtain ⟨more, hmore, h⟩ := exists_of_bind h
    cases h
    simp [List.mem_cons, ih hmore, hown, eq_comm]

/-- A module whose types are about to be processed: the directory for their files, and the work so far. -/
structure Listing where
  dir : Path
  types : List TypeDescriptor
  work : Work

namespace Work

def prepare (m : ModuleFile) (w : Work) : Work × Except FileError Path :=
  let made := w.outputs.ensureModuleDir m.baseName w.files
  ({ w.tell .info s!"Processing module: {m.baseName}" with outputs := made.1, files := made.2.1 }, made.2.2)

def openModule (plan : Plan) (m : ModuleFile) (w : Work) : Work × Except String Unit :=
  let answer := plan.engine.openModule w.calls w.files m.path plan.searchPaths
  ((w.tellAll answer.1).call (.openModule m.path plan.searchPaths), answer.2)

def listTypes (plan : Plan) (m : ModuleFile) (w : Work) : Work × Except String (List TypeDescriptor) :=
  (w.call (.listTypes m.path), plan.engine.listTypes w.calls w.files m.path)

/-- The types of a module as they are listed at its turn, unless it is passed over or fails before. -/
def listing? (plan : Plan) (m : ModuleFile) (w : Work) : Option Listing :=
  if Importance.isImportant plan.importantPrefixes m.baseName then
    match w.prepare m with
    | (_, .error _) => none
    | (w, .ok dir) =>
      match w.openModule plan m with
      | (_, .error _) => none
      | (w, .ok ()) =>
        match w.listTypes plan m with
        | (_, .error _) => none
        | (w, .ok types) => some ⟨dir, types, w⟩
  else none

end Work

def Listing.begin (l : Listing) (m : ModuleFile) : Progress := ⟨l.work, [], { module := m.baseName }⟩

def Listing.process (plan : Plan) (m : ModuleFile) (l : Listing) : Progress × Except RunError Unit :=
  Progress.processTypes plan m.path l.dir l.types (l.begin m)

def Listing.attempts (plan : Plan) (m : ModuleFile) (l : Listing) : List Path :=
  Progress.attempts plan m.path l.dir l.types (l.begin m)

theorem Listing.process_induction {plan : Plan} {m : ModuleFile} {l : Listing} {p : Progress}
    {I : List TypeDescriptor → List Path → Progress → Prop}
    (step : ∀ done tried p d a q result, I done tried p →
      Progress.TypeStep plan m.path l.dir p d a q (.ok result) →
      I (done ++ [d]) (tried ++ a.toList) (q.recorded d result))
    (h : l.process plan m = (p, .ok ())) (hi : I [] [] (l.begin m)) : I l.types (l.attempts plan m) p :=
  Progress.processTypes_induction step h hi

namespace Outputs

/-- Asking for the directory of a module changes nothing about the outputs but what is noted down as made. -/
theorem ensureModuleDir_fst (o : Outputs) (name : String) (f : Files) :
    ∃ made, (o.ensureModuleDir name f).1 = { o with made } := by
  unfold ensureModuleDir
  split
  · exact ⟨o.made, rfl⟩
  · simp only
    split
    · exact ⟨_, rfl⟩
    · exact ⟨o.made, rfl⟩

theorem ensureRoot_grown (o : Outputs) (f : Files) : f.Grown o.root (o.ensureRoot f).1 := by
  have hg := Files.makeDirs_grown f o.root
  unfold ensureRoot
  generalize f.makeDirs o.root = made at hg ⊢
  obtain ⟨g, result⟩ := made
  cases result <;> exact hg

theorem ensureModuleDir_made {o : Outputs} {f : Files} (name : String) (hm : ∀ name dir,
    o.made.lookup name = some dir → f.isDir dir = .ok true) :
    (∃ p, f.Grown p (o.ensureModuleDir name f).2.1) ∧
      (∀ name' dir, (o.ensureModuleDir name f).1.made.lookup name' = some dir →
        (o.ensureModuleDir name f).2.1.isDir dir = .ok true) ∧
      ∀ dir, (o.ensureModuleDir name f).2.2 = .ok dir → (o.ensureModuleDir name f).2.1.isDir dir = .ok true := by
  unfold ensureModuleDir
  cases hl : o.made.lookup name with
  | some dir =>
    refine ⟨⟨dir, .refl f dir⟩, hm, fun dir' hd => ?_⟩
    cases hd
    exact hm name dir hl
  | none =>
    have hg := Files.makeDirs_grown f (o.root.join (.ofString name))
    simp only
    rcases hr : f.makeDirs (o.root.join (.ofString name)) with ⟨g, result⟩
    rw [hr] at hg
    cases result with
    | error e =>
      refine ⟨⟨_, hg⟩, fun name' dir hd => ?_, fun dir hd => by cases hd⟩
      exact Files.isDir_of_dirsKept hg.dirsKept (hm name' dir hd)
    | ok u =>
      have hd := Files.isDir_of_makeDirs hr
      refine ⟨⟨_, hg⟩, fun name' dir hn => ?_, fun dir hd' => ?_⟩
      · simp only [List.lookup_cons] at hn
        split at hn
        · cases hn
          exact hd
        · exact Files.isDir_of_dirsKept hg.dirsKept (hm name' dir hn)
      · cases hd'
        exact hd

end Outputs

namespace Work

def doneMessage (m : ModuleFile) (r : Report) : String :=
  s!"{m.baseName}: processed {r.processed} type(s), skipped {r.skippedGenerated} generated, {r.failed.length} failed"

/-- Everything that processing one module can do. -/
inductive ModuleStep (plan : Plan) (m : ModuleFile) (w : Work) : Work → Except RunError ModuleOutcome → Prop
  | passed (v : Work) (o : ModuleOutcome) (hl : w.listing? plan m = none) (hm : o.module = m)
      (hs : o.status ≠ .completed) (hr : o.report = none)
      (hv : v.files = w.files ∧ v.outputs = w.outputs ∨
        v.files = (w.prepare m).1.files ∧ v.outputs = (w.prepare m).1.outputs) :
      ModuleStep plan m w v (.ok o)
  | escaped (l : Listing) (p : Progress) (e : RunError) (hl : w.listing? plan m = some l)
      (hp : l.process plan m = (p, .error e)) :
      ModuleStep plan m w (p.work.close plan m.path) (.error e)
  | unpruned (l : Listing) (p : Progress) (v : Work) (e : RunError) (hl : w.listing? plan m = some l)
      (hp : l.process plan m = (p, .ok ()))
      (hv : (p.work.close plan m.path).prune plan l.dir p.report.written = (v, .error e)) :
      ModuleStep plan m w v (.error e)
  | completed (l : Listing) (p : Progress) (v : Work) (hl : w.listing? plan m = some l)
      (hp : l.process plan m = (p, .ok ()))
      (hv : (p.work.close plan m.path).prune plan l.dir p.report.written = (v, .ok ())) :
      ModuleStep plan m w (v.tell .info (doneMessage m p.report))
        (.ok { module := m, status := .completed, report := some p.report })

theorem processModule_eq (plan : Plan) (m : ModuleFile) (w : Work) :
    w.processModule plan m =
      if Importance.isImportant plan.importantPrefixes m.baseName then
        match w.prepare m with
        | (w, .error e) =>
          ((w.failModule m "process module" e.message).1, .ok (w.failModule m "process module" e.message).2)
        | (w, .ok dir) =>
          match w.openModule plan m with
          | (w, .error reason) =>
            ((w.failModule m "process module" reason).1, .ok (w.failModule m "process module" reason).2)
          | (w, .ok ()) => w.processOpen plan m dir
      else
        (w.tell .info s!"Skipping unimportant module: {m.baseName}",
          .ok { module := m, status := .skippedUnimportant }) := by
  unfold processModule
  cases Importance.isImportant plan.importantPrefixes m.baseName with
  | false => rfl
  | true =>
    rcases hd : w.outputs.ensureModuleDir m.baseName w.files with ⟨outputs, files, made⟩
    cases made with
    | error e => simp [prepare, hd]
    | ok dir =>
      rcases ho : plan.engine.openModule w.calls files m.path plan.searchPaths with ⟨told, opened⟩
      cases opened <;> simp [prepare, openModule, hd, ho]

theorem processOpen_eq (plan : Plan) (m : ModuleFile) (dir : Path) (w : Work) :
    w.processOpen plan m dir =
      match w.listTypes plan m with
      | (w, .error reason) =>
        ((w.failModule m "list types of" reason).1.close plan m.path,
          .ok (w.failModule m "list types of" reason).2)
      | (w, .ok types) =>
        match (Listing.mk dir types w).process plan m with
        | (p, .error e) => (p.work.close plan m.path, .error e)
        | (p, .ok ()) =>
          match (p.work.close plan m.path).prune plan dir p.report.written with
          | (w, .error e) => (w, .error e)
          | (w, .ok ()) =>
            (w.tell .info (doneMessage m p.report),
              .ok { module := m, status := .completed, report := some p.report }) := by
  unfold processOpen listTypes Listing.process Listing.begin
  cases plan.engine.listTypes w.calls w.files m.path with
  | error reason => rfl
  | ok types =>
    simp only
    rcases Progress.processTypes plan m.path dir types ⟨w.call (.listTypes m.path), [], { module := m.baseName }⟩
      with ⟨p, result⟩
    cases result with
    | error e => rfl
    | ok u =>
      simp only
      rcases (p.work.close plan m.path).prune plan dir p.report.written with ⟨v, pruned⟩
      cases pruned <;> rfl

theorem processModule_step (plan : Plan) (m : ModuleFile) (w : Work) :
    ModuleStep plan m w (w.processModule plan m).1 (w.processModule plan m).2 := by
  rw [processModule_eq]
  by_cases hi : Importance.isImportant plan.importantPrefixes m.baseName = true
  · rw [if_pos hi]
    rcases hd : w.prepare m with ⟨w1, made⟩
    have hv : w1.files = (w.prepare m).1.files ∧ w1.outputs = (w.prepare m).1.outputs := by simp [hd]
    cases made with
    | error e => exact .passed _ _ (by simp [listing?, hi, hd]) rfl (by simp [failModule]) rfl (.inr hv)
    | ok dir =>
      simp only
      rcases ho : w1.openModule plan m with ⟨w2, opened⟩
      have hv2 : w2.files = w1.files ∧ w2.outputs = w1.outputs := by
        have := congrArg Prod.fst ho
        simp only [openModule] at this
        simp [← this, call, tellAll]
      rw [← hv2.1, ← hv2.2] at hv
      cases opened with
      | error reason => exact .passed _ _ (by simp [listing?, hi, hd, ho]) rfl (by simp [failModule]) rfl (.inr hv)
      | ok u =>
        simp only
        rw [processOpen_eq]
        rcases ht : w2.listTypes plan m with ⟨w3, listed⟩
        have hv3 : w3 = w2.call (.listTypes m.path) := (congrArg Prod.fst ht).symm
        cases listed with
        | error reason =>
          refine .passed _ _ (by simp [listing?, hi, hd, ho, ht]) rfl (by simp [failModule]) rfl (.inr ?_)
          subst hv3
          exact hv
        | ok types =>
          have hl : w.listing? plan m = some ⟨dir, types, w3⟩ := by simp [listing?, hi, hd, ho, ht]
          simp only
          rcases hp : (Listing.mk dir types w3).process plan m with ⟨p, result⟩
          cases result with
          | error e => exact .escaped _ p e hl hp
          | ok u =>
            simp only
            rcases hr : (p.work.close plan m.path).prune plan dir p.report.written with ⟨v, pruned⟩
            cases pruned with
            | error e => exact .unpruned _ p v e hl hp hr
            | ok u => exact .completed _ p v hl hp hr
  · rw [if_neg hi]
    exact .passed _ _ (by simp [listing?, hi]) rfl (by simp) rfl (.inl ⟨rfl, rfl⟩)

theorem completed_of_processModule {plan : Plan} {m : ModuleFile} {w : Work} {o : ModuleOutcome}
    (h : (w.processModule plan m).2 = .ok o) (ho : o.status = .completed) :
    ∃ l p v, w.listing? plan m = some l ∧ l.process plan m = (p, .ok ()) ∧
      (p.work.close plan m.path).prune plan l.dir p.report.written = (v, .ok ()) ∧
      (w.processModule plan m).1 = v.tell .info (doneMessage m p.report) ∧ o.report = some p.report := by
  have hs := processModule_step plan m w
  rw [h] at hs
  generalize (w.processModule plan m).1 = w' at hs ⊢
  cases hs with
  | passed v o hl hm hs hr hv => exact absurd ho hs
  | completed l p v hl hp hv => exact ⟨l, p, v, hl, hp, hv, rfl, rfl⟩

/-- The types of a module are listed after its directory was made, and with nothing else changed. -/
theorem prepared_of_listing? {plan : Plan} {m : ModuleFile} {w : Work} {l : Listing}
    (h : w.listing? plan m = some l) :
    (w.prepare m).2 = .ok l.dir ∧ l.work.files = (w.prepare m).1.files ∧
      l.work.outputs = (w.prepare m).1.outputs := by
  unfold listing? at h
  split at h
  · split at h
    · simp at h
    · next w1 dir hd =>
      split at h
      · simp at h
      · next w2 ho =>
        split at h
        · simp at h
        · next w3 types ht =>
          simp only [Option.some.injEq] at h
          subst h
          have h2 := congrArg Prod.fst ho
          have h3 := congrArg Prod.fst ht
          simp only [openModule, listTypes] at h2 h3
          rw [hd]
          exact ⟨rfl, by simp [← h3, ← h2, tellAll], by simp [← h3, ← h2, tellAll]⟩
  · simp at h

theorem outputs_of_prepare (m : ModuleFile) (w : Work) : ∃ made, (w.prepare m).1.outputs = { w.outputs with made } :=
  w.outputs.ensureModuleDir_fst m.baseName w.files

theorem listed_of_listing? {plan : Plan} {m : ModuleFile} {w : Work} {l : Listing} (h : w.listing? plan m = some l) :
    ∃ history files, plan.engine.listTypes history files m.path = .ok l.types := by
  unfold listing? at h
  split at h
  · split at h
    · simp at h
    · split at h
      · simp at h
      · next w2 _ =>
        split at h
        · simp at h
        · next ht =>
          simp only [Option.some.injEq] at h
          subst h
          exact ⟨w2.calls, w2.files, congrArg Prod.snd ht⟩
  · simp at h

theorem outputs_of_listing? {plan : Plan} {m : ModuleFile} {w : Work} {l : Listing}
    (h : w.listing? plan m = some l) : ∃ made, l.work.outputs = { w.outputs with made } := by
  rw [(prepared_of_listing? h).2.2]
  exact outputs_of_prepare m w

theorem prune_eq_ok {plan : Plan} {w v : Work} {dir : Path} {written : List Path}
    (h : w.prune plan dir written = (v, .ok ())) :
    v.outputs = w.outputs ∧ (plan.pruneStale = false ∧ v.files = w.files ∨ plan.pruneStale = true ∧
      ∃ told removed, w.outputs.pruneStale dir written w.files = (v.files, told, .ok removed)) := by
  unfold prune at h
  cases hp : plan.pruneStale with
  | false =>
    rw [hp] at h
    cases h
    exact ⟨rfl, .inl ⟨rfl, rfl⟩⟩
  | true =>
    rw [hp] at h
    rcases hr : w.outputs.pruneStale dir written w.files with ⟨files, told, result⟩
    cases result with
    | error e => simp [hr, Except.map] at h
    | ok removed =>
      simp only [hr, if_true, Prod.mk.injEq] at h
      obtain ⟨rfl, -⟩ := h
      exact ⟨rfl, .inr ⟨rfl, told, removed, rfl⟩⟩

theorem process_of_listing? {plan : Plan} {m : ModuleFile} {w : Work} {l : Listing} {o : ModuleOutcome}
    (hl : w.listing? plan m = some l) (h : (w.processModule plan m).2 = .ok o) :
    ∃ p, l.process plan m = (p, .ok ()) ∧
      o = { module := m, status := .completed, report := some p.report } := by
  have hs := processModule_step plan m w
  rw [h] at hs
  generalize (w.processModule plan m).1 = v at hs
  cases hs with
  | passed v o hl' => cases hl.symm.trans hl'
  | completed l' p v hl' hp hv =>
    cases hl.symm.trans hl'
    exact ⟨p, hp, rfl⟩

end Work

/-- A decompiler that lists the same types for every module; a text names its module and its handle. -/
def Engine.steady (types : List TypeDescriptor) : Engine where
  openModule _ _ _ _ := ([], .ok ())
  listTypes _ _ _ := .ok types
  decompile _ _ module _ handle := .ok (.text (Text.CodeText.ofString (module.toString ++ handle)))
  close _ _ := []

def Plan.steady (types : List TypeDescriptor) : Plan where
  sourceDir := ⟨1, ["src"]⟩
  modulePatterns := ["*.dll"]
  importantPrefixes := ["Rust"]
  pruneStale := false
  referencePaths := []
  classifier := ⟨[]⟩
  engine := Engine.steady types
  homes := ⟨⟨1, ["home"]⟩, []⟩

def Work.bare : Work := ⟨⟨⟨[]⟩, []⟩, ⟨⟨1, ["out"]⟩, ".cstxt", []⟩, #[], #[]⟩

end Winnow
