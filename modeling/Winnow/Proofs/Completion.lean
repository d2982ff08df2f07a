import Winnow.Proofs.ModuleStep
import Winnow.Proofs.Pruning

/-!
When a run returns. A module ends the run if a type of it comes to a path that no file can have, or if its
directory cannot be pruned; whatever else a decompiler answers and a file system refuses is an outcome like any
other.
-/
set_option autoImplicit false

namespace Winnow

namespace Work

/-- That a module ends the run when it is processed. -/
def Escapes (plan : Plan) (m : ModuleFile) (w : Work) : Prop :=
  ∃ l, w.listing? plan m = some l ∧
    ((∃ path ∈ l.attempts plan m, Outputs.Unwritable path) ∨
      plan.pruneStale = true ∧ ∃ p, l.process plan m = (p, .ok ()) ∧
        p.work.outputs.Unprunable l.dir p.report.written p.work.files)

def after (plan : Plan) (modules : List ModuleFile) (w : Work) : Work :=
  modules.foldl (fun w m => (w.processModule plan m).1) w

theorem after_cons (plan : Plan) (m : ModuleFile) (modules : List ModuleFile) (w : Work) :
    w.after plan (m :: modules) = (w.processModule plan m).1.after plan modules := by
  simp only [after, List.foldl_cons]

theorem prune_eq_error_iff {plan : Plan} {dir : Path} {written : List Path} {w : Work} :
    (∃ e, (w.prune plan dir written).2 = .error e) ↔
      plan.pruneStale = true ∧ w.outputs.Unprunable dir written w.files := by
  have h := Outputs.pruneStale_isOk_iff w.outputs dir written w.files
  unfold prune
  cases plan.pruneStale with
  | false => simp
  | true =>
    generalize w.outputs.pruneStale dir written w.files = pruned at h ⊢
    obtain ⟨files, told, result⟩ := pruned
    cases result with
    | error e =>
      have hu : w.outputs.Unprunable dir written w.files := by simpa using h
      simp [hu, Except.map]
    | ok removed => simp [h.mp ⟨removed, rfl⟩, Except.map]

theorem process_isOk_iff (plan : Plan) (m : ModuleFile) (l : Listing) :
    (l.process plan m).2 = .ok () ↔ ∀ path ∈ l.attempts plan m, ¬ Outputs.Unwritable path :=
  Progress.processTypes_isOk_iff plan m.path l.dir l.types (l.begin m)

theorem module_of_processModule {plan : Plan} {m : ModuleFile} {w : Work} {o : ModuleOutcome}
    (h : (w.processModule plan m).2 = .ok o) : o.module = m := by
  have hs := processModule_step plan m w
  rw [h] at hs
  generalize (w.processModule plan m).1 = v at hs
  cases hs with
  | passed v o hl hm hs hr hv => exact hm
  | completed l p v hl hp hv => rfl

theorem processModule_isOk_iff (plan : Plan) (m : ModuleFile) (w : Work) :
    (∃ o, (w.processModule plan m).2 = .ok o) ↔ ¬ w.Escapes plan m := by
  have hs := processModule_step plan m w
  generalize (w.processModule plan m).1 = v at hs
  generalize (w.processModule plan m).2 = result at hs ⊢
  cases hs with
  | passed v o hl hm hs hr hv =>
    have he : ¬ w.Escapes plan m := by
      rintro ⟨l, hl', -⟩
      rw [hl] at hl'
      cases hl'
    simp [he]
  | escaped l p e hl hp =>
    have hu : ∃ path ∈ l.attempts plan m, Outputs.Unwritable path := by
      by_cases hu : ∃ path ∈ l.attempts plan m, Outputs.Unwritable path
      · exact hu
      · have hk := (process_isOk_iff plan m l).mpr fun path hp hu' => hu ⟨path, hp, hu'⟩
        rw [hp] at hk
        cases hk
    simp [show w.Escapes plan m from ⟨l, hl, .inl hu⟩]
  | unpruned l p v e hl hp hv =>
    obtain ⟨hon, hu⟩ := prune_eq_error_iff.mp ⟨e, congrArg Prod.snd hv⟩
    simp [show w.Escapes plan m from ⟨l, hl, .inr ⟨hon, p, hp, hu⟩⟩]
  | completed l p v hl hp hv =>
    have he : ¬ w.Escapes plan m := by
      rintro ⟨l', hl', hc⟩
      rw [hl] at hl'
      cases hl'
      rcases hc with ⟨path, ha, hu⟩ | ⟨hon, p', hp', hu⟩
      · exact (process_isOk_iff plan m l).mp (by rw [hp]) path ha hu
      · rw [hp] at hp'
        cases hp'
        obtain ⟨e, he⟩ := (prune_eq_error_iff (w := p.work.close plan m.path)).mpr ⟨hon, hu⟩
        rw [hv] at he
        cases he
    simp [he]

seal processModule in
theorem processModules_cons (plan : Plan) (m : ModuleFile) (rest : List ModuleFile) (w : Work) :
    w.processModules plan (m :: rest) =
      match w.processModule plan m with
      | (w, .error e) => (w, .error e)
      | (w, .ok o) => ((w.processModules plan rest).1, (w.processModules plan rest).2.map (o :: ·)) := rfl

theorem processModules_eq_ok {plan : Plan} {m : ModuleFile} {rest : List ModuleFile} {w : Work}
    {outcomes : List ModuleOutcome} (h : (w.processModules plan (m :: rest)).2 = .ok outcomes) :
    ∃ o outcomes', (w.processModule plan m).2 = .ok o ∧ outcomes = o :: outcomes' ∧
      ((w.processModule plan m).1.processModules plan rest).2 = .ok outcomes' ∧
      (w.processModules plan (m :: rest)).1 = ((w.processModule plan m).1.processModules plan rest).1 := by
  rw [processModules_cons] at h ⊢
  generalize w.processModule plan m = r at h ⊢
  obtain ⟨v, result⟩ := r
  cases result with
  | error e => cases h
  | ok o =>
    simp only at h ⊢
    cases hr : (v.processModules plan rest).2 with
    | error e =>
      rw [hr] at h
      cases h
    | ok outcomes' =>
      rw [hr] at h
      exact ⟨o, outcomes', rfl, (Except.ok.inj h).symm, rfl, trivial⟩

theorem modules_of_processModules {plan : Plan} {modules : List ModuleFile} {w : Work}
    {outcomes : List ModuleOutcome} (h : (w.processModules plan modules).2 = .ok outcomes) :
    outcomes.map (·.module) = modules := by
  induction modules generalizing w outcomes with
  | nil =>
    cases h
    rfl
  | cons m rest ih =>
    obtain ⟨o, outcomes', ho, rfl, hr, -⟩ := processModules_eq_ok h
    rw [List.map_cons, ih hr, module_of_processModule ho]

theorem processModules_isOk_iff (plan : Plan) (modules : List ModuleFile) (w : Work) :
    (∃ outcomes, (w.processModules plan modules).2 = .ok outcomes) ↔
      ∀ done m rest, modules = done ++ m :: rest → ¬ (w.after plan done).Escapes plan m := by
  induction modules generalizing w with
  | nil =>
    constructor
    · intro _ done m rest h
      simp at h
    · intro _
      exact ⟨[], rfl⟩
  | cons m rest ih =>
    have hm := processModule_isOk_iff plan m w
    rw [processModules_cons]
    cases hp : w.processModule plan m with
    | mk v result =>
      rw [hp] at hm
      cases result with
      | error e =>
        have he : w.Escapes plan m := Classical.not_not.mp fun he => by
          obtain ⟨o, ho⟩ := hm.mpr he
          cases ho
        constructor
        · rintro ⟨outcomes, ho⟩
          cases ho
        · intro h
          exact absurd he (h [] m rest rfl)
      | ok o =>
        have hv : (w.processModule plan m).1 = v := congrArg Prod.fst hp
        have hr : (∃ outcomes, (v.processModules plan rest).2.map (o :: ·) = .ok outcomes) ↔
            ∃ outcomes, (v.processModules plan rest).2 = .ok outcomes := by
          cases (v.processModules plan rest).2 <;> simp [Except.map]
        rw [hr, ih v]
        constructor
        · intro h done m' rest' hd
          cases done with
          | nil =>
            cases hd
            exact hm.mp ⟨o, rfl⟩
          | cons m'' done =>
            cases hd
            rw [after_cons, hv]
            exact h done m' rest' rfl
        · intro h done m' rest' hd
          have he := h (m :: done) m' rest' (by rw [hd, List.cons_append])
          rwa [after_cons, hv] at he

/-- The work of a run at its first module, once the root directory has been asked for. -/
def rooted (plan : Plan) (w : Work) : Work :=
  let w := { w with files := (w.outputs.ensureRoot w.files).1 }
  (w.tell .info s!"Decompiling modules from {plan.sourceDir}").tell .info s!"Writing results to {w.outputs.root}"

theorem isDir_of_rooted {plan : Plan} {w : Work} {root : Path} (h : (w.outputs.ensureRoot w.files).2 = .ok root) :
    (w.rooted plan).files.isDir w.outputs.root = .ok true := by
  have hfiles : (w.rooted plan).files = (w.outputs.ensureRoot w.files).1 := rfl
  rw [hfiles]
  unfold Outputs.ensureRoot at h ⊢
  rcases hr : w.files.makeDirs w.outputs.root with ⟨g, result⟩
  rw [hr] at h
  cases result with
  | error e => cases h
  | ok u => exact Files.isDir_of_makeDirs hr

/-- What a run makes of the outcomes of its modules. -/
def concluded : Work × Except RunError (List ModuleOutcome) → Work × Except RunError Summary
  | (w, .error e) => (w, .error e)
  | (w, .ok outcomes) =>
    let s : Summary := ⟨outcomes⟩
    (w.tell .info
      s!"Finished: {s.processed} type(s) written, {s.skippedGenerated} generated skipped, {s.failedTypes} failed, {s.failedModules.length} module(s) failed",
      .ok s)

theorem concluded_snd (r : Work × Except RunError (List ModuleOutcome)) : (concluded r).2 = r.2.map Summary.mk := by
  obtain ⟨w, result⟩ := r
  cases result <;> rfl

theorem concluded_eq_ok {r : Work × Except RunError (List ModuleOutcome)} {s : Summary} :
    (concluded r).2 = .ok s ↔ r.2 = .ok s.modules := by
  rw [concluded_snd]
  cases r.2 with
  | error e => simp [Except.map]
  | ok outcomes =>
    constructor
    · intro h
      cases h
      rfl
    · intro h
      cases h
      rfl

theorem concluded_files (r : Work × Except RunError (List ModuleOutcome)) : (concluded r).1.files = r.1.files := by
  obtain ⟨w, result⟩ := r
  cases result <;> rfl

theorem concluded_calls (r : Work × Except RunError (List ModuleOutcome)) : (concluded r).1.calls = r.1.calls := by
  obtain ⟨w, result⟩ := r
  cases result <;> rfl

theorem run_eq (plan : Plan) (given : Option (List ModuleFile)) (w : Work) :
    w.run plan given =
      match (w.outputs.ensureRoot w.files).2, (w.rooted plan).modulesOf plan given with
      | .error e, _ => ({ w with files := (w.outputs.ensureRoot w.files).1 }, .error (.file e))
      | .ok _, .error e => (w.rooted plan, .error e)
      | .ok _, .ok modules => concluded ((w.rooted plan).processModules plan modules) := by
  unfold run rooted
  rcases w.outputs.ensureRoot w.files with ⟨files, made⟩
  cases made with
  | error e => rfl
  | ok root =>
    simp only [tell_outputs]
    generalize ((({ w with files } : Work).tell .info _).tell .info _) = v
    cases v.modulesOf plan given with
    | error e => rfl
    | ok modules =>
      simp only
      rcases v.processModules plan modules with ⟨u, result⟩
      cases result <;> rfl

theorem run_eq_ok {plan : Plan} {given : Option (List ModuleFile)} {w : Work} {s : Summary}
    (h : (w.run plan given).2 = .ok s) :
    ∃ root modules, (w.outputs.ensureRoot w.files).2 = .ok root ∧ (w.rooted plan).modulesOf plan given = .ok modules ∧
      ((w.rooted plan).processModules plan modules).2 = .ok s.modules ∧
      (w.run plan given).1.files = ((w.rooted plan).processModules plan modules).1.files := by
  rw [run_eq] at h ⊢
  split at h
  · cases h
  · cases h
  · next root modules hroot hm => exact ⟨root, modules, hroot, hm, concluded_eq_ok.mp h, concluded_files _⟩

/-- A run returns, with one outcome for each module in their order, exactly if its root directory is made, its
modules are found and none of them ends it at its turn. -/
theorem run_isOk_iff (plan : Plan) (given : Option (List ModuleFile)) (w : Work) (modules : List ModuleFile) :
    (∃ s, (w.run plan given).2 = .ok s ∧ s.modules.map (·.module) = modules) ↔
      (∃ root, (w.outputs.ensureRoot w.files).2 = .ok root) ∧
        (w.rooted plan).modulesOf plan given = .ok modules ∧
        ∀ done m rest, modules = done ++ m :: rest → ¬ ((w.rooted plan).after plan done).Escapes plan m := by
  rw [run_eq]
  cases (w.outputs.ensureRoot w.files).2 with
  | error e => simp
  | ok root =>
    cases (w.rooted plan).modulesOf plan given with
    | error e => simp
    | ok found =>
      simp only [concluded_eq_ok, Except.ok.injEq]
      constructor
      · rintro ⟨s, hs, hm⟩
        have hf : found = modules := (modules_of_processModules hs).symm.trans hm
        subst hf
        exact ⟨⟨root, rfl⟩, rfl, (processModules_isOk_iff plan found _).mp ⟨s.modules, hs⟩⟩
      · rintro ⟨-, rfl, h⟩
        obtain ⟨outcomes, ho⟩ := (processModules_isOk_iff plan found _).mpr h
        exact ⟨⟨outcomes⟩, ho, modules_of_processModules ho⟩

example : (bare.run (Plan.steady [⟨"nul\x00name", "Game.nul\x00name", "1"⟩, ⟨"After", "Game.After", "2"⟩])
    (some [⟨⟨1, ["src", "Rust.dll"]⟩⟩])).2 = .error (.file .zeroByte) := by
  decide +kernel

end Work

end Winnow
