import Mathlib.Algebra.GroupWithZero.Nat
import Mathlib.Data.List.Forall2
import Winnow.Proofs.Conversation
import Winnow.Proofs.Unrelated

/-!
What a run reports adds up. Every listed type has one outcome, the counts of a module are those of its outcomes, the
totals of a run are those of its modules, and no module is missing.
-/
set_option autoImplicit false

namespace Winnow

/-- Whether a type was written to another file than its own. -/
def TypeResult.elsewhere (own : Path) (r : TypeResult) : Bool := r.path?.any (· != own)

namespace Report

def count (r : Report) (status : String) : Nat := r.outcomes.countP (·.result.status == status)

/-- That the lists and counts of a report are those of its outcomes, which are those of the given types. -/
structure Counts (r : Report) (types : List TypeDescriptor) : Prop where
  names : r.outcomes.map (fun o => (o.name, o.fullName)) = types.map fun d => (d.name, d.fullName)
  written : r.written = r.outcomes.filterMap (·.result.path?)
  failed : r.failed = r.outcomes.filterMap (·.result.failure?)
  writtenLength : r.processed = r.written.length
  writtenCount : r.processed = r.count "written"
  generatedCount : r.skippedGenerated = r.count "skipped_generated"
  failedCount : r.failed.length = r.count "failed"
  all : r.processed + r.skippedGenerated + r.failed.length + r.count "skipped_empty" = types.length

/-- That a report adds up, with those types told as renamed that were written, but not to the file `file name` of
their name. -/
structure Tallies (r : Report) (file : String → Path) (types : List TypeDescriptor) : Prop extends r.Counts types where
  renamed : r.renamed = (r.outcomes.filter fun o => o.result.elsewhere (file o.name)).map (·.fullName)

section Record

variable {r : Report} {types : List TypeDescriptor} {d : TypeDescriptor} {result : TypeResult}

@[simp] theorem record_renamed (r : Report) (o : TypeOutcome) : (r.record o).renamed = r.renamed := by
  obtain ⟨name, fullName, result⟩ := o
  cases result <;> rfl

@[simp] theorem record_failed (r : Report) (o : TypeOutcome) :
    (r.record o).failed = r.failed ++ o.result.failure?.toList := by
  obtain ⟨name, fullName, result⟩ := o
  cases result <;> simp [record, TypeResult.failure?]

@[simp] theorem record_processed (r : Report) (o : TypeOutcome) :
    (r.record o).processed = r.processed + o.result.path?.toList.length := by
  obtain ⟨name, fullName, result⟩ := o
  cases result <;> simp [record, TypeResult.path?]

theorem count_record (r : Report) (o : TypeOutcome) (status : String) :
    (r.record o).count status = r.count status + if o.result.status = status then 1 else 0 := by
  simp [count, List.countP_append, List.countP_cons]

theorem Counts.empty (module : String) : Counts { module } [] := by
  constructor <;> rfl

theorem filterMap_concat {α β : Type} (f : α → Option β) (xs : List α) (x : α) :
    (xs ++ [x]).filterMap f = xs.filterMap f ++ (f x).toList := by
  cases h : f x <;> simp [List.filterMap_append, h]

theorem Counts.record (h : r.Counts types) (hr : ∀ status, result ≠ .other status) :
    (r.record ⟨d.name, d.fullName, result⟩).Counts (types ++ [d]) := by
  have hgenerated : (r.record ⟨d.name, d.fullName, result⟩).skippedGenerated =
      r.skippedGenerated + if result.status = "skipped_generated" then 1 else 0 := by
    cases result with
    | other status => exact absurd rfl (hr status)
    | _ => simp [Report.record, TypeResult.status]
  have hwritten : result.path?.toList.length = if result.status = "written" then 1 else 0 := by
    cases result with
    | other status => exact absurd rfl (hr status)
    | _ => simp [TypeResult.path?, TypeResult.status]
  have hfailed : result.failure?.toList.length = if result.status = "failed" then 1 else 0 := by
    cases result with
    | other status => exact absurd rfl (hr status)
    | _ => simp [TypeResult.failure?, TypeResult.status]
  have hone : (if result.status = "written" then 1 else 0) + (if result.status = "skipped_generated" then 1 else 0) +
      (if result.status = "failed" then 1 else 0) + (if result.status = "skipped_empty" then 1 else 0) = 1 := by
    cases result with
    | other status => exact absurd rfl (hr status)
    | _ => simp [TypeResult.status]
  have hall := h.all
  constructor
  case names => simp [h.names]
  case written => rw [record_written, record_outcomes, filterMap_concat, h.written]
  case failed => rw [record_failed, record_outcomes, filterMap_concat, h.failed]
  case writtenLength => rw [record_processed, record_written, List.length_append, h.writtenLength]
  case writtenCount => rw [record_processed, count_record, hwritten, h.writtenCount]
  case generatedCount => rw [hgenerated, count_record, h.generatedCount]
  case failedCount => rw [record_failed, count_record, List.length_append, hfailed, h.failedCount]
  case all =>
    rw [record_processed, hwritten, hgenerated, record_failed, List.length_append, hfailed, count_record,
      List.length_append, List.length_singleton]
    simp only
    omega

end Record

end Report

namespace Progress

section Step

variable {plan : Plan} {module dir : Path} {p q : Progress} {d : TypeDescriptor} {a : Option Path}
  {result : TypeResult}

theorem result_ne_other (h : TypeStep plan module dir p d a q (.ok result)) (status : String) :
    result ≠ .other status := by
  cases h <;> simp

/-- A type is told as renamed exactly if the file it was left is not that of its name: the file of the full name is
taken only after the key of the first one was found to be held, and its own key was not. -/
theorem renamed_iff {path : Path} {renamed : Bool} (h : p.target? dir d = some (path, renamed)) :
    renamed = true ↔ path ≠ p.work.outputs.pathFor dir d.name := by
  unfold target? at h
  simp only [Bool.not_eq_true', ← Bool.not_eq_true, holds_iff] at h
  split at h
  · simp only [Option.some.injEq, Prod.mk.injEq] at h
    obtain ⟨rfl, rfl⟩ := h
    simp
  · next hown =>
    split at h
    · simp at h
    · split at h
      · simp at h
      · next hfull =>
        simp only [Option.some.injEq, Prod.mk.injEq] at h
        obtain ⟨rfl, rfl⟩ := h
        have hne : p.work.outputs.pathFor dir d.fullName ≠ p.work.outputs.pathFor dir d.name := by
          intro he
          rw [he] at hfull
          exact hown hfull
        simp [hne]

theorem recorded_elsewhere_of_step (h : TypeStep plan module dir p d a q (.ok result)) :
    (q.recorded d result).report.renamed = p.report.renamed ++
      if result.elsewhere (p.work.outputs.pathFor dir d.name) then [d.fullName] else [] := by
  rw [recorded_renamed_of_step h, renamedBy_eq]
  cases h with
  | written path renamed value files hn hm ht ha hw =>
    have hr := renamed_iff ht
    simp [ht, hr, TypeResult.path?, TypeResult.elsewhere]
  | _ => simp [TypeResult.path?, TypeResult.elsewhere]

theorem counts_of_step {done : List TypeDescriptor} (hc : p.report.Counts done)
    (h : TypeStep plan module dir p d a q (.ok result)) : (q.recorded d result).report.Counts (done ++ [d]) := by
  have hq : q.report.Counts done := by
    rw [report_of_step h]
    exact ⟨hc.names, hc.written, hc.failed, hc.writtenLength, hc.writtenCount, hc.generatedCount, hc.failedCount,
      hc.all⟩
  exact hq.record (result_ne_other h)

theorem tallies_of_step {done : List TypeDescriptor} (ht : p.report.Tallies (p.work.outputs.pathFor dir) done)
    (h : TypeStep plan module dir p d a q (.ok result)) :
    (q.recorded d result).report.Tallies ((q.recorded d result).work.outputs.pathFor dir) (done ++ [d]) where
  toCounts := counts_of_step ht.toCounts h
  renamed := by
    have ho : (q.recorded d result).work.outputs = p.work.outputs := (outputs_of_step h :)
    rw [recorded_elsewhere_of_step h, recorded_outcomes_of_step h, ho, List.filter_append, List.map_append, ht.renamed]
    cases hp : result.elsewhere (p.work.outputs.pathFor dir d.name) <;> simp [hp]

end Step

theorem tallies_of_process {plan : Plan} {m : ModuleFile} {l : Listing} {p : Progress}
    (h : l.process plan m = (p, .ok ())) : p.report.Tallies (l.work.outputs.pathFor l.dir) l.types := by
  have hinv : p.work.outputs = l.work.outputs ∧ p.report.Tallies (p.work.outputs.pathFor l.dir) l.types := by
    refine Listing.process_induction (I := fun done _ p => p.work.outputs = l.work.outputs ∧
      p.report.Tallies (p.work.outputs.pathFor l.dir) done) ?_ h ⟨rfl, ⟨.empty _, rfl⟩⟩
    rintro done tried p d a q result ⟨ho, ht⟩ hs
    exact ⟨(outputs_of_step hs).trans ho, tallies_of_step ht hs⟩
  rw [← hinv.1]
  exact hinv.2

end Progress

namespace Work

variable {plan : Plan} {m : ModuleFile} {w : Work} {o : ModuleOutcome}

/-- That an outcome is the one of a module at its turn: if it has a report, this adds up and is about the types
that were listed. -/
def Reported (plan : Plan) (turn : ModuleFile × Work) (o : ModuleOutcome) : Prop :=
  o.module = turn.1 ∧ ∀ r, o.report = some r → ∃ l, turn.2.listing? plan turn.1 = some l ∧
    r.Tallies (l.work.outputs.pathFor l.dir) l.types

theorem reported_of_processModule (h : (w.processModule plan m).2 = .ok o) : Reported plan (m, w) o := by
  have hs := processModule_step plan m w
  rw [h] at hs
  generalize (w.processModule plan m).1 = v at hs
  cases hs with
  | passed v o hl hm hs hr hv =>
    refine ⟨hm, fun r ho => ?_⟩
    rw [hr] at ho
    cases ho
  | completed l p v hl hp hv =>
    refine ⟨rfl, fun r ho => ⟨l, hl, ?_⟩⟩
    cases ho
    exact Progress.tallies_of_process hp

theorem status_of_processModule (h : (w.processModule plan m).2 = .ok o) :
    o.status = .skippedUnimportant ∨ o.status = .failed ∨ o.status = .completed := by
  rw [processModule_eq] at h
  split at h
  · split at h
    · cases h
      exact .inr (.inl rfl)
    · split at h
      · cases h
        exact .inr (.inl rfl)
      · rw [processOpen_eq] at h
        split at h
        · cases h
          exact .inr (.inl rfl)
        · split at h
          · cases h
          · split at h
            · cases h
            · cases h
              exact .inr (.inr rfl)
  · cases h
    exact .inl rfl

theorem outcomes_of_processModules {modules : List ModuleFile} {outcomes : List ModuleOutcome}
    (h : (w.processModules plan modules).2 = .ok outcomes) :
    List.Forall₂ (fun turn o => (turn.2.processModule plan turn.1).2 = .ok o) (w.turns plan modules) outcomes := by
  induction modules generalizing w outcomes with
  | nil =>
    cases h
    exact .nil
  | cons m rest ih =>
    obtain ⟨o, outcomes', ho, rfl, hrest, -⟩ := processModules_eq_ok h
    have hturns : w.turns plan (m :: rest) = (m, w) :: (w.processModule plan m).1.turns plan rest := by
      rw [turns_cons]
      rcases hp : w.processModule plan m with ⟨v, result⟩
      rw [hp] at ho
      cases ho
      rfl
    rw [hturns]
    exact .cons ho (ih hrest)

theorem outcomes_of_run {given : Option (List ModuleFile)} {s : Summary} (h : (w.run plan given).2 = .ok s) :
    List.Forall₂ (fun turn o => (turn.2.processModule plan turn.1).2 = .ok o) (w.runTurns plan given) s.modules := by
  obtain ⟨root, modules, hroot, hm, hp, -⟩ := run_eq_ok h
  rw [runTurns, hroot, hm]
  exact outcomes_of_processModules hp

theorem processed_of_run {given : Option (List ModuleFile)} {s : Summary} (h : (w.run plan given).2 = .ok s) :
    ∀ o ∈ s.modules, ∃ (m : ModuleFile) (v : Work), (v.processModule plan m).2 = .ok o := by
  intro o ho
  obtain ⟨i, hi, rfl⟩ := List.getElem_of_mem ho
  have hall := outcomes_of_run h
  have hturn := hall.get (i := i) (by rw [hall.length_eq]; exact hi) hi
  exact ⟨_, _, hturn⟩

end Work

namespace Json.Value

def member? (name : String) : Value → Option Value
  | .object members => members.lookup name
  | _ => none

def number? : Value → Option Nat
  | .number n => some n
  | _ => none

def items : Value → List Value
  | .list items => items
  | _ => []

/-- A count in the report of a module's entry; without a report it is 0. -/
def reported (name : String) (entry : Value) : Nat :=
  ((entry.member? "report").bind fun report => (report.member? name).bind number?).getD 0

def failures (entry : Value) : Nat :=
  ((entry.member? "report").bind fun report => (report.member? "failed").map (·.items.length)).getD 0

def hasStatus (status : String) (entry : Value) : Bool :=
  match entry.member? "status" with
  | some (.text s) => s == status
  | _ => false

end Json.Value

namespace Summary

def total? (s : Summary) (name : String) : Option Nat :=
  (s.toJson.member? "totals").bind fun totals => (totals.member? name).bind (·.number?)

def entries (s : Summary) : List Json.Value := ((s.toJson.member? "modules").map (·.items)).getD []

/-- That the totals which are written out are the sums of the entries which are written out. -/
structure AddsUp (s : Summary) : Prop where
  modules : s.total? "modules" = some s.entries.length
  skippedModules : s.total? "skipped_modules" = some (s.entries.countP (·.hasStatus "skipped_unimportant"))
  failedModules : s.total? "failed_modules" = some (s.entries.countP (·.hasStatus "failed"))
  processed : s.total? "processed" = some (s.entries.map (·.reported "processed")).sum
  skippedGenerated : s.total? "skipped_generated" = some (s.entries.map (·.reported "skipped_generated")).sum
  failedTypes : s.total? "failed_types" = some (s.entries.map (·.failures)).sum

theorem entries_eq (s : Summary) : s.entries = s.modules.map (·.toJson) := rfl

theorem sum_reports (s : Summary) (count : Report → Nat) (entry : Json.Value → Nat)
    (h : ∀ o ∈ s.modules, entry o.toJson = (o.report.map count).getD 0) :
    (s.reports.map count).sum = (s.entries.map entry).sum := by
  obtain ⟨modules⟩ := s
  rw [entries_eq]
  unfold reports
  simp only at h ⊢
  induction modules with
  | nil => rfl
  | cons o rest ih =>
    have hrest := ih fun o' ho' => h o' (List.mem_cons_of_mem _ ho')
    have ho := h o List.mem_cons_self
    rw [List.map_cons, List.map_cons, List.sum_cons, ho, ← hrest]
    cases hr : o.report with
    | none => simp [hr]
    | some r => simp [hr]

theorem length_withStatus (s : Summary) (status : ModuleStatus)
    (h : ∀ o ∈ s.modules, o.status.text = status.text → o.status = status) :
    (s.withStatus status).length = s.entries.countP (·.hasStatus status.text) := by
  rw [withStatus, ← List.countP_eq_length_filter, entries_eq, List.countP_map]
  refine List.countP_congr fun o ho => ?_
  have hstatus : o.toJson.hasStatus status.text = (o.status.text == status.text) := rfl
  simp only [Function.comp, hstatus, beq_iff_eq]
  exact ⟨fun he => he ▸ rfl, h o ho⟩

theorem member?_report (o : ModuleOutcome) : o.toJson.member? "report" = o.report.map (·.toJson) := by
  cases hr : o.report <;> cases he : o.error <;>
    simp [ModuleOutcome.toJson, Json.Value.member?, hr, he, List.lookup_cons]

theorem addsUp {s : Summary} (h : ∀ o ∈ s.modules,
    o.status = .skippedUnimportant ∨ o.status = .failed ∨ o.status = .completed) : s.AddsUp where
  modules := by
    rw [entries_eq, List.length_map]
    rfl
  skippedModules := by
    have hlen := s.length_withStatus .skippedUnimportant fun o ho he => by
      rcases h o ho with hs | hs | hs <;> simp_all [ModuleStatus.text]
    exact congrArg some hlen
  failedModules := by
    have hlen := s.length_withStatus .failed fun o ho he => by
      rcases h o ho with hs | hs | hs <;> simp_all [ModuleStatus.text]
    exact congrArg some hlen
  processed := by
    have hsum := s.sum_reports (·.processed) (·.reported "processed") fun o _ => by
      rw [Json.Value.reported, member?_report]
      cases o.report <;> rfl
    exact congrArg some hsum
  skippedGenerated := by
    have hsum := s.sum_reports (·.skippedGenerated) (·.reported "skipped_generated") fun o _ => by
      rw [Json.Value.reported, member?_report]
      cases o.report <;> rfl
    exact congrArg some hsum
  failedTypes := by
    have hsum := s.sum_reports (·.failed.length) (·.failures) fun o _ => by
      rw [Json.Value.failures, member?_report]
      cases hr : o.report with
      | none => rfl
      | some r => simp [Report.toJson, Json.Value.member?, Json.Value.items, List.lookup_cons]
    exact congrArg some hsum

theorem length_statuses {s : Summary} (h : ∀ o ∈ s.modules,
    o.status = .skippedUnimportant ∨ o.status = .failed ∨ o.status = .completed) :
    s.skippedModules.length + s.failedModules.length + (s.withStatus .completed).length = s.modules.length := by
  obtain ⟨modules⟩ := s
  unfold skippedModules failedModules withStatus
  simp only at h ⊢
  induction modules with
  | nil => rfl
  | cons o rest ih =>
    have hrest := ih fun o' ho' => h o' (List.mem_cons_of_mem _ ho')
    rw [List.length_cons, ← hrest]
    rcases h o List.mem_cons_self with hs | hs | hs <;> simp [hs] <;> omega

end Summary

/-- The report of every module of a run that returns adds up and is about the types that were listed for it, the
totals are the sums over the modules, and each module is passed over, failed or completed. -/
theorem Work.run_adds_up {plan : Plan} {given : Option (List ModuleFile)} {w : Work} {s : Summary}
    (h : (w.run plan given).2 = .ok s) :
    ∃ modules, (w.rooted plan).modulesOf plan given = .ok modules ∧ s.modules.map (·.module) = modules ∧
      List.Forall₂ (Reported plan) (w.runTurns plan given) s.modules ∧ s.AddsUp ∧
      s.skippedModules.length + s.failedModules.length + (s.withStatus .completed).length = modules.length := by
  obtain ⟨-, modules, -, hm, hp, -⟩ := run_eq_ok h
  have hmodules := modules_of_processModules hp
  have hstatus : ∀ o ∈ s.modules, o.status = .skippedUnimportant ∨ o.status = .failed ∨ o.status = .completed := by
    intro o ho
    obtain ⟨_, _, hprocessed⟩ := processed_of_run h o ho
    exact status_of_processModule hprocessed
  refine ⟨modules, hm, hmodules, (outcomes_of_run h).imp fun _ _ => reported_of_processModule,
    Summary.addsUp hstatus, ?_⟩
  rw [Summary.length_statuses hstatus, ← hmodules, List.length_map]

/-- A type of each kind: without a name, generated, written, written to the file of its full name, left without a
file, and unknown to the decompiler. -/
def sixKinds : List TypeDescriptor :=
  [⟨"", "N.", "1"⟩, ⟨"<>c", "N.<>c", "2"⟩, ⟨"A", "N.A", "3"⟩, ⟨"a", "M.a", "4"⟩, ⟨"A", "A", "5"⟩, ⟨"B", "N.B", "lost"⟩]

def Plan.mixed : Plan :=
  { Plan.steady sixKinds with
    classifier := .default
    engine := { Engine.steady sixKinds with
      listTypes := fun _ _ module => if module.name == "Rust.Broken.dll" then .error "not managed" else .ok sixKinds
      decompile := fun _ _ _ _ handle => if handle == "lost" then .error "no such type" else .ok (.text []) } }

def mixedModules : List ModuleFile := ["Rust.dll", "System.dll", "Rust.Broken.dll"].map fun name => ⟨⟨1, ["src", name]⟩⟩

theorem Work.run_adds_up_mixed :
    ∃ s, (Work.bare.run Plan.mixed (some mixedModules)).2 = .ok s ∧ s.reports.map (·.renamed) = [["M.a"]] ∧
      (s.total? "modules", s.total? "processed", s.total? "skipped_generated", s.total? "failed_types") =
        (some 3, some 2, some 1, some 2) ∧ s.AddsUp := by
  obtain ⟨s, hs⟩ := exists_of_isOk (x := (Work.bare.run Plan.mixed (some mixedModules)).2) (by decide +kernel)
  have hseen : ((Work.bare.run Plan.mixed (some mixedModules)).2.toOption.map fun s =>
      (s.reports.map (·.renamed), s.total? "modules", s.total? "processed", s.total? "skipped_generated",
        s.total? "failed_types")) = some ([["M.a"]], some 3, some 2, some 1, some 2) := by
    decide +kernel
  rw [hs] at hseen
  obtain ⟨hrenamed, htotals⟩ := Prod.mk.inj (Option.some.inj hseen)
  obtain ⟨modules, -, -, -, hsum, -⟩ := run_adds_up hs
  exact ⟨s, hs, hrenamed, htotals, hsum⟩

end Winnow
