import Winnow.Run
import Winnow.Proofs.Writing

/-!
What processing one type can do, and what therefore holds of a whole list of types. Every fact about the types
of a module is proved for one step and carried over the list by `processTypes_induction`.
-/
set_option autoImplicit false

namespace Winnow

namespace Report

@[simp] theorem record_outcomes (r : Report) (o : TypeOutcome) : (r.record o).outcomes = r.outcomes ++ [o] := by
  obtain ⟨name, fullName, result⟩ := o
  cases result <;> rfl

@[simp] theorem record_written (r : Report) (o : TypeOutcome) :
    (r.record o).written = r.written ++ o.result.path?.toList := by
  obtain ⟨name, fullName, result⟩ := o
  cases result <;> simp [record, TypeResult.path?]

end Report

namespace Work

@[simp] theorem call_files (w : Work) (c : Call) : (w.call c).files = w.files := rfl

@[simp] theorem call_outputs (w : Work) (c : Call) : (w.call c).outputs = w.outputs := rfl

@[simp] theorem tell_files (w : Work) (l : Level) (s : String) : (w.tell l s).files = w.files := rfl

@[simp] theorem tell_outputs (w : Work) (l : Level) (s : String) : (w.tell l s).outputs = w.outputs := rfl

@[simp] theorem tell_calls (w : Work) (l : Level) (s : String) : (w.tell l s).calls = w.calls := rfl

end Work

namespace Progress

def takenMessage : String := "output file name collides with another type"

def asked (p : Progress) (module : Path) (d : TypeDescriptor) : Progress :=
  { p with work := p.work.call (.decompile module d.handle) }

def withFiles (p : Progress) (files : Files) : Progress := { p with work := { p.work with files } }

/-- What the decompiler answers if it is asked for a type now. -/
def answer (plan : Plan) (module : Path) (p : Progress) (d : TypeDescriptor) : Except String Decompiled :=
  plan.engine.decompile p.work.calls p.work.files module plan.searchPaths d.handle

def attempt? (plan : Plan) (module dir : Path) (p : Progress) (d : TypeDescriptor) : Option Path :=
  if d.name.isEmpty then none
  else match plan.classifier.match? d.name, p.target? dir d, p.answer plan module d with
    | none, some (path, _), .ok _ => some path
    | _, _, _ => none

/-- Everything that processing one type can do: the path on which a write is attempted, the progress
afterwards and the result. -/
inductive TypeStep (plan : Plan) (module dir : Path) (p : Progress) (d : TypeDescriptor) :
    Option Path → Progress → Except RunError TypeResult → Prop
  | nameless (hn : d.name = "") : TypeStep plan module dir p d none p (.ok .skippedEmpty)
  | generated (rule : String) (hn : d.name ≠ "") (hm : plan.classifier.match? d.name = some rule) :
      TypeStep plan module dir p d none
        { p with work := p.work.tell .debug s!"Skipping generated type {d.fullName} ({rule})" }
        (.ok (.skippedGenerated (some rule)))
  | taken (hn : d.name ≠ "") (hm : plan.classifier.match? d.name = none) (ht : p.target? dir d = none) :
      TypeStep plan module dir p d none (p.fail d "write" takenMessage).1
        (.ok (.failed ⟨d.fullName, takenMessage, "write"⟩))
  | undecompiled (path : Path) (renamed : Bool) (reason : String) (hn : d.name ≠ "")
      (hm : plan.classifier.match? d.name = none) (ht : p.target? dir d = some (path, renamed))
      (ha : p.answer plan module d = .error reason) :
      TypeStep plan module dir p d none ((p.asked module d).fail d "decompile" reason).1
        (.ok (.failed ⟨d.fullName, reason, "decompile"⟩))
  | unwritten (path : Path) (renamed : Bool) (value : Decompiled) (files : Files) (e : WriteError)
      (reason : String) (hn : d.name ≠ "") (hm : plan.classifier.match? d.name = none)
      (ht : p.target? dir d = some (path, renamed)) (ha : p.answer plan module d = .ok value)
      (hw : Outputs.write path value p.work.files = (files, .error e)) (he : e.reason = .ok reason) :
      TypeStep plan module dir p d (some path) (((p.asked module d).withFiles files).fail d "write" reason).1
        (.ok (.failed ⟨d.fullName, reason, "write"⟩))
  | unwritable (path : Path) (renamed : Bool) (value : Decompiled) (files : Files) (e : WriteError)
      (fault : FileError) (hn : d.name ≠ "") (hm : plan.classifier.match? d.name = none)
      (ht : p.target? dir d = some (path, renamed)) (ha : p.answer plan module d = .ok value)
      (hw : Outputs.write path value p.work.files = (files, .error e)) (he : e.reason = .error fault) :
      TypeStep plan module dir p d (some path) ((p.asked module d).withFiles files) (.error (.file fault))
  | written (path : Path) (renamed : Bool) (value : Decompiled) (files : Files) (hn : d.name ≠ "")
      (hm : plan.classifier.match? d.name = none) (ht : p.target? dir d = some (path, renamed))
      (ha : p.answer plan module d = .ok value) (hw : Outputs.write path value p.work.files = (files, .ok ())) :
      TypeStep plan module dir p d (some path) (((p.asked module d).withFiles files).claim d path renamed).1
        (.ok (.written path))

@[simp] theorem fail_snd (p : Progress) (d : TypeDescriptor) (kind error : String) :
    (p.fail d kind error).2 = .failed ⟨d.fullName, error, kind⟩ := rfl

theorem writeType_eq (plan : Plan) (module : Path) (p : Progress) (d : TypeDescriptor) (path : Path)
    (renamed : Bool) :
    writeType plan module p d path renamed =
      match p.answer plan module d with
      | .error reason =>
        (((p.asked module d).fail d "decompile" reason).1, .ok (.failed ⟨d.fullName, reason, "decompile"⟩))
      | .ok value =>
        match Outputs.write path value p.work.files with
        | (files, .ok ()) => ((((p.asked module d).withFiles files).claim d path renamed).1, .ok (.written path))
        | (files, .error e) =>
          match e.reason with
          | .ok reason =>
            ((((p.asked module d).withFiles files).fail d "write" reason).1,
              .ok (.failed ⟨d.fullName, reason, "write"⟩))
          | .error fault => ((p.asked module d).withFiles files, .error (.file fault)) := by
  unfold writeType answer
  cases plan.engine.decompile p.work.calls p.work.files module plan.searchPaths d.handle with
  | error reason => rfl
  | ok value =>
    simp only [Work.call_files]
    cases Outputs.write path value p.work.files with
    | mk files result =>
      cases result with
      | ok u => rfl
      | error e => cases he : e.reason <;> simp only [he] <;> rfl

theorem processType_step (plan : Plan) (module dir : Path) (p : Progress) (d : TypeDescriptor) :
    TypeStep plan module dir p d (p.attempt? plan module dir d) (processType plan module dir p d).1
      (processType plan module dir p d).2 := by
  by_cases hn : d.name = ""
  · simpa [processType, attempt?, hn] using TypeStep.nameless hn
  · cases hm : plan.classifier.match? d.name with
    | some rule => simpa [processType, attempt?, hn, hm] using TypeStep.generated rule hn hm
    | none =>
      cases ht : p.target? dir d with
      | none => simpa [processType, attempt?, hn, hm, ht, takenMessage] using TypeStep.taken hn hm ht
      | some target =>
        obtain ⟨path, renamed⟩ := target
        cases ha : p.answer plan module d with
        | error reason =>
          simpa [processType, attempt?, writeType_eq, hn, hm, ht, ha] using
            TypeStep.undecompiled path renamed reason hn hm ht ha
        | ok value =>
          cases hw : Outputs.write path value p.work.files with
          | mk files result =>
            cases result with
            | ok u =>
              simpa [processType, attempt?, writeType_eq, hn, hm, ht, ha, hw] using
                TypeStep.written path renamed value files hn hm ht ha hw
            | error e =>
              cases he : e.reason with
              | ok reason =>
                simpa [processType, attempt?, writeType_eq, hn, hm, ht, ha, hw, he] using
                  TypeStep.unwritten path renamed value files e reason hn hm ht ha hw he
              | error fault =>
                simpa [processType, attempt?, writeType_eq, hn, hm, ht, ha, hw, he] using
                  TypeStep.unwritable path renamed value files e fault hn hm ht ha hw he

def recorded (p : Progress) (d : TypeDescriptor) (result : TypeResult) : Progress :=
  { p with report := p.report.record ⟨d.name, d.fullName, result⟩ }

theorem processTypes_cons (plan : Plan) (module dir : Path) (d : TypeDescriptor) (rest : List TypeDescriptor)
    (p : Progress) :
    processTypes plan module dir (d :: rest) p =
      match processType plan module dir p d with
      | (q, .error e) => (q, .error e)
      | (q, .ok result) => processTypes plan module dir rest (q.recorded d result) := rfl

/-- The paths on which writes are attempted when types are processed in their order. -/
def attempts (plan : Plan) (module dir : Path) : List TypeDescriptor → Progress → List Path
  | [], _ => []
  | d :: rest, p =>
    (p.attempt? plan module dir d).toList ++
      match processType plan module dir p d with
      | (_, .error _) => []
      | (q, .ok result) => attempts plan module dir rest (q.recorded d result)

/-- A relation between the types that are done, the paths tried for them and the progress holds to the end of a
list of types if every step that does not end the run keeps it. -/
theorem processTypes_induction {plan : Plan} {module dir : Path}
    {I : List TypeDescriptor → List Path → Progress → Prop}
    (step : ∀ done tried p d a q result, I done tried p → TypeStep plan module dir p d a q (.ok result) →
      I (done ++ [d]) (tried ++ a.toList) (q.recorded d result))
    {types : List TypeDescriptor} {p q : Progress} (h : processTypes plan module dir types p = (q, .ok ()))
    {done : List TypeDescriptor} {tried : List Path} (hi : I done tried p) :
    I (done ++ types) (tried ++ attempts plan module dir types p) q := by
  induction types generalizing p done tried with
  | nil =>
    cases h
    simpa [attempts] using hi
  | cons d rest ih =>
    have hs := processType_step plan module dir p d
    rw [processTypes_cons] at h
    cases hd : processType plan module dir p d with
    | mk r result =>
      rw [hd] at hs h
      cases result with
      | error e => cases h
      | ok result =>
        have hn := ih h (step done tried p d _ r result hi hs)
        simpa [attempts, hd] using hn

theorem eq_unwritable_of_step {plan : Plan} {module dir : Path} {p q : Progress} {d : TypeDescriptor}
    {a : Option Path} {e : RunError} (h : TypeStep plan module dir p d a q (.error e)) :
    ∃ path, a = some path ∧ Outputs.Unwritable path ∧ ∃ fault, e = .file fault := by
  cases h with
  | unwritable path renamed value files e fault hn hm ht ha hw he =>
    refine ⟨path, rfl, ?_, fault, rfl⟩
    by_cases hu : Outputs.Unwritable path
    · exact hu
    · obtain ⟨-, reason, hr⟩ := Outputs.write_eq_error hu hw
      rw [hr] at he
      cases he

theorem writable_of_step {plan : Plan} {module dir : Path} {p q : Progress} {d : TypeDescriptor}
    {a : Option Path} {result : TypeResult} (h : TypeStep plan module dir p d a q (.ok result)) {path : Path}
    (hp : a = some path) : ¬ Outputs.Unwritable path := by
  intro hu
  cases h with
  | nameless => cases hp
  | generated => cases hp
  | taken => cases hp
  | undecompiled => cases hp
  | unwritten path' renamed value files e reason hn hm ht ha hw he =>
    cases hp
    obtain ⟨e', fault, hw', he'⟩ := Outputs.write_of_unwritable value p.work.files hu
    rw [hw] at hw'
    cases hw'
    rw [he] at he'
    cases he'
  | written path' renamed value files hn hm ht ha hw =>
    cases hp
    obtain ⟨e', fault, hw', -⟩ := Outputs.write_of_unwritable value p.work.files hu
    rw [hw] at hw'
    cases hw'

theorem processTypes_isOk_iff (plan : Plan) (module dir : Path) (types : List TypeDescriptor) (p : Progress) :
    (processTypes plan module dir types p).2 = .ok () ↔
      ∀ path ∈ attempts plan module dir types p, ¬ Outputs.Unwritable path := by
  induction types generalizing p with
  | nil => simp [processTypes, attempts]
  | cons d rest ih =>
    have hs := processType_step plan module dir p d
    rw [processTypes_cons, attempts]
    cases hd : processType plan module dir p d with
    | mk r result =>
      rw [hd] at hs
      cases result with
      | error e =>
        obtain ⟨path, ha, hu, -⟩ := eq_unwritable_of_step hs
        simp [ha, hu]
      | ok result =>
        have hw : ∀ path ∈ (p.attempt? plan module dir d).toList, ¬ Outputs.Unwritable path := by
          intro path hp
          exact writable_of_step hs (Option.mem_toList.mp hp)
        simp only [List.mem_append, ih]
        constructor
        · intro h path hp
          exact hp.elim (hw path) (h path)
        · intro h path hp
          exact h path (.inr hp)

end Progress

end Winnow
