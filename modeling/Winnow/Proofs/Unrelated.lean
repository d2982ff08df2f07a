import Winnow.Proofs.Verdict

/-!
Types of a module that ask for different files do not get in each other's way: what becomes of one group of types
is the same with and without the others between them.
-/
set_option autoImplicit false

namespace Winnow

/-- The result without the text that tells why a write failed. -/
def TypeResult.gist : TypeResult → TypeResult
  | .failed f =>
    .failed (if f.kind = "write" ∧ f.error ≠ Progress.takenMessage then { f with error := "" } else f)
  | r => r

def TypeOutcome.gist (o : TypeOutcome) : TypeOutcome := { o with result := o.result.gist }

/-- Of a list the elements that are marked. -/
def marked {α : Type} (marks : List Bool) (xs : List α) : List α := ((marks.zip xs).filter (·.1)).map (·.2)

section Marked

variable {α : Type} {marks : List Bool} {xs : List α} {x : α}

theorem marked_concat_true (h : marks.length = xs.length) : marked (marks ++ [true]) (xs ++ [x]) =
    marked marks xs ++ [x] := by
  simp [marked, List.zip_append h]

theorem marked_concat_false (h : marks.length = xs.length) : marked (marks ++ [false]) (xs ++ [x]) =
    marked marks xs := by
  simp [marked, List.zip_append h]

theorem marked_cons_true : marked (true :: marks) (x :: xs) = x :: marked marks xs := by simp [marked]

theorem marked_cons_false : marked (false :: marks) (x :: xs) = marked marks xs := by simp [marked]

end Marked

namespace TypeResult

theorem path?_gist (r : TypeResult) : r.gist.path? = r.path? := by
  cases r <;> rfl

theorem path?_of_gist {r r' : TypeResult} (h : r'.gist = r.gist) : r'.path? = r.path? := by
  rw [← path?_gist r, ← path?_gist r', h]

theorem gist_unwritten {fullName reason : String} (h : reason ≠ Progress.takenMessage) :
    (TypeResult.failed ⟨fullName, reason, "write"⟩).gist = .failed ⟨fullName, "", "write"⟩ := by
  simp [gist, h]

end TypeResult

namespace Progress

theorem renamedBy_eq (d : TypeDescriptor) (target : Option (Path × Bool)) (r : TypeResult) :
    renamedBy d target r = if target.any (·.2) ∧ r.path?.isSome then [d.fullName] else [] := by
  rcases target with _ | ⟨path, renamed⟩
  · simp [renamedBy]
  · cases renamed <;> cases r <;> simp [renamedBy, TypeResult.path?]

theorem recorded_renamed_of_step {plan : Plan} {module dir : Path} {p q : Progress} {d : TypeDescriptor}
    {a : Option Path} {result : TypeResult} (h : TypeStep plan module dir p d a q (.ok result)) :
    (q.recorded d result).report.renamed = p.report.renamed ++ renamedBy d (p.target? dir d) result := by
  have hr : (q.report.record ⟨d.name, d.fullName, result⟩).renamed = q.report.renamed := by cases result <;> rfl
  exact hr.trans (congrArg (·.renamed) (report_of_step h))

theorem key_of_step {plan : Plan} {module dir : Path} {p q : Progress} {d : TypeDescriptor} {a : Option Path}
    {result : TypeResult} (h : TypeStep plan module dir p d a q (.ok result)) {k : String}
    (hk : result.path?.map claimKey = some k) : k ∈ keysOf (p.work.outputs.pathFor dir) d := by
  cases h with
  | written path renamed value files hn hm ht ha hw =>
    cases hk
    obtain ⟨name, hname, -, hpath⟩ := name_of_target? hn ht
    rw [hpath]
    rcases hname with rfl | rfl <;> simp [keysOf]
  | _ => cases hk

/-- Results differ at most in the text of a failed write if the writes both succeed or both fail. -/
theorem gist_of_ofWrite {d : TypeDescriptor} {path : Path} {written written' : Except WriteError Unit}
    {r r' : TypeResult} (hw : written' = written ∨ ∃ e e', written' = .error e ∧ written = .error e')
    (h : .ok r = ofWrite d path written) (h' : .ok r' = ofWrite d path written') : r'.gist = r.gist := by
  rcases hw with rfl | ⟨e', e, rfl, rfl⟩
  · rw [Except.ok.inj (h'.trans h.symm)]
  · unfold ofWrite at h h'
    cases hr : e.reason with
    | error fault => simp [hr] at h
    | ok reason =>
      cases hr' : e'.reason with
      | error fault => simp [hr'] at h'
      | ok reason' =>
        simp only [hr, Except.ok.injEq] at h
        simp only [hr', Except.ok.injEq] at h'
        rw [h, h', TypeResult.gist_unwritten (reason_ne_takenMessage hr),
          TypeResult.gist_unwritten (reason_ne_takenMessage hr')]

/-- That no file that a type of the one group may ask for is one that a type of the other may ask for. -/
def Unrelated (file : String → Path) (group others : List TypeDescriptor) : Prop :=
  ∀ d ∈ group, ∀ e ∈ others, ∀ k ∈ keysOf file d, k ∉ keysOf file e

instance (file : String → Path) (group others : List TypeDescriptor) : Decidable (Unrelated file group others) :=
  inferInstanceAs (Decidable (∀ _ ∈ group, ∀ _ ∈ others, ∀ _ ∈ _, _))

/-- `p` has come through types of which some belong to a group, `p'` through those of the group alone. -/
structure Alike (o : Outputs) (dir : Path) (exact : Prop) (group : List TypeDescriptor) (marks : List Bool)
    (p p' : Progress) : Prop where
  outputs : p.work.outputs = o
  outputs' : p'.work.outputs = o
  dirs : p.work.files.SameDirs p'.work.files
  way : exact → '/' ∉ o.extension.toList ∧ p.work.files.isDir dir = .ok true
  claimed : ∀ d ∈ group, ∀ k ∈ keysOf (o.pathFor dir) d, (k ∈ p'.claimed ↔ k ∈ p.claimed)
  length : marks.length = p.report.outcomes.length
  gists : (marked marks p.report.outcomes).map TypeOutcome.gist = p'.report.outcomes.map TypeOutcome.gist
  outcomes : exact → marked marks p.report.outcomes = p'.report.outcomes
  renamed : p.report.renamed.filter (· ∈ group.map (·.fullName)) = p'.report.renamed

section Alike

variable {plan : Plan} {alone : Engine} {module dir : Path} {answer : String → Except String Decompiled}
  {o : Outputs} {exact : Prop} {group : List TypeDescriptor} {marks : List Bool} {p p' q q' : Progress}
  {d : TypeDescriptor} {a a' : Option Path} {r r' : TypeResult}

theorem Alike.target? (h : Alike o dir exact group marks p p') (hd : d ∈ group) :
    p'.target? dir d = p.target? dir d :=
  target?_congr (h.outputs'.trans h.outputs.symm) (by rw [h.outputs]; exact h.claimed d hd)

theorem Alike.write {path : Path} {renamed : Bool} (h : Alike o dir exact group marks p p') (hn : d.name ≠ "")
    (ht : p.target? dir d = some (path, renamed)) (hw : ¬ Outputs.Unwritable path) (value : Decompiled) :
    ((Outputs.write path value p'.work.files).2 = (Outputs.write path value p.work.files).2 ∨
      ∃ e e', (Outputs.write path value p'.work.files).2 = .error e ∧
        (Outputs.write path value p.work.files).2 = .error e') ∧
    (exact → (Outputs.write path value p'.work.files).2 = (Outputs.write path value p.work.files).2) := by
  refine ⟨Outputs.write_snd_of_sameDirs hw h.dirs, fun hx => ?_⟩
  obtain ⟨hs, hd⟩ := h.way hx
  obtain ⟨name, -, -, hpath⟩ := name_of_target? hn ht
  rw [h.outputs] at hpath
  have he : p.work.files.Enters path := by
    rw [hpath]
    exact Outputs.enters_pathFor hs hd (hpath ▸ (not_or.mp hw).1)
  rw [Outputs.write_snd hw, Outputs.write_snd hw, Outputs.prospect_of_sameDirs h.dirs he]

theorem Alike.result (h : Alike o dir exact group marks p p') (hd : d ∈ group)
    (he : plan.engine.Fixed module answer) (he' : alone.Fixed module answer)
    (hs : TypeStep plan module dir p d a q (.ok r))
    (hs' : TypeStep { plan with engine := alone } module dir p' d a' q' (.ok r')) :
    r'.gist = r.gist ∧ (exact → r' = r) := by
  have hr := result_of_step hs
  have hr' := result_of_step hs'
  rw [show p.answer plan module d = answer d.handle from he _ _ _ _] at hr
  rw [show p'.answer { plan with engine := alone } module d = answer d.handle from he' _ _ _ _, h.target? hd,
    show resultOf { plan with engine := alone } = resultOf plan from rfl] at hr'
  rcases resultOf_cases plan d (p.target? dir d) (answer d.handle) with
    ⟨r₀, h₀, -⟩ | ⟨path, renamed, value, hn, ht, hw, -⟩
  · rw [h₀] at hr hr'
    have := Except.ok.inj (hr'.trans hr.symm)
    exact ⟨congrArg _ this, fun _ => this⟩
  · rw [hw] at hr hr'
    obtain ⟨hboth, hexact⟩ := h.write hn ht (writable_of_ofWrite hr) value
    refine ⟨gist_of_ofWrite hboth hr hr', fun hx => ?_⟩
    rw [hexact hx] at hr'
    exact Except.ok.inj (hr'.trans hr.symm)

theorem Alike.claimed_of_path? (h : Alike o dir exact group marks p p') (hr : r'.path? = r.path?)
    (hs : TypeStep plan module dir p d a q (.ok r))
    (hs' : TypeStep { plan with engine := alone } module dir p' d a' q' (.ok r')) :
    ∀ e ∈ group, ∀ k ∈ keysOf (o.pathFor dir) e, (k ∈ q'.claimed ↔ k ∈ q.claimed) := by
  intro e hg k hk
  rw [claimed_of_step hs, claimed_of_step hs', hr, List.mem_append, List.mem_append, h.claimed e hg k hk]

theorem Alike.own (h : Alike o dir exact group marks p p') (hd : d ∈ group)
    (he : plan.engine.Fixed module answer) (he' : alone.Fixed module answer)
    (hs : TypeStep plan module dir p d a q (.ok r))
    (hs' : TypeStep { plan with engine := alone } module dir p' d a' q' (.ok r')) :
    Alike o dir exact group (marks ++ [true]) (q.recorded d r) (q'.recorded d r') := by
  obtain ⟨hgist, hexact⟩ := h.result hd he he' hs hs'
  have hpath := TypeResult.path?_of_gist hgist
  have hdirs : q.work.files.SameDirs q'.work.files :=
    ((sameDirs_of_step hs).symm.trans h.dirs).trans (sameDirs_of_step hs')
  refine ⟨(outputs_of_step hs).trans h.outputs, (outputs_of_step hs').trans h.outputs', hdirs, fun hx => ?_,
    fun e hg k hk => h.claimed_of_path? hpath hs hs' e hg k hk, ?_, ?_, fun hx => ?_, ?_⟩
  · exact ⟨(h.way hx).1, Files.isDir_of_dirsKept (sameDirs_of_step hs).kept (h.way hx).2⟩
  · rw [recorded_outcomes_of_step hs]
    simp [h.length]
  · rw [recorded_outcomes_of_step hs, recorded_outcomes_of_step hs', marked_concat_true h.length, List.map_append,
      List.map_append, h.gists]
    simp [TypeOutcome.gist, hgist]
  · rw [recorded_outcomes_of_step hs, recorded_outcomes_of_step hs', marked_concat_true h.length, h.outcomes hx,
      hexact hx]
  · have hname : d.fullName ∈ group.map (·.fullName) := List.mem_map_of_mem hd
    rw [recorded_renamed_of_step hs, recorded_renamed_of_step hs', List.filter_append, h.renamed, h.target? hd,
      renamedBy_eq, renamedBy_eq, hpath]
    congr 1
    split <;> simp_all

theorem Alike.other (h : Alike o dir exact group marks p p')
    (hu : ∀ e ∈ group, ∀ k ∈ keysOf (o.pathFor dir) e, k ∉ keysOf (o.pathFor dir) d)
    (hs : TypeStep plan module dir p d a q (.ok r)) :
    Alike o dir exact group (marks ++ [false]) (q.recorded d r) p' := by
  have hname : d.fullName ∉ group.map (·.fullName) := by
    intro hm
    obtain ⟨e, hg, hf⟩ := List.mem_map.mp hm
    exact hu e hg (claimKey (o.pathFor dir e.fullName)) (by simp [keysOf]) (by simp [keysOf, hf])
  refine ⟨(outputs_of_step hs).trans h.outputs, h.outputs', (sameDirs_of_step hs).symm.trans h.dirs, fun hx => ?_,
    fun e hg k hk => ?_, ?_, ?_, fun hx => ?_, ?_⟩
  · exact ⟨(h.way hx).1, Files.isDir_of_dirsKept (sameDirs_of_step hs).kept (h.way hx).2⟩
  · have hnew : k ∉ (r.path?.map claimKey).toList := by
      intro hm
      exact hu e hg k hk (h.outputs ▸ key_of_step hs (by simpa using hm))
    change k ∈ p'.claimed ↔ k ∈ q.claimed
    rw [h.claimed e hg k hk, claimed_of_step hs, List.mem_append, or_iff_right hnew]
  · rw [recorded_outcomes_of_step hs]
    simp [h.length]
  · rw [recorded_outcomes_of_step hs, marked_concat_false h.length, h.gists]
  · rw [recorded_outcomes_of_step hs, marked_concat_false h.length, h.outcomes hx]
  · rw [recorded_renamed_of_step hs, List.filter_append, h.renamed, renamedBy_eq]
    split <;> simp_all

theorem alike_of_processTypes {types : List TypeDescriptor} {more : List Bool}
    (h : Alike o dir exact group marks p p') (hl : more.length = types.length)
    (hg : ∀ d ∈ marked more types, d ∈ group)
    (hu : Unrelated (o.pathFor dir) group (marked (more.map (!·)) types))
    (he : plan.engine.Fixed module answer) (he' : alone.Fixed module answer)
    (hp : processTypes plan module dir types p = (q, .ok ()))
    (hp' : processTypes { plan with engine := alone } module dir (marked more types) p' = (q', .ok ())) :
    Alike o dir exact group (marks ++ more) q q' := by
  induction types generalizing more marks p p' with
  | nil =>
    cases List.length_eq_zero_iff.mp hl
    cases hp
    cases hp'
    simpa using h
  | cons d rest ih =>
    obtain ⟨mark, more, rfl⟩ := List.exists_cons_of_length_eq_add_one hl
    have hs := processType_step plan module dir p d
    rw [processTypes_cons] at hp
    rcases hd : processType plan module dir p d with ⟨s, result⟩
    rw [hd] at hs hp
    cases result with
    | error e => cases hp
    | ok r =>
      cases mark with
      | true =>
        rw [marked_cons_true] at hg hp'
        have hs' := processType_step { plan with engine := alone } module dir p' d
        rw [processTypes_cons] at hp'
        rcases hd' : processType { plan with engine := alone } module dir p' d with ⟨s', result'⟩
        rw [hd'] at hs' hp'
        cases result' with
        | error e => cases hp'
        | ok r' =>
          have hnext := h.own (hg d (by simp)) he he' hs hs'
          have := ih hnext (by simpa using hl) (fun e hm => hg e (by simp [hm])) (by simpa [marked_cons_false] using hu)
            hp hp'
          simpa using this
      | false =>
        rw [marked_cons_false] at hg hp'
        rw [List.map_cons, Bool.not_false, marked_cons_true] at hu
        have hnext := h.other (fun e hm k hk => hu e hm d (by simp) k hk) hs
        have := ih hnext (by simpa using hl) hg (fun e hm d' hd' => hu e hm d' (by simp [hd'])) hp hp'
        simpa using this

end Alike

end Progress

/-- What becomes of a group of types does not depend on types between them that ask for other files. Only the text
of a failed write can, if the extension leads out of the directory of the module. -/
theorem unrelated_outcomes {plan : Plan} {alone : Engine} {m : ModuleFile} {w : Work} {l l' : Listing}
    {answer : String → Except String Decompiled} {marks : List Bool} {o o' : ModuleOutcome}
    (he : plan.engine.Fixed m.path answer) (he' : alone.Fixed m.path answer)
    (hl : w.listing? plan m = some l) (hl' : w.listing? { plan with engine := alone } m = some l')
    (hm : marks.length = l.types.length) (hg : l'.types = marked marks l.types)
    (hu : Progress.Unrelated (w.outputs.pathFor l.dir) (marked marks l.types) (marked (marks.map (!·)) l.types))
    (ho : (w.processModule plan m).2 = .ok o)
    (ho' : (w.processModule { plan with engine := alone } m).2 = .ok o') :
    ∃ r r', o = { module := m, status := .completed, report := some r } ∧
      o' = { module := m, status := .completed, report := some r' } ∧
      (marked marks r.outcomes).map TypeOutcome.gist = r'.outcomes.map TypeOutcome.gist ∧
      r.renamed.filter (· ∈ (marked marks l.types).map (·.fullName)) = r'.renamed ∧
      ('/' ∉ w.outputs.extension.toList →
        (∀ name dir, w.outputs.made.lookup name = some dir → w.files.isDir dir = .ok true) →
        marked marks r.outcomes = r'.outcomes) := by
  obtain ⟨p, hp, rfl⟩ := Work.process_of_listing? hl ho
  obtain ⟨p', hp', rfl⟩ := Work.process_of_listing? hl' ho'
  obtain ⟨hdir, hfiles, houtputs⟩ := Work.prepared_of_listing? hl
  obtain ⟨hdir', hfiles', houtputs'⟩ := Work.prepared_of_listing? hl'
  obtain ⟨made, hmade⟩ := Work.outputs_of_listing? hl
  have hd : l'.dir = l.dir := Except.ok.inj (hdir'.symm.trans hdir)
  have hf : l'.work.files = l.work.files := hfiles'.trans hfiles.symm
  have hstart : Progress.Alike l.work.outputs l.dir
      ('/' ∉ w.outputs.extension.toList ∧
        ∀ name dir, w.outputs.made.lookup name = some dir → w.files.isDir dir = .ok true)
      (marked marks l.types) [] (l.begin m) (l'.begin m) := by
    refine ⟨rfl, houtputs'.trans houtputs.symm, hf ▸ .refl _, fun ⟨hx, hw⟩ => ⟨hmade ▸ hx, ?_⟩,
      fun _ _ _ _ => Iff.rfl, rfl, rfl, fun _ => rfl, rfl⟩
    exact hfiles ▸ (Outputs.ensureModuleDir_made m.baseName hw).2.2 l.dir hdir
  rw [show w.outputs.pathFor = l.work.outputs.pathFor by rw [hmade]; rfl] at hu
  unfold Listing.process at hp hp'
  rw [hd, hg] at hp'
  have ha := Progress.alike_of_processTypes hstart hm (fun _ h => h) hu he he' hp hp'
  exact ⟨p.report, p'.report, rfl, rfl, ha.gists, ha.renamed, fun hx hw => ha.outcomes ⟨hx, hw⟩⟩

def parted : List TypeDescriptor := [⟨"Foo", "Foo", "1"⟩, ⟨"Door", "Door", "2"⟩, ⟨"foo", "Ui.foo", "3"⟩]

seal Work.processModule Work.listing? in
theorem unrelated_outcomes_parted :
    ∃ l l' r r', Work.bare.listing? (Plan.steady parted) caseTwinsOutcome.module = some l ∧
      Work.bare.listing? (Plan.steady (marked [true, false, true] parted)) caseTwinsOutcome.module = some l' ∧
      (Work.bare.processModule (Plan.steady parted) caseTwinsOutcome.module).2 =
        .ok { module := caseTwinsOutcome.module, status := .completed, report := some r } ∧
      (Work.bare.processModule (Plan.steady (marked [true, false, true] parted)) caseTwinsOutcome.module).2 =
        .ok { module := caseTwinsOutcome.module, status := .completed, report := some r' } ∧
      marked [true, false, true] r.outcomes = r'.outcomes := by
  obtain ⟨l, hl⟩ := Option.isSome_iff_exists.mp
    (show (Work.bare.listing? (Plan.steady parted) caseTwinsOutcome.module).isSome = true by decide +kernel)
  obtain ⟨l', hl'⟩ := Option.isSome_iff_exists.mp (show (Work.bare.listing?
    (Plan.steady (marked [true, false, true] parted)) caseTwinsOutcome.module).isSome = true by decide +kernel)
  have ht : ∀ l ∈ Work.bare.listing? (Plan.steady parted) caseTwinsOutcome.module, l.types = parted ∧
      Progress.Unrelated (Work.bare.outputs.pathFor l.dir) (marked [true, false, true] parted)
        (marked [false, true, false] parted) := by decide +kernel
  have ht' : ∀ l ∈ Work.bare.listing? (Plan.steady (marked [true, false, true] parted)) caseTwinsOutcome.module,
      l.types = marked [true, false, true] parted := by decide +kernel
  obtain ⟨htypes, hu⟩ := ht l hl
  obtain ⟨o, ho⟩ := exists_of_isOk (show (Work.bare.processModule (Plan.steady parted)
    caseTwinsOutcome.module).2.isOk = true by decide +kernel)
  obtain ⟨o', ho'⟩ := exists_of_isOk (show (Work.bare.processModule
    (Plan.steady (marked [true, false, true] parted)) caseTwinsOutcome.module).2.isOk = true by decide +kernel)
  have hmarks : [true, false, true].length = l.types.length := by rw [htypes]; rfl
  have hgroup : l'.types = marked [true, false, true] l.types := by rw [htypes, ht' l' hl']
  obtain ⟨r, r', rfl, rfl, -, -, hexact⟩ := unrelated_outcomes (fun _ _ _ _ => rfl) (fun _ _ _ _ => rfl) hl hl'
    hmarks hgroup (by rw [htypes]; exact hu) ho ho'
  exact ⟨l, l', r, r', hl, hl', ho, ho', hexact (by decide) (by simp [Work.bare])⟩

def Work.crossed : Work where
  files := ⟨⟨[(["out"], .dir), (["out", "Rust"], .dir), (["out", "Rust", "X."], .dir)]⟩, []⟩
  outputs := ⟨⟨1, ["out"]⟩, "./../Y.", []⟩

def crossing : List TypeDescriptor := [⟨"X", "Game.X", "1"⟩, ⟨"Y", "Game.Y", "2"⟩]

def crossedResult (number : Nat) (text : String) : TypeResult :=
  .failed ⟨"Game.Y", s!"[Errno {number}] {text}: '/out/Rust/Y./../.Y..tmp'", "write"⟩

/-- The text of a failure can tell of a type that asks for another file. -/
theorem crossing_tells :
    Progress.Unrelated (Work.crossed.outputs.pathFor ⟨1, ["out", "Rust"]⟩) (marked [false, true] crossing)
        (marked [true, false] crossing) ∧
      ((Work.crossed.processModule (Plan.steady crossing) caseTwinsOutcome.module).2.toOption.bind
          (·.report)).map (marked [false, true] ·.outcomes) =
        some [⟨"Y", "Game.Y", crossedResult 20 "Not a directory"⟩] ∧
      ((Work.crossed.processModule (Plan.steady (marked [false, true] crossing))
          caseTwinsOutcome.module).2.toOption.bind (·.report)).map (·.outcomes) =
        some [⟨"Y", "Game.Y", crossedResult 2 "No such file or directory"⟩] := by
  decide +kernel

end Winnow
