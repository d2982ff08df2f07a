import Winnow.Proofs.Evolution

/-!
A run over files that it has been over before. Both runs go through their modules and types side by side; what the
first one changed keeps the second one from nothing and helps it to nothing, so both come to the same.
-/
set_option autoImplicit false

namespace Winnow

def Entry.bare : Entry → Entry
  | .dir => .dir
  | .file bytes _ => .file bytes false

/-- What stands at a place, but for the mark of executable files. -/
def FileTree.bare? (t : FileTree) (q : Place) : Option Entry := (t.get? q).map Entry.bare

/-- A decompiler whose answers depend on nothing but the module and the handle. -/
structure Engine.Pure (e : Engine) : Prop where
  opens : ∀ module, ∃ answer, ∀ history files searchPaths, (e.openModule history files module searchPaths).2 = answer
  lists : ∀ module, ∃ answer, ∀ history files, e.listTypes history files module = answer
  decompiles : ∀ module, ∃ answer, e.Fixed module answer

/-- What is done from `f` to `g` and from `f'` to `g'` comes to the same: every place is left as it is in both trees,
or looks alike in both afterwards. -/
def Concur (f g f' g' : Files) : Prop :=
  ∀ q, g'.tree.bare? q = g.tree.bare? q ∨ g.tree.get? q = f.tree.get? q ∧ g'.tree.get? q = f'.tree.get? q

namespace Concur

variable {f g h f' g' h' : Files}

theorem refl (f f' : Files) : Concur f f f' f' := fun _ => .inr ⟨rfl, rfl⟩

theorem trans (hf : Concur f g f' g') (hg : Concur g h g' h') : Concur f h f' h' := by
  intro q
  rcases hg q with he | ⟨he, he'⟩
  · exact .inl he
  · rcases hf q with hb | ⟨hf, hf'⟩
    · exact .inl (by simpa only [FileTree.bare?, he, he'] using hb)
    · exact .inr ⟨he.trans hf, he'.trans hf'⟩

theorem of_eq_none (hc : Concur f g f' g') {q : Place} (hn : g.tree.get? q = none) (hn' : g'.tree.get? q ≠ none) :
    f.tree.get? q = none ∧ f'.tree.get? q ≠ none := by
  rcases hc q with hb | ⟨he, he'⟩
  · simp only [FileTree.bare?, hn, Option.map_none, Option.map_eq_none_iff] at hb
    exact absurd hb hn'
  · exact ⟨he ▸ hn, he' ▸ hn'⟩

end Concur

namespace Outputs

theorem Unwrote.staging {f g : Files} {p : Path} {r : Place} (h : Unwrote f p g)
    (hr : f.place? (stagingPath p) = .ok r) (hd : f.tree.get? r ≠ some .dir) : g.tree.get? r = none := by
  have hgr := Files.place?_of_dirsKept h.dirsKept hr
  cases he : g.tree.get? r with
  | none => rfl
  | some e =>
    cases e with
    | file b x => exact absurd (Files.stat_eq_ok.mpr ⟨hgr, he⟩) (h.gone r b x)
    | dir =>
      rcases h.entry r with hs | ⟨-, -, hn⟩
      · exact absurd (hs.symm.trans he) hd
      · cases he.symm.trans hn

theorem concur_write_of_free {p : Path} {f g : Files} {value : Decompiled} {r : Place} (hw : ¬ Unwritable p)
    (hc : g.current = f.current) (hr : f.place? (stagingPath p) = .ok r) (hr' : g.place? (stagingPath p) = .ok r)
    (hd : f.tree.get? r ≠ some .dir) (hd' : g.tree.get? r ≠ some .dir)
    (hsame : (write p value g).2 = (write p value f).2) : Concur f (write p value f).1 g (write p value g).1 := by
  have htarget : g.placeOf p = f.placeOf p := Files.placeOf_of_current hc p
  have hplace : f.placeOf (stagingPath p) = r := Files.placeOf_of_place? hr
  have hplace' : g.placeOf (stagingPath p) = r := Files.placeOf_of_place? hr'
  rcases hf : write p value f with ⟨k, result⟩
  rcases hg : write p value g with ⟨k', result'⟩
  rw [hf, hg] at hsame
  obtain rfl : result' = result := hsame
  intro q
  cases result' with
  | error e =>
    have hu := (write_eq_error hw hf).1
    have hu' := (write_eq_error hw hg).1
    by_cases hq : q = r
    · subst hq
      exact .inl (by simp [FileTree.bare?, hu.staging hr hd, hu'.staging hr' hd'])
    · refine .inr ⟨(hu.entry q).resolve_right fun h => hq (h.1.trans hplace),
        (hu'.entry q).resolve_right fun h => hq (h.1.trans hplace')⟩
  | ok u =>
    obtain ⟨t, s, ht, hs, hwr⟩ := write_eq_ok hf
    obtain ⟨t', s', ht', hs', hwr'⟩ := write_eq_ok hg
    cases ht.symm.trans ht'
    cases hs.symm.trans hs'
    by_cases hq : q = f.placeOf p
    · obtain ⟨x, hx⟩ := hwr.content
      obtain ⟨x', hx'⟩ := hwr'.content
      rw [htarget] at hx'
      exact .inl (by simp [FileTree.bare?, hq, hx, hx', Entry.bare])
    · by_cases hqr : q = r
      · have hnone := hwr.staging
        have hnone' := hwr'.staging
        rw [hplace] at hnone
        rw [hplace'] at hnone'
        exact .inl (by simp [FileTree.bare?, hqr, hnone, hnone'])
      · exact .inr ⟨hwr.others q hq (hplace ▸ hqr), hwr'.others q (htarget ▸ hq) (hplace' ▸ hqr)⟩

theorem concur_write {p : Path} {f g : Files} (value : Decompiled) (hw : ¬ Unwritable p) (hc : g.current = f.current)
    (hp : prospect p g = prospect p f) : Concur f (write p value f).1 g (write p value g).1 := by
  have hn : p.name ≠ "" := (not_or.mp hw).1
  have hz : Files.holdsZero p = false := by simpa using (not_or.mp hw).2
  have hstaging := congrArg Prospect.staging hp
  simp only [prospect] at hstaging
  cases hr : f.place? (stagingPath p) with
  | error errno =>
    cases hr' : g.place? (stagingPath p) with
    | ok r' => simp [hr, hr', Except.map] at hstaging
    | error errno' =>
      rw [write_of_unreached false hn hz hr, write_of_unreached false hn hz hr']
      exact .refl f g
  | ok r =>
    cases hr' : g.place? (stagingPath p) with
    | error errno' => simp [hr, hr', Except.map] at hstaging
    | ok r' =>
      obtain rfl : r' = r := by
        rw [← Files.placeOf_of_place? hr', ← Files.placeOf_of_place? hr, Files.placeOf_of_current hc]
      simp only [hr, hr', Except.map, Except.ok.injEq] at hstaging
      have hdir : g.tree.get? r' = some .dir ↔ f.tree.get? r' = some .dir := by
        rw [← beq_iff_eq, hstaging, beq_iff_eq]
      by_cases hd : f.tree.get? r' = some .dir
      · rw [write_of_staging_dir false hn hz hr hd, write_of_staging_dir false hn hz hr' (hdir.mpr hd)]
        exact .refl f g
      · exact concur_write_of_free hw hc hr hr' hd (mt hdir.mp hd) (by rw [write_snd hw, write_snd hw, hp])

theorem concur_of_weeded {o : Outputs} {dir : Path} {keep : List Path} {f g f' g' : Files}
    (hc : f'.current = f.current)
    (hdirs : ∀ name,
      f'.tree.get? (f.placeOf dir ++ [name]) = some .dir ↔ f.tree.get? (f.placeOf dir ++ [name]) = some .dir)
    (h : o.Weeded dir keep f g) (h' : o.Weeded dir keep f' g') : Concur f g f' g' := by
  have hplace : ∀ p, f'.placeOf p = f.placeOf p := Files.placeOf_of_current hc
  intro q
  rcases h.entry q with he | ⟨hn, ⟨b, x, hb⟩, name, -, hsel, rfl, hk⟩
  · rcases h'.entry q with he' | ⟨hn', ⟨b, x, hb⟩, name, -, hsel, rfl, hk⟩
    · exact .inr ⟨he, he'⟩
    · simp only [hplace] at hn' hb hk he ⊢
      left
      cases hg : f.tree.get? (f.placeOf dir ++ [name]) with
      | none => simp [FileTree.bare?, he, hg, hn']
      | some e =>
        cases e with
        | dir => cases ((hdirs name).mpr hg).symm.trans hb
        | file b x => exact absurd (he.trans hg) (h.gone name hsel hk b x)
  · rcases h'.entry (f.placeOf dir ++ [name]) with he' | ⟨hn', -⟩
    · left
      cases hg : f'.tree.get? (f.placeOf dir ++ [name]) with
      | none => simp [FileTree.bare?, he', hg, hn]
      | some e =>
        cases e with
        | dir => cases ((hdirs name).mp hg).symm.trans hb
        | file b x =>
          have hgone := h'.gone name hsel (by simpa only [hplace] using hk) b x
          rw [hplace] at hgone
          exact absurd (he'.trans hg) hgone
    · exact .inl (by simp [FileTree.bare?, hn, hn'])

end Outputs

namespace Progress

/-- That two trees look the same to the types of a module: its directory is there in both, and what differs in
directories is directly below the root. -/
structure Abreast (root : Path) (n : String) (f f' : Files) : Prop where
  current : f'.current = f.current
  dir : f.isDir (root.child n) = .ok true
  dir' : f'.isDir (root.child n) = .ok true
  dirs : ∀ q, (∀ n', q ≠ f.placeOf root ++ [n']) → (f'.tree.get? q = some .dir ↔ f.tree.get? q = some .dir)

/-- Two runs that have come equally far in the types of a module, from `f` and from `f'`. -/
structure Twin (f f' : Files) (p p' : Progress) : Prop where
  outputs : p'.work.outputs = p.work.outputs
  claimed : p'.claimed = p.claimed
  report : p'.report = p.report
  kept : f.SameDirs p.work.files
  kept' : f'.SameDirs p'.work.files
  concur : Concur f p.work.files f' p'.work.files

section Twin

variable {plan : Plan} {module root : Path} {n : String} {f f' : Files} {p p' q q' : Progress} {d : TypeDescriptor}
  {a a' : Option Path} {r : TypeResult} {r' : Except RunError TypeResult} {answer : String → Except String Decompiled}

theorem Abreast.of_sameDirs {g g' : Files} (h : Abreast root n f f') (hf : f.SameDirs g) (hf' : f'.SameDirs g') :
    Abreast root n g g' := by
  refine ⟨?_, Files.isDir_of_dirsKept hf.kept h.dir, Files.isDir_of_dirsKept hf'.kept h.dir', fun q hq => ?_⟩
  · rw [hf.kept.current, hf'.kept.current, h.current]
  · rw [hf.placeOf] at hq
    rw [hf.dir_iff, hf'.dir_iff, h.dirs q hq]

theorem Abreast.dirs_child (h : Abreast root n f f') (hn : n ≠ "..") (x : String) :
    f'.tree.get? (f.placeOf ((root.child n).child x)) = some .dir ↔
      f.tree.get? (f.placeOf ((root.child n).child x)) = some .dir := by
  refine h.dirs _ fun n' hq => ?_
  have hdir : f.placeOf (root.child n) = f.placeOf root ++ [n] := Files.placeOf_child f root hn
  have henter : f.placeOf ((root.child n).child x) = FileTree.enter (f.placeOf (root.child n)) x := by
    simp [Files.placeOf, Path.child, Path.isAbsolute]
  have hl := congrArg List.length hq
  rw [henter, hdir] at hl
  unfold FileTree.enter at hl
  split at hl <;> simp at hl

theorem Abreast.prospect (h : Abreast root n f f') (hn : n ≠ "..") (x : String) :
    Outputs.prospect ((root.child n).child x) f' = Outputs.prospect ((root.child n).child x) f := by
  have hs : Outputs.stagingPath ((root.child n).child x) = (root.child n).child (Outputs.stagingName x) := by
    simp [Outputs.stagingPath, Path.withName, Path.child, Path.name, Outputs.stagingName]
  refine Outputs.prospect_congr h.current (Files.enters_child h.dir x) (Files.enters_child h.dir' x) ?_
    (h.dirs_child hn x)
  rw [hs]
  exact h.dirs_child hn _

theorem Twin.target? (ht : Twin f f' p p') (dir : Path) (d : TypeDescriptor) :
    p'.target? dir d = p.target? dir d :=
  target?_congr ht.outputs fun k _ => by rw [ht.claimed]

theorem Twin.step (ht : Twin f f' p p') (ha : Abreast root n f f') (hn : n ≠ "..")
    (hx : '/' ∉ p.work.outputs.extension.toList) (hd : d.Filed p.work.outputs.extension)
    (he : plan.engine.Fixed module answer) (hs : TypeStep plan module (root.child n) p d a q (.ok r))
    (hs' : TypeStep plan module (root.child n) p' d a' q' r') :
    r' = .ok r ∧ Concur p.work.files q.work.files p'.work.files q'.work.files := by
  have hr := result_of_step hs
  have hr' := result_of_step hs'
  rw [files_eq_of_step hs, files_eq_of_step hs']
  rw [show p.answer plan module d = answer d.handle from he _ _ _ _] at hr ⊢
  rw [show p'.answer plan module d = answer d.handle from he _ _ _ _, ht.target?] at hr' ⊢
  rcases resultOf_cases plan d (p.target? (root.child n) d) (answer d.handle) with
    ⟨r₀, hres, hf⟩ | ⟨path, renamed, value, hname, htarget, hres, hf⟩
  · rw [hres] at hr hr'
    rw [hf, hf]
    exact ⟨hr'.trans hr.symm, .refl _ _⟩
  · rw [hres] at hr hr'
    rw [hf, hf]
    have hw := writable_of_ofWrite hr
    have hab := ha.of_sameDirs ht.kept ht.kept'
    obtain ⟨x, rfl⟩ := target?_eq_child hx hd hname htarget
    have hprospect := hab.prospect hn x
    refine ⟨?_, Outputs.concur_write value hw hab.current hprospect⟩
    rw [hr', hr, Outputs.write_snd hw, Outputs.write_snd hw, hprospect]

theorem Twin.recorded (ht : Twin f f' p p') (hs : TypeStep plan module (root.child n) p d a q (.ok r))
    (hs' : TypeStep plan module (root.child n) p' d a' q' (.ok r))
    (hc : Concur p.work.files q.work.files p'.work.files q'.work.files) :
    Twin f f' (q.recorded d r) (q'.recorded d r) := by
  have hreport : q'.report = q.report := by
    rw [report_of_step hs, report_of_step hs', ht.report, ht.target?]
  have hdirs : f.SameDirs q.work.files := ht.kept.trans (sameDirs_of_step hs)
  have hdirs' : f'.SameDirs q'.work.files := ht.kept'.trans (sameDirs_of_step hs')
  refine ⟨?_, ?_, congrArg (fun report : Report => report.record ⟨d.name, d.fullName, r⟩) hreport, hdirs, hdirs',
    ht.concur.trans hc⟩
  · exact (outputs_of_step hs').trans (ht.outputs.trans (outputs_of_step hs).symm)
  · change q'.claimed = q.claimed
    rw [claimed_of_step hs, claimed_of_step hs', ht.claimed]

theorem twin_of_processTypes {types : List TypeDescriptor} (ht : Twin f f' p p') (ha : Abreast root n f f')
    (hn : n ≠ "..") (hx : '/' ∉ p.work.outputs.extension.toList)
    (hfiled : ∀ d ∈ types, d.Filed p.work.outputs.extension) (he : plan.engine.Fixed module answer)
    (h : processTypes plan module (root.child n) types p = (q, .ok ())) :
    ∃ q', processTypes plan module (root.child n) types p' = (q', .ok ()) ∧ Twin f f' q q' := by
  induction types generalizing p p' with
  | nil =>
    cases h
    exact ⟨p', rfl, ht⟩
  | cons d rest ih =>
    have hs := processType_step plan module (root.child n) p d
    have hs' := processType_step plan module (root.child n) p' d
    rw [processTypes_cons] at h ⊢
    rcases hd : processType plan module (root.child n) p d with ⟨s, result⟩
    rcases hd' : processType plan module (root.child n) p' d with ⟨s', result'⟩
    rw [hd] at hs h
    rw [hd'] at hs'
    cases result with
    | error e => cases h
    | ok r =>
      obtain ⟨hd, hrest⟩ := List.forall_mem_cons.mp hfiled
      obtain ⟨rfl, hc⟩ := ht.step ha hn hx hd he hs hs'
      have ho : s.work.outputs = p.work.outputs := outputs_of_step hs
      rw [← ho] at hx hrest
      exact ih (ht.recorded hs hs' hc) hx hrest h

end Twin

end Progress

namespace Work

/-- Two runs between the same two modules, the second one over what the first one is going to leave. -/
structure Twins (w v : Work) : Prop where
  founded : w.Founded
  founded' : v.Founded
  outputs : v.outputs = w.outputs
  evolves : w.files.Evolves w.outputs.root v.files

section Twins

variable {plan : Plan} {m : ModuleFile} {w v u : Work}

theorem Twins.abreast (ht : w.Twins v) {n : String} (hd : w.files.isDir (w.outputs.root.child n) = .ok true) :
    Progress.Abreast w.outputs.root n w.files v.files :=
  ⟨ht.evolves.current, hd, Files.isDir_of_dirsKept ht.evolves.dirsKept hd, fun _ hq => ht.evolves.dir_iff hq⟩

theorem Twins.obstacle? (ht : w.Twins v) {n : String} (hn : n ≠ "..") :
    v.files.obstacle? (w.outputs.root.child n) = w.files.obstacle? (w.outputs.root.child n) := by
  have hplace : w.files.placeOf (w.outputs.root.child n) = w.files.placeOf w.outputs.root ++ [n] :=
    Files.placeOf_child _ _ hn
  unfold Files.obstacle?
  rw [Files.placeOf_of_current ht.evolves.current, hplace]
  rcases ht.evolves.child n with he | ⟨hf, hg⟩
  · rw [he]
  · rw [hf, hg]

theorem Twins.prepare (ht : w.Twins v) (hn : Path.IsName m.baseName) :
    (∃ e, (w.prepare m).2 = .error e ∧ (v.prepare m).2 = .error e ∧
      (w.prepare m).1.files = w.files ∧ (v.prepare m).1.files = v.files ∧
      (v.prepare m).1.outputs = (w.prepare m).1.outputs) ∨
    ((w.prepare m).2 = .ok (w.outputs.root.child m.baseName) ∧
      (v.prepare m).2 = .ok (w.outputs.root.child m.baseName) ∧ (w.prepare m).1.Twins (v.prepare m).1 ∧
      Concur w.files (w.prepare m).1.files v.files (v.prepare m).1.files) := by
  have hobs := ht.obstacle? hn.notUp
  obtain ⟨hwf, -⟩ := founded_of_prepare ht.founded hn
  obtain ⟨hvf, -⟩ := founded_of_prepare ht.founded' hn
  obtain ⟨made, hmade⟩ := outputs_of_prepare m w
  have hwr : (w.prepare m).1.outputs.root = w.outputs.root := by rw [hmade]
  have hv := prepare_spec ht.founded' hn
  rw [ht.outputs, hobs, Files.placeOf_of_current ht.evolves.current] at hv
  rcases prepare_spec ht.founded hn with ⟨e, ho, hr, hf, hout⟩ | ⟨ho, hr, hh, hout⟩
  · rcases hv with ⟨e', ho', hr', hf', hout'⟩ | ⟨ho', -⟩
    · cases ho.symm.trans ho'
      exact .inl ⟨e, hr, hr', hf, hf', hout'.trans hout.symm⟩
    · cases ho.symm.trans ho'
  · rcases hv with ⟨e', ho', -⟩ | ⟨-, hr', hh', hout'⟩
    · cases ho.symm.trans ho'
    · refine .inr ⟨hr, hr', ⟨hwf, hvf, hout'.trans hout.symm, ?_⟩, fun q => ?_⟩
      · rw [hwr]
        refine ⟨?_, fun q => ?_⟩
        · rw [hh.current, hh'.current, ht.evolves.current]
        · by_cases hq : q = w.files.placeOf w.outputs.root ++ [m.baseName]
          · subst hq
            exact .inl (hh'.dir.trans hh.dir.symm)
          · rw [hh.others q hq, hh'.others q hq, Files.placeOf_of_current hh.current]
            exact ht.evolves.entry q
      · by_cases hq : q = w.files.placeOf w.outputs.root ++ [m.baseName]
        · subst hq
          exact .inl (by simp [FileTree.bare?, hh.dir, hh'.dir])
        · exact .inr ⟨hh.others q hq, hh'.others q hq⟩

theorem prune_twin {n : String} {written : List Path} (hw : w.Founded) (hv : v.Founded) (ho : v.outputs = w.outputs)
    (hab : Progress.Abreast w.outputs.root n w.files v.files) (hn : n ≠ "..")
    (hnew : ∀ x, w.files.tree.get? (w.files.placeOf w.outputs.root ++ [n, x]) = none →
      v.files.tree.get? (w.files.placeOf w.outputs.root ++ [n, x]) ≠ none → ((w.outputs.root.child n).child x).Fits)
    (h : w.prune plan (w.outputs.root.child n) written = (u, .ok ())) :
    ∃ u', v.prune plan (w.outputs.root.child n) written = (u', .ok ()) ∧ u'.outputs = u.outputs ∧
      Concur w.files u.files v.files u'.files := by
  have hplace : w.files.placeOf (w.outputs.root.child n) = w.files.placeOf w.outputs.root ++ [n] :=
    Files.placeOf_child _ _ hn
  have hdirs : ∀ r, (w.files.placeOf (w.outputs.root.child n)).length < r.length →
      (v.files.tree.get? r = some .dir ↔ w.files.tree.get? r = some .dir) := by
    refine fun r hr => hab.dirs r fun n' hq => ?_
    rw [hplace, hq] at hr
    simp at hr
  obtain ⟨huo, ⟨hoff, hf⟩ | ⟨hon, told, removed, hp⟩⟩ := prune_eq_ok h
  · refine ⟨v, by simp [prune, hoff], ho.trans huo.symm, ?_⟩
    rw [hf]
    exact .refl _ _
  · obtain ⟨removed', hok⟩ := Outputs.pruneStale_isOk_of_shared hw.slashFree hv.proper hab.current hab.dir hab.dir' hdirs
      (fun name => by rw [hplace, List.append_assoc]; exact hnew name) ⟨removed, congrArg (·.2.2) hp⟩
    rcases hp' : w.outputs.pruneStale (w.outputs.root.child n) written v.files with ⟨files, told', result⟩
    rw [hp'] at hok
    cases hok
    refine ⟨({ v with files } : Work).tellAll told', by simp [prune, hon, ho, hp', Except.map], ho.trans huo.symm, ?_⟩
    have hweed := Outputs.weeded_of_pruneStale hw.slashFree (.inl hw.proper) hab.dir hp
    have hweed' := Outputs.weeded_of_pruneStale hw.slashFree (.inl hv.proper) hab.dir' hp'
    exact Outputs.concur_of_weeded hab.current (fun name => hdirs _ (by simp)) hweed hweed'

theorem Founded.of_eq (hw : w.Founded) (hf : v.files = w.files) (ho : v.outputs = w.outputs) : v.Founded :=
  hw.of_evolves ho (hf ▸ .refl _ _)

theorem Twins.of_eq {w' v' : Work} (ht : w.Twins v) (hf : w'.files = w.files) (ho : w'.outputs = w.outputs)
    (hf' : v'.files = v.files) (ho' : v'.outputs = v.outputs) : w'.Twins v' := by
  refine ⟨ht.founded.of_eq hf ho, ht.founded'.of_eq hf' ho', ?_, ?_⟩
  · rw [ho, ho', ht.outputs]
  · rw [hf, hf', ho]
    exact ht.evolves

theorem Twins.process (ht : w.Twins v) {answer : String → Except String Decompiled}
    (he : plan.engine.Fixed m.path answer) (hn : Path.IsName m.baseName)
    (hd : w.files.isDir (w.outputs.root.child m.baseName) = .ok true) {types : List TypeDescriptor}
    (hfiled : ∀ d ∈ types, d.Filed w.outputs.extension) {p : Progress}
    (hp : (Listing.mk (w.outputs.root.child m.baseName) types w).process plan m = (p, .ok ())) :
    ∃ p', (Listing.mk (w.outputs.root.child m.baseName) types v).process plan m = (p', .ok ()) ∧
      Progress.Twin w.files v.files p p' ∧ p.work.outputs = w.outputs ∧ p.work.Founded ∧ p'.work.Founded := by
  have hbegin : Progress.Twin w.files v.files ((Listing.mk (w.outputs.root.child m.baseName) types w).begin m)
      ((Listing.mk (w.outputs.root.child m.baseName) types v).begin m) :=
    ⟨ht.outputs, rfl, rfl, .refl _, .refl _, .refl _ _⟩
  obtain ⟨p', hp', htwin⟩ := Progress.twin_of_processTypes hbegin (ht.abreast hd) hn.notUp ht.founded.slashFree
    hfiled he hp
  have hp' : (Listing.mk (w.outputs.root.child m.baseName) types v).process plan m = (p', .ok ()) := hp'
  obtain ⟨hpo, hpe⟩ := Progress.evolves_of_process ht.founded.slashFree hfiled hn.notUp rfl hp
  obtain ⟨hpo', hpe'⟩ : p'.work.outputs = v.outputs ∧ v.files.Evolves w.outputs.root p'.work.files :=
    Progress.evolves_of_process ht.founded'.slashFree (ht.outputs ▸ hfiled) hn.notUp rfl hp'
  refine ⟨p', hp', htwin, hpo, ht.founded.of_evolves hpo hpe, ht.founded'.of_evolves hpo' ?_⟩
  rw [ht.outputs]
  exact hpe'

theorem Twins.prune (ht : w.Twins v) {n : String} (hn : n ≠ "..")
    (hd : w.files.isDir (w.outputs.root.child n) = .ok true) {p p' : Progress}
    (htwin : Progress.Twin w.files v.files p p') (ho : p.work.outputs = w.outputs) (hp : p.work.Founded)
    (hp' : p'.work.Founded) (h : p.work.prune plan (w.outputs.root.child n) p.report.written = (u, .ok ())) :
    ∃ u', p'.work.prune plan (w.outputs.root.child n) p'.report.written = (u', .ok ()) ∧ u'.outputs = u.outputs ∧
      Concur w.files u.files v.files u'.files := by
  have hab := (ht.abreast hd).of_sameDirs htwin.kept htwin.kept'
  have hnew : ∀ x, p.work.files.tree.get? (p.work.files.placeOf w.outputs.root ++ [n, x]) = none →
      p'.work.files.tree.get? (p.work.files.placeOf w.outputs.root ++ [n, x]) ≠ none →
      ((w.outputs.root.child n).child x).Fits := by
    intro x hf hg
    rw [htwin.kept.placeOf] at hf hg
    obtain ⟨hf, hg⟩ := htwin.concur.of_eq_none hf hg
    exact ht.evolves.fits hf hg
  rw [← ho] at hab hnew h ⊢
  obtain ⟨u', hu', huo, hc⟩ := prune_twin hp hp' htwin.outputs hab hn hnew h
  rw [htwin.report]
  exact ⟨u', hu', huo, htwin.concur.trans hc⟩

theorem Twins.processOpen (ht : w.Twins v) (he : plan.engine.Pure) (hn : Path.IsName m.baseName)
    (hfiled : plan.engine.Filed w.outputs.extension m.path)
    (hd : w.files.isDir (w.outputs.root.child m.baseName) = .ok true) {o : ModuleOutcome}
    (h : (w.processOpen plan m (w.outputs.root.child m.baseName)).2 = .ok o) :
    (v.processOpen plan m (w.outputs.root.child m.baseName)).2 = .ok o ∧
      (v.processOpen plan m (w.outputs.root.child m.baseName)).1.outputs =
        (w.processOpen plan m (w.outputs.root.child m.baseName)).1.outputs ∧
      Concur w.files (w.processOpen plan m (w.outputs.root.child m.baseName)).1.files v.files
        (v.processOpen plan m (w.outputs.root.child m.baseName)).1.files := by
  obtain ⟨listed, hlisted⟩ := he.lists m.path
  obtain ⟨answer, hanswer⟩ := he.decompiles m.path
  have hlw : w.listTypes plan m = (w.call (.listTypes m.path), listed) := by simp [listTypes, hlisted]
  have hlv : v.listTypes plan m = (v.call (.listTypes m.path), listed) := by simp [listTypes, hlisted]
  have htc : (w.call (.listTypes m.path)).Twins (v.call (.listTypes m.path)) := ht.of_eq rfl rfl rfl rfl
  rw [processOpen_eq, hlw] at h
  rw [processOpen_eq, processOpen_eq, hlw, hlv]
  cases listed with
  | error reason => exact ⟨h, ht.outputs, .refl _ _⟩
  | ok types =>
    simp only at h ⊢
    rcases hp : (Listing.mk (w.outputs.root.child m.baseName) types (w.call (.listTypes m.path))).process plan m with
      ⟨p, result⟩
    rw [hp] at h
    cases result with
    | error e => cases h
    | ok _ =>
      have htypes : ∀ d ∈ types, d.Filed w.outputs.extension := hfiled w.calls w.files types (hlisted _ _)
      obtain ⟨p', hp', htwin, hpo, hpf, hpf'⟩ := htc.process hanswer hn hd htypes hp
      rw [show (Listing.mk (w.outputs.root.child m.baseName) types (v.call (.listTypes m.path))).process plan m =
        (p', .ok ()) from hp']
      simp only at h ⊢
      rcases hu : (p.work.close plan m.path).prune plan (w.outputs.root.child m.baseName) p.report.written with
        ⟨u, pruned⟩
      rw [hu] at h
      cases pruned with
      | error e => cases h
      | ok _ =>
        have hclosed : Progress.Twin w.files v.files { p with work := p.work.close plan m.path }
            { p' with work := p'.work.close plan m.path } :=
          ⟨htwin.outputs, htwin.claimed, htwin.report, htwin.kept, htwin.kept', htwin.concur⟩
        obtain ⟨u', hu', huo, hc⟩ := htc.prune hn.notUp hd hclosed hpo (hpf.of_eq rfl rfl) (hpf'.of_eq rfl rfl) hu
        rw [show (p'.work.close plan m.path).prune plan (w.outputs.root.child m.baseName) p'.report.written =
          (u', .ok ()) from hu']
        cases h
        rw [htwin.report]
        exact ⟨rfl, huo, hc⟩

theorem exists_openModule_eq {answer : Except String Unit}
    (h : ∀ history files searchPaths, (plan.engine.openModule history files m.path searchPaths).2 = answer) (w : Work) :
    ∃ told, w.openModule plan m = ((w.tellAll told).call (.openModule m.path plan.searchPaths), answer) :=
  ⟨_, Prod.ext rfl (h _ _ _)⟩

theorem Twins.processModule (ht : w.Twins v) (he : plan.engine.Pure) (hn : Path.IsName m.baseName)
    (hfiled : plan.engine.Filed w.outputs.extension m.path) {o : ModuleOutcome}
    (h : (w.processModule plan m).2 = .ok o) : (v.processModule plan m).2 = .ok o ∧
      (v.processModule plan m).1.outputs = (w.processModule plan m).1.outputs ∧
      Concur w.files (w.processModule plan m).1.files v.files (v.processModule plan m).1.files := by
  rw [processModule_eq] at h
  rw [processModule_eq, processModule_eq]
  by_cases hi : Importance.isImportant plan.importantPrefixes m.baseName = true
  · rw [if_pos hi] at h
    rw [if_pos hi, if_pos hi]
    obtain ⟨opened, hopened⟩ := he.opens m.path
    rcases ht.prepare hn with ⟨e, hr, hr', hf, hf', ho⟩ | ⟨hr, hr', htp, hc⟩
    · rcases hw : w.prepare m with ⟨w', made⟩
      rcases hv : v.prepare m with ⟨v', made'⟩
      rw [hw] at hr hf ho h
      rw [hv] at hr' hf' ho
      cases hr
      cases hr'
      exact ⟨h, ho, fun q => .inr ⟨congrArg (·.tree.get? q) hf, congrArg (·.tree.get? q) hf'⟩⟩
    · have hdir := (Outputs.ensureModuleDir_made m.baseName fun name dir hl => (ht.founded.made name dir hl).2).2.2 _ hr
      obtain ⟨made, hmade⟩ := outputs_of_prepare m w
      change (w.prepare m).1.files.isDir _ = _ at hdir
      rcases hw : w.prepare m with ⟨w', made⟩
      rcases hv : v.prepare m with ⟨v', made'⟩
      rw [hw] at hr htp hc hdir hmade h
      rw [hv] at hr' htp hc
      cases hr
      cases hr'
      simp only at h htp hc hdir hmade ⊢
      have hroot : w'.outputs.root = w.outputs.root := by rw [hmade]
      have hext : w'.outputs.extension = w.outputs.extension := by rw [hmade]
      rw [← hext] at hfiled
      rw [← hroot] at h hdir ⊢
      obtain ⟨told, hopen⟩ := exists_openModule_eq hopened w'
      obtain ⟨told', hopen'⟩ := exists_openModule_eq hopened v'
      rw [hopen] at h
      rw [hopen, hopen']
      cases opened with
      | error reason => exact ⟨h, htp.outputs, hc⟩
      | ok _ =>
        have hto : ((w'.tellAll told).call (.openModule m.path plan.searchPaths)).Twins
            ((v'.tellAll told').call (.openModule m.path plan.searchPaths)) := htp.of_eq rfl rfl rfl rfl
        obtain ⟨ho, hout, hc'⟩ := hto.processOpen he hn hfiled hdir h
        exact ⟨ho, hout, hc.trans hc'⟩
  · rw [if_neg hi] at h
    rw [if_neg hi, if_neg hi]
    exact ⟨h, ht.outputs, .refl _ _⟩

seal processModule in
theorem processModules_twin {modules : List ModuleFile} {outcomes : List ModuleOutcome} (hw : w.Founded)
    (hv : v.Founded) (ho : v.outputs = w.outputs) (he : plan.engine.Pure) (hn : ∀ m ∈ modules, Path.IsName m.baseName)
    (hfiled : ∀ m ∈ modules, plan.engine.Filed w.outputs.extension m.path)
    (h : (w.processModules plan modules).2 = .ok outcomes)
    (hev : (w.processModules plan modules).1.files.Evolves w.outputs.root v.files) :
    (v.processModules plan modules).2 = .ok outcomes ∧
      Concur w.files (w.processModules plan modules).1.files v.files (v.processModules plan modules).1.files := by
  induction modules generalizing w v outcomes with
  | nil => exact ⟨h, .refl _ _⟩
  | cons m rest ih =>
    have hall := evolves_of_processModules hw hn hfiled h
    obtain ⟨hm, hrest⟩ := List.forall_mem_cons.mp hn
    obtain ⟨hfm, hfrest⟩ := List.forall_mem_cons.mp hfiled
    obtain ⟨o, outcomes', hmo, rfl, hr, hlast⟩ := processModules_eq_ok h
    have ht : w.Twins v := ⟨hw, hv, ho, hall.trans hev⟩
    obtain ⟨hmo', hout, hc⟩ := ht.processModule he hm hfm hmo
    obtain ⟨hwf, -⟩ := founded_of_processModule hw hm hfm hmo
    obtain ⟨hvf, hve⟩ := founded_of_processModule hv hm (ho ▸ hfm) hmo'
    obtain ⟨made, hmade⟩ := outputs_of_processModule hmo
    have hwr : (w.processModule plan m).1.outputs.root = w.outputs.root := by rw [hmade]
    have hwx : (w.processModule plan m).1.outputs.extension = w.outputs.extension := by rw [hmade]
    rw [hlast] at hev ⊢
    rw [ho] at hve
    have hev' := hev.trans hve
    rw [← hwr] at hev'
    rw [← hwx] at hfrest
    obtain ⟨hr', hc'⟩ := ih hwf hvf hout hrest hfrest hr hev'
    have hstep : v.processModule plan m = ((v.processModule plan m).1, .ok o) := Prod.ext rfl hmo'
    rw [processModules_cons, hstep]
    exact ⟨congrArg (Except.map (o :: ·)) hr', hc.trans hc'⟩

end Twins

theorem ensureRoot_of_isDir {o : Outputs} {f : Files} (h : f.isDir o.root = .ok true) :
    o.ensureRoot f = (f, .ok o.root) := by
  unfold Outputs.ensureRoot
  rw [Files.makeDirs_of_isDir h]

section Root

variable {plan : Plan} {modules : List ModuleFile} {w : Work} {s : Summary}

theorem founded_of_rooted {root : Path} (hx : '/' ∉ w.outputs.extension.toList) (hp : w.files.Proper)
    (hm : w.outputs.made = []) (h : (w.outputs.ensureRoot w.files).2 = .ok root) : (w.rooted plan).Founded := by
  have hgrown := Outputs.ensureRoot_grown w.outputs w.files
  refine ⟨hx, hgrown.proper hp, isDir_of_rooted h, fun name dir hl => ?_⟩
  change w.outputs.made.lookup name = some dir at hl
  rw [hm] at hl
  cases hl

/-- Where the root directory is there, a run does nothing but go through its modules. -/
theorem run_of_isDir (plan : Plan) (modules : List ModuleFile) (h : w.files.isDir w.outputs.root = .ok true) :
    (w.rooted plan).files = w.files ∧
      (w.run plan (some modules)).2 = ((w.rooted plan).processModules plan modules).2.map Summary.mk := by
  have hensure := ensureRoot_of_isDir h
  refine ⟨congrArg Prod.fst hensure, ?_⟩
  rw [run_eq, hensure]
  exact concluded_snd _

end Root

end Work

/-- A second run over what a run has left gives the same summary, and leaves at every place the same kind of entry with
the same bytes. -/
theorem run_again {plan : Plan} {modules : List ModuleFile} {w v : Work} {s : Summary} (he : plan.engine.Pure)
    (hp : w.files.Proper) (hx : '/' ∉ w.outputs.extension.toList) (hn : ∀ m ∈ modules, Path.IsName m.baseName)
    (hfiled : ∀ m ∈ modules, plan.engine.Filed w.outputs.extension m.path) (hm : w.outputs.made = [])
    (h : (w.run plan (some modules)).2 = .ok s) (ho : v.outputs = w.outputs)
    (hf : v.files = (w.run plan (some modules)).1.files) :
    (v.run plan (some modules)).2 = .ok s ∧
      ∀ q, (v.run plan (some modules)).1.files.tree.bare? q = v.files.tree.bare? q := by
  obtain ⟨root, modules', hroot, hmodules, hs, hfiles⟩ := Work.run_eq_ok h
  cases hmodules
  have hw : (w.rooted plan).Founded := Work.founded_of_rooted hx hp hm hroot
  have hev := Work.evolves_of_processModules hw hn hfiled hs
  rw [← hfiles, ← hf] at hev
  -- The second run finds its root directory, and from there it is the twin of the first.
  have hdir : v.files.isDir v.outputs.root = .ok true := by
    rw [ho]
    exact Files.isDir_of_dirsKept hev.dirsKept hw.root
  obtain ⟨hvrf, hvrun⟩ := Work.run_of_isDir plan modules hdir
  have hvro : (v.rooted plan).outputs = (w.rooted plan).outputs := ho
  have hv : (v.rooted plan).Founded := hw.of_evolves hvro (hvrf ▸ hev)
  have hstart : ((w.rooted plan).processModules plan modules).1.files.Evolves w.outputs.root (v.rooted plan).files := by
    rw [hvrf, hf, hfiles]
    exact .refl _ _
  obtain ⟨hs', hc⟩ := Work.processModules_twin hw hv hvro he hn hfiled hs hstart
  have hrun : (v.run plan (some modules)).2 = .ok s := by rw [hvrun, hs']; rfl
  obtain ⟨-, modules', -, hmodules', -, hfiles'⟩ := Work.run_eq_ok hrun
  cases hmodules'
  refine ⟨hrun, fun q => ?_⟩
  rw [hfiles']
  rcases hc q with hb | ⟨-, he⟩
  · rw [hb, ← hfiles, ← hf]
  · rw [FileTree.bare?, FileTree.bare?, he, hvrf]

theorem Engine.pure_steady (types : List TypeDescriptor) : (Engine.steady types).Pure where
  opens _ := ⟨.ok (), fun _ _ _ => rfl⟩
  lists _ := ⟨.ok types, fun _ _ => rfl⟩
  decompiles module :=
    ⟨fun handle => .ok (.text (Text.CodeText.ofString (module.toString ++ handle))), fun _ _ _ _ => rfl⟩

def Work.afresh (plan : Plan) (modules : List ModuleFile) (w : Work) : Work :=
  { w with files := (w.run plan (some modules)).1.files }

def oneDirectory : List ModuleFile := [⟨⟨1, ["src", "Rust.dll"]⟩⟩, ⟨⟨1, ["src", "Rust.exe"]⟩⟩]

def Plan.pruning : Plan := { Plan.steady [⟨"Door", "Door", "1"⟩] with pruneStale := true }

seal Work.run in
theorem run_again_oneDirectory :
    ∃ s, (Work.bare.run Plan.pruning (some oneDirectory)).2 = .ok s ∧
      ((Work.bare.afresh Plan.pruning oneDirectory).run Plan.pruning (some oneDirectory)).2 = .ok s ∧
      ∀ q, ((Work.bare.afresh Plan.pruning oneDirectory).run Plan.pruning (some oneDirectory)).1.files.tree.bare? q =
        (Work.bare.afresh Plan.pruning oneDirectory).files.tree.bare? q := by
  obtain ⟨s, hs⟩ := exists_of_isOk
    (show (Work.bare.run Plan.pruning (some oneDirectory)).2.isOk = true by decide +kernel)
  have hname : ∀ m ∈ oneDirectory, Path.IsName m.baseName := by
    have hall : ∀ m ∈ oneDirectory, m.baseName = "Rust" := by decide
    intro m hm
    rw [hall m hm]
    exact ⟨by decide, by decide, by decide⟩
  have hempty : ∀ q, q ≠ [] → Work.bare.files.tree.get? q = none := by
    intro q hq
    simp [Work.bare, FileTree.get?, hq]
  have hproper : Work.bare.files.Proper := by
    refine ⟨by simp [Work.bare], fun q hq => ?_⟩
    by_cases hn : q = []
    · simp [hn]
    · exact absurd (hempty q hn) hq
  have hfiled : ∀ m ∈ oneDirectory, Plan.pruning.engine.Filed Work.bare.outputs.extension m.path :=
    fun _ _ _ _ _ _ _ _ he => absurd he (by decide)
  exact ⟨s, hs, run_again (v := Work.bare.afresh Plan.pruning oneDirectory) (Engine.pure_steady _) hproper
    (by decide) hname hfiled rfl hs rfl rfl⟩

/-- A module, and another one whose directory is where the first one stages a file. -/
def staged : List ModuleFile := [⟨⟨1, ["src", "Rust.dll"]⟩⟩, ⟨⟨1, ["src", ".Rust.tmp.dll"]⟩⟩]

def Work.plain : Work := { Work.bare with outputs := ⟨⟨1, ["out"]⟩, "", []⟩ }

/-- A plan with a type that is called by a dot, so that its file is the directory of its module. -/
def Plan.dotted : Plan := { Plan.steady [⟨".", "Game.Dot", "1"⟩] with importantPrefixes := ["Rust", ".Rust"] }

def Summary.reasons (s : Summary) : List String := s.reports.flatMap fun r => r.failed.map (·.error)

/-- Without an extension a second run can fail for another reason than the first. -/
theorem run_again_plain :
    (∀ m ∈ staged, Path.isPart m.baseName = true ∧ m.baseName ≠ ".." ∧ '/' ∉ m.baseName.toList) ∧
      ((Work.plain.run Plan.dotted (some staged)).2.toOption.map Summary.reasons) =
        some ["[Errno 21] Is a directory: '/out/.Rust.tmp' -> '/out/Rust'",
          "[Errno 21] Is a directory: '/out/..Rust.tmp.tmp' -> '/out/.Rust.tmp'"] ∧
      (((Work.plain.afresh Plan.dotted staged).run Plan.dotted (some staged)).2.toOption.map Summary.reasons) =
        some ["[Errno 21] Is a directory: '/out/.Rust.tmp'",
          "[Errno 21] Is a directory: '/out/..Rust.tmp.tmp' -> '/out/.Rust.tmp'"] := by
  decide +kernel

end Winnow
