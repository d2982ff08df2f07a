import Winnow.Proofs.Naming

/-!
What pruning does with its candidates: the files among them are removed but for those that are kept, and nothing
else is touched. It fails if a candidate can be told to be neither.
-/
set_option autoImplicit false

namespace Winnow

namespace Outputs

theorem isFile_eq (f : Files) (p : Path) :
    f.isFile p = (f.look p).map fun r => r.any fun e => match e with | .file .. => true | .dir => false := by
  unfold Files.isFile
  cases f.look p with
  | error e => rfl
  | ok r =>
    cases r with
    | none => rfl
    | some e => cases e <;> rfl

/-- That a candidate cannot be told to be kept or removed: there is a zero byte in its path, or it is not kept and
its path is too long. -/
def Stuck (kept : List Path) (f : Files) (c : Path) : Prop :=
  Files.holdsZero c = true ∨ ⟨1, f.placeOf c⟩ ∉ kept ∧ f.place? c = .error .nameTooLong

theorem prune_of_kept {kept : List Path} {f : Files} {c : Path} (hz : Files.holdsZero c = false)
    (hk : ⟨1, f.placeOf c⟩ ∈ kept) : prune kept f c = .ok (f, false, []) := by
  simp [prune, Files.resolve_eq f hz, hk, bind, Except.bind, pure, Except.pure]

theorem prune_of_file {kept : List Path} {f : Files} {c : Path} {q : Place} {b : ByteArray} {x : Bool}
    (hz : Files.holdsZero c = false) (hk : ⟨1, f.placeOf c⟩ ∉ kept) (hq : f.place? c = .ok q)
    (he : f.tree.get? q = some (.file b x)) :
    prune kept f c = .ok ({ f with tree := f.tree.erase q }, true, []) := by
  have hl : f.look c = .ok (some (.file b x)) := Files.look_eq_some.mpr ⟨hz, q, hq, he⟩
  simp [prune, Files.resolve_eq f hz, hk, isFile_eq, hl, Files.unlink_of_file hz hq he, Except.map, bind, Except.bind,
    pure, Except.pure]

theorem prune_of_not_file {kept : List Path} {f : Files} {c : Path} {r : Option Entry}
    (hz : Files.holdsZero c = false) (hk : ⟨1, f.placeOf c⟩ ∉ kept) (hl : f.look c = .ok r)
    (hr : ∀ b x, r ≠ some (.file b x)) : prune kept f c = .ok (f, false, []) := by
  have hn : (r.any fun e => match e with | .file .. => true | .dir => false) = false := by
    cases r with
    | none => rfl
    | some e =>
      cases e with
      | dir => rfl
      | file b x => exact absurd rfl (hr b x)
  simp [prune, Files.resolve_eq f hz, hk, isFile_eq, hl, hn, Except.map, bind, Except.bind, pure, Except.pure]

theorem prune_of_stuck {kept : List Path} {f : Files} {c : Path} (h : Stuck kept f c) :
    ∃ e, prune kept f c = .error e := by
  cases hz : Files.holdsZero c with
  | true => exact ⟨.zeroByte, by simp [prune, Files.resolve, hz, bind, Except.bind]⟩
  | false =>
    obtain ⟨hk, hp⟩ := h.resolve_left (by simp [hz])
    obtain ⟨e, hl⟩ := Files.look_eq_error_iff.mpr ⟨hz, hp⟩
    exact ⟨e, by simp [prune, Files.resolve_eq f hz, hk, isFile_eq, hl, Except.map, bind, Except.bind]⟩

/-- Everything that pruning can do with one candidate. -/
inductive PruneStep (kept : List Path) (f : Files) (c : Path) : Except FileError (Files × Bool × List Record) → Prop
  | stuck (e : FileError) (hs : Stuck kept f c) : PruneStep kept f c (.error e)
  | spared (hs : ¬ Stuck kept f c) (hz : Files.holdsZero c = false)
      (hr : ⟨1, f.placeOf c⟩ ∈ kept ∨ ∃ r, f.look c = .ok r ∧ ∀ b x, r ≠ some (.file b x)) :
      PruneStep kept f c (.ok (f, false, []))
  | removed (q : Place) (b : ByteArray) (x : Bool) (hs : ¬ Stuck kept f c) (hz : Files.holdsZero c = false)
      (hk : ⟨1, f.placeOf c⟩ ∉ kept) (hq : f.place? c = .ok q) (he : f.tree.get? q = some (.file b x)) :
      PruneStep kept f c (.ok ({ f with tree := f.tree.erase q }, true, []))

theorem prune_step (kept : List Path) (f : Files) (c : Path) : PruneStep kept f c (prune kept f c) := by
  by_cases hs : Stuck kept f c
  · obtain ⟨e, he⟩ := prune_of_stuck hs
    rw [he]
    exact .stuck e hs
  · have hz : Files.holdsZero c = false := by simpa using (not_or.mp hs).1
    have hp := not_and.mp (not_or.mp hs).2
    by_cases hk : ⟨1, f.placeOf c⟩ ∈ kept
    · rw [prune_of_kept hz hk]
      exact .spared hs hz (.inl hk)
    · cases hl : f.look c with
      | error e => exact absurd (Files.look_eq_error_iff.mp ⟨e, hl⟩).2 (hp hk)
      | ok r =>
        by_cases hr : ∃ b x, r = some (.file b x)
        · obtain ⟨b, x, rfl⟩ := hr
          obtain ⟨-, q, hq, he⟩ := Files.look_eq_some.mp hl
          rw [prune_of_file hz hk hq he]
          exact .removed q b x hs hz hk hq he
        · have hr : ∀ b x, r ≠ some (.file b x) := fun b x h => hr ⟨b, x, h⟩
          rw [prune_of_not_file hz hk hl hr]
          exact .spared hs hz (.inr ⟨r, hl, hr⟩)

theorem prune_isOk_iff (kept : List Path) (f : Files) (c : Path) :
    (∃ r, prune kept f c = .ok r) ↔ ¬ Stuck kept f c := by
  have h := prune_step kept f c
  generalize prune kept f c = result at h ⊢
  cases h with
  | stuck e hs => simp [hs]
  | spared hs hz hr => simp [hs]
  | removed q b x hs hz hk hq he => simp [hs]

theorem dirsKept_of_prune {kept : List Path} {f g : Files} {c : Path} {gone : Bool} {told : List Record}
    (h : prune kept f c = .ok (g, gone, told)) : f.DirsKept g ∧ g.DirsKept f := by
  have hs := prune_step kept f c
  rw [h] at hs
  cases hs with
  | spared hs hz hr => exact ⟨.refl f, .refl f⟩
  | removed q b x hs hz hk hq he =>
    have hq0 : q ≠ [] := by rintro rfl; simp at he
    refine ⟨⟨rfl, fun a ha => ?_⟩, ⟨rfl, fun a ha => ?_⟩⟩
    · by_cases haq : a = q
      · rw [haq, he] at ha
        cases ha
      · exact (FileTree.get?_erase _ haq).trans ha
    · by_cases haq : a = q
      · rw [haq, FileTree.get?_erase_self _ hq0] at ha
        cases ha
      · exact (FileTree.get?_erase _ haq).symm.trans ha

theorem stuck_iff_of_dirsKept {kept : List Path} {f g : Files} {c : Path} (h : f.DirsKept g) (h' : g.DirsKept f) :
    Stuck kept g c ↔ Stuck kept f c := by
  have hp : g.place? c = .error .nameTooLong ↔ f.place? c = .error .nameTooLong :=
    ⟨Files.place?_nameTooLong_of_dirsKept h', Files.place?_nameTooLong_of_dirsKept h⟩
  rw [Stuck, Stuck, hp, Files.placeOf_of_current h.current]

/-- Whether a candidate can be dealt with does not depend on what was removed before it. -/
theorem pruneAll_isOk_iff (kept cs : List Path) (f : Files) :
    (∃ removed, (pruneAll kept cs f).2.2 = .ok removed) ↔ ∀ c ∈ cs, ¬ Stuck kept f c := by
  induction cs generalizing f with
  | nil => simp [pruneAll]
  | cons c cs ih =>
    have hc := prune_isOk_iff kept f c
    simp only [pruneAll, List.forall_mem_cons]
    cases hp : prune kept f c with
    | error e =>
      rw [hp] at hc
      have hs : Stuck kept f c := by simpa using hc
      simp [hs]
    | ok r =>
      obtain ⟨g, gone, told⟩ := r
      obtain ⟨hd, hd'⟩ := dirsKept_of_prune hp
      have hr : (∃ removed, ((pruneAll kept cs g).2.2.map fun removed => if gone then c :: removed else removed) =
          .ok removed) ↔ ∃ removed, (pruneAll kept cs g).2.2 = .ok removed := by
        cases (pruneAll kept cs g).2.2 <;> simp [Except.map]
      simp only
      rw [hr, ih g]
      simp only [stuck_iff_of_dirsKept hd hd', hc.mp ⟨_, hp⟩, not_false_eq_true, true_and]

/-- That the directory of a module cannot be pruned: a path to keep holds a zero byte, no candidates are found, or
one of them is stuck. -/
def Unprunable (o : Outputs) (dir : Path) (keep : List Path) (f : Files) : Prop :=
  (∃ p ∈ keep, Files.holdsZero p = true) ∨ (∃ e, o.candidates dir f = .error e) ∨
    ∃ found, o.candidates dir f = .ok found ∧ ∃ c ∈ found, Stuck (keep.map fun p => ⟨1, f.placeOf p⟩) f c

theorem mapM_resolve {f : Files} {keep : List Path} (h : ∀ p ∈ keep, Files.holdsZero p = false) :
    keep.mapM f.resolve = .ok (keep.map fun p => ⟨1, f.placeOf p⟩) := by
  induction keep with
  | nil => rfl
  | cons p keep ih =>
    rw [List.mapM_cons, Files.resolve_eq f (h p (by simp)), ih fun p' hp => h p' (by simp [hp])]
    rfl

theorem mapM_resolve_of_holdsZero {f : Files} {keep : List Path} (h : ∃ p ∈ keep, Files.holdsZero p = true) :
    ∃ e, keep.mapM f.resolve = .error e := by
  induction keep with
  | nil => simp at h
  | cons p keep ih =>
    rw [List.mapM_cons]
    cases hz : Files.holdsZero p with
    | true => exact ⟨.zeroByte, by simp [Files.resolve, hz, bind, Except.bind]⟩
    | false =>
      obtain ⟨e, he⟩ := ih (by simpa [hz] using h)
      exact ⟨e, by simp [Files.resolve_eq f hz, he, bind, Except.bind]⟩

theorem pruneStale_isOk_iff (o : Outputs) (dir : Path) (keep : List Path) (f : Files) :
    (∃ removed, (o.pruneStale dir keep f).2.2 = .ok removed) ↔ ¬ o.Unprunable dir keep f := by
  unfold pruneStale Unprunable
  by_cases hz : ∃ p ∈ keep, Files.holdsZero p = true
  · obtain ⟨e, he⟩ := mapM_resolve_of_holdsZero (f := f) hz
    simp [he, hz]
  · have hk : ∀ p ∈ keep, Files.holdsZero p = false := by simpa using hz
    rw [mapM_resolve hk]
    cases hc : o.candidates dir f with
    | error e => simp
    | ok found =>
      have ha := pruneAll_isOk_iff (keep.map fun p => ⟨1, f.placeOf p⟩) found f
      simp only
      rcases hp : pruneAll (keep.map fun p => ⟨1, f.placeOf p⟩) found f with ⟨g, told, result⟩
      rw [hp] at ha
      cases result with
      | error e =>
        have hs : ∃ c ∈ found, Stuck (keep.map fun p => ⟨1, f.placeOf p⟩) f c := by simpa using ha
        simp [hs]
      | ok removed =>
        have hs := ha.mp ⟨removed, rfl⟩
        simpa [hz] using hs

theorem pruneAll_of_pruneStale {o : Outputs} {dir : Path} {keep : List Path} {f : Files} {removed : List Path}
    (h : (o.pruneStale dir keep f).2.2 = .ok removed) : ∃ found told, o.candidates dir f = .ok found ∧
      pruneAll (keep.map fun p => ⟨1, f.placeOf p⟩) found f = ((o.pruneStale dir keep f).1, told, .ok removed) := by
  have hok := (pruneStale_isOk_iff o dir keep f).mp ⟨removed, h⟩
  have hz : ∀ p ∈ keep, Files.holdsZero p = false := by simpa using fun hz => hok (.inl hz)
  unfold pruneStale at h ⊢
  rw [mapM_resolve hz] at h ⊢
  cases hf : o.candidates dir f with
  | error e => exact absurd (.inr (.inl ⟨e, hf⟩)) hok
  | ok found =>
    simp only [hf] at h ⊢
    rcases ha : pruneAll (keep.map fun p => ⟨1, f.placeOf p⟩) found f with ⟨g, told, result⟩
    rw [ha] at h
    cases result with
    | error e => cases h
    | ok removed' =>
      cases h
      exact ⟨found, told, rfl, ha⟩

/-- `g` is `f` without the files that candidates lead to, but for those at kept places. -/
structure Cleared (kept cs : List Path) (f g : Files) : Prop where
  dirs : f.SameDirs g
  entry : ∀ q, g.tree.get? q = f.tree.get? q ∨
    (g.tree.get? q = none ∧ (∃ b x, f.tree.get? q = some (.file b x)) ∧ ⟨1, q⟩ ∉ kept ∧ ∃ c ∈ cs, f.place? c = .ok q)
  gone : ∀ c ∈ cs, ∀ q, f.place? c = .ok q → ⟨1, q⟩ ∉ kept → ∀ b x, g.tree.get? q ≠ some (.file b x)

theorem cleared_of_prune {kept : List Path} {f g : Files} {c : Path} {gone : Bool} {told : List Record}
    (h : prune kept f c = .ok (g, gone, told)) : Cleared kept [c] f g := by
  obtain ⟨hd, hd'⟩ := dirsKept_of_prune h
  have hs := prune_step kept f c
  rw [h] at hs
  cases hs with
  | spared hs hz hr =>
    refine ⟨⟨hd, hd'⟩, fun q => .inl rfl, fun c' hc q hq hk b x hb => ?_⟩
    cases List.mem_singleton.mp hc
    rcases hr with hr | ⟨r, hl, hr⟩
    · exact hk (Files.placeOf_of_place? hq ▸ hr)
    · exact hr b x (Except.ok.inj (hl.symm.trans (Files.look_eq_some.mpr ⟨hz, q, hq, hb⟩)))
  | removed r b x hs hz hk hr he =>
    have hr0 : r ≠ [] := by rintro rfl; simp at he
    refine ⟨⟨hd, hd'⟩, fun q => ?_, fun c' hc q hq _ b' x' => ?_⟩
    · by_cases hq : q = r
      · subst hq
        exact .inr ⟨FileTree.get?_erase_self _ hr0, ⟨b, x, he⟩, Files.placeOf_of_place? hr ▸ hk, c, by simp, hr⟩
      · exact .inl (FileTree.get?_erase _ hq)
    · cases List.mem_singleton.mp hc
      cases hq.symm.trans hr
      simp [FileTree.get?_erase_self _ hr0]

theorem Cleared.append {kept cs cs' : List Path} {f g k : Files} (h : Cleared kept cs f g)
    (h' : Cleared kept cs' g k) : Cleared kept (cs ++ cs') f k := by
  refine ⟨h.dirs.trans h'.dirs, fun q => ?_, fun c hc q hq hk b x hb => ?_⟩
  · rcases h'.entry q with he | ⟨hn, hfile, hk, c, hc, hp⟩
    · rw [he]
      refine (h.entry q).imp_right fun ⟨hn, hfile, hk, c, hc, hp⟩ => ?_
      exact ⟨hn, hfile, hk, c, by simp [hc], hp⟩
    · rcases h.entry q with he | ⟨hn', -⟩
      · exact .inr ⟨hn, he ▸ hfile, hk, c, by simp [hc], h.dirs.place?_eq_ok.mp hp⟩
      · obtain ⟨b, x, hb⟩ := hfile
        cases hn'.symm.trans hb
  · rcases List.mem_append.mp hc with hc | hc
    · rcases h'.entry q with he | ⟨hn, -⟩
      · exact h.gone c hc q hq hk b x (he ▸ hb)
      · cases hn.symm.trans hb
    · exact h'.gone c hc q (h.dirs.place?_eq_ok.mpr hq) hk b x hb

theorem cleared_of_pruneAll {kept cs : List Path} {f g : Files} {told : List Record} {removed : List Path}
    (h : pruneAll kept cs f = (g, told, .ok removed)) : Cleared kept cs f g := by
  induction cs generalizing f told removed with
  | nil =>
    cases h
    exact ⟨.refl _, fun _ => .inl rfl, by simp⟩
  | cons c cs ih =>
    simp only [pruneAll] at h
    cases hp : prune kept f c with
    | error e => simp [hp] at h
    | ok r =>
      obtain ⟨k, gone, told'⟩ := r
      simp only [hp] at h
      rcases hr : pruneAll kept cs k with ⟨g', told'', result⟩
      cases result with
      | error e => simp [hr, Except.map] at h
      | ok removed' =>
        simp only [hr, Prod.mk.injEq] at h
        obtain ⟨rfl, -⟩ := h
        exact (cleared_of_prune hp).append (ih hr)

end Outputs

end Winnow
