import Winnow.Proofs.Conversation
import Winnow.Proofs.Folding
import Winnow.Proofs.Claiming

/-!
What becomes of the types that metadata declare if nothing fails but for want of a file name. The types are served
in their order: each gets the file of its name, of its full name if that one is taken, or none.
-/
set_option autoImplicit false

namespace Winnow
open Text

namespace TypeName

/-- That a name holds none of the characters that a file name may not hold. -/
def Safe (name : String) : Prop := ∀ c ∈ name.toList, c ∉ unsafeChars

instance (name : String) : Decidable (Safe name) := List.decidableBAll _ _

theorem Safe.empty : Safe "" := by decide

theorem Safe.dot : Safe "." := by decide

theorem Safe.append {a b : String} (ha : Safe a) (hb : Safe b) : Safe (a ++ b) := by
  intro c hc
  rcases List.mem_append.mp (String.toList_append ▸ hc) with hc | hc
  · exact ha c hc
  · exact hb c hc

theorem Safe.withoutArity {name : String} (h : Safe name) : Safe (withoutArity name) := by
  unfold TypeName.withoutArity
  simp only
  split
  · intro c hc
    rw [String.toList_ofList] at hc
    exact h c (List.mem_of_mem_take hc)
  · exact h

theorem fileStem_of_safe {name : String} (h : Safe name) : fileStem name = name := by
  have hs : ∀ c ∈ name.toList, safeChar c = c := fun c hc => by simp [safeChar, h c hc]
  rw [fileStem, List.map_congr_left hs, List.map_id', String.ofList_toList]

end TypeName

namespace TypeTable

variable {t : TypeTable}

/-- That no name and no namespace of a module holds a character that a file name may not hold. -/
def Safe (t : TypeTable) : Prop := ∀ row ∈ t.rows, TypeName.Safe row.name ∧ TypeName.Safe row.space

instance (t : TypeTable) : Decidable t.Safe := inferInstanceAs (Decidable (∀ _ ∈ _, _ ∧ _))

/-- Names that have been worked out for a row: the full name ends in the row's own, and what stands before it is
safe. -/
def Named (t : TypeTable) (number : Nat) (names : TypeNames) : Prop :=
  ∃ row lead, t.row? number = some row ∧ TypeName.Safe lead ∧ names.fullName = lead ++ TypeName.withoutArity row.name

theorem Named.safe {number : Nat} {names : TypeNames} (hs : t.Safe) (h : t.Named number names) :
    TypeName.Safe names.fullName := by
  obtain ⟨row, lead, hr, hl, hf⟩ := h
  rw [hf]
  exact hl.append (hs row (mem_rows_of_row? hr)).1.withoutArity

theorem named_rootNames {number : Nat} {row : TypeRow} (hs : t.Safe) (hr : t.row? number = some row) :
    t.Named number row.rootNames := by
  refine ⟨row, if row.space.isEmpty then "" else row.space ++ ".", hr, ?_, rfl⟩
  split
  · exact .empty
  · exact (hs row (mem_rows_of_row? hr)).2.append .dot

theorem named_nestedNames {number : Nat} {row : TypeRow} {outer : TypeNames} (hr : t.row? number = some row)
    (ho : TypeName.Safe outer.fullName) : t.Named number (row.nestedNames outer) :=
  ⟨row, outer.fullName ++ ".", hr, ho.append .dot, rfl⟩

theorem named_of_resolve (hs : t.Safe) {fuel : Nat} {visiting : List Nat} {known : Known} {number : Nat}
    (hk : ∀ e ∈ known, t.Named e.1 e.2) : ∀ e ∈ t.resolve fuel visiting known number, t.Named e.1 e.2 := by
  induction fuel generalizing visiting known number with
  | zero => exact hk
  | succ fuel ih =>
    unfold resolve
    split
    · exact hk
    · exact hk
    · next row _ hr =>
      split
      · exact List.forall_mem_cons.mpr ⟨named_rootNames hs hr, hk⟩
      · next parent hp =>
        split
        · exact List.forall_mem_cons.mpr ⟨named_rootNames hs hr, hk⟩
        · have hk' : ∀ e ∈ t.resolve fuel (number :: visiting) known parent, t.Named e.1 e.2 := ih hk
          refine List.forall_mem_cons.mpr ⟨named_nestedNames hr ?_, hk'⟩
          cases hl : (t.resolve fuel (number :: visiting) known parent).lookup parent with
          | none => exact .empty
          | some names =>
            obtain ⟨_, _, hm, -⟩ := List.lookup_eq_some_iff.mp hl
            exact (hk' (parent, names) (by simp [hm])).safe hs

theorem lookup_isSome_cons {known : Known} {m n : Nat} {names : TypeNames} (h : (known.lookup m).isSome) :
    (((n, names) :: known).lookup m).isSome := by
  rw [List.lookup_cons]
  split
  · rfl
  · exact h

theorem isSome_of_resolve {fuel : Nat} {visiting : List Nat} {known : Known} {m number : Nat}
    (h : (known.lookup m).isSome) : ((t.resolve fuel visiting known number).lookup m).isSome := by
  induction fuel generalizing visiting known number with
  | zero => exact h
  | succ fuel ih =>
    unfold resolve
    split
    · exact h
    · exact h
    · split
      · exact lookup_isSome_cons h
      · split
        · exact lookup_isSome_cons h
        · exact lookup_isSome_cons (ih h)

theorem resolve_isSome {fuel : Nat} {visiting : List Nat} {known : Known} {number : Nat}
    (h : (t.row? number).isSome) : ((t.resolve (fuel + 1) visiting known number).lookup number).isSome := by
  unfold resolve
  split
  · next hk => exact Option.isSome_of_eq_some hk
  · next hr => simp [hr] at h
  · split
    · simp
    · split <;> simp

theorem known_named (hs : t.Safe) : ∀ e ∈ t.known, t.Named e.1 e.2 := by
  unfold known
  generalize List.range t.rows.length = numbers
  have hfold : ∀ (known : Known), (∀ e ∈ known, t.Named e.1 e.2) →
      ∀ e ∈ numbers.foldl (fun known i => t.resolve (t.rows.length + 1) [] known (i + 1)) known,
        t.Named e.1 e.2 := by
    induction numbers with
    | nil => exact fun _ hk => hk
    | cons i rest ih => exact fun known hk => ih _ (named_of_resolve hs hk)
  exact hfold [] (by simp)

theorem known_isSome {i : Nat} (hi : i < t.rows.length) : (t.known.lookup (i + 1)).isSome := by
  unfold known
  have hfold : ∀ (numbers : List Nat) (known : Known), i ∈ numbers ∨ (known.lookup (i + 1)).isSome →
      ((numbers.foldl (fun known i => t.resolve (t.rows.length + 1) [] known (i + 1)) known).lookup
        (i + 1)).isSome := by
    intro numbers
    induction numbers with
    | nil => simp
    | cons j rest ih =>
      intro known h
      refine ih _ ?_
      rcases h with h | h
      · rcases List.mem_cons.mp h with rfl | h
        · exact .inr (resolve_isSome (by simp [row?, hi]))
        · exact .inl h
      · exact .inr (isSome_of_resolve h)
  exact hfold _ [] (.inl (List.mem_range.mpr hi))

theorem names_of_describe (hs : t.Safe) {d : TypeDescriptor} (hd : d ∈ t.describe) :
    TypeName.Safe d.name ∧ TypeName.Safe d.fullName ∧ (d.name ≠ "" → d.fullName ≠ "") := by
  obtain ⟨⟨row, i⟩, hm, rfl⟩ := List.mem_map.mp hd
  have hi := List.mem_zipIdx_iff_getElem?.mp hm
  obtain ⟨hlt, -⟩ := List.getElem?_eq_some_iff.mp hi
  obtain ⟨names, hn⟩ := Option.isSome_iff_exists.mp (known_isSome hlt)
  obtain ⟨_, _, hk, -⟩ := List.lookup_eq_some_iff.mp hn
  have hnamed : t.Named (i + 1) names := known_named hs (i + 1, names) (by simp [hk])
  have hsafe := hnamed.safe hs
  obtain ⟨row', lead, hr, -, hf⟩ := hnamed
  have hrow : t.row? (i + 1) = some row := by simpa [row?] using hi
  cases hrow.symm.trans hr
  simp only [hn, Option.getD_some]
  refine ⟨(hs row (List.mem_of_getElem? hi)).1.withoutArity, hsafe, fun hne he => ?_⟩
  rw [hf, String.append_eq_empty_iff] at he
  exact hne he.2

end TypeTable

namespace Progress

/-- That a type has a name and no rule flags it. -/
def Authored (plan : Plan) (d : TypeDescriptor) : Prop := d.name ≠ "" ∧ plan.classifier.match? d.name = none

instance (plan : Plan) (d : TypeDescriptor) : Decidable (Authored plan d) := inferInstanceAs (Decidable (_ ∧ _))

/-- The one of a type's names that is left for its file, if the names `held`, folded, have theirs. -/
def freeName? (held : List String) (d : TypeDescriptor) : Option String :=
  [d.name, d.fullName].find? fun name => caseFold name ∉ held

/-- What becomes of a type if nothing fails but for want of a file name. -/
def serve (plan : Plan) (file : String → Path) (held : List String) (d : TypeDescriptor) : TypeResult :=
  if d.name = "" then .skippedEmpty
  else match plan.classifier.match? d.name, freeName? held d with
    | some rule, _ => .skippedGenerated (some rule)
    | none, some name => .written (file name)
    | none, none => .failed ⟨d.fullName, takenMessage, "write"⟩

def heldAfter (plan : Plan) (held : List String) (d : TypeDescriptor) : List String :=
  if Authored plan d then ((freeName? held d).map caseFold).toList ++ held else held

/-- What becomes of types that are served in their order. -/
def served (plan : Plan) (file : String → Path) : (held : List String) → List TypeDescriptor → List TypeOutcome
  | _, [] => []
  | held, d :: rest =>
    ⟨d.name, d.fullName, serve plan file held d⟩ :: served plan file (heldAfter plan held d) rest

/-- That neither the decompiler nor a write fails, if a type gets so far. -/
def Goes (plan : Plan) (module dir : Path) (p : Progress) (d : TypeDescriptor) : Prop :=
  ∀ target ∈ p.target? dir d, ∃ value ∈ (p.answer plan module d).toOption,
    (Outputs.write target.1 value p.work.files).2 = .ok ()

instance (plan : Plan) (module dir : Path) (p : Progress) (d : TypeDescriptor) : Decidable (p.Goes plan module dir d) :=
  inferInstanceAs (Decidable (∀ _ ∈ p.target? dir d, ∃ _ ∈ (p.answer plan module d).toOption, _))

def Holds (dir : Path) (held : List String) (p : Progress) : Prop :=
  ∀ name, name ≠ "" → TypeName.Safe name →
    (claimKey (p.work.outputs.pathFor dir name) ∈ p.claimed ↔ caseFold name ∈ held)

/-- That the names of a type are safe in a file name, and that it has a full name if it has a name. -/
def Spelled (d : TypeDescriptor) : Prop :=
  TypeName.Safe d.name ∧ TypeName.Safe d.fullName ∧ (d.name ≠ "" → d.fullName ≠ "")

section Serving

variable {plan : Plan} {module dir : Path} {p q : Progress} {d : TypeDescriptor} {held : List String}
  {a : Option Path} {r : Except RunError TypeResult}

theorem mem_of_freeName? {name : String} (h : freeName? held d = some name) :
    (name = d.name ∨ name = d.fullName) ∧ caseFold name ∉ held := by
  refine ⟨by simpa using List.mem_of_find?_eq_some h, ?_⟩
  simpa using List.find?_some h

theorem exists_freeName? (h : caseFold d.fullName ∉ held) : ∃ name, freeName? held d = some name := by
  by_cases ho : caseFold d.name ∈ held
  · exact ⟨d.fullName, by simp [freeName?, ho, h]⟩
  · exact ⟨d.name, by simp [freeName?, ho]⟩

theorem target?_of_holds (hh : Holds dir held p) (hd : Spelled d) (hn : d.name ≠ "") :
    (p.target? dir d).map (·.1) = (freeName? held d).map (p.work.outputs.pathFor dir) := by
  have hown := (p.holds_iff _).trans (hh d.name hn hd.1)
  have hfull := (p.holds_iff _).trans (hh d.fullName (hd.2.2 hn) hd.2.1)
  by_cases ho : caseFold d.name ∈ held
  · have hempty : d.fullName.isEmpty = false := by simpa using hd.2.2 hn
    by_cases he : d.fullName = d.name
    · simp [target?, freeName?, hown.mpr ho, he, ho]
    · have hs : (TypeName.fileStem d.fullName == TypeName.fileStem d.name) = false := by
        rw [TypeName.fileStem_of_safe hd.1, TypeName.fileStem_of_safe hd.2.1]
        simpa using he
      by_cases hf : caseFold d.fullName ∈ held
      · simp [target?, freeName?, hown.mpr ho, hfull.mpr hf, ho, hf]
      · simp [target?, freeName?, hown.mpr ho, mt hfull.mp hf, hempty, hs, ho, hf]
  · simp [target?, freeName?, mt hown.mp ho, ho]

theorem Holds.begin (dir : Path) (l : Listing) (m : ModuleFile) : Holds dir [] (l.begin m) := by
  intro name _ _
  simp [Listing.begin]

theorem Holds.of_claimed (hh : Holds dir held p) (ho : q.work.outputs = p.work.outputs)
    (hc : q.claimed = p.claimed) : Holds dir held q := by
  intro name hn hs
  rw [ho, hc]
  exact hh name hn hs

theorem Holds.claim {name : String} (hh : Holds dir held p) (hn : name ≠ "")
    (hs : TypeName.Safe name) (ho : q.work.outputs = p.work.outputs)
    (hc : q.claimed = claimKey (p.work.outputs.pathFor dir name) :: p.claimed) :
    Holds dir (caseFold name :: held) q := by
  intro name' hn' hs'
  rw [ho, hc, List.mem_cons, List.mem_cons, hh name' hn' hs', Outputs.claimKey_pathFor_inj _ _ hn' hn,
    TypeName.fileStem_of_safe hs, TypeName.fileStem_of_safe hs']

theorem exists_of_goes (hg : p.Wanted plan dir d → p.Goes plan module dir d) (hn : d.name ≠ "")
    (hm : plan.classifier.match? d.name = none) {path : Path} {renamed : Bool}
    (ht : p.target? dir d = some (path, renamed)) :
    ∃ value, p.answer plan module d = .ok value ∧ (Outputs.write path value p.work.files).2 = .ok () := by
  obtain ⟨value, hv, hw⟩ := hg ⟨hn, hm, by simp [ht]⟩ (path, renamed) ht
  cases ha : p.answer plan module d with
  | error reason => simp [ha, Except.toOption] at hv
  | ok value' =>
    simp only [ha, Except.toOption, Option.mem_def, Option.some.injEq] at hv
    exact ⟨value, by rw [hv], hw⟩

theorem serve_of_step (h : TypeStep plan module dir p d a q r) (hh : Holds dir held p) (hd : Spelled d)
    (hg : p.Wanted plan dir d → p.Goes plan module dir d) :
    r = .ok (serve plan (p.work.outputs.pathFor dir) held d) ∧ Holds dir (heldAfter plan held d) q := by
  have ho := outputs_of_step h
  cases h with
  | nameless hn =>
    have hauth : ¬ Authored plan d := fun ha => ha.1 hn
    exact ⟨by simp [serve, hn], by rwa [heldAfter, if_neg hauth]⟩
  | generated rule hn hm =>
    have hauth : ¬ Authored plan d := by simp [Authored, hm]
    exact ⟨by simp [serve, hn, hm], by rw [heldAfter, if_neg hauth]; exact hh.of_claimed rfl rfl⟩
  | taken hn hm ht =>
    have hfree : freeName? held d = none := by simpa [ht] using (target?_of_holds hh hd hn).symm
    refine ⟨by simp [serve, hn, hm, hfree], ?_⟩
    rw [heldAfter, if_pos ⟨hn, hm⟩, hfree]
    exact hh.of_claimed rfl rfl
  | undecompiled path renamed reason hn hm ht ha =>
    obtain ⟨value, hv, -⟩ := exists_of_goes hg hn hm ht
    cases ha.symm.trans hv
  | unwritten path renamed value files e reason hn hm ht ha hw he =>
    obtain ⟨value', hv, hok⟩ := exists_of_goes hg hn hm ht
    cases ha.symm.trans hv
    simp [hw] at hok
  | unwritable path renamed value files e fault hn hm ht ha hw he =>
    obtain ⟨value', hv, hok⟩ := exists_of_goes hg hn hm ht
    cases ha.symm.trans hv
    simp [hw] at hok
  | written path renamed value files hn hm ht ha hw =>
    have hfree := target?_of_holds hh hd hn
    rw [ht] at hfree
    obtain ⟨name, hname, hpath⟩ := Option.map_eq_some_iff.mp hfree.symm
    have hne : name ≠ "" ∧ TypeName.Safe name := by
      rcases (mem_of_freeName? hname).1 with rfl | rfl
      · exact ⟨hn, hd.1⟩
      · exact ⟨hd.2.2 hn, hd.2.1⟩
    refine ⟨by simp [serve, hn, hm, hname, hpath], ?_⟩
    rw [heldAfter, if_pos ⟨hn, hm⟩, hname]
    refine hh.claim hne.1 hne.2 ho ?_
    rw [hpath]
    exact claim_claimed _ _ _ _

theorem served_of_processTypes {types : List TypeDescriptor} (hd : ∀ d ∈ types, Spelled d)
    (hh : Holds dir held p)
    (hg : ∀ turn ∈ turns plan module dir types p, turn.2.Wanted plan dir turn.1 →
      turn.2.Goes plan module dir turn.1) :
    ∃ q, processTypes plan module dir types p = (q, .ok ()) ∧
      q.report.outcomes = p.report.outcomes ++ served plan (p.work.outputs.pathFor dir) held types := by
  induction types generalizing p held with
  | nil => exact ⟨p, rfl, by simp [served]⟩
  | cons d rest ih =>
    obtain ⟨hd, hrest⟩ := List.forall_mem_cons.mp hd
    rw [turns] at hg
    obtain ⟨hgd, hgrest⟩ := List.forall_mem_cons.mp hg
    have hs := processType_step plan module dir p d
    rcases hp : processType plan module dir p d with ⟨q, r⟩
    rw [hp] at hs hgrest
    obtain ⟨rfl, hh'⟩ := serve_of_step hs hh hd hgd
    have ho : q.work.outputs = p.work.outputs := outputs_of_step hs
    have hnext : Holds dir (heldAfter plan held d)
        (q.recorded d (serve plan (p.work.outputs.pathFor dir) held d)) := hh'
    obtain ⟨q', hq', hout⟩ := ih hrest hnext hgrest
    refine ⟨q', by rw [processTypes_cons, hp]; exact hq', ?_⟩
    rw [hout, recorded_outcomes_of_step hs, List.append_assoc, served, ← ho]
    rfl

/-- That the full name of no authored type is, up to case, that of an authored type before it or its name. -/
def Apart (plan : Plan) (types : List TypeDescriptor) : Prop :=
  (types.filter fun d => Authored plan d).Pairwise fun a b =>
    caseFold b.fullName ≠ caseFold a.fullName ∧ caseFold b.fullName ≠ caseFold a.name

instance (plan : Plan) (types : List TypeDescriptor) : Decidable (Apart plan types) :=
  inferInstanceAs (Decidable (List.Pairwise _ _))

/-- Types whose full names are apart are all written, if nothing fails but for want of a file name. -/
theorem written_of_apart {file : String → Path} {types : List TypeDescriptor} (ha : Apart plan types)
    (hh : ∀ d ∈ types, Authored plan d → caseFold d.fullName ∉ held) :
    ∀ d out, (d, out) ∈ types.zip (served plan file held types) → Authored plan d →
      ∃ path, out.result = .written path := by
  induction types generalizing held with
  | nil => simp
  | cons d rest ih =>
    obtain ⟨hd, hrest⟩ := List.forall_mem_cons.mp hh
    intro d' out hm hauth'
    by_cases hauth : Authored plan d
    · obtain ⟨name, hname⟩ := exists_freeName? (d := d) (hd hauth)
      rw [Apart, List.filter_cons_of_pos (by simpa using hauth), List.pairwise_cons] at ha
      have hnext : ∀ b ∈ rest, Authored plan b → caseFold b.fullName ∉ heldAfter plan held d := by
        intro b hb hb'
        obtain ⟨h1, h2⟩ := ha.1 b (List.mem_filter.mpr ⟨hb, by simpa using hb'⟩)
        rw [heldAfter, if_pos hauth, hname]
        rcases (mem_of_freeName? hname).1 with rfl | rfl
        · simp [h2, hrest b hb hb']
        · simp [h1, hrest b hb hb']
      rcases List.mem_cons.mp hm with heq | hm
      · cases heq
        exact ⟨file name, by simp [serve, hauth.1, hauth.2, hname]⟩
      · exact ih ha.2 hnext d' out hm hauth'
    · rw [Apart, List.filter_cons_of_neg (by simpa using hauth)] at ha
      rcases List.mem_cons.mp hm with heq | hm
      · cases heq
        exact absurd hauth' hauth
      · rw [heldAfter, if_neg hauth] at hm
        exact ih ha hrest d' out hm hauth'

end Serving

end Progress

/-- That nothing fails while the types of a listed module are processed and its directory is pruned, but for want
of a file name. -/
structure Listing.Smooth (plan : Plan) (m : ModuleFile) (l : Listing) : Prop where
  types : ∀ turn ∈ l.turns plan m, turn.2.Wanted plan l.dir turn.1 → turn.2.Goes plan m.path l.dir turn.1
  pruning : ∀ p, l.process plan m = (p, .ok ()) →
    ((p.work.close plan m.path).prune plan l.dir p.report.written).2 = .ok ()

open Progress in
/-- The types that metadata declare are served in their order. -/
theorem described_served {plan : Plan} {m : ModuleFile} {w : Work} {l : Listing} {t : TypeTable}
    (hl : w.listing? plan m = some l) (ht : l.types = t.describe) (hs : t.Safe) (hg : l.Smooth plan m) :
    ∃ report, (w.processModule plan m).2 = .ok { module := m, status := .completed, report := some report } ∧
      report.outcomes = served plan (w.outputs.pathFor l.dir) [] t.describe ∧
      (Apart plan t.describe → ∀ d out, (d, out) ∈ t.describe.zip report.outcomes → Authored plan d →
        ∃ path, out.result = .written path) := by
  obtain ⟨made, hmade⟩ := Work.outputs_of_listing? hl
  have hf : l.work.outputs.pathFor = w.outputs.pathFor := congrArg (·.pathFor) hmade
  have hd : ∀ d ∈ l.types, Spelled d := fun d hd => TypeTable.names_of_describe hs (ht ▸ hd)
  obtain ⟨p, hp, hout⟩ := served_of_processTypes hd (Holds.begin l.dir l m) hg.types
  have hout : p.report.outcomes = served plan (w.outputs.pathFor l.dir) [] t.describe := by
    rw [hout, ht, ← hf]
    rfl
  refine ⟨p.report, ?_, hout, fun ha => ?_⟩
  · have hstep := Work.processModule_step plan m w
    generalize (w.processModule plan m).1 = v at hstep
    generalize (w.processModule plan m).2 = result at hstep
    cases hstep with
    | passed v o hl' hm ho hr hv => cases hl.symm.trans hl'
    | escaped l' p' e hl' hp' =>
      cases hl.symm.trans hl'
      cases hp.symm.trans hp'
    | unpruned l' p' v e hl' hp' hv =>
      cases hl.symm.trans hl'
      cases hp.symm.trans hp'
      have hok := hg.pruning p hp
      rw [hv] at hok
      cases hok
    | completed l' p' v hl' hp' hv =>
      cases hl.symm.trans hl'
      cases hp.symm.trans hp'
      rfl
  · rw [hout]
    exact written_of_apart ha (by simp)

namespace TypeTable

def pools : TypeTable := ⟨[⟨"Pool`1", "Facepunch"⟩, ⟨"pool", ""⟩], [(2, 1)]⟩

def arities : TypeTable := ⟨[⟨"Func`1", "System"⟩, ⟨"Func`2", "System"⟩, ⟨"Func`3", "System"⟩], []⟩

/-- The types of a module as they are listed when it is processed alone. -/
def listing? (t : TypeTable) : Option Listing :=
  Work.bare.listing? (Plan.steady t.describe) caseTwinsOutcome.module

theorem smooth_of_listing? {t : TypeTable} {l : Listing} (hl : t.listing? = some l)
    (hg : ∀ l ∈ t.listing?, ∀ turn ∈ l.turns (Plan.steady t.describe) caseTwinsOutcome.module,
      turn.2.Wanted (Plan.steady t.describe) l.dir turn.1 →
        turn.2.Goes (Plan.steady t.describe) caseTwinsOutcome.module.path l.dir turn.1) :
    l.Smooth (Plan.steady t.describe) caseTwinsOutcome.module :=
  ⟨hg l hl, fun _ _ => rfl⟩

end TypeTable

open Progress TypeTable in
theorem described_served_pools :
    ∃ l report, pools.listing? = some l ∧ l.types = pools.describe ∧
      l.Smooth (Plan.steady pools.describe) caseTwinsOutcome.module ∧
      (Work.bare.processModule (Plan.steady pools.describe) caseTwinsOutcome.module).2 =
        .ok { module := caseTwinsOutcome.module, status := .completed, report := some report } ∧
      ∀ d out, (d, out) ∈ pools.describe.zip report.outcomes → Authored (Plan.steady pools.describe) d →
        ∃ path, out.result = .written path := by
  obtain ⟨l, hl⟩ := Option.isSome_iff_exists.mp (show pools.listing?.isSome = true by decide +kernel)
  have ht : ∀ l ∈ pools.listing?, l.types = pools.describe := by decide +kernel
  have hg := smooth_of_listing? hl (by decide +kernel)
  obtain ⟨report, hr, -, ha⟩ := described_served hl (ht l hl) (by decide) hg
  exact ⟨l, report, hl, ht l hl, hg, hr, ha (by decide +kernel)⟩

def aritiesReport : Report where
  module := "Rust"
  processed := 2
  failed := [⟨"System.Func", Progress.takenMessage, "write"⟩]
  written := [⟨1, ["out", "Rust", "Func.cstxt"]⟩, ⟨1, ["out", "Rust", "System.Func.cstxt"]⟩]
  renamed := ["System.Func"]
  outcomes := [⟨"Func", "System.Func", .written ⟨1, ["out", "Rust", "Func.cstxt"]⟩⟩,
    ⟨"Func", "System.Func", .written ⟨1, ["out", "Rust", "System.Func.cstxt"]⟩⟩,
    ⟨"Func", "System.Func", .failed ⟨"System.Func", Progress.takenMessage, "write"⟩⟩]

open Progress TypeTable in
/-- Different handles are not enough for every type to be written: three types can have one full name. -/
theorem arities_collide :
    (arities.describe.map fun d => caseFold d.handle).Nodup ∧ arities.Safe ∧
      (∃ l, arities.listing? = some l ∧ l.types = arities.describe ∧
        l.Smooth (Plan.steady arities.describe) caseTwinsOutcome.module) ∧
      (Work.bare.processModule (Plan.steady arities.describe) caseTwinsOutcome.module).2 =
        .ok { module := caseTwinsOutcome.module, status := .completed, report := some aritiesReport } ∧
      ∃ d out, (d, out) ∈ arities.describe.zip aritiesReport.outcomes ∧
        Authored (Plan.steady arities.describe) d ∧ Refused out := by
  obtain ⟨l, hl⟩ := Option.isSome_iff_exists.mp (show arities.listing?.isSome = true by decide +kernel)
  have ht : ∀ l ∈ arities.listing?, l.types = arities.describe := by decide +kernel
  refine ⟨by decide +kernel, by decide, ⟨l, hl, ht l hl, smooth_of_listing? hl (by decide +kernel)⟩,
    by decide +kernel, ⟨"Func", "System.Func", "System.Func`3"⟩,
    ⟨"Func", "System.Func", .failed ⟨"System.Func", takenMessage, "write"⟩⟩, by decide +kernel, by decide,
    _, rfl, rfl, rfl⟩

end Winnow
