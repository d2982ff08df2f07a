import Winnow.Proofs.Clearing

/-!
Which outputs are stale. Pruning removes the files whose names end in the extension, but for those to keep, in order,
and touches nothing else, exactly if every character of the extension stands for itself in a pattern.
-/
set_option autoImplicit false

namespace Winnow

section NameOrder

theorem lex_append_left {α : Type} [BEq α] [LawfulBEq α] (lt : α → α → Bool) (h : ∀ a, lt a a = false)
    (xs ys zs : List α) : (xs ++ ys).lex (xs ++ zs) lt = ys.lex zs lt := by
  induction xs with
  | nil => rfl
  | cons x xs ih => simp [h, ih]

theorem lex_toList (a b : String) :
    (a.toList.lex b.toList fun c d => decide (c.toNat < d.toNat)) = decide (a < b) := by
  rw [List.lex_eq_decide_lex, decide_eq_decide]
  simp only [decide_eq_true_eq]
  rfl

end NameOrder

theorem Glob.hasTwoStars_of_not_mem {cs : List Char} (h : '*' ∉ cs) (c : Char) : hasTwoStars (c :: cs) = false := by
  induction cs generalizing c with
  | nil => simp [hasTwoStars]
  | cons d cs ih =>
    simp only [List.mem_cons, not_or] at h
    rw [hasTwoStars.eq_2]
    · exact ih h.2 d
    · rintro tail - heq
      exact h.1 (List.cons.inj heq).1.symm

namespace Outputs

variable {o : Outputs} {dir : Path} {keep kept : List Path} {f g : Files} {name : String}

theorem pathOrder_child (dir : Path) (a b : String) : pathOrder (dir.child a) (dir.child b) = decide (a ≤ b) := by
  simp only [pathOrder, Path.child, lex_toList]
  rw [lex_append_left _ (by simp)]
  simp [← String.not_lt]

theorem mergeSort_children (dir : Path) (names : List String) :
    (names.map dir.child).mergeSort pathOrder = (names.mergeSort fun a b => decide (a ≤ b)).map dir.child :=
  (List.map_mergeSort fun a _ b _ => (pathOrder_child dir a b).symm).symm

theorem sorted_names (names : List String) : (names.mergeSort fun a b => decide (a ≤ b)).Pairwise (· ≤ ·) := by
  have hs : (names.mergeSort fun a b => decide (a ≤ b)).Pairwise fun a b => decide (a ≤ b) = true := by
    refine List.pairwise_mergeSort (fun a b c hab hbc => ?_) (fun a b => ?_) names
    · exact decide_eq_true (String.le_trans (of_decide_eq_true hab) (of_decide_eq_true hbc))
    · simpa using String.le_total a b
  exact hs.imp of_decide_eq_true

/-- That a file stands at a place which is not kept. -/
def Removable (kept : List Path) (f : Files) (q : Place) : Prop :=
  ⟨1, q⟩ ∉ kept ∧ ∃ b x, f.tree.get? q = some (.file b x)

/-- `g` is `f` without what stands at some places. -/
structure Without (f : Files) (places : List Place) (g : Files) : Prop where
  current : g.current = f.current
  entry : ∀ q, g.tree.get? q = if q ∈ places then none else f.tree.get? q

theorem prune_child {told : List Record} {gone : Bool} (hd : f.isDir dir = .ok true) (hup : name ≠ "..")
    (h : prune kept f (dir.child name) = .ok (g, gone, told)) :
    if gone then Removable kept f (f.placeOf dir ++ [name]) ∧ Without f [f.placeOf dir ++ [name]] g
    else ¬ Removable kept f (f.placeOf dir ++ [name]) ∧ g = f := by
  have hplace := Files.placeOf_child f dir hup
  have hs := prune_step kept f (dir.child name)
  rw [h] at hs
  cases hs with
  | spared hs hz hr =>
    refine ⟨fun ⟨hk, b, x, hb⟩ => ?_, rfl⟩
    rcases hr with hr | ⟨r, hl, hr⟩
    · exact hk (hplace ▸ hr)
    · have hreach : f.place? (dir.child name) = .ok (f.placeOf dir ++ [name]) := by
        rw [Files.place?_child hd, if_neg (fun hlong => hs (.inr ⟨hplace ▸ hk, ?_⟩)), hplace]
        exact (Files.place?_child_eq_error hd).mpr hlong
      exact hr b x (Except.ok.inj (hl.symm.trans (Files.look_eq_some.mpr ⟨hz, _, hreach, hb⟩)))
  | removed q b x hs hz hk hq he =>
    have hq' : f.placeOf dir ++ [name] = q := hplace.symm.trans (Files.placeOf_of_place? hq)
    rw [hplace] at hk
    subst hq'
    refine ⟨⟨hk, b, x, he⟩, rfl, fun r => ?_⟩
    by_cases hr : r = f.placeOf dir ++ [name]
    · rw [if_pos (by simp [hr]), hr, FileTree.get?_erase_self _ (by simp)]
    · rw [if_neg (by simp [hr]), FileTree.get?_erase _ hr]

theorem Removable.of_without {places : List Place} {q : Place} (h : Without f places g) :
    Removable kept g q ↔ Removable kept f q ∧ q ∉ places := by
  unfold Removable
  rw [h.entry]
  by_cases hq : q ∈ places
  · simp [hq]
  · simp [hq]

/-- `g` is `f` without those files of a directory that could be removed among the given names, each taken once. -/
structure Removes (kept : List Path) (dir : Path) (f : Files) (names gone : List String) (g : Files) : Prop where
  listed : gone.Sublist names
  once : gone.Nodup
  mem : ∀ name, name ∈ gone ↔ name ∈ names ∧ Removable kept f (f.placeOf dir ++ [name])
  without : Without f (gone.map fun name => f.placeOf dir ++ [name]) g

namespace Removes

variable {names gone : List String} {k : Files}

theorem nil (kept : List Path) (dir : Path) (f : Files) : Removes kept dir f [] [] f :=
  ⟨.slnil, .nil, by simp, rfl, by simp⟩

theorem spare (h : Removes kept dir f names gone g) (hn : ¬ Removable kept f (f.placeOf dir ++ [name])) :
    Removes kept dir f (name :: names) gone g := by
  refine ⟨h.listed.cons name, h.once, fun n => ?_, h.without⟩
  rw [h.mem, List.mem_cons]
  constructor
  · exact fun ⟨hm, hr⟩ => ⟨.inr hm, hr⟩
  · rintro ⟨rfl | hm, hr⟩
    · exact absurd hr hn
    · exact ⟨hm, hr⟩

theorem remove (h : Removes kept dir k names gone g) (hk : Without f [f.placeOf dir ++ [name]] k)
    (hr : Removable kept f (f.placeOf dir ++ [name])) : Removes kept dir f (name :: names) (name :: gone) g := by
  have hplace : k.placeOf dir = f.placeOf dir := Files.placeOf_of_current hk.current dir
  have hmem : ∀ n, n ∈ gone ↔ n ∈ names ∧ Removable kept f (f.placeOf dir ++ [n]) ∧ n ≠ name := by
    intro n
    rw [h.mem, hplace, Removable.of_without hk]
    simp
  refine ⟨h.listed.cons_cons name, List.nodup_cons.mpr ⟨fun hm => ((hmem name).mp hm).2.2 rfl, h.once⟩, fun n => ?_,
    h.without.current.trans hk.current, fun q => ?_⟩
  · rw [List.mem_cons, List.mem_cons, hmem]
    by_cases hn : n = name
    · simp [hn, hr]
    · simp [hn]
  · rw [h.without.entry, hplace, hk.entry, List.map_cons]
    by_cases hq : q = f.placeOf dir ++ [name] <;> simp [hq]

end Removes

theorem removes_of_pruneAll {names : List String} {told : List Record} {removed : List Path}
    (hd : f.isDir dir = .ok true) (hup : ".." ∉ names)
    (h : pruneAll kept (names.map dir.child) f = (g, told, .ok removed)) :
    ∃ gone, removed = gone.map dir.child ∧ Removes kept dir f names gone g := by
  induction names generalizing f told removed with
  | nil =>
    cases h
    exact ⟨[], rfl, .nil kept dir _⟩
  | cons n names ih =>
    simp only [List.mem_cons, not_or] at hup
    simp only [List.map_cons, pruneAll] at h
    cases hp : prune kept f (dir.child n) with
    | error e => simp [hp] at h
    | ok r =>
      obtain ⟨k, out, told'⟩ := r
      simp only [hp] at h
      rcases hr : pruneAll kept (names.map dir.child) k with ⟨g', told'', result⟩
      cases result with
      | error e => simp [hr, Except.map] at h
      | ok removed' =>
        simp only [hr, Except.map, Prod.mk.injEq, Except.ok.injEq] at h
        obtain ⟨rfl, -, rfl⟩ := h
        have hfirst := prune_child hd (Ne.symm hup.1) hp
        obtain ⟨gone, rfl, hrest⟩ := ih (Files.isDir_of_dirsKept (dirsKept_of_prune hp).1 hd) hup.2 hr
        cases out with
        | false =>
          obtain ⟨hn, rfl⟩ := hfirst
          exact ⟨gone, rfl, hrest.spare hn⟩
        | true =>
          obtain ⟨hn, hk⟩ := hfirst
          exact ⟨n :: gone, rfl, hrest.remove hk hn⟩

/-- That an output is stale: a file in the directory whose name ends in the extension and which is not to be kept. -/
structure Stale (o : Outputs) (dir : Path) (keep : List Path) (f : Files) (name : String) : Prop where
  ending : o.extension.toList <:+ name.toList
  file : ∃ b x, f.tree.get? (f.placeOf dir ++ [name]) = some (.file b x)
  unkept : dir.child name ∉ keep

/-- That pruning a directory removes the stale outputs, in order, and changes nothing else. It can fail over a path
that no file system takes, and over nothing else. -/
structure PrunesStale (o : Outputs) (dir : Path) (keep : List Path) (f : Files) : Prop where
  returns : (∃ removed, (o.pruneStale dir keep f).2.2 = .ok removed) ↔
    (∀ p ∈ keep, Files.holdsZero p = false) ∧
      ∀ name, o.extension.toList <:+ name.toList → f.tree.get? (f.placeOf dir ++ [name]) ≠ none →
        Files.holdsZero (dir.child name) = false ∧ (dir.child name ∈ keep ∨ (dir.child name).Fits)
  removes : ∀ removed, (o.pruneStale dir keep f).2.2 = .ok removed → ∃ names : List String, removed = names.map dir.child ∧
    names.Pairwise (· < ·) ∧ (∀ name, name ∈ names ↔ o.Stale dir keep f name) ∧
      Without f (names.map fun name => f.placeOf dir ++ [name]) (o.pruneStale dir keep f).1

section Plain

theorem candidates_of_plain (hx : '/' ∉ o.extension.toList) (hp : NamePattern.Plain o.extension)
    (hd : f.isDir dir = .ok true) : ∃ names : List String, o.candidates dir f = .ok (names.map dir.child) ∧
      names.Pairwise (· ≤ ·) ∧ ∀ name, name ∈ names ↔
        o.extension.toList <:+ name.toList ∧ f.tree.get? (f.placeOf dir ++ [name]) ≠ none := by
  have hmem := NamePattern.star_not_mem_of_plain hp
  have hstar : o.extension ≠ "*" := by
    intro he
    simp [he] at hmem
  have htwo : Glob.hasTwoStars ("*" ++ o.extension).toList = false := by
    rw [String.toList_append]
    exact Glob.hasTwoStars_of_not_mem hmem '*'
  refine ⟨((f.tree.names (f.placeOf dir)).filter (NamePattern.accept ("*" ++ o.extension))).mergeSort
    fun a b => decide (a ≤ b), ?_, sorted_names _, fun name => ?_⟩
  · rw [candidates_eq hx hd, if_neg hstar, htwo, if_neg Bool.false_ne_true, mergeSort_children]
  · rw [List.mem_mergeSort, List.mem_filter, FileTree.mem_names_iff, NamePattern.accept_star_of_plain hp, and_comm]

theorem mem_kept_iff (hup : name ≠ "..") (hk : ∀ p ∈ keep, ∃ other, other ≠ ".." ∧ p = dir.child other) :
    ⟨1, f.placeOf dir ++ [name]⟩ ∈ keep.map (fun p => (⟨1, f.placeOf p⟩ : Path)) ↔ dir.child name ∈ keep := by
  rw [List.mem_map]
  constructor
  · rintro ⟨p, hp, he⟩
    obtain ⟨other, hother, rfl⟩ := hk p hp
    have hplace : f.placeOf (dir.child other) = f.placeOf dir ++ [name] := congrArg Path.parts he
    rw [Files.placeOf_child f dir hother] at hplace
    exact List.singleton_inj.mp (List.append_cancel_left hplace) ▸ hp
  · exact fun hm => ⟨_, hm, by rw [Files.placeOf_child f dir hup]⟩

theorem not_stuck_child_iff (hd : f.isDir dir = .ok true) (hup : name ≠ "..")
    (hk : ∀ p ∈ keep, ∃ other, other ≠ ".." ∧ p = dir.child other) :
    ¬ Stuck (keep.map fun p => ⟨1, f.placeOf p⟩) f (dir.child name) ↔
      Files.holdsZero (dir.child name) = false ∧ (dir.child name ∈ keep ∨ (dir.child name).Fits) := by
  rw [Stuck, Files.placeOf_child f dir hup, mem_kept_iff hup hk, Files.place?_child_eq_error hd, not_or,
    Bool.not_eq_true]
  refine and_congr_right fun hz => ?_
  constructor
  · intro h
    by_cases hm : dir.child name ∈ keep
    · exact .inl hm
    · have hl := not_or.mp (not_and.mp h hm)
      exact .inr ⟨hz, Nat.le_of_not_lt hl.1, (Path.name_child dir name).symm ▸ Nat.le_of_not_lt hl.2⟩
  · rintro (hm | hfit) ⟨hn, hlong⟩
    · exact hn hm
    · have hl := hfit.length
      have hn := hfit.name
      rw [Path.name_child] at hn
      omega

theorem ne_up_of_entry (hf : f.Proper) (hn : f.tree.get? (f.placeOf dir ++ [name]) ≠ none) : name ≠ ".." := by
  rintro rfl
  exact hf.names _ hn (by simp)

theorem stale_iff (hf : f.Proper) (hk : ∀ p ∈ keep, ∃ name, name ≠ ".." ∧ p = dir.child name) :
    o.Stale dir keep f name ↔
      (o.extension.toList <:+ name.toList ∧ f.tree.get? (f.placeOf dir ++ [name]) ≠ none) ∧
        Removable (keep.map fun p => ⟨1, f.placeOf p⟩) f (f.placeOf dir ++ [name]) := by
  constructor
  · rintro ⟨hends, ⟨b, x, hb⟩, hkept⟩
    have hn : f.tree.get? (f.placeOf dir ++ [name]) ≠ none := by simp [hb]
    exact ⟨⟨hends, hn⟩, mt (mem_kept_iff (ne_up_of_entry hf hn) hk).mp hkept, b, x, hb⟩
  · rintro ⟨⟨hends, hn⟩, hkept, hfile⟩
    exact ⟨hends, hfile, mt (mem_kept_iff (ne_up_of_entry hf hn) hk).mpr hkept⟩

theorem prunesStale_of_plain (hx : '/' ∉ o.extension.toList) (hp : NamePattern.Plain o.extension) (hf : f.Proper)
    (hd : f.isDir dir = .ok true) (hk : ∀ p ∈ keep, ∃ name, name ≠ ".." ∧ p = dir.child name) :
    o.PrunesStale dir keep f := by
  obtain ⟨names, hc, hsorted, hmem⟩ := candidates_of_plain hx hp hd
  have hup : ∀ name ∈ names, name ≠ ".." := fun name hm => ne_up_of_entry hf ((hmem name).mp hm).2
  constructor
  · rw [pruneStale_isOk_iff]
    constructor
    · intro h
      refine ⟨by simpa using fun hz => h (.inl hz), fun name hends hn => ?_⟩
      have hm := (hmem name).mpr ⟨hends, hn⟩
      refine (not_stuck_child_iff hd (hup name hm) hk).mp fun hs => h (.inr (.inr ⟨_, hc, dir.child name, ?_, hs⟩))
      exact List.mem_map_of_mem hm
    · rintro ⟨hz, hfit⟩ (⟨p, hp, hzero⟩ | ⟨e, he⟩ | ⟨found, hf, c, hm, hs⟩)
      · rw [hz p hp] at hzero
        cases hzero
      · cases hc.symm.trans he
      · cases hc.symm.trans hf
        obtain ⟨name, hname, rfl⟩ := List.mem_map.mp hm
        obtain ⟨hends, hn⟩ := (hmem name).mp hname
        exact (not_stuck_child_iff hd (hup name hname) hk).mpr (hfit name hends hn) hs
  · intro removed hr
    obtain ⟨found, told, hc', ha⟩ := pruneAll_of_pruneStale hr
    cases hc.symm.trans hc'
    obtain ⟨gone, rfl, hrem⟩ := removes_of_pruneAll hd (fun hm => hup _ hm rfl) ha
    refine ⟨gone, rfl, ?_, fun name => ?_, hrem.without⟩
    · have hle := hsorted.sublist hrem.listed
      exact (hle.and hrem.once).imp fun ⟨hab, hne⟩ => String.not_le.mp fun hba => hne (String.le_antisymm hab hba)
    · rw [hrem.mem, hmem, stale_iff hf hk]

end Plain

/-- That pruning any directory removes the stale outputs in it. -/
def PrunesEverywhere (o : Outputs) : Prop :=
  ∀ dir keep f, f.Proper → f.isDir dir = .ok true → (∀ p ∈ keep, ∃ name, name ≠ ".." ∧ p = dir.child name) →
    o.PrunesStale dir keep f

section Lone

theorem placeOf_lone (name : String) : (Files.lone name).placeOf ⟨1, []⟩ = [] := rfl

theorem proper_lone (hup : name ≠ "..") : (Files.lone name).Proper := by
  refine ⟨by simp [Files.lone], fun q hq => ?_⟩
  rcases Files.eq_of_get?_lone hq with rfl | rfl
  · simp
  · simpa using Ne.symm hup

theorem mem_candidates_lone {c : Path} {found : List Path} (hx : '/' ∉ o.extension.toList) (hstar : o.extension ≠ "*")
    (hf : o.candidates ⟨1, []⟩ (Files.lone name) = .ok found) :
    c ∈ found ↔ o.Selects name ∧ c = (⟨1, []⟩ : Path).child name := by
  rw [mem_candidates hx (Files.isDir_lone name) hf, if_neg hstar, placeOf_lone]
  constructor
  · rintro ⟨other, hsel, hn, rfl⟩
    obtain rfl : other = name := by simpa using Files.eq_of_get?_lone hn
    exact ⟨hsel, rfl⟩
  · rintro ⟨hsel, rfl⟩
    exact ⟨name, hsel, by simp [Files.get?_lone], rfl⟩

theorem PrunesEverywhere.lone (h : o.PrunesEverywhere) (hup : name ≠ "..") :
    o.PrunesStale ⟨1, []⟩ [] (Files.lone name) := h _ _ _ (proper_lone hup) (Files.isDir_lone name) (by simp)

theorem PrunesEverywhere.returns (h : o.PrunesEverywhere) (hup : name ≠ "..")
    (hn : ¬ o.extension.toList <:+ name.toList) :
    ∃ removed, (o.pruneStale ⟨1, []⟩ [] (Files.lone name)).2.2 = .ok removed := by
  refine (h.lone hup).returns.mpr ⟨by simp, fun other hends hother => ?_⟩
  obtain rfl : other = name := by simpa [placeOf_lone] using Files.eq_of_get?_lone hother
  exact absurd hends hn

theorem PrunesEverywhere.candidates (h : o.PrunesEverywhere) (hdot : o.extension.toList.head? = some '.')
    (hx : '/' ∉ o.extension.toList) (name : String) :
    ∃ found, o.candidates ⟨1, []⟩ (Files.lone name) = .ok found := by
  have ha : ¬ o.extension.toList <:+ "a".toList := by
    intro hs
    obtain ⟨rest, hr⟩ := List.head?_eq_some_iff.mp hdot
    simp [hr, List.suffix_cons_iff] at hs
  have hok := (pruneStale_isOk_iff _ _ _ _).mp (h.returns (by decide) ha)
  cases hf : o.candidates ⟨1, []⟩ (Files.lone name) with
  | ok found => exact ⟨found, rfl⟩
  | error e =>
    have he := candidates_isOk hx (Files.isDir_lone "a") (Files.isDir_lone name) ⟨e, hf⟩
    exact absurd (.inr (.inl he)) hok

theorem ne_star_of_dotted (hdot : o.extension.toList.head? = some '.') : o.extension ≠ "*" := by
  intro he
  simp [he] at hdot

theorem PrunesEverywhere.ending (h : o.PrunesEverywhere) (hx : '/' ∉ o.extension.toList) (hup : name ≠ "..")
    (hsel : o.Selects name) : o.extension.toList <:+ name.toList := by
  refine Decidable.byContradiction fun hends => ?_
  obtain ⟨removed, hr⟩ := h.returns hup hends
  obtain ⟨names, -, -, hstale, hwithout⟩ := (h.lone hup).removes removed hr
  have hweed := weeded_of_pruneStale hx (.inl (proper_lone hup)) (Files.isDir_lone name)
    (show o.pruneStale ⟨1, []⟩ [] (Files.lone name) = (_, _, .ok removed) from Prod.ext rfl (Prod.ext rfl hr))
  have hkept : [name] ∉ names.map fun other => (Files.lone name).placeOf ⟨1, []⟩ ++ [other] := by
    intro hm
    obtain ⟨other, hother, he⟩ := List.mem_map.mp hm
    obtain rfl : other = name := by simpa [placeOf_lone] using he
    exact hends ((hstale other).mp hother).ending
  refine hweed.gone name hsel (by simp) .empty false ?_
  rw [placeOf_lone, List.nil_append, hwithout.entry, if_neg hkept, Files.get?_lone]

theorem PrunesEverywhere.selected (h : o.PrunesEverywhere) (hdot : o.extension.toList.head? = some '.')
    (hx : '/' ∉ o.extension.toList) (hup : name ≠ "..") (hends : o.extension.toList <:+ name.toList) :
    o.Selects name := by
  refine Classical.byContradiction fun hsel => ?_
  obtain ⟨found, hf⟩ := h.candidates hdot hx name
  have hnone : found = [] := List.eq_nil_iff_forall_not_mem.mpr fun c hm =>
    hsel ((mem_candidates_lone hx (ne_star_of_dotted hdot) hf).mp hm).1
  subst hnone
  have hprune : o.pruneStale ⟨1, []⟩ [] (Files.lone name) = (Files.lone name, [], .ok []) := by
    simp [pruneStale, hf, pruneAll, pure, Except.pure]
  obtain ⟨names, hnil, -, hstale, -⟩ := (h.lone hup).removes [] (by rw [hprune])
  have hm : name ∈ names := (hstale name).mpr ⟨hends, ⟨.empty, false, Files.get?_lone name⟩, by simp⟩
  rw [List.map_eq_nil_iff.mp hnil.symm] at hm
  cases hm

end Lone

/-- Pruning removes the stale outputs exactly if every character of the extension stands for itself in a pattern. -/
theorem prunesEverywhere_iff (hdot : o.extension.toList.head? = some '.') (hx : '/' ∉ o.extension.toList) :
    o.PrunesEverywhere ↔ NamePattern.Plain o.extension := by
  constructor
  · intro h
    refine NamePattern.plain_of_accept_star hdot fun name hup => ?_
    constructor
    · intro ha
      exact h.ending hx hup ⟨ne_star_of_dotted hdot, ha⟩
    · intro hends
      exact (h.selected hdot hx hup hends).2
  · intro hp dir keep f hf hd hk
    exact prunesStale_of_plain hx hp hf hd hk

theorem prunesEverywhere_cstxt : ".cstxt".toList.head? = some '.' ∧ '/' ∉ ".cstxt".toList ∧
    (⟨⟨0, ["out"]⟩, ".cstxt", []⟩ : Outputs).PrunesEverywhere :=
  ⟨rfl, by decide, (prunesEverywhere_iff (o := ⟨⟨0, ["out"]⟩, ".cstxt", []⟩) rfl (by decide)).mpr (by decide)⟩

example : ¬ NamePattern.Plain ".[il]" := by decide

end Outputs

end Winnow
