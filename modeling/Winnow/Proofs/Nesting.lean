import Mathlib.Data.List.Perm.Subperm
import Mathlib.Logic.Relation
import Winnow.Proofs.Serving

/-!
The names of nested types, for any metadata. A row in no other is a type of its own, and so is one row of each
cycle of rows that lie in one another; every other row has the names of the row around it, and its own behind them.

Which row of a cycle is the one depends on the order of the rows: it is the last one that is reached on the way
out from the first row of the table that leads into the cycle.
-/
set_option autoImplicit false

namespace Winnow
namespace TypeTable
open Relation (TransGen ReflTransGen)

variable {t : TypeTable} {known : Known} {R : Nat → Prop}

/-- That one row lies in the other and in no row between. -/
def LiesIn (t : TypeTable) (inner outer : Nat) : Prop := t.parent? inner = some outer

/-- That each of two rows lies in the other, with rows between them or none. -/
def SameCycle (t : TypeTable) (m n : Nat) : Prop := TransGen t.LiesIn m n ∧ TransGen t.LiesIn n m

theorem row?_isSome_of_parent? {inner outer : Nat} (h : t.parent? inner = some outer) : (t.row? outer).isSome := by
  unfold parent? at h
  split at h
  · next parent _ =>
    split at h
    · next hp =>
      have hbounds : 0 < parent ∧ parent ≤ t.rows.length := by simpa using hp
      cases h
      have hne : parent.toNat ≠ 0 := by omega
      have hlt : parent.toNat - 1 < t.rows.length := by omega
      simp [row?, hne, hlt]
    · cases h
  · cases h

theorem bounds_of_row? {n : Nat} (h : (t.row? n).isSome) : 0 < n ∧ n ≤ t.rows.length := by
  unfold row? at h
  split at h
  · cases h
  · have hlt : n - 1 < t.rows.length := by simpa using h
    omega

theorem SameCycle.symm {m n : Nat} (h : t.SameCycle m n) : t.SameCycle n m := ⟨h.2, h.1⟩

theorem SameCycle.trans {l m n : Nat} (h : t.SameCycle l m) (h' : t.SameCycle m n) : t.SameCycle l n :=
  ⟨h.1.trans h'.1, h'.2.trans h.2⟩

/-- Since a row lies in one row at most, the way out of a cycle never leaves it. -/
theorem sameCycle_parent {n parent : Nat} (hc : t.SameCycle n n) (hp : t.parent? n = some parent) :
    t.SameCycle n parent := by
  obtain ⟨next, hn, hback⟩ := TransGen.head'_iff.mp hc.1
  cases Option.some.inj (hn.symm.trans hp)
  refine ⟨.single hp, ?_⟩
  rcases Relation.reflTransGen_iff_eq_or_transGen.mp hback with rfl | h
  · exact .single hp
  · exact h

theorem exists_parent_of_sameCycle {m n : Nat} (h : t.SameCycle m n) : ∃ parent, t.parent? m = some parent := by
  obtain ⟨parent, hp, -⟩ := TransGen.head'_iff.mp h.1
  exact ⟨parent, hp⟩

/-- Names that agree with one another: the rows in `R` count as types of their own, one on a cycle at most, and each
other row has its names from those of the row around it. -/
structure Resolved (t : TypeTable) (known : Known) (R : Nat → Prop) : Prop where
  names : ∀ n names, known.lookup n = some names → ∃ row, t.row? n = some row ∧
    (R n ∧ names = row.rootNames ∨
      ¬ R n ∧ ∃ parent outer, t.parent? n = some parent ∧ known.lookup parent = some outer ∧
        names = row.nestedNames outer)
  roots : ∀ n, R n → (known.lookup n).isSome ∧ (t.parent? n = none ∨ t.SameCycle n n)
  unique : ∀ m n, R m → R n → t.SameCycle m n → m = n

theorem resolved_nil : Resolved t [] (fun _ => False) where
  names := by simp
  roots := by simp
  unique := by simp

theorem lookup_cons_of_some {n m : Nat} {names names' : TypeNames} (hn : known.lookup n = none)
    (hm : known.lookup m = some names') : ((n, names) :: known).lookup m = some names' := by
  have hne : m ≠ n := by
    rintro rfl
    simp [hn] at hm
  rw [List.lookup_cons, beq_false_of_ne hne]
  exact hm

theorem Resolved.keep (h : Resolved t known R) {n : Nat} (hn : known.lookup n = none) (names : TypeNames)
    {m : Nat} {held : TypeNames} (hm : known.lookup m = some held) : ∃ row, t.row? m = some row ∧
      (R m ∧ held = row.rootNames ∨
        ¬ R m ∧ ∃ parent outer, t.parent? m = some parent ∧ ((n, names) :: known).lookup parent = some outer ∧
          held = row.nestedNames outer) := by
  obtain ⟨row, hr, hroot | ⟨hnot, parent, outer, hp, ho, hnames⟩⟩ := h.names m held hm
  · exact ⟨row, hr, .inl hroot⟩
  · exact ⟨row, hr, .inr ⟨hnot, parent, outer, hp, lookup_cons_of_some hn ho, hnames⟩⟩

theorem Resolved.root (h : Resolved t known R) {n : Nat} {row : TypeRow} (hn : known.lookup n = none)
    (hr : t.row? n = some row) (hp : t.parent? n = none ∨ t.SameCycle n n)
    (hother : ∀ m, R m → ¬ t.SameCycle n m) :
    Resolved t ((n, row.rootNames) :: known) (fun m => m = n ∨ R m) where
  names := by
    intro m names hm
    by_cases he : m = n
    · subst he
      have hnames : names = row.rootNames := by simpa using hm.symm
      exact ⟨row, hr, .inl ⟨.inl rfl, hnames⟩⟩
    · rw [List.lookup_cons, beq_false_of_ne he] at hm
      obtain ⟨row', hr', ⟨hm', hnames⟩ | ⟨hm', hnames⟩⟩ := h.keep hn row.rootNames hm
      · exact ⟨row', hr', .inl ⟨.inr hm', hnames⟩⟩
      · exact ⟨row', hr', .inr ⟨not_or.mpr ⟨he, hm'⟩, hnames⟩⟩
  roots := by
    rintro m (rfl | hm)
    · exact ⟨by simp, hp⟩
    · exact ⟨lookup_isSome_cons (h.roots m hm).1, (h.roots m hm).2⟩
  unique := by
    rintro l m (rfl | hl) (rfl | hm) hc
    · rfl
    · exact absurd hc (hother m hm)
    · exact absurd hc.symm (hother l hl)
    · exact h.unique l m hl hm hc

theorem Resolved.nested (h : Resolved t known R) {n parent : Nat} {row : TypeRow} {outer : TypeNames}
    (hn : known.lookup n = none) (hr : t.row? n = some row) (hp : t.parent? n = some parent)
    (ho : known.lookup parent = some outer) : Resolved t ((n, row.nestedNames outer) :: known) R where
  names := by
    intro m names hm
    by_cases he : m = n
    · subst he
      have hnames : names = row.nestedNames outer := by simpa using hm.symm
      have hnot : ¬ R m := fun hR => by simpa [hn] using (h.roots m hR).1
      exact ⟨row, hr, .inr ⟨hnot, parent, outer, hp, lookup_cons_of_some hn ho, hnames⟩⟩
    · rw [List.lookup_cons, beq_false_of_ne he] at hm
      exact h.keep hn _ hm
  roots := fun m hm => ⟨lookup_isSome_cons (h.roots m hm).1, (h.roots m hm).2⟩
  unique := h.unique

/-- The rows on the way from the one a call began with to the one it has come to, which stands first. None of them
has been met before, and those on the way have no names yet. -/
structure Walk (t : TypeTable) (known : Known) (visiting : List Nat) (number : Nat) : Prop where
  chain : (number :: visiting).IsChain fun outer inner => t.parent? inner = some outer
  nodup : (number :: visiting).Nodup
  rows : ∀ n ∈ number :: visiting, (t.row? n).isSome
  unnamed : ∀ n ∈ visiting, known.lookup n = none

theorem Walk.start {n : Nat} (h : (t.row? n).isSome) : Walk t known [] n where
  chain := .singleton n
  nodup := by simp
  rows := by simpa using h
  unnamed := by simp

theorem Walk.step {visiting : List Nat} {number parent : Nat} (h : Walk t known visiting number)
    (hn : known.lookup number = none) (hp : t.parent? number = some parent) (hnew : parent ∉ number :: visiting) :
    Walk t known (number :: visiting) parent where
  chain := .cons_cons hp h.chain
  nodup := List.nodup_cons.mpr ⟨hnew, h.nodup⟩
  rows := List.forall_mem_cons.mpr ⟨row?_isSome_of_parent? hp, h.rows⟩
  unnamed := List.forall_mem_cons.mpr ⟨hn, h.unnamed⟩

theorem Walk.length_le {visiting : List Nat} {number : Nat} (h : Walk t known visiting number) :
    visiting.length + 1 ≤ t.rows.length := by
  have hsub : number :: visiting ⊆ List.range' 1 t.rows.length := by
    intro n hn
    have := bounds_of_row? (h.rows n hn)
    rw [List.mem_range'_1]
    omega
  simpa using (h.nodup.subperm hsub).length_le

theorem reaches_of_chain {visiting : List Nat} {number : Nat}
    (h : (number :: visiting).IsChain fun outer inner => t.parent? inner = some outer) :
    ∀ n ∈ number :: visiting, ReflTransGen t.LiesIn n number := by
  induction visiting generalizing number with
  | nil => simp [ReflTransGen.refl]
  | cons next rest ih =>
    obtain ⟨hp, hrest⟩ := List.isChain_cons_cons.mp h
    intro n hn
    rcases List.mem_cons.mp hn with rfl | hn
    · exact .refl
    · exact (ih hrest n hn).tail hp

theorem parent_mem_of_chain {visiting : List Nat} {number : Nat}
    (h : (number :: visiting).IsChain fun outer inner => t.parent? inner = some outer) :
    ∀ n ∈ visiting, ∀ parent, t.parent? n = some parent → parent ∈ number :: visiting := by
  induction visiting generalizing number with
  | nil => simp
  | cons next rest ih =>
    obtain ⟨hp, hrest⟩ := List.isChain_cons_cons.mp h
    intro n hn parent hparent
    rcases List.mem_cons.mp hn with rfl | hn
    · cases Option.some.inj (hp.symm.trans hparent)
      exact List.mem_cons_self
    · exact List.mem_cons_of_mem _ (ih hrest n hn parent hparent)

theorem Walk.sameCycle {visiting : List Nat} {number parent : Nat} (h : Walk t known visiting number)
    (hp : t.parent? number = some parent) (hm : parent ∈ number :: visiting) : t.SameCycle number number := by
  have hback : TransGen t.LiesIn number number := .head' hp (reaches_of_chain h.chain parent hm)
  exact ⟨hback, hback⟩

/-- If the row around the last one on the way is on the way itself, there is no way out: every row that the last one
lies in is on it. -/
theorem Walk.closed {visiting : List Nat} {number parent : Nat} (h : Walk t known visiting number)
    (hp : t.parent? number = some parent) (hm : parent ∈ number :: visiting) {n : Nat}
    (hn : TransGen t.LiesIn number n) : n ∈ number :: visiting := by
  induction hn with
  | single h' =>
    cases Option.some.inj (hp.symm.trans h')
    exact hm
  | @tail inner outer _ h' ih =>
    rcases List.mem_cons.mp ih with rfl | hi
    · cases Option.some.inj (hp.symm.trans h')
      exact hm
    · exact parent_mem_of_chain h.chain inner hi outer h'

theorem lookup_cons_none {n m : Nat} {names : TypeNames} (hne : m ≠ n) (hm : known.lookup m = none) :
    ((n, names) :: known).lookup m = none := by
  rw [List.lookup_cons, beq_false_of_ne hne]
  exact hm

/-- The fuel does not run out on a way on which no row comes twice, and the rows on the way remain without names. -/
theorem resolved_of_resolve {fuel : Nat} {visiting : List Nat} {number : Nat} (h : Resolved t known R)
    (hw : Walk t known visiting number) (hf : t.rows.length < fuel + visiting.length) :
    (∃ R', Resolved t (t.resolve fuel visiting known number) R') ∧
      (∀ n ∈ visiting, (t.resolve fuel visiting known number).lookup n = none) := by
  induction fuel generalizing visiting known number R with
  | zero =>
    have := hw.length_le
    omega
  | succ fuel ih =>
    have hfresh : ∀ n ∈ visiting, n ≠ number := by
      rintro n hn rfl
      exact (List.nodup_cons.mp hw.nodup).1 hn
    unfold resolve
    split
    · exact ⟨⟨R, h⟩, hw.unnamed⟩
    · exact ⟨⟨R, h⟩, hw.unnamed⟩
    · next row hn hr =>
      split
      · next hp =>
        have halone : ∀ m, R m → ¬ t.SameCycle number m := by
          intro m _ hc
          obtain ⟨parent, hparent⟩ := exists_parent_of_sameCycle hc
          simp [hp] at hparent
        exact ⟨⟨_, h.root hn hr (.inl hp) halone⟩,
          fun m hm => lookup_cons_none (hfresh m hm) (hw.unnamed m hm)⟩
      · next parent hp =>
        split
        -- The way has closed: the row counts as a type of its own, and no row of the cycle had a name before.
        · next hback =>
          have hm : parent ∈ number :: visiting := by simpa using hback
          have halone : ∀ m, R m → ¬ t.SameCycle number m := by
            intro m hR hc
            have hnone : known.lookup m = none := by
              rcases List.mem_cons.mp (hw.closed hp hm hc.1) with rfl | hmem
              · exact hn
              · exact hw.unnamed m hmem
            simpa [hnone] using (h.roots m hR).1
          exact ⟨⟨_, h.root hn hr (.inr (hw.sameCycle hp hm)) halone⟩,
            fun m hm => lookup_cons_none (hfresh m hm) (hw.unnamed m hm)⟩
        · next hnew =>
          have hout : parent ∉ number :: visiting := by simpa using hnew
          have hstep : Walk t known (number :: visiting) parent := hw.step hn hp hout
          have hfuel : t.rows.length < fuel + (number :: visiting).length := by
            rw [List.length_cons]
            omega
          obtain ⟨⟨R', hR'⟩, hnone⟩ := ih h hstep hfuel
          -- There is fuel for the row around, since the way to it has rows of the table only.
          have hpos : ∃ less, fuel = less + 1 := by
            have := hstep.length_le
            exact ⟨fuel - 1, by omega⟩
          have hsome : ((t.resolve fuel (number :: visiting) known parent).lookup parent).isSome := by
            obtain ⟨less, rfl⟩ := hpos
            exact resolve_isSome (row?_isSome_of_parent? hp)
          obtain ⟨outer, ho⟩ := Option.isSome_iff_exists.mp hsome
          simp only [ho, Option.getD_some]
          refine ⟨⟨R', hR'.nested (hnone number List.mem_cons_self) hr hp ho⟩, fun m hm => ?_⟩
          exact lookup_cons_none (hfresh m hm) (hnone m (List.mem_cons_of_mem _ hm))

theorem resolve_fuel {fuel fuel' : Nat} {visiting : List Nat} {number : Nat} (hw : Walk t known visiting number)
    (hf : t.rows.length < fuel + visiting.length) (hf' : t.rows.length < fuel' + visiting.length) :
    t.resolve fuel visiting known number = t.resolve fuel' visiting known number := by
  induction fuel generalizing fuel' visiting number with
  | zero =>
    have := hw.length_le
    omega
  | succ fuel ih =>
    cases fuel' with
    | zero =>
      have := hw.length_le
      omega
    | succ fuel' =>
      unfold resolve
      split
      · rfl
      · rfl
      · next hn _ =>
        split
        · rfl
        · next parent hp =>
          split
          · rfl
          · next hnew =>
            have hout : parent ∉ number :: visiting := by simpa using hnew
            have hsame : t.resolve fuel (number :: visiting) known parent =
                t.resolve fuel' (number :: visiting) known parent :=
              ih (hw.step hn hp hout) (by rw [List.length_cons]; omega) (by rw [List.length_cons]; omega)
            rw [hsame]

theorem row?_isSome_of_mem_range {i : Nat} (hi : i ∈ List.range t.rows.length) : (t.row? (i + 1)).isSome := by
  have hlt : i < t.rows.length := List.mem_range.mp hi
  simp [row?, hlt]

theorem resolved_known : ∃ R, Resolved t t.known R := by
  unfold known
  have hfold : ∀ (numbers : List Nat) (known : Known), (∀ i ∈ numbers, i ∈ List.range t.rows.length) →
      (∃ R, Resolved t known R) → ∃ R, Resolved t
        (numbers.foldl (fun known i => t.resolve (t.rows.length + 1) [] known (i + 1)) known) R := by
    intro numbers
    induction numbers with
    | nil => exact fun _ _ h => h
    | cons i rest ih =>
      rintro known hrange ⟨R, h⟩
      have hrow := row?_isSome_of_mem_range (hrange i List.mem_cons_self)
      have hstep := (resolved_of_resolve h (Walk.start hrow) (Nat.lt_succ_self _)).1
      exact ih _ (fun j hj => hrange j (List.mem_cons_of_mem _ hj)) hstep
  exact hfold _ [] (fun _ hi => hi) ⟨_, resolved_nil⟩

theorem known_fuel {fuel : Nat} (hf : t.rows.length < fuel) :
    (List.range t.rows.length).foldl (fun known i => t.resolve fuel [] known (i + 1)) [] = t.known := by
  refine List.foldl_ext _ _ _ fun known i hi => ?_
  exact resolve_fuel (Walk.start (row?_isSome_of_mem_range hi)) (by simpa using hf) (by simp)

theorem length_nestedNames (row : TypeRow) (outer : TypeNames) :
    outer.handle.length < (row.nestedNames outer).handle.length := by
  have hplus : "+".length = 1 := by decide
  simp only [TypeRow.nestedNames, String.length_append, hplus]
  omega

/-- The way out of a cycle comes to a root, since the handle gets shorter with each row that is none. -/
theorem Resolved.exists_root (h : Resolved t known R) (hall : ∀ n, (t.row? n).isSome → (known.lookup n).isSome)
    {n : Nat} (hc : t.SameCycle n n) : ∃ m, R m ∧ t.SameCycle n m := by
  have hrow : (t.row? n).isSome := by
    obtain ⟨_, -, hp⟩ := TransGen.tail'_iff.mp hc.1
    exact row?_isSome_of_parent? hp
  obtain ⟨names, hn⟩ := Option.isSome_iff_exists.mp (hall n hrow)
  induction hlen : names.handle.length using Nat.strongRecOn generalizing n names with
  | _ len ih =>
    obtain ⟨row, -, ⟨hR, -⟩ | ⟨-, parent, outer, hp, ho, rfl⟩⟩ := h.names n names hn
    · exact ⟨n, hR, hc⟩
    · have hshort : outer.handle.length < len := hlen ▸ length_nestedNames row outer
      have hcp : t.SameCycle n parent := sameCycle_parent hc hp
      obtain ⟨m, hm, hcm⟩ := ih _ hshort (hcp.symm.trans hcp) (row?_isSome_of_parent? hp) outer ho rfl
      exact ⟨m, hm, hcp.trans hcm⟩

theorem lookup_known_of_row? {n : Nat} (h : (t.row? n).isSome) : (t.known.lookup n).isSome := by
  have hb := bounds_of_row? h
  obtain ⟨i, rfl⟩ : ∃ i, n = i + 1 := ⟨n - 1, by omega⟩
  exact known_isSome (by omega)

theorem length_describe : t.describe.length = t.rows.length := by simp [describe]

theorem getElem?_describe {i : Nat} {row : TypeRow} {names : TypeNames} (hr : t.rows[i]? = some row)
    (hn : t.known.lookup (i + 1) = some names) :
    t.describe[i]? = some ⟨TypeName.withoutArity row.name, names.fullName, names.handle⟩ := by
  simp [describe, hr, hn]

end TypeTable

open TypeTable in
/-- For any table of types there is a set of rows that count as types of their own: those that lie in no other, and
of each cycle one. Every row is described, in the order of the rows, such a row by its own name and namespace and
any other by its name behind that of the row around it. No deeper recursion than the table is long is needed. -/
theorem describe_nesting (t : TypeTable) :
    (∀ fuel, t.rows.length < fuel →
      (List.range t.rows.length).foldl (fun known i => t.resolve fuel [] known (i + 1)) [] = t.known) ∧
    t.describe.length = t.rows.length ∧
    ∃ R : Nat → Prop,
      (∀ n, R n → 0 < n ∧ n ≤ t.rows.length) ∧
      (∀ n, 0 < n → n ≤ t.rows.length → t.parent? n = none → R n) ∧
      (∀ n, R n → t.parent? n = none ∨ t.SameCycle n n) ∧
      (∀ n, t.SameCycle n n → ∃! m, R m ∧ t.SameCycle n m) ∧
      ∀ i row, t.rows[i]? = some row → ∃ d, t.describe[i]? = some d ∧ d.name = TypeName.withoutArity row.name ∧
        (R (i + 1) →
          d.handle = (if row.space = "" then "" else row.space ++ ".") ++ row.name ∧
          d.fullName = (if row.space = "" then "" else row.space ++ ".") ++ TypeName.withoutArity row.name) ∧
        (¬ R (i + 1) → ∃ j outer, t.parent? (i + 1) = some (j + 1) ∧ t.describe[j]? = some outer ∧
          d.handle = outer.handle ++ "+" ++ row.name ∧
          d.fullName = outer.fullName ++ "." ++ TypeName.withoutArity row.name) := by
  obtain ⟨R, h⟩ := resolved_known (t := t)
  refine ⟨fun fuel hf => known_fuel hf, length_describe, R, ?range, ?parentless, fun n hn => (h.roots n hn).2, ?cycle,
    ?names⟩
  case range =>
    intro n hn
    obtain ⟨names, hnames⟩ := Option.isSome_iff_exists.mp (h.roots n hn).1
    obtain ⟨row, hr, -⟩ := h.names n names hnames
    exact bounds_of_row? (Option.isSome_of_eq_some hr)
  case parentless =>
    intro n hpos hle hp
    obtain ⟨i, rfl⟩ : ∃ i, n = i + 1 := ⟨n - 1, by omega⟩
    obtain ⟨names, hnames⟩ := Option.isSome_iff_exists.mp (known_isSome (t := t) (i := i) (by omega))
    obtain ⟨_, -, ⟨hR, -⟩ | ⟨-, parent, _, hparent, -⟩⟩ := h.names (i + 1) names hnames
    · exact hR
    · simp [hp] at hparent
  case cycle =>
    intro n hc
    obtain ⟨m, hm, hnm⟩ := h.exists_root (fun _ => lookup_known_of_row?) hc
    exact ⟨m, ⟨hm, hnm⟩, fun m' h' => h.unique m' m h'.1 hm (h'.2.symm.trans hnm)⟩
  case names =>
    intro i row hi
    obtain ⟨hlt, -⟩ := List.getElem?_eq_some_iff.mp hi
    obtain ⟨names, hnames⟩ := Option.isSome_iff_exists.mp (known_isSome hlt)
    have hrow : t.row? (i + 1) = some row := by simpa [row?] using hi
    obtain ⟨row', hr, hcases⟩ := h.names (i + 1) names hnames
    cases Option.some.inj (hrow.symm.trans hr)
    refine ⟨_, getElem?_describe hi hnames, rfl, ?_, ?_⟩
    · intro hR
      obtain ⟨-, rfl⟩ | ⟨hnot, -⟩ := hcases
      · simp [TypeRow.rootNames]
      · exact absurd hR hnot
    · intro hnot
      obtain ⟨hR, -⟩ | ⟨-, parent, outer, hp, ho, rfl⟩ := hcases
      · exact absurd hR hnot
      · have hb := bounds_of_row? (row?_isSome_of_parent? hp)
        obtain ⟨j, rfl⟩ : ∃ j, parent = j + 1 := ⟨parent - 1, by omega⟩
        have hj : t.rows[j]? = some t.rows[j] := List.getElem?_eq_getElem (by omega)
        exact ⟨j, _, hp, getElem?_describe hj ho, rfl, rfl⟩

example :
    ((TypeTable.mk [⟨"A", "N"⟩, ⟨"B", ""⟩, ⟨"C", ""⟩, ⟨"D", "N"⟩, ⟨"E", ""⟩]
      [(1, 2), (2, 1), (3, 2), (4, 4), (5, 9)]).describe.map (·.handle)) = ["B+A", "B", "B+C", "N.D", "E"] := by
  decide +kernel

end Winnow
