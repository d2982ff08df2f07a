import Winnow.Decompiler
import Winnow.Proofs.Nesting

/-!
Which type a handle stands for. A handle is read from its end: behind the last plus sign stands the name of the row,
and before it the handle of the row around. Where there is no plus sign the row lies in no other, and behind the last
full stop stands its name, before it its namespace. So if names hold neither sign where they would be mistaken, two
rows have the same handle only if they cannot be told apart to begin with.
-/
set_option autoImplicit false

namespace Winnow

theorem append_cons_inj_of_last {α : Type} {c : α} {xs ys us vs : List α} (hu : c ∉ us) (hv : c ∉ vs)
    (h : xs ++ c :: us = ys ++ c :: vs) : xs = ys ∧ us = vs := by
  rcases List.append_eq_append_iff.mp h with ⟨mid, rfl, hmid⟩ | ⟨mid, rfl, hmid⟩
  all_goals
    cases mid with
    | nil =>
      obtain ⟨-, rfl⟩ := List.cons.inj hmid
      exact ⟨by simp, rfl⟩
    | cons d mid =>
      obtain ⟨-, rfl⟩ := List.cons.inj hmid
      simp at hu hv

namespace TypeTable
open Relation (TransGen)

variable {t : TypeTable}

/-- That no row lies in itself, that the signs which handles are put together with stand in no name where they could
be mistaken, and that there are no two rows of one name in the same place. -/
structure Unambiguous (t : TypeTable) : Prop where
  acyclic : ∀ n, ¬ TransGen t.LiesIn n n
  unplussed : ∀ row ∈ t.rows, '+' ∉ row.name.toList ∧ '+' ∉ row.space.toList
  undotted : ∀ n row, t.row? n = some row → t.parent? n = none → '.' ∉ row.name.toList
  outermost : ∀ m n row, t.row? m = some row → t.row? n = some row → t.parent? m = none → t.parent? n = none → m = n
  nested : ∀ m n row row' outer, t.row? m = some row → t.row? n = some row' → t.parent? m = some outer →
    t.parent? n = some outer → row.name = row'.name → m = n

theorem row?_isSome_of_transGen {inner outer : Nat} (h : TransGen t.LiesIn inner outer) : (t.row? outer).isSome := by
  obtain ⟨_, -, hp⟩ := TransGen.tail'_iff.mp h
  exact row?_isSome_of_parent? hp

theorem acyclic_of_lt (h : ∀ n outer, (t.row? n).isSome → t.parent? n = some outer → outer < n) (n : Nat) :
    ¬ TransGen t.LiesIn n n := by
  have hout : ∀ outer, (t.row? n).isSome → TransGen t.LiesIn n outer → outer < n := by
    intro outer hr hn
    induction hn with
    | single hp => exact h n _ hr hp
    | tail hinner hp ih => exact Nat.lt_trans (h _ _ (row?_isSome_of_transGen hinner) hp) ih
  exact fun hc => Nat.lt_irrefl n (hout n (row?_isSome_of_transGen hc) hc)

theorem toList_rootNames (row : TypeRow) : row.rootNames.handle.toList =
    if row.space = "" then row.name.toList else row.space.toList ++ '.' :: row.name.toList := by
  by_cases hs : row.space = "" <;> simp [TypeRow.rootNames, hs]

theorem toList_nestedNames (row : TypeRow) (outer : TypeNames) :
    (row.nestedNames outer).handle.toList = outer.handle.toList ++ '+' :: row.name.toList := by
  simp [TypeRow.nestedNames]

theorem rootNames_inj {row row' : TypeRow} (hd : '.' ∉ row.name.toList) (hd' : '.' ∉ row'.name.toList)
    (h : row.rootNames.handle = row'.rootNames.handle) : row = row' := by
  have hlist := congrArg String.toList h
  rw [toList_rootNames, toList_rootNames] at hlist
  obtain ⟨name, space⟩ := row
  obtain ⟨name', space'⟩ := row'
  split at hlist <;> split at hlist
  · simp_all [String.toList_inj]
  · simp [hlist] at hd
  · simp [← hlist] at hd'
  · obtain ⟨hs, hn⟩ := append_cons_inj_of_last hd hd' hlist
    simp_all [String.toList_inj]

theorem nestedNames_inj {row row' : TypeRow} {outer outer' : TypeNames} (hp : '+' ∉ row.name.toList)
    (hp' : '+' ∉ row'.name.toList) (h : (row.nestedNames outer).handle = (row'.nestedNames outer').handle) :
    outer.handle = outer'.handle ∧ row.name = row'.name := by
  have hlist := congrArg String.toList h
  rw [toList_nestedNames, toList_nestedNames] at hlist
  simpa only [String.toList_inj] using append_cons_inj_of_last hp hp' hlist

theorem rootNames_ne_nestedNames {row row' : TypeRow} (hp : '+' ∉ row.name.toList ∧ '+' ∉ row.space.toList)
    (outer : TypeNames) : row.rootNames.handle ≠ (row'.nestedNames outer).handle := by
  intro h
  have hmem : '+' ∈ row.rootNames.handle.toList := by simp [h, toList_nestedNames]
  rw [toList_rootNames] at hmem
  split at hmem <;> simp_all

theorem known_names_of_acyclic (hacyclic : ∀ n, ¬ TransGen t.LiesIn n n) {n : Nat} {names : TypeNames}
    (hn : t.known.lookup n = some names) : ∃ row, t.row? n = some row ∧
      (t.parent? n = none ∧ names = row.rootNames ∨
        ∃ parent outer, t.parent? n = some parent ∧ t.known.lookup parent = some outer ∧
          names = row.nestedNames outer) := by
  obtain ⟨R, h⟩ := resolved_known (t := t)
  obtain ⟨row, hr, ⟨hR, hnames⟩ | ⟨-, hnames⟩⟩ := h.names n names hn
  · have hparent : t.parent? n = none := (h.roots n hR).2.resolve_right fun hc => hacyclic n hc.1
    exact ⟨row, hr, .inl ⟨hparent, hnames⟩⟩
  · exact ⟨row, hr, .inr hnames⟩

theorem known_handle_inj (h : t.Unambiguous) {m n : Nat} {names names' : TypeNames}
    (hm : t.known.lookup m = some names) (hn : t.known.lookup n = some names')
    (he : names.handle = names'.handle) : m = n := by
  induction hlen : names.handle.length using Nat.strongRecOn generalizing m n names names' with
  | _ len ih =>
    obtain ⟨row, hr, hcase⟩ := known_names_of_acyclic h.acyclic hm
    obtain ⟨row', hr', hcase'⟩ := known_names_of_acyclic h.acyclic hn
    have hplus := h.unplussed row (mem_rows_of_row? hr)
    have hplus' := h.unplussed row' (mem_rows_of_row? hr')
    obtain ⟨hp, rfl⟩ | ⟨parent, outer, hp, ho, rfl⟩ := hcase <;>
      obtain ⟨hp', rfl⟩ | ⟨parent', outer', hp', ho', rfl⟩ := hcase'
    · obtain rfl := rootNames_inj (h.undotted m row hr hp) (h.undotted n row' hr' hp') he
      exact h.outermost m n row hr hr' hp hp'
    · exact absurd he (rootNames_ne_nestedNames hplus outer')
    · exact absurd he.symm (rootNames_ne_nestedNames hplus' outer)
    · obtain ⟨houter, hname⟩ := nestedNames_inj hplus.1 hplus'.1 he
      have hshort : outer.handle.length < len := hlen ▸ length_nestedNames row outer
      obtain rfl := ih _ hshort ho ho' houter rfl
      exact h.nested m n row row' parent hr hr' hp hp' hname

theorem exists_known_of_describe {i : Nat} {d : TypeDescriptor} (h : t.describe[i]? = some d) :
    ∃ names, t.known.lookup (i + 1) = some names ∧ d.handle = names.handle := by
  obtain ⟨hlt, -⟩ := List.getElem?_eq_some_iff.mp h
  rw [length_describe] at hlt
  obtain ⟨names, hnames⟩ := Option.isSome_iff_exists.mp (known_isSome hlt)
  have hd := getElem?_describe (List.getElem?_eq_getElem hlt) hnames
  cases Option.some.inj (h.symm.trans hd)
  exact ⟨names, hnames, rfl⟩

theorem describe_handle_inj (h : t.Unambiguous) {i j : Nat} {d e : TypeDescriptor} (hi : t.describe[i]? = some d)
    (hj : t.describe[j]? = some e) (he : d.handle = e.handle) : i = j := by
  obtain ⟨names, hn, hd⟩ := exists_known_of_describe hi
  obtain ⟨names', hn', hd'⟩ := exists_known_of_describe hj
  have := known_handle_inj h hn hn' (hd ▸ hd' ▸ he)
  omega

end TypeTable

theorem Decompiler.handle_of_arguments {module module' : Path} {paths paths' : List Path} {handle handle' : String}
    (h : arguments module paths handle = arguments module' paths' handle') : handle = handle' := by
  have hthird := congrArg (·[2]?) h
  simpa [arguments] using hthird

open TypeTable in
/-- The types of a table without ambiguities have handles of their own, and the decompiler is never started for one
of them in the way in which it is for another. -/
theorem handles_distinct {t : TypeTable} (h : t.Unambiguous) :
    (t.describe.map (·.handle)).Nodup ∧
    ∀ (i j : Nat) (d e : TypeDescriptor), t.describe[i]? = some d → t.describe[j]? = some e →
      ∀ module module' paths paths',
        Decompiler.arguments module paths d.handle = Decompiler.arguments module' paths' e.handle → i = j := by
  refine ⟨List.pairwise_iff_getElem.mpr fun i j hi hj hlt he => ?_, fun i j d e hi hj module module' paths paths' ha => ?_⟩
  · rw [List.length_map] at hi hj
    rw [List.getElem_map, List.getElem_map] at he
    exact Nat.ne_of_lt hlt (describe_handle_inj h (List.getElem?_eq_getElem hi) (List.getElem?_eq_getElem hj) he)
  · exact describe_handle_inj h hi hj (Decompiler.handle_of_arguments ha)

def enumerators : TypeTable where
  rows := [⟨"List`1", "System"⟩, ⟨"Enumerator", ""⟩, ⟨"List`2", "System"⟩, ⟨"Enumerator", ""⟩, ⟨"Enumerator", ""⟩]
  enclosing := [(2, 1), (4, 3)]

open TypeTable in
theorem enumerators_unambiguous : enumerators.Unambiguous := by
  have hrange : ∀ {n : Nat}, (enumerators.row? n).isSome → n < 6 := fun hr => Nat.lt_succ_of_le (bounds_of_row? hr).2
  refine ⟨acyclic_of_lt fun n outer hr hp => ?_, by decide +kernel, fun n row hr hp => ?_,
    fun m n row hm hn hp hp' => ?_, fun m n row row' outer hm hn hp hp' he => ?_⟩
  · have hall : ∀ n : Fin 6, ∀ outer ∈ enumerators.parent? n, outer < n := by decide +kernel
    exact hall ⟨n, hrange hr⟩ outer hp
  · have hall : ∀ n : Fin 6, ∀ row ∈ enumerators.row? n, '.' ∉ row.name.toList := by decide +kernel
    exact hall ⟨n, hrange (Option.isSome_of_eq_some hr)⟩ row hr
  · have hall : ∀ m n : Fin 6, enumerators.parent? m = none → enumerators.parent? n = none →
        (enumerators.row? m).isSome → enumerators.row? m = enumerators.row? n → m = n := by
      decide +kernel
    have := hall ⟨m, hrange (Option.isSome_of_eq_some hm)⟩ ⟨n, hrange (Option.isSome_of_eq_some hn)⟩ hp hp'
      (Option.isSome_of_eq_some hm) (hm.trans hn.symm)
    exact Fin.mk.inj this
  · have hall : ∀ m n : Fin 6, (enumerators.parent? m).isSome → enumerators.parent? m = enumerators.parent? n →
        m = n := by
      decide +kernel
    have := hall ⟨m, hrange (Option.isSome_of_eq_some hm)⟩ ⟨n, hrange (Option.isSome_of_eq_some hn)⟩
      (Option.isSome_of_eq_some hp) (hp.trans hp'.symm)
    exact Fin.mk.inj this

theorem handles_distinct_enumerators : enumerators.Unambiguous ∧ (enumerators.describe.map (·.handle)).Nodup ∧
    enumerators.describe.map (·.handle) =
      ["System.List`1", "System.List`1+Enumerator", "System.List`2", "System.List`2+Enumerator", "Enumerator"] :=
  ⟨enumerators_unambiguous, (handles_distinct enumerators_unambiguous).1, by decide +kernel⟩

end Winnow
