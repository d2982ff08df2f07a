import Winnow.Proofs.Lowering
import Winnow.Proofs.ModuleSearch
import Winnow.Proofs.NamePattern

/-!
What a search that is blind to case finds. Names and patterns are compared in lower case, and that finds whatever the
patterns stand for as they are written, unless lower case parts a sign from the character it stands for: a question
mark stands for one character and not for the two that a dotted capital I becomes, a set in lower case can lack a
character that the set had, and a capital sigma becomes one letter or another with what is around it.
-/
set_option autoImplicit false

namespace Winnow
namespace NamePattern
open Text

inductive Sign
  | any
  | set (body : List Char)
  | itself

/-- A sign and the character of a text that it stands for, each with what comes before it, nearest first, and what
comes after it. -/
structure Meeting where
  sign : Sign
  before : List Char
  after : List Char
  char : Char
  above : List Char
  below : List Char

/-- That the pattern that comes after `before` stands for the text that comes after `above`, in such a way that each
meeting satisfies `K`. -/
inductive Stands (K : Meeting → Prop) : (before pattern above text : List Char) → Prop
  | done (before above : List Char) : Stands K before [] above []
  | stop {before pattern above text : List Char} (h : Stands K ('*' :: before) pattern above text) :
      Stands K before ('*' :: pattern) above text
  | pass {before pattern above text : List Char} {c : Char} (h : Stands K before ('*' :: pattern) (c :: above) text) :
      Stands K before ('*' :: pattern) above (c :: text)
  | any {before pattern above text : List Char} {c : Char} (hk : K ⟨.any, before, pattern, c, above, text⟩)
      (h : Stands K ('?' :: before) pattern (c :: above) text) : Stands K before ('?' :: pattern) above (c :: text)
  | set {before pattern above text body tail : List Char} {c : Char} (hb : bracketed? pattern = some (body, tail))
      (hc : (set body).accepts c = true) (hk : K ⟨.set body, before, tail, c, above, text⟩)
      (h : Stands K (']' :: body.reverse ++ '[' :: before) tail (c :: above) text) :
      Stands K before ('[' :: pattern) above (c :: text)
  | itself {before pattern above text : List Char} {c : Char} (hstar : c ≠ '*') (hany : c ≠ '?')
      (hset : c = '[' → bracketed? pattern = none) (hk : K ⟨.itself, before, pattern, c, above, text⟩)
      (h : Stands K (c :: before) pattern (c :: above) text) : Stands K before (c :: pattern) above (c :: text)

/-- That a sign and the character it stands for still meet in lower case. -/
def Kept (m : Meeting) : Prop :=
  match m.sign with
  | .any => ∃ d, lowerChar m.above m.char m.below = [d]
  | .set body => ∃ d, lowerChar m.above m.char m.below = [d] ∧
      (set (lowerWithin ('[' :: m.before) body (']' :: m.after))).accepts d = true
  | .itself => lowerChar m.before m.char m.after = lowerChar m.above m.char m.below

def Free (_ : Meeting) : Prop := True

variable {K : Meeting → Prop} {before pattern above text : List Char}

/-! What a pattern accepts is what it stands for. -/

theorem partsOf_nil (fuel : Nat) : partsOf fuel [] = [] := by
  cases fuel <;> rfl

theorem partsOf_any (fuel : Nat) (rest : List Char) :
    partsOf (fuel + 1) ('?' :: rest) = .any :: partsOf fuel rest := rfl

theorem partsOf_set {rest body tail : List Char} (fuel : Nat) (hb : bracketed? rest = some (body, tail)) :
    partsOf (fuel + 1) ('[' :: rest) = NamePattern.set body :: partsOf fuel tail := by
  simp [partsOf, hb]

theorem partsOf_itself {c : Char} {rest : List Char} (fuel : Nat) (hstar : c ≠ '*') (hany : c ≠ '?')
    (hset : c = '[' → bracketed? rest = none) : partsOf (fuel + 1) (c :: rest) = .char c :: partsOf fuel rest := by
  by_cases hc : c = '['
  · subst hc
    simp [partsOf, hset rfl]
  · rw [partsOf]
    all_goals simp_all

theorem Stands.pass_append {passed : List Char} (h : Stands K before ('*' :: pattern) (passed.reverse ++ above) text) :
    Stands K before ('*' :: pattern) above (passed ++ text) := by
  induction passed generalizing above with
  | nil => exact h
  | cons c rest ih => exact .pass (ih (by simpa using h))

/-- By induction on the parts that are read; what comes before a sign does not matter where nothing is asked. -/
theorem stands_of_accepts {fuel : Nat} (hf : pattern.length ≤ fuel) (h : accepts (partsOf fuel pattern) text = true) :
    Stands Free before pattern above text := by
  induction fuel generalizing before pattern above text with
  | zero =>
    obtain rfl := List.length_eq_zero_iff.mp (Nat.le_zero.mp hf)
    rw [partsOf_nil, accepts_nil] at h
    subst h
    exact .done before above
  | succ fuel ih =>
    cases pattern with
    | nil =>
      rw [partsOf_nil, accepts_nil] at h
      subst h
      exact .done before above
    | cons c rest =>
      have hrest : rest.length ≤ fuel := Nat.le_of_succ_le_succ hf
      by_cases hstar : c = '*'
      · subst hstar
        obtain ⟨text, ⟨passed, rfl⟩, hstop⟩ := accepts_star_cons.mp h
        exact .pass_append (.stop (ih hrest hstop))
      by_cases hany : c = '?'
      · subst hany
        rw [partsOf_any, accepts_cons any_ne_star] at h
        obtain ⟨d, text, rfl, -, h⟩ := h
        exact .any trivial (ih hrest h)
      by_cases hset : c = '[' → bracketed? rest = none
      · rw [partsOf_itself fuel hstar hany hset, accepts_cons (char_ne_star c)] at h
        obtain ⟨d, text, rfl, hd, h⟩ := h
        obtain rfl := (accepts_char c d).mp hd
        exact .itself hstar hany hset trivial (ih hrest h)
      · obtain ⟨rfl, hb⟩ := Classical.not_imp.mp hset
        obtain ⟨⟨body, tail⟩, hb⟩ := Option.ne_none_iff_exists'.mp hb
        rw [partsOf_set fuel hb, accepts_cons (set_ne_star body)] at h
        obtain ⟨d, text, rfl, hd, h⟩ := h
        exact .set hb hd trivial (ih (Nat.le_of_lt (Nat.lt_of_lt_of_le (length_of_bracketed? hb) hrest)) h)

theorem Stands.accepts (h : Stands K before pattern above text) {fuel : Nat} (hf : pattern.length ≤ fuel) :
    accepts (partsOf fuel pattern) text = true := by
  induction h generalizing fuel with
  | done =>
    rw [partsOf_nil]
    exact accepts_nil.mpr rfl
  | stop _ ih =>
    cases fuel with
    | zero => cases hf
    | succ fuel => exact accepts_star_cons.mpr ⟨_, List.suffix_refl _, ih (Nat.le_of_succ_le_succ hf)⟩
  | @pass before pattern above text c _ ih =>
    cases fuel with
    | zero => cases hf
    | succ fuel =>
      obtain ⟨rest, hs, h⟩ := accepts_star_cons.mp (ih hf)
      exact accepts_star_cons.mpr ⟨rest, hs.trans (List.suffix_cons c text), h⟩
  | any _ _ ih =>
    cases fuel with
    | zero => cases hf
    | succ fuel =>
      rw [partsOf_any]
      exact (accepts_cons any_ne_star).mpr ⟨_, _, rfl, rfl, ih (Nat.le_of_succ_le_succ hf)⟩
  | @set before pattern above text body tail c hb hc _ _ ih =>
    cases fuel with
    | zero => cases hf
    | succ fuel =>
      have hlt := length_of_bracketed? hb
      rw [partsOf_set fuel hb]
      exact (accepts_cons (set_ne_star body)).mpr
        ⟨c, text, rfl, hc, ih (Nat.le_of_lt (Nat.lt_of_lt_of_le hlt (Nat.le_of_succ_le_succ hf)))⟩
  | @itself before pattern above text c hstar hany hset _ _ ih =>
    cases fuel with
    | zero => cases hf
    | succ fuel =>
      rw [partsOf_itself fuel hstar hany hset]
      exact (accepts_cons (char_ne_star c)).mpr
        ⟨c, text, rfl, (accepts_char c c).mpr rfl, ih (Nat.le_of_succ_le_succ hf)⟩

theorem accept_iff_stands {pattern name : String} :
    accept pattern name = true ↔ Stands Free [] pattern.toList [] name.toList :=
  ⟨stands_of_accepts (Nat.le_of_eq String.length_toList), fun h => h.accepts (Nat.le_of_eq String.length_toList)⟩

/-! In lower case. -/

theorem stands_append {form : List Char} (hform : ∀ d ∈ form, d ≠ '*' ∧ d ≠ '?' ∧ d ≠ '[')
    (h : ∀ before above, Stands Free before pattern above text) (before above : List Char) :
    Stands Free before (form ++ pattern) above (form ++ text) := by
  induction form generalizing before above with
  | nil => exact h before above
  | cons d rest ih =>
    obtain ⟨⟨hstar, hany, hset⟩, hrest⟩ := List.forall_mem_cons.mp hform
    exact .itself hstar hany (fun hd => absurd hd hset) trivial (ih hrest _ _)

theorem Stands.lower (h : Stands Kept before pattern above text) (before' above' : List Char) :
    Stands Free before' (lowerChars before pattern) above' (lowerChars above text) := by
  have hstay {c : Char} (hc : c ∈ marks) (before rest : List Char) :
      lowerChars before (c :: rest) = c :: lowerChars (c :: before) rest := by
    rw [lowerChars, (form_lowerChar before c rest).kept hc, List.singleton_append]
  induction h generalizing before' above' with
  | done => exact .done before' above'
  | stop _ ih =>
    rw [hstay (by decide)]
    exact .stop (ih _ _)
  | @pass before pattern above text c _ ih =>
    rw [hstay (by decide)] at ih ⊢
    exact .pass_append (ih _ _)
  | @any before pattern above text c hk _ ih =>
    obtain ⟨d, hd⟩ := hk
    rw [hstay (by decide), lowerChars, hd]
    exact .any trivial (ih _ _)
  | @set before pattern above text body tail c hb hc hk _ ih =>
    obtain ⟨d, hd, haccepts⟩ := hk
    obtain ⟨_, _, -, rfl, -⟩ := exists_of_bracketed? hb
    rw [hstay (by decide), lowerChars_append, hstay (by decide), lowerChars, hd]
    exact .set (Formed.bracketed?_eq_some hb (formed_lowerWithin _ body _) (formed_lowerChars _ tail)) haccepts trivial
      (ih _ _)
  | @itself before pattern above text c hstar hany hset hk _ ih =>
    have hk : lowerChar before c pattern = lowerChar above c text := hk
    have hform := form_lowerChar above c text
    by_cases hc : c = '['
    · subst hc
      rw [hstay (by decide), hstay (by decide)]
      exact .itself hstar hany (fun _ => (formed_lowerChars _ pattern).bracketed?_eq_none (hset rfl)) trivial (ih _ _)
    · rw [lowerChars, lowerChars, hk]
      refine stands_append (fun d hd => ⟨?_, ?_, ?_⟩) ih before' above'
      · exact fun heq => hstar (heq ▸ (hform.mark d (by simp [heq, marks]) hd).symm)
      · exact fun heq => hany (heq ▸ (hform.mark d (by simp [heq, marks]) hd).symm)
      · exact fun heq => hc (heq ▸ (hform.mark d (by simp [heq, marks]) hd).symm)

theorem accept_lowerCase {pattern name : String} (h : Stands Kept [] pattern.toList [] name.toList) :
    accept (lowerCase pattern) (lowerCase name) = true := by
  rw [accept_iff_stands, lowerCase, lowerCase, String.toList_ofList, String.toList_ofList]
  exact h.lower [] []

theorem lowerChar_of_ne {c : Char} (hc : c ≠ 'Σ') (before after before' after' : List Char) :
    lowerChar before c after = lowerChar before' c after' := by
  have hcode : (c.toNat == 0x3A3) = false := by
    rw [beq_eq_false_iff_ne]
    exact fun h => hc (Char.toNat_inj.mp h)
  simp [lowerChar, hcode]

theorem exists_lowerChar_of_ne {c : Char} (hc : c ≠ 'İ') (before after : List Char) :
    ∃ d, lowerChar before c after = [d] := by
  have hcode : (c.toNat == 0x130) = false := by
    rw [beq_eq_false_iff_ne]
    exact fun h => hc (Char.toNat_inj.mp h)
  simp only [lowerChar, hcode, Bool.false_eq_true, if_false]
  repeat' split
  all_goals exact ⟨_, rfl⟩

/-- A pattern and a text in which nothing can be parted by lower case: no text is in brackets, and there is no question
mark for a dotted capital I to meet, and no capital sigma for another. -/
structure Unparted (pattern text : List Char) : Prop where
  set : '[' ∉ pattern
  any : '?' ∉ pattern ∨ 'İ' ∉ text
  sigma : 'Σ' ∉ pattern ∨ 'Σ' ∉ text

theorem Unparted.subset {pattern' text' : List Char} (h : Unparted pattern text) (hp : pattern' ⊆ pattern)
    (ht : text' ⊆ text) : Unparted pattern' text' where
  set := mt (@hp _) h.set
  any := h.any.imp (mt (@hp _)) (mt (@ht _))
  sigma := h.sigma.imp (mt (@hp _)) (mt (@ht _))

theorem Stands.kept (h : Stands K before pattern above text) (hp : Unparted pattern text) :
    Stands Kept before pattern above text := by
  induction h with
  | done before above => exact .done before above
  | stop _ ih => exact .stop (ih (hp.subset (List.subset_cons_self _ _) (List.Subset.refl _)))
  | pass _ ih => exact .pass (ih (hp.subset (List.Subset.refl _) (List.subset_cons_self _ _)))
  | @any before pattern above text c _ _ ih =>
    have hc : c ≠ 'İ' := by
      rintro rfl
      exact hp.any.elim (· List.mem_cons_self) (· List.mem_cons_self)
    exact .any (exists_lowerChar_of_ne hc above text)
      (ih (hp.subset (List.subset_cons_self _ _) (List.subset_cons_self _ _)))
  | set => exact absurd List.mem_cons_self hp.set
  | @itself before pattern above text c hstar hany hset _ _ ih =>
    have hc : c ≠ 'Σ' := by
      rintro rfl
      exact hp.sigma.elim (· List.mem_cons_self) (· List.mem_cons_self)
    exact .itself hstar hany hset (lowerChar_of_ne hc before pattern above text)
      (ih (hp.subset (List.subset_cons_self _ _) (List.subset_cons_self _ _)))

end NamePattern

namespace ModuleScan
open NamePattern

variable {site : Site} {patterns : List String} {source dir : Path}

/-- For every directory in which no path is too long, and every list of patterns: the search gives modules, and among
them is each file directly in the directory for whose name, as both are written, one of the patterns stands in such a
way that every sign and the character it stands for still meet in lower case. That is so for whatever a pattern accepts
if nothing in the two can be parted by lower case. -/
theorem list_blind (h : Sees site source dir)
    (hfits : ∀ name ∈ site.files.tree.names dir.parts, (dir.child name).Fits) :
    ∃ modules, list site patterns source = .ok modules ∧
      ∀ name bytes executable, site.files.tree.get? (dir.parts ++ [name]) = some (.file bytes executable) →
        ∀ pattern ∈ patterns,
          (Stands Kept [] pattern.toList [] name.toList ∨
            accept pattern name = true ∧ Unparted pattern.toList name.toList) →
          ⟨dir.join ⟨0, [name]⟩⟩ ∈ modules := by
  refine ⟨_, list_eq h hfits, fun name bytes executable hfile pattern hpattern hcase => ?_⟩
  have hstands : Stands Kept [] pattern.toList [] name.toList :=
    hcase.elim id fun ⟨haccept, hunparted⟩ => (accept_iff_stands.mp haccept).kept hunparted
  have hmodule : isModule patterns name = true :=
    List.any_eq_true.mpr ⟨pattern, hpattern, accept_lowerCase hstands⟩
  exact List.mem_map.mpr ⟨name, mem_found.mpr (counts_iff.mpr ⟨hmodule, bytes, executable, hfile⟩), rfl⟩

def holding (name : String) : Site where
  files := ⟨⟨[([name], .file "MZ".toByteArray false)]⟩, []⟩
  homes := ⟨⟨1, ["home"]⟩, []⟩

/-- Some files are missed: one with a character that is in the set in lower case only, one with a character that
becomes two, and one with a sigma at its end. -/
theorem list_misses :
    (accept "[!a].dll" "A.dll" = true ∧ list (holding "A.dll") ["[!a].dll"] ⟨1, []⟩ = .ok []) ∧
    (accept "?.dll" "İ.dll" = true ∧ list (holding "İ.dll") ["?.dll"] ⟨1, []⟩ = .ok []) ∧
    (accept "*Σ" "ΑΣ" = true ∧ list (holding "ΑΣ") ["*Σ"] ⟨1, []⟩ = .ok []) := by
  decide +kernel

theorem list_blind_negated : ∃ modules, list (holding "Bc") ["[!a]*"] ⟨1, []⟩ = .ok modules ∧
    ⟨⟨1, ["Bc"]⟩⟩ ∈ modules := by
  have hset : Kept ⟨.set ['!', 'a'], [], ['*'], 'B', [], ['c']⟩ := ⟨'b', by decide +kernel, by decide +kernel⟩
  have hstands : Stands Kept [] "[!a]*".toList [] "Bc".toList :=
    .set (by decide) (by decide) hset (.pass (.stop (.done _ _)))
  have hsees : Sees (holding "Bc") ⟨1, []⟩ ⟨1, []⟩ := ⟨by decide +kernel, by decide +kernel, by decide, by decide⟩
  have hfits : ∀ name ∈ (holding "Bc").files.tree.names [], ((⟨1, []⟩ : Path).child name).Fits := by
    have hnames : (holding "Bc").files.tree.names [] = ["Bc"] := by decide +kernel
    simp only [hnames, List.forall_mem_singleton]
    exact ⟨by decide, by decide, by decide⟩
  obtain ⟨modules, hlist, hmem⟩ := @list_blind (holding "Bc") ["[!a]*"] ⟨1, []⟩ ⟨1, []⟩ hsees hfits
  have hfile : (holding "Bc").files.tree.get? ["Bc"] = some (.file "MZ".toByteArray false) := by decide +kernel
  exact ⟨modules, hlist, hmem "Bc" _ _ hfile "[!a]*" (by simp) (.inl hstands)⟩

end ModuleScan
end Winnow
