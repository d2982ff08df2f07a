import Winnow.Importance
import Winnow.Proofs.Folding

/-!
Which names are important. Folding works on each character by itself and leaves something of each, so it parts no
prefix from what comes after it and empties no text. Whether a name is important can therefore be told from what is
left of it and of the prefixes when upper and lower case are not told apart.
-/
set_option autoImplicit false

namespace Winnow.Importance
open Text

variable {prefixes prefixes' : List String} {name name' folded : String}

/-- What is left of the prefixes that are not empty. -/
def foldings (prefixes : List String) : List String := (prefixes.filter (!·.isEmpty)).map caseFold

theorem mem_foldings : folded ∈ foldings prefixes ↔ ∃ p ∈ prefixes, p ≠ "" ∧ caseFold p = folded := by
  simp [foldings, and_assoc]

theorem ne_empty_of_mem_foldings (h : folded ∈ foldings prefixes) : folded ≠ "" := by
  obtain ⟨p, -, hne, rfl⟩ := mem_foldings.mp h
  rw [Ne, ← String.toList_eq_nil_iff, toList_caseFold, foldChars_eq_nil, String.toList_eq_nil_iff]
  exact hne

/-- A name is important exactly if what is left of it begins with what is left of a prefix. Nothing begins the empty
name, so there is no need to ask whether a name is empty. -/
theorem isImportant_iff :
    isImportant prefixes name = true ↔ ∃ folded ∈ foldings prefixes, folded.toList <+: (caseFold name).toList := by
  simp only [isImportant, Bool.and_eq_true, Bool.not_eq_true', List.any_eq_true, String.isEmpty_eq_false_iff,
    List.isPrefixOf_iff_prefix]
  constructor
  · rintro ⟨-, p, hp, hne, hprefix⟩
    refine ⟨caseFold p, mem_foldings.mpr ⟨p, hp, hne, rfl⟩, ?_⟩
    rwa [toList_caseFold, toList_caseFold]
  · rintro ⟨folded, hfolded, hprefix⟩
    obtain ⟨p, hp, hne, rfl⟩ := mem_foldings.mp hfolded
    refine ⟨?_, p, hp, hne, by rwa [toList_caseFold, toList_caseFold] at hprefix⟩
    rintro rfl
    have hnil : (caseFold p).toList = [] := List.prefix_nil.mp hprefix
    exact ne_empty_of_mem_foldings hfolded (String.toList_eq_nil_iff.mp hnil)

theorem isImportant_congr (hname : caseFold name = caseFold name')
    (hp : ∀ folded, folded ∈ foldings prefixes ↔ folded ∈ foldings prefixes') :
    isImportant prefixes name = isImportant prefixes' name' := by
  rw [Bool.eq_iff_iff, isImportant_iff, isImportant_iff, hname]
  simp only [hp]

theorem isImportant_append {p : String} (hp : p ∈ prefixes) (hne : p ≠ "") (rest : String) :
    isImportant prefixes (p ++ rest) = true := by
  refine isImportant_iff.mpr ⟨caseFold p, mem_foldings.mpr ⟨p, hp, hne, rfl⟩, foldChars rest.toList, ?_⟩
  rw [toList_caseFold, toList_caseFold, String.toList_append, foldChars_append]

theorem isImportant_empty (prefixes : List String) : isImportant prefixes "" = false := rfl

theorem isImportant_of_foldings_nil (h : foldings prefixes = []) (name : String) :
    isImportant prefixes name = false := by
  rw [Bool.eq_false_iff, Ne, isImportant_iff, h]
  simp

/-- Importance is a matter of folded texts: it is the same for names that fold to the same and for prefixes of which
the same is left. A name that begins with a prefix is important; the empty name never is, and no name is if all prefixes
are empty. -/
theorem isImportant_folded (prefixes : List String) :
    (∀ name name' prefixes', caseFold name = caseFold name' →
      (∀ folded, folded ∈ foldings prefixes ↔ folded ∈ foldings prefixes') →
      isImportant prefixes name = isImportant prefixes' name') ∧
    (∀ p ∈ prefixes, p ≠ "" → ∀ rest, isImportant prefixes (p ++ rest) = true) ∧
    isImportant prefixes "" = false ∧
    ((∀ p ∈ prefixes, p = "") → ∀ name, isImportant prefixes name = false) := by
  refine ⟨fun name name' prefixes' hname hp => isImportant_congr hname hp,
    fun p hp hne rest => isImportant_append hp hne rest, isImportant_empty prefixes, fun hall name => ?_⟩
  have hnil : foldings prefixes = [] := by simpa [foldings] using hall
  exact isImportant_of_foldings_nil hnil name

theorem isImportant_folded_sharp :
    caseFold "Straße.Core" = caseFold "STRASSE.core" ∧
    isImportant ["Straße", "", "ﬁne"] "Straße.Core" = isImportant ["FINE", "strasse", "ﬁne"] "STRASSE.core" ∧
    isImportant ["Straße", "", "ﬁne"] ("ﬁne" ++ ".dll") = true ∧
    isImportant ["", ""] "Straße" = false := by
  have hname : caseFold "Straße.Core" = caseFold "STRASSE.core" := by decide +kernel
  have hleft : foldings ["Straße", "", "ﬁne"] = ["strasse", "fine"] := by decide +kernel
  have hleft' : foldings ["FINE", "strasse", "ﬁne"] = ["fine", "strasse", "fine"] := by decide +kernel
  have hp : ∀ folded, folded ∈ foldings ["Straße", "", "ﬁne"] ↔ folded ∈ foldings ["FINE", "strasse", "ﬁne"] := by
    intro folded
    simp only [hleft, hleft', List.mem_cons, List.not_mem_nil, or_false]
    grind
  obtain ⟨hcongr, happend, -, -⟩ := isImportant_folded ["Straße", "", "ﬁne"]
  exact ⟨hname, hcongr _ _ _ hname hp, happend "ﬁne" (by decide) (by decide) ".dll",
    (isImportant_folded ["", ""]).2.2.2 (by decide) "Straße"⟩

end Winnow.Importance
