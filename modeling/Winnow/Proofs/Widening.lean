import Winnow.Proofs.RulesInForce

/-!
What more settings do to a classifier. With more prefixes, more patterns or fewer disabled rules every name that was
generated still is, but for one case: a pattern that is added takes the next number, and a rule from outside that has
this number for its name is in force no longer.
-/
set_option autoImplicit false

namespace Winnow

namespace Text

theorem lowerChars_of_plain {before cs : List Char}
    (h : ∀ c ∈ cs, c.toNat < 128 ∧ ¬ (0x41 ≤ c.toNat ∧ c.toNat ≤ 0x5A)) : lowerChars before cs = cs := by
  have hcode : ∀ n < 128, ¬ (0x41 ≤ n ∧ n ≤ 0x5A) → lowerCode n = n := by decide +kernel
  induction cs generalizing before with
  | nil => rfl
  | cons c cs ih =>
    obtain ⟨⟨hascii, hsmall⟩, hcs⟩ := List.forall_mem_cons.mp h
    have hdot : c.toNat ≠ 0x130 := by omega
    have hsigma : c.toNat ≠ 0x3A3 := by omega
    simp [lowerChars, lowerChar, hdot, hsigma, hcode _ hascii hsmall, ih hcs]

end Text

namespace RuleSet
open Text

variable {disabled seen : List String} {s t : RuleSettings} {plugins : List Plugin}
  {before added after rules wider : List Rule} {r : Rule}

theorem toList_patternName (number : Nat) : (patternName number).toList = "pattern-".toList ++ Nat.toDigits 10 number := by
  simp only [patternName, Nat.toString_eq_repr, Nat.repr_eq_ofList_toDigits, String.toList_append, String.toList_ofList]
  rfl

theorem key_patternName (number : Nat) : key (patternName number) = patternName number := by
  have hplain : ∀ c ∈ (patternName number).toList, c.toNat < 128 ∧ ¬ (0x41 ≤ c.toNat ∧ c.toNat ≤ 0x5A) := by
    intro c hc
    rw [toList_patternName] at hc
    rcases List.mem_append.mp hc with hc | hc
    · have hletters : ∀ c ∈ "pattern-".toList, c.toNat < 128 ∧ ¬ (0x41 ≤ c.toNat ∧ c.toNat ≤ 0x5A) := by simp
      exact hletters c hc
    · have hdigit := Nat.isDigit_of_mem_toDigits (by decide) (by decide) hc
      simp only [Char.isDigit, Bool.and_eq_true, decide_eq_true_eq, ge_iff_le, UInt32.le_iff_toNat_le] at hdigit
      have hlow : 48 ≤ c.toNat := hdigit.1
      have hhigh : c.toNat ≤ 57 := hdigit.2
      omega
  rw [key, lowerCase, lowerChars_of_plain hplain, String.ofList_toList]

theorem patternName_inj {m n : Nat} : patternName m = patternName n ↔ m = n := by
  refine ⟨fun h => ?_, fun h => h ▸ rfl⟩
  have hdigits : Nat.toDigits 10 m = Nat.toDigits 10 n := by
    have := congrArg String.toList h
    simpa only [toList_patternName, List.append_cancel_left_eq] using this
  have hvalue := congrArg (Nat.ofDigitChars 10 · 0) hdigits
  simpa only [Nat.ofDigitChars_toDigits (by decide : 1 < 10) (by decide : 10 ≤ 10)] using hvalue

theorem patternRules_append {first : Nat} {sources others : List CodeText}
    (h : patternRules first (sources ++ others) = .ok rules) :
    ∃ own more, patternRules first sources = .ok own ∧ patternRules (first + sources.length) others = .ok more ∧
      rules = own ++ more := by
  induction sources generalizing first rules with
  | nil => exact ⟨[], rules, rfl, h, rfl⟩
  | cons source rest ih =>
    rw [List.cons_append] at h
    unfold patternRules at h
    cases hread : Pattern.read source with
    | error e =>
      rw [hread] at h
      cases h
    | ok p =>
      simp only [hread] at h
      obtain ⟨all, hall, hrules⟩ := exists_of_bind h
      cases hrules
      obtain ⟨own, more, hown, hmore, rfl⟩ := ih hall
      have hlen : first + 1 + rest.length = first + (source :: rest).length := by
        rw [List.length_cons]
        omega
      refine ⟨.ofPattern (patternName first) p :: own, more, ?_, hlen ▸ hmore, rfl⟩
      simp only [patternRules, hread, hown]
      rfl

/-- That `w` has the name of `r` and flags what `r` does. -/
structure Covers (r w : Rule) : Prop where
  name : w.name = r.name
  accepts : ∀ typeName, r.accepts typeName = true → w.accepts typeName = true

theorem Covers.refl (r : Rule) : Covers r r := ⟨rfl, fun _ h => h⟩

theorem covers_builtins {prefixes more : List String} (h : prefixes <+: more) :
    List.Forall₂ Covers (Rule.builtins prefixes) (Rule.builtins more) := by
  have hprefix : Covers (.literalPrefix (Rule.defaultPrefixes ++ prefixes))
      (.literalPrefix (Rule.defaultPrefixes ++ more)) := by
    refine ⟨rfl, fun typeName ha => ?_⟩
    simp only [Rule.literalPrefix, List.any_eq_true] at ha ⊢
    obtain ⟨p, hp, ha⟩ := ha
    rw [List.mem_append] at hp
    exact ⟨p, List.mem_append.mpr (hp.imp_right (h.subset ·)), ha⟩
  exact .cons hprefix (List.forall₂_same.mpr fun r _ => Covers.refl r)

theorem exists_covers_of_mem_keep (h : List.Forall₂ Covers rules wider) (hr : r ∈ keep disabled seen rules) :
    ∃ w ∈ keep disabled seen wider, Covers r w := by
  induction h generalizing seen with
  | nil => cases hr
  | @cons a b rules wider hab _ ih =>
    simp only [keep, hab.name] at hr ⊢
    split at hr
    · next hdrop =>
      rw [if_pos hdrop]
      exact ih hr
    · next hstay =>
      rw [if_neg hstay]
      rcases List.mem_cons.mp hr with rfl | hr
      · exact ⟨b, List.mem_cons_self, hab⟩
      · obtain ⟨w, hw, hrw⟩ := ih hr
        exact ⟨w, List.mem_cons_of_mem _ hw, hrw⟩

theorem mem_standing_of_subset {fewer : List String} (h : fewer ⊆ disabled) (hr : r ∈ standing disabled rules) :
    r ∈ standing fewer rules := by
  obtain ⟨hd, hplace⟩ := mem_standing.mp hr
  exact mem_standing.mpr ⟨fun hf => hd (h hf), hplace⟩

/-- Candidates that come between others displace none but those of their own names. -/
theorem mem_standing_insert (hadded : ∀ a ∈ added, key a.name ≠ key r.name)
    (hr : r ∈ standing disabled (before ++ after)) : r ∈ standing disabled (before ++ added ++ after) := by
  obtain ⟨hd, front, back, hsplit, hfirst⟩ := mem_standing.mp hr
  refine mem_standing.mpr ⟨hd, ?_⟩
  rcases List.append_eq_append_iff.mp hsplit with ⟨mid, rfl, rfl⟩ | ⟨mid, rfl, hafter⟩
  · refine ⟨before ++ added ++ mid, back, by simp, fun a ha => ?_⟩
    rw [List.append_assoc, List.mem_append, List.mem_append] at ha
    rcases ha with ha | ha | ha
    · exact hfirst a (List.mem_append_left _ ha)
    · exact hadded a ha
    · exact hfirst a (List.mem_append_right _ ha)
  · cases mid with
    | nil =>
      obtain rfl : r :: back = after := hafter
      refine ⟨front ++ added, back, by simp, fun a ha => ?_⟩
      rcases List.mem_append.mp ha with ha | ha
      · exact hfirst a ha
      · exact hadded a ha
    | cons a mid =>
      obtain ⟨rfl, rfl⟩ := List.cons.inj hafter
      exact ⟨front, mid ++ added ++ after, by simp, hfirst⟩

theorem key_builtins_ne_patternName {prefixes : List String} (hr : r ∈ Rule.builtins prefixes) (number : Nat) :
    key r.name ≠ patternName number := by
  have hkeys : ∀ k ∈ (Rule.builtins []).map (key ·.name), k.toList.head? ≠ some 'p' := by decide +kernel
  have hmem : key r.name ∈ (Rule.builtins []).map (key ·.name) :=
    (List.mem_map_of_mem hr : key r.name ∈ (Rule.builtins prefixes).map (key ·.name))
  intro he
  refine hkeys _ hmem ?_
  rw [he, patternName, String.toList_append]
  rfl

/-- That a rule comes from outside and has the name of a pattern with a number above `least`, up to `most`. -/
def Displaced (plugins : List Plugin) (least most : Nat) (r : Rule) : Prop :=
  (∃ p ∈ plugins, p.rule = .ok r) ∧ ∃ number, least < number ∧ number ≤ most ∧ key r.name = patternName number

theorem key_ne_of_added {patterns offered added : List Rule} {others : List CodeText}
    (hpatterns : patternRules 1 s.extraPatterns = .ok patterns) (hoffered : plugins.mapM Plugin.rule = .ok offered)
    (hadded : patternRules (1 + s.extraPatterns.length) others = .ok added)
    (hr : r ∈ Rule.builtins s.extraPrefixes ++ patterns ++ offered)
    (hstays : ¬ Displaced plugins s.extraPatterns.length (s.extraPatterns.length + others.length) r) :
    ∀ a ∈ added, key a.name ≠ key r.name := by
  intro a ha he
  obtain ⟨number, hlow, hhigh, hname⟩ := exists_number_of_patternRules hadded ha
  rw [hname, key_patternName] at he
  rcases List.mem_append.mp hr with hr | hr
  · rcases List.mem_append.mp hr with hr | hr
    · exact key_builtins_ne_patternName hr number he.symm
    · obtain ⟨number', -, hhigh', hown⟩ := exists_number_of_patternRules hpatterns hr
      rw [hown, key_patternName, patternName_inj] at he
      omega
  · exact hstays ⟨(mem_of_mapM hoffered).mp hr, number, by omega, by omega, he.symm⟩

/-- Let one classifier's settings be another's with prefixes and patterns added and with fewer disabled names. A name
that a rule of the other one flags is generated for this one too, unless that rule comes from outside and has, but for
case, the name of one of the patterns that were added. -/
theorem generated_mono {typeName : String} (hprefixes : s.extraPrefixes <+: t.extraPrefixes)
    (hpatterns : s.extraPatterns <+: t.extraPatterns) (hdisabled : t.disabled ⊆ s.disabled)
    (hs : discover s plugins = .ok rules) (ht : discover t plugins = .ok wider)
    (hr : r ∈ rules) (ha : r.accepts typeName = true)
    (hstays : ¬ Displaced plugins s.extraPatterns.length t.extraPatterns.length r) :
    (Classifier.mk wider).isGenerated typeName = true := by
  obtain ⟨all, hall, rfl⟩ := keep_of_discover hs
  obtain ⟨all', hall', rfl⟩ := keep_of_discover ht
  obtain ⟨patterns, offered, hown, hoffered, rfl⟩ := parts_of_candidates hall
  obtain ⟨patterns', offered', hown', hoffered', rfl⟩ := parts_of_candidates hall'
  cases hoffered.symm.trans hoffered'
  obtain ⟨others, hothers⟩ := hpatterns
  rw [← hothers] at hown' hstays
  obtain ⟨same, added, hsame, hadded, rfl⟩ := patternRules_append hown'
  cases hown.symm.trans hsame
  rw [List.length_append] at hstays
  have hkeys := key_ne_of_added hown hoffered hadded (mem_of_keep r hr) hstays
  rw [keep_eq_standing] at hr
  have hfewer : r ∈ standing (t.disabled.map key) (Rule.builtins s.extraPrefixes ++ patterns ++ offered) :=
    mem_standing_of_subset (List.map_subset _ hdisabled) hr
  have hinserted := mem_standing_insert hkeys hfewer
  have hcovers : List.Forall₂ Covers (Rule.builtins s.extraPrefixes ++ patterns ++ added ++ offered)
      (Rule.builtins t.extraPrefixes ++ (patterns ++ added) ++ offered) := by
    have hrest : List.Forall₂ Covers (patterns ++ added ++ offered) (patterns ++ added ++ offered) :=
      List.forall₂_same.mpr fun r _ => Covers.refl r
    simpa only [List.append_assoc] using List.rel_append (covers_builtins hprefixes) hrest
  rw [← keep_eq_standing] at hinserted
  obtain ⟨w, hw, hcover⟩ := exists_covers_of_mem_keep hcovers hinserted
  simp only [Classifier.isGenerated, Classifier.match?, Option.isSome_map, List.find?_isSome]
  exact ⟨w, hw, hcover.accepts typeName ha⟩

def proxies (name : String) : Plugin :=
  Plugin.offering ("proxy", ⟨name, fun typeName => "Proxy".toList.isSuffixOf typeName.toList⟩)

def mockPattern : RuleSettings := { extraPatterns := [CodeText.ofString "Mock"] }

theorem generated_mono_proxies : ∃ rules wider r,
    discover { disabled := ["State-Machine"] } [proxies "proxy-suffix"] = .ok rules ∧
      discover mockPattern [proxies "proxy-suffix"] = .ok wider ∧ r ∈ rules ∧ r.accepts "PlayerProxy" = true ∧
      ¬ Displaced [proxies "proxy-suffix"] 0 1 r ∧ (Classifier.mk wider).isGenerated "PlayerProxy" = true := by
  obtain ⟨rules, hs⟩ := exists_of_isOk
    (x := discover { disabled := ["State-Machine"] } [proxies "proxy-suffix"]) (by decide +kernel)
  obtain ⟨wider, ht⟩ := exists_of_isOk (x := discover mockPattern [proxies "proxy-suffix"]) (by decide +kernel)
  have hfind : (rules.find? (·.accepts "PlayerProxy")).map (·.name) = some "proxy-suffix" := by
    have : ((discover { disabled := ["State-Machine"] } [proxies "proxy-suffix"]).map fun rules =>
        (rules.find? (·.accepts "PlayerProxy")).map (·.name)).toOption = some (some "proxy-suffix") := by decide +kernel
    simpa [hs, Except.map, Except.toOption] using this
  obtain ⟨r, hr, hname⟩ := Option.map_eq_some_iff.mp hfind
  have hstays : ¬ Displaced [proxies "proxy-suffix"] 0 1 r := by
    rintro ⟨-, number, hlow, hhigh, hkey⟩
    have hone : number = 1 := by omega
    rw [hname, hone] at hkey
    revert hkey
    decide +kernel
  have hmem := List.mem_of_find?_eq_some hr
  have haccepts := List.find?_some hr
  have hfewer : mockPattern.disabled ⊆ ["State-Machine"] := List.nil_subset _
  exact ⟨rules, wider, r, hs, ht, hmem, haccepts, hstays,
    generated_mono (s := { disabled := ["State-Machine"] }) (t := mockPattern) (List.prefix_refl _) List.nil_prefix
      hfewer hs ht hmem haccepts hstays⟩

/-- A plug-in that has the name of the first pattern is in force no longer once there is a pattern. -/
theorem proxies_displaced :
    ¬ ∀ (s t : RuleSettings) (plugins : List Plugin) (rules wider : List Rule),
      s.extraPrefixes <+: t.extraPrefixes → s.extraPatterns <+: t.extraPatterns → t.disabled ⊆ s.disabled →
      discover s plugins = .ok rules → discover t plugins = .ok wider →
      ∀ typeName, (Classifier.mk rules).isGenerated typeName = true → (Classifier.mk wider).isGenerated typeName = true := by
  intro hmono
  obtain ⟨rules, hs⟩ := exists_of_isOk (x := discover {} [proxies "pattern-1"]) (by decide +kernel)
  obtain ⟨wider, ht⟩ := exists_of_isOk (x := discover mockPattern [proxies "pattern-1"]) (by decide +kernel)
  have hbefore : ((discover {} [proxies "pattern-1"]).map fun rules =>
      (Classifier.mk rules).isGenerated "PlayerProxy").toOption = some true := by decide +kernel
  have hafter : ((discover mockPattern [proxies "pattern-1"]).map fun rules =>
      (Classifier.mk rules).isGenerated "PlayerProxy").toOption = some false := by decide +kernel
  have hgenerated := hmono {} mockPattern _ rules wider (List.prefix_refl _) List.nil_prefix (by decide) hs ht
    "PlayerProxy" (by simpa [hs, Except.map, Except.toOption] using hbefore)
  simp [ht, Except.map, Except.toOption, hgenerated] at hafter

end RuleSet

end Winnow
