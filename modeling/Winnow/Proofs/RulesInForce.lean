import Winnow.Proofs.Agreement
import Winnow.Proofs.BuiltinRules
import Winnow.Proofs.Staleness

/-!
Which rules are in force. The candidates are the built-in rules, the configured patterns by number, and the rules
from outside; a candidate is in force if its key is neither disabled nor that of a candidate before it. A disabled
name that no candidate has is an error, and all such names are told.
-/
set_option autoImplicit false

namespace Winnow

theorem nodup_eraseDups {α : Type} [BEq α] [LawfulBEq α] (xs : List α) : xs.eraseDups.Nodup := by
  induction hlen : xs.length using Nat.strongRecOn generalizing xs with
  | _ len ih =>
    cases xs with
    | nil => simp
    | cons x xs =>
      have hshort : (xs.filter fun y => !y == x).length < len := by
        have := List.length_filter_le (fun y => !y == x) xs
        rw [← hlen, List.length_cons]
        omega
      rw [List.eraseDups_cons, List.nodup_cons]
      exact ⟨by simp [List.mem_eraseDups], ih _ hshort _ rfl⟩

/-- What a rule from outside is in force as: one without a name has that of its entry. -/
def offered (offer : String × Rule) : Rule :=
  if offer.2.name = "" then { offer.2 with name := offer.1 } else offer.2

/-- The plug-in that offers a rule under an entry. -/
def Plugin.offering (offer : String × Rule) : Plugin := ⟨offer.1, .ok (some offer.2)⟩

theorem Plugin.rule_offering (offer : String × Rule) : (offering offer).rule = .ok (offered offer) := by
  simp [rule, offering, offered, String.isEmpty_iff]

namespace RuleSet
open Text

variable {disabled seen : List String} {rules : List Rule} {settings : RuleSettings} {patterns : List Pattern}

/-- The rules that stand among candidates: each whose key is neither disabled nor that of a candidate before it. -/
def standing (disabled : List String) (rules : List Rule) : List Rule :=
  (rules.zipIdx.filter fun (r, i) =>
    key r.name ∉ disabled ∧ ∀ s ∈ rules.take i, key s.name ≠ key r.name).map (·.1)

/-- That `seen` holds the keys of the candidates so far. Those that are disabled need not be among them. -/
def Remembers (disabled seen : List String) (before : List Rule) : Prop :=
  ∀ k, k ∉ disabled → (k ∈ seen ↔ ∃ s ∈ before, key s.name = k)

theorem remembers_nil : Remembers disabled [] [] := by simp [Remembers]

theorem Remembers.pass {before : List Rule} {r : Rule} (h : Remembers disabled seen before)
    (hr : key r.name ∈ disabled ∨ key r.name ∈ seen) : Remembers disabled seen (before ++ [r]) := by
  intro k hk
  have hold : key r.name = k → k ∈ seen := by
    rintro rfl
    exact hr.resolve_left hk
  simp only [List.mem_append, List.mem_singleton, or_and_right, exists_or, exists_eq_left, ← h k hk]
  exact ⟨.inl, fun h => h.elim id hold⟩

theorem Remembers.add {before : List Rule} (h : Remembers disabled seen before) (r : Rule) :
    Remembers disabled (key r.name :: seen) (before ++ [r]) := by
  intro k hk
  simp only [List.mem_cons, List.mem_append, List.not_mem_nil, or_false, or_and_right, exists_or, exists_eq_left,
    h k hk]
  rw [or_comm, eq_comm]

theorem Remembers.stands_iff {before : List Rule} (h : Remembers disabled seen before) (r : Rule) :
    (key r.name ∉ disabled ∧ ∀ s ∈ before, key s.name ≠ key r.name) ↔
      ¬ (key r.name ∈ disabled ∨ key r.name ∈ seen) := by
  rw [not_or]
  refine and_congr_right fun hd => ?_
  rw [h _ hd]
  simp

theorem keep_eq_filter {before : List Rule} (h : Remembers disabled seen before) :
    keep disabled seen rules = ((rules.zipIdx before.length).filter fun (r, i) =>
      key r.name ∉ disabled ∧ ∀ s ∈ (before ++ rules).take i, key s.name ≠ key r.name).map (·.1) := by
  induction rules generalizing seen before with
  | nil => rfl
  | cons r rest ih =>
    have happ : before ++ r :: rest = (before ++ [r]) ++ rest := by simp
    have hlen : before.length + 1 = (before ++ [r]).length := by simp
    have htake : ((before ++ [r]) ++ rest).take before.length = before := by simp
    have hstands := h.stands_iff r
    rw [← htake] at hstands
    rw [List.zipIdx_cons, hlen, happ]
    by_cases hr : key r.name ∈ disabled ∨ key r.name ∈ seen
    · have hnot := mt hstands.mp (not_not_intro hr)
      rw [List.filter_cons_of_neg (by rwa [decide_eq_true_iff]), ← ih (h.pass hr)]
      simp [keep, hr]
    · have hstay := hstands.mpr hr
      rw [List.filter_cons_of_pos (by rwa [decide_eq_true_iff]), List.map_cons, ← ih (h.add r)]
      simp [keep, hr]

theorem keep_eq_standing (disabled : List String) (rules : List Rule) :
    keep disabled [] rules = standing disabled rules :=
  keep_eq_filter remembers_nil

theorem mem_standing {r : Rule} : r ∈ standing disabled rules ↔
    key r.name ∉ disabled ∧ ∃ before after, rules = before ++ r :: after ∧ ∀ s ∈ before, key s.name ≠ key r.name := by
  simp only [standing, List.mem_map, List.mem_filter, Prod.exists, decide_eq_true_eq]
  constructor
  · rintro ⟨_, i, ⟨hi, hd, hbefore⟩, rfl⟩
    obtain ⟨hlt, rfl⟩ := List.getElem?_eq_some_iff.mp (List.mk_mem_zipIdx_iff_getElem?.mp hi)
    exact ⟨hd, rules.take i, rules.drop (i + 1), by simp, hbefore⟩
  · rintro ⟨hd, before, after, rfl, hbefore⟩
    exact ⟨r, before.length, ⟨List.mk_mem_zipIdx_iff_getElem?.mpr (by simp), hd, by simpa using hbefore⟩, rfl⟩

theorem pairwise_keep (disabled : List String) (rules : List Rule) (seen : List String) :
    (∀ r ∈ keep disabled seen rules, key r.name ∉ seen) ∧
      (keep disabled seen rules).Pairwise fun r s => key r.name ≠ key s.name := by
  induction rules generalizing seen with
  | nil => simp [keep]
  | cons r rest ih =>
    by_cases hr : key r.name ∈ disabled ∨ key r.name ∈ seen
    · simpa [keep, hr] using ih seen
    · obtain ⟨hfresh, hpair⟩ := ih (key r.name :: seen)
      have hkeep : keep disabled seen (r :: rest) = r :: keep disabled (key r.name :: seen) rest := by
        simp [keep, hr]
      rw [hkeep, List.forall_mem_cons, List.pairwise_cons]
      refine ⟨⟨fun hs => hr (.inr hs), fun s hs hseen => hfresh s hs (List.mem_cons_of_mem _ hseen)⟩,
        fun s hs he => hfresh s hs (he ▸ List.mem_cons_self), hpair⟩

theorem nodup_keys_builtins (prefixes : List String) : ((Rule.builtins prefixes).map fun r => key r.name).Nodup := by
  have hkeys : ((Rule.builtins prefixes).map fun r => key r.name) = (Rule.builtins []).map (·.name) := by
    have : ((Rule.builtins []).map fun r => key r.name) = (Rule.builtins []).map (·.name) := by decide +kernel
    exact this
  rw [hkeys]
  show ((Rule.builtins []).map (·.name)).Nodup
  decide

theorem builtin_mem_standing {prefixes : List String} {more : List Rule} {r : Rule} (hr : r ∈ Rule.builtins prefixes)
    (hd : key r.name ∉ disabled) : r ∈ standing disabled (Rule.builtins prefixes ++ more) := by
  obtain ⟨before, after, hsplit⟩ := List.append_of_mem hr
  have hnodup := nodup_keys_builtins prefixes
  rw [hsplit, List.map_append, List.map_cons, List.nodup_append] at hnodup
  refine mem_standing.mpr ⟨hd, before, after ++ more, by simp [hsplit], fun s hs => ?_⟩
  exact hnodup.2.2 _ (List.mem_map_of_mem hs) _ List.mem_cons_self

theorem mem_unknown {k : String} : k ∈ unknown disabled rules ↔ k ∈ disabled ∧ ∀ r ∈ rules, key r.name ≠ k := by
  simp [unknown, List.mem_mergeSort, List.mem_eraseDups]

theorem pairwise_unknown (disabled : List String) (rules : List Rule) : (unknown disabled rules).Pairwise (· < ·) := by
  have hsorted : (unknown disabled rules).Pairwise (· ≤ ·) := Outputs.sorted_names _
  have hnodup : (unknown disabled rules).Nodup := (List.mergeSort_perm _ _).nodup_iff.mpr (nodup_eraseDups _)
  exact (hsorted.and hnodup).imp fun h => Std.lt_of_le_of_ne h.1 h.2

def numbered (first : Nat) (patterns : List Pattern) : List Rule :=
  (patterns.zipIdx first).map fun (p, i) => .ofPattern (patternName i) p

theorem patternRules_eq_ok {first : Nat} {sources : List CodeText} {patterns : List Pattern}
    (h : List.Forall₂ (fun source p => Pattern.read source = .ok p) sources patterns) :
    patternRules first sources = .ok (numbered first patterns) := by
  induction h generalizing first with
  | nil => rfl
  | cons hp _ ih =>
    simp only [patternRules, hp, ih, bind, Except.bind, pure, Except.pure, numbered, List.zipIdx_cons, List.map_cons]
    rfl

theorem candidates_offering (offers : List (String × Rule))
    (h : List.Forall₂ (fun source p => Pattern.read source = .ok p) settings.extraPatterns patterns) :
    candidates settings (offers.map Plugin.offering) =
      .ok (Rule.builtins settings.extraPrefixes ++ numbered 1 patterns ++ offers.map offered) := by
  have hplugins : (offers.map Plugin.offering).mapM Plugin.rule = .ok (offers.map offered) := by
    induction offers with
    | nil => rfl
    | cons o rest ih =>
      rw [List.map_cons, List.mapM_cons, Plugin.rule_offering, ih]
      rfl
  unfold candidates
  rw [patternRules_eq_ok h, hplugins]
  rfl

theorem discover_of_candidates {plugins : List Plugin} (h : candidates settings plugins = .ok rules) :
    discover settings plugins =
      if unknown (settings.disabled.map key) rules = [] then .ok (standing (settings.disabled.map key) rules)
      else .error (.unknownDisabled (unknown (settings.disabled.map key) rules)) := by
  unfold discover
  rw [h, ← keep_eq_standing]
  simp only [bind, Except.bind]
  split <;> simp_all [pure, Except.pure, throw, throwThe, MonadExceptOf.throw]

theorem unknown_eq_nil_iff : unknown disabled rules = [] ↔ ∀ k ∈ disabled, ∃ r ∈ rules, key r.name = k := by
  rw [List.eq_nil_iff_forall_not_mem]
  simp [mem_unknown]

/-- With patterns that can be read and plug-ins that load, the rules in force are the candidates that stand, so that
no two of them have one name, whatever its case, and a built-in rule is missing only if it is disabled. If a disabled
name is that of no candidate, all names of which this is true are told instead, in order and each once. -/
theorem discover_standing (offers : List (String × Rule))
    (hread : List.Forall₂ (fun source p => Pattern.read source = .ok p) settings.extraPatterns patterns) :
    let rules := Rule.builtins settings.extraPrefixes ++ numbered 1 patterns ++ offers.map offered
    let disabled := settings.disabled.map key
    ((∀ k ∈ disabled, ∃ r ∈ rules, key r.name = k) →
      discover settings (offers.map Plugin.offering) = .ok (standing disabled rules) ∧
      (standing disabled rules).Pairwise (fun r s => key r.name ≠ key s.name) ∧
      ∀ r ∈ Rule.builtins settings.extraPrefixes, key r.name ∉ disabled → r ∈ standing disabled rules) ∧
    ((¬ ∀ k ∈ disabled, ∃ r ∈ rules, key r.name = k) → ∃ names,
      discover settings (offers.map Plugin.offering) = .error (.unknownDisabled names) ∧
      names.Pairwise (· < ·) ∧ (∀ k, k ∈ names ↔ k ∈ disabled ∧ ∀ r ∈ rules, key r.name ≠ k) ∧
      (RuleSetError.unknownDisabled names).message =
        "Unknown rules cannot be disabled: " ++ ", ".intercalate names) := by
  intro rules disabled
  have hdiscover := discover_of_candidates (candidates_offering offers hread)
  refine ⟨fun hknown => ⟨?_, ?_, fun r hr hd => ?_⟩, fun hsome => ⟨unknown disabled rules, ?_, ?_, ?_, rfl⟩⟩
  · rw [hdiscover, if_pos (unknown_eq_nil_iff.mpr hknown)]
  · rw [← keep_eq_standing]
    exact (pairwise_keep disabled rules []).2
  · have hmem : r ∈ standing disabled (Rule.builtins settings.extraPrefixes ++
        (numbered 1 patterns ++ offers.map offered)) := builtin_mem_standing hr hd
    rwa [← List.append_assoc] at hmem
  · rw [hdiscover, if_neg (mt unknown_eq_nil_iff.mp hsome)]
  · exact pairwise_unknown disabled rules
  · exact fun k => mem_unknown

def mockSettings : RuleSettings where
  extraPrefixes := ["Unity"]
  extraPatterns := [CodeText.ofString "Mock"]
  disabled := ["Local-Function"]

def mockOffers : List (String × Rule) :=
  [("proxy", ⟨"", fun name => "Proxy".toList.isSuffixOf name.toList⟩), ("again", ⟨"Pattern-1", fun _ => true⟩)]

theorem discover_standing_mock : ∃ rules, discover mockSettings (mockOffers.map Plugin.offering) = .ok rules ∧
    (rules.Pairwise fun r s => key r.name ≠ key s.name) ∧
    rules.map (·.name) = ["literal-prefix", "embedded-guid", "state-machine", "fixed-buffer", "anon-storey",
      "legacy-iterator", "compiler-attribute", "pattern-1", "proxy"] := by
  obtain ⟨p, hread⟩ := exists_of_isOk (x := Pattern.read (CodeText.ofString "Mock")) (by decide +kernel)
  have hpatterns : List.Forall₂ (fun source p => Pattern.read source = .ok p) mockSettings.extraPatterns [p] :=
    .cons hread .nil
  have hbuiltin : ∀ k ∈ mockSettings.disabled.map key, ∃ r ∈ Rule.builtins mockSettings.extraPrefixes,
      key r.name = k := by
    decide +kernel
  have hknown : ∀ k ∈ mockSettings.disabled.map key, ∃ r ∈ Rule.builtins mockSettings.extraPrefixes ++
      numbered 1 [p] ++ mockOffers.map offered, key r.name = k := by
    intro k hk
    obtain ⟨r, hr, he⟩ := hbuiltin k hk
    exact ⟨r, List.mem_append_left _ (List.mem_append_left _ hr), he⟩
  obtain ⟨hdiscover, hpair, -⟩ := (discover_standing mockOffers hpatterns).1 hknown
  have hnames : ((discover mockSettings (mockOffers.map Plugin.offering)).map fun rules =>
      rules.map (·.name)).toOption = some ["literal-prefix", "embedded-guid", "state-machine", "fixed-buffer",
        "anon-storey", "legacy-iterator", "compiler-attribute", "pattern-1", "proxy"] := by
    decide +kernel
  rw [hdiscover] at hnames
  exact ⟨_, hdiscover, hpair, Option.some.inj hnames⟩

end RuleSet

end Winnow
