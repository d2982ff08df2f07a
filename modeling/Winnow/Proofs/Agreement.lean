import Winnow.CommandLine.Execution
import Winnow.Proofs.Conservation

/-!
The verdict on a type name is the same wherever it is asked for: on the command line, by a classifier, and in a run.
The command line takes a rule without a name for no rule; this makes no difference, since no rule in force lacks one.
-/
set_option autoImplicit false

namespace Winnow

namespace RuleSet

theorem name_of_builtins {prefixes : List String} : ∀ r ∈ Rule.builtins prefixes, r.name ≠ "" := by
  intro r hr
  have hnames : r.name ∈ (Rule.builtins []).map (·.name) :=
    (List.mem_map_of_mem hr : r.name ∈ (Rule.builtins prefixes).map (·.name))
  have hne : ∀ name ∈ (Rule.builtins []).map (·.name), name ≠ "" := by decide
  exact hne _ hnames

def patternName (number : Nat) : String := s!"pattern-{number}"

theorem names_of_patternRules {first : Nat} {sources : List Text.CodeText} {rules : List Rule}
    (h : patternRules first sources = .ok rules) :
    rules.map (·.name) = (List.range' first sources.length).map patternName := by
  induction sources generalizing first rules with
  | nil =>
    cases h
    rfl
  | cons source rest ih =>
    unfold patternRules at h
    split at h
    · cases h
    · obtain ⟨more, hmore, hrules⟩ := exists_of_bind h
      cases hrules
      rw [List.length_cons, List.range'_succ, List.map_cons, List.map_cons, ih hmore]
      rfl

theorem exists_number_of_patternRules {first : Nat} {sources : List Text.CodeText} {rules : List Rule} {r : Rule}
    (h : patternRules first sources = .ok rules) (hr : r ∈ rules) :
    ∃ number, first ≤ number ∧ number < first + sources.length ∧ r.name = patternName number := by
  have hname : r.name ∈ rules.map (·.name) := List.mem_map_of_mem hr
  rw [names_of_patternRules h] at hname
  obtain ⟨number, hnumber, hname⟩ := List.mem_map.mp hname
  obtain ⟨hlow, hhigh⟩ := List.mem_range'_1.mp hnumber
  exact ⟨number, hlow, hhigh, hname.symm⟩

theorem name_of_plugin {p : Plugin} {r : Rule} (hp : p.entry ≠ "") (h : p.rule = .ok r) : r.name ≠ "" := by
  unfold Plugin.rule at h
  split at h
  · cases h
  · cases h
  · next loaded _ =>
    cases h
    split
    · exact hp
    · next hname => simpa using hname

theorem mem_of_keep {disabled seen : List String} {rules : List Rule} : ∀ r ∈ keep disabled seen rules, r ∈ rules := by
  induction rules generalizing seen with
  | nil => simp [keep]
  | cons rule rest ih =>
    intro r hr
    unfold keep at hr
    split at hr
    · exact List.mem_cons_of_mem _ (ih r hr)
    · rcases List.mem_cons.mp hr with rfl | hr
      · exact List.mem_cons_self
      · exact List.mem_cons_of_mem _ (ih r hr)

theorem parts_of_candidates {settings : RuleSettings} {plugins : List Plugin} {rules : List Rule}
    (h : candidates settings plugins = .ok rules) : ∃ patterns added,
      patternRules 1 settings.extraPatterns = .ok patterns ∧ plugins.mapM Plugin.rule = .ok added ∧
      rules = Rule.builtins settings.extraPrefixes ++ patterns ++ added := by
  obtain ⟨patterns, hpatterns, h⟩ := exists_of_bind h
  obtain ⟨added, hadded, h⟩ := exists_of_bind h
  cases h
  exact ⟨patterns, added, hpatterns, hadded, rfl⟩

theorem keep_of_discover {settings : RuleSettings} {plugins : List Plugin} {rules : List Rule}
    (h : discover settings plugins = .ok rules) :
    ∃ all, candidates settings plugins = .ok all ∧ rules = keep (settings.disabled.map key) [] all := by
  unfold discover at h
  obtain ⟨all, hall, h⟩ := exists_of_bind h
  simp only at h
  split at h
  · cases h
    exact ⟨all, hall, rfl⟩
  · cases h

theorem name_of_discover {settings : RuleSettings} {plugins : List Plugin} {rules : List Rule}
    (hp : ∀ p ∈ plugins, p.entry ≠ "") (h : discover settings plugins = .ok rules) : ∀ r ∈ rules, r.name ≠ "" := by
  obtain ⟨all, hall, rfl⟩ := keep_of_discover h
  obtain ⟨patterns, added, hpatterns, hadded, rfl⟩ := parts_of_candidates hall
  intro r hr
  rcases List.mem_append.mp (mem_of_keep r hr) with hr | hr
  · rcases List.mem_append.mp hr with hr | hr
    · exact name_of_builtins r hr
    · obtain ⟨number, -, -, hname⟩ := exists_number_of_patternRules hpatterns hr
      simp [hname, patternName, String.append_eq_empty_iff]
  · obtain ⟨p, hmem, hrule⟩ := (mem_of_mapM hadded).mp hr
    exact name_of_plugin (hp p hmem) hrule

end RuleSet

theorem Classifier.match?_ne_empty {c : Classifier} (hc : ∀ r ∈ c.rules, r.name ≠ "") {typeName name : String}
    (h : c.match? typeName = some name) : name ≠ "" := by
  obtain ⟨r, hr, rfl⟩ := Option.map_eq_some_iff.mp h
  exact hc r (List.mem_of_find?_eq_some hr)

namespace Execution

def generatedText (rule : String) : String := "generated (" ++ rule ++ ")"

def verdict (c : Classifier) (name : String) : String :=
  match c.match? name with
  | some rule => if rule.isEmpty then "authored" else generatedText rule
  | none => "authored"

theorem generatedText_inj {r r' : String} : generatedText r = generatedText r' ↔ r = r' := by
  simp [generatedText, String.append_right_inj, String.append_left_inj]

theorem generatedText_ne_authored (r : String) : generatedText r ≠ "authored" := by
  intro h
  have hhead := congrArg (fun s : String => s.toList.head?) h
  simp [generatedText] at hhead

theorem verdict_eq_generated_iff {c : Classifier} (hc : ∀ r ∈ c.rules, r.name ≠ "") (name r : String) :
    verdict c name = generatedText r ↔ c.match? name = some r := by
  unfold verdict
  cases hm : c.match? name with
  | none => simpa using (generatedText_ne_authored r).symm
  | some rule =>
    have hne : rule ≠ "" := Classifier.match?_ne_empty hc hm
    simp only [String.isEmpty_iff, hne, if_false, Option.some.injEq]
    exact generatedText_inj

theorem verdict_eq_authored_iff {c : Classifier} (hc : ∀ r ∈ c.rules, r.name ≠ "") (name : String) :
    verdict c name = "authored" ↔ c.isGenerated name = false := by
  unfold verdict Classifier.isGenerated
  cases hm : c.match? name with
  | none => simp
  | some rule =>
    have hne : rule ≠ "" := Classifier.match?_ne_empty hc hm
    simp [hne, generatedText_ne_authored rule]

theorem output_of_prints (line : String → String) (names : List String) (x : Execution) :
    (names.foldl (fun x name => x.print (line name)) x).output =
      x.output ++ String.join (names.map fun name => line name ++ "\n") := by
  induction names generalizing x with
  | nil => simp
  | cons name rest ih =>
    rw [List.foldl_cons, ih, List.map_cons, String.join_cons]
    simp [print, String.append_assoc]

def verdictLines (c : Classifier) (names : List String) : String :=
  String.join (names.map fun name => name ++ ": " ++ verdict c name ++ "\n")

theorem classify_eq {s : Surroundings} {settings : Settings} {c : Classifier} (hc : classifier s settings = .ok c)
    (x : Execution) (names : List String) :
    (x.classify s settings names).2 = .ok 0 ∧
      (x.classify s settings names).1.output = x.output ++ verdictLines c names := by
  unfold classify
  rw [hc]
  exact ⟨rfl, output_of_prints (fun name => name ++ ": " ++ verdict c name) names x⟩

end Execution

theorem execute_classify {s : Surroundings} {arguments : List String} {files : Files} {verbosity : Log.Verbosity}
    {config : Option String} {names : List String} {settings : Settings} {c : Classifier}
    (ha : Arguments.read arguments = .ok ⟨verbosity, .classify config names⟩)
    (hs : Command.settings.load ⟨files, s.homes⟩ config = .ok settings)
    (hc : Execution.classifier s settings = .ok c) :
    (execute s arguments files).2 = .ok 0 ∧
      (execute s arguments files).1.output = Execution.verdictLines c names := by
  have hsettings : Command.settings ⟨files, s.homes⟩ (.classify config names) = .ok settings := hs
  unfold execute
  rw [ha]
  simp only [hsettings, Execution.perform, Log.State.configure, Option.map_none]
  obtain ⟨hcode, hout⟩ := Execution.classify_eq hc
    { files, log := ⟨verbosity.level, [⟨verbosity.level, .console⟩]⟩ } names
  exact ⟨hcode, by simpa [Log.State.detachAll, Log.State.attach] using hout⟩

theorem classifier_of_override {s t : Settings} {site : Site} {o : Overrides} (h : s.override site o = .ok t) :
    t.classifier = s.classifier := by
  unfold Settings.override at h
  obtain ⟨source, -, h⟩ := exists_of_bind h
  obtain ⟨output, -, h⟩ := exists_of_bind h
  cases h
  rfl

theorem classifier_of_run {s : Surroundings} {files : Files} {r : RunArguments} {settings settings' : Settings}
    (hs : Command.settings.load ⟨files, s.homes⟩ r.config = .ok settings)
    (hr : Command.settings ⟨files, s.homes⟩ (.run r) = .ok settings') :
    Execution.classifier s settings' = Execution.classifier s settings := by
  have hover : settings.override ⟨files, s.homes⟩ r.overrides = .ok settings' := by
    obtain ⟨loaded, hloaded, hover⟩ := exists_of_bind hr
    cases hs.symm.trans hloaded
    exact hover
  rw [Execution.classifier, Execution.classifier, classifier_of_override hover]

/-- That what is recorded of a type with a name is what the classifier says of the name. -/
structure TypeOutcome.Follows (o : TypeOutcome) (c : Classifier) : Prop where
  rule : ∀ r, o.result = .skippedGenerated (some r) ↔ c.match? o.name = some r
  status : o.result.status = "skipped_generated" ↔ c.isGenerated o.name = true

namespace Progress

variable {plan : Plan} {module dir : Path} {p q : Progress} {d : TypeDescriptor} {a : Option Path}
  {result : TypeResult}

theorem follows_of_step (h : TypeStep plan module dir p d a q (.ok result)) (hn : d.name ≠ "") :
    TypeOutcome.Follows ⟨d.name, d.fullName, result⟩ plan.classifier := by
  cases h with
  | nameless hn' => exact absurd hn' hn
  | generated rule hn' hm => constructor <;> simp [hm, Classifier.isGenerated, TypeResult.status]
  | taken hn' hm => constructor <;> simp [hm, Classifier.isGenerated, TypeResult.status]
  | undecompiled path renamed reason hn' hm => constructor <;> simp [hm, Classifier.isGenerated, TypeResult.status]
  | unwritten path renamed value files e reason hn' hm =>
    constructor <;> simp [hm, Classifier.isGenerated, TypeResult.status]
  | written path renamed value files hn' hm => constructor <;> simp [hm, Classifier.isGenerated, TypeResult.status]

theorem match?_of_error {e : RunError} (h : TypeStep plan module dir p d a q (.error e)) :
    plan.classifier.match? d.name = none := by
  cases h with
  | unwritable path renamed value files e fault hn hm => exact hm

theorem processType_skips_iff (hn : d.name ≠ "") (r : String) :
    (processType plan module dir p d).2 = .ok (.skippedGenerated (some r)) ↔
      plan.classifier.match? d.name = some r := by
  have hs := processType_step plan module dir p d
  generalize (processType plan module dir p d).2 = result at hs ⊢
  cases result with
  | error e => simp [match?_of_error hs]
  | ok result => simpa using (follows_of_step hs hn).rule r

theorem processType_skips_any_iff (hn : d.name ≠ "") :
    (∃ rule, (processType plan module dir p d).2 = .ok (.skippedGenerated rule)) ↔
      plan.classifier.isGenerated d.name = true := by
  have hs := processType_step plan module dir p d
  constructor
  · rintro ⟨rule, hr⟩
    rw [hr] at hs
    exact (follows_of_step hs hn).status.mp rfl
  · intro hg
    obtain ⟨r, hr⟩ := Option.isSome_iff_exists.mp hg
    exact ⟨some r, (processType_skips_iff hn r).mpr hr⟩

theorem follows_of_process {m : ModuleFile} {l : Listing} (h : l.process plan m = (p, .ok ())) :
    ∀ o ∈ p.report.outcomes, o.name ≠ "" → o.Follows plan.classifier := by
  refine Listing.process_induction (I := fun _ _ p => ∀ o ∈ p.report.outcomes, o.name ≠ "" →
    o.Follows plan.classifier) ?_ h (by simp [Listing.begin])
  intro done tried p d a q result hp hs o ho
  rw [recorded_outcomes_of_step hs] at ho
  rcases List.mem_append.mp ho with ho | ho
  · exact hp o ho
  · cases List.mem_singleton.mp ho
    exact follows_of_step hs

end Progress

theorem Work.follows_of_run {plan : Plan} {given : Option (List ModuleFile)} {w : Work} {s : Summary}
    (h : (w.run plan given).2 = .ok s) :
    ∀ r ∈ s.reports, ∀ o ∈ r.outcomes, o.name ≠ "" → o.Follows plan.classifier := by
  intro r hr
  obtain ⟨o, ho, hreport⟩ := List.mem_filterMap.mp hr
  obtain ⟨m, v, hprocessed⟩ := processed_of_run h o ho
  have hs := processModule_step plan m v
  rw [hprocessed] at hs
  generalize (v.processModule plan m).1 = v' at hs
  cases hs with
  | passed v' o hl hm hs hr' hv =>
    rw [hr'] at hreport
    cases hreport
  | completed l p v hl hp hv =>
    cases hreport
    exact Progress.follows_of_process hp

open Execution in
/-- A classifier that is made from the settings and rules of which no entry lacks a name gives one verdict on a type
name: the command line prints it, a run with that classifier acts on it for each type, and what a run that returns
has recorded says the same. -/
theorem verdicts_agree {s : Surroundings} {config : Option String} {files : Files} {settings : Settings}
    {c : Classifier} (hplugins : ∀ p ∈ s.plugins, p.entry ≠ "")
    (hload : Command.settings.load ⟨files, s.homes⟩ config = .ok settings)
    (hc : classifier s settings = .ok c) :
    (∀ arguments verbosity names, Arguments.read arguments = .ok ⟨verbosity, .classify config names⟩ →
      (execute s arguments files).2 = .ok 0 ∧ (execute s arguments files).1.output = verdictLines c names) ∧
    (∀ r settings', r.config = config → Command.settings ⟨files, s.homes⟩ (.run r) = .ok settings' →
      classifier s settings' = .ok c) ∧
    ∀ name, name ≠ "" →
      (∀ r, verdict c name = generatedText r ↔ c.isGenerated name = true ∧ c.match? name = some r) ∧
      (verdict c name = "authored" ↔ c.isGenerated name = false) ∧
      ∀ plan : Plan, plan.classifier = c →
        (∀ module dir p d, d.name = name →
          (∀ r, (Progress.processType plan module dir p d).2 = .ok (.skippedGenerated (some r)) ↔
            verdict c name = generatedText r) ∧
          ((∃ rule, (Progress.processType plan module dir p d).2 = .ok (.skippedGenerated rule)) ↔
            verdict c name ≠ "authored")) ∧
        ∀ given w summary, (Work.run plan given w).2 = .ok summary →
          ∀ report ∈ summary.reports, ∀ o ∈ report.outcomes, o.name = name →
            (∀ r, o.result = .skippedGenerated (some r) ↔ verdict c name = generatedText r) ∧
            (o.result.status = "skipped_generated" ↔ verdict c name ≠ "authored") := by
  have hnamed : ∀ r ∈ c.rules, r.name ≠ "" := by
    obtain ⟨rules, hrules, rfl⟩ : ∃ rules,
        RuleSet.discover settings.classifier s.plugins = .ok rules ∧ c = ⟨rules⟩ := by
      unfold classifier at hc
      cases hd : RuleSet.discover settings.classifier s.plugins with
      | error e => simp [hd, Except.map] at hc
      | ok rules =>
        rw [hd] at hc
        cases hc
        exact ⟨rules, rfl, rfl⟩
    exact RuleSet.name_of_discover hplugins hrules
  refine ⟨fun _ _ _ ha => execute_classify ha hload hc, ?_, ?_⟩
  · rintro r settings' rfl hr
    rw [classifier_of_run hload hr, hc]
  · intro name hne
    have hmatch : ∀ r, verdict c name = generatedText r ↔ c.match? name = some r :=
      verdict_eq_generated_iff hnamed name
    have hauthored : verdict c name ≠ "authored" ↔ c.isGenerated name = true := by
      rw [Ne, verdict_eq_authored_iff hnamed name, Bool.not_eq_false]
    refine ⟨fun r => ?_, verdict_eq_authored_iff hnamed name, ?_⟩
    · rw [hmatch]
      constructor
      · intro hm
        exact ⟨by simp [Classifier.isGenerated, hm], hm⟩
      · exact fun h => h.2
    · rintro plan rfl
      refine ⟨?_, ?_⟩
      · rintro module dir p d rfl
        exact ⟨fun r => (Progress.processType_skips_iff hne r).trans (hmatch r).symm,
          (Progress.processType_skips_any_iff hne).trans hauthored.symm⟩
      · rintro given w summary hrun report hreport o ho rfl
        have hfollows := Work.follows_of_run hrun report hreport o ho hne
        exact ⟨fun r => (hfollows.rule r).trans (hmatch r).symm, hfollows.status.trans hauthored.symm⟩

def corpSite : Files where
  tree := ⟨[([".typesift.yml"], .file "classifier:\n  extra_patterns: ['^Gen']\n".toUTF8 false)]⟩
  current := []

def corpSurroundings : Surroundings where
  homes := ⟨⟨1, ["home"]⟩, []⟩
  stamps := ⟨"", ""⟩
  decompiler _ := Engine.steady []
  plugins :=
    [⟨"corp", .ok (some ⟨"", fun name => beginsWith "Corp" name⟩)⟩,
      ⟨"again", .ok (some ⟨"Pattern-1", fun _ => true⟩)⟩]

theorem verdicts_agree_corp : ∃ settings c,
    Command.settings.load ⟨corpSite, corpSurroundings.homes⟩ none = .ok settings ∧
      Execution.classifier corpSurroundings settings = .ok c ∧
      Execution.verdictLines c ["CorpBase", "Gen1", "<>c", "Player"] =
        "CorpBase: generated (corp)\nGen1: generated (pattern-1)\n<>c: generated (literal-prefix)\nPlayer: authored\n" ∧
      (Execution.verdict c "Player" = "authored" ↔ c.isGenerated "Player" = false) := by
  obtain ⟨settings, hload⟩ := exists_of_isOk
    (x := Command.settings.load ⟨corpSite, corpSurroundings.homes⟩ none) (by decide +kernel)
  have hrules : ((Command.settings.load ⟨corpSite, corpSurroundings.homes⟩ none).toOption.map (·.classifier)) =
      some { extraPatterns := [Text.CodeText.ofString "^Gen"] } := by
    decide +kernel
  have hsettings : settings.classifier = { extraPatterns := [Text.CodeText.ofString "^Gen"] } := by
    simpa [hload, Except.toOption] using hrules
  have hclassifier : (Execution.classifier corpSurroundings settings).isOk = true := by
    rw [Execution.classifier, hsettings]
    decide +kernel
  obtain ⟨c, hc⟩ := exists_of_isOk hclassifier
  have hread : Arguments.read ["classify", "CorpBase", "Gen1", "<>c", "Player"] =
      .ok ⟨{}, .classify none ["CorpBase", "Gen1", "<>c", "Player"]⟩ := by
    decide +kernel
  obtain ⟨hprint, -, hname⟩ := verdicts_agree (by decide) hload hc
  refine ⟨settings, c, hload, hc, ?_, (hname "Player" (by decide)).2.1⟩
  rw [← (hprint _ _ _ hread).2]
  decide +kernel

end Winnow
