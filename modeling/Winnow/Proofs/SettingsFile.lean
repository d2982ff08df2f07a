import Winnow.CommandLine.Execution
import Winnow.Proofs.SettingsValues

/-!
Which settings files are told of in one line. Reading one gives settings, or an error that says what is wrong with the
file, or an error that leaves the program as it is. The last happens for bytes that are no text, for scalars that are
well formed and yet cannot be built, for values that cannot be used, and for patterns that fail in other ways than by
being malformed.
-/
set_option autoImplicit false

namespace Winnow
namespace Settings
open Text Yaml

variable {α β : Type} {C : Prop} {x : Except SettingsError α} {f : α → Except SettingsError β}
  {site : Site} {root : Path} {entries : List (Value × Value)}

/-- That `x` gives a result or fails with an error that says that the settings file is wrong. -/
def Contained (x : Except SettingsError α) : Prop := FailsOnly (·.isConfigError = true) x

theorem GivesIff.contained (h : GivesIff x C) : Contained x ↔ C := by
  rw [← h.given]
  cases x with
  | ok a => exact iff_of_true (failsOnly_ok a) ⟨a, rfl⟩
  | error e =>
    have hblunt : e.isConfigError = false := h.blunt e rfl
    simp [Contained, failsOnly_error, hblunt]

/-- When `x` is contained, and when it gives a result. -/
structure ReadsIff (x : Except SettingsError α) (C G : Prop) : Prop where
  contained : Contained x ↔ C
  given : (∃ a, x = .ok a) ↔ G

theorem GivesIff.reads (h : GivesIff x C) : ReadsIff x C C := ⟨h.contained, h.given⟩

theorem ReadsIff.congr {G D H : Prop} (h : ReadsIff x C G) (hc : C ↔ D) (hg : G ↔ H) : ReadsIff x D H :=
  ⟨h.contained.trans hc, h.given.trans hg⟩

theorem ReadsIff.bind {G D H : Prop} (hx : ReadsIff x C G) (hf : ∀ a, x = .ok a → ReadsIff (f a) D H) :
    ReadsIff (x >>= f) (C ∧ (G → D)) (G ∧ H) where
  contained := by
    rw [Contained, failsOnly_bind, ← hx.contained, ← hx.given]
    refine and_congr_right fun _ => ⟨fun h ⟨a, ha⟩ => (hf a ha).contained.mp (h a ha), fun h a ha => ?_⟩
    exact (hf a ha).contained.mpr (h ⟨a, ha⟩)
  given := by
    rw [exists_ok_bind, ← hx.given]
    constructor
    · rintro ⟨a, ha, hb⟩
      exact ⟨⟨a, ha⟩, (hf a ha).given.mp hb⟩
    · rintro ⟨⟨a, ha⟩, hh⟩
      exact ⟨a, ha, (hf a ha).given.mpr hh⟩

theorem GivesIff.readsBind {D H : Prop} (hx : GivesIff x C) (hf : ∀ a, x = .ok a → ReadsIff (f a) D H) :
    ReadsIff (x >>= f) (C ∧ D) (C ∧ H) :=
  (hx.reads.bind hf).congr (and_congr_right fun hc => ⟨fun h => h hc, fun h _ => h⟩) .rfl

def badPattern? (patterns : List CodeText) : Option (CodeText × Pattern.Error) :=
  patterns.findSome? fun p =>
    match Pattern.read p with
    | .ok _ => none
    | .error e => some (p, e)

theorem checkPatterns_eq (patterns : List CodeText) : checkPatterns patterns =
    match badPattern? patterns with
    | none => .ok ()
    | some (p, e) => .error (.badPattern p e) := by
  induction patterns with
  | nil => rfl
  | cons p rest ih =>
    have hcheck : checkPatterns (p :: rest) = (match Pattern.read p with
      | .ok _ => .ok ()
      | .error e => .error (.badPattern p e)) >>= fun _ => checkPatterns rest := rfl
    rw [hcheck, badPattern?, List.findSome?_cons]
    cases Pattern.read p with
    | error e => rfl
    | ok r => exact ih

theorem readsIff_checkPatterns (patterns : List CodeText) : ReadsIff (checkPatterns patterns)
    (∀ p e, badPattern? patterns = some (p, e) → ∃ fault place, e = .malformed fault place)
    (badPattern? patterns = none) := by
  rw [checkPatterns_eq]
  cases hbad : badPattern? patterns with
  | none => exact (givesIff_ok ()).reads.congr (by simp) (by simp)
  | some bad =>
    obtain ⟨p, e⟩ := bad
    refine ⟨?_, by simp⟩
    cases e <;> simp [Contained, failsOnly_error, SettingsError.isConfigError]

def configuredPatterns (entries : List (Value × Value)) : List CodeText :=
  (texts (Value.get? entries "extra_patterns")).toOption.getD []

/-- That each of the values under some keys satisfies `P`. -/
def Under (entries : List (Value × Value)) (keys : List String) (P : Value → Prop) : Prop :=
  ∀ key ∈ keys, ∀ v ∈ Value.get? entries key, P v

/-- That the classifier's settings can be used, but perhaps for their patterns, the first bad one of which is then
malformed. -/
structure ClassifierReportable (entries : List (Value × Value)) : Prop where
  lists : Under entries ["extra_prefixes", "extra_patterns", "disabled"] (·.Each Value.Writable)
  patterns : ∀ p e, badPattern? (configuredPatterns entries) = some (p, e) → ∃ fault place, e = .malformed fault place

structure ClassifierUsable (entries : List (Value × Value)) : Prop where
  lists : Under entries ["extra_prefixes", "extra_patterns", "disabled"] (·.Each Value.Writable)
  patterns : badPattern? (configuredPatterns entries) = none

theorem readsIff_readClassifier (entries : List (Value × Value)) :
    ReadsIff (readClassifier entries) (ClassifierReportable entries) (ClassifierUsable entries) := by
  have hpatterns : ∀ patterns, texts (Value.get? entries "extra_patterns") = .ok patterns →
      ∀ settings : RuleSettings, ReadsIff (checkPatterns patterns >>= fun _ => .ok settings)
        (∀ p e, badPattern? (configuredPatterns entries) = some (p, e) → ∃ fault place, e = .malformed fault place)
        (badPattern? (configuredPatterns entries) = none) := by
    intro patterns hp settings
    have hconfigured : configuredPatterns entries = patterns := by simp [configuredPatterns, hp, Except.toOption]
    rw [hconfigured]
    exact ((readsIff_checkPatterns patterns).bind fun _ _ => (givesIff_ok settings).reads).congr (by simp) (by simp)
  refine ReadsIff.congr ((givesIff_strings _).readsBind fun prefixes _ => (givesIff_texts _).readsBind fun patterns hp =>
    (givesIff_strings _).readsBind fun disabled _ => hpatterns patterns hp _) ?_ ?_
  · exact ⟨fun ⟨he, hp, hd, hbad⟩ => ⟨by simpa [Under] using ⟨he, hp, hd⟩, hbad⟩,
      fun ⟨hl, hbad⟩ => by simpa [Under, and_assoc] using And.intro hl hbad⟩
  · exact ⟨fun ⟨he, hp, hd, hbad⟩ => ⟨by simpa [Under] using ⟨he, hp, hd⟩, hbad⟩,
      fun ⟨hl, hbad⟩ => by simpa [Under, and_assoc] using And.intro hl hbad⟩

/-- What is asked of the settings of the decompiler. -/
structure EngineUsable (homes : Homes) (entries : List (Value × Value)) : Prop where
  executable : Under entries ["executable"] Value.Writable
  timeout : Under entries ["timeout"] Value.Timed
  references : Under entries ["reference_paths"] (·.Each (·.Leads homes))

theorem givesIff_readEngine (site : Site) (hz : Files.holdsZero root = false) (entries : List (Value × Value)) :
    GivesIff (readEngine site root entries) (EngineUsable site.homes entries) := by
  have hreferences : ∀ result : List Path → EngineSettings,
      GivesIff (texts (Value.get? entries "reference_paths") >>= fun ts =>
        (ts.filter (!·.isEmpty)).mapM (pathOf site root) >>= fun paths => .ok (result paths))
        (∀ v ∈ Value.get? entries "reference_paths", v.Each (·.Leads site.homes)) := by
    intro result
    have hpaths := (givesIff_paths site hz (Value.get? entries "reference_paths")).then result
    rwa [bind_assoc] at hpaths
  unfold readEngine
  refine GivesIff.congr ((givesIff_filledText? _).and (D := (∀ v ∈ Value.get? entries "timeout", v.Timed) ∧
    ∀ v ∈ Value.get? entries "reference_paths", v.Each (·.Leads site.homes)) fun executable _ => ?_) ?_
  · cases Value.get? entries "timeout" with
    | none => exact ((givesIff_ok _).and fun timeout _ => hreferences _).congr (by simp)
    | some v => exact ((givesIff_seconds? v).and fun timeout _ => hreferences _).congr (by simp)
  · constructor
    · rintro ⟨he, ht, hr⟩
      exact ⟨by simpa [Under] using he, by simpa [Under] using ht, by simpa [Under] using hr⟩
    · rintro ⟨he, ht, hr⟩
      exact ⟨by simpa [Under] using he, by simpa [Under] using ht, by simpa [Under] using hr⟩

def OutputUsable (entries : List (Value × Value)) : Prop :=
  Under entries ["extension", "report_file", "log_file"] Value.Writable

theorem givesIff_readOutput (entries : List (Value × Value)) : GivesIff (readOutput entries) (OutputUsable entries) := by
  unfold readOutput
  refine GivesIff.congr ((givesIff_filledText? _).and fun extension _ => (givesIff_filledText? _).and fun report _ =>
    (givesIff_filledText? _).then _) ?_
  simp [OutputUsable, Under]

/-- That whatever is wrong with the entries of a settings file can be told in one line: what is read before the
patterns can be used, the first pattern that cannot be read is malformed, and if there is none, then what is read
after them can be used as well. -/
structure EntriesReportable (homes : Homes) (entries : List (Value × Value)) : Prop where
  directories : Under entries ["source_dir", "output_dir"] (·.Leads homes)
  lists : Under entries ["module_patterns", "important_prefixes"] (·.Each Value.Writable)
  classifier : ClassifierReportable (section? (Value.get? entries "classifier"))
  rest : ClassifierUsable (section? (Value.get? entries "classifier")) →
    EngineUsable homes (section? (Value.get? entries "engine")) ∧
      OutputUsable (section? (Value.get? entries "output"))

theorem readsIff_sections (site : Site) (hz : Files.holdsZero root = false) (classifier engine output : Option Value)
    (settings : RuleSettings → EngineSettings → OutputSettings → Settings) :
    ReadsIff (do
        let c ← readClassifier (section? classifier)
        let e ← readEngine site root (section? engine)
        let o ← readOutput (section? output)
        return settings c e o)
      (ClassifierReportable (section? classifier) ∧ (ClassifierUsable (section? classifier) →
        EngineUsable site.homes (section? engine) ∧ OutputUsable (section? output)))
      (ClassifierUsable (section? classifier) ∧
        EngineUsable site.homes (section? engine) ∧ OutputUsable (section? output)) :=
  (readsIff_readClassifier _).bind fun c _ => (givesIff_readEngine site hz _).readsBind fun e _ =>
    ((givesIff_readOutput _).then (settings c e)).reads

theorem readsIff_prefixes {D H : Prop} {f : List String → Except SettingsError Settings} (v : Option Value)
    (usual : List String) (hf : ∀ prefixes, ReadsIff (f prefixes) D H) :
    ReadsIff (match v with
        | none | some (.scalar .null) => pure usual >>= f
        | some v => strings (some v) >>= f)
      ((∀ u ∈ v, u.Each Value.Writable) ∧ D) ((∀ u ∈ v, u.Each Value.Writable) ∧ H) := by
  split
  · exact ((givesIff_ok usual).readsBind fun t _ => hf t).congr (by simp) (by simp)
  · exact ((givesIff_ok usual).readsBind fun t _ => hf t).congr (by simp [Value.Each]) (by simp [Value.Each])
  · exact (givesIff_strings _).readsBind fun t _ => hf t

theorem contained_ofEntries (hz : Files.holdsZero root = false) (entries : List (Value × Value)) :
    Contained (ofEntries site root entries) ↔ EntriesReportable site.homes entries := by
  unfold ofEntries
  refine Iff.trans ((givesIff_path? hz _).readsBind fun source _ => (givesIff_path? hz _).readsBind fun output _ =>
    (givesIff_strings _).readsBind fun patterns _ => readsIff_prefixes _ _ fun prefixes =>
      readsIff_sections site hz _ _ _ _).contained ?_
  constructor
  · rintro ⟨hs, ho, hm, hp, hc, hrest⟩
    exact ⟨by simpa [Under] using ⟨hs, ho⟩, by simpa [Under] using ⟨hm, hp⟩, hc, hrest⟩
  · rintro ⟨hd, hl, hc, hrest⟩
    have hd := by simpa [Under] using hd
    have hl := by simpa [Under] using hl
    exact ⟨hd.1, hd.2, hl.1, hl.2, hc, hrest⟩

theorem entriesReportable_nil (homes : Homes) : EntriesReportable homes [] := by
  have hunder : ∀ keys P, Under [] keys P := fun _ _ _ _ _ hv => nomatch hv
  have hpatterns : badPattern? (configuredPatterns []) = none := rfl
  exact ⟨hunder _ _, hunder _ _, ⟨hunder _ _, fun p e h => nomatch hpatterns.symm.trans h⟩,
    fun _ => ⟨⟨hunder _ _, hunder _ _, hunder _ _⟩, hunder _ _⟩⟩

/-- That whatever is wrong with a settings file can be told in one line: its bytes are text, and the text is blank, or
malformed, or holds something else than a mapping, or a mapping with entries of which this is true. -/
def FileReportable (homes : Homes) (bytes : ByteArray) : Prop :=
  ∃ text, decode bytes.toList = .ok text ∧ (trimBlanks (unifyNewlines text) ≠ "" →
    match Yaml.read depth (unifyNewlines text) with
    | .error fault => fault = .malformed
    | .ok (some (.map entries)) => EntriesReportable homes entries
    | .ok _ => True)

theorem contained_readEntries (site : Site) (hz : Files.holdsZero root = false) (name : String) (bytes : ByteArray) :
    Contained (readEntries name bytes >>= ofEntries site root) ↔ FileReportable site.homes bytes := by
  unfold readEntries FileReportable
  cases hd : decode bytes.toList with
  | error e => exact (givesIff_error rfl).contained.trans (by simp)
  | ok text =>
    have hempty : Contained (ofEntries site root []) ↔ True :=
      (contained_ofEntries hz []).trans (iff_true_intro (entriesReportable_nil _))
    simp only [mapError_ok, bind, Except.bind, pure, Except.pure, throw, throwThe, MonadExceptOf.throw,
      Except.ok.injEq, exists_eq_left', String.isEmpty_iff]
    by_cases hb : trimBlanks (unifyNewlines text) = ""
    · simpa [hb] using hempty
    · have hnotMapping : Contained (.error .notMapping : Except SettingsError Settings) ↔ True :=
        iff_true_intro (failsOnly_error.mpr rfl)
      simp only [hb, ne_eq, not_false_eq_true, forall_const, if_false]
      cases Yaml.read depth (unifyNewlines text) with
      | error fault => cases fault <;> simp [Contained, failsOnly_error, SettingsError.isConfigError]
      | ok document =>
        rcases document with _ | v
        · exact hempty
        · cases v with
          | map entries => exact contained_ofEntries hz entries
          | scalar value =>
            cases value with
            | null => exact hempty
            | _ => exact hnotMapping
          | list items => exact hnotMapping
          | set items => exact hnotMapping

theorem holdsZero_parent {file : Path} (h : Files.holdsZero file = false) : Files.holdsZero file.parent = false := by
  simp only [Files.holdsZero, List.any_eq_false] at h ⊢
  exact fun part hpart => h part ((List.dropLast_sublist _).subset hpart)

theorem load_eq {path file : Path} {bytes : ByteArray} (hfile : locate site path = .ok file)
    (hread : site.files.readFile file = .ok bytes) :
    load site path = readEntries file.name bytes >>= ofEntries site file.parent := by
  obtain ⟨hz, q, x, hq, he⟩ := Files.readFile_eq_ok.mp hread
  have hlook := Files.look_eq_some.mpr ⟨hz, q, hq, he⟩
  simp [load, hfile, Files.isThere, hlook, hread, bind, Except.bind, pure, Except.pure]

end Settings

def Command.config : Command → Option String
  | .run r => r.config
  | .classify config _ => config

theorem Command.settings_eq_error {site : Site} {c : Command} {e : SettingsError}
    (h : Command.settings.load site c.config = .error e) : c.settings site = .error e := by
  cases c with
  | run r =>
    have hload : Command.settings.load site r.config = .error e := h
    simp [Command.settings, hload, bind, Except.bind]
  | classify config names => exact h

open Settings in
/-- For every settings file that can be read: reading it gives settings or an error that says what is wrong with the
file, exactly if its bytes are reportable. If it gives no settings then each command that is given the file ends
with one line of text in the one case, and leaves the error to its caller in the other. -/
theorem load_reportable_iff (s : Surroundings) (files : Files) (config : Option String) {file : Path}
    {bytes : ByteArray}
    (hfile : locate ⟨files, s.homes⟩ ((argumentPath? config).getD ⟨1, files.current⟩) = .ok file)
    (hread : files.readFile file = .ok bytes) :
    ((∀ e, Command.settings.load ⟨files, s.homes⟩ config = .error e → e.isConfigError = true) ↔
      FileReportable s.homes bytes) ∧
    ∀ e, Command.settings.load ⟨files, s.homes⟩ config = .error e →
      ∀ arguments a, Arguments.read arguments = .ok a → a.command.config = config →
        (FileReportable s.homes bytes → execute s arguments files =
          ({ files, errors := "Invalid configuration: " ++ e.message ++ "\n" }, .ok 1)) ∧
        (¬ FileReportable s.homes bytes → execute s arguments files = ({ files }, .error (.settings e))) := by
  have hz := holdsZero_parent (Files.readFile_eq_ok.mp hread).1
  have hiff : (∀ e, Command.settings.load ⟨files, s.homes⟩ config = .error e → e.isConfigError = true) ↔
      FileReportable s.homes bytes := by
    have hload : Command.settings.load ⟨files, s.homes⟩ config = _ := load_eq hfile hread
    rw [hload]
    exact contained_readEntries ⟨files, s.homes⟩ hz file.name bytes
  refine ⟨hiff, fun e he arguments a ha hconfig => ?_⟩
  have hsettings : a.command.settings ⟨files, s.homes⟩ = .error e := Command.settings_eq_error (hconfig ▸ he)
  have hconfigError : e.isConfigError = true ↔ FileReportable s.homes bytes := by
    rw [← hiff]
    exact ⟨fun h e' he' => Except.error.inj (he.symm.trans he') ▸ h, fun h => h e he⟩
  rw [← hconfigError]
  have hline : s!"Invalid configuration: {e.message}" = "Invalid configuration: " ++ e.message := rfl
  refine ⟨fun h => ?_, fun h => ?_⟩
  · simp [execute, ha, hsettings, h, Execution.quit, Execution.warn, hline]
  · simp [execute, ha, hsettings, h]

def garbledSite : Files where
  tree := ⟨[([".typesift.yml"], .file ⟨#[0xFF]⟩ false)]⟩
  current := []

def garbledSurroundings : Surroundings where
  homes := ⟨⟨1, ["home"]⟩, []⟩
  stamps := ⟨"", ""⟩
  decompiler _ := Engine.steady []

theorem load_reportable_garbled :
    ∃ e, Command.settings.load ⟨garbledSite, garbledSurroundings.homes⟩ none = .error e ∧ e.isConfigError = false ∧
      execute garbledSurroundings ["classify", "Player"] garbledSite = ({ files := garbledSite }, .error (.settings e)) := by
  have hgarbled : ¬ Settings.FileReportable garbledSurroundings.homes ⟨#[0xFF]⟩ := by
    have hdecode : Text.decode (ByteArray.mk #[0xFF]).toList = .error ⟨.startByte, 0, 1, 0xFF⟩ := by decide +kernel
    rintro ⟨text, htext, -⟩
    rw [hdecode] at htext
    cases htext
  have hfile : Settings.locate ⟨garbledSite, garbledSurroundings.homes⟩ ((argumentPath? none).getD ⟨1, []⟩) =
      .ok ⟨1, [".typesift.yml"]⟩ := by
    decide +kernel
  have hread : garbledSite.readFile ⟨1, [".typesift.yml"]⟩ = .ok ⟨#[0xFF]⟩ := by decide +kernel
  obtain ⟨hiff, htold⟩ := load_reportable_iff garbledSurroundings garbledSite none hfile hread
  obtain ⟨e, hfails⟩ := Classical.not_forall.mp (mt hiff.mp hgarbled)
  obtain ⟨he, hnot⟩ := Classical.not_imp.mp hfails
  have harguments : Arguments.read ["classify", "Player"] = .ok ⟨{}, .classify none ["Player"]⟩ := by decide +kernel
  exact ⟨e, he, by simpa using hnot, (htold e he _ _ harguments rfl).2 hgarbled⟩

end Winnow
