import Winnow.Proofs.SettingsFile

/-!
What settings are made of. Each part of the settings that a file gives comes from the value under one key, or is the
usual one where that value says nothing.
-/
set_option autoImplicit false

namespace Winnow

theorem ok_bind {ε α β : Type} (a : α) (f : α → Except ε β) : (Except.ok a >>= f) = f a := rfl

theorem error_bind {ε α β : Type} (e : ε) (f : α → Except ε β) : (Except.error e >>= f) = .error e := rfl

theorem Yaml.Value.isText_iff {s : String} {v : Value} : v.isText s = true ↔ v = .scalar (.text (.ofString s)) := by
  cases v with
  | scalar x => cases x <;> simp [isText]
  | _ => simp [isText]

namespace Settings
open Text Yaml

variable {site : Site} {root : Path} {entries : List (Value × Value)}

structure ClassifierParts (entries : List (Value × Value)) (c : RuleSettings) : Prop where
  extraPrefixes : strings (Value.get? entries "extra_prefixes") = .ok c.extraPrefixes
  extraPatterns : texts (Value.get? entries "extra_patterns") = .ok c.extraPatterns
  disabled : strings (Value.get? entries "disabled") = .ok c.disabled
  checked : checkPatterns c.extraPatterns = .ok ()

theorem classifierParts {c : RuleSettings} (h : readClassifier entries = .ok c) : ClassifierParts entries c := by
  unfold readClassifier at h
  obtain ⟨prefixes, hprefixes, h⟩ := exists_of_bind h
  obtain ⟨patterns, hpatterns, h⟩ := exists_of_bind h
  obtain ⟨disabled, hdisabled, h⟩ := exists_of_bind h
  obtain ⟨_, hchecked, h⟩ := exists_of_bind h
  cases h
  exact ⟨hprefixes, hpatterns, hdisabled, hchecked⟩

structure EngineParts (site : Site) (root : Path) (entries : List (Value × Value)) (e : EngineSettings) : Prop where
  executable : ∃ t, filledText? (Value.get? entries "executable") = .ok t ∧
    e.executable = (t.map (·.display)).getD "ilspycmd"
  timeout : match Value.get? entries "timeout" with
    | some v => seconds? v = .ok e.timeout
    | none => e.timeout = some 120.0
  referencePaths : ∃ ts, texts (Value.get? entries "reference_paths") = .ok ts ∧
    (ts.filter (!·.isEmpty)).mapM (pathOf site root) = .ok e.referencePaths

theorem engineParts {e : EngineSettings} (h : readEngine site root entries = .ok e) :
    EngineParts site root entries e := by
  unfold readEngine at h
  obtain ⟨executable, hexecutable, h⟩ := exists_of_bind h
  cases htimeout : Value.get? entries "timeout" with
  | some v =>
    simp only [htimeout] at h
    obtain ⟨timeout, hseconds, h⟩ := exists_of_bind h
    obtain ⟨references, hreferences, h⟩ := exists_of_bind h
    obtain ⟨paths, hpaths, h⟩ := exists_of_bind h
    cases h
    exact ⟨⟨executable, hexecutable, rfl⟩, by simpa [htimeout] using hseconds, references, hreferences, hpaths⟩
  | none =>
    simp only [htimeout] at h
    obtain ⟨timeout, hseconds, h⟩ := exists_of_bind h
    obtain ⟨references, hreferences, h⟩ := exists_of_bind h
    obtain ⟨paths, hpaths, h⟩ := exists_of_bind h
    cases hseconds
    cases h
    exact ⟨⟨executable, hexecutable, rfl⟩, by simp [htimeout], references, hreferences, hpaths⟩

/-- Where what matters for the names of output files comes from, and whether old ones go. -/
structure OutputParts (entries : List (Value × Value)) (o : OutputSettings) : Prop where
  extension : ∃ t, filledText? (Value.get? entries "extension") = .ok t ∧
    o.extension = dotted ((t.map (·.display)).getD ".cstxt")
  pruneStale : o.pruneStale = isOn (Value.get? entries "prune_stale")

theorem outputParts {o : OutputSettings} (h : readOutput entries = .ok o) : OutputParts entries o := by
  unfold readOutput at h
  obtain ⟨extension, hextension, h⟩ := exists_of_bind h
  obtain ⟨report, -, h⟩ := exists_of_bind h
  obtain ⟨log, -, h⟩ := exists_of_bind h
  cases h
  exact ⟨⟨extension, hextension, rfl⟩, rfl⟩

/-- Where the parts of settings come from. -/
structure Parts (site : Site) (base : Path) (entries : List (Value × Value)) (s : Settings) : Prop where
  root : s.root = base
  sourceDir : ∃ p, path? site base (Value.get? entries "source_dir") = .ok p ∧
    s.sourceDir = p.getD (default base).sourceDir
  outputDir : ∃ p, path? site base (Value.get? entries "output_dir") = .ok p ∧
    s.outputDir = p.getD (default base).outputDir
  modulePatterns : ∃ ps, strings (Value.get? entries "module_patterns") = .ok ps ∧
    s.modulePatterns = if ps.isEmpty then ["*.dll"] else ps
  importantPrefixes : Value.get? entries "important_prefixes" = none →
    s.importantPrefixes = Importance.defaultPrefixes
  classifier : ClassifierParts (section? (Value.get? entries "classifier")) s.classifier
  engine : EngineParts site base (section? (Value.get? entries "engine")) s.engine
  output : OutputParts (section? (Value.get? entries "output")) s.output

theorem exists_of_prefixes {v : Option Value} {usual : List String} {f : List String → Except SettingsError Settings}
    {s : Settings} (h : (match v with
      | none | some (.scalar .null) => pure usual >>= f
      | some v => strings (some v) >>= f) = .ok s) :
    ∃ prefixes, (v = none → prefixes = usual) ∧ f prefixes = .ok s := by
  split at h
  · exact ⟨usual, fun _ => rfl, h⟩
  · exact ⟨usual, fun _ => rfl, h⟩
  · obtain ⟨prefixes, -, h⟩ := exists_of_bind h
    exact ⟨prefixes, nofun, h⟩

theorem parts {s : Settings} (h : ofEntries site root entries = .ok s) : Parts site root entries s := by
  unfold ofEntries at h
  obtain ⟨source, hsource, h⟩ := exists_of_bind h
  obtain ⟨output, houtput, h⟩ := exists_of_bind h
  obtain ⟨patterns, hpatterns, h⟩ := exists_of_bind h
  obtain ⟨prefixes, hprefixes, h⟩ := exists_of_prefixes h
  obtain ⟨classifier, hclassifier, h⟩ := exists_of_bind h
  obtain ⟨engine, hengine, h⟩ := exists_of_bind h
  obtain ⟨outputs, houtputs, h⟩ := exists_of_bind h
  cases h
  exact ⟨rfl, ⟨source, hsource, rfl⟩, ⟨output, houtput, rfl⟩, ⟨patterns, hpatterns, rfl⟩, hprefixes,
    classifierParts hclassifier, engineParts hengine, outputParts houtputs⟩

theorem ofEntries_of_place {site' : Site} (h : ∀ text, place site' root text = place site root text) :
    ofEntries site' root entries = ofEntries site root entries := by
  have hpath : pathOf site' root = pathOf site root := by
    funext t
    simp only [pathOf, h]
  simp only [ofEntries, path?, readEngine, hpath]

/-- A root directory with nothing but a settings file. -/
def noted (text : String) : Site where
  files := ⟨⟨[([".typesift.yml"], .file text.toByteArray false)]⟩, []⟩
  homes := ⟨⟨1, ["home"]⟩, []⟩

theorem locate_noted (text : String) : locate (noted text) ⟨1, []⟩ = .ok ⟨1, [".typesift.yml"]⟩ := by rfl

theorem readFile_noted (text : String) :
    (noted text).files.readFile ⟨1, [".typesift.yml"]⟩ = .ok text.toByteArray := by rfl

deriving instance DecidableEq for Yaml.Scalar

/-- That what is read from a settings file is one scalar under one key, as a check that can be run. -/
def holdsOnly (name : String) (x : Scalar) : Except SettingsError (List (Value × Value)) → Bool
  | .ok [(key, .scalar y)] => key.isText name && y == x
  | _ => false

theorem eq_of_holdsOnly {name : String} {x : Scalar} {r : Except SettingsError (List (Value × Value))}
    (h : holdsOnly name x r = true) : r = .ok [(.scalar (.text (.ofString name)), .scalar x)] := by
  unfold holdsOnly at h
  split at h
  · next key y =>
    obtain ⟨hkey, hy⟩ := (Bool.and_eq_true _ _).mp h
    rw [Value.isText_iff.mp hkey, eq_of_beq hy]
  · cases h

def holdsNothing : Except SettingsError (List (Value × Value)) → Bool
  | .ok [] => true
  | _ => false

theorem eq_of_holdsNothing {r : Except SettingsError (List (Value × Value))} (h : holdsNothing r = true) :
    r = .ok [] := by
  unfold holdsNothing at h
  split at h
  · rfl
  · cases h

theorem load_noted {text : String} (h : readEntries ".typesift.yml" text.toByteArray = .ok entries) :
    load (noted text) ⟨1, []⟩ = ofEntries (noted text) ⟨1, []⟩ entries := by
  have hname : (⟨1, [".typesift.yml"]⟩ : Path).name = ".typesift.yml" := rfl
  have hparent : (⟨1, [".typesift.yml"]⟩ : Path).parent = ⟨1, []⟩ := rfl
  rw [load_eq (locate_noted text) (readFile_noted text), hname, hparent, h, ok_bind]

end Settings
end Winnow
