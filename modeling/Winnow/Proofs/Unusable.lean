import Winnow.Proofs.SettingsParts

/-!
Unusable settings. A value of a type that its key does not take counts as absent under most keys, as if it were not in
the settings file, but not under all: a list of prefixes becomes empty, a time limit is lifted, and whatever is not
empty switches pruning on. Bytes are a list of the numbers that they are.
-/
set_option autoImplicit false

namespace Winnow
namespace Yaml.Value
open Text

theorem eq_of_isText {s t : String} {v : Value} (hs : v.isText s = true) (ht : v.isText t = true) : s = t := by
  rw [isText_iff] at hs ht
  have hcodes : CodeText.ofString s = .ofString t := by simpa using hs.symm.trans ht
  simpa [CodeText.display_ofString] using congrArg CodeText.display hcodes

/-- The entries but for those under a key. -/
def without (entries : List (Value × Value)) (key : String) : List (Value × Value) :=
  entries.filter fun e => !e.1.isText key

theorem get?_without_self (entries : List (Value × Value)) (key : String) : get? (without entries key) key = none := by
  simp [get?, without, ← List.filter_reverse, List.find?_filter, List.find?_eq_none]

theorem get?_without {key other : String} (h : other ≠ key) (entries : List (Value × Value)) :
    get? (without entries key) other = get? entries other := by
  have hsame : (fun e : Value × Value => !e.1.isText key && e.1.isText other) = fun e => e.1.isText other := by
    funext e
    cases ho : e.1.isText other
    · simp
    · have hk : e.1.isText key = false := Bool.eq_false_iff.mpr fun hk => h (eq_of_isText ho hk)
      simp [hk]
  simp [get?, without, ← List.filter_reverse, List.find?_filter, hsame]

def onEntries (f : List (Value × Value) → List (Value × Value)) : Value → Value
  | .map entries => .map (f entries)
  | v => v

def within (entries : List (Value × Value)) (key : String) (f : List (Value × Value) → List (Value × Value)) :
    List (Value × Value) :=
  entries.map fun e => (e.1, if e.1.isText key then e.2.onEntries f else e.2)

theorem get?_within_self (entries : List (Value × Value)) (key : String)
    (f : List (Value × Value) → List (Value × Value)) :
    get? (within entries key f) key = (get? entries key).map (onEntries f) := by
  unfold get? within
  rw [← List.map_reverse, List.find?_map, Option.map_map, Option.map_map]
  refine Option.map_congr fun e he => ?_
  have hkey : e.1.isText key = true := List.find?_some (p := fun e : Value × Value => e.1.isText key) he
  simp [hkey]

theorem get?_within {key other : String} (h : other ≠ key) (entries : List (Value × Value))
    (f : List (Value × Value) → List (Value × Value)) : get? (within entries key f) other = get? entries other := by
  unfold get? within
  rw [← List.map_reverse, List.find?_map, Option.map_map]
  refine Option.map_congr fun e he => ?_
  have hother : e.1.isText other = true := List.find?_some (p := fun e : Value × Value => e.1.isText other) he
  have hkey : e.1.isText key = false := Bool.eq_false_iff.mpr fun hk => h (eq_of_isText hother hk)
  simp [hkey]

end Yaml.Value

namespace Settings
open Text Yaml

/-- What a value is taken for. -/
inductive Kind
  | text
  | texts
  | seconds
  | switch
  | mapping

def Kind.takes : Kind → Value → Bool
  | .mapping, .map _ => true
  | .mapping, _ => false
  | _, .scalar .null => true
  | .text, .scalar (.text _) | .text, .scalar (.int _) | .text, .scalar (.float _) => true
  | .texts, .scalar (.text _) | .texts, .list _ => true
  | .seconds, .scalar (.int _) | .seconds, .scalar (.float _) => true
  | .seconds, .scalar (.text t) => (Number.readFloat t).toOption.isSome
  | .switch, .scalar (.bool _) => true
  | _, _ => false

inductive Key
  | sourceDir
  | outputDir
  | modulePatterns
  | importantPrefixes
  | classifier
  | engine
  | output
  | extraPrefixes
  | extraPatterns
  | disabled
  | executable
  | timeout
  | referencePaths
  | extension
  | pruneStale
  | reportFile
  | logFile
  deriving DecidableEq

namespace Key

def section? : Key → Option String
  | .sourceDir | .outputDir | .modulePatterns | .importantPrefixes | .classifier | .engine | .output => none
  | .extraPrefixes | .extraPatterns | .disabled => some "classifier"
  | .executable | .timeout | .referencePaths => some "engine"
  | .extension | .pruneStale | .reportFile | .logFile => some "output"

def name : Key → String
  | .sourceDir => "source_dir"
  | .outputDir => "output_dir"
  | .modulePatterns => "module_patterns"
  | .importantPrefixes => "important_prefixes"
  | .classifier => "classifier"
  | .engine => "engine"
  | .output => "output"
  | .extraPrefixes => "extra_prefixes"
  | .extraPatterns => "extra_patterns"
  | .disabled => "disabled"
  | .executable => "executable"
  | .timeout => "timeout"
  | .referencePaths => "reference_paths"
  | .extension => "extension"
  | .pruneStale => "prune_stale"
  | .reportFile => "report_file"
  | .logFile => "log_file"

def kind : Key → Kind
  | .sourceDir | .outputDir | .executable | .extension | .reportFile | .logFile => .text
  | .modulePatterns | .importantPrefixes | .extraPrefixes | .extraPatterns | .disabled | .referencePaths => .texts
  | .timeout => .seconds
  | .pruneStale => .switch
  | .classifier | .engine | .output => .mapping

def value? (k : Key) (entries : List (Value × Value)) : Option Value :=
  match k.section? with
  | none => Value.get? entries k.name
  | some s => Value.get? (Settings.section? (Value.get? entries s)) k.name

/-- The entries of a settings file but for what is under a key. -/
def removed (k : Key) (entries : List (Value × Value)) : List (Value × Value) :=
  match k.section? with
  | none => Value.without entries k.name
  | some s => Value.within entries s (Value.without · k.name)

end Key

def numerals : Value → List String
  | .scalar (.bytes bs) => bs.map fun b => toString b.toNat
  | _ => []

/-- What a value that its key does not take makes of the settings that there are without it. -/
def Key.leave (k : Key) (site : Site) (root : Path) (v : Value) (s : Settings) : Settings :=
  match k with
  | .modulePatterns =>
    { s with modulePatterns := if (numerals v).isEmpty then s.modulePatterns else numerals v }
  | .importantPrefixes => { s with importantPrefixes := numerals v }
  | .extraPrefixes => { s with classifier := { s.classifier with extraPrefixes := numerals v } }
  | .extraPatterns => { s with classifier := { s.classifier with extraPatterns := (numerals v).map .ofString } }
  | .disabled => { s with classifier := { s.classifier with disabled := numerals v } }
  | .timeout => { s with engine := { s.engine with timeout := none } }
  | .referencePaths =>
    let places := (numerals v).map fun n => ⟨1, site.files.placeOf (root.child n)⟩
    { s with engine := { s.engine with referencePaths := places } }
  | .pruneStale => { s with output := { s.output with pruneStale := isOn (some v) } }
  | _ => s

/-- That a value that its key does not take counts as absent. -/
def Key.Forgives (k : Key) (v : Value) : Prop :=
  match k with
  | .importantPrefixes | .timeout => False
  | .modulePatterns | .extraPrefixes | .extraPatterns | .disabled | .referencePaths => numerals v = []
  | .pruneStale => isOn (some v) = false
  | _ => True

variable {site : Site} {root : Path} {entries : List (Value × Value)}

theorem section?_onEntries {f : List (Value × Value) → List (Value × Value)} (hf : f [] = [])
    (v : Option Value) : section? (v.map (Value.onEntries f)) = f (section? v) := by
  cases v with
  | none => exact hf.symm
  | some v => cases v <;> simp [section?, Value.onEntries, hf]

theorem section?_within {key : String} (inner : String) :
    Settings.section? (Value.get? (Value.within entries key (Value.without · inner)) key) =
      Value.without (section? (Value.get? entries key)) inner := by
  rw [Value.get?_within_self]
  exact section?_onEntries rfl _

/-! What the readers make of a value that its key does not take. -/

section Readers
variable {v : Value}

theorem filledText?_of_not_takes (h : Kind.text.takes v = false) : filledText? (some v) = filledText? none := by
  cases v with
  | scalar x =>
    cases x with
    | text | int | float => cases h
    | _ => rfl
  | _ => rfl

theorem texts_of_not_takes (h : Kind.texts.takes v = false) :
    texts (some v) = .ok ((numerals v).map .ofString) := by
  cases v with
  | scalar x =>
    cases x with
    | text => cases h
    | bytes bs => simp [texts, numerals, Function.comp_def]
    | _ => rfl
  | list => cases h
  | _ => rfl

theorem strings_of_not_takes (h : Kind.texts.takes v = false) : strings (some v) = .ok (numerals v) := by
  unfold strings
  rw [texts_of_not_takes h]
  have hdisplay : ((numerals v).map CodeText.ofString).map CodeText.display = numerals v := by
    simp [Function.comp_def, CodeText.display_ofString]
  exact congrArg Except.ok hdisplay

theorem seconds?_of_not_takes (h : Kind.seconds.takes v = false) : seconds? v = .ok none := by
  cases v with
  | scalar x =>
    cases x with
    | text t => exact congrArg Except.ok (Option.not_isSome_iff_eq_none.mp (Bool.eq_false_iff.mp h))
    | int | float => cases h
    | _ => rfl
  | _ => rfl

theorem section?_of_not_takes (h : Kind.mapping.takes v = false) : section? (some v) = [] := by
  cases v with
  | map => cases h
  | _ => rfl

end Readers

theorem isPart_numeral (n : Nat) : Path.isPart (toString n) = true := by
  have hdot : n.repr ≠ "." := by
    intro h
    have hmem : '.' ∈ Nat.toDigits 10 n := by
      rw [← Nat.toList_repr, h]
      decide
    exact absurd (Nat.isDigit_of_mem_toDigits (by decide) (by decide) hmem) (by decide)
  simp [Path.isPart, Nat.repr_ne_empty, hdot]

theorem pathOf_numeral (hz : Files.holdsZero root = false) (n : Nat) :
    pathOf site root (.ofString (toString n)) = .ok ⟨1, site.files.placeOf (root.child (toString n))⟩ := by
  have htame := tame_natText n
  have hchild : root.join (.ofString (toString n)) = root.child (toString n) := by
    rw [ofString_of_tame htame, List.filter_cons_of_pos (isPart_numeral n)]
    rfl
  have hzero : Files.holdsZero (root.child (toString n)) = false := by
    rw [← hchild, Files.holdsZero_join hz, holdsZero_of_tame htame]
  unfold pathOf place
  rw [CodeText.unnameable?_ofString]
  dsimp only
  rw [CodeText.display_ofString, expand_of_tame htame, mapError_ok]
  dsimp only [bind, Except.bind]
  rw [hchild, Files.resolve_eq site.files hzero, mapError_ok]

set_option maxRecDepth 10000 in
theorem read_numeral (b : UInt8) : ∃ p, Pattern.read (.ofString (toString b.toNat)) = .ok p := by
  have hall : ∀ n : Fin 256, (Pattern.read (.ofString (toString n.val))).isOk = true := by decide +kernel
  have hb : (Pattern.read (.ofString (toString b.toNat))).isOk = true := hall b.toFin
  cases hread : Pattern.read (.ofString (toString b.toNat)) with
  | ok p => exact ⟨p, rfl⟩
  | error e =>
    rw [hread] at hb
    cases hb

theorem checkPatterns_numerals (v : Value) : checkPatterns ((numerals v).map .ofString) = .ok () := by
  have hnone : badPattern? ((numerals v).map .ofString) = none := by
    refine List.findSome?_eq_none_iff.mpr fun t ht => ?_
    unfold numerals at ht
    split at ht
    · obtain ⟨n, hn, rfl⟩ := List.mem_map.mp ht
      obtain ⟨b, -, rfl⟩ := List.mem_map.mp hn
      obtain ⟨p, hp⟩ := read_numeral b
      rw [hp]
    · cases ht
  rw [checkPatterns_eq, hnone]

theorem pathsOf_numerals (hz : Files.holdsZero root = false) (v : Value) :
    (((numerals v).map CodeText.ofString).filter (!·.isEmpty)).mapM (pathOf site root) =
      .ok ((numerals v).map fun n => ⟨1, site.files.placeOf (root.child n)⟩) := by
  unfold numerals
  split
  · next bs =>
    have hfilled : ((bs.map fun b => toString b.toNat).map CodeText.ofString).filter (!·.isEmpty) =
        bs.map fun b => .ofString (toString b.toNat) := by
      rw [List.map_map]
      refine List.filter_eq_self.mpr fun t ht => ?_
      obtain ⟨b, -, rfl⟩ := List.mem_map.mp ht
      simp [CodeText.ofString, Nat.toDigits_ne_nil]
    have hpath : (fun b : UInt8 => pathOf site root (.ofString (toString b.toNat))) = fun b =>
        .ok ⟨1, site.files.placeOf (root.child (toString b.toNat))⟩ := funext fun b => pathOf_numeral hz b.toNat
    rw [hfilled, List.mapM_map, Function.comp_def, hpath, List.map_map]
    exact List.mapM_pure
  · rfl

/-! What each part of the settings is without one of its keys. -/

section Sections
variable {v : Value}

theorem readClassifier_without_extraPrefixes (hv : Value.get? entries "extra_prefixes" = some v)
    (ht : Kind.texts.takes v = false) : readClassifier entries =
      (fun c => { c with extraPrefixes := numerals v }) <$>
        readClassifier (Value.without entries "extra_prefixes") := by
  simp (disch := decide) only [readClassifier, Value.get?_without, Value.get?_without_self, hv, strings_of_not_takes ht,
    map_bind]
  rfl

theorem readClassifier_without_extraPatterns (hv : Value.get? entries "extra_patterns" = some v)
    (ht : Kind.texts.takes v = false) : readClassifier entries =
      (fun c => { c with extraPatterns := (numerals v).map .ofString }) <$>
        readClassifier (Value.without entries "extra_patterns") := by
  simp (disch := decide) only [readClassifier, Value.get?_without, Value.get?_without_self, hv, texts_of_not_takes ht,
    map_bind]
  have hchecked (c : RuleSettings) :
      (checkPatterns ((numerals v).map .ofString) >>= fun _ => .ok c) = Except.ok c := by
    rw [checkPatterns_numerals]
    rfl
  exact congrArg _ (funext fun prefixes => congrArg _ (funext fun disabled => hchecked _))

theorem readClassifier_without_disabled (hv : Value.get? entries "disabled" = some v)
    (ht : Kind.texts.takes v = false) : readClassifier entries =
      (fun c => { c with disabled := numerals v }) <$> readClassifier (Value.without entries "disabled") := by
  simp (disch := decide) only [readClassifier, Value.get?_without, Value.get?_without_self, hv, strings_of_not_takes ht,
    map_bind]
  rfl

theorem readEngine_without_executable (hv : Value.get? entries "executable" = some v)
    (ht : Kind.text.takes v = false) : readEngine site root entries =
      readEngine site root (Value.without entries "executable") := by
  simp (disch := decide) only [readEngine, Value.get?_without, Value.get?_without_self, hv,
    filledText?_of_not_takes ht]

theorem readEngine_without_timeout (hv : Value.get? entries "timeout" = some v)
    (ht : Kind.seconds.takes v = false) : readEngine site root entries =
      (fun e => { e with timeout := none }) <$> readEngine site root (Value.without entries "timeout") := by
  simp (disch := decide) only [readEngine, Value.get?_without, Value.get?_without_self, hv, seconds?_of_not_takes ht,
    map_bind]
  rfl

theorem readEngine_without_referencePaths (hz : Files.holdsZero root = false)
    (hv : Value.get? entries "reference_paths" = some v) (ht : Kind.texts.takes v = false) :
    readEngine site root entries =
      (fun e => { e with referencePaths := (numerals v).map fun n => ⟨1, site.files.placeOf (root.child n)⟩ }) <$>
        readEngine site root (Value.without entries "reference_paths") := by
  simp (disch := decide) only [readEngine, Value.get?_without, Value.get?_without_self, hv, texts_of_not_takes ht,
    map_bind]
  refine congrArg _ (funext fun executable => ?_)
  cases Value.get? entries "timeout" with
  | none => simp only [ok_bind, pathsOf_numerals hz, map_bind]; rfl
  | some v => simp only [ok_bind, pathsOf_numerals hz, map_bind]; rfl

theorem readOutput_without_text {key : String} (hkey : key ∈ ["extension", "report_file", "log_file"])
    (hv : Value.get? entries key = some v) (ht : Kind.text.takes v = false) :
    readOutput entries = readOutput (Value.without entries key) := by
  simp only [List.mem_cons, List.not_mem_nil, or_false] at hkey
  obtain rfl | rfl | rfl := hkey <;>
    simp (disch := decide) only [readOutput, Value.get?_without, Value.get?_without_self, hv,
      filledText?_of_not_takes ht]

theorem readOutput_without_pruneStale (hv : Value.get? entries "prune_stale" = some v) : readOutput entries =
      (fun o => { o with pruneStale := isOn (some v) }) <$> readOutput (Value.without entries "prune_stale") := by
  simp (disch := decide) only [readOutput, Value.get?_without, Value.get?_without_self, hv, map_bind]
  rfl

theorem ofEntries_without_directory {key : String} (hkey : key ∈ ["source_dir", "output_dir"])
    (hv : Value.get? entries key = some v) (ht : Kind.text.takes v = false) :
    ofEntries site root entries = ofEntries site root (Value.without entries key) := by
  simp only [List.mem_cons, List.not_mem_nil, or_false] at hkey
  obtain rfl | rfl := hkey <;>
    simp (disch := decide) only [ofEntries, path?, Value.get?_without, Value.get?_without_self, hv,
      filledText?_of_not_takes ht]

theorem ofEntries_without_modulePatterns (hv : Value.get? entries "module_patterns" = some v)
    (ht : Kind.texts.takes v = false) : ofEntries site root entries =
      (fun s => { s with modulePatterns := if (numerals v).isEmpty then s.modulePatterns else numerals v }) <$>
        ofEntries site root (Value.without entries "module_patterns") := by
  have hnone : strings none = .ok [] := rfl
  simp (disch := decide) only [ofEntries, Value.get?_without, Value.get?_without_self, hv, strings_of_not_takes ht,
    map_bind, hnone, ok_bind]
  split <;> simp only [map_bind, map_pure] <;> rfl

theorem ofEntries_without_importantPrefixes (hv : Value.get? entries "important_prefixes" = some v)
    (ht : Kind.texts.takes v = false) : ofEntries site root entries =
      (fun s => { s with importantPrefixes := numerals v }) <$>
        ofEntries site root (Value.without entries "important_prefixes") := by
  simp (disch := decide) only [ofEntries, Value.get?_without, Value.get?_without_self, hv, map_bind]
  cases v with
  | scalar x =>
    cases x with
    | null => cases ht
    | _ => simp only [strings_of_not_takes ht]; rfl
  | _ => simp only [strings_of_not_takes ht]; rfl

theorem ofEntries_without_section {key : String} (hkey : key ∈ ["classifier", "engine", "output"])
    (hv : Value.get? entries key = some v) (ht : Kind.mapping.takes v = false) :
    ofEntries site root entries = ofEntries site root (Value.without entries key) := by
  have hempty : section? none = [] := rfl
  simp only [List.mem_cons, List.not_mem_nil, or_false] at hkey
  obtain rfl | rfl | rfl := hkey <;>
    simp (disch := decide) only [ofEntries, Value.get?_without, Value.get?_without_self, hv, section?_of_not_takes ht,
      hempty]

theorem ofEntries_within_classifier {inner : String} {f : RuleSettings → RuleSettings}
    (h : readClassifier (section? (Value.get? entries "classifier")) =
      f <$> readClassifier (Value.without (section? (Value.get? entries "classifier")) inner)) :
    ofEntries site root entries = (fun s => { s with classifier := f s.classifier }) <$>
      ofEntries site root (Value.within entries "classifier" (Value.without · inner)) := by
  simp (disch := decide) only [ofEntries, Value.get?_within, section?_within, h, map_bind, bind_map_left]
  split <;> simp only [map_bind] <;> rfl

theorem ofEntries_within_engine {inner : String} {f : EngineSettings → EngineSettings}
    (h : readEngine site root (section? (Value.get? entries "engine")) =
      f <$> readEngine site root (Value.without (section? (Value.get? entries "engine")) inner)) :
    ofEntries site root entries = (fun s => { s with engine := f s.engine }) <$>
      ofEntries site root (Value.within entries "engine" (Value.without · inner)) := by
  simp (disch := decide) only [ofEntries, Value.get?_within, section?_within, h, map_bind, bind_map_left]
  split <;> simp only [map_bind] <;> rfl

theorem ofEntries_within_output {inner : String} {f : OutputSettings → OutputSettings}
    (h : readOutput (section? (Value.get? entries "output")) =
      f <$> readOutput (Value.without (section? (Value.get? entries "output")) inner)) :
    ofEntries site root entries = (fun s => { s with output := f s.output }) <$>
      ofEntries site root (Value.within entries "output" (Value.without · inner)) := by
  simp (disch := decide) only [ofEntries, Value.get?_within, section?_within, h, map_bind, bind_map_left]
  split <;> simp only [map_bind] <;> rfl

end Sections

/-- A value that its key does not take leaves the settings that there are without it, but for one part at most. -/
theorem ofEntries_of_not_takes {k : Key} {v : Value} (hz : Files.holdsZero root = false)
    (hv : k.value? entries = some v) (ht : k.kind.takes v = false) :
    ofEntries site root entries = k.leave site root v <$> ofEntries site root (k.removed entries) := by
  have hid {α : Type} (x : Except SettingsError α) : x = id <$> x := (id_map x).symm
  cases k with
  | sourceDir => exact (ofEntries_without_directory (by decide) hv ht).trans (hid _)
  | outputDir => exact (ofEntries_without_directory (by decide) hv ht).trans (hid _)
  | modulePatterns => exact ofEntries_without_modulePatterns hv ht
  | importantPrefixes => exact ofEntries_without_importantPrefixes hv ht
  | classifier => exact (ofEntries_without_section (by decide) hv ht).trans (hid _)
  | engine => exact (ofEntries_without_section (by decide) hv ht).trans (hid _)
  | output => exact (ofEntries_without_section (by decide) hv ht).trans (hid _)
  | extraPrefixes => exact ofEntries_within_classifier (readClassifier_without_extraPrefixes hv ht)
  | extraPatterns => exact ofEntries_within_classifier (readClassifier_without_extraPatterns hv ht)
  | disabled => exact ofEntries_within_classifier (readClassifier_without_disabled hv ht)
  | executable => exact ofEntries_within_engine ((readEngine_without_executable hv ht).trans (hid _))
  | timeout => exact ofEntries_within_engine (readEngine_without_timeout hv ht)
  | referencePaths => exact ofEntries_within_engine (readEngine_without_referencePaths hz hv ht)
  | extension => exact ofEntries_within_output ((readOutput_without_text (by decide) hv ht).trans (hid _))
  | pruneStale => exact ofEntries_within_output (readOutput_without_pruneStale hv)
  | reportFile => exact ofEntries_within_output ((readOutput_without_text (by decide) hv ht).trans (hid _))
  | logFile => exact ofEntries_within_output ((readOutput_without_text (by decide) hv ht).trans (hid _))

theorem value?_removed (k : Key) (entries : List (Value × Value)) : k.value? (k.removed entries) = none := by
  unfold Key.value? Key.removed
  cases k.section? with
  | none => exact Value.get?_without_self entries k.name
  | some key => exact (congrArg (Value.get? · k.name) (section?_within k.name)).trans (Value.get?_without_self _ _)

theorem isDigit_of_mem_numerals {v : Value} {t : String} (ht : t ∈ numerals v) :
    ∀ c ∈ t.toList, c.isDigit = true := by
  unfold numerals at ht
  split at ht
  · obtain ⟨b, -, rfl⟩ := List.mem_map.mp ht
    intro c hc
    rw [Nat.toString_eq_repr, Nat.toList_repr] at hc
    exact Nat.isDigit_of_mem_toDigits (by decide) (by decide) hc
  · cases ht

theorem leave_eq_self_iff {k : Key} {s : Settings} (h : ofEntries site root (k.removed entries) = .ok s) (v : Value) :
    k.leave site root v s = s ↔ k.Forgives v := by
  have hnone := value?_removed k entries
  have hparts := parts h
  obtain ⟨_, _, _, patterns, _, ⟨_, _, _⟩, ⟨_, timeout, _⟩, ⟨_, pruneStale, _, _⟩⟩ := s
  cases k with
  | sourceDir | outputDir | classifier | engine | output | executable | extension | reportFile | logFile =>
    exact iff_of_true rfl trivial
  | modulePatterns =>
    obtain ⟨ps, hps, hpatterns⟩ := hparts.modulePatterns
    cases (congrArg strings hnone).symm.trans hps
    have hpatterns : patterns = ["*.dll"] := hpatterns
    have hother : numerals v ≠ patterns := by
      intro heq
      have hmem : "*.dll" ∈ numerals v := by simp [heq, hpatterns]
      exact absurd (isDigit_of_mem_numerals hmem '*' (by decide)) (by decide)
    simp [Key.leave, Key.Forgives, hother]
  | importantPrefixes =>
    have hprefixes := hparts.importantPrefixes hnone
    refine iff_of_false (fun heq => ?_) id
    have hnumerals : numerals v = Importance.defaultPrefixes :=
      (congrArg Settings.importantPrefixes heq).trans hprefixes
    have hmem : "Rust" ∈ numerals v := by
      rw [hnumerals]
      decide
    exact absurd (isDigit_of_mem_numerals hmem 'R' (by decide)) (by decide)
  | extraPrefixes =>
    cases (congrArg strings hnone).symm.trans hparts.classifier.extraPrefixes
    simp [Key.leave, Key.Forgives]
  | extraPatterns =>
    cases (congrArg texts hnone).symm.trans hparts.classifier.extraPatterns
    simp [Key.leave, Key.Forgives]
  | disabled =>
    cases (congrArg strings hnone).symm.trans hparts.classifier.disabled
    simp [Key.leave, Key.Forgives]
  | timeout =>
    have htimeout := hparts.engine.timeout
    have hnone : Value.get? (section? (Value.get? (Key.timeout.removed entries) "engine")) "timeout" = none := hnone
    rw [hnone] at htimeout
    have htimeout : timeout = some 120.0 := htimeout
    simp [Key.leave, Key.Forgives, htimeout]
  | referencePaths =>
    obtain ⟨ts, hts, hpaths⟩ := hparts.engine.referencePaths
    cases (congrArg texts hnone).symm.trans hts
    cases hpaths
    simp [Key.leave, Key.Forgives]
  | pruneStale =>
    have hprune : pruneStale = false := hparts.output.pruneStale.trans (congrArg isOn hnone)
    simp [Key.leave, Key.Forgives, hprune]

/-- For every settings file and every key in it with a value of a type that the key does not take: the file makes the
settings that it would make without the key, but for the part that `leave` tells of. Nothing else in them changes, and
the value counts as absent exactly if `Forgives` says so. -/
theorem load_unusable {site site' : Site} (hhomes : site'.homes = site.homes)
    (hcurrent : site'.files.current = site.files.current) {path file : Path} {bytes bytes' : ByteArray}
    {entries : List (Value × Value)} {k : Key} {v : Value}
    (hfile : locate site path = .ok file) (hread : site.files.readFile file = .ok bytes)
    (hentries : readEntries file.name bytes = .ok entries)
    (hfile' : locate site' path = .ok file) (hread' : site'.files.readFile file = .ok bytes')
    (hentries' : readEntries file.name bytes' = .ok (k.removed entries))
    (hv : k.value? entries = some v) (ht : k.kind.takes v = false) :
    load site path = k.leave site file.parent v <$> load site' path ∧
      ∀ s, load site' path = .ok s → (load site path = .ok s ↔ k.Forgives v) := by
  have hz := holdsZero_parent (Files.readFile_eq_ok.mp hread).1
  have hload : load site path = ofEntries site file.parent entries := by
    rw [load_eq hfile hread, hentries]
    rfl
  have hplace (text : String) : place site' file.parent text = place site file.parent text := by
    simp only [place, Files.resolve, hhomes, hcurrent]
  have hload' : load site' path = ofEntries site file.parent (k.removed entries) := by
    rw [load_eq hfile' hread', hentries', ← ofEntries_of_place hplace]
    rfl
  have hleave : ofEntries site file.parent entries =
      k.leave site file.parent v <$> ofEntries site file.parent (k.removed entries) := ofEntries_of_not_takes hz hv ht
  rw [hload, hload']
  refine ⟨hleave, fun s hs => ?_⟩
  rw [hleave, hs, ← leave_eq_self_iff hs v]
  exact ⟨Except.ok.inj, congrArg Except.ok⟩

theorem noted_homes (text text' : String) : (noted text').homes = (noted text).homes := rfl

theorem noted_current (text text' : String) : (noted text').files.current = (noted text).files.current := rfl

theorem load_unusable_prefixes : load (noted "") ⟨1, []⟩ = .ok (default ⟨1, []⟩) ∧
    load (noted "important_prefixes: 5\n") ⟨1, []⟩ = .ok { default ⟨1, []⟩ with importantPrefixes := [] } ∧
    load (noted "important_prefixes: 5\n") ⟨1, []⟩ ≠ .ok (default ⟨1, []⟩) := by
  have hentries : readEntries ".typesift.yml" "important_prefixes: 5\n".toByteArray =
      .ok [(.scalar (.text (.ofString "important_prefixes")), .scalar (.int 5))] :=
    eq_of_holdsOnly (by decide +kernel)
  have hentries' : readEntries ".typesift.yml" "".toByteArray = .ok [] := eq_of_holdsNothing (by decide +kernel)
  have hload' : load (noted "") ⟨1, []⟩ = .ok (default ⟨1, []⟩) := (load_noted hentries').trans rfl
  have hname : (⟨1, [".typesift.yml"]⟩ : Path).name = ".typesift.yml" := rfl
  obtain ⟨hleave, hiff⟩ := load_unusable (k := .importantPrefixes) (noted_homes _ _) (noted_current _ _)
    (locate_noted _) (readFile_noted _) (hname ▸ hentries) (locate_noted _) (readFile_noted _) (hname ▸ hentries')
    rfl rfl
  rw [hload'] at hleave
  exact ⟨hload', hleave, (hiff _ hload').mp⟩

end Settings
end Winnow
