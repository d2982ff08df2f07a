import Mathlib.Data.List.Forall2
import Winnow.RuleSet
import Winnow.Proofs.PatternLanguage

/-!
What the built-in rules look for. Each of them flags the names that show a mark, told by the characters of the name
alone, and the default classifier gives the first rule whose mark a name shows.
-/
set_option autoImplicit false

namespace Winnow

theorem standsIn_iff (part cs : List Char) : standsIn part cs = true ↔ part <:+: cs := by
  induction cs with
  | nil => simp [standsIn]
  | cons c rest ih => rw [standsIn, Bool.or_eq_true, List.isPrefixOf_iff_prefix, ih, List.infix_cons_iff]

theorem beginsWith_iff (part text : String) : beginsWith part text = true ↔ part.toList <+: text.toList :=
  List.isPrefixOf_iff_prefix

namespace Pattern.Program

variable {a b : Program} {cs : List Char}

theorem reads_seq : (a.seq b).Reads cs ↔ ∃ u v, cs = u ++ v ∧ a.Reads u ∧ b.Reads v := by
  simp only [Reads, Takes]
  constructor
  · rintro ⟨u, v, h, ha, hb⟩
    obtain ⟨u, v, rfl, rfl, rfl⟩ := List.map_eq_append_iff.mp h
    exact ⟨u, v, rfl, ha, hb⟩
  · rintro ⟨u, v, rfl, ha, hb⟩
    exact ⟨_, _, List.map_append, ha, hb⟩

theorem reads_one (c : Char) : (Program.one (· == c.toNat)).Reads cs ↔ cs = [c] := by
  simp only [Reads, Takes, beq_iff_eq, exists_eq_right]
  constructor
  · intro h
    obtain ⟨d, rfl, hd⟩ := List.map_eq_singleton_iff.mp h
    rw [Char.toNat_inj.mp hd]
  · rintro rfl
    rfl

theorem reads_run {mode : RepeatMode} {least : Nat} {most : Option Nat} {test : Nat → Bool} :
    (Program.run mode least most test).Reads cs ↔
      least ≤ cs.length ∧ (∀ n ∈ most, cs.length ≤ n) ∧ ∀ c ∈ cs, test c.toNat = true := by
  simp only [Reads, Takes, List.length_map, List.forall_mem_map]

end Pattern.Program

namespace Rule
open Pattern Pattern.Program

variable {cs : List Char}

theorem simple_text (part : List Char) : (text part).Simple := by
  induction part with
  | nil => trivial
  | cons c rest ih =>
    cases rest with
    | nil => trivial
    | cons d rest => exact ⟨trivial, ih⟩

theorem reads_text (part : List Char) : (text part).Reads cs ↔ cs = part := by
  induction part generalizing cs with
  | nil => simp [text, Reads, Takes]
  | cons c rest ih =>
    cases rest with
    | nil => exact reads_one c
    | cons d rest =>
      rw [text, reads_seq]
      · simp only [reads_one, ih]
        constructor
        · rintro ⟨u, v, rfl, rfl, rfl⟩
          rfl
        · rintro rfl
          exact ⟨[c], d :: rest, rfl, rfl, rfl⟩
      · simp

def IsHex (c : Char) : Prop := ('0' ≤ c ∧ c ≤ '9') ∨ ('a' ≤ c ∧ c ≤ 'f') ∨ ('A' ≤ c ∧ c ≤ 'F')

theorem isHexDigit_iff (c : Char) : isHexDigit c.toNat = true ↔ IsHex c := by
  simp only [isHexDigit, IsHex, Char.le_def, Bool.or_eq_true, Bool.and_eq_true, decide_eq_true_eq, or_assoc]
  rfl

def IsGroups (sizes : List Nat) (cs : List Char) : Prop :=
  ∃ groups : List (List Char), groups.map List.length = sizes ∧ (∀ g ∈ groups, ∀ c ∈ g, IsHex c) ∧
    cs = ['-'].intercalate groups

theorem isGroups_nil : IsGroups [] cs ↔ cs = [] := by
  constructor
  · rintro ⟨groups, hl, -, rfl⟩
    rw [List.map_eq_nil_iff.mp hl]
    rfl
  · rintro rfl
    exact ⟨[], rfl, by simp, rfl⟩

theorem isGroups_singleton {n : Nat} : IsGroups [n] cs ↔ cs.length = n ∧ ∀ c ∈ cs, IsHex c := by
  constructor
  · rintro ⟨groups, hl, hh, rfl⟩
    obtain ⟨g, rfl, rfl⟩ := List.map_eq_singleton_iff.mp hl
    rw [List.intercalate_singleton]
    exact ⟨rfl, hh g (by simp)⟩
  · rintro ⟨rfl, hh⟩
    exact ⟨[cs], rfl, by simpa using hh, by simp⟩

theorem isGroups_cons {n m : Nat} {rest : List Nat} : IsGroups (n :: m :: rest) cs ↔
    ∃ g more, cs = g ++ '-' :: more ∧ (g.length = n ∧ ∀ c ∈ g, IsHex c) ∧ IsGroups (m :: rest) more := by
  constructor
  · rintro ⟨groups, hl, hh, rfl⟩
    obtain ⟨g, tail, rfl, rfl, htail⟩ := List.map_eq_cons_iff.mp hl
    obtain ⟨g', tail, rfl, rfl, rfl⟩ := List.map_eq_cons_iff.mp htail
    refine ⟨g, ['-'].intercalate (g' :: tail), ?_, ⟨rfl, hh g (by simp)⟩, g' :: tail, rfl,
      fun g hg => hh g (List.mem_cons_of_mem _ hg), rfl⟩
    rw [List.intercalate_cons_cons, List.append_assoc]
    rfl
  · rintro ⟨g, more, rfl, ⟨rfl, hg⟩, groups, hl, hh, rfl⟩
    obtain ⟨g', tail, rfl, rfl, rfl⟩ := List.map_eq_cons_iff.mp hl
    refine ⟨g :: g' :: tail, rfl, List.forall_mem_cons.mpr ⟨hg, hh⟩, ?_⟩
    rw [List.intercalate_cons_cons, List.append_assoc]
    rfl

theorem simple_hexGroups (sizes : List Nat) : (hexGroups sizes).Simple := by
  induction sizes with
  | nil => trivial
  | cons n rest ih =>
    cases rest with
    | nil => exact nofun
    | cons m rest => exact ⟨nofun, trivial, ih⟩

theorem reads_digits (n : Nat) : (Program.run .greedy n (some n) isHexDigit).Reads cs ↔
    cs.length = n ∧ ∀ c ∈ cs, IsHex c := by
  simp only [reads_run, isHexDigit_iff, Option.mem_some_iff, forall_eq']
  constructor
  · exact fun ⟨hl, hu, h⟩ => ⟨Nat.le_antisymm hu hl, h⟩
  · exact fun ⟨hl, h⟩ => ⟨Nat.le_of_eq hl.symm, Nat.le_of_eq hl, h⟩

theorem reads_hexGroups (sizes : List Nat) : (hexGroups sizes).Reads cs ↔ IsGroups sizes cs := by
  induction sizes generalizing cs with
  | nil => rw [isGroups_nil, hexGroups, Reads, Takes, List.map_eq_nil_iff]
  | cons n rest ih =>
    cases rest with
    | nil => rw [isGroups_singleton, hexGroups, reads_digits]
    | cons m rest =>
      rw [isGroups_cons, hexGroups, reads_seq]
      · simp only [reads_seq, reads_digits, reads_one, ih]
        constructor
        · rintro ⟨g, tail, rfl, hg, hyphen, more, rfl, rfl, hm⟩
          exact ⟨g, more, rfl, hg, hm⟩
        · rintro ⟨g, more, rfl, hg, hm⟩
          exact ⟨g, '-' :: more, rfl, hg, ['-'], more, rfl, rfl, hm⟩
      · simp

/-- An opening angle bracket, and on the same line behind it a place from which on a name has the given form. -/
def Closes (tail : List Char → Prop) (cs : List Char) : Prop :=
  ∃ i j, i < j ∧ cs[i]? = some '<' ∧ (∀ n, i < n → n < j → cs[n]? ≠ some '\n') ∧ tail (cs.drop j)

def Numbered (part : String) (cs : List Char) : Prop :=
  ∃ d : Char, Text.isDecimal d.toNat = true ∧ part.toList ++ [d] <+: cs

theorem closes_iff {tail : List Char → Prop} : Closes tail cs ↔
    ∃ before middle rest, cs = before ++ '<' :: (middle ++ rest) ∧ '\n' ∉ middle ∧ tail rest := by
  constructor
  · rintro ⟨i, j, hij, hi, hline, ht⟩
    obtain ⟨hlt, hget⟩ := List.getElem?_eq_some_iff.mp hi
    refine ⟨cs.take i, (cs.drop (i + 1)).take (j - (i + 1)), cs.drop j, ?_, fun hm => ?_, ht⟩
    · have hrest : (cs.drop (i + 1)).take (j - (i + 1)) ++ cs.drop j = cs.drop (i + 1) := by
        have hdrop : cs.drop j = (cs.drop (i + 1)).drop (j - (i + 1)) := by
          rw [List.drop_drop, Nat.add_sub_cancel' hij]
        rw [hdrop, List.take_append_drop]
      rw [hrest, ← hget, ← List.drop_eq_getElem_cons hlt, List.take_append_drop]
    · obtain ⟨n, hn⟩ := List.mem_iff_getElem?.mp hm
      rw [List.getElem?_take] at hn
      split at hn
      · next hlt =>
        rw [List.getElem?_drop] at hn
        exact hline _ (by omega) (by omega) hn
      · cases hn
  · rintro ⟨before, middle, rest, rfl, hline, ht⟩
    refine ⟨before.length, before.length + (middle.length + 1), by omega, by simp, fun n hl hu hn => ?_, ?_⟩
    · rw [List.getElem?_append_right (by omega), show n - before.length = n - before.length - 1 + 1 by omega,
        List.getElem?_cons_succ, List.getElem?_append_left (by omega)] at hn
      exact hline (List.mem_of_getElem? hn)
    · rw [← List.drop_drop, List.drop_left, List.drop_succ_cons, List.drop_left]
      exact ht

theorem reads_bracketed {tail : Program} : (bracketed tail).program.Reads cs ↔
    ∃ middle rest, cs = '<' :: (middle ++ rest) ∧ '\n' ∉ middle ∧ tail.Reads rest := by
  have hline : ∀ middle : List Char, (Program.run .greedy 0 none (· != '\n'.toNat)).Reads middle ↔ '\n' ∉ middle := by
    intro middle
    simp only [reads_run, bne_iff_ne, ne_eq, Char.toNat_inj, Nat.zero_le, reduceCtorEq, Option.mem_def, true_and,
      false_implies, implies_true]
    exact ⟨fun h hm => h _ hm rfl, fun h c hc he => h (he ▸ hc)⟩
  simp only [bracketed, reads_seq, reads_one, hline]
  constructor
  · rintro ⟨_, _, rfl, rfl, middle, rest, rfl, hm, hr⟩
    exact ⟨middle, rest, rfl, hm, hr⟩
  · rintro ⟨middle, rest, rfl, hm, hr⟩
    exact ⟨['<'], middle ++ rest, rfl, rfl, middle, rest, rfl, hm, hr⟩

theorem simple_bracketed {tail : Program} (ht : tail.Simple) : (bracketed tail).program.Simple := ⟨trivial, nofun, ht⟩

theorem simple_numbered (part : String) : ((text part.toList).seq number).Simple := ⟨simple_text _, nofun⟩

theorem occursIn_bracketed {tail : Program} (ht : tail.Simple) (name : String) :
    (bracketed tail).occursIn name = true ↔
      Closes (fun rest => ∃ part, tail.Reads part ∧ part <+: rest) name.toList := by
  rw [occursIn_iff (simple_bracketed ht), closes_iff]
  constructor
  · rintro ⟨_, hr, before, after, hname⟩
    obtain ⟨middle, part, rfl, hm, hp⟩ := reads_bracketed.mp hr
    exact ⟨before, middle, part ++ after, by simp [← hname], hm, part, hp, List.prefix_append _ _⟩
  · rintro ⟨before, middle, rest, hname, hm, part, hp, after, rfl⟩
    exact ⟨'<' :: (middle ++ part), reads_bracketed.mpr ⟨middle, part, rfl, hm, hp⟩, before, after, by simp [hname]⟩

theorem Closes.congr {tail tail' : List Char → Prop} (h : ∀ rest, tail rest ↔ tail' rest) :
    Closes tail cs ↔ Closes tail' cs := by simp only [Closes, h]

theorem occursIn_text (part : String) (name : String) :
    (bracketed (text part.toList)).occursIn name = true ↔ Closes (part.toList <+: ·) name.toList := by
  rw [occursIn_bracketed (simple_text _)]
  exact Closes.congr fun rest => by simp only [reads_text, exists_eq_left]

theorem occursIn_numbered (part : String) (name : String) :
    (bracketed (.seq (text part.toList) number)).occursIn name = true ↔ Closes (Numbered part) name.toList := by
  rw [occursIn_bracketed (simple_numbered part)]
  refine Closes.congr fun rest => ?_
  simp only [reads_seq, reads_text, number, reads_run]
  constructor
  · rintro ⟨_, ⟨_, digits, rfl, rfl, hl, -, hd⟩, hpre⟩
    cases digits with
    | nil => exact absurd hl (by decide)
    | cons d digits =>
      refine ⟨d, hd d (by simp), List.IsPrefix.trans ?_ hpre⟩
      exact (List.prefix_append_right_inj _).mpr (List.cons_prefix_cons.mpr ⟨rfl, List.nil_prefix⟩)
  · rintro ⟨d, hd, hpre⟩
    exact ⟨part.toList ++ [d], ⟨_, [d], rfl, rfl, Nat.le_refl _, by simp, by simpa using hd⟩, hpre⟩

theorem accepts_embeddedGuid (name : String) : embeddedGuid.accepts name = true ↔
    ∃ guid, IsGroups [8, 4, 4, 4, 12] guid ∧ '<' :: (guid ++ ['>']) <:+: name.toList := by
  have hs : (Program.seq (.one (· == '<'.toNat))
      (.seq (hexGroups [8, 4, 4, 4, 12]) (.one (· == '>'.toNat)))).Simple := ⟨trivial, simple_hexGroups _, trivial⟩
  rw [embeddedGuid, ofPattern, occursIn_iff hs]
  simp only [reads_seq, reads_one, reads_hexGroups]
  constructor
  · rintro ⟨_, ⟨_, _, rfl, rfl, guid, _, rfl, hg, rfl⟩, hin⟩
    exact ⟨guid, hg, hin⟩
  · rintro ⟨guid, hg, hin⟩
    exact ⟨_, ⟨['<'], guid ++ ['>'], rfl, rfl, guid, ['>'], rfl, hg, rfl⟩, hin⟩

theorem accepts_literalPrefix {prefixes : List String} (hne : ∀ p ∈ prefixes, p ≠ "") (name : String) :
    (literalPrefix prefixes).accepts name = true ↔ ∃ p ∈ prefixes, p.toList <+: name.toList := by
  simp only [literalPrefix, List.any_eq_true, Bool.and_eq_true, Bool.not_eq_true', String.isEmpty_eq_false_iff,
    beginsWith_iff]
  constructor
  · rintro ⟨p, hp, -, h⟩
    exact ⟨p, hp, h⟩
  · rintro ⟨p, hp, h⟩
    exact ⟨p, hp, hne p hp, h⟩

theorem accepts_compilerAttribute (name : String) : compilerAttribute.accepts name = true ↔
    "Attribute".toList <:+: name.toList ∧
      ("CompilerGenerated".toList <:+: name.toList ∨ "Nullable".toList <:+: name.toList) := by
  have hlonger : "Nullable".toList <:+: "NullableContext".toList := ⟨[], "Context".toList, by decide⟩
  simp only [compilerAttribute, List.any_cons, List.any_nil, Bool.or_false, Bool.and_eq_true, Bool.or_eq_true,
    standsIn_iff]
  refine and_congr_right fun _ => or_congr_right ?_
  exact ⟨fun h => h.elim hlonger.trans id, .inr⟩

theorem accepts_localFunction (name : String) : localFunction.accepts name = true ↔
    ['<'] <+: name.toList ∧ "g__".toList <:+: name.toList := by
  simp only [localFunction, Bool.and_eq_true, standsIn_iff, beginsWith_iff]
  rfl

end Rule

/-- What tells generated names: the name of a rule, and what the rule looks for in the characters of a name. -/
structure Mark where
  rule : String
  Shows : List Char → Prop

namespace Mark
open Rule

/-- The marks of the built-in rules, in their order. -/
def builtins : List Mark :=
  [⟨"literal-prefix", fun cs => ∃ p ∈ defaultPrefixes, p.toList <+: cs⟩,
    ⟨"embedded-guid", fun cs => ∃ guid, IsGroups [8, 4, 4, 4, 12] guid ∧ '<' :: (guid ++ ['>']) <:+: cs⟩,
    ⟨"state-machine", Closes (Numbered ">d__")⟩,
    ⟨"fixed-buffer", Closes (">e__FixedBuffer".toList <+: ·)⟩,
    ⟨"anon-storey", Closes (Numbered ">c__AnonStorey")⟩,
    ⟨"legacy-iterator", Closes (Numbered ">c__Iterator")⟩,
    ⟨"compiler-attribute", fun cs =>
      "Attribute".toList <:+: cs ∧ ("CompilerGenerated".toList <:+: cs ∨ "Nullable".toList <:+: cs)⟩,
    ⟨"local-function", fun cs => ['<'] <+: cs ∧ "g__".toList <:+: cs⟩]

/-- That a rule flags the names that show the mark. -/
structure Marks (m : Mark) (r : Rule) : Prop where
  name : r.name = m.rule
  accepts : ∀ name, r.accepts name = true ↔ m.Shows name.toList

theorem marks_builtins : List.Forall₂ Marks builtins (Rule.builtins []) := by
  have hprefixes : ∀ p ∈ defaultPrefixes ++ [], p ≠ "" := by decide
  exact .cons ⟨rfl, fun name => by rw [accepts_literalPrefix hprefixes, List.append_nil]⟩ <|
    .cons ⟨rfl, accepts_embeddedGuid⟩ <|
    .cons ⟨rfl, occursIn_numbered ">d__"⟩ <|
    .cons ⟨rfl, occursIn_text ">e__FixedBuffer"⟩ <|
    .cons ⟨rfl, occursIn_numbered ">c__AnonStorey"⟩ <|
    .cons ⟨rfl, occursIn_numbered ">c__Iterator"⟩ <|
    .cons ⟨rfl, accepts_compilerAttribute⟩ <|
    .cons ⟨rfl, accepts_localFunction⟩ .nil

/-- That `m` is the first of the marks that a name shows. -/
def First (marks : List Mark) (m : Mark) (cs : List Char) : Prop :=
  ∃ before after, marks = before ++ m :: after ∧ m.Shows cs ∧ ∀ m' ∈ before, ¬ m'.Shows cs

theorem first_cons {m m₀ : Mark} {marks : List Mark} {cs : List Char} :
    First (m₀ :: marks) m cs ↔ (m = m₀ ∧ m₀.Shows cs) ∨ (¬ m₀.Shows cs ∧ First marks m cs) := by
  constructor
  · rintro ⟨before, after, he, hm, hb⟩
    cases before with
    | nil =>
      obtain ⟨rfl, -⟩ := List.cons.inj he
      exact .inl ⟨rfl, hm⟩
    | cons m' before =>
      obtain ⟨rfl, rfl⟩ := List.cons.inj he
      obtain ⟨hn, hb⟩ := List.forall_mem_cons.mp hb
      exact .inr ⟨hn, before, after, rfl, hm, hb⟩
  · rintro (⟨rfl, hm⟩ | ⟨hn, before, after, rfl, hm, hb⟩)
    · exact ⟨[], marks, rfl, hm, by simp⟩
    · exact ⟨m₀ :: before, after, rfl, hm, List.forall_mem_cons.mpr ⟨hn, hb⟩⟩

theorem First.mem {m : Mark} {marks : List Mark} {cs : List Char} (h : First marks m cs) :
    m ∈ marks ∧ m.Shows cs := by
  obtain ⟨before, after, rfl, hm, -⟩ := h
  exact ⟨by simp, hm⟩

theorem rule_of_not_mem {m : Mark} {cs : List Char} (h : '<' ∉ cs) (hm : m ∈ builtins) (hs : m.Shows cs) :
    m.rule = "literal-prefix" ∨ m.rule = "compiler-attribute" := by
  have hcloses : ∀ {tail : List Char → Prop}, ¬ Closes tail cs :=
    fun ⟨i, _, _, hi, _⟩ => h (List.mem_of_getElem? hi)
  simp only [builtins, List.mem_cons, List.not_mem_nil, or_false] at hm
  rcases hm with rfl | rfl | rfl | rfl | rfl | rfl | rfl | rfl
  · exact .inl rfl
  · obtain ⟨guid, -, hin⟩ := hs
    exact absurd (hin.mem List.mem_cons_self) h
  · exact absurd hs hcloses
  · exact absurd hs hcloses
  · exact absurd hs hcloses
  · exact absurd hs hcloses
  · exact .inr rfl
  · exact absurd (hs.1.mem List.mem_cons_self) h

end Mark

namespace RuleSet

theorem keep_of_nodup {rules : List Rule} {seen : List String} (h : (rules.map fun r => key r.name).Nodup)
    (hs : ∀ r ∈ rules, key r.name ∉ seen) : keep [] seen rules = rules := by
  induction rules generalizing seen with
  | nil => rfl
  | cons r rest ih =>
    obtain ⟨hn, hrest⟩ := List.nodup_cons.mp h
    obtain ⟨hr, hs⟩ := List.forall_mem_cons.mp hs
    have hseen : ∀ r' ∈ rest, key r'.name ∉ key r.name :: seen := by
      intro r' hr' hm
      rcases List.mem_cons.mp hm with he | hm
      · exact hn (List.mem_map.mpr ⟨r', hr', he⟩)
      · exact hs r' hr' hm
    simp [keep, hr, ih hrest hseen]

theorem discover_default : discover {} [] = .ok Classifier.default.rules := by
  have hnodup : ((Rule.builtins []).map fun r => key r.name).Nodup := by
    have hkeys : ((Rule.builtins []).map fun r => key r.name) = (Rule.builtins []).map (·.name) := by decide +kernel
    rw [hkeys]
    decide
  have hkeep : keep [] [] (Rule.builtins []) = Rule.builtins [] := keep_of_nodup hnodup (by simp)
  simp [discover, candidates, patternRules, unknown, hkeep, Classifier.default, bind, Except.bind, pure, Except.pure]

end RuleSet

namespace Classifier

variable {marks : List Mark} {rules : List Rule}

theorem match?_cons (r : Rule) (rules : List Rule) (name : String) :
    (Classifier.mk (r :: rules)).match? name =
      if r.accepts name = true then some r.name else (Classifier.mk rules).match? name := by
  simp only [match?, List.find?_cons]
  cases r.accepts name <;> rfl

theorem match?_iff_of_marks (h : List.Forall₂ Mark.Marks marks rules) (name rule : String) :
    (Classifier.mk rules).match? name = some rule ↔ ∃ m, Mark.First marks m name.toList ∧ m.rule = rule := by
  induction h with
  | nil =>
    refine iff_of_false (by simp [match?]) ?_
    rintro ⟨m, hm, -⟩
    cases hm.mem.1
  | @cons m r marks rules hr _ ih =>
    rw [match?_cons, hr.name]
    simp only [Mark.first_cons]
    by_cases ha : r.accepts name = true
    · have hs := (hr.accepts name).mp ha
      simp [ha, hs]
    · have hs := mt (hr.accepts name).mpr ha
      simp [ha, hs, ih]

theorem match?_none_of_marks (h : List.Forall₂ Mark.Marks marks rules) (name : String) :
    (Classifier.mk rules).match? name = none ↔ ∀ m ∈ marks, ¬ m.Shows name.toList := by
  induction h with
  | nil => simp [match?]
  | @cons m r marks rules hr _ ih =>
    rw [match?_cons, List.forall_mem_cons, ← ih, ← hr.accepts name]
    by_cases ha : r.accepts name = true <;> simp [ha]

/-- The default classifier flags the names that show a mark of a built-in rule, for the first one that they show. A
name without an opening angle bracket can be flagged by two of the rules alone. -/
theorem default_classifies (name : String) :
    (∀ rule, default.match? name = some rule ↔
      ∃ m, Mark.First Mark.builtins m name.toList ∧ m.rule = rule) ∧
    (default.match? name = none ↔ ∀ m ∈ Mark.builtins, ¬ m.Shows name.toList) ∧
    (default.isGenerated name = true ↔ ∃ m ∈ Mark.builtins, m.Shows name.toList) ∧
    ('<' ∉ name.toList → ∀ rule, default.match? name = some rule →
      rule = "literal-prefix" ∨ rule = "compiler-attribute") := by
  have hnone := match?_none_of_marks Mark.marks_builtins name
  have hsome := match?_iff_of_marks Mark.marks_builtins name
  refine ⟨hsome, hnone, ?_, fun hopen rule hrule => ?_⟩
  · rw [isGenerated, Option.isSome_iff_ne_none, Ne, show default.match? name = none ↔ _ from hnone]
    simp
  · obtain ⟨m, hfirst, rfl⟩ := (hsome rule).mp hrule
    exact Mark.rule_of_not_mem hopen hfirst.mem.1 hfirst.mem.2

end Classifier

end Winnow
