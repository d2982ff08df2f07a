import Winnow.Proofs.Files
import Winnow.Proofs.ModuleStep
import Winnow.Proofs.Naming
import Winnow.Settings

/-!
When the values in a settings file can be used. A value of the wrong type counts as absent, but a few values of the
right type are refused: an integer too long to be written or beyond all doubles, and a text that names no place. None
of these refusals says that the settings file is wrong.
-/
set_option autoImplicit false

namespace Winnow

/-! Results and failures of a chain of steps. -/

section Steps
variable {ε α β : Type} {P : ε → Prop} {x : Except ε α} {f : α → Except ε β}

/-- That whatever `x` fails with satisfies `P`. -/
def FailsOnly (P : ε → Prop) (x : Except ε α) : Prop := ∀ e, x = .error e → P e

theorem failsOnly_ok (a : α) : FailsOnly P (.ok a) := nofun

theorem failsOnly_error {e : ε} : FailsOnly P (.error e : Except ε α) ↔ P e :=
  ⟨fun h => h e rfl, fun h _ he => Except.error.inj he ▸ h⟩

theorem failsOnly_bind : FailsOnly P (x >>= f) ↔ FailsOnly P x ∧ ∀ a, x = .ok a → FailsOnly P (f a) := by
  cases x with
  | error e =>
    have hbind : (Except.error e >>= f) = .error e := rfl
    simp [hbind, failsOnly_error]
  | ok a =>
    have hbind : (Except.ok a >>= f) = f a := rfl
    simp [hbind, failsOnly_ok]

theorem exists_ok_bind : (∃ b, x >>= f = .ok b) ↔ ∃ a, x = .ok a ∧ ∃ b, f a = .ok b := by
  constructor
  · rintro ⟨b, h⟩
    obtain ⟨a, ha, hb⟩ := exists_of_bind h
    exact ⟨a, ha, b, hb⟩
  · rintro ⟨a, rfl, b, hb⟩
    exact ⟨b, hb⟩

end Steps

namespace Settings
open Text Yaml

variable {α β : Type} {C : Prop} {x : Except SettingsError α} {f : α → Except SettingsError β}

/-- That `x` gives a result exactly under a condition, and otherwise fails with an error that the program does not
take for a fault of the settings file. -/
structure GivesIff (x : Except SettingsError α) (C : Prop) : Prop where
  blunt : FailsOnly (·.isConfigError = false) x
  given : (∃ a, x = .ok a) ↔ C

theorem givesIff_ok (a : α) : GivesIff (.ok a) True := ⟨failsOnly_ok a, by simp⟩

theorem GivesIff.congr {D : Prop} (h : GivesIff x C) (hiff : C ↔ D) : GivesIff x D := ⟨h.blunt, h.given.trans hiff⟩

theorem GivesIff.bind {D : α → Prop} (hx : GivesIff x C) (hf : ∀ a, x = .ok a → GivesIff (f a) (D a)) :
    GivesIff (x >>= f) (C ∧ ∀ a, x = .ok a → D a) where
  blunt := failsOnly_bind.mpr ⟨hx.blunt, fun a ha => (hf a ha).blunt⟩
  given := by
    rw [exists_ok_bind, ← hx.given]
    constructor
    · rintro ⟨a, rfl, hb⟩
      exact ⟨⟨a, rfl⟩, fun a' ha' => Except.ok.inj ha' ▸ (hf a rfl).given.mp hb⟩
    · rintro ⟨⟨a, rfl⟩, hall⟩
      exact ⟨a, rfl, (hf a rfl).given.mpr (hall a rfl)⟩

theorem GivesIff.and {D : Prop} (hx : GivesIff x C) (hf : ∀ a, x = .ok a → GivesIff (f a) D) :
    GivesIff (x >>= f) (C ∧ D) := by
  refine (hx.bind hf).congr ?_
  rw [← hx.given]
  exact and_congr_right fun ⟨a, ha⟩ => ⟨fun h => h a ha, fun h _ _ => h⟩

theorem GivesIff.then (hx : GivesIff x C) (g : α → β) : GivesIff (x >>= fun a => .ok (g a)) C :=
  (hx.and fun a _ => givesIff_ok (g a)).congr (and_iff_left trivial)

theorem givesIff_mapM {xs : List α} {D : α → Prop} (hf : ∀ a ∈ xs, GivesIff (f a) (D a)) :
    GivesIff (xs.mapM f) (∀ a ∈ xs, D a) := by
  induction xs with
  | nil => exact (givesIff_ok []).congr (by simp)
  | cons a xs ih =>
    obtain ⟨ha, hxs⟩ := List.forall_mem_cons.mp hf
    rw [List.mapM_cons]
    exact (ha.and fun b _ => (ih hxs).then (b :: ·)).congr List.forall_mem_cons.symm

end Settings

/-! Texts that numbers give: none holds a slash, a tilde or a zero byte, so each names an entry of a directory. -/

/-- Characters none of which has a meaning in a path. -/
def Tame (cs : List Char) : Prop := ∀ c ∈ cs, c ≠ '/' ∧ c ≠ '~' ∧ c ≠ '\x00'

instance : DecidablePred Tame := fun cs => List.decidableBAll (fun c => c ≠ '/' ∧ c ≠ '~' ∧ c ≠ '\x00') cs

theorem tame_cons {c : Char} {cs : List Char} : Tame (c :: cs) ↔ (c ≠ '/' ∧ c ≠ '~' ∧ c ≠ '\x00') ∧ Tame cs :=
  List.forall_mem_cons

theorem tame_append {cs ds : List Char} : Tame (cs ++ ds) ↔ Tame cs ∧ Tame ds := List.forall_mem_append

theorem Tame.subset {cs ds : List Char} (h : Tame ds) (hs : cs ⊆ ds) : Tame cs := fun c hc => h c (hs hc)

theorem tame_toDigits (n : Nat) : Tame (Nat.toDigits 10 n) := by
  intro c hc
  have hdigit := Nat.isDigit_of_mem_toDigits (by decide) (by decide) hc
  refine ⟨?_, ?_, ?_⟩ <;>
    rintro rfl <;> exact absurd hdigit (by decide)

theorem tame_replicate (n : Nat) : Tame (List.replicate n '0') := by
  intro c hc
  obtain ⟨-, rfl⟩ := List.mem_replicate.mp hc
  decide

namespace Number

theorem tame_scientific (d : Decimal) : Tame d.scientific.1 := by
  have hkept : Tame ((Nat.toDigits 10 d.digits).reverse.dropWhile (· == '0')).reverse := by
    refine (tame_toDigits d.digits).subset fun c hc => ?_
    exact List.mem_reverse.mp ((List.dropWhile_sublist _).subset (List.mem_reverse.mp hc))
  simp only [Decimal.scientific]
  split
  · decide
  · exact hkept

theorem tame_positional {digits : List Char} (h : Tame digits) (leading : Int) :
    Tame (FloatLayout.positional digits leading) := by
  unfold FloatLayout.positional
  split
  · have hlead : Tame ['0', '.'] := by decide
    exact tame_append.mpr ⟨tame_append.mpr ⟨hlead, tame_replicate _⟩, h⟩
  · have hpadded : Tame (digits ++ List.replicate (leading.toNat + 1 - digits.length) '0') :=
      tame_append.mpr ⟨h, tame_replicate _⟩
    refine tame_append.mpr ⟨hpadded.subset (List.take_subset _ _), tame_cons.mpr ⟨by decide, ?_⟩⟩
    split
    · decide
    · exact hpadded.subset (List.drop_subset _ _)

theorem tame_exponential (layout : FloatLayout) {digits : List Char} (h : Tame digits) (leading : Int) :
    Tame (layout.scientific digits leading) := by
  unfold FloatLayout.scientific
  have hsign : Tame ['e', if leading < 0 then '-' else '+'] := by split <;> decide
  have hfraction : Tame (if (digits.drop 1).isEmpty then [] else '.' :: digits.drop 1) := by
    split
    · decide
    · exact tame_cons.mpr ⟨by decide, h.subset (List.drop_subset _ _)⟩
  have hexponent : Tame ((Nat.toDigits 10 leading.natAbs).leftpad layout.exponentWidth '0') :=
    tame_append.mpr ⟨tame_replicate _, tame_toDigits _⟩
  exact tame_append.mpr ⟨tame_append.mpr ⟨tame_append.mpr ⟨h.subset (List.take_subset _ _), hfraction⟩, hsign⟩, hexponent⟩

theorem tame_floatText (x : Float) : Tame (floatText x).toList := by
  have hsign : ∀ negative : Bool, Tame (if negative then "-" else "").toList := by decide
  unfold floatText
  generalize Double.ofBits x.toBits.toNat = double
  cases double with
  | nan => decide
  | infinite negative =>
    rw [FloatLayout.render, String.toList_append]
    exact tame_append.mpr ⟨hsign negative, by decide⟩
  | zero negative =>
    rw [FloatLayout.render, String.toList_append]
    exact tame_append.mpr ⟨hsign negative, by decide⟩
  | finite negative value =>
    have hdigits := tame_scientific value.shortest
    rw [FloatLayout.render, String.toList_append]
    refine tame_append.mpr ⟨hsign negative, ?_⟩
    rw [String.toList_ofList]
    split
    · exact tame_positional hdigits _
    · exact tame_exponential _ hdigits _

end Number

theorem tame_natText (n : Nat) : Tame (toString n).toList := by
  rw [Nat.toString_eq_repr, Nat.repr_eq_ofList_toDigits, String.toList_ofList]
  exact tame_toDigits n

theorem tame_intText (n : Int) : Tame (toString n).toList := by
  rw [Int.toString_eq_repr, Int.repr_eq_if]
  split
  · exact tame_natText n.toNat
  · rw [String.toList_append]
    exact tame_append.mpr ⟨by decide, tame_natText (-n).toNat⟩

namespace Text

theorem isSurrogate_char (c : Char) : isSurrogate c.toNat = false := by
  rcases c.valid with h | ⟨h, -⟩ <;>
    simp only [isSurrogate, Char.toNat, Bool.and_eq_false_iff, decide_eq_false_iff_not] <;> omega

namespace CodeText

theorem unnameable?_ofString (s : String) : (ofString s).unnameable? = none := by
  refine List.findIdx?_eq_none_iff.mpr fun c hc => ?_
  obtain ⟨ch, -, rfl⟩ := List.mem_map.mp hc
  simp [isSurrogate_char]

theorem display_ofString (s : String) : (ofString s).display = s := by
  simp [ofString, display, isSurrogate_char, Function.comp_def]

end CodeText

end Text

theorem Files.holdsZero_join {root : Path} (hz : Files.holdsZero root = false) (p : Path) :
    Files.holdsZero (root.join p) = Files.holdsZero p := by
  unfold Path.join
  split
  · rfl
  · have happ : Files.holdsZero { root with parts := root.parts ++ p.parts } =
        (Files.holdsZero root || Files.holdsZero p) := List.any_append
    rw [happ, hz, Bool.false_or]

namespace Settings
open Text Yaml

variable {homes : Homes} {site : Site} {root : Path}

/-- That a text names a place: its components can be names of files, a tilde at its beginning stands for a home
directory that is known, and there is no zero byte in it. -/
def Placeable (homes : Homes) (t : CodeText) : Prop :=
  t.unnameable? = none ∧ ∃ p, homes.expand (.ofString t.display) = .ok p ∧ Files.holdsZero p = false

theorem ofString_of_tame {s : String} (h : Tame s.toList) : Path.ofString s = ⟨0, [s].filter Path.isPart⟩ :=
  Path.ofString_of_slashFree fun hc => (h _ hc).1 rfl

theorem expand_of_tame {s : String} (h : Tame s.toList) : homes.expand (.ofString s) = .ok (.ofString s) := by
  rw [ofString_of_tame h]
  cases hp : Path.isPart s
  · simp [hp, Homes.expand]
  · unfold Homes.expand
    simp only [hp, List.filter_cons_of_pos, List.filter_nil]
    split
    · next hs => exact absurd rfl (h '~' (hs ▸ List.mem_cons_self)).2.1
    · rfl

theorem holdsZero_of_tame {s : String} (h : Tame s.toList) : Files.holdsZero (.ofString s) = false := by
  have hzero : '\x00' ∉ s.toList := fun hc => (h _ hc).2.2 rfl
  rw [ofString_of_tame h]
  cases hp : Path.isPart s <;> simp [hp, Files.holdsZero, hzero]

theorem placeable_of_tame {s : String} (h : Tame s.toList) : Placeable homes (.ofString s) := by
  refine ⟨CodeText.unnameable?_ofString s, .ofString s, ?_, holdsZero_of_tame h⟩
  rw [CodeText.display_ofString]
  exact expand_of_tame h

theorem givesIff_error {α : Type} {e : SettingsError} (h : e.isConfigError = false) :
    GivesIff (.error e : Except SettingsError α) False :=
  ⟨failsOnly_error.mpr h, by simp⟩

theorem givesIff_place (hz : Files.holdsZero root = false) (text : String) : GivesIff (place site root text)
    (∃ p, site.homes.expand (.ofString text) = .ok p ∧ Files.holdsZero p = false) := by
  unfold place
  cases hp : site.homes.expand (.ofString text) with
  | error e => exact (givesIff_error rfl).congr (by simp)
  | ok p =>
    have hjoin := Files.holdsZero_join hz p
    cases hzp : Files.holdsZero p with
    | true =>
      have hfail : site.files.resolve (root.join p) = .error .zeroByte := by simp [Files.resolve, hjoin, hzp]
      simp only [mapError_ok, mapError_error, bind, Except.bind, hfail]
      exact (givesIff_error rfl).congr (by simp [hzp])
    | false =>
      simp only [mapError_ok, bind, Except.bind, Files.resolve_eq site.files (hjoin.trans hzp)]
      exact (givesIff_ok _).congr (by simp [hzp])

theorem givesIff_pathOf (hz : Files.holdsZero root = false) (t : CodeText) :
    GivesIff (pathOf site root t) (Placeable site.homes t) := by
  unfold pathOf
  cases hn : t.unnameable? with
  | none => exact (givesIff_place hz t.display).congr (by simp [Placeable, hn])
  | some i =>
    have hnot : False ↔ Placeable site.homes t := by simp [Placeable, hn]
    dsimp only
    split
    · exact (givesIff_error rfl).congr hnot
    · refine ((givesIff_place hz _).and fun _ _ => givesIff_error rfl).congr ?_
      rw [and_false, hnot]

end Settings

namespace Yaml.Value
open Settings

def Writable (v : Value) : Prop := ∀ n, v = .scalar (.int n) → n.natAbs < Nat.pow 10 Number.digitLimit

def Timed (v : Value) : Prop := ∀ n, v = .scalar (.int n) → (Number.doubleOfInt? n).isSome

/-- That a value names a place, or nothing, if it is taken for a path. -/
def Leads (homes : Homes) : Value → Prop
  | .scalar (.text t) => t = [] ∨ Placeable homes t
  | v => v.Writable

/-- That each of the values that are taken for texts satisfies `P`, where a list of texts is expected. -/
def Each (P : Value → Prop) : Value → Prop
  | .scalar (.text t) => P (.scalar (.text t))
  | .list items => ∀ v ∈ items, P v
  | _ => True

end Yaml.Value

namespace Settings
open Text Yaml

variable {site : Site} {root : Path}

theorem GivesIff.map {α β : Type} {x : Except SettingsError α} {C : Prop} (hx : GivesIff x C) (g : α → β) :
    GivesIff (x.map g) C := by
  have hbind : x.map g = x >>= fun a => .ok (g a) := by cases x <;> rfl
  exact hbind ▸ hx.then g

theorem length_natText_le_iff {n k : Nat} (hk : 0 < k) : (toString n).length ≤ k ↔ n < Nat.pow 10 k :=
  Nat.length_repr_le_iff hk

theorem givesIff_integerText (n : Int) : GivesIff (integerText n) (n.natAbs < Nat.pow 10 Number.digitLimit) := by
  have hpos : 0 < Number.digitLimit := by decide
  have hlen := length_natText_le_iff (n := n.natAbs) hpos
  unfold integerText
  dsimp only
  split
  · next h => exact (givesIff_error rfl).congr (iff_of_false id fun hn => Nat.not_le.mpr h (hlen.mpr hn))
  · next h => exact (givesIff_ok _).congr (iff_of_true trivial (hlen.mp (Nat.not_lt.mp h)))

theorem eq_of_integerText {n : Int} {t : CodeText} (h : integerText n = .ok t) : t = .ofString (toString n) := by
  unfold integerText at h
  dsimp only at h
  split at h
  · cases h
  · exact (Except.ok.inj h).symm

theorem givesIff_text? (v : Option Value) : GivesIff (text? v) (∀ u ∈ v, u.Writable) := by
  unfold text?
  split
  · exact (givesIff_ok _).congr (by simp [Value.Writable])
  · next n => exact ((givesIff_integerText n).map some).congr (by simp [Value.Writable])
  · exact (givesIff_ok _).congr (by simp [Value.Writable])
  · next hint _ =>
    refine (givesIff_ok _).congr (iff_of_true trivial ?_)
    rintro u hu n rfl
    exact (hint n hu).elim

theorem givesIff_filledText? (v : Option Value) : GivesIff (filledText? v) (∀ u ∈ v, u.Writable) :=
  (givesIff_text? v).then (Option.filter fun t : CodeText => !t.isEmpty)

theorem givesIff_entryText? (v : Value) : GivesIff (entryText? v) v.Writable := by
  unfold entryText?
  split
  · exact (givesIff_ok _).congr (by simp [Value.Writable])
  · exact (givesIff_text? (some v)).congr (by simp)

theorem givesIff_texts (v : Option Value) : GivesIff (texts v) (∀ u ∈ v, u.Each Value.Writable) := by
  unfold texts
  split
  · exact (givesIff_ok _).congr (by simp [Value.Each, Value.Writable])
  · exact (givesIff_ok _).congr (by simp [Value.Each])
  · next items =>
    have hitems := givesIff_mapM fun v (_ : v ∈ items) => givesIff_entryText? v
    exact (hitems.then (·.filterMap id)).congr (by simp [Value.Each])
  · next htext _ hlist =>
    refine (givesIff_ok _).congr (iff_of_true trivial fun u hu => ?_)
    unfold Value.Each
    split
    · exact (htext _ hu).elim
    · exact (hlist _ hu).elim
    · trivial

theorem givesIff_strings (v : Option Value) : GivesIff (strings v) (∀ u ∈ v, u.Each Value.Writable) :=
  (givesIff_texts v).then (List.map CodeText.display)

theorem givesIff_seconds? (v : Value) : GivesIff (seconds? v) v.Timed := by
  unfold seconds?
  split
  · exact (givesIff_ok _).congr (by simp [Value.Timed])
  · next n =>
    split
    · next x hx => exact (givesIff_ok _).congr (by simp [Value.Timed, hx])
    · next hx => exact (givesIff_error rfl).congr (by simp [Value.Timed, hx])
  · exact (givesIff_ok _).congr (by simp [Value.Timed])
  · next hint _ =>
    refine (givesIff_ok _).congr (iff_of_true trivial ?_)
    rintro n rfl
    exact (hint n rfl).elim

/-- That a text is the value itself, or one that no number or truth value could be taken for a path with. -/
def TextOf (v : Value) (t : CodeText) : Prop := v = .scalar (.text t) ∨ ∃ s : String, Tame s.toList ∧ t = .ofString s

theorem textOf_of_text? {v : Value} {t : CodeText} (h : text? (some v) = .ok (some t)) : TextOf v t := by
  unfold text? at h
  split at h
  · next hv =>
    cases h
    exact .inl (Option.some.inj hv)
  · next n hv =>
    cases hn : integerText n with
    | error e => simp [hn, Except.map] at h
    | ok text =>
      simp only [hn, Except.map, Except.ok.injEq, Option.some.injEq] at h
      exact .inr ⟨_, tame_intText n, h ▸ eq_of_integerText hn⟩
  · next x hv =>
    cases h
    exact .inr ⟨_, Number.tame_floatText x, rfl⟩
  · cases h

theorem textOf_of_entryText? {v : Value} {t : CodeText} (h : entryText? v = .ok (some t)) : TextOf v t := by
  unfold entryText? at h
  split at h
  · next b =>
    cases h
    exact .inr ⟨_, by cases b <;> decide, rfl⟩
  · exact textOf_of_text? h

theorem leads_iff {homes : Homes} {v : Value} {r : Except SettingsError (Option CodeText)}
    (hread : ∀ t, r = .ok (some t) → TextOf v t) (htext : ∀ t, v = .scalar (.text t) → r = .ok (some t)) :
    v.Leads homes ↔ v.Writable ∧ ∀ t, r = .ok (some t) → t = [] ∨ Placeable homes t := by
  unfold Value.Leads
  split
  · next t =>
    have hw : Value.Writable (.scalar (.text t)) := by simp [Value.Writable]
    simp [htext t rfl, hw]
  · next hv =>
    refine (and_iff_left fun t ht => ?_).symm
    obtain rfl | ⟨s, hs, rfl⟩ := hread t ht
    · exact absurd rfl (hv t)
    · exact .inr (placeable_of_tame hs)

theorem filledText?_eq_some {v : Value} {t : CodeText} :
    filledText? (some v) = .ok (some t) ↔ text? (some v) = .ok (some t) ∧ t ≠ [] := by
  unfold filledText?
  cases text? (some v) with
  | error e => simp [bind, Except.bind]
  | ok r => cases r <;> simp [bind, Except.bind, pure, Except.pure, Option.filter_eq_some_iff]

theorem givesIff_path? (hz : Files.holdsZero root = false) (v : Option Value) :
    GivesIff (path? site root v) (∀ u ∈ v, u.Leads site.homes) := by
  have hpath : ∀ t, GivesIff (match t with
      | some t => pathOf site root t >>= fun p => .ok (some p)
      | none => .ok none) (∀ p ∈ t, Placeable site.homes p) := by
    rintro (_ | t)
    · exact (givesIff_ok _).congr (by simp)
    · exact ((givesIff_pathOf hz t).then some).congr (by simp)
  refine ((givesIff_filledText? v).bind fun t _ => hpath t).congr ?_
  cases v with
  | none => simp [filledText?, text?, bind, Except.bind, pure, Except.pure]
  | some u =>
    have hleads : u.Leads site.homes ↔
        u.Writable ∧ ∀ t, text? (some u) = .ok (some t) → t = [] ∨ Placeable site.homes t :=
      leads_iff (fun _ => textOf_of_text?) (by rintro t rfl; rfl)
    simp only [Option.mem_def, Option.some.injEq, forall_eq', hleads]
    refine and_congr_right fun _ => ⟨fun h t ht => ?_, ?_⟩
    · by_cases hempty : t = []
      · exact .inl hempty
      · exact .inr (h _ (filledText?_eq_some.mpr ⟨ht, hempty⟩) t rfl)
    · rintro h _ ht t rfl
      obtain ⟨ht, hne⟩ := filledText?_eq_some.mp ht
      exact (h t ht).resolve_left hne

theorem writable_of_leads {homes : Homes} {v : Value} (h : v.Leads homes) : v.Writable := by
  unfold Value.Leads at h
  split at h
  · simp [Value.Writable]
  · exact h

theorem each_writable_of_leads {homes : Homes} {v : Value} (h : v.Each (·.Leads homes)) : v.Each Value.Writable := by
  unfold Value.Each at h ⊢
  split
  · exact writable_of_leads h
  · exact fun v hv => writable_of_leads (h v hv)
  · trivial

theorem placeable_texts_iff {homes : Homes} {v : Option Value} {ts : List CodeText} (h : texts v = .ok ts) :
    (∀ u ∈ v, u.Each Value.Writable) ∧ (∀ t ∈ ts, t = [] ∨ Placeable homes t) ↔ ∀ u ∈ v, u.Each (·.Leads homes) := by
  unfold texts at h
  split at h
  · cases h
    simp [Value.Each, Value.Leads, Value.Writable]
  · next bytes =>
    cases h
    refine iff_of_true ⟨by simp [Value.Each], fun t ht => ?_⟩ (by simp [Value.Each])
    obtain ⟨b, -, rfl⟩ := List.mem_map.mp ht
    exact .inr (placeable_of_tame (tame_natText b.toNat))
  · next items =>
    obtain ⟨entries, hentries, h⟩ := exists_of_bind h
    cases h
    have hentry : ∀ u : Value, u.Leads homes ↔
        u.Writable ∧ ∀ t, entryText? u = .ok (some t) → t = [] ∨ Placeable homes t := fun u =>
      leads_iff (fun _ => textOf_of_entryText?) (by rintro t rfl; rfl)
    simp only [Option.mem_def, Option.some.injEq, forall_eq', Value.Each, hentry, List.mem_filterMap, id, exists_eq_right,
      mem_of_mapM hentries]
    constructor
    · rintro ⟨hw, ht⟩ u hu
      exact ⟨hw u hu, fun t h => ht t ⟨u, hu, h⟩⟩
    · exact fun h => ⟨fun u hu => (h u hu).1, fun t ⟨u, hu, ht⟩ => (h u hu).2 t ht⟩
  · next htext hbytes hlist =>
    cases h
    have hfree : ∀ P : Value → Prop, ∀ u ∈ v, u.Each P := by
      intro P u hu
      unfold Value.Each
      split
      · exact (htext _ hu).elim
      · exact (hlist _ hu).elim
      · trivial
    exact iff_of_true ⟨hfree _, by simp⟩ (hfree _)

theorem givesIff_paths (site : Site) (hz : Files.holdsZero root = false) (v : Option Value) :
    GivesIff (texts v >>= fun ts => (ts.filter (!·.isEmpty)).mapM (pathOf site root))
      (∀ u ∈ v, u.Each (·.Leads site.homes)) := by
  have hpaths : ∀ ts : List CodeText, GivesIff ((ts.filter (!·.isEmpty)).mapM (pathOf site root))
      (∀ t ∈ ts, t = [] ∨ Placeable site.homes t) := by
    intro ts
    refine (givesIff_mapM fun t _ => givesIff_pathOf hz t).congr ?_
    simp only [List.mem_filter, Bool.not_eq_true', List.isEmpty_eq_false_iff, and_imp, Decidable.or_iff_not_imp_left]
  refine ((givesIff_texts v).bind fun ts _ => hpaths ts).congr ?_
  cases ht : texts v with
  | error e =>
    have hnot : ¬ ∀ u ∈ v, u.Each Value.Writable := by
      rw [← (givesIff_texts v).given]
      simp [ht]
    exact iff_of_false (fun h => hnot h.1) fun h => hnot fun u hu => each_writable_of_leads (h u hu)
  | ok ts => simpa using placeable_texts_iff ht

end Settings

end Winnow
