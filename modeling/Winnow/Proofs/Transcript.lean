import Winnow.Decompiler
import Winnow.Proofs.Atomicity
import Winnow.Proofs.Decoding
import Winnow.Proofs.SettingsValues

/-!
From a decompiler's output to the file of a type. The bytes that the program writes become a text that can always be
encoded, and where a file can be written at all it holds the encoding of this text: the bytes themselves if they are
UTF-8 and no carriage return is among them.
-/
set_option autoImplicit false

namespace Winnow

namespace Text
open Utf8

/-- `ds` is `cs` with a line feed for each carriage return and for each pair of a carriage return and a line feed. -/
inductive Unified : List Char → List Char → Prop
  | nil : Unified [] []
  | pair {cs ds : List Char} (h : Unified cs ds) : Unified ('\r' :: '\n' :: cs) ('\n' :: ds)
  | lone {cs ds : List Char} (hn : cs.head? ≠ some '\n') (h : Unified cs ds) : Unified ('\r' :: cs) ('\n' :: ds)
  | other {c : Char} {cs ds : List Char} (hc : c ≠ '\r') (h : Unified cs ds) : Unified (c :: cs) (c :: ds)

theorem unified_unifyNewlineChars (cs : List Char) : Unified cs (unifyNewlineChars cs) := by
  fun_induction unifyNewlineChars cs with
  | case1 => exact .nil
  | case2 rest ih => exact .pair ih
  | case3 c rest hpair ih =>
    split
    · next hc =>
      subst hc
      refine .lone (fun hn => ?_) ih
      obtain ⟨tail, rfl⟩ := List.head?_eq_some_iff.mp hn
      exact hpair tail rfl rfl
    · next hc => exact .other hc ih

theorem unified_iff {cs ds : List Char} : Unified cs ds ↔ ds = unifyNewlineChars cs := by
  refine ⟨fun h => ?_, fun h => h ▸ unified_unifyNewlineChars cs⟩
  induction h with
  | nil => rfl
  | pair _ ih => rw [ih, unifyNewlineChars]
  | lone hn _ ih =>
    rw [ih, unifyNewlineChars]
    · simp
    · rintro rest - rfl
      exact hn rfl
  | other hc _ ih =>
    rw [ih, unifyNewlineChars]
    · rw [if_neg hc]
    · exact fun rest h => absurd h hc

theorem unified_self {cs : List Char} (h : '\r' ∉ cs) : Unified cs cs := by
  induction cs with
  | nil => exact .nil
  | cons c cs ih =>
    simp only [List.mem_cons, not_or] at h
    exact .other (Ne.symm h.1) (ih h.2)

/-- That a text is what the bytes read as, with its line ends unified. -/
def Transcribes (bytes : List UInt8) (text : String) : Prop := ∃ cs, Reads bytes cs ∧ Unified cs text.toList

theorem transcribes_iff {bytes : List UInt8} {text : String} :
    Transcribes bytes text ↔ text = unifyNewlines (decodeReplacing bytes) := by
  simp only [Transcribes, reads_iff, exists_eq_left, unified_iff]
  rw [unifyNewlines, ← String.toList_inj, String.toList_ofList]

theorem bytes_toUTF8 (s : String) : s.toUTF8.data.toList = s.toList.flatMap String.utf8EncodeChar := by
  have hs : s.toUTF8 = s.toList.utf8Encode := by
    rw [String.toUTF8_eq_toByteArray, ← String.toByteArray_ofList, String.ofList_toList]
  rw [hs, List.utf8Encode, List.toList_data_toByteArray]

theorem transcribes_toUTF8 {s : String} (h : 0x0D ∉ s.toUTF8.data.toList) : Transcribes s.toUTF8.data.toList s := by
  rw [bytes_toUTF8] at h ⊢
  refine ⟨s.toList, reads_flatMap s.toList, unified_self fun hc => h ?_⟩
  have hreturn : String.utf8EncodeChar '\r' = [0x0D] := by decide
  exact List.mem_flatMap.mpr ⟨'\r', hc, by simp [hreturn]⟩

end Text

namespace Outputs
open Text

/-- That nothing stands in the way of a write: the path names a file, the way to it exists and is short enough, and
there is no directory at the path or at its staging path. -/
structure Clear (p : Path) (f : Files) : Prop where
  named : p.name ≠ ""
  notUp : p.name ≠ ".."
  zeroFree : Files.holdsZero p = false
  staged : ∃ q, f.place? (stagingPath p) = .ok q ∧ f.tree.get? q ≠ some .dir
  free : f.tree.get? (f.placeOf p) ≠ some .dir

theorem verdict_ofString (p : Path) (s : String) (x : Prospect) :
    (∀ u, x.verdict p (.text (.ofString s)) ≠ .error (.unencodable u)) ∧
      (x.verdict p (.text (.ofString s)) = .ok () ↔ x = ⟨.ok false, false⟩ ∧ p.name ≠ "..") := by
  obtain ⟨staging, blocked⟩ := x
  cases staging with
  | error errno => cases errno <;> simp [Prospect.verdict]
  | ok dir =>
    cases dir with
    | true => simp [Prospect.verdict]
    | false =>
      simp only [Prospect.verdict, toString?_ofString]
      split
      · next hup => simp [hup]
      · next hup => cases blocked <;> simp [hup]

theorem write_ne_unencodable (p : Path) (s : String) (f : Files) (u : Unencodable) :
    (write p (.text (.ofString s)) f).2 ≠ .error (.unencodable u) := by
  by_cases hw : Unwritable p
  · obtain ⟨e, fe, he, hreason⟩ := write_of_unwritable (.text (.ofString s)) f hw
    rintro h
    cases (congrArg Prod.snd he).symm.trans h
    cases hreason
  · rw [write_snd hw]
    exact (verdict_ofString p s _).1 u

theorem write_isOk_iff (p : Path) (s : String) (f : Files) :
    (write p (.text (.ofString s)) f).2 = .ok () ↔ Clear p f := by
  by_cases hw : Unwritable p
  · obtain ⟨e, fe, he, -⟩ := write_of_unwritable (.text (.ofString s)) f hw
    rw [he]
    refine iff_of_false nofun fun h => hw.elim h.named fun hz => ?_
    cases hz.symm.trans h.zeroFree
  · rw [write_snd hw, (verdict_ofString p s _).2]
    simp only [Unwritable, not_or, Bool.not_eq_true] at hw
    simp only [prospect, Prospect.mk.injEq, beq_eq_false_iff_ne]
    constructor
    · rintro ⟨⟨hs, hb⟩, hup⟩
      refine ⟨hw.1, hup, hw.2, ?_, hb⟩
      cases hq : f.place? (stagingPath p) with
      | error errno => simp [hq, Except.map] at hs
      | ok q =>
        refine ⟨q, rfl, ?_⟩
        simpa [hq, Except.map] using hs
    · rintro ⟨-, hup, -, ⟨q, hq, hd⟩, hb⟩
      exact ⟨⟨by simp [hq, Except.map, hd], hb⟩, hup⟩

theorem readFile_of_write {p : Path} {s : String} {f g : Files} (h : write p (.text (.ofString s)) f = (g, .ok ())) :
    g.readFile p = .ok s.toUTF8 := by
  obtain ⟨t, s', ht, hs', hwrote⟩ := write_eq_ok h
  cases ht
  rw [toString?_ofString] at hs'
  cases hs'
  exact hwrote.readFile

end Outputs

namespace Decompiler
open Text

/-- That the program is found and can be waited for, and that started with the arguments it ends as `e`. -/
structure Finishes (f : Files) (executable : String) (timeout : Option Float) (arguments : List String)
    (e : Shell.Ended) : Prop where
  zeroFree : ∀ text ∈ executable :: arguments, '\x00' ∉ text.toList
  waits : timeout.bind TimeoutFault.of? = none
  run : ∃ program, Shell.Program.find f executable = .ok program ∧ program.run f executable arguments = e

theorem ended_eq_ok {timeout : Option Float} {e : Shell.Ended} (executable : String) (hstatus : e.ending = .exited 0)
    (htime : ∀ limit ∈ timeout, ¬ limit ≤ e.seconds) : ended executable timeout e = .ok (outputText e.output) := by
  have hlate : timeout.filter (fun limit => Shell.Ending.exited 0 == .never || decide (limit ≤ e.seconds)) = none := by
    rw [Option.filter_eq_none_iff]
    intro limit hl
    simp [htime limit hl]
  simp [ended, hstatus, hlate]

theorem Finishes.runCommand {f : Files} {executable : String} {timeout : Option Float} {arguments : List String}
    {e : Shell.Ended} (h : Finishes f executable timeout arguments e) :
    runCommand f timeout executable arguments = ended executable timeout e := by
  obtain ⟨program, hfind, hrun⟩ := h.run
  have hzero : (executable :: arguments).any (·.toList.contains '\x00') = false := by
    simpa [List.any_eq_false] using h.zeroFree
  simp only [Decompiler.runCommand, hzero, hfind, h.waits, hrun, Bool.false_eq_true, if_false]

/-- For all bytes that a program writes before it ends in time with status 0: they are transcribed as one text, the one
that the decompiler hands over. It holds no surrogate, so no write of it fails because it could not be encoded, and
where nothing stands in the way it is written, byte for byte as it is encoded. These are the bytes of the program if
they encode some text and hold no carriage return. -/
theorem output_reaches_file {e : Shell.Ended} {timeout : Option Float} (executable : String)
    (hstatus : e.ending = .exited 0) (htime : ∀ limit ∈ timeout, ¬ limit ≤ e.seconds) :
    ∃ text : String, (∀ other, Transcribes e.output.toBytes other ↔ other = text) ∧
      ended executable timeout e = .ok text ∧
      (∀ history f module searchPaths handle,
        Finishes f executable timeout (arguments module searchPaths handle) e →
        (ofSettings executable timeout).decompile history f module searchPaths handle = .ok (.text (.ofString text))) ∧
      (∀ c ∈ CodeText.ofString text, isSurrogate c = false) ∧
      (∀ p f u, (Outputs.write p (.text (.ofString text)) f).2 ≠ .error (.unencodable u)) ∧
      (∀ p f, ((Outputs.write p (.text (.ofString text)) f).2 = .ok () ↔ Outputs.Clear p f) ∧
        ∀ g, Outputs.write p (.text (.ofString text)) f = (g, .ok ()) → g.readFile p = .ok text.toUTF8) ∧
      ((∃ s : String, s.toUTF8.data.toList = e.output.toBytes) → 0x0D ∉ e.output.toBytes →
        text.toUTF8.data.toList = e.output.toBytes) := by
  have hended := ended_eq_ok executable hstatus htime
  refine ⟨outputText e.output, fun _ => transcribes_iff, hended, fun history f module searchPaths handle h => ?_, ?_,
    fun p f => Outputs.write_ne_unencodable p _ f,
    fun p f => ⟨Outputs.write_isOk_iff p _ f, fun g => Outputs.readFile_of_write⟩, ?_⟩
  · simp only [ofSettings, engine, h.runCommand, hended]
  · rintro c hc
    obtain ⟨ch, -, rfl⟩ := List.mem_map.mp hc
    exact isSurrogate_char ch
  · rintro ⟨s, hs⟩ hreturn
    have htext : s = outputText e.output := transcribes_iff.mp (hs ▸ transcribes_toUTF8 (hs ▸ hreturn))
    rw [← htext, hs]

def brokenOutput : List UInt8 := [0x63, 0xE2, 0x82, 0xFF, 0x0D, 0x0A, 0xED, 0xA0, 0x80, 0x0D]

def brokenText : String := "c\uFFFD\uFFFD\n\uFFFD\uFFFD\uFFFD\n"

def printer : Files :=
  ⟨⟨[(["opt"], .dir), (["opt", "ilspycmd"], .file
    "#!/bin/sh\nprintf 'c\\342\\202\\377\\r\\n\\355\\240\\200\\r'\n".toByteArray true)]⟩, []⟩

def rustModule : Path := ⟨1, ["src", "Rust.dll"]⟩

def brokenEnd : Shell.Ended :=
  Shell.Program.run printer "/opt/ilspycmd" (arguments rustModule [] "Door")
    (.script "sh" [] (Shell.Text.ofString "/opt/ilspycmd"))

theorem finishes_printer :
    Finishes printer "/opt/ilspycmd" (some 120.0) (arguments rustModule [] "Door") brokenEnd where
  zeroFree := by decide
  waits := by decide +kernel
  run := ⟨.script "sh" [] (Shell.Text.ofString "/opt/ilspycmd"), by decide +kernel, rfl⟩

theorem output_reaches_file_broken :
    brokenEnd.ending = .exited 0 ∧ (∀ limit ∈ some (120.0 : Float), ¬ limit ≤ brokenEnd.seconds) ∧
      brokenEnd.output.toBytes = brokenOutput ∧ Transcribes brokenOutput brokenText ∧
      ended "/opt/ilspycmd" (some 120.0) brokenEnd = .ok brokenText ∧
      Finishes printer "/opt/ilspycmd" (some 120.0) (arguments rustModule [] "Door") brokenEnd ∧
      (ofSettings "/opt/ilspycmd" (some 120.0)).decompile #[] printer rustModule [] "Door" =
        .ok (.text (.ofString brokenText)) ∧
      ∃ g, Outputs.write Outputs.doorPath (.text (.ofString brokenText)) Outputs.earlier = (g, .ok ()) ∧
        g.readFile Outputs.doorPath = .ok brokenText.toUTF8 := by
  have hstatus : brokenEnd.ending = .exited 0 := by decide +kernel
  have htime : ∀ limit ∈ some (120.0 : Float), ¬ limit ≤ brokenEnd.seconds := by
    rintro limit ⟨⟩
    decide +kernel
  have hbytes : brokenEnd.output.toBytes = brokenOutput := by decide +kernel
  have hbroken : Transcribes brokenOutput brokenText := transcribes_iff.mpr (by decide +kernel)
  have hclear : Outputs.Clear Outputs.doorPath Outputs.earlier :=
    ⟨by decide, by decide, by decide +kernel, ⟨["out", ".Door.cstxt.tmp"], by decide +kernel, by decide +kernel⟩,
      by decide +kernel⟩
  obtain ⟨text, hiff, hended, hdecompile, -, -, hwrite, -⟩ := output_reaches_file "/opt/ilspycmd" hstatus htime
  obtain rfl : brokenText = text := (hiff _).mp (hbytes ▸ hbroken)
  obtain ⟨hok, hread⟩ := hwrite Outputs.doorPath Outputs.earlier
  have hwritten := Prod.ext rfl (hok.mpr hclear)
  exact ⟨hstatus, htime, hbytes, hbroken, hended, finishes_printer, hdecompile _ _ _ _ _ finishes_printer, _, hwritten,
    hread _ hwritten⟩

end Decompiler

end Winnow
