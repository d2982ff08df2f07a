import Winnow.Proofs.Folding
import Winnow.NamePattern
import Winnow.Text.LowerCase

/-!
What lower-casing does to the text of a pattern. Of the characters that have a meaning in a pattern none changes, and
none comes from another character, so that the asterisks, the question marks and the texts in brackets stay what and
where they are.
-/
set_option autoImplicit false

namespace Winnow
namespace Text

/-- The lower-case form of a piece of text between `before`, nearest first, and `after`. -/
def lowerWithin (before : List Char) : List Char → List Char → List Char
  | [], _ => []
  | c :: rest, after => lowerChar before c (rest ++ after) ++ lowerWithin (c :: before) rest after

theorem lowerChars_append (before cs after : List Char) : lowerChars before (cs ++ after) =
    lowerWithin before cs after ++ lowerChars (cs.reverse ++ before) after := by
  induction cs generalizing before with
  | nil => rfl
  | cons c rest ih => simp [lowerChars, lowerWithin, ih]

theorem le_target_of_mem_lowerForms : ∀ r ∈ lowerForms, 0x61 ≤ r.target := by decide +kernel

theorem lowerCode_cases (c : Nat) : lowerCode c = c ∨ 0x61 ≤ lowerCode c := by
  unfold lowerCode
  split
  · exact .inr (by decide)
  · cases hm : mapRuns lowerForms c with
    | none => exact .inl rfl
    | some d =>
      obtain ⟨r, hr, hi⟩ := mapRuns_eq_some hm
      have hd := (Run.image?_eq_some hi).2.2
      have ht := le_target_of_mem_lowerForms r hr
      exact .inr (by simp; omega)

end Text

namespace NamePattern
open Text

def marks : List Char := ['*', '?', '[', ']', '!']

/-- That a text can take the place of a character in a pattern: a mark is kept, and no mark comes in. -/
structure Form (c : Char) (form : List Char) : Prop where
  filled : form ≠ []
  kept : c ∈ marks → form = [c]
  mark : ∀ m ∈ marks, m ∈ form → m = c

theorem lowerCode_mark : ∀ c ∈ marks, (c.toNat == 0x130) = false ∧ (c.toNat == 0x3A3) = false ∧
    Char.ofNat (lowerCode c.toNat) = c := by
  have hall : marks.all (fun c => c.toNat != 0x130 && c.toNat != 0x3A3 &&
      Char.ofNat (lowerCode c.toNat) == c) = true := by decide +kernel
  intro c hc
  simpa [and_assoc] using List.all_eq_true.mp hall c hc

theorem mark_bounds : ∀ m ∈ marks, m ≠ '\x00' ∧ m.toNat < 0x61 ∧
    m ∉ ['i', Char.ofNat 0x307, Char.ofNat 0x3C2, Char.ofNat 0x3C3] := by
  have hall : marks.all (fun m => m != '\x00' && decide (m.toNat < 0x61) &&
      not (['i', Char.ofNat 0x307, Char.ofNat 0x3C2, Char.ofNat 0x3C3].contains m)) = true := by decide
  intro m hm
  simpa [and_assoc] using List.all_eq_true.mp hall m hm

theorem form_lowerChar (before : List Char) (c : Char) (after : List Char) : Form c (lowerChar before c after) where
  filled := by
    unfold lowerChar
    repeat' split
    all_goals simp
  kept := by
    intro hc
    obtain ⟨hdotted, hsigma, hsame⟩ := lowerCode_mark c hc
    simp [lowerChar, hdotted, hsigma, hsame]
  mark := by
    intro m hm h
    obtain ⟨hzero, hlt, hnot⟩ := mark_bounds m hm
    unfold lowerChar at h
    split at h
    · exact absurd (List.mem_append_left [Char.ofNat 0x3C2, Char.ofNat 0x3C3] h) hnot
    · split at h
      · exact absurd (by split at h <;> simp_all) hnot
      · have hcode := toNat_of_ofNat (List.mem_singleton.mp h).symm hzero
        obtain hsame | hle := lowerCode_cases c.toNat
        · exact Char.toNat_inj.mp (hcode.trans hsame)
        · omega

/-- That a text has the characters of another one, each in a form of it. -/
inductive Formed : List Char → List Char → Prop
  | nil : Formed [] []
  | cons {c : Char} {form cs ds : List Char} (hc : Form c form) (h : Formed cs ds) : Formed (c :: cs) (form ++ ds)

variable {cs ds : List Char}

theorem formed_lowerWithin (before cs after : List Char) : Formed cs (lowerWithin before cs after) := by
  induction cs generalizing before with
  | nil => exact .nil
  | cons c rest ih => exact .cons (form_lowerChar _ _ _) (ih _)

theorem formed_lowerChars (before cs : List Char) : Formed cs (lowerChars before cs) := by
  have heq : lowerChars before cs = lowerWithin before cs [] := by simpa [lowerChars] using lowerChars_append before cs []
  rw [heq]
  exact formed_lowerWithin before cs []

namespace Formed

theorem mem_iff (h : Formed cs ds) {m : Char} (hm : m ∈ marks) : m ∈ ds ↔ m ∈ cs := by
  induction h with
  | nil => rfl
  | @cons c form cs ds hc _ ih =>
    rw [List.mem_append, ih, List.mem_cons]
    refine or_congr_left ⟨hc.mark m hm, ?_⟩
    rintro rfl
    simp [hc.kept hm]

theorem of_cons {m : Char} (hm : m ∈ marks) (h : Formed (m :: cs) ds) : ∃ ds', ds = m :: ds' ∧ Formed cs ds' := by
  cases h with
  | @cons c form cs ds hc h => exact ⟨ds, by rw [hc.kept hm, List.singleton_append], h⟩

theorem of_append {lead : List Char} (hlead : lead ⊆ marks) (h : Formed (lead ++ cs) ds) :
    ∃ ds', ds = lead ++ ds' ∧ Formed cs ds' := by
  induction lead generalizing ds with
  | nil => exact ⟨ds, rfl, h⟩
  | cons m lead ih =>
    obtain ⟨hm, hlead⟩ := List.cons_subset.mp hlead
    obtain ⟨ds', rfl, hrest⟩ := h.of_cons hm
    obtain ⟨ds'', rfl, hcs⟩ := ih hlead hrest
    exact ⟨ds'', rfl, hcs⟩

theorem head?_iff (h : Formed cs ds) {m : Char} (hm : m ∈ marks) : ds.head? = some m ↔ cs.head? = some m := by
  cases h with
  | nil => rfl
  | @cons c form cs ds hc h =>
    cases hform : form with
    | nil => exact absurd hform hc.filled
    | cons d rest =>
      have hd : d = m ↔ c = m := by
        constructor
        · rintro rfl
          exact (hc.mark d hm (by simp [hform])).symm
        · rintro rfl
          exact (List.cons.inj (hform.symm.trans (hc.kept hm))).1
      simpa using hd

end Formed

theorem form_self (c : Char) : Form c [c] :=
  ⟨List.cons_ne_nil c [], fun _ => rfl, fun _ _ h => List.mem_singleton.mp h⟩

theorem Formed.append {cs' ds' : List Char} (h : Formed cs ds) (h' : Formed cs' ds') : Formed (cs ++ cs') (ds ++ ds') := by
  induction h with
  | nil => exact h'
  | cons hc _ ih =>
    rw [List.cons_append, List.append_assoc]
    exact .cons hc ih

/-! Texts in brackets. -/

/-- What stands at the beginning of a text in brackets and does not end it, in front of the rest. -/
inductive Lead : (lead rest : List Char) → Prop
  | negatedClosing (rest : List Char) : Lead ['!', ']'] rest
  | negated (rest : List Char) (h : rest.head? ≠ some ']') : Lead ['!'] rest
  | closing (rest : List Char) : Lead [']'] rest
  | none (rest : List Char) (hn : rest.head? ≠ some '!') (hc : rest.head? ≠ some ']') : Lead [] rest

theorem exists_lead (cs : List Char) : ∃ lead rest, cs = lead ++ rest ∧ Lead lead rest := by
  by_cases hn : cs.head? = some '!'
  · obtain ⟨rest, rfl⟩ := List.head?_eq_some_iff.mp hn
    by_cases hc : rest.head? = some ']'
    · obtain ⟨rest, rfl⟩ := List.head?_eq_some_iff.mp hc
      exact ⟨_, rest, rfl, .negatedClosing rest⟩
    · exact ⟨_, rest, rfl, .negated rest hc⟩
  · by_cases hc : cs.head? = some ']'
    · obtain ⟨rest, rfl⟩ := List.head?_eq_some_iff.mp hc
      exact ⟨_, rest, rfl, .closing rest⟩
    · exact ⟨[], cs, rfl, .none cs hn hc⟩

variable {lead rest rest' body tail : List Char}

theorem Lead.subset (h : Lead lead rest) : lead ⊆ marks := by
  cases h <;> decide

theorem Lead.formed (h : Lead lead rest) (hr : Formed rest rest') : Lead lead rest' := by
  cases h with
  | negatedClosing => exact .negatedClosing rest'
  | negated _ h => exact .negated rest' (mt (hr.head?_iff (by decide)).mp h)
  | closing => exact .closing rest'
  | none _ hn hc => exact .none rest' (mt (hr.head?_iff (by decide)).mp hn) (mt (hr.head?_iff (by decide)).mp hc)

def leadLength (cs : List Char) : Nat :=
  match cs with
  | '!' :: ']' :: _ => 2
  | '!' :: _ => 1
  | ']' :: _ => 1
  | _ => 0

theorem Lead.length (h : Lead lead rest) : leadLength (lead ++ rest) = lead.length := by
  cases h with
  | negatedClosing => rfl
  | negated _ h =>
    unfold leadLength
    split
    · next heq => simp_all
    · rfl
    · rfl
    · simp_all
  | closing => rfl
  | none _ hn hc =>
    unfold leadLength
    split <;> simp_all

theorem bracketed?_eq (cs : List Char) : bracketed? cs =
    let body := cs.take (leadLength cs + ((cs.drop (leadLength cs)).takeWhile (· != ']')).length)
    match cs.drop body.length with
    | ']' :: tail => some (body, tail)
    | _ => none := rfl

theorem takeWhile_append {more : List Char} (h : ']' ∉ more) (tail : List Char) :
    (more ++ tail).takeWhile (· != ']') = more ++ tail.takeWhile (· != ']') :=
  List.takeWhile_append_of_pos (by simpa using fun c hc => ne_of_mem_of_not_mem hc h)

theorem bracketed?_eq_some {more : List Char} (h : Lead lead (more ++ ']' :: tail)) (hm : ']' ∉ more) :
    bracketed? (lead ++ (more ++ ']' :: tail)) = some (lead ++ more, tail) := by
  have hsplit : lead ++ (more ++ ']' :: tail) = (lead ++ more) ++ ']' :: tail := (List.append_assoc _ _ _).symm
  have hmore : (more ++ ']' :: tail).takeWhile (· != ']') = more := by simp [takeWhile_append hm]
  have hbody : (lead ++ (more ++ ']' :: tail)).take (lead.length + more.length) = lead ++ more := by
    rw [hsplit, ← List.length_append, List.take_append_length]
  rw [bracketed?_eq, h.length, List.drop_append_length, hmore]
  dsimp only
  rw [hbody, hsplit, List.drop_append_length]
  rfl

theorem bracketed?_eq_none (h : Lead lead rest) (hr : ']' ∉ rest) : bracketed? (lead ++ rest) = .none := by
  have hall : rest.takeWhile (· != ']') = rest := by simpa using takeWhile_append hr []
  rw [bracketed?_eq, h.length, List.drop_append_length, hall, ← List.length_append]
  simp

theorem exists_of_bracketed? (hb : bracketed? cs = some (body, tail)) : ∃ lead more, body = lead ++ more ∧
    cs = body ++ ']' :: tail ∧ Lead lead (more ++ ']' :: tail) ∧ ']' ∉ more := by
  obtain ⟨lead, rest, rfl, hlead⟩ := exists_lead cs
  by_cases hmem : ']' ∈ rest
  · obtain ⟨more, after, rfl, hmore⟩ := List.eq_append_cons_of_mem hmem
    rw [bracketed?_eq_some hlead hmore] at hb
    cases hb
    exact ⟨lead, more, rfl, (List.append_assoc _ _ _).symm, hlead, hmore⟩
  · rw [bracketed?_eq_none hlead hmem] at hb
    cases hb

theorem Formed.bracketed?_eq_some {body' tail' : List Char} (hb : bracketed? cs = some (body, tail))
    (h : Formed body body') (ht : Formed tail tail') : bracketed? (body' ++ ']' :: tail') = some (body', tail') := by
  obtain ⟨lead, more, rfl, -, hlead, hmore⟩ := exists_of_bracketed? hb
  obtain ⟨more', rfl, hmore'⟩ := h.of_append hlead.subset
  have hclosing : Formed (']' :: tail) (']' :: tail') := .cons (form_self ']') ht
  rw [List.append_assoc]
  exact NamePattern.bracketed?_eq_some (hlead.formed (hmore'.append hclosing)) (mt (hmore'.mem_iff (by decide)).mp hmore)

theorem Formed.bracketed?_eq_none (h : Formed cs ds) (hb : bracketed? cs = .none) : bracketed? ds = .none := by
  obtain ⟨lead, rest, rfl, hlead⟩ := exists_lead cs
  obtain ⟨rest', rfl, hrest⟩ := h.of_append hlead.subset
  refine NamePattern.bracketed?_eq_none (hlead.formed hrest) fun hmem => ?_
  have hmem : ']' ∈ rest := (hrest.mem_iff (by decide)).mp hmem
  obtain ⟨more, tail, rfl, hmore⟩ := List.eq_append_cons_of_mem hmem
  rw [NamePattern.bracketed?_eq_some hlead hmore] at hb
  cases hb

end NamePattern
end Winnow
