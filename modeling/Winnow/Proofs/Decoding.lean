import Mathlib.Data.List.Basic
import Winnow.Text.Utf8

/-!
What bytes read as. The encodings of characters are read as these characters; where none stands, the longest part that
could still become one is read as one replacement character. Every byte sequence reads as exactly one text, which is
the one that decoding gives.
-/
set_option autoImplicit false

namespace Winnow.Text

namespace Utf8

def Opens (bytes : List UInt8) : Prop := ∃ c, bytes <+: String.utf8EncodeChar c

/-- That `part ++ rest` begins with no character, and that `part` is the longest beginning of it that could become
one, or its first byte if none could. -/
structure IllFormed (part rest : List UInt8) : Prop where
  noChar : ∀ c, ¬ String.utf8EncodeChar c <+: part ++ rest
  joined : part.length = 1 ∨ part ≠ [] ∧ Opens part
  longest : ∀ more, more <+: part ++ rest → part.length < more.length → ¬ Opens more

theorem IllFormed.ne_nil {part rest : List UInt8} (h : IllFormed part rest) : part ≠ [] := by
  rcases h.joined with hlen | ⟨hne, -⟩
  · rintro rfl
    cases hlen
  · exact hne

/-- What bytes read as, character by character. -/
inductive Reads : List UInt8 → List Char → Prop
  | nil : Reads [] []
  | char (c : Char) {rest : List UInt8} {cs : List Char} (h : Reads rest cs) :
    Reads (String.utf8EncodeChar c ++ rest) (c :: cs)
  | illFormed {part rest : List UInt8} {cs : List Char} (hp : IllFormed part rest) (h : Reads rest cs) :
    Reads (part ++ rest) (Char.ofNat 0xFFFD :: cs)

/-! How an encoding goes on after its first byte. -/

/-- That the bytes are continuation bytes, `need` at most, the first of them between `lo` and `hi`. -/
def Follow : (need lo hi : Nat) → List UInt8 → Prop
  | _, _, _, [] => True
  | 0, _, _, _ :: _ => False
  | need + 1, lo, hi, b :: bs => (lo ≤ b.toNat ∧ b.toNat ≤ hi) ∧ Follow need 0x80 0xBF bs

def value (acc : Nat) (bs : List UInt8) : Nat := bs.foldl (fun acc b => acc * 64 + b.toNat % 64) acc

variable {need lo hi : Nat} {bs more : List UInt8}

@[simp] theorem follow_nil : Follow need lo hi [] := by
  cases need <;> trivial

theorem Follow.length_le (h : Follow need lo hi bs) : bs.length ≤ need := by
  induction bs generalizing need lo hi with
  | nil => exact Nat.zero_le _
  | cons b bs ih =>
    cases need with
    | zero => exact h.elim
    | succ need => exact Nat.succ_le_succ (ih h.2)

theorem Follow.of_prefix (h : Follow need lo hi bs) (hm : more <+: bs) : Follow need lo hi more := by
  induction bs generalizing need lo hi more with
  | nil =>
    rw [List.prefix_nil.mp hm]
    exact follow_nil
  | cons b bs ih =>
    cases need with
    | zero => exact h.elim
    | succ need =>
      rcases List.prefix_cons_iff.mp hm with rfl | ⟨tail, rfl, ht⟩
      · exact follow_nil
      · exact ⟨h.1, ih h.2 ht⟩

theorem Follow.complete (h : Follow need lo hi bs) (hl : lo ≤ hi) (hh : hi < 256) :
    ∃ full, bs <+: full ∧ Follow need lo hi full ∧ full.length = need := by
  induction need generalizing lo hi bs with
  | zero => exact ⟨bs, List.prefix_refl bs, h, Nat.le_zero.mp h.length_le⟩
  | succ need ih =>
    cases bs with
    | nil =>
      have hnone : Follow need 0x80 0xBF [] := follow_nil
      obtain ⟨full, -, hf, hlen⟩ := ih hnone (by decide) (by decide)
      have hlo : (UInt8.ofNat lo).toNat = lo := by
        rw [UInt8.toNat_ofNat']
        omega
      exact ⟨UInt8.ofNat lo :: full, List.nil_prefix, ⟨by omega, hf⟩, by simp [hlen]⟩
    | cons b bs =>
      obtain ⟨full, hp, hf, hlen⟩ := ih h.2 (by decide) (by decide)
      exact ⟨b :: full, List.cons_prefix_cons.mpr ⟨rfl, hp⟩, ⟨h.1, hf⟩, by simp [hlen]⟩

theorem followers?_eq_some {lead : Nat} : followers? lead = some (need, lo, hi) ↔
    (0xC2 ≤ lead ∧ lead ≤ 0xDF ∧ need = 1 ∧ lo = 0x80 ∧ hi = 0xBF) ∨
    (0xE0 ≤ lead ∧ lead ≤ 0xEF ∧ need = 2 ∧ lo = (if lead = 0xE0 then 0xA0 else 0x80) ∧
      hi = if lead = 0xED then 0x9F else 0xBF) ∨
    (0xF0 ≤ lead ∧ lead ≤ 0xF4 ∧ need = 3 ∧ lo = (if lead = 0xF0 then 0x90 else 0x80) ∧
      hi = if lead = 0xF4 then 0x8F else 0xBF) := by
  unfold followers?
  simp only [beq_iff_eq]
  repeat' split
  all_goals simp only [Option.some.injEq, Prod.mk.injEq, reduceCtorEq, false_iff]; omega

theorem bounds_of_followers? {lead : Nat} (h : followers? lead = some (need, lo, hi)) : lo ≤ hi ∧ hi < 256 := by
  rw [followers?_eq_some] at h
  repeat' split at h
  all_goals omega

theorem encode_cases (c : Char) :
    (c.toNat < 0x80 ∧ String.utf8EncodeChar c = [UInt8.ofNat c.toNat]) ∨
    ∃ lead bs need lo hi, String.utf8EncodeChar c = lead :: bs ∧ followers? lead.toNat = some (need, lo, hi) ∧
      Follow need lo hi bs ∧ bs.length = need := by
  have hv : c.toNat < 0xD800 ∨ 0xDFFF < c.toNat ∧ c.toNat < 0x110000 := c.valid
  have hdef : String.utf8EncodeChar c = _ := String.utf8EncodeChar.eq_1 c
  have hn : c.val.toNat = c.toNat := rfl
  simp only [hn] at hdef
  generalize c.toNat = v at hv hdef ⊢
  rw [hdef]
  split
  · exact .inl ⟨by omega, rfl⟩
  · right
    split
    · refine ⟨_, _, 1, _, _, rfl, followers?_eq_some.mpr (.inl ⟨?_, ?_, rfl, rfl, rfl⟩), ?_, rfl⟩
      all_goals simp only [Follow, UInt8.toNat_ofNat', and_true]; omega
    split
    · refine ⟨_, _, 2, _, _, rfl, followers?_eq_some.mpr (.inr (.inl ⟨?_, ?_, rfl, rfl, rfl⟩)), ?_, rfl⟩
      · simp only [UInt8.toNat_ofNat']
        omega
      · simp only [UInt8.toNat_ofNat']
        omega
      · simp only [Follow, UInt8.toNat_ofNat', and_true]
        split <;> split <;> omega
    · refine ⟨_, _, 3, _, _, rfl, followers?_eq_some.mpr (.inr (.inr ⟨?_, ?_, rfl, rfl, rfl⟩)), ?_, rfl⟩
      · simp only [UInt8.toNat_ofNat']
        omega
      · simp only [UInt8.toNat_ofNat']
        omega
      · simp only [Follow, UInt8.toNat_ofNat', and_true]
        split <;> split <;> omega

theorem toNat_ofNat_of_valid {v : Nat} (h : v.isValidChar) : (Char.ofNat v).toNat = v := by
  rw [Char.ofNat, dif_pos h, Char.toNat]
  rfl

theorem encode_of_valid {v : Nat} (h : v.isValidChar) : String.utf8EncodeChar (Char.ofNat v) =
    if v ≤ 0x7F then [UInt8.ofNat v]
    else if v ≤ 0x7FF then [UInt8.ofNat (v / 64 % 32 + 192), UInt8.ofNat (v % 64 + 128)]
    else if v ≤ 0xFFFF then
      [UInt8.ofNat (v / 4096 % 16 + 224), UInt8.ofNat (v / 64 % 64 + 128), UInt8.ofNat (v % 64 + 128)]
    else [UInt8.ofNat (v / 262144 % 8 + 240), UInt8.ofNat (v / 4096 % 64 + 128), UInt8.ofNat (v / 64 % 64 + 128),
      UInt8.ofNat (v % 64 + 128)] := by
  have hto : (Char.ofNat v).val.toNat = v := toNat_ofNat_of_valid h
  rw [String.utf8EncodeChar.eq_1, hto]

theorem encode_of_lt {lead : UInt8} (h : lead.toNat < 0x80) :
    String.utf8EncodeChar (Char.ofNat lead.toNat) = [lead] := by
  rw [encode_of_valid (.inl (by omega)), if_pos (by omega), UInt8.ofNat_toNat]

theorem encode_ofNat {lead : UInt8} (hl : followers? lead.toNat = some (need, lo, hi)) (hf : Follow need lo hi bs)
    (hlen : bs.length = need) :
    String.utf8EncodeChar (Char.ofNat (value (lead.toNat % Nat.pow 2 (6 - need)) bs)) = lead :: bs := by
  rw [followers?_eq_some] at hl
  rcases hl with ⟨h1, h2, rfl, rfl, rfl⟩ | ⟨h1, h2, rfl, rfl, rfl⟩ | ⟨h1, h2, rfl, rfl, rfl⟩
  · obtain ⟨a, rfl⟩ := List.length_eq_one_iff.mp hlen
    simp only [Follow, and_true] at hf
    have hv : value (lead.toNat % Nat.pow 2 (6 - 1)) [a] = lead.toNat % 32 * 64 + a.toNat % 64 := rfl
    rw [hv, encode_of_valid (.inl (by omega)), if_neg (by omega), if_pos (by omega)]
    simp only [List.cons.injEq, and_true, ← UInt8.toNat_inj, UInt8.toNat_ofNat']
    omega
  · obtain ⟨a, b, rfl⟩ := List.length_eq_two.mp hlen
    simp only [Follow, and_true] at hf
    have hv : value (lead.toNat % Nat.pow 2 (6 - 2)) [a, b] =
        (lead.toNat % 16 * 64 + a.toNat % 64) * 64 + b.toNat % 64 := rfl
    have ha : 0x80 ≤ a.toNat ∧ a.toNat ≤ 0xBF ∧ (lead.toNat = 0xE0 → 0xA0 ≤ a.toNat) ∧
        (lead.toNat = 0xED → a.toNat ≤ 0x9F) := by
      obtain ⟨hf, -⟩ := hf
      split at hf <;> split at hf <;> omega
    rw [hv, encode_of_valid (by unfold Nat.isValidChar; omega), if_neg (by omega), if_neg (by omega), if_pos (by omega)]
    simp only [List.cons.injEq, and_true, ← UInt8.toNat_inj, UInt8.toNat_ofNat']
    omega
  · obtain ⟨a, b, c, rfl⟩ := List.length_eq_three.mp hlen
    simp only [Follow, and_true] at hf
    have hv : value (lead.toNat % Nat.pow 2 (6 - 3)) [a, b, c] =
        ((lead.toNat % 8 * 64 + a.toNat % 64) * 64 + b.toNat % 64) * 64 + c.toNat % 64 := rfl
    have ha : 0x80 ≤ a.toNat ∧ a.toNat ≤ 0xBF ∧ (lead.toNat = 0xF0 → 0x90 ≤ a.toNat) ∧
        (lead.toNat = 0xF4 → a.toNat ≤ 0x8F) := by
      obtain ⟨hf, -⟩ := hf
      split at hf <;> split at hf <;> omega
    rw [hv, encode_of_valid (by unfold Nat.isValidChar; omega), if_neg (by omega), if_neg (by omega), if_neg (by omega)]
    simp only [List.cons.injEq, and_true, ← UInt8.toNat_inj, UInt8.toNat_ofNat']
    omega

theorem opens_cons {lead : UInt8} : Opens (lead :: bs) ↔ (lead.toNat < 0x80 ∧ bs = []) ∨
    ∃ need lo hi, followers? lead.toNat = some (need, lo, hi) ∧ Follow need lo hi bs := by
  constructor
  · rintro ⟨c, hc⟩
    rcases encode_cases c with ⟨hv, he⟩ | ⟨first, full, need, lo, hi, he, hl, hf, -⟩ <;>
      rw [he, List.cons_prefix_cons] at hc
    · obtain ⟨rfl, hb⟩ := hc
      refine .inl ⟨?_, List.prefix_nil.mp hb⟩
      rw [UInt8.toNat_ofNat']
      omega
    · obtain ⟨rfl, hb⟩ := hc
      exact .inr ⟨need, lo, hi, hl, hf.of_prefix hb⟩
  · rintro (⟨hv, rfl⟩ | ⟨need, lo, hi, hl, hf⟩)
    · exact ⟨Char.ofNat lead.toNat, encode_of_lt hv ▸ List.prefix_refl [lead]⟩
    · obtain ⟨hle, hlt⟩ := bounds_of_followers? hl
      obtain ⟨full, hp, hfull, hlen⟩ := hf.complete hle hlt
      exact ⟨_, encode_ofNat hl hfull hlen ▸ List.cons_prefix_cons.mpr ⟨rfl, hp⟩⟩

theorem encode_ne_nil (c : Char) : String.utf8EncodeChar c ≠ [] := by
  rcases encode_cases c with ⟨-, he⟩ | ⟨_, _, _, _, _, he, -⟩ <;> simp [he]

/-- What comes of taking continuation bytes from `rest`: a character, or the end of those that are right. -/
inductive Continues (acc width need lo hi : Nat) (rest : List UInt8) : Utf8Head → Prop
  | char (bs tail : List UInt8) (hr : rest = bs ++ tail) (hlen : bs.length = need) (hf : Follow need lo hi bs) :
    Continues acc width need lo hi rest (.char (Char.ofNat (value acc bs)) (width + bs.length))
  | bad (fault : Utf8Fault) (bs tail : List UInt8) (hr : rest = bs ++ tail) (hlen : bs.length < need)
    (hf : Follow need lo hi bs) (hend : ∀ b ∈ tail.head?, ¬ Follow need lo hi (bs ++ [b])) :
    Continues acc width need lo hi rest (.bad fault (width + bs.length))

theorem continues (acc width need lo hi : Nat) (rest : List UInt8) :
    Continues acc width need lo hi rest (Utf8.continue acc width need lo hi rest) := by
  induction need generalizing acc width lo hi rest with
  | zero => exact .char [] rest rfl rfl follow_nil
  | succ need ih =>
    cases rest with
    | nil => exact .bad .endOfData [] [] rfl (Nat.succ_pos _) follow_nil (by simp)
    | cons b rest =>
      unfold Utf8.continue
      split
      · next hb =>
        simp only [Bool.and_eq_true, decide_eq_true_eq] at hb
        have hrest := ih (acc * 64 + b.toNat % 64) (width + 1) 0x80 0xBF rest
        generalize Utf8.continue _ _ _ _ _ rest = head at hrest ⊢
        cases hrest with
        | char bs tail hr hlen hf =>
          have hw : width + 1 + bs.length = width + (b :: bs).length := by
            rw [List.length_cons]
            omega
          rw [hw]
          exact .char (b :: bs) tail (by rw [hr, List.cons_append]) (by rw [List.length_cons, hlen]) ⟨hb, hf⟩
        | bad fault bs tail hr hlen hf hend =>
          have hw : width + 1 + bs.length = width + (b :: bs).length := by
            rw [List.length_cons]
            omega
          rw [hw]
          refine .bad fault (b :: bs) tail (by rw [hr, List.cons_append]) ?_ ⟨hb, hf⟩ ?_
          · rw [List.length_cons]
            omega
          · exact fun a ha h => hend a ha h.2
      · next hb =>
        refine .bad .continuationByte [] (b :: rest) rfl (Nat.succ_pos _) follow_nil fun a ha h => hb ?_
        obtain rfl : b = a := by simpa using ha
        simpa using h.1

/-- What the head of a byte sequence says. -/
inductive Heads (bytes : List UInt8) : Utf8Head → Prop
  | char (c : Char) (rest : List UInt8) (hb : bytes = String.utf8EncodeChar c ++ rest) :
    Heads bytes (.char c (String.utf8EncodeChar c).length)
  | bad (fault : Utf8Fault) (part rest : List UInt8) (hb : bytes = part ++ rest) (hp : IllFormed part rest) :
    Heads bytes (.bad fault part.length)

theorem illFormed_of_follow {lead : UInt8} {tail : List UInt8}
    (hl : followers? lead.toNat = some (need, lo, hi)) (hf : Follow need lo hi bs) (hlen : bs.length < need)
    (hend : ∀ b ∈ tail.head?, ¬ Follow need lo hi (bs ++ [b])) : IllFormed (lead :: bs) tail := by
  have hlead : ¬ lead.toNat < 0x80 := by
    rw [followers?_eq_some] at hl
    omega
  -- What follows the first byte of a longer beginning goes on with the next byte.
  have hlonger : ∀ more, more <+: bs ++ tail → bs.length < more.length → ¬ Follow need lo hi more := by
    intro more hm hlt hfm
    obtain ⟨more', rfl⟩ := List.prefix_of_prefix_length_le (List.prefix_append bs tail) hm (Nat.le_of_lt hlt)
    cases more' with
    | nil => simp at hlt
    | cons b more' =>
      obtain ⟨rest, rfl⟩ := (List.prefix_append_right_inj bs).mp hm
      exact hend b (by simp) (hfm.of_prefix ⟨more', by simp⟩)
  refine ⟨fun c hc => ?_, .inr ⟨List.cons_ne_nil _ _, opens_cons.mpr (.inr ⟨_, _, _, hl, hf⟩)⟩,
    fun more hm hlt hopens => ?_⟩
  · rcases encode_cases c with ⟨hv, he⟩ | ⟨first, full, n, l, h, he, hl', hf', hfull⟩ <;>
      rw [he, List.cons_append, List.cons_prefix_cons] at hc
    · apply hlead
      rw [← hc.1, UInt8.toNat_ofNat']
      omega
    · obtain ⟨rfl, hm⟩ := hc
      cases hl.symm.trans hl'
      exact hlonger full hm (hfull ▸ hlen) hf'
  · cases more with
    | nil => simp at hlt
    | cons first more =>
      rw [List.cons_append, List.cons_prefix_cons] at hm
      obtain ⟨rfl, hm⟩ := hm
      rcases opens_cons.mp hopens with ⟨hv, -⟩ | ⟨n, l, h, hl', hf'⟩
      · exact hlead hv
      · cases hl.symm.trans hl'
        exact hlonger more hm (Nat.lt_of_succ_lt_succ hlt) hf'

theorem illFormed_of_none {lead : UInt8} (hl : followers? lead.toNat = none) (hv : ¬ lead.toNat < 0x80)
    (rest : List UInt8) : IllFormed [lead] rest := by
  have hopens : ∀ bs, ¬ Opens (lead :: bs) := by
    intro bs h
    rcases opens_cons.mp h with ⟨h, -⟩ | ⟨_, _, _, h, -⟩
    · exact hv h
    · cases hl.symm.trans h
  refine ⟨fun c hc => ?_, .inl rfl, fun more hm hlt h => ?_⟩
  · obtain ⟨first, bs, he⟩ := List.exists_cons_of_ne_nil (encode_ne_nil c)
    have hfirst := hc
    rw [he, List.cons_append, List.cons_prefix_cons] at hfirst
    exact hopens bs ⟨c, (he.trans (by rw [hfirst.1])) ▸ List.prefix_refl _⟩
  · cases more with
    | nil => simp at hlt
    | cons first more =>
      rw [List.cons_append, List.cons_prefix_cons] at hm
      exact hopens more (hm.1 ▸ h)

theorem heads_head (lead : UInt8) (rest : List UInt8) : Heads (lead :: rest) (head lead rest) := by
  unfold head
  split
  · next hv =>
    have he : String.utf8EncodeChar (Char.ofNat lead.toNat) = [lead] := encode_of_lt hv
    have hread : lead :: rest = String.utf8EncodeChar (Char.ofNat lead.toNat) ++ rest := by rw [he]; rfl
    have hc := Heads.char (Char.ofNat lead.toNat) rest hread
    rwa [he] at hc
  · next hv =>
    split
    · next hl => exact .bad .startByte [lead] rest rfl (illFormed_of_none hl hv rest)
    · next need lo hi hl =>
      have hcont := continues (lead.toNat % Nat.pow 2 (6 - need)) 1 need lo hi rest
      generalize Utf8.continue _ _ _ _ _ rest = found at hcont ⊢
      cases hcont with
      | char bs tail hr hlen hf =>
        have he := encode_ofNat hl hf hlen
        have hread : lead :: rest = (lead :: bs) ++ tail := congrArg (lead :: ·) hr
        have hc := Heads.char _ tail (hread.trans (congrArg (· ++ tail) he.symm))
        rwa [he, List.length_cons, Nat.add_comm] at hc
      | bad fault bs tail hr hlen hf hend =>
        rw [Nat.add_comm]
        exact .bad fault (lead :: bs) tail (by rw [hr]; rfl) (illFormed_of_follow hl hf hlen hend)

/-! Decoding gives what the bytes read as, and nothing else does. -/

def shown : Utf8Head → Char
  | .char c _ => c
  | .bad _ _ => Char.ofNat 0xFFFD

theorem toList_decodeReplacing (bytes : List UInt8) :
    (decodeReplacing bytes).toList = ((heads 0 0 bytes).map (·.2.2)).map shown := by
  rw [decodeReplacing, String.toList_ofList, List.map_map]
  rfl

theorem heads_skip (position position' skip : Nat) (bytes : List UInt8) :
    (heads position skip bytes).map (·.2.2) = (heads position' 0 (bytes.drop skip)).map (·.2.2) := by
  induction bytes generalizing position position' skip with
  | nil => simp [heads]
  | cons b rest ih =>
    cases skip with
    | zero =>
      simp only [heads, List.drop_zero, List.map_cons]
      rw [ih (position + 1) 0, ih (position' + 1) 0]
    | succ skip => exact ih (position + 1) position' skip

theorem heads_of_head {lead : UInt8} {bytes rest part : List UInt8} {head : Utf8Head} (position : Nat)
    (hb : lead :: bytes = part ++ rest) (hh : Utf8.head lead bytes = head) (hw : head.width = part.length)
    (hne : part ≠ []) :
    (heads position 0 (lead :: bytes)).map (·.2.2) = head :: (heads 0 0 rest).map (·.2.2) := by
  obtain ⟨first, more, rfl⟩ := List.exists_cons_of_ne_nil hne
  have hbytes : bytes = more ++ rest := (List.cons.inj hb).2
  simp only [heads, hh, List.map_cons, hw, List.length_cons, Nat.add_sub_cancel]
  rw [heads_skip (position + 1) 0, hbytes, List.drop_left]

theorem reads_heads (bytes : List UInt8) : Reads bytes (((heads 0 0 bytes).map (·.2.2)).map shown) := by
  induction hn : bytes.length using Nat.strongRecOn generalizing bytes with
  | _ n ih =>
    cases bytes with
    | nil => exact .nil
    | cons lead bytes =>
      have hhead := heads_head lead bytes
      generalize hh : head lead bytes = found at hhead
      cases hhead with
      | char c rest hb =>
        rw [heads_of_head 0 hb hh rfl (encode_ne_nil c), List.map_cons, hb]
        refine .char c (ih rest.length ?_ rest rfl)
        have hlen := List.length_pos_of_ne_nil (encode_ne_nil c)
        rw [← hn, hb, List.length_append]
        omega
      | bad fault part rest hb hp =>
        rw [heads_of_head 0 hb hh rfl hp.ne_nil, List.map_cons, hb]
        refine .illFormed hp (ih rest.length ?_ rest rfl)
        have hlen := List.length_pos_of_ne_nil hp.ne_nil
        rw [← hn, hb, List.length_append]
        omega

theorem encode_append_inj {c d : Char} {r s : List UInt8}
    (h : String.utf8EncodeChar c ++ r = String.utf8EncodeChar d ++ s) : c = d ∧ r = s := by
  have hdecode : ∀ (c : Char) (r : List UInt8), (String.utf8EncodeChar c ++ r).toByteArray.utf8DecodeChar? 0 = some c :=
    fun c r => by rw [List.toByteArray_append, ByteArray.utf8DecodeChar?_utf8EncodeChar_append]
  have hc : c = d := Option.some.inj ((hdecode c r).symm.trans (h ▸ hdecode d s))
  subst hc
  exact ⟨rfl, List.append_cancel_left h⟩

theorem IllFormed.length_le {part rest part' rest' : List UInt8} (hp : IllFormed part rest) (hp' : IllFormed part' rest')
    (h : part ++ rest = part' ++ rest') : part'.length ≤ part.length := by
  refine Nat.le_of_not_lt fun hlt => ?_
  have hpos := List.length_pos_of_ne_nil hp.ne_nil
  have hopens : Opens part' := by
    rcases hp'.joined with h | h
    · omega
    · exact h.2
  exact hp.longest part' (h ▸ List.prefix_append _ _) hlt hopens

theorem Reads.unique {bytes : List UInt8} {cs ds : List Char} (h : Reads bytes cs) (h' : Reads bytes ds) : cs = ds := by
  induction h generalizing ds with
  | nil =>
    generalize hb : ([] : List UInt8) = bytes at h'
    cases h' with
    | nil => rfl
    | char c _ => exact absurd (List.append_eq_nil_iff.mp hb.symm).1 (encode_ne_nil c)
    | illFormed hp _ => exact absurd (List.append_eq_nil_iff.mp hb.symm).1 hp.ne_nil
  | @char c rest cs h ih =>
    generalize hb : String.utf8EncodeChar c ++ rest = bytes at h'
    cases h' with
    | nil => exact absurd (List.append_eq_nil_iff.mp hb).1 (encode_ne_nil c)
    | char d h' =>
      obtain ⟨rfl, rfl⟩ := encode_append_inj hb
      rw [ih h']
    | illFormed hp _ => exact absurd (hb ▸ List.prefix_append _ _) (hp.noChar c)
  | @illFormed part rest cs hp h ih =>
    generalize hb : part ++ rest = bytes at h'
    cases h' with
    | nil => exact absurd (List.append_eq_nil_iff.mp hb).1 hp.ne_nil
    | char c _ => exact absurd (hb ▸ List.prefix_append _ _) (hp.noChar c)
    | illFormed hp' h' =>
      obtain ⟨rfl, rfl⟩ := List.append_inj hb (Nat.le_antisymm (hp'.length_le hp hb.symm) (hp.length_le hp' hb))
      rw [ih h']

end Utf8

open Utf8

theorem reads_iff {bytes : List UInt8} {cs : List Char} : Reads bytes cs ↔ cs = (decodeReplacing bytes).toList := by
  rw [toList_decodeReplacing]
  exact ⟨fun h => h.unique (reads_heads bytes), fun h => h ▸ reads_heads bytes⟩

theorem reads_flatMap (cs : List Char) : Reads (cs.flatMap String.utf8EncodeChar) cs := by
  induction cs with
  | nil => exact .nil
  | cons c cs ih => exact .char c ih

end Winnow.Text
