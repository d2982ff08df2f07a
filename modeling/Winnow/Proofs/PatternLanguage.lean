import Winnow.Pattern

/-!
What search finds. Programs that look at nothing but the characters they take, one after the other, take certain
words, and whatever order the ways to match are tried in, such a program is found in a text exactly if one of its words
stands somewhere in the text.
-/
set_option autoImplicit false

namespace Winnow

section Lists

variable {α : Type} {u v l : List α}

theorem append_prefix_iff : u ++ v <+: l ↔ u <+: l ∧ v <+: l.drop u.length := by
  constructor
  · rintro ⟨rest, rfl⟩
    exact ⟨⟨v ++ rest, by simp⟩, ⟨rest, by simp⟩⟩
  · rintro ⟨⟨rest, rfl⟩, hv⟩
    rw [List.drop_left] at hv
    exact (List.prefix_append_right_inj u).mpr hv

theorem infix_iff_prefix_drop : u <:+: l ↔ ∃ i, i ≤ l.length ∧ u <+: l.drop i := by
  constructor
  · rintro ⟨before, after, rfl⟩
    exact ⟨before.length, by simp, ⟨after, by simp⟩⟩
  · rintro ⟨i, -, hu⟩
    exact hu.isInfix.trans (List.drop_suffix i l).isInfix

end Lists

namespace Pattern

section Search

variable {s : Subject} {test : Nat → Bool} {k : Next} {p : Spot}

theorem backOff_succ (least extra : Nat) : backOff k p least (extra + 1) =
    (k { p with at_ := p.at_ + (least + extra + 1) }).or (backOff k p least extra) := by
  rw [backOff]
  cases k { p with at_ := p.at_ + (least + extra + 1) } <;> rfl

theorem goOn_succ (count extra : Nat) : goOn k p count (extra + 1) =
    (k { p with at_ := p.at_ + count }).or (goOn k p (count + 1) extra) := by
  rw [goOn]
  cases k { p with at_ := p.at_ + count } <;> rfl

theorem isSome_backOff {least extra : Nat} : (backOff k p least extra).isSome = true ↔
    ∃ n, least ≤ n ∧ n ≤ least + extra ∧ (k { p with at_ := p.at_ + n }).isSome = true := by
  induction extra with
  | zero =>
    constructor
    · exact fun h => ⟨least, Nat.le_refl _, Nat.le_refl _, h⟩
    · rintro ⟨n, hl, hu, h⟩
      obtain rfl : n = least := by omega
      exact h
  | succ extra ih =>
    rw [backOff_succ, Option.isSome_or, Bool.or_eq_true, ih]
    constructor
    · rintro (h | ⟨n, hl, hu, h⟩)
      · exact ⟨least + extra + 1, by omega, by omega, h⟩
      · exact ⟨n, hl, by omega, h⟩
    · rintro ⟨n, hl, hu, h⟩
      by_cases hn : n = least + extra + 1
      · exact .inl (hn ▸ h)
      · exact .inr ⟨n, hl, by omega, h⟩

theorem isSome_goOn {count extra : Nat} : (goOn k p count extra).isSome = true ↔
    ∃ n, count ≤ n ∧ n ≤ count + extra ∧ (k { p with at_ := p.at_ + n }).isSome = true := by
  induction extra generalizing count with
  | zero =>
    constructor
    · exact fun h => ⟨count, Nat.le_refl _, Nat.le_refl _, h⟩
    · rintro ⟨n, hl, hu, h⟩
      obtain rfl : n = count := by omega
      exact h
  | succ extra ih =>
    rw [goOn_succ, Option.isSome_or, Bool.or_eq_true, ih]
    constructor
    · rintro (h | ⟨n, hl, hu, h⟩)
      · exact ⟨count, Nat.le_refl _, by omega, h⟩
      · exact ⟨n, by omega, by omega, h⟩
    · rintro ⟨n, hl, hu, h⟩
      by_cases hn : n = count
      · exact .inl (hn ▸ h)
      · exact .inr ⟨n, by omega, by omega, h⟩

theorem drop_of_none {i : Nat} (h : s[i]? = none) : s.toList.drop i = [] := by
  rw [List.drop_eq_nil_iff, Array.length_toList]
  exact Array.getElem?_eq_none_iff.mp h

theorem drop_of_some {i c : Nat} (h : s[i]? = some c) : s.toList.drop i = c :: s.toList.drop (i + 1) := by
  obtain ⟨hi, hc⟩ := Array.getElem?_eq_some_iff.mp h
  rw [List.drop_eq_getElem_cons (by simpa using hi), Array.getElem_toList, hc]

theorem le_runLength_iff {i limit n : Nat} : n ≤ runLength s test i limit ↔
    n ≤ limit ∧ ∃ w, w.length = n ∧ w <+: s.toList.drop i ∧ ∀ c ∈ w, test c = true := by
  induction limit generalizing i n with
  | zero =>
    rw [runLength]
    constructor
    · intro h
      obtain rfl : n = 0 := by omega
      exact ⟨Nat.le_refl _, [], rfl, List.nil_prefix, by simp⟩
    · exact And.left
  | succ limit ih =>
    cases n with
    | zero => exact iff_of_true (Nat.zero_le _) ⟨Nat.zero_le _, [], rfl, List.nil_prefix, by simp⟩
    | succ n =>
      rw [runLength]
      cases hc : s[i]? with
      | none =>
        refine iff_of_false (by simp) ?_
        rintro ⟨-, w, hl, hw, -⟩
        rw [drop_of_none hc, List.prefix_nil] at hw
        simp [hw] at hl
      | some c =>
        rw [drop_of_some hc]
        by_cases ht : test c = true
        · simp only [ht, if_true]
          rw [Nat.succ_le_succ_iff, ih, Nat.succ_le_succ_iff]
          refine and_congr_right fun _ => ?_
          constructor
          · rintro ⟨w, hl, hw, hall⟩
            exact ⟨c :: w, by rw [List.length_cons, hl], List.cons_prefix_cons.mpr ⟨rfl, hw⟩,
              List.forall_mem_cons.mpr ⟨ht, hall⟩⟩
          · rintro ⟨w, hl, hw, hall⟩
            obtain ⟨d, v, rfl⟩ := List.exists_cons_of_length_eq_add_one hl
            obtain ⟨rfl, hv⟩ := List.cons_prefix_cons.mp hw
            exact ⟨v, Nat.succ.inj hl, hv, (List.forall_mem_cons.mp hall).2⟩
        · refine iff_of_false (by simp [ht]) ?_
          rintro ⟨-, w, hl, hw, hall⟩
          obtain ⟨d, v, rfl⟩ := List.exists_cons_of_length_eq_add_one hl
          obtain ⟨rfl, -⟩ := List.cons_prefix_cons.mp hw
          exact ht (hall d (by simp))

def runLimit (room : Nat) : Option Nat → Nat
  | some n => Nat.min n room
  | none => room

/-- A run of at least `least` characters where there are `count`. -/
def endRun (mode : RepeatMode) (k : Next) (p : Spot) (least count : Nat) : Option Spot :=
  if count < least then none
  else match mode with
    | .greedy => backOff k p least (count - least)
    | .lazy => goOn k p least (count - least)
    | .possessive => k { p with at_ := p.at_ + count }

theorem runChars_eq (mode : RepeatMode) (least : Nat) (most : Option Nat) : runChars s mode least most test k p =
    endRun mode k p least (runLength s test p.at_ (runLimit (s.size - p.at_) most)) := by
  cases most <;> cases mode <;> rfl

theorem isSome_endRun {mode : RepeatMode} (hm : mode ≠ .possessive) {least count : Nat} :
    (endRun mode k p least count).isSome = true ↔
      ∃ n, least ≤ n ∧ n ≤ count ∧ (k { p with at_ := p.at_ + n }).isSome = true := by
  unfold endRun
  by_cases hc : count < least
  · rw [if_pos hc]
    refine iff_of_false (by simp) ?_
    rintro ⟨n, hl, hu, -⟩
    omega
  · rw [if_neg hc]
    have hsum : least + (count - least) = count := by omega
    cases mode with
    | greedy => rw [isSome_backOff, hsum]
    | «lazy» => rw [isSome_goOn, hsum]
    | possessive => exact absurd rfl hm

theorem le_runLimit_iff {room n : Nat} {most : Option Nat} :
    n ≤ runLimit room most ↔ n ≤ room ∧ ∀ m ∈ most, n ≤ m := by
  cases most with
  | none => simp [runLimit]
  | some m =>
    have hmin : n ≤ runLimit room (some m) ↔ n ≤ m ∧ n ≤ room := Nat.le_min
    rw [hmin, and_comm]
    simp only [Option.mem_some_iff, forall_eq']

theorem isSome_runChars {mode : RepeatMode} (hm : mode ≠ .possessive) {least : Nat} {most : Option Nat} :
    (runChars s mode least most test k p).isSome = true ↔ ∃ w, (least ≤ w.length ∧ (∀ n ∈ most, w.length ≤ n) ∧
      ∀ c ∈ w, test c = true) ∧ w <+: s.toList.drop p.at_ ∧
        (k { p with at_ := p.at_ + w.length }).isSome = true := by
  rw [runChars_eq, isSome_endRun hm]
  constructor
  · rintro ⟨n, hl, hu, hk⟩
    obtain ⟨hlim, w, rfl, hw, hall⟩ := le_runLength_iff.mp hu
    exact ⟨w, ⟨hl, (le_runLimit_iff.mp hlim).2, hall⟩, hw, hk⟩
  · rintro ⟨w, ⟨hl, hmost, hall⟩, hw, hk⟩
    have hroom := hw.length_le
    rw [List.length_drop, Array.length_toList] at hroom
    exact ⟨w.length, hl, le_runLength_iff.mpr ⟨le_runLimit_iff.mpr ⟨hroom, hmost⟩, w, rfl, hw, hall⟩, hk⟩

end Search

namespace Program

/-- That a program takes exactly this word, wherever it stands. -/
def Takes : Program → List Nat → Prop
  | .pass, w => w = []
  | .one test, w => ∃ c, w = [c] ∧ test c = true
  | .seq a b, w => ∃ u v, w = u ++ v ∧ a.Takes u ∧ b.Takes v
  | .alt a b, w => a.Takes w ∨ b.Takes w
  | .run _ least most test, w => least ≤ w.length ∧ (∀ n ∈ most, w.length ≤ n) ∧ ∀ c ∈ w, test c = true
  | _, _ => False

/-- That a program looks at the characters it takes and at nothing else, and can take back what it took. -/
def Simple : Program → Prop
  | .pass | .fail | .one _ => True
  | .seq a b | .alt a b => a.Simple ∧ b.Simple
  | .run mode .. => mode ≠ .possessive
  | _ => False

theorem exec_alt (a b : Program) (s : Subject) (k : Next) (p : Spot) :
    (Program.alt a b).exec s k p = (a.exec s k p).or (b.exec s k p) := by
  cases h : a.exec s k p <;> simp [exec, h]

theorem isSome_exec_one {test : Nat → Bool} {s : Subject} {k : Next} {p : Spot} :
    ((Program.one test).exec s k p).isSome = true ↔
      ∃ c, test c = true ∧ [c] <+: s.toList.drop p.at_ ∧ (k { p with at_ := p.at_ + 1 }).isSome = true := by
  cases hc : s[p.at_]? with
  | none => simp [exec, hc, drop_of_none hc]
  | some c =>
    have hexec : (Program.one test).exec s k p = if test c = true then k { p with at_ := p.at_ + 1 } else none := by
      simp [exec, hc]
    have hhead : ∀ d, [d] <+: c :: s.toList.drop (p.at_ + 1) ↔ d = c := by simp
    rw [hexec, drop_of_some hc]
    simp only [hhead]
    constructor
    · intro h
      split at h
      · next ht => exact ⟨c, ht, rfl, h⟩
      · cases h
    · rintro ⟨d, ht, rfl, h⟩
      rwa [if_pos ht]

theorem isSome_exec {prog : Program} (hp : prog.Simple) (s : Subject) (k : Next) (p : Spot) :
    (prog.exec s k p).isSome = true ↔
      ∃ w, prog.Takes w ∧ w <+: s.toList.drop p.at_ ∧ (k { p with at_ := p.at_ + w.length }).isSome = true := by
  induction prog generalizing k p with
  | pass => simp [exec, Takes]
  | fail => simp [exec, Takes]
  | one test =>
    rw [isSome_exec_one]
    constructor
    · rintro ⟨c, ht, hw, hk⟩
      exact ⟨[c], ⟨c, rfl, ht⟩, hw, hk⟩
    · rintro ⟨w, ⟨c, rfl, ht⟩, hw, hk⟩
      exact ⟨c, ht, hw, hk⟩
  | seq a b iha ihb =>
    rw [exec, iha hp.1]
    constructor
    · rintro ⟨u, hu, hpre, hb⟩
      obtain ⟨v, hv, hpre', hk⟩ := (ihb hp.2 _ _).mp hb
      rw [← List.drop_drop] at hpre'
      refine ⟨u ++ v, ⟨u, v, rfl, hu, hv⟩, append_prefix_iff.mpr ⟨hpre, hpre'⟩, ?_⟩
      rwa [List.length_append, ← Nat.add_assoc]
    · rintro ⟨w, ⟨u, v, rfl, hu, hv⟩, hw, hk⟩
      obtain ⟨hpre, hpre'⟩ := append_prefix_iff.mp hw
      rw [List.drop_drop] at hpre'
      rw [List.length_append, ← Nat.add_assoc] at hk
      exact ⟨u, hu, hpre, (ihb hp.2 _ _).mpr ⟨v, hv, hpre', hk⟩⟩
  | alt a b iha ihb =>
    rw [exec_alt, Option.isSome_or, Bool.or_eq_true, iha hp.1, ihb hp.2]
    simp only [Takes, or_and_right, exists_or]
  | run mode least most test => exact isSome_runChars hp
  | place | loop | capture | atomic | ahead | behind | again | ifMatched => exact hp.elim

theorem isSome_findFrom {prog : Program} {s : Subject} {groups i room : Nat} :
    (prog.findFrom s groups i room).isSome = true ↔
      ∃ j, i ≤ j ∧ j < i + room ∧ (prog.exec s some ⟨j, Array.replicate (2 * groups) none⟩).isSome = true := by
  induction room generalizing i with
  | zero =>
    refine iff_of_false (by simp [findFrom]) ?_
    rintro ⟨j, hl, hu, -⟩
    omega
  | succ room ih =>
    have hor : prog.findFrom s groups i (room + 1) =
        (prog.exec s some ⟨i, Array.replicate (2 * groups) none⟩).or (prog.findFrom s groups (i + 1) room) := by
      rw [findFrom]
      cases prog.exec s some ⟨i, Array.replicate (2 * groups) none⟩ <;> rfl
    rw [hor, Option.isSome_or, Bool.or_eq_true, ih]
    constructor
    · rintro (h | ⟨j, hl, hu, h⟩)
      · exact ⟨i, Nat.le_refl _, by omega, h⟩
      · exact ⟨j, by omega, by omega, h⟩
    · rintro ⟨j, hl, hu, h⟩
      by_cases hj : j = i
      · exact .inl (hj ▸ h)
      · exact .inr ⟨j, by omega, by omega, h⟩

theorem isSome_find? {prog : Program} (hp : prog.Simple) {s : Subject} {groups : Nat} :
    (prog.find? groups s).isSome = true ↔ ∃ w, prog.Takes w ∧ w <:+: s.toList := by
  simp only [find?, isSome_findFrom, isSome_exec hp, infix_iff_prefix_drop, Array.length_toList, Option.isSome_some,
    and_true]
  constructor
  · rintro ⟨i, -, hi, w, hw, hpre⟩
    exact ⟨w, hw, i, by omega, hpre⟩
  · rintro ⟨w, hw, i, hi, hpre⟩
    exact ⟨i, Nat.zero_le _, by omega, w, hw, hpre⟩

def Reads (prog : Program) (cs : List Char) : Prop := prog.Takes (cs.map Char.toNat)

end Program

theorem occursIn_iff {p : Pattern} (hp : p.program.Simple) {text : String} :
    p.occursIn text = true ↔ ∃ cs, p.program.Reads cs ∧ cs <:+: text.toList := by
  rw [occursIn, Program.isSome_find? hp]
  constructor
  · rintro ⟨w, hw, hin⟩
    obtain ⟨cs, hcs, rfl⟩ := List.infix_map_iff.mp hin
    exact ⟨cs, hw, hcs⟩
  · rintro ⟨cs, hw, hin⟩
    exact ⟨_, hw, hin.map _⟩

end Pattern

end Winnow
