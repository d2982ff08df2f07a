import Winnow.NamePattern

/-!
What patterns for names accept. A text whose characters all stand for themselves, put behind an asterisk, accepts the
names that end in it. With any other text the pattern refuses one of these names, or it accepts another name.
-/
set_option autoImplicit false

namespace Winnow.NamePattern

variable {parts : List Part} {cs ds : List Char}

theorem accepts_nil : accepts [] ds = true ↔ ds = [] := by simp [accepts]

theorem accepts_cons {part : Part} (h : part ≠ .star) :
    accepts (part :: parts) ds = true ↔ ∃ d rest, ds = d :: rest ∧ part.accepts d = true ∧ accepts parts rest = true := by
  cases ds with
  | nil => cases part <;> simp [accepts] at h ⊢
  | cons d rest =>
    have he : accepts (part :: parts) (d :: rest) = (part.accepts d && accepts parts rest) := by
      cases part with
      | star => exact absurd rfl h
      | any => simp [accepts]
      | oneOf negated ranges => simp [accepts]
    rw [he, Bool.and_eq_true]
    constructor
    · exact fun h => ⟨d, rest, rfl, h⟩
    · rintro ⟨d', rest', heq, h⟩
      obtain ⟨rfl, rfl⟩ := List.cons.inj heq
      exact h

theorem accepts_star : accepts (.star :: parts) ds = true ↔ ∃ rest, rest <:+ ds ∧ accepts parts rest = true := by
  induction ds with
  | nil => simp [accepts]
  | cons d ds ih =>
    simp only [accepts, Bool.or_eq_true, ih, List.suffix_cons_iff]
    constructor
    · rintro (h | ⟨rest, hs, ha⟩)
      · exact ⟨d :: ds, .inl rfl, h⟩
      · exact ⟨rest, .inr hs, ha⟩
    · rintro ⟨rest, rfl | hs, ha⟩
      · exact .inl ha
      · exact .inr ⟨rest, hs, ha⟩

theorem accepts_star_append (h : accepts parts ds = true) (cs : List Char) :
    accepts (.star :: parts) (cs ++ ds) = true := accepts_star.mpr ⟨ds, List.suffix_append cs ds, h⟩

theorem any_ne_star : Part.any ≠ .star := nofun

theorem char_ne_star (c : Char) : Part.char c ≠ .star := nofun

theorem accepts_char (c d : Char) : (Part.char c).accepts d = true ↔ d = c := by
  simp only [Part.char, Part.accepts, CharRange.contains, CharRange.single, List.any_cons, List.any_nil, Bool.or_false,
    bne_iff_ne, ne_eq, Bool.not_eq_false, Bool.and_eq_true, decide_eq_true_eq]
  exact ⟨fun h => Char.le_antisymm h.2 h.1, fun h => h ▸ ⟨Char.le_refl _, Char.le_refl _⟩⟩

theorem accepts_chars : accepts (cs.map .char) ds = true ↔ ds = cs := by
  induction cs generalizing ds with
  | nil => exact accepts_nil
  | cons c cs ih =>
    rw [List.map_cons, accepts_cons (char_ne_star c)]
    constructor
    · rintro ⟨d, rest, rfl, hd, hrest⟩
      rw [(accepts_char c d).mp hd, ih.mp hrest]
    · rintro rfl
      exact ⟨c, cs, rfl, (accepts_char c c).mpr rfl, ih.mpr rfl⟩

theorem length_of_bracketed? {body rest : List Char} (h : bracketed? cs = some (body, rest)) :
    rest.length < cs.length := by
  unfold bracketed? at h
  simp only at h
  split at h
  · next tail hd =>
    simp only [Option.some.injEq, Prod.mk.injEq] at h
    obtain ⟨-, rfl⟩ := h
    have hl := congrArg List.length hd
    rw [List.length_drop, List.length_cons] at hl
    omega
  · cases h

theorem set_ne_star (body : List Char) : set body ≠ .star := by
  unfold set
  split
  · nofun
  · simp only
    split <;> nofun

/-- Everything that can become of the first character of a text. -/
inductive PartsStep (fuel : Nat) (rest : List Char) : Char → List Part → Prop
  | star : PartsStep fuel rest '*' (.star :: partsOf fuel rest)
  | merged (parts : List Part) (h : partsOf fuel rest = .star :: parts) : PartsStep fuel rest '*' (.star :: parts)
  | any : PartsStep fuel rest '?' (.any :: partsOf fuel rest)
  | set (body tail : List Char) (h : bracketed? rest = some (body, tail)) :
      PartsStep fuel rest '[' (set body :: partsOf fuel tail)
  | char (c : Char) (hstar : c ≠ '*') : PartsStep fuel rest c (.char c :: partsOf fuel rest)

theorem parts_step (fuel : Nat) (c : Char) (rest : List Char) :
    PartsStep fuel rest c (partsOf (fuel + 1) (c :: rest)) := by
  generalize hp : partsOf (fuel + 1) (c :: rest) = parts
  rw [partsOf.eq_def] at hp
  split at hp
  · next heq => cases heq
  · next hcs _ => cases hcs
  · next heq hcs =>
    cases heq
    cases hcs
    split at hp
    · next h => exact hp ▸ .merged _ h
    · exact hp ▸ .star
  · next heq hcs =>
    cases heq
    cases hcs
    exact hp ▸ .any
  · next heq hcs =>
    cases heq
    cases hcs
    split at hp
    · next body tail h => exact hp ▸ .set body tail h
    · exact hp ▸ .char '[' (by decide)
  · next hstar _ _ heq hcs =>
    cases heq
    cases hcs
    exact hp ▸ .char c hstar

theorem accepts_star_cons {fuel : Nat} {rest : List Char} : accepts (partsOf (fuel + 1) ('*' :: rest)) ds = true ↔
    ∃ es, es <:+ ds ∧ accepts (partsOf fuel rest) es = true := by
  have hs := parts_step fuel '*' rest
  generalize partsOf (fuel + 1) ('*' :: rest) = parts at hs ⊢
  cases hs with
  | star => exact accepts_star
  | merged parts h =>
    rw [h]
    constructor
    · exact fun ha => ⟨ds, List.suffix_refl _, ha⟩
    · rintro ⟨es, hs, ha⟩
      obtain ⟨tail, ht, hb⟩ := accepts_star.mp ha
      exact accepts_star.mpr ⟨tail, ht.trans hs, hb⟩
  | char c hstar => exact absurd rfl hstar

theorem length_partsOf_le (fuel : Nat) (cs : List Char) : (partsOf fuel cs).length ≤ cs.length := by
  induction fuel generalizing cs with
  | zero => simp [partsOf]
  | succ fuel ih =>
    cases cs with
    | nil => simp [partsOf]
    | cons c rest =>
      have hrest := ih rest
      have hs := parts_step fuel c rest
      generalize partsOf (fuel + 1) (c :: rest) = parts at hs ⊢
      cases hs with
      | star => simpa using hrest
      | merged parts h =>
        rw [h] at hrest
        exact Nat.le_succ_of_le hrest
      | any => simpa using hrest
      | set body tail h =>
        have hl := length_of_bracketed? h
        have := ih tail
        simp only [List.length_cons]
        omega
      | char c hstar => simpa using hrest

theorem star_not_mem_of_partsOf {fuel : Nat} (h : partsOf fuel cs = cs.map .char) : '*' ∉ cs := by
  induction fuel generalizing cs with
  | zero =>
    have hnil : cs = [] := List.map_eq_nil_iff.mp h.symm
    simp [hnil]
  | succ fuel ih =>
    cases cs with
    | nil => simp
    | cons c rest =>
      have hs := parts_step fuel c rest
      generalize hp : partsOf (fuel + 1) (c :: rest) = parts at hs
      rw [hp, List.map_cons] at h
      cases hs with
      | star => exact absurd (List.cons.inj h).1.symm (char_ne_star _)
      | merged parts _ => exact absurd (List.cons.inj h).1.symm (char_ne_star _)
      | any => exact absurd (List.cons.inj h).1 nofun
      | set body tail hb =>
        have hlen := congrArg List.length (List.cons.inj h).2
        have hle := length_partsOf_le fuel tail
        have hlt := length_of_bracketed? hb
        rw [List.length_map] at hlen
        omega
      | char c hstar =>
        exact List.not_mem_cons_of_ne_of_not_mem (Ne.symm hstar) (ih (List.cons.inj h).2)

/-- Among what the parts of a text accept is something no longer than the text, and if not all characters stand for
themselves, something that is not the text. -/
theorem exists_accepted {fuel : Nat} (h : accepts (partsOf fuel cs) ds = true) :
    ∃ es, accepts (partsOf fuel cs) es = true ∧ es.length ≤ cs.length ∧
      (cs.length ≤ fuel → partsOf fuel cs ≠ cs.map .char → es ≠ cs) := by
  induction fuel generalizing cs ds with
  | zero => exact ⟨[], by simp [partsOf, accepts], Nat.zero_le _, fun hf hne => by simp_all [partsOf]⟩
  | succ fuel ih =>
    cases cs with
    | nil => exact ⟨[], by simp [partsOf, accepts], Nat.zero_le _, fun _ hne => absurd rfl hne⟩
    | cons c rest =>
      have hs := parts_step fuel c rest
      generalize partsOf (fuel + 1) (c :: rest) = parts at hs h ⊢
      have hshort : ∀ {es : List Char}, es.length ≤ rest.length → es ≠ c :: rest := by
        rintro es hl rfl
        simp only [List.length_cons] at hl
        omega
      cases hs with
      | star =>
        obtain ⟨ds', -, hds⟩ := accepts_star.mp h
        obtain ⟨es, hes, hl, -⟩ := ih hds
        exact ⟨es, accepts_star_append hes [], Nat.le_succ_of_le hl, fun _ _ => hshort hl⟩
      | merged parts hp =>
        rw [← hp] at h ⊢
        obtain ⟨es, hes, hl, -⟩ := ih h
        exact ⟨es, hes, Nat.le_succ_of_le hl, fun _ _ => hshort hl⟩
      | any =>
        obtain ⟨d, ds', -, -, hds⟩ := (accepts_cons any_ne_star).mp h
        obtain ⟨es, hes, hl, -⟩ := ih hds
        exact ⟨'a' :: es, (accepts_cons any_ne_star).mpr ⟨'a', es, rfl, rfl, hes⟩, Nat.succ_le_succ hl,
          fun _ _ he => absurd (List.cons.inj he).1 (by decide)⟩
      | set body tail hb =>
        obtain ⟨d, ds', -, hd, hds⟩ := (accepts_cons (set_ne_star body)).mp h
        obtain ⟨es, hes, hl, -⟩ := ih hds
        have hlt := length_of_bracketed? hb
        have hle : (d :: es).length ≤ rest.length := by
          simp only [List.length_cons]
          omega
        exact ⟨d :: es, (accepts_cons (set_ne_star body)).mpr ⟨d, es, rfl, hd, hes⟩, Nat.le_succ_of_le hle,
          fun _ _ => hshort hle⟩
      | char c hstar =>
        obtain ⟨d, ds', -, hd, hds⟩ := (accepts_cons (char_ne_star c)).mp h
        obtain ⟨es, hes, hl, hne⟩ := ih hds
        refine ⟨d :: es, (accepts_cons (char_ne_star c)).mpr ⟨d, es, rfl, hd, hes⟩, Nat.succ_le_succ hl,
          fun hf hp he => ?_⟩
        refine hne (Nat.le_of_succ_le_succ hf) (fun hrest => hp ?_) (List.cons.inj he).2
        rw [hrest, List.map_cons]

section Ending

variable {text name : String}

/-- That every character of a text stands for itself in a pattern. -/
def Plain (text : String) : Prop := ofString text = text.toList.map .char

instance (text : String) : Decidable (Plain text) := inferInstanceAs (Decidable (_ = _))

theorem star_not_mem_of_plain (h : Plain text) : '*' ∉ text.toList := star_not_mem_of_partsOf h

theorem accept_star_iff : accept ("*" ++ text) name = true ↔
    ∃ rest, rest <:+ name.toList ∧ accepts (ofString text) rest = true := by
  have hp : ofString ("*" ++ text) = partsOf (text.length + 1) ('*' :: text.toList) := by
    rw [ofString, String.toList_append, String.length_append, Nat.add_comm]
    rfl
  rw [accept, hp]
  exact accepts_star_cons

theorem accept_star_of_plain (h : Plain text) :
    accept ("*" ++ text) name = true ↔ text.toList <:+ name.toList := by
  rw [accept_star_iff]
  simp only [show ofString text = _ from h, accepts_chars, exists_eq_right]

theorem plain_of_accept_star (hdot : text.toList.head? = some '.')
    (h : ∀ name, name ≠ ".." → (accept ("*" ++ text) name = true ↔ text.toList <:+ name.toList)) : Plain text := by
  have ha : ∀ cs, String.ofList ('a' :: cs) ≠ ".." := by
    intro cs he
    have := congrArg String.toList he
    simp at this
  have hown : text.toList <:+ (String.ofList ('a' :: text.toList)).toList := by simp
  obtain ⟨ds, -, hds⟩ := accept_star_iff.mp ((h _ (ha text.toList)).mpr hown)
  obtain ⟨es, hes, hl, hne⟩ := exists_accepted hds
  refine Decidable.byContradiction fun hp => hne (Nat.le_of_eq String.length_toList) hp ?_
  have hends := (h _ (ha es)).mp (accept_star_iff.mpr ⟨es, by simp, hes⟩)
  rw [String.toList_ofList, List.suffix_cons_iff] at hends
  rcases hends with he | hs
  · rw [he] at hdot
    cases hdot
  · exact (hs.eq_of_length (Nat.le_antisymm hs.length_le hl)).symm

end Ending

end Winnow.NamePattern
