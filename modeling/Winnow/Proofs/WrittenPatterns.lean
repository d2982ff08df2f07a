import Winnow.Rule

/-!
How the patterns of the built-in rules are written. Reading the texts gives patterns that are found in the same names.
-/
set_option autoImplicit false

namespace Winnow
open Pattern Text

theorem Pattern.occursIn_congr {p q : Pattern} (hg : p.groups = q.groups)
    (h : ∀ s k, p.program.exec s k = q.program.exec s k) (name : String) : p.occursIn name = q.occursIn name := by
  have hfind : ∀ s i room, p.program.findFrom s p.groups i room = q.program.findFrom s q.groups i room := by
    intro s i room
    induction room generalizing i with
    | zero => rfl
    | succ room ih => simp only [Program.findFrom, h, ih, ← hg]
  simp only [occursIn, Program.find?, hfind]

namespace Pattern

theorem eq_of_sameLeaf {a b : Node} (h : a.sameLeaf b = true) : a = b := by
  unfold Node.sameLeaf at h
  split at h <;> simp_all

/-- Whether two sequences of leaves, and of repetitions of one leaf, are the same. -/
def sameNodes : List Node → List Node → Bool
  | [], [] => true
  | .repeat_ mode min max [a] :: rest, .repeat_ mode' min' max' [b] :: others =>
    mode == mode' && min == min' && max == max' && a.sameLeaf b && sameNodes rest others
  | a :: rest, b :: others => a.sameLeaf b && sameNodes rest others
  | _, _ => false

theorem eq_of_sameNodes {as bs : List Node} (h : sameNodes as bs = true) : as = bs := by
  fun_induction sameNodes as bs with
  | case1 => rfl
  | case2 mode min max a rest mode' min' max' b others ih =>
    simp only [Bool.and_eq_true, beq_iff_eq] at h
    obtain ⟨⟨⟨⟨rfl, rfl⟩, rfl⟩, hab⟩, hrest⟩ := h
    rw [eq_of_sameLeaf hab, ih hrest]
  | case3 a rest b others _ ih =>
    obtain ⟨hab, hrest⟩ := Bool.and_eq_true_iff.mp h
    rw [eq_of_sameLeaf hab, ih hrest]
  | case4 => cases h

def readsAs (source : String) (nodes : List Node) : Bool :=
  match readTree (CodeText.ofString source) with
  | .ok (found, [none], []) => sameNodes found nodes
  | _ => false

theorem readTree_of_readsAs {source : String} {nodes : List Node} (h : readsAs source nodes = true) :
    readTree (CodeText.ofString source) = .ok (nodes, [none], []) := by
  unfold readsAs at h
  split at h
  · next heq => rw [heq, eq_of_sameNodes h]
  · cases h

end Pattern

namespace Rule

section Sources

variable {rest : List Node} {run : Subject → Next → Next}

/-- That nodes write a program that runs so. -/
def Writes (nodes : List Node) (run : Subject → Next → Next) : Prop :=
  ∃ prog, programs [none] {} nodes = .ok prog ∧ ∀ s k, prog.exec s k = run s k

theorem writes_nil : Writes [] fun _ k => k := ⟨.pass, rfl, fun _ _ => rfl⟩

theorem Writes.cons {node : Node} {a : Program} (h : Writes rest run) (hn : node.program [none] {} = .ok a) :
    Writes (node :: rest) fun s k => a.exec s (run s k) := by
  obtain ⟨prog, hp, hr⟩ := h
  cases rest with
  | nil =>
    cases hp
    refine ⟨a, hn, fun s k => ?_⟩
    simp only [← hr]
    rfl
  | cons next rest =>
    refine ⟨.seq a prog, ?_, fun s k => ?_⟩
    · simp only [programs, hn, hp, bind, Except.bind, pure, Except.pure]
    · simp only [← hr]
      rfl

def chars (part : List Char) : List Node := part.map fun c => .char c.toNat

theorem Writes.chars (h : Writes rest run) (part : List Char) :
    Writes (chars part ++ rest) fun s k => (text part).exec s (run s k) := by
  induction part with
  | nil => exact h
  | cons c part ih =>
    have hc := ih.cons (show (Node.char c.toNat).program [none] {} = .ok (.one (· == c.toNat)) from rfl)
    cases part <;> exact hc

def line : Node := .repeat_ .greedy 0 none [.any]

def digits : Node := .repeat_ .greedy 1 none [.set false [.class_ .digit false]]

def hexDigits (n : Nat) : Node :=
  .repeat_ .greedy n (some n) [.set false [.range 0x30 0x39, .range 0x61 0x66, .range 0x41 0x46]]

theorem program_line : line.program [none] {} = .ok (.run .greedy 0 none (· != '\n'.toNat)) := rfl

theorem program_digits : digits.program [none] {} = .ok number := by
  have ht : Mode.inSet {} false [.class_ .digit false] = isDecimal := by
    funext c
    simp [Mode.inSet, SetItem.accepts, CharClass.accepts]
  rw [number, ← ht]
  rfl

theorem program_hexDigits (n : Nat) : (hexDigits n).program [none] {} = .ok (.run .greedy n (some n) isHexDigit) := by
  have ht : Mode.inSet {} false [.range 0x30 0x39, .range 0x61 0x66, .range 0x41 0x46] = isHexDigit := by
    funext c
    simp [Mode.inSet, SetItem.accepts, isHexDigit, Bool.or_assoc]
  rw [← ht]
  rfl

theorem read_of_writes {source : String} {nodes : List Node} {p : Pattern} (hg : p.groups = 0)
    (ht : readsAs source nodes = true) (hw : Writes nodes fun s k => p.program.exec s k) :
    ∃ q, Pattern.read (CodeText.ofString source) = .ok q ∧ ∀ name, q.occursIn name = p.occursIn name := by
  obtain ⟨prog, hp, hr⟩ := hw
  have hread : Pattern.read (CodeText.ofString source) = .ok ⟨prog, 0⟩ := by
    rw [Pattern.read, readTree_of_readsAs ht]
    simp only [bind, Except.bind, show Mode.ofFlags [] = {} from rfl, hp]
    rfl
  exact ⟨_, hread, occursIn_congr hg.symm hr⟩

def sources : List (Rule × String) :=
  [(embeddedGuid, "<[0-9a-fA-F]\x7b8\x7d-[0-9a-fA-F]\x7b4\x7d-[0-9a-fA-F]\x7b4\x7d-[0-9a-fA-F]\x7b4\x7d-[0-9a-fA-F]\x7b12\x7d>"),
    (stateMachine, "<.*>d__\\d+"),
    (fixedBuffer, "<.*>e__FixedBuffer"),
    (anonStorey, "<.*>c__AnonStorey\\d+"),
    (legacyIterator, "<.*>c__Iterator\\d+")]

theorem writes_bracketed {tail : Program} (h : Writes rest fun s k => tail.exec s k) :
    Writes (chars ['<'] ++ line :: rest) fun s k => (bracketed tail).program.exec s k :=
  (h.cons program_line).chars ['<']

theorem writes_numbered (part : String) :
    Writes (chars part.toList ++ [digits]) fun s k => (Program.seq (text part.toList) number).exec s k :=
  (writes_nil.cons program_digits).chars part.toList

theorem writes_groups (n : Nat) (sizes : List Nat) {nodes : List Node}
    (h : Writes nodes fun s k => (hexGroups sizes).exec s (run s k)) (hne : sizes ≠ []) :
    Writes (hexDigits n :: (chars ['-'] ++ nodes)) fun s k => (hexGroups (n :: sizes)).exec s (run s k) := by
  cases sizes with
  | nil => exact absurd rfl hne
  | cons m sizes => exact (h.chars ['-']).cons (program_hexDigits n)

theorem writes_guid : Writes (chars ['<'] ++ hexDigits 8 :: (chars ['-'] ++ hexDigits 4 :: (chars ['-'] ++ hexDigits 4 ::
    (chars ['-'] ++ hexDigits 4 :: (chars ['-'] ++ hexDigits 12 :: (chars ['>'] ++ []))))))
    fun s k => (text ['<']).exec s ((hexGroups [8, 4, 4, 4, 12]).exec s ((text ['>']).exec s k)) := by
  have hlast := (writes_nil.chars ['>']).cons (program_hexDigits 12)
  refine Writes.chars ?_ ['<']
  refine writes_groups 8 [4, 4, 4, 12] ?_ nofun
  refine writes_groups 4 [4, 4, 12] ?_ nofun
  refine writes_groups 4 [4, 12] ?_ nofun
  exact writes_groups 4 [12] hlast nofun

theorem read_sources : ∀ e ∈ sources,
    ∃ p, Pattern.read (CodeText.ofString e.2) = .ok p ∧ ∀ name, p.occursIn name = e.1.accepts name := by
  intro e he
  simp only [sources, List.mem_cons, List.not_mem_nil, or_false] at he
  rcases he with rfl | rfl | rfl | rfl | rfl
  · exact read_of_writes rfl (by decide +kernel) writes_guid
  · exact read_of_writes rfl (by decide +kernel) (writes_bracketed (writes_numbered ">d__"))
  · exact read_of_writes rfl (by decide +kernel) (writes_bracketed (writes_nil.chars ">e__FixedBuffer".toList))
  · exact read_of_writes rfl (by decide +kernel) (writes_bracketed (writes_numbered ">c__AnonStorey"))
  · exact read_of_writes rfl (by decide +kernel) (writes_bracketed (writes_numbered ">c__Iterator"))

end Sources

end Rule

end Winnow
