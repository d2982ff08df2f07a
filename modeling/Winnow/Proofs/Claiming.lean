import Winnow.Proofs.ModuleStep

/-!
Which file a type of a module gets. A file belongs to the type that was the first to be written to it, where
names that differ only in case count as one; a type that fails or is passed over holds nothing.
-/
set_option autoImplicit false

namespace Winnow

namespace Progress

theorem holds_iff (p : Progress) (path : Path) : p.holds path = true ↔ claimKey path ∈ p.claimed := by
  simp [holds]

theorem target?_eq_some {p : Progress} {dir path : Path} {d : TypeDescriptor} {renamed : Bool}
    (h : p.target? dir d = some (path, renamed)) :
    claimKey path ∉ p.claimed ∧
      (claimKey (p.work.outputs.pathFor dir d.name) ∉ p.claimed → path = p.work.outputs.pathFor dir d.name) ∧
      (claimKey (p.work.outputs.pathFor dir d.name) ∈ p.claimed →
        path = p.work.outputs.pathFor dir d.fullName ∧ d.fullName ≠ "" ∧
          TypeName.fileStem d.fullName ≠ TypeName.fileStem d.name) := by
  unfold target? at h
  simp only [Bool.not_eq_true', ← Bool.not_eq_true, holds_iff] at h
  split at h
  · next hk =>
    simp only [Option.some.injEq, Prod.mk.injEq] at h
    obtain ⟨rfl, -⟩ := h
    exact ⟨hk, fun _ => rfl, fun hc => absurd hc hk⟩
  · next hk =>
    split at h
    · simp at h
    · next hn =>
      split at h
      · simp at h
      · next hq =>
        simp only [Option.some.injEq, Prod.mk.injEq] at h
        obtain ⟨rfl, -⟩ := h
        simp only [Bool.or_eq_true, not_or, beq_iff_eq, String.isEmpty_iff] at hn
        exact ⟨hq, fun hc => absurd hc hk, fun _ => ⟨rfl, hn⟩⟩

theorem target?_eq_none_iff {p : Progress} {dir : Path} {d : TypeDescriptor} :
    p.target? dir d = none ↔
      claimKey (p.work.outputs.pathFor dir d.name) ∈ p.claimed ∧
        (d.fullName = "" ∨ TypeName.fileStem d.fullName = TypeName.fileStem d.name ∨
          claimKey (p.work.outputs.pathFor dir d.fullName) ∈ p.claimed) := by
  simp only [target?, Bool.not_eq_true', ← Bool.not_eq_true, holds_iff]
  split
  · next hk => simp [hk]
  · next hk =>
    have hk := Classical.not_not.mp hk
    split
    · next hn =>
      simp only [Bool.or_eq_true, beq_iff_eq, String.isEmpty_iff] at hn
      rcases hn with hn | hn <;> simp [hk, hn]
    · next hn =>
      simp only [Bool.or_eq_true, not_or, beq_iff_eq, String.isEmpty_iff] at hn
      split
      · next hq => simp [hk, hq]
      · next hq => simp [hk, hq, hn]

theorem claim_files (p : Progress) (d : TypeDescriptor) (path : Path) (renamed : Bool) :
    (p.claim d path renamed).1.work.files = p.work.files := by
  cases renamed <;> rfl

theorem claim_outputs (p : Progress) (d : TypeDescriptor) (path : Path) (renamed : Bool) :
    (p.claim d path renamed).1.work.outputs = p.work.outputs := by
  cases renamed <;> rfl

theorem claim_claimed (p : Progress) (d : TypeDescriptor) (path : Path) (renamed : Bool) :
    (p.claim d path renamed).1.claimed = claimKey path :: p.claimed := by
  cases renamed <;> rfl

theorem claim_outcomes (p : Progress) (d : TypeDescriptor) (path : Path) (renamed : Bool) :
    (p.claim d path renamed).1.report.outcomes = p.report.outcomes := by
  cases renamed <;> rfl

theorem claim_written (p : Progress) (d : TypeDescriptor) (path : Path) (renamed : Bool) :
    (p.claim d path renamed).1.report.written = p.report.written := by
  cases renamed <;> rfl

section Step

variable {plan : Plan} {module dir : Path} {p q : Progress} {d : TypeDescriptor} {a : Option Path}

theorem outputs_of_step {r : Except RunError TypeResult} (h : TypeStep plan module dir p d a q r) :
    q.work.outputs = p.work.outputs := by
  cases h with
  | written => exact claim_outputs _ _ _ _
  | _ => rfl

theorem outcomes_of_step {r : Except RunError TypeResult} (h : TypeStep plan module dir p d a q r) :
    q.report.outcomes = p.report.outcomes := by
  cases h with
  | written => exact claim_outcomes _ _ _ _
  | _ => rfl

theorem written_of_step {r : Except RunError TypeResult} (h : TypeStep plan module dir p d a q r) :
    q.report.written = p.report.written := by
  cases h with
  | written => exact claim_written _ _ _ _
  | _ => rfl

theorem claimed_of_step {result : TypeResult} (h : TypeStep plan module dir p d a q (.ok result)) :
    q.claimed = (result.path?.map claimKey).toList ++ p.claimed := by
  cases h with
  | written => exact claim_claimed _ _ _ _
  | _ => rfl

theorem recorded_outcomes_of_step {result : TypeResult} (h : TypeStep plan module dir p d a q (.ok result)) :
    (q.recorded d result).report.outcomes = p.report.outcomes ++ [⟨d.name, d.fullName, result⟩] := by
  simp [recorded, outcomes_of_step h]

theorem recorded_written_of_step {result : TypeResult} (h : TypeStep plan module dir p d a q (.ok result)) :
    (q.recorded d result).report.written = p.report.written ++ result.path?.toList := by
  simp [recorded, written_of_step h]

end Step

def Heads (head text : String) : Prop := ∃ rest, text = head ++ rest

theorem Heads.refl (head : String) : Heads head head := ⟨"", by simp⟩

theorem Heads.append {head text : String} (h : Heads head text) (more : String) : Heads head (text ++ more) := by
  obtain ⟨rest, rfl⟩ := h
  exact ⟨rest ++ more, String.append_assoc⟩

theorem Heads.head? {head text : String} (h : Heads head text) (hne : head.toList ≠ []) :
    text.toList.head? = head.toList.head? := by
  obtain ⟨rest, rfl⟩ := h
  rw [String.toList_append, List.head?_append, Option.or_of_isSome (List.isSome_head?.mpr hne)]

def messageHeads : List String :=
  ["[Errno ", "data must be str, not ", "'utf-8' codec can't encode character ",
    "'utf-8' codec can't encode characters in position "]

theorem heads_of_os (errno : Errno) (path : String) (target : Option String) :
    Heads "[Errno " (FileError.os errno path target).message := by
  have hb : Heads "[Errno " (s!"[Errno {errno.number}] {errno.text}: " ++ Text.quoted path) :=
    (((((Heads.refl _).append _).append _).append _).append _).append _
  cases target with
  | none => exact hb
  | some other => exact (hb.append _).append _

theorem heads_of_unencodable (u : Text.Unencodable) : ∃ head ∈ messageHeads, Heads head u.message := by
  unfold Text.Unencodable.message
  split
  · exact ⟨_, .tail _ (.tail _ (.head _)), ((((Heads.refl _).append _).append _).append _).append _⟩
  · exact ⟨_, .tail _ (.tail _ (.tail _ (.head _))), ((((Heads.refl _).append _).append _).append _).append _⟩

theorem heads_of_reason {e : WriteError} {reason : String} (h : e.reason = .ok reason) :
    ∃ head ∈ messageHeads, Heads head reason := by
  cases e with
  | file fe =>
    cases fe with
    | os errno path target =>
      cases h
      exact ⟨_, .head _, heads_of_os errno path target⟩
    | zeroByte => cases h
    | noName path => cases h
  | notText kind =>
    cases h
    exact ⟨_, .tail _ (.head _), (Heads.refl _).append kind⟩
  | unencodable u =>
    cases h
    exact heads_of_unencodable u

theorem head?_of_messageHeads :
    ∀ head ∈ messageHeads, head.toList ≠ [] ∧ head.toList.head? ≠ takenMessage.toList.head? := by
  decide

theorem reason_ne_takenMessage {e : WriteError} {reason : String} (h : e.reason = .ok reason) :
    reason ≠ takenMessage := by
  rintro rfl
  obtain ⟨head, hm, hh⟩ := heads_of_reason h
  obtain ⟨hne, ht⟩ := head?_of_messageHeads head hm
  exact ht (hh.head? hne).symm

def heldKeys (outcomes : List TypeOutcome) : List String := (outcomes.filterMap (·.result.path?)).map claimKey

theorem heldKeys_concat (outcomes : List TypeOutcome) (out : TypeOutcome) :
    heldKeys (outcomes ++ [out]) = heldKeys outcomes ++ (out.result.path?.map claimKey).toList := by
  cases h : out.result.path? <;> simp [heldKeys, h]

/-- That a type was refused because no file name was left for it. -/
def Refused (out : TypeOutcome) : Prop :=
  ∃ f, out.result = .failed f ∧ f.kind = "write" ∧ f.error = takenMessage

/-- What becomes of a type whose names have the files `file`, if the types before it hold the keys `held`. -/
structure Settled (plan : Plan) (file : String → Path) (held : List String) (d : TypeDescriptor)
    (out : TypeOutcome) : Prop where
  name : out.name = d.name
  fullName : out.fullName = d.fullName
  written : ∀ path, out.result = .written path →
    path = if claimKey (file d.name) ∈ held then file d.fullName else file d.name
  fresh : ∀ path, out.result = .written path → claimKey path ∉ held
  refused : d.name ≠ "" → plan.classifier.match? d.name = none →
    (Refused out ↔ claimKey (file d.name) ∈ held ∧
      (d.fullName = "" ∨ TypeName.fileStem d.fullName = TypeName.fileStem d.name ∨
        claimKey (file d.fullName) ∈ held))

/-- What the claims on files have come to after some types of a module. -/
structure Ledger (plan : Plan) (file : String → Path) (dir : Path) (done : List TypeDescriptor)
    (p : Progress) : Prop where
  names : p.work.outputs.pathFor dir = file
  claimed : p.claimed = (heldKeys p.report.outcomes).reverse
  written : p.report.written = p.report.outcomes.filterMap (·.result.path?)
  distinct : (heldKeys p.report.outcomes).Nodup
  length : p.report.outcomes.length = done.length
  settled : ∀ i d out, done[i]? = some d → p.report.outcomes[i]? = some out →
    Settled plan file (heldKeys (p.report.outcomes.take i)) d out

section Ledger

variable {plan : Plan} {module dir : Path} {p q : Progress} {d : TypeDescriptor} {a : Option Path}
  {result : TypeResult}

theorem written_of_target? {held : List String} {path : Path} {renamed : Bool}
    (hk : ∀ k, k ∈ p.claimed ↔ k ∈ held) (ht : p.target? dir d = some (path, renamed)) :
    claimKey path ∉ held ∧ path =
      if claimKey (p.work.outputs.pathFor dir d.name) ∈ held then p.work.outputs.pathFor dir d.fullName
      else p.work.outputs.pathFor dir d.name := by
  obtain ⟨hf, ho, hq⟩ := target?_eq_some ht
  refine ⟨fun h => hf ((hk _).mpr h), ?_⟩
  split
  · next h => exact (hq ((hk _).mpr h)).1
  · next h => exact ho fun hc => h ((hk _).mp hc)

theorem refused_iff_of_step (h : TypeStep plan module dir p d a q (.ok result)) (hn : d.name ≠ "")
    (hm : plan.classifier.match? d.name = none) :
    Refused ⟨d.name, d.fullName, result⟩ ↔ p.target? dir d = none := by
  cases h with
  | nameless hn' => exact absurd hn' hn
  | generated rule hn' hm' =>
    rw [hm] at hm'
    cases hm'
  | taken hn' hm' ht => simp [Refused, ht]
  | undecompiled path renamed reason hn' hm' ht ha =>
    simp only [ht, reduceCtorEq, iff_false]
    rintro ⟨f, hf, hk, -⟩
    cases hf
    simp at hk
  | unwritten path renamed value files e reason hn' hm' ht ha hw he =>
    simp only [ht, reduceCtorEq, iff_false]
    rintro ⟨f, hf, -, hr⟩
    cases hf
    exact reason_ne_takenMessage he hr
  | written path renamed value files hn' hm' ht ha hw =>
    simp only [ht, reduceCtorEq, iff_false]
    rintro ⟨f, hf, -⟩
    cases hf

theorem settled_of_step {held : List String} (hk : ∀ k, k ∈ p.claimed ↔ k ∈ held)
    (h : TypeStep plan module dir p d a q (.ok result)) :
    Settled plan (p.work.outputs.pathFor dir) held d ⟨d.name, d.fullName, result⟩ := by
  have ht : ∀ path, result = .written path → ∃ renamed, p.target? dir d = some (path, renamed) := by
    intro path hr
    cases h with
    | written path' renamed value files hn hm ht ha hw =>
      cases hr
      exact ⟨renamed, ht⟩
    | _ => cases hr
  refine ⟨rfl, rfl, fun path hr => ?_, fun path hr => ?_, fun hn hm => ?_⟩
  · obtain ⟨renamed, ht⟩ := ht path hr
    exact (written_of_target? hk ht).2
  · obtain ⟨renamed, ht⟩ := ht path hr
    exact (written_of_target? hk ht).1
  · rw [refused_iff_of_step h hn hm, target?_eq_none_iff, hk, hk]

theorem Ledger.begin (plan : Plan) (dir : Path) (l : Listing) (m : ModuleFile) :
    Ledger plan (l.work.outputs.pathFor dir) dir [] (l.begin m) := by
  refine ⟨rfl, rfl, rfl, List.nodup_nil, rfl, ?_⟩
  intro i d out hd
  simp at hd

theorem Ledger.step {file : String → Path} {done : List TypeDescriptor} (hl : Ledger plan file dir done p)
    (h : TypeStep plan module dir p d a q (.ok result)) :
    Ledger plan file dir (done ++ [d]) (q.recorded d result) := by
  have hout := recorded_outcomes_of_step h
  have hk : ∀ k, k ∈ p.claimed ↔ k ∈ heldKeys p.report.outcomes := by simp [hl.claimed]
  have hs := settled_of_step hk h
  rw [hl.names] at hs
  refine ⟨(congrArg (·.pathFor dir) (outputs_of_step h)).trans hl.names, ?_, ?_, ?_, ?_, ?_⟩
  · rw [hout, heldKeys_concat]
    cases hp : result.path? <;> simp [recorded, claimed_of_step h, hl.claimed, hp]
  · rw [hout, recorded_written_of_step h]
    cases hp : result.path? <;> simp [hl.written, hp]
  · rw [hout, heldKeys_concat]
    cases result with
    | written path =>
      have hf := hs.fresh path rfl
      simp only [TypeResult.path?, Option.map_some, Option.toList_some]
      refine List.nodup_append.mpr ⟨hl.distinct, by simp, fun k hk b hb => ?_⟩
      obtain rfl := List.mem_singleton.mp hb
      rintro rfl
      exact hf hk
    | _ => simpa [TypeResult.path?] using hl.distinct
  · simp [hout, hl.length]
  · intro i d' out hd ho
    rw [hout] at ho ⊢
    rcases Nat.lt_trichotomy i done.length with hi | rfl | hi
    · rw [List.getElem?_append_left hi] at hd
      rw [List.getElem?_append_left (hl.length ▸ hi)] at ho
      rw [List.take_append_of_le_length (by have := hl.length; omega)]
      exact hl.settled i d' out hd ho
    · rw [← hl.length, List.getElem?_concat_length] at ho
      rw [List.getElem?_concat_length] at hd
      cases hd
      cases ho
      rw [← hl.length, List.take_left]
      exact hs
    · rw [List.getElem?_eq_none (by simp; omega)] at hd
      cases hd

theorem ledger_of_process {m : ModuleFile} {l : Listing} (h : l.process plan m = (p, .ok ())) :
    Ledger plan (l.work.outputs.pathFor l.dir) l.dir l.types p := by
  exact Listing.process_induction
    (I := fun done _ p => Ledger plan (l.work.outputs.pathFor l.dir) l.dir done p)
    (fun done tried p d a q result hl hs => hl.step hs) h (Ledger.begin plan l.dir l m)

end Ledger

end Progress

open Progress in
/-- The claims of a completed module: no two of its files have one key, and each type got the file of its name
or of its full name, or none, as the types written before it left them free. -/
theorem completed_claims {plan : Plan} {m : ModuleFile} {w : Work} {o : ModuleOutcome}
    (h : (w.processModule plan m).2 = .ok o) (ho : o.status = .completed) :
    ∃ l report, w.listing? plan m = some l ∧ o.report = some report ∧
      (report.written.map claimKey).Nodup ∧
      report.written = report.outcomes.filterMap (·.result.path?) ∧
      report.outcomes.length = l.types.length ∧
      ∀ i d out, l.types[i]? = some d → report.outcomes[i]? = some out →
        Settled plan (w.outputs.pathFor l.dir) (heldKeys (report.outcomes.take i)) d out := by
  obtain ⟨l, p, v, hl, hp, -, -, hr⟩ := Work.completed_of_processModule h ho
  have hg := ledger_of_process hp
  have hf : l.work.outputs.pathFor = w.outputs.pathFor := by
    rw [(Work.prepared_of_listing? hl).2.2]
    obtain ⟨made, hm⟩ := w.outputs.ensureModuleDir_fst m.baseName w.files
    exact congrArg (·.pathFor) hm
  rw [hf] at hg
  refine ⟨l, p.report, hl, hr, ?_, hg.written, hg.length, hg.settled⟩
  rw [hg.written]
  exact hg.distinct

def caseTwins : List TypeDescriptor := [⟨"Foo", "Game.Foo", "1"⟩, ⟨"foo", "Game.Bar", "2"⟩]

def caseTwinsOutcome : ModuleOutcome where
  module := ⟨⟨1, ["src", "Rust.dll"]⟩⟩
  status := .completed
  report := some {
    module := "Rust"
    processed := 2
    written := [⟨1, ["out", "Rust", "Foo.cstxt"]⟩, ⟨1, ["out", "Rust", "Game.Bar.cstxt"]⟩]
    renamed := ["Game.Bar"]
    outcomes := [⟨"Foo", "Game.Foo", .written ⟨1, ["out", "Rust", "Foo.cstxt"]⟩⟩,
      ⟨"foo", "Game.Bar", .written ⟨1, ["out", "Rust", "Game.Bar.cstxt"]⟩⟩] }

theorem completed_claims_caseTwins :
    (Work.bare.processModule (Plan.steady caseTwins) caseTwinsOutcome.module).2 = .ok caseTwinsOutcome ∧
      ∃ report, caseTwinsOutcome.report = some report ∧ (report.written.map claimKey).Nodup := by
  have h : (Work.bare.processModule (Plan.steady caseTwins) caseTwinsOutcome.module).2 = .ok caseTwinsOutcome := by
    decide +kernel
  obtain ⟨l, report, -, hr, hd, -⟩ := completed_claims h rfl
  exact ⟨h, report, hr, hd⟩

end Winnow
