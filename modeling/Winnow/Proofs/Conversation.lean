import Winnow.Proofs.Completion

/-!
What a run asks of its decompiler, and in which order. Every module that is worth it and has a directory is
opened. One that could be opened has its types listed and some of them decompiled, in their order, and is closed
before anything else is asked.
-/
set_option autoImplicit false

namespace Winnow

/-- A call to a decompiler, and whether the answer was what the call asked for. -/
structure Exchange where
  call : Call
  answered : Bool
  deriving DecidableEq, Repr

namespace Exchange

def change (x : Exchange) : Int :=
  match x.call, x.answered with
  | .openModule .., true => 1
  | .close _, _ => -1
  | _, _ => 0

def opened : List Exchange → Int
  | [] => 0
  | x :: xs => x.change + opened xs

@[simp] theorem opened_nil : opened [] = 0 := rfl

@[simp] theorem opened_cons (x : Exchange) (xs : List Exchange) : opened (x :: xs) = x.change + opened xs := rfl

@[simp] theorem opened_append (xs ys : List Exchange) : opened (xs ++ ys) = opened xs + opened ys := by
  induction xs with
  | nil => simp
  | cons x xs ih => rw [List.cons_append, opened_cons, opened_cons, ih, Int.add_assoc]

/-- That every module that is opened is closed, before another one is opened. -/
structure Balanced (xs : List Exchange) : Prop where
  closed : opened xs = 0
  single : ∀ ys, ys <+: xs → opened ys = 0 ∨ opened ys = 1

theorem Balanced.nil : Balanced [] := by
  refine ⟨rfl, fun ys h => .inl ?_⟩
  rw [List.prefix_nil.mp h]
  rfl

theorem Balanced.append {xs ys : List Exchange} (hx : Balanced xs) (hy : Balanced ys) : Balanced (xs ++ ys) := by
  refine ⟨by rw [opened_append, hx.closed, hy.closed]; rfl, fun zs h => ?_⟩
  rcases List.prefix_or_prefix_of_prefix h (List.prefix_append xs ys) with hz | ⟨rest, rfl⟩
  · exact hx.single zs hz
  · rw [opened_append, hx.closed, Int.zero_add]
    exact hy.single rest ((List.prefix_append_right_inj xs).mp h)

theorem opened_eq_zero {xs : List Exchange} (h : ∀ x ∈ xs, x.change = 0) : opened xs = 0 := by
  induction xs with
  | nil => rfl
  | cons x xs ih => rw [opened_cons, h x (by simp), ih fun y hy => h y (by simp [hy]), Int.add_zero]

theorem Balanced.session {first last : Exchange} {xs : List Exchange} (hf : first.change = 1)
    (hx : ∀ x ∈ xs, x.change = 0) (hl : last.change = -1) : Balanced (first :: xs ++ [last]) := by
  refine ⟨by simp [hf, hl, opened_eq_zero hx], fun ys h => ?_⟩
  rcases List.prefix_concat_iff.mp h with rfl | h
  · exact .inl (by simp [hf, hl, opened_eq_zero hx])
  · rcases List.prefix_cons_iff.mp h with rfl | ⟨zs, rfl, hz⟩
    · exact .inl rfl
    · right
      rw [opened_cons, hf, opened_eq_zero fun x hm => hx x (hz.subset hm), Int.add_zero]

end Exchange

namespace Work

@[simp] theorem call_calls (w : Work) (c : Call) : (w.call c).calls.toList = w.calls.toList ++ [c] := by
  simp [call]

@[simp] theorem tellAll_calls (w : Work) (records : List Record) : (w.tellAll records).calls = w.calls := rfl

@[simp] theorem close_calls (plan : Plan) (module : Path) (w : Work) :
    (w.close plan module).calls.toList = w.calls.toList ++ [.close module] := by
  simp [close]

@[simp] theorem failModule_calls (w : Work) (m : ModuleFile) (attempt reason : String) :
    (w.failModule m attempt reason).1.calls = w.calls := rfl

@[simp] theorem prune_calls (plan : Plan) (dir : Path) (written : List Path) (w : Work) :
    (w.prune plan dir written).1.calls = w.calls := by
  unfold prune
  split <;> rfl

end Work

namespace Progress

/-- That a type comes to be decompiled: it has a name, no rule flags it, and the file of its name or that of its
full name is left for it. -/
def Wanted (plan : Plan) (dir : Path) (p : Progress) (d : TypeDescriptor) : Prop :=
  d.name ≠ "" ∧ plan.classifier.match? d.name = none ∧ p.target? dir d ≠ none

instance (plan : Plan) (dir : Path) (p : Progress) (d : TypeDescriptor) : Decidable (p.Wanted plan dir d) :=
  inferInstanceAs (Decidable (_ ∧ _ ∧ _))

def turns (plan : Plan) (module dir : Path) : List TypeDescriptor → Progress → List (TypeDescriptor × Progress)
  | [], _ => []
  | d :: rest, p =>
    (d, p) :: match processType plan module dir p d with
      | (_, .error _) => []
      | (q, .ok result) => turns plan module dir rest (q.recorded d result)

theorem isPrefix_turns (plan : Plan) (module dir : Path) (types : List TypeDescriptor) (p : Progress) :
    (turns plan module dir types p).map (·.1) <+: types := by
  induction types generalizing p with
  | nil => exact List.nil_prefix
  | cons d rest ih =>
    rw [turns, List.map_cons, List.prefix_cons_inj]
    split
    · exact List.nil_prefix
    · exact ih _

def ask (plan : Plan) (module : Path) (turn : TypeDescriptor × Progress) : Exchange :=
  ⟨.decompile module turn.1.handle, (turn.2.answer plan module turn.1).isOk⟩

def exchanges (plan : Plan) (module dir : Path) (types : List TypeDescriptor) (p : Progress) : List Exchange :=
  ((turns plan module dir types p).filter fun turn => turn.2.Wanted plan dir turn.1).map (ask plan module)

theorem claim_calls (p : Progress) (d : TypeDescriptor) (path : Path) (renamed : Bool) :
    (p.claim d path renamed).1.work.calls = p.work.calls := by
  cases renamed <;> rfl

section Step

variable {plan : Plan} {module dir : Path} {p q : Progress} {d : TypeDescriptor} {a : Option Path}
  {r : Except RunError TypeResult}

theorem calls_of_step (h : TypeStep plan module dir p d a q r) :
    q.work.calls.toList =
      p.work.calls.toList ++ if p.Wanted plan dir d then [.decompile module d.handle] else [] := by
  have hask : (p.asked module d).work.calls.toList = p.work.calls.toList ++ [.decompile module d.handle] :=
    Work.call_calls _ _
  cases h with
  | nameless hn => simp [Wanted, hn]
  | generated rule hn hm => simp [Wanted, hm]
  | taken hn hm ht => simp [Wanted, ht, fail]
  | undecompiled path renamed reason hn hm ht ha => simpa [Wanted, hn, hm, ht, fail] using hask
  | unwritten path renamed value files e reason hn hm ht ha hw he =>
    simpa [Wanted, hn, hm, ht, fail, withFiles] using hask
  | unwritable path renamed value files e fault hn hm ht ha hw he =>
    simpa [Wanted, hn, hm, ht, withFiles] using hask
  | written path renamed value files hn hm ht ha hw =>
    rw [claim_calls]
    simpa [Wanted, hn, hm, ht, withFiles] using hask

end Step

theorem exchanges_cons (plan : Plan) (module dir : Path) (d : TypeDescriptor) (rest : List TypeDescriptor)
    (p : Progress) :
    exchanges plan module dir (d :: rest) p = (if p.Wanted plan dir d then [ask plan module (d, p)] else []) ++
      match processType plan module dir p d with
      | (_, .error _) => []
      | (q, .ok result) => exchanges plan module dir rest (q.recorded d result) := by
  rw [exchanges, turns, List.filter_cons]
  rcases processType plan module dir p d with ⟨q, result⟩
  cases result <;> by_cases hw : p.Wanted plan dir d <;> simp [hw, exchanges]

theorem calls_of_processTypes (plan : Plan) (module dir : Path) (types : List TypeDescriptor) (p : Progress) :
    (processTypes plan module dir types p).1.work.calls.toList =
      p.work.calls.toList ++ (exchanges plan module dir types p).map (·.call) := by
  induction types generalizing p with
  | nil => simp [processTypes, exchanges, turns]
  | cons d rest ih =>
    have hs := calls_of_step (processType_step plan module dir p d)
    have hd : (if p.Wanted plan dir d then [ask plan module (d, p)] else []).map (·.call) =
        if p.Wanted plan dir d then [.decompile module d.handle] else [] := by
      split <;> rfl
    rw [processTypes_cons, exchanges_cons, List.map_append, hd, ← List.append_assoc, ← hs]
    cases processType plan module dir p d with
    | mk q result =>
      cases result with
      | error e => simp
      | ok result => exact ih _

end Progress

def Listing.turns (plan : Plan) (m : ModuleFile) (l : Listing) : List (TypeDescriptor × Progress) :=
  Progress.turns plan m.path l.dir l.types (l.begin m)

def Listing.exchanges (plan : Plan) (m : ModuleFile) (l : Listing) : List Exchange :=
  Progress.exchanges plan m.path l.dir l.types (l.begin m)

namespace Work

/-- That a module is worth being opened and has a directory when it is processed. -/
def Admits (plan : Plan) (m : ModuleFile) (w : Work) : Prop :=
  Importance.isImportant plan.importantPrefixes m.baseName = true ∧ (w.prepare m).2.isOk = true

instance (plan : Plan) (m : ModuleFile) (w : Work) : Decidable (w.Admits plan m) :=
  inferInstanceAs (Decidable (_ ∧ _))

/-- What is asked about one module that is admitted. -/
inductive Visit (plan : Plan) (m : ModuleFile) (w : Work) : List Exchange → Prop
  | shut (reason : String) (ho : ((w.prepare m).1.openModule plan m).2 = .error reason) :
      Visit plan m w [⟨.openModule m.path plan.searchPaths, false⟩]
  | unlisted (reason : String) (ho : ((w.prepare m).1.openModule plan m).2 = .ok ())
      (ht : (((w.prepare m).1.openModule plan m).1.listTypes plan m).2 = .error reason) :
      Visit plan m w
        [⟨.openModule m.path plan.searchPaths, true⟩, ⟨.listTypes m.path, false⟩, ⟨.close m.path, true⟩]
  | listed (l : Listing) (ho : ((w.prepare m).1.openModule plan m).2 = .ok ()) (hl : w.listing? plan m = some l) :
      Visit plan m w
        (⟨.openModule m.path plan.searchPaths, true⟩ :: (⟨.listTypes m.path, true⟩ :: l.exchanges plan m) ++
          [⟨.close m.path, true⟩])

theorem Visit.balanced {plan : Plan} {m : ModuleFile} {w : Work} {xs : List Exchange} (h : Visit plan m w xs) :
    Exchange.Balanced xs := by
  cases h with
  | shut reason ho =>
    refine ⟨rfl, fun ys h => .inl (Exchange.opened_eq_zero fun x hx => ?_)⟩
    rw [List.mem_singleton.mp (h.subset hx)]
    rfl
  | unlisted reason ho ht =>
    have hx : ∀ x ∈ [(⟨.listTypes m.path, false⟩ : Exchange)], x.change = 0 := by simp [Exchange.change]
    exact .session rfl hx rfl
  | listed l ho hl =>
    refine .session rfl (fun x hx => ?_) rfl
    rcases List.mem_cons.mp hx with rfl | hx
    · rfl
    · obtain ⟨turn, -, rfl⟩ := List.mem_map.mp hx
      rfl

theorem calls_of_processOpen (plan : Plan) (m : ModuleFile) (dir : Path) (w : Work) :
    (w.processOpen plan m dir).1.calls.toList = w.calls.toList ++ .listTypes m.path ::
      (match w.listTypes plan m with
        | (_, .error _) => []
        | (v, .ok types) => ((Listing.mk dir types v).exchanges plan m).map (·.call)) ++ [.close m.path] := by
  rw [processOpen_eq]
  rcases ht : w.listTypes plan m with ⟨v, listed⟩
  have hv : v.calls.toList = w.calls.toList ++ [.listTypes m.path] := by
    have h : v = w.call (.listTypes m.path) := (congrArg Prod.fst ht).symm
    rw [h, call_calls]
  cases listed with
  | error reason => simp [hv]
  | ok types =>
    have hp := Progress.calls_of_processTypes plan m.path dir types ((Listing.mk dir types v).begin m)
    simp only
    unfold Listing.process
    rcases hr : Progress.processTypes plan m.path dir types ((Listing.mk dir types v).begin m) with ⟨p, result⟩
    rw [hr] at hp
    have hc : (p.work.close plan m.path).calls.toList = w.calls.toList ++ .listTypes m.path ::
        ((Listing.mk dir types v).exchanges plan m).map (·.call) ++ [.close m.path] := by
      rw [close_calls, hp]
      simp [Listing.begin, Listing.exchanges, hv]
    cases result with
    | error e => exact hc
    | ok u =>
      have hprune := prune_calls plan dir p.report.written (p.work.close plan m.path)
      simp only
      rcases hq : (p.work.close plan m.path).prune plan dir p.report.written with ⟨v', pruned⟩
      rw [hq] at hprune
      rw [← hc, ← hprune]
      cases pruned <;> rfl

theorem calls_of_processModule (plan : Plan) (m : ModuleFile) (w : Work) :
    ∃ xs, (w.processModule plan m).1.calls.toList = w.calls.toList ++ xs.map (·.call) ∧
      (w.Admits plan m → w.Visit plan m xs) ∧ (¬ w.Admits plan m → xs = []) := by
  rw [processModule_eq]
  by_cases hi : Importance.isImportant plan.importantPrefixes m.baseName = true
  · rw [if_pos hi]
    rcases hd : w.prepare m with ⟨w1, made⟩
    have hc1 : w1.calls = w.calls := congrArg (fun r => r.1.calls) hd.symm
    cases made with
    | error e => exact ⟨[], by simp [hc1], fun ⟨_, ha⟩ => by simp [hd, Except.isOk, Except.toBool] at ha, fun _ => rfl⟩
    | ok dir =>
      have hadm : w.Admits plan m := ⟨hi, by rw [hd]; rfl⟩
      simp only
      rcases ho : w1.openModule plan m with ⟨w2, opened⟩
      have hc2 : w2.calls.toList = w.calls.toList ++ [.openModule m.path plan.searchPaths] := by
        have h2 : w2 = (w1.openModule plan m).1 := by rw [ho]
        rw [← hc1, h2]
        exact call_calls _ _
      have hop : ((w.prepare m).1.openModule plan m).2 = opened := by rw [hd, ho]
      cases opened with
      | error reason => exact ⟨_, by simp [hc2], fun _ => .shut reason hop, fun h => absurd hadm h⟩
      | ok u =>
        have hcalls := calls_of_processOpen plan m dir w2
        simp only
        rcases ht : w2.listTypes plan m with ⟨w3, listed⟩
        rw [ht, hc2] at hcalls
        have hlist : (((w.prepare m).1.openModule plan m).1.listTypes plan m).2 = listed := by rw [hd, ho, ht]
        cases listed with
        | error reason => exact ⟨_, by simp [hcalls], fun _ => .unlisted reason hop hlist, fun h => absurd hadm h⟩
        | ok types =>
          have hl : w.listing? plan m = some ⟨dir, types, w3⟩ := by simp [listing?, hi, hd, ho, ht]
          exact ⟨_, by simp [hcalls], fun _ => .listed _ hop hl, fun h => absurd hadm h⟩
  · rw [if_neg hi]
    exact ⟨[], by simp, fun ⟨h, _⟩ => absurd h hi, fun _ => rfl⟩

theorem files_of_unimportant {plan : Plan} {m : ModuleFile}
    (h : Importance.isImportant plan.importantPrefixes m.baseName = false) (w : Work) :
    (w.processModule plan m).1.files = w.files := by
  rw [processModule_eq, h]
  rfl

def turns (plan : Plan) : List ModuleFile → Work → List (ModuleFile × Work)
  | [], _ => []
  | m :: rest, w =>
    (m, w) :: match w.processModule plan m with
      | (_, .error _) => []
      | (v, .ok _) => turns plan rest v

seal processModule in
theorem turns_cons (plan : Plan) (m : ModuleFile) (rest : List ModuleFile) (w : Work) :
    w.turns plan (m :: rest) =
      (m, w) :: match w.processModule plan m with
        | (_, .error _) => []
        | (v, .ok _) => v.turns plan rest := rfl

theorem isPrefix_turns (plan : Plan) (modules : List ModuleFile) (w : Work) :
    (w.turns plan modules).map (·.1) <+: modules := by
  induction modules generalizing w with
  | nil => exact List.nil_prefix
  | cons m rest ih =>
    rw [turns_cons, List.map_cons, List.prefix_cons_inj]
    split
    · exact List.nil_prefix
    · exact ih _

theorem turns_of_processModules {plan : Plan} {modules : List ModuleFile} {w : Work}
    {outcomes : List ModuleOutcome} (h : (w.processModules plan modules).2 = .ok outcomes) :
    (w.turns plan modules).map (·.1) = modules := by
  induction modules generalizing w outcomes with
  | nil => rfl
  | cons m rest ih =>
    obtain ⟨o, outcomes', ho, -, hrest, -⟩ := processModules_eq_ok h
    rw [turns_cons]
    rcases hp : w.processModule plan m with ⟨v, result⟩
    rw [hp] at ho hrest
    cases ho
    simpa using ih hrest

/-- What is asked about modules at their turns, one after another: about each that is admitted what belongs to a
visit, and about the others nothing. -/
inductive Visits (plan : Plan) : List (ModuleFile × Work) → List Exchange → Prop
  | nil : Visits plan [] []
  | visited {m : ModuleFile} {w : Work} {turns : List (ModuleFile × Work)} {xs ys : List Exchange}
      (ha : w.Admits plan m) (hx : w.Visit plan m xs) (hy : Visits plan turns ys) :
      Visits plan ((m, w) :: turns) (xs ++ ys)
  | passed {m : ModuleFile} {w : Work} {turns : List (ModuleFile × Work)} {ys : List Exchange}
      (ha : ¬ w.Admits plan m) (hy : Visits plan turns ys) : Visits plan ((m, w) :: turns) ys

theorem Visits.balanced {plan : Plan} {turns : List (ModuleFile × Work)} {xs : List Exchange}
    (h : Visits plan turns xs) : Exchange.Balanced xs := by
  induction h with
  | nil => exact .nil
  | visited ha hx hy ih => exact hx.balanced.append ih
  | passed ha hy ih => exact ih

theorem calls_of_processModules (plan : Plan) (modules : List ModuleFile) (w : Work) :
    ∃ xs, Visits plan (w.turns plan modules) xs ∧
      (w.processModules plan modules).1.calls.toList = w.calls.toList ++ xs.map (·.call) := by
  induction modules generalizing w with
  | nil => exact ⟨[], .nil, (List.append_nil _).symm⟩
  | cons m rest ih =>
    obtain ⟨xs, hxs, hadm, hno⟩ := calls_of_processModule plan m w
    have hrest : ∃ ys, Visits plan (w.turns plan (m :: rest)).tail ys ∧
        (w.processModules plan (m :: rest)).1.calls.toList =
          (w.processModule plan m).1.calls.toList ++ ys.map (·.call) := by
      rw [processModules_cons, turns_cons, List.tail_cons]
      rcases w.processModule plan m with ⟨v, result⟩
      cases result with
      | error e => exact ⟨[], .nil, by simp⟩
      | ok o => exact ih v
    obtain ⟨ys, hy, hc⟩ := hrest
    rw [hxs, List.append_assoc, ← List.map_append] at hc
    by_cases ha : w.Admits plan m
    · exact ⟨xs ++ ys, .visited ha (hadm ha) hy, hc⟩
    · rw [hno ha, List.nil_append] at hc
      exact ⟨ys, .passed ha hy, hc⟩

/-- The modules of a run with the work at the turn of each; none if the run does not come to its modules. -/
def runTurns (plan : Plan) (given : Option (List ModuleFile)) (w : Work) : List (ModuleFile × Work) :=
  match (w.outputs.ensureRoot w.files).2, (w.rooted plan).modulesOf plan given with
  | .ok _, .ok modules => (w.rooted plan).turns plan modules
  | _, _ => []

theorem calls_of_run (plan : Plan) (given : Option (List ModuleFile)) (w : Work) :
    (w.run plan given).1.calls.toList =
      match (w.outputs.ensureRoot w.files).2, (w.rooted plan).modulesOf plan given with
      | .ok _, .ok modules => ((w.rooted plan).processModules plan modules).1.calls.toList
      | _, _ => w.calls.toList := by
  rw [run_eq]
  cases (w.outputs.ensureRoot w.files).2 with
  | error e => rfl
  | ok root =>
    cases (w.rooted plan).modulesOf plan given with
    | error e => rfl
    | ok modules => exact congrArg Array.toList (concluded_calls _)

theorem turns_of_listing (plan : Plan) (m : ModuleFile) (l : Listing) :
    (l.turns plan m).map (·.1) <+: l.types := Progress.isPrefix_turns ..

theorem runTurns_eq (plan : Plan) (given : Option (List ModuleFile)) (w : Work) (modules : List ModuleFile)
    (hm : (w.rooted plan).modulesOf plan given = .ok modules) :
    (w.runTurns plan given).map (·.1) <+: modules ∧
      ((∃ summary, (w.run plan given).2 = .ok summary) → (w.runTurns plan given).map (·.1) = modules) := by
  rw [runTurns, hm]
  cases hr : (w.outputs.ensureRoot w.files).2 with
  | error e =>
    refine ⟨List.nil_prefix, fun ⟨summary, hs⟩ => ?_⟩
    obtain ⟨root, -, hroot, -⟩ := run_eq_ok hs
    cases hr.symm.trans hroot
  | ok root =>
    refine ⟨isPrefix_turns .., fun ⟨summary, hs⟩ => ?_⟩
    obtain ⟨-, modules', -, hm', hp, -⟩ := run_eq_ok hs
    cases hm.symm.trans hm'
    exact turns_of_processModules hp

/-- A run asks about its modules one after another, and every module it opens it closes before it opens another
one. -/
theorem run_conversation (plan : Plan) (given : Option (List ModuleFile)) (w : Work) :
    ∃ xs, Visits plan (w.runTurns plan given) xs ∧
      (w.run plan given).1.calls.toList = w.calls.toList ++ xs.map (·.call) ∧
      Exchange.Balanced xs ∧
      (∀ modules, (w.rooted plan).modulesOf plan given = .ok modules →
        (w.runTurns plan given).map (·.1) <+: modules ∧
          ((∃ summary, (w.run plan given).2 = .ok summary) → (w.runTurns plan given).map (·.1) = modules)) ∧
      (∀ m v, (m, v) ∈ w.runTurns plan given →
        Importance.isImportant plan.importantPrefixes m.baseName = false →
          (v.processModule plan m).1.files = v.files) ∧
      ∀ m v l, (m, v) ∈ w.runTurns plan given → v.listing? plan m = some l →
        (l.turns plan m).map (·.1) <+: l.types := by
  have hcalls : ∃ xs, Visits plan (w.runTurns plan given) xs ∧
      (w.run plan given).1.calls.toList = w.calls.toList ++ xs.map (·.call) := by
    rw [calls_of_run, runTurns]
    have hrooted : (w.rooted plan).calls = w.calls := rfl
    rcases (w.outputs.ensureRoot w.files).2 with e | root
    · exact ⟨[], .nil, by simp⟩
    · rcases (w.rooted plan).modulesOf plan given with e | modules
      · exact ⟨[], .nil, by simp⟩
      · simpa [hrooted] using calls_of_processModules plan modules (w.rooted plan)
  obtain ⟨xs, hv, hc⟩ := hcalls
  exact ⟨xs, hv, hc, hv.balanced, runTurns_eq plan given w, fun m v _ hi => files_of_unimportant hi v,
    fun m v l _ _ => turns_of_listing plan m l⟩

end Work

end Winnow
