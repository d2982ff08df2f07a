import Winnow.Proofs.Folding
import Winnow.Proofs.ModuleEffect

/-!
What decides whether a write succeeds, and with which failure it ends if not: where the path of its staging file
leads, and whether a directory stands there or at the path itself. What files hold has no part in it.
-/
set_option autoImplicit false

namespace Winnow

namespace Path

theorem toString_concat (slashes : Nat) (init : List String) :
    ∃ lead : String, ∀ last, toString ⟨slashes, init ++ [last]⟩ = lead ++ last := by
  refine ⟨String.ofList (List.replicate slashes '/' ++ (init.map String.toList).flatMap (· ++ ['/'])), fun last => ?_⟩
  rw [← String.toList_inj, toList_toString]
  simp

end Path

namespace Outputs

/-- What decides about a write: where the staging path leads or why it leads nowhere, whether a directory stands
there, and whether one stands in the way at the path itself. -/
structure Prospect where
  staging : Except Errno Bool
  blocked : Bool
  deriving DecidableEq

def prospect (p : Path) (f : Files) : Prospect where
  staging := (f.place? (stagingPath p)).map fun q => f.tree.get? q == some .dir
  blocked := f.tree.get? (f.placeOf p) == some .dir

def Prospect.verdict (p : Path) (value : Decompiled) (x : Prospect) : Except WriteError Unit :=
  let refuse (errno : Errno) (target : Option String) : Except WriteError Unit :=
    .error (.file (.os errno (stagingPath p).toString target))
  match x.staging, value with
  | .error .noEntry, .other kind => .error (.notText kind)
  | .error errno, _ => refuse errno none
  | .ok true, _ => refuse .isDirectory none
  | .ok false, .other kind => .error (.notText kind)
  | .ok false, .text t =>
    match t.toString? with
    | .error e => .error (.unencodable e)
    | .ok _ =>
      if p.name = ".." then refuse .busy (some p.toString)
      else if x.blocked then refuse .isDirectory (some p.toString)
      else .ok ()

section Write

variable {p : Path} {f : Files} {value : Decompiled}

theorem stagingPath_parts_dropLast (p : Path) : (stagingPath p).parts.dropLast = p.parts.dropLast := by
  rw [parts_stagingPath, List.dropLast_concat]

theorem write_of_unreached {errno : Errno} (blocked : Bool) (hn : p.name ≠ "") (hz : Files.holdsZero p = false)
    (h : f.place? (stagingPath p) = .error errno) :
    write p value f = (f, (⟨.error errno, blocked⟩ : Prospect).verdict p value) := by
  have hs := (holdsZero_stagingPath hn).trans hz
  have hstat : f.stat (stagingPath p) = .error errno := by simp [Files.stat, h, bind, Except.bind]
  have hu : f.unlink (stagingPath p) = .error (.os errno (stagingPath p).toString none) := by
    simp [Files.unlink, hs, hstat, Files.fail]
  have ho : f.openNew (stagingPath p) = .error (.os errno (stagingPath p).toString none) := by
    simp [Files.openNew, hs, h, Files.fail]
  cases value with
  | other kind => cases errno <;> simp [write, hn, stage, cleanUp, hu, Prospect.verdict]
  | text t => cases errno <;> simp [write, hn, stage, cleanUp, ho, hu, Prospect.verdict]

theorem enters_stagingPath : f.Enters (stagingPath p) ↔ f.Enters p := by
  unfold Files.Enters
  rw [stagingPath_parts_dropLast]
  rfl

theorem utf8ByteSize_stagingName (name : String) : (stagingName name).utf8ByteSize = name.utf8ByteSize + 5 := by
  have h1 : ".".utf8ByteSize = 1 := rfl
  have h4 : ".tmp".utf8ByteSize = 4 := rfl
  simp only [stagingName, String.utf8ByteSize_append]
  omega

theorem utf8ByteSize_stagingPath (hn : p.name ≠ "") :
    (stagingPath p).toString.utf8ByteSize = p.toString.utf8ByteSize + 5 := by
  obtain ⟨lead, hl⟩ := Path.toString_concat p.slashes p.parts.dropLast
  have hp : p.toString = lead ++ p.name := by
    rw [← hl, ← Path.parts_eq_dropLast_append hn]
  have hs : (stagingPath p).toString = lead ++ stagingName p.name := hl (stagingName p.name)
  rw [hp, hs, String.utf8ByteSize_append, String.utf8ByteSize_append, utf8ByteSize_stagingName]
  omega

theorem place?_of_stagingPath (hn : p.name ≠ "") {q : Place} (h : f.place? (stagingPath p) = .ok q) :
    f.Enters p ∧ f.place? p = .ok (f.placeOf p) := by
  obtain ⟨r, hr, hd, -⟩ := Files.enters_of_place? (parts_stagingPath p) h
  have he : f.Enters p := ⟨r, hr, hd⟩
  have hs := Files.place?_of_enters (enters_stagingPath.mpr he)
    (by rw [stagingPath_parts_dropLast, parts_stagingPath] : _ = _ ++ [stagingName p.name])
  rw [h] at hs
  have hlim : ¬ (FileTree.pathLimit < p.toString.utf8ByteSize ∨ FileTree.nameLimit < p.name.utf8ByteSize) := by
    split at hs
    · cases hs
    · next hl =>
      rw [utf8ByteSize_stagingPath hn, utf8ByteSize_stagingName] at hl
      omega
  refine ⟨he, ?_⟩
  rw [Files.place?_of_enters he (Path.parts_eq_dropLast_append hn), if_neg hlim]

theorem cleanUp_snd {k : Files} {e : WriteError} {q : Place} (hk : Staged f p k)
    (hs : Files.holdsZero (stagingPath p) = false) (hq : f.place? (stagingPath p) = .ok q)
    (hd : f.tree.get? q ≠ some .dir) : (cleanUp p e k).2 = .error e := by
  have hkq := Files.place?_of_dirsKept hk.dirsKept hq
  have hkd := mt (hk.dirsKept_symm.tree q) hd
  unfold cleanUp
  cases he : k.tree.get? q with
  | none =>
    have hu : k.unlink (stagingPath p) = .error (.os .noEntry (stagingPath p).toString none) := by
      simp [Files.unlink, hs, Files.stat, hkq, he, bind, Except.bind, throw, throwThe, MonadExceptOf.throw, Files.fail]
    rw [hu]
  | some entry =>
    cases entry with
    | dir => exact absurd he hkd
    | file b x => rw [Files.unlink_of_file hs hkq he]

/-- A move onto a path succeeds unless the path ends in two dots or a directory is in the way. -/
theorem replace_stagingPath {k : Files} {q : Place} {b : ByteArray} {x : Bool} (hn : p.name ≠ "")
    (hz : Files.holdsZero p = false) (hq : k.place? (stagingPath p) = .ok q)
    (he : k.tree.get? q = some (.file b x)) :
    ((k.replace (stagingPath p) p).map fun _ => ()).mapError WriteError.file =
      if p.name = ".." then .error (.file (.os .busy (stagingPath p).toString (some p.toString)))
      else if k.tree.get? (k.placeOf p) = some .dir then
        .error (.file (.os .isDirectory (stagingPath p).toString (some p.toString)))
      else .ok () := by
  have hs := (holdsZero_stagingPath hn).trans hz
  obtain ⟨⟨r, hr, hrd⟩, hp⟩ := place?_of_stagingPath hn hq
  have hstat : k.stat (stagingPath p) = .ok (q, .file b x) := Files.stat_eq_ok.mpr ⟨hq, he⟩
  by_cases hup : p.name = ".."
  · simp [Files.replace, hs, hz, hstat, hp, hup, Except.map]
  · have hdrop : k.tree.get? (k.placeOf p).dropLast = some .dir := by
      have hfold : k.placeOf p.parent = r := FileTree.foldl_enter_of_walk hr
      rw [placeOf_of_name hn hup, List.dropLast_concat, hfold, hrd]
    cases hg : k.tree.get? (k.placeOf p) with
    | none => simp [Files.replace, hs, hz, hstat, hp, hup, hg, hdrop, Except.map]
    | some entry => cases entry <;> simp [Files.replace, hs, hz, hstat, hp, hup, hg, Except.map]

theorem openNew_stagingPath {q : Place} (hs : Files.holdsZero (stagingPath p) = false)
    (hq : f.place? (stagingPath p) = .ok q) (hd : f.tree.get? q ≠ some .dir) :
    ∃ x, f.openNew (stagingPath p) = .ok ({ f with tree := f.tree.put q (.file .empty x) }, q) := by
  obtain ⟨r, -, hr, he⟩ := Files.enters_of_place? (parts_stagingPath p) hq
  have hdrop : f.tree.get? q.dropLast = some .dir := by
    rw [he]
    simpa [FileTree.enter, stagingName_ne_dots] using hr
  cases hg : f.tree.get? q with
  | none => exact ⟨false, by simp [Files.openNew, hs, hq, hg, hdrop]⟩
  | some entry =>
    cases entry with
    | dir => exact absurd hg hd
    | file b x => exact ⟨x, by simp [Files.openNew, hs, hq, hg]⟩

theorem write_of_staging_dir {q : Place} (blocked : Bool) (hn : p.name ≠ "") (hz : Files.holdsZero p = false)
    (hq : f.place? (stagingPath p) = .ok q) (hd : f.tree.get? q = some .dir) :
    write p value f = (f, (⟨.ok true, blocked⟩ : Prospect).verdict p value) := by
  have hs := (holdsZero_stagingPath hn).trans hz
  have hu : f.unlink (stagingPath p) = .error (.os .isDirectory (stagingPath p).toString none) := by
    simp [Files.unlink, hs, Files.stat_eq_ok.mpr ⟨hq, hd⟩, Files.fail]
  have ho : f.openNew (stagingPath p) = .error (.os .isDirectory (stagingPath p).toString none) := by
    simp [Files.openNew, hs, hq, hd, Files.fail]
  cases value with
  | other kind => simp [write, hn, stage, cleanUp, hu, Prospect.verdict]
  | text t => simp [write, hn, stage, cleanUp, ho, hu, Prospect.verdict]

theorem write_snd_of_stage {q : Place} (hn : p.name ≠ "") (hz : Files.holdsZero p = false)
    (hq : f.place? (stagingPath p) = .ok q) (hd : f.tree.get? q ≠ some .dir) :
    (write p value f).2 = (stage p value f).2 := by
  have hs := (holdsZero_stagingPath hn).trans hz
  unfold write
  rw [if_neg (by simpa using hn)]
  cases hst : stage p value f with
  | mk g r =>
    cases r with
    | ok u => rfl
    | error e => exact cleanUp_snd (stage_eq_error hst) hs hq hd

theorem write_snd_of_free (value : Decompiled) {q : Place} (hn : p.name ≠ "") (hz : Files.holdsZero p = false)
    (hq : f.place? (stagingPath p) = .ok q) (hd : f.tree.get? q ≠ some .dir) :
    (write p value f).2 = (⟨.ok false, f.tree.get? (f.placeOf p) == some .dir⟩ : Prospect).verdict p value := by
  have hs := (holdsZero_stagingPath hn).trans hz
  have hne : q ≠ [] := by rintro rfl; simp at hd
  rw [write_snd_of_stage hn hz hq hd]
  cases value with
  | other kind => rfl
  | text t =>
    obtain ⟨x, ho⟩ := openNew_stagingPath hs hq hd
    cases ht : t.toString? with
    | error e => simp only [stage, ho, ht, Prospect.verdict]
    | ok s =>
      simp only [stage, ho, ht, Prospect.verdict, Files.fill_put f .empty s.toUTF8 x hne, beq_iff_eq]
      generalize hk : ({ f with tree := (f.tree.put q (.file .empty x)).put q (.file s.toUTF8 x) } : Files) = k
      have hstaged : Staged f p k := hk ▸ ((Staged.refl f p).put hq hd .empty x).put hq hd _ x
      have hsame : f.SameDirs k := ⟨hstaged.dirsKept, hstaged.dirsKept_symm⟩
      have hfile : k.tree.get? q = some (.file s.toUTF8 x) := by
        rw [← hk]
        exact FileTree.get?_put_self _ _ hne
      have hr := replace_stagingPath hn hz (Files.place?_of_dirsKept hsame.kept hq) hfile
      simp only [hsame.placeOf, hsame.dir_iff] at hr
      rw [← hr]
      cases k.replace (stagingPath p) p <;> rfl

theorem write_snd (hw : ¬ Unwritable p) : (write p value f).2 = (prospect p f).verdict p value := by
  simp only [Unwritable, not_or, Bool.not_eq_true] at hw
  obtain ⟨hn, hz⟩ := hw
  unfold prospect
  cases hq : f.place? (stagingPath p) with
  | error errno => exact congrArg Prod.snd (write_of_unreached _ hn hz hq)
  | ok q =>
    by_cases hd : f.tree.get? q = some .dir
    · have hb : (f.tree.get? q == some .dir) = true := by simpa using hd
      simp only [Except.map, hb]
      exact congrArg Prod.snd (write_of_staging_dir (f.tree.get? (f.placeOf p) == some .dir) hn hz hq hd)
    · have hb : (f.tree.get? q == some .dir) = false := by simpa using hd
      simp only [Except.map, hb]
      exact write_snd_of_free value hn hz hq hd

theorem prospect_congr {g : Files} (hc : g.current = f.current) (hf : f.Enters p)
    (hg : g.Enters p)
    (hs : g.tree.get? (f.placeOf (stagingPath p)) = some .dir ↔ f.tree.get? (f.placeOf (stagingPath p)) = some .dir)
    (ht : g.tree.get? (f.placeOf p) = some .dir ↔ f.tree.get? (f.placeOf p) = some .dir) :
    prospect p g = prospect p f := by
  have hparts : (stagingPath p).parts = (stagingPath p).parts.dropLast ++ [stagingName p.name] := by
    rw [stagingPath_parts_dropLast, parts_stagingPath]
  have hstaging : g.place? (stagingPath p) = f.place? (stagingPath p) := by
    rw [Files.place?_of_enters (enters_stagingPath.mpr hf) hparts,
      Files.place?_of_enters (enters_stagingPath.mpr hg) hparts, Files.placeOf_of_current hc]
  have hdir : ∀ q, (g.tree.get? q = some .dir ↔ f.tree.get? q = some .dir) →
      (g.tree.get? q == some .dir) = (f.tree.get? q == some .dir) := fun q h => by
    rw [Bool.eq_iff_iff, beq_iff_eq, beq_iff_eq, h]
  unfold prospect
  rw [hstaging, Files.placeOf_of_current hc, hdir _ ht]
  congr 1
  cases hq : f.place? (stagingPath p) with
  | error errno => rfl
  | ok q => exact congrArg Except.ok (hdir q (Files.placeOf_of_place? hq ▸ hs))

theorem prospect_of_sameDirs {g : Files} (h : f.SameDirs g) (he : f.Enters p) : prospect p g = prospect p f :=
  prospect_congr h.kept.current he (he.of_dirsKept h.kept) (h.dir_iff _) (h.dir_iff _)

theorem enters_pathFor {o : Outputs} {dir : Path} {name : String} (hx : '/' ∉ o.extension.toList)
    (hd : f.isDir dir = .ok true) (hne : (o.pathFor dir name).name ≠ "") : f.Enters (o.pathFor dir name) := by
  rw [pathFor_of_slashFree hx] at hne ⊢
  cases hp : Path.isPart (TypeName.fileStem name ++ o.extension) with
  | true =>
    rw [List.filter_cons_of_pos hp]
    exact Files.enters_child hd _
  | false =>
    simp only [hp, List.filter_cons_of_neg, Bool.false_eq_true, not_false_eq_true, List.filter_nil,
      List.append_nil] at hne ⊢
    obtain ⟨-, q, hq, -⟩ := Files.isDir_eq_true.mp hd
    obtain ⟨r, hr, hrd, -⟩ := Files.enters_of_place? (Path.parts_eq_dropLast_append hne) hq
    exact ⟨r, hr, hrd⟩

/-- Where only the directories are the same, a write can fail for another reason, but it fails all the same. -/
theorem write_snd_of_sameDirs {g : Files} (hw : ¬ Unwritable p) (h : f.SameDirs g) :
    (write p value g).2 = (write p value f).2 ∨
      ∃ e e', (write p value g).2 = .error e ∧ (write p value f).2 = .error e' := by
  have hn : p.name ≠ "" := (not_or.mp hw).1
  have hz : Files.holdsZero p = false := by simpa using (not_or.mp hw).2
  cases hq : f.place? (stagingPath p) with
  | ok q =>
    left
    rw [write_snd hw, write_snd hw, prospect_of_sameDirs h (place?_of_stagingPath hn hq).1]
  | error errno =>
    right
    have hg : ∃ errno', g.place? (stagingPath p) = .error errno' := by
      cases hq' : g.place? (stagingPath p) with
      | error errno' => exact ⟨errno', rfl⟩
      | ok q => 
        rw [Files.place?_of_dirsKept h.back hq'] at hq
        cases hq
    obtain ⟨errno', hg⟩ := hg
    have hv : ∀ errno, ∃ e, (⟨.error errno, false⟩ : Prospect).verdict p value = .error e := by
      intro errno
      cases value <;> cases errno <;> exact ⟨_, rfl⟩
    obtain ⟨e, he⟩ := hv errno'
    obtain ⟨e', he'⟩ := hv errno
    exact ⟨e, e', (congrArg Prod.snd (write_of_unreached false hn hz hg)).trans he,
      (congrArg Prod.snd (write_of_unreached false hn hz hq)).trans he'⟩

end Write

end Outputs

namespace Progress

def ofWrite (d : TypeDescriptor) (path : Path) : Except WriteError Unit → Except RunError TypeResult
  | .ok () => .ok (.written path)
  | .error e =>
    match e.reason with
    | .ok reason => .ok (.failed ⟨d.fullName, reason, "write"⟩)
    | .error fault => .error (.file fault)

def keysOf (file : String → Path) (d : TypeDescriptor) : List String :=
  [claimKey (file d.name), claimKey (file d.fullName)]

theorem target?_congr {p p' : Progress} {dir : Path} {d : TypeDescriptor}
    (ho : p'.work.outputs = p.work.outputs)
    (hk : ∀ k ∈ keysOf (p.work.outputs.pathFor dir) d, (k ∈ p'.claimed ↔ k ∈ p.claimed)) :
    p'.target? dir d = p.target? dir d := by
  have hholds : ∀ name, name = d.name ∨ name = d.fullName →
      p'.holds (p.work.outputs.pathFor dir name) = p.holds (p.work.outputs.pathFor dir name) := by
    intro name hn
    rw [Bool.eq_iff_iff, holds_iff, holds_iff]
    exact hk _ (by rcases hn with rfl | rfl <;> simp [keysOf])
  simp only [target?, ho, hholds _ (.inl rfl), hholds _ (.inr rfl)]

theorem name_of_target? {p : Progress} {dir path : Path} {d : TypeDescriptor} {renamed : Bool} (hn : d.name ≠ "")
    (ht : p.target? dir d = some (path, renamed)) :
    ∃ name, (name = d.name ∨ name = d.fullName) ∧ name ≠ "" ∧ path = p.work.outputs.pathFor dir name := by
  obtain ⟨-, ho, hq⟩ := target?_eq_some ht
  by_cases hk : claimKey (p.work.outputs.pathFor dir d.name) ∈ p.claimed
  · exact ⟨d.fullName, .inr rfl, (hq hk).2.1, (hq hk).1⟩
  · exact ⟨d.name, .inl rfl, hn, ho hk⟩

/-- What becomes of a type is decided by the file that is left for it, the answer of the decompiler and the end of
the write. -/
def resultOf (plan : Plan) (d : TypeDescriptor) (target : Option (Path × Bool)) (answer : Except String Decompiled)
    (written : Path → Decompiled → Except WriteError Unit) : Except RunError TypeResult :=
  if d.name = "" then .ok .skippedEmpty
  else match plan.classifier.match? d.name, target, answer with
    | some rule, _, _ => .ok (.skippedGenerated (some rule))
    | none, none, _ => .ok (.failed ⟨d.fullName, takenMessage, "write"⟩)
    | none, some _, .error reason => .ok (.failed ⟨d.fullName, reason, "decompile"⟩)
    | none, some (path, _), .ok value => ofWrite d path (written path value)

theorem writable_of_ofWrite {d : TypeDescriptor} {path : Path} {value : Decompiled} {f : Files} {r : TypeResult}
    (h : .ok r = ofWrite d path (Outputs.write path value f).2) : ¬ Outputs.Unwritable path := by
  intro hu
  obtain ⟨e, fault, hw, he⟩ := Outputs.write_of_unwritable value f hu
  simp [hw, ofWrite, he] at h

def filesOf (plan : Plan) (d : TypeDescriptor) (target : Option (Path × Bool)) (answer : Except String Decompiled)
    (f : Files) : Files :=
  if d.name = "" then f
  else match plan.classifier.match? d.name, target, answer with
    | none, some (path, _), .ok value => (Outputs.write path value f).1
    | _, _, _ => f

theorem resultOf_cases (plan : Plan) (d : TypeDescriptor) (target : Option (Path × Bool))
    (answer : Except String Decompiled) :
    (∃ r, (∀ written, resultOf plan d target answer written = .ok r) ∧ ∀ f, filesOf plan d target answer f = f) ∨
      ∃ path renamed value, d.name ≠ "" ∧ target = some (path, renamed) ∧
        (∀ written, resultOf plan d target answer written = ofWrite d path (written path value)) ∧
        ∀ f, filesOf plan d target answer f = (Outputs.write path value f).1 := by
  unfold resultOf filesOf
  by_cases hn : d.name = ""
  · exact .inl ⟨_, fun _ => if_pos hn, fun _ => if_pos hn⟩
  · simp only [if_neg hn]
    cases hm : plan.classifier.match? d.name with
    | some rule => exact .inl ⟨_, fun _ => rfl, fun _ => rfl⟩
    | none =>
      cases target with
      | none => exact .inl ⟨_, fun _ => rfl, fun _ => rfl⟩
      | some target =>
        cases answer with
        | error reason => exact .inl ⟨_, fun _ => rfl, fun _ => rfl⟩
        | ok value => exact .inr ⟨target.1, target.2, value, hn, rfl, fun _ => rfl, fun _ => rfl⟩

def renamedBy (d : TypeDescriptor) (target : Option (Path × Bool)) (result : TypeResult) : List String :=
  match target, result with
  | some (_, true), .written _ => [d.fullName]
  | _, _ => []

section Step

variable {plan : Plan} {module dir : Path} {p q : Progress} {d : TypeDescriptor} {a : Option Path}

theorem result_of_step {r : Except RunError TypeResult} (h : TypeStep plan module dir p d a q r) :
    r = resultOf plan d (p.target? dir d) (p.answer plan module d) fun path value =>
      (Outputs.write path value p.work.files).2 := by
  cases h with
  | nameless hn => simp [resultOf, hn]
  | generated rule hn hm => simp [resultOf, hn, hm]
  | taken hn hm ht => simp [resultOf, hn, hm, ht]
  | undecompiled path renamed reason hn hm ht ha => simp [resultOf, hn, hm, ht, ha]
  | unwritten path renamed value files e reason hn hm ht ha hw he => simp [resultOf, ofWrite, hn, hm, ht, ha, hw, he]
  | unwritable path renamed value files e fault hn hm ht ha hw he => simp [resultOf, ofWrite, hn, hm, ht, ha, hw, he]
  | written path renamed value files hn hm ht ha hw => simp [resultOf, ofWrite, hn, hm, ht, ha, hw]

theorem files_eq_of_step {r : Except RunError TypeResult} (h : TypeStep plan module dir p d a q r) :
    q.work.files = filesOf plan d (p.target? dir d) (p.answer plan module d) p.work.files := by
  cases h with
  | nameless hn => simp [filesOf, hn]
  | generated rule hn hm => simp [filesOf, hn, hm]
  | taken hn hm ht => simp [filesOf, hn, hm, ht, fail]
  | undecompiled path renamed reason hn hm ht ha => simp [filesOf, hn, hm, ht, ha, fail, asked]
  | unwritten path renamed value files e reason hn hm ht ha hw he =>
    simp [filesOf, hn, hm, ht, ha, hw, fail, withFiles]
  | unwritable path renamed value files e fault hn hm ht ha hw he => simp [filesOf, hn, hm, ht, ha, hw, withFiles]
  | written path renamed value files hn hm ht ha hw => simp [filesOf, hn, hm, ht, ha, hw, claim_files, withFiles]

theorem claim_report (p : Progress) (d : TypeDescriptor) (path : Path) (renamed : Bool) :
    (p.claim d path renamed).1.report =
      { p.report with renamed := p.report.renamed ++ renamedBy d (some (path, renamed)) (.written path) } := by
  cases renamed
  · simp [claim, renamedBy]
  · rfl

theorem report_of_step {result : TypeResult} (h : TypeStep plan module dir p d a q (.ok result)) :
    q.report = { p.report with renamed := p.report.renamed ++ renamedBy d (p.target? dir d) result } := by
  cases h with
  | written path renamed value files hn hm ht ha hw =>
    rw [ht]
    exact claim_report _ _ _ _
  | _ => simp [renamedBy, fail, asked, withFiles]

theorem sameDirs_of_step {result : TypeResult} (h : TypeStep plan module dir p d a q (.ok result)) :
    p.work.files.SameDirs q.work.files := by
  rcases files_of_step h with ⟨-, -, hf⟩ | ⟨path, -, -, ht, -⟩
  · rw [hf]
    exact .refl _
  · exact ⟨ht.dirs, ht.dirs_symm⟩

end Step

end Progress

end Winnow
