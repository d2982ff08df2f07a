import Winnow.Proofs.Clearing
import Winnow.Proofs.Completion
import Winnow.Proofs.Verdict

/-!
How the files of a run evolve. A run makes directories for modules below its root directory, and makes and removes
files in them. Nothing else changes, so whatever stood in the way of a directory or a file still does.
-/
set_option autoImplicit false

namespace Winnow

namespace Path

/-- That a text is the name of an entry of a directory. -/
structure IsName (name : String) : Prop where
  part : isPart name = true
  notUp : name ≠ ".."
  slashFree : '/' ∉ name.toList

theorem join_ofString {name : String} (h : IsName name) (p : Path) : p.join (.ofString name) = p.child name := by
  simp [ofString_of_not_mem h.slashFree h.part, join, isAbsolute, child]

end Path

namespace Files

/-- `g` is `f` with directories more directly below `root`, and with other files in these and such directories. -/
structure Evolves (root : Path) (f g : Files) : Prop where
  current : g.current = f.current
  entry : ∀ q, g.tree.get? q = f.tree.get? q ∨
    (f.tree.get? q = none ∧ g.tree.get? q = some .dir ∧ ∃ n, n ≠ ".." ∧ q = f.placeOf root ++ [n]) ∨
    (f.tree.get? q ≠ some .dir ∧ g.tree.get? q ≠ some .dir ∧ ∃ n x, q = f.placeOf root ++ [n, x] ∧
      (g.tree.get? q = none ∨ n ≠ ".." ∧ x ≠ ".." ∧ ((root.child n).child x).Fits))

namespace Evolves

variable {root : Path} {f g h : Files}

theorem refl (root : Path) (f : Files) : f.Evolves root f := ⟨rfl, fun _ => .inl rfl⟩

theorem trans (hf : f.Evolves root g) (hg : g.Evolves root h) : f.Evolves root h := by
  refine ⟨hg.current.trans hf.current, fun q => ?_⟩
  have hroot := placeOf_of_current hf.current root
  rcases hg.entry q with he | ⟨hn, hd, n, hup, hq⟩ | ⟨hgd, hhd, n, x, hq, hx⟩
  · rw [he]
    exact hf.entry q
  · rw [hroot] at hq
    rcases hf.entry q with he | ⟨-, hd', -⟩ | ⟨-, -, n', x', hq', -⟩
    · exact .inr (.inl ⟨he ▸ hn, hd, n, hup, hq⟩)
    · cases hn.symm.trans hd'
    · have := congrArg List.length (hq.symm.trans hq')
      simp at this
  · rw [hroot] at hq
    refine .inr (.inr ⟨fun hfd => ?_, hhd, n, x, hq, hx⟩)
    rcases hf.entry q with he | ⟨hn, -⟩ | ⟨hfd', -⟩
    · exact hgd (he.trans hfd)
    · cases hn.symm.trans hfd
    · exact hfd' hfd

theorem dirsKept (he : f.Evolves root g) : f.DirsKept g := by
  refine ⟨he.current, fun q hq => ?_⟩
  rcases he.entry q with h | ⟨-, h, -⟩ | ⟨h, -⟩
  · rw [h, hq]
  · exact h
  · exact absurd hq h

theorem dir_iff (he : f.Evolves root g) {q : Place} (hq : ∀ n, q ≠ f.placeOf root ++ [n]) :
    g.tree.get? q = some .dir ↔ f.tree.get? q = some .dir := by
  refine ⟨fun hg => ?_, he.dirsKept.tree q⟩
  rcases he.entry q with h | ⟨-, -, n, -, h⟩ | ⟨-, h, -⟩
  · rw [← h, hg]
  · exact absurd h (hq n)
  · exact absurd hg h

theorem child (he : f.Evolves root g) (n : String) :
    g.tree.get? (f.placeOf root ++ [n]) = f.tree.get? (f.placeOf root ++ [n]) ∨
    f.tree.get? (f.placeOf root ++ [n]) = none ∧ g.tree.get? (f.placeOf root ++ [n]) = some .dir := by
  rcases he.entry (f.placeOf root ++ [n]) with h | ⟨hn, hd, -⟩ | ⟨-, -, n', x', hq, -⟩
  · exact .inl h
  · exact .inr ⟨hn, hd⟩
  · have := congrArg List.length hq
    simp at this

theorem fits (he : f.Evolves root g) {n x : String} (hf : f.tree.get? (f.placeOf root ++ [n, x]) = none)
    (hg : g.tree.get? (f.placeOf root ++ [n, x]) ≠ none) : ((root.child n).child x).Fits := by
  rcases he.entry (f.placeOf root ++ [n, x]) with h | ⟨-, -, n', -, hq⟩ | ⟨-, -, n', x', hq, hx⟩
  · exact absurd (h.trans hf) hg
  · have := congrArg List.length hq
    simp at this
  · obtain ⟨rfl, rfl⟩ : n = n' ∧ x = x' := by simpa using hq
    exact (hx.resolve_left hg).2.2

theorem proper (he : f.Evolves root g) (hp : f.Proper) (hr : f.isDir root = .ok true) : g.Proper := by
  obtain ⟨-, r, hr, hrd⟩ := isDir_eq_true.mp hr
  have hroot : ".." ∉ f.placeOf root := by
    rw [placeOf_of_place? hr]
    exact hp.names r (by simp [hrd])
  refine ⟨he.current ▸ hp.current, fun q hq => ?_⟩
  rcases he.entry q with h | ⟨-, -, n, hn, rfl⟩ | ⟨-, -, n, x, rfl, hx⟩
  · exact hp.names q (h ▸ hq)
  · simp [hroot, Ne.symm hn]
  · obtain ⟨hn, hx, -⟩ := hx.resolve_left hq
    simp [hroot, Ne.symm hn, Ne.symm hx]

end Evolves

theorem up_not_mem_placeOf {f : Files} (h : ".." ∉ f.current) (p : Path) : ".." ∉ f.placeOf p := by
  have hfold : ∀ (parts : List String) (q : Place), ".." ∉ q → ".." ∉ parts.foldl FileTree.enter q := by
    intro parts
    induction parts with
    | nil => exact fun _ hq => hq
    | cons part rest ih =>
      intro q hq
      refine ih _ ?_
      unfold FileTree.enter
      split
      · exact fun hm => hq (List.dropLast_subset _ hm)
      · next hup => simpa [hq] using fun h => hup (by simp [h])
  refine hfold _ _ ?_
  split
  · simp
  · exact h

theorem Grown.proper {f g : Files} {p : Path} (h : f.Grown p g) (hp : f.Proper) : g.Proper := by
  refine ⟨h.current ▸ hp.current, fun q hq => ?_⟩
  rcases h.entry q with he | ⟨-, -, n, rfl⟩
  · exact hp.names q (he ▸ hq)
  · exact up_not_mem_placeOf hp.current _

theorem ensureDir_of_isDir {f : Files} {p : Path} (hd : f.isDir p = .ok true) : f.ensureDir p = (f, .ok ()) := by
  obtain ⟨hz, q, hq, he⟩ := isDir_eq_true.mp hd
  simp [ensureDir, makeDir, hz, hq, he, fail, excuse, hd]

theorem makeDirs_of_ensureDir {f : Files} {p : Path}
    (h : ∀ path target, (f.ensureDir p).2 ≠ .error (.os .noEntry path target)) : f.makeDirs p = f.ensureDir p := by
  unfold makeDirs
  cases p.parts.length with
  | zero => rfl
  | succ above =>
    unfold makeDirsUp
    split
    · next path target he => exact absurd (congrArg Prod.snd he) (h path target)
    · rfl

theorem makeDirs_of_isDir {f : Files} {p : Path} (hd : f.isDir p = .ok true) : f.makeDirs p = (f, .ok ()) := by
  have he := ensureDir_of_isDir hd
  rw [makeDirs_of_ensureDir (by simp [he]), he]

/-- What keeps an entry of a directory that is there from being made a directory. -/
def obstacle? (f : Files) (p : Path) : Option FileError :=
  if holdsZero p then some .zeroByte
  else if FileTree.pathLimit < p.toString.utf8ByteSize ∨ FileTree.nameLimit < p.name.utf8ByteSize then
    some (.os .nameTooLong p.toString none)
  else match f.tree.get? (f.placeOf p) with
    | some (.file ..) => some (.os .alreadyThere p.toString none)
    | _ => none

/-- `g` is `f` with a directory at a place where none had to make way for it. -/
structure Housed (f : Files) (q : Place) (g : Files) : Prop where
  current : g.current = f.current
  vacant : f.tree.get? q = none ∨ f.tree.get? q = some .dir
  dir : g.tree.get? q = some .dir
  others : ∀ r, r ≠ q → g.tree.get? r = f.tree.get? r

theorem Housed.evolves {f g : Files} {root : Path} {n : String} (h : f.Housed (f.placeOf root ++ [n]) g)
    (hn : n ≠ "..") : f.Evolves root g := by
  refine ⟨h.current, fun q => ?_⟩
  by_cases hq : q = f.placeOf root ++ [n]
  · rcases h.vacant with hf | hf
    · exact .inr (.inl ⟨hq ▸ hf, hq ▸ h.dir, n, hn, hq⟩)
    · rw [hq, hf]
      exact .inl h.dir
  · exact .inl (h.others q hq)

section Child

variable {f : Files} {p : Path} {name : String}

theorem obstacle?_of_isDir (hd : f.isDir p = .ok true) (hc : f.isDir (p.child name) = .ok true) :
    f.obstacle? (p.child name) = none := by
  obtain ⟨hz, q, hq, hqd⟩ := isDir_eq_true.mp hc
  have hl := mt (place?_child_eq_error hd).mpr (by rw [hq]; simp)
  rw [obstacle?, hz, Path.name_child, if_neg hl, placeOf_of_place? hq, hqd]
  rfl

theorem makeDirs_of_obstacle? {e : FileError} (hd : f.isDir p = .ok true) (h : f.obstacle? (p.child name) = some e) :
    f.makeDirs (p.child name) = (f, .error e) := by
  suffices hs : f.ensureDir (p.child name) = (f, .error e) ∧ ∀ path target, e ≠ .os .noEntry path target by
    rw [makeDirs_of_ensureDir (by simpa [hs.1] using hs.2), hs.1]
  unfold obstacle? at h
  cases hz : holdsZero (p.child name) with
  | true =>
    rw [hz] at h
    cases h
    simp [ensureDir, makeDir, excuse, hz]
  | false =>
    rw [hz, Path.name_child] at h
    simp only [Bool.false_eq_true, if_false] at h
    split at h
    · next hl =>
      cases h
      have hp := (place?_child_eq_error hd).mpr hl
      simp [ensureDir, makeDir, excuse, isDir, look, stat, fail, hz, hp, bind, Except.bind]
    · next hl =>
      have hp := (place?_child hd name).trans (if_neg hl)
      split at h
      · next b x he =>
        cases h
        have hb : (Entry.file b x == .dir) = false := beq_eq_false_iff_ne.mpr (by simp)
        simp [ensureDir, makeDir, excuse, isDir, look, stat, fail, hz, hp, he, hb, bind, Except.bind, pure, Except.pure]
      · cases h

theorem makeDirs_of_free (hd : f.isDir p = .ok true) (hn : name ≠ "..") (h : f.obstacle? (p.child name) = none) :
    ∃ g, f.makeDirs (p.child name) = (g, .ok ()) ∧ f.Housed (f.placeOf p ++ [name]) g := by
  unfold obstacle? at h
  cases hz : holdsZero (p.child name) with
  | true =>
    rw [hz] at h
    cases h
  | false =>
    rw [hz, Path.name_child] at h
    simp only [Bool.false_eq_true, if_false] at h
    split at h
    · cases h
    · next hl =>
      have hp := (place?_child hd name).trans (if_neg hl)
      have hplace : f.placeOf (p.child name) = f.placeOf p ++ [name] := placeOf_child f p hn
      rw [hplace] at hp h
      cases he : f.tree.get? (f.placeOf p ++ [name]) with
      | none =>
        obtain ⟨-, q, hq, hqd⟩ := isDir_eq_true.mp hd
        have hroot : f.tree.get? (f.placeOf p) = some .dir := placeOf_of_place? hq ▸ hqd
        have hens : f.ensureDir (p.child name) =
            ({ f with tree := f.tree.put (f.placeOf p ++ [name]) .dir }, .ok ()) := by
          simp [ensureDir, makeDir, hz, hp, he, hroot]
        refine ⟨_, (makeDirs_of_ensureDir (by simp [hens])).trans hens, rfl, .inl he,
          FileTree.get?_put_self _ _ (by simp), fun r hr => FileTree.get?_put _ _ hr⟩
      | some e =>
        cases e with
        | dir =>
          have hc : f.isDir (p.child name) = .ok true := isDir_eq_true.mpr ⟨hz, _, hp, he⟩
          exact ⟨f, makeDirs_of_isDir hc, rfl, .inr he, he, fun _ _ => rfl⟩
        | file b x => simp [he] at h

end Child

end Files

theorem Path.Fits.of_place? {f : Files} {p : Path} {q : Place} (hz : Files.holdsZero p = false) (hn : p.name ≠ "")
    (h : f.place? p = .ok q) : p.Fits := by
  have hp := Path.parts_eq_dropLast_append hn
  obtain ⟨r, hr, hd, -⟩ := Files.enters_of_place? hp h
  rw [Files.place?_of_enters ⟨r, hr, hd⟩ hp] at h
  split at h
  · cases h
  · next hl => exact ⟨hz, by omega, by omega⟩

namespace Outputs

theorem placeOf_stagingPath_child {n : String} (f : Files) (root : Path) (hup : n ≠ "..") (x : String) :
    f.placeOf (stagingPath ((root.child n).child x)) = f.placeOf root ++ [n, stagingName x] := by
  have hparent : ((root.child n).child x).parent = root.child n := by simp [Path.child, Path.parent]
  rw [placeOf_stagingPath, hparent, Path.name_child, Files.placeOf_child f root hup, List.append_assoc]
  rfl

theorem evolves_write {f : Files} {root : Path} {n x : String} (value : Decompiled) (hn : n ≠ "..")
    (hw : ¬ Unwritable ((root.child n).child x)) :
    f.Evolves root (write ((root.child n).child x) value f).1 := by
  have hdir : f.placeOf (root.child n) = f.placeOf root ++ [n] := Files.placeOf_child f root hn
  have hstaging := placeOf_stagingPath_child f root hn x
  cases hr : write ((root.child n).child x) value f with
  | mk g result =>
    cases result with
    | error e =>
      have hu := (write_eq_error hw hr).1
      refine ⟨hu.current, fun q => ?_⟩
      rcases hu.entry q with he | ⟨hq, hf, hg⟩
      · exact .inl he
      · exact .inr (.inr ⟨hf, by simp [hg], n, stagingName x, hq.trans hstaging, .inl hg⟩)
    | ok u =>
      obtain ⟨t, s, -, -, hwr⟩ := write_eq_ok hr
      have hup := hwr.notUp
      rw [Path.name_child] at hup
      have htarget : f.placeOf ((root.child n).child x) = f.placeOf root ++ [n, x] := by
        rw [Files.placeOf_child f _ hup, hdir, List.append_assoc]
        rfl
      refine ⟨hwr.current, fun q => ?_⟩
      by_cases hq : q = f.placeOf ((root.child n).child x)
      · subst hq
        obtain ⟨b, hb⟩ := hwr.content
        exact .inr (.inr ⟨hwr.free, by simp [hb], n, x, htarget,
          .inr ⟨hn, hup, .of_place? hwr.zeroFree hwr.named hwr.reached⟩⟩)
      · by_cases hs : q = f.placeOf (stagingPath ((root.child n).child x))
        · subst hs
          exact .inr (.inr ⟨hwr.stagingFree, by simp [hwr.staging], n, stagingName x, hstaging, .inl hwr.staging⟩)
        · exact .inl (hwr.others q hq hs)

theorem Weeded.evolves {o : Outputs} {f g : Files} {root : Path} {n : String} {keep : List Path} (hn : n ≠ "..")
    (h : o.Weeded (root.child n) keep f g) : f.Evolves root g := by
  refine ⟨h.dirs.kept.current, fun q => (h.entry q).imp_right ?_⟩
  rintro ⟨hg, ⟨b, x, hf⟩, name, -, -, hq, -⟩
  rw [Files.placeOf_child f root hn, List.append_assoc] at hq
  exact .inr ⟨by simp [hf], by simp [hg], n, name, hq, .inl hg⟩

def noting (o : Outputs) (name : String) : Outputs :=
  if (o.made.lookup name).isSome then o else { o with made := (name, o.root.child name) :: o.made }

end Outputs

namespace Work

/-- The work of a run between two modules: its root directory is there, and so are those below it that were made. -/
structure Founded (w : Work) : Prop where
  slashFree : '/' ∉ w.outputs.extension.toList
  proper : w.files.Proper
  root : w.files.isDir w.outputs.root = .ok true
  made : ∀ name dir, w.outputs.made.lookup name = some dir →
    dir = w.outputs.root.child name ∧ w.files.isDir dir = .ok true

section Founded

variable {plan : Plan} {m : ModuleFile} {w v : Work}

theorem Founded.of_evolves (hw : w.Founded) (ho : v.outputs = w.outputs)
    (he : w.files.Evolves w.outputs.root v.files) : v.Founded := by
  refine ⟨ho ▸ hw.slashFree, he.proper hw.proper hw.root, ?_, ?_⟩
  · rw [ho]
    exact Files.isDir_of_dirsKept he.dirsKept hw.root
  · intro name dir hl
    rw [ho] at hl ⊢
    obtain ⟨hd, hdir⟩ := hw.made name dir hl
    exact ⟨hd, Files.isDir_of_dirsKept he.dirsKept hdir⟩

/-- Whether a module gets its directory hangs on nothing but what stands in the way of it. -/
theorem prepare_spec (hw : w.Founded) (hn : Path.IsName m.baseName) :
    (∃ e, w.files.obstacle? (w.outputs.root.child m.baseName) = some e ∧ (w.prepare m).2 = .error e ∧
      (w.prepare m).1.files = w.files ∧ (w.prepare m).1.outputs = w.outputs) ∨
    (w.files.obstacle? (w.outputs.root.child m.baseName) = none ∧
      (w.prepare m).2 = .ok (w.outputs.root.child m.baseName) ∧
      w.files.Housed (w.files.placeOf w.outputs.root ++ [m.baseName]) (w.prepare m).1.files ∧
      (w.prepare m).1.outputs = w.outputs.noting m.baseName) := by
  unfold prepare Outputs.ensureModuleDir
  cases hl : w.outputs.made.lookup m.baseName with
  | some dir =>
    obtain ⟨rfl, hdir⟩ := hw.made _ _ hl
    obtain ⟨-, q, hq, hqd⟩ := Files.isDir_eq_true.mp hdir
    have hplace := (Files.placeOf_child w.files w.outputs.root hn.notUp).symm.trans (Files.placeOf_of_place? hq)
    right
    refine ⟨Files.obstacle?_of_isDir hw.root hdir, rfl, ⟨rfl, .inr ?_, ?_, fun _ _ => rfl⟩, ?_⟩
    · rw [hplace, hqd]
    · exact (congrArg _ hplace).trans hqd
    · simp [Outputs.noting, hl]
  | none =>
    simp only [Path.join_ofString hn]
    cases ho : w.files.obstacle? (w.outputs.root.child m.baseName) with
    | some e =>
      left
      simp [Files.makeDirs_of_obstacle? hw.root ho]
    | none =>
      right
      obtain ⟨g, hg, hh⟩ := Files.makeDirs_of_free hw.root hn.notUp ho
      simp only [hg]
      exact ⟨trivial, trivial, hh, by simp [Outputs.noting, hl]⟩

theorem founded_of_prepare (hw : w.Founded) (hn : Path.IsName m.baseName) :
    (w.prepare m).1.Founded ∧ w.files.Evolves w.outputs.root (w.prepare m).1.files := by
  obtain ⟨-, hmade, hdir⟩ := Outputs.ensureModuleDir_made m.baseName fun name dir h => (hw.made name dir h).2
  rcases prepare_spec hw hn with ⟨e, -, -, hf, ho⟩ | ⟨-, hd, hh, ho⟩
  · exact ⟨hw.of_evolves ho (hf ▸ .refl _ _), hf ▸ .refl _ _⟩
  · have he := hh.evolves hn.notUp
    obtain ⟨made, hout⟩ := outputs_of_prepare m w
    have hroot : (w.prepare m).1.outputs.root = w.outputs.root := by rw [hout]
    have hslash : '/' ∉ (w.prepare m).1.outputs.extension.toList := by
      rw [hout]
      exact hw.slashFree
    refine ⟨⟨hslash, he.proper hw.proper hw.root, ?_, fun name dir hl => ⟨?_, hmade name dir hl⟩⟩, he⟩
    · rw [hroot]
      exact Files.isDir_of_dirsKept he.dirsKept hw.root
    · rw [hroot]
      rw [ho] at hl
      unfold Outputs.noting at hl
      split at hl
      · exact (hw.made name dir hl).1
      · rw [List.lookup_cons] at hl
        split at hl
        · next heq =>
          cases hl
          rw [eq_of_beq heq]
        · exact (hw.made name dir hl).1

end Founded

end Work

/-- The file of a type is not the directory of its module, as it is without an extension if a name is a dot. -/
def TypeDescriptor.Filed (extension : String) (d : TypeDescriptor) : Prop :=
  extension = "" → d.name ≠ "." ∧ d.fullName ≠ "."

/-- The types that are listed for a module have files in its directory. -/
def Engine.Filed (e : Engine) (extension : String) (module : Path) : Prop :=
  ∀ history files types, e.listTypes history files module = .ok types → ∀ d ∈ types, d.Filed extension

namespace Progress

theorem target?_eq_child {p : Progress} {dir path : Path} {d : TypeDescriptor} {renamed : Bool}
    (hx : '/' ∉ p.work.outputs.extension.toList) (hd : d.Filed p.work.outputs.extension) (hn : d.name ≠ "")
    (h : p.target? dir d = some (path, renamed)) : ∃ x, path = dir.child x := by
  obtain ⟨name, hname, hne, hpath⟩ := name_of_target? hn h
  refine ⟨_, hpath.trans (Outputs.pathFor_eq_child hx dir hne fun he => ?_)⟩
  obtain ⟨h1, h2⟩ := hd he
  rcases hname with rfl | rfl <;> assumption

theorem evolves_of_step {plan : Plan} {module root : Path} {n : String} {p q : Progress} {d : TypeDescriptor}
    {a : Option Path} {r : TypeResult} (hx : '/' ∉ p.work.outputs.extension.toList)
    (hd : d.Filed p.work.outputs.extension) (hn : n ≠ "..") (h : TypeStep plan module (root.child n) p d a q (.ok r)) :
    p.work.files.Evolves root q.work.files := by
  have hr := result_of_step h
  rw [files_eq_of_step h]
  rcases resultOf_cases plan d (p.target? (root.child n) d) (p.answer plan module d) with
    ⟨_, -, hf⟩ | ⟨path, renamed, value, hname, ht, hres, hf⟩
  · rw [hf]
    exact .refl _ _
  · rw [hres] at hr
    have hw := writable_of_ofWrite hr
    obtain ⟨x, rfl⟩ := target?_eq_child hx hd hname ht
    rw [hf]
    exact Outputs.evolves_write value hn hw

theorem evolves_of_process {plan : Plan} {m : ModuleFile} {l : Listing} {root : Path} {n : String} {p : Progress}
    (hx : '/' ∉ l.work.outputs.extension.toList) (hfiled : ∀ d ∈ l.types, d.Filed l.work.outputs.extension)
    (hn : n ≠ "..") (hd : l.dir = root.child n) (h : l.process plan m = (p, .ok ())) :
    p.work.outputs = l.work.outputs ∧ l.work.files.Evolves root p.work.files := by
  refine Listing.process_induction (I := fun done _ p => (∀ d ∈ done, d.Filed l.work.outputs.extension) →
    p.work.outputs = l.work.outputs ∧ l.work.files.Evolves root p.work.files) ?_ h (fun _ => ⟨rfl, .refl _ _⟩) hfiled
  intro done _ p d a q r ih hs hdone
  obtain ⟨ho, hev⟩ := ih fun d' hd' => hdone d' (by simp [hd'])
  rw [hd] at hs
  have hstep : p.work.files.Evolves root q.work.files :=
    evolves_of_step (ho ▸ hx) (ho ▸ hdone d (by simp)) hn hs
  exact ⟨(outputs_of_step hs).trans ho, hev.trans hstep⟩

end Progress

namespace Work

section Founded

variable {plan : Plan} {m : ModuleFile} {w v : Work}

theorem outputs_of_processModule {o : ModuleOutcome} (h : (w.processModule plan m).2 = .ok o) :
    ∃ made, (w.processModule plan m).1.outputs = { w.outputs with made } := by
  have hs := processModule_step plan m w
  rw [h] at hs
  generalize (w.processModule plan m).1 = v at hs ⊢
  cases hs with
  | passed v o hl hm hs hrep hv =>
    rcases hv with ⟨-, ho⟩ | ⟨-, ho⟩
    · exact ⟨w.outputs.made, ho⟩
    · rw [ho]
      exact outputs_of_prepare m w
  | completed l p v hl hp hv =>
    have hvo : v.outputs = p.work.outputs := (prune_eq_ok hv).1
    have hpo : p.work.outputs = l.work.outputs :=
      Listing.process_induction (I := fun _ _ p => p.work.outputs = l.work.outputs)
        (fun _ _ _ _ _ _ _ ho hs => (Progress.outputs_of_step hs).trans ho) hp rfl
    obtain ⟨made, ho⟩ := outputs_of_listing? hl
    exact ⟨made, hvo.trans (hpo.trans ho)⟩

theorem evolves_of_prune {dir : Path} {n : String} {written : List Path} (hw : w.Founded) (hn : n ≠ "..")
    (hd : dir = w.outputs.root.child n) (hdir : w.files.isDir dir = .ok true)
    (h : w.prune plan dir written = (v, .ok ())) : w.files.Evolves w.outputs.root v.files := by
  obtain ⟨-, ⟨-, hf⟩ | ⟨-, told, removed, hp⟩⟩ := prune_eq_ok h
  · rw [hf]
    exact .refl _ _
  · have hweed := Outputs.weeded_of_pruneStale hw.slashFree (.inl hw.proper) hdir hp
    rw [hd] at hweed
    exact hweed.evolves hn

theorem founded_of_listing? {l : Listing} (hw : w.Founded) (hn : Path.IsName m.baseName)
    (hl : w.listing? plan m = some l) : l.work.Founded ∧ w.files.Evolves w.outputs.root l.work.files ∧
      l.dir = w.outputs.root.child m.baseName ∧ l.work.files.isDir l.dir = .ok true := by
  obtain ⟨hd, hf, ho⟩ := prepared_of_listing? hl
  obtain ⟨hpf, hpe⟩ := founded_of_prepare hw hn
  have hdir := (Outputs.ensureModuleDir_made m.baseName fun name dir h => (hw.made name dir h).2).2.2 l.dir hd
  refine ⟨hpf.of_evolves ho (hf ▸ .refl _ _), hf ▸ hpe, ?_, hf ▸ hdir⟩
  rcases prepare_spec hw hn with ⟨e, -, hp, -⟩ | ⟨-, hp, -⟩
  · cases hp.symm.trans hd
  · exact (Except.ok.inj (hp.symm.trans hd)).symm

theorem founded_of_processModule {o : ModuleOutcome} (hw : w.Founded) (hn : Path.IsName m.baseName)
    (hfiled : plan.engine.Filed w.outputs.extension m.path) (h : (w.processModule plan m).2 = .ok o) :
    (w.processModule plan m).1.Founded ∧ w.files.Evolves w.outputs.root (w.processModule plan m).1.files := by
  have hs := processModule_step plan m w
  rw [h] at hs
  generalize (w.processModule plan m).1 = v at hs ⊢
  cases hs with
  | passed v o hl hm hs hrep hv =>
    rcases hv with ⟨hf, ho⟩ | ⟨hf, ho⟩
    · exact ⟨hw.of_evolves ho (hf ▸ .refl _ _), hf ▸ .refl _ _⟩
    · obtain ⟨hpf, hpe⟩ := founded_of_prepare hw hn
      exact ⟨hpf.of_evolves ho (hf ▸ .refl _ _), hf ▸ hpe⟩
  | completed l p v hl hp hv =>
    obtain ⟨hlf, hle, hd, hdir⟩ := founded_of_listing? hw hn hl
    obtain ⟨made, hout⟩ := outputs_of_listing? hl
    obtain ⟨history, files, htypes⟩ := listed_of_listing? hl
    have hroot : l.work.outputs.root = w.outputs.root := by rw [hout]
    have hfiled' : ∀ d ∈ l.types, d.Filed l.work.outputs.extension := by
      rw [hout]
      exact hfiled history files l.types htypes
    rw [← hroot] at hle hd ⊢
    obtain ⟨hpo, hpe⟩ := Progress.evolves_of_process hlf.slashFree hfiled' hn.notUp hd hp
    have hpf : (p.work.close plan m.path).Founded := hlf.of_evolves hpo hpe
    have hpd : l.dir = (p.work.close plan m.path).outputs.root.child m.baseName := hd.trans (by rw [← hpo]; rfl)
    have hve : p.work.files.Evolves p.work.outputs.root v.files :=
      evolves_of_prune (w := p.work.close plan m.path) hpf hn.notUp hpd (Files.isDir_of_dirsKept hpe.dirsKept hdir) hv
    have hvo : v.outputs = p.work.outputs := (prune_eq_ok hv).1
    refine ⟨hpf.of_evolves hvo hve, ?_⟩
    rw [hpo] at hve
    exact hle.trans (hpe.trans hve)

seal processModule in
theorem evolves_of_processModules {modules : List ModuleFile} {outcomes : List ModuleOutcome} (hw : w.Founded)
    (hn : ∀ m ∈ modules, Path.IsName m.baseName)
    (hfiled : ∀ m ∈ modules, plan.engine.Filed w.outputs.extension m.path)
    (h : (w.processModules plan modules).2 = .ok outcomes) :
    w.files.Evolves w.outputs.root (w.processModules plan modules).1.files := by
  induction modules generalizing w outcomes with
  | nil => exact .refl _ _
  | cons m rest ih =>
    obtain ⟨hnm, hnrest⟩ := List.forall_mem_cons.mp hn
    obtain ⟨hfm, hfrest⟩ := List.forall_mem_cons.mp hfiled
    obtain ⟨o, outcomes', ho, -, hr, hlast⟩ := processModules_eq_ok h
    obtain ⟨hvf, hve⟩ := founded_of_processModule hw hnm hfm ho
    obtain ⟨made, hout⟩ := outputs_of_processModule ho
    rw [hlast]
    have hrest := ih hvf hnrest (by rw [hout]; exact hfrest) hr
    rw [hout] at hrest
    exact hve.trans hrest

end Founded

end Work

end Winnow
