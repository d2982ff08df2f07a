import Winnow.Log
import Winnow.Proofs.Files

/-!
What the console shows and what a log file holds. A call that configures the log leaves one handler for the console and
at most one for a file, whatever handlers there were, also when the file cannot be opened. From there on each record
goes to either by its level alone: the console does not ask whether there is a file, nor the file how much the user
wants to read.
-/
set_option autoImplicit false

namespace Winnow

namespace Files

/-- The two have the same files, apart from a place. -/
def SameFiles (apart : Option Place) (f g : Files) : Prop :=
  ∀ q, apart ≠ some q → ∀ bytes executable,
    g.tree.get? q = some (.file bytes executable) ↔ f.tree.get? q = some (.file bytes executable)

section SameFiles

variable {apart : Option Place} {f g h : Files} {p : Path} {place : Place} {e : Entry}

theorem SameFiles.refl (apart : Option Place) (f : Files) : SameFiles apart f f := fun _ _ _ _ => Iff.rfl

theorem SameFiles.trans (hf : SameFiles apart f g) (hg : SameFiles apart g h) : SameFiles apart f h :=
  fun q hq bytes executable => (hg q hq bytes executable).trans (hf q hq bytes executable)

theorem SameFiles.weaken (hf : SameFiles none f g) (apart : Option Place) : SameFiles apart f g :=
  fun q _ bytes executable => hf q (by simp) bytes executable

theorem sameFiles_put (f : Files) (place : Place) (e : Entry) :
    SameFiles (some place) f { f with tree := f.tree.put place e } := by
  intro q hq bytes executable
  rw [FileTree.get?_put _ _ fun heq => hq (congrArg some heq.symm)]

theorem Grown.sameFiles (hg : f.Grown p g) : SameFiles none f g := by
  intro q _ bytes executable
  rcases hg.entry q with he | ⟨hn, hd, -⟩
  · rw [he]
  · simp [hn, hd]

theorem dirsKept_put (hn : f.tree.get? place ≠ some .dir) :
    f.DirsKept { f with tree := f.tree.put place e } := by
  refine ⟨rfl, fun q hq => ?_⟩
  have hne : q ≠ place := by
    rintro rfl
    exact hn hq
  exact (FileTree.get?_put _ _ hne).trans hq

end SameFiles

end Files

namespace Log
open Files

theorem debug_passes (v : Verbosity) {l : Level} (h : v.level.passes l = true) : Level.debug.passes l = true := by
  have hv : Level.debug.value ≤ v.level.value := by
    unfold Verbosity.level
    split
    · exact Nat.le_refl _
    · split <;> decide
  simp only [Level.passes, decide_eq_true_eq] at h ⊢
  exact Nat.le_trans hv h

/-! Files that take records. -/

/-- That the file of a sink holds what the sink has taken. -/
def Sink.Kept (sink : Sink) (f : Files) : Prop :=
  ∃ executable, f.tree.get? sink.place = some (.file sink.taken executable)

/-- That a sink takes a text, and nothing else becomes of the files. -/
structure Took (text : String) (sink : Sink) (f : Files) (sink' : Sink) (g : Files) : Prop where
  place : sink'.place = sink.place
  taken : sink'.taken = sink.taken ++ text.toUTF8
  kept : sink'.Kept g
  dirs : f.DirsKept g
  others : SameFiles (some sink.place) f g

section Took

variable {text more : String} {sink sink' sink'' : Sink} {f g h : Files}

theorem Took.nothing (hk : sink.Kept f) : Took "" sink f sink f where
  place := rfl
  taken := by rw [String.toUTF8_eq_toByteArray, String.toByteArray_empty, ByteArray.append_empty]
  kept := hk
  dirs := .refl f
  others := .refl _ f

theorem Took.trans (ha : Took text sink f sink' g) (hb : Took more sink' g sink'' h) :
    Took (text ++ more) sink f sink'' h where
  place := hb.place.trans ha.place
  taken := by
    simp only [hb.taken, ha.taken, String.toUTF8_eq_toByteArray, String.toByteArray_append, ByteArray.append_assoc]
  kept := hb.kept
  dirs := ha.dirs.trans hb.dirs
  others := ha.others.trans (ha.place ▸ hb.others)

theorem took_add (hk : sink.Kept f) (text : String) : Took text sink f (sink.add text f).1 (sink.add text f).2 := by
  obtain ⟨executable, he⟩ := hk
  have hne : sink.place ≠ [] := by
    intro hnil
    rw [hnil] at he
    cases he
  have hadd : sink.add text f = (⟨sink.place, sink.taken ++ text.toUTF8⟩,
      { f with tree := f.tree.put sink.place (.file (sink.taken ++ text.toUTF8) executable) }) := by
    have hsame : (sink.taken == sink.taken) = true := beq_self_eq_true sink.taken.data
    simp [Sink.add, he, hsame, fill]
  rw [hadd]
  exact ⟨rfl, rfl, ⟨executable, FileTree.get?_put_self _ _ hne⟩, dirsKept_put (by simp [he]), sameFiles_put f _ _⟩

end Took

/-- A log file that has just been opened: it is empty, and a path leads to it. -/
structure Opened (f : Files) (p : Path) (sink : Sink) (g : Files) : Prop where
  place : sink.place = f.placeOf (plainPath f p)
  taken : sink.taken = .empty
  kept : sink.Kept g
  named : holdsZero (plainPath f p) = false
  reached : g.place? (plainPath f p) = .ok sink.place
  others : SameFiles (some sink.place) f g

theorem plainPath_of_current {f g : Files} (h : g.current = f.current) (p : Path) : plainPath g p = plainPath f p := by
  simp [plainPath, h]

theorem opened_of_openSink {f g : Files} {p : Path} {sink : Sink} (h : openSink f p = (g, .ok sink)) :
    Opened f p sink g := by
  have hgrown := makeDirs_grown f p.parent
  unfold openSink at h
  split at h
  · cases h
  · next k hk =>
    rw [hk] at hgrown
    have hpath : plainPath k p = plainPath f p := plainPath_of_current hgrown.current p
    rw [hpath] at h
    split at h
    · next g' place ho =>
      cases h
      obtain ⟨hplace, hdir, executable, rfl⟩ := openNew_eq_ok ho
      have hne : place ≠ [] := by
        rintro rfl
        exact hdir rfl
      have hz : holdsZero (plainPath f p) = false := by
        rw [Bool.eq_false_iff]
        intro hz
        cases (openNew_of_holdsZero k hz).symm.trans ho
      exact {
        place := (placeOf_of_place? hplace).symm.trans (placeOf_of_current hgrown.current _)
        taken := rfl
        kept := ⟨executable, FileTree.get?_put_self _ _ hne⟩
        named := hz
        reached := place?_of_dirsKept (dirsKept_put hdir) hplace
        others := (hgrown.sameFiles.weaken _).trans (sameFiles_put k _ _) }
    · cases h

theorem sameFiles_of_openSink {f g : Files} {p : Path} {e : FileError} (h : openSink f p = (g, .error e)) :
    SameFiles none f g := by
  have hgrown := makeDirs_grown f p.parent
  unfold openSink at h
  split at h
  · next k e' hk =>
    cases h
    rw [hk] at hgrown
    exact hgrown.sameFiles
  · next k hk =>
    rw [hk] at hgrown
    split at h
    · cases h
    · cases h
      exact hgrown.sameFiles

/-! What a call leaves, and what one record does from there. -/

def handlersOf (v : Verbosity) (sink : Option Sink) : List Handler :=
  ⟨v.level, .console⟩ :: sink.toList.map fun sink => ⟨.debug, .file sink⟩

/-- That a log has the handlers of one call and no others. Its own level keeps nothing from them. -/
structure Configured (v : Verbosity) (sink : Option Sink) (s : State) : Prop where
  handlers : s.handlers = handlersOf v sink
  console : ∀ l, v.level.passes l = true → s.level.passes l = true
  file : sink ≠ none → s.level = .debug

theorem configured_of_configure {s s' : State} {v : Verbosity} {logFile : Option Path} {f g : Files}
    {result : Except FileError Unit} (h : s.configure v logFile f = (s', g, result)) :
    (∃ p sink, logFile = some p ∧ result = .ok () ∧ Configured v (some sink) s' ∧ Opened f p sink g) ∨
      ((logFile = none ∨ ∃ e, result = .error e) ∧ Configured v none s' ∧ SameFiles none f g) := by
  cases logFile with
  | none =>
    cases h
    exact .inr ⟨.inl rfl, ⟨rfl, fun _ hl => hl, nofun⟩, .refl _ f⟩
  | some p =>
    cases ho : openSink f p with
    | mk k opened =>
      simp only [State.configure, Option.map_some, ho] at h
      cases opened with
      | ok sink =>
        cases h
        exact .inl ⟨p, sink, rfl, rfl, ⟨rfl, fun _ hl => debug_passes v hl, fun _ => rfl⟩, opened_of_openSink ho⟩
      | error e =>
        cases h
        exact .inr ⟨.inr ⟨e, rfl⟩, ⟨rfl, fun _ hl => debug_passes v hl, nofun⟩, sameFiles_of_openSink ho⟩

def takeRecord (stamp : String) (r : Record) : Option Sink → Files → Option Sink × Files
  | none, f => (none, f)
  | some sink, f =>
    if Level.debug.passes r.level then
      let (sink, f) := sink.add (fileLine stamp r) f
      (some sink, f)
    else (some sink, f)

section Step

variable {s : State} {v : Verbosity} {sink : Option Sink}

/-- One record, handler by handler: neither outlet sees what the other does with it. -/
theorem Configured.log_eq (hs : Configured v sink s) (stamp : String) (r : Record) (f : Files) :
    s.log stamp r f = ({ s with handlers := handlersOf v (takeRecord stamp r sink f).1 },
      (takeRecord stamp r sink f).2, if v.level.passes r.level then consoleLine r else "") := by
  unfold State.log
  cases hp : s.level.passes r.level with
  | false =>
    have hconsole : v.level.passes r.level = false := by
      rw [Bool.eq_false_iff]
      intro hl
      exact Bool.false_ne_true (hp.symm.trans (hs.console _ hl))
    have hfile : takeRecord stamp r sink f = (sink, f) := by
      cases sink with
      | none => rfl
      | some sink => simp [takeRecord, ← hs.file (by simp), hp]
    simp [hconsole, hfile, ← hs.handlers]
  | true =>
    rw [hs.handlers]
    cases sink with
    | none => cases hv : v.level.passes r.level <;> simp [handlersOf, offerAll, Handler.offer, takeRecord, hv]
    | some sink =>
      cases hv : v.level.passes r.level <;> cases hd : Level.debug.passes r.level <;>
        simp [handlersOf, offerAll, Handler.offer, takeRecord, hv, hd]

theorem Configured.log (hs : Configured v sink s) (stamp : String) (r : Record) (f : Files) :
    Configured v (takeRecord stamp r sink f).1 (s.log stamp r f).1 := by
  rw [hs.log_eq]
  refine ⟨rfl, hs.console, fun hsink => hs.file ?_⟩
  rintro rfl
  exact hsink rfl

def fileText (stamp : String) (r : Record) : String := if Level.debug.passes r.level then fileLine stamp r else ""

theorem took_record {sink : Sink} {f : Files} (hk : sink.Kept f) (stamp : String) (r : Record) :
    ∃ sink', (takeRecord stamp r (some sink) f).1 = some sink' ∧
      Took (fileText stamp r) sink f sink' (takeRecord stamp r (some sink) f).2 := by
  cases hd : Level.debug.passes r.level with
  | false => exact ⟨sink, by simp [takeRecord, hd], by simpa [takeRecord, fileText, hd] using Took.nothing hk⟩
  | true =>
    have ht := took_add hk (fileLine stamp r)
    exact ⟨(sink.add (fileLine stamp r) f).1, by simp [takeRecord, hd], by simpa [takeRecord, fileText, hd] using ht⟩

end Step

/-! Runs. -/

def consoleTextOf (v : Verbosity) (told : List (String × Record)) : String :=
  String.join ((told.filter fun t => v.level.passes t.2.level).map fun t => consoleLine t.2)

def fileTextOf (told : List (String × Record)) : String :=
  String.join ((told.filter fun t => Level.debug.passes t.2.level).map fun t => fileLine t.1 t.2)

theorem consoleTextOf_cons (v : Verbosity) (t : String × Record) (told : List (String × Record)) :
    consoleTextOf v (t :: told) =
      (if v.level.passes t.2.level then consoleLine t.2 else "") ++ consoleTextOf v told := by
  cases hv : v.level.passes t.2.level <;> simp [consoleTextOf, hv]

theorem fileTextOf_cons (t : String × Record) (told : List (String × Record)) :
    fileTextOf (t :: told) = fileText t.1 t.2 ++ fileTextOf told := by
  cases hd : Level.debug.passes t.2.level <;> simp [fileTextOf, fileText, hd]

/-- What can happen to a log. -/
inductive Event
  | configure (v : Verbosity) (logFile : Option Path)
  | tell (stamp : String) (r : Record)

structure Session where
  state : State
  files : Files
  shown : String

namespace Session

def start (f : Files) : Session := ⟨{}, f, ""⟩

def step (s : Session) : Event → Session
  | .configure v logFile =>
    let (state, files, _) := s.state.configure v logFile s.files
    { s with state, files }
  | .tell stamp r =>
    let (state, files, more) := s.state.log stamp r s.files
    ⟨state, files, s.shown ++ more⟩

def run (s : Session) (events : List Event) : Session := events.foldl step s

def tellAll (s : Session) (told : List (String × Record)) : Session := s.run (told.map fun t => .tell t.1 t.2)

section TellAll

variable {s : Session} {v : Verbosity}

theorem tellAll_cons (s : Session) (t : String × Record) (told : List (String × Record)) :
    s.tellAll (t :: told) = (s.step (.tell t.1 t.2)).tellAll told := rfl

theorem shown_tellAll {sink : Option Sink} (hs : Configured v sink s.state) (told : List (String × Record)) :
    (s.tellAll told).shown = s.shown ++ consoleTextOf v told := by
  induction told generalizing s sink with
  | nil => simp [tellAll, run, consoleTextOf]
  | cons t told ih =>
    have hnext : Configured v _ (s.step (.tell t.1 t.2)).state := hs.log t.1 t.2 s.files
    have hshown : (s.step (.tell t.1 t.2)).shown =
        s.shown ++ if v.level.passes t.2.level then consoleLine t.2 else "" := by
      simp [step, hs.log_eq]
    rw [tellAll_cons, ih hnext, hshown, consoleTextOf_cons, String.append_assoc]

theorem files_tellAll_none (hs : Configured v none s.state) (told : List (String × Record)) :
    (s.tellAll told).files = s.files := by
  induction told generalizing s with
  | nil => rfl
  | cons t told ih =>
    have hnext : Configured v none (s.step (.tell t.1 t.2)).state := hs.log t.1 t.2 s.files
    have hfiles : (s.step (.tell t.1 t.2)).files = s.files := by
      simp [step, hs.log_eq, takeRecord]
    rw [tellAll_cons, ih hnext, hfiles]

theorem took_tellAll {sink : Sink} (hs : Configured v (some sink) s.state) (hk : sink.Kept s.files)
    (told : List (String × Record)) :
    ∃ sink', Took (fileTextOf told) sink s.files sink' (s.tellAll told).files := by
  induction told generalizing s sink with
  | nil => exact ⟨sink, .nothing hk⟩
  | cons t told ih =>
    obtain ⟨next, hnext, htook⟩ := took_record hk t.1 t.2
    have hconf : Configured v (some next) (s.step (.tell t.1 t.2)).state := hnext ▸ hs.log t.1 t.2 s.files
    have hfiles : (s.step (.tell t.1 t.2)).files = (takeRecord t.1 t.2 (some sink) s.files).2 := by
      simp [step, hs.log_eq]
    rw [← hfiles] at htook
    obtain ⟨sink', hmore⟩ := ih hconf htook.kept
    rw [tellAll_cons, fileTextOf_cons]
    exact ⟨sink', htook.trans hmore⟩

end TellAll

end Session

theorem readFile_of_opened {f g h : Files} {p : Path} {sink sink' : Sink} {text : String} (ho : Opened f p sink g)
    (ht : Took text sink g sink' h) : h.readFile (plainPath f p) = .ok text.toUTF8 := by
  obtain ⟨executable, he⟩ := ht.kept
  rw [ht.taken, ho.taken, ByteArray.empty_append] at he
  exact readFile_eq_ok.mpr ⟨ho.named, sink'.place, executable, ht.place ▸ place?_of_dirsKept ht.dirs ho.reached, he⟩

/-- What is shown and what is held after any calls and records. The console has shown the records since the last call
that are serious enough for it, whether or not the call named a file and could open it; a file that it opened holds
all of them from debug on, whatever the user wants to read; and no other file has changed. -/
theorem sinks_of_last_call (f : Files) (earlier : List Event) (v : Verbosity) (logFile : Option Path)
    (told : List (String × Record)) :
    let before := (Session.start f).run earlier
    let after := (before.step (.configure v logFile)).tellAll told
    after.shown = before.shown ++ consoleTextOf v told ∧
      match logFile, (before.state.configure v logFile before.files).2.2 with
      | some p, .ok () =>
        after.files.readFile (plainPath before.files p) = .ok (fileTextOf told).toUTF8 ∧
          SameFiles (some (before.files.placeOf (plainPath before.files p))) before.files after.files
      | _, _ => SameFiles none before.files after.files := by
  intro before after
  cases hc : before.state.configure v logFile before.files with
  | mk s' rest =>
    obtain ⟨g, result⟩ := rest
    have hafter : after = (⟨s', g, before.shown⟩ : Session).tellAll told := by
      simp only [after, Session.step, hc]
    have hshown {sink : Option Sink} (hs : Configured v sink s') :
        after.shown = before.shown ++ consoleTextOf v told := by
      rw [hafter, Session.shown_tellAll hs]
    rcases configured_of_configure hc with ⟨p, sink, rfl, rfl, hs, ho⟩ | ⟨hnone, hs, hsame⟩
    · obtain ⟨sink', ht⟩ := Session.took_tellAll (s := ⟨s', g, before.shown⟩) hs ho.kept told
      rw [← hafter] at ht
      exact ⟨hshown hs, readFile_of_opened ho ht, ho.place ▸ ho.others.trans ht.others⟩
    · have hfiles : after.files = g := by rw [hafter, Session.files_tellAll_none hs]
      refine ⟨hshown hs, ?_⟩
      rcases hnone with rfl | ⟨e, rfl⟩
      · exact hfiles ▸ hsame
      · cases logFile <;> exact hfiles ▸ hsame

example :
    let file : Option Path := some ⟨0, ["logs", "run.log"]⟩
    let s := (Session.start ⟨⟨[]⟩, []⟩).run [.configure {} file, .tell "1" ⟨.info, "cli", "first"⟩,
      .configure { quiet := true } file, .tell "2" ⟨.debug, "pipeline", "second"⟩, .tell "3" ⟨.warning, "", "third"⟩]
    s.shown = "[typesift] INFO first\n[typesift] WARNING third\n" ∧
      s.files.readFile ⟨1, ["logs", "run.log"]⟩ =
        .ok "2 DEBUG typesift.pipeline: second\n3 WARNING typesift: third\n".toUTF8 :=
  ⟨by decide +kernel, by rfl⟩

end Log
end Winnow
