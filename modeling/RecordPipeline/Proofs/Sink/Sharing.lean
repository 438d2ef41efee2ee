import RecordPipeline.Proofs.Sink.Sparing

/-!
Sinks that share a directory. Each does one thing at a time, and what one does may come between any
two things that another does. A file is safe as long as no sink has its name in use and no sink
looks for a name before its directory is there. But two sinks may find the same name free, and the
second of them to finish replaces the file of the first.
-/

namespace RecordPipeline

/-- Sinks that share their files, and what they have announced. -/
structure SharedFiles (ι : Type) where
  sinks : ι → FileSink
  files : FileSystem
  announced : List UploadRequest := []

namespace SharedFiles

open FileSink

variable {ι : Type} [DecidableEq ι] {d : SharedFiles ι}

/-- Lets an event happen to one of the sinks. -/
def act (d : SharedFiles ι) (e : ι × Event) : SharedFiles ι :=
  let next := (d.sinks e.1).act d.files e.2
  { sinks := Function.update d.sinks e.1 next.1
    files := next.2.1
    announced := d.announced ++ next.2.2.toList }

theorem sinks_act_self (d : SharedFiles ι) (i : ι) (event : Event) :
    (d.act (i, event)).sinks i = ((d.sinks i).act d.files event).1 := Function.update_self ..

theorem sinks_act_of_ne {i k : ι} (other : i ≠ k) (d : SharedFiles ι) (event : Event) :
    (d.act (k, event)).sinks i = d.sinks i := Function.update_of_ne other ..

/-- Lets events happen in the order given. -/
def run (d : SharedFiles ι) (events : List (ι × Event)) : SharedFiles ι := events.foldl act d

/-- Whenever a sink looks for a free name, the directory of its files is there. -/
def Sighted (d : SharedFiles ι) : List (ι × Event) → Prop
  | [] => True
  | e :: rest => (d.sinks e.1).Sees d.files e.2 ∧ Sighted (d.act e) rest

theorem sighted_append (d : SharedFiles ι) (earlier later : List (ι × Event)) :
    d.Sighted (earlier ++ later) ↔ d.Sighted earlier ∧ (d.run earlier).Sighted later := by
  induction earlier generalizing d with
  | nil => exact (true_and _).to_iff.symm
  | cons e rest ih =>
      rw [List.cons_append, Sighted, Sighted, ih, and_assoc]
      rfl

/-- What is known of sinks that share their files: each has the file that it writes, and no other
has to do with it. -/
structure Orderly (d : SharedFiles ι) : Prop where
  proper : ∀ i, (d.sinks i).Proper
  hasPart : ∀ i, (d.sinks i).HasPart d.files
  apart : ∀ i j, i ≠ j → ∀ file p, (d.sinks j).held? = some file →
    d.files.locate file.partPath = .ok p → (d.sinks i).Spares d.files p

omit [DecidableEq ι] in
/-- What a sink newly writes, no other has to do with. -/
theorem Orderly.spares_new (h : d.Orderly) {i : ι} {s : FileSink} {file : OpenFile} {p : Place}
    {fs : FileSystem} (proper : s.Proper) (held : s.held? = some file)
    (located : fs.locate file.partPath = .ok p) (nothing : d.files.get? p = none) :
    (d.sinks i).Spares d.files p := by
  obtain ⟨number, _, part⟩ := proper.held file held
  rw [part] at located
  intro path used fs' keeps found
  cases used with
  | looked task =>
      obtain ⟨other, rfl⟩ := (h.proper i).looked _ _ task
      exact final_ne_part found located
  | @final old isHeld =>
      obtain ⟨other, final, _⟩ := (h.proper i).held old isHeld
      exact final_ne_part (final ▸ found) located
  | @part old isHeld =>
      obtain ⟨q, content, modified, found', there⟩ := h.hasPart i old isHeld
      cases found.symm.trans (FileSystem.locate_of_keeps keeps found')
      rw [nothing] at there
      cases there

section Act

variable (h : d.Orderly) {k : ι} {event : Event} (sees : (d.sinks k).Sees d.files event)

include h sees

/-- The sink that acts does so on the files of all. -/
theorem Orderly.behaves :
    (d.sinks k).Behaves d.files ((d.act (k, event)).sinks k) (d.act (k, event)).files := by
  rw [sinks_act_self]
  exact behaves_act (h.proper k) (h.hasPart k) sees

/-- Whoever acts, what a sink spares it spares further on. -/
theorem Orderly.spares_act {q : Place} {content : Bytes} {modified : Option Nat}
    (there : d.files.get? q = some (.file content modified)) {i : ι}
    (spared : (d.sinks i).Spares d.files q) :
    ((d.act (k, event)).sinks i).Spares (d.act (k, event)).files q := by
  have behaves := h.behaves sees
  by_cases acts : i = k
  · subst acts
    exact (behaves.kept q content modified there spared).2
  · rw [sinks_act_of_ne acts]
    exact spared.of_keeps behaves.directories

theorem Orderly.way_act {i : ι} (way : (d.sinks i).HasWay d.files) :
    ((d.act (k, event)).sinks i).HasWay (d.act (k, event)).files := by
  have behaves := h.behaves sees
  have way := way.of_keeps behaves.directories
  by_cases acts : i = k
  · subst acts
    rw [HasWay, FileSink.stem, behaves.config]
    exact way
  · rw [sinks_act_of_ne acts]
    exact way

theorem Orderly.proper_act (i : ι) : ((d.act (k, event)).sinks i).Proper := by
  by_cases acts : i = k
  · subst acts
    exact (h.behaves sees).proper
  · rw [sinks_act_of_ne acts]
    exact h.proper i

/-- The file that a sink writes is there still, as the sink that acts has nothing to do with it. -/
theorem Orderly.hasPart_act (i : ι) :
    ((d.act (k, event)).sinks i).HasPart (d.act (k, event)).files := by
  have behaves := h.behaves sees
  intro file held
  by_cases acts : i = k
  · subst acts
    obtain ⟨p, content, modified, located, there, _⟩ := behaves.held file held
    exact ⟨p, content, modified, located, there⟩
  · rw [sinks_act_of_ne acts] at held
    obtain ⟨p, content, modified, located, there⟩ := h.hasPart i file held
    have spared := h.apart k i (Ne.symm acts) file p held located
    exact ⟨p, content, modified, FileSystem.locate_of_keeps behaves.directories located,
      (behaves.kept p content modified there spared).1⟩

/-- The file that a sink writes is one that it wrote before, or it is new, and then it is where
nothing was. -/
theorem Orderly.apart_act {i j : ι} (distinct : i ≠ j) {file : OpenFile} {p : Place}
    (held : ((d.act (k, event)).sinks j).held? = some file)
    (located : (d.act (k, event)).files.locate file.partPath = .ok p) :
    ((d.act (k, event)).sinks i).Spares (d.act (k, event)).files p := by
  have behaves := h.behaves sees
  by_cases acts : j = k
  · subst acts
    obtain ⟨q, content, modified, located', there, before⟩ := behaves.held file held
    cases located.symm.trans located'
    rw [sinks_act_of_ne distinct]
    refine Spares.of_keeps ?_ behaves.directories
    rcases before with nothing | ⟨old, isHeld, found⟩
    · exact h.spares_new behaves.proper held located nothing
    · exact h.apart i j distinct old p isHeld found
  · rw [sinks_act_of_ne acts] at held
    obtain ⟨q, content, modified, located', there⟩ := h.hasPart j file held
    have stays := FileSystem.locate_of_keeps behaves.directories located'
    have same : q = p := Except.ok.inj (stays.symm.trans located)
    subst same
    exact h.spares_act sees there (h.apart i j distinct file q held located')

end Act

/-- An event leaves the sinks orderly, and a file alone that all of them spare. -/
theorem Orderly.act (h : d.Orderly) {e : ι × Event} (sees : (d.sinks e.1).Sees d.files e.2) :
    (d.act e).Orderly ∧
      ∀ q content modified, d.files.get? q = some (.file content modified) →
        (∀ i, (d.sinks i).Spares d.files q) →
          (d.act e).files.get? q = some (.file content modified) ∧
            ∀ i, ((d.act e).sinks i).Spares (d.act e).files q := by
  obtain ⟨k, event⟩ := e
  refine ⟨⟨h.proper_act sees, h.hasPart_act sees, ?_⟩, ?_⟩
  · exact fun i j distinct file p held located => h.apart_act sees distinct held located
  · intro q content modified there spared
    exact ⟨((h.behaves sees).kept q content modified there (spared k)).1,
      fun i => h.spares_act sees there (spared i)⟩

/-- As long as it goes, sinks that are orderly leave a file alone that all of them spare. -/
theorem Orderly.run (h : d.Orderly) {events : List (ι × Event)} (sighted : d.Sighted events) :
    (d.run events).Orderly ∧
      ∀ q content modified, d.files.get? q = some (.file content modified) →
        (∀ i, (d.sinks i).Spares d.files q) →
          (d.run events).files.get? q = some (.file content modified) := by
  induction events generalizing d with
  | nil => exact ⟨h, fun q content modified there _ => there⟩
  | cons e rest ih =>
      obtain ⟨sees, sighted⟩ := sighted
      obtain ⟨orderly, kept⟩ := h.act sees
      obtain ⟨orderly', kept'⟩ := ih orderly sighted
      refine ⟨orderly', ?_⟩
      intro q content modified there spared
      obtain ⟨there', spared'⟩ := kept q content modified there spared
      exact kept' q content modified there' spared'

omit [DecidableEq ι] in
theorem orderly_of_fresh (fresh : ∀ i, (d.sinks i).IsFresh) : d.Orderly where
  proper := fun i => (fresh i).settled.proper fun file isHeld => by
    rw [(fresh i).idle] at isHeld
    cases isHeld
  hasPart := fun i file isHeld => by rw [(fresh i).idle] at isHeld; cases isHeld
  apart := fun i j _ file p isHeld => by rw [(fresh j).idle] at isHeld; cases isHeld

/-- Whenever a sink makes its directory, that succeeds. -/
def Makes (d : SharedFiles ι) : List (ι × Event) → Prop
  | [] => True
  | e :: rest =>
    ((d.sinks e.1).task = .makeDirectory →
      (d.files.makeDirectories (d.sinks e.1).config.dir).isOk = true) ∧ Makes (d.act e) rest

instance decidableMakes (d : SharedFiles ι) :
    (events : List (ι × Event)) → Decidable (d.Makes events)
  | [] => .isTrue trivial
  | e :: rest =>
    have := decidableMakes (d.act e) rest
    inferInstanceAs (Decidable (_ ∧ _))

/-- A sink has its directory, or it has yet to make it, and its names add none. -/
def Begins (d : SharedFiles ι) (i : ι) : Prop :=
  (d.sinks i).HasWay d.files ∨
    '/' ∉ (d.sinks i).config.name.toList ∧ (d.sinks i).task = .makeDirectory

/-- A sink that has yet to make its directory does nothing else before. -/
theorem Orderly.begins_act (h : d.Orderly) {e : ι × Event}
    (sees : (d.sinks e.1).Sees d.files e.2)
    (makes : (d.sinks e.1).task = .makeDirectory →
      (d.files.makeDirectories (d.sinks e.1).config.dir).isOk = true)
    {i : ι} (begins : d.Begins i) : (d.act e).Begins i := by
  obtain ⟨k, event⟩ := e
  rcases begins with way | ⟨plain, task⟩
  · exact .inl (h.way_act sees way)
  · by_cases acts : i = k
    · subst acts
      cases event with
      | step turn =>
          cases made : d.files.makeDirectories (d.sinks i).config.dir with
          | error e =>
              have succeeds := makes task
              rw [made] at succeeds
              cases succeeds
          | ok fs =>
              have stepped : (d.act (i, .step turn)).files = fs := by
                simp only [SharedFiles.act, FileSink.act, FileSink.step, task, made]
              left
              rw [HasWay, FileSink.stem, (h.behaves sees).config, stepped]
              exact hasWay_of_made plain made
      | start | accept o | close =>
          right
          rw [sinks_act_self, FileSink.act, if_neg (by simp [task])]
          exact ⟨plain, task⟩
    · rw [Begins, sinks_act_of_ne acts]
      exact .inr ⟨plain, task⟩

/-- Sinks that have their directories, or make them, look for names only then. -/
theorem Orderly.sighted (h : d.Orderly) {events : List (ι × Event)} (makes : d.Makes events)
    (begins : ∀ i, d.Begins i) : d.Sighted events := by
  induction events generalizing d with
  | nil => trivial
  | cons e rest ih =>
      obtain ⟨first, makes⟩ := makes
      have sees : (d.sinks e.1).Sees d.files e.2 := by
        rcases begins e.1 with way | ⟨_, task⟩
        · exact way.sees e.2
        · cases e.2 with
          | step turn =>
              intro o probing
              rw [task] at probing
              cases probing
          | start | accept o | close => trivial
      exact ⟨sees, ih (h.act sees).1 makes fun i => h.begins_act sees first (begins i)⟩

/-- Whatever sinks that share a directory do, and in whatever order their steps come, a file keeps
its content from any time on at which all of them spare it, as long as none of them looks for a name
before its directory is there. So the files that were there before the first step are never
replaced, and one that a sink finished is safe when no other has found its name free before. -/
theorem file_kept (d : SharedFiles ι) (fresh : ∀ i, (d.sinks i).IsFresh)
    (earlier later : List (ι × Event)) (sighted : d.Sighted (earlier ++ later)) {q : Place}
    {content : Bytes} {modified : Option Nat}
    (there : (d.run earlier).files.get? q = some (.file content modified))
    (spared : earlier = [] ∨ ∀ i, ((d.run earlier).sinks i).Spares (d.run earlier).files q) :
    ((d.run earlier).run later).files.get? q = some (.file content modified) := by
  obtain ⟨before, after⟩ := (d.sighted_append earlier later).mp sighted
  have orderly := ((orderly_of_fresh fresh).run before).1
  refine (orderly.run after).2 q content modified there ?_
  rcases spared with rfl | spared
  · exact fun i => (fresh i).spares
  · exact spared

/-- The sinks keep their names. -/
theorem Orderly.names (h : d.Orderly) {events : List (ι × Event)} (sighted : d.Sighted events)
    (i : ι) : ((d.run events).sinks i).config = (d.sinks i).config ∧
      ((d.run events).sinks i).instanceNumber = (d.sinks i).instanceNumber := by
  induction events generalizing d with
  | nil => exact ⟨rfl, rfl⟩
  | cons e rest ih =>
      obtain ⟨sees, sighted⟩ := sighted
      obtain ⟨config, instanceNumber⟩ := ih (h.act sees).1 sighted
      have first : ((d.act e).sinks i).config = (d.sinks i).config ∧
          ((d.act e).sinks i).instanceNumber = (d.sinks i).instanceNumber := by
        by_cases acts : i = e.1
        · subst acts
          have behaves := h.behaves sees
          exact ⟨behaves.config, behaves.instanceNumber⟩
        · rw [sinks_act_of_ne acts]
          exact ⟨rfl, rfl⟩
      exact ⟨config.trans first.1, instanceNumber.trans first.2⟩

/-- The instances of one sink never replace a file that one of them has finished, in whatever order
their steps come. -/
theorem instances_keep_files (d : SharedFiles ι) (fresh : ∀ i, (d.sinks i).IsFresh)
    (same : ∀ i j, (d.sinks i).config = (d.sinks j).config)
    (numbered : ∀ i j, (d.sinks i).instanceNumber = (d.sinks j).instanceNumber → i = j)
    (earlier later : List (ι × Event)) (sighted : d.Sighted (earlier ++ later)) {i : ι}
    {number : Nat} {p : Place} {content : Bytes} {modified : Option Nat}
    (located : (d.run earlier).files.locate ((d.sinks i).pathOf number) = .ok p)
    (there : (d.run earlier).files.get? p = some (.file content modified))
    (finished : ¬ ((d.run earlier).sinks i).InUse ((d.sinks i).pathOf number)) :
    ((d.run earlier).run later).files.get? p = some (.file content modified) := by
  have start := orderly_of_fresh fresh
  obtain ⟨before, after⟩ := (d.sighted_append earlier later).mp sighted
  obtain ⟨orderly, _⟩ := start.run before
  -- Another name in the same place is the same name, of the same instance.
  have final : ∀ j k, ((d.run earlier).sinks j).InUse (((d.run earlier).sinks j).pathOf k) →
      ∀ fs : FileSystem, fs.locate (((d.run earlier).sinks j).pathOf k) ≠ .ok p := by
    intro j k used fs found
    have names := pathOf_congr (start.names before j).1 (start.names before j).2 k
    rw [names] at used found
    have stem : (d.sinks j).stem = (d.sinks i).stem := by rw [stem, FileSink.stem, same j i]
    rw [pathOf_eq, stem] at found
    rw [pathOf_eq] at located
    have ending := FileSystem.ending_unique ((d.sinks j).isEnding k) ((d.sinks i).isEnding number)
      found located
    cases numbered j i (instanceNumber_eq_of_ending ending)
    cases ending_injective ending
    exact finished used
  refine (orderly.run after).2 p content modified there ?_
  intro j path used fs _ found
  cases used with
  | looked task =>
      obtain ⟨k, rfl⟩ := (orderly.proper j).looked _ _ task
      exact final j k (.looked task) fs found
  | @final file held =>
      obtain ⟨k, named, _⟩ := (orderly.proper j).held file held
      have used : ((d.run earlier).sinks j).InUse file.path := .final held
      rw [named] at used found
      exact final j k used fs found
  | @part file held =>
      obtain ⟨k, _, named⟩ := (orderly.proper j).held file held
      exact final_ne_part located (named ▸ found)

/-- Two sinks with the same names, each of which puts one record into a file. -/
def twins : SharedFiles Bool where
  sinks := fun _ => { config := { dir := "out", maxRecords := 1 } }
  files := []

/-- Both sinks find the first name free, and one of them finishes its file. -/
def firstFinishes : List (Bool × Event) := [
  (false, .step), (true, .step), (false, .accept ⟨[], some [97]⟩), (true, .accept ⟨[], some [98]⟩),
  (false, .step), (true, .step), (false, .step), (false, .step), (false, .step), (false, .step)]

/-- The other one makes its file then, writes it and finishes it. -/
def secondFinishes : List (Bool × Event) := [
  (true, .step), (true, .step), (true, .step), (true, .step)]

/-- One sink makes a file from beginning to end, and only then the other one begins. -/
def oneFinishes : List (Bool × Event) := [
  (false, .step), (false, .accept ⟨[], some [97]⟩), (false, .step), (false, .step), (false, .step),
  (false, .step), (false, .step)]

/-- The other one passes over the name that is taken. -/
def otherFinishes : List (Bool × Event) := [
  (true, .step), (true, .accept ⟨[], some [98]⟩), (true, .step), (true, .step), (true, .step),
  (true, .step), (true, .step)]

/-- The same two sinks where the first name is taken from the start. -/
def lateTwins : SharedFiles Bool :=
  { twins with
    files := [(["out"], .directory),
      (["out", "sluice-0-000000.log"], .file [120, newline] none)] }

/-- A file that was there stays, and so does one that a sink has finished before the other looks for
a name. -/
theorem twins_files_kept :
    (∀ i, (twins.sinks i).IsFresh) ∧
      ((lateTwins.run []).run (firstFinishes ++ secondFinishes)).files.get?
        ["out", "sluice-0-000000.log"] = some (.file [120, newline] none) ∧
      (lateTwins.run (firstFinishes ++ secondFinishes)).files.get?
        ["out", "sluice-0-000001.log"] = some (.file [97, newline] none) ∧
      ((twins.run oneFinishes).run otherFinishes).files.get? ["out", "sluice-0-000000.log"] =
        some (.file [97, newline] none) ∧
      (twins.run (oneFinishes ++ otherFinishes)).files.get? ["out", "sluice-0-000001.log"] =
        some (.file [98, newline] none) := by
  have fresh : ∀ i, (twins.sinks i).IsFresh := fun _ => ⟨rfl, rfl⟩
  have begins : ∀ d : SharedFiles Bool, d.sinks = twins.sinks → ∀ i, d.Begins i := by
    intro d same i
    rw [Begins, same]
    have plain : '/' ∉ "sluice".toList := by decide
    exact .inr ⟨plain, rfl⟩
  have late : lateTwins.Orderly := orderly_of_fresh fresh
  have sighted : lateTwins.Sighted ([] ++ (firstFinishes ++ secondFinishes)) :=
    late.sighted (by decide +kernel) (begins lateTwins rfl)
  have there : (lateTwins.run []).files.get? ["out", "sluice-0-000000.log"] =
      some (.file [120, newline] none) := by decide +kernel
  have sighted' : twins.Sighted (oneFinishes ++ otherFinishes) :=
    (orderly_of_fresh fresh).sighted (by decide +kernel) (begins twins rfl)
  have finished : (twins.run oneFinishes).files.get? ["out", "sluice-0-000000.log"] =
      some (.file [97, newline] none) := by decide +kernel
  have spared : ∀ i, ((twins.run oneFinishes).sinks i).Spares (twins.run oneFinishes).files
      ["out", "sluice-0-000000.log"] := by
    intro i
    have idle : ((twins.run oneFinishes).sinks i).held? = none := by cases i <;> decide +kernel
    have task : ((twins.run oneFinishes).sinks i).task = if i then .makeDirectory else .ready := by
      cases i <;> decide +kernel
    refine spares_of_idle ?_ idle
    rw [Settled, task]
    cases i <;> trivial
  exact ⟨fresh, file_kept lateTwins fresh [] _ sighted there (.inl rfl), by decide +kernel,
    file_kept twins fresh oneFinishes _ sighted' finished (.inr spared), by decide +kernel⟩

/-- The second file replaces the first one, and both are announced. -/
theorem twins_replace_finished_file :
    (twins.run firstFinishes).files.get? ["out", "sluice-0-000000.log"] =
        some (.file [97, newline] none) ∧
      (twins.run firstFinishes).announced = [⟨"out/sluice-0-000000.log", 1⟩] ∧
      ((twins.run firstFinishes).run secondFinishes).files.get? ["out", "sluice-0-000000.log"] =
        some (.file [98, newline] none) ∧
      ((twins.run firstFinishes).run secondFinishes).announced =
        [⟨"out/sluice-0-000000.log", 1⟩, ⟨"out/sluice-0-000000.log", 1⟩] := by
  decide +kernel

end SharedFiles

end RecordPipeline
