import RecordPipeline.Proofs.FileSystem.Names
import RecordPipeline.Proofs.Sink.Stored

/-!
What one sink does to files that are not its own, one step at a time. A place is spared by a sink
that has no path to it in use, that is, has found none free that leads there and writes under none.
A file in such a place keeps its content, and its place stays spared.
-/

namespace RecordPipeline

namespace FileSystem

variable {fs fs' : FileSystem} {stem ending : String} {p : Place} {content : Bytes}
  {modified : Option Nat}

/-- Where the way to a family of files is there, all its files are found where they were. -/
theorem locate_eq_of_keeps (keeps : KeepsDirectories fs fs')
    (way : ∃ here, fs.walk (startOf stem) (Path.folders stem) = .ok here)
    (isEnding : Path.IsEnding stem ending) :
    fs'.locate (stem ++ ending) = fs.locate (stem ++ ending) := by
  obtain ⟨here, walked⟩ := way
  rw [locate_append isEnding, locate_append isEnding, walked, walk_of_keeps keeps walked]

theorem file_of_remove (isEnding : Path.IsEnding stem ending)
    (source : fs.locate (stem ++ ending) = .ok p)
    (found : fs.get? p = some (.file content modified)) :
    fs.remove (stem ++ ending) = .ok (fs.erase p) := by
  refine bind_eq_ok_iff.mpr ⟨p, source, ?_⟩
  rw [node?_of_locate isEnding source, found]
  rfl

theorem cut_of_file (source : fs.locate (stem ++ ending) = .ok p)
    (isEnding : Path.IsEnding stem ending) (found : fs.get? p = some (.file content modified))
    (size : Nat) : fs.cut (stem ++ ending) size = fs.put p (.file (content.take size) none) := by
  simp only [cut, source, node?_of_locate isEnding source, found]

/-- A file that is renamed leaves all places as they are but its old and its new one. -/
theorem moved_of_rename {target : String} (isEnding : Path.IsEnding stem ending)
    (isTarget : Path.IsEnding stem target) (source : fs.locate (stem ++ ending) = .ok p)
    (found : fs.get? p = some (.file content modified))
    (h : fs.rename (stem ++ ending) (stem ++ target) = .ok fs') :
    ∃ q, fs.locate (stem ++ target) = .ok q ∧ fs.get? q ≠ some .directory ∧
      ∀ x, x ≠ p → x ≠ q → fs'.get? x = fs.get? x := by
  obtain ⟨q, located, noDirectory, moved⟩ := replaced_of_rename isEnding isTarget source found h
  refine ⟨q, located, noDirectory, ?_⟩
  intro x notSource notTarget
  rw [moved]
  split
  · rfl
  · rw [Table.get?_put_of_ne notTarget, Table.get?_erase_of_ne notSource]

end FileSystem

namespace FileSink

variable {s next : FileSink} {fs fs' : FileSystem} {q : Place} {path : String}

/-- The file that the sink writes. -/
def held? (s : FileSink) : Option OpenFile :=
  match s.task with
  | .write file _ | .finish file => some file
  | _ => s.current

/-- A path that the sink has found free, or that of a file that it writes. -/
inductive InUse (s : FileSink) : String → Prop where
  | looked {path : String} {o : Output} (task : s.task = .create path o) : InUse s path
  | final {file : OpenFile} (held : s.held? = some file) : InUse s file.path
  | part {file : OpenFile} (held : s.held? = some file) : InUse s file.partPath

/-- The sink has nothing to do with what is at a place: no path that it uses leads there, also when
further directories are made. -/
def Spares (s : FileSink) (fs : FileSystem) (q : Place) : Prop :=
  ∀ path, s.InUse path → ∀ fs', FileSystem.KeepsDirectories fs fs' → fs'.locate path ≠ .ok q

/-- The directory of the files of the sink is there. -/
def HasWay (s : FileSink) (fs : FileSystem) : Prop :=
  ∃ here, fs.walk (FileSystem.startOf s.stem) (Path.folders s.stem) = .ok here

/-- What a sink has to do with is under its own names. -/
structure Proper (s : FileSink) : Prop where
  looked : ∀ path o, s.task = .create path o → ∃ number, path = s.pathOf number
  held : ∀ file, s.held? = some file → ∃ number, file.path = s.pathOf number ∧
    file.partPath = partPathOf (s.pathOf number)
  closed : ∀ file, s.task = .finish file → s.current = none

theorem Spares.not_located {path : String} (spares : s.Spares fs q) (used : s.InUse path) :
    fs.locate path ≠ .ok q := spares path used fs fun _ found => found

/-- What others do leaves a place to them that a sink spares. -/
theorem Spares.of_keeps (spares : s.Spares fs q)
    (keeps : FileSystem.KeepsDirectories fs fs') : s.Spares fs' q :=
  fun path used fs'' further => spares path used fs'' (keeps.trans further)

/-- A prefix of names without a slash adds no directory. -/
theorem folders_stem (plain : '/' ∉ s.config.name.toList) :
    Path.folders s.stem = Path.parts s.config.dir ∧
      FileSystem.startOf s.stem = FileSystem.startOf s.config.dir := by
  have name : s.fileName 0 = s.config.name ++ s.ending 0 := by
    simp only [fileName, ending, ← String.append_assoc]
    rfl
  have isName : Path.IsName (s.fileName 0) := by
    have isEnding : Path.IsEnding s.stem (s.ending 0) := s.isEnding 0
    have some : 2 < (s.ending 0).toList.length := by
      simp [ending]
      omega
    apply Path.isName_of_length
    · rw [name, String.toList_append, List.mem_append, not_or]
      exact ⟨plain, isEnding.noSlash⟩
    · rw [name, String.toList_append, List.length_append]
      omega
  have whole : Path.folder s.config.dir ++ s.fileName 0 = s.stem ++ s.ending 0 :=
    (isName.join_eq s.config.dir).symm.trans (s.pathOf_eq 0)
  constructor
  · have parts := congrArg Path.parts whole
    rw [Path.parts_append (isName.isEnding _), Path.parts_append (s.isEnding 0),
      Path.folders_folder] at parts
    exact (List.append_singleton_inj.mp parts).1.symm
  · have absolute := congrArg Path.isAbsolute whole
    rw [Path.isAbsolute_append (isName.isEnding _), Path.isAbsolute_append (s.isEnding 0)]
      at absolute
    rw [← Path.startOf_folder s.config.dir, FileSystem.startOf, FileSystem.startOf, absolute]

/-- A sink that has made its directory has it. -/
theorem hasWay_of_made (plain : '/' ∉ s.config.name.toList)
    (made : fs.makeDirectories s.config.dir = .ok fs') : s.HasWay fs' := by
  obtain ⟨folders, start⟩ := folders_stem plain
  rw [HasWay, folders, start]
  exact FileSystem.walk_of_makeDirectories made

theorem HasWay.of_keeps (way : s.HasWay fs) (keeps : FileSystem.KeepsDirectories fs fs') :
    s.HasWay fs' := by
  obtain ⟨here, walked⟩ := way
  exact ⟨here, FileSystem.walk_of_keeps keeps walked⟩

/-- The part file of the sink is there. -/
def HasPart (s : FileSink) (fs : FileSystem) : Prop :=
  ∀ file, s.held? = some file → ∃ p content modified, fs.locate file.partPath = .ok p ∧
    fs.get? p = some (.file content modified)

/-- What a step of a sink does: no directory is lost, a file that the sink spares is kept and
spared, and the sink writes a file only that it made or had before. -/
structure Behaves (s : FileSink) (fs : FileSystem) (next : FileSink) (fs' : FileSystem) : Prop where
  config : next.config = s.config
  instanceNumber : next.instanceNumber = s.instanceNumber
  proper : next.Proper
  directories : FileSystem.KeepsDirectories fs fs'
  kept : ∀ q content modified, fs.get? q = some (.file content modified) → s.Spares fs q →
    fs'.get? q = some (.file content modified) ∧ next.Spares fs' q
  held : ∀ file, next.held? = some file → ∃ p content modified,
    fs'.locate file.partPath = .ok p ∧ fs'.get? p = some (.file content modified) ∧
      (fs.get? p = none ∨ ∃ old, s.held? = some old ∧ fs.locate old.partPath = .ok p)

/-- The sink is not about to use a name that it found free, and a file that it is about to finish is
its only one. -/
def Settled (s : FileSink) : Prop :=
  match s.task with
  | .create _ _ => False
  | .finish _ => s.current = none
  | _ => True

theorem Settled.task_ne (settled : s.Settled) (path : String) (o : Output) :
    s.task ≠ .create path o := by
  intro task
  rw [Settled, task] at settled
  exact settled

theorem Settled.current (settled : s.Settled) {file : OpenFile} (task : s.task = .finish file) :
    s.current = none := by
  rw [Settled, task] at settled
  exact settled

/-- A settled sink is proper when its file is. -/
theorem Settled.proper (settled : s.Settled) (held : ∀ file, s.held? = some file →
    ∃ number, file.path = s.pathOf number ∧ file.partPath = partPathOf (s.pathOf number)) :
    s.Proper where
  looked := fun path o task => absurd task (settled.task_ne path o)
  held := held
  closed := fun _ task => settled.current task

/-- A settled sink has to do with the file that it writes only. -/
theorem path_cases (settled : s.Settled) (used : s.InUse path) :
    ∃ file, s.held? = some file ∧ (path = file.path ∨ path = file.partPath) := by
  cases used with
  | looked task => exact absurd task (settled.task_ne _ _)
  | final held => exact ⟨_, held, .inl rfl⟩
  | part held => exact ⟨_, held, .inr rfl⟩

/-- A settled sink that has no file spares everything. -/
theorem spares_of_idle (settled : s.Settled) (idle : s.held? = none) : s.Spares fs q := by
  intro path used
  obtain ⟨file, held, _⟩ := path_cases settled used
  rw [idle] at held
  cases held

/-- The file that a sink writes is not known to it under another name. -/
theorem Spares.rewrite (spares : s.Spares fs q) {file file' : OpenFile}
    (same : file'.path = file.path ∧ file'.partPath = file.partPath) (held : s.held? = some file)
    (held' : next.held? = some file') (settled : next.Settled)
    (keeps : FileSystem.KeepsDirectories fs fs') : next.Spares fs' q := by
  intro path used
  obtain ⟨other, isHeld, named⟩ := path_cases settled used
  rw [held'] at isHeld
  cases isHeld
  have used : s.InUse path := by
    rcases named with rfl | rfl
    · rw [same.1]
      exact .final held
    · rw [same.2]
      exact .part held
  exact spares.of_keeps keeps path used

section Steps

variable (proper : s.Proper)

include proper

/-- A step that does nothing to files leaves the sink with the file that it has. -/
theorem behaves_of_keeps (hasPart : s.HasPart fs) (keeps : FileSystem.Keeps fs fs')
    (config : next.config = s.config) (instanceNumber : next.instanceNumber = s.instanceNumber)
    (held : next.held? = s.held?) (settled : next.Settled) : s.Behaves fs next fs' where
  config := config
  instanceNumber := instanceNumber
  proper := by
    apply settled.proper
    intro file isHeld
    obtain ⟨number, named⟩ := proper.held file (held ▸ isHeld)
    refine ⟨number, ?_⟩
    rw [pathOf_congr config instanceNumber]
    exact named
  directories := keeps.directories
  kept := by
    intro q content modified there spares
    refine ⟨keeps q _ there, ?_⟩
    cases isHeld : s.held? with
    | none => exact spares_of_idle settled (held.trans isHeld)
    | some file =>
        exact spares.rewrite ⟨rfl, rfl⟩ isHeld (held.trans isHeld) settled keeps.directories
  held := by
    intro file isHeld
    rw [held] at isHeld
    obtain ⟨p, content, modified, located, there⟩ := hasPart file isHeld
    exact ⟨p, content, modified, FileSystem.locate_of_keeps keeps.directories located,
      keeps p _ there, .inr ⟨file, isHeld, located⟩⟩

/-- A step that changes the part file leaves the sink with it. -/
theorem behaves_of_part {file file' : OpenFile} {p : Place} {content : Bytes}
    {modified : Option Nat} (held : s.held? = some file) (held' : next.held? = some file')
    (same : file'.path = file.path ∧ file'.partPath = file.partPath)
    (config : next.config = s.config) (instanceNumber : next.instanceNumber = s.instanceNumber)
    (settled : next.Settled) (directories : FileSystem.KeepsDirectories fs fs')
    (located : fs.locate file.partPath = .ok p)
    (there : fs'.get? p = some (.file content modified))
    (elsewhere : ∀ x, x ≠ p → fs'.get? x = fs.get? x) : s.Behaves fs next fs' where
  config := config
  instanceNumber := instanceNumber
  proper := by
    apply settled.proper
    intro other isHeld
    rw [held'] at isHeld
    cases isHeld
    obtain ⟨number, named⟩ := proper.held file held
    refine ⟨number, ?_⟩
    rw [pathOf_congr config instanceNumber, same.1, same.2]
    exact named
  directories := directories
  kept := by
    intro q content modified there spares
    have apart : q ≠ p := fun equal => spares.not_located (.part held) (equal ▸ located)
    exact ⟨(elsewhere q apart).trans there, spares.rewrite same held held' settled directories⟩
  held := by
    intro other isHeld
    rw [held'] at isHeld
    cases isHeld
    refine ⟨p, content, modified, ?_, there, .inr ⟨file, held, located⟩⟩
    rw [same.2]
    exact FileSystem.locate_of_keeps directories located

end Steps

/-- A sink that is rid of its file spares everything. -/
theorem behaves_of_idle (config : next.config = s.config)
    (instanceNumber : next.instanceNumber = s.instanceNumber) (idle : next.held? = none)
    (settled : next.Settled) (directories : FileSystem.KeepsDirectories fs fs')
    (kept : ∀ q content modified, fs.get? q = some (.file content modified) → s.Spares fs q →
      fs'.get? q = some (.file content modified)) : s.Behaves fs next fs' where
  config := config
  instanceNumber := instanceNumber
  proper := by
    apply settled.proper
    intro file isHeld
    rw [idle] at isHeld
    cases isHeld
  directories := directories
  kept := fun q content modified there spares =>
    ⟨kept q content modified there spares, spares_of_idle settled idle⟩
  held := fun file isHeld => by rw [idle] at isHeld; cases isHeld

theorem keeps_refl (fs : FileSystem) : FileSystem.Keeps fs fs := fun _ _ found => found

/-- After a record the sink has the file, which it may be about to finish. -/
theorem afterRecord_spec (s : FileSink) (file : OpenFile) :
    (s.afterRecord file).held? = some file ∧ (s.afterRecord file).Settled ∧
      (s.afterRecord file).config = s.config ∧
      (s.afterRecord file).instanceNumber = s.instanceNumber := by
  unfold afterRecord
  split
  · exact ⟨rfl, rfl, rfl, rfl⟩
  · exact ⟨rfl, trivial, rfl, rfl⟩

section Steps

variable {turn : FileTurn} (proper : s.Proper) (hasPart : s.HasPart fs)

include proper hasPart

/-- A name that is found free is not that of a file that is there, if the directory is. -/
theorem behaves_probe {o : Output} (task : s.task = .probe o) (way : s.HasWay fs) :
    s.Behaves fs (s.step fs turn).1 (s.step fs turn).2.1 := by
  cases taken : fs.has (s.pathOf s.sequence) with
  | true =>
      simp only [step, task, taken, if_true]
      exact behaves_of_keeps proper hasPart (keeps_refl fs) rfl rfl (by simp only [held?, task])
        trivial
  | false =>
      simp only [step, task, taken, Bool.false_eq_true, if_false]
      have held : s.held? = s.current := by simp only [held?, task]
      refine ⟨rfl, rfl, ⟨?_, ?_, by simp⟩, fun _ found => found, ?_, ?_⟩
      · rintro path o' ⟨⟩
        exact ⟨s.sequence, rfl⟩
      · exact fun file isHeld => proper.held file (held.trans isHeld)
      · intro q content modified there spares
        refine ⟨there, ?_⟩
        intro path used fs' keeps located
        cases used with
        | looked looked =>
            cases looked
            rw [pathOf_eq] at taken located
            rw [FileSystem.locate_eq_of_keeps keeps way (s.isEnding s.sequence)] at located
            rw [FileSystem.get?_of_has_eq_false (s.isEnding s.sequence) taken located] at there
            cases there
        | final isHeld => exact spares _ (.final (held.trans isHeld)) fs' keeps located
        | part isHeld => exact spares _ (.part (held.trans isHeld)) fs' keeps located
      · intro file isHeld
        obtain ⟨p, content, modified, located, there⟩ := hasPart file (held.trans isHeld)
        exact ⟨p, content, modified, located, there, .inr ⟨file, held.trans isHeld, located⟩⟩

/-- A part file is made where nothing is. -/
theorem behaves_create {path : String} {o : Output} (task : s.task = .create path o) :
    s.Behaves fs (s.step fs turn).1 (s.step fs turn).2.1 := by
  have held : s.held? = s.current := by simp only [held?, task]
  cases made : fs.create (partPathOf path) with
  | error e =>
      by_cases taken : e = .alreadyExists
      · simp only [step, task, made, taken]
        exact behaves_of_keeps proper hasPart (keeps_refl fs) rfl rfl held.symm trivial
      · simp only [step, task, made]
        exact behaves_of_keeps proper hasPart (keeps_refl fs) rfl rfl held.symm trivial
  | ok fs' =>
      simp only [step, task, made]
      obtain ⟨number, rfl⟩ := proper.looked path o task
      rw [partPathOf_eq] at made
      obtain ⟨p, located, nothing, rfl⟩ := FileSystem.file_of_create (s.isEnding_part number) made
      rw [← partPathOf_eq] at located
      have directories : FileSystem.KeepsDirectories fs (fs.put p (.file [] none)) :=
        FileSystem.keepsDirectories_put (by simp [nothing]) _ none
      have located' := FileSystem.locate_of_keeps directories located
      refine ⟨rfl, rfl, Settled.proper trivial ?_, directories, ?_, ?_⟩
      · rintro file ⟨⟩
        exact ⟨number, rfl, rfl⟩
      · intro q content modified there spares
        have apart : q ≠ p := by
          rintro rfl
          rw [nothing] at there
          cases there
        refine ⟨(Table.get?_put_of_ne apart ..).trans there, ?_⟩
        intro path used fs' keeps
        obtain ⟨file, isHeld, named⟩ := path_cases (by trivial) used
        cases isHeld
        rcases named with rfl | rfl
        · exact spares _ (.looked task) fs' (directories.trans keeps)
        · rw [FileSystem.locate_of_keeps keeps located']
          exact fun same => apart (Except.ok.inj same).symm
      · rintro file ⟨⟩
        exact ⟨p, [], none, located', Table.get?_put_self .., .inl nothing⟩

/-- Only the part file changes when a record is written. -/
theorem behaves_write {file : OpenFile} {o : Output} (task : s.task = .write file o) :
    s.Behaves fs (s.step fs turn).1 (s.step fs turn).2.1 := by
  have held : s.held? = some file := by simp only [held?, task]
  obtain ⟨p, content, modified, located, there⟩ := hasPart file held
  obtain ⟨number, _, named⟩ := proper.held file held
  have named := named.trans (s.partPathOf_eq number)
  cases made : fs.append file.partPath (s.format.line o) with
  | error e =>
      simp only [step, task, made]
      obtain ⟨held', settled, config, instanceNumber⟩ := afterRecord_spec
        (s.fail turn.now "file sink write failed" "write" file.partPath e) file
      exact behaves_of_part proper held held' ⟨rfl, rfl⟩ config instanceNumber settled
        (keeps_refl fs).directories located there fun _ _ => rfl
  | ok fs' =>
      simp only [step, task, made]
      obtain ⟨held', settled, config, instanceNumber⟩ := afterRecord_spec
        { s with written := s.written + 1, bytes := s.bytes + (s.format.line o).length }
        { file with records := file.records + 1 }
      rw [named] at made
      obtain ⟨q, content', modified', located', _, rfl⟩ :=
        FileSystem.file_of_append (s.isEnding_part number) made
      rw [named, located'] at located
      cases located
      refine behaves_of_part proper held held' ⟨rfl, rfl⟩ config instanceNumber settled
        (FileSystem.keepsDirectories_put ?_ _ none) (named ▸ located') (Table.get?_put_self ..)
        fun x apart => Table.get?_put_of_ne apart ..
      simp [there]

/-- A file that is finished leaves its part name and may replace what has its final name. -/
theorem behaves_finish {file : OpenFile} (task : s.task = .finish file) :
    s.Behaves fs (s.step fs turn).1 (s.step fs turn).2.1 := by
  have held : s.held? = some file := by simp only [held?, task]
  have closed := proper.closed file task
  obtain ⟨p, content, modified, located, there⟩ := hasPart file held
  obtain ⟨number, final, part⟩ := proper.held file held
  have spared : ∀ q, s.Spares fs q → q ≠ p := by
    intro q spares same
    exact spares.not_located (.part held) (same ▸ located)
  have source := located
  rw [part, partPathOf_eq] at source
  cases flushed : turn.flush with
  | some failure =>
      have cut := FileSystem.cut_of_file source (s.isEnding_part number) there failure.room
      rw [← partPathOf_eq, ← part] at cut
      simp only [step, task, flushed, cut]
      refine behaves_of_idle rfl rfl closed trivial
        (FileSystem.keepsDirectories_put (by simp [there]) _ none) ?_
      intro q content modified found spares
      exact (Table.get?_put_of_ne (spared q spares) ..).trans found
  | none =>
      by_cases empty : file.records = 0
      · have removed := FileSystem.file_of_remove (s.isEnding_part number) source there
        rw [← partPathOf_eq, ← part] at removed
        simp only [step, task, flushed, empty, if_true, removed]
        refine behaves_of_idle rfl rfl closed trivial
          (FileSystem.keepsDirectories_erase (by simp [there])) ?_
        intro q content modified found spares
        exact (Table.get?_erase_of_ne (spared q spares) _).trans found
      · cases made : fs.rename file.partPath file.path with
        | error e =>
            simp only [step, task, flushed, empty, if_false, made]
            exact behaves_of_idle rfl rfl closed trivial (keeps_refl fs).directories
              fun q content modified found _ => found
        | ok fs' =>
            simp only [step, task, flushed, empty, if_false, made]
            rw [part, final, partPathOf_eq, pathOf_eq] at made
            obtain ⟨q, target, noDirectory, elsewhere⟩ := FileSystem.moved_of_rename
              (s.isEnding_part number) (s.isEnding number) source there made
            rw [← pathOf_eq, ← final] at target
            refine behaves_of_idle rfl rfl closed trivial ?_ ?_
            · intro x directory
              rw [elsewhere x (fun same => ?_) (fun same => noDirectory (same ▸ directory))]
              · exact directory
              · rw [same, there] at directory
                cases directory
            · intro x content modified found spares
              rw [elsewhere x (spared x spares)
                fun same => spares.not_located (.final held) (same ▸ target)]
              exact found

/-- Every step keeps the files that the sink spares, and spares them further on. -/
theorem behaves_step (way : ∀ o, s.task = .probe o → s.HasWay fs) :
    s.Behaves fs (s.step fs turn).1 (s.step fs turn).2.1 := by
  cases task : s.task with
  | probe o => exact behaves_probe proper hasPart task (way o task)
  | create path o => exact behaves_create proper hasPart task
  | write file o => exact behaves_write proper hasPart task
  | finish file => exact behaves_finish proper hasPart task
  | ready =>
      simp only [step, task]
      have settled : s.Settled := by
        rw [Settled, task]
        trivial
      exact behaves_of_keeps proper hasPart (keeps_refl fs) rfl rfl rfl settled
  | announce request =>
      simp only [step, task]
      exact behaves_of_keeps proper hasPart (keeps_refl fs) rfl rfl (by simp only [held?, task])
        trivial
  | makeDirectory =>
      cases made : fs.makeDirectories s.config.dir with
      | ok fs' =>
          simp only [step, task, made]
          exact behaves_of_keeps proper hasPart (FileSystem.adds_of_makeDirectoriesAt made).keeps
            rfl rfl (by simp only [held?, task]) trivial
      | error e =>
          simp only [step, task, made]
          exact behaves_of_keeps proper hasPart (keeps_refl fs) rfl rfl
            (by simp only [held?, task, fail]) trivial

end Steps

/-- Before its first run. -/
def IsFresh (s : FileSink) : Prop := s.task = .makeDirectory ∧ s.current = none

theorem IsFresh.settled (fresh : s.IsFresh) : s.Settled := by
  rw [Settled, fresh.1]
  trivial

theorem IsFresh.idle (fresh : s.IsFresh) : s.held? = none := by
  simp only [held?, fresh.1, fresh.2]

theorem IsFresh.spares (fresh : s.IsFresh) : s.Spares fs q :=
  spares_of_idle fresh.settled fresh.idle

/-- What may come next for a sink: that it begins a run, is given a record or is told that there are
no more, or takes a step. -/
inductive Event where
  | start
  | accept (o : Output)
  | close
  | step (turn : FileTurn := {})

/-- Lets an event happen to the sink. It is told of records only while it waits. -/
def act (s : FileSink) (fs : FileSystem) : Event → FileSink × FileSystem × Option UploadRequest
  | .start => (if s.task = .ready ∧ s.current = none then s.start else s, fs, none)
  | .accept o => (if s.task = .ready then s.accept o else s, fs, none)
  | .close => (if s.task = .ready then s.close else s, fs, none)
  | .step turn => s.step fs turn

/-- If the sink looks for a free name next, the directory of its files is there. -/
def Sees (s : FileSink) (fs : FileSystem) : Event → Prop
  | .step _ => ∀ o, s.task = .probe o → s.HasWay fs
  | _ => True

theorem HasWay.sees (way : s.HasWay fs) (e : Event) : s.Sees fs e := by
  cases e with
  | step turn => exact fun _ _ => way
  | start | accept o | close => trivial

/-- No event touches a file that the sink spares. -/
theorem behaves_act (proper : s.Proper) (hasPart : s.HasPart fs) {e : Event} (sees : s.Sees fs e) :
    s.Behaves fs (s.act fs e).1 (s.act fs e).2.1 := by
  have same : s.Behaves fs s fs :=
    ⟨rfl, rfl, proper, fun _ found => found, fun q content modified there spares => ⟨there, spares⟩,
      fun file held => by
        obtain ⟨p, content, modified, located, there⟩ := hasPart file held
        exact ⟨p, content, modified, located, there, .inr ⟨file, held, located⟩⟩⟩
  cases e with
  | step turn => exact behaves_step proper hasPart sees
  | start =>
      rw [act]
      split
      · rename_i waits
        exact behaves_of_keeps proper hasPart (keeps_refl fs) rfl rfl
          (by simp only [held?, start, waits.1]) trivial
      · exact same
  | accept o =>
      rw [act]
      split
      · rename_i ready
        cases current : s.current with
        | some file =>
            simp only [accept, current]
            exact behaves_of_keeps proper hasPart (keeps_refl fs) rfl rfl
              (by simp only [held?, ready, current]) trivial
        | none =>
            simp only [accept, current]
            exact behaves_of_keeps proper hasPart (keeps_refl fs) rfl rfl
              (by simp only [held?, ready, current]) trivial
      · exact same
  | close =>
      rw [act]
      split
      · rename_i ready
        cases current : s.current with
        | some file =>
            simp only [close, current]
            exact behaves_of_keeps proper hasPart (keeps_refl fs) rfl rfl
              (by simp only [held?, ready, current]) rfl
        | none =>
            simp only [close, current]
            exact same
      · exact same

/-- No sink finishes a file where another one writes a file. -/
theorem final_ne_part {other : FileSink} {m n : Nat} {p : Place}
    (h : fs.locate (s.pathOf m) = .ok p) (h' : fs'.locate (partPathOf (other.pathOf n)) = .ok p) :
    False := by
  rw [pathOf_eq, FileSystem.locate_append_eq_ok_iff (s.isEnding m)] at h
  rw [partPathOf_eq, FileSystem.locate_append_eq_ok_iff (other.isEnding_part n)] at h'
  obtain ⟨_, _, _, rfl⟩ := h
  obtain ⟨_, _, _, same⟩ := h'
  have names := (List.append_singleton_inj.mp same).2
  have last := congrArg (fun text => text.toList.reverse.head?) names
  simp [ending, partPathOf] at last

end FileSink

end RecordPipeline
