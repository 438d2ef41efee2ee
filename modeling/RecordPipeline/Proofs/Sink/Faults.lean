import RecordPipeline.Proofs.Sink.Search
import RecordPipeline.Sink.Sink

/-!
What fails while a sink of files works. Each step does one thing to the files at most, and each time
that this fails is counted once. That a part file is there already is no failure: the search goes
on.
-/

namespace RecordPipeline

namespace FileSink

variable {s : FileSink} {fs : FileSystem}

/-- How an operation failed, if it did. -/
def failure? {α : Type} : Except IoError α → Option IoError
  | .ok _ => none
  | .error e => some e

/-- How the next step fails, if what it does to the files fails. A file without records is only
removed, and nobody looks whether this succeeds. -/
def fault? (s : FileSink) (fs : FileSystem) (turn : FileTurn) : Option IoError :=
  match s.task with
  | .makeDirectory => failure? (fs.makeDirectories s.config.dir)
  | .create path _ => (failure? (fs.create (partPathOf path))).filter (· ≠ .alreadyExists)
  | .write file o => failure? (fs.append file.partPath (s.format.line o))
  | .finish file =>
    match turn.flush with
    | some failure => some failure.cause
    | none =>
      if file.records = 0 then none else failure? (fs.rename file.partPath file.path)
  | .ready | .probe _ | .announce _ => none

/-- The failures of steps that a sink takes until it waits again, at most so many. -/
def faults (turn : FileTurn) : Nat → FileSink → FileSystem → List IoError
  | 0, _, _ => []
  | n + 1, s, fs =>
    if s.task = .ready then []
    else
      (s.fault? fs turn).toList ++ faults turn n (s.step fs turn).1 (s.step fs turn).2.1

/-- The failures until the sink waits again. -/
def workFaults (s : FileSink) (fs : FileSystem) (turn : FileTurn) : List IoError :=
  faults turn (2 * fs.length + 8) s fs

/-- The failures while outputs are taken, up to the end. -/
def acceptFaults (turn : FileTurn) : FileSink → List Output → FileSystem → List IoError
  | s, [], fs => s.close.workFaults fs turn
  | s, o :: rest, fs =>
    (s.accept o).workFaults fs turn ++
      acceptFaults turn ((s.accept o).work fs turn).1 rest ((s.accept o).work fs turn).2.1

/-- All failures of a run. -/
def runFaults (s : FileSink) (outputs : List Output) (e : Environment) : List IoError :=
  s.start.workFaults e.files (.of e) ++
    acceptFaults (.of e) (s.start.work e.files (.of e)).1 outputs
      (s.start.work e.files (.of e)).2.1

@[simp]
theorem afterRecord_errors (s : FileSink) (file : OpenFile) :
    (s.afterRecord file).errors = s.errors := by
  unfold afterRecord
  split
  · rfl
  · rfl

@[simp]
theorem accept_errors (s : FileSink) (o : Output) : (s.accept o).errors = s.errors := by
  unfold accept
  split
  · rfl
  · rfl

@[simp]
theorem close_errors (s : FileSink) : s.close.errors = s.errors := by
  unfold close
  split
  · rfl
  · rfl

/-- A step counts its failure. -/
theorem step_errors (s : FileSink) (fs : FileSystem) (turn : FileTurn) :
    (s.step fs turn).1.errors = s.errors + (s.fault? fs turn).toList.length := by
  cases task : s.task with
  | ready => simp only [step, fault?, task]; rfl
  | announce request => simp only [step, fault?, task]; rfl
  | probe o =>
      simp only [step, fault?, task]
      split
      · rfl
      · rfl
  | makeDirectory =>
      cases made : fs.makeDirectories s.config.dir with
      | ok fs' => simp only [step, fault?, task, made]; rfl
      | error e => simp only [step, fault?, task, made]; rfl
  | create path o =>
      cases made : fs.create (partPathOf path) with
      | ok fs' => simp only [step, fault?, task, made]; rfl
      | error e =>
          by_cases taken : e = .alreadyExists
          · simp only [step, fault?, task, made, taken]
            rfl
          · simp [step, fault?, task, made, failure?, fail, taken, Option.filter_some]
  | write file o =>
      cases made : fs.append file.partPath (s.format.line o) with
      | ok fs' => simp [step, fault?, task, made, failure?]
      | error e => simp [step, fault?, task, made, failure?, fail]
  | finish file =>
      cases flush : turn.flush with
      | some failure => simp [step, fault?, task, flush, fail]
      | none =>
          by_cases empty : file.records = 0
          · simp [step, fault?, task, flush, empty]
          · cases made : fs.rename file.partPath file.path with
            | ok fs' => simp [step, fault?, task, flush, empty, made, failure?]
            | error e => simp [step, fault?, task, flush, empty, made, failure?, fail]

/-- What fails is counted, each time it does. -/
theorem settle_errors (turn : FileTurn) (n : Nat) (s : FileSink) (fs : FileSystem) :
    (settle turn n s fs).1.errors = s.errors + (faults turn n s fs).length := by
  induction n generalizing s fs with
  | zero => rfl
  | succ n ih =>
      rw [faults]
      by_cases ready : s.task = .ready
      · rw [settle_of_ready ready, if_pos ready]
        rfl
      · rw [settle_succ ready, if_neg ready, List.length_append, ← Nat.add_assoc,
          ← step_errors s fs turn]
        exact ih _ _

theorem work_errors (s : FileSink) (fs : FileSystem) (turn : FileTurn) :
    (s.work fs turn).1.errors = s.errors + (s.workFaults fs turn).length :=
  settle_errors ..

/-- A sink that takes outputs and comes to its end counts all that fails. -/
theorem acceptAll_errors (outputs : List Output) (s : FileSink) (e : Environment) :
    ∃ s' files more, Sink.acceptAll (.file s) outputs e = (.file s', { e with files }, more) ∧
      (s'.close.work files (.of e)).1.errors =
        s.errors + (acceptFaults (.of e) s outputs e.files).length := by
  induction outputs generalizing s e with
  | nil =>
      refine ⟨s, e.files, [], rfl, ?_⟩
      rw [work_errors, close_errors]
      rfl
  | cons o rest ih =>
      obtain ⟨s', files, more, taken, errors⟩ := ih ((s.accept o).work e.files (.of e)).1
        { e with files := ((s.accept o).work e.files (.of e)).2.1 }
      refine ⟨s', files, ((s.accept o).work e.files (.of e)).2.2 ++ more, ?_, ?_⟩
      · rw [Sink.acceptAll, Sink.accept, Sink.fileWork]
        dsimp only
        rw [taken]
      · rw [acceptFaults, List.length_append, ← Nat.add_assoc, ← accept_errors s o,
          ← work_errors]
        exact errors

/-- A run counts as many errors as there are failures in it. -/
theorem run_errors (s : FileSink) (outputs : List Output) (e : Environment) :
    ∃ s' files requests, Sink.run (.file s) outputs e = (.file s', { e with files }, requests) ∧
      s'.errors = s.errors + (s.runFaults outputs e).length := by
  obtain ⟨s', files, more, taken, errors⟩ := acceptAll_errors outputs
    (s.start.work e.files (.of e)).1 { e with files := (s.start.work e.files (.of e)).2.1 }
  refine ⟨(s'.close.work files (.of e)).1, (s'.close.work files (.of e)).2.1,
    more ++ (s'.close.work files (.of e)).2.2, ?_, ?_⟩
  · rw [Sink.run, Sink.start, Sink.fileWork]
    dsimp only
    rw [taken]
    simp only [Sink.close, Sink.fileWork, FileTurn.of]
  · rw [runFaults, List.length_append, ← Nat.add_assoc]
    have started : s.start.errors = s.errors := rfl
    rw [← started, ← work_errors]
    exact errors

end FileSink

end RecordPipeline
