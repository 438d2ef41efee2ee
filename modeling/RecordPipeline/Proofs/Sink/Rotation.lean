import RecordPipeline.Proofs.Metric.Bags
import RecordPipeline.Proofs.Sink.Faults
import RecordPipeline.Proofs.Sink.Stored

/-!
A run of the sink that writes numbered files. Without a failure its files hold all outputs in their
order, as many in each as the configuration allows, and each of them is announced once.
-/

namespace RecordPipeline

namespace FileSink

variable {base s : FileSink} {before fs : FileSystem} {files : List NumberedFile}
  {part : Option NumberedFile} {f : NumberedFile} {o : Output} {turn : FileTurn}

/-- How a file is known to the sink while it is written. -/
def opened (s : FileSink) (f : NumberedFile) : OpenFile where
  partPath := partPathOf (s.pathOf f.number)
  path := s.pathOf f.number
  records := f.outputs.length

/-- What tells of a finished file. -/
def request (s : FileSink) (f : NumberedFile) : UploadRequest :=
  ⟨s.pathOf f.number, f.outputs.length⟩

def IsFull (s : FileSink) (f : NumberedFile) : Prop :=
  0 < s.config.maxRecords ∧ f.outputs.length = s.config.maxRecords

def HasRoom (s : FileSink) (f : NumberedFile) : Prop :=
  0 < s.config.maxRecords → f.outputs.length < s.config.maxRecords

/-- All outputs that some files hold, in the order of the files. -/
def held (files : List NumberedFile) : List Output := files.flatMap (·.outputs)

/-- What a sink has counted, by the files that it finished and the one that it writes. -/
structure Counted (s : FileSink) (files : List NumberedFile) (part : Option NumberedFile) :
    Prop where
  records : s.written = (held (files ++ part.toList)).length
  bytes : s.bytes = (s.content (held (files ++ part.toList))).length
  finished : s.finished = files.length
  dropped : s.dropped = 0
  samples : s.bag.get? "file_records" = if files = [] then none
    else some (.histogram (files.map fun f => Float.ofNat f.outputs.length))

/-- The numbers of the files go up, and all of them are below the next one. -/
structure Ascending (next : Nat) (files : List NumberedFile) (part : Option NumberedFile) :
    Prop where
  increasing : ((files ++ part.toList).map (·.number)).Pairwise (· < ·)
  below : ∀ f ∈ files ++ part.toList, f.number < next

/-- How far the sink has come with an output: the file that is written, the output that is not in a
file yet, and the request that is not made yet. -/
inductive Phase (base s : FileSink) (fs : FileSystem) (files : List NumberedFile) :
    Option NumberedFile → List Output → List UploadRequest → Prop where
  | between (task : s.task = .ready) (closed : s.current = none) : Phase base s fs files none [] []
  | part {f : NumberedFile} (task : s.task = .ready) (current : s.current = some (base.opened f))
      (begun : f.outputs ≠ []) (room : base.HasRoom f) : Phase base s fs files (some f) [] []
  | probe {o : Output} (task : s.task = .probe o) : Phase base s fs files none [o] []
  | create {o : Output} {number : Nat} (task : s.task = .create (base.pathOf number) o)
      (looked : s.sequence = number + 1) (later : ∀ f ∈ files, f.number < number)
      (free : fs.has (base.pathOf number) = false) : Phase base s fs files none [o] []
  | write {f : NumberedFile} {o : Output} (task : s.task = .write (base.opened f) o)
      (room : base.HasRoom f) : Phase base s fs files (some f) [o] []
  | finish {f : NumberedFile} (task : s.task = .finish (base.opened f)) (closed : s.current = none)
      (full : base.IsFull f) : Phase base s fs files (some f) [] []
  | announce {f : NumberedFile} (task : s.task = .announce (base.request f))
      (closed : s.current = none) : Phase base s fs files none [] [base.request f]

/-- The sink in the midst of its run: the outputs it has taken are in its files, but for one that is
on its way, and its finished files are full and announced, but for one at most. -/
structure Midway (base : FileSink) (before : FileSystem) (taken : List Output)
    (requests : List UploadRequest) (s : FileSink) (fs : FileSystem) (files : List NumberedFile)
    (part : Option NumberedFile) (pending : List Output) (waiting : List UploadRequest) : Prop where
  config : s.config = base.config
  instanceNumber : s.instanceNumber = base.instanceNumber
  stored : Stored base before fs files part
  counted : Counted s files part
  ascending : Ascending s.sequence files part
  phase : Phase base s fs files part pending waiting
  full : ∀ f ∈ files, base.IsFull f
  taken : held (files ++ part.toList) ++ pending = taken
  announced : requests ++ waiting = files.map base.request

/-- A sink that waits has all outputs in its files and has announced those that are finished. -/
theorem Phase.waits {pending : List Output} {waiting : List UploadRequest}
    (phase : Phase base s fs files part pending waiting) (ready : s.task = .ready) :
    pending = [] ∧ waiting = [] ∧
      ((part = none ∧ s.current = none) ∨
        ∃ f, part = some f ∧ s.current = some (base.opened f) ∧ f.outputs ≠ [] ∧
          base.HasRoom f) := by
  cases phase with
  | between task closed => exact ⟨rfl, rfl, .inl ⟨rfl, closed⟩⟩
  | @part f task current begun room => exact ⟨rfl, rfl, .inr ⟨f, rfl, current, begun, room⟩⟩
  | probe task => rw [task] at ready; cases ready
  | create task => rw [task] at ready; cases ready
  | write task => rw [task] at ready; cases ready
  | finish task => rw [task] at ready; cases ready
  | announce task => rw [task] at ready; cases ready

@[simp]
theorem held_append (front back : List NumberedFile) :
    held (front ++ back) = held front ++ held back := List.flatMap_append

@[simp]
theorem held_singleton (f : NumberedFile) : held [f] = f.outputs := List.flatMap_singleton ..

theorem format_congr (config : s.config = base.config) : s.format = base.format := by
  rw [format, format, config]

theorem content_congr (config : s.config = base.config) (outputs : List Output) :
    s.content outputs = base.content outputs := by
  rw [content, content, format_congr config]

namespace Counted

theorem begin (inv : Counted s files none) (number : Nat) (task : FileTask) :
    Counted { s with task } files (some ⟨number, []⟩) := by
  obtain ⟨records, bytes, finished, dropped, samples⟩ := inv
  have same : held (files ++ (some (NumberedFile.mk number [])).toList) =
      held (files ++ Option.toList none) := by simp [held]
  refine ⟨?_, ?_, finished, dropped, samples⟩
  · rw [same]
    exact records
  · rw [same]
    exact bytes

theorem write {f : NumberedFile} (inv : Counted s files (some f)) (o : Output) :
    Counted { s with written := s.written + 1, bytes := s.bytes + (s.format.line o).length } files
      (some ⟨f.number, f.outputs ++ [o]⟩) := by
  obtain ⟨records, bytes, finished, dropped, samples⟩ := inv
  have more : held (files ++ (some (NumberedFile.mk f.number (f.outputs ++ [o]))).toList) =
      held (files ++ (some f).toList) ++ [o] := by simp
  refine ⟨?_, ?_, finished, dropped, samples⟩
  · rw [more, List.length_append, ← records]
    rfl
  · have line : ∀ outputs, (s.content (outputs ++ [o])).length =
        (s.content outputs).length + (s.format.line o).length := by
      intro outputs
      rw [content_append, content_singleton, List.length_append]
    rw [more]
    exact (congrArg (· + (s.format.line o).length) bytes).trans (line _).symm

/-- A finished file is one more observation. -/
theorem samples_of_finish (samples : s.bag.get? "file_records" = if files = [] then none
      else some (.histogram (files.map fun f => Float.ofNat f.outputs.length))) (f : NumberedFile) :
    (((s.bag.count "files" 1).insert "file_records"
      (.histogram [Float.ofNat f.outputs.length])).toOption.getD
        (s.bag.count "files" 1)).get? "file_records" =
      some (.histogram ((files ++ [f]).map fun f => Float.ofNat f.outputs.length)) := by
  have different : "file_records" ≠ "files" := by decide
  rw [← Bag.get?_count_of_ne different s.bag 1] at samples
  by_cases first : files = []
  · rw [if_pos first] at samples
    rw [Bag.insert_of_get?_eq_none samples, first]
    exact Bag.get?_put_self ..
  · rw [if_neg first] at samples
    rw [Bag.insert_histogram samples, List.map_append]
    exact Bag.get?_put_self ..

theorem finish {f : NumberedFile} (inv : Counted s files (some f)) (task : FileTask) :
    Counted { s with
      task, finished := s.finished + 1
      bag := ((s.bag.count "files" 1).insert "file_records"
        (.histogram [Float.ofNat f.outputs.length])).toOption.getD (s.bag.count "files" 1) }
      (files ++ [f]) none := by
  obtain ⟨records, bytes, finished, dropped, samples⟩ := inv
  have same : held ((files ++ [f]) ++ Option.toList none) = held (files ++ (some f).toList) := by
    simp
  refine ⟨?_, ?_, ?_, dropped, ?_⟩
  · rw [same]
    exact records
  · rw [same]
    exact bytes
  · rw [List.length_append]
    exact congrArg (· + 1) finished
  · rw [if_neg (by simp)]
    exact samples_of_finish samples f

end Counted

namespace Ascending

variable {next : Nat}

theorem pass (inv : Ascending next files part) : Ascending (next + 1) files part :=
  ⟨inv.increasing, fun f member => Nat.lt_succ_of_lt (inv.below f member)⟩

theorem begin (inv : Ascending next files none) {number : Nat} (looked : next = number + 1)
    (later : ∀ f ∈ files, f.number < number) : Ascending next files (some ⟨number, []⟩) := by
  obtain ⟨increasing, below⟩ := inv
  rw [Option.toList_none, List.append_nil] at increasing below
  constructor
  · rw [List.map_append, List.pairwise_append]
    refine ⟨increasing, List.pairwise_singleton _ _, ?_⟩
    intro m earlier n same
    obtain ⟨f, member, rfl⟩ := List.mem_map.mp earlier
    rw [List.mem_singleton.mp same]
    exact later f member
  · intro f member
    rcases List.mem_append.mp member with old | new
    · exact below f old
    · rw [List.mem_singleton.mp new]
      show number < next
      omega

/-- The numbers do not depend on what the files hold. -/
theorem write {f : NumberedFile} (inv : Ascending next files (some f)) (outputs : List Output) :
    Ascending next files (some ⟨f.number, outputs⟩) := by
  obtain ⟨increasing, below⟩ := inv
  constructor
  · rw [List.map_append] at increasing ⊢
    exact increasing
  · intro g member
    rcases List.mem_append.mp member with old | new
    · exact below g (List.mem_append_left _ old)
    · rw [List.mem_singleton.mp new]
      exact below f (List.mem_append_right _ (List.mem_singleton_self f))

theorem finish {f : NumberedFile} (inv : Ascending next files (some f)) :
    Ascending next (files ++ [f]) none := by
  obtain ⟨increasing, below⟩ := inv
  rw [Option.toList_some] at increasing below
  constructor
  · rw [Option.toList_none, List.append_nil]
    exact increasing
  · rw [Option.toList_none, List.append_nil]
    exact below

end Ascending

/-- A file with something in it gets its final name, unless that fails. -/
theorem step_finish (task : s.task = .finish (base.opened f)) (begun : f.outputs ≠ [])
    (ok : (s.step fs turn).1.errors = 0) :
    ∃ fs', fs.rename (partPathOf (base.pathOf f.number)) (base.pathOf f.number) = .ok fs' ∧
      s.step fs turn = ({ s with
        task := .announce (base.request f), finished := s.finished + 1
        bag := ((s.bag.count "files" 1).insert "file_records"
          (.histogram [Float.ofNat f.outputs.length])).toOption.getD (s.bag.count "files" 1) },
        fs', none) := by
  have some : f.outputs.length ≠ 0 := by simpa using begun
  have errors := step_errors s fs turn
  have fine : (s.fault? fs turn).toList.length = 0 := by omega
  simp only [fault?, task, opened, if_neg some] at fine
  cases flushed : turn.flush with
  | some failure =>
      rw [flushed] at fine
      cases fine
  | none =>
      rw [flushed] at fine
      cases made : fs.rename (partPathOf (base.pathOf f.number)) (base.pathOf f.number) with
      | ok fs' =>
          refine ⟨fs', rfl, ?_⟩
          simp only [step, task, opened, if_neg some, flushed, made]
          rfl
      | error e =>
          rw [made] at fine
          cases fine

/-- The sink in the midst of its run, wherever it is. -/
def Progress (base : FileSink) (before : FileSystem) (taken : List Output)
    (requests : List UploadRequest) (s : FileSink) (fs : FileSystem) : Prop :=
  ∃ files part pending waiting,
    Midway base before taken requests s fs files part pending waiting

variable {taken : List Output} {requests : List UploadRequest}

namespace Midway

theorem step_probe (inv : Midway base before taken requests s fs files none [o] [])
    (task : s.task = .probe o) :
    Progress base before taken (requests ++ (s.step fs turn).2.2.toList) (s.step fs turn).1
      (s.step fs turn).2.1 := by
  have path := pathOf_congr inv.config inv.instanceNumber s.sequence
  cases has : fs.has (base.pathOf s.sequence) with
  | true =>
      have next : s.step fs turn = ({ s with sequence := s.sequence + 1 }, fs, none) := by
        simp only [step, task, path, has, if_true]
      rw [next, Option.toList_none, List.append_nil]
      exact ⟨files, none, [o], [], inv.config, inv.instanceNumber, inv.stored,
        { inv.counted with }, inv.ascending.pass, .probe task, inv.full, inv.taken,
        inv.announced⟩
  | false =>
      have next : s.step fs turn = ({ s with
          sequence := s.sequence + 1, task := .create (base.pathOf s.sequence) o }, fs, none) := by
        simp only [step, task, path, has, Bool.false_eq_true, if_false]
      rw [next, Option.toList_none, List.append_nil]
      have later : ∀ f ∈ files, f.number < s.sequence := fun f member =>
        inv.ascending.below f (List.mem_append_left _ member)
      exact ⟨files, none, [o], [], inv.config, inv.instanceNumber, inv.stored,
        { inv.counted with }, inv.ascending.pass, .create rfl rfl later has, inv.full, inv.taken,
        inv.announced⟩

theorem step_create {number : Nat} (inv : Midway base before taken requests s fs files none [o] [])
    (task : s.task = .create (base.pathOf number) o) (looked : s.sequence = number + 1)
    (later : ∀ f ∈ files, f.number < number) (free : fs.has (base.pathOf number) = false)
    (ok : (s.step fs turn).1.errors = 0) :
    Progress base before taken (requests ++ (s.step fs turn).2.2.toList) (s.step fs turn).1
      (s.step fs turn).2.1 := by
  cases made : fs.create (partPathOf (base.pathOf number)) with
  | ok fs' =>
      have next : s.step fs turn =
          ({ s with task := .write (base.opened ⟨number, []⟩) o }, fs', none) := by
        simp only [step, task, made]
        rfl
      rw [next, Option.toList_none, List.append_nil]
      have room : base.HasRoom ⟨number, []⟩ := fun some => some
      refine ⟨files, some ⟨number, []⟩, [o], [], inv.config, inv.instanceNumber,
        inv.stored.create free made, inv.counted.begin number _, inv.ascending.begin looked later,
        .write rfl room, inv.full, ?_, inv.announced⟩
      rw [← inv.taken]
      simp [held]
  | error e =>
      by_cases taken : e = .alreadyExists
      · have next : s.step fs turn = ({ s with task := .probe o }, fs, none) := by
          simp only [step, task, made, taken]
        rw [next, Option.toList_none, List.append_nil]
        exact ⟨files, none, [o], [], inv.config, inv.instanceNumber, inv.stored,
          { inv.counted with }, inv.ascending, .probe rfl, inv.full, inv.taken, inv.announced⟩
      · have failed : (s.step fs turn).1.errors = s.errors + 1 := by
          simp only [step, task, made, fail]
        omega

theorem opened_succ (base f : _) (o : Output) :
    FileSink.opened base ⟨f.number, f.outputs ++ [o]⟩ =
      { base.opened f with records := (base.opened f).records + 1 } := by
  simp [opened]

theorem step_write (inv : Midway base before taken requests s fs files (some f) [o] [])
    (task : s.task = .write (base.opened f) o) (room : base.HasRoom f)
    (ok : (s.step fs turn).1.errors = 0) :
    Progress base before taken (requests ++ (s.step fs turn).2.2.toList) (s.step fs turn).1
      (s.step fs turn).2.1 := by
  cases made : fs.append (partPathOf (base.pathOf f.number)) (s.format.line o) with
  | error e =>
      have failed : (s.step fs turn).1.errors = s.errors + 1 := by
        simp only [step, task, opened, made, afterRecord, fail]
        split
        · rfl
        · rfl
      omega
  | ok fs' =>
      have next : s.step fs turn =
          ({ s with
              written := s.written + 1, bytes := s.bytes + (s.format.line o).length }.afterRecord
            (base.opened ⟨f.number, f.outputs ++ [o]⟩), fs', none) := by
        rw [opened_succ]
        simp only [step, task, opened, made]
      have stored : Stored base before fs' files (some ⟨f.number, f.outputs ++ [o]⟩) := by
        rw [format_congr inv.config] at made
        exact inv.stored.append made
      have taken' :
          held (files ++ (some (NumberedFile.mk f.number (f.outputs ++ [o]))).toList) ++ [] =
            taken := by
        rw [← inv.taken]
        simp
      have counted := inv.counted.write o
      rw [next, Option.toList_none, List.append_nil, afterRecord]
      by_cases full : 0 < s.config.maxRecords ∧
          s.config.maxRecords ≤ (base.opened ⟨f.number, f.outputs ++ [o]⟩).records
      · rw [if_pos full]
        have isFull : base.IsFull ⟨f.number, f.outputs ++ [o]⟩ := by
          obtain ⟨limited, reached⟩ := full
          rw [inv.config] at limited reached
          have short := room limited
          simp only [opened, List.length_append, List.length_singleton] at reached
          refine ⟨limited, ?_⟩
          rw [List.length_append, List.length_singleton]
          omega
        exact ⟨files, some ⟨f.number, f.outputs ++ [o]⟩, [], [], inv.config, inv.instanceNumber,
          stored, { counted with }, inv.ascending.write _, .finish rfl rfl isFull, inv.full, taken',
          inv.announced⟩
      · rw [if_neg full]
        have hasRoom : base.HasRoom ⟨f.number, f.outputs ++ [o]⟩ := by
          intro limited
          rw [inv.config, not_and, Nat.not_le] at full
          exact full limited
        exact ⟨files, some ⟨f.number, f.outputs ++ [o]⟩, [], [], inv.config, inv.instanceNumber,
          stored, { counted with }, inv.ascending.write _, .part rfl rfl (by simp) hasRoom,
          inv.full, taken', inv.announced⟩

end Midway

/-- What one step makes of the sink, as long as nothing fails. -/
theorem Progress.step (inv : Progress base before taken requests s fs) (busy : s.task ≠ .ready)
    (ok : (s.step fs turn).1.errors = 0) :
    Progress base before taken (requests ++ (s.step fs turn).2.2.toList) (s.step fs turn).1
      (s.step fs turn).2.1 := by
  obtain ⟨files, part, pending, waiting, inv⟩ := inv
  cases inv.phase with
  | between task closed => exact absurd task busy
  | part task current begun room => exact absurd task busy
  | probe task => exact inv.step_probe task
  | create task looked later free => exact inv.step_create task looked later free ok
  | write task room => exact inv.step_write task room ok
  | @finish f task closed full =>
      have begun : f.outputs ≠ [] := by
        apply List.ne_nil_of_length_pos
        rw [full.2]
        exact full.1
      obtain ⟨fs', made, next⟩ := step_finish task begun ok
      rw [next, Option.toList_none, List.append_nil]
      refine ⟨files ++ [f], none, [], [base.request f], inv.config, inv.instanceNumber,
        inv.stored.finish made, inv.counted.finish _, inv.ascending.finish, .announce rfl closed,
        ?_, ?_, ?_⟩
      · intro g member
        rcases List.mem_append.mp member with old | new
        · exact inv.full g old
        · exact List.mem_singleton.mp new ▸ full
      · rw [← inv.taken]
        simp
      · rw [List.map_append, ← inv.announced, List.append_nil]
        rfl
  | @announce f task closed =>
      have next : s.step fs turn = ({ s with task := .ready }, fs, some (base.request f)) := by
        simp only [FileSink.step, task]
      rw [next]
      refine ⟨files, none, [], [], inv.config, inv.instanceNumber, inv.stored,
        { inv.counted with }, inv.ascending, .between rfl closed, inv.full, inv.taken, ?_⟩
      rw [List.append_nil]
      exact inv.announced

theorem Progress.settle {n : Nat} (inv : Progress base before taken requests s fs)
    (ok : (settle turn n s fs).1.errors = 0) :
    Progress base before taken (requests ++ (settle turn n s fs).2.2) (settle turn n s fs).1
      (settle turn n s fs).2.1 := by
  induction n generalizing s fs requests with
  | zero => simpa [FileSink.settle] using inv
  | succ n ih =>
      by_cases ready : s.task = .ready
      · rw [settle_of_ready ready, List.append_nil]
        exact inv
      · rw [settle_succ ready] at ok ⊢
        have fine : (s.step fs turn).1.errors = 0 := by
          have := settle_errors turn n (s.step fs turn).1 (s.step fs turn).2.1
          dsimp only at ok
          omega
        have rest := ih (inv.step ready fine) ok
        rw [List.append_assoc] at rest
        exact rest

/-- A sink that waits takes an output. -/
theorem Progress.accept (inv : Progress base before taken requests s fs) (ready : s.task = .ready)
    (o : Output) : Progress base before (taken ++ [o]) requests (s.accept o) fs := by
  obtain ⟨files, part, pending, waiting, inv⟩ := inv
  have held := inv.taken
  obtain ⟨rfl, rfl, ⟨rfl, closed⟩ | ⟨f, rfl, current, begun, room⟩⟩ := inv.phase.waits ready
  · have next : s.accept o = { s with task := .probe o } := by rw [FileSink.accept, closed]
    rw [next]
    refine ⟨files, none, [o], [], inv.config, inv.instanceNumber, inv.stored,
      { inv.counted with }, inv.ascending, .probe rfl, inv.full, ?_, inv.announced⟩
    rw [← held, List.append_nil]
  · have next : s.accept o = { s with task := .write (base.opened f) o } := by
      rw [FileSink.accept, current]
    rw [next]
    refine ⟨files, some f, [o], [], inv.config, inv.instanceNumber, inv.stored,
      { inv.counted with }, inv.ascending, .write rfl room, inv.full, ?_, inv.announced⟩
    rw [← held, List.append_nil]

/-- Outputs that are taken one after the other. -/
theorem acceptAll_file (outputs : List Output) (e : Environment) (ready : s.task = .ready)
    (inv : s.errors = 0 → Progress base before taken requests s e.files) :
    ∃ s' files' more, Sink.acceptAll (.file s) outputs e =
        (.file s', { e with files := files' }, more) ∧
      s'.task = .ready ∧ s.errors ≤ s'.errors ∧
        (s'.errors = 0 → Progress base before (taken ++ outputs) (requests ++ more) s' files') := by
  induction outputs generalizing s e taken requests with
  | nil =>
      refine ⟨s, e.files, [], rfl, ready, Nat.le_refl _, ?_⟩
      simpa using inv
  | cons o rest ih =>
      have counted : s.errors ≤ ((s.accept o).work e.files (.of e)).1.errors := by
        rw [work_errors, accept_errors]
        exact Nat.le_add_right ..
      have next : ((s.accept o).work e.files (.of e)).1.errors = 0 →
          Progress base before (taken ++ [o])
            (requests ++ ((s.accept o).work e.files (.of e)).2.2)
            ((s.accept o).work e.files (.of e)).1 ((s.accept o).work e.files (.of e)).2.1 := by
        intro ok
        exact ((inv (by omega)).accept ready o).settle ok
      obtain ⟨s', files', more, run, ready', errors, inv'⟩ :=
        ih { e with files := ((s.accept o).work e.files (.of e)).2.1 } (work_ready _ _ _) next
      refine ⟨s', files', ((s.accept o).work e.files (.of e)).2.2 ++ more, ?_, ready',
        Nat.le_trans counted errors, ?_⟩
      · rw [Sink.acceptAll, Sink.accept, Sink.fileWork]
        dsimp only
        rw [run]
      · intro ok
        have all := inv' ok
        rw [List.append_assoc, List.append_assoc] at all
        exact all

/-- What a run has done with the files: the outputs are in finished files, as many in each as it may
hold, and all else is as it was before. -/
structure Rotated (base : FileSink) (before after : FileSystem) (outputs : List Output)
    (requests : List UploadRequest) (s : FileSink) (files : List NumberedFile) : Prop where
  kept : ∀ p node, before.get? p = some node → after.get? p = some node
  increasing : (files.map (·.number)).Pairwise (· < ·)
  free : ∀ f ∈ files, before.has (base.pathOf f.number) = false ∧
    before.has (partPathOf (base.pathOf f.number)) = false
  contents : ∀ f ∈ files,
    after.read (base.pathOf f.number) = .ok (f.outputs.flatMap base.format.line)
  inOrder : files.flatMap (·.outputs) = outputs
  sizes : ∀ f ∈ files, 0 < f.outputs.length ∧
    (0 < base.config.maxRecords → f.outputs.length ≤ base.config.maxRecords)
  full : ∀ f ∈ files.dropLast, f.outputs.length = base.config.maxRecords
  count : files.length =
    if base.config.maxRecords = 0 then if outputs = [] then 0 else 1
    else (outputs.length + (base.config.maxRecords - 1)) / base.config.maxRecords
  announced : requests = files.map fun f => ⟨base.pathOf f.number, f.outputs.length⟩
  noPart : ∀ number p content modified,
    after.locate (partPathOf (base.pathOf number)) = .ok p →
      after.get? p = some (.file content modified) →
        before.get? p = some (.file content modified)
  nothingElse : ∀ p content modified, after.get? p = some (.file content modified) →
    before.get? p = some (.file content modified) ∨
      ∃ f ∈ files, after.locate (base.pathOf f.number) = .ok p
  written : s.written = outputs.length
  bytes : s.bytes = (outputs.flatMap base.format.line).length
  finished : s.finished = files.length
  dropped : s.dropped = 0
  samples : s.bag.get? "file_records" = if files = [] then none
    else some (.histogram (files.map fun f => Float.ofNat f.outputs.length))

theorem length_held_of_full {full : List NumberedFile} (allFull : ∀ f ∈ full, base.IsFull f) :
    (held full).length = base.config.maxRecords * full.length := by
  induction full with
  | nil => rfl
  | cons f rest ih =>
      have first := (allFull f List.mem_cons_self).2
      have others := ih fun g member => allFull g (List.mem_cons_of_mem f member)
      calc (held (f :: rest)).length = f.outputs.length + (held rest).length := by
            simp [held]
        _ = base.config.maxRecords * (rest.length + 1) := by
            rw [first, others, Nat.mul_add, Nat.mul_one, Nat.add_comm]

/-- Full files and one that is not, if anything is left over, are as many as are needed. -/
theorem count_of_full {full : List NumberedFile} {last : Option NumberedFile}
    (allFull : ∀ f ∈ full, base.IsFull f)
    (lastSize : ∀ f ∈ last, f.outputs ≠ [] ∧ base.HasRoom f) :
    (full ++ last.toList).length =
      if base.config.maxRecords = 0 then if held (full ++ last.toList) = [] then 0 else 1
      else ((held (full ++ last.toList)).length + (base.config.maxRecords - 1)) /
        base.config.maxRecords := by
  have length := length_held_of_full allFull
  by_cases limit : base.config.maxRecords = 0
  · rw [if_pos limit]
    have none : full = [] := by
      cases full with
      | nil => rfl
      | cons f rest =>
          have limited := (allFull f List.mem_cons_self).1
          omega
    rw [none, List.nil_append]
    cases last with
    | none => rfl
    | some f =>
        rw [Option.toList_some, held_singleton, if_neg (lastSize f rfl).1]
        rfl
  · rw [if_neg limit]
    have limited : 0 < base.config.maxRecords := Nat.pos_of_ne_zero limit
    rw [held_append, List.length_append, List.length_append, length, Nat.add_assoc,
      Nat.mul_add_div limited]
    congr 1
    cases last with
    | none =>
        symm
        apply Nat.div_eq_of_lt
        show 0 + (base.config.maxRecords - 1) < _
        omega
    | some f =>
        obtain ⟨begun, room⟩ := lastSize f rfl
        have short := room limited
        have some := List.length_pos_iff.mpr begun
        rw [Option.toList_some, held_singleton, List.length_singleton]
        symm
        apply Nat.div_eq_of_lt_le
        · omega
        · omega

/-- What holds when no file is written any more, and all but the last are full. -/
theorem rotated_of_stored {requests : List UploadRequest} {outputs : List Output}
    {full : List NumberedFile} {last : Option NumberedFile} (config : s.config = base.config)
    (stored : Stored base before fs (full ++ last.toList) none)
    (counted : Counted s (full ++ last.toList) none)
    (ascending : Ascending s.sequence (full ++ last.toList) none)
    (allFull : ∀ f ∈ full, base.IsFull f)
    (lastSize : ∀ f ∈ last, f.outputs ≠ [] ∧ base.HasRoom f)
    (inOrder : held (full ++ last.toList) = outputs)
    (announced : requests = (full ++ last.toList).map base.request) :
    Rotated base before fs outputs requests s (full ++ last.toList) := by
  obtain ⟨kept, free, finished, _, others⟩ := stored
  obtain ⟨records, bytes, files, dropped, samples⟩ := counted
  obtain ⟨increasing, _⟩ := ascending
  rw [Option.toList_none, List.append_nil] at free records bytes increasing
  have nothingElse : ∀ p content modified, fs.get? p = some (.file content modified) →
      before.get? p = some (.file content modified) ∨
        ∃ f ∈ full ++ last.toList, fs.locate (base.pathOf f.number) = .ok p := by
    intro p content modified found
    obtain old | finished | ⟨f, none, _⟩ := others p content modified found
    · exact .inl old
    · exact .inr finished
    · cases none
  refine ⟨kept, increasing, free, ?_, inOrder, ?_, ?_, ?_, announced, ?_, nothingElse, ?_, ?_,
    files, dropped, samples⟩
  · intro f member
    obtain ⟨p, located, found⟩ := finished f member
    rw [pathOf_eq] at located ⊢
    rw [FileSystem.read, FileSystem.find_append (base.isEnding f.number) located, found]
    rfl
  · intro f member
    rcases List.mem_append.mp member with old | new
    · obtain ⟨limited, size⟩ := allFull f old
      rw [size]
      exact ⟨limited, fun _ => Nat.le_refl _⟩
    · obtain ⟨begun, room⟩ := lastSize f (Option.mem_toList.mp new)
      exact ⟨List.length_pos_iff.mpr begun, fun limited => Nat.le_of_lt (room limited)⟩
  · intro f member
    refine (allFull f ?_).2
    cases last with
    | none => exact (List.dropLast_sublist _).subset (by simpa using member)
    | some g => simpa using member
  · rw [← inOrder]
    exact count_of_full allFull lastSize
  · intro number p content modified located found
    obtain old | ⟨f, _, place⟩ := nothingElse p content modified found
    · exact old
    · exact absurd rfl (path_ne_part place located)
  · rw [records, inOrder]
  · rw [bytes, inOrder, content_congr config]
    rfl

/-- A file that is finished is announced, and then the sink waits again. -/
theorem work_finish (task : s.task = .finish (base.opened f)) (begun : f.outputs ≠ [])
    (ok : (s.work fs turn).1.errors = 0) :
    ∃ fs', fs.rename (partPathOf (base.pathOf f.number)) (base.pathOf f.number) = .ok fs' ∧
      s.work fs turn = ({ s with
        task := .ready, finished := s.finished + 1
        bag := ((s.bag.count "files" 1).insert "file_records"
          (.histogram [Float.ofNat f.outputs.length])).toOption.getD (s.bag.count "files" 1) },
        fs', [base.request f]) := by
  have busy : s.task ≠ .ready := by rw [task]; simp
  rw [work, settle_succ busy] at ok ⊢
  have fine : (s.step fs turn).1.errors = 0 := by
    have := settle_errors turn (2 * fs.length + 7) (s.step fs turn).1 (s.step fs turn).2.1
    dsimp only at ok
    omega
  obtain ⟨fs', made, next⟩ := step_finish task begun fine
  refine ⟨fs', made, ?_⟩
  rw [next]
  dsimp only
  rw [settle_succ (by simp)]
  simp only [FileSink.step]
  rw [settle_of_ready rfl]
  rfl

/-- At the end the file that is open is finished and announced. -/
theorem Progress.close (inv : Progress base before taken requests s fs) (ready : s.task = .ready)
    (ok : (s.close.work fs turn).1.errors = 0) :
    ∃ files, Rotated base before (s.close.work fs turn).2.1 taken
      (requests ++ (s.close.work fs turn).2.2) (s.close.work fs turn).1 files := by
  obtain ⟨files, part, pending, waiting, inv⟩ := inv
  have held := inv.taken
  have announced := inv.announced
  obtain ⟨rfl, rfl, ⟨rfl, closed⟩ | ⟨f, rfl, current, begun, room⟩⟩ := inv.phase.waits ready
  · have same : s.close = s := by rw [FileSink.close, closed]
    rw [same, work, settle_of_ready ready]
    rw [List.append_nil] at held announced ⊢
    have stored := inv.stored
    have counted := inv.counted
    have ascending := inv.ascending
    refine ⟨files ++ Option.toList none, rotated_of_stored inv.config ?_ ?_ ?_ inv.full
      (fun f none => absurd none (by simp)) held ?_⟩
    · rwa [Option.toList_none, List.append_nil]
    · rwa [Option.toList_none, List.append_nil]
    · rwa [Option.toList_none, List.append_nil]
    · rwa [Option.toList_none, List.append_nil]
  · have closing : s.close = { s with task := .finish (base.opened f), current := none } := by
      rw [FileSink.close, current]
    rw [closing] at ok ⊢
    obtain ⟨fs', made, work⟩ := work_finish rfl begun ok
    rw [work]
    rw [List.append_nil] at held announced
    refine ⟨files ++ (some f).toList, rotated_of_stored inv.config (inv.stored.finish made)
      { inv.counted.finish .ready with } inv.ascending.finish inv.full ?_ held ?_⟩
    · rintro g ⟨⟩
      exact ⟨begun, room⟩
    · rw [List.map_append, ← announced]
      rfl

/-- The first thing that is done is that the directory is made. -/
theorem start_work (c : FileSinkConfig) (number : Nat) (fs : FileSystem) (turn : FileTurn) :
    ∃ s fs', (FileSink.start { config := c, instanceNumber := number }).work fs turn =
        (s, fs', []) ∧
      s.task = .ready ∧
      (s.errors = 0 →
        Progress { config := c, instanceNumber := number } fs [] [] s fs') := by
  have busy : (FileSink.start { config := c, instanceNumber := number }).task ≠ .ready := by
    simp [start]
  rw [work, settle_succ busy]
  cases made : fs.makeDirectories c.dir with
  | error e =>
      simp only [FileSink.step, start, made]
      rw [settle_of_ready rfl]
      exact ⟨_, _, rfl, rfl, fun failed => absurd failed (Nat.succ_ne_zero 0)⟩
  | ok fs' =>
      simp only [FileSink.step, start, made]
      rw [settle_of_ready rfl]
      refine ⟨_, _, rfl, rfl, fun _ => ⟨[], none, [], [], rfl, rfl, ?_, ?_, ?_,
        .between rfl rfl, ?_, rfl, rfl⟩⟩
      · have adds := FileSystem.adds_of_makeDirectoriesAt made
        refine ⟨adds.keeps, ?_, ?_, ?_, ?_⟩
        · exact fun f none => absurd none List.not_mem_nil
        · exact fun f none => absurd none List.not_mem_nil
        · exact fun f none => absurd none (by simp)
        · exact fun p content modified found => .inl (adds.files p content modified found)
      · exact ⟨rfl, rfl, rfl, rfl, rfl⟩
      · exact ⟨List.Pairwise.nil, fun f none => absurd none List.not_mem_nil⟩
      · exact fun f none => absurd none List.not_mem_nil

/-- One run over all outputs. -/
theorem exists_run (c : FileSinkConfig) (number : Nat) (outputs : List Output) (e : Environment) :
    ∃ s after requests, Sink.run (.ofConfig (.file c) number) outputs e =
        (.file s, { e with files := after }, requests) ∧
      (s.errors = 0 → ∃ files,
        Rotated { config := c, instanceNumber := number } e.files after outputs requests s
          files) := by
  obtain ⟨s, between, started, ready, inv⟩ := start_work c number e.files (.of e)
  obtain ⟨s', files', more, taken, ready', _, inv'⟩ :=
    acceptAll_file outputs { e with files := between } ready inv
  refine ⟨(s'.close.work files' (.of e)).1, (s'.close.work files' (.of e)).2.1,
    more ++ (s'.close.work files' (.of e)).2.2, ?_, ?_⟩
  · rw [Sink.run, Sink.ofConfig, Sink.start, Sink.fileWork, started]
    dsimp only
    rw [taken]
    simp only [Sink.close, Sink.fileWork, FileTurn.of]
  · intro ok
    have fine : s'.errors = 0 := by
      rw [work_errors, close_errors] at ok
      omega
    have all := inv' fine
    rw [List.nil_append, List.nil_append] at all
    exact all.close ready' ok

/-- One run over all outputs. The search for a free name always ends, and unless something failed
the files hold all outputs. -/
theorem run_rotates (c : FileSinkConfig) (number : Nat) (outputs : List Output) (e : Environment) :
    (∀ (s : FileSink) (fs : FileSystem) (turn : FileTurn), (s.work fs turn).1.task = .ready) ∧
      ∃ s after requests, Sink.run (.ofConfig (.file c) number) outputs e =
          (.file s, { e with files := after }, requests) ∧
        (s.errors = 0 → ∃ files,
          Rotated { config := c, instanceNumber := number } e.files after outputs requests s
            files) :=
  ⟨work_ready, exists_run c number outputs e⟩

/-- A run in which nothing that is done to the files fails counts no error, so its files hold all
outputs. -/
theorem rotates_of_faultless (c : FileSinkConfig) (number : Nat) (outputs : List Output)
    (e : Environment)
    (faultless : runFaults { config := c, instanceNumber := number } outputs e = []) :
    ∃ s after requests files, Sink.run (.ofConfig (.file c) number) outputs e =
        (.file s, { e with files := after }, requests) ∧ s.errors = 0 ∧
      Rotated { config := c, instanceNumber := number } e.files after outputs requests s
        files := by
  obtain ⟨s, after, requests, ran, rotates⟩ := exists_run c number outputs e
  obtain ⟨s', files', requests', ran', errors⟩ :=
    run_errors { config := c, instanceNumber := number } outputs e
  have same : Sink.run (.ofConfig (.file c) number) outputs e = (.file s', _, requests') := ran'
  rw [ran] at same
  obtain ⟨sink, _⟩ := Prod.mk.inj same
  cases sink
  rw [faultless] at errors
  obtain ⟨files, rotated⟩ := rotates errors
  exact ⟨s, after, requests, files, ran, errors, rotated⟩

/-- Two records go into a file. -/
def pairing : FileSinkConfig := { dir := "out", maxRecords := 2 }

/-- There is a finished file with the first number, and a file that is not the sink's own stands in
the way of the third. -/
def occupied : FileSystem := [
  (["out"], .directory),
  (["out", "sluice-0-000000.log"], .file [120, 10] none),
  (["out", "sluice-0-000002.log.part"], .file [121] none)]

/-- The failures that a sink of files has counted. -/
def failures : Sink → Nat
  | .file s => s.errors
  | _ => 0

theorem pairing_run_rotates :
    ∃ s after files, Sink.run (.ofConfig (.file pairing) 0)
        [⟨[], some [97]⟩, ⟨[], some [98]⟩, ⟨[], some [99]⟩, ⟨[], some [100]⟩, ⟨[], some [101]⟩]
        { files := occupied } = (.file s, { files := after },
          [⟨"out/sluice-0-000001.log", 2⟩, ⟨"out/sluice-0-000003.log", 2⟩,
            ⟨"out/sluice-0-000004.log", 1⟩]) ∧
      s.errors = 0 ∧
      Rotated { config := pairing } occupied after
        [⟨[], some [97]⟩, ⟨[], some [98]⟩, ⟨[], some [99]⟩, ⟨[], some [100]⟩, ⟨[], some [101]⟩]
        [⟨"out/sluice-0-000001.log", 2⟩, ⟨"out/sluice-0-000003.log", 2⟩,
          ⟨"out/sluice-0-000004.log", 1⟩] s files := by
  obtain ⟨_, s, after, requests, run, rotates⟩ := run_rotates pairing 0
    [⟨[], some [97]⟩, ⟨[], some [98]⟩, ⟨[], some [99]⟩, ⟨[], some [100]⟩, ⟨[], some [101]⟩]
    { files := occupied }
  have outcome : (fun p : Sink × Environment × List UploadRequest => (failures p.1, p.2.2))
      (Sink.run (.ofConfig (.file pairing) 0)
        [⟨[], some [97]⟩, ⟨[], some [98]⟩, ⟨[], some [99]⟩, ⟨[], some [100]⟩, ⟨[], some [101]⟩]
        { files := occupied }) = (0, [⟨"out/sluice-0-000001.log", 2⟩,
          ⟨"out/sluice-0-000003.log", 2⟩, ⟨"out/sluice-0-000004.log", 1⟩]) := by decide +kernel
  rw [run] at outcome
  obtain ⟨fine, rfl⟩ := Prod.mk.inj outcome
  obtain ⟨files, rotated⟩ := rotates fine
  exact ⟨s, after, files, run, fine, rotated⟩

end FileSink

end RecordPipeline
