import RecordPipeline.Proofs.Source.Readings

/-!
What a request to stop does to a reader. It is looked at between two batches, and only there: a
reader that is asked to stop while it fills a buffer reads on until a line is complete, the stream
has ended or a read fails, sends that one batch, and stops then. How many reads that takes is up to
the stream, which need not come to an end.
-/

namespace RecordPipeline

namespace Reader

/-- How many batches are sent at most once the reader is stopped. -/
def Phase.batchesLeft : Phase → Nat
  | .reading _ | .filled _ _ => 1
  | .between _ | .finished _ => 0

namespace Run

variable {σ : Type} [Readable σ] {isOpen : Bool} {reads : List ReadResult} {r : Run} {s : σ}

theorem batchesLeft_after (context : String) (carry : Bytes) (ending : Ending) :
    (after context carry ending).batchesLeft = 0 := by
  cases ending <;> rfl

theorem wanted?_after {context : String} {carry : Bytes} {ending : Ending}
    (phase : r.phase = after context carry ending) : r.wanted? = none := by
  rw [wanted?, phase]
  cases ending <;> rfl

/-- A stopped reader reads on after a read that completes no batch, and only then. -/
theorem Step.reading_cases {next : Run × σ} (step : Step isOpen r s next)
    (stopped : r.reader.isStopped = true) :
    (r.reading? s = none ∧ next.1.wanted? = none) ∨
      ∃ result, r.reading? s = some result ∧
        (next.1.wanted?.isSome = true ↔ result.completes = false) := by
  cases step with
  | stops phase _ => exact .inl ⟨reading?_of_wanted (by rw [wanted?, phase]), rfl⟩
  | begins phase running => rw [stopped] at running; cases running
  | readsOn phase asked read partly =>
      exact .inr ⟨_, reading?_of_read asked read, iff_of_true (wanted?_of_reading rfl) partly⟩
  | fills phase asked read completes =>
      exact .inr ⟨_, reading?_of_read asked read,
        iff_of_false Bool.false_ne_true (by simp [completes])⟩
  | fails phase asked read =>
      exact .inr ⟨_, reading?_of_read asked read,
        iff_of_false Bool.false_ne_true Bool.noConfusion⟩
  | skips phase _ | sends phase _ =>
      exact .inl ⟨reading?_of_wanted (by rw [wanted?, phase]), wanted?_after rfl⟩
  | closed phase => exact .inl ⟨reading?_of_wanted (by rw [wanted?, phase]), rfl⟩

theorem Step.idle_of_completes {next : Run × σ} (step : Step isOpen r s next)
    (stopped : r.reader.isStopped = true) {result : ReadResult}
    (reading : r.reading? s = some result) (completes : result.completes = true) :
    next.1.wanted? = none := by
  rcases step.reading_cases stopped with ⟨none, _⟩ | ⟨other, reading', goesOn⟩
  · rw [none] at reading
    cases reading
  · rw [reading] at reading'
    cases reading'
    rw [← Option.not_isSome_iff_eq_none, goesOn, completes]
    exact Bool.noConfusion

/-- A stopped reader stays stopped, and sends no more than was left to send. -/
theorem Step.sent_of_stopped {next : Run × σ} (step : Step isOpen r s next)
    (stopped : r.reader.isStopped = true) :
    next.1.reader.isStopped = true ∧
      ∃ more, next.1.sent = r.sent ++ more ∧
        more.length + next.1.phase.batchesLeft ≤ r.phase.batchesLeft := by
  cases step with
  | stops phase _ => exact ⟨stopped, [], (List.append_nil _).symm, Nat.zero_le _⟩
  | begins phase running => rw [stopped] at running; cases running
  | readsOn phase | fills phase | fails phase =>
      exact ⟨stopped, [], (List.append_nil _).symm, by rw [phase]; exact Nat.le_refl 1⟩
  | skips phase _ =>
      refine ⟨stopped, [], (List.append_nil _).symm, ?_⟩
      rw [batchesLeft_after]
      exact Nat.zero_le _
  | sends phase _ =>
      refine ⟨stopped, _, rfl, ?_⟩
      simp only [afterBatch, batchesLeft_after, phase]
      exact Nat.le_refl 1
  | closed phase => exact ⟨stopped, [], (List.append_nil _).symm, Nat.zero_le _⟩

section Stopped

variable (stopped : r.reader.isStopped = true)

include stopped

/-- What a stopped reader still sends, and how many reads that takes. -/
theorem stopped_steps (isOpen : Bool) (s : σ) (n : Nat) :
    (∃ more, (steps isOpen none n r s).1.sent = r.sent ++ more ∧
      more.length + (steps isOpen none n r s).1.phase.batchesLeft ≤ r.phase.batchesLeft) ∧
      (steps isOpen none n r s).1.reader.counts.reads =
        r.reader.counts.reads + (readings isOpen n r s).length := by
  induction n generalizing r s with
  | zero => exact ⟨⟨[], (List.append_nil _).symm, Nat.le_of_eq (Nat.zero_add _)⟩, rfl⟩
  | succ n ih =>
      cases unfinished : r.phase.isFinished with
      | false =>
          have step := next isOpen s unfinished
          obtain ⟨stopped', first, hfirst, fewer⟩ := step.sent_of_stopped stopped
          obtain ⟨⟨later, hlater, fewer'⟩, reads⟩ := ih stopped' (r.advance isOpen s).2
          rw [steps_succ unfinished, readings_succ, List.length_append, reads, step.counts_reads]
          refine ⟨⟨first ++ later, ?_, ?_⟩, Nat.add_assoc _ _ _⟩
          · rw [hlater, hfirst, List.append_assoc]
          · rw [List.length_append]
            omega
      | true =>
          rw [steps_of_finished unfinished, readings_of_finished unfinished]
          exact ⟨⟨[], (List.append_nil _).symm, Nat.le_of_eq (Nat.zero_add _)⟩, rfl⟩

/-- A stopped reader that is not filling a buffer does not read. -/
theorem readings_eq_nil (isOpen : Bool) (s : σ) (idle : r.wanted? = none) (n : Nat) :
    readings isOpen n r s = [] := by
  induction n generalizing r s with
  | zero => rfl
  | succ n ih =>
      cases unfinished : r.phase.isFinished with
      | true => exact readings_of_finished unfinished _
      | false =>
          have step := next isOpen s unfinished
          have none := reading?_of_wanted (s := s) idle
          rcases step.reading_cases stopped with ⟨_, idle'⟩ | ⟨result, reading, _⟩
          · rw [readings_succ, none, ih (step.sent_of_stopped stopped).1 _ idle']
            rfl
          · rw [none] at reading
            cases reading

/-- The reads of a stopped reader are those up to the first one that completes a batch. -/
theorem readings_complete (isOpen : Bool) (s : σ) (n : Nat) :
    (∀ read ∈ (readings isOpen n r s).dropLast, read.completes = false) ∧
      ((steps isOpen none n r s).1.phase.isFinished = true →
        ∀ last ∈ (readings isOpen n r s).getLast?, last.completes = true) := by
  induction n generalizing r s with
  | zero => exact ⟨nofun, fun _ => nofun⟩
  | succ n ih =>
      cases unfinished : r.phase.isFinished with
      | true =>
          rw [readings_of_finished unfinished]
          exact ⟨nofun, fun _ => nofun⟩
      | false =>
          have step := next isOpen s unfinished
          have stopped' := (step.sent_of_stopped stopped).1
          rw [steps_succ unfinished, readings_succ]
          rcases step.reading_cases stopped with ⟨none, idle⟩ | ⟨result, reading, goesOn⟩
          · rw [none, readings_eq_nil stopped' isOpen _ idle]
            exact ⟨nofun, fun _ => nofun⟩
          · rw [reading]
            cases completes : result.completes with
            | true =>
                rw [readings_eq_nil stopped' isOpen _
                  (step.idle_of_completes stopped reading completes)]
                refine ⟨nofun, ?_⟩
                intro _ last same
                cases same
                exact completes
            | false =>
                obtain ⟨partly, complete⟩ := ih stopped' (r.advance isOpen s).2
                rw [Option.toList_some, List.singleton_append]
                cases later : readings isOpen n (r.advance isOpen s).1 (r.advance isOpen s).2 with
                | nil => exact ⟨nofun, fun finished =>
                    absurd later (readings_ne_nil (goesOn.mpr completes) finished)⟩
                | cons second others =>
                    rw [later] at partly complete
                    rw [List.dropLast_cons_cons, List.getLast?_cons_cons]
                    exact ⟨List.forall_mem_cons.mpr ⟨completes, partly⟩, complete⟩

/-- One read is all if and only if it is one that completes a batch. -/
theorem length_readings_le_one_iff {n : Nat}
    (finished : (steps isOpen none n r s).1.phase.isFinished = true) :
    (readings isOpen n r s).length ≤ 1 ↔
      ∀ result, r.reading? s = some result → result.completes = true := by
  obtain ⟨partly, complete⟩ := readings_complete stopped isOpen s n
  cases asked : r.wanted? with
  | none =>
      rw [readings_eq_nil stopped isOpen s asked, reading?_of_wanted asked]
      exact iff_of_true (Nat.zero_le 1) nofun
  | some wanted =>
      have reading : r.reading? s = some (Readable.read wanted s).1 := by rw [reading?, asked]; rfl
      cases n with
      | zero =>
          have idle : r.wanted? = none := wanted?_of_finished finished
          rw [asked] at idle
          cases idle
      | succ n =>
          rw [readings_succ, reading, Option.toList_some, List.singleton_append]
          rw [readings_succ, reading, Option.toList_some, List.singleton_append] at partly complete
          cases later : readings isOpen n (r.advance isOpen s).1 (r.advance isOpen s).2 with
          | nil =>
              rw [later] at complete
              refine iff_of_true (Nat.le_refl 1) ?_
              intro result same
              cases same
              exact complete finished _ rfl
          | cons second others =>
              rw [later] at partly
              refine iff_of_false (by simp) ?_
              intro completes
              have goesOn := partly (Readable.read wanted s).1 (by simp)
              rw [completes _ rfl] at goesOn
              cases goesOn

theorem finishes_of_batchesLeft (isOpen : Bool) (s : σ) (nothing : r.phase.batchesLeft = 0) :
    ∃ n, (steps isOpen none n r s).1.phase.isFinished = true := by
  cases phase : r.phase with
  | finished result => exact ⟨0, by rw [steps, phase]; rfl⟩
  | between carry =>
      refine ⟨1, ?_⟩
      rw [steps_succ (by rw [phase]; rfl), advance_eq_proceed (by rw [wanted?, phase])]
      simp only [proceed, phase, stopped, if_true]
      rfl
  | reading _ | filled _ _ => rw [phase] at nothing; cases nothing

/-- A stopped reader that is not filling a buffer ends with its next steps. -/
theorem finishes_of_idle (isOpen : Bool) (s : σ) (idle : r.wanted? = none) :
    ∃ n, (steps isOpen none n r s).1.phase.isFinished = true := by
  cases phase : r.phase with
  | reading buffer =>
      have asks := wanted?_of_reading phase
      rw [idle] at asks
      cases asks
  | filled buffer ending =>
      have unfinished : r.phase.isFinished = false := by rw [phase]; rfl
      have step := next isOpen s unfinished
      obtain ⟨stopped', more, _, fewer⟩ := step.sent_of_stopped stopped
      refine finishes_of_next unfinished (finishes_of_batchesLeft stopped' isOpen _ ?_)
      generalize r.advance isOpen s = later at step
      cases step with
      | skips | sends => exact batchesLeft_after _ _ _
      | closed | stops => rfl
      | begins phase' | readsOn phase' | fills phase' | fails phase' =>
          rw [phase] at phase'
          cases phase'
  | between _ | finished _ =>
      exact finishes_of_batchesLeft stopped isOpen s (by rw [phase]; rfl)

/-- A stopped reader that has read what completes a batch comes to its end. -/
theorem finishes_of_readings (isOpen : Bool) (s : σ) {n : Nat} {read : ReadResult}
    (member : read ∈ readings isOpen n r s) (completes : read.completes = true) :
    ∃ m, (steps isOpen none m r s).1.phase.isFinished = true := by
  induction n generalizing r s with
  | zero => cases member
  | succ n ih =>
      cases unfinished : r.phase.isFinished with
      | true => exact ⟨0, unfinished⟩
      | false =>
          have step := next isOpen s unfinished
          have stopped' := (step.sent_of_stopped stopped).1
          refine finishes_of_next unfinished ?_
          rw [readings_succ] at member
          rcases List.mem_append.mp member with first | later
          · rcases step.reading_cases stopped with ⟨none, _⟩ | ⟨result, reading, _⟩
            · rw [none] at first
              cases first
            · rw [reading, Option.toList_some, List.mem_singleton] at first
              subst first
              exact finishes_of_idle stopped' isOpen _
                (step.idle_of_completes stopped reading completes)
          · exact ih stopped' _ later

/-- On a stream that is not read for ever a stopped reader comes to its end. -/
theorem finishes_of_completes (isOpen : Bool) (positive : 0 < r.reader.batchBytes)
    (completes : Readable.Completes s) :
    ∃ n, (steps isOpen none n r s).1.phase.isFinished = true := by
  induction completes generalizing r with
  | @intro s _ ih =>
      cases asked : r.wanted? with
      | none => exact finishes_of_idle stopped isOpen s asked
      | some wanted =>
          have unfinished : r.phase.isFinished = false := by
            rw [← Bool.not_eq_true]
            intro finished
            rw [wanted?_of_finished finished] at asked
            cases asked
          have step := next isOpen s unfinished
          have stopped' := (step.sent_of_stopped stopped).1
          have reading := reading?_of_read (s := s) asked rfl
          have rest : (r.advance isOpen s).2 = (Readable.read wanted s).2 := by
            simp only [advance, asked]
          refine finishes_of_next unfinished ?_
          cases complete : (Readable.read wanted s).1.completes with
          | false =>
              rw [rest]
              refine ih wanted (wanted_pos positive asked) complete stopped' ?_
              rw [step.settings.1]
              exact positive
          | true =>
              exact finishes_of_idle stopped' isOpen _
                (step.idle_of_completes stopped reading complete)

end Stopped

/-- What a run does that is asked to stop after these reads. -/
structure StopsLate (isOpen : Bool) (before : List ReadResult) (r : Run) (s : σ) : Prop where
  /-- All that is sent is the beginning of what the stream has brought. -/
  beginning : ∀ n, (steps isOpen none n r s).1.sent.flatMap (·.data) <+:
    (before ++ readings isOpen n r s).flatMap ReadResult.content
  oneBatch : ∀ n, ∃ more, (steps isOpen none n r s).1.sent = r.sent ++ more ∧ more.length ≤ 1
  counted : ∀ n, (steps isOpen none n r s).1.reader.counts.reads =
    r.reader.counts.reads + (readings isOpen n r s).length
  /-- No read comes after one that completes a line, meets the end of the stream or fails. -/
  upToLine : ∀ n, ∀ read ∈ (readings isOpen n r s).dropLast, read.completes = false
  ends : (∃ n, (steps isOpen none n r s).1.result?.isSome = true) ↔
    r.wanted? = none ∨ ∃ n, ∃ read ∈ readings isOpen n r s, read.completes = true
  endsOnFinite : Readable.Completes s → ∃ n, (steps isOpen none n r s).1.result?.isSome = true
  /-- There is more than one further read if and only if the next one completes nothing. -/
  furtherReads : ∀ n, (steps isOpen none n r s).1.result?.isSome = true →
    ((readings isOpen n r s).length ≤ 1 ↔
      ∀ result, r.reading? s = some result → result.completes = true)
  /-- Only a read that fails is an error. -/
  result : ∀ n result, (steps isOpen none n r s).1.result? = some result →
    result = .ok () ∨ ∃ cause, .failed cause ∈ before ++ readings isOpen n r s ∧
      result = .error (.io ("reading " ++ r.context) cause)
  /-- Where no line is ever completed the reader goes on for ever, and its buffer grows. -/
  endless : ∀ buffer, r.phase = .reading buffer →
    (∀ n, ∀ read ∈ readings isOpen n r s, read.completes = false) → ∀ n,
      (readings isOpen n r s).length = n ∧ (steps isOpen none n r s).1.sent = r.sent ∧
        (steps isOpen none n r s).1.phase =
          .reading (buffer ++ (readings isOpen n r s).flatMap ReadResult.content)

theorem Faithful.stopsLate (h : Faithful reads r) (stopped : r.reader.isStopped = true)
    (isOpen : Bool) (s : σ) : StopsLate isOpen reads r s where
  beginning := fun n => (h.steps isOpen s n).sent
  oneBatch := by
    intro n
    obtain ⟨⟨more, sent, short⟩, _⟩ := stopped_steps stopped isOpen s n
    refine ⟨more, sent, ?_⟩
    have left : r.phase.batchesLeft ≤ 1 := by
      cases r.phase <;> simp [Phase.batchesLeft]
    omega
  counted := fun n => (stopped_steps stopped isOpen s n).2
  upToLine := fun n => (readings_complete stopped isOpen s n).1
  ends := by
    simp only [isSome_result?]
    constructor
    · rintro ⟨n, finished⟩
      cases filling : r.wanted? with
      | none => exact .inl rfl
      | some _ =>
          have some := readings_ne_nil (by rw [filling]; rfl) finished
          have complete := (readings_complete stopped isOpen s n).2 finished
          exact .inr ⟨n, _, List.getLast_mem some, complete _ (List.getLast?_eq_some_getLast some)⟩
    · rintro (idle | ⟨n, read, member, completes⟩)
      · exact finishes_of_idle stopped isOpen s idle
      · exact finishes_of_readings stopped isOpen s member completes
  endsOnFinite := by
    simp only [isSome_result?]
    exact finishes_of_completes stopped isOpen h.positive
  furtherReads := by
    intro n finished
    rw [isSome_result?] at finished
    exact length_readings_le_one_iff stopped finished
  result := by
    intro n result finished
    have cases' := (h.steps isOpen s n).result_cases finished
    rw [steps_context] at cases'
    exact cases'
  endless := fun _ phase partly n => reads_on phase (partly n)

end Run

/-- A reader that is asked to stop, between any two of its steps, on a stream that may be finite or
endless, sends one more batch at most, and all that was sent is the beginning of what was read. Its
further reads are those up to the first one that completes a line, meets the end of the stream or
fails: so there is more than one if and only if the next read does none of these, and if none ever
does, the run does not end. -/
theorem stop_between_steps {σ : Type} [Readable σ] (batchBytes poolSize : Nat) (context : String)
    (metadata : Option Metadata) (stream : σ) (isOpen : Bool) (k : Nat) :
    let start : Run := { reader := Reader.new batchBytes poolSize, context, metadata }
    let before := Run.steps isOpen none k start stream
    let stopped : Run := { before.1 with reader := before.1.reader.stop }
    Run.StopsLate isOpen (Run.readings isOpen k start stream) stopped before.2 := by
  intro start before stopped
  have known := (Run.start_faithful batchBytes poolSize context metadata).steps isOpen stream k
  rw [List.nil_append] at known
  have known : Run.Faithful (Run.readings isOpen k start stream) stopped :=
    ⟨known.positive, known.content, known.sent, known.blamed⟩
  exact known.stopsLate rfl isOpen before.2

/-- A stream that brings the only line in four chunks. -/
def slowStream : ByteStream := [.chunk [97], .chunk [98], .chunk [99], .chunk [100, newline]]

/-- A reader that is asked to stop after its first read, and what is left of the stream. -/
def stoppedEarly {σ : Type} [Readable σ] (stream : σ) : Run × σ :=
  let before := Run.steps true none 2 { reader := Reader.new 64 2, context := "reader" } stream
  ({ before.1 with reader := before.1.reader.stop }, before.2)

def slowRun : Run × ByteStream := stoppedEarly slowStream

/-- Three further reads bring the rest of the line, which is sent, and the run ends. -/
theorem slow_stop_between_steps :
    (Run.readings true 20 slowRun.1 slowRun.2).length = 3 ∧
      (Run.steps true none 20 slowRun.1 slowRun.2).1.sent.map (·.data) =
        [[97, 98, 99, 100, newline]] ∧
      (∀ n, (Run.steps true none n slowRun.1 slowRun.2).1.sent.flatMap (·.data) <+:
        slowStream.content) ∧
      ∃ n, (Run.steps true none n slowRun.1 slowRun.2).1.result?.isSome = true := by
  have stops : Run.StopsLate true [.bytes [97]] slowRun.1 slowRun.2 :=
    stop_between_steps 64 2 "reader" none slowStream true 2
  refine ⟨by decide +kernel, by decide +kernel, ?_,
    stops.endsOnFinite (ByteStream.completes slowRun.2)⟩
  intro n
  have beginning := stops.beginning n
  rw [List.flatMap_append] at beginning
  refine beginning.trans ⟨(Run.steps true none n slowRun.1 slowRun.2).2.content, ?_⟩
  rw [List.append_assoc, Run.content_readings]
  decide +kernel

/-- So it does not hold that a reader that is asked to stop reads once more at most, and it does not
hold that it comes to its end. -/
theorem stop_between_steps_may_read_on :
    (¬ ∀ (batchBytes poolSize : Nat) (context : String) (stream : ByteStream) (k n : Nat),
      let before :=
        Run.steps true none k { reader := Reader.new batchBytes poolSize, context } stream
      let stopped : Run := { before.1 with reader := before.1.reader.stop }
      (Run.steps true none n stopped before.2).1.reader.counts.reads ≤
        stopped.reader.counts.reads + 1) ∧
    ¬ ∀ (batchBytes poolSize : Nat) (context : String) (stream : EndlessStream) (k : Nat),
      let before :=
        Run.steps true none k { reader := Reader.new batchBytes poolSize, context } stream
      let stopped : Run := { before.1 with reader := before.1.reader.stop }
      ∃ n, (Run.steps true none n stopped before.2).1.result?.isSome = true := by
  constructor
  · intro once
    have short := once 64 2 "reader" slowStream 2 20
    exact absurd short (by decide +kernel)
  · intro ends
    obtain ⟨n, ended⟩ := ends 64 2 "reader" (EndlessStream.line 97) 2
    let stopped := stoppedEarly (EndlessStream.line 97)
    have phase : stopped.1.phase = .reading [97] := rfl
    have goesOn : (Run.steps true none n stopped.1 stopped.2).1.result? = none :=
      Run.line_not_finished (by decide) true phase (by decide) n
    exact Option.not_isSome_iff_eq_none.mpr goesOn ended

end Reader

end RecordPipeline
