import RecordPipeline.Proofs.Source.Batching

/-!
What a reader reads, one step at a time, on any stream that can be read: what a step can do, what it
keeps of what was read, and for how long no line is completed. A stream need not come to an end, and
so need not a run: a line that goes on for ever is read for ever.
-/

namespace RecordPipeline

namespace ReadResult

/-- Whether a read is the last one for its batch. -/
def completes : ReadResult → Bool
  | .bytes [] | .failed _ => true
  | .bytes bs => newline ∈ bs
  | .interrupted => false

/-- The bytes that a read brings. -/
def content : ReadResult → Bytes
  | .bytes bs => bs
  | .interrupted | .failed _ => []

end ReadResult

/-- A stream that is not read for ever without a newline, its end or a failure. -/
inductive Readable.Completes {σ : Type} [Readable σ] : σ → Prop where
  | intro {s : σ}
      (next : ∀ wanted, 0 < wanted → (Readable.read wanted s).1.completes = false →
        Completes (Readable.read wanted s).2) : Completes s

namespace ByteStream

theorem weight_read_lt {wanted : Nat} (positive : 0 < wanted) (s : ByteStream)
    (partly : (s.read wanted).1.completes = false) : (s.read wanted).2.weight < s.weight := by
  induction s with
  | nil => cases partly
  | cons e rest ih =>
      cases e with
      | chunk bs =>
          cases bs with
          | nil =>
              have lighter := ih partly
              rw [weight_chunk, read]
              omega
          | cons b bs =>
              rw [weight_chunk, read]
              by_cases fits : (b :: bs).length ≤ wanted
              · rw [if_pos fits]
                exact Nat.lt_add_of_pos_left (Nat.succ_pos _)
              · rw [if_neg fits, weight_chunk, List.length_drop]
                rw [List.length_cons] at fits ⊢
                omega
      | interrupted => exact Nat.lt_succ_self _
      | failed cause => cases partly

/-- A read takes from the beginning of a stream what it brings. -/
theorem content_read (wanted : Nat) (s : ByteStream) :
    (s.read wanted).1.content ++ (s.read wanted).2.content = s.content := by
  induction s with
  | nil => rfl
  | cons e rest ih =>
      cases e with
      | chunk bs =>
          cases bs with
          | nil => exact ih
          | cons b bs =>
              rw [read, content_chunk]
              by_cases fits : (b :: bs).length ≤ wanted
              · rw [if_pos fits, ReadResult.content]
              · rw [if_neg fits, ReadResult.content, content_chunk, ← List.append_assoc,
                  List.take_append_drop]
      | interrupted | failed cause => rfl

/-- A list of events is not read for ever. -/
theorem completes (s : ByteStream) : Readable.Completes s := by
  induction hweight : s.weight using Nat.strongRecOn generalizing s with
  | ind n ih =>
      refine .intro fun wanted positive partly => ih _ ?_ _ rfl
      rw [← hweight]
      exact weight_read_lt positive s partly

end ByteStream

namespace EndlessStream

theorem read_line {wanted : Nat} (positive : 0 < wanted) (b : UInt8) :
    Readable.read wanted (line b) = (.bytes [b], line b) := if_pos positive

end EndlessStream

namespace Reader

namespace Phase

/-- A failure that a phase speaks of is that of one of the reads. -/
def Blames (context : String) (reads : List ReadResult) : Phase → Prop
  | .filled _ (.failure cause) => .failed cause ∈ reads
  | .finished (.error e) => ∃ cause, e = .io ("reading " ++ context) cause ∧ .failed cause ∈ reads
  | _ => True

end Phase

namespace Run

theorem divide_append {buffer bytes carry : Bytes} {ending : Ending}
    (divided : divide buffer ending = (bytes, carry)) : bytes ++ carry = buffer := by
  cases ending with
  | line =>
      rw [divide, List.splitAt_eq] at divided
      cases divided
      exact List.take_append_drop _ _
  | endOfStream | failure _ =>
      cases divided
      exact List.append_nil _

section Reading

variable {σ : Type} [Readable σ]

/-- What the next step reads, if it reads. -/
def reading? (r : Run) (s : σ) : Option ReadResult :=
  r.wanted?.map fun wanted => (Readable.read wanted s).1

/-- What the next steps read. -/
def readings (isOpen : Bool) : Nat → Run → σ → List ReadResult
  | 0, _, _ => []
  | n + 1, r, s =>
    (r.reading? s).toList ++ readings isOpen n (r.advance isOpen s).1 (r.advance isOpen s).2

end Reading

/-- A read that fails is counted, and so is its error. -/
def afterFailure (r : Run) (buffer : Bytes) (cause : IoError) : Run :=
  { r with
    reader := { r.reader with
      counts := { r.reader.counts with
        reads := r.reader.counts.reads + 1, errors := r.reader.counts.errors + 1 } }
    phase := .filled buffer (.failure cause) }

/-- What is known of a reader on any stream, whether or not it is stopped and whether or not its
batches are received, from what it has read. What was read is lost in the end only. -/
structure Faithful (reads : List ReadResult) (r : Run) : Prop where
  positive : 0 < r.reader.batchBytes
  content : r.phase.isFinished = false →
    r.sent.flatMap (·.data) ++ r.phase.pending = reads.flatMap ReadResult.content
  sent : r.sent.flatMap (·.data) <+: reads.flatMap ReadResult.content
  blamed : r.phase.Blames r.context reads

/-- What a step of a run can do. -/
inductive Step {σ : Type} [Readable σ] (isOpen : Bool) (r : Run) (s : σ) : Run × σ → Prop where
  | stops {carry : Bytes} (phase : r.phase = .between carry)
      (stopped : r.reader.isStopped = true) :
      Step isOpen r s ({ r with phase := .finished (.ok ()) }, s)
  | begins {carry : Bytes} (phase : r.phase = .between carry)
      (running : r.reader.isStopped = false) :
      Step isOpen r s ({ r with
        reader := { r.reader with pool := r.reader.pool.get.2 }, phase := .reading carry }, s)
  | readsOn {buffer : Bytes} {wanted : Nat} {result : ReadResult} {rest : σ}
      (phase : r.phase = .reading buffer) (asked : r.wanted? = some wanted)
      (read : Readable.read wanted s = (result, rest)) (partly : result.completes = false) :
      Step isOpen r s (r.afterRead (.reading (buffer ++ result.content)), rest)
  | fills {buffer : Bytes} {wanted : Nat} {result : ReadResult} {rest : σ} {ending : Ending}
      (phase : r.phase = .reading buffer) (asked : r.wanted? = some wanted)
      (read : Readable.read wanted s = (result, rest)) (completes : result.completes = true)
      (sound : ending = .line ∨ ending = .endOfStream) :
      Step isOpen r s (r.afterRead (.filled (buffer ++ result.content) ending), rest)
  | fails {buffer : Bytes} {wanted : Nat} {cause : IoError} {rest : σ}
      (phase : r.phase = .reading buffer) (asked : r.wanted? = some wanted)
      (read : Readable.read wanted s = (.failed cause, rest)) :
      Step isOpen r s (r.afterFailure buffer cause, rest)
  | skips {buffer carry : Bytes} {ending : Ending} (phase : r.phase = .filled buffer ending)
      (divided : divide buffer ending = ([], carry)) :
      Step isOpen r s ({ r with
        reader := { r.reader with pool := r.reader.pool.put { capacity := r.reader.batchBytes } }
        phase := after r.context carry ending }, s)
  | sends {buffer bytes carry : Bytes} {ending : Ending} (phase : r.phase = .filled buffer ending)
      (divided : divide buffer ending = (bytes, carry)) :
      Step isOpen r s (r.afterBatch bytes (after r.context carry ending), s)
  | closed {buffer : Bytes} {ending : Ending} (phase : r.phase = .filled buffer ending) :
      Step isOpen r s ({ r with phase := .finished (.ok ()) }, s)

variable {σ : Type} [Readable σ] {isOpen : Bool} {reads : List ReadResult} {r : Run} {s : σ}

theorem wanted?_of_reading {buffer : Bytes} (phase : r.phase = .reading buffer) :
    r.wanted?.isSome = true := by
  simp only [wanted?, phase]
  cases r.reader.batchBytes - buffer.length <;> rfl

theorem step_of_reading {buffer : Bytes} (isOpen : Bool) (s : σ)
    (phase : r.phase = .reading buffer) : Step isOpen r s (r.advance isOpen s) := by
  obtain ⟨wanted, asked⟩ := Option.isSome_iff_exists.mp (wanted?_of_reading phase)
  simp only [advance, asked]
  generalize read : Readable.read wanted s = next
  obtain ⟨result, rest⟩ := next
  cases result with
  | bytes bs =>
      by_cases used : bs = []
      · subst used
        dsimp only
        rw [receive_end phase, ← List.append_nil buffer]
        exact .fills phase asked read rfl (.inr rfl)
      · dsimp only
        rw [receive_bytes phase used]
        by_cases complete : newline ∈ bs
        · rw [if_pos complete]
          refine .fills phase asked read ?_ (.inl rfl)
          simp only [ReadResult.completes, complete, decide_true]
        · rw [if_neg complete]
          refine .readsOn phase asked read ?_
          simp only [ReadResult.completes, complete, decide_false]
  | interrupted =>
      dsimp only
      rw [receive_interrupted phase, ← List.append_nil buffer]
      exact .readsOn phase asked read rfl
  | failed cause =>
      have failed : r.receive (.failed cause) = r.afterFailure buffer cause := by
        simp only [receive, phase, afterFailure]
      dsimp only
      rw [failed]
      exact .fails phase asked read

theorem next (isOpen : Bool) (s : σ) (unfinished : r.phase.isFinished = false) :
    Step isOpen r s (r.advance isOpen s) := by
  cases phase : r.phase with
  | reading buffer => exact step_of_reading isOpen s phase
  | between carry =>
      have asksNothing : r.wanted? = none := by rw [wanted?, phase]
      rw [advance_eq_proceed asksNothing]
      cases stopped : r.reader.isStopped with
      | true =>
          simp only [proceed, phase, stopped, if_true]
          exact .stops phase stopped
      | false =>
          rw [proceed_between phase stopped]
          exact .begins phase stopped
  | filled buffer ending =>
      have asksNothing : r.wanted? = none := by rw [wanted?, phase]
      rw [advance_eq_proceed asksNothing]
      obtain ⟨bytes, carry, divided⟩ : ∃ bytes carry, divide buffer ending = (bytes, carry) :=
        ⟨_, _, rfl⟩
      by_cases used : bytes = []
      · rw [used] at divided
        rw [proceed_empty phase divided]
        exact .skips phase divided
      · cases isOpen with
        | true =>
            rw [proceed_filled phase divided used]
            exact .sends phase divided
        | false =>
            simp only [proceed, phase, divided, used, Bool.false_eq_true, if_false]
            exact .closed phase
  | finished result => rw [phase] at unfinished; cases unfinished

theorem reading?_of_wanted (asksNothing : r.wanted? = none) : r.reading? s = none := by
  rw [reading?, asksNothing, Option.map_none]

theorem reading?_of_read {wanted : Nat} {result : ReadResult} {rest : σ}
    (asked : r.wanted? = some wanted) (read : Readable.read wanted s = (result, rest)) :
    r.reading? s = some result := by
  rw [reading?, asked, Option.map_some, read]

/-- Behind a batch comes nothing but what is carried over, or the failure that has ended it. -/
theorem after_spec (context : String) (buffer carry : Bytes) {ending : Ending}
    (blamed : (Phase.filled buffer ending).Blames context reads) :
    (after context carry ending).Blames context reads ∧
      ((after context carry ending).isFinished = false →
        (after context carry ending).pending = carry) := by
  cases ending with
  | line => exact ⟨trivial, fun _ => rfl⟩
  | endOfStream => exact ⟨trivial, nofun⟩
  | failure cause => exact ⟨⟨cause, rfl, blamed⟩, nofun⟩

/-- What is sent is the beginning of what was read, and what is to come the rest of it. -/
theorem faithful_of_content (positive : 0 < r.reader.batchBytes)
    (blamed : r.phase.Blames r.context reads) {carry : Bytes}
    (pending : r.phase.isFinished = false → r.phase.pending = carry)
    (content : r.sent.flatMap (·.data) ++ carry = reads.flatMap ReadResult.content) :
    Faithful reads r where
  positive := positive
  content := fun unfinished => (pending unfinished).symm ▸ content
  sent := ⟨carry, content⟩
  blamed := blamed

theorem Faithful.finish (h : Faithful reads r) :
    Faithful reads { r with phase := .finished (.ok ()) } :=
  ⟨h.positive, nofun, h.sent, trivial⟩

theorem Faithful.content_read (h : Faithful reads r) {buffer : Bytes}
    (phase : r.phase = .reading buffer) (result : ReadResult) :
    r.sent.flatMap (·.data) ++ (buffer ++ result.content) =
      (reads ++ [result]).flatMap ReadResult.content := by
  have all := h.content
  rw [phase, Phase.pending] at all
  rw [List.flatMap_append, ← all rfl, List.flatMap_singleton, List.append_assoc]

/-- Every step keeps to what is read. -/
theorem Step.faithful {next : Run × σ} (step : Step isOpen r s next) (h : Faithful reads r) :
    Faithful (reads ++ (r.reading? s).toList) next.1 := by
  have all := h.content
  have blamed := h.blamed
  cases step with
  | stops phase _ =>
      rw [reading?_of_wanted (by rw [wanted?, phase]), Option.toList_none, List.append_nil]
      exact h.finish
  | begins phase _ =>
      rw [phase] at all
      rw [reading?_of_wanted (by rw [wanted?, phase]), Option.toList_none, List.append_nil]
      exact faithful_of_content h.positive trivial (fun _ => rfl) (all rfl)
  | readsOn phase asked read _ =>
      rw [reading?_of_read asked read]
      exact faithful_of_content h.positive trivial (fun _ => rfl) (h.content_read phase _)
  | fills phase asked read _ sound =>
      rw [reading?_of_read asked read]
      refine faithful_of_content h.positive ?_ (fun _ => rfl) (h.content_read phase _)
      rcases sound with rfl | rfl <;> trivial
  | @fails buffer _ cause _ phase asked read =>
      rw [reading?_of_read asked read]
      have content := h.content_read phase (.failed cause)
      rw [ReadResult.content, List.append_nil] at content
      exact faithful_of_content h.positive (List.mem_append_right _ List.mem_cons_self)
        (fun _ => rfl) content
  | @skips buffer carry ending phase divided =>
      rw [phase] at all blamed
      obtain ⟨blamed', pending⟩ := after_spec r.context buffer carry blamed
      rw [Phase.pending, ← divide_append divided, List.nil_append] at all
      rw [reading?_of_wanted (by rw [wanted?, phase]), Option.toList_none, List.append_nil]
      exact faithful_of_content h.positive blamed' pending (all rfl)
  | @sends buffer bytes carry ending phase divided =>
      rw [phase] at all blamed
      obtain ⟨blamed', pending⟩ := after_spec r.context buffer carry blamed
      rw [Phase.pending, ← divide_append divided] at all
      rw [reading?_of_wanted (by rw [wanted?, phase]), Option.toList_none, List.append_nil]
      refine faithful_of_content h.positive blamed' pending ?_
      simpa [afterBatch] using all rfl
  | closed phase =>
      rw [reading?_of_wanted (by rw [wanted?, phase]), Option.toList_none, List.append_nil]
      exact h.finish

/-- A read is counted, and no other step is. -/
theorem Step.counts_reads {next : Run × σ} (step : Step isOpen r s next) :
    next.1.reader.counts.reads = r.reader.counts.reads + (r.reading? s).toList.length := by
  cases step with
  | readsOn _ asked read | fills _ asked read | fails _ asked read =>
      rw [reading?_of_read asked read]
      rfl
  | stops phase _ | begins phase _ | skips phase _ | sends phase _ | closed phase =>
      rw [reading?_of_wanted (by rw [wanted?, phase])]
      rfl

/-- No step changes how long batches should be, or what the errors of the run call the stream. -/
theorem Step.settings {next : Run × σ} (step : Step isOpen r s next) :
    next.1.reader.batchBytes = r.reader.batchBytes ∧ next.1.context = r.context := by
  cases step <;> exact ⟨rfl, rfl⟩

theorem readings_succ (n : Nat) :
    readings isOpen (n + 1) r s = (r.reading? s).toList ++
      readings isOpen n (r.advance isOpen s).1 (r.advance isOpen s).2 := rfl

theorem wanted?_of_finished (finished : r.phase.isFinished = true) : r.wanted? = none := by
  cases phase : r.phase with
  | finished result => rw [wanted?, phase]
  | between _ | reading _ | filled _ _ => rw [phase] at finished; cases finished

/-- A run that has come to its end reads no more. -/
theorem readings_of_finished (finished : r.phase.isFinished = true) (n : Nat) :
    readings isOpen n r s = [] := by
  have asksNothing := wanted?_of_finished finished
  have stays : r.advance isOpen s = (r, s) := by
    rw [advance_eq_proceed asksNothing]
    cases phase : r.phase with
    | finished result => simp only [proceed, phase]
    | between _ | reading _ | filled _ _ => rw [phase] at finished; cases finished
  induction n with
  | zero => rfl
  | succ n ih =>
      rw [readings_succ, reading?_of_wanted asksNothing, stays, ih]
      rfl

/-- A run that is filling a buffer does not come to its end without a read. -/
theorem readings_ne_nil (filling : r.wanted?.isSome = true) {n : Nat}
    (finished : (steps isOpen none n r s).1.phase.isFinished = true) :
    readings isOpen n r s ≠ [] := by
  cases n with
  | zero =>
      have idle : r.wanted? = none := wanted?_of_finished finished
      rw [idle] at filling
      cases filling
  | succ n =>
      obtain ⟨wanted, asked⟩ := Option.isSome_iff_exists.mp filling
      rw [readings_succ, reading?, asked]
      exact List.cons_ne_nil _ _

/-- What is read of a list of events is the beginning of its bytes. -/
theorem content_readings (isOpen : Bool) (n : Nat) (r : Run) (s : ByteStream) :
    (readings isOpen n r s).flatMap ReadResult.content ++ (steps isOpen none n r s).2.content =
      s.content := by
  induction n generalizing r s with
  | zero => rfl
  | succ n ih =>
      cases unfinished : r.phase.isFinished with
      | true => rw [readings_of_finished unfinished, steps_of_finished unfinished]; rfl
      | false =>
          rw [readings_succ, steps_succ unfinished, List.flatMap_append, List.append_assoc, ih]
          cases asked : r.wanted? with
          | none =>
              rw [reading?_of_wanted asked, advance_eq_proceed asked]
              rfl
          | some wanted =>
              simp only [reading?, advance, asked, ByteStream.readable_read, Option.map_some,
                Option.toList_some, List.flatMap_singleton]
              exact ByteStream.content_read wanted s

theorem steps_context (n : Nat) : (steps isOpen none n r s).1.context = r.context := by
  induction n generalizing r s with
  | zero => rfl
  | succ n ih =>
      cases unfinished : r.phase.isFinished with
      | false =>
          rw [steps_succ unfinished, ih]
          exact (next isOpen s unfinished).settings.2
      | true => rw [steps_of_finished unfinished]

theorem finishes_of_next (unfinished : r.phase.isFinished = false)
    (finishes : ∃ n, (steps isOpen none n (r.advance isOpen s).1
      (r.advance isOpen s).2).1.phase.isFinished = true) :
    ∃ n, (steps isOpen none n r s).1.phase.isFinished = true := by
  obtain ⟨n, finished⟩ := finishes
  refine ⟨n + 1, ?_⟩
  rw [steps_succ unfinished]
  exact finished

theorem Faithful.steps (h : Faithful reads r) (isOpen : Bool) (s : σ) (n : Nat) :
    Faithful (reads ++ readings isOpen n r s) (Run.steps isOpen none n r s).1 := by
  induction n generalizing r s reads with
  | zero =>
      rw [readings, List.append_nil]
      exact h
  | succ n ih =>
      cases unfinished : r.phase.isFinished with
      | false =>
          rw [steps_succ unfinished, readings_succ, ← List.append_assoc]
          exact ih ((next isOpen s unfinished).faithful h) _
      | true =>
          rw [steps_of_finished unfinished, readings_of_finished unfinished, List.append_nil]
          exact h

section Endless

variable {buffer : Bytes}

theorem advance_of_partly (isOpen : Bool) (phase : r.phase = .reading buffer) {result : ReadResult}
    (reading : r.reading? s = some result) (partly : result.completes = false) :
    (r.advance isOpen s).1 = r.afterRead (.reading (buffer ++ result.content)) := by
  have step := step_of_reading isOpen s phase
  generalize r.advance isOpen s = later at step
  cases step with
  | readsOn phase' asked read =>
      rw [phase] at phase'
      rw [reading?_of_read asked read] at reading
      cases phase'
      cases reading
      rfl
  | fills _ asked read completes =>
      rw [reading?_of_read asked read] at reading
      cases reading
      rw [completes] at partly
      cases partly
  | fails _ asked read =>
      rw [reading?_of_read asked read] at reading
      cases reading
      cases partly
  | stops phase' | begins phase' | skips phase' | sends phase' | closed phase' =>
      rw [phase] at phase'
      cases phase'

/-- As long as no read completes a line, a reader that fills a buffer reads on with every step,
sends nothing, and keeps all that it reads in the buffer. -/
theorem reads_on (phase : r.phase = .reading buffer) {n : Nat}
    (partly : ∀ read ∈ readings isOpen n r s, read.completes = false) :
    (readings isOpen n r s).length = n ∧ (steps isOpen none n r s).1.sent = r.sent ∧
      (steps isOpen none n r s).1.phase =
        .reading (buffer ++ (readings isOpen n r s).flatMap ReadResult.content) := by
  induction n generalizing r s buffer with
  | zero =>
      refine ⟨rfl, rfl, ?_⟩
      rw [readings, List.flatMap_nil, List.append_nil]
      exact phase
  | succ n ih =>
      obtain ⟨wanted, asked⟩ := Option.isSome_iff_exists.mp (wanted?_of_reading phase)
      have reading : r.reading? s = some (Readable.read wanted s).1 := reading?_of_read asked rfl
      rw [readings_succ, reading, Option.toList_some, List.singleton_append] at partly ⊢
      obtain ⟨first, later⟩ := List.forall_mem_cons.mp partly
      have advanced := advance_of_partly isOpen phase reading first
      obtain ⟨length, sent, phase'⟩ := ih (by rw [advanced]; rfl) later
      rw [steps_succ (by rw [phase]; rfl)]
      refine ⟨by rw [List.length_cons, length], ?_, ?_⟩
      · rw [sent, advanced]
        rfl
      · rw [phase', List.flatMap_cons, List.append_assoc]

/-- A line that does not end is read for ever. -/
theorem readings_line {b : UInt8} (inLine : b ≠ newline) (isOpen : Bool) (n : Nat)
    (phase : r.phase = .reading buffer) (positive : 0 < r.reader.batchBytes) :
    readings isOpen n r (EndlessStream.line b) = List.replicate n (.bytes [b]) := by
  induction n generalizing r buffer with
  | zero => rfl
  | succ n ih =>
      obtain ⟨wanted, asked, room, _⟩ := wanted_spec phase positive
      have read := EndlessStream.read_line room b
      have reading : r.reading? (EndlessStream.line b) = some (.bytes [b]) :=
        reading?_of_read asked read
      have partly : ReadResult.completes (.bytes [b]) = false := by
        simpa [ReadResult.completes] using inLine.symm
      have rest : (r.advance isOpen (EndlessStream.line b)).2 = EndlessStream.line b := by
        simp only [advance, asked, read]
      have advanced := advance_of_partly isOpen phase reading partly
      have others := ih (r := r.afterRead (.reading (buffer ++ [b]))) rfl positive
      rw [readings_succ, reading, rest, advanced, List.replicate_succ]
      exact congrArg ((ReadResult.bytes [b]) :: ·) others

/-- So it never comes to its end, whether or not the reader is asked to stop. -/
theorem line_not_finished {b : UInt8} (inLine : b ≠ newline) (isOpen : Bool)
    (phase : r.phase = .reading buffer) (positive : 0 < r.reader.batchBytes) (n : Nat) :
    (steps isOpen none n r (EndlessStream.line b)).1.result? = none := by
  have partly : ∀ read ∈ readings isOpen n r (EndlessStream.line b), read.completes = false := by
    intro read member
    rw [readings_line inLine isOpen n phase positive] at member
    rw [List.eq_of_mem_replicate member]
    simpa [ReadResult.completes] using inLine.symm
  rw [result?, (reads_on phase partly).2.2]

end Endless

theorem Faithful.result_cases (h : Faithful reads r) {result : Except ComponentError Unit}
    (finished : r.result? = some result) :
    result = .ok () ∨ ∃ cause, .failed cause ∈ reads ∧
      result = .error (.io ("reading " ++ r.context) cause) := by
  have blamed := h.blamed
  cases phase : r.phase with
  | finished outcome =>
      rw [result?, phase] at finished
      cases finished
      cases result with
      | ok _ => exact .inl rfl
      | error e =>
          rw [phase] at blamed
          obtain ⟨cause, rfl, member⟩ := blamed
          exact .inr ⟨cause, member, rfl⟩
  | between _ | reading _ | filled _ _ => rw [result?, phase] at finished; cases finished

theorem start_faithful (batchBytes poolSize : Nat) (context : String)
    (metadata : Option Metadata) :
    Faithful [] { reader := Reader.new batchBytes poolSize, context, metadata } :=
  faithful_of_content (Nat.lt_of_lt_of_le Nat.one_pos (Nat.le_max_right batchBytes 1)) trivial
    (fun _ => rfl) rfl

end Run

end Reader

end RecordPipeline
