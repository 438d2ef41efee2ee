import RecordPipeline.Proofs.Source.Batching

/-!
What a reader sends of a stream that fails. Up to the failure it is the stream without it, and the
failure is taken for the end of the stream, but for the result. So the whole lines that were read
are in batches that end with a newline, and the start of the line that was cut off is sent behind
them, as a batch of its own.
-/

namespace RecordPipeline

/-- What stands behind the whole lines is the start of a line. -/
theorem newline_not_mem_drop_wholeLines (bs : Bytes) : newline ∉ bs.drop (wholeLines bs) := by
  by_cases member : newline ∈ bs
  · obtain ⟨front, back, rfl, clean, length⟩ := exists_wholeLines member
    rw [length, List.append_cons, List.drop_left' (by simp)]
    exact clean
  · exact fun inside => member (List.mem_of_mem_drop inside)

theorem wholeLines_append {front back : Bytes} (whole : front = [] ∨ front.getLast? = some newline)
    (clean : newline ∉ back) : wholeLines (front ++ back) = front.length := by
  have hpass : ∀ b ∈ back.reverse, decide (b ≠ newline) = true := by
    intro b inside
    rw [decide_eq_true_eq]
    intro same
    exact clean (same ▸ List.mem_reverse.mp inside)
  rw [wholeLines, List.reverse_append, List.dropWhile_append_of_pos hpass]
  rcases whole with rfl | ends
  · rfl
  · obtain ⟨start, rfl⟩ := List.getLast?_eq_some_iff.mp ends
    simp

/-- Batches that end with a newline hold whole lines, however many they are. -/
theorem getLast?_flatMap_data {batches : List Batch}
    (whole : ∀ b ∈ batches, b.data.getLast? = some newline) :
    batches.flatMap (·.data) = [] ∨ (batches.flatMap (·.data)).getLast? = some newline := by
  rcases batches.eq_nil_or_concat with rfl | ⟨front, last, rfl⟩
  · exact .inl rfl
  · have ends := whole last (by simp)
    right
    simp [List.getLast?_append, ends]

namespace ByteStream

/-- A read meets a failure behind the stream only where the stream would have ended. -/
theorem read_append_failed {wanted : Nat} (positive : 0 < wanted) (s : ByteStream) (e : IoError)
    (rest : ByteStream) :
    (s ++ .failed e :: rest).read wanted =
      if (s.read wanted).1 = .bytes [] then (.failed e, rest)
      else ((s.read wanted).1, (s.read wanted).2 ++ .failed e :: rest) := by
  induction s with
  | nil => rfl
  | cons event s ih =>
      cases event with
      | chunk bs =>
          cases bs with
          | nil => exact ih
          | cons b bs =>
              rw [List.cons_append, read, read]
              by_cases fits : (b :: bs).length ≤ wanted
              · simp only [if_pos fits, ReadResult.bytes.injEq, reduceCtorEq, if_false]
              · have some : (b :: bs).take wanted ≠ [] := by
                  intro none
                  have hlength := congrArg List.length none
                  rw [List.length_take, List.length_nil] at hlength
                  omega
                simp only [if_neg fits, ReadResult.bytes.injEq, some, if_false, List.cons_append]
      | interrupted => rfl
      | failed cause => rfl

theorem weight_le_append (front back : ByteStream) : front.weight ≤ weight (front ++ back) := by
  induction front with
  | nil => exact Nat.zero_le _
  | cons event front ih =>
      cases event <;> simp only [weight, List.cons_append, List.foldr_cons] at ih ⊢ <;> omega

end ByteStream

namespace Reader

namespace Phase

/-- The phase after a failure in place of the end of the stream. -/
def failing (context : String) (e : IoError) : Phase → Phase
  | .filled buffer .endOfStream => .filled buffer (.failure e)
  | .finished _ => .finished (.error (.io ("reading " ++ context) e))
  | phase => phase

/-- Whether the end of the stream was met. -/
def hasEnded : Phase → Bool
  | .filled _ .endOfStream | .finished _ => true
  | _ => false

end Phase

namespace Run

/-- The run after a failure in place of the end of the stream. -/
def failing (e : IoError) (r : Run) : Run :=
  { r with
    reader := { r.reader with
      counts := { r.reader.counts with errors := r.reader.counts.errors + 1 } }
    phase := r.phase.failing r.context e }

variable {size : Nat} {metadata : Option Metadata} {data : Bytes} {context : String} {r : Run}
  {s : ByteStream} {e : IoError} {rest : ByteStream}

/-- What is known besides of a run on a stream that does not fail: a batch that does not end with a
newline holds none. -/
structure Orderly (context : String) (r : Run) : Prop where
  context : r.context = context
  noErrors : r.reader.counts.errors = 0
  batches : ∀ b ∈ r.sent, b.data.getLast? = some newline ∨ newline ∉ b.data

theorem Orderly.afterBatch (inv : Orderly context r) {bytes : Bytes} (phase : Phase)
    (ends : bytes.getLast? = some newline ∨ newline ∉ bytes) :
    Orderly context (r.afterBatch bytes phase) := by
  refine ⟨inv.context, inv.noErrors, ?_⟩
  intro b member
  rcases List.mem_append.mp member with earlier | last
  · exact inv.batches b earlier
  · rw [List.mem_singleton] at last
    rw [last]
    exact ends

/-- A run on a stream that does not fail, and the run on the same stream with a failure behind it:
they are the same up to the end of the stream. -/
inductive Meets (e : IoError) (rest : ByteStream) (r : Run) (s : ByteStream) :
    Run × ByteStream → Prop where
  | before (goesOn : r.phase.hasEnded = false) : Meets e rest r s (r, s ++ .failed e :: rest)
  | behind (ended : r.phase.hasEnded = true) {left : ByteStream} :
      Meets e rest r s (r.failing e, left)

/-- Two runs after their next steps, still the same up to the end of the stream. -/
def MeetsNext (context : String) (e : IoError) (rest : ByteStream) (r : Run) (s : ByteStream)
    (p : Run × ByteStream) : Prop :=
  Meets e rest (r.advance true s).1 (r.advance true s).2 (p.1.advance true p.2) ∧
    Orderly context (r.advance true s).1

theorem Meets.isFinished {p : Run × ByteStream} (meets : Meets e rest r s p) :
    p.1.phase.isFinished = r.phase.isFinished := by
  cases meets with
  | before => rfl
  | behind ended =>
      cases phase : r.phase with
      | filled buffer ending =>
          cases ending <;> simp only [failing, phase, Phase.failing, Phase.isFinished]
      | between _ | reading _ | finished _ =>
          simp only [failing, phase, Phase.failing, Phase.isFinished]

/-- In a run that has come to its end the failure was met. -/
theorem Meets.of_finished {p : Run × ByteStream} (meets : Meets e rest r s p)
    (finished : r.phase.isFinished = true) :
    p.1 = r.failing e ∧ p.1.result? = some (.error (.io ("reading " ++ r.context) e)) := by
  cases phase : r.phase with
  | finished result =>
      cases meets with
      | before goesOn => rw [phase] at goesOn; cases goesOn
      | behind ended => exact ⟨rfl, by simp only [result?, failing, phase, Phase.failing]⟩
  | between _ | reading _ | filled _ _ => rw [phase] at finished; cases finished

theorem next_between (h : Batching size metadata data r s) (inv : Orderly context r)
    {carry : Bytes} (phase : r.phase = .between carry) :
    MeetsNext context e rest r s (r, s ++ .failed e :: rest) := by
  have asksNothing : r.wanted? = none := by rw [wanted?, phase]
  rw [MeetsNext, advance_eq_proceed asksNothing, advance_eq_proceed asksNothing,
    proceed_between phase h.running]
  exact ⟨.before rfl, inv.context, inv.noErrors, inv.batches⟩

/-- Where the one run meets the end of the stream, the other one meets the failure. -/
theorem next_reading (positive : 0 < size) (h : Batching size metadata data r s)
    (inv : Orderly context r) {buffer : Bytes} (phase : r.phase = .reading buffer) :
    MeetsNext context e rest r s (r, s ++ .failed e :: rest) := by
  obtain ⟨wanted, hwanted, asked, _⟩ := wanted_spec phase (h.batchBytes.symm ▸ positive)
  have read := (ByteStream.read_spec asked h.flawless).1
  have hread := ByteStream.read_append_failed asked s e rest
  simp only [MeetsNext, advance, hwanted, ByteStream.readable_read, hread]
  generalize s.read wanted = next at read
  obtain ⟨result, left⟩ := next
  dsimp only at read ⊢
  have orderly : ∀ phase, Orderly context (r.afterRead phase) := fun _ =>
    ⟨inv.context, inv.noErrors, inv.batches⟩
  cases read with
  | @bytes bs _ used =>
      have goesOn : (r.receive (.bytes bs)).phase.hasEnded = false := by
        rw [receive_bytes phase used]
        by_cases complete : newline ∈ bs
        · simp only [afterRead, complete, if_true, Phase.hasEnded]
        · simp only [afterRead, complete, if_false, Phase.hasEnded]
      rw [if_neg (by simpa using used)]
      refine ⟨.before goesOn, ?_⟩
      rw [receive_bytes phase used]
      exact orderly _
  | interrupted =>
      rw [if_neg (by simp), receive_interrupted phase]
      exact ⟨.before rfl, orderly _⟩
  | ended =>
      have failed : r.receive (.failed e) =
          (r.afterRead (.filled buffer .endOfStream)).failing e := by
        simp only [receive, phase, afterRead, failing, Phase.failing]
      rw [if_pos rfl, failed, receive_end phase]
      exact ⟨.behind rfl, orderly _⟩

theorem next_line (h : Batching size metadata data r s) (inv : Orderly context r)
    {buffer : Bytes} (phase : r.phase = .filled buffer .line) :
    MeetsNext context e rest r s (r, s ++ .failed e :: rest) := by
  have consistent := h.phase
  rw [phase] at consistent
  obtain ⟨front, back, _, _, hdivide⟩ := divide_line consistent.1
  have asksNothing : r.wanted? = none := by rw [wanted?, phase]
  rw [MeetsNext, advance_eq_proceed asksNothing, advance_eq_proceed asksNothing,
    proceed_filled phase hdivide (by simp)]
  exact ⟨.before rfl, inv.afterBatch _ (.inl (by simp))⟩

/-- Behind the end of the stream and behind the failure the same bytes are sent. -/
theorem next_endOfStream (h : Batching size metadata data r s) (inv : Orderly context r)
    {buffer : Bytes} (phase : r.phase = .filled buffer .endOfStream) (left : ByteStream) :
    MeetsNext context e rest r s (r.failing e, left) := by
  have consistent := h.phase
  rw [phase] at consistent
  have failed : (r.failing e).phase = .filled buffer (.failure e) := by
    simp only [failing, phase, Phase.failing]
  have asksNothing : r.wanted? = none := by rw [wanted?, phase]
  have asksNothing' : (r.failing e).wanted? = none := by rw [wanted?, failed]
  rw [MeetsNext, advance_eq_proceed asksNothing, advance_eq_proceed asksNothing']
  by_cases used : buffer = []
  · rw [used] at phase failed
    rw [proceed_empty phase rfl, proceed_empty failed rfl]
    exact ⟨.behind rfl, inv.context, inv.noErrors, inv.batches⟩
  · rw [proceed_filled phase rfl used, proceed_filled failed rfl used]
    exact ⟨.behind rfl, inv.afterBatch _ (.inr consistent.1)⟩

theorem Meets.step (positive : 0 < size) (h : Batching size metadata data r s)
    (inv : Orderly context r) {p : Run × ByteStream} (meets : Meets e rest r s p)
    (unfinished : r.phase.isFinished = false) : MeetsNext context e rest r s p := by
  cases meets with
  | before goesOn =>
      cases phase : r.phase with
      | between carry => exact next_between h inv phase
      | reading buffer => exact next_reading positive h inv phase
      | filled buffer ending =>
          cases ending with
          | line => exact next_line h inv phase
          | endOfStream => rw [phase] at goesOn; cases goesOn
          | failure cause =>
              have consistent := h.phase
              rw [phase] at consistent
              exact consistent.elim
      | finished result => rw [phase] at goesOn; cases goesOn
  | @behind ended left =>
      cases phase : r.phase with
      | filled buffer ending =>
          cases ending with
          | endOfStream => exact next_endOfStream h inv phase left
          | line | failure _ => rw [phase] at ended; cases ended
      | between _ | reading _ => rw [phase] at ended; cases ended
      | finished result => rw [phase] at unfinished; cases unfinished

/-- As many steps of both runs leave them the same up to the end of the stream. -/
theorem Meets.steps (positive : 0 < size) (h : Batching size metadata data r s)
    (inv : Orderly context r) {p : Run × ByteStream} (meets : Meets e rest r s p) (n : Nat) :
    Meets e rest (Run.steps true none n r s).1 (Run.steps true none n r s).2
        (Run.steps true none n p.1 p.2) ∧
      Orderly context (Run.steps true none n r s).1 := by
  induction n generalizing r s p with
  | zero => exact ⟨meets, inv⟩
  | succ n ih =>
      have same := meets.isFinished
      cases unfinished : r.phase.isFinished with
      | false =>
          obtain ⟨next, inv'⟩ := meets.step positive h inv unfinished
          rw [steps_succ unfinished, steps_succ (same.trans unfinished)]
          exact ih (h.forward positive unfinished).1 inv' next
      | true =>
          rw [steps_of_finished unfinished, steps_of_finished (same.trans unfinished)]
          exact ⟨meets, inv⟩

/-- When all batches but the last end with a newline, and the last one ends with it or holds none,
the last one is the start of a line or there is no such start. -/
theorem exists_whole_batches {sent : List Batch} (content : sent.flatMap (·.data) = data)
    (used : ∀ b ∈ sent, b.data ≠ [] ∧ b.metadata = metadata)
    (whole : ∀ b ∈ sent.dropLast, b.data.getLast? = some newline)
    (orderly : ∀ b ∈ sent, b.data.getLast? = some newline ∨ newline ∉ b.data) :
    ∃ whole, (∀ b ∈ whole, b.data.getLast? = some newline) ∧
      whole.flatMap (·.data) = data.take (wholeLines data) ∧
      sent = whole ++ if data.drop (wholeLines data) = [] then []
        else [{ data := data.drop (wholeLines data), metadata }] := by
  subst content
  rcases sent.eq_nil_or_concat with rfl | ⟨front, last, rfl⟩
  · exact ⟨[], fun b member => absurd member List.not_mem_nil, rfl, rfl⟩
  · rw [List.concat_eq_append] at used whole orderly ⊢
    rw [List.dropLast_concat] at whole
    have inside : last ∈ front ++ [last] := List.mem_append_right _ (List.mem_singleton_self last)
    rcases orderly last inside with ends | clean
    · have all : ∀ b ∈ front ++ [last], b.data.getLast? = some newline := by
        intro b member
        rcases List.mem_append.mp member with earlier | same
        · exact whole b earlier
        · rw [List.mem_singleton.mp same]
          exact ends
      have length := wholeLines_append (getLast?_flatMap_data all) (by simp : newline ∉ [])
      rw [List.append_nil] at length
      rw [length, List.take_length, List.drop_length, if_pos rfl]
      exact ⟨front ++ [last], all, rfl, (List.append_nil _).symm⟩
    · have length := wholeLines_append (getLast?_flatMap_data whole) clean
      obtain ⟨some, labelled⟩ := used last inside
      rw [List.flatMap_append, List.flatMap_singleton, length, List.take_left, List.drop_left,
        if_neg some, ← labelled]
      exact ⟨front, whole, rfl, rfl⟩

end Run

/-- A failure is told once, as the result, and nothing is lost that was read before it. The whole
lines are in batches that end with a newline. The start of a line that the failure cut off is sent
too, behind them, as if it were a line: so every batch ends with a newline if and only if the bytes
before the failure do, or there are none. -/
theorem batches_before_failure (batchBytes poolSize : Nat) (context : String)
    (metadata : Option Metadata) {front : ByteStream} (flawless : front.Flawless) (e : IoError)
    (rest : ByteStream) :
    let reader := Reader.new batchBytes poolSize
    let done := (reader.run context metadata (front ++ .failed e :: rest)).1
    let data := front.content
    let start := data.drop (wholeLines data)
    done.result? = some (.error (.io ("reading " ++ context) e)) ∧
      done.reader.counts.errors = 1 ∧
      (∃ whole, (∀ b ∈ whole, b.data.getLast? = some newline) ∧
        whole.flatMap (·.data) = data.take (wholeLines data) ∧
        done.sent = whole ++ if start = [] then [] else [{ data := start, metadata }]) ∧
      ((∀ b ∈ done.sent, b.data.getLast? = some newline) ↔ start = []) := by
  intro reader done data start
  have positive : 0 < max batchBytes 1 := Nat.lt_of_lt_of_le Nat.one_pos (Nat.le_max_right _ _)
  have known := Run.start_batching batchBytes poolSize context metadata flawless
  have orderly : Run.Orderly context { reader, context, metadata } :=
    ⟨rfl, rfl, fun b none => absurd none List.not_mem_nil⟩
  have longer := front.weight_le_append (.failed e :: rest)
  have finished := known.steps_finish positive
    (n := 3 * ByteStream.weight (front ++ .failed e :: rest) + 6) (by
      simp only [Run.effort, Phase.effort]
      omega)
  have meets : Run.Meets e rest { reader, context, metadata } front
      ({ reader, context, metadata }, front ++ .failed e :: rest) := .before rfl
  obtain ⟨meets, orderly⟩ := meets.steps positive known orderly
    (3 * ByteStream.weight (front ++ .failed e :: rest) + 6)
  have known := known.steps positive (3 * ByteStream.weight (front ++ .failed e :: rest) + 6)
  obtain ⟨_, content, whole⟩ := known.of_finished finished
  obtain ⟨same, result⟩ := meets.of_finished finished
  have sent : done.sent = _ := congrArg Run.sent same
  have errors : done.reader.counts.errors = _ := congrArg (·.reader.counts.errors) same
  obtain ⟨lines, lineEnds, lineContent, split⟩ := Run.exists_whole_batches content
    (fun b member => ⟨(known.batches b member).1, (known.batches b member).2.1⟩) whole
    orderly.batches
  have split : done.sent = lines ++ if start = [] then [] else [{ data := start, metadata }] :=
    sent.trans split
  refine ⟨orderly.context ▸ result, errors.trans (congrArg (· + 1) orderly.noErrors),
    ⟨lines, lineEnds, lineContent, split⟩, ?_⟩
  by_cases none : start = []
  · rw [split, if_pos none, List.append_nil]
    exact iff_of_true lineEnds none
  · have last : (⟨start, metadata⟩ : Batch) ∈ done.sent := by simp [split, none]
    refine iff_of_false ?_ none
    intro ends
    exact newline_not_mem_drop_wholeLines data (List.mem_of_getLast? (ends _ last))

/-- A stream that fails within its second line, after that was read in part. -/
def brokenStream : ByteStream := [.chunk [97, newline, 98], .interrupted, .chunk [99]]

theorem flawless_brokenStream : brokenStream.Flawless := by
  intro cause member
  simp [brokenStream] at member

/-- The first line is a batch, and what was read of the second line is another one. -/
theorem broken_batches_before_failure :
    brokenStream.Flawless ∧
      ((Reader.new 64 2).run "reader" none (brokenStream ++ [.failed (.other "gone")])).1.sent =
        [{ data := [97, newline] }, { data := [98, 99] }] ∧
      ((Reader.new 64 2).run "reader" none
        (brokenStream ++ [.failed (.other "gone")])).1.reader.counts.errors = 1 := by
  obtain ⟨_, once, _, _⟩ :=
    batches_before_failure 64 2 "reader" none flawless_brokenStream (.other "gone") []
  exact ⟨flawless_brokenStream, by decide +kernel, once⟩

/-- So it does not hold that a failure leaves batches of whole lines only. -/
theorem batches_before_failure_may_split_a_line :
    ¬ ∀ (batchBytes poolSize : Nat) (context : String) (front : ByteStream), front.Flawless →
      ∀ e : IoError, ∀ b ∈ ((Reader.new batchBytes poolSize).run context none
        (front ++ [.failed e])).1.sent, b.data.getLast? = some newline := by
  intro whole
  have ends := whole 64 2 "reader" brokenStream flawless_brokenStream (.other "gone")
    { data := [98, 99] } (by decide +kernel)
  exact absurd ends (by decide)

end Reader

end RecordPipeline
