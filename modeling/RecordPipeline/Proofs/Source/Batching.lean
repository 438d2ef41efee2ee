import RecordPipeline.Proofs.Source.Lines
import RecordPipeline.Source.Reader

/-!
How a reader cuts a stream into batches. Whatever the chunks in which the stream comes, and however
often a read is interrupted, the batches are the stream: between two steps what was sent, what is
carried over or in the buffer, and what is still to be read are all its bytes in order, and what is
carried over holds no newline.
-/

namespace RecordPipeline

namespace ByteStream

/-- The bytes of a stream, in whatever chunks they come. -/
def content (s : ByteStream) : Bytes :=
  s.flatMap fun
    | .chunk bytes => bytes
    | _ => []

/-- A stream of which no read fails. -/
def Flawless (s : ByteStream) : Prop := ∀ e, .failed e ∉ s

/-- What a read of at least one byte can give and leave of a stream that does not fail. Only the end
of the stream gives no bytes. -/
inductive Read (wanted : Nat) (s : ByteStream) : ReadResult → ByteStream → Prop where
  | bytes {bs : Bytes} {rest : ByteStream} (used : bs ≠ []) (short : bs.length ≤ wanted)
      (content : s.content = bs ++ rest.content) (lighter : rest.weight < s.weight) :
      Read wanted s (.bytes bs) rest
  | interrupted {rest : ByteStream} (content : s.content = rest.content)
      (lighter : rest.weight < s.weight) : Read wanted s .interrupted rest
  | ended (content : s.content = []) : Read wanted s (.bytes []) []

theorem Flawless.tail {e : ReadEvent} {s : ByteStream} (h : Flawless (e :: s)) : Flawless s :=
  fun cause member => h cause (List.mem_cons_of_mem e member)

theorem content_chunk (bs : Bytes) (s : ByteStream) :
    content (.chunk bs :: s) = bs ++ s.content := rfl

theorem weight_chunk (bs : Bytes) (s : ByteStream) :
    weight (.chunk bs :: s) = bs.length + 1 + s.weight := rfl

/-- An empty chunk is passed over. -/
theorem Read.skip {wanted : Nat} {s rest : ByteStream} {result : ReadResult}
    (h : Read wanted s result rest) : Read wanted (.chunk [] :: s) result rest := by
  have heavier : s.weight < weight (.chunk [] :: s) := by
    rw [weight_chunk, List.length_nil]
    omega
  cases h with
  | bytes used short content lighter =>
      exact .bytes used short content (Nat.lt_trans lighter heavier)
  | interrupted content lighter => exact .interrupted content (Nat.lt_trans lighter heavier)
  | ended content => exact .ended content

/-- Only at the end of the stream a read gives no bytes. -/
theorem Read.content_of_nil {wanted : Nat} {s rest : ByteStream}
    (h : Read wanted s (.bytes []) rest) : s.content = [] := by
  cases h with
  | bytes used => exact absurd rfl used
  | ended content => exact content

theorem read_spec {wanted : Nat} (positive : 0 < wanted) {s : ByteStream} (flawless : s.Flawless) :
    Read wanted s (s.read wanted).1 (s.read wanted).2 ∧ (s.read wanted).2.Flawless := by
  induction s with
  | nil => exact ⟨.ended rfl, flawless⟩
  | cons e rest ih =>
      have later := flawless.tail
      cases e with
      | chunk bs =>
          cases bs with
          | nil =>
              obtain ⟨next, flawless⟩ := ih later
              exact ⟨next.skip, flawless⟩
          | cons b bs =>
              rw [read]
              by_cases fits : (b :: bs).length ≤ wanted
              · rw [if_pos fits]
                have lighter : weight rest < weight (.chunk (b :: bs) :: rest) := by
                  rw [weight_chunk]
                  omega
                exact ⟨.bytes (List.cons_ne_nil b bs) fits (content_chunk _ _) lighter, later⟩
              · rw [if_neg fits]
                refine ⟨.bytes ?_ ?_ ?_ ?_, ?_⟩
                · intro none
                  have hlength := congrArg List.length none
                  rw [List.length_take, List.length_nil] at hlength
                  omega
                · rw [List.length_take]
                  exact Nat.min_le_left _ _
                · rw [content_chunk, content_chunk, ← List.append_assoc, List.take_append_drop]
                · rw [weight_chunk, weight_chunk, List.length_drop]
                  rw [List.length_cons] at fits ⊢
                  omega
                · intro cause member
                  rcases List.mem_cons.mp member with same | inside
                  · cases same
                  · exact later cause inside
      | interrupted => exact ⟨.interrupted rfl (Nat.lt_succ_self _), later⟩
      | failed cause => exact absurd List.mem_cons_self (flawless cause)

end ByteStream

/-- A byte string that is longer than asked for has a first line to blame for it: before the newline
stand at least as many bytes as were asked for. -/
def LongForItsLine (size : Nat) (bs : Bytes) : Prop :=
  size < bs.length → size ≤ (bs.takeWhile (· ≠ newline)).length

/-- The first line does not change with what stands behind its newline. -/
theorem takeWhile_append_of_mem {front : Bytes} (member : newline ∈ front) (back : Bytes) :
    (front ++ back).takeWhile (· ≠ newline) = front.takeWhile (· ≠ newline) := by
  obtain ⟨line, rest, rfl, clean⟩ := List.eq_append_cons_of_mem member
  rw [List.append_assoc, takeWhile_append_of_not_mem clean, takeWhile_append_of_not_mem clean]
  simp

theorem longForItsLine_of_not_mem {size : Nat} {bs : Bytes} (clean : newline ∉ bs) :
    LongForItsLine size bs := by
  intro long
  rw [takeWhile_of_not_mem clean]
  exact Nat.le_of_lt long

/-- The blame stays with the first line when what follows a newline is cut off. -/
theorem LongForItsLine.of_append {size : Nat} {front back : Bytes}
    (long : LongForItsLine size (front ++ back)) (member : newline ∈ front) :
    LongForItsLine size front := by
  intro longer
  rw [← takeWhile_append_of_mem member back]
  apply long
  rw [List.length_append]
  exact Nat.lt_add_right _ longer

namespace Reader

namespace Phase

/-- The bytes that were read and not sent yet. -/
def pending : Phase → Bytes
  | .between carry => carry
  | .reading buffer | .filled buffer _ => buffer
  | .finished _ => []

/-- What is known of the bytes that are not sent yet. Only bytes that were just read hold a newline,
and the end of the stream is not taken up before all of it was read. -/
def Consistent (size : Nat) (s : ByteStream) : Phase → Prop
  | .between carry | .reading carry => newline ∉ carry
  | .filled buffer .line => newline ∈ buffer ∧ LongForItsLine size buffer
  | .filled buffer .endOfStream => newline ∉ buffer ∧ s.content = []
  | .filled _ (.failure _) => False
  | .finished result => result = .ok () ∧ s.content = []

/-- How many steps are left if the next read meets the end of the stream. -/
def effort : Phase → Nat
  | .between _ => 3
  | .reading _ => 2
  | .filled _ .line => 4
  | .filled _ .endOfStream | .filled _ (.failure _) => 1
  | .finished _ => 0

def isFinished : Phase → Bool
  | .finished _ => true
  | _ => false

theorem isFinished_of_effort {phase : Phase} (idle : phase.effort = 0) :
    phase.isFinished = true := by
  cases phase with
  | finished _ => rfl
  | between _ | reading _ => cases idle
  | filled _ ending => cases ending <;> cases idle

end Phase

namespace Run

/-- The batches that must end with a newline: all, or all but the last at the end of the stream. -/
def settled (r : Run) : List Batch := if r.phase.isFinished then r.sent.dropLast else r.sent

/-- What is known of a reader at work between two steps. -/
structure Batching (size : Nat) (metadata : Option Metadata) (data : Bytes) (r : Run)
    (s : ByteStream) : Prop where
  batchBytes : r.reader.batchBytes = size
  running : r.reader.isStopped = false
  labelled : r.metadata = metadata
  flawless : s.Flawless
  content : r.sent.flatMap (·.data) ++ r.phase.pending ++ s.content = data
  phase : r.phase.Consistent size s
  batches : ∀ b ∈ r.sent, b.data ≠ [] ∧ b.metadata = metadata ∧ LongForItsLine size b.data
  whole : ∀ b ∈ r.settled, b.data.getLast? = some newline
  counts : r.reader.counts.batches = r.sent.length ∧
    r.reader.counts.bytes = (r.sent.flatMap (·.data)).length

/-- How many steps a run can still take. A read that gives bytes takes weight off the stream, and
two other steps come with it. -/
def effort (r : Run) (s : ByteStream) : Nat := 3 * s.weight + r.phase.effort

/-- A step after which all is known that was known before, and that leaves fewer steps to do. -/
def Forward (size : Nat) (metadata : Option Metadata) (data : Bytes) (r : Run) (s : ByteStream)
    (next : Run × ByteStream) : Prop :=
  Batching size metadata data next.1 next.2 ∧ effort next.1 next.2 < effort r s

variable {size : Nat} {metadata : Option Metadata} {data : Bytes} {r : Run} {s : ByteStream}

theorem settled_of_finished (finished : r.phase.isFinished = true) :
    r.settled = r.sent.dropLast := if_pos finished

theorem settled_of_unfinished (unfinished : r.phase.isFinished = false) : r.settled = r.sent :=
  if_neg (Bool.eq_false_iff.mp unfinished)

/-- A read is for at least one byte, and fills the buffer to the asked length at most, unless what
is there has it already. -/
theorem wanted_spec {buffer : Bytes} (phase : r.phase = .reading buffer)
    (positive : 0 < r.reader.batchBytes) :
    ∃ wanted, r.wanted? = some wanted ∧ 0 < wanted ∧
      (r.reader.batchBytes < buffer.length + wanted → r.reader.batchBytes ≤ buffer.length) := by
  have hlong : 0 < longRead := by decide
  cases hroom : r.reader.batchBytes - buffer.length with
  | zero =>
      refine ⟨min r.reader.batchBytes longRead, ?_, Nat.lt_min.mpr ⟨positive, hlong⟩, ?_⟩
      · simp only [wanted?, phase, hroom]
      · omega
  | succ room =>
      refine ⟨room + 1, ?_, Nat.succ_pos room, ?_⟩
      · simp only [wanted?, phase, hroom]
      · omega

theorem wanted_pos {wanted : Nat} (positive : 0 < r.reader.batchBytes)
    (h : r.wanted? = some wanted) : 0 < wanted := by
  cases hphase : r.phase with
  | reading buffer =>
      obtain ⟨_, hwanted, hpos, _⟩ := wanted_spec hphase positive
      rw [hwanted] at h
      cases h
      exact hpos
  | between _ | filled _ _ | finished _ =>
      rw [wanted?, hphase] at h
      cases h

/-- The lines of a buffer go into the batch, and the start of the next line is carried over. -/
theorem divide_line {buffer : Bytes} (member : newline ∈ buffer) :
    ∃ front back, buffer = front ++ newline :: back ∧ newline ∉ back ∧
      divide buffer .line = (front ++ [newline], back) := by
  obtain ⟨front, back, rfl, clean, hlength⟩ := exists_wholeLines member
  refine ⟨front, back, rfl, clean, ?_⟩
  rw [divide, hlength, List.splitAt_eq, List.append_cons,
    List.take_left' (by simp), List.drop_left' (by simp)]

/-- A read that does not fail changes the phase, and is counted. -/
def afterRead (r : Run) (phase : Phase) : Run :=
  { r with
    reader := { r.reader with
      counts := { r.reader.counts with reads := r.reader.counts.reads + 1 } }
    phase }

/-- What a batch leaves, and what comes after it. -/
def afterBatch (r : Run) (bytes : Bytes) (phase : Phase) : Run :=
  { r with
    reader := { r.reader with counts := r.reader.counts.addBatch bytes.length }
    phase
    sent := r.sent ++ [{ data := bytes, metadata := r.metadata }] }

/-- A step without a read leaves the stream as it is. -/
theorem advance_eq_proceed {σ : Type} [Readable σ] {isOpen : Bool}
    (asksNothing : r.wanted? = none) (s : σ) :
    r.advance isOpen s = (r.proceed isOpen, s) := by
  simp only [advance, asksNothing]

theorem proceed_between {isOpen : Bool} {carry : Bytes} (phase : r.phase = .between carry)
    (running : r.reader.isStopped = false) : r.proceed isOpen = { r with
      reader := { r.reader with pool := r.reader.pool.get.2 }, phase := .reading carry } := by
  simp only [proceed, phase, running, Bool.false_eq_true, if_false]

/-- What is to be handed on of a buffer becomes a batch. -/
theorem proceed_filled {buffer bytes carry : Bytes} {ending : Ending}
    (phase : r.phase = .filled buffer ending) (divided : divide buffer ending = (bytes, carry))
    (used : bytes ≠ []) :
    r.proceed true = r.afterBatch bytes (after r.context carry ending) := by
  simp only [proceed, phase, divided, used, if_false, if_true, afterBatch]

/-- Where there is nothing to hand on, the buffer goes back to the pool. -/
theorem proceed_empty {isOpen : Bool} {buffer carry : Bytes} {ending : Ending}
    (phase : r.phase = .filled buffer ending) (divided : divide buffer ending = ([], carry)) :
    r.proceed isOpen = { r with
      reader := { r.reader with pool := r.reader.pool.put { capacity := r.reader.batchBytes } }
      phase := after r.context carry ending } := by
  simp only [proceed, phase, divided, if_true]

section Receive

variable {buffer : Bytes} (phase : r.phase = .reading buffer)

include phase

/-- The read that completes a line is the last one for its batch. -/
theorem receive_bytes {bs : Bytes} (used : bs ≠ []) :
    r.receive (.bytes bs) = r.afterRead
      (if newline ∈ bs then .filled (buffer ++ bs) .line else .reading (buffer ++ bs)) := by
  obtain ⟨b, tail, rfl⟩ := List.exists_cons_of_ne_nil used
  by_cases complete : newline ∈ b :: tail
  · simp only [receive, phase, complete, if_true, afterRead]
  · simp only [receive, phase, complete, if_false, afterRead]

theorem receive_interrupted : r.receive .interrupted = r.afterRead (.reading buffer) := by
  simp only [receive, phase, afterRead]

theorem receive_end : r.receive (.bytes []) = r.afterRead (.filled buffer .endOfStream) := by
  simp only [receive, phase, afterRead]

end Receive

namespace Batching

/-- What is known after a step that sends nothing. -/
theorem unsent (h : Batching size metadata data r s) (unfinished : r.phase.isFinished = false)
    {reader : Reader} {next : Phase} {rest : ByteStream}
    (same : reader.batchBytes = r.reader.batchBytes ∧ reader.isStopped = r.reader.isStopped ∧
      reader.counts.batches = r.reader.counts.batches ∧
      reader.counts.bytes = r.reader.counts.bytes)
    (flawless : rest.Flawless)
    (content : r.phase.pending ++ s.content = next.pending ++ rest.content)
    (phase : next.Consistent size rest) :
    Batching size metadata data { r with reader, phase := next } rest where
  batchBytes := same.1.trans h.batchBytes
  running := same.2.1.trans h.running
  labelled := h.labelled
  flawless := flawless
  content := by
    rw [← h.content, List.append_assoc, List.append_assoc, content]
  phase := phase
  batches := h.batches
  whole := by
    have hwhole := h.whole
    rw [settled_of_unfinished unfinished] at hwhole
    intro b member
    cases finished : next.isFinished with
    | false =>
        rw [settled_of_unfinished finished] at member
        exact hwhole b member
    | true =>
        rw [settled_of_finished finished] at member
        exact hwhole b (List.dropLast_subset _ member)
  counts := ⟨same.2.2.1.trans h.counts.1, same.2.2.2.trans h.counts.2⟩

/-- What is known after a batch was sent. -/
theorem sent (h : Batching size metadata data r s) (unfinished : r.phase.isFinished = false)
    {bytes : Bytes} {next : Phase} (used : bytes ≠ []) (long : LongForItsLine size bytes)
    (content : r.phase.pending = bytes ++ next.pending) (phase : next.Consistent size s)
    (whole : next.isFinished = false → bytes.getLast? = some newline) :
    Batching size metadata data (r.afterBatch bytes next) s where
  batchBytes := h.batchBytes
  running := h.running
  labelled := h.labelled
  flawless := h.flawless
  content := by
    rw [← h.content, content]
    simp [afterBatch]
  phase := phase
  batches := by
    intro b member
    rcases List.mem_append.mp member with earlier | last
    · exact h.batches b earlier
    · rw [List.mem_singleton] at last
      subst last
      exact ⟨used, h.labelled, long⟩
  whole := by
    have hwhole := h.whole
    rw [settled_of_unfinished unfinished] at hwhole
    intro b member
    cases finished : next.isFinished with
    | false =>
        rw [settled_of_unfinished finished] at member
        rcases List.mem_append.mp member with earlier | last
        · exact hwhole b earlier
        · rw [List.mem_singleton] at last
          subst last
          exact whole finished
    | true =>
        rw [settled_of_finished finished, afterBatch, List.dropLast_concat] at member
        exact hwhole b member
  counts := by
    simp [afterBatch, SourceCounts.addBatch, h.counts.1, h.counts.2]

/-- A batch begins with what was carried over. -/
theorem forward_between (h : Batching size metadata data r s) {carry : Bytes}
    (phase : r.phase = .between carry) : Forward size metadata data r s (r.advance true s) := by
  have clean := h.phase
  rw [phase] at clean
  rw [advance_eq_proceed (by rw [wanted?, phase]), proceed_between phase h.running]
  constructor
  · exact h.unsent (by rw [phase]; rfl) ⟨rfl, rfl, rfl, rfl⟩ h.flawless (by rw [phase]; rfl) clean
  · rw [effort, effort, phase]
    exact Nat.lt_succ_self _

/-- After a read the bytes that were read are no longer in the stream but in the buffer. -/
theorem forward_afterRead (h : Batching size metadata data r s) {buffer : Bytes}
    (phase : r.phase = .reading buffer) {next : Phase} {rest : ByteStream}
    (flawless : rest.Flawless) (consistent : next.Consistent size rest)
    (content : buffer ++ s.content = next.pending ++ rest.content)
    (less : 3 * rest.weight + next.effort < 3 * s.weight + 2) :
    Forward size metadata data r s (r.afterRead next, rest) := by
  constructor
  · refine h.unsent (by rw [phase]; rfl) ⟨rfl, rfl, rfl, rfl⟩ flawless ?_ consistent
    rw [phase]
    exact content
  · rw [effort, effort, phase]
    exact less

theorem forward_reading (positive : 0 < size) (h : Batching size metadata data r s)
    {buffer : Bytes} (phase : r.phase = .reading buffer) :
    Forward size metadata data r s (r.advance true s) := by
  obtain ⟨wanted, hwanted, asked, full⟩ := wanted_spec phase (h.batchBytes.symm ▸ positive)
  obtain ⟨hread, flawless⟩ := ByteStream.read_spec asked h.flawless
  have hstep : r.advance true s = (r.receive (s.read wanted).1, (s.read wanted).2) := by
    simp only [advance, hwanted, ByteStream.readable_read]
  have clean := h.phase
  rw [phase] at clean
  rw [h.batchBytes] at full
  rw [hstep]
  generalize s.read wanted = next at hread flawless
  obtain ⟨result, rest⟩ := next
  dsimp only at hread flawless ⊢
  cases hread with
  | @bytes bs _ used short content lighter =>
      have moved : buffer ++ s.content = buffer ++ bs ++ rest.content := by
        rw [content, List.append_assoc]
      rw [receive_bytes phase used]
      by_cases complete : newline ∈ bs
      · have long : LongForItsLine size (buffer ++ bs) := by
          intro longer
          rw [List.length_append] at longer
          rw [takeWhile_append_of_not_mem clean, List.length_append]
          omega
        rw [if_pos complete]
        refine h.forward_afterRead phase flawless ⟨List.mem_append_right buffer complete, long⟩
          moved ?_
        rw [Phase.effort]
        omega
      · rw [if_neg complete]
        refine h.forward_afterRead phase flawless ?_ moved ?_
        · exact fun member => (List.mem_append.mp member).elim clean complete
        · rw [Phase.effort]
          omega
  | interrupted content lighter =>
      rw [receive_interrupted phase]
      refine h.forward_afterRead phase flawless clean (congrArg (buffer ++ ·) content) ?_
      rw [Phase.effort]
      omega
  | ended content =>
      rw [receive_end phase]
      refine h.forward_afterRead phase flawless ⟨clean, rfl⟩ (congrArg (buffer ++ ·) content) ?_
      have nothing : ByteStream.weight [] = 0 := rfl
      rw [Phase.effort, nothing]
      omega

/-- The whole lines of a buffer are sent, and what follows them is carried over. -/
theorem forward_line (h : Batching size metadata data r s) {buffer : Bytes}
    (phase : r.phase = .filled buffer .line) :
    Forward size metadata data r s (r.advance true s) := by
  obtain ⟨member, long⟩ : newline ∈ buffer ∧ LongForItsLine size buffer := by
    have consistent := h.phase
    rw [phase] at consistent
    exact consistent
  obtain ⟨front, back, hbuffer, clean, hdivide⟩ := divide_line member
  rw [hbuffer, List.append_cons] at long
  rw [advance_eq_proceed (by rw [wanted?, phase]), proceed_filled phase hdivide (by simp)]
  constructor
  · refine h.sent (by rw [phase]; rfl) (by simp) (long.of_append (by simp)) ?_ clean
      (fun _ => by simp)
    rw [phase, hbuffer, List.append_cons]
    rfl
  · rw [effort, effort, phase]
    exact Nat.lt_succ_self _

/-- At the end of the stream all that is left is sent, if there is any. -/
theorem forward_endOfStream (h : Batching size metadata data r s) {buffer : Bytes}
    (phase : r.phase = .filled buffer .endOfStream) :
    Forward size metadata data r s (r.advance true s) := by
  have unfinished : r.phase.isFinished = false := by rw [phase]; rfl
  obtain ⟨clean, ended⟩ : newline ∉ buffer ∧ s.content = [] := by
    have consistent := h.phase
    rw [phase] at consistent
    exact consistent
  rw [advance_eq_proceed (by rw [wanted?, phase])]
  by_cases used : buffer = []
  · have hdivide : divide buffer .endOfStream = ([], []) := by
      rw [used]
      rfl
    rw [proceed_empty phase hdivide]
    constructor
    · refine h.unsent unfinished ⟨rfl, rfl, rfl, rfl⟩ h.flawless ?_ ⟨rfl, ended⟩
      rw [phase, used]
      rfl
    · rw [effort, effort, phase]
      exact Nat.lt_succ_self _
  · rw [proceed_filled phase rfl used]
    constructor
    · refine h.sent unfinished used (longForItsLine_of_not_mem clean) ?_ ⟨rfl, ended⟩
        (fun running => by cases running)
      rw [phase]
      exact (List.append_nil buffer).symm
    · rw [effort, effort, phase]
      exact Nat.lt_succ_self _

/-- Every step of a run that has not come to its end is a step forward. -/
theorem forward (positive : 0 < size) (h : Batching size metadata data r s)
    (unfinished : r.phase.isFinished = false) :
    Forward size metadata data r s (r.advance true s) := by
  cases phase : r.phase with
  | between carry => exact h.forward_between phase
  | reading buffer => exact h.forward_reading positive phase
  | filled buffer ending =>
      cases ending with
      | line => exact h.forward_line phase
      | endOfStream => exact h.forward_endOfStream phase
      | failure e =>
          have consistent := h.phase
          rw [phase] at consistent
          exact consistent.elim
  | finished result =>
      rw [phase] at unfinished
      cases unfinished

end Batching

theorem isSome_result? : r.result?.isSome = r.phase.isFinished := by
  cases phase : r.phase <;> simp only [result?, phase, Phase.isFinished, Option.isSome]

section Steps

variable {σ : Type} [Readable σ] {isOpen : Bool} {s : σ}

/-- A run that has not come to its end goes on with its next step. -/
theorem steps_succ (unfinished : r.phase.isFinished = false) (n : Nat) :
    steps isOpen none (n + 1) r s =
      steps isOpen none n (r.advance isOpen s).1 (r.advance isOpen s).2 := by
  simp only [steps, isSome_result?, unfinished, reduceCtorEq, if_false]

theorem steps_of_finished (finished : r.phase.isFinished = true) (n : Nat) :
    steps isOpen none n r s = (r, s) := by
  cases n with
  | zero => rfl
  | succ n => simp only [steps, isSome_result?, finished, if_true]

end Steps

/-- What every step before the end keeps, all steps keep. Where each of them leaves fewer steps to
do, as many steps as there are to do finish the run. -/
theorem steps_keep {isOpen : Bool} {P : Run → ByteStream → Prop}
    (next : ∀ {r s}, P r s → r.phase.isFinished = false →
      P (r.advance isOpen s).1 (r.advance isOpen s).2 ∧
        effort (r.advance isOpen s).1 (r.advance isOpen s).2 < effort r s)
    (h : P r s) (n : Nat) :
    P (steps isOpen none n r s).1 (steps isOpen none n r s).2 ∧
      (effort r s ≤ n → (steps isOpen none n r s).1.phase.isFinished = true) := by
  induction n generalizing r s with
  | zero =>
      refine ⟨h, ?_⟩
      intro enough
      rw [effort] at enough
      have idle : r.phase.effort = 0 := by omega
      exact Phase.isFinished_of_effort idle
  | succ n ih =>
      cases unfinished : r.phase.isFinished with
      | false =>
          obtain ⟨kept, fewer⟩ := next h unfinished
          rw [steps_succ unfinished]
          refine ⟨(ih kept).1, fun enough => (ih kept).2 ?_⟩
          exact Nat.le_of_lt_succ (Nat.lt_of_lt_of_le fewer enough)
      | true =>
          rw [steps_of_finished unfinished]
          exact ⟨h, fun _ => unfinished⟩

namespace Batching

theorem steps (positive : 0 < size) (h : Batching size metadata data r s) (n : Nat) :
    Batching size metadata data (steps true none n r s).1 (steps true none n r s).2 :=
  (steps_keep (fun known => known.forward positive) h n).1

theorem steps_finish (positive : 0 < size) (h : Batching size metadata data r s) {n : Nat}
    (enough : effort r s ≤ n) : (Run.steps true none n r s).1.phase.isFinished = true :=
  (steps_keep (fun known => known.forward positive) h n).2 enough

/-- A read is for at least one byte, and gives none only at the end of the stream. -/
theorem of_wanted (positive : 0 < size) (h : Batching size metadata data r s) {wanted : Nat}
    (asked : r.wanted? = some wanted) :
    0 < wanted ∧ ((s.read wanted).1 = .bytes [] → s.content = []) := by
  have asks := wanted_pos (h.batchBytes.symm ▸ positive) asked
  refine ⟨asks, ?_⟩
  intro nothing
  have read := (ByteStream.read_spec asks h.flawless).1
  rw [nothing] at read
  exact read.content_of_nil

/-- A run that has come to its end has sent all there was. -/
theorem of_finished (h : Batching size metadata data r s)
    (finished : r.phase.isFinished = true) :
    r.result? = some (.ok ()) ∧ r.sent.flatMap (·.data) = data ∧
      ∀ b ∈ r.sent.dropLast, b.data.getLast? = some newline := by
  have consistent := h.phase
  have content := h.content
  have whole := h.whole
  rw [settled_of_finished finished] at whole
  cases phase : r.phase with
  | finished result =>
      rw [phase] at consistent content
      obtain ⟨rfl, ended⟩ := consistent
      rw [ended, Phase.pending, List.append_nil, List.append_nil] at content
      exact ⟨by rw [result?, phase], content, whole⟩
  | between _ | reading _ | filled _ _ =>
      rw [phase] at finished
      cases finished

end Batching

theorem start_batching (batchBytes poolSize : Nat) (context : String) (metadata : Option Metadata)
    {stream : ByteStream} (flawless : stream.Flawless) :
    Batching (max batchBytes 1) metadata stream.content
      { reader := Reader.new batchBytes poolSize, context, metadata } stream where
  batchBytes := rfl
  running := rfl
  labelled := rfl
  flawless := flawless
  content := rfl
  phase := List.not_mem_nil
  batches := by
    intro b member
    cases member
  whole := by
    intro b member
    cases member
  counts := ⟨rfl, rfl⟩

end Run

/-- A new reader that is not stopped comes to the end of a stream that does not fail. -/
theorem run_batching (batchBytes poolSize : Nat) (context : String) (metadata : Option Metadata)
    {stream : ByteStream} (flawless : stream.Flawless) :
    let done := (Reader.new batchBytes poolSize).run context metadata stream
    Run.Batching (max batchBytes 1) metadata stream.content done.1 done.2 ∧
      done.1.phase.isFinished = true := by
  have positive : 0 < max batchBytes 1 := Nat.lt_of_lt_of_le Nat.one_pos (Nat.le_max_right _ _)
  have start := Run.start_batching batchBytes poolSize context metadata flawless
  refine ⟨start.steps positive (3 * stream.weight + 6), start.steps_finish positive ?_⟩
  simp only [Run.effort, Phase.effort]
  omega

/-- Batching leaves no trace in what is read. Whatever the chunks of a stream that does not fail,
and wherever reads are interrupted, a reader that is not stopped sends the bytes of the stream and
nothing else, in batches that are not empty. Every batch but the last ends with a newline, and a
batch is longer than asked for only for the sake of its first line. No read is for no bytes, so a
read that gives none has met the end of the stream. The counts are those of the batches, and the
lines of the batches are those of the whole stream. -/
theorem batches_of_stream (batchBytes poolSize : Nat) (context : String)
    (metadata : Option Metadata) (stream : ByteStream) (flawless : stream.Flawless) :
    let reader := Reader.new batchBytes poolSize
    let done := (reader.run context metadata stream).1
    done.result? = some (.ok ()) ∧
      done.sent.flatMap (·.data) = stream.content ∧
      (∀ b ∈ done.sent, b.data ≠ [] ∧ b.metadata = metadata ∧
        LongForItsLine (max batchBytes 1) b.data) ∧
      (∀ b ∈ done.sent.dropLast, b.data.getLast? = some newline) ∧
      (∀ n r rest wanted, Run.steps true none n { reader, context, metadata } stream = (r, rest) →
        r.wanted? = some wanted →
          0 < wanted ∧ ((rest.read wanted).1 = .bytes [] → rest.content = [])) ∧
      done.reader.counts.batches = done.sent.length ∧
      done.reader.counts.bytes = (done.sent.flatMap (·.data)).length ∧
      done.sent.flatMap Batch.lines = lines stream.content := by
  intro reader done
  have positive : 0 < max batchBytes 1 := Nat.lt_of_lt_of_le Nat.one_pos (Nat.le_max_right _ _)
  have start := Run.start_batching batchBytes poolSize context metadata flawless
  obtain ⟨atEnd, finished⟩ := run_batching batchBytes poolSize context metadata flawless
  obtain ⟨accepted, content, whole⟩ := atEnd.of_finished finished
  refine ⟨accepted, content, atEnd.batches, whole, ?_, atEnd.counts.1, atEnd.counts.2, ?_⟩
  · intro n r rest wanted reached asked
    have known := start.steps positive n
    rw [reached] at known
    exact known.of_wanted positive asked
  · rw [← content]
    exact flatMap_lines whole

/-- A stream in which a newline stands at the end of a chunk, a line is longer than four bytes and
interrupted, and the last line has no end. -/
def choppyStream : ByteStream :=
  [.chunk [97, 98, newline], .interrupted, .chunk [99, 100, 101], .chunk [], .interrupted,
    .chunk [102, 103, newline, 104, 105], .chunk [106]]

/-- The long line becomes a long batch, the line without an end is the last batch, and the lines of
the batches are those of the stream. -/
theorem choppy_batches_of_stream :
    choppyStream.Flawless ∧
      ((Reader.new 4 1).run "stdin" none choppyStream).1.sent.map (·.data) =
        [[97, 98, newline], [99, 100, 101, 102, 103, newline], [104, 105, 106]] ∧
      ((Reader.new 4 1).run "stdin" none choppyStream).1.result? = some (.ok ()) ∧
      ((Reader.new 4 1).run "stdin" none choppyStream).1.sent.flatMap Batch.lines =
        [[97, 98], [99, 100, 101, 102, 103], [104, 105, 106]] := by
  have flawless : choppyStream.Flawless := by
    intro cause member
    simp [choppyStream] at member
  obtain ⟨accepted, _, _, _, _, _, _, each⟩ :=
    batches_of_stream 4 1 "stdin" none choppyStream flawless
  have whole : lines choppyStream.content =
      [[97, 98], [99, 100, 101, 102, 103], [104, 105, 106]] := by decide +kernel
  exact ⟨flawless, by decide +kernel, accepted, each.trans whole⟩

end Reader

end RecordPipeline
