import Mathlib.Algebra.Order.BigOperators.Group.List
import RecordPipeline.Proofs.Source.Batching

/-!
A source that holds its data and sends it several times. Each time the data is cut in the same
places: behind the last newline that still fits into a batch or, where none does, behind the first
line. So no batch is empty, a long batch is one line, and the lines are those of the data, as a
reader finds them in the same bytes.
-/

namespace RecordPipeline

/-- One line with or without its end, and nothing else. -/
def IsOneLine (bs : Bytes) : Prop :=
  ∃ line, newline ∉ line ∧ (bs = line ++ [newline] ∨ bs = line ∧ line ≠ [])

/-- What is taken from a list that is repeated is repeated itself. -/
theorem flatMap_replicate {α β : Type} (f : α → List β) (n : Nat) (once : List α) :
    (List.replicate n once).flatten.flatMap f = (List.replicate n (once.flatMap f)).flatten := by
  induction n with
  | zero => rfl
  | succ n ih =>
      rw [List.replicate_succ, List.replicate_succ, List.flatten_cons, List.flatten_cons,
        List.flatMap_append, ih]

theorem SourceCounts.foldl_addBatch (c : SourceCounts) (sent : List Batch) :
    (sent.foldl (fun c b => c.addBatch b.data.length) c).batches = c.batches + sent.length ∧
      (sent.foldl (fun c b => c.addBatch b.data.length) c).bytes =
        c.bytes + (sent.flatMap (·.data)).length := by
  induction sent generalizing c with
  | nil => exact ⟨rfl, rfl⟩
  | cons b rest ih =>
      obtain ⟨batches, bytes⟩ := ih (c.addBatch b.data.length)
      rw [List.foldl_cons, batches, bytes, List.length_cons, List.flatMap_cons, List.length_append]
      exact ⟨Nat.add_right_comm _ 1 _, Nat.add_assoc ..⟩

namespace MemorySource

/-- A batch that is longer than asked for is one line. -/
theorem length_le_or_isOneLine (size : Nat) {data : Bytes} (used : data ≠ []) :
    (data.take (batchLength size data)).length ≤ size ∨
      IsOneLine (data.take (batchLength size data)) := by
  rcases take_batchLength size data with ⟨fits | clean, batch⟩ | ⟨front, back, _, batch, last⟩
  · rw [batch]
    exact .inl fits
  · rw [batch]
    exact .inr ⟨data, clean, .inr ⟨rfl, used⟩⟩
  · rw [batch]
    rcases last with fits | clean
    · left
      rw [List.length_append, List.length_singleton]
      exact fits
    · exact .inr ⟨front, clean, .inl rfl⟩

theorem mem_cut {size : Nat} {data piece : Bytes} (member : piece ∈ cut size data) :
    piece ≠ [] ∧ (piece.length ≤ size ∨ IsOneLine piece) := by
  induction data using cut.induct size with
  | case1 =>
      rw [cut, dif_pos rfl] at member
      cases member
  | case2 data used positive _ ih =>
      rw [cut_of_ne_nil size used] at member
      rcases List.mem_cons.mp member with rfl | later
      · refine ⟨?_, length_le_or_isOneLine size used⟩
        rw [ne_eq, List.take_eq_nil_iff, not_or]
        exact ⟨Nat.ne_of_gt positive, used⟩
      · exact ih later

/-- Every batch takes up bytes of its own. -/
theorem length_cut_le (size : Nat) (data : Bytes) : (cut size data).length ≤ data.length := by
  have positive : ∀ n ∈ (cut size data).map List.length, 1 ≤ n := by
    intro n member
    obtain ⟨piece, inside, rfl⟩ := List.mem_map.mp member
    exact List.length_pos_iff.mpr (mem_cut inside).1
  calc (cut size data).length
      = ((cut size data).map List.length).length := (List.length_map _).symm
    _ ≤ ((cut size data).map List.length).sum := List.length_le_sum_of_one_le _ positive
    _ = data.length := by rw [← List.length_flatten, (cut_spec size data).1]

/-- A source that is not stopped and whose batches are received sends its data the asked number of
times, each time in the same batches. None of them is empty, so there are no more of them than
bytes; each is as long as asked for at most or is one line, and all but the last end with a newline.
The source counts the batches and their bytes. Their lines are those of the data, as often as it is
sent; sent once, these are the lines of what any reader sends of the same bytes, whatever the length
of its batches and the chunks in which the bytes come. -/
theorem sends_repeatedly (s : MemorySource) :
    let done := s.run false true
    (∃ once : List Batch,
      done.1 = (List.replicate s.times once).flatten ∧
      once.length ≤ s.data.length ∧
      once.flatMap (·.data) = s.data ∧
      (∀ b ∈ once, b.data ≠ [] ∧ b.metadata = s.metadata ∧
        (b.data.length ≤ max s.batchBytes 1 ∨ IsOneLine b.data)) ∧
      ∀ b ∈ once.dropLast, b.data.getLast? = some newline) ∧
    done.1.flatMap (·.data) = (List.replicate s.times s.data).flatten ∧
    done.2.counts.batches = s.counts.batches + done.1.length ∧
    done.2.counts.bytes = s.counts.bytes + (done.1.flatMap (·.data)).length ∧
    done.1.flatMap Batch.lines = (List.replicate s.times (lines s.data)).flatten ∧
    (s.times = 1 →
      ∀ (batchBytes poolSize : Nat) (context : String) (metadata : Option Metadata)
        (stream : ByteStream), stream.Flawless → stream.content = s.data →
        let read := ((Reader.new batchBytes poolSize).run context metadata stream).1
        read.result? = some (.ok ()) ∧
          read.sent.flatMap Batch.lines = done.1.flatMap Batch.lines) := by
  intro done
  have sent : done.1 = (List.replicate s.times s.once).flatten := s.batches_eq
  have linesSent : done.1.flatMap Batch.lines =
      (List.replicate s.times (lines s.data)).flatten := by
    rw [sent, flatMap_replicate, lines_once]
  obtain ⟨batches, bytes⟩ := s.counts.foldl_addBatch done.1
  refine ⟨⟨s.once, sent, ?_, s.data_once, ?_, s.whole_once⟩, ?_, batches, bytes, linesSent, ?_⟩
  · rw [once, List.length_map]
    exact length_cut_le _ _
  · intro b member
    obtain ⟨piece, inside, rfl⟩ := List.mem_map.mp member
    obtain ⟨used, length⟩ := mem_cut inside
    exact ⟨used, rfl, length⟩
  · rw [sent, flatMap_replicate, data_once]
  · intro one batchBytes poolSize context metadata stream flawless content read
    obtain ⟨atEnd, finished⟩ := Reader.run_batching batchBytes poolSize context metadata flawless
    obtain ⟨accepted, all, whole⟩ := atEnd.of_finished finished
    refine ⟨accepted, ?_⟩
    rw [linesSent, one, List.replicate_one, List.flatten_singleton, ← content, ← all]
    exact flatMap_lines whole

/-- The lines `a`, `b`, `long line` and `c`, the last of which has no end. -/
def unevenData : Bytes :=
  [97, newline, 98, newline, 108, 111, 110, 103, 32, 108, 105, 110, 101, newline, 99]

/-- Two lines that fit into one batch, a line that is longer than asked for, and the last one. A
reader with other batches finds the same lines in chunks that end within them. -/
theorem uneven_data_sent :
    let s : MemorySource := { data := unevenData, batchBytes := 4 }
    let stream : ByteStream :=
      [.chunk (unevenData.take 3), .interrupted, .chunk (unevenData.drop 3)]
    s.times = 1 ∧ stream.Flawless ∧ stream.content = s.data ∧
      (s.run false true).1.map (·.data.length) = [4, 10, 1] ∧
      (s.run false true).2.counts.batches = (s.run false true).1.length ∧
      (s.run false true).2.counts.bytes = 15 ∧
      (((Reader.new 6 1).run "stdin" none stream).1.sent.flatMap Batch.lines =
        (s.run false true).1.flatMap Batch.lines) := by
  intro s stream
  have flawless : stream.Flawless := by
    intro cause member
    simp [stream] at member
  obtain ⟨_, content, batches, bytes, _, read⟩ := s.sends_repeatedly
  refine ⟨rfl, flawless, by decide, by decide +kernel, batches.trans (Nat.zero_add _), ?_,
    (read rfl 6 1 "stdin" none stream flawless (by decide)).2⟩
  rw [bytes, content]
  rfl

end MemorySource

end RecordPipeline
