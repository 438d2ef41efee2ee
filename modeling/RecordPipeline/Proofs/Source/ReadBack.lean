import RecordPipeline.Proofs.Record.RoundTrip
import RecordPipeline.Proofs.Source.Batching
import RecordPipeline.Sink.LineFormat
import RecordPipeline.Source.Input

/-!
Output that is input again. Records that are written as raw lines are there again, field by field,
when a source cuts the bytes into batches, the batches are split into lines and the lines are
parsed.
-/

namespace RecordPipeline

/-- The bytes that are written for some records. -/
def LineFormat.written (f : LineFormat) (p : Projection) (records : List Record) : Bytes :=
  records.flatMap fun r => f.line (p.project r)

/-- In the raw format the line of a record is its text. -/
theorem LineFormat.written_raw {f : LineFormat} {p : Projection} (raw : f.mode = .raw)
    (whole : p.mode.needsRaw = true) (records : List Record) :
    f.written p records = (records.map Record.text).flatMap (· ++ [newline]) := by
  rw [List.flatMap_map, written]
  congr 1
  funext r
  simp only [line, raw, Projection.project, whole, if_true, Option.getD_some]

/-- What a new reader sends of an input that does not fail are the lines of the input. -/
theorem ReaderSource.lines_run {s : ReaderSource} {files : FileSystem} {stdin : Bytes}
    {stream : ByteStream} {context : String} {metadata : Option Metadata}
    {batchBytes poolSize : Nat} (fresh : s.reader = Reader.new batchBytes poolSize)
    (opened : s.opened files stdin = .ok (stream, context, metadata))
    (flawless : stream.Flawless) :
    (s.run files stdin).2.1 = .ok () ∧
      (s.run files stdin).1.flatMap Batch.lines = lines stream.content := by
  obtain ⟨atEnd, finished⟩ := Reader.run_batching batchBytes poolSize context metadata flawless
  obtain ⟨accepted, content, whole⟩ := atEnd.of_finished finished
  rw [run, opened]
  dsimp only
  rw [fresh]
  refine ⟨by rw [accepted, Option.getD_some], ?_⟩
  rw [← content]
  exact flatMap_lines whole

namespace Record

/-- A record of a layout whose line can be read back. -/
structure Readable (l : Layout) (r : Record) : Prop where
  made : ∃ calls, reached l calls = r
  clean : ∀ index, newline ∉ r.get index ∧ l.separator ∉ r.get index
  used : r.text ≠ []
  noReturn : r.text.getLast? ≠ some carriageReturn

/-- Every record of the layout, whatever calls were made on it, accepts the line and then has the
fields of this record. -/
def ReadsAs (l : Layout) (r : Record) (line : Bytes) : Prop :=
  ∀ (others : List RecordCall) (metadata : Option Metadata),
    ((reached l others).parse line metadata).2 = .ok () ∧
      ∀ index, ((reached l others).parse line metadata).1.get index = r.get index

variable {l : Layout} {r : Record}

/-- A line of fields without newlines has none either. -/
theorem Readable.newline_not_mem (h : r.Readable l) : newline ∉ r.text := by
  obtain ⟨⟨calls, rfl⟩, clean, _, _⟩ := h
  rw [text_eq_join (reached_overlayConsistent l calls) (reached_endsConsistent l calls),
    reached_layout]
  apply Bytes.not_mem_joinWith l.separator_ne.1.symm
  intro field member
  obtain ⟨index, _, rfl⟩ := List.mem_map.mp member
  exact (clean index).1

theorem Readable.readsAs (h : r.Readable l) : r.ReadsAs l r.text := by
  obtain ⟨⟨calls, rfl⟩, clean, used, _⟩ := h
  intro others metadata
  have overlay := reached_overlayConsistent l calls
  have ends := reached_endsConsistent l calls
  -- A value that was set is what its field reads as, so it is as clean as the field.
  have values : ∀ entry ∈ (reached l calls).values,
      (reached l calls).layout.separator ∉ entry.2 := by
    rintro ⟨index, value⟩ member
    rw [reached_layout, ← get_of_mem_values overlay member]
    exact (clean index).2
  have same : (reached l others).layout = (reached l calls).layout := by
    rw [reached_layout, reached_layout]
  refine ⟨?_, ?_⟩
  · rw [parse_text_eq overlay ends values used same]
  · exact get_parse_text overlay ends values used (reached_overlayConsistent l others)
      (reached_endsConsistent l others) same

/-- The lines of what was written are read as the records that were written, one for each of them
and in their order. -/
theorem readsAs_lines {f : LineFormat} {p : Projection} {records : List Record}
    (raw : f.mode = .raw) (whole : p.mode.needsRaw = true)
    (readable : ∀ r ∈ records, r.Readable l) :
    List.Forall₂ (ReadsAs l) records (lines (f.written p records)) := by
  have plain : ∀ line ∈ records.map Record.text,
      newline ∉ line ∧ line.getLast? ≠ some carriageReturn := by
    intro line member
    obtain ⟨r, inside, rfl⟩ := List.mem_map.mp member
    exact ⟨(readable r inside).newline_not_mem, (readable r inside).noReturn⟩
  rw [LineFormat.written_raw raw whole, lines_written plain, List.forall₂_map_right_iff,
    List.forall₂_same]
  exact fun r member => (readable r member).readsAs

/-- Whatever the length of its batches, a source that holds what was written in the raw format, or a
new reader of an input with these bytes in any chunks, sends batches whose lines are read as the
records that were written: no line is malformed, and each record is there once, in order and with
all its fields. -/
theorem read_back {f : LineFormat} {p : Projection} {records : List Record} (raw : f.mode = .raw)
    (whole : p.mode.needsRaw = true) (readable : ∀ r ∈ records, r.Readable l) :
    (∀ s : MemorySource, s.data = f.written p records → s.times = 1 →
      List.Forall₂ (ReadsAs l) records ((s.run false true).1.flatMap Batch.lines)) ∧
    ∀ (s : ReaderSource) (files : FileSystem) (stdin : Bytes) (batchBytes poolSize : Nat)
      (stream : ByteStream) (context : String) (metadata : Option Metadata),
      s.reader = Reader.new batchBytes poolSize →
      s.opened files stdin = .ok (stream, context, metadata) →
      stream.Flawless → stream.content = f.written p records →
      (s.run files stdin).2.1 = .ok () ∧
        List.Forall₂ (ReadsAs l) records ((s.run files stdin).1.flatMap Batch.lines) := by
  have reads := readsAs_lines raw whole readable
  constructor
  · intro s holds once
    rw [MemorySource.lines_run once, holds]
    exact reads
  · intro s files stdin batchBytes poolSize stream context metadata fresh opened flawless content
    obtain ⟨accepted, sent⟩ := ReaderSource.lines_run fresh opened flawless
    rw [sent, content]
    exact ⟨accepted, reads⟩

/-- One record whose line was extended and begins with an empty field, and one with an empty field
at the end of its line. -/
def gappedRecords : List Record :=
  [reached fourFields extendedCalls, reached fourFields [.parse [97, 44] none]]

/-- The lines `,b,,x` and `a,` in chunks that end within them. -/
def gappedStream : ByteStream :=
  [.chunk [44, 98, 44], .interrupted, .chunk [44, 120, newline, 97], .chunk [44, newline]]

theorem gapped_records_read_back :
    (∀ r ∈ gappedRecords, r.Readable fourFields) ∧
      LineFormat.written {} ⟨[], .raw⟩ gappedRecords = gappedStream.content ∧
      List.Forall₂ (ReadsAs fourFields) gappedRecords
        ((MemorySource.run { data := gappedStream.content, batchBytes := 4 } false true).1.flatMap
          Batch.lines) ∧
      let source : ReaderSource := { input := .stream gappedStream, reader := Reader.new 3 1 }
      (source.run {} []).2.1 = .ok () ∧
        List.Forall₂ (ReadsAs fourFields) gappedRecords
          ((source.run {} []).1.flatMap Batch.lines) := by
  have readable : ∀ r ∈ gappedRecords, r.Readable fourFields := by
    have clean : ∀ calls : List RecordCall, (reached fourFields calls).width ≤ 4 →
        (∀ index < 4, newline ∉ (reached fourFields calls).get index ∧
          fourFields.separator ∉ (reached fourFields calls).get index) →
        ∀ index, newline ∉ (reached fourFields calls).get index ∧
          fourFields.separator ∉ (reached fourFields calls).get index := by
      intro calls narrow inside index
      by_cases written : index < 4
      · exact inside index written
      · have beyond := Nat.le_trans narrow (Nat.le_of_not_lt written)
        rw [get_of_width_le (reached_overlayConsistent fourFields calls) beyond]
        exact ⟨List.not_mem_nil, List.not_mem_nil⟩
    refine List.forall_mem_cons.mpr ⟨?_, List.forall_mem_singleton.mpr ?_⟩
    · exact ⟨⟨_, rfl⟩, clean _ (by decide) (by decide), by decide, by decide⟩
    · exact ⟨⟨_, rfl⟩, clean _ (by decide) (by decide), by decide, by decide⟩
  have flawless : gappedStream.Flawless := by
    intro cause member
    simp [gappedStream] at member
  have written : LineFormat.written {} ⟨[], .raw⟩ gappedRecords = gappedStream.content := by decide
  obtain ⟨held, read⟩ := read_back (f := {}) (p := ⟨[], .raw⟩) rfl rfl readable
  exact ⟨readable, written, held _ written.symm rfl,
    read _ {} [] 3 1 gappedStream "reader" none rfl rfl flawless written.symm⟩

end Record

end RecordPipeline
