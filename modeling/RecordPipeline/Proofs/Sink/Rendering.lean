import RecordPipeline.Proofs.Source.Lines
import RecordPipeline.Sink.LineFormat

/-!
Lines that are taken apart again. What is written for an output is its line, and the number of bytes
is told. If no field has the delimiter, a line of fields is split into just these fields, and a line
of fields and raw text into the fields and all that stands behind them, whatever that is.
-/

namespace RecordPipeline

/-- What stands behind so many delimiters. -/
def Bytes.behind (d : UInt8) : Nat → Bytes → Bytes
  | 0, bs => bs
  | count + 1, bs => behind d count ((bs.dropWhile (· ≠ d)).drop 1)

namespace Bytes

variable {d : UInt8} {fields : List Bytes}

/-- Joined pieces with a separator behind them have one behind each. -/
theorem joinWith_append_sep (h : fields ≠ []) (sep : Bytes) :
    joinWith sep fields ++ sep = fields.flatMap (· ++ sep) := by
  induction fields with
  | nil => exact absurd rfl h
  | cons field rest ih =>
      by_cases last : rest = []
      · rw [last, joinWith, List.intercalate_singleton, List.flatMap_singleton]
      · rw [joinWith_cons_of_ne_nil last, List.append_assoc, ih last, List.flatMap_cons]

theorem joinWith_append_cons (sep front piece : Bytes) (rest : List Bytes) :
    joinWith sep ((front ++ piece) :: rest) = front ++ joinWith sep (piece :: rest) := by
  cases rest with
  | nil => simp only [joinWith, List.intercalate_singleton]
  | cons next rest =>
      have used : next :: rest ≠ [] := List.cons_ne_nil next rest
      simp only [joinWith_cons_of_ne_nil used, List.append_assoc]

theorem splitOn_fields (clean : ∀ field ∈ fields, d ∉ field) (rest : Bytes) :
    splitOn d (fields.flatMap (· ++ [d]) ++ rest) = fields ++ splitOn d rest := by
  induction fields with
  | nil => rfl
  | cons field later ih =>
      obtain ⟨first, others⟩ := List.forall_mem_cons.mp clean
      rw [List.flatMap_cons, List.append_assoc, List.append_assoc, List.singleton_append,
        splitOn_append_cons_self, splitOn_of_not_mem first, ih others]
      rfl

theorem behind_fields (clean : ∀ field ∈ fields, d ∉ field) (rest : Bytes) :
    behind d fields.length (fields.flatMap (· ++ [d]) ++ rest) = rest := by
  induction fields with
  | nil => rfl
  | cons field later ih =>
      obtain ⟨first, others⟩ := List.forall_mem_cons.mp clean
      have passed : ∀ b ∈ field, decide (b ≠ d) = true := by
        intro b member
        rw [decide_eq_true_eq]
        rintro rfl
        exact first member
      rw [List.flatMap_cons, List.append_assoc, List.append_assoc, List.length_cons, behind,
        List.dropWhile_append_of_pos passed, List.singleton_append,
        List.dropWhile_cons_of_neg (by simp)]
      exact ih others

end Bytes

namespace LineFormat

theorem put_put (out : Bytes × Nat) (front back : Bytes) :
    put (put out front) back = put out (front ++ back) := by
  rw [put, put, put, List.append_assoc, List.length_append, Nat.add_assoc]

theorem put_nil (out : Bytes × Nat) : put out [] = out := by
  rw [put, List.append_nil]
  rfl

/-- Fields are written with the delimiter between them. -/
theorem writeFields_eq (f : LineFormat) (out : Bytes × Nat) (fields : List Bytes) :
    f.writeFields out fields = put out (Bytes.joinWith f.delimiter fields) := by
  cases fields with
  | nil => exact (put_nil out).symm
  | cons field rest =>
      rw [writeFields]
      induction rest generalizing field with
      | nil =>
          rw [Bytes.joinWith, List.intercalate_singleton]
          rfl
      | cons next rest ih =>
          rw [List.foldl_cons, put_put, put_put, ih, Bytes.joinWith_append_cons,
            Bytes.joinWith_append_cons, Bytes.joinWith_cons_of_ne_nil (List.cons_ne_nil next rest),
            List.append_assoc]

/-- What is written is the line of the output, and what is told is its length. -/
theorem write_eq (f : LineFormat) (out : Bytes) (o : Output) :
    f.write out o = (out ++ f.line o, (f.line o).length) := by
  have all (bs : Bytes) : put (out, 0) bs = (out ++ bs, bs.length) := by
    rw [put, Nat.zero_add]
  rw [← all, write, line]
  simp only [writeFields_eq]
  cases f.mode with
  | fields | raw | both =>
      cases o.raw with
      | none | some raw => simp [OutputMode.needsFields, OutputMode.needsRaw, put_put]

end LineFormat

/-- The output has fields, and none of them has the delimiter or a newline in it. -/
structure Output.IsPlain (d : UInt8) (o : Output) : Prop where
  used : o.fields ≠ []
  clean : ∀ field ∈ o.fields, d ∉ field ∧ newline ∉ field

namespace LineFormat

variable {d : UInt8} {o : Output}

/-- A line of fields is split into the fields. -/
theorem split_fields (plain : o.IsPlain d) :
    Bytes.splitOn d (line ⟨.fields, [d]⟩ o).dropLast = o.fields := by
  rw [line, List.dropLast_concat]
  exact Bytes.splitOn_joinWith plain.used fun field member => (plain.clean field member).1

/-- A line of fields and raw text is each field with a delimiter behind it, and then the raw text.
-/
theorem dropLast_line_both (plain : o.IsPlain d) :
    (line ⟨.both, [d]⟩ o).dropLast = o.fields.flatMap (· ++ [d]) ++ o.raw.getD [] := by
  rw [line, List.dropLast_concat, Bytes.joinWith_append_sep plain.used]

/-- Lines of fields that are written one after the other are found again. -/
theorem segments_fields {outputs : List Output} (noLineEnd : d ≠ newline)
    (plain : ∀ o ∈ outputs, o.IsPlain d) :
    lineSegments (outputs.flatMap (line ⟨.fields, [d]⟩)) =
      outputs.map fun o => (line ⟨.fields, [d]⟩ o).dropLast := by
  induction outputs with
  | nil => rfl
  | cons o rest ih =>
      obtain ⟨first, others⟩ := List.forall_mem_cons.mp plain
      have whole : newline ∉ Bytes.joinWith [d] o.fields :=
        Bytes.not_mem_joinWith noLineEnd.symm fun field member => (first.clean field member).2
      have segment : lineSegments (line ⟨.fields, [d]⟩ o) = [(line ⟨.fields, [d]⟩ o).dropLast] := by
        rw [line, lineSegments_concat, List.dropLast_concat, Bytes.splitOn_of_not_mem whole]
      have ends : (line ⟨.fields, [d]⟩ o).getLast? = some newline := List.getLast?_concat
      rw [List.flatMap_cons, lineSegments_append ends, segment, ih others]
      rfl

/-- What is written for an output, in any format, is its line, which ends with a newline, and the
number of bytes that is told is its length. With a delimiter of one byte that no field has, a line
of fields is split into these fields again, empty ones included, and so are all lines that are
written one after the other; of a line of fields and raw text the first pieces are the fields, and
what stands behind as many delimiters is the raw text, whatever bytes it has. -/
theorem lines_taken_apart :
    (∀ (f : LineFormat) (out : Bytes) (o : Output), ∃ body, f.line o = body ++ [newline] ∧
      f.write out o = (out ++ (body ++ [newline]), body.length + 1)) ∧
    ∀ d : UInt8, d ≠ newline →
      (∀ o : Output, o.IsPlain d →
        Bytes.splitOn d (line ⟨.fields, [d]⟩ o).dropLast = o.fields ∧
        let body := (line ⟨.both, [d]⟩ o).dropLast
        (Bytes.splitOn d body).take o.fields.length = o.fields ∧
          Bytes.behind d o.fields.length body = o.raw.getD []) ∧
      ∀ outputs : List Output, (∀ o ∈ outputs, o.IsPlain d) →
        (lineSegments (outputs.flatMap (line ⟨.fields, [d]⟩))).map (Bytes.splitOn d) =
          outputs.map Output.fields := by
  refine ⟨?_, fun d noLineEnd => ⟨?_, ?_⟩⟩
  · intro f out o
    have ends : ∃ body, f.line o = body ++ [newline] := by
      rw [line]
      cases f.mode with
      | fields | raw | both => exact ⟨_, rfl⟩
    obtain ⟨body, whole⟩ := ends
    refine ⟨body, whole, ?_⟩
    rw [write_eq, whole, List.length_append]
    rfl
  · intro o plain
    have clean : ∀ field ∈ o.fields, d ∉ field := fun field member => (plain.clean field member).1
    refine ⟨split_fields plain, ?_, ?_⟩
    · rw [dropLast_line_both plain, Bytes.splitOn_fields clean, List.take_left]
    · rw [dropLast_line_both plain, Bytes.behind_fields clean]
  · intro outputs plain
    rw [segments_fields noLineEnd plain, List.map_map]
    exact List.map_congr_left fun o member => split_fields (plain o member)

/-- Empty fields in front, between and at the end, and a raw text with delimiters and a newline. -/
def gappedOutput : Output where
  fields := [[], [97], [], []]
  raw := some [44, 44, newline]

theorem gappedOutput_taken_apart :
    (44 : UInt8) ≠ newline ∧ gappedOutput.IsPlain 44 ∧
    line ⟨.both, [44]⟩ gappedOutput = [44, 97, 44, 44, 44, 44, 44, newline, newline] ∧
      Bytes.splitOn 44 (line ⟨.fields, [44]⟩ gappedOutput).dropLast = [[], [97], [], []] ∧
      Bytes.behind 44 4 (line ⟨.both, [44]⟩ gappedOutput).dropLast = [44, 44, newline] ∧
      (lineSegments ([gappedOutput, gappedOutput].flatMap (line ⟨.fields, [44]⟩))).map
        (Bytes.splitOn 44) = [[[], [97], [], []], [[], [97], [], []]] := by
  have noLineEnd : (44 : UInt8) ≠ newline := by decide
  have plain : gappedOutput.IsPlain 44 := ⟨by decide, by decide⟩
  obtain ⟨each, all⟩ := lines_taken_apart.2 44 noLineEnd
  obtain ⟨fields, _, raw⟩ := each gappedOutput plain
  exact ⟨noLineEnd, plain, rfl, fields, raw,
    all [gappedOutput, gappedOutput] (by simpa using plain)⟩

end LineFormat

end RecordPipeline
