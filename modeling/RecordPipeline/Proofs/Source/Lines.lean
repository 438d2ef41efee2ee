import RecordPipeline.Batch
import RecordPipeline.Proofs.Splitting
import RecordPipeline.Source.Memory

/-!
Cutting bytes where a line ends. The lines of two byte strings, the first of which ends with a
newline, are the lines of both, one after the other, so a source may cut its data behind any
newline.
-/

namespace RecordPipeline

/-- A final newline ends the last segment. -/
theorem lineSegments_concat (front : Bytes) :
    lineSegments (front ++ [newline]) = Bytes.splitOn newline front := by
  rw [lineSegments, Bytes.splitOn_append_cons_self, Bytes.splitOn_nil]
  simp

theorem lineSegments_append {front : Bytes} (whole : front.getLast? = some newline) (back : Bytes) :
    lineSegments (front ++ back) = lineSegments front ++ lineSegments back := by
  obtain ⟨start, rfl⟩ := List.getLast?_eq_some_iff.mp whole
  have hback : Bytes.splitOn newline back ≠ [] := Bytes.splitOn_ne_nil newline back
  have hlast : (Bytes.splitOn newline start ++ Bytes.splitOn newline back).getLast? =
      (Bytes.splitOn newline back).getLast? := by
    rw [List.getLast?_append, List.getLast?_eq_some_getLast hback]
    rfl
  rw [lineSegments_concat, List.append_assoc, List.singleton_append, lineSegments, lineSegments,
    Bytes.splitOn_append_cons_self, hlast]
  by_cases ends : (Bytes.splitOn newline back).getLast? = some []
  · simp only [if_pos ends]
    exact List.dropLast_append_of_ne_nil hback
  · simp only [if_neg ends]

theorem lines_append {front : Bytes} (whole : front.getLast? = some newline) (back : Bytes) :
    lines (front ++ back) = lines front ++ lines back := by
  rw [lines, lineSegments_append whole, List.map_append]
  rfl

/-- The lines of many byte strings are those of all of them together, when only the last may end
within a line. -/
theorem lines_flatten {pieces : List Bytes}
    (whole : ∀ piece ∈ pieces.dropLast, piece.getLast? = some newline) :
    lines pieces.flatten = pieces.flatMap lines := by
  induction pieces with
  | nil => rfl
  | cons piece rest ih =>
      cases rest with
      | nil => simp
      | cons next rest =>
          rw [List.dropLast_cons_cons] at whole
          have hfirst := whole piece List.mem_cons_self
          have hrest := ih fun other member => whole other (List.mem_cons_of_mem piece member)
          rw [List.flatten_cons, lines_append hfirst, hrest]
          rfl

theorem flatMap_lines {batches : List Batch}
    (whole : ∀ b ∈ batches.dropLast, b.data.getLast? = some newline) :
    batches.flatMap Batch.lines = lines (batches.flatMap (·.data)) := by
  have ends : ∀ piece ∈ (batches.map (·.data)).dropLast, piece.getLast? = some newline := by
    rw [← List.map_dropLast]
    exact List.forall_mem_map.mpr whole
  rw [List.flatMap_def (l := batches) (f := (·.data)), lines_flatten ends, List.flatMap_map]
  rfl

/-- Texts that are written as lines, each with a newline behind it, are these lines again, unless a
text has a newline or ends in a carriage return itself. -/
theorem lines_written {texts : List Bytes}
    (plain : ∀ text ∈ texts, newline ∉ text ∧ text.getLast? ≠ some carriageReturn) :
    lines (texts.flatMap (· ++ [newline])) = texts := by
  induction texts with
  | nil => rfl
  | cons text rest ih =>
      obtain ⟨⟨clean, noReturn⟩, later⟩ := List.forall_mem_cons.mp plain
      have first : lines (text ++ [newline]) = [text] := by
        rw [lines, lineSegments_concat, Bytes.splitOn_of_not_mem clean, List.map_singleton,
          trimReturn, if_neg noReturn]
      rw [List.flatMap_cons, lines_append List.getLast?_concat, first, ih later]
      rfl

theorem takeWhile_append_of_not_mem {front : Bytes} (clean : newline ∉ front) (back : Bytes) :
    (front ++ back).takeWhile (· ≠ newline) = front ++ back.takeWhile (· ≠ newline) := by
  apply List.takeWhile_append_of_pos
  intro b member
  rw [decide_eq_true_eq]
  intro same
  exact clean (same ▸ member)

theorem takeWhile_of_not_mem {bs : Bytes} (clean : newline ∉ bs) :
    bs.takeWhile (· ≠ newline) = bs := by
  have all := takeWhile_append_of_not_mem clean []
  rwa [List.append_nil, List.takeWhile_nil, List.append_nil] at all

/-- Bytes with a newline are whole lines and the start of a line. -/
theorem exists_wholeLines {bs : Bytes} (member : newline ∈ bs) :
    ∃ front back, bs = front ++ newline :: back ∧ newline ∉ back ∧
      wholeLines bs = front.length + 1 := by
  -- The last newline is the first one from behind.
  obtain ⟨back, front, hreverse, clean⟩ := List.eq_append_cons_of_mem (List.mem_reverse.mpr member)
  have hbs : bs = front.reverse ++ newline :: back.reverse := by
    rw [← List.reverse_reverse bs, hreverse]
    simp
  have hpass : ∀ b ∈ back, decide (b ≠ newline) = true := by
    intro b inside
    rw [decide_eq_true_eq]
    intro same
    exact clean (same ▸ inside)
  refine ⟨front.reverse, back.reverse, hbs, by simpa using clean, ?_⟩
  rw [wholeLines, hreverse, List.dropWhile_append_of_pos hpass, List.dropWhile_cons]
  simp

theorem wholeLines_of_not_mem {bs : Bytes} (clean : newline ∉ bs) : wholeLines bs = 0 := by
  have hpass : ∀ b ∈ bs.reverse, decide (b ≠ newline) = true := by
    intro b inside
    rw [decide_eq_true_eq]
    intro same
    exact clean (same ▸ List.mem_reverse.mp inside)
  have hall : (bs.reverse ++ []).dropWhile (· ≠ newline) = [] :=
    List.dropWhile_append_of_pos hpass
  rw [List.append_nil] at hall
  rw [wholeLines, hall]
  rfl

namespace MemorySource

/-- A batch is all of the data, where this fits or has no newline, or it ends with a newline. That
is one which fits, or else the first one. -/
theorem take_batchLength (size : Nat) (data : Bytes) :
    (data.length ≤ size ∨ newline ∉ data) ∧ data.take (batchLength size data) = data ∨
      ∃ front back, data = front ++ newline :: back ∧
        data.take (batchLength size data) = front ++ [newline] ∧
        (front.length < size ∨ newline ∉ front) := by
  have upTo : ∀ {front back : Bytes}, data = front ++ newline :: back →
      batchLength size data = front.length + 1 →
        data.take (batchLength size data) = front ++ [newline] := by
    intro front back split length
    rw [length, split, List.append_cons, List.take_left' (by simp)]
  by_cases short : data.length ≤ size
  · rw [batchLength, if_pos short, List.take_length]
    exact .inl ⟨.inl short, rfl⟩
  by_cases member : newline ∈ data.take size
  · right
    obtain ⟨front, back, window, _, whole⟩ := exists_wholeLines member
    have split : data = front ++ newline :: (back ++ data.drop size) := by
      rw [← List.cons_append, ← List.append_assoc, ← window, List.take_append_drop]
    have fits : front.length < size := by
      have within := congrArg List.length window
      rw [List.length_take, List.length_append, List.length_cons] at within
      omega
    exact ⟨front, _, split, upTo split (by rw [batchLength, if_neg short, whole]), .inl fits⟩
  · -- The batch goes on to the first newline behind the window, if there is one.
    have length : batchLength size data =
        (data.take size).length + ((data.drop size).takeWhile (· ≠ newline)).length + 1 := by
      rw [batchLength, if_neg short, wholeLines_of_not_mem member, List.length_take,
        Nat.min_eq_left (Nat.le_of_not_le short)]
    by_cases present : newline ∈ data.drop size
    · right
      obtain ⟨line, rest, hrest, clean⟩ := List.eq_append_cons_of_mem present
      have hline : (data.drop size).takeWhile (· ≠ newline) = line := by
        rw [hrest, takeWhile_append_of_not_mem clean]
        simp
      have split : data = data.take size ++ line ++ newline :: rest := by
        rw [List.append_assoc, ← hrest, List.take_append_drop]
      rw [hline, ← List.length_append] at length
      exact ⟨_, rest, split, upTo split length,
        .inr fun inside => (List.mem_append.mp inside).elim member clean⟩
    · left
      refine ⟨.inr fun inside => ?_, List.take_of_length_le ?_⟩
      · rw [← List.take_append_drop size data] at inside
        exact (List.mem_append.mp inside).elim member present
      · rw [length, takeWhile_of_not_mem present, ← List.length_append, List.take_append_drop]
        exact Nat.le_succ _

/-- A batch that is not all of the data ends behind a newline. -/
theorem getLast?_take_batchLength {size : Nat} {data : Bytes}
    (more : batchLength size data < data.length) :
    (data.take (batchLength size data)).getLast? = some newline := by
  rcases take_batchLength size data with ⟨_, all⟩ | ⟨front, back, _, batch, _⟩
  · have short := congrArg List.length all
    rw [List.length_take, Nat.min_eq_left (Nat.le_of_lt more)] at short
    omega
  · rw [batch]
    exact List.getLast?_concat

theorem cut_of_ne_nil (size : Nat) {data : Bytes} (used : data ≠ []) :
    cut size data = data.take (batchLength size data) ::
      cut size (data.drop (batchLength size data)) := by
  rw [cut, dif_neg used]

/-- The batches are the data, and only the last of them may end within a line. -/
theorem cut_spec (size : Nat) (data : Bytes) :
    (cut size data).flatten = data ∧
      ∀ piece ∈ (cut size data).dropLast, piece.getLast? = some newline := by
  induction data using cut.induct size with
  | case1 =>
      rw [cut, dif_pos rfl]
      exact ⟨rfl, List.forall_mem_nil _⟩
  | case2 data used _ _ ih =>
      obtain ⟨flatten, whole⟩ := ih
      rw [cut_of_ne_nil size used]
      refine ⟨by rw [List.flatten_cons, flatten, List.take_append_drop], ?_⟩
      by_cases last : data.drop (batchLength size data) = []
      · rw [last, cut, dif_pos rfl]
        exact List.forall_mem_nil _
      · have more : batchLength size data < data.length := by
          exact Nat.lt_of_not_le fun short => last (List.drop_eq_nil_iff.mpr short)
        rw [cut_of_ne_nil size last] at whole ⊢
        rw [List.dropLast_cons_cons]
        exact List.forall_mem_cons.mpr ⟨getLast?_take_batchLength more, whole⟩

/-- The batches of one time through the data. -/
def once (s : MemorySource) : List Batch :=
  (cut (max s.batchBytes 1) s.data).map fun data => { data, metadata := s.metadata }

theorem map_data_once (s : MemorySource) :
    s.once.map (·.data) = cut (max s.batchBytes 1) s.data := by
  rw [once, List.map_map]
  exact List.map_id _

theorem data_once (s : MemorySource) : s.once.flatMap (·.data) = s.data := by
  rw [List.flatMap_def, map_data_once, (cut_spec _ _).1]

/-- Only the last batch may end within a line. -/
theorem whole_once (s : MemorySource) : ∀ b ∈ s.once.dropLast, b.data.getLast? = some newline := by
  have whole := (cut_spec (max s.batchBytes 1) s.data).2
  rw [← map_data_once, ← List.map_dropLast] at whole
  exact List.forall_mem_map.mp whole

theorem lines_once (s : MemorySource) : s.once.flatMap Batch.lines = lines s.data := by
  rw [flatMap_lines s.whole_once, data_once]

/-- A source sends its batches the asked number of times, and nothing if it has no data. -/
theorem batches_eq (s : MemorySource) : s.batches = (List.replicate s.times s.once).flatten := by
  rw [batches]
  split
  · rename_i none
    have nothing : s.once = [] := List.isEmpty_iff.mp none
    rw [nothing, List.flatten_replicate_nil]
  · rfl

/-- What a source that holds its data sends in one go are the lines of the data. -/
theorem lines_run {s : MemorySource} (once : s.times = 1) :
    (s.run false true).1.flatMap Batch.lines = lines s.data := by
  have sent : (s.run false true).1 = s.batches := rfl
  rw [sent, batches_eq, once, List.replicate_one, List.flatten_singleton, lines_once]

end MemorySource

end RecordPipeline
