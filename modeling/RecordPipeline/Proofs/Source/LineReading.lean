import Mathlib.Data.List.Forall2
import Mathlib.Data.List.Induction
import RecordPipeline.Proofs.Source.Lines

/-!
Lines that are read one after the other. Data begins with a line and a newline, or it is one line
without an end, or empty; the reader moves its position on behind that line, so it comes to the end
of the data, and the lines that it has given by then are all lines of the data.
-/

namespace RecordPipeline

/-- What holds of no data, of a line without an end, and of a line in front of data of which it
holds, holds of all data. -/
@[elab_as_elim]
theorem lineInduction {P : Bytes → Prop} (nil : P [])
    (last : ∀ {line}, line ≠ [] → newline ∉ line → P line)
    (next : ∀ {line rest}, newline ∉ line → P rest → P (line ++ newline :: rest))
    (data : Bytes) : P data := by
  by_cases member : newline ∈ data
  · obtain ⟨line, rest, split, clean⟩ := List.eq_append_cons_of_mem member
    have shorter : rest.length < data.length := by
      rw [split, List.length_append, List.length_cons]
      omega
    rw [split]
    exact next clean (lineInduction nil last next rest)
  · by_cases empty : data = []
    · rw [empty]
      exact nil
    · exact last empty member
termination_by data.length

section Lines

variable {line : Bytes}

/-- Data without a newline is one line, if it is not empty. -/
theorem lines_of_not_mem (used : line ≠ []) (clean : newline ∉ line) :
    lines line = [trimReturn line] := by
  have last : [line].getLast? ≠ some [] := by simpa using used
  rw [lines, lineSegments, Bytes.splitOn_of_not_mem clean, if_neg last]
  rfl

theorem lines_append_cons (clean : newline ∉ line) (rest : Bytes) :
    lines (line ++ newline :: rest) = trimReturn line :: lines rest := by
  rw [List.append_cons, lines_append List.getLast?_concat, lines, lineSegments_concat,
    Bytes.splitOn_of_not_mem clean]
  rfl

theorem trimReturn_subset (piece : Bytes) : trimReturn piece ⊆ piece := by
  rw [trimReturn]
  split
  · exact List.dropLast_subset piece
  · exact List.Subset.refl piece

/-- The line is the piece without the one carriage return at its end, if it has one there. -/
def WithoutReturn (piece line : Bytes) : Prop :=
  piece = line ++ [carriageReturn] ∨ piece = line ∧ piece.getLast? ≠ some carriageReturn

theorem withoutReturn_trimReturn (piece : Bytes) : WithoutReturn piece (trimReturn piece) := by
  rw [WithoutReturn, trimReturn]
  by_cases returns : piece.getLast? = some carriageReturn
  · obtain ⟨line, rfl⟩ := List.getLast?_eq_some_iff.mp returns
    rw [if_pos returns, List.dropLast_concat]
    exact .inl rfl
  · rw [if_neg returns]
    exact .inr ⟨rfl, returns⟩

theorem newline_not_mem_of_mem_lines (data : Bytes) : ∀ line ∈ lines data, newline ∉ line := by
  have trimmed : ∀ {piece}, newline ∉ piece → newline ∉ trimReturn piece :=
    fun clean found => clean (trimReturn_subset _ found)
  induction data using lineInduction with
  | nil => exact List.forall_mem_nil _
  | last used clean =>
      rw [lines_of_not_mem used clean]
      exact List.forall_mem_singleton.mpr (trimmed clean)
  | next clean ih =>
      rw [lines_append_cons clean]
      exact List.forall_mem_cons.mpr ⟨trimmed clean, ih⟩

/-- Every newline ends a line, and what stands behind the last one is a line if it is not empty. -/
theorem length_lines (data : Bytes) :
    (lines data).length =
      data.count newline + if data = [] ∨ data.getLast? = some newline then 0 else 1 := by
  induction data using lineInduction with
  | nil => rfl
  | @last line used clean =>
      have open' : line.getLast? ≠ some newline := fun ends => clean (List.mem_of_getLast? ends)
      rw [lines_of_not_mem used clean, List.count_eq_zero.mpr clean]
      simp [used, open']
  | @next line rest clean ih =>
      have ends : line ++ newline :: rest = [] ∨
          (line ++ newline :: rest).getLast? = some newline ↔
            rest = [] ∨ rest.getLast? = some newline := by
        cases rest with
        | nil => simp
        | cons b rest => simp [List.getLast?_append]
      rw [lines_append_cons clean, List.length_cons, ih, List.count_append,
        List.count_eq_zero.mpr clean, List.count_cons_self]
      simp only [ends]
      omega

end Lines

/-- The data is these pieces with a newline between every two of them. -/
structure Between (data : Bytes) (pieces : List Bytes) : Prop where
  used : pieces ≠ []
  clean : ∀ piece ∈ pieces, newline ∉ piece
  joined : Bytes.joinWith [newline] pieces = data

theorem between_iff {data : Bytes} {pieces : List Bytes} :
    Between data pieces ↔ pieces = Bytes.splitOn newline data := by
  constructor
  · intro between
    rw [← between.joined, Bytes.splitOn_joinWith between.used between.clean]
  · rintro rfl
    exact ⟨Bytes.splitOn_ne_nil newline data, fun _ => Bytes.not_mem_of_mem_splitOn,
      Bytes.joinWith_splitOn newline data⟩

namespace LineReader

/-- Read call by call, the reader gives these lines and then nothing more. -/
inductive Yields : LineReader → List Bytes → Prop where
  | done {r : LineReader} (atEnd : r.next? = none) : Yields r []
  | line {r next : LineReader} {line : Bytes} {rest : List Bytes}
      (read : r.next? = some (line, next)) (later : Yields next rest) : Yields r (line :: rest)

variable {front line : Bytes}

/-- There is only one thing that a reader gives. -/
theorem Yields.unique {r : LineReader} {ls ls' : List Bytes} (h : r.Yields ls)
    (h' : r.Yields ls') : ls = ls' := by
  induction h generalizing ls' with
  | done atEnd =>
      cases h' with
      | done _ => rfl
      | line read _ =>
          rw [atEnd] at read
          cases read
  | line read _ ih =>
      cases h' with
      | done atEnd =>
          rw [atEnd] at read
          cases read
      | line read' later =>
          rw [read] at read'
          cases read'
          rw [ih later]

theorem next?_atEnd (data : Bytes) : next? ⟨data, data.length⟩ = none := by
  rw [next?, List.drop_length]
  rfl

/-- A line that has no end is read to the end of the data. -/
theorem next?_last (front : Bytes) (used : line ≠ []) (clean : newline ∉ line) :
    next? ⟨front ++ line, front.length⟩ =
      some (trimReturn line, ⟨front ++ line, (front ++ line).length⟩) := by
  have nowhere : line.findIdx? (· = newline) = none := by
    rw [List.findIdx?_eq_none_iff]
    intro b inside
    rw [decide_eq_false_iff_not]
    intro same
    exact clean (same ▸ inside)
  simp only [next?, List.drop_left, if_neg used, nowhere, List.length_append]

/-- A line with an end is read up to its newline. -/
theorem next?_line (front : Bytes) (clean : newline ∉ line) (rest : Bytes) :
    next? ⟨front ++ (line ++ newline :: rest), front.length⟩ =
      some (trimReturn line,
        ⟨front ++ (line ++ newline :: rest), (front ++ line ++ [newline]).length⟩) := by
  have used : line ++ newline :: rest ≠ [] := by simp
  have here : (line ++ newline :: rest).findIdx? (· = newline) = some line.length := by
    rw [List.findIdx?_eq_some_iff_getElem]
    refine ⟨by simp, by simp, ?_⟩
    intro i before
    rw [List.getElem_append_left before]
    simp only [decide_eq_true_eq]
    intro same
    exact clean (same ▸ List.getElem_mem before)
  simp only [next?, List.drop_left, if_neg used, here, List.take_left, List.length_append,
    List.length_singleton, Nat.add_assoc]

/-- Wherever the reader is, it gives the lines of the data that it has in front of it. -/
theorem yields_lines (front data : Bytes) : Yields ⟨front ++ data, front.length⟩ (lines data) := by
  induction data using lineInduction generalizing front with
  | nil =>
      rw [List.append_nil]
      exact .done (next?_atEnd front)
  | last used clean =>
      rw [lines_of_not_mem used clean]
      exact .line (next?_last front used clean) (.done (next?_atEnd _))
  | @next line rest clean ih =>
      have whole : front ++ line ++ [newline] ++ rest = front ++ (line ++ newline :: rest) := by
        simp
      have behind := ih (front ++ line ++ [newline])
      rw [whole] at behind
      rw [lines_append_cons clean]
      exact .line (next?_line front clean rest) behind

end LineReader

/-- The last text needs no newline behind it, unless it is empty. -/
theorem lines_written_open {texts : List Bytes}
    (plain : ∀ text ∈ texts, newline ∉ text ∧ text.getLast? ≠ some carriageReturn)
    (ends : texts.getLast? ≠ some []) :
    lines (texts.flatMap (· ++ [newline])).dropLast = texts := by
  cases texts using List.reverseRecOn with
  | nil => rfl
  | append_singleton front last =>
      rw [List.getLast?_concat, ne_eq, Option.some.injEq] at ends
      obtain ⟨plainFront, plainLast⟩ := List.forall_mem_append.mp plain
      obtain ⟨clean, noReturn⟩ := plainLast last (List.mem_singleton_self last)
      have written : ((front ++ [last]).flatMap (· ++ [newline])).dropLast =
          front.flatMap (· ++ [newline]) ++ last := by
        rw [List.flatMap_append, List.flatMap_singleton, ← List.append_assoc, List.dropLast_concat]
      have single : lines last = [last] := by
        rw [lines_of_not_mem ends clean, trimReturn, if_neg noReturn]
      rw [written]
      cases front using List.reverseRecOn with
      | nil => exact single
      | append_singleton front text =>
          have whole : ((front ++ [text]).flatMap (· ++ [newline])).getLast? = some newline := by
            rw [List.flatMap_append, List.flatMap_singleton, ← List.append_assoc,
              List.getLast?_concat]
          rw [lines_append whole, lines_written plainFront, single]

/-- The lines of a batch, read from its start, come to an end and are the pieces between the
newlines of its data, in order and each without the one carriage return at its end; only an empty
piece behind the last newline is no line. So there is a line for each newline and one for what
stands behind the last of them, and no line has a newline. Data that is empty or ends with a newline
has its lines apart from the data behind it. Texts without newlines, none of which ends in a
carriage return, are the lines of what is written of them, with or without a newline behind the last
one. -/
theorem lines_exact :
    (∀ b : Batch,
      (LineReader.mk b.data 0).Yields b.lines ∧
      (∀ ls, (LineReader.mk b.data 0).Yields ls → ls = b.lines) ∧
      (∃ pieces, (∀ other, Between b.data other ↔ other = pieces) ∧
        List.Forall₂ WithoutReturn
          (if pieces.getLast? = some [] then pieces.dropLast else pieces) b.lines) ∧
      b.lines.length = b.data.count newline +
        (if b.data = [] ∨ b.data.getLast? = some newline then 0 else 1) ∧
      ∀ line ∈ b.lines, newline ∉ line) ∧
    (∀ front back : Bytes, front = [] ∨ front.getLast? = some newline →
      lines (front ++ back) = lines front ++ lines back) ∧
    ∀ texts : List Bytes,
      (∀ text ∈ texts, newline ∉ text ∧ text.getLast? ≠ some carriageReturn) →
      lines (texts.flatMap (· ++ [newline])) = texts ∧
      (texts.getLast? ≠ some [] → lines (texts.flatMap (· ++ [newline])).dropLast = texts) := by
  refine ⟨?_, ?_, fun texts plain => ⟨lines_written plain, lines_written_open plain⟩⟩
  · intro b
    have yields : (LineReader.mk b.data 0).Yields b.lines := LineReader.yields_lines [] b.data
    refine ⟨yields, fun ls other => other.unique yields,
      ⟨Bytes.splitOn newline b.data, fun _ => between_iff, ?_⟩, length_lines b.data,
      newline_not_mem_of_mem_lines b.data⟩
    have trimmed : ∀ pieces : List Bytes,
        List.Forall₂ WithoutReturn pieces (pieces.map trimReturn) := by
      intro pieces
      rw [List.forall₂_map_right_iff, List.forall₂_same]
      exact fun piece _ => withoutReturn_trimReturn piece
    exact trimmed (lineSegments b.data)
  · rintro front back (empty | ends)
    · rw [empty]
      rfl
    · exact lines_append ends back

/-- The data `a`, two carriage returns and a newline, an empty line, and `b` without an end. Its
lines are read in three calls, and are those of its two parts. -/
theorem returning_lines_exact :
    let front : Bytes := [97, carriageReturn, carriageReturn, newline, newline]
    let b : Batch := { data := front ++ [98] }
    b.lines = [[97, carriageReturn], [], [98]] ∧
      (LineReader.mk b.data 0).Yields [[97, carriageReturn], [], [98]] ∧
      b.lines = lines front ++ lines [98] ∧
      lines ([[97], [], [98]].flatMap (· ++ [newline])).dropLast = [[97], [], [98]] := by
  intro front b
  obtain ⟨each, apart, written⟩ := lines_exact
  have given : b.lines = [[97, carriageReturn], [], [98]] := by decide
  exact ⟨given, given ▸ (each b).1, apart front [98] (.inr (by decide)),
    (written [[97], [], [98]] (by decide)).2 (by decide)⟩

end RecordPipeline
