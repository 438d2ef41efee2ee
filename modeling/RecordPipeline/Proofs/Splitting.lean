import RecordPipeline.Bytes

/-!
Cutting bytes at a separator and joining the pieces again. One undoes the other: the pieces of any
bytes join to these bytes, and pieces without a separator are what their join is cut into.
-/

namespace RecordPipeline

namespace Bytes

/-- A byte that is no separator stands in front of the first piece. -/
theorem splitOn_cons_of_ne {sep b : UInt8} (h : b ≠ sep) (bs : Bytes) :
    ∃ piece rest, splitOn sep bs = piece :: rest ∧
      splitOn sep (b :: bs) = (b :: piece) :: rest := by
  obtain ⟨piece, rest, hp⟩ := List.exists_cons_of_ne_nil (splitOn_ne_nil sep bs)
  refine ⟨piece, rest, hp, ?_⟩
  have hfold : splitOn sep (b :: bs) =
      if b = sep then [] :: splitOn sep bs else consFirst b (splitOn sep bs) := rfl
  rw [hfold, if_neg h, hp]
  rfl

theorem splitOn_eq_listSplitOn (sep : UInt8) (bs : Bytes) :
    splitOn sep bs = List.splitOn sep bs := by
  induction bs with
  | nil => rfl
  | cons b bs ih =>
      rw [List.splitOn_cons_eq_if_modifyHead, ← ih]
      by_cases h : b = sep
      · subst h
        rw [splitOn_cons_self, if_pos (beq_self_eq_true b)]
      · obtain ⟨piece, rest, hp, hc⟩ := splitOn_cons_of_ne h bs
        rw [hc, hp, if_neg (by simpa using h)]
        rfl

theorem length_splitOn (sep : UInt8) (bs : Bytes) :
    (splitOn sep bs).length = bs.count sep + 1 := by
  induction bs with
  | nil => rfl
  | cons b bs ih =>
      by_cases h : b = sep
      · subst h
        rw [splitOn_cons_self, List.length_cons, ih, List.count_cons_self]
      · obtain ⟨piece, rest, hp, hc⟩ := splitOn_cons_of_ne h bs
        rw [hp] at ih
        rw [hc, List.count_cons_of_ne h]
        exact ih

/-- A separator between two byte strings cuts them apart. -/
theorem splitOn_append_cons_self (sep : UInt8) (front back : Bytes) :
    splitOn sep (front ++ sep :: back) = splitOn sep front ++ splitOn sep back := by
  simp only [splitOn_eq_listSplitOn]
  exact List.splitOn_append_cons_self front back

theorem not_mem_of_mem_splitOn {sep : UInt8} {bs piece : Bytes} (member : piece ∈ splitOn sep bs) :
    sep ∉ piece := by
  induction bs generalizing piece with
  | nil =>
      rw [splitOn_nil, List.mem_singleton] at member
      rw [member]
      exact List.not_mem_nil
  | cons b bs ih =>
      by_cases h : b = sep
      · subst h
        rw [splitOn_cons_self] at member
        rcases List.mem_cons.mp member with rfl | later
        · exact List.not_mem_nil
        · exact ih later
      · obtain ⟨first, rest, hp, hc⟩ := splitOn_cons_of_ne h bs
        rw [hp] at ih
        rw [hc] at member
        rcases List.mem_cons.mp member with rfl | later
        · have clean := ih List.mem_cons_self
          simp [Ne.symm h, clean]
        · exact ih (List.mem_cons_of_mem first later)

/-- Joining the pieces of a line gives the line back. -/
theorem joinWith_splitOn (sep : UInt8) (bs : Bytes) :
    joinWith [sep] (splitOn sep bs) = bs := by
  rw [splitOn_eq_listSplitOn]
  exact List.intercalate_splitOn sep

/-- Pieces without a separator come back from their join. -/
theorem splitOn_joinWith {sep : UInt8} {pieces : List Bytes} (h : pieces ≠ [])
    (clean : ∀ piece ∈ pieces, sep ∉ piece) : splitOn sep (joinWith [sep] pieces) = pieces := by
  rw [splitOn_eq_listSplitOn]
  exact List.splitOn_intercalate sep clean h

/-- Bytes without a separator are one piece. -/
theorem splitOn_of_not_mem {sep : UInt8} {bs : Bytes} (clean : sep ∉ bs) :
    splitOn sep bs = [bs] := by
  have joined : joinWith [sep] [bs] = bs := List.intercalate_singleton
  have pieces := splitOn_joinWith (List.cons_ne_nil bs []) (List.forall_mem_singleton.mpr clean)
  rwa [joined] at pieces

theorem joinWith_cons_of_ne_nil {pieces : List Bytes} (h : pieces ≠ []) (sep piece : Bytes) :
    joinWith sep (piece :: pieces) = piece ++ sep ++ joinWith sep pieces := by
  obtain ⟨next, rest, rfl⟩ := List.exists_cons_of_ne_nil h
  exact List.intercalate_cons_cons

/-- Joined pieces hold no other bytes than the pieces and the separator. -/
theorem not_mem_joinWith {b sep : UInt8} {pieces : List Bytes} (other : b ≠ sep)
    (clean : ∀ piece ∈ pieces, b ∉ piece) : b ∉ joinWith [sep] pieces := by
  induction pieces with
  | nil => exact List.not_mem_nil
  | cons piece rest ih =>
      obtain ⟨first, later⟩ := List.forall_mem_cons.mp clean
      by_cases last : rest = []
      · rw [last, joinWith, List.intercalate_singleton]
        exact first
      · rw [joinWith_cons_of_ne_nil last]
        simp [first, other, ih later]

/-- Joined pieces behind joined pieces, with one separator between, are all of them joined. -/
theorem joinWith_append {front back : List Bytes} (hf : front ≠ []) (hb : back ≠ [])
    (sep : Bytes) :
    joinWith sep (front ++ back) = joinWith sep front ++ sep ++ joinWith sep back := by
  induction front with
  | nil => exact absurd rfl hf
  | cons piece rest ih =>
      cases rest with
      | nil =>
          rw [List.singleton_append, joinWith_cons_of_ne_nil hb]
          simp [joinWith, List.intercalate_singleton]
      | cons next rest =>
          have hrest : next :: rest ≠ [] := List.cons_ne_nil next rest
          have hall : next :: rest ++ back ≠ [] := List.append_ne_nil_of_left_ne_nil hrest back
          rw [List.cons_append, joinWith_cons_of_ne_nil hall, ih hrest,
            joinWith_cons_of_ne_nil hrest]
          simp only [List.append_assoc]

end Bytes

end RecordPipeline
