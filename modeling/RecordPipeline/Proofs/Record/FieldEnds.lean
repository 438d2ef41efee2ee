import RecordPipeline.Proofs.Splitting
import RecordPipeline.Record.Basic

/-!
The offsets that a parsed line leaves behind. They cut the line into the pieces between its
separators, and the line from the start of any field on is the rest of the pieces, joined again.
-/

namespace RecordPipeline

namespace Record

theorem separatorOffsets_cons (sep b : UInt8) (bs : Bytes) :
    separatorOffsets sep (b :: bs) =
      (if b = sep then [0] else []) ++ (separatorOffsets sep bs).map (· + 1) := by
  have hrest : (((bs.zipIdx 1).filter fun p => p.1 = sep).map (·.2)) =
      (separatorOffsets sep bs).map (· + 1) := by
    rw [List.zipIdx_succ, List.filter_map, separatorOffsets, List.map_map, List.map_map]
    rfl
  rw [← hrest, separatorOffsets, List.zipIdx_cons, List.filter_cons]
  by_cases h : b = sep <;> simp [h]

theorem fieldEnds_nil (sep : UInt8) : fieldEnds sep [] = [0] := rfl

theorem fieldEnds_cons_self (sep : UInt8) (bs : Bytes) :
    fieldEnds sep (sep :: bs) = 0 :: (fieldEnds sep bs).map (· + 1) := by
  simp [fieldEnds, separatorOffsets_cons]

theorem fieldEnds_cons_of_ne {sep b : UInt8} (h : b ≠ sep) (bs : Bytes) :
    fieldEnds sep (b :: bs) = (fieldEnds sep bs).map (· + 1) := by
  simp [fieldEnds, separatorOffsets_cons, h]

/-- A line has as many fields as it has pieces. -/
theorem length_fieldEnds (sep : UInt8) (line : Bytes) :
    (fieldEnds sep line).length = (Bytes.splitOn sep line).length := by
  rw [Bytes.length_splitOn]
  induction line with
  | nil => rfl
  | cons b bs ih =>
      by_cases h : b = sep
      · subst h
        rw [fieldEnds_cons_self, List.length_cons, List.length_map, ih, List.count_cons_self]
      · rw [fieldEnds_cons_of_ne h, List.length_map, ih, List.count_cons_of_ne h]

/-- The offset of the first byte of a field, behind the end of the field before it. -/
def startIn (ends : List Nat) : Nat → Nat
  | 0 => 0
  | index + 1 => ends.getD index 0 + 1

theorem startOf_eq (r : Record) (index : Nat) : r.startOf index = startIn r.ends index := by
  cases index with
  | zero => rfl
  | succ index => simp [startOf, startIn]

/-- One byte more in front moves the start of every field but the first. -/
theorem startIn_map_succ {ends : List Nat} {index : Nat} (h : index < ends.length) :
    startIn (ends.map (· + 1)) (index + 1) = startIn ends (index + 1) + 1 := by
  simp [startIn, List.getD_eq_getElem?_getD, h]

/-- A separator in front makes an empty first field and moves all others. -/
theorem startIn_cons_succ {ends : List Nat} {index : Nat} (h : index ≤ ends.length) :
    startIn (0 :: ends.map (· + 1)) (index + 1) = startIn ends index + 1 := by
  cases index with
  | zero => rfl
  | succ index => simp [startIn, List.getD_eq_getElem?_getD, Nat.lt_of_succ_le h]

/-- From the start of a field on the line is that field and the fields behind it, joined. -/
theorem drop_startIn {sep : UInt8} {line : Bytes} {index : Nat}
    (h : index < (Bytes.splitOn sep line).length) :
    line.drop (startIn (fieldEnds sep line) index) =
      Bytes.joinWith [sep] ((Bytes.splitOn sep line).drop index) := by
  induction line generalizing index with
  | nil =>
      have hzero : index = 0 := by
        have hlength : index < 1 := h
        omega
      subst hzero
      rfl
  | cons b bs ih =>
      cases index with
      | zero => exact (Bytes.joinWith_splitOn sep (b :: bs)).symm
      | succ index =>
          by_cases hb : b = sep
          · subst hb
            rw [Bytes.splitOn_cons_self, List.length_cons] at h
            have hlength := length_fieldEnds b bs
            rw [fieldEnds_cons_self, startIn_cons_succ (by omega), Bytes.splitOn_cons_self]
            exact ih (by omega)
          · obtain ⟨piece, rest, hp, hc⟩ := Bytes.splitOn_cons_of_ne hb bs
            have hlength := length_fieldEnds sep bs
            rw [hp, List.length_cons] at hlength
            rw [hc, List.length_cons] at h
            have hin : index + 1 < (Bytes.splitOn sep bs).length := by
              rw [hp, List.length_cons]
              omega
            have hrec := ih hin
            rw [fieldEnds_cons_of_ne hb, startIn_map_succ (by omega), hc]
            rw [hp] at hrec
            exact hrec

/-- A field ends as many bytes behind its start as its piece is long. -/
theorem fieldEnds_getElem? (sep : UInt8) (line : Bytes) (index : Nat) :
    (fieldEnds sep line)[index]? = (Bytes.splitOn sep line)[index]?.map
      fun piece => startIn (fieldEnds sep line) index + piece.length := by
  induction line generalizing index with
  | nil => cases index <;> rfl
  | cons b bs ih =>
      by_cases hb : b = sep
      · subst hb
        rw [fieldEnds_cons_self, Bytes.splitOn_cons_self]
        cases index with
        | zero => rfl
        | succ index =>
            rw [List.getElem?_cons_succ, List.getElem?_cons_succ, List.getElem?_map, ih index]
            by_cases h : index < (Bytes.splitOn b bs).length
            · have hlength := length_fieldEnds b bs
              rw [startIn_cons_succ (by omega)]
              simp only [List.getElem?_eq_getElem h, Option.map_some, Option.some.injEq]
              omega
            · simp [List.getElem?_eq_none (Nat.le_of_not_lt h)]
      · obtain ⟨piece, rest, hp, hc⟩ := Bytes.splitOn_cons_of_ne hb bs
        have hrec := ih index
        rw [hp] at hrec
        rw [fieldEnds_cons_of_ne hb, hc, List.getElem?_map, hrec]
        cases index with
        | zero => simp [startIn]
        | succ index =>
            rw [List.getElem?_cons_succ, List.getElem?_cons_succ]
            by_cases h : index < rest.length
            · have hlength := length_fieldEnds sep bs
              rw [hp, List.length_cons] at hlength
              rw [startIn_map_succ (by omega)]
              simp only [List.getElem?_eq_getElem h, Option.map_some, Option.some.injEq]
              omega
            · simp [List.getElem?_eq_none (Nat.le_of_not_lt h)]

/-- Reading a field between its offsets gives its piece. -/
theorem slice_startIn {sep : UInt8} {line piece : Bytes} {index stop : Nat}
    (hp : (Bytes.splitOn sep line)[index]? = some piece)
    (hs : (fieldEnds sep line)[index]? = some stop) :
    line.slice (startIn (fieldEnds sep line) index) stop = piece := by
  have hlt : index < (Bytes.splitOn sep line).length := (List.getElem?_eq_some_iff.mp hp).1
  have hstop : stop = startIn (fieldEnds sep line) index + piece.length := by
    rw [fieldEnds_getElem?, hp] at hs
    exact (Option.some.inj hs).symm
  have hcut : (Bytes.splitOn sep line).drop index =
      piece :: (Bytes.splitOn sep line).drop (index + 1) := by
    rw [List.drop_eq_getElem_cons hlt, (List.getElem?_eq_some_iff.mp hp).2]
  rw [Bytes.slice, drop_startIn hlt, hcut, hstop, Nat.add_sub_cancel_left]
  cases (Bytes.splitOn sep line).drop (index + 1) with
  | nil => simp [Bytes.joinWith, List.intercalate_singleton]
  | cons next rest => simp [Bytes.joinWith, List.intercalate_cons_cons]

/-- Every field but the last ends at a separator. -/
theorem getElem?_of_mem_separatorOffsets {sep : UInt8} {bytes : Bytes} {offset : Nat}
    (h : offset ∈ separatorOffsets sep bytes) : bytes[offset]? = some sep := by
  obtain ⟨⟨b, i⟩, hmem, rfl⟩ := List.mem_map.mp h
  obtain ⟨hin, hb⟩ := List.mem_filter.mp hmem
  have hsep : b = sep := by simpa using hb
  subst hsep
  exact List.mem_zipIdx_iff_getElem?.mp hin

theorem fieldEnds_pairwise (sep : UInt8) (line : Bytes) :
    (fieldEnds sep line).Pairwise (· < ·) := by
  induction line with
  | nil => simp [fieldEnds_nil]
  | cons b bs ih =>
      have hmoved : ((fieldEnds sep bs).map (· + 1)).Pairwise (· < ·) :=
        List.pairwise_map.mpr (ih.imp fun h => Nat.succ_lt_succ h)
      by_cases h : b = sep
      · subst h
        rw [fieldEnds_cons_self, List.pairwise_cons]
        refine ⟨?_, hmoved⟩
        intro offset member
        obtain ⟨before, _, rfl⟩ := List.mem_map.mp member
        omega
      · rw [fieldEnds_cons_of_ne h]
        exact hmoved

theorem fieldEnds_getLast? (sep : UInt8) (line : Bytes) :
    (fieldEnds sep line).getLast? = some line.length := by
  simp [fieldEnds]

theorem fieldEnds_dropLast (sep : UInt8) (line : Bytes) :
    (fieldEnds sep line).dropLast = separatorOffsets sep line := by
  simp [fieldEnds]

/-- A field lies within its line. -/
theorem startIn_le_fieldEnds {sep : UInt8} {line : Bytes} {index stop : Nat}
    (h : (fieldEnds sep line)[index]? = some stop) :
    startIn (fieldEnds sep line) index ≤ stop ∧ stop ≤ line.length := by
  constructor
  · rw [fieldEnds_getElem?] at h
    obtain ⟨piece, _, hpiece⟩ := Option.map_eq_some_iff.mp h
    omega
  · have hmem : stop ∈ fieldEnds sep line := List.mem_of_getElem? h
    rcases List.mem_append.mp hmem with inside | last
    · have hlt := (List.getElem?_eq_some_iff.mp (getElem?_of_mem_separatorOffsets inside)).1
      omega
    · have hlast : stop = line.length := List.mem_singleton.mp last
      omega

end Record

end RecordPipeline
