import RecordPipeline.Filter.Split

/-!
The pieces of a value between the occurrences of a delimiter. They are described without a search:
each piece ends where the delimiter occurs first, and in the last one it does not occur. A value has
no other pieces than those that the search finds.
-/

namespace RecordPipeline.Bytes

/-- A value is cut into pieces at a delimiter. In front of the first piece's end the delimiter does
not begin anywhere, also where it would reach over this end. -/
inductive IsCut (delimiter : Bytes) : Bytes → List Bytes → Prop where
  | last {value : Bytes} (none : ¬delimiter <:+: value) : IsCut delimiter value [value]
  | next {front back : Bytes} {pieces : List Bytes}
      (first : ∀ k < front.length, ¬delimiter <+: (front ++ delimiter ++ back).drop k)
      (rest : IsCut delimiter back pieces) :
      IsCut delimiter (front ++ delimiter ++ back) (front :: pieces)

variable {delimiter value : Bytes} {pieces : List Bytes}

/-- Bytes that are to be passed over make no piece. -/
theorem piecesFrom_skip (delimiter : Bytes) (skip : Nat) (value : Bytes) :
    piecesFrom delimiter skip value = piecesFrom delimiter 0 (value.drop skip) := by
  induction value generalizing skip with
  | nil => cases skip <;> rfl
  | cons b bs ih =>
      cases skip with
      | zero => rfl
      | succ skip => exact ih skip

/-- A delimiter in front ends an empty piece. -/
theorem piecesFrom_append (nonempty : delimiter ≠ []) (back : Bytes) :
    piecesFrom delimiter 0 (delimiter ++ back) = [] :: piecesFrom delimiter 0 back := by
  obtain ⟨b, bs, rfl⟩ := List.exists_cons_of_ne_nil nonempty
  have begins : (b :: bs).isPrefixOf (b :: (bs ++ back)) = true :=
    List.isPrefixOf_iff_prefix.mpr (List.prefix_append (b :: bs) back)
  rw [List.cons_append, piecesFrom, if_pos begins, piecesFrom_skip, List.length_cons,
    Nat.add_sub_cancel, List.drop_left]

theorem piecesFrom_cons {b : UInt8} {bs : Bytes} (notHere : ¬delimiter <+: b :: bs) :
    piecesFrom delimiter 0 (b :: bs) = consFirst b (piecesFrom delimiter 0 bs) := by
  rw [piecesFrom, if_neg (mt List.isPrefixOf_iff_prefix.mp notHere)]

theorem IsCut.cons {b : UInt8} (notHere : ¬delimiter <+: b :: value)
    (h : IsCut delimiter value pieces) : IsCut delimiter (b :: value) (consFirst b pieces) := by
  cases h with
  | last none =>
      refine .last fun inside => ?_
      rcases List.infix_cons_iff.mp inside with here | later
      · exact notHere here
      · exact none later
  | @next front back pieces first rest =>
      have first' : ∀ k < (b :: front).length,
          ¬delimiter <+: ((b :: front) ++ delimiter ++ back).drop k := by
        intro k inside
        cases k with
        | zero => exact notHere
        | succ k => exact first k (Nat.lt_of_succ_lt_succ inside)
      exact .next first' rest

/-- The search cuts the value at the delimiter. -/
theorem isCut_piecesFrom (nonempty : delimiter ≠ []) (value : Bytes) :
    IsCut delimiter value (piecesFrom delimiter 0 value) := by
  match value with
  | [] => exact .last fun inside => nonempty (List.infix_nil.mp inside)
  | b :: bs =>
      by_cases here : delimiter <+: b :: bs
      · obtain ⟨back, whole⟩ := here
        have shorter : back.length < (b :: bs).length := by
          have positive := List.length_pos_iff.mpr nonempty
          rw [← whole, List.length_append]
          omega
        have first : ∀ k < ([] : Bytes).length, ¬delimiter <+: ([] ++ delimiter ++ back).drop k :=
          fun k none => absurd none (Nat.not_lt_zero k)
        rw [← whole, piecesFrom_append nonempty]
        exact .next first (isCut_piecesFrom nonempty back)
      · rw [piecesFrom_cons here]
        exact (isCut_piecesFrom nonempty bs).cons here
termination_by value.length
decreasing_by
  · exact shorter
  · exact Nat.lt_succ_self bs.length

/-- Bytes in which the delimiter does not begin stay in front of the first piece. -/
theorem piecesFrom_front {front : Bytes} {rest : Bytes} {piece : Bytes}
    (first : ∀ k < front.length, ¬delimiter <+: (front ++ rest).drop k)
    (found : piecesFrom delimiter 0 rest = piece :: pieces) :
    piecesFrom delimiter 0 (front ++ rest) = (front ++ piece) :: pieces := by
  induction front with
  | nil => exact found
  | cons b front ih =>
      have later := ih fun k inside => first (k + 1) (Nat.succ_lt_succ inside)
      have notHere : ¬delimiter <+: b :: (front ++ rest) := first 0 (Nat.zero_lt_succ _)
      rw [List.cons_append, piecesFrom_cons notHere, later]
      rfl

/-- A value is cut in one way only. -/
theorem IsCut.eq_piecesFrom (nonempty : delimiter ≠ []) (h : IsCut delimiter value pieces) :
    pieces = piecesFrom delimiter 0 value := by
  induction h with
  | @last value none =>
      have first : ∀ k < value.length, ¬delimiter <+: (value ++ []).drop k := by
        intro k _ here
        rw [List.append_nil] at here
        exact none (here.isInfix.trans (List.drop_suffix k value).isInfix)
      have all := piecesFrom_front first rfl
      simp only [List.append_nil] at all
      exact all.symm
  | @next front back pieces first _ ih =>
      rw [List.append_assoc] at first ⊢
      rw [piecesFrom_front first (piecesFrom_append nonempty back), List.append_nil, ih]

namespace IsCut

theorem length_le_of_mem (h : IsCut delimiter value pieces) :
    ∀ piece ∈ pieces, piece.length ≤ value.length := by
  induction h with
  | last none => exact List.forall_mem_singleton.mpr (Nat.le_refl _)
  | next first rest ih =>
      rw [List.forall_mem_cons]
      simp only [List.length_append]
      refine ⟨by omega, fun piece member => ?_⟩
      have shorter := ih piece member
      omega

/-- Only a value in which the delimiter does not occur is a piece of itself. -/
theorem eq_of_mem (nonempty : delimiter ≠ []) (h : IsCut delimiter value pieces)
    (member : value ∈ pieces) : pieces = [value] := by
  cases h with
  | last none => rfl
  | @next front back pieces first rest =>
      have positive := List.length_pos_iff.mpr nonempty
      have longer : ∀ piece ∈ front :: pieces,
          piece.length < (front ++ delimiter ++ back).length := by
        rw [List.forall_mem_cons]
        simp only [List.length_append]
        refine ⟨by omega, fun piece inside => ?_⟩
        have shorter := rest.length_le_of_mem piece inside
        omega
      exact absurd (longer _ member) (Nat.lt_irrefl _)

/-- There is at most one piece more than there are bytes. -/
theorem length_le (nonempty : delimiter ≠ []) (h : IsCut delimiter value pieces) :
    pieces.length ≤ value.length + 1 := by
  have positive := List.length_pos_iff.mpr nonempty
  induction h with
  | last none => exact Nat.le_add_left 1 _
  | next first rest ih =>
      simp only [List.length_cons, List.length_append]
      omega

end IsCut

end RecordPipeline.Bytes
