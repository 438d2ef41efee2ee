import Mathlib.Data.List.Chain
import RecordPipeline.Proofs.Chain.Pieces
import RecordPipeline.Proofs.Splitting

/-!
The search for the pieces of a value, piece by piece. It comes to an end, and the ranges that it
gives are those between the leftmost occurrences of the delimiter. So the pieces join to the value
again, and they are the pieces that the filter works on.
-/

namespace RecordPipeline

namespace Bytes

variable {needle bs delimiter value : Bytes} {start i : Nat} {pieces : List Bytes}

/-- Nothing that is found begins earlier. -/
theorem find?_eq_some (h : find? needle bs = some i) :
    needle <+: bs.drop i ∧ ∀ k < i, ¬needle <+: bs.drop k := by
  induction bs generalizing i with
  | nil =>
      rw [find?, Option.ite_none_right_eq_some, List.isEmpty_iff] at h
      obtain ⟨rfl, found⟩ := h
      obtain rfl := Option.some.inj found
      exact ⟨List.nil_prefix, fun k below => absurd below (Nat.not_lt_zero k)⟩
  | cons b bs ih =>
      rw [find?] at h
      split at h
      · rename_i here
        obtain rfl := Option.some.inj h
        exact ⟨List.isPrefixOf_iff_prefix.mp here, fun k below => absurd below (Nat.not_lt_zero k)⟩
      · rename_i notHere
        obtain ⟨j, found, rfl⟩ := Option.map_eq_some_iff.mp h
        obtain ⟨there, before⟩ := ih found
        refine ⟨there, fun k below => ?_⟩
        cases k with
        | zero => exact mt List.isPrefixOf_iff_prefix.mpr notHere
        | succ k => exact before k (Nat.lt_of_succ_lt_succ below)

theorem find?_eq_none (h : find? needle bs = none) (k : Nat) : ¬needle <+: bs.drop k := by
  induction bs generalizing k with
  | nil =>
      rw [List.drop_nil, List.prefix_nil]
      rintro rfl
      cases h
  | cons b bs ih =>
      rw [find?] at h
      split at h
      · cases h
      · rename_i notHere
        cases k with
        | zero => exact mt List.isPrefixOf_iff_prefix.mpr notHere
        | succ k => exact ih (Option.map_eq_none_iff.mp h) k

/-- The leftmost places of a delimiter from an offset on. They do not overlap, and wherever else the
delimiter occurs, it begins within one of them. -/
structure LeftmostPlaces (delimiter value : Bytes) (start : Nat) (places : List Nat) : Prop where
  behind : ∀ i ∈ places, start ≤ i
  occurs : ∀ i ∈ places, delimiter <+: value.drop i
  apart : places.Pairwise fun i later => i + delimiter.length ≤ later
  all : ∀ k, start ≤ k → delimiter <+: value.drop k →
    ∃ i ∈ places, i ≤ k ∧ k < i + delimiter.length

namespace LeftmostPlaces

variable {places rest : List Nat} {k : Nat}

theorem le_of_occurs (h : LeftmostPlaces delimiter value start (i :: rest)) (behind : start ≤ k)
    (occurs : delimiter <+: value.drop k) : i ≤ k := by
  obtain ⟨j, member, before, _⟩ := h.all k behind occurs
  rcases List.mem_cons.mp member with rfl | later
  · exact before
  · have order := (List.pairwise_cons.mp h.apart).1 j later
    omega

theorem tail (h : LeftmostPlaces delimiter value start (i :: rest)) :
    LeftmostPlaces delimiter value (i + delimiter.length) rest where
  behind := (List.pairwise_cons.mp h.apart).1
  occurs := (List.forall_mem_cons.mp h.occurs).2
  apart := (List.pairwise_cons.mp h.apart).2
  all := by
    intro k behind occurs
    have first := h.behind i List.mem_cons_self
    obtain ⟨j, member, before, after⟩ := h.all k (by omega) occurs
    rcases List.mem_cons.mp member with rfl | later
    · omega
    · exact ⟨j, later, before, after⟩

/-- A delimiter has its leftmost places in one way only. -/
theorem unique {other : List Nat} (h : LeftmostPlaces delimiter value start places)
    (h' : LeftmostPlaces delimiter value start other) : other = places := by
  induction places generalizing start other with
  | nil =>
      cases other with
      | nil => rfl
      | cons j more =>
          have occurs := h'.occurs j List.mem_cons_self
          obtain ⟨_, none, _⟩ := h.all j (h'.behind j List.mem_cons_self) occurs
          cases none
  | cons i rest ih =>
      have behind := h.behind i List.mem_cons_self
      have occurs := h.occurs i List.mem_cons_self
      cases other with
      | nil =>
          obtain ⟨_, none, _⟩ := h'.all i behind occurs
          cases none
      | cons j more =>
          have least := h.le_of_occurs (h'.behind j List.mem_cons_self)
            (h'.occurs j List.mem_cons_self)
          obtain rfl : j = i := Nat.le_antisymm (h'.le_of_occurs behind occurs) least
          rw [ih h.tail h'.tail]

end LeftmostPlaces

/-- Ranges that end where the delimiter occurs next, each of them behind the occurrence that ended
the one before. The last one ends with the value. -/
inductive RangesFrom (delimiter value : Bytes) : Nat → List (Nat × Nat) → Prop where
  | last {start : Nat} (inside : start ≤ value.length)
      (nowhere : ∀ k, start ≤ k → ¬delimiter <+: value.drop k) :
      RangesFrom delimiter value start [(start, value.length)]
  | next {start stop : Nat} {ranges : List (Nat × Nat)} (forward : start ≤ stop)
      (first : ∀ k, start ≤ k → k < stop → ¬delimiter <+: value.drop k)
      (here : delimiter <+: value.drop stop)
      (later : RangesFrom delimiter value (stop + delimiter.length) ranges) :
      RangesFrom delimiter value start ((start, stop) :: ranges)

namespace RangesFrom

variable {ranges : List (Nat × Nat)}

theorem exists_cons (h : RangesFrom delimiter value start ranges) :
    ∃ stop rest, ranges = (start, stop) :: rest := by
  cases h with
  | last _ _ => exact ⟨_, [], rfl⟩
  | next _ _ _ _ => exact ⟨_, _, rfl⟩

theorem chain (h : RangesFrom delimiter value start ranges) :
    ranges.IsChain fun r next => next.1 = r.2 + delimiter.length := by
  induction h with
  | last _ _ => exact .singleton _
  | next _ _ _ later ih =>
      obtain ⟨stop, rest, rfl⟩ := later.exists_cons
      exact ih.cons_cons rfl

theorem le_length (h : RangesFrom delimiter value start ranges) : start ≤ value.length := by
  induction h with
  | last inside _ => exact inside
  | next forward _ _ _ ih => omega

theorem bounds (h : RangesFrom delimiter value start ranges) :
    ∀ r ∈ ranges, r.1 ≤ r.2 ∧ r.2 ≤ value.length := by
  induction h with
  | last inside _ => exact List.forall_mem_singleton.mpr ⟨inside, Nat.le_refl _⟩
  | next forward _ _ later ih =>
      have most := later.le_length
      exact List.forall_mem_cons.mpr ⟨⟨forward, by omega⟩, ih⟩

/-- The ranges end at the leftmost places of the delimiter, but for the last one. -/
theorem places (h : RangesFrom delimiter value start ranges) :
    LeftmostPlaces delimiter value start (ranges.dropLast.map (·.2)) := by
  induction h with
  | last _ nowhere =>
      exact ⟨nofun, nofun, .nil, fun k behind occurs => absurd occurs (nowhere k behind)⟩
  | @next start stop ranges forward first here later ih =>
      obtain ⟨_, _, rfl⟩ := later.exists_cons
      rw [List.dropLast_cons_cons, List.map_cons]
      constructor
      · refine List.forall_mem_cons.mpr ⟨forward, fun i member => ?_⟩
        have behind := ih.behind i member
        omega
      · exact List.forall_mem_cons.mpr ⟨here, ih.occurs⟩
      · exact List.pairwise_cons.mpr ⟨ih.behind, ih.apart⟩
      · intro k behind occurs
        have after : stop ≤ k := Nat.not_lt.mp fun before => first k behind before occurs
        by_cases inside : k < stop + delimiter.length
        · exact ⟨stop, List.mem_cons_self, after, inside⟩
        · obtain ⟨i, member, covers⟩ := ih.all k (Nat.not_lt.mp inside) occurs
          exact ⟨i, List.mem_cons_of_mem _ member, covers⟩

/-- The value is cut at the ranges. -/
theorem isCut (h : RangesFrom delimiter value start ranges) :
    IsCut delimiter (value.drop start) (ranges.map fun r => slice r.1 r.2 value) := by
  induction h with
  | @last start inside nowhere =>
      have whole : slice start value.length value = value.drop start := by
        rw [slice, ← List.length_drop, List.take_length]
      rw [List.map_singleton, whole]
      refine .last fun occurs => ?_
      obtain ⟨front, back, split⟩ := occurs
      refine nowhere (start + front.length) (Nat.le_add_right _ _) ?_
      rw [← List.drop_drop, ← split, List.append_assoc, List.drop_left]
      exact List.prefix_append _ _
  | @next start stop ranges forward first here later ih =>
      obtain ⟨back, there⟩ := here
      have behind : value.drop (stop + delimiter.length) = back := by
        rw [← List.drop_drop, ← there, List.drop_left]
      have whole : value.drop start = slice start stop value ++ delimiter ++ back := by
        rw [List.append_assoc, there, slice]
        have split := (List.take_append_drop (stop - start) (value.drop start)).symm
        rwa [List.drop_drop, Nat.add_sub_cancel' forward] at split
      rw [behind] at ih
      rw [whole, List.map_cons]
      refine .next (fun k inside => ?_) ih
      have length : (slice start stop value).length ≤ stop - start := List.length_take_le _ _
      rw [← whole, List.drop_drop]
      exact first (start + k) (Nat.le_add_right _ _) (by omega)

end RangesFrom

end Bytes

namespace PieceSearch

/-- Called again and again, the search gives these ranges and then nothing more. -/
inductive Yields : PieceSearch → List (Nat × Nat) → Prop where
  | done {s : PieceSearch} (atEnd : s.next? = none) : Yields s []
  | piece {s next : PieceSearch} {range : Nat × Nat} {ranges : List (Nat × Nat)}
      (found : s.next? = some (range, next)) (later : Yields next ranges) :
      Yields s (range :: ranges)

variable {value delimiter : Bytes}

theorem Yields.unique {s : PieceSearch} {ranges other : List (Nat × Nat)} (h : s.Yields ranges)
    (h' : s.Yields other) : other = ranges := by
  induction h generalizing other with
  | done atEnd =>
      cases h' with
      | done _ => rfl
      | piece found _ => cases atEnd.symm.trans found
  | piece found _ ih =>
      cases h' with
      | done atEnd => cases atEnd.symm.trans found
      | piece found' later =>
          cases found.symm.trans found'
          rw [ih later]

/-- From any place within a value that is not empty, the search gives the ranges behind it. -/
theorem exists_yields (nonempty : delimiter ≠ []) (used : value ≠ []) (start : Nat)
    (inside : start ≤ value.length) :
    ∃ ranges, Yields ⟨value, delimiter, some start⟩ ranges ∧
      Bytes.RangesFrom delimiter value start ranges := by
  match found : Bytes.find? delimiter (value.drop start) with
  | none =>
      have nowhere : ∀ k, start ≤ k → ¬delimiter <+: value.drop k := by
        intro k behind
        have notHere := Bytes.find?_eq_none found (k - start)
        rwa [List.drop_drop, Nat.add_sub_cancel' behind] at notHere
      have last : next? ⟨value, delimiter, some start⟩ =
          some ((start, value.length), ⟨value, delimiter, none⟩) := by
        simp only [next?, if_neg used, found]
      exact ⟨_, .piece last (.done rfl), .last inside nowhere⟩
  | some length =>
      obtain ⟨here, before⟩ := Bytes.find?_eq_some found
      rw [List.drop_drop] at here
      have positive := List.length_pos_iff.mpr nonempty
      have fits : start + length + delimiter.length ≤ value.length := by
        have long := here.length_le
        rw [List.length_drop] at long
        omega
      have first : ∀ k, start ≤ k → k < start + length → ¬delimiter <+: value.drop k := by
        intro k behind below
        have notHere := before (k - start) (by omega)
        rwa [List.drop_drop, Nat.add_sub_cancel' behind] at notHere
      obtain ⟨ranges, later, behind⟩ := exists_yields nonempty used
        (start + length + delimiter.length) fits
      refine ⟨_, .piece ?_ later, .next (Nat.le_add_right _ _) first here behind⟩
      simp only [next?, if_neg used, found]
termination_by value.length - start

end PieceSearch

namespace Bytes.IsCut

variable {delimiter value : Bytes} {pieces : List Bytes}

theorem ne_nil (h : IsCut delimiter value pieces) : pieces ≠ [] := by
  cases h with
  | last _ => exact List.cons_ne_nil _ _
  | next _ _ => exact List.cons_ne_nil _ _

/-- The pieces with the delimiter between every two of them are the value. -/
theorem joinWith_eq (h : IsCut delimiter value pieces) : joinWith delimiter pieces = value := by
  induction h with
  | last _ => exact List.intercalate_singleton
  | next _ rest ih => rw [joinWith_cons_of_ne_nil rest.ne_nil, ih]

/-- The delimiter occurs in no piece. -/
theorem not_infix (nonempty : delimiter ≠ []) (h : IsCut delimiter value pieces) :
    ∀ piece ∈ pieces, ¬delimiter <:+: piece := by
  induction h with
  | last none => exact List.forall_mem_singleton.mpr none
  | @next front back pieces first rest ih =>
      refine List.forall_mem_cons.mpr ⟨?_, ih⟩
      rintro ⟨before, behind, inside⟩
      have positive := List.length_pos_iff.mpr nonempty
      refine first before.length ?_ ?_
      · rw [← inside, List.length_append, List.length_append]
        omega
      · rw [← inside]
        simp only [List.append_assoc, List.drop_left]
        exact List.prefix_append _ _

end Bytes.IsCut

namespace Split

/-- The search comes to an end, and there is only one thing that it gives: ranges within the value,
one behind the other with just the delimiter between two of them. An empty value has none. Of any
other value they are the pieces between the leftmost places of the delimiter, which is in no piece,
so they are one more than there are such places, and joined with the delimiter they are the value.
The filter works on the same pieces, without the empty ones unless it keeps them. -/
theorem search_gives_pieces (f : Split) (value : Bytes) :
    ∃ ranges, (∀ other, (f.search value).Yields other ↔ other = ranges) ∧
      (∀ r ∈ ranges, r.1 ≤ r.2 ∧ r.2 ≤ value.length ∧
        ¬f.delimiter <:+: Bytes.slice r.1 r.2 value) ∧
      ranges.IsChain (fun r next => next.1 = r.2 + f.delimiter.length) ∧
      (value = [] → ranges = []) ∧
      (value ≠ [] →
        Bytes.joinWith f.delimiter (ranges.map fun r => Bytes.slice r.1 r.2 value) = value ∧
        ∃ places, (∀ other, Bytes.LeftmostPlaces f.delimiter value 0 other ↔ other = places) ∧
          ranges.dropLast.map (·.2) = places ∧ ranges.length = places.length + 1) ∧
      f.pieces value = (ranges.map fun r => Bytes.slice r.1 r.2 value).filter
        fun piece => f.keepEmpty || !piece.isEmpty := by
  by_cases empty : value = []
  · subst empty
    have yields : (f.search []).Yields [] := .done rfl
    refine ⟨[], fun other => ⟨yields.unique, fun none => none ▸ yields⟩, nofun, .nil, fun _ => rfl,
      fun used => absurd rfl used, rfl⟩
  · obtain ⟨ranges, yields, found⟩ := PieceSearch.exists_yields f.nonempty empty 0 (Nat.zero_le _)
    have cut : Bytes.IsCut f.delimiter value _ := found.isCut
    have clean := cut.not_infix f.nonempty
    obtain ⟨stop, rest, shape⟩ := found.exists_cons
    refine ⟨ranges, fun other => ⟨yields.unique, fun same => same ▸ yields⟩, ?_, found.chain,
      fun none => absurd none empty, fun _ => ⟨cut.joinWith_eq, _, ?_, rfl, ?_⟩, ?_⟩
    · intro r member
      obtain ⟨forward, inside⟩ := found.bounds r member
      exact ⟨forward, inside, clean _ (List.mem_map_of_mem member)⟩
    · exact fun other => ⟨found.places.unique, fun same => same ▸ found.places⟩
    · rw [List.length_map, List.length_dropLast, shape, List.length_cons]
      rfl
    · rw [pieces, if_neg empty, ← cut.eq_piecesFrom f.nonempty]

/-- Of two occurrences of the delimiter that overlap the search takes the first, and goes on behind
it. -/
example :
    let s : PieceSearch := { value := [97, 97, 97], delimiter := [97, 97] }
    s.next? = some ((0, 0), { s with position := some 2 }) ∧
      PieceSearch.next? { s with position := some 2 } =
        some ((2, 3), { s with position := none }) := by
  decide

end Split

end RecordPipeline
