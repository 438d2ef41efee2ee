import RecordPipeline.Proofs.Record.Refinement

/-!
What a replacement does to a record. The field reads as its new value and no other changes; one that
is refused leaves the record as it was, also when it is made step by step.
-/

namespace RecordPipeline.Record

variable {r : Record}

/-- A field reads as its value in the overlay, else as it was parsed. -/
theorem get_eq_getD (ho : r.OverlayConsistent) (index : Nat) :
    r.get index = (Table.get? index r.values).getD (r.original index) := by
  unfold get
  cases hslot : r.slot index with
  | zero =>
      rw [(get?_values_eq_none_iff ho index).mpr hslot]
      rfl
  | succ k =>
      rw [get?_values_of_slot ho hslot]
      rfl

/-- Replacing a field puts the value into the overlay and leaves the parsed fields alone. -/
theorem set_values {changed : Record} {index : Nat} {value : Bytes} (ho : r.OverlayConsistent)
    (h : r.set index value = .ok changed) :
    changed.values = Table.put index value r.values ∧
      ∀ other, changed.original other = r.original other := by
  obtain ⟨_, ⟨k, hslot, rfl⟩ | ⟨hslot, _, rfl⟩⟩ := set_cases h
  · refine ⟨?_, fun _ => rfl⟩
    have hk := (ho.slot_iff index k).mp hslot
    rw [getElem?_modified] at hk
    obtain ⟨⟨key, old⟩, hentry, rfl⟩ := Option.map_eq_some_iff.mp hk
    exact (Table.put_eq_set ho.modified_nodup hentry value).symm
  · refine ⟨?_, fun _ => rfl⟩
    have hnone := (get?_values_eq_none_iff ho index).mpr hslot
    exact (Table.put_of_get?_eq_none hnone value).symm

/-- After a field was replaced it reads as its new value, and all others read as before. -/
theorem get_set {changed : Record} {index : Nat} {value : Bytes} (ho : r.OverlayConsistent)
    (h : r.set index value = .ok changed) (other : Nat) :
    changed.get other = if other = index then value else r.get other := by
  obtain ⟨values, original⟩ := set_values ho h
  rw [get_eq_getD (set_overlayConsistent ho h), get_eq_getD ho, values, original]
  by_cases same : other = index
  · rw [if_pos same, same, Table.get?_put_self, Option.getD_some]
  · rw [if_neg same, Table.get?_put_of_ne same]

/-- The record with its table of slots made. -/
def allocated (r : Record) : Record :=
  { r with slots := if r.slots = [] then List.replicate r.layout.maxFields 0 else r.slots }

/-- A replacement as it changes the record itself, step by step. The table of slots is made before
it shows whether a slot is free. -/
def setInPlace (r : Record) (index : Nat) (value : Bytes) : Record × Except RecordError Unit :=
  if r.layout.maxFields ≤ index then (r, .error (.fieldOutOfRange index r.layout.maxFields))
  else
    let r := r.allocated
    match r.slot index with
    | k + 1 => ({ r with values := r.values.set k (index, value) }, .ok ())
    | 0 =>
      if overlayLimit ≤ r.values.length then (r, .error (.overlayFull overlayLimit))
      else (r.takeSlot index value, .ok ())

theorem slot_allocated (r : Record) (index : Nat) : r.allocated.slot index = r.slot index :=
  congrArg UInt8.toNat (getD_allocated r.slots r.layout.maxFields index)

theorem allocated_of_some (used : r.slots ≠ []) : r.allocated = r := by
  rw [allocated, if_neg used]

theorem takeSlot_allocated (r : Record) (index : Nat) (value : Bytes) :
    r.allocated.takeSlot index value = r.takeSlot index value := by
  by_cases empty : r.slots = []
  · have made : List.replicate r.layout.maxFields (0 : UInt8) ≠ [] := by
      rw [ne_eq, List.replicate_eq_nil_iff]
      exact Nat.ne_of_gt r.layout.maxFields_pos
    simp only [takeSlot, allocated, if_pos empty, if_neg made]
  · rw [allocated_of_some empty]

theorem OverlayConsistent.slots_ne_nil (h : r.OverlayConsistent) (used : r.values ≠ []) :
    r.slots ≠ [] := by
  obtain ⟨entry, member⟩ := List.exists_mem_of_ne_nil r.values used
  have inside := h.lt_slots_length (List.mem_map_of_mem member)
  exact List.ne_nil_of_length_pos (Nat.zero_lt_of_lt inside)

/-- The steps make the change or, when they are refused, leave the record as it was. -/
theorem setInPlace_eq (h : r.OverlayConsistent) (index : Nat) (value : Bytes) :
    r.setInPlace index value = r.perform (.set index value) := by
  rw [perform]
  by_cases inside : index < r.layout.maxFields
  · rw [setInPlace, if_neg (Nat.not_le_of_lt inside)]
    simp only [slot_allocated, takeSlot_allocated]
    cases taken : r.slot index with
    | succ k =>
        have used : r.values ≠ [] := by
          have member := List.mem_of_getElem? ((h.slot_iff index k).mp taken)
          exact List.ne_nil_of_length_pos (length_modified r ▸ List.length_pos_of_mem member)
        rw [set_of_slot inside taken, allocated_of_some (h.slots_ne_nil used)]
    | zero =>
        by_cases room : r.values.length < overlayLimit
        · rw [set_of_room inside taken room]
          exact if_neg (Nat.not_le_of_lt room)
        · have full := Nat.le_of_not_lt room
          have used : r.values ≠ [] := List.ne_nil_of_length_pos (Nat.zero_lt_of_lt full)
          rw [set_of_full inside taken full, allocated_of_some (h.slots_ne_nil used)]
          exact if_pos full
  · have outside := Nat.le_of_not_lt inside
    rw [setInPlace, if_pos outside, set_of_outside outside]

theorem performAll_append (r : Record) (calls more : List RecordCall) :
    (r.performAll (calls ++ more)).1 = ((r.performAll calls).1.performAll more).1 := by
  induction calls generalizing r with
  | nil => rfl
  | cons call calls ih => exact ih (r.perform call).1

theorem reached_append (l : Layout) (calls more : List RecordCall) :
    reached l (calls ++ more) = ((reached l calls).performAll more).1 :=
  performAll_append (new l) calls more

/-- While slots are left, one field after the other can be replaced, and no other changes. -/
theorem performAll_sets (h : r.OverlayConsistent) (value : Bytes) {indices : List Nat}
    (inside : ∀ index ∈ indices, index < r.layout.maxFields)
    (distinct : (r.modified ++ indices).Nodup)
    (room : (r.modified ++ indices).length ≤ overlayLimit) :
    let changed := (r.performAll (indices.map fun index => .set index value)).1
    changed.modified = r.modified ++ indices ∧
      ∀ other ∉ indices, changed.get other = r.get other := by
  induction indices generalizing r with
  | nil => exact ⟨(List.append_nil r.modified).symm, fun _ _ => rfl⟩
  | cons index rest ih =>
      rw [List.forall_mem_cons] at inside
      have absent : index ∉ r.modified := fun member =>
        (List.nodup_append.mp distinct).2.2 index member index List.mem_cons_self rfl
      have left : r.values.length < overlayLimit := by
        rw [List.length_append, List.length_cons, length_modified] at room
        omega
      have set := set_of_room inside.1 ((h.slot_eq_zero_iff index).mpr absent) left value
      have performed : (r.perform (.set index value)).1 = r.takeSlot index value := by
        rw [perform, set]
      have grown : (r.takeSlot index value).modified = r.modified ++ [index] := modified_takeSlot
      rw [List.append_cons, ← grown] at distinct room
      obtain ⟨modified, kept⟩ :=
        ih (set_overlayConsistent h set) inside.2 distinct room
      rw [List.map_cons, performAll_cons, performed]
      refine ⟨?_, fun other outside => ?_⟩
      · rw [modified, grown, ← List.append_cons]
      · obtain ⟨different, later⟩ := not_or.mp (mt List.mem_cons.mpr outside)
        rw [kept other later, get_set h set, if_neg different]

end RecordPipeline.Record
