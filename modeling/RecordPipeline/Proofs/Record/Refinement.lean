import RecordPipeline.Proofs.Record.Consistency

/-!
A record shows its view. Each call on a record has the answer that its view gives and leaves a
record that shows the view after the call, so after any calls every field reads as the view says,
and every look-up in a table of the record finds what it looks for.
-/

namespace RecordPipeline

namespace Record

/-- The record holds the line, the metadata and the replaced values of a view. -/
structure Shows (r : Record) (v : RecordView) : Prop where
  fields : v.fields = if r.ends = [] then [] else Bytes.splitOn r.layout.separator r.buffer
  metadata : v.metadata = r.metadata
  replaced : v.replaced = r.values

/-- Every place at which a call looks into a table of the record exists. -/
structure InBounds (r : Record) : Prop where
  /-- A slot in use is one of a value: reading a field, and replacing it again. -/
  value_of_slot : ∀ index k, r.slot index = k + 1 → k < r.values.length
  /-- A parsed field has an end before it, unless it is the first, and lies within the line. -/
  slice_of_end : ∀ index stop, r.ends[index]? = some stop →
    index - 1 < r.ends.length ∧ r.startOf index ≤ stop ∧ stop ≤ r.buffer.length
  /-- A field of the layout has a place in the table of slots, once that is made. -/
  place_of_index : ∀ index, index < r.layout.maxFields →
    index < (if r.slots = [] then List.replicate r.layout.maxFields 0 else r.slots).length
  /-- The slot of a replaced field can be taken back. -/
  place_of_modified : ∀ index ∈ r.modified, index < r.slots.length

/-- What is known of the tables of a record: the overlay is consistent, and the offsets are missing
or rise, each but the last at a separator and the last at the end of the line. -/
structure Consistent (r : Record) : Prop extends OverlayConsistent r where
  ends_spec : r.ends = [] ∨ (r.ends.Pairwise (· < ·) ∧ r.ends.getLast? = some r.buffer.length ∧
    ∀ offset ∈ r.ends.dropLast, r.buffer[offset]? = some r.layout.separator)

theorem consistent_of {r : Record} (ho : r.OverlayConsistent) (he : r.EndsConsistent) :
    r.Consistent where
  toOverlayConsistent := ho
  ends_spec := by
    rcases he.offsets with ⟨none, _⟩ | ⟨_, hends⟩
    · exact .inl none
    · right
      rw [hends]
      refine ⟨fieldEnds_pairwise _ _, fieldEnds_getLast? _ _, ?_⟩
      intro offset member
      rw [fieldEnds_dropLast] at member
      exact getElem?_of_mem_separatorOffsets member

theorem inBounds_of {r : Record} (ho : r.OverlayConsistent) (he : r.EndsConsistent) :
    r.InBounds where
  value_of_slot := by
    intro index k hslot
    have hk := (List.getElem?_eq_some_iff.mp ((ho.slot_iff index k).mp hslot)).1
    rwa [length_modified] at hk
  slice_of_end := by
    intro index stop hstop
    have hindex := (List.getElem?_eq_some_iff.mp hstop).1
    refine ⟨by omega, ?_⟩
    rw [startOf_eq]
    rcases he.offsets with ⟨none, _⟩ | ⟨_, hends⟩
    · rw [none] at hstop
      cases hstop
    · rw [hends] at hstop ⊢
      exact startIn_le_fieldEnds hstop
  place_of_index := by
    intro index inside
    rw [length_allocated ho.slots_length]
    exact inside
  place_of_modified := by
    intro index member
    exact ho.lt_slots_length member

/-- The offsets are missing exactly when there is no line. -/
theorem original_eq {r : Record} (he : r.EndsConsistent) (index : Nat) :
    r.original index =
      (if r.ends = [] then [] else Bytes.splitOn r.layout.separator r.buffer).getD index [] := by
  rcases he.offsets with ⟨none, _⟩ | ⟨_, hends⟩
  · simp [original, none]
  · have hsome : r.ends ≠ [] := by
      rw [hends]
      simp [fieldEnds]
    rw [if_neg hsome, original, startOf_eq, List.getD_eq_getElem?_getD]
    cases hpiece : (Bytes.splitOn r.layout.separator r.buffer)[index]? with
    | none =>
        have hstop : r.ends[index]? = none := by
          rw [hends, fieldEnds_getElem?, hpiece]
          rfl
        rw [hstop]
        rfl
    | some piece =>
        obtain ⟨stop, hstop⟩ : ∃ stop, r.ends[index]? = some stop := by
          rw [hends, fieldEnds_getElem?, hpiece]
          exact ⟨_, rfl⟩
        rw [hstop, hends]
        rw [hends] at hstop
        exact slice_startIn hpiece hstop

/-- The value in the slot of a field is what the overlay holds for the field. -/
theorem get?_values_of_slot {r : Record} (ho : r.OverlayConsistent) {index k : Nat}
    (hslot : r.slot index = k + 1) :
    Table.get? index r.values = some (r.values.getD k (0, [])).2 := by
  have hk := (ho.slot_iff index k).mp hslot
  rw [getElem?_modified] at hk
  obtain ⟨⟨key, value⟩, hentry, rfl⟩ := Option.map_eq_some_iff.mp hk
  rw [Table.get?_of_getElem? ho.modified_nodup hentry, List.getD_eq_getElem?_getD, hentry]
  rfl

theorem get?_values_eq_none_iff {r : Record} (ho : r.OverlayConsistent) (index : Nat) :
    Table.get? index r.values = none ↔ r.slot index = 0 := by
  rw [Table.get?_eq_none_iff]
  exact (ho.slot_eq_zero_iff index).symm

/-- A field of the record reads as the view says. -/
theorem Shows.get_eq {r : Record} {v : RecordView} (h : r.Shows v) (ho : r.OverlayConsistent)
    (he : r.EndsConsistent) (index : Nat) : r.get index = v.get index := by
  unfold get RecordView.get
  rw [h.replaced, h.fields]
  cases hslot : r.slot index with
  | zero =>
      rw [(get?_values_eq_none_iff ho index).mpr hslot]
      exact original_eq he index
  | succ k => rw [get?_values_of_slot ho hslot]

theorem new_shows (l : Layout) : (new l).Shows {} where
  fields := rfl
  metadata := rfl
  replaced := rfl

theorem clear_shows (r : Record) : r.clear.Shows {} where
  fields := rfl
  metadata := rfl
  replaced := rfl

theorem parse_shows (r : Record) (line : Bytes) (metadata : Option Metadata) :
    (r.parse line metadata).1.Shows (RecordView.parse r.layout line metadata).1 ∧
      (r.parse line metadata).2 = (RecordView.parse r.layout line metadata).2 := by
  rw [parse_eq]
  unfold RecordView.parse
  split
  · exact ⟨clear_shows r, rfl⟩
  · split
    · refine ⟨⟨?_, rfl, rfl⟩, rfl⟩
      have hends : fieldEnds r.layout.separator line ≠ [] := by simp [fieldEnds]
      exact (if_neg hends).symm
    · exact ⟨clear_shows r, rfl⟩

/-- Replacing a field is putting its value into the overlay of the view. -/
theorem set_shows {r : Record} {v : RecordView} (h : r.Shows v) (ho : r.OverlayConsistent)
    (index : Nat) (value : Bytes) :
    (r.perform (.set index value)).1.Shows (v.set r.layout index value).1 ∧
      (r.perform (.set index value)).2 = (v.set r.layout index value).2 := by
  rw [perform, RecordView.set, h.replaced]
  by_cases inside : index < r.layout.maxFields
  · rw [if_neg (Nat.not_le_of_lt inside)]
    cases hslot : r.slot index with
    | zero =>
        have hnone := (get?_values_eq_none_iff ho index).mpr hslot
        by_cases room : r.values.length < overlayLimit
        · have hroom : ¬ (Table.get? index r.values = none ∧ overlayLimit ≤ r.values.length) :=
            fun both => Nat.not_le_of_lt room both.2
          rw [set_of_room inside hslot room, if_neg hroom]
          exact ⟨⟨h.fields, h.metadata, Table.put_of_get?_eq_none hnone value⟩, rfl⟩
        · have full := Nat.le_of_not_lt room
          rw [set_of_full inside hslot full, if_pos ⟨hnone, full⟩]
          exact ⟨h, rfl⟩
    | succ k =>
        have hsome := get?_values_of_slot ho hslot
        have hroom : ¬ (Table.get? index r.values = none ∧ overlayLimit ≤ r.values.length) := by
          rw [hsome]
          exact fun both => Option.some_ne_none _ both.1
        have hk := (ho.slot_iff index k).mp hslot
        rw [getElem?_modified] at hk
        obtain ⟨⟨key, old⟩, hentry, rfl⟩ := Option.map_eq_some_iff.mp hk
        rw [set_of_slot inside hslot, if_neg hroom]
        exact ⟨⟨h.fields, h.metadata, Table.put_eq_set ho.modified_nodup hentry value⟩, rfl⟩
  · have outside := Nat.le_of_not_lt inside
    rw [set_of_outside outside, if_pos outside]
    exact ⟨h, rfl⟩

/-- One call: the same answer, and a record that shows the view after the call. -/
theorem perform_shows {r : Record} {v : RecordView} (h : r.Shows v) (ho : r.OverlayConsistent)
    (call : RecordCall) :
    (r.perform call).1.Shows (v.perform r.layout call).1 ∧
      (r.perform call).2 = (v.perform r.layout call).2 := by
  cases call with
  | parse line metadata => exact parse_shows r line metadata
  | set index value => exact set_shows h ho index value
  | clear => exact ⟨clear_shows r, rfl⟩
  | duplicate => exact ⟨⟨h.fields, h.metadata, h.replaced⟩, rfl⟩
  | remember cache => exact ⟨⟨h.fields, h.metadata, h.replaced⟩, rfl⟩

theorem performAll_shows {r : Record} {v : RecordView} (h : r.Shows v) (ho : r.OverlayConsistent)
    (calls : List RecordCall) :
    (r.performAll calls).1.Shows (v.performAll r.layout calls).1 ∧
      (r.performAll calls).2 = (v.performAll r.layout calls).2 := by
  induction calls generalizing r v with
  | nil => exact ⟨h, rfl⟩
  | cons call calls ih =>
      obtain ⟨hshows, hanswer⟩ := perform_shows h ho call
      have hrec := ih hshows (perform_overlayConsistent ho call)
      rw [perform_layout] at hrec
      refine ⟨hrec.1, ?_⟩
      rw [performAll_cons]
      exact congrArg₂ List.cons hanswer hrec.2

/-- The answer to a line. -/
theorem parse_ok_iff (r : Record) (line : Bytes) (metadata : Option Metadata) :
    (r.parse line metadata).2 = .ok () ↔
      line ≠ [] ∧ line.count r.layout.separator < r.layout.maxFields := by
  rw [parse_eq]
  by_cases empty : line = []
  · simp [empty]
  · by_cases fits : line.count r.layout.separator < r.layout.maxFields <;> simp [empty, fits]

/-- A field can be replaced when the layout has it and it has a slot or one is left. -/
theorem set_ok_iff {r : Record} (ho : r.OverlayConsistent) (index : Nat) (value : Bytes) :
    (∃ changed, r.set index value = .ok changed) ↔
      index < r.layout.maxFields ∧ (index ∈ r.modified ∨ r.modified.length < overlayLimit) := by
  constructor
  · rintro ⟨changed, hset⟩
    obtain ⟨inside, ⟨k, hslot, _⟩ | ⟨_, room, _⟩⟩ := set_cases hset
    · exact ⟨inside, .inl (List.mem_of_getElem? ((ho.slot_iff index k).mp hslot))⟩
    · exact ⟨inside, .inr (by rwa [length_modified])⟩
  · rintro ⟨inside, place⟩
    cases hslot : r.slot index with
    | succ k => exact ⟨_, set_of_slot inside hslot value⟩
    | zero =>
        have room : r.values.length < overlayLimit := by
          rw [← length_modified]
          exact place.resolve_left ((ho.slot_eq_zero_iff index).mp hslot)
        exact ⟨_, set_of_room inside hslot room value⟩

/-- After any calls on a new record its tables are consistent and every look-up finds its place. The
record shows what the same calls make of the empty view, every answer was that of the view, and
every field reads as the view says, in both ways of reading. A line is accepted exactly when it is
not empty and has fewer separators than the layout has fields, and a field is replaced exactly when
the layout has it and a slot is left for it. -/
theorem refines_view (l : Layout) (calls : List RecordCall) :
    let r := ((new l).performAll calls).1
    let v := (RecordView.performAll l {} calls).1
    r.Consistent ∧ r.InBounds ∧ r.Shows v ∧
      ((new l).performAll calls).2 = (RecordView.performAll l {} calls).2 ∧
      (∀ index, r.get index = v.get index ∧ r.getBytes index = v.get index ∧
        r.original index = v.fields.getD index []) ∧
      (∀ line metadata, (r.parse line metadata).2 = .ok () ↔
        line ≠ [] ∧ line.count l.separator < l.maxFields) ∧
      (∀ index value, (∃ changed, r.set index value = .ok changed) ↔
        index < l.maxFields ∧ (index ∈ r.modified ∨ r.modified.length < overlayLimit)) := by
  intro r v
  have ho : r.OverlayConsistent := reached_overlayConsistent l calls
  have he : r.EndsConsistent := reached_endsConsistent l calls
  have hlayout : r.layout = l := reached_layout l calls
  obtain ⟨hshows, hanswers⟩ := performAll_shows (new_shows l) (new_overlayConsistent l) calls
  refine ⟨consistent_of ho he, inBounds_of ho he, hshows, hanswers, ?_, ?_, ?_⟩
  · intro index
    have hget : r.get index = v.get index := hshows.get_eq ho he index
    refine ⟨hget, (getBytes_eq_get r index).trans hget, ?_⟩
    rw [original_eq he, ← hshows.fields]
    rfl
  · intro line metadata
    rw [← hlayout]
    exact parse_ok_iff r line metadata
  · intro index value
    rw [← hlayout]
    exact set_ok_iff ho index value

end Record

end RecordPipeline
