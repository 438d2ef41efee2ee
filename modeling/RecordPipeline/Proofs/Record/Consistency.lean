import Mathlib.Data.List.Nodup
import RecordPipeline.Proofs.Record.FieldEnds
import RecordPipeline.Proofs.Record.View

/-!
How the tables of a record belong together. Every slot in use names the one value of its field, the
largest replaced index is the cached one, and the offsets are those of the line; each call keeps all
of it, also a call that is refused.
-/

namespace RecordPipeline

namespace Record

/-- The table of slots, the values and the largest replaced index describe one overlay. -/
structure OverlayConsistent (r : Record) : Prop where
  modified_length : r.modified.length ≤ min overlayLimit r.layout.maxFields
  modified_nodup : r.modified.Nodup
  slots_length : r.slots = [] ∨ r.slots.length = r.layout.maxFields
  /-- A slot counts from one and is in use for the one field whose value it holds. -/
  slot_iff : ∀ index k, r.slot index = k + 1 ↔ r.modified[k]? = some index
  lastModified_mem : r.modified ≠ [] → r.lastModified ∈ r.modified
  le_lastModified : ∀ index ∈ r.modified, index ≤ r.lastModified

/-- The offsets and the line belong together: both are missing, or the offsets are those of the
fields of the line. -/
structure EndsConsistent (r : Record) : Prop where
  ends_length : r.ends.length ≤ r.layout.maxFields
  offsets : (r.ends = [] ∧ r.buffer = []) ∨
    (r.buffer ≠ [] ∧ r.ends = fieldEnds r.layout.separator r.buffer)

theorem length_modified (r : Record) : r.modified.length = r.values.length := List.length_map _

theorem getElem?_modified (r : Record) (k : Nat) :
    r.modified[k]? = r.values[k]?.map (·.1) := List.getElem?_map

theorem new_overlayConsistent (l : Layout) : (new l).OverlayConsistent where
  modified_length := Nat.zero_le _
  modified_nodup := List.nodup_nil
  slots_length := .inl rfl
  slot_iff := by simp [slot, new, modified, Table.keys]
  lastModified_mem := by simp [new, modified, Table.keys]
  le_lastModified := by simp [new, modified, Table.keys]

theorem new_endsConsistent (l : Layout) : (new l).EndsConsistent where
  ends_length := Nat.zero_le _
  offsets := .inl ⟨rfl, rfl⟩

namespace OverlayConsistent

variable {r : Record}

/-- A field without a slot is not replaced, and the other way round. -/
theorem slot_eq_zero_iff (h : r.OverlayConsistent) (index : Nat) :
    r.slot index = 0 ↔ index ∉ r.modified := by
  constructor
  · intro zero member
    obtain ⟨k, hk⟩ := List.mem_iff_getElem?.mp member
    have hslot := (h.slot_iff index k).mpr hk
    omega
  · intro absent
    cases hslot : r.slot index with
    | zero => rfl
    | succ k => exact absurd (List.mem_of_getElem? ((h.slot_iff index k).mp hslot)) absent

/-- A replaced field is one of the layout, and the table of slots has a place for it. -/
theorem lt_slots_length (h : r.OverlayConsistent) {index : Nat} (member : index ∈ r.modified) :
    index < r.slots.length := by
  by_contra outside
  have hzero : r.slot index = 0 := by
    simp [slot, List.getD_eq_getElem?_getD, List.getElem?_eq_none (Nat.le_of_not_lt outside)]
  exact (h.slot_eq_zero_iff index).mp hzero member

theorem lt_maxFields (h : r.OverlayConsistent) {index : Nat} (member : index ∈ r.modified) :
    index < r.layout.maxFields := by
  have hlt := h.lt_slots_length member
  rcases h.slots_length with empty | full
  · rw [empty] at hlt
    exact absurd hlt (Nat.not_lt_zero index)
  · omega

end OverlayConsistent

section Clear

/-- Taking slots back leaves none in use that belongs to one of the fields, and no other changes. -/
theorem getD_foldl_set_zero (values : List (Nat × Bytes)) (slots : List UInt8) (index : Nat) :
    (values.foldl (fun slots entry => slots.set entry.1 0) slots).getD index 0 =
      if index ∈ Table.keys values then 0 else slots.getD index 0 := by
  induction values generalizing slots with
  | nil => simp [Table.keys]
  | cons entry rest ih =>
      rw [List.foldl_cons, ih]
      by_cases hrest : index ∈ Table.keys rest
      · have hall : index ∈ Table.keys (entry :: rest) := List.mem_cons_of_mem _ hrest
        rw [if_pos hrest, if_pos hall]
      · by_cases hfirst : index = entry.1
        · subst hfirst
          have hall : entry.1 ∈ Table.keys (entry :: rest) := List.mem_cons_self
          rw [if_neg hrest, if_pos hall]
          by_cases hlt : entry.1 < slots.length <;>
            simp [List.getD_eq_getElem?_getD, hlt]
        · have hall : index ∉ Table.keys (entry :: rest) := by
            intro member
            rcases List.mem_cons.mp member with same | later
            · exact hfirst same
            · exact hrest later
          rw [if_neg hrest, if_neg hall]
          simp [List.getD_eq_getElem?_getD, List.getElem?_set_ne (Ne.symm hfirst)]

theorem length_foldl_set_zero (values : List (Nat × Bytes)) (slots : List UInt8) :
    (values.foldl (fun slots entry => slots.set entry.1 0) slots).length = slots.length := by
  induction values generalizing slots with
  | nil => rfl
  | cons entry rest ih => rw [List.foldl_cons, ih, List.length_set]

/-- A cleared record has no slot in use. -/
theorem slot_clear {r : Record} (h : r.OverlayConsistent) (index : Nat) :
    r.clear.slot index = 0 := by
  have hslots : r.clear.slot index =
      (if index ∈ r.modified then 0 else r.slots.getD index 0).toNat :=
    congrArg UInt8.toNat (getD_foldl_set_zero r.values r.slots index)
  rw [hslots]
  by_cases member : index ∈ r.modified
  · rw [if_pos member]
    rfl
  · rw [if_neg member]
    exact (h.slot_eq_zero_iff index).mpr member

theorem clear_overlayConsistent {r : Record} (h : r.OverlayConsistent) :
    r.clear.OverlayConsistent where
  modified_length := Nat.zero_le _
  modified_nodup := List.nodup_nil
  slots_length := by
    have hlength : r.clear.slots.length = r.slots.length := length_foldl_set_zero r.values r.slots
    rcases h.slots_length with empty | full
    · left
      rw [empty] at hlength
      exact List.eq_nil_of_length_eq_zero hlength
    · right
      exact hlength.trans full
  slot_iff := by
    intro index k
    rw [slot_clear h]
    simp [clear, modified, Table.keys]
  lastModified_mem := by
    intro used
    exact absurd rfl used
  le_lastModified := by
    intro index member
    exact absurd member List.not_mem_nil

theorem clear_endsConsistent (r : Record) : r.clear.EndsConsistent where
  ends_length := Nat.zero_le _
  offsets := .inl ⟨rfl, rfl⟩

end Clear

section Set

theorem set_of_outside {r : Record} {index : Nat} (outside : r.layout.maxFields ≤ index)
    (value : Bytes) :
    r.set index value = .error (.fieldOutOfRange index r.layout.maxFields) := if_pos outside

theorem set_of_slot {r : Record} {index k : Nat} (inside : index < r.layout.maxFields)
    (hslot : r.slot index = k + 1) (value : Bytes) :
    r.set index value = .ok { r with values := r.values.set k (index, value) } := by
  rw [set, if_neg (Nat.not_le_of_lt inside), hslot]

theorem set_of_full {r : Record} {index : Nat} (inside : index < r.layout.maxFields)
    (hslot : r.slot index = 0) (full : overlayLimit ≤ r.values.length) (value : Bytes) :
    r.set index value = .error (.overlayFull overlayLimit) := by
  rw [set, if_neg (Nat.not_le_of_lt inside), hslot]
  exact if_pos full

theorem set_of_room {r : Record} {index : Nat} (inside : index < r.layout.maxFields)
    (hslot : r.slot index = 0) (room : r.values.length < overlayLimit) (value : Bytes) :
    r.set index value = .ok (r.takeSlot index value) := by
  rw [set, if_neg (Nat.not_le_of_lt inside), hslot]
  exact if_neg (Nat.not_le_of_lt room)

/-- Whether a field can be replaced does not depend on the value: it is refused for all values, or
for none. -/
theorem set_uniform (r : Record) (index : Nat) :
    (∃ e, ∀ value, r.set index value = .error e) ∨
      ∀ value, ∃ changed, r.set index value = .ok changed := by
  by_cases inside : index < r.layout.maxFields
  · cases hslot : r.slot index with
    | succ k => exact .inr fun value => ⟨_, set_of_slot inside hslot value⟩
    | zero =>
        by_cases room : r.values.length < overlayLimit
        · exact .inr fun value => ⟨_, set_of_room inside hslot room value⟩
        · exact .inl ⟨_, set_of_full inside hslot (Nat.le_of_not_lt room)⟩
  · exact .inl ⟨_, set_of_outside (Nat.le_of_not_lt inside)⟩

/-- A copy takes a value as its record does. -/
theorem set_duplicate (r : Record) (index : Nat) (value : Bytes) :
    r.duplicate.set index value = (r.set index value).map duplicate := by
  by_cases inside : index < r.layout.maxFields
  · have inside' : index < r.duplicate.layout.maxFields := inside
    cases hslot : r.slot index with
    | succ k =>
        have hslot' : r.duplicate.slot index = k + 1 := hslot
        rw [set_of_slot inside hslot, set_of_slot inside' hslot']
        rfl
    | zero =>
        have hslot' : r.duplicate.slot index = 0 := hslot
        by_cases room : r.values.length < overlayLimit
        · have room' : r.duplicate.values.length < overlayLimit := room
          rw [set_of_room inside hslot room, set_of_room inside' hslot' room']
          rfl
        · have full := Nat.le_of_not_lt room
          have full' : overlayLimit ≤ r.duplicate.values.length := full
          rw [set_of_full inside hslot full, set_of_full inside' hslot' full']
          rfl
  · have outside := Nat.le_of_not_lt inside
    have outside' : r.duplicate.layout.maxFields ≤ index := outside
    rw [set_of_outside outside, set_of_outside outside']
    rfl

/-- What a call that replaces a field does when it is accepted: it puts the value into the slot of
the field, or takes the next slot. -/
theorem set_cases {r changed : Record} {index : Nat} {value : Bytes}
    (h : r.set index value = .ok changed) :
    index < r.layout.maxFields ∧
      ((∃ k, r.slot index = k + 1 ∧ changed = { r with values := r.values.set k (index, value) }) ∨
        (r.slot index = 0 ∧ r.values.length < overlayLimit ∧
          changed = r.takeSlot index value)) := by
  by_cases inside : index < r.layout.maxFields
  · refine ⟨inside, ?_⟩
    cases hslot : r.slot index with
    | succ k =>
        rw [set_of_slot inside hslot] at h
        exact .inl ⟨k, rfl, (Except.ok.inj h).symm⟩
    | zero =>
        by_cases room : r.values.length < overlayLimit
        · rw [set_of_room inside hslot room] at h
          exact .inr ⟨rfl, room, (Except.ok.inj h).symm⟩
        · rw [set_of_full inside hslot (Nat.le_of_not_lt room)] at h
          cases h
  · rw [set_of_outside (Nat.le_of_not_lt inside)] at h
    cases h

/-- A new value in a slot leaves every field in its slot. -/
theorem modified_reuse {r : Record} {index k : Nat} {value : Bytes}
    (h : r.modified[k]? = some index) :
    Table.keys (r.values.set k (index, value)) = r.modified := by
  have hmap : Table.keys (r.values.set k (index, value)) = r.modified.set k index := List.map_set
  rw [hmap]
  apply List.ext_getElem?
  intro j
  by_cases same : k = j
  · subst same
    rw [List.getElem?_set_self (List.getElem?_eq_some_iff.mp h).1, h]
  · rw [List.getElem?_set_ne same]

theorem reuse_overlayConsistent {r : Record} (h : r.OverlayConsistent) {index k : Nat}
    {value : Bytes} (hk : r.modified[k]? = some index) :
    ({ r with values := r.values.set k (index, value) } : Record).OverlayConsistent := by
  have hsame : ({ r with values := r.values.set k (index, value) } : Record).modified =
      r.modified := modified_reuse hk
  constructor
  · rw [hsame]
    exact h.modified_length
  · rw [hsame]
    exact h.modified_nodup
  · exact h.slots_length
  · rw [hsame]
    exact h.slot_iff
  · rw [hsame]
    exact h.lastModified_mem
  · rw [hsame]
    exact h.le_lastModified

/-- Making the table of slots takes none of them into use. -/
theorem getD_allocated (slots : List UInt8) (size index : Nat) :
    (if slots = [] then List.replicate size 0 else slots).getD index 0 = slots.getD index 0 := by
  by_cases empty : slots = []
  · rw [if_pos empty, empty]
    by_cases hlt : index < size <;> simp [List.getD_eq_getElem?_getD, hlt]
  · rw [if_neg empty]

theorem length_allocated {slots : List UInt8} {size : Nat}
    (h : slots = [] ∨ slots.length = size) :
    (if slots = [] then List.replicate size 0 else slots).length = size := by
  by_cases empty : slots = []
  · rw [if_pos empty, List.length_replicate]
  · rw [if_neg empty]
    exact h.resolve_left empty

variable {r : Record} {index : Nat} {value : Bytes}

theorem modified_takeSlot : (r.takeSlot index value).modified = r.modified ++ [index] :=
  List.map_append

/-- The new slot is at most the 255th, so its count fits a byte. -/
theorem slot_takeSlot_self (h : r.OverlayConsistent) (inside : index < r.layout.maxFields)
    (room : r.values.length < overlayLimit) :
    (r.takeSlot index value).slot index = r.modified.length + 1 := by
  have hlength := length_allocated h.slots_length
  have hbyte : r.values.length + 1 < UInt8.size := by
    have hlimit : overlayLimit + 1 = UInt8.size := rfl
    omega
  rw [slot, takeSlot, List.getD_eq_getElem?_getD, List.getElem?_set_self (by omega),
    length_modified]
  exact UInt8.toNat_ofNat_of_lt hbyte

theorem slot_takeSlot_of_ne {other : Nat} (h : other ≠ index) :
    (r.takeSlot index value).slot other = r.slot other := by
  rw [slot, takeSlot, List.getD_eq_getElem?_getD, List.getElem?_set_ne (Ne.symm h),
    ← List.getD_eq_getElem?_getD, getD_allocated]
  rfl

/-- Behind other elements only the position of the last one holds it. -/
theorem getElem?_concat_iff {indices : List Nat} {index : Nat} (absent : index ∉ indices)
    (k : Nat) : (indices ++ [index])[k]? = some index ↔ k = indices.length := by
  constructor
  · intro hk
    rcases Nat.lt_trichotomy k indices.length with before | last | beyond
    · rw [List.getElem?_append_left before] at hk
      exact absurd (List.mem_of_getElem? hk) absent
    · exact last
    · rw [List.getElem?_eq_none (by simp; omega)] at hk
      cases hk
  · intro hk
    rw [hk, List.getElem?_concat_length]

theorem getElem?_concat_of_ne {indices : List Nat} {index other : Nat} (h : other ≠ index)
    (k : Nat) : (indices ++ [index])[k]? = some other ↔ indices[k]? = some other := by
  by_cases before : k < indices.length
  · rw [List.getElem?_append_left before]
  · rw [List.getElem?_append_right (Nat.le_of_not_lt before),
      List.getElem?_eq_none (Nat.le_of_not_lt before)]
    constructor
    · intro hk
      exact absurd (List.mem_singleton.mp (List.mem_of_getElem? hk)) h
    · intro hk
      cases hk

theorem slot_takeSlot_iff (h : r.OverlayConsistent) (inside : index < r.layout.maxFields)
    (hslot : r.slot index = 0) (room : r.values.length < overlayLimit) (other k : Nat) :
    (r.takeSlot index value).slot other = k + 1 ↔
      (r.takeSlot index value).modified[k]? = some other := by
  rw [modified_takeSlot]
  by_cases same : other = index
  · subst same
    rw [slot_takeSlot_self h inside room,
      getElem?_concat_iff ((h.slot_eq_zero_iff other).mp hslot)]
    omega
  · rw [slot_takeSlot_of_ne same, h.slot_iff, getElem?_concat_of_ne same]

/-- The cached index is the old one or the new one, whichever is larger. -/
theorem lastModified_takeSlot (h : r.OverlayConsistent) :
    (r.takeSlot index value).lastModified ∈ r.modified ++ [index] ∧
      ∀ other ∈ r.modified ++ [index], other ≤ (r.takeSlot index value).lastModified := by
  by_cases larger : r.values = [] ∨ r.lastModified < index
  · have hlast : (r.takeSlot index value).lastModified = index := if_pos larger
    rw [hlast]
    refine ⟨List.mem_append_right _ (List.mem_singleton_self index), ?_⟩
    intro other member
    rcases List.mem_append.mp member with before | last
    · rcases larger with none | less
      · rw [modified, none] at before
        exact absurd before List.not_mem_nil
      · exact Nat.le_of_lt (Nat.lt_of_le_of_lt (h.le_lastModified other before) less)
    · exact Nat.le_of_eq (List.mem_singleton.mp last)
  · have hlast : (r.takeSlot index value).lastModified = r.lastModified := if_neg larger
    obtain ⟨used, notLess⟩ := not_or.mp larger
    have hused : r.modified ≠ [] := by
      intro none
      exact used (List.map_eq_nil_iff.mp none)
    rw [hlast]
    refine ⟨List.mem_append_left _ (h.lastModified_mem hused), ?_⟩
    intro other member
    rcases List.mem_append.mp member with before | last
    · exact h.le_lastModified other before
    · rw [List.mem_singleton.mp last]
      exact Nat.le_of_not_lt notLess

/-- Distinct indices below a bound are at most as many as the bound. -/
theorem length_le_of_nodup_of_lt {indices : List Nat} {bound : Nat} (hn : indices.Nodup)
    (hlt : ∀ index ∈ indices, index < bound) : indices.length ≤ bound := by
  have hsub : indices ⊆ List.range bound := by
    intro index member
    exact List.mem_range.mpr (hlt index member)
  have hle := List.Nodup.length_le_of_subset hn hsub
  rwa [List.length_range] at hle

theorem takeSlot_overlayConsistent (h : r.OverlayConsistent) (inside : index < r.layout.maxFields)
    (hslot : r.slot index = 0) (room : r.values.length < overlayLimit) :
    (r.takeSlot index value).OverlayConsistent := by
  have absent : index ∉ r.modified := (h.slot_eq_zero_iff index).mp hslot
  have hnodup : (r.modified ++ [index]).Nodup := by
    rw [List.nodup_append]
    refine ⟨h.modified_nodup, List.nodup_singleton index, ?_⟩
    intro a member b last same
    rw [List.mem_singleton] at last
    exact absent (last ▸ same ▸ member)
  constructor
  · have hfields : (r.modified ++ [index]).length ≤ r.layout.maxFields := by
      apply length_le_of_nodup_of_lt hnodup
      intro other member
      rcases List.mem_append.mp member with before | last
      · exact h.lt_maxFields before
      · exact List.mem_singleton.mp last ▸ inside
    have hcount : (r.modified ++ [index]).length ≤ overlayLimit := by
      rw [List.length_append, length_modified]
      exact room
    rw [modified_takeSlot]
    exact Nat.le_min.mpr ⟨hcount, hfields⟩
  · rw [modified_takeSlot]
    exact hnodup
  · right
    rw [takeSlot, List.length_set]
    exact length_allocated h.slots_length
  · exact slot_takeSlot_iff h inside hslot room
  · intro _
    rw [modified_takeSlot]
    exact (lastModified_takeSlot h).1
  · rw [modified_takeSlot]
    exact (lastModified_takeSlot h).2

theorem set_overlayConsistent {changed : Record} (h : r.OverlayConsistent)
    (hset : r.set index value = .ok changed) : changed.OverlayConsistent := by
  obtain ⟨inside, ⟨k, hslot, rfl⟩ | ⟨hslot, room, rfl⟩⟩ := set_cases hset
  · exact reuse_overlayConsistent h ((h.slot_iff index k).mp hslot)
  · exact takeSlot_overlayConsistent h inside hslot room

end Set

section Calls

variable {r : Record}

/-- The overlay does not look at the line, its metadata or the cache. -/
theorem OverlayConsistent.withLine (h : r.OverlayConsistent) (ends : List Nat) (buffer : Bytes)
    (metadata : Option Metadata) (cache : Cache) :
    ({ r with ends, buffer, metadata, cache } : Record).OverlayConsistent :=
  ⟨h.modified_length, h.modified_nodup, h.slots_length, h.slot_iff, h.lastModified_mem,
    h.le_lastModified⟩

/-- A line is refused when it is empty or has as many separators as the layout has fields. -/
theorem parse_eq (r : Record) (line : Bytes) (metadata : Option Metadata) :
    r.parse line metadata =
      if line = [] then (r.clear, .error .empty)
      else if line.count r.layout.separator < r.layout.maxFields then
        ({ r.clear with
          ends := fieldEnds r.layout.separator line, buffer := line, metadata }, .ok ())
      else (r.clear, .error (.tooManyFields r.layout.maxFields)) := by
  have hlength : (fieldEnds r.layout.separator line).length =
      line.count r.layout.separator + 1 := by
    rw [length_fieldEnds, Bytes.length_splitOn]
  unfold parse
  by_cases empty : line = []
  · rw [if_pos empty, if_pos empty]
  · rw [if_neg empty, if_neg empty]
    by_cases fits : line.count r.layout.separator < r.layout.maxFields
    · rw [if_pos fits]
      exact if_neg (by omega)
    · rw [if_neg fits]
      exact if_pos (by omega)

theorem perform_layout (r : Record) (call : RecordCall) : (r.perform call).1.layout = r.layout := by
  cases call with
  | parse line metadata =>
      rw [perform, parse_eq]
      split
      · rfl
      · split <;> rfl
  | set index value =>
      rw [perform]
      cases hset : r.set index value with
      | error e => rfl
      | ok changed =>
          obtain ⟨_, ⟨k, _, rfl⟩ | ⟨_, _, rfl⟩⟩ := set_cases hset
          · rfl
          · rfl
  | clear => rfl
  | duplicate => rfl
  | remember cache => rfl

theorem perform_overlayConsistent (h : r.OverlayConsistent) (call : RecordCall) :
    (r.perform call).1.OverlayConsistent := by
  cases call with
  | parse line metadata =>
      have hclear := clear_overlayConsistent h
      rw [perform, parse_eq]
      split
      · exact hclear
      · split
        · exact hclear.withLine _ _ _ _
        · exact hclear
  | set index value =>
      rw [perform]
      cases hset : r.set index value with
      | error e => exact h
      | ok changed => exact set_overlayConsistent h hset
  | clear => exact clear_overlayConsistent h
  | duplicate => exact h.withLine _ _ _ _
  | remember cache => exact h.withLine _ _ _ _

theorem perform_endsConsistent (h : r.EndsConsistent) (call : RecordCall) :
    (r.perform call).1.EndsConsistent := by
  cases call with
  | parse line metadata =>
      rw [perform, parse_eq]
      split
      · exact clear_endsConsistent r
      · rename_i used
        split
        · rename_i fits
          constructor
          · have hlength := length_fieldEnds r.layout.separator line
            rw [Bytes.length_splitOn] at hlength
            change (fieldEnds r.layout.separator line).length ≤ r.layout.maxFields
            omega
          · exact .inr ⟨used, rfl⟩
        · exact clear_endsConsistent r
  | set index value =>
      rw [perform]
      cases hset : r.set index value with
      | error e => exact h
      | ok changed =>
          obtain ⟨_, ⟨k, _, rfl⟩ | ⟨_, _, rfl⟩⟩ := set_cases hset
          · exact ⟨h.ends_length, h.offsets⟩
          · exact ⟨h.ends_length, h.offsets⟩
  | clear => exact clear_endsConsistent r
  | duplicate => exact ⟨h.ends_length, h.offsets⟩
  | remember cache => exact ⟨h.ends_length, h.offsets⟩

theorem performAll_cons (r : Record) (call : RecordCall) (calls : List RecordCall) :
    r.performAll (call :: calls) =
      (((r.perform call).1.performAll calls).1,
        (r.perform call).2 :: ((r.perform call).1.performAll calls).2) := rfl

theorem performAll_layout (r : Record) (calls : List RecordCall) :
    (r.performAll calls).1.layout = r.layout := by
  induction calls generalizing r with
  | nil => rfl
  | cons call calls ih => rw [performAll_cons, ih, perform_layout]

theorem performAll_overlayConsistent (h : r.OverlayConsistent) (calls : List RecordCall) :
    (r.performAll calls).1.OverlayConsistent := by
  induction calls generalizing r with
  | nil => exact h
  | cons call calls ih => exact ih (perform_overlayConsistent h call)

theorem performAll_endsConsistent (h : r.EndsConsistent) (calls : List RecordCall) :
    (r.performAll calls).1.EndsConsistent := by
  induction calls generalizing r with
  | nil => exact h
  | cons call calls ih => exact ih (perform_endsConsistent h call)

end Calls

section Reached

variable (l : Layout) (calls : List RecordCall)

theorem reached_layout : (reached l calls).layout = l := performAll_layout (new l) calls

theorem reached_overlayConsistent : (reached l calls).OverlayConsistent :=
  performAll_overlayConsistent (new_overlayConsistent l) calls

theorem reached_endsConsistent : (reached l calls).EndsConsistent :=
  performAll_endsConsistent (new_endsConsistent l) calls

end Reached

end Record

end RecordPipeline
