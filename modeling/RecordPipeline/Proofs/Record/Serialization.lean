import RecordPipeline.Proofs.Record.Refinement

/-!
What is written of a record. Whether the line is copied, rebuilt, or rebuilt up to the last replaced
field and copied behind it, the bytes are those of all fields joined by the separator.
-/

namespace RecordPipeline

namespace Record

/-- Writing fields one by one, each but the first behind a separator, joins them. -/
theorem foldl_write (sep : UInt8) (field : Nat → Bytes) (out : Array UInt8) (n : Nat) :
    ((List.range (n + 1)).foldl (fun (out : Array UInt8) index =>
      (if 0 < index then out.push sep else out) ++ field index) out).toList =
      out.toList ++ Bytes.joinWith [sep] ((List.range (n + 1)).map field) := by
  induction n with
  | zero => simp [Bytes.joinWith, List.range_succ, List.intercalate_singleton]
  | succ n ih =>
      have hfront : (List.range (n + 1)).map field ≠ [] := by simp [List.range_succ]
      have hback : [field (n + 1)] ≠ [] := List.cons_ne_nil _ _
      rw [List.range_succ, List.foldl_append, List.map_append, List.map_singleton,
        Bytes.joinWith_append hfront hback, List.foldl_cons, List.foldl_nil,
        if_pos (Nat.succ_pos n)]
      simp only [Array.toList_appendList, Array.toList_push, ih]
      simp [Bytes.joinWith, List.intercalate_singleton]

/-- Fields that read as pieces from some index on are those pieces from there on. -/
theorem map_range_eq_append_drop {pieces : List Bytes} {field : Nat → Bytes} {k : Nat}
    (hk : k ≤ pieces.length) (h : ∀ index, k ≤ index → field index = pieces.getD index []) :
    (List.range pieces.length).map field = (List.range k).map field ++ pieces.drop k := by
  apply List.ext_getElem?
  intro index
  by_cases before : index < k
  · have hlt : index < pieces.length := Nat.lt_of_lt_of_le before hk
    rw [List.getElem?_append_left (by simpa using before)]
    simp [before, hlt]
  · have hle := Nat.le_of_not_lt before
    rw [List.getElem?_append_right (by simpa using hle), List.length_map, List.length_range,
      List.getElem?_drop, Nat.add_sub_cancel' hle, List.getElem?_map]
    by_cases hlt : index < pieces.length
    · rw [List.getElem?_range hlt, Option.map_some, h index hle, List.getD_eq_getElem?_getD,
        List.getElem?_eq_getElem hlt, Option.getD_some]
    · rw [List.getElem?_eq_none (by simpa using Nat.le_of_not_lt hlt),
        List.getElem?_eq_none (Nat.le_of_not_lt hlt), Option.map_none]

section Width

theorem foldl_max_of_lt {indices : List Nat} {n : Nat} (h : ∀ index ∈ indices, index < n) :
    indices.foldl (fun n index => max n (index + 1)) n = n := by
  induction indices with
  | nil => rfl
  | cons index rest ih =>
      have hfirst : index < n := h index List.mem_cons_self
      rw [List.foldl_cons, Nat.max_eq_left hfirst]
      exact ih fun other member => h other (List.mem_cons_of_mem index member)

/-- The larger of a number and of one more than each index is the larger of the number and of one
more than the largest index. -/
theorem foldl_max_eq {indices : List Nat} {last : Nat} (hmem : last ∈ indices)
    (hle : ∀ index ∈ indices, index ≤ last) (n : Nat) :
    indices.foldl (fun n index => max n (index + 1)) n = max n (last + 1) := by
  induction indices generalizing n with
  | nil => exact absurd hmem List.not_mem_nil
  | cons index rest ih =>
      have hfirst : index ≤ last := hle index List.mem_cons_self
      have hrest : ∀ other ∈ rest, other ≤ last :=
        fun other member => hle other (List.mem_cons_of_mem index member)
      rw [List.foldl_cons]
      by_cases later : last ∈ rest
      · rw [ih later hrest]
        omega
      · have hsame : last = index := (List.mem_cons.mp hmem).resolve_right later
        subst hsame
        apply foldl_max_of_lt
        intro other member
        have hother := hrest other member
        omega

variable {r : Record}

theorem width_of_unmodified (h : r.values = []) : r.width = r.ends.length := by
  rw [width, modified, h]
  rfl

theorem width_of_modified (ho : r.OverlayConsistent) (h : r.values ≠ []) :
    r.width = max r.ends.length (r.lastModified + 1) := by
  have hused : r.modified ≠ [] := by
    intro none
    exact h (List.map_eq_nil_iff.mp none)
  exact foldl_max_eq (ho.lastModified_mem hused) ho.le_lastModified r.fieldCount

end Width

section Text

variable {r : Record}

/-- A parsed line is its fields, joined. -/
theorem buffer_eq_join (he : r.EndsConsistent) :
    r.buffer = Bytes.joinWith [r.layout.separator] ((List.range r.ends.length).map r.original) := by
  rcases he.offsets with ⟨none, empty⟩ | ⟨_, hends⟩
  · rw [none, empty]
    rfl
  · have hsome : r.ends ≠ [] := by
      rw [hends]
      simp [fieldEnds]
    have hlength : r.ends.length = (Bytes.splitOn r.layout.separator r.buffer).length := by
      rw [hends, length_fieldEnds]
    have hpieces : (List.range r.ends.length).map r.original =
        Bytes.splitOn r.layout.separator r.buffer := by
      rw [hlength, map_range_eq_append_drop (Nat.zero_le _)]
      · rfl
      · intro index _
        rw [original_eq he, if_neg hsome]
    rw [hpieces, Bytes.joinWith_splitOn]

/-- Behind the end of a field stand the fields that follow it, joined. -/
theorem drop_end_eq_join (he : r.EndsConsistent) {last : Nat} (h : last + 1 < r.ends.length) :
    r.buffer.drop (r.ends.getD last 0 + 1) = Bytes.joinWith [r.layout.separator]
      ((Bytes.splitOn r.layout.separator r.buffer).drop (last + 1)) := by
  rcases he.offsets with ⟨none, _⟩ | ⟨_, hends⟩
  · rw [none] at h
    exact absurd h (Nat.not_lt_zero _)
  · rw [hends, length_fieldEnds] at h
    rw [hends]
    exact drop_startIn h

/-- A record that holds a line has an end for every field of it. -/
theorem length_ends (he : r.EndsConsistent) (h : r.ends ≠ []) :
    r.ends.length = (Bytes.splitOn r.layout.separator r.buffer).length := by
  rcases he.offsets with ⟨none, _⟩ | ⟨_, hends⟩
  · exact absurd none h
  · rw [hends, length_fieldEnds]

/-- A field that is not replaced reads as it was parsed. -/
theorem get_of_not_mem_modified (ho : r.OverlayConsistent) {index : Nat}
    (absent : index ∉ r.modified) : r.get index = r.original index := by
  rw [get, (ho.slot_eq_zero_iff index).mpr absent]

/-- Behind the last replaced field every field reads as it was parsed. -/
theorem get_of_lastModified_lt (ho : r.OverlayConsistent) {index : Nat}
    (h : r.lastModified < index) : r.get index = r.original index := by
  apply get_of_not_mem_modified ho
  intro member
  exact Nat.not_le_of_lt h (ho.le_lastModified index member)

/-- What a modified record writes: the fields up to the last replaced one, and the rest of the
line. -/
theorem toList_appendText_of_modified (h : r.values ≠ []) (out : Array UInt8) :
    (r.appendText out).toList = out.toList ++
      (Bytes.joinWith [r.layout.separator] ((List.range (r.lastModified + 1)).map r.get) ++
        if r.lastModified + 1 < r.ends.length then
          r.layout.separator :: r.buffer.drop (r.ends.getD r.lastModified 0 + 1)
        else []) := by
  rw [appendText, if_neg h]
  have hwritten := foldl_write r.layout.separator r.get out r.lastModified
  by_cases more : r.lastModified + 1 < r.ends.length
  · simp only [if_pos more, Array.toList_appendList, Array.toList_push, hwritten]
    simp
  · simp only [if_neg more, hwritten, List.append_nil]

/-- The rebuilt fields and the copied rest are all fields of the record. -/
theorem join_get_of_modified (ho : r.OverlayConsistent) (he : r.EndsConsistent)
    (h : r.values ≠ []) :
    Bytes.joinWith [r.layout.separator] ((List.range (r.lastModified + 1)).map r.get) ++
        (if r.lastModified + 1 < r.ends.length then
          r.layout.separator :: r.buffer.drop (r.ends.getD r.lastModified 0 + 1)
        else []) =
      Bytes.joinWith [r.layout.separator] ((List.range r.width).map r.get) := by
  rw [width_of_modified ho h]
  by_cases more : r.lastModified + 1 < r.ends.length
  · have hsome : r.ends ≠ [] := List.ne_nil_of_length_pos (Nat.zero_lt_of_lt more)
    have hlength := length_ends he hsome
    have hfields : (List.range r.ends.length).map r.get =
        (List.range (r.lastModified + 1)).map r.get ++
          (Bytes.splitOn r.layout.separator r.buffer).drop (r.lastModified + 1) := by
      rw [hlength]
      apply map_range_eq_append_drop (by omega)
      intro index hindex
      rw [get_of_lastModified_lt ho hindex, original_eq he, if_neg hsome]
    have hfront : (List.range (r.lastModified + 1)).map r.get ≠ [] := by simp [List.range_succ]
    have hback : (Bytes.splitOn r.layout.separator r.buffer).drop (r.lastModified + 1) ≠ [] := by
      intro none
      rw [List.drop_eq_nil_iff] at none
      omega
    rw [if_pos more, Nat.max_eq_left (Nat.le_of_lt more), hfields,
      Bytes.joinWith_append hfront hback, drop_end_eq_join he more]
    simp
  · rw [if_neg more, List.append_nil, Nat.max_eq_right (Nat.le_of_not_lt more)]

/-- An unmodified record is all fields of its line. -/
theorem join_get_of_unmodified (ho : r.OverlayConsistent) (he : r.EndsConsistent)
    (h : r.values = []) :
    r.buffer = Bytes.joinWith [r.layout.separator] ((List.range r.width).map r.get) := by
  have hget : r.get = r.original := by
    funext index
    apply get_of_not_mem_modified ho
    rw [modified, h]
    exact List.not_mem_nil
  rw [width_of_unmodified h, hget]
  exact buffer_eq_join he

theorem toList_appendText (ho : r.OverlayConsistent) (he : r.EndsConsistent)
    (out : Array UInt8) :
    (r.appendText out).toList = out.toList ++
      Bytes.joinWith [r.layout.separator] ((List.range r.width).map r.get) := by
  by_cases h : r.values = []
  · rw [appendText, if_pos h, Array.toList_appendList, join_get_of_unmodified ho he h]
  · rw [toList_appendText_of_modified h, join_get_of_modified ho he h]

theorem text_eq_appendText (r : Record) : r.text = (r.appendText #[]).toList := by
  by_cases h : r.values = []
  · rw [text, appendText, if_pos h, if_pos h]
    simp
  · rw [text, if_neg h]

/-- The line of a record is all its fields, joined. -/
theorem text_eq_join (ho : r.OverlayConsistent) (he : r.EndsConsistent) :
    r.text = Bytes.joinWith [r.layout.separator] ((List.range r.width).map r.get) := by
  rw [text_eq_appendText, toList_appendText ho he]
  exact List.nil_append _

theorem width_eq_max (ho : r.OverlayConsistent) :
    r.width = max r.fieldCount (if r.isModified then r.lastModified + 1 else 0) := by
  by_cases h : r.values = []
  · rw [width_of_unmodified h]
    simp [isModified, fieldCount, h]
  · rw [width_of_modified ho h]
    simp [isModified, fieldCount, h]

theorem width_of_isEmpty (empty : r.isEmpty = true) : r.width = 0 := by
  obtain ⟨hends, hvalues⟩ : r.ends = [] ∧ r.values = [] := by simpa [isEmpty] using empty
  rw [width_of_unmodified hvalues, hends, List.length_nil]

/-- A line that was accepted is written as it came. -/
theorem text_of_parse {line : Bytes} {metadata : Option Metadata}
    (accepted : (r.parse line metadata).2 = .ok ()) : (r.parse line metadata).1.text = line := by
  obtain ⟨used, fits⟩ := (parse_ok_iff r line metadata).mp accepted
  rw [parse_eq, if_neg used, if_pos fits]
  rfl

end Text

/-- After any calls on a new record, writing it appends its fields joined by the separator, as many
as were parsed or as it takes to reach the last replaced one, and the line of its own is the same
bytes. An empty record has no field, and a line that was just parsed is written as it was. -/
theorem text_eq_joined_fields (l : Layout) (calls : List RecordCall) (out : Array UInt8) :
    let r := reached l calls
    let fields := (List.range r.width).map r.get
    r.width = max r.fieldCount (if r.isModified then r.lastModified + 1 else 0) ∧
      (r.appendText out).toList = out.toList ++ Bytes.joinWith [l.separator] fields ∧
      r.text = Bytes.joinWith [l.separator] fields ∧
      (r.isEmpty → r.width = 0 ∧ (r.appendText out).toList = out.toList) ∧
      (r.isModified = false → r.text = r.buffer) ∧
      ∀ line metadata, (r.parse line metadata).2 = .ok () →
        (r.parse line metadata).1.text = line := by
  intro r fields
  have ho : r.OverlayConsistent := reached_overlayConsistent l calls
  have he : r.EndsConsistent := reached_endsConsistent l calls
  have hlayout : r.layout = l := reached_layout l calls
  have happend : ∀ out : Array UInt8,
      (r.appendText out).toList = out.toList ++ Bytes.joinWith [l.separator] fields := by
    intro out
    rw [← hlayout]
    exact toList_appendText ho he out
  refine ⟨width_eq_max ho, happend out, ?_, ?_, ?_, fun _ _ => text_of_parse⟩
  · rw [text_eq_appendText, happend]
    simp
  · intro empty
    have hwidth := width_of_isEmpty empty
    refine ⟨hwidth, ?_⟩
    have hfields : fields = [] := by
      change (List.range r.width).map r.get = []
      rw [hwidth]
      rfl
    rw [happend, hfields]
    exact List.append_nil _
  · intro unmodified
    have hvalues : r.values = [] := by simpa [isModified] using unmodified
    exact if_pos hvalues

end Record

end RecordPipeline
