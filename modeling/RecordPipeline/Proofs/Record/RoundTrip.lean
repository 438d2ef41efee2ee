import RecordPipeline.Proofs.Record.Serialization

/-!
Reading back what was written. When no replaced value holds a separator, the line that is written of
a record is cut into the fields of the record again, and there are never too many of them: a field
that can be replaced is one that a line can have.
-/

namespace RecordPipeline

namespace Record

section Fields

variable {r : Record} {index : Nat}

/-- A field that was parsed is a piece of the line. -/
theorem original_cases (he : r.EndsConsistent) (index : Nat) :
    r.original index = [] ∨ r.original index ∈ Bytes.splitOn r.layout.separator r.buffer := by
  rw [original_eq he, List.getD_eq_getElem?_getD]
  by_cases none : r.ends = []
  · rw [if_pos none]
    exact .inl rfl
  · rw [if_neg none]
    cases hpiece : (Bytes.splitOn r.layout.separator r.buffer)[index]? with
    | none => exact .inl rfl
    | some piece => exact .inr (List.mem_of_getElem? hpiece)

/-- A value is what its field reads as. -/
theorem get_of_mem_values (ho : r.OverlayConsistent) {value : Bytes}
    (member : (index, value) ∈ r.values) : r.get index = value := by
  obtain ⟨k, hentry⟩ := List.mem_iff_getElem?.mp member
  have hk : r.modified[k]? = some index := by
    rw [getElem?_modified, hentry]
    rfl
  rw [get, (ho.slot_iff index k).mpr hk]
  simp only [List.getD_eq_getElem?_getD, hentry, Option.getD_some]

/-- A field that was replaced has one of the values. -/
theorem get_mem_values (ho : r.OverlayConsistent) (member : index ∈ r.modified) :
    (index, r.get index) ∈ r.values := by
  obtain ⟨⟨key, value⟩, inside, rfl⟩ := List.mem_map.mp member
  rw [get_of_mem_values ho inside]
  exact inside

/-- When no value holds a separator, no field does. -/
theorem separator_not_mem_get (ho : r.OverlayConsistent) (he : r.EndsConsistent)
    (clean : ∀ entry ∈ r.values, r.layout.separator ∉ entry.2) (index : Nat) :
    r.layout.separator ∉ r.get index := by
  by_cases member : index ∈ r.modified
  · exact clean _ (get_mem_values ho member)
  · rw [get_of_not_mem_modified ho member]
    rcases original_cases he index with nothing | piece
    · rw [nothing]
      exact List.not_mem_nil
    · exact Bytes.not_mem_of_mem_splitOn piece

theorem lt_width_of_mem_modified (ho : r.OverlayConsistent) (member : index ∈ r.modified) :
    index < r.width := by
  have used : r.values ≠ [] := by
    intro none
    rw [modified, none] at member
    exact absurd member List.not_mem_nil
  have hle := ho.le_lastModified index member
  rw [width_of_modified ho used]
  omega

/-- Behind the last field that is written every field is empty. -/
theorem get_of_width_le (ho : r.OverlayConsistent) (h : r.width ≤ index) : r.get index = [] := by
  have absent : index ∉ r.modified := by
    intro member
    exact Nat.not_le_of_lt (lt_width_of_mem_modified ho member) h
  have beyond : r.ends.length ≤ index := by
    rw [width_eq_max ho] at h
    exact Nat.le_trans (Nat.le_max_left _ _) h
  rw [get_of_not_mem_modified ho absent, original, List.getElem?_eq_none beyond]

/-- A record never has more fields to write than its layout allows for a line. -/
theorem width_le_maxFields (ho : r.OverlayConsistent) (he : r.EndsConsistent) :
    r.width ≤ r.layout.maxFields := by
  by_cases unmodified : r.values = []
  · rw [width_of_unmodified unmodified]
    exact he.ends_length
  · have used : r.modified ≠ [] := by
      intro none
      exact unmodified (List.map_eq_nil_iff.mp none)
    have hlast := ho.lt_maxFields (ho.lastModified_mem used)
    rw [width_of_modified ho unmodified]
    exact Nat.max_le.mpr ⟨he.ends_length, hlast⟩

end Fields

section Text

variable {r : Record}

/-- The line of a record is cut into the fields of the record. -/
theorem splitOn_text (ho : r.OverlayConsistent) (he : r.EndsConsistent)
    (clean : ∀ entry ∈ r.values, r.layout.separator ∉ entry.2) (used : r.text ≠ []) :
    Bytes.splitOn r.layout.separator r.text = (List.range r.width).map r.get := by
  have htext := text_eq_join ho he
  have hfields : (List.range r.width).map r.get ≠ [] := by
    intro none
    rw [none] at htext
    exact used htext
  rw [htext]
  apply Bytes.splitOn_joinWith hfields
  intro field member
  obtain ⟨index, _, rfl⟩ := List.mem_map.mp member
  exact separator_not_mem_get ho he clean index

/-- The line of a record has fewer separators than the layout has fields. -/
theorem count_text_lt (ho : r.OverlayConsistent) (he : r.EndsConsistent)
    (clean : ∀ entry ∈ r.values, r.layout.separator ∉ entry.2) (used : r.text ≠ []) :
    r.text.count r.layout.separator < r.layout.maxFields := by
  have hlength := congrArg List.length (splitOn_text ho he clean used)
  rw [Bytes.length_splitOn, List.length_map, List.length_range] at hlength
  have hwidth := width_le_maxFields ho he
  omega

/-- After a line was accepted its pieces are the fields of the record. -/
theorem get_parse (ho : r.OverlayConsistent) (he : r.EndsConsistent) {line : Bytes}
    {metadata : Option Metadata} (used : line ≠ [])
    (fits : line.count r.layout.separator < r.layout.maxFields) (index : Nat) :
    (r.parse line metadata).1.get index =
      (Bytes.splitOn r.layout.separator line).getD index [] := by
  have hshows := (parse_shows r line metadata).1
  have hoverlay := perform_overlayConsistent ho (.parse line metadata)
  have hends := perform_endsConsistent he (.parse line metadata)
  rw [hshows.get_eq hoverlay hends, RecordView.parse, if_neg used, if_pos fits]
  rfl

variable {other : Record} {metadata : Option Metadata}

/-- A record of the same layout takes the line of a record in. -/
theorem parse_text_eq (ho : r.OverlayConsistent) (he : r.EndsConsistent)
    (clean : ∀ entry ∈ r.values, r.layout.separator ∉ entry.2) (used : r.text ≠ [])
    (same : other.layout = r.layout) :
    other.parse r.text metadata =
      ({ other.clear with
        ends := fieldEnds r.layout.separator r.text, buffer := r.text, metadata }, .ok ()) := by
  rw [parse_eq, if_neg used, same, if_pos (count_text_lt ho he clean used)]

/-- Every field reads as in the record whose line was taken in. -/
theorem get_parse_text (ho : r.OverlayConsistent) (he : r.EndsConsistent)
    (clean : ∀ entry ∈ r.values, r.layout.separator ∉ entry.2) (used : r.text ≠ [])
    (otherOverlay : other.OverlayConsistent) (otherEnds : other.EndsConsistent)
    (same : other.layout = r.layout) (index : Nat) :
    (other.parse r.text metadata).1.get index = r.get index := by
  have fits := count_text_lt ho he clean used
  rw [← same] at fits
  rw [get_parse otherOverlay otherEnds used fits, same, splitOn_text ho he clean used,
    List.getD_eq_getElem?_getD, List.getElem?_map]
  by_cases inside : index < r.width
  · rw [List.getElem?_range inside]
    rfl
  · have outside := Nat.le_of_not_lt inside
    rw [List.getElem?_eq_none (by simpa using outside), get_of_width_le ho outside]
    rfl

end Text

/-- After any calls on a new record, with no separator in a replaced value and something to write:
a record of the same layout, whatever calls were made on it, accepts the line that is written. It
then is unmodified and has as many fields as were parsed or as it takes to reach the last replaced
one, every field reads as in the record that was written, and it writes the same line. -/
theorem parse_text (l : Layout) (calls others : List RecordCall) (metadata : Option Metadata)
    (clean : ∀ entry ∈ (reached l calls).values, l.separator ∉ entry.2)
    (used : (reached l calls).text ≠ []) :
    let r := reached l calls
    let parsed := (reached l others).parse r.text metadata
    parsed.2 = .ok () ∧ parsed.1.isModified = false ∧
      parsed.1.fieldCount = max r.fieldCount (if r.isModified then r.lastModified + 1 else 0) ∧
      (r.isModified → r.lastModified ∈ r.modified ∧
        ∀ index ∈ r.modified, index ≤ r.lastModified) ∧
      (∀ index, parsed.1.get index = r.get index) ∧
      parsed.1.text = r.text ∧ parsed.1.metadata = metadata := by
  intro r parsed
  have ho : r.OverlayConsistent := reached_overlayConsistent l calls
  have he : r.EndsConsistent := reached_endsConsistent l calls
  have hlayout : r.layout = l := reached_layout l calls
  have same : (reached l others).layout = r.layout := by
    rw [hlayout]
    exact reached_layout l others
  have hclean : ∀ entry ∈ r.values, r.layout.separator ∉ entry.2 := by
    rw [hlayout]
    exact clean
  have hparsed : parsed = _ := parse_text_eq ho he hclean used same
  have hcount : parsed.1.fieldCount = r.width := by
    rw [hparsed, fieldCount, length_fieldEnds, splitOn_text ho he hclean used, List.length_map,
      List.length_range]
  refine ⟨congrArg Prod.snd hparsed, ?_, hcount.trans (width_eq_max ho), ?_, ?_, ?_, ?_⟩
  · rw [hparsed]
    rfl
  · intro modified
    have hused : r.modified ≠ [] := by
      intro none
      have unmodified : r.values = [] := List.map_eq_nil_iff.mp none
      simp [isModified, unmodified] at modified
    exact ⟨ho.lastModified_mem hused, ho.le_lastModified⟩
  · exact get_parse_text ho he hclean used (reached_overlayConsistent l others)
      (reached_endsConsistent l others) same
  · rw [hparsed]
    rfl
  · rw [hparsed]

/-- Four fields at most, separated by commas. -/
def fourFields : Layout where
  separator := 44
  maxFields := 4

/-- A line of two fields that was replaced in its first field and behind its end. -/
def extendedCalls : List RecordCall :=
  [.parse [97, 44, 98] none, .set 3 [120], .set 0 []]

/-- A record that held another line and replaced fields of its own. -/
def otherCalls : List RecordCall := [.parse [99, 44, 100, 44, 101] none, .set 2 [44], .set 1 [102]]

/-- The line takes up all fields of the layout, two of which are empty, and the record that parses
it forgets what it held. -/
theorem extended_parse_text :
    (∀ entry ∈ (reached fourFields extendedCalls).values, fourFields.separator ∉ entry.2) ∧
      (reached fourFields extendedCalls).text = [44, 98, 44, 44, 120] ∧
      ((reached fourFields otherCalls).parse [44, 98, 44, 44, 120] none).2 = .ok () ∧
      ((reached fourFields otherCalls).parse [44, 98, 44, 44, 120] none).1.fieldCount = 4 ∧
      ∀ index, ((reached fourFields otherCalls).parse [44, 98, 44, 44, 120] none).1.get index =
        (reached fourFields extendedCalls).get index := by
  have clean : ∀ entry ∈ (reached fourFields extendedCalls).values,
      fourFields.separator ∉ entry.2 := by decide
  have written : (reached fourFields extendedCalls).text = [44, 98, 44, 44, 120] := by decide
  have count : max (reached fourFields extendedCalls).fieldCount
      (if (reached fourFields extendedCalls).isModified then
        (reached fourFields extendedCalls).lastModified + 1 else 0) = 4 := by decide
  have used : (reached fourFields extendedCalls).text ≠ [] := by
    rw [written]
    exact List.cons_ne_nil _ _
  obtain ⟨accepted, _, fields, _, reads, _⟩ :=
    parse_text fourFields extendedCalls otherCalls none clean used
  rw [written] at accepted fields reads
  exact ⟨clean, written, accepted, fields.trans count, reads⟩

end Record

end RecordPipeline
