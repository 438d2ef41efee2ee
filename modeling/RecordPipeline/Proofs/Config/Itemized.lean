import Mathlib.Algebra.GroupWithZero.Nat
import RecordPipeline.Proofs.Config.Building
import RecordPipeline.Proofs.Topology.Counting

/-!
The count of invalid records by name. In a topology that was built from a valid configuration every
invalid record is counted under the name of one field, and every field has its own name.
-/

namespace RecordPipeline

theorem sum_modify_succ {counts : List Nat} {i : Nat} (inside : i < counts.length) :
    (counts.modify i (· + 1)).sum = counts.sum + 1 := by
  induction counts generalizing i with
  | nil => cases inside
  | cons n rest ih =>
      cases i with
      | zero =>
          rw [List.modify_zero_cons, List.sum_cons, List.sum_cons]
          omega
      | succ i =>
          rw [List.modify_succ_cons, List.sum_cons, List.sum_cons,
            ih (Nat.lt_of_succ_lt_succ inside)]
          omega

namespace PipelineTally

/-- Every invalid record is counted under a field that has one of the first `names` numbers. -/
structure Itemized (names : Nat) (t : PipelineTally) : Prop where
  total : t.invalidByField.sum = t.invalid
  named : ∀ index count, t.invalidByField[index]? = some count → count ≠ 0 → index < names
  size : names ≤ t.invalidByField.length

theorem Itemized.judge {names : Nat} {t : PipelineTally} (inv : Itemized names t) {v : Verdict}
    (named : ∀ field, v = .invalid field → field < names) : Itemized names (t.judge v) := by
  cases v with
  | invalid field =>
      have inside := named field rfl
      refine ⟨?_, ?_, ?_⟩
      · exact (sum_modify_succ (Nat.lt_of_lt_of_le inside inv.size)).trans
          (congrArg (· + 1) inv.total)
      · intro index count found some
        by_cases same : field = index
        · exact same ▸ inside
        · apply inv.named index count _ some
          have elsewhere : (t.invalidByField.modify field (· + 1))[index]? =
              t.invalidByField[index]? := by
            rw [List.getElem?_modify]
            simp [same]
          exact elsewhere ▸ found
      · exact Nat.le_trans inv.size (Nat.le_of_eq (List.length_modify ..).symm)
  | _ => exact ⟨inv.total, inv.named, inv.size⟩

theorem sum_filterMap_zipIdx (counts : List Nat) (k : Nat) (name : Nat → String) :
    ((((counts.zipIdx k).filterMap fun (count, index) =>
      if count = 0 then none else some (name index, count))).map (·.2)).sum = counts.sum := by
  induction counts generalizing k with
  | nil => rfl
  | cons count rest ih =>
      rw [List.zipIdx_cons, List.sum_cons, ← ih (k + 1)]
      by_cases none : count = 0
      · rw [List.filterMap_cons_none (by simp [none]), none, Nat.zero_add]
      · rw [List.filterMap_cons_some (by simp [none]; rfl)]
        rfl

/-- No name stands twice among those of the fields that were missing, and every invalid record is
counted under one of them. -/
theorem Itemized.byName {fields : FieldMap} {t : PipelineTally} (inv : Itemized fields.size t) :
    ((t.invalidByName fields).map (·.1)).Nodup ∧
      ((t.invalidByName fields).map (·.2)).sum = t.invalid := by
  have sum := sum_filterMap_zipIdx t.invalidByField 0 fun index =>
    (fields.nameOf? index).getD s!"#{index}"
  refine ⟨?_, sum.trans inv.total⟩
  have label : ∀ (index : Nat) (inside : index < t.invalidByField.length) entry,
      (if t.invalidByField[index] = 0 then none
        else some ((fields.nameOf? index).getD s!"#{index}", t.invalidByField[index])) =
          some entry →
      fields.names[index]? = some entry.1 := by
    intro index inside entry listed
    split at listed
    · cases listed
    · rename_i counted
      cases listed
      have named := inv.named index _ (List.getElem?_eq_getElem inside) counted
      rw [FieldMap.nameOf?, List.getElem?_eq_getElem named]
      rfl
  rw [List.Nodup, List.pairwise_map, invalidByName, List.pairwise_filterMap,
    List.pairwise_iff_getElem]
  intro i j first second before entry listed entry' listed' same
  rw [List.length_zipIdx] at first second
  rw [List.getElem_zipIdx, Nat.zero_add] at listed listed'
  have here := label i first entry listed
  have there := label j second entry' listed'
  rw [← same] at there
  have equal : i = j :=
    Option.some.inj (((fields.agree _ i).mpr here).symm.trans ((fields.agree _ j).mpr there))
  omega

end PipelineTally

theorem Layout.maxFields_of_make {separator : UInt8} {maxFields : Nat} {layout : Layout}
    (h : make separator maxFields = .ok layout) : layout.maxFields = maxFields := by
  unfold make at h
  split at h
  · split at h
    · cases h
      rfl
    · cases h
  · cases h

namespace Config

variable {c : Config} {t : Topology} {available : Nat}

/-- A valid configuration names no more fields than a record may have. -/
theorem fields_le_of_validate (valid : c.validate = .ok ()) :
    c.record.fields.length ≤ c.record.maxFields := by
  by_contra more
  have refused : ∃ e, c.validate = .error e := by
    unfold validate recordRule
    by_cases none : c.record.maxFields = 0
    · simp [require, none, bind, Except.bind]
    · simp [require, none, more, bind, Except.bind]
  obtain ⟨e, refused⟩ := refused
  rw [valid] at refused
  cases refused

/-- A record is refused only for a field that has a name. -/
theorem BuildsTo.offending_named (parts : c.BuildsTo available t) {r : Record} {field : Nat}
    (offending : t.validator.bind (·.offending? r) = some field) : field < t.fields.size := by
  by_cases required : c.requiredFields = []
  · have none : t.validator = none := by
      have made := parts.validator
      simp only [Config.validator, validates, required, List.isEmpty_nil, Bool.not_true,
        Bool.not_false, if_true] at made
      exact (Except.ok.inj made).symm
    rw [none] at offending
    cases offending
  · obtain ⟨indices, resolved, validator⟩ := parts.requires required
    rw [validator] at offending
    have member : field ∈ indices := List.mem_of_find?_eq_some offending
    obtain ⟨name, _, found⟩ := exists_of_forall₂ resolved.flip member
    exact FieldMap.lt_size_of_indexOf? found

/-- All fields that have a name are counted on their own. -/
theorem BuildsTo.size_le (parts : c.BuildsTo available t) (valid : c.validate = .ok ()) :
    t.fields.size ≤ t.layout.maxFields := by
  have names : t.fields.names = c.record.fields := by
    exact FieldMap.names_of_ofNames (ok_of_mapError_eq_ok parts.fields)
  rw [FieldMap.size, names, Layout.maxFields_of_make (ok_of_mapError_eq_ok parts.layout)]
  exact fields_le_of_validate valid

/-- In a topology built from a valid configuration, every invalid record is counted under a name. -/
theorem BuildsTo.itemized (parts : c.BuildsTo available t) (valid : c.validate = .ok ())
    (lines : List TaggedLine) : (t.counted lines).1.Itemized t.fields.size := by
  induction lines using List.reverseRecOn with
  | nil =>
      refine ⟨?_, ?_, ?_⟩
      · simp [Topology.counted, PipelineTally.new]
      · intro index count found some
        have inside := List.mem_of_getElem? found
        exact absurd (List.eq_of_mem_replicate inside) some
      · exact Nat.le_trans (parts.size_le valid) (Nat.le_of_eq List.length_replicate.symm)
  | append_singleton lines line ih =>
      rw [Topology.counted_concat, Topology.countLine]
      dsimp only
      rw [Topology.processLine_judges]
      apply ih.judge
      intro field invalid
      unfold Topology.verdict at invalid
      split at invalid
      · cases invalid
      · split at invalid
        · rename_i offending
          cases invalid
          exact parts.offending_named offending
        · split at invalid <;> cases invalid

end Config

end RecordPipeline
