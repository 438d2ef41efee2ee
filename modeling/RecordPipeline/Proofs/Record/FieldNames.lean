import Mathlib.Data.List.Induction
import Mathlib.Data.List.Nodup
import RecordPipeline.Proofs.Success
import RecordPipeline.Record.FieldMap

/-!
Names of fields and their indices. Names make a map if none of them is empty and none comes twice;
otherwise they are refused for the first name at which this goes wrong. In a map, reading the index
of a name and reading the name of an index undo each other, and names are resolved up to the first
one that the map does not have.
-/

namespace RecordPipeline

/-- What is wrong with a name that comes behind others. -/
inductive NameFault (before : List String) : String → RecordError → Prop where
  | empty : NameFault before "" (.invalidLayout "field names cannot be empty")
  | repeated {name : String} (nonempty : name ≠ "") (taken : name ∈ before) :
      NameFault before name (.duplicateField name)

/-- Names of which none is empty and none comes twice. -/
structure ProperNames (names : List String) : Prop where
  nodup : names.Nodup
  nonempty : "" ∉ names

namespace ProperNames

variable {before after names : List String} {name : String} {e : RecordError}

theorem of_append (h : ProperNames (before ++ after)) : ProperNames before where
  nodup := (List.nodup_append.mp h.nodup).1
  nonempty := fun inside => h.nonempty (List.mem_append_left after inside)

theorem nonempty_of_mem (h : ProperNames names) (member : name ∈ names) : name ≠ "" := by
  rintro rfl
  exact h.nonempty member

/-- A proper name has no fault, and one without a fault is proper behind proper names. -/
theorem concat_iff (h : ProperNames before) :
    ProperNames (before ++ [name]) ↔ name ≠ "" ∧ name ∉ before := by
  constructor
  · intro all
    refine ⟨all.nonempty_of_mem List.mem_concat_self, ?_⟩
    intro taken
    exact (List.nodup_append.mp all.nodup).2.2 name taken name (by simp) rfl
  · rintro ⟨some, new⟩
    constructor
    · rw [List.nodup_append]
      refine ⟨h.nodup, by simp, ?_⟩
      intro other earlier last isLast same
      exact new (List.mem_singleton.mp isLast ▸ same ▸ earlier)
    · simp [h.nonempty, Ne.symm some]

/-- Names are proper, or there is a first one with a fault. -/
theorem or_fault (names : List String) :
    ProperNames names ∨ ∃ before name after e, names = before ++ name :: after ∧
      ProperNames before ∧ NameFault before name e := by
  induction names using List.reverseRecOn with
  | nil => exact .inl ⟨List.nodup_nil, List.not_mem_nil⟩
  | append_singleton names last ih =>
      rcases ih with proper | ⟨before, name, after, e, rfl, proper, fault⟩
      · by_cases empty : last = ""
        · subst empty
          exact .inr ⟨names, "", [], _, rfl, proper, .empty⟩
        · by_cases taken : last ∈ names
          · exact .inr ⟨names, last, [], _, rfl, proper, .repeated empty taken⟩
          · exact .inl (proper.concat_iff.mpr ⟨empty, taken⟩)
      · exact .inr ⟨before, name, after ++ [last], e, by simp, proper, fault⟩

end ProperNames

namespace FieldMap

variable {m : FieldMap} {names wanted : List String} {name other : String} {index : Nat}
  {e : RecordError}

section Making

theorem extend_of_fault (fault : NameFault m.names name e) (after : List String) :
    m.extend (name :: after) = .error e := by
  rw [extend]
  cases fault with
  | empty => rw [dif_pos rfl]
  | repeated nonempty taken => rw [dif_neg nonempty, dif_pos (m.has_indices_iff.mpr taken)]

/-- Proper names are all added before anything else is looked at. -/
theorem exists_extend (proper : ProperNames (m.names ++ names)) (after : List String) :
    ∃ m' : FieldMap, m'.names = m.names ++ names ∧ m.extend (names ++ after) = m'.extend after := by
  induction names generalizing m with
  | nil => exact ⟨m, (List.append_nil m.names).symm, rfl⟩
  | cons name rest ih =>
      rw [List.append_cons] at proper
      obtain ⟨some, new⟩ := proper.of_append.of_append.concat_iff.mp proper.of_append
      have untaken := mt m.has_indices_iff.mp new
      obtain ⟨m', listed, extended⟩ := ih (m := m.add name some untaken) proper
      refine ⟨m', listed.trans (List.append_cons ..).symm, ?_⟩
      rw [List.cons_append, extend, dif_neg some, dif_neg untaken]
      exact extended

theorem exists_ofNames (proper : ProperNames names) :
    ∃ m, ofNames names = .ok m ∧ m.names = names := by
  obtain ⟨m, listed, extended⟩ := exists_extend (m := .empty) proper []
  rw [List.append_nil] at extended
  exact ⟨m, extended, listed⟩

/-- The first name with a fault is what the names are refused for. -/
theorem ofNames_of_fault {before : List String} (proper : ProperNames before)
    (fault : NameFault before name e) (after : List String) :
    ofNames (before ++ name :: after) = .error e := by
  obtain ⟨m, listed, extended⟩ := exists_extend (m := .empty) proper (name :: after)
  rw [ofNames, extended]
  exact extend_of_fault (listed ▸ fault) after

theorem proper_of_ofNames (made : ofNames names = .ok m) : ProperNames names := by
  rcases ProperNames.or_fault names with proper | ⟨before, name, after, e, rfl, proper, fault⟩
  · exact proper
  · rw [ofNames_of_fault proper fault] at made
    cases made

theorem names_of_ofNames (made : ofNames names = .ok m) : m.names = names := by
  obtain ⟨m', made', listed⟩ := exists_ofNames (proper_of_ofNames made)
  obtain rfl := Except.ok.inj (made.symm.trans made')
  exact listed

theorem ofNames_eq_error_iff :
    ofNames names = .error e ↔ ∃ before name after, names = before ++ name :: after ∧
      ProperNames before ∧ NameFault before name e := by
  constructor
  · intro refused
    rcases ProperNames.or_fault names with proper | ⟨before, name, after, e', rfl, proper, fault⟩
    · obtain ⟨m, made, _⟩ := exists_ofNames proper
      rw [made] at refused
      cases refused
    · rw [ofNames_of_fault proper fault] at refused
      obtain rfl := Except.error.inj refused
      exact ⟨before, name, after, rfl, proper, fault⟩
  · rintro ⟨before, name, after, rfl, proper, fault⟩
    exact ofNames_of_fault proper fault after

end Making

section Reading

/-- An index is that of a name exactly if it has this name: the two tables were filled side by
side. -/
theorem indexOf?_eq_some_iff : m.indexOf? name = some index ↔ m.nameOf? index = some name :=
  m.agree name index

/-- Every field of a map has one name. -/
theorem name_unique (h : m.indexOf? name = some index) (h' : m.indexOf? other = some index) :
    name = other :=
  Option.some.inj ((indexOf?_eq_some_iff.mp h).symm.trans (indexOf?_eq_some_iff.mp h'))

theorem lt_size_of_indexOf? (h : m.indexOf? name = some index) : index < m.size :=
  (List.getElem?_eq_some_iff.mp (indexOf?_eq_some_iff.mp h)).1

theorem exists_indexOf?_eq_some_iff : (∃ index, m.indexOf? name = some index) ↔ name ∈ m.names := by
  simp only [indexOf?_eq_some_iff, nameOf?, List.mem_iff_getElem?]

theorem resolve_eq_ok_iff : m.resolve name = .ok index ↔ m.indexOf? name = some index := by
  unfold resolve
  cases m.indexOf? name with
  | none => exact iff_of_false nofun nofun
  | some found => simp

theorem resolve_eq_error_iff :
    m.resolve name = .error e ↔ name ∉ m.names ∧ e = .unknownField name := by
  rw [← exists_indexOf?_eq_some_iff]
  unfold resolve
  cases m.indexOf? name with
  | none => simp [eq_comm]
  | some found => simp

/-- Names are resolved to their indices one by one. -/
theorem resolveAll_eq_ok_iff {indices : List Nat} :
    m.resolveAll wanted = .ok indices ↔
      List.Forall₂ (fun name index => m.nameOf? index = some name) wanted indices := by
  simp only [resolveAll, mapM_eq_ok_iff, resolve_eq_ok_iff, indexOf?_eq_some_iff]

/-- The first name that the map does not have is what names are not resolved for. -/
theorem resolveAll_eq_error_iff :
    m.resolveAll wanted = .error e ↔ ∃ before name after, wanted = before ++ name :: after ∧
      (∀ earlier ∈ before, earlier ∈ m.names) ∧ name ∉ m.names ∧ e = .unknownField name := by
  simp only [resolveAll, mapM_eq_error_iff, resolve_eq_ok_iff, resolve_eq_error_iff,
    exists_indexOf?_eq_some_iff]

end Reading

/-- A map of names: reading the index of a name and the name of an index undo each other, the names
stand at the indices below their number in the order in which they were given, and names are
resolved in the order in which they are asked for. -/
structure Indexes (m : FieldMap) (names : List String) : Prop where
  inverse : ∀ index name, m.nameOf? index = some name ↔ m.indexOf? name = some index
  inOrder : ∀ index, m.nameOf? index = names[index]?
  listed : m.names = names
  named : ∀ index, (∃ name, m.nameOf? index = some name) ↔ index < m.size
  resolved : ∀ wanted indices, m.resolveAll wanted = .ok indices ↔
    List.Forall₂ (fun name index => m.nameOf? index = some name) wanted indices
  unresolved : ∀ wanted e, m.resolveAll wanted = .error e ↔
    ∃ before name after, wanted = before ++ name :: after ∧
      (∀ earlier ∈ before, earlier ∈ names) ∧ name ∉ names ∧ e = .unknownField name

theorem indexes_of_ofNames (made : ofNames names = .ok m) : m.Indexes names := by
  have listed := names_of_ofNames made
  refine ⟨fun _ _ => indexOf?_eq_some_iff.symm, ?_, listed, ?_, ?_, ?_⟩
  · intro index
    rw [nameOf?, listed]
  · intro index
    rw [nameOf?, size, ← Option.isSome_iff_exists, isSome_getElem?]
  · exact fun _ _ => resolveAll_eq_ok_iff
  · intro wanted e
    rw [resolveAll_eq_error_iff, listed]

/-- Names make a map exactly if none is empty and all are different, and are refused for the first
one that is empty or was there before. In a map, names and indices belong to each other. -/
theorem maps_names_both_ways (names : List String) :
    ((∃ m, ofNames names = .ok m) ↔ "" ∉ names ∧ names.Nodup) ∧
    (∀ e, ofNames names = .error e ↔ ∃ before name after, names = before ++ name :: after ∧
      ProperNames before ∧ NameFault before name e) ∧
    ∀ m, ofNames names = .ok m → m.Indexes names := by
  refine ⟨?_, fun _ => ofNames_eq_error_iff, fun _ made => indexes_of_ofNames made⟩
  constructor
  · rintro ⟨m, made⟩
    have proper := proper_of_ofNames made
    exact ⟨proper.nonempty, proper.nodup⟩
  · rintro ⟨nonempty, nodup⟩
    obtain ⟨m, made, _⟩ := exists_ofNames ⟨nodup, nonempty⟩
    exact ⟨m, made⟩

/-- Of a name that comes twice and an empty one the first is reported, and three proper names are
resolved in any order and as often as they are asked for. -/
theorem logNames_mapped :
    ofNames ["host", "level", "host", ""] = .error (.duplicateField "host") ∧
      ∃ m, ofNames ["host", "level", "message"] = .ok m ∧ m.Indexes ["host", "level", "message"] ∧
        m.resolveAll ["message", "host", "message"] = .ok [2, 0, 2] ∧
        m.resolveAll ["host", "user", "zone"] = .error (.unknownField "user") := by
  obtain ⟨_, refused, _⟩ := maps_names_both_ways ["host", "level", "host", ""]
  obtain ⟨maps, _, indexes⟩ := maps_names_both_ways ["host", "level", "message"]
  obtain ⟨m, made⟩ := maps.mpr (by decide)
  have ofNames' := indexes m made
  refine ⟨(refused _).mpr ⟨["host", "level"], "host", [""], rfl, ⟨by decide, by decide⟩,
    .repeated (by decide) (by decide)⟩, m, made, ofNames', ?_, ?_⟩
  · rw [ofNames'.resolved]
    simp [ofNames'.inOrder]
  · rw [ofNames'.unresolved]
    exact ⟨["host"], "user", ["zone"], rfl, by decide, by decide, rfl⟩

end FieldMap

end RecordPipeline
