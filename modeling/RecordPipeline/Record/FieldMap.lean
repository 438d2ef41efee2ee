import RecordPipeline.Record.Error
import RecordPipeline.Table

/-!
Names of fields. The position of a name in the list of configured names is the index of its field,
and every name has one position. A map keeps the names by index and the indices by name, in two
tables that are filled side by side.
-/

namespace RecordPipeline

/-- The names in the order of their fields, and the field of each name. -/
structure FieldMap where
  names : List String
  indices : Table String Nat
  agree : ∀ name index, indices.get? name = some index ↔ names[index]? = some name
  nonempty : "" ∉ names

namespace FieldMap

def empty : FieldMap where
  names := []
  indices := []
  agree := by simp [Table.get?]
  nonempty := by simp

theorem has_indices_iff (m : FieldMap) {name : String} :
    m.indices.has name = true ↔ name ∈ m.names := by
  rw [Table.has, Option.isSome_iff_exists, List.mem_iff_getElem?]
  exact exists_congr fun index => m.agree name index

/-- The two tables agree on a name that is added to both. -/
theorem agree_concat (m : FieldMap) {added : String} (new : added ∉ m.names) (name : String)
    (index : Nat) :
    (m.indices.put added m.names.length).get? name = some index ↔
      (m.names ++ [added])[index]? = some name := by
  by_cases same : name = added
  · subst same
    rw [Table.get?_put_self, Option.some_inj]
    constructor
    · rintro rfl
      exact List.getElem?_concat_length
    · intro found
      have within : index < m.names.length + 1 := by
        simpa using (List.getElem?_eq_some_iff.mp found).1
      rcases Nat.lt_succ_iff_lt_or_eq.mp within with earlier | last
      · rw [List.getElem?_append_left earlier] at found
        exact absurd (List.mem_of_getElem? found) new
      · exact last.symm
  · rw [Table.get?_put_of_ne same, m.agree]
    by_cases inside : index < m.names.length
    · rw [List.getElem?_append_left inside]
    · rw [List.getElem?_append_right (by omega), List.getElem?_eq_none (by omega),
        List.getElem?_singleton]
      split <;> simp [Ne.symm same]

/-- Adds a name that is not there yet, as that of the next field. -/
def add (m : FieldMap) (name : String) (some : name ≠ "") (new : ¬ m.indices.has name) :
    FieldMap where
  names := m.names ++ [name]
  indices := m.indices.put name m.names.length
  agree := m.agree_concat (mt m.has_indices_iff.mpr new)
  nonempty := by simp [m.nonempty, Ne.symm some]

/-- Adds the names one by one after the ones already mapped, up to the first that is empty or
already there. -/
def extend (m : FieldMap) : List String → Except RecordError FieldMap
  | [] => .ok m
  | name :: rest =>
    if empty : name = "" then .error (.invalidLayout "field names cannot be empty")
    else if taken : m.indices.has name then .error (.duplicateField name)
    else (m.add name empty taken).extend rest

def ofNames (names : List String) : Except RecordError FieldMap := empty.extend names

def indexOf? (m : FieldMap) (name : String) : Option Nat := m.indices.get? name

def nameOf? (m : FieldMap) (index : Nat) : Option String := m.names[index]?

def resolve (m : FieldMap) (name : String) : Except RecordError Nat :=
  match m.indexOf? name with
  | some index => .ok index
  | none => .error (.unknownField name)

/-- The indices of the names, in the order of the names, or the first name that is not mapped. -/
def resolveAll (m : FieldMap) (names : List String) : Except RecordError (List Nat) :=
  names.mapM m.resolve

def size (m : FieldMap) : Nat := m.names.length

end FieldMap

end RecordPipeline
