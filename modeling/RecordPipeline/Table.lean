/-!
Small tables: a list of keyed entries in the order in which their keys were first put. A key that
is put again keeps its place and takes the new value.
-/

namespace RecordPipeline

abbrev Table (κ : Type) (α : Type) := List (κ × α)

namespace Table

variable {κ α : Type} [DecidableEq κ]

def get? (key : κ) : Table κ α → Option α
  | [] => none
  | (k, v) :: rest => if k = key then some v else get? key rest

def has (key : κ) (t : Table κ α) : Bool := (t.get? key).isSome

def put (key : κ) (value : α) : Table κ α → Table κ α
  | [] => [(key, value)]
  | (k, v) :: rest => if k = key then (key, value) :: rest else (k, v) :: put key value rest

def erase (key : κ) (t : Table κ α) : Table κ α := t.filter fun entry => entry.1 ≠ key

def keys (t : Table κ α) : List κ := t.map (·.1)

theorem get?_put_self (key : κ) (value : α) (t : Table κ α) :
    get? key (put key value t) = some value := by
  induction t with
  | nil => simp [put, get?]
  | cons entry rest ih =>
      obtain ⟨k, v⟩ := entry
      by_cases h : k = key <;> simp [put, get?, h, ih]

theorem get?_put_of_ne {key other : κ} (h : other ≠ key) (value : α) (t : Table κ α) :
    get? other (put key value t) = get? other t := by
  induction t with
  | nil => simp [put, get?, Ne.symm h]
  | cons entry rest ih =>
      obtain ⟨k, v⟩ := entry
      by_cases hk : k = key
      · subst hk; simp [put, get?, Ne.symm h]
      · simp [put, get?, hk, ih]

theorem get?_eq_none_iff {key : κ} {t : Table κ α} : get? key t = none ↔ key ∉ keys t := by
  induction t with
  | nil => simp [get?, keys]
  | cons entry rest ih =>
      obtain ⟨k, v⟩ := entry
      by_cases h : k = key
      · simp [get?, keys, h]
      · simpa [get?, keys, h, Ne.symm h] using ih

theorem mem_of_get? {key : κ} {value : α} {t : Table κ α} (found : t.get? key = some value) :
    (key, value) ∈ t := by
  induction t with
  | nil => cases found
  | cons entry rest ih =>
      rw [get?] at found
      by_cases same : entry.1 = key
      · rw [if_pos same] at found
        exact List.mem_cons.mpr (.inl (Prod.ext same.symm (Option.some.inj found).symm))
      · rw [if_neg same] at found
        exact List.mem_cons_of_mem entry (ih found)

/-- A key that is new is put behind all others. -/
theorem put_of_get?_eq_none {key : κ} {t : Table κ α} (h : get? key t = none) (value : α) :
    put key value t = t ++ [(key, value)] := by
  induction t with
  | nil => rfl
  | cons entry rest ih =>
      obtain ⟨k, v⟩ := entry
      by_cases hk : k = key
      · simp [get?, hk] at h
      · simp only [get?, hk, if_false] at h
        simp [put, hk, ih h]

/-- In a table in which every key stands once, an entry is what its key reads. -/
theorem get?_of_getElem? {key : κ} {value : α} {t : Table κ α} {i : Nat} (hn : (keys t).Nodup)
    (h : t[i]? = some (key, value)) : get? key t = some value := by
  induction t generalizing i with
  | nil => simp at h
  | cons entry rest ih =>
      obtain ⟨k, v⟩ := entry
      obtain ⟨hk, hrest⟩ := List.nodup_cons.mp hn
      cases i with
      | zero =>
          obtain ⟨rfl, rfl⟩ : k = key ∧ v = value := by simpa using h
          simp [get?]
      | succ i =>
          have hin : key ∈ keys rest :=
            List.mem_map.mpr ⟨(key, value), List.mem_of_getElem? h, rfl⟩
          have hne : k ≠ key := by
            intro same
            exact hk (same ▸ hin)
          rw [get?, if_neg hne]
          exact ih hrest h

/-- A key that is there takes the new value in its own place. -/
theorem put_eq_set {key : κ} {old : α} {t : Table κ α} {i : Nat} (hn : (keys t).Nodup)
    (h : t[i]? = some (key, old)) (value : α) : put key value t = t.set i (key, value) := by
  induction t generalizing i with
  | nil => simp at h
  | cons entry rest ih =>
      obtain ⟨k, v⟩ := entry
      obtain ⟨hk, hrest⟩ := List.nodup_cons.mp hn
      cases i with
      | zero =>
          obtain ⟨rfl, rfl⟩ : k = key ∧ v = old := by simpa using h
          simp [put]
      | succ i =>
          have hin : key ∈ keys rest :=
            List.mem_map.mpr ⟨(key, old), List.mem_of_getElem? h, rfl⟩
          have hne : k ≠ key := by
            intro same
            exact hk (same ▸ hin)
          rw [put, if_neg hne, List.set_cons_succ, ih hrest h]

end Table

end RecordPipeline
