import Mathlib.Data.List.Nodup
import RecordPipeline.Metric.Bag

/-!
Bags by name: what is recorded under one name is read there again and leaves all other names alone.
-/

namespace RecordPipeline.Bag

variable {b b' : Bag} {name other : String} {sample : Sample}

/-- Bags with the same entries are the same. -/
theorem eq_of_entries (same : b.entries = b'.entries) : b = b' := by
  cases b
  cases b'
  cases same
  rfl

theorem get?_placed_self (name : String) (sample : Sample) (entries : Table String Sample) :
    (placed name sample entries).get? name = some sample := by
  induction entries with
  | nil => simp [placed, Table.get?]
  | cons entry rest ih =>
      obtain ⟨n, s⟩ := entry
      rw [placed]
      by_cases same : n = name
      · simp [same, Table.get?]
      · by_cases before : name < n
        · simp [same, before, Table.get?]
        · simp [same, before, Table.get?, ih]

theorem get?_placed_of_ne (h : other ≠ name) (sample : Sample) (entries : Table String Sample) :
    (placed name sample entries).get? other = entries.get? other := by
  induction entries with
  | nil => simp [placed, Table.get?, Ne.symm h]
  | cons entry rest ih =>
      obtain ⟨n, s⟩ := entry
      rw [placed]
      by_cases same : n = name
      · simp [same, Table.get?, Ne.symm h]
      · by_cases before : name < n
        · simp [same, before, Table.get?, Ne.symm h]
        · simp [same, before, Table.get?, ih]

@[simp]
theorem get?_put_self (b : Bag) (name : String) (sample : Sample) :
    (b.put name sample).get? name = some sample :=
  get?_placed_self name sample b.entries

theorem get?_put_of_ne (h : other ≠ name) (b : Bag) (sample : Sample) :
    (b.put name sample).get? other = b.get? other :=
  get?_placed_of_ne h sample b.entries

/-- No name stands twice in a bag. -/
theorem nodup_keys (b : Bag) : (Table.keys b.entries).Nodup :=
  List.pairwise_map.mpr (b.ascending.imp String.ne_of_lt)

theorem nodup_entries (b : Bag) : b.entries.Nodup :=
  List.Nodup.of_map _ b.nodup_keys

theorem mem_of_get? (h : b.get? name = some sample) : (name, sample) ∈ b.entries :=
  Table.mem_of_get? h

/-- Every sample of a bag is found under its name. -/
theorem get?_of_mem (member : (name, sample) ∈ b.entries) : b.get? name = some sample := by
  obtain ⟨i, found⟩ := List.mem_iff_getElem?.mp member
  exact Table.get?_of_getElem? b.nodup_keys found

theorem mem_entries_iff : (name, sample) ∈ b.entries ↔ b.get? name = some sample :=
  ⟨get?_of_mem, mem_of_get?⟩

theorem mem_keys_iff : name ∈ Table.keys b.entries ↔ ∃ s, b.get? name = some s := by
  rw [← Option.ne_none_iff_exists', Ne, get?, Table.get?_eq_none_iff, Decidable.not_not]

/-- Bags that read the same under every name are the same, since their names are in order. -/
theorem eq_of_get? (same : ∀ name, b.get? name = b'.get? name) : b = b' := by
  have perm : b.entries.Perm b'.entries := by
    refine (List.perm_ext_iff_of_nodup b.nodup_entries b'.nodup_entries).mpr ?_
    intro entry
    rw [← Prod.eta entry, mem_entries_iff, mem_entries_iff, same]
  refine eq_of_entries (perm.eq_of_pairwise ?_ b.ascending b'.ascending)
  intro entry later _ _ before after
  exact absurd after (String.lt_asymm before)

theorem insert_of_get?_eq_none (h : b.get? name = none) (sample : Sample) :
    b.insert name sample = .ok (b.put name sample) := by
  unfold insert
  rw [h]

/-- A sample that is taken up is put in the place of its name. -/
theorem exists_put_of_insert (h : b.insert name sample = .ok b') :
    ∃ merged, b' = b.put name merged := by
  cases found : b.get? name with
  | none =>
      rw [insert_of_get?_eq_none found] at h
      exact ⟨sample, (Except.ok.inj h).symm⟩
  | some current =>
      have outcome : b.insert name sample = (current.merge sample).map (b.put name) ∨
          (∃ value, b.insert name sample = .ok (b.put name (.gauge value))) ∨
          ∃ e, b.insert name sample = .error e := by
        unfold insert
        rw [found]
        cases current with
        | gauge value =>
            cases sample with
            | gauge new => exact .inr (.inl ⟨new, rfl⟩)
            | _ => exact .inr (.inr ⟨_, rfl⟩)
        | _ => exact .inl rfl
      rcases outcome with merging | ⟨value, put⟩ | ⟨e, refused⟩
      · rw [merging] at h
        cases merged : current.merge sample with
        | error e =>
            rw [merged] at h
            cases h
        | ok merged' =>
            rw [merged] at h
            exact ⟨merged', (Except.ok.inj h).symm⟩
      · rw [put] at h
        exact ⟨.gauge value, (Except.ok.inj h).symm⟩
      · rw [refused] at h
        cases h

theorem get?_insert_of_ne (different : other ≠ name) (h : b.insert name sample = .ok b') :
    b'.get? other = b.get? other := by
  obtain ⟨merged, rfl⟩ := exists_put_of_insert h
  exact get?_put_of_ne different b merged

theorem get?_count_of_ne (different : other ≠ name) (b : Bag) (n : Nat) :
    (b.count name n).get? other = b.get? other := by
  unfold count
  split
  · rename_i b' counted
    exact get?_insert_of_ne different counted
  · rfl

/-- A sample that is not a gauge is merged with the one of its name. -/
theorem insert_of_merge {current merged : Sample} (h : b.get? name = some current)
    (notGauge : current.kind ≠ .gauge) (merges : current.merge sample = .ok merged) :
    b.insert name sample = .ok (b.put name merged) := by
  unfold insert
  rw [h]
  cases current with
  | gauge value => exact absurd rfl notGauge
  | _ =>
      dsimp only
      rw [merges]
      rfl

/-- A gauge takes the place of the one of its name. -/
theorem insert_gauge (h : ∀ current ∈ b.get? name, current.kind = .gauge) (value : Float) :
    b.insert name (.gauge value) = .ok (b.put name (.gauge value)) := by
  unfold insert
  cases found : b.get? name with
  | none => rfl
  | some current =>
      have isGauge := h current found
      cases current with
      | gauge old => rfl
      | _ => cases isGauge

/-- Observations are put behind the earlier ones of their name. -/
theorem insert_histogram {earlier : List Float} (h : b.get? name = some (.histogram earlier))
    (observed : List Float) :
    b.insert name (.histogram observed) = .ok (b.put name (.histogram (earlier ++ observed))) :=
  insert_of_merge h nofun rfl

/-- What is put last under a name stands. -/
theorem put_put_self (b : Bag) (name : String) (first second : Sample) :
    (b.put name first).put name second = b.put name second := by
  apply eq_of_get?
  intro other
  by_cases same : other = name
  · subst same
    rw [get?_put_self, get?_put_self]
  · rw [get?_put_of_ne same, get?_put_of_ne same, get?_put_of_ne same]

/-- Samples of different names can be put in either order. -/
theorem put_comm (h : other ≠ name) (b : Bag) (first second : Sample) :
    (b.put name first).put other second = (b.put other second).put name first := by
  apply eq_of_get?
  intro read
  by_cases isFirst : read = name
  · subst isFirst
    rw [get?_put_of_ne h.symm, get?_put_self, get?_put_self]
  · by_cases isSecond : read = other
    · subst isSecond
      rw [get?_put_self, get?_put_of_ne h, get?_put_self]
    · rw [get?_put_of_ne isSecond, get?_put_of_ne isFirst, get?_put_of_ne isFirst,
        get?_put_of_ne isSecond]

theorem get?_filter (b : Bag) (p : Sample → Bool) (name : String) :
    (b.filter p).get? name = (b.get? name).filter p := by
  ext sample
  rw [← mem_entries_iff, filter, List.mem_filter, mem_entries_iff, Option.filter_eq_some_iff]

/-- What a counter becomes, if the sample of its name is a counter or there is none yet. -/
def counted (n : Nat) : Option Sample → Option Sample
  | none => some (.counter (UInt64.ofNat n))
  | some (.counter value) => some (.counter (Sample.addSaturating value (UInt64.ofNat n)))
  | some _ => none

theorem count_eq (b : Bag) (name : String) (n : Nat) :
    b.count name n = match counted n (b.get? name) with
      | some sample => b.put name sample
      | none => b := by
  unfold count insert
  cases b.get? name with
  | none => rfl
  | some current => cases current <;> rfl

theorem get?_count_self (b : Bag) (name : String) (n : Nat) :
    (b.count name n).get? name = (counted n (b.get? name)).or (b.get? name) := by
  rw [count_eq]
  cases counted n (b.get? name) with
  | none => rfl
  | some sample => exact get?_put_self b name sample

theorem addSaturating_swap (m n : UInt64) :
    Sample.addSaturating m n = Sample.addSaturating n m := by
  rw [Sample.addSaturating, Sample.addSaturating, Nat.add_comm]

theorem toNat_ofNatClamp (n : Nat) : (UInt64.ofNatClamp n).toNat = min n (UInt64.size - 1) := by
  rw [UInt64.ofNatClamp]
  split
  · rename_i inside
    rw [UInt64.toNat_ofNatLT]
    omega
  · rename_i outside
    rw [UInt64.toNat_ofNatLT]
    omega

theorem toNat_addSaturating (m n : UInt64) :
    (Sample.addSaturating m n).toNat = min (m.toNat + n.toNat) (UInt64.size - 1) :=
  toNat_ofNatClamp _

/-- A sum stops at the largest number, whatever is added first. -/
theorem addSaturating_right_comm (a m n : UInt64) :
    Sample.addSaturating (Sample.addSaturating a m) n =
      Sample.addSaturating (Sample.addSaturating a n) m := by
  apply UInt64.toNat_inj.mp
  simp only [toNat_addSaturating]
  omega

theorem counted_right_comm (m n : Nat) (sample : Option Sample) :
    counted n ((counted m sample).or sample) = counted m ((counted n sample).or sample) := by
  cases sample with
  | none =>
      simp only [counted, Option.or_none]
      rw [addSaturating_swap]
  | some sample =>
      cases sample with
      | counter value =>
          simp only [counted, Option.some_or]
          rw [addSaturating_right_comm]
      | _ => rfl

/-- Increments of counters can be recorded in either order. -/
theorem count_comm (b : Bag) (name other : String) (m n : Nat) :
    (b.count name m).count other n = (b.count other n).count name m := by
  by_cases same : other = name
  · subst same
    rw [count_eq (b.count other m), count_eq (b.count other n), get?_count_self, get?_count_self,
      counted_right_comm, count_eq, count_eq]
    cases b.get? other with
    | none => simp only [counted, Option.or_none, put_put_self]
    | some sample => cases sample <;> simp only [counted, Option.or, put_put_self]
  · rw [count_eq (b.count name m), count_eq (b.count other n), get?_count_of_ne same,
      get?_count_of_ne (Ne.symm same), count_eq, count_eq]
    cases counted m (b.get? name) with
    | none => cases counted n (b.get? other) <;> rfl
    | some first =>
        cases counted n (b.get? other) with
        | none => rfl
        | some second => exact put_comm same b first second

end RecordPipeline.Bag
