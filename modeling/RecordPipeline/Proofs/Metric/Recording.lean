import RecordPipeline.Proofs.Metric.Numbers
import RecordPipeline.Proofs.Metric.Totals
import RecordPipeline.Proofs.Success

/-!
Numbers that are recorded under encoded names. A call fails if its name is misused, and if it is for
a time that is too long; every other call, whatever its number is, changes the sample of its name by
the rules of its kind and no other sample.
-/

namespace RecordPipeline

namespace MetricKind

/-- A name written after its kind. -/
def encode (kind : MetricKind) (name : String) : String := kind.name ++ "." ++ name

theorem toList_encode (kind : MetricKind) (name : String) :
    (kind.encode name).toList = kind.name.toList ++ '.' :: name.toList := by
  rw [encode, String.toList_append, String.toList_append, List.append_assoc]
  rfl

theorem parse?_encode (kind : MetricKind) (name : String) :
    parse? (kind.encode name) = some (kind, name) := by
  have noDot : kind.name.toList.all (· ≠ '.') = true := by cases kind <;> rfl
  rw [List.all_eq_true] at noDot
  have found : all.find? (fun k => k.name.toList = kind.name.toList) = some kind := by
    cases kind <;> decide
  rw [parse?, toList_encode, List.takeWhile_append_of_pos noDot,
    List.dropWhile_append_of_pos noDot, List.takeWhile_cons_of_neg (by decide),
    List.dropWhile_cons_of_neg (by decide), List.append_nil]
  dsimp only
  rw [found, String.ofList_toList]
  rfl

/-- A kind and a name are read from what is written for them and from nothing else. -/
theorem parse?_eq_some_iff {encoded name : String} {kind : MetricKind} :
    parse? encoded = some (kind, name) ↔ encoded = kind.encode name := by
  constructor
  · intro parsed
    rw [parse?] at parsed
    have whole := List.takeWhile_append_dropWhile (p := (· ≠ '.')) (l := encoded.toList)
    have stops := List.head?_dropWhile_not (· ≠ '.') encoded.toList
    generalize encoded.toList.dropWhile (· ≠ '.') = left at parsed whole stops
    cases left with
    | nil => cases parsed
    | cons c rest =>
        obtain ⟨kind', found, same⟩ := Option.map_eq_some_iff.mp parsed
        obtain ⟨rfl, rfl⟩ := Prod.mk.inj same
        have dot : c = '.' := by simpa using stops
        have front : kind'.name.toList = encoded.toList.takeWhile (· ≠ '.') := by
          simpa using List.find?_some found
        rw [dot] at whole
        rw [← String.toList_inj, toList_encode, String.toList_ofList, front, whole]
  · rintro rfl
    exact parse?_encode kind name

theorem encode_inj {kind kind' : MetricKind} {name name' : String}
    (same : kind.encode name = kind'.encode name') : kind = kind' ∧ name = name' := by
  have parsed := parse?_encode kind name
  rw [same, parse?_encode] at parsed
  exact (Prod.mk.inj (Option.some.inj parsed)).imp Eq.symm Eq.symm

end MetricKind

namespace Sample

open Decimal

/-- The sample of a kind for which nothing is recorded yet. -/
def nothing : MetricKind → Sample
  | .counter => .counter 0
  | .delta => .delta 0
  | .gauge => .gauge 0.0
  | .histogram => .histogram []
  | .timing => .timing []

/-- What a number that is recorded makes of the sample that was held for its name. Counters and
deltas are added up with what the number counts as, to the ends of their ranges at most; a gauge is
the number that was recorded last; an observation or a time is put behind the earlier ones. -/
inductive Takes (held : Option Sample) (value : Float) : MetricKind → Sample → Prop
  | counter {total : UInt64} {n : Nat} (h : held.getD (.counter 0) = .counter total)
      (counts : CountsAs 0 (UInt64.size - 1) value n) :
      Takes held value .counter (.counter (.ofNatClamp (total.toNat + n)))
  | delta {total : Int64} {n : Int} (h : held.getD (.delta 0) = .delta total)
      (counts : CountsAs Int64.minValue.toInt Int64.maxValue.toInt value n) :
      Takes held value .delta (.delta (.ofIntClamp (total.toInt + n)))
  | gauge : Takes held value .gauge (.gauge value)
  | histogram {earlier : List Float} (h : held.getD (.histogram []) = .histogram earlier) :
      Takes held value .histogram (.histogram (earlier ++ [value]))
  | timing {earlier : List Nat} {t : Nat} (h : held.getD (.timing []) = .timing earlier)
      (time : Bag.IsTime value t) : Takes held value .timing (.timing (earlier ++ [t]))

theorem nothing_merge {s : Sample} (notGauge : s.kind ≠ .gauge) :
    (nothing s.kind).merge s = .ok s := by
  cases s with
  | counter value => exact congrArg (Except.ok ∘ counter) (addSaturating_zero value)
  | delta value => exact congrArg (Except.ok ∘ delta) (addDelta_zero value)
  | gauge value => exact absurd rfl notGauge
  | histogram values | timing values => rfl

end Sample

namespace Bag

open Sample

variable {b : Bag} {kind : MetricKind} {name encoded : String} {value : Float} {s after : Sample}

theorem get?_put (b : Bag) (name : String) (s : Sample) (other : String) :
    (b.put name s).get? other = if other = name then some s else b.get? other := by
  split
  · rename_i same
    rw [same, get?_put_self]
  · rename_i different
    exact get?_put_of_ne different b s

/-- A sample is merged with what is held for its name, or with nothing. -/
theorem insert_of_getD_merge (notGauge : s.kind ≠ .gauge)
    (same : ∀ held ∈ b.get? name, held.kind = s.kind)
    (merges : ((b.get? name).getD (nothing s.kind)).merge s = .ok after) :
    b.insert name s = .ok (b.put name after) := by
  cases found : b.get? name with
  | none =>
      rw [found, Option.getD_none, nothing_merge notGauge] at merges
      obtain rfl := Except.ok.inj merges
      exact insert_of_get?_eq_none found s
  | some held =>
      rw [found, Option.getD_some] at merges
      exact insert_of_merge found (same held found ▸ notGauge) merges

theorem exists_insert_eq_error {held : Sample} (found : b.get? name = some held)
    (different : held.kind ≠ s.kind) : ∃ e, b.insert name s = .error e := by
  have refused : ∃ e, held.merge s = .error e := by
    cases merged : held.merge s with
    | error e => exact ⟨e, rfl⟩
    | ok both => exact absurd (exists_merge_eq_ok_iff.mp ⟨both, merged⟩) different
  obtain ⟨e, refused⟩ := refused
  unfold insert
  rw [found]
  cases held with
  | gauge old =>
      cases s with
      | gauge value => exact absurd rfl different
      | _ => exact ⟨_, rfl⟩
  | _ =>
      dsimp only
      rw [refused]
      exact ⟨e, rfl⟩

theorem kind_of_sampleOf (sampled : sampleOf kind value = .ok s) : s.kind = kind := by
  cases kind with
  | timing =>
      obtain ⟨t, _, rfl⟩ := exists_of_map_eq_ok sampled
      rfl
  | _ =>
      obtain rfl := Except.ok.inj sampled
      rfl

/-- A number is a sample of every kind, unless it is a time and reaches the bound. -/
theorem sampleOf_eq_error_iff :
    (∃ e, sampleOf kind value = .error e) ↔ kind = .timing ∧ timeLimit ≤ value := by
  cases kind with
  | timing =>
      rw [sampleOf]
      by_cases long : timeLimit ≤ value
      · rw [nanoseconds?_of_le long]
        exact iff_of_true ⟨_, rfl⟩ ⟨rfl, long⟩
      · obtain ⟨t, taken, _⟩ := nanoseconds?_of_not_le long
        rw [taken]
        exact iff_of_false nofun fun h => long h.2
  | _ => exact iff_of_false nofun nofun

/-- A sample that a number is for a kind is taken up where nothing else is held than this kind. -/
theorem exists_takes_of_sampleOf (sampled : sampleOf kind value = .ok s)
    (same : ∀ held ∈ b.get? name, held.kind = kind) :
    ∃ after, Takes (b.get? name) value kind after ∧ b.insert name s = .ok (b.put name after) := by
  have held : ((b.get? name).getD (nothing kind)).kind = kind := by
    cases found : b.get? name with
    | none => cases kind <;> rfl
    | some held => exact same held found
  generalize current : (b.get? name).getD (nothing kind) = total at held
  cases kind with
  | counter =>
      obtain rfl := Except.ok.inj sampled
      rw [toUnsigned_greater_zero]
      cases total with
      | counter total =>
          exact ⟨_, .counter current (countsAs_toUnsigned value),
            insert_of_getD_merge nofun same (current ▸ rfl)⟩
      | _ => cases held
  | delta =>
      obtain rfl := Except.ok.inj sampled
      cases total with
      | delta total =>
          exact ⟨_, .delta current (countsAs_toSigned value),
            insert_of_getD_merge nofun same (current ▸ rfl)⟩
      | _ => cases held
  | gauge =>
      obtain rfl := Except.ok.inj sampled
      exact ⟨_, .gauge, insert_gauge same value⟩
  | histogram =>
      obtain rfl := Except.ok.inj sampled
      cases total with
      | histogram earlier =>
          exact ⟨_, .histogram current, insert_of_getD_merge nofun same (current ▸ rfl)⟩
      | _ => cases held
  | timing =>
      obtain ⟨t, measured, rfl⟩ := exists_of_map_eq_ok sampled
      have time : IsTime value t := by
        rcases nanoseconds?_cases value with ⟨_, refused⟩ | ⟨_, t', measured', time⟩
        · cases refused.symm.trans measured
        · exact Except.ok.inj (measured'.symm.trans measured) ▸ time
      cases total with
      | timing earlier =>
          exact ⟨_, .timing current time, insert_of_getD_merge nofun same (current ▸ rfl)⟩
      | _ => cases held

/-- A call is a misuse if its name does not begin with a kind and a dot, or if what is behind them
is the name of a sample of another kind. -/
inductive Misuse (b : Bag) (encoded : String) : Prop
  | unknownKind (unknown : ∀ kind name, encoded ≠ MetricKind.encode kind name)
  | otherKind {kind : MetricKind} {name : String} {held : Sample}
      (named : encoded = kind.encode name) (found : b.get? name = some held)
      (different : held.kind ≠ kind)

/-- The call is for a time, and the number reaches two to the 64 seconds. -/
def TooLong (encoded : String) (value : Float) : Prop :=
  (∃ name, encoded = MetricKind.timing.encode name) ∧ timeLimit ≤ value

theorem misuse_encode_iff :
    Misuse b (kind.encode name) ↔ ∃ held ∈ b.get? name, held.kind ≠ kind := by
  constructor
  · rintro (unknown | ⟨named, found, different⟩)
    · exact absurd rfl (unknown kind name)
    · obtain ⟨rfl, rfl⟩ := MetricKind.encode_inj named
      exact ⟨_, found, different⟩
  · rintro ⟨held, found, different⟩
    exact .otherKind rfl found different

theorem tooLong_encode_iff :
    TooLong (kind.encode name) value ↔ kind = .timing ∧ timeLimit ≤ value := by
  constructor
  · rintro ⟨⟨name', named⟩, long⟩
    exact ⟨(MetricKind.encode_inj named).1, long⟩
  · rintro ⟨rfl, long⟩
    exact ⟨⟨name, rfl⟩, long⟩

theorem record_encode (b : Bag) (kind : MetricKind) (name : String) (value : Float) :
    b.record (kind.encode name) value = sampleOf kind value >>= b.insert name := by
  rw [record, MetricKind.parse?_encode]

theorem exists_record_eq_error
    (h : (∃ held ∈ b.get? name, held.kind ≠ kind) ∨ kind = .timing ∧ timeLimit ≤ value) :
    ∃ e, b.record (kind.encode name) value = .error e := by
  rw [record_encode]
  cases sampled : sampleOf kind value with
  | error e => exact ⟨e, rfl⟩
  | ok s =>
      rcases h with ⟨held, found, different⟩ | long
      · exact exists_insert_eq_error found (kind_of_sampleOf sampled ▸ different)
      · obtain ⟨e, failed⟩ := sampleOf_eq_error_iff.mpr long
        cases failed.symm.trans sampled

theorem exists_record_eq_ok (same : ∀ held ∈ b.get? name, held.kind = kind)
    (short : ¬(kind = .timing ∧ timeLimit ≤ value)) :
    ∃ s, Takes (b.get? name) value kind s ∧
      b.record (kind.encode name) value = .ok (b.put name s) := by
  rw [record_encode]
  cases sampled : sampleOf kind value with
  | error e => exact absurd (sampleOf_eq_error_iff.mp ⟨e, sampled⟩) short
  | ok s => exact exists_takes_of_sampleOf sampled same

/-- Recording a number fails when the name is misused, or the number is a time and reaches two to
the 64 seconds. Otherwise it returns, whatever the number is, and changes the sample of its name as
its kind says and no other one. -/
theorem record_fails_or_takes (b : Bag) (encoded : String) (value : Float) :
    (Misuse b encoded ∨ TooLong encoded value) ∧ (∃ e, b.record encoded value = .error e) ∨
      ¬(Misuse b encoded ∨ TooLong encoded value) ∧
        ∃ kind name s b', encoded = MetricKind.encode kind name ∧
          Takes (b.get? name) value kind s ∧ b.record encoded value = .ok b' ∧
          ∀ other, b'.get? other = if other = name then some s else b.get? other := by
  cases parsed : MetricKind.parse? encoded with
  | none =>
      refine .inl ⟨.inl (.unknownKind ?_), .unknownKind encoded, ?_⟩
      · rintro kind name rfl
        rw [MetricKind.parse?_encode] at parsed
        cases parsed
      · rw [record, parsed]
        rfl
  | some read =>
      obtain ⟨kind, name⟩ := read
      obtain rfl := MetricKind.parse?_eq_some_iff.mp parsed
      rw [misuse_encode_iff, tooLong_encode_iff]
      by_cases fails : (∃ held ∈ b.get? name, held.kind ≠ kind) ∨ kind = .timing ∧ timeLimit ≤ value
      · exact .inl ⟨fails, exists_record_eq_error fails⟩
      · obtain ⟨noOther, short⟩ := not_or.mp fails
        have same : ∀ held ∈ b.get? name, held.kind = kind := fun held found =>
          Decidable.byContradiction fun different => noOther ⟨held, found, different⟩
        obtain ⟨s, takes, recorded⟩ := exists_record_eq_ok same short
        exact .inr ⟨fails, kind, name, s, b.put name s, rfl, takes, recorded, get?_put b name s⟩

/-- A name is not misused by a call that fails for the length of its time. Counters and deltas take
the same number, and stop at the ends of their ranges. -/
theorem long_time_fails_without_misuse :
    ¬Misuse {} "timing.flush" ∧
      record {} "timing.flush" 18446744073709551616000.0 = .error .timeOutOfRange ∧
      record {} "counter.flush" 18446744073709551616000.0 =
        .ok (.of [("flush", .counter 18446744073709551615)]) ∧
      record {} "delta.flush" 18446744073709551616000.0 =
        .ok (.of [("flush", .delta 9223372036854775807)]) := by
  refine ⟨?_, rfl, rfl, rfl⟩
  have named : "timing.flush" = MetricKind.timing.encode "flush" := rfl
  rw [named, misuse_encode_iff]
  rintro ⟨held, found, _⟩
  cases found

end Bag

end RecordPipeline
