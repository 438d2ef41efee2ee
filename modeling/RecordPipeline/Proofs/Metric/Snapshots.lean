import Mathlib.Algebra.GroupWithZero.Nat
import Mathlib.Data.List.DropRight
import Mathlib.Data.List.Induction
import RecordPipeline.Proofs.Metric.Bags
import RecordPipeline.Proofs.Success
import RecordPipeline.Table

/-!
Snapshots of a bag in which every name keeps its kind. What is observed is reported in one snapshot,
the next one, and then is gone from the bag; totals and gauges stay, and every snapshot has them as
they are.
-/

namespace RecordPipeline

/-- Whether a snapshot takes samples of the kind out of the bag. -/
def MetricKind.isDrained : MetricKind → Bool
  | .histogram | .timing => true
  | .counter | .delta | .gauge => false

/-- One measurement. A time is in nanoseconds. -/
inductive Measurement where
  | counter (value : UInt64)
  | delta (value : Int64)
  | gauge (value : Float)
  | histogram (value : Float)
  | timing (value : Nat)

namespace Measurement

def kind : Measurement → MetricKind
  | .counter _ => .counter
  | .delta _ => .delta
  | .gauge _ => .gauge
  | .histogram _ => .histogram
  | .timing _ => .timing

/-- The sample that is put into a bag for the measurement. -/
def sample : Measurement → Sample
  | .counter value => .counter value
  | .delta value => .delta value
  | .gauge value => .gauge value
  | .histogram value => .histogram [value]
  | .timing value => .timing [value]

def counter? : Measurement → Option UInt64
  | .counter value => some value
  | _ => none

def delta? : Measurement → Option Int64
  | .delta value => some value
  | _ => none

def gauge? : Measurement → Option Float
  | .gauge value => some value
  | _ => none

def histogram? : Measurement → Option Float
  | .histogram value => some value
  | _ => none

def timing? : Measurement → Option Nat
  | .timing value => some value
  | _ => none

/-- The sample that measurements of one kind make together: the sum of counters, up to the largest
number; the sum of deltas, which goes no further than to the ends of its range at any time; the
latest gauge; all that was observed, in order. No measurement makes no sample. -/
def gathered : MetricKind → List Measurement → Option Sample
  | _, [] => none
  | .counter, ms => some (.counter (.ofNatClamp ((ms.filterMap counter?).map UInt64.toNat).sum))
  | .delta, ms => some (.delta ((ms.filterMap delta?).foldl
      (fun total value => .ofIntClamp (total.toInt + value.toInt)) 0))
  | .gauge, ms => (ms.filterMap gauge?).getLast?.map .gauge
  | .histogram, ms => some (.histogram (ms.filterMap histogram?))
  | .timing, ms => some (.timing (ms.filterMap timing?))

end Measurement

theorem Bag.isDrained_eq (s : Sample) : isDrained s = s.kind.isDrained := by
  cases s <;> rfl

/-- What was observed, one measurement for each observation. -/
def Sample.observations : Sample → List Measurement
  | .histogram values => values.map .histogram
  | .timing values => values.map .timing
  | .counter _ | .delta _ | .gauge _ => []

namespace Measurement

@[simp]
theorem gathered_nil (kind : MetricKind) : gathered kind [] = none := by
  cases kind <;> rfl

theorem gathered_singleton (m : Measurement) : gathered m.kind [m] = some m.sample := by
  cases m with
  | counter value =>
      have same : UInt64.ofNatClamp (value.toNat + 0) = value := by
        apply UInt64.toNat_inj.mp
        rw [Bag.toNat_ofNatClamp, Nat.add_zero]
        exact Nat.min_eq_left (Nat.le_sub_one_of_lt value.toNat_lt)
      exact congrArg (fun value => some (Sample.counter value)) same
  | delta value =>
      have same : Int64.ofIntClamp ((0 : Int64).toInt + value.toInt) = value := by
        rw [Int64.toInt_zero, Int.zero_add, Int64.ofIntClamp_toInt]
      exact congrArg (fun value => some (Sample.delta value)) same
  | gauge value | histogram value | timing value => rfl

variable {kind : MetricKind} {ms : List Measurement} {s : Sample}

theorem kind_of_gathered (h : gathered kind ms = some s) : s.kind = kind := by
  cases ms with
  | nil =>
      rw [gathered_nil] at h
      cases h
  | cons m rest =>
      cases kind with
      | gauge =>
          obtain ⟨value, _, rfl⟩ := Option.map_eq_some_iff.mp h
          rfl
      | _ =>
          obtain rfl := Option.some.inj h
          rfl

/-- Measurements of one kind are those that their values make. -/
theorem map_filterMap_of_kind {α : Type} {value? : Measurement → Option α} {make : α → Measurement}
    (of : ∀ m : Measurement, m.kind = kind → (value? m).map make = some m)
    (same : ∀ m ∈ ms, m.kind = kind) : (ms.filterMap value?).map make = ms := by
  rw [List.map_filterMap]
  induction ms with
  | nil => rfl
  | cons m rest ih =>
      obtain ⟨first, later⟩ := List.forall_mem_cons.mp same
      simp only [List.filterMap_cons, of m first, ih later]

/-- From what was gathered of a kind that is drained all observations can be had again. -/
theorem observations_gathered (same : ∀ m ∈ ms, m.kind = kind) (drained : kind.isDrained = true) :
    (gathered kind ms).elim [] Sample.observations = ms := by
  cases ms with
  | nil => rw [gathered_nil, Option.elim_none]
  | cons m rest =>
      cases kind with
      | histogram =>
          refine map_filterMap_of_kind ?_ same
          intro m isHistogram
          cases m with
          | histogram value => rfl
          | _ => cases isHistogram
      | timing =>
          refine map_filterMap_of_kind ?_ same
          intro m isTiming
          cases m with
          | timing value => rfl
          | _ => cases isTiming
      | counter | delta | gauge => cases drained

theorem gathered_eq_none_iff (same : ∀ m ∈ ms, m.kind = kind) :
    gathered kind ms = none ↔ ms = [] := by
  cases ms with
  | nil => exact iff_of_true (gathered_nil kind) rfl
  | cons m rest =>
      refine iff_of_false ?_ (List.cons_ne_nil m rest)
      cases kind with
      | gauge =>
          obtain ⟨isGauge, _⟩ := List.forall_mem_cons.mp same
          cases m with
          | gauge value => simp [gathered, gauge?]
          | _ => cases isGauge
      | _ => nofun

/-- A sample of what was gathered before is merged into a sample of all. -/
theorem merge_gathered {m : Measurement} {current : Sample} (notGauge : m.kind ≠ .gauge)
    (h : gathered m.kind ms = some current) :
    ∃ merged, gathered m.kind (ms ++ [m]) = some merged ∧ current.merge m.sample = .ok merged := by
  cases ms with
  | nil =>
      rw [gathered_nil] at h
      cases h
  | cons first rest =>
      cases m with
      | counter value =>
          obtain rfl := Option.some.inj h
          refine ⟨_, rfl, congrArg (Except.ok ∘ Sample.counter) (UInt64.toNat_inj.mp ?_)⟩
          rw [Bag.toNat_addSaturating, Bag.toNat_ofNatClamp, Bag.toNat_ofNatClamp,
            List.filterMap_append, List.map_append, List.sum_append]
          simp only [List.filterMap_cons, List.filterMap_nil, counter?, List.map_cons,
            List.map_nil, List.sum_cons, List.sum_nil]
          omega
      | delta value =>
          obtain rfl := Option.some.inj h
          refine ⟨_, rfl, ?_⟩
          rw [List.filterMap_append, List.foldl_append]
          rfl
      | gauge value => exact absurd rfl notGauge
      | histogram value | timing value =>
          obtain rfl := Option.some.inj h
          refine ⟨_, rfl, ?_⟩
          rw [List.filterMap_append]
          rfl

theorem gathered_concat_gauge (ms : List Measurement) (value : Float) :
    gathered .gauge (ms ++ [.gauge value]) = some (.gauge value) := by
  have last : ((ms ++ [gauge value]).filterMap gauge?).getLast? = some value := by
    rw [List.filterMap_append]
    exact List.getLast?_concat
  obtain ⟨first, rest, same⟩ := List.exists_cons_of_ne_nil (List.concat_ne_nil (gauge value) ms)
  rw [same] at last ⊢
  exact congrArg (Option.map Sample.gauge) last

/-- A measurement that is recorded is gathered with the earlier ones of its name. -/
theorem insert_gathered {b : Bag} {name : String} {m : Measurement}
    (h : b.get? name = gathered m.kind ms) :
    ∃ s, gathered m.kind (ms ++ [m]) = some s ∧ b.insert name m.sample = .ok (b.put name s) := by
  by_cases isGauge : m.kind = .gauge
  · cases m with
    | gauge value =>
        refine ⟨_, gathered_concat_gauge ms value, Bag.insert_gauge ?_ value⟩
        intro current found
        exact kind_of_gathered (h.symm.trans found)
    | _ => cases isGauge
  · cases found : gathered m.kind ms with
    | some current =>
        obtain ⟨merged, all, merges⟩ := merge_gathered isGauge found
        have notGauge : current.kind ≠ .gauge := kind_of_gathered found ▸ isGauge
        exact ⟨merged, all, Bag.insert_of_merge (h.trans found) notGauge merges⟩
    | none =>
        have nothing : ms = [] := by
          cases ms with
          | nil => rfl
          | cons first rest =>
              cases m with
              | gauge value => exact absurd rfl isGauge
              | _ => cases found
        subst nothing
        exact ⟨m.sample, gathered_singleton m, Bag.insert_of_get?_eq_none (h.trans found) m.sample⟩

end Measurement

/-- What is done with a bag: something is measured, or a snapshot is taken. -/
inductive BagEvent where
  | record (name : String) (m : Measurement)
  | snapshot

namespace BagEvent

def isSnapshot : BagEvent → Bool
  | .record _ _ => false
  | .snapshot => true

/-- The measurement of a name. -/
def measurement? (name : String) : BagEvent → Option Measurement
  | .record other m => if other = name then some m else none
  | .snapshot => none

/-- All measurements of a name. -/
def recorded (name : String) (events : List BagEvent) : List Measurement :=
  events.filterMap (measurement? name)

/-- What happened since the last snapshot. -/
def sinceSnapshot (events : List BagEvent) : List BagEvent :=
  events.rtakeWhile fun e => !e.isSnapshot

/-- The measurements of a name that a snapshot covers if it is taken after these events. -/
def covered (kind : MetricKind) (name : String) (events : List BagEvent) : List Measurement :=
  recorded name (if kind.isDrained then sinceSnapshot events else events)

variable {kind : MetricKind} {name : String} {events : List BagEvent} {m : Measurement}

theorem mem_recorded : m ∈ recorded name events ↔ .record name m ∈ events := by
  rw [recorded, List.mem_filterMap]
  constructor
  · rintro ⟨e, member, measured⟩
    cases e with
    | snapshot => cases measured
    | record other m' =>
        rw [measurement?, Option.ite_none_right_eq_some] at measured
        obtain ⟨rfl, same⟩ := measured
        exact Option.some.inj same ▸ member
  · exact fun member => ⟨_, member, if_pos rfl⟩

theorem recorded_concat (name : String) (events : List BagEvent) (e : BagEvent) :
    recorded name (events ++ [e]) = recorded name events ++ (measurement? name e).toList := by
  rw [recorded, List.filterMap_append]
  cases measured : measurement? name e with
  | none => rw [List.filterMap_cons_none measured]; rfl
  | some m => rw [List.filterMap_cons_some measured]; rfl

theorem recorded_concat_snapshot (name : String) (events : List BagEvent) :
    recorded name (events ++ [.snapshot]) = recorded name events :=
  (recorded_concat name events .snapshot).trans (List.append_nil _)

/-- A measurement is covered until the next snapshot at least. -/
theorem covered_concat_record (kind : MetricKind) (name : String) (events : List BagEvent)
    (other : String) (m : Measurement) :
    covered kind name (events ++ [.record other m]) =
      covered kind name events ++ (measurement? name (.record other m)).toList := by
  rw [covered, covered, ← recorded_concat]
  split
  · exact congrArg (recorded name) (List.rtakeWhile_concat_pos _ _ _ rfl)
  · rfl

theorem covered_concat_snapshot (kind : MetricKind) (name : String) (events : List BagEvent) :
    covered kind name (events ++ [.snapshot]) =
      if kind.isDrained then [] else covered kind name events := by
  cases drained : kind.isDrained with
  | true =>
      rw [covered, drained, if_pos rfl, if_pos rfl, sinceSnapshot,
        List.rtakeWhile_concat_neg _ _ _ Bool.false_ne_true]
      rfl
  | false =>
      simp only [covered, drained, Bool.false_eq_true, if_false, recorded_concat_snapshot]

theorem covered_subset : covered kind name events ⊆ recorded name events := by
  intro m member
  rw [covered, mem_recorded] at member
  rw [mem_recorded]
  split at member
  · exact (List.rtakeWhile_suffix _ _).subset member
  · exact member

end BagEvent

namespace Bag

open BagEvent

/-- What a bag holds of the observations of a name. -/
def observations (name : String) (b : Bag) : List Measurement :=
  (b.get? name).elim [] Sample.observations

/-- One event. Snapshots are put behind the earlier ones. -/
def step (s : List Bag × Bag) : BagEvent → Except MetricMisuse (List Bag × Bag)
  | .record name m => (s.2.insert name m.sample).map (s.1, ·)
  | .snapshot => .ok (s.1 ++ [s.2.snapshot.1], s.2.snapshot.2)

/-- The snapshots that are taken of a new bag, and the bag in the end. -/
def perform (events : List BagEvent) : Except MetricMisuse (List Bag × Bag) :=
  events.foldlM step ([], {})

/-- The state of a bag, in which each name is used with one kind, after some events. -/
structure Holds (kindOf : String → MetricKind) (events : List BagEvent) (b : Bag) : Prop where
  kinds : ∀ name, ∀ m ∈ recorded name events, m.kind = kindOf name
  samples : ∀ name,
    b.get? name = Measurement.gathered (kindOf name) (covered (kindOf name) name events)

namespace Holds

variable {kindOf : String → MetricKind} {events : List BagEvent} {b : Bag} {name : String}

theorem kinds_covered (h : Holds kindOf events b) (name : String) :
    ∀ m ∈ covered (kindOf name) name events, m.kind = kindOf name :=
  fun m member => h.kinds name m (covered_subset member)

/-- What a bag holds of a name that is drained has not been in a snapshot. -/
theorem observations_eq (h : Holds kindOf events b) (drained : (kindOf name).isDrained = true) :
    b.observations name = covered (kindOf name) name events := by
  rw [observations, h.samples]
  exact Measurement.observations_gathered (h.kinds_covered name) drained

/-- A bag has the names of which there is something to report. -/
theorem mem_keys_iff (h : Holds kindOf events b) :
    name ∈ Table.keys b.entries ↔ covered (kindOf name) name events ≠ [] := by
  rw [Ne, ← Measurement.gathered_eq_none_iff (h.kinds_covered name), ← h.samples]
  constructor
  · intro member absent
    obtain ⟨⟨_, s⟩, inside, rfl⟩ := List.mem_map.mp member
    rw [get?_of_mem inside] at absent
    cases absent
  · intro present
    obtain ⟨s, found⟩ := Option.ne_none_iff_exists'.mp present
    exact List.mem_map_of_mem (mem_of_get? found)

/-- No sample of observations in the bag is without any. -/
theorem nonempty (h : Holds kindOf events b) :
    ∀ entry ∈ b.entries, entry.2 ≠ .histogram [] ∧ entry.2 ≠ .timing [] := by
  have observed : ∀ entry ∈ b.entries, isDrained entry.2 = true → entry.2.observations ≠ [] := by
    rintro ⟨name, s⟩ member isDrained none
    have found := get?_of_mem member
    have kind := Measurement.kind_of_gathered ((h.samples name).symm.trans found)
    rw [isDrained_eq, kind] at isDrained
    have nothing : b.observations name = [] := by
      rw [observations, found]
      exact none
    rw [h.observations_eq isDrained] at nothing
    exact h.mem_keys_iff.mp (List.mem_map_of_mem member) nothing
  intro entry member
  constructor
  · intro same
    exact observed entry member (by rw [same]; rfl) (by rw [same]; rfl)
  · intro same
    exact observed entry member (by rw [same]; rfl) (by rw [same]; rfl)

/-- A measurement is taken up, and concerns no other name. -/
theorem record (h : Holds kindOf events b) {m : Measurement} (kind : m.kind = kindOf name) :
    ∃ b', b.insert name m.sample = .ok b' ∧ Holds kindOf (events ++ [.record name m]) b' := by
  have earlier := h.samples name
  rw [← kind] at earlier
  obtain ⟨s, gathered, inserted⟩ := Measurement.insert_gathered earlier
  refine ⟨b.put name s, inserted, ?_, ?_⟩
  · intro other m' member
    rw [mem_recorded, List.mem_append, List.mem_singleton] at member
    rcases member with earlier | last
    · exact h.kinds other m' (mem_recorded.mpr earlier)
    · cases last
      exact kind
  · intro other
    rw [covered_concat_record, measurement?]
    by_cases same : name = other
    · subst same
      rw [if_pos rfl, get?_put_self, ← kind]
      exact gathered.symm
    · rw [if_neg same, get?_put_of_ne (Ne.symm same), h.samples, Option.toList_none,
        List.append_nil]

/-- A snapshot leaves the samples of the other kinds as they are. -/
theorem get?_snapshot (h : Holds kindOf events b) (name : String) :
    get? name b.snapshot.2 = if (kindOf name).isDrained then none else b.get? name := by
  have left : get? name b.snapshot.2 = (b.get? name).filter (!isDrained ·) :=
    b.get?_filter (!isDrained ·) name
  rw [left]
  cases found : b.get? name with
  | none => exact (ite_self none).symm
  | some s =>
      have kind := Measurement.kind_of_gathered ((h.samples name).symm.trans found)
      rw [← kind, ← isDrained_eq]
      cases drained : isDrained s with
      | true => simp [drained]
      | false => simp [drained]

theorem snapshot (h : Holds kindOf events b) :
    Holds kindOf (events ++ [.snapshot]) b.snapshot.2 := by
  refine ⟨?_, ?_⟩
  · intro name m member
    rw [recorded_concat_snapshot] at member
    exact h.kinds name m member
  · intro name
    rw [h.get?_snapshot, covered_concat_snapshot, h.samples]
    cases (kindOf name).isDrained with
    | true => simp
    | false => rfl

end Holds

/-- What is known of the snapshots and the bag after some events. Each observation is in a snapshot
or in the bag, and those of a name are there in the order in which they were recorded. -/
structure Reported (kindOf : String → MetricKind) (events : List BagEvent)
    (s : List Bag × Bag) : Prop where
  holds : Holds kindOf events s.2
  count : s.1.length = events.countP isSnapshot
  nonempty : ∀ snapshot ∈ s.1, ∀ entry ∈ snapshot.entries,
    entry.2 ≠ .histogram [] ∧ entry.2 ≠ .timing []
  observations : ∀ name, (kindOf name).isDrained = true →
    s.1.flatMap (observations name) ++ covered (kindOf name) name events = recorded name events

theorem Reported.step {kindOf : String → MetricKind} {events : List BagEvent}
    {s : List Bag × Bag} (h : Reported kindOf events s) {e : BagEvent}
    (kind : ∀ name m, e = .record name m → m.kind = kindOf name) :
    ∃ s', step s e = .ok s' ∧ Reported kindOf (events ++ [e]) s' := by
  obtain ⟨holds, count, nonempty, observed⟩ := h
  cases e with
  | record name m =>
      obtain ⟨b', inserted, holds'⟩ := holds.record (kind name m rfl)
      refine ⟨(s.1, b'), by rw [Bag.step, inserted]; rfl, holds', ?_, nonempty, ?_⟩
      · rw [List.countP_append, count]
        rfl
      · intro other drained
        rw [covered_concat_record, recorded_concat, ← List.append_assoc, observed other drained]
  | snapshot =>
      refine ⟨_, rfl, holds.snapshot, ?_, ?_, ?_⟩
      · rw [List.countP_append, List.length_append, count]
        rfl
      · intro snapshot member
        rcases List.mem_append.mp member with earlier | last
        · exact nonempty snapshot earlier
        · rw [List.mem_singleton.mp last]
          exact holds.nonempty
      · intro name drained
        -- What was covered leaves the bag and is in the new snapshot.
        have all := observed name drained
        rw [← holds.observations_eq drained] at all
        rw [covered_concat_snapshot, if_pos drained, recorded_concat_snapshot,
          List.flatMap_append, List.flatMap_singleton, List.append_nil]
        exact all

/-- If each name is used with one kind, everything is taken up. -/
theorem reported_of_kinds {kindOf : String → MetricKind} {events : List BagEvent}
    (one : ∀ name m, .record name m ∈ events → m.kind = kindOf name) :
    ∃ s, perform events = .ok s ∧ Reported kindOf events s := by
  induction events using List.reverseRecOn with
  | nil =>
      have holds : Holds kindOf [] {} := by
        refine ⟨fun name m member => absurd member List.not_mem_nil, ?_⟩
        intro name
        rw [covered, sinceSnapshot, List.rtakeWhile_nil, ite_self, recorded, List.filterMap_nil,
          Measurement.gathered_nil]
        rfl
      refine ⟨([], {}), rfl, holds, rfl, List.forall_mem_nil _, ?_⟩
      intro name drained
      rw [covered, if_pos drained]
      rfl
  | append_singleton events e ih =>
      obtain ⟨s, performed, reported⟩ :=
        ih fun name m member => one name m (List.mem_append_left [e] member)
      obtain ⟨s', stepped, reported'⟩ := reported.step fun name m same =>
        one name m (List.mem_append_right events (List.mem_singleton.mpr same.symm))
      refine ⟨s', ?_, reported'⟩
      rw [perform, List.foldlM_append, bind_eq_ok_iff]
      refine ⟨s, performed, ?_⟩
      rw [List.foldlM_cons, stepped]
      rfl

/-- Later events leave the snapshots that were taken. -/
theorem prefix_of_foldlM {events : List BagEvent} {s s' : List Bag × Bag}
    (performed : events.foldlM step s = .ok s') : s.1 <+: s'.1 := by
  induction events generalizing s with
  | nil =>
      obtain rfl := Except.ok.inj performed
      exact List.prefix_rfl
  | cons e rest ih =>
      rw [List.foldlM_cons, bind_eq_ok_iff] at performed
      obtain ⟨between, stepped, later⟩ := performed
      refine List.IsPrefix.trans ?_ (ih later)
      cases e with
      | record name m =>
          obtain ⟨b', _, rfl⟩ := exists_of_map_eq_ok stepped
          exact List.prefix_rfl
      | snapshot =>
          obtain rfl := Except.ok.inj stepped
          exact List.prefix_append s.1 _

/-- If each name is used with one kind, every measurement is taken up, however the measurements and
the snapshots follow each other. What was observed under a name is in the snapshots and behind them
in the bag, each observation once and all of them in order, and no snapshot has a histogram or a
timing without observations. A snapshot has the sample that is gathered of all measurements of a
name so far, or of those since the last snapshot if it takes them out of the bag; it has exactly the
names for which there are such measurements, and leaves what it does not take out as it is. -/
theorem snapshots_report_once {kindOf : String → MetricKind} {events : List BagEvent}
    (one : ∀ name m, .record name m ∈ events → m.kind = kindOf name) :
    ∃ snapshots b, perform events = .ok (snapshots, b) ∧
      snapshots.length = events.countP isSnapshot ∧
      (∀ name, (kindOf name).isDrained = true →
        (snapshots ++ [b]).flatMap (observations name) = recorded name events) ∧
      (∀ snapshot ∈ snapshots, ∀ entry ∈ snapshot.entries,
        entry.2 ≠ .histogram [] ∧ entry.2 ≠ .timing []) ∧
      ∀ front back, events = front ++ .snapshot :: back →
        ∃ taken before, perform front = .ok (taken, before) ∧
          taken ++ [before.snapshot.1] <+: snapshots ∧
          ∀ name,
            get? name before.snapshot.1 =
              Measurement.gathered (kindOf name) (covered (kindOf name) name front) ∧
            (name ∈ Table.keys before.snapshot.1.entries ↔ covered (kindOf name) name front ≠ []) ∧
            get? name before.snapshot.2 =
              if (kindOf name).isDrained then none else before.get? name := by
  obtain ⟨⟨snapshots, b⟩, performed, reported⟩ := reported_of_kinds one
  refine ⟨snapshots, b, performed, reported.count, ?_, reported.nonempty, ?_⟩
  · intro name drained
    rw [List.flatMap_append, List.flatMap_singleton, reported.holds.observations_eq drained]
    exact reported.observations name drained
  · rintro front back rfl
    have oneFront : ∀ name m, .record name m ∈ front → m.kind = kindOf name :=
      fun name m member => one name m (List.mem_append_left _ member)
    obtain ⟨⟨taken, before⟩, performed', reported'⟩ := reported_of_kinds oneFront
    rw [perform, List.foldlM_append, bind_eq_ok_iff] at performed
    obtain ⟨s, reached, later⟩ := performed
    obtain rfl := Except.ok.inj (performed'.symm.trans reached)
    refine ⟨taken, before, performed', ?_, ?_⟩
    · rw [List.foldlM_cons, bind_eq_ok_iff] at later
      obtain ⟨s', stepped, later⟩ := later
      obtain rfl := Except.ok.inj stepped
      exact prefix_of_foldlM later
    · intro name
      exact ⟨reported'.holds.samples name, reported'.holds.mem_keys_iff,
        reported'.holds.get?_snapshot name⟩

/-- Two files that are written, with a snapshot behind the first and one behind the second. -/
def writtenFiles : List BagEvent :=
  [.record "files" (.counter 2), .record "flush" (.timing 30), .record "flush" (.timing 40),
    .snapshot, .record "flush" (.timing 50), .record "files" (.counter 1), .snapshot,
    .record "flush" (.timing 60)]

/-- The first snapshot has the first two times, the second one the third time and the total of both
counts, and the last time is still in the bag. -/
theorem written_files_report_once :
    ∃ snapshots b, perform writtenFiles = .ok (snapshots, b) ∧ snapshots.length = 2 ∧
      (snapshots ++ [b]).flatMap (observations "flush") =
        [.timing 30, .timing 40, .timing 50, .timing 60] ∧
      ∃ second ∈ snapshots, second.get? "files" = some (.counter 3) ∧
        second.get? "flush" = some (.timing [50]) := by
  have one : ∀ name m, .record name m ∈ writtenFiles →
      m.kind = if name = "files" then .counter else .timing := by
    intro name m member
    simp only [writtenFiles, List.mem_cons, BagEvent.record.injEq, reduceCtorEq, false_or,
      List.not_mem_nil, or_false] at member
    rcases member with ⟨rfl, rfl⟩ | ⟨rfl, rfl⟩ | ⟨rfl, rfl⟩ | ⟨rfl, rfl⟩ | ⟨rfl, rfl⟩ | ⟨rfl, rfl⟩
    all_goals rfl
  obtain ⟨snapshots, b, performed, count, order, _, each⟩ := snapshots_report_once one
  obtain ⟨taken, before, _, begins, found⟩ := each (writtenFiles.take 6) (writtenFiles.drop 7) rfl
  refine ⟨snapshots, b, performed, count, order "flush" rfl, before.snapshot.1, ?_,
    (found "files").1, (found "flush").1⟩
  exact begins.subset (List.mem_append_right taken List.mem_cons_self)

end Bag

end RecordPipeline
