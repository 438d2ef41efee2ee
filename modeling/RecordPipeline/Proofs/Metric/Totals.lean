import Mathlib.Algebra.GroupWithZero.Nat
import Mathlib.Algebra.Ring.Int.Defs
import Mathlib.Data.List.Induction
import RecordPipeline.Proofs.Metric.Bags

/-!
What samples of one kind make when they are merged one after the other. Counters add up, to the
largest number at most; deltas add up exactly while no sum on the way leaves their range;
observations are put behind each other, and a gauge is averaged with the next one. Only gauges, and
deltas that leave their range, show how the samples were grouped.
-/

namespace RecordPipeline.Sample

def counter? : Sample → Option UInt64
  | .counter value => some value
  | _ => none

def delta? : Sample → Option Int64
  | .delta value => some value
  | _ => none

def gauge? : Sample → Option Float
  | .gauge value => some value
  | _ => none

def histogram? : Sample → Option (List Float)
  | .histogram values => some values
  | _ => none

def timing? : Sample → Option (List Nat)
  | .timing values => some values
  | _ => none

/-- The sum of all counters. -/
def counterSum (samples : List Sample) : Nat := ((samples.filterMap counter?).map UInt64.toNat).sum

/-- The sum of all deltas. -/
def deltaSum (samples : List Sample) : Int := ((samples.filterMap delta?).map Int64.toInt).sum

/-- No sum of deltas leaves the range of a delta, from the first one on. -/
def DeltasFit (samples : List Sample) : Prop :=
  ∀ front, front <+: samples →
    Int64.minValue.toInt ≤ deltaSum front ∧ deltaSum front ≤ Int64.maxValue.toInt

/-- The first gauge, averaged with one after the other of the others. -/
def averaged : List Float → Float
  | [] => 0.0
  | first :: rest => rest.foldl (fun mean value => (mean + value) / 2.0) first

/-- The sample that samples of a kind make together. -/
def total (kind : MetricKind) (samples : List Sample) : Sample :=
  match kind with
  | .counter => .counter (.ofNatClamp (counterSum samples))
  | .delta => .delta ((samples.filterMap delta?).foldl addDelta 0)
  | .gauge => .gauge (averaged (samples.filterMap gauge?))
  | .histogram => .histogram (samples.filterMap histogram?).flatten
  | .timing => .timing (samples.filterMap timing?).flatten

/-- The sample that samples of one kind make together, unless there are none. -/
def total? : List Sample → Option Sample
  | [] => none
  | s :: rest => some (total s.kind (s :: rest))

/-- A sample behind what is there of its name. -/
def joined (current : Option Sample) (s : Sample) : Except MetricMisuse Sample :=
  match current with
  | none => .ok s
  | some current => current.merge s

section Kinds

variable {current s : Sample}

/-- Samples are merged if they are of one kind. -/
theorem exists_merge_eq_ok_iff :
    (∃ merged, current.merge s = .ok merged) ↔ current.kind = s.kind := by
  cases current <;> cases s <;> simp [merge, kind]

theorem kind_total (kind : MetricKind) (samples : List Sample) :
    (total kind samples).kind = kind := by
  cases kind <;> rfl

end Kinds

section Sums

variable (xs ys : List Sample)

theorem counterSum_append : counterSum (xs ++ ys) = counterSum xs + counterSum ys := by
  rw [counterSum, List.filterMap_append, List.map_append, List.sum_append]
  rfl

theorem deltaSum_append : deltaSum (xs ++ ys) = deltaSum xs + deltaSum ys := by
  rw [deltaSum, List.filterMap_append, List.map_append, List.sum_append]
  rfl

/-- Sums that stop at the largest number can themselves be summed up. -/
theorem addSaturating_ofNatClamp (m n : Nat) :
    addSaturating (.ofNatClamp m) (.ofNatClamp n) = .ofNatClamp (m + n) := by
  apply UInt64.toNat_inj.mp
  simp only [Bag.toNat_addSaturating, Bag.toNat_ofNatClamp]
  omega

variable {xs ys}

theorem DeltasFit.of_begins (h : DeltasFit ys) (front : xs <+: ys) : DeltasFit xs :=
  fun _ begins => h _ (begins.trans front)

theorem addSaturating_zero (n : UInt64) : addSaturating 0 n = n := by
  apply UInt64.toNat_inj.mp
  have small : n.toNat ≤ UInt64.size - 1 := Nat.le_sub_one_of_lt n.toNat_lt
  have zero : (0 : UInt64).toNat = 0 := rfl
  rw [Bag.toNat_addSaturating, zero]
  omega

theorem addDelta_zero (value : Int64) : addDelta 0 value = value := by
  rw [addDelta, Int64.toInt_zero, Int.zero_add, Int64.ofIntClamp_toInt]

/-- Deltas that stay in their range make their exact sum. -/
theorem toInt_foldl_addDelta (fits : DeltasFit xs) :
    ((xs.filterMap delta?).foldl addDelta 0).toInt = deltaSum xs := by
  induction xs using List.reverseRecOn with
  | nil => rfl
  | append_singleton xs x ih =>
      have earlier := ih (fits.of_begins (List.prefix_append xs [x]))
      obtain ⟨least, largest⟩ := fits _ List.prefix_rfl
      rw [deltaSum_append] at least largest ⊢
      rw [List.filterMap_append, List.foldl_append]
      cases x with
      | delta value =>
          have last : deltaSum [.delta value] = value.toInt := Int.add_zero _
          rw [last] at least largest ⊢
          rw [← earlier] at least largest ⊢
          exact Int64.toInt_ofIntClamp least largest
      | counter _ | gauge _ | histogram _ | timing _ => exact earlier.trans (Int.add_zero _).symm

end Sums

section Totals

variable {kind : MetricKind} {samples xs ys : List Sample}

theorem total?_of_kind (some' : samples ≠ []) (same : ∀ s ∈ samples, s.kind = kind) :
    total? samples = some (total kind samples) := by
  cases samples with
  | nil => exact absurd rfl some'
  | cons s rest => rw [total?, same s List.mem_cons_self]

theorem total?_eq_none_iff : total? samples = none ↔ samples = [] := by
  cases samples with
  | nil => exact iff_of_true rfl rfl
  | cons s rest => exact iff_of_false nofun nofun

theorem kind_of_total? {t : Sample} (same : ∀ s ∈ samples, s.kind = kind)
    (h : total? samples = some t) : t.kind = kind := by
  cases samples with
  | nil => cases h
  | cons s rest =>
      obtain rfl := Option.some.inj h
      exact (kind_total _ _).trans (same s List.mem_cons_self)

theorem eq_total_of_total? {t : Sample} (h : total? samples = some t) :
    t = total t.kind samples := by
  cases samples with
  | nil => cases h
  | cons s rest =>
      obtain rfl := Option.some.inj h
      rw [kind_total]

/-- A total of counters does not depend on their order. -/
theorem total?_eq_counter_iff_of_perm {value : UInt64} (perm : xs.Perm ys)
    (same : ∀ s ∈ ys, ∀ s' ∈ ys, s.kind = s'.kind) :
    total? xs = some (.counter value) ↔ total? ys = some (.counter value) := by
  cases ys with
  | nil => rw [perm.eq_nil]
  | cons y rest =>
      have ofYs : ∀ s ∈ y :: rest, s.kind = y.kind := fun s member =>
        same s member y List.mem_cons_self
      have ofXs : ∀ s ∈ xs, s.kind = y.kind := fun s member => ofYs s (perm.subset member)
      have some' : xs ≠ [] := by
        rintro rfl
        exact List.cons_ne_nil y rest perm.nil_eq.symm
      rw [total?_of_kind some' ofXs, total?_of_kind (List.cons_ne_nil y rest) ofYs]
      cases y.kind with
      | counter =>
          have sums : counterSum xs = counterSum (y :: rest) :=
            ((perm.filterMap counter?).map UInt64.toNat).sum_nat
          rw [total, total, sums]
      | delta | gauge | histogram | timing => exact iff_of_false nofun nofun

theorem total?_singleton (s : Sample) : total? [s] = some s := by
  cases s with
  | counter value =>
      have same : UInt64.ofNatClamp (value.toNat + 0) = value := by
        apply UInt64.toNat_inj.mp
        rw [Bag.toNat_ofNatClamp, Nat.add_zero]
        exact Nat.min_eq_left (Nat.le_sub_one_of_lt value.toNat_lt)
      exact congrArg (fun value => some (Sample.counter value)) same
  | delta value => exact congrArg (fun value => some (Sample.delta value)) (addDelta_zero value)
  | gauge value => rfl
  | histogram values =>
      exact congrArg (fun values => some (histogram values)) (List.append_nil values)
  | timing values => exact congrArg (fun values => some (timing values)) (List.append_nil values)

/-- One more sample of the kind is merged into the total. -/
theorem merge_total_of_kind {s : Sample} (some' : xs ≠ []) (same : ∀ x ∈ xs, x.kind = s.kind) :
    (total s.kind xs).merge s = .ok (total s.kind (xs ++ [s])) := by
  cases s with
  | counter value =>
      have added := counterSum_append xs [.counter value]
      have last : counterSum [.counter value] = value.toNat := Nat.add_zero _
      refine congrArg (Except.ok ∘ Sample.counter) (UInt64.toNat_inj.mp ?_)
      rw [added, last, Bag.toNat_addSaturating, Bag.toNat_ofNatClamp, Bag.toNat_ofNatClamp]
      omega
  | delta value =>
      have added : ((xs ++ [delta value]).filterMap delta?).foldl addDelta 0 =
          addDelta ((xs.filterMap delta?).foldl addDelta 0) value := by
        rw [List.filterMap_append, List.foldl_append]
        rfl
      exact congrArg (Except.ok ∘ Sample.delta) added.symm
  | gauge value =>
      obtain ⟨x, rest, rfl⟩ := List.exists_cons_of_ne_nil some'
      have first := same x List.mem_cons_self
      cases x with
      | gauge old =>
          have added : averaged ((gauge old :: rest ++ [gauge value]).filterMap gauge?) =
              (averaged ((gauge old :: rest).filterMap gauge?) + value) / 2.0 := by
            rw [List.filterMap_append]
            exact List.foldl_append
          exact congrArg (Except.ok ∘ Sample.gauge) added.symm
      | counter _ | delta _ | histogram _ | timing _ => cases first
  | histogram values =>
      have added : ((xs ++ [histogram values]).filterMap histogram?).flatten =
          (xs.filterMap histogram?).flatten ++ values := by
        rw [List.filterMap_append, List.flatten_append]
        exact congrArg _ (List.append_nil values)
      exact congrArg (Except.ok ∘ Sample.histogram) added.symm
  | timing values =>
      have added : ((xs ++ [timing values]).filterMap timing?).flatten =
          (xs.filterMap timing?).flatten ++ values := by
        rw [List.filterMap_append, List.flatten_append]
        exact congrArg _ (List.append_nil values)
      exact congrArg (Except.ok ∘ Sample.timing) added.symm

theorem total?_concat {s : Sample} (same : ∀ x ∈ xs, x.kind = s.kind) :
    ∃ merged, total? (xs ++ [s]) = some merged ∧ joined (total? xs) s = .ok merged := by
  by_cases none : xs = []
  · subst none
    exact ⟨s, total?_singleton s, rfl⟩
  · refine ⟨total s.kind (xs ++ [s]), ?_, ?_⟩
    · apply total?_of_kind (List.concat_ne_nil s xs)
      intro x member
      rcases List.mem_append.mp member with earlier | last
      · exact same x earlier
      · rw [List.mem_singleton.mp last]
    · rw [total?_of_kind none same]
      exact merge_total_of_kind none same

/-- Two totals are merged into the total of all samples, unless these are gauges or deltas that
leave their range. -/
theorem merge_total (notGauge : kind ≠ .gauge)
    (fits : kind = .delta → DeltasFit (xs ++ ys) ∧ DeltasFit ys) :
    (total kind xs).merge (total kind ys) = .ok (total kind (xs ++ ys)) := by
  cases kind with
  | counter =>
      refine congrArg (Except.ok ∘ Sample.counter) ?_
      rw [addSaturating_ofNatClamp, counterSum_append]
  | delta =>
      obtain ⟨all, later⟩ := fits rfl
      obtain ⟨least, largest⟩ := all _ List.prefix_rfl
      refine congrArg (Except.ok ∘ Sample.delta) (Int64.toInt_inj.mp ?_)
      rw [addDelta, toInt_foldl_addDelta (all.of_begins (List.prefix_append xs ys)),
        toInt_foldl_addDelta later, toInt_foldl_addDelta all, ← deltaSum_append]
      exact Int64.toInt_ofIntClamp least largest
  | gauge => exact absurd rfl notGauge
  | histogram =>
      refine congrArg (Except.ok ∘ Sample.histogram) ?_
      rw [List.filterMap_append, List.flatten_append]
  | timing =>
      refine congrArg (Except.ok ∘ Sample.timing) ?_
      rw [List.filterMap_append, List.flatten_append]

section Groups

variable {groups : List (List Sample)} (same : ∀ group ∈ groups, ∀ s ∈ group, s.kind = kind)

include same

theorem kind_of_flatten : ∀ s ∈ groups.flatten, s.kind = kind := by
  intro s member
  obtain ⟨group, inside, member⟩ := List.mem_flatten.mp member
  exact same group inside s member

theorem kind_of_totals : ∀ t ∈ groups.filterMap total?, t.kind = kind := by
  intro t member
  obtain ⟨group, inside, made⟩ := List.mem_filterMap.mp member
  exact kind_of_total? (same group inside) made

/-- Merged group by group first, samples of a kind still make a sample of this kind. -/
theorem map_kind_total?_flatten :
    (total? (groups.filterMap total?)).map Sample.kind =
      (total? groups.flatten).map Sample.kind := by
  have bothNone : groups.filterMap total? = [] ↔ groups.flatten = [] := by
    simp only [List.filterMap_eq_nil_iff, total?_eq_none_iff, List.flatten_eq_nil_iff]
  by_cases none : groups.flatten = []
  · rw [none, bothNone.mpr none]
  · rw [total?_of_kind none (kind_of_flatten same),
      total?_of_kind (mt bothNone.mp none) (kind_of_totals same), Option.map_some, Option.map_some,
      kind_total, kind_total]

/-- It makes no difference whether samples of a kind are merged group by group first, unless they
are gauges or deltas that leave their range. -/
theorem total?_flatten (notGauge : kind ≠ .gauge)
    (fits : kind = .delta → DeltasFit groups.flatten ∧ ∀ group ∈ groups, DeltasFit group) :
    total? (groups.filterMap total?) = total? groups.flatten := by
  induction groups using List.reverseRecOn with
  | nil => rfl
  | append_singleton groups group ih =>
      simp only [List.flatten_append, List.flatten_singleton, List.filterMap_append,
        List.mem_append, List.mem_singleton] at same fits ⊢
      have ih := ih (fun g member => same g (.inl member)) fun isDelta =>
        ⟨(fits isDelta).1.of_begins (List.prefix_append _ _),
          fun g member => (fits isDelta).2 g (.inl member)⟩
      by_cases none : group = []
      · subst none
        rw [List.filterMap_cons_none rfl, List.filterMap_nil, List.append_nil, List.append_nil]
        exact ih
      · -- The last group makes one sample, which is merged into the total of the groups before it.
        have ofGroup := same group (.inr rfl)
        have last := total?_of_kind none ofGroup
        have earlier := kind_of_flatten fun g member => same g (.inl member)
        have totals := kind_of_totals fun g member => same g (.inl member)
        rw [← kind_total kind group] at totals
        obtain ⟨merged, all, joins⟩ := total?_concat totals
        rw [List.filterMap_cons_some last, List.filterMap_nil, all]
        rw [ih] at joins
        by_cases first : groups.flatten = []
        · rw [first] at joins ⊢
          rw [List.nil_append, last, Except.ok.inj joins]
        · have both : ∀ s ∈ groups.flatten ++ group, s.kind = kind := fun s member =>
            (List.mem_append.mp member).elim (earlier s) (ofGroup s)
          rw [total?_of_kind first earlier] at joins
          rw [total?_of_kind (List.append_ne_nil_of_right_ne_nil _ none) both]
          have merges := merge_total notGauge fun isDelta =>
            ⟨(fits isDelta).1, (fits isDelta).2 group (.inr rfl)⟩
          exact congrArg some (Except.ok.inj (joins.symm.trans merges))

end Groups

end Totals

end RecordPipeline.Sample
