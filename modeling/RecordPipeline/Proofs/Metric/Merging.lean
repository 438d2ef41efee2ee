import RecordPipeline.Metric.Stats
import RecordPipeline.Proofs.Metric.Totals
import RecordPipeline.Proofs.Success
import RecordPipeline.Table

/-!
Merging the stats of many replicas. The merged stats have every name that one of them has, with the
total of all samples of this name, and the three counts are summed up. Merging fails exactly when a
name was used with two kinds. The order of the replicas matters neither for the counts nor for
counters, and it matters only for gauges and for deltas that leave their range whether replicas were
merged part by part before.
-/

namespace RecordPipeline

namespace Bag

open Sample (joined)

variable {b other merged : Bag} {name : String} {s : Sample} {samples : Table String Sample}

/-- The first sample is joined with the one of its name, then the others are. -/
theorem mergeAll_cons (b : Bag) (name : String) (s : Sample) (rest : Table String Sample) :
    b.mergeAll ((name, s) :: rest) =
      joined (b.get? name) s >>= fun joint => (b.put name joint).mergeAll rest := by
  rw [mergeAll, mergeEach]
  cases b.get? name with
  | none => rfl
  | some current =>
      dsimp only [joined]
      cases current.merge s with
      | error e => rfl
      | ok joint => rfl

/-- A name that is not among the samples is left alone. -/
theorem get?_mergeAll_of_none (merges : b.mergeAll samples = .ok merged)
    (absent : samples.get? name = none) : merged.get? name = b.get? name := by
  induction samples generalizing b with
  | nil => rw [← Except.ok.inj merges]
  | cons first rest ih =>
      obtain ⟨joint, _, later⟩ := bind_eq_ok_iff.mp ((mergeAll_cons ..).symm.trans merges)
      rw [Table.get?] at absent
      by_cases same : first.1 = name
      · rw [if_pos same] at absent
        cases absent
      · rw [if_neg same] at absent
        rw [ih later absent, get?_put_of_ne (Ne.symm same)]

/-- A name that stands among the samples once reads as its sample, joined with what was there. -/
theorem get?_mergeAll_of_some (once : (Table.keys samples).Nodup)
    (merges : b.mergeAll samples = .ok merged) (found : samples.get? name = some s) :
    ∃ joint, joined (b.get? name) s = .ok joint ∧ merged.get? name = some joint := by
  induction samples generalizing b with
  | nil => cases found
  | cons first rest ih =>
      obtain ⟨joint, joins, later⟩ := bind_eq_ok_iff.mp ((mergeAll_cons ..).symm.trans merges)
      obtain ⟨onlyHere, onceLater⟩ := List.nodup_cons.mp once
      rw [Table.get?] at found
      by_cases same : first.1 = name
      · subst same
        rw [if_pos rfl] at found
        obtain rfl := Option.some.inj found
        refine ⟨joint, joins, ?_⟩
        rw [get?_mergeAll_of_none later (Table.get?_eq_none_iff.mpr onlyHere), get?_put_self]
      · rw [if_neg same] at found
        have other := ih onceLater later found
        rwa [get?_put_of_ne (Ne.symm same)] at other

theorem exists_mergeAll_eq_ok (once : (Table.keys samples).Nodup)
    (fits : ∀ name s current, samples.get? name = some s → b.get? name = some current →
      current.kind = s.kind) : ∃ merged, b.mergeAll samples = .ok merged := by
  induction samples generalizing b with
  | nil => exact ⟨b, rfl⟩
  | cons first rest ih =>
      obtain ⟨name, s⟩ := first
      obtain ⟨onlyHere, onceLater⟩ := List.nodup_cons.mp once
      obtain ⟨joint, joins⟩ : ∃ joint, joined (b.get? name) s = .ok joint := by
        cases found : b.get? name with
        | none => exact ⟨s, rfl⟩
        | some current =>
            exact Sample.exists_merge_eq_ok_iff.mpr (fits name s current (if_pos rfl) found)
      have later : ∀ other (s' current : Sample), Table.get? other rest = some s' →
          (b.put name joint).get? other = some current → current.kind = s'.kind := by
        intro other s' current found there
        have different : name ≠ other := by
          rintro rfl
          rw [Table.get?_eq_none_iff.mpr onlyHere] at found
          cases found
        rw [get?_put_of_ne different.symm] at there
        exact fits other s' current ((if_neg different).trans found) there
      obtain ⟨merged, merges⟩ := ih onceLater later
      refine ⟨merged, ?_⟩
      rw [mergeAll_cons, joins]
      exact merges

/-- A name that the other bag does not have is left alone. -/
theorem get?_merge_of_none (merges : b.merge other = .ok merged) (absent : other.get? name = none) :
    merged.get? name = b.get? name :=
  get?_mergeAll_of_none merges absent

/-- A name that the other bag has reads as its sample, joined with what was there before. -/
theorem get?_merge_of_some (merges : b.merge other = .ok merged)
    (found : other.get? name = some s) :
    ∃ joint, joined (b.get? name) s = .ok joint ∧ merged.get? name = some joint :=
  get?_mergeAll_of_some other.nodup_keys merges found

/-- Bags in which common names have one kind can be merged. -/
theorem exists_merge_eq_ok
    (fits : ∀ name s current, other.get? name = some s → b.get? name = some current →
      current.kind = s.kind) : ∃ merged, b.merge other = .ok merged :=
  exists_mergeAll_eq_ok other.nodup_keys fits

end Bag

namespace Stats

open Sample (counterSum deltaSum DeltasFit total? joined)

/-- The samples of a name, in the order of the stats. -/
def samples (name : String) (all : List Stats) : List Sample :=
  all.filterMap fun s => s.bag.get? name

/-- No name is used with two kinds. -/
def OneKind (all : List Stats) : Prop :=
  ∀ name, ∀ s ∈ samples name all, ∀ s' ∈ samples name all, s.kind = s'.kind

variable {all : List Stats} {total s : Stats} {name : String}

theorem merge_eq_ok_iff {a b : Stats} :
    a.merge b = .ok total ↔ a.bag.merge b.bag = .ok total.bag ∧
      total.processed = Sample.addSaturating a.processed b.processed ∧
      total.filtered = Sample.addSaturating a.filtered b.filtered ∧
      total.errors = Sample.addSaturating a.errors b.errors := by
  rw [merge, bind_eq_ok_iff]
  constructor
  · rintro ⟨bag, merges, same⟩
    obtain rfl := Except.ok.inj same
    exact ⟨merges, rfl, rfl, rfl⟩
  · rintro ⟨merges, processed, filtered, errors⟩
    refine ⟨total.bag, merges, ?_⟩
    rw [← processed, ← filtered, ← errors]
    rfl

theorem exists_merge_eq_ok {a b : Stats} {bag : Bag} (merges : a.bag.merge b.bag = .ok bag) :
    ∃ total, a.merge b = .ok total := by
  rw [merge, merges]
  exact ⟨_, rfl⟩

theorem merged_concat (all : List Stats) (s : Stats) :
    merged (all ++ [s]) = merged all >>= fun total => total.merge s := by
  rw [merged, List.foldlM_append]
  exact congrArg (merged all >>= ·) (funext fun total => bind_pure (total.merge s))

theorem samples_concat (name : String) (all : List Stats) (s : Stats) :
    samples name (all ++ [s]) = samples name all ++ (s.bag.get? name).toList := by
  rw [samples, List.filterMap_append, List.filterMap_cons]
  cases s.bag.get? name <;> rfl

theorem OneKind.of_subset {part : List Stats} (h : OneKind all)
    (inside : ∀ name, samples name part ⊆ samples name all) : OneKind part :=
  fun name s member s' member' => h name s (inside name member) s' (inside name member')

/-- A count that is summed up whenever stats are merged. -/
structure IsSummed (count : Stats → UInt64) : Prop where
  zero : count {} = 0
  merge : ∀ {a b total : Stats}, a.merge b = .ok total →
    count total = Sample.addSaturating (count a) (count b)

theorem processed_isSummed : IsSummed processed := ⟨rfl, fun h => (merge_eq_ok_iff.mp h).2.1⟩

theorem filtered_isSummed : IsSummed filtered := ⟨rfl, fun h => (merge_eq_ok_iff.mp h).2.2.1⟩

theorem errors_isSummed : IsSummed errors := ⟨rfl, fun h => (merge_eq_ok_iff.mp h).2.2.2⟩

/-- The exact sum of a count. -/
def countSum (count : Stats → UInt64) (all : List Stats) : Nat :=
  (all.map fun s => (count s).toNat).sum

namespace IsSummed

variable {count : Stats → UInt64}

theorem merged (h : IsSummed count) (merges : Stats.merged all = .ok total) :
    (count total).toNat = min (countSum count all) (UInt64.size - 1) := by
  induction all using List.reverseRecOn generalizing total with
  | nil =>
      obtain rfl := Except.ok.inj merges
      rw [h.zero]
      rfl
  | append_singleton all s ih =>
      rw [merged_concat, bind_eq_ok_iff] at merges
      obtain ⟨before, earlier, last⟩ := merges
      rw [h.merge last, Bag.toNat_addSaturating, ih earlier, countSum, countSum, List.map_append,
        List.sum_append]
      simp only [List.map_cons, List.map_nil, List.sum_cons, List.sum_nil]
      omega

/-- Replicas that are merged in another order count the same. -/
theorem eq_of_perm (h : IsSummed count) {other : List Stats} {total' : Stats}
    (perm : other.Perm all) (merges : Stats.merged all = .ok total)
    (merges' : Stats.merged other = .ok total') : count total' = count total := by
  apply UInt64.toNat_inj.mp
  rw [h.merged merges, h.merged merges', countSum, countSum, (perm.map _).sum_nat]

/-- Replicas that are merged part by part first count the same. -/
theorem eq_of_parts (h : IsSummed count) {parts : List (List Stats)} {totals : List Stats}
    {total' : Stats} (each : List.Forall₂ (fun part t => Stats.merged part = .ok t) parts totals)
    (merges : Stats.merged parts.flatten = .ok total)
    (merges' : Stats.merged totals = .ok total') : count total' = count total := by
  have same : min (countSum count totals) (UInt64.size - 1) =
      min (countSum count parts.flatten) (UInt64.size - 1) := by
    clear merges merges'
    induction each with
    | nil => rfl
    | cons first _ ih =>
        have first := h.merged first
        simp only [countSum, List.flatten_cons, List.map_append, List.sum_append, List.map_cons,
          List.sum_cons] at ih first ⊢
        omega
  apply UInt64.toNat_inj.mp
  rw [h.merged merges, h.merged merges', same]

end IsSummed

/-- What was merged has under each name the total of its samples, which are of one kind. -/
theorem get?_merged (merges : merged all = .ok total) :
    OneKind all ∧ ∀ name, total.bag.get? name = total? (samples name all) := by
  induction all using List.reverseRecOn generalizing total with
  | nil =>
      obtain rfl := Except.ok.inj merges
      exact ⟨fun _ _ member => absurd member List.not_mem_nil, fun _ => rfl⟩
  | append_singleton all s ih =>
      rw [merged_concat, bind_eq_ok_iff] at merges
      obtain ⟨before, earlier, last⟩ := merges
      obtain ⟨bags, _⟩ := merge_eq_ok_iff.mp last
      obtain ⟨one, found⟩ := ih earlier
      have each : ∀ name, (∀ x ∈ samples name all, ∀ x' ∈ s.bag.get? name, x.kind = x'.kind) ∧
          total.bag.get? name = total? (samples name (all ++ [s])) := by
        intro name
        rw [samples_concat]
        cases there : s.bag.get? name with
        | none =>
            refine ⟨fun _ _ _ absent => absurd absent (Option.not_mem_none _), ?_⟩
            rw [Bag.get?_merge_of_none bags there, found, Option.toList_none, List.append_nil]
        | some x' =>
            obtain ⟨joint, joins, read⟩ := Bag.get?_merge_of_some bags there
            rw [found] at joins
            have same : ∀ x ∈ samples name all, x.kind = x'.kind := by
              intro x member
              have some' := List.ne_nil_of_mem member
              have ofKind := Sample.total?_of_kind some' fun y other => one name y other x member
              rw [ofKind] at joins
              have kinds := Sample.exists_merge_eq_ok_iff.mp ⟨joint, joins⟩
              rwa [Sample.kind_total] at kinds
            obtain ⟨merged, all', joins'⟩ := Sample.total?_concat same
            refine ⟨fun x member y isLast => Option.some.inj isLast ▸ same x member, ?_⟩
            rw [read, Option.toList_some, all', Except.ok.inj (joins.symm.trans joins')]
      refine ⟨?_, fun name => (each name).2⟩
      intro name x member x' member'
      rw [samples_concat, List.mem_append, Option.mem_toList] at member member'
      rcases member with before | last
      · rcases member' with before' | last'
        · exact one name x before x' before'
        · exact (each name).1 x before x' last'
      · rcases member' with before' | last'
        · exact ((each name).1 x' before' x last).symm
        · rw [Option.mem_unique last last']

/-- Stats in which every name has one kind can be merged. -/
theorem exists_merged (one : OneKind all) : ∃ total, merged all = .ok total := by
  induction all using List.reverseRecOn with
  | nil => exact ⟨{}, rfl⟩
  | append_singleton all s ih =>
      have inside : ∀ name, samples name all ⊆ samples name (all ++ [s]) := by
        intro name
        rw [samples_concat]
        exact List.subset_append_left _ _
      obtain ⟨before, earlier⟩ := ih (one.of_subset inside)
      have found := (get?_merged earlier).2
      have fits : ∀ name x current, s.bag.get? name = some x →
          before.bag.get? name = some current → current.kind = x.kind := by
        intro name x current last there
        rw [found] at there
        refine Sample.kind_of_total? ?_ there
        intro y member
        refine one name y (inside name member) x ?_
        rw [samples_concat, last]
        exact List.mem_append_right _ List.mem_cons_self
      obtain ⟨bag, merges⟩ := Bag.exists_merge_eq_ok fits
      rw [merged_concat, earlier]
      exact exists_merge_eq_ok merges

/-- The three counts alone. -/
def counts (s : Stats) : UInt64 × UInt64 × UInt64 := (s.processed, s.filtered, s.errors)

/-- What stats are merged into: the counts and counters summed up, to the largest number at most,
deltas summed up exactly if no sum on the way leaves their range, gauges averaged from the first one
on, and all observations in the order of the list. -/
structure Totals (all : List Stats) (total : Stats) : Prop where
  processed : total.processed.toNat = min (countSum Stats.processed all) (UInt64.size - 1)
  filtered : total.filtered.toNat = min (countSum Stats.filtered all) (UInt64.size - 1)
  errors : total.errors.toNat = min (countSum Stats.errors all) (UInt64.size - 1)
  names : ∀ name,
    name ∈ Table.keys total.bag.entries ↔ ∃ s ∈ all, name ∈ Table.keys s.bag.entries
  kinds : ∀ name s, total.bag.get? name = some s → ∀ s' ∈ samples name all, s'.kind = s.kind
  counter : ∀ name value, total.bag.get? name = some (.counter value) →
    value.toNat = min (counterSum (samples name all)) (UInt64.size - 1)
  delta : ∀ name value, total.bag.get? name = some (.delta value) →
    DeltasFit (samples name all) → value.toInt = deltaSum (samples name all)
  gauge : ∀ name value, total.bag.get? name = some (.gauge value) →
    value = Sample.averaged ((samples name all).filterMap Sample.gauge?)
  histogram : ∀ name values, total.bag.get? name = some (.histogram values) →
    values = ((samples name all).filterMap Sample.histogram?).flatten
  timing : ∀ name values, total.bag.get? name = some (.timing values) →
    values = ((samples name all).filterMap Sample.timing?).flatten

theorem exists_mem_keys_iff :
    (∃ s ∈ all, name ∈ Table.keys s.bag.entries) ↔ samples name all ≠ [] := by
  simp only [samples, ne_eq, List.filterMap_eq_nil_iff, Bag.mem_keys_iff, not_forall,
    Option.ne_none_iff_exists', exists_prop]

theorem totals_of_merged (merges : merged all = .ok total) : Totals all total := by
  obtain ⟨one, found⟩ := get?_merged merges
  have eq_total : ∀ name s, total.bag.get? name = some s →
      s = Sample.total s.kind (samples name all) := fun name s there =>
    Sample.eq_total_of_total? ((found name).symm.trans there)
  refine ⟨processed_isSummed.merged merges, filtered_isSummed.merged merges,
    errors_isSummed.merged merges, ?_, ?_, ?_, ?_, ?_, ?_, ?_⟩
  · intro name
    rw [exists_mem_keys_iff, Bag.mem_keys_iff, found, ← Option.ne_none_iff_exists', ne_eq, ne_eq,
      Sample.total?_eq_none_iff]
  · intro name s there s' member
    rw [found] at there
    exact (Sample.kind_of_total? (fun x inside => one name x inside s' member) there).symm
  · intro name value there
    rw [Sample.counter.inj (eq_total name _ there), Bag.toNat_ofNatClamp]
  · intro name value there fits
    rw [Sample.delta.inj (eq_total name _ there), Sample.toInt_foldl_addDelta fits]
  · exact fun name value there => Sample.gauge.inj (eq_total name _ there)
  · exact fun name values there => Sample.histogram.inj (eq_total name _ there)
  · exact fun name values there => Sample.timing.inj (eq_total name _ there)

/-- Replicas can be merged in any order, with the same counters in the end. -/
theorem merged_of_perm {other : List Stats} (one : OneKind all)
    (merges : merged all = .ok total) (perm : other.Perm all) :
    ∃ total', merged other = .ok total' ∧ counts total' = counts total ∧
      ∀ name value, total'.bag.get? name = some (.counter value) ↔
        total.bag.get? name = some (.counter value) := by
  have reordered : ∀ name, (samples name other).Perm (samples name all) := fun name =>
    perm.filterMap _
  obtain ⟨total', merges'⟩ := exists_merged (one.of_subset fun name => (reordered name).subset)
  refine ⟨total', merges', ?_, ?_⟩
  · rw [counts, counts, processed_isSummed.eq_of_perm perm merges merges',
      filtered_isSummed.eq_of_perm perm merges merges',
      errors_isSummed.eq_of_perm perm merges merges']
  · intro name value
    rw [(get?_merged merges).2, (get?_merged merges').2]
    exact Sample.total?_eq_counter_iff_of_perm (reordered name) (one name)

theorem samples_flatten (name : String) (parts : List (List Stats)) :
    samples name parts.flatten = (parts.map (samples name)).flatten :=
  List.filterMap_flatten

/-- What the parts were merged into has under a name the totals of those parts that have it. -/
theorem samples_totals {parts : List (List Stats)} {totals : List Stats}
    (each : List.Forall₂ (fun part t => merged part = .ok t) parts totals) (name : String) :
    samples name totals = (parts.map (samples name)).filterMap total? := by
  induction each with
  | nil => rfl
  | cons first _ ih =>
      rw [samples] at ih
      rw [samples, List.filterMap_cons, (get?_merged first).2, ih, List.map_cons,
        List.filterMap_cons]

/-- Replicas can be merged part by part first. The outcome has the same counts and the same names
with the same kinds; under a name it has the same sample, unless that is a gauge or a delta that
left its range on the way. -/
theorem merged_of_parts {parts : List (List Stats)} (one : OneKind parts.flatten)
    (merges : merged parts.flatten = .ok total) :
    ∃ totals total', parts.mapM merged = .ok totals ∧ merged totals = .ok total' ∧
      counts total' = counts total ∧
      ∀ name, (total'.bag.get? name).map Sample.kind = (total.bag.get? name).map Sample.kind ∧
        ∀ s, total.bag.get? name = some s → s.kind ≠ .gauge →
          (s.kind = .delta → DeltasFit (samples name parts.flatten) ∧
            ∀ part ∈ parts, DeltasFit (samples name part)) →
          total'.bag.get? name = some s := by
  have ofPart : ∀ part ∈ parts, ∃ t, merged part = .ok t := by
    intro part member
    have inside : part ⊆ parts.flatten := fun s there => List.mem_flatten_of_mem member there
    exact exists_merged (one.of_subset fun name => List.filterMap_subset _ inside)
  obtain ⟨totals, parted⟩ := exists_mapM_eq_ok ofPart
  have each := mapM_eq_ok_iff.mp parted
  have grouped := samples_totals each
  have ofName : ∀ name, ∃ kind, ∀ group ∈ parts.map (samples name), ∀ s ∈ group, s.kind = kind := by
    intro name
    have inside : ∀ group ∈ parts.map (samples name), group ⊆ samples name parts.flatten :=
      fun group member s there =>
        samples_flatten name parts ▸ List.mem_flatten_of_mem member there
    cases all : samples name parts.flatten with
    | nil => exact ⟨.counter, fun group member s there => nomatch all ▸ inside group member there⟩
    | cons first rest =>
        refine ⟨first.kind, fun group member s there => ?_⟩
        exact one name s (inside group member there) first (all ▸ List.mem_cons_self)
  have one' : OneKind totals := by
    intro name t member t' member'
    obtain ⟨kind, same⟩ := ofName name
    rw [grouped] at member member'
    rw [Sample.kind_of_totals same t member, Sample.kind_of_totals same t' member']
  obtain ⟨total', merges'⟩ := exists_merged one'
  refine ⟨totals, total', parted, merges', ?_, fun name => ?_⟩
  · rw [counts, counts, processed_isSummed.eq_of_parts each merges merges',
      filtered_isSummed.eq_of_parts each merges merges',
      errors_isSummed.eq_of_parts each merges merges']
  · obtain ⟨kind, same⟩ := ofName name
    rw [(get?_merged merges).2, (get?_merged merges').2, grouped, samples_flatten]
    refine ⟨Sample.map_kind_total?_flatten same, fun s there notGauge fits => ?_⟩
    obtain rfl := Sample.kind_of_total? (Sample.kind_of_flatten same) there
    rw [← there]
    refine Sample.total?_flatten same notGauge fun isDelta => ?_
    obtain ⟨all, ofParts⟩ := fits isDelta
    exact ⟨all, List.forall_mem_map.mpr ofParts⟩

theorem oneKind_of_kinds (kindOf : String → MetricKind)
    (each : ∀ s ∈ all, ∀ entry ∈ s.bag.entries, entry.2.kind = kindOf entry.1) : OneKind all := by
  have ofName : ∀ name, ∀ s ∈ samples name all, s.kind = kindOf name := by
    intro name s member
    obtain ⟨stats, inside, found⟩ := List.mem_filterMap.mp member
    exact each stats inside (name, s) (Bag.mem_of_get? found)
  intro name s member s' member'
  rw [ofName name s member, ofName name s' member']

/-- The stats of replicas cannot be merged exactly if some name is used with two kinds. Otherwise
they add up: each name that a replica has is in the merged stats with the total of its samples. Then
the order of the replicas does not show in a count or a counter, and whether replicas were merged
part by part first shows at most in gauges and in deltas that left their range. -/
theorem merged_adds_up (all : List Stats) :
    ((∃ misuse, merged all = .error misuse) ↔
      ∃ name, ∃ s ∈ samples name all, ∃ s' ∈ samples name all, s.kind ≠ s'.kind) ∧
    (OneKind all → ∃ total, merged all = .ok total ∧ Totals all total ∧
      (∀ other, other.Perm all →
        ∃ total', merged other = .ok total' ∧ counts total' = counts total ∧
          ∀ name value, total'.bag.get? name = some (.counter value) ↔
            total.bag.get? name = some (.counter value)) ∧
      ∀ parts : List (List Stats), parts.flatten = all →
        ∃ totals total', parts.mapM merged = .ok totals ∧ merged totals = .ok total' ∧
          counts total' = counts total ∧
          ∀ name, (total'.bag.get? name).map Sample.kind = (total.bag.get? name).map Sample.kind ∧
            ∀ s, total.bag.get? name = some s → s.kind ≠ .gauge →
              (s.kind = .delta → DeltasFit (samples name all) ∧
                ∀ part ∈ parts, DeltasFit (samples name part)) →
              total'.bag.get? name = some s) := by
  constructor
  · constructor
    · rintro ⟨misuse, failed⟩
      by_contra same
      have one : OneKind all := by
        intro name s member s' member'
        by_contra different
        exact same ⟨name, s, member, s', member', different⟩
      obtain ⟨total, merges⟩ := exists_merged one
      rw [merges] at failed
      cases failed
    · rintro ⟨name, s, member, s', member', different⟩
      cases merges : merged all with
      | error misuse => exact ⟨misuse, rfl⟩
      | ok total =>
          have one := (get?_merged merges).1
          exact absurd (one name s member s' member') different
  · intro one
    obtain ⟨total, merges⟩ := exists_merged one
    refine ⟨total, merges, totals_of_merged merges, ?_, ?_⟩
    · exact fun other perm => merged_of_perm one merges perm
    · rintro parts rfl
      exact merged_of_parts one merges

/-- Three replicas, of which the second has counted as far as a count goes. -/
def busyReplicas : List Stats :=
  [{ processed := 3, bag := .of [("bytes", .counter 5), ("lag", .delta 7)] },
    { processed := 18446744073709551614, filtered := 1,
      bag := .of [("bytes", .counter 18446744073709551615), ("flush", .timing [30, 40])] },
    { errors := 2, bag := .of [("flush", .timing [50]), ("lag", .delta (-4))] }]

/-- What they are merged into. -/
def busyTotal : Stats :=
  { processed := 18446744073709551615, filtered := 1, errors := 2
    bag := .of [("bytes", .counter 18446744073709551615), ("flush", .timing [30, 40, 50]),
      ("lag", .delta 3)] }

/-- The times stay in order and the counts stop at the largest number also when the last two
replicas are merged first. -/
theorem busy_replicas_add_up :
    merged busyReplicas = .ok busyTotal ∧ Totals busyReplicas busyTotal ∧
      ∃ totals total', [busyReplicas.take 1, busyReplicas.drop 1].mapM merged = .ok totals ∧
        merged totals = .ok total' ∧ counts total' = counts busyTotal ∧
        total'.bag.get? "flush" = some (.timing [30, 40, 50]) := by
  have one : OneKind busyReplicas :=
    oneKind_of_kinds
      (fun name => if name = "bytes" then .counter else if name = "lag" then .delta else .timing)
      (by decide)
  obtain ⟨total, merges, totals, _, parted⟩ := (merged_adds_up busyReplicas).2 one
  have same : total = busyTotal := Except.ok.inj (merges.symm.trans rfl)
  obtain ⟨each, total', first, second, counted, read⟩ :=
    parted [busyReplicas.take 1, busyReplicas.drop 1] rfl
  rw [same] at merges totals counted read
  exact ⟨merges, totals, each, total', first, second, counted,
    (read "flush").2 (.timing [30, 40, 50]) rfl nofun nofun⟩

end Stats

end RecordPipeline
