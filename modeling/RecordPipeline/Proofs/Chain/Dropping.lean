import RecordPipeline.Proofs.Chain.Bookkeeping
import RecordPipeline.Proofs.Metric.Totals
import RecordPipeline.Proofs.Record.Refinement

/-!
The filter that keeps records back by conditions. A rule that drops what matches and one that keeps
what matches share out the records between them: each lets its part through unchanged and in order,
and whatever the policy for failures is, none of the others goes on.
-/

namespace RecordPipeline

theorem Bytes.contains_iff {needle bs : Bytes} : contains needle bs = true ↔ needle <:+: bs := by
  induction bs with
  | nil => rw [contains, List.isEmpty_iff, List.infix_nil]
  | cons b bs ih =>
      rw [contains, Bool.or_eq_true, List.isPrefixOf_iff_prefix, ih, List.infix_cons_iff]

namespace Operator

/-- Both byte strings are numbers, and these are so related. -/
def Numbers (related : Float → Float → Prop) (field value : Bytes) : Prop :=
  ∃ a b, number? field = some a ∧ number? value = some b ∧ related a b

/-- What is asked of the bytes of a field. -/
def Meets (op : Operator) (value field : Bytes) : Prop :=
  match op with
  | .eq => field = value
  | .ne => field ≠ value
  | .contains => value <:+: field
  | .startsWith => value <+: field
  | .endsWith => value <:+ field
  | .empty => field = []
  | .pattern matching => matching field = true
  | .gt => Numbers (fun a b => b < a) field value
  | .lt => Numbers (fun a b => a < b) field value
  | .gte => Numbers (fun a b => b ≤ a) field value
  | .lte => Numbers (fun a b => a ≤ b) field value

theorem compareNumbers_iff {holds : Float → Float → Bool} {related : Float → Float → Prop}
    (decides : ∀ a b, holds a b = true ↔ related a b) {field value : Bytes} :
    compareNumbers holds field value = true ↔ Numbers related field value := by
  rw [compareNumbers, Numbers]
  cases number? field with
  | none => simp
  | some a =>
      cases number? value with
      | none => simp
      | some b => simp [decides]

theorem holds_iff (op : Operator) (value field : Bytes) :
    op.holds value field = true ↔ op.Meets value field := by
  cases op with
  | eq => exact beq_iff_eq
  | ne => exact bne_iff_ne
  | contains => exact Bytes.contains_iff
  | startsWith => exact List.isPrefixOf_iff_prefix
  | endsWith => exact List.isSuffixOf_iff_suffix
  | empty => exact List.isEmpty_iff
  | pattern matching => exact Iff.rfl
  | gt | lt | gte | lte => exact compareNumbers_iff fun a b => decide_eq_true_iff

end Operator

/-- What the conditions ask together of the fields of a record, all of them or any. -/
def MatchMode.Meets (mode : MatchMode) (conditions : List Condition) (get : Nat → Bytes) : Prop :=
  match mode with
  | .all => ∀ c ∈ conditions, c.operator.Meets c.value (get c.field)
  | .any => ∃ c ∈ conditions, c.operator.Meets c.value (get c.field)

/-- The counter of a name after so many increments by one. -/
theorem Bag.get?_count_replicate {b : Bag} {name : String} {m : Nat}
    (h : b.get? name = some (.counter (.ofNatClamp m))) (n : Nat) :
    get? name ((List.replicate n (name, 1)).foldl (fun b entry => b.count entry.1 entry.2) b) =
      some (.counter (.ofNatClamp (m + n))) := by
  induction n generalizing b m with
  | zero => exact h
  | succ n ih =>
      have one : UInt64.ofNat 1 = .ofNatClamp 1 := rfl
      have next : (b.count name 1).get? name = some (.counter (.ofNatClamp (m + 1))) := by
        rw [get?_count_self, h, counted, one, Sample.addSaturating_ofNatClamp]
        rfl
      rw [List.replicate_succ, List.foldl_cons, ih next, Nat.add_assoc, Nat.add_comm 1 n]

namespace DropRule

variable {f : DropRule}

theorem isMatch_iff (f : DropRule) (r : Record) :
    f.isMatch r = true ↔ f.mode.Meets f.conditions r.get := by
  rw [isMatch]
  unfold MatchMode.Meets
  cases f.mode with
  | all => simp only [List.all_eq_true, Condition.holds, Operator.holds_iff]
  | any => simp only [List.any_eq_true, Condition.holds, Operator.holds_iff]

theorem make_eq_ok (action : DropAction) (mode : MatchMode) {conditions : List Condition}
    (nonempty : conditions ≠ []) :
    make action mode conditions = .ok { action, mode, conditions, nonempty } := dif_neg nonempty

/-- What is counted for a record. -/
def noted (f : DropRule) (r : Record) : List (String × Nat) :=
  if f.isMatch r then [("matched", 1)] else []

/-- A call hands its record on as it is, or drops it. -/
theorem call_cases {onError : OnError} {call : FilterCall}
    (isOf : call.IsOf onError (BuiltIn.drop f).filter) :
    call.sent = (if f.keeps call.record then [call.record] else []) ∧
      (call.KeptBack ↔ f.keeps call.record = false) ∧ ¬call.Failed ∧
        call.noted = f.noted call.record := by
  have sent := isOf.sent_eq
  have goes : (if f.keeps call.record then Activity.pass call.record (f.noted call.record)
      else .done call.record (.error .drop) (f.noted call.record) ()).Goes
        call.emitted call.left call.result call.noted call.after := isOf.goes
  obtain ⟨record, emitted, left, result, counts, forwarded⟩ := call
  dsimp only at goes sent ⊢
  generalize f.noted record = noted at goes ⊢
  by_cases kept : f.keeps record = true
  · rw [if_pos kept] at goes ⊢
    cases goes with
    | emit goes =>
        cases goes
        exact ⟨by simpa [FilterCall.Failed] using sent, by simp [FilterCall.KeptBack, kept],
          fun failed => failed.1 rfl, rfl⟩
  · rw [if_neg kept] at goes ⊢
    cases goes
    exact ⟨by simpa [FilterCall.Failed] using sent, by simp [FilterCall.KeptBack, kept],
      fun failed => failed.2 rfl, rfl⟩

/-- Each call sends on its record or nothing, so together they send on those that are kept. -/
theorem flatMap_sent {calls : List FilterCall}
    (sent : ∀ call ∈ calls, call.sent = if f.keeps call.record then [call.record] else []) :
    calls.flatMap (·.sent) = (calls.map (·.record)).filter f.keeps := by
  induction calls with
  | nil => rfl
  | cons call rest ih =>
      obtain ⟨first, later⟩ := List.forall_mem_cons.mp sent
      rw [List.flatMap_cons, first, ih later, List.map_cons, List.filter_cons]
      split
      · rfl
      · rfl

/-- What a rule has done with the records that it was called for. -/
structure Handled (f : DropRule) (calls : List FilterCall) (tally : FilterTally) : Prop where
  each : ∀ call ∈ calls, call.sent = if f.keeps call.record then [call.record] else []
  sent : calls.flatMap (·.sent) = (calls.map (·.record)).filter f.keeps
  processed : tally.processed = calls.length
  filtered : tally.filtered = (calls.map (·.record)).countP fun r => !f.keeps r
  errors : tally.errors = 0
  matched : tally.own.get? "matched" =
    some (.counter (.ofNatClamp ((calls.map (·.record)).countP f.isMatch)))

/-- The increments for all records are as many as there are records that match. -/
theorem flatMap_noted (f : DropRule) (records : List Record) :
    records.flatMap f.noted = List.replicate (records.countP f.isMatch) ("matched", 1) := by
  induction records with
  | nil => rfl
  | cons r rest ih =>
      rw [List.flatMap_cons, ih, List.countP_cons, noted]
      by_cases matched : f.isMatch r = true
      · rw [if_pos matched, if_pos matched, List.replicate_succ]
        rfl
      · rw [if_neg matched, if_neg matched]
        rfl

theorem handled_of_calls {onError : OnError} {calls : List FilterCall}
    (each : ∀ call ∈ calls, call.IsOf onError (BuiltIn.drop f).filter) :
    f.Handled calls
      ((BuiltIn.drop f).filter.fresh.addAll (calls.map FilterCall.outcome)) := by
  obtain ⟨processed, filtered, errors⟩ := (BuiltIn.drop f).filter.fresh_counts calls
  have sent : ∀ call ∈ calls,
      call.sent = if f.keeps call.record then [call.record] else [] :=
    fun call member => (call_cases (each call member)).1
  have noted : (calls.map FilterCall.outcome).flatMap (·.noted) =
      List.replicate ((calls.map (·.record)).countP f.isMatch) ("matched", 1) := by
    rw [← flatMap_noted, List.flatMap_map, List.flatMap_map]
    exact List.flatMap_congr fun call member => (call_cases (each call member)).2.2.2
  refine ⟨sent, flatMap_sent sent, processed, filtered.trans ?_, errors.trans ?_, ?_⟩
  · rw [List.countP_map]
    apply List.countP_congr
    intro call member
    simp [(call_cases (each call member)).2.1]
  · rw [List.countP_eq_zero]
    intro call member
    simpa using (call_cases (each call member)).2.2.1
  · rw [FilterTally.own_addAll, noted]
    exact (Bag.get?_count_replicate (m := 0) rfl _).trans (by rw [Nat.zero_add])

variable {σ : Type}

/-- A chain in which a rule stands behind some filters and in front of others takes records to a
terminal stage, and the rule handles what comes to it: all records where it is the first filter, and
what the filter before it sends on where it is not. Those that it keeps are what the next filter or
the terminal stage gets. -/
def HandlesIn (f : DropRule) (onError : OnError) (front back : List Filter) (terminal : Stage σ)
    (records : List Record) (s : σ) : Prop :=
  let c : Chain := ⟨front ++ (BuiltIn.drop f).filter :: back, onError⟩
  ∃ backs tallies seen s' calls cs tally,
    (c.run terminal.recorded).serve records (c.start, [], s) = (backs, tallies, seen, s') ∧
    Chain.Passes onError terminal.recorded ([], s) (seen, s') c.filters
      (List.zipWith Exchange.mk records backs) calls ∧
    calls[front.length]? = some cs ∧ tallies[front.length]? = some tally ∧ f.Handled cs tally ∧
    (front = [] → cs.map (·.record) = records) ∧
    (∀ k before, front.length = k + 1 → calls[k]? = some before →
      cs.map (·.record) = before.flatMap (·.sent)) ∧
    (∀ next, calls[front.length + 1]? = some next →
      next.map (·.record) = (cs.map (·.record)).filter f.keeps) ∧
    (back = [] → seen = (cs.map (·.record)).filter f.keeps)

theorem handlesIn (f : DropRule) (onError : OnError) (front back : List Filter)
    (terminal : Stage σ) (records : List Record) (s : σ) :
    f.HandlesIn onError front back terminal records s := by
  unfold HandlesIn
  intro c
  obtain ⟨backs, ⟨seen, s'⟩, calls, passes, serves⟩ :=
    Chain.serve_passes onError terminal.recorded c.filters records ([], s)
  have served := serves c.start (List.length_map _)
  have here : c.filters[front.length]? = some (BuiltIn.drop f).filter := by
    rw [List.getElem?_append_right (Nat.le_refl _), Nat.sub_self]
    rfl
  obtain ⟨cs, called, each⟩ := passes.called_of_filter here
  have done := handled_of_calls each
  refine ⟨backs, _, seen, s', calls, cs, _, served, passes, called, c.tally_of_calls here called,
    done, ?_, ?_, ?_, ?_⟩
  · rintro rfl
    have many := Chain.length_serve (c.run terminal.recorded) records (c.start, [], s)
    rw [Chain.run, served] at many
    rw [passes.first called, Chain.given_zipWith many]
  · intro k before place beforeCalled
    exact passes.next beforeCalled (place ▸ called)
  · intro next nextCalled
    rw [passes.next called nextCalled, done.sent]
  · rintro rfl
    have last : calls.getLast? = some cs := by
      have places : calls.length = front.length + 1 := passes.length.trans List.length_append
      rw [List.getLast?_eq_getElem?, places]
      exact called
    have seen_eq : _ = seen := congrArg Prod.fst passes.last
    rw [last, Option.map_some, Option.getD_some, Chain.serve_recorded, List.nil_append] at seen_eq
    rw [← seen_eq, done.sent]

/-- The records that a rule alone in a chain lets through to a terminal stage. -/
def passed (f : DropRule) (onError : OnError) (terminal : Stage σ) (records : List Record)
    (s : σ) : List Record :=
  let c : Chain := ⟨[(BuiltIn.drop f).filter], onError⟩
  ((c.run terminal.recorded).serve records (c.start, [], s)).2.2.1

theorem passed_eq (f : DropRule) (onError : OnError) (terminal : Stage σ) (records : List Record)
    (s : σ) : f.passed onError terminal records s = records.filter f.keeps := by
  obtain ⟨backs, tallies, seen, s', calls, cs, tally, served, _, _, _, _, first, _, _, last⟩ :=
    f.handlesIn onError [] [] terminal records s
  calc f.passed onError terminal records s
      = seen := congrArg (fun done => done.2.2.1) served
    _ = (cs.map (·.record)).filter f.keeps := last rfl
    _ = records.filter f.keeps := by rw [first rfl]

/-- A rule that drops what matches and one that keeps it, with the same conditions. What matches is
decided by the last value of each field, which is empty where there is none: all conditions hold, or
any of them. A pattern may match any bytes whatever. Whatever the policy and the terminal stage are,
the one lets through just the records that do not match and the other just those that do, unchanged
and in order, so that together they let each record through once. Anywhere in a chain they send on
or hold back each record that comes to them, and never fail: they have processed all that came,
filtered what they held back, and counted those that matched. -/
theorem partitions_records (mode : MatchMode) {conditions : List Condition}
    (nonempty : conditions ≠ []) :
    ∃ dropping keeping,
      make .drop mode conditions = .ok dropping ∧ make .keep mode conditions = .ok keeping ∧
      (∀ r : Record, (dropping.isMatch r = true ↔ mode.Meets conditions r.get) ∧
        keeping.isMatch r = dropping.isMatch r ∧ dropping.keeps r = !dropping.isMatch r ∧
        keeping.keeps r = dropping.isMatch r) ∧
      (∀ l calls index, (Record.reached l calls).get index =
        (RecordView.performAll l {} calls).1.get index) ∧
      (∀ {σ : Type} onError (terminal : Stage σ) records s,
        dropping.passed onError terminal records s =
          records.filter (fun r => !dropping.isMatch r) ∧
        keeping.passed onError terminal records s = records.filter dropping.isMatch ∧
        (dropping.passed onError terminal records s ++
          keeping.passed onError terminal records s).Perm records) ∧
      ∀ f ∈ [dropping, keeping], ∀ {σ : Type} onError front back (terminal : Stage σ) records s,
        f.HandlesIn onError front back terminal records s := by
  refine ⟨_, _, make_eq_ok .drop mode nonempty, make_eq_ok .keep mode nonempty, ?_, ?_, ?_, ?_⟩
  · intro r
    exact ⟨isMatch_iff _ r, rfl, rfl, rfl⟩
  · intro l calls index
    have shows := (Record.performAll_shows (Record.new_shows l) (Record.new_overlayConsistent l)
      calls).1
    exact shows.get_eq (Record.reached_overlayConsistent l calls)
      (Record.reached_endsConsistent l calls) index
  · intro σ onError terminal records s
    have through := passed_eq ⟨.drop, mode, conditions, nonempty⟩ onError terminal records s
    have held := passed_eq ⟨.keep, mode, conditions, nonempty⟩ onError terminal records s
    refine ⟨through, held, ?_⟩
    rw [through, held]
    exact List.perm_append_comm.trans (List.filter_append_perm _ records)
  · intro f _ σ onError front back terminal records s
    exact f.handlesIn onError front back terminal records s

/-- Three lines, of which the second has no field with an ampersand and the last was changed. -/
def mixedRecords : List Record :=
  [.reached Layout.standard [.parse [97, 30, 98, 38] none],
    .reached Layout.standard [.parse [97, 30, 98] none],
    .reached Layout.standard [.parse [97] none, .set 1 [38]]]

theorem mixedRecords_partitioned :
    let conditions : List Condition := [⟨0, .eq, [97]⟩, ⟨1, .contains, [38]⟩, ⟨2, .empty, []⟩]
    conditions ≠ [] ∧ ∃ dropping keeping,
      make .drop .all conditions = .ok dropping ∧ make .keep .all conditions = .ok keeping ∧
      mixedRecords.map dropping.isMatch = [true, false, true] ∧
      (dropping.passed .forward (fun r n => (r, n + 1)) mixedRecords 0).map (·.get 1) = [[98]] ∧
      (keeping.passed .drop (fun r n => (r, n + 1)) mixedRecords 0).map (·.get 1) =
        [[98, 38], [38]] := by
  intro conditions
  have nonempty : conditions ≠ [] := List.cons_ne_nil _ _
  obtain ⟨dropping, keeping, drops, keeps, _, _, passed, _⟩ := partitions_records .all nonempty
  obtain rfl := Except.ok.inj ((make_eq_ok .drop .all nonempty).symm.trans drops)
  obtain ⟨through, _, _⟩ := passed .forward (fun r (n : Nat) => (r, n + 1)) mixedRecords 0
  obtain ⟨_, held, _⟩ := passed .drop (fun r (n : Nat) => (r, n + 1)) mixedRecords 0
  refine ⟨nonempty, _, keeping, drops, keeps, ?_, ?_, ?_⟩
  · rfl
  · rw [through]
    rfl
  · rw [held]
    rfl

end DropRule

end RecordPipeline
