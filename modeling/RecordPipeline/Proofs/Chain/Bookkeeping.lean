import Mathlib.Algebra.GroupWithZero.Nat
import RecordPipeline.Proofs.Chain.Calls

/-!
The bookkeeping of a chain, whatever its filters do. Each filter processes what the one before it
sends on, each of its calls is counted once by how it ended, and a record on which a filter failed
is sent on at most once.
-/

namespace RecordPipeline

variable {τ : Type}

namespace FilterTally

theorem keptBack_outcome (call : FilterCall τ) :
    keptBack call.outcome = if call.KeptBack then 1 else 0 := by
  obtain ⟨record, emitted, left, result, noted, forwarded⟩ := call
  cases result with
  | ok _ => simp [keptBack, FilterCall.outcome, FilterCall.KeptBack]
  | error e => cases e <;> simp [keptBack, FilterCall.outcome, FilterCall.KeptBack]

theorem failed_outcome (call : FilterCall τ) :
    failed call.outcome = if call.Failed then 1 else 0 := by
  obtain ⟨record, emitted, left, result, noted, forwarded⟩ := call
  cases result with
  | ok _ => simp [failed, FilterCall.outcome, FilterCall.Failed]
  | error e => cases e <;> simp [failed, FilterCall.outcome, FilterCall.Failed]

/-- Every call of a filter is counted as processed, and by how it ended. -/
theorem addAll_outcomes (t : FilterTally τ) (calls : List (FilterCall τ)) :
    (t.addAll (calls.map FilterCall.outcome)).processed = t.processed + calls.length ∧
      (t.addAll (calls.map FilterCall.outcome)).filtered =
        t.filtered + calls.countP (·.KeptBack) ∧
      (t.addAll (calls.map FilterCall.outcome)).errors = t.errors + calls.countP (·.Failed) := by
  induction calls generalizing t with
  | nil => exact ⟨rfl, rfl, rfl⟩
  | cons call rest ih =>
      obtain ⟨processed, filtered, errors⟩ := ih (t.add call.outcome)
      have added := t.add_eq call.outcome
      rw [keptBack_outcome, failed_outcome] at added
      simp only [List.length_cons, List.countP_cons, decide_eq_true_eq]
      refine ⟨processed.trans ?_, filtered.trans ?_, errors.trans ?_⟩
      · rw [added]
        dsimp only
        omega
      · rw [added]
        dsimp only
        omega
      · rw [added]
        dsimp only
        omega

end FilterTally

/-- The tally of a filter that has made these calls and no others. -/
theorem Filter.fresh_counts (f : Filter τ) (calls : List (FilterCall τ)) :
    (f.fresh.addAll (calls.map FilterCall.outcome)).processed = calls.length ∧
      (f.fresh.addAll (calls.map FilterCall.outcome)).filtered = calls.countP (·.KeptBack) ∧
      (f.fresh.addAll (calls.map FilterCall.outcome)).errors = calls.countP (·.Failed) := by
  obtain ⟨processed, filtered, errors⟩ := FilterTally.addAll_outcomes f.fresh calls
  exact ⟨processed.trans (Nat.zero_add _), filtered.trans (Nat.zero_add _),
    errors.trans (Nat.zero_add _)⟩

namespace FilterCall

/-- A call keeps the record back, has failed, or has passed something on. -/
theorem length_eq_countP (calls : List (FilterCall τ)) :
    calls.length = calls.countP (·.KeptBack) + calls.countP (·.Failed) +
      calls.countP (·.Passed) := by
  induction calls with
  | nil => rfl
  | cons call rest ih =>
      have one : (if call.KeptBack then 1 else 0) + (if call.Failed then 1 else 0) +
          (if call.Passed then 1 else 0) = 1 := by
        by_cases ok : call.result = .ok ()
        · by_cases none : call.emitted = []
          · simp [KeptBack, Failed, Passed, ok, none]
          · simp [KeptBack, Failed, Passed, ok, none]
        · by_cases dropped : call.result = .error .drop
          · simp [KeptBack, Failed, Passed, dropped]
          · simp [KeptBack, Failed, Passed, ok, dropped]
      simp only [List.length_cons, List.countP_cons, decide_eq_true_eq]
      omega

/-- What goes on because of a call is what the filter handed on. After a failure before which it
handed nothing on, the record goes on where the policy is to forward it. -/
theorem IsOf.sent_eq {onError : OnError} {f : Filter τ} {call : FilterCall τ}
    (h : call.IsOf onError f) :
    call.sent = if onError = .forward ∧ call.Failed ∧ call.emitted = [] then [call.left]
      else call.emitted.map (·.given) := by
  unfold sent exchanges
  cases back : call.forwarded with
  | none =>
      have kept : ¬(onError = .forward ∧ call.Failed ∧ call.emitted = []) := by
        rw [← h.forwarded, back]
        exact Bool.false_ne_true
      rw [if_neg kept]
      simp
  | some record =>
      have asked := h.forwarded.mp (congrArg Option.isSome back)
      rw [if_pos asked, asked.2.2]
      rfl

end FilterCall

namespace Chain

variable {σ : Type} {onError : OnError} {terminal : Stage σ} {s s' : σ} {fs : List (Filter τ)}
  {exchanges : List Exchange} {calls : List (List (FilterCall τ))} {cs cs' : List (FilterCall τ)}

namespace Passes

/-- The first filter is called for what comes to the list of filters. -/
theorem first (h : Passes onError terminal s s' fs exchanges calls) (first : calls[0]? = some cs) :
    cs.map (·.record) = exchanges.map (·.given) := by
  cases h with
  | terminal served => cases first
  | filter each behind =>
      obtain rfl := Option.some.inj first
      rw [List.map_map]
      rfl

/-- A filter is called for what the calls of the filter before it sent. -/
theorem next (h : Passes onError terminal s s' fs exchanges calls) {k : Nat}
    (before : calls[k]? = some cs) (behind : calls[k + 1]? = some cs') :
    cs'.map (·.record) = cs.flatMap (·.sent) := by
  induction h generalizing k with
  | terminal served => cases before
  | filter each later ih =>
      cases k with
      | zero =>
          obtain rfl := Option.some.inj before
          rw [later.first behind, List.map_flatMap]
          rfl
      | succ k => exact ih before behind

/-- The terminal stage takes what the calls of the last filter sent. -/
theorem last (h : Passes onError terminal s s' fs exchanges calls) :
    (terminal.serve ((calls.getLast?.map fun cs => cs.flatMap (·.sent)).getD
      (exchanges.map (·.given))) s).2 = s' := by
  induction h with
  | terminal served => exact congrArg Prod.snd served
  | @filter f rest calls later each behind ih =>
      cases later with
      | nil =>
          rw [List.map_flatMap] at ih
          exact ih
      | cons next later =>
          rw [List.getLast?_cons_cons]
          rw [List.getLast?_eq_some_getLast (List.cons_ne_nil next later)] at ih ⊢
          exact ih

theorem called_of_tally (h : Passes onError terminal s s' fs exchanges calls)
    {tallies : List (FilterTally τ)} (many : tallies.length = fs.length) {k : Nat}
    {tally : FilterTally τ} (found : (counted tallies (outcomes calls))[k]? = some tally) :
    ∃ cs, calls[k]? = some cs := by
  have inside := (List.getElem?_eq_some_iff.mp found).1
  rw [h.length_counted many, ← h.length] at inside
  exact ⟨_, List.getElem?_eq_getElem inside⟩

/-- A filter of the list has calls at its place. -/
theorem called_of_filter (h : Passes onError terminal s s' fs exchanges calls) {k : Nat}
    {f : Filter τ} (found : fs[k]? = some f) :
    ∃ cs, calls[k]? = some cs ∧ ∀ call ∈ cs, call.IsOf onError f := by
  induction h generalizing k with
  | terminal served => cases found
  | filter each behind ih =>
      cases k with
      | zero =>
          obtain rfl := Option.some.inj found
          exact ⟨_, rfl, each⟩
      | succ k => exact ih found

/-- Each call is one of the filter at its place in the list. -/
theorem isOf (h : Passes onError terminal s s' fs exchanges calls) (called : cs ∈ calls)
    {call : FilterCall τ} (member : call ∈ cs) : ∃ f, call.IsOf onError f := by
  induction h with
  | terminal served => cases called
  | @filter f _ _ _ each behind ih =>
      rcases List.mem_cons.mp called with rfl | later
      · exact ⟨f, each call member⟩
      · exact ih later

end Passes

theorem length_serve (stage : Stage σ) (records : List Record) (s : σ) :
    (stage.serve records s).1.length = records.length := by
  induction records generalizing s with
  | nil => rfl
  | cons r rest ih => exact congrArg (· + 1) (ih (stage r s).2)

theorem given_zipWith {records backs : List Record} (h : backs.length = records.length) :
    (List.zipWith Exchange.mk records backs).map (·.given) = records := by
  induction records generalizing backs with
  | nil => rfl
  | cons r rest ih =>
      cases backs with
      | nil => cases h
      | cons back backs => exact congrArg (r :: ·) (ih (Nat.succ.inj h))

/-- Records that are taken through a list of filters one after the other pass through it with some
calls, which are what is counted. -/
theorem serve_passes_from (onError : OnError) (terminal : Stage σ) (fs : List (Filter τ))
    (records : List Record) (states : List τ) (s : σ) (many : states.length = fs.length) :
    ∃ backs s' calls,
      Passes onError terminal s s' fs (List.zipWith Exchange.mk records backs) calls ∧
        InTurn states calls ∧
        ∀ tallies : List (FilterTally τ), tallies.map (·.state) = states →
          (stage onError terminal fs).serve records (tallies, s) =
            (backs, counted tallies (outcomes calls), s') := by
  induction records generalizing states s with
  | nil =>
      have turn := InTurn.nothing states
      rw [many] at turn
      refine ⟨[], s, _, .nothing s fs, turn, ?_⟩
      rintro tallies rfl
      rw [outcomes, List.map_replicate, List.map_nil, ← many, List.length_map, counted_nothing]
      rfl
  | cons r rest ih =>
      obtain ⟨back, s', calls, one, turn, serves⟩ :=
        stage_passes_from onError terminal fs r states s many
      have many' : (List.zipWith FilterCall.stateAfter states calls).length = fs.length := by
        rw [List.length_zipWith, many, one.length, Nat.min_self]
      obtain ⟨backs, s'', calls', others, turn', follow⟩ := ih _ s' many'
      refine ⟨back :: backs, s'', _, one.append others, turn.append turn', ?_⟩
      rintro tallies rfl
      simp only [Stage.serve, serves tallies rfl, follow _ (states_counted tallies calls),
        counted_counted, outcomes_zipWith]

theorem serve_passes (onError : OnError) (terminal : Stage σ) (fs : List Filter)
    (records : List Record) (s : σ) :
    ∃ backs s' calls,
      Passes onError terminal s s' fs (List.zipWith Exchange.mk records backs) calls ∧
        ∀ tallies : List FilterTally, tallies.length = fs.length →
          (stage onError terminal fs).serve records (tallies, s) =
            (backs, counted tallies (outcomes calls), s') := by
  obtain ⟨backs, s', calls, passes, _, counts⟩ := serve_passes_from onError terminal fs records
    (List.replicate fs.length ()) s List.length_replicate
  exact ⟨backs, s', calls, passes, fun tallies many => counts tallies (states_of_unit many)⟩

theorem serve_recorded (terminal : Stage σ) (records seen : List Record) (s : σ) :
    (terminal.recorded.serve records (seen, s)).2.1 = seen ++ records := by
  induction records generalizing seen s with
  | nil => exact (List.append_nil seen).symm
  | cons r rest ih =>
      have later := ih (seen ++ [r]) (terminal r s).2
      rw [List.append_assoc, List.singleton_append] at later
      exact later

/-- The tally of a filter after its calls. -/
theorem getElem?_counted {tallies : List (FilterTally τ)} {k : Nat} {tally : FilterTally τ}
    (found : (counted tallies (outcomes calls))[k]? = some tally) (called : calls[k]? = some cs) :
    ∃ before, tallies[k]? = some before ∧ tally = before.addAll (cs.map FilterCall.outcome) := by
  have marks : (outcomes calls)[k]? = some (cs.map FilterCall.outcome) := by
    rw [outcomes, List.getElem?_map, called]
    rfl
  rw [counted, List.getElem?_zipWith, marks] at found
  cases start : tallies[k]? with
  | none =>
      rw [start] at found
      cases found
  | some before =>
      rw [start] at found
      exact ⟨before, rfl, (Option.some.inj found).symm⟩

/-- A filter that was called has a tally. -/
theorem tally_of_calls (c : Chain τ) {k : Nat} {f : Filter τ} (found : c.filters[k]? = some f)
    (called : calls[k]? = some cs) :
    (counted c.start (outcomes calls))[k]? =
      some (f.fresh.addAll (cs.map FilterCall.outcome)) := by
  rw [counted, List.getElem?_zipWith, Chain.start, List.getElem?_map, found, outcomes,
    List.getElem?_map, called]
  rfl

theorem errorCount_eq_sum (tallies : List (FilterTally τ)) :
    errorCount tallies = (tallies.map (·.errors)).sum := by
  have shift : ∀ (n : Nat), tallies.foldl (fun n t => n + t.errors) n =
      n + (tallies.map (·.errors)).sum := by
    induction tallies with
    | nil => exact fun n => rfl
    | cons tally rest ih =>
        intro n
        rw [List.foldl_cons, ih, List.map_cons, List.sum_cons, Nat.add_assoc]
  exact (shift 0).trans (Nat.zero_add _)

/-- The tally of a filter counts its calls, each once and by how it ended. -/
theorem tally_counts (c : Chain τ) {k : Nat} {tally : FilterTally τ}
    (found : (counted c.start (outcomes calls))[k]? = some tally) (called : calls[k]? = some cs) :
    tally.processed = cs.length ∧ tally.filtered = cs.countP (·.KeptBack) ∧
      tally.errors = cs.countP (·.Failed) := by
  obtain ⟨before, start, rfl⟩ := getElem?_counted found called
  rw [Chain.start, List.getElem?_map] at start
  obtain ⟨f, _, rfl⟩ := Option.map_eq_some_iff.mp start
  exact f.fresh_counts cs

/-- Whatever the filters of a chain do, with states of their own or without, and whatever the
policy, the tallies after some records count the calls with which the records passed through it. The
calls of a filter begin in its first state, and each in the state in which the one before it ended.
The first filter has processed each record once, every other filter what the calls of the one before
it sent, and what those of the last one sent came to the terminal stage; without filters the records
themselves came there. Each call is counted once, as kept back, as failed, or as neither when
something was handed on without an error. After a failure the record is sent once if it is to be
forwarded and nothing was handed on before; otherwise just what was handed on before has gone on. -/
theorem run_accounts_for_calls (c : Chain τ) (terminal : Stage σ) (records : List Record) (s : σ) :
    ∃ backs tallies seen s' calls,
      (c.run terminal.recorded).serve records (c.start, [], s) = (backs, tallies, seen, s') ∧
      Passes c.onError terminal.recorded ([], s) (seen, s') c.filters
        (List.zipWith Exchange.mk records backs) calls ∧
      InTurn (c.filters.map (·.state)) calls ∧
      tallies.length = c.filters.length ∧ calls.length = c.filters.length ∧
      (∀ first ∈ tallies.head?, first.processed = records.length) ∧
      (∀ k cs next, calls[k]? = some cs → tallies[k + 1]? = some next →
        next.processed = (cs.flatMap (·.sent)).length) ∧
      seen.length = (calls.getLast?.map fun cs => (cs.flatMap (·.sent)).length).getD
        records.length ∧
      (∀ (k : Nat) (tally : FilterTally τ) (cs : List (FilterCall τ)),
        tallies[k]? = some tally → calls[k]? = some cs →
        tally.processed = cs.length ∧ tally.filtered = cs.countP (·.KeptBack) ∧
          tally.errors = cs.countP (·.Failed) ∧
          tally.processed = tally.filtered + tally.errors + cs.countP (·.Passed)) ∧
      errorCount tallies = (tallies.map (·.errors)).sum ∧
      ∀ cs ∈ calls, ∀ call ∈ cs,
        call.sent = if c.onError = .forward ∧ call.Failed ∧ call.emitted = [] then [call.left]
          else call.emitted.map (·.given) := by
  obtain ⟨backs, ⟨seen, s'⟩, calls, passes, turn, serves⟩ :=
    serve_passes_from c.onError terminal.recorded c.filters records (c.filters.map (·.state))
      ([], s) (List.length_map _)
  have many : c.start.length = c.filters.length := List.length_map _
  have served := serves c.start (by rw [start, List.map_map]; rfl)
  have given : (List.zipWith Exchange.mk records backs).map (·.given) = records := by
    have length := length_serve (stage c.onError terminal.recorded c.filters) records
      (c.start, [], s)
    rw [served] at length
    exact given_zipWith length
  refine ⟨backs, counted c.start (outcomes calls), seen, s', calls, served, passes, turn,
    passes.length_counted many, passes.length, ?_, ?_, ?_, ?_, errorCount_eq_sum _, ?_⟩
  · intro first isFirst
    rw [List.head?_eq_getElem?] at isFirst
    obtain ⟨cs, called⟩ := passes.called_of_tally many isFirst
    have records' := passes.first called
    rw [given] at records'
    rw [(c.tally_counts isFirst called).1, ← records', List.length_map]
  · intro k cs next before behind
    obtain ⟨cs', called⟩ := passes.called_of_tally many behind
    rw [(c.tally_counts behind called).1, ← passes.next before called, List.length_map]
  · have last : _ = seen := congrArg Prod.fst passes.last
    rw [given, serve_recorded, List.nil_append] at last
    rw [← last]
    cases calls.getLast? with
    | none => rfl
    | some cs => rfl
  · intro k tally cs found called
    obtain ⟨processed, filtered, errors⟩ := c.tally_counts found called
    refine ⟨processed, filtered, errors, ?_⟩
    rw [processed, filtered, errors]
    exact FilterCall.length_eq_countP cs
  · intro cs called call member
    obtain ⟨f, isOf⟩ := passes.isOf called member
    exact isOf.sent_eq

/-- A filter that hands each record on twice and then fails on every second one, in front of one
that always fails: the failures of the second are forwarded, the one of the first is not. -/
example :
    let late : Filter Bool := ⟨"late", true, {}, false, fun isSecond r =>
      .emit r fun r => .emit r fun r =>
        .done r (if isSecond then .error (.failed "late") else .ok ()) [] !isSecond⟩
    let early : Filter Bool := ⟨"early", true, {}, false, fun state r =>
      .done r (.error (.failed "early")) [] state⟩
    let c : Chain Bool := ⟨[late, early], .forward⟩
    let r := Record.new Layout.standard
    let done := ((c.run fun r n => (r, n + 1)).serve [r, r] (c.start, 0)).2
    done.1.map (fun t => (t.processed, t.filtered, t.errors)) = [(2, 0, 1), (4, 0, 4)] ∧
      done.2 = 4 := by
  decide

end Chain

end RecordPipeline
