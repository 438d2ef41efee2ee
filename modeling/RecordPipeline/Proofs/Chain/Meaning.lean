import RecordPipeline.Proofs.Chain.Emission

/-!
The meaning of a chain. A chain of built-in filters hands to its terminal stage, one after the
other, the records that its filters make of one record when each is applied to all that the one
before it makes. What the terminal stage does to a record it is handed changes none of the others.
-/

namespace RecordPipeline

namespace BuiltIn

/-- The records that go on behind a filter: what it makes of the record or, when it fails, none or
the record as it was. -/
def handedOn (onError : OnError) (f : BuiltIn) (r : Record) : List Record :=
  match f.outputs r with
  | .ok records => records
  | .error _ =>
    match onError with
    | .drop => []
    | .forward => [r]

theorem handedOn_of_ok {f : BuiltIn} {r : Record} {records : List Record}
    (h : f.outputs r = .ok records) (onError : OnError) : f.handedOn onError r = records := by
  simp only [handedOn, h]

theorem handedOn_of_error {f : BuiltIn} {r : Record} {e : RecordError}
    (h : f.outputs r = .error e) (onError : OnError) :
    f.handedOn onError r = if onError = .drop then [] else [r] := by
  cases onError with
  | drop => simp only [handedOn, h, if_true]
  | forward => simp [handedOn, h]

/-- The records that leave a list of filters, each filter applied to every record that goes on
behind the one before it. -/
def meaning (onError : OnError) : List BuiltIn → Record → List Record
  | [], r => [r]
  | f :: rest, r => (f.handedOn onError r).flatMap (meaning onError rest)

end BuiltIn

/-- The stage that also keeps the records as they were handed to it. -/
def Stage.recorded {σ : Type} (stage : Stage σ) : Stage (List Record × σ) := fun r (seen, s) =>
  let (r', s) := stage r s
  (r', seen ++ [r], s)

namespace Chain

variable {σ : Type} (onError : OnError) (terminal : Stage σ)

/-- What a filter does in front of the stages behind it: it runs, and a record that it failed on
may follow. -/
theorem stage_cons {τ : Type} (f : Filter τ) (rest : List (Filter τ)) (r : Record)
    (tallies : List (FilterTally τ)) (s : σ) :
    stage onError terminal (f :: rest) r (tallies, s) =
      let behind := stage onError terminal rest
      let before := tallies.headD f.fresh
      let done := (f.process before.state r).run behind (tallies.tail, s)
      let tally := before.add done.1
      if forwards onError done.1 then
        let after := behind done.1.record done.2
        (after.1, tally :: after.2.1, after.2.2)
      else (done.1.record, tally :: done.2.1, done.2.2) := rfl

/-- The stages behind a built-in filter see the records that go on behind it, in order. -/
theorem stage_cons_state (f : BuiltIn) (rest : List Filter) (r : Record)
    (tallies : List FilterTally) (s : σ) :
    (stage onError terminal (f.filter :: rest) r (tallies, s)).2.2 =
      ((f.handedOn onError r).foldl (fun state r => (stage onError terminal rest r state).2)
        (tallies.tail, s)).2 := by
  simp only [stage_cons, BuiltIn.process_filter]
  rcases f.process_emits r with ⟨records, result, houtputs, hemits, hresult⟩ | ⟨e, houtputs, hfail⟩
  · obtain ⟨hdone, _, hstate⟩ := hemits.run_eq (stage onError terminal rest) (tallies.tail, s)
    have hforwards : forwards onError
        ((f.process r).run (stage onError terminal rest) (tallies.tail, s)).1 = false := by
      unfold forwards
      rw [hdone]
      rcases hresult with rfl | rfl
      · rfl
      · rfl
    simp only [hforwards, Bool.false_eq_true, if_false]
    rw [hstate, BuiltIn.handedOn_of_ok houtputs]
  · simp only [hfail, BuiltIn.handedOn_of_error houtputs]
    cases onError with
    | drop => rfl
    | forward => rfl

/-- The state of the terminal stage after a record has gone through a list of filters: the terminal
stage has taken the records of the meaning one after the other. -/
theorem stage_state (fs : List BuiltIn) (r : Record) (tallies : List FilterTally) (s : σ) :
    (stage onError terminal (fs.map BuiltIn.filter) r (tallies, s)).2.2 =
      (BuiltIn.meaning onError fs r).foldl (fun s r => (terminal r s).2) s := by
  induction fs generalizing r tallies s with
  | nil => rfl
  | cons f rest ih =>
      rw [List.map_cons, stage_cons_state, BuiltIn.meaning]
      generalize f.handedOn onError r = records
      generalize tallies.tail = tallies
      induction records generalizing tallies s with
      | nil => rfl
      | cons first records ihRecords =>
          rw [List.foldl_cons, List.flatMap_cons, List.foldl_append, ← ih first tallies s]
          exact ihRecords _ _

/-- All built-in filters take part in their chain. -/
theorem make_filters (fs : List BuiltIn) :
    (make (fs.map BuiltIn.filter) onError).filters = fs.map BuiltIn.filter := by
  apply List.filter_eq_self.mpr
  intro f member
  obtain ⟨b, _, rfl⟩ := List.mem_map.mp member
  rfl

theorem foldl_recorded (records seen : List Record) (s : σ) :
    records.foldl (fun state r => (terminal.recorded r state).2) (seen, s) =
      (seen ++ records, records.foldl (fun s r => (terminal r s).2) s) := by
  induction records generalizing seen s with
  | nil => simp
  | cons first records ih =>
      rw [List.foldl_cons, List.foldl_cons]
      exact (ih (seen ++ [first]) _).trans (by simp)

/-- Whatever the terminal stage does to the records that it is handed, it is handed exactly the
records of the meaning of the chain, in their order, and its state is what these make of it. -/
theorem run_recorded_eq_meaning (fs : List BuiltIn) (r : Record) (tallies : List FilterTally)
    (s : σ) :
    ((make (fs.map BuiltIn.filter) onError).run terminal.recorded r (tallies, [], s)).2.2 =
      (BuiltIn.meaning onError fs r,
        (BuiltIn.meaning onError fs r).foldl (fun s r => (terminal r s).2) s) := by
  have hrun : (make (fs.map BuiltIn.filter) onError).run terminal.recorded =
      stage onError terminal.recorded (fs.map BuiltIn.filter) := by
    rw [run, make_filters]
    rfl
  rw [hrun, stage_state, foldl_recorded, List.nil_append]

end Chain

end RecordPipeline
