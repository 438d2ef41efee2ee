import Mathlib.Data.List.Basic
import RecordPipeline.Proofs.Chain.Tallies

/-!
The calls of the filters of a chain. Each filter is called once for every record that comes to it,
and what the calls of one filter hand on is, in the same order, what comes to the next one. A call
lasts until all that it hands on has gone through the filters behind, so that these are called while
it lasts; the tallies still come out as counts of the calls, filter by filter. The calls of one
filter never overlap: each finds it in the state in which the one before it left it.
-/

namespace RecordPipeline

/-- A record as a stage was given it, and as it came back from there. -/
structure Exchange where
  given : Record
  back : Record
deriving DecidableEq

section Calling

variable {σ τ : Type}

/-- If the records that it hands on come back so, the activity hands on these and ends with this
record, result, increments and state. -/
inductive Activity.Goes : Activity τ → List Exchange → Record → Except FilterError Unit →
    List (String × Nat) → τ → Prop where
  | done (record : Record) (result : Except FilterError Unit) (noted : List (String × Nat))
      (state : τ) : Goes (.done record result noted state) [] record result noted state
  | emit {record back left : Record} {next : Record → Activity τ} {rest : List Exchange}
      {result : Except FilterError Unit} {noted : List (String × Nat)} {state : τ}
      (h : Goes (next back) rest left result noted state) :
      Goes (.emit record next) (⟨record, back⟩ :: rest) left result noted state

/-- One call of a filter. -/
structure FilterCall (τ : Type := Unit) where
  /-- The record as the filter was given it. -/
  record : Record
  /-- What the filter handed on, in order. -/
  emitted : List Exchange
  /-- The record as the filter left it. -/
  left : Record
  result : Except FilterError Unit
  noted : List (String × Nat)
  /-- What came back of the record, if it was handed on although the filter failed on it. -/
  forwarded : Option Record
  /-- The state of the filter before the call. -/
  before : τ := by exact ()
  /-- The state of the filter after the call. -/
  after : τ := by exact ()

namespace FilterCall

/-- The filter has an error that is not meant to keep the record back. -/
def Failed (c : FilterCall τ) : Prop := c.result ≠ .ok () ∧ c.result ≠ .error .drop

/-- The filter dropped the record, or handed nothing on without an error. -/
def KeptBack (c : FilterCall τ) : Prop :=
  c.result = .error .drop ∨ c.result = .ok () ∧ c.emitted = []

/-- The filter handed something on and has no error. -/
def Passed (c : FilterCall τ) : Prop := c.result = .ok () ∧ c.emitted ≠ []

instance : DecidablePred (@Failed τ) := fun _ => inferInstanceAs (Decidable (_ ∧ _))

instance : DecidablePred (@KeptBack τ) := fun _ => inferInstanceAs (Decidable (_ ∨ _))

instance : DecidablePred (@Passed τ) := fun _ => inferInstanceAs (Decidable (_ ∧ _))

/-- What the chain sees of the call. -/
def outcome (c : FilterCall τ) : Activity.Outcome τ where
  record := c.left
  result := c.result
  noted := c.noted
  emitted := c.emitted.length
  state := c.after

/-- The call as those in front of the filter see it. -/
def exchange (c : FilterCall τ) : Exchange := ⟨c.record, c.forwarded.getD c.left⟩

/-- All that went on because of the call: what the filter handed on, and the record itself if it was
forwarded. -/
def exchanges (c : FilterCall τ) : List Exchange :=
  c.emitted ++ c.forwarded.toList.map (⟨c.left, ·⟩)

/-- The records that went on because of the call. -/
def sent (c : FilterCall τ) : List Record := c.exchanges.map (·.given)

/-- A call of this filter, with the record forwarded where the policy asks for it: after a failure
before which nothing was handed on. -/
structure IsOf (onError : OnError) (f : Filter τ) (c : FilterCall τ) : Prop where
  goes : (f.process c.before c.record).Goes c.emitted c.left c.result c.noted c.after
  forwarded : c.forwarded.isSome = true ↔ onError = .forward ∧ c.Failed ∧ c.emitted = []

/-- Calls of one filter, each of which begins where the one before it ended, from a first state. -/
def Follow : τ → List (FilterCall τ) → Prop
  | _, [] => True
  | state, c :: rest => c.before = state ∧ Follow c.after rest

/-- The state that calls leave a filter in. -/
def stateAfter (state : τ) (calls : List (FilterCall τ)) : τ :=
  calls.foldl (fun _ c => c.after) state

theorem Follow.append {state : τ} {calls calls' : List (FilterCall τ)} (h : Follow state calls)
    (h' : Follow (stateAfter state calls) calls') : Follow state (calls ++ calls') := by
  induction calls generalizing state with
  | nil => exact h'
  | cons c rest ih => exact ⟨h.1, ih h.2 h'⟩

theorem state_addAll (t : FilterTally τ) (calls : List (FilterCall τ)) :
    (t.addAll (calls.map outcome)).state = stateAfter t.state calls := by
  induction calls generalizing t with
  | nil => rfl
  | cons c rest ih => exact (ih (t.add c.outcome)).trans (by rw [FilterTally.add_eq]; rfl)

end FilterCall

/-- Hands records to a stage, one after the other. -/
def Stage.serve (stage : Stage σ) : List Record → σ → List Record × σ
  | [], s => ([], s)
  | r :: rest, s =>
    let (back, s) := stage r s
    let (backs, s) := stage.serve rest s
    (back :: backs, s)

namespace Chain

open Activity (Outcome)
open FilterCall (Follow stateAfter)

variable {onError : OnError} {terminal : Stage σ}

/-- Records pass through a list of filters with these calls, a list for each filter. What comes to a
filter is what the calls of the one before it sent, and what the last of them sent comes to the
terminal stage, which takes its state from the first to the second one given. -/
inductive Passes (onError : OnError) (terminal : Stage σ) (s s' : σ) :
    List (Filter τ) → List Exchange → List (List (FilterCall τ)) → Prop where
  | terminal {exchanges : List Exchange}
      (served : terminal.serve (exchanges.map (·.given)) s = (exchanges.map (·.back), s')) :
      Passes onError terminal s s' [] exchanges []
  | filter {f : Filter τ} {rest : List (Filter τ)} {calls : List (FilterCall τ)}
      {later : List (List (FilterCall τ))} (each : ∀ call ∈ calls, call.IsOf onError f)
      (behind : Passes onError terminal s s' rest (calls.flatMap (·.exchanges)) later) :
      Passes onError terminal s s' (f :: rest) (calls.map (·.exchange)) (calls :: later)

/-- The outcomes of the calls, for each filter. -/
def outcomes (calls : List (List (FilterCall τ))) : List (List (Outcome τ)) :=
  calls.map (·.map FilterCall.outcome)

theorem outcomes_zipWith (calls later : List (List (FilterCall τ))) :
    outcomes (List.zipWith (· ++ ·) calls later) =
      List.zipWith (· ++ ·) (outcomes calls) (outcomes later) := by
  simp only [outcomes, List.map_zipWith, List.zipWith_map, List.map_append]

theorem serve_append {stage : Stage σ} (first second : List Record) (s : σ) :
    stage.serve (first ++ second) s =
      ((stage.serve first s).1 ++ (stage.serve second (stage.serve first s).2).1,
        (stage.serve second (stage.serve first s).2).2) := by
  induction first generalizing s with
  | nil => rfl
  | cons r rest ih =>
      simp only [List.cons_append, Stage.serve, ih]

/-- The calls of all filters, each filter's from its own state on. -/
def InTurn (states : List τ) (calls : List (List (FilterCall τ))) : Prop :=
  List.Forall₂ Follow states calls

theorem InTurn.nothing (states : List τ) :
    InTurn states (List.replicate states.length ([] : List (FilterCall τ))) := by
  induction states with
  | nil => exact .nil
  | cons state rest ih => exact .cons trivial ih

theorem InTurn.append {states : List τ} {calls calls' : List (List (FilterCall τ))}
    (h : InTurn states calls) (h' : InTurn (List.zipWith stateAfter states calls) calls') :
    InTurn states (List.zipWith (· ++ ·) calls calls') := by
  induction h generalizing calls' with
  | nil =>
      cases h'
      exact .nil
  | cons first _ ih =>
      cases h' with
      | cons first' rest' => exact .cons (first.append first') (ih rest')

/-- Counting the calls of filters takes these to the states in which the calls leave them. -/
theorem states_counted (tallies : List (FilterTally τ)) (calls : List (List (FilterCall τ))) :
    (counted tallies (outcomes calls)).map (·.state) =
      List.zipWith stateAfter (tallies.map (·.state)) calls := by
  simp only [counted, outcomes, List.zipWith_map_right, List.zipWith_map_left, List.map_zipWith,
    FilterCall.state_addAll]

namespace Passes

variable {s s' s'' : σ} {fs : List (Filter τ)} {exchanges exchanges' : List Exchange}
  {calls calls' : List (List (FilterCall τ))}

theorem length (h : Passes onError terminal s s' fs exchanges calls) :
    calls.length = fs.length := by
  induction h with
  | terminal served => rfl
  | filter each behind ih => exact congrArg (· + 1) ih

theorem length_counted (h : Passes onError terminal s s' fs exchanges calls)
    {tallies : List (FilterTally τ)} (many : tallies.length = fs.length) :
    (counted tallies (outcomes calls)).length = fs.length :=
  Chain.length_counted many ((List.length_map _).trans h.length)

theorem nothing (s : σ) (fs : List (Filter τ)) :
    Passes onError terminal s s fs [] (List.replicate fs.length []) := by
  induction fs with
  | nil => exact .terminal rfl
  | cons f rest ih => exact .filter (fun _ member => absurd member List.not_mem_nil) ih

/-- What passes later has its calls behind the earlier ones, at each filter. -/
theorem append (h : Passes onError terminal s s' fs exchanges calls)
    (h' : Passes onError terminal s' s'' fs exchanges' calls') :
    Passes onError terminal s s'' fs (exchanges ++ exchanges')
      (List.zipWith (· ++ ·) calls calls') := by
  induction h generalizing exchanges' calls' with
  | terminal served =>
      cases h' with
      | terminal served' =>
          refine .terminal ?_
          simp only [List.map_append, serve_append, served, served']
  | filter each behind ih =>
      cases h' with
      | filter each' behind' =>
          have all := ih behind'
          rw [← List.flatMap_append] at all
          rw [← List.map_append]
          refine .filter ?_ all
          intro call member
          rcases List.mem_append.mp member with earlier | later
          · exact each call earlier
          · exact each' call later

end Passes

/-- While a filter is called, the filters behind it are called for each record that it hands on, and
each of these calls is counted on its own. -/
theorem run_passes {behind : Stage (List (FilterTally τ) × σ)} {fs : List (Filter τ)}
    (passes : ∀ r (states : List τ) s, states.length = fs.length →
      ∃ back s' calls, Passes onError terminal s s' fs [⟨r, back⟩] calls ∧ InTurn states calls ∧
        ∀ tallies : List (FilterTally τ), tallies.map (·.state) = states →
          behind r (tallies, s) = (back, counted tallies (outcomes calls), s'))
    (activity : Activity τ) {states : List τ} (many : states.length = fs.length) (s : σ) :
    ∃ emitted left result noted state s' calls,
      activity.Goes emitted left result noted state ∧
      Passes onError terminal s s' fs emitted calls ∧ InTurn states calls ∧
      ∀ tallies : List (FilterTally τ), tallies.map (·.state) = states →
        activity.run behind (tallies, s) =
          ({ record := left, result, noted, emitted := emitted.length, state },
            counted tallies (outcomes calls), s') := by
  induction activity generalizing states s with
  | done record result noted state =>
      have turn := InTurn.nothing states
      rw [many] at turn
      refine ⟨[], record, result, noted, state, s, _, .done record result noted state,
        .nothing s fs, turn, ?_⟩
      rintro tallies rfl
      rw [outcomes, List.map_replicate, List.map_nil, ← many, List.length_map, counted_nothing]
      rfl
  | emit record next ih =>
      obtain ⟨back, s', calls, first, turn, handed⟩ := passes record states s many
      have many' : (List.zipWith stateAfter states calls).length = fs.length := by
        rw [List.length_zipWith, many, first.length, Nat.min_self]
      obtain ⟨emitted, left, result, noted, state, s'', calls', goes, others, turn', rest⟩ :=
        ih back many' s'
      refine ⟨⟨record, back⟩ :: emitted, left, result, noted, state, s'', _, .emit goes,
        first.append others, turn.append turn', ?_⟩
      rintro tallies rfl
      rw [Activity.run, handed tallies rfl]
      dsimp only
      rw [rest _ (states_counted tallies calls), counted_counted, outcomes_zipWith]
      rfl

/-- A failure is what the chain looks at when it is to forward a record. -/
theorem forwards_iff (call : FilterCall τ) :
    forwards onError call.outcome = true ↔
      onError = .forward ∧ call.Failed ∧ call.emitted = [] := by
  unfold forwards FilterCall.Failed FilterCall.outcome
  cases call.result with
  | ok _ => simp
  | error e => cases e <;> simp

/-- Each record that comes to a list of filters passes through it with some calls, which are what is
counted. -/
theorem stage_passes_from (onError : OnError) (terminal : Stage σ) (fs : List (Filter τ))
    (r : Record) (states : List τ) (s : σ) (many : states.length = fs.length) :
    ∃ back s' calls, Passes onError terminal s s' fs [⟨r, back⟩] calls ∧ InTurn states calls ∧
      ∀ tallies : List (FilterTally τ), tallies.map (·.state) = states →
        stage onError terminal fs r (tallies, s) =
          (back, counted tallies (outcomes calls), s') := by
  induction fs generalizing r states s with
  | nil =>
      obtain rfl := List.length_eq_zero_iff.mp many
      refine ⟨(terminal r s).1, (terminal r s).2, [], .terminal rfl, .nil, ?_⟩
      intro tallies none
      rw [List.map_eq_nil_iff.mp none]
      rfl
  | cons f rest ih =>
      -- The filters behind are called for what the call emits, and once more if the record is
      -- forwarded, so their calls are those of both.
      obtain ⟨before, states, rfl⟩ := List.exists_cons_of_length_eq_add_one many
      have many := Nat.succ.inj many
      obtain ⟨emitted, left, result, noted, after, s', later, goes, behind, turn, runs⟩ :=
        run_passes ih (f.process before r) many s
      have many' : (List.zipWith stateAfter states later).length = rest.length := by
        rw [List.length_zipWith, many, behind.length, Nat.min_self]
      obtain ⟨back, s'', later', afterwards, turn', follows⟩ := ih left _ s' many'
      let call : FilterCall τ :=
        { record := r, emitted, left, result, noted, forwarded := none, before, after }
      cases forwarded : forwards onError call.outcome with
      | false =>
          have isOf : call.IsOf onError f := by
            refine ⟨goes, ?_⟩
            rw [← forwards_iff, forwarded]
            exact iff_of_eq rfl
          refine ⟨left, s', [call] :: later, ?_, .cons ⟨rfl, trivial⟩ turn, ?_⟩
          · have one : Passes onError terminal s s' rest ([call].flatMap (·.exchanges)) later := by
              simpa [FilterCall.exchanges, call] using behind
            exact .filter (List.forall_mem_singleton.mpr isOf) one
          · rintro tallies inStates
            obtain ⟨tally, tallies, rfl, rfl, rfl⟩ := List.map_eq_cons_iff.mp inStates
            have same : forwards onError
                { record := left, result, noted, emitted := emitted.length, state := after } =
                  false := forwarded
            rw [stage_cons]
            simp only [List.headD_cons, List.tail_cons, runs tallies rfl, same,
              Bool.false_eq_true, if_false]
            rfl
      | true =>
          have isOf : { call with forwarded := some back }.IsOf onError f := by
            refine ⟨goes, ?_⟩
            rw [← forwards_iff]
            exact iff_of_true rfl forwarded
          refine ⟨back, s'', [{ call with forwarded := some back }] ::
            List.zipWith (· ++ ·) later later', ?_, .cons ⟨rfl, trivial⟩ (turn.append turn'), ?_⟩
          · have both : Passes onError terminal s s'' rest
                ([{ call with forwarded := some back }].flatMap (·.exchanges))
                (List.zipWith (· ++ ·) later later') := by
              simpa [FilterCall.exchanges, call] using behind.append afterwards
            exact .filter (List.forall_mem_singleton.mpr isOf) both
          · rintro tallies inStates
            obtain ⟨tally, tallies, rfl, rfl, rfl⟩ := List.map_eq_cons_iff.mp inStates
            have same : forwards onError
                { record := left, result, noted, emitted := emitted.length, state := after } =
                  true := forwarded
            rw [stage_cons]
            simp only [List.headD_cons, List.tail_cons, runs tallies rfl, same, if_true]
            rw [follows _ (states_counted tallies later), counted_counted, ← outcomes_zipWith]
            rfl

theorem states_of_unit {tallies : List FilterTally} {n : Nat} (many : tallies.length = n) :
    tallies.map (·.state) = List.replicate n () :=
  List.eq_replicate_iff.mpr ⟨(List.length_map _).trans many, fun _ _ => rfl⟩

/-- Filters without a state make the same calls whatever was counted before. -/
theorem stage_passes (onError : OnError) (terminal : Stage σ) (fs : List Filter) (r : Record)
    (s : σ) :
    ∃ back s' calls, Passes onError terminal s s' fs [⟨r, back⟩] calls ∧
      ∀ tallies : List FilterTally, tallies.length = fs.length →
        stage onError terminal fs r (tallies, s) =
          (back, counted tallies (outcomes calls), s') := by
  obtain ⟨back, s', calls, passes, _, counts⟩ := stage_passes_from onError terminal fs r
    (List.replicate fs.length ()) s List.length_replicate
  exact ⟨back, s', calls, passes, fun tallies many => counts tallies (states_of_unit many)⟩

end Chain

end Calling

end RecordPipeline
