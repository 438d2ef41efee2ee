import RecordPipeline.Proofs.Chain.Meaning
import RecordPipeline.Topology.Flow

/-!
What a topology makes of one line, taken alone: parsed, checked, taken through the chain and
projected. The counts that a running topology keeps never change what comes of a line.
-/

namespace RecordPipeline

/-- Two stages that leave the same records, and keep their states related. -/
def Stage.Related {σ τ : Type} (R : σ → τ → Prop) (a : Stage σ) (b : Stage τ) : Prop :=
  ∀ r s u, R s u → (a r s).1 = (b r u).1 ∧ R (a r s).2 (b r u).2

theorem Activity.run_emit {σ : Type} (stage : Stage σ) (record : Record)
    (next : Record → Activity) (s : σ) :
    (Activity.emit record next).run stage s =
      let after := (next (stage record s).1).run stage (stage record s).2
      ({ after.1 with emitted := after.1.emitted + 1 }, after.2) := rfl

section Related

variable {σ τ : Type} {R : σ → τ → Prop} {a : Stage σ} {b : Stage τ}

/-- An activity cannot tell related stages apart. -/
theorem Activity.run_related (h : Stage.Related R a b) (activity : Activity) (s : σ) (u : τ)
    (hs : R s u) :
    (activity.run a s).1 = (activity.run b u).1 ∧ R (activity.run a s).2 (activity.run b u).2 := by
  induction activity generalizing s u with
  | done record result noted => exact ⟨rfl, hs⟩
  | emit record next ih =>
      obtain ⟨hrecord, hstate⟩ := h record s u hs
      obtain ⟨houtcome, hafter⟩ := ih (a record s).1 (a record s).2 (b record u).2 hstate
      rw [run_emit, run_emit, ← hrecord]
      refine ⟨?_, hafter⟩
      dsimp only
      rw [houtcome]

/-- In front of related terminal stages a list of filters without states makes related stages,
whatever the filters have counted on either side. -/
theorem Chain.stage_related (h : Stage.Related R a b) (onError : OnError) (fs : List Filter) :
    Stage.Related (fun s u => R s.2 u.2) (stage onError a fs) (stage onError b fs) := by
  induction fs with
  | nil =>
      intro r s u hs
      exact h r s.2 u.2 hs
  | cons f rest ih =>
      intro r s u hs
      have stateless : ∀ state, f.process state r = f.process () r := fun _ => rfl
      obtain ⟨houtcome, hstate⟩ := Activity.run_related ih (f.process () r) (s.1.tail, s.2)
        (u.1.tail, u.2) hs
      rw [stage_cons, stage_cons]
      simp only [stateless, ← houtcome]
      by_cases forwarded : forwards onError
          ((f.process () r).run (stage onError a rest) (s.1.tail, s.2)).1 = true
      · rw [if_pos forwarded, if_pos forwarded]
        exact ih _ _ _ hstate
      · rw [if_neg forwarded, if_neg forwarded]
        exact ⟨rfl, hstate⟩

end Related

namespace Topology

/-- The stage that collects the records that come to it. -/
def collecting : Stage (List Record) := fun r seen => (r, seen ++ [r])

/-- The records that come to the end of the chain for one line, as they are there. A line that is
malformed or fails the check has none. -/
def survivors (t : Topology) (metadata : Option Metadata) (line : Bytes) : List Record :=
  match (Record.new t.layout).parse line metadata with
  | (_, .error _) => []
  | (r, .ok ()) =>
    if Validator.accepts t.validator r then
      (t.chain.run collecting r (t.chain.start, [])).2.2
    else []

/-- The outputs of one line in their order, each with the queue that it belongs to. -/
def reference (t : Topology) (metadata : Option Metadata) (line : Bytes) : List (Nat × Output) :=
  (t.survivors metadata line).map fun r => (t.dispatcher.select r, t.projection.project r)

/-- The outputs of the lines of a batch, one line after the other. -/
def batchReference (t : Topology) (b : Batch) : List (Nat × Output) :=
  b.lines.flatMap (t.reference b.metadata)

/-- The end of the chain collects what becomes of the records that come to it. -/
theorem terminal_related (t : Topology) :
    Stage.Related (fun outputs seen => outputs = seen.map fun r =>
      (t.dispatcher.select r, t.projection.project r)) t.terminal collecting := by
  intro r outputs seen collected
  refine ⟨rfl, ?_⟩
  simp only [terminal, collecting, List.map_append, collected, List.map_cons, List.map_nil]

/-- A check that may not be there passes the records in which it names no field. -/
theorem accepts_eq_isNone (v : Option Validator) (r : Record) :
    Validator.accepts v r = (v.bind (·.offending? r)).isNone := by
  cases v with
  | none => rfl
  | some v => rfl

/-- What comes of a line does not depend on what was counted before. -/
theorem processLine_outputs (t : Topology) (tally : PipelineTally) (filters : List FilterTally)
    (metadata : Option Metadata) (line : Bytes) :
    (t.processLine tally filters metadata line).outputs = t.reference metadata line := by
  unfold processLine reference survivors
  cases hparse : (Record.new t.layout).parse line metadata with
  | mk r result =>
      cases result with
      | error e => rfl
      | ok _ =>
          simp only [accepts_eq_isNone]
          cases offending : t.validator.bind (·.offending? r) with
          | some field => rfl
          | none =>
              obtain ⟨_, collected⟩ := Chain.stage_related t.terminal_related t.chain.onError
                t.chain.filters r (filters, []) (t.chain.start, []) rfl
              exact collected

/-- Taking up a line counts nothing as delivered or lost. -/
theorem processLine_tally (t : Topology) (tally : PipelineTally) (filters : List FilterTally)
    (metadata : Option Metadata) (line : Bytes) :
    (t.processLine tally filters metadata line).tally.emitted = tally.emitted ∧
      (t.processLine tally filters metadata line).tally.undelivered = tally.undelivered := by
  unfold processLine
  cases hparse : (Record.new t.layout).parse line metadata with
  | mk r result =>
      cases result with
      | error e => exact ⟨rfl, rfl⟩
      | ok _ =>
          dsimp only
          split
          · exact ⟨rfl, rfl⟩
          · dsimp only
            split
            · exact ⟨rfl, rfl⟩
            · exact ⟨rfl, rfl⟩

end Topology

end RecordPipeline
