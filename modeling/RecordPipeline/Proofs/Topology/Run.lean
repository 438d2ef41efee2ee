import RecordPipeline.Proofs.Topology.Drain
import RecordPipeline.Topology.Pipeline

/-!
Runs of a topology that has been started: any events in any order, with what has passed through the
queues until then.
-/

namespace RecordPipeline

/-- The batch that a worker has. -/
def FilterWorker.held : FilterWorker → List Batch
  | .busy b _ _ _ => [b]
  | .idle | .returned => []

/-- What has passed through the queues of a flow. -/
structure Traffic where
  sent : List Batch := []
  released : List Batch := []
  /-- The outputs that sinks have read, each with the number of the sink. -/
  received : List (Nat × Output) := []
  /-- The sinks that returned before they came to the end of their queue. -/
  early : List Nat := []

namespace Traffic

/-- What there is to be seen of an event that happens in a flow. -/
def note (t : Topology) (f : Flow) (h : Traffic) : FlowEvent → Traffic
  | .send => { h with sent := h.sent ++ f.feed.take 1 }
  | .release i =>
    { h with released := h.released ++ f.workers[i]?.toList.flatMap FilterWorker.held }
  | .receive i =>
    { h with received := h.received ++ ((f.queues.getD (t.queueOf i) []).take 1).map (i, ·) }
  | .sinkReturns i =>
    { h with early := h.early ++ if f.sinks[i]?.any (!·.isClosed) then [i] else [] }
  | _ => h

theorem early_of_note (t : Topology) (f : Flow) (h : Traffic) (e : FlowEvent)
    (none : (h.note t f e).early = []) : h.early = [] := by
  cases e with
  | sinkReturns i => exact (List.append_eq_nil_iff.mp none).1
  | _ => exact none

end Traffic

namespace Flow

/-- The flows that events can lead to, with the traffic on the way. -/
inductive Run (t : Topology) (start : Flow) : Traffic → Flow → Prop where
  | start : Run t start {} start
  | step {h : Traffic} {f g : Flow} {e : FlowEvent} (before : Run t start h f)
      (fired : f.fire t e = some g) : Run t start (h.note t f e) g

theorem Reaches.snoc {t : Topology} {start f g : Flow} {e : FlowEvent} (h : Reaches t start f)
    (fired : f.fire t e = some g) : Reaches t start g := by
  induction h with
  | refl f => exact .step e fired (.refl g)
  | step e' first _ ih => exact .step e' first (ih fired)

/-- Lets events happen one after the other, if they all can. -/
def follow (t : Topology) : List FlowEvent → Traffic → Flow → Option (Traffic × Flow)
  | [], h, f => some (h, f)
  | e :: rest, h, f => (f.fire t e).bind fun g => follow t rest (h.note t f e) g

theorem Run.follow {t : Topology} {start : Flow} {h h' : Traffic} {f f' : Flow}
    (run : Run t start h f) {es : List FlowEvent} (followed : follow t es h f = some (h', f')) :
    Run t start h' f' := by
  induction es generalizing h f with
  | nil =>
      cases followed
      exact run
  | cons e rest ih =>
      obtain ⟨g, fired, followed⟩ := Option.bind_eq_some_iff.mp followed
      exact ih (run.step fired) followed

/-- No outputs have been made yet, and nobody has returned but perhaps the uploader. -/
structure Fresh (t : Topology) (f : Flow) : Prop where
  sourceResult : f.sourceResult = none
  input : f.input = []
  workers : f.workers = List.replicate t.workers .idle
  queues : f.queues = List.replicate t.dispatcher.queues []
  sinks : f.sinks.length = t.sinks.length
  running : ∀ s ∈ f.sinks, s.outbox = [] ∧ s.isClosed = false ∧ s.hasReturned = false
  uploads : f.uploads = []
  stage : f.stage = .notDraining
  error : f.error = none
  tally : f.tally = PipelineTally.new t.layout.maxFields
  filters : f.filters = t.chain.start
  released : f.released = 0

variable {t : Topology} {f g : Flow}

theorem ofTopology_fresh (t : Topology) (feed : List Batch) (environment : Environment) :
    Fresh t (ofTopology t feed environment) := by
  refine ⟨rfl, rfl, rfl, rfl, List.length_map _, ?_, rfl, rfl, rfl, rfl, rfl, rfl⟩
  intro s member
  obtain ⟨sink, _, rfl⟩ := List.mem_map.mp member
  exact ⟨rfl, rfl, rfl⟩

/-- What a sink does when it starts leaves it and all others running. -/
theorem Fresh.setSink (fresh : Fresh t f) {i : Nat} {s : SinkWorker}
    (found : f.sinks[i]? = some s) (sink : Sink) : Fresh t (f.setSink i { s with sink }) := by
  refine { fresh with sinks := List.length_set.trans fresh.sinks, running := ?_ }
  intro s' member
  rcases List.mem_or_eq_of_mem_set member with before | rfl
  · exact fresh.running s' before
  · exact fresh.running s (List.mem_of_getElem? found)

theorem Fresh.uploaderReturns (fresh : Fresh t f) : Fresh t (f.fired t .uploaderReturns) := by
  cases returned : f.uploaderReturned with
  | true =>
      have same : f.fired t .uploaderReturns = f := by simp [fired, fire, returned]
      rw [same]
      exact fresh
  | false =>
      have gone : f.fired t .uploaderReturns = { f with uploaderReturned := true } := by
        simp [fired, fire, returned]
      rw [gone]
      exact { fresh with }

theorem Fresh.startUploader (fresh : Fresh t f) : Fresh t (f.startUploader t) := by
  unfold Flow.startUploader
  split
  · exact { fresh with }
  · exact fresh.uploaderReturns

theorem Fresh.startSink (fresh : Fresh t f) (i : Nat) : Fresh t (f.startSink i) := by
  unfold Flow.startSink
  split
  · rename_i s found
    split
    · exact fresh
    · exact { fresh.setSink found (s.sink.start f.environment).1 with }
  · exact fresh

theorem Fresh.startSinks (fresh : Fresh t f) (sinks : List Nat) :
    Fresh t (sinks.foldl Flow.startSink f) := by
  induction sinks generalizing f with
  | nil => exact fresh
  | cons i rest ih => exact ih (fresh.startSink i)

/-- Starting the uploader and the sinks makes no outputs. -/
theorem Fresh.begin (fresh : Fresh t f) : Fresh t (f.begin t {}) :=
  fresh.startUploader.startSinks _

/-- The flow of a topology that has been started, with what the source will send. -/
def started (t : Topology) (feed : List Batch) (environment : Environment) : Flow :=
  { (ofTopology t [] environment).begin t {} with feed }

theorem started_fresh (t : Topology) (feed : List Batch) (environment : Environment) :
    Fresh t (started t feed environment) :=
  { (ofTopology_fresh t [] environment).begin with }

theorem Fresh.shaped (fresh : Fresh t f) : Shaped t f := by
  refine ⟨?_, fresh.sinks, ?_, ?_⟩
  · rw [fresh.workers, List.length_replicate]
  · rw [fresh.queues, List.length_replicate]
  · intro w member
    rw [fresh.workers] at member
    rw [List.eq_of_mem_replicate member]
    exact nofun

theorem Fresh.draining (fresh : Fresh t f) : Draining t f := by
  have isOpen : f.isInputClosed = false := by simp [isInputClosed, fresh.stage]
  apply Draining.of_inputOpen isOpen
  · intro member
    rw [fresh.workers] at member
    cases List.eq_of_mem_replicate member
  · intro s member
    exact (fresh.running s member).2.1
  · exact fresh.error

/-- Every run keeps the shape of the flow. -/
theorem Run.shaped {start : Flow} {h : Traffic} (fits : t.Fits) (fresh : Fresh t start)
    (run : Run t start h f) : Shaped t f := by
  induction run with
  | start => exact fresh.shaped
  | step _ fired ih => exact ih.step fits (step_of_fire fired)

/-- Every run drains in order. -/
theorem Run.draining {start : Flow} {h : Traffic} (fresh : Fresh t start)
    (run : Run t start h f) : Draining t f := by
  induction run with
  | start => exact fresh.draining
  | step _ fired ih => exact ih.step (step_of_fire fired)

end Flow

end RecordPipeline
