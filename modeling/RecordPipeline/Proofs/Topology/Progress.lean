import RecordPipeline.Proofs.Topology.Run

/-!
The drain never gets stuck. Whoever has to wait waits for somebody who can go on: a worker for a
sink that reads, a sink for the uploader, the source for a worker. Nobody has to leave before the
work is done for that, and whoever leaves nevertheless holds up nobody. A queue is closed just when
nobody is left who could put anything into it.
-/

namespace RecordPipeline

namespace DrainStage

/-- Whether the one who drains has a sender of its own for the source queue. -/
def holdsInput : DrainStage → Bool
  | .notDraining | .sourceAwaited => true
  | .workersAwaited | .sinksAwaited | .uploaderAwaited | .drained => false

/-- Whether the one who drains has senders of its own for the queues of outputs. -/
def holdsOutputs : DrainStage → Bool
  | .notDraining | .sourceAwaited | .workersAwaited => true
  | .sinksAwaited | .uploaderAwaited | .drained => false

/-- Whether the one who drains has a sender of its own for the upload queue. -/
def holdsUploads : DrainStage → Bool
  | .notDraining | .sourceAwaited | .workersAwaited | .sinksAwaited => true
  | .uploaderAwaited | .drained => false

end DrainStage

def FilterWorker.isRunning : FilterWorker → Bool
  | .idle | .busy _ _ _ _ => true
  | .returned => false

namespace Flow

/-- How many can still put a batch into the source queue: the source, and the one who drains. -/
def inputSenders (f : Flow) : Nat := f.stage.holdsInput.toNat + f.sourceResult.isNone.toNat

/-- How many can still put an output into a queue: the workers, and the one who drains. -/
def outputSenders (f : Flow) : Nat :=
  f.stage.holdsOutputs.toNat + f.workers.countP FilterWorker.isRunning

/-- How many can still put a request into the upload queue: the sinks, and the one who drains. -/
def uploadSenders (f : Flow) : Nat :=
  f.stage.holdsUploads.toNat + f.sinks.countP (!·.hasReturned)

def areUploadsClosed (f : Flow) : Bool := f.areQueuesClosed && f.stage ≠ .sinksAwaited

/-- Whether an event is the return of a component that has something left to do. A stopped uploader
has not. -/
def isEarly (f : Flow) : FlowEvent → Bool
  | .sourceReturns _ => !f.feed.isEmpty
  | .sinkReturns i => !f.sinks[i]?.any fun s => s.isClosed && s.outbox.isEmpty
  | .uploaderReturns => !f.uploader.isStopped && !(f.areUploadsClosed && f.uploads.isEmpty)
  | _ => false

/-- The flows that a topology can come to when it may be stopped at any time. -/
inductive Unfolds (t : Topology) (start : Flow) : Flow → Prop where
  | start : Unfolds t start start
  | event {f g : Flow} {e : FlowEvent} (before : Unfolds t start f)
      (fired : f.fire t e = some g) : Unfolds t start g
  | stop {f : Flow} (before : Unfolds t start f) :
      Unfolds t start { f with uploader := f.uploader.stop }

variable {t : Topology} {f g : Flow}

theorem Run.unfolds {start : Flow} {h : Traffic} (run : Run t start h f) : Unfolds t start f := by
  induction run with
  | start => exact .start
  | step _ fired ih => exact ih.event fired

theorem Unfolds.shaped {start : Flow} (fits : t.Fits) (fresh : Fresh t start)
    (unfolds : Unfolds t start f) : Shaped t f := by
  induction unfolds with
  | start => exact fresh.shaped
  | event _ fired ih => exact ih.step fits (step_of_fire fired)
  | stop _ ih => exact { ih with }

theorem Unfolds.draining {start : Flow} (fresh : Fresh t start) (unfolds : Unfolds t start f) :
    Draining t f := by
  induction unfolds with
  | start => exact fresh.draining
  | event _ fired ih => exact ih.step (step_of_fire fired)
  | stop _ ih => exact { ih with }

/-- Somebody can go on, and nobody has to leave early for that. -/
def GoesOn (t : Topology) (f : Flow) : Prop := ∃ e g, f.fire t e = some g ∧ f.isEarly e = false

theorem Step.goesOn {e : FlowEvent} (step : Step t f e g) (patient : f.isEarly e = false) :
    GoesOn t f := ⟨e, g, fire_of_step step, patient⟩

/-- The uploader takes up a request, or returns because it was stopped. -/
theorem goesOn_of_uploads (running : f.uploaderReturned = false) (pending : f.uploads ≠ []) :
    GoesOn t f := by
  cases stopped : f.uploader.isStopped with
  | true => exact (Step.uploaderReturns running).goesOn (by simp [isEarly, stopped])
  | false =>
      obtain ⟨request, rest, uploads⟩ := List.exists_cons_of_ne_nil pending
      exact (Step.upload uploads running stopped).goesOn rfl

/-- A sink gets rid of a request, or the upload queue is full. -/
theorem goesOn_of_outbox (fits : t.Fits) {i : Nat} {s : SinkWorker}
    (found : f.sinks[i]? = some s) (running : s.hasReturned = false) (pending : s.outbox ≠ []) :
    GoesOn t f := by
  obtain ⟨request, outbox, hs⟩ := List.exists_cons_of_ne_nil pending
  cases gone : f.uploaderReturned with
  | true => exact (Step.forget found hs running gone).goesOn rfl
  | false =>
      by_cases room : f.uploads.length < t.uploadQueueSize
      · exact (Step.announce found hs running gone room).goesOn rfl
      · apply goesOn_of_uploads gone
        intro none
        rw [none] at room
        exact room fits.uploadRoom

/-- A sink reads an output, unless it has a request to get rid of first. -/
theorem goesOn_of_queue (fits : t.Fits) {i : Nat} {s : SinkWorker}
    (found : f.sinks[i]? = some s) (running : s.hasReturned = false)
    (queued : f.queues.getD (t.queueOf i) [] ≠ []) : GoesOn t f := by
  by_cases announced : s.outbox = []
  · obtain ⟨o, rest, queue⟩ := List.exists_cons_of_ne_nil queued
    exact (Step.receive found queue running announced).goesOn rfl
  · exact goesOn_of_outbox fits found running announced

theorem exists_of_hasReader {queue : Nat} (read : f.hasReader t queue = true) :
    ∃ i s, f.sinks[i]? = some s ∧ s.hasReturned = false ∧ t.queueOf i = queue := by
  obtain ⟨⟨s, i⟩, member, reads⟩ := List.any_eq_true.mp read
  simp only [Bool.and_eq_true, decide_eq_true_eq, Bool.not_eq_true'] at reads
  have found := List.mem_zipIdx_iff_getElem?.mp member
  exact ⟨i, s, found, reads.2, reads.1⟩

/-- A worker with a batch works on it, or the sinks have to make room for its output. -/
theorem goesOn_of_busy (fits : t.Fits) {i : Nat} {b : Batch} {lines : List Bytes}
    {outbox : List (Nat × Output)} {isWaiting : Bool}
    (busy : f.workers[i]? = some (.busy b lines outbox isWaiting)) : GoesOn t f := by
  cases outbox with
  | nil =>
      cases lines with
      | nil => exact (Step.release busy).goesOn rfl
      | cons line lines => exact (Step.processLine busy).goesOn rfl
  | cons entry outbox =>
      obtain ⟨queue, o⟩ := entry
      cases read : f.hasReader t queue with
      | false => exact (Step.lose busy read).goesOn rfl
      | true =>
          by_cases room : (f.queues.getD queue []).length < t.sinkQueueSize
          · exact (Step.deliver busy read room).goesOn rfl
          · obtain ⟨j, s, found, running, rfl⟩ := exists_of_hasReader read
            apply goesOn_of_queue fits found running
            intro none
            rw [none] at room
            exact room fits.sinkRoom

/-- A worker takes a batch, or has one. -/
theorem goesOn_of_input (fits : t.Fits) {w : FilterWorker} (member : w ∈ f.workers)
    (running : w ≠ .returned) (pending : f.input ≠ []) : GoesOn t f := by
  obtain ⟨i, found⟩ := List.mem_iff_getElem?.mp member
  cases w with
  | idle =>
      obtain ⟨b, rest, input⟩ := List.exists_cons_of_ne_nil pending
      exact (Step.take found input).goesOn rfl
  | busy b lines outbox isWaiting => exact goesOn_of_busy fits found
  | returned => exact absurd rfl running

/-- The source sends a batch or has none left, or a worker has to make room for it. -/
theorem goesOn_of_source (fits : t.Fits) (shaped : Shaped t f) (draining : Draining t f)
    (running : f.sourceResult = none) : GoesOn t f := by
  cases feed : f.feed with
  | nil =>
      have returns : Step t f (.sourceReturns (.ok ())) { f with sourceResult := some (.ok ()) } :=
        .sourceReturns running
      exact returns.goesOn (by simp [isEarly, feed])
  | cons b rest =>
      by_cases room : f.input.length < t.inputQueueSize
      · exact (Step.send feed running room).goesOn rfl
      · have hworkers : 0 < f.workers.length := shaped.workers.symm ▸ fits.workers
        have member := List.getElem_mem hworkers
        have atWork : f.workers[0] ≠ .returned := by
          intro returned
          exact draining.noneReturned (draining.inputOpen running) (returned ▸ member)
        apply goesOn_of_input fits member atWork
        intro none
        rw [none] at room
        exact room fits.inputRoom

/-- While workers are awaited, they come to the end of the source queue. -/
theorem goesOn_of_worker (fits : t.Fits) (closed : f.isInputClosed = true) {w : FilterWorker}
    (member : w ∈ f.workers) (running : w ≠ .returned) : GoesOn t f := by
  by_cases pending : f.input = []
  · obtain ⟨i, found⟩ := List.mem_iff_getElem?.mp member
    cases w with
    | idle => exact (Step.workerReturns found closed pending).goesOn rfl
    | busy b lines outbox isWaiting => exact goesOn_of_busy fits found
    | returned => exact absurd rfl running
  · exact goesOn_of_input fits member running pending

/-- While sinks are awaited, they come to the end of their queues. -/
theorem goesOn_of_sink (fits : t.Fits) (closed : f.areQueuesClosed = true) {s : SinkWorker}
    (member : s ∈ f.sinks) (running : s.hasReturned = false) : GoesOn t f := by
  obtain ⟨i, found⟩ := List.mem_iff_getElem?.mp member
  by_cases announced : s.outbox = []
  · cases ended : s.isClosed with
    | true =>
        exact (Step.sinkReturns found running).goesOn (by simp [isEarly, found, ended, announced])
    | false =>
        by_cases queued : f.queues.getD (t.queueOf i) [] = []
        · exact (Step.close found running ended announced closed queued).goesOn rfl
        · exact goesOn_of_queue fits found running queued
  · exact goesOn_of_outbox fits found running announced

/-- As long as the drain lasts somebody can go on. -/
theorem goesOn_of_drain (fits : t.Fits) (shaped : Shaped t f) (draining : Draining t f)
    (begun : f.stage ≠ .notDraining) (lasts : f.stage ≠ .drained) : GoesOn t f := by
  cases stage : f.stage with
  | notDraining => exact absurd stage begun
  | sourceAwaited =>
      cases result : f.sourceResult with
      | none => exact goesOn_of_source fits shaped draining result
      | some result' =>
          cases result' with
          | ok => exact (Step.joinSource stage result).goesOn rfl
          | error e => exact (Step.joinFailedSource stage result).goesOn rfl
  | workersAwaited =>
      cases left : f.hasWorkerLeft with
      | false => exact (Step.joinWorkers stage left).goesOn rfl
      | true =>
          obtain ⟨w, member, running⟩ := List.any_eq_true.mp left
          have closed : f.isInputClosed = true := by simp [isInputClosed, stage]
          apply goesOn_of_worker fits closed member
          rintro rfl
          cases running
  | sinksAwaited =>
      cases returned : f.sinks.all (·.hasReturned) with
      | true => exact (Step.joinSinks stage returned).goesOn rfl
      | false =>
          obtain ⟨s, member, running⟩ := List.all_eq_false.mp returned
          have closed : f.areQueuesClosed = true := by simp [areQueuesClosed, isInputClosed, stage]
          exact goesOn_of_sink fits closed member (Bool.eq_false_iff.mpr running)
  | uploaderAwaited =>
      cases returned : f.uploaderReturned with
      | true => exact (Step.joinUploader stage returned).goesOn rfl
      | false =>
          by_cases pending : f.uploads = []
          · exact (Step.uploaderReturns returned).goesOn (by
              simp [isEarly, areUploadsClosed, areQueuesClosed, isInputClosed, stage, pending])
          · exact goesOn_of_uploads returned pending
  | drained => exact absurd stage lasts

/-- Queues close in the order of the drain. A queue is closed just when it has no sender left, so
whoever comes to the end of one knows that all who could put anything into it have returned. -/
structure ClosesInOrder (t : Topology) (f : Flow) : Prop where
  input : f.isInputClosed = true ↔ f.inputSenders = 0
  outputs : f.areQueuesClosed = true ↔ f.outputSenders = 0
  uploads : f.areUploadsClosed = true ↔ f.uploadSenders = 0
  workerReturns : ∀ i g, f.fire t (.workerReturns i) = some g → f.sourceResult.isSome = true
  sinkCloses : ∀ i g, f.fire t (.close i) = some g → ∀ w ∈ f.workers, w = .returned
  /-- An uploader that was not stopped and takes up all requests ends after the sinks. -/
  uploaderReturns : ∀ g, f.fire t .uploaderReturns = some g →
    f.isEarly .uploaderReturns = false → f.uploader.isStopped = false →
      f.uploads = [] ∧ ∀ s ∈ f.sinks, s.hasReturned = true
  drained : f.stage = .drained → f.sourceResult.isSome = true ∧ (∀ w ∈ f.workers, w = .returned) ∧
    (∀ s ∈ f.sinks, s.hasReturned = true) ∧ f.uploaderReturned = true

/-- The one who drains gives its sender up when it closes a queue, so the queue has no sender left
if all others have returned before that. -/
theorem closed_iff_of_others {closed master : Bool} {others : Nat} (holds : master = !closed)
    (returned : closed = true → others = 0) : closed = true ↔ master.toNat + others = 0 := by
  rw [holds]
  cases closed with
  | true => simp [returned rfl]
  | false => simp

namespace Draining

theorem input_iff (inv : Draining t f) : f.isInputClosed = true ↔ f.inputSenders = 0 := by
  apply closed_iff_of_others
  · cases stage : f.stage <;> simp [isInputClosed, stage, DrainStage.holdsInput]
  · intro closed
    rw [Option.isNone_eq_false_iff.mpr (inv.sourceReturned closed)]
    rfl

theorem outputs_iff (inv : Draining t f) : f.areQueuesClosed = true ↔ f.outputSenders = 0 := by
  apply closed_iff_of_others
  · cases stage : f.stage <;>
      simp [areQueuesClosed, isInputClosed, stage, DrainStage.holdsOutputs]
  · intro closed
    rw [List.countP_eq_zero]
    intro w member
    rw [inv.workersReturned closed w member]
    exact Bool.false_ne_true

/-- The upload queue closes after the sinks have returned. -/
theorem sinksReturned_of_closed (inv : Draining t f) (closed : f.areUploadsClosed = true) :
    ∀ s ∈ f.sinks, s.hasReturned = true := by
  apply inv.sinksReturned
  cases stage : f.stage with
  | uploaderAwaited => exact .inl rfl
  | drained => exact .inr rfl
  | notDraining | sourceAwaited | workersAwaited | sinksAwaited =>
      simp [areUploadsClosed, areQueuesClosed, isInputClosed, stage] at closed

theorem uploads_iff (inv : Draining t f) : f.areUploadsClosed = true ↔ f.uploadSenders = 0 := by
  apply closed_iff_of_others
  · cases stage : f.stage <;>
      simp [areUploadsClosed, areQueuesClosed, isInputClosed, stage, DrainStage.holdsUploads]
  · intro closed
    rw [List.countP_eq_zero]
    intro s member
    simp [inv.sinksReturned_of_closed closed s member]

theorem closesInOrder (inv : Draining t f) : ClosesInOrder t f where
  input := inv.input_iff
  outputs := inv.outputs_iff
  uploads := inv.uploads_iff
  workerReturns := by
    intro i g fired
    cases step_of_fire fired with
    | workerReturns idle closed input => exact inv.sourceReturned closed
  sinkCloses := by
    intro i g fired
    cases step_of_fire fired with
    | close found running isOpen announced closed queue => exact inv.workersReturned closed
  uploaderReturns := by
    intro g fired patient heedless
    simp only [isEarly, heedless, Bool.not_false, Bool.true_and, Bool.not_eq_false',
      Bool.and_eq_true, List.isEmpty_iff] at patient
    exact ⟨patient.2, inv.sinksReturned_of_closed patient.1⟩
  drained := by
    intro drained
    have inputClosed : f.isInputClosed = true := by simp [isInputClosed, drained]
    have queuesClosed : f.areQueuesClosed = true := by simp [areQueuesClosed, inputClosed, drained]
    exact ⟨inv.sourceReturned inputClosed, inv.workersReturned queuesClosed,
      inv.sinksReturned (.inr drained), inv.uploaderReturned drained⟩

end Draining

/-- A started topology drains in order and without getting stuck, whatever has happened before: the
source may have returned with batches left, sinks and the uploader may have returned early, the
pipeline may have been stopped. As long as the drain lasts somebody can go on, and it takes no early
return for that. -/
theorem drain_never_stuck {w : Wiring} {t : Topology} (built : w.build = .ok t)
    (feed : List Batch) (environment : Environment) {f : Flow}
    (unfolds : Unfolds t (started t feed environment) f) :
    (f.stage ≠ .notDraining → f.stage ≠ .drained → GoesOn t f) ∧ ClosesInOrder t f := by
  have fits := Wiring.build_fits built
  have fresh := started_fresh t feed environment
  have draining := unfolds.draining fresh
  exact ⟨goesOn_of_drain fits (unfolds.shaped fits fresh) draining, draining.closesInOrder⟩

/-- A topology whose outputs all go to the second of two sinks, with room for one in each queue. -/
def forkedWiring : Wiring where
  source := .noop
  sinks := [.null {}, .null {}]
  uploader := .move { destination := "done" }
  fields := FieldMap.empty.add "key" (by decide) (by decide)
  shardField := some "key"
  shardRules := [(0, fun _ => 1)]
  inputQueueSize := 1
  sinkQueueSize := 1
  uploadQueueSize := 1

def forkedTopology : Topology where
  source := .noop
  sinks := [.null {}, .null {}]
  uploader := .move { destination := "done" }
  chain := { filters := [] }
  layout := .standard
  fields := FieldMap.empty.add "key" (by decide) (by decide)
  validator := none
  projection := ⟨[], .raw⟩
  dispatcher := .sharded (fun _ => 1) 2
  inputQueueSize := 1
  sinkQueueSize := 1
  uploadQueueSize := 1
  workers := 1

def forkedFeed : List Batch := [⟨[97, 10, 98, 10], none⟩, ⟨[99, 10], none⟩, ⟨[100, 10], none⟩]

/-- The drain begins with all queues on the way full. The worker waits for the second sink, the
source for the worker, and the first sink has returned early. -/
def forkedEvents : List FlowEvent :=
  [.send, .take 0, .sinkReturns 0, .send, .processLine 0, .deliver 0, .drain, .processLine 0,
    .deliver 0]

theorem forked_drain_never_stuck :
    forkedWiring.build = .ok forkedTopology ∧
      ∃ f, Unfolds forkedTopology (started forkedTopology forkedFeed {}) f ∧
        f.stage = .sourceAwaited ∧ f.isWaiting = true ∧ f.queues.map List.length = [0, 1] ∧
        f.sinks.map (·.hasReturned) = [true, false] ∧ f.uploader.isStopped = true ∧
        GoesOn forkedTopology f ∧ ClosesInOrder forkedTopology f := by
  have built : forkedWiring.build = .ok forkedTopology := rfl
  have outcome : (follow forkedTopology forkedEvents {} (started forkedTopology forkedFeed {})).map
      (fun p => (p.2.stage, p.2.isWaiting, p.2.queues.map List.length,
        p.2.sinks.map (·.hasReturned), p.2.uploader.stop.isStopped)) =
          some (.sourceAwaited, true, [0, 1], [true, false], true) := by decide +kernel
  obtain ⟨⟨h, f⟩, followed, facts⟩ := Option.map_eq_some_iff.mp outcome
  simp only [Prod.mk.injEq] at facts
  obtain ⟨stage, waiting, queued, returned, stopped⟩ := facts
  have unfolds := (Run.start.follow followed).unfolds.stop
  obtain ⟨goesOn, inOrder⟩ := drain_never_stuck built forkedFeed {} unfolds
  have begun : f.stage ≠ .notDraining := by simp [stage]
  have lasts : f.stage ≠ .drained := by simp [stage]
  exact ⟨built, _, unfolds, stage, waiting, queued, returned, stopped, goesOn begun lasts, inOrder⟩

end Flow

end RecordPipeline
