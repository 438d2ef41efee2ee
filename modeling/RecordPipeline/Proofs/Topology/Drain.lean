import RecordPipeline.Proofs.Topology.Fitting
import RecordPipeline.Proofs.Topology.Reference
import RecordPipeline.Proofs.Topology.Step

/-!
How a flow drains. Whatever the order of events, a queue is closed only after all that put anything
into it have returned, and a worker or a sink that has come to its end has left nothing behind in
the queue that it read.
-/

namespace RecordPipeline

/-- The outputs that a worker has not delivered yet. -/
def FilterWorker.outbox : FilterWorker → List (Nat × Output)
  | .busy _ _ outbox _ => outbox
  | .idle | .returned => []

/-- The failure that a result tells of. -/
def ComponentError.of? : Except ComponentError Unit → Option ComponentError
  | .ok () => none
  | .error e => some e

namespace Flow

/-- The parts of a flow are those of its topology, and every output waits for a queue that there
is. -/
structure Shaped (t : Topology) (f : Flow) : Prop where
  workers : f.workers.length = t.workers
  sinks : f.sinks.length = t.sinks.length
  queues : f.queues.length = t.dispatcher.queues
  addressed : ∀ w ∈ f.workers, ∀ entry ∈ w.outbox, entry.1 < t.dispatcher.queues

/-- Who has returned, and what is empty, at each stage of the drain. -/
structure Draining (t : Topology) (f : Flow) : Prop where
  sourceReturned : f.isInputClosed = true → f.sourceResult.isSome = true
  workerReturned : .returned ∈ f.workers → f.isInputClosed = true ∧ f.input = []
  workersReturned : f.areQueuesClosed = true → ∀ w ∈ f.workers, w = .returned
  sinkClosed : ∀ i s, f.sinks[i]? = some s → s.isClosed = true →
    f.areQueuesClosed = true ∧ f.queues.getD (t.queueOf i) [] = []
  sinksReturned : f.stage = .uploaderAwaited ∨ f.stage = .drained →
    ∀ s ∈ f.sinks, s.hasReturned = true
  uploaderReturned : f.stage = .drained → f.uploaderReturned = true
  error : f.error = if f.isInputClosed then f.sourceResult.bind ComponentError.of? else none

variable {t : Topology} {f g : Flow}

namespace Shaped

theorem setWorker (inv : Shaped t f) (i : Nat) (w : FilterWorker)
    (addressed : ∀ entry ∈ w.outbox, entry.1 < t.dispatcher.queues) :
    Shaped t (f.setWorker i w) := by
  refine { inv with workers := ?_, addressed := ?_ }
  · exact List.length_set.trans inv.workers
  · intro w' member
    rcases List.mem_or_eq_of_mem_set member with before | rfl
    · exact inv.addressed w' before
    · exact addressed

theorem setSink (inv : Shaped t f) (i : Nat) (s : SinkWorker) : Shaped t (f.setSink i s) :=
  { inv with sinks := List.length_set.trans inv.sinks }

theorem setQueue (inv : Shaped t f) (i : Nat) (q : List Output) : Shaped t (f.setQueue i q) :=
  { inv with queues := List.length_set.trans inv.queues }

/-- What a worker still has to deliver after one delivery is addressed as it was before. -/
theorem outbox_tail (inv : Shaped t f) {i : Nat} {b : Batch} {lines : List Bytes}
    {entry : Nat × Output} {outbox : List (Nat × Output)} {isWaiting : Bool}
    (busy : f.workers[i]? = some (.busy b lines (entry :: outbox) isWaiting)) :
    entry.1 < t.dispatcher.queues ∧ ∀ later ∈ outbox, later.1 < t.dispatcher.queues := by
  have addressed := inv.addressed _ (List.mem_of_getElem? busy)
  exact ⟨addressed entry List.mem_cons_self,
    fun later member => addressed later (List.mem_cons_of_mem entry member)⟩

/-- No event changes the shape of a flow. -/
theorem step {e : FlowEvent} (fits : t.Fits) (inv : Shaped t f) (step : Step t f e g) :
    Shaped t g := by
  cases step with
  | take idle input =>
      exact { inv.setWorker _ (.busy _ _ [] false) (by simp [FilterWorker.outbox]) with }
  | processLine busy =>
      refine { inv.setWorker _ (.busy _ _ _ false) ?_ with }
      intro entry member
      simp only [FilterWorker.outbox, Topology.processLine_outputs, Topology.reference,
        List.mem_map] at member
      obtain ⟨r, _, rfl⟩ := member
      exact fits.select_lt r
  | lose busy unread =>
      exact { inv.setWorker _ (.busy _ _ _ false) (inv.outbox_tail busy).2 with }
  | deliver busy read room =>
      exact { (inv.setWorker _ (.busy _ _ _ false) (inv.outbox_tail busy).2).setQueue _ _ with }
  | wait busy read full =>
      have addressed := inv.addressed _ (List.mem_of_getElem? busy)
      exact { inv.setWorker _ (.busy _ _ _ true) addressed with }
  | release busy => exact { inv.setWorker _ .idle (by simp [FilterWorker.outbox]) with }
  | workerReturns idle closed input =>
      exact inv.setWorker _ .returned (by simp [FilterWorker.outbox])
  | receive found queue running announced => exact { (inv.setSink _ _).setQueue _ _ with }
  | announce found pending running read room => exact { inv.setSink _ _ with }
  | forget found pending running unread => exact inv.setSink _ _
  | close found running isOpen announced closed queue => exact { inv.setSink _ _ with }
  | sinkReturns found running => exact inv.setSink _ _
  | send | sourceReturns | upload | uploaderReturns | drain | joinSource | joinFailedSource
  | joinWorkers | joinSinks | joinUploader => exact { inv with }

end Shaped

/-- The queues of outputs close after the source queue. -/
theorem queuesOpen_of_inputOpen (isOpen : f.isInputClosed = false) : f.areQueuesClosed = false := by
  rw [areQueuesClosed, isOpen, Bool.false_and]

namespace Draining

/-- The queues of outputs are open as long as a worker is at work. -/
theorem queuesOpen (inv : Draining t f) {i : Nat} {w : FilterWorker}
    (found : f.workers[i]? = some w) (running : w ≠ .returned) : f.areQueuesClosed = false := by
  apply eq_false_of_ne_true
  intro closed
  exact running (inv.workersReturned closed w (List.mem_of_getElem? found))

/-- No sink has closed as long as a worker is at work. -/
theorem sinkOpen (inv : Draining t f) {i : Nat} {w : FilterWorker}
    (found : f.workers[i]? = some w) (running : w ≠ .returned) :
    ∀ s ∈ f.sinks, s.isClosed = false := by
  intro s member
  obtain ⟨j, hj⟩ := List.mem_iff_getElem?.mp member
  apply eq_false_of_ne_true
  intro closed
  have := (inv.sinkClosed j s hj closed).1
  rw [inv.queuesOpen found running] at this
  cases this

/-- A worker goes on with its work. -/
theorem setWorker (inv : Draining t f) {i : Nat} {w : FilterWorker}
    (found : f.workers[i]? = some w) (running : w ≠ .returned) (w' : FilterWorker)
    (goesOn : w' ≠ .returned) : Draining t (f.setWorker i w') := by
  refine { inv with workerReturned := ?_, workersReturned := ?_ }
  · intro member
    rcases List.mem_or_eq_of_mem_set member with before | same
    · exact inv.workerReturned before
    · exact absurd same.symm goesOn
  · intro closed
    exact absurd closed (ne_true_of_eq_false (inv.queuesOpen found running))

/-- A sink goes on; when it is closed then, it has come to the end of its queue. -/
theorem setSink (inv : Draining t f) {i : Nat} {s : SinkWorker} (found : f.sinks[i]? = some s)
    (s' : SinkWorker) (returned : s.hasReturned = true → s'.hasReturned = true)
    (closed : s'.isClosed = true →
      f.areQueuesClosed = true ∧ f.queues.getD (t.queueOf i) [] = []) :
    Draining t (f.setSink i s') := by
  refine { inv with sinkClosed := ?_, sinksReturned := ?_ }
  · intro j s'' found'
    rcases eq_or_ne i j with rfl | other
    · have same : s'' = s' := by
        simpa [Flow.setSink, List.getElem?_set, (List.getElem?_eq_some_iff.mp found).1]
          using found'.symm
      rw [same]
      exact closed
    · apply inv.sinkClosed j s''
      simpa [Flow.setSink, List.getElem?_set_ne other] using found'
  · intro late s'' member
    have all := inv.sinksReturned late
    rcases List.mem_or_eq_of_mem_set member with before | rfl
    · exact all s'' before
    · exact returned (all s (List.mem_of_getElem? found))

/-- A queue that no closed sink has read may change. -/
theorem setQueue (inv : Draining t f) (queue : Nat) (q : List Output)
    (unread : ∀ i s, f.sinks[i]? = some s → s.isClosed = true → t.queueOf i ≠ queue) :
    Draining t (f.setQueue queue q) := by
  refine { inv with sinkClosed := ?_ }
  intro i s found closed
  obtain ⟨queuesClosed, empty⟩ := inv.sinkClosed i s found closed
  refine ⟨queuesClosed, ?_⟩
  have other := unread i s found closed
  simpa [Flow.setQueue, List.getElem?_set_ne other.symm] using empty

/-- Nothing has closed before the source has returned. -/
theorem inputOpen (inv : Draining t f) (running : f.sourceResult = none) :
    f.isInputClosed = false := by
  apply eq_false_of_ne_true
  intro closed
  have returned := inv.sourceReturned closed
  rw [running] at returned
  cases returned

/-- No worker returns before the source queue is closed. -/
theorem noneReturned (inv : Draining t f) (isOpen : f.isInputClosed = false) :
    .returned ∉ f.workers := by
  intro member
  have closed := (inv.workerReturned member).1
  rw [isOpen] at closed
  cases closed

/-- As long as the source queue is open nobody has come to an end. -/
theorem of_inputOpen (isOpen : f.isInputClosed = false) (workers : .returned ∉ f.workers)
    (sinks : ∀ s ∈ f.sinks, s.isClosed = false) (error : f.error = none) : Draining t f := by
  have notLate : ¬ (f.stage = .uploaderAwaited ∨ f.stage = .drained) := by
    rintro (stage | stage)
    · simp [isInputClosed, stage] at isOpen
    · simp [isInputClosed, stage] at isOpen
  refine ⟨?_, ?_, ?_, ?_, ?_, ?_, ?_⟩
  · intro closed
    exact absurd closed (ne_true_of_eq_false isOpen)
  · intro member
    exact absurd member workers
  · intro closed
    exact absurd closed (ne_true_of_eq_false (queuesOpen_of_inputOpen isOpen))
  · intro i s found closed
    exact absurd closed (ne_true_of_eq_false (sinks s (List.mem_of_getElem? found)))
  · intro late
    exact absurd late notLate
  · intro drained
    exact absurd (.inr drained) notLate
  · rw [error, isOpen]
    rfl

/-- What leaves the source queue open, the workers and the sinks alone keeps the order. -/
theorem keepInputOpen (inv : Draining t f) (isOpen : f.isInputClosed = false)
    (same : g.workers = f.workers ∧ g.sinks = f.sinks ∧ g.error = f.error)
    (gOpen : g.isInputClosed = false) : Draining t g := by
  apply of_inputOpen gOpen
  · rw [same.1]
    exact inv.noneReturned isOpen
  · rw [same.2.1]
    intro s member
    obtain ⟨i, found⟩ := List.mem_iff_getElem?.mp member
    apply eq_false_of_ne_true
    intro closed
    have queuesClosed := (inv.sinkClosed i s found closed).1
    exact absurd queuesClosed (ne_true_of_eq_false (queuesOpen_of_inputOpen isOpen))
  · rw [same.2.2, inv.error, isOpen]
    rfl

/-- The source queue closes when the source has returned. -/
theorem closeInput (inv : Draining t f) (stage : f.stage = .sourceAwaited)
    {result : Except ComponentError Unit} (returned : f.sourceResult = some result) :
    Draining t { f with stage := .workersAwaited, error := ComponentError.of? result } := by
  have isOpen : f.isInputClosed = false := by simp [isInputClosed, stage]
  have queuesOpen := queuesOpen_of_inputOpen isOpen
  refine ⟨?_, ?_, ?_, ?_, ?_, ?_, ?_⟩
  · intro _
    rw [returned]
    rfl
  · intro member
    exact absurd member (inv.noneReturned isOpen)
  · intro closed
    exact absurd closed Bool.false_ne_true
  · intro i s found closed
    exact absurd (inv.sinkClosed i s found closed).1 (ne_true_of_eq_false queuesOpen)
  · intro late
    rcases late with stage | stage
    · cases stage
    · cases stage
  · intro drained
    cases drained
  · rw [returned]
    rfl

/-- The queues of outputs close when all workers have returned. -/
theorem closeQueues (inv : Draining t f) (stage : f.stage = .workersAwaited)
    (returned : f.hasWorkerLeft = false) : Draining t { f with stage := .sinksAwaited } := by
  have closed : f.isInputClosed = true := by simp [isInputClosed, stage]
  have queuesOpen : f.areQueuesClosed = false := by simp [areQueuesClosed, stage]
  refine ⟨fun _ => inv.sourceReturned closed, ?_, ?_, ?_, ?_, ?_, ?_⟩
  · intro member
    exact ⟨rfl, (inv.workerReturned member).2⟩
  · intro _ w member
    have notLeft := List.any_eq_false.mp returned w member
    cases w with
    | idle => simp at notLeft
    | busy => simp at notLeft
    | returned => rfl
  · intro i s found sinkClosed
    exact absurd (inv.sinkClosed i s found sinkClosed).1 (ne_true_of_eq_false queuesOpen)
  · intro late
    rcases late with stage | stage
    · cases stage
    · cases stage
  · intro drained
    cases drained
  · rw [inv.error, closed]
    rfl

/-- The last two stages of the drain close no queue that carries outputs. -/
theorem closeUploads (inv : Draining t f) (closed : f.areQueuesClosed = true)
    (returned : ∀ s ∈ f.sinks, s.hasReturned = true) {later : DrainStage}
    (late : later = .uploaderAwaited ∨ later = .drained ∧ f.uploaderReturned = true) :
    Draining t { f with stage := later } := by
  have inputClosed : f.isInputClosed = true := (Bool.and_eq_true_iff.mp closed).1
  have closedLater : isInputClosed { f with stage := later } = true ∧
      areQueuesClosed { f with stage := later } = true := by
    rcases late with rfl | ⟨rfl, _⟩
    · exact ⟨rfl, rfl⟩
    · exact ⟨rfl, rfl⟩
  refine ⟨fun _ => inv.sourceReturned inputClosed, ?_, fun _ => inv.workersReturned closed, ?_,
    fun _ => returned, ?_, ?_⟩
  · intro member
    exact ⟨closedLater.1, (inv.workerReturned member).2⟩
  · intro i s found sinkClosed
    exact ⟨closedLater.2, (inv.sinkClosed i s found sinkClosed).2⟩
  · intro drained
    rcases late with rfl | ⟨_, uploaderReturned⟩
    · cases drained
    · exact uploaderReturned
  · rw [closedLater.1, inv.error, inputClosed]

/-- No event breaks the order of the drain. -/
theorem step {e : FlowEvent} (inv : Draining t f) (step : Step t f e g) : Draining t g := by
  cases step with
  | send feed running room =>
      exact inv.keepInputOpen (inv.inputOpen running) ⟨rfl, rfl, rfl⟩ (inv.inputOpen running)
  | sourceReturns running =>
      exact inv.keepInputOpen (inv.inputOpen running) ⟨rfl, rfl, rfl⟩ (inv.inputOpen running)
  | @take i b rest idle input =>
      have goesOn := inv.setWorker idle nofun (.busy b b.lines [] false) nofun
      refine { goesOn with workerReturned := ?_ }
      intro member
      -- A worker that had returned would have left the source queue empty.
      have empty := (goesOn.workerReturned member).2
      exact absurd (input.symm.trans empty) (List.cons_ne_nil _ _)
  | processLine busy => exact { inv.setWorker busy nofun (.busy _ _ _ false) nofun with }
  | lose busy unread => exact { inv.setWorker busy nofun (.busy _ _ _ false) nofun with }
  | @deliver i b lines queue o outbox isWaiting busy read room =>
      have goesOn := inv.setWorker busy nofun (.busy b lines outbox false) nofun
      refine { goesOn.setQueue _ _ ?_ with }
      intro j s found closed
      have isOpen := inv.sinkOpen busy nofun s (List.mem_of_getElem? found)
      rw [isOpen] at closed
      cases closed
  | wait busy read full => exact { inv.setWorker busy nofun (.busy _ _ _ true) nofun with }
  | release busy => exact { inv.setWorker busy nofun .idle nofun with }
  | workerReturns idle closed input =>
      refine { inv with workerReturned := fun _ => ⟨closed, input⟩, workersReturned := ?_ }
      intro queuesClosed
      exact absurd queuesClosed (ne_true_of_eq_false (inv.queuesOpen idle nofun))
  | @receive i s o rest found queue running announced =>
      have goesOn := inv.setSink found (s.accept o rest.isEmpty f.environment) id
        (inv.sinkClosed i s found)
      refine { goesOn.setQueue _ rest ?_ with }
      intro j s' found' closed same
      -- A closed sink of the same queue would have left it empty.
      have empty := (goesOn.sinkClosed j s' found' closed).2
      rw [same] at empty
      exact absurd (queue.symm.trans empty) (List.cons_ne_nil o rest)
  | @announce i s request outbox found pending running read room =>
      exact { inv.setSink found { s with outbox } id (inv.sinkClosed i s found) with }
  | @forget i s request outbox found pending running unread =>
      exact inv.setSink found { s with outbox } id (inv.sinkClosed i s found)
  | @close i s found running isOpen announced closed queue =>
      exact { inv.setSink found (s.close f.environment) id (fun _ => ⟨closed, queue⟩) with }
  | @sinkReturns i s found running =>
      exact inv.setSink found { s with hasReturned := true } (fun _ => rfl)
        (inv.sinkClosed i s found)
  | upload pending running heedless => exact { inv with }
  | uploaderReturns running => exact { inv with uploaderReturned := fun _ => rfl }
  | drain stage =>
      have isOpen : f.isInputClosed = false := by simp [isInputClosed, stage]
      exact inv.keepInputOpen isOpen ⟨rfl, rfl, rfl⟩ rfl
  | joinSource stage returned =>
      have noError : f.error = none := by
        rw [inv.error]
        simp [isInputClosed, stage]
      have closed := inv.closeInput stage returned
      refine { closed with error := ?_ }
      exact noError.trans closed.error
  | joinFailedSource stage returned => exact inv.closeInput stage returned
  | joinWorkers stage returned => exact inv.closeQueues stage returned
  | joinSinks stage returned =>
      have closed : f.areQueuesClosed = true := by simp [areQueuesClosed, isInputClosed, stage]
      exact inv.closeUploads closed (List.all_eq_true.mp returned) (.inl rfl)
  | joinUploader stage returned =>
      have closed : f.areQueuesClosed = true := by simp [areQueuesClosed, isInputClosed, stage]
      exact inv.closeUploads closed (inv.sinksReturned (.inl stage)) (.inr ⟨rfl, returned⟩)

end Draining

end Flow

end RecordPipeline
