import RecordPipeline.Topology.Flow

/-!
What each event does to a flow, case by case, with all that has to hold for it to happen. Whatever
is proved of every event is proved by going through these cases.
-/

namespace RecordPipeline

/-- The worker of a sink after the sink has taken an output. -/
def SinkWorker.accept (s : SinkWorker) (o : Output) (isLast : Bool) (e : Environment) :
    SinkWorker :=
  { s with sink := (s.sink.accept o isLast e).1, outbox := (s.sink.accept o isLast e).2.2 }

/-- The worker of a sink after the sink has come to the end of its queue. -/
def SinkWorker.close (s : SinkWorker) (e : Environment) : SinkWorker :=
  { s with sink := (s.sink.close e).1, outbox := (s.sink.close e).2.2, isClosed := true }

namespace Flow

/-- An event and what it makes of a flow. -/
inductive Step (t : Topology) (f : Flow) : FlowEvent → Flow → Prop where
  | send {b : Batch} {rest : List Batch} (feed : f.feed = b :: rest)
      (running : f.sourceResult = none) (room : f.input.length < t.inputQueueSize) :
      Step t f .send { f with feed := rest, input := f.input ++ [b] }
  | sourceReturns {result : Except ComponentError Unit} (running : f.sourceResult = none) :
      Step t f (.sourceReturns result) { f with sourceResult := some result }
  | take {i : Nat} {b : Batch} {rest : List Batch} (idle : f.workers[i]? = some .idle)
      (input : f.input = b :: rest) :
      Step t f (.take i)
        ({ f with input := rest, tally := f.tally.addBatch b.data.length }.setWorker i
          (.busy b b.lines [] false))
  | processLine {i : Nat} {b : Batch} {line : Bytes} {lines : List Bytes} {isWaiting : Bool}
      (busy : f.workers[i]? = some (.busy b (line :: lines) [] isWaiting)) :
      Step t f (.processLine i)
        ({ f with
            tally := (t.processLine f.tally f.filters b.metadata line).tally
            filters := (t.processLine f.tally f.filters b.metadata line).filters }.setWorker i
          (.busy b lines (t.processLine f.tally f.filters b.metadata line).outputs false))
  /-- The output is lost: nobody reads its queue any more. -/
  | lose {i : Nat} {b : Batch} {lines : List Bytes} {queue : Nat} {o : Output}
      {outbox : List (Nat × Output)} {isWaiting : Bool}
      (busy : f.workers[i]? = some (.busy b lines ((queue, o) :: outbox) isWaiting))
      (unread : f.hasReader t queue = false) :
      Step t f (.deliver i)
        ({ f with tally := f.tally.addUndelivered }.setWorker i (.busy b lines outbox false))
  | deliver {i : Nat} {b : Batch} {lines : List Bytes} {queue : Nat} {o : Output}
      {outbox : List (Nat × Output)} {isWaiting : Bool}
      (busy : f.workers[i]? = some (.busy b lines ((queue, o) :: outbox) isWaiting))
      (read : f.hasReader t queue = true)
      (room : (f.queues.getD queue []).length < t.sinkQueueSize) :
      Step t f (.deliver i)
        (({ f with tally := f.tally.addEmitted }.setWorker i (.busy b lines outbox false)).setQueue
          queue (f.queues.getD queue [] ++ [o]))
  /-- The output has to wait: there is no room for it. -/
  | wait {i : Nat} {b : Batch} {lines : List Bytes} {queue : Nat} {o : Output}
      {outbox : List (Nat × Output)}
      (busy : f.workers[i]? = some (.busy b lines ((queue, o) :: outbox) false))
      (read : f.hasReader t queue = true)
      (full : t.sinkQueueSize ≤ (f.queues.getD queue []).length) :
      Step t f (.deliver i)
        ({ f with tally := f.tally.addBackpressure }.setWorker i
          (.busy b lines ((queue, o) :: outbox) true))
  | release {i : Nat} {b : Batch} {isWaiting : Bool}
      (busy : f.workers[i]? = some (.busy b [] [] isWaiting)) :
      Step t f (.release i) ({ f with released := f.released + 1 }.setWorker i .idle)
  | workerReturns {i : Nat} (idle : f.workers[i]? = some .idle) (closed : f.isInputClosed = true)
      (input : f.input = []) :
      Step t f (.workerReturns i) (f.setWorker i .returned)
  | receive {i : Nat} {s : SinkWorker} {o : Output} {rest : List Output}
      (found : f.sinks[i]? = some s) (queue : f.queues.getD (t.queueOf i) [] = o :: rest)
      (running : s.hasReturned = false) (announced : s.outbox = []) :
      Step t f (.receive i)
        (({ f with environment := (s.sink.accept o rest.isEmpty f.environment).2.1 }.setSink i
          (s.accept o rest.isEmpty f.environment)).setQueue (t.queueOf i) rest)
  | announce {i : Nat} {s : SinkWorker} {request : UploadRequest} {outbox : List UploadRequest}
      (found : f.sinks[i]? = some s) (pending : s.outbox = request :: outbox)
      (running : s.hasReturned = false) (read : f.uploaderReturned = false)
      (room : f.uploads.length < t.uploadQueueSize) :
      Step t f (.announce i)
        ({ f with uploads := f.uploads ++ [request] }.setSink i { s with outbox })
  /-- The request is dropped: the uploader has returned. -/
  | forget {i : Nat} {s : SinkWorker} {request : UploadRequest} {outbox : List UploadRequest}
      (found : f.sinks[i]? = some s) (pending : s.outbox = request :: outbox)
      (running : s.hasReturned = false) (unread : f.uploaderReturned = true) :
      Step t f (.announce i) (f.setSink i { s with outbox })
  | close {i : Nat} {s : SinkWorker} (found : f.sinks[i]? = some s)
      (running : s.hasReturned = false) (isOpen : s.isClosed = false) (announced : s.outbox = [])
      (closed : f.areQueuesClosed = true) (queue : f.queues.getD (t.queueOf i) [] = []) :
      Step t f (.close i)
        ({ f with environment := (s.sink.close f.environment).2.1 }.setSink i
          (s.close f.environment))
  | sinkReturns {i : Nat} {s : SinkWorker} (found : f.sinks[i]? = some s)
      (running : s.hasReturned = false) :
      Step t f (.sinkReturns i) (f.setSink i { s with hasReturned := true })
  | upload {request : UploadRequest} {uploads : List UploadRequest}
      (pending : f.uploads = request :: uploads) (running : f.uploaderReturned = false)
      (heedless : f.uploader.isStopped = false) :
      Step t f .upload
        { f with
          uploads
          uploader := (f.uploadNext request).1
          environment := { f.environment with files := (f.uploadNext request).2 } }
  | uploaderReturns (running : f.uploaderReturned = false) :
      Step t f .uploaderReturns { f with uploaderReturned := true }
  | drain (stage : f.stage = .notDraining) : Step t f .drain { f with stage := .sourceAwaited }
  | joinSource (stage : f.stage = .sourceAwaited) (returned : f.sourceResult = some (.ok ())) :
      Step t f .join { f with stage := .workersAwaited }
  | joinFailedSource {e : ComponentError} (stage : f.stage = .sourceAwaited)
      (returned : f.sourceResult = some (.error e)) :
      Step t f .join { f with stage := .workersAwaited, error := some e }
  | joinWorkers (stage : f.stage = .workersAwaited) (returned : f.hasWorkerLeft = false) :
      Step t f .join { f with stage := .sinksAwaited }
  | joinSinks (stage : f.stage = .sinksAwaited)
      (returned : f.sinks.all (·.hasReturned) = true) :
      Step t f .join { f with stage := .uploaderAwaited }
  | joinUploader (stage : f.stage = .uploaderAwaited) (returned : f.uploaderReturned = true) :
      Step t f .join { f with stage := .drained }

variable {t : Topology} {f g : Flow}

theorem send_step (fired : f.send t = some g) : Step t f .send g := by
  unfold send at fired
  cases feed : f.feed with
  | nil => simp [feed] at fired
  | cons b rest =>
      simp only [feed, Bool.or_eq_true, decide_eq_true_eq, Option.ite_none_left_eq_some, not_or,
        Option.some.injEq] at fired
      obtain ⟨⟨running, room⟩, rfl⟩ := fired
      exact .send feed (by simpa using running) (by omega)

theorem take_step {i : Nat} (fired : f.take i = some g) : Step t f (.take i) g := by
  unfold take at fired
  split at fired
  · rename_i b rest idle input
    cases fired
    exact .take idle input
  · cases fired

theorem processLine_step {i : Nat} (fired : f.processLine t i = some g) :
    Step t f (.processLine i) g := by
  unfold processLine at fired
  split at fired
  · rename_i busy
    cases fired
    exact .processLine busy
  · cases fired

theorem deliver_step {i : Nat} (fired : f.deliver t i = some g) : Step t f (.deliver i) g := by
  unfold deliver at fired
  split at fired
  · rename_i b lines queue o outbox isWaiting busy
    dsimp only at fired
    cases reader : f.hasReader t queue with
    | false =>
        simp only [reader, Bool.not_false, if_true] at fired
        cases fired
        exact .lose busy reader
    | true =>
        simp only [reader, Bool.not_true, Bool.false_eq_true, if_false] at fired
        by_cases room : (f.queues.getD queue []).length < t.sinkQueueSize
        · rw [if_pos room] at fired
          cases fired
          exact .deliver busy reader room
        · rw [if_neg room] at fired
          cases isWaiting with
          | true => cases fired
          | false =>
              cases fired
              exact .wait busy reader (Nat.le_of_not_lt room)
  · cases fired

theorem release_step {i : Nat} (fired : f.release i = some g) : Step t f (.release i) g := by
  unfold release at fired
  split at fired
  · rename_i busy
    cases fired
    exact .release busy
  · cases fired

theorem workerReturns_step {i : Nat} (fired : f.workerReturns i = some g) :
    Step t f (.workerReturns i) g := by
  unfold workerReturns at fired
  split at fired
  · rename_i idle
    simp only [Bool.and_eq_true, List.isEmpty_iff, Option.ite_none_right_eq_some,
      Option.some.injEq] at fired
    obtain ⟨⟨closed, input⟩, rfl⟩ := fired
    exact .workerReturns idle closed input
  · cases fired

theorem receive_step {i : Nat} (fired : f.receive t i = some g) : Step t f (.receive i) g := by
  unfold receive at fired
  split at fired
  · rename_i s o rest found queue
    simp only [Bool.or_eq_true, Bool.not_eq_true', Option.ite_none_left_eq_some, not_or,
      Bool.not_eq_true, Bool.not_eq_false, List.isEmpty_iff, Option.some.injEq] at fired
    obtain ⟨⟨running, announced⟩, rfl⟩ := fired
    exact .receive found queue running announced
  · cases fired

theorem announce_step {i : Nat} (fired : f.announce t i = some g) : Step t f (.announce i) g := by
  unfold announce at fired
  split at fired
  · rename_i s found
    split at fired
    · rename_i request outbox pending
      simp only [Option.ite_none_left_eq_some, Bool.not_eq_true] at fired
      obtain ⟨running, fired⟩ := fired
      by_cases unread : f.uploaderReturned = true
      · rw [if_pos unread] at fired
        cases fired
        exact .forget found pending running unread
      · rw [if_neg unread, Option.ite_none_right_eq_some] at fired
        obtain ⟨room, fired⟩ := fired
        cases fired
        exact .announce found pending running (eq_false_of_ne_true unread) room
    · cases fired
  · cases fired

theorem close_step {i : Nat} (fired : f.close t i = some g) : Step t f (.close i) g := by
  unfold close at fired
  split at fired
  · rename_i s found
    simp only [Bool.or_eq_true, Bool.not_eq_true', Option.ite_none_left_eq_some, not_or,
      Bool.not_eq_true, Bool.not_eq_false, List.isEmpty_iff, Option.some.injEq] at fired
    obtain ⟨⟨⟨⟨⟨running, isOpen⟩, announced⟩, closed⟩, queue⟩, rfl⟩ := fired
    exact .close found running isOpen announced closed queue
  · cases fired

theorem sinkReturns_step {i : Nat} (fired : f.sinkReturns i = some g) :
    Step t f (.sinkReturns i) g := by
  unfold sinkReturns at fired
  split at fired
  · rename_i s found
    simp only [Option.ite_none_left_eq_some, Bool.not_eq_true, Option.some.injEq] at fired
    obtain ⟨running, rfl⟩ := fired
    exact .sinkReturns found running
  · cases fired

theorem upload_step (fired : f.upload = some g) : Step t f .upload g := by
  unfold upload at fired
  split at fired
  · rename_i request uploads pending
    simp only [Bool.or_eq_true, Option.ite_none_left_eq_some, not_or, Bool.not_eq_true,
      Option.some.injEq] at fired
    obtain ⟨⟨running, heedless⟩, rfl⟩ := fired
    exact .upload pending running heedless
  · cases fired

theorem join_step (fired : f.join = some g) : Step t f .join g := by
  unfold join at fired
  cases stage : f.stage with
  | notDraining => simp [stage] at fired
  | drained => simp [stage] at fired
  | sourceAwaited =>
      simp only [stage] at fired
      split at fired
      · rename_i returned
        cases fired
        exact .joinSource stage returned
      · rename_i e returned
        cases fired
        exact .joinFailedSource stage returned
      · cases fired
  | workersAwaited =>
      simp only [stage, Option.ite_none_left_eq_some, Bool.not_eq_true, Option.some.injEq] at fired
      obtain ⟨returned, rfl⟩ := fired
      exact .joinWorkers stage returned
  | sinksAwaited =>
      simp only [stage, Option.ite_none_right_eq_some, Option.some.injEq] at fired
      obtain ⟨returned, rfl⟩ := fired
      exact .joinSinks stage returned
  | uploaderAwaited =>
      simp only [stage, Option.ite_none_right_eq_some, Option.some.injEq] at fired
      obtain ⟨returned, rfl⟩ := fired
      exact .joinUploader stage returned

/-- Every event that happens is one of these steps. -/
theorem step_of_fire {e : FlowEvent} (fired : f.fire t e = some g) : Step t f e g := by
  cases e with
  | send => exact send_step fired
  | sourceReturns result =>
      simp only [fire, Option.ite_none_left_eq_some, Option.some.injEq] at fired
      obtain ⟨running, rfl⟩ := fired
      exact .sourceReturns (by simpa using running)
  | take i => exact take_step fired
  | processLine i => exact processLine_step fired
  | deliver i => exact deliver_step fired
  | release i => exact release_step fired
  | workerReturns i => exact workerReturns_step fired
  | receive i => exact receive_step fired
  | announce i => exact announce_step fired
  | close i => exact close_step fired
  | sinkReturns i => exact sinkReturns_step fired
  | upload => exact upload_step fired
  | uploaderReturns =>
      simp only [fire, Option.ite_none_left_eq_some, Bool.not_eq_true, Option.some.injEq] at fired
      obtain ⟨running, rfl⟩ := fired
      exact .uploaderReturns running
  | drain =>
      simp only [fire, Option.ite_none_right_eq_some, Option.some.injEq] at fired
      obtain ⟨stage, rfl⟩ := fired
      exact .drain stage
  | join => exact join_step fired

/-- Every one of these steps is an event that can happen. -/
theorem fire_of_step {e : FlowEvent} (step : Step t f e g) : f.fire t e = some g := by
  cases step with
  | send feed running room =>
      simp [fire, send, feed, running, Nat.not_le_of_lt room]
  | sourceReturns running => simp [fire, running]
  | take idle input => simp [fire, take, idle, input]
  | processLine busy => simp [fire, processLine, busy]
  | lose busy unread => simp [fire, deliver, busy, unread]
  | deliver busy read room =>
      simp only [fire, deliver, busy, read, room, Bool.not_true, Bool.false_eq_true, if_false,
        if_true]
  | wait busy read full =>
      simp only [fire, deliver, busy, read, Nat.not_lt_of_le full, Bool.not_true,
        Bool.false_eq_true, if_false]
  | release busy => simp [fire, release, busy]
  | workerReturns idle closed input => simp [fire, workerReturns, idle, closed, input]
  | @receive i s o rest found queue running announced =>
      have guard : (s.hasReturned || !s.outbox.isEmpty) = false := by simp [running, announced]
      simp only [fire, receive, found, queue, guard, Bool.false_eq_true, if_false]
      rfl
  | announce found pending running read room =>
      simp only [fire, announce, found, pending, running, read, room, Bool.false_eq_true, if_false,
        if_true]
  | forget found pending running unread =>
      simp only [fire, announce, found, pending, running, unread, Bool.false_eq_true, if_false,
        if_true]
  | @close i s found running isOpen announced closed queue =>
      have guard : (s.hasReturned || s.isClosed || !s.outbox.isEmpty || !f.areQueuesClosed ||
          !(f.queues.getD (t.queueOf i) []).isEmpty) = false := by
        simp only [running, isOpen, announced, closed, queue, List.isEmpty_nil, Bool.not_true,
          Bool.or_self]
      simp only [fire, close, found, guard, Bool.false_eq_true, if_false]
      rfl
  | sinkReturns found running => simp [fire, sinkReturns, found, running]
  | upload pending running heedless => simp [fire, upload, pending, running, heedless]
  | uploaderReturns running => simp [fire, running]
  | drain stage => simp [fire, stage]
  | joinSource stage returned => simp [fire, join, stage, returned]
  | joinFailedSource stage returned => simp [fire, join, stage, returned]
  | joinWorkers stage returned => simp [fire, join, stage, returned]
  | joinSinks stage returned => simp only [fire, join, stage, returned, if_true]
  | joinUploader stage returned => simp [fire, join, stage, returned]

theorem getD_setQueue_self {i : Nat} (inside : i < f.queues.length) (q : List Output) :
    (f.setQueue i q).queues.getD i [] = q := by
  rw [setQueue, List.getD_eq_getElem?_getD, List.getElem?_set_self inside, Option.getD_some]

theorem getD_setQueue_of_ne {i j : Nat} (other : j ≠ i) (q : List Output) :
    (f.setQueue i q).queues.getD j [] = f.queues.getD j [] := by
  rw [setQueue, List.getD_eq_getElem?_getD, List.getElem?_set_ne other.symm,
    List.getD_eq_getElem?_getD]

/-- A queue with something in it is one of the queues there are. -/
theorem lt_of_getD_eq_cons {i : Nat} {o : Output} {rest : List Output}
    (found : f.queues.getD i [] = o :: rest) : i < f.queues.length := by
  apply Nat.lt_of_not_le
  intro outside
  rw [List.getD_eq_getElem?_getD, List.getElem?_eq_none outside] at found
  cases found

end Flow

end RecordPipeline
