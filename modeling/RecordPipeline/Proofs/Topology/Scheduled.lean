import RecordPipeline.Proofs.Topology.Serving

/-!
The fixed schedule takes every flow that is ready to the end of its drain. One worker does all the
work, and never waits in vain, since the sinks empty their queues when they are told to read.
Whatever the schedule does are events of the flow, so all that holds of every order of events holds
of it.
-/

namespace RecordPipeline.Flow

variable {t : Topology} {f g h : Flow}

/-- The flow of a schedule that has come so far: the source has yet to send a list of batches, the
first worker is at its work and the others have none. -/
structure Working (t : Topology) (feed : List Batch) (w : FilterWorker) (f : Flow) : Prop
    extends Calm f where
  feed : f.feed = feed
  sourceResult : f.sourceResult = none
  input : f.input = []
  workers : f.workers = w :: List.replicate (t.workers - 1) .idle
  stage : f.stage = .notDraining

namespace Working

variable {feed : List Batch} {w : FilterWorker} {b : Batch} {lines : List Bytes}
  {entry : Nat × Output} {outbox : List (Nat × Output)} {waits : Bool}

theorem aside (inv : Working t feed w f) (aside : Aside f g) (calm : Calm g) :
    Working t feed w g where
  toCalm := calm
  feed := aside.feed.trans inv.feed
  sourceResult := aside.sourceResult.trans inv.sourceResult
  input := aside.input.trans inv.input
  workers := aside.workers.trans inv.workers
  stage := aside.stage.trans inv.stage

theorem serveAll (inv : Working t feed w f) (fits : t.Fits) (sinks : List Nat) :
    Working t feed w (f.serveAll t sinks) :=
  inv.aside (serveAll_via sinks f).aside (serveAll_calm fits inv.toCalm sinks).1

theorem setWorker (inv : Working t feed w f) (w' : FilterWorker) :
    Working t feed w' (f.setWorker 0 w') := by
  have workers : (f.setWorker 0 w').workers = w' :: List.replicate (t.workers - 1) .idle := by
    rw [Flow.setWorker, inv.workers, List.set_cons_zero]
  exact { inv with workers }

theorem first (inv : Working t feed w f) : f.workers[0]? = some w := by
  rw [inv.workers, List.getElem?_cons_zero]

theorem isWaiting (inv : Working t feed (.busy b lines outbox waits) f) : f.isWaiting = waits := by
  simp [Flow.isWaiting, inv.workers]

/-- The worker gets rid of an output for which there is room or which nobody would read. -/
theorem deliver (inv : Working t feed (.busy b lines (entry :: outbox) waits) f)
    (room : f.hasReader t entry.1 = true →
      (f.queues.getD entry.1 []).length < t.sinkQueueSize) :
    Working t feed (.busy b lines outbox false) (f.fired t (.deliver 0)) := by
  cases read : f.hasReader t entry.1 with
  | false =>
      rw [fired_of_step (.lose inv.first read)]
      exact { inv.setWorker (.busy b lines outbox false) with }
  | true =>
      rw [fired_of_step (.deliver inv.first read (room read))]
      exact { inv.setWorker (.busy b lines outbox false) with }

/-- The worker gets rid of each output, if need be after the sinks have made room for it. -/
theorem deliverOne (inv : Working t feed (.busy b lines (entry :: outbox) false) f) (fits : t.Fits)
    (temper : Temper) :
    Working t feed (.busy b lines outbox false) (f.deliverOne t temper) := by
  have ready : Working t feed (.busy b lines (entry :: outbox) false)
      (if f.isFull t then f.serveAll t (f.eagerSinks temper) else f) := by
    split
    · exact inv.serveAll fits _
    · exact inv
  unfold Flow.deliverOne
  generalize (if f.isFull t then f.serveAll t (f.eagerSinks temper) else f) = g at ready
  by_cases room : g.hasReader t entry.1 = true →
      (g.queues.getD entry.1 []).length < t.sinkQueueSize
  · have delivered := ready.deliver room
    rw [if_neg (ne_true_of_eq_false delivered.isWaiting)]
    exact delivered
  · obtain ⟨read, full⟩ := Classical.not_imp.mp room
    have waiting : Working t feed (.busy b lines (entry :: outbox) true)
        (g.fired t (.deliver 0)) := by
      rw [fired_of_step (.wait ready.first read (Nat.le_of_not_lt full))]
      exact { ready.setWorker (.busy b lines (entry :: outbox) true) with }
    rw [if_pos waiting.isWaiting]
    apply (waiting.serveAll fits _).deliver
    intro _
    obtain ⟨i, s, found, running, served⟩ := exists_of_hasReader read
    have running' : (g.fired t (.deliver 0)).IsRunning i := by
      rw [fired_of_step (.wait ready.first read (Nat.le_of_not_lt full))]
      exact ⟨s, found, running⟩
    have inside : i ∈ (g.fired t (.deliver 0)).sinkNumbers := by
      obtain ⟨s', found', _⟩ := running'
      exact List.mem_range.mpr (List.getElem?_eq_some_iff.mp found').1
    have empty := (serveAll_calm fits waiting.toCalm _).2 i inside running'
    rw [← served, empty]
    exact fits.sinkRoom

theorem deliverAll (inv : Working t feed (.busy b lines outbox false) f) (fits : t.Fits)
    (temper : Temper) :
    Working t feed (.busy b lines [] false)
      (outbox.foldl (fun f _ => f.deliverOne t temper) f) := by
  induction outbox generalizing f with
  | nil => exact inv
  | cons entry rest ih => exact ih (inv.deliverOne fits temper)

/-- The worker processes one line of its batch and delivers what comes of it. -/
theorem processOne {line : Bytes} (inv : Working t feed (.busy b (line :: lines) [] false) f)
    (fits : t.Fits) (temper : Temper) :
    Working t feed (.busy b lines [] false) (f.processOne t temper) := by
  let outputs := (t.processLine f.tally f.filters b.metadata line).outputs
  have processed : Working t feed (.busy b lines outputs false)
      (f.fired t (.processLine 0)) := by
    rw [fired_of_step (.processLine inv.first)]
    exact { inv.setWorker (.busy b lines outputs false) with }
  have pending : (f.fired t (.processLine 0)).pending = outputs := by
    rw [Flow.pending, processed.workers]
    rfl
  rw [Flow.processOne, pending]
  exact processed.deliverAll fits temper

theorem processLines (inv : Working t feed (.busy b lines [] false) f) (fits : t.Fits)
    (temper : Temper) :
    Working t feed (.busy b [] [] false) (lines.foldl (fun f _ => f.processOne t temper) f) := by
  induction lines generalizing f with
  | nil => exact inv
  | cons line rest ih => exact ih (inv.processOne fits temper)

/-- One batch passes from the source to the worker, and is given back. -/
theorem processBatch (inv : Working t (b :: feed) .idle f) (fits : t.Fits) (temper : Temper) :
    Working t feed .idle (f.processBatch t temper b) := by
  have room : f.input.length < t.inputQueueSize := inv.input ▸ fits.inputRoom
  have taken : Working t feed (.busy b b.lines [] false) (f.firedAll t [.send, .take 0]) := by
    have sent : f.fired t .send = { f with feed := feed, input := f.input ++ [b] } :=
      fired_of_step (.send inv.feed inv.sourceResult room)
    have waiting : f.input ++ [b] = [b] := by rw [inv.input, List.nil_append]
    have took := Step.take (t := t) (f := { f with feed := feed, input := f.input ++ [b] })
      inv.first waiting
    rw [firedAll_cons, firedAll_cons, firedAll_nil, sent, fired_of_step took]
    exact { inv.setWorker (.busy b b.lines [] false) with feed := rfl, input := rfl }
  have processed := taken.processLines fits temper
  have released : Working t feed .idle ((b.lines.foldl (fun f _ => f.processOne t temper)
      (f.firedAll t [.send, .take 0])).fired t (.release 0)) := by
    rw [fired_of_step (.release processed.first)]
    exact { processed.setWorker .idle with }
  exact released.serveAll fits _

/-- All batches that the source has to send are processed. -/
theorem processAll (inv : Working t feed .idle f) (fits : t.Fits) (temper : Temper) :
    Working t [] .idle (f.feed.foldl (Flow.processBatch t temper) f) := by
  rw [inv.feed]
  induction feed generalizing f with
  | nil => exact inv
  | cons b rest ih => exact ih (inv.processBatch fits temper)

end Working

theorem fired_uploaderReturns (f : Flow) :
    f.fired t .uploaderReturns = { f with uploaderReturned := true } := by
  cases returned : f.uploaderReturned with
  | true => rw [fired_of_none (by simp [fire, returned]), ← returned]
  | false => exact fired_of_step (.uploaderReturns returned)

/-- A flow in which nothing has happened yet, but for sinks that have returned, and for the
uploader. -/
structure Ready (t : Topology) (f : Flow) : Prop where
  sourceResult : f.sourceResult = none
  input : f.input = []
  workers : f.workers = List.replicate t.workers .idle
  uploads : f.uploads = []
  sinks : ∀ s ∈ f.sinks, s.outbox = [] ∧ s.isClosed = false
  stage : f.stage = .notDraining
  error : f.error = none

namespace Ready

theorem ofTopology (t : Topology) (feed : List Batch) (environment : Environment) :
    Ready t (ofTopology t feed environment) := by
  have fresh := ofTopology_fresh t feed environment
  refine { fresh with sinks := ?_ }
  intro s member
  obtain ⟨outbox, isOpen, _⟩ := fresh.running s member
  exact ⟨outbox, isOpen⟩

theorem setSink (ready : Ready t f) {i : Nat} {s : SinkWorker} (found : f.sinks[i]? = some s)
    (s' : SinkWorker) (same : s'.outbox = s.outbox ∧ s'.isClosed = s.isClosed) :
    Ready t (f.setSink i s') := by
  refine { ready with sinks := ?_ }
  intro s'' member
  rcases List.mem_or_eq_of_mem_set member with before | rfl
  · exact ready.sinks s'' before
  · rw [same.1, same.2]
    exact ready.sinks s (List.mem_of_getElem? found)

theorem sinkReturns (ready : Ready t f) (i : Nat) : Ready t (f.fired t (.sinkReturns i)) := by
  cases outcome : f.fire t (.sinkReturns i) with
  | none =>
      rw [fired_of_none outcome]
      exact ready
  | some g =>
      rw [fired_of_step (step_of_fire outcome)]
      cases step_of_fire outcome with
      | sinkReturns found running => exact ready.setSink found _ ⟨rfl, rfl⟩

theorem startUploader (ready : Ready t f) : Ready t (f.startUploader t) := by
  unfold Flow.startUploader
  split
  · exact { ready with }
  · rw [fired_uploaderReturns]
    exact { ready with }

theorem startSink (ready : Ready t f) (i : Nat) : Ready t (f.startSink i) := by
  unfold Flow.startSink
  split
  · rename_i s found
    split
    · exact ready
    · exact { ready.setSink found { s with sink := (s.sink.start f.environment).1 }
        ⟨rfl, rfl⟩ with }
  · exact ready

/-- The flow is ready after the sinks and the uploader have started. -/
theorem begin (ready : Ready t f) (temper : Temper) : Ready t (f.begin t temper) := by
  have quit (sinks : List Nat) {f : Flow} (ready : Ready t f) :
      Ready t (sinks.foldl (fun f i => f.fired t (.sinkReturns i)) f) := by
    induction sinks generalizing f with
    | nil => exact ready
    | cons i rest ih => exact ih (ready.sinkReturns i)
  have started (sinks : List Nat) {f : Flow} (ready : Ready t f) :
      Ready t (sinks.foldl Flow.startSink f) := by
    induction sinks generalizing f with
    | nil => exact ready
    | cons i rest ih => exact ih (ready.startSink i)
  exact started _ (quit _ ready.startUploader)

theorem draining (ready : Ready t f) : Draining t f := by
  apply Draining.of_inputOpen
  · simp [isInputClosed, ready.stage]
  · rw [ready.workers]
    intro member
    cases List.eq_of_mem_replicate member
  · exact fun s member => (ready.sinks s member).2
  · exact ready.error

end Ready

/-- A stopped uploader returns first, then the schedule can begin. -/
theorem Ready.working (ready : Ready t f) (fits : t.Fits) :
    Working t f.feed .idle (if f.uploader.isStopped then f.fired t .uploaderReturns else f) := by
  have workers : f.workers = .idle :: List.replicate (t.workers - 1) .idle := by
    rw [ready.workers, ← List.replicate_succ, Nat.sub_add_cancel fits.workers]
  have outboxes (i : Nat) (s : SinkWorker) (found : f.sinks[i]? = some s) : s.outbox = [] :=
    (ready.sinks s (List.mem_of_getElem? found)).1
  split
  · rw [fired_uploaderReturns]
    exact { ready with feed := rfl, workers, outboxes, heeded := .inl rfl }
  · rename_i running
    have heeded := eq_false_of_ne_true running
    exact { ready with feed := rfl, workers, outboxes, heeded := .inr heeded }

/-- The source returns, and the drain goes on to the workers. -/
theorem Working.drain (inv : Working t [] .idle f) (result : Except ComponentError Unit) :
    let g := f.firedAll t [.drain, .sourceReturns result, .join]
    g.stage = .workersAwaited ∧ g.sourceResult = some result ∧ g.input = [] ∧
      ∀ w ∈ g.workers, w = .idle := by
  have idle : ∀ w ∈ f.workers, w = .idle := by
    rw [inv.workers]
    exact List.forall_mem_cons.mpr ⟨rfl, fun _ => List.eq_of_mem_replicate⟩
  have returned : (f.firedAll t [.drain, .sourceReturns result]) =
      { f with stage := .sourceAwaited, sourceResult := some result } := by
    rw [firedAll_cons, firedAll_cons, firedAll_nil,
      fired_of_step (.drain inv.stage)]
    exact fired_of_step (.sourceReturns inv.sourceResult)
  have split : f.firedAll t [.drain, .sourceReturns result, .join] =
      (f.firedAll t [.drain, .sourceReturns result]).fired t .join := rfl
  rw [split, returned]
  cases result with
  | ok _ =>
      rw [fired_of_step (.joinSource rfl rfl)]
      exact ⟨rfl, rfl, inv.input, idle⟩
  | error e =>
      rw [fired_of_step (.joinFailedSource rfl rfl)]
      exact ⟨rfl, rfl, inv.input, idle⟩

/-- The workers return one after the other. -/
theorem workersReturn (closed : f.isInputClosed = true) (input : f.input = []) {k m : Nat}
    (workers : f.workers = List.replicate k .returned ++ List.replicate m .idle) :
    let g := f.firedAll t ((List.range' k m).map .workerReturns)
    g.stage = f.stage ∧ g.sourceResult = f.sourceResult ∧
      g.workers = List.replicate (k + m) .returned := by
  induction m generalizing f k with
  | zero =>
      rw [List.replicate_zero, List.append_nil] at workers
      exact ⟨rfl, rfl, workers⟩
  | succ m ih =>
      have idle : f.workers[k]? = some .idle := by simp [workers]
      have returned : (f.setWorker k .returned).workers =
          List.replicate (k + 1) .returned ++ List.replicate m .idle := by
        rw [setWorker, workers, List.set_append_right _ _ (by simp), List.length_replicate,
          Nat.sub_self, List.replicate_succ (n := m), List.set_cons_zero,
          List.replicate_succ' (n := k), List.append_assoc, List.singleton_append]
      have rest := ih (f := f.setWorker k .returned) closed input returned
      rw [List.range'_succ, List.map_cons, firedAll_cons,
        fired_of_step (.workerReturns idle closed input), Nat.add_comm m 1, ← Nat.add_assoc]
      exact rest

/-- What has come to an end stays so while the sinks come to their end. -/
structure Ending (f g : Flow) : Prop where
  sourceResult : g.sourceResult = f.sourceResult
  stage : g.stage = f.stage
  running : ∀ i, g.IsRunning i → f.IsRunning i

namespace Ending

theorem refl (f : Flow) : Ending f f := ⟨rfl, rfl, fun _ => id⟩

theorem trans (first : Ending f g) (second : Ending g h) : Ending f h where
  sourceResult := second.sourceResult.trans first.sourceResult
  stage := second.stage.trans first.stage
  running := fun i running => first.running i (second.running i running)

theorem setSink (f : Flow) {i : Nat} {s : SinkWorker} (found : f.sinks[i]? = some s)
    (s' : SinkWorker) (same : s'.hasReturned = false → s.hasReturned = false) :
    Ending f (f.setSink i s') := by
  refine { refl f with running := ?_ }
  rintro j ⟨s'', found', running⟩
  rcases eq_or_ne i j with rfl | other
  · rw [Flow.setSink, List.getElem?_set_self (List.getElem?_eq_some_iff.mp found).1] at found'
    cases found'
    exact ⟨s, found, same running⟩
  · rw [Flow.setSink, List.getElem?_set_ne other] at found'
    exact ⟨s'', found', running⟩

theorem close (f : Flow) (i : Nat) : Ending f (f.fired t (.close i)) := by
  cases outcome : f.fire t (.close i) with
  | none =>
      rw [fired_of_none outcome]
      exact refl f
  | some g =>
      rw [fired_of_step (step_of_fire outcome)]
      cases step_of_fire outcome with
      | @close _ s found running isOpen announced closed queue =>
          exact { setSink f found (s.close f.environment) id with }

/-- A sink that is told to return has returned. -/
theorem sinkReturns (f : Flow) (i : Nat) :
    Ending f (f.fired t (.sinkReturns i)) ∧ ¬ (f.fired t (.sinkReturns i)).IsRunning i := by
  by_cases running : f.IsRunning i
  · obtain ⟨s, found, running⟩ := running
    rw [fired_of_step (.sinkReturns found running)]
    refine ⟨setSink f found _ nofun, ?_⟩
    rintro ⟨s', found', running'⟩
    rw [Flow.setSink, List.getElem?_set_self (List.getElem?_eq_some_iff.mp found).1] at found'
    cases found'
    cases running'
  · have impossible : f.fire t (.sinkReturns i) = none := by
      apply Option.eq_none_iff_forall_ne_some.mpr
      intro g fired
      cases step_of_fire fired with
      | sinkReturns found running' => exact running ⟨_, found, running'⟩
    rw [fired_of_none impossible]
    exact ⟨refl f, running⟩

end Ending

theorem Aside.ending (aside : Aside f g) : Ending f g where
  sourceResult := aside.sourceResult
  stage := aside.stage
  running := fun _ => aside.isRunning_iff.mp

theorem finishSink_ending (f : Flow) (i : Nat) :
    Ending f (f.finishSink t i) ∧ ¬ (f.finishSink t i).IsRunning i := by
  have served := (serve_via (t := t) f i).aside.ending
  have closed := Ending.close (t := t) (f.serve t i) i
  have handedOver := (handOver_via (t := t) i ((f.serve t i).fired t (.close i))).aside.ending
  obtain ⟨returned, gone⟩ :=
    Ending.sinkReturns (t := t) (((f.serve t i).fired t (.close i)).handOver t i) i
  exact ⟨((served.trans closed).trans handedOver).trans returned, gone⟩

theorem finishSinks_ending (f : Flow) (sinks : List Nat) :
    Ending f (sinks.foldl (finishSink t) f) ∧
      ∀ i ∈ sinks, ¬ (sinks.foldl (finishSink t) f).IsRunning i := by
  induction sinks generalizing f with
  | nil => exact ⟨.refl f, nofun⟩
  | cons i rest ih =>
      obtain ⟨first, gone⟩ := finishSink_ending (t := t) f i
      obtain ⟨later, others⟩ := ih (f.finishSink t i)
      have gone' := mt (later.running i) gone
      exact ⟨first.trans later, List.forall_mem_cons.mpr ⟨gone', others⟩⟩

/-- Workers that have nothing left to do return, and the drain goes on to the sinks. -/
theorem workers_joined (stage : f.stage = .workersAwaited) (input : f.input = [])
    (idle : ∀ w ∈ f.workers, w = .idle) :
    let g := f.firedAll t ((List.range f.workers.length).map .workerReturns ++ [.join])
    g.stage = .sinksAwaited ∧ g.sourceResult = f.sourceResult := by
  have closed : f.isInputClosed = true := by simp [isInputClosed, stage]
  obtain ⟨stage', same, returned⟩ :=
    workersReturn (t := t) (k := 0) closed input (List.eq_replicate_length.mpr idle)
  rw [← List.range_eq_range'] at stage' same returned
  rw [firedAll_append, firedAll_cons, firedAll_nil]
  generalize f.firedAll t ((List.range f.workers.length).map .workerReturns) = g
    at stage' same returned
  have noneLeft : g.hasWorkerLeft = false := by simp [hasWorkerLeft, returned]
  rw [fired_of_step (.joinWorkers (stage'.trans stage) noneLeft)]
  exact ⟨rfl, same⟩

/-- The sinks come to their end, and the drain goes on to the uploader. -/
theorem sinks_joined (stage : f.stage = .sinksAwaited) :
    let g := (f.sinkNumbers.foldl (finishSink t) f).fired t .join
    g.stage = .uploaderAwaited ∧ g.sourceResult = f.sourceResult := by
  obtain ⟨ending, gone⟩ := finishSinks_ending (t := t) f f.sinkNumbers
  generalize f.sinkNumbers.foldl (finishSink t) f = g at ending gone
  have returned : g.sinks.all (·.hasReturned) = true := by
    rw [List.all_eq_true]
    intro s member
    obtain ⟨i, found⟩ := List.mem_iff_getElem?.mp member
    by_contra running
    have running' : g.IsRunning i := ⟨s, found, eq_false_of_ne_true running⟩
    obtain ⟨s', found', _⟩ := ending.running i running'
    exact gone i (List.mem_range.mpr (List.getElem?_eq_some_iff.mp found').1) running'
  dsimp only
  rw [fired_of_step (.joinSinks (ending.stage.trans stage) returned)]
  exact ⟨rfl, ending.sourceResult⟩

/-- The uploader takes up what is left and returns, and the drain is over. -/
theorem uploader_joined (stage : f.stage = .uploaderAwaited) :
    let g := (f.uploads.foldl (fun f _ => f.fired t .upload) f).firedAll t [.uploaderReturns, .join]
    g.stage = .drained ∧ g.sourceResult = f.sourceResult := by
  have uploaded : Via t FlowEvent.IsReading f (f.uploads.foldl (fun f _ => f.fired t .upload) f) :=
    Via.foldl f.uploads (fun _ _ f => Via.fired trivial f) f
  have aside := uploaded.aside
  dsimp only
  generalize f.uploads.foldl (fun f _ => f.fired t .upload) f = g at aside
  have joined := Step.joinUploader (t := t) (f := { g with uploaderReturned := true })
    (aside.stage.trans stage) rfl
  rw [firedAll_cons, firedAll_cons, firedAll_nil, fired_uploaderReturns,
    fired_of_step joined]
  exact ⟨rfl, aside.sourceResult⟩

section Reaching

theorem fired_via (e : FlowEvent) (f : Flow) : Via t (fun _ => True) f (f.fired t e) :=
  Via.fired trivial f

theorem firedAll_via (es : List FlowEvent) (f : Flow) :
    Via t (fun _ => True) f (f.firedAll t es) := Via.firedAll (fun _ _ => trivial) f

theorem deliverOne_via (temper : Temper) (f : Flow) :
    Via t (fun _ => True) f (f.deliverOne t temper) := by
  have ready : Via t (fun _ => True) f
      (if f.isFull t then f.serveAll t (f.eagerSinks temper) else f) := by
    split
    · exact (serveAll_via _ f).any
    · exact .refl
  unfold Flow.deliverOne
  generalize (if f.isFull t then f.serveAll t (f.eagerSinks temper) else f) = g at ready
  have delivered := ready.trans (fired_via (.deliver 0) g)
  dsimp only
  split
  · exact (delivered.trans (serveAll_via _ _).any).trans (fired_via _ _)
  · exact delivered

theorem processOne_via (temper : Temper) (f : Flow) :
    Via t (fun _ => True) f (f.processOne t temper) :=
  (fired_via (.processLine 0) f).trans (Via.foldl _ (fun _ _ f => deliverOne_via temper f) _)

theorem processBatch_via (temper : Temper) (f : Flow) (b : Batch) :
    Via t (fun _ => True) f (f.processBatch t temper b) := by
  have taken := firedAll_via (t := t) [.send, .take 0] f
  have processed := taken.trans (Via.foldl b.lines (fun _ _ f => processOne_via temper f) _)
  exact (processed.trans (fired_via (.release 0) _)).trans (serveAll_via _ _).any

theorem finishSink_via (f : Flow) (i : Nat) : Via t (fun _ => True) f (f.finishSink t i) := by
  have closed := (serve_via (t := t) f i).any.trans (fired_via (.close i) _)
  exact (closed.trans (handOver_via i _).any).trans (fired_via _ _)

/-- All that the schedule does are events of the flow. -/
theorem reaches_runToEnd (temper : Temper) (result : Except ComponentError Unit) (f : Flow) :
    Reaches t f (f.runToEnd t temper result) := by
  apply Via.reaches
  have first : Via t (fun _ => True) f
      (if f.uploader.isStopped then f.fired t .uploaderReturns else f) := by
    split
    · exact fired_via _ f
    · exact .refl
  -- From the end to the beginning, one line of the schedule after the other.
  unfold runToEnd
  dsimp only
  refine Via.trans ?_ (firedAll_via _ _)
  refine Via.trans ?_ (Via.foldl _ (fun _ _ f => fired_via _ f) _)
  refine Via.trans ?_ (fired_via _ _)
  refine Via.trans ?_ (Via.foldl _ (fun i _ f => finishSink_via f i) _)
  refine Via.trans ?_ (firedAll_via _ _)
  refine Via.trans ?_ (firedAll_via _ _)
  refine Via.trans ?_ (Via.foldl _ (fun b _ f => processBatch_via temper f b) _)
  exact first

end Reaching

/-- The schedule takes a flow that is ready to the end of its drain. -/
theorem runToEnd_drained (ready : Ready t f) (fits : t.Fits) (temper : Temper)
    (result : Except ComponentError Unit) :
    (f.runToEnd t temper result).stage = .drained ∧
      (f.runToEnd t temper result).sourceResult = some result := by
  have processed := (ready.working fits).processAll fits temper
  obtain ⟨stage, returned, input, idle⟩ := processed.drain result
  obtain ⟨stage, same⟩ := workers_joined (t := t) stage input idle
  obtain ⟨stage, same'⟩ := sinks_joined (t := t) stage
  obtain ⟨stage, same''⟩ := uploader_joined (t := t) stage
  exact ⟨stage, ((same''.trans same').trans same).trans returned⟩

end RecordPipeline.Flow
