import RecordPipeline.Proofs.Topology.Arrival

/-!
Shards and order. An output is received only by the sink that the hash of its record's shard field
chooses, and in every queue the outputs of one batch come in the order of its lines. With one worker
alone every queue receives what the lines give, taken one after the other.
-/

namespace RecordPipeline

namespace Flow

variable {t : Topology} {f g : Flow} {h : Traffic}

/-- In every queue, what has come in, what was lost and what is still to come are, in this order,
the outputs of all lines sent. -/
def InLine (t : Topology) (h : Traffic) (f : Flow) : Prop :=
  ∀ queue, ∃ lost, f.arrived t h queue ++ lost ++
      restrict queue (f.owed t ++ f.input.flatMap t.batchReference) =
        restrict queue (h.sent.flatMap t.batchReference) ∧
    (lost ≠ [] → Deserted t h f queue)

/-- A worker that is the only one owes all that is owed. -/
theorem owed_of_one (one : f.workers.length = 1) {i : Nat} {w : FilterWorker}
    (found : f.workers[i]? = some w) : f.owed t = w.owed t := by
  obtain ⟨only, workers⟩ := List.length_eq_one_iff.mp one
  obtain ⟨inside, same⟩ := List.getElem?_eq_some_iff.mp found
  have first : i = 0 := by omega
  subst first
  have same' : only = w := by simpa [workers] using same
  rw [owed, workers, List.flatMap_singleton, same']

theorem owed_setWorker_of_one (one : f.workers.length = 1) {i : Nat} {w : FilterWorker}
    (found : f.workers[i]? = some w) (w' : FilterWorker) : (f.setWorker i w').owed t = w'.owed t :=
  owed_of_one (List.length_set.trans one) (getElem?_setWorker_self found w')

namespace InLine

/-- What leaves alone what workers owe and what waits keeps the outputs in line. -/
theorem carry (inv : InLine t h f) {h' : Traffic} (owed : g.owed t = f.owed t)
    (same : g.input = f.input ∧ h'.sent = h.sent)
    (arrived : ∀ queue, g.arrived t h' queue = f.arrived t h queue)
    (deserted : ∀ queue, Deserted t h f queue → Deserted t h' g queue) : InLine t h' g := by
  intro queue
  obtain ⟨lost, balance, gone⟩ := inv queue
  refine ⟨lost, ?_, fun some => deserted queue (gone some)⟩
  rw [arrived, owed, same.1, same.2]
  exact balance

theorem send (inv : InLine t h f) {b : Batch} {rest : List Batch} (next : f.feed = b :: rest) :
    InLine t (h.note t f .send) { f with feed := rest, input := f.input ++ [b] } := by
  have noted : h.note t f .send = { h with sent := h.sent ++ [b] } := by
    rw [Traffic.note, next]
    rfl
  rw [noted]
  intro queue
  obtain ⟨lost, balance, gone⟩ := inv queue
  refine ⟨lost, ?_, gone⟩
  have longer := congrArg (· ++ restrict queue (t.batchReference b)) balance
  simpa [arrived, owed, Traffic.read, List.append_assoc] using longer

theorem take (inv : InLine t h f) (one : f.workers.length = 1) {i : Nat} {b : Batch}
    {rest : List Batch} (idle : f.workers[i]? = some .idle) (next : f.input = b :: rest) :
    InLine t h
      ({ f with input := rest, tally := f.tally.addBatch b.data.length }.setWorker i
        (.busy b b.lines [] false)) := by
  intro queue
  obtain ⟨lost, balance, gone⟩ := inv queue
  refine ⟨lost, ?_, gone⟩
  have owedAfter := owed_setWorker_of_one (t := t) one idle (.busy b b.lines [] false)
  rw [owed_of_one one idle, next] at balance
  calc
    f.arrived t h queue ++ lost ++ restrict queue
          ((f.setWorker i (.busy b b.lines [] false)).owed t ++ rest.flatMap t.batchReference) =
        f.arrived t h queue ++ lost ++
          restrict queue ((b :: rest).flatMap t.batchReference) := by
      rw [owedAfter]
      rfl
    _ = restrict queue (h.sent.flatMap t.batchReference) := balance

theorem deliver (inv : InLine t h f) (one : f.workers.length = 1) {i : Nat} {b : Batch}
    {lines : List Bytes} {queue : Nat} {o : Output} {outbox : List (Nat × Output)}
    {isWaiting : Bool}
    (busy : f.workers[i]? = some (.busy b lines ((queue, o) :: outbox) isWaiting))
    (read : f.hasReader t queue = true) (inside : queue < f.queues.length) :
    InLine t h
      (({ f with tally := f.tally.addEmitted }.setWorker i (.busy b lines outbox false)).setQueue
        queue (f.queues.getD queue [] ++ [o])) := by
  intro queue'
  obtain ⟨lost, balance, gone⟩ := inv queue'
  refine ⟨lost, ?_, gone⟩
  have owedAfter := owed_setWorker_of_one (t := t) one busy (.busy b lines outbox false)
  have owedBefore : f.owed t = [(queue, o)] ++ FilterWorker.owed t (.busy b lines outbox false) :=
    owed_of_one one busy
  have arrives := arrived_deliver (t := t) (h := h) (g := f) inside o rfl queue'
  -- Nothing was lost from this queue so far, or it is another one and takes nothing in.
  have inOrder : restrict queue' [(queue, o)] ++ lost = lost ++ restrict queue' [(queue, o)] := by
    rcases eq_or_ne queue queue' with rfl | other
    · have none : lost = [] := by
        by_contra some
        exact not_deserted read (gone some)
      rw [none, List.append_nil, List.nil_append]
    · rw [restrict_cons_of_ne other, restrict_nil, List.append_nil, List.nil_append]
  rw [owedBefore] at balance
  calc
    (f.setQueue queue (f.queues.getD queue [] ++ [o])).arrived t h queue' ++ lost ++
          restrict queue' ((f.setWorker i (.busy b lines outbox false)).owed t ++
            f.input.flatMap t.batchReference) =
        f.arrived t h queue' ++ (restrict queue' [(queue, o)] ++ lost) ++
          restrict queue' (FilterWorker.owed t (.busy b lines outbox false) ++
            f.input.flatMap t.batchReference) := by
      rw [arrives, owedAfter, List.append_assoc (f.arrived t h queue')]
    _ = f.arrived t h queue' ++ lost ++
          restrict queue' ([(queue, o)] ++ FilterWorker.owed t (.busy b lines outbox false) ++
            f.input.flatMap t.batchReference) := by
      rw [inOrder]
      simp only [restrict_append, List.append_assoc]
    _ = restrict queue' (h.sent.flatMap t.batchReference) := balance

theorem lose (inv : InLine t h f) (one : f.workers.length = 1) {i : Nat} {b : Batch}
    {lines : List Bytes} {queue : Nat} {o : Output} {outbox : List (Nat × Output)}
    {isWaiting : Bool}
    (busy : f.workers[i]? = some (.busy b lines ((queue, o) :: outbox) isWaiting))
    (deserted : Deserted t h f queue) :
    InLine t h
      ({ f with tally := f.tally.addUndelivered }.setWorker i (.busy b lines outbox false)) := by
  intro queue'
  obtain ⟨lost, balance, gone⟩ := inv queue'
  have owedAfter := owed_setWorker_of_one (t := t) one busy (.busy b lines outbox false)
  have owedBefore : f.owed t = [(queue, o)] ++ FilterWorker.owed t (.busy b lines outbox false) :=
    owed_of_one one busy
  rw [owedBefore] at balance
  refine ⟨lost ++ restrict queue' [(queue, o)], ?_, ?_⟩
  · calc
      f.arrived t h queue' ++ (lost ++ restrict queue' [(queue, o)]) ++
            restrict queue' ((f.setWorker i (.busy b lines outbox false)).owed t ++
              f.input.flatMap t.batchReference) =
          f.arrived t h queue' ++ lost ++
            restrict queue' ([(queue, o)] ++ FilterWorker.owed t (.busy b lines outbox false) ++
              f.input.flatMap t.batchReference) := by
        rw [owedAfter]
        simp only [restrict_append, List.append_assoc]
      _ = restrict queue' (h.sent.flatMap t.batchReference) := balance
  · intro some
    rcases eq_or_ne queue queue' with rfl | other
    · exact deserted
    · rw [restrict_cons_of_ne other, restrict_nil, List.append_nil] at some
      exact gone some

/-- With one worker alone every event keeps the outputs in line. -/
theorem step {e : FlowEvent} (shaped : Shaped t f) (draining : Draining t f)
    (noted : ReturnsNoted h f) (one : f.workers.length = 1) (inv : InLine t h f)
    (step : Step t f e g) : InLine t (h.note t f e) g := by
  have deserted := fun queue (before : Deserted t h f queue) => before.step step
  cases step with
  | send next running room => exact inv.send next
  | take idle next => exact inv.take one idle next
  | @processLine i b line lines isWaiting busy =>
      refine inv.carry ?_ ⟨rfl, rfl⟩ (fun _ => rfl) deserted
      have outputs := t.processLine_outputs f.tally f.filters b.metadata line
      refine (owed_setWorker_of_one one busy (.busy b lines
        (t.processLine f.tally f.filters b.metadata line).outputs false)).trans ?_
      rw [owed_of_one one busy, outputs]
      rfl
  | lose busy unread =>
      exact inv.lose one busy (deserted_of_unread draining noted busy nofun unread)
  | deliver busy read room =>
      have inside := (shaped.outbox_tail busy).1
      rw [← shaped.queues] at inside
      exact inv.deliver one busy read inside
  | @wait i b lines queue o outbox busy read full =>
      refine inv.carry ?_ ⟨rfl, rfl⟩ (fun _ => rfl) deserted
      exact (owed_setWorker_of_one one busy (.busy b lines ((queue, o) :: outbox) true)).trans
        (owed_of_one one busy).symm
  | release busy =>
      refine inv.carry ?_ ⟨rfl, rfl⟩ (fun _ => rfl) deserted
      exact (owed_setWorker_of_one one busy .idle).trans (owed_of_one one busy).symm
  | workerReturns idle closed input =>
      refine inv.carry ?_ ⟨rfl, rfl⟩ (fun _ => rfl) deserted
      exact (owed_setWorker_of_one one idle .returned).trans (owed_of_one one idle).symm
  | receive found next running announced =>
      exact inv.carry rfl ⟨rfl, rfl⟩ (arrived_receive next rfl) deserted
  | sourceReturns | announce | forget | close | sinkReturns | upload | uploaderReturns | drain
  | joinSource | joinFailedSource | joinWorkers | joinSinks | joinUploader =>
      exact inv.carry rfl ⟨rfl, rfl⟩ (fun _ => rfl) deserted

end InLine

theorem Fresh.inLine (fresh : Fresh t f) : InLine t {} f := by
  have free : ∀ w ∈ f.workers, w = .idle ∨ w = .returned := by
    intro w member
    rw [fresh.workers] at member
    exact .inl (List.eq_of_mem_replicate member)
  intro queue
  refine ⟨[], ?_, fun some => absurd rfl some⟩
  rw [fresh.arrived_eq_nil, (held_eq_nil (t := t) free).2, fresh.input]
  rfl

theorem Run.inLine {start : Flow} (fits : t.Fits) (fresh : Fresh t start) (one : t.workers = 1)
    (run : Run t start h f) : InLine t h f := by
  induction run with
  | start => exact fresh.inLine
  | step before fired ih =>
      have shaped := before.shaped fits fresh
      exact ih.step shaped (before.draining fresh) (before.returnsNoted fresh)
        (shaped.workers.trans one) (step_of_fire fired)

/-- Only sinks that there are receive anything. -/
theorem Run.received_lt {start : Flow} (fits : t.Fits) (fresh : Fresh t start)
    (run : Run t start h f) : ∀ entry ∈ h.received, entry.1 < t.sinks.length := by
  induction run with
  | start => exact fun _ member => absurd member List.not_mem_nil
  | @step h f g e before fired ih =>
      cases step_of_fire fired with
      | @receive i s o rest found next running announced =>
          intro entry member
          rcases List.mem_append.mp member with earlier | now
          · exact ih entry earlier
          · obtain ⟨_, _, rfl⟩ := List.mem_map.mp now
            rw [← (before.shaped fits fresh).sinks]
            exact (List.getElem?_eq_some_iff.mp found).1
      | _ => exact ih

/-- A sink of the queue has not returned before it came to the end of the queue. -/
def Attended (t : Topology) (h : Traffic) (queue : Nat) : Prop :=
  ∃ i < t.sinks.length, t.queueOf i = queue ∧ i ∉ h.early

theorem Attended.not_deserted {queue : Nat} (attended : Attended t h queue) (shaped : Shaped t f) :
    ¬ Deserted t h f queue := by
  obtain ⟨i, hi, reads, stays⟩ := attended
  rw [← shaped.sinks] at hi
  intro deserted
  exact stays (deserted i _ (List.getElem?_eq_getElem hi) reads).2

/-- At the end of the drain an attended queue has been read to its end. -/
theorem Attended.queue_eq_nil {queue : Nat} (attended : Attended t h queue) (shaped : Shaped t f)
    (draining : Draining t f) (noted : ReturnsNoted h f) (drained : f.stage = .drained) :
    f.queues.getD queue [] = [] := by
  obtain ⟨i, hi, reads, stays⟩ := attended
  rw [← shaped.sinks] at hi
  have found := List.getElem?_eq_getElem hi
  have returned := draining.sinksReturned (.inr drained) _ (List.getElem_mem hi)
  have closed := (noted i _ found returned).resolve_right stays
  rw [← reads]
  exact (draining.sinkClosed i _ found closed).2

/-- What has come into the queues, as the places of the records in the order in which their outputs
came: whichever worker had the batch, each output comes once at most and into the queue that its
record chooses, the outputs of one batch come in the order of its lines and for one line in the
order in which the chain handed them on, and at the end of the drain none is missing. -/
structure Arrivals (t : Topology) (h : Traffic) (f : Flow) (log : List (Nat × Nat)) : Prop where
  known : ∀ place ∈ log, ∃ r, t.recordAt? h.sent place = some r
  inOrder : log.Pairwise fun a b => a.1 = b.1 → a.2 < b.2
  queues : ∀ queue, f.arrived t h queue =
    ((log.filterMap (t.recordAt? h.sent)).filter fun r => t.dispatcher.select r = queue).map
      t.projection.project
  complete : f.stage = .drained → ∀ queue, Attended t h queue →
    f.queues.getD queue [] = [] ∧ ∀ place r, t.recordAt? h.sent place = some r →
      t.dispatcher.select r = queue → place ∈ log

theorem Run.arrivals {start : Flow} (fits : t.Fits) (fresh : Fresh t start)
    (run : Run t start h f) : ∃ log, Arrivals t h f log := by
  obtain ⟨taken, next, log, tracked⟩ := run.tracked fits fresh
  have shaped := run.shaped fits fresh
  have draining := run.draining fresh
  have stable : ∀ place ∈ log, t.recordAt? h.sent place = t.recordAt? taken place := by
    intro place member
    rw [tracked.sent, Topology.recordAt?_append (tracked.lt_of_mem member)]
  refine ⟨log, ?_, tracked.inOrder, ?_, ?_⟩
  · intro place member
    rw [stable place member]
    exact tracked.known place member
  · intro queue
    rw [List.filterMap_congr stable]
    exact tracked.queues queue
  · intro drained queue attended
    refine ⟨attended.queue_eq_nil shaped draining (run.returnsNoted fresh) drained, ?_⟩
    intro place r found chosen
    obtain ⟨held, _, input⟩ := workers_done fits shaped draining drained
    rw [tracked.sent, input, List.append_nil] at found
    rcases tracked.complete queue (attended.not_deserted shaped) place r found chosen with
      logged | ⟨i, holds, _⟩
    · exact logged
    · refine absurd ?_ holds
      apply List.flatMap_eq_nil_iff.mpr
      intro w member
      exact List.flatMap_eq_nil_iff.mp held w
        (List.mem_of_getElem? (Option.mem_toList.mp member))

/-- Whatever a sink has received is the output of a record that came to the end of the chain for a
line that was sent. -/
theorem Run.received_survivor {start : Flow} (fits : t.Fits) (fresh : Fresh t start)
    (run : Run t start h f) {entry : Nat × Output} (received : entry ∈ h.received) :
    ∃ b ∈ h.sent, ∃ line ∈ b.lines, ∃ r ∈ t.survivors b.metadata line,
      entry.2 = t.projection.project r := by
  obtain ⟨log, arrivals⟩ := run.arrivals fits fresh
  have read : (t.queueOf entry.1, entry.2) ∈ h.read t := List.mem_map_of_mem received
  have inQueue : entry.2 ∈ f.arrived t h (t.queueOf entry.1) :=
    List.mem_append_left _ (mem_restrict.mpr read)
  rw [arrivals.queues] at inQueue
  obtain ⟨r, chosen, projected⟩ := List.mem_map.mp inQueue
  obtain ⟨place, _, found⟩ := List.mem_filterMap.mp (List.mem_filter.mp chosen).1
  obtain ⟨b, sent, survives⟩ := Option.bind_eq_some_iff.mp found
  obtain ⟨line, inside, survivor⟩ := List.mem_flatMap.mp (List.mem_of_getElem? survives)
  exact ⟨b, List.mem_of_getElem? sent, line, inside, r, survivor, projected.symm⟩

/-- Where every sink has a queue of its own, the number of a sink is that of its queue. -/
theorem restrict_read_of_sharded {rule : Record → UInt64}
    (sharded : t.dispatcher = .sharded rule t.sinks.length)
    (received : ∀ entry ∈ h.received, entry.1 < t.sinks.length) (sink : Nat) :
    restrict sink (h.read t) = restrict sink h.received := by
  have same : h.read t = h.received := by
    rw [Traffic.read, List.map_congr_left (g := id), List.map_id]
    intro entry member
    have inside := received entry member
    have queues : t.dispatcher.queues = t.sinks.length := by
      rw [sharded]
      exact Nat.max_eq_left (Nat.zero_lt_of_lt inside)
    rw [Topology.queueOf, queues, Nat.mod_eq_of_lt inside]
    rfl
  rw [same]

theorem select_of_sharded {rule : Record → UInt64} {sinks : Nat} (someSink : 0 < sinks)
    (sharded : t.dispatcher = .sharded rule sinks) (r : Record) :
    t.dispatcher.select r = (rule r).toNat % sinks := by
  rw [sharded]
  exact congrArg ((rule r).toNat % ·) (Nat.max_eq_left someSink)

/-- Whatever the order of events and the number of workers: with a shard field, an output is
received only by the sink whose number is the hash of the field, as the record holds it at the end
of the chain, modulo the number of sinks. With or without one, the outputs of every batch come into
each queue in the order of its lines. With one worker alone, what comes into a queue is a first part
of what the lines sent give for it, taken one after the other, and all of it is read in the end
unless all sinks of the queue return early. -/
theorem shard_affinity_and_order {w : Wiring} (built : w.build = .ok t) (feed : List Batch)
    (environment : Environment) (run : Run t (started t feed environment) h f) :
    ∃ log, Arrivals t h f log ∧
      (∀ name field (hash : Bytes → UInt64), w.shardField = some name →
        w.fields.indexOf? name = some field →
        (∀ r, w.shardRules.rule field r = hash (r.get field)) →
          (∀ value, (hash value).toNat % w.sinks.length < w.sinks.length) ∧
          (∀ entry ∈ h.received, entry.1 < w.sinks.length) ∧
          ∀ sink, restrict sink h.received ++ f.queues.getD sink [] =
            ((log.filterMap (t.recordAt? h.sent)).filter fun r =>
              (hash (r.get field)).toNat % w.sinks.length = sink).map t.projection.project) ∧
      (w.workers = 1 → ∀ queue,
        f.arrived t h queue <+: restrict queue (h.sent.flatMap t.batchReference) ∧
        (f.stage = .drained → Attended t h queue →
          restrict queue (h.read t) = restrict queue (h.sent.flatMap t.batchReference))) := by
  have fits := Wiring.build_fits built
  have parts := Wiring.builds_to built
  have fresh := started_fresh t feed environment
  have shaped := run.shaped fits fresh
  obtain ⟨log, arrivals⟩ := run.arrivals fits fresh
  refine ⟨log, arrivals, ?_, ?_⟩
  · intro name field hash shard found rule
    have sharded := Wiring.dispatcher_of_shardField built shard found
    have someSink : 0 < w.sinks.length := List.length_pos_iff.mpr parts.someSink
    have received := run.received_lt fits fresh
    refine ⟨fun value => Nat.mod_lt _ someSink, ?_, ?_⟩
    · rw [← parts.sinks]
      exact received
    · intro sink
      have owned : t.dispatcher = .sharded (w.shardRules.rule field) t.sinks.length := by
        rw [parts.sinks]
        exact sharded
      have queue := arrivals.queues sink
      rw [arrived, restrict_read_of_sharded owned received] at queue
      rw [queue]
      simp only [select_of_sharded someSink sharded, rule]
  · intro one queue
    obtain ⟨lost, balance, gone⟩ := run.inLine fits fresh (parts.workers.trans one) queue
    constructor
    · exact ⟨lost ++ _, (List.append_assoc _ _ _).symm.trans balance⟩
    · intro drained attended
      obtain ⟨_, owed, input⟩ := workers_done fits shaped (run.draining fresh) drained
      have none : lost = [] := by
        by_contra some
        exact attended.not_deserted shaped (gone some)
      have empty := (arrivals.complete drained queue attended).1
      rw [arrived, empty, none, owed, input] at balance
      simpa using balance

/-- One worker that makes a record of each of the users of a line, and two sinks that share
the users. -/
def shardedWiring : Wiring where
  source := .noop
  sinks := [.null {}, .null {}]
  chain := Chain.make [(BuiltIn.split ⟨0, [59], false, none, by decide⟩).filter] .drop
  fields := FieldMap.empty.add "user" (by decide) (by decide)
  shardField := some "user"
  inputQueueSize := 1
  sinkQueueSize := 1
  uploadQueueSize := 1

def shardedTopology : Topology where
  source := .noop
  sinks := [.null {}, .null {}]
  uploader := .noop 0
  chain := Chain.make [(BuiltIn.split ⟨0, [59], false, none, by decide⟩).filter] .drop
  layout := .standard
  fields := FieldMap.empty.add "user" (by decide) (by decide)
  validator := none
  projection := ⟨[], .raw⟩
  dispatcher := .sharded (ShardRules.rule [] 0) 2
  inputQueueSize := 1
  sinkQueueSize := 1
  uploadQueueSize := 1
  workers := 1

/-- The lines are `a;d` and `d`, then `d;a`. The users `a` and `d` belong to different sinks. -/
def shardedFeed : List Batch := [⟨[97, 59, 100, 10, 100, 10], none⟩, ⟨[100, 59, 97, 10], none⟩]

/-- The worker has to wait for each of the sinks. -/
def shardedEvents : List FlowEvent :=
  [.send, .take 0, .send, .processLine 0, .deliver 0, .deliver 0, .processLine 0, .deliver 0,
    .receive 0, .deliver 0, .release 0, .take 0, .processLine 0, .deliver 0, .receive 0, .deliver 0,
    .deliver 0, .receive 1, .deliver 0, .release 0, .drain, .sourceReturns (.ok ()), .join,
    .workerReturns 0, .join, .receive 1, .receive 0, .close 0, .close 1, .sinkReturns 0,
    .sinkReturns 1, .join, .uploaderReturns, .join]

theorem sharded_shard_affinity_and_order :
    shardedWiring.build = .ok shardedTopology ∧
      ∃ h f log, Run shardedTopology (started shardedTopology shardedFeed {}) h f ∧
        f.stage = .drained ∧ Arrivals shardedTopology h f log ∧
        (∀ sink, restrict sink h.received ++ f.queues.getD sink [] =
          ((log.filterMap (shardedTopology.recordAt? h.sent)).filter fun r =>
            (FieldHash.hash (r.get 0)).toNat % 2 = sink).map shardedTopology.projection.project) ∧
        restrict 0 (h.read shardedTopology) =
          [⟨[], some [100]⟩, ⟨[], some [100]⟩, ⟨[], some [100]⟩] ∧
        restrict 1 (h.read shardedTopology) = [⟨[], some [97]⟩, ⟨[], some [97]⟩] := by
  have built : shardedWiring.build = .ok shardedTopology := rfl
  have outcome : (follow shardedTopology shardedEvents {}
      (started shardedTopology shardedFeed {})).map (fun p => (p.1.early, p.2.stage, p.1.sent)) =
        some ([], .drained, shardedFeed) := by decide +kernel
  obtain ⟨⟨h, f⟩, followed, facts⟩ := Option.map_eq_some_iff.mp outcome
  simp only [Prod.mk.injEq] at facts
  obtain ⟨patient, drained, sent⟩ := facts
  have run := Run.start.follow followed
  obtain ⟨log, arrivals, sharded, sequential⟩ :=
    shard_affinity_and_order built shardedFeed {} run
  obtain ⟨_, _, owned⟩ := sharded "user" 0 FieldHash.hash rfl rfl fun _ => rfl
  have reference : shardedFeed.flatMap shardedTopology.batchReference =
      [(1, ⟨[], some [97]⟩), (0, ⟨[], some [100]⟩), (0, ⟨[], some [100]⟩),
        (0, ⟨[], some [100]⟩), (1, ⟨[], some [97]⟩)] := by decide +kernel
  have attended : ∀ sink < 2, Attended shardedTopology h sink := by
    intro sink inside
    refine ⟨sink, inside, Nat.mod_eq_of_lt inside, ?_⟩
    rw [patient]
    exact List.not_mem_nil
  have first := (sequential rfl 0).2 drained (attended 0 (by decide))
  have second := (sequential rfl 1).2 drained (attended 1 (by decide))
  rw [sent, reference] at first second
  exact ⟨built, h, f, log, run, drained, arrivals, owned, first, second⟩

end Flow

end RecordPipeline
