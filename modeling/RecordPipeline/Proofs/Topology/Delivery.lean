import Mathlib.Data.List.Perm.Basic
import RecordPipeline.Proofs.Topology.Run

/-!
Every output is delivered exactly once. At any time, the outputs that sinks have received, those in
the queues, those that workers still have to deliver and those of the batches that wait for a worker
are together a permutation of the outputs of all batches sent, and every batch sent is with the
source again, with a worker, or waiting.
-/

namespace RecordPipeline

/-- Replacing one list of many moves its elements out and the new ones in. -/
theorem flatten_set_perm {α : Type} {lists : List (List α)} {i : Nat} {old : List α}
    (found : lists[i]? = some old) (new : List α) :
    ((lists.set i new).flatten ++ old).Perm (lists.flatten ++ new) := by
  obtain ⟨inside, rfl⟩ := List.getElem?_eq_some_iff.mp found
  have hset := (List.set_perm_cons_eraseIdx inside new).flatten
  have hold := (List.getElem_cons_eraseIdx_perm inside).flatten
  rw [List.flatten_cons] at hset hold
  calc
    List.Perm ((lists.set i new).flatten ++ lists[i])
        (new ++ (lists.eraseIdx i).flatten ++ lists[i]) := hset.append_right _
    List.Perm _ (new ++ (lists[i] ++ (lists.eraseIdx i).flatten)) := by
      rw [List.append_assoc]
      exact List.perm_append_comm.append_left new
    List.Perm _ (new ++ lists.flatten) := hold.append_left new
    List.Perm _ (lists.flatten ++ new) := List.perm_append_comm

/-- Replacing one of many things moves its parts out and the parts of the new one in. -/
theorem flatMap_set_perm {α β : Type} {l : List α} {i : Nat} {old : α} (found : l[i]? = some old)
    (new : α) (parts : α → List β) :
    ((l.set i new).flatMap parts ++ parts old).Perm (l.flatMap parts ++ parts new) := by
  rw [List.flatMap_def, List.flatMap_def, List.map_set]
  apply flatten_set_perm
  rw [List.getElem?_map, found]
  rfl

/-- The outputs that a worker has still to deliver: those in its outbox and those of the lines that
it has not taken up. -/
def FilterWorker.owed (t : Topology) : FilterWorker → List (Nat × Output)
  | .busy b lines outbox _ => outbox ++ lines.flatMap (t.reference b.metadata)
  | .idle | .returned => []

/-- The outputs that sinks have read, each with its queue. -/
def Traffic.read (t : Topology) (h : Traffic) : List (Nat × Output) :=
  h.received.map fun entry => (t.queueOf entry.1, entry.2)

namespace Flow

/-- The batches that workers have. -/
def held (f : Flow) : List Batch := f.workers.flatMap FilterWorker.held

/-- The outputs that workers have still to deliver. -/
def owed (t : Topology) (f : Flow) : List (Nat × Output) :=
  f.workers.flatMap (FilterWorker.owed t)

/-- The outputs in the queues, each with its queue. -/
def queued (f : Flow) : List (Nat × Output) :=
  (f.queues.mapIdx fun i q => q.map (i, ·)).flatten

variable {t : Topology} {f g : Flow}

theorem held_setWorker {i : Nat} {w : FilterWorker} (found : f.workers[i]? = some w)
    (w' : FilterWorker) : ((f.setWorker i w').held ++ w.held).Perm (f.held ++ w'.held) :=
  flatMap_set_perm found w' FilterWorker.held

theorem owed_setWorker {i : Nat} {w : FilterWorker} (found : f.workers[i]? = some w)
    (w' : FilterWorker) :
    ((f.setWorker i w').owed t ++ w.owed t).Perm (f.owed t ++ w'.owed t) :=
  flatMap_set_perm found w' (FilterWorker.owed t)

/-- Workers without a batch have nothing and owe nothing. -/
theorem held_eq_nil (free : ∀ w ∈ f.workers, w = .idle ∨ w = .returned) :
    f.held = [] ∧ f.owed t = [] := by
  constructor
  · apply List.flatMap_eq_nil_iff.mpr
    intro w member
    rcases free w member with rfl | rfl
    · rfl
    · rfl
  · apply List.flatMap_eq_nil_iff.mpr
    intro w member
    rcases free w member with rfl | rfl
    · rfl
    · rfl

theorem queued_setQueue {i : Nat} {q : List Output} (found : f.queues[i]? = some q)
    (q' : List Output) :
    ((f.setQueue i q').queued ++ q.map (i, ·)).Perm (f.queued ++ q'.map (i, ·)) := by
  rw [queued, queued, setQueue, List.mapIdx_set]
  apply flatten_set_perm
  rw [List.getElem?_mapIdx, found]
  rfl

theorem queued_eq_nil (empty : ∀ q ∈ f.queues, q = []) : f.queued = [] := by
  apply List.flatten_eq_nil_iff.mpr
  intro l member
  obtain ⟨i, inside, rfl⟩ := List.mem_mapIdx.mp member
  rw [empty _ (List.getElem_mem inside), List.map_nil]

/-- Where the batches and the outputs of a run are. -/
structure Accounts (t : Topology) (feed : List Batch) (h : Traffic) (f : Flow) : Prop where
  sent : h.sent ++ f.feed = feed
  batches : (h.released ++ f.held ++ f.input).Perm h.sent
  released : f.released = h.released.length
  outputs : (h.read t ++ f.queued ++ f.owed t ++ f.input.flatMap t.batchReference).Perm
    (h.sent.flatMap t.batchReference)
  emitted : f.tally.emitted = (h.read t ++ f.queued).length
  undelivered : f.tally.undelivered = 0

namespace Accounts

variable {feed : List Batch} {h : Traffic}

theorem send (inv : Accounts t feed h f) {b : Batch} {rest : List Batch}
    (next : f.feed = b :: rest) :
    Accounts t feed (h.note t f .send) { f with feed := rest, input := f.input ++ [b] } := by
  have noted : h.note t f .send = { h with sent := h.sent ++ [b] } := by
    rw [Traffic.note, next]
    rfl
  have sent : (h.sent ++ [b]) ++ rest = feed := by
    rw [List.append_assoc, List.singleton_append, ← next, inv.sent]
  have batches : (h.released ++ f.held ++ (f.input ++ [b])).Perm (h.sent ++ [b]) := by
    rw [← List.append_assoc]
    exact inv.batches.append_right [b]
  have outputs : (h.read t ++ f.queued ++ f.owed t ++ (f.input ++ [b]).flatMap
      t.batchReference).Perm ((h.sent ++ [b]).flatMap t.batchReference) := by
    rw [List.flatMap_append, List.flatMap_append, ← List.append_assoc]
    exact inv.outputs.append_right _
  rw [noted]
  exact { inv with sent, batches, outputs }

/-- A worker that still has its batch, and owes the same outputs, leaves the accounts as they are.
-/
theorem setWorker (inv : Accounts t feed h f) {i : Nat} {w : FilterWorker}
    (found : f.workers[i]? = some w) (w' : FilterWorker) (sameBatch : w'.held = w.held)
    (sameOutputs : w'.owed t = w.owed t) : Accounts t feed h (f.setWorker i w') := by
  have heldMoved := held_setWorker found w'
  have owedMoved := owed_setWorker (t := t) found w'
  rw [sameBatch] at heldMoved
  rw [sameOutputs] at owedMoved
  have batches : (h.released ++ (f.setWorker i w').held ++ f.input).Perm h.sent := by
    have sameHeld := (List.perm_append_right_iff w.held).mp heldMoved
    exact ((sameHeld.append_left _).append_right _).trans inv.batches
  have outputs : (h.read t ++ f.queued ++ (f.setWorker i w').owed t ++ f.input.flatMap
      t.batchReference).Perm (h.sent.flatMap t.batchReference) := by
    have sameOwed := (List.perm_append_right_iff (w.owed t)).mp owedMoved
    exact ((sameOwed.append_left _).append_right _).trans inv.outputs
  exact { inv with batches, outputs }

theorem take (inv : Accounts t feed h f) {i : Nat} {b : Batch} {rest : List Batch}
    (idle : f.workers[i]? = some .idle) (next : f.input = b :: rest) :
    Accounts t feed h
      ({ f with input := rest, tally := f.tally.addBatch b.data.length }.setWorker i
        (.busy b b.lines [] false)) := by
  have heldMoved := held_setWorker idle (.busy b b.lines [] false)
  have owedMoved := owed_setWorker (t := t) idle (.busy b b.lines [] false)
  have batches : (h.released ++ (f.setWorker i (.busy b b.lines [] false)).held ++ rest).Perm
      h.sent := by
    apply List.perm_iff_count.mpr
    intro x
    have before := inv.batches.count_eq x
    have moved := heldMoved.count_eq x
    rw [next] at before
    simp only [FilterWorker.held, List.count_append, List.count_cons, List.count_nil] at *
    omega
  have outputs : (h.read t ++ f.queued ++ (f.setWorker i (.busy b b.lines [] false)).owed t ++
      rest.flatMap t.batchReference).Perm (h.sent.flatMap t.batchReference) := by
    apply List.perm_iff_count.mpr
    intro x
    have before := inv.outputs.count_eq x
    have moved := owedMoved.count_eq x
    rw [next] at before
    simp only [FilterWorker.owed, Topology.batchReference, List.flatMap_cons, List.nil_append,
      List.append_nil, List.count_append] at *
    omega
  exact { inv with batches, outputs }

theorem deliver (inv : Accounts t feed h f) {i : Nat} {b : Batch} {lines : List Bytes}
    {queue : Nat} {o : Output} {outbox : List (Nat × Output)} {isWaiting : Bool}
    (busy : f.workers[i]? = some (.busy b lines ((queue, o) :: outbox) isWaiting))
    (inside : queue < f.queues.length) :
    Accounts t feed h
      (({ f with tally := f.tally.addEmitted }.setWorker i (.busy b lines outbox false)).setQueue
        queue (f.queues.getD queue [] ++ [o])) := by
  have found : f.queues[queue]? = some (f.queues.getD queue []) := by
    rw [List.getD_eq_getElem?_getD, List.getElem?_eq_getElem inside, Option.getD_some]
  have heldMoved := held_setWorker busy (.busy b lines outbox false)
  have owedMoved := owed_setWorker (t := t) busy (.busy b lines outbox false)
  have queueMoved := queued_setQueue found (f.queues.getD queue [] ++ [o])
  rw [List.map_append, List.map_singleton] at queueMoved
  have batches : (h.released ++ (f.setWorker i (.busy b lines outbox false)).held ++
      f.input).Perm h.sent := by
    have sameHeld := (List.perm_append_right_iff [b]).mp heldMoved
    exact ((sameHeld.append_left _).append_right _).trans inv.batches
  have outputs : (h.read t ++ (f.setQueue queue (f.queues.getD queue [] ++ [o])).queued ++
      (f.setWorker i (.busy b lines outbox false)).owed t ++ f.input.flatMap
        t.batchReference).Perm (h.sent.flatMap t.batchReference) := by
    apply List.perm_iff_count.mpr
    intro x
    have before := inv.outputs.count_eq x
    have owedBefore := owedMoved.count_eq x
    have queueBefore := queueMoved.count_eq x
    simp only [FilterWorker.owed, List.cons_append, List.count_append, List.count_cons,
      List.count_nil] at *
    omega
  have emitted : f.tally.emitted + 1 =
      (h.read t ++ (f.setQueue queue (f.queues.getD queue [] ++ [o])).queued).length := by
    have before := inv.emitted
    have lengths := queueMoved.length_eq
    simp only [List.length_append, List.length_map, List.length_singleton] at *
    omega
  exact { inv with batches, outputs, emitted }

theorem release (inv : Accounts t feed h f) {i : Nat} {b : Batch} {isWaiting : Bool}
    (busy : f.workers[i]? = some (.busy b [] [] isWaiting)) :
    Accounts t feed (h.note t f (.release i))
      ({ f with released := f.released + 1 }.setWorker i .idle) := by
  have noted : h.note t f (.release i) = { h with released := h.released ++ [b] } := by
    rw [Traffic.note, busy]
    rfl
  have heldMoved := held_setWorker busy .idle
  have owedMoved := owed_setWorker (t := t) busy .idle
  have batches : (h.released ++ [b] ++ (f.setWorker i .idle).held ++ f.input).Perm h.sent := by
    apply List.perm_iff_count.mpr
    intro x
    have before := inv.batches.count_eq x
    have moved := heldMoved.count_eq x
    simp only [FilterWorker.held, List.count_append, List.count_cons, List.count_nil] at *
    omega
  have outputs : (h.read t ++ f.queued ++ (f.setWorker i .idle).owed t ++ f.input.flatMap
      t.batchReference).Perm (h.sent.flatMap t.batchReference) := by
    have sameOwed := (List.perm_append_right_iff []).mp owedMoved
    exact ((sameOwed.append_left _).append_right _).trans inv.outputs
  have released : f.released + 1 = (h.released ++ [b]).length := by
    rw [List.length_append, ← inv.released, List.length_singleton]
  rw [noted]
  exact { inv with batches, outputs, released }

theorem receive (inv : Accounts t feed h f) {i : Nat} {s : SinkWorker} {o : Output}
    {rest : List Output} (next : f.queues.getD (t.queueOf i) [] = o :: rest)
    (environment : Environment) :
    Accounts t feed (h.note t f (.receive i))
      (({ f with environment }.setSink i s).setQueue (t.queueOf i) rest) := by
  have noted : h.note t f (.receive i) = { h with received := h.received ++ [(i, o)] } := by
    rw [Traffic.note, next]
    rfl
  have found : f.queues[t.queueOf i]? = some (o :: rest) := by
    rw [List.getD_eq_getElem?_getD] at next
    cases inside : f.queues[t.queueOf i]? with
    | none =>
        rw [inside] at next
        cases next
    | some q =>
        rw [inside, Option.getD_some] at next
        rw [next]
  have queueMoved := queued_setQueue found rest
  have read : Traffic.read t { h with received := h.received ++ [(i, o)] } =
      h.read t ++ [(t.queueOf i, o)] := by
    rw [Traffic.read, List.map_append]
    rfl
  rw [List.map_cons] at queueMoved
  have outputs : (h.read t ++ [(t.queueOf i, o)] ++ (f.setQueue (t.queueOf i) rest).queued ++
      f.owed t ++ f.input.flatMap t.batchReference).Perm (h.sent.flatMap t.batchReference) := by
    apply List.perm_iff_count.mpr
    intro x
    have before := inv.outputs.count_eq x
    have moved := queueMoved.count_eq x
    simp only [List.count_append, List.count_cons, List.count_nil] at *
    omega
  have emitted : f.tally.emitted =
      (h.read t ++ [(t.queueOf i, o)] ++ (f.setQueue (t.queueOf i) rest).queued).length := by
    have before := inv.emitted
    have lengths := queueMoved.length_eq
    simp only [List.length_append, List.length_cons, List.length_nil] at *
    omega
  rw [noted]
  rw [← read] at outputs emitted
  exact { inv with outputs, emitted }

end Accounts

/-- No sink returns before it has come to the end of its queue. -/
def Patient (f : Flow) : Prop := ∀ s ∈ f.sinks, s.hasReturned = true → s.isClosed = true

/-- Every sink that has returned had come to the end of its queue, or was seen to return early. -/
def ReturnsNoted (h : Traffic) (f : Flow) : Prop :=
  ∀ i s, f.sinks[i]? = some s → s.hasReturned = true → s.isClosed = true ∨ i ∈ h.early

theorem ReturnsNoted.setSink {h : Traffic} (inv : ReturnsNoted h f) {i : Nat} {s : SinkWorker}
    (found : f.sinks[i]? = some s) (s' : SinkWorker)
    (noted : s'.hasReturned = true → s'.isClosed = true ∨ i ∈ h.early) :
    ReturnsNoted h (f.setSink i s') := by
  intro j s'' found'
  rcases eq_or_ne j i with rfl | other
  · rw [Flow.setSink, List.getElem?_set_self (List.getElem?_eq_some_iff.mp found).1] at found'
    cases found'
    exact noted
  · rw [Flow.setSink, List.getElem?_set_ne other.symm] at found'
    exact inv j s'' found'

theorem ReturnsNoted.step {e : FlowEvent} {h : Traffic} (inv : ReturnsNoted h f)
    (step : Step t f e g) : ReturnsNoted (h.note t f e) g := by
  cases step with
  | @receive i s o rest found queue running announced =>
      exact inv.setSink found (s.accept o rest.isEmpty f.environment) (inv i s found)
  | @announce i s request outbox found pending running read room =>
      exact inv.setSink found { s with outbox } (inv i s found)
  | @forget i s request outbox found pending running unread =>
      exact inv.setSink found { s with outbox } (inv i s found)
  | @close i s found running isOpen announced closed queue =>
      exact inv.setSink found (s.close f.environment) fun _ => .inl rfl
  | @sinkReturns i s found running =>
      have before : ReturnsNoted (h.note t f (.sinkReturns i)) f :=
        fun j s' found' returned =>
          (inv j s' found' returned).imp_right (List.mem_append_left _)
      apply before.setSink found
      intro _
      cases closed : s.isClosed with
      | true => exact .inl rfl
      | false =>
          right
          simp [Traffic.note, found, closed]
  | send | sourceReturns | take | processLine | lose | deliver | wait | release | workerReturns
  | upload | uploaderReturns | drain | joinSource | joinFailedSource | joinWorkers | joinSinks
  | joinUploader => exact inv

theorem ReturnsNoted.patient {h : Traffic} (inv : ReturnsNoted h f) (none : h.early = []) :
    Patient f := by
  intro s member returned
  obtain ⟨i, found⟩ := List.mem_iff_getElem?.mp member
  rcases inv i s found returned with closed | early
  · exact closed
  · rw [none] at early
    cases early

/-- As long as no sink has returned, somebody reads every queue. -/
theorem hasReader_of_running (fits : t.Fits) (shaped : Shaped t f) {queue : Nat}
    (inside : queue < t.dispatcher.queues) (running : ∀ s ∈ f.sinks, s.hasReturned = false) :
    f.hasReader t queue = true := by
  obtain ⟨i, hi, reads⟩ := fits.exists_queueOf_eq inside
  rw [← shaped.sinks] at hi
  apply List.any_eq_true.mpr
  refine ⟨(f.sinks[i], i), ?_, ?_⟩
  · exact List.mk_mem_zipIdx_iff_getElem?.mpr (List.getElem?_eq_getElem hi)
  · simp [reads, running f.sinks[i] (List.getElem_mem hi)]

/-- Every event keeps the accounts, as long as the sinks are patient. -/
theorem Accounts.step {e : FlowEvent} {feed : List Batch} {h : Traffic} (fits : t.Fits)
    (shaped : Shaped t f) (draining : Draining t f) (patient : Patient f)
    (inv : Accounts t feed h f) (step : Step t f e g) : Accounts t feed (h.note t f e) g := by
  cases step with
  | send next running room => exact inv.send next
  | take idle next => exact inv.take idle next
  | @processLine i b line lines isWaiting busy =>
      obtain ⟨emitted, undelivered⟩ := t.processLine_tally f.tally f.filters b.metadata line
      have outputs := t.processLine_outputs f.tally f.filters b.metadata line
      have goesOn := inv.setWorker busy (.busy b lines
        (t.processLine f.tally f.filters b.metadata line).outputs false) rfl (by
          rw [outputs]
          rfl)
      exact { goesOn with
        emitted := emitted.trans inv.emitted
        undelivered := undelivered.trans inv.undelivered }
  | lose busy unread =>
      -- A worker at work keeps the queues open, so no patient sink has returned.
      have running : ∀ s ∈ f.sinks, s.hasReturned = false := by
        intro s member
        apply eq_false_of_ne_true
        intro returned
        have isOpen := draining.sinkOpen busy nofun s member
        exact absurd (patient s member returned) (ne_true_of_eq_false isOpen)
      have read := hasReader_of_running fits shaped (shaped.outbox_tail busy).1 running
      rw [unread] at read
      cases read
  | deliver busy read room =>
      have inside := (shaped.outbox_tail busy).1
      rw [← shaped.queues] at inside
      exact inv.deliver busy inside
  | wait busy read full => exact { inv.setWorker busy (.busy _ _ _ true) rfl rfl with }
  | release busy => exact inv.release busy
  | workerReturns idle closed input => exact inv.setWorker idle .returned rfl rfl
  | receive found next running announced => exact inv.receive next _
  | sourceReturns | announce | forget | close | sinkReturns | upload | uploaderReturns | drain
  | joinSource | joinFailedSource | joinWorkers | joinSinks | joinUploader => exact { inv with }

theorem Fresh.returnsNoted (fresh : Fresh t f) (h : Traffic) : ReturnsNoted h f := by
  intro i s found returned
  have running := (fresh.running s (List.mem_of_getElem? found)).2.2
  exact absurd returned (ne_true_of_eq_false running)

/-- In every run the early returns of sinks are noted. -/
theorem Run.returnsNoted {start : Flow} {h : Traffic} (fresh : Fresh t start)
    (run : Run t start h f) : ReturnsNoted h f := by
  induction run with
  | start => exact fresh.returnsNoted {}
  | step _ fired ih => exact ih.step (step_of_fire fired)

/-- Before anything has happened there is nothing to account for. -/
theorem Fresh.accounts (fresh : Fresh t f) : Accounts t f.feed {} f := by
  have idle : ∀ w ∈ f.workers, w = .idle ∨ w = .returned := by
    intro w member
    rw [fresh.workers] at member
    exact .inl (List.eq_of_mem_replicate member)
  obtain ⟨held, owed⟩ := held_eq_nil (t := t) idle
  have queued : f.queued = [] := by
    apply queued_eq_nil
    intro q member
    rw [fresh.queues] at member
    exact List.eq_of_mem_replicate member
  refine ⟨rfl, ?_, fresh.released, ?_, ?_, ?_⟩
  · rw [held, fresh.input]
    exact List.Perm.nil
  · rw [queued, owed, fresh.input]
    exact List.Perm.nil
  · rw [queued, fresh.tally]
    rfl
  · rw [fresh.tally]
    rfl

/-- A run in which no sink returns early keeps sinks patient and the accounts balanced. -/
theorem Run.accounts {start : Flow} {h : Traffic} (fits : t.Fits) (fresh : Fresh t start)
    (run : Run t start h f) (patient : h.early = []) :
    Patient f ∧ Accounts t start.feed h f := by
  refine ⟨(run.returnsNoted fresh).patient patient, ?_⟩
  induction run with
  | start => exact fresh.accounts
  | step before fired ih =>
      have patientBefore := Traffic.early_of_note t _ _ _ patient
      exact (ih patientBefore).step fits (before.shaped fits fresh) (before.draining fresh)
        ((before.returnsNoted fresh).patient patientBefore) (step_of_fire fired)

/-- At the end of the drain no worker has a batch, and none waits for one. -/
theorem workers_done (fits : t.Fits) (shaped : Shaped t f) (draining : Draining t f)
    (drained : f.stage = .drained) : f.held = [] ∧ f.owed t = [] ∧ f.input = [] := by
  have queuesClosed : f.areQueuesClosed = true := by simp [areQueuesClosed, isInputClosed, drained]
  have returned := draining.workersReturned queuesClosed
  have input : f.input = [] := by
    -- There is at least one worker, and it returned with nothing in the source queue.
    have inside : 0 < f.workers.length := by
      rw [shaped.workers]
      exact fits.workers
    have member := List.getElem_mem inside
    rw [returned _ member] at member
    exact (draining.workerReturned member).2
  obtain ⟨held, owed⟩ := held_eq_nil (t := t) fun w member => .inr (returned w member)
  exact ⟨held, owed, input⟩

/-- At the end of the drain nothing is left with a worker, in the source queue or in a queue of
outputs. -/
theorem nothing_left (fits : t.Fits) (shaped : Shaped t f) (draining : Draining t f)
    (patient : Patient f) (drained : f.stage = .drained) :
    f.held = [] ∧ f.owed t = [] ∧ f.input = [] ∧ f.queued = [] := by
  obtain ⟨held, owed, input⟩ := workers_done fits shaped draining drained
  have queued : f.queued = [] := by
    apply queued_eq_nil
    intro q member
    -- Every queue has a sink, which closed only when it found the queue empty.
    obtain ⟨queue, inside, rfl⟩ := List.getElem_of_mem member
    have hqueue := inside
    rw [shaped.queues] at hqueue
    obtain ⟨i, hi, reads⟩ := fits.exists_queueOf_eq hqueue
    rw [← shaped.sinks] at hi
    have member := List.getElem_mem hi
    have closed := patient _ member (draining.sinksReturned (.inr drained) _ member)
    have empty := (draining.sinkClosed i _ (List.getElem?_eq_getElem hi) closed).2
    rwa [reads, List.getD_eq_getElem?_getD, List.getElem?_eq_getElem inside,
      Option.getD_some] at empty
  exact ⟨held, owed, input, queued⟩

/-- When the drain of a topology that was built has come to its end, whatever the order of events
and whatever the source has returned, and no sink has returned before its queue was closed and
empty: what the source has sent is a first part of what it had, every batch sent was released
exactly once, and the sinks have received exactly the outputs of the lines of these batches, each
line taken alone. All of them are counted as emitted and none as lost, and the error that is left is
the one of the source. -/
theorem delivers_exactly_once {w : Wiring} (built : w.build = .ok t) (feed : List Batch)
    (environment : Environment) {h : Traffic} (run : Run t (started t feed environment) h f)
    (patient : h.early = []) (drained : f.stage = .drained) :
    h.sent ++ f.feed = feed ∧
      h.released.Perm h.sent ∧ f.released = h.sent.length ∧
      (h.received.map Prod.snd).Perm ((h.sent.flatMap t.batchReference).map Prod.snd) ∧
      f.tally.emitted = (h.sent.flatMap t.batchReference).length ∧ f.tally.undelivered = 0 ∧
      ∃ result, f.sourceResult = some result ∧ f.error = ComponentError.of? result := by
  have fits := Wiring.build_fits built
  have fresh := started_fresh t feed environment
  have draining := run.draining fresh
  obtain ⟨patientSinks, accounts⟩ := run.accounts fits fresh patient
  obtain ⟨held, owed, input, queued⟩ :=
    nothing_left fits (run.shaped fits fresh) draining patientSinks drained
  have released : h.released.Perm h.sent := by
    simpa [held, input] using accounts.batches
  have outputs : (h.read t).Perm (h.sent.flatMap t.batchReference) := by
    simpa [queued, owed, input] using accounts.outputs
  have received : (h.read t).map Prod.snd = h.received.map Prod.snd := by
    rw [Traffic.read, List.map_map]
    rfl
  refine ⟨accounts.sent, released, ?_, ?_, ?_, accounts.undelivered, ?_⟩
  · rw [accounts.released, released.length_eq]
  · rw [← received]
    exact outputs.map Prod.snd
  · rw [accounts.emitted, queued, List.append_nil, outputs.length_eq]
  · have inputClosed : f.isInputClosed = true := by simp [isInputClosed, drained]
    obtain ⟨result, returned⟩ := Option.isSome_iff_exists.mp (draining.sourceReturned inputClosed)
    refine ⟨result, returned, ?_⟩
    rw [draining.error, inputClosed, returned]
    rfl

/-- Two workers and two sinks, with room for one batch and for one output. -/
def narrowWiring : Wiring where
  source := .noop
  sinks := [.null {}, .null {}]
  inputQueueSize := 1
  sinkQueueSize := 1
  uploadQueueSize := 1
  workers := 2

def narrowTopology : Topology where
  source := .noop
  sinks := [.null {}, .null {}]
  uploader := .noop 0
  chain := { filters := [] }
  layout := .standard
  fields := .empty
  validator := none
  projection := ⟨[], .raw⟩
  dispatcher := .single
  inputQueueSize := 1
  sinkQueueSize := 1
  uploadQueueSize := 1
  workers := 2

/-- Two lines, one line and another line. -/
def narrowFeed : List Batch := [⟨[97, 10, 98, 10], none⟩, ⟨[99, 10], none⟩, ⟨[100, 10], none⟩]

/-- The source sends two batches and fails while the first is half done. An output of this batch had
to wait for one of the other. -/
def narrowEvents : List FlowEvent :=
  [.send, .take 0, .send, .take 1, .processLine 0, .processLine 1, .deliver 1, .deliver 0,
    .receive 1, .deliver 0, .release 1, .receive 0, .processLine 0, .drain,
    .sourceReturns (.error (.failed "lost")), .join, .deliver 0, .release 0, .workerReturns 0,
    .workerReturns 1, .join, .receive 1, .close 0, .close 1, .sinkReturns 0, .sinkReturns 1, .join,
    .uploaderReturns, .join]

theorem narrow_delivers_exactly_once :
    narrowWiring.build = .ok narrowTopology ∧
      ∃ h f, Run narrowTopology (started narrowTopology narrowFeed {}) h f ∧ h.early = [] ∧
        f.stage = .drained ∧ f.error = some (.failed "lost") ∧ h.sent = narrowFeed.take 2 ∧
        h.released.Perm h.sent ∧ f.released = 2 ∧
        (h.received.map Prod.snd).Perm
          [⟨[], some [97]⟩, ⟨[], some [98]⟩, ⟨[], some [99]⟩] ∧
        f.tally.emitted = 3 ∧ f.tally.undelivered = 0 := by
  have built : narrowWiring.build = .ok narrowTopology := rfl
  have outcome : (follow narrowTopology narrowEvents {} (started narrowTopology narrowFeed {})).map
      (fun p => (p.1.early, p.2.stage, p.2.error, p.1.sent)) =
        some ([], .drained, some (.failed "lost"), narrowFeed.take 2) := by decide +kernel
  obtain ⟨⟨h, f⟩, followed, facts⟩ := Option.map_eq_some_iff.mp outcome
  simp only [Prod.mk.injEq] at facts
  obtain ⟨patient, drained, error, sent⟩ := facts
  have run := Run.start.follow followed
  obtain ⟨_, released, count, received, emitted, undelivered, _⟩ :=
    delivers_exactly_once built narrowFeed {} run patient drained
  have reference : (narrowFeed.take 2).flatMap narrowTopology.batchReference =
      [(0, ⟨[], some [97]⟩), (0, ⟨[], some [98]⟩), (0, ⟨[], some [99]⟩)] := by decide +kernel
  rw [sent, reference] at received emitted
  rw [sent] at count
  exact ⟨built, h, f, run, patient, drained, error, sent, released, count, received, emitted,
    undelivered⟩

end Flow

end RecordPipeline
