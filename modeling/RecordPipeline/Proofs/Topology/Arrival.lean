import RecordPipeline.Proofs.Topology.Delivery

/-!
Which output comes into which queue, and in which order. Whatever the order of events, each output
goes to the queue that its record chooses, once at most, and the outputs of one batch come into
their queues in the order of the lines. One worker alone fills every queue in the order of all
lines.
-/

namespace RecordPipeline

namespace Topology

/-- The records that come to the end of the chain for the lines of a batch, one line after the
other. -/
def batchSurvivors (t : Topology) (b : Batch) : List Record :=
  b.lines.flatMap (t.survivors b.metadata)

/-- The record at a place: the number of its batch among those sent, and its own number among the
records of this batch. -/
def recordAt? (t : Topology) (sent : List Batch) (place : Nat × Nat) : Option Record :=
  sent[place.1]?.bind fun b => (t.batchSurvivors b)[place.2]?

theorem batchReference_eq (t : Topology) (b : Batch) :
    t.batchReference b = (t.batchSurvivors b).map fun r =>
      (t.dispatcher.select r, t.projection.project r) := by
  rw [batchReference, batchSurvivors, List.map_flatMap]
  rfl

theorem lt_of_recordAt?_eq_some {t : Topology} {sent : List Batch} {place : Nat × Nat} {r : Record}
    (found : t.recordAt? sent place = some r) : place.1 < sent.length := by
  obtain ⟨b, batch, _⟩ := Option.bind_eq_some_iff.mp found
  exact (List.getElem?_eq_some_iff.mp batch).1

theorem recordAt?_append {t : Topology} {sent : List Batch} {place : Nat × Nat}
    (inside : place.1 < sent.length) (more : List Batch) :
    t.recordAt? (sent ++ more) place = t.recordAt? sent place := by
  rw [recordAt?, recordAt?, List.getElem?_append_left inside]

end Topology

/-- The outputs among these that belong to one queue. -/
def restrict (queue : Nat) (outputs : List (Nat × Output)) : List Output :=
  (outputs.filter fun entry => entry.1 = queue).map Prod.snd

@[simp] theorem restrict_nil (queue : Nat) : restrict queue [] = [] := rfl

@[simp] theorem restrict_append (queue : Nat) (first second : List (Nat × Output)) :
    restrict queue (first ++ second) = restrict queue first ++ restrict queue second := by
  rw [restrict, List.filter_append, List.map_append]
  rfl

theorem mem_restrict {queue : Nat} {o : Output} {outputs : List (Nat × Output)} :
    o ∈ restrict queue outputs ↔ (queue, o) ∈ outputs := by
  simp [restrict]

theorem restrict_cons_self (queue : Nat) (o : Output) (rest : List (Nat × Output)) :
    restrict queue ((queue, o) :: rest) = o :: restrict queue rest := by
  simp [restrict]

theorem restrict_cons_of_ne {queue other : Nat} (h : other ≠ queue) (o : Output)
    (rest : List (Nat × Output)) : restrict queue ((other, o) :: rest) = restrict queue rest := by
  simp [restrict, h]

/-- The outputs of records in one queue are those of the records that choose it. -/
theorem restrict_map (t : Topology) (queue : Nat) (records : List Record) :
    restrict queue (records.map fun r => (t.dispatcher.select r, t.projection.project r)) =
      (records.filter fun r => t.dispatcher.select r = queue).map t.projection.project := by
  rw [restrict, List.filter_map, List.map_map]
  rfl

namespace Flow

/-- All that has come into a queue, in order: what sinks have read from it, then what is in it. -/
def arrived (t : Topology) (h : Traffic) (f : Flow) (queue : Nat) : List Output :=
  restrict queue (h.read t) ++ f.queues.getD queue []

/-- The batch that a worker has, by the number of the worker. -/
def heldBy (f : Flow) (i : Nat) : List Batch := f.workers[i]?.toList.flatMap FilterWorker.held

/-- What a worker has still to deliver, by the number of the worker. -/
def owedBy (t : Topology) (f : Flow) (i : Nat) : List (Nat × Output) :=
  f.workers[i]?.toList.flatMap (FilterWorker.owed t)

/-- All sinks of a queue have returned before they came to its end. -/
def Deserted (t : Topology) (h : Traffic) (f : Flow) (queue : Nat) : Prop :=
  ∀ i s, f.sinks[i]? = some s → t.queueOf i = queue → s.hasReturned = true ∧ i ∈ h.early

variable {t : Topology} {f g : Flow} {h : Traffic}

theorem heldBy_eq {i : Nat} {w : FilterWorker} (found : f.workers[i]? = some w) :
    f.heldBy i = w.held := by
  rw [heldBy, found, Option.toList_some, List.flatMap_singleton]

theorem owedBy_eq {i : Nat} {w : FilterWorker} (found : f.workers[i]? = some w) :
    f.owedBy t i = w.owed t := by
  rw [owedBy, found, Option.toList_some, List.flatMap_singleton]

theorem getElem?_setWorker_self {i : Nat} {w : FilterWorker} (found : f.workers[i]? = some w)
    (w' : FilterWorker) : (f.setWorker i w').workers[i]? = some w' := by
  have inside := (List.getElem?_eq_some_iff.mp found).1
  rw [setWorker, List.getElem?_set_self inside]

theorem heldBy_setWorker_of_ne {i j : Nat} (other : j ≠ i) (w' : FilterWorker) :
    (f.setWorker i w').heldBy j = f.heldBy j := by
  rw [heldBy, heldBy, setWorker, List.getElem?_set_ne other.symm]

theorem owedBy_setWorker_of_ne {i j : Nat} (other : j ≠ i) (w' : FilterWorker) :
    (f.setWorker i w').owedBy t j = f.owedBy t j := by
  rw [owedBy, owedBy, setWorker, List.getElem?_set_ne other.symm]

theorem Fresh.arrived_eq_nil (fresh : Fresh t f) (queue : Nat) : f.arrived t {} queue = [] := by
  rw [arrived, fresh.queues, List.getD_eq_getElem?_getD, List.getElem?_replicate]
  split
  · rfl
  · rfl

/-- A queue with a sink that still reads it is not deserted. -/
theorem not_deserted {queue : Nat} (read : f.hasReader t queue = true) :
    ¬ Deserted t h f queue := by
  intro deserted
  obtain ⟨⟨s, i⟩, member, reads⟩ := List.any_eq_true.mp read
  simp only [Bool.and_eq_true, decide_eq_true_eq, Bool.not_eq_true'] at reads
  have returned := (deserted i s (List.mem_zipIdx_iff_getElem?.mp member) reads.1).1
  rw [reads.2] at returned
  cases returned

/-- A queue that nobody reads although a worker is still at work is deserted: no sink can have come
to its end. -/
theorem deserted_of_unread (draining : Draining t f) (noted : ReturnsNoted h f) {i : Nat}
    {w : FilterWorker} (found : f.workers[i]? = some w) (running : w ≠ .returned) {queue : Nat}
    (unread : f.hasReader t queue = false) : Deserted t h f queue := by
  intro j s found' reads
  have returned : s.hasReturned = true := by
    have none := List.any_eq_false.mp unread (s, j) (List.mk_mem_zipIdx_iff_getElem?.mpr found')
    simpa [reads] using none
  refine ⟨returned, (noted j s found' returned).resolve_left ?_⟩
  have isOpen := draining.sinkOpen found running s (List.mem_of_getElem? found')
  exact ne_true_of_eq_false isOpen

/-- What a sink does that has not returned leaves deserted queues deserted. -/
theorem Deserted.setSink {queue : Nat} (deserted : Deserted t h f queue) {i : Nat} {s : SinkWorker}
    (found : f.sinks[i]? = some s) (running : s.hasReturned = false) (s' : SinkWorker) :
    Deserted t h (f.setSink i s') queue := by
  intro j s'' found' reads
  rcases eq_or_ne j i with rfl | other
  · have returned := (deserted j s found reads).1
    rw [running] at returned
    cases returned
  · rw [Flow.setSink, List.getElem?_set_ne other.symm] at found'
    exact deserted j s'' found' reads

/-- A deserted queue stays deserted. -/
theorem Deserted.step {queue : Nat} {e : FlowEvent} (deserted : Deserted t h f queue)
    (step : Step t f e g) : Deserted t (h.note t f e) g queue := by
  cases step with
  | receive found next running announced => exact deserted.setSink found running _
  | announce found pending running read room => exact deserted.setSink found running _
  | forget found pending running unread => exact deserted.setSink found running _
  | close found running isOpen announced closed empty => exact deserted.setSink found running _
  | @sinkReturns i s found running =>
      have before : Deserted t (h.note t f (.sinkReturns i)) f queue :=
        fun j s' found' reads =>
          (deserted j s' found' reads).imp_right (List.mem_append_left _)
      exact before.setSink found running _
  | send | sourceReturns | take | processLine | lose | deliver | wait | release | workerReturns
  | upload | uploaderReturns | drain | joinSource | joinFailedSource | joinWorkers | joinSinks
  | joinUploader => exact deserted

/-- Where the outputs of a run come from: the batches that workers have taken up, the place of the
next output of each worker, and the places of the outputs that have come into queues. -/
structure Tracked (t : Topology) (h : Traffic) (f : Flow) (taken : List Batch)
    (next : Nat → Nat × Nat) (log : List (Nat × Nat)) : Prop where
  sent : h.sent = taken ++ f.input
  busy : ∀ i, ∀ b ∈ f.heldBy i,
    taken[(next i).1]? = some b ∧ (t.batchReference b).drop (next i).2 = f.owedBy t i
  apart : ∀ i j, f.heldBy i ≠ [] → f.heldBy j ≠ [] → (next i).1 = (next j).1 → i = j
  behind : ∀ i, f.heldBy i ≠ [] → ∀ place ∈ log, place.1 = (next i).1 → place.2 < (next i).2
  known : ∀ place ∈ log, ∃ r, t.recordAt? taken place = some r
  inOrder : log.Pairwise fun a b => a.1 = b.1 → a.2 < b.2
  queues : ∀ queue, f.arrived t h queue =
    ((log.filterMap (t.recordAt? taken)).filter fun r => t.dispatcher.select r = queue).map
      t.projection.project
  complete : ∀ queue, ¬ Deserted t h f queue → ∀ place r, t.recordAt? taken place = some r →
    t.dispatcher.select r = queue →
      place ∈ log ∨ ∃ i, f.heldBy i ≠ [] ∧ place.1 = (next i).1 ∧ (next i).2 ≤ place.2

/-- What a sink reads has already come into its queue. -/
theorem arrived_receive {i : Nat} {o : Output} {rest : List Output}
    (next : f.queues.getD (t.queueOf i) [] = o :: rest) (queues : g.queues = f.queues)
    (queue : Nat) :
    (g.setQueue (t.queueOf i) rest).arrived t (h.note t f (.receive i)) queue =
      f.arrived t h queue := by
  have read : (h.note t f (.receive i)).read t = h.read t ++ [(t.queueOf i, o)] := by
    rw [Traffic.note, next, Traffic.read, List.map_append]
    rfl
  have inside : t.queueOf i < g.queues.length := queues ▸ lt_of_getD_eq_cons next
  rw [arrived, arrived, read, restrict_append]
  rcases eq_or_ne queue (t.queueOf i) with rfl | other
  · rw [getD_setQueue_self inside, restrict_cons_self, restrict_nil, next, List.append_assoc]
    rfl
  · rw [getD_setQueue_of_ne other, queues, restrict_cons_of_ne other.symm, restrict_nil,
      List.append_nil]

/-- An output that finds room comes to the end of its queue. -/
theorem arrived_deliver {queue : Nat} (inside : queue < f.queues.length) (o : Output)
    (queues : g.queues = f.queues) (queue' : Nat) :
    (g.setQueue queue (f.queues.getD queue [] ++ [o])).arrived t h queue' =
      f.arrived t h queue' ++ restrict queue' [(queue, o)] := by
  rw [arrived, arrived, List.append_assoc]
  rcases eq_or_ne queue queue' with rfl | other
  · rw [getD_setQueue_self (queues ▸ inside), restrict_cons_self, restrict_nil]
  · rw [getD_setQueue_of_ne other.symm, restrict_cons_of_ne other, restrict_nil, List.append_nil,
      queues]

namespace Tracked

variable {taken : List Batch} {next : Nat → Nat × Nat} {log : List (Nat × Nat)}

theorem lt_of_mem (inv : Tracked t h f taken next log) {place : Nat × Nat}
    (member : place ∈ log) : place.1 < taken.length := by
  obtain ⟨r, found⟩ := inv.known place member
  exact Topology.lt_of_recordAt?_eq_some found

/-- A worker that still has its batch, and owes the same outputs, changes no place. -/
theorem setWorker (inv : Tracked t h f taken next log) {i : Nat} {w : FilterWorker}
    (found : f.workers[i]? = some w) (w' : FilterWorker) (sameBatch : w'.held = w.held)
    (sameOutputs : w'.owed t = w.owed t) : Tracked t h (f.setWorker i w') taken next log := by
  have held : (f.setWorker i w').heldBy = f.heldBy := by
    funext j
    rcases eq_or_ne j i with rfl | other
    · rw [heldBy_eq (getElem?_setWorker_self found w'), heldBy_eq found, sameBatch]
    · exact heldBy_setWorker_of_ne other w'
  have owed : (f.setWorker i w').owedBy t = f.owedBy t := by
    funext j
    rcases eq_or_ne j i with rfl | other
    · rw [owedBy_eq (getElem?_setWorker_self found w'), owedBy_eq found, sameOutputs]
    · exact owedBy_setWorker_of_ne other w'
  exact { inv with
    busy := by rw [held, owed]; exact inv.busy
    apart := by rw [held]; exact inv.apart
    behind := by rw [held]; exact inv.behind
    complete := by rw [held]; exact inv.complete }

/-- A worker without a batch takes up the first one that waits. -/
theorem take (inv : Tracked t h f taken next log) {i : Nat} {b : Batch} {rest : List Batch}
    (idle : f.workers[i]? = some .idle) (input : f.input = b :: rest) :
    Tracked t h
      ({ f with input := rest, tally := f.tally.addBatch b.data.length }.setWorker i
        (.busy b b.lines [] false)) (taken ++ [b]) (Function.update next i (taken.length, 0)) log :=
    by
  have found := getElem?_setWorker_self idle (.busy b b.lines [] false)
  have heldSelf : (f.setWorker i (.busy b b.lines [] false)).heldBy i = [b] := heldBy_eq found
  have heldOther : ∀ j, j ≠ i → (f.setWorker i (.busy b b.lines [] false)).heldBy j = f.heldBy j :=
    fun j other => heldBy_setWorker_of_ne other _
  have owedSelf : (f.setWorker i (.busy b b.lines [] false)).owedBy t i = t.batchReference b := by
    rw [owedBy_eq found]
    rfl
  -- All batches that other workers have were taken up before this one.
  have earlier : ∀ j, f.heldBy j ≠ [] → (next j).1 < taken.length := by
    intro j holds
    obtain ⟨b', member⟩ := List.exists_mem_of_ne_nil _ holds
    exact (List.getElem?_eq_some_iff.mp (inv.busy j b' member).1).1
  have sent : h.sent = (taken ++ [b]) ++ rest := by
    rw [inv.sent, input, List.append_assoc, List.singleton_append]
  have stable : ∀ place : Nat × Nat, place.1 < taken.length →
      t.recordAt? (taken ++ [b]) place = t.recordAt? taken place :=
    fun place inside => Topology.recordAt?_append inside [b]
  refine { sent, busy := ?_, apart := ?_, behind := ?_, known := ?_, inOrder := inv.inOrder,
           queues := ?_, complete := ?_ }
  · intro j b' member
    rcases eq_or_ne j i with rfl | other
    · have same : b' = b := List.mem_singleton.mp (heldSelf ▸ member)
      rw [Function.update_self, same]
      refine ⟨List.getElem?_concat_length, ?_⟩
      exact owedSelf.symm
    · rw [Function.update_of_ne other]
      have member' : b' ∈ f.heldBy j := by
        rw [← heldOther j other]
        exact member
      obtain ⟨batch, owed⟩ := inv.busy j b' member'
      refine ⟨?_, owed.trans (owedBy_setWorker_of_ne other _).symm⟩
      rw [List.getElem?_append_left (List.getElem?_eq_some_iff.mp batch).1]
      exact batch
  · intro j k holdsJ holdsK same
    rcases eq_or_ne j i with rfl | otherJ
    · rcases eq_or_ne k j with rfl | otherK
      · rfl
      · rw [Function.update_self, Function.update_of_ne otherK] at same
        have before := earlier k ((heldOther k otherK) ▸ holdsK)
        omega
    · rcases eq_or_ne k i with rfl | otherK
      · rw [Function.update_self, Function.update_of_ne otherJ] at same
        have before := earlier j ((heldOther j otherJ) ▸ holdsJ)
        omega
      · rw [Function.update_of_ne otherJ, Function.update_of_ne otherK] at same
        exact inv.apart j k ((heldOther j otherJ) ▸ holdsJ) ((heldOther k otherK) ▸ holdsK) same
  · intro j holds place member same
    have before := inv.lt_of_mem member
    rcases eq_or_ne j i with rfl | other
    · rw [Function.update_self] at same
      omega
    · rw [Function.update_of_ne other] at same ⊢
      exact inv.behind j ((heldOther j other) ▸ holds) place member same
  · intro place member
    rw [stable place (inv.lt_of_mem member)]
    exact inv.known place member
  · intro queue
    rw [List.filterMap_congr fun place member => stable place (inv.lt_of_mem member)]
    exact inv.queues queue
  · intro queue attended place r found' chosen
    by_cases inside : place.1 < taken.length
    · rw [stable place inside] at found'
      rcases inv.complete queue attended place r found' chosen with logged | ⟨j, holds, owing⟩
      · exact .inl logged
      · have other : j ≠ i := by
          rintro rfl
          exact holds (heldBy_eq idle)
        refine .inr ⟨j, (heldOther j other).symm ▸ holds, ?_⟩
        rwa [Function.update_of_ne other]
    · refine .inr ⟨i, ?_, ?_⟩
      · intro none
        exact List.cons_ne_nil _ _ (heldSelf.symm.trans none)
      · rw [Function.update_self]
        have within := Topology.lt_of_recordAt?_eq_some found'
        rw [List.length_append, List.length_singleton] at within
        exact ⟨by omega, Nat.zero_le _⟩

/-- The next output of a worker is that of the record at its place. -/
theorem exists_record (inv : Tracked t h f taken next log) {i : Nat} {b : Batch}
    {lines : List Bytes} {queue : Nat} {o : Output} {outbox : List (Nat × Output)}
    {isWaiting : Bool}
    (busy : f.workers[i]? = some (.busy b lines ((queue, o) :: outbox) isWaiting)) :
    ∃ r, t.recordAt? taken (next i) = some r ∧ t.dispatcher.select r = queue ∧
      t.projection.project r = o := by
  have member : b ∈ f.heldBy i := by
    rw [heldBy_eq busy]
    exact List.mem_singleton_self b
  obtain ⟨batch, owed⟩ := inv.busy i b member
  have first : (t.batchReference b)[(next i).2]? = some (queue, o) := by
    rw [← Nat.add_zero (next i).2, ← List.getElem?_drop, owed, owedBy_eq busy]
    rfl
  rw [Topology.batchReference_eq, List.getElem?_map] at first
  obtain ⟨r, found, addressed⟩ := Option.map_eq_some_iff.mp first
  obtain ⟨chosen, projected⟩ := Prod.mk.inj addressed
  refine ⟨r, ?_, chosen, projected⟩
  rw [Topology.recordAt?, batch]
  exact found

/-- A worker goes on to its next output. The one before it has come into its queue, or was lost
because all sinks of this queue had returned. -/
theorem advance (inv : Tracked t h f taken next log) {i : Nat} {b : Batch} {lines : List Bytes}
    {queue : Nat} {o : Output} {outbox : List (Nat × Output)} {isWaiting : Bool}
    (busy : f.workers[i]? = some (.busy b lines ((queue, o) :: outbox) isWaiting))
    (workers : g.workers = (f.setWorker i (.busy b lines outbox false)).workers)
    (same : g.input = f.input ∧ g.sinks = f.sinks) {log' : List (Nat × Nat)}
    (logged : log' = log ∧ Deserted t h f queue ∨ log' = log ++ [next i])
    (queues : ∀ queue, g.arrived t h queue =
      ((log'.filterMap (t.recordAt? taken)).filter fun r => t.dispatcher.select r = queue).map
        t.projection.project) :
    Tracked t h g taken (Function.update next i ((next i).1, (next i).2 + 1)) log' := by
  have found := getElem?_setWorker_self busy (.busy b lines outbox false)
  rw [← workers] at found
  have heldSelf : g.heldBy i = f.heldBy i := (heldBy_eq found).trans (heldBy_eq busy).symm
  have held : ∀ j, g.heldBy j = f.heldBy j := by
    intro j
    rcases eq_or_ne j i with rfl | other
    · exact heldSelf
    · rw [heldBy, workers]
      exact heldBy_setWorker_of_ne other _
  have holds : f.heldBy i ≠ [] := by
    rw [heldBy_eq busy]
    exact List.cons_ne_nil _ _
  have sub : ∀ place ∈ log, place ∈ log' := by
    rcases logged with ⟨rfl, _⟩ | rfl
    · exact fun _ member => member
    · exact fun _ member => List.mem_append_left _ member
  have new : ∀ place ∈ log', place ∈ log ∨ place = next i := by
    rcases logged with ⟨rfl, _⟩ | rfl
    · exact fun _ member => .inl member
    · intro place member
      simpa using member
  refine { sent := ?_, busy := ?_, apart := ?_, behind := ?_, known := ?_, inOrder := ?_,
           queues := queues, complete := ?_ }
  · rw [same.1]
    exact inv.sent
  · intro j b' member
    rw [held] at member
    obtain ⟨batch, owed⟩ := inv.busy j b' member
    rcases eq_or_ne j i with rfl | other
    · rw [Function.update_self]
      refine ⟨batch, ?_⟩
      rw [← List.drop_drop, owed, owedBy_eq busy, owedBy_eq found]
      rfl
    · rw [Function.update_of_ne other]
      refine ⟨batch, owed.trans ?_⟩
      rw [owedBy, owedBy, workers, Flow.setWorker, List.getElem?_set_ne other.symm]
  · intro j k holdsJ holdsK
    rw [held] at holdsJ holdsK
    have firsts : ∀ j, (Function.update next i ((next i).1, (next i).2 + 1) j).1 = (next j).1 := by
      intro j
      rcases eq_or_ne j i with rfl | other
      · rw [Function.update_self]
      · rw [Function.update_of_ne other]
    rw [firsts, firsts]
    exact inv.apart j k holdsJ holdsK
  · intro j holdsJ place member sameBatch
    rw [held] at holdsJ
    rcases eq_or_ne j i with rfl | other
    · rw [Function.update_self] at sameBatch ⊢
      rcases new place member with before | rfl
      · exact Nat.lt_succ_of_lt (inv.behind j holdsJ place before sameBatch)
      · exact Nat.lt_succ_self _
    · rw [Function.update_of_ne other] at sameBatch ⊢
      rcases new place member with before | rfl
      · exact inv.behind j holdsJ place before sameBatch
      · exact absurd (inv.apart i j holds holdsJ sameBatch).symm other
  · intro place member
    rcases new place member with before | rfl
    · exact inv.known place before
    · obtain ⟨r, recorded, _⟩ := inv.exists_record busy
      exact ⟨r, recorded⟩
  · rcases logged with ⟨rfl, _⟩ | rfl
    · exact inv.inOrder
    · rw [List.pairwise_append]
      refine ⟨inv.inOrder, List.pairwise_singleton _ _, ?_⟩
      intro place member last sameLast sameBatch
      rw [List.mem_singleton] at sameLast
      subst sameLast
      exact inv.behind i holds place member sameBatch
  · intro queue' attended place r recorded chosen
    have attendedBefore : ¬ Deserted t h f queue' := by
      rw [Deserted, same.2] at attended
      exact attended
    rcases inv.complete queue' attendedBefore place r recorded chosen with before | owing
    · exact .inl (sub place before)
    · obtain ⟨j, holdsJ, sameBatch, notYet⟩ := owing
      rcases eq_or_ne j i with rfl | other
      · rcases Nat.eq_or_lt_of_le notYet with now | later
        · have here : place = next j := Prod.ext sameBatch now.symm
          rcases logged with ⟨_, deserted⟩ | rfl
          · obtain ⟨r', recorded', chosen', _⟩ := inv.exists_record busy
            rw [here, recorded'] at recorded
            cases recorded
            exact absurd (chosen'.symm.trans chosen ▸ deserted) attendedBefore
          · left
            rw [here]
            exact List.mem_append_right _ (List.mem_singleton_self _)
        · right
          refine ⟨j, (held j).symm ▸ holdsJ, ?_⟩
          rw [Function.update_self]
          exact ⟨sameBatch, later⟩
      · right
        refine ⟨j, (held j).symm ▸ holdsJ, ?_⟩
        rw [Function.update_of_ne other]
        exact ⟨sameBatch, notYet⟩

/-- An output that finds room comes to the end of its queue. -/
theorem deliver (inv : Tracked t h f taken next log) {i : Nat} {b : Batch} {lines : List Bytes}
    {queue : Nat} {o : Output} {outbox : List (Nat × Output)} {isWaiting : Bool}
    (busy : f.workers[i]? = some (.busy b lines ((queue, o) :: outbox) isWaiting))
    (inside : queue < f.queues.length) :
    Tracked t h
      (({ f with tally := f.tally.addEmitted }.setWorker i (.busy b lines outbox false)).setQueue
        queue (f.queues.getD queue [] ++ [o])) taken
      (Function.update next i ((next i).1, (next i).2 + 1)) (log ++ [next i]) := by
  apply inv.advance busy
  · rfl
  · exact ⟨rfl, rfl⟩
  · exact .inr rfl
  intro queue'
  obtain ⟨r, recorded, chosen, projected⟩ := inv.exists_record busy
  have last : List.filterMap (t.recordAt? taken) [next i] = [r] := by
    rw [List.filterMap_cons, recorded, List.filterMap_nil]
  have arrives : restrict queue' [(queue, o)] =
      (([r].filter fun r => t.dispatcher.select r = queue').map t.projection.project) := by
    rw [← restrict_map, List.map_singleton, chosen, projected]
  refine (arrived_deliver inside o rfl queue').trans ?_
  rw [inv.queues, arrives, List.filterMap_append, last, List.filter_append, List.map_append]

/-- An output whose queue nobody reads is lost. -/
theorem lose (inv : Tracked t h f taken next log) {i : Nat} {b : Batch} {lines : List Bytes}
    {queue : Nat} {o : Output} {outbox : List (Nat × Output)} {isWaiting : Bool}
    (busy : f.workers[i]? = some (.busy b lines ((queue, o) :: outbox) isWaiting))
    (deserted : Deserted t h f queue) :
    Tracked t h
      ({ f with tally := f.tally.addUndelivered }.setWorker i (.busy b lines outbox false)) taken
      (Function.update next i ((next i).1, (next i).2 + 1)) log := by
  apply inv.advance busy
  · rfl
  · exact ⟨rfl, rfl⟩
  · exact .inl ⟨rfl, deserted⟩
  · exact inv.queues

/-- A worker that has delivered all outputs of its batch gives the batch back. -/
theorem release (inv : Tracked t h f taken next log) {i : Nat} {b : Batch} {isWaiting : Bool}
    (busy : f.workers[i]? = some (.busy b [] [] isWaiting)) :
    Tracked t (h.note t f (.release i))
      ({ f with released := f.released + 1 }.setWorker i .idle) taken next log := by
  have found := getElem?_setWorker_self busy .idle
  have heldSelf : (f.setWorker i .idle).heldBy i = [] := heldBy_eq found
  have heldOther : ∀ j, j ≠ i → (f.setWorker i .idle).heldBy j = f.heldBy j :=
    fun j other => heldBy_setWorker_of_ne other _
  have before : ∀ j, (f.setWorker i .idle).heldBy j ≠ [] → j ≠ i ∧ f.heldBy j ≠ [] := by
    intro j holds
    have other : j ≠ i := by
      rintro rfl
      exact holds heldSelf
    exact ⟨other, (heldOther j other) ▸ holds⟩
  refine { inv with busy := ?_, apart := ?_, behind := ?_, complete := ?_ }
  · intro j b' member
    obtain ⟨other, _⟩ := before j (List.ne_nil_of_mem member)
    obtain ⟨batch, owed⟩ := inv.busy j b' ((heldOther j other) ▸ member)
    exact ⟨batch, owed.trans (owedBy_setWorker_of_ne other _).symm⟩
  · intro j k holdsJ holdsK
    exact inv.apart j k (before j holdsJ).2 (before k holdsK).2
  · intro j holds
    exact inv.behind j (before j holds).2
  · intro queue attended place r recorded chosen
    rcases inv.complete queue attended place r recorded chosen with logged | owing
    · exact .inl logged
    · obtain ⟨j, holds, sameBatch, notYet⟩ := owing
      rcases eq_or_ne j i with rfl | other
      · -- There is no record left at or behind the place of this worker.
        have member : b ∈ f.heldBy j := by
          rw [heldBy_eq busy]
          exact List.mem_singleton_self b
        obtain ⟨batch, owed⟩ := inv.busy j b member
        rw [owedBy_eq busy] at owed
        have short := List.drop_eq_nil_iff.mp owed
        rw [Topology.batchReference_eq, List.length_map] at short
        rw [Topology.recordAt?, sameBatch, batch] at recorded
        have within := (List.getElem?_eq_some_iff.mp recorded).1
        omega
      · exact .inr ⟨j, (heldOther j other).symm ▸ holds, sameBatch, notYet⟩

/-- What leaves workers and the batches taken up alone changes no place. -/
theorem carry (inv : Tracked t h f taken next log) {h' : Traffic} (workers : g.workers = f.workers)
    (sent : h'.sent = taken ++ g.input)
    (arrived : ∀ queue, g.arrived t h' queue = f.arrived t h queue)
    (deserted : ∀ queue, Deserted t h f queue → Deserted t h' g queue) :
    Tracked t h' g taken next log := by
  have held : g.heldBy = f.heldBy := by
    funext i
    rw [heldBy, heldBy, workers]
  have owed : g.owedBy t = f.owedBy t := by
    funext i
    rw [owedBy, owedBy, workers]
  exact {
    sent
    busy := by rw [held, owed]; exact inv.busy
    apart := by rw [held]; exact inv.apart
    behind := by rw [held]; exact inv.behind
    known := inv.known
    inOrder := inv.inOrder
    queues := fun queue => (arrived queue).trans (inv.queues queue)
    complete := by
      rw [held]
      exact fun queue attended =>
        inv.complete queue fun before => attended (deserted queue before) }

/-- Every event keeps track of the outputs. -/
theorem step {e : FlowEvent} (shaped : Shaped t f) (draining : Draining t f)
    (noted : ReturnsNoted h f) (inv : Tracked t h f taken next log) (step : Step t f e g) :
    ∃ taken' next' log', Tracked t (h.note t f e) g taken' next' log' := by
  have deserted := fun queue (before : Deserted t h f queue) => before.step step
  cases step with
  | @send b rest feed running room =>
      refine ⟨taken, next, log, inv.carry rfl ?_ (fun _ => rfl) deserted⟩
      rw [Traffic.note, feed]
      exact (congrArg (· ++ [b]) inv.sent).trans (List.append_assoc _ _ _)
  | take idle input => exact ⟨_, _, _, inv.take idle input⟩
  | @processLine i b line lines isWaiting busy =>
      have outputs := t.processLine_outputs f.tally f.filters b.metadata line
      have goesOn := inv.setWorker busy (.busy b lines
        (t.processLine f.tally f.filters b.metadata line).outputs false) rfl (by
          rw [outputs]
          rfl)
      exact ⟨_, _, _, goesOn.carry rfl goesOn.sent (fun _ => rfl) fun _ before => before⟩
  | lose busy unread =>
      exact ⟨_, _, _, inv.lose busy (deserted_of_unread draining noted busy (by simp) unread)⟩
  | deliver busy read room =>
      have inside := (shaped.outbox_tail busy).1
      rw [← shaped.queues] at inside
      exact ⟨_, _, _, inv.deliver busy inside⟩
  | wait busy read full =>
      have goesOn := inv.setWorker busy (.busy _ _ _ true) rfl rfl
      exact ⟨_, _, _, goesOn.carry rfl goesOn.sent (fun _ => rfl) fun _ before => before⟩
  | release busy => exact ⟨_, _, _, inv.release busy⟩
  | workerReturns idle closed input => exact ⟨_, _, _, inv.setWorker idle .returned rfl rfl⟩
  | receive found next running announced =>
      exact ⟨_, _, _, inv.carry rfl inv.sent (arrived_receive next rfl) deserted⟩
  | sourceReturns | announce | forget | close | sinkReturns | upload | uploaderReturns | drain
  | joinSource | joinFailedSource | joinWorkers | joinSinks | joinUploader =>
      exact ⟨_, _, _, inv.carry rfl inv.sent (fun _ => rfl) deserted⟩

end Tracked

/-- Before anything has happened no worker has a batch, and nothing has come into a queue. -/
theorem Fresh.tracked (fresh : Fresh t f) : Tracked t {} f [] (fun _ => (0, 0)) [] := by
  have free : ∀ i, f.heldBy i = [] := by
    intro i
    rw [heldBy, fresh.workers, List.getElem?_replicate]
    split
    · rfl
    · rfl
  exact {
    sent := fresh.input.symm
    busy := fun i b member => absurd member (free i ▸ List.not_mem_nil)
    apart := fun i _ holds => absurd (free i) holds
    behind := fun i holds => absurd (free i) holds
    known := fun _ member => absurd member List.not_mem_nil
    inOrder := .nil
    queues := fun queue => fresh.arrived_eq_nil queue
    complete := fun _ _ place r found => absurd found (by simp [Topology.recordAt?]) }

/-- Every run keeps track of the outputs. -/
theorem Run.tracked {start : Flow} (fits : t.Fits) (fresh : Fresh t start) (run : Run t start h f) :
    ∃ taken next log, Tracked t h f taken next log := by
  induction run with
  | start => exact ⟨_, _, _, fresh.tracked⟩
  | step before fired ih =>
      obtain ⟨taken, next, log, tracked⟩ := ih
      exact tracked.step (before.shaped fits fresh) (before.draining fresh)
        (before.returnsNoted fresh) (step_of_fire fired)

end Flow

end RecordPipeline
