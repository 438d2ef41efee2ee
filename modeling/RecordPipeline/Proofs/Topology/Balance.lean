import RecordPipeline.Proofs.Config.Itemized
import RecordPipeline.Proofs.Topology.Delivery

/-!
The counts of a run. At any time they are those of the lines that workers have taken up, counted one
after the other. So once all batches are processed the counts balance, and they are the same for
every number of workers and every order of events.
-/

namespace RecordPipeline

/-- The counts without those of batches and of outputs on their way. -/
def PipelineTally.ofLines (t : PipelineTally) : PipelineTally :=
  { t with batches := 0, bytes := 0, emitted := 0, undelivered := 0, backpressure := 0 }

theorem PipelineTally.ofLines_judge (t : PipelineTally) (v : Verdict) :
    (t.judge v).ofLines = t.ofLines.judge v := by
  cases v <;> rfl

/-- Counting a line leaves the counts of batches and of outputs alone. -/
theorem PipelineTally.judge_keeps (t : PipelineTally) (v : Verdict) :
    (t.judge v).batches = t.batches ∧ (t.judge v).bytes = t.bytes ∧
      (t.judge v).emitted = t.emitted ∧ (t.judge v).undelivered = t.undelivered := by
  cases v <;> exact ⟨rfl, rfl, rfl, rfl⟩

/-- The lines of its batch that a worker has not taken up yet. -/
def FilterWorker.unread : FilterWorker → List TaggedLine
  | .busy b lines _ _ => lines.map (b.metadata, ·)
  | .idle | .returned => []

namespace Topology

/-- Two topologies that take lines through the same parts. -/
structure SameLines (t t' : Topology) : Prop where
  layout : t.layout = t'.layout
  chain : t.chain = t'.chain
  validator : t.validator = t'.validator
  dispatcher : t.dispatcher = t'.dispatcher
  projection : t.projection = t'.projection

variable {t t' : Topology}

theorem SameLines.counted (same : SameLines t t') : t.counted = t'.counted := by
  obtain ⟨layout, chain, validator, dispatcher, projection⟩ := same
  have terminal : t.terminal = t'.terminal := by
    unfold Topology.terminal
    rw [dispatcher, projection]
  have counts : t.countLine = t'.countLine := by
    funext s line
    simp only [countLine, processLine, layout, chain, validator, terminal]
  funext lines
  rw [Topology.counted, Topology.counted, counts, layout, chain]

theorem SameLines.batchReference (same : SameLines t t') :
    t.batchReference = t'.batchReference := by
  obtain ⟨layout, chain, validator, dispatcher, projection⟩ := same
  have reference : t.reference = t'.reference := by
    funext metadata line
    simp only [Topology.reference, survivors, layout, chain, validator, dispatcher, projection]
  funext b
  rw [Topology.batchReference, Topology.batchReference, reference]

/-- How many workers there are makes no difference to a line. -/
theorem sameLines_of_workers {w : Wiring} {workers : Nat} (built : w.build = .ok t)
    (built' : { w with workers }.build = .ok t') : SameLines t' t := by
  have parts := Wiring.builds_to built
  have parts' := Wiring.builds_to built'
  have dispatcher : w.dispatcher = .ok t'.dispatcher := parts'.dispatcher
  have outputFields : w.outputFields.mapM (w.resolve "output") = .ok t'.projection.fields :=
    parts'.outputFields
  refine ⟨parts'.layout.trans parts.layout.symm, parts'.chain.trans parts.chain.symm,
    parts'.validator.trans parts.validator.symm, ?_, ?_⟩
  · rw [parts.dispatcher] at dispatcher
    exact (Except.ok.inj dispatcher).symm
  · rw [parts.outputFields] at outputFields
    have fields := Except.ok.inj outputFields
    have mode : t'.projection.mode = t.projection.mode := parts'.mode.trans parts.mode.symm
    cases hp : t'.projection
    cases hp' : t.projection
    rw [hp, hp'] at mode fields
    exact congrArg₂ _ fields.symm mode

end Topology

namespace Flow

variable {t : Topology} {f g : Flow} {h : Traffic}

/-- The lines that workers have not taken up yet. -/
def unread (f : Flow) : List TaggedLine := f.workers.flatMap FilterWorker.unread

theorem unread_setWorker {i : Nat} {w : FilterWorker} (found : f.workers[i]? = some w)
    (w' : FilterWorker) : ((f.setWorker i w').unread ++ w.unread).Perm (f.unread ++ w'.unread) :=
  flatMap_set_perm found w' FilterWorker.unread

/-- How far the counts of a flow have come: `done` are the lines that were taken up. -/
structure Reckoned (t : Topology) (h : Traffic) (f : Flow) (done : List TaggedLine) : Prop where
  lines : (done ++ f.unread ++ f.input.flatMap Batch.tagged).Perm (h.sent.flatMap Batch.tagged)
  tally : f.tally.ofLines = (t.counted done).1
  filters : f.filters = (t.counted done).2
  batches : f.tally.batches + f.input.length = h.sent.length
  bytes : f.tally.bytes + (f.input.map (·.data.length)).sum = (h.sent.map (·.data.length)).sum
  outputs : f.tally.emitted + f.tally.undelivered + (f.owed t).length +
    (f.input.flatMap t.batchReference).length = (h.sent.flatMap t.batchReference).length

namespace Reckoned

variable {done : List TaggedLine}

theorem send (inv : Reckoned t h f done) {b : Batch} {rest : List Batch}
    (next : f.feed = b :: rest) :
    Reckoned t (h.note t f .send) { f with feed := rest, input := f.input ++ [b] } done := by
  have noted : h.note t f .send = { h with sent := h.sent ++ [b] } := by
    rw [Traffic.note, next]
    rfl
  obtain ⟨lines, tally, filters, batches, bytes, outputs⟩ := inv
  rw [noted]
  refine ⟨?_, tally, filters, ?_, ?_, ?_⟩
  · rw [List.flatMap_append, List.flatMap_append, ← List.append_assoc]
    exact lines.append_right _
  · rw [List.length_append, List.length_append, ← batches]
    rfl
  · rw [List.map_append, List.sum_append, List.map_append, List.sum_append, ← bytes]
    exact (Nat.add_assoc _ _ _).symm
  · rw [List.flatMap_append, List.length_append, List.flatMap_append, List.length_append, ← outputs]
    exact (Nat.add_assoc _ _ _).symm

/-- A worker changes its state: what leaves the source queue, the worker and what was done before on
one side comes in on the other. -/
theorem setWorker (inv : Reckoned t h f done) {i : Nat} {w : FilterWorker}
    (found : f.workers[i]? = some w) (w' : FilterWorker) {done' : List TaggedLine}
    {input : List Batch} {tally : PipelineTally} {filters : List FilterTally}
    (lines : (done' ++ w'.unread ++ input.flatMap Batch.tagged).Perm
      (done ++ w.unread ++ f.input.flatMap Batch.tagged))
    (counted : tally.ofLines = (t.counted done').1 ∧ filters = (t.counted done').2)
    (batches : tally.batches + input.length = f.tally.batches + f.input.length)
    (bytes : tally.bytes + (input.map (·.data.length)).sum =
      f.tally.bytes + (f.input.map (·.data.length)).sum)
    (outputs : tally.emitted + tally.undelivered + (w'.owed t).length +
        (input.flatMap t.batchReference).length =
      f.tally.emitted + f.tally.undelivered + (w.owed t).length +
        (f.input.flatMap t.batchReference).length) :
    Reckoned t h ({ f with input, tally, filters }.setWorker i w') done' := by
  refine ⟨?_, counted.1, counted.2, batches.trans inv.batches, bytes.trans inv.bytes, ?_⟩
  · have moved := unread_setWorker found w'
    apply List.perm_iff_count.mpr
    intro x
    have here := lines.count_eq x
    have there := moved.count_eq x
    have before := inv.lines.count_eq x
    show (done' ++ (f.setWorker i w').unread ++ input.flatMap Batch.tagged).count x = _
    simp only [List.count_append] at *
    omega
  · have moved := (owed_setWorker (t := t) found w').length_eq
    have before := inv.outputs
    show tally.emitted + tally.undelivered + ((f.setWorker i w').owed t).length +
      (input.flatMap t.batchReference).length = _
    rw [List.length_append, List.length_append] at moved
    omega

theorem take (inv : Reckoned t h f done) {i : Nat} {b : Batch} {rest : List Batch}
    (idle : f.workers[i]? = some .idle) (next : f.input = b :: rest) :
    Reckoned t h ({ f with input := rest, tally := f.tally.addBatch b.data.length }.setWorker i
      (.busy b b.lines [] false)) done := by
  refine inv.setWorker idle _ ?_ ⟨inv.tally, inv.filters⟩ ?_ ?_ ?_
  · rw [next, List.flatMap_cons, FilterWorker.unread, FilterWorker.unread, List.append_nil,
      List.append_assoc]
    exact .refl _
  · rw [next, List.length_cons]
    exact Nat.add_right_comm ..
  · rw [next, List.map_cons, List.sum_cons]
    exact Nat.add_assoc ..
  · have owes : (FilterWorker.owed t (.busy b b.lines [] false)).length =
        (t.batchReference b).length := by
      rw [FilterWorker.owed, List.nil_append]
      rfl
    rw [next, List.flatMap_cons, List.length_append, owes]
    exact Nat.add_assoc ..

theorem processLine (inv : Reckoned t h f done) {i : Nat} {b : Batch} {line : Bytes}
    {lines : List Bytes} {isWaiting : Bool}
    (busy : f.workers[i]? = some (.busy b (line :: lines) [] isWaiting)) :
    Reckoned t h ({ f with
        tally := (t.processLine f.tally f.filters b.metadata line).tally
        filters := (t.processLine f.tally f.filters b.metadata line).filters }.setWorker i
      (.busy b lines (t.processLine f.tally f.filters b.metadata line).outputs false))
      (done ++ [(b.metadata, line)]) := by
  have judged : (t.processLine f.tally f.filters b.metadata line).tally =
      f.tally.judge (t.verdict (b.metadata, line)) :=
    t.processLine_judges f.tally f.filters (b.metadata, line)
  have outputs := t.processLine_outputs f.tally f.filters b.metadata line
  obtain ⟨batches, bytes, emitted, undelivered⟩ :=
    f.tally.judge_keeps (t.verdict (b.metadata, line))
  refine inv.setWorker busy _ ?_ ⟨?_, ?_⟩ ?_ ?_ ?_
  · rw [FilterWorker.unread, FilterWorker.unread, List.map_cons, List.append_assoc done]
    exact .refl _
  · rw [judged, PipelineTally.ofLines_judge, inv.tally, Topology.counted_concat]
    exact (t.processLine_judges _ _ (b.metadata, line)).symm
  · obtain ⟨_, _, _, _, _, counts⟩ := t.processLine_passes (b.metadata, line)
    have many := (t.balanced_counted done).filters
    rw [Topology.counted_concat, Topology.countLine, counts _ _ many]
    exact (counts _ _ (inv.filters ▸ many)).trans (inv.filters ▸ rfl)
  · rw [judged, batches]
  · rw [judged, bytes]
  · rw [judged, emitted, undelivered, FilterWorker.owed, FilterWorker.owed, outputs,
      List.flatMap_cons, List.nil_append]

/-- An output leaves a worker, to a queue or for good. -/
theorem deliver (inv : Reckoned t h f done) {i : Nat} {b : Batch} {lines : List Bytes}
    {queue : Nat} {o : Output} {outbox : List (Nat × Output)} {isWaiting : Bool}
    (busy : f.workers[i]? = some (.busy b lines ((queue, o) :: outbox) isWaiting))
    {tally : PipelineTally} (sameLines : tally.ofLines = f.tally.ofLines)
    (sameBatches : tally.batches = f.tally.batches) (sameBytes : tally.bytes = f.tally.bytes)
    (oneMore : tally.emitted + tally.undelivered = f.tally.emitted + f.tally.undelivered + 1) :
    Reckoned t h ({ f with tally }.setWorker i (.busy b lines outbox false)) done := by
  refine inv.setWorker busy _ (.refl _) ⟨sameLines.trans inv.tally, inv.filters⟩ ?_ ?_ ?_
  · rw [sameBatches]
  · rw [sameBytes]
  · rw [oneMore, FilterWorker.owed, FilterWorker.owed, List.cons_append, List.length_cons]
    omega

/-- Every event keeps the counts in step with the lines. -/
theorem step {e : FlowEvent} (inv : Reckoned t h f done) (step : Step t f e g) :
    ∃ done', Reckoned t (h.note t f e) g done' := by
  cases step with
  | send next running room => exact ⟨done, inv.send next⟩
  | take idle next => exact ⟨done, inv.take idle next⟩
  | processLine busy => exact ⟨_, inv.processLine busy⟩
  | lose busy unread => exact ⟨done, inv.deliver busy rfl rfl rfl rfl⟩
  | @deliver i b lines queue o outbox isWaiting busy read room =>
      have left : Reckoned t h ({ f with tally := f.tally.addEmitted }.setWorker i
          (.busy b lines outbox false)) done :=
        inv.deliver busy rfl rfl rfl (Nat.add_right_comm ..)
      exact ⟨done, { left with }⟩
  | wait busy read full =>
      exact ⟨done, inv.setWorker busy _ (.refl _) ⟨inv.tally, inv.filters⟩ rfl rfl rfl⟩
  | release busy =>
      exact ⟨done, { inv.setWorker busy .idle (.refl _) ⟨inv.tally, inv.filters⟩ rfl rfl rfl with }⟩
  | workerReturns idle closed input =>
      exact ⟨done, inv.setWorker idle .returned (.refl _) ⟨inv.tally, inv.filters⟩ rfl rfl rfl⟩
  | sourceReturns | receive | announce | forget | close | sinkReturns | upload | uploaderReturns
  | drain | joinSource | joinFailedSource | joinWorkers | joinSinks | joinUploader =>
      exact ⟨done, { inv with }⟩

end Reckoned

theorem Fresh.reckoned (fresh : Fresh t f) : Reckoned t {} f [] := by
  have idle : ∀ w ∈ f.workers, w = .idle := by
    intro w member
    rw [fresh.workers] at member
    exact List.eq_of_mem_replicate member
  have unread : f.unread = [] := by
    apply List.flatMap_eq_nil_iff.mpr
    intro w member
    rw [idle w member]
    rfl
  have owed : f.owed t = [] := (held_eq_nil fun w member => .inl (idle w member)).2
  refine ⟨?_, ?_, fresh.filters, ?_, ?_, ?_⟩
  · rw [unread, fresh.input]
    exact .nil
  · rw [fresh.tally]
    rfl
  · rw [fresh.tally, fresh.input]
    rfl
  · rw [fresh.tally, fresh.input]
    rfl
  · rw [fresh.tally, fresh.input, owed]
    rfl

/-- In every run the counts are those of the lines that were taken up. -/
theorem Run.reckoned {start : Flow} (fresh : Fresh t start) (run : Run t start h f) :
    ∃ done, Reckoned t h f done := by
  induction run with
  | start => exact ⟨[], fresh.reckoned⟩
  | step _ fired ih =>
      obtain ⟨done, inv⟩ := ih
      exact inv.step (step_of_fire fired)

/-- All batches that were sent are processed. -/
structure Settled (f : Flow) : Prop where
  input : f.input = []
  workers : ∀ w ∈ f.workers, w = .idle ∨ w = .returned

/-- Once all batches are processed, the counts are those of all their lines. -/
theorem Run.counts {start : Flow} (fresh : Fresh t start) (run : Run t start h f)
    (settled : Settled f) : Reckoned t h f (h.sent.flatMap Batch.tagged) := by
  obtain ⟨done, inv⟩ := run.reckoned fresh
  have unread : f.unread = [] := by
    apply List.flatMap_eq_nil_iff.mpr
    intro w member
    rcases settled.workers w member with rfl | rfl
    · rfl
    · rfl
  have all : done.Perm (h.sent.flatMap Batch.tagged) := by
    simpa [unread, settled.input] using inv.lines
  have same := Topology.counted_perm (t := t) all
  refine { inv with lines := ?_, tally := same ▸ inv.tally, filters := same ▸ inv.filters }
  rw [unread, settled.input, List.append_nil]
  exact .of_eq (List.append_nil _)

/-- What was sent and what was not are together what the source had. -/
theorem Run.sent_feed {start : Flow} (run : Run t start h f) : h.sent ++ f.feed = start.feed := by
  induction run with
  | start => rfl
  | step _ fired ih =>
      cases step_of_fire fired with
      | send next running room =>
          rw [next] at ih
          rw [← ih, Traffic.note, next]
          exact List.append_assoc ..
      | _ => exact ih

/-- All records that come to the end of the chain for the lines of some batches are counted. -/
theorem length_batchReferences (t : Topology) (sent : List Batch) :
    (sent.flatMap t.batchReference).length =
      ((sent.flatMap Batch.tagged).map fun line => (t.survivors line.1 line.2).length).sum := by
  induction sent with
  | nil => rfl
  | cons b rest ih =>
      rw [List.flatMap_cons, List.flatMap_cons, List.length_append, List.map_append,
        List.sum_append, ih, Topology.batchReference, List.length_flatMap, Batch.tagged,
        List.map_map]
      congr 2
      apply List.map_congr_left
      intro line _
      exact List.length_map _

/-- How the counts balance once all batches that were sent are processed. -/
structure Balance (t : Topology) (sent : List Batch) (f : Flow) : Prop where
  batches : f.tally.batches = sent.length
  bytes : f.tally.bytes = (sent.map (·.data.length)).sum
  malformed : f.tally.malformed =
    (sent.flatMap Batch.tagged).countP fun line => t.IsMalformed line.2
  lines : f.tally.records + f.tally.malformed = (sent.flatMap Batch.tagged).length
  records : f.tally.records = f.tally.invalid + f.tally.dropped +
    (sent.flatMap Batch.tagged).countP fun line => t.survivors line.1 line.2 ≠ []
  outputs : f.tally.emitted + f.tally.undelivered =
    ((sent.flatMap Batch.tagged).map fun line => (t.survivors line.1 line.2).length).sum
  filters : f.filters.length = t.chain.filters.length
  first : ∀ first ∈ f.filters.head?, first.processed + f.tally.invalid = f.tally.records

/-- Two flows have counted alike, for the pipeline and for every filter. -/
structure CountedAlike (f g : Flow) : Prop where
  batches : f.tally.batches = g.tally.batches
  bytes : f.tally.bytes = g.tally.bytes
  records : f.tally.records = g.tally.records
  malformed : f.tally.malformed = g.tally.malformed
  invalid : f.tally.invalid = g.tally.invalid
  invalidByField : f.tally.invalidByField = g.tally.invalidByField
  dropped : f.tally.dropped = g.tally.dropped
  outputs : f.tally.emitted + f.tally.undelivered = g.tally.emitted + g.tally.undelivered
  filters : f.filters = g.filters

/-- Once all batches are processed nothing is on its way any more. -/
theorem Reckoned.totals {done : List TaggedLine} (inv : Reckoned t h f done)
    (settled : Settled f) :
    f.tally.batches = h.sent.length ∧ f.tally.bytes = (h.sent.map (·.data.length)).sum ∧
      f.tally.emitted + f.tally.undelivered = (h.sent.flatMap t.batchReference).length := by
  have owed : f.owed t = [] := (held_eq_nil settled.workers).2
  obtain ⟨_, _, _, batches, bytes, outputs⟩ := inv
  rw [settled.input] at batches bytes outputs
  rw [owed] at outputs
  exact ⟨batches, bytes, outputs⟩

theorem Reckoned.balance (inv : Reckoned t h f (h.sent.flatMap Batch.tagged))
    (settled : Settled f) : Balance t h.sent f := by
  obtain ⟨batches, bytes, outputs⟩ := inv.totals settled
  obtain ⟨many, malformed, lines, records, first⟩ :=
    t.balanced_counted (h.sent.flatMap Batch.tagged)
  rw [← inv.tally] at malformed lines records first
  rw [← inv.filters] at many first
  rw [length_batchReferences] at outputs
  exact ⟨batches, bytes, malformed, lines, records, outputs, many, first⟩

/-- The counts of two runs that have processed the same batches, in whatever order and with whatever
workers. -/
theorem Reckoned.alike {t' : Topology} {h' : Traffic} (same : Topology.SameLines t t')
    (inv : Reckoned t h f (h.sent.flatMap Batch.tagged))
    (inv' : Reckoned t' h' g (h'.sent.flatMap Batch.tagged)) (settled : Settled f)
    (settled' : Settled g) (perm : h.sent.Perm h'.sent) : CountedAlike f g := by
  have counts : t.counted (h.sent.flatMap Batch.tagged) =
      t'.counted (h'.sent.flatMap Batch.tagged) := by
    rw [same.counted]
    exact Topology.counted_perm (perm.flatMap_right _)
  have tally : f.tally.ofLines = g.tally.ofLines := by
    rw [inv.tally, inv'.tally, counts]
  have filters : f.filters = g.filters := by
    rw [inv.filters, inv'.filters, counts]
  obtain ⟨batches, bytes, outputs⟩ := inv.totals settled
  obtain ⟨batches', bytes', outputs'⟩ := inv'.totals settled'
  have length := (perm.flatMap_right t.batchReference).length_eq
  rw [same.batchReference] at outputs length
  simp only [PipelineTally.ofLines, PipelineTally.mk.injEq, true_and, and_true] at tally
  obtain ⟨records, malformed, invalid, invalidByField, dropped⟩ := tally
  exact ⟨batches.trans (perm.length_eq.trans batches'.symm),
    bytes.trans ((perm.map _).sum_nat.trans bytes'.symm), records, malformed, invalid,
    invalidByField, dropped, outputs.trans (length.trans outputs'.symm), filters⟩

/-- The counts of a topology balance once all batches that were sent are processed. They are the
same in every run that has processed these batches, whatever the order of events and the number of
workers, and where the topology was built from a valid configuration, the invalid records are
counted by the names of different fields. -/
theorem counters_balance {w : Wiring} (built : w.build = .ok t) (feed : List Batch)
    (environment : Environment) (run : Run t (started t feed environment) h f)
    (settled : Settled f) :
    h.sent ++ f.feed = feed ∧ Balance t h.sent f ∧
      (∀ (workers : Nat) (t' : Topology) (feed' : List Batch) (environment' : Environment)
        (h' : Traffic) (g : Flow), { w with workers }.build = .ok t' →
          Run t' (started t' feed' environment') h' g → Settled g → h'.sent.Perm h.sent →
            CountedAlike g f) ∧
      ∀ (c : Config) (available : Nat), c.validate = .ok () → c.build available = .ok t →
        ((f.tally.invalidByName t.fields).map (·.1)).Nodup ∧
          ((f.tally.invalidByName t.fields).map (·.2)).sum = f.tally.invalid := by
  have counts := run.counts (started_fresh t feed environment) settled
  refine ⟨run.sent_feed, counts.balance settled, ?_, ?_⟩
  · intro workers t' feed' environment' h' g built' run' settled' perm
    have counts' := run'.counts (started_fresh t' feed' environment') settled'
    exact counts'.alike (Topology.sameLines_of_workers built built') counts settled' settled perm
  · intro c available valid builds
    have itemized := (Config.builds_to builds).itemized valid (h.sent.flatMap Batch.tagged)
    rw [← counts.tally] at itemized
    have ofTally : f.tally.Itemized t.fields.size :=
      ⟨itemized.total, itemized.named, itemized.size⟩
    exact ofTally.byName

/-- Two workers make a record of each identifier of a line. No identifier may be empty. -/
def splittingConfig : Config where
  record := { separator := 124, separator_ne := bar_ne, maxFields := 3, fields := ["id", "tags"] }
  topology := { filterWorkers := some 2 }
  sink := .null
  filters := [⟨"split", true, [("field", .string "id"), ("delimiter", .string ";"),
    ("keep_empty", .boolean true)]⟩]
  requiredFields := ["id"]

/-- The lines are `a;b|x`, `|x` and an empty one, then `;|x`, `a|b|c|d` and `c`. -/
def splittingFeed : List Batch := [
  ⟨[97, 59, 98, 124, 120, 10, 124, 120, 10, 10], none⟩,
  ⟨[59, 124, 120, 10, 97, 124, 98, 124, 99, 124, 100, 10, 99, 10], none⟩]

/-- The sink goes away after the first output. -/
def splittingEvents : List FlowEvent :=
  [.send, .send, .take 0, .take 1, .processLine 1, .processLine 0, .deliver 0, .sinkReturns 0,
    .deliver 0, .processLine 1, .processLine 0, .processLine 1, .deliver 1, .release 1,
    .processLine 0, .release 0]

theorem splitting_counters_balance :
    splittingConfig.validate = .ok () ∧ ∃ t h f, splittingConfig.build 1 = .ok t ∧
      Run t (started t splittingFeed {}) h f ∧ Settled f ∧ Balance t splittingFeed f ∧
      f.tally.records = 4 ∧ f.tally.malformed = 2 ∧ f.tally.invalid = 1 ∧ f.tally.dropped = 1 ∧
      f.tally.emitted = 1 ∧ f.tally.undelivered = 2 ∧
      ((f.tally.invalidByName t.fields).map (·.1)).Nodup ∧
      ((f.tally.invalidByName t.fields).map (·.2)).sum = 1 := by
  have valid : splittingConfig.validate = .ok () := by decide +kernel
  have outcome : (splittingConfig.build 1).map (fun t =>
      (follow t splittingEvents {} (started t splittingFeed {})).map fun p =>
        (p.1.sent, p.2.input, p.2.held, p.2.tally)) =
      .ok (some (splittingFeed, [], [], {
        batches := 2, bytes := 24, records := 4, malformed := 2, invalid := 1
        invalidByField := [1, 0, 0], dropped := 1, emitted := 1, undelivered := 2 })) := by
    decide +kernel
  obtain ⟨t, built, outcome⟩ := exists_of_map_eq_ok outcome
  obtain ⟨⟨h, f⟩, followed, facts⟩ := Option.map_eq_some_iff.mp outcome
  simp only [Prod.mk.injEq] at facts
  obtain ⟨sent, input, free, tally⟩ := facts
  have settled : Settled f := by
    refine ⟨input, ?_⟩
    intro w member
    have nothing := List.flatMap_eq_nil_iff.mp free w member
    cases w with
    | idle => exact .inl rfl
    | busy b lines outbox isWaiting => cases nothing
    | returned => exact .inr rfl
  have run := Run.start.follow followed
  obtain ⟨w, _, wired⟩ := (Config.builds_to built).wiring
  obtain ⟨_, balance, _, byName⟩ := counters_balance wired splittingFeed {} run settled
  obtain ⟨distinct, sum⟩ := byName splittingConfig 1 valid built
  rw [sent] at balance
  refine ⟨valid, t, h, f, built, run, settled, balance, ?_⟩
  rw [tally] at distinct sum ⊢
  exact ⟨rfl, rfl, rfl, rfl, rfl, rfl, distinct, sum⟩

end Flow

end RecordPipeline
