import RecordPipeline.Topology.Flow
import RecordPipeline.Proofs.Success

/-!
What a topology that was built can rely on: there is room in every queue, a worker, a sink, and for
every queue of outputs a sink that reads it.
-/

namespace RecordPipeline

/-- The sizes of the parts of a topology fit together. -/
structure Topology.Fits (t : Topology) : Prop where
  sinks : 0 < t.sinks.length
  inputRoom : 0 < t.inputQueueSize
  sinkRoom : 0 < t.sinkQueueSize
  uploadRoom : 0 < t.uploadQueueSize
  workers : 0 < t.workers
  dispatcher : t.dispatcher = .single ∨ ∃ rule, t.dispatcher = .sharded rule t.sinks.length

namespace Wiring

variable {w : Wiring}

theorem sizes_of_emptySize?_eq_none (h : w.emptySize? = none) :
    0 < w.inputQueueSize ∧ 0 < w.sinkQueueSize ∧ 0 < w.uploadQueueSize ∧ 0 < w.workers := by
  simp only [emptySize?, Option.map_eq_none_iff, List.find?_eq_none, List.mem_cons,
    List.not_mem_nil, or_false, forall_eq_or_imp, forall_eq, decide_eq_true_eq] at h
  omega

theorem dispatcher_cases {d : Dispatcher} (h : w.dispatcher = .ok d) :
    d = .single ∨ ∃ rule, d = .sharded rule w.sinks.length := by
  unfold dispatcher at h
  cases shard : w.shardField with
  | none =>
      simp only [shard] at h
      cases h
      exact .inl rfl
  | some name =>
      simp only [shard] at h
      obtain ⟨field, _, h⟩ := bind_eq_ok_iff.mp h
      split at h
      · cases h
      · cases h
        exact .inr ⟨_, rfl⟩

/-- What a wiring that builds has passed, and which of its parts the topology takes over. -/
structure BuildsTo (w : Wiring) (t : Topology) : Prop where
  someSink : w.sinks ≠ []
  sizes : w.emptySize? = none
  dispatcher : w.dispatcher = .ok t.dispatcher
  sinks : t.sinks = w.sinks
  chain : t.chain = w.chain
  layout : t.layout = w.layout
  fields : t.fields = w.fields
  validator : t.validator = w.validator
  inputQueueSize : t.inputQueueSize = w.inputQueueSize
  sinkQueueSize : t.sinkQueueSize = w.sinkQueueSize
  uploadQueueSize : t.uploadQueueSize = w.uploadQueueSize
  workers : t.workers = w.workers
  outputFields : w.outputFields.mapM (w.resolve "output") = .ok t.projection.fields
  mode : t.projection.mode = w.mode

theorem builds_to {t : Topology} (built : w.build = .ok t) : w.BuildsTo t := by
  unfold build at built
  by_cases noSink : w.sinks.isEmpty = true
  · rw [if_pos noSink] at built
    cases built
  · rw [if_neg noSink] at built
    cases sizes : w.emptySize? with
    | some name =>
        rw [sizes] at built
        cases built
    | none =>
        rw [sizes] at built
        obtain ⟨outputFields, resolved, built⟩ := bind_eq_ok_iff.mp built
        dsimp only at built
        split at built
        · cases built
        · obtain ⟨d, chosen, built⟩ := bind_eq_ok_iff.mp built
          cases built
          have someSink : w.sinks ≠ [] := fun none => noSink (List.isEmpty_iff.mpr none)
          exact ⟨someSink, sizes, chosen, rfl, rfl, rfl, rfl, rfl, rfl, rfl, rfl, rfl,
            resolved, rfl⟩

/-- A wiring without a part at fault builds. -/
theorem exists_build_eq_ok (someSink : w.sinks ≠ []) (sizes : w.emptySize? = none)
    {outputFields : List Nat}
    (resolved : w.outputFields.mapM (w.resolve "output") = .ok outputFields)
    (projected : w.mode.needsFields = true → outputFields ≠ []) {d : Dispatcher}
    (chosen : w.dispatcher = .ok d) : ∃ t, w.build = .ok t := by
  have sink : w.sinks.isEmpty = false := List.isEmpty_eq_false_iff.mpr someSink
  have fields : (w.mode.needsFields && outputFields.isEmpty) = false := by
    cases needed : w.mode.needsFields with
    | false => rfl
    | true => exact List.isEmpty_eq_false_iff.mpr (projected needed)
  unfold build
  simp only [sink, sizes, resolved, fields, chosen, bind, Except.bind, pure, Except.pure,
    Bool.false_eq_true, if_false]
  exact ⟨_, rfl⟩

/-- A wiring that builds gives a topology that fits together. -/
theorem build_fits {t : Topology} (built : w.build = .ok t) : t.Fits := by
  have parts := builds_to built
  obtain ⟨input, sink, upload, workers⟩ := sizes_of_emptySize?_eq_none parts.sizes
  refine ⟨?_, ?_, ?_, ?_, ?_, ?_⟩
  · rw [parts.sinks]
    exact List.length_pos_iff.mpr parts.someSink
  · rwa [parts.inputQueueSize]
  · rwa [parts.sinkQueueSize]
  · rwa [parts.uploadQueueSize]
  · rwa [parts.workers]
  · rw [parts.sinks]
    exact dispatcher_cases parts.dispatcher

/-- A wiring with a shard field shards by the rule of this field over all its sinks. -/
theorem dispatcher_of_shardField {t : Topology} (built : w.build = .ok t) {name : String}
    {field : Nat} (shard : w.shardField = some name) (found : w.fields.indexOf? name = some field) :
    t.dispatcher = .sharded (w.shardRules.rule field) w.sinks.length := by
  have chosen := (builds_to built).dispatcher
  have resolved : w.resolve "shard" name = .ok field := by simp only [resolve, found]
  simp only [Wiring.dispatcher, shard] at chosen
  obtain ⟨_, resolved', chosen⟩ := bind_eq_ok_iff.mp chosen
  cases resolved.symm.trans resolved'
  split at chosen
  · cases chosen
  · exact (Except.ok.inj chosen).symm

end Wiring

namespace Topology.Fits

variable {t : Topology}

/-- There is a queue for every record. -/
theorem select_lt (fits : t.Fits) (r : Record) : t.dispatcher.select r < t.dispatcher.queues := by
  rcases fits.dispatcher with single | ⟨rule, sharded⟩
  · rw [single]
    exact Nat.zero_lt_one
  · rw [sharded]
    exact Nat.mod_lt _ (Nat.lt_of_lt_of_le Nat.zero_lt_one (Nat.le_max_right _ 1))

/-- Every queue has a sink that reads it. -/
theorem exists_queueOf_eq (fits : t.Fits) {queue : Nat} (h : queue < t.dispatcher.queues) :
    ∃ i, i < t.sinks.length ∧ t.queueOf i = queue := by
  have hsinks := fits.sinks
  rcases fits.dispatcher with single | ⟨rule, sharded⟩
  · rw [single] at h
    have hzero : queue = 0 := Nat.lt_one_iff.mp h
    refine ⟨0, hsinks, ?_⟩
    rw [hzero, queueOf, Nat.zero_mod]
  · rw [sharded] at h
    have hqueues : t.dispatcher.queues = t.sinks.length := by
      rw [sharded]
      exact Nat.max_eq_left hsinks
    have hlt : queue < t.sinks.length := by
      simp only [Dispatcher.sharded] at h
      omega
    refine ⟨queue, hlt, ?_⟩
    rw [queueOf, hqueues, Nat.mod_eq_of_lt hlt]

end Topology.Fits

end RecordPipeline
