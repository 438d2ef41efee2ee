import Mathlib.Data.List.Dedup
import RecordPipeline.Proofs.Chain.Targets
import RecordPipeline.Proofs.Topology.Balance

/-!
Filters of a valid configuration do not fail. The fields that they replace have names and so are
fields of the layout, and as long as a record has slots for all of them no filter meets an error.
-/

namespace RecordPipeline

namespace Config

variable {c : Config} {t : Topology} {available : Nat}

/-- The names of the fields that the enabled filters may replace. -/
def targets (c : Config) : List String :=
  (c.filters.filter fun spec =>
    spec.enabled && (spec.type == "set_field" || spec.type == "split")).filterMap
      (·.string? "field")

theorem mem_targets {spec : FilterSpec} {name : String} (inside : spec ∈ c.filters)
    (enabled : spec.enabled = true) (type : spec.type = "set_field" ∨ spec.type = "split")
    (named : spec.string? "field" = some name) : name ∈ c.targets :=
  List.mem_filterMap.mpr ⟨spec, List.mem_filter.mpr ⟨inside, by simp [enabled, type]⟩, named⟩

/-- The fields of these names, each once. -/
def targetIndices (c : Config) (fields : FieldMap) : List Nat :=
  c.targets.dedup.filterMap fields.indexOf?

theorem mem_targetIndices {fields : FieldMap} {name : String} {index : Nat}
    (target : name ∈ c.targets) (found : fields.indexOf? name = some index) :
    index ∈ c.targetIndices fields :=
  List.mem_filterMap.mpr ⟨name, List.mem_dedup.mpr target, found⟩

/-- The field that a filter may replace is one of those that its description names. -/
theorem aims_of_madeFrom {spec : FilterSpec} {fields : FieldMap} {layout : Layout}
    {validator : Option Validator} {b : BuiltIn} (inside : spec ∈ c.filters)
    (enabled : spec.enabled = true)
    (made : BuiltIn.MadeFrom { spec, fields, layout, validator } b) :
    ∀ index ∈ b.target?, index ∈ c.targetIndices fields := by
  intro index target
  cases made with
  | noop => cases target
  | drop made => cases target
  | setField type made =>
      obtain ⟨name, _, named, found, _⟩ := BuiltIn.options_of_makeSetField made
      cases target
      exact mem_targetIndices (mem_targets inside enabled (.inl type) named) found
  | split type made =>
      obtain ⟨name, named, found, _⟩ := BuiltIn.options_of_makeSplit made
      cases target
      exact mem_targetIndices (mem_targets inside enabled (.inr type) named) found

namespace BuildsTo

/-- The chain consists of built-in filters that aim at no other fields. -/
theorem exists_builtIns (parts : c.BuildsTo available t) :
    ∃ bs : List BuiltIn, t.chain.filters = bs.map BuiltIn.filter ∧
      ∀ b ∈ bs, ∀ index ∈ b.target?, index ∈ c.targetIndices t.fields := by
  obtain ⟨bs, chain, made⟩ := Chain.builtIns_of_ofSpecs parts.chain
  refine ⟨bs, by rw [chain, Chain.make_filters], ?_⟩
  intro b member
  obtain ⟨spec, inside, enabled, made⟩ := made b member
  exact aims_of_madeFrom inside enabled made

/-- A field that has a name is one of the layout, so only the number of fields counts. -/
theorem hasRoom (parts : c.BuildsTo available t) (valid : c.validate = .ok ())
    (few : c.targets.dedup.length ≤ Record.overlayLimit) :
    t.layout.HasRoom (c.targetIndices t.fields) := by
  refine ⟨?_, Nat.le_trans (List.length_filterMap_le ..) few⟩
  intro index target
  obtain ⟨name, _, found⟩ := List.mem_filterMap.mp target
  have named : index < t.fields.size := FieldMap.lt_size_of_indexOf? found
  exact Nat.lt_of_lt_of_le named (parts.size_le valid)

end BuildsTo

/-- In a topology that was built from a valid configuration, with at most 255 different fields that
filters may replace, every filter call for a line succeeds or drops its record. So the policy for
failures makes no difference to any line, and no run counts an error of a filter. -/
theorem no_filter_fails (valid : c.validate = .ok ()) (built : c.build available = .ok t)
    (few : c.targets.dedup.length ≤ 255) :
    (∀ {σ : Type} (terminal : Stage σ) (metadata : Option Metadata) (line : Bytes) (r : Record),
      (Record.new t.layout).parse line metadata = (r, .ok ()) →
      ∀ (tallies : List FilterTally) (s : σ), tallies.length = t.chain.filters.length →
      ∃ back s' calls,
        Chain.Passes t.chain.onError terminal s s' t.chain.filters [⟨r, back⟩] calls ∧
        t.chain.run terminal r (tallies, s) =
          (back, Chain.counted tallies (Chain.outcomes calls), s') ∧
        ∀ cs ∈ calls, ∀ call ∈ cs,
          (call.result = .ok () ∨ call.result = .error .drop) ∧ call.forwarded = none) ∧
    (∀ policy tally filters metadata line,
      (t.withPolicy policy).processLine tally filters metadata line =
        t.processLine tally filters metadata line) ∧
    ∀ feed environment h f, Flow.Run t (Flow.started t feed environment) h f →
      (∀ tally ∈ f.filters, tally.errors = 0) ∧ Chain.errorCount f.filters = 0 := by
  have parts := builds_to built
  have room := parts.hasRoom valid few
  obtain ⟨bs, chain, aims⟩ := parts.exists_builtIns
  refine ⟨?_, Topology.processLine_withPolicy room chain aims, ?_⟩
  · intro σ terminal metadata line r parsed tallies s many
    obtain ⟨back, s', calls, passes, counts⟩ :=
      Chain.stage_passes t.chain.onError terminal t.chain.filters r s
    refine ⟨back, s', calls, passes, counts tallies many, ?_⟩
    rw [chain] at passes
    exact passes.no_failure room aims (List.forall_mem_singleton.mpr (.of_parse parsed))
  · intro feed environment h f run
    obtain ⟨done, reckoned⟩ := run.reckoned (Flow.started_fresh t feed environment)
    have clean : ∀ tally ∈ f.filters, tally.errors = 0 := by
      rw [reckoned.filters]
      exact Topology.errors_of_counted room chain aims done
    refine ⟨clean, ?_⟩
    rw [Chain.errorCount_eq_sum]
    apply List.sum_eq_zero_iff_forall_eq_nat.mpr
    intro n member
    obtain ⟨tally, inside, rfl⟩ := List.mem_map.mp member
    exact clean tally inside

/-- A record for each tag of a line, with a label in the last field that a record may have. -/
def labellingConfig : Config where
  record := {
    separator := 124, separator_ne := bar_ne, maxFields := 3, fields := ["id", "tags", "label"] }
  topology := { filterWorkers := some 1, onError := .forward }
  sink := .null
  filters := [
    ⟨"split", true, [("field", .string "tags"), ("delimiter", .string ";")]⟩,
    ⟨"set_field", true, [("field", .string "label"), ("value", .string "x")]⟩]

/-- One batch of the line `1|a;b`. -/
def labellingFeed : List Batch := [⟨[49, 124, 97, 59, 98, 10], none⟩]

theorem labelling_filters_do_not_fail :
    labellingConfig.validate = .ok () ∧ labellingConfig.targets.dedup.length ≤ 255 ∧
      ∃ t, labellingConfig.build 1 = .ok t ∧
        (t.survivors none [49, 124, 97, 59, 98]).map Record.text =
          [[49, 124, 97, 124, 120], [49, 124, 98, 124, 120]] ∧
        ∃ h f, Flow.Run t (Flow.started t labellingFeed {}) h f ∧
          f.filters.map (·.processed) = [1, 2] ∧ Chain.errorCount f.filters = 0 := by
  have valid : labellingConfig.validate = .ok () := by decide +kernel
  have few : labellingConfig.targets.dedup.length ≤ 255 := by decide +kernel
  have outcome : (labellingConfig.build 1).map (fun t =>
      (Flow.follow t [.send, .take 0, .processLine 0] {} (Flow.started t labellingFeed {})).map
        fun p => ((t.survivors none [49, 124, 97, 59, 98]).map Record.text,
          p.2.filters.map (·.processed))) =
      .ok (some ([[49, 124, 97, 124, 120], [49, 124, 98, 124, 120]], [1, 2])) := by decide +kernel
  obtain ⟨t, built, outcome⟩ := exists_of_map_eq_ok outcome
  obtain ⟨⟨h, f⟩, followed, facts⟩ := Option.map_eq_some_iff.mp outcome
  obtain ⟨survivors, processed⟩ := Prod.mk.inj facts
  have run := Flow.Run.start.follow followed
  obtain ⟨_, _, noErrors⟩ := no_filter_fails valid built few
  exact ⟨valid, few, t, built, survivors, h, f, run, processed,
    (noErrors labellingFeed {} h f run).2⟩

end Config

end RecordPipeline
