import RecordPipeline.Proofs.Config.Itemized

/-!
Valid configurations build. The rules of a configuration and the checks of the parts that are made
from it are written apart, and they agree: only the options of a filter, which nobody but its
factory understands, and a number of fields beyond what a layout can have are found out when the
parts are made.
-/

namespace RecordPipeline

theorem Layout.exists_make_eq_ok {separator : UInt8} {maxFields : Nat}
    (inLine : separator ≠ newline ∧ separator ≠ carriageReturn) (positive : 0 < maxFields)
    (short : maxFields ≤ fieldLimit) : ∃ layout, make separator maxFields = .ok layout := by
  rw [make, dif_pos inLine, dif_pos ⟨positive, short⟩]
  exact ⟨_, rfl⟩

/-- A layout with a separator that ends no line is refused for its number of fields only. -/
theorem Layout.make_eq_error {separator : UInt8} {maxFields : Nat} {e : RecordError}
    (inLine : separator ≠ newline ∧ separator ≠ carriageReturn) (positive : 0 < maxFields)
    (refused : make separator maxFields = .error e) :
    fieldLimit < maxFields ∧
      e = .invalidLayout s!"max_fields must be between 1 and {fieldLimit}, got {maxFields}" := by
  rw [make, dif_pos inLine] at refused
  by_cases short : maxFields ≤ 4096
  · rw [dif_pos ⟨positive, short⟩] at refused
    cases refused
  · rw [dif_neg (fun both => short both.2)] at refused
    exact ⟨Nat.lt_of_not_le short, (Except.error.inj refused).symm⟩

namespace FilterRegistry

/-- A factory of the standard registry makes filters that take part and have the name of the type.
-/
theorem standard_names {type : String} {factory : FilterFactory}
    (found : standard.get? type = some factory) {c : FilterContext} {f : Filter}
    (made : factory c = .ok f) : f.name = type ∧ f.enabled = true := by
  have listed := Table.mem_of_get? found
  simp only [standard, List.mem_cons, List.not_mem_nil, or_false, Prod.mk.injEq] at listed
  rcases listed with ⟨rfl, rfl⟩ | ⟨rfl, rfl⟩ | ⟨rfl, rfl⟩ | ⟨rfl, rfl⟩
  · cases made
    exact ⟨rfl, rfl⟩
  all_goals
    obtain ⟨_, _, rfl⟩ := exists_of_map_eq_ok made
    exact ⟨rfl, rfl⟩

/-- The standard registry has the types that a configuration may name. -/
theorem exists_standard {type : String} (known : type ∈ FilterSpec.knownTypes) :
    ∃ factory, standard.get? type = some factory := by
  rw [← Option.ne_none_iff_exists']
  intro none
  exact Table.get?_eq_none_iff.mp none known

/-- A filter that the standard registry makes takes part and has the name of its type. -/
theorem name_of_create {c : FilterContext} {f : Filter} (made : standard.create c = .ok f) :
    f.name = c.spec.type ∧ f.enabled = true := by
  cases found : standard.get? c.spec.type with
  | none =>
      simp only [create, found] at made
      cases made
  | some factory =>
      simp only [create, found] at made
      exact standard_names found (ok_of_mapError_eq_ok made)

theorem create_of_get? {g : FilterRegistry} {c : FilterContext} {factory : FilterFactory}
    (found : g.get? c.spec.type = some factory) :
    g.create c = (factory c).mapError .config := by
  simp only [create, found]

end FilterRegistry

/-- A chain of the standard registry has the enabled types in order. -/
theorem Chain.names_of_ofSpecs {specs : List FilterSpec} {fields : FieldMap} {layout : Layout}
    {validator : Option Validator} {onError : OnError} {chain : Chain}
    (made : Chain.ofSpecs .standard specs fields layout validator onError = .ok chain) :
    chain.names = (specs.filter (·.enabled)).map (·.type) := by
  obtain ⟨filters, created, rfl⟩ := ofSpecs_eq_ok_iff.mp made
  have named := (mapM_eq_ok_iff.mp created).imp fun spec f made =>
    FilterRegistry.name_of_create made
  have enabled : filters.filter (·.enabled) = filters := by
    rw [List.filter_eq_self]
    intro f member
    obtain ⟨_, _, _, enabled⟩ := exists_of_forall₂ named.flip member
    exact enabled
  rw [names, make, enabled, ← List.forall₂_eq_eq_eq, List.forall₂_map_left_iff,
    List.forall₂_map_right_iff]
  exact named.flip.imp fun _ _ same => same.1

/-- The instances of a sink write what the configuration says, and own shards if it says so. -/
theorem Sink.allOfConfig_spec {c : SinkConfig} {count : Nat} {s : Sink}
    (member : s ∈ Sink.allOfConfig c count) :
    s.mode = c.output ∧ s.supportsSharding = c.supportsSharding := by
  obtain ⟨number, _, rfl⟩ := List.mem_map.mp member
  cases c <;> exact ⟨rfl, rfl⟩

theorem Sink.length_allOfConfig (c : SinkConfig) (count : Nat) :
    (Sink.allOfConfig c count).length = max count 1 := by
  rw [allOfConfig, List.length_map, List.length_range]

theorem OutputMode.union_self (m : OutputMode) : m.union m = m := by
  cases m <;> rfl

namespace Wiring

variable {w : Wiring}

/-- Sinks of one mode need a record in this mode. -/
theorem mode_of_forall {m : OutputMode} (someSink : w.sinks ≠ [])
    (all : ∀ s ∈ w.sinks, s.mode = m) : w.mode = m := by
  have same : ∀ modes : List OutputMode, (∀ x ∈ modes, x = m) → modes.foldl .union m = m := by
    intro modes
    induction modes with
    | nil => exact fun _ => rfl
    | cons x rest ih =>
        intro all
        rw [List.foldl_cons, all x List.mem_cons_self, OutputMode.union_self]
        exact ih fun y later => all y (List.mem_cons_of_mem x later)
  obtain ⟨first, rest, sinks⟩ := List.exists_cons_of_ne_nil someSink
  rw [sinks] at all
  simp only [mode, sinks, List.map_cons, all first List.mem_cons_self]
  apply same
  intro x member
  obtain ⟨s, inside, rfl⟩ := List.mem_map.mp member
  exact all s (List.mem_cons_of_mem first inside)

theorem exists_resolve (role : String) {name : String} (mapped : name ∈ w.fields.names) :
    ∃ index, w.resolve role name = .ok index := by
  obtain ⟨index, found⟩ := FieldMap.exists_indexOf?_eq_some_iff.mpr mapped
  exact ⟨index, by rw [resolve, found]⟩

/-- Where the field is mapped and every sink can own shards, there is a queue for every sink. -/
theorem exists_dispatcher (sharded : ∀ name, w.shardField = some name →
    name ∈ w.fields.names ∧ ∀ s ∈ w.sinks, s.supportsSharding = true) :
    ∃ d, w.dispatcher = .ok d ∧
      d.queues = if w.shardField.isSome then max w.sinks.length 1 else 1 := by
  cases shard : w.shardField with
  | none => exact ⟨.single, by rw [dispatcher, shard]; rfl, rfl⟩
  | some name =>
      obtain ⟨mapped, supported⟩ := sharded name shard
      obtain ⟨field, resolved⟩ := w.exists_resolve "shard" mapped
      have noSink : (w.sinks.find? fun s => !s.supportsSharding) = none := by
        simpa using supported
      refine ⟨.sharded (w.shardRules.rule field) w.sinks.length, ?_, rfl⟩
      simp only [dispatcher, shard, resolved, noSink, bind, Except.bind, pure, Except.pure]

end Wiring

namespace Config

/-- Two rules are kept when each one is. -/
theorem andThen_eq_ok_iff {first : Rule} {second : Unit → Rule} :
    (first >>= second) = .ok () ↔ first = .ok () ∧ second () = .ok () := by
  cases first with
  | error e => exact iff_of_false nofun fun both => nomatch both.1
  | ok _ => exact ⟨fun h => ⟨rfl, h⟩, fun both => both.2⟩

theorem require_eq_ok_iff {holds : Bool} {e : ConfigError} :
    require holds e = .ok () ↔ holds = true := by
  cases holds with
  | true => exact iff_of_true rfl rfl
  | false => exact iff_of_false nofun nofun

theorem namesRule_eq_ok_iff {seen names : List String} :
    namesRule seen names = .ok () ↔
      names.Nodup ∧ "" ∉ names ∧ ∀ name ∈ names, name ∉ seen := by
  induction names generalizing seen with
  | nil => simp [namesRule]
  | cons name rest ih =>
      rw [namesRule]
      by_cases empty : name = ""
      · simp [empty]
      · by_cases twice : name ∈ seen
        · simp [empty, twice]
        · rw [if_neg empty, if_neg twice, ih]
          simp only [List.nodup_cons, List.mem_cons, forall_eq_or_imp, not_or]
          grind

theorem declaredRule_eq_ok_iff {c : Config} {place : String} {names : List String} :
    declaredRule c place names = .ok () ↔ ∀ name ∈ names, name ∈ c.record.fields := by
  rw [declaredRule]
  cases found : names.find? fun name => !c.record.fields.contains name with
  | none =>
      refine iff_of_true rfl ?_
      simpa using found
  | some name =>
      have undeclared : name ∉ c.record.fields := by simpa using List.find?_some found
      refine iff_of_false nofun ?_
      intro declared
      exact undeclared (declared name (List.mem_of_find?_eq_some found))

/-- What building relies on of a valid configuration. -/
structure KeepsRules (c : Config) : Prop where
  maxFields : 0 < c.record.maxFields
  nodup : c.record.fields.Nodup
  nonempty : "" ∉ c.record.fields
  required : ∀ name ∈ c.requiredFields, name ∈ c.record.fields
  inputRoom : c.topology.inputQueueSize ≠ 0
  sinkRoom : c.topology.sinkQueueSize ≠ 0
  uploadRoom : c.topology.uploadQueueSize ≠ 0
  sinkWorkers : c.topology.sinkWorkers ≠ 0
  filterWorkers : c.topology.filterWorkers.getD 1 ≠ 0
  outputFields : ∀ name ∈ c.topology.outputFields, name ∈ c.record.fields
  projected : c.sink.output.needsFields = true → c.topology.outputFields ≠ []
  sharded : ∀ name, c.topology.shardField = some name →
    name ∈ c.record.fields ∧ c.sink.supportsSharding = true
  types : ∀ spec ∈ c.filters, spec.type ∈ FilterSpec.knownTypes

variable {c : Config}

theorem positiveRule_eq_ok_iff {field : String} {n : Nat} :
    positiveRule field n = .ok () ↔ n ≠ 0 := by
  rw [positiveRule, require_eq_ok_iff, decide_eq_true_iff]

theorem shardRule_eq_ok_iff : c.shardRule = .ok () ↔ ∀ name, c.topology.shardField = some name →
    name ∈ c.record.fields ∧ c.sink.supportsSharding = true := by
  rw [shardRule]
  cases c.topology.shardField with
  | none => exact iff_of_true rfl nofun
  | some name =>
      simp only [andThen_eq_ok_iff, declaredRule_eq_ok_iff, require_eq_ok_iff, List.mem_singleton,
        forall_eq, Option.some.injEq, forall_eq']

theorem filtersRule_eq_ok_iff :
    c.filtersRule = .ok () ↔ ∀ spec ∈ c.filters, spec.type ∈ FilterSpec.knownTypes := by
  rw [filtersRule]
  cases found : c.filters.find? fun f => !FilterSpec.knownTypes.contains f.type with
  | none =>
      refine iff_of_true rfl ?_
      simpa using found
  | some spec =>
      have unknown : spec.type ∉ FilterSpec.knownTypes := by simpa using List.find?_some found
      refine iff_of_false nofun ?_
      intro known
      exact unknown (known spec (List.mem_of_find?_eq_some found))

theorem keepsRules_of_validate (valid : c.validate = .ok ()) : c.KeepsRules := by
  simp only [validate, recordRule, topologyRule, andThen_eq_ok_iff, require_eq_ok_iff,
    positiveRule_eq_ok_iff, namesRule_eq_ok_iff, declaredRule_eq_ok_iff, shardRule_eq_ok_iff,
    filtersRule_eq_ok_iff] at valid
  obtain ⟨⟨positive, _, ⟨nodup, nonempty, _⟩, required⟩, ⟨input, sink, upload, sinks, filters,
    outputs, projected, sharded⟩, _, _, _, types, _⟩ := valid
  refine ⟨?_, nodup, nonempty, required, input, sink, upload, sinks, filters, outputs, ?_, sharded,
    types⟩
  · exact Nat.pos_of_ne_zero (by simpa using positive)
  · intro needed
    simpa [needed] using projected

namespace KeepsRules

theorem exists_layout (h : c.KeepsRules) (short : c.record.maxFields ≤ Layout.fieldLimit) :
    ∃ layout, c.layout = .ok layout := by
  obtain ⟨layout, made⟩ := Layout.exists_make_eq_ok c.record.separator_ne h.maxFields short
  exact ⟨layout, by rw [Config.layout, made]; rfl⟩

theorem exists_fieldMap (h : c.KeepsRules) :
    ∃ fields, c.fieldMap = .ok fields ∧ fields.names = c.record.fields := by
  obtain ⟨fields, made, names⟩ := FieldMap.exists_ofNames ⟨h.nodup, h.nonempty⟩
  exact ⟨fields, by rw [fieldMap, made]; rfl, names⟩

theorem exists_validator (h : c.KeepsRules) {fields : FieldMap}
    (names : fields.names = c.record.fields) : ∃ validator, c.validator fields = .ok validator := by
  rw [Config.validator]
  cases validates : c.validates with
  | false => exact ⟨none, rfl⟩
  | true =>
      have each : ∀ name ∈ c.requiredFields, ∃ index, requiredField fields name = .ok index := by
        intro name member
        have mapped : name ∈ fields.names := names ▸ h.required name member
        obtain ⟨index, found⟩ := FieldMap.exists_indexOf?_eq_some_iff.mpr mapped
        exact ⟨index, by rw [requiredField, found]⟩
      obtain ⟨indices, resolved⟩ := exists_mapM_eq_ok each
      rw [resolved]
      exact ⟨_, rfl⟩

theorem emptySize?_assemble (h : c.KeepsRules) {available : Nat} (positive : 0 < available)
    (layout : Layout) (fields : FieldMap) (validator : Option Validator) (chain : Chain) :
    (c.assemble available layout fields validator chain).emptySize? = none := by
  have workers : c.topology.workers available ≠ 0 := by
    have configured := h.filterWorkers
    rw [TopologyConfig.workers]
    cases number : c.topology.filterWorkers with
    | none => exact Nat.ne_of_gt positive
    | some n => simpa [number] using configured
  simp [Wiring.emptySize?, assemble, h.inputRoom, h.sinkRoom, h.uploadRoom, workers]

/-- The parts of a valid configuration fit together, whatever its filters are. -/
theorem assembles (h : c.KeepsRules) {available : Nat} (positive : 0 < available) (layout : Layout)
    {fields : FieldMap} (names : fields.names = c.record.fields) (validator : Option Validator)
    (chain : Chain) :
    ∃ t, (c.assemble available layout fields validator chain).build = .ok t ∧
      t.projection.mode = c.sink.output ∧
      t.dispatcher.queues = if c.topology.shardField.isSome then c.topology.sinkWorkers else 1 := by
  have length := Sink.length_allOfConfig c.sink c.topology.sinkWorkers
  have someSink : (c.assemble available layout fields validator chain).sinks ≠ [] := by
    apply List.ne_nil_of_length_pos
    rw [assemble, length]
    exact Nat.lt_of_lt_of_le Nat.one_pos (Nat.le_max_right _ 1)
  have mode : (c.assemble available layout fields validator chain).mode = c.sink.output :=
    Wiring.mode_of_forall someSink fun s member => (Sink.allOfConfig_spec member).1
  have each : ∀ name ∈ c.topology.outputFields, ∃ index,
      (c.assemble available layout fields validator chain).resolve "output" name = .ok index := by
    intro name member
    apply Wiring.exists_resolve
    exact names ▸ h.outputFields name member
  obtain ⟨outputFields, resolved⟩ := exists_mapM_eq_ok each
  obtain ⟨d, chosen, queues⟩ :=
    Wiring.exists_dispatcher (w := c.assemble available layout fields validator chain)
      fun name shard => by
        obtain ⟨declared, supported⟩ := h.sharded name shard
        exact ⟨names ▸ declared, fun s member => (Sink.allOfConfig_spec member).2.trans supported⟩
  have projected : (c.assemble available layout fields validator chain).mode.needsFields = true →
      outputFields ≠ [] := by
    intro needed none
    apply h.projected (mode ▸ needed)
    rw [← List.length_eq_zero_iff, ← length_of_mapM_eq_ok resolved, none, List.length_nil]
  obtain ⟨t, built⟩ := Wiring.exists_build_eq_ok someSink
    (h.emptySize?_assemble positive layout fields validator chain) resolved projected chosen
  have parts := Wiring.builds_to built
  refine ⟨t, built, parts.mode.trans mode, ?_⟩
  rw [← Except.ok.inj (chosen.symm.trans parts.dispatcher), queues]
  simp only [assemble, length]
  have workers := h.sinkWorkers
  split
  · omega
  · rfl

end KeepsRules

/-- The factory of the type of a filter refuses its options. -/
def Rejects (c : Config) (spec : FilterSpec) : Prop :=
  ∃ layout fields validator factory fault, c.layout = .ok layout ∧ c.fieldMap = .ok fields ∧
    c.validator fields = .ok validator ∧
    FilterRegistry.standard.get? spec.type = some factory ∧
    factory { spec, fields, layout, validator } = .error fault

theorem maxFields_le_of_layout {layout : Layout} (made : c.layout = .ok layout) :
    c.record.maxFields ≤ Layout.fieldLimit := by
  rw [← Layout.maxFields_of_make (ok_of_mapError_eq_ok made)]
  exact layout.maxFields_le

/-- A chain is made only where no factory refuses. -/
theorem not_rejects_of_ofSpecs {layout : Layout} {fields : FieldMap} {validator : Option Validator}
    {chain : Chain} (hlayout : c.layout = .ok layout) (hfields : c.fieldMap = .ok fields)
    (hvalidator : c.validator fields = .ok validator)
    (made : Chain.ofSpecs .standard c.filters fields layout validator c.topology.onError =
      .ok chain)
    {spec : FilterSpec} (member : spec ∈ c.filters) (enabled : spec.enabled = true) :
    ¬ c.Rejects spec := by
  rintro ⟨layout', fields', validator', factory, fault, hlayout', hfields', hvalidator', found,
    refused⟩
  cases hlayout.symm.trans hlayout'
  cases hfields.symm.trans hfields'
  cases hvalidator.symm.trans hvalidator'
  obtain ⟨filters, created, _⟩ := Chain.ofSpecs_eq_ok_iff.mp made
  obtain ⟨f, _, created⟩ := exists_of_forall₂ (mapM_eq_ok_iff.mp created)
    (List.mem_filter.mpr ⟨member, enabled⟩)
  rw [FilterRegistry.create_of_get? found, refused] at created
  cases created

namespace KeepsRules

/-- Where no factory refuses, a chain is made. -/
theorem exists_ofSpecs (h : c.KeepsRules) {layout : Layout} {fields : FieldMap}
    {validator : Option Validator} (hlayout : c.layout = .ok layout)
    (hfields : c.fieldMap = .ok fields) (hvalidator : c.validator fields = .ok validator)
    (accepted : ∀ spec ∈ c.filters, spec.enabled = true → ¬ c.Rejects spec) :
    ∃ chain, Chain.ofSpecs .standard c.filters fields layout validator c.topology.onError =
      .ok chain := by
  have each : ∀ spec ∈ c.filters.filter (·.enabled), ∃ f,
      FilterRegistry.standard.create { spec, fields, layout, validator } = .ok f := by
    intro spec chosen
    obtain ⟨member, enabled⟩ := List.mem_filter.mp chosen
    obtain ⟨factory, found⟩ := FilterRegistry.exists_standard (h.types spec member)
    rw [FilterRegistry.create_of_get? found]
    cases made : factory { spec, fields, layout, validator } with
    | ok f => exact ⟨f, rfl⟩
    | error fault =>
        exact absurd ⟨layout, fields, validator, factory, fault, hlayout, hfields, hvalidator,
          found, made⟩ (accepted spec member enabled)
  obtain ⟨filters, created⟩ := exists_mapM_eq_ok each
  exact ⟨_, Chain.ofSpecs_eq_ok_iff.mpr ⟨filters, created, rfl⟩⟩

/-- Every wiring of a valid configuration builds. -/
theorem exists_build_eq_ok (h : c.KeepsRules) {available : Nat} (positive : 0 < available)
    {w : Wiring} (wired : c.wiring available = .ok w) :
    ∃ t, w.build = .ok t ∧ c.build available = .ok t ∧ t.chain.names = c.enabledFilters ∧
      t.projection.mode = c.sink.output ∧
      t.dispatcher.queues = if c.topology.shardField.isSome then c.topology.sinkWorkers else 1 := by
  obtain ⟨layout, fields, validator, chain, _, hfields, _, made, rfl⟩ := wiring_eq_ok_iff.mp wired
  obtain ⟨fields', hfields', names⟩ := h.exists_fieldMap
  cases hfields.symm.trans hfields'
  obtain ⟨t, built, mode, queues⟩ := h.assembles positive layout names validator chain
  have chained : t.chain.names = c.enabledFilters := by
    rw [(Wiring.builds_to built).chain]
    exact Chain.names_of_ofSpecs made
  refine ⟨t, built, ?_, chained, mode, queues⟩
  rw [build, wired]
  simp only [bind, Except.bind, built, Except.mapError]

end KeepsRules

/-- A valid configuration builds unless it allows more fields than a layout can have or the factory
of an enabled filter refuses its options. Its separator is one that a layout takes, its fields can
be mapped and its required fields found, there is a factory for every filter, and when all parts are
made they fit together. The topology then has the enabled filters in order, the mode of the sink,
and a queue for every sink worker if there is a field to shard by, else one. -/
theorem build_of_validate (valid : c.validate = .ok ()) {available : Nat}
    (positive : 0 < available) :
    ((∃ e, c.build available = .error e) ↔ Layout.fieldLimit < c.record.maxFields ∨
      ∃ spec ∈ c.filters, spec.enabled = true ∧ c.Rejects spec) ∧
      (∀ e, Layout.make c.record.separator c.record.maxFields = .error e →
        e = .invalidLayout
          s!"max_fields must be between 1 and {Layout.fieldLimit}, got {c.record.maxFields}") ∧
      (∃ fields validator, c.fieldMap = .ok fields ∧ c.validator fields = .ok validator) ∧
      (∀ spec ∈ c.filters, ∃ factory, FilterRegistry.standard.get? spec.type = some factory) ∧
      (∀ w, c.wiring available = .ok w → ∃ t, w.build = .ok t) ∧
      ∀ t, c.build available = .ok t → t.chain.names = c.enabledFilters ∧
        t.projection.mode = c.sink.output ∧
        t.dispatcher.queues =
          if c.topology.shardField.isSome then c.topology.sinkWorkers else 1 := by
  have rules := keepsRules_of_validate valid
  obtain ⟨fields, hfields, names⟩ := rules.exists_fieldMap
  obtain ⟨validator, hvalidator⟩ := rules.exists_validator names
  refine ⟨⟨?_, ?_⟩, ?_, ⟨fields, validator, hfields, hvalidator⟩, ?_, ?_, ?_⟩
  · rintro ⟨e, failed⟩
    by_contra fine
    rw [not_or, Nat.not_lt] at fine
    obtain ⟨layout, hlayout⟩ := rules.exists_layout fine.1
    obtain ⟨chain, made⟩ := rules.exists_ofSpecs hlayout hfields hvalidator
      fun spec member enabled rejected => fine.2 ⟨spec, member, enabled, rejected⟩
    obtain ⟨t, _, built, _⟩ := rules.exists_build_eq_ok positive
      (wiring_eq_ok_iff.mpr ⟨layout, fields, validator, chain, hlayout, hfields, hvalidator, made,
        rfl⟩)
    rw [failed] at built
    cases built
  · intro bad
    cases built : c.build available with
    | error e => exact ⟨e, rfl⟩
    | ok t =>
        have parts := builds_to built
        rcases bad with long | ⟨spec, member, enabled, rejected⟩
        · exact absurd (maxFields_le_of_layout parts.layout) (Nat.not_le_of_lt long)
        · exact absurd rejected (not_rejects_of_ofSpecs parts.layout parts.fields parts.validator
            parts.chain member enabled)
  · exact fun e refused =>
      (Layout.make_eq_error c.record.separator_ne rules.maxFields refused).2
  · exact fun spec member => FilterRegistry.exists_standard (rules.types spec member)
  · intro w wired
    obtain ⟨t, built, _⟩ := rules.exists_build_eq_ok positive wired
    exact ⟨t, built⟩
  · intro t built
    obtain ⟨w, wired, _⟩ := (builds_to built).wiring
    obtain ⟨t', _, built', parts⟩ := rules.exists_build_eq_ok positive wired
    cases built.symm.trans built'
    exact parts

/-- Three sinks that own shards, and two filters, the second of which is switched off. -/
def shardedConfig : Config where
  record := { separator := 124, separator_ne := bar_ne, fields := ["id", "tags"] }
  topology := { sinkWorkers := 3, outputFields := ["tags"], shardField := some "id" }
  sink := .file { dir := "out", output := .fields }
  filters := [
    ⟨"set_field", true, [("field", .string "id"), ("value", .string "x")]⟩,
    ⟨"split", false, []⟩]

/-- The same with the second filter switched on, which has no options. -/
def unsplitConfig : Config :=
  { shardedConfig with filters := [⟨"split", true, []⟩] }

/-- The one builds, and the other is valid too but refused by the factory of its filter. -/
theorem sharded_build_of_validate :
    shardedConfig.validate = .ok () ∧ unsplitConfig.validate = .ok () ∧
      (∃ t, shardedConfig.build 2 = .ok t ∧ t.chain.names = ["set_field"] ∧
        t.projection.mode = .fields ∧ t.dispatcher.queues = 3) ∧
      ∃ spec ∈ unsplitConfig.filters, spec.enabled = true ∧ unsplitConfig.Rejects spec := by
  have valid : shardedConfig.validate = .ok () := by decide +kernel
  have valid' : unsplitConfig.validate = .ok () := by decide +kernel
  have built : (shardedConfig.build 2).toBool = true := by decide +kernel
  have failed : (unsplitConfig.build 2).toBool = false := by decide +kernel
  obtain ⟨_, _, _, _, _, parts⟩ := build_of_validate valid Nat.two_pos
  obtain ⟨⟨rejected, _⟩, _⟩ := build_of_validate valid' Nat.two_pos
  refine ⟨valid, valid', ?_, ?_⟩
  · cases outcome : shardedConfig.build 2 with
    | error e => rw [outcome] at built; cases built
    | ok t => exact ⟨t, rfl, parts t outcome⟩
  · cases outcome : unsplitConfig.build 2 with
    | ok t => rw [outcome] at failed; cases failed
    | error e =>
        have short : ¬ Layout.fieldLimit < unsplitConfig.record.maxFields := by decide
        exact (rejected ⟨e, outcome⟩).resolve_left short

end Config

end RecordPipeline
