import RecordPipeline.Proofs.Chain.Required
import RecordPipeline.Proofs.Config.Building
import RecordPipeline.Proofs.Topology.Sharding

/-!
Required fields reach the sinks. In a topology that was built from a configuration, no record comes
to the end of the chain with a required field empty, unless the configuration itself puts an empty
value there.
-/

namespace RecordPipeline

theorem Bytes.ofString_ne_nil {s : String} (h : s ≠ "") : Bytes.ofString s ≠ [] := by
  intro none
  have noBytes : s.toByteArray = ByteArray.empty :=
    ByteArray.ext (Array.toList_eq_nil_iff.mp none)
  exact h (String.toByteArray_inj.mp noBytes)

namespace Config

variable {c : Config}

/-- No enabled filter sets a required field to an empty value. -/
def EmptiesNothing (c : Config) : Prop :=
  ∀ spec ∈ c.filters, spec.enabled = true → spec.type = "set_field" →
    ∀ name ∈ c.requiredFields, spec.string? "field" = some name → spec.string? "value" ≠ some ""

/-- A record has something in every field that the configuration requires. -/
def Satisfied (c : Config) (fields : FieldMap) (r : Record) : Prop :=
  ∀ name ∈ c.requiredFields, ∃ index, fields.indexOf? name = some index ∧ r.get index ≠ []

/-- Every filter of the chain respects the required fields. -/
theorem respects_of_madeFrom {spec : FilterSpec} {fields : FieldMap} {layout : Layout}
    {indices : List Nat} {b : BuiltIn} (safe : c.EmptiesNothing) (inside : spec ∈ c.filters)
    (enabled : spec.enabled = true)
    (resolved : List.Forall₂ (fun name index => fields.indexOf? name = some index)
      c.requiredFields indices)
    (made : BuiltIn.MadeFrom { spec, fields, layout, validator := some (.requiring indices) } b) :
    b.Respects indices := by
  cases made with
  | noop => trivial
  | drop made => trivial
  | split _ made =>
      obtain ⟨_, _, _, validator⟩ := BuiltIn.options_of_makeSplit made
      exact validator
  | @setField f type made =>
      obtain ⟨name, value, named, found, valued, same⟩ := BuiltIn.options_of_makeSetField made
      intro required
      obtain ⟨other, requires, found'⟩ := exists_of_forall₂ resolved.flip required
      have wanted : name ∈ c.requiredFields := FieldMap.name_unique found found' ▸ requires
      rw [same]
      apply Bytes.ofString_ne_nil
      intro empty
      exact safe spec inside enabled type name wanted named (empty ▸ valued)

/-- Where no filter empties a required field, every record that comes to the end of the chain has
something in all of them, whatever the line and with either error policy. So each output that a sink
receives is that of such a record. -/
theorem required_fields_reach_sinks {available : Nat} {t : Topology}
    (built : c.build available = .ok t) (required : c.requiredFields ≠ [])
    (safe : c.EmptiesNothing) :
    (∀ metadata line, ∀ r ∈ t.survivors metadata line, c.Satisfied t.fields r) ∧
      ∀ feed environment h f, Flow.Run t (Flow.started t feed environment) h f →
        ∀ entry ∈ h.received, ∃ r, c.Satisfied t.fields r ∧ entry.2 = t.projection.project r := by
  have parts := builds_to built
  obtain ⟨indices, resolved, validator⟩ := parts.requires required
  obtain ⟨bs, chain, made⟩ := Chain.builtIns_of_ofSpecs parts.chain
  have respects : ∀ b ∈ bs, b.Respects indices := by
    intro b member
    obtain ⟨spec, inside, enabled, made⟩ := made b member
    rw [validator] at made
    exact respects_of_madeFrom safe inside enabled resolved made
  have survivors : ∀ metadata line, ∀ r ∈ t.survivors metadata line, c.Satisfied t.fields r := by
    intro metadata line r survivor name wanted
    obtain ⟨index, listed, found⟩ := exists_of_forall₂ resolved wanted
    exact ⟨index, found,
      Topology.filled_of_survivors chain validator respects metadata line r survivor index listed⟩
  refine ⟨survivors, ?_⟩
  intro feed environment h f run entry received
  obtain ⟨w, _, wired⟩ := parts.wiring
  obtain ⟨b, _, line, _, r, survivor, projected⟩ := run.received_survivor
    (Wiring.build_fits wired) (Flow.started_fresh t feed environment) received
  exact ⟨r, survivors b.metadata line r survivor, projected⟩

/-- A record for each tag of a line. Its other field, which may be empty, is emptied. -/
def taggedConfig : Config where
  record := { separator := 124, separator_ne := bar_ne, fields := ["id", "tags"] }
  topology := { filterWorkers := some 1, onError := .forward }
  sink := .null
  filters := [
    ⟨"split", true, [("field", .string "tags"), ("delimiter", .string ";"),
      ("keep_empty", .boolean true)]⟩,
    ⟨"set_field", true, [("field", .string "id"), ("value", .string "")]⟩]
  requiredFields := ["tags"]

/-- One batch of the lines `1|a;;b` and `2|`. -/
def taggedFeed : List Batch := [⟨[49, 124, 97, 59, 59, 98, 10, 50, 124, 10], none⟩]

def taggedEvents : List FlowEvent :=
  [.send, .take 0, .processLine 0, .deliver 0, .deliver 0, .processLine 0, .receive 0, .receive 0]

theorem tagged_required_fields_reach_sinks :
    taggedConfig.validate = .ok () ∧ ∃ t, taggedConfig.build 1 = .ok t ∧
      t.survivors none [50, 124] = [] ∧
      (t.survivors none [49, 124, 97, 59, 59, 98]).map Record.text = [[124, 97], [124, 98]] ∧
      (∀ r ∈ t.survivors none [49, 124, 97, 59, 59, 98], taggedConfig.Satisfied t.fields r) ∧
      ∃ h f, Flow.Run t (Flow.started t taggedFeed {}) h f ∧ h.received.length = 2 ∧
        ∀ entry ∈ h.received, ∃ r, taggedConfig.Satisfied t.fields r ∧
          entry.2 = t.projection.project r := by
  have valid : taggedConfig.validate = .ok () := by decide +kernel
  have outcome : (taggedConfig.build 1).map (fun t =>
      (Flow.follow t taggedEvents {} (Flow.started t taggedFeed {})).map fun p =>
        (t.survivors none [50, 124], (t.survivors none [49, 124, 97, 59, 59, 98]).map Record.text,
          p.1.received.length)) = .ok (some ([], [[124, 97], [124, 98]], 2)) := by decide +kernel
  obtain ⟨t, built, outcome⟩ := exists_of_map_eq_ok outcome
  obtain ⟨⟨h, f⟩, followed, facts⟩ := Option.map_eq_some_iff.mp outcome
  simp only [Prod.mk.injEq] at facts
  obtain ⟨refused, pieces, two⟩ := facts
  have safe : taggedConfig.EmptiesNothing := by
    simp [EmptiesNothing, taggedConfig, FilterSpec.string?, Table.get?, Toml.string?]
  obtain ⟨survivors, received⟩ := required_fields_reach_sinks built (by decide) safe
  have run := Flow.Run.start.follow followed
  exact ⟨valid, t, built, refused, pieces, survivors none _, h, f, run, two,
    received taggedFeed {} h f run⟩

end Config

end RecordPipeline
