import RecordPipeline.Command.Build
import RecordPipeline.Proofs.Record.FieldNames
import RecordPipeline.Proofs.Topology.Fitting

/-!
What building a topology from a configuration goes through: each part is read from the
configuration, and the chain is made of built-in filters, one for each enabled description.
-/

namespace RecordPipeline

namespace FilterContext

variable (c : FilterContext)

theorem string?_of_required {key value : String} (found : c.required key = .ok value) :
    c.spec.string? key = some value := by
  unfold required at found
  split at found
  · rename_i value' present
    cases found
    exact present
  · cases found

theorem indexOf?_of_resolve {name : String} {index : Nat} (found : c.resolve name = .ok index) :
    c.fields.indexOf? name = some index := by
  unfold resolve at found
  split at found
  · rename_i index' present
    cases found
    exact present
  · cases found

/-- A field option names a field. -/
theorem exists_name_of_field {key : String} {index : Nat} (found : c.field key = .ok index) :
    ∃ name, c.spec.string? key = some name ∧ c.fields.indexOf? name = some index := by
  obtain ⟨name, hname, hindex⟩ := bind_eq_ok_iff.mp found
  exact ⟨name, c.string?_of_required hname, c.indexOf?_of_resolve hindex⟩

end FilterContext

namespace BuiltIn

/-- A filter and the description that it is made from. -/
inductive MadeFrom (c : FilterContext) : BuiltIn → Prop where
  | noop : MadeFrom c .noop
  | setField {f : SetField} (type : c.spec.type = "set_field") (made : makeSetField c = .ok f) :
      MadeFrom c (.setField f)
  | drop {f : DropRule} (made : makeDrop c = .ok f) : MadeFrom c (.drop f)
  | split {f : Split} (type : c.spec.type = "split") (made : makeSplit c = .ok f) :
      MadeFrom c (.split f)

/-- A splitting filter has the field that its description names and the check of its context. -/
theorem options_of_makeSplit {c : FilterContext} {f : Split} (made : makeSplit c = .ok f) :
    ∃ name, c.spec.string? "field" = some name ∧ c.fields.indexOf? name = some f.field ∧
      f.validator = c.validator := by
  unfold makeSplit at made
  obtain ⟨field, hfield, made⟩ := bind_eq_ok_iff.mp made
  obtain ⟨name, hname, hindex⟩ := c.exists_name_of_field hfield
  unfold Split.make at made
  dsimp only at made
  split at made
  · cases made
  · cases made
    exact ⟨name, hname, hindex, rfl⟩

/-- A setting filter has the field and the value that its description names. -/
theorem options_of_makeSetField {c : FilterContext} {f : SetField}
    (made : makeSetField c = .ok f) :
    ∃ name value, c.spec.string? "field" = some name ∧ c.fields.indexOf? name = some f.field ∧
      c.spec.string? "value" = some value ∧ f.value = Bytes.ofString value := by
  unfold makeSetField at made
  obtain ⟨field, hfield, made⟩ := bind_eq_ok_iff.mp made
  obtain ⟨name, hname, hindex⟩ := c.exists_name_of_field hfield
  obtain ⟨value, hvalue, made⟩ := bind_eq_ok_iff.mp made
  cases made
  exact ⟨name, value, hname, hindex, c.string?_of_required hvalue, rfl⟩

end BuiltIn

/-- The standard registry makes built-in filters. -/
theorem FilterRegistry.create_standard {c : FilterContext} {f : Filter}
    (made : FilterRegistry.standard.create c = .ok f) :
    ∃ b : BuiltIn, f = b.filter ∧ BuiltIn.MadeFrom c b := by
  unfold create standard at made
  simp only [Table.get?] at made
  split at made
  · rename_i factory found
    have made := ok_of_mapError_eq_ok made
    split at found
    · cases found
      cases made
      exact ⟨.noop, rfl, .noop⟩
    · split at found
      · rename_i type
        cases found
        obtain ⟨f, hmade, rfl⟩ := exists_of_map_eq_ok made
        exact ⟨.setField f, rfl, .setField type.symm hmade⟩
      · split at found
        · cases found
          obtain ⟨f, hmade, rfl⟩ := exists_of_map_eq_ok made
          exact ⟨.drop f, rfl, .drop hmade⟩
        · split at found
          · rename_i type
            cases found
            obtain ⟨f, hmade, rfl⟩ := exists_of_map_eq_ok made
            exact ⟨.split f, rfl, .split type.symm hmade⟩
          · cases found
  · cases made

theorem FilterRegistry.builtIns_of_forall₂ {specs : List FilterSpec} {fields : FieldMap}
    {layout : Layout} {validator : Option Validator} {filters : List Filter}
    (made : List.Forall₂ (fun spec f => FilterRegistry.standard.create
      { spec, fields, layout, validator } = .ok f) specs filters) :
    ∃ bs : List BuiltIn, filters = bs.map BuiltIn.filter ∧
      ∀ b ∈ bs, ∃ spec ∈ specs, BuiltIn.MadeFrom { spec, fields, layout, validator } b := by
  induction made with
  | nil => exact ⟨[], rfl, fun _ member => absurd member List.not_mem_nil⟩
  | @cons spec f rest fs made _ ih =>
      obtain ⟨b, rfl, first⟩ := create_standard made
      obtain ⟨bs, rfl, others⟩ := ih
      refine ⟨b :: bs, rfl, ?_⟩
      intro b' member
      rcases List.mem_cons.mp member with rfl | member
      · exact ⟨spec, List.mem_cons_self, first⟩
      · obtain ⟨spec', inside, made'⟩ := others b' member
        exact ⟨spec', List.mem_cons_of_mem spec inside, made'⟩

theorem Chain.ofSpecs_eq_ok_iff {g : FilterRegistry} {specs : List FilterSpec} {fields : FieldMap}
    {layout : Layout} {validator : Option Validator} {onError : OnError} {chain : Chain} :
    Chain.ofSpecs g specs fields layout validator onError = .ok chain ↔
      ∃ filters, (specs.filter (·.enabled)).mapM (fun spec =>
        g.create { spec, fields, layout, validator }) = .ok filters ∧
        make filters onError = chain := by
  rw [ofSpecs, bind_eq_ok_iff]
  simp only [pure, Except.pure, Except.ok.injEq]

/-- A chain that the standard registry makes consists of built-in filters, each made from an enabled
description. -/
theorem Chain.builtIns_of_ofSpecs {specs : List FilterSpec} {fields : FieldMap} {layout : Layout}
    {validator : Option Validator} {onError : OnError} {chain : Chain}
    (made : Chain.ofSpecs .standard specs fields layout validator onError = .ok chain) :
    ∃ bs : List BuiltIn, chain = make (bs.map BuiltIn.filter) onError ∧
      ∀ b ∈ bs, ∃ spec ∈ specs, spec.enabled = true ∧
        BuiltIn.MadeFrom { spec, fields, layout, validator } b := by
  obtain ⟨filters, created, rfl⟩ := ofSpecs_eq_ok_iff.mp made
  obtain ⟨bs, rfl, all⟩ := FilterRegistry.builtIns_of_forall₂ (mapM_eq_ok_iff.mp created)
  refine ⟨bs, rfl, ?_⟩
  intro b member
  obtain ⟨spec, chosen, made⟩ := all b member
  obtain ⟨inside, enabled⟩ := List.mem_filter.mp chosen
  exact ⟨spec, inside, enabled, made⟩

/-- A bar may stand between fields. -/
theorem bar_ne : (124 : UInt8) ≠ newline ∧ (124 : UInt8) ≠ carriageReturn := by decide

namespace Config

variable {c : Config}

/-- What a topology that was built has of its configuration. -/
structure BuildsTo (c : Config) (available : Nat) (t : Topology) : Prop where
  layout : c.layout = .ok t.layout
  fields : c.fieldMap = .ok t.fields
  validator : c.validator t.fields = .ok t.validator
  chain : Chain.ofSpecs .standard c.filters t.fields t.layout t.validator c.topology.onError =
    .ok t.chain
  wiring : ∃ w : Wiring, c.wiring available = .ok w ∧ w.build = .ok t

theorem wiring_eq_ok_iff {available : Nat} {w : Wiring} :
    c.wiring available = .ok w ↔ ∃ layout fields validator chain,
      c.layout = .ok layout ∧ c.fieldMap = .ok fields ∧ c.validator fields = .ok validator ∧
        Chain.ofSpecs .standard c.filters fields layout validator c.topology.onError = .ok chain ∧
        c.assemble available layout fields validator chain = w := by
  unfold wiring
  constructor
  · intro wired
    obtain ⟨layout, hlayout, wired⟩ := bind_eq_ok_iff.mp wired
    obtain ⟨fields, hfields, wired⟩ := bind_eq_ok_iff.mp wired
    obtain ⟨validator, hvalidator, wired⟩ := bind_eq_ok_iff.mp wired
    obtain ⟨chain, made, wired⟩ := bind_eq_ok_iff.mp wired
    exact ⟨layout, fields, validator, chain, hlayout, hfields, hvalidator,
      ok_of_mapError_eq_ok made, Except.ok.inj wired⟩
  · rintro ⟨layout, fields, validator, chain, hlayout, hfields, hvalidator, made, rfl⟩
    rw [hlayout, hfields]
    simp only [bind, Except.bind, hvalidator, made, Except.mapError, pure, Except.pure]

theorem builds_to {available : Nat} {t : Topology} (built : c.build available = .ok t) :
    c.BuildsTo available t := by
  obtain ⟨w, wired, built⟩ := bind_eq_ok_iff.mp built
  have built := ok_of_mapError_eq_ok built
  have parts := Wiring.builds_to built
  obtain ⟨layout, fields, validator, chain, hlayout, hfields, hvalidator, made, rfl⟩ :=
    wiring_eq_ok_iff.mp wired
  refine ⟨?_, ?_, ?_, ?_, _, wired, built⟩
  · rw [parts.layout]
    exact hlayout
  · rw [parts.fields]
    exact hfields
  · rw [parts.fields, parts.validator]
    exact hvalidator
  · rw [parts.fields, parts.layout, parts.validator, parts.chain]
    exact made

/-- With required fields the check of a topology is that these are not empty. -/
theorem BuildsTo.requires {available : Nat} {t : Topology} (parts : c.BuildsTo available t)
    (required : c.requiredFields ≠ []) :
    ∃ indices, List.Forall₂ (fun name index => t.fields.indexOf? name = some index)
      c.requiredFields indices ∧ t.validator = some (.requiring indices) := by
  have made := parts.validator
  have validates : c.validates = true := by simp [validates, required]
  unfold Config.validator at made
  simp only [validates, Bool.not_true, Bool.false_eq_true, if_false] at made
  obtain ⟨indices, resolved, made⟩ := bind_eq_ok_iff.mp made
  refine ⟨indices, ?_, (Except.ok.inj made).symm⟩
  refine (mapM_eq_ok_iff.mp resolved).imp ?_
  intro name index found
  unfold requiredField at found
  split at found
  · rename_i index' present
    cases found
    exact present
  · cases found

end Config

end RecordPipeline
