import RecordPipeline.Config.Basic
import RecordPipeline.Filter.BuiltIn
import RecordPipeline.Record.FieldMap

/-!
Making filters from their descriptions. A registry finds the factory of a type by its name; the
factory reads the options and refuses those that make no filter.
-/

namespace RecordPipeline

/-- What a factory may look at: the description, and the records that the filter will see. -/
structure FilterContext where
  spec : FilterSpec
  fields : FieldMap
  layout : Layout
  validator : Option Validator := none

namespace FilterContext

def required (c : FilterContext) (key : String) : Except FilterFault String :=
  match c.spec.string? key with
  | some value => .ok value
  | none => .error (.missingOption c.spec.type key)

def resolve (c : FilterContext) (name : String) : Except FilterFault Nat :=
  match c.fields.indexOf? name with
  | some index => .ok index
  | none => .error (.unknownField c.spec.type name)

/-- The field that an option names. -/
def field (c : FilterContext) (key : String) : Except FilterFault Nat := do
  c.resolve (← c.required key)

end FilterContext

abbrev FilterFactory := FilterContext → Except FilterFault Filter

namespace BuiltIn

open FilterContext

def makeSetField (c : FilterContext) : Except FilterFault SetField := do
  let field ← c.field "field"
  let value ← c.required "value"
  return {
    field, value := Bytes.ofString value
    onlyIfEmpty := (c.spec.boolean? "only_if_empty").getD false }

def makeSplit (c : FilterContext) : Except FilterFault Split := do
  let field ← c.field "field"
  let delimiter := (c.spec.string? "delimiter").getD ","
  Split.make field (Bytes.ofString delimiter) ((c.spec.boolean? "keep_empty").getD false)
    c.validator

def makeCondition (c : FilterContext) (name : String) (operator value : Option String) :
    Except FilterFault Condition := do
  let field ← c.resolve name
  let operator ← (Operator.parse (operator.getD "eq") value).mapError .operator
  if operator.needsValue && value.isNone then throw (.missingValue name operator.debug)
  return { field, operator, value := (value.map Bytes.ofString).getD [] }

/-- A condition that stands in a table of its own. -/
def makeListed (c : FilterContext) (entry : Toml) : Except FilterFault Condition := do
  match entry.table? with
  | none => throw .conditionNotTable
  | some table =>
    let text? (key : String) := (table.get? key).bind Toml.string?
    match text? "field" with
    | none => throw .conditionWithoutField
    | some name => makeCondition c name (text? "condition") (text? "value")

def makeDrop (c : FilterContext) : Except FilterFault DropRule := do
  let action ← match c.spec.string? "action" with
    | none | some "drop" => pure DropAction.drop
    | some "keep" => pure DropAction.keep
    | some other => throw (.unknownAction other)
  let mode ← match c.spec.string? "match" with
    | none | some "all" => pure MatchMode.all
    | some "any" => pure MatchMode.any
    | some other => throw (.unknownMatchMode other)
  let single ← match c.spec.string? "field" with
    | none => pure []
    | some name =>
      pure [← makeCondition c name (c.spec.string? "condition") (c.spec.string? "value")]
  let listed ← match c.spec.options.get? "conditions" with
    | none => pure []
    | some value =>
      match value.array? with
      | none => throw .conditionsNotArray
      | some entries => entries.mapM (makeListed c)
  DropRule.make action mode (single ++ listed)

end BuiltIn

/-- Factories by the names of their types. -/
abbrev FilterRegistry := Table String FilterFactory

namespace FilterRegistry

/-- The registry of the built-in filters. -/
def standard : FilterRegistry := [
  ("noop", fun _ => .ok BuiltIn.noop.filter),
  ("set_field", fun c => (BuiltIn.makeSetField c).map fun f => (BuiltIn.setField f).filter),
  ("drop", fun c => (BuiltIn.makeDrop c).map fun f => (BuiltIn.drop f).filter),
  ("split", fun c => (BuiltIn.makeSplit c).map fun f => (BuiltIn.split f).filter)]

/-- The names of all types, in order. -/
def types (g : FilterRegistry) : List String := g.keys.mergeSort fun a b => decide (a ≤ b)

/-- Adds a type, unless its name is taken. -/
def register? (g : FilterRegistry) (type : String) (factory : FilterFactory) :
    Option FilterRegistry :=
  if g.has type then none else some (g.put type factory)

/-- What is reported where a type must not be registered again. -/
def takenMessage (type : String) : String := s!"Filter factory '{type}' already registered"

def create (g : FilterRegistry) (c : FilterContext) : Except FilterError Filter :=
  match g.get? c.spec.type with
  | some factory => (factory c).mapError .config
  | none => .error (.config (.unknownType c.spec.type g.types))

end FilterRegistry

end RecordPipeline
