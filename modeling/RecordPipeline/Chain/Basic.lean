import RecordPipeline.Chain.Policy
import RecordPipeline.Filter.Basic
import RecordPipeline.Filter.Registry
import RecordPipeline.Metric.Stats

/-!
Chains of filters. Every record that a filter hands on goes through the filters behind it, and at
the end of the chain to the terminal stage, before the filter goes on with what it does.
-/

namespace RecordPipeline

/-- What one filter of a chain has done so far. -/
structure FilterTally (τ : Type := Unit) where
  processed : Nat := 0
  /-- Records from which nothing was handed on, without a failure. -/
  filtered : Nat := 0
  errors : Nat := 0
  own : Bag := {}
  /-- The state that the filter has come to. -/
  state : τ := by exact ()

section Chains

variable {σ τ : Type}

namespace FilterTally

def stats (t : FilterTally τ) : Stats :=
  ⟨UInt64.ofNat t.processed, UInt64.ofNat t.filtered, UInt64.ofNat t.errors, t.own⟩

/-- Counts what came of one record. -/
def add (t : FilterTally τ) (o : Activity.Outcome τ) : FilterTally τ :=
  let own := o.noted.foldl (fun b entry => b.count entry.1 entry.2) t.own
  let t := { t with processed := t.processed + 1, own, state := o.state }
  match o.result with
  | .ok () => if o.emitted = 0 then { t with filtered := t.filtered + 1 } else t
  | .error .drop => { t with filtered := t.filtered + 1 }
  | .error _ => { t with errors := t.errors + 1 }

end FilterTally

/-- The tally of a filter before the first record. -/
def Filter.fresh (f : Filter τ) : FilterTally τ := { own := f.initial, state := f.state }

structure Chain (τ : Type := Unit) where
  filters : List (Filter τ)
  onError : OnError := .drop

namespace Chain

/-- The chain of those filters that take part. -/
def make (filters : List (Filter τ)) (onError : OnError) : Chain τ :=
  { filters := filters.filter (·.enabled), onError }

def names (c : Chain τ) : List String := c.filters.map (·.name)

/-- The tallies of the filters before the first record. -/
def start (c : Chain τ) : List (FilterTally τ) := c.filters.map Filter.fresh

/-- Whether a record is handed on although the filter failed on it. None is handed on twice. -/
def forwards (onError : OnError) (o : Activity.Outcome τ) : Bool :=
  match o.result with
  | .ok () | .error .drop => false
  | .error _ => onError = .forward && o.emitted = 0

/-- The stage that a list of filters makes in front of a terminal stage. Its state is the tallies
of the filters and the state of the terminal stage. -/
def stage (onError : OnError) (terminal : Stage σ) :
    List (Filter τ) → Stage (List (FilterTally τ) × σ)
  | [] => fun r (tallies, s) =>
    let (r, s) := terminal r s
    (r, tallies, s)
  | f :: rest => fun r (tallies, s) =>
    let behind := stage onError terminal rest
    let tally := tallies.headD f.fresh
    let (o, later, s) := (f.process tally.state r).run behind (tallies.tail, s)
    let tally := tally.add o
    if forwards onError o then
      let (r, later, s) := behind o.record (later, s)
      (r, tally :: later, s)
    else (o.record, tally :: later, s)

/-- Takes one record through the chain. -/
def run (c : Chain τ) (terminal : Stage σ) : Stage (List (FilterTally τ) × σ) :=
  stage c.onError terminal c.filters

/-- What each filter has done, by name. -/
def stats (c : Chain τ) (tallies : List (FilterTally τ)) : List (String × Stats) :=
  (c.names.zip tallies).map fun p => (p.1, p.2.stats)

def errorCount (tallies : List (FilterTally τ)) : Nat := tallies.foldl (fun n t => n + t.errors) 0

def debug (c : Chain τ) : String :=
  Text.labelled "Chain" [
    ("filters", Text.bracketed (c.names.map Text.quoted)), ("on_error", c.onError.debug)]

/-- The chain of the enabled filters of a list of descriptions. -/
def ofSpecs (g : FilterRegistry) (specs : List FilterSpec) (fields : FieldMap) (layout : Layout)
    (validator : Option Validator) (onError : OnError) : Except FilterError Chain := do
  let filters ← (specs.filter (·.enabled)).mapM fun spec =>
    g.create { spec, fields, layout, validator }
  return make filters onError

end Chain

end Chains

end RecordPipeline
