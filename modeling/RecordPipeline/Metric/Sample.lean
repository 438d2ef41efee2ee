/-!
Samples: named measurements of five kinds. Counters and deltas are running totals that stop at the
ends of their ranges, a gauge is the latest value, histograms and timings keep all that was
observed. A sample's name can be written after its kind and a dot.
-/

namespace RecordPipeline

inductive MetricKind where
  | counter
  | delta
  | gauge
  | histogram
  | timing
deriving DecidableEq

namespace MetricKind

def name : MetricKind → String
  | .counter => "counter"
  | .delta => "delta"
  | .gauge => "gauge"
  | .histogram => "histogram"
  | .timing => "timing"

def all : List MetricKind := [.counter, .delta, .gauge, .histogram, .timing]

/-- The kind and the name that stand before and after the first dot. -/
def parse? (encoded : String) : Option (MetricKind × String) :=
  let kindName := encoded.toList.takeWhile (· ≠ '.')
  match encoded.toList.dropWhile (· ≠ '.') with
  | [] => none
  | _ :: rest => (all.find? fun k => k.name.toList = kindName).map (·, String.ofList rest)

end MetricKind

/-- A sample. Times are in nanoseconds. -/
inductive Sample where
  | counter (value : UInt64)
  | delta (value : Int64)
  | gauge (value : Float)
  | histogram (values : List Float)
  | timing (values : List Nat)
deriving BEq

/-- The ways in which samples can be misused. -/
inductive MetricMisuse where
  | unknownKind (encoded : String)
  | cannotMerge (other this : MetricKind)
  | notAGauge (name : String) (kind : MetricKind)
  | timeOutOfRange
deriving DecidableEq

def MetricMisuse.message : MetricMisuse → String
  | .unknownKind encoded => s!"unknown metric kind prefix in '{encoded}'"
  | .cannotMerge other this => s!"cannot merge {other.name} sample into {this.name} sample"
  | .notAGauge name kind => s!"metric '{name}' recorded as {kind.name} but is a gauge"
  | .timeOutOfRange => ""

namespace Sample

def kind : Sample → MetricKind
  | .counter _ => .counter
  | .delta _ => .delta
  | .gauge _ => .gauge
  | .histogram _ => .histogram
  | .timing _ => .timing

/-- The sum, or the largest number where the sum is larger. -/
def addSaturating (a b : UInt64) : UInt64 := UInt64.ofNatClamp (a.toNat + b.toNat)

def addDelta (a b : Int64) : Int64 := Int64.ofIntClamp (a.toInt + b.toInt)

/-- Two samples of one kind as one: totals add up, gauges are averaged, observations are kept in
order. -/
def merge : Sample → Sample → Except MetricMisuse Sample
  | .counter a, .counter b => .ok (.counter (addSaturating a b))
  | .delta a, .delta b => .ok (.delta (addDelta a b))
  | .gauge a, .gauge b => .ok (.gauge ((a + b) / 2.0))
  | .histogram a, .histogram b => .ok (.histogram (a ++ b))
  | .timing a, .timing b => .ok (.timing (a ++ b))
  | this, other => .error (.cannotMerge other.kind this.kind)

end Sample

/-- The smaller of two numbers, the first one when they are equal; a number that is not one gives
way to the other. -/
def lesser (a b : Float) : Float :=
  if a.isNaN then b else if b < a then b else a

def greater (a b : Float) : Float :=
  if a.isNaN then b else if a < b then b else a

/-- How many observations there are, the least, the largest and the mean. -/
structure Summary where
  count : Nat := 0
  min : Float := 0.0
  max : Float := 0.0
  mean : Float := 0.0

namespace Summary

def single (x : Float) : Summary := ⟨1, x, x, x⟩

def ofList (values : List Float) : Summary :=
  if values.isEmpty then {}
  else
    { count := values.length
      min := values.foldl lesser (1.0 / 0.0)
      max := values.foldl greater (-1.0 / 0.0)
      mean := values.foldl (· + ·) 0.0 / Float.ofNat values.length }

end Summary

/-- Times are summed up in milliseconds. -/
def Sample.summary : Sample → Summary
  | .counter value => .single (Float.ofNat value.toNat)
  | .delta value => .single (Float.ofInt value.toInt)
  | .gauge value => .single value
  | .histogram values => .ofList values
  | .timing values => .ofList (values.map fun t => Float.ofNat t / 1000000.0)

end RecordPipeline
