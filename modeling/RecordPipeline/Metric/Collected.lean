import RecordPipeline.Metric.Stats
import RecordPipeline.Time

/-!
One view of a running pipeline: its counters, the fields that failed validation, and each
component's stats, with the replicas of one stage counted together. Two views of different times
give rates.
-/

namespace RecordPipeline

inductive Role where
  | source
  | filter
  | sink
  | uploader
deriving DecidableEq

def Role.name : Role → String
  | .source => "source"
  | .filter => "filter"
  | .sink => "sink"
  | .uploader => "uploader"

structure PipelineCounts where
  batches : UInt64 := 0
  bytes : UInt64 := 0
  records : UInt64 := 0
  malformed : UInt64 := 0
  invalid : UInt64 := 0
  filterErrors : UInt64 := 0
  dropped : UInt64 := 0
  emitted : UInt64 := 0
  backpressure : UInt64 := 0
deriving DecidableEq

structure Component where
  role : Role
  type : String
  instances : Nat
  stats : Stats

/-- The time of a view is in nanoseconds. -/
structure Collected where
  time : Option Nat := none
  pipeline : Option PipelineCounts := none
  invalidFields : List (String × UInt64) := []
  components : List Component := []

structure Rates where
  elapsed : Nat
  records : Float
  bytes : Float
  emitted : Float

namespace Component

def sameStage (role : Role) (type : String) (c : Component) : Bool :=
  c.role = role && c.type = type

/-- Counts a replica under its stage, which is put last when it is new. -/
def add (role : Role) (type : String) (stats : Stats) :
    List Component → Except MetricMisuse (List Component)
  | [] => .ok [⟨role, type, 1, stats⟩]
  | c :: rest =>
    if c.sameStage role type then
      (c.stats.merge stats).map fun merged =>
        { c with instances := c.instances + 1, stats := merged } :: rest
    else (add role type stats rest).map (c :: ·)

end Component

namespace Collected

def addComponent (c : Collected) (role : Role) (type : String) (stats : Stats) :
    Except MetricMisuse Collected :=
  (Component.add role type stats c.components).map fun components => { c with components }

def component? (c : Collected) (role : Role) (type : String) : Option Component :=
  c.components.find? (Component.sameStage role type)

/-- Seconds as a double, the whole seconds and the rest converted on their own. -/
def seconds (nanoseconds : Nat) : Float :=
  Float.ofNat (nanoseconds / Time.second) + Float.ofNat (nanoseconds % Time.second) / 1000000000.0

/-- A counter's growth per second. A counter that fell has not grown. -/
def rate (current previous : UInt64) (elapsed : Float) : Float :=
  Float.ofNat (current.toNat - previous.toNat) / elapsed

/-- The rates since an earlier view; there are none unless time has passed and both views count
the pipeline. -/
def rates (current previous : Collected) : Option Rates := do
  let elapsed := (← current.time) - (← previous.time)
  if elapsed = 0 then none
  else
    let now ← current.pipeline
    let before ← previous.pipeline
    let s := seconds elapsed
    return {
      elapsed
      records := rate now.records before.records s
      bytes := rate now.bytes before.bytes s
      emitted := rate now.emitted before.emitted s }

end Collected

end RecordPipeline
