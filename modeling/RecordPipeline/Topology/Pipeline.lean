import RecordPipeline.Topology.Schedule

/-!
The life of a pipeline: it is started once, may be asked to stop at any time, and is waited for. The
first error of its source stays with it.
-/

namespace RecordPipeline

structure Pipeline where
  topology : Topology
  temper : Temper := {}
  state : TopologyState := .constructed
  isStopped : Bool := false
  /-- How often the source was told to stop. -/
  sourceStops : Nat := 0
  /-- How often the uploader was told to stop. -/
  uploaderStops : Nat := 0
  /-- The source, with what it has counted. -/
  source : Source
  /-- The result that the source will return, and has returned once the pipeline has ended. -/
  sourceResult : Except ComponentError Unit := .ok ()
  error : Option ComponentError := none
  flow : Flow

namespace Pipeline

def new (topology : Topology) (temper : Temper) (environment : Environment) : Pipeline :=
  { topology, temper, source := topology.source, flow := Flow.ofTopology topology [] environment }

/-- The first stop is passed on to the source and to the uploader. -/
def stop (p : Pipeline) : Pipeline :=
  if p.isStopped then p
  else
    { p with
      isStopped := true, sourceStops := p.sourceStops + 1, uploaderStops := p.uploaderStops + 1
      flow := { p.flow with uploader := p.flow.uploader.stop } }

def start (p : Pipeline) : Except TopologyError Pipeline :=
  if p.state ≠ .constructed then .error (.invalidState "start" p.state)
  else
    let flow := p.flow.begin p.topology p.temper
    let (feed, sourceResult, source) := p.source.run p.isStopped flow.environment
    .ok { p with state := .started, source, sourceResult, flow := { flow with feed } }

/-- Begins to wait for the threads. -/
def beginWait (p : Pipeline) : Except TopologyError Pipeline :=
  if p.state ≠ .started then .error (.invalidState "wait for" p.state)
  else .ok { p with state := .draining }

/-- The threads have returned, and what the source has failed with stays. -/
def terminate (p : Pipeline) : Pipeline := { p with state := .terminated, error := p.flow.error }

/-- Lets the pipeline come to its end. -/
def drain (p : Pipeline) : Pipeline :=
  { p with flow := p.flow.runToEnd p.topology p.temper p.sourceResult }.terminate

/-- What a pipeline that has ended tells of its source. -/
def outcome (p : Pipeline) : Except TopologyError Unit :=
  match p.error with
  | some e => .error (.source e)
  | none => .ok ()

/-- Waits for the end. -/
def wait (p : Pipeline) : Pipeline × Except TopologyError Unit :=
  match p.beginWait with
  | .error e => (p, .error e)
  | .ok p =>
    let p := p.drain
    (p, p.outcome)

/-- Gives the pipeline up. One that still runs is stopped and comes to its end. -/
def drop (p : Pipeline) : Pipeline := if p.state = .started then p.stop.drain else p

/-- One view of all that the pipeline and its parts have counted. -/
def collect (p : Pipeline) : Except MetricMisuse Collected := do
  let f := p.flow
  let c : Collected := {
    pipeline := some (f.tally.counts (Chain.errorCount f.filters))
    invalidFields := (f.tally.invalidByName p.topology.fields).map fun entry =>
      (entry.1, UInt64.ofNat entry.2) }
  let c ← c.addComponent .source p.source.name p.source.stats
  let c ← (p.topology.chain.stats f.filters).foldlM
    (fun c entry => c.addComponent .filter entry.1 entry.2) c
  let c ← f.sinks.foldlM (fun c s => c.addComponent .sink s.sink.name s.sink.stats.1) c
  c.addComponent .uploader f.uploader.name f.uploader.stats

end Pipeline

end RecordPipeline
