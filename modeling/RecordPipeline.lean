import RecordPipeline.Main
import RecordPipeline.Metric.Counter
import RecordPipeline.Record.Pool
import RecordPipeline.Proofs.Record.Consistency
import RecordPipeline.Proofs.Record.Refinement
import RecordPipeline.Proofs.Record.Serialization
import RecordPipeline.Proofs.Chain.Emission
import RecordPipeline.Proofs.Chain.Meaning
import RecordPipeline.Proofs.Topology.Reference
import RecordPipeline.Proofs.Topology.Drain
import RecordPipeline.Proofs.Topology.Run
import RecordPipeline.Proofs.Topology.Delivery
import RecordPipeline.Proofs.Record.RoundTrip
import RecordPipeline.Proofs.Record.Likeness
import RecordPipeline.Proofs.Record.Reuse
import RecordPipeline.Proofs.Source.Batching
import RecordPipeline.Proofs.Topology.Progress
import RecordPipeline.Proofs.Topology.Arrival
import RecordPipeline.Proofs.Topology.Sharding
import RecordPipeline.Proofs.Config.Building
import RecordPipeline.Proofs.Chain.Required
import RecordPipeline.Proofs.Config.Validated
import RecordPipeline.Proofs.FileSystem.Places
import RecordPipeline.Proofs.Metric.Bags
import RecordPipeline.Proofs.Sink.Search
import RecordPipeline.Proofs.Sink.Stored
import RecordPipeline.Proofs.Sink.Rotation
import RecordPipeline.Proofs.Chain.Tallies
import RecordPipeline.Proofs.Topology.Counting
import RecordPipeline.Proofs.Config.Itemized
import RecordPipeline.Proofs.Topology.Balance
import RecordPipeline.Proofs.Source.Failure
import RecordPipeline.Proofs.Source.Stopping
import RecordPipeline.Proofs.Config.Buildable
import RecordPipeline.Proofs.Sink.Sharing
import RecordPipeline.Proofs.Chain.Calls
import RecordPipeline.Proofs.Chain.Bookkeeping
import RecordPipeline.Proofs.Chain.Targets
import RecordPipeline.Proofs.Config.Faultless
import RecordPipeline.Proofs.Source.ReadBack
import RecordPipeline.Proofs.Metric.Snapshots
import RecordPipeline.Proofs.Metric.Merging
import RecordPipeline.Proofs.Chain.Failure
import RecordPipeline.Proofs.Chain.Pieces
import RecordPipeline.Proofs.Chain.Split
import RecordPipeline.Proofs.Topology.Scheduled
import RecordPipeline.Proofs.Topology.Calling
import RecordPipeline.Proofs.Source.LineReading
import RecordPipeline.Proofs.Source.Repeating
import RecordPipeline.Proofs.Chain.Dropping
import RecordPipeline.Proofs.Upload.Moving
import RecordPipeline.Proofs.Record.FieldNames
import RecordPipeline.Proofs.Record.Circulation
import RecordPipeline.Proofs.Metric.Grouping
import RecordPipeline.Proofs.Sink.Printing
import RecordPipeline.Proofs.Sink.LoggedErrors
import RecordPipeline.Proofs.Sink.Rendering
import RecordPipeline.Proofs.Metric.Recording
import RecordPipeline.Proofs.Chain.Ranges
import RecordPipeline.Proofs.Source.Lending
