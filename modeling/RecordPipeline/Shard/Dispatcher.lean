import RecordPipeline.Record.Basic
import RecordPipeline.Shard.FieldHash

/-!
Which queue a record's output goes to. A sharded dispatcher takes the hash of one field modulo the
number of queues, so equal values always go to the same queue.
-/

namespace RecordPipeline

/-- The functions that hash a record by one of its fields. A field without a function of its own is
hashed by its bytes. -/
abbrev ShardRules := Table Nat (Record → UInt64)

namespace ShardRules

def rule (rules : ShardRules) (field : Nat) : Record → UInt64 :=
  (rules.get? field).getD fun r => FieldHash.hash (r.get field)

def debug (rules : ShardRules) : String :=
  Text.labelled "ShardRegistry" [
    ("fields", Text.bracketed ((rules.keys.mergeSort (· ≤ ·)).map toString))]

end ShardRules

structure Dispatcher where
  rule : Option (Record → UInt64)
  queues : Nat

namespace Dispatcher

/-- All outputs go to one queue. -/
def single : Dispatcher := ⟨none, 1⟩

/-- There is at least one queue. -/
def sharded (rule : Record → UInt64) (queues : Nat) : Dispatcher := ⟨some rule, max queues 1⟩

def isSharded (d : Dispatcher) : Bool := d.rule.isSome

def select (d : Dispatcher) (r : Record) : Nat :=
  match d.rule with
  | some rule => (rule r).toNat % d.queues
  | none => 0

def debug (d : Dispatcher) : String :=
  Text.labelled "Dispatcher" [
    ("sharded", toString d.isSharded), ("queues", toString d.queues)]

end Dispatcher

end RecordPipeline
