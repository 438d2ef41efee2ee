import RecordPipeline.Decimal.Binary
import RecordPipeline.Metric.Sample
import RecordPipeline.Table
import RecordPipeline.Time

/-!
Bags of samples, in the order of their names. A name keeps the kind with which it was recorded
first; recording it with another kind is a misuse.
-/

namespace RecordPipeline

namespace Bag

/-- Puts a sample in the place of its name, among entries in the order of their names. -/
def placed (name : String) (sample : Sample) : Table String Sample → Table String Sample
  | [] => [(name, sample)]
  | (n, s) :: rest =>
    if n = name then (name, sample) :: rest
    else if name < n then (name, sample) :: (n, s) :: rest
    else (n, s) :: placed name sample rest

/-- The names of entries ascend, and so each of them stands there once. -/
def Ascending (entries : Table String Sample) : Prop :=
  entries.Pairwise fun entry later => entry.1 < later.1

theorem Ascending.nil : Ascending [] := List.Pairwise.nil

theorem mem_placed {entry : String × Sample} {name : String} {sample : Sample}
    {entries : Table String Sample} (member : entry ∈ placed name sample entries) :
    entry = (name, sample) ∨ entry ∈ entries := by
  induction entries with
  | nil => exact .inl (List.mem_singleton.mp member)
  | cons first rest ih =>
      obtain ⟨n, s⟩ := first
      rw [placed] at member
      split at member
      · exact (List.mem_cons.mp member).imp_right (List.mem_cons_of_mem (n, s))
      · split at member
        · exact List.mem_cons.mp member
        · rcases List.mem_cons.mp member with rfl | later
          · exact .inr List.mem_cons_self
          · exact (ih later).imp_right (List.mem_cons_of_mem (n, s))

theorem Ascending.placed {entries : Table String Sample} (h : Ascending entries) (name : String)
    (sample : Sample) : Ascending (placed name sample entries) := by
  induction entries with
  | nil => exact List.pairwise_singleton _ _
  | cons first rest ih =>
      obtain ⟨n, s⟩ := first
      obtain ⟨below, later⟩ := List.pairwise_cons.mp h
      rw [Bag.placed]
      split
      · rename_i same
        subst same
        exact List.pairwise_cons.mpr ⟨below, later⟩
      · rename_i different
        split
        · rename_i before
          refine List.pairwise_cons.mpr ⟨?_, h⟩
          intro entry member
          rcases List.mem_cons.mp member with rfl | inside
          · exact before
          · exact String.lt_trans before (below entry inside)
        · rename_i notBefore
          refine List.pairwise_cons.mpr ⟨?_, ih later⟩
          intro entry member
          rcases mem_placed member with rfl | inside
          · refine Decidable.byContradiction fun notAfter => different ?_
            exact String.le_antisymm (String.not_lt.mp notBefore) (String.not_lt.mp notAfter)
          · exact below entry inside

end Bag

structure Bag where
  entries : Table String Sample := []
  ascending : Bag.Ascending entries := by exact Bag.Ascending.nil

namespace Bag

instance : BEq Bag where
  beq a b := a.entries == b.entries

def get? (name : String) (b : Bag) : Option Sample := b.entries.get? name

def put (name : String) (sample : Sample) (b : Bag) : Bag where
  entries := placed name sample b.entries
  ascending := b.ascending.placed name sample

/-- The entries with samples of some sort. -/
def filter (p : Sample → Bool) (b : Bag) : Bag where
  entries := b.entries.filter fun entry => p entry.2
  ascending := List.Pairwise.filter _ b.ascending

/-- The bag of some samples, the last of each name. -/
def of (samples : List (String × Sample)) : Bag :=
  samples.foldl (fun b entry => b.put entry.1 entry.2) {}

/-- A gauge takes the new value; other samples are merged. -/
def insert (b : Bag) (name : String) (sample : Sample) : Except MetricMisuse Bag :=
  match b.get? name, sample with
  | none, sample => .ok (b.put name sample)
  | some (.gauge _), .gauge value => .ok (b.put name (.gauge value))
  | some (.gauge _), other => .error (.notAGauge name other.kind)
  | some current, sample => (current.merge sample).map (b.put name)

/-- Records an increment of a counter. A name of another kind is left as it is. -/
def count (b : Bag) (name : String) (n : Nat) : Bag :=
  match b.insert name (.counter (UInt64.ofNat n)) with
  | .ok b => b
  | .error _ => b

/-- The nanoseconds of a time in milliseconds, to the nearest; negative times count as zero. -/
def nanoseconds? (milliseconds : Float) : Except MetricMisuse Nat :=
  match Decimal.parts (greater milliseconds 0.0 / 1000.0) with
  | .finite _ mantissa exponent =>
    let (num, den) := Decimal.ratio mantissa exponent
    let t := Decimal.roundHalfEven (num * Time.second) den
    if t < UInt64.size * Time.second then .ok t else .error .timeOutOfRange
  | _ => .error .timeOutOfRange

/-- The whole part of a double, or the nearest end of the range. -/
def toUnsigned (x : Float) : UInt64 :=
  UInt64.ofNatClamp (Decimal.wholePart 0 (UInt64.size - 1) x).toNat

def toSigned (x : Float) : Int64 :=
  Int64.ofIntClamp (Decimal.wholePart Int64.minValue.toInt Int64.maxValue.toInt x)

/-- The sample that a plain number is for a kind. Numbers outside of the range of a counter or
delta become its nearest end. -/
def sampleOf (kind : MetricKind) (value : Float) : Except MetricMisuse Sample :=
  match kind with
  | .counter => .ok (.counter (toUnsigned (greater value 0.0)))
  | .delta => .ok (.delta (toSigned value))
  | .gauge => .ok (.gauge value)
  | .histogram => .ok (.histogram [value])
  | .timing => (nanoseconds? value).map fun t => .timing [t]

/-- Records a number under a name that is written after its kind. -/
def record (b : Bag) (encoded : String) (value : Float) : Except MetricMisuse Bag := do
  match MetricKind.parse? encoded with
  | none => throw (.unknownKind encoded)
  | some (kind, name) => b.insert name (← sampleOf kind value)

/-- Merges samples one by one, up to the first that does not fit. -/
def mergeEach (b : Bag) : Table String Sample → Bag × Except MetricMisuse Unit
  | [] => (b, .ok ())
  | (name, sample) :: rest =>
    match b.get? name with
    | none => mergeEach (b.put name sample) rest
    | some current =>
      match current.merge sample with
      | .ok merged => mergeEach (b.put name merged) rest
      | .error e => (b, .error e)

def mergeAll (b : Bag) (samples : Table String Sample) : Except MetricMisuse Bag :=
  match b.mergeEach samples with
  | (merged, .ok ()) => .ok merged
  | (_, .error e) => .error e

def merge (b other : Bag) : Except MetricMisuse Bag := b.mergeAll other.entries

/-- Whether a snapshot takes the sample out of the bag. -/
def isDrained : Sample → Bool
  | .histogram _ | .timing _ => true
  | _ => false

/-- All samples, and the bag without its observations. -/
def snapshot (b : Bag) : Bag × Bag := (b, b.filter fun sample => !isDrained sample)

end Bag

end RecordPipeline
