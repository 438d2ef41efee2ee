import RecordPipeline.Table
import RecordPipeline.Text.Quoted

/-!
A record's memory of values derived from it. An entry is read back only as the kind of value that
was stored.
-/

namespace RecordPipeline

inductive CacheValue where
  | integer (value : Int64)
  | text (value : String)
deriving DecidableEq

abbrev Cache := Table String CacheValue

namespace Cache

def integer? (c : Cache) (key : String) : Option Int64 :=
  match c.get? key with
  | some (.integer value) => some value
  | _ => none

def text? (c : Cache) (key : String) : Option String :=
  match c.get? key with
  | some (.text value) => some value
  | _ => none

/-- Changes an integer entry in place. Entries of another kind stay as they are. -/
def modifyInteger (c : Cache) (key : String) (f : Int64 → Int64) : Cache :=
  match c.integer? key with
  | some value => c.put key (.integer (f value))
  | none => c

def debug (c : Cache) : String := Text.labelled "RecordCache" [("len", toString c.length)]

end Cache

end RecordPipeline
