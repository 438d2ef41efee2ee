/-!
Counters of 64 bits. A counter keeps the total of what was added; what it shows wraps around.
-/

namespace RecordPipeline

structure Counter where
  total : Nat := 0
deriving DecidableEq, Inhabited

namespace Counter

def add (c : Counter) (n : Nat) : Counter := ⟨c.total + n⟩

def inc (c : Counter) : Counter := c.add 1

def get (c : Counter) : UInt64 := UInt64.ofNat c.total

/-- The value that the counter shows, and the counter set back to zero. -/
def take (c : Counter) : UInt64 × Counter := (c.get, {})

end Counter

end RecordPipeline
