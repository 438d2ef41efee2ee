import RecordPipeline.Time
import RecordPipeline.Unicode.Property

/-!
Lengths of time written as numbers with units, as in "1h 30min" or "2.5s". Pairs add up; digits may
be spaced out, and a number may have a fraction unless its unit is the nanosecond. A bare zero needs
no unit. All numbers and sums have 64 bits, and so has the count of whole seconds.
-/

namespace RecordPipeline.Duration

inductive TimeUnit where
  | nanosecond
  | microsecond
  | millisecond
  | second
  | minute
  | hour
  | day
  | week
  | month
  | year
deriving DecidableEq

namespace TimeUnit

def names : TimeUnit → List String
  | .nanosecond => ["nanos", "nsec", "ns"]
  | .microsecond => ["usec", "us", "µs"]
  | .millisecond => ["millis", "msec", "ms"]
  | .second => ["seconds", "second", "secs", "sec", "s"]
  | .minute => ["minutes", "minute", "mins", "min", "m"]
  | .hour => ["hours", "hour", "hrs", "hr", "h"]
  | .day => ["days", "day", "d"]
  | .week => ["weeks", "week", "wks", "wk", "w"]
  | .month => ["months", "month", "M"]
  | .year => ["years", "year", "yrs", "yr", "y"]

def all : List TimeUnit :=
  [.nanosecond, .microsecond, .millisecond, .second, .minute, .hour, .day, .week, .month, .year]

def ofName? (name : List Char) : Option TimeUnit :=
  all.find? fun u => u.names.any fun n => n.toList = name

/-- Nanoseconds per unit, for the units below the second. -/
def nanoseconds : TimeUnit → Nat
  | .nanosecond => 1
  | .microsecond => 1000
  | .millisecond => 1000000
  | _ => 0

/-- Seconds per unit, for the other units. A month is a twelfth of a year of 365.25 days. -/
def seconds : TimeUnit → Nat
  | .second => 1
  | .minute => 60
  | .hour => 3600
  | .day => 86400
  | .week => 604800
  | .month => 2630016
  | .year => 31557600
  | _ => 0

/-- Whether a fraction of the unit is counted in nanoseconds, not in whole seconds. -/
def isFine : TimeUnit → Bool
  | .microsecond | .millisecond | .second | .minute => true
  | _ => false

end TimeUnit

/-- The number if it has at most 64 bits. -/
def word? (n : Nat) : Option Nat := if n < UInt64.size then some n else none

/-- The sum of a length so far with seconds and nanoseconds. -/
def add? (total seconds nanoseconds : Nat) : Option Nat := do
  let fine ← word? (total % Time.second + nanoseconds)
  let _ ← word? (total / Time.second + seconds + fine / Time.second)
  return total + seconds * Time.second + nanoseconds

/-- Adds a number of units, with the numerator and denominator of its fraction. -/
def addUnits? (total n : Nat) (fraction : Option (Nat × Nat)) (u : TimeUnit) : Option Nat := do
  let total ← add? total (← word? (n * u.seconds)) (← word? (n * u.nanoseconds))
  match fraction with
  | none => return total
  | some (num, den) =>
    if u = .nanosecond then failure
    else if u.isFine then
      add? total 0 ((← word? (num * (u.seconds * Time.second + u.nanoseconds))) / den)
    else add? total ((← word? (num * u.seconds)) / den) 0

def isUnitLetter (c : Char) : Bool := c.isAlpha || c = 'µ'

def digit (c : Char) : Nat := c.toNat - '0'.toNat

def isBlank (c : Char) : Bool := Unicode.Property.isWhiteSpace c

/-- The digits behind a point: numerator, denominator and the rest from the unit on. -/
def scanFraction (num den : Nat) : List Char → Option ((Nat × Nat) × List Char)
  | [] => if den = 1 then none else some ((num, den), [])
  | c :: rest =>
    if c.isDigit then do
      scanFraction (← word? (10 * num + digit c)) (← word? (10 * den)) rest
    else if isBlank c then scanFraction num den rest
    else if isUnitLetter c && den ≠ 1 then some ((num, den), c :: rest)
    else none

/-- The rest of a number: its value, its fraction and the rest from the unit on. -/
def scanNumber (n : Nat) : List Char → Option (Nat × Option (Nat × Nat) × List Char)
  | [] => some (n, none, [])
  | c :: rest =>
    if c.isDigit then do scanNumber (← word? (10 * n + digit c)) rest
    else if isBlank c then scanNumber n rest
    else if isUnitLetter c then some (n, none, c :: rest)
    else if c = '.' then (scanFraction 0 1 rest).map fun (f, rest) => (n, some f, rest)
    else none

/-- Reads pairs of numbers and units up to the end. -/
def scanPairs : Nat → Nat → List Char → Option Nat
  | 0, _, _ => none
  | fuel + 1, total, s => do
    match s.dropWhile isBlank with
    | [] => return total
    | c :: rest =>
      if !c.isDigit then failure
      let (n, fraction, rest) ← scanNumber (digit c) rest
      let unit ← TimeUnit.ofName? (rest.takeWhile isUnitLetter)
      let total ← addUnits? total n fraction unit
      match rest.dropWhile isUnitLetter with
      | [] => return total
      | c :: rest =>
        if c.isDigit || isBlank c then scanPairs fuel total (c :: rest) else failure

/-- The length of time in nanoseconds. -/
def parse? (s : String) : Option Nat :=
  if s = "0" then some 0
  else if s.toList.all isBlank then none
  else scanPairs (s.length + 1) 0 s.toList

end RecordPipeline.Duration
