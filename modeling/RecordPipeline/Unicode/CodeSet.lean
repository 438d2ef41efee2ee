/-!
Sets of code points, written as ranges with both ends in them. A set's text lists its ranges in
hexadecimal, as in "30-39 5f", in rows.
-/

namespace RecordPipeline.Unicode

/-- The ranges of a set. Sets that are made by the operations below are in ascending order, and
neighbouring ranges do not touch. -/
abbrev CodeSet := List (Nat × Nat)

def hexValue? (c : Char) : Option Nat :=
  if '0' ≤ c ∧ c ≤ '9' then some (c.toNat - '0'.toNat)
  else if 'a' ≤ c ∧ c ≤ 'f' then some (c.toNat - 'a'.toNat + 10)
  else if 'A' ≤ c ∧ c ≤ 'F' then some (c.toNat - 'A'.toNat + 10)
  else none

/-- The value of a run of hexadecimal digits. Other characters count as zero. -/
def hexNumber (s : List Char) : Nat :=
  s.foldl (fun n c => 16 * n + (hexValue? c).getD 0) 0

namespace CodeSet

def lastCode : Nat := 0x10FFFF

def mem (n : Nat) (s : CodeSet) : Bool := s.any fun r => r.1 ≤ n && n ≤ r.2

def ofText (rows : List String) : CodeSet :=
  (rows.flatMap fun row => row.splitOn " ").map fun item =>
    match item.splitOn "-" with
    | [single] => (hexNumber single.toList, hexNumber single.toList)
    | first :: last :: _ => (hexNumber first.toList, hexNumber last.toList)
    | [] => (0, 0)

/-- Joins the ranges that overlap or touch, given ranges ordered by their first code points. -/
def joinSorted : CodeSet → CodeSet
  | [] => []
  | r :: rest =>
    match joinSorted rest with
    | [] => [r]
    | q :: qs => if q.1 ≤ r.2 + 1 then (r.1, max r.2 q.2) :: qs else r :: q :: qs

/-- The same set with its ranges in order and apart. -/
def normal (s : CodeSet) : CodeSet :=
  joinSorted ((s.filter fun r => r.1 ≤ r.2).mergeSort fun a b => a.1 ≤ b.1)

def union (a b : CodeSet) : CodeSet := normal (a ++ b)

/-- What lies between `start` and `last` and outside of ordered ranges that are apart. -/
def gaps (start last : Nat) : CodeSet → CodeSet
  | [] => if start ≤ last then [(start, last)] else []
  | r :: rest =>
    let after := gaps (max start (r.2 + 1)) last rest
    if start < r.1 then (start, r.1 - 1) :: after else after

/-- The code points up to `last` outside of the set. -/
def complementUpTo (last : Nat) (s : CodeSet) : CodeSet := gaps 0 last (normal s)

/-- The scalar values outside of the set: surrogates are in no complement. -/
def complement (s : CodeSet) : CodeSet := complementUpTo lastCode (union s [(0xD800, 0xDFFF)])

def inter (a b : CodeSet) : CodeSet :=
  normal (a.flatMap fun p => (b.map fun q => (max p.1 q.1, min p.2 q.2)).filter fun r => r.1 ≤ r.2)

def diff (a b : CodeSet) : CodeSet := inter a (complementUpTo lastCode b)

def symmDiff (a b : CodeSet) : CodeSet := union (diff a b) (diff b a)

end CodeSet

end RecordPipeline.Unicode
