import RecordPipeline.Bytes
import RecordPipeline.Pattern.Syntax
import RecordPipeline.Unicode.Property

/-!
Matching. A pattern takes the places at which it may begin to the places at which it may then end;
a text matches when some place can be reached from any of its places. Repetition looks for new
places until there are none, so matching ends on every text.
-/

namespace RecordPipeline.Pattern

abbrev Text := Array UInt8

/-- Places in ascending order, each once. -/
abbrev Places := List Nat

/-- The length of the character that begins with a byte. -/
def leadLength (b : UInt8) : Nat :=
  if b < 0x80 then 1 else if b < 0xC2 then 0 else if b < 0xE0 then 2 else if b < 0xF0 then 3
  else if b < 0xF5 then 4 else 0

/-- The character in UTF-8 at a place, with its length. -/
def decodeAt? (t : Text) (i : Nat) : Option (Char × Nat) := do
  let n := leadLength (← t[i]?)
  if n = 0 then none
  else
    let s ← String.fromUTF8? ⟨t.extract i (i + n)⟩
    match s.toList with
    | [c] => if i + n ≤ t.size then some (c, n) else none
    | _ => none

/-- How far back the last byte before a place lies behind the byte from which its character is
read: behind continuation bytes, at most three of them. -/
def lastStart (t : Text) (i : Nat) : Nat → Nat
  | 0 => i
  | steps + 1 =>
    let b := t.getD i 0
    if 0 < i ∧ 0x80 ≤ b ∧ b < 0xC0 then lastStart t (i - 1) steps else i

def decodeBefore? (t : Text) (i : Nat) : Option Char :=
  if i = 0 then none
  else
    let start := lastStart t (i - 1) 3
    (decodeAt? (t.extract 0 i) start).map (·.1)

def isWordByte (b : UInt8) : Bool :=
  (48 ≤ b && b ≤ 57) || (65 ≤ b && b ≤ 90) || b = 95 || (97 ≤ b && b ≤ 122)

def isWordChar (c : Char) : Bool := Unicode.Property.word.mem c.toNat

/-- Whether there is a word character before a place; nothing is known next to bytes that are no
text, except at the start. -/
def wordBefore? (ascii : Bool) (t : Text) (i : Nat) : Option Bool :=
  if i = 0 then some false
  else if ascii then some (isWordByte (t.getD (i - 1) 0))
  else (decodeBefore? t i).map isWordChar

def wordAfter? (ascii : Bool) (t : Text) (i : Nat) : Option Bool :=
  if t.size ≤ i then some false
  else if ascii then some (isWordByte (t.getD i 0))
  else (decodeAt? t i).map fun p => isWordChar p.1

/-- Where it is not known whether there is a word, a place is no inner place of one and no half of
an edge. -/
def Look.holds (l : Look) (t : Text) (i : Nat) : Bool :=
  let before (ascii : Bool) := (wordBefore? ascii t i).getD false
  let after (ascii : Bool) := (wordAfter? ascii t i).getD false
  let previous := if i = 0 then none else t[i - 1]?
  match l with
  | .textStart => i = 0
  | .textEnd => i = t.size
  | .lineStart false => i = 0 || previous = some newline
  | .lineEnd false => i = t.size || t[i]? = some newline
  | .lineStart true =>
    i = 0 || previous = some newline
      || (previous = some carriageReturn && t[i]? ≠ some newline)
  | .lineEnd true =>
    i = t.size || t[i]? = some carriageReturn
      || (t[i]? = some newline && previous ≠ some carriageReturn)
  | .wordEdge ascii => before ascii != after ascii
  | .notWordEdge ascii =>
    match wordBefore? ascii t i, wordAfter? ascii t i with
    | some a, some b => a == b
    | _, _ => false
  | .wordStart ascii => !before ascii && after ascii
  | .wordEnd ascii => before ascii && !after ascii
  | .wordStartHalf ascii => wordBefore? ascii t i == some false
  | .wordEndHalf ascii => wordAfter? ascii t i == some false

/-- The places of both, in order and once each. -/
def mergePlaces : Places → Places → Places
  | [], qs => qs
  | ps, [] => ps
  | p :: ps, q :: qs =>
    if p < q then p :: mergePlaces ps (q :: qs)
    else if q < p then q :: mergePlaces (p :: ps) qs
    else p :: mergePlaces ps qs
termination_by ps qs => ps.length + qs.length

/-- The places among the first that are not among the second, all in order. -/
def removePlaces : Places → Places → Places
  | [], _ => []
  | ps, [] => ps
  | p :: ps, q :: qs =>
    if p < q then p :: removePlaces ps (q :: qs)
    else if q < p then removePlaces (p :: ps) qs
    else removePlaces ps qs
termination_by ps qs => ps.length + qs.length

/-- Adds to the places seen what can be reached in a number of steps from the newest of them. -/
def reach (step : Places → Places) : Nat → Places → Places → Places
  | 0, seen, _ => seen
  | n + 1, seen, newest =>
    let found := removePlaces (step newest) seen
    if found.isEmpty then seen else reach step n (mergePlaces seen found) found

/-- Takes a number of steps, as long as there are places. -/
def advance (step : Places → Places) : Nat → Places → Places
  | 0, ps => ps
  | n + 1, ps => if ps.isEmpty then ps else advance step n (step ps)

def ends (t : Text) : Pattern → Places → Places
  | .empty, ps => ps
  | .character s, ps => ps.filterMap fun i =>
    match decodeAt? t i with
    | some (c, n) => if s.mem c.toNat then some (i + n) else none
    | none => none
  | .byte s, ps => ps.filterMap fun i =>
    match t[i]? with
    | some b => if s.mem b.toNat then some (i + 1) else none
    | none => none
  | .look l, ps => ps.filter fun i => l.holds t i
  | .seq p q, ps => ends t q (ends t p ps)
  | .alt p q, ps => mergePlaces (ends t p ps) (ends t q ps)
  | .repeats low high p, ps =>
    let start := advance (ends t p) low ps
    let rounds := match high with
      | some h => min (h - low) (t.size + 1)
      | none => t.size + 1
    reach (ends t p) rounds start start

/-- Whether the pattern matches somewhere in the bytes. -/
def isMatch (p : Pattern) (bs : Bytes) : Bool :=
  !(ends bs.toArray p (List.range (bs.length + 1))).isEmpty

end RecordPipeline.Pattern
