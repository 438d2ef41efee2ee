/-!
Byte strings. A line, its fields and everything that is written are lists of bytes; text enters
and leaves them as UTF-8.
-/

namespace RecordPipeline

abbrev Bytes := List UInt8

namespace Bytes

def ofString (s : String) : Bytes := s.toByteArray.data.toList

/-- The text whose UTF-8 encoding the bytes are, if they are valid UTF-8. -/
def toString? (bs : Bytes) : Option String := String.fromUTF8? ⟨bs.toArray⟩

/-- Puts a byte in front of the first piece. -/
def consFirst (b : UInt8) : List Bytes → List Bytes
  | [] => [[b]]
  | piece :: rest => (b :: piece) :: rest

/-- The pieces between the separators. There is always one more piece than there are separators,
so the empty byte string has one empty piece. -/
def splitOn (sep : UInt8) (bs : Bytes) : List Bytes :=
  bs.foldr (fun b pieces => if b = sep then [] :: pieces else consFirst b pieces) [[]]

/-- The pieces in order, with the separator between every two of them. -/
def joinWith (sep : Bytes) (pieces : List Bytes) : Bytes := sep.intercalate pieces

/-- The bytes from one offset up to, and without, another. -/
def slice (start stop : Nat) (bs : Bytes) : Bytes := (bs.drop start).take (stop - start)

/-- The offset of the first occurrence of `needle`. The empty byte string occurs at offset zero. -/
def find? (needle : Bytes) : Bytes → Option Nat
  | [] => if needle.isEmpty then some 0 else none
  | b :: bs =>
    if needle.isPrefixOf (b :: bs) then some 0 else (find? needle bs).map (· + 1)

/-- Whether `needle` occurs in the bytes. -/
def contains (needle : Bytes) : Bytes → Bool
  | [] => needle.isEmpty
  | b :: bs => needle.isPrefixOf (b :: bs) || contains needle bs

theorem splitOn_nil (sep : UInt8) : splitOn sep [] = [[]] := rfl

theorem splitOn_cons_self (sep : UInt8) (bs : Bytes) :
    splitOn sep (sep :: bs) = [] :: splitOn sep bs := by
  simp [splitOn]

theorem consFirst_ne_nil (b : UInt8) (pieces : List Bytes) : consFirst b pieces ≠ [] := by
  cases pieces with
  | nil => exact List.cons_ne_nil _ _
  | cons piece rest => exact List.cons_ne_nil _ _

theorem splitOn_ne_nil (sep : UInt8) (bs : Bytes) : splitOn sep bs ≠ [] := by
  cases bs with
  | nil => simp [splitOn]
  | cons b bs =>
      rw [splitOn, List.foldr_cons]
      split
      · exact List.cons_ne_nil _ _
      · exact consFirst_ne_nil b _

end Bytes

/-- The line feed byte, which ends a line. -/
def newline : UInt8 := 10

/-- The carriage return byte. -/
def carriageReturn : UInt8 := 13

end RecordPipeline
