import RecordPipeline.Bytes
import RecordPipeline.FileSystem.Error

/-!
Streams of bytes as a reader finds them. What is there at a time is a chunk; a read takes a part of
it or all of it, is interrupted, or fails. A stream that is a list of such events has ended after
the last one; one that is a sequence of them need not come to an end.
-/

namespace RecordPipeline

inductive ReadEvent where
  | chunk (bytes : Bytes)
  | interrupted
  | failed (e : IoError)
deriving DecidableEq

/-- What one call to read gives. No bytes are the end of the stream. -/
inductive ReadResult where
  | bytes (bs : Bytes)
  | interrupted
  | failed (e : IoError)
deriving DecidableEq

/-- What can be read from, to its end or for ever: one read call for at most so many bytes gives a
result, and leaves what is read from next. -/
class Readable (σ : Type) where
  read : Nat → σ → ReadResult × σ

abbrev ByteStream := List ReadEvent

namespace ByteStream

/-- One read call for at most so many bytes. -/
def read (wanted : Nat) : ByteStream → ReadResult × ByteStream
  | [] => (.bytes [], [])
  | .chunk [] :: rest => read wanted rest
  | .chunk (b :: bs) :: rest =>
    let chunk := b :: bs
    if chunk.length ≤ wanted then (.bytes chunk, rest)
    else (.bytes (chunk.take wanted), .chunk (chunk.drop wanted) :: rest)
  | .interrupted :: rest => (.interrupted, rest)
  | .failed e :: rest => (.failed e, rest)

/-- The weight of what is still to be read. Every read of at least one byte makes it smaller until
it is zero. -/
def weight (s : ByteStream) : Nat :=
  s.foldr (fun
    | .chunk bs, n => bs.length + 1 + n
    | _, n => n + 1) 0

instance : Readable ByteStream where
  read := ByteStream.read

theorem readable_read (wanted : Nat) (s : ByteStream) : Readable.read wanted s = s.read wanted :=
  rfl

end ByteStream

/-- What read calls find, one after the other and without end. -/
structure EndlessStream where
  found : Nat → ReadResult

namespace EndlessStream

/-- One read call. Bytes that are more than asked for are left to the next one. -/
def read (wanted : Nat) (s : EndlessStream) : ReadResult × EndlessStream :=
  let later (i : Nat) := s.found (i + 1)
  match s.found 0 with
  | .bytes bs =>
    if bs.length ≤ wanted then (.bytes bs, ⟨later⟩)
    else (.bytes (bs.take wanted), ⟨fun
      | 0 => .bytes (bs.drop wanted)
      | i + 1 => later i⟩)
  | result => (result, ⟨later⟩)

instance : Readable EndlessStream where
  read := EndlessStream.read

/-- A line that does not end, of which every read finds a byte. -/
def line (b : UInt8) : EndlessStream := ⟨fun _ => .bytes [b]⟩

end EndlessStream

end RecordPipeline
