import RecordPipeline.Filter.Basic
import RecordPipeline.Record.Validator

/-!
The filter that makes one record of each piece of a field. Copies carry all pieces but the last,
which goes into the record itself. A piece whose record fails the check of the pipeline is rejected,
and a field without pieces lets its record pass.
-/

namespace RecordPipeline

/-- The pieces between the occurrences of a delimiter. These are found from the left and do not
overlap; `skip` bytes of the latest are still to be passed over. -/
def Bytes.piecesFrom (delimiter : Bytes) : Nat → Bytes → List Bytes
  | _, [] => [[]]
  | skip + 1, _ :: bs => piecesFrom delimiter skip bs
  | 0, b :: bs =>
    if delimiter.isPrefixOf (b :: bs) then [] :: piecesFrom delimiter (delimiter.length - 1) bs
    else consFirst b (piecesFrom delimiter 0 bs)

/-- A search for the pieces of a value one by one. It goes on behind the delimiter that ended the
latest piece, and it is over when there was none. -/
structure PieceSearch where
  value : Bytes
  delimiter : Bytes
  position : Option Nat := some 0
deriving DecidableEq

/-- The next piece, from an offset up to another one, and the search behind it. -/
def PieceSearch.next? (s : PieceSearch) : Option ((Nat × Nat) × PieceSearch) :=
  match s.position with
  | none => none
  | some start =>
    if s.value = [] then none
    else match Bytes.find? s.delimiter (s.value.drop start) with
      | some length =>
        let stop := start + length
        some ((start, stop), { s with position := some (stop + s.delimiter.length) })
      | none => some ((start, s.value.length), { s with position := none })

structure Split where
  field : Nat
  delimiter : Bytes
  keepEmpty : Bool := false
  validator : Option Validator := none
  nonempty : delimiter ≠ []

namespace Split

def make (field : Nat) (delimiter : Bytes) (keepEmpty : Bool) (validator : Option Validator) :
    Except FilterFault Split :=
  if h : delimiter = [] then .error .emptyDelimiter
  else .ok { field, delimiter, keepEmpty, validator, nonempty := h }

/-- The pieces of a value. An empty value has none, and empty pieces count only where they are
kept. -/
def pieces (f : Split) (value : Bytes) : List Bytes :=
  if value = [] then []
  else (Bytes.piecesFrom f.delimiter 0 value).filter fun piece => f.keepEmpty || !piece.isEmpty

def search (f : Split) (value : Bytes) : PieceSearch := { value, delimiter := f.delimiter }

/-- What is counted for a record with so many pieces handed on and rejected. -/
def noted (emitted rejected : Nat) : List (String × Nat) :=
  (if 1 < emitted + rejected then [("split", 1)] else [])
    ++ ("pieces", emitted) :: (if 0 < rejected then [("rejected", rejected)] else [])

/-- Hands on a copy for each piece but the last, and the record itself for the last. A last piece
that is the whole value leaves the record as it is. -/
def emitPieces (f : Split) (r : Record) (value : Bytes) :
    Bytes → List Bytes → Nat → Nat → Activity
  | last, [], emitted, rejected =>
    match if last = value then .ok r else r.set f.field last with
    | .error e => .fail r (.record e)
    | .ok r =>
      if Validator.accepts f.validator r then .pass r (noted (emitted + 1) rejected)
      else .done r (.ok ()) (noted emitted (rejected + 1)) ()
  | piece, next :: rest, emitted, rejected =>
    match r.duplicate.set f.field piece with
    | .error e => .fail r (.record e)
    | .ok copy =>
      if Validator.accepts f.validator copy then
        .emit copy fun _ => emitPieces f r value next rest (emitted + 1) rejected
      else emitPieces f r value next rest emitted (rejected + 1)

def process (f : Split) (r : Record) : Activity :=
  let value := r.getBytes f.field
  match f.pieces value with
  | [] => .pass r (noted 1 0)
  | piece :: rest => f.emitPieces r value piece rest 0 0

def debug (f : Split) : String :=
  Text.labelled "SplitFilter" [
    ("field", toString f.field),
    ("delimiter", Text.quotedBytes f.delimiter),
    ("keep_empty", toString f.keepEmpty),
    ("validator", toString f.validator.isSome)]

end Split

end RecordPipeline
