import RecordPipeline.Chain.Basic
import RecordPipeline.Proofs.Record.Consistency
import RecordPipeline.Proofs.Success

/-!
What a filter hands on, whatever comes back. A built-in filter never looks at a record again that it
has handed on, so the records it hands on and its result are those of its one record alone.
-/

namespace RecordPipeline

/-- Whatever comes back for the records that it hands on, the activity hands on these records in
this order and has this result. -/
inductive Activity.Emits : Activity → List Record → Except FilterError Unit → Prop where
  | done (record : Record) (result : Except FilterError Unit) (noted : List (String × Nat)) :
      Emits (.done record result noted ()) [] result
  | emit {record : Record} {next : Record → Activity} {rest : List Record}
      {result : Except FilterError Unit} (h : ∀ back, Emits (next back) rest result) :
      Emits (.emit record next) (record :: rest) result

namespace Activity

theorem pass_emits (r : Record) (noted : List (String × Nat)) :
    (pass r noted).Emits [r] (.ok ()) := .emit fun back => .done back (.ok ()) noted

/-- A run hands the records to the stage one after the other, each with the state that the one
before left. -/
theorem Emits.run_eq {σ : Type} {a : Activity} {records : List Record}
    {result : Except FilterError Unit} (h : a.Emits records result) (stage : Stage σ) (s : σ) :
    (a.run stage s).1.result = result ∧ (a.run stage s).1.emitted = records.length ∧
      (a.run stage s).2 = records.foldl (fun s r => (stage r s).2) s := by
  induction h generalizing s with
  | done record result noted => exact ⟨rfl, rfl, rfl⟩
  | @emit record next rest result _ ih =>
      obtain ⟨hresult, hemitted, hstate⟩ := ih (stage record s).1 (stage record s).2
      refine ⟨hresult, ?_, hstate⟩
      rw [List.length_cons, ← hemitted]
      rfl

end Activity

/-- A check that may not be there, made of the records that a filter has derived. -/
abbrev Validator.accepted (v : Option Validator) (records : List Record) : List Record :=
  records.filter (Validator.accepts v)

namespace Split

/-- The record itself with the last piece in it, or as it is when that piece is the whole value. -/
def reused (f : Split) (r : Record) (last : Bytes) : Except RecordError Record :=
  if last = r.get f.field then .ok r else r.set f.field last

/-- One record for each piece, in the order of the pieces, as far as the check accepts them. Each
piece but the last is put into a copy, the last into the record itself. A field without pieces gives
the record, unchecked. -/
def outputs (f : Split) (r : Record) : Except RecordError (List Record) :=
  match f.pieces (r.get f.field) with
  | [] => .ok [r]
  | piece :: rest => do
    let copies ← (piece :: rest).dropLast.mapM fun p => r.duplicate.set f.field p
    let record ← f.reused r ((piece :: rest).getLast (List.cons_ne_nil piece rest))
    return Validator.accepted f.validator (copies ++ [record])

/-- When the pieces before the last can be put into copies and the last into the record, a record
for each piece is handed on if it is accepted. -/
theorem emitPieces_emits {f : Split} {r record : Record} {copy : Bytes → Record}
    (rest : List Bytes) (piece : Bytes) (emitted rejected : Nat)
    (hcopy : ∀ p ∈ (piece :: rest).dropLast, r.duplicate.set f.field p = .ok (copy p))
    (hlast : f.reused r ((piece :: rest).getLast (List.cons_ne_nil piece rest)) = .ok record) :
    (f.emitPieces r (r.get f.field) piece rest emitted rejected).Emits
      (Validator.accepted f.validator ((piece :: rest).dropLast.map copy ++ [record]))
      (.ok ()) := by
  induction rest generalizing piece emitted rejected with
  | nil =>
      rw [List.getLast_singleton, reused] at hlast
      rw [emitPieces, hlast]
      by_cases accepted : Validator.accepts f.validator record = true
      · simp only [if_pos accepted]
        simpa [accepted] using Activity.pass_emits record _
      · simp only [if_neg accepted]
        simpa [accepted] using Activity.Emits.done record (.ok ()) _
  | cons next rest ih =>
      rw [List.getLast_cons (List.cons_ne_nil next rest)] at hlast
      rw [List.dropLast_cons_cons] at hcopy ⊢
      have hrest : ∀ p ∈ (next :: rest).dropLast, r.duplicate.set f.field p = .ok (copy p) :=
        fun p member => hcopy p (List.mem_cons_of_mem piece member)
      rw [emitPieces, hcopy piece List.mem_cons_self, List.map_cons, List.cons_append,
        Validator.accepted, List.filter_cons]
      by_cases accepted : Validator.accepts f.validator (copy piece) = true
      · simp only [if_pos accepted]
        exact .emit fun _ => ih next (emitted + 1) rejected hrest hlast
      · simp only [if_neg accepted]
        exact ih next emitted (rejected + 1) hrest hlast

theorem mapM_copies {r : Record} {field : Nat} {copy : Bytes → Record} (pieces : List Bytes)
    (hcopy : ∀ p ∈ pieces, r.duplicate.set field p = .ok (copy p)) :
    (pieces.mapM fun p => r.duplicate.set field p) = .ok (pieces.map copy) := by
  induction pieces with
  | nil => rfl
  | cons p rest ih =>
      rw [List.mapM_cons, hcopy p List.mem_cons_self,
        ih fun q member => hcopy q (List.mem_cons_of_mem p member)]
      rfl

/-- The pieces are handed on when the last one can be put into the record and the others into
copies. -/
theorem process_emits_of_pieces {f : Split} {r record : Record} {copy : Bytes → Record}
    {piece : Bytes} {rest : List Bytes} (hp : f.pieces (r.get f.field) = piece :: rest)
    (hcopy : ∀ p ∈ (piece :: rest).dropLast, r.duplicate.set f.field p = .ok (copy p))
    (hlast : f.reused r ((piece :: rest).getLast (List.cons_ne_nil piece rest)) = .ok record) :
    ∃ records, f.outputs r = .ok records ∧ (f.process r).Emits records (.ok ()) := by
  refine ⟨Validator.accepted f.validator ((piece :: rest).dropLast.map copy ++ [record]), ?_, ?_⟩
  · simp only [outputs, hp]
    rw [mapM_copies _ hcopy, hlast]
    rfl
  · simp only [process, Record.getBytes_eq_get, hp]
    exact emitPieces_emits rest piece 0 0 hcopy hlast

/-- When the field can be replaced, all pieces are handed on. -/
theorem process_emits_of_taken {f : Split} {r : Record} {piece : Bytes} {rest : List Bytes}
    (hp : f.pieces (r.get f.field) = piece :: rest)
    (taken : ∀ value, ∃ changed, r.set f.field value = .ok changed) :
    ∃ records, f.outputs r = .ok records ∧ (f.process r).Emits records (.ok ()) := by
  choose changed hchanged using taken
  have hcopy : ∀ p ∈ (piece :: rest).dropLast,
      r.duplicate.set f.field p = .ok (changed p).duplicate := by
    intro p _
    rw [Record.set_duplicate, hchanged p]
    rfl
  by_cases whole : (piece :: rest).getLast (List.cons_ne_nil piece rest) = r.get f.field
  · exact process_emits_of_pieces hp hcopy (if_pos whole)
  · exact process_emits_of_pieces hp hcopy ((if_neg whole).trans (hchanged _))

/-- A first piece that its copy does not take ends the filter with the record as it was. -/
theorem process_of_refused_copy {f : Split} {r : Record} {piece next : Bytes} {rest : List Bytes}
    {e : RecordError} (hp : f.pieces (r.get f.field) = piece :: next :: rest)
    (refused : r.duplicate.set f.field piece = .error e) :
    f.process r = .fail r (.record e) := by
  simp only [process, Record.getBytes_eq_get, hp, emitPieces, refused]

/-- When the field cannot be replaced, the filter fails at the first piece, unless that is the only
one and the whole value. -/
theorem process_of_refused {f : Split} {r : Record} {piece : Bytes} {rest : List Bytes}
    {e : RecordError} (hp : f.pieces (r.get f.field) = piece :: rest)
    (refused : ∀ value, r.set f.field value = .error e) :
    (∃ records, f.outputs r = .ok records ∧ (f.process r).Emits records (.ok ())) ∨
      f.outputs r = .error e ∧ f.process r = .fail r (.record e) := by
  have hcopy : r.duplicate.set f.field piece = .error e := by
    rw [Record.set_duplicate, refused piece]
    rfl
  cases rest with
  | nil =>
      by_cases whole : piece = r.get f.field
      · left
        have hnone : ∀ p ∈ [piece].dropLast, r.duplicate.set f.field p = .ok r := by
          intro p member
          exact absurd member List.not_mem_nil
        exact process_emits_of_pieces hp hnone (if_pos whole)
      · right
        have hreused : f.reused r piece = .error e := (if_neg whole).trans (refused piece)
        constructor
        · simp only [outputs, hp]
          rw [List.getLast_singleton, hreused]
          rfl
        · simp only [process, Record.getBytes_eq_get, hp, emitPieces, if_neg whole, refused piece]
  | cons next rest =>
      right
      constructor
      · simp only [outputs, hp]
        rw [List.dropLast_cons_cons, List.mapM_cons, hcopy]
        rfl
      · exact process_of_refused_copy hp hcopy

/-- The filter hands on a record for each piece, or fails with the record as it was and nothing
handed on: whether the field can be replaced shows at the first piece. -/
theorem process_emits (f : Split) (r : Record) :
    (∃ records, f.outputs r = .ok records ∧ (f.process r).Emits records (.ok ())) ∨
      ∃ e, f.outputs r = .error e ∧ f.process r = .fail r (.record e) := by
  cases hp : f.pieces (r.get f.field) with
  | nil =>
      left
      refine ⟨[r], ?_, ?_⟩
      · simp only [outputs, hp]
      · simp only [process, Record.getBytes_eq_get, hp]
        exact Activity.pass_emits r _
  | cons piece rest =>
      rcases Record.set_uniform r f.field with ⟨e, refused⟩ | taken
      · rcases process_of_refused hp refused with handedOn | failed
        · exact .inl handedOn
        · exact .inr ⟨e, failed⟩
      · exact .inl (process_emits_of_taken hp taken)

section Keeping

variable {P : Record → Prop} {f : Split} {r r' : Record} {records : List Record}

/-- What a copy has and a replaced field leaves, every copy with a piece has. -/
theorem copies_keep {field : Nat} {pieces : List Bytes} (copied : P r.duplicate)
    (replaced : ∀ {r value changed}, P r → r.set field value = .ok changed → P changed)
    (made : (pieces.mapM fun p => r.duplicate.set field p) = .ok records) :
    ∀ copy ∈ records, P copy := by
  intro copy member
  obtain ⟨piece, _, taken⟩ := exists_of_forall₂ (mapM_eq_ok_iff.mp made).flip member
  exact replaced copied taken

/-- A record that is handed on is the record as it was, or one that passes the check; and it has
what copies have and a replaced field leaves. -/
theorem mem_outputs (own : P r) (copied : P r.duplicate)
    (replaced : ∀ {r value changed}, P r → r.set f.field value = .ok changed → P changed)
    (h : f.outputs r = .ok records) (member : r' ∈ records) :
    P r' ∧ (r' = r ∨ Validator.accepts f.validator r' = true) := by
  unfold outputs at h
  split at h
  · cases h
    rw [List.mem_singleton.mp member]
    exact ⟨own, .inl rfl⟩
  · obtain ⟨copies, made, h⟩ := bind_eq_ok_iff.mp h
    obtain ⟨record, last, h⟩ := bind_eq_ok_iff.mp h
    cases h
    obtain ⟨inside, accepted⟩ := List.mem_filter.mp member
    refine ⟨?_, .inr accepted⟩
    rcases List.mem_append.mp inside with copy | record'
    · exact copies_keep copied replaced made r' copy
    · rw [List.mem_singleton.mp record']
      unfold reused at last
      split at last
      · cases last
        exact own
      · exact replaced own last

end Keeping

end Split

namespace BuiltIn

/-- The records that a filter makes of one record, or the failure for which it makes none. -/
def outputs : BuiltIn → Record → Except RecordError (List Record)
  | .noop, r => .ok [r]
  | .setField f, r => if f.applies r then (r.set f.field f.value).map ([·]) else .ok [r]
  | .drop f, r => .ok (if f.keeps r then [r] else [])
  | .split f, r => f.outputs r

/-- Every filter hands on what it makes of its one record, or fails with the record as it was and
nothing handed on. A record that is kept back on purpose is no failure. -/
theorem process_emits (f : BuiltIn) (r : Record) :
    (∃ records result, f.outputs r = .ok records ∧ (f.process r).Emits records result ∧
      (result = .ok () ∨ result = .error .drop)) ∨
      ∃ e, f.outputs r = .error e ∧ f.process r = .fail r (.record e) := by
  cases f with
  | noop => exact .inl ⟨[r], .ok (), rfl, Activity.pass_emits r [], .inl rfl⟩
  | setField f =>
      simp only [outputs, process, SetField.process]
      by_cases applies : f.applies r = true
      · rw [if_pos applies, if_pos applies]
        cases hset : r.set f.field f.value with
        | error e => exact .inr ⟨e, rfl, rfl⟩
        | ok changed =>
            exact .inl ⟨[changed], .ok (), rfl, Activity.pass_emits changed _, .inl rfl⟩
      · rw [if_neg applies, if_neg applies]
        exact .inl ⟨[r], .ok (), rfl, Activity.pass_emits r [], .inl rfl⟩
  | drop f =>
      left
      simp only [outputs, process, DropRule.process]
      by_cases kept : f.keeps r = true
      · rw [if_pos kept, if_pos kept]
        exact ⟨[r], .ok (), rfl, Activity.pass_emits r _, .inl rfl⟩
      · rw [if_neg kept, if_neg kept]
        exact ⟨[], .error .drop, rfl, .done r (.error .drop) _, .inr rfl⟩
  | split f =>
      rcases f.process_emits r with ⟨records, houtputs, hemits⟩ | failure
      · exact .inl ⟨records, .ok (), houtputs, hemits, .inl rfl⟩
      · exact .inr failure

end BuiltIn

end RecordPipeline
