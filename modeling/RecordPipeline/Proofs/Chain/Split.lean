import Mathlib.Algebra.BigOperators.Group.List.Basic
import RecordPipeline.Proofs.Chain.Pieces
import RecordPipeline.Proofs.Chain.Targets
import RecordPipeline.Proofs.Metric.Totals
import RecordPipeline.Proofs.Record.Replacing

/-!
The filter that splits a field, from the value of the field to the counters. A record of its own is
made for each piece of the value; those that the check accepts are handed on in the order of the
pieces, and the others are counted as rejected.
-/

namespace RecordPipeline

namespace Record

variable {r changed : Record} {index : Nat} {value : Bytes}

/-- The other record reads as this one with a field replaced. -/
structure ReadsWith (r : Record) (index : Nat) (value : Bytes) (other : Record) : Prop where
  get : ∀ i, other.get i = if i = index then value else r.get i
  fieldCount : other.fieldCount = r.fieldCount
  metadata : other.metadata = r.metadata

theorem readsWith_get (r : Record) (index : Nat) : r.ReadsWith index (r.get index) r where
  get := by
    intro i
    by_cases same : i = index
    · rw [if_pos same, same]
    · rw [if_neg same]
  fieldCount := rfl
  metadata := rfl

theorem readsWith_set (h : r.OverlayConsistent) (set : r.set index value = .ok changed) :
    r.ReadsWith index value changed := by
  refine ⟨get_set h set, ?_, ?_⟩
  all_goals
    obtain ⟨_, ⟨k, _, rfl⟩ | ⟨_, _, rfl⟩⟩ := set_cases set
    · rfl
    · rfl

/-- A value that is not the old one shows in the overlay. -/
theorem values_ne_of_set (h : r.OverlayConsistent) (set : r.set index value = .ok changed)
    (different : value ≠ r.get index) : changed.values ≠ r.values := by
  intro same
  have now := get_set h set index
  rw [if_pos rfl, get_eq_getD (set_overlayConsistent h set), same, (set_values h set).2,
    ← get_eq_getD h] at now
  exact different now.symm

/-- What the call leaves is what the replacement makes. -/
theorem set_eq_ok_perform (taken : ∃ changed, r.set index value = .ok changed) :
    r.set index value = .ok (r.perform (.set index value)).1 := by
  obtain ⟨changed, set⟩ := taken
  rw [perform, set]

theorem perform_duplicate (taken : ∃ changed, r.set index value = .ok changed) :
    r.duplicate.set index value = .ok (r.perform (.set index value)).1.duplicate := by
  rw [set_duplicate, set_eq_ok_perform taken]
  rfl

end Record

namespace Bag

/-- The increments of one name, in order. -/
def amounts (name : String) (entries : List (String × Nat)) : List Nat :=
  entries.filterMap fun entry => if entry.1 = name then some entry.2 else none

/-- Counters that start from nothing are the sums of their increments, and only those are there that
were incremented at all. -/
theorem get?_counted {entries : List (String × Nat)}
    (small : ∀ entry ∈ entries, entry.2 < UInt64.size) (name : String) :
    get? name (entries.foldl (fun b entry => b.count entry.1 entry.2) {}) =
      if amounts name entries = [] then none
      else some (.counter (.ofNatClamp (amounts name entries).sum)) := by
  induction entries using List.reverseRecOn with
  | nil => rfl
  | append_singleton entries entry ih =>
      obtain ⟨other, n⟩ := entry
      rw [List.forall_mem_append, List.forall_mem_singleton] at small
      have before := ih small.1
      rw [List.foldl_append, List.foldl_cons, List.foldl_nil, amounts, List.filterMap_append]
      by_cases same : other = name
      · subst same
        have last : UInt64.ofNat n = .ofNatClamp n := by
          apply UInt64.toNat_inj.mp
          rw [toNat_ofNatClamp, UInt64.toNat_ofNat_of_lt' small.2]
          have := small.2
          omega
        have added : [(other, n)].filterMap
            (fun entry => if entry.1 = other then some entry.2 else none) = [n] :=
          List.filterMap_cons_some (if_pos rfl)
        rw [get?_count_self, before, added, if_neg (List.concat_ne_nil n _), List.sum_append,
          List.sum_singleton]
        change (counted n (if amounts other entries = [] then _ else _)).or _ =
          some (.counter (.ofNatClamp ((amounts other entries).sum + n)))
        by_cases none : amounts other entries = []
        · rw [if_pos none, none, counted, last, List.sum_nil, Nat.zero_add]
          rfl
        · rw [if_neg none, counted, last, Sample.addSaturating_ofNatClamp]
          rfl
      · have added : [(other, n)].filterMap
            (fun entry => if entry.1 = name then some entry.2 else none) = [] :=
          List.filterMap_cons_none (if_neg same)
        rw [get?_count_of_ne (Ne.symm same), before, added, List.append_nil]
        rfl

end Bag

theorem sum_filter_pos (ns : List Nat) : (ns.filter (0 < ·)).sum = ns.sum := by
  induction ns with
  | nil => rfl
  | cons n rest ih =>
      cases n with
      | zero => exact ih.trans (Nat.zero_add rest.sum).symm
      | succ n => exact congrArg (n + 1 + ·) ih

theorem Chain.Passes.exists_first {σ : Type} {onError : OnError} {terminal : Stage σ} {s s' : σ}
    {f : Filter} {rest : List Filter} {exchanges : List Exchange} {calls : List (List FilterCall)}
    (h : Passes onError terminal s s' (f :: rest) exchanges calls) :
    ∃ cs behind, calls = cs :: behind ∧ ∀ call ∈ cs, call.IsOf onError f := by
  cases h with
  | filter each _ => exact ⟨_, _, rfl, each⟩

namespace Split

variable {f : Split} {r : Record}

/-- The pieces of a value that is not empty are those of its cut, all of them or all that are not
empty. -/
theorem pieces_spec (f : Split) (value : Bytes) :
    ∃ cut, Bytes.IsCut f.delimiter value cut ∧
      f.pieces value = if value = [] then [] else
        cut.filter fun piece => f.keepEmpty || !piece.isEmpty :=
  ⟨_, Bytes.isCut_piecesFrom f.nonempty value, rfl⟩

theorem pieces_of_mem {value : Bytes} (member : value ∈ f.pieces value) :
    f.pieces value = [value] := by
  obtain ⟨cut, isCut, same⟩ := f.pieces_spec value
  rw [same] at member ⊢
  by_cases empty : value = []
  · rw [if_pos empty] at member
    cases member
  · rw [if_neg empty] at member ⊢
    obtain ⟨inside, kept⟩ := List.mem_filter.mp member
    rw [isCut.eq_of_mem f.nonempty inside]
    exact List.filter_cons_of_pos kept

theorem length_pieces_le (f : Split) (value : Bytes) :
    (f.pieces value).length ≤ value.length + 1 := by
  obtain ⟨cut, isCut, same⟩ := f.pieces_spec value
  rw [same]
  split
  · exact Nat.zero_le _
  · exact Nat.le_trans (List.length_filter_le _ _) (isCut.length_le f.nonempty)

/-- One record for each piece, before any of them is checked: a copy for each but the last, and for
that the record itself, which is left as it is if the piece is the whole value. -/
def derived (f : Split) (r : Record) : List Record :=
  let pieces := f.pieces (r.get f.field)
  (pieces.dropLast.map fun piece => (r.perform (.set f.field piece)).1.duplicate) ++
    pieces.getLast?.toList.map fun last =>
      if last = r.get f.field then r else (r.perform (.set f.field last)).1

/-- The records that are handed on. -/
def sent (f : Split) (r : Record) : List Record :=
  if f.pieces (r.get f.field) = [] then [r] else Validator.accepted f.validator (f.derived r)

/-- The records that do not pass the check. -/
def refused (f : Split) (r : Record) : List Record :=
  (f.derived r).filter fun r' => !Validator.accepts f.validator r'

theorem derived_of_cons {piece : Bytes} {rest : List Bytes}
    (pieces : f.pieces (r.get f.field) = piece :: rest) :
    f.derived r =
      ((piece :: rest).dropLast.map fun p => (r.perform (.set f.field p)).1.duplicate) ++
        [if (piece :: rest).getLast (List.cons_ne_nil piece rest) = r.get f.field then r
          else (r.perform (.set f.field
            ((piece :: rest).getLast (List.cons_ne_nil piece rest)))).1] := by
  rw [derived, pieces, List.getLast?_eq_getLast_of_ne_nil (List.cons_ne_nil piece rest)]
  rfl

section Taken

variable (consistent : r.OverlayConsistent)
  (taken : ∀ value, ∃ changed, r.set f.field value = .ok changed)

include taken

theorem reused_eq (last : Bytes) :
    f.reused r last =
      .ok (if last = r.get f.field then r else (r.perform (.set f.field last)).1) := by
  rw [reused]
  by_cases whole : last = r.get f.field
  · rw [if_pos whole, if_pos whole]
  · rw [if_neg whole, if_neg whole, Record.set_eq_ok_perform (taken last)]

/-- The filter hands on the record alone if there are no pieces, else those of the pieces that pass
the check. -/
theorem process_emits_sent : (f.process r).Emits (f.sent r) (.ok ()) := by
  rw [sent]
  cases pieces : f.pieces (r.get f.field) with
  | nil =>
      rw [if_pos rfl]
      simp only [process, Record.getBytes_eq_get, pieces]
      exact Activity.pass_emits r _
  | cons piece rest =>
      rw [if_neg (List.cons_ne_nil piece rest), derived_of_cons pieces]
      simp only [process, Record.getBytes_eq_get, pieces]
      exact emitPieces_emits rest piece 0 0 (fun p _ => Record.perform_duplicate (taken p))
        (reused_eq taken _)

include consistent

/-- The records that are made read as the record with the pieces in its field. -/
theorem derived_readsWith :
    List.Forall₂ (fun piece r' => r.ReadsWith f.field piece r') (f.pieces (r.get f.field))
      (f.derived r) := by
  have reads : ∀ piece, r.ReadsWith f.field piece (r.perform (.set f.field piece)).1 :=
    fun piece => Record.readsWith_set consistent (Record.set_eq_ok_perform (taken piece))
  cases pieces : f.pieces (r.get f.field) with
  | nil =>
      rw [derived, pieces]
      exact .nil
  | cons piece rest =>
      rw [derived_of_cons pieces]
      conv => arg 2; rw [← List.dropLast_append_getLast (List.cons_ne_nil piece rest)]
      refine List.rel_append ?_ (.cons ?_ .nil)
      · rw [List.forall₂_map_right_iff, List.forall₂_same]
        exact fun p _ => ⟨(reads p).get, (reads p).fieldCount, (reads p).metadata⟩
      · split
        · rename_i whole
          rw [whole]
          exact r.readsWith_get f.field
        · exact reads _

/-- The overlay stays as it is exactly when the only piece is the whole value. -/
theorem derived_overlay :
    (f.pieces (r.get f.field) = [r.get f.field] → f.derived r = [r]) ∧
      (f.pieces (r.get f.field) ≠ [r.get f.field] → ∀ r' ∈ f.derived r, r'.values ≠ r.values) := by
  constructor
  · intro whole
    rw [derived_of_cons whole]
    exact congrArg (fun last => [last]) (if_pos rfl)
  · intro several r' member
    have different : ∀ piece ∈ f.pieces (r.get f.field), piece ≠ r.get f.field := by
      rintro piece inside rfl
      exact several (pieces_of_mem inside)
    have changed : ∀ piece ∈ f.pieces (r.get f.field),
        (r.perform (.set f.field piece)).1.values ≠ r.values := fun piece inside =>
      Record.values_ne_of_set consistent (Record.set_eq_ok_perform (taken piece))
        (different piece inside)
    rcases List.mem_append.mp member with copy | last
    · obtain ⟨piece, inside, rfl⟩ := List.mem_map.mp copy
      exact changed piece (List.dropLast_subset _ inside)
    · obtain ⟨piece, inside, rfl⟩ := List.mem_map.mp last
      have inside := List.mem_of_getLast? (Option.mem_toList.mp inside)
      rw [if_neg (different piece inside)]
      exact changed piece inside

/-- Each piece makes a record that is handed on or rejected, and without pieces the record itself is
handed on. -/
theorem length_sent_add_length_refused :
    (f.sent r).length + (f.refused r).length = max 1 (f.pieces (r.get f.field)).length := by
  have many := (derived_readsWith consistent taken).length_eq
  rw [sent, refused]
  by_cases none : f.pieces (r.get f.field) = []
  · rw [none] at many
    rw [if_pos none, none, List.eq_nil_of_length_eq_zero many.symm]
    rfl
  · have positive := List.length_pos_iff.mpr none
    have parts :=
      List.length_eq_length_filter_add (l := f.derived r) (Validator.accepts f.validator)
    rw [if_neg none, Nat.max_eq_right positive, many, parts]

end Taken

section Counters

open Activity (Goes)

variable {record : Record} {copy : Bytes → Record}

/-- What is counted for these records and those that were made before them. -/
def notedFor (f : Split) (made : List Record) (emitted rejected : Nat) : List (String × Nat) :=
  noted (emitted + (Validator.accepted f.validator made).length)
    (rejected + (made.filter fun r' => !Validator.accepts f.validator r').length)

theorem notedFor_cons (f : Split) (first : Record) (made : List Record) (emitted rejected : Nat) :
    notedFor f (first :: made) emitted rejected =
      if Validator.accepts f.validator first then notedFor f made (emitted + 1) rejected
      else notedFor f made emitted (rejected + 1) := by
  by_cases accepted : Validator.accepts f.validator first = true
  · rw [if_pos accepted, notedFor, notedFor, Validator.accepted, List.filter_cons_of_pos accepted,
      List.filter_cons_of_neg (by simp [accepted]), List.length_cons, Nat.add_right_comm]
    rfl
  · rw [if_neg accepted, notedFor, notedFor, Validator.accepted, List.filter_cons_of_neg accepted,
      List.filter_cons_of_pos (by simp [accepted]), List.length_cons, Nat.add_right_comm rejected]
    rfl

/-- What is counted for a record, behind what was counted for its first pieces. -/
theorem noted_of_emitPieces (rest : List Bytes) (piece : Bytes) (emitted rejected : Nat)
    (hcopy : ∀ p ∈ (piece :: rest).dropLast, r.duplicate.set f.field p = .ok (copy p))
    (hlast : f.reused r ((piece :: rest).getLast (List.cons_ne_nil piece rest)) = .ok record)
    {exchanges : List Exchange} {left : Record} {result : Except FilterError Unit}
    {counts : List (String × Nat)} {state : Unit}
    (goes : (f.emitPieces r (r.get f.field) piece rest emitted rejected).Goes exchanges left result
      counts state) :
    counts = notedFor f ((piece :: rest).dropLast.map copy ++ [record]) emitted rejected := by
  induction rest generalizing piece emitted rejected exchanges with
  | nil =>
      rw [List.getLast_singleton, reused] at hlast
      rw [emitPieces, hlast] at goes
      rw [List.dropLast_singleton, List.map_nil, List.nil_append, notedFor_cons]
      by_cases accepted : Validator.accepts f.validator record = true
      · simp only [if_pos accepted] at goes ⊢
        cases goes with
        | emit rest =>
            cases rest
            rfl
      · simp only [if_neg accepted] at goes ⊢
        cases goes
        rfl
  | cons next rest ih =>
      rw [List.getLast_cons (List.cons_ne_nil next rest)] at hlast
      rw [List.dropLast_cons_cons] at hcopy ⊢
      have later : ∀ p ∈ (next :: rest).dropLast, r.duplicate.set f.field p = .ok (copy p) :=
        fun p member => hcopy p (List.mem_cons_of_mem piece member)
      rw [emitPieces, hcopy piece List.mem_cons_self] at goes
      rw [List.map_cons, List.cons_append, notedFor_cons]
      by_cases accepted : Validator.accepts f.validator (copy piece) = true
      · simp only [if_pos accepted] at goes ⊢
        cases goes with
        | emit goes => exact ih next (emitted + 1) rejected later hlast goes
      · simp only [if_neg accepted] at goes ⊢
        exact ih next emitted (rejected + 1) later hlast goes

/-- A call of the filter hands on what it makes of its record, and counts it. -/
theorem call_spec (taken : ∀ value, ∃ changed, r.set f.field value = .ok changed)
    {exchanges : List Exchange} {left : Record} {result : Except FilterError Unit}
    {counts : List (String × Nat)} {state : Unit}
    (goes : (f.process r).Goes exchanges left result counts state) :
    exchanges.map (·.given) = f.sent r ∧ result = .ok () ∧
      counts = noted (f.sent r).length (f.refused r).length := by
  obtain ⟨given, succeeds⟩ := (process_emits_sent taken).of_goes goes
  refine ⟨given, succeeds, ?_⟩
  cases pieces : f.pieces (r.get f.field) with
  | nil =>
      have nothing : f.derived r = [] := by rw [derived, pieces]; rfl
      rw [sent, refused, if_pos pieces, nothing]
      simp only [process, Record.getBytes_eq_get, pieces] at goes
      cases goes with
      | emit rest =>
          cases rest
          rfl
  | cons piece rest =>
      have copies : ∀ p ∈ (piece :: rest).dropLast, r.duplicate.set f.field p =
          .ok (r.perform (.set f.field p)).1.duplicate := fun p _ =>
        Record.perform_duplicate (taken p)
      simp only [process, Record.getBytes_eq_get, pieces] at goes
      have counted := noted_of_emitPieces rest piece 0 0 copies (reused_eq taken _) goes
      rw [← derived_of_cons pieces, notedFor, Nat.zero_add, Nat.zero_add] at counted
      rw [sent, pieces, if_neg (List.cons_ne_nil piece rest), counted]
      rfl

theorem amounts_noted (emitted rejected : Nat) :
    Bag.amounts "pieces" (noted emitted rejected) = [emitted] ∧
      Bag.amounts "rejected" (noted emitted rejected) =
        (if 0 < rejected then [rejected] else []) ∧
      Bag.amounts "split" (noted emitted rejected) =
        if 1 < emitted + rejected then [1] else [] := by
  by_cases several : 1 < emitted + rejected
  · by_cases some' : 0 < rejected
    · simp [Bag.amounts, noted, several, some']
    · simp [Bag.amounts, noted, several, some']
  · by_cases some' : 0 < rejected
    · simp [Bag.amounts, noted, several, some']
    · simp [Bag.amounts, noted, several, some']

/-- What is counted for some records, one after the other. -/
def notedForAll (f : Split) (records : List Record) : List (String × Nat) :=
  records.flatMap fun r => noted (f.sent r).length (f.refused r).length

theorem amounts_notedForAll (f : Split) (records : List Record) :
    Bag.amounts "pieces" (f.notedForAll records) = records.map (fun r => (f.sent r).length) ∧
      Bag.amounts "rejected" (f.notedForAll records) =
        (records.map fun r => (f.refused r).length).filter (0 < ·) ∧
      Bag.amounts "split" (f.notedForAll records) = List.replicate
        (records.countP fun r => 1 < (f.sent r).length + (f.refused r).length) 1 := by
  induction records with
  | nil => exact ⟨rfl, rfl, rfl⟩
  | cons r rest ih =>
      obtain ⟨pieces, rejected, split⟩ := ih
      obtain ⟨pieces', rejected', split'⟩ :=
        amounts_noted (f.sent r).length (f.refused r).length
      have both : ∀ name, Bag.amounts name (f.notedForAll (r :: rest)) =
          Bag.amounts name (noted (f.sent r).length (f.refused r).length) ++
            Bag.amounts name (f.notedForAll rest) := fun name => List.filterMap_append
      rw [both, both, both, pieces, rejected, split, pieces', rejected', split']
      refine ⟨rfl, ?_, ?_⟩
      · rw [List.map_cons, List.filter_cons]
        by_cases some' : 0 < (f.refused r).length
        · simp [some']
        · simp [some']
      · rw [List.countP_cons]
        by_cases several : 1 < (f.sent r).length + (f.refused r).length
        · simp [several, List.replicate_succ]
        · simp [several]

end Counters

/-- A record that the filter can split: its field can be replaced, and its value is not longer than
a machine can address. -/
structure Ready (f : Split) (r : Record) : Prop where
  reached : ∃ l calls, r = Record.reached l calls
  inside : f.field < r.layout.maxFields
  room : f.field ∈ r.modified ∨ r.modified.length < Record.overlayLimit
  addressable : (r.get f.field).length + 1 < UInt64.size

namespace Ready

theorem consistent (h : f.Ready r) : r.OverlayConsistent := by
  obtain ⟨l, calls, rfl⟩ := h.reached
  exact Record.reached_overlayConsistent l calls

theorem taken (h : f.Ready r) (value : Bytes) : ∃ changed, r.set f.field value = .ok changed :=
  (Record.set_ok_iff h.consistent f.field value).mpr ⟨h.inside, h.room⟩

theorem count (h : f.Ready r) : (f.sent r).length + (f.refused r).length =
    max 1 (f.pieces (r.get f.field)).length := length_sent_add_length_refused h.consistent h.taken

theorem small (h : f.Ready r) : ∀ entry ∈ noted (f.sent r).length (f.refused r).length,
    entry.2 < UInt64.size := by
  have many := f.length_pieces_le (r.get f.field)
  have all := h.count
  have addressable := h.addressable
  have sent : (f.sent r).length < UInt64.size := by omega
  have refused : (f.refused r).length < UInt64.size := by omega
  intro entry member
  simp only [noted, List.mem_append, List.mem_ite_nil_right, List.mem_cons, List.not_mem_nil,
    or_false] at member
  rcases member with ⟨_, rfl⟩ | rfl | ⟨_, rfl⟩
  · decide
  · exact sent
  · exact refused

end Ready

/-- The counters of a filter that has split some records. -/
structure Counted (f : Split) (records : List Record) (own : Bag) : Prop where
  pieces : own.get? "pieces" =
    if records = [] then none else some (.counter (.ofNatClamp (records.flatMap f.sent).length))
  rejected : own.get? "rejected" =
    if records.flatMap f.refused = [] then none
    else some (.counter (.ofNatClamp (records.flatMap f.refused).length))
  split : own.get? "split" =
    if ∀ r ∈ records, (f.pieces (r.get f.field)).length < 2 then none
    else some (.counter (.ofNatClamp
      (records.countP fun r => 2 ≤ (f.pieces (r.get f.field)).length)))

theorem counted_of_ready {records : List Record} (ready : ∀ r ∈ records, f.Ready r) :
    f.Counted records
      ((f.notedForAll records).foldl (fun b entry => b.count entry.1 entry.2) {}) := by
  have small : ∀ entry ∈ f.notedForAll records, entry.2 < UInt64.size := by
    intro entry member
    obtain ⟨r, inside, member⟩ := List.mem_flatMap.mp member
    exact (ready r inside).small entry member
  obtain ⟨pieces, rejected, split⟩ := f.amounts_notedForAll records
  refine ⟨?_, ?_, ?_⟩
  · rw [Bag.get?_counted small, pieces, ← List.length_flatMap]
    simp only [List.map_eq_nil_iff]
  · have none : (records.map fun r => (f.refused r).length).filter (0 < ·) = [] ↔
        records.flatMap f.refused = [] := by
      simp only [List.filter_eq_nil_iff, List.forall_mem_map, List.flatMap_eq_nil_iff,
        decide_eq_true_eq, Nat.not_lt, Nat.le_zero, List.length_eq_zero_iff]
    have total : ((records.map fun r => (f.refused r).length).filter (0 < ·)).sum =
        (records.flatMap f.refused).length := by
      rw [List.length_flatMap]
      exact sum_filter_pos _
    rw [Bag.get?_counted small, rejected, total]
    simp only [none]
  · have several : (records.countP fun r => 1 < (f.sent r).length + (f.refused r).length) =
        records.countP fun r => 2 ≤ (f.pieces (r.get f.field)).length := by
      apply List.countP_congr
      intro r inside
      have count := (ready r inside).count
      simp only [decide_eq_true_eq]
      omega
    have none : List.replicate (records.countP fun r =>
        2 ≤ (f.pieces (r.get f.field)).length) 1 = [] ↔
          ∀ r ∈ records, (f.pieces (r.get f.field)).length < 2 := by
      simp only [List.replicate_eq_nil_iff, List.countP_eq_zero, decide_eq_true_eq, Nat.not_le]
    rw [Bag.get?_counted small, split, several, List.sum_replicate_nat, Nat.mul_one]
    simp only [none]

/-- The counters of the filter after calls for such records. -/
theorem own_of_calls {onError : OnError} {cs : List FilterCall}
    (each : ∀ call ∈ cs, call.IsOf onError (BuiltIn.split f).filter)
    (ready : ∀ call ∈ cs, f.Ready call.record) :
    f.Counted (cs.map (·.record))
      ((BuiltIn.split f).filter.fresh.addAll (cs.map FilterCall.outcome)).own := by
  have counts : (cs.map FilterCall.outcome).flatMap (·.noted) =
      f.notedForAll (cs.map (·.record)) := by
    rw [notedForAll, List.flatMap_map, List.flatMap_map]
    apply List.flatMap_congr
    intro call member
    exact (call_spec (ready call member).taken (each call member).goes).2.2
  rw [FilterTally.own_addAll, counts]
  exact counted_of_ready (List.forall_mem_map.mpr ready)

/-- Whatever comes back for them and whatever the filter stands in front of, it hands on for a
record with pieces in its field one record for each of them, in their order, unless the check
refuses it. Each reads as the record with this piece in the field; the overlay is as it was exactly
when the only piece is the whole value. A record without pieces is handed on as it is, unchecked.
Over all records the counters are the number of records handed on, of those refused, and of those
with several pieces. -/
theorem splits_and_counts (f : Split) {records : List Record} (ready : ∀ r ∈ records, f.Ready r) :
    (∀ r ∈ records,
      (∃ cut, Bytes.IsCut f.delimiter (r.get f.field) cut ∧ f.pieces (r.get f.field) =
        if r.get f.field = [] then [] else
          cut.filter fun piece => f.keepEmpty || !piece.isEmpty) ∧
      (f.process r).Emits (f.sent r) (.ok ()) ∧
      f.sent r = (if f.pieces (r.get f.field) = [] then [r] else
        (f.derived r).filter (Validator.accepts f.validator)) ∧
      List.Forall₂ (fun piece r' => r.ReadsWith f.field piece r') (f.pieces (r.get f.field))
        (f.derived r) ∧
      (f.pieces (r.get f.field) = [r.get f.field] → f.derived r = [r]) ∧
      (f.pieces (r.get f.field) ≠ [r.get f.field] → ∀ r' ∈ f.derived r, r'.values ≠ r.values)) ∧
    (records.flatMap f.sent).length + (records.flatMap f.refused).length =
      (records.map fun r => max 1 (f.pieces (r.get f.field)).length).sum ∧
    ∀ {σ : Type} (onError : OnError) (rest : List Filter) (terminal : Stage σ) (s : σ),
      let c : Chain := ⟨(BuiltIn.split f).filter :: rest, onError⟩
      ∃ backs tally later s',
        (c.run terminal).serve records (c.start, s) = (backs, tally :: later, s') ∧
          f.Counted records tally.own := by
  refine ⟨?_, ?_, ?_⟩
  · intro r member
    obtain ⟨whole, changed⟩ := derived_overlay (ready r member).consistent (ready r member).taken
    exact ⟨f.pieces_spec _, process_emits_sent (ready r member).taken, rfl,
      derived_readsWith (ready r member).consistent (ready r member).taken, whole, changed⟩
  · rw [List.length_flatMap, List.length_flatMap, ← List.sum_map_add]
    exact congrArg List.sum (List.map_congr_left fun r member => (ready r member).count)
  · intro σ onError rest terminal s c
    obtain ⟨backs, s', calls, passes, serves⟩ :=
      Chain.serve_passes onError terminal c.filters records s
    have served := serves c.start (List.length_map _)
    have many := Chain.length_serve (Chain.stage onError terminal c.filters) records (c.start, s)
    rw [served] at many
    obtain ⟨cs, behind, rfl, each⟩ := passes.exists_first
    have called : cs.map (·.record) = records := by
      rw [passes.first rfl, Chain.given_zipWith many]
    have counted := own_of_calls each fun call member =>
      ready call.record (called ▸ List.mem_map_of_mem member)
    rw [called] at counted
    exact ⟨backs, _, _, s', served, counted⟩

/-- Lines of two fields at most, separated by a colon. -/
def tagged : Layout := ⟨58, 2, by decide, by decide, by decide⟩

/-- The second field is split at each comma. Empty pieces are kept, but refused by the check. -/
def tagSplit : Split :=
  { field := 1, delimiter := [44], keepEmpty := true, validator := some (.requiring [1])
    nonempty := by decide }

/-- The lines `1:a,,b`, `2:c` and `3:`. -/
def taggedRecords : List Record :=
  [[49, 58, 97, 44, 44, 98], [50, 58, 99], [51, 58]].map fun line =>
    Record.reached tagged [.parse line none]

/-- Both other pieces of the first line and the other two lines are handed on. -/
theorem tagged_records_counted :
    let c : Chain := ⟨[(BuiltIn.split tagSplit).filter], .drop⟩
    ∃ backs tally later seen,
      (c.run fun r (seen : List Bytes) => (r, seen ++ [r.text])).serve taggedRecords (c.start, []) =
        (backs, tally :: later, seen) ∧
      tally.own.get? "pieces" = some (.counter 4) ∧
      tally.own.get? "rejected" = some (.counter 1) ∧
      tally.own.get? "split" = some (.counter 1) := by
  have ready : ∀ r ∈ taggedRecords, tagSplit.Ready r := by
    intro r member
    obtain ⟨line, inside, rfl⟩ := List.mem_map.mp member
    refine ⟨⟨tagged, _, rfl⟩, ?_, .inr ?_, ?_⟩
    all_goals
      revert line
      decide
  obtain ⟨_, _, chained⟩ := tagSplit.splits_and_counts ready
  obtain ⟨backs, tally, later, seen, served, counted⟩ :=
    chained .drop [] (fun r (seen : List Bytes) => (r, seen ++ [r.text])) []
  refine ⟨backs, tally, later, seen, served, ?_, ?_, ?_⟩
  · exact counted.pieces.trans rfl
  · exact counted.rejected.trans rfl
  · exact counted.split.trans rfl

end Split

end RecordPipeline
