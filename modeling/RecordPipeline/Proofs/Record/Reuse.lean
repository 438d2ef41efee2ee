import Mathlib.Data.List.Induction
import RecordPipeline.Proofs.Record.Likeness
import RecordPipeline.Record.Pool

/-!
A record that is used again shows nothing of what it held before. It may have its table of slots
already, but to clear it, to parse a line into it or to give it to a pool leaves a record that is
alike to any other of the same layout after the same.
-/

namespace RecordPipeline

/-- A call on a pool of records. What is given back is a record that any uses have made of a new
one. -/
inductive RecordPoolCall where
  | get
  | put (history : List RecordUse)

namespace Record

section Made

theorem use_overlayConsistent {r : Record} (h : r.OverlayConsistent) (u : RecordUse) :
    (r.use u).1.OverlayConsistent := by
  cases u with
  | call c => exact perform_overlayConsistent h c
  | look => exact h
  | store key value => exact h.withLine _ _ _ _
  | change key f => exact h.withLine _ _ _ _
  | delete key => exact h.withLine _ _ _ _

theorem use_layout (r : Record) (u : RecordUse) : (r.use u).1.layout = r.layout := by
  cases u with
  | call c => exact perform_layout r c
  | _ => rfl

theorem made_concat (l : Layout) (history : List RecordUse) (u : RecordUse) :
    made l (history ++ [u]) = ((made l history).use u).1 := by
  rw [made, List.foldl_append]
  rfl

/-- Whatever is done with a record, its tables stay consistent and its layout stays the same. -/
theorem made_consistent (l : Layout) (history : List RecordUse) :
    (made l history).OverlayConsistent ∧ (made l history).layout = l := by
  induction history using List.reverseRecOn with
  | nil => exact ⟨new_overlayConsistent l, rfl⟩
  | append_singleton history u ih =>
      rw [made_concat, use_layout]
      exact ⟨use_overlayConsistent ih.1 u, ih.2⟩

/-- A record that was cleared matches a new one. -/
theorem clear_matches_new {r : Record} (h : r.OverlayConsistent) :
    Matches r.clear (new r.layout) :=
  Matches.clear h (new_overlayConsistent r.layout) rfl

end Made

end Record

namespace RecordPool

open Record

def perform (p : RecordPool) : RecordPoolCall → RecordPool
  | .get => p.get.2
  | .put history => p.put (made p.layout history)

/-- The pool that calls make of a new one. -/
def reached (size : Nat) (l : Layout) (calls : List RecordPoolCall) : RecordPool :=
  calls.foldl perform (RecordPool.new size l)

theorem get_of_nil {p : RecordPool} (h : p.free = []) :
    p.get =
      (Record.new p.layout,
        { p with counts := { p.counts with misses := p.counts.misses + 1 } }) := by
  rw [RecordPool.get, h]

theorem get_of_cons {p : RecordPool} {r : Record} {rest : List Record} (h : p.free = r :: rest) :
    p.get =
      (r, { p with free := rest, counts := { p.counts with hits := p.counts.hits + 1 } }) := by
  rw [RecordPool.get, h]

/-- The records of a pool match a new record, and could be given back to it. -/
structure Stocked (l : Layout) (p : RecordPool) : Prop where
  layout : p.layout = l
  free : ∀ r ∈ p.free, Matches r (Record.new l) ∧ ∃ history, r = made l history

namespace Stocked

variable {l : Layout} {p : RecordPool}

theorem new (size : Nat) (l : Layout) : Stocked l (RecordPool.new size l) where
  layout := rfl
  free := by
    intro r member
    rw [List.eq_of_mem_replicate member]
    exact ⟨clear_matches_new (new_overlayConsistent l), [], rfl⟩

/-- A record that is taken is one of the pool or a new one. -/
theorem get (h : Stocked l p) :
    (Matches p.get.1 (Record.new l) ∧ ∃ history, p.get.1 = made l history) ∧
      Stocked l p.get.2 := by
  have hfree := h.free
  cases free : p.free with
  | nil =>
      rw [get_of_nil free, h.layout]
      exact ⟨⟨clear_matches_new (new_overlayConsistent l), [], rfl⟩, rfl, hfree⟩
  | cons r rest =>
      rw [free] at hfree
      rw [get_of_cons free]
      exact ⟨hfree r List.mem_cons_self, h.layout,
        fun other member => hfree other (List.mem_cons_of_mem r member)⟩

theorem put (h : Stocked l p) (history : List RecordUse) :
    Stocked l (p.put (made l history)) := by
  unfold RecordPool.put
  split
  · refine ⟨h.layout, ?_⟩
    intro r member
    rcases List.mem_append.mp member with before | last
    · exact h.free r before
    · rw [List.mem_singleton.mp last]
      obtain ⟨consistent, layout⟩ := made_consistent l history
      have cleared := clear_matches_new consistent
      rw [layout] at cleared
      have cleared_made : (made l history).clear = made l (history ++ [.call .clear]) := by
        rw [made_concat]
        rfl
      exact ⟨cleared, _, cleared_made⟩
  · exact ⟨h.layout, h.free⟩

theorem perform (h : Stocked l p) (call : RecordPoolCall) : Stocked l (p.perform call) := by
  cases call with
  | get => exact h.get.2
  | put history =>
      rw [RecordPool.perform, h.layout]
      exact h.put history

theorem performAll (h : Stocked l p) (calls : List RecordPoolCall) :
    Stocked l (calls.foldl RecordPool.perform p) := by
  induction calls generalizing p with
  | nil => exact h
  | cons call calls ih => exact ih (h.perform call)

end Stocked

end RecordPool

namespace Record

/-- After any uses, two records of one layout are alike once both are cleared, and once both have
parsed a line, to which they give the same answer. The record that a pool serves, after any calls on
the pool and also when a used record was given back just before, is alike to a new one, and can be
given back in its turn. -/
theorem reuse_leaves_no_trace (l : Layout) (history other : List RecordUse) (size : Nat)
    (calls : List RecordPoolCall) :
    let r := made l history
    let s := made l other
    let p := RecordPool.reached size l calls
    Alike r.clear s.clear ∧
      (∀ line metadata, (r.parse line metadata).2 = (s.parse line metadata).2 ∧
        Alike (r.parse line metadata).1 (s.parse line metadata).1) ∧
      Alike p.get.1 (new l) ∧ Alike (p.put r).get.1 (new l) ∧ Alike p.create (new l) ∧
      ∃ taken, p.get.1 = made l taken := by
  intro r s p
  obtain ⟨left, leftLayout⟩ := made_consistent l history
  obtain ⟨right, rightLayout⟩ := made_consistent l other
  have same : r.layout = s.layout := leftLayout.trans rightLayout.symm
  have stocked : RecordPool.Stocked l p := (RecordPool.Stocked.new size l).performAll calls
  obtain ⟨⟨served, taken⟩, _⟩ := stocked.get
  have servedAfter := (stocked.put history).get.1.1
  have created : p.create = new l := congrArg new stocked.layout
  refine ⟨(Matches.clear left right same).alike, ?_, served.alike, servedAfter.alike, ?_, taken⟩
  · intro line metadata
    obtain ⟨hmatches, hanswer⟩ := Matches.parse left right same line metadata
    exact ⟨hanswer, hmatches.alike⟩
  · rw [created]
    exact fun _ => rfl

end Record

end RecordPipeline
