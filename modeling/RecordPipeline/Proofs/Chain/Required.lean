import RecordPipeline.Proofs.Chain.Meaning
import RecordPipeline.Proofs.Record.Replacing
import RecordPipeline.Proofs.Topology.Reference

/-!
Required fields stay filled. A record that has all required fields keeps them on its way through a
chain in which no filter puts an empty value into one of them and every splitting filter makes the
check of the pipeline.
-/

namespace RecordPipeline

namespace Record

/-- No required field of the record reads as empty. -/
def Filled (required : List Nat) (r : Record) : Prop := ∀ index ∈ required, r.get index ≠ []

end Record

/-- A record passes the check exactly when its required fields are filled. -/
theorem Validator.accepts_requiring_iff {required : List Nat} {r : Record} :
    Validator.accepts (some (.requiring required)) r = true ↔ r.Filled required := by
  simp only [accepts, requiring, Option.isNone_iff_eq_none, List.find?_eq_none, Record.Filled,
    List.isEmpty_iff]

namespace BuiltIn

/-- A filter puts no empty value into a required field, and checks the records it derives. -/
def Respects (required : List Nat) : BuiltIn → Prop
  | .noop | .drop _ => True
  | .setField f => f.field ∈ required → f.value ≠ []
  | .split f => f.validator = some (.requiring required)

variable {required : List Nat} {r : Record}

theorem filled_of_set {f : SetField} {changed : Record} (ho : r.OverlayConsistent)
    (filled : r.Filled required) (respects : f.field ∈ required → f.value ≠ [])
    (h : r.set f.field f.value = .ok changed) : changed.Filled required := by
  intro index member
  rw [Record.get_set ho h]
  by_cases same : index = f.field
  · rw [if_pos same]
    exact respects (same ▸ member)
  · rw [if_neg same]
    exact filled index member

/-- What a filter makes of a filled record is filled. -/
theorem filled_of_outputs {b : BuiltIn} {records : List Record} (ho : r.OverlayConsistent)
    (respects : b.Respects required) (filled : r.Filled required)
    (h : b.outputs r = .ok records) :
    ∀ r' ∈ records, r'.OverlayConsistent ∧ r'.Filled required := by
  intro r' member
  cases b with
  | noop =>
      cases h
      rw [List.mem_singleton.mp member]
      exact ⟨ho, filled⟩
  | setField f =>
      rw [outputs] at h
      split at h
      · cases hset : r.set f.field f.value with
        | error e =>
            rw [hset] at h
            cases h
        | ok changed =>
            rw [hset] at h
            cases h
            rw [List.mem_singleton.mp member]
            exact ⟨Record.set_overlayConsistent ho hset, filled_of_set ho filled respects hset⟩
      · cases h
        rw [List.mem_singleton.mp member]
        exact ⟨ho, filled⟩
  | drop f =>
      cases h
      have same : r' = r := by
        split at member
        · exact List.mem_singleton.mp member
        · cases member
      rw [same]
      exact ⟨ho, filled⟩
  | split f =>
      have copied : r.duplicate.OverlayConsistent := ho.withLine r.ends r.buffer r.metadata []
      obtain ⟨consistent, rfl | accepted⟩ :=
        Split.mem_outputs ho copied Record.set_overlayConsistent h member
      · exact ⟨ho, filled⟩
      · rw [show f.validator = some (.requiring required) from respects] at accepted
        exact ⟨consistent, Validator.accepts_requiring_iff.mp accepted⟩

/-- What goes on behind a filter is filled, also where the filter failed. -/
theorem filled_of_handedOn {b : BuiltIn} {onError : OnError} (ho : r.OverlayConsistent)
    (respects : b.Respects required) (filled : r.Filled required) :
    ∀ r' ∈ b.handedOn onError r, r'.OverlayConsistent ∧ r'.Filled required := by
  intro r' member
  cases h : b.outputs r with
  | ok records =>
      rw [handedOn_of_ok h] at member
      exact filled_of_outputs ho respects filled h r' member
  | error e =>
      rw [handedOn_of_error h] at member
      have same : r' = r := by
        split at member
        · cases member
        · exact List.mem_singleton.mp member
      rw [same]
      exact ⟨ho, filled⟩

/-- The records that leave a chain are filled. -/
theorem filled_of_meaning {onError : OnError} {bs : List BuiltIn} (ho : r.OverlayConsistent)
    (respects : ∀ b ∈ bs, b.Respects required) (filled : r.Filled required) :
    ∀ r' ∈ meaning onError bs r, r'.Filled required := by
  induction bs generalizing r with
  | nil =>
      intro r' member
      rw [List.mem_singleton.mp member]
      exact filled
  | cons b rest ih =>
      intro r' member
      obtain ⟨between, handed, member⟩ := List.mem_flatMap.mp member
      obtain ⟨consistent, filled'⟩ :=
        filled_of_handedOn ho (respects b List.mem_cons_self) filled between handed
      exact ih consistent (fun b' inside => respects b' (List.mem_cons_of_mem b inside)) filled'
        r' member

end BuiltIn

namespace Topology

variable {t : Topology}

theorem foldl_collecting (records seen : List Record) :
    records.foldl (fun s r => (collecting r s).2) seen = seen ++ records := by
  induction records generalizing seen with
  | nil => exact (List.append_nil seen).symm
  | cons first rest ih =>
      rw [List.foldl_cons, ih, collecting, List.append_assoc, List.singleton_append]

/-- In a chain of built-in filters the records that come to the end are those of its meaning. -/
theorem survivors_eq_meaning {bs : List BuiltIn} {onError : OnError}
    (chain : t.chain = Chain.make (bs.map BuiltIn.filter) onError) (metadata : Option Metadata)
    (line : Bytes) :
    t.survivors metadata line =
      match (Record.new t.layout).parse line metadata with
      | (_, .error _) => []
      | (r, .ok ()) =>
        if Validator.accepts t.validator r then BuiltIn.meaning onError bs r else [] := by
  have run : ∀ r, (t.chain.run collecting r (t.chain.start, [])).2.2 =
      BuiltIn.meaning onError bs r := by
    intro r
    have filters : t.chain.run collecting =
        Chain.stage onError collecting (bs.map BuiltIn.filter) := by
      rw [Chain.run, chain, Chain.make_filters]
      rfl
    rw [filters, Chain.stage_state, foldl_collecting, List.nil_append]
  rw [survivors]
  cases (Record.new t.layout).parse line metadata with
  | mk r result =>
      cases result with
      | error e => rfl
      | ok _ =>
          dsimp only
          rw [run]

/-- With required fields and filters that respect them, only filled records come to the end of the
chain. -/
theorem filled_of_survivors {bs : List BuiltIn} {onError : OnError} {required : List Nat}
    (chain : t.chain = Chain.make (bs.map BuiltIn.filter) onError)
    (validator : t.validator = some (.requiring required))
    (respects : ∀ b ∈ bs, b.Respects required) (metadata : Option Metadata) (line : Bytes) :
    ∀ r ∈ t.survivors metadata line, r.Filled required := by
  intro r member
  rw [survivors_eq_meaning chain] at member
  have consistent := Record.perform_overlayConsistent (Record.new_overlayConsistent t.layout)
    (.parse line metadata)
  cases parsed : (Record.new t.layout).parse line metadata with
  | mk r' result =>
      rw [Record.perform, parsed] at consistent
      rw [parsed] at member
      cases result with
      | error e => cases member
      | ok _ =>
          dsimp only at member
          split at member
          · rename_i accepted
            rw [validator, Validator.accepts_requiring_iff] at accepted
            exact BuiltIn.filled_of_meaning consistent respects accepted r member
          · cases member

end Topology

end RecordPipeline
