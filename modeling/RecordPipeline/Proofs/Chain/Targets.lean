import RecordPipeline.Proofs.Chain.Bookkeeping
import RecordPipeline.Proofs.Topology.Counting

/-!
The fields that a chain replaces. A record that goes through a chain of built-in filters has no
other fields replaced than those that its filters aim at. If these are fields of the layout and not
more than a record has slots for, no filter fails, and the policy for failures makes no difference.
-/

namespace RecordPipeline

/-- Fields of a layout for all of which a record has slots at once. -/
structure Layout.HasRoom (l : Layout) (targets : List Nat) : Prop where
  inside : ∀ index ∈ targets, index < l.maxFields
  few : targets.length ≤ Record.overlayLimit

namespace Record

/-- A record of the layout in which no field but the targets is replaced. -/
structure Within (l : Layout) (targets : List Nat) (r : Record) : Prop where
  consistent : r.OverlayConsistent
  layout : r.layout = l
  modified : r.modified ⊆ targets

namespace Within

variable {l : Layout} {targets : List Nat} {r changed : Record} {index : Nat} {value : Bytes}

theorem duplicate (h : Within l targets r) : Within l targets r.duplicate :=
  ⟨h.consistent.withLine r.ends r.buffer r.metadata [], h.layout, h.modified⟩

theorem set (h : Within l targets r) (target : index ∈ targets)
    (replaced : r.set index value = .ok changed) : Within l targets changed := by
  have consistent := set_overlayConsistent h.consistent replaced
  obtain ⟨_, ⟨k, hslot, rfl⟩ | ⟨_, _, rfl⟩⟩ := set_cases replaced
  · refine ⟨consistent, h.layout, ?_⟩
    change Table.keys (r.values.set k (index, value)) ⊆ targets
    rw [modified_reuse ((h.consistent.slot_iff index k).mp hslot)]
    exact h.modified
  · refine ⟨consistent, h.layout, ?_⟩
    rw [modified_takeSlot]
    exact List.append_subset.mpr ⟨h.modified, List.cons_subset.mpr ⟨target, List.nil_subset _⟩⟩

/-- While a target is not replaced, fewer slots are in use than there are targets. -/
theorem length_lt (h : Within l targets r) (target : index ∈ targets)
    (absent : index ∉ r.modified) : r.values.length < targets.length := by
  have distinct : (index :: r.modified).Nodup :=
    List.nodup_cons.mpr ⟨absent, h.consistent.modified_nodup⟩
  have inside : index :: r.modified ⊆ targets := List.cons_subset.mpr ⟨target, h.modified⟩
  have few := List.Nodup.length_le_of_subset distinct inside
  rwa [List.length_cons, length_modified] at few

/-- A target can be replaced by any value. -/
theorem exists_set (room : l.HasRoom targets) (h : Within l targets r) (target : index ∈ targets)
    (value : Bytes) : ∃ changed, r.set index value = .ok changed := by
  have inside : index < r.layout.maxFields := h.layout ▸ room.inside index target
  cases hslot : r.slot index with
  | succ k => exact ⟨_, set_of_slot inside hslot value⟩
  | zero =>
      have absent := (h.consistent.slot_eq_zero_iff index).mp hslot
      exact ⟨_, set_of_room inside hslot
        (Nat.lt_of_lt_of_le (h.length_lt target absent) room.few) value⟩

/-- No field of a line that was just parsed is replaced. -/
theorem of_parse {line : Bytes} {metadata : Option Metadata}
    (parsed : (Record.new l).parse line metadata = (r, .ok ())) : Within l targets r := by
  have consistent := perform_overlayConsistent (new_overlayConsistent l) (.parse line metadata)
  have layout := perform_layout (Record.new l) (.parse line metadata)
  rw [perform, parsed] at consistent layout
  refine ⟨consistent, layout, ?_⟩
  rw [parse_eq] at parsed
  split at parsed
  · cases parsed
  · split at parsed
    · cases parsed
      exact List.nil_subset _
    · cases parsed

end Within

end Record

namespace BuiltIn

/-- The field that a filter may replace. -/
def target? : BuiltIn → Option Nat
  | .noop | .drop _ => none
  | .setField f => some f.field
  | .split f => some f.field

variable {l : Layout} {targets : List Nat} {r : Record} {b : BuiltIn}

/-- A filter makes records of a record in which its target can be replaced, and again no field but
the targets is replaced in them. -/
theorem exists_outputs (room : l.HasRoom targets) (aims : ∀ index ∈ b.target?, index ∈ targets)
    (h : r.Within l targets) :
    ∃ records, b.outputs r = .ok records ∧ ∀ r' ∈ records, r'.Within l targets := by
  cases b with
  | noop => exact ⟨[r], rfl, List.forall_mem_singleton.mpr h⟩
  | setField f =>
      obtain ⟨changed, replaced⟩ := h.exists_set room (aims f.field rfl) f.value
      by_cases applies : f.applies r = true
      · refine ⟨[changed], ?_, List.forall_mem_singleton.mpr (h.set (aims f.field rfl) replaced)⟩
        rw [outputs, if_pos applies, replaced]
        rfl
      · exact ⟨[r], by rw [outputs, if_neg applies], List.forall_mem_singleton.mpr h⟩
  | drop f =>
      refine ⟨if f.keeps r then [r] else [], rfl, ?_⟩
      intro r' member
      split at member
      · exact List.mem_singleton.mp member ▸ h
      · cases member
  | split f =>
      have keeps : ∀ records, f.outputs r = .ok records → ∀ r' ∈ records, r'.Within l targets :=
        fun records made r' member =>
          (Split.mem_outputs h h.duplicate (fun h => h.set (aims f.field rfl)) made member).1
      rw [outputs]
      cases pieces : f.pieces (r.get f.field) with
      | nil =>
          have own : f.outputs r = .ok [r] := by simp only [Split.outputs, pieces]
          exact ⟨[r], own, keeps [r] own⟩
      | cons piece rest =>
          obtain ⟨records, made, _⟩ :=
            Split.process_emits_of_taken pieces (h.exists_set room (aims f.field rfl))
          exact ⟨records, made, keeps records made⟩

/-- A filter never fails on such a record. -/
theorem exists_emits (room : l.HasRoom targets) (aims : ∀ index ∈ b.target?, index ∈ targets)
    (h : r.Within l targets) :
    ∃ records result, (b.process r).Emits records result ∧
      (result = .ok () ∨ result = .error .drop) ∧ ∀ r' ∈ records, r'.Within l targets := by
  obtain ⟨records, made, within⟩ := exists_outputs room aims h
  rcases b.process_emits r with ⟨records', result, made', emits, ends⟩ | ⟨e, refused, _⟩
  · rw [made] at made'
    cases made'
    exact ⟨records, result, emits, ends, within⟩
  · rw [made] at refused
    cases refused

end BuiltIn

namespace Activity

variable {a : Activity} {records : List Record} {result : Except FilterError Unit}

/-- An activity that does not look at what comes back goes the same way each time. -/
theorem Emits.of_goes (h : a.Emits records result) {emitted : List Exchange} {left : Record}
    {ended : Except FilterError Unit} {noted : List (String × Nat)} {state : Unit}
    (goes : a.Goes emitted left ended noted state) :
    emitted.map (·.given) = records ∧ ended = result := by
  induction goes generalizing records with
  | done record result noted state =>
      cases h
      exact ⟨rfl, rfl⟩
  | emit _ ih =>
      cases h with
      | emit rest =>
          obtain ⟨given, same⟩ := ih (rest _)
          exact ⟨congrArg (_ :: ·) given, same⟩

/-- Stages that agree on the records that are handed to them are the same to the activity. -/
theorem Emits.run_congr {σ : Type} {stage other : Stage σ} (h : a.Emits records result)
    (agree : ∀ r ∈ records, ∀ s, stage r s = other r s) (s : σ) :
    a.run stage s = a.run other s := by
  induction h generalizing s with
  | done record result noted => rfl
  | emit _ ih =>
      rw [run_emit, run_emit, agree _ List.mem_cons_self]
      rw [ih _ (fun r member => agree r (List.mem_cons_of_mem _ member))]

end Activity

namespace Chain

variable {l : Layout} {targets : List Nat} {bs : List BuiltIn} {σ : Type} {terminal : Stage σ}

/-- Every call of a filter succeeds or drops its record, and no record is forwarded. -/
theorem Passes.no_failure {onError : OnError} {s s' : σ} {exchanges : List Exchange}
    {calls : List (List FilterCall)} (room : l.HasRoom targets)
    (aims : ∀ b ∈ bs, ∀ index ∈ b.target?, index ∈ targets)
    (within : ∀ e ∈ exchanges, e.given.Within l targets)
    (h : Passes onError terminal s s' (bs.map BuiltIn.filter) exchanges calls) :
    ∀ cs ∈ calls, ∀ call ∈ cs,
      (call.result = .ok () ∨ call.result = .error .drop) ∧ call.forwarded = none := by
  -- The induction carries that every record that comes to a filter is within the targets.
  induction bs generalizing exchanges calls with
  | nil =>
      cases h
      exact fun cs member => absurd member List.not_mem_nil
  | cons b rest ih =>
      cases h with
      | @filter _ _ cs later each behind =>
          have fine : ∀ call ∈ cs, (call.result = .ok () ∨ call.result = .error .drop) ∧
              call.forwarded = none ∧ ∀ e ∈ call.exchanges, e.given.Within l targets := by
            intro call member
            have given : call.record.Within l targets :=
              within call.exchange (List.mem_map_of_mem member)
            obtain ⟨records, result, emits, ends, handed⟩ :=
              BuiltIn.exists_emits room (aims b List.mem_cons_self) given
            obtain ⟨emitted, ended⟩ := emits.of_goes (each call member).goes
            have succeeded : call.result = .ok () ∨ call.result = .error .drop := ended ▸ ends
            have kept : call.forwarded = none := by
              rw [← Option.not_isSome_iff_eq_none, (each call member).forwarded]
              rintro ⟨_, ⟨notOk, notDrop⟩, _⟩
              exact succeeded.elim notOk notDrop
            refine ⟨succeeded, kept, ?_⟩
            intro e inside
            rw [FilterCall.exchanges, kept] at inside
            have isEmitted : e ∈ call.emitted := by simpa using inside
            exact handed e.given (emitted ▸ List.mem_map_of_mem isEmitted)
          have others := ih (fun b' member => aims b' (List.mem_cons_of_mem b member))
            (fun e member => by
              obtain ⟨call, called, inside⟩ := List.mem_flatMap.mp member
              exact (fine call called).2.2 e inside) behind
          intro cs' member call called
          rcases List.mem_cons.mp member with rfl | later
          · exact ⟨(fine call called).1, (fine call called).2.1⟩
          · exact others cs' later call called

/-- Where no filter fails, the policy for failures makes no difference. -/
theorem stage_policy (room : l.HasRoom targets)
    (aims : ∀ b ∈ bs, ∀ index ∈ b.target?, index ∈ targets) (onError other : OnError) {r : Record}
    (within : r.Within l targets) (s : List FilterTally × σ) :
    stage onError terminal (bs.map BuiltIn.filter) r s =
      stage other terminal (bs.map BuiltIn.filter) r s := by
  induction bs generalizing r s with
  | nil => rfl
  | cons b rest ih =>
      obtain ⟨records, result, emits, ends, handed⟩ :=
        BuiltIn.exists_emits room (aims b List.mem_cons_self) within
      have behind : ∀ r' ∈ records, ∀ s, stage onError terminal (rest.map BuiltIn.filter) r' s =
          stage other terminal (rest.map BuiltIn.filter) r' s := fun r' member s =>
        ih (fun b' later => aims b' (List.mem_cons_of_mem b later)) (handed r' member) s
      -- The policies differ in what is forwarded only, and nothing is.
      have unforwarded : ∀ (policy : OnError) (stage : Stage (List FilterTally × σ)) s,
          forwards policy ((b.process r).run stage s).1 = false := by
        intro policy stage s
        have ended := (emits.run_eq stage s).1
        unfold forwards
        rw [ended]
        rcases ends with rfl | rfl
        · rfl
        · rfl
      have same := emits.run_congr behind
      rw [List.map_cons, stage_cons, stage_cons]
      simp only [BuiltIn.process_filter, unforwarded, same, Bool.false_eq_true, if_false]

/-- Calls that do not fail count no errors. -/
theorem errors_counted {tallies : List FilterTally} {calls : List (List FilterCall)}
    (clean : ∀ tally ∈ tallies, tally.errors = 0)
    (fine : ∀ cs ∈ calls, ∀ call ∈ cs, call.result = .ok () ∨ call.result = .error .drop) :
    ∀ tally ∈ counted tallies (outcomes calls), tally.errors = 0 := by
  intro tally member
  obtain ⟨k, found⟩ := List.mem_iff_getElem?.mp member
  obtain ⟨before, marks, start, marked, rfl⟩ := List.getElem?_zipWith_eq_some.mp found
  rw [outcomes, List.getElem?_map] at marked
  obtain ⟨cs, called, rfl⟩ := Option.map_eq_some_iff.mp marked
  obtain ⟨_, _, errors⟩ := before.addAll_outcomes cs
  rw [errors, clean before (List.mem_of_getElem? start), Nat.zero_add, List.countP_eq_zero]
  intro call inside failed
  obtain ⟨notOk, notDrop⟩ := of_decide_eq_true failed
  exact (fine cs (List.mem_of_getElem? called) call inside).elim notOk notDrop

end Chain

namespace Topology

/-- The topology with this policy for failures. -/
def withPolicy (t : Topology) (policy : OnError) : Topology :=
  { t with chain := { t.chain with onError := policy } }

variable {t : Topology} {targets : List Nat} {bs : List BuiltIn}
  (room : t.layout.HasRoom targets) (chain : t.chain.filters = bs.map BuiltIn.filter)
  (aims : ∀ b ∈ bs, ∀ index ∈ b.target?, index ∈ targets)

include room chain aims

/-- What comes of a line does not depend on the policy for failures. -/
theorem processLine_withPolicy (policy : OnError) (tally : PipelineTally)
    (filters : List FilterTally) (metadata : Option Metadata) (line : Bytes) :
    (t.withPolicy policy).processLine tally filters metadata line =
      t.processLine tally filters metadata line := by
  have layout : (t.withPolicy policy).layout = t.layout := rfl
  have validator : (t.withPolicy policy).validator = t.validator := rfl
  rcases t.parse_cases (metadata, line) with ⟨malformed, r, e, parsed⟩ | ⟨wellFormed, r, parsed⟩
  · simp only [processLine, layout, parsed]
  · have same : (t.withPolicy policy).chain.run (t.withPolicy policy).terminal r (filters, []) =
        t.chain.run t.terminal r (filters, []) := by
      change Chain.stage policy t.terminal t.chain.filters r (filters, []) =
        Chain.stage t.chain.onError t.terminal t.chain.filters r (filters, [])
      rw [chain]
      exact Chain.stage_policy room aims policy t.chain.onError (.of_parse parsed) (filters, [])
    simp only [processLine, layout, validator, parsed, same]

/-- No filter counts an error, whatever the lines. -/
theorem errors_of_counted (lines : List TaggedLine) :
    ∀ tally ∈ (t.counted lines).2, tally.errors = 0 := by
  induction lines using List.reverseRecOn with
  | nil =>
      intro tally member
      obtain ⟨f, _, rfl⟩ := List.mem_map.mp member
      rfl
  | append_singleton lines line ih =>
      obtain ⟨exchanges, outputs, calls, passes, parsed, counts⟩ := t.processLine_passes line
      rw [chain] at passes
      have fine := passes.no_failure room aims fun e member => .of_parse (parsed e member)
      rw [counted_concat, countLine]
      dsimp only
      rw [counts _ _ (t.balanced_counted lines).filters]
      exact Chain.errors_counted ih fun cs called call member => (fine cs called call member).1

end Topology

end RecordPipeline
