import RecordPipeline.Proofs.Chain.Meaning
import RecordPipeline.Proofs.Chain.Tallies
import RecordPipeline.Proofs.Record.Replacing

/-!
What a built-in filter leaves behind when it fails on a record: everything as it was. It only fails
when a field cannot be replaced. This does not depend on the value, so it shows before the first
record is handed on, and a replacement that is refused leaves the record as it is.
-/

namespace RecordPipeline

namespace BuiltIn

variable {f : BuiltIn} {r : Record}

/-- A filter fails only on a record in which a field takes no value at all. -/
theorem exists_refused {e : RecordError} (failed : f.outputs r = .error e) :
    ∃ index, ∀ value, r.set index value = .error e := by
  cases f with
  | noop => cases failed
  | drop f => cases failed
  | setField f =>
      rw [outputs] at failed
      by_cases applies : f.applies r = true
      · rw [if_pos applies] at failed
        refine ⟨f.field, fun value => ?_⟩
        rcases r.set_uniform f.field with ⟨e', refused⟩ | taken
        · rw [refused] at failed
          cases failed
          exact refused value
        · obtain ⟨changed, set⟩ := taken f.value
          rw [set] at failed
          cases failed
      · rw [if_neg applies] at failed
        cases failed
  | split f =>
      have failed : f.outputs r = .error e := failed
      refine ⟨f.field, fun value => ?_⟩
      cases hp : f.pieces (r.get f.field) with
      | nil =>
          rw [Split.outputs, hp] at failed
          cases failed
      | cons piece rest =>
          rcases r.set_uniform f.field with ⟨e', refused⟩ | taken
          · rcases Split.process_of_refused hp refused with ⟨records, handedOn, _⟩ | ⟨same, _⟩
            · rw [handedOn] at failed
              cases failed
            · rw [same] at failed
              cases failed
              exact refused value
          · obtain ⟨records, handedOn, _⟩ := Split.process_emits_of_taken hp taken
            rw [handedOn] at failed
            cases failed

section Run

variable {σ : Type} {stage : Stage σ} {s : σ}

/-- An error other than that of a record kept back on purpose is there from the start. -/
theorem process_of_failed {e : FilterError}
    (failed : ((f.process r).run stage s).1.result = .error e) (notDrop : e ≠ .drop) :
    ∃ e', e = .record e' ∧ f.outputs r = .error e' ∧ f.process r = .fail r (.record e') := by
  rcases f.process_emits r with ⟨records, result, _, emits, ended⟩ | ⟨e', refused, fails⟩
  · rw [(emits.run_eq stage s).1] at failed
    rcases ended with rfl | rfl
    · cases failed
    · exact absurd (Except.error.inj failed).symm notDrop
  · rw [fails] at failed
    exact ⟨e', (Except.error.inj failed).symm, refused, fails⟩

/-- Without such an error all that the filter makes of the record is handed on. -/
theorem handedOn_of_result
    (result : ∀ e, ((f.process r).run stage s).1.result = .error e → e = .drop) :
    ∃ records, f.outputs r = .ok records ∧
      ((f.process r).run stage s).1.emitted = records.length ∧
      ((f.process r).run stage s).2 = records.foldl (fun s r => (stage r s).2) s := by
  rcases f.process_emits r with ⟨records, _, made, emits, _⟩ | ⟨e, _, fails⟩
  · exact ⟨records, made, (emits.run_eq stage s).2⟩
  · rw [fails] at result
    cases result (.record e) rfl

end Run

/-- Whatever a built-in filter stands in front of, it hands on all that it makes of a record or it
fails before the first of it. If it fails, a field of the record could not be replaced: no stage
behind it has seen anything, the record is as it was and the filter's own counters have not moved.
The stages behind it then get the record as it reached the filter, or nothing, as the policy
says. -/
theorem fails_with_nothing_done (f : BuiltIn) (l : Layout) (calls : List RecordCall) {σ : Type}
    (onError : OnError) (terminal : Stage σ) (rest : List Filter) (tallies : List FilterTally)
    (s : σ) :
    let r := Record.reached l calls
    let behind := Chain.stage onError terminal rest
    let done := (f.process r).run behind (tallies.tail, s)
    let tally := tallies.headD f.filter.fresh
    let failed := { tally with processed := tally.processed + 1, errors := tally.errors + 1 }
    (∀ e, done.1.result = .error e → e ≠ .drop →
      (∃ index e', e = .record e' ∧ ∀ value, r.setInPlace index value = (r, .error e')) ∧
      done.1.emitted = 0 ∧ done.1.record = r ∧ done.2 = (tallies.tail, s) ∧
      tally.add done.1 = failed ∧
      Chain.stage onError terminal (f.filter :: rest) r (tallies, s) =
        match onError with
        | .drop => (r, failed :: tallies.tail, s)
        | .forward =>
          let after := behind r (tallies.tail, s)
          (after.1, failed :: after.2.1, after.2.2)) ∧
    ((∀ e, done.1.result = .error e → e = .drop) →
      ∃ records, f.outputs r = .ok records ∧ done.1.emitted = records.length ∧
        done.2 = records.foldl (fun state r => (behind r state).2) (tallies.tail, s)) := by
  intro r behind done tally failed
  constructor
  · intro e fails notDrop
    obtain ⟨e', rfl, refused, process⟩ := process_of_failed fails notDrop
    obtain ⟨index, refused⟩ := exists_refused refused
    have consistent := Record.reached_overlayConsistent l calls
    have ended : done = (⟨r, .error (.record e'), [], 0, ()⟩, tallies.tail, s) := by
      simp only [done, process]
      rfl
    refine ⟨⟨index, e', rfl, fun value => ?_⟩, ?_⟩
    · rw [Record.setInPlace_eq consistent, Record.perform, refused value]
    · rw [ended]
      refine ⟨rfl, rfl, rfl, rfl, ?_⟩
      simp only [Chain.stage_cons, BuiltIn.process_filter, process]
      cases onError with
      | drop => rfl
      | forward => rfl
  · exact handedOn_of_result

/-- A layout with more fields than can be replaced. -/
def wide : Layout := ⟨9, 300, by decide, by decide, by decide⟩

/-- A line of 256 fields, the last of which is `a|b`. -/
def crowdedLine : Bytes := List.replicate 255 9 ++ [97, 124, 98]

/-- All its fields but the last are replaced. -/
def crowded : List RecordCall :=
  [.parse crowdedLine none] ++ (List.range 255).map fun index => .set index [120]

/-- The split of the last field at its bar. -/
def splitLast : Split := { field := 255, delimiter := [124], nonempty := by decide }

/-- No slot is left for the last field. -/
theorem crowded_refuses :
    (Record.reached wide crowded).get 255 = [97, 124, 98] ∧
      ∀ value, (Record.reached wide crowded).set 255 value = .error (.overlayFull 255) := by
  have consistent := Record.reached_overlayConsistent wide crowded
  have layout := Record.reached_layout wide crowded
  have reached : Record.reached wide crowded =
      ((Record.reached wide [.parse crowdedLine none]).performAll
        ((List.range 255).map fun index => .set index [120])).1 :=
    Record.reached_append wide [.parse crowdedLine none] _
  have atFirst := Record.reached_overlayConsistent wide [.parse crowdedLine none]
  have layout' := Record.reached_layout wide [.parse crowdedLine none]
  have unused : (Record.reached wide [.parse crowdedLine none]).modified = [] := by decide +kernel
  have parsed : (Record.reached wide [.parse crowdedLine none]).get 255 = [97, 124, 98] := by
    decide +kernel
  generalize Record.reached wide [.parse crowdedLine none] = first at *
  have inside : ∀ index ∈ List.range 255, index < first.layout.maxFields := by
    intro index member
    rw [layout']
    exact Nat.lt_trans (List.mem_range.mp member) (by decide)
  have distinct : (first.modified ++ List.range 255).Nodup := by
    rw [unused, List.nil_append]
    exact List.nodup_range
  have room : (first.modified ++ List.range 255).length ≤ Record.overlayLimit := by
    rw [unused, List.nil_append, List.length_range]
    exact Nat.le_refl 255
  obtain ⟨modified, kept⟩ := Record.performAll_sets atFirst [120] inside distinct room
  rw [← reached, unused, List.nil_append] at modified
  rw [← reached] at kept
  have outside : 255 ∉ List.range 255 := fun member => Nat.lt_irrefl 255 (List.mem_range.mp member)
  refine ⟨(kept 255 outside).trans parsed, fun value => Record.set_of_full ?_ ?_ ?_ value⟩
  · rw [layout]
    decide
  · rw [consistent.slot_eq_zero_iff, modified]
    exact outside
  · rw [← Record.length_modified, modified, List.length_range]
    exact Nat.le_refl 255

/-- The first piece has no place, and the record is forwarded whole. -/
theorem crowded_record_forwarded_whole :
    let r := Record.reached wide crowded
    let stage : Stage (List Record) := fun r seen => (r, seen ++ [r])
    Chain.stage .forward stage [(split splitLast).filter] r ([{}], []) =
      (r, [{ processed := 1, errors := 1 }], [r]) := by
  obtain ⟨value, refused⟩ := crowded_refuses
  have untouched := fails_with_nothing_done (split splitLast) wide crowded .forward
    (fun r (seen : List Record) => (r, seen ++ [r])) [] [{}] []
  generalize Record.reached wide crowded = r at untouched value refused ⊢
  have process : (split splitLast).process r = .fail r (.record (.overlayFull 255)) := by
    have pieces : splitLast.pieces (r.get splitLast.field) = [97] :: [98] :: [] := by
      rw [show r.get splitLast.field = [97, 124, 98] from value]
      decide
    have first : r.duplicate.set splitLast.field [97] = .error (.overlayFull 255) := by
      rw [Record.set_duplicate]
      exact congrArg (Except.map Record.duplicate) (refused [97])
    exact Split.process_of_refused_copy pieces first
  dsimp only at untouched
  rw [process] at untouched
  obtain ⟨_, _, _, _, _, forwarded⟩ := untouched.1 (.record (.overlayFull 255)) rfl nofun
  exact forwarded

end BuiltIn

end RecordPipeline
