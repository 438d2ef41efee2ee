import Mathlib.Data.List.Perm.Basic
import RecordPipeline.Proofs.Chain.Meaning
import RecordPipeline.Proofs.Metric.Bags

/-!
What a record adds to the tallies of a chain. It does not depend on what was counted before, and
so the tallies of filters without a state come out the same whatever the order of the records.
-/

namespace RecordPipeline

variable {τ : Type}

namespace FilterTally

open Activity (Outcome)

theorem noted_comm (own : Bag) (first second : List (String × Nat)) :
    second.foldl (fun b entry => b.count entry.1 entry.2)
        (first.foldl (fun b entry => b.count entry.1 entry.2) own) =
      first.foldl (fun b entry => b.count entry.1 entry.2)
        (second.foldl (fun b entry => b.count entry.1 entry.2) own) := by
  rw [← List.foldl_append, ← List.foldl_append]
  exact List.perm_append_comm.foldl_eq' (fun x _ y _ b => b.count_comm x.1 y.1 x.2 y.2) own

/-- Whether a record was kept back without a failure, as a number. -/
def keptBack (o : Outcome τ) : Nat :=
  match o.result with
  | .ok () => if o.emitted = 0 then 1 else 0
  | .error .drop => 1
  | .error _ => 0

/-- Whether the filter failed on a record, as a number. -/
def failed (o : Outcome τ) : Nat :=
  match o.result with
  | .ok () | .error .drop => 0
  | .error _ => 1

theorem add_eq (t : FilterTally τ) (o : Outcome τ) :
    t.add o = {
      processed := t.processed + 1
      filtered := t.filtered + keptBack o
      errors := t.errors + failed o
      own := o.noted.foldl (fun b entry => b.count entry.1 entry.2) t.own
      state := o.state } := by
  unfold add keptBack failed
  cases o.result with
  | ok _ =>
      dsimp only
      split
      · rfl
      · rfl
  | error e => cases e <;> rfl

/-- The order in which records are counted makes no difference. -/
theorem add_comm (t : FilterTally) (o o' : Outcome) : (t.add o).add o' = (t.add o').add o := by
  simp only [add_eq, noted_comm t.own o.noted, Nat.add_right_comm _ (keptBack o),
    Nat.add_right_comm _ (failed o)]

/-- Counts what came of some records, one after the other. -/
def addAll (t : FilterTally τ) (os : List (Outcome τ)) : FilterTally τ := os.foldl add t

theorem addAll_comm (t : FilterTally) (os os' : List Outcome) :
    (t.addAll os).addAll os' = (t.addAll os').addAll os := by
  rw [addAll, addAll, addAll, addAll, ← List.foldl_append, ← List.foldl_append]
  exact List.perm_append_comm.foldl_eq' (fun o _ o' _ t => t.add_comm o o') t

/-- The filter's own counters take all increments, in order. -/
theorem own_addAll (t : FilterTally τ) (outcomes : List (Outcome τ)) :
    (t.addAll outcomes).own =
      (outcomes.flatMap (·.noted)).foldl (fun b entry => b.count entry.1 entry.2) t.own := by
  induction outcomes generalizing t with
  | nil => rfl
  | cons o rest ih =>
      rw [List.flatMap_cons, List.foldl_append]
      exact (ih (t.add o)).trans (by rw [add_eq])

end FilterTally

namespace Chain

open Activity (Outcome)

/-- Counts for every filter what came of its records. -/
def counted (tallies : List (FilterTally τ)) (marks : List (List (Outcome τ))) :
    List (FilterTally τ) :=
  List.zipWith FilterTally.addAll tallies marks

theorem counted_comm (tallies : List FilterTally) (marks marks' : List (List Outcome)) :
    counted (counted tallies marks) marks' = counted (counted tallies marks') marks := by
  induction tallies generalizing marks marks' with
  | nil => rfl
  | cons tally rest ih =>
      cases marks with
      | nil => cases marks' <;> rfl
      | cons os marks =>
          cases marks' with
          | nil => rfl
          | cons os' marks' =>
              exact congrArg₂ List.cons (tally.addAll_comm os os') (ih marks marks')

theorem counted_counted (tallies : List (FilterTally τ)) (marks marks' : List (List (Outcome τ))) :
    counted (counted tallies marks) marks' =
      counted tallies (List.zipWith (· ++ ·) marks marks') := by
  induction tallies generalizing marks marks' with
  | nil => rfl
  | cons tally rest ih =>
      cases marks with
      | nil => rfl
      | cons os marks =>
          cases marks' with
          | nil => rfl
          | cons os' marks' =>
              exact congrArg₂ List.cons List.foldl_append.symm (ih marks marks')

theorem counted_nothing (tallies : List (FilterTally τ)) :
    counted tallies (List.replicate tallies.length []) = tallies := by
  induction tallies with
  | nil => rfl
  | cons tally rest ih => exact congrArg (List.cons tally) ih

theorem length_counted {n : Nat} {tallies : List (FilterTally τ)} {marks : List (List (Outcome τ))}
    (h : tallies.length = n) (h' : marks.length = n) : (counted tallies marks).length = n := by
  rw [counted, List.length_zipWith, h, h', Nat.min_self]

end Chain

end RecordPipeline
