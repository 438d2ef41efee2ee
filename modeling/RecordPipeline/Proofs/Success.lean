import Mathlib.Data.List.Forall2

/-!
Computations that may fail, taken apart by what they came to: a chain of stages succeeds when each
stage does, and a list is worked off when each of its elements is.
-/

namespace RecordPipeline

variable {α β ε : Type} {x : Except ε α}

/-- Two stages succeed when each does. -/
theorem bind_eq_ok_iff {f : α → Except ε β} {b : β} :
    (x >>= f) = .ok b ↔ ∃ a, x = .ok a ∧ f a = .ok b := by
  cases x with
  | error e => exact iff_of_false nofun fun ⟨_, failed, _⟩ => nomatch failed
  | ok a => exact ⟨fun h => ⟨a, rfl, h⟩, fun ⟨_, same, h⟩ => Except.ok.inj same ▸ h⟩

theorem ok_of_mapError_eq_ok {ε' : Type} {f : ε → ε'} {a : α} (h : x.mapError f = .ok a) :
    x = .ok a := by
  cases x with
  | error e => cases h
  | ok b =>
      cases h
      rfl

theorem exists_of_map_eq_ok {f : α → β} {b : β} (h : x.map f = .ok b) :
    ∃ a, x = .ok a ∧ f a = b := by
  cases x with
  | error e => cases h
  | ok a => exact ⟨a, rfl, Except.ok.inj h⟩

section Lists

variable {f : α → Except ε β} {xs : List α} {ys : List β}

/-- A list is worked off when each element has a value. -/
theorem mapM_eq_ok_iff : xs.mapM f = .ok ys ↔ List.Forall₂ (fun x y => f x = .ok y) xs ys := by
  induction xs generalizing ys with
  | nil =>
      rw [List.mapM_nil, List.forall₂_nil_left_iff]
      exact ⟨fun h => (Except.ok.inj h).symm, fun none => none ▸ rfl⟩
  | cons x xs ih =>
      rw [List.mapM_cons, List.forall₂_cons_left_iff]
      simp only [bind_eq_ok_iff, ih]
      constructor
      · rintro ⟨y, first, others, rest, h⟩
        exact ⟨y, others, first, rest, (Except.ok.inj h).symm⟩
      · rintro ⟨y, others, first, rest, rfl⟩
        exact ⟨y, first, others, rest, rfl⟩

theorem exists_mapM_eq_ok (each : ∀ x ∈ xs, ∃ y, f x = .ok y) : ∃ ys, xs.mapM f = .ok ys := by
  simp only [mapM_eq_ok_iff]
  induction xs with
  | nil => exact ⟨[], .nil⟩
  | cons x xs ih =>
      obtain ⟨y, first⟩ := each x List.mem_cons_self
      obtain ⟨ys, others⟩ := ih fun x' later => each x' (List.mem_cons_of_mem x later)
      exact ⟨y :: ys, .cons first others⟩

/-- A list is given up at the first of its elements that has no value. -/
theorem mapM_eq_error_iff {e : ε} :
    xs.mapM f = .error e ↔ ∃ before x after, xs = before ++ x :: after ∧
      (∀ earlier ∈ before, ∃ y, f earlier = .ok y) ∧ f x = .error e := by
  induction xs with
  | nil => exact iff_of_false nofun (by simp)
  | cons x xs ih =>
      rw [List.mapM_cons]
      cases first : f x with
      | error e' =>
          constructor
          · intro failed
            exact ⟨[], x, xs, rfl, by simp, first.trans (congrArg _ (Except.error.inj failed))⟩
          · rintro ⟨before, x', after, same, fine, failed⟩
            cases before with
            | nil =>
                obtain ⟨rfl, rfl⟩ := List.cons.inj same
                exact congrArg Except.error (Except.error.inj (first.symm.trans failed))
            | cons earlier before =>
                obtain ⟨rfl, rfl⟩ := List.cons.inj same
                obtain ⟨y, value⟩ := fine x List.mem_cons_self
                cases first.symm.trans value
      | ok y =>
          have later : (Except.ok y >>= fun y => xs.mapM f >>= fun ys => pure (y :: ys)) =
              .error e ↔ xs.mapM f = .error e := by
            cases xs.mapM f with
            | error e' => exact Iff.rfl
            | ok ys => exact iff_of_false nofun nofun
          rw [later, ih]
          constructor
          · rintro ⟨before, x', after, rfl, fine, failed⟩
            exact ⟨x :: before, x', after, rfl, List.forall_mem_cons.mpr ⟨⟨y, first⟩, fine⟩, failed⟩
          · rintro ⟨before, x', after, same, fine, failed⟩
            cases before with
            | nil =>
                obtain ⟨rfl, rfl⟩ := List.cons.inj same
                cases first.symm.trans failed
            | cons earlier before =>
                obtain ⟨rfl, rfl⟩ := List.cons.inj same
                exact ⟨before, x', after, rfl, (List.forall_mem_cons.mp fine).2, failed⟩

theorem length_of_mapM_eq_ok (h : xs.mapM f = .ok ys) : ys.length = xs.length :=
  (mapM_eq_ok_iff.mp h).length_eq.symm

theorem exists_of_forall₂ {R : α → β → Prop} (all : List.Forall₂ R xs ys) {x : α}
    (member : x ∈ xs) :
    ∃ y ∈ ys, R x y := by
  induction all with
  | nil => exact absurd member List.not_mem_nil
  | @cons first other rest others related _ ih =>
      rcases List.mem_cons.mp member with rfl | later
      · exact ⟨other, List.mem_cons_self, related⟩
      · obtain ⟨y, inside, related⟩ := ih later
        exact ⟨y, List.mem_cons_of_mem other inside, related⟩

end Lists

end RecordPipeline
