import Mathlib.Algebra.GroupWithZero.Nat
import Mathlib.Data.List.Induction
import RecordPipeline.ErrorLog

/-!
Errors that are reported to a log of limited rate. The calls fall into spells: the first call of a
spell is logged, and the others, which come before the interval is over, are only counted. What is
logged accounts for them, each entry for those that were kept back in the spell before.
-/

namespace RecordPipeline

/-- A call that reports an error. -/
structure ErrorCall where
  time : Nat
  message : String
  error : String

/-- A call that is logged, and those behind it that are only counted. -/
structure ErrorSpell where
  first : ErrorCall
  counted : List ErrorCall

namespace ErrorSpell

def calls (s : ErrorSpell) : List ErrorCall := s.first :: s.counted

/-- How many calls were kept back in the last spell, with a number for no spell at all. -/
def keptBack (before : Nat) (spells : List ErrorSpell) : Nat :=
  spells.getLast?.elim before fun s => s.counted.length

/-- What is logged for spells, behind so many calls that were kept back and so many calls in all. -/
def entries : Nat → Nat → List ErrorSpell → List LoggedError
  | _, _, [] => []
  | kept, total, s :: rest =>
    { message := s.first.message, error := s.first.error, suppressed := kept, total := total + 1 }
      :: entries s.counted.length (total + s.calls.length) rest

theorem keptBack_cons (before : Nat) (s : ErrorSpell) (rest : List ErrorSpell) :
    keptBack before (s :: rest) = keptBack s.counted.length rest := by
  cases rest with
  | nil => rfl
  | cons next rest => rw [keptBack, keptBack, List.getLast?_cons_cons]; rfl

theorem keptBack_concat (before : Nat) (spells : List ErrorSpell) (s : ErrorSpell) :
    keptBack before (spells ++ [s]) = s.counted.length := by
  rw [keptBack, List.getLast?_concat]
  rfl

/-- A spell adds the entry of its first call, whatever calls are counted behind it. -/
theorem entries_concat (kept total : Nat) (spells : List ErrorSpell) (s : ErrorSpell) :
    entries kept total (spells ++ [s]) = entries kept total spells ++
      [{ message := s.first.message, error := s.first.error, suppressed := keptBack kept spells,
         total := total + (spells.flatMap calls).length + 1 }] := by
  induction spells generalizing kept total with
  | nil => rfl
  | cons first rest ih =>
      rw [List.cons_append, entries, ih, entries, keptBack_cons, List.flatMap_cons,
        List.length_append, ← Nat.add_assoc, List.cons_append]

/-- Each entry stands for itself and for the calls that were kept back before it. -/
theorem sum_entries (spells : List ErrorSpell) :
    ((entries 0 0 spells).map fun e => 1 + e.suppressed).sum + keptBack 0 spells =
      (spells.flatMap calls).length := by
  induction spells using List.reverseRecOn with
  | nil => rfl
  | append_singleton spells s ih =>
      rw [entries_concat, keptBack_concat, List.map_append, List.sum_append, List.flatMap_append,
        List.length_append, ← ih]
      simp only [List.map_cons, List.map_nil, List.sum_cons, List.sum_nil, List.flatMap_cons,
        List.flatMap_nil, List.append_nil, calls, List.length_cons]
      omega

end ErrorSpell

open ErrorSpell

/-- Calls fall into spells: in each of them the calls that are counted come before the interval is
over, and the first calls are an interval apart at least. -/
structure FallsInto (interval : Nat) (calls : List ErrorCall) (spells : List ErrorSpell) :
    Prop where
  whole : spells.flatMap ErrorSpell.calls = calls
  within : ∀ s ∈ spells, ∀ c ∈ s.counted, c.time < s.first.time + interval
  apart : spells.Pairwise fun s later => s.first.time + interval ≤ later.first.time

namespace FallsInto

variable {interval : Nat} {calls : List ErrorCall} {spells : List ErrorSpell} {s : ErrorSpell}
  {c : ErrorCall}

theorem tail {rest : List ErrorSpell} (h : FallsInto interval calls (s :: rest)) :
    FallsInto interval (rest.flatMap ErrorSpell.calls) rest where
  whole := rfl
  within := (List.forall_mem_cons.mp h.within).2
  apart := (List.pairwise_cons.mp h.apart).2

/-- The calls that are counted in the first spell are those up to the first one that comes when the
interval is over. -/
theorem counted_eq_takeWhile {rest : List ErrorSpell} (h : FallsInto interval calls (s :: rest)) :
    s.counted = (s.counted ++ rest.flatMap ErrorSpell.calls).takeWhile
      fun c => c.time < s.first.time + interval := by
  have inside : ∀ c ∈ s.counted, decide (c.time < s.first.time + interval) = true := by
    intro c member
    exact decide_eq_true ((List.forall_mem_cons.mp h.within).1 c member)
  rw [List.takeWhile_append_of_pos inside]
  cases rest with
  | nil => rw [List.flatMap_nil, List.takeWhile_nil, List.append_nil]
  | cons next rest =>
      have ended : ¬next.first.time < s.first.time + interval :=
        Nat.not_lt.mpr ((List.pairwise_cons.mp h.apart).1 next List.mem_cons_self)
      rw [List.flatMap_cons, ErrorSpell.calls, List.cons_append,
        List.takeWhile_cons_of_neg (by simpa using ended), List.append_nil]

/-- Calls fall into spells in one way only. -/
theorem unique {other : List ErrorSpell} (h : FallsInto interval calls spells)
    (h' : FallsInto interval calls other) : other = spells := by
  induction spells generalizing calls other with
  | nil =>
      cases other with
      | nil => rfl
      | cons o more => exact absurd (h'.whole.trans h.whole.symm) (List.cons_ne_nil _ _)
  | cons s rest ih =>
      cases other with
      | nil => exact absurd (h.whole.trans h'.whole.symm) (List.cons_ne_nil _ _)
      | cons o more =>
          obtain ⟨first, counted⟩ := s
          obtain ⟨first', counted'⟩ := o
          have same := h'.whole.trans h.whole.symm
          simp only [List.flatMap_cons, ErrorSpell.calls, List.cons_append, List.cons.injEq] at same
          obtain ⟨rfl, behind⟩ := same
          have taken : counted' = counted := by
            have here := h.counted_eq_takeWhile
            have there := h'.counted_eq_takeWhile
            simp only at here there
            rw [there, behind, ← here]
          subst taken
          have later := h'.tail
          rw [List.append_cancel_left behind] at later
          rw [ih h.tail later]

/-- A call that comes before the interval is over belongs to the last spell. -/
theorem count {front : List ErrorSpell} (h : FallsInto interval calls (front ++ [s]))
    (early : c.time < s.first.time + interval) :
    FallsInto interval (calls ++ [c]) (front ++ [{ s with counted := s.counted ++ [c] }]) where
  whole := by
    rw [← h.whole]
    simp [ErrorSpell.calls]
  within := by
    obtain ⟨before, last⟩ := List.forall_mem_append.mp h.within
    refine List.forall_mem_append.mpr ⟨before, List.forall_mem_singleton.mpr ?_⟩
    refine List.forall_mem_append.mpr ⟨?_, List.forall_mem_singleton.mpr early⟩
    exact last s (List.mem_singleton_self s)
  apart := by
    obtain ⟨before, _, last⟩ := List.pairwise_append.mp h.apart
    refine List.pairwise_append.mpr ⟨before, List.pairwise_singleton _ _, ?_⟩
    intro earlier member
    exact List.forall_mem_singleton.mpr (last earlier member s (List.mem_singleton_self s))

/-- A call that comes when the interval is over begins a spell. -/
theorem begin (h : FallsInto interval calls spells)
    (ended : ∀ s ∈ spells.getLast?, s.first.time + interval ≤ c.time) :
    FallsInto interval (calls ++ [c]) (spells ++ [⟨c, []⟩]) where
  whole := by
    rw [← h.whole]
    simp [ErrorSpell.calls]
  within := by
    refine List.forall_mem_append.mpr ⟨h.within, List.forall_mem_singleton.mpr ?_⟩
    exact fun _ none => absurd none List.not_mem_nil
  apart := by
    refine List.pairwise_append.mpr ⟨h.apart, List.pairwise_singleton _ _, ?_⟩
    intro earlier member
    refine List.forall_mem_singleton.mpr ?_
    -- The spells before the last one began an interval earlier still.
    cases spells using List.reverseRecOn with
    | nil => cases member
    | append_singleton front last =>
        have behind := ended last List.getLast?_concat
        rcases List.mem_append.mp member with inside | atEnd
        · have order := (List.pairwise_append.mp h.apart).2.2 earlier inside last
            (List.mem_singleton_self last)
          exact Nat.le_trans order (Nat.le_trans (Nat.le_add_right _ _) behind)
        · exact List.mem_singleton.mp atEnd ▸ behind

/-- No spell begins later than the calls in it. -/
theorem first_le (h : FallsInto interval calls spells) {now : Nat}
    (passed : ∀ c ∈ calls, c.time ≤ now) : ∀ s ∈ spells.getLast?, s.first.time ≤ now := by
  intro s last
  apply passed
  rw [← h.whole, List.mem_flatMap]
  exact ⟨s, List.mem_of_getLast? last, List.mem_cons_self⟩

end FallsInto

namespace ErrorLog

def reportAll (l : ErrorLog) (calls : List ErrorCall) : ErrorLog :=
  calls.foldl (fun l c => l.report c.time c.message c.error) l

theorem reportAll_concat (l : ErrorLog) (calls : List ErrorCall) (c : ErrorCall) :
    l.reportAll (calls ++ [c]) = (l.reportAll calls).report c.time c.message c.error := by
  rw [reportAll, List.foldl_append]
  rfl

/-- A log has logged the first calls of these spells and counted the others. -/
structure Shows (interval : Nat) (spells : List ErrorSpell) (l : ErrorLog) : Prop where
  interval : l.interval = interval
  last : l.last = spells.getLast?.map (·.first.time)
  pending : l.pending = keptBack 0 spells
  total : l.total = (spells.flatMap ErrorSpell.calls).length
  logged : l.logged = entries 0 0 spells

variable {interval : Nat} {spells : List ErrorSpell} {l : ErrorLog} {s : ErrorSpell} {c : ErrorCall}

namespace Shows

/-- The log is quiet exactly before the interval since the last call that was logged is over. -/
theorem isQuiet_iff (h : Shows interval spells l) {now : Nat}
    (inOrder : ∀ s ∈ spells.getLast?, s.first.time ≤ now) :
    l.isQuiet now = true ↔ ∃ s ∈ spells.getLast?, now < s.first.time + interval := by
  rw [isQuiet, h.last, h.interval]
  cases found : spells.getLast? with
  | none => simp
  | some s =>
      have order := inOrder s found
      simp only [Option.map_some, decide_eq_true_eq, Option.mem_def, Option.some.injEq,
        exists_eq_left']
      omega

theorem count {front : List ErrorSpell} (h : Shows interval (front ++ [s]) l)
    (quiet : l.isQuiet c.time = true) :
    Shows interval (front ++ [{ s with counted := s.counted ++ [c] }])
      (l.report c.time c.message c.error) := by
  obtain ⟨interval, last, pending, total, logged⟩ := h
  rw [report, if_pos quiet]
  constructor
  · exact interval
  · simpa using last
  · rw [keptBack_concat] at pending ⊢
    simp [pending]
  · simp [total, ErrorSpell.calls, Nat.add_assoc]
  · rw [entries_concat] at logged ⊢
    exact logged

theorem begin (h : Shows interval spells l) (loud : ¬l.isQuiet c.time = true) :
    Shows interval (spells ++ [⟨c, []⟩]) (l.report c.time c.message c.error) := by
  obtain ⟨interval, last, pending, total, logged⟩ := h
  rw [report, if_neg loud]
  constructor
  · exact interval
  · simp
  · simp [keptBack_concat]
  · simp [total, ErrorSpell.calls]
  · rw [entries_concat, logged, pending, total]
    simp

end Shows

/-- Calls in the order of time leave a log that shows their spells. -/
theorem exists_shows (interval : Nat) {calls : List ErrorCall}
    (inOrder : calls.Pairwise fun a b => a.time ≤ b.time) :
    ∃ spells, FallsInto interval calls spells ∧
      Shows interval spells (reportAll { interval } calls) := by
  induction calls using List.reverseRecOn with
  | nil => exact ⟨[], ⟨rfl, nofun, .nil⟩, ⟨rfl, rfl, rfl, rfl, rfl⟩⟩
  | append_singleton calls c ih =>
      obtain ⟨earlier, _, later⟩ := List.pairwise_append.mp inOrder
      obtain ⟨spells, falls, shows'⟩ := ih earlier
      have passed := falls.first_le fun a member => later a member c (List.mem_singleton_self c)
      rw [reportAll_concat]
      by_cases quiet : (reportAll { interval } calls).isQuiet c.time = true
      · obtain ⟨s, last, early⟩ := (shows'.isQuiet_iff passed).mp quiet
        obtain ⟨front, rfl⟩ := List.getLast?_eq_some_iff.mp last
        exact ⟨_, falls.count early, shows'.count quiet⟩
      · have ended : ∀ s ∈ spells.getLast?, s.first.time + interval ≤ c.time := by
          intro s last
          exact Nat.not_lt.mp fun early => quiet ((shows'.isQuiet_iff passed).mpr ⟨s, last, early⟩)
        exact ⟨_, falls.begin ended, shows'.begin quiet⟩

/-- Whatever the interval, calls in the order of time fall into spells, and in one way only. A log
that is new has then logged the first call of each spell, with the number of calls that were kept
back in the spell before, and still counts those of the last spell. So its entries, each with what
it accounts for, and what is still counted are all calls. The next call is logged exactly if the
interval since the last one that was logged is over, or there is none, and else only counted. -/
theorem accounts_for_errors (interval : Nat) {calls : List ErrorCall}
    (inOrder : calls.Pairwise fun a b => a.time ≤ b.time) :
    ∃ spells, FallsInto interval calls spells ∧
      (∀ other, FallsInto interval calls other → other = spells) ∧
      let l := reportAll { interval } calls
      l.logged = entries 0 0 spells ∧ l.pending = keptBack 0 spells ∧ l.total = calls.length ∧
      (l.logged.map fun e => 1 + e.suppressed).sum + l.pending = l.total ∧
      ∀ c : ErrorCall, (∀ a ∈ calls, a.time ≤ c.time) →
        let next := l.report c.time c.message c.error
        let entry : LoggedError :=
          { message := c.message, error := c.error, suppressed := l.pending, total := l.total + 1 }
        (next.logged = l.logged ++ [entry] ↔
          ∀ s ∈ spells.getLast?, s.first.time + interval ≤ c.time) ∧
        (next.logged = l.logged ↔ ∃ s ∈ spells.getLast?, c.time < s.first.time + interval) := by
  obtain ⟨spells, falls, shows'⟩ := exists_shows interval inOrder
  refine ⟨spells, falls, fun other => falls.unique, shows'.logged, shows'.pending, ?_, ?_, ?_⟩
  · rw [shows'.total, falls.whole]
  · rw [shows'.logged, shows'.pending, shows'.total]
    exact sum_entries spells
  · intro c later next entry
    have quiet := shows'.isQuiet_iff (falls.first_le later)
    have loud : (∀ s ∈ spells.getLast?, s.first.time + interval ≤ c.time) ↔
        ¬∃ s ∈ spells.getLast?, c.time < s.first.time + interval := by
      simp only [not_exists, not_and, Nat.not_lt]
    rw [loud, ← quiet]
    simp only [next, entry, report]
    split
    · rename_i isQuiet
      simp [isQuiet]
    · rename_i isLoud
      simp [isLoud]

/-- An error at a time. -/
def errorAt (time : Nat) : ErrorCall :=
  { time, message := "write failed", error := "disk full" }

/-- Two errors at one time, one just before the interval of ten is over, one when it is, and two
later. -/
def sixErrors : List ErrorCall := [0, 0, 9, 10, 25, 34].map errorAt

theorem sixErrors_accounted :
    sixErrors.Pairwise (fun a b => a.time ≤ b.time) ∧
    let l := reportAll { interval := 10 } sixErrors
    l.logged.map (·.suppressed) = [0, 2, 0] ∧ l.logged.map (·.total) = [1, 4, 5] ∧
      l.pending = 1 ∧ l.total = 6 := by
  have inOrder : sixErrors.Pairwise fun a b => a.time ≤ b.time := by decide
  obtain ⟨spells, _, unique, logged, pending, total, _⟩ := accounts_for_errors 10 inOrder
  have falls : FallsInto 10 sixErrors
      [⟨errorAt 0, [errorAt 0, errorAt 9]⟩, ⟨errorAt 10, []⟩, ⟨errorAt 25, [errorAt 34]⟩] :=
    ⟨rfl, by decide, by decide⟩
  rw [← unique _ falls] at logged pending
  exact ⟨inOrder, by rw [logged]; decide, by rw [logged]; decide, pending, total⟩

end ErrorLog

end RecordPipeline
