import Mathlib.Data.List.Perm.Subperm
import RecordPipeline.Proofs.FileSystem.Places
import RecordPipeline.Sink.File

/-!
The search of a sink for a free number. Every number has a final name and a name for the file while
it is written, and all these names differ. So each number that is passed over takes up an entry of
the file system, and the search comes to an end.
-/

namespace RecordPipeline

namespace Text

theorem ofDigitChars_padded (width n : Nat) :
    Nat.ofDigitChars 10 (padded width n).toList 0 = n := by
  rw [padded, String.toList_append, String.toList_ofList, Nat.ofDigitChars_append,
    Nat.ofDigitChars_replicate_zero, Nat.mul_zero, Nat.toString_eq_repr, Nat.toList_repr,
    Nat.ofDigitChars_ten_toDigits]

theorem padded_injective {width m n : Nat} (h : padded width m = padded width n) : m = n := by
  rw [← ofDigitChars_padded width m, h, ofDigitChars_padded]

theorem toDigits_injective {m n : Nat} (h : Nat.toDigits 10 m = Nat.toDigits 10 n) : m = n := by
  rw [← Nat.ofDigitChars_ten_toDigits (n := m), h, Nat.ofDigitChars_ten_toDigits]

theorem toString_injective {m n : Nat} (h : toString m = toString n) : m = n := by
  have digits := congrArg String.toList h
  simp only [Nat.toString_eq_repr, Nat.toList_repr] at digits
  exact toDigits_injective digits

theorem not_mem_toDigits {c : Char} (notDigit : c.isDigit = false) (n : Nat) :
    c ∉ Nat.toDigits 10 n := by
  intro member
  rw [Nat.isDigit_of_mem_toDigits (by decide) (by decide) member] at notDigit
  cases notDigit

theorem not_mem_padded {c : Char} (notDigit : c.isDigit = false) (width n : Nat) :
    c ∉ (padded width n).toList := by
  rw [padded, String.toList_append, String.toList_ofList, Nat.toString_eq_repr, Nat.toList_repr,
    List.mem_append, not_or]
  refine ⟨?_, not_mem_toDigits notDigit n⟩
  intro member
  rw [List.eq_of_mem_replicate member] at notDigit
  cases notDigit

end Text

namespace FileSink

variable {s : FileSink} {fs : FileSystem} {turn : FileTurn}

/-- Sinks with the same configuration and instance number have the same files. -/
theorem pathOf_congr {other : FileSink} (config : s.config = other.config)
    (instanceNumber : s.instanceNumber = other.instanceNumber) (number : Nat) :
    s.pathOf number = other.pathOf number := by
  rw [pathOf, pathOf, fileName, fileName, config, instanceNumber]

/-- What the paths of all files of a sink begin with. -/
def stem (s : FileSink) : String := Path.join s.config.dir s.config.name

/-- What the path of the file with a number ends in. -/
def ending (s : FileSink) (number : Nat) : String :=
  "-" ++ toString s.instanceNumber ++ "-" ++ Text.padded 6 number ++ ".log"

theorem isEnding (s : FileSink) (number : Nat) {stem : String} :
    Path.IsEnding stem (s.ending number) := by
  apply Path.isEnding_of_length
  · simp [ending, Text.not_mem_padded (c := '/') rfl, Text.not_mem_toDigits (c := '/') rfl]
  · simp [ending]
    omega

theorem isEnding_part (s : FileSink) (number : Nat) {stem : String} :
    Path.IsEnding stem (partPathOf (s.ending number)) := by
  have whole : Path.IsEnding stem (s.ending number) := s.isEnding number
  apply Path.isEnding_of_length
  · simp [partPathOf, whole.noSlash]
  · simp [partPathOf]

theorem pathOf_eq (s : FileSink) (number : Nat) : s.pathOf number = s.stem ++ s.ending number := by
  rw [stem, ← Path.join_append (s.isEnding number), pathOf]
  have name : s.fileName number =
      s.config.name ++ "-" ++ toString s.instanceNumber ++ "-" ++ Text.padded 6 number ++ ".log" :=
    rfl
  rw [name, ending]
  simp only [String.append_assoc]

theorem partPathOf_eq (s : FileSink) (number : Nat) :
    partPathOf (s.pathOf number) = s.stem ++ partPathOf (s.ending number) := by
  rw [pathOf_eq]
  exact String.append_assoc ..

/-- The instances of a sink give their files different names. -/
theorem instanceNumber_eq_of_ending {other : FileSink} {m n : Nat}
    (h : s.ending m = other.ending n) : s.instanceNumber = other.instanceNumber := by
  rw [ending, ending, String.append_left_inj, String.append_assoc, String.append_assoc,
    String.append_assoc, String.append_assoc, String.append_right_inj] at h
  have letters := congrArg String.toList h
  simp only [String.toList_append, Nat.toString_eq_repr, Nat.toList_repr] at letters
  have numbers := (List.append_cons_inj_of_notMem (Text.not_mem_toDigits (c := '-') rfl _)
    (Text.not_mem_padded (c := '-') rfl _ _)).mp letters
  exact Text.toDigits_injective numbers.1

theorem ending_injective {m n : Nat} (h : s.ending m = s.ending n) : m = n := by
  rw [ending, ending, String.append_left_inj, String.append_right_inj] at h
  exact Text.padded_injective h

/-- No final name is the name of a file that is being written. -/
theorem ending_ne_part (m n : Nat) : s.ending m ≠ partPathOf (s.ending n) := by
  intro h
  have last := congrArg (fun text => text.toList.reverse.head?) h
  simp [ending, partPathOf] at last

/-- A place that belongs to a number, under its final name or the name while it is written. -/
def Owns (s : FileSink) (fs : FileSystem) (number : Nat) (p : Place) : Prop :=
  fs.locate (s.pathOf number) = .ok p ∨ fs.locate (partPathOf (s.pathOf number)) = .ok p

theorem owner_unique {m n : Nat} {p : Place} (h : s.Owns fs m p) (h' : s.Owns fs n p) : m = n := by
  rw [Owns, pathOf_eq, partPathOf, String.append_assoc] at h h'
  rcases h with h | h <;> rcases h' with h' | h'
  · exact ending_injective (FileSystem.ending_unique (s.isEnding m) (s.isEnding n) h h')
  · exact absurd (FileSystem.ending_unique (s.isEnding m) (s.isEnding_part n) h h')
      (ending_ne_part m n)
  · exact absurd (FileSystem.ending_unique (s.isEnding n) (s.isEnding_part m) h' h)
      (ending_ne_part n m)
  · have same := FileSystem.ending_unique (s.isEnding_part m) (s.isEnding_part n) h h'
    exact ending_injective (String.append_left_inj _ |>.mp same)

/-- A number is taken if something is there under its final name or that of its part file. -/
theorem exists_owned_of_has {number : Nat}
    (taken : fs.has (s.pathOf number) = true ∨ fs.has (partPathOf (s.pathOf number)) = true) :
    ∃ p ∈ fs.keys, s.Owns fs number p := by
  rcases taken with taken | taken
  · rw [pathOf_eq, FileSystem.has_append_iff (s.isEnding number)] at taken
    obtain ⟨p, node, located, found⟩ := taken
    refine ⟨p, ?_, .inl (pathOf_eq s number ▸ located)⟩
    by_contra absent
    rw [Table.get?_eq_none_iff.mpr absent] at found
    cases found
  · rw [partPathOf_eq, FileSystem.has_append_iff (s.isEnding_part number)] at taken
    obtain ⟨p, node, located, found⟩ := taken
    refine ⟨p, ?_, .inr (partPathOf_eq s number ▸ located)⟩
    by_contra absent
    rw [Table.get?_eq_none_iff.mpr absent] at found
    cases found

theorem settle_of_ready (ready : s.task = .ready) (n : Nat) : settle turn n s fs = (s, fs, []) := by
  cases n with
  | zero => rfl
  | succ n => rw [settle, if_pos ready]

theorem settle_succ (busy : s.task ≠ .ready) (n : Nat) :
    settle turn (n + 1) s fs =
      let next := s.step fs turn
      let rest := settle turn n next.1 next.2.1
      (rest.1, rest.2.1, next.2.2.toList ++ rest.2.2) := by
  rw [settle, if_neg busy]

theorem settled_succ {n : Nat}
    (next : (settle turn n (s.step fs turn).1 (s.step fs turn).2.1).1.task = .ready) :
    (settle turn (n + 1) s fs).1.task = .ready := by
  by_cases ready : s.task = .ready
  · rw [settle_of_ready ready]
    exact ready
  · rw [settle_succ ready]
    exact next

/-- How many steps a task leads to at most, apart from the search for a number. -/
def left : FileTask → Nat
  | .ready => 0
  | .makeDirectory | .announce _ => 1
  | .finish _ => 2
  | .write .. => 3
  | .create .. => 4
  | .probe _ => 5

/-- Outside of the search, every step leaves fewer. -/
theorem step_left (fs : FileSystem) (turn : FileTurn) (busy : s.task ≠ .ready)
    (past : left s.task ≤ 3) :
    left (s.step fs turn).1.task < left s.task := by
  unfold step
  cases task : s.task with
  | ready => exact absurd task busy
  | makeDirectory =>
      dsimp only
      split <;> exact Nat.one_pos
  | announce request => exact Nat.one_pos
  | finish file =>
      dsimp only
      split
      · exact Nat.two_pos
      · split
        · exact Nat.two_pos
        · split
          · exact Nat.one_lt_two
          · exact Nat.two_pos
  | write file o =>
      dsimp only
      split
      · unfold afterRecord
        split
        · exact Nat.lt_succ_self 2
        · exact Nat.succ_pos 2
      · unfold afterRecord
        split
        · exact Nat.lt_succ_self 2
        · exact Nat.succ_pos 2
  | create path o =>
      rw [task] at past
      contradiction
  | probe o =>
      rw [task] at past
      contradiction

theorem settled_of_left {n : Nat} (past : left s.task ≤ 3) (enough : left s.task ≤ n) :
    (settle turn n s fs).1.task = .ready := by
  induction n generalizing s fs with
  | zero =>
      cases task : s.task with
      | ready => rw [settle_of_ready task]; exact task
      | _ => simp [task, left] at enough
  | succ n ih =>
      by_cases ready : s.task = .ready
      · rw [settle_of_ready ready]
        exact ready
      · have fewer := step_left fs turn ready past
        exact settled_succ (ih (by omega) (by omega))

/-- A file that cannot be made because its name is taken leads back to the search. -/
theorem step_create (fs : FileSystem) (turn : FileTurn) {path : String} {o : Output}
    (task : s.task = .create path o) :
    left (s.step fs turn).1.task ≤ 3 ∨
      (s.step fs turn = ({ s with task := .probe o }, fs, none) ∧
        fs.create (partPathOf path) = .error .alreadyExists) := by
  unfold step
  simp only [task]
  split
  · exact .inl (Nat.le_refl 3)
  · rename_i taken
    exact .inr ⟨rfl, taken⟩
  · exact .inl (Nat.zero_le 3)

/-- The search comes to an end: the places of the numbers that were passed over are different
entries of the file system, and each of them took two steps at most. -/
theorem search_ends {n : Nat} {o : Output} {seen : List Place} (task : s.task = .probe o)
    (nodup : seen.Nodup) (entries : seen ⊆ fs.keys)
    (passed : ∀ p ∈ seen, ∃ number < s.sequence, s.Owns fs number p)
    (enough : 2 * fs.length + 5 ≤ n + 2 * seen.length) :
    (settle turn n s fs).1.task = .ready := by
  induction n using Nat.strongRecOn generalizing s seen with
  | ind n ih =>
      have fewer : seen.length ≤ fs.length := by
        have := (List.subperm_of_subset nodup entries).length_le
        rwa [Table.keys, List.length_map] at this
      -- One more number is passed over.
      have again : ∀ steps ≤ 2, 1 ≤ steps → ∀ next : FileSink, next.config = s.config →
          next.instanceNumber = s.instanceNumber → next.sequence = s.sequence + 1 →
          next.task = .probe o →
          fs.has (s.pathOf s.sequence) = true ∨
            fs.has (partPathOf (s.pathOf s.sequence)) = true →
          (settle turn (n - steps) next fs).1.task = .ready := by
        intro steps few some next config number sequence probing taken
        have same : ∀ k, next.pathOf k = s.pathOf k := pathOf_congr config number
        obtain ⟨p, entry, owned⟩ := exists_owned_of_has taken
        have fresh : p ∉ seen := by
          intro member
          obtain ⟨k, before, owned'⟩ := passed p member
          exact absurd (owner_unique owned owned') (by omega)
        refine ih (n - steps) (by omega) probing (List.nodup_cons.mpr ⟨fresh, nodup⟩)
          (List.cons_subset.mpr ⟨entry, entries⟩) ?_ (by rw [List.length_cons]; omega)
        intro q member
        rcases List.mem_cons.mp member with rfl | earlier
        · refine ⟨s.sequence, by omega, ?_⟩
          rw [Owns, same]
          exact owned
        · obtain ⟨k, before, owned'⟩ := passed q earlier
          refine ⟨k, by omega, ?_⟩
          rw [Owns, same]
          exact owned'
      obtain ⟨m, rfl⟩ : ∃ m, n = m + 2 := ⟨n - 2, by omega⟩
      apply settled_succ
      cases taken : fs.has (s.pathOf s.sequence) with
      | true =>
          have next : s.step fs turn = ({ s with sequence := s.sequence + 1 }, fs, none) := by
            simp only [step, task, taken, if_true]
          rw [next]
          exact again 1 (by decide) (Nat.le_refl 1) _ rfl rfl rfl task (.inl taken)
      | false =>
          have next : s.step fs turn =
              ({ s with sequence := s.sequence + 1, task := .create (s.pathOf s.sequence) o }, fs,
                none) := by
            simp only [step, task, taken, Bool.false_eq_true, if_false]
          rw [next]
          apply settled_succ
          dsimp only
          obtain past | ⟨back, refused⟩ := step_create fs turn
            (s := { s with sequence := s.sequence + 1, task := .create (s.pathOf s.sequence) o })
            rfl
          · exact settled_of_left past (by omega)
          · rw [back]
            refine again 2 (Nat.le_refl 2) (by decide) _ rfl rfl rfl rfl (.inr ?_)
            rw [partPathOf_eq] at refused ⊢
            exact FileSystem.has_of_create (s.isEnding_part s.sequence) refused

theorem work_ready (s : FileSink) (fs : FileSystem) (turn : FileTurn) :
    (s.work fs turn).1.task = .ready := by
  unfold work
  cases task : s.task with
  | probe o =>
      exact search_ends task (List.nodup_nil : ([] : List Place).Nodup) (List.nil_subset _)
        (fun p member => absurd member List.not_mem_nil) (by rw [List.length_nil]; omega)
  | create path o =>
      apply settled_succ
      obtain past | ⟨back, _⟩ := step_create fs turn task
      · exact settled_of_left past (by omega)
      · rw [back]
        dsimp only
        exact search_ends rfl (List.nodup_nil : ([] : List Place).Nodup) (List.nil_subset _)
          (fun p member => absurd member List.not_mem_nil) (by rw [List.length_nil]; omega)
  | _ => exact settled_of_left (by rw [task]; simp [left]) (by rw [task]; simp [left])

end FileSink

end RecordPipeline
