import Mathlib.Data.List.Nodup
import Mathlib.Data.List.Perm.Subperm
import RecordPipeline.Proofs.FileSystem.Names
import RecordPipeline.Proofs.Sink.Search
import RecordPipeline.Upload.Uploader

/-!
The search for a name that is free in a directory. The name of a file and the names with a number
are different names in the directory, so each that is taken is an entry of its own, and the search
comes to an end.
-/

namespace RecordPipeline

namespace MoveUploader

variable {fs : FileSystem} {dir name path : String}

/-- A number stands before the last dot of the name, or behind the name. -/
theorem numbered_cases (name : String) :
    (∀ n, numbered name n = name ++ "." ++ toString n) ∨
      ∃ front ending, name = front ++ "." ++ ending ∧
        ∀ n, numbered name n = front ++ "." ++ toString n ++ "." ++ ending := by
  obtain cut | ⟨front, ending, cut, whole⟩ := Path.stem_cases name
  · left
    intro n
    rw [numbered, cut]
    rfl
  · right
    refine ⟨front, ending, whole, ?_⟩
    intro n
    rw [numbered, cut]
    rfl

theorem isName_numbered (isName : Path.IsName name) (n : Nat) : Path.IsName (numbered name n) := by
  have digits : '/' ∉ Nat.toDigits 10 n := Text.not_mem_toDigits rfl n
  have some' : 0 < (Nat.toDigits 10 n).length := Nat.length_toDigits_pos
  have noSlash := isName.noSlash
  obtain number | ⟨front, ending, rfl, number⟩ := numbered_cases name
  · have letters : 0 < name.toList.length := List.length_pos_of_ne_nil fun empty =>
      isName.notDots (String.toList_eq_nil_iff.mp empty ▸ List.mem_cons_self)
    rw [number]
    refine Path.isName_of_length (by simp [noSlash, digits]) ?_
    simp only [String.toList_append, List.length_append, Nat.toString_eq_repr, Nat.toList_repr]
    exact Nat.add_le_add (Nat.add_le_add letters (Nat.le_refl 1)) some'
  · simp only [String.toList_append, List.mem_append, not_or] at noSlash
    rw [number]
    refine Path.isName_of_length (by simp [noSlash, digits]) ?_
    simp only [String.toList_append, List.length_append, Nat.toString_eq_repr, Nat.toList_repr]
    have dot : ".".toList.length = 1 := rfl
    omega

theorem numbered_injective {m n : Nat} (h : numbered name m = numbered name n) : m = n := by
  obtain number | ⟨front, ending, _, number⟩ := numbered_cases name
  · rw [number, number, String.append_right_inj] at h
    exact Text.toString_injective h
  · rw [number, number, String.append_left_inj, String.append_left_inj,
      String.append_right_inj] at h
    exact Text.toString_injective h

/-- The search finds the first number from one on whose name is free, unless all that it looks at
are taken. -/
theorem freeNumbered?_cases (fs : FileSystem) (dir name : String) (tries n : Nat) :
    (∃ m, n ≤ m ∧ freeNumbered? fs dir name tries n = some (Path.join dir (numbered name m)) ∧
        fs.has (Path.join dir (numbered name m)) = false ∧
        ∀ k, n ≤ k → k < m → fs.has (Path.join dir (numbered name k)) = true) ∨
      ∀ k, n ≤ k → k < n + tries → fs.has (Path.join dir (numbered name k)) = true := by
  induction tries generalizing n with
  | zero => exact .inr fun k from_n before => absurd before (Nat.not_lt_of_le from_n)
  | succ tries ih =>
      rw [freeNumbered?]
      by_cases taken : fs.has (Path.join dir (numbered name n)) = true
      · rw [if_pos taken]
        have first : ∀ k, n ≤ k → ¬n + 1 ≤ k → fs.has (Path.join dir (numbered name k)) = true := by
          intro k from_n before
          rwa [← show n = k by omega]
        obtain ⟨m, from_m, found, free, others⟩ | all := ih (n + 1)
        · refine .inl ⟨m, by omega, found, free, ?_⟩
          intro k from_n before
          by_cases later : n + 1 ≤ k
          · exact others k later before
          · exact first k from_n later
        · refine .inr fun k from_n before => ?_
          by_cases later : n + 1 ≤ k
          · exact all k later (by omega)
          · exact first k from_n later
      · rw [if_neg taken]
        refine .inl ⟨n, Nat.le_refl n, rfl, Bool.eq_false_iff.mpr taken, ?_⟩
        exact fun k from_n before => absurd before (Nat.not_lt_of_le from_n)

/-- A name that is taken in a directory is an entry of its own. -/
theorem entry_of_has (isName : Path.IsName name) (taken : fs.has (Path.join dir name) = true) :
    ∃ here, fs.walk (FileSystem.startOf dir) (Path.parts dir) = .ok here ∧
      here ++ [name] ∈ fs.keys := by
  rw [isName.join_eq, FileSystem.has_append_iff (isName.isEnding dir)] at taken
  obtain ⟨p, node, located, found⟩ := taken
  obtain ⟨here, walked, _, rfl⟩ :=
    (FileSystem.locate_append_eq_ok_iff (isName.isEnding dir)).mp located
  rw [Path.startOf_folder, Path.folders_folder] at walked
  rw [Path.lead_folder, String.empty_append] at found
  exact ⟨here, walked, List.mem_map.mpr ⟨_, Table.mem_of_get? found, rfl⟩⟩

/-- Not all of the names with numbers can be taken when there are more of them than entries. -/
theorem exists_free (fs : FileSystem) (dir : String) (isName : Path.IsName name) :
    ¬∀ k, 1 ≤ k → k < 1 + (fs.length + 1) →
      fs.has (Path.join dir (numbered name k)) = true := by
  intro taken
  obtain ⟨here, walked, _⟩ :=
    entry_of_has (isName_numbered isName 1) (taken 1 (Nat.le_refl 1) (by omega))
  let places := (List.range (fs.length + 1)).map fun k => here ++ [numbered name (k + 1)]
  have different : places.Nodup := by
    refine List.Nodup.map_on ?_ List.nodup_range
    intro j _ k _ same
    exact Nat.succ.inj (numbered_injective (List.append_singleton_inj.mp same).2)
  have entries : places ⊆ fs.keys := by
    intro p member
    obtain ⟨k, small, rfl⟩ := List.mem_map.mp member
    rw [List.mem_range] at small
    obtain ⟨here', walked', entry⟩ :=
      entry_of_has (isName_numbered isName (k + 1)) (taken (k + 1) (by omega) (by omega))
    rwa [Except.ok.inj (walked.symm.trans walked')]
  have many := (List.subperm_of_subset different entries).length_le
  simp only [places, List.length_map, List.length_range, Table.keys] at many
  omega

/-- A path for a name in a directory under which nothing is there. It is that of the name itself,
or where this is taken, that of the name with the smallest number that is not. -/
def IsFirstFree (fs : FileSystem) (dir name path : String) : Prop :=
  fs.has path = false ∧
    (path = Path.join dir name ∨
      fs.has (Path.join dir name) = true ∧
        ∃ n, 0 < n ∧ path = Path.join dir (numbered name n) ∧
          ∀ k, 0 < k → k < n → fs.has (Path.join dir (numbered name k)) = true)

theorem freePath_isFirstFree (fs : FileSystem) (dir : String) (isName : Path.IsName name) :
    IsFirstFree fs dir name (freePath fs dir name) := by
  rw [freePath]
  by_cases taken : fs.has (Path.join dir name) = true
  · rw [if_pos taken]
    obtain ⟨n, positive, found, free, before⟩ | all :=
      freeNumbered?_cases fs dir name (fs.length + 1) 1
    · rw [found]
      exact ⟨free, .inr ⟨taken, n, positive, rfl, before⟩⟩
    · exact absurd all (exists_free fs dir isName)
  · rw [if_neg taken]
    exact ⟨Bool.eq_false_iff.mpr taken, .inl rfl⟩

/-- A first free path is that of a file in the directory. -/
theorem IsFirstFree.exists_name (first : IsFirstFree fs dir name path)
    (isName : Path.IsName name) : ∃ name', Path.IsName name' ∧ path = Path.join dir name' := by
  obtain ⟨_, rfl | ⟨_, n, _, rfl, _⟩⟩ := first
  · exact ⟨name, isName, rfl⟩
  · exact ⟨numbered name n, isName_numbered isName n, rfl⟩

end MoveUploader

end RecordPipeline
