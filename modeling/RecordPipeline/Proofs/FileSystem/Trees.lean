import Mathlib.Data.List.Induction
import Mathlib.Data.List.Nodup
import RecordPipeline.Proofs.FileSystem.Places

/-!
File systems as trees, and what moves within them. Each place that is listed is listed once and lies
in a directory. What is given another place takes along all that lies inside of it. Everything else
stays as it is, and the files contain what they contained.
-/

namespace RecordPipeline

namespace Table

variable {κ α : Type} [DecidableEq κ] {key : κ} {value : α} {t t' : Table κ α}

theorem mem_keys_iff : key ∈ keys t ↔ ∃ value, get? key t = some value := by
  rw [← not_iff_not, ← get?_eq_none_iff, Option.eq_none_iff_forall_ne_some, not_exists]

/-- In a table in which every key stands once, a key reads its entry. -/
theorem get?_eq_some_iff (nodup : (keys t).Nodup) :
    get? key t = some value ↔ (key, value) ∈ t := by
  constructor
  · exact mem_of_get?
  · intro member
    obtain ⟨i, entry⟩ := List.mem_iff_getElem?.mp member
    exact get?_of_getElem? nodup entry

/-- The order of the entries makes no difference to what the keys read. -/
theorem get?_perm (nodup : (keys t).Nodup) (perm : t'.Perm t) : get? key t' = get? key t := by
  have nodup' : (keys t').Nodup := (perm.map _).nodup_iff.mpr nodup
  cases found : get? key t with
  | none =>
      rw [get?_eq_none_iff] at found ⊢
      exact fun member => found ((perm.map _).mem_iff.mp member)
  | some value =>
      rw [get?_eq_some_iff nodup] at found
      exact (get?_eq_some_iff nodup').mpr (perm.mem_iff.mpr found)

/-- An entry and the entries under other keys are all that there is. -/
theorem perm_cons_erase (nodup : (keys t).Nodup) (found : get? key t = some value) :
    t.Perm ((key, value) :: erase key t) := by
  induction t with
  | nil => cases found
  | cons entry rest ih =>
      obtain ⟨k, v⟩ := entry
      obtain ⟨new, nodup⟩ := List.nodup_cons.mp nodup
      rw [get?] at found
      by_cases same : k = key
      · rw [if_pos same] at found
        obtain rfl := Option.some.inj found
        have others : rest.filter (fun entry => entry.1 ≠ key) = rest := by
          apply List.filter_eq_self.mpr
          intro other member
          apply decide_eq_true
          intro again
          have again : other.1 = k := again.trans same.symm
          exact new (List.mem_map.mpr ⟨other, member, again⟩)
        rw [erase, List.filter_cons_of_neg (by simpa using same), others, same]
      · rw [if_neg same] at found
        rw [erase, List.filter_cons_of_pos (by simpa using same)]
        exact ((ih nodup found).cons _).trans (.swap _ _ _)

end Table

namespace FileSystem

variable {fs fs' : FileSystem} {old new here p q : Place} {node : FileNode} {path : String}

/-- What the files contain, each content as often as there are files that have it. -/
def contents (fs : FileSystem) : List Bytes :=
  fs.filterMap fun entry => match entry.2 with
    | .file content _ => some content
    | .directory => none

/-- Each place is listed once, and what is listed lies in a directory. -/
structure IsTree (fs : FileSystem) : Prop where
  nodup : fs.keys.Nodup
  notBase : ∀ p ∈ fs.keys, isBase p = false
  above : ∀ p ∈ fs.keys, fs.node? p.dropLast = some .directory

instance (fs : FileSystem) : Decidable fs.IsTree :=
  decidable_of_iff (fs.keys.Nodup ∧ (∀ p ∈ fs.keys, isBase p = false) ∧
      ∀ p ∈ fs.keys, fs.node? p.dropLast = some .directory)
    ⟨fun h => ⟨h.1, h.2.1, h.2.2⟩, fun h => ⟨h.nodup, h.notBase, h.above⟩⟩

theorem contents_perm (perm : fs'.Perm fs) : fs'.contents.Perm fs.contents := perm.filterMap _

theorem isBase_iff : isBase p = true ↔ p = [] ∨ p = ["/"] := by
  rw [isBase, Bool.or_eq_true, List.isEmpty_iff, beq_iff_eq]

theorem isBase_of_inside (base : isBase p = true) (inside : q <+: p) : isBase q = true := by
  rcases isBase_iff.mp base with rfl | rfl
  · rw [List.prefix_nil.mp inside]
    rfl
  · rcases List.prefix_concat_iff.mp (show q <+: [] ++ ["/"] from inside) with same | none
    · rw [same]
      rfl
    · rw [List.prefix_nil.mp none]
      rfl

theorem prefix_dropLast_of_ne (inside : q <+: p) (apart : q ≠ p) : q <+: p.dropLast := by
  obtain ⟨rest, rfl⟩ := inside
  have more : rest ≠ [] := by
    rintro rfl
    exact apart (List.append_nil q).symm
  rw [List.dropLast_append_of_ne_nil more]
  exact List.prefix_append q rest.dropLast

theorem get?_of_node?_file {content : Bytes} {modified : Option Nat}
    (found : fs.node? p = some (.file content modified)) :
    fs.get? p = some (.file content modified) := by
  rw [node?] at found
  split at found
  · cases found
  · exact found

namespace IsTree

theorem perm (tree : fs.IsTree) (perm : fs'.Perm fs) : fs'.IsTree := by
  have keys : (fs'.keys).Perm fs.keys := perm.map _
  refine ⟨keys.nodup_iff.mpr tree.nodup, ?_, ?_⟩
  · intro p member
    exact tree.notBase p (keys.mem_iff.mp member)
  · intro p member
    rw [node?, Table.get?_perm tree.nodup perm]
    exact tree.above p (keys.mem_iff.mp member)

theorem notBase_of_get? (tree : fs.IsTree) (found : fs.get? p = some node) : isBase p = false :=
  tree.notBase p (Table.mem_keys_iff.mpr ⟨node, found⟩)

theorem above_of_node? (tree : fs.IsTree) (found : fs.node? p = some node) :
    fs.node? p.dropLast = some .directory := by
  by_cases base : isBase p = true
  · exact node?_of_isBase (isBase_of_inside base (List.dropLast_prefix p))
  · rw [node?_of_notBase (Bool.eq_false_iff.mpr base)] at found
    exact tree.above p (Table.mem_keys_iff.mpr ⟨node, found⟩)

/-- Everything on the way to a place is a directory. -/
theorem directory_above (tree : fs.IsTree) (found : fs.node? p = some node)
    (inside : q <+: p) (apart : q ≠ p) : fs.node? q = some .directory := by
  induction p using List.reverseRecOn generalizing node with
  | nil => exact absurd (List.prefix_nil.mp inside) apart
  | append_singleton above name ih =>
      have directory := tree.above_of_node? found
      have further := prefix_dropLast_of_ne inside apart
      rw [List.dropLast_concat] at directory further
      by_cases last : q = above
      · rw [last]
        exact directory
      · exact ih directory further last

/-- Inside of a place where nothing is, there is nothing. -/
theorem nothing_inside (tree : fs.IsTree) (nothing : fs.node? q = none) (inside : q <+: p) :
    fs.node? p = none := by
  cases found : fs.node? p with
  | none => rfl
  | some node =>
      by_cases same : q = p
      · rw [← nothing, same, found]
      · rw [tree.directory_above found inside same] at nothing
        cases nothing

/-- Inside of a file there is nothing. -/
theorem eq_of_inside_file (tree : fs.IsTree) {content : Bytes} {modified : Option Nat}
    (file : fs.get? q = some (.file content modified)) (found : fs.node? p = some node)
    (inside : q <+: p) : q = p := by
  by_contra apart
  have directory := tree.directory_above found inside apart
  rw [node?_of_notBase (tree.notBase_of_get? file), file] at directory
  cases directory

end IsTree

/-- Where names lead from a place when all directories on the way are there. -/
def follow (here : Place) (names : List String) : Place :=
  names.foldl (fun here name => if name = ".." then parent here else here ++ [name]) here

/-- Where a path leads when all directories on the way are there. -/
def placeOf (path : String) : Place := follow (startOf path) (Path.parts path)

theorem follow_concat (here : Place) (names : List String) (name : String) :
    follow here (names ++ [name]) =
      if name = ".." then parent (follow here names) else follow here names ++ [name] := by
  rw [follow, List.foldl_append]
  rfl

theorem eq_follow_of_walk {names : List String} (walked : fs.walk here names = .ok p) :
    p = follow here names := by
  induction names generalizing here with
  | nil => exact (Except.ok.inj walked).symm
  | cons name rest ih =>
      rw [walk] at walked
      rw [follow, List.foldl_cons]
      split at walked
      · rename_i up
        rw [if_pos up]
        exact ih walked
      · rename_i down
        rw [if_neg down]
        split at walked
        · cases walked
        · split at walked
          · cases walked
          · cases walked
          · exact ih walked

/-- The last of the names goes up, or names a place in the directory that the others lead to. -/
theorem locateParts_cases {start : Place} {names : List String}
    (located : fs.locateParts start names = .ok p) :
    ∃ here, fs.walk start names.dropLast = .ok here ∧
      (names = [] ∧ p = here ∨
        ∃ name, names = names.dropLast ++ [name] ∧
          (name = ".." ∧ p = parent here ∨
            name ≠ ".." ∧ name.utf8ByteSize ≤ nameLimit ∧ p = here ++ [name])) := by
  obtain ⟨here, walked, ends⟩ := bind_eq_ok_iff.mp located
  refine ⟨here, walked, ?_⟩
  cases last : names.getLast? with
  | none =>
      rw [last] at ends
      exact .inl ⟨List.getLast?_eq_none_iff.mp last, (Except.ok.inj ends).symm⟩
  | some name =>
      rw [last] at ends
      refine .inr ⟨name, (List.dropLast_append_getLast? name last).symm, ?_⟩
      dsimp only at ends
      split at ends
      · rename_i up
        exact .inl ⟨up, (Except.ok.inj ends).symm⟩
      · rename_i down
        split at ends
        · cases ends
        · rename_i short
          exact .inr ⟨down, Nat.le_of_not_lt short, (Except.ok.inj ends).symm⟩

theorem eq_follow_of_locateParts {start : Place} {names : List String}
    (located : fs.locateParts start names = .ok p) : p = follow start names := by
  obtain ⟨here, walked, ⟨rfl, rfl⟩ | ⟨name, split, last⟩⟩ := locateParts_cases located
  · exact eq_follow_of_walk walked
  · rw [split, follow_concat, ← eq_follow_of_walk walked]
    rcases last with ⟨up, rfl⟩ | ⟨down, _, rfl⟩
    · exact (if_pos up).symm
    · exact (if_neg down).symm

/-- There is one place that a path can lead to. -/
theorem eq_placeOf_of_locate (located : fs.locate path = .ok p) : p = placeOf path := by
  rw [locate] at located
  split at located
  · cases located
  · exact eq_follow_of_locateParts located

theorem IsTree.directory_of_parent (tree : fs.IsTree) (directory : fs.node? p = some .directory) :
    fs.node? (parent p) = some .directory := by
  rw [parent]
  split
  · exact directory
  · exact tree.above_of_node? directory

/-- The way through directories ends in a directory. -/
theorem IsTree.directory_of_walk (tree : fs.IsTree) {names : List String}
    (directory : fs.node? here = some .directory) (walked : fs.walk here names = .ok p) :
    fs.node? p = some .directory := by
  induction names generalizing here with
  | nil =>
      cases walked
      exact directory
  | cons name rest ih =>
      rw [walk] at walked
      split at walked
      · exact ih (tree.directory_of_parent directory) walked
      · split at walked
        · cases walked
        · split at walked
          · cases walked
          · cases walked
          · rename_i further
            exact ih further walked

theorem isBase_startOf (path : String) : isBase (startOf path) = true := by
  rw [startOf]
  split
  · rfl
  · rfl

/-- Names that lead to a place where nothing is lead into the directory around it. -/
theorem IsTree.locateParts_free (tree : fs.IsTree) {start : Place} (base : isBase start = true)
    {names : List String} (located : fs.locateParts start names = .ok p)
    (nothing : fs.node? p = none) :
    ∃ here name, fs.walk start names.dropLast = .ok here ∧ names = names.dropLast ++ [name] ∧
      name ≠ ".." ∧ p = here ++ [name] ∧ fs.node? here = some .directory := by
  obtain ⟨here, walked, ends⟩ := locateParts_cases located
  have directory := tree.directory_of_walk (node?_of_isBase base) walked
  rcases ends with ⟨_, rfl⟩ | ⟨name, split, ⟨_, rfl⟩ | ⟨down, _, rfl⟩⟩
  · rw [directory] at nothing
    cases nothing
  · rw [tree.directory_of_parent directory] at nothing
    cases nothing
  · exact ⟨here, name, walked, split, down, rfl, directory⟩

theorem IsTree.above_of_locate (tree : fs.IsTree) (located : fs.locate path = .ok p)
    (nothing : fs.node? p = none) : fs.node? p.dropLast = some .directory := by
  rw [locate] at located
  split at located
  · cases located
  · obtain ⟨here, name, _, _, _, rfl, directory⟩ :=
      tree.locateParts_free (isBase_startOf path) located nothing
    rw [List.dropLast_concat]
    exact directory

/-- What is put where nothing was, in a directory, leaves a tree. -/
theorem IsTree.put (tree : fs.IsTree) (free : fs.node? p = none)
    (above : fs.node? p.dropLast = some .directory) (node : FileNode) :
    IsTree (fs.put p node) := by
  obtain ⟨notBase, absent⟩ := get?_of_node?_eq_none free
  have keeps := (keeps_put absent node).directories
  rw [Table.put_of_get?_eq_none absent] at keeps ⊢
  have keys : Table.keys (fs ++ [(p, node)]) = fs.keys ++ [p] := List.map_append
  refine ⟨?_, ?_, ?_⟩
  · rw [keys]
    exact tree.nodup.append (List.nodup_singleton _)
      (List.disjoint_singleton.mpr (Table.get?_eq_none_iff.mp absent))
  · intro q member
    rw [keys, List.mem_append, List.mem_singleton] at member
    rcases member with before | rfl
    · exact tree.notBase q before
    · exact notBase
  · intro q member
    rw [keys, List.mem_append, List.mem_singleton] at member
    rcases member with before | rfl
    · exact node?_of_keeps keeps (tree.above q before)
    · exact node?_of_keeps keeps above

theorem contents_put (nothing : fs.get? p = none) (node : FileNode) :
    contents (fs.put p node) = fs.contents ++ contents [(p, node)] := by
  rw [Table.put_of_get?_eq_none nothing]
  exact List.filterMap_append

theorem walk_append (fs : FileSystem) (here : Place) (names more : List String) :
    fs.walk here (names ++ more) = (fs.walk here names).bind fun here => fs.walk here more := by
  induction names generalizing here with
  | nil => rfl
  | cons name rest ih =>
      rw [List.cons_append, walk, walk]
      split
      · exact ih _
      · split
        · rfl
        · split
          · rfl
          · rfl
          · exact ih _

/-- A directory is at the end of a way. -/
theorem walk_of_locateParts {start : Place} {names : List String}
    (located : fs.locateParts start names = .ok p) (directory : fs.node? p = some .directory) :
    fs.walk start names = .ok p := by
  obtain ⟨here, walked, ⟨rfl, rfl⟩ | ⟨name, split, last⟩⟩ := locateParts_cases located
  · exact walked
  · rw [split, walk_append, walked, Except.bind, walk]
    rcases last with ⟨up, rfl⟩ | ⟨down, short, rfl⟩
    · rw [if_pos up]
      rfl
    · rw [if_neg down, if_neg (Nat.not_lt_of_le short), directory]
      rfl

theorem walk_of_makeDirectoryAt {start : Place} {names : List String}
    (h : fs.makeDirectoryAt start names = .ok fs') : ∃ p, fs'.walk start names = .ok p := by
  have adds := (adds_of_makeDirectoryAt h).keeps.directories
  obtain ⟨p, located, nothing, made⟩ := made_of_makeDirectoryAt h
  obtain ⟨notBase, _⟩ := get?_of_node?_eq_none nothing
  refine ⟨p, walk_of_locateParts (locateParts_of_keeps adds located) ?_⟩
  rw [node?_of_notBase notBase, made, Table.get?_put_self]

theorem walk_of_isDirectoryAt {start : Place} {names : List String}
    (there : fs.isDirectoryAt start names = true) : ∃ p, fs.walk start names = .ok p := by
  rw [isDirectoryAt] at there
  split at there
  · rename_i p located
    exact ⟨p, walk_of_locateParts located (beq_iff_eq.mp there)⟩
  · cases there

/-- A directory that has been made can be reached. -/
theorem walk_of_makeDirectories (h : fs.makeDirectories path = .ok fs') :
    ∃ p, fs'.walk (startOf path) (Path.parts path) = .ok p := by
  rw [makeDirectories] at h
  generalize reversed : (Path.parts path).reverse = names at h
  rw [← List.reverse_reverse (Path.parts path), reversed]
  cases names with
  | nil => exact ⟨_, rfl⟩
  | cons name above =>
      rw [makeDirectoriesAt] at h
      split at h
      · rename_i made
        cases h
        exact walk_of_makeDirectoryAt made
      · obtain ⟨between, _, h⟩ := bind_eq_ok_iff.mp h
        split at h
        · rename_i made
          cases h
          exact walk_of_makeDirectoryAt made
        · dsimp only at h
          split at h
          · rename_i there
            cases h
            exact walk_of_isDirectoryAt there
          · cases h
      · dsimp only at h
        split at h
        · rename_i there
          cases h
          exact walk_of_isDirectoryAt there
        · cases h

end FileSystem

end RecordPipeline
