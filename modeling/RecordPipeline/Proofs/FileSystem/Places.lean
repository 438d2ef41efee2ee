import RecordPipeline.FileSystem.Basic
import RecordPipeline.Proofs.Success

/-!
Where the files of one family lie: files whose paths have a stem in common and differ in their
endings. All of them lie in one directory, each under a name of its own, and a system in which no
directory is lost finds them in the same places.
-/

namespace RecordPipeline

namespace Table

variable {κ α : Type} [DecidableEq κ]

@[simp]
theorem get?_erase_self (key : κ) (t : Table κ α) : get? key (erase key t) = none := by
  rw [get?_eq_none_iff]
  simp [keys, erase]

theorem get?_erase_of_ne {key other : κ} (h : other ≠ key) (t : Table κ α) :
    get? other (erase key t) = get? other t := by
  induction t with
  | nil => rfl
  | cons entry rest ih =>
      obtain ⟨k, v⟩ := entry
      rw [erase] at ih ⊢
      by_cases same : k = key
      · subst same
        rw [List.filter_cons_of_neg (by simp), ih, get?, if_neg (Ne.symm h)]
      · rw [List.filter_cons_of_pos (by simpa using same), get?, get?, ih]

end Table

namespace Path

theorem splitSlash_of_noSlash {cs : List Char} (noSlash : '/' ∉ cs) : splitSlash cs = [cs] := by
  induction cs with
  | nil => rfl
  | cons c rest ih =>
      have first : c ≠ '/' := (List.ne_of_not_mem_cons noSlash).symm
      rw [splitSlash, if_neg first, ih (List.not_mem_of_not_mem_cons noSlash)]

theorem splitSlash_ne_nil (cs : List Char) : splitSlash cs ≠ [] := by
  cases cs with
  | nil => exact List.cons_ne_nil _ _
  | cons c rest =>
      rw [splitSlash]
      split
      · exact List.cons_ne_nil _ _
      · split
        · exact List.cons_ne_nil _ _
        · exact List.cons_ne_nil _ _

/-- What has no slash lengthens the last piece. -/
theorem splitSlash_append (front : List Char) {back : List Char} (noSlash : '/' ∉ back) :
    splitSlash (front ++ back) =
      (splitSlash front).dropLast ++ [(splitSlash front).getLastD [] ++ back] := by
  induction front with
  | nil => exact splitSlash_of_noSlash noSlash
  | cons c rest ih =>
      obtain ⟨piece, pieces, cut⟩ := List.exists_cons_of_ne_nil (splitSlash_ne_nil rest)
      rw [cut] at ih
      rw [List.cons_append, splitSlash, splitSlash, ih, cut]
      by_cases slash : c = '/'
      · rw [if_pos slash, if_pos slash]
        rfl
      · rw [if_neg slash, if_neg slash]
        cases pieces with
        | nil => rfl
        | cons next pieces => rfl

/-- The last piece has no slash. -/
theorem noSlash_getLastD (cs : List Char) : '/' ∉ (splitSlash cs).getLastD [] := by
  induction cs with
  | nil => exact List.not_mem_nil
  | cons c rest ih =>
      obtain ⟨piece, pieces, cut⟩ := List.exists_cons_of_ne_nil (splitSlash_ne_nil rest)
      rw [cut] at ih
      rw [splitSlash, cut]
      by_cases slash : c = '/'
      · rw [if_pos slash]
        exact ih
      · rw [if_neg slash]
        cases pieces with
        | nil => exact List.not_mem_cons_of_ne_of_not_mem (Ne.symm slash) ih
        | cons next pieces => exact ih

/-- The parts of a stem that are complete. -/
def folders (stem : String) : List String :=
  ((splitSlash stem.toList).dropLast.map String.ofList).filter fun part => part ≠ "" && part ≠ "."

/-- The beginning of the last part. -/
def lead (stem : String) : String := String.ofList ((splitSlash stem.toList).getLastD [])

/-- A text that can stand at the end of the path of a file behind a stem: it lies within one part,
and the part that it completes does not stand for a directory. -/
structure IsEnding (stem ending : String) : Prop where
  noSlash : '/' ∉ ending.toList
  notDots : lead stem ++ ending ∉ ["", ".", ".."]

variable {stem ending : String}

/-- A text that is longer than the names that stand for directories can stand behind any stem. -/
theorem isEnding_of_length (noSlash : '/' ∉ ending.toList) (long : 2 < ending.toList.length) :
    IsEnding stem ending := by
  refine ⟨noSlash, ?_⟩
  intro dots
  have short : ∀ name ∈ ["", ".", ".."], name.toList.length ≤ 2 := by decide
  have := short _ dots
  rw [String.toList_append, List.length_append] at this
  omega

theorem toList_lead (stem : String) : (lead stem).toList = (splitSlash stem.toList).getLastD [] :=
  String.toList_ofList

namespace IsEnding

theorem ne_of_mem (isEnding : IsEnding stem ending) {name : String}
    (dots : name ∈ ["", ".", ".."]) :
    lead stem ++ ending ≠ name := fun same => isEnding.notDots (same ▸ dots)

theorem ne_slash (isEnding : IsEnding stem ending) : lead stem ++ ending ≠ "/" := by
  intro root
  have slash : '/' ∈ (lead stem ++ ending).toList := by rw [root]; decide
  rw [String.toList_append, toList_lead] at slash
  exact (List.mem_append.mp slash).elim (noSlash_getLastD _) isEnding.noSlash

theorem append_ne (isEnding : IsEnding stem ending) : stem ++ ending ≠ "" := by
  intro nothing
  obtain ⟨rfl, rfl⟩ := String.append_eq_empty_iff.mp nothing
  exact isEnding.notDots (by decide)

/-- The last piece of the path is none that stands for a directory. -/
theorem piece_ne (isEnding : IsEnding stem ending) {piece : List Char}
    (dots : String.ofList piece ∈ ["", ".", ".."]) :
    (splitSlash stem.toList).getLastD [] ++ ending.toList ≠ piece := by
  intro same
  refine isEnding.ne_of_mem dots ?_
  rw [← same, String.ofList_append, String.ofList_toList, lead]

end IsEnding

theorem pieces_append (isEnding : IsEnding stem ending) :
    splitSlash (stem ++ ending).toList = (splitSlash stem.toList).dropLast ++
      [(splitSlash stem.toList).getLastD [] ++ ending.toList] := by
  rw [String.toList_append, splitSlash_append _ isEnding.noSlash]

theorem lead_append (stem ending : String) :
    String.ofList ((splitSlash stem.toList).getLastD [] ++ ending.toList) =
      lead stem ++ ending := by
  rw [lead, String.ofList_append, String.ofList_toList]

theorem parts_append (isEnding : IsEnding stem ending) :
    parts (stem ++ ending) = folders stem ++ [lead stem ++ ending] := by
  have named : (decide (lead stem ++ ending ≠ "") && decide (lead stem ++ ending ≠ ".")) = true :=
    Bool.and_eq_true_iff.mpr ⟨decide_eq_true (isEnding.ne_of_mem (by decide)),
      decide_eq_true (isEnding.ne_of_mem (by decide))⟩
  rw [parts, pieces_append isEnding, List.map_append, List.filter_append, List.map_singleton,
    lead_append, List.filter_cons, if_pos named, List.filter_nil]
  rfl

theorem isAbsolute_append (isEnding : IsEnding stem ending) :
    isAbsolute (stem ++ ending) = isAbsolute stem := by
  rw [isAbsolute, isAbsolute, String.toList_append]
  cases stem.toList with
  | cons c rest => rfl
  | nil =>
      cases text : ending.toList with
      | nil => rfl
      | cons c rest =>
          have noSlash := isEnding.noSlash
          rw [text] at noSlash
          simpa using (List.ne_of_not_mem_cons noSlash).symm

theorem namesDirectory_append (isEnding : IsEnding stem ending) :
    namesDirectory (stem ++ ending) = false := by
  rw [namesDirectory, pieces_append isEnding, List.getLast?_concat]
  split
  · rename_i same
    exact absurd (Option.some.inj same) (isEnding.piece_ne (by decide))
  · rename_i same
    exact absurd (Option.some.inj same) (isEnding.piece_ne (by decide))
  · rfl

theorem endsInDots_append (isEnding : IsEnding stem ending) :
    endsInDots (stem ++ ending) = false := by
  have kept : (!((splitSlash stem.toList).getLastD [] ++ ending.toList).isEmpty) = true := by
    rw [Bool.not_eq_true', List.isEmpty_eq_false_iff]
    exact isEnding.piece_ne (by decide)
  rw [endsInDots, pieces_append isEnding, List.filter_append, List.filter_cons, if_pos kept,
    List.filter_nil, List.getLast?_concat]
  split
  · rename_i same
    exact absurd (Option.some.inj same) (isEnding.piece_ne (by decide))
  · rename_i same
    exact absurd (Option.some.inj same) (isEnding.piece_ne (by decide))
  · rfl

/-- Where a name is put into a directory makes no difference to its ending. -/
theorem join_append (isEnding : IsEnding stem ending) (dir : String) :
    join dir (stem ++ ending) = join dir stem ++ ending := by
  simp only [join, isAbsolute_append isEnding]
  split
  · rfl
  · split
    · exact (String.append_assoc ..).symm
    · exact (String.append_assoc ..).symm

end Path

namespace FileSystem

variable {fs fs' : FileSystem} {stem ending : String} {p : Place}

theorem node?_of_isBase (base : isBase p = true) : fs.node? p = some .directory := if_pos base

theorem node?_of_notBase (notBase : isBase p = false) : fs.node? p = fs.get? p := by
  rw [node?, notBase]
  rfl

theorem get?_of_node?_eq_none (nothing : fs.node? p = none) :
    isBase p = false ∧ fs.get? p = none := by
  rw [node?] at nothing
  split at nothing
  · cases nothing
  · rename_i notBase
    exact ⟨Bool.eq_false_iff.mpr notBase, nothing⟩

/-- No entry of the first system is lost or changed in the second. -/
def Keeps (fs fs' : FileSystem) : Prop := ∀ p node, fs.get? p = some node → fs'.get? p = some node

/-- No directory of the first system is lost in the second. -/
def KeepsDirectories (fs fs' : FileSystem) : Prop :=
  ∀ p, fs.get? p = some .directory → fs'.get? p = some .directory

theorem Keeps.directories (keeps : Keeps fs fs') : KeepsDirectories fs fs' := fun p => keeps p _

theorem KeepsDirectories.trans {fs'' : FileSystem} (keeps : KeepsDirectories fs fs')
    (keeps' : KeepsDirectories fs' fs'') : KeepsDirectories fs fs'' :=
  fun p h => keeps' p (keeps p h)

/-- What is put where nothing was is in the way of nothing. -/
theorem keeps_put (nothing : fs.get? p = none) (node : FileNode) : Keeps fs (fs.put p node) := by
  intro q found there
  have apart : q ≠ p := by
    rintro rfl
    rw [nothing] at there
    cases there
  rw [Table.get?_put_of_ne apart]
  exact there

/-- A file in a place where no directory was is in the way of none. -/
theorem keepsDirectories_put (h : fs.get? p ≠ some .directory) (content : Bytes)
    (modified : Option Nat) : KeepsDirectories fs (fs.put p (.file content modified)) := by
  intro q found
  have apart : q ≠ p := fun same => h (same ▸ found)
  rw [Table.get?_put_of_ne apart]
  exact found

theorem keepsDirectories_erase (h : fs.get? p ≠ some .directory) :
    KeepsDirectories fs (fs.erase p) := by
  intro q found
  have apart : q ≠ p := fun same => h (same ▸ found)
  rw [Table.get?_erase_of_ne apart]
  exact found

theorem node?_of_keeps (keeps : KeepsDirectories fs fs') (h : fs.node? p = some .directory) :
    fs'.node? p = some .directory := by
  rw [node?] at h ⊢
  split
  · rfl
  · rename_i notBase
    rw [if_neg notBase] at h
    exact keeps p h

/-- A way through directories stays a way. -/
theorem walk_of_keeps (keeps : KeepsDirectories fs fs') {names : List String} {here : Place}
    (h : fs.walk here names = .ok p) : fs'.walk here names = .ok p := by
  induction names generalizing here with
  | nil => exact h
  | cons name rest ih =>
      rw [walk] at h ⊢
      split
      · rename_i up
        rw [if_pos up] at h
        exact ih h
      · rename_i down
        rw [if_neg down] at h
        split
        · rename_i long
          rw [if_pos long] at h
          cases h
        · rename_i short
          rw [if_neg short] at h
          cases node : fs.node? (here ++ [name]) with
          | none =>
              rw [node] at h
              cases h
          | some found =>
              rw [node] at h
              cases found with
              | file content modified => cases h
              | directory =>
                  rw [node?_of_keeps keeps node]
                  exact ih h

theorem locate_append (isEnding : Path.IsEnding stem ending) :
    fs.locate (stem ++ ending) =
      (fs.walk (startOf stem) (Path.folders stem)).bind fun here =>
        if nameLimit < (Path.lead stem ++ ending).utf8ByteSize then .error .nameTooLong
        else .ok (here ++ [Path.lead stem ++ ending]) := by
  have noStep : Path.lead stem ++ ending ≠ ".." := isEnding.ne_of_mem (by decide)
  rw [locate, if_neg isEnding.append_ne, locateParts, Path.parts_append isEnding,
    List.dropLast_concat, List.getLast?_concat, startOf, Path.isAbsolute_append isEnding]
  simp only [if_neg noStep]
  rfl

/-- The files of a family lie in one directory, under names of their own. -/
theorem locate_append_eq_ok_iff (isEnding : Path.IsEnding stem ending) :
    fs.locate (stem ++ ending) = .ok p ↔
      ∃ here, fs.walk (startOf stem) (Path.folders stem) = .ok here ∧
        (Path.lead stem ++ ending).utf8ByteSize ≤ nameLimit ∧
          p = here ++ [Path.lead stem ++ ending] := by
  rw [locate_append isEnding]
  cases walked : fs.walk (startOf stem) (Path.folders stem) with
  | error e => simp [Except.bind]
  | ok here =>
      by_cases long : nameLimit < (Path.lead stem ++ ending).utf8ByteSize
      · have short : ¬(Path.lead stem ++ ending).utf8ByteSize ≤ nameLimit := Nat.not_le_of_lt long
        simp only [Except.bind, if_pos long, short, false_and, and_false, exists_false,
          reduceCtorEq]
      · simp only [Except.bind, if_neg long, Nat.le_of_not_lt long, true_and, Except.ok.injEq,
          exists_eq_left', eq_comm]

theorem locateParts_of_keeps (keeps : KeepsDirectories fs fs') {start : Place}
    {names : List String} (located : fs.locateParts start names = .ok p) :
    fs'.locateParts start names = .ok p := by
  obtain ⟨here, walked, ends⟩ := bind_eq_ok_iff.mp located
  exact bind_eq_ok_iff.mpr ⟨here, walk_of_keeps keeps walked, ends⟩

/-- What a path leads to it leads to further on, as long as no directory is lost. -/
theorem locate_of_keeps (keeps : KeepsDirectories fs fs') {path : String}
    (located : fs.locate path = .ok p) : fs'.locate path = .ok p := by
  rw [locate] at located ⊢
  split at located
  · cases located
  · rename_i named
    rw [if_neg named]
    exact locateParts_of_keeps keeps located

/-- Where one file of the family is found, no other is found only later. -/
theorem locate_back {other : String} {q : Place} (keeps : KeepsDirectories fs fs')
    (isEnding : Path.IsEnding stem ending) (isOther : Path.IsEnding stem other)
    (h : fs.locate (stem ++ ending) = .ok p) (h' : fs'.locate (stem ++ other) = .ok q) :
    fs.locate (stem ++ other) = .ok q := by
  obtain ⟨here, walked, _, _⟩ := (locate_append_eq_ok_iff isEnding).mp h
  obtain ⟨there, walked', short, place⟩ := (locate_append_eq_ok_iff isOther).mp h'
  have same : here = there := Except.ok.inj ((walk_of_keeps keeps walked).symm.trans walked')
  exact (locate_append_eq_ok_iff isOther).mpr ⟨here, walked, short, same ▸ place⟩

/-- Files of a family that lie in one place have one ending. -/
theorem ending_unique {other : String} (isEnding : Path.IsEnding stem ending)
    (isOther : Path.IsEnding stem other) (h : fs.locate (stem ++ ending) = .ok p)
    (h' : fs'.locate (stem ++ other) = .ok p) : ending = other := by
  obtain ⟨_, _, _, place⟩ := (locate_append_eq_ok_iff isEnding).mp h
  obtain ⟨_, _, _, place'⟩ := (locate_append_eq_ok_iff isOther).mp h'
  have names := (List.append_singleton_inj.mp (place.symm.trans place')).2
  exact (String.append_right_inj _).mp names

/-- The place of a file is neither the working directory nor the root. -/
theorem node?_of_locate (isEnding : Path.IsEnding stem ending)
    (h : fs.locate (stem ++ ending) = .ok p) (fs' : FileSystem) : fs'.node? p = fs'.get? p := by
  obtain ⟨here, _, _, rfl⟩ := (locate_append_eq_ok_iff isEnding).mp h
  have notBase : isBase (here ++ [Path.lead stem ++ ending]) = false := by
    rw [isBase, Bool.or_eq_false_iff]
    refine ⟨by simp, ?_⟩
    rw [beq_eq_false_iff_ne]
    intro root
    have root : here ++ [Path.lead stem ++ ending] = [] ++ ["/"] := root
    exact isEnding.ne_slash (List.append_singleton_inj.mp root).2
  exact node?_of_notBase notBase

theorem find_append (isEnding : Path.IsEnding stem ending)
    (h : fs.locate (stem ++ ending) = .ok p) :
    fs.find (stem ++ ending) = match fs.get? p with
      | none => .error .notFound
      | some node => .ok node := by
  rw [find, h]
  simp only [bind, Except.bind, node?_of_locate isEnding h, Path.namesDirectory_append isEnding]
  cases fs.get? p with
  | none => rfl
  | some node => cases node <;> rfl

theorem has_append_iff (isEnding : Path.IsEnding stem ending) :
    fs.has (stem ++ ending) = true ↔
      ∃ p node, fs.locate (stem ++ ending) = .ok p ∧ fs.get? p = some node := by
  rw [has]
  cases located : fs.locate (stem ++ ending) with
  | error e => simp [find, located, bind, Except.bind, Except.isOk, Except.toBool]
  | ok p =>
      rw [find_append isEnding located]
      cases node : fs.get? p with
      | none => simp [node, Except.isOk, Except.toBool]
      | some found => simp [node, Except.isOk, Except.toBool]

theorem has_of_keeps (keeps : Keeps fs fs') (isEnding : Path.IsEnding stem ending)
    (h : fs.has (stem ++ ending) = true) : fs'.has (stem ++ ending) = true := by
  obtain ⟨p, node, located, found⟩ := (has_append_iff isEnding).mp h
  exact (has_append_iff isEnding).mpr
    ⟨p, node, locate_of_keeps keeps.directories located, keeps p node found⟩

theorem get?_of_has_eq_false (isEnding : Path.IsEnding stem ending)
    (h : fs.has (stem ++ ending) = false) (located : fs.locate (stem ++ ending) = .ok p) :
    fs.get? p = none := by
  cases node : fs.get? p with
  | none => rfl
  | some found =>
      have taken := (has_append_iff isEnding).mpr ⟨p, found, located, node⟩
      rw [h] at taken
      cases taken

/-- A new file begins empty, in a place where nothing was. -/
theorem file_of_create (isEnding : Path.IsEnding stem ending)
    (h : fs.create (stem ++ ending) = .ok fs') :
    ∃ p, fs.locate (stem ++ ending) = .ok p ∧ fs.get? p = none ∧
      fs' = fs.put p (.file [] none) := by
  obtain ⟨p, located, h⟩ := bind_eq_ok_iff.mp h
  simp only [node?_of_locate isEnding located, Path.namesDirectory_append isEnding] at h
  cases node : fs.get? p with
  | some found =>
      rw [node] at h
      cases h
  | none =>
      rw [node] at h
      cases h
      exact ⟨p, located, node, rfl⟩

theorem walk_ne_alreadyExists {here : Place} {names : List String} :
    fs.walk here names ≠ .error .alreadyExists := by
  induction names generalizing here with
  | nil => simp [walk]
  | cons name rest ih =>
      rw [walk]
      split
      · exact ih
      · split
        · simp
        · split
          · simp
          · simp
          · exact ih

/-- What is there already is in the way of a new file. -/
theorem has_of_create (isEnding : Path.IsEnding stem ending)
    (h : fs.create (stem ++ ending) = .error .alreadyExists) : fs.has (stem ++ ending) = true := by
  rw [create] at h
  cases located : fs.locate (stem ++ ending) with
  | error e =>
      rw [located] at h
      rw [locate_append isEnding] at located
      cases walked : fs.walk (startOf stem) (Path.folders stem) with
      | error e' =>
          rw [walked] at located
          cases located
          cases h
          exact absurd walked walk_ne_alreadyExists
      | ok here =>
          rw [walked] at located
          cases h
          simp only [Except.bind] at located
          split at located
          · cases located
          · cases located
  | ok p =>
      rw [located] at h
      simp only [bind, Except.bind, node?_of_locate isEnding located,
        Path.namesDirectory_append isEnding] at h
      cases node : fs.get? p with
      | some found => exact (has_append_iff isEnding).mpr ⟨p, found, located, node⟩
      | none =>
          rw [node] at h
          cases h

/-- Bytes go behind those that a file has. -/
theorem file_of_append (isEnding : Path.IsEnding stem ending) {bytes : Bytes}
    (h : fs.append (stem ++ ending) bytes = .ok fs') :
    ∃ p content modified, fs.locate (stem ++ ending) = .ok p ∧
      fs.get? p = some (.file content modified) ∧
      fs' = fs.put p (.file (content ++ bytes) none) := by
  obtain ⟨p, located, h⟩ := bind_eq_ok_iff.mp h
  rw [node?_of_locate isEnding located] at h
  cases node : fs.get? p with
  | none =>
      rw [node] at h
      cases h
  | some found =>
      rw [node] at h
      cases found with
      | directory => cases h
      | file content modified =>
          cases h
          exact ⟨p, content, modified, located, node, rfl⟩

/-- A file that is renamed moves, and replaces a file that has its new name. -/
theorem replaced_of_rename {target : String} (isEnding : Path.IsEnding stem ending)
    (isTarget : Path.IsEnding stem target) {content : Bytes} {modified : Option Nat}
    (source : fs.locate (stem ++ ending) = .ok p)
    (found : fs.get? p = some (.file content modified))
    (h : fs.rename (stem ++ ending) (stem ++ target) = .ok fs') :
    ∃ q, fs.locate (stem ++ target) = .ok q ∧ fs.get? q ≠ some .directory ∧
      fs' = if p = q then fs else (fs.erase p).put q (.file content modified) := by
  obtain ⟨old, source', h⟩ := bind_eq_ok_iff.mp h
  cases source.symm.trans source'
  obtain ⟨q, located, h⟩ := bind_eq_ok_iff.mp h
  simp only [node?_of_locate isEnding source, node?_of_locate isTarget located,
    Path.namesDirectory_append isEnding, Path.namesDirectory_append isTarget,
    Path.endsInDots_append isEnding, Path.endsInDots_append isTarget, found] at h
  refine ⟨q, located, ?_⟩
  cases node : fs.get? q with
  | none =>
      rw [node] at h
      exact ⟨by simp, (Except.ok.inj h).symm⟩
  | some there =>
      rw [node] at h
      cases there with
      | directory => cases h
      | file _ _ => exact ⟨by simp, (Except.ok.inj h).symm⟩

/-- A file that gets a free name moves there. -/
theorem file_of_rename {target : String} (isEnding : Path.IsEnding stem ending)
    (isTarget : Path.IsEnding stem target) (free : fs.has (stem ++ target) = false)
    (content : Bytes) (modified : Option Nat)
    (source : fs.locate (stem ++ ending) = .ok p)
    (found : fs.get? p = some (.file content modified))
    (h : fs.rename (stem ++ ending) (stem ++ target) = .ok fs') :
    ∃ q, fs.locate (stem ++ target) = .ok q ∧ fs.get? q = none ∧ q ≠ p ∧
      fs' = (fs.erase p).put q (.file content modified) := by
  obtain ⟨q, located, _, moved⟩ := replaced_of_rename isEnding isTarget source found h
  have nothing := get?_of_has_eq_false isTarget free located
  have apart : p ≠ q := by
    intro same
    rw [same, nothing] at found
    cases found
  rw [if_neg apart] at moved
  exact ⟨q, located, nothing, apart.symm, moved⟩

/-- A system that has all that was there before, and directories besides. -/
structure OnlyAddsDirectories (fs fs' : FileSystem) : Prop where
  keeps : Keeps fs fs'
  files : ∀ p content modified, fs'.get? p = some (.file content modified) →
    fs.get? p = some (.file content modified)

theorem OnlyAddsDirectories.refl (fs : FileSystem) : OnlyAddsDirectories fs fs :=
  ⟨fun _ _ h => h, fun _ _ _ h => h⟩

theorem OnlyAddsDirectories.trans {fs'' : FileSystem} (adds : OnlyAddsDirectories fs fs')
    (adds' : OnlyAddsDirectories fs' fs'') : OnlyAddsDirectories fs fs'' :=
  ⟨fun p node h => adds'.keeps p node (adds.keeps p node h),
    fun p content modified h => adds.files p content modified (adds'.files p content modified h)⟩

theorem made_of_makeDirectoryAt {start : Place} {names : List String}
    (h : fs.makeDirectoryAt start names = .ok fs') :
    ∃ p, fs.locateParts start names = .ok p ∧ fs.node? p = none ∧ fs' = fs.put p .directory := by
  obtain ⟨p, located, h⟩ := bind_eq_ok_iff.mp h
  refine ⟨p, located, ?_⟩
  cases nothing : fs.node? p with
  | some found =>
      rw [nothing] at h
      cases h
  | none =>
      rw [nothing] at h
      exact ⟨rfl, (Except.ok.inj h).symm⟩

theorem adds_of_makeDirectoryAt {start : Place} {names : List String}
    (h : fs.makeDirectoryAt start names = .ok fs') : OnlyAddsDirectories fs fs' := by
  obtain ⟨p, _, nothing, rfl⟩ := made_of_makeDirectoryAt h
  obtain ⟨_, nothing⟩ := get?_of_node?_eq_none nothing
  constructor
  · exact keeps_put nothing .directory
  · intro q content modified there
    by_cases same : q = p
    · rw [same, Table.get?_put_self] at there
      cases there
    · rw [Table.get?_put_of_ne same] at there
      exact there

/-- What holds from before to after each single directory that is made holds of all together. -/
theorem makeDirectoriesAt_induction {start : Place} {R : FileSystem → FileSystem → Prop}
    (refl : ∀ fs, R fs fs) (trans : ∀ fs fs' fs'', R fs fs' → R fs' fs'' → R fs fs'')
    (one : ∀ fs fs' names, fs.makeDirectoryAt start names = .ok fs' → R fs fs')
    {names : List String} (h : fs.makeDirectoriesAt start names = .ok fs') : R fs fs' := by
  induction names generalizing fs fs' with
  | nil =>
      cases h
      exact refl fs
  | cons name above ih =>
      rw [makeDirectoriesAt] at h
      split at h
      · rename_i made
        cases h
        exact one _ _ _ made
      · obtain ⟨between, upper, h⟩ := bind_eq_ok_iff.mp h
        split at h
        · rename_i made
          cases h
          exact trans _ _ _ (ih upper) (one _ _ _ made)
        · dsimp only at h
          split at h
          · cases h
            exact ih upper
          · cases h
      · dsimp only at h
        split at h
        · cases h
          exact refl fs
        · cases h

theorem adds_of_makeDirectoriesAt {start : Place} {names : List String}
    (h : fs.makeDirectoriesAt start names = .ok fs') : OnlyAddsDirectories fs fs' :=
  makeDirectoriesAt_induction .refl (fun _ _ _ => .trans)
    (fun _ _ _ => adds_of_makeDirectoryAt) h

end FileSystem

end RecordPipeline
