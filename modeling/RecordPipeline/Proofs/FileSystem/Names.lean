import RecordPipeline.Proofs.FileSystem.Trees

/-!
Names of files in a directory. The path that a directory and a name are joined to leads to a place
in the directory, and the name is read off it again.
-/

namespace RecordPipeline

namespace Path

/-- What the paths of all files in a directory begin with. -/
def folder (dir : String) : String := join dir ""

theorem splitSlash_concat_slash (cs : List Char) :
    splitSlash (cs ++ ['/']) = splitSlash cs ++ [[]] := by
  induction cs with
  | nil => rfl
  | cons c rest ih =>
      obtain ⟨piece, pieces, cut⟩ := List.exists_cons_of_ne_nil (splitSlash_ne_nil rest)
      rw [List.cons_append, splitSlash, splitSlash, ih, cut]
      split
      · rfl
      · rfl

/-- A slash ends the last part. -/
theorem parts_of_toList {text : String} {cs : List Char} (letters : text.toList = cs ++ ['/']) :
    folders text = parts (String.ofList cs) ∧ lead text = "" ∧
      parts text = parts (String.ofList cs) := by
  rw [folders, lead, parts, parts, letters, splitSlash_concat_slash, String.toList_ofList]
  refine ⟨by rw [List.dropLast_concat], by rw [List.getLastD_concat], ?_⟩
  rw [List.map_append, List.filter_append]
  exact List.append_nil _

/-- The directory without a path is where it is; any other path is ended with a slash. -/
theorem folder_cases (dir : String) :
    dir = "" ∧ folder dir = "" ∨
      ∃ cs, (folder dir).toList = cs ++ ['/'] ∧ parts dir = parts (String.ofList cs) ∧
        isAbsolute (folder dir) = isAbsolute dir := by
  by_cases nothing : dir = ""
  · subst nothing
    exact .inl ⟨rfl, rfl⟩
  · right
    have named : ¬(isAbsolute "" = true ∨ dir = "") := by
      rintro (absolute | empty)
      · cases absolute
      · exact nothing empty
    rw [folder, join, if_neg (by simpa using named)]
    by_cases ended : dir.toList.getLast? = some '/'
    · rw [if_pos (beq_iff_eq.mpr ended), String.append_empty]
      obtain ⟨cs, letters⟩ := List.getLast?_eq_some_iff.mp ended
      exact ⟨cs, letters, (parts_of_toList letters).2.2, rfl⟩
    · rw [if_neg (by simpa using ended), String.append_empty]
      refine ⟨dir.toList, String.toList_append, by rw [String.ofList_toList], ?_⟩
      obtain ⟨c, rest, letters⟩ := List.exists_cons_of_ne_nil
        (mt String.toList_eq_nil_iff.mp nothing)
      rw [isAbsolute, isAbsolute, String.toList_append, letters]
      rfl

theorem lead_folder (dir : String) : lead (folder dir) = "" := by
  obtain ⟨_, same⟩ | ⟨cs, letters, _⟩ := folder_cases dir
  · rw [same]
    rfl
  · exact (parts_of_toList letters).2.1

theorem folders_folder (dir : String) : folders (folder dir) = parts dir := by
  obtain ⟨rfl, same⟩ | ⟨cs, letters, same, _⟩ := folder_cases dir
  · rw [same]
    rfl
  · rw [same]
    exact (parts_of_toList letters).1

theorem startOf_folder (dir : String) :
    FileSystem.startOf (folder dir) = FileSystem.startOf dir := by
  obtain ⟨rfl, same⟩ | ⟨cs, _, _, same⟩ := folder_cases dir
  · rw [same]
  · rw [FileSystem.startOf, FileSystem.startOf, same]

/-- A text that can be the name of a file. -/
structure IsName (name : String) : Prop where
  noSlash : '/' ∉ name.toList
  notDots : name ∉ ["", ".", ".."]

variable {name : String}

theorem isName_of_length (noSlash : '/' ∉ name.toList) (long : 2 < name.toList.length) :
    IsName name := by
  have isEnding : IsEnding "" name := isEnding_of_length noSlash long
  exact ⟨noSlash, isEnding.notDots⟩

theorem IsName.isEnding (isName : IsName name) (dir : String) : IsEnding (folder dir) name := by
  refine ⟨isName.noSlash, ?_⟩
  rw [lead_folder, String.empty_append]
  exact isName.notDots

theorem IsName.join_eq (isName : IsName name) (dir : String) :
    join dir name = folder dir ++ name := by
  have isEnding : IsEnding "" name := isName.isEnding ""
  rw [folder, ← join_append isEnding, String.empty_append]

theorem noSlash_of_mem_splitSlash {cs piece : List Char} (member : piece ∈ splitSlash cs) :
    '/' ∉ piece := by
  induction cs generalizing piece with
  | nil =>
      rw [List.mem_singleton.mp member]
      exact List.not_mem_nil
  | cons c rest ih =>
      obtain ⟨first, pieces, cut⟩ := List.exists_cons_of_ne_nil (splitSlash_ne_nil rest)
      rw [cut] at ih
      rw [splitSlash, cut] at member
      split at member
      · rcases List.mem_cons.mp member with rfl | later
        · exact List.not_mem_nil
        · exact ih later
      · rename_i letter
        rcases List.mem_cons.mp member with rfl | later
        · exact List.not_mem_cons_of_ne_of_not_mem (Ne.symm letter) (ih List.mem_cons_self)
        · exact ih (List.mem_cons_of_mem _ later)

/-- The last part of a path is the name of a file unless it stands for another directory. -/
theorem isName_of_fileName? {path : String} (named : fileName? path = some name) :
    IsName name ∧ (parts path).getLast? = some name := by
  rw [fileName?] at named
  split at named
  · cases named
  · cases named
  · rename_i noStep last
    obtain rfl := Option.some.inj named
    obtain ⟨listed, kept⟩ := List.mem_filter.mp (List.mem_of_getLast? last)
    obtain ⟨piece, cut, rfl⟩ := List.mem_map.mp listed
    refine ⟨⟨?_, ?_⟩, last⟩
    · rw [String.toList_ofList]
      exact noSlash_of_mem_splitSlash cut
    · simp only [ne_eq, decide_not, Bool.and_eq_true, Bool.not_eq_true',
        decide_eq_false_iff_not] at kept
      simp only [List.mem_cons, List.not_mem_nil, or_false, not_or]
      exact ⟨kept.1, kept.2, noStep⟩

/-- The path of a file that has a name does not end in dots. -/
theorem endsInDots_of_fileName? {path : String} (named : fileName? path = some name)
    (noDirectory : namesDirectory path = false) : endsInDots path = false := by
  obtain ⟨isName, last⟩ := isName_of_fileName? named
  obtain ⟨front, piece, cut⟩ :=
    (List.eq_nil_or_concat' (splitSlash path.toList)).resolve_left (splitSlash_ne_nil _)
  rw [namesDirectory, cut, List.getLast?_concat] at noDirectory
  have some' : piece ≠ [] := by
    rintro rfl
    cases noDirectory
  have noDot : piece ≠ ['.'] := by
    rintro rfl
    cases noDirectory
  have kept : (decide (String.ofList piece ≠ "") && decide (String.ofList piece ≠ ".")) = true := by
    rw [Bool.and_eq_true, decide_eq_true_eq, decide_eq_true_eq]
    refine ⟨fun empty => some' ?_, fun dot => noDot ?_⟩
    · rw [← String.toList_ofList (l := piece), empty]
      rfl
    · rw [← String.toList_ofList (l := piece), dot]
      rfl
  have piece_eq : String.ofList piece = name := by
    rw [parts, cut, List.map_append, List.filter_append, List.map_singleton, List.filter_cons,
      if_pos kept, List.filter_nil, List.getLast?_concat] at last
    exact Option.some.inj last
  rw [endsInDots, cut, List.filter_append, List.filter_cons,
    if_pos (by rw [Bool.not_eq_true', List.isEmpty_eq_false_iff]; exact some'), List.filter_nil,
    List.getLast?_concat]
  split
  · rename_i same
    exact absurd (Option.some.inj same) noDot
  · rename_i same
    rw [Option.some.inj same] at piece_eq
    exact absurd piece_eq.symm fun same => isName.notDots (same ▸ by decide)
  · rfl

/-- A name is one part, or two around its last dot. -/
theorem stem_cases (name : String) :
    stem name = (name, none) ∨
      ∃ front ending, stem name = (front, some ending) ∧ name = front ++ "." ++ ending := by
  rw [stem]
  have whole := List.takeWhile_append_dropWhile (p := (· ≠ '.')) (l := name.toList.reverse)
  have stops := List.head?_dropWhile_not (· ≠ '.') name.toList.reverse
  generalize name.toList.reverse.dropWhile (· ≠ '.') = left at whole stops
  generalize name.toList.reverse.takeWhile (· ≠ '.') = back at whole ⊢
  rw [← whole, ← List.drop_drop, List.drop_left]
  match left with
  | [] => exact .inl rfl
  | [_] => exact .inl rfl
  | c :: d :: left =>
      have dot : c = '.' := by simpa using stops
      refine .inr ⟨_, _, rfl, ?_⟩
      rw [← String.toList_inj, ← List.reverse_reverse name.toList, ← whole, dot]
      simp

end Path

namespace FileSystem

variable {fs : FileSystem} {name dir : String} {p : Place}

/-- The path of a name in a directory leads to a place there when the directory can be reached and
the name is not too long. -/
theorem locate_join_eq_ok_iff (isName : Path.IsName name) :
    fs.locate (Path.join dir name) = .ok p ↔
      (∃ here, fs.walk (startOf dir) (Path.parts dir) = .ok here) ∧
        name.utf8ByteSize ≤ nameLimit ∧ p = placeOf dir ++ [name] := by
  rw [isName.join_eq, locate_append_eq_ok_iff (isName.isEnding dir), Path.startOf_folder,
    Path.folders_folder, Path.lead_folder, String.empty_append]
  constructor
  · rintro ⟨here, walked, short, rfl⟩
    exact ⟨⟨here, walked⟩, short, by rw [eq_follow_of_walk walked, placeOf]⟩
  · rintro ⟨⟨here, walked⟩, short, rfl⟩
    exact ⟨here, walked, short, by rw [eq_follow_of_walk walked, placeOf]⟩

theorem node?_of_free (isName : Path.IsName name)
    (located : fs.locate (Path.join dir name) = .ok p)
    (free : fs.has (Path.join dir name) = false) : fs.node? p = none := by
  rw [isName.join_eq] at located free
  rw [node?_of_locate (isName.isEnding dir) located]
  exact get?_of_has_eq_false (isName.isEnding dir) free located

end FileSystem

end RecordPipeline
