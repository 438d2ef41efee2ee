import RecordPipeline.Proofs.Sink.Search

/-!
What a sink has put into the file system: finished files and at most one that is still written, each
with the lines of its outputs, in places where nothing was. All that was there before stays.
-/

namespace RecordPipeline

/-- A file of a sink, with the outputs that it holds. -/
structure NumberedFile where
  number : Nat
  outputs : List Output

namespace FileSink

variable {base s : FileSink} {before fs fs' : FileSystem} {files : List NumberedFile}
  {part : Option NumberedFile} {f : NumberedFile}

/-- The bytes of some outputs, each as its line. -/
def content (s : FileSink) (outputs : List Output) : Bytes := outputs.flatMap s.format.line

theorem content_append (s : FileSink) (front back : List Output) :
    s.content (front ++ back) = s.content front ++ s.content back := List.flatMap_append

theorem content_singleton (s : FileSink) (o : Output) : s.content [o] = s.format.line o :=
  List.flatMap_singleton ..

/-- A finished file never lies where a file is written. -/
theorem path_ne_part {m n : Nat} {p q : Place} (h : fs.locate (s.pathOf m) = .ok p)
    (h' : fs'.locate (partPathOf (s.pathOf n)) = .ok q) : p ≠ q := by
  intro same
  rw [pathOf_eq] at h
  rw [partPathOf_eq, ← same] at h'
  exact ending_ne_part m n (FileSystem.ending_unique (s.isEnding m) (s.isEnding_part n) h h')

theorem has_of_keeps (keeps : FileSystem.Keeps before fs) {number : Nat}
    (free : fs.has (s.pathOf number) = false) : before.has (s.pathOf number) = false := by
  rw [pathOf_eq] at free ⊢
  by_contra taken
  rw [Bool.not_eq_false] at taken
  rw [FileSystem.has_of_keeps keeps (s.isEnding number) taken] at free
  cases free

theorem part_has_of_keeps (keeps : FileSystem.Keeps before fs) {number : Nat} {p : Place}
    (located : fs.locate (partPathOf (s.pathOf number)) = .ok p) (nothing : fs.get? p = none) :
    before.has (partPathOf (s.pathOf number)) = false := by
  rw [partPathOf_eq] at located ⊢
  by_contra taken
  rw [Bool.not_eq_false, FileSystem.has_append_iff (s.isEnding_part number)] at taken
  obtain ⟨q, node, located', found⟩ := taken
  have same := FileSystem.locate_of_keeps keeps.directories located'
  rw [located] at same
  cases same
  rw [keeps p node found] at nothing
  cases nothing

/-- A change to the file that is written leaves the final names free. -/
theorem free_of_part_changed (keeps : FileSystem.KeepsDirectories fs fs') {m n : Nat} {p : Place}
    (located : fs.locate (partPathOf (s.pathOf m)) = .ok p)
    (same : ∀ q, q ≠ p → fs'.get? q = fs.get? q) (free : fs.has (s.pathOf n) = false) :
    fs'.has (s.pathOf n) = false := by
  by_contra taken
  rw [pathOf_eq] at free
  rw [Bool.not_eq_false, pathOf_eq, FileSystem.has_append_iff (s.isEnding n)] at taken
  obtain ⟨q, node, place, found⟩ := taken
  have place' : fs.locate (s.stem ++ s.ending n) = .ok q := by
    rw [partPathOf_eq] at located
    exact FileSystem.locate_back keeps (s.isEnding_part m) (s.isEnding n) located place
  have apart : q ≠ p := path_ne_part (pathOf_eq s n ▸ place') located
  rw [same q apart, FileSystem.get?_of_has_eq_false (s.isEnding n) free place'] at found
  cases found

/-- Which files of the sink are there, beside those that were there before. -/
structure Stored (base : FileSink) (before fs : FileSystem) (files : List NumberedFile)
    (part : Option NumberedFile) : Prop where
  kept : FileSystem.Keeps before fs
  free : ∀ f ∈ files ++ part.toList, before.has (base.pathOf f.number) = false ∧
    before.has (partPathOf (base.pathOf f.number)) = false
  finished : ∀ f ∈ files, ∃ p, fs.locate (base.pathOf f.number) = .ok p ∧
    fs.get? p = some (.file (base.content f.outputs) none)
  written : ∀ f ∈ part, ∃ p, fs.locate (partPathOf (base.pathOf f.number)) = .ok p ∧
    fs.get? p = some (.file (base.content f.outputs) none) ∧ before.get? p = none ∧
      fs.has (base.pathOf f.number) = false
  others : ∀ p content modified, fs.get? p = some (.file content modified) →
    before.get? p = some (.file content modified) ∨
      (∃ f ∈ files, fs.locate (base.pathOf f.number) = .ok p) ∨
      ∃ f ∈ part, fs.locate (partPathOf (base.pathOf f.number)) = .ok p

namespace Stored

/-- The file that is written is put anew into its place. -/
theorem putPart (inv : Stored base before fs files part) (f : NumberedFile) {p : Place}
    (located : fs.locate (partPathOf (base.pathOf f.number)) = .ok p)
    (noDirectory : fs.get? p ≠ some .directory) (absent : before.get? p = none)
    (free : fs.has (base.pathOf f.number) = false)
    (unused : before.has (base.pathOf f.number) = false ∧
      before.has (partPathOf (base.pathOf f.number)) = false)
    (same : ∀ g ∈ part, g.number = f.number) :
    Stored base before (fs.put p (.file (base.content f.outputs) none)) files (some f) := by
  have keeps : FileSystem.KeepsDirectories fs (fs.put p (.file (base.content f.outputs) none)) :=
    FileSystem.keepsDirectories_put noDirectory _ none
  constructor
  · intro q node found
    have apart : q ≠ p := by
      rintro rfl
      rw [absent] at found
      cases found
    rw [Table.get?_put_of_ne apart]
    exact inv.kept q node found
  · intro g member
    rcases List.mem_append.mp member with old | new
    · exact inv.free g (List.mem_append_left _ old)
    · rw [Option.toList_some, List.mem_singleton] at new
      rw [new]
      exact unused
  · intro g member
    obtain ⟨q, place, found⟩ := inv.finished g member
    refine ⟨q, FileSystem.locate_of_keeps keeps place, ?_⟩
    rw [Table.get?_put_of_ne (path_ne_part place located)]
    exact found
  · rintro g ⟨⟩
    exact ⟨p, FileSystem.locate_of_keeps keeps located, Table.get?_put_self .., absent,
      free_of_part_changed keeps located (fun q apart => Table.get?_put_of_ne apart _ _) free⟩
  · intro q content modified found
    by_cases there : q = p
    · subst there
      exact .inr (.inr ⟨f, rfl, FileSystem.locate_of_keeps keeps located⟩)
    · rw [Table.get?_put_of_ne there] at found
      obtain old | ⟨g, member, place⟩ | ⟨g, member, place⟩ := inv.others q content modified found
      · exact .inl old
      · exact .inr (.inl ⟨g, member, FileSystem.locate_of_keeps keeps place⟩)
      · rw [same g member, located] at place
        exact absurd (Except.ok.inj place).symm there

theorem create (inv : Stored base before fs files none) {number : Nat}
    (free : fs.has (base.pathOf number) = false)
    (made : fs.create (partPathOf (base.pathOf number)) = .ok fs') :
    Stored base before fs' files (some ⟨number, []⟩) := by
  rw [partPathOf_eq] at made
  obtain ⟨p, located, nothing, rfl⟩ :=
    FileSystem.file_of_create (base.isEnding_part number) made
  rw [← partPathOf_eq] at located
  have absent : before.get? p = none := by
    cases node : before.get? p with
    | none => rfl
    | some found =>
        rw [inv.kept p found node] at nothing
        cases nothing
  exact inv.putPart ⟨number, []⟩ located (by rw [nothing]; simp) absent free
    ⟨has_of_keeps inv.kept free, part_has_of_keeps inv.kept located nothing⟩
    (fun g none => absurd none (by simp))

theorem append (inv : Stored base before fs files (some f)) {o : Output}
    (made : fs.append (partPathOf (base.pathOf f.number)) (base.format.line o) = .ok fs') :
    Stored base before fs' files (some ⟨f.number, f.outputs ++ [o]⟩) := by
  obtain ⟨p, located, node, absent, free⟩ := inv.written f rfl
  rw [partPathOf_eq] at made
  obtain ⟨q, content, modified, located', node', rfl⟩ :=
    FileSystem.file_of_append (base.isEnding_part f.number) made
  rw [← partPathOf_eq, located] at located'
  cases located'
  rw [node] at node'
  cases node'
  have unused := inv.free f (List.mem_append_right _ (List.mem_singleton_self f))
  rw [← content_singleton, ← content_append]
  exact inv.putPart ⟨f.number, f.outputs ++ [o]⟩ located (by rw [node]; simp) absent free unused
    (fun g isPart => by rw [Option.mem_some_iff.mp isPart])

theorem finish (inv : Stored base before fs files (some f))
    (made : fs.rename (partPathOf (base.pathOf f.number)) (base.pathOf f.number) = .ok fs') :
    Stored base before fs' (files ++ [f]) none := by
  obtain ⟨p, located, node, absent, free⟩ := inv.written f rfl
  have source := located
  have target := free
  rw [partPathOf_eq, pathOf_eq] at made
  rw [partPathOf_eq] at source
  rw [pathOf_eq] at target
  obtain ⟨q, located', nothing, apart, rfl⟩ := FileSystem.file_of_rename
    (base.isEnding_part f.number) (base.isEnding f.number) target _ none source node made
  rw [← pathOf_eq] at located'
  have keeps : FileSystem.KeepsDirectories fs
      ((fs.erase p).put q (.file (base.content f.outputs) none)) := by
    have erased : FileSystem.KeepsDirectories fs (fs.erase p) :=
      FileSystem.keepsDirectories_erase (by rw [node]; simp)
    refine erased.trans (FileSystem.keepsDirectories_put ?_ _ none)
    rw [Table.get?_erase_of_ne apart, nothing]
    simp
  have elsewhere : ∀ x, x ≠ p → x ≠ q →
      ((fs.erase p).put q (.file (base.content f.outputs) none)).get? x = fs.get? x := by
    intro x notPart notNew
    rw [Table.get?_put_of_ne notNew, Table.get?_erase_of_ne notPart]
  constructor
  · intro x node found
    have notPart : x ≠ p := by
      rintro rfl
      rw [absent] at found
      cases found
    have notNew : x ≠ q := by
      rintro rfl
      rw [inv.kept x node found] at nothing
      cases nothing
    rw [elsewhere x notPart notNew]
    exact inv.kept x node found
  · intro g member
    rw [Option.toList_none, List.append_nil] at member
    exact inv.free g member
  · intro g member
    rcases List.mem_append.mp member with old | new
    · obtain ⟨x, place, found⟩ := inv.finished g old
      refine ⟨x, FileSystem.locate_of_keeps keeps place, ?_⟩
      have notNew : x ≠ q := by
        rintro rfl
        rw [found] at nothing
        cases nothing
      rw [elsewhere x (path_ne_part place located) notNew]
      exact found
    · rw [List.mem_singleton.mp new]
      exact ⟨q, FileSystem.locate_of_keeps keeps located', Table.get?_put_self ..⟩
  · rintro g ⟨⟩
  · intro x content modified found
    by_cases new : x = q
    · subst new
      exact .inr (.inl ⟨f, List.mem_append_right _ (List.mem_singleton_self f),
        FileSystem.locate_of_keeps keeps located'⟩)
    · have notPart : x ≠ p := by
        rintro rfl
        rw [Table.get?_put_of_ne new, Table.get?_erase_self] at found
        cases found
      rw [elsewhere x notPart new] at found
      obtain old | ⟨g, member, place⟩ | ⟨g, member, place⟩ := inv.others x content modified found
      · exact .inl old
      · exact .inr (.inl ⟨g, List.mem_append_left _ member, FileSystem.locate_of_keeps keeps place⟩)
      · cases member
        rw [located] at place
        exact absurd (Except.ok.inj place).symm notPart

end Stored

end FileSink

end RecordPipeline
