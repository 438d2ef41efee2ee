import RecordPipeline.Proofs.FileSystem.Renaming

/-!
Files that are copied and removed. A new file in a place where nothing was leaves all else as it is,
and so does a file that is removed. A file that is copied and then removed has moved, and only the
time of its last change is not what it was.
-/

namespace RecordPipeline.FileSystem

variable {fs fs' : FileSystem} {old new p : Place} {node : FileNode} {source target path : String}
  {content part : Bytes} {modified : Option Nat}

/-- A path at which nothing is yet, in a directory that is there, and not written as a directory's.
-/
structure FreeAt (fs : FileSystem) (path : String) (p : Place) : Prop where
  located : fs.locate path = .ok p
  free : fs.node? p = none
  above : fs.node? p.dropLast = some .directory
  isFile : Path.namesDirectory path = false

theorem FreeAt.absent (free : fs.FreeAt path p) : fs.get? p = none :=
  (get?_of_node?_eq_none free.free).2

theorem FreeAt.write (free : fs.FreeAt path p) (bytes : Bytes) :
    fs.write path bytes = .ok (fs.put p (.file bytes none)) := by
  rw [FileSystem.write, free.located, free.isFile]
  simp only [bind, Except.bind, pure, Except.pure, Bool.false_eq_true, if_false, free.free]

theorem find_of_keeps (keeps : Keeps fs fs') (found : fs.find path = .ok node) :
    fs'.find path = .ok node := by
  obtain ⟨p, located, _⟩ := bind_eq_ok_iff.mp found
  have located' := locate_of_keeps keeps.directories located
  rw [find_of_locate located] at found
  rw [find_of_locate located']
  cases there : fs.node? p with
  | none =>
      rw [there] at found
      cases found
  | some held =>
      have there' : fs'.node? p = some held := by
        rw [node?] at there ⊢
        split
        · rename_i base
          rwa [if_pos base] at there
        · rename_i notBase
          rw [if_neg notBase] at there
          exact keeps p held there
      rw [there] at found
      rw [there']
      exact found

section Copy

variable (refusal : Option CopyRefusal)

/-- What a copy to a free path leaves there. -/
theorem FreeAt.copy (free : fs.FreeAt target new)
    (found : fs.find source = .ok (.file content modified)) :
    fs.copy source target refusal = match refusal with
      | none => (.ok (), fs.put new (.file content none))
      | some (.atOnce e) => (.error e, fs)
      | some (.midway size e) => (.error e, fs.put new (.file (content.take size) none)) := by
  rw [FileSystem.copy, found]
  dsimp only
  rcases refusal with _ | e | ⟨size, e⟩
  · dsimp only
    rw [free.write]
  · rfl
  · dsimp only
    rw [free.write]

end Copy

theorem FreeAt.read (free : fs.FreeAt path p) (bytes : Bytes) :
    FileSystem.read (fs.put p (.file bytes none)) path = .ok bytes := by
  have keeps := keeps_put free.absent (.file bytes none)
  have located := locate_of_keeps keeps.directories free.located
  obtain ⟨notBase, _⟩ := get?_of_node?_eq_none free.free
  rw [FileSystem.read, find_of_locate located, node?_of_notBase notBase, Table.get?_put_self]
  dsimp only
  rw [free.isFile]
  rfl

theorem read_of_has_eq_false (free : fs.has path = false) : ∃ e, fs.read path = .error e := by
  rw [has] at free
  cases found : fs.find path with
  | error e => exact ⟨e, by rw [FileSystem.read, found]; rfl⟩
  | ok node =>
      rw [found] at free
      cases free

theorem has_of_find (found : fs.find path = .ok node) : fs.has path = true := by
  rw [has, found]
  rfl

/-- Where nothing is at the only place that a path can lead to, nothing is at the path. -/
theorem has_eq_false_of_get? (notBase : isBase (placeOf path) = false)
    (nothing : fs.get? (placeOf path) = none) : fs.has path = false := by
  rw [has]
  cases located : fs.locate path with
  | error e =>
      rw [find, located]
      rfl
  | ok p =>
      obtain rfl := eq_placeOf_of_locate located
      rw [find_of_locate located, node?_of_notBase notBase, nothing]
      rfl

/-- There is one more file, in a place where nothing was, and all else is as before. -/
structure FileAdded (fs fs' : FileSystem) (new : Place) (content : Bytes) : Prop where
  free : fs.get? new = none
  arrived : fs'.get? new = some (.file content none)
  others : ∀ p, p ≠ new → fs'.get? p = fs.get? p

theorem FreeAt.fileAdded (free : fs.FreeAt path new) (bytes : Bytes) :
    FileAdded fs (fs.put new (.file bytes none)) new bytes where
  free := free.absent
  arrived := Table.get?_put_self ..
  others := fun _ apart => Table.get?_put_of_ne apart ..

theorem FileAdded.keeps (added : FileAdded fs fs' new content) : Keeps fs fs' := by
  intro p node found
  rw [added.others p, found]
  rintro rfl
  rw [added.free] at found
  cases found

theorem FileAdded.directories (added : FileAdded fs fs' new content) (p : Place) :
    fs'.get? p = some .directory ↔ fs.get? p = some .directory := by
  by_cases here : p = new
  · rw [here, added.arrived, added.free]
    simp
  · rw [added.others p here]

theorem contents_file (p : Place) (content : Bytes) (modified : Option Nat) :
    contents [(p, .file content modified)] = [content] := rfl

section Removing

variable (tree : fs.IsTree) (found : fs.get? p = some (.file content modified))

include tree found

theorem contents_erase : fs.contents.Perm (content :: contents (fs.erase p)) := by
  have all := Table.perm_cons_erase tree.nodup found
  exact contents_perm all

theorem remove_of_file (located : fs.locate path = .ok p) : fs.remove path = .ok (fs.erase p) := by
  rw [remove, located]
  simp only [bind, Except.bind, pure, Except.pure, node?_of_notBase (tree.notBase_of_get? found),
    found]

end Removing

section Moving

variable (tree : fs.IsTree) (free : fs.FreeAt target new)
  (found : fs.get? old = some (.file content modified))

include free found

theorem FreeAt.ne : old ≠ new := by
  rintro rfl
  rw [free.absent] at found
  cases found

/-- A file that was copied is where it was. -/
theorem FreeAt.get?_old (bytes : Bytes) :
    Table.get? old (fs.put new (.file bytes none)) = some (.file content modified) := by
  rw [Table.get?_put_of_ne (free.ne found)]
  exact found

/-- A file that was copied and then removed has moved. -/
theorem FreeAt.fileMoved : FileMoved fs (Table.erase old (fs.put new (.file content none))) old new
    content modified none where
  found := found
  free := free.absent
  arrived := by rw [Table.get?_erase_of_ne (free.ne found).symm, Table.get?_put_self]
  left := Table.get?_erase_self ..
  others := by
    intro p notOld notNew
    rw [Table.get?_erase_of_ne notOld, Table.get?_put_of_ne notNew]

include tree

theorem FreeAt.contents_moved :
    (contents (Table.erase old (fs.put new (.file content none)))).Perm fs.contents := by
  have tree' := tree.put free.free free.above (.file content none)
  have more := contents_erase tree' (free.get?_old found content)
  rw [contents_put free.absent, contents_file] at more
  have same := (List.perm_append_singleton content fs.contents).symm.trans more
  exact (List.Perm.cons_inv same).symm

end Moving

end RecordPipeline.FileSystem
