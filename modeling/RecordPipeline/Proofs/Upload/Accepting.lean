import Mathlib.Algebra.GroupWithZero.Nat
import RecordPipeline.Proofs.FileSystem.Copying
import RecordPipeline.Proofs.Upload.Naming

/-!
What becomes of one request to move a file. It gives its file a free name in the destination or
counts an error, and then it leaves what it asks for where it is. Only where the system refuses to
rename the file can it leave a new one, which holds a copy or a first part of it.
-/

namespace RecordPipeline.MoveUploader

open FileSystem

variable {u u' : MoveUploader} {fs fs' : FileSystem} {request : UploadRequest} {turn : MoveTurn}
  {own name path source target : String} {content : Bytes} {modified : Option Nat} {e : IoError}

/-- The directory that files are moved into can be reached. -/
def IsReady (u : MoveUploader) (fs : FileSystem) : Prop :=
  ∃ here, fs.walk (startOf u.destination) (Path.parts u.destination) = .ok here

/-- The request is counted as an error. -/
structure Failed (u u' : MoveUploader) : Prop where
  moved : u'.moved = u.moved
  records : u'.records = u.records
  errors : u'.errors = u.errors + 1

/-- The request is counted as an error, and no file is changed. -/
structure Refused (u : MoveUploader) (fs : FileSystem) (u' : MoveUploader) (fs' : FileSystem) :
    Prop extends Failed u u' where
  same : fs' = fs

/-- What the request asks for is counted as moved, with its records. -/
structure Counted (u : MoveUploader) (request : UploadRequest) (u' : MoveUploader) : Prop where
  moved : u'.moved = u.moved + 1
  records : u'.records = u.records + request.records
  errors : u'.errors = u.errors

/-- What is at the path of the request moves to a free name in the destination. -/
structure Moves (u : MoveUploader) (fs : FileSystem) (request : UploadRequest) (name : String)
    (fs' : FileSystem) : Prop where
  named : ∃ own, Path.fileName? request.path = some own
  located : fs.locate request.path = .ok (placeOf request.path)
  found : ∃ node, fs.find request.path = .ok node ∧ fs.get? (placeOf request.path) = some node
  can : fs.CanMove (placeOf request.path) (placeOf u.destination ++ [name])
  perm : fs'.Perm (fs.moveTree (placeOf request.path) (placeOf u.destination ++ [name]))

/-- The request asks for a file, for which there is a free name in the destination. -/
structure Offered (u : MoveUploader) (fs : FileSystem) (request : UploadRequest)
    (own name : String) (content : Bytes) (modified : Option Nat) : Prop where
  found : fs.find request.path = .ok (.file content modified)
  named : Path.fileName? request.path = some own
  isName : Path.IsName name
  freePath : freePath fs u.destination own = Path.join u.destination name
  ready : u.IsReady fs
  short : name.utf8ByteSize ≤ nameLimit

/-- What becomes of a request for a file that can have a free place. The file is moved there: it is
renamed, or where the system refuses this, copied and removed. If the system refuses this as well,
the file stays, and at most a first part of it is left in the place, or all of it. -/
def Arrives (u : MoveUploader) (fs : FileSystem) (request : UploadRequest) (turn : MoveTurn)
    (new : Place) (content : Bytes) (modified : Option Nat) (u' : MoveUploader)
    (fs' : FileSystem) : Prop :=
  match turn.rename, turn.copy, turn.remove with
  | none, _, _ =>
    Counted u request u' ∧ FileMoved fs fs' (placeOf request.path) new content modified modified
  | some _, none, none =>
    Counted u request u' ∧ FileMoved fs fs' (placeOf request.path) new content modified none
  | some _, none, some _ => Failed u u' ∧ FileAdded fs fs' new content
  | some _, some (.atOnce _), _ => Refused u fs u' fs'
  | some _, some (.midway size _), _ => Failed u u' ∧ FileAdded fs fs' new (content.take size)

/-- What a request can do. -/
inductive Outcome (u : MoveUploader) (fs : FileSystem) (request : UploadRequest)
    (turn : MoveTurn) : MoveUploader → FileSystem → Prop where
  | refused {u' : MoveUploader} (failed : Failed u u') : Outcome u fs request turn u' fs
  | renamed {u' : MoveUploader} {fs' : FileSystem} {name : String} (counted : Counted u request u')
      (moves : Moves u fs request name fs') : Outcome u fs request turn u' fs'
  | recreated {u' : MoveUploader} {own name : String} {content : Bytes} {modified : Option Nat}
      (counted : Counted u request u') (offered : Offered u fs request own name content modified) :
      Outcome u fs request turn u'
        (Table.erase (placeOf request.path)
          (fs.put (placeOf u.destination ++ [name]) (.file content none)))
  | left {u' : MoveUploader} {own name : String} {content : Bytes} {modified : Option Nat}
      (part : Bytes) (failed : Failed u u')
      (offered : Offered u fs request own name content modified) (hindered : turn.rename ≠ none) :
      Outcome u fs request turn u' (fs.put (placeOf u.destination ++ [name]) (.file part none))

theorem counted_of_ok (u : MoveUploader) (named : Path.fileName? request.path = some own)
    (moves : moveFile fs request.path (freePath fs u.destination own) turn = (.ok (), fs')) :
    Counted u request (u.accept fs request turn).1 ∧ (u.accept fs request turn).2 = fs' := by
  rw [accept, named]
  dsimp only
  rw [moves]
  exact ⟨⟨rfl, rfl, rfl⟩, rfl⟩

theorem failed_of_error (u : MoveUploader) (named : Path.fileName? request.path = some own)
    (fails : moveFile fs request.path (freePath fs u.destination own) turn = (.error e, fs')) :
    Failed u (u.accept fs request turn).1 ∧ (u.accept fs request turn).2 = fs' := by
  rw [accept, named]
  dsimp only
  rw [fails]
  exact ⟨⟨rfl, rfl, rfl⟩, rfl⟩

section MoveFile

theorem moveFile_of_rename (allowed : turn.rename = none)
    (renamed : fs.rename source target = .ok fs') :
    moveFile fs source target turn = (.ok (), fs') := by
  rw [moveFile, allowed, renamed]
  rfl

/-- What cannot be renamed is copied, and removed if that succeeds. -/
theorem moveFile_of_not_renamed
    (fails : ∀ fs', ¬(turn.rename = none ∧ fs.rename source target = .ok fs')) :
    moveFile fs source target turn = match fs.copy source target turn.copy with
      | (.error e, fs) => (.error e, fs)
      | (.ok (), fs) => match unlessRefused turn.remove (fs.remove source) with
        | .ok fs => (.ok (), fs)
        | .error e => (.error e, fs) := by
  rw [moveFile]
  split
  · rename_i renamed
    exact absurd (unlessRefused_eq_ok_iff.mp renamed) (fails _)
  · rfl

end MoveFile

/-- The name of a request has a first free path in the destination. -/
theorem exists_freePath (u : MoveUploader) (fs : FileSystem)
    (named : Path.fileName? request.path = some own) :
    ∃ name, Path.IsName name ∧ freePath fs u.destination own = Path.join u.destination name ∧
      IsFirstFree fs u.destination own (Path.join u.destination name) := by
  have isOwn := (Path.isName_of_fileName? named).1
  have first := freePath_isFirstFree fs u.destination isOwn
  obtain ⟨name, isName, path⟩ := first.exists_name isOwn
  rw [path] at first
  exact ⟨name, isName, path, first⟩

theorem moves_of_rename (u : MoveUploader) (tree : fs.IsTree)
    (named : Path.fileName? request.path = some own) (isName : Path.IsName name)
    (free : fs.has (Path.join u.destination name) = false)
    (renamed : fs.rename request.path (Path.join u.destination name) = .ok fs') :
    Moves u fs request name fs' := by
  obtain ⟨_, _, renames⟩ := bind_eq_ok_iff.mp renamed
  obtain ⟨new, located, _⟩ := bind_eq_ok_iff.mp renames
  obtain ⟨old, node, source, there, found, can, perm⟩ :=
    move_of_rename tree located (node?_of_free isName located free) renamed
  obtain ⟨_, _, rfl⟩ := (locate_join_eq_ok_iff isName).mp located
  obtain rfl := eq_placeOf_of_locate source
  exact ⟨⟨own, named⟩, source, ⟨node, there, found⟩, can, perm⟩

namespace Offered

variable (offered : Offered u fs request own name content modified)

include offered

theorem isFirstFree : IsFirstFree fs u.destination own (Path.join u.destination name) := by
  have isOwn := (Path.isName_of_fileName? offered.named).1
  have first := freePath_isFirstFree fs u.destination isOwn
  rwa [offered.freePath] at first

theorem held : fs.locate request.path = .ok (placeOf request.path) ∧
    fs.get? (placeOf request.path) = some (.file content modified) ∧
    Path.namesDirectory request.path = false := by
  obtain ⟨old, located, there, isFile⟩ := file_of_find offered.found
  obtain rfl := eq_placeOf_of_locate located
  exact ⟨located, get?_of_node?_file there, isFile⟩

variable (tree : fs.IsTree)

include tree

theorem freeAt : fs.FreeAt (Path.join u.destination name) (placeOf u.destination ++ [name]) := by
  have isName := offered.isName
  have located := (locate_join_eq_ok_iff isName).mpr ⟨offered.ready, offered.short, rfl⟩
  have free := node?_of_free isName located offered.isFirstFree.1
  refine ⟨located, free, tree.above_of_locate located free, ?_⟩
  rw [isName.join_eq, Path.namesDirectory_append (isName.isEnding u.destination)]

theorem exists_rename :
    ∃ fs', fs.rename request.path (Path.join u.destination name) = .ok fs' ∧
      Moves u fs request name fs' := by
  have isName := offered.isName
  have place := offered.freeAt tree
  obtain ⟨_, _, isFile⟩ := offered.held
  have dots : (Path.endsInDots request.path ||
      Path.endsInDots (Path.join u.destination name)) = false := by
    rw [Path.endsInDots_of_fileName? offered.named isFile, isName.join_eq,
      Path.endsInDots_append (isName.isEnding u.destination)]
    rfl
  obtain ⟨fs', renamed⟩ := rename_file offered.found dots place.isFile place.located place.free
  exact ⟨fs', renamed, u.moves_of_rename tree offered.named isName offered.isFirstFree.1 renamed⟩

/-- How a file is copied and removed that the system refuses to rename. -/
theorem moveFile_of_refused (hindered : turn.rename = some e) :
    moveFile fs request.path (MoveUploader.freePath fs u.destination own) turn =
      match turn.copy, turn.remove with
      | none, none => (.ok (), Table.erase (placeOf request.path)
          (fs.put (placeOf u.destination ++ [name]) (.file content none)))
      | none, some e => (.error e, fs.put (placeOf u.destination ++ [name]) (.file content none))
      | some (.atOnce e), _ => (.error e, fs)
      | some (.midway size e), _ =>
        (.error e, fs.put (placeOf u.destination ++ [name]) (.file (content.take size) none)) := by
  have place := offered.freeAt tree
  obtain ⟨located, held, _⟩ := offered.held
  have copies := place.copy turn.copy offered.found
  have fails : ∀ fs', ¬(turn.rename = none ∧
      fs.rename request.path (Path.join u.destination name) = .ok fs') := by
    rintro fs' ⟨allowed, _⟩
    rw [hindered] at allowed
    cases allowed
  rw [offered.freePath, moveFile_of_not_renamed fails, copies]
  cases turn.copy with
  | some refusal =>
      cases refusal with
      | atOnce e => rfl
      | midway size e => rfl
  | none =>
      cases turn.remove with
      | some e => rfl
      | none =>
          have added := (place.fileAdded content).keeps
          have tree' := tree.put place.free place.above (.file content none)
          have there : Table.get? (placeOf request.path)
              (fs.put (placeOf u.destination ++ [name]) (.file content none)) =
              some (.file content modified) := added _ _ held
          have stays := locate_of_keeps added.directories located
          have removed := remove_of_file tree' there stays
          dsimp only
          rw [removed]
          rfl

theorem accept_of_allowed (allowed : turn.rename = none) :
    Counted u request (u.accept fs request turn).1 ∧
      Moves u fs request name (u.accept fs request turn).2 := by
  obtain ⟨fs', renamed, moves⟩ := offered.exists_rename tree
  rw [← offered.freePath] at renamed
  obtain ⟨counted, after⟩ := u.counted_of_ok offered.named (moveFile_of_rename allowed renamed)
  rw [after]
  exact ⟨counted, moves⟩

/-- What the request is counted as and what is left of it, where it is not simply renamed. -/
theorem accept_of_refused (hindered : turn.rename = some e) :
    match turn.copy, turn.remove with
    | none, none => Counted u request (u.accept fs request turn).1 ∧
        (u.accept fs request turn).2 = Table.erase (placeOf request.path)
          (fs.put (placeOf u.destination ++ [name]) (.file content none))
    | none, some _ => Failed u (u.accept fs request turn).1 ∧
        (u.accept fs request turn).2 =
          fs.put (placeOf u.destination ++ [name]) (.file content none)
    | some (.atOnce _), _ => Failed u (u.accept fs request turn).1 ∧
        (u.accept fs request turn).2 = fs
    | some (.midway size _), _ => Failed u (u.accept fs request turn).1 ∧
        (u.accept fs request turn).2 =
          fs.put (placeOf u.destination ++ [name]) (.file (content.take size) none) := by
  have moves := offered.moveFile_of_refused tree hindered
  revert moves
  cases turn.copy with
  | none =>
      cases turn.remove with
      | none => exact u.counted_of_ok offered.named
      | some cause => exact u.failed_of_error offered.named
  | some refusal =>
      cases refusal with
      | atOnce cause => exact u.failed_of_error offered.named
      | midway size cause => exact u.failed_of_error offered.named

/-- What becomes of the request follows from what the system refuses. -/
theorem arrives (turn : MoveTurn) :
    Arrives u fs request turn (placeOf u.destination ++ [name]) content modified
      (u.accept fs request turn).1 (u.accept fs request turn).2 := by
  have place := offered.freeAt tree
  obtain ⟨_, held, _⟩ := offered.held
  cases rename : turn.rename with
  | none =>
      obtain ⟨counted, moves⟩ := offered.accept_of_allowed tree rename
      rw [Arrives, rename]
      exact ⟨counted, moves.can.fileMoved tree held moves.perm⟩
  | some e =>
      have accepted := offered.accept_of_refused tree rename
      rw [Arrives, rename]
      revert accepted
      cases turn.copy with
      | none =>
          cases turn.remove with
          | none =>
              rintro ⟨counted, after⟩
              rw [after]
              exact ⟨counted, place.fileMoved held⟩
          | some cause =>
              rintro ⟨failed, after⟩
              rw [after]
              exact ⟨failed, place.fileAdded content⟩
      | some refusal =>
          cases refusal with
          | atOnce cause =>
              rintro ⟨failed, same⟩
              exact ⟨failed, same⟩
          | midway size cause =>
              rintro ⟨failed, after⟩
              rw [after]
              exact ⟨failed, place.fileAdded (content.take size)⟩

/-- What is left then in the place and at the path of the request. -/
theorem outcome (turn : MoveTurn) :
    Outcome u fs request turn (u.accept fs request turn).1 (u.accept fs request turn).2 := by
  cases rename : turn.rename with
  | none =>
      obtain ⟨counted, moves⟩ := offered.accept_of_allowed tree rename
      exact .renamed counted moves
  | some e =>
      have refused : turn.rename ≠ none := rename ▸ Option.some_ne_none e
      have accepted := offered.accept_of_refused tree rename
      revert accepted
      cases turn.copy with
      | none =>
          cases turn.remove with
          | none =>
              rintro ⟨counted, after⟩
              rw [after]
              exact .recreated counted offered
          | some cause =>
              rintro ⟨failed, after⟩
              rw [after]
              exact .left content failed offered refused
      | some refusal =>
          cases refusal with
          | atOnce cause =>
              rintro ⟨failed, same⟩
              rw [same]
              exact .refused failed
          | midway size cause =>
              rintro ⟨failed, after⟩
              rw [after]
              exact .left (content.take size) failed offered refused

end Offered

theorem Refused.outcome (refused : Refused u fs u' fs') (request : UploadRequest)
    (turn : MoveTurn) : Outcome u fs request turn u' fs' := by
  rw [refused.same]
  exact .refused refused.toFailed

/-- What is left under the free path of a request that failed, if anything is. -/
def leftover (u : MoveUploader) (fs : FileSystem) (request : UploadRequest) (u' : MoveUploader)
    (fs' : FileSystem) : List Bytes :=
  match Path.fileName? request.path with
  | none => []
  | some own =>
    if u'.moved = u.moved then (fs'.read (freePath fs u.destination own)).toOption.toList else []

theorem leftover_of_counted (counted : Counted u request u') (fs fs' : FileSystem) :
    leftover u fs request u' fs' = [] := by
  have more : u'.moved ≠ u.moved := by
    rw [counted.moved]
    exact Nat.succ_ne_self _
  rw [leftover]
  split
  · rfl
  · rw [if_neg more]

theorem leftover_of_same (u u' : MoveUploader) (fs : FileSystem) (request : UploadRequest) :
    leftover u fs request u' fs = [] := by
  rw [leftover]
  split
  · rfl
  · rename_i own named
    obtain ⟨name, _, path, first⟩ := u.exists_freePath fs named
    obtain ⟨e, nothing⟩ := read_of_has_eq_false first.1
    rw [path, nothing]
    split
    · rfl
    · rfl

namespace Outcome

variable (outcome : Outcome u fs request turn u' fs')

include outcome

variable (tree : fs.IsTree)

include tree

/-- The contents are there as often as before, besides what is left of a copy. -/
theorem contents_perm : fs'.contents.Perm (fs.contents ++ leftover u fs request u' fs') := by
  cases outcome with
  | refused _ => rw [leftover_of_same, List.append_nil]
  | renamed counted moves =>
      rw [leftover_of_counted counted, List.append_nil, ← contents_moveTree fs]
      exact FileSystem.contents_perm moves.perm
  | recreated counted offered =>
      rw [leftover_of_counted counted, List.append_nil]
      exact (offered.freeAt tree).contents_moved tree offered.held.2.1
  | left part failed offered _ =>
      have place := offered.freeAt tree
      rw [leftover, offered.named]
      dsimp only
      rw [if_pos failed.moved, offered.freePath, place.read, contents_put place.absent,
        contents_file]
      rfl

/-- The request is counted once, and as moved when nothing is at its path any more. -/
theorem counts : Counted u request u' ∧ fs.has request.path = true ∧ fs'.has request.path = false ∨
    Failed u u' ∧ (fs.has request.path = true → fs'.has request.path = true) := by
  cases outcome with
  | refused failed => exact .inr ⟨failed, id⟩
  | renamed counted moves =>
      obtain ⟨node, found, _⟩ := moves.found
      refine .inl ⟨counted, has_of_find found, has_eq_false_of_get? ?_ ?_⟩
      · exact moves.can.notBase_old tree
      · rw [Table.get?_perm (moves.can.nodup_moveTree tree) moves.perm]
        exact moves.can.get?_old tree
  | recreated counted offered =>
      have notBase := tree.notBase_of_get? offered.held.2.1
      exact .inl ⟨counted, has_of_find offered.found,
        has_eq_false_of_get? notBase (Table.get?_erase_self ..)⟩
  | left part failed offered _ =>
      have keeps := ((offered.freeAt tree).fileAdded part).keeps
      exact .inr ⟨failed, fun _ => has_of_find (find_of_keeps keeps offered.found)⟩

/-- As long as no directory is asked for, the directories stay what they are. -/
theorem directories (isFile : fs.get? (placeOf request.path) ≠ some .directory) (p : Place) :
    fs'.get? p = some .directory ↔ fs.get? p = some .directory := by
  cases outcome with
  | refused _ => exact Iff.rfl
  | renamed _ moves =>
      obtain ⟨node, _, held⟩ := moves.found
      cases node with
      | directory => exact absurd held isFile
      | file content modified => exact (moves.can.fileMoved tree held moves.perm).directories p
  | recreated _ offered =>
      exact ((offered.freeAt tree).fileMoved offered.held.2.1).directories p
  | left part _ offered _ => exact ((offered.freeAt tree).fileAdded part).directories p

end Outcome

end RecordPipeline.MoveUploader
