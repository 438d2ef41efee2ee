import RecordPipeline.Proofs.FileSystem.Trees

/-!
What has another place in a tree takes along all that lies inside of it. Everything else stays as it
is, and the files contain what they contained.
-/

namespace RecordPipeline.FileSystem

variable {fs fs' : FileSystem} {old new p q : Place} {node : FileNode} {source target : String}

/-- Something is at the old place and can be moved to the new one: nothing is there or inside of the
old place, and the directory around it is there. -/
structure CanMove (fs : FileSystem) (old new : Place) : Prop where
  found : ∃ node, fs.get? old = some node
  free : fs.node? new = none
  above : fs.node? new.dropLast = some .directory
  outside : ¬old <+: new

/-- Where something is after the move. -/
def moved (old new p : Place) : Place := if old <+: p then new ++ p.drop old.length else p

theorem moved_append (old new rest : Place) : moved old new (old ++ rest) = new ++ rest := by
  rw [moved, if_pos (List.prefix_append old rest), List.drop_left]

theorem moved_of_outside (outside : ¬old <+: p) : moved old new p = p := if_neg outside

theorem moveTree_eq (fs : FileSystem) (old new : Place) :
    fs.moveTree old new = fs.map fun entry => (moved old new entry.1, entry.2) := by
  apply List.map_congr_left
  intro entry _
  simp only [moved, List.isPrefixOf_iff_prefix]
  split
  · rfl
  · rfl

theorem keys_moveTree (fs : FileSystem) (old new : Place) :
    Table.keys (fs.moveTree old new) = fs.keys.map (moved old new) := by
  rw [moveTree_eq, Table.keys, Table.keys, List.map_map, List.map_map]
  rfl

theorem contents_moveTree (fs : FileSystem) (old new : Place) :
    (fs.moveTree old new).contents = fs.contents := by
  rw [moveTree_eq, contents, List.filterMap_map]
  rfl

namespace CanMove

variable (tree : fs.IsTree) (can : fs.CanMove old new)

include can

include tree

theorem notBase_old : isBase old = false := by
  obtain ⟨node, found⟩ := can.found
  exact tree.notBase_of_get? found

/-- Nothing that is there lies inside of the new place. -/
theorem not_prefix_new (member : p ∈ fs.keys) : ¬new <+: p := by
  intro inside
  obtain ⟨node, found⟩ := Table.mem_keys_iff.mp member
  have nothing := tree.nothing_inside can.free inside
  rw [node?_of_notBase (tree.notBase p member), found] at nothing
  cases nothing

theorem moved_injOn (first : p ∈ fs.keys) (second : q ∈ fs.keys)
    (same : moved old new p = moved old new q) : p = q := by
  by_cases inside : old <+: p
  · obtain ⟨rest, rfl⟩ := inside
    rw [moved_append] at same
    by_cases inside' : old <+: q
    · obtain ⟨rest', rfl⟩ := inside'
      rw [moved_append] at same
      rw [List.append_cancel_left same]
    · rw [moved_of_outside inside'] at same
      exact absurd ⟨rest, same⟩ (can.not_prefix_new tree second)
  · rw [moved_of_outside inside] at same
    by_cases inside' : old <+: q
    · obtain ⟨rest', rfl⟩ := inside'
      rw [moved_append] at same
      exact absurd ⟨rest', same.symm⟩ (can.not_prefix_new tree first)
    · rw [moved_of_outside inside'] at same
      exact same

theorem nodup_moveTree : (Table.keys (fs.moveTree old new)).Nodup := by
  rw [keys_moveTree]
  exact List.Nodup.map_on (fun p first q second => can.moved_injOn tree first second) tree.nodup

/-- Nothing is left at the old place. -/
theorem get?_old : Table.get? old (fs.moveTree old new) = none := by
  rw [Table.get?_eq_none_iff, keys_moveTree]
  intro member
  obtain ⟨p, before, same⟩ := List.mem_map.mp member
  by_cases inside : old <+: p
  · obtain ⟨rest, rfl⟩ := inside
    rw [moved_append] at same
    obtain ⟨node, found⟩ := can.found
    exact can.not_prefix_new tree (Table.mem_keys_iff.mpr ⟨node, found⟩) ⟨rest, same⟩
  · rw [moved_of_outside inside] at same
    exact inside (same ▸ List.prefix_refl p)

end CanMove

/-- A file has nothing inside of it, so it can be moved to any free place. -/
theorem canMove_file (tree : fs.IsTree) {content : Bytes} {modified : Option Nat}
    (found : fs.get? old = some (.file content modified)) (free : fs.node? new = none)
    (above : fs.node? new.dropLast = some .directory) : fs.CanMove old new := by
  refine ⟨⟨_, found⟩, free, above, ?_⟩
  intro inside
  have there : fs.node? old = some (.file content modified) := by
    rw [node?_of_notBase (tree.notBase_of_get? found), found]
  have apart : old ≠ new := by
    rintro rfl
    rw [free] at there
    cases there
  rw [tree.eq_of_inside_file found above (prefix_dropLast_of_ne inside apart), above] at there
  cases there

theorem perm_moveTree_file (tree : fs.IsTree) {content : Bytes} {modified : Option Nat}
    (found : fs.get? old = some (.file content modified)) (free : fs.node? new = none) :
    ((fs.erase old).put new (.file content modified)).Perm (fs.moveTree old new) := by
  obtain ⟨_, absent⟩ := get?_of_node?_eq_none free
  have apart : new ≠ old := by
    rintro rfl
    rw [absent] at found
    cases found
  let move (entry : Place × FileNode) : Place × FileNode := (moved old new entry.1, entry.2)
  have itself : move (old, .file content modified) = (new, .file content modified) := by
    have := moved_append old new []
    rw [List.append_nil, List.append_nil] at this
    exact congrArg (·, _) this
  have others : (fs.erase old).map move = fs.erase old := by
    refine (List.map_congr_left ?_).trans (List.map_id _)
    intro entry member
    obtain ⟨before, apart⟩ := List.mem_filter.mp member
    refine Prod.ext (moved_of_outside ?_) rfl
    intro inside
    have there := (Table.get?_eq_some_iff tree.nodup).mpr before
    rw [← node?_of_notBase (tree.notBase_of_get? there)] at there
    exact of_decide_eq_true apart (tree.eq_of_inside_file found there inside).symm
  rw [moveTree_eq, Table.put_of_get?_eq_none ((Table.get?_erase_of_ne apart fs).trans absent)]
  have moves : ((old, .file content modified) :: fs.erase old).map move =
      (new, .file content modified) :: fs.erase old := by rw [List.map_cons, itself, others]
  refine (List.perm_append_singleton _ _).trans ?_
  rw [← moves]
  exact ((Table.perm_cons_erase tree.nodup found).map move).symm

/-- What becomes of a path at which there is nothing when something is given it. -/
theorem rename_of_free (source_located : fs.locate source = .ok old)
    (located : fs.locate target = .ok new) (free : fs.node? new = none) :
    fs.rename source target =
      if Path.endsInDots source || Path.endsInDots target then .error .busy
      else match fs.node? old with
        | none => .error .notFound
        | some (.file content modified) =>
          if Path.namesDirectory source || Path.namesDirectory target then .error .notDirectory
          else .ok ((fs.erase old).put new (.file content modified))
        | some .directory =>
          if isBase old then .error .busy
          else if isInside new old then .error .badArgument
          else .ok (fs.moveTree old new) := by
  rw [rename, source_located, located]
  simp only [bind, Except.bind, free]
  split
  · rfl
  · cases found : fs.node? old with
    | none => rfl
    | some node =>
        have apart : old ≠ new := by
          rintro rfl
          rw [free] at found
          cases found
        simp only [if_neg apart]
        cases node with
        | file content modified =>
            dsimp only
            split
            · rfl
            · rfl
        | directory =>
            dsimp only
            split
            · rfl
            · split
              · rfl
              · rfl

theorem find_of_locate (located : fs.locate source = .ok old) :
    fs.find source = match fs.node? old with
      | none => .error .notFound
      | some (.file content modified) =>
        if Path.namesDirectory source then .error .notDirectory else .ok (.file content modified)
      | some .directory => .ok .directory := by
  rw [find, located]
  rfl

theorem not_prefix_of_isInside (found : fs.node? old = some node) (free : fs.node? new = none)
    (outside : ¬isInside new old = true) : ¬old <+: new := by
  intro inside
  apply outside
  rw [isInside, Bool.and_eq_true, List.isPrefixOf_iff_prefix, decide_eq_true_eq]
  refine ⟨inside, Nat.lt_of_le_of_ne inside.length_le ?_⟩
  intro same
  rw [inside.eq_of_length same, free] at found
  cases found

/-- What is given a path at which there is nothing is moved there. -/
theorem move_of_rename (tree : fs.IsTree) (located : fs.locate target = .ok new)
    (free : fs.node? new = none) (h : fs.rename source target = .ok fs') :
    ∃ old node, fs.locate source = .ok old ∧ fs.find source = .ok node ∧
      fs.get? old = some node ∧ fs.CanMove old new ∧ fs'.Perm (fs.moveTree old new) := by
  have above := tree.above_of_locate located free
  obtain ⟨old, source_located, _⟩ := bind_eq_ok_iff.mp h
  rw [rename_of_free source_located located free] at h
  have find_eq := find_of_locate source_located
  refine ⟨old, ?_⟩
  split at h
  · cases h
  · cases there : fs.node? old with
    | none =>
        rw [there] at h
        cases h
    | some node =>
        rw [there] at h find_eq
        cases node with
        | file content modified =>
            dsimp only at h find_eq
            split at h
            · cases h
            · rename_i noDirectory
              rw [Bool.or_eq_true, not_or] at noDirectory
              rw [if_neg noDirectory.1] at find_eq
              have found := get?_of_node?_file there
              refine ⟨_, source_located, find_eq, found, canMove_file tree found free above, ?_⟩
              rw [← Except.ok.inj h]
              exact perm_moveTree_file tree found free
        | directory =>
            dsimp only at h find_eq
            split at h
            · cases h
            · rename_i notBase
              split at h
              · cases h
              · rename_i outside
                have found := there
                rw [node?_of_notBase (Bool.eq_false_iff.mpr notBase)] at found
                refine ⟨_, source_located, find_eq, found,
                  ⟨⟨_, found⟩, free, above, not_prefix_of_isInside there free outside⟩, ?_⟩
                rw [← Except.ok.inj h]

theorem file_of_find {content : Bytes} {modified : Option Nat}
    (found : fs.find source = .ok (.file content modified)) :
    ∃ old, fs.locate source = .ok old ∧ fs.node? old = some (.file content modified) ∧
      Path.namesDirectory source = false := by
  obtain ⟨old, located, _⟩ := bind_eq_ok_iff.mp found
  refine ⟨old, located, ?_⟩
  rw [find_of_locate located] at found
  split at found
  · cases found
  · rename_i there
    split at found
    · cases found
    · rename_i isFile
      cases found
      exact ⟨there, Bool.eq_false_iff.mpr isFile⟩
  · cases found

/-- A file can be given any path at which there is nothing. -/
theorem rename_file {content : Bytes} {modified : Option Nat}
    (found : fs.find source = .ok (.file content modified))
    (dots : (Path.endsInDots source || Path.endsInDots target) = false)
    (noDirectory : Path.namesDirectory target = false)
    (located : fs.locate target = .ok new) (free : fs.node? new = none) :
    ∃ fs', fs.rename source target = .ok fs' := by
  obtain ⟨old, source_located, there, isFile⟩ := file_of_find found
  refine ⟨(fs.erase old).put new (.file content modified), ?_⟩
  rw [rename_of_free source_located located free, dots, there]
  dsimp only
  rw [isFile, noDirectory]
  rfl

/-- A file has gone from one place to another, where nothing was, and all else is as before. It
contains what it contained, and has the given times of its last change. -/
structure FileMoved (fs fs' : FileSystem) (old new : Place) (content : Bytes)
    (modified after : Option Nat) : Prop where
  found : fs.get? old = some (.file content modified)
  free : fs.get? new = none
  arrived : fs'.get? new = some (.file content after)
  left : fs'.get? old = none
  others : ∀ p, p ≠ old → p ≠ new → fs'.get? p = fs.get? p

theorem FileMoved.directories {content : Bytes} {modified after : Option Nat}
    (went : FileMoved fs fs' old new content modified after) (p : Place) :
    fs'.get? p = some .directory ↔ fs.get? p = some .directory := by
  by_cases fromHere : p = old
  · rw [fromHere, went.left, went.found]
    simp
  · by_cases toHere : p = new
    · rw [toHere, went.arrived, went.free]
      simp
    · rw [went.others p fromHere toHere]

theorem CanMove.fileMoved (can : fs.CanMove old new) (tree : fs.IsTree) {content : Bytes}
    {modified : Option Nat} (found : fs.get? old = some (.file content modified))
    (perm : fs'.Perm (fs.moveTree old new)) :
    FileMoved fs fs' old new content modified modified := by
  obtain ⟨_, free⟩ := get?_of_node?_eq_none can.free
  have apart : old ≠ new := by
    rintro rfl
    rw [free] at found
    cases found
  have after : ∀ p, fs'.get? p = ((fs.erase old).put new (.file content modified)).get? p := by
    intro p
    have nodup := can.nodup_moveTree tree
    rw [Table.get?_perm nodup perm,
      Table.get?_perm nodup (perm_moveTree_file tree found can.free)]
  refine ⟨found, free, ?_, ?_, ?_⟩
  · rw [after, Table.get?_put_self]
  · rw [after, Table.get?_put_of_ne apart, Table.get?_erase_self]
  · intro p notOld notNew
    rw [after, Table.get?_put_of_ne notNew, Table.get?_erase_of_ne notOld]

end RecordPipeline.FileSystem
