import Mathlib.Data.List.Forall2
import RecordPipeline.Proofs.Record.Consistency

/-!
Records that nobody can tell apart. A record is used by calls that change it, by looking at all that
can be read of it, through its cache, and by copies that are made of it and go their own way. Two
records are alike when all uses of them have the same answers. They are, when they hold the same and
differ at most in their tables of slots: such a table is not to be seen.
-/

namespace RecordPipeline

/-- Lists that are related one by one have related elements at each place, or none. -/
theorem forall₂_getElem?_cases {α β : Type} {R : α → β → Prop} {l : List α} {m : List β}
    (h : List.Forall₂ R l m) (i : Nat) :
    (l[i]? = none ∧ m[i]? = none) ∨ ∃ a b, l[i]? = some a ∧ m[i]? = some b ∧ R a b := by
  induction h generalizing i with
  | nil => exact .inl ⟨rfl, rfl⟩
  | cons related _ ih =>
      cases i with
      | zero => exact .inr ⟨_, _, rfl, rfl, related⟩
      | succ i => exact ih i

theorem forall₂_set {α β : Type} {R : α → β → Prop} {l : List α} {m : List β}
    (h : List.Forall₂ R l m) {a : α} {b : β} (related : R a b) (i : Nat) :
    List.Forall₂ R (l.set i a) (m.set i b) := by
  induction h generalizing i with
  | nil => exact .nil
  | cons first rest ih =>
      cases i with
      | zero => exact .cons related rest
      | succ i => exact .cons first (ih i)

/-- All that can be read of a record. -/
structure RecordSight where
  layout : Layout
  fields : Nat → Bytes
  ownBytes : Nat → Bytes
  originals : Nat → Bytes
  text : Bytes
  appended : Array UInt8 → Array UInt8
  buffer : Bytes
  fieldCount : Nat
  modifiedCount : Nat
  isModified : Bool
  isEmpty : Bool
  metadata : Option Metadata
  entries : String → Option String
  cache : Cache
  debug : String

/-- A use of one record. -/
inductive RecordUse where
  | call (c : RecordCall)
  | look
  /-- Puts an entry into the cache. -/
  | store (key : String) (value : CacheValue)
  /-- Changes an integer in the cache in its place. -/
  | change (key : String) (f : Int64 → Int64)
  /-- Takes an entry out of the cache, and tells whether it was there. -/
  | delete (key : String)

/-- What a use of a record gives. -/
inductive RecordAnswer where
  | result (answer : Except RecordError Unit)
  | sight (s : RecordSight)
  | existed (b : Bool)
  | done

/-- A use of one of the records at hand, each of which has a number. -/
inductive RecordsUse where
  | use (number : Nat) (u : RecordUse)
  /-- A copy is put behind all others. -/
  | copy (number : Nat)

namespace Record

def sight (r : Record) : RecordSight where
  layout := r.layout
  fields := r.get
  ownBytes := r.getBytes
  originals := r.original
  text := r.text
  appended := r.appendText
  buffer := r.buffer
  fieldCount := r.fieldCount
  modifiedCount := r.modifiedCount
  isModified := r.isModified
  isEmpty := r.isEmpty
  metadata := r.metadata
  entries := r.meta?
  cache := r.cache
  debug := r.debug

/-- The record after a use, and the answer. -/
def use (r : Record) : RecordUse → Record × RecordAnswer
  | .call c => ((r.perform c).1, .result (r.perform c).2)
  | .look => (r, .sight r.sight)
  | .store key value => ({ r with cache := r.cache.put key value }, .done)
  | .change key f => ({ r with cache := r.cache.modifyInteger key f }, .done)
  | .delete key => ({ r with cache := r.cache.erase key }, .existed (r.cache.has key))

/-- The records at hand after a use of one of them. There is no answer when none has the number. -/
def useOne (rs : List Record) : RecordsUse → List Record × Option RecordAnswer
  | .use number u =>
    match rs[number]? with
    | some r => (rs.set number (r.use u).1, some (r.use u).2)
    | none => (rs, none)
  | .copy number =>
    match rs[number]? with
    | some r => (rs ++ [r.duplicate], some .done)
    | none => (rs, none)

/-- The answers to uses of the records at hand, one after the other. -/
def answers (rs : List Record) : List RecordsUse → List (Option RecordAnswer)
  | [] => []
  | u :: rest => (useOne rs u).2 :: answers (useOne rs u).1 rest

/-- Whatever is done with the one record or the other, and with copies of it, has the same answers.
-/
def Alike (r s : Record) : Prop := ∀ later, answers [r] later = answers [s] later

/-- The record that uses make of a new one. -/
def made (l : Layout) (history : List RecordUse) : Record :=
  history.foldl (fun r u => (r.use u).1) (new l)

/-- Two records with consistent tables that hold the same. Their tables of slots may differ: one may
have been made, with no slot in use, where the other has not. -/
structure Matches (r s : Record) : Prop where
  left : r.OverlayConsistent
  right : s.OverlayConsistent
  layout : r.layout = s.layout
  buffer : r.buffer = s.buffer
  ends : r.ends = s.ends
  values : r.values = s.values
  lastModified : r.lastModified = s.lastModified
  metadata : r.metadata = s.metadata
  cache : r.cache = s.cache

namespace Matches

variable {r s : Record}

section Sight

/-- The slots in use are those of the values. -/
theorem slot_eq (h : Matches r s) (index : Nat) : r.slot index = s.slot index := by
  have same : r.modified = s.modified := congrArg Table.keys h.values
  cases hslot : r.slot index with
  | zero =>
      have absent := (h.left.slot_eq_zero_iff index).mp hslot
      rw [same] at absent
      exact ((h.right.slot_eq_zero_iff index).mpr absent).symm
  | succ k =>
      have hk := (h.left.slot_iff index k).mp hslot
      rw [same] at hk
      exact ((h.right.slot_iff index k).mpr hk).symm

theorem original_eq (h : Matches r s) : r.original = s.original := by
  funext index
  simp only [original, startOf, h.ends, h.buffer]

theorem get_eq (h : Matches r s) : r.get = s.get := by
  funext index
  rw [get, get, h.slot_eq, h.values, h.original_eq]

theorem getBytes_eq (h : Matches r s) : r.getBytes = s.getBytes := by
  funext index
  rw [getBytes_eq_get, getBytes_eq_get, h.get_eq]

theorem appendText_eq (h : Matches r s) : r.appendText = s.appendText := by
  funext out
  simp only [appendText, h.get_eq, h.values, h.layout, h.ends, h.buffer, h.lastModified]

theorem text_eq (h : Matches r s) : r.text = s.text := by
  rw [text, text, h.appendText_eq, h.values, h.buffer]

theorem sight_eq (h : Matches r s) : r.sight = s.sight := by
  have hentries : r.meta? = s.meta? := by
    funext key
    rw [meta?, meta?, h.metadata]
  simp only [sight, fieldCount, modifiedCount, isModified, isEmpty, debug, h.layout, h.get_eq,
    h.getBytes_eq, h.original_eq, h.text_eq, h.appendText_eq, hentries, h.buffer, h.ends,
    h.values, h.metadata, h.cache]

end Sight

section Calls

/-- A line with its metadata, or a cache, that both take in. -/
theorem withLine (h : Matches r s) (ends : List Nat) (buffer : Bytes)
    (metadata : Option Metadata) (cache : Cache) :
    Matches { r with ends, buffer, metadata, cache } { s with ends, buffer, metadata, cache } :=
  { h with
    left := h.left.withLine ends buffer metadata cache
    right := h.right.withLine ends buffer metadata cache
    buffer := rfl, ends := rfl, metadata := rfl, cache := rfl }

/-- Both use their caches in the same way. -/
theorem withCache (h : Matches r s) (cache : Cache) :
    Matches { r with cache } { s with cache } :=
  { h with
    left := h.left.withLine r.ends r.buffer r.metadata cache
    right := h.right.withLine s.ends s.buffer s.metadata cache
    cache := rfl }

/-- Records of one layout match once they are cleared. -/
theorem clear (left : r.OverlayConsistent) (right : s.OverlayConsistent)
    (layout : r.layout = s.layout) : Matches r.clear s.clear :=
  ⟨clear_overlayConsistent left, clear_overlayConsistent right, layout,
    rfl, rfl, rfl, rfl, rfl, rfl⟩

/-- Records of one layout answer a line in the same way and match afterwards. -/
theorem parse (left : r.OverlayConsistent) (right : s.OverlayConsistent)
    (layout : r.layout = s.layout) (line : Bytes) (metadata : Option Metadata) :
    Matches (r.parse line metadata).1 (s.parse line metadata).1 ∧
      (r.parse line metadata).2 = (s.parse line metadata).2 := by
  have cleared := clear left right layout
  rw [parse_eq, parse_eq, layout]
  split
  · exact ⟨cleared, rfl⟩
  · split
    · exact ⟨cleared.withLine _ _ _ [], rfl⟩
    · exact ⟨cleared, rfl⟩

/-- A slot that is in use for both takes the same value. -/
theorem reuse (h : Matches r s) {index k : Nat} (hslot : r.slot index = k + 1) (value : Bytes) :
    Matches { r with values := r.values.set k (index, value) }
      { s with values := s.values.set k (index, value) } := by
  have hother := hslot
  rw [h.slot_eq] at hother
  exact { h with
    left := reuse_overlayConsistent h.left ((h.left.slot_iff index k).mp hslot)
    right := reuse_overlayConsistent h.right ((h.right.slot_iff index k).mp hother)
    values := congrArg (·.set k (index, value)) h.values }

/-- The next slot has the same number for both, whether or not the table has to be made for it. -/
theorem takeSlot (h : Matches r s) {index : Nat} (inside : index < r.layout.maxFields)
    (hslot : r.slot index = 0) (room : r.values.length < overlayLimit) (value : Bytes) :
    Matches (r.takeSlot index value) (s.takeSlot index value) := by
  have hother := hslot
  have otherRoom := room
  have otherInside := inside
  rw [h.slot_eq] at hother
  rw [h.values] at otherRoom
  rw [h.layout] at otherInside
  refine { h with
    left := takeSlot_overlayConsistent h.left inside hslot room
    right := takeSlot_overlayConsistent h.right otherInside hother otherRoom
    values := congrArg (· ++ [(index, value)]) h.values
    lastModified := ?_ }
  simp only [Record.takeSlot, h.values, h.lastModified]

/-- A field is replaced in both or in none. -/
theorem set (h : Matches r s) (index : Nat) (value : Bytes) :
    Matches (r.perform (.set index value)).1 (s.perform (.set index value)).1 ∧
      (r.perform (.set index value)).2 = (s.perform (.set index value)).2 := by
  rw [perform, perform]
  by_cases inside : index < r.layout.maxFields
  · have otherInside := inside
    rw [h.layout] at otherInside
    cases hslot : r.slot index with
    | succ k =>
        have hother := hslot
        rw [h.slot_eq] at hother
        rw [set_of_slot inside hslot, set_of_slot otherInside hother]
        exact ⟨h.reuse hslot value, rfl⟩
    | zero =>
        have hother := hslot
        rw [h.slot_eq] at hother
        by_cases room : r.values.length < overlayLimit
        · have otherRoom := room
          rw [h.values] at otherRoom
          rw [set_of_room inside hslot room, set_of_room otherInside hother otherRoom]
          exact ⟨h.takeSlot inside hslot room value, rfl⟩
        · have full := Nat.le_of_not_lt room
          have otherFull := full
          rw [h.values] at otherFull
          rw [set_of_full inside hslot full, set_of_full otherInside hother otherFull]
          exact ⟨h, rfl⟩
  · have outside := Nat.le_of_not_lt inside
    have otherOutside := outside
    rw [h.layout] at otherOutside
    rw [set_of_outside outside, set_of_outside otherOutside, h.layout]
    exact ⟨h, rfl⟩

theorem perform (h : Matches r s) (call : RecordCall) :
    Matches (r.perform call).1 (s.perform call).1 ∧
      (r.perform call).2 = (s.perform call).2 := by
  cases call with
  | parse line metadata => exact parse h.left h.right h.layout line metadata
  | set index value => exact h.set index value
  | clear => exact ⟨clear h.left h.right h.layout, rfl⟩
  | duplicate => exact ⟨h.withCache [], rfl⟩
  | remember cache => exact ⟨h.withCache cache, rfl⟩

/-- One use has the same answer for both, and both match after it. -/
theorem use (h : Matches r s) (u : RecordUse) :
    Matches (r.use u).1 (s.use u).1 ∧ (r.use u).2 = (s.use u).2 := by
  cases u with
  | call c =>
      obtain ⟨hnext, hanswer⟩ := h.perform c
      exact ⟨hnext, congrArg RecordAnswer.result hanswer⟩
  | look => exact ⟨h, congrArg RecordAnswer.sight h.sight_eq⟩
  | store key value =>
      simp only [Record.use, h.cache]
      exact ⟨h.withCache _, trivial⟩
  | change key f =>
      simp only [Record.use, h.cache]
      exact ⟨h.withCache _, trivial⟩
  | delete key =>
      simp only [Record.use, h.cache]
      exact ⟨h.withCache _, trivial⟩

end Calls

section Records

variable {rs ss : List Record}

/-- Records at hand that match one by one answer a use in the same way and match after it. -/
theorem useOne (h : List.Forall₂ Matches rs ss) (u : RecordsUse) :
    List.Forall₂ Matches (Record.useOne rs u).1 (Record.useOne ss u).1 ∧
      (Record.useOne rs u).2 = (Record.useOne ss u).2 := by
  cases u with
  | use number u =>
      rw [Record.useOne, Record.useOne]
      rcases forall₂_getElem?_cases h number with ⟨left, right⟩ | ⟨r, s, left, right, same⟩
      · rw [left, right]
        exact ⟨h, rfl⟩
      · obtain ⟨hnext, hanswer⟩ := same.use u
        rw [left, right]
        exact ⟨forall₂_set h hnext number, congrArg some hanswer⟩
  | copy number =>
      rw [Record.useOne, Record.useOne]
      rcases forall₂_getElem?_cases h number with ⟨left, right⟩ | ⟨r, s, left, right, same⟩
      · rw [left, right]
        exact ⟨h, rfl⟩
      · rw [left, right]
        exact ⟨List.rel_append h (.cons (same.withCache []) .nil), rfl⟩

theorem answers_eq (h : List.Forall₂ Matches rs ss) (later : List RecordsUse) :
    answers rs later = answers ss later := by
  induction later generalizing rs ss with
  | nil => rfl
  | cons u rest ih =>
      obtain ⟨hnext, hanswer⟩ := useOne h u
      rw [answers, answers, hanswer, ih hnext]

/-- Records that match cannot be told apart. -/
theorem alike (h : Matches r s) : Alike r s := by
  intro later
  exact answers_eq (.cons h .nil) later

end Records

end Matches

end Record

end RecordPipeline
