import Mathlib.Data.List.Induction
import RecordPipeline.Proofs.Chain.Calls
import RecordPipeline.Proofs.Record.Consistency
import RecordPipeline.Proofs.Topology.Reference

/-!
What the lines of a run add to the counts of a pipeline and of its filters. Every line is counted in
one way, and lines are counted alike in every order.
-/

namespace RecordPipeline

/-- The ways in which a line can be counted. -/
inductive Verdict where
  | malformed
  | invalid (field : Nat)
  /-- The line has a valid record, but nothing came to the end of the chain. -/
  | dropped
  | passed
deriving DecidableEq

/-- How many records of the line go into the chain. -/
def Verdict.processed : Verdict → Nat
  | .malformed | .invalid _ => 0
  | .dropped | .passed => 1

def PipelineTally.judge (t : PipelineTally) : Verdict → PipelineTally
  | .malformed => t.addMalformed
  | .invalid field => t.addRecord.addInvalid field
  | .dropped => t.addRecord.addDropped
  | .passed => t.addRecord

/-- Every verdict counts a line once, as malformed or as a record, and every record once, as
invalid, dropped or passed. -/
theorem PipelineTally.judge_balance (t : PipelineTally) (v : Verdict) :
    (t.judge v).malformed = t.malformed + (if v = .malformed then 1 else 0) ∧
      (t.judge v).records + (t.judge v).malformed = t.records + t.malformed + 1 ∧
      (t.judge v).records + (t.invalid + t.dropped) =
        t.records + ((t.judge v).invalid + (t.judge v).dropped) + (if v = .passed then 1 else 0) ∧
      (t.judge v).records + t.invalid = t.records + (t.judge v).invalid + v.processed := by
  cases v with
  | malformed =>
      simp only [judge, addMalformed, Verdict.processed, reduceCtorEq, if_false, if_true,
        true_and]
      omega
  | invalid field =>
      simp only [judge, addInvalid, addRecord, Verdict.processed, reduceCtorEq, if_false]
      omega
  | dropped =>
      simp only [judge, addDropped, addRecord, Verdict.processed, reduceCtorEq, if_false]
      omega
  | passed =>
      simp only [judge, addRecord, Verdict.processed, reduceCtorEq, if_false, if_true]
      omega

theorem modify_succ_comm (counts : List Nat) (i j : Nat) :
    (counts.modify i (· + 1)).modify j (· + 1) = (counts.modify j (· + 1)).modify i (· + 1) := by
  apply List.ext_getElem?
  intro k
  simp only [List.getElem?_modify]
  cases counts[k]? with
  | none => rfl
  | some n => by_cases hi : i = k <;> by_cases hj : j = k <;> simp [hi, hj]

/-- The order in which lines are counted makes no difference. -/
theorem PipelineTally.judge_comm (t : PipelineTally) (v v' : Verdict) :
    (t.judge v).judge v' = (t.judge v').judge v := by
  cases v with
  | invalid field =>
      cases v' with
      | invalid field' =>
          simp only [judge, addInvalid, addRecord, modify_succ_comm]
      | _ => rfl
  | _ => cases v' <;> rfl

/-- A line with the metadata of its batch. -/
abbrev TaggedLine := Option Metadata × Bytes

def Batch.tagged (b : Batch) : List TaggedLine := b.lines.map (b.metadata, ·)

namespace Topology

variable {t : Topology}

/-- A line is malformed if it is empty or has too many fields. -/
def IsMalformed (t : Topology) (line : Bytes) : Prop :=
  line = [] ∨ t.layout.maxFields ≤ line.count t.layout.separator

instance (t : Topology) (line : Bytes) : Decidable (t.IsMalformed line) :=
  inferInstanceAs (Decidable (line = [] ∨ _))

/-- How a line is counted. -/
def verdict (t : Topology) (line : TaggedLine) : Verdict :=
  match (Record.new t.layout).parse line.2 line.1 with
  | (_, .error _) => .malformed
  | (r, .ok ()) =>
    match t.validator.bind (·.offending? r) with
    | some field => .invalid field
    | none => if t.survivors line.1 line.2 = [] then .dropped else .passed

/-- What the parser makes of a line that is not malformed, and that it refuses all others. -/
theorem parse_cases (t : Topology) (line : TaggedLine) :
    (t.IsMalformed line.2 ∧ ∃ r e, (Record.new t.layout).parse line.2 line.1 = (r, .error e)) ∨
      (¬t.IsMalformed line.2 ∧ ∃ r, (Record.new t.layout).parse line.2 line.1 = (r, .ok ())) := by
  rw [Record.parse_eq, IsMalformed]
  by_cases empty : line.2 = []
  · exact .inl ⟨.inl empty, by rw [if_pos empty]; exact ⟨_, _, rfl⟩⟩
  · rw [if_neg empty]
    by_cases fits : line.2.count t.layout.separator < t.layout.maxFields
    · refine .inr ⟨?_, by rw [Record.new, if_pos fits]; exact ⟨_, rfl⟩⟩
      rintro (isEmpty | many)
      · exact empty isEmpty
      · omega
    · exact .inl ⟨.inr (by omega), by rw [Record.new, if_neg fits]; exact ⟨_, _, rfl⟩⟩

theorem verdict_eq_malformed_iff (t : Topology) (line : TaggedLine) :
    t.verdict line = .malformed ↔ t.IsMalformed line.2 := by
  rcases t.parse_cases line with ⟨malformed, r, e, parsed⟩ | ⟨wellFormed, r, parsed⟩
  · simp [verdict, parsed, malformed]
  · simp only [verdict, parsed, wellFormed, iff_false]
    split
    · nofun
    · split <;> nofun

/-- A line passes exactly when records of it come to the end of the chain. -/
theorem verdict_eq_passed_iff (t : Topology) (line : TaggedLine) :
    t.verdict line = .passed ↔ t.survivors line.1 line.2 ≠ [] := by
  rcases t.parse_cases line with ⟨malformed, r, e, parsed⟩ | ⟨wellFormed, r, parsed⟩
  · simp [verdict, survivors, parsed]
  · cases offending : t.validator.bind (·.offending? r) with
    | some field => simp [verdict, survivors, parsed, accepts_eq_isNone, offending]
    | none =>
        simp only [verdict, parsed, offending]
        split
        · rename_i none
          simp [none]
        · rename_i some
          simp [some]

/-- Taking up a line counts it by its verdict. -/
theorem processLine_judges (t : Topology) (tally : PipelineTally) (filters : List FilterTally)
    (line : TaggedLine) :
    (t.processLine tally filters line.1 line.2).tally = tally.judge (t.verdict line) := by
  have outputs := t.processLine_outputs tally filters line.1 line.2
  rcases t.parse_cases line with ⟨malformed, r, e, parsed⟩ | ⟨wellFormed, r, parsed⟩
  · simp only [processLine, verdict, parsed]
    rfl
  · cases offending : t.validator.bind (·.offending? r) with
    | some field =>
        simp only [processLine, verdict, parsed, offending]
        rfl
    | none =>
        simp only [processLine, parsed, offending, reference] at outputs
        simp only [processLine, verdict, parsed, offending, outputs, List.isEmpty_iff,
          List.map_eq_nil_iff]
        split
        · rfl
        · rfl

/-- A line passes through the filters with some calls, for its record if it has one that is
accepted. They are what the line adds to the tallies, whatever these were. -/
theorem processLine_passes (t : Topology) (line : TaggedLine) :
    ∃ exchanges outputs calls,
      Chain.Passes t.chain.onError t.terminal [] outputs t.chain.filters exchanges calls ∧
      (∀ e ∈ exchanges, (Record.new t.layout).parse line.2 line.1 = (e.given, .ok ())) ∧
      ∀ (tally : PipelineTally) (filters : List FilterTally),
        filters.length = t.chain.filters.length →
        (t.processLine tally filters line.1 line.2).filters =
          Chain.counted filters (Chain.outcomes calls) := by
  have nothing : ∀ filters : List FilterTally, filters.length = t.chain.filters.length →
      Chain.counted filters (Chain.outcomes (List.replicate t.chain.filters.length [])) =
        filters := by
    intro filters many
    rw [Chain.outcomes, List.map_replicate, List.map_nil, ← many, Chain.counted_nothing]
  rcases t.parse_cases line with ⟨malformed, r, e, parsed⟩ | ⟨wellFormed, r, parsed⟩
  · refine ⟨[], [], _, .nothing [] t.chain.filters, List.forall_mem_nil _, ?_⟩
    intro tally filters many
    simp only [processLine, parsed, nothing filters many]
  · cases offending : t.validator.bind (·.offending? r) with
    | some field =>
        refine ⟨[], [], _, .nothing [] t.chain.filters, List.forall_mem_nil _, ?_⟩
        intro tally filters many
        simp only [processLine, parsed, offending, nothing filters many]
    | none =>
        obtain ⟨back, outputs, calls, passes, counts⟩ :=
          Chain.stage_passes t.chain.onError t.terminal t.chain.filters r []
        refine ⟨_, outputs, calls, passes, List.forall_mem_singleton.mpr parsed, ?_⟩
        intro tally filters many
        simp only [processLine, parsed, offending, Chain.run, counts filters many]

theorem head?_stage {σ : Type} (onError : OnError) (terminal : Stage σ) (fs : List Filter)
    (r : Record) (tallies : List FilterTally) (s : σ) (many : tallies.length = fs.length) :
    (Chain.stage onError terminal fs r (tallies, s)).2.1.head?.map (·.processed) =
      tallies.head?.map fun first => first.processed + 1 := by
  cases fs with
  | nil =>
      rw [List.length_eq_zero_iff.mp many]
      rfl
  | cons f rest =>
      cases tallies with
      | nil => cases many
      | cons tally tallies =>
          rw [Chain.stage_cons]
          dsimp only
          split
          · simp [FilterTally.add_eq]
          · simp [FilterTally.add_eq]

/-- The first filter processes the records of exactly those lines that are well-formed and valid. -/
theorem processLine_first (t : Topology) (tally : PipelineTally) (filters : List FilterTally)
    (line : TaggedLine) (many : filters.length = t.chain.filters.length) :
    (t.processLine tally filters line.1 line.2).filters.head?.map (·.processed) =
      filters.head?.map fun first => first.processed + (t.verdict line).processed := by
  rcases t.parse_cases line with ⟨malformed, r, e, parsed⟩ | ⟨wellFormed, r, parsed⟩
  · simp only [processLine, verdict, parsed]
    rfl
  · cases offending : t.validator.bind (·.offending? r) with
    | some field =>
        simp only [processLine, verdict, parsed, offending]
        rfl
    | none =>
        simp only [processLine, verdict, parsed, offending, Chain.run, head?_stage _ _ _ _ _ _ many]
        split
        · rfl
        · rfl

/-- Counts a line for the pipeline and for its filters. -/
def countLine (t : Topology) (s : PipelineTally × List FilterTally) (line : TaggedLine) :
    PipelineTally × List FilterTally :=
  let o := t.processLine s.1 s.2 line.1 line.2
  (o.tally, o.filters)

/-- The counts after some lines, one after the other. -/
def counted (t : Topology) (lines : List TaggedLine) : PipelineTally × List FilterTally :=
  lines.foldl t.countLine (PipelineTally.new t.layout.maxFields, t.chain.start)

theorem counted_concat (t : Topology) (lines : List TaggedLine) (line : TaggedLine) :
    t.counted (lines ++ [line]) = t.countLine (t.counted lines) line := List.foldl_concat ..

/-- What a line adds to the counts does not depend on what they were. -/
theorem countLine_eq (t : Topology) (line : TaggedLine) :
    ∃ marks : List (List Activity.Outcome), marks.length = t.chain.filters.length ∧
      ∀ s : PipelineTally × List FilterTally, s.2.length = t.chain.filters.length →
        t.countLine s line = (s.1.judge (t.verdict line), Chain.counted s.2 marks) := by
  obtain ⟨_, _, calls, passes, _, counts⟩ := t.processLine_passes line
  refine ⟨Chain.outcomes calls, (List.length_map _).trans passes.length, ?_⟩
  intro s many
  rw [countLine, processLine_judges, counts s.1 s.2 many]

theorem length_countLine {s : PipelineTally × List FilterTally}
    (many : s.2.length = t.chain.filters.length) (line : TaggedLine) :
    (t.countLine s line).2.length = t.chain.filters.length := by
  obtain ⟨marks, length, counts⟩ := t.countLine_eq line
  rw [counts s many]
  exact Chain.length_counted many length

theorem countLine_comm {s : PipelineTally × List FilterTally}
    (many : s.2.length = t.chain.filters.length) (line line' : TaggedLine) :
    t.countLine (t.countLine s line) line' = t.countLine (t.countLine s line') line := by
  obtain ⟨marks, length, counts⟩ := t.countLine_eq line
  obtain ⟨marks', length', counts'⟩ := t.countLine_eq line'
  rw [counts' _ (length_countLine many line), counts _ (length_countLine many line'),
    counts s many, counts' s many, PipelineTally.judge_comm, Chain.counted_comm]

/-- The counts do not depend on the order of the lines. -/
theorem counted_perm {lines lines' : List TaggedLine} (perm : lines.Perm lines') :
    t.counted lines = t.counted lines' := by
  have fold : ∀ s : PipelineTally × List FilterTally, s.2.length = t.chain.filters.length →
      lines.foldl t.countLine s = lines'.foldl t.countLine s := by
    induction perm with
    | nil => exact fun _ _ => rfl
    | cons line _ ih => exact fun s many => ih (t.countLine s line) (length_countLine many line)
    | swap line line' rest =>
        intro s many
        rw [List.foldl_cons, List.foldl_cons, List.foldl_cons, List.foldl_cons,
          countLine_comm many]
    | trans _ _ ih ih' => exact fun s many => (ih s many).trans (ih' s many)
  exact fold _ (List.length_map _)

/-- The balance of the counts after some lines. -/
structure Balanced (t : Topology) (lines : List TaggedLine)
    (s : PipelineTally × List FilterTally) : Prop where
  filters : s.2.length = t.chain.filters.length
  malformed : s.1.malformed = lines.countP fun line => t.IsMalformed line.2
  all : s.1.records + s.1.malformed = lines.length
  records : s.1.records = s.1.invalid + s.1.dropped +
    lines.countP fun line => t.survivors line.1 line.2 ≠ []
  first : ∀ first ∈ s.2.head?, first.processed + s.1.invalid = s.1.records

theorem Balanced.concat {lines : List TaggedLine} {s : PipelineTally × List FilterTally}
    (inv : Balanced t lines s) (line : TaggedLine) :
    Balanced t (lines ++ [line]) (t.countLine s line) := by
  obtain ⟨filters, malformed, all, records, first⟩ := inv
  have judged : (t.countLine s line).1 = s.1.judge (t.verdict line) :=
    t.processLine_judges s.1 s.2 line
  obtain ⟨malformed', all', records', processed'⟩ := s.1.judge_balance (t.verdict line)
  simp only [verdict_eq_malformed_iff] at malformed'
  simp only [verdict_eq_passed_iff] at records'
  refine ⟨length_countLine filters line, ?_, ?_, ?_, ?_⟩
  · rw [judged, malformed', malformed, List.countP_append, List.countP_singleton]
    simp
  · rw [judged, all', all, List.length_append, List.length_singleton]
  · rw [judged, List.countP_append, List.countP_singleton]
    simp only [decide_eq_true_eq]
    omega
  · intro first' isFirst
    have head : (t.countLine s line).2.head?.map (·.processed) =
        s.2.head?.map fun first => first.processed + (t.verdict line).processed :=
      t.processLine_first s.1 s.2 line filters
    rw [isFirst] at head
    obtain ⟨before, wasFirst, same⟩ := Option.map_eq_some_iff.mp head.symm
    have counted : before.processed + (t.verdict line).processed = first'.processed := same
    have balance := first before wasFirst
    rw [judged]
    omega

theorem balanced_counted (t : Topology) (lines : List TaggedLine) :
    Balanced t lines (t.counted lines) := by
  induction lines using List.reverseRecOn with
  | nil =>
      refine ⟨List.length_map _, rfl, rfl, rfl, ?_⟩
      intro first isFirst
      have start : t.chain.start.head? = some first := isFirst
      rw [Chain.start, List.head?_map] at start
      obtain ⟨f, _, rfl⟩ := Option.map_eq_some_iff.mp start
      rfl
  | append_singleton lines line ih =>
      rw [counted_concat]
      exact ih.concat line

end Topology

end RecordPipeline
