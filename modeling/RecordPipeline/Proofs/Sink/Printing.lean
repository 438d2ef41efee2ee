import Mathlib.Data.List.Flatten
import Mathlib.Data.List.Induction
import Mathlib.Logic.Function.Basic
import RecordPipeline.Sink.Sink

/-!
Sinks that print to one place. Each gathers lines in a buffer of its own and prints the buffer as
one burst. When it does so depends on how the buffer grows and on when no outputs wait, and the
bursts of several sinks come in any order. Still, what is printed consists of whole lines, those of
one sink in the order of its outputs, as long as printing does not fail. When it fails, a first part
of the burst is there, which may end in the middle of a line, and the next burst comes right behind
it.
-/

namespace RecordPipeline

theorem LineFormat.line_ne_nil (f : LineFormat) (o : Output) : f.line o ≠ [] := by
  rw [line]
  split <;> exact List.append_ne_nil_of_right_ne_nil _ (List.cons_ne_nil _ _)

/-- The outputs of one sink among those of several. -/
def outputsOf {ι : Type} [DecidableEq ι] (i : ι) (entries : List (ι × Output)) : List Output :=
  entries.filterMap fun entry => if entry.1 = i then some entry.2 else none

/-- Outputs whose lines were printed together, all of them or up to where printing failed. -/
structure Burst (ι : Type) where
  owner : ι
  outputs : List Output
  /-- After how many bytes printing failed, if it failed. -/
  cut : Option Nat

namespace Burst

variable {ι : Type}

def entries (b : Burst ι) : List (ι × Output) := b.outputs.map (b.owner, ·)

def isPrinted (b : Burst ι) : Bool := b.cut.isNone

/-- What is printed of a burst, with the line of each output. -/
def text (line : Output → Bytes) (b : Burst ι) : Bytes :=
  match b.cut with
  | none => b.outputs.flatMap line
  | some room => (b.outputs.flatMap line).take room

end Burst

/-- The outputs whose lines were printed, in their order. -/
def printedEntries {ι : Type} (bursts : List (Burst ι)) : List (ι × Output) :=
  (bursts.filter Burst.isPrinted).flatMap Burst.entries

section Entries

variable {ι : Type} [DecidableEq ι] {i : ι} {o : Output} {entries : List (ι × Output)}

theorem mem_outputsOf : o ∈ outputsOf i entries ↔ (i, o) ∈ entries := by
  simp [outputsOf]

theorem outputsOf_append (first second : List (ι × Output)) :
    outputsOf i (first ++ second) = outputsOf i first ++ outputsOf i second :=
  List.filterMap_append

/-- Outputs that are all of one sink are known by what they are. -/
theorem map_outputsOf (one : ∀ entry ∈ entries, entry.1 = i) :
    (outputsOf i entries).map (i, ·) = entries := by
  induction entries with
  | nil => rfl
  | cons entry rest ih =>
      obtain ⟨here, later⟩ := List.forall_mem_cons.mp one
      obtain rfl := here
      have found : outputsOf entry.1 (entry :: rest) = entry.2 :: outputsOf entry.1 rest := by
        simp [outputsOf]
      rw [found, List.map_cons, ih later]

theorem outputsOf_entries (b : Burst ι) :
    outputsOf i b.entries = if b.owner = i then b.outputs else [] := by
  have picked : outputsOf i b.entries =
      b.outputs.filterMap fun o => if b.owner = i then some o else none :=
    List.filterMap_map
  rw [picked]
  by_cases own : b.owner = i <;> simp [own]

theorem outputsOf_printedEntries (bursts : List (Burst ι)) :
    outputsOf i (printedEntries bursts) =
      ((bursts.filter (·.owner = i)).filter Burst.isPrinted).flatMap Burst.outputs := by
  induction bursts with
  | nil => rfl
  | cons b rest ih =>
      rw [printedEntries] at ih ⊢
      by_cases isPrinted : b.isPrinted <;> by_cases own : b.owner = i <;>
        simp [isPrinted, own, outputsOf_append, outputsOf_entries, ih]

end Entries

namespace StdoutSink

variable {s s' s'' : StdoutSink} {e e' : Environment}

/-- Puts the line of an output into the buffer. -/
def gather (s : StdoutSink) (o : Output) : StdoutSink :=
  { s with buffer := s.buffer ++ s.format.line o, written := s.written + 1 }

/-- What can become of a buffer. -/
inductive Flushed (s : StdoutSink) (e : Environment) : StdoutSink → Environment → Prop where
  | nothing (empty : s.buffer = []) : Flushed s e s e
  | printed (works : e.failure = none) :
      Flushed s e
        { s with buffer := [], flushes := s.flushes + 1, bytes := s.bytes + s.buffer.length }
        { e with printed := e.printed ++ s.buffer }
  | failed {failure : WriteFailure} (fails : e.failure = some failure) :
      Flushed s e
        { s with
          buffer := []
          errors := s.errors + 1
          log := s.log.report e.now "stdout write failed" failure.cause.message }
        { e with printed := e.printed ++ s.buffer.take failure.room }

theorem flushed (s : StdoutSink) (e : Environment) : Flushed s e (s.flush e).1 (s.flush e).2 := by
  by_cases empty : s.buffer = []
  · rw [flush, if_pos empty]
    exact .nothing empty
  · cases failure : e.failure with
    | none =>
        simp only [flush, empty, if_false, Environment.print_of_none failure]
        exact .printed failure
    | some cause =>
        simp only [flush, empty, if_false, Environment.print_of_some failure]
        exact .failed failure

theorem Flushed.buffer (h : Flushed s e s' e') : s'.buffer = [] := by
  cases h with
  | nothing empty => exact empty
  | printed _ | failed _ => rfl

theorem Flushed.failure (h : Flushed s e s' e') : e'.failure = e.failure := by
  cases h <;> rfl

/-- What a sink has done with the outputs it took: those of its bursts, in their order, and then
those whose lines wait in the buffer. Its counts are those of the outputs and of the bursts. -/
structure Served {ι : Type} (s : StdoutSink) (taken : List Output) (bursts : List (Burst ι))
    (s' : StdoutSink) : Prop where
  format : s'.format = s.format
  waiting : ∃ waiting, taken = bursts.flatMap Burst.outputs ++ waiting ∧
    s'.buffer = waiting.flatMap s.format.line
  written : s'.written = s.written + taken.length
  bytes : s'.bytes = s.bytes +
    (((bursts.filter Burst.isPrinted).flatMap Burst.outputs).flatMap s.format.line).length
  flushes : s'.flushes = s.flushes + bursts.countP (·.isPrinted)
  errors : s'.errors = s.errors + bursts.countP (!·.isPrinted)

namespace Served

variable {ι : Type} {i : ι} {taken : List Output} {bursts : List (Burst ι)}

theorem start (empty : s.buffer = []) : Served s [] ([] : List (Burst ι)) s where
  format := rfl
  waiting := ⟨[], rfl, empty⟩
  written := rfl
  bytes := rfl
  flushes := rfl
  errors := rfl

theorem gather (h : Served s taken bursts s') (o : Output) :
    Served s (taken ++ [o]) bursts (s'.gather o) where
  format := h.format
  waiting := by
    obtain ⟨waiting, all, buffer⟩ := h.waiting
    refine ⟨waiting ++ [o], by rw [all, List.append_assoc], ?_⟩
    show s'.buffer ++ s'.format.line o = _
    rw [buffer, h.format, List.flatMap_append, List.flatMap_singleton]
  written := by
    have count := h.written
    show s'.written + 1 = _
    rw [List.length_append, List.length_singleton, count, Nat.add_assoc]
  bytes := h.bytes
  flushes := h.flushes
  errors := h.errors

/-- All that waits becomes a burst. -/
theorem flush (h : Served s taken bursts s') (flushed : Flushed s' e s'' e') (i : ι) :
    (Served s taken bursts s'' ∧ e'.printed = e.printed) ∨
    ∃ b : Burst ι, b.owner = i ∧ b.cut = e.failure.map (·.room) ∧
      Served s taken (bursts ++ [b]) s'' ∧ e'.printed = e.printed ++ b.text s.format.line := by
  obtain ⟨waiting, all, buffer⟩ := h.waiting
  cases flushed with
  | nothing _ => exact .inl ⟨h, rfl⟩
  | printed works =>
      refine .inr ⟨⟨i, waiting, none⟩, rfl, by rw [works]; rfl, ?_, by rw [buffer]; rfl⟩
      exact {
        format := h.format
        waiting := ⟨[], by simpa using all, rfl⟩
        written := h.written
        bytes := by simp [h.bytes, buffer, Nat.add_assoc, List.filter_cons, Burst.isPrinted]
        flushes := by simp [h.flushes, Nat.add_assoc, Burst.isPrinted]
        errors := by simp [h.errors, Burst.isPrinted] }
  | @failed failure fails =>
      refine .inr ⟨⟨i, waiting, some failure.room⟩, rfl, by rw [fails]; rfl, ?_,
        by rw [buffer]; rfl⟩
      exact {
        format := h.format
        waiting := ⟨[], by simpa using all, rfl⟩
        written := h.written
        bytes := by simp [h.bytes, Burst.isPrinted]
        flushes := by simp [h.flushes, Burst.isPrinted]
        errors := by simp [h.errors, Nat.add_assoc, Burst.isPrinted] }

/-- A sink with an empty buffer has done with all that it took. -/
theorem all_of_empty (h : Served s taken bursts s') (empty : s'.buffer = []) :
    taken = bursts.flatMap Burst.outputs := by
  obtain ⟨waiting, all, buffer⟩ := h.waiting
  have none : waiting = [] := by
    cases waiting with
    | nil => rfl
    | cons o rest =>
        rw [empty, List.flatMap_cons] at buffer
        exact absurd (List.append_eq_nil_iff.mp buffer.symm).1 (s.format.line_ne_nil o)
  rw [all, none, List.append_nil]

end Served

end StdoutSink

/-- Sinks that print to one place. -/
structure Printers (ι : Type) where
  sinks : ι → StdoutSink
  environment : Environment

/-- What can happen to sinks that print to one place. What a sink does with an output is one thing,
since only the printing in it concerns others, and they wait for that. -/
inductive PrintEvent (ι : Type) where
  /-- A sink takes an output, and learns whether no more of them wait. -/
  | accept (i : ι) (o : Output) (isLast : Bool)
  /-- A run of a sink returns. -/
  | close (i : ι)
  /-- From now on printing fails in this way, or does not fail. -/
  | printing (failure : Option WriteFailure)
  /-- Time passes. -/
  | passing (nanoseconds : Nat)
deriving DecidableEq

def PrintEvent.arrival? {ι : Type} : PrintEvent ι → Option (ι × Output)
  | .accept i o _ => some (i, o)
  | .close _ | .printing _ | .passing _ => none

/-- The outputs that sinks take, in order. -/
def arrivals {ι : Type} (events : List (PrintEvent ι)) : List (ι × Output) :=
  events.filterMap PrintEvent.arrival?

theorem arrivals_append {ι : Type} (first second : List (PrintEvent ι)) :
    arrivals (first ++ second) = arrivals first ++ arrivals second :=
  List.filterMap_append

/-- A run of the sink has returned, and it has taken no output since. -/
def Returned {ι : Type} [DecidableEq ι] (i : ι) (events : List (PrintEvent ι)) : Prop :=
  ∃ before after, events = before ++ .close i :: after ∧ outputsOf i (arrivals after) = []

namespace Printers

/-- The lines of outputs, each as its sink renders it. -/
def lines {ι : Type} (p : Printers ι) (entries : List (ι × Output)) : Bytes :=
  entries.flatMap fun entry => (p.sinks entry.1).format.line entry.2

/-- What is printed of bursts, each with the lines of its sink. -/
def text {ι : Type} (p : Printers ι) (bursts : List (Burst ι)) : Bytes :=
  bursts.flatMap fun b => b.text (p.sinks b.owner).format.line

/-- Bursts that were not cut are printed as the lines of their outputs. -/
theorem text_of_isPrinted {ι : Type} {p : Printers ι} {bursts : List (Burst ι)}
    (whole : ∀ b ∈ bursts, b.isPrinted = true) :
    p.text bursts = p.lines (printedEntries bursts) := by
  rw [printedEntries, List.filter_eq_self.mpr whole, lines, text, List.flatMap_assoc]
  refine congrArg List.flatten (List.map_congr_left fun b member => ?_)
  have uncut : b.cut = none := Option.isNone_iff_eq_none.mp (whole b member)
  rw [Burst.text, uncut, Burst.entries, List.flatMap_map]

variable {ι : Type} [DecidableEq ι]

/-- What one of the sinks has come to, with the place around it, and the others as they were. -/
def put (p : Printers ι) (i : ι) (result : StdoutSink × Environment) : Printers ι where
  sinks := Function.update p.sinks i result.1
  environment := result.2

def gather (p : Printers ι) (i : ι) (o : Output) : Printers ι :=
  p.put i ((p.sinks i).gather o, p.environment)

def flush (p : Printers ι) (i : ι) : Printers ι := p.put i ((p.sinks i).flush p.environment)

def step (p : Printers ι) : PrintEvent ι → Printers ι
  | .accept i o isLast => p.put i ((p.sinks i).accept o isLast p.environment)
  | .close i => p.flush i
  | .printing failure => { p with environment := { p.environment with failure } }
  | .passing time =>
    { p with environment := { p.environment with now := p.environment.now + time } }

def run (p : Printers ι) (events : List (PrintEvent ι)) : Printers ι := events.foldl step p

/-- Printing fails in this way from the start, or from some time on. -/
def Meets (p : Printers ι) (events : List (PrintEvent ι)) (failure : WriteFailure) : Prop :=
  p.environment.failure = some failure ∨ .printing (some failure) ∈ events

variable {p q : Printers ι} {i j : ι} {entries : List (ι × Output)} {bursts : List (Burst ι)}

theorem run_concat (p : Printers ι) (events : List (PrintEvent ι)) (event : PrintEvent ι) :
    p.run (events ++ [event]) = (p.run events).step event := by
  rw [run, List.foldl_append]
  rfl

@[simp]
theorem sinks_put (p : Printers ι) (i : ι) (result : StdoutSink × Environment) :
    (p.put i result).sinks i = result.1 :=
  Function.update_self ..

@[simp]
theorem sinks_put_of_ne (result : StdoutSink × Environment) (other : j ≠ i) :
    (p.put i result).sinks j = p.sinks j :=
  Function.update_of_ne other ..

@[simp]
theorem put_put (p : Printers ι) (i : ι) (first second : StdoutSink × Environment) :
    (p.put i first).put i second = p.put i second := by
  simp [put]

/-- A sink that takes an output puts its line into the buffer, and may then print the buffer. -/
theorem step_accept (p : Printers ι) (i : ι) (o : Output) (isLast : Bool) :
    p.step (.accept i o isLast) = p.gather i o ∨
      p.step (.accept i o isLast) = (p.gather i o).flush i := by
  rw [step, StdoutSink.accept]
  split
  · right
    rw [flush, gather, put_put, sinks_put]
    rfl
  · left
    rfl

theorem flushed (p : Printers ι) (i : ι) :
    (p.sinks i).Flushed p.environment ((p.flush i).sinks i) (p.flush i).environment := by
  rw [flush, sinks_put]
  exact (p.sinks i).flushed p.environment

/-- What sinks have printed is their bursts, one after the other, each of them whole or up to where
printing failed. -/
structure Account (p : Printers ι) (entries : List (ι × Output)) (bursts : List (Burst ι))
    (q : Printers ι) : Prop where
  printed : q.environment.printed = p.environment.printed ++ p.text bursts
  served : ∀ i, (p.sinks i).Served (outputsOf i entries) (bursts.filter (·.owner = i)) (q.sinks i)

namespace Account

theorem start (fresh : ∀ i, (p.sinks i).buffer = []) : p.Account [] [] p where
  printed := (List.append_nil _).symm
  served := fun i => .start (fresh i)

theorem gather (h : p.Account entries bursts q) (i : ι) (o : Output) :
    p.Account (entries ++ [(i, o)]) bursts (q.gather i o) where
  printed := h.printed
  served := by
    intro j
    by_cases own : j = i
    · obtain rfl := own
      have taken : outputsOf j (entries ++ [(j, o)]) = outputsOf j entries ++ [o] := by
        simp [outputsOf]
      rw [taken, Printers.gather, sinks_put]
      exact (h.served j).gather o
    · have taken : outputsOf j (entries ++ [(i, o)]) = outputsOf j entries := by
        simp [outputsOf, Ne.symm own]
      rw [taken, Printers.gather, sinks_put_of_ne _ own]
      exact h.served j

theorem flush (h : p.Account entries bursts q) (i : ι) :
    ∃ more, p.Account entries (bursts ++ more) (q.flush i) ∧
      ∀ b ∈ more, b.cut = q.environment.failure.map (·.room) := by
  rcases (h.served i).flush (q.flushed i) i with ⟨served, same⟩ | ⟨b, own, cut, served, now⟩
  · refine ⟨[], ⟨?_, ?_⟩, nofun⟩
    · rw [same, List.append_nil, h.printed]
    · intro j
      rw [List.append_nil]
      by_cases own : j = i
      · exact own ▸ served
      · rw [Printers.flush, sinks_put_of_ne _ own]
        exact h.served j
  · subst own
    refine ⟨[b], ⟨?_, ?_⟩, by simpa using cut⟩
    · rw [now, h.printed, List.append_assoc, text, text, List.flatMap_append,
        List.flatMap_singleton]
    · intro j
      rw [List.filter_append]
      by_cases own : j = b.owner
      · obtain rfl := own
        simpa using served
      · rw [Printers.flush, sinks_put_of_ne _ own]
        simpa [Ne.symm own] using h.served j

/-- Whatever happens, it adds to the bursts, and they are cut only where printing fails. -/
theorem step (h : p.Account entries bursts q) (event : PrintEvent ι) :
    ∃ more, p.Account (entries ++ arrivals [event]) (bursts ++ more) (q.step event) ∧
      ∀ b ∈ more, b.cut = q.environment.failure.map (·.room) := by
  have unchanged : p.Account (entries ++ []) (bursts ++ []) q := by
    rw [List.append_nil, List.append_nil]
    exact h
  cases event with
  | accept i o isLast =>
      have gathered := h.gather i o
      rcases q.step_accept i o isLast with now | now
      · exact ⟨[], by rwa [now, List.append_nil], nofun⟩
      · rw [now]
        exact gathered.flush i
  | close i =>
      have taken : entries ++ arrivals [.close i] = entries := List.append_nil entries
      rw [taken]
      exact h.flush i
  | printing _ | passing _ => exact ⟨[], ⟨unchanged.printed, unchanged.served⟩, nofun⟩

end Account

/-- A failure begins with the event that says so, and lasts until another one comes. -/
theorem failure_step {event : PrintEvent ι} {failure : WriteFailure}
    (fails : (p.step event).environment.failure = some failure) :
    p.environment.failure = some failure ∨ event = .printing (some failure) := by
  cases event with
  | accept i o isLast =>
      rcases p.step_accept i o isLast with now | now
      · rw [now] at fails
        exact .inl fails
      · rw [now, ((p.gather i o).flushed i).failure] at fails
        exact .inl fails
  | close i => exact .inl ((p.flushed i).failure.symm.trans fails)
  | printing failure' => exact .inr (congrArg PrintEvent.printing fails)
  | passing _ => exact .inl fails

theorem meets_of_failure {events : List (PrintEvent ι)} {failure : WriteFailure}
    (fails : (p.run events).environment.failure = some failure) : p.Meets events failure := by
  induction events using List.reverseRecOn with
  | nil => exact .inl fails
  | append_singleton events event ih =>
      rw [run_concat] at fails
      rcases failure_step fails with before | rfl
      · exact (ih before).imp_right fun member => List.mem_append_left _ member
      · exact .inr (List.mem_append_right _ List.mem_cons_self)

theorem exists_account (fresh : ∀ i, (p.sinks i).buffer = []) (events : List (PrintEvent ι)) :
    ∃ bursts, p.Account (arrivals events) bursts (p.run events) ∧
      ∀ b ∈ bursts, ∀ room, b.cut = some room →
        ∃ failure, p.Meets events failure ∧ failure.room = room := by
  induction events using List.reverseRecOn with
  | nil => exact ⟨[], .start fresh, nofun⟩
  | append_singleton events event ih =>
      obtain ⟨bursts, account, before⟩ := ih
      obtain ⟨more, account, now⟩ := account.step event
      refine ⟨bursts ++ more, ?_, ?_⟩
      · rw [arrivals_append, run_concat]
        exact account
      · intro b member room cut
        rcases List.mem_append.mp member with earlier | last
        · obtain ⟨failure, meets, same⟩ := before b earlier room cut
          exact ⟨failure, meets.imp_right (List.mem_append_left _), same⟩
        · rw [now b last, Option.map_eq_some_iff] at cut
          obtain ⟨failure, fails, same⟩ := cut
          exact ⟨failure, (meets_of_failure fails).imp_right (List.mem_append_left _), same⟩

/-- A buffer stays empty as long as its sink takes no output. -/
theorem buffer_step {event : PrintEvent ι} (empty : (p.sinks i).buffer = [])
    (noOutput : outputsOf i (arrivals [event]) = []) : ((p.step event).sinks i).buffer = [] := by
  have flush_other (q : Printers ι) (j : ι) (empty : (q.sinks i).buffer = []) :
      ((q.flush j).sinks i).buffer = [] := by
    by_cases own : i = j
    · obtain rfl := own
      exact (q.flushed i).buffer
    · rwa [flush, sinks_put_of_ne _ own]
  cases event with
  | accept j o isLast =>
      have other : i ≠ j := by
        rintro rfl
        simp [arrivals, outputsOf, PrintEvent.arrival?] at noOutput
      have gathered : ((p.gather j o).sinks i).buffer = [] := by
        rwa [gather, sinks_put_of_ne _ other]
      rcases p.step_accept j o isLast with now | now
      · rwa [now]
      · rw [now]
        exact flush_other _ j gathered
  | close j => exact flush_other p j empty
  | printing _ | passing _ => exact empty

theorem buffer_of_returned {events : List (PrintEvent ι)} (returned : Returned i events) :
    ((p.run events).sinks i).buffer = [] := by
  obtain ⟨before, after, rfl, noOutput⟩ := returned
  induction after using List.reverseRecOn with
  | nil =>
      rw [run_concat]
      exact ((p.run before).flushed i).buffer
  | append_singleton after event ih =>
      rw [arrivals_append, outputsOf_append, List.append_eq_nil_iff] at noOutput
      rw [← List.cons_append, ← List.append_assoc, run_concat]
      exact buffer_step (ih noOutput.1) noOutput.2

namespace Account

/-- The lines that a sink has printed are in the order of its outputs. -/
theorem sublist (h : p.Account entries bursts q) (i : ι) :
    (outputsOf i (printedEntries bursts)).Sublist (outputsOf i entries) := by
  obtain ⟨waiting, all, _⟩ := (h.served i).waiting
  rw [outputsOf_printedEntries, all]
  exact (List.filter_sublist.flatMap Burst.outputs).trans (List.sublist_append_left ..)

/-- If no burst was lost, a sink with an empty buffer has printed all its outputs. -/
theorem all_printed (h : p.Account entries bursts q) (kept : ∀ b ∈ bursts, b.isPrinted = true)
    (empty : (q.sinks i).buffer = []) :
    outputsOf i (printedEntries bursts) = outputsOf i entries ∧
      (q.sinks i).bytes = (p.sinks i).bytes +
        ((outputsOf i entries).flatMap (p.sinks i).format.line).length := by
  have own : (bursts.filter (·.owner = i)).filter Burst.isPrinted = bursts.filter (·.owner = i) :=
    List.filter_eq_self.mpr fun b member => kept b (List.mem_filter.mp member).1
  have all := (h.served i).all_of_empty empty
  have bytes := (h.served i).bytes
  rw [own, ← all] at bytes
  rw [outputsOf_printedEntries, own]
  exact ⟨all.symm, bytes⟩

/-- Where only one sink takes outputs, its lines are all that is printed. -/
theorem printed_alone (h : p.Account entries bursts q) (kept : ∀ b ∈ bursts, b.isPrinted = true)
    (one : ∀ entry ∈ entries, entry.1 = i)
    (all : outputsOf i (printedEntries bursts) = outputsOf i entries) :
    q.environment.printed =
      p.environment.printed ++ (outputsOf i entries).flatMap (p.sinks i).format.line := by
  have alone : ∀ entry ∈ printedEntries bursts, entry.1 = i := by
    intro entry member
    exact one entry (mem_outputsOf.mp ((h.sublist entry.1).mem (mem_outputsOf.mpr member)))
  rw [h.printed, text_of_isPrinted kept, ← map_outputsOf alone, all, lines, List.flatMap_map]

end Account

/-- What happens in one run of a sink, over outputs that are all there from the start. -/
def oneRun (i : ι) : List Output → List (PrintEvent ι)
  | [] => [.close i]
  | o :: rest => .accept i o rest.isEmpty :: oneRun i rest

theorem sink_run_eq (p : Printers ι) (i : ι) (outputs : List Output) :
    Sink.run (.stdout (p.sinks i)) outputs p.environment =
      (.stdout ((p.run (oneRun i outputs)).sinks i), (p.run (oneRun i outputs)).environment,
        []) := by
  induction outputs generalizing p with
  | nil =>
      rw [oneRun, run, List.foldl_cons, List.foldl_nil, step, flush, sinks_put]
      rfl
  | cons o rest ih =>
      have next := ih (p.step (.accept i o rest.isEmpty))
      rw [step, sinks_put] at next
      rw [oneRun, run, List.foldl_cons, step]
      exact next

/-- Whenever sinks print, and in whatever order, what is printed is their bursts one after the
other, which are those of the outputs that the sinks took, each sink's in their order. A burst is
printed whole unless printing fails: then a first part of it is printed, the rest is lost, and the
sink counts an error. A sink whose run has returned has no line left. As long as printing does not
fail, what is printed consists of whole lines, all of those of a sink whose run has returned, and a
sink alone prints just its lines one after the other. A run over outputs that are there from the
start is one case of this. -/
theorem run_prints_lines (fresh : ∀ i, (p.sinks i).buffer = []) :
    (∀ events, ∃ bursts, p.Account (arrivals events) bursts (p.run events) ∧
      (∀ b ∈ bursts, ∀ room, b.cut = some room →
        ∃ failure, p.Meets events failure ∧ failure.room = room) ∧
      (∀ i, (outputsOf i (printedEntries bursts)).Sublist (outputsOf i (arrivals events))) ∧
      (∀ i, Returned i events → ((p.run events).sinks i).buffer = [] ∧
        outputsOf i (arrivals events) =
          (bursts.filter (·.owner = i)).flatMap Burst.outputs) ∧
      ((∀ failure, ¬ p.Meets events failure) →
        (∀ b ∈ bursts, b.isPrinted = true) ∧
        (p.run events).environment.printed =
          p.environment.printed ++ p.lines (printedEntries bursts) ∧
        ∀ i, Returned i events →
          outputsOf i (printedEntries bursts) = outputsOf i (arrivals events) ∧
          ((p.run events).sinks i).bytes = (p.sinks i).bytes +
            ((outputsOf i (arrivals events)).flatMap (p.sinks i).format.line).length ∧
          ((∀ entry ∈ arrivals events, entry.1 = i) →
            (p.run events).environment.printed = p.environment.printed ++
              (outputsOf i (arrivals events)).flatMap (p.sinks i).format.line))) ∧
    ∀ i outputs, Sink.run (.stdout (p.sinks i)) outputs p.environment =
      (.stdout ((p.run (oneRun i outputs)).sinks i), (p.run (oneRun i outputs)).environment,
        []) := by
  refine ⟨?_, p.sink_run_eq⟩
  intro events
  obtain ⟨bursts, account, cuts⟩ := exists_account fresh events
  refine ⟨bursts, account, cuts, account.sublist, ?_, ?_⟩
  · intro i returned
    have empty := buffer_of_returned (p := p) returned
    exact ⟨empty, (account.served i).all_of_empty empty⟩
  · intro works
    have kept : ∀ b ∈ bursts, b.isPrinted = true := by
      intro b member
      rw [Burst.isPrinted, Option.isNone_iff_eq_none, Option.eq_none_iff_forall_ne_some]
      intro room cut
      obtain ⟨failure, meets, _⟩ := cuts b member room cut
      exact works failure meets
    refine ⟨kept, account.printed.trans (by rw [text_of_isPrinted kept]), ?_⟩
    intro i returned
    obtain ⟨all, bytes⟩ := account.all_printed kept (buffer_of_returned returned)
    exact ⟨all, bytes, fun one => account.printed_alone kept one all⟩

/-- One sink for whole records and one for fields. -/
def couple : Printers Bool where
  sinks isRaw := { format := { mode := if isRaw then .raw else .fields, delimiter := [44] } }
  environment := {}

/-- The sink for records prints twice, the other one between. -/
def coupleEvents : List (PrintEvent Bool) := [
  .accept true { raw := some [97] } true,
  .accept true { raw := some [98] } false,
  .accept false { fields := [[99], [100]] } false,
  .close false,
  .accept true { raw := some [101] } false,
  .close true]

theorem couple_prints_lines : ∃ bursts,
    couple.Account (arrivals coupleEvents) bursts (couple.run coupleEvents) ∧
      (couple.run coupleEvents).environment.printed = [97, 10, 99, 44, 100, 10, 98, 10, 101, 10] ∧
      outputsOf true (printedEntries bursts) =
        [{ raw := some [97] }, { raw := some [98] }, { raw := some [101] }] ∧
      outputsOf false (printedEntries bursts) = [{ fields := [[99], [100]] }] ∧
      ((couple.run coupleEvents).sinks true).bytes = 6 := by
  have fresh : ∀ i, (couple.sinks i).buffer = [] := fun _ => rfl
  have works : ∀ failure, ¬ couple.Meets coupleEvents failure := by
    rintro failure (already | later)
    · cases already
    · simp [coupleEvents] at later
  obtain ⟨bursts, account, _, _, _, whole⟩ := (run_prints_lines fresh).1 coupleEvents
  obtain ⟨_, _, complete⟩ := whole works
  obtain ⟨records, bytes, _⟩ := complete true ⟨coupleEvents.dropLast, [], rfl, rfl⟩
  obtain ⟨fields, _, _⟩ := complete false ⟨coupleEvents.take 3, coupleEvents.drop 4, rfl, rfl⟩
  exact ⟨bursts, account, by decide, records.trans (by decide), fields.trans (by decide),
    bytes.trans (by decide)⟩

/-- A sink that has no room to print. -/
def cramped : Printers Unit where
  sinks _ := {}
  environment := { failure := some {} }

/-- There is room for one byte when the first sink prints, and more when the other one does. -/
def tornEvents : List (PrintEvent Bool) := [
  .printing (some { room := 1 }),
  .accept true { raw := some [97, 98] } true,
  .printing none,
  .accept false { fields := [[99], [100]] } true,
  .close true,
  .close false]

/-- Without room not all lines are printed: the only one is lost although the run returns, and only
the count of errors tells of it. With room for a part of a line that part is printed, and the line
of another sink comes right behind it: what is printed is no sequence of the lines of the outputs.
-/
theorem cramped_loses_line :
    (Returned () (oneRun () [{ raw := some [97] }]) ∧
      (cramped.run (oneRun () [{ raw := some [97] }])).environment.printed ≠
        cramped.environment.printed ++
          cramped.lines (arrivals (oneRun () [{ raw := some [97] }])) ∧
      ((cramped.run (oneRun () [{ raw := some [97] }])).sinks ()).stats =
        { processed := 1, errors := 1
          bag := .of [("bytes", .counter 0), ("flushes", .counter 0)] }) ∧
    (couple.run tornEvents).environment.printed = [97, 99, 44, 100, 10] ∧
    ∀ entries, (∀ entry ∈ entries, entry ∈ arrivals tornEvents) →
      (couple.run tornEvents).environment.printed ≠ couple.lines entries := by
  have torn : (couple.run tornEvents).environment.printed = [97, 99, 44, 100, 10] := by decide
  refine ⟨⟨⟨[.accept () { raw := some [97] } true], [], rfl, rfl⟩, by decide, rfl⟩, torn, ?_⟩
  intro entries taken same
  rw [torn] at same
  cases entries with
  | nil => cases same
  | cons entry rest =>
      have known : entry = (true, { raw := some [97, 98] }) ∨
          entry = (false, { fields := [[99], [100]] }) := by
        simpa [tornEvents, arrivals, PrintEvent.arrival?, eq_comm] using
          taken entry List.mem_cons_self
      rw [lines, List.flatMap_cons] at same
      -- The lines that could come first begin with other bytes than what is printed.
      rcases known with rfl | rfl
      · have line : (couple.sinks true).format.line { raw := some [97, 98] } =
          [97, 98, 10] := by decide
        rw [line] at same
        simp at same
      · have line : (couple.sinks false).format.line { fields := [[99], [100]] } =
          [99, 44, 100, 10] := by decide
        rw [line] at same
        simp at same

end Printers

end RecordPipeline
