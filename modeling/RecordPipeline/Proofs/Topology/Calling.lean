import RecordPipeline.Proofs.Topology.Lifecycle

/-!
A pipeline that is called by one alone, each call when the one before was answered. Such calls have
a history in which the threads run to their end while a call waits, so every list of calls comes to
an answer for each, and keeps to what holds of all histories.
-/

namespace RecordPipeline.Pipeline

variable {t : Topology} {h : List Happening} {p : Pipeline}

def Happening.call? : Happening → Option Call
  | .call c => some c
  | .flow _ | .waitEnds => none

/-- A call that is answered before anything else is asked. -/
def perform (p : Pipeline) : Call → Pipeline × Answer
  | .start =>
    match p.start with
    | .error e => (p, .error e)
    | .ok p => (p, .ok ())
  | .wait => p.wait
  | .stop => (p.stop, .ok ())

/-- Calls one after the other, with their answers. -/
def performAll (p : Pipeline) : List Call → Pipeline × List Answer
  | [] => (p, [])
  | c :: rest =>
    let (q, answer) := p.perform c
    let (q, answers) := q.performAll rest
    (q, answer :: answers)

/-- A pipeline between two calls. -/
structure Settled (t : Topology) (p : Pipeline) : Prop where
  topology : p.topology = t
  ready : p.state = .constructed ∨ p.state = .started → p.flow.Ready t
  returned : ∀ result, p.flow.sourceResult = some result → result = p.sourceResult

variable {origin : Pipeline} {answers : List Answer}

theorem allows_of_draining (draining : p.state = .draining) (e : FlowEvent) :
    p.allows e = true := by
  cases e <;> simp [allows, draining]

/-- While a pipeline drains, its threads go on as they like. -/
theorem Lives.flows {f g : Flow} (reaches : Flow.Reaches t f g) (lives : Lives origin h answers p)
    (draining : p.state = .draining) (topology : p.topology = t) (flow : p.flow = f) :
    ∃ es : List FlowEvent, Lives origin (h ++ es.map .flow) answers { p with flow := g } := by
  induction reaches generalizing h p with
  | refl f =>
      subst flow
      exact ⟨[], by simpa using lives⟩
  | @step f g _ e fired rest ih =>
      have occurs : p.occur (.flow e) = some ({ p with flow := g }, none) := by
        simp only [occur, allows_of_draining draining, if_true, topology, flow, fired,
          Option.map_some]
      have after : Lives origin (h ++ [.flow e]) answers { p with flow := g } := by
        simpa using lives.next occurs
      obtain ⟨es, later⟩ := ih after draining topology rfl
      exact ⟨e :: es, by simpa using later⟩

/-- A call that waits runs all threads to their end. -/
theorem Lives.wait (lives : Lives origin h answers p) (settled : Settled t p) (fits : t.Fits)
    (running : p.state = .started) :
    ∃ es : List FlowEvent, Lives origin (h ++ .call .wait :: (es.map .flow ++ [.waitEnds]))
      (answers ++ [p.wait.2]) p.wait.1 := by
  have begins : p.occur (.call .wait) = some ({ p with state := .draining }, none) := by
    simp only [occur, beginWait_of_started running]
  have begun : Lives origin (h ++ [.call .wait]) answers { p with state := .draining } := by
    simpa using lives.next begins
  obtain ⟨drained, _⟩ :=
    Flow.runToEnd_drained (settled.ready (.inr running)) fits p.temper p.sourceResult
  have reaches := Flow.reaches_runToEnd (t := t) p.temper p.sourceResult p.flow
  obtain ⟨es, gone⟩ := Lives.flows reaches begun rfl settled.topology rfl
  have ends : occur { p with state := .draining, flow := p.flow.runToEnd t p.temper p.sourceResult }
      .waitEnds = some (p.wait.1, some p.wait.2) := by
    simp only [occur, drained, and_self, if_true, Pipeline.wait, beginWait_of_started running,
      drain, settled.topology]
  have ended := gone.next ends
  exact ⟨es, by simpa using ended⟩

/-- Every call has a history, at the end of which it is answered. -/
theorem Lives.perform (lives : Lives origin h answers p) (settled : Settled t p) (fits : t.Fits)
    (c : Call) : ∃ h', Lives origin (h ++ h') (answers ++ [(p.perform c).2]) (p.perform c).1 ∧
      h'.filterMap Happening.call? = [c] := by
  cases c with
  | start =>
      have occurs : p.occur (.call .start) =
          some ((p.perform .start).1, some (p.perform .start).2) := by
        simp only [occur, Pipeline.perform]
        cases p.start <;> rfl
      exact ⟨[.call .start], lives.next occurs, rfl⟩
  | wait =>
      by_cases running : p.state = .started
      · obtain ⟨es, after⟩ := lives.wait settled fits running
        exact ⟨_, after, by simp [Happening.call?]⟩
      · have occurs : p.occur (.call .wait) = some (p.wait.1, some p.wait.2) := by
          simp only [occur, Pipeline.wait, beginWait_of_other running]
        exact ⟨[.call .wait], lives.next occurs, rfl⟩
  | stop =>
      have occurs : p.occur (.call .stop) = some (p.stop, some (.ok ())) := rfl
      exact ⟨[.call .stop], lives.next occurs, rfl⟩

namespace Settled

theorem new (t : Topology) (temper : Temper) (environment : Environment) :
    Settled t (Pipeline.new t temper environment) :=
  ⟨rfl, fun _ => Flow.Ready.ofTopology t [] environment, nofun⟩

theorem start (settled : Settled t p) : Settled t (p.perform .start).1 := by
  by_cases unstarted : p.state = .constructed
  · obtain ⟨source, sourceResult, feed, started⟩ := start_of_constructed unstarted
    simp only [perform, started]
    have begun := (settled.ready (.inl unstarted)).begin p.temper
    have none := begun.sourceResult
    rw [← settled.topology] at begun none ⊢
    exact ⟨rfl, fun _ => { begun with }, by simp [none]⟩
  · simp only [perform, start_of_late unstarted]
    exact settled

theorem wait (settled : Settled t p) (fits : t.Fits) : Settled t p.wait.1 := by
  by_cases running : p.state = .started
  · obtain ⟨_, returned⟩ :=
      Flow.runToEnd_drained (settled.ready (.inr running)) fits p.temper p.sourceResult
    simp only [Pipeline.wait, beginWait_of_started running]
    rw [← settled.topology] at returned ⊢
    refine ⟨rfl, by simp [drain, terminate], ?_⟩
    intro result returned'
    exact Option.some.inj (returned'.symm.trans returned)
  · simp only [Pipeline.wait, beginWait_of_other running]
    exact settled

theorem stop (settled : Settled t p) : Settled t p.stop := by
  unfold Pipeline.stop
  split
  · exact settled
  · exact ⟨settled.topology, fun early => { settled.ready early with }, settled.returned⟩

theorem perform (settled : Settled t p) (fits : t.Fits) (c : Call) : Settled t (p.perform c).1 := by
  cases c with
  | start => exact settled.start
  | wait => exact settled.wait fits
  | stop => exact settled.stop

end Settled

/-- Calls one after the other have a history, whatever they are. -/
theorem Lives.performAll (lives : Lives origin h answers p) (settled : Settled t p) (fits : t.Fits)
    (calls : List Call) :
    ∃ h', Lives origin (h ++ h') (answers ++ (p.performAll calls).2) (p.performAll calls).1 ∧
      h'.filterMap Happening.call? = calls ∧ Settled t (p.performAll calls).1 := by
  induction calls generalizing h answers p with
  | nil => exact ⟨[], by simpa [Pipeline.performAll] using lives, rfl, settled⟩
  | cons c rest ih =>
      obtain ⟨h', after, called⟩ := lives.perform settled fits c
      obtain ⟨h'', later, calls, settled'⟩ := ih after (settled.perform fits c)
      refine ⟨h' ++ h'', ?_, ?_, settled'⟩
      · simpa [Pipeline.performAll] using later
      · rw [List.filterMap_append, called, calls, List.singleton_append]

/-- Whatever is asked of a pipeline that was built, and in whatever order its threads go on, it
keeps to the protocol. Calls one after the other are all answered, and make such a history, in which
the source returns with the result that it has. -/
theorem follows_protocol {w : Wiring} (built : w.build = .ok t) (temper : Temper)
    (environment : Environment) :
    (∀ h answers p, Lives (.new t temper environment) h answers p → Protocol h p) ∧
      ∀ calls p answers, (Pipeline.new t temper environment).performAll calls = (p, answers) →
        ∃ h, Lives (.new t temper environment) h answers p ∧
          h.filterMap Happening.call? = calls ∧
          ∀ result, .flow (.sourceReturns result) ∈ h → result = p.sourceResult := by
  have fits := Wiring.build_fits built
  refine ⟨fun h answers p lives => lives.told.1.protocol lives.told.2, ?_⟩
  intro calls p answers performed
  obtain ⟨h, lives, called, settled⟩ :=
    Lives.performAll .origin (.new t temper environment) fits calls
  rw [performed] at lives settled
  refine ⟨h, lives, called, fun result returned => ?_⟩
  exact settled.returned result ((lives.told.1.returned result).mpr returned)

/-- A pipeline whose source sends one batch and fails. -/
def failingWiring : Wiring where
  source := .list {
    batches := [⟨[97, 10, 98, 10], none⟩], failure := some (.failed "disk vanished") }
  sinks := [.null {}]

def failingTopology : Topology where
  source := failingWiring.source
  sinks := [.null {}]
  uploader := .noop 0
  chain := { filters := [] }
  layout := .standard
  fields := .empty
  validator := none
  projection := ⟨[], .raw⟩
  dispatcher := .single
  inputQueueSize := 64
  sinkQueueSize := 10000
  uploadQueueSize := 64
  workers := 1

theorem failing_pipeline_follows_protocol :
    failingWiring.build = .ok failingTopology ∧
      ∃ h p, Lives (.new failingTopology {} {}) h
          [.error (.invalidState "wait for" .constructed), .ok (), .ok (),
            .error (.invalidState "start" .started), .ok (),
            .error (.source (.failed "disk vanished")),
            .error (.invalidState "wait for" .terminated)] p ∧
        Protocol h p ∧
        h.filterMap Happening.call? = [.wait, .start, .stop, .start, .stop, .wait, .wait] ∧
        .flow (.sourceReturns (.error (.failed "disk vanished"))) ∈ h ∧
        p.error = some (.failed "disk vanished") ∧ p.sourceStops = 1 ∧ p.uploaderStops = 1 := by
  have built : failingWiring.build = .ok failingTopology := rfl
  obtain ⟨obeys, recalls⟩ := follows_protocol built {} {}
  have outcome : ∃ p, (Pipeline.new failingTopology {} {}).performAll
      [.wait, .start, .stop, .start, .stop, .wait, .wait] = (p, _) ∧
      p.error = some (.failed "disk vanished") ∧ p.sourceStops = 1 ∧ p.uploaderStops = 1 :=
    ⟨_, rfl, rfl, rfl, rfl⟩
  obtain ⟨p, performed, failure, stops⟩ := outcome
  obtain ⟨h, lives, called, _⟩ := recalls _ p _ performed
  have protocol := obeys h _ p lives
  have ended : .waitEnds ∈ h := by
    by_contra lasts
    have unfailed := protocol.unfailed lasts
    rw [failure] at unfailed
    cases unfailed
  have returned := (protocol.failed ended _).mp failure
  exact ⟨built, h, p, lives, protocol, called, returned, failure, stops⟩

end RecordPipeline.Pipeline
