import RecordPipeline.Proofs.Topology.Scheduled

/-!
The life of a pipeline, whoever calls it and however its threads go on. It is started by the first
call that starts it, and the first that waits for it after that drains it. Every other such call is
refused and changes nothing. The first stop is passed on, and what the source has failed with is
told at the end and stays.
-/

namespace RecordPipeline

/-- The state that comes after a state. -/
def TopologyState.next? : TopologyState → Option TopologyState
  | .constructed => some .started
  | .started => some .draining
  | .draining => some .terminated
  | .terminated => none

/-- The source has returned with a result once it has been seen to return with it. -/
theorem Flow.Step.sourceResult_iff {t : Topology} {f g : Flow} {e : FlowEvent}
    (step : Step t f e g) (result : Except ComponentError Unit) :
    g.sourceResult = some result ↔ f.sourceResult = some result ∨ e = .sourceReturns result := by
  cases step with
  | sourceReturns running => simp [running]
  | _ => simp [setWorker, setSink, setQueue]

namespace Pipeline

/-- What those who hold a pipeline can ask of it. -/
inductive Call where
  | start
  | wait
  /-- The same from the pipeline and from any handle of it. -/
  | stop

abbrev Answer := Except TopologyError Unit

/-- What happens to a pipeline: a call, an event of its threads, or the end of the drain, which
answers the call that waits for it. The source may return with any result at any time; a panic is a
failure like others. -/
inductive Happening where
  | call (c : Call)
  | flow (e : FlowEvent)
  | waitEnds

/-- The threads of a pipeline run until it has ended. It drains when it is waited for. -/
def allows (p : Pipeline) : FlowEvent → Bool
  | .drain => p.state = .draining
  | _ => p.state = .started || p.state = .draining

/-- What becomes of the pipeline when something happens to it, and the answer that is given then. -/
def occur (p : Pipeline) : Happening → Option (Pipeline × Option Answer)
  | .call .start =>
    match p.start with
    | .error e => some (p, some (.error e))
    | .ok p => some (p, some (.ok ()))
  | .call .wait =>
    match p.beginWait with
    | .error e => some (p, some (.error e))
    | .ok p => some (p, none)
  | .call .stop => some (p.stop, some (.ok ()))
  | .flow e =>
    if p.allows e then (p.flow.fire p.topology e).map fun flow => ({ p with flow }, none) else none
  | .waitEnds =>
    if p.state = .draining ∧ p.flow.stage = .drained then
      some (p.terminate, some p.terminate.outcome)
    else none

/-- The histories of a pipeline, with the answers that were given. -/
inductive Lives (origin : Pipeline) : List Happening → List Answer → Pipeline → Prop where
  | origin : Lives origin [] [] origin
  | next {history : List Happening} {answers : List Answer} {p q : Pipeline} {e : Happening}
      {answer : Option Answer} (before : Lives origin history answers p)
      (occurs : p.occur e = some (q, answer)) :
      Lives origin (history ++ [e]) (answers ++ answer.toList) q

/-- What has happened since the first call to start. -/
def sinceStart : List Happening → List Happening
  | [] => []
  | .call .start :: rest => rest
  | _ :: rest => sinceStart rest

variable {h : List Happening} {e : Happening}

/-- A call that waits would be the first one after the first call to start. -/
def WaitsFirst (h : List Happening) : Prop := .call .start ∈ h ∧ .call .wait ∉ sinceStart h

theorem sinceStart_concat_of_mem (started : .call .start ∈ h) :
    sinceStart (h ++ [e]) = sinceStart h ++ [e] := by
  induction h with
  | nil => cases started
  | cons first rest ih =>
      cases first with
      | call c =>
          cases c with
          | start => rfl
          | wait | stop => exact ih (by simpa using started)
      | flow _ | waitEnds => exact ih (by simpa using started)

theorem sinceStart_concat_of_not_mem (unstarted : .call .start ∉ h) :
    sinceStart (h ++ [e]) = [] := by
  induction h with
  | nil =>
      cases e with
      | call c => cases c <;> rfl
      | flow _ | waitEnds => rfl
  | cons first rest ih =>
      obtain ⟨other, later⟩ := not_or.mp (mt List.mem_cons.mpr unstarted)
      cases first with
      | call c =>
          cases c with
          | start => exact absurd rfl other
          | wait | stop => exact ih later
      | flow _ | waitEnds => exact ih later

/-- What a history tells of the pipeline. -/
structure Told (h : List Happening) (p : Pipeline) : Prop where
  constructed : p.state = .constructed ↔ .call .start ∉ h
  started : p.state = .started ↔ WaitsFirst h
  terminated : p.state = .terminated ↔ .waitEnds ∈ h
  stopped : p.isStopped = true ↔ .call .stop ∈ h
  returned : ∀ result,
    p.flow.sourceResult = some result ↔ .flow (.sourceReturns result) ∈ h

/-- What holds of a pipeline at any time. -/
structure Sound (t : Topology) (p : Pipeline) : Prop where
  topology : p.topology = t
  sourceStops : p.sourceStops = p.isStopped.toNat
  uploaderStops : p.uploaderStops = p.isStopped.toNat
  ready : p.state = .constructed → p.flow.Ready t
  draining : Flow.Draining t p.flow
  drained : p.state = .terminated → p.flow.stage = .drained
  error : p.error = if p.state = .terminated then p.flow.error else none

variable {t : Topology} {p q : Pipeline} {answer : Option Answer}

theorem waitsFirst_concat_iff (other : e ≠ .call .start) :
    WaitsFirst (h ++ [e]) ↔ WaitsFirst h ∧ e ≠ .call .wait := by
  by_cases started : .call .start ∈ h
  · simp [WaitsFirst, sinceStart_concat_of_mem started, started, eq_comm]
  · simp [WaitsFirst, started, other.symm]

theorem stop_keeps (p : Pipeline) : p.stop.state = p.state ∧ p.stop.error = p.error ∧
    p.stop.flow.sourceResult = p.flow.sourceResult := by
  unfold Pipeline.stop
  split
  · exact ⟨rfl, rfl, rfl⟩
  · exact ⟨rfl, rfl, rfl⟩

theorem isStopped_stop (p : Pipeline) : p.stop.isStopped = true := by
  unfold Pipeline.stop
  split
  · rename_i stopped
    exact stopped
  · rfl

namespace Told

theorem start (told : Told h p) (unstarted : p.state = .constructed) (state : q.state = .started)
    (isStopped : q.isStopped = p.isStopped)
    (sourceResult : q.flow.sourceResult = p.flow.sourceResult) :
    Told (h ++ [.call .start]) q := by
  have unstarted' := told.constructed.mp unstarted
  have lasts : .waitEnds ∉ h := by simp [← told.terminated, unstarted]
  refine ⟨?_, ?_, ?_, ?_, ?_⟩
  · simp [state]
  · simp [state, WaitsFirst, sinceStart_concat_of_not_mem unstarted']
  · simp [state, lasts]
  · simp [isStopped, told.stopped]
  · simp [sourceResult, told.returned]

theorem refuseStart (told : Told h p) (late : p.state ≠ .constructed) :
    Told (h ++ [.call .start]) p := by
  have started : .call .start ∈ h := by
    by_contra unstarted
    exact late (told.constructed.mpr unstarted)
  refine ⟨?_, ?_, ?_, ?_, ?_⟩
  · simp [late]
  · simp [told.started, WaitsFirst, sinceStart_concat_of_mem started, started]
  · simp [told.terminated]
  · simp [told.stopped]
  · simp [told.returned]

theorem wait (told : Told h p) (running : p.state = .started) (state : q.state = .draining)
    (isStopped : q.isStopped = p.isStopped)
    (sourceResult : q.flow.sourceResult = p.flow.sourceResult) :
    Told (h ++ [.call .wait]) q := by
  have started := (told.started.mp running).1
  have lasts : .waitEnds ∉ h := by simp [← told.terminated, running]
  refine ⟨?_, ?_, ?_, ?_, ?_⟩
  · simp [state, started]
  · simp [state, waitsFirst_concat_iff]
  · simp [state, lasts]
  · simp [isStopped, told.stopped]
  · simp [sourceResult, told.returned]

theorem refuseWait (told : Told h p) (other : p.state ≠ .started) :
    Told (h ++ [.call .wait]) p := by
  refine ⟨?_, ?_, ?_, ?_, ?_⟩
  · simp [told.constructed]
  · simp [other, waitsFirst_concat_iff]
  · simp [told.terminated]
  · simp [told.stopped]
  · simp [told.returned]

theorem stop (told : Told h p) : Told (h ++ [.call .stop]) p.stop := by
  obtain ⟨state, _, sourceResult⟩ := stop_keeps p
  refine ⟨?_, ?_, ?_, ?_, ?_⟩
  · simp [state, told.constructed]
  · simp [state, told.started, waitsFirst_concat_iff]
  · simp [state, told.terminated]
  · simp [isStopped_stop]
  · simp [sourceResult, told.returned]

theorem flow (told : Told h p) {e : FlowEvent} {g : Flow} (step : Flow.Step t p.flow e g) :
    Told (h ++ [.flow e]) { p with flow := g } := by
  refine ⟨?_, ?_, ?_, ?_, ?_⟩
  · simp [told.constructed]
  · simp [told.started, waitsFirst_concat_iff]
  · simp [told.terminated]
  · simp [told.stopped]
  · simp [told.returned, step.sourceResult_iff, eq_comm]

theorem waitEnds (told : Told h p) (draining : p.state = .draining) :
    Told (h ++ [.waitEnds]) p.terminate := by
  have started : .call .start ∈ h := by
    by_contra unstarted
    have constructed := told.constructed.mpr unstarted
    rw [draining] at constructed
    cases constructed
  have waited : ¬ WaitsFirst h := by simp [← told.started, draining]
  refine ⟨?_, ?_, ?_, ?_, ?_⟩
  · simp [terminate, started]
  · simp [terminate, waitsFirst_concat_iff, waited]
  · simp [terminate]
  · simp [terminate, told.stopped]
  · simp [terminate, told.returned]

end Told

theorem start_of_constructed (unstarted : p.state = .constructed) :
    ∃ source sourceResult feed, p.start = .ok { p with
      state := .started, source, sourceResult
      flow := { p.flow.begin p.topology p.temper with feed } } := by
  rw [Pipeline.start, if_neg (not_not_intro unstarted)]
  exact ⟨_, _, _, rfl⟩

theorem start_of_late (late : p.state ≠ .constructed) :
    p.start = .error (.invalidState "start" p.state) := by
  rw [Pipeline.start, if_pos late]

theorem beginWait_of_started (running : p.state = .started) :
    p.beginWait = .ok { p with state := .draining } := by
  rw [beginWait, if_neg (not_not_intro running)]

theorem beginWait_of_other (other : p.state ≠ .started) :
    p.beginWait = .error (.invalidState "wait for" p.state) := by
  rw [beginWait, if_pos other]

/-- Events happen between the start and the end. -/
theorem running_of_allows {e : FlowEvent} (allowed : p.allows e = true) :
    p.state = .started ∨ p.state = .draining := by
  cases e with
  | drain => exact .inr (by simpa [allows] using allowed)
  | _ => simpa [allows] using allowed

/-- What can happen to a pipeline, and what becomes of it. -/
inductive Step (p : Pipeline) : Happening → Pipeline → Option Answer → Prop where
  | start (unstarted : p.state = .constructed) (source : Source)
      (sourceResult : Except ComponentError Unit) (feed : List Batch) :
      Step p (.call .start) { p with
        state := .started, source, sourceResult
        flow := { p.flow.begin p.topology p.temper with feed } } (some (.ok ()))
  | refuseStart (late : p.state ≠ .constructed) :
      Step p (.call .start) p (some (.error (.invalidState "start" p.state)))
  | wait (running : p.state = .started) :
      Step p (.call .wait) { p with state := .draining } none
  | refuseWait (other : p.state ≠ .started) :
      Step p (.call .wait) p (some (.error (.invalidState "wait for" p.state)))
  | stop : Step p (.call .stop) p.stop (some (.ok ()))
  | flow (running : p.state = .started ∨ p.state = .draining) {e : FlowEvent} {g : Flow}
      (step : Flow.Step p.topology p.flow e g) : Step p (.flow e) { p with flow := g } none
  | waitEnds (draining : p.state = .draining) (drained : p.flow.stage = .drained) :
      Step p .waitEnds p.terminate (some p.terminate.outcome)

theorem step_of_occur (occurs : p.occur e = some (q, answer)) : Step p e q answer := by
  cases e with
  | call c =>
      cases c with
      | start =>
          by_cases unstarted : p.state = .constructed
          · obtain ⟨source, sourceResult, feed, started⟩ := start_of_constructed unstarted
            simp only [occur, started] at occurs
            cases occurs
            exact .start unstarted source sourceResult feed
          · simp only [occur, start_of_late unstarted] at occurs
            cases occurs
            exact .refuseStart unstarted
      | wait =>
          by_cases running : p.state = .started
          · simp only [occur, beginWait_of_started running] at occurs
            cases occurs
            exact .wait running
          · simp only [occur, beginWait_of_other running] at occurs
            cases occurs
            exact .refuseWait running
      | stop =>
          cases occurs
          exact .stop
  | flow e =>
      simp only [occur, Option.ite_none_right_eq_some, Option.map_eq_some_iff] at occurs
      obtain ⟨allowed, g, fired, same⟩ := occurs
      cases same
      exact .flow (running_of_allows allowed) (Flow.step_of_fire fired)
  | waitEnds =>
      simp only [occur, Option.ite_none_right_eq_some] at occurs
      obtain ⟨⟨draining, drained⟩, same⟩ := occurs
      cases same
      exact .waitEnds draining drained

namespace Sound

theorem new (t : Topology) (temper : Temper) (environment : Environment) :
    Sound t (Pipeline.new t temper environment) := by
  have ready := Flow.Ready.ofTopology t [] environment
  exact ⟨rfl, rfl, rfl, fun _ => ready, ready.draining, nofun, rfl⟩

theorem stop (sound : Sound t p) : Sound t p.stop := by
  unfold Pipeline.stop
  split
  · exact sound
  · rename_i running
    have unstopped := eq_false_of_ne_true running
    refine { sound with sourceStops := ?_, uploaderStops := ?_, ready := ?_, draining := ?_ }
    · simp [sound.sourceStops, unstopped]
    · simp [sound.uploaderStops, unstopped]
    · exact fun unstarted => { sound.ready unstarted with }
    · exact { sound.draining with }

theorem start (sound : Sound t p) (unstarted : p.state = .constructed) (source : Source)
    (sourceResult : Except ComponentError Unit) (feed : List Batch) :
    Sound t { p with
      state := .started, source, sourceResult
      flow := { p.flow.begin p.topology p.temper with feed } } := by
  have begun := (sound.ready unstarted).begin p.temper
  have error : p.error = none := by rw [sound.error, unstarted]; rfl
  rw [← sound.topology] at begun ⊢
  exact ⟨rfl, sound.sourceStops, sound.uploaderStops, nofun, { begun.draining with }, nofun,
    error⟩

theorem wait (sound : Sound t p) (running : p.state = .started) :
    Sound t { p with state := .draining } := by
  have error : p.error = none := by rw [sound.error, running]; rfl
  exact { sound with ready := nofun, drained := nofun, error }

theorem flow (sound : Sound t p) (running : p.state = .started ∨ p.state = .draining)
    {e : FlowEvent} {g : Flow} (step : Flow.Step t p.flow e g) :
    Sound t { p with flow := g } := by
  have unfinished : p.state ≠ .constructed ∧ p.state ≠ .terminated := by
    rcases running with state | state
    · simp [state]
    · simp [state]
  have error := sound.error
  rw [if_neg unfinished.2] at error
  refine { sound with
    ready := ?_, draining := sound.draining.step step, drained := ?_, error := ?_ }
  · exact fun state => absurd state unfinished.1
  · exact fun state => absurd state unfinished.2
  · exact error.trans (if_neg unfinished.2).symm

theorem waitEnds (sound : Sound t p) (drained : p.flow.stage = .drained) : Sound t p.terminate :=
  { sound with ready := nofun, drained := fun _ => drained, error := rfl }

end Sound

/-- Whatever happens is known afterwards. -/
theorem Told.step (told : Told h p) (sound : Sound t p) (step : Step p e q answer) :
    Told (h ++ [e]) q := by
  cases step with
  | start unstarted source sourceResult feed =>
      have ready := sound.ready unstarted
      rw [← sound.topology] at ready
      have same := (ready.begin p.temper).sourceResult.trans ready.sourceResult.symm
      exact told.start unstarted rfl rfl same
  | refuseStart late => exact told.refuseStart late
  | wait running => exact told.wait running rfl rfl rfl
  | refuseWait other => exact told.refuseWait other
  | stop => exact told.stop
  | flow running step => exact told.flow step
  | waitEnds draining drained => exact told.waitEnds draining

theorem Sound.step (sound : Sound t p) (step : Step p e q answer) : Sound t q := by
  cases step with
  | start unstarted source sourceResult feed => exact sound.start unstarted source sourceResult feed
  | refuseStart late => exact sound
  | wait running => exact sound.wait running
  | refuseWait other => exact sound
  | stop => exact sound.stop
  | flow running step => exact sound.flow running (sound.topology ▸ step)
  | waitEnds draining drained => exact sound.waitEnds drained

/-- Every history tells of its pipeline. -/
theorem Lives.told {temper : Temper} {environment : Environment} {answers : List Answer}
    (lives : Lives (.new t temper environment) h answers p) : Told h p ∧ Sound t p := by
  induction lives with
  | origin =>
      have told : Told [] (.new t temper environment) := by
        refine ⟨?_, ?_, ?_, ?_, ?_⟩ <;> simp [Pipeline.new, WaitsFirst, Flow.ofTopology]
      exact ⟨told, .new t temper environment⟩
  | next _ occurs ih =>
      have step := step_of_occur occurs
      exact ⟨ih.1.step ih.2 step, ih.2.step step⟩

/-- What a pipeline with a history does next, and what can be seen of it. -/
structure Protocol (h : List Happening) (p : Pipeline) : Prop where
  /-- The state goes its way step by step. -/
  inOrder : ∀ e q answer, p.occur e = some (q, answer) →
    q.state = p.state ∨ p.state.next? = some q.state
  firstStart : .call .start ∉ h →
    ∃ q, p.occur (.call .start) = some (q, some (.ok ())) ∧ q.state = .started
  laterStart : .call .start ∈ h →
    p.occur (.call .start) = some (p, some (.error (.invalidState "start" p.state)))
  /-- The drain begins. The call is answered when the drain ends. -/
  firstWait : WaitsFirst h →
    ∃ q, p.occur (.call .wait) = some (q, none) ∧ q.state = .draining
  otherWait : ¬ WaitsFirst h →
    p.occur (.call .wait) = some (p, some (.error (.invalidState "wait for" p.state)))
  unstopped : .call .stop ∉ h → p.sourceStops = 0 ∧ p.uploaderStops = 0
  /-- The source and the uploader are told to stop once. -/
  stopped : .call .stop ∈ h → p.sourceStops = 1 ∧ p.uploaderStops = 1 ∧
    p.occur (.call .stop) = some (p, some (.ok ()))
  /-- The drain ends once, and its answer is the error that stays. -/
  ends : ∀ q answer, p.occur .waitEnds = some (q, answer) → .waitEnds ∉ h ∧
    (∀ e, q.error = some e ↔ .flow (.sourceReturns (.error e)) ∈ h) ∧
    (∀ e, answer = some (.error (.source e)) ↔ q.error = some e) ∧
    (answer = some (.ok ()) ↔ q.error = none)
  /-- At the end everybody has returned. -/
  ended : .waitEnds ∈ h → p.state = .terminated ∧
    (∃ result, .flow (.sourceReturns result) ∈ h) ∧ (∀ w ∈ p.flow.workers, w = .returned) ∧
    (∀ s ∈ p.flow.sinks, s.hasReturned = true) ∧ p.flow.uploaderReturned = true
  unfailed : .waitEnds ∉ h → p.error = none
  failed : .waitEnds ∈ h → ∀ e, p.error = some e ↔ .flow (.sourceReturns (.error e)) ∈ h
  sticky : .waitEnds ∈ h → ∀ e q answer, p.occur e = some (q, answer) → q.error = p.error

theorem outcome_eq_error_iff {e : ComponentError} :
    p.outcome = .error (.source e) ↔ p.error = some e := by
  unfold outcome
  cases p.error <;> simp

theorem outcome_eq_ok_iff : p.outcome = .ok () ↔ p.error = none := by
  unfold outcome
  cases p.error <;> simp

/-- The drain comes upon a failure just when the source has returned with it. -/
theorem Told.error_iff (told : Told h p) (sound : Sound t p) (drained : p.flow.stage = .drained)
    (e : ComponentError) : p.flow.error = some e ↔ .flow (.sourceReturns (.error e)) ∈ h := by
  have closed : p.flow.isInputClosed = true := by simp [Flow.isInputClosed, drained]
  rw [← told.returned, sound.draining.error, if_pos closed]
  cases p.flow.sourceResult with
  | none => simp
  | some result => cases result <;> simp [ComponentError.of?]

theorem Told.protocol (told : Told h p) (sound : Sound t p) : Protocol h p where
  inOrder := by
    intro e q answer occurs
    cases step_of_occur occurs with
    | start unstarted => exact .inr (unstarted ▸ rfl)
    | refuseStart | refuseWait => exact .inl rfl
    | wait running => exact .inr (running ▸ rfl)
    | stop => exact .inl (stop_keeps p).1
    | flow => exact .inl rfl
    | waitEnds draining => exact .inr (draining ▸ rfl)
  firstStart := by
    intro unstarted
    obtain ⟨source, sourceResult, feed, started⟩ :=
      start_of_constructed (told.constructed.mpr unstarted)
    simp only [occur, started]
    exact ⟨_, rfl, rfl⟩
  laterStart := by
    intro started
    have late : p.state ≠ .constructed := mt told.constructed.mp (not_not_intro started)
    simp only [occur, start_of_late late]
  firstWait := by
    intro first
    simp only [occur, beginWait_of_started (told.started.mpr first)]
    exact ⟨_, rfl, rfl⟩
  otherWait := by
    intro other
    simp only [occur, beginWait_of_other (mt told.started.mp other)]
  unstopped := by
    intro unstopped
    have running : p.isStopped = false := eq_false_of_ne_true (mt told.stopped.mp unstopped)
    rw [sound.sourceStops, sound.uploaderStops, running]
    exact ⟨rfl, rfl⟩
  stopped := by
    intro stopped
    have stopped := told.stopped.mpr stopped
    refine ⟨?_, ?_, ?_⟩
    · rw [sound.sourceStops, stopped, Bool.toNat_true]
    · rw [sound.uploaderStops, stopped, Bool.toNat_true]
    · simp only [occur, Pipeline.stop, if_pos stopped]
  ends := by
    intro q answer occurs
    cases step_of_occur occurs with
    | waitEnds draining drained =>
        have lasts : .waitEnds ∉ h := by simp [← told.terminated, draining]
        have failed := told.error_iff sound drained
        refine ⟨lasts, failed, ?_, ?_⟩
        · intro e
          rw [Option.some.injEq, outcome_eq_error_iff]
        · rw [Option.some.injEq, outcome_eq_ok_iff]
  ended := by
    intro ended
    have state := told.terminated.mpr ended
    obtain ⟨source, others⟩ := sound.draining.closesInOrder.drained (sound.drained state)
    obtain ⟨result, returned⟩ := Option.isSome_iff_exists.mp source
    exact ⟨state, ⟨result, (told.returned result).mp returned⟩, others⟩
  unfailed := by
    intro lasts
    rw [sound.error, if_neg (mt told.terminated.mp lasts)]
  failed := by
    intro ended e
    have state := told.terminated.mpr ended
    rw [sound.error, if_pos state]
    exact told.error_iff sound (sound.drained state) e
  sticky := by
    intro ended e q answer occurs
    have state := told.terminated.mpr ended
    cases step_of_occur occurs with
    | start | refuseStart | wait | refuseWait | flow => rfl
    | stop => exact (stop_keeps p).2.1
    | waitEnds draining =>
        rw [state] at draining
        cases draining

end Pipeline

end RecordPipeline
