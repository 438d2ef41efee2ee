import RecordPipeline.Proofs.Topology.Progress

/-!
What happens while the workers and the source stand still. Sinks read their queues, and the uploader
takes up what they announce, or nobody does when it has returned. A sink that is served until its
queue is empty keeps nothing for itself.
-/

namespace RecordPipeline

/-- What sinks and the uploader do while the workers and the source stand still. -/
def FlowEvent.IsReading : FlowEvent → Prop
  | .receive _ | .announce _ | .upload => True
  | _ => False

theorem Uploader.isStopped_accept (u : Uploader) (fs : FileSystem) (request : UploadRequest)
    (turn : MoveTurn) : (u.accept fs request turn).1.isStopped = u.isStopped := by
  cases u with
  | noop received => rfl
  | move u =>
      simp only [accept, isStopped, MoveUploader.accept]
      split
      · rfl
      · split
        · rfl
        · rfl

namespace Flow

/-- Events of one kind lead from one flow to another. -/
inductive Via (t : Topology) (kind : FlowEvent → Prop) (f : Flow) : Flow → Prop where
  | refl : Via t kind f f
  | snoc {g h : Flow} {e : FlowEvent} (before : Via t kind f g) (ofKind : kind e)
      (fired : g.fire t e = some h) : Via t kind f h

variable {t : Topology} {f g h : Flow} {kind : FlowEvent → Prop}

namespace Via

theorem trans (first : Via t kind f g) (second : Via t kind g h) : Via t kind f h := by
  induction second with
  | refl => exact first
  | snoc _ ofKind fired ih => exact ih.snoc ofKind fired

theorem any (via : Via t kind f g) : Via t (fun _ => True) f g := by
  induction via with
  | refl => exact .refl
  | snoc _ _ fired ih => exact ih.snoc trivial fired

theorem reaches (via : Via t kind f g) : Reaches t f g := by
  induction via with
  | refl => exact .refl f
  | snoc _ _ fired ih => exact ih.snoc fired

/-- An event that cannot happen changes nothing. -/
theorem fired {e : FlowEvent} (ofKind : kind e) (f : Flow) : Via t kind f (f.fired t e) := by
  unfold Flow.fired
  cases outcome : f.fire t e with
  | none => exact .refl
  | some g => exact Via.refl.snoc ofKind outcome

theorem foldl {ι : Type} {step : Flow → ι → Flow} (items : List ι)
    (each : ∀ i ∈ items, ∀ f, Via t kind f (step f i)) (f : Flow) :
    Via t kind f (items.foldl step f) := by
  induction items generalizing f with
  | nil => exact .refl
  | cons i rest ih =>
      obtain ⟨first, later⟩ := List.forall_mem_cons.mp each
      exact (first f).trans (ih later (step f i))

theorem firedAll {es : List FlowEvent} (ofKind : ∀ e ∈ es, kind e) (f : Flow) :
    Via t kind f (f.firedAll t es) :=
  foldl es (fun e member f => fired (ofKind e member) f) f

end Via

/-- What stays as it is, and what can only become less, while sinks and the uploader read. -/
structure Aside (f g : Flow) : Prop where
  feed : g.feed = f.feed
  sourceResult : g.sourceResult = f.sourceResult
  input : g.input = f.input
  workers : g.workers = f.workers
  stage : g.stage = f.stage
  uploaderReturned : g.uploaderReturned = f.uploaderReturned
  isStopped : g.uploader.isStopped = f.uploader.isStopped
  returned : g.sinks.map (·.hasReturned) = f.sinks.map (·.hasReturned)
  queues : ∀ queue, g.queues.getD queue [] <:+ f.queues.getD queue []

namespace Aside

theorem refl (f : Flow) : Aside f f :=
  ⟨rfl, rfl, rfl, rfl, rfl, rfl, rfl, rfl, fun _ => List.suffix_rfl⟩

theorem trans (first : Aside f g) (second : Aside g h) : Aside f h where
  feed := second.feed.trans first.feed
  sourceResult := second.sourceResult.trans first.sourceResult
  input := second.input.trans first.input
  workers := second.workers.trans first.workers
  stage := second.stage.trans first.stage
  uploaderReturned := second.uploaderReturned.trans first.uploaderReturned
  isStopped := second.isStopped.trans first.isStopped
  returned := second.returned.trans first.returned
  queues := fun queue => (second.queues queue).trans (first.queues queue)

theorem setSink (f : Flow) {i : Nat} {s : SinkWorker} (found : f.sinks[i]? = some s)
    (s' : SinkWorker) (same : s'.hasReturned = s.hasReturned) : Aside f (f.setSink i s') := by
  refine { refl f with returned := ?_ }
  have value := congrArg (Option.map SinkWorker.hasReturned) found
  rw [← List.getElem?_map, Option.map_some, ← same] at value
  obtain ⟨_, value⟩ := List.getElem?_eq_some_iff.mp value
  rw [Flow.setSink, List.map_set, ← value]
  exact List.set_getElem_self _

theorem setQueue (f : Flow) {i : Nat} {o : Output} {rest : List Output}
    (found : f.queues.getD i [] = o :: rest) : Aside f (f.setQueue i rest) := by
  refine { refl f with queues := ?_ }
  intro queue
  rcases eq_or_ne i queue with rfl | other
  · rw [found, getD_setQueue_self (lt_of_getD_eq_cons found)]
    exact List.suffix_cons o rest
  · have kept := getD_setQueue_of_ne (f := f) (q := rest) other.symm
    exact kept ▸ List.suffix_rfl

theorem step {e : FlowEvent} (reading : e.IsReading) (step : Step t f e g) : Aside f g := by
  cases step with
  | @receive i s o rest found queue running announced =>
      have read := setSink f found (s.accept o rest.isEmpty f.environment) rfl
      exact { read.trans (setQueue _ queue) with }
  | @announce i s request outbox found pending running read room =>
      exact { setSink f found { s with outbox } rfl with }
  | forget found pending running unread => exact setSink f found _ rfl
  | upload pending running heedless =>
      exact { refl f with isStopped := Uploader.isStopped_accept _ _ _ _ }
  | send | sourceReturns | take | processLine | lose | deliver | wait | release | workerReturns
  | close | sinkReturns | uploaderReturns | drain | joinSource | joinFailedSource | joinWorkers
  | joinSinks | joinUploader => exact reading.elim

end Aside

theorem Via.aside (via : Via t FlowEvent.IsReading f g) : Aside f g := by
  induction via with
  | refl => exact .refl f
  | snoc _ reading fired ih => exact ih.trans (.step reading (step_of_fire fired))

theorem handOver_via (i : Nat) (f : Flow) : Via t FlowEvent.IsReading f (f.handOver t i) := by
  apply Via.foldl
  intro es member f
  rw [List.eq_of_mem_replicate member]
  exact Via.firedAll (by simp [FlowEvent.IsReading]) f

/-- A sink receives an output and hands over what it has finished with it. -/
theorem read_via (i : Nat) (f : Flow) :
    Via t FlowEvent.IsReading f ((f.fired t (.receive i)).handOver t i) :=
  (Via.fired trivial f).trans (handOver_via i _)

theorem serve_via (f : Flow) (i : Nat) : Via t FlowEvent.IsReading f (f.serve t i) :=
  Via.foldl _ (fun _ _ f => read_via i f) f

theorem serveAll_via (sinks : List Nat) (f : Flow) :
    Via t FlowEvent.IsReading f (f.serveAll t sinks) :=
  Via.foldl sinks (fun i _ f => serve_via f i) f

/-- The uploader takes up requests, or nobody minds them. -/
def Heeded (f : Flow) : Prop := f.uploaderReturned = true ∨ f.uploader.isStopped = false

theorem Aside.heeded (aside : Aside f g) (heeded : f.Heeded) : g.Heeded := by
  rw [Heeded, aside.uploaderReturned, aside.isStopped]
  exact heeded

/-- No request is on its way to the uploader, and the next will not stay on the way. -/
structure Calm (f : Flow) : Prop where
  uploads : f.uploads = []
  outboxes : ∀ (i : Nat) (s : SinkWorker), f.sinks[i]? = some s → s.outbox = []
  heeded : f.Heeded

/-- A sink that has not returned. -/
def IsRunning (f : Flow) (i : Nat) : Prop := ∃ s, f.sinks[i]? = some s ∧ s.hasReturned = false

theorem isRunning_iff {i : Nat} :
    f.IsRunning i ↔ (f.sinks.map (·.hasReturned))[i]? = some false := by
  rw [List.getElem?_map, Option.map_eq_some_iff]
  rfl

theorem Aside.isRunning_iff (aside : Aside f g) {i : Nat} : g.IsRunning i ↔ f.IsRunning i := by
  rw [Flow.isRunning_iff, Flow.isRunning_iff, aside.returned]

theorem fired_of_step {e : FlowEvent} (step : Step t f e g) : f.fired t e = g := by
  rw [fired, fire_of_step step, Option.getD_some]

theorem firedAll_nil (f : Flow) : f.firedAll t [] = f := rfl

theorem firedAll_cons (e : FlowEvent) (es : List FlowEvent) (f : Flow) :
    f.firedAll t (e :: es) = (f.fired t e).firedAll t es := rfl

theorem firedAll_append (es es' : List FlowEvent) (f : Flow) :
    f.firedAll t (es ++ es') = (f.firedAll t es).firedAll t es' := List.foldl_append

theorem fired_of_none {e : FlowEvent} (impossible : f.fire t e = none) : f.fired t e = f := by
  rw [fired, impossible, Option.getD_none]

theorem fired_upload {request : UploadRequest} (pending : f.uploads = [request])
    (running : f.uploaderReturned = false) (heedless : f.uploader.isStopped = false) :
    (f.fired t .upload).sinks = f.sinks ∧ (f.fired t .upload).uploads = [] := by
  rw [fired_of_step (.upload pending running heedless)]
  exact ⟨rfl, rfl⟩

/-- A request that is announced is taken up or dropped at once. -/
theorem firedAll_announce (fits : t.Fits) {i : Nat} {s : SinkWorker} {request : UploadRequest}
    {outbox : List UploadRequest} (found : f.sinks[i]? = some s)
    (pending : s.outbox = request :: outbox) (running : s.hasReturned = false)
    (uploads : f.uploads = []) (heeded : f.Heeded) :
    (f.firedAll t [.announce i, .upload]).sinks = f.sinks.set i { s with outbox } ∧
      (f.firedAll t [.announce i, .upload]).uploads = [] := by
  rw [firedAll_cons, firedAll_cons, firedAll_nil]
  cases gone : f.uploaderReturned with
  | true =>
      rw [fired_of_step (.forget found pending running gone), fired_of_none]
      · exact ⟨rfl, uploads⟩
      · simp [fire, upload, setSink, uploads]
  | false =>
      have room : f.uploads.length < t.uploadQueueSize := uploads ▸ fits.uploadRoom
      have waiting : f.uploads ++ [request] = request :: [] := by rw [uploads, List.nil_append]
      have heedless := heeded.resolve_left (ne_true_of_eq_false gone)
      rw [fired_of_step (.announce found pending running gone room)]
      exact fired_upload waiting gone heedless

/-- A sink that hands over all of its requests has none left. -/
theorem handOver_calm (fits : t.Fits) {i : Nat} {s : SinkWorker} (found : f.sinks[i]? = some s)
    (running : s.hasReturned = false) (uploads : f.uploads = []) (heeded : f.Heeded)
    (others : ∀ j s', f.sinks[j]? = some s' → j ≠ i → s'.outbox = []) :
    Calm (f.handOver t i) := by
  have many : f.outboxLength i = s.outbox.length := by rw [outboxLength, found]
  rw [handOver, many]
  clear many
  generalize pending : s.outbox = outbox
  induction outbox generalizing f s with
  | nil =>
      refine ⟨uploads, ?_, heeded⟩
      intro j s' found'
      rcases eq_or_ne j i with rfl | other
      · cases found.symm.trans found'
        exact pending
      · exact others j s' found' other
  | cons request rest ih =>
      have inside := (List.getElem?_eq_some_iff.mp found).1
      obtain ⟨sinks, uploads'⟩ := firedAll_announce fits found pending running uploads heeded
      have aside : Aside f (f.firedAll t [.announce i, .upload]) :=
        (Via.firedAll (by simp [FlowEvent.IsReading]) f).aside
      have found' : (f.firedAll t [.announce i, .upload]).sinks[i]? =
          some { s with outbox := rest } := by rw [sinks, List.getElem?_set_self inside]
      rw [List.length_cons, List.replicate_succ, List.foldl_cons]
      apply ih found' running uploads' (aside.heeded heeded) _ rfl
      intro j s' foundOther other
      rw [sinks, List.getElem?_set_ne other.symm] at foundOther
      exact others j s' foundOther other

/-- A sink without requests has nothing to hand over. -/
theorem handOver_of_calm (calm : Calm f) (i : Nat) : f.handOver t i = f := by
  have none : f.outboxLength i = 0 := by
    unfold outboxLength
    split
    · rename_i s found
      rw [calm.outboxes i s found, List.length_nil]
    · rfl
  rw [handOver, none]
  rfl

/-- A sink that has received an output keeps no request for itself. -/
theorem read_calm (fits : t.Fits) (calm : Calm f) (i : Nat) :
    Calm ((f.fired t (.receive i)).handOver t i) := by
  cases outcome : f.fire t (.receive i) with
  | none =>
      rw [fired_of_none outcome, handOver_of_calm calm]
      exact calm
  | some g =>
      have step := step_of_fire outcome
      rw [fired_of_step step]
      cases step with
      | @receive _ s o rest found queue running announced =>
          have inside := (List.getElem?_eq_some_iff.mp found).1
          refine handOver_calm (s := s.accept o rest.isEmpty f.environment) fits
            (List.getElem?_set_self inside) running calm.uploads calm.heeded ?_
          intro j s' found' other
          exact calm.outboxes j s' ((List.getElem?_set_ne other.symm).symm.trans found')

/-- A running sink makes its queue shorter. -/
theorem read_shorter (calm : Calm f) {i : Nat} (running : f.IsRunning i) :
    (((f.fired t (.receive i)).handOver t i).queues.getD (t.queueOf i) []).length ≤
      (f.queues.getD (t.queueOf i) []).length - 1 := by
  have kept := (handOver_via (t := t) i (f.fired t (.receive i))).aside.queues (t.queueOf i)
  refine Nat.le_trans kept.length_le ?_
  obtain ⟨s, found, running⟩ := running
  cases queue : f.queues.getD (t.queueOf i) [] with
  | nil =>
      have impossible : f.fire t (.receive i) = none := by simp only [fire, receive, found, queue]
      rw [fired_of_none impossible, queue]
      exact Nat.le_refl 0
  | cons o rest =>
      have inside := lt_of_getD_eq_cons queue
      rw [fired_of_step (.receive found queue running (calm.outboxes i s found)),
        getD_setQueue_self]
      · exact Nat.le_refl rest.length
      · exact inside

/-- A sink that is served keeps no request for itself, and a running one empties its queue. -/
theorem serve_calm (fits : t.Fits) (calm : Calm f) (i : Nat) :
    Calm (f.serve t i) ∧
      (f.IsRunning i → (f.serve t i).queues.getD (t.queueOf i) [] = []) := by
  have rounds (items : List Output) {f : Flow} (calm : Calm f) :
      let g := items.foldl (fun f _ => handOver t i (f.fired t (.receive i))) f
      Calm g ∧ (f.IsRunning i → (g.queues.getD (t.queueOf i) []).length ≤
        (f.queues.getD (t.queueOf i) []).length - items.length) := by
    induction items generalizing f with
    | nil => exact ⟨calm, fun _ => Nat.le_refl _⟩
    | cons o rest ih =>
        obtain ⟨calm', shorter⟩ := ih (read_calm fits calm i)
        refine ⟨calm', fun running => ?_⟩
        have once := read_shorter (t := t) calm running
        have later := shorter ((read_via i f).aside.isRunning_iff.mpr running)
        rw [List.foldl_cons, List.length_cons]
        omega
  obtain ⟨calm', shorter⟩ := rounds (f.queues.getD (t.queueOf i) []) calm
  refine ⟨calm', fun running => ?_⟩
  have empty := shorter running
  rw [Nat.sub_self] at empty
  exact List.length_eq_zero_iff.mp (Nat.le_zero.mp empty)

theorem serveAll_calm (fits : t.Fits) (calm : Calm f) (sinks : List Nat) :
    Calm (f.serveAll t sinks) ∧ ∀ i ∈ sinks, f.IsRunning i →
      (f.serveAll t sinks).queues.getD (t.queueOf i) [] = [] := by
  induction sinks generalizing f with
  | nil => exact ⟨calm, nofun⟩
  | cons i rest ih =>
      obtain ⟨calm', empty⟩ := serve_calm fits calm i
      obtain ⟨calm'', others⟩ := ih calm'
      refine ⟨calm'', fun j member running => ?_⟩
      rcases List.mem_cons.mp member with rfl | later
      · have kept := (serveAll_via (t := t) rest (f.serve t j)).aside.queues (t.queueOf j)
        rw [empty running] at kept
        exact List.suffix_nil.mp kept
      · exact others j later ((serve_via f i).aside.isRunning_iff.mpr running)

end Flow

end RecordPipeline
