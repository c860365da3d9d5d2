import Neurons.Graph.Episode
import Neurons.Lib.Rely
import Neurons.Replay.GraphReplay

/-! # The graph projection workers

`GraphProjectionWorker` (`outbox_worker.py`) leases jobs of the graph projection outbox and hands
the episode of each to the graph. A job is completed only after the graph has answered that it
holds the episode, whatever the other workers and writers of the outbox do meanwhile.
-/

namespace Neurons.Graph

open Neurons.Lib
open Neurons.Source
open Neurons.Outbox
open Neurons.Replay (callAdapterSeam normalizedOutcome)

/-- `type(error).__name__` -/
def className (error : PyError) : String :=
  match error.cls with
  | .valueError => "ValueError"
  | .typeError => "TypeError"
  | .keyError => "KeyError"
  | .indexError => "IndexError"
  | .attributeError => "AttributeError"
  | .overflowError => "OverflowError"
  | .permissionError => "PermissionError"
  | .runtimeError => "RuntimeError"
  | .databaseError => "DatabaseError"
  | .ownershipViolation => "OwnershipViolation"
  | .sourceRedactionLeak => "SourceRedactionLeak"
  | .secretLikeMetadataError => "SecretLikeMetadataError"
  | .sourceStoreError => "SourceStoreError"
  | .sourceStoreConflict => "SourceStoreConflict"
  | .sourceStoreResponseTooLarge => "SourceStoreResponseTooLarge"
  | .sourceRevisionResolutionError => "SourceRevisionResolutionError"
  | .sourceRevisionCurrentnessLimitError => "SourceRevisionCurrentnessLimitError"
  | .sourceRevisionSnapshotChangedError => "SourceRevisionSnapshotChangedError"

/-! ## The outbox and the graph -/

/-- The outbox, and the episodes the graph was given so far with its replies. -/
structure World where
  outbox : GraphJobs
  calls : List (OntologyEpisode × Option Replay.Reply)

def World.empty : World := ⟨∅, []⟩

/-- How a graph answers an episode, after the episodes it was given before; none where the
    adapter cannot be called. -/
abbrev Answering := List OntologyEpisode → OntologyEpisode → Option Replay.Reply

inductive Call : Type → Type where
  | claim (request : Claim) : Call (Except PyError (List (ℕ × Job GraphWork)))
  | complete (projectionId : ℕ) (workerId : String) : Call (Except PyError Unit)
  | fail (projectionId : ℕ) (errorMessage : String) (maxRetries : Int) (workerId : String) (now : Int) :
      Call (Except PyError Unit)
  | enqueue (work : GraphWork) (now : Int) : Call (Except PyError Unit)
  | reset (sourceIds : List String) : Call ℕ
  | upsertEpisode (episode : OntologyEpisode) : Call (Option Replay.Reply)

/-- A transaction of the outbox; one that raises is rolled back. -/
def World.commit {α : Type} (w : World) (done : Except PyError (α × GraphJobs)) : Except PyError α × World :=
  match done with
  | .ok (reply, outbox) => (.ok reply, { w with outbox })
  | .error e => (.error e, w)

def Call.exec (answer : Answering) {β : Type} (c : Call β) (w : World) : β × World :=
  match c with
  | .claim request => w.commit (claimGraphProjectionLeases request w.outbox)
  | .complete projectionId workerId =>
      w.commit ((markGraphProjectionCompleted projectionId workerId w.outbox).map ((), ·))
  | .fail projectionId errorMessage maxRetries workerId now =>
      w.commit ((markGraphProjectionFailed projectionId errorMessage maxRetries workerId now w.outbox).map ((), ·))
  | .enqueue work now => w.commit ((enqueueGraphOutboxOn work now w.outbox).map ((), ·))
  | .reset sourceIds =>
      let done := resetGraphProjectionDeadLetters sourceIds w.outbox
      (done.1, { w with outbox := done.2 })
  | .upsertEpisode episode =>
      let reply := answer (w.calls.map Prod.fst) episode
      (reply, { w with calls := w.calls ++ [(episode, reply)] })

/-- A program over the outbox and the graph; an exception is known by its class. -/
abbrev GraphProgram := Prog Call String

/-! ## A job -/

/-- `_card_mapping_from_outbox_payload`: the id of the card under the name its mapping reads. -/
def cardMappingFromOutboxPayload (payload : Doc) : Doc :=
  let memoryId := firstText [payload.text .memoryId, payload.text .authorityMemoryId, payload.text .sourceId] ""
  if memoryId = "" then payload else payload.set .memoryId (.str memoryId)

/-- The payload is about the revision its job is queued for. -/
def GraphWork.Agrees (work : GraphWork) : Prop :=
  work.episodePayload.text .sourceType = work.sourceType ∧ work.episodePayload.text .sourceId = work.sourceId ∧
    work.episodePayload.text .sourceRevision = work.sourceRevision ∧
    work.episodePayload.text .contentHash = work.contentHash ∧
    work.episodePayload.text .authorityMemoryId = work.sourceId

instance (work : GraphWork) : Decidable (GraphWork.Agrees work) := by
  unfold GraphWork.Agrees
  infer_instance

section Workers

variable (host : Host) (seam : Replay.Host)

/-- The episode of a job. -/
def jobEpisode (work : GraphWork) : Except PyError OntologyEpisode := do
  refuseIf (¬ GraphWork.Agrees work) (.valueError "graph_projection_authority_key_mismatch")
  episodeFromMemoryCard host (cardMappingFromOutboxPayload work.episodePayload) (work.episodePayload.text .project)

/-- `process_job` -/
def processJob (work : GraphWork) : GraphProgram Unit := do
  let episode ← Prog.ofExcept ((jobEpisode host work).mapError className)
  let reply ← Prog.request (.upsertEpisode episode)
  let outcome ← Prog.ofExcept (callAdapterSeam seam reply true)
  if outcome ∈ [.inserted, .duplicate] then return () else throw "RuntimeError"

/-- The settings of a worker. -/
structure Worker where
  workerId : String
  batchSize : Int
  leaseSeconds : Int
  maxRetries : Int

/-- When the transactions of one `run_once` take place, and what is locked as it claims. -/
structure Batch where
  claimedAt : Int
  unlocked : ℕ → Bool
  failedAt : ℕ → Int

def Worker.claim (self : Worker) (batch : Batch) : Claim :=
  ⟨self.workerId, self.batchSize, self.leaseSeconds, batch.claimedAt, batch.unlocked⟩

/-- Record a failed job; a lease that another worker holds by now is left to it. -/
def recordFailure (self : Worker) (batch : Batch) (projectionId : ℕ) (typeName : String) : GraphProgram Unit := do
  match ← Prog.request (.fail projectionId typeName self.maxRetries self.workerId (batch.failedAt projectionId)) with
  | .ok () => return ()
  | .error e => if e.isA .valueError then return () else throw (className e)

/-- One job of a batch: whether it failed. -/
def handleJob (self : Worker) (batch : Batch) (leased : ℕ × Job GraphWork) : GraphProgram Bool :=
  Prog.tryCatch
    (do
      processJob host seam leased.2.work
      let settled ← Prog.request (.complete leased.1 self.workerId)
      Prog.ofExcept ((settled.map fun _ => false).mapError className))
    (fun typeName => do
      recordFailure self batch leased.1 typeName
      return true)

/-- `run_once`: the number of jobs of the batch, and `last_batch_failed`. -/
def runOnce (self : Worker) (batch : Batch) : GraphProgram (ℕ × ℕ) := do
  let claimed ← Prog.request (.claim (self.claim batch))
  let jobs ← Prog.ofExcept (claimed.mapError className)
  let failed ← jobs.mapM (handleJob host seam self batch)
  return (jobs.length, failed.count true)

/-- `run_loop` over the batches until it is stopped. -/
def runLoop (self : Worker) (batches : List Batch) : GraphProgram Unit :=
  batches.forM fun batch => do
    let _ ← runOnce host seam self batch

/-- Who works on the outbox: its workers, the writers of cards and the operator. -/
inductive Client where
  | worker (self : Worker) (batches : List Batch)
  | writer (work : List (GraphWork × Int))
  | operator (resets : List (List String))

def Client.program : Client → GraphProgram Unit
  | .worker self batches => runLoop host seam self batches
  | .writer work => work.forM fun entry => do
      let _ ← Prog.request (.enqueue entry.1 entry.2)
  | .operator resets => resets.forM fun sourceIds => do
      let _ ← Prog.request (.reset sourceIds)

/-- The clients before their first call. -/
def clientsAt {ι : Type} (clients : ι → Client) : Pool Call String Unit World ι :=
  ⟨fun i => (clients i).program host seam, World.empty⟩

/-! ## What the clients rely on -/

/-- The graph holds the episode of the work: it was given it and has said so. -/
def Persisted (work : GraphWork) (calls : List (OntologyEpisode × Option Replay.Reply)) : Prop :=
  ∃ call ∈ calls, jobEpisode host work = .ok call.1 ∧
    callAdapterSeam seam call.2 true ∈ [.ok Replay.Outcome.inserted, .ok .duplicate]

/-- Every completed job was handed to the graph. -/
def Sound (w : World) : Prop :=
  ∀ id job, w.outbox.get? id = some job → job.status = .completed → Persisted host seam job.work w.calls

/-- Jobs keep their work, the graph forgets nothing, and no job is completed before it is handed over. -/
structure Kept (w w' : World) : Prop where
  works : ∀ id job, w.outbox.get? id = some job → ∃ job', w'.outbox.get? id = some job' ∧ job'.work = job.work
  calls : w.calls <+: w'.calls
  sound : Sound host seam w → Sound host seam w'

variable {host seam}

theorem Persisted.mono {work : GraphWork} {calls calls' : List (OntologyEpisode × Option Replay.Reply)}
    (persisted : Persisted host seam work calls) (more : calls <+: calls') : Persisted host seam work calls' := by
  obtain ⟨call, mem, made⟩ := persisted
  exact ⟨call, more.subset mem, made⟩

theorem Kept.refl (w : World) : Kept host seam w w :=
  ⟨fun _ job found => ⟨job, found, rfl⟩, List.prefix_refl _, id⟩

theorem Kept.trans {a b c : World} (first : Kept host seam a b) (rest : Kept host seam b c) : Kept host seam a c where
  works id job found := by
    obtain ⟨job', found', same⟩ := first.works id job found
    obtain ⟨job'', found'', same'⟩ := rest.works id job' found'
    exact ⟨job'', found'', same'.trans same⟩
  calls := first.calls.trans rest.calls
  sound sound := rest.sound (first.sound sound)

/-- Every row is rewritten where it stands, and none is completed. -/
theorem Kept.map {w : World} {outbox : GraphJobs} {f : ℕ → Job GraphWork → Job GraphWork}
    (mapped : ∀ id, outbox.get? id = (w.outbox.get? id).map (f id)) (work : ∀ id job, (f id job).work = job.work)
    (open_ : ∀ id job, (f id job).status = .completed → job.status = .completed) :
    Kept host seam w { w with outbox } where
  works id job found := ⟨f id job, by simp [mapped, found], work id job⟩
  calls := List.prefix_refl _
  sound sound id job' found' done := by
    obtain ⟨job, found, rfl⟩ : ∃ job, w.outbox.get? id = some job ∧ f id job = job' := by
      simpa [mapped] using found'
    rw [work]
    exact sound id job found (open_ id job done)

/-- One row is rewritten; where that completes it, the graph holds its episode. -/
theorem Kept.set {w : World} {id : ℕ} {job job' : Job GraphWork} (found : w.outbox.get? id = some job)
    (work : job'.work = job.work) (done : job'.status = .completed → Persisted host seam job.work w.calls) :
    Kept host seam w { w with outbox := w.outbox.set id job' } where
  works other stored here := by
    by_cases same : other = id
    · subst same
      rw [found] at here
      cases here
      exact ⟨job', by simp, work⟩
    · exact ⟨stored, by simp [Table.get?_set, same, here], rfl⟩
  calls := List.prefix_refl _
  sound sound other stored here completed := by
    by_cases same : other = id
    · subst same
      simp only [Table.get?_set_self, Option.some.injEq] at here
      subst here
      rw [work]
      exact done completed
    · simp only [Table.get?_set, same, if_false] at here
      exact sound other stored here completed

/-- A row is added that is not completed. -/
theorem Kept.insert {w : World} {job : Job GraphWork} (fresh : job.status ≠ .completed) :
    Kept host seam w { w with outbox := w.outbox.set w.outbox.freshKey job } where
  works other stored here := by
    have differ : other ≠ w.outbox.freshKey := by
      rintro rfl
      simp [Table.get?_freshKey] at here
    exact ⟨stored, by simp [Table.get?_set, differ, here], rfl⟩
  calls := List.prefix_refl _
  sound sound other stored here completed := by
    rw [Table.get?_set] at here
    split at here
    · cases here
      exact absurd completed fresh
    · exact sound other stored here completed

/-- The graph is given an episode. -/
theorem Kept.append (w : World) (more : List (OntologyEpisode × Option Replay.Reply)) :
    Kept host seam w { w with calls := w.calls ++ more } where
  works _ job found := ⟨job, found, rfl⟩
  calls := List.prefix_append _ _
  sound sound id job found done := (sound id job found done).mono (List.prefix_append _ _)

/-- A transaction keeps what it keeps where it commits. -/
theorem Kept.commit {α : Type} {w : World} {done : Except PyError (α × GraphJobs)}
    (kept : ∀ reply outbox, done = .ok (reply, outbox) → Kept host seam w { w with outbox }) :
    Kept host seam w (w.commit done).2 := by
  cases done with
  | error e => exact Kept.refl w
  | ok written => exact kept _ _ rfl

/-! ## What the transactions keep -/

/-- A claim leases rows where they stand, and answers with the rows it leased. -/
theorem claimLeases_rows {claim : Claim} {outbox outbox' : GraphJobs} {leased : List (ℕ × Job GraphWork)}
    (done : claimLeases claim outbox = .ok (leased, outbox')) :
    (∀ id, outbox'.get? id = (outbox.get? id).map fun job =>
        if id ∈ candidates claim outbox then job.lease claim else job) ∧
      ∀ entry ∈ leased, outbox'.get? entry.1 = some entry.2 ∧ entry.1 ∈ candidates claim outbox := by
  simp only [claimLeases, bind_eq_ok, pure_eq_ok, Except.ok.injEq, Prod.mk.injEq] at done
  obtain ⟨_, _, rfl, rfl⟩ := done
  constructor
  · intro id
    exact Table.get?_rewrite ..
  · intro entry mem
    obtain ⟨listed, chosen⟩ := List.mem_filter.mp mem
    exact ⟨Table.mem_entries_iff.mp listed, by simpa using chosen⟩

theorem ownedJob_eq_ok {projectionId : ℕ} {workerId : String} {outbox : GraphJobs} {job : Job GraphWork}
    (owned : ownedJob projectionId workerId outbox = .ok job) :
    outbox.get? projectionId = some job ∧ job.workerId = some workerId ∧ job.status = .processing := by
  unfold ownedJob at owned
  cases found : outbox.get? projectionId with
  | none => simp [found] at owned
  | some stored =>
      simp only [found] at owned
      split at owned
      · next held =>
          cases owned
          exact ⟨rfl, held⟩
      · cases owned

theorem kept_claim (request : Claim) (w : World) :
    Kept host seam w (w.commit (claimGraphProjectionLeases request w.outbox)).2 := by
  apply Kept.commit
  intro leased outbox done
  apply Kept.map (claimLeases_rows done).1
  · intro id job
    split <;> rfl
  · intro id job completed
    split at completed
    · cases completed
    · exact completed

theorem kept_fail (projectionId : ℕ) (errorMessage : String) (maxRetries : Int) (workerId : String) (now : Int)
    (w : World) : Kept host seam w (w.commit
      ((markGraphProjectionFailed projectionId errorMessage maxRetries workerId now w.outbox).map ((), ·))).2 := by
  apply Kept.commit
  intro _ outbox done
  obtain ⟨written, marked, same⟩ := except_map_eq_ok done
  cases same
  simp only [markGraphProjectionFailed, bind_eq_ok, pure_eq_ok, Except.ok.injEq] at marked
  obtain ⟨_, _, _, _, job, owned, rfl⟩ := marked
  obtain ⟨found, -, -⟩ := ownedJob_eq_ok owned
  refine @Kept.set _ _ w _ job (job.fail errorMessage maxRetries now) found rfl ?_
  intro completed
  simp only [Job.fail] at completed
  split at completed <;> cases completed

theorem kept_enqueue (work : GraphWork) (now : Int) (w : World) :
    Kept host seam w (w.commit ((enqueueGraphOutboxOn work now w.outbox).map ((), ·))).2 := by
  apply Kept.commit
  intro _ outbox done
  obtain ⟨written, queued, same⟩ := except_map_eq_ok done
  cases same
  simp only [enqueueGraphOutboxOn, bind_eq_ok] at queued
  obtain ⟨_, _, _, _, queued⟩ := queued
  split at queued
  · cases queued
    exact Kept.refl w
  · cases queued
    apply Kept.insert
    simp [Job.new]

theorem kept_reset (sourceIds : List String) (w : World) :
    Kept host seam w { w with outbox := (resetGraphProjectionDeadLetters sourceIds w.outbox).2 } := by
  apply Kept.map (f := fun _ job => if job.Resettable sourceIds then job.reset else job)
    fun id => Table.get?_mapValues ..
  · intro id job
    split <;> rfl
  · intro id job completed
    split at completed
    · cases completed
    · exact completed

/-- A job is completed by its worker; the graph holds its episode by then. -/
theorem kept_complete {projectionId : ℕ} (workerId : String) {w : World}
    (persisted : ∀ job, w.outbox.get? projectionId = some job → Persisted host seam job.work w.calls) :
    Kept host seam w
      (w.commit ((markGraphProjectionCompleted projectionId workerId w.outbox).map ((), ·))).2 := by
  apply Kept.commit
  intro _ outbox done
  obtain ⟨written, marked, same⟩ := except_map_eq_ok done
  cases same
  simp only [markGraphProjectionCompleted, bind_eq_ok, pure_eq_ok, Except.ok.injEq] at marked
  obtain ⟨job, owned, rfl⟩ := marked
  obtain ⟨found, -, -⟩ := ownedJob_eq_ok owned
  exact Kept.set found rfl fun _ => persisted job found

/-! ## What the programs guarantee -/

/-- The row is queued for the work. -/
def Queued (id : ℕ) (work : GraphWork) (w : World) : Prop := ∃ job, w.outbox.get? id = some job ∧ job.work = work

theorem Queued.kept {id : ℕ} {work : GraphWork} {w w' : World} (kept : Kept host seam w w')
    (queued : Queued id work w) : Queued id work w' := by
  obtain ⟨job, found, same⟩ := queued
  obtain ⟨job', found', same'⟩ := kept.works id job found
  exact ⟨job', found', same'.trans same⟩

variable (answer : Answering)

/-- Every call of a program keeps the outbox sound. -/
abbrev Keeping {α : Type} (host : Host) (seam : Replay.Host) (post : α → World → Prop) (p : GraphProgram α)
    (w : World) : Prop :=
  p.Guarantees (Call.exec answer) (Kept host seam) (Kept host seam) post w

theorem processJob_keeping (work : GraphWork) (w : World) :
    Keeping answer host seam (fun _ w' => Persisted host seam work w'.calls) (processJob host seam work) w := by
  apply Prog.Guarantees.bind (Q := fun episode _ => jobEpisode host work = .ok episode)
    (Prog.Guarantees.ofExcept ?_)
  · intro episode _ made w' _
    refine ⟨Kept.append w' _, ?_⟩
    apply Prog.Guarantees.bind (Q := fun outcome w'' => outcome ∈ [Replay.Outcome.inserted, .duplicate] →
      Persisted host seam work w''.calls) (Prog.Guarantees.ofExcept ?_)
    · intro outcome w'' held
      split
      · next persisted => exact held persisted
      · trivial
    · intro outcome replied persisted
      refine ⟨_, List.mem_append_right _ (List.mem_singleton_self _), made, ?_⟩
      have told : callAdapterSeam seam (answer (w'.calls.map Prod.fst) episode) true = .ok outcome := replied
      rw [told]
      simpa using persisted
  · intro episode made
    cases shape : jobEpisode host work with
    | error e => simp [shape, Except.mapError] at made
    | ok given =>
        rw [shape] at made
        cases made
        rfl

theorem handleJob_keeping (self : Worker) (batch : Batch) (leased : ℕ × Job GraphWork) {w : World}
    (queued : Queued leased.1 leased.2.work w) :
    Keeping answer host seam (fun _ _ => True) (handleJob host seam self batch leased) w := by
  apply Prog.Guarantees.tryCatch
  · have worked : Keeping answer host seam (fun _ w' => Persisted host seam leased.2.work w'.calls)
        (processJob host seam leased.2.work) w := processJob_keeping answer leased.2.work w
    apply (worked.keeps (I := Queued leased.1 leased.2.work) (fun _ _ kept => Queued.kept kept)
      (fun _ _ kept => kept) queued).bind
    intro _ w' ends w'' relied
    refine ⟨kept_complete self.workerId ?_, Prog.Guarantees.ofExcept fun _ _ => trivial⟩
    intro job found
    obtain ⟨stored, found', same⟩ := ends.2.kept relied
    rw [found] at found'
    cases found'
    rw [same]
    exact ends.1.mono relied.calls
  · intro typeName w'
    have recorded : Keeping answer host seam (fun _ _ => True) (recordFailure self batch leased.1 typeName) w' := by
      intro w'' _
      refine ⟨kept_fail .., ?_⟩
      simp only [Prog.done_bind]
      split
      · trivial
      · split <;> trivial
    exact recorded.bind fun _ _ _ => trivial

theorem runOnce_keeping (self : Worker) (batch : Batch) (w : World) :
    Keeping answer host seam (fun _ _ => True) (runOnce host seam self batch) w := by
  intro w' _
  refine ⟨kept_claim (self.claim batch) w', ?_⟩
  apply Prog.Guarantees.bind (Q := fun jobs w'' => ∀ leased ∈ jobs, Queued leased.1 leased.2.work w'')
    (Prog.Guarantees.ofExcept ?_)
  · intro jobs w'' queued
    apply (Prog.Guarantees.mapM (I := fun v => ∀ leased ∈ jobs, Queued leased.1 leased.2.work v) ?_ queued).bind
    · intro failed v _
      trivial
    · intro leased mem v holds
      have own : Keeping answer host seam (fun _ _ => True) (handleJob host seam self batch leased) v :=
        handleJob_keeping answer self batch leased (holds leased mem)
      have others := own.keeps (I := fun v => ∀ leased ∈ jobs, Queued leased.1 leased.2.work v)
        (fun _ _ kept holds leased mem => (holds leased mem).kept kept) (fun _ _ kept => kept) holds
      exact others.weaken fun _ _ ends => ends.2
  · intro jobs done leased mem
    simp only [Call.exec, claimGraphProjectionLeases] at done ⊢
    cases claimed : claimLeases (self.claim batch) w'.outbox with
    | error e => simp [claimed, World.commit, Except.mapError] at done
    | ok written =>
        simp only [claimed, World.commit, Except.mapError, Except.ok.injEq] at done ⊢
        subst done
        exact ⟨leased.2, ((claimLeases_rows claimed).2 leased mem).1, rfl⟩

theorem Client.keeping (client : Client) (w : World) :
    Keeping answer host seam (fun _ _ => True) (client.program host seam) w := by
  cases client with
  | worker self batches =>
      apply Prog.Guarantees.forM (I := fun _ => True) _ trivial
      intro batch _ w' _
      exact (runOnce_keeping answer self batch w').bind fun _ _ _ => trivial
  | writer work =>
      apply Prog.Guarantees.forM (I := fun _ => True) _ trivial
      intro entry _ w' _ w'' _
      exact ⟨kept_enqueue entry.1 entry.2 w'', trivial⟩
  | operator resets =>
      apply Prog.Guarantees.forM (I := fun _ => True) _ trivial
      intro sourceIds _ w' _ w'' _
      exact ⟨kept_reset sourceIds w'', trivial⟩

/-! ## A worker alone -/

/-- How a job was processed: the class of the exception, if one was raised, and what the graph was given
    for the job, with its reply. -/
structure Processing where
  raised : Option String
  handed : List (OntologyEpisode × Option Replay.Reply)

/-- A job raises where its episode cannot be made, where the graph's reply is an error, and where the reply is
    not that the graph holds the episode; and in no other case. -/
inductive Processes (host : Host) (seam : Replay.Host) (work : GraphWork) : Processing → Prop
  | unmade {e : PyError} (made : jobEpisode host work = .error e) : Processes host seam work ⟨some (className e), []⟩
  | refused {episode : OntologyEpisode} {reply : Option Replay.Reply} {typeName : String}
      (made : jobEpisode host work = .ok episode) (told : callAdapterSeam seam reply true = .error typeName) :
      Processes host seam work ⟨some typeName, [(episode, reply)]⟩
  | unpersisted {episode : OntologyEpisode} {reply : Option Replay.Reply} {outcome : Replay.Outcome}
      (made : jobEpisode host work = .ok episode) (told : callAdapterSeam seam reply true = .ok outcome)
      (other : outcome ∉ [.inserted, .duplicate]) :
      Processes host seam work ⟨some "RuntimeError", [(episode, reply)]⟩
  | persisted {episode : OntologyEpisode} {reply : Option Replay.Reply} {outcome : Replay.Outcome}
      (made : jobEpisode host work = .ok episode) (told : callAdapterSeam seam reply true = .ok outcome)
      (held : outcome ∈ [.inserted, .duplicate]) : Processes host seam work ⟨none, [(episode, reply)]⟩

/-- The row of a job after its batch: completed, or failed once more. A worker that is not allowed a retry
    does not get its failures recorded: `mark_graph_projection_failed` refuses it. -/
def Worker.settle (self : Worker) (batch : Batch) (leased : ℕ × Job GraphWork) : Option String → Job GraphWork
  | none => { leased.2 with status := .completed }
  | some typeName =>
      if self.maxRetries < 1 then leased.2
      else leased.2.fail typeName self.maxRetries (batch.failedAt leased.1)

/-- The worker still holds the job that it was leased. -/
structure Held (worker : Worker) (leased : ℕ × Job GraphWork) (w : World) : Prop where
  found : w.outbox.get? leased.1 = some leased.2
  owner : leased.2.workerId = some worker.workerId
  status : leased.2.status = .processing

theorem Held.owned {self : Worker} {leased : ℕ × Job GraphWork} {w : World} (held : Held self leased w) :
    ownedJob leased.1 self.workerId w.outbox = .ok leased.2 := by
  simp [ownedJob, held.found, held.owner, held.status]

variable (host seam)

theorem processJob_run (work : GraphWork) (w : World) :
    ∃ result, Processes host seam work result ∧ (processJob host seam work).run (Call.exec answer) w =
      ((match result.raised with | none => .ok () | some typeName => .error typeName),
        { w with calls := w.calls ++ result.handed }) := by
  unfold processJob
  cases made : jobEpisode host work with
  | error e =>
      refine ⟨_, .unmade made, ?_⟩
      simp [Except.mapError, Prog.ofExcept]
  | ok episode =>
      cases told : callAdapterSeam seam (answer (w.calls.map Prod.fst) episode) true with
      | error typeName =>
          refine ⟨_, .refused made told, ?_⟩
          simp [Except.mapError, Prog.ofExcept, Prog.request, Call.exec, told]
      | ok outcome =>
          by_cases held : outcome ∈ [Replay.Outcome.inserted, .duplicate]
          · refine ⟨_, .persisted made told held, ?_⟩
            simp only [List.mem_cons, List.not_mem_nil, or_false] at held
            simp [Except.mapError, Prog.ofExcept, Prog.request, Call.exec, told, held]
          · refine ⟨_, .unpersisted made told held, ?_⟩
            simp only [List.mem_cons, List.not_mem_nil, or_false] at held
            simp [Except.mapError, Prog.ofExcept, Prog.request, Call.exec, told, held]

theorem handleJob_run {self : Worker} (named : self.workerId ≠ "") (batch : Batch) {leased : ℕ × Job GraphWork}
    {w : World} (held : Held self leased w) :
    ∃ result, Processes host seam leased.2.work result ∧
      (handleJob host seam self batch leased).run (Call.exec answer) w = (.ok result.raised.isSome,
        ⟨w.outbox.set leased.1 (self.settle batch leased result.raised), w.calls ++ result.handed⟩) := by
  obtain ⟨result, processed, ran⟩ := processJob_run host seam answer leased.2.work w
  refine ⟨result, processed, ?_⟩
  cases raised : result.raised with
  | none =>
      have marked : markGraphProjectionCompleted leased.1 self.workerId w.outbox =
          .ok (w.outbox.set leased.1 { leased.2 with status := .completed }) := by
        simp [markGraphProjectionCompleted, held.owned]
      simp [handleJob, Prog.run_tryCatch, Prog.run_bind, ran, raised, Call.exec, marked, World.commit, Except.map,
        Except.mapError, Worker.settle]
  | some typeName =>
      by_cases refused : self.maxRetries < 1
      · -- the refusal is swallowed, and the row stays as it was claimed
        have unmarked : ∃ message, markGraphProjectionFailed leased.1 typeName self.maxRetries self.workerId
            (batch.failedAt leased.1) w.outbox = .error (.valueError message) := by
          simp [markGraphProjectionFailed, refuseIf, refused]
        obtain ⟨message, unmarked⟩ := unmarked
        have same : w.outbox.set leased.1 leased.2 = w.outbox := Table.set_of_get? held.found
        have swallowed : (PyError.valueError message).isA .valueError = true := rfl
        simp [handleJob, recordFailure, Prog.run_tryCatch, Prog.run_bind, ran, raised, Call.exec, unmarked, World.commit,
          Except.map, Worker.settle, refused, same, swallowed]
      · have marked : markGraphProjectionFailed leased.1 typeName self.maxRetries self.workerId
            (batch.failedAt leased.1) w.outbox = .ok (w.outbox.set leased.1
              (leased.2.fail typeName self.maxRetries (batch.failedAt leased.1))) := by
          simp [markGraphProjectionFailed, refuseIf, refused, named, held.owned]
        simp [handleJob, recordFailure, Prog.run_tryCatch, Prog.run_bind, ran, raised, Call.exec, marked, World.commit,
          Except.map, Worker.settle, refused]

/-- The jobs of a batch one after the other: each settles its own row. -/
theorem handleJobs_run {self : Worker} (named : self.workerId ≠ "") (batch : Batch)
    {jobs : List (ℕ × Job GraphWork)} (distinct : (jobs.map Prod.fst).Nodup) {w : World}
    (held : ∀ leased ∈ jobs, Held self leased w) :
    ∃ results w', (jobs.mapM (handleJob host seam self batch)).run (Call.exec answer) w =
        (.ok (results.map (·.raised.isSome)), w') ∧
      w'.calls = w.calls ++ results.flatMap (·.handed) ∧
      List.Forall₂ (fun leased result => Processes host seam leased.2.work result ∧
        w'.outbox.get? leased.1 = some (self.settle batch leased result.raised)) jobs results ∧
      ∀ id, id ∉ jobs.map Prod.fst → w'.outbox.get? id = w.outbox.get? id := by
  induction jobs generalizing w with
  | nil => exact ⟨[], w, rfl, by simp, .nil, fun _ _ => rfl⟩
  | cons leased rest ih =>
      rw [List.map_cons, List.nodup_cons] at distinct
      obtain ⟨result, processed, ran⟩ := handleJob_run host seam answer named batch (held leased List.mem_cons_self)
      have others : ∀ other ∈ rest, Held self other
          ⟨w.outbox.set leased.1 (self.settle batch leased result.raised), w.calls ++ result.handed⟩ := by
        intro other mem
        have own := held other (List.mem_cons_of_mem _ mem)
        have differ : other.1 ≠ leased.1 := by
          intro same
          exact distinct.1 (same ▸ List.mem_map_of_mem mem)
        exact ⟨by simp [Table.get?_set, differ, own.found], own.owner, own.status⟩
      obtain ⟨results, w', ranRest, calls, settled, kept⟩ := ih distinct.2 others
      refine ⟨result :: results, w', ?_, ?_, .cons ⟨processed, ?_⟩ settled, ?_⟩
      · rw [List.mapM_cons, Prog.bind_eq, Prog.run_bind, ran]
        simp [Prog.run_bind, ranRest]
      · rw [calls, List.flatMap_cons, List.append_assoc]
      · rw [kept _ distinct.1]
        simp
      · intro id absent
        rw [List.map_cons, List.mem_cons, not_or] at absent
        rw [kept id absent.2]
        simp [Table.get?_set, absent.1]

/-- A leased batch is held by its worker. -/
theorem claimLeases_held {self : Worker} {batch : Batch} {outbox outbox' : GraphJobs}
    {leased : List (ℕ × Job GraphWork)} (claimed : claimLeases (self.claim batch) outbox = .ok (leased, outbox'))
    (calls : List (OntologyEpisode × Option Replay.Reply)) :
    self.workerId ≠ "" ∧ (leased.map Prod.fst).Nodup ∧ (∀ entry ∈ leased, Held self entry ⟨outbox', calls⟩) ∧
      ∀ id, id ∉ leased.map Prod.fst → outbox'.get? id = outbox.get? id := by
  have rows := claimLeases_rows claimed
  simp only [claimLeases, bind_eq_ok, refuseIf_eq_ok, pure_eq_ok, Except.ok.injEq, Prod.mk.injEq] at claimed
  obtain ⟨_, allowed, chosen, rfl⟩ := claimed
  refine ⟨fun blank => allowed (.inl blank), ?_, ?_, ?_⟩
  · rw [← chosen]
    exact (List.filter_sublist.map _).nodup (Table.nodup _)
  · intro entry mem
    obtain ⟨found, picked⟩ := rows.2 entry mem
    have leasedRow := rows.1 entry.1
    rw [found] at leasedRow
    obtain ⟨job, -, same⟩ := Option.map_eq_some_iff.mp leasedRow.symm
    rw [if_pos picked] at same
    exact ⟨found, by rw [← same]; rfl, by rw [← same]; rfl⟩
  · intro id absent
    rw [rows.1 id]
    cases found : outbox.get? id with
    | none => rfl
    | some job =>
        rw [Option.map_some, if_neg]
        intro picked
        apply absent
        rw [← chosen]
        refine List.mem_map.mpr ⟨(id, job.lease (self.claim batch)), List.mem_filter.mpr ⟨?_, by simpa using picked⟩, rfl⟩
        rw [Table.mem_entries_iff, rows.1 id, found, Option.map_some, if_pos picked]

/-! ### One card -/

def plainSeam : Replay.Host := ⟨id, id, id⟩

/-- A graph that takes every episode. -/
def holding : Answering := fun _ _ => some (.returned (some "inserted"))

def cardWork : GraphWork where
  sourceType := "memory_card"
  sourceId := "mem_1"
  sourceRevision := "rev_1"
  contentHash := "hash_1"
  episodePayload := Doc.ofFields [
    (.sourceType, .str "memory_card"), (.sourceId, .str "mem_1"), (.sourceRevision, .str "rev_1"),
    (.contentHash, .str "hash_1"), (.authorityMemoryId, .str "mem_1"), (.project, .str "neurons"),
    (.cardType, .str "decision"), (.title, .str "title"), (.summary, .str "summary"), (.typedPayload, .obj [])]

theorem exists_cardEpisode : ∃ episode, jobEpisode plainHost cardWork = .ok episode := by
  have agrees : GraphWork.Agrees cardWork := by decide +kernel
  obtain ⟨episode, made⟩ := @exists_episode plainHost (fun _ => rfl)
    (cardMappingFromOutboxPayload cardWork.episodePayload) (cardWork.episodePayload.text .project) (by decide +kernel)
    (by decide +kernel) ⟨"/project/neurons", by rfl⟩ ⟨[], by rfl⟩ ⟨plainHost.utcNow, by rfl⟩
  exact ⟨episode, by simp [jobEpisode, refuseIf, agrees, made]⟩

def cardWorker : Worker := ⟨"worker", 10, 60, 5⟩
def cardBatch : Batch := ⟨1, fun _ => true, fun _ => 2⟩
def cardOutbox : GraphJobs := Table.set ∅ 1 (Job.new cardWork 0)
def cardJob : Job GraphWork := (Job.new cardWork 0).lease (cardWorker.claim cardBatch)

theorem cardOutbox_claimed : claimGraphProjectionLeases (cardWorker.claim cardBatch) cardOutbox =
    .ok ([(1, cardJob)], cardOutbox.set 1 cardJob) := by
  rfl

/-- However workers, writers and operators take turns, a completed job has an episode that is made
    from its payload and that the graph has answered to hold. -/
theorem completed_persisted {ι : Type} [DecidableEq ι] (clients : ι → Client) (schedule : List ι) :
    let reached := (clientsAt host seam clients).run (Call.exec answer) schedule
    ∀ id job, reached.shared.outbox.get? id = some job → job.status = .completed →
      Persisted host seam job.work reached.shared.calls := by
  intro reached
  have guaranteed : (clientsAt host seam clients).Guaranteed (Call.exec answer) (Kept host seam)
      (fun _ => Kept host seam) (fun _ _ _ => True) := fun i => (clients i).keeping answer World.empty
  have sound : Sound host seam reached.shared := by
    apply Pool.Guaranteed.preserves Kept.refl Kept.trans (fun _ _ _ _ _ _ => trivial) (fun _ _ _ kept => kept)
      guaranteed (Sound host seam) (I := fun _ => True) (fun _ _ _ _ => trivial) (fun _ => Kept.refl)
      (fun _ _ _ _ _ kept => kept.sound) trivial
    intro id job found
    cases found
  exact sound

/-- A writer that queues the card, and a worker. -/
def cardClients : Bool → Client
  | true => .writer [(cardWork, 0)]
  | false => .worker cardWorker [cardBatch]

theorem cardClients_complete (host : Host) (made : ∃ episode, jobEpisode host cardWork = .ok episode) :
    ∃ schedule job, ((clientsAt host plainSeam cardClients).run (Call.exec holding) schedule).shared.outbox.get? 1 =
      some job ∧ job.status = .completed := by
  obtain ⟨episode, made⟩ := made
  let queued := (clientsAt host plainSeam cardClients).step (Call.exec holding) true
  have world : queued.shared = ⟨cardOutbox, []⟩ := by rfl
  have program : queued.clients false = runLoop host plainSeam cardWorker [cardBatch] := by rfl
  obtain ⟨n, alone⟩ : ∃ n, (queued.run (Call.exec holding) (List.replicate n false)).shared =
      ((queued.clients false).run (Call.exec holding) queued.shared).2 := Pool.exists_run_alone queued false
  have worked : ((queued.clients false).run (Call.exec holding) queued.shared).2.outbox =
      (cardOutbox.set 1 cardJob).set 1 { cardJob with status := .completed } := by
    rw [program, world]
    have told : callAdapterSeam plainSeam (some (.returned (some "inserted"))) true = .ok .inserted := by decide
    have marked : markGraphProjectionCompleted 1 cardWorker.workerId (cardOutbox.set 1 cardJob) =
        .ok ((cardOutbox.set 1 cardJob).set 1 { cardJob with status := .completed }) := by rfl
    have work : cardJob.work = cardWork := rfl
    simp [runLoop, runOnce, handleJob, processJob, Prog.run_bind, Prog.run_tryCatch, Call.exec, cardOutbox_claimed,
      World.commit, Except.mapError, Except.map, made, told, marked, holding, work]
  refine ⟨true :: List.replicate n false, { cardJob with status := .completed }, ?_, rfl⟩
  have settled : (queued.run (Call.exec holding) (List.replicate n false)).shared.outbox.get? 1 =
      some { cardJob with status := .completed } := by
    rw [alone, worked, Table.get?_set_self]
  exact settled

theorem completed_persisted_card : ∃ schedule,
    let reached := (clientsAt plainHost plainSeam cardClients).run (Call.exec holding) schedule
    ∃ job, reached.shared.outbox.get? 1 = some job ∧
      Persisted plainHost plainSeam job.work reached.shared.calls := by
  obtain ⟨schedule, job, found, done⟩ := cardClients_complete plainHost exists_cardEpisode
  exact ⟨schedule, job, found, completed_persisted plainHost plainSeam holding cardClients schedule 1 job found done⟩

end Workers

end Neurons.Graph
