import Neurons.Ingress.Exclusion

/-! # Selecting jobs and claiming them

A drain lists the jobs that are due and claims them one by one. The query takes a job with
no deadline for a due one; the claim takes it for one that is never due, unless it is
pending. The two agree in every run that gives each retryable job its deadline.
-/

namespace Neurons.Ingress

open Neurons.Lib
open Neurons.Source

variable {py : Platform} {db db' : Db} {jobId : String} {job job' : DeliveryJob}

/-! ## The query -/

/-- `status = ? AND (next_retry_at = '' OR next_retry_at <= ?)`, without a time the first
    part alone. -/
def DeliveryJob.Selected (job : DeliveryJob) (status : DeliveryStatus) (dueAt : Stamp) : Prop :=
  job.status = status ∧ ∀ time ∈ dueAt, ∀ deadline ∈ job.nextRetryAt, deadline ≤ time

instance (job : DeliveryJob) (status : DeliveryStatus) (dueAt : Stamp) : Decidable (job.Selected status dueAt) := by
  unfold DeliveryJob.Selected
  infer_instance

/-- `LIMIT ?`; a negative limit is none. -/
def limitRows {α : Type} (limit : Int) (rows : List α) : List α :=
  if limit < 0 then rows else rows.take limit.toNat

theorem mem_of_mem_limitRows {α : Type} {limit : Int} {rows : List α} {row : α}
    (mem : row ∈ limitRows limit rows) : row ∈ rows := by
  unfold limitRows at mem
  split at mem
  · exact mem
  · exact List.mem_of_mem_take mem

/-- `list_delivery_jobs`: the oldest jobs first. -/
def listDeliveryJobs (status : DeliveryStatus) (limit : Int) (dueAt : Stamp) (db : Db) :
    List (String × DeliveryJob) :=
  limitRows limit (sortOn (fun entry => entry.2.createdAt)
    (db.deliveryJobs.rows.entries.filter (fun entry => entry.2.Selected status dueAt)))

theorem selected_of_listed {status : DeliveryStatus} {limit : Int} {dueAt : Stamp}
    (listed : (jobId, job) ∈ listDeliveryJobs status limit dueAt db) :
    db.deliveryJobs.get? jobId = some job ∧ job.Selected status dueAt := by
  have kept := (mem_sortOn _).mp (mem_of_mem_limitRows listed)
  rw [List.mem_filter, decide_eq_true_eq] at kept
  exact ⟨Table.mem_entries_iff.mp kept.1, kept.2⟩

/-! ## The claim -/

/-- Any owner's claim of the job goes through, or quarantines it for its attempts. -/
def ClaimAgrees (db : Db) (jobId : String) (job : DeliveryJob) (time : Int) : Prop :=
  ∀ leaseOwner leaseSeconds maxAttempts, ∃ done db',
    claimDeliveryJob jobId leaseOwner leaseSeconds maxAttempts time db = .ok (done, db') ∧
    (done = true ∨ maxAttempts ≤ (job.attemptCount : Int) ∧ ∃ job', db'.deliveryJobs.get? jobId = some job' ∧
      job'.status = .quarantined)

def DeliveryStatus.Retryable (status : DeliveryStatus) : Prop := status = .replayable ∨ status = .failedRetryable

instance (status : DeliveryStatus) : Decidable status.Retryable := by
  unfold DeliveryStatus.Retryable
  infer_instance

theorem claimDeliveryJob_claimable (found : db.deliveryJobs.get? jobId = some job) {leaseOwner : String} {time : Int}
    (claimable : job.Claimable leaseOwner time) (leaseSeconds maxAttempts : Int) :
    ∃ done db', claimDeliveryJob jobId leaseOwner leaseSeconds maxAttempts time db = .ok (done, db') ∧
      (done = true ∨ maxAttempts ≤ (job.attemptCount : Int) ∧ ∃ job', db'.deliveryJobs.get? jobId = some job' ∧
        job'.status = .quarantined) := by
  rw [claimDeliveryJob, Db.job_eq_ok.mpr found, ok_bind, if_neg (not_not.mpr claimable)]
  by_cases spent : maxAttempts ≤ (job.attemptCount : Int)
  · rw [if_pos spent]
    exact ⟨_, _, rfl, .inr ⟨spent, _, Db.get?_setJob_self found, rfl⟩⟩
  · rw [if_neg spent]
    exact ⟨_, _, rfl, .inl rfl⟩

theorem claimDeliveryJob_refused (found : db.deliveryJobs.get? jobId = some job) {leaseOwner : String} {time : Int}
    (refused : ¬ job.Claimable leaseOwner time) (leaseSeconds maxAttempts : Int) :
    claimDeliveryJob jobId leaseOwner leaseSeconds maxAttempts time db = .ok (false, db) := by
  rw [claimDeliveryJob, Db.job_eq_ok.mpr found, ok_bind, if_pos refused]
  rfl

/-- A selected job is claimable if it is pending or has a deadline, and by nobody else. -/
theorem DeliveryJob.Selected.claimable_iff {status : DeliveryStatus} {time : Int}
    (selected : job.Selected status (some time)) (selectable : status = .pending ∨ status.Retryable)
    (leaseOwner : String) :
    job.Claimable leaseOwner time ↔ job.status = .pending ∨ job.nextRetryAt ≠ none := by
  obtain ⟨rfl, due⟩ := selected
  have passed : (∃ deadline ∈ job.nextRetryAt, deadline ≤ time) ↔ job.nextRetryAt ≠ none := by
    constructor
    · rintro ⟨deadline, stamped, -⟩ none
      simp [none] at stamped
    · intro stamped
      obtain ⟨deadline, at_⟩ := Option.ne_none_iff_exists'.mp stamped
      exact ⟨deadline, at_, due time rfl deadline at_⟩
  rcases selectable with pending | replayable | retryable
  · simp [DeliveryJob.Claimable, pending]
  · simpa [DeliveryJob.Claimable, replayable] using passed
  · simpa [DeliveryJob.Claimable, retryable] using passed

/-- Selecting agrees with claiming just where the job is pending or has a deadline. -/
theorem claimAgrees_iff (found : db.deliveryJobs.get? jobId = some job) {status : DeliveryStatus} {time : Int}
    (selected : job.Selected status (some time)) (selectable : status = .pending ∨ status.Retryable) :
    ClaimAgrees db jobId job time ↔ job.status = .pending ∨ job.nextRetryAt ≠ none := by
  constructor
  · intro agrees
    by_contra stuck
    have refused : ¬ job.Claimable "worker" time := fun claimable =>
      stuck ((selected.claimable_iff selectable _).mp claimable)
    -- with attempts left a refusal is neither of the two
    obtain ⟨done, after, claimed, taken⟩ := agrees "worker" 0 (job.attemptCount + 1)
    rw [claimDeliveryJob_refused found refused] at claimed
    cases claimed
    rcases taken with taken | ⟨spent, -⟩
    · cases taken
    · omega
  · intro dated leaseOwner leaseSeconds maxAttempts
    exact claimDeliveryJob_claimable found ((selected.claimable_iff selectable leaseOwner).mpr dated) _ _

/-! ## New jobs -/

/-- The jobs an operation may add. -/
def Op.creates (op : Op) (db : Db) : List DeliveryJobSpec :=
  match op with
  | .createDeliveryJob spec _ _ => if db.deliveryJobs.find? spec.idempotencyKey = none then [spec] else []
  | .consumeInboxWithCommand spec _ =>
      match planDeliveryJobs db spec.deliveryJobs ⟨[], [], false⟩ with
      | .ok plan => plan.toInsert
      | .error _ => []
  | _ => []

/-- The rows that are new are those of some specifications. -/
def Adds (specs : List DeliveryJobSpec) (db db' : Db) : Prop :=
  ∀ jobId job, db.deliveryJobs.get? jobId = none → db'.deliveryJobs.get? jobId = some job →
    ∃ spec ∈ specs, ∃ commandId now, job = newDeliveryJob spec commandId now

/-- No row is changed, and the new ones are those of some specifications. -/
def Extends (specs : List DeliveryJobSpec) (db db' : Db) : Prop :=
  ∀ jobId, db'.deliveryJobs.get? jobId = db.deliveryJobs.get? jobId ∨
    ∃ spec ∈ specs, ∃ commandId now, db'.deliveryJobs.get? jobId = some (newDeliveryJob spec commandId now)

section Adds

variable {specs : List DeliveryJobSpec}

theorem Adds.of_same (same : db'.deliveryJobs = db.deliveryJobs) : Adds specs db db' := by
  intro jobId job absent stored
  rw [same, absent] at stored
  cases stored

theorem Adds.of_setJob {written : String} {write : DeliveryJob → DeliveryJob}
    {keeps : ∀ job, (write job).idempotencyKey = job.idempotencyKey} : Adds specs db (db.setJob written write keeps) := by
  intro jobId job absent stored
  rw [Db.get?_setJob] at stored
  split at stored
  · rename_i here
    rw [← here, absent] at stored
    cases stored
  · rw [absent] at stored
    cases stored

theorem Adds.of_write {written : String} (found : db.deliveryJobs.get? written = some job)
    (after : ∀ other, db'.deliveryJobs.get? other =
      if other = written then some job' else db.deliveryJobs.get? other) : Adds specs db db' := by
  intro jobId added absent stored
  rw [after] at stored
  split at stored
  · rename_i here
    rw [here, found] at absent
    cases absent
  · rw [absent] at stored
    cases stored

theorem Extends.adds (extends_ : Extends specs db db') : Adds specs db db' := by
  intro jobId job absent stored
  rcases extends_ jobId with kept | ⟨spec, mem, commandId, now, added⟩
  · rw [kept, absent] at stored
    cases stored
  · exact ⟨spec, mem, commandId, now, Option.some.inj (stored.symm.trans added)⟩

theorem Extends.of_same (same : db'.deliveryJobs = db.deliveryJobs) : Extends specs db db' :=
  fun _ => .inl (by rw [same])

theorem Extends.trans {specs' : List DeliveryJobSpec} {db'' : Db} (first : Extends specs db db')
    (second : Extends specs' db' db'') : Extends (specs ++ specs') db db'' := by
  intro jobId
  rcases second jobId with kept | ⟨spec, mem, commandId, now, added⟩
  · rcases first jobId with same | ⟨spec, mem, commandId, now, added⟩
    · exact .inl (kept.trans same)
    · exact .inr ⟨spec, List.mem_append_left _ mem, commandId, now, kept.trans added⟩
  · exact .inr ⟨spec, List.mem_append_right _ mem, commandId, now, added⟩

theorem insertDeliveryJob_extends {commandId : String} {now : Int} {spec : DeliveryJobSpec}
    (done : insertDeliveryJob commandId now db spec = .ok db') : Extends [spec] db db' := by
  unfold insertDeliveryJob at done
  split at done
  · cases done
  · rename_i deliveryJobs inserted
    cases done
    intro jobId
    rw [Indexed.get?_insert inserted]
    split
    · exact .inr ⟨spec, by simp, commandId, now, rfl⟩
    · exact .inl rfl

theorem insertDeliveryJobs_extends {commandId : String} {now : Int}
    (done : specs.foldlM (insertDeliveryJob commandId now) db = .ok db') : Extends specs db db' := by
  induction specs generalizing db with
  | nil =>
      cases done
      exact .of_same rfl
  | cons spec rest ih =>
      rw [List.foldlM_cons, bind_eq_ok] at done
      obtain ⟨next, first, done⟩ := done
      exact (insertDeliveryJob_extends first).trans (ih done)

theorem insertDomainRecords_deliveryJobs {commandId : String} {now : Int} {records : List DomainRecordSpec}
    (done : records.foldlM (insertDomainRecord commandId now) db = .ok db') :
    db'.deliveryJobs = db.deliveryJobs := by
  induction records generalizing db with
  | nil =>
      cases done
      rfl
  | cons record rest ih =>
      rw [List.foldlM_cons, bind_eq_ok] at done
      obtain ⟨next, first, done⟩ := done
      have kept : next.deliveryJobs = db.deliveryJobs := by
        simp only [insertDomainRecord, bind_eq_ok] at first
        obtain ⟨-, -, wrote⟩ := first
        cases wrote
        rfl
      exact (ih done).trans kept

theorem consumeInboxWithCommand_extends {spec : CommandSpec} {now : Int} {result : CommandTransactionResult}
    (done : consumeInboxWithCommand spec now db = .ok (result, db')) :
    Extends ((Op.consumeInboxWithCommand spec now).creates db) db db' := by
  simp only [consumeInboxWithCommand, bind_eq_ok] at done
  obtain ⟨-, -, plan, planned, done⟩ := done
  simp only [Op.creates, planned]
  split at done
  · simp only [bind_eq_ok] at done
    obtain ⟨opened, wrote, done⟩ := done
    cases done
    have same := openCommand_deliveryJobs wrote
    exact .of_same same
  · split at done
    · simp only [bind_eq_ok] at done
      obtain ⟨opened, wrote, done⟩ := done
      cases done
      have same := openCommand_deliveryJobs wrote
      exact .of_same same
    · simp only [completeCommand, bind_eq_ok] at done
      obtain ⟨opened, wrote, recorded, records, jobs, inserted, done⟩ := done
      cases done
      have same : (insertCommandResult spec.commandId spec.result now recorded).deliveryJobs = db.deliveryJobs := by
        rw [insertCommandResult_deliveryJobs, insertDomainRecords_deliveryJobs records,
          openCommand_deliveryJobs wrote]
      have kept : Extends [] db (insertCommandResult spec.commandId spec.result now recorded) := .of_same same
      exact kept.trans (insertDeliveryJobs_extends inserted)

theorem insertDeliveryJob_unknown {commandId : String} {now : Int} {spec : DeliveryJobSpec}
    (done : insertDeliveryJob commandId now db spec = .ok db') :
    db.deliveryJobs.find? spec.idempotencyKey = none := by
  unfold insertDeliveryJob at done
  split at done
  · cases done
  · rename_i deliveryJobs inserted
    exact (Indexed.insert?_fresh inserted).2

theorem createDeliveryJob_extends {spec : DeliveryJobSpec} {commandId : String} {now : Int}
    (done : createDeliveryJob spec commandId now db = .ok db') :
    Extends ((Op.createDeliveryJob spec commandId now).creates db) db db' := by
  have inserted (wrote : insertDeliveryJob commandId now db spec = .ok db') :
      Extends ((Op.createDeliveryJob spec commandId now).creates db) db db' := by
    rw [Op.creates, if_pos (insertDeliveryJob_unknown wrote)]
    exact insertDeliveryJob_extends wrote
  simp only [createDeliveryJob, bind_eq_ok] at done
  obtain ⟨-, -, decision, -, done⟩ := done
  split at done
  · cases done
    exact .of_same rfl
  · cases done
  · exact inserted done
  · exact inserted done
  · exact inserted done

theorem transaction_adds {op : Op} {answer : Answer} (done : transaction py op db = .ok (answer, db')) :
    Adds (op.creates db) db db' := by
  cases op with
  | recordInboxShadow =>
      simp only [transaction, recordInboxShadow, bind_eq_ok] at done
      obtain ⟨⟨_, _⟩, ⟨_, _, _, _, _, _, _, _, wrote⟩, done⟩ := done
      cases wrote
      cases done
      exact .of_same rfl
  | createCommand =>
      simp only [transaction, createCommand, insertCommand, bind_eq_ok] at done
      obtain ⟨_, wrote, done⟩ := done
      cases done
      split at wrote
      · cases wrote
      · cases wrote
        exact .of_same rfl
  | consumeInboxWithCommand =>
      simp only [transaction, bind_eq_ok] at done
      obtain ⟨⟨_, _⟩, wrote, done⟩ := done
      cases done
      exact (consumeInboxWithCommand_extends wrote).adds
  | createDeliveryJob =>
      simp only [transaction, bind_eq_ok] at done
      obtain ⟨_, wrote, done⟩ := done
      cases done
      exact (createDeliveryJob_extends wrote).adds
  | recordDeliveryPayload =>
      simp only [transaction, recordDeliveryPayload, bind_eq_ok] at done
      obtain ⟨⟨_, _⟩, ⟨-, -, -, -, wrote⟩, done⟩ := done
      cases done
      split at wrote
      · split at wrote <;> cases wrote <;> exact .of_same rfl
      · cases wrote
        exact .of_same rfl
  | claim =>
      simp only [transaction, bind_eq_ok] at done
      obtain ⟨⟨_, _⟩, wrote, done⟩ := done
      cases done
      obtain ⟨job, found, ⟨-, rfl⟩ | ⟨-, -, rfl⟩ | ⟨-, -, rfl⟩⟩ := claimDeliveryJob_eq_ok wrote
      · exact .of_same rfl
      · exact .of_setJob
      · exact .of_setJob
  | quarantineTransport =>
      simp only [transaction, bind_eq_ok] at done
      obtain ⟨_, wrote, done⟩ := done
      cases done
      obtain ⟨job, found, ⟨rfl, -⟩ | ⟨-, -, -, rfl⟩⟩ := quarantineTransportDelivery_eq_ok wrote
      · exact .of_same rfl
      · exact .of_setJob
  | recordReplayable =>
      simp only [transaction, recordReplayableAttempt, bind_eq_ok] at done
      obtain ⟨⟨_, _⟩, wrote, done⟩ := done
      cases done
      obtain ⟨job, found, ⟨-, rfl⟩ | ⟨-, -, rfl⟩⟩ := recordAttempt_eq_ok wrote
      · exact .of_same rfl
      · exact .of_setJob
  | recordFailed =>
      simp only [transaction, recordFailedRetryableAttempt, bind_eq_ok] at done
      obtain ⟨⟨_, _⟩, wrote, done⟩ := done
      cases done
      obtain ⟨job, found, ⟨-, rfl⟩ | ⟨-, -, rfl⟩⟩ := recordAttempt_eq_ok wrote
      · exact .of_same rfl
      · exact .of_setJob
  | markExecuting =>
      simp only [transaction, bind_eq_ok] at done
      obtain ⟨⟨_, _⟩, wrote, done⟩ := done
      cases done
      obtain ⟨job, found, ⟨-, rfl⟩ | ⟨-, -, rfl⟩⟩ := markDeliveryExecuting_eq_ok wrote
      · exact .of_same rfl
      · exact .of_setJob
  | recordEvidence =>
      simp only [transaction, bind_eq_ok] at done
      obtain ⟨_, wrote, done⟩ := done
      cases done
      cases recordDeliveryEvidence_eq_ok wrote
      exact .of_setJob
  | complete =>
      simp only [transaction, bind_eq_ok] at done
      obtain ⟨⟨_, _⟩, wrote, done⟩ := done
      cases done
      obtain ⟨job, found, ⟨-, rfl⟩ | ⟨-, -, _, _, -, after⟩⟩ := completeDeliveryWithEvidence_eq_ok wrote
      · exact .of_same rfl
      · exact .of_write found after
  | correct =>
      simp only [transaction, bind_eq_ok] at done
      obtain ⟨⟨_, _⟩, wrote, done⟩ := done
      cases done
      obtain ⟨job, found, -, -, after⟩ := correctProceduralSourceHash_eq_ok wrote
      exact .of_write found after

end Adds

/-! ## Deadlines -/

/-- The operation leaves no retryable job without a deadline: it creates none, and what it
    reports of a job as to be retried is a job that has one. -/
def Op.KeepsDeadlines (db : Db) (op : Op) : Prop :=
  (∀ spec ∈ op.creates db, spec.status.Retryable → spec.nextRetryAt ≠ none) ∧
  match op with
  | .recordEvidence jobId status .. =>
      status.Retryable → ∀ job ∈ db.deliveryJobs.get? jobId, job.nextRetryAt ≠ none
  | .complete jobId leaseOwner status _ _ _ now =>
      status.Retryable → ∀ job ∈ db.deliveryJobs.get? jobId, job.HeldBy leaseOwner now → job.nextRetryAt ≠ none
  | _ => True

instance (db : Db) (op : Op) : Decidable (op.KeepsDeadlines db) := by
  unfold Op.KeepsDeadlines
  split <;> infer_instance

/-- Every retryable job has a deadline. -/
def Db.RetriesDated (db : Db) : Prop :=
  ∀ jobId job, db.deliveryJobs.get? jobId = some job → job.status.Retryable → job.nextRetryAt ≠ none

theorem Change.dated {op : Op} {answer : Answer} (change : Change op answer jobId job job')
    (keeps : op.KeepsDeadlines db) (found : db.deliveryJobs.get? jobId = some job)
    (retryable : job'.status.Retryable) : job'.nextRetryAt ≠ none := by
  cases change with
  | exhausted | claimed | corrected | transported | executing => rcases retryable with same | same <;> cases same
  | replayed | retried =>
      -- an attempt that uses the budget up is quarantined, the others get a deadline
      rename_i maxAttempts _ _ _
      by_cases spent : job.Spent maxAttempts
      · simp [DeliveryJob.replay, DeliveryJob.retry, DeliveryJob.conclude, spent, DeliveryStatus.Retryable]
          at retryable
      · simp [DeliveryJob.replay, DeliveryJob.retry, spent]
  | evidenced => exact keeps.2 retryable job found
  | completed held shape =>
      rcases shape with rfl | rfl
      · exact keeps.2 retryable job found held
      · exact keeps.2 retryable job found held

theorem Db.RetriesDated.step (dated : db.RetriesDated) {op : Op} (keeps : op.KeepsDeadlines db) :
    (step py db op).RetriesDated := by
  unfold Ingress.step perform
  split
  · rename_i answer db' done
    intro jobId job stored retryable
    cases transaction_job done jobId with
    | same kept => exact dated jobId job (kept ▸ stored) retryable
    | added absent =>
        obtain ⟨spec, created, commandId, now, rfl⟩ := transaction_adds done jobId job absent stored
        exact keeps.1 spec created retryable
    | changed before after change =>
        obtain rfl := Option.some.inj (stored.symm.trans after)
        exact change.dated keeps before retryable
  · exact dated

theorem run_retriesDated {ops : List Op} (keeps : Along (step py) Op.KeepsDeadlines .empty ops) :
    (run (step py) .empty ops).RetriesDated :=
  keeps.invariant Db.RetriesDated (fun _ _ keeps dated => dated.step keeps) (by simp [Db.RetriesDated, Db.empty])

/-- In every run that leaves no retryable job without a deadline, whatever a drain selects any
    worker can claim, or quarantines. In any run it is the pending jobs and those with a
    deadline of which this is so. -/
theorem selection_agrees (py : Platform) (ops : List Op) {status : DeliveryStatus} {limit time : Int}
    {jobId : String} {job : DeliveryJob} (selectable : status = .pending ∨ status.Retryable)
    (listed : (jobId, job) ∈ listDeliveryJobs status limit (some time) (run (step py) .empty ops)) :
    (Along (step py) Op.KeepsDeadlines .empty ops → ClaimAgrees (run (step py) .empty ops) jobId job time) ∧
    (ClaimAgrees (run (step py) .empty ops) jobId job time ↔ job.status = .pending ∨ job.nextRetryAt ≠ none) := by
  obtain ⟨found, selected⟩ := selected_of_listed listed
  have agrees := claimAgrees_iff found selected selectable
  refine ⟨fun keeps => agrees.mpr ?_, agrees⟩
  rcases selectable with pending | retryable
  · exact .inl (selected.1.trans pending)
  · rw [← selected.1] at retryable
    exact .inr (run_retriesDated keeps jobId job found retryable)

/-- A worker's retry, half a minute later. -/
def retriedOps : List Op :=
  jobOps ++ [.claim "job" "worker" 60 3 1, .recordReplayable "job" "worker" 3 30 2]

/-- A retry the worker asked for is selected when it is due, and can be claimed then. -/
theorem selection_agrees_retried :
    ∃ job, ("job", job) ∈ listDeliveryJobs .replayable 50 (some 30000002) (run (step referencePlatform) .empty retriedOps) ∧
      job.status = .replayable ∧
      ClaimAgrees (run (step referencePlatform) .empty retriedOps) "job" job 30000002 := by
  have keeps : Along (step referencePlatform) Op.KeepsDeadlines .empty retriedOps := by decide +kernel
  have listed : ("job", ((newDeliveryJob ⟨"job", "transcript-memory", "conversation_chunk", "key", "sha256:1",
      .pending, none⟩ "command" 0).lease "worker" 60000001 1).replay 3 30 2) ∈
      listDeliveryJobs .replayable 50 (some 30000002) (run (step referencePlatform) .empty retriedOps) := by
    decide +kernel
  exact ⟨_, listed, by decide, (selection_agrees referencePlatform retriedOps (.inr (.inl rfl)) listed).1 keeps⟩

/-- The state after `jobOps` and a report that the job's outcome is uncertain. -/
def undatedOps : List Op := jobOps ++ [.recordEvidence "job" .replayable {} "remote_outcome_uncertain" 1]

/-- The row that report leaves. -/
def undatedRow : DeliveryJob :=
  (newDeliveryJob ⟨"job", "transcript-memory", "conversation_chunk", "key", "sha256:1", .pending, none⟩ "command" 0).conclude
    .replayable {} "remote_outcome_uncertain" 1 1

/-- A job reported as to be replayed has no deadline: it is selected at any time, and nobody
    can ever claim it. -/
theorem undated_job_stuck : ∃ job, ∀ time,
    ("job", job) ∈ listDeliveryJobs .replayable 50 (some time) (run (step referencePlatform) .empty undatedOps) ∧
    ∀ leaseOwner leaseSeconds maxAttempts,
      claimDeliveryJob "job" leaseOwner leaseSeconds maxAttempts time
        (run (step referencePlatform) .empty undatedOps) =
          .ok (false, run (step referencePlatform) .empty undatedOps) := by
  have rows : (run (step referencePlatform) .empty undatedOps).deliveryJobs.rows.entries = [("job", undatedRow)] := by
    decide +kernel
  have found : (run (step referencePlatform) .empty undatedOps).deliveryJobs.get? "job" = some undatedRow :=
    Table.mem_entries_iff.mp (by rw [rows]; simp)
  refine ⟨undatedRow, fun time => ⟨?_, fun leaseOwner leaseSeconds maxAttempts => ?_⟩⟩
  · have selected : undatedRow.Selected .replayable (some time) := ⟨rfl, fun _ _ _ stamped => by cases stamped⟩
    simp [listDeliveryJobs, rows, selected, limitRows, sortOn]
  · refine claimDeliveryJob_refused found ?_ leaseSeconds maxAttempts
    rintro ⟨deadline, stamped, -⟩
    cases stamped

end Neurons.Ingress
