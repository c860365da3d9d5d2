import Neurons.Ingress.DeliveryJobs

/-! # What a transaction does to a delivery job

One specification for each operation, and from them the few ways in which any
transaction can change a job.
-/

namespace Neurons.Ingress

open Neurons.Lib
open Neurons.Source

variable {py : Platform} {db db' : Db} {jobId : String}

theorem Db.job_eq_ok {job : DeliveryJob} : db.job jobId = .ok job ↔ db.deliveryJobs.get? jobId = some job := by
  unfold Db.job
  split
  · rename_i missing
    simp [missing]
  · rename_i found
    simp [found]

theorem Db.get?_setJob (db : Db) (jobId : String) (write : DeliveryJob → DeliveryJob)
    (keeps : ∀ job, (write job).idempotencyKey = job.idempotencyKey) (other : String) :
    (db.setJob jobId write keeps).deliveryJobs.get? other =
      if other = jobId then (db.deliveryJobs.get? jobId).map write else db.deliveryJobs.get? other :=
  Indexed.get?_update _ _ _ keeps _

theorem Db.get?_setJob_self {write : DeliveryJob → DeliveryJob}
    {keeps : ∀ job, (write job).idempotencyKey = job.idempotencyKey} {job : DeliveryJob}
    (found : db.deliveryJobs.get? jobId = some job) :
    (db.setJob jobId write keeps).deliveryJobs.get? jobId = some (write job) := by
  rw [Db.get?_setJob, if_pos rfl, found, Option.map_some]

@[simp] theorem insertCommandResult_deliveryJobs (commandId : String) (result : CommandResultSpec)
    (now : Int) (db : Db) : (insertCommandResult commandId result now db).deliveryJobs = db.deliveryJobs := rfl

/-! ## Specifications -/

theorem claimDeliveryJob_eq_ok {leaseOwner : String} {leaseSeconds maxAttempts now : Int} {done : Bool}
    (claimed : claimDeliveryJob jobId leaseOwner leaseSeconds maxAttempts now db = .ok (done, db')) :
    ∃ job, db.deliveryJobs.get? jobId = some job ∧
      ((done = false ∧ db' = db) ∨
        (job.Claimable leaseOwner now ∧ done = false ∧
          db' = db.setJob jobId (·.exhaust now) (·.exhaust_key now)) ∨
        (job.Claimable leaseOwner now ∧ done = true ∧ db' =
          db.setJob jobId (·.lease leaseOwner (now + microseconds leaseSeconds) now)
            (·.lease_key leaseOwner (now + microseconds leaseSeconds) now))) := by
  simp only [claimDeliveryJob, bind_eq_ok, Db.job_eq_ok] at claimed
  obtain ⟨job, found, claimed⟩ := claimed
  refine ⟨job, found, ?_⟩
  split at claimed
  · cases claimed
    exact .inl ⟨rfl, rfl⟩
  · rename_i claimable
    rw [not_not] at claimable
    split at claimed
    · cases claimed
      exact .inr (.inl ⟨claimable, rfl, rfl⟩)
    · cases claimed
      exact .inr (.inr ⟨claimable, rfl, rfl⟩)

theorem quarantineTransportDelivery_eq_ok {expectedUpdatedAt : Stamp} {now : Int}
    (done : quarantineTransportDelivery jobId expectedUpdatedAt now db = .ok db') :
    ∃ job, db.deliveryJobs.get? jobId = some job ∧
      ((db' = db ∧ (job.status = .succeeded ∨ job.status = .quarantined)) ∨
        (job.status ≠ .succeeded ∧ job.status ≠ .quarantined ∧ ¬ job.LeaseIsLive now ∧
          db' = db.setJob jobId (·.quarantineTransport now) (·.quarantineTransport_key now))) := by
  simp only [quarantineTransportDelivery, bind_eq_ok, Db.job_eq_ok] at done
  obtain ⟨job, found, done⟩ := done
  refine ⟨job, found, ?_⟩
  split at done
  · rename_i concluded
    cases done
    exact .inl ⟨rfl, concluded⟩
  · rename_i running
    simp only [bind_eq_ok, rejectIf_eq_ok, not_or, not_not] at done
    obtain ⟨-, ⟨-, idle⟩, -, -, written⟩ := done
    cases written
    exact .inr ⟨fun concluded => running (.inl concluded), fun concluded => running (.inr concluded), idle, rfl⟩

theorem recordAttempt_eq_ok {leaseOwner : String} {now : Int} {write : DeliveryJob → DeliveryJob}
    {keeps : ∀ job, (write job).idempotencyKey = job.idempotencyKey} {status : Option DeliveryStatus}
    (recorded : recordAttempt jobId leaseOwner now write keeps db = .ok (status, db')) :
    ∃ job, db.deliveryJobs.get? jobId = some job ∧
      ((status = none ∧ db' = db) ∨
        (¬ job.Stale leaseOwner now ∧ status = some (write job).status ∧
          db' = db.setJob jobId write keeps)) := by
  simp only [recordAttempt, bind_eq_ok, Db.job_eq_ok] at recorded
  obtain ⟨job, found, recorded⟩ := recorded
  refine ⟨job, found, ?_⟩
  split at recorded
  · cases recorded
    exact .inl ⟨rfl, rfl⟩
  · rename_i fresh
    cases recorded
    exact .inr ⟨fresh, rfl, rfl⟩

theorem markDeliveryExecuting_eq_ok {leaseOwner : String} {now : Int} {done : Bool}
    (marked : markDeliveryExecuting jobId leaseOwner now db = .ok (done, db')) :
    ∃ job, db.deliveryJobs.get? jobId = some job ∧
      ((done = false ∧ db' = db) ∨
        (job.HeldBy leaseOwner now ∧ done = true ∧
          db' = db.setJob jobId (·.execute now) (·.execute_key now))) := by
  simp only [markDeliveryExecuting, bind_eq_ok, Db.job_eq_ok] at marked
  obtain ⟨job, found, marked⟩ := marked
  refine ⟨job, found, ?_⟩
  split at marked
  · cases marked
    exact .inl ⟨rfl, rfl⟩
  · rename_i held
    rw [not_not] at held
    cases marked
    exact .inr ⟨held, rfl, rfl⟩

theorem completeDeliveryWithEvidence_eq_ok {leaseOwner lastErrorClass : String} {status : DeliveryStatus}
    {refs : IndexRefs} {observedAt : Stamp} {now : Int} {done : Bool}
    (completed : completeDeliveryWithEvidence jobId leaseOwner status refs lastErrorClass observedAt now
      db = .ok (done, db')) :
    ∃ job, db.deliveryJobs.get? jobId = some job ∧
      ((done = false ∧ db' = db) ∨
        (job.HeldBy leaseOwner now ∧ done = true ∧ ∃ evidenceAt concluded,
          (concluded = job.conclude status refs lastErrorClass evidenceAt now ∨
            concluded = job.concludeAttempt status refs lastErrorClass evidenceAt now) ∧
          ∀ other, db'.deliveryJobs.get? other =
            if other = jobId then some concluded else db.deliveryJobs.get? other)) := by
  simp only [completeDeliveryWithEvidence, bind_eq_ok, Db.job_eq_ok] at completed
  obtain ⟨-, -, job, found, completed⟩ := completed
  refine ⟨job, found, ?_⟩
  split at completed
  · cases completed
    exact .inl ⟨rfl, rfl⟩
  · rename_i held
    rw [not_not] at held
    split at completed
    · cases completed
      refine .inr ⟨held, rfl, observedAt.getD now, _, .inl rfl, fun other => ?_⟩
      rw [Db.get?_setJob, found]
      rfl
    · cases completed
      refine .inr ⟨held, rfl, observedAt.getD now, _, .inr rfl, fun other => ?_⟩
      rw [insertCommandResult_deliveryJobs, Db.get?_setJob, found]
      rfl

theorem correctProceduralSourceHash_eq_ok {expectedUpdatedAt : Stamp}
    {expectedPayloadIdentity leaseOwner auditId : String} {now : Int}
    (corrected : correctProceduralSourceHash py jobId expectedUpdatedAt expectedPayloadIdentity leaseOwner
      now db = .ok (auditId, db')) :
    ∃ job, db.deliveryJobs.get? jobId = some job ∧ leaseOwner ≠ "" ∧
      job.Correctable expectedUpdatedAt now ∧ ∀ other,
        db'.deliveryJobs.get? other =
          if other = jobId then some (job.lease leaseOwner (now + microseconds 600) now)
          else db.deliveryJobs.get? other := by
  simp only [correctProceduralSourceHash, bind_eq_ok, Db.job_eq_ok, rejectIf_eq_ok] at corrected
  obtain ⟨-, named, job, found, -, -, -, correctable, corrected⟩ := corrected
  rw [not_not] at correctable
  refine ⟨job, found, named, correctable, fun other => ?_⟩
  split at corrected
  · cases corrected
  · simp only [bind_eq_ok] at corrected
    obtain ⟨identity, -, written⟩ := corrected
    cases written
    rw [Db.get?_setJob]
    simp [found]

theorem recordDeliveryEvidence_eq_ok {status : DeliveryStatus} {refs : IndexRefs} {lastErrorClass : String}
    {observedAt : Int}
    (recorded : recordDeliveryEvidence jobId status refs lastErrorClass observedAt db = .ok db') :
    db' = db.setJob jobId (·.conclude status refs lastErrorClass observedAt observedAt)
      (·.conclude_key status refs lastErrorClass observedAt observedAt) := by
  simp only [recordDeliveryEvidence, bind_eq_ok] at recorded
  obtain ⟨-, -, written⟩ := recorded
  cases written
  rfl

/-! ## New jobs -/

/-- The jobs of a database are kept, and others were added that nobody has leased yet. -/
def Enlarged (db db' : Db) : Prop :=
  ∀ jobId, db'.deliveryJobs.get? jobId = db.deliveryJobs.get? jobId ∨
    (db.deliveryJobs.get? jobId = none ∧ ∃ spec commandId now,
      db'.deliveryJobs.get? jobId = some (newDeliveryJob spec commandId now))

namespace Enlarged

theorem of_same (same : db'.deliveryJobs = db.deliveryJobs) : Enlarged db db' :=
  fun _ => .inl (by rw [same])

theorem trans {db'' : Db} (first : Enlarged db db') (rest : Enlarged db' db'') : Enlarged db db'' := by
  intro jobId
  rcases rest jobId with kept | ⟨absent, spec, commandId, now, added⟩
  · rcases first jobId with same | ⟨missing, spec, commandId, now, added⟩
    · exact .inl (kept.trans same)
    · exact .inr ⟨missing, spec, commandId, now, kept.trans added⟩
  · rcases first jobId with same | ⟨-, spec', commandId', now', added'⟩
    · exact .inr ⟨same ▸ absent, spec, commandId, now, added⟩
    · simp [added'] at absent

theorem foldlM {α : Type} {f : Db → α → Except StateError Db}
    (one : ∀ db a db', f db a = .ok db' → Enlarged db db') {l : List α}
    (done : l.foldlM f db = .ok db') : Enlarged db db' := by
  induction l generalizing db with
  | nil =>
      cases done
      exact of_same rfl
  | cons a rest ih =>
      rw [List.foldlM_cons, bind_eq_ok] at done
      obtain ⟨next, first, done⟩ := done
      exact (one _ _ _ first).trans (ih done)

end Enlarged

theorem insertDeliveryJob_enlarges {commandId : String} {now : Int} {spec : DeliveryJobSpec}
    (done : insertDeliveryJob commandId now db spec = .ok db') : Enlarged db db' := by
  unfold insertDeliveryJob at done
  split at done
  · cases done
  · rename_i deliveryJobs inserted
    cases done
    intro jobId
    rw [Indexed.get?_insert inserted]
    split
    · rename_i same
      exact .inr ⟨same ▸ (Indexed.insert?_fresh inserted).1, spec, commandId, now, rfl⟩
    · exact .inl rfl

theorem insertDomainRecord_enlarges {commandId : String} {now : Int} {spec : DomainRecordSpec}
    (done : insertDomainRecord commandId now db spec = .ok db') : Enlarged db db' := by
  simp only [insertDomainRecord, bind_eq_ok] at done
  obtain ⟨-, -, written⟩ := done
  cases written
  exact .of_same rfl

theorem openCommand_deliveryJobs {spec : CommandSpec} {status : CommandStatus} {lastErrorClass : String}
    {now : Int} (done : openCommand spec status lastErrorClass now db = .ok db') :
    db'.deliveryJobs = db.deliveryJobs := by
  simp only [openCommand, bind_eq_ok] at done
  obtain ⟨opened, inserted, done⟩ := done
  have kept : opened.deliveryJobs = db.deliveryJobs := by
    unfold insertCommand at inserted
    split at inserted
    · cases inserted
    · cases inserted
      rfl
  split at done
  · cases done
    exact kept
  · unfold consumeInboxEvent at done
    split at done
    · cases done
    · split at done
      · cases done
      · cases done
        exact kept

theorem consumeInboxWithCommand_enlarges {spec : CommandSpec} {now : Int} {result : CommandTransactionResult}
    (done : consumeInboxWithCommand spec now db = .ok (result, db')) : Enlarged db db' := by
  simp only [consumeInboxWithCommand, bind_eq_ok] at done
  obtain ⟨-, -, plan, -, done⟩ := done
  split at done
  · simp only [bind_eq_ok] at done
    obtain ⟨opened, wrote, done⟩ := done
    cases done
    exact Enlarged.trans (.of_same (openCommand_deliveryJobs wrote)) (.of_same rfl)
  · split at done
    · simp only [bind_eq_ok] at done
      obtain ⟨opened, wrote, done⟩ := done
      cases done
      exact Enlarged.trans (.of_same (openCommand_deliveryJobs wrote)) (.of_same rfl)
    · simp only [completeCommand, bind_eq_ok] at done
      obtain ⟨opened, wrote, recorded, records, jobs, inserted, done⟩ := done
      cases done
      have first : Enlarged db opened := .of_same (openCommand_deliveryJobs wrote)
      have second : Enlarged opened recorded :=
        .foldlM (fun _ _ _ => insertDomainRecord_enlarges) records
      have third := Enlarged.foldlM (fun _ _ _ => insertDeliveryJob_enlarges) inserted
      exact (first.trans second).trans (Enlarged.trans (.of_same rfl) third)

theorem createDeliveryJob_enlarges {spec : DeliveryJobSpec} {commandId : String} {now : Int}
    (done : createDeliveryJob spec commandId now db = .ok db') : Enlarged db db' := by
  simp only [createDeliveryJob, bind_eq_ok] at done
  obtain ⟨-, -, decision, -, done⟩ := done
  split at done
  · cases done
    exact .of_same rfl
  · cases done
  · exact insertDeliveryJob_enlarges done
  · exact insertDeliveryJob_enlarges done
  · exact insertDeliveryJob_enlarges done

/-! ## Changes of a job -/

/-- How a transaction, by its answer, changes a job that is there. -/
inductive Change : Op → Answer → String → DeliveryJob → DeliveryJob → Prop
  | exhausted {jobId leaseOwner seconds maxAttempts now job} (claimable : job.Claimable leaseOwner now) :
      Change (.claim jobId leaseOwner seconds maxAttempts now) (.flag false) jobId job (job.exhaust now)
  | claimed {jobId leaseOwner seconds maxAttempts now job} (claimable : job.Claimable leaseOwner now) :
      Change (.claim jobId leaseOwner seconds maxAttempts now) (.flag true) jobId job
        (job.lease leaseOwner (now + microseconds seconds) now)
  | corrected {jobId expected identity leaseOwner now auditId job}
      (correctable : job.Correctable expected now) :
      Change (.correct jobId expected identity leaseOwner now) (.auditId auditId) jobId job
        (job.lease leaseOwner (now + microseconds 600) now)
  | transported {jobId expected now job} (unfinished : job.status ≠ .succeeded ∧ job.status ≠ .quarantined) :
      Change (.quarantineTransport jobId expected now) .none jobId job (job.quarantineTransport now)
  | executing {jobId leaseOwner now job} (held : job.HeldBy leaseOwner now) :
      Change (.markExecuting jobId leaseOwner now) (.flag true) jobId job (job.execute now)
  | replayed {jobId leaseOwner maxAttempts seconds now job} (fresh : ¬ job.Stale leaseOwner now) :
      Change (.recordReplayable jobId leaseOwner maxAttempts seconds now)
        (.status (some (job.replay maxAttempts seconds now).status)) jobId job
        (job.replay maxAttempts seconds now)
  | retried {jobId leaseOwner refs error observedAt maxAttempts seconds now job}
      (fresh : ¬ job.Stale leaseOwner now) :
      Change (.recordFailed jobId leaseOwner refs error observedAt maxAttempts seconds now)
        (.status (some (job.retry refs error (observedAt.getD now) maxAttempts seconds now).status)) jobId job
        (job.retry refs error (observedAt.getD now) maxAttempts seconds now)
  | evidenced {jobId status refs error observedAt job} :
      Change (.recordEvidence jobId status refs error observedAt) .none jobId job
        (job.conclude status refs error observedAt observedAt)
  | completed {jobId leaseOwner status refs error observedAt now job evidenceAt concluded}
      (held : job.HeldBy leaseOwner now)
      (shape : concluded = job.conclude status refs error evidenceAt now ∨
        concluded = job.concludeAttempt status refs error evidenceAt now) :
      Change (.complete jobId leaseOwner status refs error observedAt now) (.flag true) jobId job concluded

/-- A job after a transaction: as it was, new, or changed in one of these ways. -/
inductive JobAfter (op : Op) (answer : Answer) (db db' : Db) (jobId : String) : Prop
  | same (kept : db'.deliveryJobs.get? jobId = db.deliveryJobs.get? jobId)
  | added (absent : db.deliveryJobs.get? jobId = none) {spec : DeliveryJobSpec} {commandId : String}
      {now : Int} (stored : db'.deliveryJobs.get? jobId = some (newDeliveryJob spec commandId now))
  | changed {job job' : DeliveryJob} (before : db.deliveryJobs.get? jobId = some job)
      (after : db'.deliveryJobs.get? jobId = some job') (change : Change op answer jobId job job')

namespace JobAfter

variable {op : Op} {answer : Answer}

theorem of_enlarged (enlarged : Enlarged db db') (jobId : String) : JobAfter op answer db db' jobId := by
  rcases enlarged jobId with kept | ⟨absent, _, _, _, stored⟩
  · exact .same kept
  · exact .added absent stored

/-- One job is written, the others are kept. -/
theorem of_write {written : String} {job job' : DeliveryJob}
    (found : db.deliveryJobs.get? written = some job) (change : Change op answer written job job')
    (after : ∀ other, db'.deliveryJobs.get? other =
      if other = written then some job' else db.deliveryJobs.get? other) (jobId : String) :
    JobAfter op answer db db' jobId := by
  by_cases same : jobId = written
  · subst same
    exact .changed found (by simp [after]) change
  · exact .same (by simp [after, same])

theorem of_setJob {written : String} {write : DeliveryJob → DeliveryJob}
    {keeps : ∀ job, (write job).idempotencyKey = job.idempotencyKey} {job : DeliveryJob}
    (found : db.deliveryJobs.get? written = some job) (change : Change op answer written job (write job))
    (jobId : String) : JobAfter op answer db (db.setJob written write keeps) jobId :=
  of_write found change (fun other => by rw [Db.get?_setJob, found]; rfl) jobId

end JobAfter

theorem transaction_job {op : Op} {answer : Answer} (done : transaction py op db = .ok (answer, db'))
    (jobId : String) : JobAfter op answer db db' jobId := by
  cases op with
  | recordInboxShadow =>
      simp only [transaction, recordInboxShadow, bind_eq_ok] at done
      obtain ⟨⟨_, _⟩, ⟨_, _, _, _, _, _, _, _, wrote⟩, done⟩ := done
      cases wrote
      cases done
      exact .same rfl
  | createCommand =>
      simp only [transaction, createCommand, insertCommand, bind_eq_ok] at done
      obtain ⟨_, wrote, done⟩ := done
      cases done
      split at wrote
      · cases wrote
      · cases wrote
        exact .same rfl
  | consumeInboxWithCommand =>
      simp only [transaction, bind_eq_ok] at done
      obtain ⟨⟨_, _⟩, wrote, done⟩ := done
      cases done
      exact .of_enlarged (consumeInboxWithCommand_enlarges wrote) jobId
  | createDeliveryJob =>
      simp only [transaction, bind_eq_ok] at done
      obtain ⟨_, wrote, done⟩ := done
      cases done
      exact .of_enlarged (createDeliveryJob_enlarges wrote) jobId
  | recordDeliveryPayload =>
      simp only [transaction, recordDeliveryPayload, bind_eq_ok] at done
      obtain ⟨⟨_, _⟩, ⟨-, -, -, -, wrote⟩, done⟩ := done
      cases done
      split at wrote
      · split at wrote <;> cases wrote <;> exact .same rfl
      · cases wrote
        exact .same rfl
  | claim =>
      simp only [transaction, bind_eq_ok] at done
      obtain ⟨⟨_, _⟩, wrote, done⟩ := done
      cases done
      obtain ⟨job, found, ⟨-, rfl⟩ | ⟨claimable, rfl, rfl⟩ | ⟨claimable, rfl, rfl⟩⟩ :=
        claimDeliveryJob_eq_ok wrote
      · exact .same rfl
      · exact .of_setJob found (.exhausted claimable) jobId
      · exact .of_setJob found (.claimed claimable) jobId
  | quarantineTransport =>
      simp only [transaction, bind_eq_ok] at done
      obtain ⟨_, wrote, done⟩ := done
      cases done
      obtain ⟨job, found, ⟨rfl, -⟩ | ⟨notSucceeded, notQuarantined, -, rfl⟩⟩ :=
        quarantineTransportDelivery_eq_ok wrote
      · exact .same rfl
      · exact .of_setJob found (.transported ⟨notSucceeded, notQuarantined⟩) jobId
  | recordReplayable =>
      simp only [transaction, recordReplayableAttempt, bind_eq_ok] at done
      obtain ⟨⟨_, _⟩, wrote, done⟩ := done
      cases done
      obtain ⟨job, found, ⟨-, rfl⟩ | ⟨fresh, rfl, rfl⟩⟩ := recordAttempt_eq_ok wrote
      · exact .same rfl
      · exact .of_setJob found (.replayed fresh) jobId
  | markExecuting =>
      simp only [transaction, bind_eq_ok] at done
      obtain ⟨⟨_, _⟩, wrote, done⟩ := done
      cases done
      obtain ⟨job, found, ⟨-, rfl⟩ | ⟨held, rfl, rfl⟩⟩ := markDeliveryExecuting_eq_ok wrote
      · exact .same rfl
      · exact .of_setJob found (.executing held) jobId
  | recordEvidence written =>
      simp only [transaction, bind_eq_ok] at done
      obtain ⟨_, wrote, done⟩ := done
      cases done
      cases recordDeliveryEvidence_eq_ok wrote
      cases found : db.deliveryJobs.get? written with
      | none =>
          refine .same ?_
          rw [Db.get?_setJob, found]
          split
          · rename_i same
            rw [same, found]
            rfl
          · rfl
      | some job => exact .of_setJob found .evidenced jobId
  | complete =>
      simp only [transaction, bind_eq_ok] at done
      obtain ⟨⟨_, _⟩, wrote, done⟩ := done
      cases done
      obtain ⟨job, found, ⟨-, rfl⟩ | ⟨held, rfl, _, _, shape, after⟩⟩ :=
        completeDeliveryWithEvidence_eq_ok wrote
      · exact .same rfl
      · exact .of_write found (.completed held shape) after jobId
  | recordFailed =>
      simp only [transaction, recordFailedRetryableAttempt, bind_eq_ok] at done
      obtain ⟨⟨_, _⟩, wrote, done⟩ := done
      cases done
      obtain ⟨job, found, ⟨-, rfl⟩ | ⟨fresh, rfl, rfl⟩⟩ := recordAttempt_eq_ok wrote
      · exact .same rfl
      · exact .of_setJob found (.retried fresh) jobId
  | correct =>
      simp only [transaction, bind_eq_ok] at done
      obtain ⟨⟨_, _⟩, wrote, done⟩ := done
      cases done
      obtain ⟨job, found, -, correctable, after⟩ := correctProceduralSourceHash_eq_ok wrote
      exact .of_write found (.corrected correctable) after jobId

end Neurons.Ingress
