import Neurons.Ingress.StateDb

/-! # Delivery jobs

A worker claims a job for a time, marks it executing, and reports what became of it.
A report that names its owner counts only while the owner's lease runs; one that names
no owner counts only while no lease runs. `record_delivery_evidence` asks for neither.
-/

namespace Neurons.Ingress

open Neurons.Lib
open Neurons.Source

/-- `_lease_is_live`. -/
def DeliveryJob.LeaseIsLive (job : DeliveryJob) (now : Int) : Prop := ∃ lease ∈ job.leaseUntil, now < lease

instance (job : DeliveryJob) (now : Int) : Decidable (job.LeaseIsLive now) := by
  unfold DeliveryJob.LeaseIsLive
  infer_instance

/-- The owner holds the job and its lease runs. -/
def DeliveryJob.HeldBy (job : DeliveryJob) (leaseOwner : String) (now : Int) : Prop :=
  job.leaseOwner = leaseOwner ∧ job.LeaseIsLive now

instance (job : DeliveryJob) (leaseOwner : String) (now : Int) : Decidable (job.HeldBy leaseOwner now) := by
  unfold DeliveryJob.HeldBy
  infer_instance

/-- The reporter of an attempt, named or not, has no say over the job. -/
def DeliveryJob.Stale (job : DeliveryJob) (leaseOwner : String) (now : Int) : Prop :=
  if leaseOwner = "" then job.LeaseIsLive now else ¬ job.HeldBy leaseOwner now

instance (job : DeliveryJob) (leaseOwner : String) (now : Int) : Decidable (job.Stale leaseOwner now) := by
  unfold DeliveryJob.Stale
  infer_instance

/-- A job this owner may claim: a pending one, one whose retry is due, or one that is
    leased to nobody else. -/
def DeliveryJob.Claimable (job : DeliveryJob) (leaseOwner : String) (now : Int) : Prop :=
  match job.status with
  | .pending => True
  | .replayable | .failedRetryable => ∃ due ∈ job.nextRetryAt, due ≤ now
  | .claimed | .executing => ¬ (job.LeaseIsLive now ∧ job.leaseOwner ∉ ["", leaseOwner])
  | .succeeded | .quarantined | .other _ => False

instance (job : DeliveryJob) (leaseOwner : String) (now : Int) :
    Decidable (job.Claimable leaseOwner now) := by
  unfold DeliveryJob.Claimable
  split <;> infer_instance

/-! ## What a report writes -/

/-- What the index says of a delivered document. -/
structure IndexRefs where
  datasetRef : String := ""
  documentRef : String := ""
  run : String := ""
  deriving DecidableEq, Repr

namespace DeliveryJob

def unlease (job : DeliveryJob) (now : Int) : DeliveryJob :=
  { job with leaseOwner := "", leaseUntil := none, updatedAt := now }

def lease (job : DeliveryJob) (leaseOwner : String) (leaseUntil now : Int) : DeliveryJob :=
  { job with status := .claimed, leaseOwner, leaseUntil := some leaseUntil, updatedAt := now }

def exhaust (job : DeliveryJob) (now : Int) : DeliveryJob :=
  { job.unlease now with status := .quarantined, lastErrorClass := "lease_attempt_limit" }

def quarantineTransport (job : DeliveryJob) (now : Int) : DeliveryJob :=
  { job.unlease now with
    status := .quarantined
    nextRetryAt := none
    lastErrorClass := if job.lastErrorClass = "" then "transport_max_deliver" else job.lastErrorClass }

/-- The report of an outcome. -/
def conclude (job : DeliveryJob) (status : DeliveryStatus) (refs : IndexRefs) (lastErrorClass : String)
    (observedAt now : Int) : DeliveryJob :=
  { job.unlease now with
    status, lastErrorClass
    indexTargetId := refs.datasetRef
    indexDocumentId := refs.documentRef
    indexRunId := refs.run
    lastReconciledAt := some observedAt }

/-- One more attempt uses the budget up. -/
def Spent (job : DeliveryJob) (maxAttempts : Int) : Prop := maxAttempts ≤ (job.attemptCount : Int) + 1

instance (job : DeliveryJob) (maxAttempts : Int) : Decidable (job.Spent maxAttempts) := by
  unfold Spent
  infer_instance

/-- An attempt whose outcome is not known. -/
def replay (job : DeliveryJob) (maxAttempts nextRetrySeconds now : Int) : DeliveryJob :=
  let concluded := job.Spent maxAttempts
  { job.unlease now with
    status := if concluded then .quarantined else .replayable
    attemptCount := job.attemptCount + 1
    nextRetryAt := if concluded then none else some (now + microseconds nextRetrySeconds)
    lastErrorClass := if concluded ∧ job.lastErrorClass ≠ "" then job.lastErrorClass
      else "remote_outcome_uncertain" }

/-- An attempt that failed. -/
def retry (job : DeliveryJob) (refs : IndexRefs) (errorClass : String) (observedAt : Int)
    (maxAttempts nextRetrySeconds now : Int) : DeliveryJob :=
  let concluded := job.Spent maxAttempts
  { job.conclude (if concluded then .quarantined else .failedRetryable) refs errorClass observedAt now with
    attemptCount := job.attemptCount + 1
    nextRetryAt := if concluded then none else some (now + microseconds nextRetrySeconds) }

def execute (job : DeliveryJob) (now : Int) : DeliveryJob :=
  { job with status := .executing, updatedAt := now }

/-- The report of an outcome that also counts as an attempt. -/
def concludeAttempt (job : DeliveryJob) (status : DeliveryStatus) (refs : IndexRefs)
    (lastErrorClass : String) (observedAt now : Int) : DeliveryJob :=
  { job.conclude status refs lastErrorClass observedAt now with attemptCount := job.attemptCount + 1 }

section Keys

variable (job : DeliveryJob) (status : DeliveryStatus) (refs : IndexRefs) (text : String)
variable (a b c d : Int)

theorem lease_key : (job.lease text a b).idempotencyKey = job.idempotencyKey := rfl
theorem exhaust_key : (job.exhaust a).idempotencyKey = job.idempotencyKey := rfl
theorem quarantineTransport_key : (job.quarantineTransport a).idempotencyKey = job.idempotencyKey := rfl
theorem conclude_key : (job.conclude status refs text a b).idempotencyKey = job.idempotencyKey := rfl
theorem concludeAttempt_key :
    (job.concludeAttempt status refs text a b).idempotencyKey = job.idempotencyKey := rfl
theorem execute_key : (job.execute a).idempotencyKey = job.idempotencyKey := rfl
theorem replay_key : (job.replay a b c).idempotencyKey = job.idempotencyKey := rfl
theorem retry_key : (job.retry refs text a b c d).idempotencyKey = job.idempotencyKey := rfl

end Keys

end DeliveryJob

/-- The jobs keep their idempotency keys. -/
def Db.setJob (db : Db) (jobId : String) (write : DeliveryJob → DeliveryJob)
    (keeps : ∀ job, (write job).idempotencyKey = job.idempotencyKey) : Db :=
  { db with deliveryJobs := db.deliveryJobs.update jobId write keeps }

/-- `SELECT * FROM delivery_jobs WHERE job_id = ?`, or `KeyError`. -/
def Db.job (db : Db) (jobId : String) : Except StateError DeliveryJob :=
  match db.deliveryJobs.get? jobId with
  | none => .error (.keyError jobId)
  | some job => .ok job

/-! ## Operations -/

def claimDeliveryJob (jobId leaseOwner : String) (leaseSeconds maxAttempts now : Int) (db : Db) :
    Except StateError (Bool × Db) := do
  let job ← db.job jobId
  if ¬ job.Claimable leaseOwner now then return (false, db)
  else if maxAttempts ≤ job.attemptCount then
    return (false, db.setJob jobId (·.exhaust now) (·.exhaust_key now))
  else
    let leaseUntil := now + microseconds leaseSeconds
    return (true, db.setJob jobId (·.lease leaseOwner leaseUntil now) (·.lease_key leaseOwner leaseUntil now))

def quarantineTransportDelivery (jobId : String) (expectedUpdatedAt : Stamp) (now : Int) (db : Db) :
    Except StateError Db := do
  let job ← db.job jobId
  if job.status = .succeeded ∨ job.status = .quarantined then return db
  else do
    rejectIf (some job.updatedAt ≠ expectedUpdatedAt ∨ job.LeaseIsLive now)
      (.staleOwner "transport_quarantine_version_or_lease")
    rejectIf (db.deliveryPayloads.get? job.idempotencyKey = none)
      (.stateDb "transport_quarantine_payload_missing")
    return db.setJob jobId (·.quarantineTransport now) (·.quarantineTransport_key now)

/-- The shared part of the two attempt reports; `none` is "stale_owner_rejected". -/
def recordAttempt (jobId leaseOwner : String) (now : Int) (write : DeliveryJob → DeliveryJob)
    (keeps : ∀ job, (write job).idempotencyKey = job.idempotencyKey) (db : Db) :
    Except StateError (Option DeliveryStatus × Db) := do
  let job ← db.job jobId
  if job.Stale leaseOwner now then return (none, db)
  else return (some (write job).status, db.setJob jobId write keeps)

def recordReplayableAttempt (jobId leaseOwner : String) (maxAttempts nextRetrySeconds now : Int)
    (db : Db) : Except StateError (Option DeliveryStatus × Db) :=
  recordAttempt jobId leaseOwner now (·.replay maxAttempts nextRetrySeconds now)
    (·.replay_key maxAttempts nextRetrySeconds now) db

def recordFailedRetryableAttempt (jobId leaseOwner : String) (refs : IndexRefs) (errorClass : String)
    (observedAt : Stamp) (maxAttempts nextRetrySeconds now : Int) (db : Db) :
    Except StateError (Option DeliveryStatus × Db) :=
  let evidenceAt := observedAt.getD now
  recordAttempt jobId leaseOwner now
    (·.retry refs errorClass evidenceAt maxAttempts nextRetrySeconds now)
    (·.retry_key refs errorClass evidenceAt maxAttempts nextRetrySeconds now) db

def markDeliveryExecuting (jobId leaseOwner : String) (now : Int) (db : Db) :
    Except StateError (Bool × Db) := do
  let job ← db.job jobId
  if ¬ job.HeldBy leaseOwner now then return (false, db)
  else return (true, db.setJob jobId (·.execute now) (·.execute_key now))

/-- `record_delivery_evidence`; a job that is not there is not updated. -/
def recordDeliveryEvidence (jobId : String) (status : DeliveryStatus) (refs : IndexRefs)
    (lastErrorClass : String) (observedAt : Int) (db : Db) : Except StateError Db := do
  rejectIf (status ∉ [.succeeded, .failedRetryable, .quarantined, .replayable])
    (.valueError "unsupported delivery evidence status")
  return db.setJob jobId (·.conclude status refs lastErrorClass observedAt observedAt)
    (·.conclude_key status refs lastErrorClass observedAt observedAt)

def correctionAuditId (jobId : String) : String := "source-correction:" ++ jobId

/-- The name of a completion status in an audit row. -/
def completionName : DeliveryStatus → String
  | .succeeded => "succeeded"
  | .failedRetryable => "failed_retryable"
  | .quarantined => "quarantined"
  | _ => ""

def completeDeliveryWithEvidence (jobId leaseOwner : String) (status : DeliveryStatus) (refs : IndexRefs)
    (lastErrorClass : String) (observedAt : Stamp) (now : Int) (db : Db) :
    Except StateError (Bool × Db) := do
  rejectIf (status ∉ [.succeeded, .failedRetryable, .quarantined])
    (.valueError "unsupported delivery completion status")
  let job ← db.job jobId
  if ¬ job.HeldBy leaseOwner now then return (false, db)
  else
    let evidenceAt := observedAt.getD now
    if db.domainRecords.get? (correctionAuditId jobId) = none then
      return (true, db.setJob jobId (·.conclude status refs lastErrorClass evidenceAt now)
        (·.conclude_key status refs lastErrorClass evidenceAt now))
    else
      return (true, insertCommandResult job.commandId
        ⟨"procedural_source_attempt_" ++ completionName status, "", lastErrorClass⟩ now
        (db.setJob jobId (·.concludeAttempt status refs lastErrorClass evidenceAt now)
          (·.concludeAttempt_key status refs lastErrorClass evidenceAt now)))

/-! ## Source corrections -/

/-- `value[key]`. -/
def subscript (value : Json) (key : Key) : Except StateError Json :=
  match value with
  | .obj fields =>
      match lookup key fields with
      | some item => .ok item
      | none => .error (.keyError key.name)
  | _ => .error (.python (.typeError "indices must be integers or slices"))

/-- `original["payload"]["document"]`. -/
def documentOf (payload : Doc) : Except StateError Json := do
  let wire ← subscript payload.json (.other "payload")
  subscript wire (.other "document")

/-- A text, or the error of the operation that expects one. -/
def expectText (value : Json) (error : PyError) : Except StateError String :=
  match value with
  | .str text => .ok text
  | _ => .error (.python error)

/-- `original[key] != text`, as part of the contract of a correction. -/
def expectField (original : Doc) (key : Key) (text : String) : Except StateError Unit := do
  let value ← subscript original.json key
  rejectIf (value ≠ .str text) (.stateDb "source_correction_payload_contract_mismatch")

variable (py : Platform)

/-- The retained payload is the one the correction was asked for and the one the job
    was made of; the answer is its identity. -/
def correctablePayload (job : DeliveryJob) (stored : StoredPayload) (expectedPayloadIdentity : String) :
    Except StateError String := do
  let original := stored.payloadJson
  let identity := sha256Hash py (.json original.json)
  rejectIf (identity ≠ expectedPayloadIdentity)
    (.stateDb "source_correction_payload_identity_mismatch")
  let document ← documentOf original
  let body ← subscript document (.field .body)
  let text ← expectText body (.attributeError "object has no attribute 'encode'")
  let contentHash := sha256Hash py (.text text)
  rejectIf (contentHash ≠ job.payloadHash ∨ contentHash ≠ stored.payloadHash)
    (.stateDb "source_correction_payload_contract_mismatch")
  expectField original (.other "contentHash") contentHash
  expectField original (.other "idempotencyKey") job.idempotencyKey
  expectField original (.field .kind) job.documentKind
  expectField original (.other "targetProfile") job.targetProfile
  let metadata ← subscript document (.other "metadata")
  let sessionIdHash ← subscript metadata (.field .sessionIdHash)
  let bare ← expectText sessionIdHash (.typeError "expected string or bytes-like object")
  rejectIf (isHexDigest bare.toList = false) (.stateDb "source_correction_not_bare_sha256")
  return identity

/-- A job whose one attempt ended uncertain and whose document may be corrected. -/
def DeliveryJob.Correctable (job : DeliveryJob) (expectedUpdatedAt : Stamp) (now : Int) : Prop :=
  some job.updatedAt = expectedUpdatedAt ∧ ¬ job.LeaseIsLive now ∧ job.status = .replayable ∧
    job.attemptCount = 1 ∧ job.lastErrorClass = "remote_outcome_uncertain" ∧
    job.documentKind = "repo_usage_pattern" ∧ job.targetProfile = "index-procedural-memory"

instance (job : DeliveryJob) (expectedUpdatedAt : Stamp) (now : Int) :
    Decidable (job.Correctable expectedUpdatedAt now) := by
  unfold DeliveryJob.Correctable
  infer_instance

def correctionRecord (jobId commandId identity : String) (now : Int) : DomainRecord where
  commandId := commandId
  resourceIdHash := jobId
  sessionIdHash := ""
  domainKind := "procedural_source_correction"
  lifecycleStatus := "preserved"
  version := 1
  payloadHash := identity
  payloadRef := ""
  createdAt := now

def correctProceduralSourceHash (jobId : String) (expectedUpdatedAt : Stamp)
    (expectedPayloadIdentity leaseOwner : String) (now : Int) (db : Db) :
    Except StateError (String × Db) := do
  rejectIf (leaseOwner = "") (.valueError "source correction lease owner is required")
  let job ← db.job jobId
  let auditId := correctionAuditId jobId
  rejectIf (db.domainRecords.get? auditId ≠ none)
    (.stateDb "source_correction_already_recorded_get_only")
  rejectIf (¬ job.Correctable expectedUpdatedAt now)
    (.staleOwner "source_correction_preimage_or_lease")
  match db.deliveryPayloads.get? job.idempotencyKey with
  | none => .error (.stateDb "source_correction_payload_missing")
  | some stored => do
      let identity ← correctablePayload py job stored expectedPayloadIdentity
      let audited := insertCommandResult job.commandId
        ⟨"procedural_source_correction_preserved", "", ""⟩ now
        { db with domainRecords :=
            db.domainRecords.set auditId (correctionRecord jobId job.commandId identity now) }
      let leaseUntil := now + microseconds 600
      return (auditId,
        audited.setJob jobId (·.lease leaseOwner leaseUntil now) (·.lease_key leaseOwner leaseUntil now))

/-! ## Runs -/

/-- One transaction of the state database. -/
inductive Op where
  | recordInboxShadow (payload : Doc) (payloadRef eventId freshId : String) (now : Int)
  | createCommand (commandId commandType idempotencyKey payloadHash : String) (status : CommandStatus)
      (now : Int)
  | consumeInboxWithCommand (spec : CommandSpec) (now : Int)
  | createDeliveryJob (spec : DeliveryJobSpec) (commandId : String) (now : Int)
  | recordDeliveryPayload (payload : Doc) (now : Int)
  | claim (jobId leaseOwner : String) (leaseSeconds maxAttempts now : Int)
  | quarantineTransport (jobId : String) (expectedUpdatedAt : Stamp) (now : Int)
  | recordReplayable (jobId leaseOwner : String) (maxAttempts nextRetrySeconds now : Int)
  | markExecuting (jobId leaseOwner : String) (now : Int)
  | recordEvidence (jobId : String) (status : DeliveryStatus) (refs : IndexRefs)
      (lastErrorClass : String) (observedAt : Int)
  | complete (jobId leaseOwner : String) (status : DeliveryStatus) (refs : IndexRefs)
      (lastErrorClass : String) (observedAt : Stamp) (now : Int)
  | recordFailed (jobId leaseOwner : String) (refs : IndexRefs) (errorClass : String)
      (observedAt : Stamp) (maxAttempts nextRetrySeconds now : Int)
  | correct (jobId : String) (expectedUpdatedAt : Stamp) (expectedPayloadIdentity leaseOwner : String)
      (now : Int)

/-- What a transaction answers. -/
inductive Answer where
  | none
  | decision (decision : Decision)
  | command (result : CommandTransactionResult)
  | payload (outcome : PayloadOutcome)
  | flag (done : Bool)
  | status (status : Option DeliveryStatus)
  | auditId (auditId : String)
  deriving DecidableEq

def transaction (op : Op) (db : Db) : Except StateError (Answer × Db) :=
  match op with
  | .recordInboxShadow payload payloadRef eventId freshId now => do
      let (decision, db) ← recordInboxShadow payload payloadRef eventId freshId now db
      return (.decision decision, db)
  | .createCommand commandId commandType key hash status now => do
      return (.none, ← createCommand commandId commandType key hash status now db)
  | .consumeInboxWithCommand spec now => do
      let (result, db) ← consumeInboxWithCommand spec now db
      return (.command result, db)
  | .createDeliveryJob spec commandId now => do
      return (.none, ← createDeliveryJob spec commandId now db)
  | .recordDeliveryPayload payload now => do
      let (outcome, db) ← recordDeliveryPayload payload now db
      return (.payload outcome, db)
  | .claim jobId leaseOwner leaseSeconds maxAttempts now => do
      let (done, db) ← claimDeliveryJob jobId leaseOwner leaseSeconds maxAttempts now db
      return (.flag done, db)
  | .quarantineTransport jobId expectedUpdatedAt now => do
      return (.none, ← quarantineTransportDelivery jobId expectedUpdatedAt now db)
  | .recordReplayable jobId leaseOwner maxAttempts nextRetrySeconds now => do
      let (status, db) ← recordReplayableAttempt jobId leaseOwner maxAttempts nextRetrySeconds now db
      return (.status status, db)
  | .markExecuting jobId leaseOwner now => do
      let (done, db) ← markDeliveryExecuting jobId leaseOwner now db
      return (.flag done, db)
  | .recordEvidence jobId status refs lastErrorClass observedAt => do
      return (.none, ← recordDeliveryEvidence jobId status refs lastErrorClass observedAt db)
  | .complete jobId leaseOwner status refs lastErrorClass observedAt now => do
      let (done, db) ← completeDeliveryWithEvidence jobId leaseOwner status refs lastErrorClass
        observedAt now db
      return (.flag done, db)
  | .recordFailed jobId leaseOwner refs errorClass observedAt maxAttempts nextRetrySeconds now => do
      let (status, db) ← recordFailedRetryableAttempt jobId leaseOwner refs errorClass observedAt
        maxAttempts nextRetrySeconds now db
      return (.status status, db)
  | .correct jobId expectedUpdatedAt identity leaseOwner now => do
      let (auditId, db) ← correctProceduralSourceHash py jobId expectedUpdatedAt identity leaseOwner now db
      return (.auditId auditId, db)

/-- Perform one transaction; an error rolls it back. -/
def perform (op : Op) (db : Db) : Except StateError Answer × Db :=
  match transaction py op db with
  | .ok (answer, db') => (.ok answer, db')
  | .error e => (.error e, db)

def step (db : Db) (op : Op) : Db := (perform py op db).2

end Neurons.Ingress
