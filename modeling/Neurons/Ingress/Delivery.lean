import Neurons.Ingress.DeliveryJobs
import Neurons.Lib.Program

/-! # Executor and reconciler

An executor claims a job, submits its document to the backend and reports the evidence;
a reconciler asks the backend what became of a job and reports that. Both are programs of
several transactions with backend calls between them, so other workers may act in
between. The backend is whatever answers the three questions they ask.
-/

namespace Neurons.Ingress

open Neurons.Lib
open Neurons.Source

/-! ## The backend -/

/-- `DeliveryJobView`. -/
structure DeliveryJobView where
  jobId : String
  idempotencyKey : String
  payloadHash : String
  targetProfile : String
  documentKind : String
  deriving DecidableEq, Repr

def DeliveryJob.view (job : DeliveryJob) (jobId : String) : DeliveryJobView :=
  ⟨jobId, job.idempotencyKey, job.payloadHash, job.targetProfile, job.documentKind⟩

inductive EvidenceStatus where
  | succeeded | failedRetryable | quarantined | payloadUnavailable | payloadIntegrityMismatch
  | other (text : String)
  deriving DecidableEq, Repr

/-- `DeliveryBackendEvidence`. -/
structure Evidence where
  idempotencyKey : String
  payloadHash : String
  refs : IndexRefs
  status : EvidenceStatus
  observedAt : Stamp
  deriving DecidableEq, Repr

/-- The evidence says that the delivery failed; an unknown status says nothing. -/
def EvidenceStatus.Denies : EvidenceStatus → Bool
  | failedRetryable | quarantined | payloadUnavailable | payloadIntegrityMismatch => true
  | succeeded | other _ => false

inductive BackendError where
  /-- `DeliveryOutcomeUncertain` -/
  | uncertain
  | raised (message : String)
  deriving DecidableEq, Repr

/-- A backend answers out of a state of its own. -/
structure Backend (B : Type) where
  submit : DeliveryJobView → B → Except BackendError Evidence × B
  findByNaturalKey : (idempotencyKey payloadHash : String) → B → Except BackendError (Option Evidence) × B
  status : (datasetRef documentRef : String) → B → Except BackendError (Option Evidence) × B

/-! ## Calls -/

inductive Call : Type → Type where
  | getDeliveryJob (jobId : String) : Call (Option DeliveryJob)
  | getDomainRecord (domainRecordId : String) : Call (Option DomainRecord)
  | transact (op : Op) : Call (Except StateError Answer)
  | submit (job : DeliveryJobView) : Call (Except BackendError Evidence)
  | findByNaturalKey (idempotencyKey payloadHash : String) : Call (Except BackendError (Option Evidence))
  | status (datasetRef documentRef : String) : Call (Except BackendError (Option Evidence))

structure World (B : Type) where
  db : Db
  backend : B

def exec {B : Type} (py : Platform) (backend : Backend B) {β : Type} (call : Call β) (world : World B) :
    β × World B :=
  match call with
  | .getDeliveryJob jobId => (world.db.deliveryJobs.get? jobId, world)
  | .getDomainRecord recordId => (world.db.domainRecords.get? recordId, world)
  | .transact op =>
      let (answer, db) := perform py op world.db
      (answer, { world with db })
  | .submit job =>
      let (reply, after) := backend.submit job world.backend
      (reply, { world with backend := after })
  | .findByNaturalKey idempotencyKey payloadHash =>
      let (reply, after) := backend.findByNaturalKey idempotencyKey payloadHash world.backend
      (reply, { world with backend := after })
  | .status datasetRef documentRef =>
      let (reply, after) := backend.status datasetRef documentRef world.backend
      (reply, { world with backend := after })

inductive DeliveryError where
  | state (error : StateError)
  | backend (error : BackendError)
  deriving DecidableEq, Repr

abbrev Client := Prog Call DeliveryError

/-- One transaction, whose error is the program's. -/
def commit (op : Op) : Client Answer :=
  .call (.transact op) fun reply =>
    match reply with
    | .ok answer => .done answer
    | .error error => .fail (.state error)

/-- The answer of a claim, a marking or a completion. -/
def commitFlag (op : Op) : Client Bool :=
  (commit op).bind fun answer => .done (decide (answer = .flag true))

/-- The answer of an attempt report; `none` is "stale_owner_rejected". -/
def commitStatus (op : Op) : Client (Option DeliveryStatus) :=
  (commit op).bind fun answer =>
    match answer with
    | .status status => .done status
    | _ => .done none

/-! ## The executor -/

inductive ReceiptStatus where
  | job (status : DeliveryStatus)
  | claimRejected | staleOwnerRejected | correctionReconcileRequired
  deriving DecidableEq, Repr

structure Receipt where
  status : ReceiptStatus
  submitAttempted : Bool := false
  deriving DecidableEq, Repr

/-- A lease holder's report, as the receipt shows it. -/
def Receipt.ofReport (status : Option DeliveryStatus) : Receipt :=
  ⟨(status.map ReceiptStatus.job).getD .staleOwnerRejected, true⟩

/-- One executor call: who executes, and the clock at each of its transactions. -/
structure Execution where
  leaseOwner : String
  leaseSeconds : Int
  jobId : String
  maxAttempts : Int
  claimedAt : Int
  executingAt : Int
  reportedAt : Int

/-- The report of a submission whose outcome is not known. -/
def reportUncertain (e : Execution) : Client Receipt :=
  (commitStatus (.recordReplayable e.jobId e.leaseOwner e.maxAttempts 60 e.reportedAt)).bind fun status =>
    .done (Receipt.ofReport status)

/-- The report of a final status. -/
def reportFinal (e : Execution) (status : DeliveryStatus) (evidence : Evidence) (lastErrorClass : String) :
    Client Receipt :=
  (commitFlag (.complete e.jobId e.leaseOwner status evidence.refs lastErrorClass evidence.observedAt
    e.reportedAt)).bind fun done =>
    if done then .done ⟨.job status, true⟩ else .done ⟨.staleOwnerRejected, true⟩

def reportEvidence (e : Execution) (evidence : Evidence) : Client Receipt :=
  match evidence.status with
  | .succeeded => reportFinal e .succeeded evidence ""
  | .quarantined => reportFinal e .quarantined evidence "delivery_quarantined"
  | .payloadUnavailable => reportFinal e .quarantined evidence "delivery_payload_unavailable"
  | .payloadIntegrityMismatch =>
      reportFinal e .quarantined evidence "delivery_payload_integrity_mismatch"
  | .failedRetryable =>
      (commitStatus (.recordFailed e.jobId e.leaseOwner evidence.refs "async_parse_failed"
        evidence.observedAt e.maxAttempts 60 e.reportedAt)).bind fun status =>
        .done (Receipt.ofReport status)
  | .other _ => reportUncertain e

/-- Submit a job whose lease was taken. -/
def submitClaimed (e : Execution) (row : DeliveryJob) : Client Receipt :=
  (commitFlag (.markExecuting e.jobId e.leaseOwner e.executingAt)).bind fun marked =>
    if marked then
      .call (.getDeliveryJob e.jobId) fun current =>
      .call (.submit ((current.getD row).view e.jobId)) fun submitted =>
        match submitted with
        | .ok evidence => reportEvidence e evidence
        | .error .uncertain => reportUncertain e
        | .error error => .fail (.backend error)
    else .done ⟨.staleOwnerRejected, false⟩

/-- A claim that was refused. -/
def reportRefused (e : Execution) : Client Receipt :=
  .call (.getDeliveryJob e.jobId) fun current =>
    match current with
    | some job => if job.status = .quarantined then .done ⟨.job .quarantined, false⟩
        else .done ⟨.claimRejected, false⟩
    | none => .done ⟨.claimRejected, false⟩

/-- Claim a job that is not over, then submit it. -/
def claimAndSubmit (e : Execution) (row : DeliveryJob) : Client Receipt :=
  match row.status with
  | .pending | .replayable | .failedRetryable | .claimed | .executing =>
      (commitFlag (.claim e.jobId e.leaseOwner (max e.leaseSeconds 60) e.maxAttempts
        e.claimedAt)).bind fun claimed =>
        if claimed then submitClaimed e row else reportRefused e
  | .succeeded | .quarantined | .other _ => .done ⟨.claimRejected, false⟩

def executeOnceWithReceipt (e : Execution) : Client Receipt :=
  .call (.getDeliveryJob e.jobId) fun found =>
    match found with
    | none => .fail (.state (.keyError e.jobId))
    | some row =>
        if row.status = .succeeded ∨ row.status = .quarantined then .done ⟨.job row.status, false⟩
        else .call (.getDomainRecord (correctionAuditId e.jobId)) fun correction =>
          if correction.isSome ∧ row.status ≠ .claimed then .done ⟨.correctionReconcileRequired, false⟩
          else if correction.isSome ∧ row.leaseOwner ≠ e.leaseOwner then .done ⟨.staleOwnerRejected, false⟩
          else claimAndSubmit e row

/-! ## The reconciler -/

/-- One reconciler call, and the clock at its transaction. -/
structure Reconciliation where
  jobId : String
  maxAttempts : Int
  reportedAt : Int

/-- An answer of the backend, whose error is the program's. -/
def ask {α : Type} (call : Call (Except BackendError α)) : Client α :=
  .call call fun reply =>
    match reply with
    | .ok answer => .done answer
    | .error error => .fail (.backend error)

/-- The status of the indexed document, where the job has one. It may be asked for when
    the natural key has no evidence, or confirms a success. -/
def refresh (row : DeliveryJob) (natural : Option Evidence) : Client (Option Evidence) :=
  if (natural.map Evidence.status).getD .succeeded = .succeeded ∧
      row.indexTargetId ≠ "" ∧ row.indexDocumentId ≠ "" then
    (ask (.status row.indexTargetId row.indexDocumentId)).bind fun found =>
      match found with
      | some evidence =>
          if natural = none ∨ evidence.status ≠ .other "unknown" then .done (some evidence)
          else .done natural
      | none => .done natural
  else .done natural

/-- The report of what the backend knows of the job. -/
def reportReconciled (r : Reconciliation) : Option Evidence → Client (Option DeliveryStatus)
  | none => commitStatus (.recordReplayable r.jobId "" r.maxAttempts 60 r.reportedAt)
  | some evidence =>
      let observedAt := evidence.observedAt.getD r.reportedAt
      match evidence.status with
      | .succeeded =>
          (commit (.recordEvidence r.jobId .succeeded evidence.refs "" observedAt)).bind fun _ =>
            .done (some .succeeded)
      | .failedRetryable =>
          commitStatus (.recordFailed r.jobId "" evidence.refs "async_parse_failed" evidence.observedAt
            r.maxAttempts 60 r.reportedAt)
      | .quarantined =>
          (commit (.recordEvidence r.jobId .quarantined evidence.refs "delivery_quarantined"
            observedAt)).bind fun _ => .done (some .quarantined)
      | .payloadUnavailable =>
          (commit (.recordEvidence r.jobId .quarantined evidence.refs "delivery_payload_unavailable"
            observedAt)).bind fun _ => .done (some .quarantined)
      | .payloadIntegrityMismatch =>
          (commit (.recordEvidence r.jobId .quarantined evidence.refs
            "delivery_payload_integrity_mismatch" observedAt)).bind fun _ => .done (some .quarantined)
      | .other _ => commitStatus (.recordReplayable r.jobId "" r.maxAttempts 60 r.reportedAt)

def reconcileOnce (r : Reconciliation) : Client (Option DeliveryStatus) :=
  .call (.getDeliveryJob r.jobId) fun found =>
    match found with
    | none => .fail (.state (.keyError r.jobId))
    | some row =>
        (ask (.findByNaturalKey row.idempotencyKey row.payloadHash)).bind fun natural =>
        (refresh row natural).bind fun evidence =>
        reportReconciled r evidence

/-! ## Entry points -/

/-- `record_delivery_evidence` is reached through the reconciler only. -/
def Op.Direct : Op → Prop
  | .recordEvidence .. => False
  | _ => True

/-- What a worker may call. -/
inductive Entry where
  | call (op : Op) (direct : op.Direct)
  | execute (e : Execution)
  | reconcile (r : Reconciliation)

inductive Reply where
  | answer (answer : Answer)
  | receipt (receipt : Receipt)
  | reconciled (status : Option DeliveryStatus)

def Entry.program : Entry → Client Reply
  | .call op _ => (commit op).bind fun answer => .done (.answer answer)
  | .execute e => (executeOnceWithReceipt e).bind fun receipt => .done (.receipt receipt)
  | .reconcile r => (reconcileOnce r).bind fun status => .done (.reconciled status)

end Neurons.Ingress
