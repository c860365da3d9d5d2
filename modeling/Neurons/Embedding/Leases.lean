import Neurons.Embedding.LocalOutbox

/-! # Leases on embedding jobs

A worker claims a batch of jobs for a time, renews its leases, and reports each job
complete or failed. A report counts only while the lease runs and under the token of
the claim. What runs out of attempts becomes a dead letter, which an operator may
put back.
-/

namespace Neurons.Embedding

open Neurons.Lib
open Neurons.Source
open Neurons.Steward (CardRow)

def microseconds (seconds : ℕ) : Int := 1000000 * (seconds : Int)

section Leases

variable {V C : Type} (host : Host V C)

/-! ## Claims -/

/-- One claim: the clock as the scan reads it, the clock at each candidate, and the
    candidates whose locks are free. -/
structure Claim where
  workerId : String
  batchSize : ℕ
  leaseSeconds : ℕ
  maxRetries : Int
  scannedAt : Int
  clock : ℕ → Int
  unlocked : ℕ → Bool

/-- A job a worker may take: a new one, a failed one that is due, or one whose worker
    let the lease run out. -/
def Job.Claimable (job : Job) (maxRetries now : Int) : Prop :=
  job.status = .queued ∨
    (job.status = .failed ∧ (job.retryCount : Int) < maxRetries ∧ ∀ due ∈ job.nextAttemptAt, due ≤ now) ∨
    (job.status = .processing ∧ (job.retryCount : Int) < maxRetries ∧
      ∃ lease ∈ job.leaseUntil, lease < now)

instance (job : Job) (maxRetries now : Int) : Decidable (job.Claimable maxRetries now) := by
  unfold Job.Claimable
  infer_instance

/-- The target was deleted, or lives again under another number. -/
def Tombstone.Outlives (tombstone : Tombstone) (incarnation : ℕ) : Prop :=
  tombstone.deletedAt ≠ none ∨ tombstone.incarnation ≠ incarnation

instance (tombstone : Tombstone) (incarnation : ℕ) : Decidable (tombstone.Outlives incarnation) := by
  unfold Tombstone.Outlives
  infer_instance

/-- A tombstone says that the job is for a life of its target that is over. -/
def Db.Outlived (db : Db C) (job : Job) : Prop :=
  ∃ tombstone ∈ db.tombstones.get? job.target, tombstone.Outlives job.incarnation

instance (db : Db C) (job : Job) : Decidable (db.Outlived job) := by
  unfold Db.Outlived
  infer_instance

/-- The last attempt of the job was the one whose lease ran out. -/
def Job.Exhausted (job : Job) (maxRetries : Int) : Prop :=
  job.status = .processing ∧ maxRetries ≤ (job.retryCount : Int) + 1

instance (job : Job) (maxRetries : Int) : Decidable (job.Exhausted maxRetries) := by
  unfold Job.Exhausted
  infer_instance

def Job.exhaust (job : Job) : Job :=
  { job with
    status := .deadLetter
    retryCount := job.retryCount + 1
    leaseUntil := none
    lastError := some "lease expired and retry budget exhausted" }

/-- A job that ends without an answer. -/
def Job.close (job : Job) (status : JobStatus) (error : String) : Job :=
  { job with status, leaseUntil := none, lastError := some error }

def Job.lease (job : Job) (workerId : String) (leaseSeconds : ℕ) (now : Int) : Job :=
  { job with
    status := .processing
    retryCount := if job.status = .processing then job.retryCount + 1 else job.retryCount
    fencingToken := job.fencingToken + 1
    workerId := some workerId
    leaseUntil := some (now + microseconds leaseSeconds)
    lastError := if job.status = .processing then some "lease expired; reclaimed" else job.lastError }

def Db.setJob (db : Db C) (outboxId : ℕ) (job : Job) : Db C :=
  { db with outbox := db.outbox.set outboxId job }

/-- One candidate of a claim, under its locks: the job the worker gets, if any. -/
def leaseCandidate (claim : Claim) (outboxId : ℕ) (db : Db C) :
    Except PyError (Option (ℕ × Job) × Db C) :=
  match if claim.unlocked outboxId then db.outbox.get? outboxId else none with
  | none => .ok (none, db)
  | some job =>
      if ¬ job.Claimable claim.maxRetries (claim.clock outboxId) then .ok (none, db)
      else if job.Exhausted claim.maxRetries then
        if db.contentHash? job.target = none then
          .error (.databaseError "violates foreign key constraint")
        else
          let failed : Derived C := ⟨job.sourceContentHash, job.inputHash, none, .failed⟩
          .ok (none, { db.setJob outboxId job.exhaust with
            derived := db.derived.set job.target failed })
      else if db.Outlived job then
        .ok (none, db.setJob outboxId
          (job.close .cancelled "cancelled: target deleted or incarnation changed"))
      else if db.contentHash? job.target ≠ some job.sourceContentHash then
        .ok (none, db.setJob outboxId
          (job.close .casSkipped "CAS skip: parent missing or content_hash changed"))
      else
        let leased := job.lease claim.workerId claim.leaseSeconds (claim.clock outboxId)
        .ok (some (outboxId, leased), db.setJob outboxId leased)

/-- The candidates in turn, until the batch is full. -/
def leaseCandidates (claim : Claim) : List ℕ → List (ℕ × Job) → Db C →
    Except PyError (List (ℕ × Job) × Db C)
  | [], claimed, db => .ok (claimed, db)
  | outboxId :: rest, claimed, db =>
      if claim.batchSize ≤ claimed.length then .ok (claimed, db)
      else do
        let (leased, db) ← leaseCandidate claim outboxId db
        leaseCandidates claim rest (claimed ++ leased.toList) db

/-- The scan for candidates, oldest first. -/
def candidates (claim : Claim) (outbox : Table ℕ Job) : List ℕ :=
  let claimable := outbox.entries.filter
    (fun entry => decide (entry.2.Claimable claim.maxRetries claim.scannedAt))
  ((sortOn (fun entry : ℕ × Job => toLex (entry.2.createdAt, entry.1)) claimable).take
    (max (claim.batchSize * 4) 16)).map Prod.fst

def claimLocalOutboxLeases (claim : Claim) (db : Db C) : Except PyError (List (ℕ × Job) × Db C) := do
  refuseIf (claim.workerId = "" ∨ claim.batchSize < 1 ∨ claim.leaseSeconds < 1)
    (.valueError "invalid local outbox lease arguments")
  leaseCandidates claim (candidates claim db.outbox) [] db

/-! ## Reports -/

/-- The worker holds the job under this token and its lease still runs. -/
def Job.HeldBy (job : Job) (workerId : String) (fencingToken : ℕ) (now : Int) : Prop :=
  job.status = .processing ∧ job.workerId = some workerId ∧ job.fencingToken = fencingToken ∧
    ∃ lease ∈ job.leaseUntil, now < lease

instance (job : Job) (workerId : String) (fencingToken : ℕ) (now : Int) :
    Decidable (job.HeldBy workerId fencingToken now) := by
  unfold Job.HeldBy
  infer_instance

def renewLocalOutboxLease (outboxId : ℕ) (workerId : String) (fencingToken leaseSeconds : ℕ)
    (now : Int) (db : Db C) : Except PyError (Bool × Db C) := do
  refuseIf (workerId = "" ∨ leaseSeconds < 1 ∨ fencingToken < 1)
    (.valueError "invalid local outbox lease renewal arguments")
  match db.outbox.get? outboxId with
  | none => return (false, db)
  | some job =>
      if job.HeldBy workerId fencingToken now then
        return (true, db.setJob outboxId
          { job with leaseUntil := some (now + microseconds leaseSeconds) })
      else return (false, db)

/-- The job of a report, if the reporter still holds it. -/
def heldJob (outboxId : ℕ) (workerId : String) (fencingToken : ℕ) (now : Int) (db : Db C) :
    Except PyError Job :=
  match db.outbox.get? outboxId with
  | none => .error (.valueError "local outbox job not found")
  | some job => do
      refuseIf (¬ job.HeldBy workerId fencingToken now)
        (.valueError "local outbox job not found or lease/fencing_token mismatch")
      return job

def Job.finish (job : Job) : Job :=
  { job with status := .completed, leaseUntil := none, lastError := none }

/-- `CAS skip: parent card deleted` or `CAS skip: parent chunk deleted`. -/
def parentDeleted : Target → String
  | .card _ => "CAS skip: parent card deleted"
  | .chunk _ => "CAS skip: parent chunk deleted"

/-- Write the vector of a job back if the parent is still what the job was made from. -/
def writeBack (outboxId : ℕ) (job : Job) (column : C) (db : Db C) : Except PyError (Bool × Db C) :=
  if db.Outlived job then
    .ok (false, db.setJob outboxId
      (job.close .cancelled "CAS skip: target deleted or incarnation changed"))
  else
    match canonicalInput? host db job.target with
    | none => .ok (false, db.setJob outboxId (job.close .cancelled (parentDeleted job.target)))
    | some input =>
        if db.contentHash? job.target ≠ some job.sourceContentHash ∨
            inputHashOf host input ≠ job.inputHash then
          .ok (false, db.setJob outboxId
            (job.close .casSkipped "CAS skip: source or input hash mismatch"))
        else do
          refuseIf (¬ host.positiveNorm column)
            (.databaseError "violates check constraint on vector")
          let ready : Derived C := ⟨job.sourceContentHash, job.inputHash, some column, .ready⟩
          return (true, { db.setJob outboxId job.finish with
            derived := db.derived.set job.target ready })

def completeLocalOutboxCas (outboxId : ℕ) (workerId : String) (fencingToken : ℕ) (vector : V)
    (now : Int) (db : Db C) : Except PyError (Bool × Db C) := do
  refuseIf (workerId = "" ∨ outboxId < 1 ∨ fencingToken < 1) (.valueError
    "local embedding write-back requires outbox_id, worker_id, and fencing_token")
  let column ← host.localVector vector
  let job ← heldJob outboxId workerId fencingToken now db
  writeBack host outboxId job column db

/-- `min(60, 2 ** retry_count)` seconds. -/
def backoff (retryCount : ℕ) : Int := microseconds (min 60 (2 ^ retryCount))

/-- A failed attempt: back to the queue after a pause, or a dead letter. -/
def Job.fail (job : Job) (error : String) (retryable : Bool) (maxRetries now : Int) : Job :=
  let concluded := !retryable || decide (maxRetries ≤ (job.retryCount : Int) + 1)
  { job with
    retryCount := job.retryCount + 1
    lastError := some error
    status := if concluded then .deadLetter else .failed
    leaseUntil := none
    nextAttemptAt := if concluded then none else some (now + backoff (job.retryCount + 1)) }

/-- `str(error_code or "unknown_error")[:200]`. -/
def safeError (errorCode : String) : String :=
  String.ofList ((if errorCode = "" then "unknown_error" else errorCode).toList.take 200)

/-- Give the derived row another state, if it is of these hashes and not ready. -/
def markDerived (target : Target) (state : DerivedState) (matching : Derived C → Bool)
    (derived : Table Target (Derived C)) : Table Target (Derived C) :=
  match derived.get? target with
  | none => derived
  | some row =>
      if matching row && decide (row.state ≠ .ready) then derived.set target { row with state }
      else derived

def markLocalOutboxFailed (outboxId : ℕ) (workerId : String) (fencingToken : ℕ) (errorCode : String)
    (retryable : Bool) (maxRetries now : Int) (db : Db C) : Except PyError (JobStatus × Db C) := do
  refuseIf (maxRetries < 1) (.valueError "max_retries must be positive")
  refuseIf (workerId = "" ∨ outboxId < 1 ∨ fencingToken < 1)
    (.valueError "local outbox failure requires outbox_id, worker_id, and fencing_token")
  let job ← heldJob outboxId workerId fencingToken now db
  let failed := job.fail (safeError errorCode) retryable maxRetries now
  let derived := if failed.status = .deadLetter then
      markDerived job.target .failed (fun row =>
        row.sourceContentHash = job.sourceContentHash && row.inputHash = job.inputHash) db.derived
    else db.derived
  return (failed.status, { db.setJob outboxId failed with derived })

/-! ## Dead letters -/

/-- A dead letter an operator asks for, by its error and its target. -/
def Job.Requeueable (job : Job) (allowed : List String) (targetIds : Option (List String)) : Prop :=
  job.status = .deadLetter ∧ (∃ error ∈ job.lastError, removeprefix "retryable_error:" error ∈ allowed) ∧
    ∀ ids ∈ targetIds, job.target.id ∈ ids

instance (job : Job) (allowed : List String) (targetIds : Option (List String)) :
    Decidable (job.Requeueable allowed targetIds) := by
  unfold Job.Requeueable
  infer_instance

/-- Another job of the same work runs, waits or is done. -/
def Db.Superseded (db : Db C) (job : Job) : Prop :=
  ∃ entry ∈ db.outbox.entries,
    entry.2.IsFor job.target job.sourceContentHash job.inputHash job.incarnation ∧
      (entry.2.status.active ∨ entry.2.status = .completed)

instance (db : Db C) (job : Job) : Decidable (db.Superseded job) := by
  unfold Db.Superseded
  infer_instance

def Job.requeue (job : Job) : Job :=
  { job with
    status := .queued
    retryCount := 0
    nextAttemptAt := none
    leaseUntil := none
    workerId := none }

/-- One dead letter, put back if it is still wanted; whether it was. -/
def requeueCandidate (outboxId : ℕ) (db : Db C) : Bool × Db C :=
  match db.outbox.get? outboxId with
  | none => (false, db)
  | some job =>
      if job.status ≠ .deadLetter ∨ db.Outlived job ∨
          db.contentHash? job.target ≠ some job.sourceContentHash ∨ db.Superseded job then
        (false, db)
      else (true, { db.setJob outboxId job.requeue with
        derived := markDerived job.target .pending
          (fun row => row.sourceContentHash = job.sourceContentHash) db.derived })

/-- The candidates in turn; the ids of those put back. -/
def requeueCandidates : List ℕ → Db C → List ℕ × Db C
  | [], db => ([], db)
  | outboxId :: rest, db =>
      let (done, db) := requeueCandidate outboxId db
      let (requeued, db) := requeueCandidates rest db
      (if done then outboxId :: requeued else requeued, db)

/-- The dead letters an operator asks for, in the order of their ids. -/
def deadLetters (allowed : List String) (targetIds : Option (List String)) (outbox : Table ℕ Job) :
    List ℕ :=
  sortOn id ((outbox.entries.filter
    (fun entry => decide (entry.2.Requeueable allowed targetIds))).map Prod.fst)

/-- `requeue_local_dead_letters`; the source answers with the number of the ids. -/
def requeueLocalDeadLetters (targetIds : Option (List String)) (allowedErrorCodes : List String)
    (db : Db C) : List ℕ × Db C :=
  let allowed := allowedErrorCodes.filter (· ≠ "")
  let ids := targetIds.map (·.filter (· ≠ ""))
  if allowed = [] ∨ ids = some [] then ([], db)
  else requeueCandidates (deadLetters allowed ids db.outbox) db

/-! ## Steward decisions -/

/-- The steward's library, with the local enqueues of a transaction noted down. -/
def recording (lib : Steward.Library) : Steward.Library :=
  { lib with enqueueLocal := fun requests stored => .ok (requests ++ [stored.json]) }

/-- The local work of an approved card. -/
def enqueueApproved (request : Json) (now : Int) (db : Db C) : Except PyError (Db C) :=
  match Doc.ofJson? request with
  | none => .error (.typeError "a changed card is a mapping")
  | some stored => do
      let payloadText ← cardInputV1 host (Steward.value stored .summary) (Steward.value stored .title)
        (Steward.value stored .typedPayload)
      let (_, db) ← enqueueLocalOutboxOn host (.card (Steward.value stored .memoryId).text)
        (Steward.value stored .contentHash).text payloadText now db
      return db

/-- What the steward's own tables come to, with the cards to enqueue noted down. -/
def stewardOutcome (call : Steward.Call) (db : Db C) : Except PyError Steward.Reply × Steward.Db :=
  Steward.perform (recording host.lib) call { db.steward with localTables := [] }

/-- The changed cards a steward call hands to the local outbox. -/
def approvedCards (call : Steward.Call) (db : Db C) : List Json :=
  (stewardOutcome host call db).2.localTables

/-- The database once a steward call has decided, before its enqueues. -/
def decidedDb (call : Steward.Call) (db : Db C) : Db C :=
  { db with steward := { (stewardOutcome host call db).2 with localTables := [] } }

/-- One steward call. Its decisions write no column an enqueue reads, so the enqueues
    noted down are played at the end of the transaction. -/
def stewardCall (call : Steward.Call) (now : Int) (db : Db C) :
    Except PyError (Except PyError Steward.Reply × Db C) := do
  let db' ← (approvedCards host call db).foldlM
    (fun db request => enqueueApproved host request now db) (decidedDb host call db)
  return ((stewardOutcome host call db).1, db')

/-! ## Runs -/

inductive Op (V : Type) where
  | upsertCard (card : CardRow) (now : Int)
  | steward (call : Steward.Call) (now : Int)
  | insertChunk (insertOnly : Bool) (chunk : SessionChunk)
  | insertChunkWithLocalOutbox (insertOnly : Bool) (chunk : SessionChunk) (now : Int)
  | enqueue (target : Target) (sourceHash payloadText : String) (now : Int)
  | deleteCard (memoryId : String) (referenced : Bool) (now : Int)
  | deleteSessionChunk (chunkId : String) (now : Int)
  | claim (claim : Claim)
  | renew (outboxId : ℕ) (workerId : String) (fencingToken leaseSeconds : ℕ) (now : Int)
  | complete (outboxId : ℕ) (workerId : String) (fencingToken : ℕ) (vector : V) (now : Int)
  | markFailed (outboxId : ℕ) (workerId : String) (fencingToken : ℕ) (errorCode : String)
      (retryable : Bool) (maxRetries now : Int)
  | requeue (targetIds : Option (List String)) (allowedErrorCodes : List String)

/-- What an operation answers. -/
inductive Answer where
  | none
  | outboxId (outboxId : ℕ)
  | reply (reply : Except PyError Steward.Reply)
  | leased (jobs : List (ℕ × Job))
  | flag (done : Bool)
  | status (status : JobStatus)
  | requeued (outboxIds : List ℕ)

def transaction (op : Op V) (db : Db C) : Except PyError (Answer × Db C) :=
  match op with
  | .upsertCard card now => return (.none, ← upsertCard host card now db)
  | .steward call now => do
      let (reply, db) ← stewardCall host call now db
      return (.reply reply, db)
  | .insertChunk insertOnly chunk => return (.none, ← insertChunk host insertOnly chunk db)
  | .insertChunkWithLocalOutbox insertOnly chunk now => do
      let (outboxId, db) ← insertChunkWithLocalOutbox host insertOnly chunk now db
      return (.outboxId outboxId, db)
  | .enqueue target sourceHash payloadText now => do
      let (outboxId, db) ← enqueueLocalOutboxOn host target sourceHash payloadText now db
      return (.outboxId outboxId, db)
  | .deleteCard memoryId referenced now => return (.none, ← deleteCard memoryId referenced now db)
  | .deleteSessionChunk chunkId now => .ok (.none, deleteSessionChunk chunkId now db)
  | .claim claim => do
      let (jobs, db) ← claimLocalOutboxLeases claim db
      return (.leased jobs, db)
  | .renew outboxId workerId token seconds now => do
      let (done, db) ← renewLocalOutboxLease outboxId workerId token seconds now db
      return (.flag done, db)
  | .complete outboxId workerId token vector now => do
      let (done, db) ← completeLocalOutboxCas host outboxId workerId token vector now db
      return (.flag done, db)
  | .markFailed outboxId workerId token errorCode retryable maxRetries now => do
      let (status, db) ← markLocalOutboxFailed outboxId workerId token errorCode retryable
        maxRetries now db
      return (.status status, db)
  | .requeue targetIds allowed =>
      let (outboxIds, db) := requeueLocalDeadLetters targetIds allowed db
      .ok (.requeued outboxIds, db)

/-- Perform one operation; an error rolls its transaction back. -/
def perform (op : Op V) (db : Db C) : Except PyError Answer × Db C :=
  match transaction host op db with
  | .ok (answer, db') => (.ok answer, db')
  | .error e => (.error e, db)

def step (db : Db C) (op : Op V) : Db C := (perform host op db).2

end Leases

end Neurons.Embedding
