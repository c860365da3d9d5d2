import Neurons.Lib.Indexed
import Neurons.Source.DocumentModel

/-! # The ingress state database

The server keeps what it accepted in one SQLite database: the inbox, the commands and
their results, the projections, the delivery jobs and the payloads to deliver. Every
operation is one transaction, and one that raises leaves nothing behind. A command and
a delivery job are found by their own id and by their idempotency key, both unique.

A time column holds the text of an instant or is empty. The texts are ISO times in
UTC, whose order is that of the instants, so a column is modelled by the instant in
microseconds.
-/

namespace Neurons.Ingress

open Neurons.Lib
open Neurons.Source

/-- A time column; `none` is the empty text. -/
abbrev Stamp := Option Int

def microseconds (seconds : Int) : Int := 1000000 * seconds

/-! ## Errors -/

inductive StateError where
  | keyError (key : String)
  | valueError (message : String)
  /-- `StateDBError` -/
  | stateDb (message : String)
  /-- `StaleOwnerRejected` -/
  | staleOwner (message : String)
  /-- `sqlite3.IntegrityError` -/
  | integrity (constraint : String)
  /-- what Python itself raises on a value of the wrong type, and the payload screens -/
  | python (error : PyError)
  /-- `RuntimeError("state db accept failed")`, raised from its cause -/
  | acceptFailed (cause : StateError)
  /-- `RuntimeError("state db accept rejected: conflict")` -/
  | acceptConflict
  deriving DecidableEq, Repr

/-- The error comes from a database constraint. -/
def StateError.isIntegrity : StateError → Bool
  | integrity _ => true
  | acceptFailed cause => cause.isIntegrity
  | _ => false

/-- `if condition: raise error`. -/
def rejectIf (condition : Prop) [Decidable condition] (error : StateError) : Except StateError Unit :=
  if condition then .error error else .ok ()

@[simp] theorem rejectIf_eq_ok {condition : Prop} [Decidable condition] {error : StateError} {u : Unit} :
    rejectIf condition error = .ok u ↔ ¬ condition := by
  by_cases holds : condition <;> simp [rejectIf, holds]

/-! ## Rows -/

/-- `IdempotencyOutcome`. -/
inductive Outcome where
  | accepted | duplicate | conflict | quarantined | replayable
  deriving DecidableEq, Repr

inductive DeliveryStatus where
  | pending | claimed | executing | replayable | failedRetryable | succeeded | quarantined
  | other (text : String)
  deriving DecidableEq, Repr

inductive CommandStatus where
  | pending | completed | quarantined
  | other (text : String)
  deriving DecidableEq, Repr

structure InboxEvent where
  idempotencyKey : String
  payloadHash : String
  source : Json
  kind : String
  targetProfile : String
  payloadRef : String
  acceptOutcome : Outcome
  outcomeReason : String
  consumedByCommandId : String
  consumedAt : Stamp
  createdAt : Int
  updatedAt : Int
  deriving DecidableEq

structure Command where
  commandType : String
  resourceIdHash : String
  sessionIdHash : String
  idempotencyKey : String
  payloadHash : String
  inputEpoch : String
  status : CommandStatus
  leaseOwner : String
  leaseUntil : Stamp
  attemptCount : ℕ
  lastErrorClass : String
  createdAt : Int
  updatedAt : Int
  deriving DecidableEq

structure CommandResult where
  commandId : String
  decision : String
  resultPayloadRef : String
  errorClass : String
  createdAt : Int
  deriving DecidableEq

structure DomainRecord where
  commandId : String
  resourceIdHash : String
  sessionIdHash : String
  domainKind : String
  lifecycleStatus : String
  version : ℕ
  payloadHash : String
  payloadRef : String
  createdAt : Int
  deriving DecidableEq

structure DeliveryJob where
  commandId : String
  idempotencyKey : String
  payloadHash : String
  targetProfile : String
  documentKind : String
  status : DeliveryStatus
  attemptCount : ℕ
  nextRetryAt : Stamp
  leaseOwner : String
  leaseUntil : Stamp
  indexTargetId : String
  indexDocumentId : String
  indexRunId : String
  lastErrorClass : String
  lastReconciledAt : Stamp
  createdAt : Int
  updatedAt : Int
  deriving DecidableEq

structure StoredPayload where
  payloadHash : String
  payloadJson : Doc
  recordedAt : Int
  deriving DecidableEq

structure Db where
  inboxEvents : Table String InboxEvent
  commands : Indexed String String Command Command.idempotencyKey
  commandResults : List CommandResult
  domainRecords : Table String DomainRecord
  deliveryJobs : Indexed String String DeliveryJob DeliveryJob.idempotencyKey
  deliveryPayloads : Table String StoredPayload

def Db.empty : Db := ⟨∅, ∅, [], ∅, ∅, ∅⟩

/-! ## Idempotency -/

/-- What `classify_idempotency` reads of an existing row. An inbox row has no status and a
    delivery job has no accepted outcome. -/
structure Prior where
  acceptOutcome : Option Outcome
  status : Option DeliveryStatus
  idempotencyKey : String
  payloadHash : String

structure Decision where
  outcome : Outcome
  reason : String
  deriving DecidableEq, Repr

/-- The terminal outcome an earlier attempt left, which is kept. -/
def Prior.preserved (prior : Prior) : Option Decision :=
  match prior.acceptOutcome, prior.status with
  | some .quarantined, _ => some ⟨.quarantined, "existing_quarantined"⟩
  | some .replayable, _ => some ⟨.replayable, "existing_replayable"⟩
  | _, some .quarantined => some ⟨.quarantined, "existing_quarantined"⟩
  | _, some .replayable => some ⟨.replayable, "existing_replayable"⟩
  | _, _ => none

theorem Prior.preserved_outcome {prior : Prior} {decision : Decision}
    (kept : prior.preserved = some decision) :
    decision.outcome = .quarantined ∨ decision.outcome = .replayable := by
  unfold Prior.preserved at kept
  split at kept <;> cases kept <;> simp

/-- The outcome of an attempt against an existing row. -/
def decideIdempotency (existing : Option Prior) (idempotencyKey payloadHash : String) : Decision :=
  match existing with
  | none => ⟨.accepted, "new_idempotency_key"⟩
  | some prior =>
      match prior.preserved with
      | some decision => decision
      | none =>
          if prior.idempotencyKey ≠ idempotencyKey then ⟨.accepted, "different_idempotency_key"⟩
          else if prior.payloadHash = payloadHash then ⟨.duplicate, "same_key_same_payload_hash"⟩
          else ⟨.conflict, "same_key_different_payload_hash"⟩

def classifyIdempotency (existing : Option Prior) (idempotencyKey payloadHash : String) :
    Except StateError Decision := do
  rejectIf (idempotencyKey = "") (.valueError "idempotency_key is required")
  rejectIf (payloadHash = "") (.valueError "payload_hash is required")
  return decideIdempotency existing idempotencyKey payloadHash

theorem classifyIdempotency_eq (existing : Option Prior) {idempotencyKey payloadHash : String}
    (key : idempotencyKey ≠ "") (hash : payloadHash ≠ "") :
    classifyIdempotency existing idempotencyKey payloadHash =
      .ok (decideIdempotency existing idempotencyKey payloadHash) := by
  simp [classifyIdempotency, rejectIf, key, hash]

def InboxEvent.prior (event : InboxEvent) : Prior :=
  ⟨some event.acceptOutcome, none, event.idempotencyKey, event.payloadHash⟩

def DeliveryJob.prior (job : DeliveryJob) : Prior :=
  ⟨none, some job.status, job.idempotencyKey, job.payloadHash⟩

/-! ## The inbox -/

/-- `payload.get(a) or payload.get(b) or ...`. -/
def firstOf (payload : Doc) (keys : List Key) : Option Json :=
  keys.findSome? (fun key => (Dict.get? payload key).filter Json.truthy)

/-- `str(payload.get(a) or payload.get(b) or "")`. -/
def firstText (payload : Doc) (keys : List Key) : String := ((firstOf payload keys).map Json.text).getD ""

/-- The oldest inbox row of a key. -/
def firstInboxEvent (idempotencyKey : String) (db : Db) : Option InboxEvent :=
  (sortOn InboxEvent.createdAt (db.inboxEvents.values.filter
    (fun event => event.idempotencyKey = idempotencyKey))).head?

/-- `str(payload.get("idempotencyKey") or payload.get("idempotency_key") or "")`. -/
def inboxKey (payload : Doc) : String :=
  firstText payload [.other "idempotencyKey", .field .idempotencyKey]

/-- `str(payload.get("contentHash") or payload.get("payload_hash") or "")`. -/
def inboxHash (payload : Doc) : String := firstText payload [.other "contentHash", .field .payloadHash]

def newInboxEvent (payload : Doc) (payloadRef : String) (decision : Decision) (now : Int) : InboxEvent where
  idempotencyKey := inboxKey payload
  payloadHash := inboxHash payload
  source := (firstOf payload [.other "source"]).getD (.obj [])
  kind := firstText payload [.field .kind]
  targetProfile := firstText payload [.other "targetProfile", .field .targetProfile]
  payloadRef := payloadRef
  acceptOutcome := decision.outcome
  outcomeReason := decision.reason
  consumedByCommandId := ""
  consumedAt := none
  createdAt := now
  updatedAt := now

/-- `record_inbox_shadow`; the event is named by its caller or gets a new id. -/
def recordInboxShadow (payload : Doc) (payloadRef eventId freshId : String) (now : Int) (db : Db) :
    Except StateError (Decision × Db) := do
  rejectIf (inboxKey payload = "") (.valueError "idempotencyKey is required")
  rejectIf (inboxHash payload = "") (.valueError "contentHash is required")
  let decision ← classifyIdempotency ((firstInboxEvent (inboxKey payload) db).map InboxEvent.prior)
    (inboxKey payload) (inboxHash payload)
  let event := if eventId = "" then freshId else eventId
  rejectIf (db.inboxEvents.get? event ≠ none) (.integrity "inbox_events.event_id")
  return (decision, { db with
    inboxEvents := db.inboxEvents.set event (newInboxEvent payload payloadRef decision now) })

def consumeInboxEvent (eventId commandId : String) (now : Int) (db : Db) : Except StateError Db :=
  match db.inboxEvents.get? eventId with
  | none => .error (.stateDb "inbox event is missing or already consumed")
  | some event =>
      if event.consumedByCommandId ≠ "" then
        .error (.stateDb "inbox event is missing or already consumed")
      else .ok { db with
        inboxEvents := db.inboxEvents.set eventId
          { event with consumedByCommandId := commandId, consumedAt := some now, updatedAt := now } }

/-! ## Commands -/

structure DeliveryJobSpec where
  jobId : String
  targetProfile : String
  documentKind : String
  idempotencyKey : String
  payloadHash : String
  status : DeliveryStatus := .pending
  nextRetryAt : Stamp := none
  deriving DecidableEq

structure DomainRecordSpec where
  domainRecordId : String
  domainKind : String
  lifecycleStatus : String
  resourceIdHash : String := ""
  sessionIdHash : String := ""
  payloadHash : String := ""
  payloadRef : String := ""

structure CommandResultSpec where
  decision : String
  resultPayloadRef : String := ""
  errorClass : String := ""

structure CommandSpec where
  inboxEventId : String
  commandId : String
  commandType : String
  idempotencyKey : String
  payloadHash : String
  result : CommandResultSpec
  domainRecords : List DomainRecordSpec
  deliveryJobs : List DeliveryJobSpec
  resourceIdHash : String := ""
  sessionIdHash : String := ""
  inputEpoch : String := ""

/-- What the transaction reports: the command's status and the jobs it stands for. -/
structure CommandTransactionResult where
  commandId : String
  status : CommandStatus
  deliveryJobIds : List String
  deriving DecidableEq

def insertCommand (commandId : String) (command : Command) (db : Db) : Except StateError Db :=
  match db.commands.insert? commandId command with
  | none => .error (.integrity "commands")
  | some commands => .ok { db with commands }

/-- `create_command`. -/
def createCommand (commandId commandType idempotencyKey payloadHash : String) (status : CommandStatus)
    (now : Int) (db : Db) : Except StateError Db :=
  insertCommand commandId
    { commandType, idempotencyKey, payloadHash, status
      resourceIdHash := ""
      sessionIdHash := ""
      inputEpoch := ""
      leaseOwner := ""
      leaseUntil := none
      attemptCount := 0
      lastErrorClass := ""
      createdAt := now
      updatedAt := now } db

def insertCommandResult (commandId : String) (result : CommandResultSpec) (now : Int) (db : Db) : Db :=
  { db with
    commandResults := db.commandResults ++
      [⟨commandId, result.decision, result.resultPayloadRef, result.errorClass, now⟩] }

/-- `COALESCE(MAX(version), 0) + 1` over the records of one resource and kind. -/
def nextDomainRecordVersion (resourceIdHash domainKind : String) (db : Db) : ℕ :=
  ((db.domainRecords.values.filter (fun record =>
    record.resourceIdHash = resourceIdHash && record.domainKind = domainKind)).map
      DomainRecord.version).foldr max 0 + 1

def insertDomainRecord (commandId : String) (now : Int) (db : Db) (spec : DomainRecordSpec) :
    Except StateError Db := do
  rejectIf (db.domainRecords.get? spec.domainRecordId ≠ none)
    (.integrity "domain_records.domain_record_id")
  return { db with
    domainRecords := db.domainRecords.set spec.domainRecordId
      { commandId
        resourceIdHash := spec.resourceIdHash
        sessionIdHash := spec.sessionIdHash
        domainKind := spec.domainKind
        lifecycleStatus := spec.lifecycleStatus
        version := nextDomainRecordVersion spec.resourceIdHash spec.domainKind db
        payloadHash := spec.payloadHash
        payloadRef := spec.payloadRef
        createdAt := now } }

def newDeliveryJob (spec : DeliveryJobSpec) (commandId : String) (now : Int) : DeliveryJob where
  commandId := commandId
  idempotencyKey := spec.idempotencyKey
  payloadHash := spec.payloadHash
  targetProfile := spec.targetProfile
  documentKind := spec.documentKind
  status := spec.status
  attemptCount := 0
  nextRetryAt := spec.nextRetryAt
  leaseOwner := ""
  leaseUntil := none
  indexTargetId := ""
  indexDocumentId := ""
  indexRunId := ""
  lastErrorClass := ""
  lastReconciledAt := none
  createdAt := now
  updatedAt := now

def insertDeliveryJob (commandId : String) (now : Int) (db : Db) (spec : DeliveryJobSpec) :
    Except StateError Db :=
  match db.deliveryJobs.insert? spec.jobId (newDeliveryJob spec commandId now) with
  | none => .error (.integrity "delivery_jobs")
  | some deliveryJobs => .ok { db with deliveryJobs }

/-- The jobs of a command that are new, those that are there already, and whether one
    of them conflicts. -/
structure DeliveryPlan where
  toInsert : List DeliveryJobSpec
  duplicateJobIds : List String
  conflict : Bool

/-- One job after the others of its batch were planned. -/
def planDeliveryJobs (db : Db) : List DeliveryJobSpec → DeliveryPlan → Except StateError DeliveryPlan
  | [], plan => .ok plan
  | spec :: rest, plan =>
      match plan.toInsert.find? (fun planned => planned.idempotencyKey = spec.idempotencyKey) with
      | some planned =>
          if planned.payloadHash = spec.payloadHash then
            planDeliveryJobs db rest
              { plan with duplicateJobIds := plan.duplicateJobIds ++ [spec.jobId] }
          else .ok ⟨[], plan.duplicateJobIds, true⟩
      | none => do
          let existing := db.deliveryJobs.find? spec.idempotencyKey
          let decision ← classifyIdempotency (existing.map (fun entry => entry.2.prior))
            spec.idempotencyKey spec.payloadHash
          match decision.outcome with
          | .conflict => return ⟨[], plan.duplicateJobIds, true⟩
          | .duplicate =>
              let known := (existing.map Prod.fst).getD spec.jobId
              planDeliveryJobs db rest { plan with duplicateJobIds := plan.duplicateJobIds ++ [known] }
          | .accepted | .quarantined | .replayable =>
              planDeliveryJobs db rest { plan with toInsert := plan.toInsert ++ [spec] }

/-- The command row as its transaction leaves it. -/
def CommandSpec.command (spec : CommandSpec) (status : CommandStatus) (lastErrorClass : String)
    (now : Int) : Command where
  commandType := spec.commandType
  resourceIdHash := spec.resourceIdHash
  sessionIdHash := spec.sessionIdHash
  idempotencyKey := spec.idempotencyKey
  payloadHash := spec.payloadHash
  inputEpoch := spec.inputEpoch
  status := status
  leaseOwner := "command-transaction"
  leaseUntil := some (now + microseconds 60)
  attemptCount := 1
  lastErrorClass := lastErrorClass
  createdAt := now
  updatedAt := now

/-- Insert the command and take its inbox event. -/
def openCommand (spec : CommandSpec) (status : CommandStatus) (lastErrorClass : String) (now : Int)
    (db : Db) : Except StateError Db := do
  let db ← insertCommand spec.commandId (spec.command status lastErrorClass now) db
  if spec.inboxEventId = "" then return db
  else consumeInboxEvent spec.inboxEventId spec.commandId now db

/-- The command with its records, its result and its new jobs. -/
def completeCommand (spec : CommandSpec) (plan : DeliveryPlan) (now : Int) (db : Db) :
    Except StateError (CommandTransactionResult × Db) := do
  let db ← openCommand spec .completed "" now db
  let db ← spec.domainRecords.foldlM (insertDomainRecord spec.commandId now) db
  let db := insertCommandResult spec.commandId spec.result now db
  let db ← plan.toInsert.foldlM (insertDeliveryJob spec.commandId now) db
  return (⟨spec.commandId, .completed,
    plan.duplicateJobIds ++ plan.toInsert.map DeliveryJobSpec.jobId⟩, db)

/-- `consume_inbox_with_command`: `CommandTransaction.execute` without callbacks. The plan is
    made after the command row is written, which it does not read. -/
def consumeInboxWithCommand (spec : CommandSpec) (now : Int) (db : Db) :
    Except StateError (CommandTransactionResult × Db) := do
  let _ ← openCommand spec .completed "" now db
  let plan ← planDeliveryJobs db spec.deliveryJobs ⟨[], [], false⟩
  if plan.conflict then do
    let db ← openCommand spec .quarantined "idempotency_conflict" now db
    return (⟨spec.commandId, .quarantined, []⟩, insertCommandResult spec.commandId
      ⟨"conflict", "", "idempotency_conflict"⟩ now db)
  else if spec.deliveryJobs ≠ [] ∧ plan.toInsert = [] then do
    let db ← openCommand spec .completed "" now db
    return (⟨spec.commandId, .completed, plan.duplicateJobIds⟩,
      insertCommandResult spec.commandId ⟨"duplicate", "", ""⟩ now db)
  else completeCommand spec plan now db

/-- `create_delivery_job`. -/
def createDeliveryJob (spec : DeliveryJobSpec) (commandId : String) (now : Int) (db : Db) :
    Except StateError Db := do
  rejectIf (db.commands.get? commandId = none)
    (.stateDb "delivery job must reference a committed command")
  let existing := db.deliveryJobs.find? spec.idempotencyKey
  let decision ← classifyIdempotency (existing.map (fun entry => entry.2.prior))
    spec.idempotencyKey spec.payloadHash
  match decision.outcome with
  | .duplicate => return db
  | .conflict => .error (.stateDb "delivery idempotency conflict")
  | .accepted | .quarantined | .replayable => insertDeliveryJob commandId now db spec

/-! ## Payloads -/

inductive PayloadOutcome where
  | recorded | alreadyPresent | conflict
  deriving DecidableEq, Repr

def recordDeliveryPayload (payload : Doc) (now : Int) (db : Db) :
    Except StateError (PayloadOutcome × Db) := do
  let idempotencyKey := firstText payload [.other "idempotencyKey"]
  let payloadHash := firstText payload [.other "contentHash"]
  rejectIf (idempotencyKey = "") (.valueError "idempotencyKey is required")
  rejectIf (payloadHash = "") (.valueError "contentHash is required")
  match db.deliveryPayloads.get? idempotencyKey with
  | some existing =>
      if existing.payloadHash ≠ payloadHash then return (.conflict, db)
      else return (.alreadyPresent, db)
  | none => return (.recorded, { db with
      deliveryPayloads := db.deliveryPayloads.set idempotencyKey ⟨payloadHash, payload, now⟩ })

end Neurons.Ingress
