import Neurons.Ingress.DeliveryJobs
import Neurons.Lib.Program

/-! # Accepting a payload

An enqueue payload is accepted in three transactions: its inbox row, its command with the
delivery job, and the payload itself. The program looks for the command first, so a payload
that was accepted before is found again. Nothing holds the three together, so a call may
stop after any of them.
-/

namespace Neurons.Ingress

open Neurons.Lib
open Neurons.Source

/-! ## Payloads -/

/-- `value or {}`, of which an attribute is asked for next. -/
def mappingOf (value : Option Json) : Except PyError Doc :=
  match value with
  | none => .ok ∅
  | some (.obj fields) => .ok (Dict.insertAll ∅ fields)
  | some other =>
      if other.truthy then .error (.attributeError "object has no attribute 'get'") else .ok ∅

/-- `not payload.get(key)`. -/
def lacks (payload : Doc) (key : Key) : Prop := (Dict.get? payload key).filter Json.truthy = none

instance (payload : Doc) (key : Key) : Decidable (lacks payload key) := by
  unfold lacks
  infer_instance

/-- `isinstance(value, dict)`. -/
def isMapping : Option Json → Bool
  | some (.obj _) => true
  | _ => false

/-- `payload.get("contentHash", "").startswith("sha256:")`. -/
def hasContentHash (payload : Doc) : Except PyError Bool :=
  match Dict.get? payload (.other "contentHash") with
  | none => .ok false
  | some (.str text) => .ok (hasPrefix "sha256:" text)
  | some _ => .error (.attributeError "object has no attribute 'startswith'")

/-- The document's own checks. -/
def validateDocument (document : Doc) : Except PyError Unit := do
  refuseIf (lacks document (.field .body)) (.valueError "document.body is required")
  refuseIf (lacks document (.other "filename")) (.valueError "document.filename is required")

/-- The checks of the metadata, which come last. -/
def validateMetadata (document : Doc) : Except PyError Unit :=
  match (Dict.get? document (.other "metadata")).filter Json.truthy with
  | none => .ok ()
  | some (.obj fields) => assertNoSecretLikeMetadata (fields.map Prod.fst)
  | some _ => .error (.valueError "document.metadata must be an object")

def validateIngressPayload (payload : Doc) : Except PyError Unit := do
  refuseIf (Dict.get? payload (.other "schemaVersion") ≠ some (.str "rag_ingress_enqueue.v1"))
    (.valueError "unsupported ingress schemaVersion")
  refuseIf (isMapping (Dict.get? payload (.other "source")) = false) (.valueError "source is required")
  let wire ← mappingOf (Dict.get? payload (.other "payload"))
  refuseIf (Dict.get? wire (.field .kind) ≠ some (.str "redacted_rag_ready_document"))
    (.valueError "unsupported ingress payload kind")
  let document ← mappingOf (Dict.get? wire (.other "document"))
  validateDocument document
  let hashed ← hasContentHash payload
  refuseIf (hashed = false) (.valueError "contentHash must be sha256")
  refuseIf (lacks payload (.other "targetProfile")) (.valueError "targetProfile is required")
  refuseIf (lacks payload (.field .kind)) (.valueError "kind is required")
  refuseIf (lacks payload (.other "idempotencyKey")) (.valueError "idempotencyKey is required")
  validateMetadata document

def idempotencyKeyOf (payload : Doc) : String := firstText payload [.other "idempotencyKey"]

def contentHashOf (payload : Doc) : String := firstText payload [.other "contentHash"]

section Program

variable (py : Platform)

def jobIdForPayload (payload : Doc) : String :=
  "job_" ++ String.ofList ((py.hexdigest (.text (idempotencyKeyOf payload))).toList.take 24)

/-! ## The program -/

inductive AcceptCall : Type → Type where
  | findCommand (idempotencyKey : String) : AcceptCall (Option Command)
  | transact (op : Op) : AcceptCall (Except StateError Answer)

def acceptExec {β : Type} (call : AcceptCall β) (db : Db) : β × Db :=
  match call with
  | .findCommand idempotencyKey => ((db.commands.find? idempotencyKey).map Prod.snd, db)
  | .transact op => perform py op db

abbrev Acceptor := Prog AcceptCall StateError

inductive ApplyOutcome where
  | applied | alreadyPresent | conflict
  deriving DecidableEq, Repr

/-- The clock at each of the transactions. -/
structure Clock where
  inboxAt : Int
  commandAt : Int
  payloadAt : Int

def eventIdFor (payload : Doc) : String := "backfill_" ++ jobIdForPayload py payload
def commandIdFor (payload : Doc) : String := "cmd_" ++ jobIdForPayload py payload
def domainIdFor (payload : Doc) : String := "domain_" ++ jobIdForPayload py payload

/-- The job of a payload. -/
def jobSpecFor (payload : Doc) : DeliveryJobSpec where
  jobId := jobIdForPayload py payload
  targetProfile := firstText payload [.other "targetProfile"]
  documentKind := firstText payload [.field .kind]
  idempotencyKey := idempotencyKeyOf payload
  payloadHash := contentHashOf payload

/-- The command of a payload. -/
def commandSpecFor (payload : Doc) : CommandSpec where
  inboxEventId := eventIdFor py payload
  commandId := commandIdFor py payload
  commandType := "transcript_ingest"
  idempotencyKey := idempotencyKeyOf payload
  payloadHash := contentHashOf payload
  result := ⟨"completed", "", ""⟩
  domainRecords :=
    [⟨domainIdFor py payload, "delivery_projection", "prepared", "", "", contentHashOf payload, ""⟩]
  deliveryJobs := [jobSpecFor py payload]

/-- One transaction, whose error is the program's. -/
def acceptStep {α : Type} (op : Op) (next : Answer → Acceptor α) : Acceptor α :=
  .call (.transact op) fun reply =>
    match reply with
    | .ok answer => next answer
    | .error error => .fail error

/-- Store the payload, and report the outcome unless another one is stored. -/
def storePayload (payload : Doc) (clock : Clock) (outcome : ApplyOutcome) : Acceptor ApplyOutcome :=
  acceptStep (.recordDeliveryPayload payload clock.payloadAt) fun answer =>
    if answer = .payload .conflict then .done .conflict else .done outcome

/-- The command of a payload that has its inbox row. -/
def consumePayload (payload : Doc) (clock : Clock) : Acceptor ApplyOutcome :=
  acceptStep (.consumeInboxWithCommand (commandSpecFor py payload) clock.commandAt) fun answer =>
    match answer with
    | .command result => if result.status = .quarantined then .done .conflict
        else storePayload payload clock .applied
    | _ => .done .conflict

def applyOne (payload : Doc) (clock : Clock) : Acceptor ApplyOutcome :=
  match validateIngressPayload payload with
  | .error error => .fail (.python error)
  | .ok () =>
      .call (.findCommand (idempotencyKeyOf payload)) fun existing =>
        match existing with
        | some command =>
            if command.payloadHash ≠ contentHashOf payload then .done .conflict
            else storePayload payload clock .alreadyPresent
        | none =>
            acceptStep (.recordInboxShadow payload "" (eventIdFor py payload) "" clock.inboxAt) fun answer =>
              match answer with
              | .decision ⟨.conflict, _⟩ => .done .conflict
              | .decision ⟨.duplicate, _⟩ => .done .alreadyPresent
              | _ => consumePayload py payload clock

/-- What a caller gets. -/
structure Accepted where
  jobId : String
  alreadyPresent : Bool
  deriving DecidableEq, Repr

/-- How `accept_payload` reports what the apply came to. -/
def reporting (payload : Doc) (program : Acceptor ApplyOutcome) : Acceptor Accepted :=
  (program.tryCatch fun error => .fail (.acceptFailed error)).bind fun outcome =>
    match outcome with
    | .conflict => .fail .acceptConflict
    | .alreadyPresent => .done ⟨jobIdForPayload py payload, true⟩
    | .applied => .done ⟨jobIdForPayload py payload, false⟩

/-- `StateDBIngressSink.accept_payload`, by `apply_backfill_to_state_db` of one payload. -/
def acceptPayload (payload : Doc) (clock : Clock) : Acceptor Accepted :=
  match validateIngressPayload payload with
  | .error error => .fail (.python error)
  | .ok () => reporting py payload (applyOne py payload clock)

/-- A call that runs to its end. -/
def accept (payload : Doc) (clock : Clock) (db : Db) : Except StateError Accepted × Db :=
  (acceptPayload py payload clock).run (acceptExec py) db

/-- A call that stops before its call number `stop + 1` to the database. -/
def acceptUntil (stop : ℕ) (payload : Doc) (clock : Clock) (db : Db) :
    Option (Except StateError Accepted) × Db :=
  (acceptPayload py payload clock).runFor (acceptExec py) stop db

end Program

end Neurons.Ingress
