import Neurons.Lib.Program
import Neurons.Source.DocumentModel

/-! # The ingress API

The Java ingress takes an enqueue request, checks it, asks its idempotency store for the key
and publishes the job to a JetStream stream. Several instances publish to one stream, each
with an idempotency store of its own in memory; the stream keeps the message ids of its
duplicate window.

The denylist of the redaction guard is read from a file; it is a parameter here.
-/

namespace Neurons.Queue

open Neurons.Lib
open Neurons.Source

/-! ## Requests -/

/-- `Map<String, String>`; a value may be null. -/
abbrev StringMap := Dict Key (Option String)

structure DocumentRequest where
  filename : Option String
  contentType : Option String
  body : Option String
  metadata : Option StringMap
  deriving DecidableEq

structure PayloadEnvelope where
  kind : Option String
  redactionVersion : Option String
  document : Option DocumentRequest
  deriving DecidableEq

structure EnqueueRequest where
  schemaVersion : Option String
  source : Option StringMap
  payload : Option PayloadEnvelope
  contentHash : Option String
  targetProfile : Option String
  kind : Option String
  idempotencyKey : Option String
  deriving DecidableEq

structure DocumentPayload where
  kind : Option String
  redactionVersion : Option String
  filename : Option String
  contentType : Option String
  body : Option String
  metadata : Option StringMap
  deriving DecidableEq

structure IngestJob where
  source : Option StringMap
  payload : Option DocumentPayload
  contentHash : Option String
  targetProfile : Option String
  kind : Option String
  idempotencyKey : Option String
  deriving DecidableEq

/-- The package of a job: the envelope's own fields with those of its document. -/
def DocumentRequest.toPayload (document : DocumentRequest) (payload : PayloadEnvelope) : DocumentPayload where
  kind := payload.kind
  redactionVersion := payload.redactionVersion
  filename := document.filename
  contentType := document.contentType
  body := document.body
  metadata := document.metadata

def EnqueueRequest.toIngestJob (request : EnqueueRequest) : IngestJob where
  source := request.source
  payload := request.payload.bind fun payload => payload.document.map (·.toPayload payload)
  contentHash := request.contentHash
  targetProfile := request.targetProfile
  kind := request.kind
  idempotencyKey := request.idempotencyKey

/-! ## Texts -/

/-- `Character.isWhitespace`: the separators that are not non-breaking, and the controls. -/
def isWhitespace (c : Char) : Bool :=
  let n := c.toNat
  (9 ≤ n && n ≤ 13) || (28 ≤ n && n ≤ 32) || n == 0x1680 || (0x2000 ≤ n && n ≤ 0x200a && n != 0x2007) ||
    n == 0x2028 || n == 0x2029 || n == 0x205f || n == 0x3000

/-- `text == null || text.isBlank()`. -/
def isBlank : Option String → Bool
  | none => true
  | some text => text.toList.all isWhitespace

/-- A text as string concatenation writes it. -/
def textOf (text : Option String) : String := text.getD "null"

/-- `ContentHashVerifier.hasCanonicalShape`. -/
def hasCanonicalShape (contentHash : Option String) : Bool := contentHash.any hashLike

/-- The violation, where the condition holds. -/
def violationIf (condition : Prop) [Decidable condition] (violation : String) : List String :=
  if condition then [violation] else []

@[simp] theorem violationIf_eq_nil {condition : Prop} [Decidable condition] {violation : String} :
    violationIf condition violation = [] ↔ ¬ condition := by
  unfold violationIf
  split <;> simp_all

/-! ## The validator -/

def documentKinds : List String :=
  ["conversation_chunk", "tool_evidence_summary", "session_summary", "session_recap",
    "project_context_snapshot", "task_summary", "approved_memory_card", "repo_usage_pattern"]

/-- The profile ids of `TargetProfileRegistry.DEFAULT`. -/
def knownProfileIds : List String :=
  ["index-transcript-memory", "index-session-memory", "index-session-summary", "index-project-memory",
    "index-task-summary", "index-approved-memory-card", "index-procedural-memory"]

def isKnown (targetProfile : Option String) : Bool := targetProfile.any (· ∈ knownProfileIds)

/-- `source.get(key)` is null or blank. -/
def lacksText (values : StringMap) (key : Key) : Bool := isBlank ((values.get? key).join)

def validateSource (source : Option StringMap) : List String :=
  match source with
  | none => ["source is required"]
  | some values =>
      if values.entries.isEmpty then ["source is required"]
      else
        violationIf (lacksText values (.field .provider)) "source.provider is required" ++
          violationIf (lacksText values (.field .project)) "source.project is required"

/-- The metadata has a session hash of another shape. -/
def badSessionIdHash (metadata : Option StringMap) : Bool :=
  match metadata with
  | none => false
  | some values =>
      match values.get? (.field .sessionIdHash) with
      | none => false
      | some sessionIdHash => !hasCanonicalShape sessionIdHash

def validatePayload (payload : Option DocumentPayload) : List String :=
  match payload with
  | none => ["payload is required"]
  | some payload =>
      violationIf (payload.kind = some "private_locator") "private_locator is not a valid queue payload" ++
        (violationIf (payload.kind.any (hasPrefix "index_")) "payload.kind must be target-neutral" ++
        (violationIf (payload.kind ≠ some "redacted_rag_ready_document")
          "payload.kind must be redacted_rag_ready_document for MVP" ++
        (violationIf (payload.redactionVersion ≠ some "redaction.v2")
          "payload.redactionVersion must be redaction.v2" ++
        (violationIf (isBlank payload.body) "payload.document.body is required" ++
        violationIf (badSessionIdHash payload.metadata)
          "payload.document.metadata.session_id_hash must be sha256:<64 lowercase hex chars>"))))

def validateKind (kind : Option String) : List String :=
  if isBlank kind then ["kind is required"]
  else violationIf (¬ kind.any (· ∈ documentKinds)) "kind is unknown"

section Digest

variable (py : Platform)

/-- `ContentHashVerifier.matches`. -/
def hashMatches (body contentHash : Option String) : Bool :=
  match body with
  | none => false
  | some body => hasCanonicalShape contentHash && contentHash == some (sha256Hash py (.text body))

def validateContentHash (job : IngestJob) : List String :=
  if !hasCanonicalShape job.contentHash then ["contentHash must be sha256:<64 lowercase hex chars>"]
  else violationIf (job.payload.any fun payload => !hashMatches py payload.body job.contentHash)
    "contentHash mismatch"

/-- `IngestJobValidator.validate`. -/
def validate (job : IngestJob) : List String :=
  validateSource job.source ++ (validatePayload job.payload ++ (validateContentHash py job ++
    (violationIf (!isKnown job.targetProfile) "targetProfile is unknown" ++ validateKind job.kind)))

end Digest

/-! ## The redaction guard -/

/-- A line of the denylist, and whether its pattern is found in a text. -/
structure NamedPattern where
  name : String
  find : String → Bool

section Guard

variable (denylist : List NamedPattern)

def inspectValue (field : String) (value : Option String) : List String :=
  match value with
  | none => []
  | some text =>
      (denylist.filter (·.find text)).map fun denied => "forbidden pattern in " ++ field ++ ": " ++ denied.name

/-- `RedactionGuard.inspect` of a body. -/
def inspect (body : Option String) : List String :=
  inspectValue denylist "body" body ++
    if isBlank body then ["body is required"]
    else
      violationIf (¬ body.any (contains "schema_version:")) "missing schema_version frontmatter" ++
        violationIf (¬ body.any (contains "result_type:")) "missing result_type frontmatter"

def inspectMap (field : String) (values : Option StringMap) : List String :=
  match values with
  | none => []
  | some values => values.entries.flatMap fun entry =>
      inspectValue denylist (field ++ "." ++ entry.1.name) (some entry.1.name) ++
        inspectValue denylist (field ++ "." ++ entry.1.name) entry.2

def inspectPayload (payload : DocumentPayload) : List String :=
  inspectValue denylist "payload.kind" payload.kind ++
    (inspectValue denylist "payload.redactionVersion" payload.redactionVersion ++
    (inspectValue denylist "payload.document.filename" payload.filename ++
    (inspectValue denylist "payload.document.contentType" payload.contentType ++
    (inspect denylist payload.body ++ inspectMap denylist "payload.document.metadata" payload.metadata))))

/-- `RedactionGuard.inspectJob`. -/
def inspectJob (job : IngestJob) : List String :=
  inspectMap denylist "source" job.source ++
    (inspectValue denylist "contentHash" job.contentHash ++
    (inspectValue denylist "targetProfile" job.targetProfile ++
    (inspectValue denylist "kind" job.kind ++
    (inspectValue denylist "idempotencyKey" job.idempotencyKey ++
    (job.payload.toList.flatMap (inspectPayload denylist))))))

end Guard

/-! ## The stream -/

/-- A stored message; its sequence is its place in the history, counted from one. -/
structure Message where
  subject : String
  messageId : String
  job : IngestJob
  deriving DecidableEq

structure JetStreamPublishAck where
  stream : String
  sequence : ℕ
  duplicate : Bool
  deriving DecidableEq, Repr

def JetStreamPublishAck.persisted (ack : JetStreamPublishAck) : Bool :=
  !isBlank (some ack.stream) && 0 < ack.sequence

/-- What becomes of one publish on its way to the stream and back. -/
inductive Delivery where
  | acknowledged | refused | ackLost
  deriving DecidableEq, Repr

/-- The stream and the memories of the instances. -/
structure World (ι : Type) where
  stream : String
  history : List Message
  /-- the message ids of the duplicate window, with their sequences -/
  window : Table String ℕ
  /-- `contentHashesByKey` of every instance -/
  stores : ι → Table String String
  /-- what becomes of the publishes from now on -/
  network : ℕ → Delivery

namespace World

variable {ι : Type} [DecidableEq ι]

/-- The broker gets a message: an id of the window is a duplicate and stores nothing. -/
def receive (message : Message) (world : World ι) : JetStreamPublishAck × World ι :=
  match world.window.get? message.messageId with
  | some sequence => (⟨world.stream, sequence, true⟩, world)
  | none =>
      (⟨world.stream, world.history.length + 1, false⟩,
        { world with
          history := world.history ++ [message]
          window := world.window.set message.messageId (world.history.length + 1) })

def laterNetwork (world : World ι) : World ι := { world with network := fun n => world.network (n + 1) }

/-- `gateway.publish`, whose exception is a text. -/
def publish (message : Message) (world : World ι) : Except String JetStreamPublishAck × World ι :=
  match world.network 0 with
  | .refused => (.error "nats publish failed", world.laterNetwork)
  | .ackLost => (.error "nats publish failed", (world.laterNetwork.receive message).2)
  | .acknowledged => (.ok (world.laterNetwork.receive message).1, (world.laterNetwork.receive message).2)

/-- `IdempotencyStore.conflicts` of one instance. -/
def conflicts (i : ι) (idempotencyKey : Option String) (contentHash : String) (world : World ι) :
    Bool × World ι :=
  if isBlank idempotencyKey then (false, world)
  else
    match (world.stores i).get? (textOf idempotencyKey) with
    | some existing => (existing ≠ contentHash, world)
    | none =>
        (false, { world with
          stores := Function.update world.stores i ((world.stores i).set (textOf idempotencyKey) contentHash) })

/-- An instance starts again, with nothing in memory. -/
def restart (i : ι) (world : World ι) : World ι :=
  { world with stores := Function.update world.stores i ∅ }

/-- An id leaves the duplicate window. -/
def expire (messageId : String) (world : World ι) : World ι :=
  { world with window := world.window.erase messageId }

end World

/-! ## Enqueue -/

inductive Call (ι : Type) : Type → Type where
  | conflicts (i : ι) (idempotencyKey : Option String) (contentHash : String) : Call ι Bool
  | publish (message : Message) : Call ι (Except String JetStreamPublishAck)
  | restart (i : ι) : Call ι Unit
  | expire (messageId : String) : Call ι Unit

def exec {ι : Type} [DecidableEq ι] {β : Type} (call : Call ι β) (world : World ι) : β × World ι :=
  match call with
  | .conflicts i idempotencyKey contentHash => world.conflicts i idempotencyKey contentHash
  | .publish message => world.publish message
  | .restart i => ((), world.restart i)
  | .expire messageId => ((), world.expire messageId)

inductive JavaError where
  | illegalArgument (message : String)
  | nullPointer
  deriving DecidableEq, Repr

/-- A status code with its `EnqueueResponse`. -/
structure Response where
  code : ℕ
  accepted : Bool
  jobId : Option String
  status : String
  errors : List String
  deriving DecidableEq, Repr

def Response.rejected (code : ℕ) (status : String) (errors : List String) : Response :=
  ⟨code, false, none, status, errors⟩

def Response.queued (jobId : String) : Response := ⟨202, true, some jobId, "queued", []⟩

structure PublishResult where
  accepted : Bool
  jobId : Option String
  error : Option String
  deriving DecidableEq, Repr

/-- `SubjectRouter.subjectFor`. -/
def subjectFor (kind : Option String) : Except JavaError String :=
  if kind.any (· ∈ ["conversation_chunk", "tool_evidence_summary"]) then .ok "rag.ingress.transcript"
  else if kind.any (· ∈ documentKinds) then .ok "rag.ingress.document"
  else .error (.illegalArgument ("unknown document kind: " ++ textOf kind))

def messageIdFor (job : IngestJob) : String :=
  if isBlank job.idempotencyKey then
    textOf job.targetProfile ++ ":" ++ textOf job.kind ++ ":" ++ textOf job.contentHash
  else textOf job.idempotencyKey

/-- What `NatsIngestPublisher.publish` makes of the answer. -/
def publishResult : Except String JetStreamPublishAck → PublishResult
  | .error message => ⟨false, none, some message⟩
  | .ok ack =>
      if ack.persisted then ⟨true, some (ack.stream ++ ":" ++ toString ack.sequence), none⟩
      else ⟨false, none, some "publish ack not received"⟩

section Programs

variable {ι : Type} (py : Platform) (denylist : List NamedPattern)

/-- `NatsIngestPublisher.publish`. -/
def publish (job : IngestJob) : Prog (Call ι) JavaError PublishResult := do
  let subject ← Prog.ofExcept (subjectFor job.kind)
  let answer ← Prog.request (.publish ⟨subject, messageIdFor job, job⟩)
  return publishResult answer

/-- `idempotencyStore.conflicts(key, contentHash)`; the map takes no null. -/
def conflicts (i : ι) (idempotencyKey contentHash : Option String) : Prog (Call ι) JavaError Bool :=
  match contentHash with
  | some contentHash => Prog.request (.conflicts i idempotencyKey contentHash)
  | none => if isBlank idempotencyKey then return false else throw .nullPointer

def violations (request : EnqueueRequest) : List String :=
  validate py request.toIngestJob ++ inspectJob denylist request.toIngestJob

/-- `IngressController.enqueue` at instance `i`. -/
def enqueue (i : ι) (request : EnqueueRequest) : Prog (Call ι) JavaError Response :=
  if request.schemaVersion ≠ some "rag_ingress_enqueue.v1" then
    return .rejected 400 "rejected" ["schemaVersion must be rag_ingress_enqueue.v1"]
  else if request.payload.any (·.kind = some "redacted_document_ref") then
    return .rejected 422 "unsupported_payload" ["redacted_document_ref is reserved but disabled"]
  else if violations py denylist request ≠ [] then
    return .rejected 400 "rejected" ["request rejected"]
  else do
    let conflict ← conflicts i request.idempotencyKey request.contentHash
    if conflict then
      return .rejected 409 "idempotency_conflict" ["idempotencyKey conflict"]
    else do
      let result ← publish request.toIngestJob
      if result.accepted then return .queued (textOf result.jobId)
      else return .rejected 503 "publish_failed" ["publish ack not received"]

end Programs

end Neurons.Queue
