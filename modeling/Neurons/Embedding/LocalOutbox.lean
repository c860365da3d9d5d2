import Neurons.Lib.Run
import Neurons.Steward.Effects

/-! # The local embedding outbox

The tables of the local embedding profile (`pgvector_store.py`): the derived row of
each card and each session chunk, the tombstones that number the lives of a target,
and the outbox of leased jobs. Every operation is one transaction: it answers with
the next database, or raises and leaves the database as it was. The locks it takes
make it atomic, so what a transaction reads twice it reads the same.
-/

namespace Neurons.Embedding

open Neurons.Lib
open Neurons.Source
open Neurons.Steward (CardRow validateCard varchar)

/-! ## Tables -/

/-- What an embedding is of: `target_type` and `target_id`. -/
inductive Target where
  | card (memoryId : String)
  | chunk (chunkId : String)
  deriving DecidableEq, Repr

namespace Target

def id : Target → String
  | card memoryId => memoryId
  | chunk chunkId => chunkId

/-- The target under its key as the columns keep it. -/
def stored : Target → Target
  | card memoryId => card (varchar 64 memoryId)
  | chunk chunkId => chunk (varchar 64 chunkId)

def type : Target → String
  | card _ => "memory_card"
  | chunk _ => "session_chunk"

end Target

/-- A row of `session_memory_chunks`. -/
structure ChunkRow where
  project : String
  contentMarkdown : String
  contentHash : String
  deriving DecidableEq, Repr

inductive DerivedState where
  | pending | ready | stale | failed | quarantine
  deriving DecidableEq, Repr

/-- A row of `card_local_embeddings` or `session_local_embeddings`. -/
structure Derived (C : Type) where
  sourceContentHash : String
  inputHash : String
  vector : Option C
  state : DerivedState
  deriving DecidableEq

/-- A row of `local_embedding_tombstones`. -/
structure Tombstone where
  incarnation : ℕ
  deletedAt : Option Int
  deriving DecidableEq, Repr

inductive JobStatus where
  | queued | processing | completed | casSkipped | failed | deadLetter | cancelled
  deriving DecidableEq, Repr

/-- `status IN ('queued', 'processing', 'failed')`. -/
def JobStatus.active : JobStatus → Bool
  | queued | processing | failed => true
  | completed | casSkipped | deadLetter | cancelled => false

/-- A row of `local_embedding_outbox`, without its key. -/
structure Job where
  target : Target
  sourceContentHash : String
  inputHash : String
  payloadText : String
  incarnation : ℕ
  status : JobStatus
  fencingToken : ℕ
  workerId : Option String
  leaseUntil : Option Int
  retryCount : ℕ
  nextAttemptAt : Option Int
  lastError : Option String
  createdAt : Int
  deriving DecidableEq, Repr

/-- The job is the work of these hashes in this life of the target. -/
def Job.IsFor (job : Job) (target : Target) (sourceHash inputHash : String) (incarnation : ℕ) : Prop :=
  job.target = target ∧ job.sourceContentHash = sourceHash ∧ job.inputHash = inputHash ∧
    job.incarnation = incarnation

instance (job : Job) (target : Target) (sourceHash inputHash : String) (incarnation : ℕ) :
    Decidable (job.IsFor target sourceHash inputHash incarnation) := by
  unfold Job.IsFor
  infer_instance

structure Db (C : Type) where
  steward : Steward.Db
  chunks : Table String ChunkRow
  derived : Table Target (Derived C)
  tombstones : Table Target Tombstone
  outbox : Table ℕ Job

def Db.empty {C : Type} : Db C := ⟨.empty, ∅, ∅, ∅, ∅⟩

/-- The `content_hash` of the parent row. -/
def Db.contentHash? {C : Type} (db : Db C) : Target → Option String
  | .card memoryId => (db.steward.cards.get? memoryId).map (·.contentHash)
  | .chunk chunkId => (db.chunks.get? chunkId).map (·.contentHash)

/-! ## Canonical inputs -/

/-- What the store asks of its libraries; `V` are the vectors of its callers, `C` the
    values of a `vector(256)` column. -/
structure Host (V C : Type) where
  lib : Steward.Library
  /-- `json.dumps` of an object, sorted and compact; none where it raises -/
  canonicalJson : Json → Option String
  /-- what a `jsonb` column keeps of a value -/
  jsonb : Json → Json
  /-- `_local_vector_literal(vector)::vector(256)` -/
  localVector : V → Except PyError C
  /-- `vector_norm(vector) > 0` -/
  positiveNorm : C → Bool

section Operations

variable {V C : Type} (host : Host V C)

def computeInputHash (text : String) : Except PyError String := do
  refuseIf (text = "") (.valueError "embedding input must not be empty")
  return sha256Hash host.lib.py (.text text)

/-- A string that is not blank. -/
def nonBlank : Json → Option String
  | .str s => if strip s ≠ "" then some s else none
  | _ => none

/-- The summary of a card, else its title, else the canonical JSON of its payload. -/
def cardInputV1 (summary title typedPayload : Json) : Except PyError String :=
  let empty := PyError.valueError "card has no valid summary, title, or typed_payload"
  match nonBlank summary, nonBlank title, typedPayload with
  | some text, _, _ => .ok text
  | none, some text, _ => .ok text
  | none, none, .obj (field :: fields) =>
      match host.canonicalJson (.obj (field :: fields)) with
      | some text => if text ≠ "" ∧ text ≠ "\x7b\x7d" then .ok text else .error empty
      | none => .error (.valueError "typed_payload is not canonical JSON")
  | none, none, _ => .error empty

/-- `card_input_v1` of a stored card. -/
def cardRowInput (row : CardRow) : Except PyError String :=
  cardInputV1 host (.str row.summary) (.str row.title) row.typedPayload

/-- The canonical input of the parent row. -/
def canonicalInput? (db : Db C) : Target → Option (Except PyError String)
  | .card memoryId => (db.steward.cards.get? memoryId).map (cardRowInput host)
  | .chunk chunkId => (db.chunks.get? chunkId).map (fun row => .ok row.contentMarkdown)

/-- The hash of a canonical input; no hash is blank. -/
def inputHashOf (input : Except PyError String) : String :=
  match input >>= computeInputHash host with
  | .ok hash => hash
  | .error _ => ""

/-! ## Enqueueing -/

/-- Cancel the active jobs of a target for other hashes. -/
def cancelOthers (target : Target) (sourceHash inputHash : String) (job : Job) : Job :=
  if job.target = target ∧ job.status.active ∧
      (job.sourceContentHash ≠ sourceHash ∨ job.inputHash ≠ inputHash) then
    { job with status := .cancelled, leaseUntil := none }
  else job

/-- The derived row after an enqueue: a vector or a failure for the same hashes stays,
    everything else is pending. -/
def renewDerived (previous : Option (Derived C)) (sourceHash inputHash : String) : Derived C :=
  match previous with
  | none => ⟨sourceHash, inputHash, none, .pending⟩
  | some row =>
      if row.sourceContentHash = sourceHash ∧ row.inputHash = inputHash then
        match row.state with
        | .ready => ⟨sourceHash, inputHash, row.vector, .ready⟩
        | .failed => ⟨sourceHash, inputHash, none, .failed⟩
        | _ => ⟨sourceHash, inputHash, none, .pending⟩
      else ⟨sourceHash, inputHash, none, .pending⟩

/-- The incarnation an enqueue works for. -/
def Db.incarnation (db : Db C) (target : Target) : ℕ :=
  ((db.tombstones.get? target).map (·.incarnation)).getD 1

def newJob (target : Target) (sourceHash inputHash payloadText : String) (incarnation : ℕ)
    (now : Int) : Job where
  target
  sourceContentHash := sourceHash
  inputHash
  payloadText
  incarnation
  status := .queued
  fencingToken := 0
  workerId := none
  leaseUntil := none
  retryCount := 0
  nextAttemptAt := none
  lastError := none
  createdAt := now

/-- Find the job of these hashes that is not over, a dead letter included, or insert one. -/
def findOrInsert (target : Target) (sourceHash inputHash payloadText : String) (incarnation : ℕ)
    (now : Int) (outbox : Table ℕ Job) : ℕ × Table ℕ Job :=
  match outbox.firstWhere (fun job => decide (job.IsFor target sourceHash inputHash incarnation) &&
      (job.status.active || job.status = .deadLetter)) with
  | some (outboxId, _) => (outboxId, outbox)
  | none => (outbox.freshKey,
      outbox.set outbox.freshKey
        (newJob target sourceHash inputHash payloadText incarnation now))

/-- `_enqueue_local_outbox_on`, with the transaction time `now`. -/
def enqueueLocalOutboxOn (target : Target) (sourceHash payloadText : String) (now : Int)
    (db : Db C) : Except PyError (ℕ × Db C) := do
  refuseIf (target.id = "" ∨ sourceHash = "")
    (.valueError "target_id and source_content_hash are required")
  let inputHash ← computeInputHash host payloadText
  refuseIf (db.contentHash? target = none)
    (.valueError ("local outbox parent " ++ target.type ++ ":" ++ target.id ++ " does not exist"))
  refuseIf (db.contentHash? target ≠ some sourceHash)
    (.valueError "local outbox source_content_hash does not match parent row")
  refuseIf (¬ hashLike sourceHash)
    (.databaseError "violates check constraint on source_content_hash")
  let incarnation := db.incarnation target
  let queue := findOrInsert target sourceHash inputHash payloadText incarnation now
    (db.outbox.mapValues (cancelOthers target sourceHash inputHash))
  return (queue.1, { db with
    tombstones := db.tombstones.set target ⟨incarnation, none⟩
    derived := db.derived.set target (renewDerived (db.derived.get? target) sourceHash inputHash)
    outbox := queue.2 })

/-! ## Parents -/

/-- Write a card over any row that is not accepted authority; the envelope stays. -/
def upsertCardOn (card : CardRow) (db : Db C) : Except PyError (Db C) := do
  let card := card.stored
  refuseIf (¬ card.Fits) (.databaseError "memory_cards does not admit the row")
  let stored := db.steward.cards.get? card.memoryId
  refuseIf (∃ row ∈ stored, row.lifecycleState ∈ ["accepted", "human_accepted", "auto_accepted"])
    (.valueError "cannot overwrite an accepted memory card")
  let row := { card with
    typedPayload := host.jsonb card.typedPayload
    stewardEnvelope := stored.bind (·.stewardEnvelope) }
  return { db with steward := { db.steward with
    cards := db.steward.cards.insert card.memoryId row } }

/-- No row has a key wider than its column, so a parent that is looked up by a key of which the
    column cut something off is not found. -/
def requireWhole (target : Target) : Except PyError Unit :=
  refuseIf (target.stored ≠ target)
    (.valueError ("local outbox parent " ++ target.type ++ ":" ++ target.id ++ " does not exist"))

/-- The local work of an upserted card, under the local profile. -/
def enqueueCard (card : CardRow) (now : Int) (db : Db C) : Except PyError (Db C) :=
  if host.lib.localProfile then do
    requireWhole (.card card.memoryId)
    let payloadText ← cardRowInput host card
    let (_, db) ← enqueueLocalOutboxOn host (.card card.memoryId) card.contentHash payloadText now db
    return db
  else .ok db

def upsertCard (card : CardRow) (now : Int) (db : Db C) : Except PyError (Db C) := do
  validateCard card
  let db ← upsertCardOn host card db
  let db ← enqueueCard host card now db
  refuseIf (card.contentHash = "") (.valueError "graph projection key fields are required")
  return db

/-- A session chunk as its callers hand it in. -/
structure SessionChunk where
  chunkId : String
  project : String
  contentMarkdown : String
  contentHash : String
  deriving DecidableEq, Repr

def SessionChunk.stored (chunk : SessionChunk) : SessionChunk := { chunk with
  chunkId := varchar 64 chunk.chunkId
  project := varchar 64 chunk.project
  contentHash := varchar 71 chunk.contentHash }

/-- The widths of the columns of `session_memory_chunks`. -/
def SessionChunk.Fits (chunk : SessionChunk) : Prop :=
  chunk.chunkId.length ≤ 64 ∧ chunk.project.length ≤ 64 ∧ chunk.contentHash.length ≤ 71

instance SessionChunk.decidableFits (chunk : SessionChunk) : Decidable chunk.Fits := by
  unfold SessionChunk.Fits
  infer_instance

/-- Fill in a missing content hash. -/
def normalizeChunk (chunk : SessionChunk) : Except PyError SessionChunk := do
  refuseIf (chunk.chunkId = "" ∨ chunk.project = "")
    (.valueError "session chunk identity fields are required")
  return { chunk with contentHash :=
    if chunk.contentHash = "" then sha256Hash host.lib.py (.text chunk.contentMarkdown)
    else chunk.contentHash }

/-- `INSERT INTO session_memory_chunks`, over an existing row unless `insertOnly`. -/
def putChunk (insertOnly : Bool) (chunk : SessionChunk) (db : Db C) : Except PyError (Db C) := do
  let chunk := chunk.stored
  refuseIf (¬ chunk.Fits) (.databaseError "session_memory_chunks does not admit the row")
  refuseIf (insertOnly ∧ (db.chunks.get? chunk.chunkId).isSome)
    (.databaseError "duplicate key value")
  let row : ChunkRow := ⟨chunk.project, chunk.contentMarkdown, chunk.contentHash⟩
  return { db with chunks := db.chunks.set chunk.chunkId row }

/-- The local tables stay as they are. -/
def insertChunk (insertOnly : Bool) (chunk : SessionChunk) (db : Db C) : Except PyError (Db C) := do
  let normalized ← normalizeChunk host chunk
  putChunk insertOnly normalized db

def insertChunkWithLocalOutbox (insertOnly : Bool) (chunk : SessionChunk) (now : Int) (db : Db C) :
    Except PyError (ℕ × Db C) := do
  let normalized ← normalizeChunk host chunk
  let db ← putChunk insertOnly normalized db
  requireWhole (.chunk normalized.chunkId)
  enqueueLocalOutboxOn host (.chunk normalized.chunkId) normalized.contentHash
    normalized.contentMarkdown now db

/-! ## Deletion -/

/-- Cancel the jobs of a deleted target. -/
def cancelDeleted (target : Target) (job : Job) : Job :=
  if job.target = target ∧ job.status.active then
    { job with
      status := .cancelled
      leaseUntil := none
      lastError := some "cancelled: parent deleted" }
  else job

/-- End the life of a target; the derived row goes with its parent. -/
def deleteLocalTargetOn (target : Target) (now : Int) (db : Db C) : Db C :=
  { db with
    outbox := db.outbox.mapValues (cancelDeleted target)
    tombstones := db.tombstones.set target ⟨db.incarnation target + 1, some now⟩
    derived := db.derived.erase target }

/-- Delete a card; `referenced` says that an edge names it. -/
def deleteCard (memoryId : String) (referenced : Bool) (now : Int) (db : Db C) :
    Except PyError (Db C) := do
  let deleted := deleteLocalTargetOn (.card memoryId) now db
  refuseIf ((db.steward.cards.get? memoryId).isSome ∧
      (referenced ∨ ∃ entry ∈ db.steward.cardDecisions.entries, entry.2.memoryId = memoryId))
    (.valueError "memory card is referenced by memory_edges")
  return { deleted with steward := { db.steward with cards := db.steward.cards.erase memoryId } }

def deleteSessionChunk (chunkId : String) (now : Int) (db : Db C) : Db C :=
  { deleteLocalTargetOn (.chunk chunkId) now db with chunks := db.chunks.erase chunkId }

end Operations

end Neurons.Embedding
