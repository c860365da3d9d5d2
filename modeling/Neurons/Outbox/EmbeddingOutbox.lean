import Neurons.Outbox.Leases

/-! # The Gemini embedding outbox

The rows with an embedding column, and the transactions that write them and their work
under the Gemini profile (`pgvector_store.py`). Cards and chunks carry the state of their
embedding; `embedding_outbox` carries the work. A transaction answers with the next
database or raises, and then the database is the one it started from.
-/

namespace Neurons.Outbox

open Neurons.Lib
open Neurons.Source
open Neurons.Embedding (Target ChunkRow SessionChunk normalizeChunk microseconds)
open Neurons.Steward (CardRow validateCard varchar)

/-! ## Tables -/

inductive EmbeddingState where
  | pending | ready | stale | failed
  deriving DecidableEq, Repr

/-- The embedding columns of a row; `C` are the values of a `halfvec(3072)` column. -/
structure Columns (C : Type) where
  state : EmbeddingState
  embedding : Option C
  revision : ℕ
  deriving DecidableEq

/-- A row of `R` with its embedding columns. -/
structure Embedded (R C : Type) where
  row : R
  columns : Columns C
  deriving DecidableEq

/-- The work of a row of `embedding_outbox`. -/
structure EmbeddingWork where
  target : Target
  contentHash : String
  payloadText : String
  deriving DecidableEq, Repr

structure Db (C : Type) where
  cards : Table String (Embedded CardRow C)
  chunks : Table String (Embedded ChunkRow C)
  outbox : Table ℕ (Job EmbeddingWork)

namespace Db

variable {C : Type}

def empty : Db C := ⟨∅, ∅, ∅⟩

/-- The `content_hash` and the embedding columns of a target's row. -/
def find? (db : Db C) : Target → Option (String × Columns C)
  | .card memoryId => (db.cards.get? memoryId).map fun card => (card.row.contentHash, card.columns)
  | .chunk chunkId => (db.chunks.get? chunkId).map fun chunk => (chunk.row.contentHash, chunk.columns)

/-- `UPDATE ... WHERE id = ... AND content_hash = ...` of the embedding columns. -/
def updateColumns (db : Db C) (target : Target) (contentHash : String) (f : Columns C → Columns C) : Db C :=
  match target with
  | .card memoryId => { db with cards := db.cards.rewrite [memoryId] fun card =>
      if card.row.contentHash = contentHash then { card with columns := f card.columns } else card }
  | .chunk chunkId => { db with chunks := db.chunks.rewrite [chunkId] fun chunk =>
      if chunk.row.contentHash = contentHash then { chunk with columns := f chunk.columns } else chunk }

def setJob (db : Db C) (outboxId : ℕ) (job : Job EmbeddingWork) : Db C :=
  { db with outbox := db.outbox.set outboxId job }

end Db

/-- What the store asks of its libraries under the Gemini profile; `V` are the vectors of
    its callers. -/
structure Gemini (V C K : Type) where
  host : Embedding.Host V K
  /-- `_vector_literal(vector)::halfvec`, with the checks of `_validate_vector` -/
  halfvec : V → Except PyError C

/-- The job is the work of this content of the target. -/
def Job.IsFor (job : Job EmbeddingWork) (target : Target) (contentHash : String) : Prop :=
  job.work.target = target ∧ job.work.contentHash = contentHash

instance (job : Job EmbeddingWork) (target : Target) (contentHash : String) :
    Decidable (job.IsFor target contentHash) := by
  unfold Job.IsFor
  infer_instance

/-- What `clock_timestamp()` answers to the statements of one transaction, in turn. -/
structure Clock where
  at_ : ℕ → Int
  forward : ∀ n, at_ n ≤ at_ (n + 1)

section Transactions

variable {V C K : Type} (gemini : Gemini V C K)

/-! ## Writers -/

/-- The embedding columns as the caller supplies them. -/
structure Supplied (V : Type) where
  state : EmbeddingState
  embedding : Option V
  revision : ℕ

def Supplied.columns (supplied : Supplied V) : Except PyError (Columns C) := do
  let embedding ← supplied.embedding.mapM gemini.halfvec
  return ⟨supplied.state, embedding, supplied.revision⟩

/-- `_card_payload_text`. -/
def cardPayloadText (card : CardRow) : Except PyError String :=
  if card.summary ≠ "" then .ok card.summary
  else if card.title ≠ "" then .ok card.title
  else
    match gemini.host.canonicalJson card.typedPayload with
    | some text => .ok text
    | none => .error (.typeError "Object is not JSON serializable")

/-- `_enqueue_outbox_on`: open work of the same content is kept, else new work is queued. -/
def enqueueOutboxOn (target : Target) (contentHash payloadText : String) (now : Int)
    (outbox : Table ℕ (Job EmbeddingWork)) : Except PyError (Table ℕ (Job EmbeddingWork)) := do
  refuseIf (target.id = "") (.valueError "outbox target_id is required")
  let hash := varchar 71 contentHash
  match outbox.firstWhere (fun job => decide (job.IsFor target.stored hash) && job.status.active) with
  | some _ => do
      -- a key that the columns cut is not found as it was given, and its insert is refused
      refuseIf (target.stored ≠ target ∨ hash ≠ contentHash)
        (.runtimeError "embedding outbox insert returned no id")
      return outbox
  | none => return outbox.set outbox.freshKey (Job.new ⟨target.stored, hash, payloadText⟩ now)

/-- The work of a written row: none where a ready vector came with it. -/
def enqueueWritten (supplied : Supplied V) (target : Target) (contentHash : String)
    (payloadText : Except PyError String) (now : Int) (outbox : Table ℕ (Job EmbeddingWork)) :
    Except PyError (Table ℕ (Job EmbeddingWork)) :=
  if supplied.state = .pending ∨ supplied.embedding.isNone then do
    enqueueOutboxOn target contentHash (← payloadText) now outbox
  else .ok outbox

/-- `_upsert_card_on`: write a card over any row that is not accepted authority. -/
def upsertCardOn (card : CardRow) (columns : Columns C) (db : Db C) : Except PyError (Db C) := do
  let card := card.stored
  refuseIf (¬ card.Fits) (.databaseError "memory_cards does not admit the row")
  let stored := db.cards.get? card.memoryId
  refuseIf (∃ old ∈ stored, old.row.lifecycleState ∈ ["accepted", "human_accepted", "auto_accepted"])
    (.valueError "cannot overwrite an accepted memory card")
  let row := { card with
    typedPayload := gemini.host.jsonb card.typedPayload
    stewardEnvelope := stored.bind (·.row.stewardEnvelope) }
  return { db with cards := db.cards.set card.memoryId ⟨row, columns⟩ }

def upsertCard (card : CardRow) (supplied : Supplied V) (now : Int) (db : Db C) : Except PyError (Db C) := do
  validateCard card
  let columns ← supplied.columns gemini
  let db ← upsertCardOn gemini card columns db
  let outbox ← enqueueWritten supplied (.card card.memoryId) card.contentHash
    (cardPayloadText gemini card) now db.outbox
  refuseIf (card.contentHash = "") (.valueError "graph projection key fields are required")
  return { db with outbox }

def insertChunk (insertOnly : Bool) (chunk : SessionChunk) (supplied : Supplied V) (now : Int) (db : Db C) :
    Except PyError (Db C) := do
  let normalized ← normalizeChunk gemini.host chunk
  let columns ← supplied.columns gemini
  let stored := normalized.stored
  refuseIf (¬ stored.Fits ∨ supplied.revision < 1)
    (.databaseError "session_memory_chunks does not admit the row")
  refuseIf (insertOnly ∧ (db.chunks.get? stored.chunkId).isSome) (.databaseError "duplicate key value")
  let row : ChunkRow := ⟨stored.project, stored.contentMarkdown, stored.contentHash⟩
  let outbox ← enqueueWritten supplied (.chunk normalized.chunkId) normalized.contentHash
    (.ok normalized.contentMarkdown) now db.outbox
  return { db with chunks := db.chunks.set stored.chunkId ⟨row, columns⟩, outbox }

/-! ## Workers -/

/-- The job of a report, its lease checked at `clock`. -/
def leasedJob (outboxId : ℕ) (workerId : String) (clock : Int) (outbox : Table ℕ (Job EmbeddingWork)) :
    Except PyError (Job EmbeddingWork) :=
  let mismatch := PyError.valueError "outbox job not found or lease owner mismatch"
  match outbox.get? outboxId with
  | none => .error mismatch
  | some job => if job.LeasedTo workerId clock then .ok job else .error mismatch

def claimOutboxLeases (claim : Claim) (db : Db C) :
    Except PyError (List (ℕ × Job EmbeddingWork) × Db C) := do
  let (leased, outbox) ← claimLeases claim db.outbox
  return (leased, { db with outbox })

def renewOutboxLease (outboxId : ℕ) (workerId : String) (leaseSeconds : Int) (clock : Clock) (db : Db C) :
    Except PyError (Bool × Db C) := do
  refuseIf (workerId = "" ∨ leaseSeconds < 1) (.valueError "invalid outbox lease arguments")
  match db.outbox.get? outboxId with
  | none => return (false, db)
  | some job =>
      if job.LeasedTo workerId (clock.at_ 0) then
        return (true, db.setJob outboxId
          { job with leaseUntil := some (clock.at_ 1 + microseconds leaseSeconds.toNat) })
      else return (false, db)

/-- A job that ends without a write: the content it was queued for is gone. -/
def Job.skip (job : Job EmbeddingWork) : Job EmbeddingWork :=
  { job with
    status := .casSkipped
    lastError := some "CAS skip: content_hash mismatch"
    leaseUntil := none }

def Job.complete (job : Job EmbeddingWork) : Job EmbeddingWork :=
  { job with status := .completed, lastError := none, leaseUntil := none }

/-- A worker's report names the job, and the target and content it believes it is for. -/
structure Report where
  outboxId : ℕ
  target : Target
  contentHash : String
  workerId : String

/-- `SELECT ... FOR UPDATE` of the reported job. -/
def Report.select (report : Report) (clock : Int) (outbox : Table ℕ (Job EmbeddingWork)) :
    Except PyError (Job EmbeddingWork) := do
  let job ← leasedJob report.outboxId report.workerId clock outbox
  refuseIf (¬ job.IsFor report.target report.contentHash)
    (.valueError "outbox job not found or lease owner mismatch")
  return job

/-- Retire an obsolete leased job before spending on its embedding. -/
def skipStaleOutboxEmbedding (report : Report) (clock : Clock) (db : Db C) : Except PyError (Bool × Db C) := do
  refuseIf (report.workerId = "" ∨ report.outboxId = 0 ∨ report.target.id = "" ∨ report.contentHash = "")
    (.valueError "invalid outbox stale-check arguments")
  let job ← report.select (clock.at_ 0) db.outbox
  if (db.find? report.target).map Prod.fst = some report.contentHash then return (false, db)
  else
    refuseIf (¬ job.LeasedTo report.workerId (clock.at_ 1))
      (.valueError "outbox job not found or lease owner mismatch")
    return (true, db.setJob report.outboxId job.skip)

/-- CAS-write a vector and retire its job; each statement checks the lease anew. -/
def casUpdateEmbedding (report : Report) (vector : V) (clock : Clock) (db : Db C) :
    Except PyError (Bool × Db C) := do
  refuseIf (report.workerId = "") (.valueError "embedding write-back requires worker_id and outbox_id")
  let column ← gemini.halfvec vector
  let job ← report.select (clock.at_ 0) db.outbox
  let updated := decide ((db.find? report.target).map Prod.fst = some report.contentHash ∧
    job.LeasedTo report.workerId (clock.at_ 1))
  let written := if updated then
      db.updateColumns report.target report.contentHash fun columns =>
        { columns with embedding := some column, state := .ready, revision := columns.revision + 1 }
    else db
  refuseIf (¬ job.LeasedTo report.workerId (clock.at_ 2))
    (.valueError "outbox job not found or lease owner mismatch")
  return (updated, written.setJob report.outboxId (if updated then job.complete else job.skip))

/-- Record a failure; a dead letter fails the row it was queued for, if it still has that content. -/
def markOutboxFailed (outboxId : ℕ) (errorMessage : String) (maxRetries : Int) (workerId : String)
    (now clock : Int) (db : Db C) : Except PyError (Db C) := do
  refuseIf (maxRetries < 1) (.valueError "max_retries must be positive")
  refuseIf (workerId = "") (.valueError "outbox failure requires worker_id")
  let job ← leasedJob outboxId workerId clock db.outbox
  let failed := job.fail errorMessage maxRetries now
  let db := db.setJob outboxId failed
  return if failed.status = .deadLetter then
      db.updateColumns job.work.target job.work.contentHash fun columns => { columns with state := .failed }
    else db

def markOutboxCompleted (outboxId : ℕ) (workerId : String) (clock : Int) (db : Db C) : Except PyError (Db C) := do
  refuseIf (workerId = "") (.valueError "outbox completion requires worker_id")
  let job ← leasedJob outboxId workerId clock db.outbox
  return db.setJob outboxId { job with status := .completed, leaseUntil := none }

/-! ## The machine -/

inductive Op (V : Type) where
  | upsertCard (card : CardRow) (supplied : Supplied V) (now : Int)
  | insertChunk (insertOnly : Bool) (chunk : SessionChunk) (supplied : Supplied V) (now : Int)
  | claim (claim : Claim)
  | renew (outboxId : ℕ) (workerId : String) (leaseSeconds : Int) (clock : Clock)
  | skipStale (report : Report) (clock : Clock)
  | casUpdate (report : Report) (vector : V) (clock : Clock)
  | markFailed (outboxId : ℕ) (errorMessage : String) (maxRetries : Int) (workerId : String) (now clock : Int)

inductive Answer where
  | done
  | leased (jobs : List (ℕ × Job EmbeddingWork))
  | changed (updated : Bool)
  deriving DecidableEq

def transaction (op : Op V) (db : Db C) : Except PyError (Answer × Db C) :=
  match op with
  | .upsertCard card supplied now => (upsertCard gemini card supplied now db).map (Answer.done, ·)
  | .insertChunk insertOnly chunk supplied now =>
      (insertChunk gemini insertOnly chunk supplied now db).map (Answer.done, ·)
  | .claim claim => (claimOutboxLeases claim db).map (Prod.map Answer.leased id)
  | .renew outboxId workerId leaseSeconds clock =>
      (renewOutboxLease outboxId workerId leaseSeconds clock db).map (Prod.map Answer.changed id)
  | .skipStale report clock => (skipStaleOutboxEmbedding report clock db).map (Prod.map Answer.changed id)
  | .casUpdate report vector clock =>
      (casUpdateEmbedding gemini report vector clock db).map (Prod.map Answer.changed id)
  | .markFailed outboxId errorMessage maxRetries workerId now clock =>
      (markOutboxFailed outboxId errorMessage maxRetries workerId now clock db).map (Answer.done, ·)

/-- A transaction as a step: one that raises is rolled back. -/
def perform (op : Op V) (db : Db C) : Except PyError Answer × Db C :=
  match transaction gemini op db with
  | .ok (answer, db') => (.ok answer, db')
  | .error e => (.error e, db)

def step (db : Db C) (op : Op V) : Db C := (perform gemini op db).2

end Transactions

/-! ## What the statements read and write -/

section Rows

variable {C : Type}

theorem find?_updateColumns (db : Db C) (target : Target) (contentHash : String) (f : Columns C → Columns C)
    (other : Target) : (db.updateColumns target contentHash f).find? other =
      (db.find? other).map fun row => (row.1, if other = target ∧ row.1 = contentHash then f row.2 else row.2) := by
  cases target with
  | card memoryId =>
      cases other with
      | card id =>
          by_cases same : id = memoryId
          · subst same
            simp only [Db.updateColumns, Db.find?, Table.get?_rewrite, List.mem_singleton, if_true, Option.map_map]
            congr 1
            funext card
            by_cases here : card.row.contentHash = contentHash <;> simp [here]
          · simp [Db.updateColumns, Db.find?, Table.get?_rewrite, same, Function.comp_def]
      | chunk id => simp [Db.updateColumns, Db.find?, Function.comp_def]
  | chunk chunkId =>
      cases other with
      | card id => simp [Db.updateColumns, Db.find?, Function.comp_def]
      | chunk id =>
          by_cases same : id = chunkId
          · subst same
            simp only [Db.updateColumns, Db.find?, Table.get?_rewrite, List.mem_singleton, if_true, Option.map_map]
            congr 1
            funext chunk
            by_cases here : chunk.row.contentHash = contentHash <;> simp [here]
          · simp [Db.updateColumns, Db.find?, Table.get?_rewrite, same, Function.comp_def]

@[simp] theorem updateColumns_outbox (db : Db C) (target : Target) (contentHash : String)
    (f : Columns C → Columns C) : (db.updateColumns target contentHash f).outbox = db.outbox := by
  cases target <;> rfl

@[simp] theorem find?_setJob (db : Db C) (outboxId : ℕ) (job : Job EmbeddingWork) (target : Target) :
    (db.setJob outboxId job).find? target = db.find? target := by
  cases target <;> rfl

@[simp] theorem setJob_outbox (db : Db C) (outboxId : ℕ) (job : Job EmbeddingWork) :
    (db.setJob outboxId job).outbox = db.outbox.set outboxId job := rfl

variable {outbox : Table ℕ (Job EmbeddingWork)}

theorem leasedJob_eq_ok {outboxId : ℕ} {workerId : String} {clock : Int} {job : Job EmbeddingWork}
    (done : leasedJob outboxId workerId clock outbox = .ok job) :
    outbox.get? outboxId = some job ∧ job.LeasedTo workerId clock := by
  unfold leasedJob at done
  cases found : outbox.get? outboxId with
  | none => simp [found] at done
  | some stored =>
      simp only [found] at done
      split at done
      · rename_i leased
        cases done
        exact ⟨rfl, leased⟩
      · cases done

theorem Report.select_eq_ok {report : Report} {clock : Int} {job : Job EmbeddingWork}
    (done : report.select clock outbox = .ok job) :
    outbox.get? report.outboxId = some job ∧ job.LeasedTo report.workerId clock ∧
      job.IsFor report.target report.contentHash := by
  unfold Report.select at done
  simp only [bind_eq_ok, refuseIf_eq_ok, not_not, pure_eq_ok, Except.ok.injEq] at done
  obtain ⟨_, leased, _, isFor, rfl⟩ := done
  exact ⟨(leasedJob_eq_ok leased).1, (leasedJob_eq_ok leased).2, isFor⟩

end Rows

end Neurons.Outbox
