import Neurons.Embedding.Effects

/-! # The kinds of outbox transactions

Every committed transaction is told apart by what it did: the claims about runs go
through these cases instead of through the code of each operation.
-/

namespace Neurons.Embedding

open Neurons.Lib
open Neurons.Source
open Neurons.Steward (CardRow)

variable {V C : Type}

/-! ## Requests -/

section Requests

variable (host : Host V C)

/-- What is to be embedded of an approved card. -/
def approvedRequest (request : Json) : Option Request :=
  match Doc.ofJson? request with
  | none => none
  | some stored =>
      match cardInputV1 host (Steward.value stored .summary) (Steward.value stored .title)
          (Steward.value stored .typedPayload) with
      | .ok payloadText => some ⟨.card (Steward.value stored .memoryId).text,
          (Steward.value stored .contentHash).text, payloadText⟩
      | .error _ => none

/-- What is to be embedded of an upserted card. -/
def cardRequest (card : CardRow) : Option Request :=
  if host.lib.localProfile then
    match cardRowInput host card with
    | .ok payloadText => some ⟨.card card.memoryId, card.contentHash, payloadText⟩
    | .error _ => none
  else none

/-- What is to be embedded of a session chunk. -/
def chunkRequest (chunk : SessionChunk) : Option Request :=
  match normalizeChunk host chunk with
  | .ok normalized =>
      some ⟨.chunk normalized.chunkId, normalized.contentHash, normalized.contentMarkdown⟩
  | .error _ => none

/-- What an operation asks the local outbox to embed, in order. -/
def requestsOf (db : Db C) : Op V → List Request
  | .upsertCard card _ => (cardRequest host card).toList
  | .steward call _ => (approvedCards host call db).filterMap (approvedRequest host)
  | .insertChunkWithLocalOutbox _ chunk _ => (chunkRequest host chunk).toList
  | .enqueue target sourceHash payloadText _ => [⟨target, sourceHash, payloadText⟩]
  | _ => []

end Requests

/-- The operations that write parents and enqueue. -/
def Op.writes : Op V → Bool
  | upsertCard .. | steward .. | insertChunk .. | insertChunkWithLocalOutbox .. | enqueue .. => true
  | _ => false

/-- The parent an operation may write anew. -/
def Op.rewrites : Op V → Option Target
  | upsertCard card _ => some (Target.card card.memoryId).stored
  | insertChunk _ chunk | insertChunkWithLocalOutbox _ chunk _ => some (Target.chunk chunk.chunkId).stored
  | _ => none

/-- The parent an operation deletes. -/
def Op.deletes : Op V → Option (Target × Int)
  | deleteCard memoryId _ now => some (.card memoryId, now)
  | deleteSessionChunk chunkId now => some (.chunk chunkId, now)
  | _ => none

/-! ## Kinds -/

/-- Parents were written; every other one that was there is as it was. -/
structure Rewrote (host : Host V C) (rewritten : Option Target) (db mid : Db C) : Prop where
  tables : SameTables db mid
  others : ∀ target, rewritten ≠ some target → ∀ hash, db.contentHash? target = some hash →
    mid.contentHash? target = some hash ∧
      canonicalInput? host mid target = canonicalInput? host db target

/-- A target was deleted with its derived row. -/
structure Deleted (host : Host V C) (target : Target) (now : Int) (db db' : Db C) : Prop where
  gone : db'.contentHash? target = none
  others : ∀ other, other ≠ target → db'.contentHash? other = db.contentHash? other ∧
    canonicalInput? host db' other = canonicalInput? host db other
  outbox : db'.outbox = db.outbox.mapValues (cancelDeleted target)
  tombstones : db'.tombstones = db.tombstones.set target ⟨db.incarnation target + 1, some now⟩
  derived : db'.derived = db.derived.erase target

/-- What a committed operation did and answered. -/
inductive Committed (host : Host V C) (db : Db C) : Op V → Answer → Db C → Prop
  | wrote {op : Op V} {answer : Answer} {now : Int} {mid db' : Db C} (writes : op.writes)
      (rewrote : Rewrote host op.rewrites db mid)
      (enqueued : EnqueuedAll host now (requestsOf host db op) mid db') : Committed host db op answer db'
  | deleted {op : Op V} {target : Target} {now : Int} {db' : Db C} (deletes : op.deletes = some (target, now))
      (deleted : Deleted host target now db db') : Committed host db op .none db'
  | leased {claim : Claim} {tried : List ℕ} {jobs : List (ℕ × Job)} {db' : Db C}
      (distinct : tried.Nodup) (all : LeasedAll claim tried jobs db db') : Committed host db (.claim claim) (.leased jobs) db'
  | unrenewed {outboxId : ℕ} {workerId : String} {token seconds : ℕ} {now : Int} {done : Bool} :
      Committed host db (.renew outboxId workerId token seconds now) (.flag done) db
  | renewed {outboxId : ℕ} {workerId : String} {token seconds : ℕ} {now : Int} {done : Bool} {job : Job}
      (found : db.outbox.get? outboxId = some job) (held : job.HeldBy workerId token now) :
      Committed host db (.renew outboxId workerId token seconds now) (.flag done)
        (db.setJob outboxId { job with leaseUntil := some (now + microseconds seconds) })
  | reported {outboxId : ℕ} {workerId : String} {token : ℕ} {vector : V} {now : Int} {done : Bool}
      {job : Job} {column : C} {db' : Db C} (literal : host.localVector vector = .ok column)
      (found : db.outbox.get? outboxId = some job) (held : job.HeldBy workerId token now)
      (outcome : WriteBackOutcome host outboxId job column db done db') :
      Committed host db (.complete outboxId workerId token vector now) (.flag done) db'
  | failed {outboxId : ℕ} {workerId : String} {token : ℕ} {errorCode : String} {retryable : Bool}
      {maxRetries now : Int} {status : JobStatus} {job : Job} {db' : Db C}
      (found : db.outbox.get? outboxId = some job) (held : job.HeldBy workerId token now)
      (failed : Failed outboxId job (safeError errorCode) retryable maxRetries now db db') :
      Committed host db (.markFailed outboxId workerId token errorCode retryable maxRetries now)
        (.status status) db'
  | requeued {targetIds : Option (List String)} {allowed : List String} {tried ids : List ℕ} {db' : Db C}
      (wanted : ∀ outboxId ∈ tried, ∃ job, db.outbox.get? outboxId = some job ∧
        job.Requeueable (allowed.filter (· ≠ "")) (targetIds.map (·.filter (· ≠ ""))))
      (all : RequeuedAll tried ids db db') :
      Committed host db (.requeue targetIds allowed) (.requeued ids) db'

/-! ## The operations -/

section Operations

variable {host : Host V C}

theorem Rewrote.idle (db : Db C) : Rewrote host none db db :=
  ⟨.refl db, fun _ _ _ found => ⟨found, rfl⟩⟩

theorem upsertCardOn_eq_ok {card : CardRow} {db mid : Db C} (done : upsertCardOn host card db = .ok mid) :
    Rewrote host (some (Target.card card.memoryId).stored) db mid := by
  simp only [upsertCardOn, bind_eq_ok, refuseIf_eq_ok, pure_eq_ok, Except.ok.injEq] at done
  obtain ⟨⟨⟩, -, ⟨⟩, -, rfl⟩ := done
  refine ⟨⟨rfl, rfl, rfl⟩, fun target other hash found => ?_⟩
  cases target with
  | chunk chunkId => exact ⟨found, rfl⟩
  | card memoryId =>
      have apart : memoryId ≠ card.stored.memoryId := by
        rintro rfl
        exact other rfl
      simp only [Db.contentHash?, canonicalInput?, Dict.get?_insert, apart, if_false] at found ⊢
      exact ⟨found, trivial⟩

theorem enqueueAll_single {request : Request} {now : Int} {db db' : Db C} {outboxId : ℕ}
    (done : enqueueLocalOutboxOn host request.target request.sourceHash request.payloadText now db =
      .ok (outboxId, db')) : EnqueuedAll host now [request] db db' := by
  obtain ⟨inputHash, hashed, enqueued⟩ := enqueueLocalOutboxOn_eq_ok done
  exact .cons hashed enqueued (.nil db')

theorem enqueueCard_eq_ok {card : CardRow} {now : Int} {db db' : Db C}
    (done : enqueueCard host card now db = .ok db') :
    EnqueuedAll host now (cardRequest host card).toList db db' := by
  unfold enqueueCard at done
  split at done
  · next profile =>
      obtain ⟨⟨⟩, -, done⟩ := bind_eq_ok.mp done
      obtain ⟨payloadText, input, done⟩ := bind_eq_ok.mp done
      obtain ⟨⟨outboxId, last⟩, enqueued, done⟩ := bind_eq_ok.mp done
      cases done
      have request : cardRequest host card =
          some ⟨.card card.memoryId, card.contentHash, payloadText⟩ := by
        simp [cardRequest, profile, input]
      rw [request]
      exact enqueueAll_single enqueued
  · next profile =>
      cases done
      have request : cardRequest host card = none := by simp [cardRequest, profile]
      rw [request]
      exact .nil db

theorem putChunk_eq_ok {insertOnly : Bool} {chunk : SessionChunk} {db mid : Db C}
    (done : putChunk insertOnly chunk db = .ok mid) :
    Rewrote host (some (Target.chunk chunk.chunkId).stored) db mid := by
  simp only [putChunk, bind_eq_ok, refuseIf_eq_ok, pure_eq_ok, Except.ok.injEq] at done
  obtain ⟨⟨⟩, -, ⟨⟩, -, rfl⟩ := done
  refine ⟨⟨rfl, rfl, rfl⟩, fun target other hash found => ?_⟩
  cases target with
  | card memoryId => exact ⟨found, rfl⟩
  | chunk chunkId =>
      have apart : chunkId ≠ chunk.stored.chunkId := by
        rintro rfl
        exact other rfl
      simp only [Db.contentHash?, canonicalInput?, Table.get?_set, apart, if_false] at found ⊢
      exact ⟨found, trivial⟩

theorem normalizeChunk_chunkId {chunk normalized : SessionChunk}
    (done : normalizeChunk host chunk = .ok normalized) : normalized.chunkId = chunk.chunkId := by
  simp only [normalizeChunk, bind_eq_ok, pure_eq_ok, Except.ok.injEq] at done
  obtain ⟨⟨⟩, -, rfl⟩ := done
  rfl

theorem enqueueApproved_eq_ok {request : Json} {now : Int} {db db' : Db C}
    (done : enqueueApproved host request now db = .ok db') :
    EnqueuedAll host now (approvedRequest host request).toList db db' := by
  unfold enqueueApproved at done
  cases read : Doc.ofJson? request with
  | none => simp [read] at done
  | some stored =>
      simp only [read] at done
      obtain ⟨payloadText, input, done⟩ := bind_eq_ok.mp done
      obtain ⟨⟨outboxId, last⟩, enqueued, done⟩ := bind_eq_ok.mp done
      cases done
      have asked : approvedRequest host request = some ⟨.card (Steward.value stored .memoryId).text,
          (Steward.value stored .contentHash).text, payloadText⟩ := by
        simp [approvedRequest, read, input]
      rw [asked]
      exact enqueueAll_single enqueued

theorem EnqueuedAll.append {now : Int} {first second : List Request} {db mid db' : Db C}
    (done : EnqueuedAll host now first db mid) (later : EnqueuedAll host now second mid db') :
    EnqueuedAll host now (first ++ second) db db' := by
  induction done with
  | nil db => exact later
  | cons hashed enqueued _ ih => exact .cons hashed enqueued (ih later)

theorem enqueueApproved_all {requests : List Json} {now : Int} {db db' : Db C}
    (done : requests.foldlM (fun db request => enqueueApproved host request now db) db = .ok db') :
    EnqueuedAll host now (requests.filterMap (approvedRequest host)) db db' := by
  induction requests generalizing db with
  | nil =>
      cases done
      exact .nil _
  | cons request rest ih =>
      rw [List.foldlM_cons] at done
      obtain ⟨mid, first, done⟩ := bind_eq_ok.mp done
      have split : (request :: rest).filterMap (approvedRequest host) =
          (approvedRequest host request).toList ++ rest.filterMap (approvedRequest host) := by
        cases asked : approvedRequest host request with
        | none => simp [asked]
        | some _ => simp [asked]
      rw [split]
      exact (enqueueApproved_eq_ok first).append (ih done)

theorem Rewrote.of_keepsBodies {db mid : Db C} (keeps : KeepsBodies db.steward mid.steward)
    (chunks : mid.chunks = db.chunks) (tables : SameTables db mid) : Rewrote host none db mid := by
  refine ⟨tables, fun target _ hash found => ?_⟩
  cases target with
  | chunk chunkId =>
      simp only [Db.contentHash?, canonicalInput?, chunks] at found ⊢
      exact ⟨found, trivial⟩
  | card memoryId =>
      simp only [Db.contentHash?, canonicalInput?] at found ⊢
      obtain ⟨row, held, rfl⟩ := Option.map_eq_some_iff.mp found
      obtain ⟨row', held', contentHash, summary, title, payload⟩ := keeps memoryId row held
      simp [held, held', cardRowInput, contentHash, summary, title, payload]

theorem stewardCall_eq_ok {call : Steward.Call} {now : Int} {db db' : Db C}
    {reply : Except PyError Steward.Reply} (done : stewardCall host call now db = .ok (reply, db')) :
    ∃ mid, Rewrote host none db mid ∧
      EnqueuedAll host now ((approvedCards host call db).filterMap (approvedRequest host)) mid db' := by
  have keeps : KeepsBodies db.steward (stewardOutcome host call db).2 :=
    perform_keepsBodies (recording host.lib) call { db.steward with localTables := [] }
  have decided : KeepsBodies db.steward (decidedDb host call db).steward :=
    keeps.trans (.of_cards rfl)
  simp only [stewardCall, bind_eq_ok, pure_eq_ok, Except.ok.injEq, Prod.mk.injEq] at done
  obtain ⟨last, enqueued, -, rfl⟩ := done
  exact ⟨decidedDb host call db, .of_keepsBodies decided rfl ⟨rfl, rfl, rfl⟩,
    enqueueApproved_all enqueued⟩

theorem deleteCard_eq_ok {memoryId : String} {referenced : Bool} {now : Int} {db db' : Db C}
    (done : deleteCard memoryId referenced now db = .ok db') :
    Deleted host (.card memoryId) now db db' := by
  simp only [deleteCard, bind_eq_ok, pure_eq_ok, Except.ok.injEq] at done
  obtain ⟨⟨⟩, -, rfl⟩ := done
  refine ⟨by simp [Db.contentHash?, Dict.get?_erase], fun other apart => ?_, rfl, rfl, rfl⟩
  cases other with
  | chunk chunkId => exact ⟨rfl, rfl⟩
  | card id =>
      have idApart : id ≠ memoryId := by
        rintro rfl
        exact apart rfl
      simp [Db.contentHash?, canonicalInput?, Dict.get?_erase, idApart]

theorem deleteSessionChunk_deleted (chunkId : String) (now : Int) (db : Db C) :
    Deleted host (.chunk chunkId) now db (deleteSessionChunk chunkId now db) := by
  refine ⟨by simp [Db.contentHash?, deleteSessionChunk, Table.get?_erase], fun other apart => ?_, rfl,
    rfl, rfl⟩
  cases other with
  | card id => exact ⟨rfl, rfl⟩
  | chunk id =>
      have idApart : id ≠ chunkId := by
        rintro rfl
        exact apart rfl
      simp [Db.contentHash?, canonicalInput?, deleteSessionChunk, Table.get?_erase, idApart]

theorem transaction_eq_ok {op : Op V} {answer : Answer} {db db' : Db C}
    (done : transaction host op db = .ok (answer, db')) : Committed host db op answer db' := by
  cases op with
  | upsertCard card now =>
      simp only [transaction, upsertCard, bind_eq_ok, pure_eq_ok, Except.ok.injEq,
        Prod.mk.injEq] at done
      obtain ⟨_, ⟨⟨⟩, -, mid, written, last, enqueued, ⟨⟩, -, rfl⟩, rfl, rfl⟩ := done
      exact .wrote rfl (upsertCardOn_eq_ok written) (enqueueCard_eq_ok enqueued)
  | steward call now =>
      simp only [transaction, bind_eq_ok, pure_eq_ok, Except.ok.injEq, Prod.mk.injEq] at done
      obtain ⟨⟨reply, last⟩, called, rfl, rfl⟩ := done
      obtain ⟨mid, rewrote, enqueued⟩ := stewardCall_eq_ok called
      exact .wrote rfl rewrote enqueued
  | insertChunk insertOnly chunk =>
      simp only [transaction, insertChunk, bind_eq_ok, pure_eq_ok, Except.ok.injEq,
        Prod.mk.injEq] at done
      obtain ⟨last, ⟨normalized, normal, written⟩, rfl, rfl⟩ := done
      have rewrote : Rewrote host _ db _ := putChunk_eq_ok written
      rw [normalizeChunk_chunkId normal] at rewrote
      have enqueued : EnqueuedAll host 0 [] last last := .nil last
      exact .wrote rfl rewrote enqueued
  | insertChunkWithLocalOutbox insertOnly chunk now =>
      simp only [transaction, insertChunkWithLocalOutbox, bind_eq_ok, pure_eq_ok, Except.ok.injEq,
        Prod.mk.injEq] at done
      obtain ⟨⟨outboxId, last⟩, ⟨normalized, normal, mid, written, ⟨⟩, -, enqueued⟩, rfl, rfl⟩ := done
      have rewrote : Rewrote host _ db _ := putChunk_eq_ok written
      rw [normalizeChunk_chunkId normal] at rewrote
      have request : chunkRequest host chunk = some
          ⟨.chunk normalized.chunkId, normalized.contentHash, normalized.contentMarkdown⟩ := by
        simp [chunkRequest, normal]
      have all : EnqueuedAll host now (chunkRequest host chunk).toList mid last := by
        rw [request]
        exact enqueueAll_single enqueued
      exact .wrote rfl rewrote all
  | enqueue target sourceHash payloadText now =>
      simp only [transaction, bind_eq_ok, pure_eq_ok, Except.ok.injEq, Prod.mk.injEq] at done
      obtain ⟨⟨outboxId, last⟩, enqueued, rfl, rfl⟩ := done
      exact .wrote rfl (.idle db) (enqueueAll_single enqueued)
  | deleteCard memoryId referenced now =>
      simp only [transaction, bind_eq_ok, pure_eq_ok, Except.ok.injEq, Prod.mk.injEq] at done
      obtain ⟨_, deleted, rfl, rfl⟩ := done
      exact .deleted rfl (deleteCard_eq_ok deleted)
  | deleteSessionChunk chunkId now =>
      simp only [transaction, Except.ok.injEq, Prod.mk.injEq] at done
      obtain ⟨rfl, rfl⟩ := done
      exact .deleted rfl (deleteSessionChunk_deleted chunkId now db)
  | claim claim =>
      simp only [transaction, claimLocalOutboxLeases, bind_eq_ok, pure_eq_ok, Except.ok.injEq,
        Prod.mk.injEq] at done
      obtain ⟨⟨jobs, last⟩, ⟨⟨⟩, -, leased⟩, rfl, rfl⟩ := done
      obtain ⟨tried, new, within, rfl, all⟩ := leaseCandidates_eq_ok leased
      exact .leased ((candidates_nodup claim db.outbox).sublist within.sublist) all
  | renew outboxId workerId token seconds now =>
      simp only [transaction, bind_eq_ok, pure_eq_ok, Except.ok.injEq, Prod.mk.injEq] at done
      obtain ⟨⟨done, last⟩, renewed, rfl, rfl⟩ := done
      rcases renewLocalOutboxLease_eq_ok renewed with rfl | ⟨job, found, held, rfl⟩
      · exact .unrenewed
      · exact .renewed found held
  | complete outboxId workerId token vector now =>
      simp only [transaction, bind_eq_ok, pure_eq_ok, Except.ok.injEq, Prod.mk.injEq] at done
      obtain ⟨⟨done, last⟩, completed, rfl, rfl⟩ := done
      obtain ⟨job, column, literal, found, held, outcome⟩ := completeLocalOutboxCas_eq_ok completed
      exact .reported literal found held outcome
  | markFailed outboxId workerId token errorCode retryable maxRetries now =>
      simp only [transaction, bind_eq_ok, pure_eq_ok, Except.ok.injEq, Prod.mk.injEq] at done
      obtain ⟨⟨status, last⟩, marked, rfl, rfl⟩ := done
      obtain ⟨job, found, held, failed⟩ := markLocalOutboxFailed_eq_ok marked
      exact .failed found held failed
  | requeue targetIds allowed =>
      simp only [transaction, Except.ok.injEq, Prod.mk.injEq] at done
      obtain ⟨rfl, rfl⟩ := done
      have done : requeueLocalDeadLetters targetIds allowed db =
          ((requeueLocalDeadLetters targetIds allowed db).1,
            (requeueLocalDeadLetters targetIds allowed db).2) := rfl
      obtain ⟨tried, wanted, all⟩ := requeueLocalDeadLetters_eq done
      exact .requeued wanted all

/-- A step commits one transaction or changes nothing. -/
theorem step_cases (op : Op V) (db : Db C) :
    step host db op = db ∨
      ∃ answer, transaction host op db = .ok (answer, step host db op) ∧
        Committed host db op answer (step host db op) := by
  unfold step perform
  cases done : transaction host op db with
  | error e => exact .inl rfl
  | ok result => exact .inr ⟨result.1, rfl, transaction_eq_ok done⟩

end Operations

end Neurons.Embedding
