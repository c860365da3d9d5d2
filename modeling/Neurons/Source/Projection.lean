import Neurons.Source.Coverage

/-! # Committing a projection

A materialized session is projected to one backend at a time. Each backend keeps its receipt in
the session's projection state: the index keeps it in the state's own fields, the two PostgreSQL
backends below `backend_receipts`. A commit reads the state, adds its receipt and writes the
state back, on condition that it has not been revised meanwhile.
-/

namespace Neurons.Source

open Neurons.Lib

/-- A rendered session, as far as its receipts name it. -/
structure Materialized where
  sessionIdHash : String
  provider : String
  project : String
  contentHash : String
  sourceHash : String
  materializedAt : String
  fullyMaterialized : Bool

/-! ## Backends -/

/-- Every other name of a backend is treated as the index's. -/
inductive Backend where
  | qdrant | pgvector | pgvectorLocal
  deriving DecidableEq, Repr

def Backend.text : Backend → String
  | .qdrant => "qdrant"
  | .pgvector => "postgres_pgvector"
  | .pgvectorLocal => "postgres_pgvector_local"

def localEmbeddingProfileId : String := "lbrain-memory-model2vec-256-v1"

def pgInputPolicyVersion : Int := 1

def terminalInputReasons : List String := ["secret_egress_policy", "invalid_text_nul"]

/-- The two checks of a stored receipt's own fields. -/
structure ReceiptChecks where
  /-- `valid_pg_receipt_metadata` -/
  pg : Doc → Bool
  /-- `valid_local_pg_receipt_metadata`, without a store to compare with -/
  pgLocal : Doc → Bool

/-- Where a backend keeps its receipt; one local backend has a receipt for each profile. -/
inductive Slot where
  | mapping
  | pgvector
  | pgvectorLocal (profile : String)
  deriving DecidableEq, Repr

/-- The arguments of a commit. -/
structure Commit where
  materialized : Materialized
  status : ProjectionStatus
  failureReason : String
  failureSourceHash : String
  ref : String
  backend : Backend
  representationReceipt : Option Doc
  embeddingProfile : String

namespace Commit

variable (c : Commit)

def stateId : String := projectionStateDocId c.materialized.sessionIdHash

def profileKey : String :=
  let ofReceipt := match c.representationReceipt with
    | some receipt => ((Dict.get? receipt (.other "embedding_profile")).filter Json.truthy).elim "" Json.text
    | none => ""
  if c.embeddingProfile ≠ "" then c.embeddingProfile
  else if ofReceipt ≠ "" then ofReceipt
  else localEmbeddingProfileId

def slot : Slot :=
  match c.backend with
  | .qdrant => .mapping
  | .pgvector => .pgvector
  | .pgvectorLocal => .pgvectorLocal c.profileKey

/-- `failure_source_hash or materialized.source_hash`. -/
def attemptedHash : String :=
  if c.failureSourceHash = "" then c.materialized.sourceHash else c.failureSourceHash

/-- The fields a representation receipt repeats. -/
def identity : List (Field × Json) :=
  [(.provider, .str c.materialized.provider),
    (.project, .str c.materialized.project),
    (.activeContentHash, .str c.materialized.contentHash),
    (.projectedSourceHash, .str c.materialized.sourceHash),
    (.sessionMemoryKnowledgeId, .str c.ref)]

/-- The document has all of these values. -/
def agrees (receipt : Doc) (values : List (Key × Json)) : Bool :=
  values.all fun entry => (Dict.get? receipt entry.1).getD .null = entry.2

def keyed (fields : List (Field × Json)) : List (Key × Json) := fields.map fun entry => (.field entry.1, entry.2)

def checkReceipt (checks : ReceiptChecks) : Except PyError Unit :=
  match c.representationReceipt with
  | none => .ok ()
  | some receipt =>
      let own := agrees receipt (keyed ((.sessionIdHash, .str c.materialized.sessionIdHash) :: c.identity))
      let version (n : Int) := agrees receipt [(.other "receipt_version", .num n)]
      match c.backend with
      | .pgvectorLocal =>
          let profiled := agrees receipt [(.other "embedding_profile", .str c.profileKey)]
          refuseIf (¬ (c.status = .projected ∧ checks.pgLocal receipt ∧ version 3 ∧ profiled ∧ own))
            (.valueError "PG local representation receipt v3 mismatch")
      | .pgvector =>
          refuseIf (¬ (c.status = .projected ∧ checks.pg receipt ∧ version 2 ∧ own))
            (.valueError "PG representation receipt mismatch")
      | .qdrant => .error (.valueError "PG representation receipt mismatch")

end Commit

/-! ## Receipts -/

/-- `(value or {})`, used as a mapping. -/
def mappingOr (v : Option Json) : Except PyError Doc :=
  match v.filter Json.truthy with
  | none => .ok ∅
  | some v =>
      match Doc.ofJson? v with
      | some mapping => .ok mapping
      | none => .error (.attributeError "object has no attribute 'get'")

/-- `mapping.get(name, {})`, used as a mapping. -/
def mappingAt (d : Doc) (name : String) : Except PyError Doc :=
  match Dict.get? d (.other name) with
  | none => .ok ∅
  | some v =>
      match Doc.ofJson? v with
      | some mapping => .ok mapping
      | none => .error (.attributeError "object has no attribute 'get'")

/-- The receipt in the slot; the index's is the state itself. -/
def Slot.receipt (slot : Slot) (existing : Doc) : Except PyError Doc :=
  match slot with
  | .mapping => .ok existing
  | .pgvector => do
      let receipts ← mappingOr (Dict.get? existing (.other "backend_receipts"))
      mappingAt receipts Backend.pgvector.text
  | .pgvectorLocal profile => do
      let receipts ← mappingOr (Dict.get? existing (.other "backend_receipts"))
      let localMap ← mappingOr (Dict.get? receipts (.other Backend.pgvectorLocal.text))
      mappingAt localMap profile

section States

variable (py : Platform) (fmt : Formats) (c : Commit)

/-- The receipt a PostgreSQL backend leaves. -/
def Commit.receiptFields : List (Field × Json) :=
  let projected (text : String) := if c.status = .projected then text else ""
  [(.projectionStatus, .str c.status.text),
    (.projectedSourceHash, .str (projected c.materialized.sourceHash)),
    (.activeContentHash, .str (projected c.materialized.contentHash)),
    (.sessionMemoryKnowledgeId, .str c.ref),
    (.provider, .str c.materialized.provider),
    (.project, .str c.materialized.project),
    (.materializedAt, .str c.materialized.materializedAt),
    (.failureReason, .str c.failureReason)]

/-- The receipt, with what a representation receipt adds to it. -/
def Commit.fullReceipt : Doc :=
  let receipt := Doc.ofFields c.receiptFields
  match c.representationReceipt with
  | some own => Dict.insertAll receipt own.entries
  | none => receipt

/-- A pending state, for a session that has none. -/
def Commit.freshState : Except PyError Doc :=
  buildProjectionStateDocument py fmt {
    sessionIdHash := c.materialized.sessionIdHash
    provider := c.materialized.provider
    project := c.materialized.project
    projectionStatus := .pending
    sessionMemoryKnowledgeId := "", activeContentHash := "", failureReason := "", sourceHash := ""
    projectedSourceHash := "", materializedAt := "" }

/-- `dict(existing) if existing else ...`. -/
def Commit.baseState (existing : Option Doc) : Except PyError Doc :=
  match existing with
  | some existing => .ok existing
  | none => c.freshState py fmt

/-- The hash the index was projected at. -/
def projectedHash (existing : Doc) : String :=
  let projected := existing.text .projectedSourceHash
  if projected = "" ∧ existing.text .projectionStatus = ProjectionStatus.projected.text then
    existing.text .sourceHash
  else projected

/-- The state with the receipts of the other backends. -/
def keepReceipts (existing state : Doc) : Doc :=
  match (Dict.get? existing (.other "backend_receipts")).filter Json.truthy with
  | some receipts => Dict.insert state (.other "backend_receipts") receipts
  | none => state

def Commit.mappingState (existing : Doc) : Except PyError Doc := do
  let projected := c.status = .projected
  let state ← buildProjectionStateDocument py fmt {
    sessionIdHash := c.materialized.sessionIdHash
    provider := c.materialized.provider
    project := c.materialized.project
    projectionStatus := c.status
    sessionMemoryKnowledgeId := if projected then c.ref else ""
    activeContentHash := if projected then c.materialized.contentHash else ""
    failureReason := if projected then "" else c.failureReason
    sourceHash := c.materialized.sourceHash
    projectedSourceHash := if projected then c.materialized.sourceHash else projectedHash existing
    materializedAt := if projected then c.materialized.materializedAt else "" }
  return keepReceipts existing state

/-- The state with the commit's receipt. -/
def Commit.projectionState (existing : Option Doc) : Except PyError Doc :=
  match c.backend with
  | .qdrant => c.mappingState py fmt (existing.getD ∅)
  | .pgvector => do
      let state ← c.baseState py fmt existing
      let receipts ← mappingEntry state "backend_receipts"
      let receipts := Dict.insert receipts (.other Backend.pgvector.text) c.fullReceipt.json
      let state := Dict.insert state (.other "backend_receipts") (Doc.json receipts)
      if c.status = .projected then return Dict.erase state (.other "failure_source_hash")
      else if c.failureSourceHash = "" then return state
      else return Dict.insert state (.other "failure_source_hash") (.str c.failureSourceHash)
  | .pgvectorLocal => do
      let state ← c.baseState py fmt existing
      let receipts ← mappingEntry state "backend_receipts"
      let localMap ← mappingEntry receipts Backend.pgvectorLocal.text
      let localMap := Dict.insert localMap (.other c.profileKey) c.fullReceipt.json
      let receipts := Dict.insert receipts (.other Backend.pgvectorLocal.text) (Doc.json localMap)
      return Dict.insert state (.other "backend_receipts") (Doc.json receipts)

end States

/-! ## The audit of attempts -/

structure Attempt where
  backend : Backend
  status : ProjectionStatus
  reason : String
  sourceHash : String

def terminalFailureFields : List String :=
  ["terminal_failure_policy_version", "terminal_failure_source_hash", "terminal_failure_reason"]

def Attempt.entry (attempt : Attempt) (recordedAt : String) : Doc :=
  [("recorded_at", Json.str recordedAt), ("policy_version", .num pgInputPolicyVersion)].foldl
    (fun d entry => Dict.insert d (.other entry.1) entry.2)
    (Doc.ofFields [(.status, .str attempt.status.text), (.reason, .str attempt.reason),
      (.sourceHash, .str attempt.sourceHash)])

/-- Attach an additive attempt audit without changing the last good receipt. -/
def withProjectionAttempt (attempt : Attempt) (recordedAt : String) (document : Doc) : Except PyError Doc :=
  if attempt.backend = .qdrant then .ok document
  else do
    let attempts ← mappingEntry document "projection_attempt"
    let attempts := Dict.insert attempts (.other attempt.backend.text) (attempt.entry recordedAt).json
    let updated := Dict.insert document (.other "projection_attempt") (Doc.json attempts)
    if attempt.backend ≠ .pgvector then return updated
    else if attempt.status = .failed ∧ attempt.reason ∈ terminalInputReasons then
      return [Json.num pgInputPolicyVersion, .str attempt.sourceHash, .str attempt.reason].zip terminalFailureFields
        |>.foldl (fun d entry => Dict.insert d (.other entry.2) entry.1) updated
    else if attempt.status = .projected then
      return terminalFailureFields.foldl (fun d name => Dict.erase d (.other name)) updated
    else return updated

section Programs

variable (py : Platform)

/-- The attempts that are left; the clock is read once in each. -/
def recordAttempt (attempt : Attempt) (state : Doc) (clock : Nat → String) : Nat → StoreProgram Doc
  | 0 => .done state
  | left + 1 => do
      let stored ← getDocument (state.text .id)
      let current := stored.getD state
      let updated ← ofExcept (withProjectionAttempt attempt (clock left) current)
      let written ← attemptOp (.putIfRevision updated (current.text .rev))
      if written then do
        let stored ← getDocument (state.text .id)
        return stored.getD updated
      else recordAttempt attempt state clock left

/-- Best-effort audit write for early-return paths. -/
def persistProjectionAttempt (attempt : Attempt) (state : Doc) (clock : Nat → String) : StoreProgram Doc :=
  if attempt.backend = .qdrant ∨ state.text .id = "" then .done state
  else recordAttempt attempt state clock 3

/-! ## The commit -/

inductive CommitStatus where
  | sourceRevisionChanged | previousReceiptPreserved | alreadyProjected | written
  deriving DecidableEq, Repr

variable (c : Commit)

def Commit.attempt : Attempt := ⟨c.backend, c.status, c.failureReason, c.attemptedHash⟩

/-- A failed refresh of a backend that has a successful receipt. -/
def Commit.wouldDestroy (receipt : Doc) : Prop :=
  c.backend ≠ .qdrant ∧ c.status ≠ .projected ∧
    receipt.get? .projectionStatus = some (.str ProjectionStatus.projected.text)

instance (receipt : Doc) : Decidable (c.wouldDestroy receipt) :=
  inferInstanceAs (Decidable (_ ∧ _ ∧ _))

/-- The PostgreSQL receipt is the one the commit would write. -/
def Commit.sameReceipt (receipt : Doc) : Bool :=
  match c.representationReceipt with
  | some own => own = ∅ ∧ Commit.agrees receipt (Commit.keyed c.identity) ∨
      own ≠ ∅ ∧ Commit.agrees receipt own.entries
  | none => Commit.agrees receipt (Commit.keyed c.identity) ∧
      ¬ Dict.contains receipt (.other "representation_content_hash")

def Commit.alreadyProjected (checks : ReceiptChecks) (receipt : Doc) : Bool :=
  let refreshed := receipt.text .projectionStatus == ProjectionStatus.projected.text &&
    receipt.text .projectedSourceHash == c.materialized.sourceHash
  let same := c.status == .projected && c.sameReceipt receipt
  match c.backend with
  | .qdrant => refreshed
  | .pgvector => refreshed && checks.pg receipt && same
  | .pgvectorLocal => refreshed && checks.pgLocal receipt && same

/-- The last attempt audited for the backend was none that projected. -/
def Commit.attemptDiffers (existing : Doc) : Except PyError Bool := do
  let attempts ← mappingOr (Dict.get? existing (.other "projection_attempt"))
  let attempt ← mappingOr (Dict.get? attempts (.other c.backend.text))
  return attempt ≠ ∅ ∧ attempt.get? .status ≠ some (.str ProjectionStatus.projected.text)

/-- After a write: whether a PostgreSQL receipt is still current and is the one that was written. -/
def Commit.readBack (state : Doc) (persisted : Option Doc) : StoreProgram (CommitStatus × Doc) :=
  if c.backend = .qdrant then .done (.written, persisted.getD state)
  else do
    let current ← currentSessionSourceHash py c.materialized.sessionIdHash
    if current ≠ c.materialized.sourceHash then return (.sourceRevisionChanged, persisted.getD ∅)
    else match persisted with
      | none => .fail (.conflict "PG projection receipt readback mismatch")
      | some stored =>
          if Dict.get? stored (.other "backend_receipts") = Dict.get? state (.other "backend_receipts") then
            return (.written, stored)
          else .fail (.conflict "PG projection receipt readback mismatch")

variable (fmt : Formats) (checks : ReceiptChecks)

/-- The attempts that are left. -/
def Commit.commitAttempts (clock : Nat → Nat → String) : Nat → StoreProgram (CommitStatus × Doc)
  | 0 => .fail (.conflict "projection state conflict retry exhausted")
  | left + 1 => do
      let current ← currentSessionSourceHash py c.materialized.sessionIdHash
      let existing ← getDocument c.stateId
      if current ≠ c.materialized.sourceHash then do
        let state ← persistProjectionAttempt c.attempt (existing.getD ∅) (clock left)
        return (.sourceRevisionChanged, state)
      else do
        let receipt ← ofExcept (c.slot.receipt (existing.getD ∅))
        if c.wouldDestroy receipt then do
          -- Failed refresh must not destroy the last successful mapping.
          let state ← persistProjectionAttempt c.attempt (existing.getD ∅) (clock left)
          return (.previousReceiptPreserved, state)
        else if c.alreadyProjected checks receipt then do
          let differs ← ofExcept (c.attemptDiffers (existing.getD ∅))
          let audit : Attempt := ⟨c.backend, .projected, "", c.materialized.sourceHash⟩
          let state ← if differs then persistProjectionAttempt audit (existing.getD ∅) (clock left)
            else pure (existing.getD ∅)
          return (.alreadyProjected, state)
        else do
          let state ← ofExcept (c.projectionState py fmt existing)
          let state ← ofExcept (withProjectionAttempt c.attempt (clock left 3) state)
          let written ← attemptOp (.putIfRevision state ((existing.map fun d => Doc.text d .rev).getD ""))
          if written then do
            let persisted ← getDocument c.stateId
            c.readBack py state persisted
          else commitAttempts clock left

def commitProjectionStateIfSourceCurrent (clock : Nat → Nat → String) : StoreProgram (CommitStatus × Doc) := do
  ofExcept (c.checkReceipt checks)
  c.commitAttempts py fmt checks clock 3

end Programs

end Neurons.Source
