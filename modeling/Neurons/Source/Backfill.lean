import Neurons.Source.Projection

/-! # Publishing receipts of local vectors

The backfill of local embeddings publishes a receipt for each ready session chunk: it reads a
projection state, adds the receipt and puts the state back, without a condition. Meanwhile other
clients commit projections of the session and mark it pending.
-/

namespace Neurons.Source

open Neurons.Lib

/-! ## The backfill -/

/-- A session chunk whose local vector is ready. -/
structure ReadyRow where
  chunkId : String
  project : String
  provider : String
  sessionIdHash : String
  contentHash : String
  inputHash : String

/-- What the backfill asks PostgreSQL and its receipt library about one chunk. -/
structure PgSide where
  /-- `valid_local_pg_receipt_metadata` against the vectors and the materialization -/
  holds : Doc → Materialized → Bool
  localV1Id : String
  legacyV1Id : String
  legacyV2Id : String
  /-- `build_local_representation_receipt_v3` under an identity scheme -/
  build : String → Materialized → Except PyError Doc
  /-- `valid_local_representation_receipt_v3` against the vectors and the materialization -/
  accepts : Doc → Materialized → Bool

def PgSide.scheme (side : PgSide) (row : ReadyRow) : String :=
  if row.chunkId ≠ "" ∧ row.chunkId = side.localV1Id then "local_v1"
  else if row.chunkId ≠ "" ∧ row.chunkId ∈ [side.legacyV1Id, side.legacyV2Id] then "legacy_exact"
  else "legacy_reuse"

/-- The mapping under the name; empty where there is none. -/
def nested (d : Doc) (name : String) : Doc := ((Dict.get? d (.other name)).bind Doc.ofJson?).getD ∅

/-- The state with the receipt of a local profile. -/
def withLocalReceipt (state : Doc) (profile : String) (receipt : Doc) : Doc :=
  let receipts := nested state "backend_receipts"
  let localMap := Dict.insert (nested receipts Backend.pgvectorLocal.text) (.other profile) receipt.json
  Dict.insert state (.other "backend_receipts")
    (Doc.json (Dict.insert receipts (.other Backend.pgvectorLocal.text) (Doc.json localMap)))

section Programs

variable (py : Platform) (fmt : Formats) (checks : ReceiptChecks)
variable (render : ResolvedSourceRevision → Option Doc → Except PyError Materialized)

def materializeSessionMemory (sessionIdHash : String) : StoreProgram Materialized := do
  let resolved ← resolveActiveSourceRevision py storeReader sessionIdHash
  let coverage ← getDocument (coverageManifestDocId sessionIdHash)
  ofExcept (render resolved coverage)

/-- The document the backfill publishes a session's receipts in. -/
def ReadyRow.stateId (row : ReadyRow) : String := "projection_state:" ++ row.sessionIdHash

/-- The receipt to publish, if the stored one is not current. -/
def PgSide.receipt? (side : PgSide) (row : ReadyRow) (profile : String) (state : Doc) (m : Materialized) :
    Option Doc :=
  let existing := (Dict.get? (nested (nested state "backend_receipts") Backend.pgvectorLocal.text)
    (.other profile)).bind Doc.ofJson?
  let holds := existing.any fun receipt =>
    Dict.get? receipt (.other "receipt_version") = some (.num 3) ∧ side.holds receipt m
  if ¬ m.fullyMaterialized ∨ m.sourceHash = "" ∨ m.contentHash = "" ∨ row.contentHash ≠ m.contentHash ∨ holds then
    none
  else match side.build (side.scheme row) m with
    | .ok receipt => if side.accepts receipt m then some receipt else none
    | .error _ => none

def publishReceipt (profile : String) (side : PgSide) (row : ReadyRow) : StoreProgram Unit := do
  match ← getDocument row.stateId with
  | none => return ()
  | some state => do
      match ← (materializeSessionMemory py render row.sessionIdHash).attempt with
      | .error _ => return ()
      | .ok materialized =>
          match side.receipt? row profile state materialized with
          | none => return ()
          | some receipt => do
              let _ ← (performOp (.put (withLocalReceipt state profile receipt))).attempt
              return ()

def publishReceipts (profile : String) : List (PgSide × ReadyRow) → StoreProgram Unit
  | [] => .done ()
  | (side, row) :: rest => do
      publishReceipt py render profile side row
      publishReceipts profile rest

/-! ## The writers of a session's projection state -/

inductive Writer where
  | backfill (profile : String) (rows : List (PgSide × ReadyRow))
  | commit (commit : Commit) (clock : Nat → Nat → String)
  | mark (provider project sourceHash : String)

/-- The slot whose receipt the writer may replace. -/
def Writer.slot? : Writer → Option Slot
  | .commit c _ => some c.slot
  | .backfill _ _ | .mark _ _ _ => none

theorem Writer.slot?_eq_some {w : Writer} {slot : Slot} (own : w.slot? = some slot) :
    ∃ c clock, w = .commit c clock ∧ c.slot = slot := by
  cases w with
  | commit c clock => exact ⟨c, clock, rfl, Option.some.inj own⟩
  | backfill | mark => cases own

def Writer.isBackfill : Writer → Bool
  | .backfill _ _ => true
  | .commit _ _ | .mark _ _ _ => false

/-- The writer's commit, if it is one, is of the session. -/
def Writer.OfSession (sessionIdHash : String) : Writer → Prop
  | .commit c _ => c.materialized.sessionIdHash = sessionIdHash
  | .backfill _ _ | .mark _ _ _ => True

/-- What the writer does, with the status that a commit reports. -/
def Writer.program (sessionIdHash : String) : Writer → StoreProgram (Option CommitStatus)
  | .backfill profile rows => (publishReceipts py render profile rows).bind fun _ => .done none
  | .commit c clock =>
      (commitProjectionStateIfSourceCurrent py c fmt checks clock).bind fun result => .done (some result.1)
  | .mark provider project sourceHash =>
      (markProjectionPendingIfSourceChanged py fmt sessionIdHash provider project sourceHash).bind
        fun _ => .done none

end Programs

end Neurons.Source
