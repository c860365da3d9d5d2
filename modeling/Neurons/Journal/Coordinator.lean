import Neurons.Lib.Program
import Neurons.Source.ReferencePlatform

/-! # Graph operations across PostgreSQL and Neo4j

A graph operation takes the fence of its group in Neo4j, then runs its steps. Every step
leaves a receipt in Neo4j and one in the PostgreSQL journal; no transaction spans the
two, so a coordinator is a program of single calls that may be interleaved with others or
cut off between any two of them.
-/

namespace Neurons.Journal

open Neurons.Lib
open Neurons.Source

def graphOperationSteps : List String :=
  ["extract_resolved", "entities_upserted", "edges_upserted", "invalidations_applied",
    "embeddings_committed"]

inductive GraphError where
  | valueError (message : String)
  | groupFenceBusy (message : String)
  | groupQuarantined (message : String)
  | graphOperationConflictQuarantined (message : String)
  /-- what the action of a step raised -/
  | action (message : String)
  deriving DecidableEq, Repr

/-! ## Effect hashes -/

/-- JSON keeps a character beyond ASCII as it is under `ensure_ascii=False`. -/
def compactEscape (c : Char) : List Char := if 127 ≤ c.toNat then [c] else jsonEscape c

def compactText (s : String) : List Char := '"' :: s.toList.flatMap compactEscape ++ ['"']

mutual

/-- `json.dumps(payload, sort_keys=True, separators=(",", ":"), ensure_ascii=False)`. -/
def compactDumps : Json → List Char
  | .null => "null".toList
  | .bool true => "true".toList
  | .bool false => "false".toList
  | .num n => (toString n).toList
  | .dec m scale => (decimalText m scale).toList
  | .str s => compactText s
  | .arr items => '[' :: [','].intercalate (compactItems items) ++ [']']
  | .obj fields =>
      '\x7b' :: [','].intercalate ((sortOn Prod.fst (compactFields fields)).map
        (fun entry => compactText entry.1 ++ ':' :: entry.2)) ++ ['\x7d']

def compactItems : List Json → List (List Char)
  | [] => []
  | item :: rest => compactDumps item :: compactItems rest

def compactFields : List (Key × Json) → List (String × List Char)
  | [] => []
  | (k, item) :: rest => (k.name, compactDumps item) :: compactFields rest

end

def computeStepEffectHash (py : Platform) (payload : Json) : String :=
  sha256Hash py (.text (String.ofList (compactDumps payload)))

/-! ## The fence of a group -/

inductive FenceStatus where
  | idle
  | liveWriteInProgress
  | backfillInProgress
  | reconciling
  | quarantined
  deriving DecidableEq, Repr

def FenceStatus.name : FenceStatus → String
  | .idle => "idle"
  | .liveWriteInProgress => "live_write_in_progress"
  | .backfillInProgress => "backfill_in_progress"
  | .reconciling => "reconciling"
  | .quarantined => "quarantined"

/-- An `EmbeddingGroupFence` node; instants are microseconds. -/
structure Fence where
  epoch : Nat
  status : FenceStatus
  leaseOwner : Option String
  leaseUntil : Option Int
  activeOperationId : Option String
  quarantineReason : Option String
  deriving DecidableEq, Repr

/-- What `ON CREATE` sets. -/
def Fence.fresh : Fence := ⟨0, .idle, none, none, none, none⟩

inductive FenceOutcome where
  | quarantined
  | acquired
  | busy
  deriving DecidableEq, Repr

structure GroupLease where
  groupId : String
  epoch : Nat
  leaseOwner : String
  leaseUntil : Int
  activeOperationId : String
  status : FenceStatus
  deriving DecidableEq, Repr

/-- The parameters of the statement of `acquire_group_fence_lease`. -/
structure Acquisition where
  leaseOwner : String
  operationId : String
  status : FenceStatus
  now : Int
  until_ : Int
  bumpEpoch : Bool

namespace Fence

def outcome (fence : Fence) (a : Acquisition) : FenceOutcome :=
  if fence.status = .quarantined then .quarantined
  else if fence.leaseOwner = none ∨ fence.leaseOwner = some a.leaseOwner ∨ fence.leaseUntil = none ∨
      (∃ until_ ∈ fence.leaseUntil, until_ ≤ a.now) ∨ fence.status = .idle then .acquired
  else .busy

/-- The statement of `acquire_group_fence_lease`. -/
def acquire (fence : Fence) (a : Acquisition) : Fence :=
  if fence.outcome a = .acquired then
    { fence with
      status := a.status
      leaseOwner := some a.leaseOwner
      leaseUntil := some a.until_
      activeOperationId := some a.operationId
      epoch := fence.epoch + if a.bumpEpoch then 1 else 0 }
  else fence

/-- A lease is given up by its owner only, and never one that is quarantined. -/
def owned (fence : Fence) (leaseOwner : String) : Bool :=
  fence.leaseOwner = some leaseOwner ∧ fence.status ≠ .quarantined

/-- The statement of `release_group_fence_lease`. -/
def release (fence : Fence) (leaseOwner : String) (bumpEpoch : Bool) : Fence :=
  if fence.owned leaseOwner then
    { fence with
      status := .idle
      leaseOwner := none
      leaseUntil := none
      activeOperationId := none
      epoch := fence.epoch + if bumpEpoch then 1 else 0 }
  else fence

/-- The statement of `quarantine_group_fence`. -/
def quarantine (fence : Fence) (operationId reason : String) : Fence :=
  { fence with
    status := .quarantined
    activeOperationId := some operationId
    quarantineReason := some reason
    epoch := fence.epoch + 1 }

end Fence

/-! ## The journal -/

inductive JournalState where
  | claimed
  | planned
  | neo4jFenced
  | episodeWritten
  | entitiesResolved
  | edgesResolved
  | completed
  | failedNeedsRecovery
  | quarantine
  | superseded
  deriving DecidableEq, Repr

/-- An entry of `step_receipts`. -/
structure Receipt where
  effectHash : String
  recordedAt : Int
  deriving DecidableEq, Repr

/-- A row of `graph_operation_journal`. -/
structure JournalRow where
  groupId : String
  sourceType : String
  fenceEpoch : Nat
  state : JournalState
  executionPlan : Doc
  stepReceipts : Dict String Receipt
  lastError : Option String
  deriving DecidableEq

inductive StepOutcome where
  | executed
  | noop
  | quarantined
  deriving DecidableEq, Repr

/-- `upsert_graph_operation_journal`: the row inserted, or the stored one updated. -/
def upsertGraphOperationJournal (stored : Option JournalRow) (excluded : JournalRow) : JournalRow :=
  match stored with
  | none => excluded
  | some row =>
      { row with
        fenceEpoch := max row.fenceEpoch excluded.fenceEpoch
        state := excluded.state
        executionPlan := if row.executionPlan = ∅ then excluded.executionPlan else row.executionPlan
        stepReceipts := row.stepReceipts.insertAll excluded.stepReceipts.entries
        lastError := excluded.lastError }

/-- The arguments of `record_graph_operation_step`. -/
structure StepRecord where
  stepId : String
  effectHash : String
  completed : Bool
  status : Option String
  error : Option String
  now : Int

/-- `error or fallback`. -/
def errorOr (error : Option String) (fallback : String) : String := (error.filter (· ≠ "")).getD fallback

/-- `record_graph_operation_step`: one transaction, the row locked. -/
def recordGraphOperationStep (stored : Option JournalRow) (r : StepRecord) : StepOutcome × JournalRow :=
  let row := stored.getD
    (upsertGraphOperationJournal none ⟨"unknown", "graph_operation", 0, .claimed, ∅, ∅, none⟩)
  if r.status = some "quarantine" ∨ r.status = some "quarantined" then
    (.quarantined,
      { row with state := .quarantine, lastError := some (errorOr r.error "step_quarantined") })
  else match row.stepReceipts.get? r.stepId with
    | some entry =>
        if entry.effectHash ≠ r.effectHash then
          (.quarantined, { row with
            state := .quarantine
            lastError := some (errorOr r.error ("step=" ++ r.stepId ++ " effect_hash mismatch: recorded=" ++
              entry.effectHash ++ " vs current=" ++ r.effectHash)) })
        else (.noop, row)
    | none =>
        (.executed, { row with
          stepReceipts := row.stepReceipts.insert r.stepId ⟨r.effectHash, r.now⟩
          state := if r.completed then .completed
            else if row.state = .claimed ∨ row.state = .planned then .entitiesResolved
            else row.state })

/-! ## Calls -/

/-- A `GraphOperationStepReceipt` node. -/
structure NeoReceipt where
  groupId : String
  effectHash : String
  deriving DecidableEq, Repr

/-- The two databases, and the actions of steps in the order they were executed. -/
structure Stores where
  fences : Table String Fence
  receipts : Table (String × String) NeoReceipt
  journal : Table String JournalRow
  performed : List (String × String)

def Stores.empty : Stores := ⟨∅, ∅, ∅, []⟩

/-- What a coordinator asks of the databases. `act` is the action of a step, with what it
    returns or raises. -/
inductive Call : Type → Type where
  | ensureNeo4jSafetySchema : Call Unit
  | acquireFence (groupId : String) (a : Acquisition) : Call (FenceOutcome × Fence)
  | releaseFence (groupId leaseOwner : String) (bumpEpoch : Bool) : Call Bool
  | quarantineFence (groupId operationId reason : String) : Call Unit
  | readReceipt (operationId stepId : String) : Call (Option String)
  | mergeReceipt (operationId stepId groupId effectHash : String) : Call Unit
  | getJournal (operationId : String) : Call (Option JournalRow)
  | upsertJournal (operationId : String) (row : JournalRow) : Call Unit
  | recordStep (operationId : String) (r : StepRecord) : Call StepOutcome
  | act (operationId stepId : String) (result : Except String Json) : Call (Except String Json)

/-- The answer of a call and the databases after it. -/
def exec : {β : Type} → Call β → Stores → β × Stores
  | _, .ensureNeo4jSafetySchema, s => ((), s)
  | _, .acquireFence groupId a, s =>
      let fence := (s.fences.get? groupId).getD .fresh
      ((fence.outcome a, fence.acquire a), { s with fences := s.fences.set groupId (fence.acquire a) })
  | _, .releaseFence groupId leaseOwner bumpEpoch, s =>
      match s.fences.get? groupId with
      | none => (false, s)
      | some fence =>
          (fence.owned leaseOwner,
            { s with fences := s.fences.set groupId (fence.release leaseOwner bumpEpoch) })
  | _, .quarantineFence groupId operationId reason, s =>
      let fence := (s.fences.get? groupId).getD .fresh
      ((), { s with fences := s.fences.set groupId (fence.quarantine operationId reason) })
  | _, .readReceipt operationId stepId, s =>
      ((s.receipts.get? (operationId, stepId)).map NeoReceipt.effectHash, s)
  | _, .mergeReceipt operationId stepId groupId effectHash, s =>
      ((), { s with receipts := s.receipts.set (operationId, stepId) ⟨groupId, effectHash⟩ })
  | _, .getJournal operationId, s => (s.journal.get? operationId, s)
  | _, .upsertJournal operationId row, s =>
      ((), { s with journal :=
        s.journal.set operationId (upsertGraphOperationJournal (s.journal.get? operationId) row) })
  | _, .recordStep operationId r, s =>
      let recorded := recordGraphOperationStep (s.journal.get? operationId) r
      (recorded.1, { s with journal := s.journal.set operationId recorded.2 })
  | _, .act operationId stepId result, s =>
      (result, { s with performed := s.performed ++ [(operationId, stepId)] })

/-! ## The coordinator -/

/-- A program of the coordinator. -/
abbrev Graph (α : Type) := Prog Call GraphError α

open Prog (request)

/-- `GraphOperationJournalCoordinator`, with the journal or without one. -/
structure Coordinator where
  pgStore : Bool

/-- The arguments of `begin_operation`, and what its clock reads. -/
structure Begin where
  operationId : String
  groupId : String
  operationType : String
  leaseOwner : String
  leaseSeconds : Int
  fenceStatus : FenceStatus
  payload : Option Doc
  now : Int

def acquireGroupFenceLease (groupId leaseOwner operationId : String) (status : FenceStatus)
    (leaseSeconds : Int) (bumpEpoch : Bool) (now : Int) : Graph GroupLease := do
  if status ∉ [.liveWriteInProgress, .backfillInProgress, .reconciling] then
    throw (.valueError ("Invalid active lease status: " ++ status.name))
  let until_ := now + max 1 leaseSeconds * 1000000
  let (outcome, fence) ← request (.acquireFence groupId ⟨leaseOwner, operationId, status, now, until_, bumpEpoch⟩)
  match outcome with
  | .quarantined =>
      throw (.groupQuarantined ("group_id=" ++ groupId ++ " is quarantined: " ++
        errorOr fence.quarantineReason "conflict"))
  | .busy =>
      throw (.groupFenceBusy ("group_id=" ++ groupId ++ " is busy (status=" ++ fence.status.name ++
        ", owner=" ++ fence.leaseOwner.getD "None" ++ ", op=" ++ fence.activeOperationId.getD "None" ++ ")"))
  | .acquired => return ⟨groupId, fence.epoch, leaseOwner, until_, operationId, status⟩

def releaseGroupFenceLease (lease : GroupLease) (bumpEpoch : Bool) : Graph Bool :=
  request (.releaseFence lease.groupId lease.leaseOwner bumpEpoch)

/-- `payload or existing.get("execution_plan") or {}`. -/
def executionPlanFor (payload : Option Doc) (existing : Option JournalRow) : Doc :=
  match payload with
  | some plan => if plan = ∅ then (existing.map JournalRow.executionPlan).getD ∅ else plan
  | none => (existing.map JournalRow.executionPlan).getD ∅

/-- The row a begun operation leaves in the journal. -/
def fencedRow (b : Begin) (existing : Option JournalRow) (lease : GroupLease) : JournalRow where
  groupId := b.groupId
  sourceType := b.operationType
  fenceEpoch := lease.epoch
  state := .neo4jFenced
  executionPlan := executionPlanFor b.payload existing
  stepReceipts := (existing.map JournalRow.stepReceipts).getD ∅
  lastError := none

def beginOperation (coordinator : Coordinator) (b : Begin) : Graph GroupLease := do
  request .ensureNeo4jSafetySchema
  let lease ← acquireGroupFenceLease b.groupId b.leaseOwner b.operationId b.fenceStatus b.leaseSeconds
    false b.now
  if coordinator.pgStore then
    let existing ← request (.getJournal b.operationId)
    match existing.filter (·.state = .quarantine) with
    | some row =>
        request (.quarantineFence b.groupId b.operationId (errorOr row.lastError "pg_journal_quarantined"))
        throw (.groupQuarantined ("Operation " ++ b.operationId ++
          " is quarantined in graph_operation_journal"))
    | none =>
        request (.upsertJournal b.operationId (fencedRow b existing lease))
        return lease
  else
    return lease

/-- The arguments of `run_step`, what its action returns or raises, and the clock of the journal. -/
structure Step where
  operationId : String
  groupId : String
  stepId : String
  effectPayload : Json
  action : Except String Json
  now : Int

/-- The hash the journal has recorded for the step; a quarantined operation raises. -/
def readJournalHash (coordinator : Coordinator) (t : Step) : Graph (Option String) := do
  if coordinator.pgStore then
    match ← request (.getJournal t.operationId) with
    | none => return none
    | some row =>
        if row.state = .quarantine then
          throw (.groupQuarantined ("Operation " ++ t.operationId ++ " is already quarantined: " ++
            row.lastError.getD "None"))
        return (row.stepReceipts.get? t.stepId).map Receipt.effectHash
  else
    return none

/-- The first recorded hash that is not the current one. -/
def conflictingHash (recorded : List (Option String)) (effectHash : String) : Option String :=
  (recorded.filterMap id).find? (fun hash => hash ≠ "" ∧ hash ≠ effectHash)

/-- A conflict quarantines the group first and the operation then. -/
def quarantineConflict (coordinator : Coordinator) (t : Step) (recordedHash effectHash : String) :
    Graph (StepOutcome × Option Json) := do
  let reason := "step=" ++ t.stepId ++ " effect_hash mismatch: recorded=" ++ recordedHash ++
    " vs current=" ++ effectHash
  request (.quarantineFence t.groupId t.operationId reason)
  if coordinator.pgStore then
    let _ ← request (.recordStep t.operationId
      ⟨t.stepId, effectHash, false, some "quarantine", some reason, t.now⟩)
    throw (.graphOperationConflictQuarantined reason)
  else
    throw (.graphOperationConflictQuarantined reason)

/-- Execute the step and leave its receipts, the one of Neo4j first. -/
def executeStep (coordinator : Coordinator) (t : Step) (effectHash : String) :
    Graph (StepOutcome × Option Json) := do
  match ← request (.act t.operationId t.stepId t.action) with
  | .error message => throw (.action message)
  | .ok result =>
      request (.mergeReceipt t.operationId t.stepId t.groupId effectHash)
      if coordinator.pgStore then
        let outcome ← request (.recordStep t.operationId
          ⟨t.stepId, effectHash, t.stepId = "embeddings_committed", none, none, t.now⟩)
        if outcome = .quarantined then
          let reason := "step=" ++ t.stepId ++ " quarantined by PG journal effect_hash conflict"
          request (.quarantineFence t.groupId t.operationId reason)
          throw (.graphOperationConflictQuarantined reason)
        return (.executed, some result)
      else
        return (.executed, some result)

def runStep (py : Platform) (coordinator : Coordinator) (t : Step) : Graph (StepOutcome × Option Json) :=
  if t.stepId ∉ graphOperationSteps then
    throw (.valueError ("Unsupported graph operation step_id: " ++ reprText t.stepId))
  else do
    let effectHash := computeStepEffectHash py t.effectPayload
    let pgExistingHash ← readJournalHash coordinator t
    let neoExistingHash ← request (.readReceipt t.operationId t.stepId)
    match conflictingHash [pgExistingHash, neoExistingHash] effectHash with
    | some recordedHash => quarantineConflict coordinator t recordedHash effectHash
    | none =>
        if pgExistingHash = some effectHash ∧ neoExistingHash = some effectHash then
          return (.noop, none)
        else if neoExistingHash = some effectHash ∧ coordinator.pgStore = false then
          return (.noop, none)
        else executeStep coordinator t effectHash

def completeOperation (lease : GroupLease) (bumpEpoch : Bool) : Graph Unit := do
  let _ ← releaseGroupFenceLease lease bumpEpoch
  return ()

end Neurons.Journal
