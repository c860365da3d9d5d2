import Neurons.Outbox.Leases

/-! # The graph projection outbox

`graph_projection_outbox` hands card episodes to the graph workers (`pgvector_store.py`). A
row is found again by its source and revision, whatever became of it; reports name the
worker but do not look at the lease; dead letters can be put back.
-/

namespace Neurons.Outbox

open Neurons.Lib
open Neurons.Source

/-- The work of a row of `graph_projection_outbox`. -/
structure GraphWork where
  sourceType : String
  sourceId : String
  sourceRevision : String
  contentHash : String
  episodePayload : Doc
  deriving DecidableEq

abbrev GraphJobs := Table ℕ (Job GraphWork)

/-- `_enqueue_graph_outbox_on`: a revision is queued once. -/
def enqueueGraphOutboxOn (work : GraphWork) (now : Int) (outbox : GraphJobs) : Except PyError GraphJobs := do
  refuseIf (work.sourceType ∉ ["memory_card", "session_chunk"])
    (.valueError "unsupported graph projection source type")
  refuseIf (work.sourceId = "" ∨ work.sourceRevision = "" ∨ work.contentHash = "")
    (.valueError "graph projection key fields are required")
  match outbox.firstWhere (fun job => decide (job.work.sourceType = work.sourceType ∧
      job.work.sourceId = work.sourceId ∧ job.work.sourceRevision = work.sourceRevision)) with
  | some _ => return outbox
  | none => return outbox.set outbox.freshKey (Job.new work now)

def claimGraphProjectionLeases (claim : Claim) (outbox : GraphJobs) :
    Except PyError (List (ℕ × Job GraphWork) × GraphJobs) :=
  claimLeases claim outbox

/-- The job of a report: still in process, by this worker. -/
def ownedJob (projectionId : ℕ) (workerId : String) (outbox : GraphJobs) : Except PyError (Job GraphWork) :=
  let refused := PyError.valueError ("graph projection job " ++ toString projectionId ++
    " not owned or not processing")
  match outbox.get? projectionId with
  | none => .error refused
  | some job => if job.workerId = some workerId ∧ job.status = .processing then .ok job else .error refused

def markGraphProjectionCompleted (projectionId : ℕ) (workerId : String) (outbox : GraphJobs) :
    Except PyError GraphJobs := do
  let job ← ownedJob projectionId workerId outbox
  return outbox.set projectionId { job with status := .completed }

def markGraphProjectionFailed (projectionId : ℕ) (errorMessage : String) (maxRetries : Int) (workerId : String)
    (now : Int) (outbox : GraphJobs) : Except PyError GraphJobs := do
  refuseIf (maxRetries < 1) (.valueError "max_retries must be positive")
  refuseIf (workerId = "") (.valueError "outbox failure requires worker_id")
  let job ← ownedJob projectionId workerId outbox
  return outbox.set projectionId (job.fail errorMessage maxRetries now)

/-- A dead letter put back for another round of attempts. -/
def Job.reset (job : Job GraphWork) : Job GraphWork :=
  { job with status := .failed, retryCount := 0, leaseUntil := none, workerId := none }

/-- The dead letters a reset puts back: all of them, or those of some sources. -/
def Job.Resettable (sourceIds : List String) (job : Job GraphWork) : Prop :=
  job.status = .deadLetter ∧ (sourceIds = [] ∨ job.work.sourceId ∈ sourceIds)

instance (sourceIds : List String) (job : Job GraphWork) : Decidable (job.Resettable sourceIds) := by
  unfold Job.Resettable
  infer_instance

/-- The number of rows that were put back, and the table after. -/
def resetGraphProjectionDeadLetters (sourceIds : List String) (outbox : GraphJobs) : ℕ × GraphJobs :=
  ((outbox.values.filter (fun job => decide (job.Resettable sourceIds))).length,
    outbox.mapValues fun job => if job.Resettable sourceIds then job.reset else job)

inductive GraphOp where
  | enqueue (work : GraphWork) (now : Int)
  | claim (claim : Claim)
  | complete (projectionId : ℕ) (workerId : String)
  | fail (projectionId : ℕ) (errorMessage : String) (maxRetries : Int) (workerId : String) (now : Int)
  | reset (sourceIds : List String)

def GraphOp.transaction (op : GraphOp) (outbox : GraphJobs) : Except PyError GraphJobs :=
  match op with
  | .enqueue work now => enqueueGraphOutboxOn work now outbox
  | .claim request => (claimGraphProjectionLeases request outbox).map Prod.snd
  | .complete projectionId workerId => markGraphProjectionCompleted projectionId workerId outbox
  | .fail projectionId errorMessage maxRetries workerId now =>
      markGraphProjectionFailed projectionId errorMessage maxRetries workerId now outbox
  | .reset sourceIds => .ok (resetGraphProjectionDeadLetters sourceIds outbox).2

/-- A transaction as a step: one that raises is rolled back. -/
def graphStep (outbox : GraphJobs) (op : GraphOp) : GraphJobs :=
  match op.transaction outbox with
  | .ok outbox' => outbox'
  | .error _ => outbox

end Neurons.Outbox
