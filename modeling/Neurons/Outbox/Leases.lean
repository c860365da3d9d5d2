import Neurons.Embedding.Leases
import Neurons.Lib.Attempts

/-! # Outboxes with leases

The columns and the statements that `embedding_outbox` and `graph_projection_outbox` have in
common (`pgvector_store.py`): a claim leases the oldest jobs that may be taken, a report
settles a job or puts it back after a pause. `W` is the work a row names.
-/

namespace Neurons.Outbox

open Neurons.Lib
open Neurons.Source
open Neurons.Embedding (microseconds backoff)

/-! ## Rows -/

inductive JobStatus where
  | queued | processing | completed | casSkipped | failed | deadLetter
  deriving DecidableEq, Repr

/-- `status IN ('queued', 'processing', 'failed')`. -/
def JobStatus.active : JobStatus → Bool
  | queued | processing | failed => true
  | completed | casSkipped | deadLetter => false

/-- A row of an outbox, without its key. -/
structure Job (W : Type) where
  work : W
  status : JobStatus
  leaseUntil : Option Int
  workerId : Option String
  retryCount : ℕ
  lastError : Option String
  createdAt : Int
  deriving DecidableEq, Repr

section Outbox

variable {W : Type}

/-- A row as it is inserted. -/
def Job.new (work : W) (now : Int) : Job W := ⟨work, .queued, none, none, 0, none, now⟩

def outboxRetryLimit : ℕ := 5

/-! ## Claims -/

/-- One claim at the transaction time `now`; `SKIP LOCKED` passes over the rows that other
    transactions hold. -/
structure Claim where
  workerId : String
  batchSize : Int
  leaseSeconds : Int
  now : Int
  unlocked : ℕ → Bool

/-- A job a worker may take: a new one, a failed one, or one whose worker let its lease run out. -/
def Job.Claimable (job : Job W) (now : Int) : Prop :=
  (job.status = .queued ∨ (job.status = .failed ∧ job.retryCount < outboxRetryLimit) ∨
    (job.status = .processing ∧ job.retryCount < outboxRetryLimit)) ∧
  ∀ lease ∈ job.leaseUntil, lease < now

instance (job : Job W) (now : Int) : Decidable (job.Claimable now) := by
  unfold Job.Claimable
  infer_instance

/-- The rows a claim selects, oldest first. -/
def candidates (claim : Claim) (outbox : Table ℕ (Job W)) : List ℕ :=
  let free := outbox.entries.filter
    (fun entry => claim.unlocked entry.1 && decide (entry.2.Claimable claim.now))
  ((sortOn (fun entry : ℕ × Job W => toLex (entry.2.createdAt, entry.1)) free).take
    claim.batchSize.toNat).map Prod.fst

def Job.lease (claim : Claim) (job : Job W) : Job W :=
  { job with
    status := .processing
    workerId := some claim.workerId
    leaseUntil := some (claim.now + microseconds claim.leaseSeconds.toNat) }

/-- The claim of either outbox: the leased rows, and the table with their leases. -/
def claimLeases (claim : Claim) (outbox : Table ℕ (Job W)) :
    Except PyError (List (ℕ × Job W) × Table ℕ (Job W)) := do
  refuseIf (claim.workerId = "" ∨ claim.batchSize < 1 ∨ claim.leaseSeconds < 1)
    (.valueError "invalid outbox lease arguments")
  let leased := outbox.rewrite (candidates claim outbox) (Job.lease claim)
  return (leased.entries.filter (fun entry => decide (entry.1 ∈ candidates claim outbox)), leased)

theorem mem_candidates {claim : Claim} {outbox : Table ℕ (Job W)} {id : ℕ}
    (mem : id ∈ candidates claim outbox) : ∃ job, outbox.get? id = some job ∧ job.Claimable claim.now := by
  obtain ⟨⟨key, job⟩, chosen, rfl⟩ := List.mem_map.mp mem
  have listed := (mem_sortOn _).mp (List.mem_of_mem_take chosen)
  simp only [List.mem_filter, Bool.and_eq_true, decide_eq_true_eq] at listed
  exact ⟨job, Table.mem_entries_iff.mp listed.1, listed.2.2⟩

/-! ## Reports -/

/-- The worker's lease of the job still runs at `clock`. -/
def Job.LeasedTo (job : Job W) (workerId : String) (clock : Int) : Prop :=
  job.status = .processing ∧ job.workerId = some workerId ∧ ∃ lease ∈ job.leaseUntil, clock < lease

instance (job : Job W) (workerId : String) (clock : Int) : Decidable (job.LeasedTo workerId clock) := by
  unfold Job.LeasedTo
  infer_instance

/-- A failed attempt: a pause before the next one, or a dead letter. -/
def Job.fail (errorMessage : String) (maxRetries now : Int) (job : Job W) : Job W :=
  let concluded := maxRetries ≤ (job.retryCount : Int) + 1
  { job with
    retryCount := job.retryCount + 1
    lastError := some errorMessage
    status := if concluded then .deadLetter else .failed
    leaseUntil := if concluded then none else some (now + backoff (job.retryCount + 1)) }

/-! ## What happens to one job -/

open Lib.Attempts (Event)

/-- How a transaction may change a job, and what it means for its attempts. -/
inductive Move (job : Job W) : List (Event String) → Job W → Prop
  | stays : Move job [] job
  | renewed (lease : Option Int) : Move job [] { job with leaseUntil := lease }
  | claimed {claim : Claim} (claimable : job.Claimable claim.now) :
      Move job [.claimed claim.workerId] (job.lease claim)
  | failed {workerId : String} (held : job.status = .processing) (owner : job.workerId = some workerId)
      (errorMessage : String) (maxRetries now : Int) :
      Move job [.reported workerId (decide (maxRetries ≤ (job.retryCount : Int) + 1))]
        (job.fail errorMessage maxRetries now)
  | settled {workerId : String} {job' : Job W} (held : job.status = .processing)
      (owner : job.workerId = some workerId) (sameWork : job'.work = job.work)
      (sameRetries : job'.retryCount = job.retryCount) (final : job'.status.active = false) :
      Move job [.reported workerId true] job'
  | reset {job' : Job W} (dead : job.status = .deadLetter) (sameWork : job'.work = job.work)
      (status : job'.status = .failed) (retries : job'.retryCount = 0) : Move job [.reset] job'

/-- A transaction moves each job of the outbox and may insert new ones. -/
structure Moves (events : ℕ → List (Event String)) (outbox outbox' : Table ℕ (Job W)) : Prop where
  moved : ∀ id job, outbox.get? id = some job → ∃ job', outbox'.get? id = some job' ∧ Move job (events id) job'
  inserted : ∀ id, outbox.get? id = none → events id = [] ∧
    ∀ job', outbox'.get? id = some job' → job'.status = .queued ∧ job'.retryCount = 0

theorem Moves.refl (outbox : Table ℕ (Job W)) : Moves (fun _ => []) outbox outbox where
  moved _ job found := ⟨job, found, .stays⟩
  inserted id missing := ⟨rfl, by simp [missing]⟩

/-- One row is rewritten. -/
theorem Moves.set {outbox : Table ℕ (Job W)} {id : ℕ} {job job' : Job W} {events : List (Event String)}
    (found : outbox.get? id = some job) (move : Move job events job') :
    Moves (fun other => if other = id then events else []) outbox (outbox.set id job') where
  moved other stored here := by
    by_cases same : other = id
    · subst same
      rw [found] at here
      cases here
      exact ⟨job', by simp, by simpa using move⟩
    · exact ⟨stored, by rw [Table.get?_set, if_neg same, here], by simpa [same] using Move.stays⟩
  inserted other missing := by
    have differ : other ≠ id := by
      rintro rfl
      simp [found] at missing
    refine ⟨by simp [differ], fun stored here => ?_⟩
    rw [Table.get?_set, if_neg differ, missing] at here
    cases here

/-- A new row takes a key of its own. -/
theorem Moves.insert (outbox : Table ℕ (Job W)) (work : W) (now : Int) :
    Moves (fun _ => []) outbox (outbox.set outbox.freshKey (Job.new work now)) where
  moved id job found := by
    have differ : id ≠ outbox.freshKey := by
      rintro rfl
      rw [Table.get?_freshKey] at found
      cases found
    exact ⟨job, by rw [Table.get?_set, if_neg differ, found], .stays⟩
  inserted id missing := by
    refine ⟨rfl, fun job' here => ?_⟩
    rw [Table.get?_set] at here
    split at here
    · cases here
      exact ⟨rfl, rfl⟩
    · rw [missing] at here
      cases here

/-- What a claim means for a job. -/
def claimEvents (claim : Claim) (outbox : Table ℕ (Job W)) (id : ℕ) : List (Event String) :=
  if id ∈ candidates claim outbox then [.claimed claim.workerId] else []

theorem claimLeases_moves {claim : Claim} {outbox outbox' : Table ℕ (Job W)} {leased : List (ℕ × Job W)}
    (done : claimLeases claim outbox = .ok (leased, outbox')) :
    Moves (claimEvents claim outbox) outbox outbox' := by
  simp only [claimLeases, bind_eq_ok, pure_eq_ok, Except.ok.injEq, Prod.mk.injEq] at done
  obtain ⟨_, _, _, rfl⟩ := done
  constructor
  · intro id job found
    refine ⟨_, by rw [Table.get?_rewrite, found]; rfl, ?_⟩
    unfold claimEvents
    split
    · rename_i chosen
      obtain ⟨stored, here, claimable⟩ := mem_candidates chosen
      rw [found] at here
      cases here
      exact .claimed claimable
    · exact .stays
  · intro id missing
    have unchosen : id ∉ candidates claim outbox := by
      intro chosen
      obtain ⟨stored, here, _⟩ := mem_candidates chosen
      simp [missing] at here
    refine ⟨if_neg unchosen, fun job' here => ?_⟩
    simp [Table.get?_rewrite, missing] at here

end Outbox

end Neurons.Outbox
