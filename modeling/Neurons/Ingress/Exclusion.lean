import Neurons.Ingress.Moves
import Neurons.Lib.Run
import Neurons.Source.ReferencePlatform

/-! # Leases exclude other owners

Whoever reports on a job under a lease has taken that lease last: since then nobody has
taken it, completed the job or recorded an outcome. The lease columns carry this: a
job that names an owner is claimed or executing, and its two lease columns are those of
the latest taking.
-/

namespace Neurons.Ingress

open Neurons.Lib
open Neurons.Source

variable {py : Platform}

/-- The operation takes the lease of the job for this owner. -/
def Op.Takes (op : Op) (jobId leaseOwner : String) (leaseUntil : Int) : Prop :=
  match op with
  | .claim job owner seconds _ now =>
      job = jobId ∧ owner = leaseOwner ∧ now + microseconds seconds = leaseUntil
  | .correct job _ _ owner now => job = jobId ∧ owner = leaseOwner ∧ now + microseconds 600 = leaseUntil
  | _ => False

/-- The owner reports on the job, by its lease, at this time. -/
def Op.Reports (op : Op) (jobId leaseOwner : String) (now : Int) : Prop :=
  match op with
  | .markExecuting job owner time => job = jobId ∧ owner = leaseOwner ∧ time = now
  | .complete job owner _ _ _ _ time => job = jobId ∧ owner = leaseOwner ∧ time = now
  | .recordReplayable job owner _ _ time => job = jobId ∧ owner = leaseOwner ∧ time = now
  | .recordFailed job owner _ _ _ _ _ time => job = jobId ∧ owner = leaseOwner ∧ time = now
  | _ => False

/-- The operation claims the job, completes it or records an outcome, with or without a
    lease. -/
def Op.Decides (op : Op) (jobId : String) : Prop :=
  match op with
  | .claim job .. | .correct job .. | .complete job .. | .recordReplayable job .. | .recordFailed job ..
  | .recordEvidence job .. | .quarantineTransport job .. => job = jobId
  | _ => False

/-- The operation did what it was called for. -/
def Succeeds : Except StateError Answer → Bool
  | .ok (.flag done) => done
  | .ok (.status status) => status.isSome
  | .ok _ => true
  | .error _ => false

/-- A leased job is being worked on. -/
def Db.LeasesRun (db : Db) : Prop :=
  ∀ jobId job, db.deliveryJobs.get? jobId = some job → job.leaseOwner ≠ "" →
    job.status = .claimed ∨ job.status = .executing

/-! ## One transaction -/

section Step

variable {db db' : Db} {op : Op} {answer : Answer} {jobId : String} {job job' : DeliveryJob}

/-- A change leaves a leased job only where it leases it, or marks it executing. -/
theorem Change.leased (change : Change op answer jobId job job') (owned : job'.leaseOwner ≠ "") :
    (∃ leaseUntil, op.Takes jobId job'.leaseOwner leaseUntil ∧ job'.leaseUntil = some leaseUntil ∧
      job'.status = .claimed ∧ Succeeds (.ok answer)) ∨
    (¬ op.Decides jobId ∧ job'.leaseOwner = job.leaseOwner ∧ job'.leaseUntil = job.leaseUntil ∧
      job'.status = .executing) := by
  cases change with
  | claimed => exact .inl ⟨_, ⟨rfl, rfl, rfl⟩, rfl, rfl, rfl⟩
  | corrected => exact .inl ⟨_, ⟨rfl, rfl, rfl⟩, rfl, rfl, rfl⟩
  | executing => exact .inr ⟨id, rfl, rfl, rfl⟩
  | exhausted | transported | replayed | retried | evidenced => exact absurd rfl owned
  | completed held shape => rcases shape with rfl | rfl <;> exact absurd rfl owned

theorem Db.LeasesRun.transaction (runs : db.LeasesRun) (done : transaction py op db = .ok (answer, db')) :
    db'.LeasesRun := by
  intro jobId job' stored owned
  cases transaction_job done jobId with
  | same kept => exact runs jobId job' (kept ▸ stored) owned
  | added absent new =>
      obtain rfl := Option.some.inj (stored.symm.trans new)
      exact absurd rfl owned
  | changed before after change =>
      obtain rfl := Option.some.inj (stored.symm.trans after)
      rcases change.leased owned with ⟨-, -, -, status, -⟩ | ⟨-, -, -, status⟩
      · exact .inl status
      · exact .inr status

theorem Db.LeasesRun.step (runs : db.LeasesRun) (op : Op) : (step py db op).LeasesRun := by
  unfold Ingress.step perform
  split
  · rename_i done
    exact runs.transaction done
  · exact runs

/-- A decision that succeeds on a job that is being worked on changes the job. -/
theorem Op.Decides.changes (decides : op.Decides jobId) (done : transaction py op db = .ok (answer, db'))
    (success : Succeeds (.ok answer)) (found : db.deliveryJobs.get? jobId = some job)
    (working : job.status = .claimed ∨ job.status = .executing) :
    ∃ job', db'.deliveryJobs.get? jobId = some job' ∧ Change op answer jobId job job' := by
  cases op with
  | claim =>
      cases decides
      simp only [transaction, bind_eq_ok] at done
      obtain ⟨⟨_, _⟩, wrote, done⟩ := done
      cases done
      obtain ⟨held, stored, ⟨refused, -⟩ | ⟨-, refused, -⟩ | ⟨claimable, rfl, rfl⟩⟩ :=
        claimDeliveryJob_eq_ok wrote
      · simp [refused, Succeeds] at success
      · simp [refused, Succeeds] at success
      · obtain rfl := Option.some.inj (found.symm.trans stored)
        exact ⟨_, Db.get?_setJob_self found, .claimed claimable⟩
  | correct =>
      cases decides
      simp only [transaction, bind_eq_ok] at done
      obtain ⟨⟨_, _⟩, wrote, done⟩ := done
      cases done
      obtain ⟨held, stored, -, correctable, after⟩ := correctProceduralSourceHash_eq_ok wrote
      obtain rfl := Option.some.inj (found.symm.trans stored)
      exact ⟨_, (after _).trans (if_pos rfl), .corrected correctable⟩
  | complete =>
      cases decides
      simp only [transaction, bind_eq_ok] at done
      obtain ⟨⟨_, _⟩, wrote, done⟩ := done
      cases done
      obtain ⟨held, stored, ⟨refused, -⟩ | ⟨holds, rfl, _, _, shape, after⟩⟩ :=
        completeDeliveryWithEvidence_eq_ok wrote
      · simp [refused, Succeeds] at success
      · obtain rfl := Option.some.inj (found.symm.trans stored)
        exact ⟨_, (after _).trans (if_pos rfl), .completed holds shape⟩
  | recordReplayable =>
      cases decides
      simp only [transaction, recordReplayableAttempt, bind_eq_ok] at done
      obtain ⟨⟨_, _⟩, wrote, done⟩ := done
      cases done
      obtain ⟨held, stored, ⟨refused, -⟩ | ⟨fresh, rfl, rfl⟩⟩ := recordAttempt_eq_ok wrote
      · simp [refused, Succeeds] at success
      · obtain rfl := Option.some.inj (found.symm.trans stored)
        exact ⟨_, Db.get?_setJob_self found, .replayed fresh⟩
  | recordFailed =>
      cases decides
      simp only [transaction, recordFailedRetryableAttempt, bind_eq_ok] at done
      obtain ⟨⟨_, _⟩, wrote, done⟩ := done
      cases done
      obtain ⟨held, stored, ⟨refused, -⟩ | ⟨fresh, rfl, rfl⟩⟩ := recordAttempt_eq_ok wrote
      · simp [refused, Succeeds] at success
      · obtain rfl := Option.some.inj (found.symm.trans stored)
        exact ⟨_, Db.get?_setJob_self found, .retried fresh⟩
  | recordEvidence =>
      cases decides
      simp only [transaction, bind_eq_ok] at done
      obtain ⟨_, wrote, done⟩ := done
      cases done
      cases recordDeliveryEvidence_eq_ok wrote
      exact ⟨_, Db.get?_setJob_self found, .evidenced⟩
  | quarantineTransport =>
      cases decides
      simp only [transaction, bind_eq_ok] at done
      obtain ⟨_, wrote, done⟩ := done
      cases done
      obtain ⟨held, stored, ⟨-, concluded⟩ | ⟨notSucceeded, notQuarantined, -, rfl⟩⟩ :=
        quarantineTransportDelivery_eq_ok wrote
      · obtain rfl := Option.some.inj (found.symm.trans stored)
        rcases working with status | status <;> simp [status] at concluded
      · obtain rfl := Option.some.inj (found.symm.trans stored)
        exact ⟨_, Db.get?_setJob_self found, .transported ⟨notSucceeded, notQuarantined⟩⟩
  | recordInboxShadow | createCommand | consumeInboxWithCommand | createDeliveryJob | recordDeliveryPayload
  | markExecuting => exact absurd decides id

/-- A report that succeeds is made under a lease of its owner that still runs. -/
theorem Op.Reports.held {leaseOwner : String} {now : Int} (reports : op.Reports jobId leaseOwner now)
    (named : leaseOwner ≠ "") (done : transaction py op db = .ok (answer, db'))
    (success : Succeeds (.ok answer)) :
    ∃ job, db.deliveryJobs.get? jobId = some job ∧ job.HeldBy leaseOwner now := by
  have held_of_fresh {job : DeliveryJob} (fresh : ¬ job.Stale leaseOwner now) : job.HeldBy leaseOwner now := by
    simpa [DeliveryJob.Stale, named] using fresh
  cases op with
  | markExecuting =>
      obtain ⟨rfl, rfl, rfl⟩ := reports
      simp only [transaction, bind_eq_ok] at done
      obtain ⟨⟨_, _⟩, wrote, done⟩ := done
      cases done
      obtain ⟨job, stored, ⟨refused, -⟩ | ⟨held, -, -⟩⟩ := markDeliveryExecuting_eq_ok wrote
      · simp [refused, Succeeds] at success
      · exact ⟨job, stored, held⟩
  | complete =>
      obtain ⟨rfl, rfl, rfl⟩ := reports
      simp only [transaction, bind_eq_ok] at done
      obtain ⟨⟨_, _⟩, wrote, done⟩ := done
      cases done
      obtain ⟨job, stored, ⟨refused, -⟩ | ⟨held, -, -⟩⟩ := completeDeliveryWithEvidence_eq_ok wrote
      · simp [refused, Succeeds] at success
      · exact ⟨job, stored, held⟩
  | recordReplayable =>
      obtain ⟨rfl, rfl, rfl⟩ := reports
      simp only [transaction, recordReplayableAttempt, bind_eq_ok] at done
      obtain ⟨⟨_, _⟩, wrote, done⟩ := done
      cases done
      obtain ⟨job, stored, ⟨refused, -⟩ | ⟨fresh, -, -⟩⟩ := recordAttempt_eq_ok wrote
      · simp [refused, Succeeds] at success
      · exact ⟨job, stored, held_of_fresh fresh⟩
  | recordFailed =>
      obtain ⟨rfl, rfl, rfl⟩ := reports
      simp only [transaction, recordFailedRetryableAttempt, bind_eq_ok] at done
      obtain ⟨⟨_, _⟩, wrote, done⟩ := done
      cases done
      obtain ⟨job, stored, ⟨refused, -⟩ | ⟨fresh, -, -⟩⟩ := recordAttempt_eq_ok wrote
      · simp [refused, Succeeds] at success
      · exact ⟨job, stored, held_of_fresh fresh⟩
  | recordInboxShadow | createCommand | consumeInboxWithCommand | createDeliveryJob | recordDeliveryPayload
  | claim | correct | recordEvidence | quarantineTransport => exact absurd reports id

end Step

/-! ## Runs -/

/-- The latest decision on the job is that its owner took the lease it shows. -/
structure TakenLast (py : Platform) (ops : List Op) (jobId leaseOwner : String) (leaseUntil : Int)
    (before : List Op) (take : Op) (since : List Op) : Prop where
  split : ops = before ++ take :: since
  takes : take.Takes jobId leaseOwner leaseUntil
  taken : Succeeds (perform py take (run (step py) .empty before)).1
  quiet : ∀ first other rest, since = first ++ other :: rest → other.Decides jobId →
    ¬ Succeeds (perform py other (run (step py) .empty (before ++ take :: first))).1

theorem TakenLast.snoc {ops before since : List Op} {take op : Op} {jobId leaseOwner : String}
    {leaseUntil : Int} (last : TakenLast py ops jobId leaseOwner leaseUntil before take since)
    (undecided : op.Decides jobId → ¬ Succeeds (perform py op (run (step py) .empty ops)).1) :
    TakenLast py (ops ++ [op]) jobId leaseOwner leaseUntil before take (since ++ [op]) where
  split := by simp [last.split]
  takes := last.takes
  taken := last.taken
  quiet first other rest split decides := by
    cases rest using List.reverseRecOn with
    | nil =>
        obtain ⟨rfl, same⟩ := List.append_inj' split rfl
        cases same
        rw [← last.split]
        exact undecided decides
    | append_singleton rest final =>
        have shorter : since ++ [op] = (first ++ other :: rest) ++ [final] := by simpa using split
        exact last.quiet first other rest (List.append_inj' shorter rfl).1 decides

theorem leased_takenLast (ops : List Op) {jobId : String} {job : DeliveryJob}
    (stored : (run (step py) .empty ops).deliveryJobs.get? jobId = some job) (owned : job.leaseOwner ≠ "") :
    ∃ before take since leaseUntil, job.leaseUntil = some leaseUntil ∧
      TakenLast py ops jobId job.leaseOwner leaseUntil before take since := by
  induction ops using List.reverseRecOn generalizing job with
  | nil => simp [Db.empty] at stored
  | append_singleton ops op ih =>
      rw [run_append, run_cons, run_nil] at stored
      have runs : (run (step py) .empty ops).LeasesRun :=
        run_invariant Db.LeasesRun (fun _ op runs => runs.step op) (by simp [Db.LeasesRun, Db.empty]) ops
      generalize earlier : run (step py) .empty ops = db at *
      cases outcome : transaction py op db with
      | error e =>
          simp only [step, perform, outcome] at stored
          obtain ⟨before, take, since, leaseUntil, column, last⟩ := ih stored owned
          refine ⟨before, take, since ++ [op], leaseUntil, column, last.snoc fun _ => ?_⟩
          simp [earlier, perform, outcome, Succeeds]
      | ok result =>
          obtain ⟨answer, db'⟩ := result
          simp only [step, perform, outcome] at stored
          have answered : (perform py op db).1 = .ok answer := by simp [perform, outcome]
          -- a decision that succeeds ends the lease there was, or is the taking of this one
          cases transaction_job outcome jobId with
          | same kept =>
              rw [kept] at stored
              obtain ⟨before, take, since, leaseUntil, column, last⟩ := ih stored owned
              by_cases decided : op.Decides jobId ∧ Succeeds (.ok answer)
              · obtain ⟨job', after, change⟩ :=
                  decided.1.changes outcome decided.2 stored (runs jobId job stored owned)
                obtain rfl := Option.some.inj (stored.symm.trans (kept.symm.trans after))
                rcases change.leased owned with ⟨leaseUntil, takes, column, -, success⟩ | ⟨other, -⟩
                · refine ⟨ops, op, [], leaseUntil, column, ⟨rfl, takes, ?_, by simp⟩⟩
                  rw [earlier, answered]
                  exact success
                · exact absurd decided.1 other
              · refine ⟨before, take, since ++ [op], leaseUntil, column, last.snoc fun decides => ?_⟩
                rw [earlier, answered]
                exact fun success => decided ⟨decides, success⟩
          | added absent new =>
              obtain rfl := Option.some.inj (stored.symm.trans new)
              exact absurd rfl owned
          | changed held after change =>
              obtain rfl := Option.some.inj (stored.symm.trans after)
              rcases change.leased owned with
                ⟨leaseUntil, takes, column, -, success⟩ | ⟨undecided, sameOwner, sameUntil, -⟩
              · refine ⟨ops, op, [], leaseUntil, column, ⟨rfl, takes, ?_, by simp⟩⟩
                rw [earlier, answered]
                exact success
              · obtain ⟨before, take, since, leaseUntil, column, last⟩ := ih held (sameOwner ▸ owned)
                rw [sameOwner]
                exact ⟨before, take, since ++ [op], leaseUntil, sameUntil.trans column,
                  last.snoc fun decides => absurd decides undecided⟩

/-- In every run of the state database, a report that succeeds for an owner is made under
    the lease the owner took last, while it runs, and no one has claimed the job, completed
    it or recorded an outcome since; and a leased job is claimed or executing. -/
theorem lease_exclusion (py : Platform) (ops : List Op) :
    (∀ op jobId leaseOwner now, leaseOwner ≠ "" → op.Reports jobId leaseOwner now →
      Succeeds (perform py op (run (step py) .empty ops)).1 →
      ∃ before take since leaseUntil,
        TakenLast py ops jobId leaseOwner leaseUntil before take since ∧ now < leaseUntil) ∧
    (run (step py) .empty ops).LeasesRun := by
  refine ⟨fun op jobId leaseOwner now named reports success => ?_, ?_⟩
  · cases outcome : transaction py op (run (step py) .empty ops) with
    | error e => simp [perform, outcome, Succeeds] at success
    | ok result =>
        obtain ⟨answer, db'⟩ := result
        simp only [perform, outcome] at success
        obtain ⟨job, stored, rfl, lease, column, live⟩ := reports.held named outcome success
        obtain ⟨before, take, since, leaseUntil, column', last⟩ := leased_takenLast ops stored named
        obtain rfl : lease = leaseUntil := by
          rw [column'] at column
          simpa using column.symm
        exact ⟨before, take, since, lease, last, live⟩
  · exact run_invariant Db.LeasesRun (fun _ op runs => runs.step op) (by simp [Db.LeasesRun, Db.empty]) ops

/-- A command with its one delivery job. -/
def jobOps : List Op :=
  [.createCommand "command" "transcript_ingest" "key" "sha256:1" .completed 0,
    .createDeliveryJob ⟨"job", "transcript-memory", "conversation_chunk", "key", "sha256:1", .pending, none⟩
      "command" 0]

/-- A worker that claimed the job an instant ago may mark it executing. -/
theorem lease_exclusion_claimed :
    Succeeds (perform referencePlatform (.markExecuting "job" "worker" 2)
      (run (step referencePlatform) .empty (jobOps ++ [.claim "job" "worker" 60 3 1]))).1 ∧
    ∃ before take since leaseUntil,
      TakenLast referencePlatform (jobOps ++ [.claim "job" "worker" 60 3 1]) "job" "worker" leaseUntil
        before take since ∧ 2 < leaseUntil := by
  have success : Succeeds (perform referencePlatform (.markExecuting "job" "worker" 2)
      (run (step referencePlatform) .empty (jobOps ++ [.claim "job" "worker" 60 3 1]))).1 := by
    decide +kernel
  have reports : (Op.markExecuting "job" "worker" 2).Reports "job" "worker" 2 := ⟨rfl, rfl, rfl⟩
  exact ⟨success, (lease_exclusion referencePlatform _).1 _ _ _ _ (by decide) reports success⟩

end Neurons.Ingress
