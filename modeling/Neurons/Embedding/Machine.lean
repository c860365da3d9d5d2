import Neurons.Embedding.ReferenceHost
import Neurons.Embedding.Transactions
import Neurons.Lib.Lease

/-! # The outbox as a machine of leased jobs

A job is claimed under a token that grows, reported under the token of its claim at
most once, and claimed a bounded number of times before it is put back. Every
transaction moves every job by the same few moves, so the histories of all jobs keep
one ledger.
-/

namespace Neurons.Embedding

open Neurons.Lib
open Neurons.Lib.Lease
open Neurons.Source

variable {V C : Type}

/-! ## Moves of a job -/

/-- The columns of a job that are never rewritten. -/
structure SameWork (job job' : Job) : Prop where
  target : job'.target = job.target
  source : job'.sourceContentHash = job.sourceContentHash
  input : job'.inputHash = job.inputHash
  payload : job'.payloadText = job.payloadText
  incarnation : job'.incarnation = job.incarnation

theorem SameWork.isFor {job job' : Job} (work : SameWork job job') {target : Target}
    {sourceHash inputHash : String} {incarnation : ℕ} :
    job'.IsFor target sourceHash inputHash incarnation ↔
      job.IsFor target sourceHash inputHash incarnation := by
  simp [Job.IsFor, work.target, work.source, work.input, work.incarnation]

/-- `status IN ('completed', 'cas_skipped', 'cancelled')`. -/
def JobStatus.final : JobStatus → Bool
  | completed | casSkipped | cancelled => true
  | queued | processing | failed | deadLetter => false

/-- A job that is not over: it may still be claimed, or be put back. -/
def Job.Open (job : Job) : Prop := job.status.final = false

/-- One move of a job, and its event. -/
inductive Move (maxRetries : Int) (job : Job) : List Event → Job → Prop
  | idle : Move maxRetries job [] job
  | closed {job' : Job} (work : SameWork job job') (active : job.status.active)
      (concluded : job'.status.final) (token : job'.fencingToken = job.fencingToken) :
      Move maxRetries job [] job'
  | exhausted (spent : job.Exhausted maxRetries) : Move maxRetries job [] job.exhaust
  | leased {workerId : String} {seconds : ℕ} {due now : Int} (claimable : job.Claimable maxRetries due)
      (unspent : ¬ job.Exhausted maxRetries) :
      Move maxRetries job [.claimed (job.fencingToken + 1)] (job.lease workerId seconds now)
  | renewed {lease : Option Int} (running : job.status = .processing) :
      Move maxRetries job [] { job with leaseUntil := lease }
  | settled {job' : Job} (work : SameWork job job') (running : job.status = .processing)
      (concluded : job'.status.final) (token : job'.fencingToken = job.fencingToken) :
      Move maxRetries job [.settled job.fencingToken] job'
  | failed {error : String} {retryable : Bool} {now : Int} (running : job.status = .processing) :
      Move maxRetries job [.settled job.fencingToken] (job.fail error retryable maxRetries now)
  | requeued (dead : job.status = .deadLetter) : Move maxRetries job [.requeued] job.requeue

namespace Move

variable {maxRetries : Int} {job job' : Job} {events : List Event}

theorem sameWork (move : Move maxRetries job events job') : SameWork job job' := by
  cases move with
  | closed work => exact work
  | settled work => exact work
  | idle | exhausted | leased | renewed | failed | requeued => exact ⟨rfl, rfl, rfl, rfl, rfl⟩

/-- A job that is over stays as it is. -/
theorem final (move : Move maxRetries job events job') (concluded : job.status.final) :
    job' = job := by
  cases move with
  | idle => rfl
  | closed _ active =>
      cases status : job.status <;> simp [status, JobStatus.final, JobStatus.active] at concluded active
  | exhausted spent => simp [spent.1, JobStatus.final] at concluded
  | leased claimable =>
      rcases claimable with queued | ⟨failed, -⟩ | ⟨running, -⟩
      · simp [queued, JobStatus.final] at concluded
      · simp [failed, JobStatus.final] at concluded
      · simp [running, JobStatus.final] at concluded
  | renewed running => simp [running, JobStatus.final] at concluded
  | settled _ running => simp [running, JobStatus.final] at concluded
  | failed running => simp [running, JobStatus.final] at concluded
  | requeued dead => simp [dead, JobStatus.final] at concluded

theorem open_of_open (move : Move maxRetries job events job') (still : job'.Open) : job.Open := by
  cases concluded : job.status.final with
  | false => exact concluded
  | true => exact (move.final concluded) ▸ still

end Move

/-! ## Ledgers -/

/-- The retry column counts the attempts since the job was last put back. -/
def Job.Counts (job : Job) (attempts : ℕ) : Prop :=
  match job.status with
  | .queued => attempts = 0 ∧ job.retryCount = 0
  | .processing => attempts = job.retryCount + 1
  | .failed => attempts = job.retryCount
  | _ => True

/-- What the history of a job and its row say of each other. -/
structure Ledger (maxRetries : Int) (history : List Event) (job : Job) : Prop where
  fenced : Fenced history job.fencingToken (job.status = .processing)
  within : Within (max 1 maxRetries).toNat history
  counts : job.Counts (attempts history)

theorem Job.Counts.of_final {job : Job} {attempts : ℕ} (concluded : job.status.final) :
    job.Counts attempts := by
  unfold Job.Counts
  cases status : job.status <;> simp [status, JobStatus.final] at concluded ⊢

namespace Ledger

variable {maxRetries : Int} {job job' : Job} {history events : List Event}

theorem fresh (target : Target) (sourceHash inputHash payloadText : String) (incarnation : ℕ) (now : Int) :
    Ledger maxRetries [] (newJob target sourceHash inputHash payloadText incarnation now) :=
  ⟨Fenced.nil.mono (by simp [newJob]), .nil, ⟨rfl, rfl⟩⟩

/-- The attempts a claimable job has behind it leave room for one more. -/
theorem room (ledger : Ledger maxRetries history job) {now : Int}
    (claimable : job.Claimable maxRetries now) (unspent : ¬ job.Exhausted maxRetries) :
    attempts history + 1 ≤ (max 1 maxRetries).toNat ∧
      attempts history = if job.status = .processing then job.retryCount + 1 else job.retryCount := by
  have counts := ledger.counts
  rcases claimable with queued | ⟨failed, below, -⟩ | ⟨running, below, -⟩
  · simp only [Job.Counts, queued] at counts
    simp only [queued, reduceCtorEq, if_false]
    omega
  · simp only [Job.Counts, failed] at counts
    simp only [failed, reduceCtorEq, if_false]
    omega
  · simp only [Job.Counts, running] at counts
    simp only [Job.Exhausted, running, true_and, not_le] at unspent
    simp only [running, if_true]
    omega

theorem lease (ledger : Ledger maxRetries history job) {workerId : String} {seconds : ℕ} {due now : Int}
    (claimable : job.Claimable maxRetries due) (unspent : ¬ job.Exhausted maxRetries) :
    Ledger maxRetries (history ++ [.claimed (job.fencingToken + 1)])
      (job.lease workerId seconds now) := by
  obtain ⟨below, counted⟩ := ledger.room claimable unspent
  refine ⟨ledger.fenced.claim.mono fun _ => trivial, ledger.within.snoc below, ?_⟩
  simp only [Job.Counts, Job.lease, attempts_snoc, tally, counted]

theorem fail (ledger : Ledger maxRetries history job) (running : job.status = .processing)
    (error : String) (retryable : Bool) (now : Int) :
    Ledger maxRetries (history ++ [.settled job.fencingToken])
      (job.fail error retryable maxRetries now) := by
  have counts := ledger.counts
  simp only [Job.Counts, running] at counts
  have kept : tally (attempts history) (.settled job.fencingToken) ≤ (max 1 maxRetries).toNat :=
    ledger.within history List.prefix_rfl
  refine ⟨(ledger.fenced.settle running).mono fun still => ?_, ledger.within.snoc kept, ?_⟩
  · simp only [Job.fail] at still
    split at still <;> cases still
  · simp only [Job.Counts, Job.fail, attempts_snoc, tally, counts]
    cases concluded : (!retryable || decide (maxRetries ≤ (job.retryCount : Int) + 1)) <;> simp

theorem move (ledger : Ledger maxRetries history job) (move : Move maxRetries job events job') :
    Ledger maxRetries (history ++ events) job' := by
  have kept : attempts history ≤ (max 1 maxRetries).toNat := ledger.within history List.prefix_rfl
  cases move with
  | idle => simpa using ledger
  | closed work active concluded token =>
      rw [List.append_nil]
      refine ⟨?_, ledger.within, .of_final concluded⟩
      rw [token]
      refine ledger.fenced.mono fun running => ?_
      simp [running, JobStatus.final] at concluded
  | exhausted spent =>
      rw [List.append_nil]
      refine ⟨ledger.fenced.mono fun running => ?_, ledger.within, trivial⟩
      cases running
  | leased claimable unspent => exact ledger.lease claimable unspent
  | renewed running =>
      rw [List.append_nil]
      exact ⟨ledger.fenced, ledger.within, ledger.counts⟩
  | settled work running concluded token =>
      refine ⟨?_, ledger.within.snoc kept, .of_final concluded⟩
      rw [token]
      exact (ledger.fenced.settle running).mono fun still => by
        simp [still, JobStatus.final] at concluded
  | failed running => exact ledger.fail running _ _ _
  | requeued dead =>
      refine ⟨ledger.fenced.requeue.mono fun running => ?_, ledger.within.snoc (Nat.zero_le _), ?_⟩
      · cases running
      · simp [Job.Counts, Job.requeue, tally]

end Ledger

/-! ## Moves of the outbox -/

/-- Every job moves; a job that comes new is the only open one of its work. -/
structure Moves (maxRetries : Int) (events : ℕ → List Event) (db db' : Db C) : Prop where
  moved : ∀ outboxId job, db.outbox.get? outboxId = some job →
    ∃ job', db'.outbox.get? outboxId = some job' ∧ Move maxRetries job (events outboxId) job'
  absent : ∀ outboxId, db.outbox.get? outboxId = none → events outboxId = []
  fresh : ∀ outboxId new, db.outbox.get? outboxId = none → db'.outbox.get? outboxId = some new →
    ∃ target sourceHash inputHash payloadText incarnation now,
      new = newJob target sourceHash inputHash payloadText incarnation now ∧
      ∀ other job, db'.outbox.get? other = some job → job.Open →
        job.IsFor target sourceHash inputHash incarnation → other = outboxId

/-- Moves one after the other. -/
inductive MovesAll (maxRetries : Int) : (ℕ → List Event) → Db C → Db C → Prop
  | nil (db : Db C) : MovesAll maxRetries (fun _ => []) db db
  | cons {first rest : ℕ → List Event} {db mid db' : Db C} (step : Moves maxRetries first db mid)
      (later : MovesAll maxRetries rest mid db') :
      MovesAll maxRetries (fun outboxId => first outboxId ++ rest outboxId) db db'

theorem MovesAll.single {maxRetries : Int} {events : ℕ → List Event} {db db' : Db C}
    (moves : Moves maxRetries events db db') : MovesAll maxRetries events db db' := by
  have all := MovesAll.cons moves (.nil db')
  simpa only [List.append_nil] using all

section Moves

variable {maxRetries : Int} {db db' : Db C}

theorem Moves.of_outbox (same : db'.outbox = db.outbox) : Moves maxRetries (fun _ => []) db db' where
  moved outboxId job found := ⟨job, same ▸ found, .idle⟩
  absent _ _ := rfl
  fresh outboxId new gone found := by simp [same, gone] at found

/-- Every job is rewritten in place. -/
theorem Moves.of_map {f : Job → Job} (same : db'.outbox = db.outbox.mapValues f)
    (move : ∀ job, Move maxRetries job [] (f job)) : Moves maxRetries (fun _ => []) db db' where
  moved outboxId job found := ⟨f job, by simp [same, found], move job⟩
  absent _ _ := rfl
  fresh outboxId new gone found := by simp [same, gone] at found

/-- One job is written. -/
theorem Moves.of_set {outboxId : ℕ} {job job' : Job} {events : ℕ → List Event}
    (found : db.outbox.get? outboxId = some job) (same : db'.outbox = db.outbox.set outboxId job')
    (move : Move maxRetries job (events outboxId) job')
    (elsewhere : ∀ id, id ≠ outboxId → events id = []) : Moves maxRetries events db db' where
  moved id stored foundStored := by
    by_cases here : id = outboxId
    · subst here
      rw [found, Option.some.injEq] at foundStored
      subst foundStored
      exact ⟨job', by simp [same], move⟩
    · rw [elsewhere id here]
      exact ⟨stored, by simp [same, Table.get?_set, here, foundStored], .idle⟩
  absent id gone := by
    refine elsewhere id ?_
    rintro rfl
    simp [found] at gone
  fresh id new gone foundNew := by
    have other : id ≠ outboxId := by
      rintro rfl
      simp [found] at gone
    simp [same, Table.get?_set, other, gone] at foundNew

theorem Job.open_of_active {job : Job} (active : job.status.active) : job.Open := by
  unfold Job.Open
  cases status : job.status <;> simp [status, JobStatus.active, JobStatus.final] at active ⊢

theorem Job.open_iff {job : Job} :
    job.Open ↔ job.status.active = true ∨ job.status = .deadLetter := by
  unfold Job.Open
  cases status : job.status <;> simp [JobStatus.active, JobStatus.final]

theorem cancelOthers_move (target : Target) (sourceHash inputHash : String) (job : Job) :
    Move maxRetries job [] (cancelOthers target sourceHash inputHash job) := by
  unfold cancelOthers
  split
  · next other => exact .closed ⟨rfl, rfl, rfl, rfl, rfl⟩ other.2.1 rfl rfl
  · exact .idle

theorem cancelDeleted_move (target : Target) (job : Job) :
    Move maxRetries job [] (cancelDeleted target job) := by
  unfold cancelDeleted
  split
  · next deleted => exact .closed ⟨rfl, rfl, rfl, rfl, rfl⟩ deleted.2 rfl rfl
  · exact .idle

/-- An enqueue finds the open job of its work, or inserts the only one. -/
theorem findOrInsert_cases (target : Target) (sourceHash inputHash payloadText : String)
    (incarnation : ℕ) (now : Int) (outbox : Table ℕ Job) :
    (∃ outboxId job, outbox.get? outboxId = some job ∧ job.Open ∧
      job.IsFor target sourceHash inputHash incarnation ∧
      (findOrInsert target sourceHash inputHash payloadText incarnation now outbox).2 = outbox) ∨
    ((∀ outboxId job, outbox.get? outboxId = some job → job.Open →
        ¬ job.IsFor target sourceHash inputHash incarnation) ∧
      (findOrInsert target sourceHash inputHash payloadText incarnation now outbox).2 =
        outbox.set outbox.freshKey
          (newJob target sourceHash inputHash payloadText incarnation now)) := by
  unfold findOrInsert
  split
  · next outboxId job first =>
      obtain ⟨found, passes⟩ := Table.firstWhere_eq_some first
      simp only [Bool.and_eq_true, decide_eq_true_eq, Bool.or_eq_true] at passes
      exact .inl ⟨outboxId, job, found, Job.open_iff.mpr passes.2, passes.1, rfl⟩
  · next none =>
      refine .inr ⟨fun outboxId job found still isFor => ?_, rfl⟩
      have refused := Table.firstWhere_eq_none none found
      simp only [isFor, decide_true, Bool.true_and, Bool.or_eq_false_iff,
        decide_eq_false_iff_not] at refused
      rcases Job.open_iff.mp still with active | dead
      · simp [active] at refused
      · exact refused.2 dead

theorem Enqueued.moves {target : Target} {sourceHash inputHash payloadText : String} {now : Int}
    (enqueued : Enqueued target sourceHash inputHash payloadText now db db') :
    Moves maxRetries (fun _ => []) db db' := by
  let cancelled := db.outbox.mapValues (cancelOthers target sourceHash inputHash)
  rcases findOrInsert_cases target sourceHash inputHash payloadText (db.incarnation target) now
      cancelled with ⟨-, -, -, -, -, same⟩ | ⟨alone, inserted⟩
  · exact .of_map (enqueued.outbox.trans same) (cancelOthers_move target sourceHash inputHash)
  · have outbox : db'.outbox = cancelled.set cancelled.freshKey
        (newJob target sourceHash inputHash payloadText (db.incarnation target) now) :=
      enqueued.outbox.trans inserted
    have unused := cancelled.get?_freshKey
    constructor
    · intro outboxId job found
      have kept : cancelled.get? outboxId =
          some (cancelOthers target sourceHash inputHash job) := by
        simp [cancelled, found]
      have other : outboxId ≠ cancelled.freshKey := by
        rintro rfl
        simp [kept] at unused
      exact ⟨_, by rw [outbox, Table.get?_set, if_neg other, kept], cancelOthers_move _ _ _ job⟩
    · exact fun _ _ => rfl
    · intro outboxId new gone found
      have goneToo : cancelled.get? outboxId = none := by simp [cancelled, gone]
      rw [outbox, Table.get?_set, goneToo] at found
      split at found
      · next here =>
          subst here
          cases found
          refine ⟨_, _, _, _, _, _, rfl, fun other job foundOther still isFor => ?_⟩
          rw [outbox, Table.get?_set] at foundOther
          split at foundOther
          · next same => exact same
          · exact absurd isFor (alone other job foundOther still)
      · cases found

theorem EnqueuedAll.movesAll {host : Host V C} {now : Int} {requests : List Request}
    (all : EnqueuedAll host now requests db db') : MovesAll maxRetries (fun _ => []) db db' := by
  induction all with
  | nil db => exact .nil db
  | cons hashed first later ih => exact MovesAll.cons first.moves ih

/-- The claims a worker was answered with. -/
def claimEvents (jobs : List (ℕ × Job)) (outboxId : ℕ) : List Event :=
  (jobs.filter (fun entry => entry.1 = outboxId)).map (fun entry => .claimed entry.2.fencingToken)

theorem claimEvents_append (first rest : List (ℕ × Job)) :
    claimEvents (first ++ rest) =
      fun outboxId => claimEvents first outboxId ++ claimEvents rest outboxId := by
  funext outboxId
  simp [claimEvents]

theorem Job.Claimable.active {job : Job} {now : Int} (claimable : job.Claimable maxRetries now) :
    job.status.active := by
  rcases claimable with queued | ⟨failed, -⟩ | ⟨running, -⟩
  · rw [queued]; rfl
  · rw [failed]; rfl
  · rw [running]; rfl

theorem Job.HeldBy.running {job : Job} {workerId : String} {token : ℕ} {now : Int}
    (held : job.HeldBy workerId token now) : job.status = .processing := held.1

theorem LeaseOutcome.moves {claim : Claim} {outboxId : ℕ} {leased : Option (ℕ × Job)}
    (outcome : LeaseOutcome claim outboxId db leased db') :
    Moves claim.maxRetries (claimEvents leased.toList) db db' := by
  cases outcome with
  | passed => exact .of_outbox rfl
  | exhausted found claimable spent parent =>
      exact .of_set found rfl (.exhausted spent) fun _ _ => rfl
  | outlived found claimable concluded =>
      exact .of_set found rfl (.closed ⟨rfl, rfl, rfl, rfl, rfl⟩ claimable.active rfl rfl)
        fun _ _ => rfl
  | skipped found claimable changed =>
      exact .of_set found rfl (.closed ⟨rfl, rfl, rfl, rfl, rfl⟩ claimable.active rfl rfl)
        fun _ _ => rfl
  | leased found claimable unspent =>
      refine .of_set found rfl ?_ fun id other => ?_
      · simpa [claimEvents, Job.lease] using Move.leased claimable unspent
      · simp [claimEvents, Ne.symm other]

theorem LeasedAll.movesAll {claim : Claim} {tried : List ℕ} {jobs : List (ℕ × Job)}
    (all : LeasedAll claim tried jobs db db') : MovesAll claim.maxRetries (claimEvents jobs) db db' := by
  induction all with
  | nil db => exact .nil db
  | cons first later ih =>
      rw [claimEvents_append]
      exact .cons first.moves ih

theorem WriteBackOutcome.moves {host : Host V C} {outboxId : ℕ} {job : Job} {column : C} {done : Bool}
    (outcome : WriteBackOutcome host outboxId job column db done db')
    (found : db.outbox.get? outboxId = some job) (running : job.status = .processing) :
    Moves maxRetries (fun id => if outboxId = id then [.settled job.fencingToken] else []) db db' := by
  have close {job' : Job} (same : db'.outbox = db.outbox.set outboxId job') (work : SameWork job job')
      (concluded : job'.status.final) (token : job'.fencingToken = job.fencingToken) :
      Moves maxRetries (fun id => if outboxId = id then [.settled job.fencingToken] else []) db db' := by
    refine .of_set found same ?_ fun id other => if_neg (Ne.symm other)
    simpa using Move.settled work running concluded token
  cases outcome with
  | outlived => exact close rfl ⟨rfl, rfl, rfl, rfl, rfl⟩ rfl rfl
  | orphaned => exact close rfl ⟨rfl, rfl, rfl, rfl, rfl⟩ rfl rfl
  | skipped => exact close rfl ⟨rfl, rfl, rfl, rfl, rfl⟩ rfl rfl
  | written => exact close rfl ⟨rfl, rfl, rfl, rfl, rfl⟩ rfl rfl

theorem Failed.moves {outboxId : ℕ} {job : Job} {error : String} {retryable : Bool} {now : Int}
    (failed : Failed outboxId job error retryable maxRetries now db db')
    (found : db.outbox.get? outboxId = some job) (running : job.status = .processing) :
    Moves maxRetries (fun id => if outboxId = id then [.settled job.fencingToken] else []) db db' := by
  refine .of_set found failed.outbox ?_ fun id other => if_neg (Ne.symm other)
  rw [if_pos rfl]
  exact .failed running

/-- The dead letters an operator was answered with. -/
def requeueEvents (outboxIds : List ℕ) (outboxId : ℕ) : List Event :=
  (outboxIds.filter (fun id => id = outboxId)).map (fun _ => .requeued)

theorem requeueEvents_append (first rest : List ℕ) :
    requeueEvents (first ++ rest) =
      fun outboxId => requeueEvents first outboxId ++ requeueEvents rest outboxId := by
  funext outboxId
  simp [requeueEvents]

theorem RequeueOutcome.moves {outboxId : ℕ} {done : Bool} (outcome : RequeueOutcome outboxId db done db') :
    Moves maxRetries (requeueEvents (if done then [outboxId] else [])) db db' := by
  cases outcome with
  | passed => exact .of_outbox rfl
  | requeued found dead =>
      refine .of_set found rfl ?_ fun id other => ?_
      · simpa [requeueEvents] using Move.requeued dead
      · simp [requeueEvents, Ne.symm other]

theorem RequeuedAll.movesAll {tried ids : List ℕ} (all : RequeuedAll tried ids db db') :
    MovesAll maxRetries (requeueEvents ids) db db' := by
  induction all with
  | nil db => exact .nil db
  | @cons outboxId _ requeued done _ _ _ first later ih =>
      have joined : (if done then outboxId :: requeued else requeued) =
          (if done then [outboxId] else []) ++ requeued := by
        cases done <;> rfl
      rw [joined, requeueEvents_append]
      exact .cons first.moves ih

end Moves

/-! ## Events of an operation -/

/-- The events of a job an answer tells of. -/
def eventsOf (op : Op V) (answer : Answer) (outboxId : ℕ) : List Event :=
  match op, answer with
  | .claim _, .leased jobs => claimEvents jobs outboxId
  | .complete reported _ token _ _, .flag _ => if reported = outboxId then [.settled token] else []
  | .markFailed reported _ token _ _ _ _, .status _ =>
      if reported = outboxId then [.settled token] else []
  | .requeue _ _, .requeued outboxIds => requeueEvents outboxIds outboxId
  | _, _ => []

/-- The retry budget an operation works with. -/
def Op.retries : Op V → Option Int
  | .claim call => some call.maxRetries
  | .markFailed _ _ _ _ _ maxRetries _ => some maxRetries
  | _ => none

theorem eventsOf_writes {op : Op V} (writes : op.writes) (answer : Answer) :
    eventsOf op answer = fun _ => [] := by
  funext outboxId
  cases op <;> first | rfl | cases writes

theorem eventsOf_deletes {op : Op V} {deleted : Target × Int} (deletes : op.deletes = some deleted)
    (answer : Answer) : eventsOf op answer = fun _ => [] := by
  funext outboxId
  cases op <;> first | rfl | cases deletes

theorem Committed.movesAll {host : Host V C} {maxRetries : Int} {op : Op V} {answer : Answer}
    {db db' : Db C} (committed : Committed host db op answer db')
    (fixed : ∀ budget ∈ op.retries, budget = maxRetries) :
    MovesAll maxRetries (eventsOf op answer) db db' := by
  cases committed with
  | wrote writes rewrote enqueued =>
      rw [eventsOf_writes writes]
      exact MovesAll.cons (.of_outbox rewrote.tables.outbox) enqueued.movesAll
  | deleted deletes deleted =>
      rw [eventsOf_deletes deletes]
      exact .single (.of_map deleted.outbox (cancelDeleted_move _))
  | @leased claim _ _ _ _ all =>
      have same := fixed claim.maxRetries rfl
      subst same
      exact all.movesAll
  | unrenewed => exact .nil db
  | renewed found held =>
      exact .single (.of_set found rfl (.renewed held.running) fun _ _ => rfl)
  | reported literal found held outcome =>
      have moves : Moves maxRetries _ db db' := outcome.moves found held.running
      rw [held.2.2.1] at moves
      exact .single moves
  | @failed _ _ _ _ _ budget _ _ _ _ found held failed =>
      have same := fixed budget rfl
      subst same
      have moves := failed.moves found held.running
      rw [held.2.2.1] at moves
      exact .single moves
  | requeued wanted all => exact all.movesAll

/-! ## Runs -/

section Runs

variable (host : Host V C)

/-- The events of a job in one step. -/
def stepEvents (db : Db C) (op : Op V) (outboxId : ℕ) : List Event :=
  match (perform host op db).1 with
  | .ok answer => eventsOf op answer outboxId
  | .error _ => []

/-- The events of a job in a run. -/
def history (outboxId : ℕ) : Db C → List (Op V) → List Event
  | _, [] => []
  | db, op :: rest => stepEvents host db op outboxId ++ history outboxId (step host db op) rest

/-- No two open jobs are of the same work. -/
def Db.Single (db : Db C) : Prop :=
  ∀ outboxId job other otherJob, db.outbox.get? outboxId = some job →
    db.outbox.get? other = some otherJob → job.Open → otherJob.Open →
    job.IsFor otherJob.target otherJob.sourceContentHash otherJob.inputHash otherJob.incarnation →
    outboxId = other

/-- The ledgers of all jobs. -/
structure Ledgers (maxRetries : Int) (histories : ℕ → List Event) (db : Db C) : Prop where
  jobs : ∀ outboxId job, db.outbox.get? outboxId = some job → Ledger maxRetries (histories outboxId) job
  absent : ∀ outboxId, db.outbox.get? outboxId = none → histories outboxId = []
  single : db.Single

variable {host} {maxRetries : Int} {histories events : ℕ → List Event} {db db' : Db C}

theorem Ledgers.empty : Ledgers maxRetries (fun _ => []) (Db.empty : Db C) where
  jobs outboxId job found := by simp [Db.empty] at found
  absent _ _ := rfl
  single outboxId job other otherJob found := by simp [Db.empty] at found

theorem Job.IsFor.symm {job other : Job}
    (isFor : job.IsFor other.target other.sourceContentHash other.inputHash other.incarnation) :
    other.IsFor job.target job.sourceContentHash job.inputHash job.incarnation :=
  ⟨isFor.1.symm, isFor.2.1.symm, isFor.2.2.1.symm, isFor.2.2.2.symm⟩

/-- A job that was there comes from one that was open, of the same work. -/
theorem Moves.before (moves : Moves maxRetries events db db') {outboxId : ℕ} {job job' : Job}
    (found : db.outbox.get? outboxId = some job) (found' : db'.outbox.get? outboxId = some job') :
    Move maxRetries job (events outboxId) job' := by
  obtain ⟨moved, foundMoved, move⟩ := moves.moved outboxId job found
  rw [found', Option.some.injEq] at foundMoved
  subst foundMoved
  exact move

theorem Db.Single.moves (single : db.Single) (moves : Moves maxRetries events db db') :
    db'.Single := by
  intro outboxId job other otherJob found foundOther still stillOther isFor
  cases was : db.outbox.get? outboxId with
  | none =>
      obtain ⟨target, sourceHash, inputHash, payloadText, incarnation, now, rfl, only⟩ :=
        moves.fresh outboxId job was found
      exact (only other otherJob foundOther stillOther isFor.symm).symm
  | some old =>
      cases wasOther : db.outbox.get? other with
      | none =>
          obtain ⟨target, sourceHash, inputHash, payloadText, incarnation, now, rfl, only⟩ :=
            moves.fresh other otherJob wasOther foundOther
          exact only outboxId job found still isFor
      | some oldOther =>
          have move := moves.before was found
          have moveOther := moves.before wasOther foundOther
          refine single outboxId old other oldOther was wasOther (move.open_of_open still)
            (moveOther.open_of_open stillOther) ?_
          have work := moveOther.sameWork
          rw [← move.sameWork.isFor, ← work.target, ← work.source, ← work.input, ← work.incarnation]
          exact isFor

theorem Ledgers.moves (ledgers : Ledgers maxRetries histories db)
    (moves : Moves maxRetries events db db') :
    Ledgers maxRetries (fun outboxId => histories outboxId ++ events outboxId) db' where
  jobs outboxId job found := by
    cases was : db.outbox.get? outboxId with
    | none =>
        obtain ⟨target, sourceHash, inputHash, payloadText, incarnation, now, rfl, -⟩ :=
          moves.fresh outboxId job was found
        rw [ledgers.absent outboxId was, moves.absent outboxId was]
        exact .fresh target sourceHash inputHash payloadText incarnation now
    | some old => exact (ledgers.jobs outboxId old was).move (moves.before was found)
  absent outboxId gone := by
    have was : db.outbox.get? outboxId = none := by
      cases was : db.outbox.get? outboxId with
      | none => rfl
      | some old =>
          obtain ⟨job', found, -⟩ := moves.moved outboxId old was
          simp [gone] at found
    rw [ledgers.absent outboxId was, moves.absent outboxId was, List.append_nil]
  single := ledgers.single.moves moves

theorem Ledgers.movesAll (ledgers : Ledgers maxRetries histories db)
    (all : MovesAll maxRetries events db db') :
    Ledgers maxRetries (fun outboxId => histories outboxId ++ events outboxId) db' := by
  induction all generalizing histories with
  | nil db => simpa only [List.append_nil] using ledgers
  | cons first later ih =>
      have moved := ih (ledgers.moves first)
      simpa only [List.append_assoc] using moved

theorem stepEvents_eq {op : Op V} {answer : Answer}
    (done : transaction host op db = .ok (answer, db')) :
    stepEvents host db op = eventsOf op answer := by
  funext outboxId
  simp [stepEvents, perform, done]

theorem stepEvents_error {op : Op V} {e : PyError} (failed : transaction host op db = .error e) :
    stepEvents host db op = fun _ => [] := by
  funext outboxId
  simp [stepEvents, perform, failed]

/-- One step moves every job by what it answers. -/
theorem step_movesAll (db : Db C) (op : Op V) (fixed : ∀ budget ∈ op.retries, budget = maxRetries) :
    MovesAll maxRetries (stepEvents host db op) db (step host db op) := by
  cases done : transaction host op db with
  | error e =>
      have same : step host db op = db := by simp [step, perform, done]
      rw [stepEvents_error done, same]
      exact .nil db
  | ok result =>
      have next : step host db op = result.2 := by simp [step, perform, done]
      rw [stepEvents_eq done, next]
      exact (transaction_eq_ok done).movesAll fixed

theorem Ledgers.run (ledgers : Ledgers maxRetries histories db) {ops : List (Op V)}
    (fixed : ∀ op ∈ ops, ∀ budget ∈ op.retries, budget = maxRetries) :
    Ledgers maxRetries (fun outboxId => histories outboxId ++ history host outboxId db ops)
      (run (step host) db ops) := by
  induction ops generalizing db histories with
  | nil => simpa only [history, List.append_nil, run_nil] using ledgers
  | cons op rest ih =>
      have moved : MovesAll maxRetries (stepEvents host db op) db (step host db op) :=
        step_movesAll db op (fixed op (by simp))
      have whole := ih (ledgers.movesAll moved) fun op mem => fixed op (List.mem_cons_of_mem _ mem)
      simpa only [history, List.append_assoc, run_cons] using whole

/-- A job that is over is over for good. -/
theorem MovesAll.final (all : MovesAll maxRetries events db db') {outboxId : ℕ} {job : Job}
    (found : db.outbox.get? outboxId = some job) (concluded : job.status.final) :
    db'.outbox.get? outboxId = some job := by
  induction all with
  | nil db => exact found
  | cons first later ih =>
      obtain ⟨job', found', move⟩ := first.moved outboxId job found
      rw [move.final concluded] at found'
      exact ih found'

theorem run_final {ops : List (Op V)} {outboxId : ℕ} {job : Job}
    (found : db.outbox.get? outboxId = some job) (concluded : job.status.final) :
    (run (step host) db ops).outbox.get? outboxId = some job := by
  induction ops generalizing db with
  | nil => exact found
  | cons op rest ih =>
      -- whatever budget the operation has, its moves keep a job that is over
      have moved : MovesAll (op.retries.getD 0) (stepEvents host db op) db (step host db op) :=
        step_movesAll db op fun budget mem => by rw [Option.mem_def.mp mem, Option.getD_some]
      exact ih (moved.final found concluded)

/-- In every run, for every job: the tokens of its claims grow; a report succeeds at most
    once per token, and only under the token of the latest claim; without being put back
    it is claimed at most as often as the budget allows, or once; a job that is over stays
    as it is; and at no time are there two active jobs of the same work. -/
theorem local_outbox_machine (host : Host V C) (maxRetries : Int) (ops : List (Op V))
    (fixed : ∀ op ∈ ops, ∀ budget ∈ op.retries, budget = maxRetries) :
    (∀ outboxId, (claims (history host outboxId .empty ops)).Pairwise (· < ·)) ∧
    (∀ outboxId, (settlements (history host outboxId .empty ops)).Nodup ∧
      ∀ before token after, history host outboxId .empty ops = before ++ .settled token :: after →
        (claims before).getLast? = some token) ∧
    (∀ outboxId before stretch after,
      history host outboxId .empty ops = before ++ stretch ++ after → .requeued ∉ stretch →
      ((claims stretch).length : Int) ≤ max 1 maxRetries) ∧
    (∀ first rest, ops = first ++ rest → ∀ outboxId job,
      (run (step host) .empty first).outbox.get? outboxId = some job → job.status.final →
      (run (step host) .empty ops).outbox.get? outboxId = some job) ∧
    (∀ first rest, ops = first ++ rest → ∀ outboxId job other otherJob,
      (run (step host) .empty first).outbox.get? outboxId = some job →
      (run (step host) .empty first).outbox.get? other = some otherJob →
      job.status.active → otherJob.status.active →
      job.IsFor otherJob.target otherJob.sourceContentHash otherJob.inputHash otherJob.incarnation →
      outboxId = other) := by
  have whole : Ledgers maxRetries (fun outboxId => history host outboxId .empty ops)
      (run (step host) .empty ops) := by
    simpa using Ledgers.empty.run fixed
  have ledger (outboxId : ℕ) : ∃ token held,
      Fenced (history host outboxId .empty ops) token held ∧
      Within (max 1 maxRetries).toNat (history host outboxId .empty ops) := by
    cases found : (run (step host) .empty ops).outbox.get? outboxId with
    | none =>
        rw [whole.absent outboxId found]
        exact ⟨0, False, .nil, .nil⟩
    | some job =>
        have kept := whole.jobs outboxId job found
        exact ⟨_, _, kept.fenced, kept.within⟩
  refine ⟨fun outboxId => ?_, fun outboxId => ?_, ?_, ?_, ?_⟩
  · obtain ⟨token, held, fenced, -⟩ := ledger outboxId
    exact fenced.increasing
  · obtain ⟨token, held, fenced, -⟩ := ledger outboxId
    exact ⟨fenced.once, fenced.current⟩
  · intro outboxId before stretch after split kept
    obtain ⟨token, held, -, within⟩ := ledger outboxId
    have counted := within.claims_le split kept
    omega
  · intro first rest split outboxId job found concluded
    rw [split, run_append]
    exact run_final found concluded
  · intro first rest split outboxId job other otherJob found foundOther active activeOther isFor
    have early : ∀ op ∈ first, ∀ budget ∈ op.retries, budget = maxRetries := fun op mem =>
      fixed op (split ▸ List.mem_append_left rest mem)
    exact (Ledgers.empty.run early).single outboxId job other otherJob found foundOther
      (Job.open_of_active active) (Job.open_of_active activeOther) isFor

/-- A worker crashes, its job is claimed again and the report of the first claim comes late; the second
    claim fails, which is the last one the budget allows; the job is put back, claimed and done, and
    reported a second time. -/
def crashedOps : List (Op (List Int)) :=
  [putChunkOp "text" 'a', claimOp 2 1, claimOp 2 5, completeOp 1 5, .markFailed 1 "worker" 2 "timeout" true 2 5000002,
    .requeue none ["timeout"], claimOp 2 9, .complete 1 "worker" 3 onesVector 9000001,
    .complete 1 "worker" 3 onesVector 9000002]

theorem local_outbox_machine_crashed :
    history referenceHost 1 .empty crashedOps =
      [.claimed 1, .claimed 2, .settled 2, .requeued, .claimed 3, .settled 3] ∧
    (claims (history referenceHost 1 .empty crashedOps)).Pairwise (· < ·) ∧
    (settlements (history referenceHost 1 .empty crashedOps)).Nodup ∧
    ((claims [.claimed 1, .claimed 2, .settled 2]).length : Int) ≤ max 1 2 := by
  have whole : history referenceHost 1 .empty crashedOps =
      [.claimed 1, .claimed 2, .settled 2, .requeued, .claimed 3, .settled 3] := by decide +kernel
  obtain ⟨grows, settles, bounded, -⟩ := local_outbox_machine referenceHost 2 crashedOps (by decide)
  exact ⟨whole, grows 1, (settles 1).1, bounded 1 [] _ [.requeued, .claimed 3, .settled 3] whole (by decide)⟩

/-- A new job is claimed without a look at the budget, also where the budget is zero. -/
theorem claimed_without_budget :
    (∀ op ∈ [putChunkOp "text" 'a', claimOp 0 1], ∀ budget ∈ op.retries, budget = 0) ∧
    history referenceHost 1 .empty [putChunkOp "text" 'a', claimOp 0 1] = [] ++ [.claimed 1] ++ [] ∧
    .requeued ∉ [Event.claimed 1] ∧ ¬ ((claims [.claimed 1]).length : Int) ≤ 0 := by
  decide +kernel

end Runs

end Neurons.Embedding
