import Neurons.Outbox.GraphOutbox
import Neurons.Outbox.ReferenceGemini

/-! # Attempts at a job

What the columns of a job tell of its history. The retry counter moves with failure reports
only, so a claim that takes a job over from a silent worker is not counted: the claims since
the last reset are bounded by the retry limit and the takeovers together.
-/

namespace Neurons.Outbox

open Neurons.Lib
open Neurons.Source
open Lib.Attempts (Event count Orderly Within)
open Neurons.Embedding (Target SessionChunk)

/-! ## One job -/

section Ledger

variable {W : Type}

/-- One more attempt than failures while a job is in process, and after it ended. -/
def JobStatus.begun : JobStatus → ℕ
  | queued | failed => 0
  | processing | completed | casSkipped | deadLetter => 1

/-- What the columns of a job tell of its history. -/
structure Ledger (history : List (Event String)) (job : Job W) : Prop where
  orderly : Orderly history
  held : (count history).held = true ↔ job.status = .processing
  latest : job.status = .processing → ∃ earlier workerId, job.workerId = some workerId ∧
    history = earlier ++ [.claimed workerId]
  ended : ∀ earlier workerId, history = earlier ++ [.reported workerId true] → job.status.active = false
  queued : job.status = .queued → job.retryCount = 0
  counted : (count history).attempts ≤ job.retryCount + (count history).takeovers + job.status.begun
  bounded : (count history).attempts ≤ outboxRetryLimit + (count history).takeovers

theorem Ledger.new {job : Job W} (status : job.status = .queued) (retries : job.retryCount = 0) :
    Ledger [] job where
  orderly := .nil
  held := by simp [status, Attempts.Count.zero]
  latest processing := by simp [status] at processing
  ended earlier workerId split := by simp at split
  queued _ := retries
  counted := Nat.zero_le _
  bounded := Nat.zero_le _

variable {history : List (Event String)} {job : Job W}

theorem Ledger.claim (ledger : Ledger history job) {claim : Claim} (claimable : job.Claimable claim.now) :
    Ledger (history ++ [.claimed claim.workerId]) (job.lease claim) where
  orderly := by
    refine ledger.orderly.snoc (fun holder final same => by cases same) fun earlier holder same => ?_
    have final := ledger.ended earlier holder same
    rcases claimable.1 with queued | ⟨failed, _⟩ | ⟨processing, _⟩
    · rw [queued] at final; cases final
    · rw [failed] at final; cases final
    · rw [processing] at final; cases final
  held := by simp [Attempts.Count.next, Job.lease]
  latest _ := ⟨history, claim.workerId, rfl, rfl⟩
  ended earlier workerId split := by
    have last := (List.append_inj' split rfl).2
    simp at last
  queued queued := by cases queued
  counted := by
    have before := ledger.counted
    have held := ledger.held
    simp only [Attempts.count_snoc, Attempts.Count.next, Job.lease, JobStatus.begun]
    rcases claimable.1 with queued | ⟨failed, _⟩ | ⟨processing, _⟩
    · simp only [queued, JobStatus.begun] at before
      omega
    · simp only [failed, JobStatus.begun] at before
      omega
    · simp only [processing, JobStatus.begun, iff_true] at before held
      simp only [held, if_true]
      omega
  bounded := by
    have before := ledger.counted
    have held := ledger.held
    have positive : 0 < outboxRetryLimit := by decide
    simp only [Attempts.count_snoc, Attempts.Count.next]
    rcases claimable.1 with queued | ⟨failed, retries⟩ | ⟨processing, retries⟩
    · have none := ledger.queued queued
      simp only [queued, JobStatus.begun] at before
      omega
    · simp only [failed, JobStatus.begun] at before
      omega
    · simp only [processing, JobStatus.begun, iff_true] at before held
      simp only [held, if_true]
      omega

/-- A report by the worker of the latest claim ends the attempt. -/
theorem Ledger.report (ledger : Ledger history job) {workerId : String} {final : Bool} {job' : Job W}
    (processing : job.status = .processing) (owner : job.workerId = some workerId)
    (ends : job'.status ≠ .processing ∧ job'.status ≠ .queued) (ended : final = true → job'.status.active = false)
    (counted : job.retryCount + 1 ≤ job'.retryCount + job'.status.begun) :
    Ledger (history ++ [.reported workerId final]) job' where
  orderly := by
    obtain ⟨earlier, holder, held, split⟩ := ledger.latest processing
    rw [owner] at held
    cases held
    refine ledger.orderly.snoc (fun other _ same => ?_) fun shorter other same => ?_
    · cases same
      exact ⟨earlier, split⟩
    · have last := (List.append_inj' (split.symm.trans same) rfl).2
      simp at last
  held := by simp [Attempts.Count.next, ends.1]
  latest again := (ends.1 again).elim
  ended earlier other split := by
    have last := (List.append_inj' split rfl).2
    simp only [List.cons.injEq, Event.reported.injEq, and_true] at last
    exact ended last.2
  queued again := (ends.2 again).elim
  counted := by
    have before := ledger.counted
    rw [processing] at before
    simp only [JobStatus.begun] at before
    simp only [Attempts.count_snoc, Attempts.Count.next]
    omega
  bounded := by simpa [Attempts.Count.next] using ledger.bounded

theorem Ledger.move (ledger : Ledger history job) {events : List (Event String)} {job' : Job W}
    (move : Move job events job') : Ledger (history ++ events) job' := by
  cases move with
  | stays => simpa using ledger
  | renewed lease =>
      rw [List.append_nil]
      exact ⟨ledger.orderly, ledger.held, ledger.latest, ledger.ended, ledger.queued, ledger.counted,
        ledger.bounded⟩
  | claimed claimable => exact ledger.claim claimable
  | failed held owner errorMessage maxRetries now =>
      refine ledger.report held owner ?_ ?_ ?_
      · unfold Job.fail
        constructor <;> simp only <;> split <;> simp
      · intro concluded
        simp only [decide_eq_true_eq] at concluded
        simp [Job.fail, concluded, JobStatus.active]
      · simp [Job.fail]
  | settled held owner sameWork sameRetries final =>
      refine ledger.report held owner ?_ (fun _ => final) ?_
      · constructor
        · intro again
          rw [again] at final
          cases final
        · intro again
          rw [again] at final
          cases final
      · have begun : job'.status.begun = 1 := by
          revert final
          cases job'.status <;> simp [JobStatus.active, JobStatus.begun]
        omega
  | reset dead sameWork status retries =>
      constructor
      · refine ledger.orderly.snoc (fun holder final same => by cases same) fun _ _ _ => rfl
      · simp [Attempts.Count.next, Attempts.Count.zero, status]
      · intro again
        rw [status] at again
        cases again
      · intro earlier workerId split
        have last := (List.append_inj' split rfl).2
        simp at last
      · intro again
        rw [status] at again
        cases again
      · simp [Attempts.Count.next, Attempts.Count.zero]
      · simp [Attempts.Count.next, Attempts.Count.zero]

/-- No claim of the job is a takeover, and its claims since the last reset are within the limit. -/
structure Bounded (history : List (Event String)) : Prop where
  quiet : (count history).takeovers = 0
  within : Within outboxRetryLimit history

theorem Bounded.nil : Bounded [] := ⟨rfl, Attempts.within_nil _⟩

theorem Bounded.move (bounded : Bounded history) (ledger : Ledger history job) {events : List (Event String)}
    {job' : Job W} (move : Move job events job')
    (fresh : job.status = .processing → ∀ event ∈ events, event.isClaim = false) : Bounded (history ++ events) := by
  have after := ledger.move move
  have quiet : (count (history ++ events)).takeovers = 0 := by
    cases move with
    | stays => simpa using bounded.quiet
    | renewed lease => simpa using bounded.quiet
    | claimed claimable =>
        have idle : (count history).held = false := by
          by_contra held
          have claim := fresh (ledger.held.mp (by simpa using held)) _ (List.mem_singleton_self _)
          cases claim
        simp [Attempts.Count.next, idle, bounded.quiet]
    | failed held owner errorMessage maxRetries now => simpa [Attempts.Count.next] using bounded.quiet
    | settled held owner sameWork sameRetries final => simpa [Attempts.Count.next] using bounded.quiet
    | reset dead sameWork status retries => simp [Attempts.Count.next, Attempts.Count.zero]
  refine ⟨quiet, ?_⟩
  have limit := after.bounded
  rw [quiet, Nat.add_zero] at limit
  cases move with
  | stays => simpa using bounded.within
  | renewed lease => simpa using bounded.within
  | claimed claimable => exact bounded.within.snoc limit
  | failed held owner errorMessage maxRetries now => exact bounded.within.snoc limit
  | settled held owner sameWork sameRetries final => exact bounded.within.snoc limit
  | reset dead sameWork status retries => exact bounded.within.snoc limit

end Ledger

/-! ## An outbox and its runs -/

section Runs

variable {W σ α : Type}

/-- The history of every key fits the job under it; a key without a job has none. -/
structure Ledgers (histories : ℕ → List (Event String)) (outbox : Table ℕ (Job W)) : Prop where
  stored : ∀ id job, outbox.get? id = some job → Ledger (histories id) job
  missing : ∀ id, outbox.get? id = none → histories id = []

theorem Ledgers.empty : Ledgers (fun _ => []) (∅ : Table ℕ (Job W)) :=
  ⟨by simp, fun _ _ => rfl⟩

variable {histories events : ℕ → List (Event String)} {outbox outbox' : Table ℕ (Job W)}

theorem Ledgers.moves (ledgers : Ledgers histories outbox) (moves : Moves events outbox outbox') :
    Ledgers (fun id => histories id ++ events id) outbox' where
  stored id job' found := by
    cases before : outbox.get? id with
    | some job =>
        obtain ⟨moved, here, move⟩ := moves.moved id job before
        rw [found] at here
        cases here
        exact (ledgers.stored id job before).move move
    | none =>
        obtain ⟨silent, inserted⟩ := moves.inserted id before
        obtain ⟨status, retries⟩ := inserted job' found
        simp only [ledgers.missing id before, silent, List.append_nil]
        exact .new status retries
  missing id gone := by
    cases before : outbox.get? id with
    | some job =>
        obtain ⟨moved, here, _⟩ := moves.moved id job before
        simp [gone] at here
    | none => simp [ledgers.missing id before, (moves.inserted id before).1]

/-- No claim takes a job from a worker that has not reported on it. -/
def NoTakeover (events : ℕ → List (Event String)) (outbox : Table ℕ (Job W)) : Prop :=
  ∀ id job, outbox.get? id = some job → job.status = .processing → ∀ event ∈ events id, event.isClaim = false

theorem bounded_moves (ledgers : Ledgers histories outbox) (moves : Moves events outbox outbox')
    (fresh : NoTakeover events outbox) {id : ℕ} (bounded : Bounded (histories id)) :
    Bounded (histories id ++ events id) := by
  cases before : outbox.get? id with
  | some job =>
      obtain ⟨moved, _, move⟩ := moves.moved id job before
      exact bounded.move (ledgers.stored id job before) move (fresh id job before)
  | none => simpa [(moves.inserted id before).1] using bounded

variable (step : σ → α → σ) (happens : σ → α → ℕ → List (Event String))

/-- What a run means for the job under a key. -/
def history (id : ℕ) : σ → List α → List (Event String)
  | _, [] => []
  | s, a :: rest => happens s a id ++ history id (step s a) rest

variable (box : σ → Table ℕ (Job W))

theorem ledgers_run (moves : ∀ s a, Moves (happens s a) (box s) (box (step s a))) {s : σ}
    (start : Ledgers histories (box s)) (actions : List α) :
    Ledgers (fun id => histories id ++ history step happens id s actions) (box (run step s actions)) := by
  induction actions generalizing s histories with
  | nil => simpa [history] using start
  | cons a rest ih =>
      have after := ih (start.moves (moves s a))
      simpa [history, List.append_assoc] using after

theorem bounded_run (moves : ∀ s a, Moves (happens s a) (box s) (box (step s a))) {s : σ}
    (start : Ledgers histories (box s)) {actions : List α}
    (along : Along step (fun s a => NoTakeover (happens s a) (box s)) s actions) {id : ℕ}
    (bounded : Bounded (histories id)) :
    Bounded (histories id ++ history step happens id s actions) := by
  induction actions generalizing s histories with
  | nil => simpa [history] using bounded
  | cons a rest ih =>
      have after := ih (start.moves (moves s a)) along.2
        (bounded_moves start (moves s a) along.1 bounded)
      simpa [history, List.append_assoc] using after

/-- The attempts of every job of a run that starts with an empty outbox. -/
theorem attempts_run (moves : ∀ s a, Moves (happens s a) (box s) (box (step s a))) {s : σ} (blank : box s = ∅)
    {actions : List α} (along : Along step (fun s a => NoTakeover (happens s a) (box s)) s actions) (id : ℕ) :
    Within outboxRetryLimit (history step happens id s actions) ∧ Orderly (history step happens id s actions) := by
  have start : Ledgers (fun _ => []) (box s) := blank ▸ Ledgers.empty
  have bounded : Bounded ([] ++ history step happens id s actions) :=
    bounded_run step happens box moves start along .nil
  have within := bounded.within
  have ledgers := ledgers_run step happens box moves start actions
  rw [List.nil_append] at within
  refine ⟨within, ?_⟩
  cases found : (box (run step s actions)).get? id with
  | some job => simpa using (ledgers.stored id job found).orderly
  | none =>
      have silent := ledgers.missing id found
      simp only [List.nil_append] at silent
      rw [silent]
      exact .nil

end Runs

/-! ## The two outboxes -/

section Machines

variable {V C K : Type} (gemini : Gemini V C K)

/-- A transaction on the embedding outbox; a worker may also report a job done without a vector. -/
inductive EmbeddingOp (V : Type) where
  | run (op : Op V)
  | complete (outboxId : ℕ) (workerId : String) (clock : Int)

def embeddingTransaction (db : Db C) : EmbeddingOp V → Except PyError (Answer × Db C)
  | .run op => transaction gemini op db
  | .complete outboxId workerId clock => (markOutboxCompleted outboxId workerId clock db).map (Answer.done, ·)

def embeddingStep (db : Db C) (op : EmbeddingOp V) : Db C :=
  match embeddingTransaction gemini db op with
  | .ok (_, db') => db'
  | .error _ => db

/-- A report on one job. -/
def reportOn (outboxId : ℕ) (workerId : String) (final : Bool) (id : ℕ) : List (Event String) :=
  if id = outboxId then [.reported workerId final] else []

/-- Whether a failure report ends the job. -/
def exhausts {W : Type} (outboxId : ℕ) (maxRetries : Int) (outbox : Table ℕ (Job W)) : Bool :=
  decide (∃ job ∈ outbox.get? outboxId, maxRetries ≤ (job.retryCount : Int) + 1)

/-- What an answered transaction means for the attempts at a job. -/
def answeredEvents (outbox : Table ℕ (Job EmbeddingWork)) (answer : Answer) :
    EmbeddingOp V → ℕ → List (Event String)
  | .run (.claim claim) => claimEvents claim outbox
  | .run (.skipStale report _) =>
      if answer = .changed true then reportOn report.outboxId report.workerId true else fun _ => []
  | .run (.casUpdate report _ _) => reportOn report.outboxId report.workerId true
  | .run (.markFailed outboxId _ maxRetries workerId _ _) =>
      reportOn outboxId workerId (exhausts outboxId maxRetries outbox)
  | .complete outboxId workerId _ => reportOn outboxId workerId true
  | _ => fun _ => []

def embeddingEvents (db : Db C) (op : EmbeddingOp V) : ℕ → List (Event String) :=
  match embeddingTransaction gemini db op with
  | .ok (answer, _) => answeredEvents db.outbox answer op
  | .error _ => fun _ => []

def graphEvents (outbox : GraphJobs) (op : GraphOp) : ℕ → List (Event String) :=
  match op.transaction outbox with
  | .ok _ =>
      match op with
      | .enqueue _ _ => fun _ => []
      | .claim claim => claimEvents claim outbox
      | .complete projectionId workerId => reportOn projectionId workerId true
      | .fail projectionId _ maxRetries workerId _ =>
          reportOn projectionId workerId (exhausts projectionId maxRetries outbox)
      | .reset sourceIds => fun id =>
          if ∃ job ∈ outbox.get? id, job.Resettable sourceIds then [.reset] else []
  | .error _ => fun _ => []

theorem exhausts_found {W : Type} {outboxId : ℕ} {maxRetries : Int} {outbox : Table ℕ (Job W)} {job : Job W}
    (found : outbox.get? outboxId = some job) :
    exhausts outboxId maxRetries outbox = decide (maxRetries ≤ (job.retryCount : Int) + 1) := by
  simp [exhausts, found]

/-- The report of a worker on its job. -/
theorem Moves.report {W : Type} {outbox : Table ℕ (Job W)} {outboxId : ℕ} {workerId : String} {job job' : Job W}
    {final : Bool} (found : outbox.get? outboxId = some job) (move : Move job [.reported workerId final] job') :
    Moves (reportOn outboxId workerId final) outbox (outbox.set outboxId job') :=
  Moves.set found move

theorem Moves.failure {W : Type} {outbox : Table ℕ (Job W)} {outboxId : ℕ} {workerId : String} {job : Job W}
    (found : outbox.get? outboxId = some job) (held : job.status = .processing)
    (owner : job.workerId = some workerId) (errorMessage : String) (maxRetries now : Int) :
    Moves (reportOn outboxId workerId (exhausts outboxId maxRetries outbox)) outbox
      (outbox.set outboxId (job.fail errorMessage maxRetries now)) := by
  refine .report found ?_
  rw [exhausts_found found]
  exact .failed held owner errorMessage maxRetries now

/-! ### The graph outbox -/

theorem ownedJob_eq_ok {projectionId : ℕ} {workerId : String} {outbox : GraphJobs} {job : Job GraphWork}
    (done : ownedJob projectionId workerId outbox = .ok job) :
    outbox.get? projectionId = some job ∧ job.status = .processing ∧ job.workerId = some workerId := by
  unfold ownedJob at done
  cases found : outbox.get? projectionId with
  | none => simp [found] at done
  | some stored =>
      simp only [found] at done
      split at done
      · rename_i owned
        cases done
        exact ⟨rfl, owned.2, owned.1⟩
      · cases done

theorem enqueueGraphOutboxOn_moves {work : GraphWork} {now : Int} {outbox outbox' : GraphJobs}
    (done : enqueueGraphOutboxOn work now outbox = .ok outbox') : Moves (fun _ => []) outbox outbox' := by
  unfold enqueueGraphOutboxOn at done
  obtain ⟨_, _, done⟩ := bind_eq_ok.mp done
  obtain ⟨_, _, done⟩ := bind_eq_ok.mp done
  split at done
  · cases done
    exact .refl outbox
  · cases done
    exact .insert outbox work now

theorem reset_moves (sourceIds : List String) (outbox : GraphJobs) :
    Moves (fun id => if ∃ job ∈ outbox.get? id, job.Resettable sourceIds then [.reset] else []) outbox
      (resetGraphProjectionDeadLetters sourceIds outbox).2 where
  moved id job found := by
    refine ⟨_, by simp only [resetGraphProjectionDeadLetters, Table.get?_mapValues, found]; rfl, ?_⟩
    by_cases resettable : job.Resettable sourceIds
    · simp only [found, Option.mem_some_iff, exists_eq_left', resettable, if_true]
      exact .reset resettable.1 rfl rfl rfl
    · simp only [found, Option.mem_some_iff, exists_eq_left', resettable, if_false]
      exact .stays
  inserted id missing := by simp [missing, resetGraphProjectionDeadLetters]

theorem graphStep_moves (outbox : GraphJobs) (op : GraphOp) :
    Moves (graphEvents outbox op) outbox (graphStep outbox op) := by
  unfold graphEvents graphStep
  cases committed : op.transaction outbox with
  | error e => exact .refl outbox
  | ok outbox' =>
      cases op with
      | enqueue work now => exact enqueueGraphOutboxOn_moves committed
      | claim claim =>
          obtain ⟨⟨leased, _⟩, done, rfl⟩ := except_map_eq_ok committed
          exact claimLeases_moves done
      | complete projectionId workerId =>
          simp only [GraphOp.transaction, markGraphProjectionCompleted, bind_eq_ok, pure_eq_ok,
            Except.ok.injEq] at committed
          obtain ⟨job, owned, rfl⟩ := committed
          obtain ⟨found, held, owner⟩ := ownedJob_eq_ok owned
          exact .report found (.settled held owner rfl rfl rfl)
      | fail projectionId errorMessage maxRetries workerId now =>
          simp only [GraphOp.transaction, markGraphProjectionFailed, bind_eq_ok, pure_eq_ok,
            Except.ok.injEq] at committed
          obtain ⟨_, _, _, _, job, owned, rfl⟩ := committed
          obtain ⟨found, held, owner⟩ := ownedJob_eq_ok owned
          exact .failure found held owner errorMessage maxRetries now
      | reset sourceIds =>
          cases committed
          exact reset_moves sourceIds outbox

/-! ### The embedding outbox -/

theorem enqueueOutboxOn_moves {target : Target} {contentHash payloadText : String} {now : Int}
    {outbox outbox' : Table ℕ (Job EmbeddingWork)}
    (done : enqueueOutboxOn target contentHash payloadText now outbox = .ok outbox') :
    Moves (fun _ => []) outbox outbox' := by
  unfold enqueueOutboxOn at done
  obtain ⟨_, _, done⟩ := bind_eq_ok.mp done
  dsimp only at done
  split at done
  · obtain ⟨_, _, done⟩ := bind_eq_ok.mp done
    cases done
    exact .refl outbox
  · cases done
    exact .insert outbox _ now

theorem enqueueWritten_moves {supplied : Supplied V} {target : Target} {contentHash : String}
    {payloadText : Except PyError String} {now : Int} {outbox outbox' : Table ℕ (Job EmbeddingWork)}
    (done : enqueueWritten supplied target contentHash payloadText now outbox = .ok outbox') :
    Moves (fun _ => []) outbox outbox' := by
  unfold enqueueWritten at done
  split at done
  · obtain ⟨text, _, done⟩ := bind_eq_ok.mp done
    exact enqueueOutboxOn_moves done
  · cases done
    exact .refl outbox

theorem renew_moves {outboxId : ℕ} {workerId : String} {leaseSeconds : Int} {clock : Clock} {answer : Bool}
    {db db' : Db C} (done : renewOutboxLease outboxId workerId leaseSeconds clock db = .ok (answer, db')) :
    Moves (fun _ => []) db.outbox db'.outbox := by
  unfold renewOutboxLease at done
  obtain ⟨_, _, done⟩ := bind_eq_ok.mp done
  cases found : db.outbox.get? outboxId with
  | none =>
      simp only [found, pure_eq_ok, Except.ok.injEq, Prod.mk.injEq] at done
      rw [← done.2]
      exact .refl _
  | some job =>
      simp only [found] at done
      split at done
      · simp only [pure_eq_ok, Except.ok.injEq, Prod.mk.injEq] at done
        rw [← done.2]
        simpa [setJob_outbox] using Moves.set found (Move.renewed _)
      · simp only [pure_eq_ok, Except.ok.injEq, Prod.mk.injEq] at done
        rw [← done.2]
        exact .refl _

theorem skipStale_moves {report : Report} {clock : Clock} {answer : Bool} {db db' : Db C}
    (done : skipStaleOutboxEmbedding report clock db = .ok (answer, db')) :
    Moves (if Answer.changed answer = .changed true then reportOn report.outboxId report.workerId true
      else fun _ => []) db.outbox db'.outbox := by
  unfold skipStaleOutboxEmbedding at done
  obtain ⟨_, _, done⟩ := bind_eq_ok.mp done
  obtain ⟨job, selected, done⟩ := bind_eq_ok.mp done
  obtain ⟨found, ⟨held, owner, _⟩, _⟩ := Report.select_eq_ok selected
  split at done
  · simp only [pure_eq_ok, Except.ok.injEq, Prod.mk.injEq] at done
    obtain ⟨rfl, rfl⟩ := done
    exact .refl _
  · simp only [bind_eq_ok, pure_eq_ok, Except.ok.injEq, Prod.mk.injEq] at done
    obtain ⟨_, _, rfl, rfl⟩ := done
    exact .report found (.settled held owner rfl rfl rfl)

theorem casUpdate_moves {report : Report} {vector : V} {clock : Clock} {answer : Bool} {db db' : Db C}
    (done : casUpdateEmbedding gemini report vector clock db = .ok (answer, db')) :
    Moves (reportOn report.outboxId report.workerId true) db.outbox db'.outbox := by
  unfold casUpdateEmbedding at done
  obtain ⟨_, _, done⟩ := bind_eq_ok.mp done
  obtain ⟨column, _, done⟩ := bind_eq_ok.mp done
  obtain ⟨job, selected, done⟩ := bind_eq_ok.mp done
  obtain ⟨found, ⟨held, owner, _⟩, _⟩ := Report.select_eq_ok selected
  simp only [bind_eq_ok, pure_eq_ok, Except.ok.injEq, Prod.mk.injEq] at done
  obtain ⟨_, _, _, rfl⟩ := done
  by_cases updated : (db.find? report.target).map Prod.fst = some report.contentHash ∧
      job.LeasedTo report.workerId (clock.at_ 1)
  · simp only [updated, decide_true, if_true, and_self, setJob_outbox, updateColumns_outbox]
    exact .report found (.settled held owner rfl rfl rfl)
  · simp only [updated, decide_false, Bool.false_eq_true, if_false, setJob_outbox]
    exact .report found (.settled held owner rfl rfl rfl)

theorem markFailed_moves {outboxId : ℕ} {errorMessage : String} {maxRetries : Int} {workerId : String}
    {now clock : Int} {db db' : Db C}
    (done : markOutboxFailed outboxId errorMessage maxRetries workerId now clock db = .ok db') :
    Moves (reportOn outboxId workerId (exhausts outboxId maxRetries db.outbox)) db.outbox db'.outbox := by
  simp only [markOutboxFailed, bind_eq_ok, pure_eq_ok, Except.ok.injEq] at done
  obtain ⟨_, _, _, _, job, selected, rfl⟩ := done
  obtain ⟨found, held, owner, _⟩ := leasedJob_eq_ok selected
  have moves := Moves.failure found held owner errorMessage maxRetries now
  split
  · rw [updateColumns_outbox]
    exact moves
  · exact moves

theorem embeddingStep_moves (db : Db C) (op : EmbeddingOp V) :
    Moves (embeddingEvents gemini db op) db.outbox (embeddingStep gemini db op).outbox := by
  unfold embeddingEvents embeddingStep
  cases committed : embeddingTransaction gemini db op with
  | error e => exact .refl _
  | ok result =>
      obtain ⟨answer, db'⟩ := result
      cases op with
      | complete outboxId workerId clock =>
          obtain ⟨_, done, same⟩ := except_map_eq_ok committed
          cases same
          simp only [markOutboxCompleted, bind_eq_ok, pure_eq_ok, Except.ok.injEq] at done
          obtain ⟨_, _, job, selected, rfl⟩ := done
          obtain ⟨found, held, owner, _⟩ := leasedJob_eq_ok selected
          exact .report found (.settled held owner rfl rfl rfl)
      | run op =>
          cases op with
          | upsertCard card supplied now =>
              obtain ⟨_, done, same⟩ := except_map_eq_ok committed
              cases same
              simp only [upsertCard, upsertCardOn, bind_eq_ok, pure_eq_ok, Except.ok.injEq] at done
              obtain ⟨_, _, _, _, _, ⟨_, _, _, _, rfl⟩, _, queued, _, _, rfl⟩ := done
              exact enqueueWritten_moves queued
          | insertChunk insertOnly chunk supplied now =>
              obtain ⟨_, done, same⟩ := except_map_eq_ok committed
              cases same
              simp only [insertChunk, bind_eq_ok, pure_eq_ok, Except.ok.injEq] at done
              obtain ⟨_, _, _, _, _, _, _, _, _, queued, rfl⟩ := done
              exact enqueueWritten_moves queued
          | claim claim =>
              obtain ⟨_, done, same⟩ := except_map_eq_ok committed
              cases same
              simp only [claimOutboxLeases, bind_eq_ok, pure_eq_ok, Except.ok.injEq] at done
              obtain ⟨_, leased, rfl⟩ := done
              exact claimLeases_moves leased
          | renew outboxId workerId leaseSeconds clock =>
              obtain ⟨_, done, same⟩ := except_map_eq_ok committed
              cases same
              exact renew_moves done
          | skipStale report clock =>
              obtain ⟨_, done, same⟩ := except_map_eq_ok committed
              cases same
              exact skipStale_moves done
          | casUpdate report vector clock =>
              obtain ⟨_, done, same⟩ := except_map_eq_ok committed
              cases same
              exact casUpdate_moves gemini done
          | markFailed outboxId errorMessage maxRetries workerId now clock =>
              obtain ⟨_, done, same⟩ := except_map_eq_ok committed
              cases same
              exact markFailed_moves done

/-! ### Attempts -/

/-- The claim selects no job that is still in process. -/
def Claim.Fresh {W : Type} (claim : Claim) (outbox : Table ℕ (Job W)) : Prop :=
  ∀ id ∈ candidates claim outbox, ∀ job ∈ outbox.get? id, job.status ≠ .processing

instance {W : Type} (claim : Claim) (outbox : Table ℕ (Job W)) : Decidable (claim.Fresh outbox) := by
  unfold Claim.Fresh
  infer_instance

/-- No worker's job is taken over by this transaction. -/
def EmbeddingOp.Fresh (db : Db C) : EmbeddingOp V → Prop
  | .run (.claim claim) => claim.Fresh db.outbox
  | _ => True

def GraphOp.Fresh (outbox : GraphJobs) : GraphOp → Prop
  | .claim request => request.Fresh outbox
  | _ => True

theorem claimEvents_noTakeover {W : Type} {claim : Claim} {outbox : Table ℕ (Job W)} (fresh : claim.Fresh outbox) :
    NoTakeover (claimEvents claim outbox) outbox := by
  intro id job found processing event mem
  unfold claimEvents at mem
  split at mem
  · rename_i chosen
    exact (fresh id chosen job found processing).elim
  · cases mem

theorem reportOn_noTakeover {W : Type} (outboxId : ℕ) (workerId : String) (final : Bool) (outbox : Table ℕ (Job W)) :
    NoTakeover (reportOn outboxId workerId final) outbox := by
  intro id job _ _ event mem
  unfold reportOn at mem
  split at mem
  · rw [List.mem_singleton.mp mem]
    rfl
  · cases mem

theorem silent_noTakeover {W : Type} (outbox : Table ℕ (Job W)) : NoTakeover (fun _ => []) outbox :=
  fun _ _ _ _ event mem => by cases mem

theorem graphEvents_noTakeover {outbox : GraphJobs} {op : GraphOp} (fresh : op.Fresh outbox) :
    NoTakeover (graphEvents outbox op) outbox := by
  unfold graphEvents
  cases op.transaction outbox with
  | error e => exact silent_noTakeover outbox
  | ok outbox' =>
      cases op with
      | enqueue work now => exact silent_noTakeover outbox
      | claim request => exact claimEvents_noTakeover fresh
      | complete projectionId workerId => exact reportOn_noTakeover _ _ _ _
      | fail projectionId errorMessage maxRetries workerId now => exact reportOn_noTakeover _ _ _ _
      | reset sourceIds =>
          intro id job _ _ event mem
          simp only at mem
          split at mem
          · rw [List.mem_singleton.mp mem]
            rfl
          · cases mem

variable {gemini} in
theorem embeddingEvents_noTakeover {db : Db C} {op : EmbeddingOp V} (fresh : op.Fresh db) :
    NoTakeover (embeddingEvents gemini db op) db.outbox := by
  unfold embeddingEvents
  cases embeddingTransaction gemini db op with
  | error e => exact silent_noTakeover _
  | ok result =>
      obtain ⟨answer, db'⟩ := result
      cases op with
      | complete outboxId workerId clock => exact reportOn_noTakeover _ _ _ _
      | run op =>
          cases op with
          | upsertCard card supplied now => exact silent_noTakeover _
          | insertChunk insertOnly chunk supplied now => exact silent_noTakeover _
          | claim claim => exact claimEvents_noTakeover fresh
          | renew outboxId workerId leaseSeconds clock => exact silent_noTakeover _
          | skipStale report clock =>
              simp only [answeredEvents]
              split
              · exact reportOn_noTakeover _ _ _ _
              · exact silent_noTakeover _
          | casUpdate report vector clock => exact reportOn_noTakeover _ _ _ _
          | markFailed outboxId errorMessage maxRetries workerId now clock => exact reportOn_noTakeover _ _ _ _

end Machines

/-! ### Silent workers -/

/-- A job fails once and is then reported done. -/
def retriedOps : List (EmbeddingOp (List Int)) :=
  [.run (putChunk "first" 'a'), .run (claimBy "one" 1), .run (.markFailed 1 "embedding_failed" 5 "one" 2000000 2000000),
    .run (claimBy "two" 60), .complete 1 "two" 61000000]

/-- Six workers claim a job one after the other, and none of them reports. -/
def silentOps : List (EmbeddingOp (List Int)) :=
  .run (putChunk "first" 'a') ::
    [("one", 1), ("two", 60), ("three", 120), ("four", 180), ("five", 240), ("six", 300)].map
      fun claim => .run (claimBy claim.1 claim.2)

end Neurons.Outbox
