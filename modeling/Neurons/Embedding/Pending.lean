import Neurons.Embedding.Ready

/-! # Pending rows

Under the local profile every write of a parent enqueues it, so a pending row for the
parent's current hashes has an active job. Two steps can leave one without: an enqueue
that finds a dead letter of its own work although the derived row has moved on, and a
dead letter that is put back over a row for another input.
-/

namespace Neurons.Embedding

open Neurons.Lib
open Neurons.Source

variable {V C : Type}

/-! ## Conditions -/

/-- The request is for work that has only a dead letter, and its row comes out pending. -/
def Request.Revives (host : Host V C) (request : Request) (db : Db C) : Prop :=
  ∃ inputHash ∈ (computeInputHash host request.payloadText).toOption,
    (∃ entry ∈ db.outbox.entries, entry.2.status = .deadLetter ∧
      entry.2.IsFor request.target request.sourceHash inputHash (db.incarnation request.target)) ∧
    (renewDerived (db.derived.get? request.target) request.sourceHash inputHash).state = .pending

/-- No request of the operation revives a dead letter, in the tables it comes to. -/
def Op.RevivesNone (host : Host V C) (db : Db C) (op : Op V) : Prop :=
  ∀ mid reached now before request after, SameTables db mid →
    requestsOf host db op = before ++ request :: after → EnqueuedAll host now before mid reached →
    ¬ request.Revives host reached

/-- The failed row of a target has the input hash of the dead letter that is put back. -/
def Db.Owns (db : Db C) (job : Job) : Prop :=
  ∀ row ∈ db.derived.get? job.target, row.sourceContentHash = job.sourceContentHash →
    row.state ≠ .ready → row.state ≠ .pending → row.inputHash = job.inputHash

/-- Dead letters are put back only over rows of their own. -/
def Op.RequeuesOwn (db : Db C) : Op V → Prop
  | .requeue targetIds allowed => ∀ entry ∈ db.outbox.entries,
      entry.2.Requeueable (allowed.filter (· ≠ "")) (targetIds.map (·.filter (· ≠ ""))) →
      db.Owns entry.2
  | _ => True

/-- The operations that leave no parent without an enqueue. -/
def Op.Tends : Op V → Bool
  | .insertChunk _ _ => false
  | _ => true

/-! ## The invariant -/

/-- Every active job is for the current life and content of its target, every row has its
    parent, and every pending row for the parent's hashes has an active job; the content of
    one target may be newer than its jobs and its row. -/
structure Tended (host : Host V C) (except : Option Target) (db : Db C) : Prop where
  marked : ∀ outboxId job, db.outbox.get? outboxId = some job → db.tombstones.get? job.target ≠ none
  living : ∀ outboxId job, db.outbox.get? outboxId = some job → job.status.active →
    db.tombstones.get? job.target = some ⟨job.incarnation, none⟩
  parents : ∀ outboxId job, db.outbox.get? outboxId = some job → job.status.active →
    except ≠ some job.target → db.contentHash? job.target = some job.sourceContentHash
  rooted : ∀ target row, db.derived.get? target = some row → except ≠ some target →
    db.contentHash? target ≠ none
  covered : ∀ target row, db.derived.get? target = some row → row.state = .pending →
    except ≠ some target → db.CurrentHashes host target row.sourceContentHash row.inputHash →
    ∃ outboxId job, db.outbox.get? outboxId = some job ∧ job.status.active ∧
      job.IsFor target row.sourceContentHash row.inputHash (db.incarnation target)

section Steps

variable {host : Host V C} {db db' : Db C}

theorem Tended.empty : Tended host none (Db.empty : Db C) where
  marked _ _ found := by simp [Db.empty] at found
  living _ _ found := by simp [Db.empty] at found
  parents _ _ found := by simp [Db.empty] at found
  rooted _ _ found := by simp [Db.empty] at found
  covered _ _ found := by simp [Db.empty] at found

theorem SameParents.currentHashes (same : SameParents db db') {target : Target}
    {sourceHash inputHash : String} :
    db'.CurrentHashes host target sourceHash inputHash ↔
      db.CurrentHashes host target sourceHash inputHash := by
  unfold Db.CurrentHashes
  rw [same.contentHash?, same.canonicalInput?]

theorem Db.incarnation_eq (same : db'.tombstones = db.tombstones) (target : Target) :
    db'.incarnation target = db.incarnation target := by
  unfold Db.incarnation
  rw [same]

theorem Tended.incarnation {except : Option Target} (tended : Tended host except db) {outboxId : ℕ}
    {job : Job} (found : db.outbox.get? outboxId = some job) (active : job.status.active) :
    db.incarnation job.target = job.incarnation := by
  simp [Db.incarnation, tended.living outboxId job found active]

/-- One job is written, with what that does to the derived rows. -/
theorem Tended.of_set (tended : Tended host none db) {outboxId : ℕ} {job job' : Job}
    (found : db.outbox.get? outboxId = some job) (same : db'.outbox = db.outbox.set outboxId job')
    (work : SameWork job job') (parents : SameParents db db') (tombstones : db'.tombstones = db.tombstones)
    (kept : job'.status.active → db.tombstones.get? job.target = some ⟨job.incarnation, none⟩ ∧
      db.contentHash? job.target = some job.sourceContentHash)
    (rooted : ∀ target row, db'.derived.get? target = some row → db.contentHash? target ≠ none)
    (pending : ∀ target row, db'.derived.get? target = some row → row.state = .pending →
      db.CurrentHashes host target row.sourceContentHash row.inputHash →
      (db.derived.get? target = some row ∧
        (job.IsFor target row.sourceContentHash row.inputHash (db.incarnation target) →
          job.status.active → job'.status.active)) ∨
      job'.status.active ∧
        job.IsFor target row.sourceContentHash row.inputHash (db.incarnation target)) :
    Tended host none db' := by
  have lookup (id : ℕ) (stored : Job) (foundId : db'.outbox.get? id = some stored) :
      id = outboxId ∧ stored = job' ∨ id ≠ outboxId ∧ db.outbox.get? id = some stored := by
    rw [same, Table.get?_set] at foundId
    split at foundId
    · next here =>
        cases foundId
        exact .inl ⟨here, rfl⟩
    · next other => exact .inr ⟨other, foundId⟩
  constructor
  · intro id stored foundId
    rw [tombstones]
    rcases lookup id stored foundId with ⟨-, rfl⟩ | ⟨-, was⟩
    · rw [work.target]
      exact tended.marked outboxId job found
    · exact tended.marked id stored was
  · intro id stored foundId active
    rw [tombstones]
    rcases lookup id stored foundId with ⟨-, rfl⟩ | ⟨-, was⟩
    · rw [work.target, work.incarnation]
      exact (kept active).1
    · exact tended.living id stored was active
  · intro id stored foundId active _
    rw [parents.contentHash?]
    rcases lookup id stored foundId with ⟨-, rfl⟩ | ⟨-, was⟩
    · rw [work.target, work.source]
      exact (kept active).2
    · exact tended.parents id stored was active (by simp)
  · intro target row held _
    rw [parents.contentHash?]
    exact rooted target row held
  · intro target row held isPending _ current
    rw [parents.currentHashes] at current
    rw [Db.incarnation_eq tombstones]
    have written : db'.outbox.get? outboxId = some job' := by rw [same, Table.get?_set_self]
    rcases pending target row held isPending current with ⟨was, still⟩ | ⟨active, isFor⟩
    · obtain ⟨id, worker, foundWorker, active, isFor⟩ :=
        tended.covered target row was isPending (by simp) current
      by_cases here : id = outboxId
      · subst here
        rw [found, Option.some.injEq] at foundWorker
        subst foundWorker
        exact ⟨id, job', written, still isFor active, work.isFor.mpr isFor⟩
      · exact ⟨id, worker, by rw [same, Table.get?_set, if_neg here, foundWorker], active, isFor⟩
    · exact ⟨outboxId, job', written, active, work.isFor.mpr isFor⟩

/-- A job that stays active, over the same rows. -/
theorem Tended.of_active (tended : Tended host none db) {outboxId : ℕ} {job job' : Job}
    (found : db.outbox.get? outboxId = some job) (was : job.status.active) (work : SameWork job job')
    (active : job'.status.active) : Tended host none (db.setJob outboxId job') :=
  tended.of_set found rfl work ⟨rfl, rfl⟩ rfl
    (fun _ => ⟨tended.living outboxId job found was, tended.parents outboxId job found was (by simp)⟩)
    (fun target row held => tended.rooted target row held (by simp))
    (fun _ _ held _ _ => .inl ⟨held, fun _ _ => active⟩)

theorem Tended.not_outlived {except : Option Target} (tended : Tended host except db) {outboxId : ℕ}
    {job : Job} (found : db.outbox.get? outboxId = some job) (active : job.status.active) :
    ¬ db.Outlived job := by
  rintro ⟨tombstone, held, outlives⟩
  rw [tended.living outboxId job found active, Option.mem_def, Option.some.injEq] at held
  subst held
  rcases outlives with deleted | other
  · exact deleted rfl
  · exact other rfl

/-- The row of one target is written and is not pending. -/
theorem get?_set_pending {target other : Target} {new row : Derived C}
    (held : (db.derived.set target new).get? other = some row) (isPending : row.state = .pending)
    (done : new.state ≠ .pending) : other ≠ target ∧ db.derived.get? other = some row := by
  rw [Table.get?_set] at held
  split at held
  · cases held
    exact absurd isPending done
  · next apart => exact ⟨apart, held⟩

theorem Tended.rooted_set (tended : Tended host none db) {target : Target} {new : Derived C}
    (parent : db.contentHash? target ≠ none) {other : Target} {row : Derived C}
    (held : (db.derived.set target new).get? other = some row) : db.contentHash? other ≠ none := by
  rw [Table.get?_set] at held
  split at held
  · next same => exact same ▸ parent
  · exact tended.rooted other row held (by simp)

theorem LeaseOutcome.tended {claim : Claim} {outboxId : ℕ} {leased : Option (ℕ × Job)}
    (outcome : LeaseOutcome claim outboxId db leased db') (tended : Tended host none db) :
    Tended host none db' := by
  cases outcome with
  | passed => exact tended
  | outlived found claimable concluded => exact absurd concluded (tended.not_outlived found claimable.active)
  | skipped found claimable changed =>
      exact absurd (tended.parents outboxId _ found claimable.active (by simp)) changed
  | leased found claimable unspent =>
      exact tended.of_active found claimable.active ⟨rfl, rfl, rfl, rfl, rfl⟩ rfl
  | exhausted found claimable spent parent =>
      refine tended.of_set found rfl ⟨rfl, rfl, rfl, rfl, rfl⟩ ⟨rfl, rfl⟩ rfl
        (fun active => by cases active) (fun target row held => tended.rooted_set parent held)
        (fun target row held isPending current => ?_)
      obtain ⟨apart, was⟩ := get?_set_pending held isPending (by simp)
      exact .inl ⟨was, fun isFor => absurd isFor.1.symm apart⟩

theorem LeasedAll.tended {claim : Claim} {tried : List ℕ} {jobs : List (ℕ × Job)}
    (all : LeasedAll claim tried jobs db db') (tended : Tended host none db) : Tended host none db' := by
  induction all with
  | nil db => exact tended
  | cons first later ih => exact ih (first.tended tended)

theorem canonicalInput?_none {target : Target} (gone : canonicalInput? host db target = none) :
    db.contentHash? target = none := by
  cases target <;> simpa [canonicalInput?, Db.contentHash?] using gone

theorem WriteBackOutcome.tended {outboxId : ℕ} {job : Job} {column : C} {done : Bool}
    (outcome : WriteBackOutcome host outboxId job column db done db')
    (found : db.outbox.get? outboxId = some job) (running : job.status = .processing)
    (tended : Tended host none db) : Tended host none db' := by
  have active : job.status.active := by
    rw [running]
    rfl
  have parent := tended.parents outboxId job found active (by simp)
  cases outcome with
  | outlived concluded => exact absurd concluded (tended.not_outlived found active)
  | orphaned gone => simp [canonicalInput?_none gone] at parent
  | skipped input changed =>
      refine tended.of_set found rfl ⟨rfl, rfl, rfl, rfl, rfl⟩ ⟨rfl, rfl⟩ rfl
        (fun active => by cases active) (fun target row held => tended.rooted target row held (by simp))
        (fun target row held _ current => .inl ⟨held, fun isFor => ?_⟩)
      obtain ⟨rfl, source, hash, -⟩ := isFor
      -- the job that is given up is not for the parent's current hashes
      rcases changed with otherSource | otherInput
      · exact absurd parent otherSource
      · have currentInput := current.2
        rw [input, Option.map_some, Option.some.injEq, ← hash] at currentInput
        exact absurd currentInput otherInput
  | written input source same =>
      refine tended.of_set found rfl ⟨rfl, rfl, rfl, rfl, rfl⟩ ⟨rfl, rfl⟩ rfl
        (fun active => by cases active)
        (fun target row held => tended.rooted_set (by simp [source]) held)
        (fun target row held isPending current => ?_)
      obtain ⟨apart, was⟩ := get?_set_pending held isPending (by simp)
      exact .inl ⟨was, fun isFor => absurd isFor.1.symm apart⟩

/-- A row after `markDerived` is as it was, or it was marked. -/
theorem markDerived_eq_some {target other : Target} {state : DerivedState} {matching : Derived C → Bool}
    {derived : Table Target (Derived C)} {row : Derived C}
    (held : (markDerived target state matching derived).get? other = some row) :
    (derived.get? other = some row ∧
      (other = target → ¬ (matching row = true ∧ row.state ≠ .ready))) ∨
    ∃ old, other = target ∧ derived.get? other = some old ∧ matching old = true ∧ old.state ≠ .ready ∧
      row = { old with state } := by
  unfold markDerived at held
  split at held
  · next gone => exact .inl ⟨held, fun same => by simp [same, gone] at held⟩
  · next old foundOld =>
      split at held
      · next marks =>
          simp only [Bool.and_eq_true, decide_eq_true_eq] at marks
          rw [Table.get?_set] at held
          split at held
          · next same =>
              cases held
              exact .inr ⟨old, same, same ▸ foundOld, marks.1, marks.2, rfl⟩
          · next apart => exact .inl ⟨held, fun same => absurd same apart⟩
      · next unmarked =>
          refine .inl ⟨held, fun same => ?_⟩
          rw [same, foundOld, Option.some.injEq] at held
          subst held
          simpa only [Bool.and_eq_true, decide_eq_true_eq] using unmarked

theorem Tended.rooted_mark (tended : Tended host none db) {target other : Target}
    {state : DerivedState} {matching : Derived C → Bool} {row : Derived C}
    (held : (markDerived target state matching db.derived).get? other = some row) :
    db.contentHash? other ≠ none := by
  rcases markDerived_eq_some held with ⟨was, -⟩ | ⟨old, -, was, -⟩
  · exact tended.rooted other row was (by simp)
  · exact tended.rooted other old was (by simp)

theorem Failed.tended {outboxId : ℕ} {job : Job} {error : String} {retryable : Bool}
    {maxRetries now : Int} (failed : Failed outboxId job error retryable maxRetries now db db')
    (found : db.outbox.get? outboxId = some job) (running : job.status = .processing)
    (tended : Tended host none db) : Tended host none db' := by
  have active : job.status.active := by
    rw [running]
    rfl
  have derived := failed.derived
  refine tended.of_set found failed.outbox ⟨rfl, rfl, rfl, rfl, rfl⟩ failed.parents failed.tombstones
    (fun _ => ⟨tended.living outboxId job found active, tended.parents outboxId job found active (by simp)⟩)
    (fun target row held => ?_) (fun target row held isPending _ => ?_)
  · rw [derived] at held
    split at held
    · exact tended.rooted_mark held
    · exact tended.rooted target row held (by simp)
  · rw [derived] at held
    split at held
    · next dead =>
        rcases markDerived_eq_some held with ⟨was, unmarked⟩ | ⟨old, -, -, -, -, rfl⟩
        · refine .inl ⟨was, fun isFor => absurd ?_ (unmarked isFor.1.symm)⟩
          exact ⟨by simp [isFor.2.1, isFor.2.2.1], by simp [isPending]⟩
        · cases isPending
    · next alive =>
        refine .inl ⟨held, fun _ _ => ?_⟩
        simp only [Job.fail] at alive ⊢
        split <;> simp_all [JobStatus.active]

theorem RequeueOutcome.tended {outboxId : ℕ} {done : Bool} (outcome : RequeueOutcome outboxId db done db')
    (owns : ∀ job, db.outbox.get? outboxId = some job → db.Owns job) (tended : Tended host none db) :
    Tended host none db' := by
  cases outcome with
  | passed => exact tended
  | @requeued job found dead living parent alone =>
      have life : db.tombstones.get? job.target = some ⟨job.incarnation, none⟩ := by
        obtain ⟨tombstone, held⟩ := Option.ne_none_iff_exists'.mp (tended.marked outboxId job found)
        have current : ¬ tombstone.Outlives job.incarnation := fun outlives =>
          living ⟨tombstone, held, outlives⟩
        simp only [Tombstone.Outlives, not_or, not_not] at current
        rw [held, ← current.1, ← current.2]
      refine tended.of_set found rfl ⟨rfl, rfl, rfl, rfl, rfl⟩ ⟨rfl, rfl⟩ rfl
        (fun _ => ⟨life, parent⟩) (fun target row held => tended.rooted_mark held)
        (fun target row held isPending _ => ?_)
      rcases markDerived_eq_some held with ⟨was, -⟩ | ⟨old, rfl, was, source, unready, rfl⟩
      · exact .inl ⟨was, fun _ active => by simp [dead, JobStatus.active] at active⟩
      · have sourceEq : old.sourceContentHash = job.sourceContentHash := by simpa using source
        by_cases already : old.state = .pending
        · refine .inl ⟨?_, fun _ active => by simp [dead, JobStatus.active] at active⟩
          rw [was, ← already]
        · have inputEq := owns job found old was sourceEq unready already
          exact .inr ⟨rfl, rfl, sourceEq.symm, inputEq.symm, by simp [Db.incarnation, life]⟩

/-- Putting a dead letter back keeps the rows of the others their own. -/
theorem RequeueOutcome.owns {outboxId : ℕ} {done : Bool} (outcome : RequeueOutcome outboxId db done db')
    {job : Job} (owns : db.Owns job) : db'.Owns job := by
  cases outcome with
  | passed => exact owns
  | requeued =>
      intro row held source unready unpending
      rcases markDerived_eq_some held with ⟨was, -⟩ | ⟨old, -, -, -, -, rfl⟩
      · exact owns row was source unready unpending
      · exact absurd rfl unpending

theorem RequeuedAll.tended {tried ids : List ℕ} (all : RequeuedAll tried ids db db')
    (owns : ∀ outboxId ∈ tried, ∀ job, db.outbox.get? outboxId = some job → db.Owns job)
    (tended : Tended host none db) : Tended host none db' := by
  induction all with
  | nil db => exact tended
  | @cons outboxId _ _ _ _ _ _ first later ih =>
      refine ih (fun other mem job found => ?_) (first.tended (owns outboxId (by simp)) tended)
      by_cases apart : other = outboxId
      · subst apart
        cases first with
        | passed => exact owns other (by simp) job found
        | @requeued old foundOld dead living parent alone =>
            have own := owns other (by simp) old foundOld
            have outcome : RequeueOutcome other _ true _ := .requeued foundOld dead living parent alone
            simp only [Db.setJob, Table.get?_set_self, Option.some.injEq] at found
            subst found
            exact outcome.owns own
      · rw [first.others apart] at found
        exact first.owns (owns other (List.mem_cons_of_mem _ mem) job found)

theorem Deleted.tended {target : Target} {now : Int} (deleted : Deleted host target now db db')
    (tended : Tended host none db) : Tended host none db' := by
  have lookup (id : ℕ) (job : Job) (found : db'.outbox.get? id = some job) :
      ∃ old, db.outbox.get? id = some old ∧ cancelDeleted target old = job := by
    rw [deleted.outbox, Table.get?_mapValues, Option.map_eq_some_iff] at found
    exact found
  -- an active job is of another target, and is as it was
  have active (id : ℕ) (job : Job) (found : db'.outbox.get? id = some job) (alive : job.status.active) :
      job.target ≠ target ∧ db.outbox.get? id = some job := by
    obtain ⟨old, was, rfl⟩ := lookup id job found
    unfold cancelDeleted at alive ⊢
    split at alive
    · cases alive
    · next spared =>
        rw [if_neg spared]
        exact ⟨fun same => spared ⟨same, alive⟩, was⟩
  have tombstone (other : Target) (apart : other ≠ target) :
      db'.tombstones.get? other = db.tombstones.get? other := by
    rw [deleted.tombstones, Table.get?_set, if_neg apart]
  have row (other : Target) (row : Derived C) (held : db'.derived.get? other = some row) :
      other ≠ target ∧ db.derived.get? other = some row := by
    rw [deleted.derived, Table.get?_erase] at held
    split at held
    · cases held
    · next apart => exact ⟨apart, held⟩
  constructor
  · intro id job found
    obtain ⟨old, was, rfl⟩ := lookup id job found
    have sameTarget : (cancelDeleted target old).target = old.target := by
      unfold cancelDeleted
      split <;> rfl
    rw [sameTarget, deleted.tombstones, Table.get?_set]
    split
    · simp
    · exact tended.marked id old was
  · intro id job found alive
    obtain ⟨apart, was⟩ := active id job found alive
    rw [tombstone _ apart]
    exact tended.living id job was alive
  · intro id job found alive _
    obtain ⟨apart, was⟩ := active id job found alive
    rw [(deleted.others _ apart).1]
    exact tended.parents id job was alive (by simp)
  · intro other held found _
    obtain ⟨apart, was⟩ := row other held found
    rw [(deleted.others _ apart).1]
    exact tended.rooted other held was (by simp)
  · intro other held found isPending _ current
    obtain ⟨apart, was⟩ := row other held found
    have currentWas : db.CurrentHashes host other held.sourceContentHash held.inputHash := by
      unfold Db.CurrentHashes at current ⊢
      rwa [(deleted.others _ apart).1, (deleted.others _ apart).2] at current
    obtain ⟨id, job, foundJob, alive, isFor⟩ :=
      tended.covered other held was isPending (by simp) currentWas
    refine ⟨id, job, ?_, alive, ?_⟩
    · rw [deleted.outbox, Table.get?_mapValues, foundJob, Option.map_some, cancelDeleted,
        if_neg fun gone => apart (isFor.1.symm.trans gone.1)]
    · have sameLife : db'.incarnation other = db.incarnation other := by
        unfold Db.incarnation
        rw [tombstone _ apart]
      rw [sameLife]
      exact isFor

theorem Rewrote.tended {rewritten : Option Target} (rewrote : Rewrote host rewritten db db')
    (tended : Tended host none db) : Tended host rewritten db' := by
  obtain ⟨⟨derived, tombstones, outbox⟩, others⟩ := rewrote
  constructor
  · rw [outbox, tombstones]
    exact tended.marked
  · rw [outbox, tombstones]
    exact tended.living
  · intro id job found active apart
    rw [outbox] at found
    exact (others job.target apart _ (tended.parents id job found active (by simp))).1
  · intro target row held apart
    rw [derived] at held
    obtain ⟨hash, parent⟩ := Option.ne_none_iff_exists'.mp (tended.rooted target row held (by simp))
    simp [(others target apart hash parent).1]
  · intro target row held isPending apart current
    rw [derived] at held
    obtain ⟨hash, parent⟩ := Option.ne_none_iff_exists'.mp (tended.rooted target row held (by simp))
    obtain ⟨sameHash, sameInput⟩ := others target apart hash parent
    have currentWas : db.CurrentHashes host target row.sourceContentHash row.inputHash := by
      unfold Db.CurrentHashes at current ⊢
      rwa [sameHash, ← parent, sameInput] at current
    obtain ⟨id, job, found, active, isFor⟩ :=
      tended.covered target row held isPending (by simp) currentWas
    exact ⟨id, job, by rw [outbox, found], active, by rwa [Db.incarnation_eq tombstones]⟩

/-- An active job after an enqueue: the new one, or one that was active before and is not
    for other hashes of the target. -/
theorem Enqueued.active {target : Target} {sourceHash inputHash payloadText : String} {now : Int}
    (enqueued : Enqueued target sourceHash inputHash payloadText now db db') {id : ℕ} {job : Job}
    (found : db'.outbox.get? id = some job) (active : job.status.active) :
    (job.IsFor target sourceHash inputHash (db.incarnation target)) ∨
      db.outbox.get? id = some job ∧
        (job.target = target → job.sourceContentHash = sourceHash) := by
  have kept (was : (db.outbox.mapValues (cancelOthers target sourceHash inputHash)).get? id = some job) :
      db.outbox.get? id = some job ∧ (job.target = target → job.sourceContentHash = sourceHash) := by
    rw [Table.get?_mapValues, Option.map_eq_some_iff] at was
    obtain ⟨old, was, rfl⟩ := was
    unfold cancelOthers at active ⊢
    split at active
    · cases active
    · next spared =>
        rw [if_neg spared]
        refine ⟨was, fun same => ?_⟩
        by_contra other
        exact spared ⟨same, active, .inl other⟩
  rw [enqueued.outbox] at found
  rcases findOrInsert_cases target sourceHash inputHash payloadText (db.incarnation target) now
      (db.outbox.mapValues (cancelOthers target sourceHash inputHash)) with
    ⟨-, -, -, -, -, same⟩ | ⟨-, inserted⟩
  · rw [same] at found
    exact .inr (kept found)
  · rw [inserted, Table.get?_set] at found
    split at found
    · cases found
      exact .inl ⟨rfl, rfl, rfl, rfl⟩
    · exact .inr (kept found)

/-- A job of another target is untouched by an enqueue. -/
theorem Enqueued.others {target : Target} {sourceHash inputHash payloadText : String} {now : Int}
    (enqueued : Enqueued target sourceHash inputHash payloadText now db db') {id : ℕ} {job : Job}
    (found : db.outbox.get? id = some job) (apart : job.target ≠ target) :
    db'.outbox.get? id = some job := by
  have same : cancelOthers target sourceHash inputHash job = job :=
    if_neg fun other => apart other.1
  let cancelled := db.outbox.mapValues (cancelOthers target sourceHash inputHash)
  have kept : cancelled.get? id = some job := by simp [cancelled, found, same]
  rw [enqueued.outbox]
  rcases findOrInsert_cases target sourceHash inputHash payloadText (db.incarnation target) now
      cancelled with ⟨-, -, -, -, -, unchanged⟩ | ⟨-, inserted⟩
  · rw [unchanged, kept]
  · have unused := cancelled.get?_freshKey
    have other : id ≠ cancelled.freshKey := by
      rintro rfl
      simp [kept] at unused
    rw [inserted, Table.get?_set, if_neg other, kept]

/-- The target of an enqueue has active work, unless all there is is a dead letter. -/
theorem Enqueued.worked {target : Target} {sourceHash inputHash payloadText : String} {now : Int}
    (enqueued : Enqueued target sourceHash inputHash payloadText now db db')
    (alive : ∀ entry ∈ db.outbox.entries, entry.2.status = .deadLetter →
      ¬ entry.2.IsFor target sourceHash inputHash (db.incarnation target)) :
    ∃ id job, db'.outbox.get? id = some job ∧ job.status.active ∧
      job.IsFor target sourceHash inputHash (db.incarnation target) := by
  let cancelled := db.outbox.mapValues (cancelOthers target sourceHash inputHash)
  rcases findOrInsert_cases target sourceHash inputHash payloadText (db.incarnation target) now
      cancelled with ⟨id, job, found, still, isFor, unchanged⟩ | ⟨-, inserted⟩
  · refine ⟨id, job, by rw [enqueued.outbox, unchanged, found], ?_, isFor⟩
    rcases Job.open_iff.mp still with active | dead
    · exact active
    · rw [Table.get?_mapValues, Option.map_eq_some_iff] at found
      obtain ⟨old, was, rfl⟩ := found
      have same : cancelOthers target sourceHash inputHash old = old := by
        unfold cancelOthers at dead ⊢
        split at dead
        · cases dead
        · next spared => rw [if_neg spared]
      rw [same] at dead isFor
      exact absurd isFor (alive (id, old) (Table.mem_entries_iff.mpr was) dead)
  · exact ⟨cancelled.freshKey,
      newJob target sourceHash inputHash payloadText (db.incarnation target) now,
      by rw [enqueued.outbox, inserted, Table.get?_set_self], rfl, rfl, rfl, rfl, rfl⟩

theorem renewDerived_hashes (previous : Option (Derived C)) (sourceHash inputHash : String) :
    (renewDerived previous sourceHash inputHash).sourceContentHash = sourceHash ∧
      (renewDerived previous sourceHash inputHash).inputHash = inputHash := by
  unfold renewDerived
  split
  · exact ⟨rfl, rfl⟩
  · split
    · split <;> exact ⟨rfl, rfl⟩
    · exact ⟨rfl, rfl⟩

/-- A request that revives nothing finds no dead letter of its work under a pending row. -/
theorem Request.not_revives {request : Request} {inputHash : String}
    (hashed : computeInputHash host request.payloadText = .ok inputHash)
    (none : ¬ request.Revives host db)
    (isPending : (renewDerived (db.derived.get? request.target) request.sourceHash inputHash).state =
      .pending) : ∀ entry ∈ db.outbox.entries, entry.2.status = .deadLetter →
      ¬ entry.2.IsFor request.target request.sourceHash inputHash (db.incarnation request.target) :=
  fun entry mem dead isFor =>
    none ⟨inputHash, by rw [hashed]; rfl, ⟨entry, mem, dead, isFor⟩, isPending⟩

theorem Enqueued.tended {except : Option Target} {target : Target}
    {sourceHash inputHash payloadText : String} {now : Int}
    (enqueued : Enqueued target sourceHash inputHash payloadText now db db')
    (settles : except = none ∨ except = some target)
    (revives : (renewDerived (db.derived.get? target) sourceHash inputHash).state = .pending →
      ∀ entry ∈ db.outbox.entries, entry.2.status = .deadLetter →
        ¬ entry.2.IsFor target sourceHash inputHash (db.incarnation target))
    (tended : Tended host except db) : Tended host none db' := by
  have spared {other : Target} (apart : other ≠ target) : except ≠ some other := by
    rcases settles with rfl | rfl
    · simp
    · simpa using Ne.symm apart
  have tombstone (other : Target) : db'.tombstones.get? other =
      if other = target then some ⟨db.incarnation target, none⟩ else db.tombstones.get? other := by
    rw [enqueued.tombstones, Table.get?_set]
  have sameLife (other : Target) : db'.incarnation other = db.incarnation other := by
    unfold Db.incarnation
    rw [tombstone]
    split
    · next same =>
        subst same
        rfl
    · rfl
  constructor
  · intro id job found
    rw [tombstone]
    split
    · simp
    · next apart =>
        cases was : db.outbox.get? id with
        | none =>
            rw [enqueued.outbox] at found
            rcases findOrInsert_cases target sourceHash inputHash payloadText (db.incarnation target) now
                (db.outbox.mapValues (cancelOthers target sourceHash inputHash)) with
              ⟨-, -, -, -, -, same⟩ | ⟨-, inserted⟩
            · simp [same, was] at found
            · rw [inserted, Table.get?_set] at found
              split at found
              · cases found
                exact absurd rfl apart
              · simp [was] at found
        | some old =>
            have moves : Moves 0 _ db db' := enqueued.moves
            have work := (moves.before was found).sameWork
            rw [work.target]
            exact tended.marked id old was
  · intro id job found active
    rw [tombstone]
    rcases enqueued.active found active with ⟨rfl, -, -, life⟩ | ⟨was, -⟩
    · rw [if_pos rfl, life]
    · split
      · next same => rw [← same, tended.incarnation was active]
      · exact tended.living id job was active
  · intro id job found active _
    rw [enqueued.parents.contentHash?]
    rcases enqueued.active found active with ⟨rfl, source, -, -⟩ | ⟨was, sameSource⟩
    · rw [source, enqueued.parent]
    · by_cases same : job.target = target
      · rw [sameSource same, same, enqueued.parent]
      · exact tended.parents id job was active (spared same)
  · intro other row held _
    rw [enqueued.parents.contentHash?]
    rw [enqueued.derived, Table.get?_set] at held
    split at held
    · next same => simp [same, enqueued.parent]
    · next apart => exact tended.rooted other row held (spared apart)
  · intro other row held isPending _ current
    rw [enqueued.parents.currentHashes] at current
    rw [sameLife]
    rw [enqueued.derived, Table.get?_set] at held
    split at held
    · next same =>
        subst same
        cases held
        have hashes : (renewDerived (db.derived.get? other) sourceHash inputHash).sourceContentHash =
              sourceHash ∧
            (renewDerived (db.derived.get? other) sourceHash inputHash).inputHash = inputHash :=
          renewDerived_hashes _ _ _
        rw [hashes.1, hashes.2]
        exact enqueued.worked (revives isPending)
    · next apart =>
        obtain ⟨id, job, found, active, isFor⟩ :=
          tended.covered other row held isPending (spared apart) current
        exact ⟨id, job, enqueued.others found (isFor.1 ▸ apart), active, isFor⟩

theorem EnqueuedAll.tended {now : Int} {requests : List Request}
    (all : EnqueuedAll host now requests db db')
    (revives : ∀ before request after reached, requests = before ++ request :: after →
      EnqueuedAll host now before db reached → ¬ request.Revives host reached)
    (tended : Tended host none db) : Tended host none db' := by
  induction all with
  | nil db => exact tended
  | @cons request rest db mid db' inputHash hashed first later ih =>
      refine ih (fun before next after reached split done => ?_) ?_
      · exact revives (request :: before) next after reached (by rw [split]; rfl)
          (.cons hashed first done)
      · exact first.tended (.inl rfl)
          (Request.not_revives hashed (revives [] request rest db rfl (.nil db))) tended

theorem requireWhole_eq_ok {target : Target} {u : Unit} (done : requireWhole target = .ok u) :
    target.stored = target := by
  rwa [requireWhole, refuseIf_eq_ok, not_not] at done

/-- Under the local profile a rewritten parent is enqueued in the same transaction. -/
theorem requestsOf_rewrites {op : Op V} {answer : Answer} {target : Target}
    (profile : host.lib.localProfile = true) (tends : op.Tends) (rewrites : op.rewrites = some target)
    (done : transaction host op db = .ok (answer, db')) :
    ∃ request, requestsOf host db op = [request] ∧ request.target = target := by
  cases op with
  | upsertCard card now =>
      simp only [transaction, upsertCard, enqueueCard, profile, if_true, bind_eq_ok] at done
      obtain ⟨_, ⟨⟨⟩, -, _, -, _, ⟨⟨⟩, whole, payloadText, input, -⟩, -⟩, -⟩ := done
      refine ⟨⟨.card card.memoryId, card.contentHash, payloadText⟩, ?_, ?_⟩
      · simp [requestsOf, cardRequest, profile, input]
      · rw [← Option.some.inj rewrites, requireWhole_eq_ok whole]
  | insertChunkWithLocalOutbox insertOnly chunk now =>
      simp only [transaction, insertChunkWithLocalOutbox, bind_eq_ok] at done
      obtain ⟨_, ⟨normalized, normal, _, -, ⟨⟩, whole, -⟩, -⟩ := done
      refine ⟨⟨.chunk normalized.chunkId, normalized.contentHash, normalized.contentMarkdown⟩, ?_, ?_⟩
      · simp [requestsOf, chunkRequest, normal]
      · rw [← Option.some.inj rewrites, ← normalizeChunk_chunkId normal, requireWhole_eq_ok whole]
  | insertChunk => cases tends
  | steward | enqueue | deleteCard | deleteSessionChunk | claim | renew | complete | markFailed
  | requeue => cases rewrites

theorem wrote_tended {op : Op V} {answer : Answer} {now : Int} {mid : Db C}
    (profile : host.lib.localProfile = true) (tends : op.Tends)
    (done : transaction host op db = .ok (answer, db')) (rewrote : Rewrote host op.rewrites db mid)
    (enqueued : EnqueuedAll host now (requestsOf host db op) mid db') (revives : op.RevivesNone host db)
    (tended : Tended host none db) : Tended host none db' := by
  have written := rewrote.tended tended
  cases rewrites : op.rewrites with
  | none =>
      rw [rewrites] at written
      exact enqueued.tended (fun before request after reached split reach =>
        revives mid reached now before request after rewrote.tables split reach) written
  | some target =>
      obtain ⟨request, only, here⟩ := requestsOf_rewrites profile tends rewrites done
      have fresh := revives mid mid now [] request [] rewrote.tables only (.nil mid)
      rw [only] at enqueued
      cases enqueued with
      | cons hashed first later =>
          cases later
          rw [rewrites, ← here] at written
          exact first.tended (.inr rfl) (Request.not_revives hashed fresh) written

theorem Tended.next {op : Op V} (profile : host.lib.localProfile = true) (tends : op.Tends)
    (revives : op.RevivesNone host db) (own : op.RequeuesOwn db) (tended : Tended host none db) :
    Tended host none (step host db op) := by
  rcases step_cases op db with same | ⟨answer, done, committed⟩
  · exact same.symm ▸ tended
  · generalize step host db op = db' at done committed
    cases committed with
    | wrote writes rewrote enqueued =>
        exact wrote_tended profile tends done rewrote enqueued revives tended
    | deleted deletes deleted => exact deleted.tended tended
    | leased distinct all => exact all.tended tended
    | unrenewed => exact tended
    | renewed found held =>
        have active := held.running
        exact tended.of_active found (by rw [active]; rfl) ⟨rfl, rfl, rfl, rfl, rfl⟩ (by
          simp only [active]
          rfl)
    | reported literal found held outcome => exact outcome.tended found held.running tended
    | failed found held failed => exact failed.tended found held.running tended
    | requeued wanted all =>
        refine all.tended (fun outboxId mem job found => ?_) tended
        obtain ⟨stored, foundStored, requeueable⟩ := wanted outboxId mem
        rw [found, Option.some.injEq] at foundStored
        subst foundStored
        exact own (outboxId, job) (Table.mem_entries_iff.mpr found) requeueable

end Steps

/-! ## Runs -/

/-- Where there is no dead letter, a single request revives none. -/
theorem Op.revivesNone_of_alive {host : Host V C} {db : Db C} {op : Op V}
    (few : (requestsOf host db op).length ≤ 1)
    (alive : ∀ entry ∈ db.outbox.entries, entry.2.status ≠ .deadLetter) : op.RevivesNone host db := by
  rintro mid reached now before request after tables split done ⟨_, -, ⟨entry, mem, dead, -⟩, -⟩
  cases before with
  | cons first rest =>
      rw [split] at few
      simp at few
  | nil =>
      cases done
      rw [tables.outbox] at mem
      exact alive entry mem dead

end Neurons.Embedding
