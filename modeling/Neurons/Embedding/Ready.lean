import Neurons.Embedding.Search

/-! # Ready vectors

A ready row for the parent's current hashes is kept by every operation but two kinds:
an enqueue of another text for the same parent, and a claim that finds the last lease
of a second job of the parent run out.
-/

namespace Neurons.Embedding

open Neurons.Lib
open Neurons.Source

variable {V C : Type}

/-! ## Conditions -/

/-- The hashes of the parent as it stands. -/
def Db.CurrentHashes (host : Host V C) (db : Db C) (target : Target) (sourceHash inputHash : String) :
    Prop :=
  db.contentHash? target = some sourceHash ∧
    (canonicalInput? host db target).map (inputHashOf host) = some inputHash

instance (host : Host V C) (db : Db C) (target : Target) (sourceHash inputHash : String) :
    Decidable (db.CurrentHashes host target sourceHash inputHash) := by
  unfold Db.CurrentHashes
  infer_instance

/-- Every text enqueued for the target has the input hash. -/
def Op.EnqueuesOnly (host : Host V C) (target : Target) (inputHash : String) (db : Db C) (op : Op V) :
    Prop :=
  ∀ request ∈ requestsOf host db op, request.target = target →
    ∀ hash ∈ (computeInputHash host request.payloadText).toOption, hash = inputHash

instance (host : Host V C) (target : Target) (inputHash : String) (db : Db C) (op : Op V) :
    Decidable (op.EnqueuesOnly host target inputHash db) := by
  unfold Op.EnqueuesOnly
  infer_instance

/-- No claim gives up on a job of the target: none of its leases that ran out was the
    last one of the budget. -/
def Op.GivesUpNone (target : Target) (db : Db C) : Op V → Prop
  | .claim call => ∀ entry ∈ db.outbox.entries, entry.2.target = target →
      entry.2.Claimable call.maxRetries (call.clock entry.1) → ¬ entry.2.Exhausted call.maxRetries
  | _ => True

instance (target : Target) (db : Db C) (op : Op V) : Decidable (op.GivesUpNone target db) := by
  cases op <;> unfold Op.GivesUpNone <;> infer_instance

/-- Every completion of a job of the target brings the vector of the row. -/
def Op.Brings (host : Host V C) (target : Target) (column : C) (db : Db C) : Op V → Prop
  | .complete outboxId _ _ vector _ => ∀ job, db.outbox.get? outboxId = some job →
      job.target = target → ∀ brought, host.localVector vector = .ok brought → brought = column
  | _ => True

/-! ## Steps -/

section Steps

variable {host : Host V C} {db db' : Db C} {target : Target} {sourceHash inputHash : String}
  {column : C}

/-- The row of the target is ready for these hashes. -/
def Db.Ready (db : Db C) (target : Target) (sourceHash inputHash : String) (column : C) : Prop :=
  db.derived.get? target = some ⟨sourceHash, inputHash, some column, .ready⟩

theorem Enqueued.ready {other : Target} {otherSource otherInput payloadText : String} {now : Int}
    (enqueued : Enqueued other otherSource otherInput payloadText now db db')
    (parent : other = target → otherSource = sourceHash) (input : other = target → otherInput = inputHash)
    (ready : db.Ready target sourceHash inputHash column) :
    db'.Ready target sourceHash inputHash column := by
  unfold Db.Ready at ready ⊢
  rw [enqueued.derived, Table.get?_set]
  split
  · next same =>
      rw [← same, ready, parent same.symm, input same.symm]
      simp [renewDerived]
  · exact ready

theorem EnqueuedAll.ready {now : Int} {requests : List Request}
    (all : EnqueuedAll host now requests db db') (source : db.contentHash? target = some sourceHash)
    (only : ∀ request ∈ requests, request.target = target →
      ∀ hash ∈ (computeInputHash host request.payloadText).toOption, hash = inputHash)
    (ready : db.Ready target sourceHash inputHash column) :
    db'.Ready target sourceHash inputHash column := by
  induction all with
  | nil db => exact ready
  | @cons request _ _ _ _ hash hashed first later ih =>
      have kept := first.ready (fun same => by
          have parent := first.parent
          rw [same, source, Option.some.injEq] at parent
          exact parent.symm)
        (fun same => only request (by simp) same hash (by rw [hashed]; rfl)) ready
      exact ih (by rw [first.parents.contentHash?, source])
        (fun request mem => only request (List.mem_cons_of_mem _ mem)) kept

theorem markDerived_ready {other : Target} {state : DerivedState} {matching : Derived C → Bool}
    {derived : Table Target (Derived C)} {row : Derived C} (held : derived.get? target = some row)
    (ready : row.state = .ready) : (markDerived other state matching derived).get? target = some row := by
  unfold markDerived
  split
  · exact held
  · next found foundRow =>
      split
      · next marks =>
          have other : target ≠ other := by
            rintro rfl
            rw [held, Option.some.injEq] at foundRow
            subst foundRow
            simp [ready] at marks
          rw [Table.get?_set, if_neg other, held]
      · exact held

theorem LeaseOutcome.ready {claim : Claim} {outboxId : ℕ} {leased : Option (ℕ × Job)}
    (outcome : LeaseOutcome claim outboxId db leased db')
    (spared : ∀ job, db.outbox.get? outboxId = some job → job.target = target →
      job.Claimable claim.maxRetries (claim.clock outboxId) → ¬ job.Exhausted claim.maxRetries)
    (ready : db.Ready target sourceHash inputHash column) :
    db'.Ready target sourceHash inputHash column := by
  cases outcome with
  | passed | outlived | skipped | leased => exact ready
  | exhausted found claimable spent =>
      have other : target ≠ _ := fun same => spared _ found same.symm claimable spent
      unfold Db.Ready at ready ⊢
      rw [← ready]
      simp only [Table.get?_set, if_neg other]

theorem LeasedAll.ready {claim : Claim} {tried : List ℕ} {jobs : List (ℕ × Job)}
    (all : LeasedAll claim tried jobs db db') (distinct : tried.Nodup)
    (spared : ∀ outboxId ∈ tried, ∀ job, db.outbox.get? outboxId = some job → job.target = target →
      job.Claimable claim.maxRetries (claim.clock outboxId) → ¬ job.Exhausted claim.maxRetries)
    (ready : db.Ready target sourceHash inputHash column) :
    db'.Ready target sourceHash inputHash column := by
  induction all with
  | nil db => exact ready
  | @cons outboxId _ _ _ _ _ _ first later ih =>
      obtain ⟨absent, distinct⟩ := List.nodup_cons.mp distinct
      refine ih distinct (fun other mem job found => ?_) (first.ready (spared outboxId (by simp)) ready)
      have apart : other ≠ outboxId := by
        rintro rfl
        exact absent mem
      rw [first.others apart] at found
      exact spared other (List.mem_cons_of_mem _ mem) job found

theorem RequeuedAll.ready {tried ids : List ℕ} (all : RequeuedAll tried ids db db')
    (ready : db.Ready target sourceHash inputHash column) :
    db'.Ready target sourceHash inputHash column := by
  induction all with
  | nil db => exact ready
  | cons first later ih =>
      refine ih ?_
      cases first with
      | passed => exact ready
      | requeued => exact markDerived_ready ready rfl

/-- A completion leaves the row ready, with its own vector if it is of the target. -/
theorem WriteBackOutcome.ready {outboxId : ℕ} {job : Job} {brought : C} {done : Bool}
    (outcome : WriteBackOutcome host outboxId job brought db done db')
    (current : db.CurrentHashes host target sourceHash inputHash)
    (ready : db.Ready target sourceHash inputHash column) :
    db'.Ready target sourceHash inputHash column ∨
      job.target = target ∧ db'.Ready target sourceHash inputHash brought := by
  cases outcome with
  | outlived | orphaned | skipped => exact .inl ready
  | written input source same =>
      by_cases here : target = job.target
      · refine .inr ⟨here.symm, ?_⟩
        have sourceEq := current.1
        have inputEq := current.2
        rw [here, source, Option.some.injEq] at sourceEq
        rw [here, input, Option.map_some, Option.some.injEq, same] at inputEq
        rw [Db.Ready, here, sourceEq, inputEq]
        exact Table.get?_set_self _ _ _
      · refine .inl ?_
        unfold Db.Ready at ready ⊢
        rw [← ready]
        simp only [Table.get?_set, if_neg here]

/-- One step that leaves the parent's hashes as they are. -/
theorem step_ready {op : Op V} (current : db.CurrentHashes host target sourceHash inputHash)
    (still : (step host db op).CurrentHashes host target sourceHash inputHash)
    (only : op.EnqueuesOnly host target inputHash db) (spared : op.GivesUpNone target db)
    (ready : db.Ready target sourceHash inputHash column) :
    ∃ column', (step host db op).Ready target sourceHash inputHash column' ∧
      (op.Brings host target column db → column' = column) := by
  rcases step_cases op db with same | ⟨answer, -, committed⟩
  · exact ⟨column, same.symm ▸ ready, fun _ => rfl⟩
  · generalize step host db op = db' at still committed
    cases committed with
    | wrote writes rewrote enqueued =>
        refine ⟨column, enqueued.ready ?_ only ?_, fun _ => rfl⟩
        · rw [← enqueued.sameParents.contentHash?]
          exact still.1
        · unfold Db.Ready
          rw [rewrote.tables.derived]
          exact ready
    | @deleted _ gone _ _ deletes deleted =>
        have other : target ≠ gone := by
          rintro rfl
          simp [Db.CurrentHashes, deleted.gone] at still
        refine ⟨column, ?_, fun _ => rfl⟩
        rw [Db.Ready, deleted.derived, Table.get?_erase, if_neg other]
        exact ready
    | leased distinct all =>
        refine ⟨column, all.ready distinct (fun outboxId _ job found => ?_) ready, fun _ => rfl⟩
        exact spared (outboxId, job) (Table.mem_entries_iff.mpr found)
    | unrenewed => exact ⟨column, ready, fun _ => rfl⟩
    | renewed => exact ⟨column, ready, fun _ => rfl⟩
    | reported literal found held outcome =>
        rcases outcome.ready current ready with kept | ⟨here, written⟩
        · exact ⟨column, kept, fun _ => rfl⟩
        · exact ⟨_, written, fun brings => brings _ found here _ literal⟩
    | failed found held failed =>
        refine ⟨column, ?_, fun _ => rfl⟩
        rw [Db.Ready, failed.derived]
        split
        · exact markDerived_ready ready rfl
        · exact ready
    | requeued wanted all => exact ⟨column, all.ready ready, fun _ => rfl⟩

end Steps

/-! ## Runs -/

/-- Along every run that leaves the parent's hashes as they are, enqueues no other text
    for it and gives up on none of its jobs, a ready row stays ready; its vector changes
    only when a completion brings another one. -/
theorem ready_vector_kept (host : Host V C) {db : Db C} {target : Target}
    {sourceHash inputHash : String} {column : C} {ops : List (Op V)}
    (current : db.CurrentHashes host target sourceHash inputHash)
    (ready : db.derived.get? target = some ⟨sourceHash, inputHash, some column, .ready⟩)
    (unchanged : Along (step host) (fun db op =>
      (step host db op).CurrentHashes host target sourceHash inputHash) db ops)
    (spares : Along (step host) (fun db op =>
      op.EnqueuesOnly host target inputHash db ∧ op.GivesUpNone target db) db ops) :
    ∃ column', (run (step host) db ops).derived.get? target =
        some ⟨sourceHash, inputHash, some column', .ready⟩ ∧
      (Along (step host) (fun db op => op.Brings host target column db) db ops →
        column' = column) := by
  induction ops generalizing db column with
  | nil => exact ⟨column, ready, fun _ => rfl⟩
  | cons op rest ih =>
      obtain ⟨between, kept, same⟩ := step_ready current unchanged.1 spares.1.1 spares.1.2 ready
      obtain ⟨last, done, sameLast⟩ := ih unchanged.1 kept unchanged.2 spares.2
      refine ⟨last, done, fun brings => ?_⟩
      have first := same brings.1
      subst first
      exact sameLast brings.2

/-- Storing the chunk again starts a second job; claiming it leaves the row ready. -/
theorem ready_vector_kept_stored_again :
    ∃ column, (run (step referenceHost) embeddedChunk [putChunkOp "text" 'a', claimOp 5 2]).derived.get?
      (.chunk "chunk") = some ⟨chunkHash 'a', textHash "text", some column, .ready⟩ := by
  have current : embeddedChunk.CurrentHashes referenceHost (.chunk "chunk") (chunkHash 'a')
      (textHash "text") := by
    decide +kernel
  have ready : embeddedChunk.derived.get? (.chunk "chunk") =
      some ⟨chunkHash 'a', textHash "text", some onesVector, .ready⟩ := by
    decide +kernel
  obtain ⟨column, kept, -⟩ := ready_vector_kept referenceHost current ready
    (by decide +kernel : Along _ _ embeddedChunk [putChunkOp "text" 'a', claimOp 5 2])
    (by decide +kernel)
  exact ⟨column, kept⟩

/-- The second job of the chunk loses its worker until the budget is spent: the claim that
    gives it up drops the ready vector, though the chunk never changed. -/
theorem ready_vector_lost :
    embeddedChunk.derived.get? (.chunk "chunk") =
      some ⟨chunkHash 'a', textHash "text", some onesVector, .ready⟩ ∧
    embeddedChunk.CurrentHashes referenceHost (.chunk "chunk") (chunkHash 'a') (textHash "text") ∧
    Along (step referenceHost) (fun db op => (step referenceHost db op).CurrentHashes referenceHost
        (.chunk "chunk") (chunkHash 'a') (textHash "text")) embeddedChunk
      [putChunkOp "text" 'a', claimOp 5 3, claimOp 5 5, claimOp 5 7, claimOp 5 9, claimOp 5 11,
        claimOp 5 13] ∧
    (run (step referenceHost) embeddedChunk
      [putChunkOp "text" 'a', claimOp 5 3, claimOp 5 5, claimOp 5 7, claimOp 5 9, claimOp 5 11,
        claimOp 5 13]).derived.get? (.chunk "chunk") =
      some ⟨chunkHash 'a', textHash "text", none, .failed⟩ := by
  decide +kernel

end Neurons.Embedding
