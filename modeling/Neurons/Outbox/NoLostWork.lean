import Neurons.Outbox.ReferenceGemini

/-! # No embedding work is lost

A row that waits for its embedding has an open job of its current content, a row whose
embedding failed has a dead letter of it, and a ready vector came with the row or was
computed for a job of the row's content. A job leaves the open states only together with
the row it is for, or when no row has its content.
-/

namespace Neurons.Outbox

open Neurons.Lib
open Neurons.Source
open Neurons.Embedding (Target ChunkRow SessionChunk normalizeChunk microseconds chunkHash)
open Neurons.Steward (CardRow validateCard)

/-! ## Where a vector comes from -/

/-- The vector of a row came with the row, or was written back for a job. -/
inductive Origin where
  | supplied
  | computed (outboxId : ℕ)
  deriving DecidableEq, Repr

/-- A database and, for each target, where its vector comes from. -/
structure Traced (C : Type) where
  db : Db C
  origin : Target → Origin

section Tracing

variable {V C K : Type} (gemini : Gemini V C K)

/-- What a transaction that answered makes of the origins. -/
def Op.origin (op : Op V) (answer : Answer) (origin : Target → Origin) : Target → Origin :=
  match op, answer with
  | .upsertCard card _ _, _ => Function.update origin (Target.card card.memoryId).stored .supplied
  | .insertChunk _ chunk _ _, _ => Function.update origin (Target.chunk chunk.chunkId).stored .supplied
  | .casUpdate report _ _, .changed true => Function.update origin report.target (.computed report.outboxId)
  | _, _ => origin

def traceStep (traced : Traced C) (op : Op V) : Traced C :=
  match transaction gemini op traced.db with
  | .ok (answer, db) => ⟨db, op.origin answer traced.origin⟩
  | .error _ => traced

theorem traceStep_db (traced : Traced C) (op : Op V) : (traceStep gemini traced op).db = step gemini traced.db op := by
  unfold traceStep step perform
  cases transaction gemini op traced.db <;> rfl

/-- The traced run is the run. -/
theorem run_traceStep_db (traced : Traced C) (ops : List (Op V)) :
    (run (traceStep gemini) traced ops).db = run (step gemini) traced.db ops := by
  induction ops generalizing traced with
  | nil => rfl
  | cons op rest ih => rw [run_cons, run_cons, ih, traceStep_db]

end Tracing

/-! ## Accounts -/

abbrev EmbeddingJobs := Table ℕ (Job EmbeddingWork)

/-- The outbox has a job of this content of the target in a state that passes. -/
def HasJob (outbox : EmbeddingJobs) (target : Target) (contentHash : String) (passes : JobStatus → Prop) : Prop :=
  ∃ id job, outbox.get? id = some job ∧ job.IsFor target contentHash ∧ passes job.status

/-- What the outbox and the origin owe to a row. -/
structure Accounted {C : Type} (outbox : EmbeddingJobs) (origin : Origin) (target : Target) (contentHash : String)
    (columns : Columns C) : Prop where
  pending : columns.state = .pending → HasJob outbox target contentHash (·.active)
  failed : columns.state = .failed → HasJob outbox target contentHash (· = .deadLetter)
  ready : columns.state = .ready → columns.embedding.isSome → origin = .supplied ∨
    ∃ id job, origin = .computed id ∧ outbox.get? id = some job ∧ job.IsFor target contentHash ∧
      job.status = .completed

/-- The jobs of this content of the target keep their work, and stay open or as they are. -/
def SteadyFor (target : Target) (contentHash : String) (outbox outbox' : EmbeddingJobs) : Prop :=
  ∀ id job, outbox.get? id = some job → job.IsFor target contentHash → ∃ job', outbox'.get? id = some job' ∧
    job'.work = job.work ∧ (job'.status = job.status ∨ (job.status.active ∧ job'.status.active))

section Accounts

variable {C : Type} {outbox outbox' : EmbeddingJobs} {target : Target} {contentHash : String}

theorem SteadyFor.refl (outbox : EmbeddingJobs) : SteadyFor target contentHash outbox outbox :=
  fun _ job found _ => ⟨job, found, rfl, .inl rfl⟩

theorem HasJob.steady {passes : JobStatus → Prop} (has : HasJob outbox target contentHash passes)
    (steady : SteadyFor target contentHash outbox outbox')
    (open_ : ∀ status status' : JobStatus, passes status → status.active → status'.active → passes status') :
    HasJob outbox' target contentHash passes := by
  obtain ⟨id, job, found, isFor, status⟩ := has
  obtain ⟨job', found', work, moved⟩ := steady id job found isFor
  refine ⟨id, job', found', ?_, ?_⟩
  · unfold Job.IsFor at isFor ⊢
    rw [work]
    exact isFor
  · rcases moved with same | ⟨before, after⟩
    · rw [same]
      exact status
    · exact open_ _ _ status before after

theorem Accounted.steady {origin : Origin} {columns : Columns C}
    (accounted : Accounted outbox origin target contentHash columns)
    (steady : SteadyFor target contentHash outbox outbox') :
    Accounted outbox' origin target contentHash columns where
  pending state := (accounted.pending state).steady steady fun _ _ _ _ after => after
  failed state := (accounted.failed state).steady steady fun status _ dead before _ => by
    subst dead
    cases before
  ready state vector := by
    rcases accounted.ready state vector with supplied | ⟨id, job, computed, found, isFor, completed⟩
    · exact .inl supplied
    · obtain ⟨job', found', work, moved⟩ := steady id job found isFor
      refine .inr ⟨id, job', computed, found', ?_, ?_⟩
      · unfold Job.IsFor at isFor ⊢
        rw [work]
        exact isFor
      · rcases moved with same | ⟨before, _⟩
        · rw [same, completed]
        · rw [completed] at before
          cases before

/-- A job of other content, or one that stays open, is rewritten. -/
theorem SteadyFor.set {outboxId : ℕ} {job job' : Job EmbeddingWork} (found : outbox.get? outboxId = some job)
    (work : job'.work = job.work)
    (apart : job.IsFor target contentHash → job'.status = job.status ∨ (job.status.active ∧ job'.status.active)) :
    SteadyFor target contentHash outbox (outbox.set outboxId job') := by
  intro id stored here isFor
  by_cases same : id = outboxId
  · subst same
    rw [found] at here
    cases here
    exact ⟨job', by simp, work, apart isFor⟩
  · exact ⟨stored, by rw [Table.get?_set, if_neg same, here], rfl, .inl rfl⟩

theorem SteadyFor.insert (outbox : EmbeddingJobs) (job : Job EmbeddingWork) :
    SteadyFor target contentHash outbox (outbox.set outbox.freshKey job) := by
  intro id stored here _
  have differ : id ≠ outbox.freshKey := by
    rintro rfl
    rw [Table.get?_freshKey] at here
    cases here
  exact ⟨stored, by rw [Table.get?_set, if_neg differ, here], rfl, .inl rfl⟩

theorem SteadyFor.claim {claim : Claim} {leased : List (ℕ × Job EmbeddingWork)}
    (done : claimLeases claim outbox = .ok (leased, outbox')) : SteadyFor target contentHash outbox outbox' := by
  simp only [claimLeases, bind_eq_ok, pure_eq_ok, Except.ok.injEq, Prod.mk.injEq] at done
  obtain ⟨_, _, _, rfl⟩ := done
  intro id job found _
  refine ⟨_, by rw [Table.get?_rewrite, found]; rfl, ?_⟩
  by_cases chosen : id ∈ candidates claim outbox
  · obtain ⟨stored, here, claimable, _⟩ := mem_candidates chosen
    rw [found] at here
    cases here
    have before : job.status.active := by
      rcases claimable with queued | ⟨failed, _⟩ | ⟨processing, _⟩
      · rw [queued]; rfl
      · rw [failed]; rfl
      · rw [processing]; rfl
    simp only [chosen, if_true]
    exact ⟨rfl, .inr ⟨before, rfl⟩⟩
  · simp [chosen]

/-- Queued work is open, and the work before it goes on. -/
theorem enqueueOutboxOn_spec {payloadText : String} {now : Int}
    (done : enqueueOutboxOn target contentHash payloadText now outbox = .ok outbox') :
    HasJob outbox' target.stored (Steward.varchar 71 contentHash) (·.active) ∧
      ∀ other hash, SteadyFor other hash outbox outbox' := by
  unfold enqueueOutboxOn at done
  obtain ⟨_, _, done⟩ := bind_eq_ok.mp done
  cases open_ : outbox.firstWhere
      (fun job => decide (job.IsFor target.stored (Steward.varchar 71 contentHash)) && job.status.active) with
  | some entry =>
      simp only [open_, bind_eq_ok, pure_eq_ok, Except.ok.injEq] at done
      obtain ⟨_, _, done⟩ := done
      obtain ⟨found, passes⟩ := Table.firstWhere_eq_some (k := entry.1) (v := entry.2) open_
      simp only [Bool.and_eq_true, decide_eq_true_eq] at passes
      rw [← done]
      exact ⟨⟨entry.1, entry.2, found, passes.1, passes.2⟩, fun _ _ => .refl outbox⟩
  | none =>
      simp only [open_, pure_eq_ok, Except.ok.injEq] at done
      rw [← done]
      exact ⟨⟨outbox.freshKey, _, Table.get?_set_self .., ⟨rfl, rfl⟩, rfl⟩, fun _ _ => .insert outbox _⟩

/-- The work of a written row: what it waits for is queued. -/
theorem enqueueWritten_spec {V : Type} {supplied : Supplied V} {payloadText : Except PyError String} {now : Int}
    (done : enqueueWritten supplied target contentHash payloadText now outbox = .ok outbox') :
    (supplied.state = .pending →
        HasJob outbox' target.stored (Steward.varchar 71 contentHash) (·.active)) ∧
      ∀ other hash, SteadyFor other hash outbox outbox' := by
  unfold enqueueWritten at done
  split at done
  · obtain ⟨text, _, done⟩ := bind_eq_ok.mp done
    exact ⟨fun _ => (enqueueOutboxOn_spec done).1, (enqueueOutboxOn_spec done).2⟩
  · rename_i settled
    cases done
    exact ⟨fun pending => (settled (.inl pending)).elim, fun _ _ => .refl outbox⟩

end Accounts

/-! ## One transaction -/

section Steps

variable {V C K : Type} {gemini : Gemini V C K}

/-- Every row is accounted for. -/
def Sound (traced : Traced C) : Prop := ∀ target contentHash columns,
  traced.db.find? target = some (contentHash, columns) →
    Accounted traced.db.outbox (traced.origin target) target contentHash columns

/-- A row supplied as pending or ready. -/
def Op.Offered : Op V → Prop
  | .upsertCard _ supplied _ => supplied.state = .pending ∨ supplied.state = .ready
  | .insertChunk _ _ supplied _ => supplied.state = .pending ∨ supplied.state = .ready
  | _ => True

/-- A target's row is written together with its work. -/
theorem Sound.written {traced : Traced C} (sound : Sound traced) {db : Db C} {written : Target} {hash : String}
    {columns : Columns C} {supplied : Supplied V}
    (offered : supplied.state = .pending ∨ supplied.state = .ready) (state : columns.state = supplied.state)
    (rows : ∀ target, db.find? target = if target = written then some (hash, columns) else traced.db.find? target)
    (work : (supplied.state = .pending → HasJob db.outbox written hash (·.active)) ∧
      ∀ other hash, SteadyFor other hash traced.db.outbox db.outbox) :
    Sound ⟨db, Function.update traced.origin written .supplied⟩ := by
  intro target contentHash found here
  simp only [rows] at here
  by_cases same : target = written
  · subst same
    simp only [if_true, Option.some.injEq, Prod.mk.injEq] at here
    obtain ⟨rfl, rfl⟩ := here
    simp only [Function.update_self]
    refine ⟨fun pending => work.1 (state ▸ pending), fun failed => ?_, fun _ _ => .inl rfl⟩
    rw [state] at failed
    rcases offered with pending | ready
    · rw [pending] at failed
      cases failed
    · rw [ready] at failed
      cases failed
  · rw [if_neg same] at here
    simp only [Function.update_of_ne same]
    exact (sound target contentHash found here).steady (work.2 target contentHash)

theorem columns_state {supplied : Supplied V} {columns : Columns C} (done : supplied.columns gemini = .ok columns) :
    columns.state = supplied.state := by
  simp only [Supplied.columns, bind_eq_ok, pure_eq_ok, Except.ok.injEq] at done
  obtain ⟨_, _, rfl⟩ := done
  rfl

theorem Sound.upsertCard {traced : Traced C} (sound : Sound traced) {card : CardRow} {supplied : Supplied V}
    {now : Int} {db : Db C} (offered : supplied.state = .pending ∨ supplied.state = .ready)
    (done : upsertCard gemini card supplied now traced.db = .ok db) :
    Sound ⟨db, Function.update traced.origin (Target.card card.memoryId).stored .supplied⟩ := by
  simp only [Outbox.upsertCard, upsertCardOn, bind_eq_ok, pure_eq_ok, Except.ok.injEq] at done
  obtain ⟨_, _, columns, converted, _, ⟨_, _, _, _, rfl⟩, outbox, queued, _, _, rfl⟩ := done
  refine sound.written offered (columns_state converted) (fun target => ?_) (enqueueWritten_spec queued)
  cases target with
  | card id =>
      simp only [Db.find?, Table.get?_set, Target.stored, Target.card.injEq, Steward.CardRow.stored]
      split <;> rfl
  | chunk id => simp [Db.find?, Target.stored]

theorem Sound.insertChunk {traced : Traced C} (sound : Sound traced) {insertOnly : Bool} {chunk : SessionChunk}
    {supplied : Supplied V} {now : Int} {db : Db C}
    (offered : supplied.state = .pending ∨ supplied.state = .ready)
    (done : insertChunk gemini insertOnly chunk supplied now traced.db = .ok db) :
    Sound ⟨db, Function.update traced.origin (Target.chunk chunk.chunkId).stored .supplied⟩ := by
  simp only [Outbox.insertChunk, normalizeChunk, bind_eq_ok, pure_eq_ok, Except.ok.injEq] at done
  obtain ⟨_, ⟨_, _, rfl⟩, columns, converted, _, _, _, _, outbox, queued, rfl⟩ := done
  refine sound.written offered (columns_state converted) (fun target => ?_) (enqueueWritten_spec queued)
  cases target with
  | card id => simp [Db.find?, Target.stored]
  | chunk id =>
      simp only [Db.find?, Table.get?_set, Target.stored, Target.chunk.injEq, Embedding.SessionChunk.stored]
      split <;> rfl

/-- Only the outbox moves, and no open work ends. -/
theorem Sound.steady {traced : Traced C} (sound : Sound traced) {db : Db C}
    (rows : ∀ target, db.find? target = traced.db.find? target)
    (steady : ∀ target hash columns, traced.db.find? target = some (hash, columns) →
      SteadyFor target hash traced.db.outbox db.outbox) : Sound ⟨db, traced.origin⟩ := by
  intro target contentHash columns found
  rw [rows] at found
  exact (sound target contentHash columns found).steady (steady target contentHash columns found)

/-- A job may end when no row has its content. -/
theorem Sound.skipped {traced : Traced C} (sound : Sound traced) {outboxId : ℕ} {job : Job EmbeddingWork}
    (found : traced.db.outbox.get? outboxId = some job)
    (gone : (traced.db.find? job.work.target).map Prod.fst ≠ some job.work.contentHash) :
    Sound ⟨traced.db.setJob outboxId job.skip, traced.origin⟩ := by
  refine sound.steady (fun target => find?_setJob ..) fun target hash columns here => ?_
  refine SteadyFor.set found rfl fun isFor => ?_
  obtain ⟨rfl, rfl⟩ := isFor
  rw [here] at gone
  exact (gone rfl).elim

theorem Sound.renewed {traced : Traced C} (sound : Sound traced) {outboxId : ℕ} {workerId : String}
    {leaseSeconds : Int} {clock : Clock} {answer : Bool} {db : Db C}
    (done : renewOutboxLease outboxId workerId leaseSeconds clock traced.db = .ok (answer, db)) :
    Sound ⟨db, traced.origin⟩ := by
  unfold renewOutboxLease at done
  obtain ⟨_, _, done⟩ := bind_eq_ok.mp done
  cases found : traced.db.outbox.get? outboxId with
  | none =>
      simp only [found, pure_eq_ok, Except.ok.injEq, Prod.mk.injEq] at done
      rw [← done.2]
      exact sound
  | some job =>
      simp only [found] at done
      split at done
      · simp only [pure_eq_ok, Except.ok.injEq, Prod.mk.injEq] at done
        rw [← done.2]
        exact sound.steady (fun target => find?_setJob ..) fun target hash columns _ =>
          SteadyFor.set found rfl fun _ => .inl rfl
      · simp only [pure_eq_ok, Except.ok.injEq, Prod.mk.injEq] at done
        rw [← done.2]
        exact sound

theorem Sound.skipStale {traced : Traced C} (sound : Sound traced) {report : Report} {clock : Clock}
    {answer : Bool} {db : Db C} (done : skipStaleOutboxEmbedding report clock traced.db = .ok (answer, db)) :
    Sound ⟨db, traced.origin⟩ := by
  unfold skipStaleOutboxEmbedding at done
  obtain ⟨_, _, done⟩ := bind_eq_ok.mp done
  obtain ⟨job, selected, done⟩ := bind_eq_ok.mp done
  obtain ⟨found, _, isFor⟩ := Report.select_eq_ok selected
  split at done
  · simp only [pure_eq_ok, Except.ok.injEq, Prod.mk.injEq] at done
    rw [← done.2]
    exact sound
  · rename_i gone
    simp only [bind_eq_ok, pure_eq_ok, Except.ok.injEq, Prod.mk.injEq] at done
    obtain ⟨_, _, _, rfl⟩ := done
    refine sound.skipped found ?_
    rw [isFor.1, isFor.2]
    exact gone

/-- A lease that still runs later ran before. -/
theorem LeasedTo.earlier {W : Type} {job : Job W} {workerId : String} {clock : Clock} {n : ℕ}
    (later : job.LeasedTo workerId (clock.at_ (n + 1))) : job.LeasedTo workerId (clock.at_ n) := by
  obtain ⟨held, owner, lease, until_, runs⟩ := later
  exact ⟨held, owner, lease, until_, lt_of_le_of_lt (clock.forward n) runs⟩

/-- The row of a job and the job change together: the row of another target is accounted for as
    before, and `settles` accounts for this one. -/
theorem Sound.together {traced : Traced C} (sound : Sound traced) {outboxId : ℕ} {job job' : Job EmbeddingWork}
    {origin : Target → Origin} (f : Columns C → Columns C) (found : traced.db.outbox.get? outboxId = some job)
    (work : job'.work = job.work) (others : ∀ target ≠ job.work.target, origin target = traced.origin target)
    (elsewhere : (traced.db.find? job.work.target).map Prod.fst ≠ some job.work.contentHash →
      origin job.work.target = traced.origin job.work.target)
    (settles : ∀ columns, Accounted (traced.db.outbox.set outboxId job') (origin job.work.target) job.work.target
      job.work.contentHash (f columns)) :
    Sound ⟨(traced.db.updateColumns job.work.target job.work.contentHash f).setJob outboxId job', origin⟩ := by
  intro target contentHash columns here
  simp only [find?_setJob, find?_updateColumns, Option.map_eq_some_iff, Prod.mk.injEq] at here
  obtain ⟨⟨hash, before⟩, stored, rfl, changed⟩ := here
  simp only [setJob_outbox, updateColumns_outbox]
  by_cases same : target = job.work.target ∧ hash = job.work.contentHash
  · rw [if_pos same] at changed
    obtain ⟨rfl, rfl⟩ := same
    rw [← changed]
    exact settles before
  · rw [if_neg same] at changed
    rw [← changed]
    have kept : origin target = traced.origin target := by
      by_cases here : target = job.work.target
      · subst here
        refine elsewhere fun current => same ⟨rfl, ?_⟩
        rw [stored] at current
        exact Option.some.inj current
      · exact others target here
    rw [kept]
    refine (sound target hash before stored).steady (SteadyFor.set found work fun isFor => ?_)
    exact (same ⟨isFor.1.symm, isFor.2.symm⟩).elim

theorem Sound.casUpdate {traced : Traced C} (sound : Sound traced) {report : Report} {vector : V} {clock : Clock}
    {answer : Bool} {db : Db C} (done : casUpdateEmbedding gemini report vector clock traced.db = .ok (answer, db)) :
    Sound ⟨db, Op.origin (.casUpdate report vector clock) (.changed answer) traced.origin⟩ := by
  unfold casUpdateEmbedding at done
  obtain ⟨_, _, done⟩ := bind_eq_ok.mp done
  obtain ⟨column, _, done⟩ := bind_eq_ok.mp done
  obtain ⟨job, selected, done⟩ := bind_eq_ok.mp done
  obtain ⟨found, _, sameTarget, sameHash⟩ := Report.select_eq_ok selected
  simp only [bind_eq_ok, refuseIf_eq_ok, not_not, pure_eq_ok, Except.ok.injEq, Prod.mk.injEq] at done
  obtain ⟨_, still, updated, rfl⟩ := done
  -- the clock only goes forward, so a lease that ended by the row's write has ended by the job's
  have leased : job.LeasedTo report.workerId (clock.at_ 1) := LeasedTo.earlier still
  simp only [leased, and_true] at updated ⊢
  rw [← sameTarget, ← sameHash] at updated ⊢
  by_cases current : (traced.db.find? job.work.target).map Prod.fst = some job.work.contentHash
  · simp only [current, decide_true, if_true] at updated ⊢
    subst updated
    have origin : Op.origin (.casUpdate report vector clock) (.changed true) traced.origin =
        Function.update traced.origin job.work.target (.computed report.outboxId) := by
      rw [sameTarget]
      rfl
    rw [origin]
    refine sound.together _ found rfl (fun target differ => Function.update_of_ne differ ..)
      (fun gone => (gone current).elim) fun columns => ⟨?_, ?_, fun _ _ => .inr ?_⟩
    · intro state
      cases state
    · intro state
      cases state
    · exact ⟨report.outboxId, job.complete, Function.update_self .., Table.get?_set_self .., ⟨rfl, rfl⟩, rfl⟩
  · simp only [current, decide_false, Bool.false_eq_true, if_false] at updated ⊢
    subst updated
    exact sound.skipped found current

theorem Sound.markFailed {traced : Traced C} (sound : Sound traced) {outboxId : ℕ} {errorMessage : String}
    {maxRetries : Int} {workerId : String} {now clock : Int} {db : Db C}
    (done : markOutboxFailed outboxId errorMessage maxRetries workerId now clock traced.db = .ok db) :
    Sound ⟨db, traced.origin⟩ := by
  simp only [markOutboxFailed, bind_eq_ok, pure_eq_ok, Except.ok.injEq] at done
  obtain ⟨_, _, _, _, job, selected, rfl⟩ := done
  obtain ⟨found, held, _⟩ := leasedJob_eq_ok selected
  by_cases dead : (job.fail errorMessage maxRetries now).status = .deadLetter
  · rw [if_pos dead]
    have swap : (traced.db.setJob outboxId (job.fail errorMessage maxRetries now)).updateColumns job.work.target
        job.work.contentHash (fun columns => { columns with state := .failed }) =
        (traced.db.updateColumns job.work.target job.work.contentHash
          (fun columns => { columns with state := .failed })).setJob outboxId
            (job.fail errorMessage maxRetries now) := by
      cases job.work.target <;> rfl
    rw [swap]
    refine sound.together _ found rfl (fun _ _ => rfl) (fun _ => rfl) fun columns => ⟨?_, fun _ => ?_, ?_⟩
    · intro state
      cases state
    · exact ⟨outboxId, _, Table.get?_set_self .., ⟨rfl, rfl⟩, dead⟩
    · intro state
      cases state
  · rw [if_neg dead]
    refine sound.steady (fun target => find?_setJob ..) fun target hash columns _ =>
      SteadyFor.set found rfl fun _ => .inr ⟨?_, ?_⟩
    · rw [held]
      rfl
    · simp only [Job.fail] at dead ⊢
      split
      · rename_i concluded
        simp [concluded] at dead
      · rfl

theorem Sound.step {traced : Traced C} (sound : Sound traced) {op : Op V} (offered : op.Offered) :
    Sound (traceStep gemini traced op) := by
  unfold traceStep
  cases committed : transaction gemini op traced.db with
  | error e => exact sound
  | ok result =>
      obtain ⟨answer, db⟩ := result
      cases op with
      | upsertCard card supplied now =>
          obtain ⟨_, done, same⟩ := except_map_eq_ok committed
          cases same
          exact sound.upsertCard offered done
      | insertChunk insertOnly chunk supplied now =>
          obtain ⟨_, done, same⟩ := except_map_eq_ok committed
          cases same
          exact sound.insertChunk offered done
      | claim claim =>
          obtain ⟨_, done, same⟩ := except_map_eq_ok committed
          cases same
          simp only [claimOutboxLeases, bind_eq_ok, pure_eq_ok, Except.ok.injEq] at done
          obtain ⟨⟨leased, outbox⟩, done, rfl⟩ := done
          exact sound.steady (fun target => by cases target <;> rfl) fun _ _ _ _ => SteadyFor.claim done
      | renew outboxId workerId leaseSeconds clock =>
          obtain ⟨_, done, same⟩ := except_map_eq_ok committed
          cases same
          exact sound.renewed done
      | skipStale report clock =>
          obtain ⟨_, done, same⟩ := except_map_eq_ok committed
          cases same
          exact sound.skipStale done
      | casUpdate report vector clock =>
          obtain ⟨_, done, same⟩ := except_map_eq_ok committed
          cases same
          exact sound.casUpdate done
      | markFailed outboxId errorMessage maxRetries workerId now clock =>
          obtain ⟨_, done, same⟩ := except_map_eq_ok committed
          cases same
          exact sound.markFailed done

/-! ## Runs -/

/-- In every run each row that waits has open work of its content, each failed row a dead letter of
    it, and each ready vector came with its row or was written back for a job of its content. -/
theorem no_embedding_work_lost (gemini : Gemini V C K) (ops : List (Op V)) (offered : ∀ op ∈ ops, op.Offered)
    (target : Target) (contentHash : String) (columns : Columns C)
    (found : (run (step gemini) .empty ops).find? target = some (contentHash, columns)) :
    (columns.state = .pending → ∃ id job, (run (step gemini) .empty ops).outbox.get? id = some job ∧
        job.IsFor target contentHash ∧ job.status ∈ [.queued, .processing, .failed]) ∧
      (columns.state = .failed → ∃ id job, (run (step gemini) .empty ops).outbox.get? id = some job ∧
        job.IsFor target contentHash ∧ job.status = .deadLetter) ∧
      (columns.state = .ready → columns.embedding.isSome →
        (run (traceStep gemini) ⟨.empty, fun _ => .supplied⟩ ops).origin target = .supplied ∨
        ∃ id job, (run (traceStep gemini) ⟨.empty, fun _ => .supplied⟩ ops).origin target = .computed id ∧
          (run (step gemini) .empty ops).outbox.get? id = some job ∧ job.IsFor target contentHash ∧
          job.status = .completed) := by
  have start : Sound (⟨.empty, fun _ => .supplied⟩ : Traced C) := by
    intro other hash stored here
    cases other <;> simp [Db.find?, Db.empty] at here
  have sound : Sound (run (traceStep gemini) (⟨.empty, fun _ => .supplied⟩ : Traced C) ops) :=
    Along.invariant Sound (fun _ _ meets kept => kept.step meets) (Along.of_mem offered) start
  have account := sound target contentHash columns (by rw [run_traceStep_db]; exact found)
  rw [run_traceStep_db] at account
  refine ⟨fun pending => ?_, account.failed, account.ready⟩
  obtain ⟨id, job, here, isFor, active⟩ := account.pending pending
  refine ⟨id, job, here, isFor, ?_⟩
  revert active
  cases job.status <;> decide

end Steps

/-! ### A chunk that returns to its first content -/

/-- A chunk changes while its first job is leased, the job is retired, and the chunk changes back. -/
def returningOps : List (Op (List Int)) :=
  [putChunk "first" 'a', .claim ⟨"worker", 1, 30, 1, fun _ => true⟩, putChunk "second" 'b',
    .skipStale ⟨1, .chunk "chunk", chunkHash 'a', "worker"⟩ (steadyClock 2), putChunk "first" 'a']

theorem no_embedding_work_lost_returning :
    ∃ id job, (run (step referenceGemini) .empty returningOps).outbox.get? id = some job ∧
      job.IsFor (.chunk "chunk") (chunkHash 'a') ∧ job.status ∈ [.queued, .processing, .failed] := by
  have offered : ∀ op ∈ returningOps, op.Offered := by
    simp [returningOps, putChunk, Op.Offered]
  have found : (run (step referenceGemini) .empty returningOps).find? (.chunk "chunk") =
      some (chunkHash 'a', ⟨.pending, none, 1⟩) := by decide +kernel
  exact (no_embedding_work_lost referenceGemini returningOps offered _ _ _ found).1 rfl

end Neurons.Outbox
