import Neurons.Embedding.Leases
import Neurons.Steward.Operations

/-! # What an outbox transaction writes

Each transaction is one of six kinds: a write of parent rows followed by enqueues, a
deletion, a claim of candidates in turn, a change of one held job, or dead letters put
back in turn. The lemmas say what each of their steps found in the tables and what it
left there.
-/

namespace Neurons.Embedding

open Neurons.Lib
open Neurons.Source
open Neurons.Steward (CardRow)

variable {V C : Type} {host : Host V C}

/-! ## Parents -/

/-- The local tables are as they were. -/
structure SameTables (db db' : Db C) : Prop where
  derived : db'.derived = db.derived
  tombstones : db'.tombstones = db.tombstones
  outbox : db'.outbox = db.outbox

theorem SameTables.refl (db : Db C) : SameTables db db := ⟨rfl, rfl, rfl⟩

/-- The parents are as they were. -/
structure SameParents (db db' : Db C) : Prop where
  steward : db'.steward = db.steward
  chunks : db'.chunks = db.chunks

namespace SameParents

variable {db db' : Db C}

theorem contentHash? (same : SameParents db db') (target : Target) :
    db'.contentHash? target = db.contentHash? target := by
  cases target <;> simp [Db.contentHash?, same.steward, same.chunks]

theorem canonicalInput? (same : SameParents db db') (target : Target) :
    canonicalInput? host db' target = canonicalInput? host db target := by
  cases target <;> simp [Embedding.canonicalInput?, same.steward, same.chunks]

theorem refl (db : Db C) : SameParents db db := ⟨rfl, rfl⟩

theorem trans {last : Db C} (first : SameParents db db') (second : SameParents db' last) :
    SameParents db last :=
  ⟨second.steward.trans first.steward, second.chunks.trans first.chunks⟩

end SameParents

/-! ## Enqueues -/

/-- A committed enqueue of an input hash. -/
structure Enqueued (target : Target) (sourceHash inputHash payloadText : String) (now : Int)
    (db db' : Db C) : Prop where
  parent : db.contentHash? target = some sourceHash
  parents : SameParents db db'
  tombstones : db'.tombstones = db.tombstones.set target ⟨db.incarnation target, none⟩
  derived : db'.derived =
    db.derived.set target (renewDerived (db.derived.get? target) sourceHash inputHash)
  outbox : db'.outbox = (findOrInsert target sourceHash inputHash payloadText
    (db.incarnation target) now (db.outbox.mapValues (cancelOthers target sourceHash inputHash))).2

theorem computeInputHash_eq_ok {text hash : String} :
    computeInputHash host text = .ok hash ↔
      text ≠ "" ∧ sha256Hash host.lib.py (.text text) = hash := by
  simp [computeInputHash, bind_eq_ok, refuseIf_eq_ok]

theorem enqueueLocalOutboxOn_eq_ok {target : Target} {sourceHash payloadText : String} {now : Int}
    {db db' : Db C} {outboxId : ℕ}
    (done : enqueueLocalOutboxOn host target sourceHash payloadText now db = .ok (outboxId, db')) :
    ∃ inputHash, computeInputHash host payloadText = .ok inputHash ∧
      Enqueued target sourceHash inputHash payloadText now db db' := by
  unfold enqueueLocalOutboxOn at done
  simp only [bind_eq_ok, refuseIf_eq_ok, not_not, pure_eq_ok, Except.ok.injEq,
    Prod.mk.injEq] at done
  obtain ⟨⟨⟩, -, inputHash, hashed, ⟨⟩, -, ⟨⟩, parent, ⟨⟩, -, -, rfl⟩ := done
  exact ⟨inputHash, hashed, parent, ⟨rfl, rfl⟩, rfl, rfl, rfl⟩

/-- What a transaction asks the local outbox to embed. -/
structure Request where
  target : Target
  sourceHash : String
  payloadText : String

/-- Enqueues one after the other. -/
inductive EnqueuedAll (host : Host V C) (now : Int) : List Request → Db C → Db C → Prop
  | nil (db : Db C) : EnqueuedAll host now [] db db
  | cons {request : Request} {rest : List Request} {db mid db' : Db C} {inputHash : String}
      (hashed : computeInputHash host request.payloadText = .ok inputHash)
      (first : Enqueued request.target request.sourceHash inputHash request.payloadText now db mid)
      (later : EnqueuedAll host now rest mid db') : EnqueuedAll host now (request :: rest) db db'

theorem EnqueuedAll.sameParents {now : Int} {requests : List Request} {db db' : Db C}
    (all : EnqueuedAll host now requests db db') : SameParents db db' := by
  induction all with
  | nil db => exact .refl db
  | cons hashed first later ih => exact first.parents.trans ih

/-! ## Claims -/

/-- What one candidate of a claim comes to. -/
inductive LeaseOutcome (claim : Claim) (outboxId : ℕ) (db : Db C) :
    Option (ℕ × Job) → Db C → Prop
  | passed : LeaseOutcome claim outboxId db none db
  | exhausted {job : Job} (found : db.outbox.get? outboxId = some job)
      (claimable : job.Claimable claim.maxRetries (claim.clock outboxId))
      (spent : job.Exhausted claim.maxRetries) (parent : db.contentHash? job.target ≠ none) :
      LeaseOutcome claim outboxId db none { db.setJob outboxId job.exhaust with
        derived := db.derived.set job.target
          ⟨job.sourceContentHash, job.inputHash, none, .failed⟩ }
  | outlived {job : Job} (found : db.outbox.get? outboxId = some job)
      (claimable : job.Claimable claim.maxRetries (claim.clock outboxId)) (concluded : db.Outlived job) :
      LeaseOutcome claim outboxId db none (db.setJob outboxId
        (job.close .cancelled "cancelled: target deleted or incarnation changed"))
  | skipped {job : Job} (found : db.outbox.get? outboxId = some job)
      (claimable : job.Claimable claim.maxRetries (claim.clock outboxId))
      (changed : db.contentHash? job.target ≠ some job.sourceContentHash) :
      LeaseOutcome claim outboxId db none (db.setJob outboxId
        (job.close .casSkipped "CAS skip: parent missing or content_hash changed"))
  | leased {job : Job} (found : db.outbox.get? outboxId = some job)
      (claimable : job.Claimable claim.maxRetries (claim.clock outboxId))
      (unspent : ¬ job.Exhausted claim.maxRetries) :
      LeaseOutcome claim outboxId db
        (some (outboxId, job.lease claim.workerId claim.leaseSeconds (claim.clock outboxId)))
        (db.setJob outboxId (job.lease claim.workerId claim.leaseSeconds (claim.clock outboxId)))

theorem leaseCandidate_eq_ok {claim : Claim} {outboxId : ℕ} {db db' : Db C}
    {leased : Option (ℕ × Job)} (done : leaseCandidate claim outboxId db = .ok (leased, db')) :
    LeaseOutcome claim outboxId db leased db' := by
  unfold leaseCandidate at done
  split at done
  · cases done
    exact .passed
  · next job taken =>
      have found : db.outbox.get? outboxId = some job := by
        split at taken
        · exact taken
        · cases taken
      split_ifs at done with claimable spent orphan concluded changed
      · cases done
        exact .exhausted found claimable spent orphan
      · cases done
        exact .outlived found claimable concluded
      · cases done
        exact .skipped found claimable changed
      · cases done
        exact .leased found claimable spent
      · cases done
        exact .passed

/-- The candidates of a claim in turn. -/
inductive LeasedAll (claim : Claim) : List ℕ → List (ℕ × Job) → Db C → Db C → Prop
  | nil (db : Db C) : LeasedAll claim [] [] db db
  | cons {outboxId : ℕ} {outboxIds : List ℕ} {leased : Option (ℕ × Job)} {jobs : List (ℕ × Job)}
      {db mid db' : Db C} (first : LeaseOutcome claim outboxId db leased mid)
      (later : LeasedAll claim outboxIds jobs mid db') :
      LeasedAll claim (outboxId :: outboxIds) (leased.toList ++ jobs) db db'

theorem leaseCandidates_eq_ok {claim : Claim} {outboxIds : List ℕ} {claimed jobs : List (ℕ × Job)}
    {db db' : Db C} (done : leaseCandidates claim outboxIds claimed db = .ok (jobs, db')) :
    ∃ tried new, tried <+: outboxIds ∧ jobs = claimed ++ new ∧ LeasedAll claim tried new db db' := by
  induction outboxIds generalizing claimed db with
  | nil =>
      cases done
      exact ⟨[], [], List.nil_prefix, by simp, .nil _⟩
  | cons outboxId rest ih =>
      rw [leaseCandidates] at done
      split_ifs at done with full
      · cases done
        exact ⟨[], [], List.nil_prefix, by simp, .nil _⟩
      · obtain ⟨⟨leased, mid⟩, first, done⟩ := bind_eq_ok.mp done
        obtain ⟨tried, new, within, rfl, later⟩ := ih done
        exact ⟨outboxId :: tried, leased.toList ++ new, (List.prefix_cons_inj outboxId).mpr within,
          by simp, .cons (leaseCandidate_eq_ok first) later⟩

/-- A scan lists no job twice. -/
theorem candidates_nodup (claim : Claim) (outbox : Table ℕ Job) : (candidates claim outbox).Nodup := by
  let claimable := outbox.entries.filter
    (fun entry => decide (entry.2.Claimable claim.maxRetries claim.scannedAt))
  have keys : (claimable.map Prod.fst).Nodup :=
    outbox.nodup.sublist (List.filter_sublist.map Prod.fst)
  have sorted : ((sortOn (fun entry : ℕ × Job => toLex (entry.2.createdAt, entry.1))
      claimable).map Prod.fst).Nodup :=
    ((sortOn_perm _ claimable).map Prod.fst).nodup_iff.mpr keys
  exact sorted.sublist ((List.take_sublist _ _).map Prod.fst)

/-- One candidate leaves the other jobs alone. -/
theorem LeaseOutcome.others {claim : Claim} {outboxId : ℕ} {db db' : Db C}
    {leased : Option (ℕ × Job)} (outcome : LeaseOutcome claim outboxId db leased db') {other : ℕ}
    (apart : other ≠ outboxId) : db'.outbox.get? other = db.outbox.get? other := by
  cases outcome <;> simp [Db.setJob, Table.get?_set, apart]

/-! ## Reports -/

theorem heldJob_eq_ok {outboxId : ℕ} {workerId : String} {token : ℕ} {now : Int} {db : Db C}
    {job : Job} (done : heldJob outboxId workerId token now db = .ok job) :
    db.outbox.get? outboxId = some job ∧ job.HeldBy workerId token now := by
  unfold heldJob at done
  cases found : db.outbox.get? outboxId with
  | none => simp [found] at done
  | some stored =>
      simp only [found, bind_eq_ok, refuseIf_eq_ok, not_not, pure_eq_ok, Except.ok.injEq] at done
      obtain ⟨⟨⟩, held, rfl⟩ := done
      exact ⟨rfl, held⟩

/-- What a completion comes to. -/
inductive WriteBackOutcome (host : Host V C) (outboxId : ℕ) (job : Job) (column : C) (db : Db C) :
    Bool → Db C → Prop
  | outlived (concluded : db.Outlived job) : WriteBackOutcome host outboxId job column db false
      (db.setJob outboxId (job.close .cancelled "CAS skip: target deleted or incarnation changed"))
  | orphaned (gone : canonicalInput? host db job.target = none) :
      WriteBackOutcome host outboxId job column db false
        (db.setJob outboxId (job.close .cancelled (parentDeleted job.target)))
  | skipped {input : Except PyError String} (current : canonicalInput? host db job.target = some input)
      (changed : db.contentHash? job.target ≠ some job.sourceContentHash ∨
        inputHashOf host input ≠ job.inputHash) :
      WriteBackOutcome host outboxId job column db false
        (db.setJob outboxId (job.close .casSkipped "CAS skip: source or input hash mismatch"))
  | written {input : Except PyError String} (current : canonicalInput? host db job.target = some input)
      (source : db.contentHash? job.target = some job.sourceContentHash)
      (same : inputHashOf host input = job.inputHash) :
      WriteBackOutcome host outboxId job column db true { db.setJob outboxId job.finish with
        derived := db.derived.set job.target
          ⟨job.sourceContentHash, job.inputHash, some column, .ready⟩ }

theorem writeBack_eq_ok {outboxId : ℕ} {job : Job} {column : C} {db db' : Db C} {done : Bool}
    (wrote : writeBack host outboxId job column db = .ok (done, db')) :
    WriteBackOutcome host outboxId job column db done db' := by
  unfold writeBack at wrote
  split at wrote
  · next concluded =>
      cases wrote
      exact .outlived concluded
  · cases current : canonicalInput? host db job.target with
    | none =>
        simp only [current] at wrote
        cases wrote
        exact .orphaned current
    | some input =>
        simp only [current] at wrote
        split at wrote
        · next changed =>
            cases wrote
            exact .skipped current changed
        · next unchanged =>
            obtain ⟨⟨⟩, -, wrote⟩ := bind_eq_ok.mp wrote
            simp only [not_or, not_not] at unchanged
            cases wrote
            exact .written current unchanged.1 unchanged.2

/-- A failed attempt, and the state of the derived row after it. -/
structure Failed (outboxId : ℕ) (job : Job) (error : String) (retryable : Bool)
    (maxRetries now : Int) (db db' : Db C) : Prop where
  parents : SameParents db db'
  tombstones : db'.tombstones = db.tombstones
  outbox : db'.outbox = db.outbox.set outboxId (job.fail error retryable maxRetries now)
  derived : db'.derived =
    if (job.fail error retryable maxRetries now).status = .deadLetter then
      markDerived job.target .failed (fun row =>
        row.sourceContentHash = job.sourceContentHash && row.inputHash = job.inputHash) db.derived
    else db.derived

theorem markLocalOutboxFailed_eq_ok {outboxId : ℕ} {workerId : String} {token : ℕ}
    {errorCode : String} {retryable : Bool} {maxRetries now : Int} {db db' : Db C}
    {status : JobStatus}
    (done : markLocalOutboxFailed outboxId workerId token errorCode retryable maxRetries now db =
      .ok (status, db')) :
    ∃ job, db.outbox.get? outboxId = some job ∧ job.HeldBy workerId token now ∧
      Failed outboxId job (safeError errorCode) retryable maxRetries now db db' := by
  simp only [markLocalOutboxFailed, bind_eq_ok, refuseIf_eq_ok, pure_eq_ok, Except.ok.injEq,
    Prod.mk.injEq] at done
  obtain ⟨⟨⟩, -, ⟨⟩, -, job, held, -, rfl⟩ := done
  obtain ⟨found, held⟩ := heldJob_eq_ok held
  exact ⟨job, found, held, ⟨rfl, rfl⟩, rfl, rfl, rfl⟩

theorem completeLocalOutboxCas_eq_ok {outboxId : ℕ} {workerId : String} {token : ℕ} {vector : V}
    {now : Int} {db db' : Db C} {done : Bool}
    (wrote : completeLocalOutboxCas host outboxId workerId token vector now db = .ok (done, db')) :
    ∃ job column, host.localVector vector = .ok column ∧ db.outbox.get? outboxId = some job ∧
      job.HeldBy workerId token now ∧ WriteBackOutcome host outboxId job column db done db' := by
  simp only [completeLocalOutboxCas, bind_eq_ok, refuseIf_eq_ok] at wrote
  obtain ⟨⟨⟩, -, column, literal, job, held, wrote⟩ := wrote
  obtain ⟨found, held⟩ := heldJob_eq_ok held
  exact ⟨job, column, literal, found, held, writeBack_eq_ok wrote⟩

theorem renewLocalOutboxLease_eq_ok {outboxId : ℕ} {workerId : String} {token seconds : ℕ}
    {now : Int} {db db' : Db C} {done : Bool}
    (renewed : renewLocalOutboxLease outboxId workerId token seconds now db = .ok (done, db')) :
    db' = db ∨ ∃ job, db.outbox.get? outboxId = some job ∧ job.HeldBy workerId token now ∧
      db' = db.setJob outboxId { job with leaseUntil := some (now + microseconds seconds) } := by
  unfold renewLocalOutboxLease at renewed
  obtain ⟨⟨⟩, -, renewed⟩ := bind_eq_ok.mp renewed
  cases found : db.outbox.get? outboxId with
  | none =>
      simp only [found, pure_eq_ok, Except.ok.injEq, Prod.mk.injEq] at renewed
      exact .inl renewed.2.symm
  | some job =>
      simp only [found] at renewed
      split at renewed
      · next held =>
          cases renewed
          exact .inr ⟨job, rfl, held, rfl⟩
      · cases renewed
        exact .inl rfl

/-! ## Dead letters -/

/-- What one dead letter of a requeue comes to. -/
inductive RequeueOutcome (outboxId : ℕ) (db : Db C) : Bool → Db C → Prop
  | passed : RequeueOutcome outboxId db false db
  | requeued {job : Job} (found : db.outbox.get? outboxId = some job)
      (dead : job.status = .deadLetter) (living : ¬ db.Outlived job)
      (parent : db.contentHash? job.target = some job.sourceContentHash)
      (alone : ¬ db.Superseded job) :
      RequeueOutcome outboxId db true { db.setJob outboxId job.requeue with
        derived := markDerived job.target .pending
          (fun row => row.sourceContentHash = job.sourceContentHash) db.derived }

theorem requeueCandidate_outcome (outboxId : ℕ) (db : Db C) :
    RequeueOutcome outboxId db (requeueCandidate outboxId db).1 (requeueCandidate outboxId db).2 := by
  unfold requeueCandidate
  split
  · exact .passed
  · next job found =>
      split
      · exact .passed
      · next wanted =>
          simp only [not_or, not_not] at wanted
          exact .requeued found wanted.1 wanted.2.1 wanted.2.2.1 wanted.2.2.2

/-- One dead letter leaves the other jobs alone. -/
theorem RequeueOutcome.others {outboxId : ℕ} {db db' : Db C} {done : Bool}
    (outcome : RequeueOutcome outboxId db done db') {other : ℕ} (apart : other ≠ outboxId) :
    db'.outbox.get? other = db.outbox.get? other := by
  cases outcome <;> simp [Db.setJob, Table.get?_set, apart]

/-- Dead letters put back in turn. -/
inductive RequeuedAll : List ℕ → List ℕ → Db C → Db C → Prop
  | nil (db : Db C) : RequeuedAll [] [] db db
  | cons {outboxId : ℕ} {outboxIds requeued : List ℕ} {done : Bool} {db mid db' : Db C}
      (first : RequeueOutcome outboxId db done mid)
      (later : RequeuedAll outboxIds requeued mid db') :
      RequeuedAll (outboxId :: outboxIds) (if done then outboxId :: requeued else requeued) db db'

theorem requeueCandidates_all (outboxIds : List ℕ) (db : Db C) :
    RequeuedAll outboxIds (requeueCandidates outboxIds db).1 db (requeueCandidates outboxIds db).2 := by
  induction outboxIds generalizing db with
  | nil => exact .nil db
  | cons outboxId rest ih => exact .cons (requeueCandidate_outcome outboxId db) (ih _)

/-- The dead letters a requeue goes through. -/
theorem requeueLocalDeadLetters_eq {targetIds : Option (List String)}
    {allowedErrorCodes : List String} {db db' : Db C} {requeued : List ℕ}
    (done : requeueLocalDeadLetters targetIds allowedErrorCodes db = (requeued, db')) :
    ∃ outboxIds, (∀ outboxId ∈ outboxIds, ∃ job, db.outbox.get? outboxId = some job ∧
        job.Requeueable (allowedErrorCodes.filter (· ≠ "")) (targetIds.map (·.filter (· ≠ "")))) ∧
      RequeuedAll outboxIds requeued db db' := by
  simp only [requeueLocalDeadLetters] at done
  split at done
  · cases done
    exact ⟨[], by simp, .nil db⟩
  · have all := requeueCandidates_all
      (deadLetters (allowedErrorCodes.filter (· ≠ "")) (targetIds.map (·.filter (· ≠ ""))) db.outbox) db
    rw [done] at all
    refine ⟨_, fun outboxId mem => ?_, all⟩
    simp only [deadLetters, mem_sortOn, List.mem_map, List.mem_filter, decide_eq_true_eq] at mem
    obtain ⟨⟨_, job⟩, ⟨stored, wanted⟩, rfl⟩ := mem
    exact ⟨job, Table.mem_entries_iff.mp stored, wanted⟩

/-! ## Steward decisions -/

/-- The columns of a card that are embedded. -/
def SameBody (row row' : CardRow) : Prop :=
  row'.contentHash = row.contentHash ∧ row'.summary = row.summary ∧ row'.title = row.title ∧
    row'.typedPayload = row.typedPayload

/-- Every card is still there with the same body. -/
def KeepsBodies (db db' : Steward.Db) : Prop :=
  ∀ memoryId row, db.cards.get? memoryId = some row →
    ∃ row', db'.cards.get? memoryId = some row' ∧ SameBody row row'

theorem KeepsBodies.of_cards {db db' : Steward.Db} (same : db'.cards = db.cards) :
    KeepsBodies db db' :=
  fun _ row found => ⟨row, same ▸ found, rfl, rfl, rfl, rfl⟩

theorem KeepsBodies.trans {db mid db' : Steward.Db} (first : KeepsBodies db mid)
    (second : KeepsBodies mid db') : KeepsBodies db db' := by
  intro memoryId row found
  obtain ⟨between, foundMid, hash, summary, title, payload⟩ := first memoryId row found
  obtain ⟨last, foundLast, hash', summary', title', payload'⟩ := second memoryId between foundMid
  exact ⟨last, foundLast, hash'.trans hash, summary'.trans summary, title'.trans title,
    payload'.trans payload⟩

theorem Wrote.keepsBodies {lib : Steward.Library} {locked : List String} {changed stored : Doc}
    {db db' : Steward.Db} (wrote : Steward.Wrote lib locked changed stored db db') :
    KeepsBodies db db' := by
  obtain ⟨id, row, row', -, -, found, -, updated, cards⟩ := wrote.row
  intro memoryId held foundHeld
  by_cases same : memoryId = id.text
  · subst same
    rw [found, Option.some.injEq] at foundHeld
    subst foundHeld
    refine ⟨row', by simp [cards], ?_⟩
    rw [updated.frame]
    exact ⟨rfl, rfl, rfl, rfl⟩
  · exact ⟨held, by simp [cards, Dict.get?_insert, same, foundHeld], rfl, rfl, rfl, rfl⟩

theorem stewardDecision_keepsBodies {lib : Steward.Library} {localProfile : Bool}
    {d : Steward.Decision} {transform : Steward.Transform} {committedAt : Int} {db db' : Steward.Db}
    {outcome : Steward.Outcome}
    (done : Steward.stewardDecision lib localProfile d transform committedAt db = .ok (outcome, db')) :
    KeepsBodies db db' := by
  rcases Steward.stewardDecision_eq_ok done with ⟨-, -, -, rfl⟩ | decided
  · exact .of_cards rfl
  · obtain ⟨row, card, target, changed, changedTarget, new, newTarget, mid, last, -, -, -, -, -, -, -,
      -, first, second, rfl⟩ := decided.stored
    have toLast : KeepsBodies mid last := by
      rcases second with ⟨-, -, rfl⟩ | ⟨_, _, -, -, wrote⟩
      · exact .of_cards rfl
      · exact Wrote.keepsBodies wrote
    exact ((Wrote.keepsBodies first).trans toLast).trans (.of_cards rfl)

theorem commitChildren_keepsBodies {lib : Steward.Library} {children : List Steward.Child}
    {clock : ℕ → Int} {db db' : Steward.Db} {outcomes : List Steward.Outcome}
    (done : Steward.commitChildren lib children clock db = .ok (outcomes, db')) :
    KeepsBodies db db' := by
  induction children generalizing clock db outcomes with
  | nil =>
      simp only [Steward.commitChildren, Except.ok.injEq, Prod.mk.injEq] at done
      exact .of_cards (by rw [done.2])
  | cons child rest ih =>
      simp only [Steward.commitChildren, bind_eq_ok, pure_eq_ok, Except.ok.injEq,
        Prod.mk.injEq] at done
      obtain ⟨⟨_, mid⟩, first, ⟨_, last⟩, later, -, rfl⟩ := done
      exact (stewardDecision_keepsBodies first).trans (ih later)

theorem transact_keepsBodies {α : Type} {transaction : Steward.Db → Except PyError (α × Steward.Db)}
    {reply : α → Except PyError Steward.Reply} {db : Steward.Db}
    (keeps : ∀ a db', transaction db = .ok (a, db') → KeepsBodies db db') :
    KeepsBodies db (Steward.transact transaction reply db).2 := by
  unfold Steward.transact
  split
  · exact .of_cards rfl
  · next done => exact keeps _ _ done

/-- No steward call changes what is embedded of a card, or drops one. -/
theorem perform_keepsBodies (lib : Steward.Library) (call : Steward.Call) (db : Steward.Db) :
    KeepsBodies db (Steward.perform lib call db).2 := by
  unfold Steward.perform
  cases Steward.planOf lib call db with
  | error e => exact .of_cards rfl
  | ok plan =>
      cases plan with
      | answer reply => exact .of_cards rfl
      | propose envelope reply =>
          refine transact_keepsBodies fun stored db' done => ?_
          rcases Steward.putStewardProposal_eq_ok done with rfl | ⟨row, -, fresh, -, -, -, -, -, cards⟩
          · exact .of_cards rfl
          · intro memoryId held found
            have other : memoryId ≠ row.stored.memoryId := by
              rintro rfl
              simp [found] at fresh
            exact ⟨held, by simp [cards, Dict.get?_insert, other, found], rfl, rfl, rfl, rfl⟩
      | decision d transform reply =>
          exact transact_keepsBodies fun outcome db' done => stewardDecision_keepsBodies done
      | bundle b callback =>
          refine transact_keepsBodies fun result db' done => ?_
          unfold Steward.stewardBundleDecision at done
          obtain ⟨⟨⟩, -, done⟩ := bind_eq_ok.mp done
          obtain ⟨⟨⟩, -, done⟩ := bind_eq_ok.mp done
          obtain ⟨⟨⟩, -, done⟩ := bind_eq_ok.mp done
          cases audited : db.bundleDecisions.get? b.decisionId with
          | some previous =>
              simp only [audited, bind_eq_ok, pure_eq_ok, Except.ok.injEq, Prod.mk.injEq] at done
              obtain ⟨⟨⟩, -, -, rfl⟩ := done
              exact .of_cards rfl
          | none =>
              simp only [audited, bind_eq_ok, pure_eq_ok, Except.ok.injEq, Prod.mk.injEq] at done
              obtain ⟨_, -, ⟨_, last⟩, committed, _, -, -, rfl⟩ := done
              exact (commitChildren_keepsBodies committed).trans (.of_cards rfl)

end Neurons.Embedding
