import Neurons.Journal.Quarantine

/-! # Resuming an operation

A coordinator that was cut off anywhere is started again with the same operation: it
begins, runs the same steps and completes. The receipts say how far the earlier runs came.
The state of the journal row does not survive as well: `begin_operation` writes
'neo4j_fenced' over whatever it was, and only the record of `embeddings_committed` makes it
'completed' again.
-/

namespace Neurons.Journal

open Neurons.Lib
open Prog (Traces)

/-! ## The operation and its runs -/

/-- An operation with the fixed effect of every step. Its last step is `embeddings_committed`. -/
structure Operation where
  operationId : String
  groupId : String
  earlier : List String
  payload : String → Json

/-- What one run of the operation does not share with the others. -/
structure Attempt where
  operationType : String
  leaseOwner : String
  leaseSeconds : Int
  fenceStatus : FenceStatus
  plan : Option Doc
  now : Int
  action : String → Except String Json
  stepNow : String → Int
  bumpEpoch : Bool

namespace Operation

def steps (o : Operation) : List String := o.earlier ++ ["embeddings_committed"]

def begun (o : Operation) (a : Attempt) : Begin :=
  ⟨o.operationId, o.groupId, a.operationType, a.leaseOwner, a.leaseSeconds, a.fenceStatus, a.plan, a.now⟩

def step (o : Operation) (a : Attempt) (stepId : String) : Step :=
  ⟨o.operationId, o.groupId, stepId, o.payload stepId, a.action stepId, a.stepNow stepId⟩

variable (py : Source.Platform) (o : Operation)

/-- The effect hash of a step. -/
def hash (stepId : String) : String := computeStepEffectHash py (o.payload stepId)

def runSteps (a : Attempt) : List String → Graph Unit
  | [] => .done ()
  | stepId :: rest => (runStep py ⟨true⟩ (o.step a stepId)).bind fun _ => runSteps a rest

/-- One run: begin, the steps, complete. -/
def program (a : Attempt) : Graph Unit :=
  (beginOperation ⟨true⟩ (o.begun a)).bind fun lease =>
    (o.runSteps py a o.steps).bind fun _ => completeOperation lease a.bumpEpoch

end Operation

/-- The hash the journal has recorded for a step. -/
def Stores.journalHash (s : Stores) (operationId stepId : String) : Option String :=
  (s.journal.get? operationId).bind fun row => (row.stepReceipts.get? stepId).map Receipt.effectHash

/-- The hash Neo4j has recorded for a step. -/
def Stores.neoHash (s : Stores) (operationId stepId : String) : Option String :=
  (s.receipts.get? (operationId, stepId)).map NeoReceipt.effectHash

/-- Neither database has heard of the operation. -/
def Operation.Fresh (o : Operation) (s : Stores) : Prop :=
  s.journal.get? o.operationId = none ∧ ∀ stepId, s.receipts.get? (o.operationId, stepId) = none

/-- What a finished operation is meant to leave: the journal completed, the receipt of every
    step in both databases and the fence idle. -/
structure Operation.Settled (py : Source.Platform) (o : Operation) (s : Stores) : Prop where
  journal : s.journalState o.operationId = some .completed
  receipts : ∀ stepId ∈ o.steps, s.journalHash o.operationId stepId = some (o.hash py stepId) ∧
    s.neoHash o.operationId stepId = some (o.hash py stepId)
  fence : s.fenceStatus o.groupId = some .idle

/-- Both receipts of a step are recorded. -/
def Operation.Recorded (o : Operation) (s : Stores) (stepId : String) : Prop :=
  (s.journalHash o.operationId stepId).isSome ∧ (s.neoHash o.operationId stepId).isSome

/-- How often the action of a step was executed. -/
def Operation.executions (o : Operation) (s : Stores) (stepId : String) : ℕ :=
  s.performed.count (o.operationId, stepId)

/-- The run is asked of a fence it may have, for steps there are, with actions that return. -/
structure Operation.Feasible (o : Operation) (a : Attempt) (s : Stores) : Prop where
  fenceStatus : a.fenceStatus ∈ [.liveWriteInProgress, .backfillInProgress, .reconciling]
  fence : ((s.fences.get? o.groupId).getD .fresh).outcome ⟨a.leaseOwner, o.operationId, a.fenceStatus, a.now,
    a.now + max 1 a.leaseSeconds * 1000000, false⟩ = .acquired
  steps : ∀ stepId ∈ o.earlier, stepId ∈ graphOperationSteps
  actions : ∀ stepId ∈ o.steps, ∃ result, a.action stepId = .ok result

/-! ## What the receipts keep -/

section Receipts

variable {py : Source.Platform} {o : Operation} {a : Attempt} {s s' : Stores}

/-- Every receipt has the hash of its step, the journal has none that Neo4j lacks, and the
    operation is not quarantined. -/
structure Operation.Consistent (py : Source.Platform) (o : Operation) (s : Stores) : Prop where
  state : s.journalState o.operationId ≠ some .quarantine
  neo : ∀ stepId hash, s.neoHash o.operationId stepId = some hash → hash = o.hash py stepId
  journal : ∀ stepId hash, s.journalHash o.operationId stepId = some hash →
    s.neoHash o.operationId stepId = some hash

/-- A consistent operation stays one, and what is recorded of it stays recorded and is not
    executed again. -/
def Operation.Kept (py : Source.Platform) (o : Operation) (s s' : Stores) : Prop :=
  o.Consistent py s → o.Consistent py s' ∧
    ∀ stepId, o.Recorded s stepId → o.Recorded s' stepId ∧ o.executions s' stepId = o.executions s stepId

namespace Operation

theorem Fresh.consistent (fresh : o.Fresh s) : o.Consistent py s where
  state := by simp [Stores.journalState, fresh.1]
  neo := by simp [Stores.neoHash, fresh.2]
  journal := by simp [Stores.journalHash, fresh.1]

theorem Kept.refl (s : Stores) : o.Kept py s s := fun consistent => ⟨consistent, fun _ rec => ⟨rec, rfl⟩⟩

theorem Kept.trans {s'' : Stores} (first : o.Kept py s s') (second : o.Kept py s' s'') : o.Kept py s s'' := by
  intro consistent
  obtain ⟨between, kept⟩ := first consistent
  obtain ⟨after, kept'⟩ := second between
  refine ⟨after, ?_⟩
  intro stepId recorded
  obtain ⟨recorded', same⟩ := kept stepId recorded
  exact ⟨(kept' stepId recorded').1, (kept' stepId recorded').2.trans same⟩

end Operation

end Receipts

/-! ## Single calls of a run -/

section Steps

variable {py : Source.Platform} {o : Operation} {a : Attempt} {before : Option String} {s : Stores}

/-- The operation is under way: its fence is held, and its row is 'completed' if the last
    step was recorded since the run began. -/
structure Operation.Running (py : Source.Platform) (o : Operation) (a : Attempt) (before : Option String)
    (s : Stores) : Prop where
  consistent : o.Consistent py s
  fence : ∃ fence, s.fences.get? o.groupId = some fence ∧ fence.owned a.leaseOwner
  begun : before.isSome → s.journalHash o.operationId "embeddings_committed" = before
  state : s.journalState o.operationId = some
    (if s.journalHash o.operationId "embeddings_committed" = before then .neo4jFenced else .completed)

/-- A call that leaves the receipts, the journal and the actions alone. -/
theorem Operation.Kept.of_fences (s : Stores) (fences : Table String Fence) :
    o.Kept py s { s with fences := fences } :=
  fun consistent => ⟨⟨consistent.state, consistent.neo, consistent.journal⟩, fun _ recorded => ⟨recorded, rfl⟩⟩

theorem upsert_receipts (row excluded : JournalRow) (same : excluded.stepReceipts = row.stepReceipts) :
    (upsertGraphOperationJournal (some row) excluded).stepReceipts = row.stepReceipts := by
  apply Dict.ext
  intro stepId
  simp only [upsertGraphOperationJournal, same]
  rw [Dict.get?_insertAll _ row.stepReceipts.nodup]
  exact Option.or_self

/-- Beginning an operation again keeps the hashes of its row. -/
theorem journalHash_fenced (s : Stores) (b : Begin) (lease : GroupLease) (stepId : String) :
    (exec (.upsertJournal b.operationId (fencedRow b (s.journal.get? b.operationId) lease)) s).2.journalHash
      b.operationId stepId = s.journalHash b.operationId stepId := by
  simp only [Stores.journalHash, exec, Table.get?_set_self, Option.bind_some]
  cases found : s.journal.get? b.operationId with
  | none => rfl
  | some row =>
      rw [upsert_receipts row (fencedRow b (some row) lease) rfl]
      rfl

theorem journalState_fenced (s : Stores) (b : Begin) (lease : GroupLease) :
    (exec (.upsertJournal b.operationId (fencedRow b (s.journal.get? b.operationId) lease)) s).2.journalState
      b.operationId = some .neo4jFenced := by
  simp only [Stores.journalState, exec, Table.get?_set_self, Option.map_some, upsert_state]
  rfl

/-- The first receipt of a step in a row that is under way. -/
theorem record_first {row : JournalRow} {r : StepRecord} (first : row.stepReceipts.get? r.stepId = none)
    (asked : r.status = none) (state : row.state = .neo4jFenced ∨ row.state = .completed) :
    recordGraphOperationStep (some row) r = (.executed, { row with
      stepReceipts := row.stepReceipts.insert r.stepId ⟨r.effectHash, r.now⟩
      state := if r.completed then .completed else row.state }) := by
  have begun : ¬ (row.state = .claimed ∨ row.state = .planned) := by
    rcases state with h | h <;> simp [h]
  simp [recordGraphOperationStep, first, asked, begun]

/-- A fence that was taken is held by its new owner. -/
theorem Fence.owned_acquire {fence : Fence} {a : Acquisition} (acquired : fence.outcome a = .acquired)
    (active : a.status ≠ .quarantined) : (fence.acquire a).owned a.leaseOwner := by
  simp [acquire, acquired, owned, active]

/-! ## Beginning -/

theorem acquire_traces (py : Source.Platform) (o : Operation) (groupId leaseOwner operationId : String) (status : FenceStatus) (leaseSeconds now : Int)
    (s : Stores) :
    (acquireGroupFenceLease groupId leaseOwner operationId status leaseSeconds false now).Traces exec
      (o.Kept py) (fun r s' => match r with
        | .ok lease => lease.groupId = groupId ∧ lease.leaseOwner = leaseOwner ∧
            ∃ fences fence, s' = { s with fences := fences } ∧ fences.get? groupId = some fence ∧
              fence.owned leaseOwner
        | .error _ => status ∉ [.liveWriteInProgress, .backfillInProgress, .reconciling] ∨
            ((s.fences.get? groupId).getD .fresh).outcome ⟨leaseOwner, operationId, status, now,
              now + max 1 leaseSeconds * 1000000, false⟩ ≠ .acquired) s := by
  unfold acquireGroupFenceLease
  by_cases active : status ∈ [.liveWriteInProgress, .backfillInProgress, .reconciling]
  · rw [if_neg (not_not.mpr active)]
    apply Traces.request_bind (Operation.Kept.of_fences s _)
    simp only [exec]
    cases outcome : ((s.fences.get? groupId).getD .fresh).outcome ⟨leaseOwner, operationId, status, now,
        now + max 1 leaseSeconds * 1000000, false⟩ with
    | acquired =>
        refine ⟨rfl, rfl, _, _, rfl, Table.get?_set_self _ _ _, Fence.owned_acquire outcome ?_⟩
        intro same
        rw [show status = .quarantined from same] at active
        exact absurd active (by decide)
    | quarantined => exact .inr (by decide)
    | busy => exact .inr (by decide)
  · rw [if_pos active]
    exact .inl active

/-- Writing the row of a begun operation keeps what is recorded of it. -/
theorem kept_fenced {lease : GroupLease} {b : Begin} (same : b.operationId = o.operationId) :
    o.Kept py s
      (exec (.upsertJournal b.operationId (fencedRow b (s.journal.get? b.operationId) lease)) s).2 := by
  intro consistent
  have hashes := journalHash_fenced s b lease
  rw [same] at hashes ⊢
  refine ⟨⟨?_, consistent.neo, ?_⟩, ?_⟩
  · rw [← same, journalState_fenced]
    decide
  · intro stepId hash
    rw [hashes]
    exact consistent.journal stepId hash
  · intro stepId recorded
    refine ⟨⟨?_, recorded.2⟩, rfl⟩
    rw [hashes]
    exact recorded.1

theorem beginOperation_traces (a : Attempt) (consistent : o.Consistent py s) :
    (beginOperation ⟨true⟩ (o.begun a)).Traces exec (o.Kept py) (fun r s' => match r with
      | .ok lease => lease.groupId = o.groupId ∧ lease.leaseOwner = a.leaseOwner ∧
          o.Running py a (s.journalHash o.operationId "embeddings_committed") s'
      | .error _ => ¬ o.Feasible a s) s := by
  unfold beginOperation
  apply Traces.request_bind (Operation.Kept.refl s)
  apply Traces.bind (acquire_traces py o _ _ _ _ _ _ s)
  · intro e s' refused feasible
    rcases refused with inactive | taken
    · exact inactive feasible.fenceStatus
    · exact taken feasible.fence
  · rintro lease s' ⟨group, owner, fences, fence, rfl, found, held⟩
    rw [if_pos rfl]
    apply Traces.request_bind (Operation.Kept.refl _)
    have open_ : Option.filter (fun row => decide (row.state = .quarantine))
        (s.journal.get? o.operationId) = none := by
      rw [Option.filter_eq_none_iff]
      intro row stored quarantined
      apply consistent.state
      simp [Stores.journalState, stored, of_decide_eq_true quarantined]
    simp only [exec, Operation.begun, open_]
    let t : Stores := { s with fences := fences }
    have kept : o.Kept py t (exec (.upsertJournal o.operationId
        (fencedRow (o.begun a) (s.journal.get? o.operationId) lease)) t).2 := kept_fenced (b := o.begun a) rfl
    have hashes := journalHash_fenced t (o.begun a) lease "embeddings_committed"
    apply Traces.request_bind kept
    refine ⟨group, owner, (kept (Operation.Kept.of_fences s fences consistent).1).1, ⟨fence, found, held⟩,
      fun _ => hashes, ?_⟩
    exact (journalState_fenced t (o.begun a) lease).trans (congrArg some (if_pos hashes).symm)

/-! ## Steps -/

/-- The journal answers with the hash of the step. -/
theorem readJournalHash_traces (running : o.Running py a before s) (stepId : String) :
    (readJournalHash ⟨true⟩ (o.step a stepId)).Traces exec (o.Kept py) (fun r s' =>
      r = .ok (s.journalHash o.operationId stepId) ∧ s' = s) s := by
  obtain ⟨row, found, state⟩ := Option.map_eq_some_iff.mp running.state
  unfold readJournalHash
  rw [if_pos rfl]
  apply Traces.request_bind (Operation.Kept.refl s)
  have open_ : row.state ≠ .quarantine := by
    rw [state]
    split <;> decide
  simp only [exec, Operation.step, found, if_neg open_]
  exact ⟨by simp [Stores.journalHash, found], rfl⟩

/-- The action of a step that lacks a receipt. -/
theorem kept_act {stepId : String} (missing : s.journalHash o.operationId stepId = none) :
    o.Kept py s { s with performed := s.performed ++ [(o.operationId, stepId)] } := by
  intro consistent
  refine ⟨⟨consistent.state, consistent.neo, consistent.journal⟩, ?_⟩
  intro other recorded
  refine ⟨recorded, ?_⟩
  have apart : stepId ≠ other := by
    rintro rfl
    simp [Operation.Recorded, missing] at recorded
  simp [Operation.executions, List.count_append, apart]

theorem neoHash_merge (s : Stores) (stepId groupId hash other : String) :
    (exec (.mergeReceipt o.operationId stepId groupId hash) s).2.neoHash o.operationId other =
      if other = stepId then some hash else s.neoHash o.operationId other := by
  simp only [Stores.neoHash, exec, Table.get?_set, Prod.mk.injEq, true_and]
  split <;> rfl

/-- The receipt in Neo4j with the hash of its step. -/
theorem kept_merge (stepId : String) : o.Kept py s
    (exec (.mergeReceipt o.operationId stepId o.groupId (o.hash py stepId)) s).2 := by
  intro consistent
  refine ⟨⟨consistent.state, ?_, ?_⟩, ?_⟩
  · intro other hash
    rw [neoHash_merge]
    split
    · rename_i same
      intro found
      rw [same]
      exact (Option.some.inj found).symm
    · exact consistent.neo other hash
  · intro other hash found
    have neo := consistent.journal other hash found
    rw [neoHash_merge]
    split
    · rename_i same
      rw [consistent.neo other hash neo, same]
    · exact neo
  · intro other recorded
    refine ⟨⟨recorded.1, ?_⟩, rfl⟩
    rw [neoHash_merge]
    split
    · rfl
    · exact recorded.2

section Record

variable {row : JournalRow} {stepId : String}
variable (found : s.journal.get? o.operationId = some row)
variable (state : row.state = .neo4jFenced ∨ row.state = .completed)
variable (missing : s.journalHash o.operationId stepId = none)

include found state missing

/-- The journal takes the first receipt of a step. -/
theorem exec_record (hash : String) (completed : Bool) (now : Int) :
    exec (.recordStep o.operationId ⟨stepId, hash, completed, none, none, now⟩) s =
      (.executed, { s with journal := s.journal.set o.operationId { row with
        stepReceipts := row.stepReceipts.insert stepId ⟨hash, now⟩
        state := if completed then .completed else row.state } }) := by
  have first : row.stepReceipts.get? stepId = none := by
    simpa [Stores.journalHash, found] using missing
  simp only [exec, found]
  rw [record_first first rfl state]

theorem journalHash_record (hash : String) (completed : Bool) (now : Int) (other : String) :
    (exec (.recordStep o.operationId ⟨stepId, hash, completed, none, none, now⟩) s).2.journalHash
      o.operationId other = if other = stepId then some hash else s.journalHash o.operationId other := by
  rw [exec_record found state missing]
  simp only [Stores.journalHash, Table.get?_set_self, Option.bind_some, found, Dict.get?_insert]
  split <;> rfl

theorem journalState_record (hash : String) (completed : Bool) (now : Int) :
    (exec (.recordStep o.operationId ⟨stepId, hash, completed, none, none, now⟩) s).2.journalState
      o.operationId = some (if completed then .completed else row.state) := by
  rw [exec_record found state missing]
  simp [Stores.journalState]

/-- The receipt in the journal after the one in Neo4j. -/
theorem kept_record {hash : String} (neo : s.neoHash o.operationId stepId = some hash) (completed : Bool)
    (now : Int) : o.Kept py s
      (exec (.recordStep o.operationId ⟨stepId, hash, completed, none, none, now⟩) s).2 := by
  have hashes := journalHash_record found state missing hash completed now
  intro consistent
  have same : (exec (.recordStep o.operationId ⟨stepId, hash, completed, none, none, now⟩) s).2.receipts =
      s.receipts := rfl
  refine ⟨⟨?_, consistent.neo, ?_⟩, ?_⟩
  · rw [journalState_record found state missing]
    rcases state with h | h <;> cases completed <;> simp [h]
  · intro other current
    rw [hashes]
    split
    · rename_i here
      rintro ⟨⟩
      rw [here]
      exact neo
    · exact consistent.journal other current
  · intro other recorded
    refine ⟨⟨?_, recorded.2⟩, rfl⟩
    rw [hashes]
    split
    · rfl
    · exact recorded.1

end Record

/-- The row of an operation that is under way. -/
theorem Operation.Running.row (running : o.Running py a before s) : ∃ row,
    s.journal.get? o.operationId = some row ∧ (row.state = .neo4jFenced ∨ row.state = .completed) := by
  obtain ⟨row, found, state⟩ := Option.map_eq_some_iff.mp running.state
  refine ⟨row, found, ?_⟩
  rw [state]
  split
  · exact .inl rfl
  · exact .inr rfl

/-- The record of the last step, and of no other, completes the row. -/
theorem Operation.Running.record (running : o.Running py a before s) {stepId hash : String}
    (missing : s.journalHash o.operationId stepId = none) (neo : s.neoHash o.operationId stepId = some hash)
    (now : Int) : o.Running py a before (exec (.recordStep o.operationId
      ⟨stepId, hash, stepId = "embeddings_committed", none, none, now⟩) s).2 := by
  obtain ⟨row, found, state⟩ := Option.map_eq_some_iff.mp running.state
  have under : row.state = .neo4jFenced ∨ row.state = .completed := by
    rw [state]
    split
    · exact .inl rfl
    · exact .inr rfl
  have hashes := journalHash_record found under missing hash (stepId = "embeddings_committed") now
  refine ⟨(kept_record found under missing neo _ now running.consistent).1, running.fence, ?_, ?_⟩
  · intro recorded
    rw [hashes, if_neg, running.begun recorded]
    rintro rfl
    rw [running.begun recorded] at missing
    simp [missing] at recorded
  · rw [journalState_record found under missing, hashes, state]
    by_cases last : stepId = "embeddings_committed"
    · subst last
      have first : before = none := by
        cases recorded : before with
        | none => rfl
        | some h =>
            have same := running.begun (by simp [recorded])
            rw [missing, recorded] at same
            cases same
      simp [first]
    · simp [last, Ne.symm last]

/-- A step that the journal lacks: its action, its receipt in Neo4j, its receipt in the journal. -/
theorem executeStep_traces (running : o.Running py a before s) {stepId : String}
    (missing : s.journalHash o.operationId stepId = none) :
    (executeStep ⟨true⟩ (o.step a stepId) (o.hash py stepId)).Traces exec (o.Kept py) (fun r s' => match r with
      | .ok _ => o.Running py a before s' ∧ o.Recorded s' stepId
      | .error _ => ∀ result, a.action stepId ≠ .ok result) s := by
  unfold executeStep
  apply Traces.request_bind (kept_act missing)
  let s₁ : Stores := (exec (.act o.operationId stepId (a.action stepId)) s).2
  have running₁ : o.Running py a before s₁ :=
    ⟨(kept_act missing running.consistent).1, running.fence, running.begun, running.state⟩
  cases acted : a.action stepId with
  | error message =>
      simp only [exec, Operation.step, acted]
      exact fun _ => by simp
  | ok result =>
      simp only [exec, Operation.step, acted]
      apply Traces.request_bind (kept_merge stepId)
      let s₂ : Stores := (exec (.mergeReceipt o.operationId stepId o.groupId (o.hash py stepId)) s₁).2
      have running₂ : o.Running py a before s₂ :=
        ⟨(kept_merge stepId running₁.consistent).1, running.fence, running.begun, running.state⟩
      have merged : s₂.neoHash o.operationId stepId = some (o.hash py stepId) := by
        rw [neoHash_merge, if_pos rfl]
      have missing₂ : s₂.journalHash o.operationId stepId = none := missing
      obtain ⟨row, found, under⟩ := running₂.row
      rw [if_pos trivial]
      apply Traces.request_bind (kept_record found under missing₂ merged _ _)
      have executed := congrArg Prod.fst (exec_record found under missing₂ (o.hash py stepId)
        (stepId = "embeddings_committed") (a.stepNow stepId))
      have open_ : ¬ (exec (.recordStep o.operationId ⟨stepId, o.hash py stepId,
          stepId = "embeddings_committed", none, none, a.stepNow stepId⟩) s₂).1 = .quarantined := by
        rw [executed]
        exact fun same => by cases same
      rw [if_neg open_]
      refine ⟨running₂.record missing₂ merged (a.stepNow stepId), ?_, ?_⟩
      · rw [journalHash_record found under missing₂, if_pos rfl]
        rfl
      · show (s₂.neoHash o.operationId stepId).isSome
        rw [merged]
        rfl

/-- No recorded hash of a consistent operation conflicts with its step. -/
theorem conflictingHash_none (consistent : o.Consistent py s) (stepId : String) :
    conflictingHash [s.journalHash o.operationId stepId, s.neoHash o.operationId stepId] (o.hash py stepId) =
      none := by
  simp only [conflictingHash, List.find?_eq_none, List.mem_filterMap, id_eq, exists_eq_right, List.mem_cons,
    List.not_mem_nil, or_false]
  intro hash recorded
  have same : hash = o.hash py stepId := by
    rcases recorded with journal | neo
    · exact consistent.neo stepId hash (consistent.journal stepId hash journal.symm)
    · exact consistent.neo stepId hash neo.symm
  simp [same]

theorem runStep_traces (running : o.Running py a before s) (stepId : String) :
    (runStep py ⟨true⟩ (o.step a stepId)).Traces exec (o.Kept py) (fun r s' => match r with
      | .ok _ => o.Running py a before s' ∧ o.Recorded s' stepId
      | .error _ => ¬ (stepId ∈ graphOperationSteps ∧ ∃ result, a.action stepId = .ok result)) s := by
  unfold runStep
  by_cases valid : stepId ∈ graphOperationSteps
  · rw [if_neg (show ¬ (o.step a stepId).stepId ∉ graphOperationSteps from not_not.mpr valid)]
    apply Traces.bind (readJournalHash_traces running stepId)
    · rintro e s' ⟨⟨⟩, _⟩
    · rintro pgHash s' ⟨read, rfl⟩
      cases read
      apply Traces.request_bind (Operation.Kept.refl _)
      have agree : conflictingHash [s'.journalHash o.operationId stepId,
          (exec (.readReceipt (o.step a stepId).operationId (o.step a stepId).stepId) s').1]
          (computeStepEffectHash py (o.step a stepId).effectPayload) = none :=
        conflictingHash_none running.consistent stepId
      rw [agree]
      dsimp only
      cases recorded : s'.journalHash o.operationId stepId with
      | some hash =>
          have neo := running.consistent.journal stepId hash recorded
          have same := running.consistent.neo stepId hash neo
          subst same
          split
          · have both : o.Recorded s' stepId := by simp [Operation.Recorded, recorded, neo]
            exact ⟨running, both⟩
          · rename_i differs
            exact absurd ⟨rfl, neo⟩ differs
      | none =>
          split
          · rename_i both
            cases both.1
          · split
            · rename_i unjournaled
              exact absurd unjournaled.2 (by decide)
            · apply (executeStep_traces running recorded).weaken
              intro r s' ends
              cases r with
              | ok => exact ends
              | error =>
                  rintro ⟨-, result, acted⟩
                  exact ends result acted
  · rw [if_pos (show (o.step a stepId).stepId ∉ graphOperationSteps from valid)]
    exact fun feasible => valid feasible.1

theorem runSteps_traces (running : o.Running py a before s) (stepIds : List String) :
    (o.runSteps py a stepIds).Traces exec (o.Kept py) (fun r s' => match r with
      | .ok _ => o.Running py a before s' ∧ ∀ stepId ∈ stepIds, o.Recorded s' stepId
      | .error _ => ¬ ∀ stepId ∈ stepIds, stepId ∈ graphOperationSteps ∧
          ∃ result, a.action stepId = .ok result) s := by
  induction stepIds generalizing s with
  | nil => exact ⟨running, by simp⟩
  | cons stepId rest ih =>
      apply Traces.bind (runStep_traces running stepId)
      · intro e s' failed feasible
        exact failed (feasible stepId (by simp))
      · rintro outcome s' ⟨running', recorded⟩
        apply ((ih running').moved Operation.Kept.refl Operation.Kept.trans).weaken
        intro r s'' ends
        cases r with
        | error =>
            intro feasible
            exact ends.1 fun other mem => feasible other (List.mem_cons_of_mem _ mem)
        | ok =>
            refine ⟨ends.1.1, ?_⟩
            intro other mem
            rcases List.mem_cons.mp mem with rfl | later
            · exact ((ends.2 running'.consistent).2 other recorded).1
            · exact ends.1.2 other later

/-! ## Whole runs -/

/-- A fence that is held is idle after its owner gave it up. -/
theorem exec_release {groupId leaseOwner : String} {fence : Fence} (bumpEpoch : Bool)
    (found : s.fences.get? groupId = some fence) (held : fence.owned leaseOwner) :
    ∃ fences, (exec (.releaseFence groupId leaseOwner bumpEpoch) s).2 = { s with fences := fences } ∧
      (fences.get? groupId).map Fence.status = some .idle := by
  simp only [exec, found]
  refine ⟨_, rfl, ?_⟩
  simp [Fence.release, held]

theorem kept_release (groupId leaseOwner : String) (bumpEpoch : Bool) :
    o.Kept py s (exec (.releaseFence groupId leaseOwner bumpEpoch) s).2 := by
  simp only [exec]
  split
  · exact Operation.Kept.refl s
  · exact Operation.Kept.of_fences s _

/-- With all its steps recorded and the fence given up, all that can be missing is the state
    of the row. -/
theorem Operation.Running.settled_iff (running : o.Running py a before s)
    (recorded : ∀ stepId ∈ o.steps, o.Recorded s stepId) {fences : Table String Fence}
    (idle : (fences.get? o.groupId).map Fence.status = some .idle) :
    o.Settled py { s with fences := fences } ↔ before = none := by
  have last := (recorded "embeddings_committed" (by simp [Operation.steps])).1
  constructor
  · intro settled
    by_contra begun
    have same := running.begun (Option.isSome_iff_ne_none.mpr begun)
    have state := running.state.symm.trans settled.journal
    rw [if_pos same] at state
    cases state
  · intro first
    refine ⟨?_, ?_, idle⟩
    · refine running.state.trans (congrArg some (if_neg ?_))
      rw [first]
      exact Option.isSome_iff_ne_none.mp last
    · intro stepId mem
      obtain ⟨hash, found⟩ := Option.isSome_iff_exists.mp (recorded stepId mem).1
      have neo := running.consistent.journal stepId hash found
      rw [← running.consistent.neo stepId hash neo]
      exact ⟨found, neo⟩

/-- A run from a consistent state settles the operation, but for the state of its row: that
    is 'completed' only if the last step was not recorded before the run. -/
theorem program_traces (a : Attempt) (consistent : o.Consistent py s) :
    (o.program py a).Traces exec (o.Kept py) (fun r s' => match r with
      | .ok _ => o.Settled py s' ↔ s.journalHash o.operationId "embeddings_committed" = none
      | .error _ => ¬ o.Feasible a s) s := by
  apply Traces.bind (beginOperation_traces a consistent)
  · intro e s' refused
    exact refused
  · rintro lease s₁ ⟨group, owner, running⟩
    apply Traces.bind (runSteps_traces running o.steps)
    · intro e s' failed feasible
      apply failed
      intro stepId mem
      refine ⟨?_, feasible.actions stepId mem⟩
      rcases List.mem_append.mp mem with early | last
      · exact feasible.steps stepId early
      · rw [List.mem_singleton.mp last]
        decide
    · rintro - s₂ ⟨running₂, recorded⟩
      obtain ⟨fence, found, held⟩ := running₂.fence
      obtain ⟨fences, released, idle⟩ := exec_release a.bumpEpoch found held
      apply Traces.request_bind (kept_release _ _ _)
      rw [group, owner, released]
      exact running₂.settled_iff recorded idle

end Steps

section History

variable (py : Source.Platform) (o : Operation)

/-- The operation after runs that were cut off and begun again at will. -/
def Operation.history (stores : Stores) (turns : List (Turn Attempt)) : Process Call GraphError Unit Stores :=
  Process.run exec (o.program py) ⟨.done (), stores⟩ turns

variable {py o}

/-- What a history keeps of the stores, and that its program goes on keeping it. -/
theorem Operation.Fresh.history {stores : Stores} (fresh : o.Fresh stores) (py : Source.Platform)
    (turns : List (Turn Attempt)) :
    o.Consistent py (o.history py stores turns).shared ∧
      ∀ more, o.Kept py (o.history py stores turns).shared (o.history py stores (turns ++ more)).shared := by
  have alone : ∀ a s, o.Consistent py s → (o.program py a).Traces exec (o.Kept py) (fun _ _ => True) s := by
    intro a s consistent
    exact (program_traces a consistent).weaken fun _ _ _ => trivial
  have keeps : ∀ {s s'}, o.Consistent py s → o.Kept py s s' → o.Consistent py s' := by
    intro s s' consistent kept
    exact (kept consistent).1
  have start : o.Consistent py stores := fresh.consistent
  obtain ⟨kept, traces⟩ := Process.run_moves (p := ⟨.done (), stores⟩) Operation.Kept.refl Operation.Kept.trans
    keeps alone trivial start turns
  refine ⟨keeps start kept, ?_⟩
  intro more
  rw [Operation.history, Operation.history, Process.run_append]
  exact (Process.run_moves Operation.Kept.refl Operation.Kept.trans keeps alone traces (keeps start kept)
    more).1

end History

/-! ## One operation -/

def entityOperation : Operation := ⟨"operation", "group", ["entities_upserted"], fun _ => .num 1⟩

def steadyAttempt : Attempt :=
  ⟨"graph_write", "worker", 60, .liveWriteInProgress, none, 0, fun _ => .ok .null, fun _ => 0, false⟩

theorem entityOperation_fresh : entityOperation.Fresh .empty := ⟨rfl, fun _ => rfl⟩

/-- A run that is cut off before the journal has the receipt of its last step, whose action was executed. -/
def cutOffRun : List (Turn Attempt) := .restart steadyAttempt :: List.replicate 13 .call

/-- Another worker, after the lease of the first one has run out. -/
def lateAttempt : Attempt := { steadyAttempt with leaseOwner := "worker_2", now := 61000000, stepNow := fun _ => 61000000 }

theorem entityOperation_feasible : entityOperation.Feasible lateAttempt
    (entityOperation.history Source.referencePlatform .empty cutOffRun).shared where
  fenceStatus := by decide
  fence := by decide +kernel
  steps := by decide
  actions := fun _ _ => ⟨.null, rfl⟩

/-- A run to its end: the four calls of the beginning, five for each step and the release. -/
def wholeRun : List (Turn Attempt) := .restart steadyAttempt :: List.replicate 15 .call

end Neurons.Journal
