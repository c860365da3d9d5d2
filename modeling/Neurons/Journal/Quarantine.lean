import Neurons.Journal.Coordinator
import Neurons.Lib.CheckThenAct

/-! # Quarantine

A conflict of effect hashes quarantines the fence of the group and the journal row of the
operation. Every statement on a fence looks at its status first. Of the writers of the
journal only `begin_operation` and `run_step` look, in a call of their own before they
write: a coordinator that looked just before the quarantine still writes over it.
-/

namespace Neurons.Journal

open Neurons.Lib

/-! ## Clients -/

/-- A client of the coordinator. What it asks next may depend on every result it had. -/
inductive Script where
  | stop
  | beginOperation (b : Begin) (next : Except GraphError GroupLease → Script)
  | runStep (t : Step) (next : Except GraphError (StepOutcome × Option Json) → Script)
  | completeOperation (lease : GroupLease) (bumpEpoch : Bool) (next : Except GraphError Unit → Script)

def Script.program (py : Source.Platform) (coordinator : Coordinator) : Script → Graph Unit
  | .stop => .done ()
  | .beginOperation b next =>
      (Journal.beginOperation coordinator b).attempt.bind fun r => (next r).program py coordinator
  | .runStep t next =>
      (Journal.runStep py coordinator t).attempt.bind fun r => (next r).program py coordinator
  | .completeOperation lease bumpEpoch next =>
      (Journal.completeOperation lease bumpEpoch).attempt.bind fun r => (next r).program py coordinator

/-- Clients at the start of their scripts. -/
def clientPool {ι : Type} (py : Source.Platform) (coordinators : ι → Coordinator) (scripts : ι → Script)
    (stores : Stores) : Pool Call GraphError Unit Stores ι :=
  ⟨fun i => (scripts i).program py (coordinators i), stores⟩

/-! ## What is final -/

def Stores.fenceStatus (s : Stores) (groupId : String) : Option FenceStatus :=
  (s.fences.get? groupId).map Fence.status

def Stores.journalState (s : Stores) (operationId : String) : Option JournalState :=
  (s.journal.get? operationId).map JournalRow.state

/-- The exchange gives out a lease on the fence of the group. -/
def Grants (groupId : String) : Prog.Exchange Call → Prop
  | ⟨.acquireFence g _, reply⟩ => g = groupId ∧ reply.1 = .acquired
  | _ => False

/-- The journal answers that a step of the operation conflicts. -/
def RecordsConflict (operationId : String) : Prog.Exchange Call → Prop
  | ⟨.recordStep k _, reply⟩ => k = operationId ∧ reply = .quarantined
  | _ => False

section Final

variable {ι : Type} [DecidableEq ι]

/-- Along a schedule, whatever is in quarantine stays there, nobody gets a lease on it, and an operation
    with a conflict is never completed. -/
structure QuarantineFinal (pool : Pool Call GraphError Unit Stores ι) (schedule : List ι) : Prop where
  fence : ∀ first next rest, schedule = first ++ next ++ rest → ∀ groupId,
    (pool.run exec first).shared.fenceStatus groupId = some .quarantined →
    (pool.run exec (first ++ next)).shared.fenceStatus groupId = some .quarantined
  lease : ∀ first i rest, schedule = first ++ i :: rest → ∀ groupId,
    (pool.run exec first).shared.fenceStatus groupId = some .quarantined →
    ∀ exchange ∈ (pool.run exec first).exchange exec i, ¬ Grants groupId exchange
  journal : ∀ first next rest, schedule = first ++ next ++ rest → ∀ operationId,
    (pool.run exec first).shared.journalState operationId = some .quarantine →
    (pool.run exec (first ++ next)).shared.journalState operationId = some .quarantine
  conflict : ∀ first i next rest, schedule = first ++ i :: next ++ rest → ∀ operationId,
    ∀ exchange ∈ (pool.run exec first).exchange exec i, RecordsConflict operationId exchange →
    (pool.run exec (first ++ i :: next)).shared.journalState operationId ≠ some .completed

end Final

/-! ## Conflicts -/

/-- Whatever the databases answer, the program raises. -/
def Raises {α : Type} : Graph α → Prop
  | .done _ => False
  | .fail _ => True
  | .call c k => ∀ s, Raises (k (exec c s).1)

/-- Once it had such an exchange, the program raises. -/
def RaisesAfter {α : Type} (shows : Prog.Exchange Call → Prop) : Graph α → Prop
  | .done _ | .fail _ => True
  | .call c k => ∀ s, (shows ⟨c, (exec c s).1⟩ → Raises (k (exec c s).1)) ∧ RaisesAfter shows (k (exec c s).1)

/-- The exchange shows a hash of the step that is not the one of its effect. -/
def ShowsConflict (stepId effectHash : String) : Prog.Exchange Call → Prop
  | ⟨.getJournal _, reply⟩ => ∃ row ∈ reply, ∃ receipt ∈ row.stepReceipts.get? stepId,
      receipt.effectHash ≠ "" ∧ receipt.effectHash ≠ effectHash
  | ⟨.readReceipt _ _, reply⟩ => ∃ hash ∈ reply, hash ≠ "" ∧ hash ≠ effectHash
  | ⟨.recordStep _ _, reply⟩ => reply = .quarantined
  | _ => False

/-- The call is about the journal row of the operation. -/
def Touches (operationId : String) : {β : Type} → Call β → Prop
  | _, .getJournal k | _, .upsertJournal k _ | _, .recordStep k _ => k = operationId
  | _, _ => False

/-- The call writes a state into the row without looking at it: the row of a begun operation, or the
    receipt of the step that completes it. -/
def Overwrites (operationId : String) : {β : Type} → Call β → Prop
  | _, .upsertJournal k row => k = operationId ∧ row.state ≠ .quarantine
  | _, .recordStep k r =>
      k = operationId ∧ r.completed = true ∧ r.status ∉ [some "quarantine", some "quarantined"]
  | _, _ => False

def Locked (operationId : String) (s : Stores) : Prop := s.journalState operationId = some .quarantine

/-- No operation is quarantined while another client stands between its own look at the journal row of
    that operation and its writing of the row. -/
def Undisturbed {ι : Type} [DecidableEq ι] (pool : Pool Call GraphError Unit Stores ι) (schedule : List ι) : Prop :=
  pool.Unchallenged exec Touches Overwrites Locked schedule

/-! ## One call -/

theorem Fence.acquire_quarantined {fence : Fence} (a : Acquisition) (held : fence.status = .quarantined) :
    fence.outcome a = .quarantined ∧ fence.acquire a = fence := by
  simp [acquire, outcome, held]

theorem Fence.release_quarantined {fence : Fence} (leaseOwner : String) (bumpEpoch : Bool)
    (held : fence.status = .quarantined) : fence.release leaseOwner bumpEpoch = fence := by
  simp [release, owned, held]

section Calls

variable {s : Stores}

theorem fenceStatus_set (fences : Table String Fence) (k groupId : String) (fence : Fence) :
    ((fences.set k fence).get? groupId).map Fence.status =
      if groupId = k then some fence.status else (fences.get? groupId).map Fence.status := by
  rw [Table.get?_set]
  split <;> rfl

/-- No call takes a fence out of quarantine. -/
theorem exec_fence {β : Type} (c : Call β) (groupId : String)
    (held : s.fenceStatus groupId = some .quarantined) :
    (exec c s).2.fenceStatus groupId = some .quarantined := by
  cases c with
  | acquireFence g a =>
      simp only [Stores.fenceStatus, exec, fenceStatus_set]
      by_cases same : groupId = g
      · subst same
        obtain ⟨fence, found, status⟩ := Option.map_eq_some_iff.mp held
        rw [if_pos rfl, found, Option.getD_some, (Fence.acquire_quarantined a status).2, status]
      · rw [if_neg same]
        exact held
  | releaseFence g owner bumpEpoch =>
      cases found : s.fences.get? g with
      | none =>
          simp only [exec, found]
          exact held
      | some fence =>
          simp only [Stores.fenceStatus, exec, found, fenceStatus_set]
          by_cases same : groupId = g
          · subst same
            have status : fence.status = .quarantined := by simpa [Stores.fenceStatus, found] using held
            rw [if_pos rfl, Fence.release_quarantined owner bumpEpoch status, status]
          · rw [if_neg same]
            exact held
  | quarantineFence g operationId reason =>
      simp only [Stores.fenceStatus, exec, fenceStatus_set]
      by_cases same : groupId = g
      · rw [if_pos same]
        rfl
      · rw [if_neg same]
        exact held
  | ensureNeo4jSafetySchema | readReceipt | mergeReceipt | getJournal | upsertJournal | recordStep | act =>
      exact held

/-- A quarantined fence is never leased. -/
theorem exec_lease {β : Type} (c : Call β) (groupId : String)
    (held : s.fenceStatus groupId = some .quarantined) : ¬ Grants groupId ⟨c, (exec c s).1⟩ := by
  intro grants
  cases c with
  | acquireFence g a =>
      obtain ⟨rfl, granted⟩ := grants
      obtain ⟨fence, found, status⟩ := Option.map_eq_some_iff.mp held
      simp only [exec, found, Option.getD_some, (Fence.acquire_quarantined a status).1] at granted
      exact absurd granted (by decide)
  | _ => exact grants

theorem journalState_set (journal : Table String JournalRow) (k operationId : String) (row : JournalRow) :
    ((journal.set k row).get? operationId).map JournalRow.state =
      if operationId = k then some row.state else (journal.get? operationId).map JournalRow.state := by
  rw [Table.get?_set]
  split <;> rfl

/-- The state an upsert writes is the one it was given. -/
theorem upsert_state (stored : Option JournalRow) (row : JournalRow) :
    (upsertGraphOperationJournal stored row).state = row.state := by
  cases stored <;> rfl

/-- A recorded step leaves a quarantined row in quarantine, unless it is the first receipt
    of the step that completes the operation. -/
theorem record_quarantined_iff {row : JournalRow} (r : StepRecord) (held : row.state = .quarantine) :
    (recordGraphOperationStep (some row) r).2.state = .quarantine ↔
      (r.completed → r.status ∈ [some "quarantine", some "quarantined"] ∨
        (row.stepReceipts.get? r.stepId).isSome) := by
  simp only [recordGraphOperationStep, Option.getD_some, List.mem_cons, List.not_mem_nil, or_false]
  by_cases asked : r.status = some "quarantine" ∨ r.status = some "quarantined"
  · simp [asked]
  · cases found : row.stepReceipts.get? r.stepId with
    | some entry =>
        simp only [asked, if_false, Option.isSome_some, or_true, implies_true, iff_true]
        split
        · rfl
        · exact held
    | none => cases completed : r.completed <;> simp [asked, held]

/-- A call that writes no state over a quarantined row leaves it in quarantine. -/
theorem exec_kept {operationId : String} {β : Type} {c : Call β} (held : Locked operationId s)
    (spares : ¬ Overwrites operationId c) : Locked operationId (exec c s).2 := by
  unfold Locked at held ⊢
  cases c with
  | upsertJournal k row =>
      simp only [Stores.journalState, exec, journalState_set, upsert_state]
      split
      · rename_i same
        by_contra other
        exact spares ⟨same.symm, fun quarantined => other (by rw [quarantined])⟩
      · exact held
  | recordStep k r =>
      simp only [Stores.journalState, exec, journalState_set]
      split
      · rename_i same
        subst same
        obtain ⟨row, found, state⟩ := Option.map_eq_some_iff.mp held
        rw [found, (record_quarantined_iff r state).mpr]
        intro completed
        by_contra other
        exact spares ⟨rfl, completed, fun asked => other (.inl asked)⟩
      · exact held
  | releaseFence g owner bumpEpoch =>
      simp only [exec]
      split <;> exact held
  | ensureNeo4jSafetySchema | acquireFence | quarantineFence | readReceipt | mergeReceipt | getJournal | act =>
      exact held

/-- A call on other rows locks nothing. -/
theorem exec_frame {operationId : String} {β : Type} {c : Call β} (apart : ¬ Touches operationId c)
    (found : Locked operationId (exec c s).2) : Locked operationId s := by
  unfold Locked at found ⊢
  cases c with
  | upsertJournal k row =>
      have other : operationId ≠ k := Ne.symm apart
      simpa only [Stores.journalState, exec, journalState_set, if_neg other] using found
  | recordStep k r =>
      have other : operationId ≠ k := Ne.symm apart
      simpa only [Stores.journalState, exec, journalState_set, if_neg other] using found
  | releaseFence g owner bumpEpoch =>
      simp only [exec] at found
      split at found <;> exact found
  | ensureNeo4jSafetySchema | acquireFence | quarantineFence | readReceipt | mergeReceipt | getJournal | act =>
      exact found

/-- A step that is answered with a conflict leaves its row in quarantine. -/
theorem record_conflict {stored : Option JournalRow} {r : StepRecord}
    (conflict : (recordGraphOperationStep stored r).1 = .quarantined) :
    (recordGraphOperationStep stored r).2.state = .quarantine := by
  revert conflict
  simp only [recordGraphOperationStep]
  split
  · simp
  · split
    · split <;> simp
    · simp

end Calls

/-! ## The looks of the coordinator -/

section Programs

variable {α β : Type} {operationId : String}

theorem Overwrites.touches {γ : Type} {c : Call γ} (overwrites : Overwrites operationId c) :
    Touches operationId c := by
  cases c with
  | upsertJournal | recordStep => exact overwrites.1
  | _ => exact overwrites.elim

/-- The program looks at the row of the operation before it writes it, and writes none in quarantine. -/
structure Careful (operationId : String) (p : Graph α) : Prop where
  heeds : p.Heeds exec Touches Overwrites Locked operationId
  looks : ¬ p.MayWrite exec Touches Overwrites operationId

theorem Careful.of_uses {p : Graph α} (uses : p.Uses fun c => ¬ Touches operationId c) : Careful operationId p :=
  ⟨uses.heeds, uses.not_mayWrite Overwrites.touches⟩

theorem Careful.bind {p : Graph α} {f : α → Graph β} (first : Careful operationId p)
    (rest : ∀ a, Careful operationId (f a)) : Careful operationId (p.bind f) :=
  ⟨first.heeds.bind (fun a => (rest a).heeds) fun a => (rest a).looks,
    fun may => first.looks (may.of_bind fun a => (rest a).looks)⟩

theorem Careful.attempt {p : Graph α} (careful : Careful operationId p) : Careful operationId p.attempt :=
  ⟨Prog.heeds_attempt.mpr careful.heeds, Prog.mayWrite_attempt.not.mpr careful.looks⟩

/-- A look at the journal, with what follows it. -/
theorem Careful.getJournal {k : String} {f : Option JournalRow → Graph α}
    (heeds : ∀ found, (f found).Heeds exec Touches Overwrites Locked operationId)
    (stops : ∀ row, row.state = .quarantine → ¬ (f (some row)).MayWrite exec Touches Overwrites operationId)
    (other : k ≠ operationId → ∀ found, (f found).Uses fun c => ¬ Touches operationId c) :
    Careful operationId ((Prog.request (.getJournal k)).bind f) where
  heeds := by
    intro s
    refine ⟨?_, heeds _⟩
    rintro rfl found
    obtain ⟨row, stored, state⟩ := Option.map_eq_some_iff.mp found
    have answer : (exec (.getJournal k) s).1 = some row := stored
    rw [answer]
    exact stops row state
  looks := by
    rintro (now | ⟨apart, s, later⟩)
    · exact now
    · exact (other apart _).not_mayWrite Overwrites.touches later

theorem acquireGroupFenceLease_uses (groupId leaseOwner owner : String) (status : FenceStatus)
    (leaseSeconds : Int) (bumpEpoch : Bool) (now : Int) :
    (acquireGroupFenceLease groupId leaseOwner owner status leaseSeconds bumpEpoch now).Uses
      fun c => ¬ Touches operationId c := by
  unfold acquireGroupFenceLease
  split
  · exact trivial
  · refine ⟨id, ?_⟩
    rintro ⟨outcome, fence⟩
    cases outcome <;> exact trivial

theorem beginOperation_careful (coordinator : Coordinator) (b : Begin) :
    Careful operationId (beginOperation coordinator b) := by
  unfold beginOperation
  refine Careful.bind (p := Prog.request .ensureNeo4jSafetySchema) (.of_uses ⟨id, fun _ => trivial⟩) fun _ => ?_
  refine Careful.bind (.of_uses (acquireGroupFenceLease_uses ..)) fun lease => ?_
  split
  · apply Careful.getJournal
    · intro found
      split
      · exact .call_apart id fun _ => trivial
      · exact .call_last Overwrites.touches fun _ => trivial
    · intro row state
      have held : (some row).filter (fun row => decide (row.state = .quarantine)) = some row := by
        simp [Option.filter, state]
      simp only [held]
      rintro (now | ⟨-, s, later⟩)
      · exact now
      · exact later
    · intro apart found
      split
      · exact ⟨id, fun _ => trivial⟩
      · exact ⟨apart, fun _ => trivial⟩
  · exact .of_uses trivial

theorem quarantineConflict_heeds (coordinator : Coordinator) (t : Step) (recordedHash effectHash : String) :
    (quarantineConflict coordinator t recordedHash effectHash).Heeds exec Touches Overwrites Locked
      operationId := by
  unfold quarantineConflict
  refine .call_apart id fun _ => ?_
  split
  · exact .call_last Overwrites.touches fun _ => trivial
  · exact trivial

theorem executeStep_heeds (coordinator : Coordinator) (t : Step) (effectHash : String) :
    (executeStep coordinator t effectHash).Heeds exec Touches Overwrites Locked operationId := by
  unfold executeStep
  refine .call_apart id fun result => ?_
  cases result with
  | error message => exact trivial
  | ok result =>
      refine .call_apart id fun _ => ?_
      dsimp only
      split
      · refine .call_last Overwrites.touches fun outcome => ?_
        dsimp only [Prog.done_bind]
        split
        · exact ⟨id, fun _ => trivial⟩
        · exact trivial
      · exact trivial

/-- What `run_step` does with the hash its journal has. -/
def settleStep (coordinator : Coordinator) (t : Step) (effectHash : String) (pgExistingHash : Option String) :
    Graph (StepOutcome × Option Json) := do
  let neoExistingHash ← Prog.request (.readReceipt t.operationId t.stepId)
  match conflictingHash [pgExistingHash, neoExistingHash] effectHash with
  | some recordedHash => quarantineConflict coordinator t recordedHash effectHash
  | none =>
      if pgExistingHash = some effectHash ∧ neoExistingHash = some effectHash then
        return (.noop, none)
      else if neoExistingHash = some effectHash ∧ coordinator.pgStore = false then
        return (.noop, none)
      else executeStep coordinator t effectHash

theorem runStep_eq (py : Source.Platform) {coordinator : Coordinator} {t : Step} (supported : t.stepId ∈ graphOperationSteps) :
    runStep py coordinator t =
      (readJournalHash coordinator t).bind (settleStep coordinator t (computeStepEffectHash py t.effectPayload)) := by
  rw [runStep, if_neg (not_not.mpr supported)]
  rfl

theorem settleStep_heeds (coordinator : Coordinator) (t : Step) (effectHash : String)
    (pgExistingHash : Option String) :
    (settleStep coordinator t effectHash pgExistingHash).Heeds exec Touches Overwrites Locked operationId := by
  unfold settleStep
  refine .call_apart id fun neoExistingHash => ?_
  dsimp only [Prog.done_bind]
  split
  · exact quarantineConflict_heeds coordinator t _ effectHash
  · split
    · exact trivial
    · split
      · exact trivial
      · exact executeStep_heeds coordinator t effectHash

/-- A step without a journal, or of another operation, leaves the row alone. -/
theorem settleStep_uses {coordinator : Coordinator} {t : Step} (apart : coordinator.pgStore = true → t.operationId ≠ operationId)
    (effectHash : String) (pgExistingHash : Option String) :
    (settleStep coordinator t effectHash pgExistingHash).Uses fun c => ¬ Touches operationId c := by
  unfold settleStep quarantineConflict executeStep
  refine ⟨id, fun neoExistingHash => ?_⟩
  dsimp only [Prog.done_bind]
  split
  · refine ⟨id, fun _ => ?_⟩
    split
    · rename_i stored
      exact ⟨apart stored, fun _ => trivial⟩
    · exact trivial
  · split
    · exact trivial
    · split
      · exact trivial
      · refine ⟨id, fun result => ?_⟩
        cases result with
        | error message => exact trivial
        | ok result =>
            refine ⟨id, fun _ => ?_⟩
            dsimp only [Prog.done_bind]
            split
            · rename_i stored
              refine ⟨apart stored, fun outcome => ?_⟩
              dsimp only [Prog.done_bind]
              split
              · exact ⟨id, fun _ => trivial⟩
              · exact trivial
            · exact trivial

theorem runStep_careful (py : Source.Platform) (coordinator : Coordinator) (t : Step) :
    Careful operationId (runStep py coordinator t) := by
  by_cases supported : t.stepId ∈ graphOperationSteps
  · rw [runStep_eq py supported, readJournalHash]
    split
    · rw [Prog.bind_eq, Prog.bind_assoc]
      apply Careful.getJournal
      · intro found
        cases found with
        | none => exact settleStep_heeds coordinator t _ none
        | some row =>
            dsimp only
            split
            · exact trivial
            · exact settleStep_heeds coordinator t _ _
      · intro row state
        simp only [state, if_true]
        exact id
      · intro apart found
        cases found with
        | none => exact settleStep_uses (fun _ => apart) ..
        | some row =>
            dsimp only
            split
            · exact trivial
            · exact settleStep_uses (fun _ => apart) ..
    · rename_i unstored
      exact .of_uses (settleStep_uses (fun stored => absurd stored unstored) ..)
  · rw [runStep, if_pos supported]
    exact .of_uses trivial

/-! ## What a conflict does to a step -/

theorem Raises.after {shows : Prog.Exchange Call → Prop} {p : Graph α} (raises : Raises p) :
    RaisesAfter shows p := by
  induction p with
  | done a => exact raises.elim
  | fail e => exact trivial
  | call c k ih => exact fun s => ⟨fun _ => raises s, ih _ (raises s)⟩

theorem conflictingHash_isSome {recorded : List (Option String)} {hash effectHash : String}
    (mem : some hash ∈ recorded) (conflict : hash ≠ "" ∧ hash ≠ effectHash) :
    ∃ found, conflictingHash recorded effectHash = some found := by
  rw [← Option.isSome_iff_exists, conflictingHash, List.find?_isSome]
  exact ⟨hash, List.mem_filterMap.mpr ⟨_, mem, rfl⟩, by simpa using conflict⟩

theorem quarantineConflict_raises (coordinator : Coordinator) (t : Step) (recordedHash effectHash : String) :
    Raises (quarantineConflict coordinator t recordedHash effectHash) := by
  unfold quarantineConflict
  intro s
  dsimp only [Prog.done_bind]
  split
  · exact fun s => trivial
  · exact trivial

/-- A step that conflicts with the hash of the journal. -/
theorem settleStep_raises (coordinator : Coordinator) (t : Step) {hash effectHash : String}
    (conflict : hash ≠ "" ∧ hash ≠ effectHash) :
    Raises (settleStep coordinator t effectHash (some hash)) := by
  intro s
  dsimp only [Prog.done_bind]
  have mem : some hash ∈ [some hash, (exec (.readReceipt t.operationId t.stepId) s).1] := List.mem_cons_self
  obtain ⟨found, conflicts⟩ := conflictingHash_isSome mem conflict
  rw [conflicts]
  exact quarantineConflict_raises coordinator t found effectHash

theorem executeStep_raisesAfter (coordinator : Coordinator) (t : Step) (effectHash : String) :
    RaisesAfter (ShowsConflict t.stepId effectHash) (executeStep coordinator t effectHash) := by
  unfold executeStep
  intro s
  refine ⟨False.elim, ?_⟩
  dsimp only [exec, Prog.done_bind]
  cases t.action with
  | error message => exact trivial
  | ok result =>
      refine fun s => ⟨False.elim, ?_⟩
      dsimp only [Prog.done_bind]
      split
      · refine fun s => ⟨fun (conflict : _ = StepOutcome.quarantined) => ?_, ?_⟩
        · dsimp only [Prog.done_bind]
          rw [if_pos conflict]
          exact fun s => trivial
        · dsimp only [Prog.done_bind]
          split
          · exact fun s => ⟨False.elim, trivial⟩
          · exact trivial
      · exact trivial

theorem settleStep_raisesAfter (coordinator : Coordinator) (t : Step) (effectHash : String)
    (pgExistingHash : Option String) :
    RaisesAfter (ShowsConflict t.stepId effectHash) (settleStep coordinator t effectHash pgExistingHash) := by
  intro s
  dsimp only [Prog.done_bind]
  constructor
  · rintro ⟨hash, answered, conflict⟩
    have mem : some hash ∈ [pgExistingHash, (exec (.readReceipt t.operationId t.stepId) s).1] := by
      simp [Option.mem_def.mp answered]
    obtain ⟨found, conflicts⟩ := conflictingHash_isSome mem conflict
    rw [conflicts]
    exact quarantineConflict_raises coordinator t found effectHash
  · split
    · exact (quarantineConflict_raises coordinator t _ effectHash).after
    · split
      · exact trivial
      · split
        · exact trivial
        · exact executeStep_raisesAfter coordinator t effectHash

/-- A step that is shown a conflict never returns an outcome. -/
theorem runStep_raisesAfter (py : Source.Platform) (coordinator : Coordinator) (t : Step) :
    RaisesAfter (ShowsConflict t.stepId (computeStepEffectHash py t.effectPayload))
      (runStep py coordinator t) := by
  by_cases supported : t.stepId ∈ graphOperationSteps
  · rw [runStep_eq py supported, readJournalHash]
    split
    · rw [Prog.bind_eq, Prog.bind_assoc]
      intro s
      dsimp only [Prog.done_bind]
      cases found : (exec (.getJournal t.operationId) s).1 with
      | none =>
          refine ⟨?_, settleStep_raisesAfter coordinator t _ none⟩
          rintro ⟨row, mem, -⟩
          cases mem
      | some row =>
          dsimp only
          split
          · exact ⟨fun _ => trivial, trivial⟩
          · refine ⟨?_, settleStep_raisesAfter coordinator t _ _⟩
            rintro ⟨row', mem, receipt, recorded, conflict⟩
            cases mem
            rw [Option.mem_def.mp recorded]
            exact settleStep_raises coordinator t conflict
    · exact settleStep_raisesAfter coordinator t _ none
  · rw [runStep, if_pos supported]
    exact trivial

theorem completeOperation_careful (lease : GroupLease) (bumpEpoch : Bool) :
    Careful operationId (completeOperation lease bumpEpoch) :=
  .of_uses ⟨id, fun _ => trivial⟩

theorem Script.program_careful (py : Source.Platform) (coordinator : Coordinator) (script : Script) :
    Careful operationId (script.program py coordinator) := by
  induction script with
  | stop => exact .of_uses trivial
  | beginOperation b next ih => exact (beginOperation_careful coordinator b).attempt.bind ih
  | runStep t next ih => exact (runStep_careful py coordinator t).attempt.bind ih
  | completeOperation lease bumpEpoch next ih => exact (completeOperation_careful lease bumpEpoch).attempt.bind ih

theorem clientPool_guarded {ι : Type} [DecidableEq ι] (py : Source.Platform) (coordinators : ι → Coordinator)
    (scripts : ι → Script) (stores : Stores) :
    (clientPool py coordinators scripts stores).Guarded exec Touches Overwrites Locked where
  heeds := fun _ i => ((scripts i).program_careful py (coordinators i)).heeds
  quiet := fun _ _ i => ((scripts i).program_careful py (coordinators i)).looks

end Programs

/-! ## Runs -/

section Runs

variable {ι : Type} [DecidableEq ι] {pool : Pool Call GraphError Unit Stores ι}

theorem run_fence (schedule : List ι) {groupId : String}
    (held : pool.shared.fenceStatus groupId = some .quarantined) :
    (pool.run exec schedule).shared.fenceStatus groupId = some .quarantined := by
  apply Pool.run_invariant (fun s : Stores => s.fenceStatus groupId = some .quarantined) _ held schedule
  intro β c s held
  exact exec_fence c groupId held

omit [DecidableEq ι] in
/-- Who is scheduled meets a quarantined fence: the exchange it has gives out no lease. -/
theorem exchange_lease (i : ι) {groupId : String}
    (held : pool.shared.fenceStatus groupId = some .quarantined) {exchange : Prog.Exchange Call}
    (had : exchange ∈ pool.exchange exec i) : ¬ Grants groupId exchange := by
  unfold Pool.exchange at had
  split at had
  · cases had
    exact exec_lease _ groupId held
  · cases had
  · cases had

/-- The row of an operation that a recorded step conflicts with is in quarantine from then on. -/
theorem step_conflict {i : ι} {operationId : String} {exchange : Prog.Exchange Call}
    (had : exchange ∈ pool.exchange exec i) (conflict : RecordsConflict operationId exchange) :
    Locked operationId (pool.step exec i).shared := by
  unfold Pool.exchange at had
  cases shape : pool.clients i with
  | done | fail => simp [shape] at had
  | call c k =>
      simp only [shape, Option.mem_some_iff] at had
      subst had
      cases c with
      | recordStep k' r =>
          obtain ⟨rfl, answered⟩ := conflict
          simp only [Locked, Pool.step, shape, Stores.journalState, exec, journalState_set, if_true]
          exact congrArg some (record_conflict answered)
      | _ => exact conflict.elim

end Runs

/-! ## A completed conflict -/

/-- One operation begun for a minute by one worker. -/
def operationBegin : Begin :=
  ⟨"operation", "group", "graph_write", "worker", 60, .liveWriteInProgress, none, 0⟩

/-- A step of the operation with a number for its effect. -/
def operationStep (stepId : String) (effect : Int) : Step :=
  ⟨"operation", "group", stepId, .num effect, .ok .null, 0⟩

/-- Two threads of one worker that disagree on the effect of `entities_upserted`. -/
def racingScripts : Bool → Script
  | true => .beginOperation operationBegin fun _ =>
      .runStep (operationStep "entities_upserted" 1) fun _ =>
      .runStep (operationStep "embeddings_committed" 2) fun _ => .stop
  | false => .beginOperation operationBegin fun _ =>
      .runStep (operationStep "entities_upserted" 3) fun _ => .stop

/-- The second thread meets the conflict while the first is about to record its last step. -/
def racingSchedule : List Bool :=
  List.replicate 4 true ++ List.replicate 5 true ++ List.replicate 4 true ++ List.replicate 8 false

def racingPool : Pool Call GraphError Unit Stores Bool :=
  clientPool Source.referencePlatform (fun _ => ⟨true⟩) racingScripts .empty

/-- The second thread is done before the first meets the conflict and tries its last step. -/
def patientSchedule : List Bool := List.replicate 9 false ++ List.replicate 9 true

theorem patient_undisturbed : Undisturbed racingPool patientSchedule := by
  have locks : ∀ n < 18, n ≠ 16 →
      ∀ entry ∈ (racingPool.run exec (patientSchedule.take (n + 1))).shared.journal.entries,
        entry.2.state = .quarantine →
        Locked entry.1 (racingPool.run exec (patientSchedule.take n)).shared := by
    unfold Locked
    decide +kernel
  have ended : ((racingPool.run exec (patientSchedule.take 16)).clients false).value? = some () := by
    decide +kernel
  intro first i rest split key before after j other
  have taken : patientSchedule.take first.length = first := by
    rw [split, List.take_left]
  have next : patientSchedule.take (first.length + 1) = first ++ [i] := by
    simp [split, List.take_append]
  have short : first.length < 18 := by
    have length := congrArg List.length split
    simp only [patientSchedule, List.length_append, List.length_replicate, List.length_cons] at length
    omega
  by_cases last : first.length = 16
  · rw [last] at taken
    have acts : i = true := by
      have found := congrArg (·[first.length]?) split
      simpa [last, patientSchedule] using found.symm
    obtain rfl : j = false := by simpa [acts] using other
    rw [← taken, Prog.eq_done_of_value? ended]
    exact Prog.not_mayWrite_done ()
  · obtain ⟨row, found, state⟩ := Option.map_eq_some_iff.mp after
    have earlier := locks first.length short last (key, row)
    rw [taken, next] at earlier
    exact absurd (earlier (Table.mem_entries_iff.mpr found) state) before

end Neurons.Journal
