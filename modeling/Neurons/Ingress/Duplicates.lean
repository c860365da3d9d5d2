import Mathlib.Data.Fintype.EquivFin
import Neurons.Ingress.CrashSafety
import Neurons.Ingress.Exclusion

/-! # A job that is there already

A job specification that names the key of a stored row is a duplicate of it, or conflicts
with it, and in neither case becomes a row. The classifier answers so for every row but a
quarantined or replayable one: of these it reports the status, both callers take that for a
new job, and the unique key refuses the row.
-/

namespace Neurons.Ingress

open Neurons.Lib
open Neurons.Source

variable {db : Db} {jobId : String} {row : DeliveryJob} {spec : DeliveryJobSpec}

/-- The classifier compares the hashes of the row and the specification. -/
structure Comparable (row : DeliveryJob) (spec : DeliveryJobSpec) : Prop where
  status : row.status ≠ .quarantined ∧ row.status ≠ .replayable
  key : spec.idempotencyKey ≠ ""
  hash : spec.payloadHash ≠ ""

/-- `create_delivery_job` ignores a duplicate and reports a conflict. -/
def CreateTreatsAsKnown (db : Db) (row : DeliveryJob) (spec : DeliveryJobSpec) : Prop :=
  ∀ commandId now, db.commands.get? commandId ≠ none →
    if spec.payloadHash = row.payloadHash then createDeliveryJob spec commandId now db = .ok db
    else createDeliveryJob spec commandId now db = .error (.stateDb "delivery idempotency conflict")

/-- A command transaction that lists the job among others raises nothing on its account,
    keeps the row and names it; with another hash the whole command is a conflict. -/
structure ExecuteTreatsAsKnown (db : Db) (jobId : String) (row : DeliveryJob) (spec : DeliveryJobSpec) :
    Prop where
  duplicate : spec.payloadHash = row.payloadHash → ∀ before after cmd now,
    cmd.deliveryJobs = before ++ spec :: after →
      (∀ e, consumeInboxWithCommand cmd now db = .error e →
        consumeInboxWithCommand { cmd with deliveryJobs := before ++ after } now db = .error e) ∧
      ∀ result db', consumeInboxWithCommand cmd now db = .ok (result, db') →
        db'.deliveryJobs.find? spec.idempotencyKey = some (jobId, row) ∧
        (result.status = .completed → jobId ∈ result.deliveryJobIds)
  conflict : spec.payloadHash ≠ row.payloadHash → ∀ before after cmd now opened plan,
    cmd.deliveryJobs = before ++ spec :: after → openCommand cmd .completed "" now db = .ok opened →
    planDeliveryJobs db before ⟨[], [], false⟩ = .ok plan →
      ∃ db', consumeInboxWithCommand cmd now db = .ok (⟨cmd.commandId, .quarantined, []⟩, db') ∧
        db'.deliveryJobs = db.deliveryJobs

/-! ## The classifier -/

theorem preserved_eq_none_iff :
    row.prior.preserved = none ↔ row.status ≠ .quarantined ∧ row.status ≠ .replayable := by
  unfold Prior.preserved DeliveryJob.prior
  cases row.status <;> simp

/-- What the classifier answers for a stored row. -/
theorem classify_known (named : spec.idempotencyKey ≠ "" ∧ spec.payloadHash ≠ "")
    (same : row.idempotencyKey = spec.idempotencyKey) :
    classifyIdempotency (some row.prior) spec.idempotencyKey spec.payloadHash = .ok
      (match row.prior.preserved with
        | some decision => decision
        | none =>
            if row.payloadHash = spec.payloadHash then ⟨.duplicate, "same_key_same_payload_hash"⟩
            else ⟨.conflict, "same_key_different_payload_hash"⟩) := by
  rw [classifyIdempotency_eq _ named.1 named.2, decideIdempotency]
  have priorKey : row.prior.idempotencyKey = spec.idempotencyKey := same
  have priorHash : row.prior.payloadHash = row.payloadHash := rfl
  cases row.prior.preserved <;> simp [priorKey, priorHash]

/-- An empty key or hash is an error of its own. -/
theorem classify_unnamed (existing : Option Prior) (unnamed : ¬ (spec.idempotencyKey ≠ "" ∧ spec.payloadHash ≠ "")) :
    ∃ message, classifyIdempotency existing spec.idempotencyKey spec.payloadHash = .error (.valueError message) := by
  by_cases key : spec.idempotencyKey = ""
  · exact ⟨"idempotency_key is required", by simp [classifyIdempotency, rejectIf, key]⟩
  · have hash : spec.payloadHash = "" := by
      by_contra hash
      exact unnamed ⟨key, hash⟩
    exact ⟨"payload_hash is required", by simp [classifyIdempotency, rejectIf, key, hash]⟩

/-- A comparable row settles what the attempt is. -/
theorem classify_settles {key hash : String} {decision : Decision}
    (status : row.status ≠ .quarantined ∧ row.status ≠ .replayable) (same : row.idempotencyKey = key)
    (classified : classifyIdempotency (some row.prior) key hash = .ok decision) :
    decision.outcome = .duplicate ∨ decision.outcome = .conflict := by
  simp only [classifyIdempotency, bind_eq_ok, pure_eq_ok, Except.ok.injEq, decideIdempotency,
    preserved_eq_none_iff.mpr status] at classified
  obtain ⟨-, -, -, -, rfl⟩ := classified
  have priorKey : row.prior.idempotencyKey = key := same
  rw [if_neg (not_not.mpr priorKey)]
  split
  · exact .inl rfl
  · exact .inr rfl

/-! ## The plan -/

section Plan

variable {plan plan' : DeliveryPlan} {jobs before after : List DeliveryJobSpec}

/-- The ids found so far are only carried along. -/
theorem planDeliveryJobs_carry (jobs : List DeliveryJobSpec) (toInsert : List DeliveryJobSpec)
    (known : List String) (conflict : Bool) :
    planDeliveryJobs db jobs ⟨toInsert, known, conflict⟩ =
      (planDeliveryJobs db jobs ⟨toInsert, [], conflict⟩).map
        (fun plan => { plan with duplicateJobIds := known ++ plan.duplicateJobIds }) := by
  induction jobs generalizing toInsert known with
  | nil => simp [planDeliveryJobs, Except.map]
  | cons job rest ih =>
      simp only [planDeliveryJobs]
      split
      · split
        · rw [ih, ih toInsert ([] ++ _)]
          cases planDeliveryJobs db rest ⟨toInsert, [], conflict⟩ <;> simp [Except.map]
        · simp [Except.map]
      · cases classifyIdempotency _ job.idempotencyKey job.payloadHash with
        | error e => rfl
        | ok decision =>
            simp only [ok_bind]
            split
            · simp [Except.map, pure, Except.pure]
            · rw [ih, ih toInsert ([] ++ _)]
              cases planDeliveryJobs db rest ⟨toInsert, [], conflict⟩ <;> simp [Except.map]
            all_goals exact ih _ _

/-- A batch is planned job by job, until one conflicts. -/
theorem planDeliveryJobs_append (before rest : List DeliveryJobSpec) {start : DeliveryPlan}
    (open_ : start.conflict = false) :
    planDeliveryJobs db (before ++ rest) start = (do
      let plan ← planDeliveryJobs db before start
      if plan.conflict then return plan else planDeliveryJobs db rest plan) := by
  induction before generalizing start with
  | nil => simp [planDeliveryJobs, open_]
  | cons job before ih =>
      simp only [List.cons_append, planDeliveryJobs]
      split
      · split
        · exact ih open_
        · rfl
      · cases classifyIdempotency _ job.idempotencyKey job.payloadHash with
        | error e => rfl
        | ok decision =>
            simp only [ok_bind]
            cases decision.outcome with
            | conflict => rfl
            | duplicate | accepted | quarantined | replayable => exact ih open_

/-- No job of a comparable row's key is ever planned. -/
theorem planned_ne (comparable : Comparable row spec)
    (found : db.deliveryJobs.find? spec.idempotencyKey = some (jobId, row))
    (jobs : List DeliveryJobSpec) {start plan : DeliveryPlan}
    (none : ∀ planned ∈ start.toInsert, planned.idempotencyKey ≠ spec.idempotencyKey)
    (planned : planDeliveryJobs db jobs start = .ok plan) :
    ∀ planned ∈ plan.toInsert, planned.idempotencyKey ≠ spec.idempotencyKey := by
  induction jobs generalizing start with
  | nil =>
      cases planned
      exact none
  | cons job rest ih =>
      simp only [planDeliveryJobs] at planned
      split at planned
      · split at planned
        · refine ih ?_ planned
          exact none
        · cases planned
          simp
      · rw [bind_eq_ok] at planned
        obtain ⟨decision, classified, planned⟩ := planned
        have kept (outcome : decision.outcome ≠ .duplicate ∧ decision.outcome ≠ .conflict) :
            job.idempotencyKey ≠ spec.idempotencyKey := by
          intro same
          rw [same, found] at classified
          rcases classify_settles comparable.status (Indexed.find?_eq_some.mp found).2 classified with
            settled | settled
          · exact outcome.1 settled
          · exact outcome.2 settled
        have appended (apart : job.idempotencyKey ≠ spec.idempotencyKey) :
            ∀ planned ∈ start.toInsert ++ [job], planned.idempotencyKey ≠ spec.idempotencyKey := by
          intro planned mem
          rcases List.mem_append.mp mem with old | new
          · exact none planned old
          · rw [List.mem_singleton.mp new]
            exact apart
        cases outcome : decision.outcome with
        | conflict =>
            simp only [outcome] at planned
            cases planned
            simp
        | duplicate =>
            simp only [outcome] at planned
            refine ih ?_ planned
            exact none
        | accepted | quarantined | replayable =>
            simp only [outcome] at planned
            refine ih ?_ planned
            exact appended (kept (by simp [outcome]))

/-- A job whose key no planned job has is classified against the stored row. -/
theorem planDeliveryJobs_known (found : db.deliveryJobs.find? spec.idempotencyKey = some (jobId, row))
    (comparable : Comparable row spec) (rest : List DeliveryJobSpec) {plan : DeliveryPlan}
    (unplanned : ∀ planned ∈ plan.toInsert, planned.idempotencyKey ≠ spec.idempotencyKey) :
    planDeliveryJobs db (spec :: rest) plan =
      if spec.payloadHash = row.payloadHash then
        planDeliveryJobs db rest { plan with duplicateJobIds := plan.duplicateJobIds ++ [jobId] }
      else .ok ⟨[], plan.duplicateJobIds, true⟩ := by
  have absent : plan.toInsert.find? (fun planned => planned.idempotencyKey = spec.idempotencyKey) = none :=
    List.find?_eq_none.mpr (by simpa using unplanned)
  rw [planDeliveryJobs, absent]
  simp only [found, Option.map_some, Option.getD_some]
  rw [classify_known ⟨comparable.key, comparable.hash⟩ (Indexed.find?_eq_some.mp found).2,
    preserved_eq_none_iff.mpr comparable.status]
  by_cases same : spec.payloadHash = row.payloadHash
  · simp [same]
  · simp [same, Ne.symm same]

/-- A batch with the job and the same batch without it: neither is planned, both fail alike,
    and the row's id is among those found unless the batch conflicts. -/
theorem planDeliveryJobs_without (found : db.deliveryJobs.find? spec.idempotencyKey = some (jobId, row))
    (comparable : Comparable row spec) (same : spec.payloadHash = row.payloadHash)
    (before after : List DeliveryJobSpec) :
    (∃ e, planDeliveryJobs db (before ++ spec :: after) ⟨[], [], false⟩ = .error e ∧
      planDeliveryJobs db (before ++ after) ⟨[], [], false⟩ = .error e) ∨
    ∃ toInsert known known' conflict,
      planDeliveryJobs db (before ++ spec :: after) ⟨[], [], false⟩ = .ok ⟨toInsert, known, conflict⟩ ∧
      planDeliveryJobs db (before ++ after) ⟨[], [], false⟩ = .ok ⟨toInsert, known', conflict⟩ ∧
      (conflict = false → jobId ∈ known) := by
  rw [planDeliveryJobs_append _ _ rfl, planDeliveryJobs_append _ _ rfl]
  cases planned : planDeliveryJobs db before ⟨[], [], false⟩ with
  | error e => exact .inl ⟨e, rfl, rfl⟩
  | ok plan =>
      have unplanned := planned_ne comparable found before (by simp) planned
      obtain ⟨toInsert, known, conflict⟩ := plan
      cases conflict with
      | true => exact .inr ⟨toInsert, known, known, true, rfl, rfl, by simp⟩
      | false =>
          simp only [ok_bind, Bool.false_eq_true, if_false]
          rw [planDeliveryJobs_known found comparable after unplanned, if_pos same, planDeliveryJobs_carry,
            planDeliveryJobs_carry after toInsert known]
          cases planDeliveryJobs db after ⟨toInsert, [], false⟩ with
          | error e => exact .inl ⟨e, rfl, rfl⟩
          | ok plan => exact .inr ⟨plan.toInsert, _, _, plan.conflict, rfl, rfl, by simp⟩

end Plan

/-! ## The transaction -/

section Execute

variable {cmd : CommandSpec} {now : Int} {opened : Db} {plan : DeliveryPlan}

/-- Whether a command can be opened does not depend on how it will end. -/
theorem openCommand_status {status : CommandStatus} {lastErrorClass : String}
    (opens : openCommand cmd status lastErrorClass now db = .ok opened) (status' : CommandStatus)
    (lastErrorClass' : String) : ∃ opened', openCommand cmd status' lastErrorClass' now db = .ok opened' := by
  simp only [openCommand, insertCommand, bind_eq_ok] at opens ⊢
  obtain ⟨inserted, wrote, opens⟩ := opens
  cases first : db.commands.insert? cmd.commandId (cmd.command status lastErrorClass now) with
  | none => simp [first] at wrote
  | some commands =>
      have fresh := Indexed.insert?_fresh first
      cases second : db.commands.insert? cmd.commandId (cmd.command status' lastErrorClass' now) with
      | none =>
          rcases Indexed.insert?_eq_none.mp second with taken | taken
          · exact absurd fresh.1 taken
          · exact absurd fresh.2 taken
      | some commands' =>
          simp only [first, Except.ok.injEq] at wrote
          subst wrote
          suffices goal : ∃ opened', (if cmd.inboxEventId = "" then pure { db with commands := commands' }
              else consumeInboxEvent cmd.inboxEventId cmd.commandId now { db with commands := commands' }) =
                (.ok opened' : Except StateError Db) by
            obtain ⟨opened', reopens⟩ := goal
            exact ⟨opened', _, rfl, reopens⟩
          by_cases unnamed : cmd.inboxEventId = ""
          · rw [if_pos unnamed]
            exact ⟨_, rfl⟩
          · rw [if_neg unnamed] at opens ⊢
            unfold consumeInboxEvent at opens ⊢
            split at opens
            · cases opens
            · rename_i event stored
              split at opens
              · cases opens
              · rename_i free
                exact ⟨_, by simp only [stored, if_neg free]; rfl⟩

theorem execute_conflict (opens : openCommand cmd .completed "" now db = .ok opened)
    (planned : planDeliveryJobs db cmd.deliveryJobs ⟨[], [], false⟩ = .ok plan) (conflict : plan.conflict) :
    ∃ db', consumeInboxWithCommand cmd now db = .ok (⟨cmd.commandId, .quarantined, []⟩, db') ∧
      db'.deliveryJobs = db.deliveryJobs := by
  obtain ⟨quarantined, reopens⟩ := openCommand_status opens .quarantined "idempotency_conflict"
  refine ⟨insertCommandResult cmd.commandId ⟨"conflict", "", "idempotency_conflict"⟩ now quarantined, ?_, ?_⟩
  · simp [consumeInboxWithCommand, opens, planned, conflict, reopens]
  · rw [insertCommandResult_deliveryJobs, openCommand_deliveryJobs reopens]

theorem execute_duplicates (opens : openCommand cmd .completed "" now db = .ok opened) {known : List String}
    (planned : planDeliveryJobs db cmd.deliveryJobs ⟨[], [], false⟩ = .ok ⟨[], known, false⟩)
    (listed : cmd.deliveryJobs ≠ []) :
    consumeInboxWithCommand cmd now db = .ok (⟨cmd.commandId, .completed, known⟩,
      insertCommandResult cmd.commandId ⟨"duplicate", "", ""⟩ now opened) := by
  simp [consumeInboxWithCommand, opens, planned, listed]

theorem execute_complete (opens : openCommand cmd .completed "" now db = .ok opened)
    (planned : planDeliveryJobs db cmd.deliveryJobs ⟨[], [], false⟩ = .ok plan) (free : plan.conflict = false)
    (some : plan.toInsert ≠ []) : consumeInboxWithCommand cmd now db = completeCommand cmd plan now db := by
  simp [consumeInboxWithCommand, opens, planned, free, some]

/-- The ids found are only answered. -/
theorem completeCommand_carry (toInsert : List DeliveryJobSpec) (known : List String) (conflict : Bool) :
    completeCommand cmd ⟨toInsert, known, conflict⟩ now db =
      (completeCommand cmd ⟨toInsert, [], conflict⟩ now db).map
        (fun done => ({ done.1 with deliveryJobIds := known ++ done.1.deliveryJobIds }, done.2)) := by
  simp only [completeCommand]
  cases openCommand cmd .completed "" now db with
  | error e => rfl
  | ok opened =>
      simp only [ok_bind]
      cases cmd.domainRecords.foldlM (insertDomainRecord cmd.commandId now) opened with
      | error e => rfl
      | ok recorded =>
          simp only [ok_bind]
          cases toInsert.foldlM (insertDeliveryJob cmd.commandId now)
              (insertCommandResult cmd.commandId cmd.result now recorded) <;> rfl

theorem execute_unopened {e : StateError} (refused : openCommand cmd .completed "" now db = .error e) :
    consumeInboxWithCommand cmd now db = .error e := by
  simp only [consumeInboxWithCommand, refused, error_bind]

theorem execute_unplanned (opens : openCommand cmd .completed "" now db = .ok opened) {e : StateError}
    (refused : planDeliveryJobs db cmd.deliveryJobs ⟨[], [], false⟩ = .error e) :
    consumeInboxWithCommand cmd now db = .error e := by
  simp only [consumeInboxWithCommand, opens, refused, ok_bind, error_bind]

/-- What is raised with the job is raised without it. -/
theorem Comparable.raises_without (comparable : Comparable row spec)
    (found : db.deliveryJobs.find? spec.idempotencyKey = some (jobId, row))
    (same : spec.payloadHash = row.payloadHash) {before after : List DeliveryJobSpec}
    (listed : cmd.deliveryJobs = before ++ spec :: after) {e : StateError}
    (raised : consumeInboxWithCommand cmd now db = .error e) :
    consumeInboxWithCommand { cmd with deliveryJobs := before ++ after } now db = .error e := by
  cases opens : openCommand cmd .completed "" now db with
  | error e' =>
      rw [execute_unopened opens] at raised
      cases raised
      exact execute_unopened opens
  | ok opened =>
      have opens' : openCommand { cmd with deliveryJobs := before ++ after } .completed "" now db = .ok opened :=
        opens
      rcases planDeliveryJobs_without found comparable same before after with
        ⟨e', planned, planned'⟩ | ⟨toInsert, known, known', conflict, planned, planned', -⟩
      · rw [← listed] at planned
        rw [execute_unplanned opens planned] at raised
        cases raised
        exact execute_unplanned opens' planned'
      · rw [← listed] at planned
        cases conflict with
        | true =>
            obtain ⟨db', answered, -⟩ := execute_conflict opens planned rfl
            rw [answered] at raised
            cases raised
        | false =>
            by_cases idle : toInsert = []
            · subst idle
              rw [execute_duplicates opens planned (by simp [listed])] at raised
              cases raised
            · rw [execute_complete opens planned rfl idle, completeCommand_carry] at raised
              rw [execute_complete opens' planned' rfl idle, completeCommand_carry]
              change (completeCommand cmd ⟨toInsert, [], false⟩ now db).map _ = _
              cases done : completeCommand cmd ⟨toInsert, [], false⟩ now db with
              | error e' =>
                  rw [done] at raised
                  exact raised
              | ok done' =>
                  rw [done] at raised
                  cases raised

/-- A completed command names the row. -/
theorem Comparable.named (comparable : Comparable row spec)
    (found : db.deliveryJobs.find? spec.idempotencyKey = some (jobId, row))
    (same : spec.payloadHash = row.payloadHash) {before after : List DeliveryJobSpec}
    (listed : cmd.deliveryJobs = before ++ spec :: after) {result : CommandTransactionResult} {db' : Db}
    (done : consumeInboxWithCommand cmd now db = .ok (result, db')) (completed : result.status = .completed) :
    jobId ∈ result.deliveryJobIds := by
  cases opens : openCommand cmd .completed "" now db with
  | error e =>
      rw [execute_unopened opens] at done
      cases done
  | ok opened =>
      rcases planDeliveryJobs_without found comparable same before after with
        ⟨e, planned, -⟩ | ⟨toInsert, known, -, conflict, planned, -, knows⟩
      · rw [← listed] at planned
        rw [execute_unplanned opens planned] at done
        cases done
      · rw [← listed] at planned
        cases conflict with
        | true =>
            obtain ⟨_, answered, -⟩ := execute_conflict opens planned rfl
            rw [answered] at done
            cases done
            cases completed
        | false =>
            by_cases idle : toInsert = []
            · subst idle
              rw [execute_duplicates opens planned (by simp [listed])] at done
              cases done
              exact knows rfl
            · rw [execute_complete opens planned rfl idle, completeCommand_carry] at done
              cases written : completeCommand cmd ⟨toInsert, [], false⟩ now db with
              | error e =>
                  rw [written] at done
                  cases done
              | ok finished =>
                  rw [written] at done
                  cases done
                  exact List.mem_append_left _ (knows rfl)

/-- A comparable row of another hash makes the whole batch a conflict. -/
theorem Comparable.plan_conflict (comparable : Comparable row spec)
    (found : db.deliveryJobs.find? spec.idempotencyKey = some (jobId, row))
    (differ : spec.payloadHash ≠ row.payloadHash) {before : List DeliveryJobSpec}
    (planned : planDeliveryJobs db before ⟨[], [], false⟩ = .ok plan) (after : List DeliveryJobSpec) :
    ∃ plan, planDeliveryJobs db (before ++ spec :: after) ⟨[], [], false⟩ = .ok plan ∧ plan.conflict := by
  have unplanned := planned_ne comparable found before (by simp) planned
  rw [planDeliveryJobs_append _ _ rfl, planned, ok_bind]
  by_cases conflict : plan.conflict
  · exact ⟨plan, by rw [if_pos conflict]; rfl, conflict⟩
  · rw [if_neg conflict, planDeliveryJobs_known found comparable after unplanned, if_neg differ]
    exact ⟨_, rfl, rfl⟩

/-- What the transaction does with a comparable job, whatever else it lists. -/
theorem Comparable.executes (comparable : Comparable row spec)
    (found : db.deliveryJobs.find? spec.idempotencyKey = some (jobId, row)) :
    ExecuteTreatsAsKnown db jobId row spec where
  duplicate same before after cmd now listed := by
    refine ⟨fun e raised => comparable.raises_without found same listed raised, fun result db' done => ⟨?_, ?_⟩⟩
    · obtain ⟨stored, indexed⟩ := Indexed.find?_eq_some.mp found
      refine Indexed.find?_eq_some.mpr ⟨?_, indexed⟩
      rcases consumeInboxWithCommand_enlarges done jobId with kept | ⟨absent, -⟩
      · exact kept.trans stored
      · simp [stored] at absent
    · exact comparable.named found same listed done
  conflict differ before after cmd now opened plan listed opens planned := by
    obtain ⟨whole, batch, conflict⟩ := comparable.plan_conflict found differ planned after
    rw [← listed] at batch
    exact execute_conflict opens batch conflict

end Execute

/-! ## Rows the classifier does not compare -/

section Preserved

/-- A command of these jobs alone. -/
def plainCommand (commandId idempotencyKey : String) (jobs : List DeliveryJobSpec) : CommandSpec where
  inboxEventId := ""
  commandId := commandId
  commandType := ""
  idempotencyKey := idempotencyKey
  payloadHash := ""
  result := { decision := "" }
  domainRecords := []
  deliveryJobs := jobs

/-- There is always a command id and a key that no command has. -/
theorem exists_fresh_command (db : Db) : ∃ commandId idempotencyKey,
    db.commands.get? commandId = none ∧ db.commands.find? idempotencyKey = none := by
  obtain ⟨commandId, unused⟩ := Infinite.exists_notMem_finset (db.commands.rows.entries.map Prod.fst).toFinset
  obtain ⟨key, other⟩ :=
    Infinite.exists_notMem_finset (db.commands.rows.entries.map fun entry => entry.2.idempotencyKey).toFinset
  refine ⟨commandId, key, ?_, Indexed.find?_eq_none.mpr fun k command stored same => other ?_⟩
  · by_contra present
    obtain ⟨command, stored⟩ := Option.ne_none_iff_exists'.mp present
    have mem : (commandId, command) ∈ db.commands.rows.entries := Table.mem_entries_iff.mpr stored
    exact unused (List.mem_toFinset.mpr (List.mem_map.mpr ⟨_, mem, rfl⟩))
  · have mem : (k, command) ∈ db.commands.rows.entries := Table.mem_entries_iff.mpr stored
    exact List.mem_toFinset.mpr (List.mem_map.mpr ⟨_, mem, same⟩)

variable {commandId key : String}

theorem openCommand_plain (idFree : db.commands.get? commandId = none) (keyFree : db.commands.find? key = none)
    (jobs : List DeliveryJobSpec) :
    ∃ opened, openCommand (plainCommand commandId key jobs) .completed "" 0 db = .ok opened := by
  let cmd := plainCommand commandId key jobs
  cases inserted : db.commands.insert? cmd.commandId (cmd.command .completed "" 0) with
  | none =>
      rcases Indexed.insert?_eq_none.mp inserted with taken | taken
      · exact absurd idFree taken
      · exact absurd keyFree taken
  | some commands =>
      have wrote : insertCommand cmd.commandId (cmd.command .completed "" 0) db = .ok { db with commands } := by
        simp only [insertCommand, inserted]
      exact ⟨{ db with commands }, by rw [openCommand, wrote]; rfl⟩

/-- With no job the command goes through. -/
theorem execute_plain_nil (idFree : db.commands.get? commandId = none) (keyFree : db.commands.find? key = none) :
    ∃ answered, consumeInboxWithCommand (plainCommand commandId key []) 0 db = .ok answered := by
  obtain ⟨opened, opens⟩ := openCommand_plain idFree keyFree []
  have completes : ∃ answered, completeCommand (plainCommand commandId key []) ⟨[], [], false⟩ 0 db =
      .ok answered := by
    rw [completeCommand, opens]
    exact ⟨_, rfl⟩
  obtain ⟨answered, done⟩ := completes
  refine ⟨answered, ?_⟩
  rw [consumeInboxWithCommand, opens]
  exact done

/-- With the one job of a row the classifier does not compare it raises. -/
theorem execute_plain_raises (idFree : db.commands.get? commandId = none) (keyFree : db.commands.find? key = none)
    (found : db.deliveryJobs.find? spec.idempotencyKey = some (jobId, row)) (apart : ¬ Comparable row spec) :
    ∃ e, consumeInboxWithCommand (plainCommand commandId key [spec]) 0 db = .error e := by
  obtain ⟨opened, opens⟩ := openCommand_plain idFree keyFree [spec]
  by_cases named : spec.idempotencyKey ≠ "" ∧ spec.payloadHash ≠ ""
  · -- the preserved status is taken for a new job, which the unique key refuses
    have planned : planDeliveryJobs db [spec] ⟨[], [], false⟩ = .ok ⟨[spec], [], false⟩ := by
      have preserved : row.prior.preserved ≠ none := fun none =>
        apart ⟨preserved_eq_none_iff.mp none, named.1, named.2⟩
      obtain ⟨decision, kept⟩ := Option.ne_none_iff_exists'.mp preserved
      simp only [planDeliveryJobs, List.find?_nil, found, Option.map_some]
      rw [classify_known named (Indexed.find?_eq_some.mp found).2, kept]
      rcases Prior.preserved_outcome kept with outcome | outcome <;> simp [outcome]
    have taken : opened.deliveryJobs.find? spec.idempotencyKey ≠ none := by
      rw [openCommand_deliveryJobs opens, found]
      simp
    refine ⟨.integrity "delivery_jobs", ?_⟩
    rw [execute_complete opens planned rfl (by simp), completeCommand, opens]
    have refused (base : Db) (same : base.deliveryJobs = opened.deliveryJobs) :
        insertDeliveryJob commandId 0 base spec = .error (.integrity "delivery_jobs") := by
      rw [← same] at taken
      exact insertDeliveryJob_taken (.inr taken) commandId 0
    change ([spec].foldlM (insertDeliveryJob commandId 0) _ >>= _) = _
    rw [foldlM_one, refused (insertCommandResult _ _ 0 opened) rfl]
    rfl
  · obtain ⟨message, refused⟩ := classify_unnamed (some row.prior) named
    refine ⟨.valueError message, execute_unplanned opens ?_⟩
    change planDeliveryJobs db [spec] _ = _
    simp only [planDeliveryJobs, List.find?_nil, found, Option.map_some, refused]
    rfl

theorem ExecuteTreatsAsKnown.comparable (treats : ExecuteTreatsAsKnown db jobId row spec)
    (found : db.deliveryJobs.find? spec.idempotencyKey = some (jobId, row)) : Comparable row spec := by
  by_contra apart
  obtain ⟨commandId, key, idFree, keyFree⟩ := exists_fresh_command db
  obtain ⟨e, raises⟩ := execute_plain_raises idFree keyFree found apart
  by_cases same : spec.payloadHash = row.payloadHash
  · obtain ⟨answered, passes⟩ := execute_plain_nil idFree keyFree
    have without := (treats.duplicate same [] [] (plainCommand commandId key [spec]) 0 rfl).1 e raises
    cases passes.symm.trans without
  · obtain ⟨opened, opens⟩ := openCommand_plain idFree keyFree [spec]
    obtain ⟨db', answered, -⟩ := treats.conflict same [] [] _ 0 opened _ rfl opens rfl
    cases raises.symm.trans answered

end Preserved

/-! ## `create_delivery_job` -/

section Create

variable {commandId : String}

theorem createDeliveryJob_known (found : db.deliveryJobs.find? spec.idempotencyKey = some (jobId, row))
    (committed : db.commands.get? commandId ≠ none) (now : Int) :
    createDeliveryJob spec commandId now db = (do
      let decision ← classifyIdempotency (some row.prior) spec.idempotencyKey spec.payloadHash
      match decision.outcome with
      | .duplicate => return db
      | .conflict => .error (.stateDb "delivery idempotency conflict")
      | .accepted | .quarantined | .replayable => .error (.integrity "delivery_jobs")) := by
  have taken : db.deliveryJobs.find? spec.idempotencyKey ≠ none := by simp [found]
  have refused := insertDeliveryJob_taken (.inr taken)
  cases decided : classifyIdempotency (some row.prior) spec.idempotencyKey spec.payloadHash with
  | error e => simp [createDeliveryJob, rejectIf, committed, found, decided, bind, Except.bind]
  | ok decision =>
      cases shape : decision.outcome <;>
        simp [createDeliveryJob, rejectIf, committed, found, decided, shape, refused]

theorem createTreatsAsKnown_iff (found : db.deliveryJobs.find? spec.idempotencyKey = some (jobId, row))
    (committed : db.commands.get? commandId ≠ none) :
    CreateTreatsAsKnown db row spec ↔ Comparable row spec := by
  constructor
  · intro treats
    have answered := treats commandId 0 committed
    rw [createDeliveryJob_known found committed] at answered
    by_contra apart
    by_cases named : spec.idempotencyKey ≠ "" ∧ spec.payloadHash ≠ ""
    · have preserved : row.prior.preserved ≠ none := fun none =>
        apart ⟨preserved_eq_none_iff.mp none, named.1, named.2⟩
      obtain ⟨decision, kept⟩ := Option.ne_none_iff_exists'.mp preserved
      rw [classify_known named (Indexed.find?_eq_some.mp found).2, kept] at answered
      rcases Prior.preserved_outcome kept with outcome | outcome <;>
        simp only [ok_bind, outcome] at answered <;> split at answered <;> cases answered
    · obtain ⟨message, refused⟩ := classify_unnamed (some row.prior) named
      rw [refused] at answered
      split at answered <;> cases answered
  · intro comparable commandId now committed
    rw [createDeliveryJob_known found committed,
      classify_known ⟨comparable.key, comparable.hash⟩ (Indexed.find?_eq_some.mp found).2,
      preserved_eq_none_iff.mpr comparable.status]
    by_cases same : spec.payloadHash = row.payloadHash
    · simp [same]
    · simp [same, Ne.symm same]

end Create

/-! ## Runs -/

/-- In every state the operations reach, both callers treat a job of a stored row's key as
    known exactly when the row is neither quarantined nor replayable and the job names its
    key and its hash. -/
theorem known_job_iff (py : Platform) (ops : List Op) {jobId : String} {row : DeliveryJob} {spec : DeliveryJobSpec}
    (found : (run (step py) .empty ops).deliveryJobs.find? spec.idempotencyKey = some (jobId, row)) :
    (∀ commandId, (run (step py) .empty ops).commands.get? commandId ≠ none →
      (CreateTreatsAsKnown (run (step py) .empty ops) row spec ↔ Comparable row spec)) ∧
    (ExecuteTreatsAsKnown (run (step py) .empty ops) jobId row spec ↔ Comparable row spec) := by
  constructor
  · intro commandId committed
    exact createTreatsAsKnown_iff found committed
  · exact ⟨fun treats => treats.comparable found, fun comparable => comparable.executes found⟩

/-- The job of `jobOps`, as its sender repeats it. -/
def repeatedJob : DeliveryJobSpec :=
  ⟨"job again", "transcript-memory", "conversation_chunk", "key", "sha256:1", .pending, none⟩

/-- The row `jobOps` leaves. -/
def pendingRow : DeliveryJob := newDeliveryJob ⟨"job", "transcript-memory", "conversation_chunk", "key",
  "sha256:1", .pending, none⟩ "command" 0

/-- A pending job that is sent again is a duplicate. -/
theorem known_job_iff_pending :
    CreateTreatsAsKnown (run (step referencePlatform) .empty jobOps) pendingRow repeatedJob ∧
    ExecuteTreatsAsKnown (run (step referencePlatform) .empty jobOps) "job" pendingRow repeatedJob := by
  have found : (run (step referencePlatform) .empty jobOps).deliveryJobs.find? repeatedJob.idempotencyKey =
      some ("job", pendingRow) := by decide +kernel
  have committed : (run (step referencePlatform) .empty jobOps).commands.get? "command" ≠ none := by
    decide +kernel
  have comparable : Comparable pendingRow repeatedJob := ⟨by decide, by decide, by decide⟩
  obtain ⟨creates, executes⟩ := known_job_iff referencePlatform jobOps found
  exact ⟨(creates "command" committed).mpr comparable, executes.mpr comparable⟩

/-- The state after `jobOps` and a report that quarantines the job. -/
def quarantinedOps : List Op := jobOps ++ [.recordEvidence "job" .quarantined {} "poison" 1]

/-- Sent again with the same hash, the job is refused by the unique key. -/
theorem quarantined_job_refused :
    (run (step referencePlatform) .empty quarantinedOps).deliveryJobs.find? repeatedJob.idempotencyKey =
      some ("job", pendingRow.conclude .quarantined {} "poison" 1 1) ∧
    repeatedJob.payloadHash = pendingRow.payloadHash ∧
    (perform referencePlatform (.createDeliveryJob repeatedJob "command" 2)
      (run (step referencePlatform) .empty quarantinedOps)).1 = .error (.integrity "delivery_jobs") ∧
    (perform referencePlatform (.consumeInboxWithCommand (plainCommand "command again" "key again" [repeatedJob]) 2)
      (run (step referencePlatform) .empty quarantinedOps)).1 = .error (.integrity "delivery_jobs") := by
  decide +kernel

end Neurons.Ingress
