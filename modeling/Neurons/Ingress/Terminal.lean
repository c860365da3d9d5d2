import Neurons.Ingress.Delivery
import Neurons.Ingress.Moves
import Neurons.Source.ReferencePlatform

/-! # Finished deliveries stay finished

A job that succeeded or was quarantined has no lease, so no owner can write to it; what
remains are the writes that name no owner. A reconciler makes them on what the backend
told it. Evidence may overrule a finished job, but a report without evidence may not:
along a run in which none of those falls on a finished job, a success is left only for
evidence against it, and a quarantine only for a success.
-/

namespace Neurons.Ingress

open Neurons.Lib
open Neurons.Source

def DeliveryStatus.Finished (status : DeliveryStatus) : Prop := status = .succeeded ∨ status = .quarantined

/-- A finished job has no lease. -/
def Db.FinishedUnleased (db : Db) : Prop :=
  ∀ jobId job, db.deliveryJobs.get? jobId = some job → job.status.Finished → job.leaseUntil = none

/-! ## One transaction -/

section Step

variable {py : Platform} {db db' : Db} {op : Op} {answer : Answer} {jobId : String}
variable {job job' : DeliveryJob}

theorem Change.finishedUnleased (change : Change op answer jobId job job') (concluded : job'.status.Finished) :
    job'.leaseUntil = none := by
  cases change with
  | exhausted | transported | replayed | retried | evidenced => rfl
  | claimed | corrected | executing => rcases concluded with concluded | concluded <;> cases concluded
  | completed held shape => rcases shape with rfl | rfl <;> rfl

theorem Db.FinishedUnleased.perform (unleased : db.FinishedUnleased) (op : Op) :
    (perform py op db).2.FinishedUnleased := by
  unfold Ingress.perform
  split
  · rename_i done
    intro jobId job' stored concluded
    cases transaction_job done jobId with
    | same kept => exact unleased jobId job' (kept ▸ stored) concluded
    | added absent new =>
        obtain rfl := Option.some.inj (stored.symm.trans new)
        rfl
    | changed before after change =>
        obtain rfl := Option.some.inj (stored.symm.trans after)
        exact change.finishedUnleased concluded
  · exact unleased

/-- The writes that reach a finished job: none of them names an owner. -/
inductive Overrules (jobId : String) (job : DeliveryJob) : Op → DeliveryJob → Prop
  | replayed {maxAttempts seconds now} : Overrules jobId job
      (.recordReplayable jobId "" maxAttempts seconds now) (job.replay maxAttempts seconds now)
  | retried {refs error observedAt maxAttempts seconds now} : Overrules jobId job
      (.recordFailed jobId "" refs error observedAt maxAttempts seconds now)
      (job.retry refs error (observedAt.getD now) maxAttempts seconds now)
  | evidenced {status refs error observedAt} : Overrules jobId job
      (.recordEvidence jobId status refs error observedAt)
      (job.conclude status refs error observedAt observedAt)

theorem Change.overrules (change : Change op answer jobId job job') (concluded : job.status.Finished)
    (unleased : job.leaseUntil = none) : Overrules jobId job op job' := by
  have notHeld (leaseOwner : String) (now : Int) : ¬ job.HeldBy leaseOwner now := by
    simp [DeliveryJob.HeldBy, DeliveryJob.LeaseIsLive, unleased]
  have notClaimable (leaseOwner : String) (now : Int) : ¬ job.Claimable leaseOwner now := by
    rcases concluded with concluded | concluded <;> simp [DeliveryJob.Claimable, concluded]
  have ownerless {leaseOwner : String} {now : Int} (fresh : ¬ job.Stale leaseOwner now) :
      leaseOwner = "" := by
    by_contra named
    simp [DeliveryJob.Stale, named, notHeld] at fresh
  cases change with
  | exhausted claimable => exact absurd claimable (notClaimable _ _)
  | claimed claimable => exact absurd claimable (notClaimable _ _)
  | corrected correctable =>
      obtain ⟨-, -, replayable, -⟩ := correctable
      rcases concluded with concluded | concluded <;> rw [concluded] at replayable <;> cases replayable
  | transported unfinished =>
      rcases concluded with concluded | concluded
      · exact absurd concluded unfinished.1
      · exact absurd concluded unfinished.2
  | executing held => exact absurd held (notHeld _ _)
  | completed held => exact absurd held (notHeld _ _)
  | replayed fresh =>
      obtain rfl := ownerless fresh
      exact .replayed
  | retried fresh =>
      obtain rfl := ownerless fresh
      exact .retried
  | evidenced => exact .evidenced

/-- A finished job after a transaction: as it was, or overruled. -/
theorem perform_finished (unleased : db.FinishedUnleased) (found : db.deliveryJobs.get? jobId = some job)
    (concluded : job.status.Finished) (op : Op) :
    ∃ job', (perform py op db).2.deliveryJobs.get? jobId = some job' ∧
      (job' = job ∨ Overrules jobId job op job') := by
  unfold perform
  split
  · rename_i done
    cases transaction_job done jobId with
    | same kept => exact ⟨job, kept.trans found, .inl rfl⟩
    | added absent => simp [found] at absent
    | changed before after change =>
        obtain rfl := Option.some.inj (found.symm.trans before)
        exact ⟨_, after, .inr (change.overrules concluded (unleased _ _ found concluded))⟩
  · exact ⟨job, found, .inl rfl⟩

end Step

/-! ## What a client acts on -/

/-- The evidence an exchange with the backend brought. -/
def evidenceOf : Prog.Exchange Call → Option Evidence
  | ⟨.submit _, reply⟩ => reply.toOption
  | ⟨.findByNaturalKey _ _, reply⟩ => reply.toOption.join
  | ⟨.status _ _, reply⟩ => reply.toOption.join
  | ⟨.getDeliveryJob _, _⟩ | ⟨.getDomainRecord _, _⟩ | ⟨.transact _, _⟩ => none

/-- Among the exchanges is one that brought evidence of such a status. -/
def Heard (past : List (Prog.Exchange Call)) (p : EvidenceStatus → Bool) : Prop :=
  ∃ exchange ∈ past, ∃ evidence ∈ evidenceOf exchange, p evidence.status

/-- The status of a success. -/
def EvidenceStatus.Confirms : EvidenceStatus → Bool
  | succeeded => true
  | _ => false

instance (past : List (Prog.Exchange Call)) (p : EvidenceStatus → Bool) : Decidable (Heard past p) := by
  unfold Heard
  infer_instance

/-- The client reconciles the job. -/
def Entry.Reconciles (entry : Entry) (jobId : String) : Prop := ∃ r, entry = .reconcile r ∧ r.jobId = jobId

/-- Evidence is recorded by a reconciler that has it; so is a failed attempt, unless a
    worker reports it itself. -/
def Entry.Allows (entry : Entry) (past : List (Prog.Exchange Call)) {β : Type} (call : Call β) : Prop :=
  match call with
  | .transact (.recordEvidence jobId status _ _ _) => entry.Reconciles jobId ∧
      ((status = .succeeded ∧ Heard past EvidenceStatus.Confirms) ∨
        (status = .quarantined ∧ Heard past EvidenceStatus.Denies))
  | .transact (.recordFailed jobId _ _ _ _ _ _ _) => ∀ r, entry = .reconcile r →
      r.jobId = jobId ∧ Heard past EvidenceStatus.Denies
  | _ => True

section Programs

variable {entry : Entry} {past : List (Prog.Exchange Call)}

theorem Heard.append {p : EvidenceStatus → Bool} {exchange : Prog.Exchange Call} {evidence : Evidence}
    (brought : evidenceOf exchange = some evidence) (holds : p evidence.status)
    (first rest : List (Prog.Exchange Call)) : Heard (first ++ exchange :: rest) p :=
  ⟨exchange, by simp, evidence, brought, holds⟩

/-- One transaction and its answer. -/
theorem commit_obeys {op : Op} {α : Type} {f : Answer → Client α}
    (allowed : entry.Allows past (.transact op))
    (rest : ∀ answer past, (f answer).Obeys entry.Allows past) :
    ((commit op).bind f).Obeys entry.Allows past := by
  refine ⟨allowed, fun reply => ?_⟩
  cases reply with
  | ok answer => exact rest answer _
  | error e => trivial

theorem commitStatus_obeys {op : Op} {α : Type} {f : Option DeliveryStatus → Client α}
    (allowed : entry.Allows past (.transact op))
    (rest : ∀ status past, (f status).Obeys entry.Allows past) :
    ((commitStatus op).bind f).Obeys entry.Allows past := by
  unfold commitStatus
  rw [Prog.bind_assoc]
  refine commit_obeys allowed fun answer past => ?_
  cases answer <;> exact rest _ past

/-- A reconciler reports on the evidence it has heard. -/
theorem reportReconciled_obeys {r : Reconciliation} {evidence : Option Evidence} {α : Type}
    {f : Option DeliveryStatus → Client α}
    (heard : ∀ found ∈ evidence, ∀ p, p found.status = true → Heard past p)
    (rest : ∀ status past, (f status).Obeys (Entry.reconcile r).Allows past) :
    ((reportReconciled r evidence).bind f).Obeys (Entry.reconcile r).Allows past := by
  have recorded {status : DeliveryStatus} {op : Op} (allowed : (Entry.reconcile r).Allows past (.transact op)) :
      (((commit op).bind fun _ => .done (some status)).bind f).Obeys (Entry.reconcile r).Allows past := by
    rw [Prog.bind_assoc]
    exact commit_obeys allowed fun _ past => rest _ past
  cases evidence with
  | none => exact commitStatus_obeys trivial rest
  | some found =>
      have denies := heard found rfl EvidenceStatus.Denies
      simp only [reportReconciled]
      cases status : found.status with
      | succeeded =>
          exact recorded ⟨⟨r, rfl, rfl⟩, .inl ⟨rfl, heard found rfl _ (by rw [status]; rfl)⟩⟩
      | failedRetryable =>
          refine commitStatus_obeys (fun r' same => ?_) rest
          cases same
          exact ⟨rfl, denies (by rw [status]; rfl)⟩
      | quarantined => exact recorded ⟨⟨r, rfl, rfl⟩, .inr ⟨rfl, denies (by rw [status]; rfl)⟩⟩
      | payloadUnavailable => exact recorded ⟨⟨r, rfl, rfl⟩, .inr ⟨rfl, denies (by rw [status]; rfl)⟩⟩
      | payloadIntegrityMismatch =>
          exact recorded ⟨⟨r, rfl, rfl⟩, .inr ⟨rfl, denies (by rw [status]; rfl)⟩⟩
      | other => exact commitStatus_obeys trivial rest

theorem refresh_obeys {r : Reconciliation} {row : DeliveryJob} {natural : Option Evidence} {α : Type}
    {f : Option Evidence → Client α} (heard : ∀ found ∈ natural, ∀ p, p found.status = true → Heard past p)
    (rest : ∀ evidence past', past <+: past' →
      (∀ found ∈ evidence, ∀ p, p found.status = true → Heard past' p) →
      (f evidence).Obeys (Entry.reconcile r).Allows past') :
    ((refresh row natural).bind f).Obeys (Entry.reconcile r).Allows past := by
  have still (exchange : Prog.Exchange Call) (found : Evidence) (mem : found ∈ natural)
      (p : EvidenceStatus → Bool) (holds : p found.status = true) : Heard (past ++ [exchange]) p := by
    obtain ⟨earlier, inPast, brought⟩ := heard found mem p holds
    exact ⟨earlier, List.mem_append_left _ inPast, brought⟩
  unfold refresh
  split
  · refine ⟨trivial, fun reply => ?_⟩
    have longer := List.prefix_append past
    cases reply with
    | error e => trivial
    | ok found =>
        cases found with
        | none => exact rest natural _ (longer _) (still _)
        | some evidence =>
            simp only [Prog.done_bind]
            split
            · refine rest (some evidence) _ (longer _) fun found same p holds => ?_
              obtain rfl := Option.some.inj same
              exact Heard.append rfl holds past []
            · exact rest natural _ (longer _) (still _)
  · exact rest natural past List.prefix_rfl heard

theorem reconcileOnce_obeys (r : Reconciliation) : (Entry.reconcile r).program.Obeys
    (Entry.reconcile r).Allows [] := by
  refine ⟨trivial, fun found => ?_⟩
  cases found with
  | none => trivial
  | some row =>
      refine ⟨trivial, fun reply => ?_⟩
      cases reply with
      | error e => trivial
      | ok natural =>
          simp only [Prog.done_bind]
          rw [Prog.bind_assoc]
          refine refresh_obeys (fun found same p holds => ?_) fun evidence past' _ heard =>
            reportReconciled_obeys heard fun _ _ => trivial
          cases same
          exact Heard.append rfl holds _ []

/-- A call that is no record of evidence, and fails an attempt only for a worker itself. -/
def Call.Plain {β : Type} (call : Call β) : Prop :=
  match call with
  | .transact (.recordEvidence ..) => False
  | _ => True

theorem commit_plain {op : Op} (direct : op.Direct) : (commit op).Uses Call.Plain := by
  refine ⟨?_, fun reply => ?_⟩
  · cases op <;> exact direct
  · cases reply <;> trivial

theorem commitFlag_plain {op : Op} (direct : op.Direct) : (commitFlag op).Uses Call.Plain :=
  (commit_plain direct).bind fun _ => trivial

theorem commitStatus_plain {op : Op} (direct : op.Direct) : (commitStatus op).Uses Call.Plain := by
  refine (commit_plain direct).bind fun answer => ?_
  cases answer <;> trivial

theorem reportUncertain_plain (e : Execution) : (reportUncertain e).Uses Call.Plain := by
  refine Prog.Uses.bind (commitStatus_plain ?_) fun _ => ?_ <;> trivial

theorem reportFinal_plain (e : Execution) (status : DeliveryStatus) (evidence : Evidence)
    (lastErrorClass : String) : (reportFinal e status evidence lastErrorClass).Uses Call.Plain := by
  refine Prog.Uses.bind (commitFlag_plain ?_) fun done => ?_
  · trivial
  · cases done <;> trivial

theorem reportEvidence_plain (e : Execution) (evidence : Evidence) :
    (reportEvidence e evidence).Uses Call.Plain := by
  unfold reportEvidence
  cases evidence.status with
  | succeeded | quarantined | payloadUnavailable | payloadIntegrityMismatch =>
      exact reportFinal_plain _ _ _ _
  | failedRetryable => refine Prog.Uses.bind (commitStatus_plain ?_) fun _ => ?_ <;> trivial
  | other => exact reportUncertain_plain e

theorem submitClaimed_plain (e : Execution) (row : DeliveryJob) : (submitClaimed e row).Uses Call.Plain := by
  refine Prog.Uses.bind (commitFlag_plain ?_) fun marked => ?_
  · trivial
  · cases marked with
    | false => trivial
    | true =>
        refine ⟨trivial, fun current => ⟨trivial, fun submitted => ?_⟩⟩
        cases submitted with
        | ok evidence => exact reportEvidence_plain e evidence
        | error error =>
            cases error with
            | uncertain => exact reportUncertain_plain e
            | raised => trivial

theorem reportRefused_plain (e : Execution) : (reportRefused e).Uses Call.Plain := by
  refine ⟨trivial, fun current => ?_⟩
  cases current with
  | none => trivial
  | some job =>
      dsimp only
      split <;> trivial

theorem claimAndSubmit_plain (e : Execution) (row : DeliveryJob) :
    (claimAndSubmit e row).Uses Call.Plain := by
  have claims (op : Op) (direct : op.Direct) : ((commitFlag op).bind fun claimed =>
      if claimed then submitClaimed e row else reportRefused e).Uses Call.Plain := by
    refine (commitFlag_plain direct).bind fun claimed => ?_
    cases claimed with
    | false => exact reportRefused_plain e
    | true => exact submitClaimed_plain e row
  unfold claimAndSubmit
  cases row.status with
  | pending | replayable | failedRetryable | claimed | executing => exact claims _ trivial
  | succeeded | quarantined | other => trivial

theorem executeOnceWithReceipt_plain (e : Execution) : (executeOnceWithReceipt e).Uses Call.Plain := by
  refine ⟨trivial, fun found => ?_⟩
  cases found with
  | none => trivial
  | some row =>
      dsimp only
      split
      · trivial
      · refine ⟨trivial, fun correction => ?_⟩
        dsimp only
        split
        · trivial
        · split
          · trivial
          · exact claimAndSubmit_plain e row

/-- Whoever is no reconciler may make every plain call. -/
theorem Call.Plain.allowed {β : Type} {call : Call β} (plain : call.Plain)
    (worker : ∀ r, entry ≠ .reconcile r) (past : List (Prog.Exchange Call)) : entry.Allows past call := by
  cases call with
  | transact op =>
      cases op with
      | recordEvidence => exact absurd plain id
      | recordFailed => exact fun r same => absurd same (worker r)
      | _ => trivial
  | _ => trivial

theorem Entry.program_obeys (entry : Entry) : entry.program.Obeys entry.Allows [] := by
  cases entry with
  | call op direct =>
      have plain : (Entry.call op direct).program.Uses Call.Plain :=
        (commit_plain direct).bind fun _ => trivial
      exact (plain.mono fun _ plain past => plain.allowed (by simp) past).obeys []
  | execute e =>
      have plain : (Entry.execute e).program.Uses Call.Plain :=
        (executeOnceWithReceipt_plain e).bind fun _ => trivial
      exact (plain.mono fun _ plain past => plain.allowed (by simp) past).obeys []
  | reconcile r => exact reconcileOnce_obeys r

end Programs

/-! ## Runs -/

section Runs

variable {B ι : Type} [DecidableEq ι] {py : Platform} {backend : Backend B} {entries : ι → Entry} {start : B}

/-- Workers that have yet to begin, over an empty database. -/
def deliveryPool (entries : ι → Entry) (start : B) : Pool Call DeliveryError Reply (World B) ι :=
  ⟨fun i => (entries i).program, ⟨.empty, start⟩⟩

/-- The state of the pool after a schedule. -/
def poolAfter (py : Platform) (backend : Backend B) (entries : ι → Entry) (start : B) (schedule : List ι) :
    Pool Call DeliveryError Reply (World B) ι :=
  (deliveryPool entries start).run (exec py backend) schedule

/-- The status of a job after a schedule. -/
def statusAfter (py : Platform) (backend : Backend B) (entries : ι → Entry) (start : B) (schedule : List ι)
    (jobId : String) : Option DeliveryStatus :=
  ((poolAfter py backend entries start schedule).shared.db.deliveryJobs.get? jobId).map DeliveryJob.status

/-- What a worker has heard from the backend by the end of a schedule. -/
def HasHeard (py : Platform) (backend : Backend B) (entries : ι → Entry) (start : B) (schedule : List ι)
    (i : ι) (p : EvidenceStatus → Bool) : Prop :=
  Heard ((deliveryPool entries start).exchanges (exec py backend) i schedule) p

/-- A report that names no owner spares a finished job: one of an unknown outcome never falls
    on a success, one of a failed attempt does so only for a reconciler, and neither falls
    on a quarantined job that has attempts left. -/
def Entry.Spares (entry : Entry) {β : Type} (call : Call β) (world : World B) : Prop :=
  match call with
  | .transact (.recordReplayable jobId leaseOwner maxAttempts _ _) => leaseOwner = "" →
      ∀ job ∈ world.db.deliveryJobs.get? jobId,
        job.status ≠ .succeeded ∧ (job.status = .quarantined → job.Spent maxAttempts)
  | .transact (.recordFailed jobId leaseOwner _ _ _ maxAttempts _ _) => leaseOwner = "" →
      ∀ job ∈ world.db.deliveryJobs.get? jobId,
        (job.status = .succeeded → ∃ r, entry = .reconcile r) ∧
          (job.status = .quarantined → job.Spent maxAttempts)
  | _ => True

instance (entry : Entry) : Decidable (∃ r, entry = .reconcile r) :=
  match entry with
  | .call _ _ => isFalse (by simp)
  | .execute _ => isFalse (by simp)
  | .reconcile r => isTrue ⟨r, rfl⟩

instance (entry : Entry) {β : Type} (call : Call β) (world : World B) :
    Decidable (entry.Spares call world) := by
  unfold Entry.Spares
  split <;> infer_instance

theorem exec_finishedUnleased {β : Type} (call : Call β) (world : World B)
    (unleased : world.db.FinishedUnleased) : (exec py backend call world).2.db.FinishedUnleased := by
  cases call with
  | transact op => exact unleased.perform op
  | _ => exact unleased

theorem poolAfter_finishedUnleased (schedule : List ι) :
    (poolAfter py backend entries start schedule).shared.db.FinishedUnleased := by
  apply Pool.run_invariant (fun world : World B => world.db.FinishedUnleased) exec_finishedUnleased
  simp [Db.FinishedUnleased, deliveryPool, Db.empty]

/-- What overrules a finished job in a run that spares them. -/
theorem Overrules.heard {entry : Entry} {world : World B} {past : List (Prog.Exchange Call)} {op : Op}
    {jobId : String} {job job' : DeliveryJob} (overrules : Overrules jobId job op job')
    (found : world.db.deliveryJobs.get? jobId = some job)
    (allows : entry.Allows past (.transact op)) (spares : entry.Spares (.transact op) world) :
    (job.status = .succeeded → job'.status = .succeeded ∨
      entry.Reconciles jobId ∧ Heard past EvidenceStatus.Denies) ∧
    (job.status = .quarantined → job'.status = .quarantined ∨
      entry.Reconciles jobId ∧ Heard past EvidenceStatus.Confirms) := by
  cases overrules with
  | replayed =>
      obtain ⟨unfinished, spent⟩ := spares rfl job found
      refine ⟨fun succeeded => absurd succeeded unfinished, fun quarantined => .inl ?_⟩
      simp [DeliveryJob.replay, spent quarantined]
  | retried =>
      obtain ⟨reconciles, spent⟩ := spares rfl job found
      refine ⟨fun succeeded => ?_, fun quarantined => .inl ?_⟩
      · obtain ⟨r, rfl⟩ := reconciles succeeded
        obtain ⟨same, heard⟩ := allows r rfl
        exact .inr ⟨⟨r, rfl, same⟩, heard⟩
      · simp [DeliveryJob.retry, DeliveryJob.conclude, spent quarantined]
  | evidenced =>
      obtain ⟨reconciles, ⟨rfl, confirms⟩ | ⟨rfl, denies⟩⟩ := allows
      · exact ⟨fun _ => .inl rfl, fun _ => .inr ⟨reconciles, confirms⟩⟩
      · exact ⟨fun _ => .inr ⟨reconciles, denies⟩, fun _ => .inl rfl⟩

/-- The condition of every step of a run. -/
def SparesFinished (py : Platform) (backend : Backend B) (entries : ι → Entry) (start : B)
    (schedule : List ι) : Prop :=
  (deliveryPool entries start).Meets (exec py backend) (fun i _ call world => (entries i).Spares call world)
    schedule

/-- What the next call of a worker does to a finished job. -/
theorem exec_finished (py : Platform) (backend : Backend B) {entry : Entry} {world : World B} {past : List (Prog.Exchange Call)} {β : Type}
    {call : Call β} {jobId : String} {job : DeliveryJob} (unleased : world.db.FinishedUnleased)
    (found : world.db.deliveryJobs.get? jobId = some job) (concluded : job.status.Finished)
    (allows : entry.Allows past call) (spares : entry.Spares call world) :
    ∃ job', (exec py backend call world).2.db.deliveryJobs.get? jobId = some job' ∧
      (job.status = .succeeded → job'.status = .succeeded ∨
        entry.Reconciles jobId ∧ Heard past EvidenceStatus.Denies) ∧
      (job.status = .quarantined → job'.status = .quarantined ∨
        entry.Reconciles jobId ∧ Heard past EvidenceStatus.Confirms) := by
  cases call with
  | transact op =>
      obtain ⟨job', after, rfl | overrules⟩ := perform_finished unleased found concluded op
      · exact ⟨job', after, .inl, .inl⟩
      · exact ⟨job', after, overrules.heard found allows spares⟩
  | _ => exact ⟨job, found, .inl, .inl⟩

/-- One more step of a run that spares finished jobs. -/
theorem statusAfter_snoc {schedule : List ι} {i : ι}
    (spares : SparesFinished py backend entries start (schedule ++ [i])) (jobId : String) :
    (statusAfter py backend entries start schedule jobId = some .succeeded →
      statusAfter py backend entries start (schedule ++ [i]) jobId = some .succeeded ∨
        (entries i).Reconciles jobId ∧
          HasHeard py backend entries start schedule i EvidenceStatus.Denies) ∧
    (statusAfter py backend entries start schedule jobId = some .quarantined →
      statusAfter py backend entries start (schedule ++ [i]) jobId = some .quarantined ∨
        (entries i).Reconciles jobId ∧
          HasHeard py backend entries start schedule i EvidenceStatus.Confirms) := by
  have unleased : (poolAfter py backend entries start schedule).shared.db.FinishedUnleased :=
    poolAfter_finishedUnleased schedule
  have next : poolAfter py backend entries start (schedule ++ [i]) =
      (poolAfter py backend entries start schedule).step (exec py backend) i :=
    Pool.run_append _ _ _ _
  have obeys : ((poolAfter py backend entries start schedule).clients i).Obeys (entries i).Allows
      ([] ++ (deliveryPool entries start).exchanges (exec py backend) i schedule) :=
    Pool.run_obeys (fun i => (entries i).Allows) (fun _ => []) (fun i => (entries i).program_obeys) schedule i
  unfold statusAfter HasHeard
  rw [next]
  unfold Pool.step
  cases shape : (poolAfter py backend entries start schedule).clients i with
  | done | fail => exact ⟨.inl, .inl⟩
  | call call k =>
      have met := Pool.Meets.at spares shape
      rw [shape] at obeys
      cases found : (poolAfter py backend entries start schedule).shared.db.deliveryJobs.get? jobId with
      | none => simp
      | some job =>
          have outcome (concluded : job.status.Finished) :=
            exec_finished py backend unleased found concluded obeys.1 met
          refine ⟨fun status => ?_, fun status => ?_⟩
          · have succeeded : job.status = .succeeded := by simpa using status
            obtain ⟨job', after, kept, -⟩ := outcome (.inl succeeded)
            simpa [after] using kept succeeded
          · have quarantined : job.status = .quarantined := by simpa using status
            obtain ⟨job', after, -, kept⟩ := outcome (.inr quarantined)
            simpa [after] using kept quarantined

/-- In every run of workers whose reports without an owner spare finished jobs, a job that
    succeeded stays so until a reconciler of the job that has heard evidence against it
    acts, and a quarantined one until a reconciler acts that has heard of its success. -/
theorem terminal_absorbing (py : Platform) (backend : Backend B) (entries : ι → Entry) (start : B)
    (first rest : List ι) (spares : SparesFinished py backend entries start (first ++ rest))
    (jobId : String) :
    (statusAfter py backend entries start first jobId = some .succeeded →
      statusAfter py backend entries start (first ++ rest) jobId = some .succeeded ∨
      ∃ before i after, rest = before ++ i :: after ∧ (entries i).Reconciles jobId ∧
        HasHeard py backend entries start (first ++ before) i EvidenceStatus.Denies) ∧
    (statusAfter py backend entries start first jobId = some .quarantined →
      statusAfter py backend entries start (first ++ rest) jobId = some .quarantined ∨
      ∃ before i after, rest = before ++ i :: after ∧ (entries i).Reconciles jobId ∧
        HasHeard py backend entries start (first ++ before) i EvidenceStatus.Confirms) := by
  induction rest using List.reverseRecOn with
  | nil => simp
  | append_singleton rest i ih =>
      rw [← List.append_assoc] at spares ⊢
      obtain ⟨succeeded, quarantined⟩ := ih (Pool.Meets.take spares)
      obtain ⟨keepsSuccess, keepsQuarantine⟩ := statusAfter_snoc spares jobId
      have earlier {p : EvidenceStatus → Bool} (acted : ∃ before j after, rest = before ++ j :: after ∧
          (entries j).Reconciles jobId ∧ HasHeard py backend entries start (first ++ before) j p) :
          ∃ before j after, rest ++ [i] = before ++ j :: after ∧ (entries j).Reconciles jobId ∧
            HasHeard py backend entries start (first ++ before) j p := by
        obtain ⟨before, j, after, rfl, acted⟩ := acted
        exact ⟨before, j, after ++ [i], by simp, acted⟩
      refine ⟨fun status => ?_, fun status => ?_⟩
      · rcases succeeded status with still | acted
        · rcases keepsSuccess still with kept | acts
          · exact .inl kept
          · exact .inr ⟨rest, i, [], rfl, acts⟩
        · exact .inr (earlier acted)
      · rcases quarantined status with still | acted
        · rcases keepsQuarantine still with kept | acts
          · exact .inl kept
          · exact .inr ⟨rest, i, [], rfl, acts⟩
        · exact .inr (earlier acted)

/-! ## A finished job that is opened again -/

/-- A backend that stores what it is given. It no longer finds a job by its natural key, and
    answers for the document itself as it is told. -/
def storingBackend (known : EvidenceStatus) : Backend Unit where
  submit job state :=
    (.ok ⟨job.idempotencyKey, job.payloadHash, ⟨"couchdb:source", "document", "stored"⟩, .succeeded, none⟩,
      state)
  findByNaturalKey _ _ state := (.ok none, state)
  status datasetRef documentRef state :=
    (.ok (some ⟨"", "", ⟨datasetRef, documentRef, "couchdb"⟩, known, none⟩), state)

/-- A command and its job are stored, a worker delivers the job, another reconciles it. -/
def deliverAndReconcile : Fin 4 → Entry
  | 0 => .call (.createCommand "command" "transcript_ingest" "key" "sha256:1" .completed 0) trivial
  | 1 => .call (.createDeliveryJob ⟨"job", "transcript-memory", "conversation_chunk", "key", "sha256:1",
      .pending, none⟩ "command" 0) trivial
  | 2 => .execute ⟨"worker", 600, "job", 3, 1, 1, 2⟩
  | 3 => .reconcile ⟨"job", 3, 3⟩

/-- The delivery succeeds and the document is still there when it is reconciled. -/
theorem terminal_absorbing_reconciled :
    SparesFinished referencePlatform (storingBackend .succeeded) deliverAndReconcile ()
      ([0, 1, 2, 2, 2, 2, 2, 2, 2] ++ [3, 3, 3, 3]) ∧
    statusAfter referencePlatform (storingBackend .succeeded) deliverAndReconcile ()
      [0, 1, 2, 2, 2, 2, 2, 2, 2] "job" = some .succeeded ∧
    (statusAfter referencePlatform (storingBackend .succeeded) deliverAndReconcile ()
        ([0, 1, 2, 2, 2, 2, 2, 2, 2] ++ [3, 3, 3, 3]) "job" = some .succeeded ∨
      ∃ before i after, [3, 3, 3, 3] = before ++ i :: after ∧ (deliverAndReconcile i).Reconciles "job" ∧
        HasHeard referencePlatform (storingBackend .succeeded) deliverAndReconcile ()
          ([0, 1, 2, 2, 2, 2, 2, 2, 2] ++ before) i EvidenceStatus.Denies) := by
  have spares : SparesFinished referencePlatform (storingBackend .succeeded) deliverAndReconcile ()
      ([0, 1, 2, 2, 2, 2, 2, 2, 2] ++ [3, 3, 3, 3]) := by
    unfold SparesFinished
    decide +kernel
  have delivered : statusAfter referencePlatform (storingBackend .succeeded) deliverAndReconcile ()
      [0, 1, 2, 2, 2, 2, 2, 2, 2] "job" = some .succeeded := by
    decide +kernel
  exact ⟨spares, delivered, (terminal_absorbing referencePlatform _ _ () _ _ spares "job").1 delivered⟩

/-- The delivery succeeded, the backend never says otherwise, and a reconciler that learns
    nothing opens the job again. -/
theorem succeeded_reopened :
    statusAfter referencePlatform (storingBackend (.other "unknown")) deliverAndReconcile ()
      [0, 1, 2, 2, 2, 2, 2, 2, 2] "job" = some .succeeded ∧
    statusAfter referencePlatform (storingBackend (.other "unknown")) deliverAndReconcile ()
      ([0, 1, 2, 2, 2, 2, 2, 2, 2] ++ [3, 3, 3, 3]) "job" = some .replayable ∧
    ∀ i, ¬ HasHeard referencePlatform (storingBackend (.other "unknown")) deliverAndReconcile ()
      ([0, 1, 2, 2, 2, 2, 2, 2, 2] ++ [3, 3, 3, 3]) i EvidenceStatus.Denies := by
  refine ⟨by decide +kernel, by decide +kernel, ?_⟩
  unfold HasHeard
  decide +kernel

end Runs

end Neurons.Ingress
