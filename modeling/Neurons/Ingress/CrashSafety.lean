import Neurons.Ingress.Acceptance
import Neurons.Lib.Run
import Neurons.Source.ReferencePlatform

/-! # Acceptance and stopped calls

A call that stops leaves what its transactions have committed. From a state that holds the
command of the payload every later call finds its way: it completes the payload row, or
refuses the payload as a conflict. Without the command a later call begins with the inbox
row, whose id is fixed by the payload: where a call stopped after that row, no later one
gets past it.
-/

namespace Neurons.Ingress

open Neurons.Lib
open Neurons.Source

/-! ## Valid payloads -/

section Payload

variable {payload : Doc}

theorem firstText_of_truthy {key : Key} {value : Json}
    (found : (Dict.get? payload key).filter Json.truthy = some value) (rest : List Key) :
    firstText payload (key :: rest) = value.text ∧ value.text ≠ "" := by
  refine ⟨by simp [firstText, firstOf, found], fun blank => ?_⟩
  have truthy := (Option.filter_eq_some_iff.mp found).2
  rw [Json.eq_str_of_text_blank blank] at truthy
  simp [Json.truthy] at truthy

/-- What the checks leave of the two texts that identify a payload. -/
structure Identified (payload : Doc) : Prop where
  key : idempotencyKeyOf payload ≠ ""
  hash : contentHashOf payload ≠ ""
  inboxKey : inboxKey payload = idempotencyKeyOf payload
  inboxHash : inboxHash payload = contentHashOf payload

theorem contentHash_truthy {hashed : Bool} (read : hasContentHash payload = .ok hashed)
    (prefixed : ¬ hashed = false) :
    ∃ value, (Dict.get? payload (.other "contentHash")).filter Json.truthy = some value := by
  unfold hasContentHash at read
  split at read
  · cases read
    exact absurd rfl prefixed
  · rename_i text found
    cases read
    refine ⟨.str text, Option.filter_eq_some_iff.mpr ⟨found, ?_⟩⟩
    have named : text ≠ "" := by
      rintro rfl
      exact prefixed (by decide)
    simpa [Json.truthy] using named
  · cases read

theorem identified_of_valid (valid : validateIngressPayload payload = .ok ()) : Identified payload := by
  simp only [validateIngressPayload, bind_eq_ok, refuseIf_eq_ok] at valid
  obtain ⟨-, -, -, -, wire, -, -, -, document, -, -, -, hashed, isHashed, -, prefixed, -, -, -, -, -,
    keyed, -⟩ := valid
  obtain ⟨key, keyFound⟩ := Option.ne_none_iff_exists'.mp keyed
  obtain ⟨hash, hashFound⟩ := contentHash_truthy isHashed prefixed
  have keyText (rest : List Key) : firstText payload (.other "idempotencyKey" :: rest) = key.text :=
    (firstText_of_truthy keyFound rest).1
  have hashText (rest : List Key) : firstText payload (.other "contentHash" :: rest) = hash.text :=
    (firstText_of_truthy hashFound rest).1
  exact
    { key := by
        rw [idempotencyKeyOf, keyText]
        exact (firstText_of_truthy keyFound []).2
      hash := by
        rw [contentHashOf, hashText]
        exact (firstText_of_truthy hashFound []).2
      inboxKey := by rw [inboxKey, idempotencyKeyOf, keyText, keyText]
      inboxHash := by rw [inboxHash, contentHashOf, hashText, hashText] }

end Payload

/-! ## The transactions of a call -/

section Transactions

variable {py : Platform} {payload : Doc} {db : Db}

/-- A payload row of another hash is stored under the key. -/
def PayloadConflict (payload : Doc) (db : Db) : Prop :=
  ∃ row ∈ db.deliveryPayloads.get? (idempotencyKeyOf payload), row.payloadHash ≠ contentHashOf payload

instance (payload : Doc) (db : Db) : Decidable (PayloadConflict payload db) := by
  unfold PayloadConflict
  infer_instance

/-- The payload table once the payload is stored. -/
def withPayload (payload : Doc) (now : Int) (db : Db) : Db :=
  let row : StoredPayload := ⟨contentHashOf payload, payload, now⟩
  { db with deliveryPayloads := db.deliveryPayloads.set (idempotencyKeyOf payload) row }

theorem perform_recordDeliveryPayload (identified : Identified payload) (now : Int) :
    perform py (.recordDeliveryPayload payload now) db =
      match db.deliveryPayloads.get? (idempotencyKeyOf payload) with
      | some row =>
          if row.payloadHash ≠ contentHashOf payload then (.ok (.payload .conflict), db)
          else (.ok (.payload .alreadyPresent), db)
      | none => (.ok (.payload .recorded), withPayload payload now db) := by
  have key := identified.key
  have hash := identified.hash
  unfold idempotencyKeyOf at key ⊢
  unfold contentHashOf at hash ⊢
  simp only [perform, transaction, recordDeliveryPayload, rejectIf, key, hash, if_false, ok_bind]
  cases found : db.deliveryPayloads.get? (firstText payload [.other "idempotencyKey"]) with
  | none => rfl
  | some row =>
      by_cases same : row.payloadHash = firstText payload [.other "contentHash"]
      · simp [same]
      · simp [same]

/-- The decision on a payload that has no command yet, by its oldest inbox row. -/
def inboxDecision (payload : Doc) (db : Db) : Decision :=
  decideIdempotency ((firstInboxEvent (idempotencyKeyOf payload) db).map InboxEvent.prior)
    (idempotencyKeyOf payload) (contentHashOf payload)

/-- The inbox once the payload's row is stored. -/
def withEvent (py : Platform) (payload : Doc) (now : Int) (db : Db) : Db :=
  let event := newInboxEvent payload "" (inboxDecision payload db) now
  { db with inboxEvents := db.inboxEvents.set (eventIdFor py payload) event }

theorem eventIdFor_ne (py : Platform) (payload : Doc) : eventIdFor py payload ≠ "" := by
  simp [eventIdFor, String.ext_iff]

theorem perform_recordInboxShadow (identified : Identified payload) (now : Int) :
    perform py (.recordInboxShadow payload "" (eventIdFor py payload) "" now) db =
      if db.inboxEvents.get? (eventIdFor py payload) = none then
        (.ok (.decision (inboxDecision payload db)), withEvent py payload now db)
      else (.error (.integrity "inbox_events.event_id"), db) := by
  simp only [perform, transaction, recordInboxShadow, identified.inboxKey, identified.inboxHash, rejectIf,
    identified.key, identified.hash, if_false, ok_bind,
    classifyIdempotency_eq _ identified.key identified.hash, eventIdFor_ne py payload]
  by_cases free : db.inboxEvents.get? (eventIdFor py payload) = none
  · simp [free, withEvent, inboxDecision]
  · simp [free]

/-! ### The command -/

/-- The payload has its inbox row and no command. -/
structure Waiting (py : Platform) (payload : Doc) (db : Db) : Prop where
  absent : db.commands.find? (idempotencyKeyOf payload) = none
  event : ∃ event, db.inboxEvents.get? (eventIdFor py payload) = some event ∧
    event.consumedByCommandId = ""

/-- The command of the payload is stored, with the payload's hash. -/
def HasCommand (payload : Doc) (db : Db) : Prop :=
  ∃ commandId command, db.commands.find? (idempotencyKeyOf payload) = some (commandId, command) ∧
    command.payloadHash = contentHashOf payload

/-- The delivery job of the payload is stored, with the payload's hash. -/
def HasJob (payload : Doc) (db : Db) : Prop :=
  ∃ entry ∈ db.deliveryJobs.find? (idempotencyKeyOf payload), entry.2.payloadHash = contentHashOf payload

instance (payload : Doc) (db : Db) : Decidable (HasJob payload db) := by
  unfold HasJob
  infer_instance

theorem hasJob_congr {db' : Db} (same : db'.deliveryJobs = db.deliveryJobs) :
    HasJob payload db' ↔ HasJob payload db := by
  unfold HasJob
  rw [same]

/-- What a command transaction leaves alone. -/
structure OnlyCommand (db db' : Db) : Prop where
  jobs : db'.deliveryJobs = db.deliveryJobs
  payloads : db'.deliveryPayloads = db.deliveryPayloads
  records : db'.domainRecords = db.domainRecords

theorem openCommand_free (waiting : Waiting py payload db)
    (free : db.commands.get? (commandIdFor py payload) = none) (status : CommandStatus)
    (lastErrorClass : String) (now : Int) :
    ∃ db', openCommand (commandSpecFor py payload) status lastErrorClass now db = .ok db' ∧
      HasCommand payload db' ∧ OnlyCommand db db' := by
  obtain ⟨event, stored, unconsumed⟩ := waiting.event
  let command := (commandSpecFor py payload).command status lastErrorClass now
  obtain ⟨commands, inserted⟩ : ∃ commands, db.commands.insert? (commandIdFor py payload) command =
      some commands := by
    refine Option.ne_none_iff_exists'.mp fun refused => ?_
    rcases Indexed.insert?_eq_none.mp refused with taken | taken
    · exact taken free
    · exact taken waiting.absent
  have named : (commandSpecFor py payload).inboxEventId ≠ "" := eventIdFor_ne py payload
  let consumed : InboxEvent :=
    { event with consumedByCommandId := commandIdFor py payload, consumedAt := some now, updatedAt := now }
  refine ⟨{ db with commands, inboxEvents := db.inboxEvents.set (eventIdFor py payload) consumed }, ?_,
    ⟨commandIdFor py payload, command, ?_, rfl⟩, ⟨rfl, rfl, rfl⟩⟩
  · simp only [openCommand, insertCommand]
    rw [show db.commands.insert? (commandSpecFor py payload).commandId
      ((commandSpecFor py payload).command status lastErrorClass now) = some commands from inserted]
    simp only [ok_bind, named, if_false, consumeInboxEvent]
    rw [show db.inboxEvents.get? (commandSpecFor py payload).inboxEventId = some event from stored]
    simp only [unconsumed, ne_eq, not_true_eq_false, if_false]
    rfl
  · exact (Indexed.find?_insert inserted _).trans (if_pos rfl)

theorem openCommand_taken (taken : db.commands.get? (commandIdFor py payload) ≠ none) (status : CommandStatus)
    (lastErrorClass : String) (now : Int) :
    openCommand (commandSpecFor py payload) status lastErrorClass now db = .error (.integrity "commands") := by
  have refused : db.commands.insert? (commandSpecFor py payload).commandId
      ((commandSpecFor py payload).command status lastErrorClass now) = none :=
    Indexed.insert?_eq_none.mpr (.inl taken)
  simp [openCommand, insertCommand, refused]

/-- The ids of the command transaction are free, and the key has no job that a former attempt
    left quarantined or replayable. -/
def CommandFree (py : Platform) (payload : Doc) (db : Db) : Prop :=
  db.commands.get? (commandIdFor py payload) = none ∧
    match db.deliveryJobs.find? (idempotencyKeyOf payload) with
    | none => db.domainRecords.get? (domainIdFor py payload) = none ∧
        db.deliveryJobs.get? (jobIdForPayload py payload) = none
    | some (_, job) => job.prior.preserved = none

instance (py : Platform) (payload : Doc) (db : Db) : Decidable (CommandFree py payload db) := by
  unfold CommandFree
  split <;> infer_instance

/-- The plan of the payload's one job. -/
theorem planDeliveryJobs_one (identified : Identified payload) :
    planDeliveryJobs db (commandSpecFor py payload).deliveryJobs ⟨[], [], false⟩ =
      match db.deliveryJobs.find? (idempotencyKeyOf payload) with
      | none => .ok ⟨[jobSpecFor py payload], [], false⟩
      | some (jobId, job) =>
          if job.prior.preserved ≠ none then .ok ⟨[jobSpecFor py payload], [], false⟩
          else if job.payloadHash = contentHashOf payload then .ok ⟨[], [jobId], false⟩
          else .ok ⟨[], [], true⟩ := by
  simp only [commandSpecFor, planDeliveryJobs, List.find?_nil]
  have key : (jobSpecFor py payload).idempotencyKey = idempotencyKeyOf payload := rfl
  have hash : (jobSpecFor py payload).payloadHash = contentHashOf payload := rfl
  rw [key, hash, classifyIdempotency_eq _ identified.key identified.hash]
  cases found : db.deliveryJobs.find? (idempotencyKeyOf payload) with
  | none => rfl
  | some entry =>
      obtain ⟨jobId, job⟩ := entry
      have same : job.idempotencyKey = idempotencyKeyOf payload := (Indexed.find?_eq_some.mp found).2
      have priorKey : job.prior.idempotencyKey = idempotencyKeyOf payload := same
      have priorHash : job.prior.payloadHash = job.payloadHash := rfl
      simp only [ok_bind, Option.map_some, decideIdempotency]
      cases kept : job.prior.preserved with
      | some decision =>
          rcases Prior.preserved_outcome kept with outcome | outcome <;> simp [outcome]
      | none =>
          by_cases equal : job.payloadHash = contentHashOf payload
          · simp [priorKey, priorHash, equal]
          · simp [priorKey, priorHash, equal]

theorem foldlM_one {α β : Type} (f : β → α → Except StateError β) (b : β) (a : α) :
    [a].foldlM f b = f b a := by
  rw [List.foldlM_cons]
  cases f b a <;> rfl

theorem insertDomainRecord_free {spec : DomainRecordSpec}
    (free : db.domainRecords.get? spec.domainRecordId = none) (commandId : String) (now : Int) :
    ∃ db', insertDomainRecord commandId now db spec = .ok db' ∧ db'.commands = db.commands ∧
      db'.deliveryJobs = db.deliveryJobs ∧ db'.deliveryPayloads = db.deliveryPayloads := by
  simp [insertDomainRecord, rejectIf, free]

theorem insertDeliveryJob_free {spec : DeliveryJobSpec} (idFree : db.deliveryJobs.get? spec.jobId = none)
    (keyFree : db.deliveryJobs.find? spec.idempotencyKey = none) (commandId : String) (now : Int) :
    ∃ db', insertDeliveryJob commandId now db spec = .ok db' ∧ db'.commands = db.commands ∧
      db'.deliveryPayloads = db.deliveryPayloads ∧
      db'.deliveryJobs.find? spec.idempotencyKey = some (spec.jobId, newDeliveryJob spec commandId now) := by
  obtain ⟨deliveryJobs, inserted⟩ : ∃ deliveryJobs,
      db.deliveryJobs.insert? spec.jobId (newDeliveryJob spec commandId now) = some deliveryJobs := by
    refine Option.ne_none_iff_exists'.mp fun refused => ?_
    rcases Indexed.insert?_eq_none.mp refused with taken | taken
    · exact taken idFree
    · exact taken keyFree
  refine ⟨{ db with deliveryJobs }, by simp [insertDeliveryJob, inserted], rfl, rfl, ?_⟩
  exact (Indexed.find?_insert inserted _).trans (if_pos rfl)

/-- A job that takes the id or the key of a stored one is refused. -/
theorem insertDeliveryJob_taken {spec : DeliveryJobSpec}
    (taken : db.deliveryJobs.get? spec.jobId ≠ none ∨ db.deliveryJobs.find? spec.idempotencyKey ≠ none)
    (commandId : String) (now : Int) :
    insertDeliveryJob commandId now db spec = .error (.integrity "delivery_jobs") := by
  have refused : db.deliveryJobs.insert? spec.jobId (newDeliveryJob spec commandId now) = none :=
    Indexed.insert?_eq_none.mpr taken
  simp [insertDeliveryJob, refused]

/-- The projection record of a payload. -/
def recordSpecFor (py : Platform) (payload : Doc) : DomainRecordSpec :=
  ⟨domainIdFor py payload, "delivery_projection", "prepared", "", "", contentHashOf payload, ""⟩

theorem completeCommand_free {opened : Db} {now : Int}
    (done : openCommand (commandSpecFor py payload) .completed "" now db = .ok opened)
    (recordFree : opened.domainRecords.get? (domainIdFor py payload) = none)
    (idFree : opened.deliveryJobs.get? (jobIdForPayload py payload) = none)
    (keyFree : opened.deliveryJobs.find? (idempotencyKeyOf payload) = none) :
    ∃ db', completeCommand (commandSpecFor py payload) ⟨[jobSpecFor py payload], [], false⟩ now db =
        .ok (⟨commandIdFor py payload, .completed, [jobIdForPayload py payload]⟩, db') ∧
      db'.commands = opened.commands ∧ db'.deliveryPayloads = opened.deliveryPayloads ∧
      HasJob payload db' := by
  obtain ⟨recorded, wroteRecord, sameCommands, sameJobs, samePayloads⟩ :=
    insertDomainRecord_free (show opened.domainRecords.get? (recordSpecFor py payload).domainRecordId = none
      from recordFree) (commandIdFor py payload) now
  let resulted := insertCommandResult (commandIdFor py payload) ⟨"completed", "", ""⟩ now recorded
  have jobs : resulted.deliveryJobs = opened.deliveryJobs := sameJobs
  obtain ⟨db', wroteJob, commands, payloads, job⟩ :=
    insertDeliveryJob_free (show resulted.deliveryJobs.get? (jobSpecFor py payload).jobId = none
      from jobs ▸ idFree) (show resulted.deliveryJobs.find? (jobSpecFor py payload).idempotencyKey = none
      from jobs ▸ keyFree) (commandIdFor py payload) now
  refine ⟨db', ?_, commands.trans sameCommands, payloads.trans samePayloads, _, job, rfl⟩
  have records : (commandSpecFor py payload).domainRecords.foldlM
      (insertDomainRecord (commandSpecFor py payload).commandId now) opened = .ok recorded :=
    (foldlM_one _ _ _).trans wroteRecord
  have written : [jobSpecFor py payload].foldlM
      (insertDeliveryJob (commandSpecFor py payload).commandId now) resulted = .ok db' :=
    (foldlM_one _ _ _).trans wroteJob
  simp only [completeCommand, done, ok_bind, records]
  rw [show insertCommandResult (commandSpecFor py payload).commandId (commandSpecFor py payload).result now
    recorded = resulted from rfl, written]
  rfl

theorem completeCommand_taken {opened : Db} {now : Int}
    (done : openCommand (commandSpecFor py payload) .completed "" now db = .ok opened)
    (taken : opened.domainRecords.get? (domainIdFor py payload) ≠ none ∨
      opened.deliveryJobs.get? (jobIdForPayload py payload) ≠ none ∨
      opened.deliveryJobs.find? (idempotencyKeyOf payload) ≠ none) :
    ∃ error, error.isIntegrity ∧
      completeCommand (commandSpecFor py payload) ⟨[jobSpecFor py payload], [], false⟩ now db = .error error := by
  by_cases recordFree : opened.domainRecords.get? (domainIdFor py payload) = none
  · obtain ⟨recorded, wroteRecord, sameCommands, sameJobs, samePayloads⟩ :=
      insertDomainRecord_free (show opened.domainRecords.get? (recordSpecFor py payload).domainRecordId = none
        from recordFree) (commandIdFor py payload) now
    let resulted := insertCommandResult (commandIdFor py payload) ⟨"completed", "", ""⟩ now recorded
    have jobs : resulted.deliveryJobs = opened.deliveryJobs := sameJobs
    have refused := insertDeliveryJob_taken (show resulted.deliveryJobs.get? (jobSpecFor py payload).jobId ≠ none ∨
      resulted.deliveryJobs.find? (jobSpecFor py payload).idempotencyKey ≠ none
      from jobs ▸ taken.resolve_left (not_not.mpr recordFree)) (commandIdFor py payload) now
    refine ⟨.integrity "delivery_jobs", rfl, ?_⟩
    have records : (commandSpecFor py payload).domainRecords.foldlM
        (insertDomainRecord (commandSpecFor py payload).commandId now) opened = .ok recorded :=
      (foldlM_one _ _ _).trans wroteRecord
    have written : [jobSpecFor py payload].foldlM
        (insertDeliveryJob (commandSpecFor py payload).commandId now) resulted =
          .error (.integrity "delivery_jobs") :=
      (foldlM_one _ _ _).trans refused
    simp only [completeCommand, done, ok_bind, records]
    rw [show insertCommandResult (commandSpecFor py payload).commandId (commandSpecFor py payload).result now
      recorded = resulted from rfl, written]
    rfl
  · refine ⟨.integrity "domain_records.domain_record_id", rfl, ?_⟩
    have refused : (commandSpecFor py payload).domainRecords.foldlM
        (insertDomainRecord (commandSpecFor py payload).commandId now) opened =
          .error (.integrity "domain_records.domain_record_id") := by
      simp [commandSpecFor, insertDomainRecord, rejectIf, recordFree]
    simp only [completeCommand, done, ok_bind, refused, error_bind]

/-- The result of the command transaction where its ids are free. -/
structure Consumed (payload : Doc) (db : Db) (result : CommandTransactionResult) (db' : Db) : Prop where
  command : HasCommand payload db'
  payloads : db'.deliveryPayloads = db.deliveryPayloads
  jobs : ∀ entry ∈ db.deliveryJobs.find? (idempotencyKeyOf payload), db'.deliveryJobs = db.deliveryJobs
  status : result.status = .completed ∧ HasJob payload db' ∨
    result.status = .quarantined ∧ ¬ HasJob payload db' ∧
      db.deliveryJobs.find? (idempotencyKeyOf payload) ≠ none

theorem perform_consume_free (identified : Identified payload) (waiting : Waiting py payload db)
    (free : CommandFree py payload db) (now : Int) :
    ∃ result db', perform py (.consumeInboxWithCommand (commandSpecFor py payload) now) db =
        (.ok (.command result), db') ∧ Consumed payload db result db' := by
  obtain ⟨completed, openedCompleted, hasCompleted, onlyCompleted⟩ :=
    openCommand_free waiting free.1 .completed "" now
  obtain ⟨refused, openedRefused, hasRefused, onlyRefused⟩ :=
    openCommand_free waiting free.1 .quarantined "idempotency_conflict" now
  have plan : planDeliveryJobs db (commandSpecFor py payload).deliveryJobs ⟨[], [], false⟩ = _ :=
    planDeliveryJobs_one identified
  have jobs := free.2
  cases found : db.deliveryJobs.find? (idempotencyKeyOf payload) with
  | some entry =>
      obtain ⟨jobId, job⟩ := entry
      simp only [found] at plan jobs
      by_cases same : job.payloadHash = contentHashOf payload
      · simp only [jobs, ne_eq, not_true_eq_false, if_false, same, if_true] at plan
        refine ⟨⟨commandIdFor py payload, .completed, [jobId]⟩,
          insertCommandResult (commandIdFor py payload) ⟨"duplicate", "", ""⟩ now completed, ?_, ?_⟩
        · simp only [perform, transaction, consumeInboxWithCommand, openedCompleted, plan, ok_bind]
          rfl
        · have hasJob : HasJob payload db := ⟨(jobId, job), found, same⟩
          exact ⟨hasCompleted, onlyCompleted.payloads, fun _ _ => onlyCompleted.jobs,
            .inl ⟨rfl, (hasJob_congr onlyCompleted.jobs).mpr hasJob⟩⟩
      · simp only [jobs, ne_eq, not_true_eq_false, if_false, same] at plan
        refine ⟨⟨commandIdFor py payload, .quarantined, []⟩,
          insertCommandResult (commandIdFor py payload) ⟨"conflict", "", "idempotency_conflict"⟩ now refused,
          ?_, ?_⟩
        · simp only [perform, transaction, consumeInboxWithCommand, openedCompleted, openedRefused, plan,
            ok_bind, if_true]
          rfl
        · have noJob : ¬ HasJob payload db := by
            rintro ⟨entry, stored, sameHash⟩
            cases found.symm.trans stored
            exact same sameHash
          exact ⟨hasRefused, onlyRefused.payloads, fun _ _ => onlyRefused.jobs,
            .inr ⟨rfl, fun hasJob => noJob ((hasJob_congr onlyRefused.jobs).mp hasJob), by simp [found]⟩⟩
  | none =>
      simp only [found] at plan jobs
      obtain ⟨recordFree, jobFree⟩ := jobs
      obtain ⟨db', completedCommand, commands, payloads, hasJob⟩ :=
        completeCommand_free openedCompleted (onlyCompleted.records ▸ recordFree)
          (onlyCompleted.jobs ▸ jobFree) (onlyCompleted.jobs ▸ found)
      refine ⟨⟨commandIdFor py payload, .completed, [jobIdForPayload py payload]⟩, db', ?_,
        ⟨?_, payloads.trans onlyCompleted.payloads, by simp [found], .inl ⟨rfl, hasJob⟩⟩⟩
      · simp only [perform, transaction, consumeInboxWithCommand, openedCompleted, plan, ok_bind,
          Bool.false_eq_true, if_false, List.cons_ne_nil, and_false, completedCommand]
        rfl
      · unfold HasCommand
        rw [commands]
        exact hasCompleted

theorem perform_consume_taken (identified : Identified payload) (waiting : Waiting py payload db)
    (taken : ¬ CommandFree py payload db) (now : Int) :
    ∃ error, error.isIntegrity ∧
      perform py (.consumeInboxWithCommand (commandSpecFor py payload) now) db = (.error error, db) := by
  by_cases commandFree : db.commands.get? (commandIdFor py payload) = none
  · obtain ⟨opened, done, -, only⟩ := openCommand_free waiting commandFree .completed "" now
    have plan : planDeliveryJobs db (commandSpecFor py payload).deliveryJobs ⟨[], [], false⟩ =
        .ok ⟨[jobSpecFor py payload], [], false⟩ := by
      rw [planDeliveryJobs_one identified]
      cases found : db.deliveryJobs.find? (idempotencyKeyOf payload) with
      | none => rfl
      | some entry =>
          obtain ⟨jobId, job⟩ := entry
          have kept : job.prior.preserved ≠ none := fun kept =>
            taken ⟨commandFree, by rw [found]; exact kept⟩
          simp [kept]
    have refused : opened.domainRecords.get? (domainIdFor py payload) ≠ none ∨
        opened.deliveryJobs.get? (jobIdForPayload py payload) ≠ none ∨
        opened.deliveryJobs.find? (idempotencyKeyOf payload) ≠ none := by
      rw [only.records, only.jobs]
      by_contra free
      simp only [not_or, not_not] at free
      exact taken ⟨commandFree, by rw [free.2.2]; exact ⟨free.1, free.2.1⟩⟩
    obtain ⟨error, integrity, failed⟩ := completeCommand_taken done refused
    refine ⟨error, integrity, ?_⟩
    simp only [perform, transaction, consumeInboxWithCommand, done, plan, ok_bind, Bool.false_eq_true, if_false,
      List.cons_ne_nil, and_false, failed, error_bind]
  · refine ⟨.integrity "commands", rfl, ?_⟩
    simp only [perform, transaction, consumeInboxWithCommand, openCommand_taken commandFree, error_bind]

end Transactions

/-! ## Calls -/

section Calls

variable {py : Platform} {payload : Doc} {db : Db}

/-- The last transaction of a call and what the caller gets. -/
def stored (py : Platform) (payload : Doc) (now : Int) (alreadyPresent : Bool) (db : Db) :
    Except StateError Accepted × Db :=
  if PayloadConflict payload db then (.error .acceptConflict, db)
  else if db.deliveryPayloads.get? (idempotencyKeyOf payload) = none then
    (.ok ⟨jobIdForPayload py payload, alreadyPresent⟩, withPayload payload now db)
  else (.ok ⟨jobIdForPayload py payload, alreadyPresent⟩, db)

/-- What a call has come to when it ended. -/
def ended {ρ : Type} (outcome : ρ × Db) : Option ρ × Db := (some outcome.1, outcome.2)

theorem runFor_storePayload (identified : Identified payload) (clock : Clock) (alreadyPresent : Bool) (n : ℕ)
    (db : Db) :
    (reporting py payload (storePayload payload clock
        (if alreadyPresent then .alreadyPresent else .applied))).runFor (acceptExec py) (n + 1) db =
      ended (stored py payload clock.payloadAt alreadyPresent db) := by
  have performed : perform py (.recordDeliveryPayload payload clock.payloadAt) db = _ :=
    perform_recordDeliveryPayload identified clock.payloadAt
  simp only [reporting, storePayload, acceptStep, Prog.tryCatch, Prog.bind, Prog.runFor, acceptExec]
  rcases Option.eq_none_or_eq_some (db.deliveryPayloads.get? (idempotencyKeyOf payload)) with found | ⟨row, found⟩
  · simp only [found] at performed
    rw [performed]
    cases alreadyPresent <;> simp [ended, stored, PayloadConflict, found, Prog.tryCatch, Prog.runFor]
  · simp only [found] at performed
    by_cases same : row.payloadHash = contentHashOf payload
    · simp only [same, ne_eq, not_true_eq_false, if_false] at performed
      rw [performed]
      cases alreadyPresent <;>
        simp [ended, stored, PayloadConflict, found, same, Prog.tryCatch, Prog.runFor]
    · simp only [same, ne_eq, not_false_eq_true, if_true] at performed
      rw [performed]
      simp [ended, stored, PayloadConflict, found, same, Prog.tryCatch, Prog.runFor]

section Until

variable (valid : validateIngressPayload payload = .ok ()) (clock : Clock)
include valid

/-- Before its first transaction a call has changed nothing. -/
theorem acceptUntil_early {n : ℕ} (early : n ≤ 1) : (acceptUntil py n payload clock db).2 = db := by
  obtain rfl | rfl : n = 0 ∨ n = 1 := by omega
  · simp [acceptUntil, acceptPayload, applyOne, valid, reporting, Prog.tryCatch, Prog.runFor]
  · simp only [acceptUntil, acceptPayload, applyOne, valid, reporting, Prog.tryCatch, Prog.bind, Prog.runFor,
      acceptExec]
    rcases (db.commands.find? (idempotencyKeyOf payload)).map Prod.snd with _ | command
    · rfl
    · by_cases same : command.payloadHash = contentHashOf payload <;>
        simp [same, storePayload, acceptStep, Prog.tryCatch, Prog.runFor]

theorem acceptUntil_refused {commandId : String} {command : Command}
    (found : db.commands.find? (idempotencyKeyOf payload) = some (commandId, command))
    (other : command.payloadHash ≠ contentHashOf payload) (n : ℕ) :
    acceptUntil py (n + 1) payload clock db = ended (.error .acceptConflict, db) := by
  simp [acceptUntil, acceptPayload, applyOne, valid, reporting, Prog.tryCatch, Prog.runFor,
    acceptExec, found, other, ended]

theorem acceptUntil_known {commandId : String} {command : Command}
    (found : db.commands.find? (idempotencyKeyOf payload) = some (commandId, command))
    (same : command.payloadHash = contentHashOf payload) (n : ℕ) :
    acceptUntil py (n + 2) payload clock db = ended (stored py payload clock.payloadAt true db) := by
  rw [← runFor_storePayload (identified_of_valid valid) clock true n db]
  simp [acceptUntil, acceptPayload, applyOne, valid, reporting, Prog.tryCatch, Prog.runFor,
    acceptExec, found, same]

/-! ### Without a command -/

variable (absent : db.commands.find? (idempotencyKeyOf payload) = none)
include absent

theorem acceptUntil_stuck (taken : db.inboxEvents.get? (eventIdFor py payload) ≠ none) (n : ℕ) :
    acceptUntil py (n + 2) payload clock db =
      ended (.error (.acceptFailed (.integrity "inbox_events.event_id")), db) := by
  have performed : perform py (.recordInboxShadow payload "" (eventIdFor py payload) "" clock.inboxAt) db = _ :=
    perform_recordInboxShadow (identified_of_valid valid) clock.inboxAt
  rw [if_neg taken] at performed
  simp [acceptUntil, acceptPayload, applyOne, valid, reporting, acceptStep, Prog.tryCatch,
    Prog.runFor, acceptExec, absent, performed, ended]

variable (free : db.inboxEvents.get? (eventIdFor py payload) = none)
include free

/-- The first transaction of a call that finds no command, and what follows it. -/
theorem acceptUntil_event (n : ℕ) :
    acceptUntil py (n + 2) payload clock db =
      match (inboxDecision payload db).outcome with
      | .conflict => ended (.error .acceptConflict, withEvent py payload clock.inboxAt db)
      | .duplicate => ended (.ok ⟨jobIdForPayload py payload, true⟩, withEvent py payload clock.inboxAt db)
      | _ => (reporting py payload (consumePayload py payload clock)).runFor (acceptExec py) n
          (withEvent py payload clock.inboxAt db) := by
  have performed : perform py (.recordInboxShadow payload "" (eventIdFor py payload) "" clock.inboxAt) db = _ :=
    perform_recordInboxShadow (identified_of_valid valid) clock.inboxAt
  rw [if_pos free] at performed
  simp only [acceptUntil, acceptPayload, applyOne, valid, reporting, acceptStep, Prog.tryCatch, Prog.bind,
    Prog.runFor, acceptExec, absent, performed, Option.map_none]
  rcases inboxDecision payload db with ⟨outcome, reason⟩
  cases outcome <;> simp [ended, Prog.tryCatch, Prog.runFor, consumePayload]

/-- A call that finds neither a command nor a row of its inbox that decides, from its second
    transaction on. -/
theorem acceptUntil_command (undecided : (inboxDecision payload db).outcome ≠ .conflict ∧
      (inboxDecision payload db).outcome ≠ .duplicate) (n : ℕ) :
    acceptUntil py (n + 2) payload clock db =
      (reporting py payload (consumePayload py payload clock)).runFor (acceptExec py) n
        (withEvent py payload clock.inboxAt db) := by
  rw [acceptUntil_event valid clock absent free]
  split
  · rename_i conflict
    exact absurd conflict undecided.1
  · rename_i duplicate
    exact absurd duplicate undecided.2
  · rfl

end Until

section Consume

variable (identified : Identified payload) (waiting : Waiting py payload db) (clock : Clock)
include identified waiting

theorem runFor_consume_taken (taken : ¬ CommandFree py payload db) (n : ℕ) :
    ∃ error, error.isIntegrity ∧
      (reporting py payload (consumePayload py payload clock)).runFor (acceptExec py) (n + 1) db =
        ended (.error error, db) := by
  obtain ⟨error, integrity, performed⟩ := perform_consume_taken identified waiting taken clock.commandAt
  refine ⟨.acceptFailed error, integrity, ?_⟩
  simp [reporting, consumePayload, acceptStep, Prog.tryCatch, Prog.runFor, acceptExec, performed, ended]

theorem runFor_consume_free (free : CommandFree py payload db) :
    ∃ result db', Consumed payload db result db' ∧ ∀ n,
      (reporting py payload (consumePayload py payload clock)).runFor (acceptExec py) (n + 1) db =
        if result.status = .quarantined then ended (.error .acceptConflict, db')
        else (reporting py payload (storePayload payload clock .applied)).runFor (acceptExec py) n db' := by
  obtain ⟨result, db', performed, consumed⟩ := perform_consume_free identified waiting free clock.commandAt
  refine ⟨result, db', consumed, fun n => ?_⟩
  simp only [reporting, consumePayload, acceptStep, Prog.tryCatch, Prog.bind, Prog.runFor, acceptExec, performed]
  by_cases refused : result.status = .quarantined
  · simp [refused, ended, Prog.tryCatch, Prog.runFor]
  · simp [refused]

end Consume

/-! ### The course of a call -/

/-- The inbox decides nothing about the payload. -/
def Undecided (payload : Doc) (db : Db) : Prop :=
  (inboxDecision payload db).outcome ≠ .conflict ∧ (inboxDecision payload db).outcome ≠ .duplicate

instance (payload : Doc) (db : Db) : Decidable (Undecided payload db) := by
  unfold Undecided
  infer_instance

/-- A call whose command transaction has been made, over the inbox row it stored before. -/
structure Opened (py : Platform) (payload : Doc) (clock : Clock) (db : Db)
    (result : CommandTransactionResult) (db' : Db) : Prop where
  absent : db.commands.find? (idempotencyKeyOf payload) = none
  free : db.inboxEvents.get? (eventIdFor py payload) = none
  undecided : Undecided payload db
  commandFree : CommandFree py payload db
  consumed : Consumed payload (withEvent py payload clock.inboxAt db) result db'

/-- Everything a call that makes at most `n` calls to the database can come to. -/
inductive Course (py : Platform) (payload : Doc) (clock : Clock) (db : Db) :
    ℕ → Option (Except StateError Accepted) × Db → Prop where
  | early {n : ℕ} {outcome : Option (Except StateError Accepted)} (early : n ≤ 1) :
      Course py payload clock db n (outcome, db)
  | refused {n : ℕ} {entry : String × Command}
      (found : db.commands.find? (idempotencyKeyOf payload) = some entry)
      (other : entry.2.payloadHash ≠ contentHashOf payload) :
      Course py payload clock db n (ended (.error .acceptConflict, db))
  | known {n : ℕ} (known : HasCommand payload db) :
      Course py payload clock db n (ended (stored py payload clock.payloadAt true db))
  | stuck {n : ℕ} {error : StateError} (absent : db.commands.find? (idempotencyKeyOf payload) = none)
      (taken : db.inboxEvents.get? (eventIdFor py payload) ≠ none) (integrity : error.isIntegrity) :
      Course py payload clock db n (ended (.error error, db))
  /-- the inbox decides, the call stops after its inbox row, or the command is refused -/
  | recorded {n : ℕ} {outcome : Option (Except StateError Accepted)}
      (absent : db.commands.find? (idempotencyKeyOf payload) = none)
      (free : db.inboxEvents.get? (eventIdFor py payload) = none)
      (stops : ¬ Undecided payload db ∨ ¬ CommandFree py payload db ∨ n = 2)
      (returned : outcome = none → n = 2) :
      Course py payload clock db n (outcome, withEvent py payload clock.inboxAt db)
  | opened {n : ℕ} {result : CommandTransactionResult} {db' : Db} (late : n = 3)
      (opened : Opened py payload clock db result db') (completed : result.status ≠ .quarantined) :
      Course py payload clock db n (none, db')
  | quarantined {n : ℕ} {result : CommandTransactionResult} {db' : Db} (late : 3 ≤ n)
      (opened : Opened py payload clock db result db') (refused : result.status = .quarantined) :
      Course py payload clock db n (ended (.error .acceptConflict, db'))
  | completed {n : ℕ} {result : CommandTransactionResult} {db' : Db} (late : 4 ≤ n)
      (opened : Opened py payload clock db result db') (completed : result.status ≠ .quarantined) :
      Course py payload clock db n (ended (stored py payload clock.payloadAt false db'))

theorem waiting_withEvent (absent : db.commands.find? (idempotencyKeyOf payload) = none) (now : Int) :
    Waiting py payload (withEvent py payload now db) :=
  ⟨absent, newInboxEvent payload "" (inboxDecision payload db) now, by simp [withEvent], rfl⟩

/-- The course of a call from its command transaction on. -/
theorem course_consume (valid : validateIngressPayload payload = .ok ()) {clock : Clock}
    (absent : db.commands.find? (idempotencyKeyOf payload) = none)
    (free : db.inboxEvents.get? (eventIdFor py payload) = none) (undecided : Undecided payload db) (n : ℕ) :
    Course py payload clock db (n + 2)
      ((reporting py payload (consumePayload py payload clock)).runFor (acceptExec py) n
        (withEvent py payload clock.inboxAt db)) := by
  have identified := identified_of_valid valid
  have waiting : Waiting py payload (withEvent py payload clock.inboxAt db) :=
    waiting_withEvent absent clock.inboxAt
  cases n with
  | zero =>
      exact .recorded absent free (.inr (.inr rfl)) fun _ => rfl
  | succ n =>
      by_cases commandFree : CommandFree py payload db
      · obtain ⟨result, db', consumed, ran⟩ := runFor_consume_free identified waiting clock commandFree
        have opened : Opened py payload clock db result db' := ⟨absent, free, undecided, commandFree, consumed⟩
        rw [ran]
        by_cases refused : result.status = .quarantined
        · rw [if_pos refused]
          exact .quarantined (by omega) opened refused
        · rw [if_neg refused]
          cases n with
          | zero => exact .opened rfl opened refused
          | succ n =>
              rw [show (ApplyOutcome.applied) = if false then .alreadyPresent else .applied from rfl,
                runFor_storePayload identified]
              exact .completed (by omega) opened refused
      · obtain ⟨error, integrity, ran⟩ := runFor_consume_taken identified waiting clock commandFree n
        rw [ran]
        exact .recorded absent free (.inr (.inl commandFree)) (by simp)

theorem acceptUntil_course (valid : validateIngressPayload payload = .ok ()) (clock : Clock) (n : ℕ) :
    Course py payload clock db n (acceptUntil py n payload clock db) := by
  by_cases early : n ≤ 1
  · have same : (acceptUntil py n payload clock db).2 = db := acceptUntil_early valid clock early
    rw [show acceptUntil py n payload clock db = ((acceptUntil py n payload clock db).1, db) from
      Prod.ext rfl same]
    exact .early early
  · obtain ⟨n, rfl⟩ : ∃ m, n = m + 2 := ⟨n - 2, by omega⟩
    cases found : db.commands.find? (idempotencyKeyOf payload) with
    | some entry =>
        obtain ⟨commandId, command⟩ := entry
        by_cases same : command.payloadHash = contentHashOf payload
        · rw [acceptUntil_known valid clock found same]
          exact .known ⟨commandId, command, found, same⟩
        · rw [acceptUntil_refused valid clock found same]
          exact .refused found same
    | none =>
        by_cases free : db.inboxEvents.get? (eventIdFor py payload) = none
        · by_cases undecided : Undecided payload db
          · rw [acceptUntil_command valid clock found free undecided]
            exact course_consume valid found free undecided n
          · have decided := acceptUntil_event valid clock found free n
            have outcome : (inboxDecision payload db).outcome = .conflict ∨
                (inboxDecision payload db).outcome = .duplicate := by
              rw [← not_not (a := _ ∨ _), not_or]
              exact undecided
            rcases outcome with outcome | outcome <;> rw [outcome] at decided <;> rw [decided] <;>
              exact .recorded found free (.inl undecided) (by simp)
        · rw [acceptUntil_stuck valid clock found free]
          exact .stuck found free rfl

end Calls

/-! ## Attempts -/

section Attempts

variable (py : Platform) (payload : Doc)

/-- One command, one delivery job and one stored payload under the key, all with the
    payload's hash; accepting the payload again changes nothing, and another payload
    under the key is a conflict that changes nothing. -/
structure Complete (db : Db) : Prop where
  oneCommand : (db.commands.matching (idempotencyKeyOf payload)).map Command.payloadHash =
    [contentHashOf payload]
  oneJob : (db.deliveryJobs.matching (idempotencyKeyOf payload)).map DeliveryJob.payloadHash =
    [contentHashOf payload]
  onePayload : (db.deliveryPayloads.get? (idempotencyKeyOf payload)).map StoredPayload.payloadHash =
    some (contentHashOf payload)
  again : ∀ clock, accept py payload clock db = (.ok ⟨jobIdForPayload py payload, true⟩, db)
  stoppedAgain : ∀ stop clock, (acceptUntil py stop payload clock db).2 = db
  rival : ∀ other clock, validateIngressPayload other = .ok () →
    idempotencyKeyOf other = idempotencyKeyOf payload → contentHashOf other ≠ contentHashOf payload →
    accept py other clock db = (.error .acceptConflict, db)

/-- A row under the payload's key has another hash. -/
def Contested (db : Db) : Prop :=
  (∃ entry ∈ db.commands.find? (idempotencyKeyOf payload), entry.2.payloadHash ≠ contentHashOf payload) ∨
    (∃ entry ∈ db.deliveryJobs.find? (idempotencyKeyOf payload),
      entry.2.payloadHash ≠ contentHashOf payload) ∨
    PayloadConflict payload db

/-- The next call returns and leaves the payload complete, or it reports the conflict there is. -/
def Answered (db : Db) (clock : Clock) : Prop :=
  (∃ accepted, (accept py payload clock db).1 = .ok accepted ∧ Complete py payload (accept py payload clock db).2) ∨
    (accept py payload clock db).1 = .error .acceptConflict ∧ Contested payload db

/-- A call that may stop before its call number `stop + 1` to the database; from the fifth
    on there is none. -/
structure Attempt where
  stop : ℕ
  clock : Clock

def attempt (db : Db) (a : Attempt) : Db := (acceptUntil py a.stop payload a.clock db).2

def retry (db : Db) (clock : Clock) : Db := (accept py payload clock db).2

/-- After the attempts every further call is answered. -/
def CrashSafe (db : Db) (attempts : List Attempt) : Prop :=
  ∀ clocks clock, Answered py payload
    (run (retry py payload) (run (attempt py payload) db attempts) clocks) clock

/-! ### The condition -/

/-- A first call gets through: nothing is stored under its own ids, no inbox row of the key
    decides it, and a job under the key is the payload's own or is never reported as it. -/
def Restartable (db : Db) : Prop :=
  db.inboxEvents.get? (eventIdFor py payload) = none ∧
    Undecided payload db ∧ CommandFree py payload db ∧
    (db.deliveryJobs.find? (idempotencyKeyOf payload) = none ∨ HasJob payload db ∨ PayloadConflict payload db)

def Promising (db : Db) : Prop :=
  match db.commands.find? (idempotencyKeyOf payload) with
  | some (_, command) =>
      command.payloadHash ≠ contentHashOf payload ∨ PayloadConflict payload db ∨ HasJob payload db
  | none => Restartable py payload db

instance (db : Db) : Decidable (Restartable py payload db) := by
  unfold Restartable
  infer_instance

instance (db : Db) : Decidable (Promising py payload db) := by
  unfold Promising
  split <;> infer_instance

/-- No attempt stops between the inbox row and the command. -/
def PastInbox (db : Db) (a : Attempt) : Prop :=
  a.stop = 2 → db.commands.find? (idempotencyKeyOf payload) ≠ none

instance (db : Db) (a : Attempt) : Decidable (PastInbox payload db a) := by
  unfold PastInbox
  infer_instance

end Attempts

/-! ### What a call leaves -/

section After

variable {py : Platform} {payload : Doc} {db : Db}

/-- The last transaction touches the payload table only, and makes no conflict of it. -/
theorem stored_frame (now : Int) (alreadyPresent : Bool) :
    (stored py payload now alreadyPresent db).2.commands = db.commands ∧
      (stored py payload now alreadyPresent db).2.deliveryJobs = db.deliveryJobs ∧
      (PayloadConflict payload (stored py payload now alreadyPresent db).2 ↔ PayloadConflict payload db) := by
  unfold stored
  split
  · exact ⟨rfl, rfl, Iff.rfl⟩
  · rename_i agrees
    split
    · have agrees' : ¬ PayloadConflict payload (withPayload payload now db) := by
        simp [PayloadConflict, withPayload]
      exact ⟨rfl, rfl, iff_of_false agrees' agrees⟩
    · exact ⟨rfl, rfl, Iff.rfl⟩

theorem hasCommand_congr {db' : Db} (same : db'.commands = db.commands) :
    HasCommand payload db' ↔ HasCommand payload db := by
  unfold HasCommand
  rw [same]

theorem promising_of_command (known : HasCommand payload db) :
    Promising py payload db ↔ PayloadConflict payload db ∨ HasJob payload db := by
  obtain ⟨commandId, command, found, same⟩ := known
  simp [Promising, found, same]

theorem promising_stored (known : HasCommand payload db) (now : Int) (alreadyPresent : Bool) :
    Promising py payload (stored py payload now alreadyPresent db).2 ↔ Promising py payload db := by
  have frame : (stored py payload now alreadyPresent db).2.commands = db.commands ∧ _ :=
    stored_frame now alreadyPresent
  obtain ⟨commands, jobs, conflict⟩ := frame
  rw [promising_of_command known, promising_of_command ((hasCommand_congr commands).mpr known), conflict,
    hasJob_congr jobs]

theorem promising_absent (absent : db.commands.find? (idempotencyKeyOf payload) = none) :
    Promising py payload db ↔ Restartable py payload db := by
  simp [Promising, absent]

theorem Opened.conflict {clock : Clock} {result : CommandTransactionResult} {db' : Db}
    (opened : Opened py payload clock db result db') : PayloadConflict payload db' ↔ PayloadConflict payload db := by
  unfold PayloadConflict
  rw [opened.consumed.payloads]
  rfl

/-- The command transaction opens a way to the payload exactly where the state promised one. -/
theorem Opened.promising {clock : Clock} {result : CommandTransactionResult} {db' : Db}
    (opened : Opened py payload clock db result db') : Promising py payload db' ↔ Promising py payload db := by
  rw [promising_of_command opened.consumed.command, promising_absent opened.absent, opened.conflict]
  have restart : Restartable py payload db ↔ (db.deliveryJobs.find? (idempotencyKeyOf payload) = none ∨
      HasJob payload db ∨ PayloadConflict payload db) :=
    ⟨fun restart => restart.2.2.2, fun jobs => ⟨opened.free, opened.undecided, opened.commandFree, jobs⟩⟩
  rw [restart]
  rcases Option.eq_none_or_eq_some (db.deliveryJobs.find? (idempotencyKeyOf payload)) with missing | ⟨entry, found⟩
  · rcases opened.consumed.status with ⟨-, hasJob⟩ | ⟨-, -, present⟩
    · exact iff_of_true (.inr hasJob) (.inl missing)
    · exact absurd missing present
  · have jobs : db'.deliveryJobs = db.deliveryJobs := opened.consumed.jobs entry found
    rw [hasJob_congr jobs]
    simp only [found, reduceCtorEq, false_or]
    exact or_comm

/-- The inbox row without its command lets no further call through. -/
theorem not_promising_withEvent (absent : db.commands.find? (idempotencyKeyOf payload) = none) (now : Int) :
    ¬ Promising py payload (withEvent py payload now db) := by
  have stays : (withEvent py payload now db).commands.find? (idempotencyKeyOf payload) = none := absent
  rw [promising_absent stays]
  rintro ⟨free, -⟩
  simp [withEvent] at free

theorem pastInbox_of_ne {n : ℕ} {clock : Clock} (other : n ≠ 2) : PastInbox payload db ⟨n, clock⟩ :=
  fun stop => absurd stop other

theorem Course.promising {clock : Clock} {n : ℕ} {outcome : Option (Except StateError Accepted) × Db}
    (course : Course py payload clock db n outcome) :
    Promising py payload outcome.2 ↔ Promising py payload db ∧ PastInbox payload db ⟨n, clock⟩ := by
  cases course with
  | early early =>
      have past : PastInbox payload db ⟨n, clock⟩ := pastInbox_of_ne (by omega)
      simp [past]
  | refused found other =>
      have past : PastInbox payload db ⟨n, clock⟩ := fun _ => by simp [found]
      simp [past, ended]
  | known known =>
      have past : PastInbox payload db ⟨n, clock⟩ := fun _ => by
        obtain ⟨commandId, command, found, -⟩ := known
        simp [found]
      simpa [past, ended] using promising_stored known clock.payloadAt true
  | stuck absent taken integrity =>
      have not : ¬ Promising py payload db := by
        rw [promising_absent absent]
        exact fun restart => taken restart.1
      simp [ended, not]
  | recorded absent free stops returned =>
      refine iff_of_false (not_promising_withEvent absent clock.inboxAt) ?_
      rintro ⟨promising, past⟩
      obtain ⟨-, undecided, commandFree, -⟩ := (promising_absent absent).mp promising
      rcases stops with decided | blocked | rfl
      · exact decided undecided
      · exact blocked commandFree
      · exact past rfl absent
  | opened late opened completed =>
      have past : PastInbox payload db ⟨n, clock⟩ := pastInbox_of_ne (by omega)
      simpa [past] using opened.promising
  | quarantined late opened refused =>
      have past : PastInbox payload db ⟨n, clock⟩ := pastInbox_of_ne (by omega)
      simpa [past, ended] using opened.promising
  | completed late opened completed =>
      have past : PastInbox payload db ⟨n, clock⟩ := pastInbox_of_ne (by omega)
      simpa [past, ended] using (promising_stored opened.consumed.command clock.payloadAt false).trans
        opened.promising

/-! ### Calls that end -/

theorem Course.ended_of_four {clock : Clock} {outcome : Option (Except StateError Accepted) × Db}
    (course : Course py payload clock db 4 outcome) : ∃ result, outcome.1 = some result := by
  cases course with
  | early early => omega
  | recorded absent free stops returned =>
      refine Option.ne_none_iff_exists'.mp fun stopped => ?_
      have := returned stopped
      omega
  | opened late => omega
  | refused | known | stuck | quarantined | completed => exact ⟨_, rfl⟩

/-- Four calls to the database are enough. -/
theorem accept_course (valid : validateIngressPayload payload = .ok ()) (clock : Clock) (db : Db) :
    Course py payload clock db 4 (ended (accept py payload clock db)) := by
  have course : Course py payload clock db 4 (acceptUntil py 4 payload clock db) := acceptUntil_course valid clock 4
  obtain ⟨result, returned⟩ := course.ended_of_four
  have whole : acceptUntil py 4 payload clock db = (some result, (acceptUntil py 4 payload clock db).2) :=
    Prod.ext returned rfl
  have ran : accept py payload clock db = (result, (acceptUntil py 4 payload clock db).2) :=
    Prog.run_of_runFor whole
  rw [ran]
  exact whole ▸ course

theorem accept_refused {commandId : String} {command : Command}
    (valid : validateIngressPayload payload = .ok ())
    (found : db.commands.find? (idempotencyKeyOf payload) = some (commandId, command))
    (other : command.payloadHash ≠ contentHashOf payload) (clock : Clock) :
    accept py payload clock db = (.error .acceptConflict, db) :=
  Prog.run_of_runFor (acceptUntil_refused valid clock found other 0)

theorem accept_known (valid : validateIngressPayload payload = .ok ()) (known : HasCommand payload db)
    (clock : Clock) : accept py payload clock db = stored py payload clock.payloadAt true db := by
  obtain ⟨commandId, command, found, same⟩ := known
  exact Prog.run_of_runFor (acceptUntil_known valid clock found same 0)

/-- The three rows of a payload are there. -/
structure Settled (payload : Doc) (db : Db) : Prop where
  command : HasCommand payload db
  job : HasJob payload db
  stored : ∃ row, db.deliveryPayloads.get? (idempotencyKeyOf payload) = some row ∧
    row.payloadHash = contentHashOf payload

theorem Settled.stored_eq (settled : Settled payload db) (now : Int) (alreadyPresent : Bool) :
    Ingress.stored py payload now alreadyPresent db =
      (.ok ⟨jobIdForPayload py payload, alreadyPresent⟩, db) := by
  obtain ⟨row, found, same⟩ := settled.stored
  simp [Ingress.stored, PayloadConflict, found, same]

theorem Settled.complete (valid : validateIngressPayload payload = .ok ()) (settled : Settled payload db) :
    Complete py payload db := by
  obtain ⟨commandId, command, foundCommand, sameCommand⟩ := settled.command
  obtain ⟨⟨jobId, job⟩, foundJob, sameJob⟩ := settled.job
  obtain ⟨row, foundRow, sameRow⟩ := settled.stored
  refine
    { oneCommand := by simp [Indexed.matching_eq foundCommand, sameCommand]
      oneJob := by simpa [Indexed.matching_eq foundJob] using sameJob
      onePayload := by simp [foundRow, sameRow]
      again := fun clock => (accept_known valid settled.command clock).trans (settled.stored_eq _ _)
      stoppedAgain := fun stop clock => ?_
      rival := fun other clock valid' key hash =>
        accept_refused valid' (key ▸ foundCommand) (sameCommand ▸ hash.symm) clock }
  by_cases early : stop ≤ 1
  · exact acceptUntil_early valid clock early
  · obtain ⟨n, rfl⟩ : ∃ m, stop = m + 2 := ⟨stop - 2, by omega⟩
    rw [acceptUntil_known valid clock foundCommand sameCommand, settled.stored_eq]
    rfl

theorem settled_stored (command : HasCommand payload db) (job : HasJob payload db)
    (agrees : ¬ PayloadConflict payload db) (now : Int) (alreadyPresent : Bool) :
    Settled payload (stored py payload now alreadyPresent db).2 := by
  have frame : (stored py payload now alreadyPresent db).2.commands = db.commands ∧ _ :=
    stored_frame now alreadyPresent
  refine ⟨(hasCommand_congr frame.1).mpr command, (hasJob_congr frame.2.1).mpr job, ?_⟩
  rcases Option.eq_none_or_eq_some (db.deliveryPayloads.get? (idempotencyKeyOf payload)) with missing | ⟨row, found⟩
  · exact ⟨⟨contentHashOf payload, payload, now⟩, by simp [stored, agrees, missing, withPayload], rfl⟩
  · refine ⟨row, by simp [stored, agrees, found], ?_⟩
    by_contra other
    exact agrees ⟨row, found, other⟩

/-- How the last transaction is answered where the command is stored. -/
theorem stored_answered (valid : validateIngressPayload payload = .ok ()) (command : HasCommand payload db)
    (promise : PayloadConflict payload db ∨ HasJob payload db) (now : Int) (alreadyPresent : Bool) :
    (∃ accepted, (stored py payload now alreadyPresent db).1 = .ok accepted ∧
        Complete py payload (stored py payload now alreadyPresent db).2) ∨
      (stored py payload now alreadyPresent db).1 = .error .acceptConflict ∧ PayloadConflict payload db := by
  by_cases conflict : PayloadConflict payload db
  · exact .inr ⟨by simp [stored, conflict], conflict⟩
  · have settled : Settled payload (stored py payload now alreadyPresent db).2 :=
      settled_stored command (promise.resolve_left conflict) conflict now alreadyPresent
    refine .inl ⟨⟨jobIdForPayload py payload, alreadyPresent⟩, ?_, settled.complete valid⟩
    unfold stored
    rw [if_neg conflict]
    split <;> rfl

theorem answered_of_promising (valid : validateIngressPayload payload = .ok ())
    (promising : Promising py payload db) (clock : Clock) : Answered py payload db clock := by
  have course : Course py payload clock db 4 (ended (accept py payload clock db)) := accept_course valid clock db
  unfold Answered
  generalize accept py payload clock db = outcome at course ⊢
  obtain ⟨result, db'⟩ := outcome
  cases course with
  | early early => omega
  | refused found other => exact .inr ⟨rfl, .inl ⟨_, found, other⟩⟩
  | known known =>
      rcases stored_answered valid known ((promising_of_command known).mp promising) clock.payloadAt true with
        answered | ⟨refused, conflict⟩
      · exact .inl answered
      · exact .inr ⟨refused, .inr (.inr conflict)⟩
  | stuck absent taken integrity => exact absurd ((promising_absent absent).mp promising).1 taken
  | recorded absent free stops returned =>
      obtain ⟨-, undecided, commandFree, -⟩ := (promising_absent absent).mp promising
      rcases stops with decided | blocked | stop
      · exact absurd undecided decided
      · exact absurd commandFree blocked
      · omega
  | quarantined late opened refused =>
      have promise := (promising_of_command opened.consumed.command).mp (opened.promising.mpr promising)
      rcases opened.consumed.status with ⟨done, -⟩ | ⟨-, noJob, -⟩
      · simp [refused] at done
      · exact .inr ⟨rfl, .inr (.inr (opened.conflict.mp (promise.resolve_right noJob)))⟩
  | completed late opened completed =>
      have promise := (promising_of_command opened.consumed.command).mp (opened.promising.mpr promising)
      rcases stored_answered valid opened.consumed.command promise clock.payloadAt false with
        answered | ⟨refused, conflict⟩
      · exact .inl answered
      · exact .inr ⟨refused, .inr (.inr (opened.conflict.mp conflict))⟩

/-! ### Calls that find no way -/

theorem Complete.hasJob (complete : Complete py payload db) : HasJob payload db := by
  obtain ⟨job, only, same⟩ := List.map_eq_singleton_iff.mp complete.oneJob
  obtain ⟨jobId, found⟩ := Indexed.find?_of_matching only
  exact ⟨(jobId, job), found, same⟩

/-- A stored command without its job is taken for the whole payload. -/
theorem not_answered_of_command (valid : validateIngressPayload payload = .ok ())
    (known : HasCommand payload db) (lost : ¬ Promising py payload db) (clock : Clock) :
    ¬ Answered py payload db clock := by
  rw [promising_of_command known, not_or] at lost
  rw [Answered, accept_known valid known]
  have frame : (stored py payload clock.payloadAt true db).2.commands = db.commands ∧ _ :=
    stored_frame clock.payloadAt true
  rintro (⟨accepted, -, complete⟩ | ⟨refused, -⟩)
  · exact lost.2 ((hasJob_congr frame.2.1).mp complete.hasJob)
  · unfold stored at refused
    rw [if_neg lost.1] at refused
    split at refused <;> cases refused

/-- An inbox row without its command is inserted again. -/
theorem not_answered_of_event (valid : validateIngressPayload payload = .ok ())
    (absent : db.commands.find? (idempotencyKeyOf payload) = none)
    (taken : db.inboxEvents.get? (eventIdFor py payload) ≠ none) (clock : Clock) :
    ¬ Answered py payload db clock := by
  have ran : accept py payload clock db =
      (.error (.acceptFailed (.integrity "inbox_events.event_id")), db) :=
    Prog.run_of_runFor (acceptUntil_stuck valid clock absent taken 0)
  rw [Answered, ran]
  rintro (⟨accepted, returned, -⟩ | ⟨refused, -⟩)
  · cases returned
  · cases refused

theorem not_answered_twice (valid : validateIngressPayload payload = .ok ()) (lost : ¬ Promising py payload db)
    (clock : Clock) : ¬ (Answered py payload db clock ∧ Answered py payload (retry py payload db clock) clock) := by
  have course : Course py payload clock db 4 (ended (accept py payload clock db)) := accept_course valid clock db
  have after : ¬ Promising py payload (retry py payload db clock) := fun promising =>
    lost (course.promising.mp promising).1
  rintro ⟨first, second⟩
  by_cases known : HasCommand payload db
  · exact not_answered_of_command valid known lost clock first
  by_cases opened : HasCommand payload (retry py payload db clock)
  · exact not_answered_of_command valid opened after clock second
  unfold retry at opened second
  generalize accept py payload clock db = outcome at course opened second
  obtain ⟨result, db'⟩ := outcome
  cases course with
  | early early => omega
  | refused found other => exact lost (by simp [Promising, found, other])
  | known there => exact known there
  | stuck absent taken integrity => exact not_answered_of_event valid absent taken clock first
  | recorded absent free stops returned =>
      exact not_answered_of_event valid (waiting_withEvent absent clock.inboxAt).absent
        (by simp [withEvent]) clock second
  | quarantined late there refused => exact opened there.consumed.command
  | completed late there completed =>
      exact opened ((hasCommand_congr (stored_frame clock.payloadAt false).1).mpr there.consumed.command)

end After

/-! ## Crash safety -/

section Safety

variable {py : Platform} {payload : Doc} {db : Db}

theorem retry_promising (valid : validateIngressPayload payload = .ok ()) (clock : Clock) :
    Promising py payload (retry py payload db clock) ↔ Promising py payload db := by
  have past : PastInbox payload db ⟨4, clock⟩ := pastInbox_of_ne (by omega)
  have course : Course py payload clock db 4 (ended (accept py payload clock db)) := accept_course valid clock db
  simpa [past, ended, retry] using course.promising

/-- After the attempts a way is left exactly where there was one and none of them stopped
    between the inbox row and the command. -/
theorem run_promising (valid : validateIngressPayload payload = .ok ()) (attempts : List Attempt) :
    Promising py payload (run (attempt py payload) db attempts) ↔
      Promising py payload db ∧ Along (attempt py payload) (PastInbox payload) db attempts := by
  induction attempts generalizing db with
  | nil => simp [Along]
  | cons a rest ih =>
      have one : Promising py payload (attempt py payload db a) ↔ _ :=
        (acceptUntil_course valid a.clock a.stop).promising
      rw [run_cons, ih, one, Along, and_assoc]

theorem answered_iff_promising (valid : validateIngressPayload payload = .ok ()) :
    (∀ clocks clock, Answered py payload (run (retry py payload) db clocks) clock) ↔
      Promising py payload db := by
  constructor
  · intro answered
    by_contra lost
    let clock : Clock := ⟨0, 0, 0⟩
    exact not_answered_twice valid lost clock ⟨answered [] clock, answered [clock] clock⟩
  · intro promising clocks clock
    refine answered_of_promising valid ?_ clock
    exact run_invariant (Promising py payload)
      (fun db clock promising => (retry_promising valid clock).mpr promising) promising clocks

theorem acceptance_crash_safe (valid : validateIngressPayload payload = .ok ()) (attempts : List Attempt) :
    CrashSafe py payload db attempts ↔
      Promising py payload db ∧ Along (attempt py payload) (PastInbox payload) db attempts := by
  unfold CrashSafe
  rw [answered_iff_promising valid, run_promising valid]

/-! ### A call that stops after its inbox row -/

def enqueuePayload : Doc := Dict.insertAll ∅
  [(.other "schemaVersion", .str "rag_ingress_enqueue.v1"),
    (.other "source", .obj [(.field .provider, .str "codex")]),
    (.other "payload", .obj
      [(.field .kind, .str "redacted_rag_ready_document"),
        (.other "document", .obj [(.field .body, .str "body"), (.other "filename", .str "chunk.md")])]),
    (.other "contentHash", .str "sha256:1"),
    (.other "targetProfile", .str "transcript-memory"),
    (.field .kind, .str "conversation_chunk"),
    (.other "idempotencyKey", .str "key")]

def atNoon : Clock := ⟨0, 1, 2⟩

/-- A call that stops before the payload row is followed by one that completes it. -/
theorem acceptance_crash_safe_late :
    CrashSafe referencePlatform enqueuePayload Db.empty [⟨3, atNoon⟩, ⟨4, atNoon⟩] ∧
      (Promising referencePlatform enqueuePayload Db.empty ∧
        Along (attempt referencePlatform enqueuePayload) (PastInbox enqueuePayload) Db.empty
          [⟨3, atNoon⟩, ⟨4, atNoon⟩]) := by
  have valid : validateIngressPayload enqueuePayload = .ok () := by decide +kernel
  have holds : Promising referencePlatform enqueuePayload Db.empty ∧
      Along (attempt referencePlatform enqueuePayload) (PastInbox enqueuePayload) Db.empty
        [⟨3, atNoon⟩, ⟨4, atNoon⟩] := by decide +kernel
  exact ⟨(acceptance_crash_safe valid _).mpr holds, holds⟩

/-- A call that stops after its inbox row is the last that can be made. -/
theorem retry_after_inbox_refused :
    validateIngressPayload enqueuePayload = .ok () ∧
      (acceptUntil referencePlatform 2 enqueuePayload atNoon Db.empty).1 = none ∧
      (accept referencePlatform enqueuePayload atNoon
        (attempt referencePlatform enqueuePayload Db.empty ⟨2, atNoon⟩)).1 =
          .error (.acceptFailed (.integrity "inbox_events.event_id")) ∧
      ¬ CrashSafe referencePlatform enqueuePayload Db.empty [⟨2, atNoon⟩] := by
  have valid : validateIngressPayload enqueuePayload = .ok () := by decide +kernel
  refine ⟨valid, by decide +kernel, by decide +kernel, fun safe => ?_⟩
  exact not_answered_of_event valid (by decide +kernel) (by decide +kernel) atNoon (safe [] atNoon)

end Safety

end Neurons.Ingress
