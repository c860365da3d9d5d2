import Neurons.Ingress.CrashSafety
import Neurons.Ingress.Moves
import Neurons.Ingress.Wire

/-! # Poison messages

A message that fails `max_deliver` times is taken off the queue once its delivery job is
over. The job is quarantined only for the message its payload was retained from, which is
found out by comparing the retained payload with the message. The retained payload is the
normal form of the message; the comparison is with the message as it came.
-/

namespace Neurons.Ingress

open Neurons.Lib
open Neurons.Source

/-! ## The worker -/

/-- A row of `shadow_ingest_log`. -/
structure LogRow where
  contentHash : String
  documentKind : String
  targetProfile : String
  status : String
  datasetRef : String
  documentRef : String
  delivered : Bool
  deriving DecidableEq, Repr

/-- `IngestStateStore` in its canonical-state mode. -/
structure StateStore where
  stateDb : Db
  log : Table String LogRow

/-- `record`: the hash, the kind and the profile of a row are those it was made with. -/
def StateStore.record (store : StateStore) (idempotencyKey : String) (row : LogRow) : StateStore :=
  let written := match store.log.get? idempotencyKey with
    | none => row
    | some old => { row with
        contentHash := old.contentHash, documentKind := old.documentKind, targetProfile := old.targetProfile }
  { store with log := store.log.set idempotencyKey written }

inductive WorkerError where
  | state (error : StateError)
  | runtime (message : String)
  deriving DecidableEq, Repr

section Worker

variable (py : Platform)

/-- The first half of `process_payload`: the message is normalized, checked and accepted.
    `redacted` tells whether every text of the payload is its own redaction; a payload that is
    not redacted is dropped. -/
def acceptMessage (redacted : Doc → Bool) (message : Doc) (clock : Clock) (db : Db) :
    Except WorkerError (Option Accepted) × Db :=
  let payload := normalizeIngestJobPayload message
  match validateIngressPayload payload with
  | .error error => (.error (.state (.python error)), db)
  | .ok () =>
      if redacted payload = false then (.ok none, db)
      else match accept py payload clock db with
        | (.ok accepted, db') => (.ok (some accepted), db')
        | (.error error, db') => (.error (.state error), db')

/-- The log row of a message that was given up. -/
def poisonRow (contentHash documentKind targetProfile : String) : LogRow :=
  ⟨contentHash, documentKind, targetProfile, "quarantined_max_deliver", "", "", false⟩

/-- The last line of `_record_poison`. -/
def StateStore.recordSequence (store : StateStore) (sequence : ℕ) : StateStore :=
  store.record ("poison:" ++ toString sequence) (poisonRow "" "unknown" "unknown")

/-- The job of a poison message, once its payload was compared. -/
def concludeJob (jobId : String) (job : DeliveryJob) (sequence : ℕ) (now : Int) (store : StateStore) :
    Except WorkerError Unit × StateStore :=
  match quarantineTransportDelivery jobId (some job.updatedAt) now store.stateDb with
  | .error error => (.error (.state error), store)
  | .ok db =>
      let after : StateStore := { store with stateDb := db }
      match (db.deliveryJobs.get? jobId).map DeliveryJob.status with
      | some .succeeded => (.ok (), after.recordSequence sequence)
      | some .quarantined =>
          let row := poisonRow job.payloadHash job.documentKind job.targetProfile
          (.ok (), (after.record job.idempotencyKey row).recordSequence sequence)
      | _ => (.error (.runtime "transport_quarantine_not_terminal"), after)

/-- `_record_poison`; `none` is a message that is no JSON object. -/
def recordPoison (message : Option Doc) (sequence : ℕ) (now : Int) (store : StateStore) :
    Except WorkerError Unit × StateStore :=
  match message.filter (fun payload => idempotencyKeyOf payload ≠ "") with
  | none => (.ok (), store.recordSequence sequence)
  | some payload =>
      match store.stateDb.deliveryJobs.find? (idempotencyKeyOf payload) with
      | none => (.ok (), store.recordSequence sequence)
      | some (jobId, job) =>
          let retained := (store.stateDb.deliveryPayloads.get? (idempotencyKeyOf payload)).map
            StoredPayload.payloadJson
          if ¬ retained.any (·.equal payload) then (.error (.runtime "transport_quarantine_payload_identity"), store)
          else concludeJob jobId job sequence now store

inductive Acknowledgement where
  | ack
  | nak
  deriving DecidableEq, Repr

/-- What `handle_msg` does with a message whose handling raised. -/
def handleFailure (message : Option Doc) (sequence attempts maxDeliver : ℕ) (now : Int) (store : StateStore) :
    Acknowledgement × StateStore :=
  if maxDeliver ≤ attempts then
    match recordPoison message sequence now store with
    | (.ok (), after) => (.ack, after)
    | (.error _, after) => (.nak, after)
  else (.nak, store)

end Worker

/-! ## What the database keeps -/

section Kept

variable {py : Platform} {db db' : Db} {key : String}

@[simp] theorem insertCommandResult_deliveryPayloads (commandId : String) (result : CommandResultSpec)
    (now : Int) (db : Db) : (insertCommandResult commandId result now db).deliveryPayloads =
      db.deliveryPayloads := rfl

@[simp] theorem Db.setJob_deliveryPayloads (db : Db) (jobId : String) (write : DeliveryJob → DeliveryJob)
    (keeps : ∀ job, (write job).idempotencyKey = job.idempotencyKey) :
    (db.setJob jobId write keeps).deliveryPayloads = db.deliveryPayloads := rfl

theorem openCommand_payloads {spec : CommandSpec} {status : CommandStatus} {lastErrorClass : String} {now : Int}
    (done : openCommand spec status lastErrorClass now db = .ok db') :
    db'.deliveryPayloads = db.deliveryPayloads := by
  simp only [openCommand, insertCommand, bind_eq_ok] at done
  obtain ⟨opened, wrote, done⟩ := done
  have same : opened.deliveryPayloads = db.deliveryPayloads := by
    split at wrote
    · cases wrote
    · cases wrote
      rfl
  split at done
  · cases done
    exact same
  · unfold consumeInboxEvent at done
    split at done
    · cases done
    · split at done
      · cases done
      · cases done
        exact same

theorem insertDomainRecord_payloads {commandId : String} {now : Int} {spec : DomainRecordSpec}
    (done : insertDomainRecord commandId now db spec = .ok db') : db'.deliveryPayloads = db.deliveryPayloads := by
  simp only [insertDomainRecord, bind_eq_ok] at done
  obtain ⟨_, _, wrote⟩ := done
  cases wrote
  rfl

theorem insertDeliveryJob_payloads {commandId : String} {now : Int} {spec : DeliveryJobSpec}
    (done : insertDeliveryJob commandId now db spec = .ok db') : db'.deliveryPayloads = db.deliveryPayloads := by
  unfold insertDeliveryJob at done
  split at done
  · cases done
  · cases done
    rfl

theorem foldlM_payloads {α : Type} {f : Db → α → Except StateError Db}
    (keeps : ∀ {db db' a}, f db a = .ok db' → db'.deliveryPayloads = db.deliveryPayloads) {l : List α}
    (done : l.foldlM f db = .ok db') : db'.deliveryPayloads = db.deliveryPayloads := by
  induction l generalizing db with
  | nil =>
      cases done
      rfl
  | cons a rest ih =>
      simp only [List.foldlM_cons, bind_eq_ok] at done
      obtain ⟨between, first, others⟩ := done
      exact (ih others).trans (keeps first)

theorem consumeInboxWithCommand_payloads {spec : CommandSpec} {now : Int} {result : CommandTransactionResult}
    (done : consumeInboxWithCommand spec now db = .ok (result, db')) :
    db'.deliveryPayloads = db.deliveryPayloads := by
  simp only [consumeInboxWithCommand, bind_eq_ok] at done
  obtain ⟨_, -, plan, -, done⟩ := done
  split at done
  · simp only [bind_eq_ok] at done
    obtain ⟨opened, wrote, done⟩ := done
    cases done
    rw [insertCommandResult_deliveryPayloads, openCommand_payloads wrote]
  · split at done
    · simp only [bind_eq_ok] at done
      obtain ⟨opened, wrote, done⟩ := done
      cases done
      rw [insertCommandResult_deliveryPayloads, openCommand_payloads wrote]
    · simp only [completeCommand, bind_eq_ok] at done
      obtain ⟨opened, wrote, recorded, records, inserted, jobs, done⟩ := done
      cases done
      rw [foldlM_payloads insertDeliveryJob_payloads jobs, insertCommandResult_deliveryPayloads,
        foldlM_payloads insertDomainRecord_payloads records, openCommand_payloads wrote]

theorem createDeliveryJob_payloads {spec : DeliveryJobSpec} {commandId : String} {now : Int}
    (done : createDeliveryJob spec commandId now db = .ok db') : db'.deliveryPayloads = db.deliveryPayloads := by
  simp only [createDeliveryJob, bind_eq_ok] at done
  obtain ⟨-, -, decision, -, done⟩ := done
  split at done
  · cases done
    rfl
  · cases done
  all_goals exact insertDeliveryJob_payloads done

/-- Only a payload that none was retained for is stored. -/
theorem recordDeliveryPayload_kept {payload : Doc} {now : Int} {outcome : PayloadOutcome} {row : StoredPayload}
    (done : recordDeliveryPayload payload now db = .ok (outcome, db'))
    (found : db.deliveryPayloads.get? key = some row) : db'.deliveryPayloads.get? key = some row := by
  simp only [recordDeliveryPayload, bind_eq_ok] at done
  obtain ⟨-, -, -, -, wrote⟩ := done
  split at wrote
  · split at wrote <;> cases wrote <;> exact found
  · rename_i missing
    cases wrote
    rw [Table.get?_set, if_neg]
    · exact found
    · rintro rfl
      rw [found] at missing
      cases missing

/-- A retained payload stays as it is. -/
theorem transaction_payload {op : Op} {answer : Answer} {row : StoredPayload}
    (done : transaction py op db = .ok (answer, db')) (found : db.deliveryPayloads.get? key = some row) :
    db'.deliveryPayloads.get? key = some row := by
  suffices same : (∃ payload now, op = .recordDeliveryPayload payload now) ∨
      db'.deliveryPayloads = db.deliveryPayloads by
    rcases same with ⟨payload, now, rfl⟩ | same
    · simp only [transaction, bind_eq_ok] at done
      obtain ⟨⟨_, _⟩, wrote, done⟩ := done
      cases done
      exact recordDeliveryPayload_kept wrote found
    · rw [same]
      exact found
  cases op with
  | recordDeliveryPayload payload now => exact .inl ⟨payload, now, rfl⟩
  | recordInboxShadow =>
      simp only [transaction, recordInboxShadow, bind_eq_ok] at done
      obtain ⟨⟨_, _⟩, ⟨_, _, _, _, _, _, _, _, wrote⟩, done⟩ := done
      cases wrote
      cases done
      exact .inr rfl
  | createCommand =>
      simp only [transaction, createCommand, insertCommand, bind_eq_ok] at done
      obtain ⟨_, wrote, done⟩ := done
      cases done
      split at wrote
      · cases wrote
      · cases wrote
        exact .inr rfl
  | consumeInboxWithCommand =>
      simp only [transaction, bind_eq_ok] at done
      obtain ⟨⟨_, _⟩, wrote, done⟩ := done
      cases done
      exact .inr (consumeInboxWithCommand_payloads wrote)
  | createDeliveryJob =>
      simp only [transaction, bind_eq_ok] at done
      obtain ⟨_, wrote, done⟩ := done
      cases done
      exact .inr (createDeliveryJob_payloads wrote)
  | claim =>
      simp only [transaction, bind_eq_ok] at done
      obtain ⟨⟨_, _⟩, wrote, done⟩ := done
      cases done
      obtain ⟨_, -, ⟨-, rfl⟩ | ⟨-, -, rfl⟩ | ⟨-, -, rfl⟩⟩ := claimDeliveryJob_eq_ok wrote <;> exact .inr rfl
  | quarantineTransport =>
      simp only [transaction, bind_eq_ok] at done
      obtain ⟨_, wrote, done⟩ := done
      cases done
      obtain ⟨_, -, ⟨rfl, -⟩ | ⟨-, -, -, rfl⟩⟩ := quarantineTransportDelivery_eq_ok wrote <;> exact .inr rfl
  | recordReplayable =>
      simp only [transaction, recordReplayableAttempt, bind_eq_ok] at done
      obtain ⟨⟨_, _⟩, wrote, done⟩ := done
      cases done
      obtain ⟨_, -, ⟨-, rfl⟩ | ⟨-, -, rfl⟩⟩ := recordAttempt_eq_ok wrote <;> exact .inr rfl
  | markExecuting =>
      simp only [transaction, bind_eq_ok] at done
      obtain ⟨⟨_, _⟩, wrote, done⟩ := done
      cases done
      obtain ⟨_, -, ⟨-, rfl⟩ | ⟨-, -, rfl⟩⟩ := markDeliveryExecuting_eq_ok wrote <;> exact .inr rfl
  | recordEvidence =>
      simp only [transaction, bind_eq_ok] at done
      obtain ⟨_, wrote, done⟩ := done
      cases done
      cases recordDeliveryEvidence_eq_ok wrote
      exact .inr rfl
  | complete =>
      simp only [transaction, completeDeliveryWithEvidence, bind_eq_ok] at done
      obtain ⟨⟨_, _⟩, ⟨-, -, _, -, wrote⟩, done⟩ := done
      cases done
      right
      split at wrote
      · cases wrote
        rfl
      · split at wrote <;> cases wrote <;> rfl
  | recordFailed =>
      simp only [transaction, recordFailedRetryableAttempt, bind_eq_ok] at done
      obtain ⟨⟨_, _⟩, wrote, done⟩ := done
      cases done
      obtain ⟨_, -, ⟨-, rfl⟩ | ⟨-, -, rfl⟩⟩ := recordAttempt_eq_ok wrote <;> exact .inr rfl
  | correct =>
      simp only [transaction, correctProceduralSourceHash, bind_eq_ok] at done
      obtain ⟨⟨_, _⟩, ⟨-, -, _, -, -, -, -, -, wrote⟩, done⟩ := done
      cases done
      right
      split at wrote
      · cases wrote
      · simp only [bind_eq_ok] at wrote
        obtain ⟨_, -, wrote⟩ := wrote
        cases wrote
        rfl

theorem step_payload {op : Op} {row : StoredPayload} (found : db.deliveryPayloads.get? key = some row) :
    (step py db op).deliveryPayloads.get? key = some row := by
  unfold step perform
  split
  · rename_i done
    exact transaction_payload done found
  · exact found

theorem Change.same_key {op : Op} {answer : Answer} {jobId : String} {job job' : DeliveryJob}
    (change : Change op answer jobId job job') : job'.idempotencyKey = job.idempotencyKey := by
  cases change with
  | completed held shape => rcases shape with rfl | rfl <;> rfl
  | _ => rfl

/-- A job keeps its id and its key. -/
theorem step_job {op : Op} {jobId : String} {job : DeliveryJob}
    (found : db.deliveryJobs.find? key = some (jobId, job)) :
    ∃ job', (step py db op).deliveryJobs.find? key = some (jobId, job') := by
  obtain ⟨stored, keyed⟩ := Indexed.find?_eq_some.mp found
  unfold step perform
  split
  · rename_i done
    cases transaction_job done jobId with
    | same kept => exact ⟨job, Indexed.find?_eq_some.mpr ⟨kept.trans stored, keyed⟩⟩
    | added absent =>
        rw [stored] at absent
        cases absent
    | changed before after change =>
        cases before.symm.trans stored
        exact ⟨_, Indexed.find?_eq_some.mpr ⟨after, change.same_key.trans keyed⟩⟩
  · exact ⟨job, found⟩

end Kept

/-! ## What is retained of an accepted message -/

section Retained

variable {py : Platform} {payload message : Doc} {db db' : Db}

/-- What is retained under the key once a payload was accepted. -/
def retainedAfter (payload : Doc) (db : Db) : Doc :=
  match db.deliveryPayloads.get? (idempotencyKeyOf payload) with
  | some row => row.payloadJson
  | none => payload

theorem stored_retained {now : Int} {alreadyPresent : Bool} {row : StoredPayload}
    (found : (stored py payload now alreadyPresent db).2.deliveryPayloads.get? (idempotencyKeyOf payload) = some row) :
    row.payloadJson = retainedAfter payload db := by
  unfold retainedAfter
  unfold stored at found
  split at found
  · rw [found]
  · split at found
    · rename_i missing
      rw [withPayload, Table.get?_set_self] at found
      cases found
      rw [missing]
    · rw [found]

/-- What an accepted call has retained. -/
theorem accept_retained {clock : Clock} {accepted : Accepted} {row : StoredPayload}
    (valid : validateIngressPayload payload = .ok ()) (done : accept py payload clock db = (.ok accepted, db'))
    (found : db'.deliveryPayloads.get? (idempotencyKeyOf payload) = some row) :
    row.payloadJson = retainedAfter payload db := by
  have course : Course py payload clock db 4 (ended (accept py payload clock db)) := accept_course valid clock db
  rw [done] at course
  generalize shape : ended ((Except.ok accepted : Except StateError Accepted), db') = outcome at course
  cases course with
  | early early => omega
  | refused => cases shape
  | stuck => cases shape
  | opened late => omega
  | quarantined => cases shape
  | known =>
      have same : db' = (stored py payload clock.payloadAt true db).2 := congrArg Prod.snd shape
      subst same
      exact stored_retained found
  | recorded =>
      have same : db' = withEvent py payload clock.inboxAt db := congrArg Prod.snd shape
      subst same
      have kept : db.deliveryPayloads.get? (idempotencyKeyOf payload) = some row := found
      rw [retainedAfter, kept]
  | completed late opened completed =>
      rename_i result between
      have same : db' = (stored py payload clock.payloadAt false between).2 := congrArg Prod.snd shape
      subst same
      have payloads : between.deliveryPayloads = db.deliveryPayloads := opened.consumed.payloads
      have retained : retainedAfter payload between = retainedAfter payload db := by
        unfold retainedAfter
        rw [payloads]
      exact (stored_retained found).trans retained

/-- `process_payload` has accepted the message into canonical state: its command, its job and
    its payload are there. -/
structure Canonical (py : Platform) (redacted : Doc → Bool) (message : Doc) (clock : Clock) (db db' : Db) :
    Prop where
  accepted : ∃ accepted, acceptMessage py redacted message clock db = (.ok (some accepted), db')
  settled : Settled (normalizeIngestJobPayload message) db'

theorem acceptMessage_eq_ok {redacted : Doc → Bool} {clock : Clock} {accepted : Accepted}
    (done : acceptMessage py redacted message clock db = (.ok (some accepted), db')) :
    validateIngressPayload (normalizeIngestJobPayload message) = .ok () ∧
      accept py (normalizeIngestJobPayload message) clock db = (.ok accepted, db') := by
  unfold acceptMessage at done
  dsimp only at done
  split at done
  · cases done
  · rename_i valid
    refine ⟨valid, ?_⟩
    split at done
    · cases done
    · split at done
      · rename_i returned
        cases done
        exact returned
      · cases done

theorem Complete.settled (complete : Complete py payload db) : Settled payload db := by
  obtain ⟨command, only, same⟩ := List.map_eq_singleton_iff.mp complete.oneCommand
  obtain ⟨commandId, found⟩ := Indexed.find?_of_matching only
  refine ⟨⟨commandId, command, found, same⟩, complete.hasJob, ?_⟩
  exact Option.map_eq_some_iff.mp complete.onePayload

/-- Where a first call gets through, an accepted message is in canonical state. -/
theorem canonical_of_promising {redacted : Doc → Bool} {clock : Clock} {accepted : Accepted}
    (promising : Promising py (normalizeIngestJobPayload message) db)
    (done : acceptMessage py redacted message clock db = (.ok (some accepted), db')) :
    Canonical py redacted message clock db db' := by
  obtain ⟨valid, returned⟩ := acceptMessage_eq_ok done
  refine ⟨⟨accepted, done⟩, ?_⟩
  rcases answered_of_promising valid promising clock with ⟨_, -, complete⟩ | ⟨refused, -⟩
  · rw [returned] at complete
    exact complete.settled
  · rw [returned] at refused
    cases refused

/-- The message is what is retained under its key once it is accepted: it was nested already,
    or it equals what was retained before. -/
def RetainedAsSent (message : Doc) (db : Db) : Prop :=
  match db.deliveryPayloads.get? (idempotencyKeyOf message) with
  | some row => row.payloadJson.equal message
  | none => Nested message

instance (message : Doc) (db : Db) : Decidable (RetainedAsSent message db) := by
  unfold RetainedAsSent
  split <;> infer_instance

/-- The message is taken off the queue with its job over. -/
structure TakenOff (message : Doc) (sequence attempts maxDeliver : ℕ) (now : Int) (store : StateStore) : Prop where
  recorded : (recordPoison (some message) sequence now store).1 = .ok ()
  acknowledged : (handleFailure (some message) sequence attempts maxDeliver now store).1 = .ack
  concluded : ∃ entry ∈ (handleFailure (some message) sequence attempts maxDeliver now
    store).2.stateDb.deliveryJobs.find? (idempotencyKeyOf message),
      entry.2.status = .succeeded ∨ entry.2.status = .quarantined

theorem retainedAfter_normalize :
    (retainedAfter (normalizeIngestJobPayload message) db).equal message ↔ RetainedAsSent message db := by
  unfold retainedAfter RetainedAsSent
  rw [idempotencyKeyOf_normalize]
  cases db.deliveryPayloads.get? (idempotencyKeyOf message) with
  | some row => exact Iff.rfl
  | none => exact equal_normalize_iff

end Retained

/-! ## The end of a poison message -/

section Conclusion

variable {jobId : String} {job : DeliveryJob} {store : StateStore} {sequence : ℕ} {now : Int}

/-- The transaction on a job that nobody holds and whose payload is retained. -/
theorem quarantineTransport_idle (found : store.stateDb.deliveryJobs.get? jobId = some job)
    (idle : ¬ job.LeaseIsLive now) (retained : store.stateDb.deliveryPayloads.get? job.idempotencyKey ≠ none) :
    ∃ db job', quarantineTransportDelivery jobId (some job.updatedAt) now store.stateDb = .ok db ∧
      db.deliveryJobs.get? jobId = some job' ∧ job'.idempotencyKey = job.idempotencyKey ∧
      (job'.status = .succeeded ∨ job'.status = .quarantined) := by
  have read : store.stateDb.job jobId = .ok job := Db.job_eq_ok.mpr found
  by_cases concluded : job.status = .succeeded ∨ job.status = .quarantined
  · refine ⟨store.stateDb, job, ?_, found, rfl, concluded⟩
    simp [quarantineTransportDelivery, read, concluded]
  · refine ⟨store.stateDb.setJob jobId (·.quarantineTransport now) (·.quarantineTransport_key now),
      job.quarantineTransport now, ?_, Db.get?_setJob_self found, rfl, .inr rfl⟩
    simp [quarantineTransportDelivery, read, concluded, rejectIf, idle, retained]

/-- The log does not touch the database. -/
@[simp] theorem StateStore.record_stateDb (key : String) (row : LogRow) :
    (store.record key row).stateDb = store.stateDb := rfl

theorem concludeJob_idle (found : store.stateDb.deliveryJobs.get? jobId = some job)
    (idle : ¬ job.LeaseIsLive now) (retained : store.stateDb.deliveryPayloads.get? job.idempotencyKey ≠ none) :
    ∃ after job', concludeJob jobId job sequence now store = (.ok (), after) ∧
      after.stateDb.deliveryJobs.get? jobId = some job' ∧ job'.idempotencyKey = job.idempotencyKey ∧
      (job'.status = .succeeded ∨ job'.status = .quarantined) := by
  obtain ⟨db, job', written, stored, keyed, concluded⟩ := quarantineTransport_idle found idle retained
  simp only [concludeJob, written, stored, Option.map_some]
  rcases concluded with status | status
  · rw [status]
    exact ⟨_, job', rfl, stored, keyed, .inl status⟩
  · rw [status]
    exact ⟨_, job', rfl, stored, keyed, .inr status⟩

variable {message : Doc} {attempts maxDeliver : ℕ}

/-- A message is taken off exactly when Python takes what is retained of it for the message itself. -/
theorem takenOff_iff (named : idempotencyKeyOf message ≠ "") (reached : maxDeliver ≤ attempts)
    (found : store.stateDb.deliveryJobs.find? (idempotencyKeyOf message) = some (jobId, job))
    (idle : ¬ job.LeaseIsLive now) :
    TakenOff message sequence attempts maxDeliver now store ↔
      ∃ row ∈ store.stateDb.deliveryPayloads.get? (idempotencyKeyOf message), row.payloadJson.equal message := by
  obtain ⟨stored, keyed⟩ := Indexed.find?_eq_some.mp found
  have looked : recordPoison (some message) sequence now store =
      if ¬ ((store.stateDb.deliveryPayloads.get? (idempotencyKeyOf message)).map
          StoredPayload.payloadJson).any (·.equal message)
      then (.error (.runtime "transport_quarantine_payload_identity"), store)
      else concludeJob jobId job sequence now store := by
    have keyed : Option.filter (fun payload => decide (idempotencyKeyOf payload ≠ "")) (some message) =
        some message := by
      simp [Option.filter, named]
    simp only [recordPoison, keyed, found]
  have compared : ((store.stateDb.deliveryPayloads.get? (idempotencyKeyOf message)).map
      StoredPayload.payloadJson).any (·.equal message) = true ↔
        ∃ row ∈ store.stateDb.deliveryPayloads.get? (idempotencyKeyOf message),
          row.payloadJson.equal message := by
    cases store.stateDb.deliveryPayloads.get? (idempotencyKeyOf message) <;> simp
  constructor
  · intro taken
    by_contra other
    have recorded := taken.recorded
    rw [looked, if_pos (compared.not.mpr other)] at recorded
    cases recorded
  · intro same
    have retained : store.stateDb.deliveryPayloads.get? job.idempotencyKey ≠ none := by
      obtain ⟨row, held, -⟩ := same
      rw [keyed, Option.mem_def.mp held]
      nofun
    obtain ⟨after, job', concluded, stored', keyed', status⟩ := concludeJob_idle stored idle retained
    rw [if_neg (not_not.mpr (compared.mpr same)), concluded] at looked
    have handled : handleFailure (some message) sequence attempts maxDeliver now store = (.ack, after) := by
      simp [handleFailure, reached, looked]
    refine ⟨by rw [looked], by rw [handled], (jobId, job'), ?_, status⟩
    rw [handled]
    exact Indexed.find?_eq_some.mpr ⟨stored', keyed'.trans keyed⟩

end Conclusion

section Messages

variable {py : Platform} {redacted : Doc → Bool} {message : Doc} {clock : Clock} {db db' : Db}

/-- The rows of an accepted message are there in every later state. -/
theorem Canonical.later (canonical : Canonical py redacted message clock db db') (later : List Op) :
    (∃ row, (run (step py) db' later).deliveryPayloads.get? (idempotencyKeyOf message) = some row ∧
      row.payloadJson = retainedAfter (normalizeIngestJobPayload message) db) ∧
    ∃ entry, (run (step py) db' later).deliveryJobs.find? (idempotencyKeyOf message) = some entry := by
  obtain ⟨accepted, done⟩ := canonical.accepted
  obtain ⟨valid, returned⟩ := acceptMessage_eq_ok done
  obtain ⟨row, found, -⟩ := canonical.settled.stored
  have retained := accept_retained valid returned found
  obtain ⟨entry, job, -⟩ := canonical.settled.job
  rw [idempotencyKeyOf_normalize] at found job
  constructor
  · refine ⟨row, ?_, retained⟩
    apply run_invariant (fun s : Db => s.deliveryPayloads.get? (idempotencyKeyOf message) = some row) _ found
    intro s op found
    exact step_payload found
  · apply run_invariant (fun s : Db => ∃ entry, s.deliveryJobs.find? (idempotencyKeyOf message) = some entry) _
      ⟨entry, job⟩
    rintro s op ⟨⟨jobId, job⟩, found⟩
    obtain ⟨job', found'⟩ : ∃ job', (step py s op).deliveryJobs.find? (idempotencyKeyOf message) =
        some (jobId, job') := step_job found
    exact ⟨(jobId, job'), found'⟩

/-- An accepted message that reaches its last delivery while nobody holds its job is taken off
    the queue with the job over, exactly when it is what was retained of it. -/
theorem poison_taken_off_iff (canonical : Canonical py redacted message clock db db') (later : List Op)
    (log : Table String LogRow) (sequence : ℕ) {attempts maxDeliver : ℕ} (reached : maxDeliver ≤ attempts)
    {now : Int} (idle : ∀ entry ∈ (run (step py) db' later).deliveryJobs.find? (idempotencyKeyOf message),
      ¬ entry.2.LeaseIsLive now) :
    TakenOff message sequence attempts maxDeliver now ⟨run (step py) db' later, log⟩ ↔
      RetainedAsSent message db := by
  obtain ⟨accepted, done⟩ := canonical.accepted
  obtain ⟨valid, -⟩ := acceptMessage_eq_ok done
  have named : idempotencyKeyOf message ≠ "" := by
    rw [← idempotencyKeyOf_normalize]
    exact (identified_of_valid valid).key
  obtain ⟨⟨row, retained, same⟩, ⟨jobId, job⟩, found⟩ := canonical.later later
  rw [takenOff_iff named reached found (idle _ found)]
  rw [retained, ← retainedAfter_normalize, ← same]
  simp

end Messages

/-! ## Two messages -/

/-- A job as the Java ingress publishes it. -/
def flatJob : Doc := Dict.insertAll ∅
  [(.other "source", .obj [(.field .provider, .str "codex")]),
    (.other "payload", .obj
      [(.other "filename", .str "chunk.md"), (.field .kind, .str "redacted_rag_ready_document"),
        (.field .body, .str "body")]),
    (.other "contentHash", .str "sha256:1"),
    (.other "targetProfile", .str "transcript-memory"),
    (.field .kind, .str "conversation_chunk"),
    (.other "idempotencyKey", .str "key")]

/-- The database after a message was accepted at noon into an empty one. -/
def afterNoon (message : Doc) : Db :=
  (acceptMessage referencePlatform (fun _ => true) message atNoon Db.empty).2

/-- The message is accepted as a new one. -/
def AcceptedAtNoon (message : Doc) : Prop :=
  (acceptMessage referencePlatform (fun _ => true) message atNoon Db.empty).1 =
    .ok (some ⟨jobIdForPayload referencePlatform message, false⟩)

theorem canonical_at_noon {message : Doc} (accepted : AcceptedAtNoon message)
    (promising : Promising referencePlatform (normalizeIngestJobPayload message) Db.empty) :
    Canonical referencePlatform (fun _ => true) message atNoon Db.empty (afterNoon message) :=
  canonical_of_promising promising (Prod.ext accepted rfl)

theorem nested_message_taken_off :
    TakenOff enqueuePayload 7 5 5 0 ⟨afterNoon enqueuePayload, ∅⟩ ∧ RetainedAsSent enqueuePayload Db.empty := by
  have accepted : AcceptedAtNoon enqueuePayload := by
    unfold AcceptedAtNoon
    decide +kernel
  have canonical := canonical_at_noon accepted (by decide +kernel)
  have nested : RetainedAsSent enqueuePayload Db.empty := by decide +kernel
  have idle : ∀ entry ∈ (afterNoon enqueuePayload).deliveryJobs.find? (idempotencyKeyOf enqueuePayload),
      ¬ entry.2.LeaseIsLive 0 := by decide +kernel
  exact ⟨(poison_taken_off_iff canonical [] ∅ 7 le_rfl idle).mpr nested, nested⟩

/-- The worker never gets rid of the flat job it accepted itself. -/
theorem flat_job_not_taken_off :
    Canonical referencePlatform (fun _ => true) flatJob atNoon Db.empty (afterNoon flatJob) ∧
    (∀ entry ∈ (afterNoon flatJob).deliveryJobs.find? (idempotencyKeyOf flatJob), ¬ entry.2.LeaseIsLive 0) ∧
    (recordPoison (some flatJob) 7 0 ⟨afterNoon flatJob, ∅⟩).1 =
      .error (.runtime "transport_quarantine_payload_identity") ∧
    ¬ TakenOff flatJob 7 5 5 0 ⟨afterNoon flatJob, ∅⟩ := by
  have accepted : AcceptedAtNoon flatJob := by
    unfold AcceptedAtNoon
    decide +kernel
  have refused : (recordPoison (some flatJob) 7 0 ⟨afterNoon flatJob, ∅⟩).1 =
      .error (.runtime "transport_quarantine_payload_identity") := by decide +kernel
  refine ⟨canonical_at_noon accepted (by decide +kernel), by decide +kernel, refused, ?_⟩
  intro taken
  have recorded := taken.recorded
  rw [refused] at recorded
  cases recorded

end Neurons.Ingress
