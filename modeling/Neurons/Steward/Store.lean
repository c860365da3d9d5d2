import Neurons.Lib.Sorting
import Neurons.Steward.Card

/-! # The steward tables

The PostgreSQL side of the steward (`pgvector_store.py`): the card table with its
steward envelope, the two audit tables, the outboxes, and the transactions that
write them. A transaction either answers with the next database or raises, and
then the database is the one it started from. The locks it takes make it atomic.
-/

namespace Neurons.Steward

open Neurons.Lib
open Neurons.Source

/-! ## Tables -/

/-- A row of `memory_cards`. -/
structure CardRow where
  memoryId : String
  project : String
  cardType : String
  title : String
  summary : String
  typedPayload : Json
  lifecycleState : String
  authorizationStatus : String
  currentness : String
  confidence : Json
  validFrom : Int
  validTo : Option Int
  contentHash : String
  sourceRef : List Json
  stewardEnvelope : Option Doc
  deriving DecidableEq

inductive Action where
  | approve | autoAccept | reject | supersede | stale
  deriving DecidableEq, Repr

/-- A row of `steward_card_decisions`; rows older than the result columns have none. -/
structure CardDecision where
  memoryId : String
  contentHash : String
  action : Action
  actor : String
  targetMemoryId : Option String
  resultCard : Option Doc
  resultTarget : Option Doc
  deriving DecidableEq

/-- A row of `steward_bundle_decisions`. -/
structure BundleDecision where
  requestFingerprint : String
  project : String
  brainId : String
  scope : String
  memberIds : List String
  result : Doc
  deriving DecidableEq

/-- A row of `embedding_outbox` for a memory card. -/
structure EmbeddingJob where
  targetId : String
  contentHash : String
  payloadText : String
  status : String
  deriving DecidableEq

/-- A row of `graph_projection_outbox` for a memory card. -/
structure GraphJob where
  sourceId : String
  sourceRevision : String
  contentHash : String
  episodePayload : Doc
  status : String
  deriving DecidableEq

structure Db where
  cards : Dict String CardRow
  cardDecisions : Dict String CardDecision
  bundleDecisions : Dict String BundleDecision
  embeddingOutbox : List EmbeddingJob
  graphOutbox : List GraphJob
  localTables : List Json
  deriving DecidableEq

def Db.empty : Db := ⟨∅, ∅, ∅, [], [], []⟩

/-! ## Rows -/

section Rows

variable (lib : Library)

/-- `document[field]`. -/
def index (d : Doc) (f : Field) : Except PyError Json :=
  match d.get? f with
  | some v => .ok v
  | none => .error (.keyError (reprText f.name))

/-- A value bound to a text column. -/
def sqlText : Json → Except PyError String
  | .str s => .ok s
  | _ => .error (.databaseError "column is of type character varying")

/-- A value bound to a nullable `timestamptz` parameter. -/
def sqlTime (v : Json) : Except PyError (Option Int) :=
  match v with
  | .null => .ok none
  | .str s =>
      match lib.timestamptz s with
      | some t => .ok (some t)
      | none => .error (.databaseError "invalid input syntax for type timestamp with time zone")
  | _ => .error (.databaseError "cannot cast to timestamp with time zone")

/-- One end of a validity window on the way from an envelope into a card. -/
def parseTime (v : Json) : Except PyError (Option Int) :=
  match v with
  | .null => .ok none
  | .str s =>
      match lib.fromisoformat (replaceZulu s) with
      | some t => .ok (some t)
      | none => .error (.valueError ("Invalid isoformat string: " ++ reprText (replaceZulu s)))
  | _ => .error (.typeError "validity must be a datetime")

/-- A missing end of a window is timezone-aware, as `datetime.now(timezone.utc)` is. -/
def awareEnd : Json → Bool
  | .str s => lib.awareTime (replaceZulu s)
  | _ => true

/-- `float(card.get("confidence") or 0.0)`. -/
def floatOf : Json → Json
  | .num n => .dec (n * 10) 1
  | .dec m scale => .dec m scale
  | _ => .dec 0 1

/-- `_build_pg_card(card, active=False)` at the time `now`. -/
def buildPgCard (now : Int) (card : Doc) : Except PyError CardRow := do
  let validFrom ← parseTime lib (value card .validFrom)
  let validTo ← parseTime lib (value card .validTo)
  refuseIf (validTo ≠ none ∧
      awareEnd lib (value card .validFrom) ≠ awareEnd lib (value card .validTo))
    (.typeError "can't compare offset-naive and offset-aware datetimes")
  let memoryId ← index card .memoryId
  let project ← index card .project
  let cardType ← index card .cardType
  return {
    memoryId := memoryId.text
    project := project.text
    cardType := cardType.text
    title := card.text .title
    summary := card.text .summary
    typedPayload := (card.value? .typedPayload).getD (.obj [])
    lifecycleState := textOr card .lifecycleState "candidate"
    authorizationStatus := "disabled"
    currentness := textOr card .currentness "current"
    confidence := lib.storedConfidence (floatOf (value card .confidence))
    validFrom := validFrom.getD now
    validTo
    contentHash := card.text .contentHash
    sourceRef := match card.get? .sourceRefs with
      | some (.arr items) => items
      | _ => []
    stewardEnvelope := none }

/-- What Python checks of a card before it is inserted. -/
def validateCard (row : CardRow) : Except PyError Unit := do
  refuseIf (row.memoryId = "" ∨ row.project = "" ∨ row.cardType = "")
    (.valueError "memory card identity fields are required")
  refuseIf (∃ t ∈ row.validTo, t < row.validFrom)
    (.valueError "valid_to cannot be earlier than valid_from")
  refuseIf (row.lifecycleState ∉ lifecycleStates)
    (.valueError ("Invalid lifecycle_state: " ++ row.lifecycleState))
  refuseIf (row.authorizationStatus ∉ authorizationStatuses)
    (.valueError ("Invalid authorization_status: " ++ row.authorizationStatus))
  refuseIf (row.currentness ∉ currentnessValues)
    (.valueError ("Invalid currentness: " ++ row.currentness))

/-- What a `VARCHAR(width)` column keeps of a text. An excess of spaces is cut off; any other
    excess stands, and the width is then exceeded. -/
def varchar (width : ℕ) (text : String) : String :=
  if (text.toList.drop width).all (· == ' ') then String.ofList (text.toList.take width) else text

/-- The row that is stored for `row`. -/
def CardRow.stored (row : CardRow) : CardRow := { row with
  memoryId := varchar 64 row.memoryId
  project := varchar 64 row.project
  cardType := varchar 32 row.cardType
  contentHash := varchar 71 row.contentHash }

/-- The column types and the `CHECK` constraints of `memory_cards`. -/
def CardRow.Fits (row : CardRow) : Prop :=
  row.memoryId.length ≤ 64 ∧ row.project.length ≤ 64 ∧ row.cardType.length ≤ 32 ∧
    row.contentHash.length ≤ 71 ∧ (∀ t ∈ row.validTo, row.validFrom ≤ t) ∧
    row.lifecycleState ∈ lifecycleStates ∧ row.authorizationStatus ∈ authorizationStatuses ∧
    row.currentness ∈ currentnessValues

instance (row : CardRow) : Decidable row.Fits := by
  unfold CardRow.Fits
  infer_instance

theorem varchar_eq_self {width : ℕ} {text : String} (fits : text.length ≤ width) :
    varchar width text = text := by
  have short : text.toList.length ≤ width := fits
  simp [varchar, List.drop_eq_nil_of_le short, List.take_of_length_le short]

/-- What is cut off leaves the column full. -/
theorem varchar_length {width : ℕ} {text : String} (long : width < text.length) :
    width ≤ (varchar width text).length := by
  have long' : width < text.toList.length := long
  unfold varchar
  split
  · rw [String.length_ofList, List.length_take]
    omega
  · exact long.le

theorem varchar_ne_empty {width : ℕ} {text : String} (positive : 0 < width) (nonempty : text ≠ "") :
    varchar width text ≠ "" := by
  by_cases fits : text.length ≤ width
  · rwa [varchar_eq_self fits]
  · intro blank
    have full := varchar_length (not_le.mp fits)
    rw [blank, String.length_empty] at full
    omega

/-- A row whose texts are no wider than its columns is stored as it is. -/
theorem CardRow.stored_eq_self {row : CardRow} (fits : row.Fits) : row.stored = row := by
  obtain ⟨memoryId, project, cardType, contentHash, -⟩ := fits
  simp only [CardRow.stored, varchar_eq_self memoryId, varchar_eq_self project,
    varchar_eq_self cardType, varchar_eq_self contentHash]

end Rows

/-! ## Proposals -/

section Proposals

variable (lib : Library)

/-- What binds a retried proposal to the stored one. A stale claim is identified
    by its target and reason and observes anew on every retry. -/
def identityFields (kind : String) : List Field :=
  ([.cardType, .sourceRefs, .spanRefs, .provider, .observedAt] : List Field) ++
    if kind = "stale" then [] else [.typedPayload, .candidateId, .idempotencyKey]

/-- A proposal whose id is already taken: an exact replay, or an error. -/
def replayProposal (stored : CardRow) (contentHash : String) (envelope : Doc) :
    Except PyError Doc := do
  match stored.stewardEnvelope with
  | none => .error (.valueError "proposal identity collision")
  | some previous => do
      refuseIf (stored.contentHash ≠ contentHash) (.valueError "proposal identity collision")
      refuseIf (∃ f ∈ [Field.project, .brainId, .scope], value previous f ≠ value envelope f)
        (.valueError "steward proposal scope collision")
      let kind := envelope.text .stewardProposalKind
      refuseIf (stored.lifecycleState ∉ reviewLifecycleStates ∧ kind ∉ ["candidate", "needs_review"])
        (.valueError "proposal identity collision or already committed")
      refuseIf (∃ f ∈ identityFields kind, value previous f ≠ value envelope f)
        (.valueError "steward candidate identity collision")
      refuseIf (∃ f ∈ [Field.stewardProposalKind, .stewardTargetMemoryId],
          value previous f ≠ value envelope f)
        (.valueError "conflicting steward proposal")
      return previous

/-- Insert a row; a taken key and a row the table does not admit are database errors. -/
def insertCard (row : CardRow) (db : Db) : Except PyError Db := do
  validateCard row
  let stored := row.stored
  refuseIf (¬ stored.Fits) (.databaseError "memory_cards does not admit the row")
  refuseIf ((db.cards.get? stored.memoryId).isSome) (.databaseError "duplicate key value")
  return { db with cards := db.cards.insert stored.memoryId stored }

/-- Persist a non-authoritative envelope; a committed card is never overwritten. -/
def putStewardProposal (now : Int) (envelope : Doc) (db : Db) : Except PyError (Doc × Db) := do
  validateMemoryCardEnvelope lib envelope
  refuseIf (oneOf envelope .lifecycleState reviewLifecycleStates = false ∨
      envelope.get? .authorizationStatus ≠ some (.str "disabled"))
    (.valueError "steward proposal must be pending and disabled")
  let row ← buildPgCard lib now envelope
  match db.cards.get? row.memoryId with
  | some stored => return (← replayProposal stored row.contentHash envelope, db)
  | none =>
      -- the envelope is written to the row of the id as it was given
      let stewardEnvelope := if row.stored.memoryId = row.memoryId then some envelope else none
      return (envelope, ← insertCard { row with stewardEnvelope } db)

end Proposals

/-! ## Decisions -/

section Decisions

variable (lib : Library)

/-- The identity of a decision request. -/
structure Decision where
  decisionId : String
  memoryId : String
  action : Action
  actor : String
  contentHash : String
  targetMemoryId : String
  deriving DecidableEq

/-- `target_memory_id or None`. -/
def Decision.target? (d : Decision) : Option String :=
  if d.targetMemoryId = "" then none else some d.targetMemoryId

/-- What a decision makes of its card and target. -/
abbrev Transform := Doc → Option Doc → Except PyError (Doc × Option Doc)

/-- What a decision answers. -/
structure Outcome where
  card : Doc
  target : Option Doc
  deriving DecidableEq

/-- The audit row was written for this request. -/
def CardDecision.Records (row : CardDecision) (d : Decision) : Prop :=
  row.memoryId = d.memoryId ∧ row.contentHash = d.contentHash ∧ row.action = d.action ∧
    row.actor = d.actor ∧ row.targetMemoryId = d.target?

instance (row : CardDecision) (d : Decision) : Decidable (row.Records d) := by
  unfold CardDecision.Records
  infer_instance

def requireSameSupersedeScope (card : Doc) (target : Option Doc) : Except PyError Unit :=
  let differ := PyError.valueError "supersede requires matching project, brain_id, and scope"
  match target with
  | none => .error differ
  | some target => refuseIf (∃ f ∈ [Field.project, .brainId, .scope],
      card.value? f = none ∨ value card f ≠ value target f) differ

def requireScope (d : Decision) (card : Doc) (target : Option Doc) : Except PyError Unit :=
  if d.action = .supersede then requireSameSupersedeScope card target else .ok ()

/-- A retry answers with the decision-time result, whatever became of the cards. -/
def replayDecision (d : Decision) (previous : CardDecision) : Except PyError Outcome := do
  refuseIf (¬ previous.Records d) (.valueError "conflicting steward decision id")
  match previous.resultCard with
  | none => .error (.valueError "steward decision result unavailable for safe retry")
  | some card => do
      requireScope d card (some (previous.resultTarget.getD ∅))
      return ⟨card, previous.resultTarget⟩

/-- A locked card and its envelope. -/
def lockCard (db : Db) (memoryId : String) : Except PyError (CardRow × Doc) :=
  let unknown := PyError.valueError "unknown steward card or target"
  match db.cards.get? memoryId with
  | none => .error unknown
  | some row =>
      match row.stewardEnvelope with
      | none => .error unknown
      | some envelope => .ok (row, envelope)

def isApproved (card : Doc) : Bool := oneOf card .approvalState acceptedApprovalStates

/-- Close the window of a card that stops being current, open that of one that is
    first approved; both at the one timestamp of the decision. -/
def rewriteValidity (committedAt : Int) (original : Option Doc) (changed : Doc) : Doc :=
  match original with
  | none => changed
  | some original =>
      if oneOf changed .currentness ["superseded", "stale"] then
        if original.get? .currentness = some (.str "current") then
          changed.set .validTo (.str (lib.isoformat committedAt))
        else changed
      else if isApproved changed ∧ isApproved original = false ∧
          changed.get? .stewardProposalKind ≠ some (.str "stale") then
        changed.set .validFrom (.str (lib.isoformat committedAt))
      else changed

/-- The original of a changed card: the decided one by its id, else the target. -/
def originalOf (d : Decision) (card : Doc) (target : Option Doc) (changed : Doc) :
    Except PyError (Option Doc) := do
  let memoryId ← index changed .memoryId
  return if memoryId = .str d.memoryId then some card else target

/-- The stored form of a changed envelope: authorized exactly when approved. -/
def authorize (changed : Doc) : Doc :=
  changed.set .authorizationStatus (.str (if isApproved changed then "active" else "disabled"))

/-- `UPDATE memory_cards` with the stored form of a changed envelope. -/
def updateRow (row : CardRow) (stored : Doc) : Except PyError CardRow := do
  let lifecycleState ← sqlText (← index stored .lifecycleState)
  let authorizationStatus ← sqlText (← index stored .authorizationStatus)
  let currentness ← sqlText ((stored.value? .currentness).getD (.str "unknown"))
  let validFrom ← sqlTime lib (value stored .validFrom)
  let validTo ← sqlTime lib (value stored .validTo)
  let updated := { row with
    stewardEnvelope := some stored
    lifecycleState, authorizationStatus, currentness
    validFrom := validFrom.getD row.validFrom
    validTo }
  refuseIf (¬ updated.Fits) (.databaseError "memory_cards does not admit the row")
  return updated

def openJobStates : List String := ["queued", "processing", "failed"]

def enqueueOutbox (targetId contentHash payloadText : String) (jobs : List EmbeddingJob) :
    Except PyError (List EmbeddingJob) := do
  refuseIf (targetId = "") (.valueError "outbox target_id is required")
  if ∃ job ∈ jobs, job.targetId = targetId ∧ job.contentHash = contentHash ∧
      job.status ∈ openJobStates then
    return jobs
  else return jobs ++ [⟨targetId, contentHash, payloadText, "queued"⟩]

/-- The insert of a job. Its key is only taken where a column cut something off the key that was
    looked up, which is then looked up once more in vain. -/
def insertGraphJob (job : GraphJob) (jobs : List GraphJob) : Except PyError (List GraphJob) := do
  refuseIf (¬ (job.sourceId.length ≤ 128 ∧ job.sourceRevision.length ≤ 128 ∧ job.contentHash.length ≤ 71))
    (.databaseError "value too long for type character varying")
  refuseIf (∃ stored ∈ jobs, stored.sourceId = job.sourceId ∧ stored.sourceRevision = job.sourceRevision)
    (.runtimeError "graph projection outbox insert returned no id")
  return jobs ++ [job]

def enqueueGraphOutbox (sourceId sourceRevision contentHash : String) (episodePayload : Doc)
    (jobs : List GraphJob) : Except PyError (List GraphJob) := do
  refuseIf (sourceId = "" ∨ sourceRevision = "" ∨ contentHash = "")
    (.valueError "graph projection key fields are required")
  if ∃ job ∈ jobs, job.sourceId = sourceId ∧ job.sourceRevision = sourceRevision then return jobs
  else insertGraphJob ⟨varchar 128 sourceId, varchar 128 sourceRevision, varchar 71 contentHash,
    episodePayload, "queued"⟩ jobs

/-- A key that fits its columns is free where no job has it. -/
theorem enqueueGraphOutbox_eq {sourceId sourceRevision contentHash : String} {episodePayload : Doc}
    {jobs : List GraphJob} (given : sourceId ≠ "" ∧ sourceRevision ≠ "" ∧ contentHash ≠ "")
    (fits : sourceId.length ≤ 128 ∧ sourceRevision.length ≤ 128 ∧ contentHash.length ≤ 71) :
    enqueueGraphOutbox sourceId sourceRevision contentHash episodePayload jobs = .ok
      (if ∃ job ∈ jobs, job.sourceId = sourceId ∧ job.sourceRevision = sourceRevision then jobs
        else jobs ++ [⟨sourceId, sourceRevision, contentHash, episodePayload, "queued"⟩]) := by
  have named : ¬ (sourceId = "" ∨ sourceRevision = "" ∨ contentHash = "") := by simpa using given
  simp only [enqueueGraphOutbox, refuseIf, named, if_false, ok_bind]
  split
  · rfl
  · next free =>
      simp only [insertGraphJob, refuseIf, varchar_eq_self fits.1, varchar_eq_self fits.2.1,
        varchar_eq_self fits.2.2, fits, and_self, not_true_eq_false, if_false, free, ok_bind]
      rfl

/-- The episode of a changed card for the graph projection. -/
def episodePayload (cardId sourceRevision currentness : String) (stored : Doc) :
    Except PyError Doc := do
  let typedPayload := (stored.value? .typedPayload).getD (.obj [])
  match Doc.ofJson? typedPayload with
  | none => .error (.attributeError "object has no attribute 'get'")
  | some payload => do
      return Doc.ofFields [
        (.sourceType, .str "memory_card"), (.sourceId, .str cardId),
        (.sourceRevision, .str sourceRevision),
        (.contentHash, ← index stored .contentHash), (.authorityMemoryId, .str cardId),
        (.project, ← index stored .project), (.cardType, ← index stored .cardType),
        (.title, ← index stored .title), (.summary, ← index stored .summary),
        (.typedPayload, typedPayload),
        (.lifecycleState, ← index stored .lifecycleState), (.currentness, .str currentness),
        (.validFrom, .str (stored.text .validFrom)), (.validTo, .str (stored.text .validTo)),
        (.observedAt, .str (textOr payload .observedAt (stored.text .validFrom))),
        (.createdAt, .str (stored.text .createdAt))]

/-- The embedding work of a changed card, in the outbox of the profile in use. A
    demoted card keeps its embedding. -/
def enqueueEmbedding (localProfile : Bool) (cardId contentHash currentness : String) (stored : Doc)
    (db : Db) : Except PyError (List EmbeddingJob × List Json) :=
  if currentness ≠ "current" then .ok (db.embeddingOutbox, db.localTables)
  else if localProfile then do
    return (db.embeddingOutbox, ← lib.enqueueLocal db.localTables stored)
  else do
    return (← enqueueOutbox cardId contentHash (stored.text .summary) db.embeddingOutbox,
      db.localTables)

/-- The work a changed card leaves for the projections. A stale claim is no
    authority and leaves nothing. -/
def enqueueProjections (localProfile : Bool) (cardId contentHash : String) (stored : Doc) (db : Db) :
    Except PyError Db :=
  if isApproved stored ∧ stored.text .stewardProposalKind ≠ "stale" then do
    let currentness := textOr stored .currentness "unknown"
    let (embeddingOutbox, localTables) ←
      enqueueEmbedding lib localProfile cardId contentHash currentness stored db
    let lifecycleState := (← index stored .lifecycleState).text
    let revision := contentHash ++ ":" ++ lifecycleState ++ ":" ++ currentness
    let episode ← episodePayload cardId revision currentness stored
    let graphOutbox ← enqueueGraphOutbox cardId revision contentHash episode db.graphOutbox
    return { db with embeddingOutbox, localTables, graphOutbox }
  else .ok db

/-- Store one changed card of a decision, which may only write the cards it locked. -/
def writeChanged (localProfile : Bool) (locked : List String) (changed : Doc) (db : Db) :
    Except PyError (Doc × Db) := do
  let cardId := (← index changed .memoryId).text
  match if cardId ∈ locked then db.cards.get? cardId else none with
  | none => .error (.keyError (reprText cardId))
  | some row => do
      refuseIf ((← index changed .contentHash) ≠ .str row.contentHash)
        (.valueError "steward content hash cannot change during transition")
      let stored := authorize changed
      let updated ← updateRow lib row stored
      let db ← enqueueProjections lib localProfile cardId row.contentHash stored
        { db with cards := db.cards.insert cardId updated }
      return (stored, db)

/-- The locked envelope of the target, if the decision names one. -/
def lockTarget (d : Decision) (db : Db) : Except PyError (Option Doc) :=
  match d.target? with
  | none => .ok none
  | some targetId => do
      let (_, target) ← lockCard db targetId
      return some target

/-- A changed card of the decision, with its validity rewritten. -/
def rewriteChanged (d : Decision) (committedAt : Int) (card : Doc) (target : Option Doc)
    (changed : Doc) : Except PyError Doc := do
  let original ← originalOf d card target changed
  return rewriteValidity lib committedAt original changed

/-- The changed cards of a new decision. -/
def decideCards (d : Decision) (transform : Transform) (committedAt : Int) (db : Db) :
    Except PyError (Doc × Option Doc) := do
  let (row, card) ← lockCard db d.memoryId
  let target ← lockTarget d db
  refuseIf (row.contentHash ≠ d.contentHash) (.valueError "steward card content hash changed")
  requireScope d card target
  let (changedCard, changedTarget) ← transform card target
  let newCard ← rewriteChanged lib d committedAt card target changedCard
  let newTarget ← changedTarget.mapM (rewriteChanged lib d committedAt card target)
  return (newCard, newTarget)

/-- Store the changed target, if there is one. -/
def writeTarget (localProfile : Bool) (locked : List String) (changed : Option Doc) (db : Db) :
    Except PyError (Option Doc × Db) :=
  match changed with
  | none => .ok (none, db)
  | some changed => do
      let (stored, db) ← writeChanged lib localProfile locked changed db
      return (some stored, db)

/-- The ids of the cards a decision locks. -/
def Decision.locked (d : Decision) : List String := d.memoryId :: d.target?.toList

/-- The audit row of a decision. -/
def Decision.audit (d : Decision) (outcome : Outcome) : CardDecision where
  memoryId := d.memoryId
  contentHash := d.contentHash
  action := d.action
  actor := d.actor
  targetMemoryId := d.target?
  resultCard := some outcome.card
  resultTarget := outcome.target

/-- Store the changed cards and the audit row of a new decision. -/
def commitDecision (localProfile : Bool) (d : Decision) (changed : Doc × Option Doc) (db : Db) :
    Except PyError (Outcome × Db) := do
  let (card, db) ← writeChanged lib localProfile d.locked changed.1 db
  let (target, db) ← writeTarget lib localProfile d.locked changed.2 db
  let outcome : Outcome := ⟨card, target⟩
  return (outcome,
    { db with cardDecisions := db.cardDecisions.insert d.decisionId (d.audit outcome) })

/-- One decision: a replay of an audited one, or a new one at the database time
    `committedAt`. -/
def stewardDecision (localProfile : Bool) (d : Decision) (transform : Transform)
    (committedAt : Int) (db : Db) : Except PyError (Outcome × Db) := do
  refuseIf (d.decisionId = "" ∨ d.actor = "") (.valueError "steward decision identity required")
  match db.cardDecisions.get? d.decisionId with
  | some previous => return (← replayDecision d previous, db)
  | none => do
      let changed ← decideCards lib d transform committedAt db
      commitDecision lib localProfile d changed db

/-! ## Bundles -/

/-- A child decision of a bundle. -/
structure Child where
  decision : Decision
  transform : Transform

/-- What the callback of a bundle decision settles on after its reads: the child
    decisions in order, and the answer it builds from their outcomes. -/
structure BundlePlan where
  children : List Child
  result : List Outcome → Except PyError Doc

/-- The identity of a bundle decision request. -/
structure BundleRequest where
  decisionId : String
  requestFingerprint : String
  project : String
  brainId : String
  scope : String
  memberIds : List String
  deriving DecidableEq

def validateStewardBundleScope (project brainId scope : String) (memberIds : List String) :
    Except PyError Unit := do
  refuseIf (project = "" ∨ brainId = "" ∨ scope = "")
    (.valueError "steward bundle project, brain_id and scope required")
  refuseIf (64 < project.length)
    (.valueError "invalid steward bundle scope or member identities")
  refuseIf ((∃ id ∈ memberIds, ¬ (1 ≤ id.length ∧ id.length ≤ 64)) ∨ ¬ memberIds.Nodup)
    (.valueError "unique steward bundle member identities required")

/-- The audit row was written for this request. -/
def BundleDecision.Records (row : BundleDecision) (b : BundleRequest) : Prop :=
  row.requestFingerprint = b.requestFingerprint ∧ row.project = b.project ∧
    row.brainId = b.brainId ∧ row.scope = b.scope ∧ row.memberIds = sortOn id b.memberIds

instance (row : BundleDecision) (b : BundleRequest) : Decidable (row.Records b) := by
  unfold BundleDecision.Records
  infer_instance

/-- The audit row of a bundle. -/
def BundleRequest.audit (b : BundleRequest) (result : Doc) : BundleDecision where
  requestFingerprint := b.requestFingerprint
  project := b.project
  brainId := b.brainId
  scope := b.scope
  memberIds := sortOn id b.memberIds
  result := result

/-- Child decisions on the connection of the bundle, each at its own database time. -/
def commitChildren : List Child → (ℕ → Int) → Db → Except PyError (List Outcome × Db)
  | [], _, db => .ok ([], db)
  | child :: rest, clock, db => do
      let (outcome, db) ← stewardDecision lib lib.environmentLocalProfile child.decision
        child.transform (clock 0) db
      let (outcomes, db) ← commitChildren rest (fun n => clock (n + 1)) db
      return (outcome :: outcomes, db)

/-- One bundle decision: a replay of an audited one, or the callback's child
    decisions together with the audit row of the whole. -/
def stewardBundleDecision (b : BundleRequest) (decide : Db → Except PyError BundlePlan)
    (clock : ℕ → Int) (db : Db) : Except PyError (Doc × Db) := do
  refuseIf (b.decisionId = "" ∨ b.requestFingerprint = "")
    (.valueError "steward bundle decision identity and callback required")
  validateStewardBundleScope b.project b.brainId b.scope b.memberIds
  refuseIf (b.memberIds = []) (.valueError "steward bundle decision members required")
  match db.bundleDecisions.get? b.decisionId with
  | some previous => do
      refuseIf (¬ previous.Records b) (.valueError "conflicting steward bundle decision id")
      return (previous.result, db)
  | none => do
      let plan ← decide db
      let (outcomes, db) ← commitChildren lib plan.children clock db
      let result ← plan.result outcomes
      return (result,
        { db with bundleDecisions := db.bundleDecisions.insert b.decisionId (b.audit result) })

end Decisions

/-! ## Reads -/

section Reads

variable (lib : Library)

def getStewardCard (memoryId : String) (db : Db) : Option Doc :=
  (db.cards.get? memoryId).bind (·.stewardEnvelope)

def getStewardDecision (decisionId : String) (db : Db) : Option CardDecision :=
  db.cardDecisions.get? decisionId

/-- Match a shape in which `0` stands for a digit; the rest of the text on success. -/
def matchShape : List Char → List Char → Option (List Char)
  | [], text => some text
  | _ :: _, [] => none
  | p :: shape, c :: text =>
      if (if p = '0' then c.isDigit else c == p) then matchShape shape text else none

/-- `(Z|[+-]\d{2}:\d{2})$`. -/
def zoneSuffix : List Char → Bool
  | ['Z'] => true
  | sign :: offset => (sign == '+' || sign == '-') && matchShape "00:00".toList offset == some []
  | [] => false

/-- `^\d{4}-\d{2}-\d{2}T\d{2}:\d{2}(:\d{2}(\.\d+)?)?(Z|[+-]\d{2}:\d{2})$`. -/
def zonedTime (text : String) : Bool :=
  match matchShape "0000-00-00T00:00".toList text.toList with
  | none => false
  | some rest => zoneSuffix rest ||
      match matchShape ":00".toList rest with
      | none => false
      | some rest => zoneSuffix rest ||
          match rest with
          | '.' :: c :: fraction => c.isDigit && zoneSuffix (fraction.dropWhile Char.isDigit)
          | _ => false

/-- A status card counts until it expires, and not at all when its expiry is no
    zoned time. -/
def statusUnexpired (row : CardRow) (instant : Int) : Except PyError Bool :=
  if row.cardType ≠ "status" then .ok true
  else
    match ((Doc.ofJson? row.typedPayload).getD ∅).get? .expiresAt with
    | none | some .null | some (.str "") => .ok true
    | some (.str s) =>
        if zonedTime s then
          match lib.timestamptz s with
          | some t => .ok (instant < t)
          | none => .error (.databaseError "date/time field value out of range")
        else .ok false
    | some _ => .ok false

/-- The conditions of the authority filter before the expiry of a status. -/
def CardRow.InWindow (row : CardRow) (project : String) (asOf : Option Int) (instant : Int) : Prop :=
  row.project = project ∧ row.authorizationStatus = "active" ∧
    (row.currentness = "current" ∨ asOf ≠ none ∧ row.currentness = "superseded") ∧
    row.lifecycleState ∈ acceptedLifecycleStates ∧ row.validFrom ≤ instant ∧
    ∀ t ∈ row.validTo, instant < t

instance (row : CardRow) (project : String) (asOf : Option Int) (instant : Int) :
    Decidable (row.InWindow project asOf instant) := by
  unfold CardRow.InWindow
  infer_instance

def authorityFilter (project : String) (asOf : Option Int) (now : Int) (row : CardRow) :
    Except PyError Bool :=
  let instant := asOf.getD now
  if row.InWindow project asOf instant then statusUnexpired lib row instant else .ok false

/-- The further conditions of a steward-only read. -/
def stewardOnlyFilter (row : CardRow) : Bool :=
  match row.stewardEnvelope with
  | none => false
  | some envelope => isApproved envelope && envelope.text .stewardProposalKind != "stale"

/-- The parameters of `list_authorized_cards`. -/
structure CardQuery where
  project : String
  memoryIds : Option (List String)
  asOf : Option Int
  limit : ℕ
  afterMemoryId : Option String
  stewardOnly : Bool

/-- The conditions of a query that do not depend on the state of a card. -/
def CardQuery.Selects (q : CardQuery) (memoryId : String) : Prop :=
  (∀ ids ∈ q.memoryIds, memoryId ∈ ids.take 100) ∧ ∀ after ∈ q.afterMemoryId, after < memoryId

instance (q : CardQuery) (memoryId : String) : Decidable (q.Selects memoryId) := by
  unfold CardQuery.Selects
  infer_instance

def listAuthorizedCards (q : CardQuery) (now : Int) (db : Db) : Except PyError (List CardRow) := do
  refuseIf (q.project = "" ∨ ¬ (1 ≤ q.limit ∧ q.limit ≤ 100))
    (.valueError "project and bounded limit required")
  let rows ← (db.cards.entries.map Prod.snd).filterM (fun row =>
    if q.Selects row.memoryId ∧ (q.stewardOnly → stewardOnlyFilter row) then
      authorityFilter lib q.project q.asOf now row
    else .ok false)
  return rows.take q.limit

end Reads

end Neurons.Steward
