import Neurons.Lib.Run
import Neurons.Steward.ReferenceRun

/-! # What the graph projection hears

An upsert and a decision queue an episode of the card for the graph. A revision of a card is
queued once and never again: the content hash for an upsert, the content hash with the
lifecycle and the currentness for a decision. The newest episode describes the row as
long as every write that changes the row comes under a revision of its own.
-/

namespace Neurons.Steward.GraphProjection

open Neurons.Lib
open Neurons.Source

/-! ## Upserts -/

/-- A card as the callers of `upsert_card` hand it in. -/
structure MemoryCard extends CardRow where
  createdAt : Int

section Upserts

variable (lib : Library)

/-- Write a card over any row that is not accepted authority; the envelope stays. -/
def upsertCardOn (card : CardRow) (db : Db) : Except PyError Db := do
  let card := card.stored
  refuseIf (¬ card.Fits) (.databaseError "memory_cards does not admit the row")
  let stored := db.cards.get? card.memoryId
  refuseIf (∃ row ∈ stored, row.lifecycleState ∈ ["accepted", "human_accepted", "auto_accepted"])
    (.valueError "cannot overwrite an accepted memory card")
  let row := { card with stewardEnvelope := stored.bind (·.stewardEnvelope) }
  return { db with cards := db.cards.insert card.memoryId row }

/-- The episode of an upserted card. -/
def cardEpisode (card : MemoryCard) : Except PyError Doc :=
  match Doc.ofJson? (if card.typedPayload.truthy then card.typedPayload else .obj []) with
  | none => .error (.attributeError "object has no attribute 'get'")
  | some payload => .ok (Doc.ofFields [
      (.sourceType, .str "memory_card"), (.sourceId, .str card.memoryId),
      (.sourceRevision, .str card.contentHash), (.contentHash, .str card.contentHash),
      (.authorityMemoryId, .str card.memoryId), (.project, .str card.project),
      (.cardType, .str card.cardType), (.title, .str card.title), (.summary, .str card.summary),
      (.typedPayload, card.typedPayload), (.lifecycleState, .str card.lifecycleState),
      (.currentness, .str card.currentness), (.validFrom, .str (lib.isoformat card.validFrom)),
      (.validTo, .str ((card.validTo.map lib.isoformat).getD "")),
      (.observedAt, .str (textOr payload .observedAt (lib.isoformat card.createdAt))),
      (.createdAt, .str (lib.isoformat card.createdAt))])

/-- `upsert_card`; `embedding` is how the embedding work of the card ends, which writes
    neither cards nor episodes. -/
def upsertCard (card : MemoryCard) (embedding : Except PyError Unit) (db : Db) : Except PyError Db := do
  validateCard card.toCardRow
  let db ← upsertCardOn card.toCardRow db
  embedding
  let episode ← cardEpisode lib card
  let graphOutbox ← enqueueGraphOutbox card.memoryId card.contentHash card.contentHash episode db.graphOutbox
  return { db with graphOutbox }

end Upserts

/-! ## The machine -/

inductive ProjectionOp where
  | upsert (card : MemoryCard) (embedding : Except PyError Unit)
  | propose (envelope : Doc) (now : Int)
  | decide (decision : Decision) (transform : Transform) (committedAt : Int)

/-- A card that is authority by its envelope: approved, and not a claim that another is stale. -/
def IsAuthority (stored : Doc) : Prop := isApproved stored ∧ stored.text .stewardProposalKind ≠ "stale"

instance (stored : Doc) : Decidable (IsAuthority stored) := by
  unfold IsAuthority
  infer_instance

/-- The id of the row an envelope is written to. -/
def rowId (envelope : Doc) : String := (value envelope .memoryId).text

/-- The cards a decision accepted, by its answer. -/
def accepted (outcome : Outcome) : List String :=
  ((outcome.card :: outcome.target.toList).filter (fun stored => decide (IsAuthority stored))).map rowId

section Machine

variable (lib : Library)

/-- The database after the transaction, and the cards it upserted or accepted. -/
def ProjectionOp.transaction (op : ProjectionOp) (db : Db) : Except PyError (List String × Db) :=
  match op with
  | .upsert card embedding => (upsertCard lib card embedding db).map ([card.stored.memoryId], ·)
  | .propose envelope now => (putStewardProposal lib now envelope db).map fun result => ([], result.2)
  | .decide d transform committedAt =>
      (stewardDecision lib lib.localProfile d transform committedAt db).map fun result =>
        (accepted result.1, result.2)

/-- A database, and the cards that were upserted or accepted so far. -/
structure Projected where
  db : Db
  ids : List String

def projectionStep (projected : Projected) (op : ProjectionOp) : Projected :=
  match op.transaction lib projected.db with
  | .ok (ids, db) => ⟨db, projected.ids ++ ids⟩
  | .error _ => projected

end Machine

/-! ## Episodes -/

/-- The jobs of a card in the order of their creation. -/
def graphJobsOf (jobs : List GraphJob) (memoryId : String) : List GraphJob :=
  jobs.filter fun job => decide (job.sourceId = memoryId)

/-- The graph after all jobs, each episode over the ones before it. -/
def replayGraph (jobs : List GraphJob) : Table String Doc :=
  jobs.foldl (fun graph job => graph.set job.sourceId job.episodePayload) ∅

/-- The text names the end of a window; a blank one an open end. -/
def NamesEnd (lib : Library) (text : String) : Option Int → Prop
  | none => text = ""
  | some t => lib.timestamptz text = some t

/-- The episode says of the card what its row says. -/
structure Carries (lib : Library) (episode : Doc) (row : CardRow) : Prop where
  title : episode.get? .title = some (.str row.title)
  summary : episode.get? .summary = some (.str row.summary)
  typedPayload : episode.get? .typedPayload = some row.typedPayload
  lifecycleState : episode.get? .lifecycleState = some (.str row.lifecycleState)
  currentness : episode.get? .currentness = some (.str row.currentness)
  validFrom : lib.timestamptz (episode.text .validFrom) = some row.validFrom
  validTo : NamesEnd lib (episode.text .validTo) row.validTo

/-- The episode carries the lifecycle, the currentness and the window of the row. -/
structure CarriesState (lib : Library) (episode : Doc) (row : CardRow) : Prop where
  lifecycleState : episode.get? .lifecycleState = some (.str row.lifecycleState)
  currentness : episode.get? .currentness = some (.str row.currentness)
  validFrom : lib.timestamptz (episode.text .validFrom) = some row.validFrom
  validTo : NamesEnd lib (episode.text .validTo) row.validTo

/-- The newest job of the card describes the row. -/
def Heard (lib : Library) (jobs : List GraphJob) (memoryId : String) (row : CardRow) : Prop :=
  ∃ job, (graphJobsOf jobs memoryId).getLast? = some job ∧ Carries lib job.episodePayload row

/-- The card has no job under this revision yet. -/
def NewRevision (jobs : List GraphJob) (memoryId revision : String) : Prop :=
  ∀ job ∈ jobs, job.sourceId = memoryId → job.sourceRevision ≠ revision

instance (jobs : List GraphJob) (memoryId revision : String) : Decidable (NewRevision jobs memoryId revision) := by
  unfold NewRevision
  infer_instance

/-- The revision an accepted card is queued under. -/
def revisionOf (contentHash : String) (stored : Doc) : String :=
  contentHash ++ ":" ++ (value stored .lifecycleState).text ++ ":" ++ textOr stored .currentness "unknown"

/-- What the row keeps of a card in a decision is what its envelope says, and the envelope has a
    beginning of its window. -/
structure Agrees (stored : Doc) (row : CardRow) : Prop where
  title : stored.get? .title = some (.str row.title)
  summary : stored.get? .summary = some (.str row.summary)
  typedPayload : (stored.value? .typedPayload).getD (.obj []) = row.typedPayload
  begins : ∃ text, value stored .validFrom = .str text

/-- The graph hears of a changed card. One that is queued under a new revision has an envelope that
    agrees with its row; any other one is, as it will be, what its newest job describes, or no
    job is of it. -/
def WriteHeard (lib : Library) (changed : Doc) (db : Db) : Prop :=
  ∀ row row', db.cards.get? (rowId changed) = some row → updateRow lib row (authorize changed) = .ok row' →
    if IsAuthority (authorize changed) ∧
        NewRevision db.graphOutbox (rowId changed) (revisionOf row.contentHash (authorize changed)) then
      Agrees (authorize changed) row
    else
      Heard lib db.graphOutbox (rowId changed) row' ∨
        (¬ IsAuthority (authorize changed) ∧ graphJobsOf db.graphOutbox (rowId changed) = [])

/-- The graph hears of what a transaction writes. An upsert is queued for its card where the card has
    no job of that content hash yet and its id is stored whole. -/
def ProjectionOp.Hears (lib : Library) (db : Db) : ProjectionOp → Prop
  | .upsert card _ =>
      NewRevision db.graphOutbox card.memoryId card.contentHash ∧ card.stored.memoryId = card.memoryId ∨
        GraphProjection.Heard lib db.graphOutbox card.stored.memoryId card.toCardRow
  | .propose _ _ => True
  | .decide d transform committedAt => db.cardDecisions.get? d.decisionId = none →
      ∀ new newTarget, decideCards lib d transform committedAt db = .ok (new, newTarget) →
        WriteHeard lib new db ∧ ∀ stored mid,
          writeChanged lib lib.localProfile d.locked new db = .ok (stored, mid) →
            ∀ second ∈ newTarget, WriteHeard lib second mid

/-- The graph hears of a transaction that commits. -/
def ProjectionOp.Heard (lib : Library) (db : Db) (op : ProjectionOp) : Prop :=
  ∀ result, op.transaction lib db = .ok result → op.Hears lib db

/-! ## One write -/

section Writes

variable {lib : Library} {db db' : Db}

theorem graphJobsOf_append (jobs : List GraphJob) (job : GraphJob) (memoryId : String) :
    graphJobsOf (jobs ++ [job]) memoryId =
      graphJobsOf jobs memoryId ++ if job.sourceId = memoryId then [job] else [] := by
  by_cases same : job.sourceId = memoryId <;> simp [graphJobsOf, same]

theorem Heard.of_jobs {jobs jobs' : List GraphJob} {memoryId : String} {row : CardRow}
    (heard : Heard lib jobs memoryId row) (same : graphJobsOf jobs' memoryId = graphJobsOf jobs memoryId) :
    Heard lib jobs' memoryId row := by
  obtain ⟨job, newest, carries⟩ := heard
  exact ⟨job, same ▸ newest, carries⟩

/-- Only some columns of the row are described. -/
theorem Carries.congr {episode : Doc} {row row' : CardRow} (carries : Carries lib episode row)
    (same : row' = { row with
      memoryId := row'.memoryId
      project := row'.project
      cardType := row'.cardType
      authorizationStatus := row'.authorizationStatus
      confidence := row'.confidence
      contentHash := row'.contentHash
      sourceRef := row'.sourceRef
      stewardEnvelope := row'.stewardEnvelope }) : Carries lib episode row' := by
  rw [same]
  exact ⟨carries.title, carries.summary, carries.typedPayload, carries.lifecycleState, carries.currentness,
    carries.validFrom, carries.validTo⟩

/-- The rows a table admits, each under its own id. -/
def Admitted (db : Db) : Prop :=
  ∀ id row, db.cards.get? id = some row → row.memoryId = id ∧ row.Fits

theorem Admitted.write (admitted : Admitted db) {row : CardRow} (fits : row.Fits)
    (cards : db'.cards = db.cards.insert row.memoryId row) : Admitted db' := by
  intro id row' found
  rw [cards, Dict.get?_insert] at found
  split at found
  · next same =>
      cases found
      exact ⟨same.symm, fits⟩
  · exact admitted id row' found

/-- What the outbox makes of a card's id is the id of no other row, and where the card's id is not
    stored whole it is the id of no row at all. -/
theorem varchar_ne_id {id memoryId : String} (short : id.length ≤ 64)
    (other : id ≠ varchar 64 memoryId ∨ varchar 64 memoryId ≠ memoryId) : id ≠ varchar 128 memoryId := by
  rintro rfl
  by_cases fits : memoryId.length ≤ 64
  · rw [varchar_eq_self fits, varchar_eq_self (by omega : memoryId.length ≤ 128)] at other
    simp at other
  · by_cases wide : memoryId.length ≤ 128
    · rw [varchar_eq_self wide] at short
      exact fits short
    · have full := varchar_length (not_le.mp wide)
      omega

/-- What queueing an episode leaves: the jobs of the other cards, and for its own card the episode
    as the newest job, if the revision is new. -/
structure Queued (sourceId revision : String) (episode : Doc) (jobs jobs' : List GraphJob) : Prop where
  others : ∀ other ≠ varchar 128 sourceId, graphJobsOf jobs' other = graphJobsOf jobs other
  newest : NewRevision jobs sourceId revision →
    ∃ job, (graphJobsOf jobs' (varchar 128 sourceId)).getLast? = some job ∧ job.episodePayload = episode
  known : ¬ NewRevision jobs sourceId revision → jobs' = jobs

theorem enqueueGraphOutbox_eq_ok {sourceId revision contentHash : String} {episode : Doc}
    {jobs jobs' : List GraphJob}
    (done : enqueueGraphOutbox sourceId revision contentHash episode jobs = .ok jobs') :
    Queued sourceId revision episode jobs jobs' := by
  unfold enqueueGraphOutbox insertGraphJob at done
  obtain ⟨_, _, done⟩ := bind_eq_ok.mp done
  split at done
  · rename_i known
    cases done
    obtain ⟨job, mem, same, revised⟩ := known
    exact ⟨fun _ _ => rfl, fun fresh => (fresh job mem same revised).elim, fun _ => rfl⟩
  · rename_i fresh
    simp only [bind_eq_ok, pure_eq_ok, Except.ok.injEq] at done
    obtain ⟨_, -, _, -, rfl⟩ := done
    refine ⟨fun other differ => ?_, fun _ => ?_, fun known => ?_⟩
    · rw [graphJobsOf_append, if_neg (Ne.symm differ), List.append_nil]
    · exact ⟨_, by rw [graphJobsOf_append, if_pos rfl, List.getLast?_concat], rfl⟩
    · exact (known fun job mem same revised => fresh ⟨job, mem, same, revised⟩).elim

/-- The queue describes the row of the card it is for, and the rows of the others as before. -/
theorem Queued.heard {sourceId revision : String} {episode : Doc} {jobs jobs' : List GraphJob} {row : CardRow}
    (queued : Queued sourceId revision episode jobs jobs') (short : sourceId.length ≤ 64)
    (carries : NewRevision jobs sourceId revision → Carries lib episode row)
    (known : NewRevision jobs sourceId revision ∨ Heard lib jobs sourceId row) :
    Heard lib jobs' sourceId row := by
  by_cases fresh : NewRevision jobs sourceId revision
  · obtain ⟨job, newest, same⟩ := queued.newest fresh
    rw [varchar_eq_self (by omega : sourceId.length ≤ 128)] at newest
    exact ⟨job, newest, same ▸ carries fresh⟩
  · rw [queued.known fresh]
    exact known.resolve_left fresh

theorem cardEpisode_carries {card : MemoryCard} {episode : Doc} (done : cardEpisode lib card = .ok episode) :
    Carries lib episode card.toCardRow := by
  unfold cardEpisode at done
  split at done
  · cases done
  · rw [Except.ok.injEq] at done
    subst done
    refine ⟨?_, ?_, ?_, ?_, ?_, ?_, ?_⟩
    · simp [Doc.ofFields, Doc.get?_set]
    · simp [Doc.ofFields, Doc.get?_set]
    · simp [Doc.ofFields, Doc.get?_set]
    · simp [Doc.ofFields, Doc.get?_set]
    · simp [Doc.ofFields, Doc.get?_set]
    · rw [Doc.text_of_str (s := lib.isoformat card.validFrom) (by simp [Doc.ofFields, Doc.get?_set])]
      exact lib.timestamptz_isoformat _
    · rw [Doc.text_of_str (s := (card.validTo.map lib.isoformat).getD "")
        (by simp [Doc.ofFields, Doc.get?_set])]
      cases card.validTo with
      | none => rfl
      | some t => exact lib.timestamptz_isoformat t

/-- What an accepted card queues, and that nothing else does. -/
theorem enqueueProjections_queued {localProfile : Bool} {cardId contentHash : String} {stored : Doc}
    (done : enqueueProjections lib localProfile cardId contentHash stored db = .ok db') :
    (IsAuthority stored ∧ ∃ episode, episodePayload cardId (revisionOf contentHash stored)
        (textOr stored .currentness "unknown") stored = .ok episode ∧
      Queued cardId (revisionOf contentHash stored) episode db.graphOutbox db'.graphOutbox) ∨
    (¬ IsAuthority stored ∧ db'.graphOutbox = db.graphOutbox) := by
  unfold enqueueProjections at done
  split at done
  · rename_i authority
    simp only [bind_eq_ok, pure_eq_ok, Except.ok.injEq, index_eq_ok] at done
    obtain ⟨⟨embeddings, tables⟩, _, lifecycle, found, episode, built, jobs, queued, rfl⟩ := done
    have revision : revisionOf contentHash stored =
        contentHash ++ ":" ++ lifecycle.text ++ ":" ++ textOr stored .currentness "unknown" := by
      simp [revisionOf, value, found]
    rw [← revision] at built queued
    exact .inl ⟨authority, episode, built, enqueueGraphOutbox_eq_ok queued⟩
  · rename_i other
    cases done
    exact .inr ⟨other, rfl⟩

theorem text_currentness {stored : Doc} {currentness : String}
    (stored_ : (stored.value? .currentness).getD (.str "unknown") = .str currentness) :
    textOr stored .currentness "unknown" = currentness := by
  unfold textOr Doc.text
  cases found : stored.value? .currentness with
  | none =>
      rw [found] at stored_
      simpa using stored_
  | some v =>
      rw [found, Option.getD_some] at stored_
      subst stored_
      have nonblank : currentness ≠ "" := by
        intro blank
        subst blank
        simp [Doc.value?, Option.filter_eq_some_iff, Json.truthy] at found
      simp [Json.text, nonblank]

theorem text_of_value {d : Doc} {f : Field} {text : String} (stored : value d f = .str text) : d.text f = text := by
  unfold value at stored
  cases found : d.get? f with
  | none => simp [found] at stored
  | some v =>
      rw [found, Option.getD_some] at stored
      exact Doc.text_of_str (stored ▸ found)

theorem text_of_null {d : Doc} {f : Field} (missing : value d f = .null) : d.text f = "" := by
  unfold value at missing
  cases found : d.get? f with
  | none => simp [Doc.text, Doc.value?, found]
  | some v =>
      rw [found, Option.getD_some] at missing
      rw [Doc.text, Doc.value?, found, missing]
      rfl

/-- The text of an end of a window names the instant its column gets. -/
theorem sqlTime_names {stored : Doc} {f : Field} {end_ : Option Int}
    (done : sqlTime lib (value stored f) = .ok end_) : NamesEnd lib (stored.text f) end_ := by
  unfold sqlTime at done
  split at done
  · rename_i missing
    cases done
    exact text_of_null missing
  · rename_i text given
    rw [text_of_value given]
    cases parsed : lib.timestamptz text with
    | none => simp [parsed] at done
    | some t =>
        simp only [parsed, Except.ok.injEq] at done
        rw [← done]
        exact parsed
  · cases done

/-- An envelope that names the beginning of the window is queued with the row's state. -/
theorem episodePayload_carriesState {cardId revision : String} {row row' : CardRow} {stored episode : Doc}
    (updated : Updated lib row stored row') (begins : ∃ text, value stored .validFrom = .str text)
    (done : episodePayload cardId revision (textOr stored .currentness "unknown") stored = .ok episode) :
    CarriesState lib episode row' := by
  unfold episodePayload at done
  simp only [text_currentness updated.currentness] at done
  split at done
  · cases done
  · simp only [bind_eq_ok, index_eq_ok, pure_eq_ok, Except.ok.injEq] at done
    obtain ⟨hash, _, project, _, cardType, _, title, _, summary, _, lifecycle, lived, rfl⟩ := done
    rw [updated.lifecycle, Option.some.injEq] at lived
    refine ⟨?_, ?_, ?_, ?_⟩
    · simp [Doc.ofFields, Doc.get?_set, ← lived]
    · simp [Doc.ofFields, Doc.get?_set]
    · rw [Doc.text_of_str (s := stored.text .validFrom) (by simp [Doc.ofFields, Doc.get?_set])]
      obtain ⟨start, column, same⟩ := updated.validFrom
      obtain ⟨text, given⟩ := begins
      have names := sqlTime_names column
      rw [given] at column
      cases start with
      | none =>
          unfold sqlTime at column
          cases parsed : lib.timestamptz text <;> simp [parsed] at column
      | some t =>
          rw [same]
          exact names
    · rw [Doc.text_of_str (s := stored.text .validTo) (by simp [Doc.ofFields, Doc.get?_set])]
      exact sqlTime_names updated.validTo

theorem episodePayload_carries {cardId revision : String} {row row' : CardRow} {stored episode : Doc}
    (updated : Updated lib row stored row') (agrees : Agrees stored row)
    (done : episodePayload cardId revision (textOr stored .currentness "unknown") stored = .ok episode) :
    Carries lib episode row' := by
  have state := episodePayload_carriesState updated agrees.begins done
  unfold episodePayload at done
  simp only [agrees.typedPayload] at done
  split at done
  · cases done
  · simp only [bind_eq_ok, index_eq_ok, pure_eq_ok, Except.ok.injEq] at done
    obtain ⟨hash, _, project, _, cardType, _, title, titled, summary, summed, lifecycle, lived, rfl⟩ := done
    rw [agrees.title, Option.some.injEq] at titled
    rw [agrees.summary, Option.some.injEq] at summed
    have sameTitle : row'.title = row.title := by rw [updated.frame]
    have sameSummary : row'.summary = row.summary := by rw [updated.frame]
    have samePayload : row'.typedPayload = row.typedPayload := by rw [updated.frame]
    refine ⟨?_, ?_, ?_, state.lifecycleState, state.currentness, state.validFrom, state.validTo⟩
    · simp [Doc.ofFields, Doc.get?_set, ← titled, sameTitle]
    · simp [Doc.ofFields, Doc.get?_set, ← summed, sameSummary]
    · simp [Doc.ofFields, Doc.get?_set, samePayload]

/-- Every listed card has a row, and its newest job describes it. -/
def AllHeard (lib : Library) (db : Db) (ids : List String) : Prop :=
  ∀ id ∈ ids, ∃ row, db.cards.get? id = some row ∧ Heard lib db.graphOutbox id row

/-- One row is written: the others are described as before. -/
theorem AllHeard.write {ids : List String} (all : AllHeard lib db ids) (admitted : Admitted db)
    {written : String} {row' : CardRow} (cards : db'.cards = db.cards.insert written row')
    (others : ∀ other ≠ written, other.length ≤ 64 →
      graphJobsOf db'.graphOutbox other = graphJobsOf db.graphOutbox other)
    (heard : written ∈ ids → Heard lib db'.graphOutbox written row') : AllHeard lib db' ids := by
  intro id mem
  by_cases same : id = written
  · subst same
    exact ⟨row', by rw [cards, Dict.get?_insert, if_pos rfl], heard mem⟩
  · obtain ⟨row, found, described⟩ := all id mem
    obtain ⟨rfl, fits⟩ := admitted id row found
    exact ⟨row, by rw [cards, Dict.get?_insert, if_neg same, found],
      described.of_jobs (others _ same fits.1)⟩

/-- The accepted cards a write adds. -/
def acceptedBy (stored : Doc) : List String := if IsAuthority stored then [rowId stored] else []

theorem rowId_authorize (changed : Doc) : rowId (authorize changed) = rowId changed := by
  simp [rowId, value, authorize, Doc.get?_set]

theorem AllHeard.writeChanged {ids : List String} (all : AllHeard lib db ids) (admitted : Admitted db)
    {localProfile : Bool} {locked : List String} {changed stored : Doc} (heard : WriteHeard lib changed db)
    (done : writeChanged lib localProfile locked changed db = .ok (stored, db')) :
    AllHeard lib db' (ids ++ acceptedBy stored) := by
  unfold Steward.writeChanged at done
  obtain ⟨id, memoryId, done⟩ := bind_eq_ok.mp done
  rw [index_eq_ok] at memoryId
  have named : id.text = rowId changed := by simp [rowId, value, memoryId]
  by_cases mem : id.text ∈ locked
  · simp only [mem, if_true] at done
    cases found : db.cards.get? id.text with
    | none => simp [found] at done
    | some row =>
        simp only [found, bind_eq_ok, pure_eq_ok, Except.ok.injEq, Prod.mk.injEq] at done
        obtain ⟨_, _, _, _, row', updated, last, queued, rfl, rfl⟩ := done
        have tables := (enqueueProjections_tables queued).1
        rw [named] at found queued tables
        have described := heard row row' found updated
        obtain ⟨key, fits⟩ := admitted _ row found
        have short : (rowId changed).length ≤ 64 := key ▸ fits.1
        have whole : varchar 128 (rowId changed) = rowId changed := varchar_eq_self (by omega)
        rcases enqueueProjections_queued queued with ⟨authority, episode, built, queue⟩ | ⟨other, same⟩
        · have now : Heard lib last.graphOutbox (rowId changed) row' := by
            by_cases fresh : NewRevision db.graphOutbox (rowId changed)
                (revisionOf row.contentHash (authorize changed))
            · rw [if_pos ⟨authority, fresh⟩] at described
              exact queue.heard short
                (fun _ => episodePayload_carries (updateRow_eq_ok updated) described built) (.inl fresh)
            · rw [if_neg fun both => fresh both.2] at described
              rw [queue.known fresh]
              exact described.resolve_right fun none => none.1 authority
          have written := all.write admitted tables
            (fun other differ _ => queue.others other (whole.symm ▸ differ)) fun _ => now
          intro id mem
          rw [acceptedBy, if_pos authority, rowId_authorize] at mem
          rcases List.mem_append.mp mem with before | here
          · exact written id before
          · rw [List.mem_singleton.mp here]
            exact ⟨row', by rw [tables, Dict.get?_insert, if_pos rfl], now⟩
        · rw [if_neg fun both => other both.1] at described
          rw [acceptedBy, if_neg other, List.append_nil]
          refine all.write admitted tables (fun _ _ _ => by rw [same]) fun mem => ?_
          rw [same]
          refine described.resolve_right fun none => ?_
          obtain ⟨_, _, job, newest, _⟩ := all _ mem
          simp [none.2] at newest
  · simp [mem] at done

end Writes

/-! ## Runs -/

section Runs

variable {lib : Library}

theorem Admitted.writeChanged {db db' : Db} (admitted : Admitted db) {localProfile : Bool}
    {locked : List String} {changed stored : Doc}
    (done : writeChanged lib localProfile locked changed db = .ok (stored, db')) : Admitted db' := by
  obtain ⟨id, row, row', -, -, found, -, updated, cards⟩ := (writeChanged_eq_ok done).row
  have key : row'.memoryId = id.text := by
    rw [updated.frame]
    exact (admitted _ row found).1
  exact admitted.write updated.fits (key.symm ▸ cards)

/-- The listed cards are described, and an audited decision accepted none but listed ones. -/
structure Sound (lib : Library) (projected : Projected) : Prop where
  admitted : Admitted projected.db
  heard : AllHeard lib projected.db projected.ids
  audited : ∀ decisionId row card, projected.db.cardDecisions.get? decisionId = some row →
    row.resultCard = some card → ∀ id ∈ accepted ⟨card, row.resultTarget⟩, id ∈ projected.ids

theorem accepted_eq (outcome : Outcome) :
    accepted outcome = acceptedBy outcome.card ++ (outcome.target.map acceptedBy).getD [] := by
  obtain ⟨card, target⟩ := outcome
  cases target with
  | none => by_cases first : IsAuthority card <;> simp [accepted, acceptedBy, first]
  | some second =>
      by_cases first : IsAuthority card <;> by_cases other : IsAuthority second <;>
        simp [accepted, acceptedBy, first, other]

theorem replayed_eq_ok {d : Decision} {previous : CardDecision} {outcome : Outcome}
    (done : replayDecision d previous = .ok outcome) :
    ∃ card, previous.resultCard = some card ∧ outcome = ⟨card, previous.resultTarget⟩ := by
  unfold replayDecision at done
  obtain ⟨_, _, done⟩ := bind_eq_ok.mp done
  cases kept : previous.resultCard with
  | none => simp [kept] at done
  | some card =>
      simp only [kept, bind_eq_ok, pure_eq_ok, Except.ok.injEq] at done
      obtain ⟨_, _, same⟩ := done
      exact ⟨card, rfl, same.symm⟩

theorem Sound.upsert {projected : Projected} (sound : Sound lib projected) {card : MemoryCard}
    {embedding : Except PyError Unit} {db : Db} (done : upsertCard lib card embedding projected.db = .ok db)
    (heard : ProjectionOp.Hears lib projected.db (.upsert card embedding)) :
    Sound lib ⟨db, projected.ids ++ [card.stored.memoryId]⟩ := by
  simp only [upsertCard, upsertCardOn, bind_eq_ok, refuseIf_eq_ok, not_not, pure_eq_ok, Except.ok.injEq] at done
  obtain ⟨_, _, _, ⟨_, fits, _, _, rfl⟩, _, _, episode, built, jobs, queued, rfl⟩ := done
  have queue := enqueueGraphOutbox_eq_ok queued
  have now : Heard lib jobs card.stored.memoryId { card.stored with
      stewardEnvelope := (projected.db.cards.get? card.stored.memoryId).bind (·.stewardEnvelope) } := by
    obtain ⟨job, newest, carries⟩ : Heard lib jobs card.stored.memoryId card.toCardRow := by
      by_cases whole : card.stored.memoryId = card.memoryId
      · have known : NewRevision projected.db.graphOutbox card.memoryId card.contentHash ∨
            Heard lib projected.db.graphOutbox card.memoryId card.toCardRow :=
          heard.imp And.left fun described => whole ▸ described
        rw [whole]
        exact queue.heard (whole ▸ fits.1) (fun _ => cardEpisode_carries built) known
      · refine (heard.resolve_left fun both => whole both.2).of_jobs (queue.others _ ?_)
        exact varchar_ne_id fits.1 (.inr whole)
    exact ⟨job, newest, carries.congr rfl⟩
  have written : AllHeard lib { projected.db with
      cards := projected.db.cards.insert card.stored.memoryId { card.stored with
        stewardEnvelope := (projected.db.cards.get? card.stored.memoryId).bind (·.stewardEnvelope) }
      graphOutbox := jobs } projected.ids :=
    sound.heard.write sound.admitted rfl
      (fun other differ short => queue.others other (varchar_ne_id short (.inl differ))) fun _ => now
  let row : CardRow := { card.stored with
    stewardEnvelope := (projected.db.cards.get? card.stored.memoryId).bind (·.stewardEnvelope) }
  have fits : row.Fits := fits
  refine ⟨sound.admitted.write fits rfl,
    fun id mem => ?_, fun decisionId row stored found result id mem =>
    List.mem_append_left _ (sound.audited decisionId row stored found result id mem)⟩
  rcases List.mem_append.mp mem with before | here
  · exact written id before
  · rw [List.mem_singleton.mp here]
    exact ⟨_, by rw [Dict.get?_insert, if_pos rfl], now⟩

theorem Sound.propose {projected : Projected} (sound : Sound lib projected) {envelope answer : Doc} {now : Int}
    {db : Db} (done : putStewardProposal lib now envelope projected.db = .ok (answer, db)) :
    Sound lib ⟨db, projected.ids ++ []⟩ := by
  simp only [putStewardProposal, bind_eq_ok] at done
  obtain ⟨_, _, _, _, row, _, done⟩ := done
  rw [List.append_nil]
  cases taken : projected.db.cards.get? row.memoryId with
  | some stored =>
      simp only [taken, bind_eq_ok, pure_eq_ok, Except.ok.injEq, Prod.mk.injEq] at done
      obtain ⟨_, _, _, rfl⟩ := done
      exact sound
  | none =>
      simp only [taken, insertCard, bind_eq_ok, refuseIf_eq_ok, not_not, Bool.not_eq_true,
        Option.isSome_eq_false_iff, Option.isNone_iff_eq_none, pure_eq_ok, Except.ok.injEq, Prod.mk.injEq] at done
      obtain ⟨_, ⟨_, _, _, fits, _, fresh, rfl⟩, _, rfl⟩ := done
      refine ⟨sound.admitted.write fits rfl, ?_, sound.audited⟩
      refine sound.heard.write sound.admitted rfl (fun _ _ _ => rfl) fun mem => ?_
      obtain ⟨stored, found, _⟩ := sound.heard _ mem
      rw [fresh] at found
      cases found

theorem Sound.decide {projected : Projected} (sound : Sound lib projected) {d : Decision} {transform : Transform}
    {committedAt : Int} {outcome : Outcome} {db : Db}
    (done : stewardDecision lib lib.localProfile d transform committedAt projected.db = .ok (outcome, db))
    (heard : ProjectionOp.Hears lib projected.db (.decide d transform committedAt)) :
    Sound lib ⟨db, projected.ids ++ accepted outcome⟩ := by
  unfold stewardDecision at done
  obtain ⟨_, _, done⟩ := bind_eq_ok.mp done
  cases audited : projected.db.cardDecisions.get? d.decisionId with
  | some previous =>
      -- a replay writes nothing, and what it accepted was listed when it was decided
      simp only [audited, bind_eq_ok, pure_eq_ok, Except.ok.injEq, Prod.mk.injEq] at done
      obtain ⟨_, replayed, rfl, rfl⟩ := done
      obtain ⟨card, kept, rfl⟩ := replayed_eq_ok replayed
      have listed := sound.audited d.decisionId previous card audited kept
      refine ⟨sound.admitted, fun id mem => ?_, fun decisionId row stored found result id mem =>
        List.mem_append_left _ (sound.audited decisionId row stored found result id mem)⟩
      rcases List.mem_append.mp mem with before | again
      · exact sound.heard id before
      · exact sound.heard id (listed id again)
  | none =>
      simp only [audited, bind_eq_ok] at done
      obtain ⟨⟨new, newTarget⟩, decided, committed⟩ := done
      obtain ⟨first, then_⟩ := heard audited new newTarget decided
      simp only [commitDecision, bind_eq_ok, pure_eq_ok, Except.ok.injEq, Prod.mk.injEq] at committed
      obtain ⟨⟨stored, mid⟩, written, ⟨storedTarget, last⟩, second, rfl, rfl⟩ := committed
      have afterFirst := sound.heard.writeChanged sound.admitted first written
      have admitted := sound.admitted.writeChanged written
      have audits : last.cardDecisions = projected.db.cardDecisions ∧ Admitted last ∧
          AllHeard lib last (projected.ids ++ accepted ⟨stored, storedTarget⟩) := by
        rw [accepted_eq]
        cases newTarget with
        | none =>
            simp only [writeTarget, Except.ok.injEq, Prod.mk.injEq] at second
            obtain ⟨rfl, rfl⟩ := second
            exact ⟨(writeChanged_eq_ok written).cardDecisions, admitted, by simpa using afterFirst⟩
        | some changed =>
            simp only [writeTarget, bind_eq_ok, pure_eq_ok, Except.ok.injEq, Prod.mk.injEq] at second
            obtain ⟨⟨kept, _⟩, rewritten, rfl, rfl⟩ := second
            have afterSecond :=
              afterFirst.writeChanged admitted (then_ stored mid written changed rfl) rewritten
            refine ⟨?_, admitted.writeChanged rewritten, by simpa using afterSecond⟩
            exact (writeChanged_eq_ok rewritten).cardDecisions.trans (writeChanged_eq_ok written).cardDecisions
      refine ⟨audits.2.1, audits.2.2, fun decisionId row card found result id mem => ?_⟩
      rw [Dict.get?_insert] at found
      split at found
      · cases found
        cases result
        exact List.mem_append_right _ mem
      · rw [audits.1] at found
        exact List.mem_append_left _ (sound.audited decisionId row card found result id mem)

theorem Sound.step {projected : Projected} (sound : Sound lib projected) {op : ProjectionOp}
    (heard : op.Heard lib projected.db) : Sound lib (projectionStep lib projected op) := by
  unfold projectionStep
  cases committed : op.transaction lib projected.db with
  | error e => exact sound
  | ok result =>
      cases op with
      | upsert card embedding =>
          obtain ⟨_, done, rfl⟩ := except_map_eq_ok committed
          exact sound.upsert done (heard _ committed)
      | propose envelope now =>
          obtain ⟨_, done, rfl⟩ := except_map_eq_ok committed
          exact sound.propose done
      | decide d transform committedAt =>
          obtain ⟨_, done, rfl⟩ := except_map_eq_ok committed
          exact sound.decide done (heard _ committed)

/-- After all jobs in the order of their creation, the graph has the newest episode of each card. -/
theorem replayGraph_get? (jobs : List GraphJob) (memoryId : String) : (replayGraph jobs).get? memoryId =
    ((graphJobsOf jobs memoryId).getLast?).map GraphJob.episodePayload := by
  induction jobs using List.reverseRecOn with
  | nil => rfl
  | append_singleton jobs job ih =>
      have step : replayGraph (jobs ++ [job]) = (replayGraph jobs).set job.sourceId job.episodePayload := by
        simp [replayGraph]
      rw [step, Table.get?_set, graphJobsOf_append, ih]
      by_cases same : memoryId = job.sourceId
      · simp [same]
      · simp [same, Ne.symm same]

/-- In every run whose writes the graph hears of, the newest job of each card that was upserted or
    accepted describes its row, and so does the graph once all jobs are processed in order. -/
theorem graph_describes_current_rows (lib : Library) (ops : List ProjectionOp)
    (heard : Along (projectionStep lib) (fun projected op => op.Heard lib projected.db) ⟨.empty, []⟩ ops)
    (id : String) (listed : id ∈ (run (projectionStep lib) ⟨.empty, []⟩ ops).ids) :
    ∃ row job, (run (projectionStep lib) ⟨.empty, []⟩ ops).db.cards.get? id = some row ∧
      (graphJobsOf (run (projectionStep lib) ⟨.empty, []⟩ ops).db.graphOutbox id).getLast? = some job ∧
      Carries lib job.episodePayload row ∧
      (replayGraph (run (projectionStep lib) ⟨.empty, []⟩ ops).db.graphOutbox).get? id =
        some job.episodePayload := by
  have start : Sound lib ⟨.empty, []⟩ := by
    constructor
    · intro id row found
      cases found
    · intro id mem
      cases mem
    · intro decisionId row card found
      cases found
  have sound : Sound lib (run (projectionStep lib) ⟨.empty, []⟩ ops) :=
    Along.invariant (Sound lib) (fun _ _ meets kept => kept.step meets) heard start
  obtain ⟨row, found, job, newest, carries⟩ := sound.heard id listed
  exact ⟨row, job, found, newest, carries, by rw [replayGraph_get?, newest]; rfl⟩

/-! ### Two upserts of one card -/

/-- A card with this content hash and currentness. -/
def upsertOf (contentHash currentness : String) : ProjectionOp :=
  .upsert {
    memoryId := "mem_1"
    project := "neurons"
    cardType := "decision"
    title := "store"
    summary := "keep the store"
    typedPayload := .obj []
    lifecycleState := "candidate"
    authorizationStatus := "disabled"
    currentness
    confidence := .dec 5 1
    validFrom := 1
    validTo := none
    contentHash
    sourceRef := []
    stewardEnvelope := none
    createdAt := 1 } (.ok ())

/-- A new content hash comes with every change. -/
theorem graph_describes_current_rows_changed :
    ∃ row job, (run (projectionStep referenceLibrary) ⟨.empty, []⟩
        [upsertOf "sha256:1" "current", upsertOf "sha256:2" "stale"]).db.cards.get? "mem_1" = some row ∧
      (graphJobsOf (run (projectionStep referenceLibrary) ⟨.empty, []⟩
        [upsertOf "sha256:1" "current", upsertOf "sha256:2" "stale"]).db.graphOutbox "mem_1").getLast? = some job ∧
      Carries referenceLibrary job.episodePayload row := by
  have heard : Along (projectionStep referenceLibrary)
      (fun projected op => op.Heard referenceLibrary projected.db) ⟨.empty, []⟩
      [upsertOf "sha256:1" "current", upsertOf "sha256:2" "stale"] :=
    ⟨fun _ _ => .inl ⟨by decide +kernel, by decide +kernel⟩,
      fun _ _ => .inl ⟨by decide +kernel, by decide +kernel⟩, trivial⟩
  obtain ⟨row, job, found, newest, carries, _⟩ :=
    graph_describes_current_rows referenceLibrary _ heard "mem_1" (by decide +kernel)
  exact ⟨row, job, found, newest, carries⟩

/-- The same content hash, upserted again as stale: the row is stale, and the newest job says that
    the card is current. -/
theorem demotion_unheard :
    "mem_1" ∈ (run (projectionStep referenceLibrary) ⟨.empty, []⟩
        [upsertOf "sha256:1" "current", upsertOf "sha256:1" "stale"]).ids ∧
      ¬ ∃ row job, (run (projectionStep referenceLibrary) ⟨.empty, []⟩
          [upsertOf "sha256:1" "current", upsertOf "sha256:1" "stale"]).db.cards.get? "mem_1" = some row ∧
        (graphJobsOf (run (projectionStep referenceLibrary) ⟨.empty, []⟩
          [upsertOf "sha256:1" "current", upsertOf "sha256:1" "stale"]).db.graphOutbox "mem_1").getLast? = some job ∧
        Carries referenceLibrary job.episodePayload row := by
  have stored : ((run (projectionStep referenceLibrary) ⟨.empty, []⟩
      [upsertOf "sha256:1" "current", upsertOf "sha256:1" "stale"]).db.cards.get? "mem_1").map
        (·.currentness) = some "stale" := by decide +kernel
  have queued : ((graphJobsOf (run (projectionStep referenceLibrary) ⟨.empty, []⟩
      [upsertOf "sha256:1" "current", upsertOf "sha256:1" "stale"]).db.graphOutbox "mem_1").getLast?).map
        (·.episodePayload.get? .currentness) = some (some (.str "current")) := by decide +kernel
  refine ⟨by decide +kernel, ?_⟩
  rintro ⟨row, job, found, newest, carries⟩
  rw [found, Option.map_some, Option.some.injEq] at stored
  rw [newest, Option.map_some, Option.some.injEq, carries.currentness, stored] at queued
  exact absurd queued (by decide)

end Runs

end Neurons.Steward.GraphProjection
