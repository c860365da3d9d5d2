import Neurons.Steward.GraphProjection

/-! # The health of the graph projection

`graph_projection_health` asks whether a card that counts as authority has no completed graph
job. It looks for the job by the card's content hash, which a decision does not change, so a job
from before the decision answers as well as the one the decision queued.
-/

namespace Neurons.Steward.GraphProjection

open Neurons.Lib
open Neurons.Source

/-! ## Processing -/

/-- What a worker, or the reset of dead letters, does to one job. -/
inductive JobMove where
  | claim
  | complete
  | fail (concluded : Bool)
  | reset

/-- The status after a move, unless the job does not admit it. -/
def JobMove.next (move : JobMove) (status : String) : Option String :=
  match move with
  | .claim => if status ∈ ["queued", "failed", "processing"] then some "processing" else none
  | .complete => if status = "processing" then some "completed" else none
  | .fail concluded => if status = "processing" then some (if concluded then "dead_letter" else "failed") else none
  | .reset => if status = "dead_letter" then some "failed" else none

def GraphJob.moved (move : JobMove) (job : GraphJob) : GraphJob :=
  { job with status := (move.next job.status).getD job.status }

/-- The job of a revision is moved; leases decide which one, and any choice is possible here. -/
def processJob (sourceId sourceRevision : String) (move : JobMove) (jobs : List GraphJob) : List GraphJob :=
  jobs.map fun job =>
    if job.sourceId = sourceId ∧ job.sourceRevision = sourceRevision then GraphJob.moved move job else job

inductive HealthOp where
  | write (op : ProjectionOp)
  | process (sourceId sourceRevision : String) (move : JobMove)

def healthStep (lib : Library) (db : Db) (op : HealthOp) : Db :=
  match op with
  | .write op =>
      match op.transaction lib db with
      | .ok (_, db) => db
      | .error _ => db
  | .process sourceId sourceRevision move =>
      { db with graphOutbox := processJob sourceId sourceRevision move db.graphOutbox }

/-! ## The query -/

structure Health where
  unprojected : Bool
  projectionLagMs : Option ℕ
  deriving DecidableEq, Repr

/-- The jobs the query takes for a card's: those with its content hash. -/
def jobsForHash (row : CardRow) (jobs : List GraphJob) : List GraphJob :=
  jobs.filter fun job => decide (job.sourceId = row.memoryId ∧ job.contentHash = row.contentHash)

def healthSelects (lib : Library) (project : String) (asOf : Option Int) (stewardOnly : Bool) (now : Int)
    (row : CardRow) : Except PyError Bool :=
  if stewardOnly → stewardOnlyFilter row then authorityFilter lib project asOf now row else .ok false

/-- `graph_projection_health`, with the clock read once for the filter and once for the lag;
    `createdAt` is the column of that name. -/
def graphProjectionHealth (lib : Library) (project : String) (asOf : Option Int) (stewardOnly : Bool)
    (now readAt : Int) (createdAt : GraphJob → Int) (db : Db) : Except PyError Health := do
  let rows ← (db.cards.entries.map Prod.snd).filterM (healthSelects lib project asOf stewardOnly now)
  let missing := rows.filter fun row =>
    !(jobsForHash row db.graphOutbox).any (fun job => decide (job.status = "completed"))
  let queuedAt := (missing.flatMap fun row => (jobsForHash row db.graphOutbox).map createdAt).min?
  return {
    unprojected := !missing.isEmpty
    projectionLagMs := queuedAt.map fun t => ((readAt - t) / 1000).toNat }

/-! ## Soundness -/

/-- A completed job of the card carries the row. -/
def InGraph (lib : Library) (jobs : List GraphJob) (memoryId : String) (row : CardRow) : Prop :=
  ∃ job ∈ jobs, job.sourceId = memoryId ∧ job.status = "completed" ∧ CarriesState lib job.episodePayload row

instance (lib : Library) (text : String) : (end_ : Option Int) → Decidable (NamesEnd lib text end_)
  | none => inferInstanceAs (Decidable (text = ""))
  | some t => inferInstanceAs (Decidable (lib.timestamptz text = some t))

instance (lib : Library) (episode : Doc) (row : CardRow) : Decidable (CarriesState lib episode row) :=
  decidable_of_iff
    (episode.get? .lifecycleState = some (.str row.lifecycleState) ∧
      episode.get? .currentness = some (.str row.currentness) ∧
      lib.timestamptz (episode.text .validFrom) = some row.validFrom ∧
      NamesEnd lib (episode.text .validTo) row.validTo)
    ⟨fun all => ⟨all.1, all.2.1, all.2.2.1, all.2.2.2⟩, fun carries => ⟨carries.1, carries.2, carries.3, carries.4⟩⟩

instance (lib : Library) (jobs : List GraphJob) (memoryId : String) (row : CardRow) :
    Decidable (InGraph lib jobs memoryId row) := by
  unfold InGraph
  infer_instance

/-- Where the query reports nothing missing, each card it selects has its present state in the graph. -/
def HealthSound (lib : Library) (db : Db) : Prop :=
  ∀ project asOf stewardOnly now readAt createdAt health,
    graphProjectionHealth lib project asOf stewardOnly now readAt createdAt db = .ok health →
    health.unprojected = false →
    ∀ id row, db.cards.get? id = some row → healthSelects lib project asOf stewardOnly now row = .ok true →
      InGraph lib db.graphOutbox id row

/-- The row can be authority at some instant. -/
def Selectable (row : CardRow) : Prop :=
  row.authorizationStatus = "active" ∧ (row.currentness = "current" ∨ row.currentness = "superseded") ∧
    row.lifecycleState ∈ acceptedLifecycleStates

instance (row : CardRow) : Decidable (Selectable row) := by
  unfold Selectable
  infer_instance

/-- No job of the card under the row's content hash tells anything else than the row, unless
    the graph has been told of the row already. -/
def Told (lib : Library) (jobs : List GraphJob) (memoryId : String) (row : CardRow) : Prop :=
  InGraph lib jobs memoryId row ∨
    ∀ job ∈ jobs, job.sourceId = memoryId → job.contentHash = row.contentHash →
      CarriesState lib job.episodePayload row

/-- A decision that leaves a card authority contradicts no job of it, and its envelope names the
    beginning of the window. -/
def WriteTold (lib : Library) (changed : Doc) (db : Db) : Prop :=
  ∀ row row', db.cards.get? (rowId changed) = some row → updateRow lib row (authorize changed) = .ok row' →
    Selectable row' →
      Told lib db.graphOutbox (rowId changed) row' ∧
        (IsAuthority (authorize changed) → ∃ text, value (authorize changed) .validFrom = .str text)

/-- What a transaction writes contradicts no job that is found for it. -/
def ProjectionOp.Tells (lib : Library) (db : Db) : ProjectionOp → Prop
  | .upsert card _ => Selectable card.toCardRow →
      GraphProjection.Told lib db.graphOutbox card.stored.memoryId card.stored
  | .propose _ _ => True
  | .decide d transform committedAt => db.cardDecisions.get? d.decisionId = none →
      ∀ new newTarget, decideCards lib d transform committedAt db = .ok (new, newTarget) →
        WriteTold lib new db ∧ ∀ stored mid,
          writeChanged lib lib.localProfile d.locked new db = .ok (stored, mid) →
            ∀ second ∈ newTarget, WriteTold lib second mid

/-- So it is for a transaction that commits. -/
def ProjectionOp.Told (lib : Library) (db : Db) (op : ProjectionOp) : Prop :=
  ∀ result, op.transaction lib db = .ok result → op.Tells lib db

/-- Work on the outbox is free; a write contradicts no job that is found by the same content hash. -/
def HealthOp.Told (lib : Library) (db : Db) : HealthOp → Prop
  | .write op => op.Told lib db
  | .process _ _ _ => True

/-- Every row that can be authority is what its jobs tell, as far as the query can tell them apart. -/
structure Truthful (lib : Library) (db : Db) : Prop where
  admitted : Admitted db
  told : ∀ id row, db.cards.get? id = some row → Selectable row → Told lib db.graphOutbox id row

section Soundness

variable {lib : Library} {db db' : Db}

theorem mem_filterM {ε α : Type} {p : α → Except ε Bool} {l kept : List α} (done : l.filterM p = .ok kept)
    {a : α} (mem : a ∈ l) (passes : p a = .ok true) : a ∈ kept := by
  induction l generalizing kept with
  | nil => cases mem
  | cons b l ih =>
      rw [filterM_cons, bind_eq_ok] at done
      obtain ⟨pass, passed, done⟩ := done
      rcases List.mem_cons.mp mem with rfl | later
      · rw [passes, Except.ok.injEq] at passed
        subst passed
        simp only [if_true, bind_eq_ok, pure_eq_ok, Except.ok.injEq] at done
        obtain ⟨rest, _, rfl⟩ := done
        simp
      · cases pass with
        | false => exact ih (by simpa using done) later
        | true =>
            simp only [if_true, bind_eq_ok, pure_eq_ok, Except.ok.injEq] at done
            obtain ⟨rest, tail, rfl⟩ := done
            exact List.mem_cons_of_mem b (ih tail later)

theorem selectable_of_selects {project : String} {asOf : Option Int} {stewardOnly : Bool} {now : Int} {row : CardRow}
    (selects : healthSelects lib project asOf stewardOnly now row = .ok true) : Selectable row := by
  unfold healthSelects at selects
  split at selects
  · simp only [authorityFilter] at selects
    split at selects
    case isTrue within =>
      obtain ⟨_, active, current, accepted, _⟩ := within
      exact ⟨active, current.imp id And.right, accepted⟩
    case isFalse => simp at selects
  · simp at selects

/-- Truthful jobs make the query sound. -/
theorem Truthful.sound (truthful : Truthful lib db) : HealthSound lib db := by
  intro project asOf stewardOnly now readAt createdAt health done projected id row found selects
  unfold graphProjectionHealth at done
  simp only [bind_eq_ok, pure_eq_ok, Except.ok.injEq] at done
  obtain ⟨rows, filtered, rfl⟩ := done
  have entry : row ∈ db.cards.entries.map Prod.snd :=
    List.mem_map.mpr ⟨(id, row), Dict.mem_entries_iff.mpr found, rfl⟩
  have selected := mem_filterM filtered entry selects
  have some_completed : (jobsForHash row db.graphOutbox).any (fun job => decide (job.status = "completed")) := by
    by_contra none_completed
    have missing : row ∈ rows.filter fun row =>
        !(jobsForHash row db.graphOutbox).any (fun job => decide (job.status = "completed")) := by
      simp only [List.mem_filter]
      exact ⟨selected, by simpa using none_completed⟩
    simp only [Bool.not_eq_false', List.isEmpty_iff] at projected
    rw [projected] at missing
    cases missing
  obtain ⟨job, listed, completed⟩ := List.any_eq_true.mp some_completed
  simp only [jobsForHash, List.mem_filter, decide_eq_true_eq] at listed completed
  obtain ⟨mem, isFor, hash⟩ := listed
  rw [(truthful.admitted id row found).1] at isFor
  rcases truthful.told id row found (selectable_of_selects selects) with already | all
  · exact already
  · exact ⟨job, mem, isFor, completed, all job mem isFor hash⟩

/-! ### Processing keeps what is told -/

theorem moved_completed {move : JobMove} {job : GraphJob} (completed : job.status = "completed") :
    (GraphJob.moved move job).status = "completed" := by
  cases move <;> simp [GraphJob.moved, JobMove.next, completed]

theorem mem_processJob {sourceId sourceRevision : String} {move : JobMove} {jobs : List GraphJob} {job' : GraphJob}
    (mem : job' ∈ processJob sourceId sourceRevision move jobs) :
    ∃ job ∈ jobs, job' = { job with status := job'.status } := by
  obtain ⟨job, listed, rfl⟩ := List.mem_map.mp mem
  refine ⟨job, listed, ?_⟩
  split <;> rfl

theorem InGraph.process {sourceId sourceRevision : String} {move : JobMove} {jobs : List GraphJob}
    {memoryId : String} {row : CardRow} (done : InGraph lib jobs memoryId row) :
    InGraph lib (processJob sourceId sourceRevision move jobs) memoryId row := by
  obtain ⟨job, mem, isFor, completed, carries⟩ := done
  refine ⟨_, List.mem_map_of_mem mem, ?_, ?_, ?_⟩
  · split <;> exact isFor
  · split
    · exact moved_completed completed
    · exact completed
  · split <;> exact carries

theorem Truthful.process (truthful : Truthful lib db) (sourceId sourceRevision : String) (move : JobMove) :
    Truthful lib { db with graphOutbox := processJob sourceId sourceRevision move db.graphOutbox } := by
  refine ⟨truthful.admitted, fun id row found selectable => ?_⟩
  rcases truthful.told id row found selectable with already | all
  · exact .inl already.process
  · refine .inr fun job' mem isFor hash => ?_
    obtain ⟨job, listed, same⟩ := mem_processJob mem
    rw [same] at isFor hash ⊢
    exact all job listed isFor hash

/-! ### One write -/

/-- Queueing an episode appends a job of its card, or nothing. -/
theorem enqueueGraphOutbox_appends {sourceId revision contentHash : String} {episode : Doc} {jobs jobs' : List GraphJob}
    (done : enqueueGraphOutbox sourceId revision contentHash episode jobs = .ok jobs') :
    ∃ added, jobs' = jobs ++ added ∧
      ∀ job ∈ added, job.sourceId = varchar 128 sourceId ∧ job.episodePayload = episode := by
  unfold enqueueGraphOutbox insertGraphJob at done
  obtain ⟨_, _, done⟩ := bind_eq_ok.mp done
  split at done
  · cases done
    exact ⟨[], by simp, by simp⟩
  · simp only [bind_eq_ok, pure_eq_ok, Except.ok.injEq] at done
    obtain ⟨_, -, _, -, rfl⟩ := done
    exact ⟨_, rfl, by simp⟩

/-- One row is written, and jobs that carry it are queued for it. -/
theorem Truthful.write (truthful : Truthful lib db) (row' : CardRow) (added : List GraphJob)
    (fits : row'.Fits) (cards : db'.cards = db.cards.insert row'.memoryId row')
    (jobs : db'.graphOutbox = db.graphOutbox ++ added)
    (isFor : ∀ job ∈ added, ∀ other, other.length ≤ 64 → job.sourceId = other → other = row'.memoryId)
    (carries : Selectable row' → Told lib db.graphOutbox row'.memoryId row' ∧
      ∀ job ∈ added, CarriesState lib job.episodePayload row') : Truthful lib db' := by
  refine ⟨truthful.admitted.write fits cards, ?_⟩
  · intro id row found selectable
    rw [jobs]
    rw [cards, Dict.get?_insert] at found
    split at found
    case isTrue same =>
      cases found
      subst same
      obtain ⟨told, fresh⟩ := carries selectable
      rcases told with ⟨job, mem, rest⟩ | all
      · exact .inl ⟨job, List.mem_append_left _ mem, rest⟩
      · refine .inr fun job mem isFor' hash => ?_
        rcases List.mem_append.mp mem with old | new
        · exact all job old isFor' hash
        · exact fresh job new
    case isFalse other =>
      rcases truthful.told id row found selectable with ⟨job, mem, rest⟩ | all
      · exact .inl ⟨job, List.mem_append_left _ mem, rest⟩
      · refine .inr fun job mem isFor' hash => ?_
        rcases List.mem_append.mp mem with old | new
        · exact all job old isFor' hash
        · obtain ⟨rfl, short⟩ := truthful.admitted id row found
          exact absurd (isFor job new _ short.1 isFor') other

/-- What an accepted card queues: at most one job, for the episode of its envelope. -/
theorem enqueueProjections_appends {localProfile : Bool} {cardId contentHash : String} {stored : Doc}
    (done : enqueueProjections lib localProfile cardId contentHash stored db = .ok db') :
    ∃ added, db'.graphOutbox = db.graphOutbox ++ added ∧
      ∀ job ∈ added, job.sourceId = varchar 128 cardId ∧ IsAuthority stored ∧
      ∃ revision, episodePayload cardId revision (textOr stored .currentness "unknown") stored
        = .ok job.episodePayload := by
  unfold enqueueProjections at done
  split at done
  case isTrue authority =>
    simp only [bind_eq_ok, pure_eq_ok, Except.ok.injEq, index_eq_ok] at done
    obtain ⟨⟨embeddings, tables⟩, _, lifecycle, _, episode, built, jobs, queued, rfl⟩ := done
    obtain ⟨added, grown, fresh⟩ := enqueueGraphOutbox_appends queued
    refine ⟨added, grown, fun job mem => ?_⟩
    obtain ⟨isFor, payload⟩ := fresh job mem
    exact ⟨isFor, authority, _, payload ▸ built⟩
  case isFalse =>
    cases done
    exact ⟨[], by simp, by simp⟩

theorem Truthful.writeChanged (truthful : Truthful lib db) {localProfile : Bool} {locked : List String}
    {changed stored : Doc} (told : WriteTold lib changed db)
    (done : writeChanged lib localProfile locked changed db = .ok (stored, db')) : Truthful lib db' := by
  unfold Steward.writeChanged at done
  obtain ⟨id, memoryId, done⟩ := bind_eq_ok.mp done
  rw [index_eq_ok] at memoryId
  have named : id.text = rowId changed := by simp [rowId, value, memoryId]
  by_cases mem : id.text ∈ locked
  · simp only [mem, if_true] at done
    cases found : db.cards.get? id.text with
    | none => simp [found] at done
    | some row =>
        simp only [found, bind_eq_ok, pure_eq_ok, Except.ok.injEq, Prod.mk.injEq] at done
        obtain ⟨_, _, _, _, row', rewritten, last, queued, rfl, rfl⟩ := done
        have cards := (enqueueProjections_tables queued).1
        obtain ⟨added, grown, fresh⟩ := enqueueProjections_appends queued
        rw [named] at found cards fresh
        have updated := updateRow_eq_ok rewritten
        have key : row'.memoryId = rowId changed := by
          rw [updated.frame]
          exact (truthful.admitted _ row found).1
        have short : (rowId changed).length ≤ 64 := key ▸ updated.fits.1
        refine truthful.write row' added updated.fits (key.symm ▸ cards) grown (fun job listed other _ isFor => ?_)
          fun selectable => ?_
        · rw [← isFor, (fresh job listed).1, varchar_eq_self (by omega : (rowId changed).length ≤ 128), key]
        rw [key]
        obtain ⟨before, begins⟩ := told row row' found rewritten selectable
        refine ⟨before, fun job listed => ?_⟩
        obtain ⟨_, authority, revision, built⟩ := fresh job listed
        exact episodePayload_carriesState updated (begins authority) built
  · simp [mem] at done

theorem Truthful.writeTarget (truthful : Truthful lib db) {localProfile : Bool} {locked : List String}
    {changed stored : Option Doc} (told : ∀ second ∈ changed, WriteTold lib second db)
    (done : writeTarget lib localProfile locked changed db = .ok (stored, db')) : Truthful lib db' := by
  cases changed with
  | none =>
      simp only [Steward.writeTarget, Except.ok.injEq, Prod.mk.injEq] at done
      rw [← done.2]
      exact truthful
  | some second =>
      simp only [Steward.writeTarget, bind_eq_ok, pure_eq_ok, Except.ok.injEq, Prod.mk.injEq] at done
      obtain ⟨⟨kept, last⟩, written, _, rfl⟩ := done
      exact truthful.writeChanged (told second rfl) written

/-- A table the query does not read. -/
theorem Truthful.congr (truthful : Truthful lib db) (cards : db'.cards = db.cards)
    (jobs : db'.graphOutbox = db.graphOutbox) : Truthful lib db' := by
  refine ⟨?_, ?_⟩
  · rw [Admitted, cards]
    exact truthful.admitted
  · rw [cards, jobs]
    exact truthful.told

theorem Truthful.decide (truthful : Truthful lib db) {d : Decision} {transform : Transform} {committedAt : Int}
    {outcome : Outcome}
    (done : stewardDecision lib lib.localProfile d transform committedAt db = .ok (outcome, db'))
    (told : ProjectionOp.Tells lib db (.decide d transform committedAt)) : Truthful lib db' := by
  unfold stewardDecision at done
  obtain ⟨_, _, done⟩ := bind_eq_ok.mp done
  cases audited : db.cardDecisions.get? d.decisionId with
  | some previous =>
      simp only [audited, bind_eq_ok, pure_eq_ok, Except.ok.injEq, Prod.mk.injEq] at done
      obtain ⟨_, _, _, rfl⟩ := done
      exact truthful
  | none =>
      simp only [audited, bind_eq_ok] at done
      obtain ⟨⟨new, newTarget⟩, decided, committed⟩ := done
      obtain ⟨first, then_⟩ := told audited new newTarget decided
      simp only [commitDecision, bind_eq_ok, pure_eq_ok, Except.ok.injEq, Prod.mk.injEq] at committed
      obtain ⟨⟨stored, mid⟩, written, ⟨storedTarget, last⟩, second, _, rfl⟩ := committed
      have afterFirst := truthful.writeChanged first written
      have afterBoth := afterFirst.writeTarget (fun changed mem => then_ stored mid written changed mem) second
      exact afterBoth.congr rfl rfl

theorem CarriesState.of_carries {episode : Doc} {row : CardRow} (carries : Carries lib episode row) :
    CarriesState lib episode row :=
  ⟨carries.lifecycleState, carries.currentness, carries.validFrom, carries.validTo⟩

theorem Truthful.upsert (truthful : Truthful lib db) {card : MemoryCard} {embedding : Except PyError Unit}
    (done : upsertCard lib card embedding db = .ok db')
    (told : ProjectionOp.Tells lib db (.upsert card embedding)) : Truthful lib db' := by
  simp only [upsertCard, upsertCardOn, bind_eq_ok, refuseIf_eq_ok, not_not, pure_eq_ok, Except.ok.injEq] at done
  obtain ⟨_, _, _, ⟨_, fits, _, _, rfl⟩, _, _, episode, built, jobs, queued, rfl⟩ := done
  obtain ⟨added, grown, fresh⟩ := enqueueGraphOutbox_appends queued
  have carries := CarriesState.of_carries (cardEpisode_carries built)
  -- the envelope that stays with the row is not among what a job carries
  refine truthful.write { card.stored with
      stewardEnvelope := (db.cards.get? card.stored.memoryId).bind (·.stewardEnvelope) } added
    fits rfl grown (fun job mem other short isFor => ?_) fun selectable => ⟨?_, fun job mem => ?_⟩
  · by_contra differ
    exact varchar_ne_id short (.inl differ) (isFor.symm.trans (fresh job mem).1)
  · rcases told selectable with ⟨job, mem, isFor, completed, state⟩ | all
    · exact .inl ⟨job, mem, isFor, completed, ⟨state.1, state.2, state.3, state.4⟩⟩
    · refine .inr fun job mem isFor hash => ?_
      have state := all job mem isFor hash
      exact ⟨state.1, state.2, state.3, state.4⟩
  · rw [(fresh job mem).2]
    exact ⟨carries.1, carries.2, carries.3, carries.4⟩

/-- A proposal is a row of its own, and not authority. -/
theorem Truthful.propose (truthful : Truthful lib db) {envelope answer : Doc} {now : Int}
    (done : putStewardProposal lib now envelope db = .ok (answer, db')) : Truthful lib db' := by
  simp only [putStewardProposal, bind_eq_ok] at done
  obtain ⟨_, _, _, _, row, built, done⟩ := done
  cases taken : db.cards.get? row.memoryId with
  | some stored =>
      simp only [taken, bind_eq_ok, pure_eq_ok, Except.ok.injEq, Prod.mk.injEq] at done
      obtain ⟨_, _, _, rfl⟩ := done
      exact truthful
  | none =>
      simp only [taken, insertCard, bind_eq_ok, refuseIf_eq_ok, not_not, pure_eq_ok, Except.ok.injEq,
        Prod.mk.injEq] at done
      obtain ⟨_, ⟨_, _, _, fits, _, _, rfl⟩, _, rfl⟩ := done
      have disabled : row.authorizationStatus = "disabled" := by
        unfold buildPgCard at built
        simp only [bind_eq_ok, pure_eq_ok, Except.ok.injEq] at built
        obtain ⟨_, _, _, _, _, _, _, _, _, _, _, _, rfl⟩ := built
        rfl
      refine truthful.write _ [] fits rfl (by simp) (by simp) fun selectable => ?_
      have active : row.authorizationStatus = "active" := selectable.1
      rw [disabled] at active
      exact absurd active (by decide)

theorem Truthful.step (truthful : Truthful lib db) {op : HealthOp} (told : op.Told lib db) :
    Truthful lib (healthStep lib db op) := by
  cases op with
  | process sourceId sourceRevision move => exact truthful.process sourceId sourceRevision move
  | write op =>
      simp only [healthStep]
      cases committed : op.transaction lib db with
      | error e => exact truthful
      | ok result =>
          cases op with
          | upsert card embedding =>
              obtain ⟨_, done, rfl⟩ := except_map_eq_ok committed
              exact truthful.upsert done (told _ committed)
          | propose envelope now =>
              obtain ⟨_, done, rfl⟩ := except_map_eq_ok committed
              exact truthful.propose done
          | decide d transform committedAt =>
              obtain ⟨_, done, rfl⟩ := except_map_eq_ok committed
              exact truthful.decide done (told _ committed)

theorem Truthful.empty : Truthful lib .empty := by
  refine ⟨?_, ?_⟩ <;>
  · intro id row found
    cases found

/-- In every run whose writes contradict no job that is found by the same content hash, a clean
    bill of health is true: each card that counts as authority has its present state in the graph. -/
theorem projection_health_sound (lib : Library) (ops : List HealthOp)
    (told : Along (healthStep lib) (fun db op => op.Told lib db) .empty ops) :
    HealthSound lib (run (healthStep lib) .empty ops) := by
  have truthful : Truthful lib (run (healthStep lib) .empty ops) :=
    Along.invariant (Truthful lib) (fun _ _ meets kept => kept.step meets) told .empty
  exact truthful.sound

end Soundness

/-! ### A card that is accepted under the content hash of its candidate -/

def healthCard (lifecycleState authorizationStatus : String) : MemoryCard where
  memoryId := "mem_1"
  project := "neurons"
  cardType := "decision"
  title := "store"
  summary := "keep the store"
  typedPayload := .obj []
  lifecycleState
  authorizationStatus
  currentness := "current"
  confidence := .dec 5 1
  validFrom := 1
  validTo := none
  contentHash := "sha256:1"
  sourceRef := []
  stewardEnvelope := none
  createdAt := 1

/-- The candidate is upserted and projected. -/
def candidateProjected : List HealthOp :=
  [.write (.upsert (healthCard "candidate" "disabled") (.ok ())), .process "mem_1" "sha256:1" .claim,
    .process "mem_1" "sha256:1" .complete]

/-- Upserted as accepted, the card has no job that says so, and its health is fine. -/
theorem accepted_card_unheard :
    graphProjectionHealth referenceLibrary "neurons" none false 5 5 (fun _ => 1)
        (run (healthStep referenceLibrary) .empty
          (candidateProjected ++ [.write (.upsert (healthCard "accepted" "active") (.ok ()))])) = .ok ⟨false, none⟩
      ∧ ¬ HealthSound referenceLibrary (run (healthStep referenceLibrary) .empty
          (candidateProjected ++ [.write (.upsert (healthCard "accepted" "active") (.ok ()))])) := by
  have healthy : graphProjectionHealth referenceLibrary "neurons" none false 5 5 (fun _ => 1)
      (run (healthStep referenceLibrary) .empty
        (candidateProjected ++ [.write (.upsert (healthCard "accepted" "active") (.ok ()))])) = .ok ⟨false, none⟩ := by
    decide +kernel
  refine ⟨healthy, fun sound => ?_⟩
  have stored : (run (healthStep referenceLibrary) .empty
      (candidateProjected ++ [.write (.upsert (healthCard "accepted" "active") (.ok ()))])).cards.get? "mem_1"
        = some (healthCard "accepted" "active").toCardRow := by decide +kernel
  have selects : healthSelects referenceLibrary "neurons" none false 5 (healthCard "accepted" "active").toCardRow
      = .ok true := by decide +kernel
  have episodes : ∀ job ∈ (run (healthStep referenceLibrary) .empty
      (candidateProjected ++ [.write (.upsert (healthCard "accepted" "active") (.ok ()))])).graphOutbox,
        job.episodePayload.get? .lifecycleState = some (.str "candidate") := by decide +kernel
  obtain ⟨job, mem, _, _, state⟩ := sound _ _ _ _ _ _ _ healthy rfl "mem_1" _ stored selects
  have told := state.lifecycleState.symm.trans (episodes job mem)
  exact absurd told (by decide)

/-! ### A proposal that is upserted, projected and approved -/

def healthEnvelope : Doc := (hashedSpan "first").set .authorizationStatus (.str "disabled")

def acceptedCard : MemoryCard :=
  { healthCard "human_accepted" "active" with memoryId := "mem_candidate_1", validFrom := 2 }

/-- The card is upserted over its proposal, as it will be approved, and projected. -/
def acceptedProjected : List HealthOp :=
  [.write (.propose healthEnvelope 1), .write (.upsert acceptedCard (.ok ())),
    .process "mem_candidate_1" "sha256:1" .claim, .process "mem_candidate_1" "sha256:1" .complete]

def approvalOf (decisionId : String) : Decision :=
  ⟨decisionId, "mem_candidate_1", .approve, "operator", "sha256:1", ""⟩

def approval : ProjectionOp :=
  .decide (approvalOf "decision_1") (approveTransform referenceLibrary "operator" "decision_1" "2") 2

/-- What the approval makes of the envelope. -/
def approvedEnvelope : Doc :=
  ((decideCards referenceLibrary (approvalOf "decision_1")
    (approveTransform referenceLibrary "operator" "decision_1" "2") 2
    (run (healthStep referenceLibrary) .empty acceptedProjected)).toOption.map Prod.fst).getD ∅

theorem decideCards_acceptedProjected : decideCards referenceLibrary (approvalOf "decision_1")
    (approveTransform referenceLibrary "operator" "decision_1" "2") 2
    (run (healthStep referenceLibrary) .empty acceptedProjected) = .ok (approvedEnvelope, none) := by
  decide +kernel

/-- The row it is written over, with the envelope of the proposal. -/
def acceptedRow : CardRow := { acceptedCard.toCardRow with stewardEnvelope := some healthEnvelope }

def approvedRow : CardRow :=
  (updateRow referenceLibrary acceptedRow (authorize approvedEnvelope)).toOption.getD acceptedRow

/-- The approval leaves the row as the completed job says. -/
theorem approval_told : approval.Tells referenceLibrary (run (healthStep referenceLibrary) .empty acceptedProjected) := by
  have stored : (run (healthStep referenceLibrary) .empty acceptedProjected).cards.get? (rowId approvedEnvelope) =
      some acceptedRow := by decide +kernel
  have written : updateRow referenceLibrary acceptedRow (authorize approvedEnvelope) = .ok approvedRow := by
    decide +kernel
  intro _ new newTarget decided
  rw [decideCards_acceptedProjected, Except.ok.injEq, Prod.mk.injEq] at decided
  obtain ⟨rfl, rfl⟩ := decided
  refine ⟨fun row row' found updated _ => ?_, fun _ _ _ second none_ => nomatch none_⟩
  rw [stored, Option.some.injEq] at found
  subst found
  rw [written, Except.ok.injEq] at updated
  subst updated
  exact ⟨.inl (by decide +kernel), fun _ => ⟨"1970-01-01T00:00:02+00:00", by decide +kernel⟩⟩

/-- Two jobs have the content hash of the card, of which one is not done, and the query takes the card. -/
theorem projection_health_sound_approved :
    let db := run (healthStep referenceLibrary) .empty (acceptedProjected ++ [.write approval])
    graphProjectionHealth referenceLibrary "neurons" none true 5 5 (fun _ => 1) db = .ok ⟨false, none⟩ ∧
      db.graphOutbox.map (fun job => (job.contentHash, job.status)) =
        [("sha256:1", "completed"), ("sha256:1", "queued")] ∧
      ∃ row, db.cards.get? "mem_candidate_1" = some row ∧
        InGraph referenceLibrary db.graphOutbox "mem_candidate_1" row := by
  have told : Along (healthStep referenceLibrary) (fun db op => op.Told referenceLibrary db) .empty
      (acceptedProjected ++ [.write approval]) := by
    refine ⟨fun _ _ => trivial, fun _ _ _ => .inr ?_, trivial, trivial, fun _ _ => approval_told, trivial⟩
    exact List.forall_mem_nil _
  have healthy : graphProjectionHealth referenceLibrary "neurons" none true 5 5 (fun _ => 1)
      (run (healthStep referenceLibrary) .empty (acceptedProjected ++ [.write approval])) = .ok ⟨false, none⟩ := by
    decide +kernel
  have selected : ((run (healthStep referenceLibrary) .empty (acceptedProjected ++ [.write approval])).cards.get?
      "mem_candidate_1").map (healthSelects referenceLibrary "neurons" none true 5) = some (.ok true) := by
    decide +kernel
  obtain ⟨row, found, selects⟩ := Option.map_eq_some_iff.mp selected
  refine ⟨healthy, by decide +kernel, row, found, ?_⟩
  exact projection_health_sound referenceLibrary _ told _ _ _ _ _ _ _ healthy rfl _ row found selects

end Neurons.Steward.GraphProjection
