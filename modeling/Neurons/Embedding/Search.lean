import Neurons.Embedding.Machine

/-! # Search over local vectors

A search joins parents with their ready vectors, ranks them by their distance to the
query, and drops every row whose input hash is not that of the parent as it stands.
Every vector in the derived tables is the embedding of the payload of some job, so
what is left was ranked with the embedding of its parent's own text.
-/

namespace Neurons.Embedding

open Neurons.Lib
open Neurons.Source
open Neurons.Steward (CardRow)

variable {V C D S : Type}

/-! ## Searches -/

/-- How the database ranks rows. -/
structure Ranking (C D S : Type) where
  /-- `vector <=> query` -/
  distance : C → C → D
  /-- `ORDER BY` a distance with a `LIMIT`, over an approximate index -/
  nearest : {α : Type} → (α → D) → ℕ → List α → List α
  nearest_subset : ∀ {α : Type} (key : α → D) (limit : ℕ) (rows : List α), nearest key limit rows ⊆ rows
  /-- the similarity score of a card, with the rank of its text if one is searched for -/
  similarity : D → Option String → CardRow → S

/-- The parameters of `hybrid_search_local`. -/
structure CardSearch where
  project : String
  limit : ℕ
  cardType : Option String
  authorizationStatus : Option String
  currentness : Option String
  asOf : Option Int
  textQuery : Option String
  stewardOnly : Bool

/-- A parent joined with its ready vector. -/
structure Joined (R C : Type) where
  id : String
  row : R
  inputHash : String
  column : C

/-- A row of an answer, with the distance it was ranked by. -/
structure CardHit (D S : Type) where
  memoryId : String
  row : CardRow
  similarityScore : S
  distance : D

structure ChunkHit (D : Type) where
  chunkId : String
  row : ChunkRow
  distance : D
  deriving DecidableEq

section Searches

variable (host : Host V C) (ranking : Ranking C D S)

/-- The ready vector of a parent whose content is still the one embedded. -/
def readyVector (db : Db C) (target : Target) (contentHash : String) : Option (String × C) :=
  match db.derived.get? target with
  | none => none
  | some derived =>
      match derived.vector with
      | none => none
      | some column =>
          if derived.state = .ready ∧ derived.sourceContentHash = contentHash then
            some (derived.inputHash, column)
          else none

/-- The hash a vector must have been made from. -/
def inputHashMatches (input : Except PyError String) (inputHash : String) : Bool :=
  match input >>= computeInputHash host with
  | .ok expected => expected = inputHash
  | .error _ => false

/-- The conditions on a card before the expiry of a status. -/
def CardSearch.Admits (search : CardSearch) (instant : Int) (row : CardRow) : Prop :=
  (search.project ≠ "" → row.project = search.project) ∧
    (search.stewardOnly → Steward.stewardOnlyFilter row) ∧
    (∀ status ∈ search.authorizationStatus, status ≠ "" → row.authorizationStatus = status) ∧
    (∀ currentness ∈ search.currentness, currentness ≠ "" →
      if currentness = "current" ∧ search.asOf ≠ none then row.currentness ∈ ["current", "superseded"]
      else row.currentness = currentness) ∧
    (∀ cardType ∈ search.cardType, cardType ≠ "" → row.cardType = cardType) ∧
    row.lifecycleState ∈ Steward.acceptedLifecycleStates ∧ row.validFrom ≤ instant ∧
    ∀ t ∈ row.validTo, instant < t

instance (search : CardSearch) (instant : Int) (row : CardRow) : Decidable (search.Admits instant row) := by
  unfold CardSearch.Admits
  infer_instance

/-- The cards a search joins with their vectors. -/
def joinCards (db : Db C) : List (Joined CardRow C) :=
  db.steward.cards.entries.filterMap fun entry =>
    (readyVector db (.card entry.1) entry.2.contentHash).map fun found =>
      ⟨entry.1, entry.2, found.1, found.2⟩

def hybridSearchLocal [LinearOrder S] (search : CardSearch) (queryVector : V) (now : Int) (db : Db C) :
    Except PyError (List (CardHit D S)) := do
  let query ← host.localVector queryVector
  refuseIf (search.limit < 1) (.valueError "limit must be positive")
  let instant := search.asOf.getD now
  let rows ← (joinCards db).filterM (fun joined =>
    if search.Admits instant joined.row then Steward.statusUnexpired host.lib joined.row instant
    else .ok false)
  let distanceOf (joined : Joined CardRow C) := ranking.distance joined.column query
  let score (joined : Joined CardRow C) :=
    ranking.similarity (distanceOf joined) search.textQuery joined.row
  let candidates := ranking.nearest distanceOf (max 50 (search.limit * 5)) rows
  let ranked := sortOn (fun joined => toLex (OrderDual.toDual (score joined), joined.id)) candidates
  let verified := (ranked.take search.limit).filter (fun joined =>
    inputHashMatches host (cardRowInput host joined.row) joined.inputHash)
  return verified.map (fun joined => ⟨joined.id, joined.row, score joined, distanceOf joined⟩)

/-- The chunks a search joins with their vectors. -/
def joinChunks (db : Db C) : List (Joined ChunkRow C) :=
  db.chunks.entries.filterMap fun entry =>
    (readyVector db (.chunk entry.1) entry.2.contentHash).map fun found =>
      ⟨entry.1, entry.2, found.1, found.2⟩

def searchSessionChunksLocal (queryVector : V) (project : String) (limit : ℕ) (db : Db C) :
    Except PyError (List (ChunkHit D)) := do
  let query ← host.localVector queryVector
  let rows := (joinChunks db).filter (fun joined => project = "" || joined.row.project = project)
  let distanceOf (joined : Joined ChunkRow C) := ranking.distance joined.column query
  let verified := (ranking.nearest distanceOf limit rows).filter (fun joined =>
    inputHashMatches host (.ok joined.row.contentMarkdown) joined.inputHash)
  return verified.map (fun joined => ⟨joined.id, joined.row, distanceOf joined⟩)

end Searches

/-! ## Faithful vectors -/

/-- Every job carries the hash of its payload, and every vector is the embedding of the
    payload of a job with the hash of its row. -/
structure Faithful (host : Host V C) (embed : String → V) (db : Db C) : Prop where
  hashed : ∀ outboxId job, db.outbox.get? outboxId = some job →
    computeInputHash host job.payloadText = .ok job.inputHash
  embedded : ∀ target row column, db.derived.get? target = some row → row.vector = some column →
    ∃ outboxId job, db.outbox.get? outboxId = some job ∧ job.inputHash = row.inputHash ∧
      host.localVector (embed job.payloadText) = .ok column

/-- A worker completes a job only with the embedding of the job's payload. -/
def Op.Embeds (embed : String → V) (db : Db C) : Op V → Prop
  | .complete outboxId _ _ vector _ =>
      ∀ job, db.outbox.get? outboxId = some job → vector = embed job.payloadText
  | _ => True

instance [DecidableEq V] (embed : String → V) (db : Db C) : (op : Op V) → Decidable (op.Embeds embed db)
  | .complete outboxId _ _ vector _ =>
      inferInstanceAs (Decidable (∀ job ∈ db.outbox.get? outboxId, vector = embed job.payloadText))
  | .upsertCard .. | .steward .. | .insertChunk .. | .insertChunkWithLocalOutbox .. | .enqueue .. | .deleteCard ..
  | .deleteSessionChunk .. | .claim .. | .renew .. | .markFailed .. | .requeue .. => isTrue trivial

/-- Every vector was there before, for the same input. -/
def VectorsFrom (derived derived' : Table Target (Derived C)) : Prop :=
  ∀ target row' column, derived'.get? target = some row' → row'.vector = some column →
    ∃ row, derived.get? target = some row ∧ row.vector = some column ∧ row.inputHash = row'.inputHash

section Vectors

variable {derived : Table Target (Derived C)}

theorem VectorsFrom.refl (derived : Table Target (Derived C)) : VectorsFrom derived derived :=
  fun _ row _ found vector => ⟨row, found, vector, rfl⟩

/-- One row is written. -/
theorem VectorsFrom.set {target : Target} {new : Derived C}
    (from_ : ∀ column, new.vector = some column →
      ∃ row, derived.get? target = some row ∧ row.vector = some column ∧ row.inputHash = new.inputHash) :
    VectorsFrom derived (derived.set target new) := by
  intro other row' column found vector
  rw [Table.get?_set] at found
  split at found
  · next same =>
      subst same
      cases found
      exact from_ column vector
  · exact ⟨row', found, vector, rfl⟩

theorem VectorsFrom.erase (target : Target) : VectorsFrom derived (derived.erase target) := by
  intro other row' column found vector
  rw [Table.get?_erase] at found
  split at found
  · cases found
  · exact ⟨row', found, vector, rfl⟩

theorem VectorsFrom.renewDerived (target : Target) (sourceHash inputHash : String) :
    VectorsFrom derived
      (derived.set target (renewDerived (derived.get? target) sourceHash inputHash)) := by
  refine .set fun column vector => ?_
  cases held : derived.get? target with
  | none => simp [held, Embedding.renewDerived] at vector
  | some row =>
      simp only [held, Embedding.renewDerived] at vector ⊢
      split_ifs at vector ⊢ with same
      · cases state : row.state with
        | ready =>
            simp only [state] at vector ⊢
            exact ⟨row, rfl, vector, same.2⟩
        | pending | stale | failed | quarantine => simp [state] at vector

theorem VectorsFrom.markDerived (target : Target) (state : DerivedState) (matching : Derived C → Bool) :
    VectorsFrom derived (markDerived target state matching derived) := by
  unfold Embedding.markDerived
  split
  · exact .refl derived
  · next row held =>
      split
      · exact .set fun column vector => ⟨row, held, vector, rfl⟩
      · exact .refl derived

end Vectors

section Faithful

variable {host : Host V C} {embed : String → V} {db db' : Db C}

theorem MovesAll.sameWork {maxRetries : Int} {events : ℕ → List Lease.Event}
    (all : MovesAll maxRetries events db db') {outboxId : ℕ} {job : Job}
    (found : db.outbox.get? outboxId = some job) :
    ∃ job', db'.outbox.get? outboxId = some job' ∧ SameWork job job' := by
  induction all generalizing job with
  | nil db => exact ⟨job, found, rfl, rfl, rfl, rfl, rfl⟩
  | cons first later ih =>
      obtain ⟨mid, foundMid, move⟩ := first.moved outboxId job found
      obtain ⟨job', found', work⟩ := ih foundMid
      have early := move.sameWork
      exact ⟨job', found', work.target.trans early.target, work.source.trans early.source,
        work.input.trans early.input, work.payload.trans early.payload,
        work.incarnation.trans early.incarnation⟩

/-- Vectors that were there keep the jobs they come from. -/
theorem Faithful.of_moves {maxRetries : Int} {events : ℕ → List Lease.Event}
    (faithful : Faithful host embed db) (moves : Moves maxRetries events db db')
    (fresh : ∀ outboxId job, db.outbox.get? outboxId = none → db'.outbox.get? outboxId = some job →
      computeInputHash host job.payloadText = .ok job.inputHash)
    (vectors : VectorsFrom db.derived db'.derived) : Faithful host embed db' where
  hashed outboxId job found := by
    cases was : db.outbox.get? outboxId with
    | none => exact fresh outboxId job was found
    | some old =>
        have work := (moves.before was found).sameWork
        rw [work.payload, work.input]
        exact faithful.hashed outboxId old was
  embedded target row column found vector := by
    obtain ⟨old, foundOld, vectorOld, input⟩ := vectors target row column found vector
    obtain ⟨outboxId, job, foundJob, inputJob, literal⟩ :=
      faithful.embedded target old column foundOld vectorOld
    obtain ⟨job', foundJob', work⟩ := (MovesAll.single moves).sameWork foundJob
    exact ⟨outboxId, job', foundJob', work.input.trans (inputJob.trans input),
      by rw [work.payload, literal]⟩

/-- A change of jobs that inserts none. -/
theorem Faithful.of_stored {maxRetries : Int} {events : ℕ → List Lease.Event}
    (faithful : Faithful host embed db) (moves : Moves maxRetries events db db')
    (stored : ∀ outboxId, db.outbox.get? outboxId = none → db'.outbox.get? outboxId = none)
    (vectors : VectorsFrom db.derived db'.derived) : Faithful host embed db' :=
  faithful.of_moves moves
    (fun outboxId job gone found => by simp [stored outboxId gone] at found) vectors

theorem Enqueued.faithful {target : Target} {sourceHash inputHash payloadText : String} {now : Int}
    (enqueued : Enqueued target sourceHash inputHash payloadText now db db')
    (hashed : computeInputHash host payloadText = .ok inputHash) (faithful : Faithful host embed db) :
    Faithful host embed db' := by
  have moves : Moves 0 _ db db' := enqueued.moves
  refine faithful.of_moves moves (fun outboxId job gone found => ?_) ?_
  · rw [enqueued.outbox] at found
    rcases findOrInsert_cases target sourceHash inputHash payloadText (db.incarnation target) now
        (db.outbox.mapValues (cancelOthers target sourceHash inputHash)) with
      ⟨-, -, -, -, -, same⟩ | ⟨-, inserted⟩
    · simp [same, gone] at found
    · rw [inserted, Table.get?_set] at found
      split at found
      · cases found
        exact hashed
      · simp [gone] at found
  · rw [enqueued.derived]
    exact .renewDerived target sourceHash inputHash

theorem EnqueuedAll.faithful {now : Int} {requests : List Request}
    (all : EnqueuedAll host now requests db db') (faithful : Faithful host embed db) :
    Faithful host embed db' := by
  induction all with
  | nil db => exact faithful
  | cons hashed first later ih => exact ih (first.faithful hashed faithful)

theorem LeaseOutcome.faithful {claim : Claim} {outboxId : ℕ} {leased : Option (ℕ × Job)}
    (outcome : LeaseOutcome claim outboxId db leased db') (faithful : Faithful host embed db) :
    Faithful host embed db' := by
  have moves := outcome.moves
  cases outcome with
  | passed => exact faithful
  | exhausted found =>
      exact faithful.of_stored moves (fun _ gone => Table.get?_set_none found gone)
        (.set fun column vector => by cases vector)
  | outlived found =>
      exact faithful.of_stored moves (fun _ gone => Table.get?_set_none found gone) (.refl _)
  | skipped found =>
      exact faithful.of_stored moves (fun _ gone => Table.get?_set_none found gone) (.refl _)
  | leased found =>
      exact faithful.of_stored moves (fun _ gone => Table.get?_set_none found gone) (.refl _)

theorem LeasedAll.faithful {claim : Claim} {tried : List ℕ} {jobs : List (ℕ × Job)}
    (all : LeasedAll claim tried jobs db db') (faithful : Faithful host embed db) :
    Faithful host embed db' := by
  induction all with
  | nil db => exact faithful
  | cons first later ih => exact ih (first.faithful faithful)

theorem RequeueOutcome.faithful {outboxId : ℕ} {done : Bool}
    (outcome : RequeueOutcome outboxId db done db') (faithful : Faithful host embed db) :
    Faithful host embed db' := by
  have moves : Moves 0 _ db db' := outcome.moves
  cases outcome with
  | passed => exact faithful
  | requeued found =>
      exact faithful.of_stored moves (fun _ gone => Table.get?_set_none found gone)
        (.markDerived _ _ _)

theorem RequeuedAll.faithful {tried ids : List ℕ} (all : RequeuedAll tried ids db db')
    (faithful : Faithful host embed db) : Faithful host embed db' := by
  induction all with
  | nil db => exact faithful
  | cons first later ih => exact ih (first.faithful faithful)

/-- A completion leaves the embedding of its payload, or closes the job. -/
theorem WriteBackOutcome.faithful {outboxId : ℕ} {job : Job} {column : C} {done : Bool}
    (outcome : WriteBackOutcome host outboxId job column db done db')
    (found : db.outbox.get? outboxId = some job) (running : job.status = .processing)
    (literal : host.localVector (embed job.payloadText) = .ok column)
    (faithful : Faithful host embed db) : Faithful host embed db' := by
  have moves : Moves 0 _ db db' := outcome.moves found running
  cases outcome with
  | outlived =>
      exact faithful.of_stored moves (fun _ gone => Table.get?_set_none found gone) (.refl _)
  | orphaned =>
      exact faithful.of_stored moves (fun _ gone => Table.get?_set_none found gone) (.refl _)
  | skipped =>
      exact faithful.of_stored moves (fun _ gone => Table.get?_set_none found gone) (.refl _)
  | written =>
      have kept : Faithful host embed (db.setJob outboxId job.finish) :=
        faithful.of_stored ⟨moves.moved, moves.absent, moves.fresh⟩
          (fun _ gone => Table.get?_set_none found gone) (.refl _)
      refine ⟨kept.hashed, fun target row vectorColumn foundRow vector => ?_⟩
      simp only [Table.get?_set] at foundRow
      split at foundRow
      · cases foundRow
        cases vector
        exact ⟨outboxId, job.finish, Table.get?_set_self _ _ _, rfl, literal⟩
      · exact kept.embedded target row vectorColumn foundRow vector

theorem Faithful.empty : Faithful host embed (Db.empty : Db C) where
  hashed outboxId job found := by simp [Db.empty] at found
  embedded target row column found := by simp [Db.empty] at found

theorem Faithful.of_tables (faithful : Faithful host embed db) (same : SameTables db db') :
    Faithful host embed db' := by
  refine ⟨?_, ?_⟩
  · rw [same.outbox]
    exact faithful.hashed
  · rw [same.outbox, same.derived]
    exact faithful.embedded

theorem Faithful.committed {op : Op V} {answer : Answer} (committed : Committed host db op answer db')
    (embeds : op.Embeds embed db) (faithful : Faithful host embed db) : Faithful host embed db' := by
  cases committed with
  | wrote writes rewrote enqueued => exact enqueued.faithful (faithful.of_tables rewrote.tables)
  | @deleted _ target _ _ deletes deleted =>
      have moves : Moves 0 _ db db' := .of_map deleted.outbox (cancelDeleted_move target)
      refine faithful.of_stored moves (fun outboxId gone => ?_) ?_
      · simp [deleted.outbox, gone]
      · rw [deleted.derived]
        exact .erase target
  | leased distinct all => exact all.faithful faithful
  | unrenewed => exact faithful
  | @renewed outboxId _ _ seconds now _ job found held =>
      have moves : Moves 0 (fun _ => []) db (db.setJob outboxId
          { job with leaseUntil := some (now + microseconds seconds) }) :=
        .of_set found rfl (.renewed held.running) fun _ _ => rfl
      exact faithful.of_stored moves (fun _ gone => Table.get?_set_none found gone) (.refl _)
  | reported literal found held outcome =>
      rw [embeds _ found] at literal
      exact outcome.faithful found held.running literal faithful
  | failed found held failed =>
      refine faithful.of_stored (failed.moves found held.running) (fun outboxId gone => ?_) ?_
      · rw [failed.outbox]
        exact Table.get?_set_none found gone
      · rw [failed.derived]
        split
        · exact .markDerived _ _ _
        · exact .refl _
  | requeued wanted all => exact all.faithful faithful

theorem Faithful.step {op : Op V} (embeds : op.Embeds embed db) (faithful : Faithful host embed db) :
    Faithful host embed (step host db op) := by
  rcases step_cases op db with same | ⟨answer, -, committed⟩
  · exact same.symm ▸ faithful
  · exact faithful.committed committed embeds

end Faithful

/-! ## Fresh answers -/

section Fresh

variable {host : Host V C} {ranking : Ranking C D S} {embed : String → V} {db : Db C}

/-- The texts whose hashes the local tables compare: payloads of jobs, and canonical
    inputs of parents. -/
def Db.texts (host : Host V C) (db : Db C) : Set String :=
  {text | (∃ outboxId job, db.outbox.get? outboxId = some job ∧ job.payloadText = text) ∨
    ∃ target, canonicalInput? host db target = some (.ok text)}

/-- No two of the texts have the same SHA-256. -/
def Db.CollisionFree (host : Host V C) (db : Db C) : Prop :=
  Set.InjOn (fun text => sha256Hash host.lib.py (.text text)) (db.texts host)

theorem readyVector_eq_some {target : Target} {contentHash inputHash : String} {column : C}
    (found : readyVector db target contentHash = some (inputHash, column)) :
    ∃ row, db.derived.get? target = some row ∧ row.vector = some column ∧ row.inputHash = inputHash := by
  unfold readyVector at found
  split at found
  · cases found
  · next row held =>
      split at found
      · cases found
      · next column' vector =>
          split at found
          · cases found
            exact ⟨row, held, vector, rfl⟩
          · cases found

/-- A vector whose input hash is that of the parent's text is the embedding of that text. -/
theorem Faithful.fresh (faithful : Faithful host embed db) (distinct : db.CollisionFree host)
    {target : Target} {contentHash inputHash : String} {column : C} {input : Except PyError String}
    (ready : readyVector db target contentHash = some (inputHash, column))
    (current : canonicalInput? host db target = some input)
    (verified : inputHashMatches host input inputHash = true) :
    ∃ text, input = .ok text ∧ host.localVector (embed text) = .ok column := by
  obtain ⟨row, held, vector, rfl⟩ := readyVector_eq_some ready
  obtain ⟨outboxId, job, found, sameInput, literal⟩ := faithful.embedded target row column held vector
  have payloadHash := (computeInputHash_eq_ok.mp (faithful.hashed outboxId job found)).2
  unfold inputHashMatches at verified
  split at verified
  · next expected hashed =>
      obtain ⟨text, rfl, textHashed⟩ := bind_eq_ok.mp hashed
      have textHash := (computeInputHash_eq_ok.mp textHashed).2
      have same : job.payloadText = text := by
        refine distinct (.inl ⟨outboxId, job, found, rfl⟩) (.inr ⟨target, current⟩) ?_
        have expectedEq : expected = row.inputHash := by simpa using verified
        simp only [payloadHash, textHash, expectedEq, sameInput]
      exact ⟨text, rfl, same ▸ literal⟩
  · cases verified

theorem hybridSearchLocal_fresh [LinearOrder S] (faithful : Faithful host embed db)
    (distinct : db.CollisionFree host) {search : CardSearch} {queryVector : V} {now : Int}
    {hits : List (CardHit D S)}
    (found : hybridSearchLocal host ranking search queryVector now db = .ok hits)
    {hit : CardHit D S} (mem : hit ∈ hits) :
    ∃ text column query, canonicalInput? host db (.card hit.memoryId) = some (.ok text) ∧
      host.localVector (embed text) = .ok column ∧ host.localVector queryVector = .ok query ∧
      hit.distance = ranking.distance column query := by
  simp only [hybridSearchLocal, bind_eq_ok, pure_eq_ok, Except.ok.injEq] at found
  obtain ⟨query, literal, ⟨⟩, -, rows, selected, rfl⟩ := found
  obtain ⟨joined, kept, rfl⟩ := List.mem_map.mp mem
  obtain ⟨ranked, verified⟩ := List.mem_filter.mp kept
  have candidate := (mem_sortOn _).mp (List.mem_of_mem_take ranked)
  have row := (mem_of_filterM selected (ranking.nearest_subset _ _ _ candidate)).1
  simp only [joinCards, List.mem_filterMap, Option.map_eq_some_iff] at row
  obtain ⟨⟨memoryId, card⟩, stored, ⟨inputHash, column⟩, ready, rfl⟩ := row
  have current : canonicalInput? host db (.card memoryId) = some (cardRowInput host card) := by
    simp [canonicalInput?, Dict.mem_entries_iff.mp stored]
  obtain ⟨text, input, embedded⟩ := faithful.fresh distinct ready current verified
  exact ⟨text, column, query, by rw [current, input], embedded, literal, rfl⟩

theorem searchSessionChunksLocal_fresh (faithful : Faithful host embed db)
    (distinct : db.CollisionFree host) {queryVector : V} {project : String} {limit : ℕ}
    {hits : List (ChunkHit D)}
    (found : searchSessionChunksLocal host ranking queryVector project limit db = .ok hits)
    {hit : ChunkHit D} (mem : hit ∈ hits) :
    ∃ text column query, canonicalInput? host db (.chunk hit.chunkId) = some (.ok text) ∧
      host.localVector (embed text) = .ok column ∧ host.localVector queryVector = .ok query ∧
      hit.distance = ranking.distance column query := by
  simp only [searchSessionChunksLocal, bind_eq_ok, pure_eq_ok, Except.ok.injEq] at found
  obtain ⟨query, literal, rfl⟩ := found
  obtain ⟨joined, kept, rfl⟩ := List.mem_map.mp mem
  obtain ⟨ranked, verified⟩ := List.mem_filter.mp kept
  have row := (List.mem_filter.mp (ranking.nearest_subset _ _ _ ranked)).1
  simp only [joinChunks, List.mem_filterMap, Option.map_eq_some_iff] at row
  obtain ⟨⟨chunkId, chunk⟩, stored, ⟨inputHash, column⟩, ready, rfl⟩ := row
  have current : canonicalInput? host db (.chunk chunkId) = some (.ok chunk.contentMarkdown) := by
    simp [canonicalInput?, Table.mem_entries_iff.mp stored]
  obtain ⟨text, input, embedded⟩ := faithful.fresh distinct ready current verified
  exact ⟨text, column, query, by rw [current, input], embedded, literal, rfl⟩

/-- After any run of the store in which every completion brings the embedding of its
    job's payload, every row a local search answers with was ranked with the embedding of
    its parent's canonical input as it stands. -/
theorem local_search_fresh [LinearOrder S] (host : Host V C) (ranking : Ranking C D S)
    (embed : String → V) (ops : List (Op V))
    (embeds : Along (step host) (fun db op => op.Embeds embed db) .empty ops)
    (distinct : (run (step host) .empty ops).CollisionFree host) (queryVector : V) :
    (∀ search now hits, hybridSearchLocal host ranking search queryVector now
        (run (step host) .empty ops) = .ok hits → ∀ hit ∈ hits, ∃ text column query,
      canonicalInput? host (run (step host) .empty ops) (.card hit.memoryId) = some (.ok text) ∧
      host.localVector (embed text) = .ok column ∧ host.localVector queryVector = .ok query ∧
      hit.distance = ranking.distance column query) ∧
    (∀ project limit hits, searchSessionChunksLocal host ranking queryVector project limit
        (run (step host) .empty ops) = .ok hits → ∀ hit ∈ hits, ∃ text column query,
      canonicalInput? host (run (step host) .empty ops) (.chunk hit.chunkId) = some (.ok text) ∧
      host.localVector (embed text) = .ok column ∧ host.localVector queryVector = .ok query ∧
      hit.distance = ranking.distance column query) := by
  have faithful : Faithful host embed (run (step host) .empty ops) :=
    Along.invariant (Faithful host embed) (fun _ _ => Faithful.step) embeds .empty
  exact ⟨fun _ _ _ found _ mem => hybridSearchLocal_fresh faithful distinct found mem,
    fun _ _ _ found _ mem => searchSessionChunksLocal_fresh faithful distinct found mem⟩

/-- A ranking in which a vector is at distance zero from itself. -/
def referenceRanking : Ranking (List Int) Int Int where
  distance column query := if column = query then 0 else 1
  nearest key limit rows := (sortOn key rows).take limit
  nearest_subset key _ _ _ mem := (mem_sortOn key).mp (List.mem_of_mem_take mem)
  similarity distance _ _ := 1 - distance

/-- A store without cards whose texts are among these. -/
theorem Db.collisionFree_of_texts {db : Db C} {texts : List String}
    (payloads : ∀ entry ∈ db.outbox.entries, entry.2.payloadText ∈ texts)
    (chunks : ∀ entry ∈ db.chunks.entries, entry.2.contentMarkdown ∈ texts)
    (cards : db.steward.cards.entries = [])
    (apart : ∀ first ∈ texts, ∀ second ∈ texts, sha256Hash host.lib.py (.text first) =
      sha256Hash host.lib.py (.text second) → first = second) : db.CollisionFree host := by
  have among (text : String) (mem : text ∈ db.texts host) : text ∈ texts := by
    rcases mem with ⟨outboxId, job, found, rfl⟩ | ⟨target, input⟩
    · exact payloads (outboxId, job) (Table.mem_entries_iff.mpr found)
    · cases target with
      | card memoryId =>
          obtain ⟨row, found, -⟩ := Option.map_eq_some_iff.mp input
          have mem := Dict.mem_entries_iff.mpr found
          simp [cards] at mem
      | chunk chunkId =>
          obtain ⟨row, found, stored⟩ := Option.map_eq_some_iff.mp input
          cases stored
          exact chunks (chunkId, row) (Table.mem_entries_iff.mpr found)
  exact fun first memFirst second memSecond => apart first (among first memFirst) second (among second memSecond)

/-! ### Texts that change under a claim and after an embedding -/

def twosVector : List Int := List.replicate 256 2

def referenceEmbed (text : String) : List Int := if text = "text" then onesVector else twosVector

def otherChunk (text : String) : SessionChunk := ⟨"other", "project", text, chunkHash 'a'⟩

/-- The text of one chunk is replaced while a worker has its job, which then reports late; the text of the
    other one is replaced, under the same content hash, once it has been embedded. -/
def revisedOps : List (Op (List Int)) :=
  [putChunkOp "text" 'a', .insertChunkWithLocalOutbox false (otherChunk "text") 0, claimOp 5 1, putChunkOp "next" 'b',
    completeOp 1 1, claimOp 5 2, completeOp 2 2, .insertChunk false (otherChunk "next"), claimOp 5 3,
    .complete 3 "worker" 1 twosVector 3000001]

def revisedChunks : Db (List Int) := run (step referenceHost) .empty revisedOps

theorem revisedChunks_texts :
    (∀ entry ∈ revisedChunks.outbox.entries, entry.2.payloadText ∈ ["text", "next"]) ∧
      (∀ entry ∈ revisedChunks.chunks.entries, entry.2.contentMarkdown ∈ ["text", "next"]) ∧
      revisedChunks.steward.cards.entries = [] := by
  decide +kernel

theorem revisedChunks_collisionFree : revisedChunks.CollisionFree referenceHost := by
  obtain ⟨payloads, chunks, cards⟩ := revisedChunks_texts
  apply Db.collisionFree_of_texts payloads chunks cards
  show ∀ first ∈ ["text", "next"], ∀ second ∈ ["text", "next"], textHash first = textHash second → first = second
  decide +kernel

/-- The vector of a text that has been replaced is not served, and the other chunk is ranked with the
    embedding of the text that it has now. -/
theorem local_search_fresh_revised :
    (readyVector revisedChunks (.chunk "other") (chunkHash 'a')).map Prod.snd = some (referenceEmbed "text") ∧
    ∃ hits, searchSessionChunksLocal referenceHost referenceRanking onesVector "" 5 revisedChunks = .ok hits ∧
      hits.map (·.chunkId) = ["chunk"] ∧
      ∀ hit ∈ hits, ∃ text column query,
        canonicalInput? referenceHost revisedChunks (.chunk hit.chunkId) = some (.ok text) ∧
        referenceHost.localVector (referenceEmbed text) = .ok column ∧
        referenceHost.localVector onesVector = .ok query ∧
        hit.distance = referenceRanking.distance column query := by
  have found : searchSessionChunksLocal referenceHost referenceRanking onesVector "" 5 revisedChunks =
      .ok [⟨"chunk", ⟨"project", "next", chunkHash 'b'⟩, 1⟩] := by
    decide +kernel
  have embeds : Along (step referenceHost) (fun db op => op.Embeds referenceEmbed db) .empty revisedOps := by
    decide +kernel
  refine ⟨by decide +kernel, _, found, rfl, ?_⟩
  exact (local_search_fresh referenceHost referenceRanking referenceEmbed revisedOps embeds
    revisedChunks_collisionFree onesVector).2 "" 5 _ found

end Fresh

end Neurons.Embedding
