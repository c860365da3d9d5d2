import Neurons.Graph.Join
import Neurons.Lib.Lines
import Neurons.Lib.Replies
import Neurons.Lib.Sorting

/-! # Resolving a query while the cards change

The query mode of `graph_first_resolver.py`, up to the cards that are handed to `_serialize`. A
request makes several reads, and the cards, the graph and the vectors may change between any two
of them. Whatever a search proposes, the cards answered with are read again from the authority.
-/

namespace Neurons.Graph

open Neurons.Lib
open Neurons.Source
open Neurons.Steward

/-! ## What is read -/

/-- What a search of the graph answers. -/
structure GraphResult where
  status : String
  episodes : List FoundEpisode
  deriving DecidableEq

/-- A card as `hybrid_search` ranks it. -/
structure RankedCard where
  memoryId : String
  contentHash : String
  title : String
  summary : String
  cardType : String
  typedPayload : Json
  /-- its semantic score is at least `SEMANTIC_RESULT_MIN_SCORE` -/
  near : Bool
  deriving DecidableEq

/-- A chunk of a session as `search_session_chunks` finds it. -/
structure FoundChunk where
  chunkId : String
  project : String
  contentMarkdown : String
  contentHash : String
  /-- its similarity is at least 0.45 -/
  near : Bool
  deriving DecidableEq

/-- The calls of the resolver to the graph and to the store; a reply is an error where the call raises. -/
inductive ReadCall (V : Type) : Type → Type
  | searchContext (brainId query : String) (limit : ℕ) (asOf : Option Int) :
      ReadCall V (Except PyError GraphResult)
  | graphProjectionHealth (project : String) (asOf : Option Int) (stewardOnly : Bool) :
      ReadCall V (Except PyError GraphProjection.Health)
  | listAuthorizedCards (q : CardQuery) : ReadCall V (Except PyError (List CardRow))
  | hybridSearch (project : String) (vector : V) (query : String) (limit : ℕ) (asOf : Option Int)
      (stewardOnly : Bool) : ReadCall V (Except PyError (List RankedCard))
  | searchSessionChunks (vector : V) (project : String) (limit : ℕ) : ReadCall V (Except PyError (List FoundChunk))

/-- What a resolver is set up with. -/
structure Resolver (V : Type) where
  lib : Library
  /-- `embed_query`, where one is given -/
  embedQuery : Option (String → Except PyError V)
  /-- a graph adapter is given -/
  hasGraph : Bool
  /-- the store has `search_session_chunks` -/
  hasSessionChunks : Bool
  /-- `_safe` -/
  safe : String → ℕ → String

/-! ## What is answered -/

/-- A chunk of a session in the shape of a card. -/
structure ChunkCard where
  memoryId : String
  project : String
  title : String
  summary : String
  contentHash : String
  deriving DecidableEq

inductive AnsweredCard where
  | authority (card : JoinedCard)
  | chunk (card : ChunkCard)
  deriving DecidableEq

def AnsweredCard.memoryId : AnsweredCard → String
  | .authority card => card.row.memoryId
  | .chunk card => card.memoryId

inductive RetrievalPath where
  | none | graphNeo4j | pgvectorFallback
  deriving DecidableEq, Repr

inductive GraphStatus where
  | available | degraded | unavailable | projectionLag
  deriving DecidableEq, Repr

/-- `_metadata` -/
structure Metadata where
  retrievalPath : RetrievalPath
  graphStatus : GraphStatus
  authorityJoinStatus : JoinStatus
  fallbackUsed : Bool
  projectionLagMs : Option ℕ
  fromPostgres : Bool
  deriving DecidableEq

/-- What is handed to `_serialize`, or the error that is answered with. -/
inductive Answer where
  | cards (cards : List AnsweredCard) (metadata : Metadata) (errorCode : Option FallbackError)
  | refused (errorCode : FallbackError) (graphStatus : GraphStatus) (projectionLagMs : Option ℕ)
  deriving DecidableEq

/-! ## Texts -/

/-- The characters `[A-Za-z0-9가-힣_-]`. -/
def isTokenChar (c : Char) : Bool :=
  c.isAlphanum || (0xac00 ≤ c.toNat && c.toNat ≤ 0xd7a3) || c = '_' || c = '-'

/-- `_query_tokens` -/
def queryTokens (text : String) : List String :=
  let runs := text.toList.splitOnP fun c => !isTokenChar c
  ((runs.filter fun run => 1 < run.length).map fun run => lower (String.ofList run)).eraseDups

/-- `str(value or "")` -/
def textOrEmpty (v : Json) : String := if v.truthy then v.text else ""

/-- `_card_search_text`; the texts of a search have no `render_text`. -/
def cardSearchText (title summary cardType : String) (typedPayload : Json) : String :=
  let values := ((Doc.ofJson? typedPayload).map fun d => d.entries.map Prod.snd).getD []
  " ".intercalate ([title, summary, "", cardType] ++ values.map textOrEmpty)

/-- `line.strip("#* -")` -/
def stripMarks (line : List Char) : List Char :=
  let marks := ['#', '*', ' ', '-']
  ((line.dropWhile (· ∈ marks)).reverse.dropWhile (· ∈ marks)).reverse

/-- The lines of a chunk behind its header: a title with the lines that belong to it, and front matter. -/
def headerless (lines : List String) : List String :=
  let rest :=
    match lines with
    | first :: rest =>
        if hasPrefix "# session-memory" (String.ofList (first.toList.dropWhile isSpace)) then
          rest.dropWhile fun line =>
            strip line = "" ∨ hasPrefix "session_id_hash:" line ∨ hasPrefix "## conversation" line
        else lines
    | [] => []
  match rest with
  | first :: matter =>
      if strip first = "---" then
        match matter.dropWhile fun line => strip line ≠ "---" with
        | _ :: body => body
        | [] => rest
      else rest
  | [] => []

/-- A line of a transcript without the role that speaks it; no line where nothing is said. -/
def spokenLine (raw : String) : Option String :=
  let line := strip raw
  let role := ["user:", "assistant:", "system:", "tool:"].find? fun role => hasPrefix role (lower line)
  let said := (role.map fun role => strip (String.ofList (line.toList.drop role.length))).getD line
  if said = "" ∨ hasPrefix "language contract:" (lower said) then none else some said

/-- `_session_chunk_body` -/
def sessionChunkBody (text : String) : String :=
  let linesOf (part : List Char) : List String := (Lines.splitlines part).map String.ofList
  let marker := "## Transcript"
  let body :=
    match text.toList.tails.find? marker.toList.isPrefixOf with
    | some found => found.drop marker.length
    | none => ("\n".intercalate (headerless (linesOf text.toList))).toList
  let cleaned := (linesOf body).filterMap spokenLine
  if cleaned = [] then strip text else "\n".intercalate cleaned

def overlap (tokens : List String) (text : String) : ℕ := (tokens.filter (· ∈ queryTokens text)).length

section Resolving

variable {V : Type} (resolver : Resolver V) (request : ResolveRequest)

/-! ## The fallback -/

/-- A hit shares half of the words of the query, or its vector is near. -/
def RankedCard.relevant (query : String) (card : RankedCard) : Bool :=
  let tokens := queryTokens query
  let threshold := max 1 ((tokens.length + 1) / 2)
  threshold ≤ overlap tokens (cardSearchText card.title card.summary card.cardType card.typedPayload) ∨ card.near

/-- The ids and hashes of the hits, each pair once. -/
def rankKeys (ranked : List RankedCard) : List (String × String) :=
  ((ranked.map fun card => (card.memoryId, card.contentHash)).filter fun key => key.1 ≠ "" ∧ key.2 ≠ "").eraseDups

/-- The cards that still have the hash they were ranked with. -/
def recheckedCards (keys : List (String × String)) (authorized : List CardRow) : List CardRow :=
  recheck (cardById authorized) CardRow.contentHash keys

/-- One chunk of `_session_chunk_cards`. -/
def chunkCard (chunk : FoundChunk) : Option ChunkCard :=
  let tokens := queryTokens request.query
  let threshold := if tokens = [] then 1 else max 1 ((tokens.length + 1) / 3)
  let text := strip chunk.contentMarkdown
  if text = "" then none
  else if chunk.near = false ∧ overlap tokens text < threshold then none
  else if chunk.chunkId = "" then none
  else
    let summary := resolver.safe (sessionChunkBody text) 65536
    if summary = "" then none
    else
      let firstLine := ((Lines.splitlines summary.toList).map stripMarks).find? (· ≠ [])
      let heading := (firstLine.map String.ofList).getD (request.project ++ " session context")
      some {
        memoryId := "chunk:" ++ (chunk.chunkId.take 56).toString
        project := if chunk.project = "" then request.project else chunk.project
        title := resolver.safe heading 1000
        summary
        contentHash :=
          if hasPrefix "sha256:" chunk.contentHash then chunk.contentHash
          else sha256Hash resolver.lib.py (.text text) }

/-- `_session_chunk_cards` for the vector of the query -/
def sessionChunkCards (vector : V) : Prog (ReadCall V) PyError (List ChunkCard) := do
  if request.withEvidence ∨ resolver.hasSessionChunks = false then return []
  else
    match ← Prog.request (.searchSessionChunks vector request.project (max (request.limit * 2) 10)) with
    | .error _ => return []
    | .ok chunks => return (chunks.filterMap (chunkCard resolver request)).take (request.limit + 1)

/-- The chunks that stand in where no card is left. -/
def chunkFallback (vector : V) (cards : List CardRow) : Prog (ReadCall V) PyError (List ChunkCard) :=
  if cards = [] then sessionChunkCards resolver request vector else return []

/-- The cards of a fallback; `authority_join_status` is `"verified"` or `"mismatch"`. -/
structure Fallback where
  cards : List AnsweredCard
  verified : Bool

/-- The vector of the query, where there is an embedding and it does not raise. -/
def queryVector : Option V := resolver.embedQuery.bind fun embed => (embed request.query).toOption

/-- `_fallback_cards` -/
def fallbackCards : Prog (ReadCall V) PyError (Except FallbackError Fallback) := do
  match queryVector resolver request with
  | none => return .error .embeddingUnavailable
  | some vector => do
      match ← Prog.request (.hybridSearch request.project vector request.query cardLimit request.asOf true) with
      | .error _ => return .error .authorityStoreUnavailable
      | .ok hits => do
          let ranked := hits.filter (RankedCard.relevant request.query)
          let keys := rankKeys ranked
          match ← Prog.request (.listAuthorizedCards
              (authorityQuery request.project request.asOf (keys.map Prod.fst))) with
          | .error _ => return .error .authorityStoreUnavailable
          | .ok authorized => do
              let cards := recheckedCards keys authorized
              let chunks ← chunkFallback resolver request vector cards
              return .ok {
                cards :=
                  if chunks = [] then cards.map fun row => .authority ⟨row, false, false⟩ else chunks.map .chunk
                verified := cards.length = ranked.length }

/-- A fallback has been tried when the embedding has worked. -/
def fallbackUsed : Except FallbackError Fallback → Bool
  | .error .embeddingUnavailable => false
  | .error .authorityStoreUnavailable | .ok _ => true

def fallbackStatus (fallback : Fallback) : JoinStatus := if fallback.verified then .verified else .mismatch

/-- `_dedupe_cards` -/
def dedupeCards : List String → List AnsweredCard → List AnsweredCard
  | _, [] => []
  | seen, card :: rest =>
      if card.memoryId = "" ∨ card.memoryId ∈ seen then dedupeCards seen rest
      else card :: dedupeCards (card.memoryId :: seen) rest

/-! ## The query mode -/

/-- `_resolve_fallback` -/
def resolveFallback (graphStatus : GraphStatus) (lag : Option ℕ) : Prog (ReadCall V) PyError Answer := do
  match ← fallbackCards resolver request with
  | .error code => return .refused code graphStatus lag
  | .ok fallback =>
      return .cards fallback.cards ⟨.pgvectorFallback, graphStatus, fallbackStatus fallback, true, lag, false⟩ none

/-- The search of the graph and its status; no episodes where there is no graph or the search raises. -/
def searchGraph : Prog (ReadCall V) PyError (GraphStatus × List FoundEpisode) := do
  if resolver.hasGraph = false then return (.unavailable, [])
  else
    match ← Prog.request (.searchContext ("/project/" ++ request.project) request.query cardLimit request.asOf) with
    | .error _ => return (.unavailable, [])
    | .ok result =>
        let status : GraphStatus :=
          if result.status = "available" then .available
          else if result.status = "degraded" then .degraded
          else .unavailable
        return (status, result.episodes)

/-- `_join_graph_candidates` at a time of the clock -/
def joinGraph (clock : Int) (episodes : List FoundEpisode) :
    Prog (ReadCall V) PyError (Option (List JoinedCard) × JoinStatus) := do
  let c := candidatesOf resolver.lib (request.asOf.getD clock) episodes
  if c.ids = [] then return (some [], if c.sawMissing then .unavailable else .verified)
  else
    let read ← Prog.request (.listAuthorizedCards (authorityQuery request.project request.asOf c.ids))
    return joinedCandidates resolver.lib c read

/-- The answer where some authority is not yet in the graph. -/
def resolveLagging (joined : List JoinedCard) (status : JoinStatus) (lag : Option ℕ) :
    Prog (ReadCall V) PyError Answer := do
  let fallback ← fallbackCards resolver request
  let path : RetrievalPath := if joined = [] then .pgvectorFallback else .graphNeo4j
  let metadata (path : RetrievalPath) (status : JoinStatus) : Metadata :=
    ⟨path, .projectionLag, status, fallbackUsed fallback, lag, false⟩
  match fallback with
  | .ok found =>
      return .cards (dedupeCards [] (joined.map .authority ++ found.cards))
        (metadata path (if status = .verified then fallbackStatus found else status)) none
  | .error code =>
      if joined = [] then return .refused code .projectionLag lag
      else return .cards (joined.map .authority) (metadata .graphNeo4j status) (some code)

/-- The answer where every authority is in the graph; a search that finds no card may still find a chunk. -/
def resolveJoined (joined : List JoinedCard) (status : JoinStatus) (lag : Option ℕ) :
    Prog (ReadCall V) PyError Answer := do
  let answer : Answer := .cards (joined.map .authority)
    ⟨.graphNeo4j, .available, status, false, lag, joined.any (·.fromPostgres)⟩ none
  if joined = [] ∧ status = .verified ∧ request.asOf = none ∧ resolver.embedQuery.isSome ∧
      resolver.hasSessionChunks then
    match ← fallbackCards resolver request with
    | .error _ => return answer
    | .ok fallback =>
        if fallback.cards = [] then return answer
        else
          return .cards fallback.cards
            ⟨.pgvectorFallback, .available, fallbackStatus fallback, true, lag, false⟩ none
  else return answer

/-- `_resolve_query` -/
def resolveQuery (clock : Int) : Prog (ReadCall V) PyError Answer := do
  let (graphStatus, episodes) ← searchGraph resolver request
  match ← Prog.request (.graphProjectionHealth request.project request.asOf true) with
  | .error _ => return .refused .authorityStoreUnavailable .unavailable none
  | .ok health => do
      let lag := health.projectionLagMs
      if graphStatus ≠ .available then resolveFallback resolver request graphStatus lag
      else
        match ← joinGraph resolver request clock episodes with
        | (none, _) => return .refused .authorityStoreUnavailable .unavailable none
        | (some joined, status) =>
            if health.unprojected then resolveLagging resolver request joined status lag
            else resolveJoined resolver request joined status lag

end Resolving

/-! ## Where the cards of an answer are from -/

/-- The cards of an answer that the authority has given. -/
def authorityRows (cards : List AnsweredCard) : List CardRow :=
  cards.filterMap fun card =>
    match card with
    | .authority card => some card.row
    | .chunk _ => none

theorem authorityRows_authority (cards : List JoinedCard) :
    authorityRows (cards.map .authority) = cards.map (·.row) := by
  rw [authorityRows, List.filterMap_map]
  exact List.filterMap_eq_map_iff_forall_eq_some.mpr fun _ _ => rfl

theorem authorityRows_chunk (cards : List ChunkCard) : authorityRows (cards.map .chunk) = [] := by
  rw [authorityRows, List.filterMap_map]
  exact List.filterMap_eq_nil_iff.mpr fun _ _ => rfl

section Provenance

variable {V : Type} (gives : {β : Type} → ReadCall V β → β → Prop)
variable (resolver : Resolver V) (request : ResolveRequest) (clock : Int)

/-- The authority has been read and has given the row. -/
def Confirmed (row : CardRow) : Prop :=
  ∃ ids rows, gives (.listAuthorizedCards (authorityQuery request.project request.asOf ids)) (.ok rows) ∧ row ∈ rows

def SearchedGraph (result : GraphResult) : Prop :=
  gives (.searchContext ("/project/" ++ request.project) request.query cardLimit request.asOf) (.ok result)

/-- The hits of the search by the vector of the query that are relevant. -/
def Ranked (ranked : List RankedCard) : Prop :=
  ∃ vector ∈ queryVector resolver request, ∃ hits,
    gives (.hybridSearch request.project vector request.query cardLimit request.asOf true) (.ok hits) ∧
      ranked = hits.filter (RankedCard.relevant request.query)

/-- A search has proposed a card by its id and hash. -/
def Proposed (key : AuthorityKey) : Prop :=
  (∃ result, SearchedGraph gives request result ∧
      Names resolver.lib (request.asOf.getD clock) result.episodes key) ∨
    ∃ ranked, Ranked gives resolver request ranked ∧ ∃ hit ∈ ranked, (⟨hit.memoryId, hit.contentHash⟩ : AuthorityKey) = key

/-- The cards stem from the authority, each under its own id and as it was proposed. -/
structure Vouched (cards : List AnsweredCard) : Prop where
  distinct : ((authorityRows cards).map (·.memoryId)).Nodup
  confirmed : ∀ row ∈ authorityRows cards, Confirmed gives request row
  proposed : ∀ row ∈ authorityRows cards, Proposed gives resolver request clock ⟨row.memoryId, row.contentHash⟩

/-- Each hit has a card of the answer. -/
def CoversHits (cards : List AnsweredCard) (ranked : List RankedCard) : Prop :=
  ∀ hit ∈ ranked, ∃ card ∈ cards, card.memoryId ≠ "" ∧ card.memoryId = hit.memoryId

/-- Each source that the graph has found names a card of the answer, unless more cards are named than
    are looked up. -/
def CoversSources (cards : List AnsweredCard) (result : GraphResult) : Prop :=
  ∀ entry ∈ allSources resolver.lib (request.asOf.getD clock) result.episodes, ∃ key,
    authorityKey? entry.2 = some key ∧
    ((candidatesOf resolver.lib (request.asOf.getD clock) result.episodes).ids.length < cardLimit →
      ∃ row ∈ authorityRows cards, row.memoryId = key.memoryId ∧ row.contentHash = key.contentHash)

def CoversRanked (cards : List AnsweredCard) : Prop :=
  ∃ ranked, Ranked gives resolver request ranked ∧ CoversHits cards ranked

def CoversGraph (cards : List AnsweredCard) : Prop :=
  ∃ result, SearchedGraph gives request result ∧ CoversSources resolver request clock cards result

variable {gives resolver request clock}

theorem rankKeys_nodup (ranked : List RankedCard) : (rankKeys ranked).Nodup := nodup_eraseDups _

theorem mem_rankKeys {ranked : List RankedCard} {key : String × String} (mem : key ∈ rankKeys ranked) :
    (∃ hit ∈ ranked, (hit.memoryId, hit.contentHash) = key) ∧ key.1 ≠ "" := by
  obtain ⟨listed, filled⟩ := List.mem_filter.mp ((eraseDups_sublist _).mem mem)
  exact ⟨List.mem_map.mp listed, (of_decide_eq_true filled).1⟩

theorem mem_recheckedCards {keys : List (String × String)} {authorized : List CardRow} {row : CardRow}
    (mem : row ∈ recheckedCards keys authorized) : row ∈ authorized ∧ (row.memoryId, row.contentHash) ∈ keys := by
  obtain ⟨id, found, claimed⟩ := mem_recheck.mp mem
  obtain ⟨stored, rfl⟩ := cardById_eq_some found
  exact ⟨stored, claimed⟩

theorem recheckedCards_distinct {keys : List (String × String)} (nodup : keys.Nodup) (authorized : List CardRow) :
    ((recheckedCards keys authorized).map (·.memoryId)).Nodup :=
  recheck_distinct (fun _ _ found => (cardById_eq_some found).2) nodup

/-- As many cards as hits: each hit has been answered with. -/
theorem covered_of_length {ranked : List RankedCard} {authorized : List CardRow}
    (all : (recheckedCards (rankKeys ranked) authorized).length = ranked.length) {hit : RankedCard}
    (mem : hit ∈ ranked) :
    ∃ row ∈ recheckedCards (rankKeys ranked) authorized, row.memoryId ≠ "" ∧ row.memoryId = hit.memoryId := by
  let pairs := ranked.map fun card => (card.memoryId, card.contentHash)
  let filled := pairs.filter fun key => decide (key.1 ≠ "" ∧ key.2 ≠ "")
  have some_ : (recheckedCards (rankKeys ranked) authorized).length ≤ (rankKeys ranked).length :=
    length_recheck_le _
  have once : (rankKeys ranked).length ≤ filled.length := (eraseDups_sublist filled).length_le
  have kept : filled.length ≤ pairs.length := List.length_filter_le ..
  have size : pairs.length = ranked.length := List.length_map ..
  have pair : (hit.memoryId, hit.contentHash) ∈ pairs := List.mem_map.mpr ⟨hit, mem, rfl⟩
  have whole : filled = pairs := List.filter_sublist.eq_of_length (show filled.length = pairs.length by omega)
  have key : (hit.memoryId, hit.contentHash) ∈ rankKeys ranked := by
    rw [rankKeys, List.mem_eraseDups]
    show _ ∈ filled
    rwa [whole]
  obtain ⟨row, found, hash⟩ := bornOut_of_length_recheck
    (show (recheck (cardById authorized) CardRow.contentHash (rankKeys ranked)).length = _ from by
      rw [recheckedCards] at all some_
      omega) key
  have id := (cardById_eq_some found).2
  exact ⟨row, mem_recheck.mpr ⟨_, found, hash ▸ key⟩, id ▸ (mem_rankKeys key).2, id⟩

theorem Vouched.of_chunks (chunks : List ChunkCard) :
    Vouched gives resolver request clock (chunks.map .chunk) := by
  refine ⟨?_, ?_, ?_⟩ <;> rw [authorityRows_chunk]
  · exact List.nodup_nil
  · exact fun row mem => nomatch mem
  · exact fun row mem => nomatch mem

theorem authorityRows_unflagged (rows : List CardRow) :
    authorityRows (rows.map fun row => .authority ⟨row, false, false⟩) = rows := by
  have own := authorityRows_authority (rows.map fun row => ⟨row, false, false⟩)
  rwa [List.map_map, List.map_map, show ((·.row) ∘ fun row : CardRow => (⟨row, false, false⟩ : JoinedCard)) = id from rfl,
    List.map_id] at own

theorem fallbackCards_leads {fallback : Fallback}
    (leads : (fallbackCards resolver request).Leads gives (.ok (.ok fallback))) :
    Vouched gives resolver request clock fallback.cards ∧
      (fallback.verified → CoversRanked gives resolver request fallback.cards) := by
  unfold fallbackCards at leads
  cases embedded : queryVector resolver request with
  | none =>
      rw [embedded] at leads
      cases leads
  | some vector =>
      rw [embedded] at leads
      obtain ⟨reply, searched, leads⟩ := Prog.Leads.request_bind leads
      cases reply with
      | error e => cases leads
      | ok hits =>
          obtain ⟨read, confirmed, leads⟩ := Prog.Leads.request_bind leads
          cases read with
          | error e => cases leads
          | ok authorized =>
              obtain ⟨chunks, found, leads⟩ := Prog.Leads.bind leads
              have ranked : Ranked gives resolver request (hits.filter (RankedCard.relevant request.query)) :=
                ⟨vector, embedded, hits, searched, rfl⟩
              cases leads
              set rows := recheckedCards (rankKeys (hits.filter (RankedCard.relevant request.query))) authorized
              have told {row : CardRow} (mem : row ∈ rows) : row ∈ authorized ∧
                  Proposed gives resolver request clock ⟨row.memoryId, row.contentHash⟩ := by
                obtain ⟨stored, key⟩ := mem_recheckedCards mem
                obtain ⟨⟨hit, listed, same⟩, -⟩ := mem_rankKeys key
                obtain ⟨id, hash⟩ := Prod.mk.inj same
                exact ⟨stored, .inr ⟨_, ranked, hit, listed, by rw [id, hash]⟩⟩
              by_cases none_ : chunks = []
              · rw [if_pos none_]
                refine ⟨⟨?_, ?_, ?_⟩, fun all => ⟨_, ranked, fun hit mem => ?_⟩⟩
                · rw [authorityRows_unflagged]
                  exact recheckedCards_distinct (rankKeys_nodup _) authorized
                · rw [authorityRows_unflagged]
                  exact fun row mem => ⟨_, authorized, confirmed, (told mem).1⟩
                · rw [authorityRows_unflagged]
                  exact fun row mem => (told mem).2
                · obtain ⟨row, kept, same⟩ := covered_of_length (of_decide_eq_true all) mem
                  exact ⟨_, List.mem_map.mpr ⟨row, kept, rfl⟩, same⟩
              · rw [if_neg none_]
                refine ⟨.of_chunks chunks, fun all => ⟨_, ranked, fun hit mem => ?_⟩⟩
                have empty : rows = [] := by
                  by_contra some_
                  rw [chunkFallback, if_neg some_] at found
                  cases found
                  exact none_ rfl
                have size := of_decide_eq_true all
                rw [empty] at size
                rw [List.length_eq_zero_iff.mp size.symm] at mem
                cases mem

/-! ### The cards of each way to answer -/

theorem mem_authorityRows {cards : List AnsweredCard} {row : CardRow} :
    row ∈ authorityRows cards ↔ ∃ card, .authority card ∈ cards ∧ card.row = row := by
  rw [authorityRows, List.mem_filterMap]
  constructor
  · rintro ⟨card, mem, same⟩
    cases card with
    | authority card => exact ⟨card, mem, Option.some.inj same⟩
    | chunk card => cases same
  · rintro ⟨card, mem, same⟩
    exact ⟨.authority card, mem, congrArg some same⟩

theorem authorityRows_ids_sublist (cards : List AnsweredCard) :
    ((authorityRows cards).map (·.memoryId)).Sublist (cards.map (·.memoryId)) := by
  induction cards with
  | nil => exact List.Sublist.refl _
  | cons card rest ih =>
      cases card with
      | authority card => exact ih.cons_cons card.row.memoryId
      | chunk card => exact ih.cons card.memoryId

theorem dedupeCards_spec (seen : List String) (cards : List AnsweredCard) :
    ((dedupeCards seen cards).map (·.memoryId)).Nodup ∧
      ∀ card ∈ dedupeCards seen cards, card ∈ cards ∧ card.memoryId ∉ seen := by
  fun_induction dedupeCards seen cards with
  | case1 => simp
  | case2 seen card rest skipped ih =>
      refine ⟨ih.1, fun other mem => ?_⟩
      exact ⟨List.mem_cons_of_mem _ (ih.2 other mem).1, (ih.2 other mem).2⟩
  | case3 seen card rest fresh ih =>
      rw [not_or] at fresh
      constructor
      · rw [List.map_cons, List.nodup_cons]
        refine ⟨fun again => ?_, ih.1⟩
        obtain ⟨other, mem, same⟩ := List.mem_map.mp again
        exact (ih.2 other mem).2 (by simp [same])
      · intro other mem
        rcases List.mem_cons.mp mem with rfl | mem
        · exact ⟨List.mem_cons_self, fresh.2⟩
        · obtain ⟨own, unseen⟩ := ih.2 other mem
          exact ⟨List.mem_cons_of_mem _ own, fun known => unseen (List.mem_cons_of_mem _ known)⟩

/-- The first card with an id is kept. -/
theorem mem_dedupeCards_append {seen : List String} {first : List AnsweredCard} (rest : List AnsweredCard)
    {card : AnsweredCard} (named : card.memoryId ≠ "") (unseen : card.memoryId ∉ seen)
    (before : ∀ other ∈ first, other.memoryId ≠ card.memoryId) :
    card ∈ dedupeCards seen (first ++ card :: rest) := by
  induction first generalizing seen with
  | nil =>
      rw [List.nil_append, dedupeCards, if_neg (by simp [named, unseen])]
      exact List.mem_cons_self
  | cons other first ih =>
      rw [List.forall_mem_cons] at before
      rw [List.cons_append, dedupeCards]
      split
      · exact ih unseen before.2
      · apply List.mem_cons_of_mem
        apply ih _ before.2
        rw [List.mem_cons, not_or]
        exact ⟨Ne.symm before.1, unseen⟩

theorem exists_mem_dedupeCards {seen : List String} {cards : List AnsweredCard} {card : AnsweredCard}
    (mem : card ∈ cards) (named : card.memoryId ≠ "") (unseen : card.memoryId ∉ seen) :
    ∃ kept ∈ dedupeCards seen cards, kept.memoryId = card.memoryId := by
  induction cards generalizing seen with
  | nil => cases mem
  | cons other rest ih =>
      rw [dedupeCards]
      by_cases same : other.memoryId = card.memoryId
      · rw [same, if_neg (by simp [named, unseen])]
        exact ⟨other, List.mem_cons_self, same⟩
      · have later : card ∈ rest := by
          rcases List.mem_cons.mp mem with rfl | later
          · exact absurd rfl same
          · exact later
        split
        · exact ih later unseen
        · have fresh : card.memoryId ∉ other.memoryId :: seen := by
            rw [List.mem_cons, not_or]
            exact ⟨Ne.symm same, unseen⟩
          obtain ⟨kept, own, equal⟩ := ih later fresh
          exact ⟨kept, List.mem_cons_of_mem _ own, equal⟩

/-- Cards of which each has its own id are kept where they come first. -/
theorem mem_dedupeCards_of_nodup {first : List AnsweredCard} (rest : List AnsweredCard)
    (distinct : (first.map (·.memoryId)).Nodup) {card : AnsweredCard} (mem : card ∈ first)
    (named : card.memoryId ≠ "") : card ∈ dedupeCards [] (first ++ rest) := by
  obtain ⟨before, after, rfl⟩ := List.append_of_mem mem
  rw [List.append_assoc, List.cons_append]
  apply mem_dedupeCards_append _ named List.not_mem_nil
  intro other earlier same
  rw [List.map_append, List.map_cons, List.nodup_append] at distinct
  exact distinct.2.2 _ (List.mem_map_of_mem earlier) _ List.mem_cons_self same

theorem CoversGraph.mono {cards cards' : List AnsweredCard} (covers : CoversGraph gives resolver request clock cards)
    (keeps : ∀ row ∈ authorityRows cards, row.memoryId ≠ "" → row ∈ authorityRows cards') :
    CoversGraph gives resolver request clock cards' := by
  obtain ⟨result, searched, all⟩ := covers
  refine ⟨result, searched, fun entry mem => ?_⟩
  obtain ⟨key, named, held⟩ := all entry mem
  refine ⟨key, named, fun room => ?_⟩
  obtain ⟨row, own, id, hash⟩ := held room
  exact ⟨row, keeps row own (id ▸ authorityKey?_named named), id, hash⟩

/-- Of cards that are vouched for, put together, each id is kept once. -/
theorem Vouched.dedupe {first second : List AnsweredCard} (one : Vouched gives resolver request clock first)
    (two : Vouched gives resolver request clock second) :
    Vouched gives resolver request clock (dedupeCards [] (first ++ second)) := by
  have spec := dedupeCards_spec [] (first ++ second)
  have from_ {row : CardRow} (mem : row ∈ authorityRows (dedupeCards [] (first ++ second))) :
      row ∈ authorityRows first ∨ row ∈ authorityRows second := by
    obtain ⟨card, kept, same⟩ := mem_authorityRows.mp mem
    rcases List.mem_append.mp (spec.2 _ kept).1 with left | right
    · exact .inl (mem_authorityRows.mpr ⟨card, left, same⟩)
    · exact .inr (mem_authorityRows.mpr ⟨card, right, same⟩)
  refine ⟨spec.1.sublist (authorityRows_ids_sublist _), fun row mem => ?_, fun row mem => ?_⟩
  · rcases from_ mem with left | right
    · exact one.confirmed row left
    · exact two.confirmed row right
  · rcases from_ mem with left | right
    · exact one.proposed row left
    · exact two.proposed row right

theorem joinGraph_leads {result : GraphResult} (searched : SearchedGraph gives request result)
    {joined : List JoinedCard} {status : JoinStatus}
    (leads : (joinGraph resolver request clock result.episodes).Leads gives (.ok (some joined, status))) :
    Vouched gives resolver request clock (joined.map .authority) ∧
      (status = .verified → CoversGraph gives resolver request clock (joined.map .authority)) := by
  have collects := candidatesOf_collects resolver.lib (request.asOf.getD clock) result.episodes
  unfold joinGraph at leads
  dsimp only at leads
  split at leads
  · next none_ =>
      obtain ⟨same, told⟩ := Prod.mk.inj (Except.ok.inj leads)
      cases same
      refine ⟨.of_chunks [], fun verified => ⟨result, searched, fun entry mem => ?_⟩⟩
      have present : (candidatesOf resolver.lib (request.asOf.getD clock) result.episodes).sawMissing = false := by
        cases missing : (candidatesOf resolver.lib (request.asOf.getD clock) result.episodes).sawMissing with
        | false => rfl
        | true => simp [missing, verified] at told
      obtain ⟨key, named⟩ := collects.keyed present mem
      rw [collects.unnamed none_ mem] at named
      cases named
  · obtain ⟨read, confirmed, leads⟩ := Prog.Leads.request_bind leads
    have same : joinedCandidates resolver.lib _ read = (some joined, status) := (Except.ok.inj leads).symm
    obtain ⟨rows, rfl, distinct, sound, complete, verified⟩ := joinedCandidates_spec same
    refine ⟨⟨?_, ?_, ?_⟩, fun told => ⟨result, searched, fun entry mem => ?_⟩⟩
    · rw [authorityRows_authority, List.map_map]
      exact distinct
    · rw [authorityRows_authority]
      intro row mem
      obtain ⟨card, own, rfl⟩ := List.mem_map.mp mem
      exact ⟨_, rows, confirmed, (cardById_eq_some (sound card own).1).1⟩
    · rw [authorityRows_authority]
      intro row mem
      obtain ⟨card, own, rfl⟩ := List.mem_map.mp mem
      obtain ⟨entry, source, named⟩ := (collects.claimed _ (sound card own).2).1
      exact .inl ⟨result, searched, entry, source, named⟩
    · obtain ⟨present, all⟩ := verified.mp told
      obtain ⟨key, named⟩ := collects.keyed present mem
      refine ⟨key, named, fun room => ?_⟩
      have claimed := collects.whole room entry mem key named
      obtain ⟨row, looked, hash⟩ := all _ claimed
      rw [authorityRows_authority]
      exact ⟨row, List.mem_map.mpr ⟨_, complete _ row looked (hash ▸ claimed), rfl⟩, (cardById_eq_some looked).2, hash⟩

/-- The answer holds cards that are vouched for, and where it counts as verified every search it rests on
    is covered; or it holds none. -/
def Answer.Sound (gives : {β : Type} → ReadCall V β → β → Prop) (resolver : Resolver V) (request : ResolveRequest)
    (clock : Int) : Answer → Prop
  | .cards answered metadata errorCode =>
      Vouched gives resolver request clock answered ∧
        (errorCode = none → metadata.authorityJoinStatus = .verified →
          (metadata.graphStatus = .available ∨ metadata.graphStatus = .projectionLag →
            CoversGraph gives resolver request clock answered) ∧
          (metadata.fallbackUsed = true → CoversRanked gives resolver request answered))
  | .refused _ _ _ => True

theorem verified_of_fallbackStatus {fallback : Fallback} (verified : fallbackStatus fallback = .verified) :
    fallback.verified = true := by
  cases own : fallback.verified with
  | true => rfl
  | false => simp [fallbackStatus, own] at verified

theorem resolveFallback_leads {graphStatus : GraphStatus} {lag : Option ℕ} {answer : Answer}
    (down : graphStatus ≠ .available ∧ graphStatus ≠ .projectionLag)
    (leads : (resolveFallback resolver request graphStatus lag).Leads gives (.ok answer)) :
    answer.Sound gives resolver request clock := by
  obtain ⟨fallback, tried, leads⟩ := Prog.Leads.bind leads
  cases fallback with
  | error code =>
      cases leads
      trivial
  | ok fallback =>
      cases leads
      obtain ⟨vouched, covers⟩ := fallbackCards_leads tried
      refine ⟨vouched, fun _ verified => ⟨fun up => ?_, fun _ => covers (verified_of_fallbackStatus verified)⟩⟩
      rcases up with up | up
      · exact absurd up down.1
      · exact absurd up down.2

theorem resolveLagging_leads {joined : List JoinedCard} {status : JoinStatus} {lag : Option ℕ} {answer : Answer}
    (vouched : Vouched gives resolver request clock (joined.map .authority))
    (covers : status = .verified → CoversGraph gives resolver request clock (joined.map .authority))
    (leads : (resolveLagging resolver request joined status lag).Leads gives (.ok answer)) :
    answer.Sound gives resolver request clock := by
  obtain ⟨fallback, tried, leads⟩ := Prog.Leads.bind leads
  cases fallback with
  | ok found =>
      cases leads
      obtain ⟨own, ranked⟩ : Vouched gives resolver request clock found.cards ∧ _ := fallbackCards_leads tried
      refine ⟨vouched.dedupe own, fun _ verified => ?_⟩
      have both : status = .verified ∧ fallbackStatus found = .verified := by
        by_cases told : status = .verified
        · simp only [told, if_true] at verified
          exact ⟨told, verified⟩
        · simp only [told, if_false] at verified
      constructor
      · intro _
        apply (covers both.1).mono
        intro row mem named
        obtain ⟨card, kept, rfl⟩ := mem_authorityRows.mp mem
        have distinct : ((joined.map AnsweredCard.authority).map (·.memoryId)).Nodup := by
          have own := vouched.distinct
          rw [authorityRows_authority, List.map_map] at own
          rwa [List.map_map]
        exact mem_authorityRows.mpr ⟨card, mem_dedupeCards_of_nodup _ distinct kept named, rfl⟩
      · intro _
        obtain ⟨hits, searched, all⟩ := ranked (verified_of_fallbackStatus both.2)
        refine ⟨hits, searched, fun hit mem => ?_⟩
        obtain ⟨card, held, named, id⟩ := all hit mem
        obtain ⟨kept, listed, same⟩ :=
          exists_mem_dedupeCards (List.mem_append_right (joined.map .authority) held) named List.not_mem_nil
        exact ⟨kept, listed, same ▸ named, same.trans id⟩
  | error code =>
      dsimp only at leads
      split at leads
      · cases leads
        trivial
      · cases leads
        exact ⟨vouched, fun none_ => nomatch none_⟩

theorem resolveJoined_leads {joined : List JoinedCard} {status : JoinStatus} {lag : Option ℕ} {answer : Answer}
    (vouched : Vouched gives resolver request clock (joined.map .authority))
    (covers : status = .verified → CoversGraph gives resolver request clock (joined.map .authority))
    (leads : (resolveJoined resolver request joined status lag).Leads gives (.ok answer)) :
    answer.Sound gives resolver request clock := by
  have plain (metadata : Metadata) (same : metadata.authorityJoinStatus = status)
      (unused : metadata.fallbackUsed = false) :
      (Answer.cards (joined.map .authority) metadata none).Sound gives resolver request clock := by
    refine ⟨vouched, fun _ verified => ⟨fun _ => covers (same ▸ verified), fun used => ?_⟩⟩
    rw [unused] at used
    cases used
  unfold resolveJoined at leads
  dsimp only at leads
  split at leads
  · next empty =>
      obtain ⟨fallback, tried, leads⟩ := Prog.Leads.bind leads
      cases fallback with
      | error code =>
          cases leads
          exact plain _ rfl rfl
      | ok found =>
          dsimp only at leads
          split at leads
          · cases leads
            exact plain _ rfl rfl
          · cases leads
            obtain ⟨own, ranked⟩ : Vouched gives resolver request clock found.cards ∧ _ := fallbackCards_leads tried
            refine ⟨own, fun _ verified => ⟨fun _ => ?_, fun _ => ranked (verified_of_fallbackStatus verified)⟩⟩
            apply (covers empty.2.1).mono
            intro row mem
            rw [authorityRows_authority, empty.1] at mem
            cases mem
  · cases leads
    exact plain _ rfl rfl

/-- The episodes are those of a search, where the graph counts as available. -/
theorem searchGraph_leads {graphStatus : GraphStatus} {episodes : List FoundEpisode}
    (leads : (searchGraph resolver request).Leads gives (.ok (graphStatus, episodes))) :
    graphStatus ≠ .projectionLag ∧
      (graphStatus = .available → ∃ result, SearchedGraph gives request result ∧ result.episodes = episodes) := by
  unfold searchGraph at leads
  split at leads
  · cases leads
    simp
  · obtain ⟨reply, searched, leads⟩ := Prog.Leads.request_bind leads
    cases reply with
    | error e =>
        cases leads
        simp
    | ok result =>
        obtain ⟨status, same⟩ := Prod.mk.inj (Except.ok.inj leads)
        refine ⟨?_, fun _ => ⟨result, searched, same.symm⟩⟩
        rw [status]
        split
        · simp
        · split <;> simp

theorem resolveQuery_leads {answer : Answer} (leads : (resolveQuery resolver request clock).Leads gives (.ok answer)) :
    answer.Sound gives resolver request clock := by
  obtain ⟨⟨graphStatus, episodes⟩, searched, afterSearch⟩ := Prog.Leads.bind leads
  obtain ⟨lagless, found⟩ := searchGraph_leads searched
  obtain ⟨health, -, afterHealth⟩ := Prog.Leads.request_bind afterSearch
  cases health with
  | error e =>
      cases afterHealth
      trivial
  | ok health =>
      dsimp only at afterHealth
      by_cases available : graphStatus = .available
      · rw [if_neg (not_not.mpr available)] at afterHealth
        obtain ⟨result, asked, rfl⟩ := found available
        obtain ⟨⟨joined?, status⟩, joins, afterJoin⟩ := Prog.Leads.bind afterHealth
        cases joined? with
        | none =>
            cases afterJoin
            trivial
        | some joined =>
            obtain ⟨vouched, covers⟩ := joinGraph_leads asked joins
            dsimp only at afterJoin
            split at afterJoin
            · exact resolveLagging_leads vouched covers afterJoin
            · exact resolveJoined_leads vouched covers afterJoin
      · rw [if_pos available] at afterHealth
        exact resolveFallback_leads ⟨available, lagless⟩ afterHealth

/-! ### How often it searches -/

/-- The reads that are no search by the query itself. -/
structure OnlySearches (kind : {β : Type} → ReadCall V β → Bool) : Prop where
  health : ∀ project asOf stewardOnly, kind (.graphProjectionHealth project asOf stewardOnly) = false
  cards : ∀ q, kind (.listAuthorizedCards q) = false
  chunks : ∀ vector project limit, kind (.searchSessionChunks vector project limit) = false

variable {kind : {β : Type} → ReadCall V β → Bool} (only : OnlySearches kind) {n : ℕ}

include only in
theorem fallbackCards_atMost
    (hits : ∀ project vector query limit asOf stewardOnly,
      (kind (.hybridSearch project vector query limit asOf stewardOnly)).toNat ≤ n) :
    (fallbackCards resolver request).AtMost kind n := by
  have chunks (vector : V) (rows : List CardRow) : (chunkFallback resolver request vector rows).AtMost kind 0 := by
    unfold chunkFallback sessionChunkCards
    split
    · split
      · trivial
      · refine Prog.AtMost.bind_free (Prog.atMost_request_free (only.chunks ..)) fun reply => ?_
        cases reply <;> trivial
    · trivial
  unfold fallbackCards
  split
  · trivial
  · refine (Prog.atMost_request (hits ..)).free_bind fun reply => ?_
    cases reply with
    | error e => trivial
    | ok found =>
        refine Prog.AtMost.bind_free (Prog.atMost_request_free (only.cards _)) fun read => ?_
        cases read with
        | error e => trivial
        | ok authorized => exact (chunks _ _).bind_free fun _ => trivial

theorem resolveFallback_atMost (fallback : (fallbackCards resolver request).AtMost kind n) (graphStatus : GraphStatus)
    (lag : Option ℕ) : (resolveFallback resolver request graphStatus lag).AtMost kind n := by
  refine fallback.free_bind fun found => ?_
  cases found <;> trivial

theorem resolveLagging_atMost (fallback : (fallbackCards resolver request).AtMost kind n) (joined : List JoinedCard)
    (status : JoinStatus) (lag : Option ℕ) : (resolveLagging resolver request joined status lag).AtMost kind n := by
  refine fallback.free_bind fun found => ?_
  cases found with
  | ok found => trivial
  | error code =>
      dsimp only
      split <;> trivial

theorem resolveJoined_atMost (fallback : (fallbackCards resolver request).AtMost kind n) (joined : List JoinedCard)
    (status : JoinStatus) (lag : Option ℕ) : (resolveJoined resolver request joined status lag).AtMost kind n := by
  unfold resolveJoined
  dsimp only
  split
  · refine fallback.free_bind fun found => ?_
    cases found with
    | error code => trivial
    | ok found =>
        dsimp only
        split <;> trivial
  · trivial

include only in
/-- The graph is searched at most once, and the vectors are. -/
theorem resolveQuery_atMost {g : ℕ}
    (graph : ∀ brainId query limit asOf, (kind (.searchContext brainId query limit asOf)).toNat ≤ g)
    (fallback : (fallbackCards resolver request).AtMost kind n) :
    (resolveQuery resolver request clock).AtMost kind (g + n) := by
  have search : (searchGraph resolver request).AtMost kind g := by
    unfold searchGraph
    split
    · trivial
    · refine (Prog.atMost_request (graph ..)).free_bind fun reply => ?_
      cases reply <;> trivial
  have join (episodes : List FoundEpisode) : (joinGraph resolver request clock episodes).AtMost kind 0 := by
    unfold joinGraph
    dsimp only
    split
    · trivial
    · exact Prog.AtMost.bind_free (Prog.atMost_request_free (only.cards _)) fun _ => trivial
  refine search.bind fun found => ?_
  refine Prog.AtMost.bind_free (Prog.atMost_request_free (only.health ..)) fun reply => ?_
  cases reply with
  | error e => trivial
  | ok health =>
      dsimp only
      split
      · exact resolveFallback_atMost fallback _ _
      · refine (join _).bind_free fun answered => ?_
        obtain ⟨joined?, status⟩ := answered
        cases joined? with
        | none => trivial
        | some joined =>
            dsimp only
            split
            · exact resolveLagging_atMost fallback joined status _
            · exact resolveJoined_atMost fallback joined status _

def ReadCall.searchesGraph {β : Type} : ReadCall V β → Bool
  | .searchContext .. => true
  | _ => false

def ReadCall.searchesVectors {β : Type} : ReadCall V β → Bool
  | .hybridSearch .. => true
  | _ => false

theorem resolveQuery_searchesGraph : (resolveQuery resolver request clock).AtMost ReadCall.searchesGraph 1 := by
  have only : OnlySearches (V := V) ReadCall.searchesGraph := ⟨fun _ _ _ => rfl, fun _ => rfl, fun _ _ _ => rfl⟩
  exact resolveQuery_atMost only (fun _ _ _ _ => le_rfl) (fallbackCards_atMost only fun _ _ _ _ _ _ => le_rfl)

theorem resolveQuery_searchesVectors : (resolveQuery resolver request clock).AtMost ReadCall.searchesVectors 1 := by
  have only : OnlySearches (V := V) ReadCall.searchesVectors := ⟨fun _ _ _ => rfl, fun _ => rfl, fun _ _ _ => rfl⟩
  exact resolveQuery_atMost only (fun _ _ _ _ => le_rfl) (fallbackCards_atMost only fun _ _ _ _ _ _ => le_rfl)

end Provenance

/-! ## Among all that goes on -/

section Interleaved

variable {σ V ι : Type} [DecidableEq ι]

/-- What the resolver reads in a state of the system. -/
structure Readings (σ V : Type) where
  db : σ → Db
  now : σ → Int
  createdAt : σ → GraphJob → Int
  /-- what every read of the store raises while it is out of reach -/
  outage : σ → Option PyError
  searchContext : σ → String → String → ℕ → Option Int → Except PyError GraphResult
  hybridSearch : σ → String → V → String → ℕ → Option Int → Bool → Except PyError (List RankedCard)
  searchSessionChunks : σ → V → String → ℕ → Except PyError (List FoundChunk)

/-- A read of the store. -/
def Readings.store {α : Type} (readings : Readings σ V) (s : σ) (read : Except PyError α) : Except PyError α :=
  match readings.outage s with
  | some e => .error e
  | none => read

def Readings.reply (readings : Readings σ V) (lib : Library) (s : σ) : {β : Type} → ReadCall V β → β
  | _, .searchContext brainId query limit asOf => readings.searchContext s brainId query limit asOf
  | _, .graphProjectionHealth project asOf stewardOnly =>
      readings.store s (GraphProjection.graphProjectionHealth lib project asOf stewardOnly (readings.now s)
        (readings.now s) (readings.createdAt s) (readings.db s))
  | _, .listAuthorizedCards q => readings.store s (listAuthorizedCards lib q (readings.now s) (readings.db s))
  | _, .hybridSearch project vector query limit asOf stewardOnly =>
      readings.store s (readings.hybridSearch s project vector query limit asOf stewardOnly)
  | _, .searchSessionChunks vector project limit =>
      readings.store s (readings.searchSessionChunks s vector project limit)

/-- A call of a resolver, or whatever another program does in one step. -/
inductive SystemCall (σ V : Type) (β : Type) where
  | read (c : ReadCall V β)
  | other (act : σ → β × σ)

def SystemCall.isRead (kind : {β : Type} → ReadCall V β → Bool) {β : Type} : SystemCall σ V β → Bool
  | .read c => kind c
  | .other _ => false

def SystemCall.exec (readings : Readings σ V) (lib : Library) {β : Type} : SystemCall σ V β → σ → β × σ
  | .read c, s => (readings.reply lib s c, s)
  | .other act, s => act s

/-- The reader itself made the read in the run, and this was its reply. -/
def Readings.Told (readings : Readings σ V) (lib : Library) (pool : Pool (SystemCall σ V) PyError Answer σ ι)
    (schedule : List ι) (reader : ι) {β : Type} (c : ReadCall V β) (reply : β) : Prop :=
  Prog.Had (pool.exchanges (SystemCall.exec readings lib) reader schedule) (.read c) reply

variable {readings : Readings σ V} {resolver : Resolver V} {request : ResolveRequest} {clock : Int}

variable {pool : Pool (SystemCall σ V) PyError Answer σ ι} {schedule : List ι} {reader : ι}

/-- What the reader has come to, it was led to by what it has been told. -/
theorem answer_sound (asked : pool.clients reader = (resolveQuery resolver request clock).lift .read) {answer : Answer}
    (ended : (pool.run (SystemCall.exec readings resolver.lib) schedule).clients reader = .done answer) :
    answer.Sound (readings.Told resolver.lib pool schedule reader) resolver request clock := by
  have led := Pool.leads_of_done ended
  rw [asked, Prog.leads_lift] at led
  exact resolveQuery_leads led

/-- Of each kind of search the reader has one reply. -/
theorem told_once {kind : {β : Type} → ReadCall V β → Bool}
    (once : (resolveQuery resolver request clock).AtMost kind 1)
    (asked : pool.clients reader = (resolveQuery resolver request clock).lift .read) {β : Type} {c c' : ReadCall V β}
    {reply reply' : β} (told : readings.Told resolver.lib pool schedule reader c reply)
    (told' : readings.Told resolver.lib pool schedule reader c' reply') (own : kind c) (own' : kind c') :
    reply = reply' := by
  have once : (pool.clients reader).AtMost (SystemCall.isRead kind) 1 := by
    rw [asked]
    exact Prog.atMost_lift.mpr once
  have same := Pool.exchange_unique once told told' own own'
  cases same
  rfl

/-- However a query takes turns with programs that change the cards, the graph and the vectors, and
    whichever of its sources are out of reach: each authority card of its answer was an authority of
    the project in a state of that run, and a search of its own proposed it with the content that it is
    answered with; and no two of these cards have one id. -/
theorem query_answers_authorized (asked : pool.clients reader = (resolveQuery resolver request clock).lift .read)
    {cards : List AnsweredCard} {metadata : Metadata} {errorCode : Option FallbackError}
    (ended : (pool.run (SystemCall.exec readings resolver.lib) schedule).clients reader =
      .done (.cards cards metadata errorCode)) :
    let states := pool.states (SystemCall.exec readings resolver.lib) schedule
    ((authorityRows cards).map (·.memoryId)).Nodup ∧
      ∀ row ∈ authorityRows cards,
        (∃ s ∈ states, Admitted resolver.lib request.project request.asOf (readings.now s) (readings.db s) row) ∧
        Proposed (readings.Told resolver.lib pool schedule reader) resolver request clock
          ⟨row.memoryId, row.contentHash⟩ := by
  intro states
  obtain ⟨vouched, -⟩ := answer_sound asked ended
  refine ⟨vouched.distinct, fun row mem => ⟨?_, vouched.proposed row mem⟩⟩
  obtain ⟨ids, rows, told, listed⟩ := vouched.confirmed row mem
  obtain ⟨s, here, read⟩ := Pool.given_of_had told
  refine ⟨s, here, ?_⟩
  change readings.store s _ = _ at read
  unfold Readings.store at read
  split at read
  · cases read
  · exact (admitted_of_read read listed).1

/-- An answer without an error that counts as verified leaves out nothing that its searches have proposed:
    where the graph is used it has been searched, and each source that was found names a card of the
    answer; where the fallback is used the vectors have been searched, and each relevant hit has a card
    of the answer; whatever else happens between the reads. -/
theorem verified_answer_complete (asked : pool.clients reader = (resolveQuery resolver request clock).lift .read)
    {cards : List AnsweredCard} {metadata : Metadata}
    (ended : (pool.run (SystemCall.exec readings resolver.lib) schedule).clients reader =
      .done (.cards cards metadata none))
    (verified : metadata.authorityJoinStatus = .verified) :
    let told {β : Type} (c : ReadCall V β) (reply : β) : Prop := readings.Told resolver.lib pool schedule reader c reply
    (metadata.graphStatus = .available ∨ metadata.graphStatus = .projectionLag →
        (∃ result, SearchedGraph told request result) ∧
          ∀ result, SearchedGraph told request result → CoversSources resolver request clock cards result) ∧
      (metadata.fallbackUsed = true →
        (∃ ranked, Ranked told resolver request ranked) ∧
          ∀ ranked, Ranked told resolver request ranked → CoversHits cards ranked) := by
  intro told
  obtain ⟨graph, hits⟩ := (answer_sound asked ended).2 rfl verified
  refine ⟨fun used => ?_, fun used => ?_⟩
  · obtain ⟨result, searched, covers⟩ := graph used
    refine ⟨⟨result, searched⟩, fun result' searched' => ?_⟩
    have same := told_once resolveQuery_searchesGraph asked searched searched' rfl rfl
    exact Except.ok.inj same ▸ covers
  · obtain ⟨ranked, searched, covers⟩ := hits used
    refine ⟨⟨ranked, searched⟩, fun ranked' searched' => ?_⟩
    obtain ⟨vector, -, found, told₁, rfl⟩ := searched
    obtain ⟨vector', -, found', told₂, rfl⟩ := searched'
    have same := told_once resolveQuery_searchesVectors asked told₁ told₂ rfl rfl
    exact Except.ok.inj same ▸ covers

/-! ### A query whose cards are deleted behind it -/

def agedReadings : Readings Db Unit where
  db s := s
  now _ := agedNow
  createdAt _ _ := 0
  outage _ := none
  searchContext _ _ _ _ _ := .ok ⟨"available", agedEpisodes⟩
  hybridSearch _ _ _ _ _ _ _ := .ok []
  searchSessionChunks _ _ _ _ := .ok []

def agedResolver : Resolver Unit where
  lib := referenceLibrary
  embedQuery := none
  hasGraph := true
  hasSessionChunks := false
  safe text _ := text

def agedQuestion : ResolveRequest where
  toListRequest := { agedRequest 5 (by decide) none with query := "store" }
  context := false
  withEvidence := false
  asked := by decide
  oneMode := by decide

/-- The reader, and a client that empties the table. -/
def agedClients : Bool → Prog (SystemCall Db Unit) PyError Answer
  | true => (resolveQuery agedResolver agedQuestion agedNow).lift .read
  | false => .call (.other fun _ => ((), Db.empty)) fun _ => .fail (.valueError "")

def agedMetadata : Metadata := ⟨.graphNeo4j, .projectionLag, .mismatch, false, none, false⟩

theorem agedClients_ended : (Pool.run (SystemCall.exec agedReadings referenceLibrary) ⟨agedClients, agedDb⟩
    [true, true, true, false]).clients true =
      .done (.cards [.authority ⟨agedCard "mem:1", false, false⟩] agedMetadata (some .embeddingUnavailable)) := by
  rfl

theorem query_answers_authorized_aged :
    ∃ s ∈ Pool.states (SystemCall.exec agedReadings referenceLibrary) ⟨agedClients, agedDb⟩ [true, true, true, false],
      Admitted referenceLibrary "neurons" none agedNow s (agedCard "mem:1") := by
  have asked : (⟨agedClients, agedDb⟩ : Pool (SystemCall Db Unit) PyError Answer Db Bool).clients true =
      (resolveQuery agedResolver agedQuestion agedNow).lift .read := rfl
  have answers := query_answers_authorized asked agedClients_ended
  exact (answers.2 _ (List.mem_singleton_self _)).1

/-! ### A query that a search of each kind answers -/

/-- Both indexes name a card as it is. -/
def currentReadings : Readings Db Unit :=
  { agedReadings with
    searchContext _ _ _ _ _ := .ok ⟨"available", agedEpisodes.take 1⟩
    hybridSearch _ _ _ _ _ _ _ := .ok [{
      memoryId := "mem:2"
      contentHash := "sha256:1"
      title := "store"
      summary := ""
      cardType := "decision"
      typedPayload := .null
      near := true }] }

def currentResolver : Resolver Unit := { agedResolver with embedQuery := some fun _ => .ok () }

def currentClients : Bool → Prog (SystemCall Db Unit) PyError Answer
  | true => (resolveQuery currentResolver agedQuestion agedNow).lift .read
  | false => .call (.other fun _ => ((), Db.empty)) fun _ => .fail (.valueError "")

def currentSchedule : List Bool := [true, true, true, true, true, false]

theorem currentClients_ended : (Pool.run (SystemCall.exec currentReadings referenceLibrary) ⟨currentClients, agedDb⟩
    currentSchedule).clients true =
      .done (.cards (["mem:1", "mem:2"].map fun id => .authority ⟨agedCard id, false, false⟩)
        ⟨.graphNeo4j, .projectionLag, .verified, true, none, false⟩ none) := by
  rfl

theorem verified_answer_complete_current :
    let told {β : Type} (c : ReadCall Unit β) (reply : β) : Prop :=
      currentReadings.Told referenceLibrary ⟨currentClients, agedDb⟩ currentSchedule true c reply
    let cards : List AnsweredCard := ["mem:1", "mem:2"].map fun id => .authority ⟨agedCard id, false, false⟩
    (∃ result, SearchedGraph told agedQuestion result ∧
        CoversSources currentResolver agedQuestion agedNow cards result) ∧
      ∃ ranked, Ranked told currentResolver agedQuestion ranked ∧ CoversHits cards ranked := by
  have asked : (⟨currentClients, agedDb⟩ : Pool (SystemCall Db Unit) PyError Answer Db Bool).clients true =
      (resolveQuery currentResolver agedQuestion agedNow).lift .read := rfl
  obtain ⟨graph, hits⟩ := verified_answer_complete asked currentClients_ended rfl
  obtain ⟨⟨result, searched⟩, sources⟩ := graph (.inr rfl)
  obtain ⟨⟨ranked, found⟩, covers⟩ := hits rfl
  exact ⟨⟨result, searched, sources result searched⟩, ranked, found, covers ranked found⟩

end Interleaved

end Neurons.Graph
