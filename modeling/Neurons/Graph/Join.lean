import Neurons.Graph.Episode
import Neurons.Lib.VerifiedJoin
import Neurons.Steward.Pages
import Neurons.Steward.ProjectionHealth
import Neurons.Steward.Trimming

/-! # Joining the graph to the cards

`_join_graph_candidates` (`graph_first_resolver.py`): the graph only says which cards may answer a
query. A card is answered with as the authority has it, and only where it still has the content
that the graph was given.
-/

namespace Neurons.Graph

open Neurons.Lib
open Neurons.Source
open Neurons.Steward

/-! ## What the graph says -/

/-- An episode that a search of the graph found; a payload that is no mapping counts as empty. -/
structure FoundEpisode where
  entityType : String
  payload : Doc
  validFrom : String
  validTo : String
  currentness : String
  deriving DecidableEq

/-- An episode as the graph gives it back. -/
def OntologyEpisode.found (episode : OntologyEpisode) : FoundEpisode :=
  ⟨episode.entityType, episode.payload, episode.validFrom, episode.validTo, episode.currentness⟩

/-- `_CARD_LIMIT` -/
def cardLimit : ℕ := 100

def nonCardEntityTypes : List String := ["Session", "SourceRef", "LocalEvidenceEdge"]

section Candidates

variable (lib : Library)

/-- `_fact_valid_at`; a time without a timezone cannot be compared. -/
def factValidAt (episode : FoundEpisode) (instant : Int) : Bool :=
  let time (text : String) : Option Int :=
    if lib.awareTime (replaceZulu text) then lib.py.fromisoformat (replaceZulu text) else none
  (episode.validFrom = "" ∨ ∃ start ∈ time episode.validFrom, start ≤ instant) ∧
    (episode.validTo = "" ∨ ∃ stop ∈ time episode.validTo, instant < stop)

def mappingOf (v : Json) : Doc := (Doc.ofJson? v).getD ∅

/-- The mappings of an episode that may name a card: the payload itself, or the sources of a fact. -/
def FoundEpisode.sources (episode : FoundEpisode) (instant : Int) : List Doc :=
  if episode.entityType = "GraphFact" then
    if factValidAt lib episode instant = false then []
    else
      match Dict.get? episode.payload (.other "authority_sources") with
      | some (.arr (first :: rest)) => ((first :: rest).map mappingOf).take cardLimit
      | _ =>
          match Dict.get? episode.payload (.other "source_entity_types") with
          | some (.arr (first :: rest)) =>
              if ∀ v ∈ first :: rest, v.text ∈ nonCardEntityTypes then [] else [∅]
          | _ => [∅]
  else if episode.entityType ∈ nonCardEntityTypes then []
  else [episode.payload]

/-- The times and the currentness that the graph gives a card. -/
structure GraphTemporal where
  validFrom : Json
  validTo : Json
  currentness : Json
  deriving DecidableEq

def graphTemporal (episode : FoundEpisode) (source : Doc) : GraphTemporal :=
  let read (f : Field) (told : String) : Json :=
    (source.get? f).getD ((episode.payload.get? f).getD (.str told))
  ⟨read .validFrom episode.validFrom, read .validTo episode.validTo, read .currentness episode.currentness⟩

/-- The keys that the graph names, the cards they are about, and whether a source names none. -/
structure Candidates where
  claims : List (String × String)
  named : List (String × GraphTemporal)
  sawMissing : Bool

def Candidates.ids (c : Candidates) : List String := c.named.map Prod.fst

/-- One source more; at most a hundred cards are looked up. -/
def Candidates.add (c : Candidates) (entry : FoundEpisode × Doc) : Candidates :=
  match authorityKey? entry.2 with
  | none => { c with sawMissing := true }
  | some key =>
      if key.memoryId ∈ c.ids then { c with claims := c.claims ++ [(key.memoryId, key.contentHash)] }
      else if cardLimit ≤ c.ids.length then c
      else { c with
        claims := c.claims ++ [(key.memoryId, key.contentHash)]
        named := c.named ++ [(key.memoryId, graphTemporal entry.1 entry.2)] }

/-- The sources of all episodes, in their order. -/
def allSources (instant : Int) (episodes : List FoundEpisode) : List (FoundEpisode × Doc) :=
  episodes.flatMap fun episode => (episode.sources lib instant).map fun source => (episode, source)

def candidatesOf (instant : Int) (episodes : List FoundEpisode) : Candidates :=
  (allSources lib instant episodes).foldl Candidates.add ⟨[], [], false⟩

/-! ## The join -/

inductive JoinStatus where
  | verified | mismatch | unavailable
  deriving DecidableEq, Repr

/-- A card of an answer, with the flags that are written into it. -/
structure JoinedCard where
  row : CardRow
  /-- `authority_source` is `"postgres"` -/
  fromPostgres : Bool
  temporalConflict : Bool
  deriving DecidableEq

/-- `_parse_temporal_instant` of a value of the graph. -/
def parseTemporalInstant : Json → Option Int
  | .str s => if strip s = "" then none else lib.py.fromisoformat (replaceZulu (strip s))
  | _ => none

/-- `_temporal_instants_differ` between a value of the graph and a column. -/
def temporalInstantsDiffer (v : Json) (column : Option Int) : Bool :=
  match parseTemporalInstant lib v, column with
  | some a, some b => second < (a - b).natAbs
  | some _, none | none, some _ => true
  | none, none => v ≠ .null ∧ strip v.text ≠ ""

/-- The graph gives the card other times or another currentness than its row. -/
def GraphTemporal.conflicts (given : GraphTemporal) (row : CardRow) : Bool :=
  if given.validFrom ∉ [.null, .str ""] ∧ temporalInstantsDiffer lib given.validFrom (some row.validFrom) then true
  else if given.validTo ∉ [.null, .str ""] ∧ temporalInstantsDiffer lib given.validTo row.validTo then true
  else if given.currentness ∉ [.null, .str "", .str "unknown"] then
    let text := lower (strip (if given.currentness.truthy then given.currentness.text else ""))
    text ≠ "" ∧ text ≠ lower (strip row.currentnessText)
  else false

def joinedCard (c : Candidates) (row : CardRow) : JoinedCard where
  row := row
  fromPostgres := (c.named.find? (·.1 = row.memoryId)).any fun entry => entry.2.conflicts lib row
  temporalConflict := row.currentness = "conflicted"

/-- The read of the authority that a list of ids is joined to. -/
def authorityQuery (project : String) (asOf : Option Int) (ids : List String) : CardQuery where
  project := project
  memoryIds := some ids
  asOf := asOf
  limit := cardLimit
  afterMemoryId := none
  stewardOnly := true

/-- The card of an id; of two with one id the later one. -/
def cardById (cards : List CardRow) (id : String) : Option CardRow := cards.reverse.find? (·.memoryId = id)

/-- The cards of a join and its status, from what the authority answers; no cards where it raises. -/
def joinedCandidates (c : Candidates) (authorized : Except PyError (List CardRow)) :
    Option (List JoinedCard) × JoinStatus :=
  match authorized with
  | .error _ => (none, .unavailable)
  | .ok cards =>
      let joined := verifiedJoin (cardById cards) CardRow.contentHash c.claims
      (some (joined.records.map fun record => joinedCard lib c record.2),
        if joined.refuted then .mismatch else if c.sawMissing then .unavailable else .verified)

/-- `_join_graph_candidates`, for a clock and a table of cards. -/
def joinGraphCandidates (project : String) (asOf : Option Int) (clock now : Int) (episodes : List FoundEpisode)
    (db : Db) : Option (List JoinedCard) × JoinStatus :=
  let c := candidatesOf lib (asOf.getD clock) episodes
  if c.ids = [] then (some [], if c.sawMissing then .unavailable else .verified)
  else joinedCandidates lib c (listAuthorizedCards lib (authorityQuery project asOf c.ids) now db)

end Candidates

/-! ## What a read of the authority answers -/

section Authority

variable {lib : Library} {project : String} {asOf : Option Int} {ids : List String} {now : Int} {db : Db}
  {cards : List CardRow}

/-- The card is an authority of the project at the instant of the request. -/
def Admitted (lib : Library) (project : String) (asOf : Option Int) (now : Int) (db : Db) (row : CardRow) : Prop :=
  (∃ id, db.cards.get? id = some row) ∧ stewardOnlyFilter row ∧ authorityFilter lib project asOf now row = .ok true

theorem listAuthorizedCards_eq_ok {q : CardQuery} (read : listAuthorizedCards lib q now db = .ok cards) :
    ∃ all, (db.cards.entries.map Prod.snd).filterM (q.admits lib now) = .ok all ∧ cards = all.take q.limit := by
  simp only [listAuthorizedCards, bind_eq_ok, pure_eq_ok, Except.ok.injEq] at read
  obtain ⟨_, _, all, filtered, rfl⟩ := read
  exact ⟨all, filtered, rfl⟩

theorem admits_authorityQuery {row : CardRow} :
    (authorityQuery project asOf ids).admits lib now row = .ok true ↔
      row.memoryId ∈ ids.take 100 ∧ stewardOnlyFilter row ∧ authorityFilter lib project asOf now row = .ok true := by
  unfold CardQuery.admits
  by_cases selected : (authorityQuery project asOf ids).Selects row.memoryId ∧
      ((authorityQuery project asOf ids).stewardOnly → stewardOnlyFilter row)
  · rw [if_pos selected]
    simp only [CardQuery.Selects, authorityQuery, Option.mem_def, Option.some.injEq, forall_eq', reduceCtorEq,
      false_implies, implies_true, and_true, forall_const] at selected ⊢
    exact ⟨fun passes => ⟨selected.1, selected.2, passes⟩, fun whole => whole.2.2⟩
  · rw [if_neg selected]
    simp only [CardQuery.Selects, authorityQuery, Option.mem_def, Option.some.injEq, forall_eq', reduceCtorEq,
      false_implies, implies_true, and_true, forall_const] at selected
    simp only [Except.ok.injEq, Bool.false_eq_true, false_iff]
    exact fun whole => selected ⟨whole.1, whole.2.1⟩

/-- A card that is answered is an authority, and its id was asked for. -/
theorem admitted_of_read (read : listAuthorizedCards lib (authorityQuery project asOf ids) now db = .ok cards)
    {row : CardRow} (mem : row ∈ cards) : Admitted lib project asOf now db row ∧ row.memoryId ∈ ids := by
  obtain ⟨all, filtered, rfl⟩ := listAuthorizedCards_eq_ok read
  obtain ⟨stored, passes⟩ := mem_of_filterM filtered (List.mem_of_mem_take mem)
  obtain ⟨⟨id, row⟩, entry, rfl⟩ := List.mem_map.mp stored
  obtain ⟨asked, steward, authority⟩ := admits_authorityQuery.mp passes
  exact ⟨⟨⟨id, Dict.mem_entries_iff.mp entry⟩, steward, authority⟩, List.mem_of_mem_take asked⟩

/-- Every authority whose id is asked for is answered, as long as no more ids are asked for than are looked up. -/
theorem read_of_admitted (keyed : db.Keyed) (few : ids.length ≤ cardLimit)
    (read : listAuthorizedCards lib (authorityQuery project asOf ids) now db = .ok cards)
    {row : CardRow} (admitted : Admitted lib project asOf now db row) (asked : row.memoryId ∈ ids) : row ∈ cards := by
  obtain ⟨all, filtered, rfl⟩ := listAuthorizedCards_eq_ok read
  obtain ⟨⟨id, found⟩, steward, authority⟩ := admitted
  have distinct : (all.map (·.memoryId)).Nodup := by
    have keys : (db.cards.entries.map Prod.snd).map (·.memoryId) = db.cards.entries.map Prod.fst := by
      rw [List.map_map]
      exact List.map_congr_left fun entry mem => (keyed _ _ (Dict.mem_entries_iff.mp mem)).1
    have nodup := db.cards.nodup
    rw [← keys] at nodup
    exact nodup.sublist ((filterM_sublist filtered).map _)
  have within : (all.map (·.memoryId)) ⊆ ids := by
    intro other mem
    obtain ⟨stored, listed, rfl⟩ := List.mem_map.mp mem
    exact List.mem_of_mem_take (admits_authorityQuery.mp (mem_of_filterM filtered listed).2).1
  have size : all.length ≤ cardLimit := by
    have short := (List.subperm_of_subset distinct within).length_le
    rw [List.length_map] at short
    omega
  rw [show (authorityQuery project asOf ids).limit = cardLimit from rfl, List.take_of_length_le size]
  apply GraphProjection.mem_filterM filtered (List.mem_map.mpr ⟨(id, row), Dict.mem_entries_iff.mpr found, rfl⟩)
  exact admits_authorityQuery.mpr ⟨by rwa [show ids.take 100 = ids from List.take_of_length_le few], steward, authority⟩

theorem cardById_eq_some {id : String} {row : CardRow} (found : cardById cards id = some row) :
    row ∈ cards ∧ row.memoryId = id := by
  have passes := List.find?_some found
  exact ⟨List.mem_reverse.mp (List.mem_of_find?_eq_some found), by simpa using passes⟩

end Authority

/-! ## What the candidates are -/

section Named

variable {lib : Library} {instant : Int} {episodes : List FoundEpisode}

/-- What has been collected from some sources. -/
structure Candidates.Collects (sources : List (FoundEpisode × Doc)) (c : Candidates) : Prop where
  distinct : c.ids.Nodup
  bounded : c.ids.length ≤ cardLimit
  claimed : ∀ claim ∈ c.claims, (∃ entry ∈ sources, authorityKey? entry.2 = some ⟨claim.1, claim.2⟩) ∧ claim.1 ∈ c.ids
  missing : c.sawMissing = true ↔ ∃ entry ∈ sources, authorityKey? entry.2 = none
  whole : c.ids.length < cardLimit → ∀ entry ∈ sources, ∀ key ∈ authorityKey? entry.2,
    (key.memoryId, key.contentHash) ∈ c.claims
  named : ∀ id ∈ c.ids, ∃ claim ∈ c.claims, claim.1 = id

section Add

variable {sources : List (FoundEpisode × Doc)} {c : Candidates} {entry : FoundEpisode × Doc} {key : AuthorityKey}

theorem Candidates.Collects.claimed_append (collects : c.Collects sources) (entry : FoundEpisode × Doc)
    {claim : String × String} (mem : claim ∈ c.claims) :
    (∃ other ∈ sources ++ [entry], authorityKey? other.2 = some ⟨claim.1, claim.2⟩) ∧ claim.1 ∈ c.ids := by
  obtain ⟨⟨other, listed, named⟩, known⟩ := collects.claimed claim mem
  exact ⟨⟨other, List.mem_append_left _ listed, named⟩, known⟩

theorem Candidates.Collects.missing_append (collects : c.Collects sources) (named : authorityKey? entry.2 = some key) :
    c.sawMissing = true ↔ ∃ other ∈ sources ++ [entry], authorityKey? other.2 = none := by
  rw [collects.missing]
  simp [named]

theorem Candidates.Collects.named_append (collects : c.Collects sources) (later : List (String × String)) {id : String}
    (mem : id ∈ c.ids) : ∃ claim ∈ c.claims ++ later, claim.1 = id := by
  obtain ⟨claim, listed, same⟩ := collects.named id mem
  exact ⟨claim, List.mem_append_left _ listed, same⟩

/-- One source more that names no card. -/
theorem Candidates.Collects.unkeyed (collects : c.Collects sources) (unnamed : authorityKey? entry.2 = none) :
    ({ c with sawMissing := true } : Candidates).Collects (sources ++ [entry]) where
  distinct := collects.distinct
  bounded := collects.bounded
  claimed claim mem := collects.claimed_append entry mem
  missing := by
    simp only [true_iff]
    exact ⟨entry, by simp, unnamed⟩
  whole room other mem key given := by
    rcases List.mem_append.mp mem with before | last
    · exact collects.whole room other before key given
    · rw [List.mem_singleton.mp last, unnamed] at given
      cases given
  named := collects.named

/-- One source more for a card that is looked up already. -/
theorem Candidates.Collects.known (collects : c.Collects sources) (named : authorityKey? entry.2 = some key)
    (mem : key.memoryId ∈ c.ids) :
    ({ c with claims := c.claims ++ [(key.memoryId, key.contentHash)] } : Candidates).Collects
      (sources ++ [entry]) where
  distinct := collects.distinct
  bounded := collects.bounded
  claimed claim claimed := by
    rcases List.mem_append.mp claimed with before | last
    · exact collects.claimed_append entry before
    · cases List.mem_singleton.mp last
      exact ⟨⟨entry, by simp, named⟩, mem⟩
  missing := collects.missing_append named
  whole room other listed key' given := by
    rcases List.mem_append.mp listed with before | last
    · exact List.mem_append_left _ (collects.whole room other before key' given)
    · rw [List.mem_singleton.mp last, named] at given
      cases given
      exact List.mem_append_right _ (List.mem_singleton_self _)
  named id listed := collects.named_append _ listed

/-- One source more where no further card is looked up. -/
theorem Candidates.Collects.full (collects : c.Collects sources) (named : authorityKey? entry.2 = some key)
    (full : cardLimit ≤ c.ids.length) : c.Collects (sources ++ [entry]) where
  distinct := collects.distinct
  bounded := collects.bounded
  claimed claim mem := collects.claimed_append entry mem
  missing := collects.missing_append named
  whole room := absurd room (by omega)
  named := collects.named

/-- One source more for a card that is new. -/
theorem Candidates.Collects.fresh (collects : c.Collects sources) (named : authorityKey? entry.2 = some key)
    (fresh : key.memoryId ∉ c.ids) (room : c.ids.length < cardLimit) (temporal : GraphTemporal) :
    ({ c with
      claims := c.claims ++ [(key.memoryId, key.contentHash)]
      named := c.named ++ [(key.memoryId, temporal)] } : Candidates).Collects (sources ++ [entry]) := by
  have ids : (c.named ++ [(key.memoryId, temporal)]).map Prod.fst = c.ids ++ [key.memoryId] := by
    simp [Candidates.ids]
  refine ⟨?_, ?_, fun claim mem => ?_, collects.missing_append named, fun left other mem key' given => ?_,
    fun id mem => ?_⟩
  · rw [Candidates.ids, ids, List.nodup_append]
    refine ⟨collects.distinct, List.nodup_singleton _, fun id mem id' single => ?_⟩
    rw [List.mem_singleton.mp single]
    rintro rfl
    exact fresh mem
  · rw [Candidates.ids, ids, List.length_append, List.length_singleton]
    omega
  · rw [Candidates.ids, ids]
    rcases List.mem_append.mp mem with before | last
    · obtain ⟨held, listed⟩ := collects.claimed_append entry before
      exact ⟨held, List.mem_append_left _ listed⟩
    · cases List.mem_singleton.mp last
      exact ⟨⟨entry, by simp, named⟩, List.mem_append_right _ (List.mem_singleton_self _)⟩
  · rcases List.mem_append.mp mem with before | last
    · exact List.mem_append_left _ (collects.whole room other before key' given)
    · rw [List.mem_singleton.mp last, named] at given
      cases given
      exact List.mem_append_right _ (List.mem_singleton_self _)
  · rw [Candidates.ids, ids] at mem
    rcases List.mem_append.mp mem with before | last
    · exact collects.named_append _ before
    · exact ⟨_, List.mem_append_right _ (List.mem_singleton_self _), (List.mem_singleton.mp last).symm⟩

theorem Candidates.Collects.add (collects : c.Collects sources) (entry : FoundEpisode × Doc) :
    (c.add entry).Collects (sources ++ [entry]) := by
  unfold Candidates.add
  cases named : authorityKey? entry.2 with
  | none => exact collects.unkeyed named
  | some key =>
      dsimp only
      split
      · next known => exact collects.known named known
      · next fresh =>
          split
          · next full => exact collects.full named full
          · next room => exact collects.fresh named fresh (by omega) _

end Add

/-- Where no source was found missing, each names a key. -/
theorem Candidates.Collects.keyed {sources : List (FoundEpisode × Doc)} {c : Candidates} (collects : c.Collects sources)
    (present : c.sawMissing = false) {entry : FoundEpisode × Doc} (mem : entry ∈ sources) :
    ∃ key, authorityKey? entry.2 = some key := by
  cases named : authorityKey? entry.2 with
  | some key => exact ⟨key, rfl⟩
  | none =>
      have told := collects.missing.mpr ⟨entry, mem, named⟩
      simp [present] at told

/-- Where no card is looked up, no source names a key. -/
theorem Candidates.Collects.unnamed {sources : List (FoundEpisode × Doc)} {c : Candidates} (collects : c.Collects sources)
    (none_ : c.ids = []) {entry : FoundEpisode × Doc} (mem : entry ∈ sources) : authorityKey? entry.2 = none := by
  cases named : authorityKey? entry.2 with
  | none => rfl
  | some key =>
      have room : c.ids.length < cardLimit := by
        rw [none_]
        decide
      have known := (collects.claimed _ (collects.whole room entry mem key named)).2
      rw [none_] at known
      cases known

variable (lib instant episodes)

theorem candidatesOf_collects :
    (candidatesOf lib instant episodes).Collects (allSources lib instant episodes) := by
  suffices general : ∀ (rest first : List (FoundEpisode × Doc)) (c : Candidates), c.Collects first →
      (rest.foldl Candidates.add c).Collects (first ++ rest) from
    general _ [] _ ⟨List.nodup_nil, Nat.zero_le _, by simp, by simp, by simp, by simp [Candidates.ids]⟩
  intro rest
  induction rest with
  | nil =>
      intro first c collects
      rwa [List.append_nil]
  | cons entry rest ih =>
      intro first c collects
      have next := ih (first ++ [entry]) (c.add entry) (collects.add entry)
      rwa [List.append_assoc] at next

end Named

/-! ## The graph proposes, the authority decides -/

section Joined

variable {lib : Library} {project : String} {asOf : Option Int} {clock now : Int} {episodes : List FoundEpisode} {db : Db}

/-- A key that the graph names. -/
def Names (lib : Library) (instant : Int) (episodes : List FoundEpisode) (key : AuthorityKey) : Prop :=
  ∃ entry ∈ allSources lib instant episodes, authorityKey? entry.2 = some key

theorem joinedCandidates_spec {c : Candidates} {read : Except PyError (List CardRow)} {cards : List JoinedCard}
    {status : JoinStatus} (joined : joinedCandidates lib c read = (some cards, status)) :
    ∃ rows, read = .ok rows ∧ (cards.map (·.row.memoryId)).Nodup ∧
      (∀ card ∈ cards, cardById rows card.row.memoryId = some card.row ∧
        (card.row.memoryId, card.row.contentHash) ∈ c.claims) ∧
      (∀ id row, cardById rows id = some row → (id, row.contentHash) ∈ c.claims →
        joinedCard lib c row ∈ cards) ∧
      (status = .verified ↔ c.sawMissing = false ∧
        ∀ claim ∈ c.claims, BornOut (cardById rows) CardRow.contentHash claim) := by
  cases read with
  | error e => cases joined
  | ok rows =>
      obtain ⟨same, rfl⟩ := Prod.mk.inj joined
      cases same
      have joins := verifiedJoin_joins (cardById rows) CardRow.contentHash c.claims
      have own {id : String} {row : CardRow}
          (mem : (id, row) ∈ (verifiedJoin (cardById rows) CardRow.contentHash c.claims).records) :
          cardById rows id = some row ∧ row.memoryId = id := by
        have looked := ((joins.mem_iff id row).mp mem).1
        exact ⟨looked, (cardById_eq_some looked).2⟩
      refine ⟨rows, rfl, ?_, ?_, ?_, ?_⟩
      · rw [List.map_map]
        have ids : (verifiedJoin (cardById rows) CardRow.contentHash c.claims).records.map
            ((fun card : JoinedCard => card.row.memoryId) ∘ fun record => joinedCard lib c record.2) =
            (verifiedJoin (cardById rows) CardRow.contentHash c.claims).keys :=
          List.map_congr_left fun record mem => (own mem).2
        rw [ids]
        exact joins.distinct
      · intro card mem
        obtain ⟨⟨id, row⟩, record, rfl⟩ := List.mem_map.mp mem
        obtain ⟨looked, named⟩ := own record
        show cardById rows row.memoryId = some row ∧ (row.memoryId, row.contentHash) ∈ c.claims
        rw [named]
        exact ⟨looked, ((joins.mem_iff id row).mp record).2⟩
      · intro id row found claimed
        exact List.mem_map.mpr ⟨(id, row), (joins.mem_iff id row).mpr ⟨found, claimed⟩, rfl⟩
      · have refuted := joins.refuted_iff
        cases flag : (verifiedJoin (cardById rows) CardRow.contentHash c.claims).refuted with
        | true =>
            obtain ⟨claim, mem, false_⟩ := refuted.mp flag
            simp only [if_true, reduceCtorEq, false_iff, not_and]
            exact fun _ all => false_ (all claim mem)
        | false =>
            have all : ∀ claim ∈ c.claims, BornOut (cardById rows) CardRow.contentHash claim := by
              intro claim mem
              by_contra false_
              have told := refuted.mpr ⟨claim, mem, false_⟩
              simp [flag] at told
            cases missing : c.sawMissing with
            | true => simp
            | false => simpa using fun id hash mem => all (id, hash) mem

theorem not_names (none_ : (candidatesOf lib (asOf.getD clock) episodes).ids = [])
    (key : AuthorityKey) : ¬ Names lib (asOf.getD clock) episodes key := by
  rintro ⟨entry, mem, named⟩
  rw [(candidatesOf_collects lib (asOf.getD clock) episodes).unnamed none_ mem] at named
  cases named

section Answered

variable {cards : List JoinedCard} {status : JoinStatus}

/-- An answer is empty where the graph names no card, or else joined to what the authority answers. -/
theorem joinGraphCandidates_cases
    (answered : joinGraphCandidates lib project asOf clock now episodes db = (some cards, status)) :
    let c := candidatesOf lib (asOf.getD clock) episodes
    (c.ids = [] ∧ cards = [] ∧ (status = .verified ↔ c.sawMissing = false)) ∨
      joinedCandidates lib c (listAuthorizedCards lib (authorityQuery project asOf c.ids) now db) =
        (some cards, status) := by
  intro c
  unfold joinGraphCandidates at answered
  dsimp only at answered
  split at answered
  · next none_ =>
      obtain ⟨same, rfl⟩ := Prod.mk.inj answered
      cases same
      refine .inl ⟨none_, rfl, ?_⟩
      cases missing : c.sawMissing <;> simp [c, missing] at *
  · exact .inr answered

variable (answered : joinGraphCandidates lib project asOf clock now episodes db = (some cards, status))

include answered

theorem answered_distinct : (cards.map (·.row.memoryId)).Nodup := by
  rcases joinGraphCandidates_cases answered with ⟨-, rfl, -⟩ | joined
  · exact List.nodup_nil
  · obtain ⟨_, _, distinct, _⟩ := joinedCandidates_spec joined
    exact distinct

/-- Every card that is answered is an authority, with the content that the graph names it with. -/
theorem answered_sound {card : JoinedCard} (mem : card ∈ cards) : Admitted lib project asOf now db card.row ∧
    Names lib (asOf.getD clock) episodes ⟨card.row.memoryId, card.row.contentHash⟩ := by
  rcases joinGraphCandidates_cases answered with ⟨-, rfl, -⟩ | joined
  · cases mem
  · obtain ⟨rows, read, -, sound, -⟩ := joinedCandidates_spec joined
    obtain ⟨looked, claimed⟩ := sound card mem
    obtain ⟨entry, source, named⟩ := ((candidatesOf_collects lib (asOf.getD clock) episodes).claimed _ claimed).1
    exact ⟨(admitted_of_read read (cardById_eq_some looked).1).1, entry, source, named⟩

/-- No such card is left out while the graph names fewer cards than are looked up. -/
theorem answered_complete (keyed : db.Keyed)
    (room : (candidatesOf lib (asOf.getD clock) episodes).ids.length < cardLimit) {row : CardRow}
    (admitted : Admitted lib project asOf now db row)
    (named : Names lib (asOf.getD clock) episodes ⟨row.memoryId, row.contentHash⟩) : row ∈ cards.map (·.row) := by
  have collects := candidatesOf_collects lib (asOf.getD clock) episodes
  rcases joinGraphCandidates_cases answered with ⟨none_, -, -⟩ | joined
  · exact absurd named (not_names none_ _)
  · obtain ⟨rows, read, -, -, complete, -⟩ := joinedCandidates_spec joined
    obtain ⟨entry, mem, key⟩ := named
    have claimed := collects.whole room entry mem _ key
    have stored := read_of_admitted keyed collects.bounded read admitted (collects.claimed _ claimed).2
    have looked : cardById rows row.memoryId = some row := by
      cases shape : cardById rows row.memoryId with
      | none =>
          have missing := List.find?_eq_none.mp shape row (List.mem_reverse.mpr stored)
          simp at missing
      | some other =>
          obtain ⟨listed, same⟩ := cardById_eq_some shape
          obtain ⟨⟨id, here⟩, -⟩ := (admitted_of_read read listed).1
          obtain ⟨⟨id', here'⟩, -⟩ := admitted
          have first := (keyed id other here).1
          have second := (keyed id' row here').1
          have both : id = id' := by rw [← first, ← second, same]
          rw [both, here'] at here
          exact here.symm
    exact List.mem_map.mpr ⟨_, complete _ row looked claimed, rfl⟩

/-- A verified answer has a card for every source that the graph has found. -/
theorem answered_verified (verified : status = .verified) {entry : FoundEpisode × Doc}
    (mem : entry ∈ allSources lib (asOf.getD clock) episodes) :
    ∃ key, authorityKey? entry.2 = some key ∧
      ((candidatesOf lib (asOf.getD clock) episodes).ids.length < cardLimit →
        ∃ card ∈ cards, card.row.memoryId = key.memoryId ∧ card.row.contentHash = key.contentHash) := by
  have collects := candidatesOf_collects lib (asOf.getD clock) episodes
  rcases joinGraphCandidates_cases answered with ⟨none_, -, told⟩ | joined
  · obtain ⟨key, named⟩ := collects.keyed (told.mp verified) mem
    exact absurd ⟨entry, mem, named⟩ (not_names none_ key)
  · obtain ⟨rows, -, -, -, complete, told⟩ := joinedCandidates_spec joined
    obtain ⟨present, all⟩ := told.mp verified
    obtain ⟨key, named⟩ := collects.keyed present mem
    refine ⟨key, named, fun room => ?_⟩
    have claimed := collects.whole room entry mem key named
    obtain ⟨row, looked, hash⟩ := all _ claimed
    exact ⟨_, complete _ row looked (hash ▸ claimed), (cardById_eq_some looked).2, hash⟩

/-- An answer that has a card for every source is verified. -/
theorem verified_of_answered (all : ∀ entry ∈ allSources lib (asOf.getD clock) episodes,
    ∃ card ∈ cards, authorityKey? entry.2 = some ⟨card.row.memoryId, card.row.contentHash⟩) : status = .verified := by
  have collects := candidatesOf_collects lib (asOf.getD clock) episodes
  have present : (candidatesOf lib (asOf.getD clock) episodes).sawMissing = false := by
    by_contra missing
    obtain ⟨entry, mem, unnamed⟩ := collects.missing.mp (by simpa using missing)
    obtain ⟨card, -, named⟩ := all entry mem
    rw [unnamed] at named
    cases named
  rcases joinGraphCandidates_cases answered with ⟨-, -, told⟩ | joined
  · exact told.mpr present
  · obtain ⟨rows, -, -, sound, -, told⟩ := joinedCandidates_spec joined
    refine told.mpr ⟨present, fun claim claimed => ?_⟩
    obtain ⟨⟨entry, mem, named⟩, -⟩ := collects.claimed claim claimed
    obtain ⟨card, answers, named'⟩ := all entry mem
    rw [named, Option.some.injEq, AuthorityKey.mk.injEq] at named'
    obtain ⟨id, hash⟩ := named'
    refine ⟨card.row, ?_, hash.symm⟩
    rw [id]
    exact (sound card answers).1

end Answered

/-- Whatever the graph holds, a query is answered with cards that are an authority of the project at
    its instant and have the content that the graph names them with, each once; none of these is left
    out while the graph names fewer cards than are looked up; and the join counts as verified only
    where every source the graph has found names such a card. -/
theorem graph_answers_authorized (keyed : db.Keyed) {cards : List JoinedCard} {status : JoinStatus}
    (answered : joinGraphCandidates lib project asOf clock now episodes db = (some cards, status)) :
    (cards.map (·.row.memoryId)).Nodup ∧
      (∀ card ∈ cards, Admitted lib project asOf now db card.row ∧
        Names lib (asOf.getD clock) episodes ⟨card.row.memoryId, card.row.contentHash⟩) ∧
      ((candidatesOf lib (asOf.getD clock) episodes).ids.length < cardLimit →
        ∀ row, Admitted lib project asOf now db row →
          Names lib (asOf.getD clock) episodes ⟨row.memoryId, row.contentHash⟩ → row ∈ cards.map (·.row)) ∧
      (status = .verified → ∀ entry ∈ allSources lib (asOf.getD clock) episodes,
        ∃ key, authorityKey? entry.2 = some key ∧ ((candidatesOf lib (asOf.getD clock) episodes).ids.length < cardLimit →
          ∃ card ∈ cards, card.row.memoryId = key.memoryId ∧ card.row.contentHash = key.contentHash)) :=
  ⟨answered_distinct answered, fun _ => answered_sound answered,
    fun room _ => answered_complete answered keyed room, fun verified _ => answered_verified answered verified⟩

end Joined

/-! ## The episodes of cards -/

section Mapped

variable {host : Host} {lib : Library} {group project : String} {asOf : Option Int} {clock now : Int} {db : Db}
  {mapped : List (Doc × OntologyEpisode)}

/-- Each card has a hash, and the episode is what it is mapped to. -/
def Maps (host : Host) (group : String) (mapped : List (Doc × OntologyEpisode)) : Prop :=
  ∀ entry ∈ mapped, episodeFromMemoryCard host entry.1 group = .ok entry.2 ∧ entry.1.text .contentHash ≠ ""

/-- The key that the authority has of a card. -/
def cardKey (card : Doc) : AuthorityKey := ⟨strip (card.text .memoryId), card.text .contentHash⟩

theorem sources_found {card : Doc} {episode : OntologyEpisode}
    (made : episodeFromMemoryCard host card group = .ok episode) (instant : Int) :
    episode.found.sources lib instant = [episode.payload] := by
  have typed : episode.entityType = entityTypeForCard (card.text .cardType) := by
    simp only [episodeFromMemoryCard, bind_eq_ok] at made
    obtain ⟨_, _, _, _, _, _, _, _, _, _, made⟩ := made
    rw [OntologyEpisode.fromPayload_entityType made]
    show strip (entityTypeForCard (card.text .cardType)) = _
    unfold entityTypeForCard
    split <;> decide
  have kinds : entityTypeForCard (card.text .cardType) ≠ "GraphFact" ∧
      entityTypeForCard (card.text .cardType) ∉ nonCardEntityTypes := by
    unfold entityTypeForCard
    split <;> decide
  simp only [FoundEpisode.sources, OntologyEpisode.found, typed, if_neg kinds.1, if_neg kinds.2]

theorem allSources_mapped (lib : Library) (maps : Maps host group mapped) (instant : Int) :
    allSources lib instant (mapped.map (·.2.found)) = mapped.map fun entry => (entry.2.found, entry.2.payload) := by
  induction mapped with
  | nil => rfl
  | cons entry rest ih =>
      obtain ⟨made, -⟩ := maps entry List.mem_cons_self
      have later := ih fun other mem => maps other (List.mem_cons_of_mem _ mem)
      simp only [allSources, List.map_cons, List.flatMap_cons, sources_found made, List.map_nil] at later ⊢
      rw [later]
      rfl

theorem names_mapped (maps : Maps host group mapped) (instant : Int) (key : AuthorityKey) :
    Names lib instant (mapped.map (·.2.found)) key ↔ ∃ entry ∈ mapped, cardKey entry.1 = key := by
  have keyed {entry : Doc × OntologyEpisode} (mem : entry ∈ mapped) :
      authorityKey? entry.2.payload = some (cardKey entry.1) :=
    authorityKey?_episode (maps entry mem).1 (maps entry mem).2
  unfold Names
  rw [allSources_mapped lib maps]
  constructor
  · rintro ⟨source, listed, named⟩
    obtain ⟨entry, mem, rfl⟩ := List.mem_map.mp listed
    rw [keyed mem] at named
    exact ⟨entry, mem, Option.some.inj named⟩
  · rintro ⟨entry, mem, rfl⟩
    exact ⟨_, List.mem_map.mpr ⟨entry, mem, rfl⟩, keyed mem⟩

/-- A graph that was given fewer cards than are looked up names no more. -/
theorem ids_mapped_lt (lib : Library) (maps : Maps host group mapped) (few : mapped.length < cardLimit) (instant : Int) :
    (candidatesOf lib instant (mapped.map (·.2.found))).ids.length < cardLimit := by
  have collects := candidatesOf_collects lib instant (mapped.map (·.2.found))
  have within : (candidatesOf lib instant (mapped.map (·.2.found))).ids ⊆
      mapped.map fun entry => (cardKey entry.1).memoryId := by
    intro id mem
    obtain ⟨claim, claimed, rfl⟩ := collects.named id mem
    obtain ⟨entry, listed, same⟩ := (names_mapped maps instant _).mp (collects.claimed claim claimed).1
    exact List.mem_map.mpr ⟨entry, listed, congrArg AuthorityKey.memoryId same⟩
  have short := (List.subperm_of_subset collects.distinct within).length_le
  rw [List.length_map] at short
  omega

/-- What a graph that holds the episodes of some cards answers with: the cards as the authority has them, where
    it admits one with the id and the content that was mapped. The answer is verified where it has every card. -/
theorem mapped_cards_answered (keyed : db.Keyed) (maps : Maps host group mapped) (few : mapped.length < cardLimit)
    {cards : List JoinedCard} {status : JoinStatus}
    (answered : joinGraphCandidates lib project asOf clock now (mapped.map (·.2.found)) db = (some cards, status)) :
    (∀ row, row ∈ cards.map (·.row) ↔ Admitted lib project asOf now db row ∧
      ∃ entry ∈ mapped, cardKey entry.1 = ⟨row.memoryId, row.contentHash⟩) ∧
    (status = .verified ↔ ∀ entry ∈ mapped,
      ∃ card ∈ cards, cardKey entry.1 = ⟨card.row.memoryId, card.row.contentHash⟩) := by
  have room := ids_mapped_lt lib maps few (asOf.getD clock)
  have sources := allSources_mapped lib maps (asOf.getD clock)
  refine ⟨fun row => ⟨fun mem => ?_, fun ⟨admitted, named⟩ => ?_⟩, fun verified entry mem => ?_, fun all => ?_⟩
  · obtain ⟨card, listed, rfl⟩ := List.mem_map.mp mem
    obtain ⟨admitted, named⟩ := answered_sound answered listed
    exact ⟨admitted, (names_mapped maps _ _).mp named⟩
  · exact answered_complete answered keyed room admitted ((names_mapped maps _ _).mpr named)
  · have listed : (entry.2.found, entry.2.payload) ∈ allSources lib (asOf.getD clock) (mapped.map (·.2.found)) := by
      rw [sources]
      exact List.mem_map.mpr ⟨entry, mem, rfl⟩
    obtain ⟨key, named, found⟩ := answered_verified answered verified listed
    obtain ⟨card, answers, id, hash⟩ := found room
    rw [authorityKey?_episode (maps entry mem).1 (maps entry mem).2] at named
    refine ⟨card, answers, (Option.some.inj named).trans ?_⟩
    rw [id, hash]
  · refine verified_of_answered answered fun source listed => ?_
    rw [sources] at listed
    obtain ⟨entry, mem, rfl⟩ := List.mem_map.mp listed
    obtain ⟨card, answers, same⟩ := all entry mem
    refine ⟨card, answers, ?_⟩
    rw [← same]
    exact authorityKey?_episode (maps entry mem).1 (maps entry mem).2

/-! ### Two cards, one of them since changed -/

def mappedCard (memoryId contentHash : String) : Doc := Doc.ofFields [
  (.memoryId, .str memoryId), (.cardType, .str "decision"), (.project, .str "neurons"),
  (.title, .str "store"), (.summary, .str "keep the store"), (.contentHash, .str contentHash)]

theorem mapped_cards_answered_aged : ∃ mapped cards status,
    mapped.map Prod.fst = [mappedCard "mem:1" "sha256:1", mappedCard "mem:2" "sha256:0"] ∧
      Maps plainHost "neurons" mapped ∧
      joinGraphCandidates referenceLibrary "neurons" none agedNow agedNow (mapped.map (·.2.found)) agedDb =
        (some cards, status) ∧
      agedCard "mem:1" ∈ cards.map (·.row) ∧ agedCard "mem:2" ∉ cards.map (·.row) ∧ status ≠ .verified := by
  obtain ⟨kept, madeKept⟩ := @exists_episode plainHost (fun _ => rfl) (mappedCard "mem:1" "sha256:1") "neurons"
    (by decide +kernel) (by decide +kernel) ⟨"/project/neurons", by rfl⟩ ⟨[], by rfl⟩ ⟨plainHost.utcNow, by rfl⟩
  obtain ⟨aged, madeAged⟩ := @exists_episode plainHost (fun _ => rfl) (mappedCard "mem:2" "sha256:0") "neurons"
    (by decide +kernel) (by decide +kernel) ⟨"/project/neurons", by rfl⟩ ⟨[], by rfl⟩ ⟨plainHost.utcNow, by rfl⟩
  let mapped := [(mappedCard "mem:1" "sha256:1", kept), (mappedCard "mem:2" "sha256:0", aged)]
  have hashed : (mappedCard "mem:1" "sha256:1").text .contentHash ≠ "" ∧
      (mappedCard "mem:2" "sha256:0").text .contentHash ≠ "" := by decide
  have maps : Maps plainHost "neurons" mapped := by
    intro entry mem
    simp only [mapped, List.mem_cons, List.not_mem_nil, or_false] at mem
    rcases mem with rfl | rfl
    · exact ⟨madeKept, hashed.1⟩
    · exact ⟨madeAged, hashed.2⟩
  have keys : cardKey (mappedCard "mem:1" "sha256:1") = ⟨"mem:1", "sha256:1"⟩ ∧
      cardKey (mappedCard "mem:2" "sha256:0") = ⟨"mem:2", "sha256:0"⟩ := by decide
  have ids : (candidatesOf referenceLibrary agedNow (mapped.map (·.2.found))).ids = ["mem:1", "mem:2"] := by
    have first := authorityKey?_episode madeKept hashed.1
    have second := authorityKey?_episode madeAged hashed.2
    rw [candidatesOf, allSources_mapped referenceLibrary maps]
    simp only [mapped, List.map_cons, List.map_nil, List.foldl_cons, List.foldl_nil, Candidates.add, first, second]
    rfl
  have read : listAuthorizedCards referenceLibrary (authorityQuery "neurons" none ["mem:1", "mem:2"]) agedNow agedDb =
      .ok [agedCard "mem:1", agedCard "mem:2"] := by decide +kernel
  obtain ⟨cards, status, answered⟩ : ∃ cards status, joinGraphCandidates referenceLibrary "neurons" none agedNow
      agedNow (mapped.map (·.2.found)) agedDb = (some cards, status) := by
    simp only [joinGraphCandidates, Option.getD_none, ids, read]
    exact ⟨_, _, rfl⟩
  have few : mapped.length < cardLimit := by
    show 2 < 100
    decide
  obtain ⟨rows, verified⟩ := mapped_cards_answered agedDb_keyed maps few answered
  have absent : agedCard "mem:2" ∉ cards.map (·.row) := by
    intro mem
    obtain ⟨-, entry, listed, same⟩ := (rows _).mp mem
    simp only [mapped, List.mem_cons, List.not_mem_nil, or_false] at listed
    rcases listed with rfl | rfl
    · exact absurd (keys.1.symm.trans same) (by decide)
    · exact absurd (keys.2.symm.trans same) (by decide)
  have admitted := (admitted_of_read read List.mem_cons_self).1
  refine ⟨mapped, cards, status, rfl, maps, answered, (rows _).mpr ⟨admitted, _, List.mem_cons_self, ?_⟩, absent, ?_⟩
  · exact keys.1
  · intro told
    obtain ⟨card, answers, same⟩ := verified.mp told _ (List.mem_cons_of_mem _ List.mem_cons_self)
    obtain ⟨⟨⟨id, stored⟩, -⟩, -⟩ := (rows card.row).mp (List.mem_map.mpr ⟨card, answers, rfl⟩)
    have current : ∀ entry ∈ agedDb.cards.entries, entry.2.contentHash = "sha256:1" := by decide +kernel
    have hash := (AuthorityKey.mk.inj (keys.2.symm.trans same)).2
    rw [current _ (Dict.mem_entries_iff.mpr stored)] at hash
    exact absurd hash (by decide)

end Mapped

/-! ## A graph that lags behind the cards -/

/-- The graph names one card with a content that it had before, and one that is gone. -/
def agedEpisodes : List FoundEpisode :=
  [("mem:1", "sha256:1"), ("mem:2", "sha256:0"), ("mem:9", "sha256:1")].map fun key => {
    entityType := "DecisionMemoryCard"
    payload := Doc.ofFields [(.authorityMemoryId, .str key.1), (.contentHash, .str key.2)]
    validFrom := ""
    validTo := ""
    currentness := "current" }

theorem joinGraphCandidates_aged :
    joinGraphCandidates referenceLibrary "neurons" none agedNow agedNow agedEpisodes agedDb =
      (some [⟨agedCard "mem:1", false, false⟩], .mismatch) := by
  decide +kernel

theorem graph_answers_authorized_aged :
    Admitted referenceLibrary "neurons" none agedNow agedDb (agedCard "mem:1") ∧
      Names referenceLibrary agedNow agedEpisodes ⟨"mem:1", "sha256:1"⟩ := by
  have answers := graph_answers_authorized agedDb_keyed joinGraphCandidates_aged
  exact answers.2.1 _ (List.mem_singleton_self _)

end Neurons.Graph
