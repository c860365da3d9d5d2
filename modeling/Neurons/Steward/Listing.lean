import Mathlib.Algebra.GroupWithZero.Nat
import Mathlib.Algebra.Order.BigOperators.Group.List
import Neurons.Lib.Paging
import Neurons.Steward.Recall

/-! # Listing the authorized cards

The list mode of `graph_first_resolver.py`: the authorized cards of a project are read a page at
a time by their ids, filtered by age, currentness and confidence, and cut to the limit of the
request and to the bytes of one tool result. Instants are microseconds.
-/

namespace Neurons.Steward

open Neurons.Lib
open Neurons.Source

/-! ## Requests -/

inductive AgeLabel where
  | fresh | recent | aging | old | historical | unknown | future
  deriving DecidableEq, Repr

inductive TimeConfidence where
  | high | medium | low | anomalous | unknown
  deriving DecidableEq, Repr

inductive TemporalRelation where
  | past | present | future | unknown
  deriving DecidableEq, Repr

/-- `_ResolveRequest` in list mode and without evidence, without its cursor. -/
structure ListRequest where
  project : String
  query : String
  minimal : Bool
  asOf : Option Int
  limit : ℕ
  includeHistorical : Bool
  maxAge : Option ℕ
  minAge : Option ℕ
  ageBucket : Option AgeLabel
  currentness : Option String
  timeConfidence : Option TimeConfidence
  named : project ≠ ""
  bounded : 1 ≤ limit ∧ limit ≤ 20

/-- `_Cursor` -/
structure ListCursor where
  fingerprint : String
  offset : ℕ
  afterId : Option String
  deriving DecidableEq, Repr

/-! ## The temporal envelope -/

section Envelope

variable (lib : Library)

/-- An instant, and whether its text names no timezone. -/
abbrev ParsedInstant := Int × Bool

/-- `_parse_instant` of a value that is no `datetime`; its `astimezone` stands inside the handler. -/
def parseInstant (v : Json) : Option ParsedInstant :=
  match v with
  | .null => none
  | v =>
      let normalized := replaceZulu (strip v.text)
      if normalized = "" then none
      else ((lib.py.fromisoformat normalized).filter (InUtc ·)).map (·, !lib.awareTime normalized)

def second : Int := 1000000

/-- `CLOCK_SKEW_TOLERANCE_SECONDS` -/
def clockSkewTolerance : Int := 300 * second

/-- The fields of the envelope that a listing reads. -/
structure Temporal where
  ageSeconds : Option Int
  ageLabel : AgeLabel
  timeConfidence : TimeConfidence
  relation : TemporalRelation
  temporalConflict : Bool
  deriving DecidableEq, Repr

def ageBucketOf (seconds : Int) : AgeLabel :=
  let days := seconds / 86400
  if days < 1 then .fresh
  else if days < 7 then .recent
  else if days < 30 then .aging
  else if days < 180 then .old
  else .historical

/-- The age in seconds, its label and the confidence in it. -/
def ageOf (asOf : Int) (observed recorded : Option ParsedInstant) :
    Option Int × AgeLabel × TimeConfidence :=
  match observed.or recorded with
  | none => (none, .unknown, .unknown)
  | some (effective, timezoneMissing) =>
      let delta := asOf - effective
      if delta < -clockSkewTolerance then (some (delta.tdiv second), .future, .anomalous)
      else
        let seconds := max 0 (delta.tdiv second)
        let confidence : TimeConfidence :=
          if observed = none then .low else if timezoneMissing then .medium else .high
        (some seconds, ageBucketOf seconds, confidence)

/-- `build_temporal_envelope` -/
def buildTemporalEnvelope (asOf : Int) (observed recorded : Option ParsedInstant)
    (validFrom validTo : Option Int) (currentness : String) (temporalConflict : Bool) : Temporal :=
  let (ageSeconds, ageLabel, confidence) := ageOf asOf observed recorded
  let observedAfterRecorded := ∃ o ∈ observed, ∃ r ∈ recorded, clockSkewTolerance < o.1 - r.1
  let invalidWindow := ∃ opens ∈ validFrom, ∃ closes ∈ validTo, closes < opens
  let confidence := if observedAfterRecorded ∨ invalidWindow then .anomalous else confidence
  let relation : TemporalRelation :=
    if confidence = .anomalous ∨ ageLabel = .future then .future
    else if ∃ closes ∈ validTo, closes < asOf then .past
    else if ∃ opens ∈ validFrom, asOf < opens then .future
    else match ageSeconds with
      | none => .unknown
      | some seconds => if 0 < seconds then .past else .present
  { ageSeconds, ageLabel, timeConfidence := confidence, relation
    temporalConflict := temporalConflict || currentness == "conflicted" }

end Envelope

/-! ## Cards of a listing -/

/-- A card on its way to a page, with the flags written into it. -/
structure ListedCard where
  row : CardRow
  temporalConflict : Bool
  temporal : Temporal
  deriving DecidableEq

/-- The response to a page of cards. -/
structure ListPayload where
  items : List ListedCard
  hasMore : Bool
  nextCursor : Option ListCursor
  errorCode : Option String
  deriving DecidableEq

/-- What a listing takes from elsewhere. -/
structure ListHost where
  lib : Library
  /-- the `created_at` column of a card -/
  createdAt : String → Int
  /-- `_fingerprint` of a request without candidates -/
  fingerprint : ListRequest → String
  /-- `tool_result_bytes` of a response, whose metadata the store fixes -/
  toolResultBytes : ListRequest → ListPayload → ℕ
  /-- `_MAX_BYTES` -/
  maxBytes : ℕ
  /-- `ensure_public_safe` of a response -/
  ensurePublicSafe : ListPayload → Except PyError Unit

section Cards

variable (host : ListHost)

def CardRow.typed (row : CardRow) : Doc := (Doc.ofJson? row.typedPayload).getD ∅

/-- `str(card.get("currentness") or "current")` -/
def CardRow.currentnessText (row : CardRow) : String :=
  if row.currentness = "" then "current" else row.currentness

/-- `_card_temporal_block`; the columns read hold no `observed_at` and no `time_confidence`. -/
def cardTemporalBlock (asOf : Int) (row : CardRow) (temporalConflict : Bool) : Temporal :=
  buildTemporalEnvelope asOf (parseInstant host.lib (value row.typed .observedAt))
    (some (host.createdAt row.memoryId, false)) (some row.validFrom) row.validTo row.currentnessText
    temporalConflict

/-- `_is_active_at` -/
def CardRow.ActiveAt (row : CardRow) (instant : Int) : Prop :=
  row.validFrom ≤ instant ∧ ∀ closes ∈ row.validTo, instant < closes

instance (row : CardRow) (instant : Int) : Decidable (row.ActiveAt instant) := by
  unfold CardRow.ActiveAt
  infer_instance

/-- `_subject_key` -/
def CardRow.subjectKey (row : CardRow) : Option String :=
  match (row.typed.value? .scope).or (row.typed.value? .subject) with
  | none => none
  | some scope =>
      let key := lower (strip scope.text)
      if key ∈ ["general", "*", ""] then none else some key

/-- Two cards that cannot both hold; the columns read name no superseding cards. -/
def CardRow.Clashes (row other : CardRow) (instant : Int) : Prop :=
  row.memoryId ≠ other.memoryId ∧ (∃ key ∈ row.subjectKey, other.subjectKey = some key) ∧
    row.currentnessText ∈ ["current", "conflicted"] ∧ other.currentnessText ∈ ["current", "conflicted"] ∧
    row.ActiveAt instant ∧ other.ActiveAt instant

instance (row other : CardRow) (instant : Int) : Decidable (row.Clashes other instant) := by
  unfold CardRow.Clashes
  infer_instance

/-- `_detect_cross_card_conflicts`: the flag of a card among the cards of a read. -/
def conflictAmong (rows : List CardRow) (instant : Int) (row : CardRow) : Bool :=
  row.currentnessText = "conflicted" ∨ ∃ other ∈ rows, row.Clashes other instant

/-- The lane of the cards that no longer count at the instant of the request. -/
def historicalLane (request : ListRequest) (instant : Int) (row : CardRow) (currentness : String) : Bool :=
  if request.asOf.isSome then ¬ row.ActiveAt instant
  else currentness ∈ ["superseded", "retired", "stale"] ∨ ∃ closes ∈ row.validTo, closes ≤ instant

/-- The instant of the temporal envelopes, which read no `as_of` without a year in UTC. -/
def ListRequest.envelopeInstant (request : ListRequest) (now : Int) : Int :=
  (request.asOf.filter (InUtc ·)).getD now

/-- `_card_matches_filters` for a card whose conflict flag is set or not. -/
def cardMatchesFilters (request : ListRequest) (now : Int) (row : CardRow) (temporalConflict : Bool) : Bool :=
  let instant := request.asOf.getD now
  let temporal := cardTemporalBlock host (request.envelopeInstant now) row temporalConflict
  let currentness := lower (strip row.currentnessText)
  let conflict := temporalConflict || temporal.temporalConflict || currentness == "conflicted"
  let hidden := request.includeHistorical = false ∧ historicalLane request instant row currentness ∧
    conflict = false ∧ ∀ asked ∈ request.currentness, asked ∉ ["superseded", "retired", "stale"]
  let asked := ∀ asked ∈ request.currentness,
    currentness = asked ∨ request.asOf.isSome ∧ asked = "current" ∧ currentness = "superseded"
  let bucket := ∀ label ∈ request.ageBucket, temporal.ageLabel = label
  let confidence := ∀ confidence ∈ request.timeConfidence, temporal.timeConfidence = confidence
  let young := ∀ limit ∈ request.maxAge, ∃ seconds ∈ temporal.ageSeconds, 0 ≤ seconds ∧ seconds ≤ limit
  let old := ∀ limit ∈ request.minAge, ∃ seconds ∈ temporal.ageSeconds, (limit : Int) ≤ seconds
  ¬ hidden ∧ asked ∧ bucket ∧ confidence ∧ young ∧ old

/-- `_is_card_anomalous` -/
def ListedCard.anomalous (card : ListedCard) : Bool :=
  card.temporal.timeConfidence = .anomalous ∨ card.temporal.ageLabel = .future ∨
    card.temporal.relation = .future

/-- The cards of a read under the first id that names them. -/
def dedupeRows : List String → List CardRow → List CardRow
  | _, [] => []
  | seen, row :: rest =>
      if row.memoryId = "" ∨ row.memoryId ∈ seen then dedupeRows seen rest
      else row :: dedupeRows (row.memoryId :: seen) rest

/-- The cards of a read that match the request, the anomalous ones last. -/
def filteredCards (request : ListRequest) (now : Int) (rows : List CardRow) : List ListedCard :=
  let instant := request.asOf.getD now
  let deduped := dedupeRows [] rows
  let listed := deduped.map fun row =>
    let temporalConflict := conflictAmong deduped instant row
    { row, temporalConflict, temporal := cardTemporalBlock host (request.envelopeInstant now) row temporalConflict : ListedCard }
  demote ListedCard.anomalous
    (listed.filter fun card => cardMatchesFilters host request now card.row card.temporalConflict)

end Cards

/-! ## Shrinking a card -/

/-- A display text of a card. -/
inductive TextPlace where
  | title | summary | typed (key : Key)
  deriving DecidableEq, Repr

def typedTextKeys : List Key :=
  [.field .decision, .field .rationale, .other "rule", .field .preference, .field .scope, .other "task",
    .field .nextAction, .field .statusValue, .field .status, .field .observedAt]

def CardRow.textPlaces (row : CardRow) : List TextPlace :=
  [.title, .summary] ++ if (Doc.ofJson? row.typedPayload).isSome then typedTextKeys.map .typed else []

/-- `str(container.get(key) or "")` -/
def CardRow.textAt (row : CardRow) : TextPlace → String
  | .title => row.title
  | .summary => row.summary
  | .typed key => (((Dict.get? row.typed key).filter Json.truthy).map Json.text).getD ""

def CardRow.setText (row : CardRow) (text : String) : TextPlace → CardRow
  | .title => { row with title := text }
  | .summary => { row with summary := text }
  | .typed key => { row with typedPayload := Doc.json (row.typed.insert key (.str text)) }

def halved (text : String) : String :=
  if text.length ≤ 2 then ""
  else String.ofList (text.toList.take (max 1 (text.length / 2 - 1)) ++ ['…'])

/-- `_shrink_card`: halve the longest display text. -/
def shrinkCard (row : CardRow) : Option CardRow :=
  ((row.textPlaces.filter fun place => row.textAt place ≠ "").argmax fun place => (row.textAt place).length).map
    fun place => row.setText (halved (row.textAt place)) place

theorem halved_length {text : String} (shown : text ≠ "") : (halved text).length < text.length := by
  have some : 0 < text.length := by
    rw [Nat.pos_iff_ne_zero, Ne, String.length_eq_zero_iff]
    exact shown
  unfold halved
  split
  · simpa using some
  · rw [String.length_ofList, List.length_append, List.length_take, String.length_toList, List.length_singleton]
    omega

theorem CardRow.textAt_setText (row : CardRow) (text : String) (place place' : TextPlace) :
    (row.setText text place).textAt place' = if place' = place then text else row.textAt place' := by
  cases place with
  | title => cases place' <;> simp [setText, textAt, typed]
  | summary => cases place' <;> simp [setText, textAt, typed]
  | typed key =>
      cases place' with
      | title => simp [setText, textAt]
      | summary => simp [setText, textAt]
      | typed key' =>
          have changed : (row.setText text (.typed key)).typed = row.typed.insert key (.str text) := by
            simp [setText, typed]
          simp only [textAt, changed, Dict.get?_insert, TextPlace.typed.injEq]
          split
          · by_cases blank : text = "" <;> simp [Option.filter, Json.truthy, blank, Json.text]
          · rfl

/-- The characters that shrinking can take from a card. -/
def CardRow.textSize (row : CardRow) : ℕ :=
  ((TextPlace.title :: .summary :: typedTextKeys.map .typed).map fun place => (row.textAt place).length).sum

theorem shrinkCard_textSize {row row' : CardRow} (shrunk : shrinkCard row = some row') :
    row'.textSize < row.textSize := by
  obtain ⟨place, longest, rfl⟩ := Option.map_eq_some_iff.mp shrunk
  have chosen := List.mem_filter.mp (List.argmax_mem longest)
  have listed : place ∈ TextPlace.title :: .summary :: typedTextKeys.map .typed := by
    have member := chosen.1
    unfold CardRow.textPlaces at member
    split at member
    · rwa [List.cons_append, List.cons_append, List.nil_append] at member
    · simp only [List.append_nil, List.mem_cons, List.not_mem_nil, or_false] at member
      rcases member with rfl | rfl <;> simp
  have some : row.textAt place ≠ "" := by simpa using chosen.2
  have shorter := halved_length some
  apply List.sum_lt_sum
  · intro place' _
    rw [CardRow.textAt_setText]
    split
    · next same =>
        rw [same]
        exact shorter.le
    · exact le_rfl
  · refine ⟨place, listed, ?_⟩
    rw [CardRow.textAt_setText, if_pos rfl]
    exact shorter

theorem shrinkCard_memoryId {row row' : CardRow} (shrunk : shrinkCard row = some row') :
    row'.memoryId = row.memoryId := by
  obtain ⟨place, -, rfl⟩ := Option.map_eq_some_iff.mp shrunk
  cases place <;> rfl

/-! ## Pages -/

section Pages

/-- Drop cards from the end of a page until it fits or one is left. -/
def trimPage (exceeds : List ListedCard → Bool) (page : List ListedCard) : List ListedCard :=
  if exceeds page ∧ 1 < page.length then trimPage exceeds page.dropLast else page
termination_by page.length
decreasing_by
  rw [List.length_dropLast]
  omega

/-- Shrink the first card of a page until the page fits or the card has no text left. -/
def shrinkPage (exceeds : List ListedCard → Bool) : List ListedCard → List ListedCard
  | [] => []
  | card :: rest =>
      if exceeds (card :: rest) then
        match _shrunk : shrinkCard card.row with
        | none => card :: rest
        | some row => shrinkPage exceeds ({ card with row } :: rest)
      else card :: rest
termination_by page => (page.head?.map (·.row.textSize)).getD 0
decreasing_by
  have smaller := shrinkCard_textSize _shrunk
  simpa using smaller

variable (host : ListHost)

/-- `_final_payload` of a keyset page cut from so many cards. -/
def finalPayload (request : ListRequest) (page : List ListedCard) (total : ℕ) : ListPayload where
  items := page
  hasMore := page.length < total
  nextCursor :=
    if page.length < total then
      some ⟨host.fingerprint request, page.length, page.getLast?.map (·.row.memoryId)⟩
    else none
  errorCode := none

def exceedsBudget (request : ListRequest) (total : ℕ) (page : List ListedCard) : Bool :=
  host.maxBytes < host.toolResultBytes request (finalPayload host request page total)

/-- `_error_payload` -/
def errorPayload (code : String) : Except PyError ListPayload := do
  let payload : ListPayload := ⟨[], false, none, some code⟩
  host.ensurePublicSafe payload
  return payload

/-- The page the limit and the byte budget leave of the matching cards. -/
def fittedPage (request : ListRequest) (filtered : List ListedCard) : List ListedCard :=
  let exceeds := exceedsBudget host request filtered.length
  shrinkPage exceeds (trimPage exceeds (filtered.take request.limit))

/-- `_serialize` of a keyset read. -/
def serialize (request : ListRequest) (now : Int) (rows : List CardRow) : Except PyError ListPayload := do
  let filtered := filteredCards host request now rows
  let page := fittedPage host request filtered
  if exceedsBudget host request filtered.length page then
    errorPayload host "response_budget_exceeded"
  else do
    let payload := finalPayload host request page filtered.length
    host.ensurePublicSafe payload
    return payload

/-- `_decode_cursor` -/
def decodeCursor (request : ListRequest) : Option ListCursor → Except PyError ListCursor
  | none => .ok ⟨host.fingerprint request, 0, none⟩
  | some cursor => do
      refuseIf (∃ id ∈ cursor.afterId, 64 < id.length) (.valueError "invalid cursor")
      refuseIf (cursor.fingerprint ≠ host.fingerprint request)
        (.valueError "cursor does not match this request or candidates")
      return cursor

/-- What a request reads after an id: one card more than it shows. -/
def ListRequest.query? (request : ListRequest) (afterId : Option String) : CardQuery where
  project := request.project
  memoryIds := none
  asOf := request.asOf
  limit := request.limit + 1
  afterMemoryId := afterId
  stewardOnly := true

/-- `_resolve_authority_only` -/
def resolveAuthorityOnly (request : ListRequest) (now : Int) (db : Db) (cursor : Option ListCursor) :
    Except PyError ListPayload := do
  let decoded ← decodeCursor host request cursor
  refuseIf (cursor ≠ none ∧ decoded.afterId = none) (.valueError "invalid list cursor")
  match listAuthorizedCards host.lib (request.query? decoded.afterId) now db with
  | .error _ => errorPayload host "authority_store_unavailable"
  | .ok rows => serialize host request now rows

end Pages

end Neurons.Steward
