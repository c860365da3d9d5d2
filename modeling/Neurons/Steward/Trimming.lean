import Mathlib.Algebra.GroupWithZero.Nat
import Neurons.Lib.Trim
import Neurons.Steward.Listing

/-! # Pages by offset under a byte budget

The query and context modes of `graph_first_resolver.py`: the filtered cards are paged by offset.
A page over the byte budget first loses evidence; a context page then has its texts cut to a
readable floor and loses its cards of the lowest rank, a query page loses its last cards.
-/

namespace Neurons.Steward

open Neurons.Lib
open Neurons.Source

/-! ## Requests and responses -/

/-- `_ResolveRequest` in query or context mode, without its cursor. -/
structure ResolveRequest extends ListRequest where
  context : Bool
  withEvidence : Bool
  asked : context = false → strip query ≠ ""
  oneMode : ¬ (minimal ∧ withEvidence)

/-- An edge of `_normalized_evidence_edges`; the summary holds what a response tells of it. -/
structure EvidenceEdge where
  rootId : String
  summary : Doc
  deriving DecidableEq

structure Evidence where
  edges : List EvidenceEdge
  truncated : Bool
  deriving DecidableEq

/-- The error code of a response whose fallback cards could not be read. -/
inductive FallbackError where
  | embeddingUnavailable | authorityStoreUnavailable
  deriving DecidableEq, Repr

def FallbackError.text : FallbackError → String
  | .embeddingUnavailable => "embedding_unavailable"
  | .authorityStoreUnavailable => "authority_store_unavailable"

/-- The response to a page by offset. -/
structure SlimPayload where
  items : List ListedCard
  hasMore : Bool
  nextCursor : Option ListCursor
  errorCode : Option String
  evidence : Option Evidence
  deriving DecidableEq

/-- What the pages take from elsewhere. -/
structure ResolveHost where
  /-- `_fingerprint` of a request and its candidates -/
  fingerprint : ResolveRequest → List ListedCard → String
  /-- `tool_result_bytes` of a response, whose metadata the store fixes -/
  toolResultBytes : ResolveRequest → SlimPayload → ℕ
  /-- `_MAX_BYTES` -/
  maxBytes : ℕ
  /-- `ensure_public_safe` of a response -/
  ensurePublicSafe : SlimPayload → Except PyError Unit
  /-- `_read_evidence` for the cards of a page; none where it raises -/
  readEvidence : ResolveRequest → List ListedCard → Option Evidence

/-- The cards of a request, each under an id of its own. -/
structure FilteredCards where
  cards : List ListedCard
  distinct : (cards.map (·.row.memoryId)).Nodup

/-! ## Texts of a context page -/

def contextSectionTypes : List String := ["decision", "preference", "task", "work", "work_unit", "status"]

def taskStateTokens : List String :=
  ["active", "blocked", "cancelled", "canceled", "complete", "completed", "done", "failed", "in-progress",
    "in_progress", "not-started", "not_started", "open", "paused", "pending", "running", "stopped", "todo"]

def statusStateTokens : List String :=
  taskStateTokens ++ ["completed_submitted", "degraded", "healthy", "ok", "pass", "passed", "ready", "submitted",
    "succeeded", "success", "unavailable", "unknown"]

/-- The places among some that hold a text. -/
def CardRow.shownPlaces (row : CardRow) (places : List TextPlace) : List TextPlace :=
  places.filter fun place => row.textAt place ≠ ""

/-- The first text that is not empty. -/
def CardRow.firstText (row : CardRow) (places : List TextPlace) : String :=
  ((row.shownPlaces places).head?.map row.textAt).getD ""

/-- `_context_text_slots` -/
def CardRow.contextTextSlots (row : CardRow) : List TextPlace :=
  let headings := row.shownPlaces [.title, .summary]
  if row.cardType ∉ contextSectionTypes then
    let stated := [Key.field .decision, .field .rationale].filter fun key => (Dict.get? row.typed key).isSome
    if stated ≠ [] then stated.map .typed else headings
  else if row.cardType = "decision" then
    row.shownPlaces [.typed (.field .decision), .typed (.field .rationale)]
  else if row.cardType = "preference" then
    row.shownPlaces [.typed (.other "rule"), .typed (.field .preference)]
  else if row.cardType = "status" then
    let states := [TextPlace.typed (.field .statusValue), .typed (.field .status)]
    let slots := row.shownPlaces states
    if slots = [] ∨ lower (strip (row.firstText states)) ∈ statusStateTokens then slots ++ headings else slots
  else
    let slots := row.shownPlaces [.typed (.other "task"), .typed (.field .taskState), .typed (.field .nextAction),
      .typed (.field .blocker)]
    if row.textAt (.typed (.other "task")) = "" ∨
        lower (strip (row.textAt (.typed (.field .taskState)))) ∈ taskStateTokens then slots ++ headings
    else slots

/-- `_CONTEXT_TEXT_FLOOR` -/
def contextTextFloor : ℕ := 48

def rstrip (text : List Char) : List Char := (text.reverse.dropWhile isSpace).reverse

/-- A text cut to the floor. -/
def floored (text : String) : String :=
  String.ofList (rstrip (text.toList.take (max 1 (contextTextFloor - 1))) ++ ['…'])

/-- The texts of a page that a context shows, by card and place. -/
def contextTexts (page : List ListedCard) : List (ℕ × TextPlace) :=
  page.zipIdx.flatMap fun (card, i) => card.row.contextTextSlots.map fun place => (i, place)

def textLength (page : List ListedCard) (slot : ℕ × TextPlace) : ℕ :=
  page[slot.1]?.elim 0 fun card => (card.row.textAt slot.2).length

/-- `_trim_context_text`: cut the longest text over the floor, the first one among equals. -/
def trimContextText (page : List ListedCard) : Option (List ListedCard) :=
  (((contextTexts page).filter fun slot => contextTextFloor < textLength page slot).argmax (textLength page)).map
    fun (i, place) => page.modify i fun card => { card with row := card.row.setText (floored (card.row.textAt place)) place }

/-! ## Cards of a context page -/

/-- `_context_drop_rank` -/
def contextDropRank (card : ListedCard) : ℕ :=
  if card.row.cardType ∈ ["task", "work", "work_unit"] then 5
  else if card.row.cardType = "decision" then 4
  else if card.row.cardType = "status" then 3
  else if card.row.cardType = "preference" then 2
  else 1

/-- `_drop_context_card` -/
abbrev dropContextCard : List ListedCard → Option (List ListedCard) := dropLowest contextDropRank

/-- `_drop_last_evidence_edge` -/
def dropLastEvidenceEdge (page : List ListedCard) : Option Evidence → Option (Option Evidence)
  | none => none
  | some evidence =>
      ((List.range evidence.edges.length).reverse.find? fun i =>
        evidence.edges[i]?.any (·.rootId ∈ page.map (·.row.memoryId))).map fun i =>
          some ⟨evidence.edges.eraseIdx i, true⟩

/-! ## The loops end -/

theorem floored_length (text : String) : (floored text).length ≤ contextTextFloor := by
  rw [floored, String.length_ofList, List.length_append, List.length_singleton, rstrip, List.length_reverse]
  have shorter := ((List.dropWhile_suffix isSpace (l := (text.toList.take (max 1 (contextTextFloor - 1))).reverse))).length_le
  rw [List.length_reverse, List.length_take] at shorter
  have floor : contextTextFloor = 48 := rfl
  omega

/-- The places that a context may cut. -/
def contextPlaces : List TextPlace :=
  [.title, .summary, .typed (.field .decision), .typed (.field .rationale), .typed (.other "rule"),
    .typed (.field .preference), .typed (.field .statusValue), .typed (.field .status), .typed (.other "task"),
    .typed (.field .taskState), .typed (.field .nextAction), .typed (.field .blocker)]

theorem CardRow.contextTextSlots_subset (row : CardRow) : row.contextTextSlots ⊆ contextPlaces := by
  have shown (places : List TextPlace) (known : places ⊆ contextPlaces) : row.shownPlaces places ⊆ contextPlaces := by
    intro place mem
    exact known (List.mem_of_mem_filter mem)
  have headings := shown [.title, .summary] (by decide)
  unfold contextTextSlots
  dsimp only
  split
  · split
    · intro place mem
      obtain ⟨key, listed, rfl⟩ := List.mem_map.mp mem
      have named := List.mem_of_mem_filter listed
      simp only [List.mem_cons, List.not_mem_nil, or_false] at named
      rcases named with rfl | rfl <;> decide
    · exact headings
  · split
    · exact shown _ (by decide)
    · split
      · exact shown _ (by decide)
      · split
        · split
          · exact List.append_subset.mpr ⟨shown _ (by decide), headings⟩
          · exact shown _ (by decide)
        · split
          · exact List.append_subset.mpr ⟨shown _ (by decide), headings⟩
          · exact shown _ (by decide)

/-- The texts of a card over the floor. -/
def CardRow.longTexts (row : CardRow) : ℕ :=
  (contextPlaces.map fun place => if contextTextFloor < (row.textAt place).length then 1 else 0).sum

def longTexts (page : List ListedCard) : ℕ := (page.map (·.row.longTexts)).sum

theorem CardRow.longTexts_setText {row : CardRow} {place : TextPlace} (known : place ∈ contextPlaces)
    (long : contextTextFloor < (row.textAt place).length) {text : String} (short : text.length ≤ contextTextFloor) :
    (row.setText text place).longTexts < row.longTexts := by
  apply List.sum_lt_sum
  · intro place' _
    rw [CardRow.textAt_setText]
    split
    · rw [if_neg (by omega)]
      exact Nat.zero_le _
    · exact le_rfl
  · refine ⟨place, known, ?_⟩
    rw [CardRow.textAt_setText, if_pos rfl, if_neg (by omega), if_pos long]
    exact Nat.zero_lt_one

theorem sum_modify_lt {α : Type} {f : α → ℕ} {g : α → α} {l : List α} {i : ℕ} {a : α} (found : l[i]? = some a)
    (smaller : f (g a) < f a) : ((l.modify i g).map f).sum < (l.map f).sum := by
  induction l generalizing i with
  | nil => cases found
  | cons b rest ih =>
      cases i with
      | zero =>
          cases found
          simpa using smaller
      | succ i => simpa using ih (by simpa using found)

theorem trimContextText_some {page page' : List ListedCard} (cut : trimContextText page = some page') :
    ∃ i place card, page[i]? = some card ∧ place ∈ contextPlaces ∧
      contextTextFloor < (card.row.textAt place).length ∧
      page' = page.modify i fun card => { card with row := card.row.setText (floored (card.row.textAt place)) place } := by
  obtain ⟨⟨i, place⟩, longest, rfl⟩ := Option.map_eq_some_iff.mp cut
  obtain ⟨listed, long⟩ := List.mem_filter.mp (List.argmax_mem longest)
  obtain ⟨⟨card, i'⟩, inside, slot⟩ := List.mem_flatMap.mp listed
  obtain ⟨place', shown, same⟩ := List.mem_map.mp slot
  cases same
  have found : page[i]? = some card := List.mem_zipIdx_iff_getElem?.mp inside
  refine ⟨i, place, card, found, card.row.contextTextSlots_subset shown, ?_, rfl⟩
  simpa [textLength, found] using long

theorem trimContextText_shrinks : Shrinks trimContextText longTexts := by
  intro page page' cut
  obtain ⟨i, place, card, found, known, long, rfl⟩ := trimContextText_some cut
  exact sum_modify_lt found (CardRow.longTexts_setText known long (floored_length _))

theorem dropContextCard_shrinks : Shrinks dropContextCard List.length := dropLowest_shrinks

theorem dropLastEvidenceEdge_shrinks (page : List ListedCard) :
    Shrinks (dropLastEvidenceEdge page) fun evidence => evidence.elim 0 (·.edges.length) := by
  intro evidence evidence' dropped
  cases evidence with
  | none => cases dropped
  | some evidence =>
      obtain ⟨i, last, rfl⟩ := Option.map_eq_some_iff.mp dropped
      have inside := List.mem_range.mp (List.mem_reverse.mp (List.mem_of_find?_eq_some last))
      have size := List.length_eraseIdx_of_lt inside
      simp only [Option.elim_some]
      omega

/-! ## Pages -/

section Pages

/-- A context page: its texts are cut first, then its cards. -/
def fitContextPage (exceeds : List ListedCard → Bool) (page : List ListedCard) : List ListedCard :=
  let bounded := trimWhile exceeds trimContextText_shrinks page
  trimPage exceeds (trimWhile exceeds dropContextCard_shrinks bounded)

/-- A query page: it loses its last cards, then the texts of the first. -/
def fitQueryPage (exceeds : List ListedCard → Bool) (page : List ListedCard) : List ListedCard :=
  shrinkPage exceeds (trimPage exceeds page)

variable (host : ResolveHost) (request : ResolveRequest) (errorCode : Option FallbackError) (filtered : FilteredCards)

/-- The cards that the limit allows on the page at an offset. -/
def window (offset : ℕ) : List ListedCard := (filtered.cards.drop offset).take request.limit

/-- `_final_payload` of a page at an offset. -/
def offsetPayload (offset : ℕ) (evidence : Option Evidence) (page : List ListedCard) : SlimPayload where
  items := page
  hasMore := offset + page.length < filtered.cards.length
  nextCursor :=
    if offset + page.length < filtered.cards.length then
      some ⟨host.fingerprint request filtered.cards, offset + page.length, none⟩
    else none
  errorCode := errorCode.map FallbackError.text
  evidence

def overBudget (offset : ℕ) (evidence : Option Evidence) (page : List ListedCard) : Bool :=
  host.maxBytes < host.toolResultBytes request (offsetPayload host request errorCode filtered offset evidence page)

/-- The evidence that a page keeps before it loses anything else. -/
def fitEvidence (offset : ℕ) (evidence : Option Evidence) : Option Evidence :=
  let page := window request filtered offset
  trimWhile (fun evidence => overBudget host request errorCode filtered offset evidence page)
    (dropLastEvidenceEdge_shrinks page) evidence

/-- The page at an offset as far as it fits. -/
def fitPage (offset : ℕ) (evidence : Option Evidence) : List ListedCard :=
  let exceeds := overBudget host request errorCode filtered offset evidence
  let page := window request filtered offset
  if request.context then fitContextPage exceeds page else fitQueryPage exceeds page

/-- The evidence for a page, where the request asks for it; none where reading it raises. -/
def pageEvidence (offset : ℕ) : Option (Option Evidence) :=
  if request.withEvidence then (host.readEvidence request (window request filtered offset)).map some else some none

/-- `_error_payload` -/
def refusal (code : String) : Except PyError SlimPayload := do
  let payload : SlimPayload := ⟨[], false, none, some code, none⟩
  host.ensurePublicSafe payload
  return payload

/-- `_decode_cursor` -/
def decodeOffsetCursor (fingerprint : String) : Option ListCursor → Except PyError ListCursor
  | none => .ok ⟨fingerprint, 0, none⟩
  | some cursor => do
      refuseIf (∃ id ∈ cursor.afterId, 64 < id.length) (.valueError "invalid cursor")
      refuseIf (cursor.fingerprint ≠ fingerprint) (.valueError "cursor does not match this request or candidates")
      return cursor

/-- `_serialize` from the filtered cards on. -/
def serializeOffset (cursor : Option ListCursor) : Except PyError SlimPayload := do
  let decoded ← decodeOffsetCursor (host.fingerprint request filtered.cards) cursor
  match pageEvidence host request filtered decoded.offset with
  | none => refusal host "evidence_unavailable"
  | some evidence =>
      let evidence := fitEvidence host request errorCode filtered decoded.offset evidence
      let page := fitPage host request errorCode filtered decoded.offset evidence
      if overBudget host request errorCode filtered decoded.offset evidence page then
        refusal host "response_budget_exceeded"
      else do
        let payload := offsetPayload host request errorCode filtered decoded.offset evidence page
        host.ensurePublicSafe payload
        return payload

end Pages

end Neurons.Steward
