import Neurons.Outbox.GraphOutbox
import Neurons.Source.ReferencePlatform
import Neurons.Steward.Card

/-! # Episodes of cards

`episode_from_memory_card` (`ontology.py`) maps a card, or the payload of a graph projection job,
to the episode the graph is given. The episode names the card it was made from by
`authority_memory_id` and `content_hash`, which is all that a read of the graph trusts.
-/

namespace Neurons.Graph

open Neurons.Lib
open Neurons.Source
open Neurons.Steward (textOr)

/-- What the mapping takes from elsewhere. -/
structure Host where
  py : Platform
  /-- `public_safe_text(text, max_chars=bound)` -/
  publicSafeText : String → ℕ → String
  /-- one of the private or secret patterns is found in the text -/
  privateContent : String → Bool
  /-- `c.isdigit()` -/
  isDigit : Char → Bool
  /-- `utc_now_iso()` -/
  utcNow : String

structure OntologyEpisode where
  episodeId : String
  eventId : String
  idempotencyKey : String
  entityType : String
  naturalId : String
  lifecycleState : String
  currentness : String
  sourceEventIds : List String
  sourceRefIds : List String
  validFrom : String
  validTo : String
  observedAt : String
  referenceTime : String
  contentHash : String
  ontologyVersion : String
  extractorVersion : String
  payload : Doc
  extractionText : String
  deriving DecidableEq

/-! ## Checks -/

/-- `re.fullmatch(r"[A-Za-z][A-Za-z0-9_:-]{2,160}", text)`. -/
def isOpaqueId (text : String) : Bool :=
  match text.toList with
  | [] => false
  | c :: rest => c.isAlpha && 2 ≤ rest.length && rest.length ≤ 160 &&
      rest.all fun c => c.isAlphanum || c ∈ ['_', ':', '-']

def requireNonEmpty (value field : String) : Except PyError String := do
  refuseIf (strip value = "") (.valueError (field ++ " is required"))
  return strip value

def requireSha256 (value field : String) : Except PyError Unit := do
  let text ← requireNonEmpty value field
  refuseIf (hashLike text = false) (.valueError (field ++ " must be sha256:<64 hex>"))

section Mapping

variable (host : Host)

mutual

/-- No text and no key of a value holds private content. -/
def publicSafe : Json → Bool
  | .arr items => publicSafeItems items
  | .obj fields => publicSafeFields fields
  | .null => !host.privateContent ""
  | v => !host.privateContent v.text

def publicSafeItems : List Json → Bool
  | [] => true
  | item :: items => publicSafe item && publicSafeItems items

def publicSafeFields : List (Key × Json) → Bool
  | [] => true
  | (key, value) :: fields => !host.privateContent key.name && publicSafe value && publicSafeFields fields

end

def ensurePublicSafe (value : Json) (field : String) : Except PyError Unit :=
  refuseIf (publicSafe host value = false) (.valueError (field ++ " contains private or raw content"))

def requireOpaqueId (value field : String) : Except PyError Unit := do
  let text ← requireNonEmpty value field
  refuseIf (isOpaqueId text = false) (.valueError (field ++ " must be an opaque id"))
  ensurePublicSafe host (.str text) field

def hashPayload (value : Json) : String := sha256Hash host.py (.json value)

def shortHash (parts : List Json) : String :=
  String.ofList ((host.py.hexdigest (.json (.arr parts))).toList.take 16)

/-! ## The mapping -/

/-- `_redact_value` down to a depth; what lies deeper is written as a text. -/
def redactValue : ℕ → Json → Json
  | 0, v => .str (host.publicSafeText v.text 2048)
  | _ + 1, .str s => .str (host.publicSafeText s 2048)
  | n + 1, .arr items => .arr (items.map (redactValue n))
  | n + 1, .obj fields => .obj (fields.map fun entry => (entry.1, redactValue n entry.2))
  | _ + 1, v => v

/-- `_public_safe_typed_payload` -/
def publicSafeTypedPayload (v : Json) : Json := redactValue host 13 v

/-- `_meaning_strings` down to a depth; a text that is only a number is left out. -/
def meaningStrings : ℕ → Json → List String
  | 0, _ => []
  | _ + 1, .str s =>
      let text := strip s
      let digits := text.toList.filter fun c => c ≠ '.' ∧ c ≠ '-'
      if text = "" ∨ (digits ≠ [] ∧ digits.all host.isDigit) then [] else [text]
  | n + 1, .obj fields => fields.flatMap fun entry => meaningStrings n entry.2
  | n + 1, .arr items => items.flatMap (meaningStrings n)
  | _ + 1, _ => []

/-- `_card_extraction_text` -/
def cardExtractionText (title summary : String) (typedPayload : Json) : String :=
  let parts := ([title, summary].map strip).filter (· ≠ "") ++ meaningStrings host 13 typedPayload
  "\n".intercalate parts.eraseDups

/-- `_resolve_card_brain_id` -/
def resolveCardBrainId (cardBrainId project resolvedProject : String) : Except PyError String :=
  if project ≠ "" then do
    let projectBrainId := "/project/" ++ project
    refuseIf (cardBrainId ≠ "" ∧ cardBrainId ≠ projectBrainId)
      (.valueError ("memory card brain_id does not match project group key: " ++ reprText cardBrainId ++
        " != " ++ reprText projectBrainId))
    return projectBrainId
  else
    let fallback := if cardBrainId ≠ "" then cardBrainId
      else if resolvedProject ≠ "" then "/project/" ++ resolvedProject else ""
    requireNonEmpty fallback "brain_id"

/-- `_entity_type_for_card` -/
def entityTypeForCard : String → String
  | "decision" => "Decision"
  | "task" => "Task"
  | "drift" => "Drift"
  | "preference" => "PersonaFact"
  | "evidence" => "Evidence"
  | "status" => "Status"
  | _ => "MemoryCard"

/-- The ids a reference of a card stands for. -/
def sourceRefId : Json → List String
  | .str s => [s]
  | .obj fields =>
      let ref := Dict.insertAll ∅ fields
      let named := ((Dict.get? ref (.other "source_ref_id")).filter Json.truthy).or
        ((Dict.get? ref (.field .sourceId)).filter Json.truthy)
      (named.map Json.text).toList
  | _ => []

/-- `_source_ref_ids` -/
def sourceRefIds (card : Doc) : Except PyError (List String) :=
  match card.value? .sourceRefs with
  | none => .ok []
  | some (.arr items) => .ok (items.flatMap sourceRefId)
  | some (.str s) => .ok (s.toList.map fun c => String.ofList [c])
  | some (.obj fields) => .ok (fields.map fun entry => entry.1.name)
  | some _ => .error (.typeError "object is not iterable")

/-- `str(ref) for ref in list_or_empty(value)` -/
def textsOrEmpty : Json → List String
  | .arr items => items.map Json.text
  | _ => []

def firstText (texts : List String) (default : String) : String :=
  (texts.find? (· ≠ "")).getD default

/-- When a card was observed, with the times that stand in for it. -/
def cardObservedAt (card : Doc) : Except PyError String :=
  match Doc.ofJson? ((card.value? .typedPayload).getD (.obj [])) with
  | none => .error (.attributeError "object has no attribute 'get'")
  | some typed => .ok (firstText [typed.text .observedAt, card.text .observedAt, card.text .validFrom,
      card.text .approvedAt, ((Dict.get? card (.other "accepted_at")).filter Json.truthy).elim "" Json.text,
      card.text .createdAt, ((Dict.get? card (.other "updated_at")).filter Json.truthy).elim "" Json.text]
      host.utcNow)

/-- `__post_init__` -/
def OntologyEpisode.check (episode : OntologyEpisode) : Except PyError OntologyEpisode := do
  requireOpaqueId host episode.episodeId "episode_id"
  requireOpaqueId host episode.eventId "event_id"
  requireOpaqueId host episode.idempotencyKey "idempotency_key"
  requireOpaqueId host episode.naturalId "natural_id"
  requireSha256 episode.contentHash "content_hash"
  let entityType ← requireNonEmpty episode.entityType "entity_type"
  ensurePublicSafe host episode.payload.json "OntologyEpisode.payload"
  ensurePublicSafe host (.arr (episode.sourceRefIds.map .str)) "OntologyEpisode.source_ref_ids"
  return { episode with
    entityType
    extractionText := String.ofList (episode.extractionText.toList.take 8000) }

/-- `OntologyEpisode.from_payload`, for an episode whose identity and hash are yet to be made;
    the episodes of cards have no relations. -/
def OntologyEpisode.fromPayload (episode : OntologyEpisode) : Except PyError OntologyEpisode :=
  let contentHash := hashPayload host (.obj [
    (.other "entity_type", .str episode.entityType), (.other "natural_id", .str episode.naturalId),
    (.other "payload", episode.payload.json), (.field .currentness, .str episode.currentness),
    (.other "relations", .arr [])])
  let timestamp := firstText [episode.observedAt] host.utcNow
  OntologyEpisode.check host { episode with
    episodeId := "episode:" ++ shortHash host [.str episode.eventId, .str episode.naturalId, .str contentHash]
    idempotencyKey := "ontology-episode:" ++ shortHash host [.str episode.naturalId, .str contentHash]
    validFrom := firstText [episode.validFrom] timestamp
    observedAt := timestamp
    referenceTime := firstText [episode.referenceTime] timestamp
    contentHash }

/-- The payload of the episode of a card, where the card has a hash its authority key with it. -/
def cardPayload (card : Doc) (memoryId brainId project : String) : Doc :=
  let payload := Doc.ofFields [
    (.memoryId, .str (card.text .memoryId)), (.brainId, .str brainId), (.project, .str project),
    (.cardType, .str (card.text .cardType)),
    (.title, .str (host.publicSafeText (card.text .title) 240)),
    (.summary, .str (host.publicSafeText (card.text .summary) 512)),
    (.typedPayload, publicSafeTypedPayload host ((card.get? .typedPayload).getD .null))]
  if card.text .contentHash = "" then payload
  else payload.update [(.authorityMemoryId, .str memoryId), (.contentHash, .str (card.text .contentHash))]

/-- `episode_from_memory_card` -/
def episodeFromMemoryCard (card : Doc) (project : String) : Except PyError OntologyEpisode := do
  let resolvedProject := if project = "" then card.text .project else project
  let memoryId ← requireNonEmpty (card.text .memoryId) "memory_id"
  let cardType ← requireNonEmpty (card.text .cardType) "card_type"
  let brainId ← resolveCardBrainId (card.text .brainId) project resolvedProject
  let payload := cardPayload host card memoryId brainId resolvedProject
  let naturalId := cardType ++ ":" ++ memoryId
  let refs ← sourceRefIds card
  let observedAt ← cardObservedAt host card
  OntologyEpisode.fromPayload host {
    episodeId := ""
    eventId := "evt:" ++ shortHash host [.str naturalId, (card.get? .contentHash).getD (.str "")]
    idempotencyKey := ""
    entityType := entityTypeForCard (card.text .cardType)
    naturalId
    lifecycleState := textOr card .lifecycleState "accepted"
    currentness := textOr card .currentness "unknown"
    sourceEventIds := textsOrEmpty ((card.get? .derivedFrom).getD .null)
    sourceRefIds := refs
    validFrom := card.text .validFrom
    validTo := card.text .validTo
    observedAt
    referenceTime := ""
    contentHash := ""
    ontologyVersion := ((Dict.get? card (.other "ontology_version")).filter Json.truthy).elim "1.0.0" Json.text
    extractorVersion := "memory-card-runtime.1"
    payload
    extractionText := cardExtractionText host (payload.text .title) (payload.text .summary)
      ((payload.get? .typedPayload).getD .null) }

/-! ## What an episode says of its card -/

/-- The card an episode was made from: an id and the hash of its content. -/
structure AuthorityKey where
  memoryId : String
  contentHash : String
  deriving DecidableEq, Repr

/-- The authority key that a mapping of the graph gives. -/
def authorityKey? (source : Doc) : Option AuthorityKey :=
  match source.get? .authorityMemoryId, source.get? .contentHash with
  | some (.str memoryId), some (.str contentHash) =>
      if memoryId = "" ∨ contentHash = "" then none else some ⟨memoryId, contentHash⟩
  | _, _ => none

variable {host}

theorem requireNonEmpty_eq_ok {value field text : String} (given : requireNonEmpty value field = .ok text) :
    text = strip value ∧ text ≠ "" := by
  simp only [requireNonEmpty, bind_eq_ok, refuseIf_eq_ok, pure_eq_ok, Except.ok.injEq] at given
  obtain ⟨_, filled, rfl⟩ := given
  exact ⟨rfl, filled⟩

theorem OntologyEpisode.fromPayload_payload {draft episode : OntologyEpisode}
    (made : draft.fromPayload host = .ok episode) : episode.payload = draft.payload := by
  simp only [fromPayload, check, bind_eq_ok, pure_eq_ok, Except.ok.injEq] at made
  obtain ⟨_, _, _, _, _, _, _, _, _, _, _, _, _, _, _, _, rfl⟩ := made
  rfl

theorem OntologyEpisode.fromPayload_entityType {draft episode : OntologyEpisode}
    (made : draft.fromPayload host = .ok episode) : episode.entityType = strip draft.entityType := by
  simp only [fromPayload, check, bind_eq_ok, pure_eq_ok, Except.ok.injEq] at made
  obtain ⟨_, _, _, _, _, _, _, _, _, _, _, named, _, _, _, _, rfl⟩ := made
  exact (requireNonEmpty_eq_ok named).1

theorem authorityKey?_named {source : Doc} {key : AuthorityKey} (given : authorityKey? source = some key) :
    key.memoryId ≠ "" := by
  unfold authorityKey? at given
  split at given
  · split at given
    · cases given
    · next filled =>
        cases given
        exact fun blank => filled (.inl blank)
  · cases given

theorem authorityKey?_cardPayload {card : Doc} {memoryId brainId project : String} (named : memoryId ≠ "")
    (hashed : card.text .contentHash ≠ "") :
    authorityKey? (cardPayload host card memoryId brainId project) = some ⟨memoryId, card.text .contentHash⟩ := by
  simp [authorityKey?, cardPayload, hashed, Doc.get?_set, named]

/-- The episode of a card with a hash gives the card's id, without the blanks around it, and its hash. -/
theorem authorityKey?_episode {card : Doc} {project : String} {episode : OntologyEpisode}
    (made : episodeFromMemoryCard host card project = .ok episode) (hashed : card.text .contentHash ≠ "") :
    authorityKey? episode.payload = some ⟨strip (card.text .memoryId), card.text .contentHash⟩ := by
  simp only [episodeFromMemoryCard, bind_eq_ok] at made
  obtain ⟨memoryId, named, cardType, _, brainId, _, refs, _, observedAt, _, made⟩ := made
  obtain ⟨rfl, filled⟩ := requireNonEmpty_eq_ok named
  rw [OntologyEpisode.fromPayload_payload made]
  exact authorityKey?_cardPayload filled hashed

/-! ## Which cards have an episode -/

theorem isAlphanum_of_isHexDigit {c : Char} (hex : isHexDigit c) : c.isAlphanum := by
  simp only [isHexDigit, Bool.or_eq_true, Bool.and_eq_true, decide_eq_true_eq] at hex
  have small {low high : Char} (within : low ≤ c ∧ c ≤ high) : low.val ≤ c.val ∧ c.val ≤ high.val := within
  rcases hex with digit | letter
  · have shown : c.isDigit := by
      show (decide (c.val ≥ '0'.val) && decide (c.val ≤ '9'.val)) = true
      simpa using small digit
    show (c.isAlpha || c.isDigit) = true
    rw [shown, Bool.or_true]
  · have bounds := small letter
    have shown : c.isLower := by
      show (decide (c.val ≥ 'a'.val) && decide (c.val ≤ 'z'.val)) = true
      simp only [Bool.and_eq_true, decide_eq_true_eq]
      exact ⟨bounds.1, UInt32.le_trans bounds.2 (by decide)⟩
    show ((c.isUpper || c.isLower) || c.isDigit) = true
    rw [shown, Bool.or_true, Bool.true_or]

theorem strip_of_all {text : String} (dense : ∀ c ∈ text.toList, isSpace c = false) : strip text = text := by
  have same {l : List Char} (dense : ∀ c ∈ l, isSpace c = false) : l.dropWhile isSpace = l := by
    cases l with
    | nil => rfl
    | cons c rest => simp [dense c List.mem_cons_self]
  unfold strip
  rw [same dense, same (by simpa using dense), List.reverse_reverse, String.ofList_toList]

theorem isSpace_of_isAlphanum {c : Char} (shown : c.isAlphanum ∨ c ∈ ['_', ':', '-']) : isSpace c = false := by
  have letters (low high : Char) (within : c.val ≥ low.val ∧ c.val ≤ high.val) :
      low.val.toNat ≤ c.toNat ∧ c.toNat ≤ high.val.toNat := within
  have both {p q : Prop} [Decidable p] [Decidable q] (holds : (decide p && decide q) = true) : p ∧ q := by
    simpa using holds
  have inside : (48 ≤ c.toNat ∧ c.toNat ≤ 58) ∨ (65 ≤ c.toNat ∧ c.toNat ≤ 122) ∨ c.toNat = 45 := by
    rcases shown with shown | shown
    · have kinds : ((c.isUpper || c.isLower) || c.isDigit) = true := shown
      simp only [Bool.or_eq_true] at kinds
      rcases kinds with (upper | lower) | digit
      · have bounds : 65 ≤ c.toNat ∧ c.toNat ≤ 90 := letters 'A' 'Z' (of_decide_eq_true upper)
        omega
      · have bounds : 97 ≤ c.toNat ∧ c.toNat ≤ 122 := letters 'a' 'z' (both lower)
        omega
      · have bounds : 48 ≤ c.toNat ∧ c.toNat ≤ 57 := letters '0' '9' (both digit)
        omega
    · simp only [List.mem_cons, List.not_mem_nil, or_false] at shown
      rcases shown with rfl | rfl | rfl <;> decide
  simp only [isSpace, Bool.or_eq_false_iff, Bool.and_eq_false_iff, decide_eq_false_iff_not, beq_eq_false_iff_ne]
  omega

theorem strip_of_isOpaqueId {text : String} (shown : isOpaqueId text) : strip text = text := by
  apply strip_of_all
  intro c mem
  unfold isOpaqueId at shown
  cases shape : text.toList with
  | nil => simp [shape] at mem
  | cons first rest =>
      simp only [shape, Bool.and_eq_true, List.all_eq_true, Bool.or_eq_true, decide_eq_true_eq] at shown
      rw [shape] at mem
      rcases List.mem_cons.mp mem with rfl | later
      · have letter : c.isAlphanum := by
          show (c.isAlpha || c.isDigit) = true
          rw [shown.1.1.1, Bool.true_or]
        exact isSpace_of_isAlphanum (.inl letter)
      · exact isSpace_of_isAlphanum (shown.2 c later)

/-- A label in front of a short hash is an opaque id. -/
theorem isOpaqueId_shortHash {label : String} (shown : isOpaqueId label) (short : label.length ≤ 100)
    (parts : List Json) : isOpaqueId (label ++ shortHash host parts) := by
  have digest := host.py.hexdigest_hex (.json (.arr parts))
  simp only [isHexDigest, Bool.and_eq_true, beq_iff_eq, List.all_eq_true] at digest
  have hex : ∀ c ∈ (shortHash host parts).toList, c.isAlphanum := by
    intro c mem
    rw [shortHash, String.toList_ofList] at mem
    exact isAlphanum_of_isHexDigit (digest.2 c (List.mem_of_mem_take mem))
  have size : (shortHash host parts).toList.length ≤ 16 := by
    rw [shortHash, String.toList_ofList, List.length_take]
    exact min_le_left _ _
  rw [← String.length_toList] at short
  unfold isOpaqueId at shown ⊢
  rw [String.toList_append]
  cases shape : label.toList with
  | nil => simp [shape] at shown
  | cons first rest =>
      simp only [shape, Bool.and_eq_true, decide_eq_true_eq, List.cons_append, List.length_append,
        List.all_append, List.length_cons] at shown short ⊢
      refine ⟨⟨⟨shown.1.1.1, by omega⟩, by omega⟩, shown.2, ?_⟩
      rw [List.all_eq_true]
      intro c mem
      simp [hex c mem]

/-- No text counts as private. -/
def Host.Quiet (host : Host) : Prop := ∀ text, host.privateContent text = false

mutual

theorem publicSafe_of_quiet (quiet : host.Quiet) (v : Json) : publicSafe host v = true := by
  cases v with
  | arr items =>
      rw [publicSafe]
      exact publicSafeItems_of_quiet quiet items
  | obj fields =>
      rw [publicSafe]
      exact publicSafeFields_of_quiet quiet fields
  | null | bool | num | dec | str => simp [publicSafe, quiet _]

theorem publicSafeItems_of_quiet (quiet : host.Quiet) (items : List Json) : publicSafeItems host items = true := by
  cases items with
  | nil => rfl
  | cons item rest =>
      rw [publicSafeItems, publicSafe_of_quiet quiet item, publicSafeItems_of_quiet quiet rest]
      rfl

theorem publicSafeFields_of_quiet (quiet : host.Quiet) (fields : List (Key × Json)) :
    publicSafeFields host fields = true := by
  cases fields with
  | nil => rfl
  | cons entry rest =>
      obtain ⟨key, value⟩ := entry
      rw [publicSafeFields, quiet, publicSafe_of_quiet quiet value, publicSafeFields_of_quiet quiet rest]
      rfl

end

theorem requireOpaqueId_eq_ok (quiet : host.Quiet) {text field : String} (shown : isOpaqueId text) :
    requireOpaqueId host text field = .ok () := by
  have filled : text ≠ "" := by
    rintro rfl
    simp [isOpaqueId] at shown
  simp [requireOpaqueId, requireNonEmpty, strip_of_isOpaqueId shown, filled, shown, ensurePublicSafe, refuseIf,
    publicSafe_of_quiet quiet]

theorem requireSha256_hashPayload (v : Json) (field : String) : requireSha256 (hashPayload host v) field = .ok () := by
  have like := hashLike_sha256Hash host.py (.json v)
  have filled : hashPayload host v ≠ "" := hashLike_nonempty like
  have dense : strip (hashPayload host v) = hashPayload host v := by
    apply strip_of_all
    intro c mem
    have digest := host.py.hexdigest_hex (.json v)
    simp only [isHexDigest, Bool.and_eq_true, List.all_eq_true] at digest
    rw [hashPayload, sha256Hash, String.toList_append, List.mem_append] at mem
    rcases mem with front | back
    · rw [show "sha256:".toList = ['s', 'h', 'a', '2', '5', '6', ':'] from rfl] at front
      simp only [List.mem_cons, List.not_mem_nil, or_false] at front
      rcases front with rfl | rfl | rfl | rfl | rfl | rfl | rfl <;> rfl
    · exact isSpace_of_isAlphanum (.inl (isAlphanum_of_isHexDigit (digest.2 c back)))
  have shown : hashLike (hashPayload host v) = true := like
  simp [requireSha256, requireNonEmpty, dense, refuseIf, filled, shown]

/-- Where nothing private is found, an episode is made of every draft with an opaque natural id. -/
theorem OntologyEpisode.exists_fromPayload (quiet : host.Quiet) {draft : OntologyEpisode}
    (event : isOpaqueId draft.eventId) (natural : isOpaqueId draft.naturalId) (typed : strip draft.entityType ≠ "") :
    ∃ episode, draft.fromPayload host = .ok episode := by
  have labelled (label : String) (shown : isOpaqueId label) (short : label.length ≤ 100) (parts : List Json)
      (field : String) : requireOpaqueId host (label ++ shortHash host parts) field = .ok () :=
    requireOpaqueId_eq_ok quiet (isOpaqueId_shortHash shown short parts)
  have named : requireNonEmpty draft.entityType "entity_type" = .ok (strip draft.entityType) := by
    simp [requireNonEmpty, refuseIf, typed]
  have safe (v : Json) (field : String) : ensurePublicSafe host v field = .ok () := by
    simp [ensurePublicSafe, refuseIf, publicSafe_of_quiet quiet]
  simp only [fromPayload, check, labelled "episode:" (by decide) (by decide),
    labelled "ontology-episode:" (by decide) (by decide), requireOpaqueId_eq_ok quiet event,
    requireOpaqueId_eq_ok quiet natural, requireSha256_hashPayload, named, safe, ok_bind, pure_eq_ok]
  exact ⟨_, rfl⟩

/-- Where nothing private is found, every card with an opaque natural id, the brain of its project and
    its references in a list has an episode. -/
theorem exists_episode (quiet : host.Quiet) {card : Doc} {project : String}
    (natural : isOpaqueId (strip (card.text .cardType) ++ ":" ++ strip (card.text .memoryId)))
    (identified : strip (card.text .memoryId) ≠ "" ∧ strip (card.text .cardType) ≠ "")
    (grouped : ∃ brainId, resolveCardBrainId (card.text .brainId) project
      (if project = "" then card.text .project else project) = .ok brainId)
    (cited : ∃ refs, sourceRefIds card = .ok refs) (observed : ∃ observedAt, cardObservedAt host card = .ok observedAt) :
    ∃ episode, episodeFromMemoryCard host card project = .ok episode := by
  obtain ⟨brainId, grouped⟩ := grouped
  obtain ⟨refs, cited⟩ := cited
  obtain ⟨observedAt, observed⟩ := observed
  have typed : strip (entityTypeForCard (card.text .cardType)) ≠ "" := by
    unfold entityTypeForCard
    split <;> decide
  simp only [episodeFromMemoryCard, requireNonEmpty, refuseIf, identified, grouped, cited, observed, if_false, ok_bind,
    pure_eq_ok]
  exact OntologyEpisode.exists_fromPayload quiet (isOpaqueId_shortHash (by decide) (by decide) _) natural typed

end Mapping

/-- A host to which no text is private. -/
def plainHost : Host where
  py := forcedPlatform
  publicSafeText text _ := text
  privateContent _ := false
  isDigit := Char.isDigit
  utcNow := "1970-01-01T00:00:00+00:00"

end Neurons.Graph
