import Mathlib.Algebra.Ring.Int.Defs
import Neurons.Source.Platform

/-! # Memory card envelopes

A steward card is a JSON envelope (`memory_card.py`). Every transition validates
the envelope it starts from and the one it produces, and changes a fixed list of
its fields (`memory_promotion.py`, `memory_evaluation.py`).
-/

namespace Neurons.Steward

open Neurons.Lib
open Neurons.Source

/-- What the steward takes from elsewhere: library calls, the text screens of
    `redaction.py`, and the projections of the public surface. -/
structure Library where
  py : Platform
  /-- `datetime.isoformat()` -/
  isoformat : Int → String
  /-- the instant a `timestamptz` column gets from `datetime.fromisoformat(text)` -/
  fromisoformat : String → Option Int
  /-- the instant a `timestamptz` column gets from the text itself -/
  timestamptz : String → Option Int
  timestamptz_isoformat : ∀ t, timestamptz (isoformat t) = some t
  /-- `datetime.fromisoformat(text)` is timezone-aware -/
  awareTime : String → Bool
  /-- one of the forbidden patterns is found in the text -/
  forbiddenPattern : String → Bool
  redactText : String → String
  /-- `bound_text(" ".join(redact_text_v2(reason).split()), 240)` -/
  boundedReason : String → String
  canonicalizeProvider : String → String
  /-- whether the source span asserts no raw transcript or extra source content -/
  plainSourceSpan : Json → Bool
  /-- `build_feedback_record`, whose record this path drops -/
  feedbackRecord : Doc → String → String → Option String → Except PyError Unit
  /-- `assert_public_safe` -/
  publicSafe : Json → Except PyError Unit
  /-- the authority item of a card, as the public surface shows it -/
  authorityItem : Doc → Json
  /-- the review item of a card -/
  reviewItem : Doc → Json
  /-- `float(text)` -/
  float : String → Option Json
  /-- a confidence after its `NUMERIC(3,2)` column -/
  storedConfidence : Json → Json
  /-- the words of a title, lower case, without punctuation -/
  subjectTitle : String → String
  /-- the claims of a bundle token signed with this process's key -/
  tokenClaims : String → Option Json
  /-- the store's embedding profile is the local one -/
  localProfile : Bool
  /-- the profile the environment resolves to is the local one -/
  environmentLocalProfile : Bool
  /-- `_enqueue_local_outbox_on`, over the tables of the local embedding profile -/
  enqueueLocal : List Json → Doc → Except PyError (List Json)

/-! ## Vocabulary -/

def memoryCardTypes : List String := ["decision", "task", "drift", "preference", "status", "evidence"]
def lifecycleStates : List String :=
  ["candidate", "suggested_accept", "human_accepted", "human_rejected", "auto_accepted",
    "needs_review", "accepted", "rejected"]
def judgmentStates : List String :=
  ["none", "suggested_status", "suggested_superseded", "auto_status", "needs_review"]
def approvalStates : List String :=
  ["suggested", "approved", "rejected", "auto_accepted", "needs_review"]
def governanceTiers : List String := ["low", "medium", "high"]
def freshnessValues : List String := ["current", "recent", "historical", "unknown"]
def currentnessValues : List String :=
  ["current", "stale", "superseded", "conflicted", "unknown", "retired"]
def authorizationStatuses : List String := ["active", "disabled"]
def reviewLifecycleStates : List String := ["candidate", "suggested_accept", "needs_review"]
def acceptedLifecycleStates : List String := ["accepted", "human_accepted", "auto_accepted"]
def acceptedApprovalStates : List String := ["approved", "auto_accepted"]

def commonMemoryCardFields : List Field :=
  [.memoryId, .brainId, .cardType, .scope, .project, .provider, .title, .summary, .renderText,
    .lifecycleState, .judgmentState, .status, .approvalState, .governanceTier, .freshness,
    .currentness, .confidence, .confidenceBasis, .sourceRefs, .evidenceRefs, .evidenceHashes,
    .derivedFrom, .supersedes, .supersededBy, .conflicts, .activeUntil, .typedPayload]

def typedPayloadRequiredFields : String → List Field
  | "decision" => [.decision, .rationale, .alternatives, .consequence, .authorityRef]
  | "task" => [.taskState, .nextAction, .blocker, .ownerHint, .status]
  | "drift" => [.subject, .expectedState, .observedState, .driftKind, .severity, .authorityLane,
      .sourcePrecedenceRank, .resolutionAction, .suggestedAction, .basisRefs]
  | "preference" => [.preference, .explicitness, .repeatedCount, .confirmationStatus, .appliesTo]
  | "status" => [.statusValue, .observedAt, .expiresAt, .currentAuthority]
  | "evidence" => [.evidenceKind, .resultStatus, .hashRefs, .countRefs]
  | _ => []

def reasonCapsuleFields : List Field :=
  [.ruleHits, .deterministicSignals, .evidenceGap, .modelReason, .policyVersion, .evaluatorVersion,
    .reviewBlockReason]

/-- `card.get(field)`. -/
def value (d : Doc) (f : Field) : Json := (d.get? f).getD .null

/-! ## Checks -/

section Checks

def requireFields (d : Doc) (fields : List Field) (owner : String) : Except PyError Unit :=
  let missing := fields.filter (fun f => !d.has f)
  refuseIf (missing ≠ []) (.valueError (owner ++ " missing required fields: " ++
    ", ".intercalate (missing.map Field.name)))

/-- The field holds one of the listed texts. -/
def oneOf (d : Doc) (f : Field) (allowed : List String) : Bool :=
  match d.get? f with
  | some (.str s) => s ∈ allowed
  | _ => false

def requireEnum (d : Doc) (f : Field) (allowed : List String) (owner : String) :
    Except PyError Unit :=
  refuseIf (oneOf d f allowed = false)
    (.valueError (owner ++ "." ++ f.name ++ " must be one of: " ++ ", ".intercalate allowed))

def requireNumber (v : Json) (fieldName : String) : Except PyError Unit :=
  let outside := PyError.valueError (fieldName ++ " must be between 0 and 1")
  match v with
  | .num n => refuseIf (¬ (0 ≤ n ∧ n ≤ 1)) outside
  | .dec m scale => refuseIf (¬ (0 ≤ m ∧ m ≤ 10 ^ scale)) outside
  | _ => .error (.valueError (fieldName ++ " must be a number"))

def requirePositiveInteger (v : Json) (fieldName : String) : Except PyError Unit :=
  match v with
  | .num n => refuseIf (n < 1) (.valueError (fieldName ++ " must be a positive integer"))
  | _ => .error (.valueError (fieldName ++ " must be a positive integer"))

def requireList (v : Json) (fieldName : String) : Except PyError (List Json) :=
  match v with
  | .arr items => .ok items
  | _ => .error (.valueError (fieldName ++ " must be a list"))

variable (lib : Library)

/-- The screen of one scalar. -/
def ensureNoForbiddenText (path text : String) : Except PyError Unit := do
  refuseIf (lib.forbiddenPattern text)
    (.valueError (path ++ " contains forbidden private/source content"))
  refuseIf (lib.redactText text ≠ text)
    (.valueError (path ++ " contains redaction-required content"))

mutual

def ensureNoForbiddenContent (path : String) : Json → Except PyError Unit
  | .obj fields => ensureNoForbiddenFields path fields
  | .arr items => ensureNoForbiddenItems path 0 items
  | .null => .ok ()
  | v => ensureNoForbiddenText lib path v.text

def ensureNoForbiddenFields (path : String) : List (Key × Json) → Except PyError Unit
  | [] => .ok ()
  | (k, child) :: rest => do
      ensureNoForbiddenText lib (path ++ "." ++ k.name) k.name
      ensureNoForbiddenContent (path ++ "." ++ k.name) child
      ensureNoForbiddenFields path rest

def ensureNoForbiddenItems (path : String) (index : Nat) : List Json → Except PyError Unit
  | [] => .ok ()
  | child :: rest => do
      ensureNoForbiddenContent (path ++ "[" ++ toString index ++ "]") child
      ensureNoForbiddenItems path (index + 1) rest

end

def forbiddenRefKeys : List String :=
  ["body", "content", "excerpt", "path", "raw", "raw_excerpt", "raw_text", "raw_transcript",
    "secret", "text", "token", "uri", "url"]

mutual

/-- Forbidden locator keys inside nested mappings and lists. -/
def rejectForbiddenRefKeys (path : String) : Json → Except PyError Unit
  | .obj fields => rejectForbiddenRefFields path fields
  | .arr items => rejectForbiddenRefItems path 0 items
  | _ => .ok ()

def rejectForbiddenRefFields (path : String) : List (Key × Json) → Except PyError Unit
  | [] => .ok ()
  | (k, child) :: rest => do
      refuseIf (k.name ∈ forbiddenRefKeys)
        (.valueError (path ++ "." ++ k.name ++ " is not an opaque locator field"))
      rejectForbiddenRefKeys (path ++ "." ++ k.name) child
      rejectForbiddenRefFields path rest

def rejectForbiddenRefItems (path : String) (index : Nat) : List Json → Except PyError Unit
  | [] => .ok ()
  | child :: rest => do
      rejectForbiddenRefKeys (path ++ "[" ++ toString index ++ "]") child
      rejectForbiddenRefItems path (index + 1) rest

end

def validateSourceLocator (ref : Json) (fieldName : String) : Except PyError Unit :=
  match ref with
  | .str s => do
      refuseIf (strip s = "") (.valueError (fieldName ++ " must not be empty"))
      ensureNoForbiddenText lib fieldName s
  | .obj fields => fields.forM (fun entry => do
      let path := fieldName ++ "." ++ entry.1.name
      refuseIf (entry.1.name ∈ forbiddenRefKeys)
        (.valueError (path ++ " is not an opaque locator field"))
      ensureNoForbiddenText lib path entry.1.name
      ensureNoForbiddenContent lib path entry.2
      rejectForbiddenRefKeys path entry.2)
  | _ => .error (.valueError (fieldName ++ " must be an opaque string or object"))

def validateLocatorList (v : Json) (fieldName : String) : Except PyError Unit := do
  let items ← requireList v fieldName
  items.forM (fun item => validateSourceLocator lib item (fieldName ++ "[]"))

def isHashText : Json → Bool
  | .str s => hashLike s
  | _ => false

def validateHashList (v : Json) (fieldName : String) : Except PyError Unit := do
  let items ← requireList v fieldName
  items.forM (fun item => refuseIf (isHashText item = false)
    (.valueError (fieldName ++ " entries must be sha256 strings matching ^sha256:[0-9a-f]\x7b64\x7d$")))

/-- The lenient content hash contract: blank, or an opaque `sha256:` label. -/
def legacyContentHash (text : String) : Bool :=
  text == "" || (hasPrefix "sha256:" text && 7 < text.length)

def validateContentHash (v : Json) : Except PyError Unit :=
  refuseIf (legacyContentHash v.text = false) (.valueError
    "content_hash must be a sha256 string matching ^sha256:[0-9a-f]\x7b64\x7d$")

def validateObservedAt (v : Json) : Except PyError Unit :=
  let invalid := PyError.valueError "observed_at must be a timezone-aware ISO-8601 string"
  match v with
  | .str s => do
      ensureNoForbiddenText lib "observed_at" s
      refuseIf (¬ (contains "T" s ∧ lib.awareTime (replaceZulu s))) invalid
  | _ => .error invalid

def validateTypedPayload (cardType : String) (payload : Json) : Except PyError Unit := do
  let owner := "typed_payload"
  refuseIf (cardType ∉ memoryCardTypes)
    (.valueError ("unsupported MemoryCard card_type: " ++ cardType))
  match Doc.ofJson? payload with
  | none => .error (.valueError (owner ++ " must be an object"))
  | some normalized => do
      requireFields normalized (typedPayloadRequiredFields cardType) owner
      ensureNoForbiddenContent lib owner normalized.json
      if cardType = "drift" then do
        requireEnum normalized .severity ["low", "medium", "high"] owner
        requireEnum normalized .authorityLane
          ["design", "implementation", "runtime", "governance"] owner
        requireEnum normalized .resolutionAction
          ["keep_current", "mark_superseded", "update_projection", "needs_review"] owner
        requireNumber (value normalized .sourcePrecedenceRank) (owner ++ ".source_precedence_rank")
        validateLocatorList lib (value normalized .basisRefs) (owner ++ ".basis_refs")
      else if cardType = "preference" then do
        requireEnum normalized .explicitness ["explicit", "inferred"] owner
        requireEnum normalized .confirmationStatus ["unconfirmed", "confirmed", "rejected"] owner
        requirePositiveInteger (value normalized .repeatedCount) (owner ++ ".repeated_count")
        match normalized.get? .exceptions with
        | none => return
        | some exceptions => do
            let items ← requireList exceptions (owner ++ ".exceptions")
            items.forM (fun item =>
              match item with
              | .str s => ensureNoForbiddenText lib (owner ++ ".exceptions[]") s
              | _ => .error (.valueError (owner ++ ".exceptions entries must be strings")))
      else if cardType = "evidence" then do
        requireEnum normalized .evidenceKind
          ["commit", "merge", "runtime", "user_approval", "transcript", "document"] owner
        requireEnum normalized .resultStatus ["pass", "fail", "mixed", "unknown"] owner
        validateHashList (value normalized .hashRefs) (owner ++ ".hash_refs")
        let _ ← requireList (value normalized .countRefs) (owner ++ ".count_refs")
      else return

def validateMemoryCardStateInvariants (card : Doc) : Except PyError Unit := do
  let lifecycle := card.text .lifecycleState
  let judgment := card.text .judgmentState
  let approval := card.text .approvalState
  refuseIf (lifecycle = "accepted" ∧ approval = "suggested")
    (.valueError "accepted MemoryCard cannot have suggested approval_state")
  refuseIf (lifecycle = "accepted" ∧ judgment = "needs_review")
    (.valueError "accepted MemoryCard cannot have needs_review judgment_state")
  refuseIf (approval = "auto_accepted" ∧ card.get? .autoPolicyReady ≠ some (.bool true))
    (.valueError "auto_accepted requires auto_policy_ready=true")
  refuseIf (card.text .currentness = "superseded" ∧ card.value? .supersededBy = none ∧
      judgment ≠ "suggested_superseded")
    (.valueError "superseded MemoryCard requires superseded_by or suggested_superseded")
  refuseIf (judgment = "auto_status" ∧
      (((card.get? .reasonCapsule).bind Doc.ofJson?).bind (·.value? .policyVersion)) = none)
    (.valueError "auto_status requires reason_capsule.policy_version")

def validateReasonCapsule (capsule : Json) : Except PyError Unit :=
  match Doc.ofJson? capsule with
  | none => .error (.valueError "reason_capsule must be an object")
  | some normalized => do
      requireFields normalized reasonCapsuleFields "reason_capsule"
      let _ ← requireList (value normalized .ruleHits) "reason_capsule.rule_hits"
      let _ ← requireList (value normalized .deterministicSignals)
        "reason_capsule.deterministic_signals"
      let _ ← requireList (value normalized .evidenceGap) "reason_capsule.evidence_gap"
      ensureNoForbiddenContent lib "reason_capsule" normalized.json
      refuseIf (normalized.text .policyVersion = "")
        (.valueError "reason_capsule.policy_version is required")
      refuseIf (normalized.text .evaluatorVersion = "")
        (.valueError "reason_capsule.evaluator_version is required")

/-- The closed vocabularies of an envelope. -/
def validateEnums (card : Doc) : Except PyError Unit := do
  requireEnum card .cardType memoryCardTypes "MemoryCard"
  requireEnum card .lifecycleState lifecycleStates "MemoryCard"
  requireEnum card .judgmentState judgmentStates "MemoryCard"
  requireEnum card .approvalState approvalStates "MemoryCard"
  requireEnum card .governanceTier governanceTiers "MemoryCard"
  requireEnum card .freshness freshnessValues "MemoryCard"
  requireEnum card .currentness currentnessValues "MemoryCard"
  if value card .authorizationStatus ≠ .null then
    requireEnum card .authorizationStatus authorizationStatuses "MemoryCard"
  if value card .contentHash ≠ .null then
    validateContentHash (value card .contentHash)

/-- What is checked of the rest of an envelope: texts, references and payload. -/
def validateContents (card : Doc) : Except PyError Unit := do
  match card.get? .observedAt with
  | some observed => validateObservedAt lib observed
  | none => pure ()
  requireNumber (value card .confidence) "confidence"
  ensureNoForbiddenContent lib "summary" (value card .summary)
  ensureNoForbiddenContent lib "render_text" (value card .renderText)
  ensureNoForbiddenContent lib "title" (value card .title)
  ensureNoForbiddenContent lib "confidence_basis" (value card .confidenceBasis)
  validateLocatorList lib (value card .sourceRefs) "source_refs"
  validateLocatorList lib (value card .evidenceRefs) "evidence_refs"
  validateHashList (value card .evidenceHashes) "evidence_hashes"
  let _ ← requireList (value card .derivedFrom) "derived_from"
  let _ ← requireList (value card .supersedes) "supersedes"
  let _ ← requireList (value card .supersededBy) "superseded_by"
  let _ ← requireList (value card .conflicts) "conflicts"
  validateTypedPayload lib (card.text .cardType) (value card .typedPayload)
  validateMemoryCardStateInvariants card
  if card.text .judgmentState ∈ ["suggested_status", "suggested_superseded", "auto_status",
      "needs_review"] ∨ card.text .lifecycleState ∈ ["suggested_accept", "needs_review"] then
    validateReasonCapsule lib (value card .reasonCapsule)

def validateMemoryCardEnvelope (card : Doc) : Except PyError Unit := do
  requireFields card commonMemoryCardFields "MemoryCard"
  validateEnums card
  validateContents lib card

def validateJudgmentBasisBundle (bundle : Json) : Except PyError Unit :=
  let owner := "judgment_basis_bundle"
  match Doc.ofJson? bundle with
  | none => .error (.valueError "judgment basis bundle must be an object")
  | some normalized => do
      requireFields normalized [.judgmentId, .memoryId, .sourceRefs, .spanRefs, .redactedSummary,
        .evidenceHashes, .deterministicSignals, .modelReason, .confidence, .policyVersion,
        .evaluatorVersion] owner
      validateLocatorList lib (value normalized .sourceRefs) (owner ++ ".source_refs")
      validateLocatorList lib (value normalized .spanRefs) (owner ++ ".span_refs")
      validateHashList (value normalized .evidenceHashes) (owner ++ ".evidence_hashes")
      let _ ← requireList (value normalized .deterministicSignals)
        (owner ++ ".deterministic_signals")
      requireNumber (value normalized .confidence) (owner ++ ".confidence")
      ensureNoForbiddenContent lib owner normalized.json

end Checks

/-! ## Transitions -/

section Transitions

variable (lib : Library)

/-- Validate, update some fields, validate again. -/
def revise (card : Doc) (changes : List (Field × Json)) : Except PyError Doc := do
  validateMemoryCardEnvelope lib card
  let revised := card.update changes
  validateMemoryCardEnvelope lib revised
  return revised

def humanApproveMemoryCardCandidate (candidate : Doc) (approvedBy decisionId : String)
    (userReason : Option String) (now : String) : Except PyError Doc := do
  let accepted ← revise lib candidate [
    (.lifecycleState, .str "human_accepted"), (.judgmentState, .str "none"),
    (.status, .str "accepted"), (.approvalState, .str "approved"), (.freshness, .str "current"),
    (.currentness, .str "current"), (.approvedBy, .str approvedBy), (.approvedAt, .str now)]
  lib.feedbackRecord accepted decisionId "approve" userReason
  return accepted

def humanRejectMemoryCardCandidate (candidate : Doc) (rejectedBy decisionId reason now : String) :
    Except PyError Doc := do
  let rejected ← revise lib candidate [
    (.lifecycleState, .str "human_rejected"), (.judgmentState, .str "none"),
    (.status, .str "rejected"), (.approvalState, .str "rejected"),
    (.rejectedBy, .str rejectedBy), (.rejectedAt, .str now)]
  lib.feedbackRecord rejected decisionId "reject" (some reason)
  return rejected

def commitSupersession (oldCard : Doc) (supersededBy : String) : Except PyError Doc := do
  validateMemoryCardEnvelope lib oldCard
  refuseIf (supersededBy = "")
    (.valueError "commit_supersession requires a superseded_by memory_id")
  revise lib oldCard [(.currentness, .str "superseded"), (.freshness, .str "historical"),
    (.supersededBy, .arr [.str supersededBy])]

def commitStale (acceptedCard : Doc) : Except PyError Doc :=
  revise lib acceptedCard [(.currentness, .str "stale"), (.freshness, .str "historical")]

/-- Why a candidate is structurally unsafe to accept; blank when it is not. -/
def classifyCandidateBlockReason (candidate : Doc) : String :=
  let payload := ((candidate.value? .typedPayload).bind Doc.ofJson?).getD ∅
  if candidate.value? .sourceRefs = none then "missing_source_refs"
  else if candidate.value? .conflicts ≠ none then "conflict"
  else if candidate.get? .currentness = some (.str "conflicted") then "conflict"
  else if candidate.get? .cardType = some (.str "drift") ∧
      payload.get? .severity = some (.str "high") then "high_severity_drift"
  else ""

def forbiddenAutoPolicyOperations : List String :=
  ["memory_delete", "live_gc_execute", "index_dataset_delete", "index_dataset_disable",
    "private_transcript_raw_exposure", "secret_source_return", "runtime_mutation_execute"]

/-- The operations an evaluation asks for, as texts. -/
def requestedOperations (evaluation : Doc) : Except PyError (List String) :=
  match evaluation.value? .requestedOperations with
  | none => .ok []
  | some (.arr items) => .ok (items.map (fun item => if item.truthy then item.text else ""))
  | some (.str s) => .ok (s.toList.map (fun c => String.ofList [c]))
  | some (.obj fields) => .ok (fields.map (·.1.name))
  | some _ => .error (.typeError "object is not iterable")

def acceptedEvidenceKinds : List String := ["commit", "merge", "runtime", "runtime_verification"]

/-- Some evidence reference of a suggested card names an accepting decision. -/
def acceptedEvidenceBasis (card : Doc) : Bool :=
  card.text .lifecycleState == "suggested_accept" &&
    match card.value? .evidenceRefs with
    | some (.arr refs) => (refs.filterMap Doc.ofJson?).any (fun ref =>
        ref.text .evidenceKind ∈ acceptedEvidenceKinds ∧ ref.text .decisionId ≠ "")
    | _ => false

/-- The auto-accepted card, with the evaluation's reasons. -/
def autoAccept (candidate evaluation : Doc) (operatorApprovalRef : String) :
    Except PyError Doc := do
  match evaluation.get? .reasonCapsule with
  | none => .error (.keyError "'reason_capsule'")
  | some capsule =>
      match Doc.ofJson? capsule with
      | none => .error (.typeError "object is not a mapping")
      | some reasonCapsule => revise lib candidate [
          (.lifecycleState, .str "auto_accepted"), (.judgmentState, .str "auto_status"),
          (.approvalState, .str "auto_accepted"), (.status, .str "accepted"),
          (.freshness, .str "current"), (.currentness, .str "current"),
          (.autoPolicyReady, .bool true), (.operatorApprovalRef, .str operatorApprovalRef),
          (.reasonCapsule, reasonCapsule.json)]

/-- The card an auto acceptance would store; none unless its status is
    `auto_accepted`. -/
def applyAutoAcceptancePlan (candidate evaluation : Doc) (operatorApprovalRef : String) :
    Except PyError (Option Doc) := do
  let operations ← requestedOperations evaluation
  if operations.any (· ∈ forbiddenAutoPolicyOperations) ∨
      evaluation.get? .decision ≠ some (.str "auto_accept_eligible") then
    return none
  else
    validateMemoryCardEnvelope lib candidate
    if acceptedEvidenceBasis candidate = false ∨
        evaluation.value? .acceptedEvidenceBasis = none ∨ operatorApprovalRef = "" then
      return none
    else return some (← autoAccept lib candidate evaluation operatorApprovalRef)

/-- The acceptance of the structural-safety autopilot. -/
def autopilotAccept (current : Doc) (decisionId : String) : Except PyError Doc :=
  revise lib current [
    (.lifecycleState, .str "auto_accepted"), (.judgmentState, .str "auto_status"),
    (.approvalState, .str "auto_accepted"), (.status, .str "accepted"),
    (.freshness, .str "current"), (.currentness, .str "current"),
    (.autoPolicyReady, .bool true), (.operatorApprovalRef, .str decisionId),
    (.reasonCapsule, (Doc.ofFields [
      (.ruleHits, .arr [.str "autopilot_work_memory_passed", .str "structural_safety_passed"]),
      (.deterministicSignals, .arr [
        (Doc.ofFields [(.kind, .str "card_type"), (.value, .str (current.text .cardType))]).json,
        (Doc.ofFields [(.kind, .str "confidence"), (.value, value current .confidence)]).json]),
      (.evidenceGap, .arr []),
      (.modelReason, .str "Candidate passed structural safety checks for automatic promotion."),
      (.policyVersion, .str "policy.v1"),
      (.evaluatorVersion, .str "eval.v1"),
      (.reviewBlockReason, .str "")]).json)]

/-- A stale proposal, closed; only its own record changes here. -/
def closeStaleProposal (current : Doc) (approvedBy committedAt : String) : Doc :=
  current.update [
    (.lifecycleState, .str "human_accepted"), (.judgmentState, .str "none"),
    (.status, .str "accepted"), (.approvalState, .str "approved"), (.approvedBy, .str approvedBy),
    (.approvedAt, .str committedAt), (.stewardCommitState, .str "committed")]

end Transitions

/-! ## Proposals -/

section Proposals

variable (lib : Library)

/-- `hashlib.sha256("|".join(parts)).hexdigest()[:16]`. -/
def sha16 (parts : List String) : String :=
  String.ofList ((lib.py.hexdigest (.text ("|".intercalate parts))).toList.take 16)

theorem sha16_length_le (parts : List String) : (sha16 lib parts).length ≤ 16 := by
  simp only [sha16, String.length_ofList, List.length_take]
  omega

def reasonCapsule (modelReason : String) (deterministicSignals : List Json)
    (reviewBlockReason : String) : Doc :=
  Doc.ofFields [
    (.ruleHits, .arr []), (.deterministicSignals, .arr deterministicSignals),
    (.evidenceGap, .arr []), (.modelReason, .str modelReason), (.policyVersion, .str "policy.v0"),
    (.evaluatorVersion, .str "eval.v0"), (.reviewBlockReason, .str reviewBlockReason)]

def markCandidateNeedsReview (candidate : Doc) (reason decisionId : String) :
    Except PyError Doc := do
  let reviewed ← revise lib candidate [
    (.lifecycleState, .str "needs_review"), (.judgmentState, .str "needs_review"),
    (.status, .str "needs_review"), (.approvalState, .str "needs_review"),
    (.reasonCapsule, (reasonCapsule reason [(Doc.ofFields [(.kind, .str "review_gate")]).json]
      reason).json)]
  lib.feedbackRecord reviewed decisionId "correct" none
  return reviewed

/-- A reference-only proposal that a target card is stale. -/
def buildStaleProposalCard (target : Doc) (reason now : String) : Except PyError Doc := do
  validateMemoryCardEnvelope lib target
  refuseIf (strip reason = "") (.valueError "stale proposal requires a reason")
  let bounded := lib.boundedReason reason
  let targetId := target.text .memoryId
  let scope := target.text .scope
  let card := Doc.ofFields [
    (.memoryId, .str "mem_stale_proposal_pending"),
    (.brainId, .str (target.text .brainId)),
    (.cardType, .str "status"),
    (.scope, .str (if scope = "" then "project" else scope)),
    (.project, .str (target.text .project)),
    (.provider, .str (target.text .provider)),
    (.title, .str "stale proposal"),
    (.summary, .str bounded),
    (.renderText, .str ""),
    (.lifecycleState, .str "needs_review"),
    (.judgmentState, .str "needs_review"),
    (.status, .str "needs_review"),
    (.approvalState, .str "needs_review"),
    (.governanceTier, .str "low"),
    (.freshness, .str "historical"),
    (.currentness, .str "stale"),
    (.confidence, .dec 0 1),
    (.confidenceBasis, .str ""),
    (.sourceRefs, .arr []), (.evidenceRefs, .arr []), (.evidenceHashes, .arr []),
    (.derivedFrom, .arr [.str targetId]),
    (.supersedes, .arr []), (.supersededBy, .arr []), (.conflicts, .arr []),
    (.activeUntil, .null),
    (.typedPayload, (Doc.ofFields [
      (.statusValue, .str "stale"), (.observedAt, .str now), (.expiresAt, .str ""),
      (.currentAuthority, .str targetId)]).json),
    (.reasonCapsule, (reasonCapsule bounded [(Doc.ofFields [
      (.kind, .str "stale_proposal"), (.targetMemoryId, .str targetId)]).json]
      "initial_policy_human_approval_required").json)]
  validateMemoryCardEnvelope lib card
  return card

/-- `str(span.get(field) or default)`. -/
def textOr (d : Doc) (f : Field) (default : String) : String :=
  let text := d.text f
  if text = "" then default else text

theorem textOr_of_str {d : Doc} {f : Field} {s default : String} (held : d.get? f = some (.str s))
    (nonempty : s ≠ "") : textOr d f default = s := by
  simp [textOr, Doc.text_of_str held, nonempty]

/-- A locator as an object, with the defaults of its kind filled in. -/
def normalizeLocator (raw : Json) (fieldName : String) (defaults : List (Field × String)) :
    Except PyError Doc := do
  validateSourceLocator lib raw fieldName
  let locator := match raw with
    | .str s => Doc.ofFields [(.refId, .str s)]
    | v => (Doc.ofJson? v).getD ∅
  return defaults.foldl (fun locator entry =>
    if locator.has entry.1 then locator else locator.set entry.1 (.str entry.2)) locator

def required (span : Doc) (f : Field) : Except PyError Json :=
  match span.get? f with
  | some v => .ok v
  | none => .error (.valueError ("source span missing required field: " ++ f.name))

/-- `dict(value)`. -/
def mapping (v : Json) : Except PyError Doc :=
  match Doc.ofJson? v with
  | some d => .ok d
  | none => .error (.typeError "object is not a mapping")

/-- `float(value)`. -/
def toFloat (v : Json) : Except PyError Json :=
  match v with
  | .num n => .ok (.dec (n * 10) 1)
  | .dec m scale => .ok (.dec m scale)
  | .bool b => .ok (.dec (if b then 10 else 0) 1)
  | .str s =>
      match lib.float s with
      | some number => .ok number
      | none => .error (.valueError ("could not convert string to float: " ++ reprText s))
  | _ => .error (.typeError "float() argument must be a string or a real number")

/-- What the miner settles about a candidate before it writes its envelope. -/
structure CandidateParts where
  project : String
  provider : String
  brainId : String
  scope : String
  cardType : String
  summary : String
  contentHash : String
  typedPayload : Doc
  sourceRef : Doc
  spanRef : Doc
  confidence : Json

/-- `llm_brain_candidate:` and the digest of what identifies the candidate. -/
def CandidateParts.idempotencyKey (parts : CandidateParts) : String :=
  "llm_brain_candidate:" ++ lib.py.hexdigest (.json (Doc.ofFields [
    (.schemaVersion, .str "llm_brain_memory_card_candidate.v1"),
    (.project, .str parts.project), (.brainId, .str parts.brainId), (.scope, .str parts.scope),
    (.sourceRef, parts.sourceRef.json), (.spanRef, parts.spanRef.json),
    (.contentHash, .str parts.contentHash), (.cardType, .str parts.cardType),
    (.typedPayload, parts.typedPayload.json)]).json)

def CandidateParts.candidateHash (parts : CandidateParts) : String :=
  String.ofList ((lib.py.hexdigest (.text (parts.idempotencyKey lib))).toList.take 16)

/-- The judgment basis of a mined candidate. -/
def CandidateParts.basis (parts : CandidateParts) (span : Doc)
    (refreshWatermark miningReason : String) : Doc :=
  Doc.ofFields [
    (.judgmentId, .str ("judgment_" ++ parts.candidateHash lib)),
    (.memoryId, .str ("mem_candidate_" ++ parts.candidateHash lib)),
    (.sourceRefs, .arr [parts.sourceRef.json]), (.spanRefs, .arr [parts.spanRef.json]),
    (.redactedSummary, .str parts.summary),
    (.evidenceHashes, .arr [.str parts.contentHash]),
    (.deterministicSignals, .arr [(Doc.ofFields [(.kind, .str miningReason),
      (.refreshWatermark, .str refreshWatermark)]).json]),
    (.modelReason, .str (span.text .modelReason)),
    (.confidence, parts.confidence),
    (.policyVersion, .str (textOr span .policyVersion "policy.v0")),
    (.evaluatorVersion, .str (textOr span .evaluatorVersion "eval.v0"))]

/-- The envelope of a mined candidate. -/
def CandidateParts.card (parts : CandidateParts) (span : Doc)
    (refreshWatermark miningReason : String) : Doc :=
  let card := Doc.ofFields [
    (.memoryId, .str ("mem_candidate_" ++ parts.candidateHash lib)),
    (.brainId, .str parts.brainId),
    (.cardType, .str parts.cardType),
    (.scope, .str parts.scope),
    (.project, .str parts.project),
    (.provider, .str parts.provider),
    (.title, .str (textOr span .title (parts.cardType.capitalize ++ " candidate"))),
    (.summary, .str parts.summary),
    (.renderText, .str (textOr span .renderText parts.summary)),
    (.lifecycleState, .str "candidate"),
    (.authorizationStatus, .str "disabled"),
    (.judgmentState, .str "none"),
    (.status, .str "candidate"),
    (.approvalState, .str "suggested"),
    (.governanceTier, .str (textOr span .governanceTier "medium")),
    (.freshness, .str "unknown"),
    (.currentness, .str "unknown"),
    (.confidence, parts.confidence),
    (.confidenceBasis, .str (textOr span .confidenceBasis "refresh mining signal")),
    (.contentHash, .str parts.contentHash),
    (.sourceRefs, .arr [parts.sourceRef.json]), (.evidenceRefs, .arr [parts.sourceRef.json]),
    (.evidenceHashes, .arr [.str parts.contentHash]),
    (.derivedFrom, .arr [.str (textOr parts.sourceRef .sourceId (parts.sourceRef.text .refId))]),
    (.supersedes, .arr []), (.supersededBy, .arr []), (.conflicts, .arr []),
    (.activeUntil, .null),
    (.typedPayload, parts.typedPayload.json),
    (.candidateId, .str ("cand_" ++ parts.candidateHash lib)),
    (.idempotencyKey, .str (parts.idempotencyKey lib)),
    (.refreshWatermark, .str refreshWatermark),
    (.spanRefs, .arr [parts.spanRef.json]),
    (.judgmentBasisBundle, (parts.basis lib span refreshWatermark miningReason).json),
    (.miningReason, .str miningReason)]
  match span.get? .observedAt with
  | some observed => card.set .observedAt observed
  | none => card

/-- The parts of a candidate, from one redacted source span. -/
def candidateParts (span : Doc) : Except PyError CandidateParts := do
  refuseIf (lib.plainSourceSpan span.json = false)
    (.valueError "source_span would copy raw transcript content")
  let sourceRef ← normalizeLocator lib
    ((span.value? .sourceRef).getD (Doc.ofFields [(.sourceId, .str "agent_proposal")]).json)
    "source_ref" [(.sourceOwner, "transcript_memory_canonical_store"),
      (.sourceKind, "session_memory_refresh"), (.accessMode, "source_ref_only")]
  let spanRef ← normalizeLocator lib
    ((span.value? .spanRef).getD (Doc.ofFields [(.spanId, .str "agent_proposal_span")]).json)
    "span_ref" [(.sourceOwner, sourceRef.text .sourceOwner),
      (.sourceKind, "session_memory_span"), (.accessMode, "span_ref_only")]
  let contentHash := (← required span .contentHash).text
  refuseIf (legacyContentHash contentHash = false) (.valueError
    "source span content_hash must be a sha256 string matching ^sha256:[0-9a-f]\x7b64\x7d$")
  let cardType := (← required span .cardType).text
  refuseIf (cardType ∉ memoryCardTypes)
    (.valueError "source span card_type must be a MemoryCard card_type")
  let project := (← required span .project).text
  let summary := strip (textOr span .redactedSummary (span.text .summary))
  refuseIf (summary = "") (.valueError "source span requires redacted_summary")
  let typedPayload ← mapping (← required span .typedPayload)
  let confidence ← toFloat lib ((span.get? .confidence).getD (.dec 5 1))
  return {
    project, cardType, summary, contentHash, typedPayload, sourceRef, spanRef, confidence
    provider := textOr span .provider (textOr span .proposer "unspecified")
    brainId := textOr span .brainId ("/project/" ++ project)
    scope := textOr span .scope "project" }

/-- The miner's candidate from one redacted source span. -/
def buildMemoryCardCandidateFromSourceSpan (span : Doc) (refreshWatermark miningReason : String) :
    Except PyError Doc := do
  let parts ← candidateParts lib span
  validateJudgmentBasisBundle lib (parts.basis lib span refreshWatermark miningReason).json
  let card := parts.card lib span refreshWatermark miningReason
  validateMemoryCardEnvelope lib card
  return card

/-- A nonblank text that passes the screen. -/
def requireIdentity (card : Doc) (f : Field) : Except PyError Unit :=
  match card.get? f with
  | some (.str s) => do
      refuseIf (strip s = "") (.valueError ("candidate envelope requires " ++ f.name))
      ensureNoForbiddenText lib f.name s
  | _ => .error (.valueError ("candidate envelope requires " ++ f.name))

def requireSpanRefs (card : Doc) : Except PyError Unit :=
  match card.get? .spanRefs with
  | some (.arr (first :: rest)) =>
      (first :: rest).forM (fun ref => validateSourceLocator lib ref "span_refs[]")
  | _ => .error (.valueError "candidate envelope requires span_refs")

/-- What intake checks of a completed miner envelope, which it then preserves. -/
def checkCompletedEnvelope (card : Doc) : Except PyError Unit := do
  refuseIf (lib.plainSourceSpan card.json = false)
    (.valueError "candidate envelope contains unapproved source fields")
  Source.rescue (ensureNoForbiddenContent lib "candidate_envelope" card.json) [.valueError]
    (.valueError "candidate envelope contains forbidden private/source content")
  validateMemoryCardEnvelope lib card
  refuseIf (oneOf card .lifecycleState reviewLifecycleStates = false ∨
      oneOf card .approvalState ["suggested", "needs_review"] = false ∨
      (card.get? .authorizationStatus).getD (.str "disabled") ≠ .str "disabled")
    (.valueError "candidate envelope must be pending and disabled")
  requireIdentity lib card .candidateId
  requireIdentity lib card .idempotencyKey
  requireSpanRefs lib card
  match card.get? .judgmentBasisBundle with
  | some bundle => validateJudgmentBasisBundle lib bundle
  | none => return

/-- A span with plural locators is a completed envelope. -/
def isCompleted (span : Doc) : Bool := span.has .sourceRefs || span.has .spanRefs

/-- The candidate card of a source span: a completed envelope is validated and
    kept, anything else goes through the miner's builder. -/
def buildCandidate (span : Doc) (refreshWatermark miningReason : String) : Except PyError Doc :=
  if isCompleted span then do
    checkCompletedEnvelope lib span
    return span
  else buildMemoryCardCandidateFromSourceSpan lib span refreshWatermark miningReason

def stewardProposalPrefix : String := "mem_steward_"

/-- The id of a proposal is no wider than its column. -/
theorem stewardProposalId_length_le (parts : List String) :
    (stewardProposalPrefix ++ sha16 lib parts).length ≤ 64 := by
  have digest := sha16_length_le lib parts
  rw [String.length_append, show stewardProposalPrefix.length = 12 by decide]
  omega

/-- Re-issue the id of a proposal and mark it pending, disabled and of a kind. -/
def stampProposal (card : Doc) (kind targetMemoryId proposer : String) : Doc :=
  let provider := lib.canonicalizeProvider proposer
  let key := textOr card .idempotencyKey (card.text .memoryId)
  card.update (([
    (.memoryId, .str (stewardProposalPrefix ++ sha16 lib [key, kind, targetMemoryId])),
    (.authorizationStatus, .str "disabled"),
    (.stewardProposalKind, .str kind),
    (.stewardProposedBy, .str (if provider = "" then "unspecified" else provider))] : List (Field × Json)) ++
    if targetMemoryId = "" then [] else [(.stewardTargetMemoryId, .str targetMemoryId)])

end Proposals

end Neurons.Steward
