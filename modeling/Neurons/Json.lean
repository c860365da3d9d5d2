import Mathlib.Algebra.Group.Int.Defs
import Mathlib.Data.Prod.Lex
import Mathlib.Data.String.Basic
import Neurons.Lib.Dict

/-! # Documents

The stores exchange JSON documents with the keys of one fixed vocabulary plus
whatever else a caller adds. A document lists its fields in key order, so that
document equality is Python's dictionary equality and a canonical encoding is a
function of the document. A float is a decimal fraction.
-/

namespace Neurons

open Neurons.Lib

/-- The field names the source tree mentions. -/
inductive Field where
  | id | rev | idempotencyKey | payloadHash | docType | sessionIdHash | schemaVersion | owner
  | provider | project | sourceLocatorHash | redactionVersion
  | contentHash | coverageHash | sourceHash | documentHash
  | observedAtStart | observedAtEnd | startedAt | endedAt | materializedAt | sourceStatus
  | chunkId | turnStartIndex | turnEndIndex | partIndex | partCount | charStart | charEnd
  | evidenceIndexStart | evidenceIndexEnd | body
  | sourceSnapshotSchemaVersion | sourceSnapshotScope | sourceSnapshotOriginId
  | currentSourceScope | supersedesSourceDocumentHash
  | activeRevision | manifestId | manifestHash | sourceRevision | members | provenance
  | memberId | memberHash | sourceDocumentId | sourceDocType | materialHashField | materialHash
  | memberRevisionHash | sourceDocumentHash
  | sourceSnapshotHash | predecessorManifestHash | parserVersion | chunkerVersion
  | documents | documentRefHash | position | conversationContentHashes
  | toolEvidenceCoverageHashes | conversationRevisionTokens | toolEvidenceRevisionTokens
  | acceptOutcome | outcome | status
  | authority | recallEligible | projectionEnabled | processingStage | documentKind
  | targetProfile | accepted | current | cardType | typedPayload | originalDocument
  | originalIdempotencyKey
  | projectionStatus | sessionMemoryKnowledgeId | activeContentHash | projectedSourceHash
  | failureReason
  | brainId | memoryId | scope | title | summary | renderText | lifecycleState | judgmentState
  | approvalState | governanceTier | freshness | currentness | confidence | confidenceBasis
  | sourceRefs | evidenceRefs | evidenceHashes | derivedFrom | supersedes | supersededBy
  | conflicts | activeUntil | authorizationStatus | validFrom | validTo | observedAt | createdAt
  | stewardProposalKind | stewardTargetMemoryId | stewardProposedBy | stewardCommitState
  | candidateId | spanRefs | sourceRef | spanRef | judgmentBasisBundle | refreshWatermark
  | miningReason | reasonCapsule | ruleHits | deterministicSignals | evidenceGap | modelReason
  | policyVersion | evaluatorVersion | reviewBlockReason | autoPolicyReady | operatorApprovalRef
  | approvedBy | approvedAt | rejectedBy | rejectedAt | rejectionReason | bundleDecisionId
  | decisionId | requestedOperations | acceptedEvidenceBasis | kind | targetMemoryId | value
  | sourceId | refId | spanId | sourceOwner | sourceKind | accessMode | proposer
  | redactedSummary | judgmentId | decision | rationale | alternatives | consequence
  | authorityRef | taskState | nextAction | blocker | ownerHint | subject | expectedState
  | observedState | driftKind | severity | authorityLane | sourcePrecedenceRank
  | resolutionAction | suggestedAction | basisRefs | preference | explicitness | repeatedCount
  | confirmationStatus | appliesTo | exceptions | statusValue | expiresAt | currentAuthority
  | evidenceKind | resultStatus | hashRefs | countRefs | sourceType | authorityMemoryId
  | memberIds | snapshotToken | version | action | actor | reason | card | sql | count | items
  | canonicalWritePerformed | authoritativeMemoryChanged | stateFingerprint | issuedAt
  deriving DecidableEq, Repr

/-- The key as it is spelled in a stored document. -/
def Field.name : Field → String
  | .id => "_id"
  | .rev => "_rev"
  | .idempotencyKey => "idempotency_key"
  | .payloadHash => "payload_hash"
  | .docType => "doc_type"
  | .sessionIdHash => "session_id_hash"
  | .schemaVersion => "schema_version"
  | .owner => "owner"
  | .provider => "provider"
  | .project => "project"
  | .sourceLocatorHash => "source_locator_hash"
  | .redactionVersion => "redaction_version"
  | .contentHash => "content_hash"
  | .coverageHash => "coverage_hash"
  | .sourceHash => "source_hash"
  | .documentHash => "document_hash"
  | .observedAtStart => "observed_at_start"
  | .observedAtEnd => "observed_at_end"
  | .startedAt => "started_at"
  | .endedAt => "ended_at"
  | .materializedAt => "materialized_at"
  | .sourceStatus => "source_status"
  | .chunkId => "chunk_id"
  | .turnStartIndex => "turn_start_index"
  | .turnEndIndex => "turn_end_index"
  | .partIndex => "part_index"
  | .partCount => "part_count"
  | .charStart => "char_start"
  | .charEnd => "char_end"
  | .evidenceIndexStart => "evidence_index_start"
  | .evidenceIndexEnd => "evidence_index_end"
  | .body => "body"
  | .sourceSnapshotSchemaVersion => "source_snapshot_schema_version"
  | .sourceSnapshotScope => "source_snapshot_scope"
  | .sourceSnapshotOriginId => "source_snapshot_origin_id"
  | .currentSourceScope => "current_source_scope"
  | .supersedesSourceDocumentHash => "supersedes_source_document_hash"
  | .activeRevision => "active_revision"
  | .manifestId => "manifest_id"
  | .manifestHash => "manifest_hash"
  | .sourceRevision => "source_revision"
  | .members => "members"
  | .provenance => "provenance"
  | .memberId => "member_id"
  | .memberHash => "member_hash"
  | .sourceDocumentId => "source_document_id"
  | .sourceDocType => "source_doc_type"
  | .materialHashField => "material_hash_field"
  | .materialHash => "material_hash"
  | .memberRevisionHash => "member_revision_hash"
  | .sourceDocumentHash => "source_document_hash"
  | .sourceSnapshotHash => "source_snapshot_hash"
  | .predecessorManifestHash => "predecessor_manifest_hash"
  | .parserVersion => "parser_version"
  | .chunkerVersion => "chunker_version"
  | .documents => "documents"
  | .documentRefHash => "document_ref_hash"
  | .position => "position"
  | .conversationContentHashes => "conversation_content_hashes"
  | .toolEvidenceCoverageHashes => "tool_evidence_coverage_hashes"
  | .conversationRevisionTokens => "conversation_revision_tokens"
  | .toolEvidenceRevisionTokens => "tool_evidence_revision_tokens"
  | .acceptOutcome => "accept_outcome"
  | .outcome => "outcome"
  | .status => "status"
  | .authority => "authority"
  | .recallEligible => "recall_eligible"
  | .projectionEnabled => "projection_enabled"
  | .processingStage => "processing_stage"
  | .documentKind => "document_kind"
  | .targetProfile => "target_profile"
  | .accepted => "accepted"
  | .current => "current"
  | .cardType => "card_type"
  | .typedPayload => "typed_payload"
  | .originalDocument => "original_document"
  | .originalIdempotencyKey => "original_idempotency_key"
  | .projectionStatus => "projection_status"
  | .sessionMemoryKnowledgeId => "session_memory_knowledge_id"
  | .activeContentHash => "active_content_hash"
  | .projectedSourceHash => "projected_source_hash"
  | .failureReason => "failure_reason"
  | .brainId => "brain_id"
  | .memoryId => "memory_id"
  | .scope => "scope"
  | .title => "title"
  | .summary => "summary"
  | .renderText => "render_text"
  | .lifecycleState => "lifecycle_state"
  | .judgmentState => "judgment_state"
  | .approvalState => "approval_state"
  | .governanceTier => "governance_tier"
  | .freshness => "freshness"
  | .currentness => "currentness"
  | .confidence => "confidence"
  | .confidenceBasis => "confidence_basis"
  | .sourceRefs => "source_refs"
  | .evidenceRefs => "evidence_refs"
  | .evidenceHashes => "evidence_hashes"
  | .derivedFrom => "derived_from"
  | .supersedes => "supersedes"
  | .supersededBy => "superseded_by"
  | .conflicts => "conflicts"
  | .activeUntil => "active_until"
  | .authorizationStatus => "authorization_status"
  | .validFrom => "valid_from"
  | .validTo => "valid_to"
  | .observedAt => "observed_at"
  | .createdAt => "created_at"
  | .stewardProposalKind => "steward_proposal_kind"
  | .stewardTargetMemoryId => "steward_target_memory_id"
  | .stewardProposedBy => "steward_proposed_by"
  | .stewardCommitState => "steward_commit_state"
  | .candidateId => "candidate_id"
  | .spanRefs => "span_refs"
  | .sourceRef => "source_ref"
  | .spanRef => "span_ref"
  | .judgmentBasisBundle => "judgment_basis_bundle"
  | .refreshWatermark => "refresh_watermark"
  | .miningReason => "mining_reason"
  | .reasonCapsule => "reason_capsule"
  | .ruleHits => "rule_hits"
  | .deterministicSignals => "deterministic_signals"
  | .evidenceGap => "evidence_gap"
  | .modelReason => "model_reason"
  | .policyVersion => "policy_version"
  | .evaluatorVersion => "evaluator_version"
  | .reviewBlockReason => "review_block_reason"
  | .autoPolicyReady => "auto_policy_ready"
  | .operatorApprovalRef => "operator_approval_ref"
  | .approvedBy => "approved_by"
  | .approvedAt => "approved_at"
  | .rejectedBy => "rejected_by"
  | .rejectedAt => "rejected_at"
  | .rejectionReason => "rejection_reason"
  | .bundleDecisionId => "bundle_decision_id"
  | .decisionId => "decision_id"
  | .requestedOperations => "requested_operations"
  | .acceptedEvidenceBasis => "accepted_evidence_basis"
  | .kind => "kind"
  | .targetMemoryId => "target_memory_id"
  | .value => "value"
  | .sourceId => "source_id"
  | .refId => "ref_id"
  | .spanId => "span_id"
  | .sourceOwner => "source_owner"
  | .sourceKind => "source_kind"
  | .accessMode => "access_mode"
  | .proposer => "proposer"
  | .redactedSummary => "redacted_summary"
  | .judgmentId => "judgment_id"
  | .decision => "decision"
  | .rationale => "rationale"
  | .alternatives => "alternatives"
  | .consequence => "consequence"
  | .authorityRef => "authority_ref"
  | .taskState => "task_state"
  | .nextAction => "next_action"
  | .blocker => "blocker"
  | .ownerHint => "owner_hint"
  | .subject => "subject"
  | .expectedState => "expected_state"
  | .observedState => "observed_state"
  | .driftKind => "drift_kind"
  | .severity => "severity"
  | .authorityLane => "authority_lane"
  | .sourcePrecedenceRank => "source_precedence_rank"
  | .resolutionAction => "resolution_action"
  | .suggestedAction => "suggested_action"
  | .basisRefs => "basis_refs"
  | .preference => "preference"
  | .explicitness => "explicitness"
  | .repeatedCount => "repeated_count"
  | .confirmationStatus => "confirmation_status"
  | .appliesTo => "applies_to"
  | .exceptions => "exceptions"
  | .statusValue => "status_value"
  | .expiresAt => "expires_at"
  | .currentAuthority => "current_authority"
  | .evidenceKind => "evidence_kind"
  | .resultStatus => "result_status"
  | .hashRefs => "hash_refs"
  | .countRefs => "count_refs"
  | .sourceType => "source_type"
  | .authorityMemoryId => "authority_memory_id"
  | .memberIds => "member_ids"
  | .snapshotToken => "snapshot_token"
  | .version => "version"
  | .action => "action"
  | .actor => "actor"
  | .reason => "reason"
  | .card => "card"
  | .sql => "sql"
  | .count => "count"
  | .items => "items"
  | .canonicalWritePerformed => "canonical_write_performed"
  | .authoritativeMemoryChanged => "authoritative_memory_changed"
  | .stateFingerprint => "state_fingerprint"
  | .issuedAt => "issued_at"

/-- A key of a document: one of the known fields, or any further name. -/
inductive Key where
  | field (f : Field)
  | other (name : String)
  deriving DecidableEq, Repr

namespace Key

def name : Key → String
  | .field f => f.name
  | .other name => name

/-- Known fields come in the order above, after every other name. -/
def rank : Key → ℕ ×ₗ String
  | .field f => toLex (f.ctorIdx + 1, "")
  | .other name => toLex (0, name)

theorem rank_injective : Function.Injective rank := by
  have indexed : Function.Injective Field.ctorIdx :=
    Function.LeftInverse.injective Field.ofNat_ctorIdx
  intro a b same
  cases a with
  | field f =>
      cases b with
      | field g =>
          have index : f.ctorIdx = g.ctorIdx := by
            simpa [rank] using same
          rw [indexed index]
      | other n => simp [rank] at same
  | other m =>
      cases b with
      | field g => simp [rank] at same
      | other n => simpa [rank] using same

instance : LinearOrder Key := LinearOrder.lift' rank rank_injective

end Key

/-- A JSON value; an object lists its fields in key order. -/
inductive Json where
  | null
  | bool (b : Bool)
  | num (n : Int)
  | dec (mantissa : Int) (scale : Nat)
  | str (s : String)
  | arr (items : List Json)
  | obj (fields : List (Key × Json))
  deriving Repr

namespace Json

mutual

def decEq : (a b : Json) → Decidable (a = b)
  | .null, .null => isTrue rfl
  | .bool a, .bool b => decidable_of_iff (a = b) (by simp)
  | .num a, .num b => decidable_of_iff (a = b) (by simp)
  | .dec a m, .dec b n => decidable_of_iff (a = b ∧ m = n) (by simp)
  | .str a, .str b => decidable_of_iff (a = b) (by simp)
  | .arr a, .arr b =>
      match decEqItems a b with
      | isTrue same => isTrue (by rw [same])
      | isFalse other => isFalse (by simpa using other)
  | .obj a, .obj b =>
      match decEqFields a b with
      | isTrue same => isTrue (by rw [same])
      | isFalse other => isFalse (by simpa using other)
  | .null, .bool _ | .null, .num _ | .null, .dec _ _
  | .null, .str _ | .null, .arr _ | .null, .obj _
  | .bool _, .null | .bool _, .num _ | .bool _, .dec _ _
  | .bool _, .str _ | .bool _, .arr _ | .bool _, .obj _
  | .num _, .null | .num _, .bool _ | .num _, .dec _ _
  | .num _, .str _ | .num _, .arr _ | .num _, .obj _
  | .dec _ _, .null | .dec _ _, .bool _ | .dec _ _, .num _
  | .dec _ _, .str _ | .dec _ _, .arr _ | .dec _ _, .obj _
  | .str _, .null | .str _, .bool _ | .str _, .num _
  | .str _, .dec _ _ | .str _, .arr _ | .str _, .obj _
  | .arr _, .null | .arr _, .bool _ | .arr _, .num _
  | .arr _, .dec _ _ | .arr _, .str _ | .arr _, .obj _
  | .obj _, .null | .obj _, .bool _ | .obj _, .num _
  | .obj _, .dec _ _ | .obj _, .str _ | .obj _, .arr _ =>
      isFalse (by simp)

def decEqItems : (a b : List Json) → Decidable (a = b)
  | [], [] => isTrue rfl
  | [], _ :: _ | _ :: _, [] => isFalse (by simp)
  | x :: xs, y :: ys =>
      match decEq x y, decEqItems xs ys with
      | isTrue head, isTrue tail => isTrue (by rw [head, tail])
      | isFalse head, _ => isFalse (fun same => head (List.cons.inj same).1)
      | _, isFalse tail => isFalse (fun same => tail (List.cons.inj same).2)

def decEqFields : (a b : List (Key × Json)) → Decidable (a = b)
  | [], [] => isTrue rfl
  | [], _ :: _ | _ :: _, [] => isFalse (by simp)
  | (k, x) :: xs, (l, y) :: ys =>
      match decEq x y, decEqFields xs ys with
      | isTrue head, isTrue tail =>
          decidable_of_iff (k = l) (by simp [head, tail])
      | isFalse head, _ => isFalse (fun same => head (Prod.mk.inj (List.cons.inj same).1).2)
      | _, isFalse tail => isFalse (fun same => tail (List.cons.inj same).2)

end

instance : DecidableEq Json := decEq

/-- Python's truth value. -/
def truthy : Json → Bool
  | .null => false
  | .bool b => b
  | .num n => n != 0
  | .dec m _ => m != 0
  | .str s => s != ""
  | .arr items => !items.isEmpty
  | .obj fields => !fields.isEmpty

/-- A number as a decimal fraction: mantissa and scale. `True` is 1. -/
def number? : Json → Option (Int × Nat)
  | .bool b => some (if b then 1 else 0, 0)
  | .num n => some (n, 0)
  | .dec m s => some (m, s)
  | _ => none

mutual

/-- Python's `==`: numbers are compared by value, and the order of the keys does not count. -/
def equal (a b : Json) : Bool :=
  match a, b with
  | .null, .null => true
  | .str s, .str t => s == t
  | .arr items, .arr items' => equalItems items items'
  | .obj fields, .obj fields' => fields.length == fields'.length && equalFields fields fields'
  | a, b =>
      match a.number?, b.number? with
      | some (m, s), some (n, t) => m * 10 ^ t == n * 10 ^ s
      | _, _ => false

def equalItems : List Json → List Json → Bool
  | [], [] => true
  | a :: rest, b :: rest' => equal a b && equalItems rest rest'
  | _, _ => false

def equalFields : List (Key × Json) → List (Key × Json) → Bool
  | [], _ => true
  | (k, a) :: rest, fields => (fields.any fun entry => k == entry.1 && equal a entry.2) && equalFields rest fields

end

theorem equalFields_iff {fields fields' : List (Key × Json)} : equalFields fields fields' = true ↔
    ∀ entry ∈ fields, ∃ entry' ∈ fields', entry.1 = entry'.1 ∧ equal entry.2 entry'.2 = true := by
  induction fields with
  | nil => simp [equalFields]
  | cons entry rest ih =>
      obtain ⟨k, a⟩ := entry
      simp [equalFields, ih]

mutual

@[simp] theorem equal_self (a : Json) : equal a a = true := by
  cases a with
  | null => simp [equal]
  | bool b => simp [equal, number?]
  | num n => simp [equal, number?]
  | dec m s => simp [equal, number?]
  | str s => simp [equal]
  | arr items => simpa [equal] using equalItems_self items
  | obj fields =>
      simp only [equal, beq_self_eq_true, Bool.true_and, equalFields_iff]
      exact fun entry mem => ⟨entry, mem, rfl, equalFields_self fields entry mem⟩

theorem equalItems_self (items : List Json) : equalItems items items = true := by
  cases items with
  | nil => rfl
  | cons a rest => simp [equalItems, equal_self a, equalItems_self rest]

theorem equalFields_self (fields : List (Key × Json)) : ∀ entry ∈ fields, equal entry.2 entry.2 = true := by
  cases fields with
  | nil => simp
  | cons first rest =>
      obtain ⟨k, a⟩ := first
      intro entry mem
      rcases List.mem_cons.mp mem with rfl | later
      · exact equal_self a
      · exact equalFields_self rest entry later

end

/-- What equals an object is an object with the same keys. -/
theorem equal_obj {fields : List (Key × Json)} {b : Json} (same : equal (.obj fields) b = true) :
    ∃ fields', b = .obj fields' ∧
      ∀ entry ∈ fields, ∃ entry' ∈ fields', entry.1 = entry'.1 ∧ equal entry.2 entry'.2 = true := by
  cases b with
  | obj fields' =>
      simp only [equal, Bool.and_eq_true] at same
      exact ⟨fields', rfl, equalFields_iff.mp same.2⟩
  | _ => simp [equal, number?] at same

end Json

/-- Python's `repr` of a text; characters outside ASCII count as printable. -/
def reprText (text : String) : String :=
  let quote := if '\'' ∈ text.toList ∧ '"' ∉ text.toList then '"' else '\''
  let hex (n : Nat) := String.ofList [Nat.digitChar (n / 16), Nat.digitChar (n % 16)]
  let escape (c : Char) : String :=
    if c = '\\' then "\\\\"
    else if c = quote then String.ofList ['\\', c]
    else if c = '\n' then "\\n"
    else if c = '\r' then "\\r"
    else if c = '\t' then "\\t"
    else if c.toNat < 32 ∨ c.toNat = 127 then "\\x" ++ hex c.toNat
    else String.ofList [c]
  String.ofList [quote] ++ String.join (text.toList.map escape) ++ String.ofList [quote]

/-- The decimal fraction `mantissa / 10 ^ scale`, written with a point. -/
def decimalText (mantissa : Int) (scale : Nat) : String :=
  let sign := if mantissa < 0 then "-" else ""
  let fraction := toString (mantissa.natAbs % 10 ^ scale)
  let zeros := String.ofList (List.replicate (scale - fraction.length) '0')
  sign ++ toString (mantissa.natAbs / 10 ^ scale) ++ "." ++ zeros ++ fraction

namespace Json

mutual

/-- Python's `repr` of a value. -/
def repr : Json → String
  | .null => "None"
  | .bool true => "True"
  | .bool false => "False"
  | .num n => toString n
  | .dec m s => decimalText m s
  | .str s => reprText s
  | .arr items => "[" ++ ", ".intercalate (reprItems items) ++ "]"
  | .obj fields => "\x7b" ++ ", ".intercalate (reprFields fields) ++ "\x7d"

def reprItems : List Json → List String
  | [] => []
  | x :: xs => x.repr :: reprItems xs

def reprFields : List (Key × Json) → List String
  | [] => []
  | (k, x) :: xs => (reprText k.name ++ ": " ++ x.repr) :: reprFields xs

end

/-- Python's `str`. -/
def text : Json → String
  | .str s => s
  | v => v.repr

theorem isDigit_not_isLower {c : Char} (digit : c.isDigit) : ¬ c.isLower := by
  intro lower
  have small : (decide (c.val ≥ 'a'.val) && decide (c.val ≤ 'z'.val)) = true := lower
  have digits : (decide (c.val ≥ '0'.val) && decide (c.val ≤ '9'.val)) = true := digit
  simp only [Bool.and_eq_true, decide_eq_true_eq, ge_iff_le, UInt32.le_iff_toNat_le] at small digits
  simp at small digits
  omega

/-- The text of any other value starts with a capital letter, a digit, a sign or
    a bracket. -/
theorem eq_str_of_text {v : Json} {s : String} {c : Char} {rest : List Char}
    (shape : s.toList = c :: rest) (lower : c.isLower) (read : v.text = s) : v = .str s := by
  subst read
  cases v with
  | str s => rfl
  | null =>
      obtain ⟨rfl, -⟩ := List.cons.inj (show 'N' :: _ = c :: rest by simpa [text, repr] using shape)
      contradiction
  | bool b =>
      cases b with
      | false =>
          obtain ⟨rfl, -⟩ :=
            List.cons.inj (show 'F' :: _ = c :: rest by simpa [text, repr] using shape)
          contradiction
      | true =>
          obtain ⟨rfl, -⟩ :=
            List.cons.inj (show 'T' :: _ = c :: rest by simpa [text, repr] using shape)
          contradiction
  | num n =>
      simp only [text, repr, Int.toString_eq_repr, Int.repr_eq_if] at shape
      split at shape
      · have digit : c ∈ Nat.toDigits 10 n.toNat := by
          rw [← Nat.toList_repr, shape]
          simp
        exact absurd lower
          (isDigit_not_isLower (Nat.isDigit_of_mem_toDigits (by decide) (by decide) digit))
      · obtain ⟨rfl, -⟩ := List.cons.inj (show '-' :: _ = c :: rest by simpa using shape)
        contradiction
  | dec m scale =>
      simp only [text, repr, decimalText] at shape
      split at shape
      · obtain ⟨rfl, -⟩ := List.cons.inj (show '-' :: _ = c :: rest by simpa using shape)
        contradiction
      · obtain ⟨first, others, digits⟩ :
            ∃ first others, (toString (m.natAbs / 10 ^ scale)).toList = first :: others :=
          List.exists_cons_of_ne_nil (by simp)
        have digit : first ∈ Nat.toDigits 10 (m.natAbs / 10 ^ scale) := by
          rw [← Nat.toList_repr, ← Nat.toString_eq_repr, digits]
          simp
        obtain ⟨rfl, -⟩ := List.cons.inj (show first :: _ = c :: rest by
          simpa only [String.toList_append, digits, String.toList_empty, List.nil_append,
            List.cons_append] using shape)
        exact absurd lower
          (isDigit_not_isLower (Nat.isDigit_of_mem_toDigits (by decide) (by decide) digit))
  | arr items =>
      obtain ⟨rfl, -⟩ :=
        List.cons.inj (show '[' :: _ = c :: rest by simpa [text, repr] using shape)
      contradiction
  | obj fields =>
      obtain ⟨rfl, -⟩ :=
        List.cons.inj (show '\x7b' :: _ = c :: rest by simpa [text, repr] using shape)
      contradiction

theorem eq_str_of_text_blank {v : Json} (blank : v.text = "") : v = .str "" := by
  cases v with
  | str s => rw [show s = "" from blank]
  | null => simp [text, repr] at blank
  | bool b => cases b <;> simp [text, repr] at blank
  | num n =>
      simp only [text, repr, Int.toString_eq_repr, Int.repr_eq_if] at blank
      split at blank <;> simp at blank
  | dec m scale => simp [text, repr, decimalText] at blank
  | arr items => simp [text, repr] at blank
  | obj fields => simp [text, repr] at blank

end Json

/-- A document: a dictionary from keys to values. -/
abbrev Doc := Dict Key Json

namespace Doc

def get? (d : Doc) (f : Field) : Option Json := Dict.get? d (.field f)

/-- `field in document`. -/
def has (d : Doc) (f : Field) : Bool := (d.get? f).isSome

def set (d : Doc) (f : Field) (v : Json) : Doc := Dict.insert d (.field f) v

/-- The document without the listed fields. -/
def without (d : Doc) (fields : List Field) : Doc :=
  Dict.filter d (fun k => !(fields.map Key.field).contains k)

/-- `document.update(...)`. -/
def update (d : Doc) (bindings : List (Field × Json)) : Doc :=
  bindings.foldl (fun acc entry => acc.set entry.1 entry.2) d

def ofFields (bindings : List (Field × Json)) : Doc := update ∅ bindings

/-- `document.get(field) or fallback` where the fallback is falsy. -/
def value? (d : Doc) (f : Field) : Option Json := (d.get? f).filter Json.truthy

/-- `str(document.get(field) or "")`. -/
def text (d : Doc) (f : Field) : String := ((d.value? f).map Json.text).getD ""

/-- The document as a value. -/
def json (d : Doc) : Json := .obj d.entries

/-- Python's `==` of two dicts. -/
def equal (d e : Doc) : Bool := Json.equal d.json e.json

/-- `dict(value)` where the value is a mapping. -/
def ofJson? : Json → Option Doc
  | .obj fields => some (Dict.insertAll ∅ fields)
  | _ => none

@[simp] theorem ofJson?_json (d : Doc) : ofJson? d.json = some d := by
  simp only [ofJson?, json, Dict.insertAll_entries]

theorem json_injective {d e : Doc} (same : d.json = e.json) : d = e := by
  have back := congrArg ofJson? same
  rwa [ofJson?_json, ofJson?_json, Option.some.injEq] at back

@[simp] theorem get?_empty (f : Field) : (∅ : Doc).get? f = none := rfl

theorem get?_set (d : Doc) (f g : Field) (v : Json) :
    (d.set f v).get? g = if g = f then some v else d.get? g := by
  simp [get?, set, Dict.get?_insert]

theorem get?_without (d : Doc) (fields : List Field) (f : Field) :
    (d.without fields).get? f = if f ∈ fields then none else d.get? f := by
  by_cases mem : f ∈ fields <;> simp [get?, without, Dict.get?_filter, mem]

@[simp] theorem update_nil (d : Doc) : d.update [] = d := rfl
@[simp] theorem update_cons (d : Doc) (f : Field) (v : Json) (rest : List (Field × Json)) :
    d.update ((f, v) :: rest) = (d.set f v).update rest := rfl

theorem get?_update {d : Doc} {bindings : List (Field × Json)} (distinct : (bindings.map Prod.fst).Nodup) (f : Field) :
    (d.update bindings).get? f = (lookup f bindings).or (d.get? f) := by
  induction bindings generalizing d with
  | nil => rfl
  | cons entry rest ih =>
      obtain ⟨g, v⟩ := entry
      obtain ⟨fresh, distinct⟩ := List.nodup_cons.mp distinct
      rw [update_cons, ih distinct, get?_set]
      by_cases same : g = f
      · subst same
        have missing : lookup g rest = none := lookup_eq_none_iff.mpr fun v mem => fresh (List.mem_map.mpr ⟨_, mem, rfl⟩)
        simp [lookup, missing]
      · simp [lookup, same, Ne.symm same]

/-- Documents that are built from the same fields are told apart by the values. -/
theorem ofFields_injective {l l' : List (Field × Json)} (fields : l.map Prod.fst = l'.map Prod.fst)
    (distinct : (l.map Prod.fst).Nodup) (same : ofFields l = ofFields l') : l = l' := by
  refine eq_of_lookup fields distinct fun f => ?_
  have read := congrArg (Doc.get? · f) same
  simpa [ofFields, get?_update distinct, get?_update (fields ▸ distinct)] using read

theorem value?_congr {d e : Doc} {f : Field} (same : d.get? f = e.get? f) :
    d.value? f = e.value? f := by
  simp only [value?, same]

theorem text_congr {d e : Doc} {f : Field} (same : d.get? f = e.get? f) :
    d.text f = e.text f := by
  simp only [text, value?_congr same]

theorem text_of_str {d : Doc} {f : Field} {s : String} (stored : d.get? f = some (.str s)) :
    d.text f = s := by
  by_cases blank : s = "" <;> simp [text, value?, stored, Option.filter, Json.truthy, blank, Json.text]

/-- Only a text field reads as a text that starts with a lower-case letter. -/
theorem text_eq_iff {d : Doc} {f : Field} {s : String} {c : Char} {rest : List Char}
    (shape : s.toList = c :: rest) (lower : c.isLower) :
    d.text f = s ↔ d.get? f = some (.str s) := by
  refine ⟨fun read => ?_, text_of_str⟩
  have nonempty : s ≠ "" := by
    rintro rfl
    simp at shape
  unfold text value? at read
  cases stored : d.get? f with
  | none =>
      rw [stored] at read
      exact absurd read.symm nonempty
  | some v =>
      rw [stored] at read
      cases truth : v.truthy with
      | false =>
          simp only [Option.filter, truth] at read
          exact absurd read.symm nonempty
      | true =>
          simp only [Option.filter, truth, if_true, Option.map_some, Option.getD_some] at read
          rw [Json.eq_str_of_text shape lower read]

end Doc

end Neurons
