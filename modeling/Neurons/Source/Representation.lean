import Neurons.Journal.Coordinator
import Neurons.Source.Receipts

/-! # Representation receipts

A receipt of PostgreSQL may say which row it stands for and how its text was made. Its digest
binds these fields, and the receipt is checked by deriving the row's id and the digest again.
-/

namespace Neurons.Source

open Neurons.Lib
open Neurons.Journal (compactDumps)

def representationKind : String := "qdrant_public_safe_mask.v1"

def localSessionRepresentationKind : String := "session_memory_v1"

def localRepresentationKinds : List String := [representationKind, localSessionRepresentationKind]

def localRepresentationReceiptVersion : Int := 3

def localIdentitySchemes : List String := ["legacy_exact", "legacy_reuse", "local_v1"]

def defaultEmbeddingProfileId : String := "lbrain-memory-gemini-embedding-2-v1"

def chunkedProfile : String := "lbrain-memory-gemini-embedding-2-bounded-mean-v2"

/-! ## Fields -/

namespace ReceiptKey

def version : Key := .other "receipt_version"
def kind : Key := .other "representation_kind"
def profile : Key := .other "embedding_profile"
def session : Key := .field .sessionIdHash
def provider : Key := .field .provider
def project : Key := .field .project
def activeContent : Key := .field .activeContentHash
def projectedSource : Key := .field .projectedSourceHash
def content : Key := .other "representation_content_hash"
def knowledge : Key := .field .sessionMemoryKnowledgeId
def scheme : Key := .other "identity_scheme"
def input : Key := .other "input_hash"
def digest : Key := .other "provenance_digest"

end ReceiptKey

open ReceiptKey

def mappingFields : List Key :=
  [version, kind, profile, session, provider, project, activeContent, projectedSource, content, knowledge]

def localReceiptDigestFields : List Key :=
  [version, kind, project, provider, session, activeContent, projectedSource, content, knowledge, scheme, profile,
    input]

def baseFields : List Key := [Field.projectionStatus, .projectedSourceHash, .activeContentHash,
  .sessionMemoryKnowledgeId, .provider, .project, .materializedAt, .failureReason].map Key.field

/-- The value under the key, if it is a text. -/
def textAt? (receipt : Doc) (k : Key) : Option String :=
  match Dict.get? receipt k with
  | some (.str s) => some s
  | _ => none

/-- The text under the key, for a receipt that is known to have one. -/
def textAt (receipt : Doc) (k : Key) : String := (textAt? receipt k).getD ""

/-- The keys of the receipt are among the allowed ones. -/
def onlyHas (allowed : List Key) (receipt : Doc) : Bool := receipt.keys.all (allowed.contains ·)

/-- Of these keys, those the receipt has are texts. -/
def textsIfPresent (keys : List Key) (receipt : Doc) : Bool :=
  keys.all fun k => !Dict.contains receipt k || (textAt? receipt k).isSome

def nonblankTexts (keys : List Key) (receipt : Doc) : Bool :=
  keys.all fun k => (textAt? receipt k).any (· ≠ "")

def hashes (keys : List Key) (receipt : Doc) : Bool := keys.all fun k => (textAt? receipt k).any hashLike

/-- `{key: receipt[key] for key in keys}`, for a receipt that has them all. -/
def pick (keys : List Key) (receipt : Doc) : Doc := Dict.filter receipt (keys.contains ·)

section Receipts

variable (py : Platform)

def derivePgChunkIdImpl (project provider sessionIdHash sourceHash contentHash embeddingProfile : String) : String :=
  let profile := if embeddingProfile = "" then defaultEmbeddingProfileId else embeddingProfile
  py.hexdigest (.text (String.ofList (compactDumps
    (.arr ([project, provider, sessionIdHash, sourceHash, contentHash, profile].map .str)))))

/-- Both hashes have been checked. -/
def deriveLocalPgChunkId (project provider sessionIdHash sourceHash contentHash embeddingProfile : String) : String :=
  let profile := if embeddingProfile = "" then localEmbeddingProfileId else embeddingProfile
  py.hexdigest (.text (String.ofList (compactDumps
    (.arr (["local_v1", project, provider, sessionIdHash, sourceHash, contentHash, profile].map .str)))))

/-- `mapping_digest` and `local_mapping_digest_v3`, over their own fields. -/
def digestOf (keys : List Key) (receipt : Doc) : String :=
  sha256Hash py (.text (String.ofList (compactDumps (pick keys receipt).json)))

def mappingDigest (receipt : Doc) : String := digestOf py mappingFields receipt

def localMappingDigestV3 (receipt : Doc) : String := digestOf py localReceiptDigestFields receipt

/-- The id of the row the receipt names, under a scheme. -/
def receiptChunkId (derive : String → String → String → String → String → String → String) (receipt : Doc)
    (embeddingProfile : String) : String :=
  derive (textAt receipt project) (textAt receipt provider) (textAt receipt session)
    (textAt receipt projectedSource) (textAt receipt content) embeddingProfile

def validRepresentationReceipt (receipt : Doc) : Bool :=
  Dict.get? receipt version = some (.num 2) &&
  (Dict.get? receipt kind = some (.str representationKind) &&
  Dict.get? receipt profile = some (.str defaultEmbeddingProfileId)) &&
  nonblankTexts (mappingFields.filter (· ≠ version)) receipt &&
  hashes [session, activeContent, projectedSource, content, digest] receipt &&
  textAt receipt knowledge = receiptChunkId (derivePgChunkIdImpl py) receipt (textAt receipt profile) &&
  textAt receipt digest = mappingDigest py receipt

def validPgReceiptMetadata (receipt : Doc) : Bool :=
  let receiptVersion := (Dict.get? receipt version).getD (.num 1)
  let allowed := baseFields ++ [version] ++ (if receiptVersion = .num 2 then mappingFields ++ [digest] else [])
  (receiptVersion = .num 1 || receiptVersion = .num 2) && textsIfPresent baseFields receipt &&
    onlyHas allowed receipt && (receiptVersion = .num 1 || validRepresentationReceipt py receipt)

/-- Without a store and a materialization to compare with. -/
def validLocalRepresentationReceiptV3 (receipt : Doc) : Bool :=
  let own := textAt receipt knowledge
  let legacyId := receiptChunkId (derivePgChunkIdImpl py) receipt
  Dict.get? receipt version = some (.num localRepresentationReceiptVersion) &&
  onlyHas (baseFields ++ localReceiptDigestFields ++ [digest]) receipt &&
  (localReceiptDigestFields ++ [digest]).all (Dict.contains receipt ·) &&
  nonblankTexts (localReceiptDigestFields.filter (· ≠ version)) receipt &&
  localRepresentationKinds.contains (textAt receipt kind) &&
  textAt receipt profile = localEmbeddingProfileId &&
  localIdentitySchemes.contains (textAt receipt scheme) &&
  hashes [session, activeContent, projectedSource, content, input, digest] receipt &&
  textAt receipt digest = localMappingDigestV3 py receipt &&
  (if textAt receipt scheme = "local_v1" then
      own = receiptChunkId (deriveLocalPgChunkId py) receipt (textAt receipt profile)
    else if textAt receipt scheme = "legacy_exact" then
      own = legacyId defaultEmbeddingProfileId || own = legacyId chunkedProfile
    else own ≠ "" && own.length ≤ 64)

def validLocalPgReceiptMetadata (receipt : Doc) : Bool :=
  Dict.get? receipt version = some (.num localRepresentationReceiptVersion) &&
  textsIfPresent baseFields receipt &&
  onlyHas (baseFields ++ localReceiptDigestFields ++ [digest]) receipt &&
  validLocalRepresentationReceiptV3 py receipt

/-! ## Receipts as they are built -/

/-- The receipt of the row a verified transform made of the materialization. -/
def representationMapping (m : Materialized) (representationHash : String) : Doc :=
  let chunkId := derivePgChunkIdImpl py m.project m.provider m.sessionIdHash m.sourceHash representationHash
    defaultEmbeddingProfileId
  let mapping := Dict.insertAll ∅ [(version, Json.num 2), (kind, .str representationKind),
    (profile, .str defaultEmbeddingProfileId), (session, .str m.sessionIdHash), (provider, .str m.provider),
    (project, .str m.project), (activeContent, .str m.contentHash), (projectedSource, .str m.sourceHash),
    (content, .str representationHash), (knowledge, .str chunkId)]
  Dict.insert mapping digest (.str (mappingDigest py mapping))

/-- What the builder of a local receipt is given beside the materialization. -/
structure LocalRow where
  representationKind : String
  representationHash : String
  chunkId : String
  identityScheme : String
  embeddingProfile : String
  inputHash : String

def buildLocalRepresentationReceiptV3 (m : Materialized) (row : LocalRow) : Except PyError Doc := do
  let receipt := Dict.insertAll ∅ [(version, Json.num localRepresentationReceiptVersion),
    (kind, .str row.representationKind), (project, .str m.project), (provider, .str m.provider),
    (session, .str m.sessionIdHash), (activeContent, .str m.contentHash), (projectedSource, .str m.sourceHash),
    (content, .str row.representationHash), (knowledge, .str row.chunkId), (scheme, .str row.identityScheme),
    (profile, .str row.embeddingProfile), (input, .str row.inputHash)]
  let receipt := Dict.insert receipt digest (.str (localMappingDigestV3 py receipt))
  refuseIf (¬ validLocalRepresentationReceiptV3 py receipt)
    (.valueError "constructed local representation receipt v3 failed validation")
  return receipt

/-- The checks a commit makes. -/
def receiptChecks : ReceiptChecks := ⟨validPgReceiptMetadata py, validLocalPgReceiptMetadata py⟩

variable {py} {m : Materialized} {c : Commit}

/-- A receipt made of other fields and a digest says nothing of a projection. -/
theorem silent_of_absent {entries : List (Key × Json)} (v : Json)
    (absent : ∀ entry ∈ entries, entry.1 ≠ .field .projectionStatus) :
    Doc.get? (Dict.insert (Dict.insertAll ∅ entries) digest v) .projectionStatus = none := by
  rw [Doc.get?, Dict.get?_insert, if_neg (by simp [digest])]
  cases found : (Dict.insertAll ∅ entries).get? (Key.field .projectionStatus) with
  | none => rfl
  | some v =>
      rcases Dict.mem_of_get?_insertAll found with listed | there
      · exact absurd rfl (absent _ listed)
      · cases there

theorem claimsProjected_of_silent {receipt : Doc} (brings : c.representationReceipt = some receipt)
    (silent : receipt.get? .projectionStatus = none) : c.ClaimsProjected := by
  intro own listed v stated
  rw [brings] at listed
  cases listed
  rw [silent] at stated
  cases stated

/-- No receipt that is built here says anything of a projection. -/
theorem claimsProjected_of_mapping {representationHash : String}
    (brings : c.representationReceipt = some (representationMapping py m representationHash)) : c.ClaimsProjected := by
  apply claimsProjected_of_silent brings
  apply silent_of_absent
  simp [version, kind, profile, session, provider, project, activeContent, projectedSource, content, knowledge]

theorem claimsProjected_of_local {row : LocalRow} {receipt : Doc}
    (built : buildLocalRepresentationReceiptV3 py m row = .ok receipt)
    (brings : c.representationReceipt = some receipt) : c.ClaimsProjected := by
  apply claimsProjected_of_silent brings
  simp only [buildLocalRepresentationReceiptV3, bind_eq_ok, pure_eq_ok, Except.ok.injEq] at built
  obtain ⟨-, -, rfl⟩ := built
  apply silent_of_absent
  simp [version, kind, profile, session, provider, project, activeContent, projectedSource, content, knowledge, scheme,
    input]

end Receipts

end Neurons.Source
