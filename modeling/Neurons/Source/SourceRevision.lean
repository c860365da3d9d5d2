import Neurons.Lib.Sorting
import Neurons.Source.DocumentModel

/-! # Resolving the active source revision

An active pointer names a manifest, the manifest names its members, each member
record names one source document and fixes its hashes (`source_revision.py`). A
resolver either proves all of them present and unchanged or raises. Both
resolvers are here: the one that looks every document up, written over any monad
of store reads, and the one that works on a preloaded list.
-/

namespace Neurons.Source

open Neurons.Lib

def isSourceMemberType : SourceDocType → Bool
  | .transcriptSession | .conversationChunk | .toolEvidenceBundle => true
  | _ => false

/-- The document's type is one of the three a revision can select. -/
def isSourceMember (d : Doc) : Bool := (docType? d).any isSourceMemberType

/-- The fields in which a store keeps its own bookkeeping. -/
def bookkeepingFields : List Field := [.rev, .idempotencyKey, .payloadHash]

def sourceSnapshotSchemaVersion : String := "couchdb_source_revision_snapshot.v1"

/-- The only source set a caller may materialize or project. -/
structure ResolvedSourceRevision where
  sessionIdHash : String
  sessions : List Doc
  conversationChunks : List Doc
  toolEvidenceBundles : List Doc
  sourceHash : String
  manifestId : Option String
  isLegacyUnpinned : Bool
  deriving DecidableEq

def ResolvedSourceRevision.documents (r : ResolvedSourceRevision) : List Doc :=
  r.sessions ++ r.conversationChunks ++ r.toolEvidenceBundles

section Hashes

variable (py : Platform)

def canonicalHash (v : Json) : String := sha256Hash py (.json v)

def sourceDocumentHash (d : Doc) : String := canonicalHash py (d.without bookkeepingFields).json

/-- The field that identifies the document's material, and its hash. -/
def materialIdentity (d : Doc) : Except PyError (Field × String) :=
  match [Field.contentHash, .coverageHash, .sourceHash].find? (fun f => d.text f ≠ "") with
  | some f => do
      assertHashLike f.name (d.text f)
      return (f, d.text f)
  | none => return (.documentHash, sourceDocumentHash py d)

def revisionFingerprint (d : Doc) (hashField : Field) : String :=
  let candidate :=
    if hashField = .documentHash then
      d.set .documentHash (.str (sourceDocumentHash py d))
    else d
  buildSourceRevisionToken py candidate (candidate.text hashField)

/-- What a member record fixes about its source document. -/
structure Descriptor where
  sourceDocumentId : String
  sourceDocType : String
  materialHashField : String
  materialHash : String
  memberRevisionHash : String
  sourceDocumentHash : String
  deriving DecidableEq, Repr

def Descriptor.fields (d : Descriptor) : List (Field × Json) :=
  [(.sourceDocumentId, .str d.sourceDocumentId),
    (.sourceDocType, .str d.sourceDocType),
    (.materialHashField, .str d.materialHashField),
    (.materialHash, .str d.materialHash),
    (.memberRevisionHash, .str d.memberRevisionHash),
    (.sourceDocumentHash, .str d.sourceDocumentHash)]

def sourceMemberDescriptor (sessionIdHash : String) (d : Doc) : Except PyError Descriptor := do
  refuseIf (d.text .id = "" ∨ ¬ isSourceMember d)
    (.resolution "source revision member contract is invalid")
  refuseIf (d.text .sessionIdHash ≠ sessionIdHash)
    (.resolution "source revision member session does not match")
  let material ← rescue (materialIdentity py d) [.typeError, .valueError]
    (.resolution "source revision member material is invalid")
  return {
    sourceDocumentId := d.text .id
    sourceDocType := d.text .docType
    materialHashField := material.1.name
    materialHash := material.2
    memberRevisionHash := revisionFingerprint py d material.1
    sourceDocumentHash := sourceDocumentHash py d }

def sourceRevision (descriptors : List Descriptor) : String :=
  canonicalHash py (Doc.ofFields [
    (.schemaVersion, .str "couchdb_session_source_revision.v1"),
    (.members, .arr ((sortOn Descriptor.sourceDocumentId descriptors).map
      (fun d => (Doc.ofFields d.fields).json)))]).json

def memberHash (sessionIdHash sourceRevision memberId : String) (descriptor : Descriptor) : String :=
  canonicalHash py (Doc.ofFields (
    ([(.sessionIdHash, .str sessionIdHash),
      (.sourceRevision, .str sourceRevision),
      (.memberId, .str memberId)] : List (Field × Json)) ++ descriptor.fields)).json

/-- `str(member["member_id"])`, where the member has one. -/
def memberKey (member : Doc) : String := ((member.get? .memberId).map Json.text).getD ""

def manifestHash (sessionIdHash sourceRevision sourceHash : String) (members : List Doc)
    (provenance : Doc) : Except PyError String := do
  -- the sort key subscripts every member, so a member without an id raises here
  refuseIf (members.any (fun m => !m.has .memberId)) (.keyError "'member_id'")
  return canonicalHash py (Doc.ofFields [
    (.schemaVersion, .str "couchdb_session_source_revision_manifest.v1"),
    (.sessionIdHash, .str sessionIdHash),
    (.sourceRevision, .str sourceRevision),
    (.sourceHash, .str sourceHash),
    (.provenance, provenance.json),
    (.members, .arr ((sortOn memberKey members).map Doc.json))]).json

def fingerprint (d : Doc) : Except PyError String := do
  let material ← materialIdentity py d
  return revisionFingerprint py d material.1

/-- The session hash of a set of source documents. -/
def sourceHash (documents : List Doc) : Except PyError String := do
  let sessions := documents.filter (fun d => docType? d = some .transcriptSession)
  let chunks := documents.filter (fun d => docType? d = some .conversationChunk)
  let bundles := documents.filter (fun d => docType? d = some .toolEvidenceBundle)
  let observed ← observedTimeBounds py (sessions ++ chunks)
  let chunkTokens ← chunks.mapM (fingerprint py)
  let bundleTokens ← bundles.mapM (fingerprint py)
  return buildSourceHash py (chunks.map (·.text .contentHash)) (bundles.map (·.text .coverageHash))
    observed chunkTokens bundleTokens

def resolvedSourceHash (documents : List Doc) : Except PyError String :=
  rescue (sourceHash py documents) [.typeError, .valueError]
    (.resolution "active source revision source is invalid")

end Hashes

/-! ## Snapshot copies -/

def isRevisionSnapshotCopy (d : Doc) : Bool :=
  d.text .sourceSnapshotSchemaVersion == sourceSnapshotSchemaVersion

def isCurrentSourceCopy (d : Doc) : Bool :=
  hashLike (d.text .currentSourceScope) && hashLike (d.text .supersedesSourceDocumentHash)

def isImmutableSourceCopy (d : Doc) : Bool := isRevisionSnapshotCopy d || isCurrentSourceCopy d

/-! ## Control documents -/

section Control

variable (py : Platform)

def provenanceHashKeys : List Field := [.sourceSnapshotHash, .predecessorManifestHash]
def provenanceVersionKeys : List Field := [.parserVersion, .chunkerVersion]

/-- One entry of a provenance mapping. -/
def validateProvenanceEntry : Key × Json → Except PyError Unit
  | (.field f, .str value) =>
      if f ∈ provenanceHashKeys then assertHashLike f.name value
      else refuseIf (¬ safeProvenanceVersion value) (.valueError "provenance version is invalid")
  | _ => .error (.valueError "provenance value must be a string")

def validateProvenance (provenance : Json) (resolution : Bool) : Except PyError Doc :=
  let allowed := (provenanceHashKeys ++ provenanceVersionKeys).map Key.field
  let normalized := match provenance with
    | .null => .ok ∅
    | .obj fields => do
        refuseIf (fields.any (fun entry => entry.1 ∉ allowed))
          (.valueError "provenance contains an unsupported key")
        fields.forM validateProvenanceEntry
        return Dict.insertAll ∅ fields
    | _ => .error (.valueError "provenance must be a mapping")
  rescue normalized [.typeError, .valueError]
    (if resolution then .resolution "active source revision provenance is invalid"
      else .conflict "source revision provenance is invalid")

def requireHash (candidate : String) : Except PyError String := do
  rescue (assertHashLike "source_revision_hash" candidate) [.valueError]
    (.resolution "active source revision hash is invalid")
  return candidate

structure ParsedPointer where
  activeRevision : String
  manifestId : String
  manifestHash : String
  sourceHash : String
  deriving DecidableEq, Repr

def parsePointer (sessionIdHash : String) (pointer : Doc) : Except PyError ParsedPointer := do
  refuseIf (docType? pointer ≠ some .activeSourceRevision ∨
      pointer.text .id ≠ activeSourceRevisionPointerDocId sessionIdHash ∨
      pointer.text .sessionIdHash ≠ sessionIdHash)
    (.resolution "active source revision pointer is invalid")
  let activeRevision ← requireHash (pointer.text .activeRevision)
  let manifestId := pointer.text .manifestId
  refuseIf (manifestId ≠ sourceRevisionManifestDocId sessionIdHash activeRevision)
    (.resolution "active source revision pointer manifest is invalid")
  let manifestHash ← requireHash (pointer.text .manifestHash)
  let sourceHash ← requireHash (pointer.text .sourceHash)
  return { activeRevision, manifestId, manifestHash, sourceHash }

def parseMembers (manifest : Doc) : Except PyError (List Doc) :=
  match manifest.get? .members with
  | some (.arr (first :: rest)) =>
      match (first :: rest).mapM Doc.ofJson? with
      | some members => .ok members
      | none => .error (.resolution "active source revision membership is invalid")
  | _ => .error (.resolution "active source revision membership is invalid")

def parseManifest (sessionIdHash activeRevision expectedManifestHash expectedSourceHash : String)
    (manifest : Doc) : Except PyError (List Doc) := do
  refuseIf (docType? manifest ≠ some .sourceRevisionManifest ∨
      manifest.text .id ≠ sourceRevisionManifestDocId sessionIdHash activeRevision ∨
      manifest.text .sessionIdHash ≠ sessionIdHash ∨
      manifest.text .sourceRevision ≠ activeRevision ∨
      manifest.text .sourceHash ≠ expectedSourceHash)
    (.resolution "active source revision manifest is invalid")
  let members ← parseMembers manifest
  let provenance ← validateProvenance ((manifest.get? .provenance).getD (.obj [])) true
  let computed ←
    manifestHash py sessionIdHash activeRevision expectedSourceHash members provenance
  refuseIf (computed ≠ expectedManifestHash ∨ manifest.text .manifestHash ≠ expectedManifestHash)
    (.resolution "active source revision manifest changed")
  let memberIds := members.map (·.text .memberId)
  refuseIf ("" ∈ memberIds ∨ ¬ memberIds.Nodup)
    (.resolution "active source revision membership is invalid")
  return sortOn memberKey members

structure MemberFields where
  memberId : String
  descriptor : Descriptor
  deriving DecidableEq, Repr

def MemberFields.fields (m : MemberFields) : List (Field × Json) :=
  (.memberId, .str m.memberId) :: m.descriptor.fields

def validateMemberRecord (sessionIdHash sourceRevision : String) (membership : Doc)
    (member : Option Doc) : Except PyError MemberFields := do
  let sourceDocumentId := membership.text .sourceDocumentId
  let memberId := membership.text .memberId
  let sourceDocType := membership.text .sourceDocType
  refuseIf ((SourceDocType.ofText? sourceDocType).all (fun t => !isSourceMemberType t) ∨
      sourceDocumentId = "" ∨ memberId = "")
    (.resolution "active source revision member is invalid")
  refuseIf (memberId ≠ sourceRevisionMemberDocId py sessionIdHash sourceRevision sourceDocumentId)
    (.resolution "active source revision member is invalid")
  let expectedMemberHash ← requireHash (membership.text .memberHash)
  match member with
  | none => .error (.resolution "active source revision member is missing")
  | some member => do
      let materialHash ← requireHash (membership.text .materialHash)
      let memberRevisionHash ← requireHash (membership.text .memberRevisionHash)
      let sourceDocumentHash ← requireHash (membership.text .sourceDocumentHash)
      let materialHashField := membership.text .materialHashField
      let fields : MemberFields := {
        memberId
        descriptor := { sourceDocumentId, sourceDocType, materialHashField, materialHash,
                        memberRevisionHash, sourceDocumentHash } }
      refuseIf (docType? member ≠ some .sourceRevisionMember ∨
          member.text .sessionIdHash ≠ sessionIdHash ∨
          member.text .sourceRevision ≠ sourceRevision ∨
          fields.fields.any (fun entry => member.get? entry.1 ≠ some entry.2) ∨
          member.text .memberHash ≠
            memberHash py sessionIdHash sourceRevision memberId fields.descriptor ∨
          member.text .memberHash ≠ expectedMemberHash)
        (.resolution "active source revision member changed")
      return fields

def validateSourceDocumentAgainstMember (sessionIdHash : String) (fields : MemberFields)
    (source : Doc) : Except PyError Unit := do
  let descriptor ← sourceMemberDescriptor py sessionIdHash source
  refuseIf (descriptor ≠ fields.descriptor)
    (.resolution "active source revision source changed")

end Control

/-! ## Resolution -/

section Resolve

universe u

variable (py : Platform) {m : Type → Type u} [Monad m] [MonadExceptOf PyError m]

/-- The two reads of the store the resolver makes. -/
structure Reader (m : Type → Type u) where
  get : String → m (Option Doc)
  findBySession : String → SourceDocType → m (List Doc)

def validateMemberAndSource (getDocument : String → m (Option Doc))
    (sessionIdHash sourceRevision : String) (membership : Doc) : m Doc := do
  let member ← getDocument (membership.text .memberId)
  let fields ← ofExcept (validateMemberRecord py sessionIdHash sourceRevision membership member)
  match ← getDocument (membership.text .sourceDocumentId) with
  | none => throw (PyError.resolution "active source revision source is missing")
  | some source => do
      ofExcept (validateSourceDocumentAgainstMember py sessionIdHash fields source)
      return source

def resolved (sessionIdHash : String) (documents : List Doc) (sourceHash : String)
    (manifestId : Option String) (isLegacyUnpinned : Bool) : ResolvedSourceRevision :=
  { sessionIdHash
    sessions := documents.filter (fun d => docType? d = some .transcriptSession)
    conversationChunks := documents.filter (fun d => docType? d = some .conversationChunk)
    toolEvidenceBundles := documents.filter (fun d => docType? d = some .toolEvidenceBundle)
    sourceHash, manifestId, isLegacyUnpinned }

/-- The legacy set: the session's source documents that are not revision copies. -/
def legacyDocuments (documents : List Doc) : List Doc :=
  sortOn (·.text .id) (documents.filter (fun d => !isImmutableSourceCopy d))

def loadLegacyDocuments (store : Reader m) (sessionIdHash : String) : m (List Doc) := do
  let sessions ← store.findBySession sessionIdHash .transcriptSession
  let chunks ← store.findBySession sessionIdHash .conversationChunk
  let bundles ← store.findBySession sessionIdHash .toolEvidenceBundle
  return legacyDocuments (sessions ++ chunks ++ bundles)

def resolveLegacy (sessionIdHash : String) (documents : List Doc) :
    Except PyError ResolvedSourceRevision := do
  let hash ← resolvedSourceHash py documents
  return resolved sessionIdHash documents hash none true

/-- Resolution below a parsed pointer, the same in both resolvers. -/
def resolvePinned (getDocument : String → m (Option Doc)) (sessionIdHash : String)
    (pointer : Doc) : m ResolvedSourceRevision := do
  let parsed ← ofExcept (parsePointer sessionIdHash pointer)
  match ← getDocument parsed.manifestId with
  | none => throw (PyError.resolution "active source revision manifest is missing")
  | some manifest => do
      let members ← ofExcept (parseManifest py sessionIdHash parsed.activeRevision
        parsed.manifestHash parsed.sourceHash manifest)
      let documents ← members.mapM
        (validateMemberAndSource py getDocument sessionIdHash parsed.activeRevision)
      let hash ← ofExcept (resolvedSourceHash py documents)
      if hash ≠ parsed.sourceHash then
        throw (PyError.resolution "active source revision hash changed")
      return resolved sessionIdHash documents parsed.sourceHash (some parsed.manifestId) false

/-- Resolve an active immutable revision, or the legacy set only if unpinned. -/
def resolveActiveSourceRevision (store : Reader m) (sessionIdHash : String) :
    m ResolvedSourceRevision := do
  ofExcept (assertHashLike "session_id_hash" sessionIdHash)
  match ← store.get (activeSourceRevisionPointerDocId sessionIdHash) with
  | none => do
      let documents ← loadLegacyDocuments store sessionIdHash
      ofExcept (resolveLegacy py sessionIdHash documents)
  | some pointer => resolvePinned py store.get sessionIdHash pointer

end Resolve

/-! ## Resolution from a preloaded list -/

section Snapshot

variable (py : Platform)

/-- One turn of the loop that builds the document map. -/
def addSnapshotDocument (snapshot : List (String × Doc)) (document : Doc) :
    Except PyError (List (String × Doc)) := do
  let documentId := document.text .id
  if documentId = "" then
    return snapshot
  refuseIf (lookup documentId snapshot ≠ none)
    (.resolution "active source revision snapshot is invalid")
  return snapshot ++ [(documentId, document)]

def snapshotDocumentMap (documents : List Doc) : Except PyError (List (String × Doc)) :=
  documents.foldlM addSnapshotDocument []

def snapshotLegacyDocuments (sessionIdHash : String) (documents : List Doc) : List Doc :=
  legacyDocuments (documents.filter (fun d =>
    d.text .sessionIdHash = sessionIdHash ∧ isSourceMember d))

def resolveActiveSourceRevisionFromSnapshot (sessionIdHash : String) (documents : List Doc) :
    Except PyError ResolvedSourceRevision := do
  assertHashLike "session_id_hash" sessionIdHash
  let documentsById ← snapshotDocumentMap documents
  let pointerCandidates := documents.filter (fun d =>
    d.text .id = activeSourceRevisionPointerDocId sessionIdHash ∨
      docType? d = some .activeSourceRevision)
  match pointerCandidates with
  | [] => resolveLegacy py sessionIdHash (snapshotLegacyDocuments sessionIdHash documents)
  | [pointer] =>
      resolvePinned py (fun docId => pure (lookup docId documentsById)) sessionIdHash pointer
  | _ => .error (.resolution "active source revision pointer is invalid")

end Snapshot

/-- The mutable origin ids behind an active revision's copies. -/
def activeSourceOriginDocumentIds (active : ResolvedSourceRevision) :
    Except PyError (List String) :=
  active.documents.foldlM (fun originIds document => do
    let originId :=
      if isRevisionSnapshotCopy document then document.text .sourceSnapshotOriginId
      else document.text .id
    refuseIf (originId = "" ∨ originId ∈ originIds)
      (.resolution "active source revision origins are invalid")
    return originIds ++ [originId]) []

end Neurons.Source
