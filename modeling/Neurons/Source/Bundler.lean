import Neurons.Source.Activation
import Neurons.Source.Coverage
import Neurons.Source.Evidence

/-! # Storing evidence bundles

`store_tool_evidence_bundles`: legacy upserts while a session has no active revision, afterwards a
successor revision. An extractor that re-reads the whole session replaces the active bundles.
-/

namespace Neurons.Source

open Neurons.Lib

/-! ## Bundle identity -/

def bundleBookkeepingFields : List Field :=
  [.id, .rev, .idempotencyKey, .payloadHash, .sourceSnapshotSchemaVersion, .sourceSnapshotScope,
    .sourceSnapshotOriginId, .currentSourceScope, .supersedesSourceDocumentHash]

/-- The bookkeeping that a full generation strips: corrective copies keep their identity. -/
def fullGenerationSourceBookkeepingFields : List Field :=
  [.id, .rev, .idempotencyKey, .payloadHash, .sourceSnapshotSchemaVersion, .sourceSnapshotScope,
    .sourceSnapshotOriginId]

/-- A document without what the store and the snapshots note in it. -/
def bundleMaterial (document : Doc) : Doc := document.without bundleBookkeepingFields

section Bundler

variable (py : Platform) (fmt : Formats)

/-- The public-safe bundle identity without store bookkeeping. -/
def bundleMaterialHash (document : Doc) : String := canonicalHash py (bundleMaterial document).json

/-- Assign an additive bundle id derived from prior and incoming source content. -/
def revisionScopedBundleDocument (document : Doc) (activeSourceHash : String) : Except PyError Doc := do
  assertHashLike "session_id_hash" (document.text .sessionIdHash)
  assertHashLike "active_source_hash" activeSourceHash
  refuseIf (docType? document ≠ some .toolEvidenceBundle ∨ document.text .id = "")
    (.valueError "tool evidence bundle contract is invalid")
  let scope : Doc := Dict.insertAll (Doc.ofFields [(.schemaVersion, .str "active_tool_evidence_bundle.v1")])
    [(.other "active_source_hash", .str activeSourceHash),
      (.other "bundle_material_hash", .str (bundleMaterialHash py document))]
  let revisionScope := canonicalHash py scope.json
  return document.set .id (.str (SourceDocType.toolEvidenceBundle.text ++ ":revision:" ++
    hashHex (document.text .sessionIdHash) ++ ":" ++ hashHex revisionScope ++ ":" ++
    hashHex (sha256Hash py (.text (document.text .id)))))

/-- The mutable origin represented by an active bundle snapshot. -/
def bundleOriginDocumentId (document : Doc) : Except PyError String := do
  let originId := (firstText document [.sourceSnapshotOriginId, .id]).getD ""
  refuseIf (originId = "") (.conflict "active tool evidence bundle origin is invalid")
  return originId

/-- Use an active snapshot's proven content, never its mutable raw body. -/
def fullGenerationSourceDocument (document : Doc) : Except PyError Doc := do
  let originId ← bundleOriginDocumentId document
  return (document.without fullGenerationSourceBookkeepingFields).set .id (.str originId)

/-- `int(document[field])`, where every failure is the caller's contract error. -/
def partNumber (document : Doc) (f : Field) : Except PyError Int :=
  let invalid := PyError.valueError "full tool evidence generation contract is invalid"
  match document.get? f with
  | none | some .null | some (.str "") | some (.arr []) | some (.obj []) => .error invalid
  | some _ => rescue (intField py document f) [.typeError, .valueError] invalid

/-- Require an explicit full-session replacement to contain every bundle part. -/
def assertCompleteBundleGeneration (documents : List Doc) : Except PyError Unit := do
  let counts ← documents.mapM (partNumber py · .partCount)
  let indexes ← documents.mapM (partNumber py · .partIndex)
  match counts.dedup with
  | [count] =>
      refuseIf (count ≤ 0 ∨ (documents.length : Int) ≠ count ∨ (∃ i ∈ indexes, i < 1 ∨ count < i) ∨
          ∃ i ∈ List.range count.toNat, (i : Int) + 1 ∉ indexes)
        (.valueError "full tool evidence generation is incomplete")
  | _ => .error (.valueError "full tool evidence generation contract is invalid")

/-! ## Predecessors -/

/-- Fail before mutable legacy writes when an extraction predecessor is stale. -/
def resolveExpectedPredecessor (sessionIdHash : String) (expected : ResolvedSourceRevision) :
    StoreProgram ResolvedSourceRevision := do
  ofExcept (refuseIf (expected.sessionIdHash ≠ sessionIdHash)
    (.conflict "expected predecessor session does not match"))
  ofExcept (rescue (assertHashLike "expected_predecessor_source_hash" expected.sourceHash) [.valueError]
    (.conflict "expected predecessor is invalid"))
  let current ← resolveActiveSourceRevision py storeReader sessionIdHash
  ofExcept (refuseIf (current.isLegacyUnpinned ≠ expected.isLegacyUnpinned ∨
      current.manifestId ≠ expected.manifestId ∨ current.sourceHash ≠ expected.sourceHash)
    (.conflict "expected predecessor does not match current revision"))
  return current

/-- Carry safe provenance, optionally binding a new predecessor. -/
def activeProvenance (resolved : ResolvedSourceRevision) (includePredecessor : Bool) : StoreProgram Json :=
  match resolved.manifestId with
  | none => .fail (.resolution "active source revision manifest is missing")
  | some manifestId => do
      match ← getDocument manifestId with
      | none => throw (.resolution "active source revision manifest is missing")
      | some manifest =>
          match (manifest.get? .provenance).bind Doc.ofJson? with
          | none => throw (.resolution "active source revision provenance is invalid")
          | some provenance => do
              let manifestHash := manifest.text .manifestHash
              ofExcept (rescue (assertHashLike "predecessor_manifest_hash" manifestHash) [.valueError]
                (.resolution "active source revision manifest is invalid"))
              let carried : Doc := Dict.insertAll ∅ (provenance.entries.map fun (k, v) => (k, .str v.text))
              if includePredecessor then return (carried.set .predecessorManifestHash (.str manifestHash)).json
              else return carried.json

/-! ## Writes -/

/-- `store.put(document)` and its siblings, which return the stored revision. -/
def storeDocument (op : Op) : StoreProgram StoredRevision := do
  match ← performOp op with
  | .stored revision => return revision
  | .deleted _ => throw (.typeError "not a write")

/-- Write each document under its key. -/
def storeAll (write : Doc → Op) : List (String × Doc) → StoreProgram (List (String × StoredRevision))
  | [] => .done []
  | (key, document) :: rest => do
      let revision ← storeDocument (write document)
      let others ← storeAll write rest
      return (key, revision) :: others

/-- Converge secondary records to one already-published source revision. -/
def refreshActiveBundleCurrentness (activated : ResolvedSourceRevision) : StoreProgram Unit := do
  let coverage ← updateCoverageWithToolEvidence py fmt activated.sessionIdHash
  ofExcept (refuseIf (coverage.map (·.text .sourceHash) ≠ some activated.sourceHash)
    (.conflict "active source revision coverage did not converge"))
  match activated.sessions with
  | [session] => do
      let _ ← markProjectionPendingIfSourceChanged py fmt activated.sessionIdHash (session.text .provider)
        (session.text .project) activated.sourceHash
      return ()
  | _ => throw (.conflict "active source revision session contract is invalid")

/-! ## Full generations -/

/-- The sources a full generation selects: the resolved sessions and chunks with the given bundles. -/
def generationSources (resolved : ResolvedSourceRevision) (documents : List Doc) : Except PyError (List Doc) :=
  (resolved.sessions ++ resolved.conversationChunks ++ documents).mapM fullGenerationSourceDocument

/-- The snapshot copies a full generation pins. -/
def generationCopies (resolved : ResolvedSourceRevision) (documents : List Doc) : Except PyError (List Doc) := do
  let sources ← generationSources resolved documents
  let snapshotHash ← sourceDocumentSetRevision py resolved.sessionIdHash sources
  buildRevisionScopedSourceDocuments py sources snapshotHash .snapshot

/-- Add the copies, and note each stored revision under its origin. -/
def stageGeneration : List Doc → List (String × StoredRevision) → StoreProgram (List (String × StoredRevision))
  | [], staged => .done staged
  | document :: rest, staged => do
      let revision ← storeDocument (.putIfAbsent document)
      let originId ← ofExcept (bundleOriginDocumentId document)
      ofExcept (refuseIf (originId ∈ staged.map Prod.fst)
        (.conflict "full tool evidence generation source is invalid"))
      stageGeneration rest (staged ++ [(originId, revision)])

/-- Pin caller-selected bundles with the resolved session/chunk snapshot. -/
def activateFullBundleGeneration (documents : List Doc) (resolved : ResolvedSourceRevision)
    (expected : Option ResolvedSourceRevision) :
    StoreProgram (ResolvedSourceRevision × List (String × StoredRevision)) := do
  let copies ← ofExcept (generationCopies py resolved documents)
  let revisionsByOrigin ← stageGeneration copies []
  let activated ← activateSourceRevision py resolved.sessionIdHash (some (copies.map (·.text .id))) .null
    (some (expected.getD resolved))
  return (activated, revisionsByOrigin)

/-- `[revisions[key] for key in keys]`. -/
def revisionsOf (revisions : List (String × StoredRevision)) (keys : List String) :
    Except PyError (List StoredRevision) :=
  keys.mapM fun key =>
    match lookup key revisions with
    | some revision => return revision
    | none => .error (.keyError (reprText key))

/-- Replace the active bundles of the session and converge its secondary records. -/
def replaceBundles (documents : List Doc) (resolved : ResolvedSourceRevision)
    (expected : Option ResolvedSourceRevision) : StoreProgram (List StoredRevision) := do
  let (activated, revisionsByOrigin) ← activateFullBundleGeneration py documents resolved expected
  refreshActiveBundleCurrentness py fmt activated
  ofExcept (revisionsOf revisionsByOrigin (documents.map (·.text .id)))

/-! ## Bundles beside an active revision -/

def activeByMaterial (resolved : ResolvedSourceRevision) : Table String Doc :=
  resolved.toolEvidenceBundles.foldl (fun active bundle => active.set (bundleMaterialHash py bundle) bundle) ∅

/-- The bundles that are not active yet, each under its material and with an id of its own. -/
def stagedByMaterial (resolved : ResolvedSourceRevision) (documents : List Doc) :
    Except PyError (Table String Doc) :=
  documents.foldlM (fun staged document => do
    let hash := bundleMaterialHash py document
    if ((activeByMaterial py resolved).get? hash).isSome then return staged
    else do
      let additive ← revisionScopedBundleDocument py document resolved.sourceHash
      if (staged.get? hash).isSome then return staged else return staged.set hash additive) ∅

/-- The given bundles are the active ones, each as often as it has a material of its own. -/
def isExactRetry (resolved : ResolvedSourceRevision) (documents : List Doc) : Prop :=
  let active := activeByMaterial py resolved
  let ordered := documents.map (bundleMaterialHash py)
  resolved.isLegacyUnpinned = false ∧ (∀ hash ∈ ordered, (active.get? hash).isSome) ∧
    ordered.length = active.entries.length ∧ ∀ entry ∈ active.entries, entry.1 ∈ ordered

instance (resolved : ResolvedSourceRevision) (documents : List Doc) :
    Decidable (isExactRetry py resolved documents) :=
  inferInstanceAs (Decidable (_ ∧ _ ∧ _ ∧ _))

/-- The stored revisions of the active bundles, by material. -/
def activeDuplicates (resolved : ResolvedSourceRevision) : List (String × StoredRevision) :=
  (activeByMaterial py resolved).entries.map fun (hash, bundle) =>
    (hash, ⟨bundle.text .id, bundle.text .rev, .duplicate⟩)

/-- Stage the new bundles and add them to what the active revision selects. -/
def appendBundles (documents : List Doc) (staged : Table String Doc) (resolved : ResolvedSourceRevision)
    (expected : Option ResolvedSourceRevision) : StoreProgram (List StoredRevision) := do
  let stored ← storeAll .putIfAbsent staged.entries
  let originIds ← ofExcept (activeSourceOriginDocumentIds resolved)
  let docIds := sortTexts (originIds ++ staged.values.map (·.text .id)).dedup
  let provenance ← activeProvenance resolved (decide (∃ docId ∈ docIds, docId ∉ originIds))
  let activated ← activateSourceRevision py resolved.sessionIdHash (some docIds) provenance
    (some (expected.getD resolved))
  refreshActiveBundleCurrentness py fmt activated
  ofExcept (revisionsOf (activeDuplicates py resolved ++ stored) (documents.map (bundleMaterialHash py)))

/-- Stage bundles, then move one active allowlist to their intended generation. -/
def activeBundleRevisions (documents : List Doc) (resolved : ResolvedSourceRevision) (replaceActive : Bool)
    (expected : Option ResolvedSourceRevision) : StoreProgram (List StoredRevision) := do
  let staged ← ofExcept (stagedByMaterial py resolved documents)
  let ordered := documents.map (bundleMaterialHash py)
  if replaceActive = true ∧ isExactRetry py resolved documents then do
    match expected with
    | some expected =>
        (resolveExpectedPredecessor py resolved.sessionIdHash expected).bind fun _ => .done ()
    | none => Prog.done ()
    refreshActiveBundleCurrentness py fmt resolved
    ofExcept (revisionsOf (activeDuplicates py resolved) ordered)
  else if replaceActive then replaceBundles py fmt documents resolved expected
  else if staged.entries = [] then do
    refreshActiveBundleCurrentness py fmt resolved
    ofExcept (revisionsOf (activeDuplicates py resolved) ordered)
  else appendBundles py fmt documents staged resolved expected

/-! ## The operation -/

/-- The documents of a call and the session they are for. -/
def generationOf (records : List ToolEvidenceSummaryRecord) (maxChars : Int) (fullSessionGeneration : Bool)
    (sessionIdHash : String) : Except PyError (List Doc × String) := do
  let documents ← buildToolEvidenceBundleDocuments py fmt records maxChars
  let documentSession := (documents.head?.map (·.text .sessionIdHash)).getD ""
  refuseIf (sessionIdHash ≠ "" ∧ documentSession ≠ "" ∧ sessionIdHash ≠ documentSession)
    (.valueError "tool evidence session_id_hash contract is invalid")
  let session := if documentSession = "" then sessionIdHash else documentSession
  if documents = [] ∧ fullSessionGeneration = false then return (documents, session)
  else do
    refuseIf (session = "") (.valueError "full tool evidence generation requires session_id_hash")
    assertHashLike "session_id_hash" session
    if fullSessionGeneration = true ∧ documents ≠ [] then assertCompleteBundleGeneration py documents
    return (documents, session)

/-- The call while the session had no active pointer. -/
def storeLegacyBundles (documents : List Doc) (sessionIdHash : String) (fullSessionGeneration : Bool) :
    StoreProgram (List StoredRevision) := do
  let legacy ← storeAll .put (documents.map fun d => (d.text .id, d))
  match ← getDocument (activeSourceRevisionPointerDocId sessionIdHash) with
  | none =>
      if fullSessionGeneration then do
        let resolved ← resolveActiveSourceRevision py storeReader sessionIdHash
        if resolved.isLegacyUnpinned then replaceBundles py fmt documents resolved none
        else activeBundleRevisions py fmt documents resolved true none
      else return legacy.map Prod.snd
  | some _ => do
      let resolved ← resolveActiveSourceRevision py storeReader sessionIdHash
      if resolved.isLegacyUnpinned then
        throw (.conflict "active source revision changed during legacy tool evidence storage")
      else activeBundleRevisions py fmt documents resolved fullSessionGeneration none

/-- Store bounded evidence records for one session. -/
def storeToolEvidenceBundles (records : List ToolEvidenceSummaryRecord) (maxChars : Int)
    (fullSessionGeneration : Bool) (sessionIdHash : String) (expected : Option ResolvedSourceRevision) :
    StoreProgram (List StoredRevision) := do
  let (documents, session) ← ofExcept (generationOf py fmt records maxChars fullSessionGeneration sessionIdHash)
  if documents = [] ∧ fullSessionGeneration = false then return []
  else
    match expected with
    | some expected => do
        let resolved ← resolveExpectedPredecessor py session expected
        activeBundleRevisions py fmt documents resolved fullSessionGeneration (some expected)
    | none => do
        match ← getDocument (activeSourceRevisionPointerDocId session) with
        | none => storeLegacyBundles py fmt documents session fullSessionGeneration
        | some _ => do
            let resolved ← resolveActiveSourceRevision py storeReader session
            activeBundleRevisions py fmt documents resolved fullSessionGeneration none

end Bundler

end Neurons.Source
