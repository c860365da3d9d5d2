import Neurons.Source.ControlPlane
import Neurons.Source.StoreProgram

/-! # Activating a source revision

`activate_source_revision` stages immutable copies of the selected documents, writes a member
record for each and a manifest over all of them, reads the copies again and moves the session's
pointer. Every step is a call of its own, so other clients may act between any two.
-/

namespace Neurons.Source

open Neurons.Lib

/-! ## Document sets -/

section Sets

variable (py : Platform)

/-- `source_document_set_revision`. -/
def sourceDocumentSetRevision (sessionIdHash : String) (documents : List Doc) : Except PyError String :=
  rescue (do
      let descriptors ← documents.mapM (sourceMemberDescriptor py sessionIdHash)
      return sourceRevision py descriptors)
    [.sourceRevisionResolutionError, .typeError, .valueError]
    (.conflict "source revision source contract is invalid")

/-- Bind immutable snapshot ids to one verified origin document set. -/
def sourceSnapshotScope (documents : List Doc) (sourceSnapshotHash : String) : Except PyError String := do
  assertHashLike "source_snapshot_hash" sourceSnapshotHash
  return canonicalHash py (Doc.ofFields [
    (.sourceSnapshotHash, .str sourceSnapshotHash),
    (.documents, .arr (documents.map fun d => (d.without (.id :: bookkeepingFields)).json))]).json

inductive ScopeKind where
  | snapshot | current
  deriving DecidableEq, Repr

def ScopeKind.text : ScopeKind → String
  | .snapshot => "snapshot"
  | .current => "current"

def revisionScopedSourceDocumentId (document : Doc) (sourceScope : String) (kind : ScopeKind) :
    Except PyError String := do
  assertHashLike "session_id_hash" (document.text .sessionIdHash)
  assertHashLike "source_scope" sourceScope
  refuseIf (¬ isSourceMember document ∨ document.text .id = "")
    (.valueError "source revision snapshot document contract is invalid")
  return document.text .docType ++ ":" ++ kind.text ++ ":" ++ hashHex (document.text .sessionIdHash) ++ ":" ++
    hashHex sourceScope ++ ":" ++ hashHex (sha256Hash py (.text (document.text .id)))

/-- The fields that mark a copy as one of its scope. -/
def scopeFields (origin : Doc) (sourceScope : String) : ScopeKind → List (Field × Json)
  | .current =>
      [(.currentSourceScope, .str sourceScope),
        (.supersedesSourceDocumentHash, .str (sha256Hash py (.text (origin.text .id))))]
  | .snapshot =>
      [(.sourceSnapshotSchemaVersion, .str sourceSnapshotSchemaVersion),
        (.sourceSnapshotScope, .str sourceScope),
        (.sourceSnapshotOriginId, .str (origin.text .id))]

/-- The copy of one origin under its id in the scope. -/
def scopedCopy (origin : Doc) (docId sourceScope : String) (kind : ScopeKind) : Doc :=
  ((origin.without bookkeepingFields).set .id (.str docId)).update (scopeFields py origin sourceScope kind)

/-- Build immutable, revision-scoped copies of one source-document set. -/
def buildRevisionScopedSourceDocuments (documents : List Doc) (sourceSnapshotHash : String)
    (kind : ScopeKind) : Except PyError (List Doc) := do
  let origins := match kind with
    | .snapshot => sortOn (·.text .id) documents
    | .current => documents
  let sourceScope ← sourceSnapshotScope py origins sourceSnapshotHash
  origins.mapM fun origin => do
    let docId ← revisionScopedSourceDocumentId py origin sourceScope kind
    return scopedCopy py origin docId sourceScope kind

/-- A generic copy among the documents to be snapshot has its origin and its scope. -/
def checkSnapshotCopy (document : Doc) : Except PyError Unit := do
  refuseIf (document.text .sourceSnapshotOriginId = "")
    (.conflict "source revision snapshot origin is invalid")
  rescue (assertHashLike "source_snapshot_scope" (document.text .sourceSnapshotScope)) [.valueError]
    (.conflict "source revision snapshot origin is invalid")

/-- One immutable source set without nested snapshot copies. -/
def snapshotSourceDocuments (sessionIdHash : String) (documents : List Doc) : Except PyError (List Doc) := do
  let genericSnapshots := documents.filter isRevisionSnapshotCopy
  if genericSnapshots ≠ [] then do
    refuseIf (genericSnapshots.length ≠ documents.length)
      (.conflict "source revision snapshot input mixes active copies and origins")
    genericSnapshots.forM checkSnapshotCopy
    return documents
  else if documents ≠ [] ∧ documents.all isCurrentSourceCopy then return documents
  else do
    let origins ← sourceDocumentSetRevision py sessionIdHash documents
    buildRevisionScopedSourceDocuments py documents origins .snapshot

end Sets

/-! ## Reading an allowlist -/

def normalizeSourceDocumentIds (docIds : List String) : Except PyError (List String) := do
  refuseIf (docIds = [] ∨ "" ∈ docIds ∨ ¬ docIds.Nodup) (.conflict "source revision allowlist is invalid")
  return docIds

def loadAllowlistedDocument (sessionIdHash docId : String) : StoreProgram Doc := do
  match ← getDocument docId with
  | none => throw (.conflict "source revision allowlist member is missing")
  | some document => do
      ofExcept (refuseIf (¬ isSourceMember document ∨ document.text .sessionIdHash ≠ sessionIdHash)
        (.conflict "source revision allowlist member is invalid"))
      return document

def loadAllowlistedDocuments (sessionIdHash : String) (docIds : List String) : StoreProgram (List Doc) := do
  let docIds ← ofExcept (normalizeSourceDocumentIds docIds)
  let documents ← docIds.mapM (loadAllowlistedDocument sessionIdHash)
  return sortOn (·.text .id) documents

/-! ## The predecessor -/

/-- Fence a caller's resolved predecessor before staging immutable records. -/
def assertExpectedPredecessor (sessionIdHash : String) (current : Option ParsedPointer) :
    Option ResolvedSourceRevision → Except PyError Unit
  | none => .ok ()
  | some expected => do
      refuseIf (expected.sessionIdHash ≠ sessionIdHash)
        (.conflict "expected predecessor session does not match")
      if expected.isLegacyUnpinned then
        refuseIf (expected.manifestId ≠ none ∨ current ≠ none)
          (.conflict "expected predecessor does not match current pointer")
      else do
        refuseIf (expected.manifestId = none) (.conflict "expected predecessor is invalid")
        rescue (assertHashLike "expected_predecessor_source_hash" expected.sourceHash) [.valueError]
          (.conflict "expected predecessor is invalid")
        match current with
        | none => .error (.conflict "expected predecessor does not match current pointer")
        | some pointer =>
            refuseIf (some pointer.manifestId ≠ expected.manifestId ∨ pointer.sourceHash ≠ expected.sourceHash)
              (.conflict "expected predecessor does not match current pointer")

section Activation

variable (py : Platform)

/-- The documents of the expected predecessor hash as the session's legacy documents do. -/
def checkLegacyPredecessor (sessionIdHash : String) (expected : ResolvedSourceRevision)
    (documents : List Doc) : Except PyError Unit := do
  let (expectedRevision, currentRevision, currentHash) ← rescue (do
      assertHashLike "expected_predecessor_source_hash" expected.sourceHash
      let expectedRevision ← sourceDocumentSetRevision py sessionIdHash expected.documents
      let currentRevision ← sourceDocumentSetRevision py sessionIdHash documents
      let currentHash ← resolvedSourceHash py documents
      return (expectedRevision, currentRevision, currentHash))
    [.sourceRevisionResolutionError, .sourceStoreConflict, .typeError, .valueError]
    (.conflict "expected predecessor legacy source changed")
  refuseIf (expected.sourceHash ≠ currentHash ∨ expectedRevision ≠ currentRevision)
    (.conflict "expected predecessor legacy source changed")

/-- Fence the exact legacy input again immediately before an initial CAS. -/
def assertLegacyPredecessorUnchanged (sessionIdHash : String) (expected : ResolvedSourceRevision) :
    StoreProgram Unit := do
  let pointer ← getDocument (activeSourceRevisionPointerDocId sessionIdHash)
  let current ← ofExcept (rescue (pointer.mapM (parsePointer sessionIdHash)) [.sourceRevisionResolutionError]
    (.conflict "expected predecessor does not match current pointer"))
  ofExcept (assertExpectedPredecessor sessionIdHash current (some expected))
  let documents ← loadLegacyDocuments storeReader sessionIdHash
  ofExcept (checkLegacyPredecessor py sessionIdHash expected documents)

/-! ## Staging -/

/-- What the copies of an activation come to. -/
structure Staged where
  originRevision : String
  documents : List Doc
  descriptors : List Descriptor
  sourceHash : String

/-- The ids an activation pins are those of its copies. -/
def Staged.docIds (staged : Staged) : List String := staged.documents.map (·.text .id)

def performAll : List Op → StoreProgram Unit
  | [] => .done ()
  | op :: rest => (performOp op).bind fun _ => performAll rest

/-- The one session document of a set. -/
def sessionDocumentOf (documents : List Doc) : Except PyError Doc :=
  match documents.filter (fun d => docType? d = some .transcriptSession) with
  | [session] => .ok session
  | _ => .error (.conflict "source revision session contract is invalid")

/-- The checks on the documents an activation selects. -/
def checkSourceDocuments (documents : List Doc) : Except PyError Doc := do
  refuseIf (documents = []) (.conflict "source revision has no source documents")
  let session ← sessionDocumentOf documents
  refuseIf (session.text .provider = "" ∨ session.text .project = "" ∨ documents.any fun d =>
      d.text .provider ≠ session.text .provider ∨ d.text .project ≠ session.text .project)
    (.conflict "source revision source contract is invalid")
  return session

/-- The immutable copies, and what they hash to. -/
def stageCopies (sessionIdHash : String) (sourceDocuments : List Doc) : StoreProgram Staged :=
  rescuing (do
      let originRevision ← ofExcept (sourceDocumentSetRevision py sessionIdHash sourceDocuments)
      let copies ← ofExcept (snapshotSourceDocuments py sessionIdHash sourceDocuments)
      ofExcept (refuseIf ("" ∈ copies.map (·.text .id)) (.conflict "source revision snapshot document is invalid"))
      performAll (copies.map .putIfAbsent)
      let documents ← loadAllowlistedDocuments sessionIdHash (copies.map (·.text .id))
      let descriptors ← ofExcept (documents.mapM (sourceMemberDescriptor py sessionIdHash))
      let hash ← ofExcept (sourceHash py documents)
      return ⟨originRevision, documents, descriptors, hash⟩)
    [.sourceRevisionResolutionError, .sourceStoreConflict, .typeError, .valueError]
    (.conflict "source revision source contract is invalid")

/-- Manifest provenance without what attests a pointer transition. -/
def sourceSetProvenance (provenance : Doc) : Doc := provenance.without [.predecessorManifestHash]

/-- An existing manifest's hash, where its source set is the requested one. -/
def reusableManifestHash (manifest : Doc) (sessionIdHash sourceRevision sourceHash : String)
    (members : List Doc) (provenance : Doc) : Except PyError String := do
  let existingHash ← requireHash (manifest.text .manifestHash)
  let (existingMembers, existingProvenance) ← rescue (do
      let members ← parseManifest py sessionIdHash sourceRevision existingHash sourceHash manifest
      let provenance ← validateProvenance ((manifest.get? .provenance).getD (.obj [])) true
      return (members, provenance))
    [.sourceRevisionResolutionError] (.conflict "existing source revision manifest is invalid")
  refuseIf (existingMembers ≠ sortOn memberKey members ∨
      sourceSetProvenance existingProvenance ≠ sourceSetProvenance provenance)
    (.conflict "existing source revision manifest does not match source set")
  return existingHash

/-- Add the manifest; a manifest that another client added meanwhile is returned. -/
def putManifest (manifest : Doc) : StoreProgram (Option Doc) :=
  ((performOp (.putIfAbsent manifest)).bind fun _ => .done none).tryCatch fun e =>
    if e.isA .sourceStoreConflict then
      (getDocument (manifest.text .id)).bind fun existing =>
        match existing with
        | none => .fail e
        | some existing => .done (some existing)
    else .fail e

/-- The manifest of the staged copies, and its hash. -/
def stageManifest (sessionDocument : Doc) (sessionIdHash : String) (staged : Staged) (provenance : Doc) :
    StoreProgram String := do
  let revision := sourceRevision py staged.descriptors
  let members := staged.descriptors.map (membership py sessionIdHash revision)
  let hash ← ofExcept (manifestHash py sessionIdHash revision staged.sourceHash members provenance)
  let manifest := manifestDocument sessionDocument sessionIdHash revision staged.sourceHash members provenance hash
  let found ← getDocument (sourceRevisionManifestDocId sessionIdHash revision)
  let existing ← match found with
    | some existing => Prog.done (some existing)
    | none => putManifest manifest
  match existing with
  | none => return hash
  | some existing =>
      ofExcept (reusableManifestHash py existing sessionIdHash revision staged.sourceHash members provenance)

/-- The copies are still what was staged. -/
def recheckCopies (sessionIdHash : String) (staged : Staged) : StoreProgram Unit := do
  let documents ← loadAllowlistedDocuments sessionIdHash staged.docIds
  let descriptors ← ofExcept (rescue (documents.mapM (sourceMemberDescriptor py sessionIdHash))
    [.sourceRevisionResolutionError, .typeError, .valueError]
    (.conflict "source revision source changed during activation"))
  ofExcept (refuseIf (sortOn Descriptor.sourceDocumentId descriptors ≠
      sortOn Descriptor.sourceDocumentId staged.descriptors)
    (.conflict "source revision source changed during activation"))

/-! ## The pointer -/

/-- The pointer an activation starts from, with its revision. -/
def readPointer (sessionIdHash : String) : StoreProgram (Option Doc × Option ParsedPointer) := do
  match ← getDocument (activeSourceRevisionPointerDocId sessionIdHash) with
  | none => return (none, none)
  | some pointer => do
      let parsed ← ofExcept (parsePointer sessionIdHash pointer)
      ofExcept (refuseIf (pointer.text .rev = "")
        (.conflict "active source revision pointer revision is missing"))
      return (some pointer, some parsed)

/-- Fence the predecessor once more, then move the pointer. -/
def movePointer (sessionIdHash : String) (previous : Option Doc) (expected : Option ResolvedSourceRevision)
    (pointer : Doc) : StoreProgram Unit := do
  match expected with
  | some expected =>
      if expected.isLegacyUnpinned then assertLegacyPredecessorUnchanged py sessionIdHash expected
      else Prog.done ()
  | none => Prog.done ()
  match previous with
  | some _ =>
      (rescuing (resolveActiveSourceRevision py storeReader sessionIdHash) [.sourceRevisionResolutionError]
        (.conflict "active source revision integrity changed before pointer transition")).bind fun _ => .done ()
  | none => Prog.done ()
  (performOp (.putIfRevision pointer ((previous.map (·.text .rev)).getD ""))).bind fun _ => .done ()

/-! ## Activation -/

/-- What an activation read and what it made active. -/
structure Activated where
  revision : ResolvedSourceRevision
  previous : Option Doc
  sourceDocuments : List Doc
  originRevision : String
  provenance : Doc

/-- Publish the documents under a new revision. -/
def publish (sessionIdHash : String) (sourceDocuments : List Doc) (provenance : Doc) (previous : Option Doc)
    (expected : Option ResolvedSourceRevision) : StoreProgram Activated := do
  let sessionDocument ← ofExcept (checkSourceDocuments sourceDocuments)
  let staged ← stageCopies py sessionIdHash sourceDocuments
  let revision := sourceRevision py staged.descriptors
  performAll (staged.descriptors.map fun descriptor =>
    .putIfAbsent (memberDocument py sessionDocument sessionIdHash revision descriptor))
  let hash ← stageManifest py sessionDocument sessionIdHash staged provenance
  recheckCopies py sessionIdHash staged
  movePointer py sessionIdHash previous expected
    (pointerDocument sessionDocument sessionIdHash revision hash staged.sourceHash)
  let active ← resolveActiveSourceRevision py storeReader sessionIdHash
  return ⟨active, previous, sourceDocuments, staged.originRevision, provenance⟩

/-- The part of an activation up to its pointer move and the resolution after it. -/
def activateOnce (sessionIdHash : String) (docIds : Option (List String)) (provenance : Json)
    (expected : Option ResolvedSourceRevision) : StoreProgram Activated := do
  ofExcept (assertHashLike "session_id_hash" sessionIdHash)
  let normalized ← ofExcept (validateProvenance provenance false)
  let (previous, parsed) ← readPointer sessionIdHash
  ofExcept (assertExpectedPredecessor sessionIdHash parsed expected)
  let sourceDocuments ← match docIds with
    | some docIds => loadAllowlistedDocuments sessionIdHash docIds
    | none => loadLegacyDocuments storeReader sessionIdHash
  publish py sessionIdHash sourceDocuments normalized previous expected

/-- Whether the origins of an activation are still what it read. -/
def originDrifted (sessionIdHash : String) (activated : Activated) : StoreProgram Bool := do
  let latest ← loadAllowlistedDocuments sessionIdHash (activated.sourceDocuments.map (·.text .id))
  let latestRevision ← ofExcept (sourceDocumentSetRevision py sessionIdHash latest)
  return latestRevision ≠ activated.originRevision

/-- `activate_source_revision` with an allowlist. -/
def activateAllowlisted (sessionIdHash : String) (docIds : List String) (provenance : Json)
    (expected : Option ResolvedSourceRevision) : StoreProgram ResolvedSourceRevision := do
  let activated ← activateOnce py sessionIdHash (some docIds) provenance expected
  let drifted ← originDrifted py sessionIdHash activated
  if drifted then throw (.conflict "source revision origin changed during activation")
  else return activated.revision

/-- Preserve caller provenance while explicitly binding a repaired successor. -/
def successorProvenance (predecessor : ResolvedSourceRevision) (provenance : Doc) : StoreProgram Doc :=
  match predecessor.manifestId with
  | none => throw (.conflict "active source revision manifest is missing")
  | some manifestId => do
      match ← getDocument manifestId with
      | none => throw (.conflict "active source revision manifest is missing")
      | some manifest => do
          ofExcept (rescue (assertHashLike "predecessor_manifest_hash" (manifest.text .manifestHash)) [.valueError]
            (.conflict "active source revision manifest is invalid"))
          return provenance.set .predecessorManifestHash (.str (manifest.text .manifestHash))

/-- Converge an initial activation on the legacy documents that are there by now. -/
def activateSuccessor (sessionIdHash : String) (activated : Activated) (legacy : List Doc) :
    StoreProgram ResolvedSourceRevision := do
  let provenance ← successorProvenance activated.revision activated.provenance
  let successor ← activateAllowlisted py sessionIdHash (sortTexts (legacy.map (·.text .id))) provenance.json
    (some activated.revision)
  let final ← loadLegacyDocuments storeReader sessionIdHash
  let finalRevision ← ofExcept (sourceDocumentSetRevision py sessionIdHash final)
  let legacyRevision ← ofExcept (sourceDocumentSetRevision py sessionIdHash legacy)
  if finalRevision ≠ legacyRevision then throw (.conflict "initial legacy source set did not converge")
  else return successor

/-- Create immutable revision records and CAS the active pointer once. -/
def activateSourceRevision (sessionIdHash : String) (docIds : Option (List String)) (provenance : Json)
    (expected : Option ResolvedSourceRevision) : StoreProgram ResolvedSourceRevision :=
  match docIds with
  | some docIds => activateAllowlisted py sessionIdHash docIds provenance expected
  | none => do
      let activated ← activateOnce py sessionIdHash none provenance expected
      let drifted ← originDrifted py sessionIdHash activated
      if activated.previous.isSome then
        if drifted then throw (.conflict "source revision origin changed during activation")
        else return activated.revision
      else do
        let legacy ← loadLegacyDocuments storeReader sessionIdHash
        if drifted then activateSuccessor py sessionIdHash activated legacy
        else do
          let legacyRevision ← ofExcept (sourceDocumentSetRevision py sessionIdHash legacy)
          if legacyRevision = activated.originRevision then return activated.revision
          else activateSuccessor py sessionIdHash activated legacy

end Activation

end Neurons.Source
