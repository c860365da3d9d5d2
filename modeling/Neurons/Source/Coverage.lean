import Neurons.Source.Builders
import Neurons.Source.StoreProgram

/-! # Secondary records of a session

The coverage manifest and the projection state name the source hash they were made for. Both
are brought up to the session's source after it changed, each by reading, writing and, where
another client was faster, trying again.
-/

namespace Neurons.Source

open Neurons.Lib

/-- `str(document.get(field, ""))`. -/
def rawText (d : Doc) (f : Field) : String := ((d.get? f).map Json.text).getD ""

/-- `dict(document.get(name) or {})`. -/
def mappingEntry (d : Doc) (name : String) : Except PyError Doc :=
  match (Dict.get? d (.other name)).filter Json.truthy with
  | none => return ∅
  | some v =>
      match Doc.ofJson? v with
      | some mapping => return mapping
      | none => .error (.typeError "object is not a mapping")

section Coverage

variable (py : Platform) (fmt : Formats)

/-! ## The coverage manifest -/

structure CoverageSnapshot where
  doc : Doc
  sessions : List Doc
  observed : String × String
  isLegacyUnpinned : Bool

/-- The manifest of a resolved revision, under the stored one's labels. -/
def coverageDocument (resolved : ResolvedSourceRevision) (existing : Option Doc) (observed : String × String) :
    Except PyError Doc := do
  let chunks := resolved.conversationChunks
  let bundles := resolved.toolEvidenceBundles
  let anchor := existing.getD ((chunks ++ bundles).headD ∅)
  let ledgerComparison ← mappingEntry (existing.getD ∅) "ledger_comparison"
  let projectAuthority ← mappingEntry (existing.getD ∅) "project_authority"
  let doc ← buildCoverageManifestDocument py fmt {
    sessionIdHash := resolved.sessionIdHash
    provider := anchor.text .provider
    project := anchor.text .project
    conversationContentHashes := chunks.map (rawText · .contentHash)
    toolEvidenceCoverageHashes := bundles.map (rawText · .coverageHash)
    sourceLocatorHash := anchor.text .sourceLocatorHash
    ledgerComparison, projectAuthority, observed
    conversationTokens := chunks.map fun d => buildSourceRevisionToken py d (d.text .contentHash)
    toolEvidenceTokens := bundles.map fun d => buildSourceRevisionToken py d (d.text .contentHash) }
  let doc := doc.set .sourceHash (.str resolved.sourceHash)
  if resolved.isLegacyUnpinned then return doc
  else match resolved.manifestId with
    | none => .error (.storeError "active source revision manifest is required")
    | some manifestId => return Dict.insert doc (.other "active_source_manifest_id") (.str manifestId)

def coverageSnapshot (sessionIdHash : String) : StoreProgram (Option CoverageSnapshot) := do
  let resolved ← resolveActiveSourceRevision py storeReader sessionIdHash
  let existing ← getDocument (coverageManifestDocId sessionIdHash)
  if existing = none ∧ resolved.conversationChunks = [] ∧ resolved.toolEvidenceBundles = [] then return none
  else do
    let observed ← ofExcept (observedTimeBounds py resolved.documents)
    let doc ← ofExcept (coverageDocument py fmt resolved existing observed)
    return some ⟨doc, resolved.sessions, observed, resolved.isLegacyUnpinned⟩

/-- The envelope a legacy session is merged with. -/
def CoverageSnapshot.envelope (snapshot : CoverageSnapshot) (session : Doc) : Doc :=
  let bound (observed : String) (f : Field) := if observed = "" then session.text f else observed
  session.update [
    (.startedAt, .str (bound snapshot.observed.1 .startedAt)),
    (.endedAt, .str (bound snapshot.observed.2 .endedAt)),
    (.observedAtStart, .str snapshot.observed.1),
    (.observedAtEnd, .str snapshot.observed.2),
    (.sourceHash, .str (snapshot.doc.text .sourceHash))]

/-- A pinned session document is fixed; a legacy one keeps the compatibility aggregate. -/
def mergeEnvelope (snapshot : CoverageSnapshot) : StoreProgram Unit :=
  match snapshot.sessions with
  | [] => .done ()
  | session :: _ =>
      if snapshot.isLegacyUnpinned then do
        let _ ← performOp (.merge (snapshot.envelope session) 3 true)
        return ()
      else .done ()

/-- `int(document.get(name) or 0)`. -/
def countEntry (d : Doc) (name : String) : Except PyError Int :=
  intField py (Doc.ofFields [(.count, (Dict.get? d (.other name)).getD .null)]) .count

/-- Whether the persisted manifest covers the latest snapshot. -/
def CoverageSnapshot.converged (current : CoverageSnapshot) (persisted : Doc) : Except PyError Bool := do
  let expected := current.doc.text .sourceHash
  if persisted.text .sourceHash ≠ expected then return false
  else if (← countEntry py persisted "conversation_chunk_count") ≠
      (← countEntry py current.doc "conversation_chunk_count") then return false
  else if (← countEntry py persisted "tool_evidence_bundle_count") ≠
      (← countEntry py current.doc "tool_evidence_bundle_count") then return false
  else match current.sessions with
    | [] => return true
    | session :: _ => return !current.isLegacyUnpinned || session.text .sourceHash == expected

/-- The attempts that are left. -/
def convergeCoverage (sessionIdHash : String) : Nat → StoreProgram (Option Doc)
  | 0 => .fail (.storeError "coverage manifest did not converge after concurrent source updates")
  | attempts + 1 => do
      match ← coverageSnapshot py fmt sessionIdHash with
      | none => return none
      | some snapshot => do
          let _ ← performOp (.put snapshot.doc)
          mergeEnvelope snapshot
          match ← coverageSnapshot py fmt sessionIdHash with
          | none => convergeCoverage sessionIdHash attempts
          | some current => do
              let persisted ← getDocument (coverageManifestDocId sessionIdHash)
              let converged ← ofExcept (current.converged py (persisted.getD ∅))
              if converged then return some current.doc else convergeCoverage sessionIdHash attempts

/-- Rebuild the per-session coverage manifest with current tool evidence counts. -/
def updateCoverageWithToolEvidence (sessionIdHash : String) : StoreProgram (Option Doc) :=
  convergeCoverage py fmt sessionIdHash 3

/-! ## The projection state -/

/-- The session's source hash; blank where it has no source at all. -/
def currentSessionSourceHash (sessionIdHash : String) : StoreProgram String := do
  let resolved ← resolveActiveSourceRevision py storeReader sessionIdHash
  if resolved.isLegacyUnpinned ∧ resolved.documents = [] then return ""
  else return resolved.sourceHash

/-- The stored state already is what the mark would make it. -/
def alreadyMarked (existing : Doc) (sourceHash : String) : Prop :=
  sourceHash ≠ "" ∧
    (existing.text .projectionStatus = ProjectionStatus.projected.text ∧
        existing.text .projectedSourceHash = sourceHash ∨
      existing.text .projectionStatus = ProjectionStatus.pending.text ∧ existing.text .sourceHash = sourceHash)

instance (existing : Doc) (sourceHash : String) : Decidable (alreadyMarked existing sourceHash) :=
  inferInstanceAs (Decidable (_ ∧ (_ ∧ _ ∨ _ ∧ _)))

/-- The pending state that follows the stored one. -/
def pendingState (sessionIdHash provider project sourceHash : String) (existing : Doc) : Except PyError Doc := do
  let projected := existing.text .projectedSourceHash
  let state ← buildProjectionStateDocument py fmt {
    sessionIdHash, provider, project
    projectionStatus := .pending
    sessionMemoryKnowledgeId := existing.text .sessionMemoryKnowledgeId
    activeContentHash := existing.text .activeContentHash
    failureReason := ""
    sourceHash
    projectedSourceHash :=
      if projected = "" ∧ existing.text .projectionStatus = ProjectionStatus.projected.text then
        existing.text .sourceHash
      else projected
    materializedAt := existing.text .materializedAt }
  match (Dict.get? existing (.other "backend_receipts")).filter Json.truthy with
  | some receipts => return Dict.insert state (.other "backend_receipts") receipts
  | none => return state

/-- Whether the write went through; another client's write in between is no error. -/
def attemptOp (op : Op) : StoreProgram Bool :=
  ((performOp op).bind fun _ => .done true).tryCatch fun e =>
    if e.isA .sourceStoreConflict then .done false else .fail e

/-- The attempts that are left. -/
def markPending (sessionIdHash provider project sourceHash : String) : Nat → StoreProgram Doc
  | 0 => .fail (.conflict "projection pending conflict retry exhausted")
  | attempts + 1 => do
      let existing ← getDocument (projectionStateDocId sessionIdHash)
      let current ← currentSessionSourceHash py sessionIdHash
      if current ≠ "" ∧ sourceHash ≠ current then return existing.getD ∅
      else if existing.any fun d => alreadyMarked d sourceHash then return existing.getD ∅
      else do
        let state ← ofExcept (pendingState py fmt sessionIdHash provider project sourceHash (existing.getD ∅))
        let written ← attemptOp (.putIfRevision state ((existing.map (·.text .rev)).getD ""))
        if written then do
          let stored ← getDocument (projectionStateDocId sessionIdHash)
          return stored.getD state
        else markPending sessionIdHash provider project sourceHash attempts

def markProjectionPendingIfSourceChanged (sessionIdHash provider project sourceHash : String) :
    StoreProgram Doc :=
  markPending py fmt sessionIdHash provider project sourceHash 3

end Coverage

end Neurons.Source
