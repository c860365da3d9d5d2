import Mathlib.Algebra.Ring.Int.Defs
import Neurons.Lib.Run
import Neurons.Source.SourceRevision

/-! # The in-memory source store

`InMemoryCouchDBSourceStore` (`source_store.py`): documents in the order their
ids were first written, and a change counter. Each write operation validates its
document, classifies it against the stored one, asks whether an active revision
allows the write, and only then assigns; an operation that raises assigns nothing.
The change log is left out: none of the modelled operations reads it.
-/

namespace Neurons.Source

open Neurons.Lib

/-! ## Payload identity -/

def isImmutableDocType : SourceDocType → Bool
  | .repoUsagePattern | .sourceRevisionMember | .sourceRevisionManifest => true
  | _ => false

/-- Whether a source document is an immutable revision-scoped copy. -/
def isRevisionScopedSourceCopy (d : Doc) : Bool :=
  d.has .sourceSnapshotSchemaVersion || d.has .currentSourceScope

def hasImmutableDocType (d : Doc) : Bool := (docType? d).any isImmutableDocType

def isImmutableSourceDocument (d : Doc) : Bool :=
  hasImmutableDocType d || isRevisionScopedSourceCopy d

section Payload

variable (py : Platform)

/-- `int(document.get(field) or 0)`. -/
def intField (d : Doc) (f : Field) : Except PyError Int :=
  match d.value? f with
  | none | some .null => .ok 0
  | some (.num n) => .ok n
  | some (.dec m scale) => .ok (m.tdiv (10 ^ scale))
  | some (.bool b) => .ok (if b then 1 else 0)
  | some (.str s) =>
      match py.int s with
      | some n => .ok n
      | none => .error (.valueError ("invalid literal for int() with base 10: " ++ reprText s))
  | some (.arr _) | some (.obj _) => .error (.typeError
      "int() argument must be a string, a bytes-like object or a real number")

def structuredPayloadHash (identity : List (Field × Json)) : String :=
  sha256Hash py (.json (Doc.ofFields identity).json)

def observedFields (d : Doc) : List (Field × Json) :=
  [(.observedAtStart, .str (d.text .observedAtStart)), (.observedAtEnd, .str (d.text .observedAtEnd))]

def payloadExcludedFields : List Field := [.id, .rev, .idempotencyKey, .payloadHash]

/-- The natural payload identity used for idempotency. -/
def payloadHash (d : Doc) : Except PyError String :=
  match docType? d with
  | some .repoUsagePattern => .ok (sha256Hash py (.json (d.without payloadExcludedFields).json))
  | some .toolEvidenceBundle => .ok (structuredPayloadHash py (
      [(.docType, .str (d.text .docType)),
        (.contentHash, .str (d.text .contentHash)),
        (.coverageHash, .str (d.text .coverageHash))] ++ observedFields d))
  | some .conversationChunk => do
      let turnStart ← intField py d .turnStartIndex
      let turnEnd ← intField py d .turnEndIndex
      let partIndex ← intField py d .partIndex
      let partCount ← intField py d .partCount
      let charStart ← intField py d .charStart
      let charEnd ← intField py d .charEnd
      return structuredPayloadHash py (
        [(.docType, .str (d.text .docType)), (.contentHash, .str (d.text .contentHash))] ++
        observedFields d ++
        [(.turnStartIndex, .num turnStart), (.turnEndIndex, .num turnEnd),
          (.partIndex, .num partIndex), (.partCount, .num partCount),
          (.charStart, .num charStart), (.charEnd, .num charEnd)])
  | _ =>
      match [Field.contentHash, .coverageHash].find? (fun f => (d.value? f).isSome) with
      | some f => .ok (structuredPayloadHash py ((f, .str (d.text f)) :: observedFields d))
      | none => .ok (sha256Hash py (.repr (d.without payloadExcludedFields).json))

/-- What `payload_hash` hands to SHA-256. -/
def payloadEncoded (d : Doc) : Except PyError Encoded :=
  match docType? d with
  | some .repoUsagePattern => .ok (.json (d.without payloadExcludedFields).json)
  | some .toolEvidenceBundle => .ok (.json (Doc.ofFields (
      [(.docType, .str (d.text .docType)),
        (.contentHash, .str (d.text .contentHash)),
        (.coverageHash, .str (d.text .coverageHash))] ++ observedFields d)).json)
  | some .conversationChunk => do
      let turnStart ← intField py d .turnStartIndex
      let turnEnd ← intField py d .turnEndIndex
      let partIndex ← intField py d .partIndex
      let partCount ← intField py d .partCount
      let charStart ← intField py d .charStart
      let charEnd ← intField py d .charEnd
      return .json (Doc.ofFields (
        [(.docType, .str (d.text .docType)), (.contentHash, .str (d.text .contentHash))] ++
        observedFields d ++
        [(.turnStartIndex, .num turnStart), (.turnEndIndex, .num turnEnd),
          (.partIndex, .num partIndex), (.partCount, .num partCount),
          (.charStart, .num charStart), (.charEnd, .num charEnd)])).json
  | _ =>
      match [Field.contentHash, .coverageHash].find? (fun f => (d.value? f).isSome) with
      | some f => .ok (.json (Doc.ofFields ((f, .str (d.text f)) :: observedFields d)).json)
      | none => .ok (.repr (d.without payloadExcludedFields).json)

theorem payloadHash_eq (d : Doc) : payloadHash py d = (sha256Hash py ·) <$> payloadEncoded py d := by
  unfold payloadHash payloadEncoded
  cases docType? d with
  | none =>
      dsimp only
      split <;> rfl
  | some t =>
      cases t with
      | repoUsagePattern | toolEvidenceBundle => rfl
      | conversationChunk =>
          simp only [map_bind, map_pure]
          rfl
      | _ =>
          dsimp only
          split <;> rfl

inductive IdempotencyOutcome where
  | accepted | duplicate | conflict | quarantined | replayable
  deriving DecidableEq, Repr

def terminalPreservedOutcome? (text : String) : Option IdempotencyOutcome :=
  if text = "quarantined" then some .quarantined
  else if text = "replayable" then some .replayable
  else none

def classifyIdempotency (existing : Option Doc) (idempotencyKey payloadHash : String) :
    Except PyError IdempotencyOutcome := do
  refuseIf (idempotencyKey = "") (.valueError "idempotency_key is required")
  refuseIf (payloadHash = "") (.valueError "payload_hash is required")
  match existing with
  | none => return .accepted
  | some existing =>
      let existingOutcome := (firstText existing [.acceptOutcome, .outcome]).getD ""
      match (terminalPreservedOutcome? existingOutcome).or
          (terminalPreservedOutcome? (existing.text .status)) with
      | some preserved => return preserved
      | none =>
          if existing.text .idempotencyKey ≠ idempotencyKey then return .accepted
          else if existing.text .payloadHash = payloadHash then return .duplicate
          else return .conflict

/-- Classify against the stored document, its payload hash computed afresh. -/
def classifyDocumentIdempotency (existing : Option Doc) (docId incomingHash : String) :
    Except PyError IdempotencyOutcome :=
  match existing with
  | none => classifyIdempotency none docId incomingHash
  | some existing => do
      let hash ← payloadHash py existing
      classifyIdempotency (some (existing.set .payloadHash (.str hash))) docId incomingHash

end Payload

/-! ## Validation -/

section Validate

variable (py : Platform)

/-- `document.get(field) or {}`, used as a mapping. -/
def mappingField (d : Doc) (f : Field) : Except PyError Doc :=
  match d.value? f with
  | none => .ok ∅
  | some v =>
      match Doc.ofJson? v with
      | some mapping => .ok mapping
      | none => .error (.attributeError "object has no attribute 'get'")

/-- The authority contract of a procedural original. -/
def validateRepoUsagePattern (d : Doc) : Except PyError Unit := do
  let invalid := PyError.storeError "procedural original authority contract is invalid"
  let provenance ← mappingField d .provenance
  let expectedId ← repoUsagePatternDocId py (provenance.text .originalIdempotencyKey)
  refuseIf (d.text .id ≠ expectedId ∨
      d.get? .authority ≠ some (.str "non_authoritative_original") ∨
      d.get? .recallEligible ≠ some (.bool false) ∨
      d.get? .projectionEnabled ≠ some (.bool false) ∨
      d.get? .processingStage ≠ some (.str "raw_source_stored") ∨
      d.get? .documentKind ≠ some (.str SourceDocType.repoUsagePattern.text) ∨
      d.get? .targetProfile ≠ some (.str "index-procedural-memory") ∨
      [Field.accepted, .current, .cardType, .typedPayload].any d.has ∨
      d.get? .contentHash ≠ some (.str (sha256Hash py (.text (d.text .body)))))
    invalid
  let original ← mappingField d .originalDocument
  refuseIf ((original.get? .body).getD .null ≠ (d.get? .body).getD .null) invalid
  assertHashLike "session_id_hash" (d.text .sessionIdHash)
  let _ ← finalize py d

def validateActivePointer (d : Doc) : Except PyError Unit := do
  let invalid := PyError.storeError "active source revision pointer id is invalid"
  rescue (assertHashLike "session_id_hash" (d.text .sessionIdHash)) [.valueError] invalid
  refuseIf (d.text .id ≠ activeSourceRevisionPointerDocId (d.text .sessionIdHash)) invalid

def validateForWrite (d : Doc) : Except PyError Unit := do
  refuseIf (d.value? .id = none) (.storeError "document is missing a deterministic _id")
  assertCouchdbOwned ((d.get? .docType).getD (.str ""))
  if docType? d = some .repoUsagePattern then validateRepoUsagePattern py d
  if docType? d = some .activeSourceRevision then validateActivePointer d
  assertNoSecretLikeMetadata d.keys
  match d.get? .body with
  | some (.str body) => assertSourceTextClean py body
  | _ => return

end Validate

/-! ## The transcript session merge -/

section Merge

variable (py : Platform)

/-- The value of a field that is neither missing nor blank. -/
def presentField (d : Doc) (f : Field) : Option Json :=
  (d.get? f).filter (fun v => v ≠ .null ∧ v ≠ .str "")

/-- `existing.get(field) or incoming.get(field) or ""`. -/
def firstValue (existing incoming : Doc) (f : Field) : Json :=
  ((existing.value? f).or (incoming.value? f)).getD (.str "")

/-- Take one field over from the incoming envelope, if it has it. -/
def adopt (incoming merged : Doc) (f : Field) : Doc :=
  match presentField incoming f with
  | some v => merged.set f v
  | none => merged

/-- The fields an incoming envelope contributes. -/
def identityFields : List Field :=
  [.docType, .schemaVersion, .owner, .provider, .project, .sessionIdHash, .sourceLocatorHash,
    .redactionVersion]

def mergedIdentity (existing incoming : Doc) : Doc :=
  identityFields.foldl (adopt incoming) (existing.without bookkeepingFields)

def mergeTranscriptSessionDocuments (existing : Option Doc) (incoming : Doc)
    (sourceHashAuthoritative : Bool) : Except PyError Doc := do
  validateForWrite py incoming
  refuseIf (docType? incoming ≠ some .transcriptSession)
    (.storeError "aggregate merge requires a transcript_session document")
  match existing with
  | none => return incoming.without bookkeepingFields
  | some existing => do
      refuseIf (docType? existing ≠ some .transcriptSession)
        (.storeError "existing aggregate is not a transcript_session document")
      refuseIf (existing.text .id ≠ incoming.text .id)
        (.storeError "transcript session document id changed")
      [Field.sessionIdHash, .provider, .project].forM (fun f =>
        refuseIf (existing.text f ≠ "" ∧ incoming.text f ≠ "" ∧ existing.text f ≠ incoming.text f)
          (.storeError ("transcript session " ++ f.name ++ " changed")))
      let bound (f : Field) (latest : Bool) : Except PyError String :=
        chronologicalBound py [existing.text f, incoming.text f] latest
      let startedAt ← bound .startedAt false
      let observedAtStart ← bound .observedAtStart false
      let endedAt ← bound .endedAt true
      let observedAtEnd ← bound .observedAtEnd true
      let sourceHash :=
        match incoming.value? .sourceHash with
        | some v => if sourceHashAuthoritative then v else firstValue existing incoming .sourceHash
        | none => firstValue existing incoming .sourceHash
      let merged := (mergedIdentity existing incoming).update [
        (.startedAt, .str startedAt),
        (.observedAtStart, .str observedAtStart),
        (.endedAt, .str endedAt),
        (.observedAtEnd, .str observedAtEnd),
        (.sourceHash, sourceHash),
        (.materializedAt, firstValue existing incoming .materializedAt),
        (.sourceStatus, firstValue existing incoming .sourceStatus)]
      validateForWrite py merged
      return merged

end Merge

/-! ## The store -/

inductive Outcome where
  | accepted | duplicate | conflictResolved
  deriving DecidableEq, Repr

structure StoredRevision where
  docId : String
  rev : String
  outcome : Outcome
  deriving DecidableEq, Repr

/-- The store's documents; each is kept under its own id. -/
structure Store where
  docs : Table String Doc
  keyed : ∀ docId d, docs.get? docId = some d → d.text .id = docId
  changeSeq : Nat

namespace Store

def empty : Store := ⟨∅, by simp, 0⟩

def get (s : Store) (docId : String) : Option Doc := s.docs.get? docId

/-- `str(d.get("_id"))`. -/
def idText (d : Doc) : String := ((d.get? .id).map Json.text).getD "None"

/-- The document has the requested type; every type but procedural originals when
    none is requested. -/
def ofRequestedType (requested : Option SourceDocType) (d : Doc) : Bool :=
  match requested with
  | some t => docType? d = some t
  | none => docType? d ≠ some .repoUsagePattern

/-- The documents of a session in the order of their ids. -/
def findBySession (s : Store) (sessionIdHash : String) (requested : Option SourceDocType) :
    List Doc :=
  sortOn idText (s.docs.values.filter (fun d =>
    d.get? .sessionIdHash = some (.str sessionIdHash) ∧ ofRequestedType requested d))

/-- The reads of one fixed store. -/
def reader (s : Store) : Reader (Except PyError) where
  get docId := .ok (s.get docId)
  findBySession sessionIdHash docType := .ok (s.findBySession sessionIdHash (some docType))

/-- Resolve a session against the store as it stands. -/
def resolve (py : Platform) (s : Store) (sessionIdHash : String) :
    Except PyError ResolvedSourceRevision :=
  resolveActiveSourceRevision py s.reader sessionIdHash

/-- The document as it is assigned, with its bookkeeping. -/
def stamp (d : Doc) (docId rev hash : String) : Doc :=
  d.update [(.rev, .str rev), (.idempotencyKey, .str docId), (.payloadHash, .str hash)]

/-- `self._docs[doc_id] = stored` and its change note, where `doc_id` is the
    document's own id. -/
def assign (s : Store) (d : Doc) : Store where
  docs := s.docs.set (d.text .id) d
  keyed := by
    intro docId stored found
    rw [Table.get?_set] at found
    split at found
    · rename_i same
      rw [← Option.some.inj found, same]
    · exact s.keyed docId stored found
  changeSeq := s.changeSeq + 1

def remove (s : Store) (docId : String) : Store where
  docs := s.docs.erase docId
  keyed := by
    intro docId' stored found
    rw [Table.get?_erase] at found
    split at found
    · cases found
    · exact s.keyed docId' stored found
  changeSeq := s.changeSeq + 1

theorem get_assign (s : Store) (d : Doc) (docId : String) :
    (s.assign d).get docId = if docId = d.text .id then some d else s.get docId :=
  Table.get?_set ..

theorem get_remove (s : Store) (docId docId' : String) :
    (s.remove docId).get docId' = if docId' = docId then none else s.get docId' :=
  Table.get?_erase ..

theorem get_keyed {s : Store} {docId : String} {d : Doc} (found : s.get docId = some d) :
    d.text .id = docId :=
  s.keyed docId d found

/-- Bookkeeping leaves every other field as it was. -/
theorem get?_stamp (d : Doc) (docId rev hash : String) {f : Field}
    (other : f ∉ bookkeepingFields) : (stamp d docId rev hash).get? f = d.get? f := by
  simp only [bookkeepingFields, List.mem_cons, List.not_mem_nil, or_false, not_or] at other
  simp [stamp, Doc.get?_set, other]

end Store

/-! ## Guards of the active revision -/

section Guards

variable (py : Platform)

/-- Reject ordinary source writes while an active revision controls the session. -/
def requireActiveSourceRevisionAllowsWrite (s : Store) (docId : String) (document : Doc)
    (allowActiveAppend : Bool) : Except PyError Unit :=
  let sessionIdHash := document.text .sessionIdHash
  if ¬ isSourceMember document then .ok ()
  else match s.get (activeSourceRevisionPointerDocId sessionIdHash) with
    | none => .ok ()
    | some _ => do
        let active ← rescue (s.resolve py sessionIdHash) [.sourceRevisionResolutionError]
          (.conflict "active source revision is invalid")
        refuseIf (active.documents.any (fun d => d.text .id = docId))
          (.conflict "source revision member makes source document immutable")
        let origins ← activeSourceOriginDocumentIds active
        refuseIf (docId ∈ origins ∧ ¬ allowActiveAppend)
          (.conflict "active source revision requires an explicit successor")

/-- `(str(member.get("member_id") or "") for member in manifest["members"])`. -/
def manifestMemberIds (manifest : Doc) : Except PyError (List String) :=
  match manifest.get? .members with
  | some (.arr items) =>
      match items.mapM Doc.ofJson? with
      | some members => .ok (members.map (·.text .memberId))
      | none => .error (.attributeError "object has no attribute 'get'")
  | some _ => .error (.typeError "object is not iterable")
  | none => .error (.keyError "'members'")

/-- Reject deletion that would corrupt the currently active revision. -/
def requireActiveSourceRevisionAllowsDelete (s : Store) (document : Doc) : Except PyError Unit := do
  refuseIf (isImmutableSourceDocument document ∨ docType? document = some .activeSourceRevision)
    (.conflict "active source revision document is immutable and cannot be deleted")
  let sessionIdHash := document.text .sessionIdHash
  let pointerId := activeSourceRevisionPointerDocId sessionIdHash
  if sessionIdHash = "" then return
  match s.get pointerId with
  | none => return
  | some pointer => do
      let active ← rescue (s.resolve py sessionIdHash) [.sourceRevisionResolutionError]
        (.conflict "active source revision is invalid")
      match active.manifestId with
      | none => .error (.conflict "active source revision is invalid")
      | some manifestId =>
          match s.get manifestId with
          | none => .error (.conflict "active source revision is invalid")
          | some manifest => do
              refuseIf (s.get pointerId ≠ some pointer)
                (.conflict "active source revision changed during delete")
              let memberIds ← manifestMemberIds manifest
              let protectedIds := pointerId :: manifestId :: memberIds ++
                active.documents.map (·.text .id)
              refuseIf (document.text .id ∈ protectedIds)
                (.conflict "active source revision document cannot be deleted")

end Guards

/-! ## Write operations -/

section Writes

variable (py : Platform)

/-- `int(rev.split("-", 1)[0]) + 1`. -/
def nextRevNumber (rev : String) : Except PyError Int :=
  let digits := beforeFirst '-' rev
  match py.int digits with
  | some n => .ok (n + 1)
  | none => .error (.valueError ("invalid literal for int() with base 10: " ++ reprText digits))

/-- `f"{rev_number}-{incoming_hash.split(':', 1)[-1][:12]}"`. -/
def revText (number : Int) (incomingHash : String) : String :=
  toString number ++ "-" ++ String.ofList ((afterFirst ':' incomingHash).toList.take 12)

/-- Add one immutable document without replacing a different payload. -/
def putIfAbsent (d : Doc) (s : Store) : Except PyError (StoredRevision × Store) := do
  validateForWrite py d
  let docId := d.text .id
  let incomingHash ← payloadHash py d
  match s.get docId with
  | some existing => do
      let decision ← classifyDocumentIdempotency py (some existing) docId incomingHash
      if decision = .duplicate then
        return (⟨docId, existing.text .rev, .duplicate⟩, s)
      requireActiveSourceRevisionAllowsWrite py s docId existing true
      .error (.conflict "immutable source document already exists")
  | none => do
      requireActiveSourceRevisionAllowsWrite py s docId d true
      let rev := revText 1 incomingHash
      return (⟨docId, rev, .accepted⟩, s.assign (Store.stamp d docId rev incomingHash))

def put (d : Doc) (s : Store) : Except PyError (StoredRevision × Store) := do
  validateForWrite py d
  if isImmutableSourceDocument d then
    putIfAbsent py d s
  else
    let docId := d.text .id
    let incomingHash ← payloadHash py d
    let existing := s.get docId
    let decision ← classifyDocumentIdempotency py existing docId incomingHash
    match existing with
    | some existing => do
        if decision = .duplicate then
          return (⟨docId, existing.text .rev, .duplicate⟩, s)
        refuseIf (isImmutableSourceDocument existing)
          (.conflict "immutable source document already exists")
        requireActiveSourceRevisionAllowsWrite py s docId existing false
        let rev := revText (← nextRevNumber py (existing.text .rev)) incomingHash
        return (⟨docId, rev, .conflictResolved⟩,
          s.assign (Store.stamp d docId rev incomingHash))
    | none => do
        requireActiveSourceRevisionAllowsWrite py s docId d false
        let rev := revText 1 incomingHash
        return (⟨docId, rev, .accepted⟩, s.assign (Store.stamp d docId rev incomingHash))

def putIfRevision (d : Doc) (expectedRev : String) (s : Store) :
    Except PyError (StoredRevision × Store) := do
  validateForWrite py d
  refuseIf (hasImmutableDocType d) (.conflict "immutable source document must be additive")
  let docId := d.text .id
  let current := s.get docId
  let currentRev := (current.map (·.text .rev)).getD ""
  refuseIf (currentRev ≠ expectedRev) (.conflict "conditional source revision changed")
  let incomingHash ← payloadHash py d
  let decision ← classifyDocumentIdempotency py current docId incomingHash
  if current.isSome ∧ decision = .duplicate then
    return (⟨docId, currentRev, .duplicate⟩, s)
  let sourceDocument := current.getD d
  if isRevisionScopedSourceCopy d ∨ current.any isRevisionScopedSourceCopy then
    requireActiveSourceRevisionAllowsWrite py s docId sourceDocument false
    .error (.conflict "immutable source document must be additive")
  else
    requireActiveSourceRevisionAllowsWrite py s docId sourceDocument false
    let number ← if currentRev = "" then pure 1 else nextRevNumber py currentRev
    let rev := revText number incomingHash
    return (⟨docId, rev, if current.isSome then .conflictResolved else .accepted⟩,
      s.assign (Store.stamp d docId rev incomingHash))

def mergeTranscriptSessionAggregate (incoming : Doc) (maxAttempts : Int)
    (sourceHashAuthoritative : Bool) (s : Store) : Except PyError (StoredRevision × Store) := do
  refuseIf (maxAttempts < 1) (.storeError "aggregate merge max_attempts must be positive")
  let documentId := incoming.text .id
  let current := if documentId = "" then none else s.get documentId
  let merged ← mergeTranscriptSessionDocuments py current incoming sourceHashAuthoritative
  put py merged s

/-- The arguments of a conditional temporal patch. -/
structure Patch where
  docId : String
  expectedContentHash : String
  expectedRev : String
  observedAtStart : String
  observedAtEnd : String
  expectedSourceLocatorHash : Option String
  replacementSourceLocatorHash : Option String
  deriving DecidableEq, Repr

/-- The patch keeps the stored locator: none is given, or the one already there. -/
def Patch.keepsLocator (p : Patch) (current : Doc) : Prop :=
  p.replacementSourceLocatorHash = none ∨
    p.replacementSourceLocatorHash = some (current.text .sourceLocatorHash)

instance (p : Patch) (current : Doc) : Decidable (p.keepsLocator current) :=
  inferInstanceAs (Decidable (_ ∨ _))

/-- The document a patch writes, before its bookkeeping. -/
def Patch.updated (p : Patch) (current : Doc) : Doc :=
  (current.without bookkeepingFields).update
    [(.observedAtStart, .str p.observedAtStart), (.observedAtEnd, .str p.observedAtEnd)]

/-- The checks of a patch against the stored document. -/
def Patch.check (p : Patch) (current : Doc) : Except PyError Unit := do
  refuseIf (current.text .contentHash ≠ p.expectedContentHash)
    (.conflict "conditional temporal patch content changed")
  refuseIf (p.expectedRev = "" ∨ current.text .rev ≠ p.expectedRev)
    (.conflict "conditional temporal patch revision changed")
  refuseIf (p.expectedSourceLocatorHash.any (fun h => current.text .sourceLocatorHash ≠ h))
    (.conflict "conditional temporal patch locator changed")

def Patch.checkReplacement (p : Patch) : Except PyError Unit :=
  match p.replacementSourceLocatorHash with
  | some hash => assertHashLike "replacement_source_locator_hash" hash
  | none => .ok ()

/-- The write of a patch that changes something: an ordinary put, unless the
    locator is replaced, which is assigned directly. -/
def Patch.write (p : Patch) (current : Doc) (s : Store) :
    Except PyError (StoredRevision × Store) :=
  match p.replacementSourceLocatorHash with
  | none => put py (p.updated current) s
  | some locator =>
      if current.text .sourceLocatorHash = locator then
        put py (p.updated current) s
      else do
        let relocated := (p.updated current).set .sourceLocatorHash (.str locator)
        validateForWrite py relocated
        let incomingHash ← payloadHash py relocated
        let rev := revText (← nextRevNumber py (current.text .rev)) incomingHash
        return (⟨p.docId, rev, .conflictResolved⟩,
          s.assign (Store.stamp relocated p.docId rev incomingHash))

/-- CAS-patch temporal metadata and an optional legacy locator hash. -/
def patchObservedTimeIfContentHash (p : Patch) (s : Store) :
    Except PyError (StoredRevision × Store) := do
  p.checkReplacement
  match s.get p.docId with
  | none => .error (.conflict "conditional temporal patch source is missing")
  | some current => do
      p.check current
      if current.text .observedAtStart = p.observedAtStart ∧
          current.text .observedAtEnd = p.observedAtEnd ∧ p.keepsLocator current then
        return (⟨p.docId, current.text .rev, .duplicate⟩, s)
      requireActiveSourceRevisionAllowsWrite py s p.docId current false
      p.write py current s

def delete (docId : String) (s : Store) : Except PyError (Bool × Store) :=
  match s.get docId with
  | none => .ok (false, s)
  | some existing => do
      requireActiveSourceRevisionAllowsDelete py s existing
      return (true, s.remove docId)

end Writes

/-! ## Operations and runs -/

inductive Op where
  | put (document : Doc)
  | putIfAbsent (document : Doc)
  | putIfRevision (document : Doc) (expectedRev : String)
  | merge (incoming : Doc) (maxAttempts : Int) (sourceHashAuthoritative : Bool)
  | patch (patch : Patch)
  | delete (docId : String)

inductive Reply where
  | stored (revision : StoredRevision)
  | deleted (existed : Bool)
  deriving DecidableEq, Repr

section Runs

variable (py : Platform)

/-- The operation's normal end: its reply and the store it leaves. -/
def Op.perform (op : Op) (s : Store) : Except PyError (Reply × Store) :=
  match op with
  | .put d => (Source.put py d s).map (Prod.map .stored id)
  | .putIfAbsent d => (Source.putIfAbsent py d s).map (Prod.map .stored id)
  | .putIfRevision d rev => (Source.putIfRevision py d rev s).map (Prod.map .stored id)
  | .merge d attempts authoritative =>
      (mergeTranscriptSessionAggregate py d attempts authoritative s).map (Prod.map .stored id)
  | .patch p => (patchObservedTimeIfContentHash py p s).map (Prod.map .stored id)
  | .delete docId => (Source.delete py docId s).map (Prod.map .deleted id)

/-- The operation as a step of the store: one that raises leaves it as it is. -/
def Op.exec (op : Op) (s : Store) : Except PyError Reply × Store :=
  match op.perform py s with
  | .ok (reply, s') => (.ok reply, s')
  | .error e => (.error e, s)

/-- The store after a run of operations. -/
def Store.run (s : Store) (ops : List Op) : Store := Lib.run (fun s op => (op.exec py s).2) s ops

theorem Store.run_append (s : Store) (first rest : List Op) :
    s.run py (first ++ rest) = (s.run py first).run py rest :=
  Lib.run_append ..

theorem Store.run_singleton (s : Store) (op : Op) : s.run py [op] = (op.exec py s).2 := rfl

end Runs

end Neurons.Source
