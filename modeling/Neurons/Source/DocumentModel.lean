import Mathlib.Data.List.MinMax
import Neurons.Source.Platform

/-! # Document families, deterministic ids and write boundaries

The pure part of the source plane (`document_model.py`): which document types it
owns, how ids and hashes are computed from content, and the checks every write
must pass.
-/

namespace Neurons.Source

open Neurons.Lib

/-! ## Document types -/

inductive SourceDocType where
  | repoUsagePattern | transcriptSession | conversationChunk | toolEvidenceBundle
  | coverageManifest | projectionState | retentionManifest
  | sourceRevisionMember | sourceRevisionManifest | activeSourceRevision
  deriving DecidableEq, Repr

namespace SourceDocType

def text : SourceDocType → String
  | .repoUsagePattern => "repo_usage_pattern"
  | .transcriptSession => "transcript_session"
  | .conversationChunk => "conversation_chunk"
  | .toolEvidenceBundle => "tool_evidence_bundle"
  | .coverageManifest => "coverage_manifest"
  | .projectionState => "projection_state"
  | .retentionManifest => "retention_manifest"
  | .sourceRevisionMember => "source_revision_member"
  | .sourceRevisionManifest => "source_revision_manifest"
  | .activeSourceRevision => "active_source_revision"

def known : List SourceDocType :=
  [.repoUsagePattern, .transcriptSession, .conversationChunk, .toolEvidenceBundle,
    .coverageManifest, .projectionState, .retentionManifest, .sourceRevisionMember,
    .sourceRevisionManifest, .activeSourceRevision]

def ofText? (s : String) : Option SourceDocType := known.find? (fun t => t.text = s)

theorem ofText?_eq_some_iff {s : String} {t : SourceDocType} : ofText? s = some t ↔ s = t.text := by
  refine ⟨fun found => ?_, ?_⟩
  · simpa [eq_comm] using List.find?_some found
  · rintro rfl
    cases t <;> decide

theorem text_injective {t u : SourceDocType} (same : t.text = u.text) : t = u := by
  have found := ofText?_eq_some_iff.mpr same
  rw [ofText?_eq_some_iff.mpr rfl] at found
  exact Option.some.inj found

theorem text_shape (t : SourceDocType) :
    ∃ c rest, t.text.toList = c :: rest ∧ c.isLower ∧ ':' ∉ t.text.toList := by
  cases t <;> exact ⟨_, _, rfl, by decide, by decide⟩

end SourceDocType

/-- The type a document declares, if it is one of the known ones. The type names
    are texts, so that `document.get("doc_type") == name` and
    `str(document.get("doc_type") or "") == name` agree. -/
def docType? (d : Doc) : Option SourceDocType :=
  match d.get? .docType with
  | some (.str s) => SourceDocType.ofText? s
  | _ => none

theorem docType?_eq_some_iff {d : Doc} {t : SourceDocType} :
    docType? d = some t ↔ d.get? .docType = some (.str t.text) := by
  unfold docType?
  split
  · rename_i s stored
    simp [stored, SourceDocType.ofText?_eq_some_iff]
  · rename_i other
    simp only [reduceCtorEq, false_iff]
    exact fun stored => other _ stored

theorem text_docType_eq_iff {d : Doc} {t : SourceDocType} :
    d.text .docType = t.text ↔ docType? d = some t := by
  obtain ⟨c, rest, shape, lower, -⟩ := t.text_shape
  rw [docType?_eq_some_iff, Doc.text_eq_iff shape lower]

theorem docType?_congr {d e : Doc} (same : d.get? .docType = e.get? .docType) :
    docType? d = docType? e := by
  simp only [docType?, same]

def couchdbSourceSchemaVersion : String := "couchdb_transcript_source.v1"
def couchdbSourceOwner : String := "couchdb-transcript-source"

/-! ## Times -/

section Times

variable (py : Platform)

def parseObserved (text : String) : Option Int := py.fromisoformat (replaceZulu text)

/-- The texts a bound is chosen from. -/
def boundTexts (values : List String) : List String := (values.map strip).filter (· ≠ "")

/-- The instants of the texts that are times. -/
def boundTimes (texts : List String) : List (ℤ ×ₗ String) :=
  texts.filterMap fun t => (parseObserved py t).map fun i => toLex (i, t)

/-- The text of the earliest or latest time; texts that are not ISO times count only when none is. -/
def boundOf (values : List String) (latest : Bool) : String :=
  let texts := boundTexts values
  let times := boundTimes py texts
  match if latest then times.max? else times.min? with
  | some selected => (ofLex selected).2
  | none => ((if latest then texts.max? else texts.min?).getD "")

/-- One of the values is a time that has no year in UTC. -/
def Overflows (values : List String) : Prop := ∃ time ∈ boundTimes py (boundTexts values), ¬ InUtc (ofLex time).1

instance (values : List String) : Decidable (Overflows py values) := by
  unfold Overflows
  infer_instance

/-- `_chronological_bound`; `astimezone` stands outside the handler of texts that are no times. -/
def chronologicalBound (values : List String) (latest : Bool) : Except PyError String := do
  refuseIf (Overflows py values) (.overflowError "date value out of range")
  return boundOf py values latest

variable {py} in
theorem chronologicalBound_eq_ok {values : List String} {latest : Bool} {bound : String} :
    chronologicalBound py values latest = .ok bound ↔ ¬ Overflows py values ∧ bound = boundOf py values latest := by
  simp only [chronologicalBound, bind_eq_ok, refuseIf_eq_ok, pure_eq_ok, Except.ok.injEq]
  constructor
  · rintro ⟨⟨⟩, inside, rfl⟩
    exact ⟨inside, rfl⟩
  · rintro ⟨inside, rfl⟩
    exact ⟨(), inside, rfl⟩

/-- The first truthy field, as text. -/
def firstText (d : Doc) (fields : List Field) : Option String :=
  (fields.findSome? d.value?).map Json.text

/-- The times a session may start with. -/
def observedStarts (documents : List Doc) : List String :=
  documents.filterMap (firstText · [.observedAtStart, .startedAt])

/-- The times a session may end with. -/
def observedEnds (documents : List Doc) : List String :=
  documents.filterMap (firstText · [.observedAtEnd, .endedAt, .observedAtStart])

def observedTimeBounds (documents : List Doc) : Except PyError (String × String) := do
  let start ← chronologicalBound py (observedStarts documents) false
  let latest ← chronologicalBound py (observedEnds documents) true
  return (start, if latest = "" then start else latest)

/-- Documents without observed times have blank bounds. -/
theorem observedTimeBounds_untimed {documents : List Doc} (noStart : observedStarts documents = [])
    (noEnd : observedEnds documents = []) : observedTimeBounds py documents = .ok ("", "") := by
  rw [observedTimeBounds, noStart, noEnd]
  rfl

end Times

/-! ## Hashes -/

section Hashes

variable (py : Platform)

def sortTexts (texts : List String) : List String := texts.insertionSort (· ≤ ·)

def textArray (texts : List String) : Json := .arr (texts.map .str)

/-- One revision of all material source of a session. -/
def buildSourceHash (conversationContentHashes toolEvidenceCoverageHashes : List String)
    (observed : String × String) (conversationTokens toolEvidenceTokens : List String) : String :=
  sha256Hash py (.json (Doc.ofFields [
    (.conversationContentHashes, textArray (sortTexts conversationContentHashes)),
    (.toolEvidenceCoverageHashes, textArray (sortTexts toolEvidenceCoverageHashes)),
    (.observedAtStart, .str observed.1),
    (.observedAtEnd, .str observed.2),
    (.conversationRevisionTokens, textArray (sortTexts conversationTokens)),
    (.toolEvidenceRevisionTokens, textArray (sortTexts toolEvidenceTokens))]).json)

def positionFields : List Field :=
  [.turnStartIndex, .turnEndIndex, .partIndex, .partCount, .charStart, .charEnd,
    .evidenceIndexStart, .evidenceIndexEnd]

/-- The position of a source document: those of the position fields it has. -/
def position (d : Doc) : Doc :=
  Doc.ofFields (positionFields.filterMap (fun f => (d.get? f).map (f, ·)))

/-- Hash one source document's material identity including its event window. -/
def buildSourceRevisionToken (d : Doc) (materialHash : String) : String :=
  sha256Hash py (.json (Doc.ofFields [
    (.documentRefHash, .str (sha256Hash py (.text (d.text .id)))),
    (.materialHash, .str materialHash),
    (.observedAtStart, .str (d.text .observedAtStart)),
    (.observedAtEnd, .str (d.text .observedAtEnd)),
    (.position, (position d).json)]).json)

def hashHex (value : String) : String := removeprefix "sha256:" value

theorem hashHex_hashLike {s : String} (like : hashLike s) : s = "sha256:" ++ hashHex s := by
  obtain ⟨hex, shape, -⟩ := hashLike_shape like
  have width : "sha256:".length = 7 := rfl
  apply String.toList_inj.mp
  simp [hashHex, removeprefix, hasPrefix, shape, width]

/-- Two hashes with the same digest are the same hash. -/
theorem hashHex_injective {s t : String} (like : hashLike s) (like' : hashLike t)
    (same : hashHex s = hashHex t) : s = t := by
  rw [hashHex_hashLike like, hashHex_hashLike like', same]

end Hashes

/-! ## Deterministic ids -/

section Ids

def projectionStateDocId (sessionIdHash : String) : String :=
  SourceDocType.projectionState.text ++ ":" ++ hashHex sessionIdHash

def sourceRevisionMemberDocId (py : Platform) (sessionIdHash sourceRevision sourceDocumentId : String) :
    String :=
  SourceDocType.sourceRevisionMember.text ++ ":" ++ hashHex sessionIdHash ++ ":" ++
    hashHex sourceRevision ++ ":" ++ hashHex (sha256Hash py (.text sourceDocumentId))

def sourceRevisionManifestDocId (sessionIdHash sourceRevision : String) : String :=
  SourceDocType.sourceRevisionManifest.text ++ ":" ++ hashHex sessionIdHash ++ ":" ++
    hashHex sourceRevision

def activeSourceRevisionPointerDocId (sessionIdHash : String) : String :=
  SourceDocType.activeSourceRevision.text ++ ":" ++ hashHex sessionIdHash

/-- Each session has a pointer document of its own. -/
theorem activeSourceRevisionPointerDocId_injective {s t : String} (like : hashLike s)
    (like' : hashLike t)
    (same : activeSourceRevisionPointerDocId s = activeSourceRevisionPointerDocId t) : s = t := by
  refine hashHex_injective like like' ?_
  simpa [activeSourceRevisionPointerDocId, String.append_right_inj] using same

/-- An id starts with its own document type followed by a colon. -/
def OwnPrefix (t : SourceDocType) (docId : String) : Prop := hasPrefix (t.text ++ ":") docId

instance (t : SourceDocType) (docId : String) : Decidable (OwnPrefix t docId) :=
  inferInstanceAs (Decidable (_ = true))

theorem OwnPrefix.takeWhile {t : SourceDocType} {docId : String} (own : OwnPrefix t docId) :
    docId.toList.takeWhile (· != ':') = t.text.toList := by
  simp only [OwnPrefix, hasPrefix, List.isPrefixOf_iff_prefix] at own
  obtain ⟨rest, shape⟩ := own
  obtain ⟨-, -, -, -, plain⟩ := t.text_shape
  rw [← shape, String.toList_append, List.append_assoc, List.takeWhile_append_of_pos]
  · simp
  · intro c mem
    rw [bne_iff_ne]
    rintro rfl
    exact plain mem

/-- The id prefix determines the document type. -/
theorem OwnPrefix.unique {t u : SourceDocType} {docId : String} (own : OwnPrefix t docId)
    (own' : OwnPrefix u docId) : t = u :=
  SourceDocType.text_injective (String.toList_inj.mp (own.takeWhile.symm.trans own'.takeWhile))

theorem ownPrefix_append (t : SourceDocType) (rest : String) : OwnPrefix t (t.text ++ ":" ++ rest) := by
  simp [OwnPrefix, hasPrefix]

theorem ownPrefix_pointer (s : String) :
    OwnPrefix .activeSourceRevision (activeSourceRevisionPointerDocId s) :=
  ownPrefix_append _ _

theorem ownPrefix_manifest (s r : String) :
    OwnPrefix .sourceRevisionManifest (sourceRevisionManifestDocId s r) := by
  simp [OwnPrefix, hasPrefix, sourceRevisionManifestDocId]

theorem ownPrefix_member (py : Platform) (s r d : String) :
    OwnPrefix .sourceRevisionMember (sourceRevisionMemberDocId py s r d) := by
  simp [OwnPrefix, hasPrefix, sourceRevisionMemberDocId]

end Ids

/-! ## Write boundaries -/

section Boundaries

variable (py : Platform)

def assertCouchdbOwned : Json → Except PyError Unit
  | .str s =>
      refuseIf (SourceDocType.ofText? s = none)
        ⟨.ownershipViolation, "doc_type not owned by the CouchDB source plane: " ++ s⟩
  | .arr _ => .error (.typeError "unhashable type: 'list'")
  | .obj _ => .error (.typeError "unhashable type: 'dict'")
  | v => .error ⟨.ownershipViolation,
      "doc_type not owned by the CouchDB source plane: " ++ v.text⟩

def publicIngressLeakViolations (e : Encoded) : List String :=
  if e = .text "" then [] else py.leakPatterns e

def leakMessage (subject : String) (violations : List String) : String :=
  subject ++ " failed leak check; categories=" ++ ",".intercalate (sortTexts violations.dedup)

def assertSourceTextClean (text : String) : Except PyError Unit :=
  let violations := publicIngressLeakViolations py (.text text)
  refuseIf (violations ≠ []) ⟨.sourceRedactionLeak, leakMessage "source body" violations⟩

def assertHashLike (field value : String) : Except PyError Unit := do
  refuseIf (value = "") (.valueError (field ++ " is required"))
  refuseIf (¬ hashLike value)
    (.valueError (field ++ " must be a 'sha256:<hex>' hash, never a raw value"))

theorem assertHashLike_eq_ok {field value : String} {u : Unit} :
    assertHashLike field value = .ok u ↔ hashLike value := by
  unfold assertHashLike
  by_cases blank : value = ""
  · subst blank
    simp only [refuseIf, if_true, error_bind, reduceCtorEq, false_iff]
    decide
  · simp [refuseIf, blank]

theorem assertHashLike_of_hashLike {field value : String} (like : hashLike value) :
    assertHashLike field value = .ok () :=
  assertHashLike_eq_ok.mpr like

def secretLikeKeyPatterns : List String :=
  ["secret", "password", "passwd", "token", "api_key", "apikey", "bearer", "credential",
    "cookie", "private_key", "access_key", "client_secret"]

def isSecretLikeKey (key : String) : Bool :=
  secretLikeKeyPatterns.any (fun pattern => contains pattern (lower key))

def assertNoSecretLikeMetadata (keys : List Key) : Except PyError Unit :=
  match keys.find? (fun k => isSecretLikeKey k.name) with
  | some k => .error ⟨.secretLikeMetadataError, "secret-like metadata key rejected: " ++ k.name⟩
  | none => .ok ()

mutual

/-- The recursive secret-like-key screen. -/
def assertNoSecretLikeKeysDeep : Json → Except PyError Unit
  | .obj fields => do
      assertNoSecretLikeMetadata (fields.map Prod.fst)
      assertNoSecretLikeKeysInFields fields
  | .arr items => assertNoSecretLikeKeysInItems items
  | .null | .bool _ | .num _ | .dec _ _ | .str _ => .ok ()

def assertNoSecretLikeKeysInItems : List Json → Except PyError Unit
  | [] => .ok ()
  | item :: rest => do
      assertNoSecretLikeKeysDeep item
      assertNoSecretLikeKeysInItems rest

def assertNoSecretLikeKeysInFields : List (Key × Json) → Except PyError Unit
  | [] => .ok ()
  | (_, item) :: rest => do
      assertNoSecretLikeKeysDeep item
      assertNoSecretLikeKeysInFields rest

end

/-- Last-line public-safety checks applied to every built document. -/
def finalize (d : Doc) : Except PyError Doc := do
  assertNoSecretLikeKeysDeep d.json
  let leaks := publicIngressLeakViolations py (.json d.json)
  refuseIf (leaks ≠ []) ⟨.sourceRedactionLeak, leakMessage "document" leaks⟩
  return d

def repoUsagePatternDocId (idempotencyKey : String) : Except PyError String := do
  refuseIf (idempotencyKey = "") (.valueError "original ingress natural key is required")
  return SourceDocType.repoUsagePattern.text ++ ":" ++
    hashHex (sha256Hash py (.text idempotencyKey))

end Boundaries

end Neurons.Source
