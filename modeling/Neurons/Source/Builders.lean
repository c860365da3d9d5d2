import Neurons.Source.DocumentModel

/-! # Building derived documents

The builders of `document_model.py` for evidence bundles, the coverage manifest and the
projection state, with the project label and the observed interval they normalize.
-/

namespace Neurons.Source

open Neurons.Lib

/-- Two more library calls the builders make. -/
structure Formats where
  /-- `text.lower()` -/
  lower : String → String
  /-- `isoformat()` of an instant in UTC -/
  isoformat : Int → String

/-- The calls on texts of ASCII letters and documents without times. -/
def plainFormats : Formats := ⟨Source.lower, fun _ => ""⟩

/-! ## Project labels -/

section Projects

variable (fmt : Formats)

def pathParts (value : String) : List String :=
  let slashed := value.toList.map fun c => if c = '\\' then '/' else c
  ((slashed.splitOn '/').filter (· ≠ [])).map String.ofList

/-- The part after the marker, if there is one. -/
def partAfter (marker : String) (parts : List String) : Option String :=
  let lowerParts := parts.map fmt.lower
  if marker ∈ lowerParts then parts[lowerParts.idxOf marker + 1]? else none

/-- The parts up to the worktree marker, if there is one. -/
def beforeWorktrees (parts : List String) : List String :=
  let lowerParts := parts.map fmt.lower
  match [".claude-worktrees", "claude-worktrees"].find? (· ∈ lowerParts) with
  | some marker => parts.take (lowerParts.idxOf marker)
  | none => parts

def canonicalizeProjectPath (value : String) : Except PyError (Option String) :=
  if '/' ∉ value.toList ∧ '\\' ∉ value.toList then return none
  else if pathParts value = [] then return some ""
  else
    let parts := beforeWorktrees fmt (pathParts value)
    match (partAfter fmt ".openclaw" parts).or ((partAfter fmt "projects" parts).or parts.getLast?) with
    | some part => return some part
    | none => .error (.indexError "list index out of range")

/-- `re.sub(r"-+", "-", text)`. -/
def collapseDashes : List Char → List Char
  | '-' :: '-' :: rest => collapseDashes ('-' :: rest)
  | c :: rest => c :: collapseDashes rest
  | [] => []

def stripDashes (text : List Char) : List Char :=
  ((text.dropWhile (· = '-')).reverse.dropWhile (· = '-')).reverse

/-- The text before and the text after the first occurrence of the pattern. -/
def splitAtFirst (pattern text : List Char) : Option (List Char × List Char) :=
  (text.inits.zip text.tails).findSome? fun (before, rest) =>
    if pattern.isPrefixOf rest then some (before, rest.drop pattern.length) else none

/-- The rest of a lower-case slug after its marker, if it is that of a user's directory. -/
def slugAfter (marker text : String) : Option String :=
  if contains "users-" text ∨ contains "home-" text then
    match splitAtFirst marker.toList text.toList with
    | some (_, c :: tail) => some (String.ofList (c :: tail))
    | _ => none
  else none

def canonicalizeProjectSlug (value : String) : Option String :=
  let normalized := collapseDashes (stripDashes value.toList)
  if normalized = [] then some ""
  else
    let text := fmt.lower (String.ofList normalized)
    let text := match splitAtFirst "claude-worktrees".toList text.toList with
      | some (before, _) =>
          let kept := (normalized.take before.length).reverse.dropWhile (· = '-')
          fmt.lower (String.ofList kept.reverse)
      | none => text
    (slugAfter "openclaw-" text).or (slugAfter "projects-" text)

/-- Collapse observed transcript source path variants into a stable project label. -/
def canonicalizeProject (project : String) : Except PyError String := do
  if project = "" then return ""
  else
    match ← canonicalizeProjectPath fmt project with
    | some part => return part
    | none => return (canonicalizeProjectSlug fmt project).getD project

end Projects

section Build

variable (py : Platform) (fmt : Formats)

/-! ## Times -/

/-- `parsed.isoformat().replace("+00:00", "Z")`. -/
def isoformatZulu (instant : Int) : String :=
  match splitAtFirst "+00:00".toList (fmt.isoformat instant).toList with
  | some (before, rest) => String.ofList (before ++ 'Z' :: rest)
  | none => fmt.isoformat instant

/-- One UTC-normalized interval, or none for missing or invalid bounds. -/
def normalizeObservedInterval (start last : String) : Except PyError (Option (String × String)) := do
  let rawStart := strip start
  let rawEnd := strip (if last = "" then rawStart else last)
  if rawStart = "" ∨ rawEnd = "" then return none
  else match parseObserved py rawStart with
    | none => return none
    | some start => do
        let first ← astimezone start
        match parseObserved py rawEnd with
        | none => return none
        | some stop => do
            let second ← astimezone stop
            if second < first then return none
            else return some (isoformatZulu fmt first, isoformatZulu fmt second)

/-! ## Documents -/

def redactionVersion : String := "redaction.v2"

/-- Order-independent hash over a set of member content hashes. -/
def buildCoverageHash (contentHashes : List String) : String :=
  sha256Hash py (.text ("\n".intercalate (sortTexts contentHashes)))

def assertHashLikeIfPresent (field value : String) : Except PyError Unit :=
  if value = "" then .ok () else assertHashLike field value

def baseDocument (docType : SourceDocType) (docId provider project sessionIdHash sourceLocatorHash : String) :
    Except PyError Doc := do
  assertHashLike "session_id_hash" sessionIdHash
  assertHashLikeIfPresent "source_locator_hash" sourceLocatorHash
  let project ← canonicalizeProject fmt project
  return Doc.ofFields [
    (.id, .str docId),
    (.docType, .str docType.text),
    (.schemaVersion, .str couchdbSourceSchemaVersion),
    (.owner, .str couchdbSourceOwner),
    (.provider, .str provider),
    (.project, .str project),
    (.sessionIdHash, .str sessionIdHash),
    (.sourceLocatorHash, .str sourceLocatorHash),
    (.redactionVersion, .str redactionVersion)]

/-- `f"{index:03d}"`. -/
def threeDigits (index : Nat) : String :=
  let digits := toString index
  String.ofList (List.replicate (3 - digits.length) '0') ++ digits

def toolEvidenceBundleDocId (sessionIdHash : String) (partIndex : Nat) : String :=
  SourceDocType.toolEvidenceBundle.text ++ ":" ++ hashHex sessionIdHash ++ ":p" ++ threeDigits partIndex

def coverageManifestDocId (sessionIdHash : String) : String :=
  SourceDocType.coverageManifest.text ++ ":" ++ hashHex sessionIdHash

/-- A bounded part of a session's tool evidence. -/
structure BundlePart where
  sessionIdHash : String
  provider : String
  project : String
  partIndex : Nat
  partCount : Nat
  evidenceIndexStart : Int
  evidenceIndexEnd : Int
  recordContentHashes : List String
  body : String
  observedAtStart : String
  observedAtEnd : String

/-- The fields a bundle adds to its base document, besides the two below. -/
def BundlePart.fields (part : BundlePart) : List (Field × Json) :=
  [(.partIndex, .num part.partIndex),
    (.partCount, .num part.partCount),
    (.evidenceIndexStart, .num part.evidenceIndexStart),
    (.evidenceIndexEnd, .num part.evidenceIndexEnd),
    (.coverageHash, .str (buildCoverageHash py part.recordContentHashes)),
    (.contentHash, .str (sha256Hash py (.text part.body))),
    (.observedAtStart, .str part.observedAtStart),
    (.observedAtEnd, .str (if part.observedAtEnd = "" then part.observedAtStart else part.observedAtEnd)),
    (.body, .str part.body)]

def buildToolEvidenceBundleDocument (part : BundlePart) : Except PyError Doc := do
  refuseIf (part.evidenceIndexEnd < part.evidenceIndexStart)
    (.valueError "evidence_index_start must be <= evidence_index_end")
  assertSourceTextClean py part.body
  let base ← baseDocument fmt .toolEvidenceBundle (toolEvidenceBundleDocId part.sessionIdHash part.partIndex)
    part.provider part.project part.sessionIdHash ""
  let counted := Dict.insert (base.update (part.fields py)) (.other "evidence_count")
    (.num part.recordContentHashes.length)
  finalize py (Dict.insert counted (.other "record_content_hashes") (textArray part.recordContentHashes))

/-- A chunk of conversation turns whose text has been redacted. -/
structure TranscriptChunk where
  chunkId : String
  sessionIdHash : String
  provider : String
  project : String
  turnStartIndex : Int
  turnEndIndex : Int
  redactedText : String
  redactionVersion : String
  sourceStatus : String
  partIndex : Int
  partCount : Int
  charStart : Int
  charEnd : Int
  observedAtStart : String
  observedAtEnd : String

/-- A chunk is kept under its content address. -/
def conversationChunkDocId (sessionIdHash chunkId : String) : String :=
  SourceDocType.conversationChunk.text ++ ":" ++ hashHex sessionIdHash ++ ":" ++ chunkId

/-- The fields a chunk adds to its base document, where `body` is its public text. -/
def TranscriptChunk.fields (chunk : TranscriptChunk) (body : String) : List (Field × Json) :=
  [(.chunkId, .str chunk.chunkId),
    (.turnStartIndex, .num chunk.turnStartIndex),
    (.turnEndIndex, .num chunk.turnEndIndex),
    (.partIndex, .num chunk.partIndex),
    (.partCount, .num chunk.partCount),
    (.charStart, .num chunk.charStart),
    (.charEnd, .num chunk.charEnd),
    (.observedAtStart, .str chunk.observedAtStart),
    (.observedAtEnd, .str chunk.observedAtEnd),
    (.contentHash, .str (sha256Hash py (.text body))),
    (.sourceStatus, .str chunk.sourceStatus),
    (.body, .str body)]

/-- `redact` is the public redaction of a text. -/
def buildConversationChunkDocument (redact : String → String) (chunk : TranscriptChunk)
    (sourceLocatorHash : String) : Except PyError Doc := do
  let body := redact chunk.redactedText
  assertSourceTextClean py body
  let base ← baseDocument fmt .conversationChunk (conversationChunkDocId chunk.sessionIdHash chunk.chunkId)
    chunk.provider chunk.project chunk.sessionIdHash sourceLocatorHash
  finalize py ((base.set .redactionVersion (.str chunk.redactionVersion)).update (chunk.fields py body))

/-- What a coverage manifest is built from. -/
structure Coverage where
  sessionIdHash : String
  provider : String
  project : String
  conversationContentHashes : List String
  toolEvidenceCoverageHashes : List String
  sourceLocatorHash : String
  ledgerComparison : Doc
  projectAuthority : Doc
  observed : String × String
  conversationTokens : List String
  toolEvidenceTokens : List String

/-- The entries of a coverage manifest whose names no other document of the plane has. -/
def Coverage.counts (coverage : Coverage) : List (String × Json) :=
  [("conversation_chunk_count", .num coverage.conversationContentHashes.length),
    ("tool_evidence_bundle_count", .num coverage.toolEvidenceCoverageHashes.length),
    ("conversation_coverage_hash", .str (buildCoverageHash py coverage.conversationContentHashes)),
    ("tool_evidence_coverage_hash", .str (buildCoverageHash py coverage.toolEvidenceCoverageHashes)),
    ("ledger_comparison", coverage.ledgerComparison.json),
    ("project_authority", coverage.projectAuthority.json)]

def buildCoverageManifestDocument (coverage : Coverage) : Except PyError Doc := do
  let base ← baseDocument fmt .coverageManifest (coverageManifestDocId coverage.sessionIdHash)
    coverage.provider coverage.project coverage.sessionIdHash coverage.sourceLocatorHash
  let hashed := base.update [
    (.sourceHash, .str (buildSourceHash py coverage.conversationContentHashes coverage.toolEvidenceCoverageHashes
      coverage.observed coverage.conversationTokens coverage.toolEvidenceTokens)),
    (.observedAtStart, .str coverage.observed.1),
    (.observedAtEnd, .str coverage.observed.2)]
  finalize py ((coverage.counts py).foldl (fun d entry => Dict.insert d (.other entry.1) entry.2) hashed)

inductive ProjectionStatus where
  | pending | projected | failed
  deriving DecidableEq, Repr

def ProjectionStatus.text : ProjectionStatus → String
  | .pending => "pending"
  | .projected => "projected"
  | .failed => "failed"

def indexRecallProfile : String := "session-memory"

structure Projection where
  sessionIdHash : String
  provider : String
  project : String
  projectionStatus : ProjectionStatus
  sessionMemoryKnowledgeId : String
  activeContentHash : String
  failureReason : String
  sourceHash : String
  projectedSourceHash : String
  materializedAt : String

def Projection.fields (projection : Projection) : List (Field × Json) :=
  [(.targetProfile, .str indexRecallProfile),
    (.projectionStatus, .str projection.projectionStatus.text),
    (.sessionMemoryKnowledgeId, .str projection.sessionMemoryKnowledgeId),
    (.activeContentHash, .str projection.activeContentHash),
    (.sourceHash, .str projection.sourceHash),
    (.projectedSourceHash, .str projection.projectedSourceHash),
    (.materializedAt, .str projection.materializedAt),
    (.failureReason, .str projection.failureReason)]

def buildProjectionStateDocument (projection : Projection) : Except PyError Doc := do
  refuseIf (projection.projectionStatus = .projected ∧ projection.activeContentHash = "")
    (.valueError "active_content_hash is required for projected state")
  assertHashLikeIfPresent "active_content_hash" projection.activeContentHash
  assertHashLikeIfPresent "source_hash" projection.sourceHash
  assertHashLikeIfPresent "projected_source_hash" projection.projectedSourceHash
  let base ← baseDocument fmt .projectionState (projectionStateDocId projection.sessionIdHash)
    projection.provider projection.project projection.sessionIdHash ""
  finalize py (base.update projection.fields)

end Build

/-! ## Reading them back -/

section Built

variable {py : Platform} {fmt : Formats} {d : Doc}

@[simp] theorem get?_insert_other (d : Doc) (name : String) (v : Json) (f : Field) :
    Doc.get? (Dict.insert d (.other name) v) f = d.get? f := by
  simp [Doc.get?, Dict.get?_insert]

theorem get?_foldl_insert_other (entries : List (String × Json)) (d : Doc) (f : Field) :
    Doc.get? (entries.foldl (fun d entry => Dict.insert d (.other entry.1) entry.2) d) f = d.get? f := by
  induction entries generalizing d with
  | nil => rfl
  | cons entry rest ih => rw [List.foldl_cons, ih, get?_insert_other]

theorem finalize_eq_ok {d' : Doc} (done : finalize py d = .ok d') : d = d' := by
  unfold finalize at done
  simp only [bind_eq_ok, pure_eq_ok, Except.ok.injEq] at done
  obtain ⟨⟨⟩, -, ⟨⟩, -, same⟩ := done
  exact same

/-- What identifies a built document. -/
structure Identified (docType : SourceDocType) (docId sessionIdHash : String) (d : Doc) : Prop where
  id : d.get? .id = some (.str docId)
  typed : d.get? .docType = some (.str docType.text)
  session : d.get? .sessionIdHash = some (.str sessionIdHash)

variable {docType : SourceDocType} {docId sessionIdHash : String}

theorem Identified.docType? (identified : Identified docType docId sessionIdHash d) :
    Source.docType? d = some docType :=
  docType?_eq_some_iff.mpr identified.typed

theorem Identified.text_id (identified : Identified docType docId sessionIdHash d) : d.text .id = docId :=
  Doc.text_of_str identified.id

theorem Identified.congr {d' : Doc} (identified : Identified docType docId sessionIdHash d)
    (same : ∀ f ∈ [Field.id, .docType, .sessionIdHash], d'.get? f = d.get? f) :
    Identified docType docId sessionIdHash d' :=
  ⟨(same _ (by simp)).trans identified.id, (same _ (by simp)).trans identified.typed,
    (same _ (by simp)).trans identified.session⟩

theorem baseDocument_eq_ok {provider project locator : String}
    (built : baseDocument fmt docType docId provider project sessionIdHash locator = .ok d) :
    Identified docType docId sessionIdHash d := by
  unfold baseDocument at built
  simp only [bind_eq_ok, pure_eq_ok, Except.ok.injEq] at built
  obtain ⟨⟨⟩, -, ⟨⟩, -, label, -, rfl⟩ := built
  constructor <;> simp [Doc.ofFields, Doc.get?_set]

theorem buildCoverageManifestDocument_eq_ok {coverage : Coverage}
    (built : buildCoverageManifestDocument py fmt coverage = .ok d) :
    Identified .coverageManifest (coverageManifestDocId coverage.sessionIdHash) coverage.sessionIdHash d := by
  unfold buildCoverageManifestDocument at built
  simp only [bind_eq_ok] at built
  obtain ⟨base, based, finalized⟩ := built
  rw [← finalize_eq_ok finalized]
  refine (baseDocument_eq_ok based).congr fun f mem => ?_
  rw [get?_foldl_insert_other]
  simp only [List.mem_cons, List.not_mem_nil, or_false] at mem
  rcases mem with rfl | rfl | rfl <;> simp [Doc.get?_set]

theorem buildProjectionStateDocument_eq_ok {projection : Projection}
    (built : buildProjectionStateDocument py fmt projection = .ok d) :
    Identified .projectionState (projectionStateDocId projection.sessionIdHash) projection.sessionIdHash d := by
  unfold buildProjectionStateDocument at built
  simp only [bind_eq_ok] at built
  obtain ⟨⟨⟩, -, ⟨⟩, -, ⟨⟩, -, ⟨⟩, -, base, based, finalized⟩ := built
  rw [← finalize_eq_ok finalized]
  refine (baseDocument_eq_ok based).congr fun f mem => ?_
  simp only [List.mem_cons, List.not_mem_nil, or_false] at mem
  rcases mem with rfl | rfl | rfl <;> simp [Projection.fields, Doc.get?_set]

theorem buildToolEvidenceBundleDocument_eq_ok {part : BundlePart}
    (built : buildToolEvidenceBundleDocument py fmt part = .ok d) :
    Identified .toolEvidenceBundle (toolEvidenceBundleDocId part.sessionIdHash part.partIndex)
        part.sessionIdHash d ∧ d.get? .partIndex = some (.num part.partIndex) := by
  unfold buildToolEvidenceBundleDocument at built
  simp only [bind_eq_ok] at built
  obtain ⟨⟨⟩, -, ⟨⟩, -, base, based, finalized⟩ := built
  rw [← finalize_eq_ok finalized]
  constructor
  · refine (baseDocument_eq_ok based).congr fun f mem => ?_
    rw [get?_insert_other, get?_insert_other]
    simp only [List.mem_cons, List.not_mem_nil, or_false] at mem
    rcases mem with rfl | rfl | rfl <;> simp [BundlePart.fields, Doc.get?_set]
  · simp [BundlePart.fields, Doc.get?_set]

theorem ownPrefix_coverageManifest (s : String) : OwnPrefix .coverageManifest (coverageManifestDocId s) :=
  ownPrefix_append _ _

theorem ownPrefix_projectionState (s : String) : OwnPrefix .projectionState (projectionStateDocId s) :=
  ownPrefix_append _ _

theorem ownPrefix_toolEvidenceBundle (s : String) (i : Nat) :
    OwnPrefix .toolEvidenceBundle (toolEvidenceBundleDocId s i) := by
  simp [OwnPrefix, hasPrefix, toolEvidenceBundleDocId]

end Built

end Neurons.Source
