import Neurons.Ingress.Wire
import Neurons.Queue.Enqueue
import Neurons.Source.ReferencePlatform
import Neurons.Source.Validation

/-! # From an admitted request to the worker's document

The ingress API checks a request in Java and publishes it as a flat job; the worker nests the
job and checks it again in Python before it builds a document. The worker asks for a filename
and an idempotency key that the API lets a request leave out, and refuses metadata keys that
the API does not look for.
-/

namespace Neurons.Queue

open Neurons.Lib
open Neurons.Source
open Neurons.Ingress

/-! ## The job on the wire -/

def textJson : Option String → Json
  | none => .null
  | some text => .str text

def mapJson : Option StringMap → Json
  | none => .null
  | some values => .obj (values.entries.map fun entry => (entry.1, textJson entry.2))

/-- The package of a flat job as Jackson writes it. -/
def DocumentPayload.wire (payload : DocumentPayload) : Doc := Dict.insertAll ∅
  [(.field .kind, textJson payload.kind),
    (.other "redactionVersion", textJson payload.redactionVersion),
    (.other "filename", textJson payload.filename),
    (.other "contentType", textJson payload.contentType),
    (.field .body, textJson payload.body),
    (.other "metadata", mapJson payload.metadata)]

/-- A flat job as `IngestJobMessageCodec.encode` writes it. -/
def IngestJob.wire (job : IngestJob) : Doc := Dict.insertAll ∅
  [(.other "source", mapJson job.source),
    (.other "payload", (job.payload.map fun payload => payload.wire.json).getD .null),
    (.other "contentHash", textJson job.contentHash),
    (.other "targetProfile", textJson job.targetProfile),
    (.field .kind, textJson job.kind),
    (.other "idempotencyKey", textJson job.idempotencyKey)]

/-! ## The worker's document -/

structure RagReadyDocument where
  targetProfile : String
  documentKind : String
  artifactKind : String
  sourceNamespace : String
  sourceAlias : String
  privacyClass : String
  contentHash : String
  idempotencyKey : String
  body : String
  filename : String
  metadata : Doc
  contentType : String
  redactionVersion : String

/-- `str(d.get(a) or d.get(b) or fallback)`. -/
def textOr (d : Doc) (keys : List Key) (fallback : String) : String :=
  ((firstOf d keys).map Json.text).getD fallback

/-- `if value: metadata.setdefault(key, value)`. -/
def setdefault (metadata : Doc) (key : Key) (value : String) : Doc :=
  if value = "" then metadata
  else if metadata.contains key then metadata
  else metadata.insert key (.str value)

/-- The document of a payload that was found valid. -/
def readDocument (payload wire document source metadata : Doc) : RagReadyDocument where
  targetProfile := (getOrNull payload (.other "targetProfile")).text
  documentKind := (getOrNull payload (.field .kind)).text
  artifactKind := (getOrNull wire (.field .kind)).text
  sourceNamespace := textOr source [.field .provider, .other "namespace"] "ingress"
  sourceAlias := textOr source [.other "source_alias", .other "alias"] "redacted-ingress-source"
  privacyClass := textOr metadata [.other "privacy_class"] "private"
  contentHash := (getOrNull payload (.other "contentHash")).text
  idempotencyKey := (getOrNull payload (.other "idempotencyKey")).text
  body := (getOrNull document (.field .body)).text
  filename := (getOrNull document (.other "filename")).text
  metadata :=
    setdefault (setdefault metadata (.other "source_host") (firstText source [.other "host"]))
      (.field .project) (firstText source [.field .project])
  contentType := textOr document [.other "contentType"] "text/markdown"
  redactionVersion := textOr wire [.other "redactionVersion"] "redaction.v2"

def documentFromIngressPayload (payload : Doc) : Except PyError RagReadyDocument := do
  validateIngressPayload payload
  let wire ← mappingOf (Dict.get? payload (.other "payload"))
  let document ← mappingOf (Dict.get? wire (.other "document"))
  let source ← mappingOf (Dict.get? payload (.other "source"))
  let metadata ← mappingOf (Dict.get? document (.other "metadata"))
  return readDocument payload wire document source metadata

/-! ## Requests -/

section Statement

variable (py : Platform) (denylist : List NamedPattern)

/-- The controller's checks report no violation. -/
def Admitted (request : EnqueueRequest) : Prop :=
  request.schemaVersion = some "rag_ingress_enqueue.v1" ∧ violations py denylist request = []

instance (request : EnqueueRequest) : Decidable (Admitted py denylist request) := by
  unfold Admitted
  infer_instance

/-- The document has the request's body, hash, kind, profile and key. -/
structure Carries (document : RagReadyDocument) (request : EnqueueRequest) : Prop where
  body : request.toIngestJob.payload.bind (·.body) = some document.body
  contentHash : request.contentHash = some document.contentHash
  kind : request.kind = some document.documentKind
  targetProfile : request.targetProfile = some document.targetProfile
  idempotencyKey : request.idempotencyKey = some document.idempotencyKey

/-- The worker takes the request's message in as its document. -/
def Processable (request : EnqueueRequest) : Prop :=
  ∃ document, documentFromIngressPayload (normalizeIngestJobPayload request.toIngestJob.wire) = .ok document ∧
    Carries document request

end Statement

/-- A text that Python takes for true. -/
def given (text : Option String) : Bool := text.any (· ≠ "")

/-- No key of the metadata looks like a secret. -/
def plainKeys (metadata : Option StringMap) : Bool :=
  metadata.all fun values => values.entries.all fun entry => !isSecretLikeKey entry.1.name

/-- The request has what the worker asks for and the API does not. -/
def WorkerReady (request : EnqueueRequest) : Prop :=
  request.toIngestJob.payload.any (fun payload => given payload.filename && plainKeys payload.metadata) ∧
    given request.idempotencyKey

instance (request : EnqueueRequest) : Decidable (WorkerReady request) := by
  unfold WorkerReady
  infer_instance

/-! ## What an admitted request has -/

theorem truthy_textJson (text : Option String) : (textJson text).truthy = given text := by
  cases text with
  | none => rfl
  | some text =>
      rw [Bool.eq_iff_iff]
      simp [textJson, Json.truthy, given]

theorem given_of_not_isBlank {text : Option String} (filled : isBlank text = false) : given text = true := by
  cases text with
  | none => cases filled
  | some text =>
      have nonempty : text ≠ "" := by
        rintro rfl
        cases filled
      simpa [given] using nonempty

theorem given_of_mem {text : Option String} {names : List String} (known : text.any (· ∈ names) = true)
    (named : "" ∉ names) : given text = true := by
  cases text with
  | none => cases known
  | some text =>
      have nonempty : text ≠ "" := by
        rintro rfl
        exact named (by simpa using known)
      simpa [given] using nonempty

/-- The parts of a job without a violation. -/
structure Checked (job : IngestJob) : Prop where
  source : ∃ values : StringMap, job.source = some values ∧ values.entries ≠ []
  payload : ∃ payload, job.payload = some payload ∧ payload.kind = some "redacted_rag_ready_document" ∧
    payload.redactionVersion = some "redaction.v2" ∧ given payload.body = true
  contentHash : ∃ text, job.contentHash = some text ∧ hashLike text = true
  targetProfile : given job.targetProfile = true
  kind : given job.kind = true

theorem source_of_validateSource {source : Option StringMap} (clean : validateSource source = []) :
    ∃ values : StringMap, source = some values ∧ values.entries ≠ [] := by
  cases source with
  | none => cases clean
  | some values =>
      refine ⟨values, rfl, ?_⟩
      intro empty
      simp [validateSource, empty] at clean

theorem payload_of_validatePayload {payload : Option DocumentPayload} (clean : validatePayload payload = []) :
    ∃ p, payload = some p ∧ p.kind = some "redacted_rag_ready_document" ∧
      p.redactionVersion = some "redaction.v2" ∧ given p.body = true := by
  cases payload with
  | none => cases clean
  | some p =>
      simp only [validatePayload, List.append_eq_nil_iff, violationIf_eq_nil, not_not, Bool.not_eq_true] at clean
      obtain ⟨-, -, kind, version, body, -⟩ := clean
      exact ⟨p, rfl, kind, version, given_of_not_isBlank body⟩

theorem hash_of_validateContentHash {py : Platform} {job : IngestJob} (clean : validateContentHash py job = []) :
    ∃ text, job.contentHash = some text ∧ hashLike text = true := by
  unfold validateContentHash at clean
  split at clean
  · cases clean
  · rename_i shaped
    simpa [hasCanonicalShape, Option.any_eq_true] using shaped

theorem kind_of_validateKind {kind : Option String} (clean : validateKind kind = []) : given kind = true := by
  unfold validateKind at clean
  split at clean
  · cases clean
  · rename_i filled
    exact given_of_not_isBlank (by simpa using filled)

theorem checked_of_validate {py : Platform} {job : IngestJob} (clean : validate py job = []) : Checked job := by
  simp only [validate, List.append_eq_nil_iff, violationIf_eq_nil, Bool.not_eq_true', Bool.not_eq_false] at clean
  obtain ⟨source, payload, hash, profile, kind⟩ := clean
  exact
    { source := source_of_validateSource source
      payload := payload_of_validatePayload payload
      contentHash := hash_of_validateContentHash hash
      targetProfile := given_of_mem profile (by decide)
      kind := kind_of_validateKind kind }

/-! ## The nested payload of a job -/

section Nested

variable {job : IngestJob} {payload : DocumentPayload}

theorem normalize_wire (has : job.payload = some payload) :
    normalizeIngestJobPayload job.wire = nestJob job.wire payload.wire := by
  have package : Dict.get? job.wire (.other "payload") = some payload.wire.json := by
    simp [IngestJob.wire, Dict.get?_insertAll, lookup, has]
  have flat : Dict.get? payload.wire (.other "document") = none := by
    simp [DocumentPayload.wire, Dict.get?_insertAll, lookup]
  simp [normalizeIngestJobPayload, flatPackage?, package, Doc.json, Dict.insertAll_entries, flat]

theorem mappingOf_json (d : Doc) : mappingOf (some d.json) = .ok d := by
  simp only [mappingOf, Doc.json, Dict.insertAll_entries]

/-! Every read of the nested payload, in terms of the job. -/

theorem get?_nested_schemaVersion : Dict.get? (nestJob job.wire payload.wire) (.other "schemaVersion") =
    some (.str "rag_ingress_enqueue.v1") := by
  simp [nestJob, Dict.get?_insertAll, lookup]

theorem get?_nested_contentHash : Dict.get? (nestJob job.wire payload.wire) (.other "contentHash") =
    some (textJson job.contentHash) := by
  simp [nestJob, IngestJob.wire, getOrNull, Dict.get?_insertAll, lookup]

theorem get?_nested_targetProfile : Dict.get? (nestJob job.wire payload.wire) (.other "targetProfile") =
    some (textJson job.targetProfile) := by
  simp [nestJob, IngestJob.wire, getOrNull, Dict.get?_insertAll, lookup]

theorem get?_nested_kind : Dict.get? (nestJob job.wire payload.wire) (.field .kind) =
    some (textJson job.kind) := by
  simp [nestJob, IngestJob.wire, getOrNull, Dict.get?_insertAll, lookup]

theorem get?_nested_idempotencyKey : Dict.get? (nestJob job.wire payload.wire) (.other "idempotencyKey") =
    some (textJson job.idempotencyKey) := by
  simp [nestJob, IngestJob.wire, getOrNull, Dict.get?_insertAll, lookup]

theorem get?_nested_source {values : StringMap} (has : job.source = some values) (filled : values.entries ≠ []) :
    Dict.get? (nestJob job.wire payload.wire) (.other "source") = some (mapJson (some values)) := by
  have truthy : (mapJson (some values)).truthy = true := by
    simpa [mapJson, Json.truthy] using filled
  simp [nestJob, IngestJob.wire, getOr, Dict.get?_insertAll, lookup, has, Option.filter, truthy]

theorem get?_package_kind (kind : payload.kind = some "redacted_rag_ready_document") :
    Dict.get? (nestedPackage payload.wire) (.field .kind) = some (.str "redacted_rag_ready_document") := by
  simp [nestedPackage, DocumentPayload.wire, getOr, Dict.get?_insertAll, lookup, kind, textJson,
    Option.filter, Json.truthy]

theorem get?_document_body : Dict.get? (nestedDocument payload.wire) (.field .body) =
    some (textJson payload.body) := by
  simp [nestedDocument, DocumentPayload.wire, getOrNull, Dict.get?_insertAll, lookup]

theorem get?_document_filename : Dict.get? (nestedDocument payload.wire) (.other "filename") =
    some (textJson payload.filename) := by
  simp [nestedDocument, DocumentPayload.wire, getOrNull, Dict.get?_insertAll, lookup]

/-- The metadata, where it has an entry. -/
theorem get?_document_metadata : (Dict.get? (nestedDocument payload.wire) (.other "metadata")).filter Json.truthy =
    (some (mapJson payload.metadata)).filter Json.truthy := by
  have read : Dict.get? (nestedDocument payload.wire) (.other "metadata") =
      some (((some (mapJson payload.metadata)).filter Json.truthy).getD (.obj [])) := by
    simp [nestedDocument, DocumentPayload.wire, getOr, Dict.get?_insertAll, lookup]
  rw [read]
  cases (mapJson payload.metadata).truthy.eq_false_or_eq_true with
  | inl filled => simp [Option.filter, filled]
  | inr empty =>
      have nothing : (Json.obj []).truthy = false := rfl
      simp [Option.filter, empty, nothing]

theorem lacks_textJson {d : Doc} {key : Key} {text : Option String} (read : Dict.get? d key = some (textJson text)) :
    lacks d key ↔ given text = false := by
  simp [lacks, read, Option.filter, truthy_textJson]

theorem validateMetadata_eq_ok : validateMetadata (nestedDocument payload.wire) = .ok () ↔
    plainKeys payload.metadata = true := by
  unfold validateMetadata
  rw [get?_document_metadata]
  cases payload.metadata with
  | none => simp [mapJson, Option.filter, Json.truthy, plainKeys]
  | some values =>
      by_cases empty : values.entries = []
      · simp [mapJson, Option.filter, Json.truthy, plainKeys, empty]
      · simp [mapJson, Option.filter, Json.truthy, plainKeys, empty, assertNoSecretLikeMetadata_eq_ok]

theorem hasContentHash_nested {text : String} (has : job.contentHash = some text) (like : hashLike text = true) :
    hasContentHash (nestJob job.wire payload.wire) = .ok true := by
  simp only [hashLike, Bool.and_eq_true] at like
  simp [hasContentHash, get?_nested_contentHash, has, textJson, like.1]

/-- The worker's own demands decide whether it takes a checked job. -/
theorem validate_nested (checked : Checked job) (has : job.payload = some payload) :
    validateIngressPayload (nestJob job.wire payload.wire) = .ok () ↔
      given payload.filename = true ∧ given job.idempotencyKey = true ∧ plainKeys payload.metadata = true := by
  obtain ⟨values, source, filled⟩ := checked.source
  obtain ⟨p, same, kind, -, body⟩ := checked.payload
  obtain rfl : payload = p := Option.some.inj (has.symm.trans same)
  obtain ⟨text, hash, like⟩ := checked.contentHash
  have isMap : isMapping (some (mapJson (some values))) = true := rfl
  simp [validateIngressPayload, get?_nested_schemaVersion, get?_nested_source source filled, isMap,
    get?_nestJob_payload, mappingOf_json, get?_package_kind kind, get?_nestedPackage_document,
    validateDocument, lacks_textJson get?_document_body, lacks_textJson get?_document_filename,
    hasContentHash_nested hash like, lacks_textJson get?_nested_targetProfile,
    lacks_textJson get?_nested_kind, lacks_textJson get?_nested_idempotencyKey, body,
    checked.targetProfile, checked.kind, bind_eq_ok, validateMetadata_eq_ok]

theorem exists_mappingOf_metadata :
    ∃ metadata, mappingOf (Dict.get? (nestedDocument payload.wire) (.other "metadata")) = .ok metadata := by
  have read : Dict.get? (nestedDocument payload.wire) (.other "metadata") =
      some (getOr payload.wire (.other "metadata") (.obj [])) := by
    simp [nestedDocument, Dict.get?_insertAll, lookup]
  have written : Dict.get? payload.wire (.other "metadata") = some (mapJson payload.metadata) := by
    simp [DocumentPayload.wire, Dict.get?_insertAll, lookup]
  rw [read, getOr, written]
  cases payload.metadata with
  | none => exact ⟨∅, rfl⟩
  | some values =>
      rw [Option.filter]
      split
      · exact ⟨_, rfl⟩
      · exact ⟨∅, rfl⟩

/-- The document of a checked job that the worker takes. -/
theorem document_nested (checked : Checked job)
    (valid : validateIngressPayload (nestJob job.wire payload.wire) = .ok ()) :
    ∃ source metadata, documentFromIngressPayload (nestJob job.wire payload.wire) =
      .ok (readDocument (nestJob job.wire payload.wire) (nestedPackage payload.wire)
        (nestedDocument payload.wire) source metadata) := by
  obtain ⟨values, source, filled⟩ := checked.source
  obtain ⟨metadata, read⟩ : ∃ metadata,
      mappingOf (Dict.get? (nestedDocument payload.wire) (.other "metadata")) = .ok metadata :=
    exists_mappingOf_metadata
  refine ⟨Dict.insertAll ∅ (values.entries.map fun entry => (entry.1, textJson entry.2)), metadata, ?_⟩
  simp only [documentFromIngressPayload, valid, ok_bind, get?_nestJob_payload, mappingOf_json,
    get?_nestedPackage_document, get?_nested_source source filled, read, pure_eq_ok]
  rfl

end Nested

/-! ## Requests the worker takes -/

theorem some_text_of_read {d : Doc} {key : Key} {text : Option String}
    (read : Dict.get? d key = some (textJson text)) (filled : given text = true) :
    text = some (getOrNull d key).text := by
  cases text with
  | none => cases filled
  | some text => simp [getOrNull, read, textJson, Json.text]

theorem carries_of_reads {request : EnqueueRequest} {payload wire document source metadata : Doc}
    (body : request.toIngestJob.payload.bind (·.body) = some (getOrNull document (.field .body)).text)
    (contentHash : request.contentHash = some (getOrNull payload (.other "contentHash")).text)
    (kind : request.kind = some (getOrNull payload (.field .kind)).text)
    (targetProfile : request.targetProfile = some (getOrNull payload (.other "targetProfile")).text)
    (idempotencyKey : request.idempotencyKey = some (getOrNull payload (.other "idempotencyKey")).text) :
    Carries (readDocument payload wire document source metadata) request :=
  ⟨body, contentHash, kind, targetProfile, idempotencyKey⟩

theorem carries_nested {request : EnqueueRequest} {payload : DocumentPayload}
    (checked : Checked request.toIngestJob) (has : request.toIngestJob.payload = some payload)
    (keyed : given request.idempotencyKey = true) (source metadata : Doc) :
    Carries (readDocument (nestJob request.toIngestJob.wire payload.wire) (nestedPackage payload.wire)
      (nestedDocument payload.wire) source metadata) request := by
  obtain ⟨p, same, -, -, body⟩ := checked.payload
  obtain rfl : payload = p := Option.some.inj (has.symm.trans same)
  obtain ⟨text, hash, like⟩ := checked.contentHash
  have hashed : given request.toIngestJob.contentHash = true := by
    simpa [hash, given] using hashLike_nonempty like
  apply carries_of_reads
  · rw [has]
    exact some_text_of_read get?_document_body body
  · exact some_text_of_read get?_nested_contentHash hashed
  · exact some_text_of_read get?_nested_kind checked.kind
  · exact some_text_of_read get?_nested_targetProfile checked.targetProfile
  · exact some_text_of_read get?_nested_idempotencyKey keyed

theorem admitted_processable_iff {py : Platform} {denylist : List NamedPattern} {request : EnqueueRequest}
    (admitted : Admitted py denylist request) : Processable request ↔ WorkerReady request := by
  have clean := (List.append_eq_nil_iff.mp admitted.2).1
  have checked := checked_of_validate clean
  obtain ⟨payload, has, -⟩ := checked.payload
  have asked : WorkerReady request ↔ validateIngressPayload (nestJob request.toIngestJob.wire payload.wire) = .ok () := by
    rw [validate_nested checked has, WorkerReady, has]
    simp only [Option.any_some, Bool.and_eq_true]
    constructor
    · rintro ⟨⟨named, plain⟩, keyed⟩
      exact ⟨named, keyed, plain⟩
    · rintro ⟨named, keyed, plain⟩
      exact ⟨⟨named, plain⟩, keyed⟩
  rw [asked, Processable, normalize_wire has]
  constructor
  · rintro ⟨document, built, -⟩
    simp only [documentFromIngressPayload, bind_eq_ok] at built
    obtain ⟨⟨⟩, valid, -⟩ := built
    exact valid
  · intro valid
    obtain ⟨source, metadata, built⟩ := document_nested checked valid
    exact ⟨_, built, carries_nested checked has ((validate_nested checked has).mp valid).2.1 source metadata⟩

/-! ## A request with a key and one without -/

/-- A request as the API's contract describes it; the key may be left out. -/
def chunkRequest (idempotencyKey : Option String) : EnqueueRequest where
  schemaVersion := some "rag_ingress_enqueue.v1"
  source := some (Dict.insertAll ∅ [(.field .provider, some "codex"), (.field .project, some "neurons")])
  payload := some
    { kind := some "redacted_rag_ready_document"
      redactionVersion := some "redaction.v2"
      document := some ⟨some "chunk.md", some "text/markdown", some "schema_version: 1 result_type: a", none⟩ }
  contentHash := some (sha256Hash referencePlatform (.text "schema_version: 1 result_type: a"))
  targetProfile := some "index-transcript-memory"
  kind := some "conversation_chunk"
  idempotencyKey := idempotencyKey

theorem keyed_request_processable :
    Admitted referencePlatform [] (chunkRequest (some "key")) ∧ Processable (chunkRequest (some "key")) := by
  have admitted : Admitted referencePlatform [] (chunkRequest (some "key")) := by decide +kernel
  exact ⟨admitted, (admitted_processable_iff admitted).mpr (by decide +kernel)⟩

/-- The API admits a request without a key, and the worker raises on its message. -/
theorem keyless_request_not_processable :
    Admitted referencePlatform [] (chunkRequest none) ∧
    (documentFromIngressPayload (normalizeIngestJobPayload (chunkRequest none).toIngestJob.wire)).isOk = false ∧
    ¬ Processable (chunkRequest none) := by
  have raised : (documentFromIngressPayload
      (normalizeIngestJobPayload (chunkRequest none).toIngestJob.wire)).isOk = false := by decide +kernel
  refine ⟨by decide +kernel, raised, ?_⟩
  rintro ⟨document, built, -⟩
  rw [built] at raised
  cases raised

end Neurons.Queue
