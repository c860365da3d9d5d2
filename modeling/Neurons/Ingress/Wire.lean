import Neurons.Ingress.Acceptance

/-! # Messages of the ingress queue

The Java ingress publishes a flat job; the worker's pipeline reads a nested enqueue payload.
`normalize_ingest_job_payload` turns the one into the other and leaves a payload that is
nested already as it is.
-/

namespace Neurons.Ingress

open Neurons.Lib
open Neurons.Source

/-- `payload.get(key)`, with `None` for a key that is not there. -/
def getOrNull (payload : Doc) (key : Key) : Json := (Dict.get? payload key).getD .null

/-- `payload.get(key) or fallback`. -/
def getOr (payload : Doc) (key : Key) (fallback : Json) : Json :=
  ((Dict.get? payload key).filter Json.truthy).getD fallback

/-- The package of a flat job: a mapping without a document. -/
def flatPackage? (message : Doc) : Option Doc :=
  match Dict.get? message (.other "payload") with
  | some (.obj fields) =>
      let pkg : Doc := Dict.insertAll ∅ fields
      if (Dict.get? pkg (.other "document")).isSome then none else some pkg
  | _ => none

/-- `payload.document` of a flat job. -/
def nestedDocument (pkg : Doc) : Doc := Dict.insertAll ∅
  [(.other "filename", getOrNull pkg (.other "filename")),
    (.other "contentType", getOr pkg (.other "contentType") (.str "text/markdown")),
    (.field .body, getOrNull pkg (.field .body)),
    (.other "metadata", getOr pkg (.other "metadata") (.obj []))]

/-- `payload` of a flat job. -/
def nestedPackage (pkg : Doc) : Doc := Dict.insertAll ∅
  [(.field .kind, getOr pkg (.field .kind) (.str "redacted_rag_ready_document")),
    (.other "redactionVersion", getOr pkg (.other "redactionVersion") (.str "redaction.v2")),
    (.other "document", (nestedDocument pkg).json)]

/-- The nested payload of a flat job. -/
def nestJob (message pkg : Doc) : Doc := Dict.insertAll ∅
  [(.other "schemaVersion", .str "rag_ingress_enqueue.v1"),
    (.other "source", getOr message (.other "source") (.obj [])),
    (.other "payload", (nestedPackage pkg).json),
    (.other "contentHash", getOrNull message (.other "contentHash")),
    (.other "targetProfile", getOrNull message (.other "targetProfile")),
    (.field .kind, getOrNull message (.field .kind)),
    (.other "idempotencyKey", getOrNull message (.other "idempotencyKey"))]

def normalizeIngestJobPayload (message : Doc) : Doc :=
  match flatPackage? message with
  | some pkg => nestJob message pkg
  | none => message

/-- The message is no flat job. -/
def Nested (message : Doc) : Prop := flatPackage? message = none

instance (message : Doc) : Decidable (Nested message) := by
  unfold Nested
  infer_instance

theorem get?_nestedPackage_document (pkg : Doc) :
    Dict.get? (nestedPackage pkg) (.other "document") = some (nestedDocument pkg).json := by
  rw [nestedPackage, Dict.get?_insertAll _ (by simp)]
  simp [lookup]

theorem get?_nestJob_payload (message pkg : Doc) :
    Dict.get? (nestJob message pkg) (.other "payload") = some (nestedPackage pkg).json := by
  rw [nestJob, Dict.get?_insertAll _ (by simp)]
  simp [lookup]

/-- What a flat job is turned into is nested. -/
theorem nested_nestJob (message pkg : Doc) : Nested (nestJob message pkg) := by
  simp only [Nested, flatPackage?, get?_nestJob_payload, Doc.json, Dict.insertAll_entries,
    get?_nestedPackage_document, Option.isSome_some, if_true]

/-- A message is left as it is exactly when it is nested. -/
theorem normalize_eq_self_iff {message : Doc} : normalizeIngestJobPayload message = message ↔ Nested message := by
  unfold normalizeIngestJobPayload Nested
  cases flat : flatPackage? message with
  | none => simp
  | some pkg =>
      simp only [reduceCtorEq, iff_false]
      intro same
      have nested := nested_nestJob message pkg
      rw [same] at nested
      rw [Nested, flat] at nested
      cases nested

/-- Python takes a message for its own normal form exactly when it is nested. -/
theorem equal_normalize_iff {message : Doc} :
    Doc.equal (normalizeIngestJobPayload message) message = true ↔ Nested message := by
  constructor
  · intro same
    unfold normalizeIngestJobPayload at same
    unfold Nested
    cases flat : flatPackage? message with
    | none => rfl
    | some pkg =>
        exfalso
        simp only [flat] at same
        -- the package of the nested job has a key that the package of the message has not
        obtain ⟨_, shape, every⟩ := Json.equal_obj same
        cases shape
        obtain ⟨⟨key, value⟩, mem, rfl, packages⟩ :=
          every _ (Dict.mem_entries_iff.mpr (get?_nestJob_payload message pkg))
        obtain ⟨fields, rfl, every⟩ := Json.equal_obj packages
        obtain ⟨⟨key, document⟩, mem', rfl, -⟩ :=
          every _ (Dict.mem_entries_iff.mpr (get?_nestedPackage_document pkg))
        have held : Dict.get? message (.other "payload") = some (.obj fields) := Dict.mem_entries_iff.mp mem
        have there := Dict.isSome_get?_insertAll (d := ∅) (.inr ⟨_, mem'⟩)
        simp only [flatPackage?, held, there, if_true] at flat
        cases flat
  · intro nested
    rw [normalize_eq_self_iff.mpr nested]
    exact Json.equal_self _

/-- Both forms of a message have one idempotency key. -/
theorem idempotencyKeyOf_normalize (message : Doc) :
    idempotencyKeyOf (normalizeIngestJobPayload message) = idempotencyKeyOf message := by
  unfold normalizeIngestJobPayload
  cases flatPackage? message with
  | none => rfl
  | some pkg =>
      have key : Dict.get? (nestJob message pkg) (.other "idempotencyKey") =
          some (getOrNull message (.other "idempotencyKey")) := by
        unfold nestJob
        rw [Dict.get?_insertAll _ (by simp)]
        simp [lookup]
      simp only [idempotencyKeyOf, firstText, firstOf, List.findSome?_cons, List.findSome?_nil, key]
      cases found : Dict.get? message (.other "idempotencyKey") with
      | none =>
          simp only [getOrNull, found]
          rfl
      | some value => simp [getOrNull, found]

end Neurons.Ingress
