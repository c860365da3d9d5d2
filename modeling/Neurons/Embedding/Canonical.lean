import Mathlib.Data.List.Chain
import Neurons.JsonSize
import Neurons.Lib.Utf8

/-! # Canonical embedding inputs

`local_embedding/canonical.py`: a text is split into chunks at its UTF-8 bytes, and the chunks are
sent in batches bounded by their number, their bytes and the size of the request that carries them.
-/

namespace Neurons.Embedding

open Neurons.Lib.Utf8

/-- What the preparation of an input raises. -/
inductive InputError where
  /-- `CanonicalEmbeddingInputError` -/
  | canonical (code message : String)
  | unicodeDecode
  deriving DecidableEq, Repr

def utf8Length (text : String) : ℕ := (encode text.toList).length

/-! ## Chunks -/

section Split

variable (raw : List UInt8) (maxChunkBytes : ℕ)

/-- Where the chunk that starts at an offset ends. -/
def chunkEnd (offset : ℕ) : ℕ :=
  let stop := min (offset + maxChunkBytes) raw.length
  if stop < raw.length then backUp raw offset stop else stop

/-- The chunks from an offset on. -/
def splitFrom (offset : ℕ) : Except InputError (List String) :=
  if offset < raw.length then
    if chunkEnd raw maxChunkBytes offset ≤ offset then
      .error (.canonical "utf8_boundary_error" "unable to advance UTF-8 chunk boundary")
    else
      match decode ((raw.drop offset).take (chunkEnd raw maxChunkBytes offset - offset)) with
      | none => .error .unicodeDecode
      | some chunk => do return String.ofList chunk :: (← splitFrom (chunkEnd raw maxChunkBytes offset))
  else .ok []
termination_by raw.length - offset

end Split

/-- `split_utf8_chunks_v1` -/
def splitUtf8ChunksV1 (text : String) (maxChunkBytes : ℕ) : Except InputError (List String) :=
  if text = "" then .error (.canonical "empty_input" "embedding input must not be empty")
  else if maxChunkBytes < 4 then .error (.canonical "invalid_chunk_limit" "max_chunk_bytes must be >= 4")
  else splitFrom (encode text.toList) maxChunkBytes 0

/-- A chunk ends where a character starts, behind its own start. -/
theorem chunkEnd_encode {text : List Char} {maxChunkBytes offset : ℕ} (enough : 4 ≤ maxChunkBytes)
    (start : Boundary text offset) (inside : offset < (encode text).length) :
    Boundary text (chunkEnd (encode text) maxChunkBytes offset) ∧
      offset < chunkEnd (encode text) maxChunkBytes offset ∧
      chunkEnd (encode text) maxChunkBytes offset ≤ offset + maxChunkBytes ∧
      chunkEnd (encode text) maxChunkBytes offset ≤ (encode text).length := by
  rw [chunkEnd]
  split
  · next cut =>
      obtain ⟨found, above, below, last⟩ := backUp_encode start (by omega) cut
      obtain ⟨q, starts, behind, near⟩ := start.next inside
      have progress := last q starts (by omega)
      exact ⟨found, by omega, by omega, by omega⟩
  · next whole =>
      have all : min (offset + maxChunkBytes) (encode text).length = (encode text).length := by omega
      rw [all]
      exact ⟨.stop text, inside, by omega, le_rfl⟩

/-- From where a character starts on, the text is split into chunks that are not empty and fit. -/
theorem splitFrom_encode {text : List Char} {maxChunkBytes offset : ℕ} (enough : 4 ≤ maxChunkBytes)
    (start : Boundary text offset) :
    ∃ chunks, splitFrom (encode text) maxChunkBytes offset = .ok chunks ∧
      (∀ chunk ∈ chunks, chunk ≠ "" ∧ utf8Length chunk ≤ maxChunkBytes) ∧
      encode (chunks.flatMap String.toList) = (encode text).drop offset := by
  fun_induction splitFrom (encode text) maxChunkBytes offset with
  | case1 offset inside stuck =>
      have progress := (chunkEnd_encode enough start inside).2.1
      omega
  | case2 offset inside progress unread =>
      obtain ⟨stop, -, -, -⟩ := chunkEnd_encode enough start inside
      obtain ⟨part, piece, -⟩ := encode_between start stop (by omega)
      rw [piece, decode_encode] at unread
      cases unread
  | case3 offset inside progress chunk read ih =>
      obtain ⟨stop, -, near, -⟩ := chunkEnd_encode enough start inside
      obtain ⟨part, piece, split⟩ := encode_between start stop (by omega)
      rw [piece, decode_encode] at read
      cases read
      obtain ⟨chunks, done, sized, whole⟩ := ih stop
      have bytes : (encode chunk).length = chunkEnd (encode text) maxChunkBytes offset - offset := by
        have limit := (chunkEnd_encode enough start inside).2.2.2
        rw [← piece, List.length_take, List.length_drop]
        omega
      refine ⟨String.ofList chunk :: chunks, by rw [done]; rfl, ?_, ?_⟩
      · rw [List.forall_mem_cons]
        refine ⟨⟨?_, ?_⟩, sized⟩
        · intro empty
          have none : chunk = [] := by simpa using congrArg String.toList empty
          rw [none, encode_nil, List.length_nil] at bytes
          omega
        · rw [utf8Length, String.toList_ofList]
          omega
      · rw [List.flatMap_cons, encode_append, whole, String.toList_ofList, ← split]
  | case4 offset outside =>
      refine ⟨[], rfl, by simp, ?_⟩
      rw [List.drop_eq_nil_of_le (by omega)]
      rfl

/-- A text that is not empty is split whenever four bytes fit a chunk, into its parts in order. -/
theorem splitUtf8ChunksV1_eq_ok {text : String} {maxChunkBytes : ℕ} (filled : text ≠ "") (enough : 4 ≤ maxChunkBytes) :
    ∃ chunks, splitUtf8ChunksV1 text maxChunkBytes = .ok chunks ∧
      (∀ chunk ∈ chunks, chunk ≠ "" ∧ utf8Length chunk ≤ maxChunkBytes) ∧
      chunks.flatMap String.toList = text.toList := by
  obtain ⟨chunks, done, sized, whole⟩ := splitFrom_encode enough (.start text.toList)
  refine ⟨chunks, ?_, sized, encode_injective whole⟩
  rw [splitUtf8ChunksV1, if_neg filled, if_neg (by omega), done]

/-! ## Batches -/

/-- The limits of a request and the fields of its body. -/
structure BatchLimits where
  model : String
  encodingFormat : Option String
  dimensions : Option Int
  maxChunkBytes : ℕ
  maxBatchItems : ℕ
  maxBatchUtf8Bytes : ℕ
  maxRequestBodyBytes : ℕ

section Batches

variable (limits : BatchLimits)

/-- `serialize_embedding_request_body` -/
def requestBody (chunks : List String) : Json :=
  .obj (([(.other "model", .str limits.model), (.other "input", .arr (chunks.map .str))] :
      List (Key × Json)) ++
    (limits.encodingFormat.map fun format => (Key.other "encoding_format", Json.str format)).toList ++
    (limits.dimensions.map fun dimensions => (Key.other "dimensions", Json.num dimensions)).toList)

def bodyBytes (chunks : List String) : ℕ := Json.size Json.compact (requestBody limits chunks)

/-- A batch keeps the limits of a request. -/
def BatchLimits.Fits (batch : List String) : Prop :=
  batch.length ≤ limits.maxBatchItems ∧ (batch.map utf8Length).sum ≤ limits.maxBatchUtf8Bytes ∧
    bodyBytes limits batch ≤ limits.maxRequestBodyBytes

instance (batch : List String) : Decidable (limits.Fits batch) := by
  unfold BatchLimits.Fits
  infer_instance

/-- The batches that are closed, the one that is open and its bytes. -/
structure Plan where
  batches : List (List String)
  currentBatch : List String
  currentUtf8Bytes : ℕ

def checkChunk (chunk : String) : Except InputError Unit :=
  if chunk = "" then .error (.canonical "invalid_chunk" "chunk must be a non-empty string")
  else if limits.maxChunkBytes < utf8Length chunk then
    .error (.canonical "chunk_too_large" "single chunk exceeds per-item UTF-8 byte limit")
  else if limits.maxRequestBodyBytes < bodyBytes limits [chunk] then
    .error (.canonical "single_chunk_envelope_too_large" "single chunk exceeds maximum JSON request body size")
  else .ok ()

/-- One round of the loop of `plan_request_batches_v1`. -/
def addChunk (plan : Plan) (chunk : String) : Except InputError Plan := do
  checkChunk limits chunk
  if plan.currentBatch = [] then
    return { plan with currentBatch := [chunk], currentUtf8Bytes := utf8Length chunk }
  else
    let candidateBatch := plan.currentBatch ++ [chunk]
    let candidateUtf8Bytes := plan.currentUtf8Bytes + utf8Length chunk
    if candidateBatch.length ≤ limits.maxBatchItems ∧ candidateUtf8Bytes ≤ limits.maxBatchUtf8Bytes ∧
        bodyBytes limits candidateBatch ≤ limits.maxRequestBodyBytes then
      return { plan with currentBatch := candidateBatch, currentUtf8Bytes := candidateUtf8Bytes }
    else
      return ⟨plan.batches ++ [plan.currentBatch], [chunk], utf8Length chunk⟩

/-- `plan_request_batches_v1` -/
def planRequestBatchesV1 (chunks : List String) : Except InputError (List (List String)) :=
  if chunks = [] then .error (.canonical "empty_chunks" "at least one chunk is required")
  else do
    let plan ← chunks.foldlM (addChunk limits) ⟨[], [], 0⟩
    return if plan.currentBatch = [] then plan.batches else plan.batches ++ [plan.currentBatch]

end Batches

section Planned

variable {limits : BatchLimits}

/-- The first chunk of the next batch does not fit the batch before it. -/
def Full (limits : BatchLimits) (batch next : List String) : Prop :=
  ∀ chunk ∈ next.head?, ¬ limits.Fits (batch ++ [chunk])

/-- What the loop has made of the chunks so far. -/
structure Plan.Covers (limits : BatchLimits) (chunks : List String) (plan : Plan) : Prop where
  whole : plan.batches.flatten ++ plan.currentBatch = chunks
  bytes : plan.currentUtf8Bytes = (plan.currentBatch.map utf8Length).sum
  fits : ∀ batch ∈ plan.batches ++ [plan.currentBatch], batch ≠ [] ∧ limits.Fits batch
  full : (plan.batches ++ [plan.currentBatch]).IsChain (Full limits)

theorem checkChunk_eq_ok {chunk : String} (checked : checkChunk limits chunk = .ok ()) :
    chunk ≠ "" ∧ utf8Length chunk ≤ limits.maxChunkBytes ∧ bodyBytes limits [chunk] ≤ limits.maxRequestBodyBytes := by
  unfold checkChunk at checked
  split at checked
  · cases checked
  · next filled =>
      split at checked
      · cases checked
      · next small =>
          split at checked
          · cases checked
          · next body => exact ⟨filled, by omega, by omega⟩

theorem addChunk_eq_ok {plan plan' : Plan} {chunk : String} (added : addChunk limits plan chunk = .ok plan') :
    checkChunk limits chunk = .ok () ∧
      ((plan.currentBatch = [] ∧ plan' = { plan with currentBatch := [chunk], currentUtf8Bytes := utf8Length chunk }) ∨
        plan.currentBatch ≠ [] ∧
          (plan.currentBatch.length + 1 ≤ limits.maxBatchItems ∧
              plan.currentUtf8Bytes + utf8Length chunk ≤ limits.maxBatchUtf8Bytes ∧
              bodyBytes limits (plan.currentBatch ++ [chunk]) ≤ limits.maxRequestBodyBytes ∧
              plan' = { plan with currentBatch := plan.currentBatch ++ [chunk],
                                  currentUtf8Bytes := plan.currentUtf8Bytes + utf8Length chunk } ∨
            ¬ (plan.currentBatch.length + 1 ≤ limits.maxBatchItems ∧
              plan.currentUtf8Bytes + utf8Length chunk ≤ limits.maxBatchUtf8Bytes ∧
              bodyBytes limits (plan.currentBatch ++ [chunk]) ≤ limits.maxRequestBodyBytes) ∧
              plan' = ⟨plan.batches ++ [plan.currentBatch], [chunk], utf8Length chunk⟩)) := by
  unfold addChunk at added
  cases checked : checkChunk limits chunk with
  | error e => simp [checked, bind, Except.bind] at added
  | ok _ =>
      simp only [checked, bind, Except.bind, List.length_append, List.length_singleton] at added
      refine ⟨rfl, ?_⟩
      split at added
      · next empty => exact .inl ⟨empty, (Except.ok.inj added).symm⟩
      · next filled =>
          refine .inr ⟨filled, ?_⟩
          split at added
          · next fits => exact .inl ⟨fits.1, fits.2.1, fits.2.2, (Except.ok.inj added).symm⟩
          · next big => exact .inr ⟨big, (Except.ok.inj added).symm⟩

theorem BatchLimits.fits_singleton {chunk : String} (items : 1 ≤ limits.maxBatchItems)
    (bytes : utf8Length chunk ≤ limits.maxBatchUtf8Bytes) (checked : checkChunk limits chunk = .ok ()) :
    limits.Fits [chunk] := by
  have body := (checkChunk_eq_ok checked).2.2
  exact ⟨items, by simpa using bytes, body⟩

/-- A round keeps the batches of a plan. -/
theorem addChunk_covers {plan plan' : Plan} {chunks : List String} {chunk : String} (items : 1 ≤ limits.maxBatchItems)
    (small : utf8Length chunk ≤ limits.maxBatchUtf8Bytes)
    (covers : plan.currentBatch = [] ∧ plan.batches = [] ∧ chunks = [] ∨ plan.Covers limits chunks)
    (added : addChunk limits plan chunk = .ok plan') : plan'.Covers limits (chunks ++ [chunk]) := by
  obtain ⟨checked, cases⟩ := addChunk_eq_ok added
  have alone := BatchLimits.fits_singleton items small checked
  rcases covers with ⟨empty, none, rfl⟩ | covers
  · rcases cases with ⟨-, rfl⟩ | ⟨filled, -⟩
    · exact ⟨by simp [none], by simp, by simpa [none] using alone, by simp [none]⟩
    · exact absurd empty filled
  · rcases cases with ⟨empty, -⟩ | ⟨filled, ⟨count, bytes, body, rfl⟩ | ⟨big, rfl⟩⟩
    · exact absurd empty (covers.fits _ (by simp)).1
    · have fits : limits.Fits (plan.currentBatch ++ [chunk]) :=
        ⟨by simpa using count, by simpa [covers.bytes] using bytes, body⟩
      refine ⟨?_, ?_, ?_, ?_⟩
      · rw [← List.append_assoc, covers.whole]
      · simp [covers.bytes]
      · intro batch mem
        rcases List.mem_append.mp mem with closed | last
        · exact covers.fits batch (List.mem_append_left _ closed)
        · rw [List.mem_singleton.mp last]
          exact ⟨by simp, fits⟩
      · have full := covers.full
        rw [List.isChain_append] at full ⊢
        refine ⟨full.1, by simp, ?_⟩
        intro batch last next first
        cases first
        have before := full.2.2 batch last plan.currentBatch (by simp)
        intro first' head
        apply before first'
        rwa [List.head?_append_of_ne_nil _ filled] at head
    · refine ⟨?_, ?_, ?_, ?_⟩
      · simp only [List.flatten_append, List.flatten_singleton]
        rw [covers.whole]
      · simp
      · intro batch mem
        rcases List.mem_append.mp mem with closed | last
        · exact covers.fits batch closed
        · rw [List.mem_singleton.mp last]
          exact ⟨by simp, alone⟩
      · have full := covers.full
        refine full.append (by simp) ?_
        intro batch last next first
        cases first
        rw [List.getLast?_concat] at last
        cases last
        intro chunk' head
        cases head
        intro fits
        exact big ⟨by simpa using fits.1, by simpa [covers.bytes] using fits.2.1, fits.2.2⟩

theorem Plan.Covers.run {plan plan' : Plan} {chunks rest : List String} (items : 1 ≤ limits.maxBatchItems)
    (small : ∀ chunk ∈ rest, utf8Length chunk ≤ limits.maxBatchUtf8Bytes) (covers : plan.Covers limits chunks)
    (done : rest.foldlM (addChunk limits) plan = .ok plan') : plan'.Covers limits (chunks ++ rest) := by
  induction rest generalizing plan chunks with
  | nil =>
      cases done
      rwa [List.append_nil]
  | cons chunk rest ih =>
      rw [List.foldlM_cons] at done
      cases added : addChunk limits plan chunk with
      | error e => simp [added, bind, Except.bind] at done
      | ok next =>
          simp only [added, bind, Except.bind] at done
          rw [List.forall_mem_cons] at small
          have all := ih small.2 (addChunk_covers items small.1 (.inr covers) added) done
          rwa [List.append_assoc] at all

/-- The batches of a plan: in order, none empty, each within the limits and none open for the next chunk. -/
theorem planRequestBatchesV1_eq_ok {chunks : List String} {batches : List (List String)}
    (items : 1 ≤ limits.maxBatchItems) (small : ∀ chunk ∈ chunks, utf8Length chunk ≤ limits.maxBatchUtf8Bytes)
    (planned : planRequestBatchesV1 limits chunks = .ok batches) :
    batches.flatten = chunks ∧ (∀ batch ∈ batches, batch ≠ [] ∧ limits.Fits batch) ∧
      batches.IsChain (Full limits) := by
  cases chunks with
  | nil => simp [planRequestBatchesV1] at planned
  | cons chunk rest =>
      rw [List.forall_mem_cons] at small
      rw [planRequestBatchesV1, if_neg (by simp), List.foldlM_cons] at planned
      cases added : addChunk limits ⟨[], [], 0⟩ chunk with
      | error e => simp [added, bind, Except.bind] at planned
      | ok first =>
          simp only [added, bind, Except.bind] at planned
          cases done : rest.foldlM (addChunk limits) first with
          | error e => simp [done] at planned
          | ok plan =>
              have start : first.Covers limits [chunk] := addChunk_covers items small.1 (.inl ⟨rfl, rfl, rfl⟩) added
              have covers : plan.Covers limits (chunk :: rest) := start.run items small.2 done
              have filled := (covers.fits plan.currentBatch (by simp)).1
              simp only [done, if_neg filled] at planned
              cases planned
              refine ⟨?_, covers.fits, covers.full⟩
              rw [List.flatten_append, List.flatten_singleton, covers.whole]

/-- Every text is split into its parts, each of some bytes and at most as many as are allowed; and the
    batches of a plan hold the chunks in order, none is empty, each keeps the limits, and none could have
    held the first chunk of the next. -/
theorem chunks_and_batches :
    (∀ (text : String) (maxChunkBytes : ℕ), text ≠ "" → 4 ≤ maxChunkBytes →
      ∃ chunks, splitUtf8ChunksV1 text maxChunkBytes = .ok chunks ∧
        (∀ chunk ∈ chunks, chunk ≠ "" ∧ utf8Length chunk ≤ maxChunkBytes) ∧
        chunks.flatMap String.toList = text.toList) ∧
    (∀ (limits : BatchLimits) (chunks : List String) (batches : List (List String)), 1 ≤ limits.maxBatchItems →
      (∀ chunk ∈ chunks, utf8Length chunk ≤ limits.maxBatchUtf8Bytes) →
      planRequestBatchesV1 limits chunks = .ok batches →
      batches.flatten = chunks ∧ (∀ batch ∈ batches, batch ≠ [] ∧ limits.Fits batch) ∧
        batches.IsChain (Full limits)) :=
  ⟨fun _ _ filled enough => splitUtf8ChunksV1_eq_ok filled enough,
    fun _ _ _ items small planned => planRequestBatchesV1_eq_ok items small planned⟩

def pairLimits : BatchLimits where
  model := "m"
  encodingFormat := none
  dimensions := none
  maxChunkBytes := 8
  maxBatchItems := 2
  maxBatchUtf8Bytes := 8
  maxRequestBodyBytes := 64

theorem chunks_and_batches_pairs :
    (∃ chunks, splitUtf8ChunksV1 "한글" 4 = .ok chunks ∧
      (∀ chunk ∈ chunks, chunk ≠ "" ∧ utf8Length chunk ≤ 4) ∧ chunks.flatMap String.toList = "한글".toList) ∧
    [["한", "a"], ["글"]].IsChain (Full pairLimits) :=
  ⟨chunks_and_batches.1 "한글" 4 (by decide) (by decide),
    (chunks_and_batches.2 pairLimits ["한", "a", "글"] [["한", "a"], ["글"]] (by decide) (by decide)
      (by decide +kernel)).2.2⟩

end Planned

end Neurons.Embedding
