import Neurons.Source.Evidence
import Neurons.Source.ReferencePlatform
import Neurons.Source.Standing

/-! # Two identities of a source document

A put takes a document for one that is stored when their payload identities agree; the session's
source revision tells documents apart by their tokens. The token reads where the document stands
in its session, which the payload identity of an evidence bundle leaves out: a bundle that stays
as it is while the evidence around it grows keeps the position it was first stored with.
-/

namespace Neurons.Source

open Neurons.Lib

/-! ## Tokens -/

/-- What the revision token of a document is a hash of, besides its id. -/
structure RevisionIdentity where
  contentHash : String
  observedAtStart : String
  observedAtEnd : String
  position : Doc
  deriving DecidableEq

def revisionIdentity (d : Doc) : RevisionIdentity :=
  ⟨d.text .contentHash, d.text .observedAtStart, d.text .observedAtEnd, position d⟩

/-- `build_source_revision_token(document, material_hash_field="content_hash")`. -/
def revisionToken (py : Platform) (d : Doc) : String := buildSourceRevisionToken py d (d.text .contentHash)

section Tokens

variable {py : Platform} {d d' : Doc}

theorem position_congr (same : ∀ f ∈ positionFields, d'.get? f = d.get? f) : position d' = position d := by
  rw [position, position]
  congr 1
  exact List.filterMap_congr fun f mem => by rw [same f mem]

theorem SameMaterial.position (same : SameMaterial d d') : Source.position d' = Source.position d :=
  position_congr fun f mem => same.get? (by revert f; decide)

theorem SameMaterial.revisionIdentity (same : SameMaterial d d') :
    Source.revisionIdentity d' = Source.revisionIdentity d := by
  rw [Source.revisionIdentity, Source.revisionIdentity, same.position,
    same.text (by decide : Field.contentHash ∉ bookkeepingFields),
    same.text (by decide : Field.observedAtStart ∉ bookkeepingFields),
    same.text (by decide : Field.observedAtEnd ∉ bookkeepingFields)]

/-- Documents of one id and one revision identity have one token. -/
theorem revisionToken_congr (named : d'.text .id = d.text .id) (same : revisionIdentity d' = revisionIdentity d) :
    revisionToken py d' = revisionToken py d := by
  simp only [revisionIdentity, RevisionIdentity.mk.injEq] at same
  obtain ⟨content, first, last, position⟩ := same
  simp only [revisionToken, buildSourceRevisionToken, named, content, first, last, position]

end Tokens

/-! ## What the payload identity reads -/

section Payload

/-- The position fields that the payload identity of a chunk reads, as integers. -/
def countedFields : List Field := [.turnStartIndex, .turnEndIndex, .partIndex, .partCount, .charStart, .charEnd]

variable (py : Platform) in
/-- The stored document agrees with this one in every field that the payload identity of its type reads:
    of a bundle its coverage and no position, of a chunk its position. -/
structure SamePayload (d stored : Doc) : Prop where
  typed : docType? stored = docType? d
  content : stored.text .contentHash = d.text .contentHash
  started : stored.text .observedAtStart = d.text .observedAtStart
  ended : stored.text .observedAtEnd = d.text .observedAtEnd
  covered : docType? d = some .toolEvidenceBundle → stored.text .coverageHash = d.text .coverageHash
  counted : docType? d = some .conversationChunk → ∀ f ∈ countedFields, intField py stored f = intField py d f

variable {py : Platform} {d stored : Doc}

theorem SamePayload.encoded (same : SamePayload py d stored)
    (source : docType? d ∈ [some SourceDocType.conversationChunk, some .toolEvidenceBundle]) :
    payloadEncoded py stored = payloadEncoded py d := by
  have name : stored.text .docType = d.text .docType := by
    simp only [List.mem_cons, List.not_mem_nil, or_false] at source
    rcases source with typed | typed <;>
      rw [text_docType_eq_iff.mpr typed, text_docType_eq_iff.mpr (same.typed.trans typed)]
  simp only [List.mem_cons, List.not_mem_nil, or_false] at source
  rcases source with typed | typed
  · have counted := same.counted typed
    simp only [countedFields, List.forall_mem_cons, List.not_mem_nil, false_imp_iff, implies_true, and_true] at counted
    obtain ⟨turnStart, turnEnd, partIndex, partCount, charStart, charEnd⟩ := counted
    simp only [payloadEncoded, same.typed, typed, observedFields, name, same.content, same.started, same.ended, turnStart,
      turnEnd, partIndex, partCount, charStart, charEnd]
  · simp only [payloadEncoded, same.typed, typed, observedFields, name, same.content, same.started, same.ended,
      same.covered typed]

/-- A payload that names a type is of a document of that type. -/
theorem text_docType_of_payload {fields : Doc} {name : String}
    (encoded : payloadEncoded py d = .ok (.json fields.json)) (named : fields.get? .docType = some (.str name)) :
    d.text .docType = name := by
  unfold payloadEncoded at encoded
  split at encoded
  · cases Doc.json_injective (Encoded.json.inj (Except.ok.inj encoded))
    rw [Doc.get?_without, if_neg (by decide)] at named
    exact Doc.text_of_str named
  · cases Doc.json_injective (Encoded.json.inj (Except.ok.inj encoded))
    simpa [Doc.ofFields, observedFields, Doc.get?_set] using named
  · simp only [bind_eq_ok, pure_eq_ok, Except.ok.injEq, Encoded.json.injEq] at encoded
    obtain ⟨_, -, _, -, _, -, _, -, _, -, _, -, same⟩ := encoded
    cases Doc.json_injective same
    simpa [Doc.ofFields, observedFields, Doc.get?_set] using named
  · split at encoded
    · rename_i f found
      cases Doc.json_injective (Encoded.json.inj (Except.ok.inj encoded))
      have other := List.mem_of_find?_eq_some found
      simp only [List.mem_cons, List.not_mem_nil, or_false] at other
      rcases other with rfl | rfl <;> simp [Doc.ofFields, observedFields, Doc.get?_set] at named
    · cases encoded

/-- Documents of one payload agree in all that it reads. -/
theorem SamePayload.of_encoded {e : Encoded}
    (source : docType? d ∈ [some SourceDocType.conversationChunk, some .toolEvidenceBundle])
    (own : payloadEncoded py d = .ok e) (encoded : payloadEncoded py stored = .ok e) : SamePayload py d stored := by
  simp only [List.mem_cons, List.not_mem_nil, or_false] at source
  rcases source with typed | typed
  · simp only [payloadEncoded, typed, bind_eq_ok, pure_eq_ok, Except.ok.injEq] at own
    obtain ⟨turnStart, first, turnEnd, second, partIndex, third, partCount, fourth, charStart, fifth, charEnd, sixth, rfl⟩ := own
    have name : stored.text .docType = d.text .docType :=
      text_docType_of_payload encoded (by simp [Doc.ofFields, observedFields, Doc.get?_set])
    have alike : docType? stored = some .conversationChunk :=
      text_docType_eq_iff.mp (name.trans (text_docType_eq_iff.mpr typed))
    simp only [payloadEncoded, alike, bind_eq_ok, pure_eq_ok, Except.ok.injEq, Encoded.json.injEq] at encoded
    obtain ⟨turnStart', first', turnEnd', second', partIndex', third', partCount', fourth', charStart', fifth',
      charEnd', sixth', same⟩ := encoded
    have fields := Doc.ofFields_injective (by rfl) (by simp [observedFields]) (Doc.json_injective same)
    simp only [observedFields, List.cons_append, List.nil_append, List.cons.injEq, Prod.mk.injEq, Json.str.injEq,
      Json.num.injEq, true_and, and_true] at fields
    obtain ⟨-, content, started, ended, rfl, rfl, rfl, rfl, rfl, rfl⟩ := fields
    refine ⟨alike.trans typed.symm, content, started, ended, fun bundle => ?_, fun _ => ?_⟩
    · rw [typed] at bundle
      cases bundle
    · simp [countedFields, first, second, third, fourth, fifth, sixth, first', second', third', fourth', fifth', sixth']
  · simp only [payloadEncoded, typed, Except.ok.injEq] at own
    subst own
    have name : stored.text .docType = d.text .docType :=
      text_docType_of_payload encoded (by simp [Doc.ofFields, observedFields, Doc.get?_set])
    have alike : docType? stored = some .toolEvidenceBundle :=
      text_docType_eq_iff.mp (name.trans (text_docType_eq_iff.mpr typed))
    simp only [payloadEncoded, alike, Except.ok.injEq, Encoded.json.injEq] at encoded
    have fields := Doc.ofFields_injective (by rfl) (by simp [observedFields]) (Doc.json_injective encoded)
    simp only [observedFields, List.cons_append, List.nil_append, List.cons.injEq, Prod.mk.injEq, Json.str.injEq,
      true_and, and_true] at fields
    obtain ⟨-, content, covered, started, ended⟩ := fields
    refine ⟨alike.trans typed.symm, content, started, ended, fun _ => covered, fun chunk => ?_⟩
    rw [typed] at chunk
    cases chunk

end Payload

/-! ## Built documents -/

section Built

variable {py : Platform} {fmt : Formats} {d : Doc}

variable (py fmt) in
/-- The chunks and bundles of the builders. -/
inductive BuiltSource (redact : String → String) (d : Doc) : Prop
  | chunk (chunk : TranscriptChunk) (locator : String)
      (built : buildConversationChunkDocument py fmt redact chunk locator = .ok d)
  | bundle (part : BundlePart) (built : buildToolEvidenceBundleDocument py fmt part = .ok d)

/-- A base document has neither the marks of a copy nor a place in the evidence. -/
theorem baseDocument_plain {docType : SourceDocType} {docId provider project sessionIdHash locator : String}
    (built : baseDocument fmt docType docId provider project sessionIdHash locator = .ok d) :
    ∀ f ∈ [Field.sourceSnapshotSchemaVersion, .currentSourceScope, .evidenceIndexStart, .evidenceIndexEnd],
      d.get? f = none := by
  unfold baseDocument at built
  simp only [bind_eq_ok, pure_eq_ok, Except.ok.injEq] at built
  obtain ⟨⟨⟩, -, ⟨⟩, -, label, -, rfl⟩ := built
  simp [Doc.ofFields, Doc.get?_set]

theorem buildConversationChunkDocument_typed {redact : String → String} {chunk : TranscriptChunk} {locator : String}
    (built : buildConversationChunkDocument py fmt redact chunk locator = .ok d) :
    docType? d = some .conversationChunk := by
  unfold buildConversationChunkDocument at built
  simp only [bind_eq_ok] at built
  obtain ⟨⟨⟩, -, base, based, finalized⟩ := built
  rw [← finalize_eq_ok finalized, docType?_eq_some_iff]
  simp [TranscriptChunk.fields, Doc.get?_set, (baseDocument_eq_ok based).typed]

/-- The builders build chunks and bundles. -/
theorem BuiltSource.typed {redact : String → String} (built : BuiltSource py fmt redact d) :
    docType? d ∈ [some SourceDocType.conversationChunk, some .toolEvidenceBundle] := by
  cases built with
  | chunk chunk locator built => simp [buildConversationChunkDocument_typed built]
  | bundle part built => simp [(buildToolEvidenceBundleDocument_eq_ok built).1.docType?]

/-- The builders build no copies. -/
theorem BuiltSource.mutable {redact : String → String} (built : BuiltSource py fmt redact d) :
    isImmutableSourceDocument d = false := by
  have plain : ∀ f ∈ [Field.sourceSnapshotSchemaVersion, .currentSourceScope], d.get? f = none := by
    cases built with
    | chunk chunk locator built =>
        unfold buildConversationChunkDocument at built
        simp only [bind_eq_ok] at built
        obtain ⟨⟨⟩, -, base, based, finalized⟩ := built
        have plain := baseDocument_plain based
        rw [← finalize_eq_ok finalized]
        simpa [TranscriptChunk.fields, Doc.get?_set] using ⟨plain _ (by simp), plain _ (by simp)⟩
    | bundle part built =>
        unfold buildToolEvidenceBundleDocument at built
        simp only [bind_eq_ok] at built
        obtain ⟨⟨⟩, -, ⟨⟩, -, base, based, finalized⟩ := built
        have plain := baseDocument_plain based
        rw [← finalize_eq_ok finalized]
        simpa [BundlePart.fields, Doc.get?_set] using ⟨plain _ (by simp), plain _ (by simp)⟩
  have typed := built.typed
  simp only [List.mem_cons, List.not_mem_nil, or_false] at typed
  rcases typed with typed | typed <;>
    simp [isImmutableSourceDocument, hasImmutableDocType, typed, isImmutableDocType, isRevisionScopedSourceCopy, Doc.has,
      plain .sourceSnapshotSchemaVersion (by simp), plain .currentSourceScope (by simp)]

end Built

/-! ## What a put leaves -/

section Put

variable {py : Platform} {s s' : Store} {d : Doc} {docs : List Doc} {r : StoredRevision}

/-- A put finds the document stored, or stores it under its next revision. -/
theorem put_eq_ok (mutable : isImmutableSourceDocument d = false) (done : put py d s = .ok (r, s')) :
    validateForWrite py d = .ok () ∧ (∃ hash, payloadHash py d = .ok hash) ∧
      ((∃ stored, s.get (d.text .id) = some stored ∧ Settled py d stored ∧ s' = s) ∨
        (∀ stored, s.get (d.text .id) = some stored → ¬ Settled py d stored) ∧
          ∃ rev hash, s' = s.assign (Store.stamp d (d.text .id) rev hash)) := by
  unfold put at done
  simp only [bind_eq_ok, mutable, Bool.false_eq_true, if_false] at done
  obtain ⟨⟨⟩, valid, hash, hashed, decision, decided, done⟩ := done
  refine ⟨valid, ⟨hash, hashed⟩, ?_⟩
  split at done
  · rename_i stored found
    rw [found] at decided ⊢
    split at done
    · rename_i duplicate
      rw [duplicate] at decided
      obtain ⟨named, -, unpreserved, keyed, payload⟩ := classify_duplicate_iff.mp decided
      cases done
      exact .inl ⟨stored, rfl, ⟨valid, named, unpreserved, keyed, hash, hashed, payload⟩, rfl⟩
    · rename_i fresh
      simp only [bind_eq_ok] at done
      obtain ⟨⟨⟩, -, ⟨⟩, -, number, -, done⟩ := done
      cases done
      refine .inr ⟨fun other same settled => fresh ?_, _, _, rfl⟩
      cases same
      obtain ⟨hash', hashed', payload⟩ := settled.payload
      cases hashed.symm.trans hashed'
      have duplicate := classify_duplicate_iff.mpr
        ⟨settled.named, payloadHash_ne_empty hashed, settled.unpreserved, settled.keyed, payload⟩
      exact Except.ok.inj (decided.symm.trans duplicate)
  · rename_i absent
    simp only [bind_eq_ok] at done
    obtain ⟨⟨⟩, -, done⟩ := done
    cases done
    refine .inr ⟨fun stored found => ?_, _, _, rfl⟩
    rw [absent] at found
    cases found

/-- `for document in documents: store.put(document)`. -/
def putAll (py : Platform) (docs : List Doc) (s : Store) : Except PyError Store :=
  docs.foldlM (fun s d => (put py d s).map Prod.snd) s

theorem putAll_cons_eq_ok : putAll py (d :: docs) s = .ok s' ↔
    ∃ r mid, put py d s = .ok (r, mid) ∧ putAll py docs mid = .ok s' := by
  rw [putAll, List.foldlM_cons, bind_eq_ok]
  constructor
  · rintro ⟨mid, first, rest⟩
    obtain ⟨⟨r, after⟩, done, rfl⟩ := except_map_eq_ok first
    exact ⟨r, after, done, rest⟩
  · rintro ⟨r, mid, done, rest⟩
    exact ⟨mid, by rw [done]; rfl, rest⟩

variable (py) in
/-- What is under a document's id once it was put: what the put found there, or the document. -/
structure Left (d : Doc) (before : Option Doc) (stored : Doc) : Prop where
  valid : validateForWrite py d = .ok ()
  hashed : ∃ hash, payloadHash py d = .ok hash
  found : (before = some stored ∧ Settled py d stored) ∨
    (∀ other, before = some other → ¬ Settled py d other) ∧ SameMaterial d stored

theorem put_left (mutable : isImmutableSourceDocument d = false) (done : put py d s = .ok (r, s')) :
    (∃ stored, s'.get (d.text .id) = some stored ∧ Left py d (s.get (d.text .id)) stored) ∧
      ∀ docId, docId ≠ d.text .id → s'.get docId = s.get docId := by
  obtain ⟨valid, hashed, ⟨stored, found, settled, rfl⟩ | ⟨fresh, rev, hash, rfl⟩⟩ := put_eq_ok mutable done
  · exact ⟨⟨stored, found, valid, hashed, .inl ⟨found, settled⟩⟩, fun _ _ => rfl⟩
  · have same := sameMaterial_stamp d (d.text .id) rev hash
    have named := same.text (by decide : Field.id ∉ bookkeepingFields)
    refine ⟨⟨_, ?_, valid, hashed, .inr ⟨fresh, same⟩⟩, fun docId other => ?_⟩
    · rw [Store.get_assign, named, if_pos rfl]
    · rw [Store.get_assign, named, if_neg other]

theorem putAll_elsewhere (mutable : ∀ d ∈ docs, isImmutableSourceDocument d = false)
    (done : putAll py docs s = .ok s') {docId : String} (other : docId ∉ docs.map (·.text .id)) :
    s'.get docId = s.get docId := by
  induction docs generalizing s with
  | nil =>
      cases done
      rfl
  | cons d rest ih =>
      rw [List.map_cons, List.mem_cons, not_or] at other
      rw [List.forall_mem_cons] at mutable
      obtain ⟨r, mid, first, others⟩ := putAll_cons_eq_ok.mp done
      rw [ih mutable.2 others other.2, (put_left mutable.1 first).2 docId other.1]

/-- Documents with ids of their own are put without regard to each other. -/
theorem putAll_left (mutable : ∀ d ∈ docs, isImmutableSourceDocument d = false)
    (distinct : (docs.map (·.text .id)).Nodup) (done : putAll py docs s = .ok s') :
    ∀ d ∈ docs, ∃ stored, s'.get (d.text .id) = some stored ∧ Left py d (s.get (d.text .id)) stored := by
  induction docs generalizing s with
  | nil => exact nofun
  | cons d rest ih =>
      obtain ⟨own, distinct⟩ := List.nodup_cons.mp distinct
      rw [List.forall_mem_cons] at mutable ⊢
      obtain ⟨r, mid, first, others⟩ := putAll_cons_eq_ok.mp done
      obtain ⟨⟨stored, found, left⟩, elsewhere⟩ := put_left mutable.1 first
      refine ⟨⟨stored, ?_, left⟩, fun d' mem => ?_⟩
      · rw [putAll_elsewhere mutable.2 others own, found]
      · have other : d'.text .id ≠ d.text .id := fun same => own (List.mem_map.mpr ⟨d', mem, same⟩)
        rw [← elsewhere _ other]
        exact ih mutable.2 distinct others d' mem

end Put

/-! ## Stored and built documents -/

section Agree

variable {py : Platform} {s s' : Store} {d : Doc} {docs : List Doc}

variable (py) in
/-- The stored document agrees with the one that is put in all that the payload identity reads, is kept
    for it, and stands elsewhere in its session. -/
structure KeptElsewhere (d stored : Doc) : Prop where
  payload : SamePayload py d stored
  keyed : stored.text .idempotencyKey = d.text .id
  unpreserved : preservedOutcome stored = none
  moved : position stored ≠ position d

variable (py) in
/-- SHA-256 tells the two documents apart where they differ in what their payload hashes are of. -/
def Told (d stored : Doc) : Prop :=
  ∀ e e', payloadEncoded py d = .ok e → payloadEncoded py stored = .ok e' → sha256Hash py e' = sha256Hash py e → e' = e

/-- Which stored documents a put takes for the one it is given. -/
theorem settled_iff {stored : Doc}
    (source : docType? d ∈ [some SourceDocType.conversationChunk, some .toolEvidenceBundle])
    (valid : validateForWrite py d = .ok ()) (hashed : ∃ hash, payloadHash py d = .ok hash) (told : Told py d stored) :
    Settled py d stored ↔
      SamePayload py d stored ∧ stored.text .idempotencyKey = d.text .id ∧ preservedOutcome stored = none := by
  obtain ⟨hash, hashed⟩ := hashed
  have encodes {d : Doc} {hash : String} (hashed : payloadHash py d = .ok hash) :
      ∃ e, payloadEncoded py d = .ok e ∧ sha256Hash py e = hash := by
    rw [payloadHash_eq] at hashed
    exact except_map_eq_ok hashed
  constructor
  · intro settled
    obtain ⟨own, hashed, payload⟩ := settled.payload
    obtain ⟨e, encoded, rfl⟩ := encodes hashed
    obtain ⟨e', encoded', same⟩ := encodes payload
    have alike : e' = e := told e e' encoded encoded' same
    exact ⟨.of_encoded source encoded (alike ▸ encoded'), settled.keyed, settled.unpreserved⟩
  · rintro ⟨same, keyed, unpreserved⟩
    refine ⟨valid, text_id_ne_empty valid, unpreserved, keyed, hash, hashed, ?_⟩
    rw [payloadHash_eq, same.encoded source, ← payloadHash_eq, hashed]

theorem Left.agrees_iff {before : Option Doc} {stored : Doc} (left : Left py d before stored)
    (source : docType? d ∈ [some SourceDocType.conversationChunk, some .toolEvidenceBundle])
    (named : stored.text .id = d.text .id) (told : ∀ other, before = some other → Told py d other) :
    (revisionToken py stored = revisionToken py d ∧ position stored = position d) ↔
      ∀ other, before = some other → ¬ KeptElsewhere py d other := by
  have settled {other : Doc} (found : before = some other) :=
    settled_iff source left.valid left.hashed (told other found)
  rcases left.found with ⟨rfl, taken⟩ | ⟨fresh, same⟩
  · obtain ⟨payload, keyed, unpreserved⟩ := (settled rfl).mp taken
    constructor
    · rintro ⟨-, same⟩ other ⟨⟩ kept
      exact kept.moved same
    · intro stays
      have same : position stored = position d := by
        by_contra moved
        exact stays stored rfl ⟨payload, keyed, unpreserved, moved⟩
      refine ⟨revisionToken_congr named ?_, same⟩
      rw [revisionIdentity, revisionIdentity, payload.content, payload.started, payload.ended, same]
  · refine iff_of_true ⟨revisionToken_congr named same.revisionIdentity, same.position⟩ fun other found kept => ?_
    exact fresh other found ((settled found).mpr ⟨kept.payload, kept.keyed, kept.unpreserved⟩)

/-- Once built documents were put, the stored ones have their tokens and their positions exactly where
    none of them met a stored one that agrees in all its payload identity reads and stands elsewhere. -/
theorem stored_revisions_iff {fmt : Formats} {redact : String → String}
    (built : ∀ d ∈ docs, BuiltSource py fmt redact d) (distinct : (docs.map (·.text .id)).Nodup)
    (done : putAll py docs s = .ok s')
    (told : ∀ d ∈ docs, ∀ stored, s.get (d.text .id) = some stored → Told py d stored) :
    (∀ d ∈ docs, ∃ stored, s'.get (d.text .id) = some stored ∧ revisionToken py stored = revisionToken py d ∧
        position stored = position d) ↔
      ∀ d ∈ docs, ∀ stored, s.get (d.text .id) = some stored → ¬ KeptElsewhere py d stored := by
  have lefts := putAll_left (fun d mem => (built d mem).mutable) distinct done
  refine forall₂_congr fun d mem => ?_
  obtain ⟨stored, found, left⟩ := lefts d mem
  rw [← left.agrees_iff (built d mem).typed (Store.get_keyed found) (told d mem), found]
  exact ⟨fun ⟨_, same, agrees⟩ => Option.some.inj same ▸ agrees, fun agrees => ⟨stored, rfl, agrees⟩⟩

end Agree

/-! ## A bundle on its own -/

section Plain

/-- No value of the document holds a key that looks like a secret. -/
def PlainValues (d : Doc) : Prop := ∀ k v, Dict.get? d k = some v → assertNoSecretLikeKeysDeep v = .ok ()

theorem PlainValues.insert {d : Doc} {k : Key} {v : Json} (plain : PlainValues d)
    (value : assertNoSecretLikeKeysDeep v = .ok ()) : PlainValues (Dict.insert d k v) := by
  intro k' v' found
  rw [Dict.get?_insert] at found
  split at found
  · cases found
    exact value
  · exact plain k' v' found

theorem PlainValues.update {d : Doc} {bindings : List (Field × Json)} (plain : PlainValues d)
    (values : ∀ v ∈ bindings.map Prod.snd, assertNoSecretLikeKeysDeep v = .ok ()) :
    PlainValues (d.update bindings) := by
  induction bindings generalizing d with
  | nil => exact plain
  | cons entry rest ih =>
      rw [List.map_cons, List.forall_mem_cons] at values
      exact ih (plain.insert values.1) values.2

theorem plainValues_empty : PlainValues ∅ := by
  intro k v found
  cases found

theorem assertNoSecretLikeKeysDeep_textArray (texts : List String) :
    assertNoSecretLikeKeysDeep (textArray texts) = .ok () := by
  rw [textArray, assertNoSecretLikeKeysDeep]
  induction texts with
  | nil => rfl
  | cons text rest ih => exact ih

theorem assertNoSecretLikeKeysDeep_doc {d : Doc} (keys : PlainKeys d) (values : PlainValues d) :
    assertNoSecretLikeKeysDeep d.json = .ok () := by
  have within : ∀ entry ∈ d.entries, assertNoSecretLikeKeysDeep entry.2 = .ok () := by
    intro entry mem
    exact values entry.1 entry.2 (Dict.mem_entries_iff.mp mem)
  have fields (entries : List (Key × Json)) (each : ∀ entry ∈ entries, assertNoSecretLikeKeysDeep entry.2 = .ok ()) :
      assertNoSecretLikeKeysInFields entries = .ok () := by
    induction entries with
    | nil => rfl
    | cons entry rest ih =>
        rw [List.forall_mem_cons] at each
        rw [assertNoSecretLikeKeysInFields, each.1]
        exact ih each.2
  have plain : assertNoSecretLikeMetadata (d.entries.map Prod.fst) = .ok () :=
    assertNoSecretLikeMetadata_eq_ok.mpr keys
  rw [Doc.json, assertNoSecretLikeKeysDeep, plain]
  exact fields _ within

end Plain

section Bundles

variable {py : Platform} {fmt : Formats} {part : BundlePart} {project : String}

/-- The fields of a bundle's base document. -/
def BundlePart.baseFields (part : BundlePart) (project : String) : List (Field × Json) :=
  [(.id, .str (toolEvidenceBundleDocId part.sessionIdHash part.partIndex)),
    (.docType, .str SourceDocType.toolEvidenceBundle.text),
    (.schemaVersion, .str couchdbSourceSchemaVersion),
    (.owner, .str couchdbSourceOwner),
    (.provider, .str part.provider),
    (.project, .str project),
    (.sessionIdHash, .str part.sessionIdHash),
    (.sourceLocatorHash, .str ""),
    (.redactionVersion, .str redactionVersion)]

/-- The bundle of a part whose body is clean, with the label of its project. -/
def bundleDocument (py : Platform) (part : BundlePart) (project : String) : Doc :=
  Dict.insert
    (Dict.insert ((Doc.ofFields (part.baseFields project)).update (part.fields py)) (.other "evidence_count")
      (.num part.recordContentHashes.length))
    (.other "record_content_hashes") (textArray part.recordContentHashes)

theorem bundleDocument_plainKeys : PlainKeys (bundleDocument py part project) := by
  have fields : ∀ f ∈ (part.baseFields project).map Prod.fst ++ (part.fields py).map Prod.fst,
      isSecretLikeKey f.name = false := by
    change ∀ f ∈ [Field.id, .docType, .schemaVersion, .owner, .provider, .project, .sessionIdHash, .sourceLocatorHash,
      .redactionVersion, .partIndex, .partCount, .evidenceIndexStart, .evidenceIndexEnd, .coverageHash, .contentHash,
      .observedAtStart, .observedAtEnd, .body], _
    decide +kernel
  rw [List.forall_mem_append] at fields
  have named := (plainKeys_empty.update fields.1).update fields.2
  have insert {d : Doc} {k : Key} {v : Json} (plain : PlainKeys d) (key : isSecretLikeKey k.name = false) :
      PlainKeys (Dict.insert d k v) := by
    intro k' mem
    rw [mem_keys_iff] at mem
    simp only [Dict.get?_insert] at mem
    split at mem
    · next same => rwa [same]
    · exact plain k' (mem_keys_iff.mpr mem)
  exact insert (insert named (by decide +kernel)) (by decide +kernel)

theorem bundleDocument_plainValues : PlainValues (bundleDocument py part project) := by
  apply PlainValues.insert
  · apply PlainValues.insert _ rfl
    apply PlainValues.update
    · apply plainValues_empty.update
      intro v mem
      simp only [BundlePart.baseFields, List.map_cons, List.map_nil, List.mem_cons, List.not_mem_nil, or_false] at mem
      rcases mem with rfl | rfl | rfl | rfl | rfl | rfl | rfl | rfl | rfl <;> rfl
    · intro v mem
      simp only [BundlePart.fields, List.map_cons, List.map_nil, List.mem_cons, List.not_mem_nil, or_false] at mem
      rcases mem with rfl | rfl | rfl | rfl | rfl | rfl | rfl | rfl | rfl <;> rfl
  · exact assertNoSecretLikeKeysDeep_textArray _

/-- On a platform that finds no leaks, a part with the hash of a session and its indexes in order is built. -/
theorem bundleDocument_built (quiet : ∀ e, py.leakPatterns e = []) (session : hashLike part.sessionIdHash)
    (ordered : part.evidenceIndexStart ≤ part.evidenceIndexEnd)
    (label : canonicalizeProject fmt part.project = .ok project) :
    buildToolEvidenceBundleDocument py fmt part = .ok (bundleDocument py part project) := by
  have clean (e : Encoded) : publicIngressLeakViolations py e = [] := by
    rw [publicIngressLeakViolations, quiet]
    exact ite_self _
  have screened : assertNoSecretLikeKeysDeep (bundleDocument py part project).json = .ok () :=
    assertNoSecretLikeKeysDeep_doc bundleDocument_plainKeys bundleDocument_plainValues
  have finalized : finalize py (bundleDocument py part project) = .ok (bundleDocument py part project) := by
    simp [finalize, screened, clean, refuseIf]
  have based : baseDocument fmt .toolEvidenceBundle (toolEvidenceBundleDocId part.sessionIdHash part.partIndex)
      part.provider part.project part.sessionIdHash "" = .ok (Doc.ofFields (part.baseFields project)) := by
    simp only [baseDocument, assertHashLike_of_hashLike session, assertHashLikeIfPresent, if_true, label, ok_bind]
    rfl
  have body : assertSourceTextClean py part.body = .ok () := by simp [assertSourceTextClean, clean, refuseIf]
  rw [buildToolEvidenceBundleDocument, refuseIf, if_neg (not_lt.mpr ordered), body, based, ok_bind, ok_bind, ok_bind]
  exact finalized

theorem bundleDocument_get? (f : Field) : (bundleDocument py part project).get? f =
    ((Doc.ofFields (part.baseFields project)).update (part.fields py)).get? f := by
  rw [bundleDocument, get?_insert_other, get?_insert_other]

theorem bundleDocument_docType? : docType? (bundleDocument py part project) = some .toolEvidenceBundle := by
  rw [docType?_eq_some_iff, bundleDocument_get?]
  simp [BundlePart.baseFields, BundlePart.fields, Doc.ofFields, Doc.get?_set]

theorem bundleDocument_valid (quiet : ∀ e, py.leakPatterns e = []) :
    validateForWrite py (bundleDocument py part project) = .ok () := by
  have typed : docType? (bundleDocument py part project) = some .toolEvidenceBundle := bundleDocument_docType?
  have identified : (bundleDocument py part project).value? .id ≠ none := by
    have filled : toolEvidenceBundleDocId part.sessionIdHash part.partIndex ≠ "" := by
      intro blank
      have size := congrArg String.length blank
      simp [toolEvidenceBundleDocId, SourceDocType.text, String.length_append] at size
    rw [Doc.value?, bundleDocument_get?]
    simp [BundlePart.baseFields, BundlePart.fields, Doc.ofFields, Doc.get?_set, Json.truthy, filled]
  have body : (bundleDocument py part project).get? .body = some (.str part.body) := by
    rw [bundleDocument_get?]
    simp [BundlePart.fields, Doc.get?_set]
  have clean : assertSourceTextClean py part.body = .ok () := by
    simp [assertSourceTextClean, publicIngressLeakViolations, quiet, refuseIf]
  simp [validateForWrite, identified, assertCouchdbOwned_of_docType typed, typed, body, clean, refuseIf,
    assertNoSecretLikeMetadata_eq_ok.mpr bundleDocument_plainKeys]

/-- A bundle whose id is free is stored, in a session that is not pinned. -/
theorem put_bundle {s : Store} {d : Doc} (built : buildToolEvidenceBundleDocument py fmt part = .ok d)
    (valid : validateForWrite py d = .ok ()) (free : s.get (d.text .id) = none)
    (unpinned : s.get (activeSourceRevisionPointerDocId (d.text .sessionIdHash)) = none) :
    ∃ r hash, payloadHash py d = .ok hash ∧
      put py d s = .ok (r, s.assign (Store.stamp d (d.text .id) (revText 1 hash) hash)) := by
  have source : BuiltSource py fmt id d := .bundle part built
  have mutable := source.mutable
  have typed := (buildToolEvidenceBundleDocument_eq_ok built).1.docType?
  obtain ⟨hash, hashed⟩ : ∃ hash, payloadHash py d = .ok hash := by
    rw [payloadHash, typed]
    exact ⟨_, rfl⟩
  have put := put_fresh valid (by simp [mutable]) (text_id_ne_empty valid) hashed (payloadHash_ne_empty hashed) free
    (allowsWrite_of_unpinned unpinned)
  exact ⟨_, hash, hashed, put⟩

/-- A put of a document that is taken for a stored one changes nothing. -/
theorem Settled.put {s : Store} {d stored : Doc} (settled : Settled py d stored)
    (mutable : isImmutableSourceDocument d = false) (found : s.get (d.text .id) = some stored) :
    ∃ r, put py d s = .ok (r, s) := by
  obtain ⟨hash, hashed, payload⟩ := settled.payload
  have duplicate := classify_duplicate_iff.mpr
    ⟨settled.named, payloadHash_ne_empty hashed, settled.unpreserved, settled.keyed, payload⟩
  exact ⟨⟨d.text .id, stored.text .rev, .duplicate⟩, by
    simp [Source.put, settled.valid, mutable, hashed, found, duplicate]⟩

end Bundles

section Quiet

theorem quiet (e : Encoded) : countingPlatform.leakPatterns e = [] := rfl

theorem neurons_label : canonicalizeProject plainFormats "neurons" = .ok "neurons" := by
  decide +kernel

theorem hashLike_replicate (c : Char) (hex : isHexDigit c) : hashLike ("sha256:" ++ String.ofList (List.replicate 64 c)) := by
  simp [hashLike, hasPrefix, isHexDigest, hex]

end Quiet

/-! ## Evidence that grows -/

section Grown

/-- Bundles of a list of records and then of a longer one are stored; whether the stored ones have
    the tokens of the latter. -/
def grownTokensAgree (py : Platform) (fmt : Formats) (records grown : List ToolEvidenceSummaryRecord)
    (maxChars : Int) : Except PyError Bool := do
  let first ← putAll py (← buildToolEvidenceBundleDocuments py fmt records maxChars) .empty
  let bundles ← buildToolEvidenceBundleDocuments py fmt grown maxChars
  let second ← putAll py bundles first
  return bundles.all fun d => (second.get (d.text .id)).any fun stored => revisionToken py stored = revisionToken py d

def evidenceRecord (index : Int) : ToolEvidenceSummaryRecord where
  sessionIdHash := "sha256:" ++ String.ofList (List.replicate 64 'a')
  provider := "codex"
  project := "neurons"
  category := "test_result"
  outcome := "pass"
  toolName := "pytest"
  commandSummary := "pytest"
  redactedSummary := "12 passed"
  observedAt := ""
  evidenceIndex := index
  contentHash := "sha256:" ++ String.ofList (List.replicate 64 'b')

/-- The part that holds one record. -/
def evidencePart (index : Int) (partIndex partCount : Nat) : BundlePart where
  sessionIdHash := (evidenceRecord index).sessionIdHash
  provider := "codex"
  project := "neurons"
  partIndex := partIndex
  partCount := partCount
  evidenceIndexStart := index
  evidenceIndexEnd := index
  recordContentHashes := [(evidenceRecord index).contentHash]
  body := bundleBody [evidenceRecord index]
  observedAtStart := ""
  observedAtEnd := ""

def evidenceBundle (index : Int) (partIndex partCount : Nat) : Doc :=
  bundleDocument countingPlatform (evidencePart index partIndex partCount) "neurons"

theorem recordInterval_evidenceRecord (index : Int) :
    recordInterval countingPlatform plainFormats (evidenceRecord index) = .ok none := by
  have blank : strip "" = "" := by decide
  simp [recordInterval, normalizeObservedInterval, evidenceRecord, blank, pure, Except.pure]

theorem evidenceBundle_built (index : Int) (partIndex partCount : Nat) :
    buildToolEvidenceBundleDocument countingPlatform plainFormats (evidencePart index partIndex partCount) =
      .ok (evidenceBundle index partIndex partCount) := by
  have session : hashLike (evidencePart index partIndex partCount).sessionIdHash := hashLike_replicate 'a' rfl
  have label : canonicalizeProject plainFormats (evidencePart index partIndex partCount).project = .ok "neurons" :=
    neurons_label
  exact bundleDocument_built quiet session le_rfl label

theorem bundleOf_evidenceRecord (index : Int) (partIndex partCount : Nat) :
    bundleOf countingPlatform plainFormats partIndex partCount [evidenceRecord index] =
      .ok (evidenceBundle index partIndex partCount) := by
  rw [← evidenceBundle_built]
  simp only [bundleOf, recordInterval_evidenceRecord, ok_bind]
  rfl

theorem splitByInterval_evidenceRecord (index : Int) :
    splitByInterval countingPlatform plainFormats [evidenceRecord index] = .ok [[evidenceRecord index]] := by
  simp only [splitByInterval, List.mapM_cons, List.mapM_nil, recordInterval_evidenceRecord, ok_bind]
  rfl

theorem single_bundle : buildToolEvidenceBundleDocuments countingPlatform plainFormats [evidenceRecord 1] 600 =
    .ok [evidenceBundle 1 1 1] := by
  have parts : chunkToolEvidenceRecords [evidenceRecord 1] 600 = [[evidenceRecord 1]] := rfl
  simp only [buildToolEvidenceBundleDocuments, parts, refuseIf, List.any_nil, Bool.false_eq_true, if_false, ok_bind,
    List.mapM_cons, List.mapM_nil, splitByInterval_evidenceRecord, pure_eq_ok, List.flatten_cons, List.flatten_nil,
    List.append_nil, List.zipIdx_cons, List.zipIdx_nil, List.length_cons, List.length_nil, bundleOf_evidenceRecord]

theorem grown_bundles : buildToolEvidenceBundleDocuments countingPlatform plainFormats
    [evidenceRecord 1, evidenceRecord 2] 600 = .ok [evidenceBundle 1 1 2, evidenceBundle 2 2 2] := by
  have parts : chunkToolEvidenceRecords [evidenceRecord 1, evidenceRecord 2] 600 =
      [[evidenceRecord 1], [evidenceRecord 2]] := by
    have long : 600 < headerBudgetChars + sectionLength (evidenceRecord 1) + sectionLength (evidenceRecord 2) := by
      decide +kernel
    rw [chunkToolEvidenceRecords, chunkFrom, if_neg (by simp), chunkFrom, if_pos ⟨by simp, long⟩]
    rfl
  have alike : ([evidenceRecord 2].any fun record => record.sessionIdHash ≠ (evidenceRecord 1).sessionIdHash) = false := by
    simp [evidenceRecord]
  simp only [buildToolEvidenceBundleDocuments, parts, refuseIf, alike, Bool.false_eq_true, if_false, ok_bind,
    List.mapM_cons, List.mapM_nil, splitByInterval_evidenceRecord, pure_eq_ok, List.flatten_cons, List.flatten_nil,
    List.append_nil, List.zipIdx_cons, List.zipIdx_nil, List.length_cons, List.length_nil, bundleOf_evidenceRecord,
    List.cons_append, List.nil_append]

/-- What the payload identity reads of the bundle of a record does not depend on the number of parts. -/
theorem evidenceBundle_samePayload {index : Int} {partIndex partCount : Nat} (partCount' : Nat) {stored : Doc}
    (same : SameMaterial (evidenceBundle index partIndex partCount) stored) :
    SamePayload countingPlatform (evidenceBundle index partIndex partCount') stored := by
  have typed (count : Nat) : docType? (evidenceBundle index partIndex count) = some .toolEvidenceBundle :=
    bundleDocument_docType?
  have read (f : Field) (mem : f ∈ [Field.contentHash, .coverageHash, .observedAtStart, .observedAtEnd]) :
      stored.text f = (evidenceBundle index partIndex partCount').text f := by
    have own : ∀ f ∈ [Field.contentHash, .coverageHash, .observedAtStart, .observedAtEnd], f ∉ bookkeepingFields := by
      decide
    rw [same.text (own f mem)]
    apply Doc.text_congr
    rw [evidenceBundle, evidenceBundle, bundleDocument_get?, bundleDocument_get?]
    simp only [List.mem_cons, List.not_mem_nil, or_false] at mem
    rcases mem with rfl | rfl | rfl | rfl <;>
      simp [BundlePart.baseFields, BundlePart.fields, Doc.ofFields, Doc.get?_set, evidencePart]
  refine ⟨?_, read _ (by simp), read _ (by simp), read _ (by simp), fun _ => read _ (by simp), fun chunk => ?_⟩
  · rw [same.docType, typed, typed]
  · rw [typed] at chunk
    cases chunk

theorem evidenceBundle_encoded {index : Int} {partIndex partCount : Nat} (partCount' : Nat) {stored : Doc}
    (same : SameMaterial (evidenceBundle index partIndex partCount) stored) :
    payloadEncoded countingPlatform stored = payloadEncoded countingPlatform (evidenceBundle index partIndex partCount') := by
  refine (evidenceBundle_samePayload partCount' same).encoded ?_
  rw [show docType? (evidenceBundle index partIndex partCount') = some .toolEvidenceBundle from bundleDocument_docType?]
  simp

theorem evidenceBundle_id (index : Int) (partIndex partCount : Nat) :
    (evidenceBundle index partIndex partCount).text .id =
      toolEvidenceBundleDocId (evidenceRecord index).sessionIdHash partIndex :=
  (buildToolEvidenceBundleDocument_eq_ok (evidenceBundle_built index partIndex partCount)).1.text_id

theorem evidenceBundle_valid (index : Int) (partIndex partCount : Nat) :
    validateForWrite countingPlatform (evidenceBundle index partIndex partCount) = .ok () :=
  bundleDocument_valid quiet

theorem evidenceBundle_unpreserved (index : Int) (partIndex partCount : Nat) :
    preservedOutcome (evidenceBundle index partIndex partCount) = none := by
  have blank : preservedOutcome ∅ = none := by decide
  rw [← blank]
  apply preservedOutcome_congr
  intro f mem
  rw [evidenceBundle, bundleDocument_get?]
  simp only [List.mem_cons, List.not_mem_nil, or_false] at mem
  rcases mem with rfl | rfl | rfl <;>
    simp [BundlePart.baseFields, BundlePart.fields, Doc.ofFields, Doc.get?_set]

/-- A stored bundle is taken for the same one of another number of parts. -/
theorem evidenceBundle_settled {index : Int} {partIndex partCount partCount' : Nat} {rev hash : String}
    (hashed : payloadHash countingPlatform (evidenceBundle index partIndex partCount) = .ok hash) :
    Settled countingPlatform (evidenceBundle index partIndex partCount')
      (Store.stamp (evidenceBundle index partIndex partCount)
        ((evidenceBundle index partIndex partCount).text .id) rev hash) := by
  have own : Settled countingPlatform (evidenceBundle index partIndex partCount)
      (Store.stamp (evidenceBundle index partIndex partCount)
        ((evidenceBundle index partIndex partCount).text .id) rev hash) :=
    (settled_stamp_iff (evidenceBundle_valid index partIndex partCount) hashed).mpr
      (evidenceBundle_unpreserved index partIndex partCount)
  have valid := evidenceBundle_valid index partIndex partCount'
  obtain ⟨hash', -, payload⟩ := own.payload
  refine ⟨valid, text_id_ne_empty valid, own.unpreserved, ?_, hash', ?_, payload⟩
  · rw [own.keyed, evidenceBundle_id, evidenceBundle_id]
  · rw [payloadHash_eq, ← evidenceBundle_encoded partCount' (sameMaterial_stamp _ _ rev hash), ← payloadHash_eq, payload]

/-- The only bundle is stored, and stays so when it is one of two. -/
theorem evidenceBundle_kept : ∃ s s' stored, putAll countingPlatform [evidenceBundle 1 1 1] .empty = .ok s ∧
    putAll countingPlatform [evidenceBundle 1 1 2, evidenceBundle 2 2 2] s = .ok s' ∧
    (s.get ((evidenceBundle 1 1 2).text .id) = some stored ∧ s.get ((evidenceBundle 2 2 2).text .id) = none) ∧
    s'.get ((evidenceBundle 1 1 2).text .id) = some stored ∧ SameMaterial (evidenceBundle 1 1 1) stored := by
  obtain ⟨r, hash, hashed, first⟩ := put_bundle (s := .empty) (evidenceBundle_built 1 1 1) (evidenceBundle_valid 1 1 1)
    rfl rfl
  have same := sameMaterial_stamp (evidenceBundle 1 1 1) ((evidenceBundle 1 1 1).text .id) (revText 1 hash) hash
  have settled : Settled countingPlatform (evidenceBundle 1 1 2)
      (Store.stamp (evidenceBundle 1 1 1) ((evidenceBundle 1 1 1).text .id) (revText 1 hash) hash) :=
    evidenceBundle_settled hashed
  generalize Store.stamp (evidenceBundle 1 1 1) ((evidenceBundle 1 1 1).text .id) (revText 1 hash) hash = stored
    at first same settled
  have storedId : stored.text .id = (evidenceBundle 1 1 2).text .id := by
    rw [same.text (by decide : Field.id ∉ bookkeepingFields), evidenceBundle_id, evidenceBundle_id]
  have found : (Store.empty.assign stored).get ((evidenceBundle 1 1 2).text .id) = some stored := by
    rw [Store.get_assign, if_pos storedId.symm]
  have source : BuiltSource countingPlatform plainFormats id (evidenceBundle 1 1 2) :=
    .bundle _ (evidenceBundle_built 1 1 2)
  obtain ⟨r', second⟩ := settled.put source.mutable found
  have apart : (evidenceBundle 2 2 2).text .id ≠ (evidenceBundle 1 1 2).text .id := by
    rw [evidenceBundle_id, evidenceBundle_id]
    decide +kernel
  have free : (Store.empty.assign stored).get ((evidenceBundle 2 2 2).text .id) = none := by
    rw [Store.get_assign, storedId, if_neg apart]
    rfl
  have unpinned : (Store.empty.assign stored).get
      (activeSourceRevisionPointerDocId ((evidenceBundle 2 2 2).text .sessionIdHash)) = none := by
    rw [Store.get_assign, storedId, evidenceBundle_id, if_neg]
    · rfl
    · intro pointer
      have bundle := ownPrefix_toolEvidenceBundle (evidenceRecord 1).sessionIdHash 1
      rw [← pointer] at bundle
      exact absurd (bundle.unique (ownPrefix_pointer _)) (by decide)
  obtain ⟨r'', hash', -, third⟩ := put_bundle (evidenceBundle_built 2 2 2) (evidenceBundle_valid 2 2 2) free unpinned
  have other := (sameMaterial_stamp (evidenceBundle 2 2 2) ((evidenceBundle 2 2 2).text .id) (revText 1 hash') hash').text
    (by decide : Field.id ∉ bookkeepingFields)
  refine ⟨_, _, stored, putAll_cons_eq_ok.mpr ⟨r, _, first, rfl⟩,
    putAll_cons_eq_ok.mpr ⟨r', _, second, putAll_cons_eq_ok.mpr ⟨r'', _, third, rfl⟩⟩, ⟨found, free⟩, ?_, same⟩
  rw [Store.get_assign, other, if_neg apart.symm, found]

/-- The bundles of the grown session, put over the only one. -/
theorem stored_revisions_iff_grown : ∃ s s',
    putAll countingPlatform [evidenceBundle 1 1 2, evidenceBundle 2 2 2] s = .ok s' ∧
      ((∀ d ∈ [evidenceBundle 1 1 2, evidenceBundle 2 2 2], ∃ stored, s'.get (d.text .id) = some stored ∧
          revisionToken countingPlatform stored = revisionToken countingPlatform d ∧ position stored = position d) ↔
        ∀ d ∈ [evidenceBundle 1 1 2, evidenceBundle 2 2 2], ∀ stored, s.get (d.text .id) = some stored →
          ¬ KeptElsewhere countingPlatform d stored) := by
  obtain ⟨s, s', stored, -, both, ⟨found, free⟩, -, same⟩ := evidenceBundle_kept
  have built : ∀ d ∈ [evidenceBundle 1 1 2, evidenceBundle 2 2 2], BuiltSource countingPlatform plainFormats id d := by
    simp only [List.forall_mem_cons, List.not_mem_nil, false_imp_iff, implies_true, and_true]
    exact ⟨.bundle _ (evidenceBundle_built 1 1 2), .bundle _ (evidenceBundle_built 2 2 2)⟩
  refine ⟨s, s', both, stored_revisions_iff built ?_ both ?_⟩
  · rw [List.map_cons, List.map_cons, List.map_nil, evidenceBundle_id, evidenceBundle_id]
    decide +kernel
  · simp only [List.forall_mem_cons, List.not_mem_nil, false_imp_iff, implies_true, and_true, found, free, reduceCtorEq,
      Option.some.injEq, forall_eq']
    intro e e' own other _
    rw [evidenceBundle_encoded 2 same, own] at other
    exact (Except.ok.inj other).symm

/-- The first bundle is one of two in the grown session, and stays stored as the only one. -/
theorem grown_evidence_keeps_token : grownTokensAgree countingPlatform plainFormats [evidenceRecord 1]
    [evidenceRecord 1, evidenceRecord 2] 600 = .ok false := by
  have tokens : revisionToken countingPlatform (evidenceBundle 1 1 1) ≠
      revisionToken countingPlatform (evidenceBundle 1 1 2) := by
    rw [evidenceBundle, evidenceBundle, countingPlatform_eq_forced]
    decide +kernel
  obtain ⟨s, s', stored, single, both, -, left, same⟩ := evidenceBundle_kept
  have token : revisionToken countingPlatform stored = revisionToken countingPlatform (evidenceBundle 1 1 1) :=
    revisionToken_congr (same.text (by decide : Field.id ∉ bookkeepingFields)) same.revisionIdentity
  simp [grownTokensAgree, single_bundle, grown_bundles, ok_bind, single, both, left, token, tokens, pure, Except.pure]

example : toolEvidenceBundleDocId (evidenceRecord 1).sessionIdHash 2 =
    "tool_evidence_bundle:" ++ String.ofList (List.replicate 64 'a') ++ ":p002" := by
  decide +kernel

end Grown

end Neurons.Source
