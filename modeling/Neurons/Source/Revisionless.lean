import Neurons.Source.Resolution

/-! # Documents without their revision

The `_rev` of a document belongs to the store that keeps it. Nothing the write path decides
reads it, apart from the comparison with an expected revision: two stores whose documents
agree without their revisions allow and refuse the same writes.
-/

namespace Neurons.Source

open Neurons.Lib

def revless (d : Doc) : Doc := d.without [.rev]

theorem revless_get? {d : Doc} {f : Field} (other : f ≠ .rev) : (revless d).get? f = d.get? f := by
  simp [revless, Doc.get?_without, other]

theorem revless_text {d : Doc} {f : Field} (other : f ≠ .rev) : (revless d).text f = d.text f :=
  Doc.text_congr (revless_get? other)

theorem revless_value? {d : Doc} {f : Field} (other : f ≠ .rev) : (revless d).value? f = d.value? f :=
  Doc.value?_congr (revless_get? other)

theorem revless_has {d : Doc} {f : Field} (other : f ≠ .rev) : (revless d).has f = d.has f := by
  simp only [Doc.has, revless_get? other]

@[simp] theorem revless_docType (d : Doc) : docType? (revless d) = docType? d :=
  docType?_congr (revless_get? (by decide))

theorem revless_without {d : Doc} {fields : List Field} (dropped : .rev ∈ fields) :
    (revless d).without fields = d.without fields := by
  refine Dict.ext fun k => ?_
  simp only [revless, Doc.without, Dict.get?_filter]
  by_cases kept : k ∈ fields.map Key.field
  · simp [kept]
  · have other : k ≠ .field .rev := by
      rintro rfl
      exact kept (List.mem_map_of_mem dropped)
    simp [kept, other]

/-- Writing a revision is forgotten with it. -/
theorem revless_set_rev (d : Doc) (v : Json) : revless (d.set .rev v) = revless d := by
  refine Dict.ext fun k => ?_
  simp only [revless, Doc.without, Dict.get?_filter, Doc.set, Dict.get?_insert]
  by_cases here : k = .field .rev <;> simp [here]

theorem revless_set {d : Doc} {f : Field} (other : f ≠ .rev) (v : Json) :
    revless (d.set f v) = (revless d).set f v := by
  refine Dict.ext fun k => ?_
  simp only [revless, Doc.without, Dict.get?_filter, Doc.set, Dict.get?_insert]
  by_cases here : k = .field f <;> simp [here, other]

/-! ## What is read of a document -/

section Reads

variable (py : Platform) (d : Doc)

@[simp] theorem revless_isSourceMember : isSourceMember (revless d) = isSourceMember d := by
  simp [isSourceMember]

@[simp] theorem revless_isRevisionScoped :
    isRevisionScopedSourceCopy (revless d) = isRevisionScopedSourceCopy d := by
  simp only [isRevisionScopedSourceCopy, revless_has (by decide : Field.sourceSnapshotSchemaVersion ≠ .rev),
    revless_has (by decide : Field.currentSourceScope ≠ .rev)]

@[simp] theorem revless_hasImmutableDocType : hasImmutableDocType (revless d) = hasImmutableDocType d := by
  simp [hasImmutableDocType]

@[simp] theorem revless_isImmutable :
    isImmutableSourceDocument (revless d) = isImmutableSourceDocument d := by
  simp [isImmutableSourceDocument]

end Reads

/-! ### The payload identity -/

/-- The documents differ in their bookkeeping only. -/
def SameMaterial (d d' : Doc) : Prop :=
  ∀ k, k ∉ bookkeepingFields.map Key.field → Dict.get? d' k = Dict.get? d k

theorem sameMaterial_revless (d : Doc) : SameMaterial d (revless d) := by
  intro k other
  have kept : k ≠ .field .rev := by
    rintro rfl
    exact other (by decide)
  simp [revless, Doc.without, Dict.get?_filter, kept]

section Material

variable {py : Platform} {d d' : Doc} (same : SameMaterial d d')
include same

theorem SameMaterial.get? {f : Field} (other : f ∉ bookkeepingFields) : d'.get? f = d.get? f :=
  same (.field f) fun mem => other (by simpa using mem)

theorem SameMaterial.text {f : Field} (other : f ∉ bookkeepingFields) : d'.text f = d.text f :=
  Doc.text_congr (same.get? other)

theorem SameMaterial.docType : docType? d' = docType? d := docType?_congr (same.get? (by decide))

theorem SameMaterial.without {fields : List Field} (dropped : bookkeepingFields ⊆ fields) :
    d'.without fields = d.without fields := by
  refine Dict.ext fun k => ?_
  simp only [Doc.without, Dict.get?_filter]
  by_cases listed : k ∈ fields.map Key.field
  · simp [listed]
  · rw [same k fun mem => listed (List.map_subset _ dropped mem)]

theorem SameMaterial.intField {f : Field} (other : f ∉ bookkeepingFields) : intField py d' f = intField py d f := by
  simp only [Source.intField, Doc.value?_congr (same.get? other)]

theorem SameMaterial.observedFields : observedFields d' = observedFields d := by
  simp only [Source.observedFields, same.text (by decide : Field.observedAtStart ∉ bookkeepingFields),
    same.text (by decide : Field.observedAtEnd ∉ bookkeepingFields)]

theorem SameMaterial.payloadHash : payloadHash py d' = payloadHash py d := by
  have other : ∀ f ∈ [Field.contentHash, .coverageHash], f ∉ bookkeepingFields := by decide
  have found : [Field.contentHash, .coverageHash].find? (fun f => (d'.value? f).isSome) =
      [Field.contentHash, .coverageHash].find? (fun f => (d.value? f).isSome) := by
    simp only [List.find?, Doc.value?_congr (same.get? (other .contentHash (by simp))),
      Doc.value?_congr (same.get? (other .coverageHash (by simp)))]
  unfold Source.payloadHash
  rw [same.docType]
  split
  · rw [same.without (by decide)]
  · simp only [same.text (by decide : Field.docType ∉ bookkeepingFields), same.observedFields,
      same.text (by decide : Field.contentHash ∉ bookkeepingFields),
      same.text (by decide : Field.coverageHash ∉ bookkeepingFields)]
  · simp only [same.text (by decide : Field.docType ∉ bookkeepingFields), same.observedFields,
      same.text (by decide : Field.contentHash ∉ bookkeepingFields),
      same.intField (by decide : Field.turnStartIndex ∉ bookkeepingFields),
      same.intField (by decide : Field.turnEndIndex ∉ bookkeepingFields),
      same.intField (by decide : Field.partIndex ∉ bookkeepingFields),
      same.intField (by decide : Field.partCount ∉ bookkeepingFields),
      same.intField (by decide : Field.charStart ∉ bookkeepingFields),
      same.intField (by decide : Field.charEnd ∉ bookkeepingFields)]
  · rw [found]
    split
    · rename_i f listed
      rw [same.text (other f (List.mem_of_find?_eq_some listed)), same.observedFields]
    · rw [same.without (by decide)]

end Material

section Documents

variable (py : Platform) (d : Doc)

theorem revless_payloadHash : payloadHash py (revless d) = payloadHash py d :=
  (sameMaterial_revless d).payloadHash

theorem revless_classify (docId incomingHash : String) :
    classifyDocumentIdempotency py (some (revless d)) docId incomingHash =
      classifyDocumentIdempotency py (some d) docId incomingHash := by
  simp only [classifyDocumentIdempotency, revless_payloadHash]
  refine congrArg _ (funext fun hash => ?_)
  rw [← revless_set (by decide)]
  generalize d.set .payloadHash (.str hash) = stored
  simp only [classifyIdempotency, firstText, List.findSome?,
    revless_value? (by decide : Field.acceptOutcome ≠ .rev), revless_value? (by decide : Field.outcome ≠ .rev),
    revless_text (by decide : Field.status ≠ .rev), revless_text (by decide : Field.idempotencyKey ≠ .rev),
    revless_text (by decide : Field.payloadHash ≠ .rev)]

theorem sameControl_revless : SameControl d (revless d) := fun f other =>
  revless_get? fun here => other (by rw [here]; decide)

theorem revless_sourceDocumentHash : sourceDocumentHash py (revless d) = sourceDocumentHash py d := by
  rw [sourceDocumentHash, revless_without (by decide), sourceDocumentHash]

theorem revless_materialIdentity : materialIdentity py (revless d) = materialIdentity py d := by
  have other : ∀ f ∈ [Field.contentHash, .coverageHash, .sourceHash], f ≠ .rev := by decide
  have found : [Field.contentHash, .coverageHash, .sourceHash].find? (fun f => (revless d).text f ≠ "") =
      [Field.contentHash, .coverageHash, .sourceHash].find? (fun f => d.text f ≠ "") := by
    simp only [List.find?, revless_text (other .contentHash (by simp)),
      revless_text (other .coverageHash (by simp)), revless_text (other .sourceHash (by simp))]
  unfold materialIdentity
  rw [found]
  split
  · rename_i f listed
    rw [revless_text (other f (List.mem_of_find?_eq_some listed))]
  · rw [revless_sourceDocumentHash]

theorem revless_position : position (revless d) = position d := by
  have other : ∀ f ∈ positionFields, f ≠ .rev := by decide
  unfold position
  congr 1
  refine List.filterMap_congr fun f listed => ?_
  rw [revless_get? (other f listed)]

theorem revless_token (materialHash : String) :
    buildSourceRevisionToken py (revless d) materialHash = buildSourceRevisionToken py d materialHash := by
  simp only [buildSourceRevisionToken, revless_position, revless_text (by decide : Field.id ≠ .rev),
    revless_text (by decide : Field.observedAtStart ≠ .rev),
    revless_text (by decide : Field.observedAtEnd ≠ .rev)]

theorem revless_fingerprint {f : Field} (other : f ≠ .rev) :
    revisionFingerprint py (revless d) f = revisionFingerprint py d f := by
  unfold revisionFingerprint
  simp only [revless_sourceDocumentHash]
  split
  · rw [← revless_set (by decide), revless_token, revless_text other]
  · rw [revless_token, revless_text other]

/-- The field that identifies a document's material is one of four. -/
theorem materialIdentity_field {d : Doc} {material : Field × String}
    (identified : materialIdentity py d = .ok material) : material.1 ≠ .rev := by
  have other : ∀ f ∈ [Field.contentHash, .coverageHash, .sourceHash], f ≠ .rev := by decide
  unfold materialIdentity at identified
  split at identified
  · rename_i f listed
    simp only [bind_eq_ok, pure_eq_ok, Except.ok.injEq] at identified
    obtain ⟨⟨⟩, -, rfl⟩ := identified
    exact other f (List.mem_of_find?_eq_some listed)
  · cases identified
    exact (by decide : Field.documentHash ≠ .rev)

theorem revless_descriptor (sessionIdHash : String) :
    sourceMemberDescriptor py sessionIdHash (revless d) = sourceMemberDescriptor py sessionIdHash d := by
  simp only [sourceMemberDescriptor, revless_text (by decide : Field.id ≠ .rev), revless_isSourceMember,
    revless_text (by decide : Field.sessionIdHash ≠ .rev), revless_text (by decide : Field.docType ≠ .rev),
    revless_materialIdentity, revless_sourceDocumentHash]
  cases identified : materialIdentity py d with
  | error e =>
      simp only [rescue]
      split <;> simp only [error_bind]
  | ok material => simp only [rescue, ok_bind, revless_fingerprint py d (materialIdentity_field py identified)]

theorem revless_tokenOf : fingerprint py (revless d) = fingerprint py d := by
  simp only [fingerprint, revless_materialIdentity]
  cases identified : materialIdentity py d with
  | error e => rfl
  | ok material => simp only [ok_bind, revless_fingerprint py d (materialIdentity_field py identified)]

theorem revless_firstText {fields : List Field} (other : .rev ∉ fields) :
    firstText (revless d) fields = firstText d fields := by
  unfold firstText
  congr 1
  induction fields with
  | nil => rfl
  | cons f rest ih =>
      simp only [List.mem_cons, not_or] at other
      simp only [List.findSome?_cons, revless_value? (Ne.symm other.1), ih other.2]

theorem revless_parsePointer (sessionIdHash : String) :
    parsePointer sessionIdHash (revless d) = parsePointer sessionIdHash d := by
  simp only [parsePointer, revless_docType, revless_text (by decide : Field.id ≠ .rev),
    revless_text (by decide : Field.sessionIdHash ≠ .rev), revless_text (by decide : Field.activeRevision ≠ .rev),
    revless_text (by decide : Field.manifestId ≠ .rev), revless_text (by decide : Field.manifestHash ≠ .rev),
    revless_text (by decide : Field.sourceHash ≠ .rev)]

end Documents

/-! ## Sets of documents -/

section Sets

variable {py : Platform} {documents documents' : List Doc}

theorem filter_docType_revless (t : SourceDocType) :
    (documents.map revless).filter (fun d => docType? d = some t) =
      (documents.filter (fun d => docType? d = some t)).map revless := by
  rw [List.filter_map]
  congr 1
  refine List.filter_congr fun d _ => ?_
  simp

theorem observedTimeBounds_revless :
    observedTimeBounds py (documents.map revless) = observedTimeBounds py documents := by
  simp only [observedTimeBounds, observedStarts, observedEnds, List.filterMap_map, Function.comp_def,
    revless_firstText _ (by decide : Field.rev ∉ [Field.observedAtStart, .startedAt]),
    revless_firstText _ (by decide : Field.rev ∉ [Field.observedAtEnd, .endedAt, .observedAtStart])]

theorem mapM_fingerprint_revless :
    (documents.map revless).mapM (fingerprint py) = documents.mapM (fingerprint py) := by
  rw [List.mapM_map]
  congr 1
  exact funext fun d => revless_tokenOf py d

theorem sourceHash_revless : sourceHash py (documents.map revless) = sourceHash py documents := by
  simp only [sourceHash, filter_docType_revless, mapM_fingerprint_revless, ← List.map_append,
    observedTimeBounds_revless, List.map_map, Function.comp_def,
    revless_text (by decide : Field.contentHash ≠ .rev), revless_text (by decide : Field.coverageHash ≠ .rev)]

/-- The same documents without their revisions have one hash. -/
theorem resolvedSourceHash_agree (same : documents'.map revless = documents.map revless) :
    resolvedSourceHash py documents' = resolvedSourceHash py documents := by
  rw [resolvedSourceHash, ← sourceHash_revless, same, sourceHash_revless, resolvedSourceHash]

end Sets

/-! ## Stores that agree -/

/-- Two stores hold the same documents, without their revisions. -/
def SameButRev (get get' : String → Option Doc) : Prop := ∀ docId, (get docId).map revless = (get' docId).map revless

section SameButRev

variable {py : Platform} {get get' : String → Option Doc}

theorem SameButRev.symm (agree : SameButRev get get') : SameButRev get' get := fun docId => (agree docId).symm

theorem SameButRev.found (agree : SameButRev get get') {docId : String} {d : Doc} (found : get docId = some d) :
    ∃ d', get' docId = some d' ∧ revless d' = revless d := by
  have same := agree docId
  rw [found, Option.map_some] at same
  exact Option.map_eq_some_iff.mp same.symm

theorem SameButRev.missing (agree : SameButRev get get') {docId : String} (missing : get docId = none) :
    get' docId = none := by
  have same := agree docId
  rw [missing] at same
  simpa using same.symm

theorem SelectsSource.agree {sessionIdHash sourceRevision : String} {membership source : Doc}
    (selects : SelectsSource py get sessionIdHash sourceRevision membership source) (agree : SameButRev get get') :
    ∃ source', SelectsSource py get' sessionIdHash sourceRevision membership source' ∧
      revless source' = revless source := by
  obtain ⟨member, fields, memberAt, record, sourceAt, valid⟩ := selects
  obtain ⟨member', memberAt', sameMember⟩ := agree.found memberAt
  obtain ⟨source', sourceAt', sameSource⟩ := agree.found sourceAt
  refine ⟨source', ⟨member', fields, memberAt', ?_, sourceAt', ?_⟩, sameSource⟩
  · rw [← (sameControl_revless member').validateMemberRecord, sameMember,
      (sameControl_revless member).validateMemberRecord, record]
  · rw [validateSourceDocumentAgainstMember, ← revless_descriptor, sameSource, revless_descriptor]
    exact valid

theorem forall₂_agree {sessionIdHash sourceRevision : String} {members documents : List Doc}
    (selected : List.Forall₂ (SelectsSource py get sessionIdHash sourceRevision) members documents)
    (agree : SameButRev get get') :
    ∃ documents', List.Forall₂ (SelectsSource py get' sessionIdHash sourceRevision) members documents' ∧
      documents'.map revless = documents.map revless := by
  induction selected with
  | nil => exact ⟨[], .nil, rfl⟩
  | cons selects _ ih =>
      obtain ⟨source', selects', same⟩ := selects.agree agree
      obtain ⟨documents', selected', others⟩ := ih
      exact ⟨source' :: documents', .cons selects' selected', by simp [same, others]⟩

theorem Supports.agree {sessionIdHash : String} {parsed : ParsedPointer} {documents : List Doc}
    (supports : Supports py get sessionIdHash parsed documents) (agree : SameButRev get get') :
    ∃ documents', Supports py get' sessionIdHash parsed documents' ∧
      documents'.map revless = documents.map revless := by
  obtain ⟨manifest, members, manifestAt, membership, selected⟩ := supports.manifest
  obtain ⟨manifest', manifestAt', sameManifest⟩ := agree.found manifestAt
  obtain ⟨documents', selected', same⟩ := forall₂_agree selected agree
  refine ⟨documents', ⟨⟨manifest', members, manifestAt', ?_, selected'⟩, ?_⟩, same⟩
  · rw [← (sameControl_revless manifest').parseManifest, sameManifest,
      (sameControl_revless manifest).parseManifest, membership]
  · rw [resolvedSourceHash_agree same, supports.hash]

/-- The same revision, over documents that agree without their revisions. -/
structure SameRevision (r r' : ResolvedSourceRevision) : Prop where
  manifestId : r'.manifestId = r.manifestId
  documents : r'.documents.map revless = r.documents.map revless

theorem sameRevision_resolved {sessionIdHash sourceHash : String} {manifestId : Option String}
    {legacy : Bool} {documents documents' : List Doc} (same : documents'.map revless = documents.map revless) :
    SameRevision (resolved sessionIdHash documents sourceHash manifestId legacy)
      (resolved sessionIdHash documents' sourceHash manifestId legacy) := by
  have typed (t : SourceDocType) : (documents'.filter (fun d => docType? d = some t)).map revless =
      (documents.filter (fun d => docType? d = some t)).map revless := by
    rw [← filter_docType_revless, same, filter_docType_revless]
  refine ⟨rfl, ?_⟩
  simp only [ResolvedSourceRevision.documents, resolved, List.map_append, typed]

variable {s s' : Store}

theorem resolve_agree (agree : SameButRev s.get s'.get) {sessionIdHash : String} {pointer : Doc}
    {r : ResolvedSourceRevision}
    (pointerAt : s.get (activeSourceRevisionPointerDocId sessionIdHash) = some pointer)
    (resolves : s.resolve py sessionIdHash = .ok r) :
    ∃ r', s'.resolve py sessionIdHash = .ok r' ∧ SameRevision r r' := by
  obtain ⟨like, parsed, documents, parsing, supports, rfl⟩ := (resolve_pinned_iff pointerAt).mp resolves
  obtain ⟨pointer', pointerAt', samePointer⟩ := agree.found pointerAt
  obtain ⟨documents', supports', same⟩ := supports.agree agree
  have parsing' : parsePointer sessionIdHash pointer' = .ok parsed := by
    rw [← revless_parsePointer, samePointer, revless_parsePointer, parsing]
  exact ⟨_, (resolve_pinned_iff pointerAt').mpr ⟨like, parsed, documents', parsing', supports', rfl⟩,
    sameRevision_resolved same⟩

/-! ### The guards -/

theorem SameRevision.ids {r r' : ResolvedSourceRevision} (same : SameRevision r r') :
    r'.documents.map (·.text .id) = r.documents.map (·.text .id) := by
  have ids (documents : List Doc) : (documents.map revless).map (·.text .id) = documents.map (·.text .id) := by
    simp [Function.comp_def, revless_text (by decide : Field.id ≠ .rev)]
  rw [← ids, same.documents, ids]

/-- One turn of the loop that collects the origins reads no revision. -/
theorem foldlM_revless {β : Type} (f : β → Doc → Except PyError β) (reads : ∀ b d, f b (revless d) = f b d)
    (b : β) (documents : List Doc) : (documents.map revless).foldlM f b = documents.foldlM f b := by
  rw [List.foldlM_map]
  congr 1
  exact funext fun b => funext fun d => reads b d

theorem SameRevision.origins {r r' : ResolvedSourceRevision} (same : SameRevision r r') :
    activeSourceOriginDocumentIds r' = activeSourceOriginDocumentIds r := by
  unfold activeSourceOriginDocumentIds
  rw [← foldlM_revless, same.documents, foldlM_revless]
  all_goals
    intro originIds d
    simp only [isRevisionSnapshotCopy, revless_text (by decide : Field.sourceSnapshotSchemaVersion ≠ .rev),
      revless_text (by decide : Field.sourceSnapshotOriginId ≠ .rev), revless_text (by decide : Field.id ≠ .rev)]
    rfl

theorem allowsWrite_agree (agree : SameButRev s.get s'.get) {docId : String} {d d' : Doc}
    (same : revless d' = revless d) {allowAppend : Bool}
    (allowed : requireActiveSourceRevisionAllowsWrite py s docId d allowAppend = .ok ()) :
    requireActiveSourceRevisionAllowsWrite py s' docId d' allowAppend = .ok () := by
  have member : isSourceMember d' = isSourceMember d := by
    rw [← revless_isSourceMember, same, revless_isSourceMember]
  have session : d'.text .sessionIdHash = d.text .sessionIdHash := by
    rw [← revless_text (by decide), same, revless_text (by decide)]
  unfold requireActiveSourceRevisionAllowsWrite at allowed ⊢
  simp only [member, session] at allowed ⊢
  split at allowed
  · rename_i plain
    rw [if_pos plain]
  · rename_i source
    rw [if_neg source]
    split at allowed
    · rename_i missing
      rw [agree.missing missing]
    · rename_i pointer pointerAt
      obtain ⟨pointer', pointerAt', -⟩ := agree.found pointerAt
      rw [pointerAt']
      simp only [bind_eq_ok, rescue_eq_ok, refuseIf_eq_ok] at allowed ⊢
      obtain ⟨r, resolves, ⟨⟩, unlisted, origins, collected, refused⟩ := allowed
      obtain ⟨r', resolves', sameRevision⟩ := resolve_agree agree pointerAt resolves
      refine ⟨r', resolves', (), ?_, origins, sameRevision.origins.trans collected, refused⟩
      have listed (r : ResolvedSourceRevision) : r.documents.any (fun d => decide (d.text .id = docId)) =
          (r.documents.map (·.text .id)).any (fun id => decide (id = docId)) := by
        simp [List.any_map, Function.comp_def]
      rw [listed, sameRevision.ids, ← listed]
      exact unlisted

theorem allowsDelete_agree (agree : SameButRev s.get s'.get) {d d' : Doc} (same : revless d' = revless d)
    (allowed : requireActiveSourceRevisionAllowsDelete py s d = .ok ()) :
    requireActiveSourceRevisionAllowsDelete py s' d' = .ok () := by
  have immutable : isImmutableSourceDocument d' = isImmutableSourceDocument d := by
    rw [← revless_isImmutable, same, revless_isImmutable]
  have typed : docType? d' = docType? d := by
    rw [← revless_docType, same, revless_docType]
  have session : d'.text .sessionIdHash = d.text .sessionIdHash := by
    rw [← revless_text (by decide), same, revless_text (by decide)]
  have sameId : d'.text .id = d.text .id := by
    rw [← revless_text (by decide), same, revless_text (by decide)]
  unfold requireActiveSourceRevisionAllowsDelete at allowed ⊢
  simp only [immutable, typed, session, sameId, bind_eq_ok, refuseIf_eq_ok] at allowed ⊢
  obtain ⟨⟨⟩, removable, allowed⟩ := allowed
  refine ⟨(), removable, ?_⟩
  split at allowed
  · rename_i blank
    rw [if_pos blank]
    exact allowed
  · rename_i named
    rw [if_neg named]
    split at allowed
    · rename_i missing
      rw [agree.missing missing]
      exact allowed
    · rename_i pointer pointerAt
      obtain ⟨pointer', pointerAt', -⟩ := agree.found pointerAt
      rw [pointerAt']
      simp only [bind_eq_ok, rescue_eq_ok] at allowed ⊢
      obtain ⟨r, resolves, allowed⟩ := allowed
      obtain ⟨r', resolves', sameRevision⟩ := resolve_agree agree pointerAt resolves
      refine ⟨r', resolves', ?_⟩
      rw [sameRevision.manifestId]
      split at allowed
      · cases allowed
      · rename_i manifestId _
        split at allowed
        · cases allowed
        · rename_i manifest manifestAt
          obtain ⟨manifest', manifestAt', sameManifest⟩ := agree.found manifestAt
          have members : manifestMemberIds manifest' = manifestMemberIds manifest := by
            have held : manifest'.get? .members = manifest.get? .members := by
              rw [← revless_get? (by decide), sameManifest, revless_get? (by decide)]
            simp only [manifestMemberIds, held]
          rw [manifestAt']
          simp only [bind_eq_ok, refuseIf_eq_ok, members, sameRevision.ids] at allowed ⊢
          obtain ⟨⟨⟩, -, memberIds, listed, free⟩ := allowed
          exact ⟨(), by simp, memberIds, listed, free⟩

end SameButRev

end Neurons.Source
