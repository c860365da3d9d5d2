import Neurons.Source.ControlPlane
import Neurons.Source.ReferencePlatform

/-! # Writes leave a pinned revision alone

The control documents of an active revision are immutable by type and cannot be
taken over through their ids; its source documents are refused by the active
revision itself. So no operation aimed elsewhere than at the pointer changes what
the session resolves to.
-/

namespace Neurons.Source

open Neurons.Lib

variable {py : Platform} {s s' : Store} {op : Op} {sessionIdHash : String}

/-! ## Control documents -/

/-- A control document can only be patched, outside what its checks read. -/
theorem Effect.keeps_control (effect : Effect py s op s') (own : op.OwnPrefixed s)
    {docId : String} {d : Doc} {t : SourceDocType} (stored : s.get docId = some d)
    (typed : docType? d = some t) (immutable : isImmutableDocType t) (prefixed : OwnPrefix t docId) :
    ∃ d', s'.get docId = some d' ∧ SameControl d d' := by
  have sameId := Store.get_keyed stored
  have immutableDocument : isImmutableSourceDocument d := by
    simp [isImmutableSourceDocument, hasImmutableDocType, typed, immutable]
  have change := effect.change stored
  generalize s'.get docId = after at change
  cases change with
  | kept => exact ⟨d, rfl, fun _ _ => rfl⟩
  | replaced rev hash writes written mutable replaceable allowed =>
      -- the incoming document has the same id, hence the same immutable type
      obtain ⟨u, writtenType, writtenPrefix⟩ := writes.ownPrefixed own
      rw [written, sameId] at writtenPrefix
      cases writtenPrefix.unique prefixed
      refine absurd ?_ mutable
      simp [isImmutableSourceDocument, hasImmutableDocType, writtenType, immutable]
  | relocated locator rev hash here checked moves allowed =>
      exact ⟨_, rfl, fun f other => relocated_get? other⟩
  | removed allowed => exact absurd immutableDocument (mutable_of_allowsDelete allowed).1

/-! ## Source documents -/

/-- The document is one of those the session resolves to, under its own id. -/
structure Selected (py : Platform) (s : Store) (sessionIdHash : String)
    (r : ResolvedSourceRevision) (d : Doc) : Prop where
  resolves : s.resolve py sessionIdHash = .ok r
  pinned : r.isLegacyUnpinned = false
  mem : d ∈ r.documents
  member : isSourceMember d
  session : d.text .sessionIdHash = sessionIdHash

theorem Selected.refuses_write {r : ResolvedSourceRevision} {d : Doc}
    (selected : Selected py s sessionIdHash r d) {docId : String} (sameId : d.text .id = docId)
    (allowAppend : Bool) :
    requireActiveSourceRevisionAllowsWrite py s docId d allowAppend ≠ .ok () := by
  obtain ⟨pointer, pointerAt⟩ := pointer_of_pinned selected.resolves selected.pinned
  have listed : r.documents.any (fun d => decide (d.text .id = docId)) = true :=
    List.any_eq_true.mpr ⟨d, selected.mem, by simpa using sameId⟩
  unfold requireActiveSourceRevisionAllowsWrite
  simp only [selected.member, selected.session, pointerAt, selected.resolves, rescue, ok_bind,
    listed, refuseIf, if_true, not_true_eq_false, if_false, error_bind]
  simp

theorem Selected.refuses_delete {r : ResolvedSourceRevision} {d : Doc}
    (selected : Selected py s sessionIdHash r d) :
    requireActiveSourceRevisionAllowsDelete py s d ≠ .ok () := by
  obtain ⟨pointer, pointerAt⟩ := pointer_of_pinned selected.resolves selected.pinned
  obtain ⟨like, parsed, documents, -, supports, shape⟩ :=
    (resolve_pinned_iff pointerAt).mp selected.resolves
  obtain ⟨manifest, members, manifestAt, -⟩ := supports.manifest
  intro allowed
  have manifestId : r.manifestId = some parsed.manifestId := by rw [shape, resolved]
  have nonblank : sessionIdHash ≠ "" := hashLike_nonempty like
  unfold requireActiveSourceRevisionAllowsDelete at allowed
  simp only [selected.session, nonblank, pointerAt, selected.resolves, rescue, manifestId,
    manifestAt, bind_eq_ok, refuseIf_eq_ok, if_false, ok_bind] at allowed
  obtain ⟨⟨⟩, -, ⟨⟩, -, memberIds, -, unprotected⟩ := allowed
  exact unprotected (by simp [List.mem_map]; exact .inr (.inr (.inr ⟨d, selected.mem, rfl⟩)))

/-- No operation touches a selected source document. -/
theorem Effect.keeps_selected {r : ResolvedSourceRevision} {d : Doc} {docId : String}
    (effect : Effect py s op s') (selected : Selected py s sessionIdHash r d)
    (stored : s.get docId = some d) : s'.get docId = some d := by
  have change := effect.change stored
  generalize s'.get docId = after at change
  cases change with
  | kept => rfl
  | replaced rev hash writes written mutable replaceable allowed =>
      exact absurd allowed (selected.refuses_write rfl false)
  | relocated locator rev hash here checked moves allowed =>
      exact absurd allowed (selected.refuses_write rfl false)
  | removed allowed => exact absurd allowed selected.refuses_delete

/-- Only an operation aimed at an id can change what is stored there. -/
theorem Effect.frame (effect : Effect py s op s') {docId : String} {d : Doc}
    (stored : s.get docId = some d) (elsewhere : op.target ≠ docId) : s'.get docId = some d := by
  have sameId := Store.get_keyed stored
  have change := effect.change stored
  generalize s'.get docId = after at change
  cases change with
  | kept => rfl
  | replaced rev hash writes written mutable replaceable allowed =>
      exact absurd (writes.target.symm.trans (written.trans sameId)) elsewhere
  | relocated locator rev hash here checked moves allowed =>
      exact absurd (here.symm.trans sameId) elsewhere
  | removed allowed => exact absurd sameId elsewhere

/-! ## The revision -/

theorem mem_resolved {documents : List Doc} {sourceHash : String} {manifestId : Option String}
    {legacy : Bool} {d : Doc} (mem : d ∈ documents) (member : isSourceMember d) :
    d ∈ (resolved sessionIdHash documents sourceHash manifestId legacy).documents := by
  unfold isSourceMember at member
  cases typed : docType? d with
  | none => simp [typed] at member
  | some t =>
      rw [typed] at member
      cases t <;> simp_all [isSourceMemberType, ResolvedSourceRevision.documents, resolved]

/-- One step, as the store and the resolver see it. -/
theorem Effect.keeps_pinned {r : ResolvedSourceRevision} (effect : Effect py s op s')
    (resolves : s.resolve py sessionIdHash = .ok r) (pinned : r.isLegacyUnpinned = false)
    (elsewhere : op.target ≠ activeSourceRevisionPointerDocId sessionIdHash)
    (own : op.OwnPrefixed s) : s'.resolve py sessionIdHash = .ok r := by
  obtain ⟨pointer, pointerAt⟩ := pointer_of_pinned resolves pinned
  obtain ⟨like, parsed, documents, parsing, supports, shape⟩ :=
    (resolve_pinned_iff pointerAt).mp resolves
  obtain ⟨manifest, members, manifestAt, membership, selected⟩ := supports.manifest
  have manifestPrefix : OwnPrefix .sourceRevisionManifest parsed.manifestId :=
    manifestId_of_parsePointer parsing ▸ ownPrefix_manifest _ _
  obtain ⟨manifest', manifestAt', sameManifest⟩ := effect.keeps_control own manifestAt
    (parseManifest_eq_ok membership).1 rfl manifestPrefix
  refine (resolve_pinned_iff (effect.frame pointerAt elsewhere)).mpr
    ⟨like, parsed, documents, parsing, ⟨⟨manifest', members, manifestAt', ?_, ?_⟩, supports.hash⟩,
      shape⟩
  · rw [sameManifest.parseManifest, membership]
  -- every entry keeps its member record and its source document
  · have every : ∀ entry source, source ∈ documents →
        SelectsSource py s.get sessionIdHash parsed.activeRevision entry source →
        SelectsSource py s'.get sessionIdHash parsed.activeRevision entry source := by
      rintro entry source listed ⟨member, fields, memberAt, record, sourceAt, valid⟩
      obtain ⟨typed, -, memberId⟩ := validateMemberRecord_eq_ok record
      have described := sourceMemberDescriptor_eq_ok (validateSource_eq_ok valid)
      obtain ⟨member', memberAt', sameMember⟩ := effect.keeps_control own memberAt typed rfl
        (memberId ▸ ownPrefix_member py _ _ _)
      have chosen : Selected py s sessionIdHash r source :=
        ⟨resolves, pinned, shape ▸ mem_resolved listed described.member, described.member,
          described.session⟩
      exact ⟨member', fields, memberAt', by rw [sameMember.validateMemberRecord, record],
        effect.keeps_selected chosen sourceAt, valid⟩
    exact forall₂_imp_of_mem selected fun entry _ source listed => every entry source listed

/-- A pinned revision stays what it is through every operation, returning or
    raising, that is not aimed at the session's pointer. -/
theorem pinned_revision_unaffected (s : Store) (sessionIdHash : String)
    (r : ResolvedSourceRevision) (resolves : s.resolve py sessionIdHash = .ok r)
    (pinned : r.isLegacyUnpinned = false) (op : Op)
    (elsewhere : op.target ≠ activeSourceRevisionPointerDocId sessionIdHash)
    (own : op.OwnPrefixed s) : (op.exec py s).2.resolve py sessionIdHash = .ok r :=
  (op.exec_effect s).keeps_pinned resolves pinned elsewhere own

/-! ## A session with one document -/

section Sole

variable (py : Platform) (d : Doc) (sessionIdHash hash : String) (descriptor : Descriptor)

def soleRevision : String := sourceRevision py [descriptor]

def soleMembership : Doc := membership py sessionIdHash (soleRevision py descriptor) descriptor

def soleManifestHash : String :=
  canonicalHash py (Doc.ofFields [
    (.schemaVersion, .str "couchdb_session_source_revision_manifest.v1"),
    (.sessionIdHash, .str sessionIdHash),
    (.sourceRevision, .str (soleRevision py descriptor)),
    (.sourceHash, .str hash),
    (.provenance, Doc.json ∅),
    (.members, .arr [(soleMembership py sessionIdHash descriptor).json])]).json

def soleMember : Doc := memberDocument py d sessionIdHash (soleRevision py descriptor) descriptor

def soleManifest : Doc :=
  manifestDocument d sessionIdHash (soleRevision py descriptor) hash [soleMembership py sessionIdHash descriptor] ∅
    (soleManifestHash py sessionIdHash hash descriptor)

def solePointer : Doc :=
  pointerDocument d sessionIdHash (soleRevision py descriptor) (soleManifestHash py sessionIdHash hash descriptor) hash

/-- One document, published as its session. -/
def soleStore : Store :=
  (((Store.empty.assign d).assign (soleMember py d sessionIdHash descriptor)).assign
    (soleManifest py d sessionIdHash hash descriptor)).assign (solePointer py d sessionIdHash hash descriptor)

/-- What the session is published as. -/
def soleResolved : ResolvedSourceRevision :=
  resolved sessionIdHash [d] hash (some (sourceRevisionManifestDocId sessionIdHash (soleRevision py descriptor))) false

variable {py d sessionIdHash hash descriptor}

/-- A document without material hashes is described by the hash of its content. -/
theorem sourceMemberDescriptor_unhashed (identified : d.text .id ≠ "") (member : isSourceMember d)
    (session : d.text .sessionIdHash = sessionIdHash)
    (unhashed : ∀ f ∈ [Field.contentHash, .coverageHash, .sourceHash], d.get? f = none) :
    sourceMemberDescriptor py sessionIdHash d = .ok {
      sourceDocumentId := d.text .id
      sourceDocType := d.text .docType
      materialHashField := Field.documentHash.name
      materialHash := sourceDocumentHash py d
      memberRevisionHash := revisionFingerprint py d .documentHash
      sourceDocumentHash := sourceDocumentHash py d } := by
  have blank {f : Field} (listed : f ∈ [Field.contentHash, .coverageHash, .sourceHash]) : d.text f = "" := by
    simp [Doc.text, Doc.value?, unhashed f listed]
  have material : materialIdentity py d = .ok (.documentHash, sourceDocumentHash py d) := by
    simp [materialIdentity, blank]
  simp [sourceMemberDescriptor, identified, member, session, material, rescue, refuseIf]

/-- Ids of different families differ. -/
theorem OwnPrefix.ne {t u : SourceDocType} {docId docId' : String} (own : OwnPrefix t docId)
    (own' : OwnPrefix u docId') (differ : t ≠ u) : docId ≠ docId' := by
  rintro rfl
  exact differ (own.unique own')

theorem soleStore_get (docId : String) : (soleStore py d sessionIdHash hash descriptor).get docId =
    if docId = activeSourceRevisionPointerDocId sessionIdHash then some (solePointer py d sessionIdHash hash descriptor)
    else if docId = sourceRevisionManifestDocId sessionIdHash (soleRevision py descriptor) then
      some (soleManifest py d sessionIdHash hash descriptor)
    else if docId = sourceRevisionMemberDocId py sessionIdHash (soleRevision py descriptor) descriptor.sourceDocumentId
      then some (soleMember py d sessionIdHash descriptor)
    else if docId = d.text .id then some d
    else none := by
  have memberId : (soleMember py d sessionIdHash descriptor).text .id = sourceRevisionMemberDocId py sessionIdHash
      (soleRevision py descriptor) descriptor.sourceDocumentId :=
    Doc.text_of_str (by simp [soleMember, memberDocument, controlDocumentBase, membershipFields, Descriptor.fields,
      Doc.ofFields, Doc.get?_set])
  have manifestId : (soleManifest py d sessionIdHash hash descriptor).text .id =
      sourceRevisionManifestDocId sessionIdHash (soleRevision py descriptor) :=
    Doc.text_of_str (manifestDocument_get? (by simp))
  have pointerId : (solePointer py d sessionIdHash hash descriptor).text .id =
      activeSourceRevisionPointerDocId sessionIdHash := Doc.text_of_str (pointerDocument_get? (by simp))
  rw [soleStore, Store.get_assign, Store.get_assign, Store.get_assign, Store.get_assign, pointerId, manifestId,
    memberId]
  rfl

theorem soleStore_source {t : SourceDocType} (own : OwnPrefix t (d.text .id)) (member : isSourceMemberType t) :
    (soleStore py d sessionIdHash hash descriptor).get (d.text .id) = some d := by
  rw [soleStore_get, if_neg (own.ne (ownPrefix_pointer _) ?_), if_neg (own.ne (ownPrefix_manifest _ _) ?_),
    if_neg (own.ne (ownPrefix_member py _ _ _) ?_), if_pos rfl] <;>
  · rintro rfl
    cases member

theorem soleStore_published {t : SourceDocType} (described : sourceMemberDescriptor py sessionIdHash d = .ok descriptor)
    (own : OwnPrefix t (d.text .id)) (member : isSourceMemberType t) :
    Published py (soleStore py d sessionIdHash hash descriptor).get d sessionIdHash (soleRevision py descriptor) [d]
      [descriptor] where
  described := .cons described .nil
  members := by
    intro listed mem
    rw [List.mem_singleton.mp mem]
    refine ⟨soleMember py d sessionIdHash descriptor, ?_, fun _ _ => rfl⟩
    have prefixed := ownPrefix_member py sessionIdHash (soleRevision py descriptor) descriptor.sourceDocumentId
    rw [soleStore_get, if_neg (prefixed.ne (ownPrefix_pointer _) (by decide)),
      if_neg (prefixed.ne (ownPrefix_manifest _ _) (by decide))]
    exact if_pos rfl
  sources := by
    intro listed mem
    rw [List.mem_singleton.mp mem, soleStore_source own member]

theorem soleStore_resolves {t : SourceDocType} (like : hashLike sessionIdHash)
    (described : sourceMemberDescriptor py sessionIdHash d = .ok descriptor) (own : OwnPrefix t (d.text .id))
    (member : isSourceMemberType t) (total : sourceHash py [d] = .ok hash) (hashed : hashLike hash) :
    (soleStore py d sessionIdHash hash descriptor).resolve py sessionIdHash =
      .ok (soleResolved py d sessionIdHash hash descriptor) := by
  have memberId : (soleMembership py sessionIdHash descriptor).text .memberId ≠ "" := by
    rw [soleMembership, membership_memberId]
    exact memberId_ne_empty
  have has : (soleMembership py sessionIdHash descriptor).has .memberId := by
    rw [Doc.has, soleMembership, membership_get? (v := .str (sourceRevisionMemberDocId py
      sessionIdHash (soleRevision py descriptor) descriptor.sourceDocumentId))
      (by simp [membershipFields])]
    rfl
  have digest : manifestHash py sessionIdHash (soleRevision py descriptor) hash
      [soleMembership py sessionIdHash descriptor] ∅ = .ok (soleManifestHash py sessionIdHash hash descriptor) := by
    simp [manifestHash, has, refuseIf, sortOn, soleManifestHash]
  have same : SameControl (manifestDocument d sessionIdHash (soleRevision py descriptor) hash
      [soleMembership py sessionIdHash descriptor] ∅ (soleManifestHash py sessionIdHash hash descriptor))
      (soleManifest py d sessionIdHash hash descriptor) := fun _ _ => rfl
  have parsing := parseManifest_built (by simp) (by simpa using memberId.symm) (by simp) rfl digest same
  let parsed : ParsedPointer := ⟨soleRevision py descriptor,
    sourceRevisionManifestDocId sessionIdHash (soleRevision py descriptor),
    soleManifestHash py sessionIdHash hash descriptor, hash⟩
  have manifestAt : (soleStore py d sessionIdHash hash descriptor).get parsed.manifestId =
      some (soleManifest py d sessionIdHash hash descriptor) := by
    rw [soleStore_get, if_neg ((ownPrefix_manifest _ _).ne (ownPrefix_pointer _) (by decide)), if_pos rfl]
  obtain ⟨documents, perm, supports⟩ :=
    Published.supports (soleStore_published described own member) manifestAt parsing total
  rw [List.perm_singleton.mp perm] at supports
  have pointerAt : (soleStore py d sessionIdHash hash descriptor).get
      (activeSourceRevisionPointerDocId sessionIdHash) = some (solePointer py d sessionIdHash hash descriptor) := by
    rw [soleStore_get, if_pos rfl]
  exact (resolve_pinned_iff pointerAt).mpr ⟨like, _, _, parsePointer_built (hashLike_sha256Hash _ _)
    (hashLike_sha256Hash _ _) hashed (fun _ _ => rfl), supports, rfl⟩

end Sole

/-! ## A pinned store -/

section Pinned

variable (py : Platform)

def firstSession : String := sha256Hash py (.text "codex:first")

/-- The envelope of one session without any material. -/
def firstEnvelope : Doc := Doc.ofFields [
  (.id, .str "transcript_session:first"),
  (.docType, .str SourceDocType.transcriptSession.text),
  (.sessionIdHash, .str (firstSession py))]

def firstDescriptor : Descriptor where
  sourceDocumentId := "transcript_session:first"
  sourceDocType := SourceDocType.transcriptSession.text
  materialHashField := Field.documentHash.name
  materialHash := sourceDocumentHash py (firstEnvelope py)
  memberRevisionHash := revisionFingerprint py (firstEnvelope py) .documentHash
  sourceDocumentHash := sourceDocumentHash py (firstEnvelope py)

def firstRevision : String := sourceRevision py [firstDescriptor py]

def firstSourceHash : String :=
  buildSourceHash py [] [] ("", "") [] []

def firstMembership : Doc := membership py (firstSession py) (firstRevision py) (firstDescriptor py)

def firstManifestHash : String :=
  canonicalHash py (Doc.ofFields [
    (.schemaVersion, .str "couchdb_session_source_revision_manifest.v1"),
    (.sessionIdHash, .str (firstSession py)),
    (.sourceRevision, .str (firstRevision py)),
    (.sourceHash, .str (firstSourceHash py)),
    (.provenance, Doc.json ∅),
    (.members, .arr [(firstMembership py).json])]).json

def firstMember : Doc :=
  memberDocument py (firstEnvelope py) (firstSession py) (firstRevision py) (firstDescriptor py)

def firstManifest : Doc :=
  manifestDocument (firstEnvelope py) (firstSession py) (firstRevision py) (firstSourceHash py)
    [firstMembership py] ∅ (firstManifestHash py)

def firstPointer : Doc :=
  pointerDocument (firstEnvelope py) (firstSession py) (firstRevision py) (firstManifestHash py)
    (firstSourceHash py)

/-- One session, published. -/
def firstStore : Store :=
  (((Store.empty.assign (firstEnvelope py)).assign (firstMember py)).assign
    (firstManifest py)).assign (firstPointer py)

variable {py}

theorem firstEnvelope_get? (f : Field) : (firstEnvelope py).get? f =
    if f = .sessionIdHash then some (.str (firstSession py))
    else if f = .docType then some (.str SourceDocType.transcriptSession.text)
    else if f = .id then some (.str "transcript_session:first")
    else none := by
  simp only [firstEnvelope, Doc.ofFields, Doc.update_cons, Doc.update_nil, Doc.get?_set,
    Doc.get?_empty]

theorem firstEnvelope_id : (firstEnvelope py).text .id = "transcript_session:first" :=
  Doc.text_of_str (by simp [firstEnvelope_get?])

theorem firstEnvelope_docType : docType? (firstEnvelope py) = some .transcriptSession := by
  simp [docType?_eq_some_iff, firstEnvelope_get?]

theorem firstEnvelope_described :
    sourceMemberDescriptor py (firstSession py) (firstEnvelope py) = .ok (firstDescriptor py) := by
  have typed : (firstEnvelope py).text .docType = SourceDocType.transcriptSession.text :=
    text_docType_eq_iff.mpr firstEnvelope_docType
  rw [sourceMemberDescriptor_unhashed, firstEnvelope_id, typed, firstDescriptor]
  · rw [firstEnvelope_id]
    decide
  · simp [isSourceMember, firstEnvelope_docType, isSourceMemberType]
  · exact Doc.text_of_str (by simp [firstEnvelope_get?])
  · simp [firstEnvelope_get?]

/-- What the session is published as. -/
def firstResolved (py : Platform) : ResolvedSourceRevision :=
  resolved (firstSession py) [firstEnvelope py] (firstSourceHash py)
    (some (sourceRevisionManifestDocId (firstSession py) (firstRevision py))) false

theorem firstStore_resolves :
    (firstStore py).resolve py (firstSession py) = .ok (firstResolved py) := by
  have own : OwnPrefix .transcriptSession ((firstEnvelope py).text .id) := by
    rw [firstEnvelope_id]
    decide
  have total : sourceHash py [firstEnvelope py] = .ok (firstSourceHash py) := by
    have untimed : observedTimeBounds py [firstEnvelope py] = .ok ("", "") :=
      observedTimeBounds_untimed py (by simp [observedStarts, firstText, Doc.value?, firstEnvelope_get?])
        (by simp [observedEnds, firstText, Doc.value?, firstEnvelope_get?])
    simp [sourceHash, firstEnvelope_docType, firstSourceHash, untimed]
  exact soleStore_resolves (hashLike_sha256Hash _ _) firstEnvelope_described own rfl total (hashLike_sha256Hash _ _)

/-- Deleting the published envelope is refused, and the session still resolves. -/
theorem pinned_revision_unaffected_delete :
    ((Op.delete "transcript_session:first").exec referencePlatform
      (firstStore referencePlatform)).2.resolve referencePlatform (firstSession referencePlatform) =
        .ok (firstResolved referencePlatform) := by
  have own : OwnPrefix .transcriptSession "transcript_session:first" := by decide
  exact pinned_revision_unaffected _ _ _ firstStore_resolves rfl _
    (own.ne (ownPrefix_pointer _) (by decide)) trivial

end Pinned

end Neurons.Source
