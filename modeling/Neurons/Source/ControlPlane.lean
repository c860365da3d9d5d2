import Neurons.Source.SourceHash

/-! # The documents an activation publishes

Member records, the manifest and the pointer as `activate_source_revision` builds
them, and the converse of resolution: where they are stored, up to what a patch
can change, together with the source documents they describe, the session
resolves.
-/

namespace Neurons.Source

open Neurons.Lib

/-! ## Building control documents -/

section Build

variable (py : Platform)

/-- The fields all control documents of an activation share. -/
def controlDocumentBase (docId : String) (docType : SourceDocType) (sessionDocument : Doc)
    (sessionIdHash : String) : List (Field × Json) :=
  [(.id, .str docId),
    (.docType, .str docType.text),
    (.schemaVersion, .str couchdbSourceSchemaVersion),
    (.owner, .str couchdbSourceOwner),
    (.provider, .str (sessionDocument.text .provider)),
    (.project, .str (sessionDocument.text .project)),
    (.sessionIdHash, .str sessionIdHash),
    (.sourceLocatorHash, .str (sessionDocument.text .sourceLocatorHash)),
    (.redactionVersion, .str (sessionDocument.text .redactionVersion))]

def membershipFields (sessionIdHash sourceRevision : String) (descriptor : Descriptor) :
    List (Field × Json) :=
  let memberId :=
    sourceRevisionMemberDocId py sessionIdHash sourceRevision descriptor.sourceDocumentId
  (.memberId, .str memberId) :: descriptor.fields ++
    [(.memberHash, .str (memberHash py sessionIdHash sourceRevision memberId descriptor))]

/-- A manifest's entry for one source document. -/
def membership (sessionIdHash sourceRevision : String) (descriptor : Descriptor) : Doc :=
  Doc.ofFields (membershipFields py sessionIdHash sourceRevision descriptor)

def memberDocument (sessionDocument : Doc) (sessionIdHash sourceRevision : String)
    (descriptor : Descriptor) : Doc :=
  Doc.ofFields (controlDocumentBase
    (sourceRevisionMemberDocId py sessionIdHash sourceRevision descriptor.sourceDocumentId)
    .sourceRevisionMember sessionDocument sessionIdHash ++
      (.sourceRevision, .str sourceRevision) ::
        membershipFields py sessionIdHash sourceRevision descriptor)

def manifestDocument (sessionDocument : Doc) (sessionIdHash sourceRevision sourceHash : String)
    (members : List Doc) (provenance : Doc) (manifestHash : String) : Doc :=
  Doc.ofFields (controlDocumentBase (sourceRevisionManifestDocId sessionIdHash sourceRevision)
    .sourceRevisionManifest sessionDocument sessionIdHash ++
      ([(.sourceRevision, .str sourceRevision),
        (.sourceHash, .str sourceHash),
        (.members, .arr ((sortOn memberKey members).map Doc.json)),
        (.provenance, provenance.json),
        (.manifestHash, .str manifestHash)] : List (Field × Json)))

def pointerDocument (sessionDocument : Doc) (sessionIdHash sourceRevision manifestHash sourceHash :
    String) : Doc :=
  Doc.ofFields (controlDocumentBase (activeSourceRevisionPointerDocId sessionIdHash)
    .activeSourceRevision sessionDocument sessionIdHash ++
      ([(.activeRevision, .str sourceRevision),
        (.manifestId, .str (sourceRevisionManifestDocId sessionIdHash sourceRevision)),
        (.manifestHash, .str manifestHash),
        (.sourceHash, .str sourceHash)] : List (Field × Json)))

end Build

/-! ## Reading them back -/

section Read

variable {py : Platform} {sessionDocument : Doc}
  {sessionIdHash sourceRevision sourceHash manifestHash : String} {descriptor : Descriptor}

theorem membership_get? {f : Field} {v : Json}
    (listed : (f, v) ∈ membershipFields py sessionIdHash sourceRevision descriptor) :
    (membership py sessionIdHash sourceRevision descriptor).get? f = some v := by
  simp only [membershipFields, Descriptor.fields, List.cons_append, List.nil_append, List.mem_cons,
    Prod.mk.injEq, List.not_mem_nil, or_false] at listed
  rcases listed with ⟨rfl, rfl⟩ | ⟨rfl, rfl⟩ | ⟨rfl, rfl⟩ | ⟨rfl, rfl⟩ | ⟨rfl, rfl⟩ | ⟨rfl, rfl⟩ |
    ⟨rfl, rfl⟩ | ⟨rfl, rfl⟩ <;>
    simp [membership, membershipFields, Descriptor.fields, Doc.ofFields, Doc.get?_set]

theorem membership_text {f : Field} {text : String}
    (listed : (f, .str text) ∈ membershipFields py sessionIdHash sourceRevision descriptor) :
    (membership py sessionIdHash sourceRevision descriptor).text f = text :=
  Doc.text_of_str (membership_get? listed)

theorem membership_memberId :
    (membership py sessionIdHash sourceRevision descriptor).text .memberId =
      sourceRevisionMemberDocId py sessionIdHash sourceRevision descriptor.sourceDocumentId :=
  membership_text (by simp [membershipFields])

theorem membership_sourceDocumentId :
    (membership py sessionIdHash sourceRevision descriptor).text .sourceDocumentId =
      descriptor.sourceDocumentId :=
  membership_text (by simp [membershipFields, Descriptor.fields])

theorem memberDocument_get? {f : Field} {v : Json}
    (listed : (f, v) ∈ membershipFields py sessionIdHash sourceRevision descriptor) :
    (memberDocument py sessionDocument sessionIdHash sourceRevision descriptor).get? f = some v := by
  simp only [membershipFields, Descriptor.fields, List.cons_append, List.nil_append, List.mem_cons,
    Prod.mk.injEq, List.not_mem_nil, or_false] at listed
  rcases listed with ⟨rfl, rfl⟩ | ⟨rfl, rfl⟩ | ⟨rfl, rfl⟩ | ⟨rfl, rfl⟩ | ⟨rfl, rfl⟩ | ⟨rfl, rfl⟩ |
    ⟨rfl, rfl⟩ | ⟨rfl, rfl⟩ <;>
    simp [memberDocument, controlDocumentBase, membershipFields, Descriptor.fields, Doc.ofFields,
      Doc.get?_set]

variable (py sessionDocument sessionIdHash sourceRevision descriptor) in
theorem memberDocument_base :
    docType? (memberDocument py sessionDocument sessionIdHash sourceRevision descriptor) =
        some .sourceRevisionMember ∧
      (memberDocument py sessionDocument sessionIdHash sourceRevision descriptor).get?
        .sessionIdHash = some (.str sessionIdHash) ∧
      (memberDocument py sessionDocument sessionIdHash sourceRevision descriptor).get?
        .sourceRevision = some (.str sourceRevision) := by
  rw [docType?_eq_some_iff]
  refine ⟨?_, ?_, ?_⟩ <;>
    simp [memberDocument, controlDocumentBase, membershipFields, Descriptor.fields, Doc.ofFields,
      Doc.get?_set]

theorem requireHash_of_hashLike {hash : String} (like : hashLike hash) :
    requireHash hash = .ok hash := by
  simp [requireHash, rescue, assertHashLike_of_hashLike like]

theorem hashLike_memberHash {memberId : String} :
    hashLike (memberHash py sessionIdHash sourceRevision memberId descriptor) :=
  hashLike_sha256Hash _ _

theorem memberId_ne_empty {sourceId : String} :
    sourceRevisionMemberDocId py sessionIdHash sourceRevision sourceId ≠ "" := by
  intro blank
  have own := ownPrefix_member py sessionIdHash sourceRevision sourceId
  rw [blank] at own
  exact absurd own (by decide)

/-- A member record checks out against the manifest entry it was built with. -/
theorem validateMemberRecord_built {d member : Doc} (describes : Describes sessionIdHash d descriptor)
    (same : SameControl (memberDocument py sessionDocument sessionIdHash sourceRevision descriptor)
      member) :
    validateMemberRecord py sessionIdHash sourceRevision
      (membership py sessionIdHash sourceRevision descriptor) (some member) =
      .ok ⟨sourceRevisionMemberDocId py sessionIdHash sourceRevision descriptor.sourceDocumentId,
        descriptor⟩ := by
  have sourceType : (membership py sessionIdHash sourceRevision descriptor).text .sourceDocType =
      descriptor.sourceDocType := membership_text (by simp [membershipFields, Descriptor.fields])
  have hashField : (membership py sessionIdHash sourceRevision descriptor).text .materialHashField =
      descriptor.materialHashField :=
    membership_text (by simp [membershipFields, Descriptor.fields])
  have material : (membership py sessionIdHash sourceRevision descriptor).text .materialHash =
      descriptor.materialHash := membership_text (by simp [membershipFields, Descriptor.fields])
  have revisionHash : (membership py sessionIdHash sourceRevision descriptor).text
      .memberRevisionHash = descriptor.memberRevisionHash :=
    membership_text (by simp [membershipFields, Descriptor.fields])
  have documentHash : (membership py sessionIdHash sourceRevision descriptor).text
      .sourceDocumentHash = descriptor.sourceDocumentHash :=
    membership_text (by simp [membershipFields, Descriptor.fields])
  have entryHash : (membership py sessionIdHash sourceRevision descriptor).text .memberHash =
      memberHash py sessionIdHash sourceRevision (sourceRevisionMemberDocId py sessionIdHash
        sourceRevision descriptor.sourceDocumentId) descriptor :=
    membership_text (by simp [membershipFields])
  have memberHashAt :
      (memberDocument py sessionDocument sessionIdHash sourceRevision descriptor).text .memberHash =
        memberHash py sessionIdHash sourceRevision (sourceRevisionMemberDocId py sessionIdHash
          sourceRevision descriptor.sourceDocumentId) descriptor :=
    Doc.text_of_str (memberDocument_get? (by simp [membershipFields]))
  obtain ⟨typed, session, revision⟩ :=
    memberDocument_base py sessionDocument sessionIdHash sourceRevision descriptor
  have selectable : (SourceDocType.ofText? descriptor.sourceDocType).all
      (fun t => !isSourceMemberType t) = false := by
    have member := describes.member
    unfold isSourceMember at member
    cases found : docType? d with
    | none => simp [found] at member
    | some t =>
        rw [← describes.docType, text_docType_eq_iff.mpr found,
          SourceDocType.ofText?_eq_some_iff.mpr rfl]
        simpa [found] using member
  have listed : (MemberFields.mk (sourceRevisionMemberDocId py sessionIdHash sourceRevision
      descriptor.sourceDocumentId) descriptor).fields.any (fun entry => decide
        ((memberDocument py sessionDocument sessionIdHash sourceRevision descriptor).get? entry.1 ≠
          some entry.2)) = false := by
    simp only [List.any_eq_false, decide_eq_true_eq, not_not]
    rintro ⟨f, v⟩ mem
    refine memberDocument_get? ?_
    rcases List.mem_cons.mp mem with here | rest
    · exact here ▸ List.mem_cons_self
    · exact List.mem_cons_of_mem _ (List.mem_append_left _ rest)
  rw [same.validateMemberRecord]
  unfold validateMemberRecord
  simp only [membership_sourceDocumentId, membership_memberId, sourceType, hashField, material, revisionHash, documentHash,
    entryHash, memberHashAt,
    requireHash_of_hashLike describes.materialHash,
    requireHash_of_hashLike describes.memberRevisionHash,
    requireHash_of_hashLike describes.sourceDocumentHash,
    requireHash_of_hashLike hashLike_memberHash,
    Doc.text_of_str session, Doc.text_of_str revision, typed, selectable, listed,
    describes.identified, memberId_ne_empty, refuseIf, ok_bind]
  simp

end Read

/-! ## Provenance -/

section Provenance

end Provenance

/-! ## The built revision resolves -/

section Built

variable {py : Platform} {sessionDocument : Doc} {sessionIdHash revision hash : String}

theorem mapM_ofJson?_json (documents : List Doc) :
    (documents.map Doc.json).mapM Doc.ofJson? = some documents := by
  induction documents with
  | nil => rfl
  | cons d rest ih => simp [List.mapM_cons, ih]

theorem manifestHash_sortOn {members : List Doc} {provenance : Doc} {digest : String}
    (hashed : manifestHash py sessionIdHash revision hash members provenance = .ok digest) :
    manifestHash py sessionIdHash revision hash (sortOn memberKey members) provenance =
      .ok digest := by
  unfold manifestHash at hashed ⊢
  have any : (sortOn memberKey members).any (fun m => !m.has .memberId) =
      members.any (fun m => !m.has .memberId) := (sortOn_perm memberKey members).any_eq
  rw [any, sortOn_sortOn]
  exact hashed

theorem manifestDocument_get? {members : List Doc} {provenance : Doc} {digest : String} {f : Field}
    {v : Json} (listed : (f, v) ∈
      [(Field.id, Json.str (sourceRevisionManifestDocId sessionIdHash revision)),
        (.docType, .str SourceDocType.sourceRevisionManifest.text),
        (.sessionIdHash, .str sessionIdHash), (.sourceRevision, .str revision),
        (.sourceHash, .str hash), (.members, .arr ((sortOn memberKey members).map Doc.json)),
        (.provenance, provenance.json), (.manifestHash, .str digest)]) :
    (manifestDocument sessionDocument sessionIdHash revision hash members provenance
      digest).get? f = some v := by
  simp only [List.mem_cons, Prod.mk.injEq, List.not_mem_nil, or_false] at listed
  rcases listed with ⟨rfl, rfl⟩ | ⟨rfl, rfl⟩ | ⟨rfl, rfl⟩ | ⟨rfl, rfl⟩ | ⟨rfl, rfl⟩ |
    ⟨rfl, rfl⟩ | ⟨rfl, rfl⟩ | ⟨rfl, rfl⟩ <;>
    simp [manifestDocument, controlDocumentBase, Doc.ofFields, Doc.get?_set]

/-- A built manifest parses to its entries in the order of their ids. -/
theorem parseManifest_built {members : List Doc} {provenance manifest : Doc} {digest : String}
    (nonempty : members ≠ []) (identified : "" ∉ members.map (·.text .memberId))
    (distinct : (members.map (·.text .memberId)).Nodup)
    (normalized : validateProvenance provenance.json true = .ok provenance)
    (hashed : manifestHash py sessionIdHash revision hash members provenance = .ok digest)
    (same : SameControl
      (manifestDocument sessionDocument sessionIdHash revision hash members provenance digest)
      manifest) :
    parseManifest py sessionIdHash revision digest hash manifest =
      .ok (sortOn memberKey members) := by
  have perm := sortOn_perm memberKey members
  let built := manifestDocument sessionDocument sessionIdHash revision hash members provenance digest
  have docId : built.get? .id = some (.str (sourceRevisionManifestDocId sessionIdHash revision)) :=
    manifestDocument_get? (by simp)
  have typed : built.get? .docType = some (.str SourceDocType.sourceRevisionManifest.text) :=
    manifestDocument_get? (by simp)
  have session : built.get? .sessionIdHash = some (.str sessionIdHash) :=
    manifestDocument_get? (by simp)
  have revised : built.get? .sourceRevision = some (.str revision) :=
    manifestDocument_get? (by simp)
  have hashAt : built.get? .sourceHash = some (.str hash) := manifestDocument_get? (by simp)
  have membersAt : built.get? .members = some (.arr ((sortOn memberKey members).map Doc.json)) :=
    manifestDocument_get? (by simp)
  have provenanceAt : built.get? .provenance = some provenance.json :=
    manifestDocument_get? (by simp)
  have digestAt : built.get? .manifestHash = some (.str digest) := manifestDocument_get? (by simp)
  have parsed : parseMembers built = .ok (sortOn memberKey members) := by
    unfold parseMembers
    rw [membersAt]
    cases sorted : sortOn memberKey members with
    | nil =>
        rw [sorted] at perm
        exact absurd perm.nil_eq.symm nonempty
    | cons first rest =>
        have objects := mapM_ofJson?_json (first :: rest)
        rw [List.map_cons] at objects
        simp [objects]
  rw [same.parseManifest]
  change parseManifest py sessionIdHash revision digest hash built = _
  unfold parseManifest
  simp only [docType?_eq_some_iff.mpr typed, Doc.text_of_str docId, Doc.text_of_str session,
    Doc.text_of_str revised, Doc.text_of_str hashAt, Doc.text_of_str digestAt, provenanceAt, parsed,
    Option.getD_some, normalized, manifestHash_sortOn hashed, sortOn_sortOn, ok_bind]
  have identifiedSorted : "" ∉ (sortOn memberKey members).map (·.text .memberId) :=
    fun mem => identified ((perm.map _).mem_iff.mp mem)
  have distinctSorted : ((sortOn memberKey members).map (·.text .memberId)).Nodup :=
    (perm.map _).nodup_iff.mpr distinct
  simp [refuseIf, identifiedSorted, distinctSorted]

variable (py) in
/-- The documents of a published revision are stored: every member record, as far
    as its checks read it, and every source document. -/
structure Published (get : String → Option Doc) (sessionDocument : Doc)
    (sessionIdHash revision : String) (staged : List Doc) (descriptors : List Descriptor) :
    Prop where
  described : List.Forall₂
    (fun d descriptor => sourceMemberDescriptor py sessionIdHash d = .ok descriptor)
    staged descriptors
  members : ∀ descriptor ∈ descriptors, ∃ member,
    get (sourceRevisionMemberDocId py sessionIdHash revision descriptor.sourceDocumentId) =
      some member ∧
    SameControl (memberDocument py sessionDocument sessionIdHash revision descriptor) member
  sources : ∀ d ∈ staged, get (d.text .id) = some d

/-- With its manifest in place, a published revision resolves. -/
theorem Published.supports {get : String → Option Doc} {staged : List Doc}
    {descriptors : List Descriptor} {manifest : Doc} {parsed : ParsedPointer}
    (published : Published py get sessionDocument sessionIdHash parsed.activeRevision staged
      descriptors)
    (manifestAt : get parsed.manifestId = some manifest)
    (parsing : parseManifest py sessionIdHash parsed.activeRevision parsed.manifestHash
      parsed.sourceHash manifest = .ok (sortOn memberKey (descriptors.map
        (membership py sessionIdHash parsed.activeRevision))))
    (hashed : sourceHash py staged = .ok parsed.sourceHash) :
    ∃ documents, documents.Perm staged ∧ Supports py get sessionIdHash parsed documents := by
  -- pair every document with its descriptor and sort the pairs as the manifest does
  let entry := membership py sessionIdHash parsed.activeRevision
  let pairs := sortOn (fun pair => memberKey (entry pair.2)) (staged.zip descriptors)
  have sameLength := published.described.length_eq
  have pairsPerm : pairs.Perm (staged.zip descriptors) := sortOn_perm _ _
  have entries : sortOn memberKey (descriptors.map entry) = pairs.map (fun pair => entry pair.2) := by
    have unzip : descriptors = (staged.zip descriptors).map Prod.snd :=
      (List.map_snd_zip sameLength.ge).symm
    conv_lhs => rw [unzip, List.map_map, sortOn_map]
    rfl
  have documents : (pairs.map Prod.fst).Perm staged := by
    have zipped := pairsPerm.map Prod.fst
    rwa [List.map_fst_zip sameLength.le] at zipped
  refine ⟨pairs.map Prod.fst, documents, ⟨manifest, _, manifestAt, parsing, ?_⟩, ?_⟩
  · rw [entries, List.forall₂_map_left_iff, List.forall₂_map_right_iff, List.forall₂_same]
    rintro ⟨d, descriptor⟩ mem
    have zipped := pairsPerm.mem_iff.mp mem
    have described : sourceMemberDescriptor py sessionIdHash d = .ok descriptor :=
      (List.forall₂_iff_zip.mp published.described).2 zipped
    have describes := sourceMemberDescriptor_eq_ok described
    obtain ⟨member, memberAt, same⟩ :=
      published.members descriptor (List.of_mem_zip zipped).2
    refine ⟨member, _, ?_, validateMemberRecord_built describes same, ?_, ?_⟩
    · rw [membership_memberId]
      exact memberAt
    · rw [membership_sourceDocumentId, ← describes.sameId]
      exact published.sources d (List.of_mem_zip zipped).1
    · simp [validateSourceDocumentAgainstMember, described, refuseIf]
  · rw [resolvedSourceHash, rescue_eq_ok]
    exact sourceHash_perm documents.symm hashed

theorem pointerDocument_get? {digest : String} {f : Field} {v : Json} (listed : (f, v) ∈
      [(Field.id, Json.str (activeSourceRevisionPointerDocId sessionIdHash)),
        (.docType, .str SourceDocType.activeSourceRevision.text),
        (.sessionIdHash, .str sessionIdHash), (.activeRevision, .str revision),
        (.manifestId, .str (sourceRevisionManifestDocId sessionIdHash revision)),
        (.manifestHash, .str digest), (.sourceHash, .str hash)]) :
    (pointerDocument sessionDocument sessionIdHash revision digest hash).get? f = some v := by
  simp only [List.mem_cons, Prod.mk.injEq, List.not_mem_nil, or_false] at listed
  rcases listed with ⟨rfl, rfl⟩ | ⟨rfl, rfl⟩ | ⟨rfl, rfl⟩ | ⟨rfl, rfl⟩ | ⟨rfl, rfl⟩ |
    ⟨rfl, rfl⟩ | ⟨rfl, rfl⟩ <;>
    simp [pointerDocument, controlDocumentBase, Doc.ofFields, Doc.get?_set]

/-- A built pointer, as stored, parses to what it was built from. -/
theorem parsePointer_built {digest : String} {pointer : Doc} (revised : hashLike revision)
    (digested : hashLike digest) (hashed : hashLike hash)
    (same : ∀ f ∉ bookkeepingFields, pointer.get? f =
      (pointerDocument sessionDocument sessionIdHash revision digest hash).get? f) :
    parsePointer sessionIdHash pointer = .ok
      ⟨revision, sourceRevisionManifestDocId sessionIdHash revision, digest, hash⟩ := by
  have read {f : Field} {text : String} (other : f ∉ bookkeepingFields)
      (stored : (pointerDocument sessionDocument sessionIdHash revision digest hash).get? f =
        some (.str text)) : pointer.text f = text :=
    Doc.text_of_str ((same f other).trans stored)
  have docId : pointer.text .id = activeSourceRevisionPointerDocId sessionIdHash :=
    read (by decide) (pointerDocument_get? (by simp))
  have typed : pointer.text .docType = SourceDocType.activeSourceRevision.text :=
    read (by decide) (pointerDocument_get? (by simp))
  have session : pointer.text .sessionIdHash = sessionIdHash :=
    read (by decide) (pointerDocument_get? (by simp))
  have active : pointer.text .activeRevision = revision :=
    read (by decide) (pointerDocument_get? (by simp))
  have manifestId : pointer.text .manifestId = sourceRevisionManifestDocId sessionIdHash revision :=
    read (by decide) (pointerDocument_get? (by simp))
  have digestAt : pointer.text .manifestHash = digest :=
    read (by decide) (pointerDocument_get? (by simp))
  have hashAt : pointer.text .sourceHash = hash :=
    read (by decide) (pointerDocument_get? (by simp))
  unfold parsePointer
  simp only [text_docType_eq_iff.mp typed, docId, session, active, manifestId, digestAt, hashAt,
    requireHash_of_hashLike revised, requireHash_of_hashLike digested,
    requireHash_of_hashLike hashed, ok_bind]
  simp [refuseIf]

end Built

end Neurons.Source
