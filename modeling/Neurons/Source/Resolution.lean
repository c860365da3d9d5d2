import Neurons.Source.WriteEffects

/-! # What a successful resolution says

The resolver inverted: a session resolves to a pinned revision exactly when its
pointer, the manifest, every member record and every source document are there
and check out. The checks of control documents do not read the fields a patch can
change, so they only depend on the rest of the document.
-/

namespace Neurons.Source

open Neurons.Lib

/-! ## Exceptions in the resolver -/

section Except

variable {α : Type}

@[simp] theorem ofExcept_except (x : Except PyError α) : (ofExcept x : Except PyError α) = x := by
  cases x <;> rfl

@[simp] theorem throw_except (e : PyError) : (throw e : Except PyError α) = .error e := by
  rfl

end Except

/-! ## Pinned resolution -/

section Pinned

variable (py : Platform)

/-- One membership entry checks out against the store and selects `source`. -/
def SelectsSource (get : String → Option Doc) (sessionIdHash sourceRevision : String)
    (membership source : Doc) : Prop :=
  ∃ member fields, get (membership.text .memberId) = some member ∧
    validateMemberRecord py sessionIdHash sourceRevision membership (some member) = .ok fields ∧
    get (membership.text .sourceDocumentId) = some source ∧
    validateSourceDocumentAgainstMember py sessionIdHash fields source = .ok ()

/-- The manifest below the pointer and its members check out and select `documents`. -/
def SelectsAll (get : String → Option Doc) (sessionIdHash : String) (parsed : ParsedPointer)
    (documents : List Doc) : Prop :=
  ∃ manifest members, get parsed.manifestId = some manifest ∧
    parseManifest py sessionIdHash parsed.activeRevision parsed.manifestHash parsed.sourceHash
      manifest = .ok members ∧
    List.Forall₂ (SelectsSource py get sessionIdHash parsed.activeRevision) members documents

/-- Everything below the pointer checks out and yields `documents`. -/
structure Supports (get : String → Option Doc) (sessionIdHash : String) (parsed : ParsedPointer)
    (documents : List Doc) : Prop where
  manifest : SelectsAll py get sessionIdHash parsed documents
  hash : resolvedSourceHash py documents = .ok parsed.sourceHash

variable {py} {get : String → Option Doc} {sessionIdHash : String}

theorem validateMemberRecord_missing {sourceRevision : String} {membership : Doc}
    {fields : MemberFields} :
    validateMemberRecord py sessionIdHash sourceRevision membership none ≠ .ok fields := by
  intro valid
  unfold validateMemberRecord at valid
  simp only [bind_eq_ok, reduceCtorEq, and_false, exists_false] at valid

theorem validateMemberAndSource_eq_ok {sourceRevision : String} {membership source : Doc} :
    validateMemberAndSource py (m := Except PyError) (fun docId => .ok (get docId)) sessionIdHash
      sourceRevision membership = .ok source ↔
    SelectsSource py get sessionIdHash sourceRevision membership source := by
  unfold validateMemberAndSource SelectsSource
  simp only [ok_bind, ofExcept_except, bind_eq_ok]
  constructor
  · rintro ⟨fields, record, done⟩
    cases memberAt : get (membership.text .memberId) with
    | none =>
        rw [memberAt] at record
        exact absurd record validateMemberRecord_missing
    | some member =>
        rw [memberAt] at record
        cases sourceAt : get (membership.text .sourceDocumentId) with
        | none => simp [sourceAt] at done
        | some found =>
            rw [sourceAt] at done
            simp only [bind_eq_ok, pure_eq_ok, Except.ok.injEq] at done
            obtain ⟨⟨⟩, valid, rfl⟩ := done
            exact ⟨member, fields, rfl, record, rfl, valid⟩
  · rintro ⟨member, fields, memberAt, record, sourceAt, valid⟩
    rw [memberAt, sourceAt]
    exact ⟨fields, record, by simp [valid]⟩

theorem resolvePinned_eq_ok {pointer : Doc} {r : ResolvedSourceRevision} :
    resolvePinned py (m := Except PyError) (fun docId => .ok (get docId)) sessionIdHash pointer =
        .ok r ↔
      ∃ parsed documents, parsePointer sessionIdHash pointer = .ok parsed ∧
        Supports py get sessionIdHash parsed documents ∧
        r = resolved sessionIdHash documents parsed.sourceHash (some parsed.manifestId) false := by
  unfold resolvePinned
  simp only [ok_bind, ofExcept_except, bind_eq_ok]
  constructor
  · rintro ⟨parsed, parsing, done⟩
    cases manifestAt : get parsed.manifestId with
    | none => simp [manifestAt] at done
    | some manifest =>
        rw [manifestAt] at done
        simp only [bind_eq_ok] at done
        obtain ⟨members, membership, documents, selected, hash, hashed, done⟩ := done
        split at done
        · simp at done
        · rename_i same
          rw [ne_eq, not_not] at same
          subst same
          cases done
          refine ⟨parsed, documents, parsing, ⟨⟨manifest, members, manifestAt, membership, ?_⟩,
            hashed⟩, rfl⟩
          exact (mapM_eq_ok_iff.mp selected).imp fun _ _ => validateMemberAndSource_eq_ok.mp
  · rintro ⟨parsed, documents, parsing, ⟨⟨manifest, members, manifestAt, membership, selected⟩,
      hashed⟩, rfl⟩
    refine ⟨parsed, parsing, ?_⟩
    rw [manifestAt]
    simp only [bind_eq_ok]
    refine ⟨members, membership, documents, mapM_eq_ok_iff.mpr ?_, parsed.sourceHash, hashed, ?_⟩
    · exact selected.imp fun _ _ => validateMemberAndSource_eq_ok.mpr
    · simp

theorem resolve_pinned_iff {s : Store} {pointer : Doc} {r : ResolvedSourceRevision}
    (pointerAt : s.get (activeSourceRevisionPointerDocId sessionIdHash) = some pointer) :
    s.resolve py sessionIdHash = .ok r ↔ hashLike sessionIdHash ∧
      ∃ parsed documents, parsePointer sessionIdHash pointer = .ok parsed ∧
        Supports py s.get sessionIdHash parsed documents ∧
        r = resolved sessionIdHash documents parsed.sourceHash (some parsed.manifestId) false := by
  rw [← resolvePinned_eq_ok, Store.resolve, resolveActiveSourceRevision]
  simp only [ofExcept_except, bind_eq_ok, assertHashLike_eq_ok, Store.reader, ok_bind, pointerAt]
  exact ⟨fun ⟨_, like, done⟩ => ⟨like, done⟩, fun ⟨like, done⟩ => ⟨(), like, done⟩⟩

/-- Without a pointer the legacy set is resolved, so a pinned result needs one. -/
theorem pointer_of_pinned {s : Store} {r : ResolvedSourceRevision}
    (resolves : s.resolve py sessionIdHash = .ok r) (pinned : r.isLegacyUnpinned = false) :
    ∃ pointer, s.get (activeSourceRevisionPointerDocId sessionIdHash) = some pointer := by
  cases pointerAt : s.get (activeSourceRevisionPointerDocId sessionIdHash) with
  | some pointer => exact ⟨pointer, rfl⟩
  | none =>
      rw [Store.resolve, resolveActiveSourceRevision] at resolves
      simp only [ofExcept_except, bind_eq_ok, Store.reader, ok_bind, pointerAt, loadLegacyDocuments,
        resolveLegacy, pure_eq_ok, Except.ok.injEq] at resolves
      obtain ⟨⟨⟩, -, hash, -, rfl⟩ := resolves
      cases pinned

end Pinned

/-! ## Descriptors -/

section Describe

variable {py : Platform} {sessionIdHash : String} {d : Doc} {descriptor : Descriptor}

/-- What a descriptor says about its document. -/
structure Describes (sessionIdHash : String) (d : Doc) (descriptor : Descriptor) : Prop where
  identified : descriptor.sourceDocumentId ≠ ""
  sameId : d.text .id = descriptor.sourceDocumentId
  member : isSourceMember d
  session : d.text .sessionIdHash = sessionIdHash
  docType : d.text .docType = descriptor.sourceDocType
  materialHash : hashLike descriptor.materialHash
  memberRevisionHash : hashLike descriptor.memberRevisionHash
  sourceDocumentHash : hashLike descriptor.sourceDocumentHash

theorem hashLike_materialIdentity {material : Field × String}
    (identified : materialIdentity py d = .ok material) : hashLike material.2 := by
  unfold materialIdentity at identified
  split at identified
  · simp only [bind_eq_ok, assertHashLike_eq_ok, pure_eq_ok, Except.ok.injEq] at identified
    obtain ⟨⟨⟩, like, rfl⟩ := identified
    exact like
  · cases identified
    exact hashLike_sha256Hash _ _

theorem sourceMemberDescriptor_eq_ok
    (described : sourceMemberDescriptor py sessionIdHash d = .ok descriptor) :
    Describes sessionIdHash d descriptor := by
  unfold sourceMemberDescriptor at described
  simp only [bind_eq_ok, refuseIf_eq_ok, not_or, not_not, pure_eq_ok, rescue_eq_ok] at described
  obtain ⟨⟨⟩, ⟨identified, member⟩, ⟨⟩, session, material, identity, shape⟩ := described
  cases shape
  exact ⟨identified, rfl, member, session, rfl, hashLike_materialIdentity identity,
    hashLike_sha256Hash _ _, hashLike_sha256Hash _ _⟩

theorem validateSource_eq_ok {fields : MemberFields}
    (valid : validateSourceDocumentAgainstMember py sessionIdHash fields d = .ok ()) :
    sourceMemberDescriptor py sessionIdHash d = .ok fields.descriptor := by
  unfold validateSourceDocumentAgainstMember at valid
  simp only [bind_eq_ok, refuseIf_eq_ok, not_not] at valid
  obtain ⟨descriptor, described, rfl⟩ := valid
  exact described

end Describe

/-! ## Checked control documents -/

section Checked

variable {py : Platform} {sessionIdHash : String}

theorem validateMemberRecord_eq_ok {sourceRevision : String} {membership member : Doc}
    {fields : MemberFields}
    (valid : validateMemberRecord py sessionIdHash sourceRevision membership (some member) =
      .ok fields) :
    docType? member = some .sourceRevisionMember ∧ member.text .sessionIdHash = sessionIdHash ∧
      membership.text .memberId = sourceRevisionMemberDocId py sessionIdHash sourceRevision
        (membership.text .sourceDocumentId) := by
  unfold validateMemberRecord at valid
  simp only [bind_eq_ok, refuseIf_eq_ok, not_or, not_not, pure_eq_ok] at valid
  obtain ⟨⟨⟩, -, ⟨⟩, memberId, memberHash, -, materialHash, -, revisionHash, -, documentHash, -,
    ⟨⟩, checks, shape⟩ := valid
  cases shape
  exact ⟨checks.1, checks.2.1, memberId⟩

theorem parseManifest_eq_ok {activeRevision manifestHash sourceHash : String} {manifest : Doc}
    {members : List Doc}
    (parsing : parseManifest py sessionIdHash activeRevision manifestHash sourceHash manifest =
      .ok members) :
    docType? manifest = some .sourceRevisionManifest ∧
      manifest.text .sessionIdHash = sessionIdHash := by
  unfold parseManifest at parsing
  simp only [bind_eq_ok, refuseIf_eq_ok, not_or, not_not] at parsing
  obtain ⟨⟨⟩, checks, -⟩ := parsing
  exact ⟨checks.1, checks.2.2.1⟩

theorem manifestId_of_parsePointer {pointer : Doc} {parsed : ParsedPointer}
    (parsing : parsePointer sessionIdHash pointer = .ok parsed) :
    parsed.manifestId = sourceRevisionManifestDocId sessionIdHash parsed.activeRevision := by
  unfold parsePointer at parsing
  simp only [bind_eq_ok, refuseIf_eq_ok, not_or, not_not, pure_eq_ok] at parsing
  obtain ⟨⟨⟩, -, revision, -, ⟨⟩, manifestId, manifestHash, -, sourceHash, -, shape⟩ := parsing
  cases shape
  exact manifestId

end Checked

/-! ## What the checks read -/

/-- The documents agree on every field a patch cannot change. -/
def SameControl (d d' : Doc) : Prop := ∀ f ∉ patchFields, d'.get? f = d.get? f

section Reads

variable {py : Platform} {d d' : Doc} (same : SameControl d d')

include same

theorem SameControl.text {f : Field} (other : f ∉ patchFields) : d'.text f = d.text f :=
  Doc.text_congr (same f other)

theorem SameControl.docType : docType? d' = docType? d := docType?_congr (same _ (by decide))

theorem SameControl.parseManifest (sessionIdHash activeRevision manifestHash sourceHash : String) :
    parseManifest py sessionIdHash activeRevision manifestHash sourceHash d' =
      parseManifest py sessionIdHash activeRevision manifestHash sourceHash d := by
  unfold Source.parseManifest parseMembers
  rw [same.docType, same.text (by decide : Field.id ∉ patchFields),
    same.text (by decide : Field.sessionIdHash ∉ patchFields),
    same.text (by decide : Field.sourceRevision ∉ patchFields),
    same.text (by decide : Field.sourceHash ∉ patchFields),
    same.text (by decide : Field.manifestHash ∉ patchFields),
    same _ (by decide : Field.members ∉ patchFields),
    same _ (by decide : Field.provenance ∉ patchFields)]

theorem SameControl.validateMemberRecord (sessionIdHash sourceRevision : String) (membership : Doc) :
    validateMemberRecord py sessionIdHash sourceRevision membership (some d') =
      validateMemberRecord py sessionIdHash sourceRevision membership (some d) := by
  have fields (m : MemberFields) :
      m.fields.any (fun entry => decide (d'.get? entry.1 ≠ some entry.2)) =
        m.fields.any (fun entry => decide (d.get? entry.1 ≠ some entry.2)) := by
    simp only [MemberFields.fields, Descriptor.fields, List.any_cons, List.any_nil,
      same _ (by decide : Field.memberId ∉ patchFields),
      same _ (by decide : Field.sourceDocumentId ∉ patchFields),
      same _ (by decide : Field.sourceDocType ∉ patchFields),
      same _ (by decide : Field.materialHashField ∉ patchFields),
      same _ (by decide : Field.materialHash ∉ patchFields),
      same _ (by decide : Field.memberRevisionHash ∉ patchFields),
      same _ (by decide : Field.sourceDocumentHash ∉ patchFields)]
  unfold Source.validateMemberRecord
  simp only [same.docType, same.text (by decide : Field.sessionIdHash ∉ patchFields),
    same.text (by decide : Field.sourceRevision ∉ patchFields),
    same.text (by decide : Field.memberHash ∉ patchFields), fields]

end Reads

end Neurons.Source
