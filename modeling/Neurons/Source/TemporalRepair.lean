import Neurons.Source.PinnedRevision
import Neurons.Source.Copies

/-! # Repairing the time of one member

The successor of an active revision whose candidate chunk gets new times: every member is copied
from its origin, and the candidate is found by the identity that raw documents, corrective copies
and generic copies of either share (`build_temporal_metadata_successor_documents`).
-/

namespace Neurons.Source

open Neurons.Lib

section Repair

variable (py : Platform)

/-- `document.get(field) is not None`. -/
def givenField (d : Doc) (f : Field) : Bool := (d.get? f).any (· ≠ .null)

/-- The stable origin identity shared by raw and corrective copies. -/
def sourceDocumentLogicalIdentity (document : Doc) : Except PyError String := do
  if givenField document .currentSourceScope ∨ givenField document .supersedesSourceDocumentHash then
    rescue (do
        assertHashLike "current_source_scope" (document.text .currentSourceScope)
        assertHashLike "supersedes_source_document_hash" (document.text .supersedesSourceDocumentHash))
      [.valueError] (.resolution "source revision current copy logical identity is invalid")
    return document.text .supersedesSourceDocumentHash
  else
    let originId := if document.text .sourceSnapshotOriginId ≠ "" then document.text .sourceSnapshotOriginId
      else document.text .id
    refuseIf (originId = "") (.resolution "source revision logical identity is invalid")
    return sha256Hash py (.text originId)

-- `getDocument` is `store.get`
variable (getDocument : String → Except PyError (Option Doc))

/-- A generic copy's immediate origin is a raw document or a corrective copy of its type and session. -/
def validatedImmediateSnapshotOriginId (sessionIdHash : String) (document : Doc) : Except PyError String := do
  let originId := document.text .sourceSnapshotOriginId
  rescue (assertHashLike "source_snapshot_scope" (document.text .sourceSnapshotScope)) [.valueError]
    (.resolution "source revision snapshot origin is invalid")
  refuseIf (originId = "") (.resolution "source revision snapshot origin is invalid")
  match ← getDocument originId with
  | none => .error (.resolution "source revision snapshot origin is unresolvable")
  | some stored => do
      refuseIf (stored.text .id ≠ originId ∨ stored.text .docType ≠ document.text .docType
          ∨ stored.text .sessionIdHash ≠ sessionIdHash)
        (.resolution "source revision snapshot origin is unresolvable")
      refuseIf (isRevisionSnapshotCopy stored) (.resolution "source revision snapshot origin is unsupported")
      return originId

/-- A generic copy under the id of its origin. -/
def rebase (sessionIdHash : String) (document : Doc) : Except PyError Doc := do
  if isRevisionSnapshotCopy document then
    let originId ← validatedImmediateSnapshotOriginId getDocument sessionIdHash document
    return (document.set .id (.str originId)).set .sourceSnapshotOriginId (.str originId)
  else return document

/-- The document with the times it is observed between. -/
def retime (observedAtStart observedAtEnd : String) (document : Doc) : Doc :=
  (document.set .observedAtStart (.str observedAtStart)).set .observedAtEnd (.str observedAtEnd)

def buildTemporalMetadataSuccessorDocuments (active : ResolvedSourceRevision)
    (sourceDocumentId observedAtStart observedAtEnd : String) : Except PyError (List Doc) := do
  refuseIf (sourceDocumentId = "") (.resolution "source revision logical identity is invalid")
  let documents ← active.documents.mapM (rebase getDocument active.sessionIdHash)
  let matched ← documents.mapM fun document =>
    return decide ((← sourceDocumentLogicalIdentity py document) = sha256Hash py (.text sourceDocumentId))
  let matchingDocuments := (documents.zip matched).filter Prod.snd
  refuseIf (matchingDocuments.length ≠ 1
      ∨ (matchingDocuments.map Prod.fst).any (·.text .docType ≠ SourceDocType.conversationChunk.text))
    (.resolution "active source revision temporal member is not uniquely resolvable")
  let documents := (documents.zip matched).map fun (document, hit) =>
    if hit then retime observedAtStart observedAtEnd document else document
  let snapshotHash ← sourceDocumentSetRevision py active.sessionIdHash documents
  buildRevisionScopedSourceDocuments py documents snapshotHash .snapshot

end Repair

/-! ## Lists related member by member -/

section Lists

variable {α β γ κ ι : Type} {R : α → β → Prop} {S : β → γ → Prop} {l : List α} {l' : List β} {l'' : List γ}

theorem forall₂_zip_right (first : List.Forall₂ R l l') (second : List.Forall₂ S l' l'') :
    List.Forall₂ (fun a p => R a p.1 ∧ S p.1 p.2) l (l'.zip l'') := by
  induction first generalizing l'' with
  | nil => exact .nil
  | cons here _ ih =>
      cases second with
      | cons there rest => exact .cons ⟨here, there⟩ (ih rest)

theorem forall₂_comp (first : List.Forall₂ R l l') (second : List.Forall₂ S l' l'') :
    List.Forall₂ (Relation.Comp R S) l l'' := by
  induction first generalizing l'' with
  | nil =>
      cases second
      exact .nil
  | cons here _ ih =>
      cases second with
      | cons there rest => exact .cons ⟨_, here, there⟩ (ih rest)

/-- Where related elements have equal keys on both sides, the keys are distinct on both sides. -/
theorem nodup_map_iff_of_forall₂ {f : α → κ} {g : β → ι} (related : List.Forall₂ R l l')
    (same : ∀ {a b a' b'}, R a b → R a' b' → (g b = g b' ↔ f a = f a')) : (l'.map g).Nodup ↔ (l.map f).Nodup := by
  induction related with
  | nil => simp
  | cons here rest ih =>
      rename_i a b l l'
      have fresh : g b ∈ l'.map g ↔ f a ∈ l.map f := by
        rw [List.mem_map, List.mem_map]
        constructor
        · rintro ⟨b', mem, equal⟩
          obtain ⟨a', memA, there⟩ := forall₂_mem_right rest mem
          exact ⟨a', memA, (same there here).mp equal⟩
        · rintro ⟨a', mem, equal⟩
          obtain ⟨b', memB, there⟩ := forall₂_mem_right rest.flip mem
          exact ⟨b', memB, (same there here).mpr equal⟩
      rw [List.map_cons, List.map_cons, List.nodup_cons, List.nodup_cons, fresh, ih]

end Lists

/-! ## What a repair keeps -/

section Kept

variable (py : Platform)

/-- The member is the candidate: its identity is that of the given source document. -/
def IsCandidate (sourceDocumentId : String) (member : Doc) : Prop :=
  sourceDocumentLogicalIdentity py member = .ok (sha256Hash py (.text sourceDocumentId))

instance (sourceDocumentId : String) (member : Doc) : Decidable (IsCandidate py sourceDocumentId member) :=
  inferInstanceAs (Decidable (_ = _))

/-- The document agrees with the member but for the copy's own fields, and for the times of the candidate. -/
structure Repaired (sourceDocumentId observedAtStart observedAtEnd : String) (member d : Doc) : Prop where
  agrees : ∀ k ∉ (.observedAtStart :: .observedAtEnd :: copyFields).map Key.field, Dict.get? d k = Dict.get? member k
  starts : d.get? .observedAtStart =
    if IsCandidate py sourceDocumentId member then some (.str observedAtStart) else member.get? .observedAtStart
  ends : d.get? .observedAtEnd =
    if IsCandidate py sourceDocumentId member then some (.str observedAtEnd) else member.get? .observedAtEnd
  drops : ∀ f ∈ bookkeepingFields, d.get? f = none
  origin : d.text .sourceSnapshotOriginId = sourceOriginId member

/-- What the id of a copy depends on within one scope. -/
def copyKey (member : Doc) : String × String × String :=
  (member.text .docType, member.text .sessionIdHash, sha256Hash py (.text (sourceOriginId member)))

/-- The copy's id is that of its member under the id of the origin. -/
def Named (scope : String) (member d : Doc) : Prop :=
  ∃ origin, revisionScopedSourceDocumentId py origin scope .snapshot = .ok (d.text .id) ∧
    (origin.text .docType, origin.text .sessionIdHash, sha256Hash py (.text (origin.text .id))) = copyKey py member

/-- A member under the id of its origin. -/
structure Rebased (member d : Doc) : Prop where
  agrees : ∀ k ∉ [Field.id, .sourceSnapshotOriginId].map Key.field, Dict.get? d k = Dict.get? member k
  named : d.text .id = sourceOriginId member
  identity : sourceDocumentLogicalIdentity py d = sourceDocumentLogicalIdentity py member

variable {py} {getDocument : String → Except PyError (Option Doc)} {sessionIdHash : String} {member d : Doc}

theorem validatedImmediateSnapshotOriginId_eq_ok {originId : String}
    (valid : validatedImmediateSnapshotOriginId getDocument sessionIdHash member = .ok originId) :
    originId ≠ "" ∧ member.text .sourceSnapshotOriginId = originId := by
  unfold validatedImmediateSnapshotOriginId at valid
  simp only [bind_eq_ok, refuseIf_eq_ok] at valid
  obtain ⟨-, -, -, nonempty, stored, -, valid⟩ := valid
  cases stored with
  | none => cases valid
  | some stored =>
      simp only [bind_eq_ok] at valid
      obtain ⟨-, -, -, -, valid⟩ := valid
      cases valid
      exact ⟨nonempty, rfl⟩

theorem Rebased.field (rebased : Rebased py member d) {f : Field} (other : f ∉ [Field.id, .sourceSnapshotOriginId]) :
    d.get? f = member.get? f := by
  apply rebased.agrees
  intro listed
  obtain ⟨g, mem, same⟩ := List.mem_map.mp listed
  cases same
  exact other mem

theorem sourceDocumentLogicalIdentity_congr {a b : Doc} (scope : a.get? .currentSourceScope = b.get? .currentSourceScope)
    (hash : a.get? .supersedesSourceDocumentHash = b.get? .supersedesSourceDocumentHash)
    (origin : a.text .sourceSnapshotOriginId = b.text .sourceSnapshotOriginId)
    (named : a.text .sourceSnapshotOriginId = "" → a.text .id = b.text .id) :
    sourceDocumentLogicalIdentity py a = sourceDocumentLogicalIdentity py b := by
  have scope' := Doc.text_congr scope
  have hash' := Doc.text_congr hash
  unfold sourceDocumentLogicalIdentity givenField
  rw [scope, hash, scope', hash', origin]
  by_cases blank : b.text .sourceSnapshotOriginId = ""
  · rw [named (origin.trans blank)]
  · simp only [ne_eq, blank, not_false_eq_true, if_true]

theorem rebase_rebased (done : rebase getDocument sessionIdHash member = .ok d) : Rebased py member d := by
  unfold rebase at done
  split at done
  · rename_i copied
    simp only [bind_eq_ok] at done
    obtain ⟨originId, valid, done⟩ := done
    cases done
    obtain ⟨nonempty, origin⟩ := validatedImmediateSnapshotOriginId_eq_ok valid
    have marked : ((member.set .id (.str originId)).set .sourceSnapshotOriginId (.str originId)).text
        .sourceSnapshotOriginId = originId := Doc.text_of_str (by simp [Doc.get?_set])
    refine ⟨fun k other => ?_, ?_, ?_⟩
    · simp only [List.map_cons, List.map_nil, List.mem_cons, List.not_mem_nil, or_false, not_or] at other
      simp only [Doc.set, Dict.get?_insert, other.1, other.2, if_false]
    · rw [sourceOriginId, if_pos copied, origin]
      exact Doc.text_of_str (by simp [Doc.get?_set])
    · apply sourceDocumentLogicalIdentity_congr
      · simp [Doc.get?_set]
      · simp [Doc.get?_set]
      · rw [marked, origin]
      · intro blank
        exact absurd (marked.symm.trans blank) nonempty
  · rename_i plain
    cases done
    exact ⟨fun _ _ => rfl, by rw [sourceOriginId, if_neg plain], rfl⟩

/-- Fields other than the copy's own are read from a copy as from its origin. -/
theorem get?_scopedCopy {origin : Doc} {docId scope : String} {k : Key} (other : k ∉ copyFields.map Key.field) :
    Dict.get? (scopedCopy py origin docId scope .snapshot) k = Dict.get? origin k := by
  have identity : (scopedCopy py origin docId scope .snapshot).without copyFields = origin.without copyFields :=
    scopedCopy_without origin docId scope
  have same := congrArg (Dict.get? · k) identity
  have kept : (copyFields.map Key.field).contains k = false := by
    rw [List.contains_eq_mem, decide_eq_false_iff_not]
    exact other
  simpa only [Doc.without, Dict.get?_filter, kept, Bool.not_false, if_true] using same

theorem get?_scopedCopy_field {origin : Doc} {docId scope : String} {f : Field} (other : f ∉ copyFields) :
    (scopedCopy py origin docId scope .snapshot).get? f = origin.get? f := by
  apply get?_scopedCopy
  intro listed
  obtain ⟨g, mem, same⟩ := List.mem_map.mp listed
  cases same
  exact other mem

theorem get?_scopedCopy_bookkeeping {origin : Doc} {docId scope : String} {f : Field} (dropped : f ∈ bookkeepingFields) :
    (scopedCopy py origin docId scope .snapshot).get? f = none := by
  simp only [bookkeepingFields, List.mem_cons, List.not_mem_nil, or_false] at dropped
  rcases dropped with rfl | rfl | rfl <;>
    simp [scopedCopy, scopeFields, Doc.get?_set, Doc.get?_without, bookkeepingFields]

/-! ## One member -/

section Member

variable {sourceDocumentId observedAtStart observedAtEnd docId scope : String}

theorem get?_retime {f : Field} (d : Doc) : (retime observedAtStart observedAtEnd d).get? f =
    if f = .observedAtEnd then some (.str observedAtEnd) else if f = .observedAtStart then some (.str observedAtStart)
    else d.get? f := by
  rw [retime, Doc.get?_set, Doc.get?_set]

/-- The copy of a member under the id of its origin, with the times of the candidate where it is the candidate. -/
theorem Rebased.repaired (rebased : Rebased py member d) {hit : Bool} (named : hit = decide (IsCandidate py sourceDocumentId member)) :
    Repaired py sourceDocumentId observedAtStart observedAtEnd member
      (scopedCopy py (if hit then retime observedAtStart observedAtEnd d else d) docId scope .snapshot) := by
  subst named
  refine ⟨fun k other => ?_, ?_, ?_, fun f mem => get?_scopedCopy_bookkeeping mem, ?_⟩
  · rw [List.map_cons, List.map_cons, List.mem_cons, List.mem_cons, not_or, not_or] at other
    obtain ⟨notStart, notEnd, notCopied⟩ := other
    rw [get?_scopedCopy notCopied]
    have rest : Dict.get? d k = Dict.get? member k :=
      rebased.agrees k fun mem => notCopied (List.map_subset _ (by decide) mem)
    split
    · simp only [retime, Doc.set, Dict.get?_insert, notStart, notEnd, if_false, rest]
    · exact rest
  · rw [get?_scopedCopy_field (by decide)]
    by_cases candidate : IsCandidate py sourceDocumentId member
    · simp [candidate, get?_retime]
    · simp [candidate, rebased.field]
  · rw [get?_scopedCopy_field (by decide)]
    by_cases candidate : IsCandidate py sourceDocumentId member
    · simp [candidate, get?_retime]
    · simp [candidate, rebased.field]
  · have origin (e : Doc) : (scopedCopy py e docId scope .snapshot).text .sourceSnapshotOriginId = e.text .id :=
      scopedCopy_text (by simp [scopeFields])
    rw [origin, ← rebased.named]
    split
    · exact Doc.text_congr (by simp [get?_retime])
    · rfl

end Member

/-! ## All members -/

theorem length_hashHex {hash : String} (like : hashLike hash) : (hashHex hash).toList.length = 64 := by
  obtain ⟨hex, shape, digest⟩ := hashLike_shape like
  have split := congrArg String.toList (hashHex_hashLike like)
  rw [String.toList_append, shape] at split
  have same : hex = (hashHex hash).toList := by simpa using split
  rw [← same]
  simp only [isHexDigest, Bool.and_eq_true, beq_iff_eq] at digest
  exact digest.1

/-- A text that ends in a hash determines the hash and what stands before it. -/
theorem append_hashHex_inj {front front' hash hash' : String} (like : hashLike hash) (like' : hashLike hash') :
    front ++ hashHex hash = front' ++ hashHex hash' ↔ front = front' ∧ hash = hash' := by
  constructor
  · intro same
    rw [← String.toList_inj, String.toList_append, String.toList_append] at same
    have width : (hashHex hash).toList.length = (hashHex hash').toList.length := by
      rw [length_hashHex like, length_hashHex like']
    obtain ⟨fronts, hashes⟩ := List.append_inj' same width
    exact ⟨String.toList_inj.mp fronts, hashHex_injective like like' (String.toList_inj.mp hashes)⟩
  · rintro ⟨rfl, rfl⟩
    rfl

/-- Copies of one scope have one id exactly where their documents have one type, one session and one id hash. -/
theorem revisionScopedSourceDocumentId_eq_iff {e : Doc} {scope docId docId' : String}
    (named : revisionScopedSourceDocumentId py d scope .snapshot = .ok docId)
    (named' : revisionScopedSourceDocumentId py e scope .snapshot = .ok docId') :
    docId = docId' ↔ d.text .docType = e.text .docType ∧ d.text .sessionIdHash = e.text .sessionIdHash ∧
      sha256Hash py (.text (d.text .id)) = sha256Hash py (.text (e.text .id)) := by
  unfold revisionScopedSourceDocumentId at named named'
  simp only [bind_eq_ok, assertHashLike_eq_ok, pure_eq_ok, Except.ok.injEq] at named named'
  obtain ⟨-, like, -, -, -, -, rfl⟩ := named
  obtain ⟨-, like', -, likeScope, -, -, rfl⟩ := named'
  rw [append_hashHex_inj (hashLike_sha256Hash _ _) (hashLike_sha256Hash _ _), String.append_left_inj,
    append_hashHex_inj likeScope likeScope, String.append_left_inj, append_hashHex_inj like like',
    String.append_left_inj, String.append_left_inj, String.append_left_inj]
  simp only [and_true, and_assoc]

theorem Named.eq_iff {scope : String} {member' d' : Doc} (named : Named py scope member d)
    (named' : Named py scope member' d') :
    d.text .id = d'.text .id ↔ copyKey py member = copyKey py member' := by
  obtain ⟨origin, built, key⟩ := named
  obtain ⟨origin', built', key'⟩ := named'
  rw [revisionScopedSourceDocumentId_eq_iff built built', ← key, ← key', Prod.mk.injEq, Prod.mk.injEq]

theorem docType?_rebased (rebased : Rebased py member d) : docType? d = docType? member := by
  rw [docType?, docType?, rebased.field (by decide)]

theorem Rebased.named_copy {hit : Bool} {observedAtStart observedAtEnd docId scope : String} (rebased : Rebased py member d)
    (spelled : revisionScopedSourceDocumentId py (if hit then retime observedAtStart observedAtEnd d else d) scope
      .snapshot = .ok docId) : Named py scope member
        (scopedCopy py (if hit then retime observedAtStart observedAtEnd d else d) docId scope .snapshot) := by
  have same {f : Field} (other : f ∉ [Field.observedAtStart, .observedAtEnd]) :
      (if hit then retime observedAtStart observedAtEnd d else d).text f = d.text f := by
    simp only [List.mem_cons, List.not_mem_nil, or_false, not_or] at other
    split
    · exact Doc.text_congr (by rw [get?_retime, if_neg other.2, if_neg other.1])
    · rfl
  refine ⟨if hit then retime observedAtStart observedAtEnd d else d, ?_, ?_⟩
  · rw [spelled]
    exact congrArg _ (Doc.text_of_str (by simp [scopedCopy, scopeFields, Doc.get?_set])).symm
  · rw [same (by decide), same (by decide), same (by decide), rebased.named,
      Doc.text_congr (rebased.field (by decide : Field.docType ∉ [Field.id, .sourceSnapshotOriginId])),
      Doc.text_congr (rebased.field (by decide : Field.sessionIdHash ∉ [Field.id, .sourceSnapshotOriginId])), copyKey]

/-- The copies of one scope, each with what its member and whether it is the candidate make of it. -/
theorem buildTemporalMetadataSuccessorDocuments_eq_ok {active : ResolvedSourceRevision}
    {sourceDocumentId observedAtStart observedAtEnd : String} {copies : List Doc}
    (built : buildTemporalMetadataSuccessorDocuments py getDocument active sourceDocumentId observedAtStart
      observedAtEnd = .ok copies) :
    (active.documents.filter fun member => IsCandidate py sourceDocumentId member).map docType? =
        [some .conversationChunk] ∧
      ∃ scope members, members.Perm active.documents ∧ List.Forall₂ (fun member d =>
        Repaired py sourceDocumentId observedAtStart observedAtEnd member d ∧ Named py scope member d) members copies := by
  unfold buildTemporalMetadataSuccessorDocuments at built
  simp only [bind_eq_ok, refuseIf_eq_ok, not_or, not_not] at built
  obtain ⟨-, -, documents, rebased, hits, hit, -, ⟨unique, typed⟩, hash, -, built⟩ := built
  have paired : List.Forall₂ (fun member p => Rebased py member p.1 ∧
      p.2 = decide (IsCandidate py sourceDocumentId member)) active.documents (documents.zip hits) := by
    refine (forall₂_zip_right (mapM_eq_ok_iff.mp rebased) (mapM_eq_ok_iff.mp hit)).imp fun member p related => ?_
    obtain ⟨done, named⟩ := related
    have base : Rebased py member p.1 := rebase_rebased done
    rw [bind_eq_ok] at named
    obtain ⟨identity, spelled, named⟩ := named
    rw [pure_eq_ok, Except.ok.injEq] at named
    rw [base.identity] at spelled
    refine ⟨base, ?_⟩
    rw [← named, decide_eq_decide, IsCandidate, spelled, Except.ok.injEq]
  constructor
  · -- the candidates are the members of the matching documents
    have candidates : List.Forall₂ (fun member p => Rebased py member p.1 ∧
        p.2 = decide (IsCandidate py sourceDocumentId member))
        (active.documents.filter fun member => IsCandidate py sourceDocumentId member)
        ((documents.zip hits).filter Prod.snd) := by
      apply List.rel_filter _ paired
      intro member p related
      simp [related.2]
    obtain ⟨p, sole⟩ := List.length_eq_one_iff.mp unique
    rw [sole, List.forall₂_cons_right_iff] at candidates
    obtain ⟨member, rest, ⟨base, -⟩, none, split⟩ := candidates
    rw [List.forall₂_nil_right_iff] at none
    rw [split, none, List.map_cons, List.map_nil, ← docType?_rebased base]
    simp only [sole, List.map_cons, List.map_nil, List.any_cons, List.any_nil, Bool.or_false, decide_eq_true_eq,
      not_not] at typed
    rw [text_docType_eq_iff.mp typed]
  · unfold buildRevisionScopedSourceDocuments at built
    simp only [bind_eq_ok] at built
    obtain ⟨scope, -, built⟩ := built
    have retimed : List.Forall₂ (fun e member => ∃ d hit, Rebased py member d ∧
        hit = decide (IsCandidate py sourceDocumentId member) ∧
        e = if hit then retime observedAtStart observedAtEnd d else d)
        ((documents.zip hits).map fun (document, hit) =>
          if hit then retime observedAtStart observedAtEnd document else document) active.documents := by
      rw [List.forall₂_map_left_iff]
      refine paired.flip.imp fun p member related => ?_
      exact ⟨p.1, p.2, related.1, related.2, rfl⟩
    obtain ⟨members, origins, perm⟩ := List.perm_comp_forall₂ (sortOn_perm (fun d : Doc => d.text .id) _) retimed
    refine ⟨scope, members, perm, (forall₂_comp origins.flip (mapM_eq_ok_iff.mp built)).imp ?_⟩
    rintro member copy ⟨e, ⟨d, hit, base, named, rfl⟩, made⟩
    rw [bind_eq_ok] at made
    obtain ⟨docId, spelled, made⟩ := made
    cases made
    exact ⟨base.repaired named, base.named_copy spelled⟩

/-- A repair copies every member of the revision under the id of its origin, keeps every field but the copy's own and
    the times of one conversation chunk, the candidate, and gives two members one id only where they copy documents
    of one type, session and id hash. -/
theorem buildTemporalMetadataSuccessorDocuments_repairs (active : ResolvedSourceRevision)
    (sourceDocumentId observedAtStart observedAtEnd : String) (copies : List Doc)
    (built : buildTemporalMetadataSuccessorDocuments py getDocument active sourceDocumentId observedAtStart
      observedAtEnd = .ok copies) :
    (∃ members, members.Perm active.documents ∧
        List.Forall₂ (Repaired py sourceDocumentId observedAtStart observedAtEnd) members copies) ∧
      (active.documents.filter fun member => IsCandidate py sourceDocumentId member).map docType? =
        [some .conversationChunk] ∧
      ((copies.map (·.text .id)).Nodup ↔ (active.documents.map (copyKey py)).Nodup) := by
  obtain ⟨candidate, scope, members, perm, related⟩ := buildTemporalMetadataSuccessorDocuments_eq_ok built
  refine ⟨⟨members, perm, related.imp fun _ _ both => both.1⟩, candidate, ?_⟩
  rw [nodup_map_iff_of_forall₂ related fun here there => here.2.eq_iff there.2]
  exact (perm.map _).nodup_iff

end Kept

/-! ## A stored chunk -/

section Chunk

variable (py : Platform)

/-- A chunk with the payload hash under which it was stored. -/
def storedChunk : Doc := Doc.ofFields [
  (.id, .str "conversation_chunk:first"),
  (.docType, .str SourceDocType.conversationChunk.text),
  (.sessionIdHash, .str (firstSession py)),
  (.payloadHash, .str (firstSession py))]

def storedChunkDescriptor : Descriptor where
  sourceDocumentId := "conversation_chunk:first"
  sourceDocType := SourceDocType.conversationChunk.text
  materialHashField := Field.documentHash.name
  materialHash := sourceDocumentHash py (storedChunk py)
  memberRevisionHash := revisionFingerprint py (storedChunk py) .documentHash
  sourceDocumentHash := sourceDocumentHash py (storedChunk py)

def storedChunkHash : String :=
  buildSourceHash py [""] [] ("", "")
    [revisionFingerprint py (storedChunk py) .documentHash] []

/-- The chunk, published as its session. -/
def chunkStore : Store :=
  soleStore py (storedChunk py) (firstSession py) (storedChunkHash py) (storedChunkDescriptor py)

def chunkRevision : ResolvedSourceRevision :=
  soleResolved py (storedChunk py) (firstSession py) (storedChunkHash py) (storedChunkDescriptor py)

def retimedChunk : Doc := retime "2026-01-01T00:00:00+00:00" "2026-01-01T01:00:00+00:00" (storedChunk py)

/-- The chunk's time, repaired. -/
def chunkRepair : Except PyError (List Doc) :=
  buildTemporalMetadataSuccessorDocuments py (fun docId => .ok ((chunkStore py).get docId)) (chunkRevision py)
    "conversation_chunk:first" "2026-01-01T00:00:00+00:00" "2026-01-01T01:00:00+00:00"

variable {py}

theorem storedChunk_get? (f : Field) : (storedChunk py).get? f =
    if f = .payloadHash then some (.str (firstSession py))
    else if f = .sessionIdHash then some (.str (firstSession py))
    else if f = .docType then some (.str SourceDocType.conversationChunk.text)
    else if f = .id then some (.str "conversation_chunk:first")
    else none := by
  simp only [storedChunk, Doc.ofFields, Doc.update_cons, Doc.update_nil, Doc.get?_set, Doc.get?_empty]

theorem storedChunk_docType : docType? (storedChunk py) = some .conversationChunk := by
  simp [docType?_eq_some_iff, storedChunk_get?]

theorem storedChunk_id : (storedChunk py).text .id = "conversation_chunk:first" :=
  Doc.text_of_str (by simp [storedChunk_get?])

theorem storedChunk_session : (storedChunk py).text .sessionIdHash = firstSession py :=
  Doc.text_of_str (by simp [storedChunk_get?])

theorem storedChunk_blank {f : Field} (missing : (storedChunk py).get? f = none) : (storedChunk py).text f = "" := by
  simp [Doc.text, Doc.value?, missing]

theorem storedChunk_described :
    sourceMemberDescriptor py (firstSession py) (storedChunk py) = .ok (storedChunkDescriptor py) := by
  have typed : (storedChunk py).text .docType = SourceDocType.conversationChunk.text :=
    text_docType_eq_iff.mpr storedChunk_docType
  rw [sourceMemberDescriptor_unhashed, storedChunk_id, typed, storedChunkDescriptor]
  · rw [storedChunk_id]
    decide
  · simp [isSourceMember, storedChunk_docType, isSourceMemberType]
  · exact storedChunk_session
  · simp [storedChunk_get?]

theorem chunkStore_resolves : (chunkStore py).resolve py (firstSession py) = .ok (chunkRevision py) := by
  have own : OwnPrefix .conversationChunk ((storedChunk py).text .id) := by
    rw [storedChunk_id]
    decide
  have material : fingerprint py (storedChunk py) = .ok (revisionFingerprint py (storedChunk py) .documentHash) := by
    simp [fingerprint, materialIdentity, storedChunk_blank, storedChunk_get?]
  have total : sourceHash py [storedChunk py] = .ok (storedChunkHash py) := by
    have untimed : observedTimeBounds py [storedChunk py] = .ok ("", "") :=
      observedTimeBounds_untimed py (by simp [observedStarts, firstText, Doc.value?, storedChunk_get?])
        (by simp [observedEnds, firstText, Doc.value?, storedChunk_get?])
    simp [sourceHash, storedChunk_docType, storedChunkHash, material, untimed, storedChunk_blank, storedChunk_get?]
  exact soleStore_resolves (hashLike_sha256Hash _ _) storedChunk_described own rfl total (hashLike_sha256Hash _ _)

theorem chunkRevision_documents : (chunkRevision py).documents = [storedChunk py] := by
  simp [chunkRevision, soleResolved, ResolvedSourceRevision.documents, resolved, storedChunk_docType]

theorem storedChunk_plain : isRevisionSnapshotCopy (storedChunk py) = false := by
  simp [isRevisionSnapshotCopy, storedChunk_blank, storedChunk_get?, sourceSnapshotSchemaVersion]

theorem storedChunk_identity : sourceDocumentLogicalIdentity py (storedChunk py) =
    .ok (sha256Hash py (.text "conversation_chunk:first")) := by
  simp [sourceDocumentLogicalIdentity, givenField, storedChunk_get?, storedChunk_blank, storedChunk_id, refuseIf]

theorem retimedChunk_get? {f : Field} (other : f ∉ [Field.observedAtStart, .observedAtEnd]) :
    (retimedChunk py).get? f = (storedChunk py).get? f := by
  simp only [List.mem_cons, List.not_mem_nil, or_false, not_or] at other
  rw [retimedChunk, get?_retime, if_neg other.2, if_neg other.1]

theorem retimedChunk_id : (retimedChunk py).text .id = "conversation_chunk:first" := by
  rw [Doc.text_congr (retimedChunk_get? (by decide)), storedChunk_id]

theorem retimedChunk_session : (retimedChunk py).text .sessionIdHash = firstSession py := by
  rw [Doc.text_congr (retimedChunk_get? (by decide)), storedChunk_session]

theorem retimedChunk_member : isSourceMember (retimedChunk py) := by
  rw [isSourceMember, docType?, retimedChunk_get? (by decide), ← docType?, storedChunk_docType]
  rfl

theorem retimedChunk_described : ∃ descriptor,
    sourceMemberDescriptor py (firstSession py) (retimedChunk py) = .ok descriptor := by
  refine ⟨_, sourceMemberDescriptor_unhashed ?_ retimedChunk_member retimedChunk_session ?_⟩
  · rw [retimedChunk_id]
    decide
  · simp [retimedChunk_get?, storedChunk_get?]

theorem retimedChunk_copied {hash : String} (like : hashLike hash) : ∃ copies,
    buildRevisionScopedSourceDocuments py [retimedChunk py] hash .snapshot = .ok copies := by
  have scope (v : Json) : hashLike (canonicalHash py v) := hashLike_sha256Hash _ _
  have session : hashLike (firstSession py) := hashLike_sha256Hash _ _
  simp [buildRevisionScopedSourceDocuments, sourceSnapshotScope, sortOn, assertHashLike_of_hashLike like,
    revisionScopedSourceDocumentId, retimedChunk_session, retimedChunk_id, retimedChunk_member, refuseIf,
    assertHashLike_of_hashLike session, assertHashLike_of_hashLike (scope _)]

theorem chunkRepair_built : ∃ copies, chunkRepair py = .ok copies := by
  have describes : ∃ descriptor, sourceMemberDescriptor py (firstSession py) (retimedChunk py) = .ok descriptor :=
    retimedChunk_described
  obtain ⟨descriptor, described⟩ := describes
  have like : hashLike (sourceRevision py [descriptor]) := hashLike_sha256Hash _ _
  obtain ⟨copies, copied⟩ := retimedChunk_copied like
  refine ⟨copies, ?_⟩
  have revision : sourceDocumentSetRevision py (firstSession py) [retimedChunk py] =
      .ok (sourceRevision py [descriptor]) := by
    simp [sourceDocumentSetRevision, described, rescue]
  have rebased : [storedChunk py].mapM (rebase (fun docId => .ok ((chunkStore py).get docId)) (firstSession py)) =
      .ok [storedChunk py] := by
    simp [rebase, storedChunk_plain]
  have typed : (storedChunk py).text .docType = SourceDocType.conversationChunk.text :=
    text_docType_eq_iff.mpr storedChunk_docType
  have session : (chunkRevision py).sessionIdHash = firstSession py := rfl
  unfold chunkRepair buildTemporalMetadataSuccessorDocuments
  rw [chunkRevision_documents, session, rebased]
  simp only [refuseIf, String.reduceEq, if_false, ok_bind, List.mapM_cons, List.mapM_nil, storedChunk_identity,
    pure_eq_ok, decide_true, List.zip_cons_cons, List.zip_nil_right, List.filter_cons, if_true, List.filter_nil,
    List.map_cons, List.map_nil, List.any_cons, List.any_nil, typed]
  have chosen : (sourceDocumentSetRevision py (firstSession py) [retimedChunk py] >>= fun hash =>
      buildRevisionScopedSourceDocuments py [retimedChunk py] hash .snapshot) = .ok copies := by
    rw [revision, ok_bind, copied]
  simpa [retimedChunk] using chosen

/-- A repair drops the payload hash under which its member is stored. -/
theorem chunkRepair_drops_payloadHash : (chunkStore referencePlatform).resolve referencePlatform
      (firstSession referencePlatform) = .ok (chunkRevision referencePlatform) ∧
    (chunkRevision referencePlatform).documents = [storedChunk referencePlatform] ∧
    ∃ copy, chunkRepair referencePlatform = .ok [copy] ∧
      copy.get? .payloadHash ≠ (storedChunk referencePlatform).get? .payloadHash := by
  refine ⟨chunkStore_resolves, chunkRevision_documents, ?_⟩
  have succeeds : ∃ copies, chunkRepair referencePlatform = .ok copies := chunkRepair_built
  obtain ⟨copies, built⟩ := succeeds
  obtain ⟨-, scope, members, perm, related⟩ := buildTemporalMetadataSuccessorDocuments_eq_ok built
  rw [chunkRevision_documents] at perm
  rw [List.perm_singleton.mp perm, List.forall₂_cons_left_iff] at related
  obtain ⟨copy, rest, ⟨repaired, -⟩, none, rfl⟩ := related
  rw [List.forall₂_nil_left_iff] at none
  refine ⟨copy, by rw [built, none], ?_⟩
  rw [repaired.drops _ (by decide)]
  simp [storedChunk_get?]

theorem buildTemporalMetadataSuccessorDocuments_repairs_chunk : ∃ copies,
    chunkRepair referencePlatform = .ok copies ∧ (∃ members, members.Perm (chunkRevision referencePlatform).documents ∧
      List.Forall₂ (Repaired referencePlatform "conversation_chunk:first" "2026-01-01T00:00:00+00:00"
        "2026-01-01T01:00:00+00:00") members copies) ∧
      ((copies.map (·.text .id)).Nodup ↔
        ((chunkRevision referencePlatform).documents.map (copyKey referencePlatform)).Nodup) := by
  have succeeds : ∃ copies, chunkRepair referencePlatform = .ok copies := chunkRepair_built
  obtain ⟨copies, built⟩ := succeeds
  obtain ⟨related, -, distinct⟩ := buildTemporalMetadataSuccessorDocuments_repairs (chunkRevision referencePlatform)
    "conversation_chunk:first" "2026-01-01T00:00:00+00:00" "2026-01-01T01:00:00+00:00" copies built
  exact ⟨copies, built, related, distinct⟩

end Chunk

end Neurons.Source
