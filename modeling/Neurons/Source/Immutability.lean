import Neurons.Source.ReferencePlatform
import Neurons.Source.Validation
import Neurons.Source.WriteEffects

/-! # Immutable documents

Procedural originals, revision members, revision manifests and revision-scoped
copies are meant never to change once stored. Two write paths miss that: a patch
that replaces the locator assigns without asking whether the stored document is
immutable, and a conditional put asks for the incoming document's type but not
for the stored one's. Every other step of every run keeps them.
-/

namespace Neurons.Source

open Neurons.Lib

variable (py : Platform)

/-- The two kinds of step that write over an immutable document: a patch that
    passes its checks and replaces the locator of one, and a conditional put of a
    mutable document over one that is immutable by its type alone. -/
def Op.Overwrites (op : Op) (s : Store) : Prop :=
  match op with
  | .patch p => ∃ current, s.get p.docId = some current ∧ isImmutableSourceDocument current ∧
      p.check current = .ok () ∧ ¬ p.keepsLocator current ∧
      requireActiveSourceRevisionAllowsWrite py s p.docId current false = .ok ()
  | .putIfRevision d rev => ∃ current, s.get (d.text .id) = some current ∧
      hasImmutableDocType current ∧ ¬ isRevisionScopedSourceCopy current ∧
      ¬ isImmutableSourceDocument d ∧ current.text .rev = rev
  | _ => False

variable {py}

/-- One step. -/
theorem Effect.keeps_immutable {s s' : Store} {op : Op} (effect : Effect py s op s')
    (spares : ¬ op.Overwrites py s) {docId : String} {d : Doc} (stored : s.get docId = some d)
    (immutable : isImmutableSourceDocument d) : s'.get docId = some d := by
  have sameId := Store.get_keyed stored
  have change := effect.change stored
  generalize s'.get docId = after at change
  cases change with
  | kept => rfl
  | replaced rev hash writes written mutable replaceable allowed =>
      cases op with
      | putIfRevision incoming expectedRev =>
          cases (show _ = incoming from writes)
          obtain ⟨sameRev, unscoped⟩ := replaceable
          have typed : hasImmutableDocType d := by
            simpa [isImmutableSourceDocument, unscoped] using immutable
          rw [← sameId, ← written] at stored
          exact absurd ⟨d, stored, typed, unscoped, mutable, sameRev⟩ spares
      | _ => exact absurd immutable replaceable
  | relocated locator rev hash here checked moves allowed =>
      rw [← sameId, here] at stored
      rw [here] at allowed
      exact absurd ⟨d, stored, immutable, checked, moves, allowed⟩ spares
  | removed allowed => exact absurd immutable (mutable_of_allowsDelete allowed).1

/-- In every run from the empty store, a stored immutable document keeps all its
    field values as long as no later step is one of the two kinds that miss it. -/
theorem immutable_document_persists (before after : List Op)
    (spares : Along (fun s op => (op.exec py s).2) (fun s op => ¬ op.Overwrites py s)
      (Store.empty.run py before) after)
    {docId : String} {d : Doc} (stored : (Store.empty.run py before).get docId = some d)
    (immutable : isImmutableSourceDocument d) :
    (Store.empty.run py (before ++ after)).get docId = some d := by
  rw [Store.run_append]
  exact spares.invariant (fun s => s.get docId = some d)
    (fun s op spared stored => (op.exec_effect s).keeps_immutable spared stored immutable) stored

/-! ## A revision-scoped copy that does change -/

section Copy

variable (py : Platform)

/-- A snapshot copy of one evidence bundle, with the builder's empty locator. -/
def bundleCopy : Doc := Doc.ofFields [
  (.id, .str "tool_evidence_bundle:snapshot:first"),
  (.docType, .str SourceDocType.toolEvidenceBundle.text),
  (.sessionIdHash, .str (sha256Hash py (.text "codex:first"))),
  (.sourceLocatorHash, .str ""),
  (.contentHash, .str (sha256Hash py (.text "hello"))),
  (.sourceSnapshotSchemaVersion, .str sourceSnapshotSchemaVersion)]

/-- The payload identity of the copy. -/
def bundleCopyHash : String := structuredPayloadHash py [
  (.docType, .str SourceDocType.toolEvidenceBundle.text),
  (.contentHash, .str (sha256Hash py (.text "hello"))),
  (.coverageHash, .str ""), (.observedAtStart, .str ""), (.observedAtEnd, .str "")]

/-- Give the copy the locator of its session file. -/
def bundleRelocation : Patch where
  docId := "tool_evidence_bundle:snapshot:first"
  expectedContentHash := sha256Hash py (.text "hello")
  expectedRev := revText 1 (bundleCopyHash py)
  observedAtStart := ""
  observedAtEnd := ""
  expectedSourceLocatorHash := none
  replacementSourceLocatorHash := some (sha256Hash py (.text "sessions/first.jsonl"))

variable {py}

theorem bundleCopy_get? (f : Field) : (bundleCopy py).get? f =
    if f = .sourceSnapshotSchemaVersion then some (.str sourceSnapshotSchemaVersion)
    else if f = .contentHash then some (.str (sha256Hash py (.text "hello")))
    else if f = .sourceLocatorHash then some (.str "")
    else if f = .sessionIdHash then some (.str (sha256Hash py (.text "codex:first")))
    else if f = .docType then some (.str SourceDocType.toolEvidenceBundle.text)
    else if f = .id then some (.str "tool_evidence_bundle:snapshot:first")
    else none := by
  simp only [bundleCopy, Doc.ofFields, Doc.update_cons, Doc.update_nil, Doc.get?_set,
    Doc.get?_empty]

theorem bundleCopy_id : (bundleCopy py).text .id = "tool_evidence_bundle:snapshot:first" :=
  Doc.text_of_str (by simp [bundleCopy_get?])

theorem bundleCopy_docType : docType? (bundleCopy py) = some .toolEvidenceBundle := by
  simp [docType?_eq_some_iff, bundleCopy_get?]

theorem bundleCopy_immutable : isImmutableSourceDocument (bundleCopy py) := by
  simp [isImmutableSourceDocument, isRevisionScopedSourceCopy, Doc.has, bundleCopy_get?]

theorem bundleCopy_plainKeys : PlainKeys (bundleCopy py) :=
  plainKeys_empty.update (by
    simp only [List.map_cons, List.map_nil]
    decide +kernel)

theorem bundleCopy_valid : validateForWrite py (bundleCopy py) = .ok () :=
  validateForWrite_ordinary bundleCopy_docType (by decide) (by decide)
    (by simp [bundleCopy_id]) bundleCopy_plainKeys (by simp [bundleCopy_get?])

theorem bundleCopy_hashed : payloadHash py (bundleCopy py) = .ok (bundleCopyHash py) := by
  have typed : (bundleCopy py).text .docType = SourceDocType.toolEvidenceBundle.text :=
    text_docType_eq_iff.mpr bundleCopy_docType
  have content : (bundleCopy py).text .contentHash = sha256Hash py (.text "hello") :=
    Doc.text_of_str (by simp [bundleCopy_get?])
  have missing (f : Field) (absent : (bundleCopy py).get? f = none) :
      (bundleCopy py).text f = "" := text_of_missing absent
  rw [payloadHash, bundleCopy_docType]
  simp only [typed, content, observedFields, missing .coverageHash (by simp [bundleCopy_get?]),
    missing .observedAtStart (by simp [bundleCopy_get?]),
    missing .observedAtEnd (by simp [bundleCopy_get?]), List.cons_append, List.nil_append,
    bundleCopyHash]

/-- The copy as it is stored. -/
def storedBundleCopy (py : Platform) : Doc :=
  Store.stamp (bundleCopy py) "tool_evidence_bundle:snapshot:first" (revText 1 (bundleCopyHash py))
    (bundleCopyHash py)

theorem run_put_bundleCopy :
    Store.empty.run py [.put (bundleCopy py)] = Store.empty.assign (storedBundleCopy py) := by
  have stored : putIfAbsent py (bundleCopy py) .empty = _ :=
    putIfAbsent_fresh bundleCopy_valid bundleCopy_hashed rfl
    (allowsWrite_of_unpinned rfl)
  rw [← put_immutable bundleCopy_valid bundleCopy_immutable, bundleCopy_id] at stored
  simp [Store.run, Op.exec, Op.perform, stored, Except.map, storedBundleCopy]

theorem storedBundleCopy_get? {f : Field} (other : f ∉ bookkeepingFields) :
    (storedBundleCopy py).get? f = (bundleCopy py).get? f :=
  Store.get?_stamp _ _ _ _ other

theorem storedBundleCopy_id :
    (storedBundleCopy py).text .id = "tool_evidence_bundle:snapshot:first" :=
  (Doc.text_congr (storedBundleCopy_get? (by decide))).trans bundleCopy_id

/-- The store that holds the copy and nothing else. -/
def bundleCopyStore (py : Platform) : Store := Store.empty.assign (storedBundleCopy py)

theorem bundleCopyStore_get (docId : String) : (bundleCopyStore py).get docId =
    if docId = "tool_evidence_bundle:snapshot:first" then some (storedBundleCopy py) else none := by
  rw [bundleCopyStore, Store.get_assign, storedBundleCopy_id]
  rfl

theorem bundleCopyStore_unpinned (sessionIdHash : String) :
    (bundleCopyStore py).get (activeSourceRevisionPointerDocId sessionIdHash) = none := by
  rw [bundleCopyStore_get, if_neg]
  intro same
  have pointer := ownPrefix_pointer sessionIdHash
  rw [same] at pointer
  exact absurd pointer (by decide)

/-- What the relocating patch makes of the copy. -/
def relocatedBundleCopy (py : Platform) : Doc :=
  ((bundleRelocation py).updated (storedBundleCopy py)).set .sourceLocatorHash
    (.str (sha256Hash py (.text "sessions/first.jsonl")))

theorem relocatedBundleCopy_get? {f : Field} (other : f ∉ patchFields) :
    (relocatedBundleCopy py).get? f = (bundleCopy py).get? f := by
  have unmoved : f ≠ .sourceLocatorHash := by
    rintro rfl
    exact other (by decide)
  have kept : f ∉ bookkeepingFields := fun mem => other (by revert mem; cases f <;> decide)
  rw [relocatedBundleCopy, Doc.get?_set, if_neg unmoved, updated_get? other,
    storedBundleCopy_get? kept]

theorem relocatedBundleCopy_valid : validateForWrite py (relocatedBundleCopy py) = .ok () := by
  have plain : PlainKeys (relocatedBundleCopy py) := by
    refine PlainKeys.set (PlainKeys.update (PlainKeys.without ?_ _) ?_) _ (by decide +kernel)
    · exact bundleCopy_plainKeys.update (by
        simp only [List.map_cons, List.map_nil]
        decide +kernel)
    · simp only [List.map_cons, List.map_nil]
      decide +kernel
  refine validateForWrite_ordinary (t := .toolEvidenceBundle) ?_ (by decide) (by decide) ?_ plain ?_
  · rw [docType?_congr (relocatedBundleCopy_get? (by decide)), bundleCopy_docType]
  · rw [Doc.text_congr (relocatedBundleCopy_get? (by decide)), bundleCopy_id]
    decide
  · rw [relocatedBundleCopy_get? (by decide)]
    simp [bundleCopy_get?]

variable (py) in
theorem patch_bundleCopy : ∃ rev hash,
    (Op.exec py (.patch (bundleRelocation py)) (bundleCopyStore py)).2 =
      (bundleCopyStore py).assign
        (Store.stamp (relocatedBundleCopy py) "tool_evidence_bundle:snapshot:first" rev hash) := by
  have content : (storedBundleCopy py).text .contentHash = sha256Hash py (.text "hello") :=
    Doc.text_of_str (by rw [storedBundleCopy_get? (by decide)]; simp [bundleCopy_get?])
  have locator : (storedBundleCopy py).text .sourceLocatorHash = "" :=
    Doc.text_of_str (by rw [storedBundleCopy_get? (by decide)]; simp [bundleCopy_get?])
  have rev : (storedBundleCopy py).text .rev = revText 1 (bundleCopyHash py) :=
    Doc.text_of_str (by simp [storedBundleCopy, Store.stamp, Doc.get?_set])
  obtain ⟨hash, hashed⟩ : ∃ hash, payloadHash py (relocatedBundleCopy py) = .ok hash := by
    have typed : docType? (relocatedBundleCopy py) = docType? (bundleCopy py) :=
      docType?_congr (relocatedBundleCopy_get? (by decide))
    rw [payloadHash, typed, bundleCopy_docType]
    exact ⟨_, rfl⟩
  have found : (bundleCopyStore py).get (bundleRelocation py).docId = some (storedBundleCopy py) := by
    rw [bundleCopyStore_get]
    simp [bundleRelocation]
  have patched := patch_relocates found rfl
    (hashLike_sha256Hash _ _)
    (by
      have nonblank : revText 1 (bundleCopyHash py) ≠ "" := by
        intro blank
        have shape := congrArg String.length blank
        simp [revText] at shape
      simp [Patch.check, bundleRelocation, content, rev, refuseIf, nonblank])
    (by
      have nonblank := hashLike_nonempty (hashLike_sha256Hash py (.text "sessions/first.jsonl"))
      simp [Patch.keepsLocator, bundleRelocation, locator, nonblank])
    (allowsWrite_of_unpinned (bundleCopyStore_unpinned _)) relocatedBundleCopy_valid hashed rev
  refine ⟨revText (1 + 1) hash, hash, ?_⟩
  rw [Op.exec, Op.perform, patched]
  rfl

theorem storedBundleCopy_immutable : isImmutableSourceDocument (storedBundleCopy py) := by
  have marked : (storedBundleCopy py).has .sourceSnapshotSchemaVersion := by
    rw [Doc.has, storedBundleCopy_get? (by decide)]
    simp [bundleCopy_get?]
  simp [isImmutableSourceDocument, isRevisionScopedSourceCopy, marked]

theorem run_put_bundleCopy_get : (Store.empty.run py [.put (bundleCopy py)]).get
    "tool_evidence_bundle:snapshot:first" = some (storedBundleCopy py) := by
  rw [run_put_bundleCopy, ← bundleCopyStore, bundleCopyStore_get, if_pos rfl]

/-- A revision-scoped copy is stored, and a patch then gives it another locator. -/
theorem immutable_document_overwritten :
    (Store.empty.run referencePlatform [.put (bundleCopy referencePlatform)]).get
        "tool_evidence_bundle:snapshot:first" = some (storedBundleCopy referencePlatform) ∧
      isImmutableSourceDocument (storedBundleCopy referencePlatform) ∧
      (Store.empty.run referencePlatform ([.put (bundleCopy referencePlatform)] ++
        [.patch (bundleRelocation referencePlatform)])).get "tool_evidence_bundle:snapshot:first" ≠
          some (storedBundleCopy referencePlatform) := by
  refine ⟨run_put_bundleCopy_get, storedBundleCopy_immutable, ?_⟩
  obtain ⟨rev, hash, patched⟩ := patch_bundleCopy referencePlatform
  rw [Store.run_append, run_put_bundleCopy, ← bundleCopyStore, Store.run_singleton, patched,
    Store.get_assign, Doc.text_congr (Store.get?_stamp _ _ _ _ (by decide)),
    Doc.text_congr (relocatedBundleCopy_get? (by decide)), bundleCopy_id, if_pos rfl]
  intro same
  have moved := congrArg (fun d => Doc.get? d .sourceLocatorHash) (Option.some.inj same)
  rw [Store.get?_stamp _ _ _ _ (by decide), storedBundleCopy_get? (by decide), bundleCopy_get?,
    relocatedBundleCopy, Doc.get?_set] at moved
  simp only [if_true, reduceCtorEq, if_false, Option.some.injEq, Json.str.injEq] at moved
  exact hashLike_nonempty (hashLike_sha256Hash _ _) moved

/-- Deleting the copy is refused, so it is still there. -/
theorem immutable_document_persists_delete :
    (Store.empty.run referencePlatform ([.put (bundleCopy referencePlatform)] ++
      [.delete "tool_evidence_bundle:snapshot:first"])).get "tool_evidence_bundle:snapshot:first" =
        some (storedBundleCopy referencePlatform) :=
  immutable_document_persists [.put (bundleCopy referencePlatform)]
    [.delete "tool_evidence_bundle:snapshot:first"] ⟨not_false, trivial⟩ run_put_bundleCopy_get
    storedBundleCopy_immutable

end Copy

end Neurons.Source
