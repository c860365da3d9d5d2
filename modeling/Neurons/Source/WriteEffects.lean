import Neurons.Source.SourceStore

/-! # What a write operation can do to the store

One inversion for all six operations: a call that returns has left the store as
it was, added a document under a fresh id, replaced a document its guards let it
replace, rewritten one by a relocating patch, or removed one. Every invariant of
the store is proved against these cases only.
-/

namespace Neurons.Source

open Neurons.Lib

variable (py : Platform)

/-- The document's id starts with its own type. -/
def OwnPrefixed (d : Doc) : Prop := ∃ t, docType? d = some t ∧ OwnPrefix t (d.text .id)

/-- The id the operation is aimed at. -/
def Op.target : Op → String
  | .put d | .putIfAbsent d | .putIfRevision d _ | .merge d _ _ => d.text .id
  | .patch p => p.docId
  | .delete docId => docId

/-- What the operation writes has an id that starts with its own document type. -/
def Op.OwnPrefixed (op : Op) (s : Store) : Prop :=
  match op with
  | .put d | .putIfAbsent d | .putIfRevision d _ | .merge d _ _ => Source.OwnPrefixed d
  | .patch p => ∀ current, s.get p.docId = some current → Source.OwnPrefixed current
  | .delete _ => True

/-- The documents the operation can put into the store. -/
def Op.Writes (op : Op) (s : Store) (written : Doc) : Prop :=
  match op with
  | .put d | .putIfAbsent d | .putIfRevision d _ => written = d
  | .merge d _ _ => written.text .id = d.text .id ∧ docType? written = docType? d
  | .patch p => ∃ current, s.get p.docId = some current ∧ written = p.updated current
  | .delete _ => False

/-- The stored documents the operation's own immutability check lets it replace. -/
def Op.mayReplace : Op → Doc → Prop
  | .putIfRevision _ rev, existing =>
      existing.text .rev = rev ∧ ¬ isRevisionScopedSourceCopy existing
  | _, existing => ¬ isImmutableSourceDocument existing

/-- A write of the document `d`. -/
inductive WriteEffect (mayReplace : Doc → Prop) (s : Store) (d : Doc) : Store → Prop
  | unchanged : WriteEffect mayReplace s d s
  | inserted {hash : String} (rev : String) (allowAppend : Bool)
      (valid : validateForWrite py d = .ok ()) (hashed : payloadHash py d = .ok hash)
      (absent : s.get (d.text .id) = none)
      (allowed : requireActiveSourceRevisionAllowsWrite py s (d.text .id) d allowAppend = .ok ()) :
      WriteEffect mayReplace s d (s.assign (Store.stamp d (d.text .id) rev hash))
  | replaced {existing : Doc} {hash : String} (rev : String)
      (valid : validateForWrite py d = .ok ()) (hashed : payloadHash py d = .ok hash)
      (found : s.get (d.text .id) = some existing)
      (mutable : ¬ isImmutableSourceDocument d) (replaceable : mayReplace existing)
      (allowed : requireActiveSourceRevisionAllowsWrite py s (d.text .id) existing false = .ok ()) :
      WriteEffect mayReplace s d (s.assign (Store.stamp d (d.text .id) rev hash))

/-- The fields a relocating patch can change. -/
def patchFields : List Field :=
  [.rev, .idempotencyKey, .payloadHash, .observedAtStart, .observedAtEnd, .sourceLocatorHash]

inductive Effect (s : Store) : Op → Store → Prop
  | unchanged (op : Op) : Effect s op s
  | wrote {op : Op} {d : Doc} {s' : Store} (writes : op.Writes s d)
      (effect : WriteEffect py op.mayReplace s d s') : Effect s op s'
  | relocated {p : Patch} {current : Doc} {locator rev hash : String}
      (found : s.get p.docId = some current) (checked : p.check current = .ok ())
      (replacement : p.replacementSourceLocatorHash = some locator)
      (moves : ¬ p.keepsLocator current)
      (valid : validateForWrite py
        ((p.updated current).set .sourceLocatorHash (.str locator)) = .ok ())
      (hashed : payloadHash py
        ((p.updated current).set .sourceLocatorHash (.str locator)) = .ok hash)
      (allowed : requireActiveSourceRevisionAllowsWrite py s p.docId current false = .ok ()) :
      Effect s (.patch p) (s.assign (Store.stamp
        ((p.updated current).set .sourceLocatorHash (.str locator)) p.docId rev hash))
  | removed {docId : String} {existing : Doc} (found : s.get docId = some existing)
      (allowed : requireActiveSourceRevisionAllowsDelete py s existing = .ok ()) :
      Effect s (.delete docId) (s.remove docId)

variable {py} {s s' : Store} {d : Doc}

/-! ## Effects of the single operations -/

theorem putIfAbsent_effect {mayReplace : Doc → Prop} {r : StoredRevision}
    (done : putIfAbsent py d s = .ok (r, s')) : WriteEffect py mayReplace s d s' := by
  unfold putIfAbsent at done
  simp only [bind_eq_ok] at done
  obtain ⟨⟨⟩, valid, hash, hashed, done⟩ := done
  split at done
  · simp only [bind_eq_ok] at done
    obtain ⟨decision, -, done⟩ := done
    split at done
    · cases done
      exact .unchanged
    · simp only [bind_eq_ok, reduceCtorEq, and_false, exists_false] at done
  · rename_i absent
    simp only [bind_eq_ok] at done
    obtain ⟨⟨⟩, allowed, done⟩ := done
    cases done
    exact .inserted _ _ valid hashed absent allowed

theorem put_effect {r : StoredRevision} (done : put py d s = .ok (r, s')) :
    WriteEffect py (fun existing => ¬ isImmutableSourceDocument existing) s d s' := by
  unfold put at done
  simp only [bind_eq_ok] at done
  obtain ⟨⟨⟩, valid, done⟩ := done
  split at done
  · exact putIfAbsent_effect done
  · rename_i mutable
    simp only [bind_eq_ok] at done
    obtain ⟨hash, hashed, decision, -, done⟩ := done
    split at done
    · rename_i existing found
      split at done
      · cases done
        exact .unchanged
      · simp only [bind_eq_ok, refuseIf_eq_ok] at done
        obtain ⟨⟨⟩, replaceable, ⟨⟩, allowed, number, -, done⟩ := done
        cases done
        exact .replaced _ valid hashed found mutable replaceable allowed
    · rename_i absent
      simp only [bind_eq_ok] at done
      obtain ⟨⟨⟩, allowed, done⟩ := done
      cases done
      exact .inserted _ _ valid hashed absent allowed

theorem putIfRevision_effect {r : StoredRevision} {expectedRev : String}
    (done : putIfRevision py d expectedRev s = .ok (r, s')) :
    WriteEffect py (fun existing =>
      existing.text .rev = expectedRev ∧ ¬ isRevisionScopedSourceCopy existing) s d s' := by
  unfold putIfRevision at done
  simp only [bind_eq_ok, refuseIf_eq_ok, not_not] at done
  obtain ⟨⟨⟩, valid, ⟨⟩, additive, ⟨⟩, sameRev, hash, hashed, decision, -, done⟩ := done
  split at done
  · cases done
    exact .unchanged
  · split at done
    · simp only [bind_eq_ok, reduceCtorEq, and_false, exists_false] at done
    · rename_i unscoped
      simp only [not_or] at unscoped
      have mutable : ¬ isImmutableSourceDocument d := by
        simpa [isImmutableSourceDocument, unscoped.1] using additive
      rw [bind_eq_ok] at done
      obtain ⟨⟨⟩, allowed, done⟩ := done
      obtain ⟨number, assigned⟩ : ∃ number,
          s' = s.assign (Store.stamp d (d.text .id) (revText number hash) hash) := by
        split at done
        · cases done
          exact ⟨1, rfl⟩
        · rw [bind_eq_ok] at done
          obtain ⟨number, -, done⟩ := done
          cases done
          exact ⟨number, rfl⟩
      subst assigned
      cases found : s.get (d.text .id) with
      | none =>
          rw [found] at allowed
          exact .inserted _ _ valid hashed found allowed
      | some existing =>
          rw [found] at allowed unscoped sameRev
          exact .replaced _ valid hashed found mutable ⟨sameRev, unscoped.2⟩ allowed

/-! ## Documents written by merge and patch -/

theorem updated_get? {p : Patch} {current : Doc} {f : Field} (other : f ∉ patchFields) :
    (p.updated current).get? f = current.get? f := by
  simp only [patchFields, List.mem_cons, List.not_mem_nil, or_false, not_or] at other
  simp [Patch.updated, bookkeepingFields, Doc.get?_set, Doc.get?_without, other]

theorem relocated_get? {p : Patch} {current : Doc} {locator rev hash : String} {f : Field}
    (other : f ∉ patchFields) :
    (Store.stamp ((p.updated current).set .sourceLocatorHash (.str locator)) p.docId rev hash).get? f =
      current.get? f := by
  have kept : (p.updated current).get? f = current.get? f := updated_get? other
  simp only [patchFields, List.mem_cons, List.not_mem_nil, or_false, not_or] at other
  simp [Store.stamp, Doc.get?_set, other, kept]

theorem get?_adopt (incoming merged : Doc) (f g : Field) :
    (adopt incoming merged f).get? g =
      if g = f then (presentField incoming g).or (merged.get? g) else merged.get? g := by
  unfold adopt
  split <;> by_cases same : g = f <;> simp_all [Doc.get?_set]

theorem get?_foldl_adopt (incoming : Doc) (fields : List Field) (merged : Doc) (f : Field) :
    (fields.foldl (adopt incoming) merged).get? f =
      if f ∈ fields then (presentField incoming f).or (merged.get? f) else merged.get? f := by
  induction fields generalizing merged with
  | nil => simp
  | cons g rest ih =>
      rw [List.foldl_cons, ih, get?_adopt]
      by_cases here : f = g <;> by_cases later : f ∈ rest <;> simp [here, later]
      all_goals cases presentField incoming g <;> simp_all

theorem mergedIdentity_get? (existing incoming : Doc) (f : Field) (other : f ∉ bookkeepingFields) :
    (mergedIdentity existing incoming).get? f =
      if f ∈ identityFields then (presentField incoming f).or (existing.get? f)
      else existing.get? f := by
  rw [mergedIdentity, get?_foldl_adopt, Doc.get?_without, if_neg other]

/-- The bounds of an envelope, and which of them are ends. -/
def boundFields : List (Field × Bool) :=
  [(.startedAt, false), (.observedAtStart, false), (.endedAt, true), (.observedAtEnd, true)]

variable (py) in
/-- What the merge of two envelopes writes. -/
def mergedEnvelope (authoritative : Bool) (existing incoming : Doc) : Doc :=
  (mergedIdentity existing incoming).update [
    (.startedAt, .str (boundOf py [existing.text .startedAt, incoming.text .startedAt] false)),
    (.observedAtStart, .str (boundOf py [existing.text .observedAtStart, incoming.text .observedAtStart] false)),
    (.endedAt, .str (boundOf py [existing.text .endedAt, incoming.text .endedAt] true)),
    (.observedAtEnd, .str (boundOf py [existing.text .observedAtEnd, incoming.text .observedAtEnd] true)),
    (.sourceHash, match incoming.value? .sourceHash with
      | some v => if authoritative then v else firstValue existing incoming .sourceHash
      | none => firstValue existing incoming .sourceHash),
    (.materializedAt, firstValue existing incoming .materializedAt),
    (.sourceStatus, firstValue existing incoming .sourceStatus)]

/-- The fields in which the envelopes of one session do not differ. -/
def SameSessionFields (existing incoming : Doc) : Prop := ∀ f ∈ [Field.sessionIdHash, .provider, .project],
  ¬ (existing.text f ≠ "" ∧ incoming.text f ≠ "" ∧ existing.text f ≠ incoming.text f)

theorem forM_sameSession {existing incoming : Doc} : ([Field.sessionIdHash, .provider, .project].forM (fun f =>
      refuseIf (existing.text f ≠ "" ∧ incoming.text f ≠ "" ∧ existing.text f ≠ incoming.text f)
        (.storeError ("transcript session " ++ f.name ++ " changed"))) : Except PyError Unit) = .ok () ↔
    SameSessionFields existing incoming := by
  rw [forM_eq_ok_iff]
  simp only [refuseIf_eq_ok, SameSessionFields]

/-- When the merge of two envelopes returns, and what. -/
theorem merge_some_eq_ok {existing incoming merged : Doc} {authoritative : Bool} :
    mergeTranscriptSessionDocuments py (some existing) incoming authoritative = .ok merged ↔
      validateForWrite py incoming = .ok () ∧ docType? incoming = some .transcriptSession ∧
      docType? existing = some .transcriptSession ∧ existing.text .id = incoming.text .id ∧
      SameSessionFields existing incoming ∧
      (∀ b ∈ boundFields, ¬ Overflows py [existing.text b.1, incoming.text b.1]) ∧
      validateForWrite py merged = .ok () ∧ merged = mergedEnvelope py authoritative existing incoming := by
  rw [← forM_sameSession]
  simp only [mergeTranscriptSessionDocuments, bind_eq_ok, refuseIf_eq_ok, not_not, chronologicalBound_eq_ok, boundFields, List.forall_mem_cons, List.not_mem_nil, false_implies, implies_true,
    and_true]
  constructor
  · rintro ⟨⟨⟩, valid, ⟨⟩, session, ⟨⟩, session', ⟨⟩, sameId, ⟨⟩, same, startedAt, ⟨first, rfl⟩, observedAtStart,
      ⟨second, rfl⟩, endedAt, ⟨third, rfl⟩, observedAtEnd, ⟨fourth, rfl⟩, ⟨⟩, valid', done⟩
    cases done
    exact ⟨valid, session, session', sameId, same, ⟨first, second, third, fourth⟩, valid', rfl⟩
  · rintro ⟨valid, session, session', sameId, same, ⟨first, second, third, fourth⟩, valid', rfl⟩
    exact ⟨(), valid, (), session, (), session', (), sameId, (), same, _, ⟨first, rfl⟩, _, ⟨second, rfl⟩, _,
      ⟨third, rfl⟩, _, ⟨fourth, rfl⟩, (), valid', rfl⟩

theorem merge_ok {existing : Option Doc} {incoming merged : Doc} {authoritative : Bool}
    (done : mergeTranscriptSessionDocuments py existing incoming authoritative = .ok merged) :
    validateForWrite py incoming = .ok () ∧ docType? incoming = some .transcriptSession ∧
      docType? merged = some .transcriptSession ∧ merged.text .id = incoming.text .id := by
  cases existing with
  | none =>
      simp only [mergeTranscriptSessionDocuments, bind_eq_ok, refuseIf_eq_ok, not_not] at done
      obtain ⟨⟨⟩, valid, ⟨⟩, session, done⟩ := done
      cases done
      have kept (f : Field) (other : f ∉ bookkeepingFields) :
          (incoming.without bookkeepingFields).get? f = incoming.get? f := by
        simp [Doc.get?_without, other]
      exact ⟨valid, session, (docType?_congr (kept .docType (by decide))).trans session,
        Doc.text_congr (kept .id (by decide))⟩
  | some existing =>
      obtain ⟨valid, session, -, sameId, -, -, -, rfl⟩ := merge_some_eq_ok.mp done
      refine ⟨valid, session, ?_, ?_⟩
      · rw [docType?_eq_some_iff] at session ⊢
        simp [mergedEnvelope, Doc.get?_set, mergedIdentity_get?, identityFields, bookkeepingFields, presentField,
          session, Option.filter, SourceDocType.text]
      · rw [← sameId]
        apply Doc.text_congr
        simp [mergedEnvelope, Doc.get?_set, mergedIdentity_get?, identityFields, bookkeepingFields]

theorem Op.Writes.target {op : Op} (writes : op.Writes s d) : d.text .id = op.target := by
  cases op with
  | put | putIfAbsent | putIfRevision => rw [show d = _ from writes]; rfl
  | merge => exact writes.1
  | patch p =>
      obtain ⟨current, found, rfl⟩ := writes
      exact (Doc.text_congr (updated_get? (by decide))).trans (Store.get_keyed found)
  | delete => exact writes.elim

theorem Op.Writes.ownPrefixed {op : Op} (writes : op.Writes s d) (own : op.OwnPrefixed s) :
    Source.OwnPrefixed d := by
  cases op with
  | put | putIfAbsent | putIfRevision => exact (show d = _ from writes) ▸ own
  | merge =>
      obtain ⟨t, typed, own⟩ := own
      exact ⟨t, writes.2.trans typed, writes.1 ▸ own⟩
  | patch p =>
      have target := writes.target
      obtain ⟨current, found, rfl⟩ := writes
      obtain ⟨t, typed, own⟩ := own current found
      refine ⟨t, (docType?_congr (updated_get? (by decide))).trans typed, ?_⟩
      rw [target, Op.target]
      rwa [Store.get_keyed found] at own
  | delete => exact writes.elim

theorem patch_effect {p : Patch} {r : StoredRevision}
    (done : patchObservedTimeIfContentHash py p s = .ok (r, s')) : Effect py s (.patch p) s' := by
  unfold patchObservedTimeIfContentHash at done
  rw [bind_eq_ok] at done
  obtain ⟨⟨⟩, -, done⟩ := done
  split at done
  · cases done
  · rename_i current found
    rw [bind_eq_ok] at done
    obtain ⟨⟨⟩, checked, done⟩ := done
    split at done
    · cases done
      exact .unchanged _
    · rw [bind_eq_ok] at done
      obtain ⟨⟨⟩, allowed, done⟩ := done
      have plain (done : put py (p.updated current) s = .ok (r, s')) : Effect py s (.patch p) s' :=
        .wrote ⟨current, found, rfl⟩ (put_effect done)
      unfold Patch.write at done
      split at done
      · exact plain done
      · rename_i locator replacement
        split at done
        · exact plain done
        · rename_i moved
          simp only [bind_eq_ok] at done
          obtain ⟨⟨⟩, valid, hash, hashed, number, -, done⟩ := done
          cases done
          refine .relocated found checked replacement ?_ valid hashed allowed
          simpa [Patch.keepsLocator, replacement, eq_comm] using moved

/-- Every operation that returns has one of the effects. -/
theorem Op.perform_effect {op : Op} {reply : Reply} (done : op.perform py s = .ok (reply, s')) :
    Effect py s op s' := by
  cases op with
  | put d =>
      obtain ⟨⟨r, t⟩, written, same⟩ := except_map_eq_ok done
      cases same
      exact .wrote rfl (put_effect written)
  | putIfAbsent d =>
      obtain ⟨⟨r, t⟩, written, same⟩ := except_map_eq_ok done
      cases same
      exact .wrote rfl (putIfAbsent_effect written)
  | putIfRevision d rev =>
      obtain ⟨⟨r, t⟩, written, same⟩ := except_map_eq_ok done
      cases same
      exact .wrote rfl (putIfRevision_effect written)
  | merge incoming attempts authoritative =>
      obtain ⟨⟨r, t⟩, written, same⟩ := except_map_eq_ok done
      cases same
      unfold mergeTranscriptSessionAggregate at written
      simp only [bind_eq_ok] at written
      obtain ⟨⟨⟩, -, merged, merging, written⟩ := written
      obtain ⟨-, session, mergedSession, sameId⟩ := merge_ok merging
      exact .wrote ⟨sameId, mergedSession.trans session.symm⟩ (put_effect written)
  | patch p =>
      obtain ⟨⟨r, t⟩, written, same⟩ := except_map_eq_ok done
      cases same
      exact patch_effect written
  | delete docId =>
      obtain ⟨⟨r, t⟩, written, same⟩ := except_map_eq_ok done
      cases same
      unfold Source.delete at written
      split at written
      · cases written
        exact .unchanged _
      · rename_i existing found
        simp only [bind_eq_ok] at written
        obtain ⟨⟨⟩, allowed, written⟩ := written
        cases written
        exact .removed found allowed

/-- So has every operation as a step of the store: raising changes nothing. -/
theorem Op.exec_effect (op : Op) (s : Store) : Effect py s op (op.exec py s).2 := by
  unfold Op.exec
  split
  · rename_i done
    exact Op.perform_effect done
  · exact .unchanged op

/-! ## What becomes of one stored document -/

/-- What an operation can make of a document that is already stored. -/
inductive Change (py : Platform) (s : Store) : Op → Doc → Option Doc → Prop
  | kept (op : Op) (d : Doc) : Change py s op d (some d)
  | replaced {op : Op} {d written : Doc} (rev hash : String) (writes : op.Writes s written)
      (sameId : written.text .id = d.text .id) (mutable : ¬ isImmutableSourceDocument written)
      (replaceable : op.mayReplace d)
      (allowed : requireActiveSourceRevisionAllowsWrite py s (d.text .id) d false = .ok ()) :
      Change py s op d (some (Store.stamp written (d.text .id) rev hash))
  | relocated {p : Patch} {d : Doc} (locator rev hash : String) (sameId : d.text .id = p.docId)
      (checked : p.check d = .ok ()) (moves : ¬ p.keepsLocator d)
      (allowed : requireActiveSourceRevisionAllowsWrite py s (d.text .id) d false = .ok ()) :
      Change py s (.patch p) d (some (Store.stamp
        ((p.updated d).set .sourceLocatorHash (.str locator)) p.docId rev hash))
  | removed {d : Doc} (allowed : requireActiveSourceRevisionAllowsDelete py s d = .ok ()) :
      Change py s (.delete (d.text .id)) d none

theorem Effect.change {op : Op} (effect : Effect py s op s') {docId : String}
    (stored : s.get docId = some d) : Change py s op d (s'.get docId) := by
  have sameId := Store.get_keyed stored
  cases effect with
  | unchanged => exact stored ▸ .kept op d
  | wrote writes effect =>
      rename_i written
      cases effect with
      | unchanged => exact stored ▸ .kept op d
      | inserted rev allow valid hashed absent allowed =>
          rw [Store.get_assign, Doc.text_congr (Store.get?_stamp _ _ _ _ (by decide)), if_neg]
          · exact stored ▸ .kept op d
          · rintro rfl
            rw [absent] at stored
            cases stored
      | replaced rev valid hashed found mutable replaceable allowed =>
          rw [Store.get_assign, Doc.text_congr (Store.get?_stamp _ _ _ _ (by decide))]
          split
          · rename_i here
            rw [← here, stored] at found
            cases found
            rw [here] at sameId
            rw [← sameId] at allowed ⊢
            exact .replaced _ _ writes sameId.symm mutable replaceable allowed
          · exact stored ▸ .kept op d
  | relocated found checked replacement moves valid hashed allowed =>
      rw [Store.get_assign, Doc.text_congr (relocated_get? (by decide)), Store.get_keyed found]
      split
      · rename_i here
        rw [← here, stored] at found
        cases found
        rw [here] at sameId
        rw [← sameId] at allowed
        exact .relocated _ _ _ sameId checked moves allowed
      · exact stored ▸ .kept _ d
  | removed found allowed =>
      rw [Store.get_remove]
      split
      · rename_i here
        rw [← here, stored] at found
        cases found
        rw [← here, ← sameId]
        exact .removed allowed
      · exact stored ▸ .kept _ d

/-! ## What is stored -/

/-- Up to bookkeeping, the document passed the write boundary under the id. -/
def Validated (py : Platform) (docId : String) (stored : Doc) : Prop :=
  ∃ d, validateForWrite py d = .ok () ∧ d.text .id = docId ∧
    ∀ f ∉ bookkeepingFields, stored.get? f = d.get? f

/-- A document stored after an operation was stored before or has been validated. -/
theorem Effect.stored_validated {op : Op} (effect : Effect py s op s') {docId : String} {d : Doc}
    (stored : s'.get docId = some d) : s.get docId = some d ∨ Validated py docId d := by
  have assigned {written : Doc} {rev hash : String} (valid : validateForWrite py written = .ok ())
      (stored : (s.assign (Store.stamp written (written.text .id) rev hash)).get docId = some d) :
      s.get docId = some d ∨ Validated py docId d := by
    rw [Store.get_assign, Doc.text_congr (Store.get?_stamp _ _ _ _ (by decide))] at stored
    split at stored
    · rename_i here
      cases stored
      exact .inr ⟨written, valid, here.symm, fun f other => Store.get?_stamp _ _ _ _ other⟩
    · exact .inl stored
  cases effect with
  | unchanged => exact .inl stored
  | wrote writes effect =>
      cases effect with
      | unchanged => exact .inl stored
      | inserted rev allow valid hashed absent allowed => exact assigned valid stored
      | replaced rev valid hashed found mutable replaceable allowed => exact assigned valid stored
  | relocated found checked replacement moves valid hashed allowed =>
      rename_i p current locator rev hash
      have sameId : ((p.updated current).set .sourceLocatorHash (.str locator)).text .id = p.docId := by
        rw [← Store.get_keyed found]
        apply Doc.text_congr
        rw [Doc.get?_set, if_neg (by decide), updated_get? (by decide)]
      rw [← sameId] at stored
      exact assigned valid stored
  | removed found allowed =>
      rw [Store.get_remove] at stored
      split at stored
      · cases stored
      · exact .inl stored

theorem mutable_of_allowsDelete (allowed : requireActiveSourceRevisionAllowsDelete py s d = .ok ()) :
    ¬ isImmutableSourceDocument d ∧ docType? d ≠ some .activeSourceRevision := by
  unfold requireActiveSourceRevisionAllowsDelete at allowed
  simp only [bind_eq_ok, refuseIf_eq_ok, not_or] at allowed
  exact allowed.choose_spec.1

end Neurons.Source
