import Neurons.Source.Bundler
import Neurons.Source.PinnedRevision

/-! # Converging the secondary records of a pinned session

Refreshing writes the coverage manifest and the projection state of a session, never its source
or its pointer. However it ends the revision stays what it is, and a manifest it leaves names
the active source hash.
-/

namespace Neurons.Source

open Neurons.Lib

/-! ## What one write leaves under an id -/

section Writes

variable {py : Platform} {s s' : Store} {d : Doc}

/-- The document an unconditional, additive or conditional write is given. -/
def Op.written? : Op → Option Doc
  | .put d | .putIfAbsent d | .putIfRevision d _ => some d
  | .merge _ _ _ | .patch _ | .delete _ => none

theorem WriteEffect.get_cases {mayReplace : Doc → Prop} (effect : WriteEffect py mayReplace s d s')
    (docId : String) : s'.get docId = s.get docId ∨
      docId = d.text .id ∧ ∃ rev hash, s'.get docId = some (Store.stamp d (d.text .id) rev hash) := by
  have assigned (rev hash : String) : (s.assign (Store.stamp d (d.text .id) rev hash)).get docId =
      if docId = d.text .id then some (Store.stamp d (d.text .id) rev hash) else s.get docId := by
    rw [Store.get_assign, Doc.text_congr (Store.get?_stamp d _ _ _ (by decide))]
  cases effect with
  | unchanged => exact .inl rfl
  | inserted rev | replaced rev =>
      by_cases here : docId = d.text .id
      · exact .inr ⟨here, rev, _, by rw [assigned, if_pos here]⟩
      · exact .inl (by rw [assigned, if_neg here])

/-- A write leaves every other id as it was, and under its own id what was there or its document. -/
theorem Op.exec_get_cases {op : Op} (writes : op.written? = some d) (s : Store) (docId : String) :
    (op.exec py s).2.get docId = s.get docId ∨ docId = d.text .id ∧
      ∃ rev hash, (op.exec py s).2.get docId = some (Store.stamp d (d.text .id) rev hash) := by
  have effect : Effect py s op (op.exec py s).2 := op.exec_effect s
  have only : ∀ written, op.Writes s written → written = d := by
    intro written of
    cases op with
    | put | putIfAbsent | putIfRevision => exact of.trans (Option.some.inj writes)
    | merge | patch | delete => cases writes
  generalize (op.exec py s).2 = after at effect
  cases effect with
  | unchanged => exact .inl rfl
  | wrote of effect =>
      rw [only _ of] at effect
      exact effect.get_cases docId
  | relocated => cases writes
  | removed => cases writes

theorem Op.target_of_written {op : Op} (writes : op.written? = some d) : op.target = d.text .id := by
  cases op with
  | put | putIfAbsent | putIfRevision =>
      cases writes
      rfl
  | merge | patch | delete => cases writes

theorem Op.ownPrefixed_of_written {op : Op} (writes : op.written? = some d) (own : Source.OwnPrefixed d) :
    op.OwnPrefixed s := by
  cases op with
  | put | putIfAbsent | putIfRevision =>
      cases writes
      exact own
  | merge | patch | delete => cases writes

end Writes

/-! ## The active revision -/

section Active

variable {py : Platform} {s : Store} {sessionIdHash : String} {r : ResolvedSourceRevision}

theorem hashLike_sourceHash {documents : List Doc} {hash : String} (hashed : sourceHash py documents = .ok hash) :
    hashLike hash := by
  unfold sourceHash at hashed
  simp only [bind_eq_ok, pure_eq_ok, Except.ok.injEq] at hashed
  obtain ⟨-, -, -, -, -, -, rfl⟩ := hashed
  exact hashLike_sha256Hash _ _

/-- A resolved revision names its session and the hash of its documents. -/
theorem resolve_names (resolves : s.resolve py sessionIdHash = .ok r) :
    r.sessionIdHash = sessionIdHash ∧ hashLike r.sourceHash := by
  cases pointerAt : s.get (activeSourceRevisionPointerDocId sessionIdHash) with
  | some pointer =>
      obtain ⟨-, parsed, documents, -, supports, rfl⟩ := (resolve_pinned_iff pointerAt).mp resolves
      exact ⟨rfl, hashLike_sourceHash (rescue_eq_ok.mp supports.hash)⟩
  | none =>
      rw [Store.resolve, resolveActiveSourceRevision] at resolves
      simp only [ofExcept_except, bind_eq_ok, Store.reader, ok_bind, pointerAt, loadLegacyDocuments,
        resolveLegacy, pure_eq_ok, Except.ok.injEq] at resolves
      obtain ⟨⟨⟩, -, hash, hashed, rfl⟩ := resolves
      exact ⟨rfl, hashLike_sourceHash (rescue_eq_ok.mp hashed)⟩

/-- The session's revision `r` is pinned, by the given pointer document. -/
structure Active (py : Platform) (r : ResolvedSourceRevision) (pointer : Doc) (s : Store) : Prop where
  resolves : s.resolve py r.sessionIdHash = .ok r
  pinned : r.isLegacyUnpinned = false
  pointerAt : s.get (activeSourceRevisionPointerDocId r.sessionIdHash) = some pointer

/-- The stored coverage manifest names the revision's source hash. -/
def Covered (r : ResolvedSourceRevision) (s : Store) : Prop :=
  ∃ coverage, s.get (coverageManifestDocId r.sessionIdHash) = some coverage ∧ coverage.text .sourceHash = r.sourceHash

variable {pointer d : Doc} {op : Op}

/-- A write of another document type leaves the revision pinned. -/
theorem Active.exec {t : SourceDocType} (active : Active py r pointer s) (writes : op.written? = some d)
    (typed : docType? d = some t) (own : OwnPrefix t (d.text .id)) (other : t ≠ .activeSourceRevision) :
    Active py r pointer (op.exec py s).2 := by
  have elsewhere : op.target ≠ activeSourceRevisionPointerDocId r.sessionIdHash := by
    rw [Op.target_of_written writes]
    exact own.ne (ownPrefix_pointer _) other
  have effect : Effect py s op (op.exec py s).2 := op.exec_effect s
  exact ⟨effect.keeps_pinned active.resolves active.pinned elsewhere
    (Op.ownPrefixed_of_written writes ⟨t, typed, own⟩), active.pinned, effect.frame active.pointerAt elsewhere⟩

/-- A write covers what was covered, if what it writes under the manifest's id does. -/
theorem Covered.exec (covered : Covered r s) (writes : op.written? = some d)
    (names : d.text .id = coverageManifestDocId r.sessionIdHash → d.text .sourceHash = r.sourceHash) :
    Covered r (op.exec py s).2 := by
  obtain ⟨coverage, at_, same⟩ := covered
  have found : (op.exec py s).2.get (coverageManifestDocId r.sessionIdHash) = _ ∨ _ :=
    Op.exec_get_cases writes s _
  rcases found with kept | ⟨here, rev, hash, stored⟩
  · exact ⟨coverage, kept.trans at_, same⟩
  · refine ⟨_, stored, ?_⟩
    rw [Doc.text_congr (Store.get?_stamp _ _ _ _ (by decide))]
    exact names here.symm

end Active

/-! ## The coverage manifest -/

section Converge

variable {py : Platform} {fmt : Formats} {s : Store} {r : ResolvedSourceRevision} {pointer : Doc}

theorem coverageDocument_eq_ok {existing : Option Doc} {observed : String × String} {d : Doc}
    (built : coverageDocument py fmt r existing observed = .ok d) :
    Identified .coverageManifest (coverageManifestDocId r.sessionIdHash) r.sessionIdHash d ∧
      d.get? .sourceHash = some (.str r.sourceHash) := by
  unfold coverageDocument at built
  simp only [bind_eq_ok] at built
  obtain ⟨ledger, -, authority, -, manifest, manifested, built⟩ := built
  have identified := buildCoverageManifestDocument_eq_ok manifested
  have renamed : Identified .coverageManifest (coverageManifestDocId r.sessionIdHash) r.sessionIdHash
      (manifest.set .sourceHash (.str r.sourceHash)) :=
    identified.congr fun f mem => by
      simp only [List.mem_cons, List.not_mem_nil, or_false] at mem
      rcases mem with rfl | rfl | rfl <;> simp [Doc.get?_set]
  split at built
  · cases built
    exact ⟨renamed, by simp [Doc.get?_set]⟩
  · split at built
    · cases built
    · cases built
      exact ⟨renamed.congr fun f _ => get?_insert_other _ _ _ _, by simp [Doc.get?_set]⟩

/-- The snapshot the store as it stands gives. -/
def Store.coverageSnapshot (py : Platform) (fmt : Formats) (s : Store) (sessionIdHash : String) :
    Except PyError (Option CoverageSnapshot) := do
  let resolved ← s.resolve py sessionIdHash
  let existing ← s.reader.get (coverageManifestDocId sessionIdHash)
  if existing = none ∧ resolved.conversationChunks = [] ∧ resolved.toolEvidenceBundles = [] then return none
  else do
    let observed ← observedTimeBounds py resolved.documents
    let doc ← coverageDocument py fmt resolved existing observed
    return some ⟨doc, resolved.sessions, observed, resolved.isLegacyUnpinned⟩

theorem observes_coverageSnapshot (sessionIdHash : String) :
    Prog.Observes (StoreCall.exec py) s (coverageSnapshot py fmt sessionIdHash)
      (s.coverageSnapshot py fmt sessionIdHash) := by
  unfold coverageSnapshot Store.coverageSnapshot
  refine (observes_resolve sessionIdHash).bind fun resolved _ => ?_
  refine (observes_get _).bind fun existing _ => ?_
  split
  · rfl
  · refine (observes_ofExcept _).bind fun observed _ => ?_
    exact (observes_ofExcept _).bind fun _ _ => rfl

/-- A snapshot of a pinned session. -/
structure PinnedSnapshot (r : ResolvedSourceRevision) (snapshot : CoverageSnapshot) : Prop where
  manifest : Identified .coverageManifest (coverageManifestDocId r.sessionIdHash) r.sessionIdHash snapshot.doc
  hash : snapshot.doc.get? .sourceHash = some (.str r.sourceHash)
  pinned : snapshot.isLegacyUnpinned = false

theorem Active.snapshot (active : Active py r pointer s) {snapshot : CoverageSnapshot}
    (taken : s.coverageSnapshot py fmt r.sessionIdHash = .ok (some snapshot)) : PinnedSnapshot r snapshot := by
  unfold Store.coverageSnapshot at taken
  rw [active.resolves, ok_bind, bind_eq_ok] at taken
  obtain ⟨existing, -, taken⟩ := taken
  split at taken
  · cases taken
  · simp only [bind_eq_ok, pure_eq_ok, Except.ok.injEq, Option.some.injEq] at taken
    obtain ⟨observed, -, doc, built, rfl⟩ := taken
    obtain ⟨identified, hash⟩ := coverageDocument_eq_ok built
    exact ⟨identified, hash, active.pinned⟩

variable (py r pointer) in
/-- The revision is pinned, and covered if it was. -/
def Refreshing (covered : Prop) (s : Store) : Prop := Active py r pointer s ∧ (covered → Covered r s)

variable {covered : Prop}

/-- Putting a snapshot's manifest. -/
theorem Refreshing.put (refreshing : Refreshing py r pointer covered s) {snapshot : CoverageSnapshot}
    (taken : PinnedSnapshot r snapshot) :
    Refreshing py r pointer covered ((Op.put snapshot.doc).exec py s).2 := by
  have own : OwnPrefix .coverageManifest (snapshot.doc.text .id) := by
    rw [taken.manifest.text_id]
    exact ownPrefix_coverageManifest _
  exact ⟨refreshing.1.exec rfl taken.manifest.docType? own (by decide),
    fun start => (refreshing.2 start).exec rfl fun _ => Doc.text_of_str taken.hash⟩

theorem keeps_performOp {op : Op} {inv : Store → Prop} (holds : inv (op.exec py s).2) :
    Prog.Keeps (StoreCall.exec py) inv (fun _ _ => True) (performOp op) s :=
  Prog.Keeps.call (Prog.Keeps.observes (Prog.Observes.ofExcept _ _) holds fun _ _ => trivial)

theorem converged_eq_true {current : CoverageSnapshot} {persisted : Doc}
    (tested : current.converged py persisted = .ok true) :
    persisted.text .sourceHash = current.doc.text .sourceHash := by
  by_contra differ
  simp [CoverageSnapshot.converged, differ] at tested

/-- The session envelope of a pinned snapshot is left alone. -/
theorem PinnedSnapshot.observes_mergeEnvelope {snapshot : CoverageSnapshot} (taken : PinnedSnapshot r snapshot) :
    Prog.Observes (StoreCall.exec py) s (mergeEnvelope snapshot) (.ok ()) := by
  unfold mergeEnvelope
  rw [taken.pinned]
  cases snapshot.sessions <;> rfl

/-- Every attempt keeps the revision, and the one that converges covers it. -/
theorem convergeCoverage_keeps (attempts : Nat) (refreshing : Refreshing py r pointer covered s) :
    Prog.Keeps (StoreCall.exec py) (Refreshing py r pointer covered)
      (fun coverage s' => coverage.isSome → Covered r s')
      (convergeCoverage py fmt r.sessionIdHash attempts) s := by
  induction attempts generalizing s with
  | zero => exact .fail refreshing
  | succ attempts ih =>
      refine .observes_bind (observes_coverageSnapshot _) refreshing fun first taken => ?_
      cases first with
      | none => exact .done refreshing (by simp)
      | some snapshot =>
          have pinned := refreshing.1.snapshot taken
          refine (keeps_performOp (refreshing.put pinned)).bind fun _ s' refreshing _ => ?_
          refine .observes_bind pinned.observes_mergeEnvelope refreshing fun _ _ => ?_
          refine .observes_bind (observes_coverageSnapshot _) refreshing fun second taken => ?_
          cases second with
          | none => exact ih refreshing
          | some current =>
              have latest := refreshing.1.snapshot taken
              refine .observes_bind (observes_get _) refreshing fun persisted found => ?_
              refine .observes_bind (observes_ofExcept _) refreshing fun converged tested => ?_
              cases converged with
              | false => exact ih refreshing
              | true =>
                  refine .done refreshing fun _ => ?_
                  have same := converged_eq_true tested
                  rw [Doc.text_of_str latest.hash] at same
                  rw [← Except.ok.inj found] at same
                  cases stored : s'.get (coverageManifestDocId r.sessionIdHash) with
                  | some coverage => exact ⟨coverage, stored, by rwa [stored] at same⟩
                  | none =>
                      rw [stored] at same
                      exact absurd same.symm (hashLike_nonempty (resolve_names refreshing.1.resolves).2)

/-! ## The projection state -/

theorem attemptOp_keeps {op : Op} {inv : Store → Prop} (after : inv (op.exec py s).2) :
    Prog.Keeps (StoreCall.exec py) inv (fun _ _ => True) (attemptOp op) s := by
  refine Prog.Keeps.tryCatch ?_ fun e s' holds => ?_
  · exact (keeps_performOp after).bind fun _ _ holds _ => .done holds trivial
  · split
    · exact .done holds trivial
    · exact .fail holds

theorem observes_currentSessionSourceHash (active : Active py r pointer s) :
    Prog.Observes (StoreCall.exec py) s (currentSessionSourceHash py r.sessionIdHash) (.ok r.sourceHash) := by
  have resolves : Prog.Observes (StoreCall.exec py) s _ (s.resolve py r.sessionIdHash) := observes_resolve _
  rw [active.resolves] at resolves
  refine resolves.bind (g := fun _ => .ok r.sourceHash) fun found same => ?_
  cases same
  rw [if_neg (by simp [active.pinned])]
  rfl

theorem pendingState_eq_ok {sessionIdHash provider project hash : String} {existing d : Doc}
    (built : pendingState py fmt sessionIdHash provider project hash existing = .ok d) :
    Identified .projectionState (projectionStateDocId sessionIdHash) sessionIdHash d := by
  unfold pendingState at built
  simp only [bind_eq_ok] at built
  obtain ⟨state, stated, built⟩ := built
  have identified := buildProjectionStateDocument_eq_ok stated
  split at built
  · cases built
    exact identified.congr fun f _ => get?_insert_other _ _ _ _
  · cases built
    exact identified

/-- Writing the projection state of a session leaves its revision and its manifest. -/
theorem Refreshing.state (refreshing : Refreshing py r pointer covered s) {d : Doc} {rev : String}
    (state : Identified .projectionState (projectionStateDocId r.sessionIdHash) r.sessionIdHash d) :
    Refreshing py r pointer covered ((Op.putIfRevision d rev).exec py s).2 := by
  have own : OwnPrefix .projectionState (d.text .id) := by
    rw [state.text_id]
    exact ownPrefix_projectionState _
  have elsewhere := own.ne (ownPrefix_coverageManifest r.sessionIdHash) (by decide)
  exact ⟨refreshing.1.exec rfl state.docType? own (by decide),
    fun start => (refreshing.2 start).exec rfl fun here => absurd here elsewhere⟩

theorem markPending_keeps (attempts : Nat) {provider project hash : String}
    (refreshing : Refreshing py r pointer covered s) :
    Prog.Keeps (StoreCall.exec py) (Refreshing py r pointer covered) (fun _ _ => True)
      (markPending py fmt r.sessionIdHash provider project hash attempts) s := by
  induction attempts generalizing s with
  | zero => exact .fail refreshing
  | succ attempts ih =>
      refine .observes_bind (observes_get _) refreshing fun existing _ => ?_
      refine .observes_bind (observes_currentSessionSourceHash refreshing.1) refreshing fun current _ => ?_
      split
      · exact .done refreshing trivial
      split
      · exact .done refreshing trivial
      refine .observes_bind (observes_ofExcept _) refreshing fun state stated => ?_
      refine (attemptOp_keeps (refreshing.state (pendingState_eq_ok stated))).bind
        fun written s' refreshing _ => ?_
      cases written with
      | false => exact ih refreshing
      | true =>
          refine .observes_bind (observes_get _) refreshing fun stored _ => ?_
          exact .done refreshing trivial

theorem mark_keeps {provider project hash : String} (refreshing : Refreshing py r pointer covered s) :
    Prog.Keeps (StoreCall.exec py) (Refreshing py r pointer covered) (fun _ _ => True)
      ((markProjectionPendingIfSourceChanged py fmt r.sessionIdHash provider project hash).bind
        fun _ => .done ()) s :=
  (markPending_keeps 3 refreshing).bind fun _ _ kept _ => .done kept trivial

/-! ## The refresh -/

/-- However a refresh ends the revision is what it was; where it returns the manifest covers it. -/
theorem refresh_keeps (fmt : Formats) (refreshing : Refreshing py r pointer covered s) :
    Prog.Keeps (StoreCall.exec py) (Refreshing py r pointer covered) (fun _ s' => Covered r s')
      (refreshActiveBundleCurrentness py fmt r) s := by
  refine (convergeCoverage_keeps 3 refreshing).bind fun coverage s' refreshing converged => ?_
  refine .observes_bind (observes_ofExcept _) refreshing fun _ named => ?_
  have covers : Covered r s' := by
    apply converged
    rw [refuseIf_eq_ok, not_not] at named
    cases coverage with
    | none => cases named
    | some d => rfl
  have settled : Refreshing py r pointer True s' := ⟨refreshing.1, fun _ => covers⟩
  split
  · exact (mark_keeps settled).weaken (fun s'' kept => ⟨kept.1, fun _ => kept.2 trivial⟩)
      fun _ s'' kept _ => kept.2 trivial
  · exact .fail refreshing

/-- However a refresh of a pinned session ends, its revision resolves as before from the pointer that it had,
    and a manifest that named the active source hash names it still; where the refresh returns, one does. -/
theorem refresh_covers (active : Active py r pointer s) :
    let ended := (refreshActiveBundleCurrentness py fmt r).run (StoreCall.exec py) s
    Active py r pointer ended.2 ∧ (Covered r s → Covered r ended.2) ∧ (ended.1 = .ok () → Covered r ended.2) := by
  have refreshing : Refreshing py r pointer (Covered r s) s := ⟨active, id⟩
  obtain ⟨⟨still, kept⟩, converged⟩ := refresh_keeps fmt refreshing
  exact ⟨still, kept, fun returned => converged () returned⟩

/-! ### One session -/

def coveredSession : String := "sha256:" ++ String.ofList (List.replicate 64 'a')

def coveredEnvelope : Doc := Doc.ofFields [
  (.id, .str "transcript_session:a"), (.docType, .str SourceDocType.transcriptSession.text),
  (.sessionIdHash, .str coveredSession), (.provider, .str "codex"), (.project, .str "neurons")]

def coveredSourceHash : String := "sha256:fb9251a5a3ac76c0cd75287e73d1a0c5b85e6400209eb0c4b59f2755405b24a6"

def coveredDescriptor : Descriptor where
  sourceDocumentId := "transcript_session:a"
  sourceDocType := SourceDocType.transcriptSession.text
  materialHashField := Field.documentHash.name
  materialHash := sourceDocumentHash countingPlatform coveredEnvelope
  memberRevisionHash := revisionFingerprint countingPlatform coveredEnvelope .documentHash
  sourceDocumentHash := sourceDocumentHash countingPlatform coveredEnvelope

def publishedStore : Store :=
  soleStore countingPlatform coveredEnvelope coveredSession coveredSourceHash coveredDescriptor

def publishedResolved : ResolvedSourceRevision :=
  soleResolved countingPlatform coveredEnvelope coveredSession coveredSourceHash coveredDescriptor

def publishedPointer : Doc :=
  solePointer countingPlatform coveredEnvelope coveredSession coveredSourceHash coveredDescriptor

theorem publishedStore_active : Active countingPlatform publishedResolved publishedPointer publishedStore := by
  have total : sourceHash countingPlatform [coveredEnvelope] = .ok coveredSourceHash := by
    rw [countingPlatform_eq_forced]
    decide +kernel
  have described : sourceMemberDescriptor countingPlatform coveredSession coveredEnvelope = .ok coveredDescriptor :=
    sourceMemberDescriptor_unhashed (by decide) (by decide) (by decide) (by decide)
  refine ⟨?_, rfl, ?_⟩
  · exact soleStore_resolves (t := .transcriptSession) (by decide) described (by decide) rfl total (by decide)
  · exact (soleStore_get _).trans (if_pos rfl)

/-- The manifest of an earlier source. -/
def staleManifest : Doc := Doc.ofFields [
  (.id, .str (coverageManifestDocId coveredSession)), (.docType, .str SourceDocType.coverageManifest.text),
  (.sessionIdHash, .str coveredSession), (.sourceHash, .str "sha256:0")]

/-- The session with such a manifest. -/
def staleStore : Store := ((Op.put staleManifest).exec countingPlatform publishedStore).2

theorem staleStore_active : Active countingPlatform publishedResolved publishedPointer staleStore := by
  have own : OwnPrefix .coverageManifest (staleManifest.text .id) := by decide
  have writes : (Op.put staleManifest).written? = some staleManifest := rfl
  have typed : docType? staleManifest = some .coverageManifest := by decide
  exact publishedStore_active.exec writes typed own (by decide)

/-- Its refresh. -/
theorem refresh_covers_stale :
    let ended := (refreshActiveBundleCurrentness countingPlatform plainFormats publishedResolved).run
      (StoreCall.exec countingPlatform) staleStore
    Active countingPlatform publishedResolved publishedPointer ended.2 ∧
      (Covered publishedResolved staleStore → Covered publishedResolved ended.2) ∧
      (ended.1 = .ok () → Covered publishedResolved ended.2) :=
  refresh_covers staleStore_active

end Converge

end Neurons.Source
