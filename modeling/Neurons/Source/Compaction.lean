import Neurons.Source.Retention
import Neurons.Source.SnapshotResolver

/-! # What a failed compaction has deleted

The bodies go one by one and the manifest is written when they are gone, so a call that raises
has kept them only where it raised before the first of them went.
-/

namespace Neurons.Source

open Neurons.Lib

/-! ## The store without the bodies -/

/-- The bodies of a session in the order in which a compaction deletes them. -/
def Store.bodies (s : Store) (sessionIdHash : String) : List Doc :=
  s.findBySession sessionIdHash (some .conversationChunk) ++ s.findBySession sessionIdHash (some .toolEvidenceBundle)

def Store.removeAll (s : Store) (docIds : List String) : Store := docIds.foldl Store.remove s

/-- The document the manifest takes its provider, project and locator from. -/
def Store.anchor (s : Store) (sessionIdHash : String) : List SourceDocType → Doc
  | [] => ∅
  | docType :: rest => (s.findBySession sessionIdHash (some docType)).headD (s.anchor sessionIdHash rest)

/-- The manifest passes its own checks, and the store takes it. -/
def Recordable (py : Platform) (fmt : Formats) (decision : RetentionDecision) (tier : RetentionTier) (s : Store) : Prop :=
  ∃ manifest, buildRetentionManifestDocument py fmt decision.sessionIdHash tier (decision.archive tier)
      (s.anchor decision.sessionIdHash [.transcriptSession, .coverageManifest, .projectionState]) = .ok manifest ∧
    ∃ taken, put py manifest s = .ok taken

/-- A call that raises has deleted no body of the session. -/
def LosesNothing (py : Platform) (fmt : Formats) (decision : RetentionDecision) (s : Store) : Prop :=
  ∀ e s', runStore py (applyRetention py fmt decision false) s = (.error e, s') →
    ∀ d ∈ s.bodies decision.sessionIdHash, s'.get (d.text .id) = some d

section Compaction

variable {py : Platform} {fmt : Formats} {s s' : Store} {decision : RetentionDecision} {sessionIdHash : String}
  {docIds : List String}

theorem Store.get_removeAll (s : Store) (docIds : List String) (docId : String) :
    (s.removeAll docIds).get docId = if docId ∈ docIds then none else s.get docId := by
  induction docIds generalizing s with
  | nil => rfl
  | cons first rest ih =>
      rw [removeAll, List.foldl_cons, ← removeAll, ih, Store.get_remove]
      by_cases here : docId = first <;> simp [here]

theorem Store.mem_bodies {d : Doc} : d ∈ s.bodies sessionIdHash ↔
    s.get (d.text .id) = some d ∧ d.get? .sessionIdHash = some (.str sessionIdHash) ∧
      (docType? d = some .conversationChunk ∨ docType? d = some .toolEvidenceBundle) := by
  rw [bodies, List.mem_append, Store.mem_findBySession, Store.mem_findBySession]
  simp only [Store.ofRequestedType, decide_eq_true_eq]
  tauto

theorem Store.nodup_bodies (s : Store) (sessionIdHash : String) :
    ((s.bodies sessionIdHash).map (·.text .id)).Nodup := by
  rw [bodies, List.map_append, List.nodup_append']
  refine ⟨s.ids_findBySession _ _, s.ids_findBySession _ _, fun docId chunk bundle => ?_⟩
  obtain ⟨d, found, rfl⟩ := List.mem_map.mp chunk
  obtain ⟨d', found', same⟩ := List.mem_map.mp bundle
  rw [Store.mem_findBySession] at found found'
  rw [same, found.1] at found'
  obtain ⟨⟨⟩, -, typed'⟩ := found'
  have typed := found.2.2
  simp only [ofRequestedType, decide_eq_true_eq] at typed typed'
  rw [typed] at typed'
  cases typed'

/-! ## The loop -/

variable (py) in
/-- Without a pointer only immutable documents are kept from deletion. -/
theorem runStore_delete {docId : String} {d : Doc} (stored : s.get docId = some d)
    (session : d.text .sessionIdHash = sessionIdHash) (ordinary : docType? d ≠ some .activeSourceRevision)
    (unpinned : s.get (activeSourceRevisionPointerDocId sessionIdHash) = none) :
    runStore py (performOp (.delete docId)) s =
      if isImmutableSourceDocument d then
        (.error (.conflict "active source revision document is immutable and cannot be deleted"), s)
      else (.ok (.deleted true), s.remove docId) := by
  have outcome : Op.perform py (.delete docId) s =
      if isImmutableSourceDocument d then
        .error (.conflict "active source revision document is immutable and cannot be deleted")
      else .ok (.deleted true, s.remove docId) := by
    simp only [Op.perform, delete, stored, requireActiveSourceRevisionAllowsDelete, session, unpinned, ordinary,
      or_false, refuseIf]
    split <;> simp [Except.map]
  simp only [runStore, performOp, Prog.run_call, StoreCall.exec, Op.exec, outcome, Prog.run_ofExcept]
  by_cases immutable : isImmutableSourceDocument d <;> simp [immutable]

/-- The documents can be deleted one after the other. -/
structure Deletable (s : Store) (sessionIdHash : String) (docIds : List String) : Prop where
  distinct : docIds.Nodup
  stored : ∀ docId ∈ docIds, ∃ d, s.get docId = some d ∧ d.text .sessionIdHash = sessionIdHash ∧
    docType? d ≠ some .activeSourceRevision ∧ isImmutableSourceDocument d = false
  unpinned : s.get (activeSourceRevisionPointerDocId sessionIdHash) = none

theorem Deletable.rest {docId : String} (deletable : Deletable s sessionIdHash (docId :: docIds)) :
    Deletable (s.remove docId) sessionIdHash docIds := by
  obtain ⟨fresh, distinct⟩ := List.nodup_cons.mp deletable.distinct
  refine ⟨distinct, fun other mem => ?_, ?_⟩
  · obtain ⟨d, stored, checks⟩ := deletable.stored other (List.mem_cons_of_mem _ mem)
    refine ⟨d, ?_, checks⟩
    have other_ne : other ≠ docId := by
      rintro rfl
      exact fresh mem
    rw [Store.get_remove, if_neg other_ne]
    exact stored
  · rw [Store.get_remove, deletable.unpinned, ite_self]

variable (py) in
/-- What can be deleted is deleted, and the loop goes on with what is left. -/
theorem Deletable.run (deletable : Deletable s sessionIdHash docIds) (others : List String) :
    runStore py (deleteAll (docIds ++ others)) s = runStore py (deleteAll others) (s.removeAll docIds) := by
  induction docIds generalizing s with
  | nil => rfl
  | cons docId rest ih =>
      obtain ⟨d, stored, session, ordinary, mutable⟩ := deletable.stored docId List.mem_cons_self
      have deleted := runStore_delete py stored session ordinary deletable.unpinned
      rw [mutable, if_neg (by simp)] at deleted
      have first : runStore py (deleteAll (docId :: (rest ++ others))) s =
          runStore py (deleteAll (rest ++ others)) (s.remove docId) := by
        rw [deleteAll, Prog.bind_eq, runStore, Prog.run_bind, ← runStore, deleted]
        rfl
      rw [List.cons_append, first, ih deletable.rest]
      rfl

variable (py docIds) in
/-- The loop stops before a document it may not delete. -/
theorem runStore_deleteAll_refused {docId : String} {d : Doc} (stored : s.get docId = some d)
    (session : d.text .sessionIdHash = sessionIdHash) (ordinary : docType? d ≠ some .activeSourceRevision)
    (unpinned : s.get (activeSourceRevisionPointerDocId sessionIdHash) = none)
    (immutable : isImmutableSourceDocument d) :
    ∃ e, runStore py (deleteAll (docId :: docIds)) s = (.error e, s) := by
  have refused := runStore_delete py stored session ordinary unpinned
  rw [if_pos immutable] at refused
  refine ⟨.conflict "active source revision document is immutable and cannot be deleted", ?_⟩
  rw [deleteAll, Prog.bind_eq, runStore, Prog.run_bind, ← runStore, refused]

/-! ## The whole call -/

variable (py fmt decision) in
/-- The last part of a call: the manifest of the tier it comes to. -/
def recordTier (tier : RetentionTier) (finished : String → RetentionResult) : StoreProgram RetentionResult := do
  let anchor ← anchorDocument decision.sessionIdHash [.transcriptSession, .coverageManifest, .projectionState]
  let manifest ← ofExcept (buildRetentionManifestDocument py fmt decision.sessionIdHash tier (decision.archive tier)
    anchor)
  let _ ← performOp (.put manifest)
  return finished (manifest.text .id)

theorem observes_anchor (docTypes : List SourceDocType) : Prog.Observes (StoreCall.exec py) s
    (anchorDocument sessionIdHash docTypes) (.ok (s.anchor sessionIdHash docTypes)) := by
  induction docTypes with
  | nil => rfl
  | cons docType rest ih =>
      have reads : Prog.Observes (StoreCall.exec py) s (storeReader.findBySession sessionIdHash docType)
          (.ok (s.findBySession sessionIdHash (some docType))) := rfl
      unfold anchorDocument Prog.Observes
      rw [Prog.bind_eq, reads.run_bind, Store.anchor]
      cases s.findBySession sessionIdHash (some docType) with
      | nil => exact ih
      | cons d others => rfl

/-- The manifest is written, or the call raises and leaves the store as it is. -/
theorem recordTier_cases (tier : RetentionTier) (finished : String → RetentionResult) (s : Store) :
    (Recordable py fmt decision tier s ∧
        ∃ result s', runStore py (recordTier py fmt decision tier finished) s = (.ok result, s')) ∨
      ¬ Recordable py fmt decision tier s ∧ ∃ e, runStore py (recordTier py fmt decision tier finished) s = (.error e, s) := by
  unfold recordTier Recordable runStore
  rw [Prog.bind_eq, (observes_anchor _).run_bind, ofExcept_eq, Prog.bind_eq, Prog.run_bind, Prog.run_ofExcept]
  cases buildRetentionManifestDocument py fmt decision.sessionIdHash tier (decision.archive tier)
      (s.anchor decision.sessionIdHash [.transcriptSession, .coverageManifest, .projectionState]) with
  | error e => simp
  | ok manifest =>
      have performed : Op.perform py (.put manifest) s = (put py manifest s).map (Prod.map .stored id) := rfl
      simp only [Prog.bind_eq, Prog.run_bind, performOp, Prog.run_call, StoreCall.exec, Op.exec, performed,
        Prog.run_ofExcept]
      cases written : put py manifest s with
      | error e => simp [Except.map, written]
      | ok taken =>
          obtain ⟨revision, after⟩ := taken
          simp [Except.map, Prod.map, written]

/-- The ids a call deletes. -/
def RetentionDecision.deletes (decision : RetentionDecision) (s : Store) : List String :=
  if decision.compacts && !decision.PinnedIn s then (s.bodies decision.sessionIdHash).map (·.text .id) else []

variable (py s decision) in
theorem observes_deletes : Prog.Observes (StoreCall.exec py) s
    (compactableIds decision.sessionIdHash (decision.compacts && !decision.PinnedIn s)) (.ok (decision.deletes s)) := by
  unfold RetentionDecision.deletes
  cases decision.compacts && !decision.PinnedIn s with
  | false => rfl
  | true =>
      rw [if_pos rfl, Store.bodies, List.map_append]
      have found : Prog.Observes (StoreCall.exec py) s (compactableIds decision.sessionIdHash true)
        (.ok ((s.findBySession decision.sessionIdHash (some .conversationChunk)).map (·.text .id) ++
          ((s.findBySession decision.sessionIdHash (some .toolEvidenceBundle)).map (·.text .id) ++ []))) := rfl
      rwa [List.append_nil] at found

variable (py fmt decision s) in
/-- A call deletes the bodies, if it compacts, and then writes the manifest. -/
theorem runStore_applyRetention : ∃ finished, runStore py (applyRetention py fmt decision false) s =
    runStore py ((deleteAll (decision.deletes s)).bind fun _ =>
      recordTier py fmt decision (decision.appliedTier (decision.PinnedIn s)) finished) s := by
  refine ⟨fun docId =>
    { sessionIdHash := decision.sessionIdHash
      effectiveTier := decision.appliedTier (decision.PinnedIn s)
      dryRun := false
      compacted := decision.compacts && !decision.PinnedIn s
      deletedDocIds := decision.deletes s
      blocking := decision.blocking ++ if decision.PinnedIn s then ["active_source_revision_present"] else []
      retentionManifestId := some docId }, ?_⟩
  unfold applyRetention runStore
  dsimp only
  rw [Prog.bind_eq, observes_pointerBlocks.run_bind, Prog.bind_eq, (observes_deletes py s decision).run_bind]
  rfl

/-- A body of the session stays with the session and is no pointer. -/
theorem body_ordinary {d : Doc} (mem : d ∈ s.bodies sessionIdHash) :
    s.get (d.text .id) = some d ∧ d.text .sessionIdHash = sessionIdHash ∧ docType? d ≠ some .activeSourceRevision := by
  obtain ⟨stored, session, typed⟩ := Store.mem_bodies.mp mem
  refine ⟨stored, Doc.text_of_str session, ?_⟩
  rcases typed with typed | typed <;> simp [typed]

/-- Bodies before an immutable one can be deleted. -/
theorem deletable_of_mutable {pre post : List Doc} (split : s.bodies sessionIdHash = pre ++ post)
    (unpinned : s.get (activeSourceRevisionPointerDocId sessionIdHash) = none)
    (mutable : ∀ d ∈ pre, isImmutableSourceDocument d = false) :
    Deletable s sessionIdHash (pre.map (·.text .id)) := by
  refine ⟨?_, fun docId mem => ?_, unpinned⟩
  · have distinct := s.nodup_bodies sessionIdHash
    rw [split, List.map_append] at distinct
    exact distinct.of_append_left
  · obtain ⟨d, listed, rfl⟩ := List.mem_map.mp mem
    have body : d ∈ s.bodies sessionIdHash := by
      rw [split]
      exact List.mem_append_left _ listed
    obtain ⟨stored, session, ordinary⟩ := body_ordinary body
    exact ⟨d, stored, session, ordinary, mutable d listed⟩

variable (py fmt) in
/-- A compaction that can delete every body raises only where the manifest cannot be written, with the bodies gone. -/
theorem compaction_of_mutable (compacts : decision.compacts = true)
    (unpinned : s.get (activeSourceRevisionPointerDocId decision.sessionIdHash) = none)
    (mutable : ∀ d ∈ s.bodies decision.sessionIdHash, isImmutableSourceDocument d = false) :
    let left := s.removeAll ((s.bodies decision.sessionIdHash).map (·.text .id))
    (Recordable py fmt decision decision.effectiveTier left ∧
        ∃ result s', runStore py (applyRetention py fmt decision false) s = (.ok result, s')) ∨
      ¬ Recordable py fmt decision decision.effectiveTier left ∧
        ∃ e, runStore py (applyRetention py fmt decision false) s = (.error e, left) := by
  have pinned : decision.PinnedIn s = false := by simp [RetentionDecision.PinnedIn, unpinned]
  have deletes : decision.deletes s = (s.bodies decision.sessionIdHash).map (·.text .id) := by
    simp [RetentionDecision.deletes, compacts, pinned]
  have deletable := deletable_of_mutable (List.append_nil _).symm unpinned mutable
  obtain ⟨finished, run⟩ := runStore_applyRetention py fmt s decision
  have emptied := deletable.run py []
  rw [List.append_nil] at emptied
  intro left
  have rest : runStore py (applyRetention py fmt decision false) s =
      runStore py (recordTier py fmt decision decision.effectiveTier finished) left := by
    rw [run, deletes, pinned, runStore, Prog.run_bind, ← runStore, emptied]
    rfl
  rw [rest]
  exact recordTier_cases _ _ _

variable (py fmt) in
/-- A compaction stops before the first immutable body, with those before it gone. -/
theorem compaction_of_immutable (compacts : decision.compacts = true)
    (unpinned : s.get (activeSourceRevisionPointerDocId decision.sessionIdHash) = none) {pre post : List Doc} {d : Doc}
    (split : s.bodies decision.sessionIdHash = pre ++ d :: post)
    (mutable : ∀ d ∈ pre, isImmutableSourceDocument d = false) (immutable : isImmutableSourceDocument d) :
    ∃ e, runStore py (applyRetention py fmt decision false) s = (.error e, s.removeAll (pre.map (·.text .id))) := by
  have pinned : decision.PinnedIn s = false := by simp [RetentionDecision.PinnedIn, unpinned]
  have deletes : decision.deletes s = pre.map (·.text .id) ++ d.text .id :: post.map (·.text .id) := by
    simp [RetentionDecision.deletes, compacts, pinned, split]
  have distinct := s.nodup_bodies decision.sessionIdHash
  rw [split, List.map_append, List.map_cons] at distinct
  have fresh : d.text .id ∉ pre.map (·.text .id) := by
    intro mem
    exact (List.nodup_append'.mp distinct).2.2 mem List.mem_cons_self
  have body : d ∈ s.bodies decision.sessionIdHash := by simp [split]
  obtain ⟨stored, session, ordinary⟩ := body_ordinary body
  have stored' : (s.removeAll (pre.map (·.text .id))).get (d.text .id) = some d := by
    rw [Store.get_removeAll, if_neg fresh, stored]
  have unpinned' : (s.removeAll (pre.map (·.text .id))).get
      (activeSourceRevisionPointerDocId decision.sessionIdHash) = none := by
    rw [Store.get_removeAll, unpinned, ite_self]
  obtain ⟨e, refused⟩ := runStore_deleteAll_refused py (post.map (·.text .id)) stored' session ordinary unpinned' immutable
  obtain ⟨finished, run⟩ := runStore_applyRetention py fmt s decision
  refine ⟨e, ?_⟩
  rw [run, deletes, runStore, Prog.run_bind, ← runStore, (deletable_of_mutable split unpinned mutable).run py, refused]

/-- The decision leads to no compaction of the store. -/
def RetentionDecision.Idle (decision : RetentionDecision) (s : Store) : Prop :=
  decision.compacts = false ∨ s.get (activeSourceRevisionPointerDocId decision.sessionIdHash) ≠ none

/-- Where nothing is deleted, a call that raises has changed nothing. -/
theorem losesNothing_of_kept (kept : decision.deletes s = []) : LosesNothing py fmt decision s := by
  intro e s' raised d mem
  obtain ⟨finished, run⟩ := runStore_applyRetention py fmt s decision
  have rest : runStore py (applyRetention py fmt decision false) s = runStore py
      (recordTier py fmt decision (decision.appliedTier (decision.PinnedIn s)) finished) s := by
    rw [run, kept]
    rfl
  rw [rest] at raised
  rcases recordTier_cases (decision.appliedTier (decision.PinnedIn s)) finished s with ⟨-, result, s'', done⟩ | ⟨-, e', failed⟩
  · rw [done] at raised
    cases raised
  · rw [failed] at raised
    cases raised
    exact (body_ordinary mem).1

/-- A body among the deleted ones is gone. -/
theorem body_gone {docs : List Doc} {d : Doc} (mem : d ∈ docs) :
    (s.removeAll (docs.map (·.text .id))).get (d.text .id) ≠ some d := by
  rw [Store.get_removeAll, if_pos (List.mem_map_of_mem mem)]
  simp

/-- Where every body can be deleted and there is one, the manifest decides. -/
theorem losesNothing_of_mutable (compacts : decision.compacts = true)
    (unpinned : s.get (activeSourceRevisionPointerDocId decision.sessionIdHash) = none)
    (mutable : ∀ d ∈ s.bodies decision.sessionIdHash, isImmutableSourceDocument d = false)
    {d : Doc} (mem : d ∈ s.bodies decision.sessionIdHash) :
    LosesNothing py fmt decision s ↔ Recordable py fmt decision decision.effectiveTier
      (s.removeAll ((s.bodies decision.sessionIdHash).map (·.text .id))) := by
  rcases compaction_of_mutable py fmt compacts unpinned mutable with ⟨recordable, result, s', done⟩ | ⟨unrecordable, e, failed⟩
  · refine iff_of_true ?_ recordable
    intro e s'' raised
    rw [done] at raised
    cases raised
  · refine iff_of_false ?_ unrecordable
    intro losesNothing
    exact body_gone mem (losesNothing e _ failed d mem)

/-- Where a body is immutable, the call has deleted nothing exactly where it is the first one. -/
theorem losesNothing_of_immutable (compacts : decision.compacts = true)
    (unpinned : s.get (activeSourceRevisionPointerDocId decision.sessionIdHash) = none) {pre post : List Doc} {d : Doc}
    (split : s.bodies decision.sessionIdHash = pre ++ d :: post)
    (mutable : ∀ d ∈ pre, isImmutableSourceDocument d = false) (immutable : isImmutableSourceDocument d) :
    LosesNothing py fmt decision s ↔ pre = [] := by
  obtain ⟨e, failed⟩ := compaction_of_immutable py fmt compacts unpinned split mutable immutable
  constructor
  · intro losesNothing
    cases pre with
    | nil => rfl
    | cons first pre =>
        have mem : first ∈ s.bodies decision.sessionIdHash := by simp [split]
        exact absurd (losesNothing e _ failed first mem) (body_gone List.mem_cons_self)
  · rintro rfl e' s' raised d' mem
    rw [failed] at raised
    cases raised
    exact (body_ordinary mem).1

/-- A call that raises has deleted no body exactly where it compacts nothing, where the session has no bodies, where
    the first of them may not be deleted, or where all may be deleted and the manifest can be written without them. -/
theorem applyRetention_losesNothing_iff (py : Platform) (fmt : Formats) (s : Store) (decision : RetentionDecision) :
    LosesNothing py fmt decision s ↔ decision.Idle s ∨ s.bodies decision.sessionIdHash = [] ∨
      (∃ d ∈ (s.bodies decision.sessionIdHash).head?, isImmutableSourceDocument d) ∨
      (∀ d ∈ s.bodies decision.sessionIdHash, isImmutableSourceDocument d = false) ∧
        Recordable py fmt decision decision.effectiveTier
          (s.removeAll ((s.bodies decision.sessionIdHash).map (·.text .id))) := by
  by_cases idle : decision.Idle s
  · have kept : decision.deletes s = [] := by
      rcases idle with idle | idle
      · simp [RetentionDecision.deletes, idle]
      · simp [RetentionDecision.deletes, RetentionDecision.PinnedIn, Option.isSome_iff_ne_none.mpr idle]
    simp only [losesNothing_of_kept kept, idle, true_or]
  obtain ⟨compacts, unpinned⟩ : decision.compacts = true ∧
      s.get (activeSourceRevisionPointerDocId decision.sessionIdHash) = none := by
    simpa [RetentionDecision.Idle] using idle
  cases found : (s.bodies decision.sessionIdHash).find? (fun d => isImmutableSourceDocument d) with
  | none =>
      have mutable : ∀ d ∈ s.bodies decision.sessionIdHash, isImmutableSourceDocument d = false := by
        intro d mem
        simpa using List.find?_eq_none.mp found d mem
      cases bodies : s.bodies decision.sessionIdHash with
      | nil =>
          have kept : decision.deletes s = [] := by simp [RetentionDecision.deletes, bodies]
          simp only [losesNothing_of_kept kept, true_or, or_true]
      | cons first rest =>
          have listed : first ∈ s.bodies decision.sessionIdHash := by simp [bodies]
          rw [losesNothing_of_mutable compacts unpinned mutable listed, bodies]
          rw [bodies] at mutable
          constructor
          · intro recordable
            exact .inr (.inr (.inr ⟨mutable, recordable⟩))
          · rintro (moot | none | ⟨d, head, immutable⟩ | ⟨-, recordable⟩)
            · exact absurd moot idle
            · cases none
            · cases head
              rw [mutable first List.mem_cons_self] at immutable
              cases immutable
            · exact recordable
  | some d =>
      obtain ⟨immutable, pre, post, split, mutable⟩ := List.find?_eq_some_iff_append.mp found
      have listed := List.mem_of_find?_eq_some found
      have unrecordable : ¬ ∀ d ∈ s.bodies decision.sessionIdHash, isImmutableSourceDocument d = false := by
        intro every
        rw [every d listed] at immutable
        cases immutable
      rw [losesNothing_of_immutable compacts unpinned split (by simpa using mutable) immutable]
      constructor
      · rintro rfl
        exact .inr (.inr (.inl ⟨d, by simp [split], immutable⟩))
      · rintro (moot | none | ⟨d', head, immutable'⟩ | ⟨every, -⟩)
        · exact absurd moot idle
        · rw [none] at listed
          cases listed
        · cases pre with
          | nil => rfl
          | cons first pre =>
              rw [split, List.cons_append, List.head?_cons, Option.mem_some_iff] at head
              have kept := mutable first List.mem_cons_self
              rw [head, immutable'] at kept
              cases kept
        · exact absurd every unrecordable

end Compaction

/-! ## A copy left by an activation -/

def rawChunk : Doc := Doc.ofFields [
  (.id, .str "conversation_chunk:a"),
  (.docType, .str SourceDocType.conversationChunk.text),
  (.sessionIdHash, .str retainedSession)]

/-- The copy an activation staged before it was cut off. -/
def stagedChunk : Doc := Doc.ofFields [
  (.id, .str "conversation_chunk:snapshot:a"),
  (.docType, .str SourceDocType.conversationChunk.text),
  (.sessionIdHash, .str retainedSession),
  (.sourceSnapshotSchemaVersion, .str sourceSnapshotSchemaVersion),
  (.sourceSnapshotScope, .str retainedSession),
  (.sourceSnapshotOriginId, .str "conversation_chunk:a")]

def stagedStore : Store := (Store.empty.assign rawChunk).assign stagedChunk

/-- The raw chunk is deleted before the copy is refused, and no manifest is written. -/
theorem compaction_stops_halfway :
    ¬ LosesNothing referencePlatform plainFormats (planRetention agedCall.input agedCall.policy) stagedStore ∧
    ∃ e s', runStore referencePlatform
        (applyRetention referencePlatform plainFormats (planRetention agedCall.input agedCall.policy) false) stagedStore =
      (.error e, s') ∧ s'.get "conversation_chunk:a" = none ∧ retentionManifest s' retainedSession = none := by
  have session : (planRetention agedCall.input agedCall.policy).sessionIdHash = retainedSession := by decide
  have unpinned : stagedStore.get (activeSourceRevisionPointerDocId retainedSession) = none := by decide +kernel
  have bodies : stagedStore.bodies retainedSession = [rawChunk] ++ stagedChunk :: [] := by decide +kernel
  rw [← session] at unpinned bodies
  have mutable : ∀ d ∈ [rawChunk], isImmutableSourceDocument d = false := by decide +kernel
  have immutable : isImmutableSourceDocument stagedChunk := by decide +kernel
  constructor
  · rw [losesNothing_of_immutable (by decide) unpinned bodies mutable immutable]
    simp
  · obtain ⟨e, failed⟩ := compaction_of_immutable referencePlatform plainFormats (by decide) unpinned bodies mutable
      immutable
    exact ⟨e, _, failed, by decide +kernel, by decide +kernel⟩

end Neurons.Source
