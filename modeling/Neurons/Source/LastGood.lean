import Neurons.Source.Publication
import Neurons.Source.Representation

/-! # The last good receipt

A failed refresh of a PostgreSQL backend is refused where the backend has a receipt of a
projection, and whatever is written replaces the state that was looked at. So such a receipt is
lost only to a commit that brings a status of its own with its representation receipt.
-/

namespace Neurons.Source

open Neurons.Lib
open ReceiptKey

section Interleaving

variable (py : Platform) (fmt : Formats) (checks : ReceiptChecks)
variable (render : ResolvedSourceRevision → Option Doc → Except PyError Materialized)

/-- The writer brings no other status in a representation receipt. -/
def Writer.ClaimsProjected : Writer → Prop
  | .commit c _ => c.ClaimsProjected
  | .backfill _ _ | .mark _ _ _ => True

/-- The receipt in a slot of the stored state is one of a projection. -/
def Slot.ProjectedAt (docId : String) (s : Store) (slot : Slot) : Prop := slot.Projected ((s.get docId).getD ∅)

instance (docId : String) (s : Store) (slot : Slot) : Decidable (slot.ProjectedAt docId s) :=
  inferInstanceAs (Decidable (Slot.Projected _ _))

/-- Commits and marks revise the state whatever the session is named. -/
theorem writers_revise {ι : Type} [DecidableEq ι] {writers : ι → Writer} {sessionIdHash : String}
    (writes : ∀ i, (writers i).isBackfill = false) (own : ∀ i, (writers i).OfSession sessionIdHash)
    (before : List Op) (schedule : List ι) :
    ((writersAt py fmt checks render writers sessionIdHash before).run (StoreCall.exec py) schedule).Guaranteed
      (StoreCall.exec py) (Relied (projectionStateDocId sessionIdHash))
      (fun i => Revises (projectionStateDocId sessionIdHash) (writers i)) (fun _ _ _ => True) := by
  refine Pool.Guaranteed.run (fun s => Relied.refl s) Relied.trans (fun _ _ _ _ _ _ => trivial)
    (fun _ _ _ revises => revises.relied) (fun i => ?_) schedule
  exact (writers i).revises (writes i) (own i) (Store.run_numbered before Store.empty_numbered)

/-- In every interleaving of commits and pending marks of one session, a step of a writer leaves
    the receipts of all other backends and profiles, and a receipt of a projection is only ever
    replaced by another, as long as no commit brings another status in its representation receipt. -/
theorem projected_receipts_kept {ι : Type} [DecidableEq ι] (writers : ι → Writer) (sessionIdHash : String)
    (writes : ∀ i, (writers i).isBackfill = false) (own : ∀ i, (writers i).OfSession sessionIdHash)
    (before : List Op) (schedule : List ι) :
    let docId := projectionStateDocId sessionIdHash
    let reached := (writersAt py fmt checks render writers sessionIdHash before).run (StoreCall.exec py) schedule
    (∀ (i : ι) (slot : Slot), (writers i).slot? ≠ some slot →
        slot.at docId (reached.step (StoreCall.exec py) i).shared = slot.at docId reached.shared) ∧
      ∀ (slot : Slot) (rest : List ι), (∀ j ∈ rest, (writers j).ClaimsProjected) →
        slot.ProjectedAt docId reached.shared →
        slot.ProjectedAt docId (reached.run (StoreCall.exec py) rest).shared := by
  intro docId reached
  have guaranteed := writers_revise py fmt checks render writes own before schedule
  have numbered : reached.shared.Numbered := Pool.run_invariant Store.Numbered (fun c s holds => by
    cases c with
    | get | findBySession => exact holds
    | write op => exact op.exec_numbered holds) (Store.run_numbered before Store.empty_numbered) schedule
  have idle (i : ι) (s : Store) : Revises docId (writers i) s s := .of_same id rfl
  constructor
  · intro i slot other
    have step : Revises docId (writers i) reached.shared (reached.step (StoreCall.exec py) i).shared :=
      guaranteed.step (fun s => Relied.refl s) i (idle i)
    exact (step.promise numbered).kept numbered slot other
  · intro slot rest claims projected
    refine Pool.Guaranteed.preserves (fun s => Relied.refl s) Relied.trans (fun _ _ _ _ _ _ => trivial)
      (fun _ _ _ revises => revises.relied) guaranteed (fun s => slot.ProjectedAt docId s) (I := Store.Numbered)
      (fun _ _ relied numbered => (relied numbered).1) idle ?_ numbered projected
    intro j mem s s' numbered revises held
    refine revises.projected numbered ?_ held
    intro c clock shape
    have claims := claims j mem
    rwa [shape] at claims

end Interleaving

/-! ## One commit alone -/

section Alone

variable {py : Platform} {fmt : Formats} {checks : ReceiptChecks} {s s' : Store} {α : Type}

/-- A program that only reads leaves the store. -/
theorem run_reads {p : StoreProgram α} (uses : p.Uses StoreCall.Reads) : (runStore py p s).2 = s := by
  induction p with
  | done | fail => rfl
  | call c k ih =>
      obtain ⟨reads, rest⟩ := uses
      cases c with
      | get | findBySession => exact ih _ (rest _)
      | write => cases reads

theorem Commit.uses_readBack {c : Commit} {state : Doc} {persisted : Option Doc} :
    (c.readBack py state persisted).Uses StoreCall.Reads := by
  unfold Commit.readBack
  split
  · trivial
  · refine (uses_currentSessionSourceHash _).bind fun current => ?_
    split
    · trivial
    · cases persisted with
      | none => trivial
      | some stored => simp only; split <;> trivial

/-- A commit that finds the session current, and a state it may revise, revises it. -/
theorem Commit.run_writes {c : Commit} (clock : ℕ → ℕ → String) {existing receipt base state : Doc}
    {r : StoredRevision} (checked : c.checkReceipt checks = .ok ())
    (current : Prog.Observes (StoreCall.exec py) s (currentSessionSourceHash py c.materialized.sessionIdHash)
      (.ok c.materialized.sourceHash))
    (found : s.get c.stateId = some existing) (read : c.slot.receipt existing = .ok receipt)
    (spared : ¬ c.wouldDestroy receipt) (stale : c.alreadyProjected checks receipt = false)
    (based : c.projectionState py fmt (some existing) = .ok base)
    (audited : withProjectionAttempt c.attempt (clock 2 3) base = .ok state)
    (stored : putIfRevision py state (existing.text .rev) s = .ok (r, s')) :
    (runStore py (commitProjectionStateIfSourceCurrent py c fmt checks clock) s).2 = s' := by
  have written : (Op.putIfRevision state (existing.text .rev)).exec py s = (.ok (.stored r), s') := by
    simp [Op.exec, Op.perform, stored, Except.map]
  unfold commitProjectionStateIfSourceCurrent
  rw [checked]
  change (Prog.run _ (Prog.bind (currentSessionSourceHash py _) _) s).2 = s'
  rw [current.run_bind]
  change (Prog.run _ (Prog.bind (getDocument c.stateId) _) s).2 = s'
  rw [Prog.Observes.run_bind (observes_get _), if_neg (by simp), found, Option.getD_some, read]
  change (Prog.run _ (if c.wouldDestroy receipt then _ else _) s).2 = s'
  rw [if_neg spared, if_neg (by simp [stale]), based]
  change (Prog.run _ (Prog.bind (ofExcept (withProjectionAttempt c.attempt (clock 2 3) base)) _) s).2 = s'
  rw [audited]
  change (Prog.run _ (Prog.bind (attemptOp (.putIfRevision state (existing.text .rev))) _) s).2 = s'
  have attempted : Prog.run (StoreCall.exec py) (attemptOp (.putIfRevision state (existing.text .rev))) s =
      (.ok true, s') := by
    change Prog.run _ (Prog.tryCatch (Prog.bind (Prog.ofExcept ((Op.putIfRevision _ _).exec py s).1) _) _)
      ((Op.putIfRevision _ _).exec py s).2 = _
    rw [written]
    rfl
  rw [Prog.run_bind, attempted]
  exact run_reads (.bind ⟨trivial, fun _ => trivial⟩ fun persisted => Commit.uses_readBack)

end Alone

/-! ## A refresh that reports a failure -/

def refreshedSession : String := "sha256:" ++ String.ofList (List.replicate 64 'a')

def refreshedStateId : String := "projection_state:" ++ String.ofList (List.replicate 64 'a')

def sessionDocument : Doc := Doc.ofFields [
  (.id, .str "transcript_session:a"),
  (.docType, .str SourceDocType.transcriptSession.text),
  (.sessionIdHash, .str refreshedSession)]

/-- The state of a session that PostgreSQL has a projection of. -/
def projectedState : Doc :=
  let receipt := Doc.ofFields [(.projectionStatus, .str ProjectionStatus.projected.text)]
  Dict.insert
    (Doc.ofFields [
      (.id, .str refreshedStateId),
      (.docType, .str SourceDocType.projectionState.text),
      (.sessionIdHash, .str refreshedSession)])
    (.other "backend_receipts") (Doc.json (Dict.insert ∅ (.other Backend.pgvector.text) receipt.json))

def refreshedMaterialized : Materialized where
  sessionIdHash := refreshedSession
  provider := "codex"
  project := "neurons"
  contentHash := refreshedSession
  sourceHash := "sha256:fb9251a5a3ac76c0cd75287e73d1a0c5b85e6400209eb0c4b59f2755405b24a6"
  materializedAt := ""
  fullyMaterialized := true

def refreshedChunkId : String := "495eb697b705b247538e7683a83b21e87b72d97373a343957c6bade5c1926354"

/-- The representation receipt of the session, with the digest of its mapping. -/
def refreshReceipt : Doc := Dict.insertAll ∅ [(version, Json.num 2), (kind, .str representationKind),
  (profile, .str defaultEmbeddingProfileId), (session, .str refreshedSession), (provider, .str "codex"),
  (project, .str "neurons"), (activeContent, .str refreshedSession),
  (projectedSource, .str refreshedMaterialized.sourceHash), (content, .str refreshedSession),
  (knowledge, .str refreshedChunkId),
  (digest, .str "sha256:a1d4997df39a773e2da7ba9650548a1c2941d0e7271d2c2577b685247e96b37c")]

def refresh (receipt : Doc) : Commit where
  materialized := refreshedMaterialized
  status := .projected
  failureReason := ""
  failureSourceHash := ""
  ref := refreshedChunkId
  backend := .pgvector
  representationReceipt := some receipt
  embeddingProfile := ""

/-- The receipt, and a status that belongs to the state. -/
def failedReceipt : Doc := refreshReceipt.set .projectionStatus (.str ProjectionStatus.failed.text)

def failedRefresh : Commit := refresh failedReceipt

def sessionPayload : String := "sha256:c735c32bba9a0de7b8e9d233830809d709c9eb1e19df35c733995a9466926697"

def statePayload : String := "sha256:82dfb8be5b396b264c0a6894e17d602a76066ad9d091a9d195c12b9b4ae6ae80"

def sessionStore : Store := Store.empty.assign
  (Store.stamp sessionDocument (sessionDocument.text .id) (revText 1 sessionPayload) sessionPayload)

/-- The store that holds both documents. -/
def refreshedStore : Store := sessionStore.assign
  (Store.stamp projectedState (projectedState.text .id) (revText 1 statePayload) statePayload)

def refreshBefore : List Op := [.put sessionDocument, .put projectedState]

theorem payloadHash_repr {d : Doc} (typed : docType? d ∈ [some SourceDocType.transcriptSession, some .projectionState])
    (unhashed : d.value? .contentHash = none ∧ d.value? .coverageHash = none) :
    payloadHash countingPlatform d = .ok ("sha256:" ++ String.ofList (Sha256.hexdigestForced
      (((sortedItemsChars (d.without payloadExcludedFields).entries).flatMap String.utf8EncodeChar).map
        UInt8.toNat))) := by
  have natural : payloadHash countingPlatform d =
      .ok (sha256Hash countingPlatform (.repr (d.without payloadExcludedFields).json)) := by
    simp only [List.mem_cons, List.not_mem_nil, or_false] at typed
    rcases typed with typed | typed <;> simp [payloadHash, typed, unhashed]
  rw [natural, sha256Hash, hexdigest_repr]

theorem payloadHash_projectedState : payloadHash countingPlatform projectedState = .ok statePayload := by
  rw [payloadHash_repr (by decide +kernel) (by decide +kernel)]
  decide +kernel

theorem run_refreshBefore : Store.empty.run countingPlatform refreshBefore = refreshedStore := by
  have hashed : payloadHash countingPlatform sessionDocument = .ok sessionPayload := by
    rw [payloadHash_repr (by decide +kernel) (by decide +kernel)]
    decide +kernel
  have first := put_fresh (s := Store.empty) (by decide +kernel) (by decide +kernel) (by decide +kernel) hashed
    (by decide) rfl (allowsWrite_of_unpinned rfl)
  have second := put_fresh (s := sessionStore) (by decide +kernel) (by decide +kernel) (by decide +kernel)
    payloadHash_projectedState (by decide) (by decide +kernel) (allowsWrite_of_unpinned (by decide +kernel))
  have stored (d : Doc) (s s' : Store) {r : StoredRevision} (done : put countingPlatform d s = .ok (r, s')) :
      ((Op.put d).exec countingPlatform s).2 = s' := by
    simp [Op.exec, Op.perform, done, Except.map]
  change ((Op.put projectedState).exec countingPlatform ((Op.put sessionDocument).exec countingPlatform .empty).2).2 = _
  rw [stored _ _ _ first]
  exact stored _ _ _ second

def storedState : Doc := Store.stamp projectedState (projectedState.text .id) (revText 1 statePayload) statePayload

/-- The state with the receipt of the failed refresh. -/
def unprojectedBase : Doc :=
  ((failedRefresh.projectionState countingPlatform plainFormats (some storedState)).toOption).getD ∅

def unprojectedState : Doc := ((withProjectionAttempt failedRefresh.attempt "" unprojectedBase).toOption).getD ∅

section Compact

open Neurons.Journal

def plainCompactText (s : String) : List Char := '"' :: (plainChars s).flatMap compactEscape ++ ['"']

theorem plainCompactText_eq (s : String) : plainCompactText s = compactText s := by
  rw [plainCompactText, plainChars_eq, compactText]

/-- `compactDumps` of a value that is a text, with the text read off its bytes. -/
def plainCompactValue : Json → List Char
  | .str s => plainCompactText s
  | v => compactDumps v

theorem plainCompactValue_eq (v : Json) : plainCompactValue v = compactDumps v := by
  cases v with
  | str s => exact plainCompactText_eq s
  | null | bool | num | dec | arr | obj => rfl

theorem compactItems_eq (items : List Json) : compactItems items = items.map plainCompactValue := by
  induction items with
  | nil => rfl
  | cons item rest ih => rw [compactItems, ih, List.map_cons, plainCompactValue_eq]

theorem compactDumps_arr (items : List Json) :
    compactDumps (.arr items) = '[' :: [','].intercalate (items.map plainCompactValue) ++ [']'] := by
  rw [compactDumps, compactItems_eq]

theorem compactFields_eq (fields : List (Key × Json)) :
    compactFields fields = fields.map fun entry => (entry.1.name, plainCompactValue entry.2) := by
  induction fields with
  | nil => rfl
  | cons entry rest ih => rw [compactFields, ih, List.map_cons, plainCompactValue_eq]

theorem compactDumps_obj (fields : List (Key × Json)) : compactDumps (.obj fields) =
    '\x7b' :: [','].intercalate
      ((sortOn Prod.fst (fields.map fun entry => (entry.1.name, plainCompactValue entry.2))).map
        fun entry => plainCompactText entry.1 ++ ':' :: entry.2) ++ ['\x7d'] := by
  simp only [compactDumps, compactFields_eq, plainCompactText_eq]

end Compact

theorem failedRefresh_checked : failedRefresh.checkReceipt (receiptChecks countingPlatform) = .ok () := by
  have texts : nonblankTexts (mappingFields.filter (· ≠ version)) failedReceipt := by decide +kernel
  have hashed : hashes [session, activeContent, projectedSource, content, digest] failedReceipt := by
    rw [hashes, hashLike_eq_plain]
    decide +kernel
  have row : textAt failedReceipt knowledge =
      receiptChunkId (derivePgChunkIdImpl countingPlatform) failedReceipt (textAt failedReceipt profile) := by
    simp only [receiptChunkId, derivePgChunkIdImpl, hexdigest_ofList, compactDumps_arr]
    decide +kernel
  have bound : textAt failedReceipt digest = mappingDigest countingPlatform failedReceipt := by
    simp only [mappingDigest, digestOf, sha256Hash, hexdigest_ofList, Doc.json, compactDumps_obj]
    decide +kernel
  have valid : validRepresentationReceipt countingPlatform failedReceipt := by
    simp only [validRepresentationReceipt, texts, hashed, ← row, ← bound, Bool.and_true]
    decide +kernel
  have accepted : (receiptChecks countingPlatform).pg failedReceipt := by
    simp only [receiptChecks, validPgReceiptMetadata, valid, Bool.or_true, Bool.and_true]
    decide +kernel
  unfold Commit.checkReceipt
  change refuseIf _ _ = _
  rw [refuseIf_eq_ok, not_not]
  refine ⟨rfl, accepted, ?_, ?_⟩ <;> decide +kernel

example : failedRefresh.stateId = refreshedStateId := by decide +kernel

theorem observes_current {py : Platform} {s : Store} {sessionIdHash : String} {r : ResolvedSourceRevision}
    (resolved : s.resolve py sessionIdHash = .ok r) (documents : r.documents ≠ []) :
    Prog.Observes (StoreCall.exec py) s (currentSessionSourceHash py sessionIdHash) (.ok r.sourceHash) := by
  have observed : Prog.Observes (StoreCall.exec py) s _ (s.resolve py sessionIdHash) := observes_resolve sessionIdHash
  rw [resolved] at observed
  change Prog.run _ (Prog.bind (resolveActiveSourceRevision py storeReader sessionIdHash) _) s = _
  rw [observed.run_bind, if_neg fun both => documents both.2]
  rfl

/-- A document that takes the place of one with another payload. -/
theorem putIfRevision_replaces {py : Platform} {s : Store} {d existing : Doc} {hash old : String} {number : Int}
    (valid : validateForWrite py d = .ok ()) (mutable : hasImmutableDocType d = false)
    (found : s.get (d.text .id) = some existing) (hashed : payloadHash py d = .ok hash)
    (before : payloadHash py existing = .ok old) (differ : old ≠ hash) (nonblank : hash ≠ "")
    (identified : d.text .id ≠ "")
    (unscoped : isRevisionScopedSourceCopy d = false ∧ isRevisionScopedSourceCopy existing = false)
    (allowed : requireActiveSourceRevisionAllowsWrite py s (d.text .id) existing false = .ok ())
    (revised : existing.text .rev ≠ "") (counted : nextRevNumber py (existing.text .rev) = .ok number) :
    putIfRevision py d (existing.text .rev) s = .ok (⟨d.text .id, revText number hash, .conflictResolved⟩,
      s.assign (Store.stamp d (d.text .id) (revText number hash) hash)) := by
  obtain ⟨decision, decided⟩ : ∃ decision,
      classifyDocumentIdempotency py (some existing) (d.text .id) hash = .ok decision := by
    simp only [classifyDocumentIdempotency, before, ok_bind, classifyIdempotency, refuseIf, identified, nonblank,
      if_false]
    split
    · exact ⟨_, rfl⟩
    · split_ifs <;> exact ⟨_, rfl⟩
  have other : decision ≠ .duplicate := by
    rintro rfl
    have same := classify_duplicate decided
    rw [before] at same
    exact differ (Except.ok.inj same)
  simp [putIfRevision, valid, mutable, found, hashed, decided, other, unscoped, allowed, revised, counted, refuseIf]

/-! The failed refresh is checked, and written over the receipt of the projection. -/

theorem refreshed_reads : refreshedStore.get failedRefresh.stateId = some storedState := by
  decide +kernel

theorem refreshed_current : Prog.Observes (StoreCall.exec countingPlatform) refreshedStore
    (currentSessionSourceHash countingPlatform refreshedSession) (.ok refreshedMaterialized.sourceHash) := by
  have resolved : (refreshedStore.resolve countingPlatform refreshedSession).toOption.any
      (fun r => r.documents ≠ [] ∧ r.sourceHash = refreshedMaterialized.sourceHash) := by decide +kernel
  cases shape : refreshedStore.resolve countingPlatform refreshedSession with
  | error e =>
      rw [shape] at resolved
      cases resolved
  | ok r =>
      rw [shape] at resolved
      obtain ⟨documents, hash⟩ := of_decide_eq_true resolved
      rw [← hash]
      exact observes_current shape documents

def unprojectedPayload : String := "sha256:0d24c5e41d73f4996a90c032400fc7414ebfb422b7f2ca99bb0b70bcb53f4b83"

theorem eq_ok_of_isOk {x : Except PyError Doc} (ok : x.isOk) : x = .ok (x.toOption.getD ∅) := by
  cases x with
  | ok d => rfl
  | error e => cases ok

theorem unprojectedState_written : ∃ r, putIfRevision countingPlatform unprojectedState (storedState.text .rev)
    refreshedStore = .ok (r, refreshedStore.assign (Store.stamp unprojectedState (unprojectedState.text .id)
      (revText 2 unprojectedPayload) unprojectedPayload)) := by
  have hashed : payloadHash countingPlatform unprojectedState = .ok unprojectedPayload := by
    rw [payloadHash_repr (by decide +kernel) (by decide +kernel)]
    decide +kernel
  have before : payloadHash countingPlatform storedState = .ok statePayload := by
    have same : storedState.without payloadExcludedFields = projectedState.without payloadExcludedFields := by
      decide +kernel
    have first := payloadHash_projectedState
    rw [payloadHash_repr (by decide +kernel) (by decide +kernel)] at first
    rwa [payloadHash_repr (by decide +kernel) (by decide +kernel), same]
  exact ⟨_, putIfRevision_replaces (by decide +kernel) (by decide +kernel) (by decide +kernel) hashed before (by decide)
    (by decide) (by decide +kernel) (by decide +kernel) (allowsWrite_of_unpinned (by decide +kernel)) (by decide +kernel)
    (by decide +kernel)⟩

example : unprojectedState.text .id = refreshedStateId := by decide +kernel

theorem refreshedStore_projected : Slot.pgvector.ProjectedAt (projectionStateDocId refreshedSession) refreshedStore := by
  decide +kernel

/-- A refresh with the receipt as it is built keeps the projection's receipt. -/
theorem projected_receipts_kept_refresh :
    Slot.pgvector.ProjectedAt (projectionStateDocId refreshedSession)
      (((writersAt countingPlatform plainFormats (receiptChecks countingPlatform)
        (fun _ _ => .error (.valueError "nothing to render")) (fun _ : Unit => .commit (refresh refreshReceipt) fun _ _ => "")
        refreshedSession refreshBefore).run (StoreCall.exec countingPlatform) []).run (StoreCall.exec countingPlatform)
          (List.replicate 20 ())).shared := by
  refine (projected_receipts_kept countingPlatform plainFormats (receiptChecks countingPlatform)
    (fun _ _ => .error (.valueError "nothing to render")) (fun _ : Unit => .commit (refresh refreshReceipt) fun _ _ => "")
    refreshedSession (fun _ => rfl) (fun _ => rfl) refreshBefore []).2 .pgvector _ ?_ ?_
  · intro j mem
    exact claimsProjected_of_silent (c := refresh refreshReceipt) rfl (by decide +kernel)
  · change Slot.ProjectedAt _ (Store.empty.run countingPlatform refreshBefore) _
    rw [run_refreshBefore]
    exact refreshedStore_projected

/-- A representation receipt that says "failed" is accepted, and what was the receipt of a projection says so. -/
theorem refresh_unprojects :
    let s := Store.empty.run countingPlatform refreshBefore
    Slot.pgvector.ProjectedAt (projectionStateDocId refreshedSession) s ∧
      ¬ Slot.pgvector.ProjectedAt (projectionStateDocId refreshedSession) (runStore countingPlatform
        (commitProjectionStateIfSourceCurrent countingPlatform failedRefresh plainFormats
          (receiptChecks countingPlatform) fun _ _ => "") s).2 := by
  intro s
  have filled : s = refreshedStore := run_refreshBefore
  rw [filled]
  obtain ⟨r, stored⟩ := unprojectedState_written
  have read : failedRefresh.slot.receipt storedState =
      .ok (Doc.ofFields [(.projectionStatus, .str ProjectionStatus.projected.text)]) := by decide +kernel
  have written := Commit.run_writes (fun _ _ => "") failedRefresh_checked refreshed_current refreshed_reads read
    (by decide +kernel) (by decide +kernel) (eq_ok_of_isOk (by decide +kernel)) (eq_ok_of_isOk (by decide +kernel)) stored
  constructor
  · exact refreshedStore_projected
  · rw [written]
    decide +kernel

end Neurons.Source
