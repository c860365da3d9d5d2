import Neurons.Source.Currentness
import Neurons.Source.ReferencePlatform

/-! # Tiered retention

`retention.py`: the age of a session suggests a tier, gates decide whether its bodies may go,
and applying the decision drops them and records the tier in the session's one retention
manifest. The tiers are ordered hot to cold and a transition may only move forward; each
decision is made from its own inputs, so that is up to the caller.
-/

namespace Neurons.Source

open Neurons.Lib

/-! ## Tiers -/

inductive RetentionTier where
  | hotFull | hotManifestOnly | coldArchiveRef
  deriving DecidableEq, Repr

namespace RetentionTier

def text : RetentionTier → String
  | .hotFull => "hot_full"
  | .hotManifestOnly => "hot_manifest_only"
  | .coldArchiveRef => "cold_archive_ref"

/-- Ordered hot to cold. -/
def order : List RetentionTier := [.hotFull, .hotManifestOnly, .coldArchiveRef]

def rank (tier : RetentionTier) : ℕ := order.idxOf tier

def ofText? (s : String) : Option RetentionTier := order.find? (fun tier => tier.text = s)

theorem ofText?_text (tier : RetentionTier) : ofText? tier.text = some tier := by
  cases tier <;> decide

end RetentionTier

/-! ## Decisions -/

structure RetentionPolicy where
  hotFullMaxAgeDays : Int := 30
  hotManifestMaxAgeDays : Int := 90

structure RetentionInput where
  sessionIdHash : String
  ageDays : Int
  projectionStatus : String := ProjectionStatus.pending.text
  coverageIntact : Bool := true
  coldArchiveRef : String := ""

structure RetentionDecision where
  sessionIdHash : String
  desiredTier : RetentionTier
  effectiveTier : RetentionTier
  allowed : Bool
  coldArchiveRef : String
  blocking : List String := []

def desiredTier (ageDays : Int) (policy : RetentionPolicy) : RetentionTier :=
  if ageDays ≤ policy.hotFullMaxAgeDays then .hotFull
  else if ageDays ≤ policy.hotManifestMaxAgeDays then .hotManifestOnly
  else .coldArchiveRef

/-- The gates a removal of bodies does not pass. -/
def RetentionInput.blocking (input : RetentionInput) : List String :=
  (if input.projectionStatus ≠ ProjectionStatus.projected.text then ["session_memory_not_projected"] else []) ++
    (if input.coverageIntact then [] else ["coverage_not_intact"]) ++
    (if input.coldArchiveRef = "" then ["cold_archive_ref_missing"] else [])

def planRetention (input : RetentionInput) (policy : RetentionPolicy) : RetentionDecision :=
  let desired := desiredTier input.ageDays policy
  if desired = .hotFull then
    { sessionIdHash := input.sessionIdHash
      desiredTier := desired
      effectiveTier := .hotFull
      allowed := true
      coldArchiveRef := input.coldArchiveRef }
  else
    let blocking := input.blocking
    let allowed := blocking.isEmpty
    { sessionIdHash := input.sessionIdHash
      desiredTier := desired
      effectiveTier := if allowed then desired else .hotFull
      allowed
      coldArchiveRef := input.coldArchiveRef
      blocking }

/-! ## The manifest -/

def retentionManifestDocId (sessionIdHash : String) : String :=
  SourceDocType.retentionManifest.text ++ ":" ++ hashHex sessionIdHash

section Apply

variable (py : Platform) (fmt : Formats)

/-- `document.get(field, "")`. -/
def rawField (d : Doc) (f : Field) : Json := (d.get? f).getD (.str "")

/-- `if source_locator_hash: assert_hash_like("source_locator_hash", source_locator_hash)`. -/
def assertLocator (locator : Json) : Except PyError Unit :=
  match locator with
  | .str text => assertHashLikeIfPresent "source_locator_hash" text
  | other => refuseIf other.truthy (.typeError "expected string or bytes-like object")

/-- Provider, project and locator are taken over from the anchor as they are stored there. -/
def buildRetentionManifestDocument (sessionIdHash : String) (tier : RetentionTier) (coldArchiveRef : String)
    (anchor : Doc) : Except PyError Doc := do
  refuseIf (tier = .coldArchiveRef ∧ coldArchiveRef = "")
    (.valueError "cold_archive_ref is required for the cold_archive_ref tier")
  assertHashLike "session_id_hash" sessionIdHash
  assertLocator (rawField anchor .sourceLocatorHash)
  let base ← baseDocument fmt .retentionManifest (retentionManifestDocId sessionIdHash) ""
    (anchor.text .project) sessionIdHash ""
  let anchored := base.update [(.provider, rawField anchor .provider),
    (.sourceLocatorHash, rawField anchor .sourceLocatorHash)]
  finalize py (Dict.insert (Dict.insert anchored (.other "tier") (.str tier.text)) (.other "cold_archive_ref")
    (.str coldArchiveRef))

/-! ## Applying a decision -/

/-- Doc families whose heavy bodies are dropped from the hot store on compaction. -/
def compactableDocTypes : List SourceDocType := [.conversationChunk, .toolEvidenceBundle]

structure RetentionResult where
  sessionIdHash : String
  effectiveTier : RetentionTier
  dryRun : Bool
  compacted : Bool
  deletedDocIds : List String
  blocking : List String
  retentionManifestId : Option String := none

/-- The decision would remove bodies. -/
def RetentionDecision.compacts (decision : RetentionDecision) : Bool :=
  decision.allowed && decision.effectiveTier ≠ .hotFull

/-- Whether an active revision's pointer blocks the compaction. -/
def pointerBlocks (decision : RetentionDecision) : StoreProgram Bool :=
  if decision.compacts then do
    let pointer ← getDocument (activeSourceRevisionPointerDocId decision.sessionIdHash)
    return pointer.isSome
  else return false

/-- The ids of a session's documents of these types. -/
def documentIds (sessionIdHash : String) : List SourceDocType → StoreProgram (List String)
  | [] => .done []
  | docType :: rest => do
      let found ← storeReader.findBySession sessionIdHash docType
      let others ← documentIds sessionIdHash rest
      return found.map (·.text .id) ++ others

def compactableIds (sessionIdHash : String) (willCompact : Bool) : StoreProgram (List String) :=
  if willCompact then documentIds sessionIdHash compactableDocTypes else .done []

def deleteAll : List String → StoreProgram Unit
  | [] => .done ()
  | docId :: rest => do
      let _ ← performOp (.delete docId)
      deleteAll rest

/-- `_anchor_fields`: the first surviving document of these types. -/
def anchorDocument (sessionIdHash : String) : List SourceDocType → StoreProgram Doc
  | [] => .done ∅
  | docType :: rest => do
      match ← storeReader.findBySession sessionIdHash docType with
      | d :: _ => return d
      | [] => anchorDocument sessionIdHash rest

/-- The tier a decision comes to. -/
def RetentionDecision.appliedTier (decision : RetentionDecision) (pinned : Bool) : RetentionTier :=
  if pinned then .hotFull else decision.effectiveTier

def applyRetention (decision : RetentionDecision) (dryRun : Bool) : StoreProgram RetentionResult := do
  let sessionIdHash := decision.sessionIdHash
  let pinned ← pointerBlocks decision
  let willCompact := decision.compacts && !pinned
  let effectiveTier := decision.appliedTier pinned
  let blocking := decision.blocking ++ if pinned then ["active_source_revision_present"] else []
  let toDelete ← compactableIds sessionIdHash willCompact
  let planned : RetentionResult :=
    { sessionIdHash, effectiveTier, dryRun, compacted := false, deletedDocIds := toDelete, blocking }
  if dryRun then return planned
  else do
    deleteAll toDelete
    let anchor ← anchorDocument sessionIdHash [.transcriptSession, .coverageManifest, .projectionState]
    let coldArchiveRef := if effectiveTier = .coldArchiveRef then decision.coldArchiveRef else ""
    let manifest ← ofExcept (buildRetentionManifestDocument py fmt sessionIdHash effectiveTier coldArchiveRef anchor)
    let _ ← performOp (.put manifest)
    return { planned with compacted := willCompact, retentionManifestId := some (manifest.text .id) }

end Apply

/-! ## What a store records -/

def retentionManifest (s : Store) (sessionIdHash : String) : Option Doc :=
  (s.get (retentionManifestDocId sessionIdHash)).filter (fun d => docType? d = some .retentionManifest)

/-- The text under a key the vocabulary does not have. -/
def entryText (d : Doc) (name : String) : Option String :=
  match Dict.get? d (.other name) with
  | some (.str text) => some text
  | _ => none

def recordedTier (s : Store) (sessionIdHash : String) : Option RetentionTier :=
  (retentionManifest s sessionIdHash).bind fun d => (entryText d "tier").bind RetentionTier.ofText?

def recordedArchiveRef (s : Store) (sessionIdHash : String) : String :=
  ((retentionManifest s sessionIdHash).bind fun d => entryText d "cold_archive_ref").getD ""

/-- The recorded tier does not go back, and the archive reference of a cold session stays. -/
structure MovesForward (sessionIdHash : String) (s s' : Store) : Prop where
  tier : ∀ tier ∈ recordedTier s sessionIdHash, ∃ tier' ∈ recordedTier s' sessionIdHash, tier.rank ≤ tier'.rank
  archived : recordedTier s sessionIdHash = some .coldArchiveRef → recordedArchiveRef s sessionIdHash ≠ "" →
    recordedArchiveRef s' sessionIdHash = recordedArchiveRef s sessionIdHash

/-- One call of `plan_retention` and of `apply_retention` on its decision. -/
structure RetentionCall where
  input : RetentionInput
  policy : RetentionPolicy := {}

def RetentionCall.apply (py : Platform) (fmt : Formats) (s : Store) (call : RetentionCall) : Store :=
  (runStore py (applyRetention py fmt (planRetention call.input call.policy) false) s).2

/-- The gates are passed and no active revision holds the bodies. -/
def RetentionInput.Passes (input : RetentionInput) (s : Store) : Prop :=
  input.blocking = [] ∧ s.get (activeSourceRevisionPointerDocId input.sessionIdHash) = none

/-- The call is no step back from what is recorded: for a compacted session its gates are
    passed and it is old enough for the tier it has, and a cold one keeps its archive. -/
def RetentionCall.KeepsTier (s : Store) (call : RetentionCall) : Prop :=
  match recordedTier s call.input.sessionIdHash with
  | none | some .hotFull => True
  | some .hotManifestOnly => call.input.Passes s ∧ call.policy.hotFullMaxAgeDays < call.input.ageDays
  | some .coldArchiveRef =>
      call.input.Passes s ∧ call.policy.hotFullMaxAgeDays < call.input.ageDays ∧
        call.policy.hotManifestMaxAgeDays < call.input.ageDays ∧
        (recordedArchiveRef s call.input.sessionIdHash ≠ "" →
          call.input.coldArchiveRef = recordedArchiveRef s call.input.sessionIdHash)

/-! ## What one call does -/

section Step

variable {py : Platform} {fmt : Formats} {s s' s'' : Store} {sessionIdHash : String}

theorem MovesForward.refl (s : Store) : MovesForward sessionIdHash s s :=
  ⟨fun tier recorded => ⟨tier, recorded, le_rfl⟩, fun _ _ => rfl⟩

theorem recordedTier_congr (same : retentionManifest s' sessionIdHash = retentionManifest s sessionIdHash) :
    recordedTier s' sessionIdHash = recordedTier s sessionIdHash ∧
      recordedArchiveRef s' sessionIdHash = recordedArchiveRef s sessionIdHash := by
  simp only [recordedTier, recordedArchiveRef, same, and_self]

theorem MovesForward.of_same (same : retentionManifest s' sessionIdHash = retentionManifest s sessionIdHash) :
    MovesForward sessionIdHash s s' := by
  obtain ⟨tier, archive⟩ := recordedTier_congr same
  exact ⟨fun t recorded => ⟨t, tier ▸ recorded, le_rfl⟩, fun _ _ => archive⟩

/-- No tier is colder than the archive. -/
theorem eq_coldArchiveRef {tier : RetentionTier} (coldest : RetentionTier.rank .coldArchiveRef ≤ tier.rank) :
    tier = .coldArchiveRef := by
  cases tier with
  | coldArchiveRef => rfl
  | hotFull | hotManifestOnly => exact absurd coldest (by decide)

theorem MovesForward.trans (first : MovesForward sessionIdHash s s') (second : MovesForward sessionIdHash s' s'') :
    MovesForward sessionIdHash s s'' := by
  constructor
  · intro tier recorded
    obtain ⟨tier', recorded', le⟩ := first.tier tier recorded
    obtain ⟨tier'', recorded'', le'⟩ := second.tier tier' recorded'
    exact ⟨tier'', recorded'', le.trans le'⟩
  · intro cold named
    obtain ⟨tier', recorded', coldest⟩ := first.tier _ cold
    rw [eq_coldArchiveRef coldest] at recorded'
    have kept := first.archived cold named
    rw [second.archived recorded' (by rwa [kept]), kept]

/-- The manifest names a tier and an archive. -/
def Records (sessionIdHash : String) (tier : RetentionTier) (coldArchiveRef : String) (s : Store) : Prop :=
  recordedTier s sessionIdHash = some tier ∧ recordedArchiveRef s sessionIdHash = coldArchiveRef

/-- A document that is a session's compactable one is not its manifest. -/
theorem not_manifest_of_compactable {docType : SourceDocType} {d : Doc} (compactable : docType ∈ compactableDocTypes)
    (found : d ∈ s.findBySession sessionIdHash (some docType))
    (here : d.text .id = retentionManifestDocId sessionIdHash) : retentionManifest s sessionIdHash = none := by
  rw [Store.findBySession, mem_sortOn, List.mem_filter, Table.mem_values_iff] at found
  obtain ⟨⟨docId, stored⟩, kept⟩ := found
  have typed : docType? d = some docType := by
    simp only [Store.ofRequestedType, decide_eq_true_eq, Bool.decide_and, Bool.and_eq_true] at kept
    exact kept.2
  have other : docType ≠ .retentionManifest := by
    rintro rfl
    exact absurd compactable (by decide)
  have at_ : s.get (retentionManifestDocId sessionIdHash) = some d := by
    rw [← here, s.keyed docId d stored]
    exact stored
  simp [retentionManifest, at_, typed, other]

variable (py) in
theorem observes_documentIds (docTypes : List SourceDocType) (compactable : docTypes ⊆ compactableDocTypes) :
    ∃ ids, Prog.Observes (StoreCall.exec py) s (documentIds sessionIdHash docTypes) (.ok ids) ∧
      (retentionManifestDocId sessionIdHash ∈ ids → retentionManifest s sessionIdHash = none) := by
  induction docTypes with
  | nil => exact ⟨[], rfl, by simp⟩
  | cons docType rest ih =>
      obtain ⟨others, observed, apart⟩ := ih fun t mem => compactable (List.mem_cons_of_mem _ mem)
      refine ⟨(s.findBySession sessionIdHash (some docType)).map (·.text .id) ++ others, ?_, fun mem => ?_⟩
      · have reads : Prog.Observes (StoreCall.exec py) s (storeReader.findBySession sessionIdHash docType)
            (.ok (s.findBySession sessionIdHash (some docType))) := rfl
        refine reads.bind (g := fun found => .ok (found.map (·.text .id) ++ others)) fun found _ => ?_
        refine observed.bind (g := fun others => .ok (found.map (·.text .id) ++ others)) fun _ _ => ?_
        rfl
      · rcases List.mem_append.mp mem with here | there
        · obtain ⟨d, found, same⟩ := List.mem_map.mp here
          exact not_manifest_of_compactable (compactable List.mem_cons_self) found same
        · exact apart there

variable (py s sessionIdHash) in
theorem observes_anchorDocument (docTypes : List SourceDocType) :
    ∃ anchor, Prog.Observes (StoreCall.exec py) s (anchorDocument sessionIdHash docTypes) (.ok anchor) := by
  induction docTypes with
  | nil => exact ⟨∅, rfl⟩
  | cons docType rest ih =>
      obtain ⟨anchor, observed⟩ := ih
      have reads : Prog.Observes (StoreCall.exec py) s (storeReader.findBySession sessionIdHash docType)
          (.ok (s.findBySession sessionIdHash (some docType))) := rfl
      cases found : s.findBySession sessionIdHash (some docType) with
      | nil =>
          rw [found] at reads
          refine ⟨anchor, reads.bind (g := fun _ => .ok anchor) fun docs same => ?_⟩
          cases same
          exact observed
      | cons d others =>
          rw [found] at reads
          refine ⟨d, reads.bind (g := fun _ => .ok d) fun docs same => ?_⟩
          cases same
          rfl

theorem get_delete_exec (docId other : String) :
    ((Op.delete docId).exec py s).2.get other = s.get other ∨
      other = docId ∧ ((Op.delete docId).exec py s).2.get other = none := by
  have effect : Effect py s (.delete docId) ((Op.delete docId).exec py s).2 := Op.exec_effect _ s
  generalize ((Op.delete docId).exec py s).2 = after at effect
  cases effect with
  | unchanged => exact .inl rfl
  | wrote writes => cases writes
  | removed found allowed =>
      rw [Store.get_remove]
      split
      · rename_i here
        exact .inr ⟨here, rfl⟩
      · exact .inl rfl

variable (py) in
/-- Deleting ids that are not the manifest's keeps the manifest. -/
theorem deleteAll_keeps (ids : List String) {before : Option Doc}
    (apart : retentionManifestDocId sessionIdHash ∈ ids → before = none)
    (start : retentionManifest s sessionIdHash = before) :
    Prog.Keeps (StoreCall.exec py) (fun s' => retentionManifest s' sessionIdHash = before) (fun _ _ => True)
      (deleteAll ids) s := by
  induction ids generalizing s with
  | nil => exact .done start trivial
  | cons docId rest ih =>
      have after : retentionManifest ((Op.delete docId).exec py s).2 sessionIdHash = before := by
        have cases_ : ((Op.delete docId).exec py s).2.get (retentionManifestDocId sessionIdHash) = _ ∨ _ :=
          get_delete_exec docId (retentionManifestDocId sessionIdHash)
        rcases cases_ with kept | ⟨here, gone⟩
        · rw [retentionManifest, kept]
          exact start
        · rw [retentionManifest, gone, apart (by simp [here])]
          rfl
      have deleted : Prog.Keeps (StoreCall.exec py) (fun s' => retentionManifest s' sessionIdHash = before)
          (fun _ _ => True) (performOp (.delete docId)) s :=
        Prog.Keeps.call (Prog.Keeps.observes (Prog.Observes.ofExcept _ _) after fun _ _ => trivial)
      exact deleted.bind fun _ s' kept _ => ih (fun mem => apart (List.mem_cons_of_mem _ mem)) kept

theorem buildRetentionManifestDocument_eq_ok {tier : RetentionTier} {coldArchiveRef : String} {anchor d : Doc}
    (built : buildRetentionManifestDocument py fmt sessionIdHash tier coldArchiveRef anchor = .ok d) :
    Identified .retentionManifest (retentionManifestDocId sessionIdHash) sessionIdHash d ∧
      entryText d "tier" = some tier.text ∧ entryText d "cold_archive_ref" = some coldArchiveRef := by
  unfold buildRetentionManifestDocument at built
  simp only [bind_eq_ok] at built
  obtain ⟨⟨⟩, -, ⟨⟩, -, ⟨⟩, -, base, based, finalized⟩ := built
  rw [← finalize_eq_ok finalized]
  refine ⟨(baseDocument_eq_ok based).congr fun f mem => ?_, ?_, ?_⟩
  · rw [get?_insert_other, get?_insert_other]
    simp only [List.mem_cons, List.not_mem_nil, or_false] at mem
    rcases mem with rfl | rfl | rfl <;> simp [Doc.get?_set]
  · simp [entryText, Dict.get?_insert]
  · simp [entryText]

theorem entryText_stamp (d : Doc) (docId rev hash name : String) :
    entryText (Store.stamp d docId rev hash) name = entryText d name := by
  simp [entryText, Store.stamp, Doc.update, Doc.set, Dict.get?_insert]

/-- Putting the manifest records its tier, or leaves the one there was. -/
theorem put_records {tier : RetentionTier} {coldArchiveRef : String} {anchor d : Doc}
    (built : buildRetentionManifestDocument py fmt sessionIdHash tier coldArchiveRef anchor = .ok d) (s : Store) :
    retentionManifest ((Op.put d).exec py s).2 sessionIdHash = retentionManifest s sessionIdHash ∨
      Records sessionIdHash tier coldArchiveRef ((Op.put d).exec py s).2 := by
  obtain ⟨identified, tiered, archived⟩ := buildRetentionManifestDocument_eq_ok built
  have found : ((Op.put d).exec py s).2.get (retentionManifestDocId sessionIdHash) = _ ∨ _ :=
    Op.exec_get_cases (d := d) rfl s _
  rcases found with kept | ⟨-, rev, hash, stored⟩
  · exact .inl (by rw [retentionManifest, kept]; rfl)
  · right
    have typed : docType? (Store.stamp d (d.text .id) rev hash) = some .retentionManifest := by
      rw [docType?_congr (Store.get?_stamp _ _ _ _ (by decide)), identified.docType?]
    have manifest : retentionManifest ((Op.put d).exec py s).2 sessionIdHash =
        some (Store.stamp d (d.text .id) rev hash) := by
      simp [retentionManifest, stored, typed]
    constructor
    · simp [recordedTier, manifest, entryText_stamp, tiered, RetentionTier.ofText?_text]
    · simp [recordedArchiveRef, manifest, entryText_stamp, archived]

end Step

/-! ## Applying a decision -/

section Applied

variable {py : Platform} {fmt : Formats} {s : Store} {decision : RetentionDecision}

/-- An active revision's pointer stands in the way of the decision. -/
def RetentionDecision.PinnedIn (decision : RetentionDecision) (s : Store) : Bool :=
  decision.compacts && (s.get (activeSourceRevisionPointerDocId decision.sessionIdHash)).isSome

theorem observes_pointerBlocks :
    Prog.Observes (StoreCall.exec py) s (pointerBlocks decision) (.ok (decision.PinnedIn s)) := by
  unfold pointerBlocks RetentionDecision.PinnedIn
  cases decision.compacts <;> rfl

variable (py s) in
theorem observes_compactableIds (sessionIdHash : String) (willCompact : Bool) :
    ∃ ids, Prog.Observes (StoreCall.exec py) s (compactableIds sessionIdHash willCompact) (.ok ids) ∧
      (retentionManifestDocId sessionIdHash ∈ ids → retentionManifest s sessionIdHash = none) := by
  cases willCompact with
  | true => exact observes_documentIds py _ fun _ mem => mem
  | false => exact ⟨[], rfl, by simp⟩

/-- The archive a tier records. -/
def RetentionDecision.archive (decision : RetentionDecision) (tier : RetentionTier) : String :=
  if tier = .coldArchiveRef then decision.coldArchiveRef else ""

variable (py fmt s decision) in
/-- However the call ends the manifest is the one there was, or records the tier that was
    decided. -/
theorem applyRetention_keeps : Prog.Keeps (StoreCall.exec py)
    (fun s' => retentionManifest s' decision.sessionIdHash = retentionManifest s decision.sessionIdHash ∨
      Records decision.sessionIdHash (decision.appliedTier (decision.PinnedIn s))
        (decision.archive (decision.appliedTier (decision.PinnedIn s))) s')
    (fun _ _ => True) (applyRetention py fmt decision false) s := by
  obtain ⟨ids, listed, apart⟩ := observes_compactableIds py s decision.sessionIdHash
    (decision.compacts && !decision.PinnedIn s)
  refine .observes_bind observes_pointerBlocks (.inl rfl) fun pinned same => ?_
  cases same
  refine .observes_bind listed (.inl rfl) fun found same => ?_
  cases same
  have deletes := deleteAll_keeps py ids apart rfl
  refine (deletes.weaken (fun _ kept => .inl kept) fun _ _ kept _ => kept).bind fun _ s' _ kept => ?_
  obtain ⟨anchor, anchored⟩ := observes_anchorDocument py s' decision.sessionIdHash
    [.transcriptSession, .coverageManifest, .projectionState]
  refine .observes_bind anchored (.inl kept) fun found _ => ?_
  refine .observes_bind (observes_ofExcept _) (.inl kept) fun manifest built => ?_
  have put : Prog.Keeps (StoreCall.exec py)
      (fun s'' => retentionManifest s'' decision.sessionIdHash = retentionManifest s' decision.sessionIdHash ∨
        Records decision.sessionIdHash (decision.appliedTier (decision.PinnedIn s))
          (decision.archive (decision.appliedTier (decision.PinnedIn s))) s'')
      (fun _ _ => True) (performOp (.put manifest)) s' :=
    keeps_performOp (put_records built s')
  refine (put.weaken ?_ fun _ _ _ _ => trivial).bind fun _ _ holds _ => .done holds trivial
  intro s'' recorded
  rcases recorded with same | records
  · exact .inl (same.trans kept)
  · exact .inr records

end Applied

/-! ## Runs -/

section Forward

variable {py : Platform} {fmt : Formats} {s : Store}

theorem planRetention_sessionIdHash (input : RetentionInput) (policy : RetentionPolicy) :
    (planRetention input policy).sessionIdHash = input.sessionIdHash := by
  simp only [planRetention]
  split <;> rfl

theorem planRetention_coldArchiveRef (input : RetentionInput) (policy : RetentionPolicy) :
    (planRetention input policy).coldArchiveRef = input.coldArchiveRef := by
  simp only [planRetention]
  split <;> rfl

/-- With the gates passed and no pointer, the age alone decides. -/
theorem appliedTier_of_passes {input : RetentionInput} (passes : input.Passes s) (policy : RetentionPolicy) :
    (planRetention input policy).appliedTier ((planRetention input policy).PinnedIn s) =
      desiredTier input.ageDays policy := by
  have unpinned : (planRetention input policy).PinnedIn s = false := by
    rw [RetentionDecision.PinnedIn, planRetention_sessionIdHash, passes.2]
    simp
  rw [unpinned, RetentionDecision.appliedTier, if_neg (by simp)]
  simp only [planRetention]
  split
  · rename_i hot
    exact hot.symm
  · simp [passes.1]

theorem desiredTier_compacted {ageDays : Int} {policy : RetentionPolicy} (old : policy.hotFullMaxAgeDays < ageDays) :
    RetentionTier.rank .hotManifestOnly ≤ (desiredTier ageDays policy).rank := by
  rw [desiredTier, if_neg (by omega)]
  split <;> decide

theorem desiredTier_cold {ageDays : Int} {policy : RetentionPolicy} (old : policy.hotFullMaxAgeDays < ageDays)
    (older : policy.hotManifestMaxAgeDays < ageDays) : desiredTier ageDays policy = .coldArchiveRef := by
  rw [desiredTier, if_neg (by omega), if_neg (by omega)]

theorem rank_hotFull_le (tier : RetentionTier) : RetentionTier.rank .hotFull ≤ tier.rank := by
  cases tier <;> decide

variable (py fmt) in
/-- What a call leaves recorded. -/
theorem RetentionCall.apply_records (call : RetentionCall) (s : Store) :
    retentionManifest (call.apply py fmt s) call.input.sessionIdHash =
        retentionManifest s call.input.sessionIdHash ∨
      Records call.input.sessionIdHash
        ((planRetention call.input call.policy).appliedTier ((planRetention call.input call.policy).PinnedIn s))
        ((planRetention call.input call.policy).archive
          ((planRetention call.input call.policy).appliedTier ((planRetention call.input call.policy).PinnedIn s)))
        (call.apply py fmt s) := by
  have applied := (applyRetention_keeps py fmt s (planRetention call.input call.policy)).1
  rw [planRetention_sessionIdHash] at applied
  exact applied

/-- A call that keeps the tier moves the session forward. -/
theorem RetentionCall.KeepsTier.forward {call : RetentionCall} (keeps : call.KeepsTier s) :
    MovesForward call.input.sessionIdHash s (call.apply py fmt s) := by
  rcases call.apply_records py fmt s with same | ⟨tiered, archived⟩
  · exact .of_same same
  unfold RetentionCall.KeepsTier at keeps
  cases recorded : recordedTier s call.input.sessionIdHash with
  | none => exact ⟨by simp [recorded], by simp [recorded]⟩
  | some tier =>
      rw [recorded] at keeps
      cases tier with
      | hotFull =>
          refine ⟨fun t same => ⟨_, tiered, ?_⟩, by simp [recorded]⟩
          rw [recorded] at same
          cases same
          exact rank_hotFull_le _
      | hotManifestOnly =>
          obtain ⟨passes, old⟩ := keeps
          refine ⟨fun t same => ⟨_, tiered, ?_⟩, by simp [recorded]⟩
          rw [recorded] at same
          cases same
          rw [appliedTier_of_passes passes]
          exact desiredTier_compacted old
      | coldArchiveRef =>
          obtain ⟨passes, old, older, same⟩ := keeps
          rw [appliedTier_of_passes passes, desiredTier_cold old older] at tiered archived
          refine ⟨fun t found => ⟨_, tiered, ?_⟩, fun _ named => ?_⟩
          · rw [recorded] at found
            cases found
            exact le_rfl
          · rw [archived, RetentionDecision.archive, if_pos rfl, planRetention_coldArchiveRef, same named]

theorem run_forward {sessionIdHash : String} {calls : List RetentionCall}
    (session : ∀ call ∈ calls, call.input.sessionIdHash = sessionIdHash)
    (keeps : Along (RetentionCall.apply py fmt) RetentionCall.KeepsTier s calls) :
    MovesForward sessionIdHash s (run (RetentionCall.apply py fmt) s calls) := by
  induction calls generalizing s with
  | nil => exact .refl s
  | cons call rest ih =>
      have first : MovesForward sessionIdHash s (RetentionCall.apply py fmt s call) := by
        rw [← session call List.mem_cons_self]
        exact keeps.1.forward
      exact first.trans (ih (fun other mem => session other (List.mem_cons_of_mem _ mem)) keeps.2)

/-- In every run of retention calls on one session none of which steps back from what is
    recorded when it is made, the recorded tier only moves forward and the archive reference
    of a cold session stays. -/
theorem retention_forward (py : Platform) (fmt : Formats) (start : Store) (sessionIdHash : String)
    (before after : List RetentionCall)
    (session : ∀ call ∈ before ++ after, call.input.sessionIdHash = sessionIdHash)
    (keeps : Along (RetentionCall.apply py fmt) RetentionCall.KeepsTier start (before ++ after)) :
    MovesForward sessionIdHash (run (RetentionCall.apply py fmt) start before)
      (run (RetentionCall.apply py fmt) start (before ++ after)) := by
  induction before generalizing start with
  | nil => exact run_forward session keeps
  | cons call rest ih =>
      exact ih _ (fun other mem => session other (List.mem_cons_of_mem _ mem)) keeps.2

end Forward

/-! ## Three calls -/

def retainedSession : String := "sha256:" ++ String.ofList (List.replicate 64 'a')

/-- Two months old, projected and archived. -/
def agedCall : RetentionCall where
  input := { sessionIdHash := retainedSession, ageDays := 60, projectionStatus := "projected", coldArchiveRef := "archive:1" }

/-- The same session after four months. -/
def oldCall : RetentionCall where
  input := { agedCall.input with ageDays := 120 }

/-- The same session taken for a young one. -/
def youngCall : RetentionCall where
  input := { sessionIdHash := retainedSession, ageDays := 5 }

/-- A store that holds the session's manifest, as a call on an empty store leaves it. -/
def manifestStore (tier : RetentionTier) (coldArchiveRef rev hash : String) : Store :=
  let fields := Doc.ofFields [
    (.id, .str (retentionManifestDocId retainedSession)),
    (.docType, .str "retention_manifest"),
    (.schemaVersion, .str couchdbSourceSchemaVersion),
    (.owner, .str couchdbSourceOwner),
    (.provider, .str ""),
    (.project, .str ""),
    (.sessionIdHash, .str retainedSession),
    (.sourceLocatorHash, .str ""),
    (.redactionVersion, .str redactionVersion)]
  let manifest := Dict.insert (Dict.insert fields (.other "tier") (.str tier.text)) (.other "cold_archive_ref")
    (.str coldArchiveRef)
  Store.empty.assign (Store.stamp manifest (retentionManifestDocId retainedSession) rev hash)

/-- The store `agedCall` leaves. -/
def compactedStore : Store := manifestStore .hotManifestOnly "" "1-ac4bfbda95b6"
  "sha256:ac4bfbda95b620378c1a61220f76b577277054afeec5918784f7c604e7451391"

/-- The store `oldCall` leaves. -/
def coldStore : Store := manifestStore .coldArchiveRef "archive:1" "1-2e00e3bac74d"
  "sha256:2e00e3bac74d5e8d1a4a427b262b26ebdd81cde064ab3a630666c4b4a75c08b0"

/-- A session that ages goes from the manifest tier to the archive. -/
theorem retention_forward_aging :
    recordedTier compactedStore retainedSession = some .hotManifestOnly ∧
    MovesForward retainedSession compactedStore
      (run (RetentionCall.apply countingPlatform plainFormats) compactedStore [oldCall]) := by
  have recorded : recordedTier compactedStore retainedSession = some .hotManifestOnly := by decide +kernel
  have keeps : oldCall.KeepsTier compactedStore := by
    unfold RetentionCall.KeepsTier
    rw [show oldCall.input.sessionIdHash = retainedSession from rfl, recorded]
    exact ⟨⟨by decide, by decide +kernel⟩, by decide⟩
  exact ⟨recorded, retention_forward _ _ _ _ [] [oldCall] (by simp [oldCall, agedCall]) ⟨keeps, trivial⟩⟩

/-- A later call for a younger age makes a cold session hot again and erases its archive. -/
theorem cold_session_reheated :
    recordedTier coldStore retainedSession = some .coldArchiveRef ∧
    recordedArchiveRef coldStore retainedSession = "archive:1" ∧
    recordedTier (youngCall.apply countingPlatform plainFormats coldStore) retainedSession = some .hotFull ∧
    recordedArchiveRef (youngCall.apply countingPlatform plainFormats coldStore) retainedSession = "" := by
  rw [countingPlatform_eq_forced]
  decide +kernel

end Neurons.Source
