import Neurons.Source.Bundler
import Neurons.Source.ReferencePlatform
import Neurons.Source.Validation

/-! # The two resolvers

`resolve_active_source_revision` looks documents up one by one; its sibling works
on the preloaded documents of the session. On every reachable store whose ids
start with their own type they return the same revision or both raise a
resolution error, except that both raise a plain `KeyError` on a manifest with an
entry that has no member id, and an `OverflowError` on sources with a time that
has no year in UTC.
-/

namespace Neurons.Source

open Neurons.Lib

variable {py : Platform}

/-! ## Reachable stores -/

/-- The stores that operations, activations and the storing of tool evidence lead to; each of them may raise. -/
inductive Store.Reachable (py : Platform) : Store → Prop
  | empty : Store.Reachable py .empty
  | operation {s : Store} (op : Op) : Store.Reachable py s → Store.Reachable py (op.exec py s).2
  | activation {s : Store} (sessionIdHash : String) (docIds : Option (List String)) (provenance : Json)
      (expected : Option ResolvedSourceRevision) : Store.Reachable py s →
      Store.Reachable py (runStore py (activateSourceRevision py sessionIdHash docIds provenance expected) s).2
  | toolEvidence {s : Store} (fmt : Formats) (records : List ToolEvidenceSummaryRecord) (maxChars : Int)
      (fullSessionGeneration : Bool) (sessionIdHash : String) (expected : Option ResolvedSourceRevision) :
      Store.Reachable py s → Store.Reachable py (runStore py
        (storeToolEvidenceBundles py fmt records maxChars fullSessionGeneration sessionIdHash expected) s).2

/-- What every operation keeps holds of every reachable store. -/
theorem Store.Reachable.invariant {inv : Store → Prop} (start : inv .empty)
    (keeps : ∀ s (op : Op), inv s → inv (op.exec py s).2) {s : Store} (reachable : s.Reachable py) : inv s := by
  have calls {β : Type} (c : StoreCall β) (s : Store) (holds : inv s) : inv (c.exec py s).2 := by
    cases c with
    | get | findBySession => exact holds
    | write op => exact keeps s op holds
  induction reachable with
  | empty => exact start
  | operation op _ ih => exact keeps _ op ih
  | activation | toolEvidence =>
      rename_i ih
      exact Prog.run_keeps calls _ ih

theorem Store.Reachable.run {s : Store} (reachable : s.Reachable py) (ops : List Op) : (s.run py ops).Reachable py := by
  induction ops generalizing s with
  | nil => exact reachable
  | cons op rest ih => exact ih (reachable.operation op)

theorem Store.Reachable.validated {s : Store} (reachable : s.Reachable py) {docId : String} {d : Doc}
    (stored : s.get docId = some d) : Validated py docId d := by
  let inv (s : Store) : Prop := ∀ docId d, s.get docId = some d → Validated py docId d
  have keeps (s : Store) (op : Op) (every : inv s) : inv (op.exec py s).2 := by
    intro docId d stored
    cases (op.exec_effect s).stored_validated stored with
    | inl before => exact every docId d before
    | inr validated => exact validated
  have start : inv Store.empty := by
    intro docId d stored
    cases stored
  exact reachable.invariant start keeps docId d stored

/-- A stored pointer names the session it is stored for. -/
theorem Validated.pointer {docId : String} {d : Doc} (validated : Validated py docId d)
    (typed : docType? d = some .activeSourceRevision) :
    hashLike (d.text .sessionIdHash) ∧
      docId = activeSourceRevisionPointerDocId (d.text .sessionIdHash) := by
  obtain ⟨written, valid, rfl, same⟩ := validated
  rw [docType?_congr (same .docType (by decide))] at typed
  rw [Doc.text_congr (same .sessionIdHash (by decide))]
  unfold validateForWrite at valid
  simp only [typed, bind_eq_ok, if_true, validateActivePointer, rescue_eq_ok,
    assertHashLike_eq_ok, refuseIf_eq_ok, not_not, reduceCtorEq, if_false, pure_eq_ok,
    Option.some.injEq] at valid
  obtain ⟨⟨⟩, -, ⟨⟩, -, ⟨⟩, ⟨⟨⟩, like, docId⟩, -⟩ := valid
  exact ⟨like, docId⟩

theorem OwnPrefix.nonempty {t : SourceDocType} {docId : String} (own : OwnPrefix t docId) :
    docId ≠ "" := by
  rintro rfl
  cases t <;> exact absurd own (by decide)

theorem OwnPrefixed.identified {d : Doc} (own : OwnPrefixed d) : d.text .id ≠ "" := by
  obtain ⟨t, -, own⟩ := own
  exact own.nonempty

/-! ## What the resolvers raise -/

section Raises

variable {α β : Type} {classes caught : List ErrorClass} {x : Except PyError α}

/-- Whatever `x` raises belongs to one of the classes. -/
def RaisesOnly (classes : List ErrorClass) (x : Except PyError α) : Prop :=
  ∀ e, x = .error e → classes.any e.isA

theorem raisesOnly_ok (a : α) : RaisesOnly classes (.ok a) := by
  intro e raised
  cases raised

theorem raisesOnly_error {e : PyError} (isA : classes.any e.isA) :
    RaisesOnly classes (.error e : Except PyError α) := by
  intro e' raised
  cases raised
  exact isA

theorem raisesOnly_refuseIf {condition : Prop} [Decidable condition] {e : PyError}
    (isA : classes.any e.isA) : RaisesOnly classes (refuseIf condition e) := by
  unfold refuseIf
  split
  · exact raisesOnly_error isA
  · exact raisesOnly_ok ()

theorem RaisesOnly.bind {f : α → Except PyError β} (first : RaisesOnly classes x)
    (rest : ∀ a, x = .ok a → RaisesOnly classes (f a)) : RaisesOnly classes (x >>= f) := by
  cases x with
  | ok a => exact rest a rfl
  | error e => exact raisesOnly_error (first e rfl)

theorem RaisesOnly.rescue {replacement : PyError} (first : RaisesOnly caught x)
    (isA : classes.any replacement.isA) : RaisesOnly classes (rescue x caught replacement) := by
  cases x with
  | ok a => exact raisesOnly_ok a
  | error e =>
      rw [Source.rescue, if_pos (first e rfl)]
      exact raisesOnly_error isA

theorem raisesOnly_mapM {f : α → Except PyError β} {l : List α}
    (every : ∀ a ∈ l, RaisesOnly classes (f a)) : RaisesOnly classes (l.mapM f) := by
  induction l with
  | nil => exact raisesOnly_ok []
  | cons a rest ih =>
      rw [List.mapM_cons]
      refine (every a (by simp)).bind fun b _ => ?_
      exact (ih fun a mem => every a (by simp [mem])).bind fun bs _ => raisesOnly_ok _

theorem raisesOnly_forM {f : α → Except PyError Unit} {l : List α}
    (every : ∀ a ∈ l, RaisesOnly classes (f a)) : RaisesOnly classes (l.forM f) := by
  induction l with
  | nil => exact raisesOnly_ok ()
  | cons a rest ih =>
      refine (every a (by simp)).bind fun b _ => ?_
      exact ih fun a mem => every a (by simp [mem])

end Raises

/-- The class both resolvers report corrupt control planes with. -/
def onlyResolution : List ErrorClass := [.sourceRevisionResolutionError]

section ResolverRaises

variable {sessionIdHash : String}

theorem assertHashLike_raises (field value : String) :
    RaisesOnly [.typeError, .valueError] (assertHashLike field value) :=
  (raisesOnly_refuseIf rfl).bind fun _ _ => raisesOnly_refuseIf rfl

theorem assertHashLike_refused (field : String) {value : String} (unlike : ¬ hashLike value) :
    ∃ message, assertHashLike field value = .error (.valueError message) := by
  unfold assertHashLike
  by_cases blank : value = ""
  · exact ⟨field ++ " is required", by simp [blank, refuseIf]⟩
  · exact ⟨field ++ " must be a 'sha256:<hex>' hash, never a raw value",
      by simp [blank, unlike, refuseIf]⟩

theorem requireHash_raises (candidate : String) :
    RaisesOnly onlyResolution (requireHash candidate) := by
  refine RaisesOnly.bind (RaisesOnly.rescue ?_ rfl) fun _ _ => raisesOnly_ok _
  exact (raisesOnly_refuseIf rfl).bind fun _ _ => raisesOnly_refuseIf rfl

theorem materialIdentity_raises (d : Doc) :
    RaisesOnly [.typeError, .valueError] (materialIdentity py d) := by
  unfold materialIdentity
  split
  · exact (assertHashLike_raises _ _).bind fun _ _ => raisesOnly_ok _
  · exact raisesOnly_ok _

variable (py) in
/-- A time of the documents that `observed_time_bounds` reads has no year in UTC. -/
def TimesOverflow (documents : List Doc) : Prop :=
  let timed := documents.filter (fun d => docType? d = some .transcriptSession) ++
    documents.filter (fun d => docType? d = some .conversationChunk)
  Overflows py (observedStarts timed) ∨ Overflows py (observedEnds timed)

theorem chronologicalBound_raises {values : List String} {latest : Bool} (inside : ¬ Overflows py values) :
    RaisesOnly classes (chronologicalBound py values latest) := by
  rw [chronologicalBound_eq_ok.mpr ⟨inside, rfl⟩]
  exact raisesOnly_ok _

theorem resolvedSourceHash_overflow {documents : List Doc} (overflows : TimesOverflow py documents) :
    resolvedSourceHash py documents = .error (.overflowError "date value out of range") := by
  have raised {values : List String} {latest : Bool} (overflows : Overflows py values) :
      chronologicalBound py values latest = .error (.overflowError "date value out of range") := by
    simp [chronologicalBound, refuseIf, overflows]
  unfold TimesOverflow at overflows
  generalize timed : documents.filter (fun d => docType? d = some .transcriptSession) ++
    documents.filter (fun d => docType? d = some .conversationChunk) = docs at overflows
  have bounds : observedTimeBounds py docs = .error (.overflowError "date value out of range") := by
    unfold observedTimeBounds
    by_cases first : Overflows py (observedStarts docs)
    · rw [raised first, error_bind]
    · rw [chronologicalBound_eq_ok.mpr ⟨first, rfl⟩, ok_bind, raised (overflows.resolve_left first), error_bind]
  rw [resolvedSourceHash, sourceHash, timed, bounds, error_bind]
  rfl

theorem resolvedSourceHash_raises {documents : List Doc} (inside : ¬ TimesOverflow py documents) :
    RaisesOnly onlyResolution (resolvedSourceHash py documents) := by
  rw [TimesOverflow, not_or] at inside
  have fingerprints (l : List Doc) :
      RaisesOnly [.typeError, .valueError] (l.mapM (fingerprint py)) :=
    raisesOnly_mapM fun d _ => (materialIdentity_raises d).bind fun _ _ => raisesOnly_ok _
  refine RaisesOnly.rescue ?_ rfl
  refine RaisesOnly.bind ?_ fun _ _ => (fingerprints _).bind fun _ _ => (fingerprints _).bind fun _ _ => raisesOnly_ok _
  exact (chronologicalBound_raises inside.1).bind fun _ _ =>
    (chronologicalBound_raises inside.2).bind fun _ _ => raisesOnly_ok _

theorem sourceMemberDescriptor_raises (d : Doc) :
    RaisesOnly onlyResolution (sourceMemberDescriptor py sessionIdHash d) := by
  refine (raisesOnly_refuseIf rfl).bind fun _ _ => (raisesOnly_refuseIf rfl).bind fun _ _ => ?_
  exact ((materialIdentity_raises d).rescue rfl).bind fun _ _ => raisesOnly_ok _

theorem parsePointer_raises (pointer : Doc) :
    RaisesOnly onlyResolution (parsePointer sessionIdHash pointer) := by
  refine (raisesOnly_refuseIf rfl).bind fun _ _ => (requireHash_raises _).bind fun _ _ => ?_
  refine (raisesOnly_refuseIf rfl).bind fun _ _ => (requireHash_raises _).bind fun _ _ => ?_
  exact (requireHash_raises _).bind fun _ _ => raisesOnly_ok _

theorem validateProvenance_raises (provenance : Json) :
    RaisesOnly onlyResolution (validateProvenance provenance true) := by
  refine RaisesOnly.rescue ?_ rfl
  split
  · exact raisesOnly_ok _
  · refine (raisesOnly_refuseIf rfl).bind fun _ _ => (raisesOnly_forM ?_).bind fun _ _ =>
      raisesOnly_ok _
    intro entry _
    unfold validateProvenanceEntry
    split
    · split
      · exact assertHashLike_raises _ _
      · exact raisesOnly_refuseIf rfl
    · exact raisesOnly_error rfl
  · exact raisesOnly_error rfl

theorem validateMemberRecord_raises (sourceRevision : String) (membership : Doc)
    (member : Option Doc) :
    RaisesOnly onlyResolution
      (validateMemberRecord py sessionIdHash sourceRevision membership member) := by
  refine (raisesOnly_refuseIf rfl).bind fun _ _ => (raisesOnly_refuseIf rfl).bind fun _ _ => ?_
  refine (requireHash_raises _).bind fun _ _ => ?_
  cases member with
  | none => exact raisesOnly_error rfl
  | some member =>
      refine (requireHash_raises _).bind fun _ _ => (requireHash_raises _).bind fun _ _ => ?_
      exact (requireHash_raises _).bind fun _ _ => (raisesOnly_refuseIf rfl).bind fun _ _ =>
        raisesOnly_ok _

theorem validateMemberAndSource_raises (get : String → Option Doc) (sourceRevision : String)
    (membership : Doc) :
    RaisesOnly onlyResolution (validateMemberAndSource py (m := Except PyError)
      (fun docId => .ok (get docId)) sessionIdHash sourceRevision membership) := by
  unfold validateMemberAndSource
  simp only [ok_bind, ofExcept_except, throw_except]
  refine (validateMemberRecord_raises _ _ _).bind fun fields _ => ?_
  split
  · exact raisesOnly_error rfl
  · refine RaisesOnly.bind ?_ fun _ _ => raisesOnly_ok _
    exact (sourceMemberDescriptor_raises _).bind fun _ _ => raisesOnly_refuseIf rfl

theorem parseMembers_raises (manifest : Doc) : RaisesOnly onlyResolution (parseMembers manifest) := by
  unfold parseMembers
  split
  · split
    · exact raisesOnly_ok _
    · exact raisesOnly_error rfl
  · exact raisesOnly_error rfl

/-- The manifest is well formed up to its entries, and one of them has no member id. -/
structure LacksMemberId (sessionIdHash : String) (parsed : ParsedPointer) (manifest : Doc) :
    Prop where
  docType : docType? manifest = some .sourceRevisionManifest
  docId : manifest.text .id = sourceRevisionManifestDocId sessionIdHash parsed.activeRevision
  session : manifest.text .sessionIdHash = sessionIdHash
  revision : manifest.text .sourceRevision = parsed.activeRevision
  hash : manifest.text .sourceHash = parsed.sourceHash
  entries : ∃ members, parseMembers manifest = .ok members ∧ ∃ m ∈ members, m.has .memberId = false
  provenance : ∃ provenance,
    validateProvenance ((manifest.get? .provenance).getD (.obj [])) true = .ok provenance

theorem parseManifest_raises {parsed : ParsedPointer} {manifest : Doc}
    (complete : ¬ LacksMemberId sessionIdHash parsed manifest) :
    RaisesOnly onlyResolution (parseManifest py sessionIdHash parsed.activeRevision
      parsed.manifestHash parsed.sourceHash manifest) := by
  refine (raisesOnly_refuseIf rfl).bind fun _ header => ?_
  refine (parseMembers_raises manifest).bind fun members parsing => ?_
  refine (validateProvenance_raises _).bind fun provenance valid => ?_
  refine RaisesOnly.bind ?_ fun _ _ => (raisesOnly_refuseIf rfl).bind fun _ _ =>
    (raisesOnly_refuseIf rfl).bind fun _ _ => raisesOnly_ok _
  -- the header, the entries and the provenance are fine, so every entry has its id
  have identified : members.any (fun m => !m.has .memberId) = false := by
    rw [List.any_eq_false]
    intro m mem missing
    simp only [refuseIf_eq_ok, not_or, not_not] at header
    obtain ⟨docType, docId, session, revision, hash⟩ := header
    exact complete ⟨docType, docId, session, revision, hash,
      ⟨members, parsing, m, mem, by simpa using missing⟩, ⟨provenance, valid⟩⟩
  rw [manifestHash, identified]
  exact raisesOnly_ok _

theorem parseManifest_lacking {parsed : ParsedPointer} {manifest : Doc}
    (lacks : LacksMemberId sessionIdHash parsed manifest) :
    parseManifest py sessionIdHash parsed.activeRevision parsed.manifestHash parsed.sourceHash
      manifest = .error (.keyError "'member_id'") := by
  obtain ⟨members, parsing, m, mem, missing⟩ := lacks.entries
  obtain ⟨provenance, valid⟩ := lacks.provenance
  have some : members.any (fun m => !m.has .memberId) = true :=
    List.any_eq_true.mpr ⟨m, mem, by simp [missing]⟩
  have unhashed : manifestHash py sessionIdHash parsed.activeRevision parsed.sourceHash members
      provenance = .error (.keyError "'member_id'") := by
    rw [manifestHash, some]
    rfl
  simp [parseManifest, lacks.docType, lacks.docId, lacks.session, lacks.revision, lacks.hash,
    parsing, valid, unhashed, refuseIf]

/-- The pointer leads to a manifest with an entry that has no member id. -/
def PointsToLacking (get : String → Option Doc) (sessionIdHash : String) (pointer : Doc) : Prop :=
  ∃ parsed manifest, parsePointer sessionIdHash pointer = .ok parsed ∧
    get parsed.manifestId = some manifest ∧ LacksMemberId sessionIdHash parsed manifest

variable (py) in
/-- The pointer leads to a manifest whose members check out, and a time of their sources has no year in UTC. -/
def PointsToOverflow (get : String → Option Doc) (sessionIdHash : String) (pointer : Doc) : Prop :=
  ∃ parsed documents, parsePointer sessionIdHash pointer = .ok parsed ∧
    SelectsAll py get sessionIdHash parsed documents ∧ TimesOverflow py documents

theorem resolvePinned_raises {get : String → Option Doc} {pointer : Doc}
    (complete : ¬ PointsToLacking get sessionIdHash pointer)
    (inside : ¬ PointsToOverflow py get sessionIdHash pointer) :
    RaisesOnly onlyResolution (resolvePinned py (m := Except PyError)
      (fun docId => .ok (get docId)) sessionIdHash pointer) := by
  unfold resolvePinned
  simp only [ok_bind, ofExcept_except, throw_except]
  refine (parsePointer_raises _).bind fun parsed parsing => ?_
  cases manifestAt : get parsed.manifestId with
  | none => exact raisesOnly_error rfl
  | some manifest =>
      refine (parseManifest_raises fun lacks =>
        complete ⟨parsed, manifest, parsing, manifestAt, lacks⟩).bind fun members membership => ?_
      refine (raisesOnly_mapM fun m _ => validateMemberAndSource_raises _ _ _).bind fun documents selected => ?_
      have selects : SelectsAll py get sessionIdHash parsed documents := ⟨manifest, members, manifestAt, membership,
        (mapM_eq_ok_iff.mp selected).imp fun _ _ => validateMemberAndSource_eq_ok.mp⟩
      refine (resolvedSourceHash_raises fun overflows => inside ⟨parsed, documents, parsing, selects, overflows⟩).bind
        fun _ _ => ?_
      split
      · exact raisesOnly_error rfl
      · exact raisesOnly_ok _

theorem resolvePinned_lacking {get : String → Option Doc} {pointer : Doc}
    (lacking : PointsToLacking get sessionIdHash pointer) :
    resolvePinned py (m := Except PyError) (fun docId => .ok (get docId)) sessionIdHash pointer =
      .error (.keyError "'member_id'") := by
  obtain ⟨parsed, manifest, parsing, manifestAt, lacks⟩ := lacking
  simp [resolvePinned, parsing, manifestAt, parseManifest_lacking lacks]

theorem resolvePinned_overflow {get : String → Option Doc} {pointer : Doc}
    (overflows : PointsToOverflow py get sessionIdHash pointer) :
    resolvePinned py (m := Except PyError) (fun docId => .ok (get docId)) sessionIdHash pointer =
      .error (.overflowError "date value out of range") := by
  obtain ⟨parsed, documents, parsing, ⟨manifest, members, manifestAt, membership, selected⟩, overflows⟩ := overflows
  have checked := mapM_eq_ok_iff.mpr (selected.imp fun _ _ => validateMemberAndSource_eq_ok.mpr)
  simp [resolvePinned, parsing, manifestAt, membership, checked, resolvedSourceHash_overflow overflows]

theorem resolveLegacy_raises {documents : List Doc} (inside : ¬ TimesOverflow py documents) :
    RaisesOnly onlyResolution (resolveLegacy py sessionIdHash documents) :=
  (resolvedSourceHash_raises inside).bind fun _ _ => raisesOnly_ok _

theorem resolveLegacy_overflow {documents : List Doc} (overflows : TimesOverflow py documents) :
    resolveLegacy py sessionIdHash documents = .error (.overflowError "date value out of range") := by
  rw [resolveLegacy, resolvedSourceHash_overflow overflows, error_bind]

end ResolverRaises

/-! ## Looking up in the preloaded documents -/

section Snapshot

variable {s : Store} {sessionIdHash : String}

/-- What preloading a session keeps of the store. -/
def Preloaded (sessionIdHash : String) (d : Doc) : Prop :=
  d.get? .sessionIdHash = some (.str sessionIdHash) ∧ docType? d ≠ some .repoUsagePattern

theorem Store.map_id_values (s : Store) :
    s.docs.values.map (·.text .id) = s.docs.entries.map Prod.fst := by
  rw [Table.values, List.map_map]
  apply List.map_congr_left
  rintro ⟨docId, d⟩ mem
  exact s.keyed docId d (Table.mem_entries_iff.mp mem)

theorem Store.ids_findBySession (s : Store) (sessionIdHash : String)
    (requested : Option SourceDocType) :
    ((s.findBySession sessionIdHash requested).map (·.text .id)).Nodup := by
  have perm := (sortOn_perm Store.idText (s.docs.values.filter (fun d => decide
    (d.get? .sessionIdHash = some (.str sessionIdHash) ∧ ofRequestedType requested d)))).map
      (fun d : Doc => d.text .id)
  refine perm.nodup_iff.mpr (List.Nodup.sublist (List.filter_sublist.map _) ?_)
  rw [s.map_id_values]
  exact s.docs.nodup

theorem Store.mem_findBySession {requested : Option SourceDocType} {d : Doc} :
    d ∈ s.findBySession sessionIdHash requested ↔ s.get (d.text .id) = some d ∧
      d.get? .sessionIdHash = some (.str sessionIdHash) ∧ ofRequestedType requested d := by
  have stored : d ∈ s.docs.values ↔ s.get (d.text .id) = some d := by
    rw [Table.mem_values_iff]
    constructor
    · rintro ⟨docId, found⟩
      rw [s.keyed docId d found]
      exact found
    · exact fun found => ⟨_, found⟩
  simp [Store.findBySession, stored]

theorem Store.mem_preloaded {d : Doc} : d ∈ s.findBySession sessionIdHash none ↔
    s.get (d.text .id) = some d ∧ Preloaded sessionIdHash d := by
  simp [Store.mem_findBySession, ofRequestedType, Preloaded]

/-- Distinct ids make the document map what it looks like. -/
theorem snapshotDocumentMap_distinct {documents : List Doc}
    (distinct : (documents.map (·.text .id)).Nodup)
    (identified : ∀ d ∈ documents, d.text .id ≠ "") :
    snapshotDocumentMap documents = .ok (documents.map fun d => (d.text .id, d)) := by
  have general (acc : List (String × Doc)) (documents : List Doc)
      (distinct : (acc.map Prod.fst ++ documents.map (·.text .id)).Nodup)
      (identified : ∀ d ∈ documents, d.text .id ≠ "") :
      documents.foldlM addSnapshotDocument acc =
        .ok (acc ++ documents.map fun d => (d.text .id, d)) := by
    induction documents generalizing acc with
    | nil => simp
    | cons d rest ih =>
        have absent : lookup (d.text .id) acc = none := by
          rw [lookup_eq_none_iff]
          intro v mem
          have early : d.text .id ∈ acc.map Prod.fst := List.mem_map.mpr ⟨_, mem, rfl⟩
          exact (List.nodup_append.mp distinct).2.2 _ early _ (by simp) rfl
        have added : addSnapshotDocument acc d = .ok (acc ++ [(d.text .id, d)]) := by
          simp [addSnapshotDocument, identified d (by simp), absent, refuseIf]
        rw [List.foldlM_cons, added, ok_bind, ih]
        · simp
        · simpa using distinct
        · intro e mem
          exact identified e (by simp [mem])
  simpa [snapshotDocumentMap] using general [] documents (by simpa using distinct) identified

theorem lookup_preloaded (docId : String) (d : Doc) :
    lookup docId ((s.findBySession sessionIdHash none).map fun d => (d.text .id, d)) = some d ↔
      s.get docId = some d ∧ Preloaded sessionIdHash d := by
  have distinct := s.ids_findBySession sessionIdHash none
  constructor
  · intro found
    obtain ⟨e, mem, same⟩ := List.mem_map.mp (mem_of_lookup found)
    cases same
    exact Store.mem_preloaded.mp mem
  · rintro ⟨found, preloaded⟩
    have sameId := Store.get_keyed found
    apply lookup_of_mem
    · rw [List.map_map]
      exact distinct
    · rw [← sameId] at found ⊢
      exact List.mem_map.mpr ⟨d, Store.mem_preloaded.mpr ⟨found, preloaded⟩, rfl⟩

end Snapshot

/-! ## Agreement -/

section Agreement

variable {s : Store} {sessionIdHash : String}

/-- Every document a pinned resolution selects is one preloading keeps. -/
theorem selectsAll_preloaded_iff {get get' : String → Option Doc} (like : hashLike sessionIdHash)
    (filtered : ∀ docId d, get' docId = some d ↔ get docId = some d ∧ Preloaded sessionIdHash d)
    {parsed : ParsedPointer} {documents : List Doc} :
    SelectsAll py get' sessionIdHash parsed documents ↔ SelectsAll py get sessionIdHash parsed documents := by
  have preloaded {d : Doc} {t : SourceDocType} (typed : docType? d = some t)
      (session : d.text .sessionIdHash = sessionIdHash) (other : t ≠ .repoUsagePattern) :
      Preloaded sessionIdHash d :=
    ⟨(text_eq_hash_iff like).mp session, by simpa [typed] using other⟩
  have selects (entry source : Doc) :
      SelectsSource py get' sessionIdHash parsed.activeRevision entry source ↔
        SelectsSource py get sessionIdHash parsed.activeRevision entry source := by
    constructor
    · rintro ⟨member, fields, memberAt, record, sourceAt, valid⟩
      exact ⟨member, fields, ((filtered _ _).mp memberAt).1, record, ((filtered _ _).mp sourceAt).1,
        valid⟩
    · rintro ⟨member, fields, memberAt, record, sourceAt, valid⟩
      obtain ⟨memberType, memberSession, -⟩ := validateMemberRecord_eq_ok record
      have describes := sourceMemberDescriptor_eq_ok (validateSource_eq_ok valid)
      refine ⟨member, fields, (filtered _ _).mpr ⟨memberAt, preloaded memberType memberSession
        (by decide)⟩, record, (filtered _ _).mpr ⟨sourceAt, ?_⟩, valid⟩
      have member := describes.member
      unfold isSourceMember at member
      cases typed : docType? source with
      | none => simp [typed] at member
      | some t =>
          refine preloaded typed describes.session ?_
          rintro rfl
          simp [typed, isSourceMemberType] at member
  constructor
  · rintro ⟨manifest, members, manifestAt, parsing, selected⟩
    exact ⟨manifest, members, ((filtered _ _).mp manifestAt).1, parsing,
      selected.imp fun _ _ => (selects _ _).mp⟩
  · rintro ⟨manifest, members, manifestAt, parsing, selected⟩
    obtain ⟨typed, session⟩ := parseManifest_eq_ok parsing
    exact ⟨manifest, members, (filtered _ _).mpr ⟨manifestAt, preloaded typed session (by decide)⟩,
      parsing, selected.imp fun _ _ => (selects _ _).mpr⟩

theorem supports_preloaded_iff {get get' : String → Option Doc} (like : hashLike sessionIdHash)
    (filtered : ∀ docId d, get' docId = some d ↔ get docId = some d ∧ Preloaded sessionIdHash d)
    {parsed : ParsedPointer} {documents : List Doc} :
    Supports py get' sessionIdHash parsed documents ↔ Supports py get sessionIdHash parsed documents :=
  ⟨fun ⟨manifest, hash⟩ => ⟨(selectsAll_preloaded_iff like filtered).mp manifest, hash⟩,
    fun ⟨manifest, hash⟩ => ⟨(selectsAll_preloaded_iff like filtered).mpr manifest, hash⟩⟩

/-- Both return the same revision, or both raise a resolution error. -/
def Agree (a b : Except PyError ResolvedSourceRevision) : Prop :=
  (∃ r, a = .ok r ∧ b = .ok r) ∨
    ∃ e e', a = .error e ∧ b = .error e' ∧ e.isA .sourceRevisionResolutionError ∧
      e'.isA .sourceRevisionResolutionError

theorem agree_of_raises {a b : Except PyError ResolvedSourceRevision}
    (same : ∀ r, a = .ok r ↔ b = .ok r) (raisesA : RaisesOnly onlyResolution a)
    (raisesB : RaisesOnly onlyResolution b) : Agree a b := by
  cases a with
  | ok r => exact .inl ⟨r, rfl, (same r).mp rfl⟩
  | error e =>
      cases b with
      | ok r => exact absurd ((same r).mpr rfl) (by simp)
      | error e' =>
          have resolution {e : PyError} (isA : onlyResolution.any e.isA) :
              e.isA .sourceRevisionResolutionError := by
            simpa [onlyResolution] using isA
          exact .inr ⟨e, e', rfl, rfl, resolution (raisesA e rfl), resolution (raisesB e' rfl)⟩

theorem not_agree_of_raised {a b : Except PyError ResolvedSourceRevision} {e : PyError} (raised : a = .error e)
    (other : e.isA .sourceRevisionResolutionError = false) : ¬ Agree a b := by
  subst raised
  rintro (⟨r, returned, -⟩ | ⟨e', e'', same, -, isA, -⟩)
  · cases returned
  · cases same
    rw [other] at isA
    cases isA

theorem resolvePinned_agree {get get' : String → Option Doc} (like : hashLike sessionIdHash)
    (filtered : ∀ docId d, get' docId = some d ↔ get docId = some d ∧ Preloaded sessionIdHash d)
    (pointer : Doc) :
    Agree (resolvePinned py (m := Except PyError) (fun docId => .ok (get docId)) sessionIdHash pointer)
        (resolvePinned py (m := Except PyError) (fun docId => .ok (get' docId)) sessionIdHash
          pointer) ↔
      ¬ PointsToLacking get sessionIdHash pointer ∧ ¬ PointsToOverflow py get sessionIdHash pointer := by
  constructor
  · intro agree
    exact ⟨fun lacking => not_agree_of_raised (resolvePinned_lacking lacking) rfl agree,
      fun overflows => not_agree_of_raised (resolvePinned_overflow overflows) rfl agree⟩
  · rintro ⟨complete, inside⟩
    refine agree_of_raises ?_ (resolvePinned_raises complete inside) (resolvePinned_raises ?_ ?_)
    · intro r
      simp only [resolvePinned_eq_ok, supports_preloaded_iff like filtered]
    · rintro ⟨parsed, manifest, parsing, manifestAt, lacks⟩
      exact complete ⟨parsed, manifest, parsing, ((filtered _ _).mp manifestAt).1, lacks⟩
    · rintro ⟨parsed, documents, parsing, selects, overflows⟩
      exact inside ⟨parsed, documents, parsing, (selectsAll_preloaded_iff like filtered).mp selects, overflows⟩

theorem resolveLegacy_agree (documents : List Doc) :
    Agree (resolveLegacy py sessionIdHash documents) (resolveLegacy py sessionIdHash documents) ↔
      ¬ TimesOverflow py documents := by
  constructor
  · exact fun agree overflows => not_agree_of_raised (resolveLegacy_overflow overflows) rfl agree
  · exact fun inside => agree_of_raises (fun _ => Iff.rfl) (resolveLegacy_raises inside) (resolveLegacy_raises inside)

theorem Store.nodup_findBySession (s : Store) (sessionIdHash : String)
    (requested : Option SourceDocType) : (s.findBySession sessionIdHash requested).Nodup :=
  (s.ids_findBySession sessionIdHash requested).of_map _

/-- The legacy set does not depend on how the session's documents were listed. -/
theorem legacyDocuments_preloaded (s : Store) (sessionIdHash : String) :
    legacyDocuments (s.findBySession sessionIdHash (some .transcriptSession) ++
        s.findBySession sessionIdHash (some .conversationChunk) ++
        s.findBySession sessionIdHash (some .toolEvidenceBundle)) =
      snapshotLegacyDocuments sessionIdHash (s.findBySession sessionIdHash none) := by
  have typed {d : Doc} {t : SourceDocType} (mem : d ∈ s.findBySession sessionIdHash (some t)) :
      docType? d = some t := by
    simpa [Store.ofRequestedType] using (Store.mem_findBySession.mp mem).2.2
  have apart {t u : SourceDocType} (differ : t ≠ u) :
      List.Disjoint (s.findBySession sessionIdHash (some t))
        (s.findBySession sessionIdHash (some u)) := by
    intro d memT memU
    exact differ (Option.some.inj ((typed memT).symm.trans (typed memU)))
  have listed : (s.findBySession sessionIdHash (some .transcriptSession) ++
      s.findBySession sessionIdHash (some .conversationChunk) ++
      s.findBySession sessionIdHash (some .toolEvidenceBundle)).Perm
      ((s.findBySession sessionIdHash none).filter (fun d => decide
        (d.text .sessionIdHash = sessionIdHash ∧ isSourceMember d))) := by
    rw [List.perm_ext_iff_of_nodup]
    · intro d
      simp only [List.mem_append, List.mem_filter, Store.mem_findBySession, Store.ofRequestedType,
        decide_eq_true_eq]
      constructor
      · rintro ((⟨stored, session, member⟩ | ⟨stored, session, member⟩) |
          ⟨stored, session, member⟩) <;>
          exact ⟨⟨stored, session, by simp [member]⟩, Doc.text_of_str session,
            by simp [isSourceMember, member, isSourceMemberType]⟩
      · rintro ⟨⟨stored, session, -⟩, -, member⟩
        unfold isSourceMember at member
        cases found : docType? d with
        | none => simp [found] at member
        | some t => cases t <;> simp_all [isSourceMemberType]
    · refine List.nodup_append'.mpr ⟨List.nodup_append'.mpr ⟨s.nodup_findBySession _ _,
        s.nodup_findBySession _ _, apart (by decide)⟩, s.nodup_findBySession _ _, ?_⟩
      rw [List.disjoint_append_left]
      exact ⟨apart (by decide), apart (by decide)⟩
    · exact (s.nodup_findBySession _ _).filter _
  refine sortOn_eq_of_perm _ (listed.filter _) ?_
  intro a memA b memB same
  have stored {d : Doc} (mem : d ∈ (s.findBySession sessionIdHash (some .transcriptSession) ++
      s.findBySession sessionIdHash (some .conversationChunk) ++
      s.findBySession sessionIdHash (some .toolEvidenceBundle)).filter
        (fun d => !isImmutableSourceCopy d)) : s.get (d.text .id) = some d := by
    have kept := (listed.mem_iff.mp (List.mem_of_mem_filter mem))
    exact (Store.mem_preloaded.mp (List.mem_of_mem_filter kept)).1
  have storedA := stored memA
  rw [same, stored memB] at storedA
  exact (Option.some.inj storedA).symm

/-- The pointer candidates of a reachable store are its pointer, if it has one. -/
theorem pointerCandidates_preloaded (reachable : s.Reachable py)
    (own : ∀ docId d, s.get docId = some d → OwnPrefixed d) (like : hashLike sessionIdHash) :
    (s.findBySession sessionIdHash none).filter (fun d => decide
      (d.text .id = activeSourceRevisionPointerDocId sessionIdHash ∨
        docType? d = some .activeSourceRevision)) =
      (s.get (activeSourceRevisionPointerDocId sessionIdHash)).toList := by
  have atPointer {d : Doc} (mem : d ∈ (s.findBySession sessionIdHash none).filter (fun d => decide
      (d.text .id = activeSourceRevisionPointerDocId sessionIdHash ∨
        docType? d = some .activeSourceRevision))) :
      s.get (activeSourceRevisionPointerDocId sessionIdHash) = some d := by
    simp only [List.mem_filter, Store.mem_preloaded, decide_eq_true_eq] at mem
    obtain ⟨⟨stored, session, -⟩, named | typed⟩ := mem
    · rw [← named]
      exact stored
    · have pointer := (reachable.validated stored).pointer typed
      rw [Doc.text_of_str session] at pointer
      rw [← pointer.2]
      exact stored
  cases found : s.get (activeSourceRevisionPointerDocId sessionIdHash) with
  | none =>
      rw [Option.toList_none, List.eq_nil_iff_forall_not_mem]
      intro d mem
      have stored := atPointer mem
      rw [found] at stored
      cases stored
  | some pointer =>
      have sameId := Store.get_keyed found
      -- the prefix of its id makes it a pointer, so validation ties it to the session
      obtain ⟨t, typed, prefixed⟩ := own _ _ found
      rw [sameId] at prefixed
      cases prefixed.unique (ownPrefix_pointer _)
      obtain ⟨sessionLike, sameSession⟩ := (reachable.validated found).pointer typed
      have session := activeSourceRevisionPointerDocId_injective like sessionLike sameSession
      have preloaded : Preloaded sessionIdHash pointer :=
        ⟨(text_eq_hash_iff like).mp session.symm, by simp [typed]⟩
      have listed : pointer ∈ s.findBySession sessionIdHash none :=
        Store.mem_preloaded.mpr ⟨by rw [sameId]; exact found, preloaded⟩
      refine List.perm_singleton.mp ((List.perm_ext_iff_of_nodup
        ((s.nodup_findBySession _ _).filter _) (List.nodup_singleton _)).mpr fun d => ?_)
      rw [List.mem_singleton]
      constructor
      · intro mem
        have stored := atPointer mem
        rw [found] at stored
        exact (Option.some.inj stored).symm
      · rintro rfl
        exact List.mem_filter.mpr ⟨listed, by simp [typed]⟩

/-- The session's active pointer leads to a manifest with an entry that has no
    member id. -/
def Store.ActiveManifestLacksMemberId (s : Store) (sessionIdHash : String) : Prop :=
  ∃ pointer, s.get (activeSourceRevisionPointerDocId sessionIdHash) = some pointer ∧
    PointsToLacking s.get sessionIdHash pointer

/-- A time of the sources that the session's active pointer leads to, or of its legacy documents where it has no
    pointer, has no year in UTC. -/
def Store.ActiveTimesOverflow (py : Platform) (s : Store) (sessionIdHash : String) : Prop :=
  match s.get (activeSourceRevisionPointerDocId sessionIdHash) with
  | none => TimesOverflow py (snapshotLegacyDocuments sessionIdHash (s.findBySession sessionIdHash none))
  | some pointer => PointsToOverflow py s.get sessionIdHash pointer

/-- On reachable stores the two resolvers agree exactly when the session is a hash, its active manifest gives every
    entry its member id, and the times of its sources have a year in UTC. -/
theorem resolvers_agree_iff (reachable : s.Reachable py)
    (own : ∀ docId d, s.get docId = some d → OwnPrefixed d) (sessionIdHash : String) :
    Agree (s.resolve py sessionIdHash) (resolveActiveSourceRevisionFromSnapshot py sessionIdHash
        (s.findBySession sessionIdHash none)) ↔
      hashLike sessionIdHash ∧ ¬ s.ActiveManifestLacksMemberId sessionIdHash ∧
        ¬ s.ActiveTimesOverflow py sessionIdHash := by
  by_cases like : hashLike sessionIdHash
  · have identified : ∀ d ∈ s.findBySession sessionIdHash none, d.text .id ≠ "" :=
      fun d mem => (own _ d (Store.mem_preloaded.mp mem).1).identified
    have distinct := s.ids_findBySession sessionIdHash none
    unfold Store.resolve resolveActiveSourceRevision resolveActiveSourceRevisionFromSnapshot
    simp only [ofExcept_except, assertHashLike_of_hashLike like, ok_bind, Store.reader,
      snapshotDocumentMap_distinct distinct identified,
      pointerCandidates_preloaded reachable own like, like, true_and]
    unfold Store.ActiveManifestLacksMemberId Store.ActiveTimesOverflow
    cases found : s.get (activeSourceRevisionPointerDocId sessionIdHash) with
    | none =>
        simp only [Option.toList_none, loadLegacyDocuments, ok_bind, legacyDocuments_preloaded,
          reduceCtorEq, false_and, exists_false, not_false_eq_true, true_and, pure_eq_ok]
        exact resolveLegacy_agree _
    | some pointer =>
        simp only [Option.toList_some, pure_eq_ok, Option.some.injEq, exists_eq_left']
        exact resolvePinned_agree like lookup_preloaded pointer
  · simp only [like, Bool.false_eq_true, false_and, iff_false]
    obtain ⟨message, refused⟩ := assertHashLike_refused "session_id_hash" like
    have raised : s.resolve py sessionIdHash = .error (.valueError message) := by
      simp [Store.resolve, resolveActiveSourceRevision, refused]
    exact not_agree_of_raised raised rfl

end Agreement

/-! ## A manifest without member ids -/

section Lacking

variable (py : Platform)

def lackingSession : String := sha256Hash py (.text "codex:lacking")
def lackingRevision : String := sha256Hash py (.text "revision")

/-- A manifest whose only entry is an empty object. -/
def lackingManifest : Doc := Doc.ofFields [
  (.id, .str (sourceRevisionManifestDocId (lackingSession py) (lackingRevision py))),
  (.docType, .str SourceDocType.sourceRevisionManifest.text),
  (.sessionIdHash, .str (lackingSession py)),
  (.sourceRevision, .str (lackingRevision py)),
  (.sourceHash, .str (lackingRevision py)),
  (.members, .arr [.obj []])]

def lackingPointer : Doc := Doc.ofFields [
  (.id, .str (activeSourceRevisionPointerDocId (lackingSession py))),
  (.docType, .str SourceDocType.activeSourceRevision.text),
  (.sessionIdHash, .str (lackingSession py)),
  (.activeRevision, .str (lackingRevision py)),
  (.manifestId, .str (sourceRevisionManifestDocId (lackingSession py) (lackingRevision py))),
  (.manifestHash, .str (lackingRevision py)),
  (.sourceHash, .str (lackingRevision py))]

/-- The store after the manifest and the pointer were put. -/
def lackingStore : Store :=
  Store.empty.run py [.put (lackingManifest py), .put (lackingPointer py)]

variable {py}

theorem lackingManifest_get? (f : Field) : (lackingManifest py).get? f =
    if f = .members then some (.arr [.obj []])
    else if f = .sourceHash then some (.str (lackingRevision py))
    else if f = .sourceRevision then some (.str (lackingRevision py))
    else if f = .sessionIdHash then some (.str (lackingSession py))
    else if f = .docType then some (.str SourceDocType.sourceRevisionManifest.text)
    else if f = .id then
      some (.str (sourceRevisionManifestDocId (lackingSession py) (lackingRevision py)))
    else none := by
  simp only [lackingManifest, Doc.ofFields, Doc.update_cons, Doc.update_nil, Doc.get?_set,
    Doc.get?_empty]

theorem lackingPointer_get? (f : Field) : (lackingPointer py).get? f =
    if f = .sourceHash then some (.str (lackingRevision py))
    else if f = .manifestHash then some (.str (lackingRevision py))
    else if f = .manifestId then
      some (.str (sourceRevisionManifestDocId (lackingSession py) (lackingRevision py)))
    else if f = .activeRevision then some (.str (lackingRevision py))
    else if f = .sessionIdHash then some (.str (lackingSession py))
    else if f = .docType then some (.str SourceDocType.activeSourceRevision.text)
    else if f = .id then some (.str (activeSourceRevisionPointerDocId (lackingSession py)))
    else none := by
  simp only [lackingPointer, Doc.ofFields, Doc.update_cons, Doc.update_nil, Doc.get?_set,
    Doc.get?_empty]

theorem lackingManifest_id : (lackingManifest py).text .id =
    sourceRevisionManifestDocId (lackingSession py) (lackingRevision py) :=
  Doc.text_of_str (by simp [lackingManifest_get?])

theorem lackingPointer_id : (lackingPointer py).text .id =
    activeSourceRevisionPointerDocId (lackingSession py) :=
  Doc.text_of_str (by simp [lackingPointer_get?])

theorem lackingManifest_valid : validateForWrite py (lackingManifest py) = .ok () := by
  refine validateForWrite_ordinary (t := .sourceRevisionManifest) ?_ (by decide) (by decide) ?_ ?_ ?_
  · simp [docType?_eq_some_iff, lackingManifest_get?]
  · rw [lackingManifest_id]
    exact (ownPrefix_manifest _ _).nonempty
  · exact plainKeys_empty.update (by
      simp only [List.map_cons, List.map_nil]
      decide +kernel)
  · simp [lackingManifest_get?]

theorem lackingPointer_valid : validateForWrite py (lackingPointer py) = .ok () := by
  have session : (lackingPointer py).text .sessionIdHash = lackingSession py :=
    Doc.text_of_str (by simp [lackingPointer_get?])
  refine validateForWrite_pointer ?_ ?_ ?_ ?_ ?_ ?_
  · simp [docType?_eq_some_iff, lackingPointer_get?]
  · rw [session]
    exact hashLike_sha256Hash _ _
  · rw [session, lackingPointer_id]
  · rw [lackingPointer_id]
    exact (ownPrefix_pointer _).nonempty
  · exact plainKeys_empty.update (by
      simp only [List.map_cons, List.map_nil]
      decide +kernel)
  · simp [lackingPointer_get?]

theorem lackingManifest_docType : docType? (lackingManifest py) = some .sourceRevisionManifest := by
  simp [docType?_eq_some_iff, lackingManifest_get?]

theorem lackingPointer_docType : docType? (lackingPointer py) = some .activeSourceRevision := by
  simp [docType?_eq_some_iff, lackingPointer_get?]

variable (py) in
/-- Both puts go through. -/
theorem lackingStore_eq : ∃ rev hash rev' hash', lackingStore py =
    (Store.empty.assign (Store.stamp (lackingManifest py) ((lackingManifest py).text .id) rev
      hash)).assign (Store.stamp (lackingPointer py) ((lackingPointer py).text .id) rev' hash') := by
  have manifestId : (lackingManifest py).text .id ≠ "" := by
    rw [lackingManifest_id]
    exact (ownPrefix_manifest _ _).nonempty
  have pointerId : (lackingPointer py).text .id ≠ "" := by
    rw [lackingPointer_id]
    exact (ownPrefix_pointer _).nonempty
  have apart : (lackingPointer py).text .id ≠ (lackingManifest py).text .id := by
    rw [lackingPointer_id, lackingManifest_id]
    intro same
    exact absurd ((same ▸ ownPrefix_pointer _ : OwnPrefix .activeSourceRevision _).unique
      (ownPrefix_manifest _ _)) (by decide)
  obtain ⟨rev, hash, first⟩ := exec_put_control (s := .empty) lackingManifest_docType (by simp)
    (by simp only [lackingManifest_get?]; rfl) (by simp only [lackingManifest_get?]; rfl)
    lackingManifest_valid manifestId rfl
  have absent : (Store.empty.assign (Store.stamp (lackingManifest py)
      ((lackingManifest py).text .id) rev hash)).get ((lackingPointer py).text .id) = none := by
    rw [Store.get_assign, Doc.text_congr (Store.get?_stamp _ _ _ _ (by decide)), if_neg apart]
    rfl
  obtain ⟨rev', hash', second⟩ := exec_put_control lackingPointer_docType (by simp)
    (by simp only [lackingPointer_get?]; rfl) (by simp only [lackingPointer_get?]; rfl)
    lackingPointer_valid pointerId absent
  refine ⟨rev, hash, rev', hash', ?_⟩
  rw [lackingStore, Store.run, run_cons, run_cons, run_nil, first, second]

variable (py) in
theorem lackingStore_manifest : ∃ manifest,
    (lackingStore py).get (sourceRevisionManifestDocId (lackingSession py) (lackingRevision py)) =
      some manifest ∧ ∀ f ∉ bookkeepingFields, manifest.get? f = (lackingManifest py).get? f := by
  obtain ⟨rev, hash, rev', hash', shape⟩ := lackingStore_eq py
  have apart : sourceRevisionManifestDocId (lackingSession py) (lackingRevision py) ≠
      activeSourceRevisionPointerDocId (lackingSession py) := by
    intro same
    exact absurd ((same ▸ ownPrefix_manifest _ _ : OwnPrefix .sourceRevisionManifest _).unique
      (ownPrefix_pointer _)) (by decide)
  refine ⟨Store.stamp (lackingManifest py) ((lackingManifest py).text .id) rev hash, ?_,
    fun f other => Store.get?_stamp _ _ _ _ other⟩
  rw [shape, Store.get_assign, Doc.text_congr (Store.get?_stamp _ _ _ _ (by decide)),
    lackingPointer_id, if_neg apart, Store.get_assign,
    Doc.text_congr (Store.get?_stamp _ _ _ _ (by decide)), lackingManifest_id, if_pos rfl]

variable (py) in
theorem lackingStore_pointer : ∃ pointer,
    (lackingStore py).get (activeSourceRevisionPointerDocId (lackingSession py)) = some pointer ∧
      ∀ f ∉ bookkeepingFields, pointer.get? f = (lackingPointer py).get? f := by
  obtain ⟨rev, hash, rev', hash', shape⟩ := lackingStore_eq py
  refine ⟨Store.stamp (lackingPointer py) ((lackingPointer py).text .id) rev' hash', ?_,
    fun f other => Store.get?_stamp _ _ _ _ other⟩
  rw [shape, Store.get_assign, Doc.text_congr (Store.get?_stamp _ _ _ _ (by decide)),
    lackingPointer_id, if_pos rfl]

theorem lackingStore_own : ∀ docId d, (lackingStore py).get docId = some d → OwnPrefixed d := by
  obtain ⟨rev, hash, rev', hash', shape⟩ := lackingStore_eq py
  have stamped {d : Doc} {t : SourceDocType} (docId rev hash : String)
      (typed : docType? d = some t) (own : OwnPrefix t (d.text .id)) :
      OwnPrefixed (Store.stamp d docId rev hash) := by
    refine ⟨t, (docType?_congr (Store.get?_stamp _ _ _ _ (by decide))).trans typed, ?_⟩
    rw [Doc.text_congr (Store.get?_stamp _ _ _ _ (by decide))]
    exact own
  intro docId d stored
  rw [shape, Store.get_assign, Store.get_assign] at stored
  split at stored
  · cases stored
    exact stamped _ _ _ lackingPointer_docType (lackingPointer_id ▸ ownPrefix_pointer _)
  · split at stored
    · cases stored
      exact stamped _ _ _ lackingManifest_docType (lackingManifest_id ▸ ownPrefix_manifest _ _)
    · cases stored

variable (py) in
theorem lackingStore_lacks :
    (lackingStore py).ActiveManifestLacksMemberId (lackingSession py) := by
  obtain ⟨pointer, pointerAt, samePointer⟩ := lackingStore_pointer py
  obtain ⟨manifest, manifestAt, sameManifest⟩ := lackingStore_manifest py
  have like : hashLike (lackingRevision py) := hashLike_sha256Hash _ _
  have pointerText {f : Field} {text : String} (other : f ∉ bookkeepingFields)
      (stored : (lackingPointer py).get? f = some (.str text)) : pointer.text f = text :=
    Doc.text_of_str ((samePointer f other).trans stored)
  have manifestText {f : Field} {text : String} (other : f ∉ bookkeepingFields)
      (stored : (lackingManifest py).get? f = some (.str text)) : manifest.text f = text :=
    Doc.text_of_str ((sameManifest f other).trans stored)
  have parsing : parsePointer (lackingSession py) pointer = .ok ⟨lackingRevision py,
      sourceRevisionManifestDocId (lackingSession py) (lackingRevision py), lackingRevision py,
      lackingRevision py⟩ := by
    have typed := (docType?_congr (samePointer .docType (by decide))).trans lackingPointer_docType
    have docId := (Doc.text_congr (samePointer .id (by decide))).trans lackingPointer_id
    have session : pointer.text .sessionIdHash = lackingSession py :=
      pointerText (by decide) (by simp [lackingPointer_get?])
    have active : pointer.text .activeRevision = lackingRevision py :=
      pointerText (by decide) (by simp [lackingPointer_get?])
    have manifestId : pointer.text .manifestId =
        sourceRevisionManifestDocId (lackingSession py) (lackingRevision py) :=
      pointerText (by decide) (by simp [lackingPointer_get?])
    have manifestHash : pointer.text .manifestHash = lackingRevision py :=
      pointerText (by decide) (by simp [lackingPointer_get?])
    have sourceHash : pointer.text .sourceHash = lackingRevision py :=
      pointerText (by decide) (by simp [lackingPointer_get?])
    simp [parsePointer, typed, docId, session, active, manifestId, manifestHash, sourceHash,
      requireHash, assertHashLike_of_hashLike like, rescue, refuseIf]
  have parsed : parseMembers manifest = .ok [∅] := by
    have members := sameManifest .members (by decide)
    rw [lackingManifest_get?] at members
    simp [parseMembers, members, Doc.ofJson?, Dict.insertAll]
  have unproven : (manifest.get? .provenance).getD (.obj []) = .obj [] := by
    rw [sameManifest .provenance (by decide)]
    simp [lackingManifest_get?]
  exact ⟨pointer, pointerAt, _, manifest, parsing, manifestAt, {
    docType := (docType?_congr (sameManifest .docType (by decide))).trans lackingManifest_docType
    docId := (Doc.text_congr (sameManifest .id (by decide))).trans lackingManifest_id
    session := manifestText (by decide) (by simp [lackingManifest_get?])
    revision := manifestText (by decide) (by simp [lackingManifest_get?])
    hash := manifestText (by decide) (by simp [lackingManifest_get?])
    entries := ⟨[∅], parsed, ∅, by simp, rfl⟩
    provenance := by
      rw [unproven]
      exact ⟨∅, rfl⟩ }⟩

/-- Two puts lead to a store on which both resolvers raise `KeyError`. -/
theorem resolvers_raise_keyError :
    (lackingStore referencePlatform).Reachable referencePlatform ∧
      (∀ docId d, (lackingStore referencePlatform).get docId = some d → OwnPrefixed d) ∧
      hashLike (lackingSession referencePlatform) ∧
      (lackingStore referencePlatform).resolve referencePlatform (lackingSession referencePlatform) =
        .error (.keyError "'member_id'") ∧
      ¬ Agree
        ((lackingStore referencePlatform).resolve referencePlatform
          (lackingSession referencePlatform))
        (resolveActiveSourceRevisionFromSnapshot referencePlatform
          (lackingSession referencePlatform)
          ((lackingStore referencePlatform).findBySession (lackingSession referencePlatform)
            none)) := by
  have like : hashLike (lackingSession referencePlatform) := hashLike_sha256Hash _ _
  obtain ⟨pointer, pointerAt, lacking⟩ := lackingStore_lacks referencePlatform
  have raised : (lackingStore referencePlatform).resolve referencePlatform
      (lackingSession referencePlatform) = .error (.keyError "'member_id'") := by
    have pinned : resolvePinned referencePlatform _ _ _ = _ := resolvePinned_lacking lacking
    simp [Store.resolve, resolveActiveSourceRevision, assertHashLike_of_hashLike like, Store.reader,
      pointerAt, pinned]
  exact ⟨Store.Reachable.empty.run _, lackingStore_own, like, raised, not_agree_of_raised raised rfl⟩

/-- On the empty store they agree. -/
theorem resolvers_agree_iff_empty :
    Agree (Store.empty.resolve referencePlatform (lackingSession referencePlatform))
      (resolveActiveSourceRevisionFromSnapshot referencePlatform (lackingSession referencePlatform)
        (Store.empty.findBySession (lackingSession referencePlatform) none)) := by
  refine (resolvers_agree_iff .empty (fun _ _ stored => by cases stored) _).mpr
    ⟨hashLike_sha256Hash _ _, ?_, ?_⟩
  · rintro ⟨pointer, stored, -⟩
    cases stored
  · rintro (⟨time, mem, -⟩ | ⟨time, mem, -⟩) <;> cases mem

end Lacking

end Neurons.Source
