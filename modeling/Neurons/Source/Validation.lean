import Neurons.Source.SourceStore

/-! # Documents that pass validation

What the write boundary asks of an ordinary document, and how a revision text
reads back. The concrete runs of the development are evaluated through these.
-/

namespace Neurons.Source

open Neurons.Lib

/-! ## Keys -/

theorem mem_keys_iff {d : Doc} {k : Key} : k ∈ d.keys ↔ ∃ v, Dict.get? d k = some v := by
  simp only [Dict.keys, List.mem_map, Prod.exists, exists_and_right, exists_eq_right,
    Dict.mem_entries_iff]

theorem mem_keys_set {d : Doc} {f : Field} {v : Json} {k : Key} (mem : k ∈ (d.set f v).keys) :
    k = .field f ∨ k ∈ d.keys := by
  rw [mem_keys_iff] at mem ⊢
  simp only [Doc.set, Dict.get?_insert] at mem
  by_cases same : k = .field f <;> simp_all

theorem mem_keys_update {d : Doc} {bindings : List (Field × Json)} {k : Key}
    (mem : k ∈ (d.update bindings).keys) : k ∈ d.keys ∨ ∃ f ∈ bindings.map Prod.fst, k = .field f := by
  induction bindings generalizing d with
  | nil => exact .inl mem
  | cons entry rest ih =>
      rcases ih mem with early | ⟨f, listed, same⟩
      · rcases mem_keys_set early with here | before
        · exact .inr ⟨entry.1, by simp, here⟩
        · exact .inl before
      · exact .inr ⟨f, by simp_all, same⟩

theorem mem_keys_without {d : Doc} {fields : List Field} {k : Key}
    (mem : k ∈ (d.without fields).keys) : k ∈ d.keys := by
  rw [mem_keys_iff] at mem ⊢
  obtain ⟨v, found⟩ := mem
  rw [Doc.without, Dict.get?_filter] at found
  split at found
  · exact ⟨v, found⟩
  · cases found

/-- No key of the document looks like a secret. -/
def PlainKeys (d : Doc) : Prop := ∀ k ∈ d.keys, isSecretLikeKey k.name = false

theorem PlainKeys.update {d : Doc} {bindings : List (Field × Json)} (plain : PlainKeys d)
    (fields : ∀ f ∈ bindings.map Prod.fst, isSecretLikeKey f.name = false) :
    PlainKeys (d.update bindings) := by
  intro k mem
  rcases mem_keys_update mem with early | ⟨f, listed, rfl⟩
  · exact plain k early
  · exact fields f listed

theorem PlainKeys.set {d : Doc} {f : Field} (plain : PlainKeys d) (v : Json)
    (field : isSecretLikeKey f.name = false) : PlainKeys (d.set f v) :=
  show PlainKeys (d.update [(f, v)]) from plain.update (by simpa using field)

theorem PlainKeys.without {d : Doc} (plain : PlainKeys d) (fields : List Field) :
    PlainKeys (d.without fields) :=
  fun k mem => plain k (mem_keys_without mem)

theorem plainKeys_empty : PlainKeys ∅ := by
  intro k mem
  cases mem

theorem assertNoSecretLikeMetadata_eq_ok {keys : List Key} :
    assertNoSecretLikeMetadata keys = .ok () ↔ ∀ k ∈ keys, isSecretLikeKey k.name = false := by
  unfold assertNoSecretLikeMetadata
  split
  · rename_i k found
    simp only [reduceCtorEq, false_iff, not_forall]
    exact ⟨k, List.mem_of_find?_eq_some found, by simpa using List.find?_some found⟩
  · rename_i missing
    simpa using missing

/-! ## Validation -/

section Validate

variable {py : Platform} {d : Doc}

theorem value?_of_missing {f : Field} (missing : d.get? f = none) : d.value? f = none := by
  simp [Doc.value?, missing]

theorem text_of_missing {f : Field} (missing : d.get? f = none) : d.text f = "" := by
  simp [Doc.text, value?_of_missing missing]

theorem value?_ne_none_of_text {f : Field} (present : d.text f ≠ "") : d.value? f ≠ none := by
  intro missing
  exact present (by simp [Doc.text, missing])

theorem assertCouchdbOwned_of_docType {t : SourceDocType} (typed : docType? d = some t) :
    assertCouchdbOwned ((d.get? .docType).getD (.str "")) = .ok () := by
  rw [docType?_eq_some_iff.mp typed]
  simp [assertCouchdbOwned, SourceDocType.ofText?_eq_some_iff.mpr rfl]

/-- An ordinary document without a body only needs an id, a known type and plain keys. -/
theorem validateForWrite_ordinary {t : SourceDocType} (typed : docType? d = some t)
    (original : t ≠ .repoUsagePattern) (pointer : t ≠ .activeSourceRevision)
    (identified : d.text .id ≠ "") (plain : PlainKeys d) (bodiless : d.get? .body = none) :
    validateForWrite py d = .ok () := by
  simp [validateForWrite, value?_ne_none_of_text identified, assertCouchdbOwned_of_docType typed,
    typed, original, pointer, assertNoSecretLikeMetadata_eq_ok.mpr plain, bodiless, refuseIf]

/-- A pointer needs the id of the session it names. -/
theorem validateForWrite_pointer (typed : docType? d = some .activeSourceRevision)
    (like : hashLike (d.text .sessionIdHash))
    (named : d.text .id = activeSourceRevisionPointerDocId (d.text .sessionIdHash))
    (identified : d.text .id ≠ "") (plain : PlainKeys d) (bodiless : d.get? .body = none) :
    validateForWrite py d = .ok () := by
  have pointer : validateActivePointer d = .ok () := by
    simp [validateActivePointer, assertHashLike_of_hashLike like, rescue, refuseIf, named]
  simp [validateForWrite, value?_ne_none_of_text identified, assertCouchdbOwned_of_docType typed,
    typed, pointer, assertNoSecretLikeMetadata_eq_ok.mpr plain, bodiless, refuseIf]

/-- The payload identity of a control document is its whole content. -/
theorem payloadHash_control {t : SourceDocType} (typed : docType? d = some t)
    (control : t ∈ [SourceDocType.sourceRevisionMember, .sourceRevisionManifest,
      .activeSourceRevision])
    (noContent : d.get? .contentHash = none) (noCoverage : d.get? .coverageHash = none) :
    payloadHash py d = .ok (sha256Hash py (.repr (d.without payloadExcludedFields).json)) := by
  simp only [List.mem_cons, List.not_mem_nil, or_false] at control
  rcases control with rfl | rfl | rfl <;>
    simp [payloadHash, typed, value?_of_missing noContent, value?_of_missing noCoverage]

end Validate

/-! ## Revision texts -/

/-- The number in front of the first dash reads back. -/
theorem beforeFirst_numbered (n : Nat) (rest : String) :
    beforeFirst '-' (toString n ++ "-" ++ rest) = toString n := by
  have digits : ∀ c ∈ (toString n).toList, (c != '-') = true := by
    intro c mem
    have digit := Nat.isDigit_of_mem_toDigits (b := 10) (by decide) (by decide)
      (by simpa using mem)
    rw [bne_iff_ne]
    rintro rfl
    exact absurd digit (by decide)
  rw [beforeFirst, String.toList_append, String.toList_append, List.append_assoc,
    List.takeWhile_append_of_pos digits]
  apply String.toList_inj.mp
  rw [String.toList_ofList]
  simp

theorem beforeFirst_revText (n : Nat) (hash : String) :
    beforeFirst '-' (revText n hash) = toString n :=
  beforeFirst_numbered n _

/-- The revision number of a stored document reads back. -/
theorem nextRevNumber_revText (py : Platform) (n : Nat) (hash : String) :
    nextRevNumber py (revText n hash) = .ok (n + 1) := by
  rw [nextRevNumber, beforeFirst_revText, py.int_repr]

/-! ## Writes that go through -/

section Writes

variable {py : Platform} {d : Doc} {s : Store} {hash : String}

/-- Without an active pointer every write is allowed. -/
theorem allowsWrite_of_unpinned {docId : String} {allowAppend : Bool}
    (unpinned : s.get (activeSourceRevisionPointerDocId (d.text .sessionIdHash)) = none) :
    requireActiveSourceRevisionAllowsWrite py s docId d allowAppend = .ok () := by
  unfold requireActiveSourceRevisionAllowsWrite
  split <;> simp [unpinned]

theorem putIfAbsent_fresh (valid : validateForWrite py d = .ok ())
    (hashed : payloadHash py d = .ok hash) (absent : s.get (d.text .id) = none)
    (allowed : requireActiveSourceRevisionAllowsWrite py s (d.text .id) d true = .ok ()) :
    putIfAbsent py d s = .ok (⟨d.text .id, revText 1 hash, .accepted⟩,
      s.assign (Store.stamp d (d.text .id) (revText 1 hash) hash)) := by
  simp [putIfAbsent, valid, hashed, absent, allowed]

/-- A first put of a mutable document. -/
theorem put_fresh (valid : validateForWrite py d = .ok ()) (mutable : ¬ isImmutableSourceDocument d)
    (identified : d.text .id ≠ "") (hashed : payloadHash py d = .ok hash) (nonblank : hash ≠ "")
    (absent : s.get (d.text .id) = none)
    (allowed : requireActiveSourceRevisionAllowsWrite py s (d.text .id) d false = .ok ()) :
    put py d s = .ok (⟨d.text .id, revText 1 hash, .accepted⟩,
      s.assign (Store.stamp d (d.text .id) (revText 1 hash) hash)) := by
  simp [put, valid, mutable, hashed, absent, allowed, classifyDocumentIdempotency,
    classifyIdempotency, identified, nonblank, refuseIf]

theorem put_immutable (valid : validateForWrite py d = .ok ())
    (immutable : isImmutableSourceDocument d) : put py d s = putIfAbsent py d s := by
  simp [put, valid, immutable]

/-- A first put of a control document is assigned. -/
theorem exec_put_control {t : SourceDocType} (typed : docType? d = some t)
    (control : t ∈ [SourceDocType.sourceRevisionMember, .sourceRevisionManifest,
      .activeSourceRevision])
    (noContent : d.get? .contentHash = none) (noCoverage : d.get? .coverageHash = none)
    (valid : validateForWrite py d = .ok ()) (identified : d.text .id ≠ "")
    (absent : s.get (d.text .id) = none) : ∃ rev hash,
    ((Op.put d).exec py s).2 = s.assign (Store.stamp d (d.text .id) rev hash) := by
  obtain ⟨hash, like, hashed⟩ : ∃ hash, hashLike hash ∧ payloadHash py d = .ok hash :=
    ⟨_, hashLike_sha256Hash _ _, payloadHash_control typed control noContent noCoverage⟩
  have unselected : isSourceMember d = false := by
    simp only [List.mem_cons, List.not_mem_nil, or_false] at control
    rcases control with rfl | rfl | rfl <;> simp [isSourceMember, typed, isSourceMemberType]
  have allowed (allowAppend : Bool) :
      requireActiveSourceRevisionAllowsWrite py s (d.text .id) d allowAppend = .ok () := by
    simp [requireActiveSourceRevisionAllowsWrite, unselected]
  have written : put py d s = .ok (⟨d.text .id, revText 1 hash, .accepted⟩,
      s.assign (Store.stamp d (d.text .id) (revText 1 hash) hash)) := by
    by_cases immutable : isImmutableSourceDocument d
    · rw [put_immutable valid immutable]
      exact putIfAbsent_fresh valid hashed absent (allowed true)
    · exact put_fresh valid immutable identified hashed (hashLike_nonempty like) absent
        (allowed false)
  refine ⟨revText 1 hash, hash, ?_⟩
  rw [Op.exec, Op.perform, written]
  rfl

/-- A patch that passes its checks and replaces the locator is assigned. -/
theorem patch_relocates {p : Patch} {current : Doc} {locator base : String} {n : Nat}
    (found : s.get p.docId = some current)
    (replacement : p.replacementSourceLocatorHash = some locator) (like : hashLike locator)
    (checked : p.check current = .ok ()) (moves : ¬ p.keepsLocator current)
    (allowed : requireActiveSourceRevisionAllowsWrite py s p.docId current false = .ok ())
    (valid : validateForWrite py
      ((p.updated current).set .sourceLocatorHash (.str locator)) = .ok ())
    (hashed : payloadHash py
      ((p.updated current).set .sourceLocatorHash (.str locator)) = .ok hash)
    (rev : current.text .rev = revText n base) :
    patchObservedTimeIfContentHash py p s = .ok
      (⟨p.docId, revText (n + 1) hash, .conflictResolved⟩,
        s.assign (Store.stamp ((p.updated current).set .sourceLocatorHash (.str locator)) p.docId
          (revText (n + 1) hash) hash)) := by
  have accepted : p.checkReplacement = .ok () := by
    rw [Patch.checkReplacement, replacement]
    exact assertHashLike_of_hashLike like
  have moved : current.text .sourceLocatorHash ≠ locator := by
    simpa [Patch.keepsLocator, replacement, eq_comm] using moves
  simp [patchObservedTimeIfContentHash, Patch.write, accepted, found, checked, moves, allowed,
    replacement, moved, valid, hashed, rev, nextRevNumber_revText]

end Writes

end Neurons.Source
