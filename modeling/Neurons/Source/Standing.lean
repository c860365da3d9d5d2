import Neurons.Source.Activation
import Neurons.Source.StoreParity

/-! # Documents that stand

A document that is put again counts as the one that is stored where that one has its key and its
payload, unless an outcome that the store preserves hides it.
-/

namespace Neurons.Source

open Neurons.Lib

/-! ## Documents that stand -/

/-- The outcome that a store keeps of a document whatever is put over it. -/
def preservedOutcome (d : Doc) : Option IdempotencyOutcome :=
  (terminalPreservedOutcome? ((firstText d [.acceptOutcome, .outcome]).getD "")).or
    (terminalPreservedOutcome? (d.text .status))

section Standing

variable {py : Platform} {d stored : Doc} {s s' : Store}

theorem terminalPreservedOutcome?_ne_duplicate (text : String) :
    terminalPreservedOutcome? text ≠ some .duplicate := by
  unfold terminalPreservedOutcome?
  split
  · decide
  · split <;> decide

theorem preservedOutcome_ne_duplicate (d : Doc) : preservedOutcome d ≠ some .duplicate := by
  intro duplicate
  rcases Option.or_eq_some_iff.mp duplicate with first | ⟨-, second⟩
  · exact terminalPreservedOutcome?_ne_duplicate _ first
  · exact terminalPreservedOutcome?_ne_duplicate _ second

theorem firstText_congr {d d' : Doc} {fields : List Field} (same : ∀ f ∈ fields, d'.get? f = d.get? f) :
    firstText d' fields = firstText d fields := by
  have first : fields.findSome? d'.value? = fields.findSome? d.value? := by
    induction fields with
    | nil => rfl
    | cons f rest ih =>
        rw [List.forall_mem_cons] at same
        rw [List.findSome?_cons, List.findSome?_cons, ih same.2, Doc.value?_congr same.1]
  rw [firstText, firstText, first]

theorem preservedOutcome_congr {d d' : Doc} (same : ∀ f ∈ [Field.acceptOutcome, .outcome, .status],
    d'.get? f = d.get? f) : preservedOutcome d' = preservedOutcome d := by
  have texts : firstText d' [.acceptOutcome, .outcome] = firstText d [.acceptOutcome, .outcome] :=
    firstText_congr fun f mem => same f (by
      simp only [List.mem_cons, List.not_mem_nil, or_false] at mem ⊢
      rcases mem with rfl | rfl <;> simp)
  rw [preservedOutcome, texts, Doc.text_congr (same .status (by simp))]
  rfl

/-- A stored document counts as the one put only with its own key, its payload and no preserved outcome. -/
theorem classify_duplicate_iff {docId hash : String} :
    classifyDocumentIdempotency py (some stored) docId hash = .ok .duplicate ↔
      docId ≠ "" ∧ hash ≠ "" ∧ preservedOutcome stored = none ∧ stored.text .idempotencyKey = docId ∧
        payloadHash py stored = .ok hash := by
  have texts (own : String) : firstText (stored.set .payloadHash (.str own)) [.acceptOutcome, .outcome] =
      firstText stored [.acceptOutcome, .outcome] := firstText_congr (by simp [Doc.get?_set])
  have status (own : String) : (stored.set .payloadHash (.str own)).text .status = stored.text .status :=
    Doc.text_congr (by simp [Doc.get?_set])
  have key (own : String) : (stored.set .payloadHash (.str own)).text .idempotencyKey =
      stored.text .idempotencyKey := Doc.text_congr (by simp [Doc.get?_set])
  have held (own : String) : (stored.set .payloadHash (.str own)).text .payloadHash = own :=
    Doc.text_of_str (by simp [Doc.get?_set])
  have read : (terminalPreservedOutcome? ((firstText stored [.acceptOutcome, .outcome]).getD "")).or
      (terminalPreservedOutcome? (stored.text .status)) = preservedOutcome stored := rfl
  simp only [classifyDocumentIdempotency, bind_eq_ok, classifyIdempotency, refuseIf_eq_ok, texts, status, key, held,
    read]
  constructor
  · rintro ⟨own, hashed, ⟨⟩, named, ⟨⟩, nonblank, done⟩
    cases kept : preservedOutcome stored with
    | some preserved =>
        rw [kept] at done
        cases done
        exact absurd kept (preservedOutcome_ne_duplicate stored)
    | none =>
        rw [kept] at done
        simp only at done
        split at done
        · cases done
        · rename_i keyed
          split at done
          · rename_i same
            exact ⟨named, nonblank, rfl, not_not.mp keyed, same ▸ hashed⟩
          · cases done
  · rintro ⟨named, nonblank, kept, keyed, hashed⟩
    refine ⟨hash, hashed, (), named, (), nonblank, ?_⟩
    rw [kept]
    simp [keyed]

variable (py) in
/-- Adding the document once more finds it where it stands. -/
structure Settled (d stored : Doc) : Prop where
  valid : validateForWrite py d = .ok ()
  named : d.text .id ≠ ""
  unpreserved : preservedOutcome stored = none
  keyed : stored.text .idempotencyKey = d.text .id
  payload : ∃ hash, payloadHash py d = .ok hash ∧ payloadHash py stored = .ok hash

theorem sameMaterial_stamp (d : Doc) (docId rev hash : String) : SameMaterial d (Store.stamp d docId rev hash) := by
  intro k other
  simp only [bookkeepingFields, List.map_cons, List.map_nil, List.mem_cons, List.not_mem_nil, or_false,
    not_or] at other
  simp [Store.stamp, Doc.set, Dict.get?_insert, other]

/-- A document with its bookkeeping stands for itself, unless an outcome it carries is preserved. -/
theorem settled_stamp_iff {rev hash : String} (valid : validateForWrite py d = .ok ())
    (hashed : payloadHash py d = .ok hash) :
    Settled py d (Store.stamp d (d.text .id) rev hash) ↔ preservedOutcome d = none := by
  have same := sameMaterial_stamp d (d.text .id) rev hash
  have outcome : preservedOutcome (Store.stamp d (d.text .id) rev hash) = preservedOutcome d :=
    preservedOutcome_congr fun f mem => same.get? (by revert f; decide)
  have key : (Store.stamp d (d.text .id) rev hash).text .idempotencyKey = d.text .id :=
    Doc.text_of_str (by simp [Store.stamp, Doc.get?_set])
  refine ⟨fun settled => outcome ▸ settled.unpreserved, fun unpreserved => ?_⟩
  exact ⟨valid, text_id_ne_empty valid, outcome.trans unpreserved, key, hash, hashed,
    same.payloadHash.trans hashed⟩

end Standing

end Neurons.Source
