import Neurons.Source.Backfill
import Neurons.Source.Currentness

/-! # The receipts of a projection state

A commit, a pending mark and the audit of an attempt each write a whole state. What they write
has the receipts of the state they have read, but for the one they bring.
-/

namespace Neurons.Source

open Neurons.Lib

/-! ## Receipts of a state -/

/-- What the index projected, as the state's own fields have it. -/
def indexMapping (d : Doc) : Doc := Doc.ofFields [
  (.sessionMemoryKnowledgeId, .str (d.text .sessionMemoryKnowledgeId)),
  (.activeContentHash, .str (d.text .activeContentHash)),
  (.projectedSourceHash, .str (projectedHash d)),
  (.materializedAt, .str (d.text .materializedAt))]

/-- The receipt a slot of the state holds. -/
def Slot.stored (d : Doc) : Slot → Option Json
  | .mapping => some (indexMapping d).json
  | .pgvector => Dict.get? (nested d "backend_receipts") (.other Backend.pgvector.text)
  | .pgvectorLocal profile =>
      Dict.get? (nested (nested d "backend_receipts") Backend.pgvectorLocal.text) (.other profile)

section Stored

variable {d d' : Doc}

theorem nested_insert (d m : Doc) (name : String) : nested (Dict.insert d (.other name) m.json) name = m := by
  simp [nested]

theorem nested_insert_ne (d : Doc) {name name' : String} (other : name' ≠ name) (v : Json) :
    nested (Dict.insert d (.other name) v) name' = nested d name' := by
  simp [nested, Dict.get?_insert, other]

theorem nested_congr {name : String} (same : Dict.get? d' (.other name) = Dict.get? d (.other name)) :
    nested d' name = nested d name := by
  rw [nested, nested, same]

theorem mappingEntry_eq_ok {name : String} {m : Doc} (read : mappingEntry d name = .ok m) : nested d name = m := by
  unfold mappingEntry at read
  unfold nested
  cases found : Dict.get? d (.other name) with
  | none =>
      rw [found] at read
      exact Except.ok.inj read
  | some v =>
      rw [found] at read
      cases truth : v.truthy with
      | false =>
          simp only [Option.filter, truth] at read
          have empty : m = ∅ := (Except.ok.inj read).symm
          rw [empty]
          cases v with
          | obj fields =>
              cases fields with
              | nil => rfl
              | cons => cases truth
          | null | bool | num | dec | str | arr => rfl
      | true =>
          simp only [Option.filter, truth, if_true] at read
          cases mapped : Doc.ofJson? v with
          | none =>
              rw [mapped] at read
              cases read
          | some mapping =>
              rw [mapped] at read
              cases read
              simp [mapped]

/-- Two states with the same fields of their own have the same index mapping. -/
theorem indexMapping_congr (same : ∀ f : Field, d'.get? f = d.get? f) : indexMapping d' = indexMapping d := by
  have texts (f : Field) : d'.text f = d.text f := Doc.text_congr (same f)
  simp only [indexMapping, projectedHash, texts]

theorem Slot.stored_congr (slot : Slot) (fields : indexMapping d' = indexMapping d)
    (receipts : nested d' "backend_receipts" = nested d "backend_receipts") : slot.stored d' = slot.stored d := by
  cases slot with
  | mapping => simp only [stored, fields]
  | pgvector | pgvectorLocal => simp only [stored, receipts]

/-- Bookkeeping is no receipt. -/
theorem Slot.stored_stamp (slot : Slot) (d : Doc) (docId rev hash : String) :
    slot.stored (Store.stamp d docId rev hash) = slot.stored d := by
  have texts {f : Field} (other : f ∉ bookkeepingFields) :
      (Store.stamp d docId rev hash).text f = d.text f :=
    Doc.text_congr (Store.get?_stamp d docId rev hash other)
  apply Slot.stored_congr
  · simp only [indexMapping, projectedHash, texts (f := .sessionMemoryKnowledgeId) (by decide),
      texts (f := .activeContentHash) (by decide), texts (f := .projectedSourceHash) (by decide),
      texts (f := .projectionStatus) (by decide), texts (f := .sourceHash) (by decide),
      texts (f := .materializedAt) (by decide)]
  · apply nested_congr
    simp [Store.stamp, Doc.set, Dict.get?_insert]

theorem get?_erase_other (d : Doc) (name : String) (f : Field) :
    Doc.get? (Dict.erase d (.other name)) f = d.get? f := by
  simp [Doc.get?, Dict.get?_erase]

theorem nested_erase_ne (d : Doc) {name name' : String} (other : name' ≠ name) :
    nested (Dict.erase d (.other name)) name' = nested d name' := by
  simp [nested, Dict.get?_erase, other]

/-! ### What a built state holds -/

theorem get?_other_update (d : Doc) (bindings : List (Field × Json)) (name : String) :
    Dict.get? (d.update bindings) (.other name) = Dict.get? d (.other name) := by
  induction bindings generalizing d with
  | nil => rfl
  | cons entry rest ih =>
      rw [Doc.update_cons, ih]
      simp [Doc.set, Dict.get?_insert]

variable {py : Platform} {fmt : Formats}

/-- A built state has its mapping and no receipts. -/
theorem built_stored {projection : Projection} {state : Doc}
    (built : buildProjectionStateDocument py fmt projection = .ok state) :
    (∀ entry ∈ projection.fields, state.get? entry.1 = some entry.2) ∧ nested state "backend_receipts" = ∅ := by
  unfold buildProjectionStateDocument at built
  simp only [bind_eq_ok] at built
  obtain ⟨⟨⟩, -, ⟨⟩, -, ⟨⟩, -, ⟨⟩, -, base, based, finalized⟩ := built
  rw [← finalize_eq_ok finalized]
  constructor
  · intro entry mem
    simp only [Projection.fields, List.mem_cons, List.not_mem_nil, or_false] at mem
    rcases mem with rfl | rfl | rfl | rfl | rfl | rfl | rfl | rfl <;> simp [Projection.fields, Doc.get?_set]
  · unfold baseDocument at based
    simp only [bind_eq_ok, pure_eq_ok, Except.ok.injEq] at based
    obtain ⟨⟨⟩, -, ⟨⟩, -, label, -, rfl⟩ := based
    rw [nested, get?_other_update, Doc.ofFields, get?_other_update]
    rfl

theorem built_indexMapping {projection : Projection} {state : Doc}
    (built : buildProjectionStateDocument py fmt projection = .ok state)
    (hashed : projection.projectionStatus = .projected → projection.projectedSourceHash = "" →
      projection.sourceHash = "") : indexMapping state = Doc.ofFields [
      (.sessionMemoryKnowledgeId, .str projection.sessionMemoryKnowledgeId),
      (.activeContentHash, .str projection.activeContentHash),
      (.projectedSourceHash, .str projection.projectedSourceHash),
      (.materializedAt, .str projection.materializedAt)] := by
  obtain ⟨fields, -⟩ := built_stored built
  have text {f : Field} {value : String} (mem : (f, Json.str value) ∈ projection.fields) : state.text f = value :=
    Doc.text_of_str (fields _ mem)
  have status : state.text .projectionStatus = projection.projectionStatus.text := text (by simp [Projection.fields])
  have source : state.text .sourceHash = projection.sourceHash := text (by simp [Projection.fields])
  have projected : state.text .projectedSourceHash = projection.projectedSourceHash :=
    text (by simp [Projection.fields])
  have hash : projectedHash state = projection.projectedSourceHash := by
    simp only [projectedHash, status, source, projected]
    split
    · rename_i nothing
      have recorded : projection.projectionStatus = .projected := by
        cases shape : projection.projectionStatus with
        | projected => rfl
        | pending | failed => simp [shape, ProjectionStatus.text] at nothing
      rw [hashed recorded nothing.1, nothing.1]
    · rfl
  have knowledge : state.text .sessionMemoryKnowledgeId = projection.sessionMemoryKnowledgeId :=
    text (by simp [Projection.fields])
  have active : state.text .activeContentHash = projection.activeContentHash := text (by simp [Projection.fields])
  have at_ : state.text .materializedAt = projection.materializedAt := text (by simp [Projection.fields])
  rw [indexMapping, hash, knowledge, active, at_]

theorem keepReceipts_nested (existing : Doc) {state : Doc} (fresh : nested state "backend_receipts" = ∅) :
    nested (keepReceipts existing state) "backend_receipts" = nested existing "backend_receipts" := by
  unfold keepReceipts
  cases found : Dict.get? existing (.other "backend_receipts") with
  | none =>
      have nothing : nested existing "backend_receipts" = ∅ := by simp [nested, found]
      rw [nothing]
      exact fresh
  | some v =>
      cases truth : v.truthy with
      | true => simp [Option.filter, truth, nested, found]
      | false =>
          have empty : Doc.ofJson? v = none ∨ Doc.ofJson? v = some ∅ := by
            cases v with
            | obj fields =>
                cases fields with
                | nil => exact .inr rfl
                | cons => cases truth
            | null | bool | num | dec | str | arr => exact .inl rfl
          simp only [Option.filter, truth, Bool.false_eq_true, if_false, fresh]
          rcases empty with nothing | empty
          · simp [nested, found, nothing]
          · simp [nested, found, empty]

theorem keepReceipts_get? (existing state : Doc) (f : Field) : (keepReceipts existing state).get? f = state.get? f := by
  unfold keepReceipts
  split
  · exact get?_insert_other _ _ _ _
  · rfl

/-- Marking a session pending leaves every receipt. -/
theorem pendingState_stored {sessionIdHash provider project sourceHash : String} {existing state : Doc}
    (built : pendingState py fmt sessionIdHash provider project sourceHash existing = .ok state) (slot : Slot) :
    slot.stored state = slot.stored existing := by
  unfold pendingState at built
  simp only [bind_eq_ok] at built
  obtain ⟨fresh, stated, built⟩ := built
  have kept : state = keepReceipts existing fresh := by
    unfold keepReceipts
    cases shape : (Dict.get? existing (.other "backend_receipts")).filter Json.truthy with
    | none =>
        rw [shape] at built
        exact (Except.ok.inj built).symm
    | some receipts =>
        rw [shape] at built
        exact (Except.ok.inj built).symm
  rw [kept]
  apply Slot.stored_congr
  · rw [indexMapping_congr (keepReceipts_get? existing fresh), built_indexMapping stated (by simp)]
    rfl
  · exact keepReceipts_nested _ (built_stored stated).2

/-- The audit of an attempt leaves the state's own fields and its receipts. -/
theorem withProjectionAttempt_kept {attempt : Attempt} {recordedAt : String} {state : Doc}
    (done : withProjectionAttempt attempt recordedAt d = .ok state) :
    (∀ f : Field, state.get? f = d.get? f) ∧ nested state "backend_receipts" = nested d "backend_receipts" := by
  unfold withProjectionAttempt at done
  split at done
  · cases done
    exact ⟨fun _ => rfl, rfl⟩
  · rw [bind_eq_ok] at done
    obtain ⟨attempts, -, done⟩ := done
    have inserted (name : String) (v : Json) (other : "backend_receipts" ≠ name) (d : Doc) :
        (∀ f : Field, Doc.get? (Dict.insert d (.other name) v) f = d.get? f) ∧
          nested (Dict.insert d (.other name) v) "backend_receipts" = nested d "backend_receipts" :=
      ⟨fun f => get?_insert_other d name v f, nested_insert_ne d other v⟩
    have audited := inserted "projection_attempt" (Doc.json (Dict.insert attempts (.other attempt.backend.text)
      (attempt.entry recordedAt).json)) (by decide) d
    simp only at done
    split at done
    · cases done
      exact audited
    · split at done
      · cases done
        simp only [terminalFailureFields, List.zip_cons_cons, List.zip_nil_right, List.foldl_cons, List.foldl_nil]
        constructor
        · intro f
          rw [get?_insert_other, get?_insert_other, get?_insert_other]
          exact audited.1 f
        · rw [nested_insert_ne _ (by decide), nested_insert_ne _ (by decide), nested_insert_ne _ (by decide)]
          exact audited.2
      · split at done
        · cases done
          simp only [terminalFailureFields, List.foldl_cons, List.foldl_nil]
          constructor
          · intro f
            rw [get?_erase_other, get?_erase_other, get?_erase_other]
            exact audited.1 f
          · rw [nested_erase_ne _ (by decide), nested_erase_ne _ (by decide), nested_erase_ne _ (by decide)]
            exact audited.2
        · cases done
          exact audited

theorem withProjectionAttempt_stored {attempt : Attempt} {recordedAt : String} {state : Doc}
    (done : withProjectionAttempt attempt recordedAt d = .ok state) (slot : Slot) :
    slot.stored state = slot.stored d :=
  slot.stored_congr (indexMapping_congr (withProjectionAttempt_kept done).1) (withProjectionAttempt_kept done).2

/-! ### What a commit leaves -/

theorem baseState_stored {c : Commit} {existing : Option Doc} {state : Doc}
    (based : c.baseState py fmt existing = .ok state) (slot : Slot) :
    slot.stored state = slot.stored (existing.getD ∅) := by
  cases existing with
  | some existing =>
      cases based
      rfl
  | none =>
      apply Slot.stored_congr
      · rw [built_indexMapping based (by simp)]
        rfl
      · rw [(built_stored based).2]
        rfl

/-- A commit leaves every receipt but its own. -/
theorem projectionState_stored {c : Commit} {existing : Option Doc} {state : Doc}
    (done : c.projectionState py fmt existing = .ok state) {slot : Slot} (other : c.slot ≠ slot) :
    slot.stored state = slot.stored (existing.getD ∅) := by
  unfold Commit.projectionState at done
  cases backend : c.backend with
  | qdrant =>
      rw [backend] at done
      simp only [Commit.mappingState, bind_eq_ok] at done
      obtain ⟨fresh, stated, done⟩ := done
      cases done
      have receipts := keepReceipts_nested (existing.getD ∅) (built_stored stated).2
      cases slot with
      | mapping => exact absurd (by simp [Commit.slot, backend]) other
      | pgvector | pgvectorLocal => simp only [Slot.stored, receipts]
  | pgvector =>
      simp only [backend, bind_eq_ok] at done
      obtain ⟨base, based, receipts, read, done⟩ := done
      have own := mappingEntry_eq_ok read
      rw [← baseState_stored based slot]
      have written : (∀ f : Field, state.get? f = base.get? f) ∧ nested state "backend_receipts" =
          Dict.insert receipts (.other Backend.pgvector.text) c.fullReceipt.json := by
        split at done
        · cases done
          constructor
          · intro f
            rw [get?_erase_other, get?_insert_other]
          · rw [nested_erase_ne _ (by decide), nested_insert]
        · split at done
          · cases done
            exact ⟨fun f => get?_insert_other _ _ _ f, nested_insert _ _ _⟩
          · cases done
            constructor
            · intro f
              rw [get?_insert_other, get?_insert_other]
            · rw [nested_insert_ne _ (by decide), nested_insert]
      cases slot with
      | pgvector => exact absurd (by simp [Commit.slot, backend]) other
      | mapping => simp only [Slot.stored, indexMapping_congr written.1]
      | pgvectorLocal profile =>
          simp only [Slot.stored, written.2, own]
          rw [nested_insert_ne _ (by decide)]
  | pgvectorLocal =>
      simp only [backend, bind_eq_ok] at done
      obtain ⟨base, based, receipts, read, localMap, readLocal, done⟩ := done
      have own := mappingEntry_eq_ok read
      have ownLocal := mappingEntry_eq_ok readLocal
      rw [← baseState_stored based slot]
      cases done
      cases slot with
      | mapping =>
          simp only [Slot.stored]
          rw [indexMapping_congr fun f => get?_insert_other _ _ _ f]
      | pgvector =>
          simp only [Slot.stored, nested_insert, own, Dict.get?_insert]
          rw [if_neg (by simp [Backend.text])]
      | pgvectorLocal profile =>
          have differ : profile ≠ c.profileKey := by
            rintro rfl
            exact other (by simp [Commit.slot, backend])
          simp only [Slot.stored, nested_insert, own, ownLocal, Dict.get?_insert]
          rw [if_neg (by simpa using differ)]

/-! ### Receipts of a projection -/

/-- The status of the receipt in a slot. The index's own mapping has none. -/
def Slot.status? (d : Doc) (slot : Slot) : Option Json :=
  ((slot.stored d).bind Doc.ofJson?).bind fun receipt => receipt.get? .projectionStatus

/-- The slot holds the receipt of a projection. -/
def Slot.Projected (d : Doc) (slot : Slot) : Prop :=
  slot.status? d = some (.str ProjectionStatus.projected.text)

instance (d : Doc) (slot : Slot) : Decidable (slot.Projected d) := inferInstanceAs (Decidable (_ = _))

/-- What a representation receipt says of the projection is that it projected. -/
def Commit.ClaimsProjected (c : Commit) : Prop :=
  ∀ own ∈ c.representationReceipt, ∀ v ∈ own.get? .projectionStatus, v = .str ProjectionStatus.projected.text

theorem Slot.projected_iff {slot : Slot} : slot.Projected d ↔ ∃ v receipt, slot.stored d = some v ∧
    Doc.ofJson? v = some receipt ∧ receipt.get? .projectionStatus = some (.str ProjectionStatus.projected.text) := by
  simp only [Slot.Projected, Slot.status?, Option.bind_eq_some_iff]
  constructor
  · rintro ⟨receipt, ⟨v, stored, mapped⟩, status⟩
    exact ⟨v, receipt, stored, mapped, status⟩
  · rintro ⟨v, receipt, stored, mapped, status⟩
    exact ⟨receipt, ⟨v, stored, mapped⟩, status⟩

theorem Slot.Projected.congr {slot : Slot} (projected : slot.Projected d)
    (same : slot.stored d' = slot.stored d) : slot.Projected d' := by
  rw [Slot.Projected, Slot.status?, same]
  exact projected

theorem Slot.not_projected_mapping (d : Doc) : ¬ Slot.mapping.Projected d := by
  simp [Slot.Projected, Slot.status?, Slot.stored, indexMapping, Doc.ofFields, Doc.get?_set]

theorem mappingOr_eq_ok {name : String} {m : Doc} (read : mappingOr (Dict.get? d (.other name)) = .ok m) :
    nested d name = m := by
  apply mappingEntry_eq_ok
  unfold mappingOr at read
  unfold mappingEntry
  cases shape : (Dict.get? d (.other name)).filter Json.truthy with
  | none =>
      rw [shape] at read
      exact read
  | some v =>
      simp only [shape] at read ⊢
      cases mapped : Doc.ofJson? v with
      | none =>
          rw [mapped] at read
          cases read
      | some mapping =>
          rw [mapped] at read
          exact read

theorem mappingAt_eq_ok {name : String} {v : Json} {m : Doc} (found : Dict.get? d (.other name) = some v)
    (read : mappingAt d name = .ok m) : Doc.ofJson? v = some m := by
  simp only [mappingAt, found] at read
  cases mapped : Doc.ofJson? v with
  | none =>
      rw [mapped] at read
      cases read
  | some mapping =>
      rw [mapped] at read
      exact congrArg some (Except.ok.inj read)

/-- A commit looks at the receipt that is stored in its slot. -/
theorem Slot.Projected.read {slot : Slot} {receipt : Doc} (projected : slot.Projected d)
    (read : slot.receipt d = .ok receipt) :
    receipt.get? .projectionStatus = some (.str ProjectionStatus.projected.text) := by
  obtain ⟨v, stored, found, mapped, status⟩ := Slot.projected_iff.mp projected
  cases slot with
  | mapping => exact absurd projected (Slot.not_projected_mapping d)
  | pgvector =>
      simp only [Slot.receipt, bind_eq_ok] at read
      obtain ⟨receipts, readReceipts, readOwn⟩ := read
      have own : Dict.get? receipts (.other Backend.pgvector.text) = some v := by
        rw [← mappingOr_eq_ok readReceipts]
        exact found
      have same := mappingAt_eq_ok own readOwn
      rw [mapped] at same
      cases same
      exact status
  | pgvectorLocal profile =>
      simp only [Slot.receipt, bind_eq_ok] at read
      obtain ⟨receipts, readReceipts, localMap, readLocal, readOwn⟩ := read
      have own : Dict.get? localMap (.other profile) = some v := by
        rw [← mappingOr_eq_ok readLocal, ← mappingOr_eq_ok readReceipts]
        exact found
      have same := mappingAt_eq_ok own readOwn
      rw [mapped] at same
      cases same
      exact status

theorem fullReceipt_projected {c : Commit} (status : c.status = .projected) (claims : c.ClaimsProjected) :
    c.fullReceipt.get? .projectionStatus = some (.str ProjectionStatus.projected.text) := by
  have base : (Doc.ofFields c.receiptFields).get? .projectionStatus =
      some (.str ProjectionStatus.projected.text) := by
    simp [Commit.receiptFields, Doc.ofFields, Doc.get?_set, status]
  unfold Commit.fullReceipt
  cases shape : c.representationReceipt with
  | none => exact base
  | some own =>
      change Dict.get? (Dict.insertAll _ own.entries) (.field .projectionStatus) = _
      rw [Dict.get?_insertAll_entries]
      change (own.get? .projectionStatus).or _ = _
      cases stated : own.get? .projectionStatus with
      | none => exact base
      | some v => rw [claims own shape v stated, Option.some_or]

/-- The index mapping a commit leaves. A failed one leaves the hash that was projected before. -/
def Commit.mapping (c : Commit) (projectedBefore : String) : Doc :=
  let projected (text : String) := if c.status = .projected then text else ""
  Doc.ofFields [
    (.sessionMemoryKnowledgeId, .str (projected c.ref)),
    (.activeContentHash, .str (projected c.materialized.contentHash)),
    (.projectedSourceHash, .str (if c.status = .projected then c.materialized.sourceHash else projectedBefore)),
    (.materializedAt, .str (projected c.materialized.materializedAt))]

/-- The receipt is the one the commit leaves in its slot. -/
def Commit.Brings (c : Commit) (receipt : Option Json) : Prop :=
  match c.backend with
  | .qdrant => ∃ projectedBefore, receipt = some (c.mapping projectedBefore).json
  | .pgvector | .pgvectorLocal => receipt = some c.fullReceipt.json

theorem mappingState_mapping {c : Commit} {existing state : Doc}
    (done : c.mappingState py fmt existing = .ok state) : indexMapping state = c.mapping (projectedHash existing) := by
  simp only [Commit.mappingState, bind_eq_ok] at done
  obtain ⟨fresh, stated, done⟩ := done
  cases done
  rw [indexMapping_congr (keepReceipts_get? existing fresh), built_indexMapping stated]
  · rfl
  · intro (projected : c.status = .projected) nothing
    simpa only [projected, if_true] using nothing

/-- A commit leaves its own receipt. -/
theorem projectionState_brings {c : Commit} {existing : Option Doc} {state : Doc}
    (done : c.projectionState py fmt existing = .ok state) : c.Brings (c.slot.stored state) := by
  unfold Commit.projectionState at done
  unfold Commit.Brings
  cases backend : c.backend with
  | qdrant =>
      have slot : c.slot = .mapping := by simp [Commit.slot, backend]
      rw [backend] at done
      simp only [slot, Slot.stored, mappingState_mapping done]
      exact ⟨_, rfl⟩
  | pgvector =>
      have slot : c.slot = .pgvector := by simp [Commit.slot, backend]
      simp only [backend, bind_eq_ok] at done
      obtain ⟨base, -, receipts, -, done⟩ := done
      simp only [slot, Slot.stored]
      split at done
      · cases done
        rw [nested_erase_ne _ (by decide), nested_insert, Dict.get?_insert_self]
      · split at done
        · cases done
          rw [nested_insert, Dict.get?_insert_self]
        · cases done
          rw [nested_insert_ne _ (by decide), nested_insert, Dict.get?_insert_self]
  | pgvectorLocal =>
      have slot : c.slot = .pgvectorLocal c.profileKey := by simp [Commit.slot, backend]
      simp only [backend, bind_eq_ok] at done
      obtain ⟨base, -, receipts, -, localMap, -, done⟩ := done
      cases done
      simp only [slot, Slot.stored]
      rw [nested_insert, nested_insert, Dict.get?_insert_self]

/-- A commit that may write where a projection is recorded records another one. -/
theorem projectionState_projected {c : Commit} {existing : Option Doc} {receipt state : Doc}
    (done : c.projectionState py fmt existing = .ok state) (claims : c.ClaimsProjected)
    (read : c.slot.receipt (existing.getD ∅) = .ok receipt) (spared : ¬ c.wouldDestroy receipt)
    (projected : c.slot.Projected (existing.getD ∅)) : c.slot.Projected state := by
  have recorded := projected.read read
  have brings := projectionState_brings done
  unfold Commit.Brings at brings
  cases backend : c.backend with
  | qdrant =>
      have slot : c.slot = .mapping := by simp [Commit.slot, backend]
      rw [slot] at projected
      exact absurd projected (Slot.not_projected_mapping _)
  | pgvector | pgvectorLocal =>
      have status : c.status = .projected :=
        not_not.mp fun other => spared ⟨by simp [backend], other, recorded⟩
      rw [backend] at brings
      exact Slot.projected_iff.mpr
        ⟨c.fullReceipt.json, c.fullReceipt, brings, Doc.ofJson?_json _, fullReceipt_projected status claims⟩

theorem keepReceipts_id (existing state : Doc) : (keepReceipts existing state).text .id = state.text .id :=
  Doc.text_congr (keepReceipts_get? existing state .id)

theorem projectionState_id {c : Commit} {existing : Option Doc} {state : Doc}
    (done : c.projectionState py fmt existing = .ok state) (own : ∀ d, existing = some d → d.text .id = c.stateId) :
    state.text .id = c.stateId := by
  have base {state : Doc} (based : c.baseState py fmt existing = .ok state) : state.text .id = c.stateId := by
    cases existing with
    | some existing =>
        cases based
        exact own _ rfl
    | none => exact (buildProjectionStateDocument_eq_ok based).text_id
  unfold Commit.projectionState at done
  split at done
  · simp only [Commit.mappingState, bind_eq_ok] at done
    obtain ⟨fresh, stated, done⟩ := done
    cases done
    rw [keepReceipts_id]
    exact (buildProjectionStateDocument_eq_ok stated).text_id
  · simp only [bind_eq_ok] at done
    obtain ⟨first, based, receipts, -, done⟩ := done
    rw [← base based]
    apply Doc.text_congr
    split at done
    · cases done
      rw [get?_erase_other, get?_insert_other]
    · split at done <;> cases done <;> simp only [get?_insert_other]
  · simp only [bind_eq_ok] at done
    obtain ⟨first, based, receipts, -, localMap, -, done⟩ := done
    cases done
    rw [← base based]
    exact Doc.text_congr (get?_insert_other _ _ _ _)

end Stored

end Neurons.Source
