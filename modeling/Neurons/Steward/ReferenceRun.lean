import Neurons.Source.ReferencePlatform
import Neurons.Steward.Effects

/-! # A library that runs

The library calls of the steward as they answer on the cards of the concrete runs
of this development: texts that pass every screen, and the first minute of the
epoch for a clock that ticks in seconds.
-/

namespace Neurons.Steward

open Neurons.Lib
open Neurons.Source

/-! ## The clock -/

/-- An instant of the first minute of the epoch, as `isoformat` writes it. -/
def minuteText (n : ℕ) : List Char :=
  ['1', '9', '7', '0', '-', '0', '1', '-', '0', '1', 'T', '0', '0', ':', '0', '0', ':',
    Nat.digitChar (n / 10), Nat.digitChar (n % 10), '+', '0', '0', ':', '0', '0']

/-- The instants of the first minute in their own text, all others by a mark. -/
def referenceIsoformat : Int → String
  | .ofNat n => if n < 60 then String.ofList (minuteText n)
      else String.ofList ('@' :: (Nat.repr n).toList)
  | .negSucc n => String.ofList ('~' :: (Nat.repr n).toList)

/-- The second a text of the first minute names. -/
def secondOf (text : List Char) : ℕ :=
  10 * ((text.getD 17 '0').toNat - 48) + ((text.getD 18 '0').toNat - 48)

def referenceTimestamp (text : String) : Option Int :=
  match text.toList with
  | '@' :: digits => (String.ofList digits).toNat?.map Int.ofNat
  | '~' :: digits => (String.ofList digits).toNat?.map Int.negSucc
  | text => if minuteText (secondOf text) = text then some (secondOf text) else none

theorem secondOf_minuteText (n : ℕ) (early : n < 60) : secondOf (minuteText n) = n := by
  have digit : ∀ d < 10, (Nat.digitChar d).toNat - 48 = d := by decide
  have tens := digit (n / 10) (by omega)
  have units := digit (n % 10) (by omega)
  simp only [secondOf, minuteText, List.getD_cons_succ, List.getD_cons_zero, tens, units]
  omega

theorem referenceTimestamp_isoformat (t : Int) :
    referenceTimestamp (referenceIsoformat t) = some t := by
  cases t with
  | negSucc n =>
      simp only [referenceIsoformat, referenceTimestamp, String.toList_ofList, String.ofList_toList,
        Nat.toNat?_repr, Option.map_some]
  | ofNat n =>
      simp only [referenceIsoformat]
      split
      · next early =>
          rw [referenceTimestamp, String.toList_ofList]
          change (if minuteText (secondOf (minuteText n)) = minuteText n then
            some (Int.ofNat (secondOf (minuteText n))) else none) = _
          rw [secondOf_minuteText n early, if_pos rfl]
      · simp only [referenceTimestamp, String.toList_ofList, String.ofList_toList,
          Nat.toNat?_repr, Option.map_some]

def referenceLibrary : Library where
  py := referencePlatform
  isoformat := referenceIsoformat
  fromisoformat := referenceTimestamp
  timestamptz := referenceTimestamp
  timestamptz_isoformat := referenceTimestamp_isoformat
  awareTime text := (referenceTimestamp text).isSome
  forbiddenPattern _ := false
  redactText text := text
  boundedReason reason := reason
  canonicalizeProvider proposer := proposer
  plainSourceSpan _ := true
  feedbackRecord _ _ _ _ := .ok ()
  publicSafe _ := .ok ()
  authorityItem card := card.json
  reviewItem card := card.json
  float _ := none
  storedConfidence confidence := confidence
  subjectTitle title := title
  tokenClaims _ := none
  localProfile := false
  environmentLocalProfile := false
  enqueueLocal tables _ := .ok tables

/-! ## Screens -/

theorem ensureNoForbiddenText_reference (path text : String) :
    ensureNoForbiddenText referenceLibrary path text = .ok () := by
  simp [ensureNoForbiddenText, referenceLibrary, refuseIf]

mutual

theorem ensureNoForbiddenContent_reference (path : String) :
    ∀ v, ensureNoForbiddenContent referenceLibrary path v = .ok ()
  | .obj fields => by
      rw [ensureNoForbiddenContent]
      exact ensureNoForbiddenFields_reference path fields
  | .arr items => by
      rw [ensureNoForbiddenContent]
      exact ensureNoForbiddenItems_reference path 0 items
  | .null => by rw [ensureNoForbiddenContent]
  | .bool _ | .num _ | .dec _ _ | .str _ => by
      simp [ensureNoForbiddenContent, ensureNoForbiddenText_reference]

theorem ensureNoForbiddenFields_reference (path : String) :
    ∀ fields, ensureNoForbiddenFields referenceLibrary path fields = .ok ()
  | [] => by rw [ensureNoForbiddenFields]
  | (k, child) :: rest => by
      rw [ensureNoForbiddenFields, ensureNoForbiddenText_reference,
        ensureNoForbiddenContent_reference, ensureNoForbiddenFields_reference path rest]
      rfl

theorem ensureNoForbiddenItems_reference (path : String) (index : Nat) :
    ∀ items, ensureNoForbiddenItems referenceLibrary path index items = .ok ()
  | [] => by rw [ensureNoForbiddenItems]
  | child :: rest => by
      rw [ensureNoForbiddenItems, ensureNoForbiddenContent_reference,
        ensureNoForbiddenItems_reference path (index + 1) rest]
      rfl

end

/-! ## Cards -/

/-- A decision with nothing to say. -/
def referencePayload : Doc := Doc.ofFields [
  (.decision, .str "keep"), (.rationale, .str ""), (.alternatives, .arr []),
  (.consequence, .str ""), (.authorityRef, .str "")]

/-- The fields of the reference cards that no operation writes. -/
def fixedFields : List (Field × Json) := [
  (.brainId, .str "/project/neurons"), (.cardType, .str "decision"), (.scope, .str "project"),
  (.project, .str "neurons"), (.provider, .str "codex"), (.title, .str "store"),
  (.summary, .str "keep the store"), (.renderText, .str "keep the store"),
  (.governanceTier, .str "medium"), (.confidence, .dec 5 1), (.confidenceBasis, .str "review"),
  (.sourceRefs, .arr [.str "ref:1"]), (.evidenceRefs, .arr []), (.evidenceHashes, .arr []),
  (.derivedFrom, .arr []), (.conflicts, .arr []), (.activeUntil, .null),
  (.typedPayload, referencePayload.json),
  (.candidateId, .str "cand_1"), (.spanRefs, .arr [.str "span:1"])]

/-- An envelope of the reference cards, in any state of its life. -/
structure Plain (card : Doc) : Prop where
  fixed : ∀ entry ∈ fixedFields, card.get? entry.1 = some entry.2
  memoryId : ∃ s, card.get? .memoryId = some (.str s)
  status : ∃ s, card.get? .status = some (.str s)
  judgment : card.get? .judgmentState = some (.str "none")
  lifecycle : ∃ s ∈ ["candidate", "human_accepted"], card.get? .lifecycleState = some (.str s)
  approval : ∃ s ∈ ["suggested", "approved"], card.get? .approvalState = some (.str s)
  freshness : ∃ s ∈ freshnessValues, card.get? .freshness = some (.str s)
  currentness : ∃ s ∈ ["unknown", "current", "superseded"], card.get? .currentness = some (.str s)
  supersedes : ∃ l, card.get? .supersedes = some (.arr l)
  supersededBy : ∃ l, card.get? .supersededBy = some (.arr l) ∧
    (card.get? .currentness = some (.str "superseded") → l ≠ [])
  contentHash : card.get? .contentHash = none ∨ card.get? .contentHash = some (.str "sha256:1")
  authorization : card.get? .authorizationStatus = none ∨
    ∃ s ∈ authorizationStatuses, card.get? .authorizationStatus = some (.str s)
  unobserved : card.get? .observedAt = none

theorem legacyContentHash_reference : legacyContentHash "sha256:1" = true := by decide

theorem strip_ref : strip "ref:1" ≠ "" := by decide

theorem Plain.validEnums {card : Doc} (plain : Plain card) : validateEnums card = .ok () := by
  have fixed := plain.fixed
  simp only [fixedFields, List.forall_mem_cons] at fixed
  obtain ⟨lifecycle, lifecycleMem, lifecycleHeld⟩ := plain.lifecycle
  obtain ⟨approval, approvalMem, approvalHeld⟩ := plain.approval
  obtain ⟨freshness, freshnessMem, freshnessHeld⟩ := plain.freshness
  obtain ⟨currentness, currentnessMem, currentnessHeld⟩ := plain.currentness
  have lifecycleIn : lifecycle ∈ lifecycleStates := by
    simp only [List.mem_cons, List.not_mem_nil, or_false] at lifecycleMem
    rcases lifecycleMem with rfl | rfl <;> simp [lifecycleStates]
  have approvalIn : approval ∈ approvalStates := by
    simp only [List.mem_cons, List.not_mem_nil, or_false] at approvalMem
    rcases approvalMem with rfl | rfl <;> simp [approvalStates]
  have currentnessIn : currentness ∈ currentnessValues := by
    simp only [List.mem_cons, List.not_mem_nil, or_false] at currentnessMem
    rcases currentnessMem with rfl | rfl | rfl <;> simp [currentnessValues]
  have lenient := legacyContentHash_reference
  have judgment := plain.judgment
  rcases plain.authorization with unset | ⟨status, statusMem, statusHeld⟩ <;>
  rcases plain.contentHash with unhashed | hashed <;>
  simp [*, validateEnums, validateContentHash, requireEnum, oneOf, value, Json.text, refuseIf,
    memoryCardTypes, judgmentStates, governanceTiers]

theorem typedPayload_reference :
    validateTypedPayload referenceLibrary "decision" referencePayload.json = .ok () := by
  have complete : (typedPayloadRequiredFields "decision").filter
      (fun f => !referencePayload.has f) = [] := by
    simp [typedPayloadRequiredFields, referencePayload, Doc.has, Doc.ofFields, Doc.get?_set]
  simp [validateTypedPayload, memoryCardTypes, requireFields, complete, refuseIf,
    ensureNoForbiddenContent_reference]

theorem locators_reference (fieldName : String) :
    validateLocatorList referenceLibrary (.arr [.str "ref:1"]) fieldName = .ok () ∧
      validateLocatorList referenceLibrary (.arr []) fieldName = .ok () := by
  simp [validateLocatorList, requireList, validateSourceLocator, refuseIf, strip_ref,
    ensureNoForbiddenText_reference]

theorem Plain.validContents {card : Doc} (plain : Plain card) :
    validateContents referenceLibrary card = .ok () := by
  have fixed := plain.fixed
  simp only [fixedFields, List.forall_mem_cons] at fixed
  obtain ⟨brainId, cardType, scope, project, provider, title, summary, renderText, tier, confidence,
    basis, sourceRefs, evidenceRefs, evidenceHashes, derivedFrom, conflicts, -, payload,
    -, -, -⟩ := fixed
  have judgment := plain.judgment
  obtain ⟨lifecycle, lifecycleMem, lifecycleHeld⟩ := plain.lifecycle
  obtain ⟨approval, approvalMem, approvalHeld⟩ := plain.approval
  obtain ⟨currentness, currentnessMem, currentnessHeld⟩ := plain.currentness
  obtain ⟨superseded, supersedesHeld⟩ := plain.supersedes
  obtain ⟨superseders, supersededByHeld, ended⟩ := plain.supersededBy
  have invariants : validateMemoryCardStateInvariants card = .ok () := by
    have lifecycleNe : lifecycle ≠ "accepted" := by
      simp only [List.mem_cons, List.not_mem_nil, or_false] at lifecycleMem
      rcases lifecycleMem with rfl | rfl <;> simp
    have approvalNe : approval ≠ "auto_accepted" := by
      simp only [List.mem_cons, List.not_mem_nil, or_false] at approvalMem
      rcases approvalMem with rfl | rfl <;> simp
    have named : currentness = "superseded" → superseders ≠ [] := by
      rintro rfl
      exact ended currentnessHeld
    simp only [validateMemoryCardStateInvariants, Doc.text_of_str lifecycleHeld,
      Doc.text_of_str approvalHeld, Doc.text_of_str judgment, Doc.text_of_str currentnessHeld]
    by_cases concluded : currentness = "superseded"
    · simp [lifecycleNe, approvalNe, refuseIf, concluded, Doc.value?, supersededByHeld, Option.filter,
        Json.truthy, named concluded]
    · simp [lifecycleNe, approvalNe, refuseIf, concluded]
  have unreviewed : ¬ ("none" ∈ ["suggested_status", "suggested_superseded", "auto_status",
      "needs_review"] ∨ lifecycle ∈ ["suggested_accept", "needs_review"]) := by
    simp only [List.mem_cons, List.not_mem_nil, or_false] at lifecycleMem
    rcases lifecycleMem with rfl | rfl <;> simp
  have number : requireNumber (.dec 5 1) "confidence" = .ok () := by
    simp [requireNumber, refuseIf]
  have hashes : validateHashList (.arr []) "evidence_hashes" = .ok () := by
    simp [validateHashList, requireList]
  simp only [validateContents, plain.unobserved, value, confidence, summary, renderText, title, basis,
    sourceRefs, evidenceRefs, evidenceHashes, derivedFrom, conflicts, payload, supersedesHeld,
    supersededByHeld, Option.getD_some, ensureNoForbiddenContent_reference, number, hashes,
    locators_reference, requireList, Doc.text_of_str cardType, typedPayload_reference, invariants,
    Doc.text_of_str judgment, Doc.text_of_str lifecycleHeld, unreviewed, if_false, ok_bind, pure_eq_ok]

theorem Plain.valid {card : Doc} (plain : Plain card) :
    validateMemoryCardEnvelope referenceLibrary card = .ok () := by
  have fixed := plain.fixed
  simp only [fixedFields, List.forall_mem_cons] at fixed
  obtain ⟨_, memoryId⟩ := plain.memoryId
  obtain ⟨_, status⟩ := plain.status
  obtain ⟨_, -, lifecycle⟩ := plain.lifecycle
  obtain ⟨_, -, approval⟩ := plain.approval
  obtain ⟨_, -, freshness⟩ := plain.freshness
  obtain ⟨_, -, currentness⟩ := plain.currentness
  obtain ⟨_, supersedes⟩ := plain.supersedes
  obtain ⟨_, supersededBy, -⟩ := plain.supersededBy
  have complete : commonMemoryCardFields.filter (fun f => !card.has f) = [] := by
    simp [commonMemoryCardFields, Doc.has, fixed, memoryId, status, plain.judgment, lifecycle, approval, freshness,
      currentness, supersedes, supersededBy]
  simp [validateMemoryCardEnvelope, requireFields, complete, refuseIf, plain.validEnums,
    plain.validContents]

theorem fixed_set {card : Doc} {f : Field} {v : Json}
    (fixed : ∀ entry ∈ fixedFields, card.get? entry.1 = some entry.2)
    (other : f ∉ fixedFields.map Prod.fst) :
    ∀ entry ∈ fixedFields, (card.set f v).get? entry.1 = some entry.2 := by
  intro entry mem
  have ne : entry.1 ≠ f := by
    rintro rfl
    exact other (List.mem_map_of_mem mem)
  rw [Doc.get?_set, if_neg ne, fixed entry mem]

/-- A proposed decision, under the key that identifies it. -/
def referenceSpan (key : String) : Doc :=
  (Doc.ofFields fixedFields).update [
    (.memoryId, .str "mem_candidate_1"), (.lifecycleState, .str "candidate"),
    (.judgmentState, .str "none"), (.status, .str "candidate"), (.approvalState, .str "suggested"),
    (.freshness, .str "unknown"), (.currentness, .str "unknown"), (.supersedes, .arr []),
    (.supersededBy, .arr []), (.idempotencyKey, .str key)]

theorem referenceSpan_plain (key : String) : Plain (referenceSpan key) := by
  constructor
  case fixed =>
    simp only [referenceSpan, Doc.update_cons, Doc.update_nil]
    iterate 10 refine fixed_set ?_ (by simp [fixedFields])
    simp [fixedFields, Doc.ofFields, Doc.get?_set]
  all_goals simp [referenceSpan, Doc.get?_set, Doc.ofFields, fixedFields, freshnessValues]

/-- The values a reference card may be given in a field. -/
def Admits : Field → Json → Prop
  | .memoryId, v => ∃ s, v = .str s
  | .status, v => ∃ s, v = .str s
  | .judgmentState, v => v = .str "none"
  | .lifecycleState, v => v = .str "human_accepted"
  | .approvalState, v => v = .str "approved"
  | .freshness, v => ∃ s ∈ freshnessValues, v = .str s
  | .currentness, v => v = .str "current"
  | .supersedes, v => ∃ l, v = .arr l
  | .supersededBy, v => ∃ l, v = .arr l ∧ l ≠ []
  | .contentHash, v => v = .str "sha256:1"
  | .authorizationStatus, v => ∃ s ∈ authorizationStatuses, v = .str s
  | .observedAt, _ => False
  | f, _ => f ∉ fixedFields.map Prod.fst

theorem Admits.other {f : Field} {v : Json} (admits : Admits f v) : f ∉ fixedFields.map Prod.fst := by
  cases f <;> first | exact admits | simp [fixedFields]

theorem Plain.set {card : Doc} {f : Field} {v : Json} (plain : Plain card) (admits : Admits f v) :
    Plain (card.set f v) where
  fixed := fixed_set plain.fixed admits.other
  memoryId := by
    rw [Doc.get?_set]
    split
    · next same =>
        subst same
        obtain ⟨s, rfl⟩ := admits
        exact ⟨s, rfl⟩
    · exact plain.memoryId
  status := by
    rw [Doc.get?_set]
    split
    · next same =>
        subst same
        obtain ⟨s, rfl⟩ := admits
        exact ⟨s, rfl⟩
    · exact plain.status
  judgment := by
    rw [Doc.get?_set]
    split
    · next same =>
        subst same
        exact congrArg some admits
    · exact plain.judgment
  lifecycle := by
    rw [Doc.get?_set]
    split
    · next same =>
        subst same
        exact ⟨"human_accepted", by simp, congrArg some admits⟩
    · exact plain.lifecycle
  approval := by
    rw [Doc.get?_set]
    split
    · next same =>
        subst same
        exact ⟨"approved", by simp, congrArg some admits⟩
    · exact plain.approval
  freshness := by
    rw [Doc.get?_set]
    split
    · next same =>
        subst same
        obtain ⟨s, mem, rfl⟩ := admits
        exact ⟨s, mem, rfl⟩
    · exact plain.freshness
  currentness := by
    rw [Doc.get?_set]
    split
    · next same =>
        subst same
        exact ⟨"current", by simp, congrArg some admits⟩
    · exact plain.currentness
  supersedes := by
    rw [Doc.get?_set]
    split
    · next same =>
        subst same
        obtain ⟨l, rfl⟩ := admits
        exact ⟨l, rfl⟩
    · exact plain.supersedes
  supersededBy := by
    obtain ⟨l, held, ended⟩ := plain.supersededBy
    rw [Doc.get?_set]
    split
    · next same =>
        subst same
        obtain ⟨l', rfl, some_⟩ := admits
        exact ⟨l', rfl, fun _ => some_⟩
    · refine ⟨l, held, ?_⟩
      rw [Doc.get?_set]
      split
      · next same =>
          subst same
          intro concluded
          rw [show v = .str "current" from admits] at concluded
          simp at concluded
      · exact ended
  contentHash := by
    rw [Doc.get?_set]
    split
    · next same =>
        subst same
        exact .inr (congrArg some admits)
    · exact plain.contentHash
  authorization := by
    rw [Doc.get?_set]
    split
    · next same =>
        subst same
        obtain ⟨s, mem, rfl⟩ := admits
        exact .inr ⟨s, mem, rfl⟩
    · exact plain.authorization
  unobserved := by
    rw [Doc.get?_set]
    split
    · next same =>
        subst same
        exact absurd admits not_false
    · exact plain.unobserved

theorem Plain.stamp {card : Doc} (plain : Plain card) (kind targetMemoryId proposer : String) :
    Plain (stampProposal referenceLibrary card kind targetMemoryId proposer) := by
  have stamped (id by_ : String) := (((plain.set (f := .memoryId) ⟨id, rfl⟩).set
    (f := .authorizationStatus) ⟨"disabled", by simp [authorizationStatuses], rfl⟩).set
    (f := .stewardProposalKind) (v := .str kind) (by simp [Admits, fixedFields])).set
    (f := .stewardProposedBy) (v := .str by_) (by simp [Admits, fixedFields])
  unfold stampProposal
  by_cases named : targetMemoryId = ""
  · simp only [named, if_true, List.append_nil, Doc.update_cons, Doc.update_nil]
    exact stamped _ _
  · simp only [named, if_false, List.cons_append, List.nil_append, Doc.update_cons, Doc.update_nil]
    exact (stamped _ _).set (by simp [Admits, fixedFields])

/-! ## Proposals -/

/-- A reference span as it is proposed. -/
structure Proposable (span : Doc) (key : String) : Prop where
  plain : Plain span
  lifecycle : span.get? .lifecycleState = some (.str "candidate")
  approval : span.get? .approvalState = some (.str "suggested")
  currentness : span.get? .currentness = some (.str "unknown")
  authorization : span.get? .authorizationStatus = none
  idempotencyKey : span.get? .idempotencyKey = some (.str key)
  keyed : strip key ≠ ""
  unbundled : span.get? .judgmentBasisBundle = none
  unopened : span.get? .validFrom = none

theorem referenceSpan_proposable {key : String} (keyed : strip key ≠ "") :
    Proposable (referenceSpan key) key := by
  refine ⟨referenceSpan_plain key, ?_, ?_, ?_, ?_, ?_, keyed, ?_, ?_⟩ <;>
  simp [referenceSpan, Doc.get?_set, Doc.ofFields, fixedFields]

/-- The fields a proposal may come with besides. -/
def carriedFields : List Field := [.contentHash, .validTo, .supersedes]

theorem Proposable.set {span : Doc} {key : String} {f : Field} {v : Json} (span_ : Proposable span key)
    (carried : f ∈ carriedFields) (admits : Admits f v) : Proposable (span.set f v) key := by
  have other {g : Field} (apart : g ∉ carriedFields) : (span.set f v).get? g = span.get? g := by
    rw [Doc.get?_set, if_neg]
    rintro rfl
    exact apart carried
  refine ⟨span_.plain.set admits, ?_, ?_, ?_, ?_, ?_, span_.keyed, ?_, ?_⟩
  · rw [other (by simp [carriedFields]), span_.lifecycle]
  · rw [other (by simp [carriedFields]), span_.approval]
  · rw [other (by simp [carriedFields]), span_.currentness]
  · rw [other (by simp [carriedFields]), span_.authorization]
  · rw [other (by simp [carriedFields]), span_.idempotencyKey]
  · rw [other (by simp [carriedFields]), span_.unbundled]
  · rw [other (by simp [carriedFields]), span_.unopened]

theorem strip_candidate : strip "cand_1" ≠ "" := by decide
theorem strip_span : strip "span:1" ≠ "" := by decide

theorem requireIdentity_reference {card : Doc} {f : Field} {s : String}
    (held : card.get? f = some (.str s)) (named : strip s ≠ "") :
    requireIdentity referenceLibrary card f = .ok () := by
  simp only [requireIdentity, held, refuseIf, named, if_false, ok_bind,
    ensureNoForbiddenText_reference]

theorem requireSpanRefs_reference {card : Doc}
    (held : card.get? .spanRefs = some (.arr [.str "span:1"])) :
    requireSpanRefs referenceLibrary card = .ok () := by
  have locator : validateSourceLocator referenceLibrary (.str "span:1") "span_refs[]" = .ok () := by
    simp only [validateSourceLocator, refuseIf, strip_span, if_false, ok_bind,
      ensureNoForbiddenText_reference]
  simp only [requireSpanRefs, held, List.forM_eq_forM, List.forM_cons, List.forM_nil, locator, ok_bind,
    pure_eq_ok]

theorem Proposable.built {span : Doc} {key : String} (span_ : Proposable span key)
    (refreshWatermark miningReason : String) :
    buildCandidate referenceLibrary span refreshWatermark miningReason = .ok span := by
  have candidateId : span.get? .candidateId = some (.str "cand_1") :=
    span_.plain.fixed (.candidateId, _) (by simp [fixedFields])
  have sourceRefs : span.get? .sourceRefs = some (.arr [.str "ref:1"]) :=
    span_.plain.fixed (.sourceRefs, _) (by simp [fixedFields])
  have spanRefs : span.get? .spanRefs = some (.arr [.str "span:1"]) :=
    span_.plain.fixed (.spanRefs, _) (by simp [fixedFields])
  have completed : isCompleted span = true := by simp [isCompleted, Doc.has, sourceRefs]
  have plainSpan : referenceLibrary.plainSourceSpan span.json = true := rfl
  have pending : ¬ (oneOf span .lifecycleState reviewLifecycleStates = false ∨
      oneOf span .approvalState ["suggested", "needs_review"] = false ∨
      (span.get? .authorizationStatus).getD (.str "disabled") ≠ .str "disabled") := by
    simp [oneOf, span_.lifecycle, span_.approval, span_.authorization, reviewLifecycleStates]
  have checked : checkCompletedEnvelope referenceLibrary span = .ok () := by
    simp only [checkCompletedEnvelope, plainSpan, refuseIf, pending, if_false, ok_bind,
      ensureNoForbiddenContent_reference, Source.rescue, span_.plain.valid,
      requireIdentity_reference candidateId strip_candidate,
      requireIdentity_reference span_.idempotencyKey span_.keyed,
      requireSpanRefs_reference spanRefs, span_.unbundled, Bool.true_eq_false, pure_eq_ok]
  simp only [buildCandidate, completed, if_true, checked, ok_bind, pure_eq_ok]

/-- The gates open to a steward with every right. -/
def openService : Service := ⟨true, true, false⟩

theorem Proposable.created {span : Doc} {key : String} (span_ : Proposable span key)
    (refreshWatermark reviewReason decisionId proposer : String) :
    candidateCreate referenceLibrary openService span refreshWatermark false reviewReason decisionId
      proposer = .ok (.propose (stampProposal referenceLibrary span "candidate" "" proposer)
        (proposalResult referenceLibrary)) := by
  have pending : isAccepted (stampProposal referenceLibrary span "candidate" "" proposer) = false := by
    have lifecycle : (stampProposal referenceLibrary span "candidate" "" proposer).get?
        .lifecycleState = some (.str "candidate") := by
      simp [stampProposal, Doc.get?_set, span_.lifecycle]
    simp [isAccepted, Doc.text_of_str lifecycle, acceptedLifecycleStates]
  have safe (v : Json) : referenceLibrary.publicSafe v = .ok () := rfl
  simp [candidateCreate, span_.built, persistProposal, guardWritable, openService, refuseIf,
    (span_.plain.stamp "candidate" "" proposer).valid, pending, safe]

/-- An envelope on its way into the table at the time `now`. -/
structure Insertable (envelope : Doc) (id : String) (now : Int) (validTo : Option Int) : Prop where
  plain : Plain envelope
  lifecycle : envelope.get? .lifecycleState = some (.str "candidate")
  currentness : envelope.get? .currentness = some (.str "unknown")
  disabled : envelope.get? .authorizationStatus = some (.str "disabled")
  memoryId : envelope.get? .memoryId = some (.str id)
  named : id ≠ ""
  short : id.length ≤ 64
  unopened : envelope.get? .validFrom = none
  ends : parseTime referenceLibrary (value envelope .validTo) = .ok validTo ∧
    awareEnd referenceLibrary (value envelope .validTo) = true
  later : ∀ t ∈ validTo, now ≤ t

/-- The row such an envelope is stored in. -/
def insertedRow (envelope : Doc) (id : String) (now : Int) (validTo : Option Int) : CardRow where
  memoryId := id
  project := "neurons"
  cardType := "decision"
  title := "store"
  summary := "keep the store"
  typedPayload := ((envelope.value? .typedPayload).getD (.obj []))
  lifecycleState := "candidate"
  authorizationStatus := "disabled"
  currentness := "unknown"
  confidence := .dec 5 1
  validFrom := now
  validTo := validTo
  contentHash := envelope.text .contentHash
  sourceRef := [.str "ref:1"]
  stewardEnvelope := some envelope

theorem Plain.text_contentHash_length {card : Doc} (plain : Plain card) :
    (card.text .contentHash).length ≤ 71 := by
  rcases plain.contentHash with unhashed | hashed
  · simp [Doc.text, Doc.value?, unhashed]
  · rw [Doc.text_of_str hashed]
    decide

theorem Insertable.fits {envelope : Doc} {id : String} {now : Int} {validTo : Option Int}
    (ready : Insertable envelope id now validTo) : (insertedRow envelope id now validTo).Fits := by
  refine ⟨ready.short, ?_, ?_, ready.plain.text_contentHash_length, ready.later, ?_, ?_, ?_⟩
  · simp only [insertedRow]
    decide
  · simp only [insertedRow]
    decide
  · simp [insertedRow, lifecycleStates]
  · simp [insertedRow, authorizationStatuses]
  · simp [insertedRow, currentnessValues]

theorem Insertable.stored {envelope : Doc} {id : String} {now : Int} {validTo : Option Int} {db : Db}
    (ready : Insertable envelope id now validTo) (fresh : db.cards.get? id = none) :
    putStewardProposal referenceLibrary now envelope db = .ok (envelope,
      { db with cards := db.cards.insert id (insertedRow envelope id now validTo) }) := by
  have fixed := ready.plain.fixed
  simp only [fixedFields, List.forall_mem_cons] at fixed
  obtain ⟨-, cardType, -, project, -, title, summary, -, -, confidence, -, sourceRefs, -⟩ := fixed
  have text {f : Field} {s : String} (held : envelope.get? f = some (.str s)) : envelope.text f = s :=
    Doc.text_of_str held
  have built : buildPgCard referenceLibrary now envelope =
      .ok { insertedRow envelope id now validTo with stewardEnvelope := none } := by
    have opens : parseTime referenceLibrary (value envelope .validFrom) = .ok none := by
      simp [value, ready.unopened, parseTime]
    have aware : ¬ (validTo ≠ none ∧ awareEnd referenceLibrary (value envelope .validFrom) ≠
        awareEnd referenceLibrary (value envelope .validTo)) := by
      rw [ready.ends.2]
      simp [value, ready.unopened, awareEnd]
    have kept (v : Json) : referenceLibrary.storedConfidence v = v := rfl
    have number : value envelope .confidence = .dec 5 1 := by simp [value, confidence]
    simp only [buildPgCard, opens, ready.ends.1, ok_bind, refuseIf, aware, if_false, index,
      ready.memoryId, project, cardType, pure_eq_ok, insertedRow, text title, text summary, textOr,
      text ready.lifecycle, text ready.currentness, number, kept, sourceRefs, Json.text,
      Option.getD_none, floatOf]
    simp
  have pending : ¬ (oneOf envelope .lifecycleState reviewLifecycleStates = false ∨
      envelope.get? .authorizationStatus ≠ some (.str "disabled")) := by
    simp [oneOf, ready.lifecycle, ready.disabled, reviewLifecycleStates]
  have ordered : ¬ ∃ t ∈ validTo, t < now := by
    rintro ⟨t, mem, early⟩
    have := ready.later t mem
    omega
  have fits := ready.fits
  have validated : validateCard (insertedRow envelope id now validTo) = .ok () := by
    have identity : ¬ (id = "" ∨ "neurons" = "" ∨ "decision" = "") := by simp [ready.named]
    have lifecycle := fits.2.2.2.2.2.1
    have authorization := fits.2.2.2.2.2.2.1
    have currentness := fits.2.2.2.2.2.2.2
    simp only [validateCard, refuseIf, lifecycle, authorization, currentness, not_true_eq_false,
      if_false, ok_bind]
    simp only [insertedRow, identity, ordered, if_false, ok_bind]
  have inserted : insertCard (insertedRow envelope id now validTo) db =
      .ok { db with cards := db.cards.insert id (insertedRow envelope id now validTo) } := by
    have key : (insertedRow envelope id now validTo).memoryId = id := rfl
    simp only [insertCard, CardRow.stored_eq_self fits, key, fresh, validated, ok_bind, refuseIf, fits, not_true_eq_false,
      if_false, Option.isSome_none, Bool.false_eq_true, pure_eq_ok]
  have whole : ({ insertedRow envelope id now validTo with stewardEnvelope := none } : CardRow).stored.memoryId =
      (insertedRow envelope id now validTo).memoryId := varchar_eq_self fits.1
  simp only [putStewardProposal, ready.plain.valid, ok_bind, refuseIf, pending, if_false, built]
  split
  · next stored taken => exact absurd (taken.symm.trans fresh) (by simp)
  · rw [if_pos whole]
    change (do return (envelope, ← insertCard (insertedRow envelope id now validTo) db)) = _
    rw [inserted, ok_bind, pure_eq_ok]

/-- The id a reference proposal is stamped with. -/
def stampedId (key kind targetMemoryId : String) : String :=
  stewardProposalPrefix ++ sha16 referenceLibrary [key, kind, targetMemoryId]

theorem stampedId_named (key kind targetMemoryId : String) : stampedId key kind targetMemoryId ≠ "" := by
  intro blank
  have length := congrArg String.length blank
  simp [stampedId, stewardProposalPrefix, String.length_append] at length

theorem stampedId_short (key kind targetMemoryId : String) :
    (stampedId key kind targetMemoryId).length ≤ 64 :=
  stewardProposalId_length_le referenceLibrary _

/-- A stamped reference proposal is ready for the table. -/
theorem Proposable.insertable {span : Doc} {key : String} (span_ : Proposable span key)
    (nonblank : key ≠ "") (kind targetMemoryId : String) (now : Int) {validTo : Option Int}
    (ends : parseTime referenceLibrary (value span .validTo) = .ok validTo ∧
      awareEnd referenceLibrary (value span .validTo) = true) (later : ∀ t ∈ validTo, now ≤ t) :
    Insertable (stampProposal referenceLibrary span kind targetMemoryId "codex")
      (stampedId key kind targetMemoryId) now validTo := by
  have other {f : Field} (apart : f ∉ [Field.memoryId, .authorizationStatus, .stewardProposalKind,
      .stewardProposedBy, .stewardTargetMemoryId]) :
      (stampProposal referenceLibrary span kind targetMemoryId "codex").get? f = span.get? f := by
    simp only [List.mem_cons, List.not_mem_nil, or_false, not_or] at apart
    unfold stampProposal
    by_cases named : targetMemoryId = "" <;> simp [named, Doc.get?_set, apart]
  refine ⟨span_.plain.stamp _ _ _, ?_, ?_, ?_, ?_, stampedId_named _ _ _, stampedId_short _ _ _, ?_,
    ?_, later⟩
  · rw [other (by simp), span_.lifecycle]
  · rw [other (by simp), span_.currentness]
  · unfold stampProposal
    by_cases named : targetMemoryId = "" <;> simp [named, Doc.get?_set]
  · have text : textOr span .idempotencyKey (span.text .memoryId) = key := by
      simp [textOr, Doc.text_of_str span_.idempotencyKey, nonblank]
    unfold stampProposal
    by_cases named : targetMemoryId = "" <;> simp [named, Doc.get?_set, text, stampedId]
  · rw [other (by simp), span_.unopened]
  · rw [value, other (by simp)]
    exact ends

/-- One call of a service with every right, whose clocks agree. -/
def callAt (op : Op) (now : Int) : Call := ⟨op, openService, now, fun _ => now⟩

def createCall (span : Doc) (now : Int) : Call :=
  callAt (.candidateCreate span "" false "" "" "codex") now

theorem step_create {span : Doc} {key : String} (span_ : Proposable span key) (nonblank : key ≠ "")
    {now : Int} {validTo : Option Int} {db : Db}
    (ends : parseTime referenceLibrary (value span .validTo) = .ok validTo ∧
      awareEnd referenceLibrary (value span .validTo) = true) (later : ∀ t ∈ validTo, now ≤ t)
    (fresh : db.cards.get? (stampedId key "candidate" "") = none) :
    step referenceLibrary db (createCall span now) =
      { db with
        cards := db.cards.insert (stampedId key "candidate" "")
          (insertedRow (stampProposal referenceLibrary span "candidate" "" "codex")
            (stampedId key "candidate" "") now validTo) } := by
  have planned : planOf referenceLibrary (createCall span now) db =
      .ok (.propose (stampProposal referenceLibrary span "candidate" "" "codex")
        (proposalResult referenceLibrary)) := span_.created _ _ _ _
  have stored := (span_.insertable nonblank "candidate" "" now ends later).stored fresh
  simp only [step, perform, planned, Plan.execute, transact]
  rw [show (createCall span now).now = now from rfl, stored]

/-! ## Decisions -/

/-- What lets a changed card be stored over its row. -/
structure Writable (changed : Doc) (row : CardRow) (id : String) : Prop where
  memoryId : changed.get? .memoryId = some (.str id)
  contentHash : changed.get? .contentHash = some (.str row.contentHash)
  lifecycle : ∃ s ∈ lifecycleStates, changed.get? .lifecycleState = some (.str s)
  currentness : ∃ s ∈ currentnessValues, changed.get? .currentness = some (.str s)
  window : ∃ opens ends, sqlTime referenceLibrary (value changed .validFrom) = .ok opens ∧
    sqlTime referenceLibrary (value changed .validTo) = .ok ends ∧
    ∀ t ∈ ends, opens.getD row.validFrom ≤ t
  fits : row.Fits
  queued : ∀ db, ∃ db', enqueueProjections referenceLibrary false id row.contentHash
    (authorize changed) db = .ok db'

theorem Writable.written {changed : Doc} {row : CardRow} {id : String} {db : Db}
    (writable : Writable changed row id) (locked : List String) (mem : id ∈ locked)
    (found : db.cards.get? id = some row) :
    ∃ db', writeChanged referenceLibrary false locked changed db = .ok (authorize changed, db') := by
  obtain ⟨state, stateMem, lifecycle⟩ := writable.lifecycle
  obtain ⟨current, currentMem, currentness⟩ := writable.currentness
  obtain ⟨opens, ends, validFrom, validTo, ordered⟩ := writable.window
  have kept {f : Field} (other : f ≠ .authorizationStatus) :
      (authorize changed).get? f = changed.get? f := by
    rw [authorize, Doc.get?_set, if_neg other]
  have nonblank : current ≠ "" := by
    rintro rfl
    simp [currentnessValues] at currentMem
  have status : ∃ s ∈ authorizationStatuses,
      (authorize changed).get? .authorizationStatus = some (.str s) := by
    refine ⟨if isApproved changed then "active" else "disabled", ?_, by simp [authorize, Doc.get?_set]⟩
    split <;> simp [authorizationStatuses]
  obtain ⟨status, statusMem, authorization⟩ := status
  obtain ⟨short, project, cardType, hash, -⟩ := writable.fits
  have updated : ∃ row', updateRow referenceLibrary row (authorize changed) = .ok row' := by
    have stored : ((authorize changed).value? .currentness).getD (.str "unknown") = .str current := by
      simp [Doc.value?, kept, currentness, Option.filter, Json.truthy, nonblank]
    have fits : ({ row with
        stewardEnvelope := some (authorize changed)
        lifecycleState := state
        authorizationStatus := status
        currentness := current
        validFrom := opens.getD row.validFrom
        validTo := ends } : CardRow).Fits :=
      ⟨short, project, cardType, hash, ordered, stateMem, statusMem, currentMem⟩
    have opens_ : value (authorize changed) .validFrom = value changed .validFrom := by
      simp [value, kept]
    have ends_ : value (authorize changed) .validTo = value changed .validTo := by
      simp [value, kept]
    simp only [updateRow, index, kept (show Field.lifecycleState ≠ .authorizationStatus by simp),
      lifecycle, authorization, ok_bind, sqlText, stored, opens_, ends_, validFrom, validTo, refuseIf,
      fits, not_true_eq_false, if_false, pure_eq_ok]
    exact ⟨_, rfl⟩
  obtain ⟨row', updated⟩ := updated
  obtain ⟨db', queued⟩ := writable.queued { db with cards := db.cards.insert id row' }
  refine ⟨db', ?_⟩
  simp only [writeChanged, index, writable.memoryId, ok_bind, Json.text, mem, if_true, found,
    writable.contentHash, refuseIf, ne_eq, not_true_eq_false, if_false, updated, queued, pure_eq_ok]

/-- A card without authority leaves no work. -/
theorem queued_of_unapproved {changed : Doc} (unapproved : isApproved changed = false)
    (id hash : String) (db : Db) : ∃ db', enqueueProjections referenceLibrary false id hash
      (authorize changed) db = .ok db' := by
  have same : isApproved (authorize changed) = isApproved changed := by
    simp [isApproved, oneOf, authorize, Doc.get?_set]
  simp [enqueueProjections, same, unapproved]

/-- The work of a reference card in authority can be queued. -/
theorem Plain.queued {changed : Doc} (plain : Plain changed)
    (hashed : changed.get? .contentHash = some (.str "sha256:1")) {id : String} (named : id ≠ "")
    (short : id.length ≤ 64) (db : Db) : ∃ db', enqueueProjections referenceLibrary false id "sha256:1"
      (authorize changed) db = .ok db' := by
  have kept {f : Field} (other : f ≠ .authorizationStatus) :
      (authorize changed).get? f = changed.get? f := by
    rw [authorize, Doc.get?_set, if_neg other]
  have fixed := plain.fixed
  simp only [fixedFields, List.forall_mem_cons] at fixed
  obtain ⟨-, cardType, -, project, -, title, summary, -, -, -, -, -, -, -, -, -, -, payload, -⟩ := fixed
  obtain ⟨state, stateMem, lifecycle⟩ := plain.lifecycle
  have typed : ((authorize changed).value? .typedPayload).getD (.obj []) = referencePayload.json := by
    have some_ : referencePayload.json.truthy = true := by
      have entries : referencePayload.get? .decision = some (.str "keep") := by
        simp [referencePayload, Doc.ofFields, Doc.get?_set]
      have listed := Dict.mem_entries_iff.mpr entries
      simp only [Doc.json, Json.truthy]
      cases isEmpty : referencePayload.entries with
      | nil => simp [isEmpty] at listed
      | cons _ _ => rfl
    simp [Doc.value?, kept, payload, Option.filter, some_]
  have episode (revision current : String) :
      ∃ episode, episodePayload id revision current (authorize changed) = .ok episode := by
    simp only [episodePayload, typed, Doc.ofJson?_json, index, kept (show Field.contentHash ≠ _ by simp),
      kept (show Field.project ≠ _ by simp), kept (show Field.cardType ≠ _ by simp),
      kept (show Field.title ≠ _ by simp), kept (show Field.summary ≠ _ by simp),
      kept (show Field.lifecycleState ≠ _ by simp), hashed, project, cardType, title, summary,
      lifecycle, ok_bind, pure_eq_ok]
    exact ⟨_, rfl⟩
  have outbox (hash text : String) (jobs : List EmbeddingJob) :
      ∃ jobs', enqueueOutbox id hash text jobs = .ok jobs' := by
    simp only [enqueueOutbox, refuseIf, named, if_false, ok_bind]
    split <;> exact ⟨_, rfl⟩
  have graph (revision : String) (some_ : revision ≠ "") (narrow : revision.length ≤ 128) (episode : Doc)
      (jobs : List GraphJob) : ∃ jobs', enqueueGraphOutbox id revision "sha256:1" episode jobs = .ok jobs' :=
    ⟨_, enqueueGraphOutbox_eq ⟨named, some_, by simp⟩ ⟨by omega, narrow, by decide⟩⟩
  unfold enqueueProjections
  split
  · obtain ⟨current, isCurrent, narrow⟩ : ∃ current, textOr (authorize changed) .currentness "unknown" = current ∧
        current.length ≤ 10 := by
      obtain ⟨current, listed, held⟩ := plain.currentness
      simp only [List.mem_cons, List.not_mem_nil, or_false] at listed
      refine ⟨current, ?_, by rcases listed with rfl | rfl | rfl <;> decide⟩
      exact textOr_of_str ((kept (by simp)).trans held) (by rcases listed with rfl | rfl | rfl <;> simp)
    rw [isCurrent]
    have embedding : ∃ tables, enqueueEmbedding referenceLibrary false id "sha256:1" current
        (authorize changed) db = .ok tables := by
      unfold enqueueEmbedding
      split
      · exact ⟨_, rfl⟩
      · obtain ⟨jobs, queued⟩ := outbox "sha256:1" ((authorize changed).text .summary) db.embeddingOutbox
        simp only [Bool.false_eq_true, if_false, queued, ok_bind, pure_eq_ok]
        exact ⟨_, rfl⟩
    obtain ⟨tables, embedded⟩ := embedding
    obtain ⟨built, episode⟩ := episode ("sha256:1" ++ ":" ++ state ++ ":" ++ current) current
    have nonblank : "sha256:1" ++ ":" ++ state ++ ":" ++ current ≠ "" := by
      intro blank
      have length := congrArg String.length blank
      simp [String.length_append] at length
    have narrow : ("sha256:1" ++ ":" ++ state ++ ":" ++ current).length ≤ 128 := by
      simp only [List.mem_cons, List.not_mem_nil, or_false] at stateMem
      have states : state.length ≤ 14 := by rcases stateMem with rfl | rfl <;> decide
      have fixed : "sha256:1".length = 8 ∧ ":".length = 1 := by decide
      simp only [String.length_append]
      omega
    obtain ⟨jobs, graphed⟩ := graph _ nonblank narrow built db.graphOutbox
    simp only [embedded, ok_bind, index, kept (show Field.lifecycleState ≠ _ by simp), lifecycle,
      Json.text, episode, graphed, pure_eq_ok]
    exact ⟨_, rfl⟩
  · exact ⟨db, rfl⟩

/-- A decision on one card that can be stored is made. -/
theorem stewardDecision_single {d : Decision} {transform : Transform} {c : Int} {db : Db}
    {row : CardRow} {card changed : Doc} (named : d.decisionId ≠ "" ∧ d.actor ≠ "")
    (fresh : db.cardDecisions.get? d.decisionId = none)
    (found : db.cards.get? d.memoryId = some row) (held : row.stewardEnvelope = some card)
    (hash : row.contentHash = d.contentHash) (alone : d.targetMemoryId = "")
    (single : d.action ≠ .supersede) (transformed : transform card none = .ok (changed, none))
    (memoryId : changed.get? .memoryId = some (.str d.memoryId))
    (writable : Writable (rewriteValidity referenceLibrary c (some card) changed) row d.memoryId) :
    ∃ outcome db', stewardDecision referenceLibrary false d transform c db = .ok (outcome, db') ∧
      (∃ row', Updated referenceLibrary row
        (authorize (rewriteValidity referenceLibrary c (some card) changed)) row' ∧
        db'.cards = db.cards.insert d.memoryId row') ∧
      ∀ other, other ≠ d.decisionId → db'.cardDecisions.get? other = db.cardDecisions.get? other := by
  have target : d.target? = none := by simp [Decision.target?, alone]
  have unnamed : ¬ (d.decisionId = "" ∨ d.actor = "") := by simp [named]
  have decided : decideCards referenceLibrary d transform c db =
      .ok (rewriteValidity referenceLibrary c (some card) changed, none) := by
    have rewritten : rewriteChanged referenceLibrary d c card none changed =
        .ok (rewriteValidity referenceLibrary c (some card) changed) := by
      simp only [rewriteChanged, originalOf, index, memoryId, ok_bind, pure_eq_ok, if_true]
    have second : (none : Option Doc).mapM (rewriteChanged referenceLibrary d c card none) =
        .ok none := rfl
    simp only [decideCards, lockCard, found, held, ok_bind, lockTarget, target, refuseIf, hash,
      ne_eq, not_true_eq_false, if_false, requireScope, single, transformed, rewritten, second,
      pure_eq_ok]
  obtain ⟨db', written⟩ := writable.written d.locked (by simp [Decision.locked]) found
  obtain ⟨key, row₁, row', named', -, found', -, updated, cards⟩ := (writeChanged_eq_ok written).row
  cases Option.some.inj (writable.memoryId.symm.trans named')
  cases Option.some.inj (found.symm.trans found')
  simp only [stewardDecision, refuseIf, unnamed, if_false, ok_bind, fresh, decided, commitDecision,
    written, writeTarget, pure_eq_ok]
  refine ⟨_, _, rfl, ⟨row', updated, cards⟩, fun other apart => ?_⟩
  rw [Dict.get?_insert, if_neg apart, (writeChanged_eq_ok written).cardDecisions]

/-- So is a decision on a card and the one it names. -/
theorem stewardDecision_pair {d : Decision} {transform : Transform} {c : Int} {db : Db}
    {row old : CardRow} {card target changed changedTarget : Doc} {targetId : String}
    (named : d.decisionId ≠ "" ∧ d.actor ≠ "")
    (fresh : db.cardDecisions.get? d.decisionId = none)
    (found : db.cards.get? d.memoryId = some row) (held : row.stewardEnvelope = some card)
    (hash : row.contentHash = d.contentHash) (names : d.target? = some targetId)
    (apart : targetId ≠ d.memoryId) (foundTarget : db.cards.get? targetId = some old)
    (heldTarget : old.stewardEnvelope = some target)
    (scope : requireScope d card (some target) = .ok ())
    (transformed : transform card (some target) = .ok (changed, some changedTarget))
    (memoryId : changed.get? .memoryId = some (.str d.memoryId))
    (targetMemoryId : changedTarget.get? .memoryId = some (.str targetId))
    (writable : Writable (rewriteValidity referenceLibrary c (some card) changed) row d.memoryId)
    (writableTarget : Writable (rewriteValidity referenceLibrary c (some target) changedTarget) old
      targetId) :
    ∃ outcome db', stewardDecision referenceLibrary false d transform c db = .ok (outcome, db') := by
  have unnamed : ¬ (d.decisionId = "" ∨ d.actor = "") := by simp [named]
  have decided : decideCards referenceLibrary d transform c db =
      .ok (rewriteValidity referenceLibrary c (some card) changed,
        some (rewriteValidity referenceLibrary c (some target) changedTarget)) := by
    have rewritten : rewriteChanged referenceLibrary d c card (some target) changed =
        .ok (rewriteValidity referenceLibrary c (some card) changed) := by
      simp only [rewriteChanged, originalOf, index, memoryId, ok_bind, pure_eq_ok, if_true]
    have differs : Json.str targetId ≠ .str d.memoryId := by simpa using apart
    have second : (some changedTarget).mapM
        (rewriteChanged referenceLibrary d c card (some target)) =
        .ok (some (rewriteValidity referenceLibrary c (some target) changedTarget)) := by
      simp only [Option.mapM_some, rewriteChanged, originalOf, index, targetMemoryId, ok_bind,
        pure_eq_ok, differs, if_false]
      rfl
    simp only [decideCards, lockCard, found, held, ok_bind, lockTarget, names, foundTarget, heldTarget,
      refuseIf, hash, ne_eq, not_true_eq_false, if_false, scope, transformed, rewritten, second,
      pure_eq_ok]
  obtain ⟨mid, written⟩ := writable.written d.locked (by simp [Decision.locked]) found
  have foundMid : mid.cards.get? targetId = some old := by
    obtain ⟨key, _, row', named', -, -, -, -, cards⟩ := (writeChanged_eq_ok written).row
    cases Option.some.inj (writable.memoryId.symm.trans named')
    rw [cards, Dict.get?_insert, if_neg (show targetId ≠ (Json.str d.memoryId).text from apart),
      foundTarget]
  obtain ⟨last, writtenTarget⟩ := writableTarget.written d.locked (by simp [Decision.locked, names])
    foundMid
  simp only [stewardDecision, refuseIf, unnamed, if_false, ok_bind, fresh, decided, commitDecision,
    written, writeTarget, writtenTarget, pure_eq_ok]
  exact ⟨_, _, rfl⟩

/-- A reference card, approved. -/
def approvedCard (card : Doc) (approvedBy now : String) : Doc := card.update [
  (.lifecycleState, .str "human_accepted"), (.judgmentState, .str "none"),
  (.status, .str "accepted"), (.approvalState, .str "approved"), (.freshness, .str "current"),
  (.currentness, .str "current"), (.approvedBy, .str approvedBy), (.approvedAt, .str now)]

theorem Plain.authorized {card : Doc} (plain : Plain card) : Plain (authorize card) := by
  refine plain.set ⟨if isApproved card then "active" else "disabled", ?_, rfl⟩
  split <;> simp [authorizationStatuses]

/-- The fields an approval writes. -/
def decidedFields : List Field :=
  [.lifecycleState, .judgmentState, .status, .approvalState, .freshness, .currentness, .approvedBy,
    .approvedAt]

theorem approvedCard_get? (card : Doc) (approvedBy now : String) {f : Field}
    (apart : f ∉ decidedFields) : (approvedCard card approvedBy now).get? f = card.get? f := by
  simp only [decidedFields, List.mem_cons, List.not_mem_nil, or_false, not_or] at apart
  simp [approvedCard, Doc.get?_set, apart]

theorem approvedCard_state (card : Doc) (approvedBy now : String) :
    (approvedCard card approvedBy now).get? .lifecycleState = some (.str "human_accepted") ∧
      (approvedCard card approvedBy now).get? .approvalState = some (.str "approved") ∧
      (approvedCard card approvedBy now).get? .currentness = some (.str "current") := by
  simp [approvedCard, Doc.get?_set]

theorem Plain.approved {card : Doc} (plain : Plain card) (approvedBy now : String) :
    Plain (approvedCard card approvedBy now) := by
  simp only [approvedCard, Doc.update_cons, Doc.update_nil]
  refine Plain.set (Plain.set (Plain.set (Plain.set (Plain.set (Plain.set (Plain.set (plain.set
    (f := .lifecycleState) rfl) (f := .judgmentState) rfl) (f := .status) ⟨_, rfl⟩)
    (f := .approvalState) rfl) (f := .freshness) ⟨"current", by simp [freshnessValues], rfl⟩)
    (f := .currentness) rfl) ?_) ?_ <;> simp [Admits, fixedFields]

theorem humanApprove_reference {card : Doc} (plain : Plain card) (approvedBy decisionId now : String) :
    humanApproveMemoryCardCandidate referenceLibrary card approvedBy decisionId none now =
      .ok (approvedCard card approvedBy now) := by
  have recorded (card : Doc) (reason : Option String) :
      referenceLibrary.feedbackRecord card decisionId "approve" reason = .ok () := rfl
  have valid := (plain.approved approvedBy now).valid
  rw [approvedCard] at valid
  simp only [humanApproveMemoryCardCandidate, revise, plain.valid, valid, ok_bind, pure_eq_ok,
    recorded, approvedCard]

theorem approveTransform_reference {card : Doc} (plain : Plain card)
    (lifecycle : card.get? .lifecycleState = some (.str "candidate"))
    (approvedBy decisionId now : String) :
    approveTransform referenceLibrary approvedBy decisionId now card none =
      .ok (approvedCard card approvedBy now, none) := by
  have fixed := plain.fixed
  simp only [fixedFields, List.forall_mem_cons] at fixed
  obtain ⟨-, cardType, -, -, -, -, -, -, -, -, -, sourceRefs, -, -, -, conflicts, -⟩ := fixed
  obtain ⟨current, currentMem, currentness⟩ := plain.currentness
  have settled : current ≠ "conflicted" := by
    simp only [List.mem_cons, List.not_mem_nil, or_false] at currentMem
    rcases currentMem with rfl | rfl | rfl <;> simp
  have unblocked : requireUnblocked card "approval" = .ok () := by
    simp [requireUnblocked, classifyCandidateBlockReason, Doc.value?, sourceRefs, conflicts,
      Option.filter, Json.truthy, currentness, settled, cardType, refuseIf]
  have pending : requirePending card "only pending steward candidate may be approved" = .ok () := by
    simp [requirePending, oneOf, lifecycle, reviewLifecycleStates, refuseIf]
  simp only [approveTransform, pending, unblocked, humanApprove_reference plain, ok_bind, pure_eq_ok]

theorem sqlTime_reference (t : Int) :
    sqlTime referenceLibrary (.str (referenceIsoformat t)) = .ok (some t) := by
  simp [sqlTime, referenceLibrary, referenceTimestamp_isoformat]

/-- An approved reference proposal opens its window and can be stored. -/
theorem Insertable.approvable {card : Doc} {id : String} {now : Int} {validTo : Option Int}
    (ready : Insertable card id now validTo)
    (hashed : card.get? .contentHash = some (.str "sha256:1"))
    (unapproved : card.get? .approvalState = some (.str "suggested"))
    (kind : card.get? .stewardProposalKind ≠ some (.str "stale"))
    (ends : sqlTime referenceLibrary (value card .validTo) = .ok validTo) {c : Int}
    (later : ∀ t ∈ validTo, c ≤ t) :
    rewriteValidity referenceLibrary c (some card)
        (approvedCard card "operator" (referenceIsoformat c)) =
      (approvedCard card "operator" (referenceIsoformat c)).set .validFrom
        (.str (referenceIsoformat c)) ∧
    Writable ((approvedCard card "operator" (referenceIsoformat c)).set .validFrom
        (.str (referenceIsoformat c))) (insertedRow card id now validTo) id := by
  have others {f : Field} (apart : f ∉ decidedFields) := approvedCard_get? card "operator"
    (referenceIsoformat c) apart
  obtain ⟨lifecycle, approval, currentness⟩ := approvedCard_state card "operator" (referenceIsoformat c)
  have plain := ready.plain.approved "operator" (referenceIsoformat c)
  generalize approvedCard card "operator" (referenceIsoformat c) = changed at *
  have kept {f : Field} (apart : f ≠ .validFrom) :
      (changed.set .validFrom (.str (referenceIsoformat c))).get? f = changed.get? f := by
    rw [Doc.get?_set, if_neg apart]
  have plain' : Plain (changed.set .validFrom (.str (referenceIsoformat c))) :=
    plain.set (by simp [Admits, fixedFields])
  have hash : (insertedRow card id now validTo).contentHash = "sha256:1" := Doc.text_of_str hashed
  refine ⟨?_, ?_, ?_, ⟨_, by simp [lifecycleStates], (kept (by simp)).trans lifecycle⟩,
    ⟨_, by simp [currentnessValues], (kept (by simp)).trans currentness⟩,
    ⟨some c, validTo, ?_, ?_, later⟩, ready.fits, ?_⟩
  · have first : isApproved changed = true ∧ isApproved card = false := by
      simp [isApproved, oneOf, approval, unapproved, acceptedApprovalStates]
    have kind' : changed.get? .stewardProposalKind ≠ some (.str "stale") := by
      rwa [others (by simp [decidedFields])]
    simp only [rewriteValidity, oneOf, currentness, first]
    simp [referenceLibrary, kind']
  · rw [kept (by simp), others (by simp [decidedFields]), ready.memoryId]
  · rw [kept (by simp), others (by simp [decidedFields]), hashed, hash]
  · rw [value, Doc.get?_set, if_pos rfl, Option.getD_some, sqlTime_reference]
  · rw [value, kept (by simp), others (by simp [decidedFields])]
    exact ends
  · rw [hash]
    exact plain'.queued (by rw [kept (by simp), others (by simp [decidedFields]), hashed]) ready.named ready.short

def approveCall (id decisionId : String) (now : Int) : Call :=
  callAt (.candidateApprove id "operator" decisionId) now

/-- What the approval of a stored reference proposal leaves. -/
structure ApprovedAt (card : Doc) (row : CardRow) (c : Int) : Prop where
  plain : Plain card
  fits : row.Fits
  held : row.stewardEnvelope = some card
  memoryId : card.get? .memoryId = some (.str row.memoryId)
  contentHash : card.get? .contentHash = some (.str "sha256:1") ∧ row.contentHash = "sha256:1"
  lifecycle : card.get? .lifecycleState = some (.str "human_accepted")
  approval : card.get? .approvalState = some (.str "approved")
  currentness : card.get? .currentness = some (.str "current")
  opened : card.get? .validFrom = some (.str (referenceIsoformat c)) ∧ row.validFrom = c
  cardType : row.cardType = "decision"

theorem step_approve {card : Doc} {id : String} {now c : Int} {validTo : Option Int} {db : Db}
    (ready : Insertable card id now validTo)
    (hashed : card.get? .contentHash = some (.str "sha256:1"))
    (unapproved : card.get? .approvalState = some (.str "suggested"))
    (kind : card.get? .stewardProposalKind = some (.str "candidate"))
    (ends : sqlTime referenceLibrary (value card .validTo) = .ok validTo) (later : ∀ t ∈ validTo, c ≤ t)
    (found : db.cards.get? id = some (insertedRow card id now validTo))
    {decisionId : String} (named : decisionId ≠ "") (fresh : db.cardDecisions.get? decisionId = none) :
    ∃ card' row', ApprovedAt card' row' c ∧ row'.memoryId = id ∧ row'.validTo = validTo ∧
      (step referenceLibrary db (approveCall id decisionId c)).cards = db.cards.insert id row' ∧
      ∀ other, other ≠ decisionId → (step referenceLibrary db
        (approveCall id decisionId c)).cardDecisions.get? other = db.cardDecisions.get? other := by
  have others {f : Field} (apart : f ∉ decidedFields) := approvedCard_get? card "operator"
    (referenceIsoformat c) apart
  obtain ⟨lifecycle, approval, currentness⟩ := approvedCard_state card "operator" (referenceIsoformat c)
  have plain := ready.plain.approved "operator" (referenceIsoformat c)
  have transformed := approveTransform_reference ready.plain ready.lifecycle "operator" decisionId
    (referenceIsoformat c)
  obtain ⟨rewritten, writable⟩ := ready.approvable hashed unapproved (by simp [kind]) ends later
  generalize isChanged : approvedCard card "operator" (referenceIsoformat c) = changed at *
  have kept {f : Field} (apart : f ≠ .validFrom) :
      (changed.set .validFrom (.str (referenceIsoformat c))).get? f = changed.get? f := by
    rw [Doc.get?_set, if_neg apart]
  have plain' : Plain (changed.set .validFrom (.str (referenceIsoformat c))) :=
    plain.set (by simp [Admits, fixedFields])
  have hash : (insertedRow card id now validTo).contentHash = "sha256:1" := Doc.text_of_str hashed
  obtain ⟨outcome, db', decided, ⟨row', updated, cards⟩, audits⟩ := stewardDecision_single
    (d := ⟨decisionId, id, .approve, "operator", "sha256:1", ""⟩) ⟨named, by simp⟩ fresh found rfl hash rfl
    (by simp) transformed (by rw [others (by simp [decidedFields]), ready.memoryId]) (rewritten ▸ writable)
  have planned : planOf referenceLibrary (approveCall id decisionId c) db =
      .ok (.decision ⟨decisionId, id, .approve, "operator", "sha256:1", ""⟩
        (approveTransform referenceLibrary "operator" decisionId (referenceIsoformat c))
        (fun changed => safeRestrictedResult referenceLibrary [changed.card])) := by
    have loaded : getStewardCard id db = some card := by simp [getStewardCard, found, insertedRow]
    have pending : loadPendingCandidate id db = .ok card := by
      simp [loadPendingCandidate, loaded, Doc.text_of_str ready.lifecycle, reviewLifecycleStates,
        refuseIf, textOr, Doc.text_of_str kind]
    have undecided : loadDecided ⟨decisionId, id, .approve, "operator", "", ""⟩ db = .ok none := by
      simp [loadDecided, getStewardDecision, fresh]
    have iso : referenceLibrary.isoformat c = referenceIsoformat c := rfl
    simp only [planOf, approveCall, callAt, candidateApprove, guardReviewCommit, guardRestricted,
      guardWritable, openService, refuseIf, Bool.true_eq_false, Bool.false_eq_true, if_false, ok_bind,
      decideCandidate, undecided, orDecided, pending, decisionOn, index, ready.memoryId, hashed,
      Json.text, pure_eq_ok, iso]
  have stepped : step referenceLibrary db (approveCall id decisionId c) = db' := by
    have clock : (approveCall id decisionId c).clock 0 = c := rfl
    have profile : referenceLibrary.localProfile = false := rfl
    simp only [step, perform, planned, Plan.execute, transact, clock, profile, decided]
  rw [stepped]
  rw [rewritten] at updated
  have stored {f : Field} (apart : f ≠ .authorizationStatus) :
      (authorize (changed.set .validFrom (.str (referenceIsoformat c)))).get? f =
        (changed.set .validFrom (.str (referenceIsoformat c))).get? f := by
    rw [authorize, Doc.get?_set, if_neg apart]
  have opened : (authorize (changed.set .validFrom (.str (referenceIsoformat c)))).get? .validFrom =
      some (.str (referenceIsoformat c)) := by
    rw [stored (by simp), Doc.get?_set, if_pos rfl]
  have columns : row'.memoryId = id ∧ row'.contentHash = "sha256:1" ∧ row'.cardType = "decision" := by
    rw [updated.frame]
    exact ⟨rfl, hash, rfl⟩
  refine ⟨authorize (changed.set .validFrom (.str (referenceIsoformat c))), row',
    ⟨plain'.authorized, updated.fits, by rw [updated.frame], ?_, ⟨?_, columns.2.1⟩, ?_, ?_, ?_,
      ⟨opened, ?_⟩, columns.2.2⟩, columns.1, ?_, cards, audits⟩
  · rw [stored (by simp), kept (by simp), others (by simp [decidedFields]), ready.memoryId, columns.1]
  · rw [stored (by simp), kept (by simp), others (by simp [decidedFields]), hashed]
  · rw [stored (by simp), kept (by simp), lifecycle]
  · rw [stored (by simp), kept (by simp), approval]
  · rw [stored (by simp), kept (by simp), currentness]
  · obtain ⟨t, read, written⟩ := updated.validFrom
    rw [value, opened, Option.getD_some, sqlTime_reference, Except.ok.injEq] at read
    rw [written, ← read, Option.getD_some]
  · have written := updated.validTo
    rw [value, stored (by simp), kept (by simp), others (by simp [decidedFields])] at written
    exact (Except.ok.inj (ends.symm.trans written)).symm

theorem strip_first : strip "first" ≠ "" := by decide

/-- A reference span that comes with its content hash. -/
def hashedSpan (key : String) : Doc := (referenceSpan key).set .contentHash (.str "sha256:1")

theorem hashedSpan_proposable {key : String} (keyed : strip key ≠ "") :
    Proposable (hashedSpan key) key :=
  (referenceSpan_proposable keyed).set (by simp [carriedFields]) rfl

theorem referenceSpan_open (key : String) : (referenceSpan key).get? .validTo = none := by
  simp [referenceSpan, Doc.get?_set, Doc.ofFields, fixedFields]

/-- A span without an end is stored without one. -/
theorem ends_of_open {span : Doc} (open_ : span.get? .validTo = none) :
    parseTime referenceLibrary (value span .validTo) = .ok none ∧
      awareEnd referenceLibrary (value span .validTo) = true := by
  simp [value, open_, parseTime, awareEnd]

/-! ## Superseding -/

/-- A reference proposal to supersede a card. -/
def supersedingCard (key oldId : String) : Doc :=
  stampProposal referenceLibrary ((hashedSpan key).set .supersedes (.arr [.str oldId])) "supersede"
    oldId "codex"

theorem supersedingCard_get? {key oldId : String} {f : Field}
    (apart : f ∉ [Field.memoryId, .authorizationStatus, .stewardProposalKind, .stewardProposedBy,
      .stewardTargetMemoryId, .supersedes]) :
    (supersedingCard key oldId).get? f = (hashedSpan key).get? f := by
  simp only [List.mem_cons, List.not_mem_nil, or_false, not_or] at apart
  unfold supersedingCard stampProposal
  by_cases named : oldId = "" <;> simp [named, Doc.get?_set, apart]

def proposeCall (oldId key : String) (now : Int) : Call :=
  callAt (.supersedePropose oldId (hashedSpan key) "" "codex") now

theorem hashedSpan_open (key : String) : (hashedSpan key).get? .validTo = none := by
  rw [hashedSpan, Doc.get?_set, if_neg (by simp), referenceSpan_open]

/-- The proposal on its way into the table. -/
theorem supersedingCard_insertable {key : String} (keyed : strip key ≠ "") (nonblank : key ≠ "")
    (oldId : String) (now : Int) :
    Insertable (supersedingCard key oldId) (stampedId key "supersede" oldId) now none := by
  have span_ : Proposable ((hashedSpan key).set .supersedes (.arr [.str oldId])) key :=
    (hashedSpan_proposable keyed).set (by simp [carriedFields]) ⟨_, rfl⟩
  have open_ : ((hashedSpan key).set .supersedes (.arr [.str oldId])).get? .validTo = none := by
    rw [Doc.get?_set, if_neg (by simp), hashedSpan_open]
  exact span_.insertable nonblank "supersede" oldId now (ends_of_open open_) (by simp)

/-- Two reference cards are of one scope. -/
theorem Plain.sameScope {card other : Doc} (plain : Plain card) (plain' : Plain other) :
    ∀ f ∈ [Field.project, .brainId, .scope], ∃ s, s ≠ "" ∧ card.get? f = some (.str s) ∧
      other.get? f = some (.str s) := by
  have fixed := plain.fixed
  have fixed' := plain'.fixed
  simp only [fixedFields, List.forall_mem_cons] at fixed fixed'
  simp [fixed, fixed']

theorem step_propose {old : Doc} {row : CardRow} {c now : Int} {db : Db} {key oldId : String}
    (keyed : strip key ≠ "") (nonblank : key ≠ "") (approved : ApprovedAt old row c)
    (named : oldId ≠ "") (found : db.cards.get? oldId = some row)
    (fresh : db.cards.get? (stampedId key "supersede" oldId) = none) :
    step referenceLibrary db (proposeCall oldId key now) =
      { db with
        cards := db.cards.insert (stampedId key "supersede" oldId)
          (insertedRow (supersedingCard key oldId) (stampedId key "supersede" oldId) now none) } := by
  have loaded : getStewardCard oldId db = some old := by simp [getStewardCard, found, approved.held]
  have span_ := hashedSpan_proposable keyed
  have scope : ¬ ∃ f ∈ [Field.project, .brainId, .scope], value (hashedSpan key) f ≠ value old f := by
    rintro ⟨f, mem, differs⟩
    obtain ⟨s, -, here, there⟩ := span_.plain.sameScope approved.plain f mem
    exact differs (by rw [value, value, here, there])
  have ready := supersedingCard_insertable keyed nonblank oldId now
  have pending : isAccepted (supersedingCard key oldId) = false := by
    simp [isAccepted, Doc.text_of_str ready.lifecycle, acceptedLifecycleStates]
  have safe (v : Json) : referenceLibrary.publicSafe v = .ok () := rfl
  have planned : planOf referenceLibrary (proposeCall oldId key now) db =
      .ok (.propose (supersedingCard key oldId) (proposalResult referenceLibrary)) := by
    simp only [planOf, proposeCall, callAt, supersedePropose, refuseIf, named, if_false, ok_bind, loaded,
      span_.built, scope, persistProposal, guardWritable, openService, Bool.false_eq_true]
    rw [← supersedingCard, ready.plain.valid, pending, safe]
    simp only [ok_bind, Bool.false_eq_true, if_false, pure_eq_ok]
  simp only [step, perform, planned, Plan.execute, transact]
  rw [show (proposeCall oldId key now).now = now from rfl, ready.stored fresh]

/-- A reference card, superseded. -/
def supersededCard (card : Doc) (newId : String) : Doc := card.update [
  (.currentness, .str "superseded"), (.freshness, .str "historical"),
  (.supersededBy, .arr [.str newId])]

theorem supersededCard_get? (card : Doc) (newId : String) {f : Field}
    (apart : f ≠ .currentness ∧ f ≠ .freshness ∧ f ≠ .supersededBy) :
    (supersededCard card newId).get? f = card.get? f := by
  simp [supersededCard, Doc.get?_set, apart]

theorem Plain.superseded {card : Doc} (plain : Plain card) (newId : String) :
    Plain (supersededCard card newId) := by
  have other {f : Field} (apart : f ≠ .currentness ∧ f ≠ .freshness ∧ f ≠ .supersededBy) :=
    supersededCard_get? card newId apart
  refine ⟨fun entry mem => ?_, ?_, ?_, ?_, ?_, ?_, ?_, ?_, ?_, ?_, ?_, ?_, ?_⟩
  · have apart : entry.1 ≠ .currentness ∧ entry.1 ≠ .freshness ∧ entry.1 ≠ .supersededBy := by
      refine ⟨?_, ?_, ?_⟩ <;> intro same <;>
      exact absurd (same ▸ List.mem_map_of_mem (f := Prod.fst) mem) (by simp [fixedFields])
    rw [other apart, plain.fixed entry mem]
  · simpa only [other (show Field.memoryId ≠ _ ∧ _ by simp)] using plain.memoryId
  · simpa only [other (show Field.status ≠ _ ∧ _ by simp)] using plain.status
  · simpa only [other (show Field.judgmentState ≠ _ ∧ _ by simp)] using plain.judgment
  · simpa only [other (show Field.lifecycleState ≠ _ ∧ _ by simp)] using plain.lifecycle
  · simpa only [other (show Field.approvalState ≠ _ ∧ _ by simp)] using plain.approval
  · exact ⟨"historical", by simp [freshnessValues], by simp [supersededCard, Doc.get?_set]⟩
  · exact ⟨"superseded", by simp, by simp [supersededCard, Doc.get?_set]⟩
  · simpa only [other (show Field.supersedes ≠ _ ∧ _ by simp)] using plain.supersedes
  · exact ⟨[.str newId], by simp [supersededCard, Doc.get?_set], by simp⟩
  · simpa only [other (show Field.contentHash ≠ _ ∧ _ by simp)] using plain.contentHash
  · simpa only [other (show Field.authorizationStatus ≠ _ ∧ _ by simp)] using plain.authorization
  · simpa only [other (show Field.observedAt ≠ _ ∧ _ by simp)] using plain.unobserved

/-- The decision to supersede a reference card. -/
def supersedeDecision (key oldId decisionId : String) : Decision :=
  ⟨decisionId, stampedId key "supersede" oldId, .supersede, "operator", "sha256:1", oldId⟩

def commitCall (key oldId decisionId : String) (now : Int) : Call :=
  callAt (.supersedeCommit (stampedId key "supersede" oldId) "operator" decisionId) now

/-- The stored proposal and the stored card it names. -/
structure Supersedable (db : Db) (key oldId : String) (old : Doc) (row : CardRow) (opened now : Int) :
    Prop where
  keyed : strip key ≠ ""
  nonblank : key ≠ ""
  named : oldId ≠ ""
  apart : stampedId key "supersede" oldId ≠ oldId
  approved : ApprovedAt old row opened
  memoryId : row.memoryId = oldId
  found : db.cards.get? oldId = some row
  proposed : db.cards.get? (stampedId key "supersede" oldId) =
    some (insertedRow (supersedingCard key oldId) (stampedId key "supersede" oldId) now none)

section Superseding

variable {db : Db} {key oldId decisionId : String} {old : Doc} {row : CardRow} {opened now : Int}

theorem supersedingCard_fields (key oldId : String) (named : oldId ≠ "") :
    (supersedingCard key oldId).get? .contentHash = some (.str "sha256:1") ∧
      (supersedingCard key oldId).get? .stewardProposalKind = some (.str "supersede") ∧
      (supersedingCard key oldId).get? .stewardTargetMemoryId = some (.str oldId) ∧
      (supersedingCard key oldId).get? .approvalState = some (.str "suggested") := by
  simp [supersedingCard, stampProposal, named, Doc.get?_set, hashedSpan, referenceSpan]

theorem Supersedable.planned (ready : Supersedable db key oldId old row opened now) (c : Int)
    (fresh : db.cardDecisions.get? decisionId = none) :
    ∃ reply, planOf referenceLibrary (commitCall key oldId decisionId c) db =
      .ok (.decision (supersedeDecision key oldId decisionId)
        (supersedeTransform referenceLibrary "operator" decisionId (referenceIsoformat c)) reply) := by
  have insertable := supersedingCard_insertable ready.keyed ready.nonblank oldId now
  obtain ⟨hashed, kind, target, -⟩ := supersedingCard_fields key oldId ready.named
  have loaded : getStewardCard (stampedId key "supersede" oldId) db =
      some (supersedingCard key oldId) := by
    simp [getStewardCard, ready.proposed, insertedRow]
  have loadedOld : getStewardCard oldId db = some old := by
    simp [getStewardCard, ready.found, ready.approved.held]
  have named : targetOf (stampedId key "supersede" oldId) db = oldId := by
    simp [targetOf, loaded, Doc.text_of_str target]
  have undecided : loadDecidedProposal "supersede" ⟨decisionId, stampedId key "supersede" oldId,
      .supersede, "operator", "", oldId⟩ db = .ok none := by
    simp [loadDecidedProposal, loaded, value, kind, loadDecided, getStewardDecision, fresh]
  have proposal : loadProposalOfKind (stampedId key "supersede" oldId) "supersede" db =
      .ok (supersedingCard key oldId) := by
    simp [loadProposalOfKind, loaded, Doc.text_of_str insertable.lifecycle, reviewLifecycleStates,
      refuseIf, Doc.text_of_str kind]
  have current : loadCurrentTarget oldId "supersede" db = .ok old := by
    simp [loadCurrentTarget, loadedOld, isAccepted, Doc.text_of_str ready.approved.lifecycle,
      Doc.text_of_str ready.approved.approval, Doc.text_of_str ready.approved.currentness,
      acceptedLifecycleStates, acceptedApprovalStates, refuseIf]
  have memoryId := ready.approved.memoryId
  rw [ready.memoryId] at memoryId
  have iso : referenceLibrary.isoformat c = referenceIsoformat c := rfl
  simp only [planOf, commitCall, callAt, supersedeCommit, guardReviewCommit, guardRestricted,
    guardWritable, openService, refuseIf, Bool.true_eq_false, Bool.false_eq_true, if_false, ok_bind,
    decideProposal, named, undecided, orDecided, loadProposal, proposal, Doc.text_of_str target, current,
    decisionOn, index, insertable.memoryId, hashed, memoryId, Json.text, pure_eq_ok, iso]
  exact ⟨_, rfl⟩

theorem Supersedable.transformed (ready : Supersedable db key oldId old row opened now)
    (instant : String) :
    supersedeTransform referenceLibrary "operator" decisionId instant (supersedingCard key oldId)
      (some old) = .ok (approvedCard (supersedingCard key oldId) "operator" instant,
        some (supersededCard old (stampedId key "supersede" oldId))) := by
  have insertable := supersedingCard_insertable ready.keyed ready.nonblank oldId now
  obtain ⟨-, -, target, -⟩ := supersedingCard_fields key oldId ready.named
  have memoryId := ready.approved.memoryId
  rw [ready.memoryId] at memoryId
  have pending : requirePending (supersedingCard key oldId) "supersede proposal already committed" =
      .ok () := by
    simp [requirePending, oneOf, insertable.lifecycle, reviewLifecycleStates, refuseIf]
  have fit : ¬ (old.get? .currentness ≠ some (.str "current") ∨ isApproved old = false) := by
    simp [ready.approved.currentness, isApproved, oneOf, ready.approved.approval,
      acceptedApprovalStates]
  have valid := (ready.approved.plain.superseded (stampedId key "supersede" oldId)).valid
  rw [supersededCard] at valid
  have demoted : commitSupersession referenceLibrary old (stampedId key "supersede" oldId) =
      .ok (supersededCard old (stampedId key "supersede" oldId)) := by
    simp only [commitSupersession, ready.approved.plain.valid, refuseIf, stampedId_named, if_false,
      ok_bind, revise, valid, pure_eq_ok, supersededCard]
  have promoted := humanApprove_reference insertable.plain "operator" decisionId instant
  have newId : (approvedCard (supersedingCard key oldId) "operator" instant).get? .memoryId =
      some (.str (stampedId key "supersede" oldId)) := by
    rw [approvedCard_get? _ _ _ (by simp [decidedFields]), insertable.memoryId]
  simp only [supersedeTransform, pending, refuseIf, fit, if_false, index, memoryId, value, target,
    Option.getD_some, ne_eq, not_true_eq_false, promoted, newId, Json.text, demoted, ok_bind,
    pure_eq_ok]

/-- The old card of a supersede can be stored. -/
theorem Supersedable.writableOld (ready : Supersedable db key oldId old row opened now) {c : Int}
    (later : opened ≤ c) :
    rewriteValidity referenceLibrary c (some old)
        (supersededCard old (stampedId key "supersede" oldId)) =
      (supersededCard old (stampedId key "supersede" oldId)).set .validTo
        (.str (referenceIsoformat c)) ∧
    Writable ((supersededCard old (stampedId key "supersede" oldId)).set .validTo
        (.str (referenceIsoformat c))) row oldId := by
  have approved := ready.approved
  have ended : (supersededCard old (stampedId key "supersede" oldId)).get? .currentness =
      some (.str "superseded") := by
    simp [supersededCard, Doc.get?_set]
  have other {f : Field} (apart : f ≠ .currentness ∧ f ≠ .freshness ∧ f ≠ .supersededBy) :=
    supersededCard_get? old (stampedId key "supersede" oldId) apart
  have plain := approved.plain.superseded (stampedId key "supersede" oldId)
  generalize supersededCard old (stampedId key "supersede" oldId) = changed at *
  have kept {f : Field} (apart : f ≠ .validTo) :
      (changed.set .validTo (.str (referenceIsoformat c))).get? f = changed.get? f := by
    rw [Doc.get?_set, if_neg apart]
  have plain' : Plain (changed.set .validTo (.str (referenceIsoformat c))) :=
    plain.set (by simp [Admits, fixedFields])
  refine ⟨?_, ?_, ?_, ⟨"human_accepted", by simp [lifecycleStates], ?_⟩,
    ⟨"superseded", by simp [currentnessValues], ?_⟩, ⟨some opened, some c, ?_, ?_, ?_⟩, approved.fits, ?_⟩
  · simp only [rewriteValidity, oneOf, ended, approved.currentness]
    simp [referenceLibrary]
  · rw [kept (by simp), other (by simp), approved.memoryId, ready.memoryId]
  · rw [kept (by simp), other (by simp), approved.contentHash.1, approved.contentHash.2]
  · rw [kept (by simp), other (by simp), approved.lifecycle]
  · rw [kept (by simp), ended]
  · rw [value, kept (by simp), other (by simp), approved.opened.1, Option.getD_some, sqlTime_reference]
  · rw [value, Doc.get?_set, if_pos rfl, Option.getD_some, sqlTime_reference]
  · simpa using later
  · rw [approved.contentHash.2]
    exact plain'.queued (by rw [kept (by simp), other (by simp), approved.contentHash.1]) ready.named
      (ready.memoryId ▸ approved.fits.1)

/-- The decision is made. -/
theorem Supersedable.decided (ready : Supersedable db key oldId old row opened now) {c : Int}
    (later : opened ≤ c) (named : decisionId ≠ "") (fresh : db.cardDecisions.get? decisionId = none) :
    ∃ outcome db', stewardDecision referenceLibrary false (supersedeDecision key oldId decisionId)
      (supersedeTransform referenceLibrary "operator" decisionId (referenceIsoformat c)) c db =
        .ok (outcome, db') := by
  have insertable := supersedingCard_insertable ready.keyed ready.nonblank oldId now
  obtain ⟨hashed, kind, -, suggested⟩ := supersedingCard_fields key oldId ready.named
  have open_ : (supersedingCard key oldId).get? .validTo = none := by
    rw [supersedingCard_get? (by simp), hashedSpan_open]
  obtain ⟨opens, writable⟩ := insertable.approvable hashed suggested (by simp [kind])
    (by simp [value, open_, sqlTime]) (c := c) (by simp)
  obtain ⟨ends, writableOld⟩ := ready.writableOld later
  have target : (supersedeDecision key oldId decisionId).target? = some oldId := by
    simp [Decision.target?, supersedeDecision, ready.named]
  have scope : requireScope (supersedeDecision key oldId decisionId) (supersedingCard key oldId)
      (some old) = .ok () := by
    have same : ¬ ∃ f ∈ [Field.project, .brainId, .scope],
        (supersedingCard key oldId).value? f = none ∨
          value (supersedingCard key oldId) f ≠ value old f := by
      rintro ⟨f, mem, differs⟩
      obtain ⟨s, nonblank, here, there⟩ := insertable.plain.sameScope ready.approved.plain f mem
      cases differs with
      | inl none => simp [Doc.value?, here, Option.filter, Json.truthy, nonblank] at none
      | inr ne => exact ne (by rw [value, value, here, there])
    simp only [requireScope, supersedeDecision, if_true, requireSameSupersedeScope, refuseIf, same,
      if_false]
  have hash : (insertedRow (supersedingCard key oldId) (stampedId key "supersede" oldId) now
      none).contentHash = "sha256:1" :=
    Doc.text_of_str (supersedingCard_fields key oldId ready.named).1
  have newId : (approvedCard (supersedingCard key oldId) "operator" (referenceIsoformat c)).get?
      .memoryId = some (.str (stampedId key "supersede" oldId)) := by
    rw [approvedCard_get? _ _ _ (by simp [decidedFields]), insertable.memoryId]
  have oldId' : (supersededCard old (stampedId key "supersede" oldId)).get? .memoryId =
      some (.str oldId) := by
    rw [supersededCard_get? _ _ (by simp), ready.approved.memoryId, ready.memoryId]
  exact stewardDecision_pair ⟨named, by simp [supersedeDecision]⟩ fresh ready.proposed rfl hash target
    (Ne.symm ready.apart) ready.found ready.approved.held scope (ready.transformed _) newId oldId'
    (opens ▸ writable) (ends ▸ writableOld)

end Superseding

end Neurons.Steward
