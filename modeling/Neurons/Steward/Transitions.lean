import Neurons.Steward.Effects

/-! # What the transforms make of a card

A pending card is accepted, rejected or (a stale claim) closed; an accepted and
current card is demoted. Nothing else of the envelope that identifies the card or
carries its content changes.
-/

namespace Neurons.Steward

open Neurons.Lib
open Neurons.Source

/-! ## Envelopes before and after -/

/-- The fields no transition touches. -/
def contentFields : List Field :=
  [.memoryId, .project, .brainId, .scope, .cardType, .title, .summary, .typedPayload, .contentHash,
    .stewardProposalKind, .stewardTargetMemoryId]

def SameContent (card changed : Doc) : Prop := ∀ f ∈ contentFields, changed.get? f = card.get? f

/-- A transform leaves the validity window alone; the decision rewrites it. -/
def SameWindow (card changed : Doc) : Prop :=
  changed.get? .validFrom = card.get? .validFrom ∧ changed.get? .validTo = card.get? .validTo

def Pending (card : Doc) : Prop := oneOf card .lifecycleState reviewLifecycleStates = true

/-- The lifecycle states a decision accepts a card into. -/
def decidedLifecycleStates : List String := ["human_accepted", "auto_accepted"]

structure Accepts (card changed : Doc) : Prop where
  pending : Pending card
  content : SameContent card changed
  window : SameWindow card changed
  lifecycle : ∃ state ∈ decidedLifecycleStates, changed.get? .lifecycleState = some (.str state)
  approved : isApproved changed = true
  currentness : changed.get? .currentness = some (.str "current")

structure Rejects (card changed : Doc) : Prop where
  pending : Pending card
  content : SameContent card changed
  window : SameWindow card changed
  lifecycle : changed.get? .lifecycleState = some (.str "human_rejected")
  approved : isApproved changed = false
  currentness : changed.get? .currentness = card.get? .currentness

structure Closes (card changed : Doc) : Prop where
  pending : Pending card
  kind : card.get? .stewardProposalKind = some (.str "stale")
  content : SameContent card changed
  window : SameWindow card changed
  lifecycle : changed.get? .lifecycleState = some (.str "human_accepted")
  approved : isApproved changed = true
  currentness : changed.get? .currentness = card.get? .currentness

structure Demotes (card changed : Doc) (currentness : String) : Prop where
  approved : isApproved card = true
  current : card.get? .currentness = some (.str "current")
  content : SameContent card changed
  window : SameWindow card changed
  lifecycle : changed.get? .lifecycleState = card.get? .lifecycleState
  approval : changed.get? .approvalState = card.get? .approvalState
  currentness : changed.get? .currentness = some (.str currentness)

/-- What a decision does to one card. -/
inductive ChangeKind where
  | accepted | rejected | closed | demoted (currentness : String)
  deriving DecidableEq, Repr

/-- What an action does to the card it decides. -/
def Action.kind : Action → ChangeKind
  | .approve | .autoAccept | .supersede => .accepted
  | .reject => .rejected
  | .stale => .closed

/-! ## The transforms -/

section Transforms

variable {lib : Library}

theorem oneOf_congr {d e : Doc} {f : Field} (same : d.get? f = e.get? f) (allowed : List String) :
    oneOf d f allowed = oneOf e f allowed := by
  simp only [oneOf, same]

theorem oneOf_eq_true_iff {d : Doc} {f : Field} {allowed : List String} :
    oneOf d f allowed = true ↔ ∃ s ∈ allowed, d.get? f = some (.str s) := by
  unfold oneOf
  split <;> simp_all

theorem revise_eq_ok {card changed : Doc} {changes : List (Field × Json)}
    (done : revise lib card changes = .ok changed) : changed = card.update changes := by
  unfold revise at done
  simp only [bind_eq_ok, pure_eq_ok, Except.ok.injEq] at done
  obtain ⟨⟨⟩, -, ⟨⟩, -, same⟩ := done
  exact same.symm

/-- An update of other fields keeps the content of a card. -/
theorem SameContent.update {card : Doc} {changes : List (Field × Json)}
    (outside : ∀ f ∈ contentFields, ∀ v, (f, v) ∉ changes) :
    SameContent card (card.update changes) := by
  induction changes generalizing card with
  | nil => exact fun f _ => rfl
  | cons change rest ih =>
      obtain ⟨g, v⟩ := change
      intro f mem
      have ne : f ≠ g := by
        rintro rfl
        exact outside f mem v (by simp)
      rw [Doc.update_cons, ih (fun f mem v inRest => outside f mem v (by simp [inRest])) f mem,
        Doc.get?_set, if_neg ne]

theorem Accepts.of_human {card changed : Doc} {approvedBy decisionId now : String}
    {reason : Option String} (pending : Pending card)
    (done : humanApproveMemoryCardCandidate lib card approvedBy decisionId reason now = .ok changed) :
    Accepts card changed := by
  unfold humanApproveMemoryCardCandidate at done
  simp only [bind_eq_ok, pure_eq_ok, Except.ok.injEq] at done
  obtain ⟨_, revised, ⟨⟩, -, rfl⟩ := done
  rw [revise_eq_ok revised]
  refine ⟨pending, SameContent.update (by simp [contentFields]), ?_,
    ⟨"human_accepted", by simp [decidedLifecycleStates], ?_⟩, ?_, ?_⟩ <;>
  simp [SameWindow, isApproved, oneOf, acceptedApprovalStates, Doc.get?_set]

theorem Rejects.of_human {card changed : Doc} {rejectedBy decisionId reason now : String}
    (pending : Pending card)
    (done : humanRejectMemoryCardCandidate lib card rejectedBy decisionId reason now = .ok changed) :
    Rejects card changed := by
  unfold humanRejectMemoryCardCandidate at done
  simp only [bind_eq_ok, pure_eq_ok, Except.ok.injEq] at done
  obtain ⟨_, revised, ⟨⟩, -, rfl⟩ := done
  rw [revise_eq_ok revised]
  refine ⟨pending, SameContent.update (by simp [contentFields]), ?_, ?_, ?_, ?_⟩ <;>
  simp [SameWindow, isApproved, oneOf, acceptedApprovalStates, Doc.get?_set]

theorem Accepts.of_autoAccept {card changed evaluation : Doc} {operatorApprovalRef : String}
    (pending : Pending card)
    (done : autoAccept lib card evaluation operatorApprovalRef = .ok changed) :
    Accepts card changed := by
  unfold autoAccept at done
  split at done
  · cases done
  · split at done
    · cases done
    · rw [revise_eq_ok done]
      refine ⟨pending, SameContent.update (by simp [contentFields]), ?_,
        ⟨"auto_accepted", by simp [decidedLifecycleStates], ?_⟩, ?_, ?_⟩ <;>
      simp [SameWindow, isApproved, oneOf, acceptedApprovalStates, Doc.get?_set]

theorem Accepts.of_auto {card changed evaluation : Doc} {operatorApprovalRef : String}
    (pending : Pending card)
    (done : applyAutoAcceptancePlan lib card evaluation operatorApprovalRef = .ok (some changed)) :
    Accepts card changed := by
  unfold applyAutoAcceptancePlan at done
  obtain ⟨operations, -, done⟩ := bind_eq_ok.mp done
  split at done
  · cases done
  · obtain ⟨⟨⟩, -, done⟩ := bind_eq_ok.mp done
    split at done
    · cases done
    · simp only [bind_eq_ok, pure_eq_ok, Except.ok.injEq, Option.some.injEq] at done
      obtain ⟨_, accepted, rfl⟩ := done
      exact Accepts.of_autoAccept pending accepted

theorem Accepts.of_autopilot {card changed : Doc} {decisionId : String} (pending : Pending card)
    (done : autopilotAccept lib card decisionId = .ok changed) : Accepts card changed := by
  rw [revise_eq_ok done]
  refine ⟨pending, SameContent.update (by simp [contentFields]), ?_,
    ⟨"auto_accepted", by simp [decidedLifecycleStates], ?_⟩, ?_, ?_⟩ <;>
  simp [SameWindow, isApproved, oneOf, acceptedApprovalStates, Doc.get?_set]

theorem Demotes.of_supersession {card changed : Doc} {supersededBy : String}
    (approved : isApproved card = true) (current : card.get? .currentness = some (.str "current"))
    (done : commitSupersession lib card supersededBy = .ok changed) :
    Demotes card changed "superseded" := by
  unfold commitSupersession at done
  simp only [bind_eq_ok] at done
  obtain ⟨⟨⟩, -, ⟨⟩, -, revised⟩ := done
  rw [revise_eq_ok revised]
  refine ⟨approved, current, SameContent.update (by simp [contentFields]), ?_, ?_, ?_, ?_⟩ <;>
  simp [SameWindow, Doc.get?_set]

theorem Demotes.of_stale {card changed : Doc}
    (approved : isApproved card = true) (current : card.get? .currentness = some (.str "current"))
    (done : commitStale lib card = .ok changed) : Demotes card changed "stale" := by
  rw [revise_eq_ok done]
  refine ⟨approved, current, SameContent.update (by simp [contentFields]), ?_, ?_, ?_, ?_⟩ <;>
  simp [SameWindow, Doc.get?_set]

theorem Closes.of_close {card : Doc} {approvedBy committedAt : String} (pending : Pending card)
    (kind : card.get? .stewardProposalKind = some (.str "stale")) :
    Closes card (closeStaleProposal card approvedBy committedAt) := by
  refine ⟨pending, kind, SameContent.update (by simp [contentFields]), ?_, ?_, ?_, ?_⟩ <;>
  simp [closeStaleProposal, SameWindow, isApproved, oneOf, acceptedApprovalStates, Doc.get?_set]

theorem requirePending_eq_ok {card : Doc} {message : String} {u : Unit} :
    requirePending card message = .ok u ↔ Pending card := by
  simp [requirePending, Pending]

/-- What the transforms of the service do to a card and its target. -/
inductive Lawful (card : Doc) (target : Option Doc) (changed : Doc) : Action → Option Doc → Prop
  | approve (accepts : Accepts card changed) : Lawful card target changed .approve none
  | autoAccept (accepts : Accepts card changed) : Lawful card target changed .autoAccept none
  | reject (rejects : Rejects card changed) : Lawful card target changed .reject none
  | supersede (old new : Doc) (isTarget : target = some old) (accepts : Accepts card changed)
      (demotes : Demotes old new "superseded") : Lawful card target changed .supersede (some new)
  | stale (old new : Doc) (isTarget : target = some old) (closes : Closes card changed)
      (demotes : Demotes old new "stale") : Lawful card target changed .stale (some new)

variable {card changed : Doc} {target changedTarget : Option Doc}

theorem approveTransform_lawful {approvedBy decisionId now : String}
    (done : approveTransform lib approvedBy decisionId now card target = .ok (changed, changedTarget)) :
    Lawful card target changed .approve changedTarget := by
  simp only [approveTransform, bind_eq_ok, requirePending_eq_ok, pure_eq_ok, Except.ok.injEq,
    Prod.mk.injEq] at done
  obtain ⟨⟨⟩, pending, ⟨⟩, -, _, accepted, rfl, rfl⟩ := done
  exact .approve (Accepts.of_human pending accepted)

theorem rejectTransform_lawful {rejectedBy decisionId reason now : String}
    (done : rejectTransform lib rejectedBy decisionId reason now card target =
      .ok (changed, changedTarget)) : Lawful card target changed .reject changedTarget := by
  simp only [rejectTransform, bind_eq_ok, requirePending_eq_ok, pure_eq_ok, Except.ok.injEq,
    Prod.mk.injEq] at done
  obtain ⟨⟨⟩, pending, _, rejected, rfl, rfl⟩ := done
  exact .reject (Rejects.of_human pending rejected)

theorem autoAcceptTransform_lawful {evaluation : Doc} {operatorApprovalRef : String}
    (done : autoAcceptTransform lib evaluation operatorApprovalRef card target =
      .ok (changed, changedTarget)) : Lawful card target changed .autoAccept changedTarget := by
  simp only [autoAcceptTransform, bind_eq_ok, requirePending_eq_ok] at done
  obtain ⟨⟨⟩, pending, plan, planned, done⟩ := done
  cases plan with
  | none => cases done
  | some accepted =>
      cases done
      exact .autoAccept (Accepts.of_auto pending planned)

theorem autopilotTransform_lawful {decisionId : String}
    (done : autopilotTransform lib decisionId card target = .ok (changed, changedTarget)) :
    Lawful card target changed .autoAccept changedTarget := by
  simp only [autopilotTransform, bind_eq_ok, requirePending_eq_ok, pure_eq_ok, Except.ok.injEq,
    Prod.mk.injEq] at done
  obtain ⟨⟨⟩, pending, ⟨⟩, -, _, accepted, rfl, rfl⟩ := done
  exact .autoAccept (Accepts.of_autopilot pending accepted)

theorem supersedeTransform_lawful {approvedBy decisionId now : String}
    (done : supersedeTransform lib approvedBy decisionId now card target =
      .ok (changed, changedTarget)) : Lawful card target changed .supersede changedTarget := by
  simp only [supersedeTransform, bind_eq_ok, requirePending_eq_ok] at done
  obtain ⟨⟨⟩, pending, done⟩ := done
  cases target with
  | none => cases done
  | some old =>
      simp only [bind_eq_ok, refuseIf_eq_ok, not_or, not_not, Bool.not_eq_false, pure_eq_ok,
        Except.ok.injEq, Prod.mk.injEq] at done
      obtain ⟨⟨⟩, ⟨current, approved⟩, _, -, ⟨⟩, -, _, promoted, _, -, _, demoted, rfl, rfl⟩ := done
      exact .supersede old _ rfl (Accepts.of_human pending promoted)
        (Demotes.of_supersession approved current demoted)

/-- Texts that start with a lower-case letter are only read from text fields. -/
theorem oneOf_of_text {d : Doc} {f : Field} {allowed : List String}
    (lower : ∀ s ∈ allowed, ∃ c rest, s.toList = c :: rest ∧ c.isLower = true)
    (mem : d.text f ∈ allowed) : oneOf d f allowed = true := by
  obtain ⟨c, rest, shape, low⟩ := lower _ mem
  exact oneOf_eq_true_iff.mpr ⟨_, mem, (Doc.text_eq_iff shape low).mp rfl⟩

/-- An accepted card has an approving state. -/
theorem isApproved_of_isAccepted {card : Doc} (accepted : isAccepted card = true) :
    isApproved card = true := by
  simp only [isAccepted, decide_eq_true_eq] at accepted
  exact oneOf_of_text (by
    intro s mem
    simp only [acceptedApprovalStates, List.mem_cons, List.not_mem_nil, or_false] at mem
    rcases mem with rfl | rfl <;> exact ⟨_, _, rfl, by decide⟩) accepted.2

theorem staleTransform_lawful {approvedBy committedAt : String}
    (done : staleTransform lib approvedBy committedAt card target = .ok (changed, changedTarget)) :
    Lawful card target changed .stale changedTarget := by
  simp only [staleTransform, bind_eq_ok, refuseIf_eq_ok, not_or, not_not, Bool.not_eq_false] at done
  obtain ⟨⟨⟩, ⟨kind, pending⟩, done⟩ := done
  cases target with
  | none => cases done
  | some old =>
      simp only [bind_eq_ok, refuseIf_eq_ok, not_or, not_not, Bool.not_eq_false, pure_eq_ok,
        Except.ok.injEq, Prod.mk.injEq] at done
      obtain ⟨⟨⟩, ⟨accepted, current⟩, _, demoted, rfl, rfl⟩ := done
      exact .stale old _ rfl (Closes.of_close pending kind)
        (Demotes.of_stale (isApproved_of_isAccepted accepted) current demoted)

/-- The fields a bundle adds to the card of a member. -/
theorem Accepts.amended {decisionId status : String} (accepts : Accepts card changed) :
    Accepts card (changed.update [(.bundleDecisionId, .str decisionId),
      (.authorizationStatus, .str status)]) := by
  obtain ⟨pending, content, window, ⟨state, mem, lifecycle⟩, approved, currentness⟩ := accepts
  refine ⟨pending, ?_, ?_, ⟨state, mem, ?_⟩, ?_, ?_⟩
  · intro f mem
    rw [SameContent.update (by simp [contentFields]) f mem, content f mem]
  · simpa [SameWindow, Doc.get?_set] using window
  · simpa [Doc.get?_set] using lifecycle
  · rw [← approved, isApproved]
    exact oneOf_congr (by simp [Doc.get?_set]) _
  · simpa [Doc.get?_set] using currentness

theorem Rejects.amended {reason decisionId status : String} (rejects : Rejects card changed) :
    Rejects card ((changed.set .rejectionReason (.str reason)).update
      [(.bundleDecisionId, .str decisionId), (.authorizationStatus, .str status)]) := by
  obtain ⟨pending, content, window, lifecycle, approved, currentness⟩ := rejects
  rw [← Doc.update_cons]
  refine ⟨pending, ?_, ?_, ?_, ?_, ?_⟩
  · intro f mem
    rw [SameContent.update (by simp [contentFields]) f mem, content f mem]
  · simpa [SameWindow, Doc.get?_set] using window
  · simpa [Doc.get?_set] using lifecycle
  · rw [← approved, isApproved]
    exact oneOf_congr (by simp [Doc.get?_set]) _
  · simpa [Doc.get?_set] using currentness

/-- A planned member is accepted or rejected. -/
theorem memberChange_lawful {c : BundleCommit} {approve : Bool} {child now : String}
    (pending : Pending card) (done : memberChange lib c approve card child now = .ok changed) :
    Lawful card target changed (if approve then .approve else .reject) none := by
  simp only [memberChange, bind_eq_ok, pure_eq_ok, Except.ok.injEq] at done
  obtain ⟨⟨⟩, -, ⟨⟩, -, verdict, decided, ⟨⟩, -, ⟨⟩, -, rfl⟩ := done
  cases approve with
  | true =>
      simp only [memberVerdict, if_true, bind_eq_ok] at decided
      obtain ⟨⟨⟩, -, accepted⟩ := decided
      exact .approve (Accepts.of_human pending accepted).amended
  | false =>
      simp only [memberVerdict, Bool.false_eq_true, if_false, bind_eq_ok, pure_eq_ok,
        Except.ok.injEq] at decided
      obtain ⟨_, rejected, rfl⟩ := decided
      exact .reject (Rejects.of_human pending rejected).amended

end Transforms

end Neurons.Steward
