import Neurons.Steward.Store

/-! # The steward service

The operations of `brain_steward.py` and `llm_brain_service.py` over the steward
tables. An operation reads the tables, settles on at most one transaction, and
answers with the public form of what it stored. The answer is checked after the
transaction, so an operation can raise and still have written.
-/

namespace Neurons.Steward

open Neurons.Lib
open Neurons.Source

/-- The gates of a service. -/
structure Service where
  allowReviewCommit : Bool
  allowAutoAccept : Bool
  readOnly : Bool
  deriving DecidableEq, Repr

/-- The answer of an operation: the cards whose public form it shows. -/
structure Reply where
  canonicalWritePerformed : Bool
  cards : List Doc
  deriving DecidableEq

/-- What an operation settles on after its reads. -/
inductive Plan where
  | answer (reply : Reply)
  | propose (envelope : Doc) (reply : Doc → Except PyError Reply)
  | decision (d : Decision) (transform : Transform) (reply : Outcome → Except PyError Reply)
  | bundle (b : BundleRequest) (callback : Db → Except PyError BundlePlan)

/-! ## Guards and reads -/

section Reads

variable (svc : Service)

def guardRestricted (allowed : Bool) (toolName capability : String) : Except PyError Unit :=
  refuseIf (allowed = false) (.permissionError
    (toolName ++ " is restricted (" ++ capability ++ ") and requires a human/manual gate"))

def guardReviewCommit (toolName : String) : Except PyError Unit :=
  guardRestricted svc.allowReviewCommit toolName "review_commit"

def guardAutoAccept (toolName : String) : Except PyError Unit :=
  guardRestricted svc.allowAutoAccept toolName "auto_accept"

def guardWritable : Except PyError Unit :=
  refuseIf svc.readOnly (.valueError "brain steward writes require a writable transport")

def isAccepted (card : Doc) : Bool :=
  card.text .lifecycleState ∈ acceptedLifecycleStates ∧
    card.text .approvalState ∈ acceptedApprovalStates

/-- The decided card of an earlier commit of the same decision. -/
def loadDecided (d : Decision) (db : Db) : Except PyError (Option Doc) :=
  let conflicting := PyError.valueError "conflicting steward decision id"
  match getStewardDecision d.decisionId db with
  | none => .ok none
  | some record =>
      match record.resultCard with
      | none => .error conflicting
      | some decided => do
          refuseIf (record.memoryId ≠ d.memoryId ∨
            value decided .contentHash ≠ .str record.contentHash ∨ record.action ≠ d.action ∨
            record.actor ≠ d.actor ∨ record.targetMemoryId.getD "" ≠ d.targetMemoryId) conflicting
          return some decided

def loadPendingCandidate (memoryId : String) (db : Db) : Except PyError Doc := do
  match getStewardCard memoryId db with
  | none => .error (.valueError "unknown candidate memory card")
  | some card => do
      refuseIf (card.text .lifecycleState ∉ reviewLifecycleStates)
        (.valueError "only pending review-queue candidates are eligible")
      let kind := textOr card .stewardProposalKind "candidate"
      refuseIf (kind ∈ ["stale", "supersede"])
        (.valueError (kind ++ " proposal is not an approvable candidate"))
      return card

def loadProposalOfKind (memoryId kind : String) (db : Db) : Except PyError Doc := do
  match getStewardCard memoryId db with
  | none => .error (.valueError "unknown proposal memory card")
  | some card => do
      refuseIf (card.text .lifecycleState ∉ reviewLifecycleStates)
        (.valueError "only pending review-queue proposals can be committed")
      refuseIf (card.text .stewardProposalKind ≠ kind)
        (.valueError ("proposal is not a " ++ kind ++ " proposal"))
      return card

def loadCurrentTarget (memoryId what : String) (db : Db) : Except PyError Doc := do
  match getStewardCard memoryId db with
  | none => .error (.valueError ("unknown " ++ what ++ " target memory card"))
  | some target => do
      refuseIf (isAccepted target = false ∨ target.text .currentness ≠ "current")
        (.valueError (what ++ " commit target is not an accepted+current card"))
      return target

/-- A load that fails because the same decision has meanwhile committed answers
    with that decision. -/
def orDecided {α : Type} (load : Except PyError α) (decided : Except PyError (Option Doc))
    (answer : Doc → Except PyError Plan) (go : α → Except PyError Plan) : Except PyError Plan :=
  match load with
  | .ok loaded => go loaded
  | .error e =>
      if e.isA .valueError then do
        match ← decided with
        | none => .error e
        | some card => answer card
      else .error e

end Reads

/-! ## Transforms -/

section Transforms

variable (lib : Library)

def requirePending (card : Doc) (message : String) : Except PyError Unit :=
  refuseIf (oneOf card .lifecycleState reviewLifecycleStates = false) (.valueError message)

def requireUnblocked (card : Doc) (what : String) : Except PyError Unit :=
  let reason := classifyCandidateBlockReason card
  refuseIf (reason ≠ "") (.valueError ("candidate blocked from " ++ what ++ ": " ++ reason))

def approveTransform (approvedBy decisionId now : String) : Transform := fun current _ => do
  requirePending current "only pending steward candidate may be approved"
  requireUnblocked current "approval"
  let accepted ← humanApproveMemoryCardCandidate lib current approvedBy decisionId none now
  return (accepted, none)

def rejectTransform (rejectedBy decisionId reason now : String) : Transform := fun current _ => do
  requirePending current "only pending steward candidates may be rejected"
  let rejected ← humanRejectMemoryCardCandidate lib current rejectedBy decisionId reason now
  return (rejected, none)

def autoAcceptTransform (evaluation : Doc) (operatorApprovalRef : String) : Transform :=
  fun current _ => do
    requirePending current "only pending steward candidate may be auto-accepted"
    match ← applyAutoAcceptancePlan lib current evaluation operatorApprovalRef with
    | none => .error (.valueError "steward auto acceptance no longer eligible")
    | some accepted => return (accepted, none)

def autopilotTransform (decisionId : String) : Transform := fun current _ => do
  requirePending current "only pending steward candidate may be auto-accepted"
  requireUnblocked current "auto-accept"
  let accepted ← autopilotAccept lib current decisionId
  return (accepted, none)

def supersedeTransform (approvedBy decisionId now : String) : Transform := fun current old => do
  requirePending current "supersede proposal already committed"
  let unfit := PyError.valueError "supersede target is not accepted and current"
  match old with
  | none => .error unfit
  | some old => do
      refuseIf (old.get? .currentness ≠ some (.str "current") ∨ isApproved old = false) unfit
      refuseIf (value current .stewardTargetMemoryId ≠ (← index old .memoryId))
        (.valueError "supersede target mismatch")
      let promoted ← humanApproveMemoryCardCandidate lib current approvedBy decisionId none now
      let demoted ← commitSupersession lib old (← index promoted .memoryId).text
      return (promoted, some demoted)

def staleTransform (approvedBy committedAt : String) : Transform := fun current old => do
  refuseIf (current.get? .stewardProposalKind ≠ some (.str "stale") ∨
      oneOf current .lifecycleState reviewLifecycleStates = false)
    (.valueError "stale proposal already committed")
  let unfit := PyError.valueError "stale target is not accepted and current"
  match old with
  | none => .error unfit
  | some old => do
      refuseIf (isAccepted old = false ∨ old.get? .currentness ≠ some (.str "current")) unfit
      let demoted ← commitStale lib old
      return (closeStaleProposal current approvedBy committedAt, some demoted)

end Transforms

/-! ## Operations -/

section Operations

variable (lib : Library) (svc : Service)

/-- The restricted answer: the public forms of the cards, screened. -/
def safeRestrictedResult (cards : List Doc) : Except PyError Reply := do
  cards.forM (fun card => lib.publicSafe (lib.authorityItem card))
  return ⟨true, cards⟩

/-- The answer to a proposal: the review item of the stored card, screened. -/
def proposalResult (card : Doc) : Except PyError Reply := do
  lib.publicSafe (lib.reviewItem card)
  return ⟨false, [card]⟩

/-- The last gates of a proposal before it is stored. -/
def persistProposal (card : Doc) : Except PyError Plan := do
  guardWritable svc
  validateMemoryCardEnvelope lib card
  refuseIf (isAccepted card)
    (.valueError "steward proposal must not be in an accepted lifecycle state")
  lib.publicSafe (lib.reviewItem card)
  return .propose card (proposalResult lib)

def candidateCreate (sourceSpan : Doc) (refreshWatermark : String) (markNeedsReview : Bool)
    (reviewReason decisionId proposer : String) : Except PyError Plan := do
  let card ← buildCandidate lib sourceSpan refreshWatermark "steward_candidate"
  if markNeedsReview then
    let reason := if reviewReason = "" then "steward marked candidate for human review"
      else reviewReason
    let reviewed ← markCandidateNeedsReview lib card reason decisionId
    persistProposal lib svc (stampProposal lib reviewed "needs_review" "" proposer)
  else persistProposal lib svc (stampProposal lib card "candidate" "" proposer)

def staleMark (memoryId reason proposer now : String) (db : Db) : Except PyError Plan := do
  refuseIf (memoryId = "") (.valueError "stale mark requires a memory_id")
  refuseIf (strip reason = "") (.valueError "stale mark requires a reason")
  match getStewardCard memoryId db with
  | none => .error (.valueError "unknown target memory card")
  | some target => do
      let proposal ← buildStaleProposalCard lib target reason now
      let provider := lib.canonicalizeProvider proposer
      persistProposal lib svc (proposal.update [
        (.memoryId, .str (stewardProposalPrefix ++
          sha16 lib [memoryId, "stale", sha16 lib [reason]])),
        (.contentHash, .str (sha256Hash lib.py
          (.text (memoryId ++ "|stale|" ++ proposal.text .summary)))),
        (.stewardProposalKind, .str "stale"),
        (.authorizationStatus, .str "disabled"),
        (.stewardTargetMemoryId, .str memoryId),
        (.stewardProposedBy, .str (if provider = "" then "unspecified" else provider))])

def supersedePropose (oldMemoryId : String) (sourceSpan : Doc) (refreshWatermark proposer : String)
    (db : Db) : Except PyError Plan := do
  refuseIf (oldMemoryId = "") (.valueError "supersede proposal requires an old_memory_id")
  match getStewardCard oldMemoryId db with
  | none => .error (.valueError "unknown target memory card")
  | some old => do
      let card ← buildCandidate lib sourceSpan refreshWatermark "steward_supersede"
      refuseIf (∃ f ∈ [Field.project, .brainId, .scope], value card f ≠ value old f)
        (.valueError "supersede requires matching project, brain_id, and scope")
      persistProposal lib svc (stampProposal lib (card.set .supersedes (.arr [.str oldMemoryId]))
        "supersede" oldMemoryId proposer)

/-- The decision on a loaded card. -/
def decisionOn (card : Doc) (decisionId : String) (action : Action) (actor targetMemoryId : String) :
    Except PyError Decision := do
  return ⟨decisionId, (← index card .memoryId).text, action, actor,
    (← index card .contentHash).text, targetMemoryId⟩

/-- The decided card of an earlier commit, as an answer. -/
def answerDecided (decided : Doc) : Except PyError Plan := do
  return .answer (← safeRestrictedResult lib [decided])

/-- A single-card decision: a retry answers with its first result, a pending
    candidate is decided. -/
def decideCandidate (d : Decision) (go : Doc → Except PyError Plan) (db : Db) :
    Except PyError Plan := do
  match ← loadDecided d db with
  | some decided => answerDecided lib decided
  | none => orDecided (loadPendingCandidate d.memoryId db) (loadDecided d db) (answerDecided lib) go

def candidateApprove (candidateMemoryId approvedBy decisionId now : String) (db : Db) :
    Except PyError Plan := do
  guardReviewCommit svc "memory_candidate_approve"
  guardWritable svc
  decideCandidate lib ⟨decisionId, candidateMemoryId, .approve, approvedBy, "", ""⟩
    (fun candidate => do
      let d ← decisionOn candidate decisionId .approve approvedBy ""
      return .decision d (approveTransform lib approvedBy decisionId now)
        (fun changed => safeRestrictedResult lib [changed.card])) db

def candidateReject (candidateMemoryId rejectedBy decisionId reason now : String) (db : Db) :
    Except PyError Plan := do
  guardReviewCommit svc "memory_candidate_reject"
  guardWritable svc
  decideCandidate lib ⟨decisionId, candidateMemoryId, .reject, rejectedBy, "", ""⟩
    (fun candidate => do
      refuseIf (strip reason = "") (.valueError "rejection reason required")
      let contentHash ← index candidate .contentHash
      return .decision ⟨decisionId, candidateMemoryId, .reject, rejectedBy, contentHash.text, ""⟩
        (rejectTransform lib rejectedBy decisionId reason now)
        (fun changed => safeRestrictedResult lib [changed.card])) db

def candidateAutoAccept (candidateMemoryId : String) (evaluation : Doc)
    (operatorApprovalRef : String) (db : Db) : Except PyError Plan := do
  guardAutoAccept svc "memory_candidate_auto_accept"
  guardWritable svc
  decideCandidate lib
    ⟨operatorApprovalRef, candidateMemoryId, .autoAccept, operatorApprovalRef, "", ""⟩
    (fun candidate => do
      match ← applyAutoAcceptancePlan lib candidate evaluation operatorApprovalRef with
      | none => return .answer ⟨false, []⟩
      | some _ => do
          let d ← decisionOn candidate operatorApprovalRef .autoAccept operatorApprovalRef ""
          return .decision d (autoAcceptTransform lib evaluation operatorApprovalRef)
            (fun changed => safeRestrictedResult lib [changed.card])) db

def candidateAutopilotAccept (candidateMemoryId decisionId actor : String) (db : Db) :
    Except PyError Plan := do
  guardAutoAccept svc "memory_candidate_autopilot_accept"
  guardWritable svc
  decideCandidate lib ⟨decisionId, candidateMemoryId, .autoAccept, actor, "", ""⟩
    (fun candidate => do
      if classifyCandidateBlockReason candidate ≠ "" then return .answer ⟨false, []⟩
      else
        let contentHash ← index candidate .contentHash
        return .decision ⟨decisionId, candidateMemoryId, .autoAccept, actor, contentHash.text, ""⟩
          (autopilotTransform lib decisionId)
          (fun changed => safeRestrictedResult lib [changed.card])) db

/-- The target a stored proposal names. -/
def targetOf (proposalMemoryId : String) (db : Db) : String :=
  ((getStewardCard proposalMemoryId db).getD ∅).text .stewardTargetMemoryId

/-- The decided card of an earlier commit, looked up only for a proposal of the kind. -/
def loadDecidedProposal (kind : String) (d : Decision) (db : Db) : Except PyError (Option Doc) :=
  if value ((getStewardCard d.memoryId db).getD ∅) .stewardProposalKind = .str kind then
    loadDecided d db
  else .ok none

/-- A pending proposal of the kind and the current card it names. -/
def loadProposal (proposalMemoryId kind : String) (db : Db) : Except PyError (Doc × Doc) := do
  let proposal ← loadProposalOfKind proposalMemoryId kind db
  let target ← loadCurrentTarget (proposal.text .stewardTargetMemoryId) kind db
  return (proposal, target)

/-- A decision on a proposal and the card it names: a retry answers with its first
    result, a pending proposal of the kind is decided. -/
def decideProposal (proposalMemoryId kind : String) (action : Action) (actor decisionId : String)
    (again : Doc → Option Doc → Except PyError Reply) (go : Doc → Doc → Except PyError Plan)
    (db : Db) : Except PyError Plan := do
  let d : Decision := ⟨decisionId, proposalMemoryId, action, actor, "", targetOf proposalMemoryId db⟩
  let answer (decided : Doc) : Except PyError Plan := do
    return .answer (← again decided ((getStewardDecision decisionId db).bind (·.resultTarget)))
  match ← loadDecidedProposal kind d db with
  | some decided => answer decided
  | none =>
      orDecided (loadProposal proposalMemoryId kind db) (loadDecided d db) answer
        (fun loaded => go loaded.1 loaded.2)

def supersedeCommit (proposalMemoryId approvedBy decisionId now : String) (db : Db) :
    Except PyError Plan := do
  guardReviewCommit svc "memory_supersede_commit"
  guardWritable svc
  decideProposal proposalMemoryId "supersede" .supersede approvedBy decisionId
    (fun decided target => safeRestrictedResult lib (decided :: target.toList))
    (fun proposal old => do
      let d ← decisionOn proposal decisionId .supersede approvedBy (← index old .memoryId).text
      return .decision d (supersedeTransform lib approvedBy decisionId now)
        (fun changed => safeRestrictedResult lib (changed.card :: changed.target.toList))) db

def staleCommit (proposalMemoryId approvedBy decisionId now : String) (db : Db) :
    Except PyError Plan := do
  guardReviewCommit svc "memory_stale_commit"
  guardWritable svc
  decideProposal proposalMemoryId "stale" .stale approvedBy decisionId
    (fun decided target => do
      lib.publicSafe (lib.authorityItem (target.getD ∅))
      lib.publicSafe (lib.reviewItem decided)
      return ⟨true, decided :: target.toList⟩)
    (fun proposal _ => do
      let contentHash ← index proposal .contentHash
      return .decision ⟨decisionId, proposalMemoryId, .stale, approvedBy, contentHash.text,
          proposal.text .stewardTargetMemoryId⟩
        (staleTransform lib approvedBy now)
        (fun changed => .ok ⟨true, changed.card :: changed.target.toList⟩)) db

end Operations

end Neurons.Steward
