import Neurons.Steward.Service

/-! # Review bundles

A human decides an exact set of pending candidates at once (`review_bundle.py`).
The request carries a token signed when the set was read. Inside the transaction
the state is read again, compared with the token, and every member is checked and
transformed before the first write.
-/

namespace Neurons.Steward

open Neurons.Lib
open Neurons.Source

section ReviewBundle

variable (lib : Library)

def bundleVersion : String := "brain_steward_review_bundle.v1"

def digest (v : Json) : String := sha256Hash lib.py (.json v)

/-! ## The state of a bundle -/

/-- A member or current card: its envelope and its row. -/
structure Record where
  card : Doc
  row : CardRow

def timeJson (t : Option Int) : Json := (t.map (fun t => Json.str (lib.isoformat t))).getD .null

/-- The columns of a record. -/
def Record.sql (r : Record) : Doc :=
  Doc.ofFields [
    (.memoryId, .str r.row.memoryId), (.project, .str r.row.project),
    (.cardType, .str r.row.cardType), (.title, .str r.row.title), (.summary, .str r.row.summary),
    (.typedPayload, r.row.typedPayload), (.lifecycleState, .str r.row.lifecycleState),
    (.authorizationStatus, .str r.row.authorizationStatus),
    (.currentness, .str r.row.currentness), (.confidence, r.row.confidence),
    (.validFrom, timeJson lib (some r.row.validFrom)), (.validTo, timeJson lib r.row.validTo),
    (.contentHash, .str r.row.contentHash), (.sourceRef, .arr r.row.sourceRef)]

def Record.json (r : Record) : Json :=
  (Doc.ofFields [(.card, r.card.json), (.sql, (r.sql lib).json)]).json

structure BundleState where
  members : List Record
  current : List Record

def BundleState.json (state : BundleState) : Json :=
  (Doc.ofFields [(.members, .arr (state.members.map (Record.json lib))),
    (.current, .arr (state.current.map (Record.json lib)))]).json

def isCurrentRow (row : CardRow) : Bool :=
  row.lifecycleState ∈ acceptedLifecycleStates ∧ row.currentness = "current"

/-- The rows of a bundle read: the members, and every accepted current card of the scope. -/
def inBundle (project brainId scope : String) (ids : List String) (row : CardRow) : Bool :=
  row.memoryId ∈ ids ∨
    row.project = project ∧ isCurrentRow row ∧
      ∃ card ∈ row.stewardEnvelope, card.text .brainId = brainId ∧ card.text .scope = scope

/-- `(card.project, card.brain_id, card.scope)` is the scope of the bundle. -/
def sameScope (project brainId scope : String) (card : Doc) : Prop :=
  card.get? .project = some (.str project) ∧ card.get? .brainId = some (.str brainId) ∧
    card.get? .scope = some (.str scope)

instance (project brainId scope : String) (card : Doc) :
    Decidable (sameScope project brainId scope card) := by
  unfold sameScope
  infer_instance

def bundleRecord (project brainId scope : String) (row : CardRow) : Except PyError Record := do
  let mismatch := PyError.valueError "unknown steward member or envelope identity mismatch"
  match row.stewardEnvelope with
  | none => .error mismatch
  | some card => do
      refuseIf (card.get? .memoryId ≠ some (.str row.memoryId)) mismatch
      refuseIf (row.project ≠ project ∨ ¬ sameScope project brainId scope card)
        (.valueError "steward bundle member scope mismatch")
      return ⟨card, row⟩

def readStewardBundleState (project brainId scope : String) (ids : List String) (db : Db) :
    Except PyError BundleState := do
  validateStewardBundleScope project brainId scope ids
  let rows := (db.cards.entries.map Prod.snd).filter (inBundle project brainId scope ids)
  let records ← rows.mapM (bundleRecord project brainId scope)
  refuseIf (∃ id ∈ ids, id ∉ records.map (·.row.memoryId))
    (.valueError "unknown steward bundle member")
  return ⟨records.filter (fun r => r.row.memoryId ∈ ids), records.filter (fun r => isCurrentRow r.row)⟩

/-- The state as the bundle uses it: screened, with exactly the requested members. -/
def bundleState (project brainId scope : String) (ids : List String) (db : Db) :
    Except PyError BundleState := do
  let state ← readStewardBundleState project brainId scope ids db
  (state.members ++ state.current).forM (fun record =>
    rescue (ensureNoForbiddenContent lib "review_bundle_state" (record.json lib)) [.valueError]
      (.valueError "review bundle contains forbidden data"))
  refuseIf (state.members.map (·.row.memoryId) ≠ ids)
    (.valueError "review bundle member unavailable")
  return state

/-! ## Eligibility -/

/-- A time of a record; blank means none. -/
def timestamp (v : Json) : Except PyError (Option Int) :=
  if v = .null ∨ v = .str "" then .ok none
  else
    let text := replaceZulu v.text
    match lib.fromisoformat text with
    | none => .error (.valueError "review bundle invalid time")
    | some t =>
        if lib.awareTime text then .ok (some t)
        else .error (.valueError "review bundle invalid time")

def storedStateFields : List Field :=
  [.memoryId, .project, .cardType, .title, .summary, .typedPayload, .contentHash, .lifecycleState,
    .authorizationStatus, .currentness]

/-- A pending member must be undecided and no authority change of its own. -/
def pendingIssues (card : Doc) : List String :=
  (if oneOf card .lifecycleState reviewLifecycleStates ∧
      oneOf card .approvalState ["suggested", "needs_review"] ∧
      card.get? .authorizationStatus = some (.str "disabled") then []
    else ["member_not_pending"]) ++
  (if (card.get? .stewardProposalKind).getD (.str "candidate") ∈
        [Json.str "candidate", .str "needs_review"] ∧
      card.value? .stewardTargetMemoryId = none ∧ card.value? .supersedes = none then []
    else ["dedicated_authority_change_required"])

def currentIssues (card : Doc) : List String :=
  if isApproved card ∧ card.get? .authorizationStatus = some (.str "active") then []
  else ["current_context_inconsistent"]

/-- One end of the window in the envelope is another time than in the row. -/
def timeMismatch (card sql : Doc) (f : Field) : Except PyError Bool :=
  match card.value? f with
  | none => .ok false
  | some v => do return (← timestamp lib v) != (← timestamp lib (value sql f))

def elapsed (now : Int) (t : Option Int) : Bool := t.any (· ≤ now)

/-- The expiry a status card declares. -/
def statusExpiry (card : Doc) : Except PyError (Option Int) :=
  if card.get? .cardType = some (.str "status") then
    timestamp lib (value (((card.value? .typedPayload).bind Doc.ofJson?).getD ∅) .expiresAt)
  else .ok none

def issues (r : Record) (now : Int) (pending : Bool) : Except PyError (List String) := do
  let sql := r.sql lib
  let stored := if ∃ f ∈ storedStateFields, value sql f ≠ value r.card f
    then ["stored_state_mismatch"] else []
  let times ← [Field.validFrom, .validTo].filterM (timeMismatch lib r.card sql)
  let state := if pending then pendingIssues r.card else currentIssues r.card
  let expiry ← timestamp lib (value sql .validTo)
  let status ← statusExpiry lib r.card
  let activeUntil ← timestamp lib (value r.card .activeUntil)
  let expired :=
    if elapsed now expiry ∨ elapsed now status ∨ elapsed now activeUntil then
      [if pending then "member_expired" else "current_expired"]
    else []
  return (stored ++ times.map (fun _ => "stored_time_mismatch") ++ state ++ expired).eraseDups

/-- Only rows that still carry live authority define subject conflicts. -/
def liveCurrent (records : List Record) (now : Int) : Except PyError (List Record) :=
  records.filterM (fun r => do return (← issues lib r now false).isEmpty)

def subjectOf (card : Doc) : List Json × String :=
  ([value card .project, value card .brainId, value card .scope, value card .cardType],
    lib.subjectTitle (card.text .title))

/-! ## The commit -/

/-- The checked arguments of a commit. -/
structure BundleCommit where
  project : String
  brainId : String
  scope : String
  memberIds : List String
  snapshotToken : String
  action : String
  actor : String
  decisionId : String
  reason : String
  deriving DecidableEq

def exactText (text : String) (maximum : ℕ) : Bool :=
  strip text ≠ "" ∧ text = strip text ∧ text.length ≤ maximum

/-- `_scope`: the exact scope and the sorted members. -/
def bundleScope (project brainId scope : String) (memberIds : List String) :
    Except PyError (List String) := do
  refuseIf (¬ (exactText project 64 ∧ exactText brainId 256 ∧ exactText scope 64))
    (.valueError "review bundle requires exact nonempty scope")
  refuseIf (¬ (1 ≤ memberIds.length ∧ memberIds.length ≤ 20 ∧
      (∀ id ∈ memberIds, id ≠ "" ∧ id.length ≤ 64 ∧ id = strip id) ∧ memberIds.Nodup))
    (.valueError "review bundle requires one to twenty unique explicit members")
  rescue (ensureNoForbiddenContent lib "bundle_identity"
      (.arr ((project :: brainId :: scope :: memberIds).map Json.str))) [.valueError]
    (.valueError "review bundle identity contains forbidden data")
  return sortOn id memberIds

def tokenFields : List Field :=
  [.version, .project, .brainId, .scope, .memberIds, .stateFingerprint, .issuedAt, .expiresAt]

def decodeToken (token : String) : Except PyError Doc :=
  match (lib.tokenClaims token).bind Doc.ofJson? with
  | some claims =>
      if claims.entries.length = tokenFields.length ∧ ∀ f ∈ tokenFields, claims.has f then
        .ok claims
      else .error (.valueError "review bundle snapshot invalid")
  | none => .error (.valueError "review bundle snapshot invalid")

/-- The token was signed for this request and is still fresh. -/
def checkToken (c : BundleCommit) (ids : List String) (now : Int) : Except PyError Doc := do
  let claims ← decodeToken lib c.snapshotToken
  refuseIf (value claims .version ≠ .str bundleVersion ∨
      ¬ sameScope c.project c.brainId c.scope claims ∨
      value claims .memberIds ≠ .arr (ids.map Json.str))
    (.valueError "review bundle snapshot scope or membership mismatch")
  let expired := PyError.valueError "review bundle snapshot expired or invalid"
  match ← timestamp lib (value claims .issuedAt), ← timestamp lib (value claims .expiresAt) with
  | some issued, some expires => do
      refuseIf (now < issued ∨ expires ≤ now ∨ 600000000 < expires - issued) expired
      return claims
  | _, _ => .error expired

def childId (decisionId memoryId : String) : String :=
  "bundle-member:" ++ lib.py.hexdigest (.text (decisionId ++ "|" ++ memoryId))

/-- The human verdict on a member. -/
def memberVerdict (c : BundleCommit) (approve : Bool) (card : Doc) (child now : String) :
    Except PyError Doc :=
  if approve then do
    refuseIf (classifyCandidateBlockReason card ≠ "") (.valueError "approval blocked")
    humanApproveMemoryCardCandidate lib card c.actor child
      (if c.reason = "" then none else some c.reason) now
  else do
    let rejected ← humanRejectMemoryCardCandidate lib card c.actor child c.reason now
    return rejected.set .rejectionReason (.str c.reason)

/-- The transformed member of a bundle. -/
def memberChange (c : BundleCommit) (approve : Bool) (card : Doc) (child now : String) :
    Except PyError Doc := do
  ensureNoForbiddenContent lib "bundle_member" card.json
  validateMemoryCardEnvelope lib card
  let verdict ← memberVerdict lib c approve card child now
  let changed := verdict.update [(.bundleDecisionId, .str c.decisionId),
    (.authorizationStatus, .str (if approve then "active" else "disabled"))]
  ensureNoForbiddenContent lib "bundle_transition" changed.json
  lib.publicSafe (lib.authorityItem changed)
  return changed

/-- Return the planned card if the stored one is still the one it was made from. -/
def memberTransform (expected result : Doc) : Transform := fun current _ => do
  refuseIf (digest lib current.json ≠ digest lib expected.json)
    (.valueError "review bundle member changed during commit")
  return (result, none)

/-- The decision on one member, checked and transformed in advance. -/
def planMember (c : BundleCommit) (approve : Bool) (subjects : List (List Json × String))
    (now : Int) (r : Record) : Except PyError Child := do
  refuseIf (¬ (← issues lib r now true).isEmpty) (.valueError "review bundle member is not eligible")
  refuseIf (approve ∧ ((subjectOf lib r.card).2 = "" ∨ subjectOf lib r.card ∈ subjects))
    (.valueError "review bundle conflicts with current context")
  let child := childId lib c.decisionId r.row.memoryId
  let changed ← rescue (memberChange lib c approve r.card child (lib.isoformat now)) [.valueError]
    (.valueError "review bundle member validation failed")
  let contentHash ← index r.card .contentHash
  return ⟨⟨child, r.row.memoryId, if approve then .approve else .reject, c.actor, contentHash.text, ""⟩,
    memberTransform lib r.card changed⟩

/-- The public response of a committed bundle. -/
def bundleResult (c : BundleCommit) (ids : List String) (outcomes : List Outcome) :
    Except PyError Doc := do
  let result := Doc.ofFields [
    (.schemaVersion, .str "brain_steward_review_bundle_decision.v1"),
    (.project, .str c.project), (.brainId, .str c.brainId), (.scope, .str c.scope),
    (.decisionId, .str c.decisionId), (.action, .str c.action), (.actor, .str c.actor),
    (.reason, .str c.reason), (.memberIds, .arr (ids.map Json.str)), (.count, .num ids.length),
    (.items, .arr (outcomes.map (fun outcome => lib.authorityItem outcome.card))),
    (.canonicalWritePerformed, .bool true),
    (.authoritativeMemoryChanged, .bool (c.action == "approve"))]
  lib.publicSafe result.json
  return result

/-- The callback of the transaction: validate everything before the first write. -/
def bundleDecide (c : BundleCommit) (ids : List String) (now : Int) (db : Db) :
    Except PyError BundlePlan := do
  let approve := c.action = "approve"
  let claims ← checkToken lib c ids now
  let state ← bundleState lib c.project c.brainId c.scope ids db
  refuseIf (digest lib (state.json lib) ≠ (value claims .stateFingerprint).text)
    (.valueError "review bundle changed; review again")
  let live ← liveCurrent lib state.current now
  let memberSubjects := state.members.map (fun r => subjectOf lib r.card)
  refuseIf (approve ∧ ¬ memberSubjects.Nodup)
    (.valueError "review bundle contains competing members")
  let currentIssues ← state.current.mapM (fun r => issues lib r now false)
  refuseIf (∃ issue ∈ currentIssues.flatten, issue ≠ "current_expired")
    (.valueError "review bundle current context inconsistent")
  let children ← state.members.mapM
    (planMember lib c approve (live.map (fun r => subjectOf lib r.card)) now)
  return ⟨children, bundleResult lib c ids⟩

def commitBundle (c : BundleCommit) (now : Int) : Except PyError Plan := do
  let ids ← bundleScope lib c.project c.brainId c.scope c.memberIds
  refuseIf (c.action ∉ ["approve", "reject"])
    (.valueError "review bundle action must be approve or reject")
  refuseIf (¬ (exactText c.actor 128 ∧ exactText c.decisionId 256))
    (.valueError "review bundle decision identity required")
  refuseIf (2000 < c.reason.length ∨ c.action = "reject" ∧ strip c.reason = "")
    (.valueError "review bundle rejection requires a reason")
  refuseIf (¬ (1 ≤ c.snapshotToken.length ∧ c.snapshotToken.length ≤ 8192))
    (.valueError "review bundle snapshot invalid")
  rescue (ensureNoForbiddenContent lib "bundle_decision"
      (.arr [.str c.actor, .str c.decisionId, .str c.reason])) [.valueError]
    (.valueError "review bundle decision contains forbidden data")
  let requestFingerprint := digest lib (Doc.ofFields [
    (.version, .str bundleVersion), (.project, .str c.project), (.brainId, .str c.brainId),
    (.scope, .str c.scope), (.memberIds, .arr (ids.map Json.str)),
    (.snapshotToken, .str c.snapshotToken), (.action, .str c.action), (.actor, .str c.actor),
    (.reason, .str c.reason)]).json
  return .bundle ⟨c.decisionId, requestFingerprint, c.project, c.brainId, c.scope, ids⟩
    (bundleDecide lib c ids now)

def reviewBundleCommit (svc : Service) (c : BundleCommit) (now : Int) : Except PyError Plan := do
  guardReviewCommit svc "memory_review_bundle_commit"
  guardWritable svc
  commitBundle lib c now

end ReviewBundle

end Neurons.Steward
