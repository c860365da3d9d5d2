import Neurons.Steward.Transitions

/-! # The steward authority machine

Every steward row is pending, accepted or rejected, and its columns say what its
envelope says. An operation inserts pending rows, decides pending ones and demotes
accepted ones; nothing else happens to a row in any run.
-/

namespace Neurons.Steward

open Neurons.Lib
open Neurons.Source

/-! ## Sound rows -/

/-- The three stages of a steward row. -/
inductive Stage (row : CardRow) (card : Doc) : Prop
  | pending (lifecycle : row.lifecycleState ∈ reviewLifecycleStates)
      (disabled : row.authorizationStatus = "disabled") (unapproved : isApproved card = false)
  | accepted (lifecycle : row.lifecycleState ∈ decidedLifecycleStates)
      (active : row.authorizationStatus = "active") (approved : isApproved card = true)
  | rejected (lifecycle : row.lifecycleState = "human_rejected")
      (disabled : row.authorizationStatus = "disabled") (unapproved : isApproved card = false)

/-- The columns of a steward row agree with its envelope. -/
structure Sound (lib : Library) (id : String) (row : CardRow) (card : Doc) : Prop where
  key : row.memoryId = id
  project : row.project ≠ ""
  ordered : ∀ t ∈ row.validTo, row.validFrom ≤ t
  memoryId : card.get? .memoryId = some (.str id)
  lifecycle : card.get? .lifecycleState = some (.str row.lifecycleState)
  authorization : card.get? .authorizationStatus = some (.str row.authorizationStatus)
  currentness : card.get? .currentness = some (.str row.currentness)
  named : row.currentness ≠ ""
  stage : Stage row card
  /-- a stale claim is never itself current -/
  claim : card.get? .stewardProposalKind = some (.str "stale") → row.currentness ≠ "current"
  /-- a current authority carries its window in its envelope -/
  window : row.lifecycleState ∈ decidedLifecycleStates → row.currentness = "current" →
    card.get? .validFrom = some (.str (lib.isoformat row.validFrom))

/-- A card table keyed by memory id, with sound steward rows. -/
structure Db.Sound (lib : Library) (db : Db) : Prop where
  keyed : ∀ id row, db.cards.get? id = some row → row.memoryId = id
  rows : ∀ id row card, db.cards.get? id = some row → row.stewardEnvelope = some card →
    Steward.Sound lib id row card

/-- The columns of an accepted card agree with its envelope, and no upsert touches them. -/
structure Authority (lib : Library) (row : CardRow) (card : Doc) : Prop where
  lifecycle : row.lifecycleState ∈ decidedLifecycleStates
  envelope : card.get? .lifecycleState = some (.str row.lifecycleState)
  active : row.authorizationStatus = "active"
  currentness : card.get? .currentness = some (.str row.currentness)
  window : row.currentness = "current" → card.get? .validFrom = some (.str (lib.isoformat row.validFrom))

/-- What holds of a steward row though others write its columns too: its envelope is the steward's
    own, and so are the columns once the card is accepted. -/
structure Stewarded (lib : Library) (id : String) (row : CardRow) (card : Doc) : Prop where
  key : row.memoryId = id
  project : row.project ≠ ""
  ordered : ∀ t ∈ row.validTo, row.validFrom ≤ t
  memoryId : card.get? .memoryId = some (.str id)
  currentness : ∃ state, state ≠ "" ∧ card.get? .currentness = some (.str state)
  claim : card.get? .stewardProposalKind = some (.str "stale") →
    card.get? .currentness ≠ some (.str "current")
  unapproved : Pending card → isApproved card = false
  authority : isApproved card = true → Authority lib row card

/-- A card table keyed by memory id, whose steward rows are the steward's. -/
structure Db.Stewarded (lib : Library) (db : Db) : Prop where
  keyed : ∀ id row, db.cards.get? id = some row → row.memoryId = id
  rows : ∀ id row card, db.cards.get? id = some row → row.stewardEnvelope = some card →
    Steward.Stewarded lib id row card

/-! ## What happens to a row -/

/-- One changed card of a decision: its content stays, its authorization follows
    its approval, its columns follow its envelope. -/
structure Revised (lib : Library) (row row' : CardRow) (card card' : Doc) : Prop where
  before : row.stewardEnvelope = some card
  content : SameContent card card'
  contentHash : card.get? .contentHash = some (.str row.contentHash)
  authorized : row'.authorizationStatus = if isApproved card' then "active" else "disabled"
  currentness : card'.get? .currentness = some (.str row'.currentness)
  updated : Updated lib row card' row'

/-- What a decision at the time `c` does to a row. -/
inductive CardChange (lib : Library) (c : Int) (row row' : CardRow) : ChangeKind → Prop
  | accepted (card card' : Doc) (revised : Revised lib row row' card card') (pending : Pending card)
      (claim : card.get? .stewardProposalKind ≠ some (.str "stale"))
      (lifecycle : row'.lifecycleState ∈ decidedLifecycleStates) (approved : isApproved card' = true)
      (current : row'.currentness = "current") (validFrom : row'.validFrom = c)
      (window : card'.get? .validFrom = some (.str (lib.isoformat c))) :
      CardChange lib c row row' .accepted
  | rejected (card card' : Doc) (revised : Revised lib row row' card card') (pending : Pending card)
      (lifecycle : row'.lifecycleState = "human_rejected") (unapproved : isApproved card' = false)
      (currentness : card'.get? .currentness = card.get? .currentness) :
      CardChange lib c row row' .rejected
  | closed (card card' : Doc) (revised : Revised lib row row' card card') (pending : Pending card)
      (claim : card.get? .stewardProposalKind = some (.str "stale"))
      (lifecycle : row'.lifecycleState = "human_accepted") (approved : isApproved card' = true)
      (currentness : card'.get? .currentness = card.get? .currentness) :
      CardChange lib c row row' .closed
  | demoted (card card' : Doc) (revised : Revised lib row row' card card')
      (approved : isApproved card = true) (current : card.get? .currentness = some (.str "current"))
      (lifecycle : card'.get? .lifecycleState = card.get? .lifecycleState)
      (approval : isApproved card' = true)
      (ended : row'.currentness = "superseded" ∨ row'.currentness = "stale")
      (validFrom : card'.get? .validFrom = card.get? .validFrom) (validTo : row'.validTo = some c) :
      CardChange lib c row row' (.demoted row'.currentness)

section Rows

variable {lib : Library}

theorem get?_authorize {d : Doc} {f : Field} (other : f ≠ .authorizationStatus) :
    (authorize d).get? f = d.get? f := by
  simp [authorize, Doc.get?_set, other]

theorem get?_authorize_status (d : Doc) : (authorize d).get? .authorizationStatus =
    some (.str (if isApproved d then "active" else "disabled")) := by
  rw [authorize, Doc.get?_set, if_pos rfl]

theorem isApproved_authorize (d : Doc) : isApproved (authorize d) = isApproved d :=
  oneOf_congr (get?_authorize (by simp)) _

/-- The row a stored change leaves. -/
theorem Wrote.revised {locked : List String} {new stored : Doc} {db db' : Db} {id : String}
    {row : CardRow} {card : Doc} (wrote : Wrote lib locked new stored db db')
    (found : db.cards.get? id = some row) (held : row.stewardEnvelope = some card)
    (memoryId : card.get? .memoryId = some (.str id)) (content : SameContent card new)
    (current : ∃ s, s ≠ "" ∧ new.get? .currentness = some (.str s)) :
    ∃ row', Revised lib row row' card stored ∧ stored = authorize new ∧
      db'.cards = db.cards.insert id row' := by
  obtain ⟨key, row₁, row', named, -, found₁, hash, updated, cards⟩ := wrote.row
  have same : key = .str id := by
    rw [content .memoryId (by simp [contentFields]), memoryId, Option.some.injEq] at named
    exact named.symm
  subst same
  have sameRow : row = row₁ := Option.some.inj (found.symm.trans found₁)
  subst sameRow
  have stored_eq := wrote.stored_eq
  subst stored_eq
  obtain ⟨s, nonempty, current⟩ := current
  have kept : SameContent card (authorize new) := fun f mem => by
    rw [get?_authorize (by rintro rfl; simp [contentFields] at mem), content f mem]
  have currentness : (authorize new).get? .currentness = some (.str s) := by
    rw [get?_authorize (by simp), current]
  refine ⟨row', ⟨held, kept, ?_, ?_, ?_, updated⟩, rfl, cards⟩
  · rw [← content .contentHash (by simp [contentFields]), hash]
  · have written := updated.authorization
    rw [get?_authorize_status, Option.some.injEq, Json.str.injEq] at written
    rw [isApproved_authorize, written]
  · have written := updated.currentness
    simp only [Doc.value?, currentness, Option.filter, Json.truthy, bne_iff_ne, ne_eq, nonempty,
      not_false_eq_true, if_true, Option.getD_some, Json.str.injEq] at written
    rw [currentness, written]

/-- An instant written as an ISO time reads back. -/
theorem sqlTime_isoformat (t : Int) : sqlTime lib (.str (lib.isoformat t)) = .ok (some t) := by
  simp [sqlTime, lib.timestamptz_isoformat]

/-- The validity of a changed card, rewritten against the card it came from. -/
theorem rewriteChanged_eq_ok {d : Decision} {c : Int} {card changed new : Doc} {target : Option Doc}
    {id : String} (done : rewriteChanged lib d c card target changed = .ok new)
    (memoryId : changed.get? .memoryId = some (.str id)) :
    new = rewriteValidity lib c (if id = d.memoryId then some card else target) changed := by
  simp only [rewriteChanged, originalOf, bind_eq_ok, index_eq_ok, pure_eq_ok, Except.ok.injEq] at done
  obtain ⟨_, ⟨key, named, rfl⟩, rfl⟩ := done
  rw [memoryId, Option.some.injEq] at named
  subst named
  simp only [Json.str.injEq]

theorem SameContent.set {card changed : Doc} {f : Field} {v : Json} (content : SameContent card changed)
    (outside : f ∉ contentFields) : SameContent card (changed.set f v) := by
  intro g mem
  have ne : g ≠ f := by
    rintro rfl
    exact outside mem
  rw [Doc.get?_set, if_neg ne, content g mem]

/-- A first approval opens the window at the time of the decision. -/
theorem Accepts.rewritten {card changed : Doc} (accepts : Accepts card changed)
    (unapproved : isApproved card = false)
    (claim : card.get? .stewardProposalKind ≠ some (.str "stale")) (c : Int) :
    rewriteValidity lib c (some card) changed =
      changed.set .validFrom (.str (lib.isoformat c)) := by
  have kind : changed.get? .stewardProposalKind ≠ some (.str "stale") := by
    rwa [accepts.content .stewardProposalKind (by simp [contentFields])]
  have open_ : oneOf changed .currentness ["superseded", "stale"] = false := by
    simp [oneOf, accepts.currentness]
  simp [rewriteValidity, open_, accepts.approved, unapproved, kind]

/-- A rejection leaves the window alone. -/
theorem Rejects.rewritten {card changed : Doc} (rejects : Rejects card changed) (c : Int) :
    rewriteValidity lib c (some card) changed = changed := by
  unfold rewriteValidity
  by_cases ended : oneOf changed .currentness ["superseded", "stale"] = true
  · have notCurrent : card.get? .currentness ≠ some (.str "current") := by
      rw [← rejects.currentness]
      intro current
      simp [oneOf, current] at ended
    simp [ended, notCurrent]
  · simp [ended, rejects.approved]

/-- So does the end of a stale claim. -/
theorem Closes.rewritten {card changed : Doc} (closes : Closes card changed) (c : Int) :
    rewriteValidity lib c (some card) changed = changed := by
  have kind : changed.get? .stewardProposalKind = some (.str "stale") := by
    rw [closes.content .stewardProposalKind (by simp [contentFields]), closes.kind]
  unfold rewriteValidity
  by_cases ended : oneOf changed .currentness ["superseded", "stale"] = true
  · have notCurrent : card.get? .currentness ≠ some (.str "current") := by
      rw [← closes.currentness]
      intro current
      simp [oneOf, current] at ended
    simp [ended, notCurrent]
  · simp [ended, kind]

/-- A demotion closes the window at the time of the decision. -/
theorem Demotes.rewritten {card changed : Doc} {currentness : String}
    (demotes : Demotes card changed currentness) (ended : currentness ∈ ["superseded", "stale"])
    (c : Int) :
    rewriteValidity lib c (some card) changed = changed.set .validTo (.str (lib.isoformat c)) := by
  have closed : oneOf changed .currentness ["superseded", "stale"] = true :=
    oneOf_eq_true_iff.mpr ⟨currentness, ended, demotes.currentness⟩
  simp [rewriteValidity, closed, demotes.current]

theorem Sound.lifecycle_of_pending {id : String} {row : CardRow} {card : Doc}
    (sound : Sound lib id row card) (pending : Pending card) :
    row.lifecycleState ∈ reviewLifecycleStates := by
  obtain ⟨s, mem, held⟩ := oneOf_eq_true_iff.mp pending
  rw [sound.lifecycle, Option.some.injEq, Json.str.injEq] at held
  exact held ▸ mem

/-- A pending row has no authority. -/
theorem Sound.unapproved {id : String} {row : CardRow} {card : Doc} (sound : Sound lib id row card)
    (pending : Pending card) : isApproved card = false := by
  have review := sound.lifecycle_of_pending pending
  cases sound.stage with
  | pending _ _ unapproved => exact unapproved
  | accepted lifecycle =>
      simp only [reviewLifecycleStates, decidedLifecycleStates, List.mem_cons, List.not_mem_nil,
        or_false] at review lifecycle
      rcases lifecycle with state | state <;> simp [state] at review
  | rejected _ _ unapproved => exact unapproved

/-- An approved row is accepted. -/
theorem Sound.lifecycle_of_approved {id : String} {row : CardRow} {card : Doc}
    (sound : Sound lib id row card) (approved : isApproved card = true) :
    row.lifecycleState ∈ decidedLifecycleStates := by
  cases sound.stage with
  | pending _ _ unapproved => simp [approved] at unapproved
  | accepted lifecycle => exact lifecycle
  | rejected _ _ unapproved => simp [approved] at unapproved

theorem Sound.stewarded {id : String} {row : CardRow} {card : Doc} (sound : Sound lib id row card) :
    Stewarded lib id row card where
  key := sound.key
  project := sound.project
  ordered := sound.ordered
  memoryId := sound.memoryId
  currentness := ⟨row.currentness, sound.named, sound.currentness⟩
  claim := fun kind now => by
    rw [sound.currentness, Option.some.injEq, Json.str.injEq] at now
    exact sound.claim kind now
  unapproved := sound.unapproved
  authority := fun approved => by
    have decided := sound.lifecycle_of_approved approved
    refine ⟨decided, sound.lifecycle, ?_, sound.currentness, sound.window decided⟩
    cases sound.stage with
    | pending _ _ unapproved => simp [approved] at unapproved
    | accepted _ active => exact active
    | rejected _ _ unapproved => simp [approved] at unapproved

theorem Db.Sound.stewarded {db : Db} (sound : db.Sound lib) : db.Stewarded lib :=
  ⟨sound.keyed, fun id row card found held => (sound.rows id row card found held).stewarded⟩

/-- The envelope an updated row holds. -/
theorem Updated.envelope {row row' : CardRow} {stored : Doc} (updated : Updated lib row stored row') :
    row'.stewardEnvelope = some stored := by
  rw [updated.frame]

section Changes

variable {locked : List String} {db db' : Db} {id : String} {row : CardRow}
variable {card changed stored : Doc} {c : Int}

theorem Accepts.change (accepts : Accepts card changed) (own : Stewarded lib id row card)
    (found : db.cards.get? id = some row) (held : row.stewardEnvelope = some card)
    (claim : card.get? .stewardProposalKind ≠ some (.str "stale"))
    (wrote : Wrote lib locked (rewriteValidity lib c (some card) changed) stored db db') :
    ∃ row', CardChange lib c row row' .accepted ∧ db'.cards = db.cards.insert id row' := by
  rw [accepts.rewritten (own.unapproved accepts.pending) claim] at wrote
  obtain ⟨row', revised, rfl, cards⟩ := wrote.revised found held own.memoryId
    (accepts.content.set (by simp [contentFields])) ⟨"current", by simp, by
      rw [Doc.get?_set, if_neg (by simp), accepts.currentness]⟩
  refine ⟨row', ?_, cards⟩
  have window : (authorize (changed.set .validFrom (.str (lib.isoformat c)))).get? .validFrom =
      some (.str (lib.isoformat c)) := by
    rw [get?_authorize (by simp), Doc.get?_set, if_pos rfl]
  obtain ⟨state, mem, lifecycle⟩ := accepts.lifecycle
  have written := revised.updated.lifecycle
  rw [get?_authorize (by simp), Doc.get?_set, if_neg (by simp), lifecycle, Option.some.injEq,
    Json.str.injEq] at written
  have current := revised.currentness
  rw [get?_authorize (by simp), Doc.get?_set, if_neg (by simp), accepts.currentness,
    Option.some.injEq, Json.str.injEq] at current
  obtain ⟨t, read, validFrom⟩ := revised.updated.validFrom
  rw [value, window, Option.getD_some, sqlTime_isoformat, Except.ok.injEq] at read
  subst read
  refine .accepted card _ revised accepts.pending claim (written ▸ mem) ?_ current.symm validFrom window
  rw [isApproved_authorize, ← accepts.approved]
  exact oneOf_congr (by rw [Doc.get?_set, if_neg (by simp)]) _

theorem Rejects.change (rejects : Rejects card changed) (own : Stewarded lib id row card)
    (found : db.cards.get? id = some row) (held : row.stewardEnvelope = some card)
    (wrote : Wrote lib locked (rewriteValidity lib c (some card) changed) stored db db') :
    ∃ row', CardChange lib c row row' .rejected ∧ db'.cards = db.cards.insert id row' := by
  rw [rejects.rewritten] at wrote
  obtain ⟨row', revised, rfl, cards⟩ := wrote.revised found held own.memoryId rejects.content
    (rejects.currentness ▸ own.currentness)
  refine ⟨row', ?_, cards⟩
  have written := revised.updated.lifecycle
  rw [get?_authorize (by simp), rejects.lifecycle, Option.some.injEq, Json.str.injEq] at written
  refine .rejected card _ revised rejects.pending written.symm ?_ ?_
  · rw [isApproved_authorize, rejects.approved]
  · rw [get?_authorize (by simp), rejects.currentness]

theorem Closes.change (closes : Closes card changed) (own : Stewarded lib id row card)
    (found : db.cards.get? id = some row) (held : row.stewardEnvelope = some card)
    (wrote : Wrote lib locked (rewriteValidity lib c (some card) changed) stored db db') :
    ∃ row', CardChange lib c row row' .closed ∧ db'.cards = db.cards.insert id row' := by
  rw [closes.rewritten] at wrote
  obtain ⟨row', revised, rfl, cards⟩ := wrote.revised found held own.memoryId closes.content
    (closes.currentness ▸ own.currentness)
  refine ⟨row', ?_, cards⟩
  have written := revised.updated.lifecycle
  rw [get?_authorize (by simp), closes.lifecycle, Option.some.injEq, Json.str.injEq] at written
  refine .closed card _ revised closes.pending closes.kind written.symm ?_ ?_
  · rw [isApproved_authorize, closes.approved]
  · rw [get?_authorize (by simp), closes.currentness]

theorem Demotes.change {currentness : String} (demotes : Demotes card changed currentness)
    (ended : currentness ∈ ["superseded", "stale"]) (own : Stewarded lib id row card)
    (found : db.cards.get? id = some row) (held : row.stewardEnvelope = some card)
    (wrote : Wrote lib locked (rewriteValidity lib c (some card) changed) stored db db') :
    ∃ row', CardChange lib c row row' (.demoted currentness) ∧ db'.cards = db.cards.insert id row' := by
  rw [demotes.rewritten ended] at wrote
  have nonempty : currentness ≠ "" := by
    rintro rfl
    simp at ended
  obtain ⟨row', revised, rfl, cards⟩ := wrote.revised found held own.memoryId
    (demotes.content.set (by simp [contentFields])) ⟨currentness, nonempty, by
      rw [Doc.get?_set, if_neg (by simp), demotes.currentness]⟩
  refine ⟨row', ?_, cards⟩
  have current := revised.currentness
  rw [get?_authorize (by simp), Doc.get?_set, if_neg (by simp), demotes.currentness,
    Option.some.injEq, Json.str.injEq] at current
  have validTo := revised.updated.validTo
  rw [value, get?_authorize (by simp), Doc.get?_set, if_pos rfl, Option.getD_some,
    sqlTime_isoformat, Except.ok.injEq] at validTo
  rw [current]
  refine .demoted card _ revised demotes.approved demotes.current ?_ ?_ ?_ ?_ validTo.symm
  · rw [get?_authorize (by simp), Doc.get?_set, if_neg (by simp), demotes.lifecycle]
  · rw [isApproved_authorize, ← demotes.approved]
    exact oneOf_congr (by rw [Doc.get?_set, if_neg (by simp), demotes.approval]) _
  · simpa [← current] using ended
  · rw [get?_authorize (by simp), Doc.get?_set, if_neg (by simp), demotes.window.1]

end Changes

theorem Updated.memoryId {row row' : CardRow} {stored : Doc} (updated : Updated lib row stored row') :
    row'.memoryId = row.memoryId := by
  rw [updated.frame]

/-- A revised row is sound in its new stage. -/
theorem Revised.sound {id : String} {row row' : CardRow} {card card' : Doc}
    (revised : Revised lib row row' card card') (sound : Sound lib id row card)
    (named : row'.currentness ≠ "") (stage : Stage row' card')
    (claim : card.get? .stewardProposalKind = some (.str "stale") → row'.currentness ≠ "current")
    (window : row'.lifecycleState ∈ decidedLifecycleStates → row'.currentness = "current" →
      card'.get? .validFrom = some (.str (lib.isoformat row'.validFrom))) :
    Sound lib id row' card' where
  key := revised.updated.memoryId.trans sound.key
  project := by
    rw [revised.updated.frame]
    exact sound.project
  ordered := revised.updated.fits.2.2.2.2.1
  memoryId := by rw [revised.content .memoryId (by simp [contentFields]), sound.memoryId]
  lifecycle := revised.updated.lifecycle
  authorization := revised.updated.authorization
  currentness := revised.currentness
  named := named
  stage := stage
  claim := by rwa [revised.content .stewardProposalKind (by simp [contentFields])]
  window := window

/-- The currentness of a row whose envelope keeps it. -/
theorem Revised.currentness_eq {id : String} {row row' : CardRow} {card card' : Doc}
    (revised : Revised lib row row' card card') (sound : Sound lib id row card)
    (same : card'.get? .currentness = card.get? .currentness) : row'.currentness = row.currentness := by
  have kept := revised.currentness
  rw [same, sound.currentness, Option.some.injEq, Json.str.injEq] at kept
  exact kept.symm

theorem Revised.lifecycle_eq {id : String} {row row' : CardRow} {card card' : Doc}
    (revised : Revised lib row row' card card') (sound : Sound lib id row card)
    (same : card'.get? .lifecycleState = card.get? .lifecycleState) :
    row'.lifecycleState = row.lifecycleState := by
  have kept := revised.updated.lifecycle
  rw [same, sound.lifecycle, Option.some.injEq, Json.str.injEq] at kept
  exact kept.symm

/-- A change keeps a row sound. -/
theorem CardChange.sound {c : Int} {id : String} {row row' : CardRow} {card card' : Doc}
    {kind : ChangeKind} (change : CardChange lib c row row' kind) (sound : Sound lib id row card)
    (before : row.stewardEnvelope = some card) (after : row'.stewardEnvelope = some card') :
    Sound lib id row' card' := by
  have sameBefore {card₁ card₂ : Doc} (revised : Revised lib row row' card₁ card₂) :
      card₁ = card ∧ card₂ = card' :=
    ⟨Option.some.inj (revised.before.symm.trans before),
      Option.some.inj (revised.updated.envelope.symm.trans after)⟩
  cases change with
  | accepted card₁ card₂ revised pending claim lifecycle approved current validFrom window =>
      obtain ⟨rfl, rfl⟩ := sameBefore revised
      have active := revised.authorized
      rw [approved, if_pos rfl] at active
      refine revised.sound sound (by simp [current]) (.accepted lifecycle active approved)
        (fun kind => absurd kind claim) (fun _ _ => ?_)
      rw [window, validFrom]
  | rejected card₁ card₂ revised pending lifecycle unapproved currentness =>
      obtain ⟨rfl, rfl⟩ := sameBefore revised
      have disabled := revised.authorized
      rw [unapproved, if_neg (by simp)] at disabled
      have same := revised.currentness_eq sound currentness
      refine revised.sound sound (same ▸ sound.named) (.rejected lifecycle disabled unapproved)
        (fun kind => same ▸ sound.claim kind) (fun decided => ?_)
      simp [lifecycle, decidedLifecycleStates] at decided
  | closed card₁ card₂ revised pending claim lifecycle approved currentness =>
      obtain ⟨rfl, rfl⟩ := sameBefore revised
      have active := revised.authorized
      rw [approved, if_pos rfl] at active
      have same := revised.currentness_eq sound currentness
      refine revised.sound sound (same ▸ sound.named)
        (.accepted (by simp [lifecycle, decidedLifecycleStates]) active approved)
        (fun kind => same ▸ sound.claim kind) (fun _ current => ?_)
      exact absurd (same ▸ current) (sound.claim claim)
  | demoted card₁ card₂ revised approved current lifecycle approval ended =>
      obtain ⟨rfl, rfl⟩ := sameBefore revised
      have active := revised.authorized
      rw [approval, if_pos rfl] at active
      have past : row'.currentness ≠ "" ∧ row'.currentness ≠ "current" := by
        rcases ended with state | state <;> simp [state]
      refine revised.sound sound past.1 (.accepted ?_ active approval) (fun _ => past.2)
        (fun _ now => absurd now past.2)
      rw [revised.lifecycle_eq sound lifecycle]
      exact sound.lifecycle_of_approved approved

/-- A revised envelope is the steward's, and its columns with it where it is approved. -/
theorem Revised.stewarded {id : String} {row row' : CardRow} {card card' : Doc}
    (revised : Revised lib row row' card card') (own : Stewarded lib id row card)
    (named : row'.currentness ≠ "") (decided : ¬ Pending card')
    (claim : card.get? .stewardProposalKind = some (.str "stale") → row'.currentness ≠ "current")
    (authority : isApproved card' = true → row'.lifecycleState ∈ decidedLifecycleStates ∧
      (row'.currentness = "current" → card'.get? .validFrom = some (.str (lib.isoformat row'.validFrom)))) :
    Stewarded lib id row' card' where
  key := revised.updated.memoryId.trans own.key
  project := by
    rw [revised.updated.frame]
    exact own.project
  ordered := revised.updated.fits.2.2.2.2.1
  memoryId := by rw [revised.content .memoryId (by simp [contentFields]), own.memoryId]
  currentness := ⟨row'.currentness, named, revised.currentness⟩
  claim := fun kind now => by
    rw [revised.content .stewardProposalKind (by simp [contentFields])] at kind
    rw [revised.currentness, Option.some.injEq, Json.str.injEq] at now
    exact claim kind now
  unapproved := fun pending => absurd pending decided
  authority := fun approved => by
    have active := revised.authorized
    rw [approved, if_pos rfl] at active
    exact ⟨(authority approved).1, revised.updated.lifecycle, active, revised.currentness,
      (authority approved).2⟩

theorem not_pending_of_lifecycle {card : Doc} {state : String}
    (held : card.get? .lifecycleState = some (.str state)) (settled : state ∉ reviewLifecycleStates) :
    ¬ Pending card := by
  intro pending
  obtain ⟨review, mem, same⟩ := oneOf_eq_true_iff.mp pending
  rw [held, Option.some.injEq, Json.str.injEq] at same
  exact settled (same ▸ mem)

theorem not_review_of_decided {state : String} (decided : state ∈ decidedLifecycleStates) :
    state ∉ reviewLifecycleStates := by
  simp only [decidedLifecycleStates, List.mem_cons, List.not_mem_nil, or_false] at decided
  rcases decided with rfl | rfl <;> simp [reviewLifecycleStates]

/-- A change keeps a row the steward's. -/
theorem CardChange.stewarded {c : Int} {id : String} {row row' : CardRow} {card card' : Doc}
    {kind : ChangeKind} (change : CardChange lib c row row' kind) (own : Stewarded lib id row card)
    (before : row.stewardEnvelope = some card) (after : row'.stewardEnvelope = some card') :
    Stewarded lib id row' card' := by
  have sameBefore {card₁ card₂ : Doc} (revised : Revised lib row row' card₁ card₂) :
      card₁ = card ∧ card₂ = card' :=
    ⟨Option.some.inj (revised.before.symm.trans before),
      Option.some.inj (revised.updated.envelope.symm.trans after)⟩
  obtain ⟨state, named, wasCurrent⟩ := own.currentness
  -- a decision that keeps the currentness keeps the one of the envelope
  have kept {card₁ card₂ : Doc} (revised : Revised lib row row' card₁ card₂)
      (same : card₂.get? .currentness = card.get? .currentness) : row'.currentness = state := by
    have now := revised.currentness
    rw [same, wasCurrent, Option.some.injEq, Json.str.injEq] at now
    exact now.symm
  cases change with
  | accepted card₁ card₂ revised pending claim lifecycle approved current validFrom window =>
      obtain ⟨rfl, rfl⟩ := sameBefore revised
      refine revised.stewarded own (by simp [current])
        (not_pending_of_lifecycle revised.updated.lifecycle (not_review_of_decided lifecycle))
        (fun kind => absurd kind claim) (fun _ => ⟨lifecycle, fun _ => ?_⟩)
      rw [window, validFrom]
  | rejected card₁ card₂ revised pending lifecycle unapproved currentness =>
      obtain ⟨rfl, rfl⟩ := sameBefore revised
      have same := kept revised currentness
      refine revised.stewarded own (same ▸ named)
        (not_pending_of_lifecycle revised.updated.lifecycle (by simp [lifecycle, reviewLifecycleStates]))
        (fun kind current => own.claim kind (by rw [wasCurrent, ← same, current]))
        (fun approved => by simp [unapproved] at approved)
  | closed card₁ card₂ revised pending claim lifecycle approved currentness =>
      obtain ⟨rfl, rfl⟩ := sameBefore revised
      have same := kept revised currentness
      have past : row'.currentness ≠ "current" :=
        fun current => own.claim claim (by rw [wasCurrent, ← same, current])
      refine revised.stewarded own (same ▸ named)
        (not_pending_of_lifecycle revised.updated.lifecycle (by simp [lifecycle, reviewLifecycleStates]))
        (fun _ => past) (fun _ => ⟨by simp [lifecycle, decidedLifecycleStates], fun now => absurd now past⟩)
  | demoted card₁ card₂ revised approved current lifecycle approval ended =>
      obtain ⟨rfl, rfl⟩ := sameBefore revised
      have past : row'.currentness ≠ "" ∧ row'.currentness ≠ "current" := by
        rcases ended with state | state <;> simp [state]
      have authority := own.authority approved
      have same : row'.lifecycleState = row.lifecycleState := by
        have now := revised.updated.lifecycle
        rw [lifecycle, authority.envelope, Option.some.injEq, Json.str.injEq] at now
        exact now.symm
      have decided : row'.lifecycleState ∈ decidedLifecycleStates := same ▸ authority.lifecycle
      exact revised.stewarded own past.1
        (not_pending_of_lifecycle revised.updated.lifecycle (not_review_of_decided decided))
        (fun _ => past.2) (fun _ => ⟨decided, fun now => absurd now past.2⟩)

end Rows

/-! ## What a decision does to the cards -/

/-- A decision changes its own card, and with it the one it names. -/
inductive Effect (lib : Library) (d : Decision) (c : Int) (db db' : Db) : Prop
  | alone (row row' : CardRow) (single : d.action ≠ .supersede ∧ d.action ≠ .stale)
      (found : db.cards.get? d.memoryId = some row) (change : CardChange lib c row row' d.action.kind)
      (cards : db'.cards = db.cards.insert d.memoryId row')
  | pair (targetId currentness : String) (row row' old old' : CardRow)
      (target : d.target? = some targetId) (apart : targetId ≠ d.memoryId)
      (found : db.cards.get? d.memoryId = some row) (foundTarget : db.cards.get? targetId = some old)
      (change : CardChange lib c row row' d.action.kind)
      (demoted : CardChange lib c old old' (.demoted currentness))
      (ending : d.action = .supersede ∧ currentness = "superseded" ∨
        d.action = .stale ∧ currentness = "stale")
      (cards : db'.cards = (db.cards.insert d.memoryId row').insert targetId old')

/-- The transform treats the stored card as the service does, and accepts no stale claim. -/
def Treats (d : Decision) (db : Db) (transform : Transform) : Prop :=
  ∀ card target changed changedTarget, getStewardCard d.memoryId db = some card →
    transform card target = .ok (changed, changedTarget) →
    Lawful card target changed d.action changedTarget ∧
      (d.action.kind = .accepted → card.get? .stewardProposalKind ≠ some (.str "stale"))

section Decisions

variable {lib : Library}

theorem getStewardCard_eq {db : Db} {id : String} {row : CardRow} {card : Doc}
    (found : db.cards.get? id = some row) (held : row.stewardEnvelope = some card) :
    getStewardCard id db = some card := by
  simp [getStewardCard, found, held]

theorem mapM_some_eq_ok {ε α β : Type} {f : α → Except ε β} {a : α} {r : Option β}
    (done : (some a).mapM f = .ok r) : ∃ b, f a = .ok b ∧ r = some b := by
  cases mapped : f a with
  | error e => simp [mapped, Functor.map, Except.map] at done
  | ok b => exact ⟨b, rfl, by simpa [mapped, Functor.map, Except.map, eq_comm] using done⟩

/-- The second card of a decision, when the first is written. -/
theorem Demotes.second {d : Decision} {c : Int} {db mid last : Db} {targetId currentness : String}
    {row' old : CardRow} {card target new second stored : Doc} (demotes : Demotes target new currentness)
    (ended : currentness ∈ ["superseded", "stale"]) (own : Stewarded lib targetId old target)
    (found : db.cards.get? targetId = some old) (held : old.stewardEnvelope = some target)
    (apart : targetId ≠ d.memoryId) (first : mid.cards = db.cards.insert d.memoryId row')
    (rewritten : rewriteChanged lib d c card (some target) new = .ok second)
    (wrote : Wrote lib d.locked second stored mid last) :
    ∃ old', CardChange lib c old old' (.demoted currentness) ∧
      last.cards = (db.cards.insert d.memoryId row').insert targetId old' := by
  have memoryId : new.get? .memoryId = some (.str targetId) := by
    rw [demotes.content .memoryId (by simp [contentFields]), own.memoryId]
  have same := rewriteChanged_eq_ok rewritten memoryId
  rw [if_neg apart] at same
  subst same
  have foundMid : mid.cards.get? targetId = some old := by
    rw [first, Dict.get?_insert, if_neg apart, found]
  rw [← first]
  exact demotes.change ended own foundMid held wrote

theorem Decided.effect {d : Decision} {transform : Transform} {c : Int} {db db' : Db}
    {outcome : Outcome} (decided : Decided lib d transform c db outcome db')
    (own : db.Stewarded lib) (treats : Treats d db transform) : Effect lib d c db db' := by
  obtain ⟨row, card, target, changed, changedTarget, new, newTarget, mid, last, found, held, -,
    locked, -, transformed, rewritten, rewrittenTarget, first, second, rfl⟩ := decided.stored
  have ownCard := own.rows _ _ _ found held
  obtain ⟨lawful, claim⟩ := treats card target changed changedTarget (getStewardCard_eq found held)
    transformed
  generalize isAction : d.action = action at lawful claim
  have content : SameContent card changed := by
    cases lawful with
    | approve accepts => exact accepts.content
    | autoAccept accepts => exact accepts.content
    | reject rejects => exact rejects.content
    | supersede old new isTarget accepts => exact accepts.content
    | stale old new isTarget closes => exact closes.content
  have memoryId : changed.get? .memoryId = some (.str d.memoryId) := by
    rw [content .memoryId (by simp [contentFields]), ownCard.memoryId]
  have same := rewriteChanged_eq_ok rewritten memoryId
  rw [if_pos rfl] at same
  subst same
  -- a decision with a target has locked two different rows of the steward
  have lockedTarget {old : Doc} (isTarget : target = some old) (approved : isApproved old = true)
      (pending : Pending card) : ∃ id trow, d.target? = some id ∧ db.cards.get? id = some trow ∧
        trow.stewardEnvelope = some old ∧ Stewarded lib id trow old ∧ id ≠ d.memoryId := by
    rcases lockTarget_eq_ok locked with ⟨absent, -⟩ | ⟨id, trow, envelope, named, foundOld, heldOld, rfl⟩
    · simp [absent] at isTarget
    · cases isTarget
      refine ⟨id, trow, named, foundOld, heldOld, own.rows _ _ _ foundOld heldOld, ?_⟩
      rintro rfl
      rw [found, Option.some.injEq] at foundOld
      subst foundOld
      rw [held, Option.some.injEq] at heldOld
      subst heldOld
      simp [ownCard.unapproved pending] at approved
  -- one changed card, whatever the action makes of it
  have single {action : Action} (isAction : d.action = action)
      (one : action ≠ .supersede ∧ action ≠ .stale) (none : changedTarget = none)
      (change : ∃ row', CardChange lib c row row' action.kind ∧
        mid.cards = db.cards.insert d.memoryId row') :
      Effect lib d c db { last with
        cardDecisions := last.cardDecisions.insert d.decisionId (d.audit outcome) } := by
    subst none
    cases rewrittenTarget
    rcases second with ⟨-, -, rfl⟩ | ⟨_, _, impossible, -⟩
    · obtain ⟨row', change, cards⟩ := change
      exact .alone row row' (isAction ▸ one) found (isAction ▸ change) cards
    · cases impossible
  -- two changed cards: the decided one and the demoted one
  have double {action : Action} {old newOld : Doc} {currentness : String} (isAction : d.action = action)
      (isTarget : target = some old) (some_ : changedTarget = some newOld)
      (demotes : Demotes old newOld currentness) (pending : Pending card)
      (ending : action = .supersede ∧ currentness = "superseded" ∨
        action = .stale ∧ currentness = "stale")
      (change : ∃ row', CardChange lib c row row' action.kind ∧
        mid.cards = db.cards.insert d.memoryId row') :
      Effect lib d c db { last with
        cardDecisions := last.cardDecisions.insert d.decisionId (d.audit outcome) } := by
    subst some_
    obtain ⟨row', change, cards⟩ := change
    obtain ⟨id, trow, named, foundOld, heldOld, ownOld, apart⟩ :=
      lockedTarget isTarget demotes.approved pending
    obtain ⟨rewrittenOld, rewritten, rfl⟩ := mapM_some_eq_ok rewrittenTarget
    rcases second with ⟨impossible, -⟩ | ⟨_, _, isSecond, -, second⟩
    · cases impossible
    · cases isSecond
      have ended : currentness ∈ ["superseded", "stale"] := by
        rcases ending with ⟨-, rfl⟩ | ⟨-, rfl⟩ <;> simp
      obtain ⟨old', demoted, cards⟩ := demotes.second ended ownOld foundOld heldOld apart cards
        (isTarget ▸ rewritten) second
      exact .pair id currentness row row' trow old' named apart found foundOld (isAction ▸ change)
        demoted (isAction ▸ ending) cards
  cases lawful with
  | approve accepts =>
      exact single isAction (by simp) rfl (accepts.change ownCard found held (claim rfl) first)
  | autoAccept accepts =>
      exact single isAction (by simp) rfl (accepts.change ownCard found held (claim rfl) first)
  | reject rejects =>
      exact single isAction (by simp) rfl (rejects.change ownCard found held first)
  | supersede old newOld isTarget accepts demotes =>
      exact double isAction isTarget rfl demotes accepts.pending (.inl ⟨rfl, rfl⟩)
        (accepts.change ownCard found held (claim rfl) first)
  | stale old newOld isTarget closes demotes =>
      exact double isAction isTarget rfl demotes closes.pending (.inr ⟨rfl, rfl⟩)
        (closes.change ownCard found held first)

end Decisions

end Neurons.Steward
