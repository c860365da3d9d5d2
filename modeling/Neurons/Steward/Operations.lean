import Mathlib.Logic.Relation
import Neurons.Steward.Authority

/-! # What the operations do to the cards

Each operation of the service proposes a fresh pending card, makes decisions with
the service's transforms, or leaves the cards alone.
-/

namespace Neurons.Steward

open Neurons.Lib
open Neurons.Source

/-! ## Moves of the card table -/

/-- One write of the service to the card table. Where `carries` holds, a proposal
    comes with its content hash. -/
inductive Move (lib : Library) (carries : Prop) (db db' : Db) : Prop
  | idle (cards : db'.cards = db.cards)
  | proposed (id : String) (row : CardRow) (card : Doc) (fresh : db.cards.get? id = none)
      (held : row.stewardEnvelope = some card) (sound : Sound lib id row card)
      (pending : Pending card) (contentHash : row.contentHash = varchar 71 (card.text .contentHash))
      (hash : carries → ∃ hash, card.get? .contentHash = some (.str hash) ∧ varchar 71 hash = hash)
      (cards : db'.cards = db.cards.insert id row)
  | decided (d : Decision) (c : Int) (effect : Effect lib d c db db')

section Moves

variable {lib : Library} {carries : Prop}

theorem CardChange.revised {c : Int} {row row' : CardRow} {kind : ChangeKind}
    (change : CardChange lib c row row' kind) : ∃ card card', Revised lib row row' card card' := by
  cases change with
  | accepted card card' revised => exact ⟨card, card', revised⟩
  | rejected card card' revised => exact ⟨card, card', revised⟩
  | closed card card' revised => exact ⟨card, card', revised⟩
  | demoted card card' revised => exact ⟨card, card', revised⟩

/-- A property of rows that every change keeps holds throughout the table after a
    decision. -/
theorem Effect.rows {d : Decision} {c : Int} {db db' : Db} (effect : Effect lib d c db db')
    {keeps : String → CardRow → Prop} (before : ∀ id row, db.cards.get? id = some row → keeps id row)
    (changes : ∀ id row row' kind, db.cards.get? id = some row → CardChange lib c row row' kind →
      keeps id row') : ∀ id row, db'.cards.get? id = some row → keeps id row := by
  intro id row found
  cases effect with
  | alone row₁ row' single found₁ change cards =>
      rw [cards, Dict.get?_insert] at found
      split at found
      · next same =>
          cases found
          exact same ▸ changes _ _ _ _ found₁ change
      · exact before id row found
  | pair targetId currentness row₁ row' old old' target apart found₁ foundTarget change demoted ending
      cards =>
      rw [cards, Dict.get?_insert, Dict.get?_insert] at found
      split at found
      · next same =>
          cases found
          exact same ▸ changes _ _ _ _ foundTarget demoted
      · split at found
        · next same =>
            cases found
            exact same ▸ changes _ _ _ _ found₁ change
        · exact before id row found

/-- A decision keeps every row sound. -/
theorem Effect.sound {d : Decision} {c : Int} {db db' : Db} (effect : Effect lib d c db db')
    (sound : db.Sound lib) : db'.Sound lib where
  keyed := by
    refine effect.rows sound.keyed fun id row row' kind found change => ?_
    obtain ⟨_, _, revised⟩ := change.revised
    rw [revised.updated.memoryId, sound.keyed id row found]
  rows := by
    have kept : ∀ id row, db'.cards.get? id = some row →
        ∀ card, row.stewardEnvelope = some card → Sound lib id row card := by
      refine effect.rows (fun id row found card held => sound.rows id row card found held) ?_
      intro id row row' kind found change card held
      obtain ⟨card₀, _, revised⟩ := change.revised
      exact change.sound (sound.rows id row card₀ found revised.before) revised.before held
    exact fun id row card found held => kept id row found card held

/-- A decision keeps every row the steward's. -/
theorem Effect.stewarded {d : Decision} {c : Int} {db db' : Db} (effect : Effect lib d c db db')
    (own : db.Stewarded lib) : db'.Stewarded lib where
  keyed := by
    refine effect.rows own.keyed fun id row row' kind found change => ?_
    obtain ⟨_, _, revised⟩ := change.revised
    rw [revised.updated.memoryId, own.keyed id row found]
  rows := by
    have kept : ∀ id row, db'.cards.get? id = some row →
        ∀ card, row.stewardEnvelope = some card → Stewarded lib id row card := by
      refine effect.rows (fun id row found card held => own.rows id row card found held) ?_
      intro id row row' kind found change card held
      obtain ⟨card₀, _, revised⟩ := change.revised
      exact change.stewarded (own.rows id row card₀ found revised.before) revised.before held
    exact fun id row card found held => kept id row found card held

/-- A row that is written under its own id, and is the steward's if it has an envelope. -/
theorem Db.Stewarded.write {db db' : Db} (own : db.Stewarded lib) {row : CardRow}
    (cards : db'.cards = db.cards.insert row.memoryId row)
    (ownRow : ∀ card, row.stewardEnvelope = some card → Steward.Stewarded lib row.memoryId row card) :
    db'.Stewarded lib := by
  constructor
  · intro id row' found
    rw [cards, Dict.get?_insert] at found
    split at found
    · next same =>
        cases found
        exact same.symm
    · exact own.keyed id row' found
  · intro id row' card found held
    rw [cards, Dict.get?_insert] at found
    split at found
    · next same =>
        cases found
        exact same ▸ ownRow card held
    · exact own.rows id row' card found held

theorem Move.stewarded {db db' : Db} (move : Move lib carries db db') (own : db.Stewarded lib) :
    db'.Stewarded lib := by
  cases move with
  | idle cards => exact ⟨cards ▸ own.keyed, cards ▸ own.rows⟩
  | proposed id row card fresh held soundRow pending contentHash hash cards =>
      have key := soundRow.key
      subst key
      refine own.write cards fun card' held' => ?_
      cases Option.some.inj (held.symm.trans held')
      exact soundRow.stewarded
  | decided d c effect => exact effect.stewarded own

/-- A move keeps every row sound as well. -/
theorem Move.sound {db db' : Db} (move : Move lib carries db db') (sound : db.Sound lib) :
    db'.Sound lib := by
  cases move with
  | idle cards => exact ⟨cards ▸ sound.keyed, cards ▸ sound.rows⟩
  | proposed id row card fresh held soundRow pending contentHash hash cards =>
      refine ⟨fun id' row' found => ?_, fun id' row' card' found held' => ?_⟩
      · rw [cards, Dict.get?_insert] at found
        split at found
        · next same =>
            cases found
            exact same ▸ soundRow.key
        · exact sound.keyed id' row' found
      · rw [cards, Dict.get?_insert] at found
        split at found
        · next same =>
            cases found
            rw [held, Option.some.injEq] at held'
            exact same ▸ held' ▸ soundRow
        · exact sound.rows id' row' card' found held'
  | decided d c effect => exact effect.sound sound

end Moves

/-! ## Proposals -/

section Proposals

variable {lib : Library} {carries : Prop}

/-- What the service makes of an envelope before it stores it. -/
structure Draft (envelope : Doc) : Prop where
  memoryId : ∃ id, envelope.get? .memoryId = some (.str id) ∧ id.length ≤ 64
  unapproved : isApproved envelope = false
  claim : envelope.get? .stewardProposalKind = some (.str "stale") →
    envelope.get? .currentness = some (.str "stale")

theorem validateEnums_currentness {card : Doc} (valid : validateEnums card = .ok ()) :
    oneOf card .currentness currentnessValues = true := by
  unfold validateEnums at valid
  obtain ⟨⟨⟩, -, valid⟩ := bind_eq_ok.mp valid
  obtain ⟨⟨⟩, -, valid⟩ := bind_eq_ok.mp valid
  obtain ⟨⟨⟩, -, valid⟩ := bind_eq_ok.mp valid
  obtain ⟨⟨⟩, -, valid⟩ := bind_eq_ok.mp valid
  obtain ⟨⟨⟩, -, valid⟩ := bind_eq_ok.mp valid
  obtain ⟨⟨⟩, -, valid⟩ := bind_eq_ok.mp valid
  obtain ⟨⟨⟩, checked, -⟩ := bind_eq_ok.mp valid
  simpa [requireEnum] using checked

/-- Only a text is blank or starts like a content hash. -/
theorem str_of_legacyContentHash {v : Json} (valid : legacyContentHash v.text = true) :
    ∃ hash, v = .str hash := by
  simp only [legacyContentHash, hasPrefix, Bool.or_eq_true, beq_iff_eq, Bool.and_eq_true,
    List.isPrefixOf_iff_prefix] at valid
  cases valid with
  | inl blank => exact ⟨"", Json.eq_str_of_text_blank blank⟩
  | inr prefixed =>
      obtain ⟨⟨rest, shape⟩, -⟩ := prefixed
      exact ⟨v.text, Json.eq_str_of_text (c := 's') (by rw [← shape]; simp; rfl) (by decide) rfl⟩

/-- A content hash that is there is a text. -/
theorem validateEnums_contentHash {card : Doc} (valid : validateEnums card = .ok ())
    (there : value card .contentHash ≠ .null) :
    ∃ hash, card.get? .contentHash = some (.str hash) := by
  have checked : validateContentHash (value card .contentHash) = .ok () := by
    unfold validateEnums at valid
    obtain ⟨⟨⟩, -, valid⟩ := bind_eq_ok.mp valid
    obtain ⟨⟨⟩, -, valid⟩ := bind_eq_ok.mp valid
    obtain ⟨⟨⟩, -, valid⟩ := bind_eq_ok.mp valid
    obtain ⟨⟨⟩, -, valid⟩ := bind_eq_ok.mp valid
    obtain ⟨⟨⟩, -, valid⟩ := bind_eq_ok.mp valid
    obtain ⟨⟨⟩, -, valid⟩ := bind_eq_ok.mp valid
    obtain ⟨⟨⟩, -, valid⟩ := bind_eq_ok.mp valid
    rw [if_pos there] at valid
    split at valid
    · obtain ⟨⟨⟩, -, valid⟩ := bind_eq_ok.mp valid
      exact valid
    · exact valid
  rw [validateContentHash, refuseIf_eq_ok, Bool.not_eq_false] at checked
  obtain ⟨hash, text⟩ := str_of_legacyContentHash checked
  refine ⟨hash, ?_⟩
  unfold value at there text
  cases held : card.get? .contentHash with
  | none => simp [held] at there
  | some v =>
      rw [held, Option.getD_some] at text
      rw [text]

/-- The row of an envelope on its way into the table. -/
structure Drafted (envelope : Doc) (row : CardRow) : Prop where
  memoryId : ∃ v, envelope.get? .memoryId = some v ∧ row.memoryId = v.text
  lifecycle : row.lifecycleState = textOr envelope .lifecycleState "candidate"
  authorization : row.authorizationStatus = "disabled"
  currentness : row.currentness = textOr envelope .currentness "current"
  title : row.title = envelope.text .title
  summary : row.summary = envelope.text .summary
  typedPayload : row.typedPayload = (envelope.value? .typedPayload).getD (.obj [])
  contentHash : row.contentHash = envelope.text .contentHash

theorem buildPgCard_eq_ok {now : Int} {envelope : Doc} {row : CardRow}
    (done : buildPgCard lib now envelope = .ok row) : Drafted envelope row := by
  simp only [buildPgCard, bind_eq_ok, index_eq_ok, pure_eq_ok, Except.ok.injEq] at done
  obtain ⟨_, -, _, -, ⟨⟩, -, id, memoryId, _, -, _, -, rfl⟩ := done
  exact ⟨⟨id, memoryId, rfl⟩, rfl, rfl, rfl, rfl, rfl, rfl, rfl⟩

/-- A stored proposal is a replay, or a fresh pending row. -/
theorem putStewardProposal_eq_ok {now : Int} {envelope stored : Doc} {db db' : Db}
    (done : putStewardProposal lib now envelope db = .ok (stored, db')) :
    db' = db ∨ ∃ row, Drafted envelope row ∧ db.cards.get? row.stored.memoryId = none ∧
      validateMemoryCardEnvelope lib envelope = .ok () ∧ Pending envelope ∧
      envelope.get? .authorizationStatus = some (.str "disabled") ∧
      row.project ≠ "" ∧ (∀ t ∈ row.validTo, row.validFrom ≤ t) ∧
      db'.cards = db.cards.insert row.stored.memoryId
        { row.stored with
          stewardEnvelope := if row.stored.memoryId = row.memoryId then some envelope else none } := by
  unfold putStewardProposal at done
  obtain ⟨⟨⟩, valid, done⟩ := bind_eq_ok.mp done
  obtain ⟨⟨⟩, gate, done⟩ := bind_eq_ok.mp done
  rw [refuseIf_eq_ok, not_or, not_not, Bool.not_eq_false] at gate
  obtain ⟨row, built, done⟩ := bind_eq_ok.mp done
  cases taken : db.cards.get? row.memoryId with
  | some previous =>
      simp only [taken, bind_eq_ok, pure_eq_ok, Except.ok.injEq, Prod.mk.injEq] at done
      obtain ⟨_, -, -, rfl⟩ := done
      exact .inl rfl
  | none =>
      simp only [taken, insertCard, validateCard, bind_eq_ok, refuseIf_eq_ok, not_not, not_or,
        pure_eq_ok, Except.ok.injEq, Prod.mk.injEq] at done
      obtain ⟨_, ⟨⟨⟩, ⟨⟨⟩, identity, -⟩, ⟨⟩, fits, ⟨⟩, free, rfl⟩, -, rfl⟩ := done
      exact .inr ⟨row, buildPgCard_eq_ok built, by simpa [CardRow.stored] using free, valid, gate.1,
        gate.2, identity.2.1, fits.2.2.2.2.1, rfl⟩

/-- A drafted envelope is stored as a sound pending row. -/
theorem putStewardProposal_move {now : Int} {envelope stored : Doc} {db db' : Db}
    (draft : Draft envelope)
    (hash : carries → ∃ hash, envelope.get? .contentHash = some (.str hash) ∧ varchar 71 hash = hash)
    (done : putStewardProposal lib now envelope db = .ok (stored, db')) : Move lib carries db db' := by
  rcases putStewardProposal_eq_ok done with
    rfl | ⟨row, drafted, fresh, valid, pending, disabled, project, ordered, cards⟩
  · exact .idle rfl
  · obtain ⟨id, memoryId, short⟩ := draft.memoryId
    have key : row.stored.memoryId = id := by
      obtain ⟨v, held, text⟩ := drafted.memoryId
      rw [memoryId, Option.some.injEq] at held
      subst held
      have named : row.memoryId = id := text
      rw [CardRow.stored, named, varchar_eq_self short]
    have whole : row.stored.memoryId = row.memoryId := by
      obtain ⟨v, held, text⟩ := drafted.memoryId
      rw [memoryId, Option.some.injEq] at held
      subst held
      exact key.trans text.symm
    rw [if_pos whole] at cards
    have hashed : row.stored.contentHash = varchar 71 (envelope.text .contentHash) := by
      rw [← drafted.contentHash, CardRow.stored]
    obtain ⟨state, review, lifecycle⟩ := oneOf_eq_true_iff.mp pending
    have stateNe : state ≠ "" := by
      rintro rfl
      simp [reviewLifecycleStates] at review
    have sameState : row.lifecycleState = state :=
      drafted.lifecycle.trans (textOr_of_str lifecycle stateNe)
    obtain ⟨current, allowed, currentness⟩ : ∃ s ∈ currentnessValues,
        envelope.get? .currentness = some (.str s) := by
      simp only [validateMemoryCardEnvelope, bind_eq_ok] at valid
      obtain ⟨⟨⟩, -, ⟨⟩, enums, -⟩ := valid
      exact oneOf_eq_true_iff.mp (validateEnums_currentness enums)
    have currentNe : current ≠ "" := by
      rintro rfl
      simp [currentnessValues] at allowed
    have sameCurrent : row.currentness = current :=
      drafted.currentness.trans (textOr_of_str currentness currentNe)
    have columns : row.stored.lifecycleState = row.lifecycleState ∧
        row.stored.authorizationStatus = row.authorizationStatus ∧
        row.stored.currentness = row.currentness := ⟨rfl, rfl, rfl⟩
    rw [← columns.1] at sameState
    rw [← columns.2.2] at sameCurrent
    have sameStatus : row.stored.authorizationStatus = "disabled" := columns.2.1.trans drafted.authorization
    refine .proposed id { row.stored with stewardEnvelope := some envelope } envelope (key ▸ fresh) rfl
      ?_ pending hashed hash (key ▸ cards)
    refine ⟨key, varchar_ne_empty (by simp) project, ordered, memoryId, ?_, ?_, ?_, ?_, .pending ?_ sameStatus draft.unapproved, ?_, ?_⟩
    · rw [lifecycle, ← sameState]
    · rw [disabled, ← sameStatus]
    · rw [currentness, ← sameCurrent]
    · exact sameCurrent ▸ currentNe
    · exact sameState ▸ review
    · intro kind (now : row.stored.currentness = "current")
      rw [draft.claim kind, Option.some.injEq, Json.str.injEq] at currentness
      rw [sameCurrent, ← currentness] at now
      simp at now
    · intro decided
      have lifecycleState : row.stored.lifecycleState ∈ decidedLifecycleStates := decided
      rw [sameState] at lifecycleState
      simp only [reviewLifecycleStates, decidedLifecycleStates, List.mem_cons, List.not_mem_nil,
        or_false] at review lifecycleState
      rcases lifecycleState with state | state <;> simp [state] at review

variable (lib) in
/-- A mined envelope is a suggestion that carries its content hash. -/
theorem CandidateParts.card_get? (parts : CandidateParts) (span : Doc)
    (refreshWatermark miningReason : String) :
    (parts.card lib span refreshWatermark miningReason).get? .approvalState =
        some (.str "suggested") ∧
      (parts.card lib span refreshWatermark miningReason).get? .contentHash =
        some (.str parts.contentHash) := by
  unfold CandidateParts.card
  cases span.get? .observedAt with
  | none => simp [Doc.ofFields, Doc.get?_set]
  | some observed => simp [Doc.ofFields, Doc.get?_set]

theorem isApproved_of_other {d : Doc} {s : String} (held : d.get? .approvalState = some (.str s))
    (other : s ∉ acceptedApprovalStates) : isApproved d = false := by
  simp [isApproved, oneOf, held, other]

theorem candidateParts_contentHash {span : Doc} {parts : CandidateParts}
    (done : candidateParts lib span = .ok parts) : parts.contentHash = span.text .contentHash := by
  simp only [candidateParts, required, bind_eq_ok, refuseIf_eq_ok, pure_eq_ok, Except.ok.injEq] at done
  obtain ⟨⟨⟩, -, _, -, _, -, v, held, ⟨⟩, legacy, _, -, ⟨⟩, -, _, -, ⟨⟩, -, _, -, _, -, _, -, rfl⟩ := done
  rw [Bool.not_eq_false] at legacy
  obtain ⟨hash, rfl⟩ := str_of_legacyContentHash legacy
  cases named : span.get? .contentHash with
  | none => simp [named] at held
  | some v =>
      simp only [named, Except.ok.injEq] at held
      subst held
      exact (Doc.text_of_str named).symm

/-- A completed envelope comes with its content hash, and the column of the content hash cuts
    nothing off. -/
def CarriesHash (span : Doc) : Prop :=
  (isCompleted span = true → value span .contentHash ≠ .null) ∧
    varchar 71 (span.text .contentHash) = span.text .contentHash

/-- A candidate is a suggestion, with the content hash it came with. -/
theorem buildCandidate_eq_ok {span card : Doc} {refreshWatermark miningReason : String}
    (done : buildCandidate lib span refreshWatermark miningReason = .ok card) :
    isApproved card = false ∧
      (CarriesHash span → ∃ hash, card.get? .contentHash = some (.str hash) ∧ varchar 71 hash = hash) := by
  unfold buildCandidate at done
  split at done
  · next completed =>
      obtain ⟨⟨⟩, checked, same⟩ := bind_eq_ok.mp done
      cases same
      simp only [checkCompletedEnvelope, bind_eq_ok, refuseIf_eq_ok, not_or, Bool.not_eq_false] at checked
      obtain ⟨⟨⟩, -, ⟨⟩, -, ⟨⟩, valid, ⟨⟩, ⟨-, approval, -⟩, -⟩ := checked
      refine ⟨?_, fun carries => ?_⟩
      · obtain ⟨s, mem, held⟩ := oneOf_eq_true_iff.mp approval
        refine isApproved_of_other held ?_
        simp only [List.mem_cons, List.not_mem_nil, or_false] at mem
        rcases mem with rfl | rfl <;> simp [acceptedApprovalStates]
      · simp only [validateMemoryCardEnvelope, bind_eq_ok] at valid
        obtain ⟨⟨⟩, -, ⟨⟩, enums, -⟩ := valid
        obtain ⟨hash, held⟩ := validateEnums_contentHash enums (carries.1 completed)
        exact ⟨hash, held, Doc.text_of_str held ▸ carries.2⟩
  · simp only [buildMemoryCardCandidateFromSourceSpan, bind_eq_ok, pure_eq_ok,
      Except.ok.injEq] at done
    obtain ⟨parts, built, ⟨⟩, -, ⟨⟩, -, rfl⟩ := done
    obtain ⟨approval, hash⟩ := parts.card_get? lib span refreshWatermark miningReason
    refine ⟨isApproved_of_other approval (by simp [acceptedApprovalStates]), fun carries => ⟨_, hash, ?_⟩⟩
    rw [candidateParts_contentHash built]
    exact carries.2

/-- A stamped card is a draft of its kind. -/
theorem stampProposal_draft {card : Doc} {kind targetMemoryId proposer : String}
    (unapproved : isApproved card = false) (noClaim : kind ≠ "stale") :
    Draft (stampProposal lib card kind targetMemoryId proposer) := by
  unfold stampProposal
  by_cases named : targetMemoryId = "" <;>
  · refine ⟨⟨_, by simp [named, Doc.get?_set]; rfl, stewardProposalId_length_le lib _⟩, ?_, ?_⟩
    · rw [← unapproved]
      exact oneOf_congr (by simp [named, Doc.get?_set]) _
    · intro claim
      simp [named, Doc.get?_set, noClaim] at claim

theorem stampProposal_contentHash (card : Doc) (kind targetMemoryId proposer : String) :
    (stampProposal lib card kind targetMemoryId proposer).get? .contentHash =
      card.get? .contentHash := by
  unfold stampProposal
  by_cases named : targetMemoryId = "" <;> simp [named, Doc.get?_set]

theorem persistProposal_eq_ok {svc : Service} {card : Doc} {plan : Plan}
    (done : persistProposal lib svc card = .ok plan) : plan = .propose card (proposalResult lib) := by
  simp only [persistProposal, bind_eq_ok, pure_eq_ok, Except.ok.injEq] at done
  obtain ⟨⟨⟩, -, ⟨⟩, -, ⟨⟩, -, ⟨⟩, -, rfl⟩ := done
  rfl

theorem markCandidateNeedsReview_eq_ok {card reviewed : Doc} {reason decisionId : String}
    (done : markCandidateNeedsReview lib card reason decisionId = .ok reviewed) :
    isApproved reviewed = false ∧ reviewed.get? .contentHash = card.get? .contentHash := by
  simp only [markCandidateNeedsReview, bind_eq_ok, pure_eq_ok, Except.ok.injEq] at done
  obtain ⟨_, revised, ⟨⟩, -, rfl⟩ := done
  rw [revise_eq_ok revised]
  refine ⟨isApproved_of_other (s := "needs_review") ?_ (by simp [acceptedApprovalStates]), ?_⟩ <;>
  simp [Doc.get?_set]

end Proposals

/-! ## Plans -/

/-- What the service's own operations settle on, against the state they read. -/
inductive Planned (lib : Library) (db : Db) (carries : Prop) : Plan → Prop
  | answer (reply : Reply) : Planned lib db carries (.answer reply)
  | propose (envelope : Doc) (reply : Doc → Except PyError Reply) (draft : Draft envelope)
      (hash : carries → ∃ hash, envelope.get? .contentHash = some (.str hash) ∧ varchar 71 hash = hash) :
      Planned lib db carries (.propose envelope reply)
  | decision (d : Decision) (transform : Transform) (reply : Outcome → Except PyError Reply)
      (treats : Treats d db transform) : Planned lib db carries (.decision d transform reply)
  | bundle (b : BundleRequest) (commit : BundleCommit) (ids : List String) (now : Int) :
      Planned lib db carries (.bundle b (bundleDecide lib commit ids now))

section Plans

variable {lib : Library} {svc : Service} {db : Db} {plan : Plan} {carries : Prop}

theorem candidateCreate_planned {span : Doc} {watermark : String} {review : Bool}
    {reason decisionId proposer : String}
    (done : candidateCreate lib svc span watermark review reason decisionId proposer = .ok plan) :
    Planned lib db (CarriesHash span) plan := by
  unfold candidateCreate at done
  obtain ⟨card, built, done⟩ := bind_eq_ok.mp done
  cases review with
  | true =>
      simp only [if_true, bind_eq_ok] at done
      obtain ⟨reviewed, marked, done⟩ := done
      obtain ⟨unapproved, kept⟩ := markCandidateNeedsReview_eq_ok marked
      rw [persistProposal_eq_ok done]
      refine .propose _ _ (stampProposal_draft unapproved (by simp)) fun carries => ?_
      rw [stampProposal_contentHash, kept]
      exact (buildCandidate_eq_ok built).2 carries
  | false =>
      simp only [Bool.false_eq_true, if_false] at done
      rw [persistProposal_eq_ok done]
      refine .propose _ _ (stampProposal_draft (buildCandidate_eq_ok built).1 (by simp))
        fun carries => ?_
      rw [stampProposal_contentHash]
      exact (buildCandidate_eq_ok built).2 carries

theorem staleMark_planned {memoryId reason proposer now : String}
    (done : staleMark lib svc memoryId reason proposer now db = .ok plan) : Planned lib db carries plan := by
  simp only [staleMark, bind_eq_ok] at done
  obtain ⟨⟨⟩, -, ⟨⟩, -, done⟩ := done
  cases found : getStewardCard memoryId db with
  | none => simp [found] at done
  | some target =>
      simp only [found, bind_eq_ok] at done
      obtain ⟨proposal, built, done⟩ := done
      rw [persistProposal_eq_ok done]
      simp only [buildStaleProposalCard, bind_eq_ok, pure_eq_ok, Except.ok.injEq] at built
      obtain ⟨⟨⟩, -, ⟨⟩, -, ⟨⟩, -, rfl⟩ := built
      refine .propose _ _
        ⟨⟨_, by simp [Doc.get?_set]; rfl, stewardProposalId_length_le lib _⟩, ?_, fun _ => ?_⟩
        (fun _ => ⟨_, by simp [Doc.get?_set]; rfl,
          varchar_eq_self (hashLike_length (hashLike_sha256Hash _ _)).le⟩)
      · exact isApproved_of_other (by simp [Doc.get?_set, Doc.ofFields]; rfl)
          (by simp [acceptedApprovalStates])
      · simp [Doc.get?_set, Doc.ofFields]

theorem supersedePropose_planned {old : String} {span : Doc} {watermark proposer : String}
    (done : supersedePropose lib svc old span watermark proposer db = .ok plan) :
    Planned lib db (CarriesHash span) plan := by
  simp only [supersedePropose, bind_eq_ok] at done
  obtain ⟨⟨⟩, -, done⟩ := done
  cases found : getStewardCard old db with
  | none => simp [found] at done
  | some target =>
      simp only [found, bind_eq_ok] at done
      obtain ⟨card, built, ⟨⟩, -, done⟩ := done
      rw [persistProposal_eq_ok done]
      refine .propose _ _ (stampProposal_draft ?_ (by simp)) fun carries => ?_
      · rw [← (buildCandidate_eq_ok built).1]
        exact oneOf_congr (by simp [Doc.get?_set]) _
      · rw [stampProposal_contentHash, Doc.get?_set, if_neg (by simp)]
        exact (buildCandidate_eq_ok built).2 carries

/-- A stored card found under its id carries that id. -/
theorem Db.Stewarded.memoryId {id : String} {card : Doc} (own : db.Stewarded lib)
    (found : getStewardCard id db = some card) : card.get? .memoryId = some (.str id) := by
  unfold getStewardCard at found
  obtain ⟨row, held, envelope⟩ := Option.bind_eq_some_iff.mp found
  exact (own.rows id row card held envelope).memoryId

theorem loadPendingCandidate_eq_ok {id : String} {card : Doc}
    (done : loadPendingCandidate id db = .ok card) : getStewardCard id db = some card ∧
      card.get? .stewardProposalKind ≠ some (.str "stale") := by
  unfold loadPendingCandidate at done
  cases found : getStewardCard id db with
  | none => simp [found] at done
  | some loaded =>
      simp only [found, bind_eq_ok, refuseIf_eq_ok, pure_eq_ok, Except.ok.injEq] at done
      obtain ⟨⟨⟩, -, ⟨⟩, kind, rfl⟩ := done
      refine ⟨rfl, fun claim => kind ?_⟩
      simp [textOr_of_str claim]

theorem loadProposalOfKind_eq_ok {id kind : String} {card : Doc}
    (done : loadProposalOfKind id kind db = .ok card) :
    getStewardCard id db = some card ∧ card.text .stewardProposalKind = kind := by
  unfold loadProposalOfKind at done
  cases found : getStewardCard id db with
  | none => simp [found] at done
  | some loaded =>
      simp only [found, bind_eq_ok, refuseIf_eq_ok, not_not, pure_eq_ok, Except.ok.injEq] at done
      obtain ⟨⟨⟩, -, ⟨⟩, named, rfl⟩ := done
      exact ⟨rfl, named⟩

/-- An operation on a loaded card answers for an earlier decision or goes on. -/
theorem orDecided_eq_ok {α : Type} {load : Except PyError α} {decided : Except PyError (Option Doc)}
    {again : Doc → Except PyError Plan} {go : α → Except PyError Plan}
    (done : orDecided load decided again go = .ok plan) :
    (∃ card, again card = .ok plan) ∨ ∃ loaded, load = .ok loaded ∧ go loaded = .ok plan := by
  unfold orDecided at done
  cases loaded : load with
  | ok value =>
      simp only [loaded] at done
      exact .inr ⟨value, rfl, done⟩
  | error e =>
      simp only [loaded] at done
      split at done
      · obtain ⟨found, -, done⟩ := bind_eq_ok.mp done
        cases found with
        | none => cases done
        | some card => exact .inl ⟨card, done⟩
      · cases done

theorem answerDecided_planned {decided : Doc} (done : answerDecided lib decided = .ok plan) :
    Planned lib db carries plan := by
  simp only [answerDecided, bind_eq_ok, pure_eq_ok, Except.ok.injEq] at done
  obtain ⟨reply, -, rfl⟩ := done
  exact .answer reply

theorem decideCandidate_planned {d : Decision} {go : Doc → Except PyError Plan}
    (goes : ∀ card, getStewardCard d.memoryId db = some card →
      card.get? .stewardProposalKind ≠ some (.str "stale") → go card = .ok plan → Planned lib db carries plan)
    (done : decideCandidate lib d go db = .ok plan) : Planned lib db carries plan := by
  unfold decideCandidate at done
  obtain ⟨earlier, -, done⟩ := bind_eq_ok.mp done
  cases earlier with
  | some decided => exact answerDecided_planned done
  | none =>
      rcases orDecided_eq_ok done with ⟨card, again⟩ | ⟨card, loaded, go⟩
      · exact answerDecided_planned again
      · obtain ⟨found, claim⟩ := loadPendingCandidate_eq_ok loaded
        exact goes card found claim go

theorem decideProposal_planned {id kind : String} {action : Action} {actor decisionId : String}
    {again : Doc → Option Doc → Except PyError Reply} {go : Doc → Doc → Except PyError Plan}
    (goes : ∀ proposal target, getStewardCard id db = some proposal →
      proposal.text .stewardProposalKind = kind → go proposal target = .ok plan →
      Planned lib db carries plan)
    (done : decideProposal id kind action actor decisionId again go db = .ok plan) :
    Planned lib db carries plan := by
  unfold decideProposal at done
  obtain ⟨earlier, -, done⟩ := bind_eq_ok.mp done
  have answered {decided : Doc} {target : Option Doc}
      (answer : (do return Plan.answer (← again decided target)) = Except.ok plan) :
      Planned lib db carries plan := by
    simp only [bind_eq_ok, pure_eq_ok, Except.ok.injEq] at answer
    obtain ⟨reply, -, rfl⟩ := answer
    exact .answer reply
  cases earlier with
  | some decided => exact answered done
  | none =>
      rcases orDecided_eq_ok done with ⟨card, repeated⟩ | ⟨⟨proposal, target⟩, loaded, go⟩
      · exact answered repeated
      · simp only [loadProposal, bind_eq_ok, pure_eq_ok, Except.ok.injEq, Prod.mk.injEq] at loaded
        obtain ⟨_, ofKind, _, -, rfl, rfl⟩ := loaded
        obtain ⟨found, named⟩ := loadProposalOfKind_eq_ok ofKind
        exact goes _ _ found named go

/-- The transform of a plan sees the card the plan was made from. -/
theorem Treats.of_loaded {d : Decision} {transform : Transform} {card : Doc}
    (found : getStewardCard d.memoryId db = some card)
    (claim : d.action.kind = .accepted → card.get? .stewardProposalKind ≠ some (.str "stale"))
    (lawful : ∀ target changed changedTarget, transform card target = .ok (changed, changedTarget) →
      Lawful card target changed d.action changedTarget) : Treats d db transform := by
  intro card' target changed changedTarget found' transformed
  rw [found, Option.some.injEq] at found'
  subst found'
  exact ⟨lawful target changed changedTarget transformed, claim⟩

theorem decisionOn_eq_ok {card : Doc} {decisionId : String} {action : Action}
    {actor targetMemoryId id : String} {d : Decision} (memoryId : card.get? .memoryId = some (.str id))
    (done : decisionOn card decisionId action actor targetMemoryId = .ok d) :
    d.memoryId = id ∧ d.action = action ∧ d.targetMemoryId = targetMemoryId := by
  simp only [decisionOn, bind_eq_ok, index_eq_ok, pure_eq_ok, Except.ok.injEq] at done
  obtain ⟨v, held, _, -, rfl⟩ := done
  rw [memoryId, Option.some.injEq] at held
  subst held
  exact ⟨rfl, rfl, rfl⟩

theorem candidateApprove_planned {id by_ decisionId now : String} (own : db.Stewarded lib)
    (done : candidateApprove lib svc id by_ decisionId now db = .ok plan) : Planned lib db carries plan := by
  simp only [candidateApprove, bind_eq_ok] at done
  obtain ⟨⟨⟩, -, ⟨⟩, -, done⟩ := done
  refine decideCandidate_planned (fun card found claim go => ?_) done
  simp only [bind_eq_ok, pure_eq_ok, Except.ok.injEq] at go
  obtain ⟨d, decided, rfl⟩ := go
  obtain ⟨same, action, -⟩ := decisionOn_eq_ok (own.memoryId found) decided
  exact .decision d _ _ (Treats.of_loaded (same ▸ found) (fun _ => claim)
    (fun _ _ _ => action ▸ approveTransform_lawful))

theorem candidateReject_planned {id by_ decisionId reason now : String}
    (done : candidateReject lib svc id by_ decisionId reason now db = .ok plan) :
    Planned lib db carries plan := by
  simp only [candidateReject, bind_eq_ok] at done
  obtain ⟨⟨⟩, -, ⟨⟩, -, done⟩ := done
  refine decideCandidate_planned (fun card found claim go => ?_) done
  simp only [bind_eq_ok, pure_eq_ok, Except.ok.injEq] at go
  obtain ⟨⟨⟩, -, hash, -, rfl⟩ := go
  exact .decision _ _ _ (Treats.of_loaded found (by simp [Action.kind])
    (fun _ _ _ => rejectTransform_lawful))

theorem candidateAutoAccept_planned {id ref : String} {evaluation : Doc} (own : db.Stewarded lib)
    (done : candidateAutoAccept lib svc id evaluation ref db = .ok plan) : Planned lib db carries plan := by
  simp only [candidateAutoAccept, bind_eq_ok] at done
  obtain ⟨⟨⟩, -, ⟨⟩, -, done⟩ := done
  refine decideCandidate_planned (fun card found claim go => ?_) done
  obtain ⟨eligible, -, go⟩ := bind_eq_ok.mp go
  cases eligible with
  | none =>
      cases go
      exact .answer _
  | some _ =>
      simp only [bind_eq_ok, pure_eq_ok, Except.ok.injEq] at go
      obtain ⟨d, decided, rfl⟩ := go
      obtain ⟨same, action, -⟩ := decisionOn_eq_ok (own.memoryId found) decided
      exact .decision d _ _ (Treats.of_loaded (same ▸ found) (fun _ => claim)
        (fun _ _ _ => action ▸ autoAcceptTransform_lawful))

theorem candidateAutopilotAccept_planned {id decisionId actor : String}
    (done : candidateAutopilotAccept lib svc id decisionId actor db = .ok plan) :
    Planned lib db carries plan := by
  simp only [candidateAutopilotAccept, bind_eq_ok] at done
  obtain ⟨⟨⟩, -, ⟨⟩, -, done⟩ := done
  refine decideCandidate_planned (fun card found claim go => ?_) done
  split at go
  · cases go
    exact .answer _
  · simp only [bind_eq_ok, pure_eq_ok, Except.ok.injEq] at go
    obtain ⟨hash, -, rfl⟩ := go
    exact .decision _ _ _ (Treats.of_loaded found (fun _ => claim)
      (fun _ _ _ => autopilotTransform_lawful))

theorem supersedeCommit_planned {id by_ decisionId now : String} (own : db.Stewarded lib)
    (done : supersedeCommit lib svc id by_ decisionId now db = .ok plan) : Planned lib db carries plan := by
  simp only [supersedeCommit, bind_eq_ok] at done
  obtain ⟨⟨⟩, -, ⟨⟩, -, done⟩ := done
  refine decideProposal_planned (fun proposal target found named go => ?_) done
  simp only [bind_eq_ok, pure_eq_ok, Except.ok.injEq] at go
  obtain ⟨_, -, d, decided, rfl⟩ := go
  obtain ⟨same, action, -⟩ := decisionOn_eq_ok (own.memoryId found) decided
  refine .decision d _ _ (Treats.of_loaded (same ▸ found) (fun _ claim => ?_)
    (fun _ _ _ => action ▸ supersedeTransform_lawful))
  rw [Doc.text_of_str claim] at named
  simp at named

theorem staleCommit_planned {id by_ decisionId now : String}
    (done : staleCommit lib svc id by_ decisionId now db = .ok plan) : Planned lib db carries plan := by
  simp only [staleCommit, bind_eq_ok] at done
  obtain ⟨⟨⟩, -, ⟨⟩, -, done⟩ := done
  refine decideProposal_planned (fun proposal target found named go => ?_) done
  simp only [bind_eq_ok, pure_eq_ok, Except.ok.injEq] at go
  obtain ⟨hash, -, rfl⟩ := go
  exact .decision _ _ _ (Treats.of_loaded found (by simp [Action.kind])
    (fun _ _ _ => staleTransform_lawful))

theorem reviewBundleCommit_planned {commit : BundleCommit} {now : Int}
    (done : reviewBundleCommit lib svc commit now = .ok plan) : Planned lib db carries plan := by
  simp only [reviewBundleCommit, commitBundle, bind_eq_ok, pure_eq_ok, Except.ok.injEq] at done
  obtain ⟨⟨⟩, -, ⟨⟩, -, ids, -, ⟨⟩, -, ⟨⟩, -, ⟨⟩, -, ⟨⟩, -, ⟨⟩, -, rfl⟩ := done
  exact .bundle _ commit ids now

/-- A proposed span that is a completed envelope comes with its content hash. -/
def Call.CarriesContentHash (call : Call) : Prop :=
  match call.op with
  | .candidateCreate span _ _ _ _ _ => CarriesHash span
  | .supersedePropose _ span _ _ => CarriesHash span
  | _ => True

/-- Every operation settles on one of the planned transactions. -/
theorem planOf_planned {call : Call} (own : db.Stewarded lib) (done : planOf lib call db = .ok plan) :
    Planned lib db call.CarriesContentHash plan := by
  unfold planOf at done
  unfold Call.CarriesContentHash
  cases op : call.op with
  | candidateCreate => exact candidateCreate_planned (by simpa only [op] using done)
  | staleMark => exact staleMark_planned (by simpa only [op] using done)
  | supersedePropose => exact supersedePropose_planned (by simpa only [op] using done)
  | candidateApprove => exact candidateApprove_planned own (by simpa only [op] using done)
  | candidateReject => exact candidateReject_planned (by simpa only [op] using done)
  | candidateAutoAccept => exact candidateAutoAccept_planned own (by simpa only [op] using done)
  | candidateAutopilotAccept =>
      exact candidateAutopilotAccept_planned (by simpa only [op] using done)
  | supersedeCommit => exact supersedeCommit_planned own (by simpa only [op] using done)
  | staleCommit => exact staleCommit_planned (by simpa only [op] using done)
  | reviewBundleCommit => exact reviewBundleCommit_planned (by simpa only [op] using done)

end Plans

end Neurons.Steward
