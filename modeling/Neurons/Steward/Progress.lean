import Neurons.Steward.Members
import Neurons.Steward.ReferenceRun

/-! # Runs of the steward

In every run the columns of a steward row agree with its envelope, a card is
decided at most once, an accepted card stops being current at most once, and the
content of a card never changes.
-/

namespace Neurons.Steward

open Neurons.Lib
open Neurons.Source

/-! ## One row over time -/

/-- The lifecycle states of a decided row. -/
def settledLifecycleStates : List String := "human_rejected" :: decidedLifecycleStates

/-- What can have become of a row: decided once if it was pending, demoted once if
    it was accepted and current, with the same content. -/
structure Progress (row row' : CardRow) : Prop where
  columns : row'.memoryId = row.memoryId ∧ row'.project = row.project ∧
    row'.cardType = row.cardType ∧ row'.title = row.title ∧ row'.summary = row.summary ∧
    row'.typedPayload = row.typedPayload ∧ row'.contentHash = row.contentHash
  envelope : ∀ card, row.stewardEnvelope = some card →
    ∃ card', row'.stewardEnvelope = some card' ∧ SameContent card card'
  lifecycle : row'.lifecycleState = row.lifecycleState ∨
    row.lifecycleState ∈ reviewLifecycleStates ∧ row'.lifecycleState ∈ settledLifecycleStates
  currentness : row.lifecycleState ∈ decidedLifecycleStates →
    row'.currentness = row.currentness ∨
      row.currentness = "current" ∧ row'.currentness ∈ ["superseded", "stale"]

theorem Progress.refl (row : CardRow) : Progress row row where
  columns := ⟨rfl, rfl, rfl, rfl, rfl, rfl, rfl⟩
  envelope := fun card held => ⟨card, held, fun _ _ => rfl⟩
  lifecycle := .inl rfl
  currentness := fun _ => .inl rfl

theorem not_review_of_settled {state : String} (settled : state ∈ settledLifecycleStates) :
    state ∉ reviewLifecycleStates := by
  simp only [settledLifecycleStates, decidedLifecycleStates, List.mem_cons, List.not_mem_nil,
    or_false] at settled
  rcases settled with rfl | rfl | rfl <;> simp [reviewLifecycleStates]

theorem Progress.trans {a b c : CardRow} (ab : Progress a b) (bc : Progress b c) : Progress a c where
  columns := by
    obtain ⟨memoryId, project, cardType, title, summary, payload, hash⟩ := ab.columns
    obtain ⟨memoryId', project', cardType', title', summary', payload', hash'⟩ := bc.columns
    exact ⟨memoryId'.trans memoryId, project'.trans project, cardType'.trans cardType,
      title'.trans title, summary'.trans summary, payload'.trans payload, hash'.trans hash⟩
  envelope := by
    intro card held
    obtain ⟨card', held', same⟩ := ab.envelope card held
    obtain ⟨card'', held'', same'⟩ := bc.envelope card' held'
    exact ⟨card'', held'', fun f mem => (same' f mem).trans (same f mem)⟩
  lifecycle := by
    cases ab.lifecycle with
    | inl same =>
        rw [← same]
        exact bc.lifecycle
    | inr decided =>
        cases bc.lifecycle with
        | inl same => exact .inr ⟨decided.1, same ▸ decided.2⟩
        | inr again => exact absurd again.1 (not_review_of_settled decided.2)
  currentness := by
    intro accepted
    have stays : b.lifecycleState = a.lifecycleState := by
      cases ab.lifecycle with
      | inl same => exact same
      | inr decided =>
          exact absurd decided.1
            (not_review_of_settled (List.mem_cons_of_mem _ accepted))
    have later := bc.currentness (stays ▸ accepted)
    cases ab.currentness accepted with
    | inl same =>
        rw [← same]
        exact later
    | inr demoted =>
        cases later with
        | inl same => exact .inr ⟨demoted.1, same ▸ demoted.2⟩
        | inr again =>
            rw [again.1] at demoted
            simp at demoted

section Rows

variable {lib : Library} {carries : Prop}

/-- The columns of a row that no decision writes. -/
theorem Updated.columns {row row' : CardRow} {stored : Doc} (updated : Updated lib row stored row') :
    row'.memoryId = row.memoryId ∧ row'.project = row.project ∧ row'.cardType = row.cardType ∧
      row'.title = row.title ∧ row'.summary = row.summary ∧ row'.typedPayload = row.typedPayload ∧
      row'.contentHash = row.contentHash := by
  rw [updated.frame]
  exact ⟨rfl, rfl, rfl, rfl, rfl, rfl, rfl⟩

theorem Revised.progress {row row' : CardRow} {card card' : Doc}
    (revised : Revised lib row row' card card')
    (lifecycle : row'.lifecycleState = row.lifecycleState ∨
      row.lifecycleState ∈ reviewLifecycleStates ∧ row'.lifecycleState ∈ settledLifecycleStates)
    (currentness : row.lifecycleState ∈ decidedLifecycleStates →
      row'.currentness = row.currentness ∨
        row.currentness = "current" ∧ row'.currentness ∈ ["superseded", "stale"]) :
    Progress row row' where
  columns := revised.updated.columns
  envelope := by
    intro held same
    rw [revised.before, Option.some.injEq] at same
    subst same
    exact ⟨card', revised.updated.envelope, revised.content⟩
  lifecycle := lifecycle
  currentness := currentness

/-- Every change of a sound row is progress. -/
theorem CardChange.progress {c : Int} {id : String} {row row' : CardRow} {card : Doc}
    {kind : ChangeKind} (change : CardChange lib c row row' kind) (sound : Sound lib id row card)
    (held : row.stewardEnvelope = some card) : Progress row row' := by
  -- a pending row is not accepted, so its currentness is not an authority's
  have undecided (review : row.lifecycleState ∈ reviewLifecycleStates) :
      row.lifecycleState ∉ decidedLifecycleStates :=
    fun decided => not_review_of_settled (List.mem_cons_of_mem _ decided) review
  cases change with
  | accepted card₁ card₂ revised pending claim lifecycle =>
      cases Option.some.inj (revised.before.symm.trans held)
      have review := sound.lifecycle_of_pending pending
      exact revised.progress (.inr ⟨review, List.mem_cons_of_mem _ lifecycle⟩)
        (fun decided => absurd decided (undecided review))
  | rejected card₁ card₂ revised pending lifecycle =>
      cases Option.some.inj (revised.before.symm.trans held)
      have review := sound.lifecycle_of_pending pending
      exact revised.progress (.inr ⟨review, by simp [lifecycle, settledLifecycleStates]⟩)
        (fun decided => absurd decided (undecided review))
  | closed card₁ card₂ revised pending claim lifecycle =>
      cases Option.some.inj (revised.before.symm.trans held)
      have review := sound.lifecycle_of_pending pending
      exact revised.progress (.inr ⟨review, by
          simp [lifecycle, settledLifecycleStates, decidedLifecycleStates]⟩)
        (fun decided => absurd decided (undecided review))
  | demoted card₁ card₂ revised approved current lifecycle approval ended =>
      cases Option.some.inj (revised.before.symm.trans held)
      have before := sound.currentness
      rw [current, Option.some.injEq, Json.str.injEq] at before
      refine revised.progress (.inl (revised.lifecycle_eq sound lifecycle))
        (fun _ => .inr ⟨before.symm, ?_⟩)
      simpa using ended

/-! ## The card table over time -/

/-- Every steward row is still there and has only progressed. -/
def Db.Progressed (db db' : Db) : Prop :=
  ∀ id row card, db.cards.get? id = some row → row.stewardEnvelope = some card →
    ∃ row', db'.cards.get? id = some row' ∧ Progress row row'

theorem Db.Progressed.trans {a b c : Db} (ab : a.Progressed b) (bc : b.Progressed c) :
    a.Progressed c := by
  intro id row card found held
  obtain ⟨row', found', progress⟩ := ab id row card found held
  obtain ⟨card', held', -⟩ := progress.envelope card held
  obtain ⟨row'', found'', progress'⟩ := bc id row' card' found' held'
  exact ⟨row'', found'', progress.trans progress'⟩

theorem Effect.progressed {d : Decision} {c : Int} {db db' : Db} (effect : Effect lib d c db db')
    (sound : db.Sound lib) : db.Progressed db' := by
  intro id row card found held
  have soundRow := sound.rows id row card found held
  cases effect with
  | alone row₁ row' single found₁ change cards =>
      rw [cards]
      by_cases same : id = d.memoryId
      · subst same
        rw [found, Option.some.injEq] at found₁
        subst found₁
        exact ⟨row', Dict.get?_insert_self _ _ _, change.progress soundRow held⟩
      · exact ⟨row, by rw [Dict.get?_insert, if_neg same, found], Progress.refl row⟩
  | pair targetId currentness row₁ row' old old' target apart found₁ foundTarget change demoted ending
      cards =>
      rw [cards]
      by_cases isTarget : id = targetId
      · subst isTarget
        rw [found, Option.some.injEq] at foundTarget
        subst foundTarget
        exact ⟨old', Dict.get?_insert_self _ _ _, demoted.progress soundRow held⟩
      · rw [Dict.get?_insert, if_neg isTarget]
        by_cases same : id = d.memoryId
        · subst same
          rw [found, Option.some.injEq] at found₁
          subst found₁
          exact ⟨row', Dict.get?_insert_self _ _ _, change.progress soundRow held⟩
        · exact ⟨row, by rw [Dict.get?_insert, if_neg same, found], Progress.refl row⟩

theorem Move.progressed {db db' : Db} (move : Move lib carries db db') (sound : db.Sound lib) :
    db.Progressed db' := by
  cases move with
  | idle cards =>
      intro id row card found held
      exact ⟨row, cards ▸ found, Progress.refl row⟩
  | proposed id row card fresh held soundRow pending contentHash hash cards =>
      intro id' row' card' found held'
      have ne : id' ≠ id := by
        rintro rfl
        rw [fresh] at found
        cases found
      exact ⟨row', by rw [cards, Dict.get?_insert, if_neg ne, found], Progress.refl row'⟩
  | decided d c effect => exact effect.progressed sound

/-- Along moves the table stays sound and its rows progress. -/
theorem moves_progressed {db db' : Db} (moves : Relation.ReflTransGen (Move lib carries) db db')
    (sound : db.Sound lib) : db'.Sound lib ∧ db.Progressed db' := by
  induction moves with
  | refl => exact ⟨sound, fun id row card found held => ⟨row, found, Progress.refl row⟩⟩
  | tail _ move ih =>
      exact ⟨move.sound ih.1, ih.2.trans (move.progressed ih.1)⟩

/-- So they do in every run. -/
theorem run_progressed {db : Db} (sound : db.Sound lib) (calls : List Call) :
    (run (step lib) db calls).Sound lib ∧ db.Progressed (run (step lib) db calls) := by
  refine run_invariant (fun s => s.Sound lib ∧ db.Progressed s) (fun s call reached => ?_)
    ⟨sound, fun id row card found held => ⟨row, found, Progress.refl row⟩⟩ calls
  obtain ⟨moves, -⟩ := perform_made call reached.1.stewarded
  obtain ⟨sound', progressed⟩ := moves_progressed moves reached.1
  exact ⟨sound', reached.2.trans progressed⟩

/-! ## Content hashes -/

/-- The row and its envelope name the same content hash. -/
def Db.Hashed (db : Db) : Prop :=
  ∀ id row card, db.cards.get? id = some row → row.stewardEnvelope = some card →
    card.get? .contentHash = some (.str row.contentHash)

/-- A decided row names the hash of its envelope, since the decision compares them. -/
theorem CardChange.hashed {c : Int} {row row' : CardRow} {card' : Doc} {kind : ChangeKind}
    (change : CardChange lib c row row' kind) (held : row'.stewardEnvelope = some card') :
    card'.get? .contentHash = some (.str row'.contentHash) := by
  obtain ⟨card, card₂, revised⟩ := change.revised
  cases Option.some.inj (revised.updated.envelope.symm.trans held)
  obtain ⟨-, -, -, -, -, -, same⟩ := revised.updated.columns
  rw [revised.content .contentHash (by simp [contentFields]), revised.contentHash, same]

theorem Effect.hashed {d : Decision} {c : Int} {db db' : Db} (effect : Effect lib d c db db')
    (hashed : db.Hashed) : db'.Hashed := by
  have kept : ∀ id row, db'.cards.get? id = some row → ∀ card, row.stewardEnvelope = some card →
      card.get? .contentHash = some (.str row.contentHash) :=
    effect.rows (fun id row found card held => hashed id row card found held)
      (fun id row row' kind _ change card held => change.hashed held)
  exact fun id row card found held => kept id row found card held

/-- A move keeps the hashes agreeing if what it proposes comes with one. -/
theorem Move.hashed {db db' : Db} (move : Move lib carries db db') (carried : carries)
    (hashed : db.Hashed) : db'.Hashed := by
  cases move with
  | idle cards =>
      intro id row card found held
      exact hashed id row card (cards ▸ found) held
  | proposed id row card fresh held soundRow pending contentHash hash cards =>
      intro id' row' card' found held'
      rw [cards, Dict.get?_insert] at found
      split at found
      · cases found
        cases Option.some.inj (held.symm.trans held')
        obtain ⟨text, named, kept⟩ := hash carried
        rw [named, contentHash, Doc.text_of_str named, kept]
      · exact hashed id' row' card' found held'
  | decided d c effect => exact effect.hashed hashed

theorem moves_hashed {db db' : Db} (moves : Relation.ReflTransGen (Move lib carries) db db')
    (carried : carries) (hashed : db.Hashed) : db'.Hashed := by
  induction moves with
  | refl => exact hashed
  | tail _ move ih => exact move.hashed carried ih

/-! ## Proposals and decided rows -/

/-- The operations that only propose. -/
def Op.Proposes : Op → Prop
  | .candidateCreate .. | .staleMark .. | .supersedePropose .. => True
  | _ => False

/-- A proposing operation plans to store one envelope. -/
theorem planOf_proposes {call : Call} {db : Db} {plan : Plan} (proposes : call.op.Proposes)
    (done : planOf lib call db = .ok plan) : ∃ envelope, plan = .propose envelope (proposalResult lib) := by
  unfold planOf at done
  cases op : call.op with
  | candidateCreate span watermark review reason decisionId proposer =>
      simp only [op, candidateCreate, bind_eq_ok] at done
      obtain ⟨card, -, done⟩ := done
      cases review with
      | true =>
          simp only [if_true, bind_eq_ok] at done
          obtain ⟨reviewed, -, done⟩ := done
          exact ⟨_, persistProposal_eq_ok done⟩
      | false => exact ⟨_, persistProposal_eq_ok (by simpa using done)⟩
  | staleMark memoryId reason proposer =>
      simp only [op, staleMark, bind_eq_ok] at done
      obtain ⟨⟨⟩, -, ⟨⟩, -, done⟩ := done
      cases found : getStewardCard memoryId db with
      | none => simp [found] at done
      | some target =>
          simp only [found, bind_eq_ok] at done
          obtain ⟨proposal, -, done⟩ := done
          exact ⟨_, persistProposal_eq_ok done⟩
  | supersedePropose old span watermark proposer =>
      simp only [op, supersedePropose, bind_eq_ok] at done
      obtain ⟨⟨⟩, -, done⟩ := done
      cases found : getStewardCard old db with
      | none => simp [found] at done
      | some target =>
          simp only [found, bind_eq_ok] at done
          obtain ⟨card, -, ⟨⟩, -, done⟩ := done
          exact ⟨_, persistProposal_eq_ok done⟩
  | _ => simp [op, Op.Proposes] at proposes

/-- A proposing operation leaves every stored row as it is. -/
theorem proposes_keeps {call : Call} {db : Db} (proposes : call.op.Proposes) {id : String}
    {row : CardRow} (found : db.cards.get? id = some row) :
    (step lib db call).cards.get? id = some row := by
  unfold step perform
  cases planned : planOf lib call db with
  | error e => exact found
  | ok plan =>
      obtain ⟨envelope, rfl⟩ := planOf_proposes proposes planned
      simp only [Plan.execute, transact]
      cases stored : putStewardProposal lib call.now envelope db with
      | error e => exact found
      | ok result =>
          rcases putStewardProposal_eq_ok stored with same | ⟨row', -, fresh, -, -, -, -, -, cards⟩
          · simpa only [same] using found
          · have other : id ≠ row'.stored.memoryId := by
              rintro rfl
              rw [fresh] at found
              cases found
            simp only [cards]
            rw [Dict.get?_insert, if_neg other, found]

/-! ## The machine -/

/-- The columns of every steward row say what its envelope says. -/
def Db.Mirrors (db : Db) : Prop :=
  ∀ id row card, db.cards.get? id = some row → row.stewardEnvelope = some card →
    card.get? .lifecycleState = some (.str row.lifecycleState) ∧
      card.get? .authorizationStatus = some (.str row.authorizationStatus) ∧
      card.get? .currentness = some (.str row.currentness) ∧
      card.get? .contentHash = some (.str row.contentHash)

/-- A card table from the time before the steward. -/
def Db.Unstewarded (db : Db) : Prop :=
  ∀ id row, db.cards.get? id = some row → row.memoryId = id ∧ row.stewardEnvelope = none

theorem Db.Unstewarded.sound {db : Db} (unstewarded : db.Unstewarded) : db.Sound lib := by
  refine ⟨fun id row found => (unstewarded id row found).1, fun id row card found held => ?_⟩
  rw [(unstewarded id row found).2] at held
  cases held

theorem Db.Unstewarded.hashed {db : Db} (unstewarded : db.Unstewarded) : db.Hashed := by
  intro id row card found held
  rw [(unstewarded id row found).2] at held
  cases held

/-- In a run whose completed envelopes carry their content hashes, none of them cut off
    by the column, the columns mirror the envelopes in every state, rows only progress
    from any state to any later one, and a proposing operation changes no decided row. -/
theorem steward_authority_machine (lib : Library) (start : Db) (unstewarded : start.Unstewarded)
    (before after : List Call)
    (carries : ∀ call ∈ before ++ after, call.CarriesContentHash) :
    (run (step lib) start before).Mirrors ∧
      (run (step lib) start before).Progressed (run (step lib) start (before ++ after)) ∧
      ∀ call : Call, call.op.Proposes → ∀ id row,
        (run (step lib) start before).cards.get? id = some row →
        row.lifecycleState ∈ settledLifecycleStates →
        (step lib (run (step lib) start before) call).cards.get? id = some row := by
  have reached : (run (step lib) start before).Sound lib ∧ (run (step lib) start before).Hashed := by
    have meets : Along (step lib) (fun _ call => call.CarriesContentHash) start before :=
      Along.of_mem fun call mem => carries call (List.mem_append_left _ mem)
    refine meets.invariant (fun s => s.Sound lib ∧ s.Hashed) (fun s call carried inv => ?_)
      ⟨unstewarded.sound, unstewarded.hashed⟩
    obtain ⟨moves, -⟩ := perform_made call inv.1.stewarded
    exact ⟨(moves_progressed moves inv.1).1, moves_hashed moves carried inv.2⟩
  refine ⟨fun id row card found held => ?_, ?_, fun call proposes id row found _ =>
    proposes_keeps proposes found⟩
  · have sound := reached.1.rows id row card found held
    exact ⟨sound.lifecycle, sound.authorization, sound.currentness,
      reached.2 id row card found held⟩
  · rw [run_append]
    exact (run_progressed reached.1 after).2

theorem empty_unstewarded : Db.empty.Unstewarded := by
  intro id row found
  cases found

/-- A proposal with its content hash is stored, and the columns mirror it. -/
theorem steward_authority_machine_create :
    ((run (step referenceLibrary) Db.empty [createCall (hashedSpan "first") 1]).cards.get?
      (stampedId "first" "candidate" "")).isSome ∧
    (run (step referenceLibrary) Db.empty [createCall (hashedSpan "first") 1]).Mirrors := by
  have open_ : (hashedSpan "first").get? .validTo = none := by
    rw [hashedSpan, Doc.get?_set, if_neg (by simp), referenceSpan_open]
  have carries : ∀ call ∈ [createCall (hashedSpan "first") 1] ++ [], call.CarriesContentHash := by
    have hashed : (hashedSpan "first").text .contentHash = "sha256:1" :=
      Doc.text_of_str (by simp [hashedSpan, Doc.get?_set])
    have whole : varchar 71 "sha256:1" = "sha256:1" := varchar_eq_self (by decide)
    intro call mem
    rw [List.append_nil, List.mem_singleton] at mem
    subst mem
    exact ⟨fun _ => by simp [value, hashedSpan, Doc.get?_set], by rw [hashed, whole]⟩
  refine ⟨?_, (steward_authority_machine referenceLibrary Db.empty empty_unstewarded
    [createCall (hashedSpan "first") 1] [] carries).1⟩
  rw [run_cons, run_nil, step_create (hashedSpan_proposable strip_first) (by simp)
    (ends_of_open open_) (by simp) rfl]
  simp

/-- A completed envelope without a content hash is stored under a blank one. -/
theorem proposal_stored_without_contentHash :
    ¬ (run (step referenceLibrary) Db.empty [createCall (referenceSpan "first") 1]).Mirrors := by
  rw [run_cons, run_nil, step_create (referenceSpan_proposable strip_first) (by simp)
    (ends_of_open (referenceSpan_open _)) (by simp) rfl]
  intro mirrors
  obtain ⟨-, -, -, hash⟩ := mirrors _ _ _ (Dict.get?_insert_self _ _ _) rfl
  simp [stampProposal, Doc.get?_set, referenceSpan, Doc.ofFields, fixedFields] at hash

end Rows

end Neurons.Steward
