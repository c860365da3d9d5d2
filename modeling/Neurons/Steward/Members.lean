import Neurons.Steward.ExactlyOnce
import Neurons.Steward.Operations

/-! # The members of a committed bundle

Every member of a bundle is planned from the state its transaction reads. Each
child decision writes one member only, so a later child still finds the card it
was planned from.
-/

namespace Neurons.Steward

open Neurons.Lib
open Neurons.Source

section Members

variable {lib : Library} {carries : Prop}

/-! ## Planned members -/

/-- The child decision planned for a member replaces the very card it was made from. -/
structure PlannedFor (lib : Library) (r : Record) (child : Child) : Prop where
  memoryId : child.decision.memoryId = r.row.memoryId
  alone : child.decision.targetMemoryId = ""
  claim : r.card.get? .stewardProposalKind ≠ some (.str "stale")
  change : ∃ changed, child.transform = memberTransform lib r.card changed ∧
    ∀ target, Lawful r.card target changed child.decision.action none

theorem eraseDups_eq_nil {α : Type} [BEq α] {l : List α} (none : l.eraseDups = []) : l = [] := by
  cases l with
  | nil => rfl
  | cons a rest => simp [List.eraseDups_cons] at none

/-- An eligible member is pending and no authority change of its own. -/
theorem issues_pending {r : Record} {now : Int} (done : issues lib r now true = .ok []) :
    pendingIssues r.card = [] := by
  simp only [issues, bind_eq_ok, pure_eq_ok, Except.ok.injEq, if_true] at done
  obtain ⟨times, -, expiry, -, status, -, activeUntil, -, none⟩ := done
  have all := eraseDups_eq_nil none
  simp only [List.append_eq_nil_iff] at all
  exact all.1.2

theorem pendingIssues_eq_nil {card : Doc} (none : pendingIssues card = []) :
    Pending card ∧ card.get? .stewardProposalKind ≠ some (.str "stale") := by
  simp only [pendingIssues, List.append_eq_nil_iff] at none
  obtain ⟨first, second⟩ := none
  split at first
  · next state =>
      split at second
      · next kind =>
          refine ⟨state.1, fun claim => ?_⟩
          simp [claim] at kind
      · cases second
  · cases first

theorem planMember_plannedFor {c : BundleCommit} {approve : Bool}
    {subjects : List (List Json × String)} {now : Int} {r : Record} {child : Child}
    (done : planMember lib c approve subjects now r = .ok child) : PlannedFor lib r child := by
  simp only [planMember, bind_eq_ok, refuseIf_eq_ok, not_not, index_eq_ok, rescue_eq_ok, pure_eq_ok,
    Except.ok.injEq] at done
  obtain ⟨found, eligible, ⟨⟩, none, ⟨⟩, -, changed, made, hash, -, rfl⟩ := done
  have empty : found = [] := by simpa using none
  subst empty
  obtain ⟨pending, claim⟩ := pendingIssues_eq_nil (issues_pending eligible)
  exact ⟨rfl, rfl, claim, changed, rfl, fun target => memberChange_lawful pending made⟩

/-- The members of a bundle as its transaction read them. -/
structure ReadMembers (db : Db) (records : List Record) : Prop where
  stored : ∀ r ∈ records, getStewardCard r.row.memoryId db = some r.card
  distinct : (records.map (·.row.memoryId)).Nodup

theorem bundleRecord_eq_ok {project brainId scope : String} {row : CardRow} {r : Record}
    (done : bundleRecord project brainId scope row = .ok r) :
    r.row = row ∧ row.stewardEnvelope = some r.card := by
  unfold bundleRecord at done
  cases held : row.stewardEnvelope with
  | none => simp [held] at done
  | some card =>
      simp only [held, bind_eq_ok, pure_eq_ok, Except.ok.injEq] at done
      obtain ⟨⟨⟩, -, ⟨⟩, -, rfl⟩ := done
      exact ⟨rfl, rfl⟩

/-- The records of a bundle are distinct stored cards. -/
theorem readStewardBundleState_members {project brainId scope : String} {ids : List String} {db : Db}
    {state : BundleState} (own : db.Stewarded lib)
    (done : readStewardBundleState project brainId scope ids db = .ok state) :
    ReadMembers db state.members := by
  simp only [readStewardBundleState, bind_eq_ok, pure_eq_ok, Except.ok.injEq] at done
  obtain ⟨⟨⟩, -, records, mapped, ⟨⟩, -, rfl⟩ := done
  rw [List.filter_map, mapM_eq_ok_iff] at mapped
  -- what each record says about the entry it was read from
  have pairs : List.Forall₂ (fun entry (r : Record) => r.row = entry.2 ∧ entry.1 = r.row.memoryId ∧
      getStewardCard entry.1 db = some r.card)
      (db.cards.entries.filter (inBundle project brainId scope ids ∘ Prod.snd)) records := by
    rw [List.forall₂_map_left_iff] at mapped
    refine forall₂_imp_of_mem mapped fun entry mem r _ read => ?_
    obtain ⟨sameRow, held⟩ := bundleRecord_eq_ok read
    have found : db.cards.get? entry.1 = some entry.2 :=
      Dict.mem_entries_iff.mp (List.mem_of_mem_filter mem)
    refine ⟨sameRow, ?_, getStewardCard_eq found held⟩
    rw [sameRow, own.keyed _ _ found]
  have keys : (db.cards.entries.filter (inBundle project brainId scope ids ∘ Prod.snd)).map Prod.fst =
      records.map (·.row.memoryId) := by
    have related : List.Forall₂ (fun a b => a = b)
        ((db.cards.entries.filter (inBundle project brainId scope ids ∘ Prod.snd)).map Prod.fst)
        (records.map (·.row.memoryId)) := by
      rw [List.forall₂_map_left_iff, List.forall₂_map_right_iff]
      exact pairs.imp fun _ _ facts => facts.2.1
    exact List.forall₂_eq_eq_eq ▸ related
  refine ⟨?_, ?_⟩
  · intro r mem
    obtain ⟨entry, -, -, key, found⟩ := forall₂_mem_right pairs (List.mem_of_mem_filter mem)
    rw [← key, found]
  · have nodup : (records.map (·.row.memoryId)).Nodup :=
      keys ▸ db.cards.nodup.sublist (List.filter_sublist.map Prod.fst)
    exact nodup.sublist (List.filter_sublist.map _)

theorem bundleDecide_eq_ok {c : BundleCommit} {ids : List String} {now : Int} {db : Db}
    {plan : BundlePlan} (own : db.Stewarded lib) (done : bundleDecide lib c ids now db = .ok plan) :
    ∃ records, ReadMembers db records ∧ List.Forall₂ (PlannedFor lib) records plan.children := by
  simp only [bundleDecide, bind_eq_ok, pure_eq_ok, Except.ok.injEq] at done
  obtain ⟨claims, -, state, read, ⟨⟩, -, live, -, ⟨⟩, -, _, -, ⟨⟩, -, children, planned, rfl⟩ := done
  simp only [bundleState, bind_eq_ok, pure_eq_ok, Except.ok.injEq] at read
  obtain ⟨_, read, ⟨⟩, -, ⟨⟩, -, rfl⟩ := read
  exact ⟨_, readStewardBundleState_members own read,
    (mapM_eq_ok_iff.mp planned).imp fun _ _ => planMember_plannedFor⟩

/-! ## Events -/

/-- A new decision: the state it found, its request and time, the state it left. -/
structure Event where
  before : Db
  decision : Decision
  committedAt : Int
  after : Db

/-- A decision that answered is new unless its id was audited before. -/
def newDecision (db : Db) (d : Decision) (committedAt : Int) (db' : Db) : List Event :=
  if db.cardDecisions.contains d.decisionId then [] else [⟨db, d, committedAt, db'⟩]

variable (lib) in
/-- The new decisions of the children of a bundle. -/
def childEvents : List Child → (ℕ → Int) → Db → List Event
  | [], _, _ => []
  | child :: rest, clock, db =>
      match stewardDecision lib lib.environmentLocalProfile child.decision child.transform
        (clock 0) db with
      | .error _ => []
      | .ok (_, mid) =>
          newDecision db child.decision (clock 0) mid ++
            childEvents rest (fun n => clock (n + 1)) mid

variable (lib) in
def Plan.events (call : Call) (db : Db) : Plan → List Event
  | .answer _ | .propose _ _ => []
  | .decision d transform _ =>
      match stewardDecision lib lib.localProfile d transform (call.clock 0) db with
      | .error _ => []
      | .ok (_, db') => newDecision db d (call.clock 0) db'
  | .bundle b callback =>
      match stewardBundleDecision lib b callback call.clock db, callback db with
      | .ok _, .ok plan =>
          if db.bundleDecisions.contains b.decisionId then []
          else childEvents lib plan.children call.clock db
      | _, _ => []

variable (lib) in
/-- The new decisions a call makes. -/
def eventsOf (call : Call) (db : Db) : List Event :=
  match planOf lib call db with
  | .error _ => []
  | .ok plan => plan.events lib call db

/-- A decision of the service changes its cards, on a table of the steward's rows. -/
def Event.Made (lib : Library) (e : Event) : Prop :=
  e.before.Stewarded lib ∧ Effect lib e.decision e.committedAt e.before e.after

/-- A decision with a service transform repeats an audited one or is such an event. -/
theorem stewardDecision_made {localProfile : Bool} {d : Decision} {transform : Transform} {c : Int}
    {db db' : Db} {outcome : Outcome} (own : db.Stewarded lib) (treats : Treats d db transform)
    (done : stewardDecision lib localProfile d transform c db = .ok (outcome, db')) :
    Move lib carries db db' ∧ ∀ e ∈ newDecision db d c db', e.Made lib := by
  rcases stewardDecision_eq_ok done with ⟨previous, audited, -, rfl⟩ | decided
  · exact ⟨.idle rfl, by simp [newDecision, Dict.contains, audited]⟩
  · have effect := decided.effect own treats
    refine ⟨.decided d c effect, fun e mem => ?_⟩
    simp only [newDecision, Dict.contains, decided.fresh, Option.isSome_none, Bool.false_eq_true,
      if_false, List.mem_singleton] at mem
    subst mem
    exact ⟨own, effect⟩

/-- A planned member is treated as the service treats a candidate. -/
theorem PlannedFor.treats {r : Record} {child : Child} {db : Db} (planned : PlannedFor lib r child)
    (stored : getStewardCard r.row.memoryId db = some r.card) :
    Treats child.decision db child.transform := by
  obtain ⟨changed, transform, lawful⟩ := planned.change
  refine Treats.of_loaded (planned.memoryId ▸ stored) (fun _ => planned.claim) ?_
  intro target changed' changedTarget transformed
  simp only [transform, memberTransform, bind_eq_ok, pure_eq_ok, Except.ok.injEq,
    Prod.mk.injEq] at transformed
  obtain ⟨⟨⟩, -, rfl, rfl⟩ := transformed
  exact lawful target

/-- A child decision touches its own member only. -/
theorem stewardDecision_others {localProfile : Bool} {d : Decision} {transform : Transform} {c : Int}
    {db db' : Db} {outcome : Outcome} {id : String} (alone : d.targetMemoryId = "")
    (done : stewardDecision lib localProfile d transform c db = .ok (outcome, db'))
    (other : id ≠ d.memoryId) : getStewardCard id db' = getStewardCard id db := by
  rcases stewardDecision_eq_ok done with ⟨_, -, -, rfl⟩ | decided
  · rfl
  · unfold getStewardCard
    rw [decided.cards_of_not_mem (by simp [Decision.locked, Decision.target?, alone, other])]

/-- The children of a bundle move the cards one by one, each against the rows of the steward. -/
theorem commitChildren_made {records : List Record} {children : List Child} {clock : ℕ → Int}
    {db db' : Db} {outcomes : List Outcome} (own : db.Stewarded lib) (read : ReadMembers db records)
    (planned : List.Forall₂ (PlannedFor lib) records children)
    (done : commitChildren lib children clock db = .ok (outcomes, db')) :
    Relation.ReflTransGen (Move lib carries) db db' ∧
      ∀ e ∈ childEvents lib children clock db, e.Made lib := by
  induction planned generalizing clock db outcomes with
  | nil =>
      simp only [commitChildren, Except.ok.injEq, Prod.mk.injEq] at done
      obtain ⟨-, rfl⟩ := done
      exact ⟨.refl, by simp [childEvents]⟩
  | @cons r child records children first rest ih =>
      simp only [commitChildren, bind_eq_ok, pure_eq_ok, Except.ok.injEq, Prod.mk.injEq] at done
      obtain ⟨⟨outcome, mid⟩, decided, ⟨others, last⟩, tail, -, rfl⟩ := done
      obtain ⟨move, made⟩ := stewardDecision_made own (first.treats (read.stored r (by simp))) decided
      have distinct := read.distinct
      rw [List.map_cons, List.nodup_cons] at distinct
      have readRest : ReadMembers mid records := by
        refine ⟨fun r' mem => ?_, distinct.2⟩
        have other : r'.row.memoryId ≠ child.decision.memoryId := by
          rw [first.memoryId]
          intro same
          exact distinct.1 (same ▸ List.mem_map_of_mem mem)
        rw [stewardDecision_others first.alone decided other, read.stored r' (by simp [mem])]
      obtain ⟨moves, madeRest⟩ := ih (move.stewarded own) readRest tail
      refine ⟨.head move moves, fun e mem => ?_⟩
      simp only [childEvents, decided, List.mem_append] at mem
      cases mem with
      | inl here => exact made e here
      | inr there => exact madeRest e there

/-- One call moves the cards step by step; its new decisions are made on the steward's rows. -/
theorem perform_made (call : Call) {db : Db} (own : db.Stewarded lib) :
    Relation.ReflTransGen (Move lib call.CarriesContentHash) db (step lib db call) ∧
      ∀ e ∈ eventsOf lib call db, e.Made lib := by
  unfold step perform eventsOf
  cases planned : planOf lib call db with
  | error e => exact ⟨.refl, by simp⟩
  | ok plan =>
      simp only
      cases planOf_planned own planned with
      | answer reply => exact ⟨.refl, by simp [Plan.events]⟩
      | propose envelope reply draft hash =>
          refine ⟨?_, by simp [Plan.events]⟩
          simp only [Plan.execute, transact]
          cases stored : putStewardProposal lib call.now envelope db with
          | error e => exact .refl
          | ok result => exact .single (putStewardProposal_move draft hash stored)
      | decision d transform reply treats =>
          simp only [Plan.execute, transact, Plan.events]
          cases done : stewardDecision lib lib.localProfile d transform (call.clock 0) db with
          | error e => exact ⟨.refl, by simp⟩
          | ok result =>
              obtain ⟨move, made⟩ := stewardDecision_made own treats done
              exact ⟨.single move, made⟩
      | bundle b commit ids now =>
          simp only [Plan.execute, transact, Plan.events]
          cases done : stewardBundleDecision lib b (bundleDecide lib commit ids now) call.clock db with
          | error e => exact ⟨.refl, by simp⟩
          | ok result =>
              rcases stewardBundleDecision_eq_ok done with
                ⟨⟨row, held, -⟩, same⟩ | ⟨plan, outcomes, last, fresh, callback, committed, -, same⟩
              · refine ⟨same ▸ .refl, ?_⟩
                cases bundleDecide lib commit ids now db <;> simp [Dict.contains, held]
              · obtain ⟨records, read, plannedFor⟩ := bundleDecide_eq_ok own callback
                obtain ⟨moves, made⟩ := commitChildren_made own read plannedFor committed
                refine ⟨moves.tail (.idle (by rw [same])), ?_⟩
                simpa [callback, Dict.contains, fresh] using made

/-- Along moves the rows of the steward stay the steward's. -/
theorem stewarded_of_moves {db db' : Db} (moves : Relation.ReflTransGen (Move lib carries) db db')
    (own : db.Stewarded lib) : db'.Stewarded lib := by
  induction moves with
  | refl => exact own
  | tail _ move ih => exact move.stewarded ih

end Members

end Neurons.Steward
