import Neurons.Steward.GraphProjection
import Neurons.Steward.Progress

/-! # Recall at a point in time

`list_authorized_cards` with an `as_of` reads the cards that were an authority at
that instant. A decision at the database time `c` opens and closes windows at `c`
only, so a read of an earlier instant keeps its answer, unless the decision
supersedes a card whose own window had ended before it, or is on a proposal whose
row an upsert had made an authority at that instant.
-/

namespace Neurons.Steward

open Neurons.Lib
open Neurons.Source

/-! ## The store -/

/-- What writes the card table: the steward, and the writers of cards that have no envelope. -/
inductive StoreOp where
  | call (made : Call)
  | insert (card : CardRow)
  | upsert (card : GraphProjection.MemoryCard) (embedding : Except PyError Unit)
  | delete (memoryId : String) (referenced : Bool)

/-- `delete_card`; `referenced` says that an edge names the card. -/
def deleteCard (memoryId : String) (referenced : Bool) (db : Db) : Except PyError Db := do
  refuseIf ((db.cards.get? memoryId).isSome ∧
      (referenced ∨ ∃ entry ∈ db.cardDecisions.entries, entry.2.memoryId = memoryId))
    (.valueError "memory card is referenced by memory_edges")
  return { db with cards := db.cards.erase memoryId }

section Store

variable (lib : Library)

/-- The transaction of an operation other than a call. -/
def StoreOp.transaction (op : StoreOp) (db : Db) : Except PyError Db :=
  match op with
  | .call made => .ok (step lib db made)
  | .insert card => insertCard { card with stewardEnvelope := none } db
  | .upsert card embedding => GraphProjection.upsertCard lib card embedding db
  | .delete memoryId referenced => deleteCard memoryId referenced db

def storeStep (db : Db) (op : StoreOp) : Db :=
  match op.transaction lib db with
  | .ok db' => db'
  | .error _ => db

variable {lib} {db db' : Db}

/-- An upsert leaves an envelope where it is, and never touches an accepted card. -/
theorem upsertCard_stewarded {card : GraphProjection.MemoryCard} {embedding : Except PyError Unit}
    (own : db.Stewarded lib) (done : GraphProjection.upsertCard lib card embedding db = .ok db') :
    db'.Stewarded lib := by
  simp only [GraphProjection.upsertCard, GraphProjection.upsertCardOn, validateCard, bind_eq_ok, refuseIf_eq_ok,
    not_not, not_or, pure_eq_ok, Except.ok.injEq] at done
  obtain ⟨_, ⟨_, identity, -⟩, _, ⟨_, fits, _, open_, rfl⟩, -, -, -, -, -, -, rfl⟩ := done
  let row : CardRow := { card.stored with
    stewardEnvelope := (db.cards.get? card.stored.memoryId).bind (·.stewardEnvelope) }
  refine own.write (show _ = db.cards.insert row.memoryId row from rfl) fun envelope held => ?_
  obtain ⟨old, found, before⟩ := Option.bind_eq_some_iff.mp held
  have ownOld := own.rows _ _ _ found before
  refine ⟨rfl, varchar_ne_empty (by simp) identity.2.1, fits.2.2.2.2.1, ownOld.memoryId, ownOld.currentness,
    ownOld.claim, ownOld.unapproved, fun approved => absurd ⟨old, found, ?_⟩ open_⟩
  have decided := (ownOld.authority approved).lifecycle
  simp only [decidedLifecycleStates, List.mem_cons, List.not_mem_nil, or_false] at decided
  rcases decided with state | state <;> simp [state]

theorem storeStep_stewarded (own : db.Stewarded lib) (op : StoreOp) : (storeStep lib db op).Stewarded lib := by
  unfold storeStep
  cases done : op.transaction lib db with
  | error e => exact own
  | ok db' =>
      cases op with
      | call made =>
          cases done
          exact stewarded_of_moves (perform_made made own).1 own
      | insert card =>
          simp only [StoreOp.transaction, insertCard, bind_eq_ok, pure_eq_ok, Except.ok.injEq] at done
          obtain ⟨-, -, -, -, -, -, rfl⟩ := done
          refine own.write rfl fun card' held => ?_
          cases held
      | upsert card embedding => exact upsertCard_stewarded own done
      | delete memoryId referenced =>
          simp only [StoreOp.transaction, deleteCard, bind_eq_ok, pure_eq_ok, Except.ok.injEq] at done
          obtain ⟨-, -, rfl⟩ := done
          refine ⟨fun id row found => ?_, fun id row card found held => ?_⟩ <;>
            rw [Dict.get?_erase] at found <;> split at found
          · cases found
          · exact own.keyed id row found
          · cases found
          · exact own.rows id row card found held

theorem storeStep_run (calls : List Call) :
    run (storeStep lib) db (calls.map .call) = run (step lib) db calls := by
  simp only [run, List.foldl_map]
  rfl

/-- In every state the steward rows are the steward's. -/
theorem run_stewarded {start : Db} (unstewarded : start.Unstewarded) (ops : List StoreOp) :
    (run (storeStep lib) start ops).Stewarded lib :=
  run_invariant (fun db : Db => db.Stewarded lib) (fun _ op own => storeStep_stewarded own op)
    (unstewarded.sound : start.Sound lib).stewarded ops

end Store

section Recall

variable (lib : Library)

/-- Whether a query keeps a row. -/
def CardQuery.admits (q : CardQuery) (now : Int) (row : CardRow) : Except PyError Bool :=
  if q.Selects row.memoryId ∧ (q.stewardOnly → stewardOnlyFilter row) then
    authorityFilter lib q.project q.asOf now row
  else .ok false

/-- The ids of the cards a query answers with. -/
def recalledIds (q : CardQuery) (now : Int) (db : Db) : Except PyError (List String) := do
  return (← listAuthorizedCards lib q now db).map (·.memoryId)

/-- The ids of all the cards a query admits. -/
def admittedIds (q : CardQuery) (now : Int) (db : Db) : Except PyError (List String) := do
  return (← (db.cards.entries.map Prod.snd).filterM (q.admits lib now)).map (·.memoryId)

variable {lib}

theorem recalledIds_eq (q : CardQuery) (now : Int) (db : Db) : recalledIds lib q now db = (do
    refuseIf (q.project = "" ∨ ¬ (1 ≤ q.limit ∧ q.limit ≤ 100))
      (.valueError "project and bounded limit required")
    return (← admittedIds lib q now db).take q.limit) := by
  simp only [recalledIds, listAuthorizedCards, admittedIds, bind_assoc, pure_bind, List.map_take]
  rfl

/-- A query answers alike in two tables whose rows it treats alike. -/
theorem recalledIds_congr {q : CardQuery} {now : Int} {db db' : Db}
    (bound : ∀ id, (db'.cards.get? id).isSome = (db.cards.get? id).isSome)
    (alike : ∀ id row row', db.cards.get? id = some row → db'.cards.get? id = some row' →
      row'.memoryId = row.memoryId ∧ q.admits lib now row' = q.admits lib now row) :
    recalledIds lib q now db' = recalledIds lib q now db := by
  have related : List.Forall₂ (fun a b : CardRow => a.memoryId = b.memoryId ∧
      q.admits lib now a = q.admits lib now b)
      (db'.cards.entries.map Prod.snd) (db.cards.entries.map Prod.snd) := by
    rw [List.forall₂_map_left_iff, List.forall₂_map_right_iff]
    refine forall₂_imp_of_mem (Dict.entries_forall₂ bound) fun entry' mem' entry mem same => ?_
    exact alike entry.1 entry.2 entry'.2 (Dict.mem_entries_iff.mp mem)
      (Dict.mem_entries_iff.mp (same ▸ mem'))
  rw [recalledIds_eq, recalledIds_eq, admittedIds, admittedIds, filterM_map_congr related]

/-! ## Windows of decided rows -/

theorem CardQuery.admits_of_outside {q : CardQuery} {now : Int} {row : CardRow}
    (outside : ¬ row.InWindow q.project q.asOf (q.asOf.getD now)) :
    q.admits lib now row = .ok false := by
  simp [CardQuery.admits, authorityFilter, outside]

theorem CardRow.outside_of_disabled {row : CardRow} {project : String} {asOf : Option Int}
    {instant : Int} (disabled : row.authorizationStatus = "disabled") :
    ¬ row.InWindow project asOf instant := by
  rintro ⟨-, active, -⟩
  simp [disabled] at active

/-- A card decided at the time `c` is outside every read of an earlier instant. -/
theorem CardChange.outside {c t : Int} {row row' : CardRow} {q : CardQuery} {now : Int} {kind : ChangeKind}
    (change : CardChange lib c row row' kind) (decides : kind = .accepted ∨ kind = .rejected)
    (asOf : q.asOf = some t) (early : t < c) : q.admits lib now row' = .ok false := by
  cases change with
  | accepted card₁ card₂ revised pending claim lifecycle approved current validFrom =>
      refine CardQuery.admits_of_outside ?_
      rintro ⟨-, -, -, -, open_, -⟩
      rw [validFrom, asOf, Option.getD_some] at open_
      omega
  | rejected card₁ card₂ revised pending lifecycle unapproved =>
      have disabled := revised.authorized
      rw [unapproved, if_neg (by simp)] at disabled
      exact CardQuery.admits_of_outside (CardRow.outside_of_disabled disabled)
  | closed => simp at decides
  | demoted => simp at decides

/-- A read of the instant in the row's own project does not leave the row out. -/
def CardRow.RecalledAt (lib : Library) (row : CardRow) (t : Int) : Prop :=
  row.InWindow row.project (some t) t ∧ statusUnexpired lib row t ≠ .ok false

theorem CardQuery.admits_of_not_recalled {q : CardQuery} {now t : Int} {row : CardRow} (asOf : q.asOf = some t)
    (hidden : ¬ row.RecalledAt lib t) : q.admits lib now row = .ok false := by
  by_cases within : row.InWindow q.project (some t) t
  · have expired : statusUnexpired lib row t = .ok false := by
      by_contra shown
      refine hidden ⟨?_, shown⟩
      rw [within.1]
      exact within
    simp [CardQuery.admits, authorityFilter, asOf, within, expired]
  · exact CardQuery.admits_of_outside (by rwa [asOf, Option.getD_some])

/-- What superseding does to the row of the old card. -/
structure Ended (c : Int) (old old' : CardRow) : Prop where
  columns : old'.memoryId = old.memoryId ∧ old'.project = old.project ∧
    old'.cardType = old.cardType ∧ old'.typedPayload = old.typedPayload
  lifecycle : old'.lifecycleState = old.lifecycleState ∧
    old.lifecycleState ∈ acceptedLifecycleStates
  authorization : old.authorizationStatus = "active" ∧ old'.authorizationStatus = "active"
  currentness : old.currentness = "current" ∧ old'.currentness = "superseded"
  validFrom : old'.validFrom = old.validFrom
  validTo : old'.validTo = some c
  stewardOnly : stewardOnlyFilter old' = stewardOnlyFilter old

theorem CardChange.ended {c : Int} {id : String} {old old' : CardRow} {card : Doc}
    (change : CardChange lib c old old' (.demoted "superseded")) (own : Stewarded lib id old card)
    (held : old.stewardEnvelope = some card) : Ended c old old' := by
  generalize kind : ChangeKind.demoted "superseded" = k at change
  cases change with
  | accepted => cases kind
  | rejected => cases kind
  | closed => cases kind
  | demoted card₁ card₂ revised approved current lifecycle approval ended validFrom validTo =>
      cases Option.some.inj (revised.before.symm.trans held)
      obtain ⟨memoryId, project, cardType, -, -, payload, -⟩ := revised.updated.columns
      have authority := own.authority approved
      have decided := authority.lifecycle
      have wasCurrent := authority.currentness
      rw [current, Option.some.injEq, Json.str.injEq] at wasCurrent
      have active' := revised.authorized
      rw [approval, if_pos rfl] at active'
      have same := revised.updated.lifecycle
      rw [lifecycle, authority.envelope, Option.some.injEq, Json.str.injEq] at same
      obtain ⟨t, read, written⟩ := revised.updated.validFrom
      rw [value, validFrom, authority.window wasCurrent.symm, Option.getD_some, sqlTime_isoformat,
        Except.ok.injEq] at read
      subst read
      refine ⟨⟨memoryId, project, cardType, payload⟩, ⟨same.symm, ?_⟩, ⟨authority.active, active'⟩,
        ⟨wasCurrent.symm, (ChangeKind.demoted.inj kind).symm⟩, written, validTo, ?_⟩
      · simp only [decidedLifecycleStates, List.mem_cons, List.not_mem_nil, or_false] at decided
        rcases decided with state | state <;> simp [state, acceptedLifecycleStates]
      · simp only [stewardOnlyFilter, revised.updated.envelope, held, approved, approval]
        rw [Doc.text_congr (revised.content .stewardProposalKind (by simp [contentFields]))]

/-- The old card's own window had ended by the instant, and nothing else hid it. -/
def Reopened (lib : Library) (old : CardRow) (t : Int) : Prop :=
  (∃ v ∈ old.validTo, v ≤ t) ∧ statusUnexpired lib old t ≠ .ok false

theorem Ended.statusUnexpired_eq {c : Int} {old old' : CardRow} (ended : Ended c old old') (t : Int) :
    statusUnexpired lib old' t = statusUnexpired lib old t := by
  obtain ⟨-, -, cardType, payload⟩ := ended.columns
  simp only [statusUnexpired, cardType, payload]

/-- The window of a superseded card, at an instant before it was superseded. -/
theorem Ended.inWindow_iff {c t : Int} {old old' : CardRow} {project : String}
    (ended : Ended c old old') (early : t < c) :
    old'.InWindow project (some t) t ↔ old.project = project ∧ old.validFrom ≤ t := by
  simp [CardRow.InWindow, ended.columns.2.1, ended.authorization.2, ended.currentness.2,
    ended.lifecycle.1, ended.lifecycle.2, ended.validFrom, ended.validTo, early]

/-- A superseded card answers reads of earlier instants as before, unless its window
    is opened again. -/
theorem Ended.admits_eq {c t : Int} {old old' : CardRow} {q : CardQuery} {now : Int}
    (ended : Ended c old old') (asOf : q.asOf = some t) (early : t < c)
    (closed : ¬ Reopened lib old t) : q.admits lib now old' = q.admits lib now old := by
  simp only [CardQuery.admits, authorityFilter, ended.columns.1, ended.stewardOnly, asOf,
    Option.getD_some, ended.statusUnexpired_eq]
  by_cases concluded : ∃ v ∈ old.validTo, v ≤ t
  · have expired : statusUnexpired lib old t = .ok false := by
      by_contra shown
      exact closed ⟨concluded, shown⟩
    simp [expired]
  · have window : old.InWindow q.project (some t) t ↔ old'.InWindow q.project (some t) t := by
      rw [ended.inWindow_iff early]
      have still : ∀ v ∈ old.validTo, t < v := by simpa using concluded
      simp only [CardRow.InWindow, ended.authorization.1, ended.currentness.1, ended.lifecycle.2,
        true_and, true_or]
      exact ⟨fun facts => ⟨facts.1, facts.2.1⟩, fun facts => ⟨facts.1, facts.2, still⟩⟩
    simp only [window]

/-- The read that shows the old card where its window is opened again. -/
theorem Ended.shown {c t : Int} {old old' : CardRow} {q : CardQuery} (now : Int)
    (ended : Ended c old old') (asOf : q.asOf = some t) (early : t < c)
    (ordered : ∀ v ∈ old.validTo, old.validFrom ≤ v) (reopened : Reopened lib old t)
    (project : q.project = old.project) (every : q.stewardOnly = false)
    (selects : q.Selects old.memoryId) :
    q.admits lib now old = .ok false ∧ q.admits lib now old' ≠ .ok false := by
  obtain ⟨⟨v, mem, concluded⟩, shown⟩ := reopened
  constructor
  · refine CardQuery.admits_of_outside ?_
    rintro ⟨-, -, -, -, -, until_⟩
    have still := until_ v mem
    rw [asOf, Option.getD_some] at still
    omega
  · have window : old'.InWindow q.project (some t) t :=
      (ended.inWindow_iff early).mpr ⟨project.symm, (ordered v mem).trans concluded⟩
    simpa [CardQuery.admits, authorityFilter, ended.columns.1, selects, every, asOf, window,
      ended.statusUnexpired_eq] using shown

/-! ## Recall across a decision -/

/-- The decision supersedes a card whose own window had ended by the instant. -/
def Event.Reopens (lib : Library) (e : Event) (t : Int) : Prop :=
  e.decision.action = .supersede ∧
    ∃ old, e.before.cards.get? e.decision.targetMemoryId = some old ∧ Reopened lib old t

/-- The decision is on a card whose row was an authority at the instant already. -/
def Event.Forgets (lib : Library) (e : Event) (t : Int) : Prop :=
  ∃ row, e.before.cards.get? e.decision.memoryId = some row ∧ row.RecalledAt lib t

theorem Decision.target?_eq_some {d : Decision} {id : String} :
    d.target? = some id ↔ d.targetMemoryId = id ∧ id ≠ "" := by
  unfold Decision.target?
  split
  · next blank => simp [blank, eq_comm]
  · next named =>
      rw [Option.some.injEq]
      constructor
      · rintro rfl
        exact ⟨rfl, named⟩
      · exact fun same => same.1

theorem Effect.bound {d : Decision} {c : Int} {db db' : Db} (effect : Effect lib d c db db')
    (id : String) : (db'.cards.get? id).isSome = (db.cards.get? id).isSome := by
  cases effect with
  | alone row row' single found change cards =>
      rw [cards, Dict.get?_insert]
      split
      · next same => simp [same, found]
      · rfl
  | pair targetId currentness row row' old old' target apart found foundTarget change demoted ending
      cards =>
      rw [cards, Dict.get?_insert, Dict.get?_insert]
      split
      · next same => simp [same, foundTarget]
      · split
        · next same => simp [same, found]
        · rfl

theorem Action.kind_of_ne_stale {action : Action} (notStale : action ≠ .stale) :
    action.kind = .accepted ∨ action.kind = .rejected := by
  cases action with
  | stale => exact absurd rfl notStale
  | reject => exact .inr rfl
  | _ => exact .inl rfl

theorem Event.Made.stable {e : Event} (made : e.Made lib) (notStale : e.decision.action ≠ .stale)
    {t : Int} (early : t < e.committedAt) (hidden : ¬ e.Forgets lib t) (closed : ¬ e.Reopens lib t)
    {q : CardQuery} (asOf : q.asOf = some t) (now : Int) :
    recalledIds lib q now e.after = recalledIds lib q now e.before := by
  obtain ⟨own, effect⟩ := made
  have decides := Action.kind_of_ne_stale notStale
  -- the decided card, whichever way it was decided
  have decided {row row' : CardRow} (found : e.before.cards.get? e.decision.memoryId = some row)
      (change : CardChange lib e.committedAt row row' e.decision.action.kind) :
      row'.memoryId = row.memoryId ∧ q.admits lib now row' = q.admits lib now row := by
    obtain ⟨_, _, revised⟩ := change.revised
    refine ⟨revised.updated.memoryId, ?_⟩
    rw [change.outside decides asOf early,
      CardQuery.admits_of_not_recalled asOf fun recalled => hidden ⟨row, found, recalled⟩]
  refine recalledIds_congr effect.bound fun id row row' before after => ?_
  cases effect with
  | alone row₁ row₂ single found change cards =>
      rw [cards, Dict.get?_insert] at after
      split at after
      · next same =>
          cases after
          subst same
          cases Option.some.inj (before.symm.trans found)
          exact decided found change
      · cases Option.some.inj (before.symm.trans after)
        exact ⟨rfl, rfl⟩
  | pair targetId currentness row₁ row₂ old old' target apart found foundTarget change demoted ending
      cards =>
      rw [cards, Dict.get?_insert, Dict.get?_insert] at after
      split at after
      · next same =>
          cases after
          subst same
          cases Option.some.inj (before.symm.trans foundTarget)
          obtain ⟨supersedes, rfl⟩ := ending.resolve_right fun stale => notStale stale.1
          obtain ⟨card, _, revised⟩ := demoted.revised
          have ended := demoted.ended (own.rows _ _ _ foundTarget revised.before) revised.before
          obtain ⟨named, -⟩ := Decision.target?_eq_some.mp target
          exact ⟨ended.columns.1, ended.admits_eq asOf early fun reopened =>
            closed ⟨supersedes, row, named ▸ foundTarget, reopened⟩⟩
      · split at after
        · next same =>
            cases after
            subst same
            cases Option.some.inj (before.symm.trans found)
            exact decided found change
        · cases Option.some.inj (before.symm.trans after)
          exact ⟨rfl, rfl⟩

/-- The two rows of a supersede. -/
theorem Event.Made.superseded {e : Event} (made : e.Made lib)
    (supersedes : e.decision.action = .supersede) :
    ∃ new old old', e.before.cards.get? e.decision.targetMemoryId = some old ∧
      (∀ v ∈ old.validTo, old.validFrom ≤ v) ∧ old.project ≠ "" ∧
      Ended e.committedAt old old' ∧ new.validFrom = e.committedAt ∧
      e.decision.targetMemoryId ≠ e.decision.memoryId ∧
      e.after.cards.get? e.decision.memoryId = some new ∧
      e.after.cards.get? e.decision.targetMemoryId = some old' := by
  obtain ⟨own, effect⟩ := made
  cases effect with
  | alone row row' single => exact absurd supersedes single.1
  | pair targetId currentness row row' old old' target apart found foundTarget change demoted ending
      cards =>
      obtain ⟨-, rfl⟩ := ending.resolve_right fun stale => by simp [supersedes] at stale
      obtain ⟨named, -⟩ := Decision.target?_eq_some.mp target
      obtain ⟨card, _, revised⟩ := demoted.revised
      have ownOld := own.rows _ _ _ foundTarget revised.before
      have opened : row'.validFrom = e.committedAt := by
        rw [supersedes, Action.kind] at change
        cases change with
        | accepted card₁ card₂ revised pending claim lifecycle approved current validFrom =>
            exact validFrom
      refine ⟨row', old, old', named ▸ foundTarget, ownOld.ordered, ownOld.project,
        demoted.ended ownOld revised.before, opened, named ▸ apart, ?_, ?_⟩
      · rw [cards, Dict.get?_insert, if_neg (Ne.symm apart), Dict.get?_insert_self]
      · rw [cards, named, Dict.get?_insert_self]

/-- The query for one card at one instant. -/
def CardQuery.only (row : CardRow) (t : Int) : CardQuery where
  project := row.project
  memoryIds := some [row.memoryId]
  asOf := some t
  limit := 1
  afterMemoryId := none
  stewardOnly := false

theorem CardQuery.only_selects {row : CardRow} {t : Int} {id : String} :
    (CardQuery.only row t).Selects id ↔ id = row.memoryId := by
  simp [CardQuery.Selects, CardQuery.only]

theorem recalledIds_only_iff {row : CardRow} {t now : Int} {db : Db} (project : row.project ≠ "") :
    recalledIds lib (.only row t) now db = .ok [] ↔
      ∀ id row', db.cards.get? id = some row' →
        (CardQuery.only row t).admits lib now row' = .ok false := by
  have every : (∀ a ∈ db.cards.entries.map Prod.snd,
      (CardQuery.only row t).admits lib now a = .ok false) ↔
      ∀ id row', db.cards.get? id = some row' →
        (CardQuery.only row t).admits lib now row' = .ok false := by
    simp only [List.forall_mem_map, Prod.forall, Dict.mem_entries_iff]
  rw [← every, ← filterM_eq_nil_iff, recalledIds_eq]
  have bounded : ¬ ((CardQuery.only row t).project = "" ∨
      ¬ (1 ≤ (CardQuery.only row t).limit ∧ (CardQuery.only row t).limit ≤ 100)) := by
    simp [CardQuery.only, project]
  rw [refuseIf, if_neg bounded, ok_bind, admittedIds]
  cases (db.cards.entries.map Prod.snd).filterM ((CardQuery.only row t).admits lib now) with
  | error e => simp
  | ok kept => simp [CardQuery.only]

/-- Where the window is opened again, the read of the old card alone changes. -/
theorem Event.Made.reopens {e : Event} (made : e.Made lib) {t : Int} (early : t < e.committedAt)
    (reopens : e.Reopens lib t) (now : Int) : ∃ q : CardQuery, q.asOf = some t ∧
      recalledIds lib q now e.after ≠ recalledIds lib q now e.before := by
  obtain ⟨supersedes, old, foundOld, reopened⟩ := reopens
  obtain ⟨new, old₁, old', found, ordered, project, ended, -, apart, -, after⟩ :=
    made.superseded supersedes
  cases Option.some.inj (foundOld.symm.trans found)
  obtain ⟨hidden, shown⟩ := ended.shown (q := .only old t) now rfl early ordered reopened rfl rfl
    (CardQuery.only_selects.mpr rfl)
  refine ⟨.only old t, rfl, ?_⟩
  have empty : recalledIds lib (.only old t) now e.before = .ok [] := by
    refine (recalledIds_only_iff project).mpr fun id row found' => ?_
    by_cases same : id = e.decision.targetMemoryId
    · subst same
      cases Option.some.inj (found'.symm.trans found)
      exact hidden
    · have other : row.memoryId ≠ old.memoryId := by
        rw [made.1.keyed _ _ found', made.1.keyed _ _ found]
        exact same
      simp [CardQuery.admits, CardQuery.only_selects, other]
  rw [empty]
  intro none
  exact shown ((recalledIds_only_iff project).mp none _ _ after)

/-- The decided card, before and after. -/
theorem Effect.decided {d : Decision} {c : Int} {db db' : Db} (effect : Effect lib d c db db') :
    ∃ row row', db.cards.get? d.memoryId = some row ∧ db'.cards.get? d.memoryId = some row' ∧
      CardChange lib c row row' d.action.kind := by
  cases effect with
  | alone row row' single found change cards =>
      exact ⟨row, row', found, by rw [cards, Dict.get?_insert_self], change⟩
  | pair targetId currentness row row' old old' target apart found foundTarget change demoted ending
      cards =>
      refine ⟨row, row', found, ?_, change⟩
      rw [cards, Dict.get?_insert, if_neg (Ne.symm apart), Dict.get?_insert_self]

/-- Where the decided card was an authority already, the read of it alone changes. -/
theorem Event.Made.forgets {e : Event} (made : e.Made lib) (notStale : e.decision.action ≠ .stale) {t : Int}
    (early : t < e.committedAt) (forgets : e.Forgets lib t) (now : Int) : ∃ q : CardQuery, q.asOf = some t ∧
      recalledIds lib q now e.after ≠ recalledIds lib q now e.before := by
  obtain ⟨old, foundOld, within, shown⟩ := forgets
  obtain ⟨row, row', found, after, change⟩ := made.2.decided
  cases Option.some.inj (foundOld.symm.trans found)
  obtain ⟨card, _, revised⟩ := change.revised
  have project := (made.1.rows _ _ _ found revised.before).project
  refine ⟨.only old t, rfl, ?_⟩
  have empty : recalledIds lib (.only old t) now e.after = .ok [] := by
    refine (recalledIds_only_iff project).mpr fun id other found' => ?_
    by_cases same : id = e.decision.memoryId
    · subst same
      cases Option.some.inj (found'.symm.trans after)
      exact change.outside (Action.kind_of_ne_stale notStale) rfl early
    · have keyed := (made.2.stewarded made.1).keyed
      have apart : other.memoryId ≠ old.memoryId := by
        rw [keyed _ _ found', made.1.keyed _ _ found]
        exact same
      simp [CardQuery.admits, CardQuery.only_selects, apart]
  rw [empty]
  intro none
  have hidden := (recalledIds_only_iff project).mp none.symm _ _ found
  have selects : (CardQuery.only old t).Selects old.memoryId ∧
      ((CardQuery.only old t).stewardOnly → stewardOnlyFilter old) :=
    ⟨CardQuery.only_selects.mpr rfl, nofun⟩
  have inside : old.InWindow (CardQuery.only old t).project (CardQuery.only old t).asOf
      ((CardQuery.only old t).asOf.getD now) := within
  rw [CardQuery.admits, if_pos selects, authorityFilter, if_pos inside] at hidden
  exact shown hidden

/-- Where nothing but the steward wrote, no decided card was an authority already. -/
theorem Event.Made.remembers {e : Event} (made : e.Made lib) (notStale : e.decision.action ≠ .stale)
    (sound : e.before.Sound lib) (t : Int) : ¬ e.Forgets lib t := by
  rintro ⟨row, found, ⟨-, active, -⟩, -⟩
  obtain ⟨row₁, row', found₁, -, change⟩ := made.2.decided
  cases Option.some.inj (found.symm.trans found₁)
  have decides := Action.kind_of_ne_stale notStale
  obtain ⟨card, held, pending⟩ : ∃ card, row.stewardEnvelope = some card ∧ Pending card := by
    generalize e.decision.action.kind = kind at change decides
    cases change with
    | accepted card _ revised pending => exact ⟨card, revised.before, pending⟩
    | rejected card _ revised pending => exact ⟨card, revised.before, pending⟩
    | closed card _ revised pending => exact ⟨card, revised.before, pending⟩
    | demoted => simp at decides
  have own := sound.rows _ _ _ found held
  have unapproved := own.unapproved pending
  cases own.stage with
  | pending _ disabled => simp [disabled] at active
  | accepted _ _ approved => simp [unapproved] at approved
  | rejected _ disabled => simp [disabled] at active

/-- A recalled card is in its window at the instant of the read. -/
theorem inWindow_of_recalled {q : CardQuery} {now : Int} {db : Db} {ids : List String}
    (keyed : ∀ id row, db.cards.get? id = some row → row.memoryId = id)
    (done : recalledIds lib q now db = .ok ids) {id : String} (mem : id ∈ ids) {row : CardRow}
    (found : db.cards.get? id = some row) : row.InWindow q.project q.asOf (q.asOf.getD now) := by
  simp only [recalledIds_eq, admittedIds, bind_eq_ok, pure_eq_ok, Except.ok.injEq] at done
  obtain ⟨⟨⟩, -, _, ⟨kept, filtered, rfl⟩, rfl⟩ := done
  obtain ⟨row', mem', rfl⟩ := List.mem_map.mp (List.mem_of_mem_take mem)
  obtain ⟨listed, admitted⟩ := mem_of_filterM filtered mem'
  obtain ⟨⟨key, stored⟩, entry, rfl⟩ := List.mem_map.mp listed
  have found' := Dict.mem_entries_iff.mp entry
  rw [keyed key stored found'] at found
  cases Option.some.inj (found.symm.trans found')
  by_contra outside
  rw [CardQuery.admits_of_outside outside] at admitted
  cases admitted

/-- In every run, a decision other than a stale one keeps every earlier instant's
    recall exactly when the decided card was no authority then and no ended window is opened
    again, and a supersede leaves no instant at which the old and the new card are both recalled. -/
theorem recall_stable_iff (lib : Library) (start : Db) (unstewarded : start.Unstewarded)
    (ops : List StoreOp) (call : Call) (e : Event)
    (made : e ∈ eventsOf lib call (run (storeStep lib) start ops))
    (notStale : e.decision.action ≠ .stale) :
    (∀ t < e.committedAt,
      (∀ q : CardQuery, q.asOf = some t → ∀ now,
        recalledIds lib q now e.after = recalledIds lib q now e.before) ↔
          ¬ e.Forgets lib t ∧ ¬ e.Reopens lib t) ∧
    (e.decision.action = .supersede → ∃ new old,
      e.after.cards.get? e.decision.memoryId = some new ∧
      e.after.cards.get? e.decision.targetMemoryId = some old ∧
      old.validTo = some e.committedAt ∧ new.validFrom = e.committedAt ∧
      ∀ q now ids, recalledIds lib q now e.after = .ok ids →
        ¬ (e.decision.memoryId ∈ ids ∧ e.decision.targetMemoryId ∈ ids)) := by
  have event := (perform_made call (run_stewarded unstewarded ops)).2 e made
  refine ⟨fun t early => ⟨fun same => ⟨fun forgets => ?_, fun reopens => ?_⟩, fun closed q asOf now =>
    event.stable notStale early closed.1 closed.2 asOf now⟩, fun supersedes => ?_⟩
  · obtain ⟨q, asOf, differs⟩ := event.forgets notStale early forgets 0
    exact differs (same q asOf 0)
  · obtain ⟨q, asOf, differs⟩ := event.reopens early reopens 0
    exact differs (same q asOf 0)
  · obtain ⟨new, old, old', -, -, -, ended, opened, -, after, afterOld⟩ := event.superseded supersedes
    refine ⟨new, old', after, afterOld, ended.validTo, opened, fun q now ids done both => ?_⟩
    have keyed := (event.2.stewarded event.1).keyed
    obtain ⟨-, -, -, -, from_, -⟩ := inWindow_of_recalled keyed done both.1 after
    obtain ⟨-, -, -, -, -, until_⟩ := inWindow_of_recalled keyed done both.2 afterOld
    have concluded := until_ _ ended.validTo
    rw [opened] at from_
    omega

/-! ## A window opened again -/

/-- A reference proposal whose validity ends at the fifth second. -/
def endingSpan : Doc := (hashedSpan "first").set .validTo (.str (referenceIsoformat 5))

/-- The first card is proposed and approved under its id, its successor proposed. -/
def endingCalls (id : String) : List Call :=
  [createCall endingSpan 1, approveCall id "decision-1" 2, proposeCall id "second" 3]

/-- The successor is committed at the tenth second. -/
def endingCommit (id : String) : Call := commitCall "second" id "decision-2" 10

theorem strip_second : strip "second" ≠ "" := by decide

theorem stampedId_apart : stampedId "second" "supersede" (stampedId "first" "candidate" "") ≠
    stampedId "first" "candidate" "" := by decide +kernel

theorem endingSpan_proposable : Proposable endingSpan "first" :=
  (hashedSpan_proposable strip_first).set (by simp [carriedFields]) (by simp [Admits, fixedFields])

theorem endingSpan_ends : parseTime referenceLibrary (value endingSpan .validTo) = .ok (some 5) ∧
    awareEnd referenceLibrary (value endingSpan .validTo) = true := by
  have held : value endingSpan .validTo = .str (referenceIsoformat 5) := by
    simp [value, endingSpan, Doc.get?_set]
  have zulu : replaceZulu (referenceIsoformat 5) = referenceIsoformat 5 := by decide
  have read : referenceTimestamp (referenceIsoformat 5) = some 5 := referenceTimestamp_isoformat 5
  simp [held, parseTime, awareEnd, zulu, referenceLibrary, read]

/-- The state before the commit. -/
theorem endingCalls_supersedable {id : String} (isId : stampedId "first" "candidate" "" = id)
    (apart : stampedId "second" "supersede" id ≠ id) : ∃ old row,
    Supersedable (run (step referenceLibrary) Db.empty (endingCalls id)) "second"
      id old row 2 3 ∧ row.validTo = some 5 ∧
    (run (step referenceLibrary) Db.empty (endingCalls id)).cardDecisions.get? "decision-2" = none := by
  have insertable := endingSpan_proposable.insertable (by simp) "candidate" "" 1 endingSpan_ends
    (by simp)
  have unused : Db.empty.cards.get? (stampedId "first" "candidate" "") = none := rfl
  have created := step_create endingSpan_proposable (by simp) endingSpan_ends
    (show ∀ t ∈ some (5 : Int), 1 ≤ t by simp) unused
  rw [isId] at insertable created
  have named : id ≠ "" := isId ▸ stampedId_named _ _ _
  rw [endingCalls, run_cons, run_cons, run_cons, run_nil, created]
  have other {f : Field} (apart : f ∉ [Field.memoryId, .authorizationStatus, .stewardProposalKind,
      .stewardProposedBy]) : (stampProposal referenceLibrary endingSpan "candidate" "" "codex").get? f =
        endingSpan.get? f := by
    simp only [List.mem_cons, List.not_mem_nil, or_false, not_or] at apart
    simp [stampProposal, Doc.get?_set, apart]
  have kind : (stampProposal referenceLibrary endingSpan "candidate" "" "codex").get?
      .stewardProposalKind = some (.str "candidate") := by
    simp [stampProposal, Doc.get?_set]
  have hashed : endingSpan.get? .contentHash = some (.str "sha256:1") := by
    simp [endingSpan, hashedSpan, Doc.get?_set]
  have ends : endingSpan.get? .validTo = some (.str (referenceIsoformat 5)) := by
    simp [endingSpan, Doc.get?_set]
  generalize stampProposal referenceLibrary endingSpan "candidate" "" "codex" = card at *
  generalize isFirst : ({ Db.empty with
    cards := Db.empty.cards.insert id
      (insertedRow card id 1 (some 5)) } : Db) = first
  have found : first.cards.get? id =
      some (insertedRow card id 1 (some 5)) := by
    rw [← isFirst, Dict.get?_insert_self]
  have unaudited (id : String) : first.cardDecisions.get? id = none := by
    rw [← isFirst]
    rfl
  obtain ⟨old, row, approved, memoryId, validTo, cards, audits⟩ := step_approve (c := 2)
    insertable (by rw [other (by simp), hashed])
    (by rw [other (by simp), endingSpan_proposable.approval]) kind
    (by rw [value, other (by simp), ends, Option.getD_some, sqlTime_reference]) (by simp) found
    (show "decision-1" ≠ "" by simp) (unaudited _)
  generalize step referenceLibrary first
    (approveCall id "decision-1" 2) = second at *
  have foundOld : second.cards.get? id = some row := by
    rw [cards, Dict.get?_insert_self]
  have free : second.cards.get? (stampedId "second" "supersede" id) =
      none := by
    rw [cards, Dict.get?_insert, if_neg apart, ← isFirst, Dict.get?_insert,
      if_neg apart]
    rfl
  rw [step_propose strip_second (by simp) approved named foundOld free]
  refine ⟨old, row, ⟨strip_second, by simp, named, apart, approved, memoryId,
    ?_, Dict.get?_insert_self _ _ _⟩, validTo, ?_⟩
  · rw [Dict.get?_insert, if_neg (Ne.symm apart), foundOld]
  · exact (audits "decision-2" (by simp)).trans (unaudited _)

/-- The commit makes a decision that opens the window of the first card again. -/
theorem endingCommit_event {id : String} (isId : stampedId "first" "candidate" "" = id)
    (apart : stampedId "second" "supersede" id ≠ id) : ∃ e ∈ eventsOf referenceLibrary (endingCommit id)
      (run (step referenceLibrary) Db.empty (endingCalls id)),
    e.before = run (step referenceLibrary) Db.empty (endingCalls id) ∧
      e.decision.action = .supersede ∧ e.committedAt = 10 ∧
      ∀ t, e.Reopens referenceLibrary t ↔ 5 ≤ t := by
  obtain ⟨old, row, ready, ends, fresh⟩ := endingCalls_supersedable isId apart
  generalize run (step referenceLibrary) Db.empty (endingCalls id) = db at *
  obtain ⟨reply, planned⟩ := ready.planned 10 fresh
  obtain ⟨outcome, db', decided⟩ := ready.decided (show (2 : Int) ≤ 10 by simp)
    (show "decision-2" ≠ "" by simp) fresh
  have listed : eventsOf referenceLibrary (endingCommit id) db =
      [⟨db, supersedeDecision "second" id "decision-2", 10, db'⟩] := by
    have contained : db.cardDecisions.contains "decision-2" = false := by
      rw [Dict.contains, fresh, Option.isSome_none]
    have profile : referenceLibrary.localProfile = false := rfl
    rw [eventsOf, endingCommit, planned]
    simp only [Plan.events, profile]
    rw [show (commitCall "second" id "decision-2" 10).clock 0 = 10
      from rfl, decided]
    simp only [newDecision, supersedeDecision, contained, Bool.false_eq_true, if_false]
  refine ⟨_, listed ▸ List.mem_singleton_self _, rfl, rfl, rfl, fun t => ⟨?_, fun late => ?_⟩⟩
  · rintro ⟨-, row', found, ⟨v, ended, early⟩, -⟩
    cases Option.some.inj (ready.found.symm.trans found)
    cases ends.symm.trans ended
    exact early
  · refine ⟨rfl, row, ready.found, ⟨5, ends, late⟩, ?_⟩
    simp [statusUnexpired, ready.approved.cardType]

/-- A read of the fourth second, before the card ended, keeps its answer. -/
theorem recall_stable_iff_fourth_second : ∃ e ∈ eventsOf referenceLibrary
      (endingCommit (stampedId "first" "candidate" ""))
      (run (storeStep referenceLibrary) Db.empty
        ((endingCalls (stampedId "first" "candidate" "")).map .call)),
    e.decision.action = .supersede ∧ e.committedAt = 10 ∧
      ∀ q : CardQuery, q.asOf = some 4 → ∀ now,
        recalledIds referenceLibrary q now e.after = recalledIds referenceLibrary q now e.before := by
  obtain ⟨e, mem, before, supersedes, committed, reopens⟩ := endingCommit_event rfl stampedId_apart
  have sound := (run_progressed (empty_unstewarded.sound : Db.empty.Sound referenceLibrary)
    (endingCalls (stampedId "first" "candidate" ""))).1
  have made := (perform_made (endingCommit (stampedId "first" "candidate" "")) sound.stewarded).2 e mem
  rw [← storeStep_run] at mem
  refine ⟨e, mem, supersedes, committed, ?_⟩
  have notStale : e.decision.action ≠ .stale := by simp [supersedes]
  refine ((recall_stable_iff referenceLibrary Db.empty empty_unstewarded _ _ e mem notStale).1 4
    (by simp [committed])).mpr ⟨made.remembers notStale (before ▸ sound) 4, ?_⟩
  rw [reopens]
  simp

/-- A read of the seventh second, between the two decisions, changes its answer. -/
theorem superseded_window_reopened : ∃ e ∈ eventsOf referenceLibrary
      (endingCommit (stampedId "first" "candidate" ""))
      (run (storeStep referenceLibrary) Db.empty
        ((endingCalls (stampedId "first" "candidate" "")).map .call)),
    e.decision.action = .supersede ∧ e.committedAt = 10 ∧ ∃ q : CardQuery, q.asOf = some 7 ∧
      recalledIds referenceLibrary q 10 e.after ≠ recalledIds referenceLibrary q 10 e.before := by
  obtain ⟨e, mem, -, supersedes, committed, reopens⟩ := endingCommit_event rfl stampedId_apart
  have reached := (run_progressed (empty_unstewarded.sound : Db.empty.Sound referenceLibrary)
    (endingCalls (stampedId "first" "candidate" ""))).1
  have made := (perform_made (endingCommit (stampedId "first" "candidate" "")) reached.stewarded).2 e mem
  rw [← storeStep_run] at mem
  exact ⟨e, mem, supersedes, committed,
    made.reopens (t := 7) (by simp [committed]) ((reopens 7).mpr (by simp)) 10⟩

end Recall

end Neurons.Steward
