import Neurons.Steward.ReferenceRun

/-! # A bundle and its decisions one by one

A bundle makes its decisions through a second store on the connection of its transaction. A
decision is made up of what it writes to the cards, the audits and the graph outbox, and of the
embedding work it asks for; only the second part depends on the profile of the store.
-/

namespace Neurons.Steward

open Neurons.Lib
open Neurons.Source

/-- Decisions one after another on one store, each at its own database time. -/
def runDecisions (lib : Library) (localProfile : Bool) :
    List Child → (ℕ → Int) → Db → Except PyError (List Outcome × Db)
  | [], _, db => .ok ([], db)
  | child :: rest, clock, db => do
      let (outcome, db) ← stewardDecision lib localProfile child.decision child.transform (clock 0) db
      let (outcomes, db) ← runDecisions lib localProfile rest (fun n => clock (n + 1)) db
      return (outcome :: outcomes, db)

theorem commitChildren_eq (lib : Library) (children : List Child) (clock : ℕ → Int) (db : Db) :
    commitChildren lib children clock db = runDecisions lib lib.environmentLocalProfile children clock db := by
  induction children generalizing clock db with
  | nil => rfl
  | cons child rest ih => simp only [commitChildren, runDecisions, ih]

/-! ## Embedding work -/

/-- The embedding queues of both profiles. -/
structure Work where
  outbox : List EmbeddingJob
  tables : List Json
  deriving DecidableEq

def Db.work (db : Db) : Work := ⟨db.embeddingOutbox, db.localTables⟩

def Db.withWork (db : Db) (work : Work) : Db :=
  { db with embeddingOutbox := work.outbox, localTables := work.tables }

@[simp] theorem Db.withWork_work (db : Db) : db.withWork db.work = db := rfl
@[simp] theorem Db.work_withWork (db : Db) (work : Work) : (db.withWork work).work = work := rfl
@[simp] theorem Db.withWork_withWork (db : Db) (work other : Work) :
    (db.withWork work).withWork other = db.withWork other := rfl
@[simp] theorem Db.withWork_cards (db : Db) (work : Work) : (db.withWork work).cards = db.cards := rfl
@[simp] theorem Db.withWork_cardDecisions (db : Db) (work : Work) :
    (db.withWork work).cardDecisions = db.cardDecisions := rfl
@[simp] theorem Db.withWork_graphOutbox (db : Db) (work : Work) :
    (db.withWork work).graphOutbox = db.graphOutbox := rfl

/-- An accepted current card asks for its embedding. -/
def Embeds (stored : Doc) : Prop :=
  (isApproved stored ∧ stored.text .stewardProposalKind ≠ "stale") ∧
    textOr stored .currentness "unknown" = "current"

instance (stored : Doc) : Decidable (Embeds stored) := by
  unfold Embeds
  infer_instance

/-- The work a stored card asks for. -/
def askedBy (stored : Doc) : List Doc := if Embeds stored then [stored] else []

/-- One request, in the queue of the profile. -/
def queueOne (lib : Library) (localProfile : Bool) (work : Work) (stored : Doc) : Except PyError Work :=
  if localProfile then do
    return ⟨work.outbox, ← lib.enqueueLocal work.tables stored⟩
  else do
    let outbox ← enqueueOutbox (value stored .memoryId).text (value stored .contentHash).text
      (stored.text .summary) work.outbox
    return ⟨outbox, work.tables⟩

def queueAll (lib : Library) (localProfile : Bool) : List Doc → Work → Except PyError Work
  | [], work => .ok work
  | stored :: rest, work => do
      let work ← queueOne lib localProfile work stored
      queueAll lib localProfile rest work

/-- The library with another local queue. -/
def Library.serving (lib : Library) (enqueueLocal : List Json → Doc → Except PyError (List Json)) : Library :=
  { lib with enqueueLocal }

/-- A local queue that takes nothing. -/
def quiet (lib : Library) : Library := lib.serving fun tables _ => .ok tables

/-- What a decision asks for; a replay of an audited one asks for nothing. -/
def decisionAsks (db : Db) (d : Decision) (outcome : Outcome) : List Doc :=
  match db.cardDecisions.get? d.decisionId with
  | some _ => []
  | none => askedBy outcome.card ++ (outcome.target.map askedBy).getD []

/-- The embedding work that decisions one after another ask for. -/
def asks (lib : Library) : List Child → (ℕ → Int) → Db → List Doc
  | [], _, _ => []
  | child :: rest, clock, db =>
      match stewardDecision (quiet lib) true child.decision child.transform (clock 0) db with
      | .error _ => []
      | .ok (outcome, db') => decisionAsks db child.decision outcome ++ asks lib rest (fun n => clock (n + 1)) db'

/-- The graph work of a stored card. -/
def graphWork (cardId contentHash : String) (stored : Doc) (jobs : List GraphJob) : Except PyError (List GraphJob) :=
  if isApproved stored ∧ stored.text .stewardProposalKind ≠ "stale" then do
    let currentness := textOr stored .currentness "unknown"
    let lifecycleState := (← index stored .lifecycleState).text
    let revision := contentHash ++ ":" ++ lifecycleState ++ ":" ++ currentness
    let episode ← episodePayload cardId revision currentness stored
    enqueueGraphOutbox cardId revision contentHash episode jobs
  else .ok jobs

section Factoring

variable {lib : Library} {localProfile : Bool} {db db' : Db}

theorem queueAll_append (first rest : List Doc) (work : Work) :
    queueAll lib localProfile (first ++ rest) work = (do
      let work ← queueAll lib localProfile first work
      queueAll lib localProfile rest work) := by
  induction first generalizing work with
  | nil => rfl
  | cons stored first ih =>
      simp only [List.cons_append, queueAll]
      cases queueOne lib localProfile work stored with
      | error e => rfl
      | ok next => exact ih next

theorem queueAll_single (stored : Doc) (work : Work) :
    queueAll lib localProfile [stored] work = queueOne lib localProfile work stored := by
  simp only [queueAll]
  cases queueOne lib localProfile work stored <;> rfl

/-- The projections of a stored card are the embedding work it asks for, and its graph work. -/
theorem enqueueProjections_eq_ok {stored : Doc} {contentHash : String} {id : Json}
    (hash : stored.get? .contentHash = some (.str contentHash)) (memoryId : stored.get? .memoryId = some id) :
    enqueueProjections lib localProfile id.text contentHash stored db = .ok db' ↔
      ∃ work jobs, queueAll lib localProfile (askedBy stored) db.work = .ok work ∧
        graphWork id.text contentHash stored db.graphOutbox = .ok jobs ∧
        db' = { db.withWork work with graphOutbox := jobs } := by
  have named : value stored .memoryId = id := by simp [value, memoryId]
  have hashed : (value stored .contentHash).text = contentHash := by simp [value, hash, Json.text]
  by_cases authority : isApproved stored ∧ stored.text .stewardProposalKind ≠ "stale"
  · by_cases current : textOr stored .currentness "unknown" = "current"
    · have asked : askedBy stored = [stored] := if_pos ⟨authority, current⟩
      rw [asked, queueAll_single]
      simp only [enqueueProjections, enqueueEmbedding, graphWork, queueOne, authority, current, ne_eq, not_true_eq_false,
        not_false_eq_true, and_self, if_false, if_true, named, hashed]
      cases localProfile with
      | true =>
          simp only [if_true, bind_eq_ok, pure_eq_ok, Except.ok.injEq]
          constructor
          · rintro ⟨_, ⟨tables, queued, rfl⟩, lifecycle, found, episode, built, jobs, enqueued, rfl⟩
            exact ⟨_, jobs, ⟨tables, queued, rfl⟩, ⟨lifecycle, found, episode, built, enqueued⟩, rfl⟩
          · rintro ⟨_, jobs, ⟨tables, queued, rfl⟩, ⟨lifecycle, found, episode, built, enqueued⟩, rfl⟩
            exact ⟨_, ⟨tables, queued, rfl⟩, lifecycle, found, episode, built, jobs, enqueued, rfl⟩
      | false =>
          simp only [Bool.false_eq_true, if_false, bind_eq_ok, pure_eq_ok, Except.ok.injEq]
          constructor
          · rintro ⟨_, ⟨outbox, queued, rfl⟩, lifecycle, found, episode, built, jobs, enqueued, rfl⟩
            exact ⟨_, jobs, ⟨outbox, queued, rfl⟩, ⟨lifecycle, found, episode, built, enqueued⟩, rfl⟩
          · rintro ⟨_, jobs, ⟨outbox, queued, rfl⟩, ⟨lifecycle, found, episode, built, enqueued⟩, rfl⟩
            exact ⟨_, ⟨outbox, queued, rfl⟩, lifecycle, found, episode, built, jobs, enqueued, rfl⟩
    · have asked : askedBy stored = [] := if_neg fun both => current both.2
      rw [asked]
      simp only [enqueueProjections, enqueueEmbedding, graphWork, queueAll, authority, current, ne_eq,
        not_false_eq_true, and_self, if_true, bind_eq_ok, pure_eq_ok, Except.ok.injEq]
      constructor
      · rintro ⟨_, rfl, lifecycle, found, episode, built, jobs, enqueued, rfl⟩
        exact ⟨_, jobs, rfl, ⟨lifecycle, found, episode, built, enqueued⟩, rfl⟩
      · rintro ⟨_, jobs, rfl, ⟨lifecycle, found, episode, built, enqueued⟩, rfl⟩
        exact ⟨_, rfl, lifecycle, found, episode, built, jobs, enqueued, rfl⟩
  · have asked : askedBy stored = [] := if_neg fun both => authority both.1
    rw [asked]
    simp only [enqueueProjections, graphWork, authority, if_false, queueAll, Except.ok.injEq]
    constructor
    · rintro rfl
      exact ⟨_, _, rfl, rfl, rfl⟩
    · rintro ⟨_, _, rfl, rfl, rfl⟩
      rfl

/-- A stored change in full. -/
theorem writeChanged_iff {locked : List String} {changed stored : Doc} :
    writeChanged lib localProfile locked changed db = .ok (stored, db') ↔
      ∃ id row row' work jobs, changed.get? .memoryId = some id ∧ id.text ∈ locked ∧
        db.cards.get? id.text = some row ∧ changed.get? .contentHash = some (.str row.contentHash) ∧
        stored = authorize changed ∧ updateRow lib row stored = .ok row' ∧
        queueAll lib localProfile (askedBy stored) db.work = .ok work ∧
        graphWork id.text row.contentHash stored db.graphOutbox = .ok jobs ∧
        db' = { db.withWork work with cards := db.cards.insert id.text row', graphOutbox := jobs } := by
  have projected {id : Json} {row row' : CardRow} (memoryId : changed.get? .memoryId = some id)
      (hash : changed.get? .contentHash = some (.str row.contentHash)) :
      enqueueProjections lib localProfile id.text row.contentHash (authorize changed)
          { db with cards := db.cards.insert id.text row' } = .ok db' ↔
        ∃ work jobs, queueAll lib localProfile (askedBy (authorize changed)) db.work = .ok work ∧
          graphWork id.text row.contentHash (authorize changed) db.graphOutbox = .ok jobs ∧
          db' = { db.withWork work with cards := db.cards.insert id.text row', graphOutbox := jobs } :=
    enqueueProjections_eq_ok (by rw [authorize, Doc.get?_set, if_neg (by simp), hash])
      (by rw [authorize, Doc.get?_set, if_neg (by simp), memoryId])
  constructor
  · intro done
    unfold writeChanged at done
    obtain ⟨id, memoryId, done⟩ := bind_eq_ok.mp done
    rw [index_eq_ok] at memoryId
    by_cases mem : id.text ∈ locked
    · simp only [mem, if_true] at done
      cases found : db.cards.get? id.text with
      | none => simp [found] at done
      | some row =>
          simp only [found, bind_eq_ok, index_eq_ok, refuseIf_eq_ok, not_not, pure_eq_ok, Except.ok.injEq,
            Prod.mk.injEq] at done
          obtain ⟨hash, contentHash, ⟨⟩, same, row', updated, last, queued, rfl, rfl⟩ := done
          subst same
          obtain ⟨work, jobs, served, graphed, rfl⟩ := (projected memoryId contentHash).mp queued
          exact ⟨id, row, row', work, jobs, memoryId, mem, found, contentHash, rfl, updated, served, graphed, rfl⟩
    · simp [mem] at done
  · rintro ⟨id, row, row', work, jobs, memoryId, mem, found, contentHash, rfl, updated, served, graphed, same⟩
    have queued := (projected memoryId contentHash).mpr ⟨work, jobs, served, graphed, same⟩
    unfold writeChanged
    refine bind_eq_ok.mpr ⟨id, index_eq_ok.mpr memoryId, ?_⟩
    simp only [mem, if_true, found, bind_eq_ok, index_eq_ok, refuseIf_eq_ok, not_not, pure_eq_ok]
    exact ⟨_, contentHash, (), rfl, row', updated, _, queued, rfl⟩

section Transfer

variable {enqueueLocal : List Json → Doc → Except PyError (List Json)} {localProfile' : Bool} {work work' : Work}

theorem writeChanged_serves {locked : List String} {changed stored : Doc}
    (done : writeChanged lib localProfile locked changed db = .ok (stored, db')) :
    queueAll lib localProfile (askedBy stored) db.work = .ok db'.work := by
  obtain ⟨id, row, row', work, jobs, _, _, _, _, _, _, served, _, rfl⟩ := writeChanged_iff.mp done
  exact served

/-- A write is the same over any other embedding queues that take the work. -/
theorem writeChanged_transfers {locked : List String} {changed stored : Doc}
    (done : writeChanged lib localProfile locked changed db = .ok (stored, db'))
    (served : queueAll (lib.serving enqueueLocal) localProfile' (askedBy stored) work = .ok work') :
    writeChanged (lib.serving enqueueLocal) localProfile' locked changed (db.withWork work)
      = .ok (stored, db'.withWork work') := by
  obtain ⟨id, row, row', _, jobs, memoryId, mem, found, hash, same, updated, _, graphed, rfl⟩ := writeChanged_iff.mp done
  exact writeChanged_iff.mpr
    ⟨id, row, row', work', jobs, memoryId, mem, found, hash, same, updated, served, graphed, rfl⟩

theorem writeTarget_serves {locked : List String} {changed stored : Option Doc}
    (done : writeTarget lib localProfile locked changed db = .ok (stored, db')) :
    queueAll lib localProfile ((stored.map askedBy).getD []) db.work = .ok db'.work := by
  cases changed with
  | none =>
      simp only [writeTarget, Except.ok.injEq, Prod.mk.injEq] at done
      obtain ⟨rfl, rfl⟩ := done
      rfl
  | some second =>
      simp only [writeTarget, bind_eq_ok, pure_eq_ok, Except.ok.injEq, Prod.mk.injEq] at done
      obtain ⟨⟨kept, last⟩, written, rfl, rfl⟩ := done
      exact writeChanged_serves written

theorem writeTarget_transfers {locked : List String} {changed stored : Option Doc}
    (done : writeTarget lib localProfile locked changed db = .ok (stored, db'))
    (served : queueAll (lib.serving enqueueLocal) localProfile' ((stored.map askedBy).getD []) work = .ok work') :
    writeTarget (lib.serving enqueueLocal) localProfile' locked changed (db.withWork work)
      = .ok (stored, db'.withWork work') := by
  cases changed with
  | none =>
      simp only [writeTarget, Except.ok.injEq, Prod.mk.injEq] at done
      obtain ⟨rfl, rfl⟩ := done
      cases served
      rfl
  | some second =>
      simp only [writeTarget, bind_eq_ok, pure_eq_ok, Except.ok.injEq, Prod.mk.injEq] at done ⊢
      obtain ⟨⟨kept, last⟩, written, rfl, rfl⟩ := done
      exact ⟨_, writeChanged_transfers written served, rfl, rfl⟩

theorem stewardDecision_serves {d : Decision} {transform : Transform} {committedAt : Int} {outcome : Outcome}
    (done : stewardDecision lib localProfile d transform committedAt db = .ok (outcome, db')) :
    queueAll lib localProfile (decisionAsks db d outcome) db.work = .ok db'.work := by
  unfold stewardDecision at done
  obtain ⟨_, _, done⟩ := bind_eq_ok.mp done
  unfold decisionAsks
  cases audited : db.cardDecisions.get? d.decisionId with
  | some previous =>
      simp only [audited, bind_eq_ok, pure_eq_ok, Except.ok.injEq, Prod.mk.injEq] at done
      obtain ⟨_, _, _, rfl⟩ := done
      rfl
  | none =>
      simp only [audited, commitDecision, bind_eq_ok, pure_eq_ok, Except.ok.injEq, Prod.mk.injEq] at done
      obtain ⟨_, _, ⟨stored, mid⟩, first, ⟨storedTarget, last⟩, second, rfl, rfl⟩ := done
      simp only [queueAll_append, bind_eq_ok]
      have both := writeTarget_serves second
      exact ⟨mid.work, writeChanged_serves first, both⟩

theorem stewardDecision_transfers {d : Decision} {transform : Transform} {committedAt : Int} {outcome : Outcome}
    (done : stewardDecision lib localProfile d transform committedAt db = .ok (outcome, db'))
    (served : queueAll (lib.serving enqueueLocal) localProfile' (decisionAsks db d outcome) work = .ok work') :
    stewardDecision (lib.serving enqueueLocal) localProfile' d transform committedAt (db.withWork work)
      = .ok (outcome, db'.withWork work') := by
  unfold stewardDecision at done ⊢
  obtain ⟨_, identified, done⟩ := bind_eq_ok.mp done
  refine bind_eq_ok.mpr ⟨_, identified, ?_⟩
  unfold decisionAsks at served
  rw [Db.withWork_cardDecisions]
  cases audited : db.cardDecisions.get? d.decisionId with
  | some previous =>
      simp only [audited, queueAll, Except.ok.injEq] at served
      simp only [audited, bind_eq_ok, pure_eq_ok, Except.ok.injEq, Prod.mk.injEq] at done ⊢
      obtain ⟨_, replayed, rfl, rfl⟩ := done
      exact ⟨_, replayed, rfl, by rw [served]⟩
  | none =>
      simp only [audited, queueAll_append, bind_eq_ok] at served
      obtain ⟨between, servedFirst, servedSecond⟩ := served
      simp only [audited, commitDecision, bind_eq_ok, pure_eq_ok, Except.ok.injEq, Prod.mk.injEq] at done ⊢
      obtain ⟨changed, decided, ⟨stored, mid⟩, first, ⟨storedTarget, last⟩, second, rfl, rfl⟩ := done
      exact ⟨changed, decided, _, writeChanged_transfers first servedFirst, _,
        writeTarget_transfers second servedSecond, rfl, rfl⟩

theorem queueAll_quiet (asked : List Doc) (work : Work) : queueAll (quiet lib) true asked work = .ok work := by
  induction asked with
  | nil => rfl
  | cons stored rest ih =>
      simp only [queueAll, queueOne, quiet, Library.serving, if_true] at ih ⊢
      exact ih

theorem decisionAsks_withWork (d : Decision) (outcome : Outcome) :
    decisionAsks (db.withWork work) d outcome = decisionAsks db d outcome := rfl

/-- The quiet decision that goes with a decision. -/
theorem stewardDecision_quiet {d : Decision} {transform : Transform} {committedAt : Int} {outcome : Outcome}
    (done : stewardDecision lib localProfile d transform committedAt db = .ok (outcome, db')) (work : Work) :
    stewardDecision (quiet lib) true d transform committedAt (db.withWork work) = .ok (outcome, db'.withWork work) :=
  stewardDecision_transfers done (queueAll_quiet _ work)

/-- What is asked for does not depend on the queues. -/
theorem asks_withWork (children : List Child) (clock : ℕ → Int) (db : Db) (work : Work) :
    asks lib children clock (db.withWork work) = asks lib children clock db := by
  induction children generalizing clock db with
  | nil => rfl
  | cons child rest ih =>
      simp only [asks]
      cases here : stewardDecision (quiet lib) true child.decision child.transform (clock 0) db with
      | ok result =>
          obtain ⟨outcome, db'⟩ := result
          have same := stewardDecision_quiet here work
          rw [show quiet (quiet lib) = quiet lib from rfl] at same
          rw [same]
          simp only [decisionAsks_withWork, ih]
      | error e =>
          cases there : stewardDecision (quiet lib) true child.decision child.transform (clock 0) (db.withWork work) with
          | error e' => rfl
          | ok result =>
              obtain ⟨outcome, db'⟩ := result
              have back := stewardDecision_quiet there db.work
              rw [Db.withWork_withWork, Db.withWork_work, show quiet (quiet lib) = quiet lib from rfl, here] at back
              cases back

theorem asks_cons {child : Child} {rest : List Child} {clock : ℕ → Int} {outcome : Outcome}
    (done : stewardDecision lib localProfile child.decision child.transform (clock 0) db = .ok (outcome, db')) :
    asks lib (child :: rest) clock db
      = decisionAsks db child.decision outcome ++ asks lib rest (fun n => clock (n + 1)) db' := by
  have here := stewardDecision_quiet done db.work
  rw [Db.withWork_work] at here
  simp only [asks, here, asks_withWork]

theorem runDecisions_serves {children : List Child} {clock : ℕ → Int} {outcomes : List Outcome}
    (done : runDecisions lib localProfile children clock db = .ok (outcomes, db')) :
    queueAll lib localProfile (asks lib children clock db) db.work = .ok db'.work := by
  induction children generalizing clock db outcomes with
  | nil =>
      simp only [runDecisions, Except.ok.injEq, Prod.mk.injEq] at done
      rw [← done.2]
      rfl
  | cons child rest ih =>
      simp only [runDecisions, bind_eq_ok, pure_eq_ok, Except.ok.injEq, Prod.mk.injEq] at done
      obtain ⟨⟨outcome, mid⟩, first, ⟨others, last⟩, later, _, rfl⟩ := done
      rw [asks_cons first, queueAll_append, bind_eq_ok]
      exact ⟨mid.work, stewardDecision_serves first, ih later⟩

/-- Decisions one after another are the same over any other queues that take the work. -/
theorem runDecisions_transfers {children : List Child} {clock : ℕ → Int} {outcomes : List Outcome}
    (done : runDecisions lib localProfile children clock db = .ok (outcomes, db'))
    (served : queueAll (lib.serving enqueueLocal) localProfile' (asks lib children clock db) work = .ok work') :
    runDecisions (lib.serving enqueueLocal) localProfile' children clock (db.withWork work)
      = .ok (outcomes, db'.withWork work') := by
  induction children generalizing clock db outcomes work with
  | nil =>
      simp only [runDecisions, Except.ok.injEq, Prod.mk.injEq] at done ⊢
      simp only [asks, queueAll, Except.ok.injEq] at served
      exact ⟨done.1, by rw [served, done.2]⟩
  | cons child rest ih =>
      simp only [runDecisions, bind_eq_ok, pure_eq_ok, Except.ok.injEq, Prod.mk.injEq] at done ⊢
      obtain ⟨⟨outcome, mid⟩, first, ⟨others, last⟩, later, rfl, rfl⟩ := done
      rw [asks_cons first, queueAll_append, bind_eq_ok] at served
      obtain ⟨between, servedFirst, servedRest⟩ := served
      exact ⟨_, stewardDecision_transfers first servedFirst, _, ih later servedRest, rfl, rfl⟩

end Transfer

end Factoring

/-! ## Bundles -/

/-- The tables a bundle and its decisions write. -/
structure SameTables (db db' : Db) : Prop where
  cards : db.cards = db'.cards
  cardDecisions : db.cardDecisions = db'.cardDecisions
  embeddingOutbox : db.embeddingOutbox = db'.embeddingOutbox
  localTables : db.localTables = db'.localTables
  graphOutbox : db.graphOutbox = db'.graphOutbox

/-- The decisions of a bundle: those its callback plans, and none for a replay of an audited bundle. -/
def bundleChildren (lib : Library) (call : Call) (db : Db) : List Child :=
  match planOf lib call db with
  | .ok (.bundle b decide) =>
      match db.bundleDecisions.get? b.decisionId with
      | some _ => []
      | none =>
          match decide db with
          | .ok plan => plan.children
          | .error _ => []
  | _ => []

/-- What is left of a bundle is what its decisions leave on the store itself; a bundle that raises
    leaves everything. -/
structure BundleRefines (lib : Library) (call : Call) (db : Db) : Prop where
  commits : ∀ reply, (perform lib call db).1 = .ok reply →
    ∃ outcomes direct, runDecisions lib lib.localProfile (bundleChildren lib call db) call.clock db
      = .ok (outcomes, direct) ∧ SameTables (perform lib call db).2 direct
  raises : ∀ e, (perform lib call db).1 = .error e → SameTables (perform lib call db).2 db

/-- The work is in both queues already. -/
def AlreadyQueued (lib : Library) (asked : List Doc) (work : Work) : Prop :=
  queueAll lib true asked work = .ok work ∧ queueAll lib false asked work = .ok work

section Bundles

variable {lib : Library} {db db' : Db}

theorem queueAll_local {asked : List Doc} {work work' : Work} (served : queueAll lib true asked work = .ok work') :
    work'.outbox = work.outbox := by
  induction asked generalizing work with
  | nil =>
      simp only [queueAll, Except.ok.injEq] at served
      rw [served]
  | cons stored rest ih =>
      simp only [queueAll, queueOne, if_true, bind_eq_ok, pure_eq_ok, Except.ok.injEq] at served
      obtain ⟨_, ⟨tables, _, rfl⟩, later⟩ := served
      have kept := ih later
      exact kept

theorem queueAll_remote {asked : List Doc} {work work' : Work} (served : queueAll lib false asked work = .ok work') :
    work'.tables = work.tables := by
  induction asked generalizing work with
  | nil =>
      simp only [queueAll, Except.ok.injEq] at served
      rw [served]
  | cons stored rest ih =>
      simp only [queueAll, queueOne, Bool.false_eq_true, if_false, bind_eq_ok, pure_eq_ok, Except.ok.injEq] at served
      obtain ⟨_, ⟨outbox, _, rfl⟩, later⟩ := served
      have kept := ih later
      exact kept

/-- Both profiles leave the same work only when neither adds any. -/
theorem alreadyQueued_of_same {asked : List Doc} {work work' : Work} (atLocal : queueAll lib true asked work = .ok work')
    (atRemote : queueAll lib false asked work = .ok work') : AlreadyQueued lib asked work := by
  have same : work' = work := by
    cases work'
    cases work
    have outbox := queueAll_local atLocal
    have tables := queueAll_remote atRemote
    simp_all
  rw [same] at atLocal atRemote
  exact ⟨atLocal, atRemote⟩

theorem AlreadyQueued.serves {asked : List Doc} {work : Work} (queued : AlreadyQueued lib asked work)
    (localProfile : Bool) : queueAll lib localProfile asked work = .ok work := by
  cases localProfile with
  | true => exact queued.1
  | false => exact queued.2

theorem SameTables.refl (db : Db) : SameTables db db := ⟨rfl, rfl, rfl, rfl, rfl⟩

/-- A run of the decisions on the environment's profile is one on the store's when the profiles
    agree, or the work is queued already, and in no other case. -/
theorem runDecisions_same_iff {children : List Child} {clock : ℕ → Int} {outcomes : List Outcome}
    (done : runDecisions lib lib.environmentLocalProfile children clock db = .ok (outcomes, db')) :
    (∃ outcomes direct, runDecisions lib lib.localProfile children clock db = .ok (outcomes, direct) ∧
        SameTables db' direct) ↔
      lib.localProfile = lib.environmentLocalProfile ∨ AlreadyQueued lib (asks lib children clock db) db.work := by
  have served := runDecisions_serves done
  constructor
  · rintro ⟨outcomes', direct, also, same⟩
    have servedDirect := runDecisions_serves also
    have sameWork : direct.work = db'.work := by
      rw [Db.work, Db.work, same.embeddingOutbox, same.localTables]
    rw [sameWork] at servedDirect
    cases store : lib.localProfile <;> cases environment : lib.environmentLocalProfile
    · exact .inl rfl
    · rw [store] at servedDirect
      rw [environment] at served
      exact .inr (alreadyQueued_of_same served servedDirect)
    · rw [store] at servedDirect
      rw [environment] at served
      exact .inr (alreadyQueued_of_same servedDirect served)
    · exact .inl rfl
  · rintro (agree | queued)
    · rw [agree]
      exact ⟨outcomes, db', done, .refl db'⟩
    · have unchanged : db'.work = db.work := by
        have here := queued.serves lib.environmentLocalProfile
        rw [served] at here
        exact Except.ok.inj here
      have transferred : runDecisions (lib.serving lib.enqueueLocal) lib.localProfile children clock
          (db.withWork db.work) = .ok (outcomes, db'.withWork db.work) :=
        runDecisions_transfers done (queued.serves lib.localProfile)
      rw [Db.withWork_work, ← unchanged, Db.withWork_work] at transferred
      exact ⟨outcomes, db', transferred, .refl db'⟩

/-- One call that commits a review bundle. -/
def bundleCall (svc : Service) (commit : BundleCommit) (now : Int) (clock : ℕ → Int) : Call :=
  ⟨.reviewBundleCommit commit, svc, now, clock⟩

theorem planOf_bundle {svc : Service} {commit : BundleCommit} {now : Int} {clock : ℕ → Int} {plan : Plan}
    (planned : planOf lib (bundleCall svc commit now clock) db = .ok plan) : ∃ b decide, plan = .bundle b decide := by
  simp only [planOf, bundleCall, reviewBundleCommit, commitBundle, bind_eq_ok, pure_eq_ok, Except.ok.injEq] at planned
  obtain ⟨_, _, _, _, _, _, _, _, _, _, _, _, _, _, _, _, rfl⟩ := planned
  exact ⟨_, _, rfl⟩

theorem SameTables.trans {first second third : Db} (one : SameTables first second) (two : SameTables second third) :
    SameTables first third :=
  ⟨one.cards.trans two.cards, one.cardDecisions.trans two.cardDecisions,
    one.embeddingOutbox.trans two.embeddingOutbox, one.localTables.trans two.localTables,
    one.graphOutbox.trans two.graphOutbox⟩

theorem SameTables.symm {first second : Db} (same : SameTables first second) : SameTables second first :=
  ⟨same.cards.symm, same.cardDecisions.symm, same.embeddingOutbox.symm, same.localTables.symm,
    same.graphOutbox.symm⟩

/-- A bundle that commits has run its decisions on the environment's profile. -/
theorem bundle_runs_children {call : Call} {b : BundleRequest} {decide : Db → Except PyError BundlePlan} {answer : Doc}
    (planned : planOf lib call db = .ok (.bundle b decide))
    (done : stewardBundleDecision lib b decide call.clock db = .ok (answer, db')) :
    ∃ outcomes last, runDecisions lib lib.environmentLocalProfile (bundleChildren lib call db) call.clock db
      = .ok (outcomes, last) ∧ SameTables db' last := by
  simp only [stewardBundleDecision, bind_eq_ok, refuseIf_eq_ok] at done
  obtain ⟨_, _, _, _, _, _, done⟩ := done
  simp only [bundleChildren, planned]
  cases audited : db.bundleDecisions.get? b.decisionId with
  | some previous =>
      simp only [audited, bind_eq_ok, pure_eq_ok, Except.ok.injEq, Prod.mk.injEq] at done
      obtain ⟨_, _, _, rfl⟩ := done
      exact ⟨[], db, rfl, .refl db⟩
  | none =>
      simp only [audited, bind_eq_ok, pure_eq_ok, Except.ok.injEq, Prod.mk.injEq] at done
      obtain ⟨plan, decided, ⟨outcomes, last⟩, ran, result, _, _, rfl⟩ := done
      rw [commitChildren_eq] at ran
      simp only [decided]
      exact ⟨outcomes, last, ran, rfl, rfl, rfl, rfl, rfl⟩

theorem perform_of_refused {call : Call} {b : BundleRequest} {decide : Db → Except PyError BundlePlan} {e : PyError}
    (planned : planOf lib call db = .ok (.bundle b decide))
    (refused : stewardBundleDecision lib b decide call.clock db = .error e) : perform lib call db = (.error e, db) := by
  simp only [perform, planned, Plan.execute, transact, refused]

theorem perform_of_committed {call : Call} {b : BundleRequest} {decide : Db → Except PyError BundlePlan} {answer : Doc}
    (planned : planOf lib call db = .ok (.bundle b decide))
    (done : stewardBundleDecision lib b decide call.clock db = .ok (answer, db')) :
    perform lib call db = (.ok ⟨true, [answer]⟩, db') := by
  simp only [perform, planned, Plan.execute, transact, done]

/-- A call that raises keeps the tables. -/
theorem refines_of_raised {call : Call} {e : PyError} (raised : perform lib call db = (.error e, db)) :
    BundleRefines lib call db where
  commits reply committed := by simp [raised] at committed
  raises _ _ := by
    rw [raised]
    exact .refl db

/-- A committed bundle leaves what its decisions leave on the store itself exactly when the store
    has the environment's profile, or the embedding work of the cards it accepts is queued in both
    profiles already. -/
theorem commit_bundle_refines_iff (lib : Library) (svc : Service) (commit : BundleCommit) (now : Int)
    (clock : ℕ → Int) (db : Db) :
    BundleRefines lib (bundleCall svc commit now clock) db ↔
      ∀ reply, (perform lib (bundleCall svc commit now clock) db).1 = .ok reply →
        lib.localProfile = lib.environmentLocalProfile ∨
          AlreadyQueued lib (asks lib (bundleChildren lib (bundleCall svc commit now clock) db) clock db) db.work := by
  generalize called : bundleCall svc commit now clock = call
  have clocked : call.clock = clock := called ▸ rfl
  subst clocked
  cases planned : planOf lib call db with
  | error e =>
      have raised : perform lib call db = (.error e, db) := by simp only [perform, planned]
      refine ⟨fun _ reply committed => ?_, fun _ => refines_of_raised raised⟩
      simp [raised] at committed
  | ok plan =>
      obtain ⟨b, decide, rfl⟩ := planOf_bundle (called ▸ planned)
      cases done : stewardBundleDecision lib b decide call.clock db with
      | error e =>
          have raised := perform_of_refused planned done
          refine ⟨fun _ reply committed => ?_, fun _ => refines_of_raised raised⟩
          simp [raised] at committed
      | ok result =>
          obtain ⟨answer, after⟩ := result
          have committed := perform_of_committed planned done
          obtain ⟨outcomes, last, ran, same⟩ := bundle_runs_children planned done
          have agree := runDecisions_same_iff ran
          constructor
          · intro refines reply _
            obtain ⟨outcomes', direct, also, left⟩ := refines.commits _ (by rw [committed])
            rw [committed] at left
            exact agree.mp ⟨outcomes', direct, also, same.symm.trans left⟩
          · intro condition
            obtain ⟨outcomes', direct, also, left⟩ := agree.mpr (condition _ (by rw [committed]))
            refine ⟨fun reply _ => ⟨outcomes', direct, also, ?_⟩, fun e raised => ?_⟩
            · rw [committed]
              exact same.trans left
            · simp [committed] at raised

end Bundles

/-! ## A bundle of one fresh candidate -/

def memberId : String := "mem_steward_6e7f45e991df800f"

def memberCard : Doc := (hashedSpan "first").update [
  (.memoryId, .str memberId), (.authorizationStatus, .str "disabled"),
  (.stewardProposalKind, .str "candidate"), (.stewardProposedBy, .str "codex")]

def memberRow : CardRow := insertedRow memberCard memberId 5 none

def memberDb : Db := { Db.empty with cards := Dict.insert ∅ memberId memberRow }

theorem stampProposal_member :
    stampProposal referenceLibrary (hashedSpan "first") "candidate" "" "codex" = memberCard := by
  have key : textOr (hashedSpan "first") .idempotencyKey ((hashedSpan "first").text .memoryId) = "first" := by
    decide +kernel
  have id : stewardProposalPrefix ++ sha16 referenceLibrary ["first", "candidate", ""] = memberId := by decide +kernel
  simp only [stampProposal, key, id]
  rfl

def memberState : BundleState := ⟨[⟨memberCard, memberRow⟩], []⟩

def claimsWith (fingerprint : String) : Doc := Doc.ofFields [
  (.version, .str bundleVersion), (.project, .str "neurons"), (.brainId, .str "/project/neurons"),
  (.scope, .str "project"), (.memberIds, .arr [.str memberId]), (.stateFingerprint, .str fingerprint),
  (.issuedAt, .str (referenceIsoformat 6)), (.expiresAt, .str (referenceIsoformat 50))]

def memberClaims : Doc := claimsWith (digest referenceLibrary (memberState.json referenceLibrary))

def profileLibrary : Library :=
  { referenceLibrary with
    tokenClaims := fun _ => some memberClaims.json
    localProfile := true
    environmentLocalProfile := false
    enqueueLocal := fun tables stored => .ok (tables ++ [stored.json]) }

def memberCommit : BundleCommit :=
  ⟨"neurons", "/project/neurons", "project", [memberId], "token", "approve", "operator", "bundle-1", ""⟩

theorem bundleScope_member :
    bundleScope profileLibrary "neurons" "/project/neurons" "project" [memberId] = .ok [memberId] := by
  decide +kernel

theorem bundleState_rows :
    (bundleState profileLibrary "neurons" "/project/neurons" "project" [memberId] memberDb).map (fun s =>
        (s.members.map (fun r => (r.card, r.row)), s.current.map (fun r => (r.card, r.row))))
      = .ok ([(memberCard, memberRow)], []) := by
  decide +kernel

theorem issues_member : issues profileLibrary ⟨memberCard, memberRow⟩ 7 true = .ok [] := by
  decide +kernel

def childName : String := "bundle-member:2032190d8e7c41778ebd02f9a63d66b014890c777e09f2b1a7507c56af93b05c"

def acceptedMember : Doc := memberCard.update [
  (.status, .str "accepted"), (.lifecycleState, .str "human_accepted"), (.approvalState, .str "approved"),
  (.freshness, .str "current"), (.currentness, .str "current"), (.approvedBy, .str "operator"),
  (.approvedAt, .str "1970-01-01T00:00:07+00:00"), (.bundleDecisionId, .str "bundle-1"),
  (.authorizationStatus, .str "active")]

def memberDecision : Decision := ⟨childName, memberId, .approve, "operator", "sha256:1", ""⟩

def storedMember : Doc := acceptedMember.set .validFrom (.str "1970-01-01T00:00:07+00:00")

example : storedMember.text .bundleDecisionId = "bundle-1" := by decide +kernel

theorem childId_member : childId profileLibrary "bundle-1" memberId = childName := by decide +kernel

theorem memberChange_member :
    memberChange profileLibrary memberCommit true memberCard childName (profileLibrary.isoformat 7)
      = .ok acceptedMember := by
  decide +kernel

def memberPlan : Child := ⟨memberDecision, memberTransform profileLibrary memberCard acceptedMember⟩

theorem planMember_member :
    planMember profileLibrary memberCommit true [] 7 ⟨memberCard, memberRow⟩ = .ok memberPlan := by
  have subject : (subjectOf profileLibrary memberCard).2 ≠ "" := by decide +kernel
  have hash : index memberCard .contentHash = .ok (.str "sha256:1") := by decide +kernel
  have named : childId profileLibrary memberCommit.decisionId memberRow.memoryId = childName := childId_member
  simp only [planMember, issues_member, ok_bind, List.isEmpty_nil, named, memberChange_member, rescue, hash,
    subject, List.not_mem_nil]
  rfl

theorem decided_member (localProfile : Bool) :
    stewardDecision profileLibrary localProfile memberPlan.decision memberPlan.transform 7 memberDb =
      commitDecision profileLibrary localProfile memberDecision (storedMember, none) memberDb := by
  have locked : lockCard memberDb memberId = .ok (memberRow, memberCard) := by decide +kernel
  have rewritten : rewriteChanged profileLibrary memberDecision 7 memberCard none acceptedMember
      = .ok storedMember := by decide +kernel
  have transformed : memberPlan.transform memberCard none = .ok (acceptedMember, none) := by
    simp [memberPlan, memberTransform, refuseIf]
  have fresh : memberDb.cardDecisions.get? memberDecision.decisionId = none := rfl
  have changed : decideCards profileLibrary memberPlan.decision memberPlan.transform 7 memberDb
      = .ok (storedMember, none) := by
    have lockedMember : lockCard memberDb memberPlan.decision.memoryId = .ok (memberRow, memberCard) := locked
    have untargeted : lockTarget memberPlan.decision memberDb = .ok none := rfl
    have inScope : requireScope memberPlan.decision memberCard none = .ok () := rfl
    simp only [decideCards, lockedMember, untargeted, inScope, transformed, ok_bind]
    simp only [memberPlan, rewritten, ok_bind]
    rfl
  simp only [memberPlan] at changed
  simp only [stewardDecision, memberPlan, fresh, changed, ok_bind]
  rfl

example : storedMember.text .validFrom = "1970-01-01T00:00:07+00:00" := by decide +kernel

theorem committed_member :
    (commitDecision profileLibrary false memberDecision (storedMember, none) memberDb).map (fun r =>
      r.2.embeddingOutbox.length) = .ok 1 := by
  decide +kernel

theorem checkToken_member : checkToken (profileLibrary) memberCommit [memberId] 7 = .ok (memberClaims) := by
  have decoded : decodeToken (profileLibrary) memberCommit.snapshotToken = .ok (memberClaims) := by
    have shape : (some (memberClaims).json).bind Doc.ofJson? = some (memberClaims) := Doc.ofJson?_json _
    simp only [decodeToken, profileLibrary, shape]
    rfl
  have issued : timestamp (profileLibrary) (.str (referenceIsoformat 6)) = .ok (some 6) := by
    have here : timestamp referenceLibrary (.str (referenceIsoformat 6)) = .ok (some 6) := by decide +kernel
    exact here
  have expires : timestamp (profileLibrary) (.str (referenceIsoformat 50)) = .ok (some 50) := by
    have here : timestamp referenceLibrary (.str (referenceIsoformat 50)) = .ok (some 50) := by
      decide +kernel
    exact here
  have issuedAt : value (memberClaims) .issuedAt = .str (referenceIsoformat 6) := rfl
  have expiresAt : value (memberClaims) .expiresAt = .str (referenceIsoformat 50) := rfl
  have inScope : ¬ (value (memberClaims) .version ≠ .str bundleVersion ∨
      ¬ sameScope memberCommit.project memberCommit.brainId memberCommit.scope (memberClaims) ∨
      value (memberClaims) .memberIds ≠ .arr ([memberId].map Json.str)) := by
    intro mismatch
    rcases mismatch with version | scope | members
    · exact version rfl
    · exact scope ⟨rfl, rfl, rfl⟩
    · exact members rfl
  simp only [checkToken, decoded, ok_bind, refuseIf, if_neg inScope, issuedAt, expiresAt, issued, expires]
  rfl

theorem bundleState_member :
    bundleState profileLibrary "neurons" "/project/neurons" "project" [memberId] memberDb = .ok memberState := by
  have evaluated := bundleState_rows
  cases read : bundleState profileLibrary "neurons" "/project/neurons" "project" [memberId] memberDb with
  | error e => simp [read, Except.map] at evaluated
  | ok state =>
      obtain ⟨members, current⟩ := state
      simp only [read, Except.map, Except.ok.injEq, Prod.mk.injEq, List.map_eq_nil_iff] at evaluated
      obtain ⟨listed, rfl⟩ := evaluated
      obtain ⟨r, rest, rfl, same, none⟩ := List.map_eq_cons_iff.mp listed
      rw [List.map_eq_nil_iff] at none
      subst none
      obtain ⟨card, row⟩ := r
      simp only [Prod.mk.injEq] at same
      obtain ⟨rfl, rfl⟩ := same
      rfl

theorem bundleDecide_member : bundleDecide profileLibrary memberCommit [memberId] 7 memberDb =
    .ok ⟨[memberPlan], bundleResult profileLibrary memberCommit [memberId]⟩ := by
  have state : bundleState profileLibrary memberCommit.project memberCommit.brainId memberCommit.scope [memberId]
      memberDb = .ok memberState := bundleState_member
  have fingerprint : ¬ digest profileLibrary (memberState.json profileLibrary)
      ≠ (value memberClaims .stateFingerprint).text := by
    intro differ
    exact differ rfl
  have members : memberState.members.mapM (planMember profileLibrary memberCommit true [] 7)
      = .ok [memberPlan] := by
    simp only [memberState, List.mapM_cons, List.mapM_nil, planMember_member, ok_bind]
    rfl
  have live : liveCurrent profileLibrary memberState.current 7 = .ok [] := rfl
  have current : memberState.current.mapM (fun r => issues profileLibrary r 7 false) = .ok [] := rfl
  have approve : (decide (memberCommit.action = "approve")) = true := rfl
  have alone : (memberState.members.map (fun r => subjectOf profileLibrary r.card)).Nodup :=
    List.nodup_singleton _
  simp only [bundleDecide, checkToken_member, state, ok_bind, refuseIf, if_neg fingerprint, live, current, approve,
    alone, List.map_nil, members, not_true_eq_false, and_false, if_false, List.flatten_nil, List.not_mem_nil,
    false_and, exists_false]
  rfl

def memberRequest : String := digest profileLibrary (Doc.ofFields [
    (.version, .str bundleVersion), (.project, .str "neurons"), (.brainId, .str "/project/neurons"),
    (.scope, .str "project"), (.memberIds, .arr [.str memberId]),
    (.snapshotToken, .str "token"), (.action, .str "approve"), (.actor, .str "operator"),
    (.reason, .str "")]).json

def memberBundle : BundleRequest :=
  ⟨"bundle-1", memberRequest, "neurons", "/project/neurons", "project", [memberId]⟩

theorem planOf_member :
    planOf profileLibrary (bundleCall openService memberCommit 7 (fun _ => 7)) memberDb =
      .ok (.bundle memberBundle (bundleDecide profileLibrary memberCommit [memberId] 7)) := by
  have ids : bundleScope profileLibrary memberCommit.project memberCommit.brainId memberCommit.scope
      memberCommit.memberIds = .ok [memberId] := bundleScope_member
  have exact : exactText memberCommit.actor 128 ∧ exactText memberCommit.decisionId 256 := by
    decide +kernel
  have safe : rescue (ensureNoForbiddenContent profileLibrary "bundle_decision"
      (.arr [.str memberCommit.actor, .str memberCommit.decisionId, .str memberCommit.reason])) [.valueError]
      (.valueError "review bundle decision contains forbidden data") = .ok () := by
    decide +kernel
  have guarded : guardReviewCommit openService "memory_review_bundle_commit" = .ok () := rfl
  have writable : guardWritable openService = .ok () := rfl
  have action : ¬ memberCommit.action ∉ ["approve", "reject"] := by decide +kernel
  have reason : ¬ (2000 < memberCommit.reason.length ∨
      memberCommit.action = "reject" ∧ strip memberCommit.reason = "") := by
    decide +kernel
  have token : ¬ ¬ (1 ≤ memberCommit.snapshotToken.length ∧ memberCommit.snapshotToken.length ≤ 8192) := by
    decide +kernel
  simp only [planOf, bundleCall, reviewBundleCommit, commitBundle, guarded, writable, ids, ok_bind, refuseIf,
    if_neg action, exact, if_neg reason, if_neg token, safe]
  rfl

/-- The only child asks the remote queue for one embedding. -/
theorem children_member : ∃ outcome after,
    commitChildren profileLibrary [memberPlan] (fun _ => 7) memberDb = .ok ([outcome], after) ∧
      after.embeddingOutbox.length = 1 := by
  have queued := committed_member
  cases done : commitDecision profileLibrary false memberDecision (storedMember, none) memberDb with
  | error e => simp [done, Except.map] at queued
  | ok result =>
      obtain ⟨outcome, after⟩ := result
      simp only [done, Except.map, Except.ok.injEq] at queued
      have decided := (decided_member false).trans done
      refine ⟨outcome, after, ?_, queued⟩
      have environment : profileLibrary.environmentLocalProfile = false := rfl
      simp only [commitChildren, environment, decided, ok_bind]
      rfl

theorem bundle_member : ∃ answer after,
    stewardBundleDecision profileLibrary memberBundle (bundleDecide profileLibrary memberCommit [memberId] 7)
      (fun _ => 7) memberDb = .ok (answer, after) ∧ after.embeddingOutbox.length = 1 := by
  have requested : ¬ (memberBundle.decisionId = "" ∨ memberBundle.requestFingerprint = "") := by
    rintro (blank | blank)
    · exact absurd blank (by decide +kernel)
    · exact absurd blank (hashLike_nonempty (hashLike_sha256Hash _ _))
  have valid : validateStewardBundleScope memberBundle.project memberBundle.brainId memberBundle.scope
      memberBundle.memberIds = .ok () := by
    decide +kernel
  have fresh : memberDb.bundleDecisions.get? memberBundle.decisionId = none := rfl
  obtain ⟨outcome, after, ran, queued⟩ := children_member
  obtain ⟨answer, said⟩ : ∃ answer,
      bundleResult profileLibrary memberCommit [memberId] [outcome] = .ok answer := by
    have safe (v : Json) : profileLibrary.publicSafe v = .ok () := rfl
    simp only [bundleResult, safe, ok_bind, pure_eq_ok, Except.ok.injEq, exists_eq']
  have nonempty : ¬ memberBundle.memberIds = [] := List.cons_ne_nil _ _
  refine ⟨answer, { after with
    bundleDecisions := after.bundleDecisions.insert memberBundle.decisionId (memberBundle.audit answer) }, ?_, queued⟩
  simp only [stewardBundleDecision, refuseIf, if_neg requested, valid, if_neg nonempty, ok_bind, fresh,
    bundleDecide_member, ran, said]
  rfl

theorem memberDb_created :
    step referenceLibrary .empty (createCall (hashedSpan "first") 5) = memberDb := by
  have named : stampedId "first" "candidate" "" = memberId := by decide +kernel
  have unending := ends_of_open (hashedSpan_open "first")
  rw [step_create (hashedSpan_proposable strip_first) (by simp) unending (by simp) rfl, named,
    stampProposal_member]
  rfl

/-- A store of the local profile, in a process whose environment names the other one: the accepted
    card asks the queue that its store does not serve. -/
theorem bundle_ignores_store_profile :
    ¬ BundleRefines profileLibrary (bundleCall openService memberCommit 7 (fun _ => 7))
      (step referenceLibrary .empty (createCall (hashedSpan "first") 5)) := by
  rw [memberDb_created]
  intro refines
  obtain ⟨answer, after, done, queued⟩ := bundle_member
  have committed := perform_of_committed planOf_member done
  obtain ⟨outcomes, direct, ran, same⟩ := refines.commits _ (by rw [committed])
  rw [committed] at same
  -- a run on the store itself queues locally, and leaves the other queue empty
  have empty : direct.embeddingOutbox = [] := queueAll_local (runDecisions_serves ran)
  rw [same.embeddingOutbox, empty] at queued
  exact absurd queued (by decide)

end Neurons.Steward
