import Neurons.Lib.Run
import Neurons.Steward.ReviewBundle

/-! # What a steward operation writes

One operation plans from its reads, runs at most one transaction and answers. The
lemmas say what each successful transaction found in the tables and what it left
there.
-/

namespace Neurons.Steward

open Neurons.Lib
open Neurons.Source

/-! ## Operations and runs -/

inductive Op where
  | candidateCreate (sourceSpan : Doc) (refreshWatermark : String) (markNeedsReview : Bool)
      (reviewReason decisionId proposer : String)
  | staleMark (memoryId reason proposer : String)
  | supersedePropose (oldMemoryId : String) (sourceSpan : Doc) (refreshWatermark proposer : String)
  | candidateApprove (candidateMemoryId approvedBy decisionId : String)
  | candidateReject (candidateMemoryId rejectedBy decisionId reason : String)
  | candidateAutoAccept (candidateMemoryId : String) (evaluation : Doc)
      (operatorApprovalRef : String)
  | candidateAutopilotAccept (candidateMemoryId decisionId actor : String)
  | supersedeCommit (proposalMemoryId approvedBy decisionId : String)
  | staleCommit (proposalMemoryId approvedBy decisionId : String)
  | reviewBundleCommit (commit : BundleCommit)

/-- One call of an operation: the gates of the service it goes through, the host
    clock, and the database clock of the decisions it makes. -/
structure Call where
  op : Op
  svc : Service
  now : Int
  clock : ℕ → Int

section Operations

variable (lib : Library)

def planOf (call : Call) (db : Db) : Except PyError Plan :=
  let now := lib.isoformat call.now
  match call.op with
  | .candidateCreate span watermark review reason decisionId proposer =>
      candidateCreate lib call.svc span watermark review reason decisionId proposer
  | .staleMark memoryId reason proposer => staleMark lib call.svc memoryId reason proposer now db
  | .supersedePropose old span watermark proposer =>
      supersedePropose lib call.svc old span watermark proposer db
  | .candidateApprove id by_ decisionId => candidateApprove lib call.svc id by_ decisionId now db
  | .candidateReject id by_ decisionId reason =>
      candidateReject lib call.svc id by_ decisionId reason now db
  | .candidateAutoAccept id evaluation ref => candidateAutoAccept lib call.svc id evaluation ref db
  | .candidateAutopilotAccept id decisionId actor =>
      candidateAutopilotAccept lib call.svc id decisionId actor db
  | .supersedeCommit id by_ decisionId => supersedeCommit lib call.svc id by_ decisionId now db
  | .staleCommit id by_ decisionId => staleCommit lib call.svc id by_ decisionId now db
  | .reviewBundleCommit commit => reviewBundleCommit lib call.svc commit call.now

/-- A transaction commits what it wrote, or raises and is rolled back; the answer
    is built afterwards. -/
def transact {α : Type} (transaction : Db → Except PyError (α × Db))
    (reply : α → Except PyError Reply) (db : Db) : Except PyError Reply × Db :=
  match transaction db with
  | .error e => (.error e, db)
  | .ok (a, db') => (reply a, db')

def Plan.execute (call : Call) (db : Db) : Plan → Except PyError Reply × Db
  | .answer reply => (.ok reply, db)
  | .propose envelope reply => transact (putStewardProposal lib call.now envelope) reply db
  | .decision d transform reply =>
      transact (stewardDecision lib lib.localProfile d transform (call.clock 0)) reply db
  | .bundle b callback =>
      transact (stewardBundleDecision lib b callback call.clock)
        (fun result => .ok ⟨true, [result]⟩) db

/-- Perform one call. -/
def perform (call : Call) (db : Db) : Except PyError Reply × Db :=
  match planOf lib call db with
  | .error e => (.error e, db)
  | .ok plan => plan.execute lib call db

def step (db : Db) (call : Call) : Db := (perform lib call db).2

end Operations

/-! ## Effects of the transactions -/

section Effects

variable {lib : Library} {localProfile : Bool}

@[simp] theorem index_eq_ok {d : Doc} {f : Field} {v : Json} :
    index d f = .ok v ↔ d.get? f = some v := by
  unfold index
  split <;> simp_all

/-- What one changed card leaves in the tables. -/
structure Updated (lib : Library) (row : CardRow) (stored : Doc) (row' : CardRow) : Prop where
  lifecycle : stored.get? .lifecycleState = some (.str row'.lifecycleState)
  authorization : stored.get? .authorizationStatus = some (.str row'.authorizationStatus)
  currentness : (stored.value? .currentness).getD (.str "unknown") = .str row'.currentness
  validFrom : ∃ t, sqlTime lib (value stored .validFrom) = .ok t ∧ row'.validFrom = t.getD row.validFrom
  validTo : sqlTime lib (value stored .validTo) = .ok row'.validTo
  frame : row' = { row with
    stewardEnvelope := some stored
    lifecycleState := row'.lifecycleState
    authorizationStatus := row'.authorizationStatus
    currentness := row'.currentness
    validFrom := row'.validFrom
    validTo := row'.validTo }
  fits : row'.Fits

theorem sqlText_eq_ok {v : Json} {s : String} : sqlText v = .ok s ↔ v = .str s := by
  cases v <;> simp [sqlText]

theorem updateRow_eq_ok {row row' : CardRow} {stored : Doc}
    (done : updateRow lib row stored = .ok row') : Updated lib row stored row' := by
  unfold updateRow at done
  simp only [bind_eq_ok, index_eq_ok, sqlText_eq_ok, pure_eq_ok, refuseIf_eq_ok,
    not_not] at done
  obtain ⟨_, lifecycle, _, rfl, _, authorization, _, rfl, current, currentness, from_, validFrom,
    to_, validTo, ⟨⟩, fits, same⟩ := done
  cases same
  exact ⟨lifecycle, authorization, currentness, ⟨from_, validFrom, rfl⟩, validTo, rfl, fits⟩

/-- The projections' work is queued outside the cards and the audits. -/
theorem enqueueProjections_tables {cardId contentHash : String} {stored : Doc} {db db' : Db}
    (done : enqueueProjections lib localProfile cardId contentHash stored db = .ok db') :
    db'.cards = db.cards ∧ db'.cardDecisions = db.cardDecisions ∧
      db'.bundleDecisions = db.bundleDecisions := by
  unfold enqueueProjections at done
  split at done
  · simp only [bind_eq_ok, pure_eq_ok] at done
    obtain ⟨⟨embeddings, tables⟩, -, _, -, _, -, _, -, same⟩ := done
    cases same
    exact ⟨rfl, rfl, rfl⟩
  · cases done
    exact ⟨rfl, rfl, rfl⟩

/-- A stored change: the locked row it replaced and the row it left. -/
structure Wrote (lib : Library) (locked : List String) (changed stored : Doc) (db db' : Db) : Prop where
  stored_eq : stored = authorize changed
  row : ∃ id row row', changed.get? .memoryId = some id ∧ id.text ∈ locked ∧
    db.cards.get? id.text = some row ∧ changed.get? .contentHash = some (.str row.contentHash) ∧
    Updated lib row stored row' ∧ db'.cards = db.cards.insert id.text row'
  cardDecisions : db'.cardDecisions = db.cardDecisions
  bundleDecisions : db'.bundleDecisions = db.bundleDecisions

theorem writeChanged_eq_ok {locked : List String} {changed stored : Doc} {db db' : Db}
    (done : writeChanged lib localProfile locked changed db = .ok (stored, db')) :
    Wrote lib locked changed stored db db' := by
  unfold writeChanged at done
  obtain ⟨id, memoryId, done⟩ := bind_eq_ok.mp done
  rw [index_eq_ok] at memoryId
  by_cases mem : id.text ∈ locked
  · simp only [mem, if_true] at done
    cases found : db.cards.get? id.text with
    | none => simp [found] at done
    | some row =>
        simp only [found, bind_eq_ok, index_eq_ok, refuseIf_eq_ok, not_not, pure_eq_ok,
          Except.ok.injEq, Prod.mk.injEq] at done
        obtain ⟨hash, contentHash, ⟨⟩, same, row', updated, _, queued, rfl, rfl⟩ := done
        obtain ⟨cards, decisions, bundles⟩ := enqueueProjections_tables queued
        subst same
        exact ⟨rfl, ⟨id, row, row', memoryId, mem, found, contentHash, updateRow_eq_ok updated, cards⟩,
          decisions, bundles⟩
  · simp [mem] at done

theorem lockCard_eq_ok {db : Db} {memoryId : String} {row : CardRow} {envelope : Doc}
    (done : lockCard db memoryId = .ok (row, envelope)) :
    db.cards.get? memoryId = some row ∧ row.stewardEnvelope = some envelope := by
  unfold lockCard at done
  cases found : db.cards.get? memoryId with
  | none => simp [found] at done
  | some stored =>
      cases held : stored.stewardEnvelope with
      | none => simp [found, held] at done
      | some card =>
          simp only [found, held, Except.ok.injEq, Prod.mk.injEq] at done
          obtain ⟨rfl, rfl⟩ := done
          exact ⟨rfl, held⟩

theorem lockTarget_eq_ok {d : Decision} {db : Db} {target : Option Doc}
    (done : lockTarget d db = .ok target) :
    target = none ∧ d.target? = none ∨
      ∃ id row envelope, d.target? = some id ∧ db.cards.get? id = some row ∧
        row.stewardEnvelope = some envelope ∧ target = some envelope := by
  unfold lockTarget at done
  cases named : d.target? with
  | none =>
      simp only [named, Except.ok.injEq] at done
      exact .inl ⟨done.symm, rfl⟩
  | some id =>
      simp only [named, bind_eq_ok, pure_eq_ok, Except.ok.injEq] at done
      obtain ⟨⟨row, envelope⟩, locked, same⟩ := done
      obtain ⟨found, held⟩ := lockCard_eq_ok locked
      exact .inr ⟨id, row, envelope, rfl, found, held, same.symm⟩

/-- What a new decision found, what its transform made of it, and what it stored. -/
structure Decided (lib : Library) (d : Decision) (transform : Transform) (committedAt : Int)
    (db : Db) (outcome : Outcome) (db' : Db) : Prop where
  fresh : db.cardDecisions.get? d.decisionId = none
  stored : ∃ row card target changed changedTarget new newTarget mid last,
    db.cards.get? d.memoryId = some row ∧ row.stewardEnvelope = some card ∧
    row.contentHash = d.contentHash ∧ lockTarget d db = .ok target ∧
    requireScope d card target = .ok () ∧
    transform card target = .ok (changed, changedTarget) ∧
    rewriteChanged lib d committedAt card target changed = .ok new ∧
    changedTarget.mapM (rewriteChanged lib d committedAt card target) = .ok newTarget ∧
    Wrote lib d.locked new outcome.card db mid ∧
    (newTarget = none ∧ outcome.target = none ∧ last = mid ∨
      ∃ second stored, newTarget = some second ∧ outcome.target = some stored ∧
        Wrote lib d.locked second stored mid last) ∧
    db' = { last with
      cardDecisions := last.cardDecisions.insert d.decisionId (d.audit outcome) }

theorem decideCards_eq_ok {d : Decision} {transform : Transform} {committedAt : Int} {db : Db}
    {new : Doc} {newTarget : Option Doc}
    (done : decideCards lib d transform committedAt db = .ok (new, newTarget)) :
    ∃ row card target changed changedTarget,
      db.cards.get? d.memoryId = some row ∧ row.stewardEnvelope = some card ∧
      row.contentHash = d.contentHash ∧ lockTarget d db = .ok target ∧
      requireScope d card target = .ok () ∧
      transform card target = .ok (changed, changedTarget) ∧
      rewriteChanged lib d committedAt card target changed = .ok new ∧
      changedTarget.mapM (rewriteChanged lib d committedAt card target) = .ok newTarget := by
  unfold decideCards at done
  simp only [bind_eq_ok, refuseIf_eq_ok, not_not, pure_eq_ok, Except.ok.injEq,
    Prod.mk.injEq] at done
  obtain ⟨⟨row, card⟩, locked, target, lockedTarget, ⟨⟩, hash, ⟨⟩, scope, ⟨changed, changedTarget⟩,
    transformed, _, rewritten, _, rewrittenTarget, rfl, rfl⟩ := done
  obtain ⟨found, held⟩ := lockCard_eq_ok locked
  exact ⟨row, card, target, changed, changedTarget, found, held, hash, lockedTarget, scope,
    transformed, rewritten, rewrittenTarget⟩

theorem writeTarget_eq_ok {locked : List String} {changed stored : Option Doc} {db db' : Db}
    (done : writeTarget lib localProfile locked changed db = .ok (stored, db')) :
    changed = none ∧ stored = none ∧ db' = db ∨
      ∃ second kept, changed = some second ∧ stored = some kept ∧
        Wrote lib locked second kept db db' := by
  cases changed with
  | none =>
      simp only [writeTarget, Except.ok.injEq, Prod.mk.injEq] at done
      exact .inl ⟨rfl, done.1.symm, done.2.symm⟩
  | some second =>
      simp only [writeTarget, bind_eq_ok, pure_eq_ok, Except.ok.injEq, Prod.mk.injEq] at done
      obtain ⟨⟨kept, db₁⟩, written, rfl, rfl⟩ := done
      exact .inr ⟨second, kept, rfl, rfl, writeChanged_eq_ok written⟩

/-- A decision that answers either repeats an audited one or is new. -/
theorem stewardDecision_eq_ok {d : Decision} {transform : Transform} {committedAt : Int} {db db' : Db}
    {outcome : Outcome}
    (done : stewardDecision lib localProfile d transform committedAt db = .ok (outcome, db')) :
    (∃ previous, db.cardDecisions.get? d.decisionId = some previous ∧
      replayDecision d previous = .ok outcome ∧ db' = db) ∨
    Decided lib d transform committedAt db outcome db' := by
  unfold stewardDecision at done
  obtain ⟨⟨⟩, -, done⟩ := bind_eq_ok.mp done
  cases audited : db.cardDecisions.get? d.decisionId with
  | some previous =>
      simp only [audited, bind_eq_ok, pure_eq_ok, Except.ok.injEq, Prod.mk.injEq] at done
      obtain ⟨_, replayed, rfl, rfl⟩ := done
      exact .inl ⟨previous, rfl, replayed, rfl⟩
  | none =>
      simp only [audited, bind_eq_ok] at done
      obtain ⟨⟨new, newTarget⟩, decided, committed⟩ := done
      obtain ⟨row, card, target, changed, changedTarget, found, held, hash, lockedTarget, scope,
        transformed, rewritten, rewrittenTarget⟩ := decideCards_eq_ok decided
      simp only [commitDecision, bind_eq_ok, pure_eq_ok, Except.ok.injEq, Prod.mk.injEq] at committed
      obtain ⟨⟨stored, mid⟩, first, ⟨storedTarget, last⟩, second, rfl, rfl⟩ := committed
      exact .inr ⟨audited, row, card, target, changed, changedTarget, new, newTarget, mid, last, found,
        held, hash, lockedTarget, scope, transformed, rewritten, rewrittenTarget,
        writeChanged_eq_ok first, writeTarget_eq_ok second, rfl⟩

end Effects

end Neurons.Steward
