import Neurons.Steward.ReferenceRun

/-! # Exactly-once decisions

Clients send card decisions and bundle decisions in any order, with any retries.
Each table of audits binds a decision id to the first request that committed under
it: a repeat answers from the audit row and writes nothing, another request under
the same id is refused.
-/

namespace Neurons.Steward

open Neurons.Lib
open Neurons.Source

/-! ## Requests -/

/-- A request of some client, served as one transaction. -/
inductive Request where
  | card (localProfile : Bool) (d : Decision) (transform : Transform) (committedAt : Int)
  | bundle (b : BundleRequest) (callback : Db → Except PyError BundlePlan) (clock : ℕ → Int)

inductive Answer where
  | card (outcome : Outcome)
  | bundle (result : Doc)
  deriving DecidableEq

section Requests

variable (lib : Library)

/-- Serve one request; a request that raises is rolled back. -/
def serve (request : Request) (db : Db) : Except PyError Answer × Db :=
  match request with
  | .card localProfile d transform committedAt =>
      match stewardDecision lib localProfile d transform committedAt db with
      | .error e => (.error e, db)
      | .ok (outcome, db') => (.ok (.card outcome), db')
  | .bundle b callback clock =>
      match stewardBundleDecision lib b callback clock db with
      | .error e => (.error e, db)
      | .ok (result, db') => (.ok (.bundle result), db')

def served (db : Db) (request : Request) : Db := (serve lib request db).2

/-- The child decisions of a bundle with their outcomes. -/
def childDecisions (callback : Db → Except PyError BundlePlan) (clock : ℕ → Int) (db : Db) :
    List (Decision × Outcome) :=
  match callback db with
  | .error _ => []
  | .ok plan =>
      match commitChildren lib plan.children clock db with
      | .error _ => []
      | .ok (outcomes, _) => (plan.children.map (·.decision)).zip outcomes

/-- The card decisions behind an answer: the requested one, or the children of a
    bundle that is not a repeat. -/
def cardDecisionsOf (request : Request) (db : Db) : List (Decision × Outcome) :=
  match request, (serve lib request db).1 with
  | .card _ d _ _, .ok (.card outcome) => [(d, outcome)]
  | .bundle b callback clock, .ok _ =>
      if db.bundleDecisions.contains b.decisionId then [] else childDecisions lib callback clock db
  | _, _ => []

/-- The bundle decision behind an answer. -/
def bundleDecisionsOf (request : Request) (db : Db) : List (BundleRequest × Doc) :=
  match request, (serve lib request db).1 with
  | .bundle b _ _, .ok (.bundle result) => [(b, result)]
  | _, _ => []

end Requests

/-! ## The audit tables only grow -/

section Extends

/-- Audit rows stay, and a card changes only under a decision audited with the change. -/
structure Extends (db db' : Db) : Prop where
  cardDecisions : ∀ id row, db.cardDecisions.get? id = some row →
    db'.cardDecisions.get? id = some row
  bundleDecisions : ∀ id row, db.bundleDecisions.get? id = some row →
    db'.bundleDecisions.get? id = some row
  cards : ∀ memoryId, db'.cards.get? memoryId ≠ db.cards.get? memoryId →
    ∃ id row, db.cardDecisions.get? id = none ∧ db'.cardDecisions.get? id = some row ∧
      (row.memoryId = memoryId ∨ row.targetMemoryId = some memoryId)

theorem Extends.refl (db : Db) : Extends db db :=
  ⟨fun _ _ => id, fun _ _ => id, fun _ differs => absurd rfl differs⟩

theorem Extends.trans {a b c : Db} (ab : Extends a b) (bc : Extends b c) : Extends a c := by
  refine ⟨fun id row held => bc.cardDecisions id row (ab.cardDecisions id row held),
    fun id row held => bc.bundleDecisions id row (ab.bundleDecisions id row held), ?_⟩
  intro memoryId differs
  by_cases same : b.cards.get? memoryId = a.cards.get? memoryId
  · obtain ⟨id, row, fresh, audited, names⟩ := bc.cards memoryId (by rwa [same])
    refine ⟨id, row, ?_, audited, names⟩
    cases earlier : a.cardDecisions.get? id with
    | none => rfl
    | some row' =>
        rw [ab.cardDecisions id row' earlier] at fresh
        cases fresh
  · obtain ⟨id, row, fresh, audited, names⟩ := ab.cards memoryId same
    exact ⟨id, row, fresh, bc.cardDecisions id row audited, names⟩

variable {lib : Library} {localProfile : Bool}

/-- A stored change touches one locked card. -/
theorem Wrote.cards_of_not_mem {locked : List String} {changed stored : Doc} {db db' : Db}
    (wrote : Wrote lib locked changed stored db db') {memoryId : String} (other : memoryId ∉ locked) :
    db'.cards.get? memoryId = db.cards.get? memoryId := by
  obtain ⟨id, row, row', -, mem, -, -, -, cards⟩ := wrote.row
  have ne : memoryId ≠ id.text := by
    rintro rfl
    exact other mem
  rw [cards, Dict.get?_insert, if_neg ne]

theorem Decided.cards_of_not_mem {d : Decision} {transform : Transform} {committedAt : Int}
    {db db' : Db} {outcome : Outcome} (decided : Decided lib d transform committedAt db outcome db')
    {memoryId : String} (other : memoryId ∉ d.locked) :
    db'.cards.get? memoryId = db.cards.get? memoryId := by
  obtain ⟨_, _, _, _, _, _, _, mid, last, -, -, -, -, -, -, -, -, first, second, rfl⟩ :=
    decided.stored
  rcases second with ⟨-, -, rfl⟩ | ⟨_, _, -, -, second⟩
  · exact first.cards_of_not_mem other
  · exact (second.cards_of_not_mem other).trans (first.cards_of_not_mem other)

/-- The audits after a new decision: its own row on top of the earlier ones. -/
theorem Decided.audits {d : Decision} {transform : Transform} {committedAt : Int}
    {db db' : Db} {outcome : Outcome} (decided : Decided lib d transform committedAt db outcome db') :
    db'.cardDecisions = db.cardDecisions.insert d.decisionId (d.audit outcome) ∧
      db'.bundleDecisions = db.bundleDecisions := by
  obtain ⟨_, _, _, _, _, _, _, mid, last, -, -, -, -, -, -, -, -, first, second, rfl⟩ :=
    decided.stored
  rcases second with ⟨-, -, rfl⟩ | ⟨_, _, -, -, second⟩
  · exact ⟨by rw [first.cardDecisions], first.bundleDecisions⟩
  · exact ⟨by rw [second.cardDecisions, first.cardDecisions],
      second.bundleDecisions.trans first.bundleDecisions⟩

theorem Decided.extends {d : Decision} {transform : Transform} {committedAt : Int}
    {db db' : Db} {outcome : Outcome} (decided : Decided lib d transform committedAt db outcome db') :
    Extends db db' := by
  obtain ⟨cardAudits, bundleAudits⟩ := decided.audits
  refine ⟨?_, ?_, ?_⟩
  · intro id row held
    have ne : id ≠ d.decisionId := by
      rintro rfl
      rw [decided.fresh] at held
      cases held
    rw [cardAudits, Dict.get?_insert, if_neg ne, held]
  · intro id row held
    rw [bundleAudits, held]
  · intro memoryId differs
    have mem : memoryId ∈ d.locked := by
      by_contra other
      exact differs (decided.cards_of_not_mem other)
    refine ⟨d.decisionId, d.audit outcome, decided.fresh, ?_, ?_⟩
    · rw [cardAudits, Dict.get?_insert_self]
    · rcases List.mem_cons.mp mem with same | target
      · exact .inl same.symm
      · exact .inr (Option.mem_toList.mp target)

/-! ## The audit row answers for its id -/

/-- The audit row of the decision holds its outcome. -/
def Recorded (db : Db) (d : Decision) (outcome : Outcome) : Prop :=
  ∃ row, db.cardDecisions.get? d.decisionId = some row ∧ row.Records d ∧
    row.resultCard = some outcome.card ∧ row.resultTarget = outcome.target

theorem Recorded.extended {db db' : Db} {d : Decision} {outcome : Outcome}
    (recorded : Recorded db d outcome) (extended : Extends db db') : Recorded db' d outcome := by
  obtain ⟨row, held, records, card, target⟩ := recorded
  exact ⟨row, extended.cardDecisions _ _ held, records, card, target⟩

theorem replayDecision_eq_ok {d : Decision} {previous : CardDecision} {outcome : Outcome}
    (done : replayDecision d previous = .ok outcome) :
    previous.Records d ∧ previous.resultCard = some outcome.card ∧
      previous.resultTarget = outcome.target := by
  unfold replayDecision at done
  obtain ⟨⟨⟩, records, done⟩ := bind_eq_ok.mp done
  rw [refuseIf_eq_ok, not_not] at records
  cases held : previous.resultCard with
  | none => simp [held] at done
  | some card =>
      simp only [held, bind_eq_ok, pure_eq_ok, Except.ok.injEq] at done
      obtain ⟨⟨⟩, -, rfl⟩ := done
      exact ⟨records, rfl, rfl⟩

/-- A decision that answers leaves its audit row, and only extends the tables. -/
theorem stewardDecision_recorded {d : Decision} {transform : Transform} {committedAt : Int}
    {db db' : Db} {outcome : Outcome}
    (done : stewardDecision lib localProfile d transform committedAt db = .ok (outcome, db')) :
    Extends db db' ∧ Recorded db' d outcome := by
  rcases stewardDecision_eq_ok done with ⟨previous, held, replayed, rfl⟩ | decided
  · exact ⟨Extends.refl _, previous, held, replayDecision_eq_ok replayed⟩
  · refine ⟨decided.extends, d.audit outcome, ?_, ⟨rfl, rfl, rfl, rfl, rfl⟩, rfl, rfl⟩
    rw [decided.audits.1, Dict.get?_insert_self]

theorem Decision.target?_injective {d e : Decision} (same : d.target? = e.target?) :
    d.targetMemoryId = e.targetMemoryId := by
  unfold Decision.target? at same
  split at same <;> split at same <;> simp_all

/-- One audit row records one request. -/
theorem CardDecision.Records.unique {row : CardDecision} {d e : Decision} (sameId : e.decisionId = d.decisionId)
    (first : row.Records d) (second : row.Records e) : e = d := by
  obtain ⟨memory, hash, action, actor, target⟩ := first
  obtain ⟨memory', hash', action', actor', target'⟩ := second
  have targets := Decision.target?_injective (target'.symm.trans target)
  cases d
  cases e
  simp_all

/-- One id records one request and one outcome. -/
theorem Recorded.unique {db : Db} {d e : Decision} {outcome again : Outcome}
    (first : Recorded db d outcome) (sameId : e.decisionId = d.decisionId)
    (second : Recorded db e again) : e = d ∧ again = outcome := by
  obtain ⟨row, held, records, card, target⟩ := first
  obtain ⟨row', held', records', card', target'⟩ := second
  rw [sameId, held, Option.some.injEq] at held'
  subst held'
  refine ⟨CardDecision.Records.unique sameId records records', ?_⟩
  rw [card, Option.some.injEq] at card'
  cases outcome
  cases again
  simp_all

/-- Under a recorded id a decision writes nothing. -/
theorem Recorded.unchanged {db db' : Db} {d e : Decision} {transform : Transform} {committedAt : Int}
    {outcome again : Outcome} (recorded : Recorded db d outcome) (sameId : e.decisionId = d.decisionId)
    (done : stewardDecision lib localProfile e transform committedAt db = .ok (again, db')) :
    db' = db := by
  obtain ⟨row, held, -⟩ := recorded
  rcases stewardDecision_eq_ok done with ⟨_, -, -, same⟩ | decided
  · exact same
  · have fresh := decided.fresh
    rw [sameId, held] at fresh
    cases fresh

/-! ## Bundles -/

/-- The same bundle request; the members count as a set. -/
def BundleRequest.Same (b c : BundleRequest) : Prop :=
  b.decisionId = c.decisionId ∧ b.requestFingerprint = c.requestFingerprint ∧
    b.project = c.project ∧ b.brainId = c.brainId ∧ b.scope = c.scope ∧ b.memberIds.Perm c.memberIds

/-- The audit row of the bundle holds its result. -/
def RecordedBundle (db : Db) (b : BundleRequest) (result : Doc) : Prop :=
  ∃ row, db.bundleDecisions.get? b.decisionId = some row ∧ row.Records b ∧ row.result = result

theorem RecordedBundle.extended {db db' : Db} {b : BundleRequest} {result : Doc}
    (recorded : RecordedBundle db b result) (extended : Extends db db') :
    RecordedBundle db' b result := by
  obtain ⟨row, held, records, same⟩ := recorded
  exact ⟨row, extended.bundleDecisions _ _ held, records, same⟩

theorem RecordedBundle.unique {db : Db} {b c : BundleRequest} {result again : Doc}
    (first : RecordedBundle db b result) (sameId : c.decisionId = b.decisionId)
    (second : RecordedBundle db c again) : c.Same b ∧ again = result := by
  obtain ⟨row, held, ⟨fingerprint, project, brain, scope, members⟩, same⟩ := first
  obtain ⟨row', held', ⟨fingerprint', project', brain', scope', members'⟩, same'⟩ := second
  rw [sameId, held, Option.some.injEq] at held'
  subst held'
  have perm : c.memberIds.Perm b.memberIds := by
    refine (sortOn_perm id c.memberIds).symm.trans ?_
    rw [← members', members]
    exact sortOn_perm id b.memberIds
  exact ⟨⟨sameId, fingerprint'.symm.trans fingerprint, project'.symm.trans project,
    brain'.symm.trans brain, scope'.symm.trans scope, perm⟩, same'.symm.trans same⟩

/-- Every child of a bundle leaves its audit row. -/
theorem commitChildren_recorded {children : List Child} {clock : ℕ → Int} {db db' : Db}
    {outcomes : List Outcome} (done : commitChildren lib children clock db = .ok (outcomes, db')) :
    Extends db db' ∧ ∀ d outcome, (d, outcome) ∈ (children.map (·.decision)).zip outcomes →
      Recorded db' d outcome := by
  induction children generalizing clock db outcomes with
  | nil =>
      simp only [commitChildren, Except.ok.injEq, Prod.mk.injEq] at done
      obtain ⟨rfl, rfl⟩ := done
      exact ⟨Extends.refl _, by simp⟩
  | cons child rest ih =>
      simp only [commitChildren, bind_eq_ok, pure_eq_ok, Except.ok.injEq, Prod.mk.injEq] at done
      obtain ⟨⟨outcome, mid⟩, first, ⟨others, last⟩, tail, rfl, rfl⟩ := done
      obtain ⟨toMid, head⟩ := stewardDecision_recorded first
      obtain ⟨toLast, inTail⟩ := ih tail
      refine ⟨toMid.trans toLast, ?_⟩
      intro d made mem
      rw [List.map_cons, List.zip_cons_cons, List.mem_cons] at mem
      cases mem with
      | inl here =>
          cases here
          exact head.extended toLast
      | inr there => exact inTail d made there

/-- A bundle that answers either repeats an audited one or commits its children. -/
theorem stewardBundleDecision_eq_ok {b : BundleRequest} {callback : Db → Except PyError BundlePlan}
    {clock : ℕ → Int} {db db' : Db} {result : Doc}
    (done : stewardBundleDecision lib b callback clock db = .ok (result, db')) :
    (RecordedBundle db b result ∧ db' = db) ∨
    ∃ plan outcomes last, db.bundleDecisions.get? b.decisionId = none ∧ callback db = .ok plan ∧
      commitChildren lib plan.children clock db = .ok (outcomes, last) ∧
      plan.result outcomes = .ok result ∧
      db' = { last with
        bundleDecisions := last.bundleDecisions.insert b.decisionId (b.audit result) } := by
  unfold stewardBundleDecision at done
  obtain ⟨⟨⟩, -, done⟩ := bind_eq_ok.mp done
  obtain ⟨⟨⟩, -, done⟩ := bind_eq_ok.mp done
  obtain ⟨⟨⟩, -, done⟩ := bind_eq_ok.mp done
  cases audited : db.bundleDecisions.get? b.decisionId with
  | some previous =>
      simp only [audited, bind_eq_ok, refuseIf_eq_ok, not_not, pure_eq_ok, Except.ok.injEq,
        Prod.mk.injEq] at done
      obtain ⟨⟨⟩, records, rfl, rfl⟩ := done
      exact .inl ⟨⟨previous, audited, records, rfl⟩, rfl⟩
  | none =>
      simp only [audited, bind_eq_ok, pure_eq_ok, Except.ok.injEq, Prod.mk.injEq] at done
      obtain ⟨plan, planned, ⟨outcomes, last⟩, committed, _, built, rfl, rfl⟩ := done
      exact .inr ⟨plan, outcomes, last, rfl, planned, committed, built, rfl⟩

theorem stewardBundleDecision_recorded {b : BundleRequest}
    {callback : Db → Except PyError BundlePlan} {clock : ℕ → Int} {db db' : Db} {result : Doc}
    (done : stewardBundleDecision lib b callback clock db = .ok (result, db')) :
    Extends db db' ∧ RecordedBundle db' b result := by
  rcases stewardBundleDecision_eq_ok done with
    ⟨recorded, rfl⟩ | ⟨plan, outcomes, last, fresh, -, committed, -, rfl⟩
  · exact ⟨Extends.refl _, recorded⟩
  · obtain ⟨toLast, -⟩ := commitChildren_recorded committed
    refine ⟨⟨toLast.cardDecisions, ?_, toLast.cards⟩, b.audit result,
      Dict.get?_insert_self _ _ _, ⟨rfl, rfl, rfl, rfl, rfl⟩, rfl⟩
    intro id row held
    have ne : id ≠ b.decisionId := by
      rintro rfl
      rw [fresh] at held
      cases held
    simp only [Dict.get?_insert, if_neg ne, toLast.bundleDecisions id row held]

/-! ## Requests and runs -/

/-- Whatever a request answers, its card decisions are recorded. -/
theorem cardDecisionsOf_recorded {request : Request} {db : Db} {d : Decision} {outcome : Outcome}
    (made : (d, outcome) ∈ cardDecisionsOf lib request db) :
    Recorded (served lib db request) d outcome := by
  cases request with
  | card localProfile e transform committedAt =>
      simp only [cardDecisionsOf, serve, served] at made ⊢
      cases answered : stewardDecision lib localProfile e transform committedAt db with
      | error _ => simp [answered] at made
      | ok result =>
          obtain ⟨again, db'⟩ := result
          simp only [answered, List.mem_singleton, Prod.mk.injEq] at made ⊢
          obtain ⟨rfl, rfl⟩ := made
          exact (stewardDecision_recorded answered).2
  | bundle b callback clock =>
      simp only [cardDecisionsOf, serve, served] at made ⊢
      cases answered : stewardBundleDecision lib b callback clock db with
      | error _ => simp [answered] at made
      | ok result =>
          obtain ⟨again, db'⟩ := result
          simp only [answered] at made ⊢
          rcases stewardBundleDecision_eq_ok answered with
            ⟨⟨row, held, -⟩, -⟩ | ⟨plan, outcomes, last, fresh, planned, committed, -, rfl⟩
          · simp [Dict.contains, held] at made
          · simp only [Dict.contains, fresh, Option.isSome_none, Bool.false_eq_true, if_false,
              childDecisions, planned, committed] at made
            exact (commitChildren_recorded committed).2 d outcome made

theorem bundleDecisionsOf_recorded {request : Request} {db : Db} {b : BundleRequest} {result : Doc}
    (made : (b, result) ∈ bundleDecisionsOf lib request db) :
    RecordedBundle (served lib db request) b result := by
  cases request with
  | card localProfile e transform committedAt =>
      simp [bundleDecisionsOf] at made
  | bundle c callback clock =>
      simp only [bundleDecisionsOf, serve, served] at made ⊢
      cases answered : stewardBundleDecision lib c callback clock db with
      | error _ => simp [answered] at made
      | ok done =>
          obtain ⟨again, db'⟩ := done
          simp only [answered, List.mem_singleton, Prod.mk.injEq] at made ⊢
          obtain ⟨rfl, rfl⟩ := made
          exact (stewardBundleDecision_recorded answered).2

variable (lib) in
/-- One request only extends the tables. -/
theorem served_extends (db : Db) (request : Request) : Extends db (served lib db request) := by
  cases request with
  | card localProfile d transform committedAt =>
      simp only [served, serve]
      cases answered : stewardDecision lib localProfile d transform committedAt db with
      | error _ => exact Extends.refl db
      | ok result => exact (stewardDecision_recorded answered).1
  | bundle b callback clock =>
      simp only [served, serve]
      cases answered : stewardBundleDecision lib b callback clock db with
      | error _ => exact Extends.refl db
      | ok result => exact (stewardBundleDecision_recorded answered).1

variable (lib) in
/-- A whole run only extends the tables. -/
theorem run_extends (db : Db) (requests : List Request) :
    Extends db (run (served lib) db requests) :=
  run_invariant (Extends db) (fun s request reached => reached.trans (served_extends lib s request))
    (Extends.refl db) requests

/-- A request that raises leaves the tables as they were. -/
theorem served_of_error {db : Db} {request : Request} {e : PyError}
    (raised : (serve lib request db).1 = .error e) : served lib db request = db := by
  cases request with
  | card localProfile d transform committedAt =>
      simp only [served, serve] at raised ⊢
      cases answered : stewardDecision lib localProfile d transform committedAt db with
      | error _ => rfl
      | ok result => simp [answered] at raised
  | bundle b callback clock =>
      simp only [served, serve] at raised ⊢
      cases answered : stewardBundleDecision lib b callback clock db with
      | error _ => rfl
      | ok result => simp [answered] at raised

/-- A repeat of a recorded card decision writes nothing. -/
theorem Recorded.served_card {db : Db} {d e : Decision} {outcome : Outcome} {transform : Transform}
    {committedAt : Int} (recorded : Recorded db d outcome) (sameId : e.decisionId = d.decisionId) :
    served lib db (.card localProfile e transform committedAt) = db := by
  simp only [served, serve]
  cases answered : stewardDecision lib localProfile e transform committedAt db with
  | error _ => rfl
  | ok result => exact recorded.unchanged sameId answered

/-- A repeat of a recorded bundle decision writes nothing. -/
theorem RecordedBundle.served_bundle {db : Db} {b c : BundleRequest} {result : Doc}
    {callback : Db → Except PyError BundlePlan} {clock : ℕ → Int}
    (recorded : RecordedBundle db b result) (sameId : c.decisionId = b.decisionId) :
    served lib db (.bundle c callback clock) = db := by
  simp only [served, serve]
  cases answered : stewardBundleDecision lib c callback clock db with
  | error _ => rfl
  | ok done =>
      obtain ⟨row, held, -⟩ := recorded
      rcases stewardBundleDecision_eq_ok answered with ⟨-, same⟩ | ⟨_, _, _, fresh, -⟩
      · exact same
      · rw [sameId, held] at fresh
        cases fresh

/-- A card request that answers has made its decision. -/
theorem card_answered {db : Db} {d : Decision} {transform : Transform} {committedAt : Int}
    (answered : ∀ error, (serve lib (.card localProfile d transform committedAt) db).1 ≠ .error error) :
    ∃ outcome, (d, outcome) ∈ cardDecisionsOf lib (.card localProfile d transform committedAt) db := by
  simp only [serve, cardDecisionsOf] at answered ⊢
  cases done : stewardDecision lib localProfile d transform committedAt db with
  | error e => simp [done] at answered
  | ok result => exact ⟨result.1, by simp⟩

/-- A bundle request that answers has made its decision. -/
theorem bundle_answered {db : Db} {b : BundleRequest} {callback : Db → Except PyError BundlePlan}
    {clock : ℕ → Int} (answered : ∀ error, (serve lib (.bundle b callback clock) db).1 ≠ .error error) :
    ∃ result, (b, result) ∈ bundleDecisionsOf lib (.bundle b callback clock) db := by
  simp only [serve, bundleDecisionsOf] at answered ⊢
  cases done : stewardBundleDecision lib b callback clock db with
  | error e => simp [done] at answered
  | ok result => exact ⟨result.1, by simp⟩

end Extends

/-! ## The main result -/

/-- What a first request settles for a later one, with anything in between. -/
structure ExactlyOnce (lib : Library) (s : Db) (first : Request) (s' : Db) (later : Request) :
    Prop where
  /-- under a decided id only the same request answers, with the first answer -/
  cards : ∀ d outcome, (d, outcome) ∈ cardDecisionsOf lib first s →
    ∀ e again, e.decisionId = d.decisionId → (e, again) ∈ cardDecisionsOf lib later s' →
      e = d ∧ again = outcome
  bundles : ∀ b result, (b, result) ∈ bundleDecisionsOf lib first s →
    ∀ c again, c.decisionId = b.decisionId → (c, again) ∈ bundleDecisionsOf lib later s' →
      c.Same b ∧ again = result
  /-- another request under the id raises -/
  cardsRefused : ∀ d outcome, (d, outcome) ∈ cardDecisionsOf lib first s →
    ∀ localProfile e transform committedAt, later = .card localProfile e transform committedAt →
      e.decisionId = d.decisionId → e ≠ d → ∃ error, (serve lib later s').1 = .error error
  bundlesRefused : ∀ b result, (b, result) ∈ bundleDecisionsOf lib first s →
    ∀ c callback clock, later = .bundle c callback clock → c.decisionId = b.decisionId →
      ¬ c.Same b → ∃ error, (serve lib later s').1 = .error error
  /-- a repeated id makes no second transition -/
  cardsOnce : ∀ d outcome, (d, outcome) ∈ cardDecisionsOf lib first s →
    ∀ localProfile e transform committedAt, later = .card localProfile e transform committedAt →
      e.decisionId = d.decisionId → served lib s' later = s'
  bundlesOnce : ∀ b result, (b, result) ∈ bundleDecisionsOf lib first s →
    ∀ c callback clock, later = .bundle c callback clock → c.decisionId = b.decisionId →
      served lib s' later = s'
  /-- audit rows are written once, each with the transition it stands for -/
  audited : Extends s (served lib s first) ∧ Extends (served lib s first) s' ∧
    Extends s' (served lib s' later)
  /-- a request that raises changes nothing -/
  rolledBack : ∀ e, (serve lib later s').1 = .error e → served lib s' later = s'

theorem decisions_exactly_once (lib : Library) (start : Db) (before between : List Request)
    (first later : Request) :
    ExactlyOnce lib (run (served lib) start before) first
      (run (served lib) start (before ++ first :: between)) later := by
  have reached : run (served lib) start (before ++ first :: between) =
      run (served lib) (served lib (run (served lib) start before) first) between := by
    rw [run_append, run_cons]
  generalize run (served lib) start before = s at reached ⊢
  generalize run (served lib) start (before ++ first :: between) = s' at reached ⊢
  have grown : Extends (served lib s first) s' := reached ▸ run_extends lib _ between
  have sameCard : ∀ d outcome, (d, outcome) ∈ cardDecisionsOf lib first s →
      ∀ e again, e.decisionId = d.decisionId → (e, again) ∈ cardDecisionsOf lib later s' →
        e = d ∧ again = outcome := by
    intro d outcome made e again sameId repeated
    have recorded := ((cardDecisionsOf_recorded made).extended grown).extended
      (served_extends lib s' later)
    exact recorded.unique sameId (cardDecisionsOf_recorded repeated)
  have sameBundle : ∀ b result, (b, result) ∈ bundleDecisionsOf lib first s →
      ∀ c again, c.decisionId = b.decisionId → (c, again) ∈ bundleDecisionsOf lib later s' →
        c.Same b ∧ again = result := by
    intro b result made c again sameId repeated
    have recorded := ((bundleDecisionsOf_recorded made).extended grown).extended
      (served_extends lib s' later)
    exact recorded.unique sameId (bundleDecisionsOf_recorded repeated)
  refine ⟨sameCard, sameBundle, ?_, ?_, ?_, ?_,
    ⟨served_extends lib s first, grown, served_extends lib s' later⟩, fun e => served_of_error⟩
  · rintro d outcome made localProfile e transform committedAt rfl sameId other
    by_contra none
    obtain ⟨again, repeated⟩ := card_answered (not_exists.mp none)
    exact other (sameCard d outcome made e again sameId repeated).1
  · rintro b result made c callback clock rfl sameId other
    by_contra none
    obtain ⟨again, repeated⟩ := bundle_answered (not_exists.mp none)
    exact other (sameBundle b result made c again sameId repeated).1
  · rintro d outcome made localProfile e transform committedAt rfl sameId
    exact ((cardDecisionsOf_recorded made).extended grown).served_card sameId
  · rintro b result made c callback clock rfl sameId
    exact ((bundleDecisionsOf_recorded made).extended grown).served_bundle sameId

/-! ## One id in both tables -/

/-- A decision that turns its card down. -/
def turnDown : Transform := fun card _ =>
  .ok (card.update [(.lifecycleState, .str "human_rejected"), (.approvalState, .str "rejected")], none)

def turnDownRequest : Request :=
  .card false ⟨"decision-1", stampedId "first" "candidate" "", .reject, "operator", "sha256:1", ""⟩
    turnDown 2

/-- A bundle decision under the same id, whose callback decides no member. -/
def emptyBundleRequest : Request :=
  .bundle ⟨"decision-1", "fingerprint-1", "neurons", "/project/neurons", "project",
    [stampedId "first" "candidate" ""]⟩ (fun _ => .ok ⟨[], fun _ => .ok ∅⟩) (fun _ => 3)

/-- The first decision is made on the stored proposal. -/
theorem turnDown_decided {card : Doc} {db : Db} {now : Int}
    (ready : Insertable card (stampedId "first" "candidate" "") now none)
    (hashed : card.get? .contentHash = some (.str "sha256:1"))
    (open_ : card.get? .validTo = none)
    (found : db.cards.get? (stampedId "first" "candidate" "") =
      some (insertedRow card (stampedId "first" "candidate" "") now none))
    (fresh : db.cardDecisions.get? "decision-1" = none) :
    ∃ outcome db', stewardDecision referenceLibrary false
      ⟨"decision-1", stampedId "first" "candidate" "", .reject, "operator", "sha256:1", ""⟩
      turnDown 2 db = .ok (outcome, db') := by
  have hash : (insertedRow card (stampedId "first" "candidate" "") now none).contentHash =
      "sha256:1" := Doc.text_of_str hashed
  have other {f : Field} (apart : f ≠ .lifecycleState ∧ f ≠ .approvalState) :
      (card.update [(.lifecycleState, .str "human_rejected"), (.approvalState, .str "rejected")]).get?
        f = card.get? f := by
    simp [Doc.get?_set, apart]
  generalize isChanged : card.update [(.lifecycleState, .str "human_rejected"),
    (.approvalState, .str "rejected")] = changed at other
  have lifecycle : changed.get? .lifecycleState = some (.str "human_rejected") := by
    simp [← isChanged, Doc.get?_set]
  have unapproved : isApproved changed = false := by
    simp [← isChanged, isApproved, oneOf, Doc.get?_set, acceptedApprovalStates]
  have memoryId : changed.get? .memoryId = some (.str (stampedId "first" "candidate" "")) := by
    rw [other (by simp), ready.memoryId]
  have currentness : changed.get? .currentness = some (.str "unknown") := by
    rw [other (by simp), ready.currentness]
  have same : rewriteValidity referenceLibrary 2 (some card) changed = changed := by
    simp [rewriteValidity, oneOf, currentness, unapproved]
  have transformed : turnDown card none = .ok (changed, none) := by simp [turnDown, isChanged]
  have writable : Writable (rewriteValidity referenceLibrary 2 (some card) changed)
      (insertedRow card (stampedId "first" "candidate" "") now none)
      (stampedId "first" "candidate" "") := by
    rw [same]
    refine ⟨memoryId, ?_, ⟨_, by simp [lifecycleStates], lifecycle⟩,
      ⟨_, by simp [currentnessValues], currentness⟩, ⟨none, none, ?_, ?_, by simp⟩, ready.fits,
      queued_of_unapproved unapproved _ _⟩
    · rw [other (by simp), hashed, hash]
    · rw [value, other (by simp), ready.unopened]
      rfl
    · rw [value, other (by simp), open_]
      rfl
  obtain ⟨outcome, db', decided, -⟩ := stewardDecision_single
    (d := ⟨"decision-1", stampedId "first" "candidate" "", .reject, "operator", "sha256:1", ""⟩) (c := 2)
    (by simp) fresh found rfl hash rfl (by simp) transformed memoryId writable
  exact ⟨outcome, db', decided⟩

theorem emptyBundle_decided {db : Db} (fresh : db.bundleDecisions.get? "decision-1" = none) :
    ∃ audit, served referenceLibrary db emptyBundleRequest =
      { db with bundleDecisions := db.bundleDecisions.insert "decision-1" audit } := by
  have long : ¬ ((∃ id ∈ [stampedId "first" "candidate" ""], ¬ (1 ≤ id.length ∧ id.length ≤ 64)) ∨
      ¬ [stampedId "first" "candidate" ""].Nodup) := by
    have named : 1 ≤ (stampedId "first" "candidate" "").length := by
      rw [Nat.one_le_iff_ne_zero]
      exact fun zero => stampedId_named "first" "candidate" "" (String.length_eq_zero_iff.mp zero)
    have short := stampedId_short "first" "candidate" ""
    simp [named, short]
  have project : ¬ 64 < "neurons".length := by decide
  have valid : validateStewardBundleScope "neurons" "/project/neurons" "project"
      [stampedId "first" "candidate" ""] = .ok () := by
    simp only [validateStewardBundleScope, refuseIf, project, long, if_false, ok_bind]
    simp
  simp only [served, serve, emptyBundleRequest, stewardBundleDecision, valid, refuseIf, ok_bind, fresh,
    commitChildren, pure_eq_ok]
  exact ⟨_, rfl⟩

/-- A card decision and a bundle decision under one id both leave an audit row. -/
theorem decision_id_in_both_tables :
    let start := run (step referenceLibrary) Db.empty [createCall (hashedSpan "first") 1]
    let db := run (served referenceLibrary) start [turnDownRequest, emptyBundleRequest]
    (db.cardDecisions.get? "decision-1").isSome ∧ (db.bundleDecisions.get? "decision-1").isSome := by
  have open_ : (hashedSpan "first").get? .validTo = none := by
    rw [hashedSpan, Doc.get?_set, if_neg (by simp), referenceSpan_open]
  have ready := (hashedSpan_proposable strip_first).insertable (by simp) "candidate" "" 1
    (ends_of_open open_) (by simp)
  simp only [run_cons, run_nil]
  rw [step_create (hashedSpan_proposable strip_first) (by simp) (ends_of_open open_) (by simp) rfl]
  generalize isStart : ({ Db.empty with
    cards := Db.empty.cards.insert (stampedId "first" "candidate" "") _ } : Db) = start
  have audits : start.cardDecisions = ∅ ∧ start.bundleDecisions = ∅ := by
    rw [← isStart]
    exact ⟨rfl, rfl⟩
  have found : start.cards.get? (stampedId "first" "candidate" "") = some (insertedRow
      (stampProposal referenceLibrary (hashedSpan "first") "candidate" "" "codex")
      (stampedId "first" "candidate" "") 1 none) := by
    rw [← isStart, Dict.get?_insert_self]
  obtain ⟨outcome, mid, decided⟩ := turnDown_decided ready
    (by simp [stampProposal, hashedSpan, Doc.get?_set])
    (by simpa [stampProposal, Doc.get?_set] using open_) found (by rw [audits.1, Dict.get?_empty])
  have first : served referenceLibrary start turnDownRequest = mid := by
    simp only [served, serve, turnDownRequest, decided]
  obtain ⟨cardAudits, bundleAudits⟩ : mid.cardDecisions.get? "decision-1" ≠ none ∧
      mid.bundleDecisions.get? "decision-1" = none := by
    rcases stewardDecision_eq_ok decided with ⟨previous, audited, -⟩ | fresh
    · simp [audits.1] at audited
    · obtain ⟨cards, bundles⟩ := fresh.audits
      rw [cards, bundles, audits.2]
      exact ⟨by simp, rfl⟩
  obtain ⟨audit, second⟩ := emptyBundle_decided bundleAudits
  rw [first, second]
  exact ⟨Option.isSome_iff_ne_none.mpr cardAudits, by simp⟩

end Neurons.Steward
