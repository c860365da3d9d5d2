import Neurons.Steward.Listing
import Neurons.Steward.ReferenceRun

/-! # The validity window of a card

A card counts from its `valid_from` on and until its `valid_to`, where it has one. The authority filter
of the store, the lanes and the conflict detector of `graph_first_resolver.py` and its test of graph facts
each decide this for themselves, and `temporal_envelope.py` makes a recommendation of it together with the
age, the currentness and the freshness of the card.
-/

namespace Neurons.Steward

open Neurons.Source

/-! ## Windows -/

/-- The instants from the first bound on and before the second; an absent bound is open. -/
structure Window where
  opens : Option Int
  closes : Option Int
  deriving DecidableEq, Repr

def Window.Contains (w : Window) (t : Int) : Prop := (∀ opens ∈ w.opens, opens ≤ t) ∧ ∀ closes ∈ w.closes, t < closes

instance (w : Window) (t : Int) : Decidable (w.Contains t) := by
  unfold Window.Contains
  infer_instance

/-! ## Instants -/

/-- A value that stands for an instant: nothing, a text or a `datetime`, naive ones read as UTC. -/
inductive TimeValue where
  | absent
  | text (s : String)
  | instant (t : Int) (aware : Bool)
  deriving DecidableEq, Repr

def TimeValue.truthy : TimeValue → Bool
  | .absent => false
  | .text s => s != ""
  | .instant _ _ => true

section Readings

variable (lib : Library)

/-- `_parse_instant`; the `astimezone` of a `datetime` stands outside the handler. -/
def TimeValue.parsed : TimeValue → Except PyError (Option ParsedInstant)
  | .absent => .ok none
  | .text s => .ok (parseInstant lib (.str s))
  | .instant t true => do return some (← astimezone t, false)
  | .instant t false => .ok (some (t, true))

/-- `_parse_temporal_instant` -/
def parseTemporalInstant : TimeValue → Option Int
  | .absent => none
  | .text s => if strip s = "" then none else lib.py.fromisoformat (replaceZulu (strip s))
  | .instant t _ => some t

/-- `_parse_as_of` -/
def parseAsOf : TimeValue → Except PyError (Option Int)
  | .absent => .ok none
  | .text s =>
      if strip s = "" then .ok none
      else
        match lib.py.fromisoformat (replaceZulu (strip s)) with
        | some t => .ok (some t)
        | none => .error (.valueError "as_of must be a valid ISO-8601 timestamp")
  | .instant t _ => .ok (some t)

/-- A value of `as_of` that names an instant. -/
structure AsOf where
  value : TimeValue
  instant : Int
  reads : parseTemporalInstant lib value = some instant

variable {lib}

theorem replaceZulu_eq_blank {text : String} : replaceZulu text = "" ↔ text = "" := by
  constructor
  · intro blank
    have chars := congrArg String.toList blank
    rw [replaceZulu, String.toList_ofList, String.toList_empty, List.flatMap_eq_nil_iff] at chars
    rw [← String.toList_eq_nil_iff, List.eq_nil_iff_forall_not_mem]
    intro c mem
    have gone := chars c mem
    split at gone
    · exact absurd gone (by decide)
    · cases gone
  · rintro rfl
    rfl

/-- The parser of the envelope reads the instant that the resolver reads, where it has a year in UTC. -/
theorem parsed_of_inUtc {v : TimeValue} {parsed : Option ParsedInstant} {t : Int} (reads : v.parsed lib = .ok parsed)
    (instant : parseTemporalInstant lib v = some t) (inside : InUtc t) : parsed.map Prod.fst = some t := by
  cases v with
  | absent => cases instant
  | instant i aware =>
      cases instant
      cases aware with
      | false =>
          cases reads
          rfl
      | true =>
          simp only [TimeValue.parsed, bind_eq_ok, astimezone_eq_ok, pure_eq_ok, Except.ok.injEq] at reads
          obtain ⟨i, ⟨-, rfl⟩, rfl⟩ := reads
          rfl
  | text s =>
      obtain rfl := Except.ok.inj reads
      by_cases blank : strip s = ""
      · simp [parseTemporalInstant, blank] at instant
      · rw [parseTemporalInstant, if_neg blank] at instant
        simp [parseInstant, Json.text, replaceZulu_eq_blank, blank, instant, inside]

theorem parseTemporalInstant_truthy {v : TimeValue} {t : Int} (reads : parseTemporalInstant lib v = some t) :
    v.truthy = true := by
  cases v with
  | absent => cases reads
  | instant t aware => rfl
  | text s =>
      simp only [parseTemporalInstant] at reads
      split at reads
      · cases reads
      · next filled =>
          simp only [TimeValue.truthy, bne_iff_ne, ne_eq]
          rintro rfl
          exact filled rfl

theorem AsOf.parseAsOf_eq (asOf : AsOf lib) : parseAsOf lib asOf.value = .ok (some asOf.instant) := by
  have reads := asOf.reads
  cases shape : asOf.value with
  | absent =>
      rw [shape] at reads
      cases reads
  | instant t aware =>
      rw [shape] at reads
      rw [parseAsOf, ← reads]
      rfl
  | text s =>
      rw [shape] at reads
      simp only [parseTemporalInstant] at reads
      split at reads
      · cases reads
      · next filled => simp only [parseAsOf, if_neg filled, reads]

end Readings

/-! ## The resolver -/

/-- What the lanes and the conflict detector read of a card. -/
structure TimedCard where
  validFrom : TimeValue
  validTo : TimeValue
  currentness : String

section Resolver

variable (lib : Library)

def TimedCard.window (card : TimedCard) : Window :=
  ⟨parseTemporalInstant lib card.validFrom, parseTemporalInstant lib card.validTo⟩

/-- `_is_active_at` -/
def isActiveAt (instant : Int) (card : TimedCard) : Bool :=
  ¬ (card.validFrom.truthy ∧ ∃ opens ∈ parseTemporalInstant lib card.validFrom, instant < opens) ∧
    ¬ (card.validTo.truthy ∧ ∃ closes ∈ parseTemporalInstant lib card.validTo, closes ≤ instant)

/-- The currentness of the cards that a default read leaves out. -/
def historicalCurrentness : List String := ["superseded", "retired", "stale"]

/-- `is_historical_lane`; the envelope repeats the bounds of its card, so they are read from the card alone. -/
def isHistoricalLane (asOf : TimeValue) (now : Int) (card : TimedCard) : Bool :=
  let instant := (parseTemporalInstant lib asOf).getD now
  let currentness := lower (strip (if card.currentness = "" then "current" else card.currentness))
  let opens := if card.validFrom.truthy then parseTemporalInstant lib card.validFrom else none
  let closes := if card.validTo.truthy then parseTemporalInstant lib card.validTo else none
  if asOf.truthy then
    if opens.isSome ∨ closes.isSome then ¬ ((∀ o ∈ opens, o ≤ instant) ∧ ∀ c ∈ closes, instant < c)
    else currentness ∈ historicalCurrentness
  else currentness ∈ historicalCurrentness ∨ ∃ c ∈ closes, c ≤ instant

/-- What `_fact_valid_at` reads of an episode. -/
structure GraphFact where
  validFrom : TimeValue
  validTo : TimeValue

/-- A bound of a fact, which is open where it is falsy; none where it cannot be compared. -/
def factBound : TimeValue → Option (Option Int)
  | .absent => some none
  | .text s =>
      if s = "" then some none
      else if lib.awareTime (replaceZulu s) then (lib.py.fromisoformat (replaceZulu s)).map some
      else none
  | .instant _ _ => none

/-- `_fact_valid_at` -/
def factValidAt (instant : Int) (fact : GraphFact) : Bool :=
  match factBound lib fact.validFrom, factBound lib fact.validTo with
  | some opens, some closes => (∀ o ∈ opens, o ≤ instant) ∧ ∀ c ∈ closes, instant < c
  | _, _ => false

/-- The bounds of a fact are texts with a timezone, where it has them. -/
def GraphFact.ReadsAs (fact : GraphFact) (w : Window) : Prop :=
  factBound lib fact.validFrom = some w.opens ∧ factBound lib fact.validTo = some w.closes

variable {lib}

/-- What an absent bound would say is left out either way. -/
theorem truthy_and_iff {v : TimeValue} {p : Int → Prop} :
    (v.truthy = true ∧ ∃ t ∈ parseTemporalInstant lib v, p t) ↔ ∃ t ∈ parseTemporalInstant lib v, p t := by
  constructor
  · exact And.right
  · rintro ⟨t, reads, holds⟩
    exact ⟨parseTemporalInstant_truthy reads, t, reads, holds⟩

theorem isActiveAt_iff {instant : Int} {card : TimedCard} :
    isActiveAt lib instant card = true ↔ (card.window lib).Contains instant := by
  simp only [isActiveAt, decide_eq_true_eq, truthy_and_iff, Window.Contains, TimedCard.window, not_exists, not_and,
    not_lt, not_le]

theorem truthy_ite (v : TimeValue) :
    (if v.truthy = true then parseTemporalInstant lib v else none) = parseTemporalInstant lib v := by
  split
  · rfl
  · next falsy =>
      cases reads : parseTemporalInstant lib v with
      | none => rfl
      | some t => exact absurd (parseTemporalInstant_truthy reads) falsy

/-- With an `as_of`, a card with a bound is current within its window; one without goes by its currentness. -/
theorem isHistoricalLane_iff (asOf : AsOf lib) (now : Int) (card : TimedCard) :
    isHistoricalLane lib asOf.value now card = false ↔
      if card.window lib = ⟨none, none⟩ then
        lower (strip (if card.currentness = "" then "current" else card.currentness)) ∉ historicalCurrentness
      else (card.window lib).Contains asOf.instant := by
  have truthy := parseTemporalInstant_truthy asOf.reads
  simp only [isHistoricalLane, truthy_ite, asOf.reads, Option.getD_some, truthy, if_true, TimedCard.window,
    Window.mk.injEq]
  cases parseTemporalInstant lib card.validFrom with
  | none =>
      cases parseTemporalInstant lib card.validTo with
      | none => simp
      | some closes => simp [Window.Contains]
  | some opens => simp [Window.Contains]

theorem factValidAt_iff {instant : Int} {fact : GraphFact} :
    factValidAt lib instant fact = true ↔ ∃ w, fact.ReadsAs lib w ∧ w.Contains instant := by
  unfold factValidAt GraphFact.ReadsAs
  cases opens : factBound lib fact.validFrom with
  | none => simp
  | some o =>
      cases closes : factBound lib fact.validTo with
      | none => simp
      | some c =>
          simp only [decide_eq_true_eq, Option.some.injEq]
          constructor
          · intro within
            exact ⟨⟨o, c⟩, ⟨rfl, rfl⟩, within⟩
          · rintro ⟨w, ⟨rfl, rfl⟩, within⟩
            exact within

end Resolver

/-! ## The recommendation -/

inductive ValidToRelation where
  | none | past | present | future
  deriving DecidableEq, Repr

inductive RecommendedAction where
  | use | useWithVerification | verifyOrSupersede | preferReplacement | treatAsHistorical | reviewConflict | askUser
  deriving DecidableEq, Repr

/-- A card may be used, with a check or without. -/
def RecommendedAction.Usable (action : RecommendedAction) : Prop := action = .use ∨ action = .useWithVerification

/-- The rows of the current lane. -/
def currentLaneRow (ageLabel : AgeLabel) (freshnessState : String) : String × RecommendedAction :=
  if freshnessState = "check_due" then ("오래됨·재검증 필요", .useWithVerification)
  else if ageLabel ∈ [.old, .historical] then
    if freshnessState = "verified_current" then ("오래되었지만 현재 유효", .use)
    else ("오래되었지만 현재 유효", .useWithVerification)
  else if freshnessState = "verified_current" then ("최신·검증됨", .use)
  else if ageLabel ∈ [.fresh, .recent] then ("현재 유효", .use)
  else ("현재 유효", .useWithVerification)

/-- `evaluate_decision_table_7_1`: the label of a card and what to do with it. -/
def evaluateDecisionTable71 (ageLabel : AgeLabel) (currentness : String) (validTo : ValidToRelation)
    (freshnessState : String) (temporalConflict : Bool) : String × RecommendedAction :=
  if temporalConflict ∨ currentness = "conflicted" then ("현재 항목 간 충돌", .reviewConflict)
  else if ageLabel = .future then ("시간 이상", .askUser)
  else if currentness = "unknown" ∧ ageLabel = .unknown then ("시간/권위 불명", .askUser)
  else if ageLabel = .unknown ∧ currentness = "current" then ("현재 권위이나 나이 불명", .askUser)
  else if currentness = "unknown" ∨ ageLabel = .unknown then ("시간/권위 불명", .askUser)
  else if freshnessState = "verified_changed" then ("현재 권위이나 소스 변경됨", .verifyOrSupersede)
  else if currentness = "superseded" then
    if ageLabel ∈ [.fresh, .recent] then ("최근이지만 이미 폐기됨", .preferReplacement)
    else ("폐기됨·대체 있음", .preferReplacement)
  else if currentness = "stale" then ("신뢰 철회됨", .treatAsHistorical)
  else if currentness = "retired" then ("의도적으로 폐기됨", .preferReplacement)
  else if validTo = .past then ("폐기됨·대체 있음", .preferReplacement)
  else currentLaneRow ageLabel freshnessState

theorem currentLaneRow_usable (ageLabel : AgeLabel) (freshnessState : String) :
    (currentLaneRow ageLabel freshnessState).2.Usable := by
  unfold currentLaneRow
  split_ifs <;> simp [RecommendedAction.Usable]

/-- The table lets a card be used exactly when its age and its authority are known, nothing has replaced or
    changed it, and its validity has not ended. -/
theorem evaluateDecisionTable71_usable_iff {ageLabel : AgeLabel} {currentness : String} {validTo : ValidToRelation}
    {freshnessState : String} {temporalConflict : Bool} :
    (evaluateDecisionTable71 ageLabel currentness validTo freshnessState temporalConflict).2.Usable ↔
      temporalConflict = false ∧ ageLabel ≠ .future ∧ ageLabel ≠ .unknown ∧
        currentness ∉ ["conflicted", "unknown", "superseded", "stale", "retired"] ∧
        freshnessState ≠ "verified_changed" ∧ validTo ≠ .past := by
  simp only [List.mem_cons, List.not_mem_nil, or_false, not_or]
  constructor
  · intro usable
    unfold evaluateDecisionTable71 at usable
    split_ifs at usable with conflict future both aged unknown changed superseded young stale retired past
    -- all but the last row name an action that is not usable
    any_goals (rcases usable with named | named <;> cases named)
    grind
  · rintro ⟨agreed, noFuture, aged, ⟨conflict, unknown, superseded, stale, retired⟩, unchanged, open_⟩
    rw [evaluateDecisionTable71, if_neg (by simp [agreed, conflict]), if_neg noFuture, if_neg (by simp [aged]),
      if_neg (by simp [aged]), if_neg (by simp [unknown, aged]), if_neg unchanged, if_neg superseded, if_neg stale,
      if_neg retired, if_neg open_]
    exact currentLaneRow_usable ageLabel freshnessState

/-- The arguments of `build_temporal_envelope` but for the instant. -/
structure EnvelopeInput where
  observedAt : TimeValue
  recordedAt : TimeValue
  validFrom : TimeValue
  validTo : TimeValue
  currentness : String
  freshnessState : Option String
  freshnessCheckedAt : TimeValue
  freshnessNextCheckAfter : TimeValue
  freshnessGaps : List String
  sourceHash : Option String
  expectedSourceHash : Option String
  temporalConflict : Bool
  cardType : Option String
  taskState : Option String

/-- The fields of the envelope that go into its recommendation, and the recommendation. -/
structure RecommendedEnvelope where
  temporal : Temporal
  freshnessState : String
  gaps : List String
  displayLabel : String
  recommendedAction : RecommendedAction

section Envelope

variable (lib : Library)

/-- The instants of the arguments, without the marks of a missing timezone. -/
structure ReadInput where
  observed : Option ParsedInstant
  recorded : Option ParsedInstant
  validFrom : Option Int
  validTo : Option Int
  checkedAt : Option Int
  nextCheck : Option Int

def EnvelopeInput.read (input : EnvelopeInput) : Except PyError ReadInput := do
  return {
    observed := ← input.observedAt.parsed lib
    recorded := ← input.recordedAt.parsed lib
    validFrom := (← input.validFrom.parsed lib).map Prod.fst
    validTo := (← input.validTo.parsed lib).map Prod.fst
    checkedAt := (← input.freshnessCheckedAt.parsed lib).map Prod.fst
    nextCheck := (← input.freshnessNextCheckAfter.parsed lib).map Prod.fst }

/-- The gaps of an envelope before its source is compared. -/
def EnvelopeInput.initialGaps (input : EnvelopeInput) (read : ReadInput) : List String :=
  if read.checkedAt = none ∧ "no_recent_freshness_check" ∉ input.freshnessGaps then
    input.freshnessGaps ++ ["no_recent_freshness_check"]
  else input.freshnessGaps

/-- Both hashes are known and differ, or the change was reported. -/
def EnvelopeInput.sourceChanged (input : EnvelopeInput) (read : ReadInput) : Bool :=
  match input.expectedSourceHash, input.sourceHash with
  | some expected, some found => strip expected ≠ strip found
  | _, _ =>
      input.freshnessState = some "verified_changed" ∨ "source_changed" ∈ input.initialGaps read ∨
        "source_hash_mismatch" ∈ input.initialGaps read

def EnvelopeInput.gaps (input : EnvelopeInput) (read : ReadInput) : List String :=
  let gaps := input.initialGaps read
  if (input.expectedSourceHash.isSome ∧ input.sourceHash.isSome) ∧ input.sourceChanged read ∧
      "source_changed" ∉ gaps then
    gaps ++ ["source_changed"]
  else gaps

/-- The freshness of an envelope, whose task cards are due for a check at sixty days. -/
def EnvelopeInput.derivedFreshness (input : EnvelopeInput) (read : ReadInput) (asOf : Int)
    (ageSeconds : Option Int) : String :=
  let reported :=
    if read.checkedAt = none then "unchecked"
    else (input.freshnessState.filter (· != "")).getD "unchecked"
  let checkDue := ∃ due ∈ read.nextCheck, due ≤ asOf
  let isTask := input.cardType.getD "" ∈ ["task", "work", "work_unit"] ∨ input.taskState.isSome
  let aged := ∃ seconds ∈ ageSeconds, 60 * 86400 ≤ seconds
  if input.sourceChanged read then "verified_changed"
  else if reported = "verified_changed" then reported
  else if checkDue ∨ isTask ∧ aged then "check_due"
  else reported

def validToRelation (validTo : Option Int) (asOf : Int) : ValidToRelation :=
  match validTo with
  | none => .none
  | some closes => if closes < asOf then .past else if asOf < closes then .future else .present

/-- `build_temporal_envelope` with its freshness and its recommendation. -/
def recommendedEnvelope (asOf : TimeValue) (now : Int) (input : EnvelopeInput) : Except PyError RecommendedEnvelope := do
  let read ← input.read lib
  let instant := ((← asOf.parsed lib).map Prod.fst).getD now
  let temporal := buildTemporalEnvelope instant read.observed read.recorded read.validFrom read.validTo
    input.currentness input.temporalConflict
  let freshnessState := input.derivedFreshness read instant temporal.ageSeconds
  let (displayLabel, recommendedAction) := evaluateDecisionTable71 temporal.ageLabel input.currentness
    (validToRelation read.validTo instant) freshnessState temporal.temporalConflict
  return ⟨temporal, freshnessState, input.gaps read, displayLabel, recommendedAction⟩

variable {lib}

theorem validToRelation_past_iff {validTo : Option Int} {asOf : Int} :
    validToRelation validTo asOf = .past ↔ ∃ closes ∈ validTo, closes < asOf := by
  unfold validToRelation
  cases validTo with
  | none => simp
  | some closes =>
      simp only [Option.mem_def, Option.some.injEq, exists_eq_left']
      split_ifs <;> simp_all

theorem EnvelopeInput.read_validTo {input : EnvelopeInput} {read : ReadInput} (reads : input.read lib = .ok read) :
    ∃ parsed, input.validTo.parsed lib = .ok parsed ∧ read.validTo = parsed.map Prod.fst := by
  simp only [EnvelopeInput.read, bind_eq_ok, pure_eq_ok, Except.ok.injEq] at reads
  obtain ⟨-, -, -, -, -, -, parsed, reads, -, -, -, -, rfl⟩ := reads
  exact ⟨parsed, reads, rfl⟩

/-- A card is not recommended any more once the validity that the envelope reads has ended. -/
theorem recommendedEnvelope_usable {asOf : AsOf lib} {now : Int} {input : EnvelopeInput}
    {envelope : RecommendedEnvelope} (inside : InUtc asOf.instant)
    (built : recommendedEnvelope lib asOf.value now input = .ok envelope) (usable : envelope.recommendedAction.Usable) :
    ∀ closes ∈ parseTemporalInstant lib input.validTo, InUtc closes → asOf.instant ≤ closes := by
  simp only [recommendedEnvelope, bind_eq_ok, pure_eq_ok, Except.ok.injEq] at built
  obtain ⟨read, reads, parsed, instant, rfl⟩ := built
  obtain ⟨parsedTo, readsTo, validTo⟩ := EnvelopeInput.read_validTo reads
  rw [parsed_of_inUtc instant asOf.reads inside] at usable
  have open_ := (evaluateDecisionTable71_usable_iff.mp usable).2.2.2.2.2
  rw [Ne, validToRelation_past_iff] at open_
  intro closes bound inside'
  by_contra ended
  refine open_ ⟨closes, ?_, not_le.mp ended⟩
  rw [validTo]
  exact parsed_of_inUtc readsTo bound inside'

end Envelope

/-! ## The rows of the store -/

def CardRow.window (row : CardRow) : Window := ⟨some row.validFrom, row.validTo⟩

/-- What the authority filter asks besides the window. -/
def CardRow.Admissible (lib : Library) (project : String) (instant : Int) (row : CardRow) : Prop :=
  row.project = project ∧ row.authorizationStatus = "active" ∧ row.currentness ∈ ["current", "superseded"] ∧
    row.lifecycleState ∈ acceptedLifecycleStates ∧ statusUnexpired lib row instant = .ok true

theorem authorityFilter_iff {lib : Library} {project : String} {t now : Int} {row : CardRow} :
    authorityFilter lib project (some t) now row = .ok true ↔ row.Admissible lib project t ∧ row.window.Contains t := by
  simp only [authorityFilter, Option.getD_some, CardRow.InWindow, CardRow.Admissible, CardRow.window, Window.Contains,
    Option.mem_def, Option.some.injEq, forall_eq', ne_eq, reduceCtorEq, not_false_eq_true, true_and, List.mem_cons,
    List.not_mem_nil, or_false]
  split
  · next inside => grind
  · next outside => grind

/-! ## One window -/

/-- At every instant given as `as_of`, a row that meets the other conditions of the authority filter passes it
    exactly within its window; a card that has a bound is in the current lane exactly within its window, and one that
    has none goes by its currentness; the conflict detector takes a card for active exactly within its window; a
    fact is valid exactly within the window that its bounds spell with a timezone; and no card is recommended for
    use after its `valid_to`, where both have a year in UTC. -/
theorem one_validity_window (lib : Library) (asOf : AsOf lib) (now : Int) :
    (∀ project row, (do authorityFilter lib project (← parseAsOf lib asOf.value) now row) = .ok true ↔
      row.Admissible lib project asOf.instant ∧ row.window.Contains asOf.instant) ∧
    (∀ card, isHistoricalLane lib asOf.value now card = false ↔
      if card.window lib = ⟨none, none⟩ then
        lower (strip (if card.currentness = "" then "current" else card.currentness)) ∉ historicalCurrentness
      else (card.window lib).Contains asOf.instant) ∧
    (∀ card, isActiveAt lib asOf.instant card = true ↔ (card.window lib).Contains asOf.instant) ∧
    (∀ fact, factValidAt lib asOf.instant fact = true ↔ ∃ w, fact.ReadsAs lib w ∧ w.Contains asOf.instant) ∧
    ∀ input envelope, InUtc asOf.instant → recommendedEnvelope lib asOf.value now input = .ok envelope →
      envelope.recommendedAction.Usable →
      ∀ closes ∈ parseTemporalInstant lib input.validTo, InUtc closes → asOf.instant ≤ closes := by
  refine ⟨?_, isHistoricalLane_iff asOf now, fun _ => isActiveAt_iff, fun _ => factValidAt_iff, ?_⟩
  · intro project row
    rw [asOf.parseAsOf_eq, ok_bind]
    exact authorityFilter_iff
  · intro input envelope inside built usable
    exact recommendedEnvelope_usable inside built usable

/-- A superseded card without bounds, as the resolver reads it. -/
def unboundedCard : TimedCard := ⟨.absent, .absent, "superseded"⟩

/-- A card without bounds is historical by its currentness, although its window is open at both ends. -/
theorem unboundedCard_historical : (unboundedCard.window referenceLibrary).Contains 0 ∧
    isActiveAt referenceLibrary 0 unboundedCard = true ∧
    isHistoricalLane referenceLibrary (.instant 0 true) 0 unboundedCard = true := by
  decide +kernel

end Neurons.Steward
