import Neurons.Steward.ContextPayload
import Neurons.Steward.Pages
import Neurons.Steward.Trimming

/-! # What the pages by offset show

The next page starts behind as many cards as the pages before have shown. That is where a page
ends only if it shows the first cards of its window: a query page always does, a context page
where no card it keeps ranks above one that it gives up in front of it.
-/

namespace Neurons.Steward

open Neurons.Lib
open Neurons.Source

/-! ## The cards of a page -/

section Page

variable {exceeds : List ListedCard → Bool} {page : List ListedCard}

def cardIds (page : List ListedCard) : List String := page.map (·.row.memoryId)

theorem fitQueryPage_ids (exceeds : List ListedCard → Bool) (page : List ListedCard) :
    cardIds (fitQueryPage exceeds page) = (cardIds page).take (fitQueryPage exceeds page).length ∧
      (page ≠ [] → fitQueryPage exceeds page ≠ []) ∧ (fitQueryPage exceeds page).length ≤ page.length := by
  obtain ⟨front, visible⟩ := trimPage_prefix exceeds page
  have ids : cardIds (fitQueryPage exceeds page) = cardIds (trimPage exceeds page) :=
    shrinkPage_ids exceeds (trimPage exceeds page)
  have size : (fitQueryPage exceeds page).length = (trimPage exceeds page).length := by
    simpa [cardIds] using congrArg List.length ids
  refine ⟨?_, ?_, size ▸ front.length_le⟩
  · rw [ids, size, cardIds, cardIds, ← List.map_take, ← List.prefix_iff_eq_take.mp front]
  · intro filled
    have some := List.length_pos_iff.mpr (visible filled)
    rw [← size] at some
    exact List.length_pos_iff.mp some

/-- Cutting a text moves no card and changes no rank. -/
theorem trimContextText_cards {page' : List ListedCard} (cut : trimContextText page = some page') :
    cardIds page' = cardIds page ∧ page'.length = page.length := by
  obtain ⟨i, place, card, found, -, -, rfl⟩ := trimContextText_some cut
  refine ⟨?_, List.length_modify ..⟩
  apply List.ext_getElem
  · simp [cardIds]
  · intro j within within'
    simp only [cardIds, List.getElem_map, List.getElem_modify]
    split
    · cases place <;> rfl
    · rfl

/-- The page whose texts are cut as far as needed. -/
def boundedPage (exceeds : List ListedCard → Bool) (page : List ListedCard) : List ListedCard :=
  trimWhile exceeds trimContextText_shrinks page

theorem boundedPage_ids (exceeds : List ListedCard → Bool) (page : List ListedCard) :
    cardIds (boundedPage exceeds page) = cardIds page := by
  refine trimWhile_keeps trimContextText_shrinks (p := fun page' => cardIds page' = cardIds page) ?_ rfl
  intro page' page'' cut same
  rw [(trimContextText_cards cut).1, same]

/-- The cards that a page over the budget gives up stand behind those it keeps: no card ranks lower
    than one behind it, once as many cards as needed are given up by rank. -/
def DropsFromEnd (exceeds : List ListedCard → Bool) (page : List ListedCard) : Prop :=
  ∀ k < page.length, (∀ j < k, exceeds ((advance dropContextCard)^[j] page) = true) →
    (exceeds ((advance dropContextCard)^[k] page) = false ∨ k + 1 = page.length) →
    RanksFirst contextDropRank page (page.length - k)

theorem eq_of_cardIds_eq {others others' : List ListedCard} (distinct : (cardIds page).Nodup)
    (within : others ⊆ page) (within' : others' ⊆ page) (same : cardIds others = cardIds others') :
    others = others' := by
  apply List.ext_getElem
  · simpa [cardIds] using congrArg List.length same
  · intro i inside inside'
    have first : i < (cardIds others).length := by simpa [cardIds] using inside
    have second : i < (cardIds others').length := by simpa [cardIds] using inside'
    have equal : (cardIds others)[i] = (cardIds others')[i] := by simp only [same]
    simp only [cardIds, List.getElem_map] at equal
    exact List.inj_on_of_nodup_map distinct (within (List.getElem_mem inside)) (within' (List.getElem_mem inside')) equal

/-- A context page shows the first cards of its window exactly when it gives up cards from its end. -/
theorem fitContextPage_ids (distinct : (cardIds page).Nodup) :
    (cardIds (fitContextPage exceeds page) = (cardIds page).take (fitContextPage exceeds page).length ↔
        DropsFromEnd exceeds (boundedPage exceeds page)) ∧
      (page ≠ [] → fitContextPage exceeds page ≠ []) ∧ (fitContextPage exceeds page).length ≤ page.length := by
  have ids := boundedPage_ids exceeds page
  have shape : fitContextPage exceeds page =
      trimPage exceeds (trimWhile exceeds dropContextCard_shrinks (boundedPage exceeds page)) := rfl
  have whole : (boundedPage exceeds page).length = page.length := by
    simpa [cardIds] using congrArg List.length ids
  rw [← ids] at distinct ⊢
  rw [← whole]
  have filled : page ≠ [] → boundedPage exceeds page ≠ [] := by
    intro some none
    rw [none] at ids
    exact some (List.map_eq_nil_iff.mp ids.symm)
  generalize boundedPage exceeds page = bounded at *
  obtain ⟨k, taken, needed⟩ : ∃ k, trimWhile exceeds dropContextCard_shrinks bounded =
      (advance dropContextCard)^[k] bounded ∧ ∀ j < k, exceeds ((advance dropContextCard)^[j] bounded) = true ∧
        dropContextCard ((advance dropContextCard)^[j] bounded) ≠ none :=
    trimWhile_eq_iterate dropContextCard_shrinks bounded
  obtain ⟨size, short⟩ := iterate_dropLowest_length fun j early => (needed j early).2
  have stops : exceeds (trimWhile exceeds dropContextCard_shrinks bounded) = false ∨
      dropContextCard (trimWhile exceeds dropContextCard_shrinks bounded) = none :=
    trimWhile_stops dropContextCard_shrinks bounded
  rw [taken] at stops shape
  -- the last loop finds nothing left to do
  have kept : fitContextPage exceeds page = (advance dropContextCard)^[k] bounded := by
    rw [shape, trimPage]
    split
    · next more =>
        rcases stops with fits | ended
        · simp [fits] at more
        · have single := dropLowest_eq_none ended
          omega
    · rfl
  rw [kept]
  have count : ((advance dropContextCard)^[k] bounded).length = bounded.length - k :=
    Nat.eq_sub_of_add_eq size
  refine ⟨?_, ?_, by rw [count]; exact Nat.sub_le _ _⟩
  · rw [count]
    by_cases none : bounded = []
    · subst none
      have zero : k = 0 := by
        rw [List.length_nil] at size
        omega
      subst zero
      simp [DropsFromEnd, cardIds]
    · have within := short none
      have front : cardIds ((advance dropContextCard)^[k] bounded) = (cardIds bounded).take (bounded.length - k) ↔
          (advance dropContextCard)^[k] bounded = bounded.take (bounded.length - k) := by
        rw [cardIds, cardIds, ← List.map_take]
        exact ⟨eq_of_cardIds_eq distinct (iterate_dropLowest_sublist k bounded).subset (List.take_subset _ _),
          congrArg cardIds⟩
      have ranked : (advance dropContextCard)^[k] bounded = bounded.take (bounded.length - k) ↔
          RanksFirst contextDropRank bounded (bounded.length - k) :=
        iterate_dropLowest_eq_take (List.Nodup.of_map _ distinct) within
      rw [front]
      refine ranked.trans ⟨fun first k' within' beyond stop => ?_, fun all => ?_⟩
      · have same : k' = k := by
          rcases Nat.lt_trichotomy k' k with early | same | late
          · rcases stop with fits | last
            · have big := (needed k' early).1
              simp [big] at fits
            · omega
          · exact same
          · have big := beyond k late
            rcases stops with fits | ended
            · simp [big] at fits
            · have single := dropLowest_eq_none ended
              omega
        rw [same]
        exact first
      · apply all k within fun j early => (needed j early).1
        rcases stops with fits | ended
        · exact .inl fits
        · have single := dropLowest_eq_none ended
          exact .inr (by omega)
  · intro some none
    have within := short (filled some)
    rw [← List.length_eq_zero_iff, count] at none
    omega

end Page

/-! ## Following the cursors -/

section Walk

variable (host : ResolveHost) (request : ResolveRequest) (errorCode : Option FallbackError) (filtered : FilteredCards)

def offsetOf (cursor : Option ListCursor) : ℕ := cursor.elim 0 (·.offset)

def slimIds (payload : SlimPayload) : List String := cardIds payload.items

/-- Every page that is served fits the budget, and following the cursors shows each card once, in order. -/
def PagedCompletely : Prop :=
  (∀ cursor payload, serializeOffset host request errorCode filtered cursor = .ok payload →
    payload.errorCode = errorCode.map FallbackError.text → host.toolResultBytes request payload ≤ host.maxBytes) ∧
  ∃ pages, follow (serializeOffset host request errorCode filtered) (·.nextCursor) (filtered.cards.length + 1) none =
      .ok pages ∧
    pages.flatMap slimIds = cardIds filtered.cards ∧
    (∀ page ∈ pages, page.errorCode = errorCode.map FallbackError.text) ∧
    pages.getLast?.map (·.nextCursor) = some none

/-- The page of a place can be served, and a context page gives up cards from its end only. -/
def PageKept (cursor : Option ListCursor) : Prop :=
  ∃ read, pageEvidence host request filtered (offsetOf cursor) = some read ∧
    let evidence := fitEvidence host request errorCode filtered (offsetOf cursor) read
    let exceeds := overBudget host request errorCode filtered (offsetOf cursor) evidence
    let page := fitPage host request errorCode filtered (offsetOf cursor) evidence
    exceeds page = false ∧
      host.ensurePublicSafe (offsetPayload host request errorCode filtered (offsetOf cursor) evidence page) = .ok () ∧
      (request.context → DropsFromEnd exceeds (boundedPage exceeds (window request filtered (offsetOf cursor))))

/-- What a page that is served says. -/
structure Served (cursor : Option ListCursor) (evidence : Option Evidence) (payload : SlimPayload) : Prop where
  read : ∃ read, pageEvidence host request filtered (offsetOf cursor) = some read ∧
    evidence = fitEvidence host request errorCode filtered (offsetOf cursor) read
  fits : overBudget host request errorCode filtered (offsetOf cursor) evidence
    (fitPage host request errorCode filtered (offsetOf cursor) evidence) = false
  safe : host.ensurePublicSafe payload = .ok ()
  payload_eq : payload = offsetPayload host request errorCode filtered (offsetOf cursor) evidence
    (fitPage host request errorCode filtered (offsetOf cursor) evidence)

variable {host request errorCode filtered}

theorem refusal_eq_ok {code : String} {payload : SlimPayload} (refused : refusal host code = .ok payload) :
    payload = ⟨[], false, none, some code, none⟩ := by
  simp only [refusal, bind_eq_ok, pure_eq_ok, Except.ok.injEq] at refused
  obtain ⟨_, _, rfl⟩ := refused
  rfl

/-- A page is refused or served. -/
theorem serializeOffset_eq_ok {cursor : Option ListCursor} {payload : SlimPayload}
    (served : serializeOffset host request errorCode filtered cursor = .ok payload) :
    (payload.nextCursor = none ∧ payload.errorCode ≠ errorCode.map FallbackError.text) ∨
      ∃ evidence, Served host request errorCode filtered cursor evidence payload := by
  have apart (code : String) (unlike : code = "evidence_unavailable" ∨ code = "response_budget_exceeded") :
      some code ≠ errorCode.map FallbackError.text := by
    cases errorCode with
    | none => exact nofun
    | some fallback =>
        rcases unlike with rfl | rfl <;> cases fallback <;> decide
  simp only [serializeOffset, bind_eq_ok] at served
  obtain ⟨decoded, valid, served⟩ := served
  have place : decoded.offset = offsetOf cursor := by
    cases cursor with
    | none =>
        cases valid
        rfl
    | some given =>
        simp only [decodeOffsetCursor, bind_eq_ok, refuseIf_eq_ok, pure_eq_ok, Except.ok.injEq] at valid
        obtain ⟨_, _, _, _, rfl⟩ := valid
        rfl
  rw [place] at served
  cases read : pageEvidence host request filtered (offsetOf cursor) with
  | none =>
      rw [read] at served
      cases refusal_eq_ok served
      exact .inl ⟨rfl, apart _ (.inl rfl)⟩
  | some evidence =>
      rw [read] at served
      dsimp only at served
      split at served
      · cases refusal_eq_ok served
        exact .inl ⟨rfl, apart _ (.inr rfl)⟩
      · next fits =>
          simp only [bind_eq_ok, pure_eq_ok, Except.ok.injEq] at served
          obtain ⟨_, safe, rfl⟩ := served
          exact .inr ⟨_, ⟨evidence, read, rfl⟩, by simpa using fits, safe, rfl⟩

/-- A place that the pages lead to. -/
def Named (host : ResolveHost) (request : ResolveRequest) (filtered : FilteredCards) (cursor : Option ListCursor) : Prop :=
  ∀ place ∈ cursor, place.fingerprint = host.fingerprint request filtered.cards ∧ place.afterId = none ∧
    place.offset < filtered.cards.length

theorem offsetPayload_nextCursor {offset : ℕ} {evidence : Option Evidence} {page : List ListedCard} {place : ListCursor}
    (goesOn : (offsetPayload host request errorCode filtered offset evidence page).nextCursor = some place) :
    place = ⟨host.fingerprint request filtered.cards, offset + page.length, none⟩ ∧
      offset + page.length < filtered.cards.length := by
  simp only [offsetPayload] at goesOn
  split at goesOn
  · next more => exact ⟨(Option.some.inj goesOn).symm, more⟩
  · cases goesOn

theorem named_of_reached {cursor : Option ListCursor}
    (reached : Reached (serializeOffset host request errorCode filtered) (·.nextCursor) cursor) :
    Named host request filtered cursor := by
  cases reached with
  | start => exact nofun
  | @next place answer place' reached answers goesOn =>
      intro cursor same
      cases same
      rcases serializeOffset_eq_ok answers with ⟨last, -⟩ | ⟨evidence, served⟩
      · rw [last] at goesOn
        cases goesOn
      · rw [served.payload_eq] at goesOn
        obtain ⟨rfl, more⟩ := offsetPayload_nextCursor goesOn
        exact ⟨rfl, rfl, more⟩

/-- At such a place the page is served as far as it can be. -/
theorem serializeOffset_of_served {cursor : Option ListCursor} {evidence : Option Evidence} {payload : SlimPayload}
    (named : Named host request filtered cursor) (served : Served host request errorCode filtered cursor evidence payload) :
    serializeOffset host request errorCode filtered cursor = .ok payload := by
  have decoded : ∃ place, decodeOffsetCursor (host.fingerprint request filtered.cards) cursor = .ok place ∧
      place.offset = offsetOf cursor := by
    cases cursor with
    | none => exact ⟨_, rfl, rfl⟩
    | some place =>
        obtain ⟨valid, without, -⟩ := named place rfl
        exact ⟨place, by simp [decodeOffsetCursor, refuseIf, valid, without], rfl⟩
  obtain ⟨place, valid, offset⟩ := decoded
  obtain ⟨⟨read, answered, rfl⟩, fits, safe, rfl⟩ := served
  simp only [serializeOffset, valid, bind, Except.bind, offset, answered, fits, safe]
  rfl

/-- The cards that no page has shown before an offset. -/
def restIds (filtered : FilteredCards) (cursor : Option ListCursor) : List String :=
  (cardIds filtered.cards).drop (offsetOf cursor)

theorem window_ids (cursor : Option ListCursor) :
    cardIds (window request filtered (offsetOf cursor)) = (restIds filtered cursor).take request.limit := by
  simp [window, cardIds, restIds, List.map_take, List.map_drop]

/-- The page of a place shows the first cards that are left exactly when it gives up cards from its end. -/
theorem fitPage_ids (cursor : Option ListCursor) (evidence : Option Evidence) :
    let page := fitPage host request errorCode filtered (offsetOf cursor) evidence
    let exceeds := overBudget host request errorCode filtered (offsetOf cursor) evidence
    (cardIds page = (restIds filtered cursor).take page.length ↔
        (request.context → DropsFromEnd exceeds (boundedPage exceeds (window request filtered (offsetOf cursor))))) ∧
      (restIds filtered cursor ≠ [] → page ≠ []) := by
  intro page exceeds
  have ids : cardIds (window request filtered (offsetOf cursor)) = (restIds filtered cursor).take request.limit :=
    window_ids cursor
  have distinct : (cardIds (window request filtered (offsetOf cursor))).Nodup :=
    filtered.distinct.sublist (((List.take_sublist _ _).trans (List.drop_sublist _ _)).map _)
  have filled : restIds filtered cursor ≠ [] → window request filtered (offsetOf cursor) ≠ [] := by
    intro some none
    have limited := request.bounded
    rw [none, cardIds, List.map_nil, eq_comm, List.take_eq_nil_iff] at ids
    rcases ids with zero | empty
    · omega
    · exact some empty
  have known : (cardIds page = (cardIds (window request filtered (offsetOf cursor))).take page.length ↔
        (request.context → DropsFromEnd exceeds (boundedPage exceeds (window request filtered (offsetOf cursor))))) ∧
      (window request filtered (offsetOf cursor) ≠ [] → page ≠ []) ∧
      page.length ≤ (window request filtered (offsetOf cursor)).length := by
    cases mode : request.context with
    | true =>
        have shape : page = fitContextPage exceeds (window request filtered (offsetOf cursor)) := by
          simp only [page, fitPage, mode, if_true]
          rfl
        rw [shape]
        obtain ⟨front, visible, short⟩ := fitContextPage_ids distinct
        exact ⟨front.trans (by simp [exceeds]), visible, short⟩
    | false =>
        have shape : page = fitQueryPage exceeds (window request filtered (offsetOf cursor)) := by
          simp only [page, fitPage, mode]
          rfl
        rw [shape]
        obtain ⟨front, visible, short⟩ := fitQueryPage_ids exceeds (window request filtered (offsetOf cursor))
        exact ⟨by simp [front], visible, short⟩
  obtain ⟨front, visible, short⟩ := known
  refine ⟨?_, fun some => visible (filled some)⟩
  have limited : page.length ≤ request.limit := short.trans (List.length_take_le _ _)
  rw [← front, ids, List.take_take, min_eq_left limited]

theorem Served.shows {cursor : Option ListCursor} {evidence : Option Evidence} {payload : SlimPayload}
    (served : Served host request errorCode filtered cursor evidence payload) :
    slimIds payload = cardIds (fitPage host request errorCode filtered (offsetOf cursor) evidence) ∧
      payload.errorCode = errorCode.map FallbackError.text ∧
      payload.nextCursor = (offsetPayload host request errorCode filtered (offsetOf cursor) evidence
        (fitPage host request errorCode filtered (offsetOf cursor) evidence)).nextCursor := by
  cases served.payload_eq
  exact ⟨rfl, rfl, rfl⟩

/-- The cursor of a page leads on by the cards it shows. -/
theorem Served.leads {cursor : Option ListCursor} {evidence : Option Evidence} {payload : SlimPayload}
    (served : Served host request errorCode filtered cursor evidence payload) {place : ListCursor}
    (goesOn : payload.nextCursor = some place) :
    restIds filtered (some place) = (restIds filtered cursor).drop (slimIds payload).length := by
  obtain ⟨ids, -, next⟩ := served.shows
  rw [next] at goesOn
  obtain ⟨rfl, -⟩ := offsetPayload_nextCursor goesOn
  rw [ids, cardIds, List.length_map, restIds, restIds, List.drop_drop]
  rfl

theorem Served.kept {cursor : Option ListCursor} {evidence : Option Evidence} {payload : SlimPayload}
    (served : Served host request errorCode filtered cursor evidence payload)
    (front : slimIds payload <+: restIds filtered cursor) : PageKept host request errorCode filtered cursor := by
  obtain ⟨ids, -, -⟩ := served.shows
  have safe := served.safe
  rw [served.payload_eq] at safe
  obtain ⟨read, answered, rfl⟩ := served.read
  refine ⟨read, answered, served.fits, safe, (fitPage_ids cursor _).1.mp ?_⟩
  rw [ids] at front
  have first := List.prefix_iff_eq_take.mp front
  rwa [cardIds, List.length_map] at first

theorem PageKept.served {cursor : Option ListCursor} (kept : PageKept host request errorCode filtered cursor) :
    ∃ evidence payload, Served host request errorCode filtered cursor evidence payload ∧
      cardIds (fitPage host request errorCode filtered (offsetOf cursor) evidence) = (restIds filtered cursor).take
        (fitPage host request errorCode filtered (offsetOf cursor) evidence).length := by
  obtain ⟨read, answered, fits, safe, front⟩ := kept
  exact ⟨_, _, ⟨⟨read, answered, rfl⟩, fits, safe, rfl⟩, (fitPage_ids cursor _).1.mpr front⟩

/-- A page that is kept shows the first cards that are left, and leaves the others to its cursor. -/
theorem Served.splits {cursor : Option ListCursor} {evidence : Option Evidence} {payload : SlimPayload}
    (served : Served host request errorCode filtered cursor evidence payload)
    (front : cardIds (fitPage host request errorCode filtered (offsetOf cursor) evidence) =
      (restIds filtered cursor).take (fitPage host request errorCode filtered (offsetOf cursor) evidence).length) :
    slimIds payload ++ (payload.nextCursor.elim [] fun place => restIds filtered (some place)) =
      restIds filtered cursor := by
  obtain ⟨ids, -, next⟩ := served.shows
  have size : (slimIds payload).length = (fitPage host request errorCode filtered (offsetOf cursor) evidence).length := by
    rw [ids, cardIds, List.length_map]
  rw [← ids, ← size] at front
  cases goesOn : payload.nextCursor with
  | some place =>
      rw [Option.elim_some, served.leads goesOn]
      exact (congrArg (· ++ _) front).trans (List.take_append_drop _ _)
  | none =>
      rw [Option.elim_none, List.append_nil, front]
      apply List.take_of_length_le
      rw [next] at goesOn
      simp only [offsetPayload] at goesOn
      split at goesOn
      · cases goesOn
      · next all =>
          rw [size, restIds, List.length_drop, cardIds, List.length_map]
          omega

/-- A page that leads on shows a card. -/
theorem Served.visible {cursor : Option ListCursor} {evidence : Option Evidence} {payload : SlimPayload}
    (served : Served host request errorCode filtered cursor evidence payload) (more : payload.nextCursor ≠ none) :
    slimIds payload ≠ [] := by
  obtain ⟨ids, -, next⟩ := served.shows
  obtain ⟨place, goesOn⟩ := Option.ne_none_iff_exists'.mp more
  rw [next] at goesOn
  have later := (offsetPayload_nextCursor goesOn).2
  have left : restIds filtered cursor ≠ [] := by
    intro none
    rw [restIds, List.drop_eq_nil_iff, cardIds, List.length_map] at none
    omega
  intro none
  rw [ids] at none
  exact (fitPage_ids cursor evidence).2 left (List.map_eq_nil_iff.mp none)

/-- Following the cursors shows every card once and in order exactly when every page that they lead to can
    be served and gives up cards from its end only. -/
theorem offset_pages_complete_iff (host : ResolveHost) (request : ResolveRequest) (errorCode : Option FallbackError)
    (filtered : FilteredCards) :
    PagedCompletely host request errorCode filtered ↔
      ∀ cursor, Reached (serializeOffset host request errorCode filtered) (·.nextCursor) cursor →
        PageKept host request errorCode filtered cursor := by
  constructor
  · rintro ⟨-, pages, followed, whole, answered, ended⟩ cursor reached
    have leads : ∀ place answer place',
        Reached (serializeOffset host request errorCode filtered) (·.nextCursor) place →
        serializeOffset host request errorCode filtered place = .ok answer → answer.nextCursor = some place' →
        restIds filtered (some place') = (restIds filtered place).drop (slimIds answer).length := by
      intro place answer place' _ answers goesOn
      rcases serializeOffset_eq_ok answers with ⟨last, -⟩ | ⟨evidence, served⟩
      · rw [last] at goesOn
        cases goesOn
      · exact served.leads goesOn
    obtain ⟨answer, others, part, resolved, shown⟩ := reached.shows slimIds (restIds filtered) leads followed whole ended
    have code := answered answer (part.subset List.mem_cons_self)
    rcases serializeOffset_eq_ok resolved with ⟨-, refused⟩ | ⟨evidence, served⟩
    · exact absurd code refused
    · exact served.kept ⟨_, shown⟩
  · intro kept
    constructor
    · intro cursor payload done code
      rcases serializeOffset_eq_ok done with ⟨-, refused⟩ | ⟨evidence, served⟩
      · exact absurd code refused
      · have fits := of_decide_eq_false served.fits
        rw [← served.payload_eq] at fits
        exact Nat.not_lt.mp fits
    · have answers : ∀ place, Reached (serializeOffset host request errorCode filtered) (·.nextCursor) place →
          ∃ answer, serializeOffset host request errorCode filtered place = .ok answer ∧
            slimIds answer ++ (answer.nextCursor.elim [] fun place' => restIds filtered (some place')) =
              restIds filtered place ∧ (answer.nextCursor ≠ none → slimIds answer ≠ []) := by
        intro place reached
        obtain ⟨evidence, payload, served, front⟩ := (kept place reached).served
        exact ⟨payload, serializeOffset_of_served (named_of_reached reached) served, served.splits front, served.visible⟩
      have enough : (restIds filtered none).length < filtered.cards.length + 1 := by
        rw [restIds, List.length_drop, cardIds, List.length_map]
        omega
      obtain ⟨pages, followed, shown, ended⟩ := follow_eq slimIds (restIds filtered) answers .start enough
      refine ⟨pages, followed, shown, ?_, ended⟩
      intro page mem
      obtain ⟨place, reached, resolved⟩ := mem_follow .start followed mem
      obtain ⟨evidence, payload, served, -⟩ := (kept place reached).served
      cases (serializeOffset_of_served (named_of_reached reached) served).symm.trans resolved
      exact served.shows.2.1

end Walk

/-! ## A preference between two tasks -/

section Startup

def startupCard (id cardType title : String) : ListedCard where
  row :=
    { agedCard id with
      project := "neurons"
      cardType
      title
      summary := ""
      typedPayload := .obj [] }
  temporalConflict := false
  temporal := cardTemporalBlock agedHost agedNow (agedCard id) false

/-- The first card of each type comes before the second one of any. -/
def startupCards : FilteredCards where
  cards := [startupCard "mem:1" "task" "split the queue", startupCard "mem:2" "preference" "no force push",
    startupCard "mem:3" "task" "drain the outbox"]
  distinct := by decide

def startupRequest : ResolveRequest where
  toListRequest := agedRequest 3 (by decide) none
  context := true
  withEvidence := false
  asked := by decide
  oneMode := by decide

/-- A store whose budget is set to 1500 bytes. -/
def startupHost : ResolveHost where
  fingerprint _ _ := "s9Vv3oGZx1uUo1nV3bq0c2o5Jw8mYb7kQeF4hT6rLpA"
  toolResultBytes request payload := toolResultSize (contextPayload (fun text _ => text)
    [(.other "retrieval_path", .str "none"), (.other "graph_status", .str "unavailable"),
      (.other "authority_join_status", .str "verified"), (.other "fallback_used", .bool false),
      (.other "projection_lag_ms", .null)]
    (fun _ => "WyJzOVZ2M29HWngxdVVvMW5WM2JxMGMybzVKdzhtWWI3a1FlRjRoVDZyTHBBIiwyLG51bGxd") request payload)
    payload.errorCode.isSome
  maxBytes := 1500
  ensurePublicSafe _ := .ok ()
  readEvidence _ _ := none

/-- The place behind the first two cards. -/
def startupPlace : ListCursor := ⟨startupHost.fingerprint startupRequest startupCards.cards, 2, none⟩

/-- The first page gives up the preference, the card of the lowest rank. -/
theorem startup_first : serializeOffset startupHost startupRequest none startupCards none =
    .ok (offsetPayload startupHost startupRequest none startupCards 0 none (startupCards.cards.eraseIdx 1)) := by
  have big : overBudget startupHost startupRequest none startupCards 0 none startupCards.cards = true := by
    decide +kernel
  have fits : overBudget startupHost startupRequest none startupCards 0 none (startupCards.cards.eraseIdx 1) = false := by
    decide +kernel
  have all : window startupRequest startupCards 0 = startupCards.cards := by decide +kernel
  have short : trimContextText startupCards.cards = none := by decide +kernel
  have dropped : dropContextCard startupCards.cards = some (startupCards.cards.eraseIdx 1) := by decide +kernel
  have page : fitPage startupHost startupRequest none startupCards 0 none = startupCards.cards.eraseIdx 1 := by
    have mode : startupRequest.context = true := rfl
    simp only [fitPage, all, mode, if_true, fitContextPage]
    rw [trimWhile_of_stuck _ short, trimWhile_step _ big dropped, trimWhile_of_fits _ fits, trimPage,
      if_neg fun more => by simp [fits] at more]
  have evidence : fitEvidence startupHost startupRequest none startupCards 0 none = none :=
    trimWhile_of_stuck _ rfl
  have read : pageEvidence startupHost startupRequest startupCards 0 = some none := rfl
  simp only [serializeOffset, decodeOffsetCursor, bind, Except.bind, read, evidence, page, fits]
  rfl

/-- The second page starts at a card that the first has shown. -/
theorem startup_second : serializeOffset startupHost startupRequest none startupCards (some startupPlace) =
    .ok (offsetPayload startupHost startupRequest none startupCards 2 none (startupCards.cards.drop 2)) := by
  have fits : overBudget startupHost startupRequest none startupCards 2 none (startupCards.cards.drop 2) = false := by
    decide +kernel
  have last : window startupRequest startupCards 2 = startupCards.cards.drop 2 := by decide +kernel
  have page : fitPage startupHost startupRequest none startupCards 2 none = startupCards.cards.drop 2 := by
    have mode : startupRequest.context = true := rfl
    simp only [fitPage, last, mode, if_true, fitContextPage]
    rw [trimWhile_of_fits _ fits, trimWhile_of_fits _ fits, trimPage, if_neg fun more => by simp [fits] at more]
  have evidence : fitEvidence startupHost startupRequest none startupCards 2 none = none :=
    trimWhile_of_stuck _ rfl
  have place : decodeOffsetCursor (startupHost.fingerprint startupRequest startupCards.cards) (some startupPlace) =
      .ok startupPlace := rfl
  have offset : startupPlace.offset = 2 := rfl
  have read : pageEvidence startupHost startupRequest startupCards 2 = some none := rfl
  simp only [serializeOffset, place, bind, Except.bind, offset, read, evidence, page, fits]
  rfl

/-- The pages of three cards show the last one twice and the preference never. -/
theorem startup_pages_skip_card :
    (∃ pages, follow (serializeOffset startupHost startupRequest none startupCards) (·.nextCursor) 4 none = .ok pages ∧
      pages.flatMap slimIds = ["mem:1", "mem:3", "mem:3"] ∧ pages.map (·.errorCode) = [none, none]) ∧
    cardIds startupCards.cards = ["mem:1", "mem:2", "mem:3"] ∧
    ¬ PagedCompletely startupHost startupRequest none startupCards := by
  have next : (offsetPayload startupHost startupRequest none startupCards 0 none
      (startupCards.cards.eraseIdx 1)).nextCursor = some startupPlace := by decide +kernel
  have ended : (offsetPayload startupHost startupRequest none startupCards 2 none
      (startupCards.cards.drop 2)).nextCursor = none := by decide +kernel
  have followed : follow (serializeOffset startupHost startupRequest none startupCards) (·.nextCursor) 4 none = .ok
      [offsetPayload startupHost startupRequest none startupCards 0 none (startupCards.cards.eraseIdx 1),
        offsetPayload startupHost startupRequest none startupCards 2 none (startupCards.cards.drop 2)] :=
    follow_more startup_first next (follow_last startup_second ended)
  refine ⟨⟨_, followed, by decide, by decide⟩, by decide, ?_⟩
  rintro ⟨-, pages, same, shown, -, -⟩
  cases followed.symm.trans same
  revert shown
  decide

end Startup

end Neurons.Steward
