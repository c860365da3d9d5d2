import Neurons.Steward.Listing
import Neurons.Steward.ReferenceRun

/-! # What the pages of a listing show

A page is cut from the first matching cards after the cursor, with the anomalous ones moved behind
the others, and its cursor is the id of its last card. Following the cursors shows each matching
card once where every page keeps the cards in the order of their ids up to its last one, and no
card beyond the ones read for the last page matches.
-/

namespace Neurons.Steward

open Neurons.Lib
open Neurons.Source

/-! ## Reads of a listing -/

section Reads

variable {lib : Library}

/-- All the cards that the reads of a request page through. -/
def authorizedCards (lib : Library) (request : ListRequest) (now : Int) (db : Db) :
    Except PyError (List CardRow) :=
  (db.cards.entries.map Prod.snd).filterM ((request.query? none).admits lib now)

/-- The rows after an id. -/
def rowsAfter (afterId : Option String) (rows : List CardRow) : List CardRow :=
  rows.filter fun row => ∀ id ∈ afterId, id < row.memoryId

theorem filterM_filter {ε α : Type} {p q : α → Except ε Bool} {c : α → Bool}
    (narrows : ∀ a, q a = if c a then p a else .ok false) {l kept : List α} (done : l.filterM p = .ok kept) :
    l.filterM q = .ok (kept.filter c) := by
  induction l generalizing kept with
  | nil =>
      simp only [List.filterM, List.filterAuxM, ok_bind, pure_eq_ok, Except.ok.injEq] at done ⊢
      simp [← done]
  | cons a l ih =>
      rw [filterM_cons, bind_eq_ok] at done
      obtain ⟨pass, passed, done⟩ := done
      rw [filterM_cons, narrows]
      cases chosen : c a with
      | false =>
          cases pass with
          | false => simpa using ih done
          | true =>
              simp only [if_true, bind_eq_ok, pure_eq_ok, Except.ok.injEq] at done
              obtain ⟨rest, tail, rfl⟩ := done
              simpa [chosen] using ih tail
      | true =>
          cases pass with
          | false => simpa [passed] using ih done
          | true =>
              simp only [if_true, bind_eq_ok, pure_eq_ok, Except.ok.injEq] at done
              obtain ⟨rest, tail, rfl⟩ := done
              simp [passed, chosen, ih tail]

theorem filterM_sublist {ε α : Type} {p : α → Except ε Bool} {l kept : List α} (done : l.filterM p = .ok kept) :
    kept.Sublist l := by
  induction l generalizing kept with
  | nil =>
      simp only [List.filterM, List.filterAuxM, ok_bind, pure_eq_ok, Except.ok.injEq] at done
      simp [← done]
  | cons a l ih =>
      rw [filterM_cons, bind_eq_ok] at done
      obtain ⟨pass, -, done⟩ := done
      cases pass with
      | false => exact (ih done).cons a
      | true =>
          simp only [if_true, bind_eq_ok, pure_eq_ok, Except.ok.injEq] at done
          obtain ⟨rest, tail, rfl⟩ := done
          exact (ih tail).cons_cons a

/-- A read after an id answers with the first of the rows after it. -/
theorem listAuthorizedCards_after {request : ListRequest} {now : Int} {db : Db} {rows : List CardRow}
    (authorized : authorizedCards lib request now db = .ok rows) (afterId : Option String) :
    listAuthorizedCards lib (request.query? afterId) now db =
      .ok ((rowsAfter afterId rows).take (request.limit + 1)) := by
  have narrows (row : CardRow) : (request.query? afterId).admits lib now row =
      if decide (∀ id ∈ afterId, id < row.memoryId) then (request.query? none).admits lib now row
      else .ok false := by
    have all : (request.query? none).Selects row.memoryId := ⟨nofun, nofun⟩
    have selects : (request.query? afterId).Selects row.memoryId ↔ ∀ id ∈ afterId, id < row.memoryId :=
      ⟨And.right, fun behind => ⟨nofun, behind⟩⟩
    by_cases behind : ∀ id ∈ afterId, id < row.memoryId
    · rw [if_pos (decide_eq_true behind)]
      simp only [CardQuery.admits, selects.mpr behind, all]
      rfl
    · rw [if_neg (by rwa [decide_eq_true_eq])]
      exact if_neg fun both => behind (selects.mp both.1)
  have accepted : ¬ ((request.query? afterId).project = "" ∨
      ¬ (1 ≤ (request.query? afterId).limit ∧ (request.query? afterId).limit ≤ 100)) := by
    have bounded := request.bounded
    have named := request.named
    simp only [ListRequest.query?, not_or, not_not]
    exact ⟨named, by omega, by omega⟩
  have filtered := filterM_filter narrows authorized
  unfold CardQuery.admits at filtered
  simp only [listAuthorizedCards, refuseIf, if_neg accepted, filtered]
  rfl

/-- The memory ids key the card table and are texts of one to 64 characters. -/
def Db.Keyed (db : Db) : Prop :=
  ∀ id row, db.cards.get? id = some row → row.memoryId = id ∧ id ≠ "" ∧ id.length ≤ 64

variable {request : ListRequest} {now : Int} {db : Db} {rows : List CardRow}

theorem authorizedCards_sorted (keyed : db.Keyed) (authorized : authorizedCards lib request now db = .ok rows) :
    rows.Pairwise fun a b => a.memoryId < b.memoryId := by
  refine (List.pairwise_map.mpr (db.cards.sorted.imp_of_mem ?_)).sublist (filterM_sublist authorized)
  intro entry entry' mem mem' before
  rw [(keyed _ _ (Dict.mem_entries_iff.mp mem)).1, (keyed _ _ (Dict.mem_entries_iff.mp mem')).1]
  exact before

theorem authorizedCards_named (keyed : db.Keyed) (authorized : authorizedCards lib request now db = .ok rows)
    {row : CardRow} (mem : row ∈ rows) : row.memoryId ≠ "" ∧ row.memoryId.length ≤ 64 := by
  obtain ⟨⟨key, stored⟩, entry, rfl⟩ := List.mem_map.mp ((filterM_sublist authorized).subset mem)
  obtain ⟨named, filled, short⟩ := keyed key stored (Dict.mem_entries_iff.mp entry)
  rw [named]
  exact ⟨filled, short⟩

theorem authorizedCards_inWindow (authorized : authorizedCards lib request now db = .ok rows)
    {row : CardRow} (mem : row ∈ rows) : row.InWindow request.project request.asOf (request.asOf.getD now) := by
  by_contra outside
  have admitted := (mem_of_filterM authorized mem).2
  rw [CardQuery.admits_of_outside outside] at admitted
  cases admitted

end Reads

/-! ## Matching cards -/

section Matching

variable {host : ListHost} {request : ListRequest} {now : Int}

/-- The card satisfies the filters of the request. -/
def requestMatches (host : ListHost) (request : ListRequest) (now : Int) (row : CardRow) : Bool :=
  cardMatchesFilters host request now row false

/-- The card is moved behind the others on a page. -/
def anomalousRow (host : ListHost) (request : ListRequest) (now : Int) (row : CardRow) : Bool :=
  ListedCard.anomalous ⟨row, false, cardTemporalBlock host (request.envelopeInstant now) row false⟩

/-- No authorized card is in the historical lane. -/
theorem historicalLane_of_inWindow {row : CardRow}
    (window : row.InWindow request.project request.asOf (request.asOf.getD now)) :
    historicalLane request (request.asOf.getD now) row (lower (strip row.currentnessText)) = false := by
  obtain ⟨-, -, current, -, opened, closes⟩ := window
  unfold historicalLane
  split
  · exact decide_eq_false (not_not.mpr ⟨opened, closes⟩)
  · next present =>
      have asOf : request.asOf = none := by simpa using present
      have only : row.currentness = "current" := by
        rcases current with current | ⟨past, -⟩
        · exact current
        · exact absurd asOf past
      have text : lower (strip row.currentnessText) = "current" := by
        rw [CardRow.currentnessText, only]
        decide
      rw [text]
      apply decide_eq_false
      rintro (named | ⟨t, mem, ended⟩)
      · revert named
        decide
      · exact absurd (closes t mem) (not_lt.mpr ended)

/-- The conflicts among the cards of a read decide nothing about an authorized card. -/
theorem cardMatchesFilters_of_inWindow {row : CardRow}
    (window : row.InWindow request.project request.asOf (request.asOf.getD now)) (temporalConflict : Bool) :
    cardMatchesFilters host request now row temporalConflict = requestMatches host request now row := by
  have lane := historicalLane_of_inWindow window
  simp only [requestMatches, cardMatchesFilters, lane, Bool.false_eq_true, false_and, and_false, not_false_eq_true,
    true_and]
  rfl

theorem dedupeRows_eq {rows : List CardRow} (sorted : rows.Pairwise fun a b => a.memoryId < b.memoryId)
    (named : ∀ row ∈ rows, row.memoryId ≠ "") {seen : List String}
    (apart : ∀ row ∈ rows, row.memoryId ∉ seen) : dedupeRows seen rows = rows := by
  induction rows generalizing seen with
  | nil => rfl
  | cons row rest ih =>
      rw [List.forall_mem_cons] at named apart
      obtain ⟨first, sorted⟩ := List.pairwise_cons.mp sorted
      rw [dedupeRows, if_neg (by simp [named.1, apart.1]), ih sorted named.2]
      intro other mem
      rw [List.mem_cons, not_or]
      exact ⟨(first other mem).ne', apart.2 other mem⟩

variable (host) in
/-- The matching cards of a read by their ids, the anomalous ones last. -/
theorem filteredCards_ids {rows : List CardRow} (sorted : rows.Pairwise fun a b => a.memoryId < b.memoryId)
    (named : ∀ row ∈ rows, row.memoryId ≠ "")
    (window : ∀ row ∈ rows, row.InWindow request.project request.asOf (request.asOf.getD now)) :
    (filteredCards host request now rows).map (·.row.memoryId) =
      (demote (anomalousRow host request now) (rows.filter (requestMatches host request now))).map
        (·.memoryId) := by
  have deduped : dedupeRows [] rows = rows := dedupeRows_eq sorted named (by simp)
  simp only [filteredCards, deduped, List.filter_map]
  have same : rows.filter ((fun card : ListedCard => cardMatchesFilters host request now card.row
      card.temporalConflict) ∘ fun row => ⟨row, conflictAmong rows (request.asOf.getD now) row,
        cardTemporalBlock host (request.envelopeInstant now) row
          (conflictAmong rows (request.asOf.getD now) row)⟩) =
      rows.filter (requestMatches host request now) := by
    apply List.filter_congr
    intro row mem
    exact cardMatchesFilters_of_inWindow (window row mem) _
  rw [same, demote, sortOn_map, List.map_map]
  rfl

end Matching

/-! ## The cards of a page -/

section Page

theorem trimPage_prefix (exceeds : List ListedCard → Bool) (page : List ListedCard) :
    trimPage exceeds page <+: page ∧ (page ≠ [] → trimPage exceeds page ≠ []) := by
  fun_induction trimPage exceeds page with
  | case1 page big ih =>
      refine ⟨ih.1.trans (List.dropLast_prefix page), fun _ => ih.2 fun empty => ?_⟩
      have left := congrArg List.length empty
      rw [List.length_dropLast, List.length_nil] at left
      omega
  | case2 page fits => exact ⟨List.prefix_rfl, id⟩

theorem shrinkPage_ids (exceeds : List ListedCard → Bool) (page : List ListedCard) :
    (shrinkPage exceeds page).map (·.row.memoryId) = page.map (·.row.memoryId) := by
  fun_induction shrinkPage exceeds page with
  | case1 => rfl
  | case2 card rest big done => rfl
  | case3 card rest big row shrunk ih =>
      rw [ih, List.map_cons, List.map_cons]
      exact congrArg (· :: _) (shrinkCard_memoryId shrunk)
  | case4 card rest fits => rfl

/-- The page is a first part of the matching cards, and shows one if there is one. -/
theorem fittedPage_ids (host : ListHost) (request : ListRequest) (filtered : List ListedCard) :
    (fittedPage host request filtered).map (·.row.memoryId) =
        (filtered.map (·.row.memoryId)).take (fittedPage host request filtered).length ∧
      (fittedPage host request filtered).length ≤ filtered.length ∧
      (filtered ≠ [] → 1 ≤ (fittedPage host request filtered).length) := by
  obtain ⟨first, shows⟩ := trimPage_prefix (exceedsBudget host request filtered.length)
    (filtered.take request.limit)
  have ids := shrinkPage_ids (exceedsBudget host request filtered.length)
    (trimPage (exceedsBudget host request filtered.length) (filtered.take request.limit))
  have size := congrArg List.length ids
  rw [List.length_map, List.length_map] at size
  have front := first.trans (List.take_prefix _ _)
  unfold fittedPage
  rw [size]
  refine ⟨?_, front.length_le, fun some => ?_⟩
  · rw [ids, ← List.map_take, ← List.prefix_iff_eq_take.mp front]
  · have bounded := request.bounded
    have visible := List.length_pos_iff.mpr (shows fun empty => some (by
      rcases List.take_eq_nil_iff.mp empty with none | none
      · omega
      · exact none))
    omega

end Page

/-! ## Pages in a row -/

section Walk

variable (host : ListHost) (request : ListRequest) (now : Int) (rows : List CardRow)

/-- What a request reads at a place. -/
def readRows (place : Option ListCursor) : List CardRow :=
  (rowsAfter (place.bind (·.afterId)) rows).take (request.limit + 1)

/-- The matching cards that no page has come to yet. -/
def restRows (place : Option ListCursor) : List CardRow :=
  (rowsAfter (place.bind (·.afterId)) rows).filter (requestMatches host request now)

/-- The number of cards that the limit and the byte budget leave on the page of a place. -/
def shownCount (place : Option ListCursor) : ℕ :=
  (fittedPage host request (filteredCards host request now (readRows request rows place))).length

/-- Demotion and filtering leave the page of a place whole: a page that does not show all the matching
    cards it read keeps their order, and behind one that does no further card matches. -/
def PageWhole (place : Option ListCursor) : Prop :=
  let matching := (readRows request rows place).filter (requestMatches host request now)
  if shownCount host request now rows place < matching.length then
    KeepsOrder (anomalousRow host request now) matching (shownCount host request now rows place)
  else
    ∀ row ∈ (rowsAfter (place.bind (·.afterId)) rows).drop (request.limit + 1),
      requestMatches host request now row = false

instance (place : Option ListCursor) : Decidable (PageWhole host request now rows place) := by
  unfold PageWhole
  infer_instance

def shownIds (payload : ListPayload) : List String := payload.items.map (·.row.memoryId)

/-- The page shows a part of the cards that are left and its cursor leads to the others. -/
def LeavesRest (place : Option ListCursor) (payload : ListPayload) : Prop :=
  (shownIds payload ++
      (payload.nextCursor.elim [] fun next => (restRows host request now rows (some next)).map (·.memoryId))).Perm
    ((restRows host request now rows place).map (·.memoryId))

/-- The response to the place of a listing that fits the budget. -/
abbrev pagePayload (host : ListHost) (request : ListRequest) (now : Int) (rows : List CardRow)
    (place : Option ListCursor) : ListPayload :=
  finalPayload host request (fittedPage host request (filteredCards host request now (readRows request rows place)))
    (filteredCards host request now (readRows request rows place)).length

variable {host request now rows}

theorem perm_map_iff {α β : Type} {f : α → β} {l l' : List α} (within : ∀ a ∈ l, a ∈ l')
    (distinct : (l'.map f).Nodup) : (l.map f).Perm (l'.map f) ↔ l.Perm l' := by
  refine ⟨fun perm => ?_, fun perm => perm.map f⟩
  have nodup := (perm.nodup_iff.mpr distinct).of_map
  rw [List.perm_ext_iff_of_nodup nodup distinct.of_map]
  refine fun a => ⟨within a, fun mem => ?_⟩
  obtain ⟨b, shown, same⟩ := List.mem_map.mp (perm.mem_iff.mpr (List.mem_map_of_mem mem))
  rwa [← List.inj_on_of_nodup_map distinct (within b shown) mem same]

theorem rowsAfter_later {afterId : Option String} {later : String} (behind : ∀ id ∈ afterId, id < later) :
    rowsAfter (some later) rows = (rowsAfter afterId rows).filter fun row => later < row.memoryId := by
  rw [rowsAfter, rowsAfter, List.filter_filter]
  apply List.filter_congr
  intro row _
  by_cases front : later < row.memoryId
  · have all : ∀ id ∈ afterId, id < row.memoryId := fun id mem => (behind id mem).trans front
    rw [decide_eq_true all, decide_eq_true front]
    exact decide_eq_true fun id mem => Option.some.inj mem ▸ front
  · rw [decide_eq_false front]
    exact decide_eq_false fun all => front (all later rfl)

theorem finalPayload_of_serialize {read : List CardRow} {payload : ListPayload}
    (served : serialize host request now read = .ok payload)
    (fits : payload.errorCode ≠ some "response_budget_exceeded") :
    payload = finalPayload host request (fittedPage host request (filteredCards host request now read))
      (filteredCards host request now read).length := by
  unfold serialize at served
  dsimp only at served
  split at served
  · simp only [errorPayload, bind_eq_ok, pure_eq_ok, Except.ok.injEq] at served
    obtain ⟨_, _, rfl⟩ := served
    exact absurd rfl fits
  · simp only [bind_eq_ok, pure_eq_ok, Except.ok.injEq] at served
    obtain ⟨_, _, rfl⟩ := served
    rfl

/-- A place that the listing itself has named. -/
def PlaceOf (host : ListHost) (request : ListRequest) (rows : List CardRow) (place : Option ListCursor) : Prop :=
  ∀ cursor ∈ place, cursor.fingerprint = host.fingerprint request ∧
    ∃ row ∈ rows, cursor.afterId = some row.memoryId

variable {db : Db}

/-- At such a place the listing serializes what it reads there. -/
theorem resolveAuthorityOnly_eq (keyed : db.Keyed)
    (authorized : authorizedCards host.lib request now db = .ok rows) {place : Option ListCursor}
    (named : PlaceOf host request rows place) :
    resolveAuthorityOnly host request now db place =
      serialize host request now (readRows request rows place) := by
  cases place with
  | none =>
      simp [resolveAuthorityOnly, decodeCursor, refuseIf, listAuthorizedCards_after authorized, readRows]
  | some cursor =>
      obtain ⟨valid, row, mem, last⟩ := named cursor rfl
      have short := (authorizedCards_named keyed authorized mem).2
      have decoded : decodeCursor host request (some cursor) = .ok cursor := by
        simp [decodeCursor, refuseIf, valid, last, Nat.not_lt.mpr short]
      simp [resolveAuthorityOnly, decoded, refuseIf, last, listAuthorizedCards_after authorized, readRows]

variable (keyed : db.Keyed) (authorized : authorizedCards host.lib request now db = .ok rows)
include keyed authorized

/-- The ids of the page of a place, and of how many cards it is cut. -/
theorem page_ids (place : Option ListCursor) :
    let matching := (readRows request rows place).filter (requestMatches host request now)
    let filtered := filteredCards host request now (readRows request rows place)
    let shown := shownCount host request now rows place
    filtered.length = matching.length ∧ shown ≤ matching.length ∧ (matching ≠ [] → 1 ≤ shown) ∧
      (fittedPage host request filtered).map (·.row.memoryId) =
        ((demote (anomalousRow host request now) matching).take shown).map (·.memoryId) := by
  intro matching filtered shown
  have within : (readRows request rows place).Sublist rows :=
    (List.take_sublist _ _).trans List.filter_sublist
  have ids := filteredCards_ids host
    ((authorizedCards_sorted keyed authorized).sublist within)
    (fun row mem => (authorizedCards_named keyed authorized (within.subset mem)).1)
    (fun row mem => authorizedCards_inWindow authorized (within.subset mem))
  have size : filtered.length = matching.length := by
    have same := congrArg List.length ids
    rwa [List.length_map, List.length_map, (demote_perm _ _).length_eq] at same
  obtain ⟨page, short, visible⟩ := fittedPage_ids host request filtered
  refine ⟨size, size ▸ short, fun some => visible fun empty => some ?_, ?_⟩
  · rw [← List.length_eq_zero_iff, ← size, empty, List.length_nil]
  · rw [page, ids, ← List.map_take]
    rfl

/-- A page of some of the matching cards ends at the card its cursor names. -/
theorem nextCursor_some {place : Option ListCursor}
    (more : shownCount host request now rows place <
      ((readRows request rows place).filter (requestMatches host request now)).length) :
    ∃ last ∈ (readRows request rows place).filter (requestMatches host request now),
      ((demote (anomalousRow host request now)
        ((readRows request rows place).filter (requestMatches host request now))).take
          (shownCount host request now rows place)).getLast? = some last ∧
      (pagePayload host request now rows place).nextCursor =
        some ⟨host.fingerprint request, shownCount host request now rows place, some last.memoryId⟩ := by
  obtain ⟨size, -, visible, ids⟩ := page_ids keyed authorized place
  have first := visible fun empty => by simp [empty] at more
  obtain ⟨last, ends⟩ : ∃ last, ((demote (anomalousRow host request now)
      ((readRows request rows place).filter (requestMatches host request now))).take
        (shownCount host request now rows place)).getLast? = some last := by
    rw [← Option.isSome_iff_exists, List.getLast?_isSome, ← List.length_pos_iff, List.length_take,
      (demote_perm _ _).length_eq]
    omega
  refine ⟨last, (demote_perm _ _).mem_iff.mp (List.mem_of_mem_take (List.mem_of_getLast? ends)), ends, ?_⟩
  have ending := congrArg List.getLast? ids
  rw [List.getLast?_map, List.getLast?_map, ends] at ending
  simp only [pagePayload, finalPayload, ending, Option.map_some]
  exact if_pos (size ▸ more)

theorem nextCursor_none {place : Option ListCursor}
    (all : ¬ shownCount host request now rows place <
      ((readRows request rows place).filter (requestMatches host request now)).length) :
    (pagePayload host request now rows place).nextCursor = none := by
  have size := (page_ids keyed authorized place).1
  exact if_neg (size ▸ all)

/-- A page shows exactly what its cursor leaves out where demotion and filtering leave it whole. -/
theorem leavesRest_iff (place : Option ListCursor) :
    LeavesRest host request now rows place (pagePayload host request now rows place) ↔
      PageWhole host request now rows place := by
  obtain ⟨-, short, visible, ids⟩ := page_ids keyed authorized place
  set behind := rowsAfter (place.bind (·.afterId)) rows with behindEq
  set matching := (readRows request rows place).filter (requestMatches host request now) with matchingEq
  set others := (behind.drop (request.limit + 1)).filter (requestMatches host request now) with othersEq
  have whole : restRows host request now rows place = matching ++ others := by
    rw [restRows, matchingEq, othersEq, readRows, ← List.filter_append, List.take_append_drop]
  have sorted : (matching ++ others).Pairwise fun a b => a.memoryId < b.memoryId := by
    rw [← whole]
    exact (authorizedCards_sorted keyed authorized).sublist (List.filter_sublist.trans List.filter_sublist)
  have distinct : ((matching ++ others).map (·.memoryId)).Nodup :=
    (List.pairwise_map.mpr sorted).imp fun before => before.ne
  have members : ∀ row ∈ (demote (anomalousRow host request now) matching).take
      (shownCount host request now rows place), row ∈ matching ++ others := by
    intro row mem
    exact List.mem_append_left _ ((demote_perm _ _).mem_iff.mp (List.mem_of_mem_take mem))
  have shown : shownIds (pagePayload host request now rows place) =
      ((demote (anomalousRow host request now) matching).take
        (shownCount host request now rows place)).map (·.memoryId) := ids
  rw [LeavesRest, shown, whole, PageWhole]
  by_cases more : shownCount host request now rows place < matching.length
  · rw [if_pos more]
    have first := visible fun empty => by simp [empty] at more
    obtain ⟨last, lastMem, ends, cursor⟩ := nextCursor_some keyed authorized more
    have later : ∀ id ∈ place.bind (·.afterId), id < last.memoryId := by
      have read := List.mem_of_mem_take (List.mem_of_mem_filter lastMem)
      simpa using (List.mem_filter.mp read).2
    have next : restRows host request now rows (some ⟨host.fingerprint request,
        shownCount host request now rows place, some last.memoryId⟩) =
        (matching ++ others).filter fun row => last.memoryId < row.memoryId := by
      rw [← whole, restRows, restRows, Option.bind_some, rowsAfter_later later, List.filter_comm]
    rw [cursor, Option.elim_some, next, ← List.map_append, perm_map_iff _ distinct]
    · exact page_leaves_rest (·.memoryId) sorted first short ends
    · intro row mem
      exact (List.mem_append.mp mem).elim (members row) List.mem_of_mem_filter
  · rw [if_neg more]
    have all : shownCount host request now rows place = matching.length := by omega
    have page : (demote (anomalousRow host request now) matching).take (shownCount host request now rows place) =
        demote (anomalousRow host request now) matching := by
      rw [all, ← (demote_perm (anomalousRow host request now) matching).length_eq, List.take_length]
    have added : matching.Perm (matching ++ others) ↔ others = [] := by
      refine ⟨fun perm => ?_, fun none => by rw [none, List.append_nil]⟩
      have same := perm.length_eq
      rw [List.length_append] at same
      exact List.length_eq_zero_iff.mp (by omega)
    rw [page] at members
    rw [nextCursor_none keyed authorized more, page, Option.elim_none, List.append_nil,
      perm_map_iff members distinct, (demote_perm _ _).congr_left, added, othersEq, List.filter_eq_nil_iff]
    simp only [Bool.not_eq_true]
    rfl

/-- The listing names the places it leads to. -/
theorem placeOf_reached {place : Option ListCursor}
    (reached : Reached (resolveAuthorityOnly host request now db) (·.nextCursor) place)
    (fits : ∀ place, Reached (resolveAuthorityOnly host request now db) (·.nextCursor) place →
      ∀ payload, resolveAuthorityOnly host request now db place = .ok payload →
        payload.errorCode ≠ some "response_budget_exceeded") :
    PlaceOf host request rows place := by
  induction reached with
  | start => exact nofun
  | @next place answer place' reached answers goesOn ih =>
      have served := answers
      rw [resolveAuthorityOnly_eq keyed authorized ih] at served
      cases finalPayload_of_serialize served (fits place reached _ answers)
      intro cursor same
      cases same
      by_cases more : shownCount host request now rows place <
          ((readRows request rows place).filter (requestMatches host request now)).length
      · obtain ⟨last, mem, -, named⟩ := nextCursor_some keyed authorized more
        cases Option.some.inj (goesOn.symm.trans named)
        exact ⟨rfl, last, List.mem_of_mem_filter (List.mem_of_mem_take (List.mem_of_mem_filter mem)), rfl⟩
      · rw [nextCursor_none keyed authorized more] at goesOn
        cases goesOn

/-- A page that is not the last shows a card. -/
theorem shownIds_of_goesOn {place : Option ListCursor}
    (goesOn : (pagePayload host request now rows place).nextCursor ≠ none) :
    shownIds (pagePayload host request now rows place) ≠ [] := by
  obtain ⟨-, -, visible, -⟩ := page_ids keyed authorized place
  by_cases more : shownCount host request now rows place <
      ((readRows request rows place).filter (requestMatches host request now)).length
  · have first := visible fun empty => by simp [empty] at more
    intro none
    have size := congrArg List.length none
    rw [shownIds, List.length_map, List.length_nil] at size
    have shown : shownCount host request now rows place = 0 := size
    omega
  · exact absurd (nextCursor_none keyed authorized more) goesOn

omit keyed authorized in
variable (host request now rows) in
theorem restRows_start : restRows host request now rows none = rows.filter (requestMatches host request now) := by
  have all : rowsAfter none rows = rows := List.filter_eq_self.mpr fun row _ => decide_eq_true nofun
  rw [restRows, Option.bind_none, all]

end Walk

/-- A page that fits the budget is what the limit leaves. -/
theorem fittedPage_of_fits {host : ListHost} {request : ListRequest} {filtered : List ListedCard}
    (fits : exceedsBudget host request filtered.length (filtered.take request.limit) = false) :
    fittedPage host request filtered = filtered.take request.limit := by
  have kept : trimPage (exceedsBudget host request filtered.length) (filtered.take request.limit) =
      filtered.take request.limit := by
    rw [trimPage, if_neg (by simp [fits])]
  rw [fittedPage, kept]
  cases shape : filtered.take request.limit with
  | nil => rw [shrinkPage]
  | cons card rest => rw [shrinkPage, if_neg (by simpa [← shape] using fits)]

/-- Where every page is answered within the budget, a page shows exactly what its cursor leaves out if
    demotion and filtering leave it whole; and where they leave every page whole, following the cursors to
    the end visits every authorized card that matches the request exactly once. -/
theorem list_pages_complete (host : ListHost) (request : ListRequest) (now : Int) (db : Db) (rows : List CardRow)
    (keyed : db.Keyed) (authorized : authorizedCards host.lib request now db = .ok rows)
    (served : ∀ place, Reached (resolveAuthorityOnly host request now db) (·.nextCursor) place →
      ∃ payload, resolveAuthorityOnly host request now db place = .ok payload ∧
        payload.errorCode ≠ some "response_budget_exceeded") :
    (∀ place, Reached (resolveAuthorityOnly host request now db) (·.nextCursor) place →
      ∀ payload, resolveAuthorityOnly host request now db place = .ok payload →
        (LeavesRest host request now rows place payload ↔ PageWhole host request now rows place)) ∧
    ((∀ place, Reached (resolveAuthorityOnly host request now db) (·.nextCursor) place →
        PageWhole host request now rows place) →
      ∃ pages, follow (resolveAuthorityOnly host request now db) (·.nextCursor) (rows.length + 1) none = .ok pages ∧
        (pages.flatMap shownIds).Perm ((rows.filter (requestMatches host request now)).map (·.memoryId)) ∧
        pages.getLast?.map (·.nextCursor) = some none) := by
  have answered (place : Option ListCursor)
      (reached : Reached (resolveAuthorityOnly host request now db) (·.nextCursor) place) :
      resolveAuthorityOnly host request now db place = .ok (pagePayload host request now rows place) := by
    obtain ⟨payload, done, fits⟩ := served place reached
    have named := placeOf_reached keyed authorized reached fun place reached payload done => by
      obtain ⟨_, same, fits⟩ := served place reached
      cases done.symm.trans same
      exact fits
    have same := done
    rw [resolveAuthorityOnly_eq keyed authorized named] at same
    rw [done, finalPayload_of_serialize same fits]
  constructor
  · intro place reached payload done
    cases done.symm.trans (answered place reached)
    exact leavesRest_iff keyed authorized place
  · intro whole
    have start := restRows_start host request now rows
    have enough : ((restRows host request now rows none).map (·.memoryId)).length < rows.length + 1 := by
      rw [List.length_map, start]
      exact Nat.lt_succ_of_le (List.length_filter_le _ _)
    obtain ⟨pages, followed, shown, ended⟩ := follow_perm shownIds
      (fun place => (restRows host request now rows place).map fun row : CardRow => row.memoryId)
      (fun place reached => ⟨_, answered place reached,
        (leavesRest_iff keyed authorized place).mpr (whole place reached),
        shownIds_of_goesOn keyed authorized⟩)
      .start enough
    refine ⟨pages, followed, ?_, ended⟩
    rwa [start] at shown

/-! ## Three cards of different age -/

section Aged

def agedCard (id : String) : CardRow where
  memoryId := id
  project := "neurons"
  cardType := "decision"
  title := "store"
  summary := "keep the store"
  typedPayload := .obj []
  lifecycleState := "accepted"
  authorizationStatus := "active"
  currentness := "current"
  confidence := .dec 5 1
  validFrom := 0
  validTo := none
  contentHash := "sha256:1"
  sourceRef := []
  stewardEnvelope := some (Doc.ofFields [(.approvalState, .str "approved")])

def agedRows : List CardRow := ["mem:1", "mem:2", "mem:3"].map agedCard

def agedDb : Db :=
  { Db.empty with cards := Dict.insertAll ∅ (agedRows.map fun row => (row.memoryId, row)) }

/-- The first card is a day older than the others. -/
def agedHost : ListHost where
  lib := referenceLibrary
  createdAt id := if id = "mem:1" then 0 else 86400 * second
  fingerprint _ := "s9Vv3oGZx1uUo1nV3bq0c2o5Jw8mYb7kQeF4hT6rLpA"
  toolResultBytes _ payload := 1024 * (payload.items.length + 1)
  maxBytes := 32768
  ensurePublicSafe _ := .ok ()

def agedNow : Int := 90000 * second

/-- A request for the cards of an age. -/
def agedRequest (limit : ℕ) (bounded : 1 ≤ limit ∧ limit ≤ 20) (ageBucket : Option AgeLabel) : ListRequest where
  project := "neurons"
  query := ""
  minimal := false
  asOf := none
  limit
  includeHistorical := false
  maxAge := none
  minAge := none
  ageBucket
  currentness := none
  timeConfidence := none
  named := by decide
  bounded

theorem agedDb_keyed : agedDb.Keyed := by
  intro id row found
  have entry := Dict.mem_entries_iff.mpr found
  have all : ∀ entry ∈ agedDb.cards.entries, entry.2.memoryId = entry.1 ∧ entry.1 ≠ "" ∧ entry.1.length ≤ 64 := by
    decide +kernel
  exact all _ entry

theorem agedDb_authorized (limit : ℕ) (bounded : 1 ≤ limit ∧ limit ≤ 20) (ageBucket : Option AgeLabel) :
    authorizedCards agedHost.lib (agedRequest limit bounded ageBucket) agedNow agedDb = .ok agedRows := by
  rfl

/-- The page of a place, which always fits the budget. -/
def agedPage (request : ListRequest) (place : Option ListCursor) : ListPayload :=
  let filtered := filteredCards agedHost request agedNow (readRows request agedRows place)
  finalPayload agedHost request (filtered.take request.limit) filtered.length

theorem resolve_agedHost {request : ListRequest} {place : Option ListCursor}
    (authorized : authorizedCards agedHost.lib request agedNow agedDb = .ok agedRows)
    (named : PlaceOf agedHost request agedRows place) :
    resolveAuthorityOnly agedHost request agedNow agedDb place = .ok (agedPage request place) := by
  rw [resolveAuthorityOnly_eq agedDb_keyed authorized named]
  have fits (filtered : List ListedCard) :
      exceedsBudget agedHost request filtered.length (filtered.take request.limit) = false := by
    have short := List.length_take_le request.limit filtered
    have bounded := request.bounded
    apply decide_eq_false
    change ¬ 32768 < 1024 * ((filtered.take request.limit).length + 1)
    omega
  rw [serialize]
  dsimp only
  rw [fittedPage_of_fits (fits _), fits]
  rfl

/-- The fresh cards, one a page. -/
def freshRequest : ListRequest := agedRequest 1 (by decide) (some .fresh)

/-- A page of the fresh cards that reads an older one first ends the listing too early. -/
theorem list_pages_miss_card : ∃ page,
    resolveAuthorityOnly agedHost freshRequest agedNow agedDb none = .ok page ∧
      shownIds page = ["mem:2"] ∧ page.nextCursor = none ∧ page.errorCode = none ∧
      authorizedCards agedHost.lib freshRequest agedNow agedDb = .ok agedRows ∧
      (agedRows.filter (requestMatches agedHost freshRequest agedNow)).map (·.memoryId) = ["mem:2", "mem:3"] := by
  have authorized := agedDb_authorized 1 (by decide) (some .fresh)
  have named : PlaceOf agedHost freshRequest agedRows none := nofun
  exact ⟨agedPage freshRequest none, resolve_agedHost authorized named, by decide +kernel, by decide +kernel, rfl,
    authorized, by decide +kernel⟩

/-- All the cards, two a page. -/
def pairRequest : ListRequest := agedRequest 2 (by decide) none

/-- The place behind the first two cards. -/
def secondPage : ListCursor := ⟨agedHost.fingerprint pairRequest, 2, some "mem:2"⟩

theorem pairRequest_authorized : authorizedCards agedHost.lib pairRequest agedNow agedDb = .ok agedRows :=
  agedDb_authorized 2 (by decide) none

theorem secondPage_named : PlaceOf agedHost pairRequest agedRows (some secondPage) := by
  intro cursor same
  cases same
  exact ⟨rfl, agedCard "mem:2", by simp [agedRows], rfl⟩

theorem pairRequest_reached {place : Option ListCursor}
    (reached : Reached (resolveAuthorityOnly agedHost pairRequest agedNow agedDb) (·.nextCursor) place) :
    place = none ∨ place = some secondPage := by
  have first : PlaceOf agedHost pairRequest agedRows none := nofun
  induction reached with
  | start => exact .inl rfl
  | @next place answer place' reached answers goesOn ih =>
      rcases ih with rfl | rfl
      · cases (resolve_agedHost pairRequest_authorized first).symm.trans answers
        have second : (agedPage pairRequest none).nextCursor = some secondPage := by decide +kernel
        exact .inr (goesOn.symm.trans second)
      · cases (resolve_agedHost pairRequest_authorized secondPage_named).symm.trans answers
        have last : (agedPage pairRequest (some secondPage)).nextCursor = none := by decide +kernel
        cases goesOn.symm.trans last

theorem list_pages_complete_pairs : ∃ pages,
    follow (resolveAuthorityOnly agedHost pairRequest agedNow agedDb) (·.nextCursor) 4 none = .ok pages ∧
      (pages.flatMap shownIds).Perm ["mem:1", "mem:2", "mem:3"] ∧ pages.getLast?.map (·.nextCursor) = some none := by
  have first : PlaceOf agedHost pairRequest agedRows none := nofun
  have complete := list_pages_complete agedHost pairRequest agedNow agedDb agedRows agedDb_keyed
    pairRequest_authorized fun place reached => by
      rcases pairRequest_reached reached with rfl | rfl
      · exact ⟨_, resolve_agedHost pairRequest_authorized first, nofun⟩
      · exact ⟨_, resolve_agedHost pairRequest_authorized secondPage_named, nofun⟩
  have rest : LeavesRest agedHost pairRequest agedNow agedRows none (agedPage pairRequest none) ∧
      LeavesRest agedHost pairRequest agedNow agedRows (some secondPage)
        (agedPage pairRequest (some secondPage)) := by
    unfold LeavesRest
    decide +kernel
  obtain ⟨pages, followed, shown, ended⟩ := complete.2 fun place reached => by
    rcases pairRequest_reached reached with rfl | rfl
    · exact (complete.1 none reached _ (resolve_agedHost pairRequest_authorized first)).mp rest.1
    · exact (complete.1 _ reached _ (resolve_agedHost pairRequest_authorized secondPage_named)).mp rest.2
  exact ⟨pages, followed, shown.trans (by decide +kernel), ended⟩

end Aged

end Neurons.Steward
