import Mathlib.Algebra.Order.BigOperators.Group.List
import Neurons.Lib.Paging
import Neurons.Source.ReferencePlatform
import Neurons.Steward.SlimSerializer

/-! # Following the cursor of a slim context

A reader starts without a cursor and goes on from the one that each payload names. A page is skipped
exactly where its first decision is too large even without its texts: the last stage then takes the
decisions of the page away while the cursor stays behind them.
-/

namespace Neurons.Steward.SlimSerializer

open Neurons.Lib
open Neurons.Source

/-! ## Cursors -/

theorem isAscii_pageText (place : ℕ) : ∀ c ∈ ("offset:" ++ toString place).toList, c.toNat < 128 := by
  intro c mem
  rw [String.toList_append, List.mem_append, Nat.toString_eq_repr, Nat.toList_repr] at mem
  rcases mem with word | digit
  · have letters : "offset:".toList = ['o', 'f', 'f', 's', 'e', 't', ':'] := rfl
    simp only [letters, List.mem_cons, List.not_mem_nil, or_false] at word
    rcases word with rfl | rfl | rfl | rfl | rfl | rfl | rfl <;> decide
  · have decimal := Nat.isDigit_of_mem_toDigits (by decide) (by decide) digit
    simp only [Char.isDigit, Bool.and_eq_true, decide_eq_true_eq, ge_iff_le, UInt32.le_iff_toNat_le] at decimal
    exact lt_of_le_of_lt decimal.2 (by decide)

theorem length_encode_ascii {text : List Char} (ascii : ∀ c ∈ text, c.toNat < 128) :
    (Utf8.encode text).length = text.length := by
  induction text with
  | nil => rfl
  | cons c rest ih =>
      rw [List.forall_mem_cons] at ascii
      have single : c.utf8Size = 1 := by
        rw [Char.utf8Size_eq_one_iff, UInt32.le_iff_toNat_le]
        exact Nat.le_of_lt_succ ascii.1
      rw [Utf8.encode_cons, List.length_append, String.length_utf8EncodeChar, single, ih ascii.2, List.length_cons,
        Nat.add_comm]

theorem base64_plain : ∀ c ∈ '=' :: Base64.alphabet, Json.charBytes c = 1 ∧ c.toNat < 128 := by
  have all : ('=' :: Base64.alphabet).all (fun c => Json.charBytes c = 1 ∧ c.toNat < 128) = true := by
    decide +kernel
  intro c mem
  exact of_decide_eq_true (List.all_eq_true.mp all c mem)

theorem mem_pageCursor {place : ℕ} {c : Char} (mem : c ∈ (pageCursor place).toList) : c ∈ '=' :: Base64.alphabet := by
  rw [pageCursor, String.toList_ofList] at mem
  rcases Base64.isDigit_encode _ c mem with digit | filling
  · exact List.mem_cons_of_mem _ digit
  · rw [filling]
    exact List.mem_cons_self

theorem length_pageCursor (place : ℕ) :
    (pageCursor place).length = (7 + (Nat.toDigits 10 place).length + 2) / 3 * 4 := by
  rw [pageCursor, String.length_ofList, Base64.length_encode, length_encode_ascii (isAscii_pageText place),
    String.toList_append, List.length_append, Nat.toString_eq_repr, Nat.toList_repr]
  rfl

/-- The bytes of a cursor inside a payload. -/
theorem pageCursor_size (place : ℕ) : Json.textSize Json.spaced (pageCursor place) = 2 + (pageCursor place).length := by
  have plain : (pageCursor place).toList.map Json.spaced.char = (pageCursor place).toList.map fun _ => 1 := by
    apply List.map_congr_left
    intro c mem
    exact (base64_plain c (mem_pageCursor mem)).1
  rw [Json.textSize, plain, List.map_const', List.sum_replicate_nat, String.length_toList, Nat.mul_one]
  rfl

theorem toDigits_length_mono {m n : ℕ} (le : m ≤ n) : (Nat.toDigits 10 m).length ≤ (Nat.toDigits 10 n).length := by
  rw [Nat.length_toDigits_le_iff (by decide) Nat.length_toDigits_pos]
  exact lt_of_le_of_lt le ((Nat.length_toDigits_le_iff (by decide) Nat.length_toDigits_pos).mp le_rfl)

/-- A cursor further on is no shorter. -/
theorem pageCursor_size_mono {m n : ℕ} (le : m ≤ n) :
    Json.textSize Json.spaced (pageCursor m) ≤ Json.textSize Json.spaced (pageCursor n) := by
  have digits := toDigits_length_mono le
  rw [pageCursor_size, pageCursor_size, length_pageCursor, length_pageCursor]
  omega

theorem pageCursor_size_ge (place : ℕ) : 14 ≤ Json.textSize Json.spaced (pageCursor place) := by
  rw [pageCursor_size, length_pageCursor]
  omega

theorem decodeCursor_pageCursor (place : ℕ) : decodeCursor (pageCursor place) = some ("offset:" ++ toString place) := by
  have ascii : (pageCursor place).toList.all (·.toNat < 128) = true := by
    rw [List.all_eq_true]
    intro c mem
    exact decide_eq_true (base64_plain c (mem_pageCursor mem)).2
  rw [decodeCursor, if_pos ascii, pageCursor, String.toList_ofList, Base64.decode_encode, Option.bind_some,
    Utf8.decode_encode, Option.map_some, String.ofList_toList]

theorem afterLast_append {separator : Char} (pre : String) {text : String} (inside : separator ∉ text.toList) :
    afterLast separator (pre ++ String.ofList [separator] ++ text) = text := by
  have plain : ∀ c ∈ text.toList.reverse, (c != separator) = true := by
    intro c mem
    rw [bne_iff_ne]
    rintro rfl
    exact inside (List.mem_reverse.mp mem)
  rw [afterLast, String.toList_append, String.toList_append, String.toList_ofList, List.reverse_append,
    List.reverse_append, List.takeWhile_append_of_pos plain]
  simp

/-- The place that a cursor was made for. -/
theorem startIdx_pageCursor (py : Platform) (place : ℕ) : startIdx py (some (pageCursor place)) = place := by
  have filled : pageCursor place ≠ "" := by
    intro blank
    have length := length_pageCursor place
    rw [blank, String.length_empty] at length
    omega
  have offset : hasPrefix "offset:" ("offset:" ++ toString place) = true := by
    simp [hasPrefix]
  have digits : ':' ∉ (toString place).toList := by
    intro mem
    rw [Nat.toString_eq_repr, Nat.toList_repr] at mem
    exact absurd (Nat.isDigit_of_mem_toDigits (by decide) (by decide) mem) (by decide)
  have last : afterLast ':' ("offset:" ++ toString place) = toString place := afterLast_append "offset" digits
  rw [startIdx, if_neg filled, decodeCursor_pageCursor]
  simp only [Option.bind_some, offset, if_true, last, py.int_repr, Option.getD_some, Int.toNat_natCast]

/-! ## What a page shows -/

/-- What a trim leaves of a decision. -/
def SlimDecision.ident (d : SlimDecision) : Json × String × String := (d.id, d.currentness, d.contentHash)

def Payload.idents (p : Payload) : List (Json × String × String) := p.decisions.map SlimDecision.ident

theorem bare_idents (p : Payload) : p.bare.idents = p.idents := by
  rw [Payload.idents, Payload.bare, List.map_map]
  rfl

section Pages

variable {request : SlimRequest}

/-- The decisions of a request, in order. -/
def SlimRequest.idents (request : SlimRequest) : List (Json × String × String) :=
  request.decisions.map fun card => (slimDecision card).ident

/-- The cursor of a page that ends at a place. -/
def SlimRequest.cursorAt (request : SlimRequest) (place : ℕ) : Option String :=
  if place < request.decisions.length then some (pageCursor place) else none

/-- A page fits, or its first decision does without all texts. -/
def SlimRequest.Keeps (request : SlimRequest) (start : ℕ) : Prop :=
  (request.page start).exceeds = false ∨ ((request.page start).lowest start).bare.exceeds = false

theorem SlimRequest.pageSize_pos (request : SlimRequest) : 1 ≤ request.pageSize := by
  unfold SlimRequest.pageSize
  omega

theorem page_idents (start : ℕ) :
    (request.page start).idents = (request.idents.drop start).take request.pageSize := by
  rw [Payload.idents, SlimRequest.page, SlimRequest.idents, List.map_map, List.map_take, List.map_drop]
  rfl

theorem page_length (request : SlimRequest) (start : ℕ) :
    (request.page start).decisions.length = min request.pageSize (request.decisions.length - start) := by
  rw [SlimRequest.page, List.length_map, List.length_take, List.length_drop]

theorem truncated_idents (start count : ℕ) (short : count ≤ request.pageSize) :
    ((request.page start).truncated start count).idents = (request.idents.drop start).take count := by
  have cut : ((request.page start).truncated start count).idents = (request.page start).idents.take count := by
    rw [Payload.idents, Payload.idents, Payload.truncated, List.map_take]
  rw [cut, page_idents, List.take_take, Nat.min_eq_left short]

/-- The smallest page shows decisions from its place on, and names the place behind them. -/
theorem lowest_advances (request : SlimRequest) (start : ℕ) :
    ∃ count, 1 ≤ count ∧ ((request.page start).lowest start).nextCursor = request.cursorAt (start + count) ∧
      ((request.page start).lowest start).idents = (request.idents.drop start).take count := by
  have lengths := page_length request start
  unfold Payload.lowest
  split
  · refine ⟨1, le_rfl, ?_, truncated_idents start 1 request.pageSize_pos⟩
    exact (if_pos (by omega)).symm
  · exact ⟨request.pageSize, request.pageSize_pos, rfl, page_idents start⟩

theorem nextCursor_of_bare {p q : Payload} (same : p.bare = q.bare) : p.nextCursor = q.nextCursor := by
  show p.bare.nextCursor = q.bare.nextCursor
  rw [same]

theorem idents_of_bare {p q : Payload} (same : p.bare = q.bare) : p.idents = q.idents := by
  rw [← bare_idents, same, bare_idents]

/-! ## Sizes of neighbouring pages -/

theorem place_le {m n : ℕ} (le : m ≤ n) :
    (Json.bool true).size Json.spaced + (Json.str (pageCursor m)).size Json.spaced ≤
      (Json.bool true).size Json.spaced + (Json.str (pageCursor n)).size Json.spaced := by
  simp only [Json.size]
  exact Nat.add_le_add_left (pageCursor_size_mono le) _

theorem last_place_le (n : ℕ) :
    (Json.bool false).size Json.spaced + Json.null.size Json.spaced ≤
      (Json.bool true).size Json.spaced + (Json.str (pageCursor n)).size Json.spaced := by
  have long := pageCursor_size_ge n
  simp only [Json.size, if_true, Bool.false_eq_true, if_false]
  omega

theorem truncated_within {start count count' : ℕ} (p : Payload) (le : count ≤ count') :
    (p.truncated start count).Within (p.truncated start count') where
  project := rfl
  decisions := sublistForall₂_of_sublist (List.take_sublist_take_left le)
  preferences := List.Sublist.refl _
  guardrails := List.Sublist.refl _
  gaps := List.Sublist.refl _
  place := place_le (by omega)
  recentContext := recent_rel_refl _

theorem fits_of_within {p q : Payload} (within : p.Within q) (fits : q.exceeds = false) : p.exceeds = false := by
  cases beyond : p.exceeds with
  | false => rfl
  | true =>
      rw [Payload.exceeds_of_within within beyond] at fits
      cases fits

/-- The smallest page is either the page of one decision in the middle, or the last one. -/
theorem lowest_place (request : SlimRequest) (start : ℕ) (inside : start < request.decisions.length) :
    (((request.page start).lowest start).hasMore = true ∧
        ((request.page start).lowest start).nextCursor = some (pageCursor (start + 1))) ∨
      ((request.page start).lowest start).hasMore = false ∧ ((request.page start).lowest start).nextCursor = none := by
  have lengths := page_length request start
  have positive := request.pageSize_pos
  unfold Payload.lowest
  split
  · exact .inl ⟨rfl, rfl⟩
  · by_cases more : start + request.pageSize < request.decisions.length
    · have single : request.pageSize = 1 := by omega
      rw [single] at more
      left
      simp [SlimRequest.page, single, more]
    · right
      simp [SlimRequest.page, more]

theorem lowest_decisions (request : SlimRequest) (start : ℕ) (inside : start < request.decisions.length) :
    ((request.page start).lowest start).decisions = [slimDecision request.decisions[start]] := by
  have positive := request.pageSize_pos
  have first : (request.page start).decisions.take 1 = [slimDecision request.decisions[start]] := by
    rw [SlimRequest.page, ← List.map_take, List.take_take, Nat.min_eq_left positive, List.drop_eq_getElem_cons inside]
    rfl
  unfold Payload.lowest
  split
  · exact first
  · next short => rw [← first, List.take_of_length_le (by omega)]

theorem lowest_frame (start : ℕ) (p : Payload) :
    p.lowest start =
      { p with
        decisions := (p.lowest start).decisions, hasMore := (p.lowest start).hasMore
        nextCursor := (p.lowest start).nextCursor } := by
  unfold Payload.lowest
  split <;> rfl

/-- A page in the middle of the decisions has room for the smallest page of each decision that it shows. -/
theorem lowest_within {request : SlimRequest} {start place : ℕ} (count n : ℕ) {q : Payload}
    (inside : place < request.decisions.length) (behind : place < n)
    (middle : q = { request.page start with decisions := q.decisions, hasMore := true, nextCursor := some (pageCursor n) })
    (shown : q.decisions = ((request.decisions.drop start).take count).map slimDecision) (from_start : start ≤ place)
    (before : place < start + count) : ((request.page place).lowest place).Within q where
  project := by
    rw [middle, lowest_frame]
    rfl
  decisions := by
    apply sublistForall₂_of_sublist
    rw [lowest_decisions request place inside, List.singleton_sublist, shown]
    apply List.mem_map_of_mem
    rw [List.mem_take_iff_getElem]
    refine ⟨place - start, ?_, ?_⟩
    · rw [List.length_drop]
      omega
    · rw [List.getElem_drop]
      simp only [Nat.add_sub_cancel' from_start]
  preferences := by
    rw [middle, lowest_frame]
    exact List.Sublist.refl _
  guardrails := by
    rw [middle, lowest_frame]
    exact List.Sublist.refl _
  gaps := by
    rw [middle, lowest_frame]
    exact List.Sublist.refl _
  place := by
    rw [middle]
    rcases lowest_place request place inside with ⟨more, cursor⟩ | ⟨last, cursor⟩
    · rw [more, cursor]
      exact place_le behind
    · rw [last, cursor]
      exact last_place_le n
  recentContext := by
    rw [middle, lowest_frame]
    exact recent_rel_refl _

/-! ## Answers in turn -/

variable {start : ℕ} {r : Payload}

/-- A page goes on behind the decisions it had from its place on, and shows those or none. -/
theorem Outcome.advances (outcome : Outcome start (request.page start) r) :
    ∃ count, 1 ≤ count ∧ r.nextCursor = request.cursorAt (start + count) ∧
      (request.Keeps start → r.idents = (request.idents.drop start).take count) ∧
      (¬ request.Keeps start → r.idents = []) := by
  have lengths := page_length request start
  obtain ⟨lowCount, lowPositive, lowCursor, lowShown⟩ := lowest_advances request start
  cases outcome with
  | whole fits =>
      refine ⟨request.pageSize, request.pageSize_pos, rfl, fun _ => page_idents start, fun lost => ?_⟩
      exact absurd (.inl fits) lost
  | several count big more short fits =>
      refine ⟨count, by omega, (if_pos (by omega)).symm, fun _ => truncated_idents start count (by omega), fun lost => ?_⟩
      have first : (request.page start).lowest start = (request.page start).truncated start 1 := if_pos (by omega)
      have room : ((request.page start).lowest start).exceeds = false := by
        rw [first]
        exact fits_of_within (truncated_within _ more.le) fits
      exact absurd (.inr (fits_of_within (Payload.bare_within _) room)) lost
  | one big fits kept =>
      refine ⟨lowCount, lowPositive, (nextCursor_of_bare kept).trans lowCursor, fun _ => ?_, fun lost => ?_⟩
      · rw [idents_of_bare kept, lowShown]
      · have room := fits_of_within (Payload.bare_within r) fits
        rw [kept] at room
        exact absurd (.inr room) lost
  | none big beyond =>
      refine ⟨lowCount, lowPositive, lowCursor, fun keeps => ?_, fun _ => rfl⟩
      rcases keeps with fits | room
      · rw [big] at fits
        cases fits
      · rw [beyond] at room
        cases room

/-- A page that shows decisions leaves room for a page at each of them. -/
theorem Outcome.keeps_shown (outcome : Outcome start (request.page start) r) (keeps : request.Keeps start) {place : ℕ}
    (inside : place < request.decisions.length) (from_start : start ≤ place) (shown : place < start + r.idents.length) :
    request.Keeps place := by
  have lengths := page_length request start
  rw [Payload.idents, List.length_map] at shown
  cases outcome with
  | whole fits =>
      by_cases more : start + request.pageSize < request.decisions.length
      · right
        apply fits_of_within (Payload.bare_within _)
        refine fits_of_within (lowest_within request.pageSize (start + request.pageSize) inside (by omega) ?_ rfl from_start ?_) fits
        · simp [SlimRequest.page, more]
        · omega
      · left
        refine fits_of_within ?_ fits
        refine ⟨rfl, ?_, List.Sublist.refl _, List.Sublist.refl _, List.Sublist.refl _, ?_, recent_rel_refl _⟩
        · apply sublistForall₂_of_sublist
          apply List.Sublist.map
          rw [List.take_of_length_le (by rw [List.length_drop]; omega),
            List.take_of_length_le (by rw [List.length_drop]; omega)]
          exact List.drop_sublist_drop_left _ from_start
        · have last : ¬ place + request.pageSize < request.decisions.length := by omega
          simp [SlimRequest.page, more, last]
  | several count big more short fits =>
      rw [Payload.truncated, List.length_take] at shown
      right
      apply fits_of_within (Payload.bare_within _)
      refine fits_of_within (lowest_within count (start + count) inside (by omega) rfl ?_ from_start ?_) fits
      · rw [Payload.truncated, SlimRequest.page, ← List.map_take, List.take_take, Nat.min_eq_left (by omega)]
      · omega
  | one big fits kept =>
      have single := congrArg (fun p : Payload => p.decisions.length) kept
      simp only [Payload.bare, List.length_map] at single
      have low := (request.page start).lowest_length start
      obtain rfl : place = start := by omega
      exact keeps
  | none big beyond => exact absurd shown (by simp [Payload.emptied]; omega)

end Pages

/-! ## Whole readings -/

section Reading

variable (py : Platform) (request : SlimRequest)

/-- The payloads from a place on, as many as are asked for at most. -/
def followSlim (n : ℕ) (place : Option String) : Except PyError (List Payload) :=
  follow (fun cursor => .ok (serializeSlim py request cursor)) (·.nextCursor) n place

/-- Following the cursor from the start ends, and has shown every decision once and in order. -/
def PagesCompletely : Prop :=
  ∃ n responses, followSlim py request n none = .ok responses ∧
    responses.getLast?.map (·.nextCursor) = some none ∧ responses.flatMap Payload.idents = request.idents

variable {py request}

theorem startIdx_of_cursorAt (py : Platform) {place : ℕ} {cursor : String} (named : request.cursorAt place = some cursor) :
    startIdx py (some cursor) = place ∧ place < request.decisions.length := by
  unfold SlimRequest.cursorAt at named
  split at named
  · next inside =>
      cases named
      exact ⟨startIdx_pageCursor py place, inside⟩
  · cases named

theorem idents_length (request : SlimRequest) : request.idents.length = request.decisions.length := by
  rw [SlimRequest.idents, List.length_map]

theorem followSlim_succ {n : ℕ} {place : Option String} {responses : List Payload}
    (followed : followSlim py request (n + 1) place = .ok responses) :
    ∃ others, responses = serializeSlim py request place :: others ∧
      ((serializeSlim py request place).nextCursor = none → others = []) ∧
      ∀ place', (serializeSlim py request place).nextCursor = some place' →
        followSlim py request n (some place') = .ok others := by
  have resolved : (fun cursor => (.ok (serializeSlim py request cursor) : Except PyError Payload)) place =
      .ok (serializeSlim py request place) := rfl
  exact follow_succ_eq_ok resolved followed

/-- From a place on, no more is shown than there is. -/
theorem shown_le {n : ℕ} {place : Option String} {responses : List Payload}
    (followed : followSlim py request n place = .ok responses) :
    (responses.flatMap Payload.idents).length ≤ request.decisions.length - startIdx py place := by
  induction n generalizing place responses with
  | zero =>
      cases followed
      exact Nat.zero_le _
  | succ n ih =>
      obtain ⟨others, rfl, last, more⟩ := followSlim_succ followed
      obtain ⟨count, -, cursor, kept, lost⟩ := (serializeSlim_outcome py request place).advances
      have here : (serializeSlim py request place).idents.length ≤
          min count (request.decisions.length - startIdx py place) := by
        by_cases keeps : request.Keeps (startIdx py place)
        · rw [kept keeps, List.length_take, List.length_drop, idents_length request]
        · rw [lost keeps]
          exact Nat.zero_le _
      rw [List.flatMap_cons, List.length_append]
      cases goesOn : (serializeSlim py request place).nextCursor with
      | none =>
          rw [last goesOn, List.flatMap_nil, List.length_nil]
          omega
      | some place' =>
          have behind := ih (more place' goesOn)
          rw [goesOn] at cursor
          obtain ⟨named, inside⟩ := startIdx_of_cursorAt py cursor.symm
          rw [named] at behind
          omega

/-- A reading that shows all decisions from a place on finds room for a page at each of them. -/
theorem keeps_of_shown {n : ℕ} {place : Option String} {responses : List Payload}
    (followed : followSlim py request n place = .ok responses)
    (all : responses.flatMap Payload.idents = request.idents.drop (startIdx py place)) {i : ℕ}
    (inside : i < request.decisions.length) (from_start : startIdx py place ≤ i) : request.Keeps i := by
  have count_all := idents_length request
  induction n generalizing place responses with
  | zero =>
      cases followed
      have none_left := congrArg List.length all
      rw [List.flatMap_nil, List.length_nil, List.length_drop] at none_left
      omega
  | succ n ih =>
      obtain ⟨others, rfl, last, more⟩ := followSlim_succ followed
      have outcome := serializeSlim_outcome py request place
      obtain ⟨count, positive, cursor, kept, lost⟩ := outcome.advances
      rw [List.flatMap_cons] at all
      have rest : (others.flatMap Payload.idents).length ≤ request.decisions.length - (startIdx py place + count) := by
        cases goesOn : (serializeSlim py request place).nextCursor with
        | none =>
            rw [last goesOn, List.flatMap_nil, List.length_nil]
            exact Nat.zero_le _
        | some place' =>
            rw [goesOn] at cursor
            obtain ⟨named, -⟩ := startIdx_of_cursorAt py cursor.symm
            have behind := shown_le (more place' goesOn)
            rwa [named] at behind
      have lengths := congrArg List.length all
      rw [List.length_append, List.length_drop, count_all] at lengths
      have keeps : request.Keeps (startIdx py place) := by
        by_contra skipped
        rw [lost skipped, List.length_nil] at lengths
        omega
      by_cases here : i < startIdx py place + (serializeSlim py request place).idents.length
      · exact outcome.keeps_shown keeps inside from_start here
      · have shown := kept keeps
        have taken : (serializeSlim py request place).idents.length =
            min count (request.decisions.length - startIdx py place) := by
          rw [shown, List.length_take, List.length_drop, count_all]
        cases goesOn : (serializeSlim py request place).nextCursor with
        | none =>
            rw [goesOn, SlimRequest.cursorAt] at cursor
            split at cursor
            · cases cursor
            · omega
        | some place' =>
            rw [goesOn] at cursor
            obtain ⟨named, -⟩ := startIdx_of_cursorAt py cursor.symm
            apply ih (more place' goesOn)
            · rw [shown] at all
              rw [named, ← List.drop_drop]
              exact List.append_cancel_left (all.trans (List.take_append_drop count _).symm)
            · omega

/-- Where every decision leaves room for a page, following the cursor shows them all. -/
theorem pagesCompletely_of_keeps (keeps : ∀ i < request.decisions.length, request.Keeps i) :
    PagesCompletely py request := by
  have answers : ∀ place, Reached (fun cursor => Except.ok (ε := PyError) (serializeSlim py request cursor))
      (·.nextCursor) place →
      ∃ answer, Except.ok (ε := PyError) (serializeSlim py request place) = .ok answer ∧
        answer.idents ++ (answer.nextCursor.elim [] fun place' => request.idents.drop (startIdx py (some place'))) =
          request.idents.drop (startIdx py place) ∧ (answer.nextCursor ≠ none → answer.idents ≠ []) := by
    intro place _
    refine ⟨_, rfl, ?_⟩
    obtain ⟨count, positive, cursor, kept, lost⟩ := (serializeSlim_outcome py request place).advances
    have shown : (serializeSlim py request place).idents = (request.idents.drop (startIdx py place)).take count := by
      by_cases inside : startIdx py place < request.decisions.length
      · exact kept (keeps _ inside)
      · have ended : request.idents.drop (startIdx py place) = [] := by
          rw [List.drop_eq_nil_iff, idents_length request]
          omega
        rw [ended, List.take_nil]
        by_cases room : request.Keeps (startIdx py place)
        · rw [kept room, ended, List.take_nil]
        · exact lost room
    rw [shown, cursor]
    unfold SlimRequest.cursorAt
    split
    · next inside =>
        constructor
        · rw [Option.elim_some, startIdx_pageCursor, ← List.drop_drop, List.take_append_drop]
        · intro _ blank
          have lengths := congrArg List.length blank
          rw [List.length_take, List.length_drop, idents_length request, List.length_nil] at lengths
          omega
    · next behind =>
        constructor
        · rw [Option.elim_none, List.append_nil, List.take_of_length_le]
          rw [List.length_drop, idents_length request]
          omega
        · exact fun named => absurd rfl named
  have enough : (request.idents.drop (startIdx py none)).length < request.decisions.length + 1 := by
    rw [List.length_drop, idents_length request]
    omega
  obtain ⟨responses, followed, all, ended⟩ := follow_eq Payload.idents (fun place => request.idents.drop (startIdx py place))
    answers .start enough
  exact ⟨_, responses, followed, ended, all⟩

theorem pagesCompletely_iff : PagesCompletely py request ↔ ∀ i < request.decisions.length, request.Keeps i := by
  constructor
  · rintro ⟨n, responses, followed, -, all⟩ i inside
    exact keeps_of_shown followed all inside (Nat.zero_le i)
  · exact pagesCompletely_of_keeps

/-! ## The limit -/

theorem Outcome.fits_iff {start : ℕ} {p r : Payload} (outcome : Outcome start p r) :
    r.exceeds = false ↔ p.exceeds = false ∨ (p.lowest start).emptied.exceeds = false := by
  cases outcome with
  | whole fits => simp [fits]
  | several count big more short fits =>
      have first : p.lowest start = p.truncated start 1 := if_pos (by omega)
      have room : (p.lowest start).emptied.exceeds = false := by
        apply fits_of_within (Payload.emptied_within _)
        apply fits_of_within (Payload.bare_within _)
        rw [first]
        exact fits_of_within (truncated_within p more.le) fits
      simp [fits, room]
  | one big fits kept =>
      have room : (p.lowest start).emptied.exceeds = false := by
        apply fits_of_within (Payload.emptied_within _)
        rw [← kept]
        exact fits_of_within (Payload.bare_within r) fits
      simp [fits, room]
  | none big beyond => simp [big]

theorem exceeds_eq_false {p : Payload} : p.exceeds = false ↔ p.calcBytes ≤ limitBytes := by
  rw [Payload.exceeds, decide_eq_false_iff_not, not_lt]

end Reading

/-- A payload is within the limit exactly when its page was, or is with all lists and texts empty and the cursor
    behind one decision. Following the cursor shows every decision once and in order exactly when at each one
    the page from there on fits, or the page of that decision alone does without texts. -/
theorem slim_pages_iff (py : Platform) (request : SlimRequest) :
    (∀ cursor, (serializeSlim py request cursor).calcBytes ≤ limitBytes ↔
      (request.page (startIdx py cursor)).calcBytes ≤ limitBytes ∨
        ((request.page (startIdx py cursor)).lowest (startIdx py cursor)).emptied.calcBytes ≤ limitBytes) ∧
      (PagesCompletely py request ↔ ∀ i < request.decisions.length,
        (request.page i).calcBytes ≤ limitBytes ∨ ((request.page i).lowest i).bare.calcBytes ≤ limitBytes) := by
  simp only [← exceeds_eq_false]
  exact ⟨fun cursor => (serializeSlim_outcome py request cursor).fits_iff, pagesCompletely_iff⟩

/-! ## A decision with a long hash -/

section LongHash

theorem length_le_textSize (text : String) : text.length ≤ Json.textSize Json.spaced text := by
  have each (chars : List Char) : chars.length ≤ (chars.map Json.spaced.char).sum := by
    induction chars with
    | nil => exact le_rfl
    | cons c rest ih =>
        have filled : 0 < Json.charBytes c := by
          unfold Json.charBytes Json.escaped
          have bytes := c.utf8Size_pos
          split_ifs <;> simp [bytes, Char.utf8Size_pos]
        rw [List.length_cons, List.map_cons, List.sum_cons]
        show rest.length + 1 ≤ Json.charBytes c + _
        omega
  have long := each text.toList
  rw [String.length_toList] at long
  rw [Json.textSize]
  omega

/-- A payload is at least as large as each hash that it shows. -/
theorem contentHash_le_calcBytes {p : Payload} {d : SlimDecision} (shown : d ∈ p.decisions) :
    d.contentHash.length ≤ p.calcBytes := by
  have hash := length_le_textSize d.contentHash
  have inner : Json.textSize Json.spaced d.contentHash ≤ d.json.size Json.spaced := by
    simp only [SlimDecision.json, Json.size, Json.fieldsSize]
    omega
  have listed : d.json.size Json.spaced ≤ ((p.decisions.map SlimDecision.json).map (Json.size Json.spaced)).sum := by
    exact List.single_le_sum (fun _ _ => Nat.zero_le _) _ (List.mem_map_of_mem (List.mem_map_of_mem shown))
  have decisions := Json.itemsSize_eq (w := Json.spaced) (p.decisions.map SlimDecision.json)
  unfold Payload.calcBytes Payload.json
  simp only [Json.size, List.cons_append, Json.fieldsSize, decisions]
  omega

/-- A decision card with a title and a hash. -/
def hashedCard (id title hash : String) : SlimCard where
  fields := Doc.ofFields [(.memoryId, .str id), (.title, .str title), (.contentHash, .str hash)]
  mapped v read := by
    simp [Doc.value?, Doc.ofFields, Doc.get?_set] at read

/-- Two decisions, the first under a given hash. -/
def hashedRequest (hash : String) : SlimRequest where
  project := "neurons"
  decisions := [hashedCard "mem_1" "Keep the outbox" hash, hashedCard "mem_2" "Split the queue" "sha256:0b5c"]
  preferences := []
  guardrails := []
  recentContext := none
  gaps := none
  limit := 5

theorem hashedRequest_skips {hash : String} (long : limitBytes < hash.length) (py : Platform) :
    ¬ PagesCompletely py (hashedRequest hash) := by
  have filled : hash ≠ "" := by
    rintro rfl
    cases long
  have shownHash : (slimDecision (hashedCard "mem_1" "Keep the outbox" hash)).contentHash = hash := by
    simp [slimDecision, hashedCard, firstTruthy, Doc.ofFields, Doc.get?_set, Option.filter, Json.truthy, filled, Json.text]
  rw [pagesCompletely_iff]
  intro keeps
  rcases keeps 0 (by simp [hashedRequest]) with fits | room
  · have large := contentHash_le_calcBytes (p := (hashedRequest hash).page 0)
      (d := slimDecision (hashedCard "mem_1" "Keep the outbox" hash)) (List.mem_cons_self)
    rw [shownHash] at large
    rw [exceeds_eq_false] at fits
    omega
  · have large := contentHash_le_calcBytes (p := (((hashedRequest hash).page 0).lowest 0).bare)
      (d := (slimDecision (hashedCard "mem_1" "Keep the outbox" hash)).bare) (List.mem_cons_self)
    rw [SlimDecision.bare, shownHash] at large
    rw [exceeds_eq_false] at room
    omega

theorem hashedRequest_emptied (hash : String) :
    ((hashedRequest hash).page 0).emptied = ((hashedRequest "").page 0).emptied := rfl

def longHash (length : ℕ) : String := String.ofList (List.replicate length 'f')

theorem longHash_length (length : ℕ) : (longHash length).length = length := by
  rw [longHash, String.length_ofList, List.length_replicate]

/-- The empty payload fits, but the page of the decision with the long hash shows no decision and names the
    place behind it. -/
theorem long_hash_skipped : ((hashedRequest (longHash 3073)).page 0).emptied.calcBytes ≤ limitBytes ∧
    ¬ PagesCompletely referencePlatform (hashedRequest (longHash 3073)) := by
  constructor
  · have fits : ((hashedRequest "").page 0).emptied.calcBytes ≤ limitBytes := by decide +kernel
    exact (congrArg Payload.calcBytes (hashedRequest_emptied _)).trans_le fits
  · apply hashedRequest_skips
    rw [longHash_length]
    decide

end LongHash

end Neurons.Steward.SlimSerializer
