import Mathlib.Data.List.Infix
import Neurons.Lib.Sorting

/-! # Pages of a listing

A listing is read page by page: each answer shows some items and may name a place to go on
from. Where the place is the key of the last item shown, what a page must show is fixed: all
items up to that key that have not been shown, and no other. Where it is the number of items
shown so far, the items must come in order.
-/

namespace Neurons.Lib

/-! ## Following a cursor -/

section Follow

variable {ε ρ γ β : Type} (resolve : Option γ → Except ε ρ) (next : ρ → Option γ)

/-- The answers from a place on, as many as are asked for at most. -/
def follow : ℕ → Option γ → Except ε (List ρ)
  | 0, _ => .ok []
  | n + 1, place => do
      let answer ← resolve place
      match next answer with
      | none => return [answer]
      | some place => return answer :: (← follow n (some place))

/-- The places a reader comes to who starts without one. -/
inductive Reached : Option γ → Prop
  | start : Reached none
  | next {place : Option γ} {answer : ρ} {place' : γ} (reached : Reached place)
      (answers : resolve place = .ok answer) (goesOn : next answer = some place') : Reached (some place')

variable {resolve next}

theorem follow_last {n : ℕ} {place : Option γ} {answer : ρ} (resolved : resolve place = .ok answer)
    (ended : next answer = none) : follow resolve next (n + 1) place = .ok [answer] := by
  simp only [follow, resolved, bind, Except.bind]
  rw [ended]
  rfl

theorem follow_more {n : ℕ} {place : Option γ} {answer : ρ} {place' : γ} {answers : List ρ}
    (resolved : resolve place = .ok answer) (goesOn : next answer = some place')
    (followed : follow resolve next n (some place') = .ok answers) :
    follow resolve next (n + 1) place = .ok (answer :: answers) := by
  simp only [follow, resolved, bind, Except.bind]
  rw [goesOn]
  simp only [followed]
  rfl

theorem follow_cons {n : ℕ} {place : Option γ} {answer : ρ} {answers : List ρ}
    (followed : follow resolve next n place = .ok (answer :: answers)) :
    ∃ m, n = m + 1 ∧ resolve place = .ok answer ∧
      ∀ place', next answer = some place' → follow resolve next m (some place') = .ok answers := by
  cases n with
  | zero => cases followed
  | succ m =>
      simp only [follow, bind, Except.bind] at followed
      cases resolved : resolve place with
      | error e => simp [resolved] at followed
      | ok first =>
          rw [resolved] at followed
          cases goesOn : next first with
          | none =>
              simp only [goesOn] at followed
              cases followed
              exact ⟨m, rfl, rfl, fun place' named => by simp [goesOn] at named⟩
          | some place' =>
              simp only [goesOn] at followed
              cases others : follow resolve next m (some place') with
              | error e => simp [others] at followed
              | ok rest =>
                  rw [others] at followed
                  cases followed
                  refine ⟨m, rfl, rfl, fun place'' named => ?_⟩
                  rw [goesOn] at named
                  cases named
                  exact others

/-- The answers from a place on are the one there and, where it names a next place, those from that place on. -/
theorem follow_succ_eq_ok {n : ℕ} {place : Option γ} {answer : ρ} {answers : List ρ}
    (resolved : resolve place = .ok answer) (followed : follow resolve next (n + 1) place = .ok answers) :
    ∃ others, answers = answer :: others ∧ (next answer = none → others = []) ∧
      ∀ place', next answer = some place' → follow resolve next n (some place') = .ok others := by
  cases goesOn : next answer with
  | none =>
      rw [follow_last resolved goesOn] at followed
      cases followed
      exact ⟨[], rfl, fun _ => rfl, nofun⟩
  | some place' =>
      simp only [follow, resolved, bind, Except.bind, goesOn] at followed
      cases others : follow resolve next n (some place') with
      | error e => simp [others] at followed
      | ok rest =>
          rw [others] at followed
          cases followed
          refine ⟨rest, rfl, nofun, fun place'' named => ?_⟩
          cases named
          exact others

/-- Answers that each show a part of what is left, and leave the rest to the next, show it all,
    in a sense of "all" that lets a part be put in front. -/
theorem follow_related {R : List β → List β → Prop} (sized : ∀ {l l'}, R l l' → l.length = l'.length)
    (chain : ∀ {l l' l''}, R l l' → R l' l'' → R l l'') (behind : ∀ front {l l'}, R l l' → R (front ++ l) (front ++ l'))
    (shown : ρ → List β) (rest : Option γ → List β)
    (answers : ∀ place, Reached resolve next place → ∃ answer, resolve place = .ok answer ∧
      R (shown answer ++ (next answer).elim [] fun place' => rest (some place')) (rest place) ∧
      (next answer ≠ none → shown answer ≠ []))
    {place : Option γ} (reached : Reached resolve next place) {n : ℕ} (enough : (rest place).length < n) :
    ∃ responses, follow resolve next n place = .ok responses ∧ R (responses.flatMap shown) (rest place) ∧
      responses.getLast?.map next = some none := by
  induction n generalizing place with
  | zero => omega
  | succ n ih =>
      obtain ⟨answer, resolved, split, progress⟩ := answers place reached
      cases goesOn : next answer with
      | none =>
          rw [goesOn] at split
          exact ⟨[answer], follow_last resolved goesOn, by simpa using split, by simp [goesOn]⟩
      | some place' =>
          rw [goesOn] at split progress
          have shorter : (rest (some place')).length < n := by
            have lengths := sized split
            have visible := List.length_pos_iff.mpr (progress (by simp))
            simp only [Option.elim_some, List.length_append] at lengths
            omega
          obtain ⟨responses, followed, all, ended⟩ := ih (.next reached resolved goesOn) shorter
          refine ⟨answer :: responses, follow_more resolved goesOn followed, ?_, ?_⟩
          · rw [List.flatMap_cons]
            exact chain (behind _ all) split
          · cases responses with
            | nil => simp at ended
            | cons first others => simpa using ended

theorem follow_perm (shown : ρ → List β) (rest : Option γ → List β)
    (answers : ∀ place, Reached resolve next place → ∃ answer, resolve place = .ok answer ∧
      (shown answer ++ (next answer).elim [] fun place' => rest (some place')).Perm (rest place) ∧
      (next answer ≠ none → shown answer ≠ []))
    {place : Option γ} (reached : Reached resolve next place) {n : ℕ} (enough : (rest place).length < n) :
    ∃ responses, follow resolve next n place = .ok responses ∧ (responses.flatMap shown).Perm (rest place) ∧
      responses.getLast?.map next = some none :=
  follow_related List.Perm.length_eq List.Perm.trans (fun front _ _ perm => perm.append_left front) shown rest
    answers reached enough

theorem follow_eq (shown : ρ → List β) (rest : Option γ → List β)
    (answers : ∀ place, Reached resolve next place → ∃ answer, resolve place = .ok answer ∧
      (shown answer ++ (next answer).elim [] fun place' => rest (some place')) = rest place ∧
      (next answer ≠ none → shown answer ≠ []))
    {place : Option γ} (reached : Reached resolve next place) {n : ℕ} (enough : (rest place).length < n) :
    ∃ responses, follow resolve next n place = .ok responses ∧ responses.flatMap shown = rest place ∧
      responses.getLast?.map next = some none :=
  follow_related (congrArg List.length) Eq.trans (fun front _ _ same => congrArg (front ++ ·) same) shown rest
    answers reached enough

/-- Each answer was given at a place the reader came to. -/
theorem mem_follow {n : ℕ} {place : Option γ} {responses : List ρ} (reached : Reached resolve next place)
    (followed : follow resolve next n place = .ok responses) {answer : ρ} (mem : answer ∈ responses) :
    ∃ place', Reached resolve next place' ∧ resolve place' = .ok answer := by
  induction responses generalizing n place with
  | nil => cases mem
  | cons first others ih =>
      obtain ⟨m, -, resolved, more⟩ := follow_cons followed
      rcases List.mem_cons.mp mem with rfl | later
      · exact ⟨place, reached, resolved⟩
      · cases goesOn : next first with
        | some place' => exact ih (.next reached resolved goesOn) (more place' goesOn) later
        | none =>
            cases n with
            | zero => cases followed
            | succ n =>
                rw [follow_last resolved goesOn] at followed
                cases followed
                cases later

/-- Where all was shown in order and the answers lead on by what they show, all was shown in order
    from each place that the reader came to. -/
theorem Reached.shows (shown : ρ → List β) (rest : Option γ → List β)
    (leads : ∀ place answer place', Reached resolve next place → resolve place = .ok answer →
      next answer = some place' → rest (some place') = (rest place).drop (shown answer).length)
    {n : ℕ} {all : List ρ} (followed : follow resolve next n none = .ok all) (whole : all.flatMap shown = rest none)
    (ended : all.getLast?.map next = some none) {place : Option γ} (reached : Reached resolve next place) :
    ∃ answer others, answer :: others <:+ all ∧ resolve place = .ok answer ∧
      (answer :: others).flatMap shown = rest place := by
  have known : ∃ n responses, follow resolve next n place = .ok responses ∧ responses <:+ all ∧
      responses.flatMap shown = rest place ∧ responses.getLast?.map next = some none := by
    induction reached with
    | start => exact ⟨n, all, followed, List.suffix_rfl, whole, ended⟩
    | @next place answer place' reached resolved goesOn ih =>
        obtain ⟨n, responses, followed, part, whole, ended⟩ := ih
        cases responses with
        | nil => simp at ended
        | cons first others =>
            obtain ⟨m, -, resolved', more⟩ := follow_cons followed
            cases resolved.symm.trans resolved'
            refine ⟨m, others, more place' goesOn, (List.suffix_cons _ _).trans part, ?_, ?_⟩
            · rw [leads place _ place' reached resolved goesOn, ← whole, List.flatMap_cons, List.drop_left]
            · cases others with
              | nil => simp [goesOn] at ended
              | cons second later => simpa using ended
  obtain ⟨n, responses, followed, part, whole, ended⟩ := known
  cases responses with
  | nil => simp at ended
  | cons answer others =>
      obtain ⟨m, -, resolved, -⟩ := follow_cons followed
      exact ⟨answer, others, part, resolved, whole⟩

end Follow

/-! ## Demotion -/

section Demote

variable {α : Type} (flag : α → Bool)

/-- The flagged items last, in the order they had otherwise. -/
def demote (l : List α) : List α := sortOn (fun a => if flag a then 1 else 0) l

theorem demote_eq (l : List α) : demote flag l = l.filter (!flag ·) ++ l.filter flag := by
  induction l with
  | nil => rfl
  | cons a rest ih =>
      have step : demote flag (a :: rest) = List.orderedInsert
          (fun a b => (if flag a then 1 else 0) ≤ if flag b then 1 else 0) a (demote flag rest) := rfl
      rw [step, ih]
      cases marked : flag a with
      | false =>
          cases shape : rest.filter (!flag ·) ++ rest.filter flag with
          | nil => simp [marked, shape]
          | cons b others =>
              rw [List.orderedInsert, if_pos (by simp [marked])]
              simp [marked, ← shape]
      | true =>
          have pass (unflagged : List α) (none : ∀ b ∈ unflagged, flag b = false) :
              List.orderedInsert (fun a b => (if flag a then 1 else 0) ≤ if flag b then 1 else 0) a
                (unflagged ++ rest.filter flag) = unflagged ++ a :: rest.filter flag := by
            induction unflagged with
            | nil =>
                cases shape : rest.filter flag with
                | nil => rfl
                | cons b others =>
                    have last : flag b := List.of_mem_filter (shape ▸ List.mem_cons_self : b ∈ rest.filter flag)
                    simp [marked, last]
            | cons b others ih =>
                rw [List.forall_mem_cons] at none
                rw [List.cons_append, List.orderedInsert, if_neg (by simp [marked, none.1]), ih none.2]
                rfl
          rw [pass _ fun b mem => by simpa using List.of_mem_filter mem]
          simp [marked]

theorem demote_perm (l : List α) : (demote flag l).Perm l := sortOn_perm _ l

end Demote

/-! ## Pages of a keyset listing -/

section Keyset

variable {α κ : Type} [LinearOrder κ] (key : α → κ) (flag : α → Bool)

/-- What comes after an item of a strictly sorted list is what a keyset read from it on finds. -/
theorem filter_after {l : List α} (sorted : l.Pairwise fun a b => key a < key b) {i : ℕ} (inside : i < l.length) :
    l.filter (fun a => key l[i] < key a) = l.drop (i + 1) := by
  have before : ∀ a ∈ l.take (i + 1), ¬ key l[i] < key a := by
    intro a mem
    obtain ⟨j, short, rfl⟩ := List.mem_iff_getElem.mp mem
    rw [List.length_take] at short
    rw [List.getElem_take, not_lt]
    rcases Nat.lt_or_eq_of_le (show j ≤ i by omega) with earlier | rfl
    · exact (List.pairwise_iff_getElem.mp sorted j i (by omega) inside earlier).le
    · exact le_rfl
  have behind : ∀ a ∈ l.drop (i + 1), key l[i] < key a := by
    intro a mem
    obtain ⟨j, short, rfl⟩ := List.mem_iff_getElem.mp mem
    rw [List.length_drop] at short
    rw [List.getElem_drop]
    exact List.pairwise_iff_getElem.mp sorted i (i + 1 + j) inside (by omega) (by omega)
  calc l.filter (fun a => key l[i] < key a)
      = (l.take (i + 1) ++ l.drop (i + 1)).filter (fun a => key l[i] < key a) := by rw [List.take_append_drop]
    _ = l.drop (i + 1) := by
        rw [List.filter_append, List.filter_eq_nil_iff.mpr (by simpa using before),
          List.filter_eq_self.mpr (by simpa using behind), List.nil_append]

/-- The first items of a page are unflagged, or its flagged items are the ones it would show anyway. -/
def KeepsOrder (l : List α) (count : ℕ) : Prop :=
  (∀ a ∈ l.take count, flag a = false) ∨ ∀ a ∈ l.drop (count - 1), flag a = true

instance (l : List α) (count : ℕ) : Decidable (KeepsOrder flag l count) := by
  unfold KeepsOrder
  infer_instance

variable {flag}

/-- A page in key order shows the first items, and the last of them last. -/
theorem KeepsOrder.page {l : List α} {count : ℕ} (kept : KeepsOrder flag l count) (shows : 1 ≤ count)
    (bounded : count ≤ l.length) :
    ((demote flag l).take count).Perm (l.take count) ∧
      ((demote flag l).take count).getLast? = l[count - 1]? := by
  rw [demote_eq]
  rcases kept with unflagged | flagged
  · have front : l.filter (!flag ·) = l.take count ++ (l.drop count).filter (!flag ·) := by
      conv_lhs => rw [← List.take_append_drop count l]
      rw [List.filter_append, List.filter_eq_self.mpr fun a mem => by simp [unflagged a mem]]
    have same : (l.filter (!flag ·) ++ l.filter flag).take count = l.take count := by
      rw [front, List.append_assoc, List.take_left' (by rw [List.length_take]; omega)]
    rw [same]
    refine ⟨.refl _, ?_⟩
    rw [List.getLast?_take, if_neg (by omega), List.getElem?_eq_getElem (by omega)]
    rfl
  · have cut : l = l.take (count - 1) ++ l.drop (count - 1) := (List.take_append_drop _ _).symm
    have last : l.drop (count - 1) = l[count - 1] :: l.drop count := by
      rw [List.drop_eq_getElem_cons (by omega), Nat.sub_add_cancel shows]
    have shape : l.filter (!flag ·) ++ l.filter flag =
        ((l.take (count - 1)).filter (!flag ·) ++ (l.take (count - 1)).filter flag) ++
          l[count - 1] :: l.drop count := by
      have unflagged : (l.drop (count - 1)).filter (!flag ·) = [] :=
        List.filter_eq_nil_iff.mpr fun a mem => by simp [flagged a mem]
      conv_lhs => rw [cut]
      rw [List.filter_append, List.filter_append, unflagged, List.filter_eq_self.mpr flagged, List.append_nil, last,
        List.append_assoc]
    have all : ((l.take (count - 1)).filter (!flag ·) ++ (l.take (count - 1)).filter flag).Perm
        (l.take (count - 1)) := by
      rw [← demote_eq]
      exact demote_perm flag _
    have size : ((l.take (count - 1)).filter (!flag ·) ++ (l.take (count - 1)).filter flag).length =
        count - 1 := by
      rw [all.length_eq, List.length_take]
      omega
    have page : (l.filter (!flag ·) ++ l.filter flag).take count =
        ((l.take (count - 1)).filter (!flag ·) ++ (l.take (count - 1)).filter flag) ++ [l[count - 1]] := by
      rw [shape, List.take_append, size, List.take_of_length_le (by omega),
        show count - (count - 1) = 1 by omega]
      rfl
    have prefixed : l.take count = l.take (count - 1) ++ [l[count - 1]] := by
      have added := List.take_append_getElem (by omega : count - 1 < l.length)
      rw [Nat.sub_add_cancel shows] at added
      exact added.symm
    rw [page, prefixed]
    refine ⟨all.append_right _, ?_⟩
    rw [List.getLast?_concat, List.getElem?_eq_getElem (by omega)]

/-- A page that shows the first items ends at the last of them only where it keeps the order. -/
theorem KeepsOrder.of_page {l : List α} {count : ℕ} (distinct : l.Nodup) (shows : 1 ≤ count)
    (bounded : count ≤ l.length) (first : ((demote flag l).take count).Perm (l.take count))
    (last : ((demote flag l).take count).getLast? = l[count - 1]?) : KeepsOrder flag l count := by
  rw [demote_eq] at first last
  rw [List.getElem?_eq_getElem (by omega)] at last
  by_cases early : count ≤ (l.filter (!flag ·)).length
  · left
    rw [List.take_append_of_le_length early] at first
    intro a mem
    simpa using List.of_mem_filter (List.mem_of_mem_take (first.mem_iff.mpr mem))
  · right
    have all : ∀ a ∈ l, flag a = false → a ∈ l.take count := by
      intro a mem unflagged
      apply first.mem_iff.mp
      rw [List.take_append, List.take_of_length_le (by omega)]
      exact List.mem_append_left _ (List.mem_filter.mpr ⟨mem, by simp [unflagged]⟩)
    have ends : flag l[count - 1] = true := by
      rw [List.take_append, List.take_of_length_le (by omega), List.getLast?_append] at last
      have tail : (l.filter flag).take (count - (l.filter (!flag ·)).length) ≠ [] := by
        intro empty
        have size := congrArg List.length empty
        have total : (l.filter (!flag ·)).length + (l.filter flag).length = l.length := by
          have same := (demote_perm flag l).length_eq
          rwa [demote_eq, List.length_append] at same
        rw [List.length_take, List.length_nil] at size
        omega
      rw [List.getLast?_eq_some_getLast tail, Option.some_or] at last
      have mem := List.getLast_mem tail
      rw [Option.some.inj last] at mem
      exact List.of_mem_filter (List.mem_of_mem_take mem)
    rw [List.drop_eq_getElem_cons (by omega), Nat.sub_add_cancel shows, List.forall_mem_cons]
    refine ⟨ends, fun a mem => ?_⟩
    by_contra unflagged
    have apart := (List.nodup_append.mp ((List.take_append_drop count l).symm ▸ distinct)).2.2
    exact apart a (all a (List.mem_of_mem_drop mem) (by simpa using unflagged)) a mem rfl

/-- A page leaves exactly the items it does not show to a keyset read from its last item on
    where it keeps the order of the items it was cut from. -/
theorem page_leaves_rest {l others : List α} (sorted : (l ++ others).Pairwise fun a b => key a < key b) {count : ℕ}
    (shows : 1 ≤ count) (bounded : count ≤ l.length) {last : α}
    (ends : ((demote flag l).take count).getLast? = some last) :
    ((demote flag l).take count ++ (l ++ others).filter (fun a => key last < key a)).Perm (l ++ others) ↔
      KeepsOrder flag l count := by
  have distinct : (l ++ others).Nodup := sorted.imp fun before same => (same ▸ before).false
  have member : last ∈ l := (demote_perm flag l).mem_iff.mp (List.mem_of_mem_take (List.mem_of_getLast? ends))
  obtain ⟨i, inside, place⟩ := List.mem_iff_getElem.mp member
  have behind : (l ++ others).filter (fun a => key last < key a) = l.drop (i + 1) ++ others := by
    have after := filter_after key sorted (i := i) (by rw [List.length_append]; omega)
    rw [List.getElem_append_left inside, place] at after
    rw [after, List.drop_append_of_le_length (by omega)]
  have whole : l ++ others = l.take (i + 1) ++ (l.drop (i + 1) ++ others) := by
    rw [← List.append_assoc, List.take_append_drop]
  rw [behind]
  conv_lhs => rw [whole]
  rw [List.perm_append_right_iff]
  constructor
  · intro first
    have size := first.length_eq
    rw [List.length_take, List.length_take, (demote_perm flag l).length_eq] at size
    have same : i + 1 = count := by omega
    subst same
    refine .of_page (List.nodup_append.mp distinct).1 shows bounded first ?_
    rw [ends, Nat.add_sub_cancel, List.getElem?_eq_getElem inside, place]
  · intro kept
    obtain ⟨first, last'⟩ := kept.page shows bounded
    rw [ends, List.getElem?_eq_getElem (by omega), Option.some_inj, ← place,
      ((List.nodup_append.mp distinct).1).getElem_inj_iff] at last'
    have same : i + 1 = count := by omega
    rwa [same]

end Keyset

end Neurons.Lib
