import Neurons.Lib.Program

/-! # What a client has been told

A program that has come to an end was led there by the replies to its own calls, and each of these
was given in a state of the run.
-/

namespace Neurons.Lib

namespace Prog

variable {Call : Type → Type} {ε α β : Type}

/-- Replies that its calls may be given lead the program to the result. -/
def Leads (gives : {β : Type} → Call β → β → Prop) : Prog Call ε α → Except ε α → Prop
  | .done value, result => result = .ok value
  | .fail error, result => result = .error error
  | .call c k, result => ∃ reply, gives c reply ∧ (k reply).Leads gives result

variable {gives : {β : Type} → Call β → β → Prop} {p : Prog Call ε α} {result : Except ε α}

theorem leads_request {c : Call α} {a : α} :
    (Prog.request c : Prog Call ε α).Leads gives (.ok a) ↔ gives c a := by
  constructor
  · rintro ⟨reply, given, same⟩
    cases same
    exact given
  · intro given
    exact ⟨a, given, rfl⟩

/-- What a sequence ends with, its second part ends with after a value of the first. -/
theorem Leads.bind {f : α → Prog Call ε β} {b : β} (leads : (p.bind f).Leads gives (.ok b)) :
    ∃ a, p.Leads gives (.ok a) ∧ (f a).Leads gives (.ok b) := by
  induction p with
  | done a => exact ⟨a, rfl, leads⟩
  | fail e => cases leads
  | call c k ih =>
      obtain ⟨reply, given, rest⟩ := leads
      obtain ⟨a, first, last⟩ := ih reply rest
      exact ⟨a, ⟨reply, given, first⟩, last⟩

theorem Leads.request_bind {c : Call α} {f : α → Prog Call ε β} {b : β}
    (leads : ((Prog.request c).bind f).Leads gives (.ok b)) :
    ∃ a, gives c a ∧ (f a).Leads gives (.ok b) := by
  obtain ⟨a, first, last⟩ := leads.bind
  exact ⟨a, leads_request.mp first, last⟩

theorem Leads.mono {gives' : {β : Type} → Call β → β → Prop} (leads : p.Leads gives result)
    (imp : ∀ {β : Type} (c : Call β) (reply : β), gives c reply → gives' c reply) : p.Leads gives' result := by
  induction p with
  | done | fail => exact leads
  | call c k ih =>
      obtain ⟨reply, given, rest⟩ := leads
      exact ⟨reply, imp c reply given, ih reply rest⟩

/-- A program whose calls are seen as calls of a larger interface is led by the same replies. -/
theorem leads_lift {Call' : Type → Type} {embed : {β : Type} → Call β → Call' β}
    {gives' : {β : Type} → Call' β → β → Prop} :
    (p.lift embed).Leads gives' result ↔ p.Leads (fun c reply => gives' (embed c) reply) result := by
  induction p with
  | done | fail => rfl
  | call c k ih =>
      constructor
      · rintro ⟨reply, given, rest⟩
        exact ⟨reply, given, (ih reply).mp rest⟩
      · rintro ⟨reply, given, rest⟩
        exact ⟨reply, given, (ih reply).mpr rest⟩

/-- At most `n` calls of the kind are made, whatever the replies. -/
def AtMost (kind : {β : Type} → Call β → Bool) : Nat → Prog Call ε α → Prop
  | _, .done _ | _, .fail _ => True
  | n, .call c k => (kind c).toNat ≤ n ∧ ∀ reply, (k reply).AtMost kind (n - (kind c).toNat)

section AtMost

variable {kind : {β : Type} → Call β → Bool} {m n : Nat}

theorem AtMost.mono (most : p.AtMost kind m) (le : m ≤ n) : p.AtMost kind n := by
  induction p generalizing m n with
  | done | fail => trivial
  | call c k ih => exact ⟨Nat.le_trans most.1 le, fun reply => ih reply (most.2 reply) (Nat.sub_le_sub_right le _)⟩

theorem AtMost.bind {f : α → Prog Call ε β} (first : p.AtMost kind m) (rest : ∀ a, (f a).AtMost kind n) :
    (p.bind f).AtMost kind (m + n) := by
  induction p generalizing m with
  | done a => exact (rest a).mono (Nat.le_add_left n m)
  | fail => trivial
  | call c k ih =>
      refine ⟨Nat.le_trans first.1 (Nat.le_add_right m n), fun reply => ?_⟩
      rw [Nat.sub_add_comm first.1]
      exact ih reply (first.2 reply)

/-- A first part that makes none of these calls does not count. -/
theorem AtMost.bind_free {f : α → Prog Call ε β} (first : p.AtMost kind 0) (rest : ∀ a, (f a).AtMost kind n) :
    (p.bind f).AtMost kind n := Nat.zero_add n ▸ first.bind rest

/-- Nor does such a second part. -/
theorem AtMost.free_bind {f : α → Prog Call ε β} (first : p.AtMost kind n) (rest : ∀ a, (f a).AtMost kind 0) :
    (p.bind f).AtMost kind n := first.bind rest

theorem atMost_request {c : Call α} (le : (kind c).toNat ≤ n) : (Prog.request c : Prog Call ε α).AtMost kind n :=
  ⟨le, fun _ => trivial⟩

theorem atMost_request_free {c : Call α} (free : kind c = false) : (Prog.request c : Prog Call ε α).AtMost kind 0 := by
  refine atMost_request ?_
  rw [free]
  exact Nat.le_refl 0

theorem atMost_lift {Call' : Type → Type} {embed : {β : Type} → Call β → Call' β}
    {kind : {β : Type} → Call' β → Bool} :
    (p.lift embed).AtMost kind n ↔ p.AtMost (fun c => kind (embed c)) n := by
  induction p generalizing n with
  | done | fail => rfl
  | call c k ih => exact and_congr Iff.rfl (forall_congr' fun reply => ih reply)

end AtMost

/-- The call was made, and this was its reply. -/
def Had (past : List (Exchange Call)) {β : Type} (c : Call β) (reply : β) : Prop :=
  (⟨c, reply⟩ : Exchange Call) ∈ past

end Prog

section Pool

variable {Call : Type → Type} {ε σ ι : Type} {α : Type} [DecidableEq ι]
variable (exec : {β : Type} → Call β → σ → β × σ)

/-- The states of a run, each as a client finds it that is scheduled there, and the last one. -/
def Pool.states : Pool Call ε α σ ι → List ι → List σ
  | pool, [] => [pool.shared]
  | pool, i :: rest => pool.shared :: (pool.step exec i).states rest

variable {exec} {pool : Pool Call ε α σ ι} {schedule : List ι} {i : ι}

theorem Pool.shared_mem_states (first rest : List ι) : (pool.run exec first).shared ∈ pool.states exec (first ++ rest) := by
  induction first generalizing pool with
  | nil => cases rest <;> simp [Pool.states]
  | cons j first ih => exact List.mem_cons_of_mem _ ih

/-- A reply that a client had, it was given in a state of the run. -/
theorem Pool.given_of_had {β : Type} {c : Call β} {reply : β} (had : Prog.Had (pool.exchanges exec i schedule) c reply) :
    ∃ s ∈ pool.states exec schedule, (exec c s).1 = reply := by
  obtain ⟨first, rest, rfl, given⟩ := Pool.mem_exchanges had
  exact ⟨_, Pool.shared_mem_states first _, (Pool.exchange_eq_some given).1⟩

/-- In a step of the run the client either has an exchange and goes on with its reply, or stays as it is. -/
theorem Pool.exchanges_cons (pool : Pool Call ε α σ ι) (i j : ι) (rest : List ι) :
    (pool.exchanges exec i (j :: rest) = (pool.step exec j).exchanges exec i rest ∧
        (pool.step exec j).clients i = pool.clients i) ∨
      ∃ (β : Type) (c : Call β) (k : β → Prog Call ε α) (reply : β), pool.clients i = .call c k ∧
        (pool.step exec j).clients i = k reply ∧
        pool.exchanges exec i (j :: rest) = ⟨c, reply⟩ :: (pool.step exec j).exchanges exec i rest := by
  rw [Pool.exchanges]
  by_cases same : j = i
  · subst same
    cases shape : pool.clients j with
    | done | fail => exact .inl (by simp [Pool.exchange, Pool.step, shape])
    | call c k =>
        refine .inr ⟨_, c, k, (exec c pool.shared).1, rfl, ?_, ?_⟩
        · simp [Pool.step, shape]
        · simp [Pool.exchange, shape]
  · refine .inl ⟨by simp [same], ?_⟩
    unfold Pool.step
    cases pool.clients j with
    | done | fail => rfl
    | call c k => exact Function.update_of_ne (Ne.symm same) ..

/-- A client that has ended has been led there by the replies it had. -/
theorem Pool.leads_of_done {value : α} (ended : (pool.run exec schedule).clients i = .done value) :
    (pool.clients i).Leads (Prog.Had (pool.exchanges exec i schedule)) (.ok value) := by
  induction schedule generalizing pool with
  | nil =>
      rw [show pool.clients i = .done value from ended]
      rfl
  | cons j rest ih =>
      have later := ih ended
      rcases pool.exchanges_cons i j rest with ⟨exchanges, stays⟩ | ⟨β, c, k, reply, next, goes, exchanges⟩
      · rwa [exchanges, ← stays]
      · rw [next, exchanges]
        rw [goes] at later
        exact ⟨reply, List.mem_cons_self, later.mono fun _ _ had => List.mem_cons_of_mem _ had⟩

/-- Of a kind of calls that a client makes at most `n` of, it has at most `n` exchanges. -/
theorem Pool.countP_exchanges {kind : {β : Type} → Call β → Bool} {n : Nat} (most : (pool.clients i).AtMost kind n)
    (schedule : List ι) : (pool.exchanges exec i schedule).countP (fun exchange => kind exchange.call) ≤ n := by
  induction schedule generalizing pool n with
  | nil => simp [Pool.exchanges]
  | cons j rest ih =>
      rcases pool.exchanges_cons i j rest with ⟨exchanges, stays⟩ | ⟨β, c, k, reply, next, goes, exchanges⟩
      · rw [exchanges]
        exact ih (stays ▸ most)
      · rw [next] at most
        have later := ih (goes ▸ most.2 reply)
        have own := most.1
        rw [exchanges, List.countP_cons]
        cases shape : kind c <;> simp only [shape, Bool.toNat_true, Bool.toNat_false] at own later ⊢ <;> simp <;> omega

/-- A client that asks once is answered once. -/
theorem Pool.exchange_unique {kind : {β : Type} → Call β → Bool} (once : (pool.clients i).AtMost kind 1)
    {exchange exchange' : Prog.Exchange Call} (mem : exchange ∈ pool.exchanges exec i schedule)
    (mem' : exchange' ∈ pool.exchanges exec i schedule) (own : kind exchange.call) (own' : kind exchange'.call) :
    exchange = exchange' := by
  let asked := (pool.exchanges exec i schedule).filter fun exchange => kind exchange.call
  have count : asked.length ≤ 1 := by
    rw [← List.countP_eq_length_filter]
    exact Pool.countP_exchanges once schedule
  have first : exchange ∈ asked := List.mem_filter.mpr ⟨mem, own⟩
  have second : exchange' ∈ asked := List.mem_filter.mpr ⟨mem', own'⟩
  match asked, count with
  | [only], _ => rw [List.mem_singleton.mp first, List.mem_singleton.mp second]

end Pool

end Neurons.Lib
