import Mathlib.Logic.Function.Basic
import Mathlib.Logic.Relation

/-! # Programs that call a shared object

A client is a tree of typed calls: at every node it issues one request and
continues with the reply. Several clients interleave call by call, so a
statement about "any interleaving" is a statement about every schedule of a
pool of such trees. `Safe` is the rely-guarantee reading of one client: each of
its calls may be answered in any state the others can have reached meanwhile.

Nothing here knows what the shared object is.
-/

namespace Neurons.Lib

/-- A client program. `fail` is an exception that leaves the program. -/
inductive Prog (Call : Type → Type) (ε α : Type) : Type 1 where
  | done (value : α)
  | fail (error : ε)
  | call {β : Type} (request : Call β) (next : β → Prog Call ε α)

namespace Prog

variable {Call : Type → Type} {ε σ : Type} {α β : Type}

def bind (program : Prog Call ε α) (next : α → Prog Call ε β) : Prog Call ε β :=
  match program with
  | .done value => next value
  | .fail error => .fail error
  | .call request rest => .call request (fun reply => (rest reply).bind next)

/-- Run the handler where the program raises; calls made before stay made. -/
def tryCatch (program : Prog Call ε α) (handler : ε → Prog Call ε α) : Prog Call ε α :=
  match program with
  | .done value => .done value
  | .fail error => handler error
  | .call request rest => .call request (fun reply => (rest reply).tryCatch handler)

/-- Run the program to its end or to its exception, and return which it was. -/
def attempt : Prog Call ε α → Prog Call ε (Except ε α)
  | .done value => .done (.ok value)
  | .fail error => .done (.error error)
  | .call request rest => .call request (fun reply => (rest reply).attempt)

instance : Monad (Prog Call ε) where
  pure := .done
  bind := bind

instance : MonadExceptOf ε (Prog Call ε) where
  throw := .fail
  tryCatch := tryCatch

/-- Issue one call and return its reply. -/
def request (c : Call α) : Prog Call ε α := .call c .done

/-- Raise the error of a reply that is an exception. -/
def ofExcept : Except ε α → Prog Call ε α
  | .ok value => .done value
  | .error error => .fail error

@[simp] theorem pure_eq (value : α) : (pure value : Prog Call ε α) = .done value := rfl
@[simp] theorem bind_eq (p : Prog Call ε α) (f : α → Prog Call ε β) : (p >>= f) = p.bind f := rfl
@[simp] theorem throw_eq (error : ε) : (throw error : Prog Call ε α) = .fail error := rfl
@[simp] theorem done_bind (value : α) (f : α → Prog Call ε β) : (done value).bind f = f value := rfl
@[simp] theorem fail_bind (error : ε) (f : α → Prog Call ε β) :
    (fail error : Prog Call ε α).bind f = .fail error := rfl
@[simp] theorem call_bind {γ : Type} (c : Call γ) (k : γ → Prog Call ε α) (f : α → Prog Call ε β) :
    (call c k).bind f = .call c (fun reply => (k reply).bind f) := rfl

theorem bind_done (p : Prog Call ε α) : p.bind .done = p := by
  induction p with
  | done | fail => rfl
  | call c k ih => simp only [bind, ih]

theorem bind_assoc {γ : Type} (p : Prog Call ε α) (f : α → Prog Call ε β)
    (g : β → Prog Call ε γ) : (p.bind f).bind g = p.bind (fun a => (f a).bind g) := by
  induction p with
  | done | fail => rfl
  | call c k ih => simp only [bind, ih]

instance : LawfulMonad (Prog Call ε) :=
  LawfulMonad.mk' (Prog Call ε)
    (fun p => bind_done p)
    (fun _ _ => rfl)
    bind_assoc

/-- The value of a program that has come to a normal end. -/
def value? : Prog Call ε α → Option α
  | .done value => some value
  | .fail _ | .call _ _ => none

theorem eq_done_of_value? {p : Prog Call ε α} {value : α} (ended : p.value? = some value) :
    p = .done value := by
  cases p with
  | done v => cases ended; rfl
  | fail | call => cases ended

/-! ## Sequential meaning -/

section Sequential

/-- The program run alone: no other client acts between two of its calls. -/
def run (exec : {β : Type} → Call β → σ → β × σ) : Prog Call ε α → σ → Except ε α × σ
  | .done value, s => (.ok value, s)
  | .fail error, s => (.error error, s)
  | .call c k, s => (k (exec c s).1).run exec (exec c s).2

/-- The program run alone and stopped before its call number `n + 1`; `none` where it was. -/
def runFor (exec : {β : Type} → Call β → σ → β × σ) :
    Nat → Prog Call ε α → σ → Option (Except ε α) × σ
  | _, .done value, s => (some (.ok value), s)
  | _, .fail error, s => (some (.error error), s)
  | 0, .call _ _, s => (none, s)
  | n + 1, .call c k, s => runFor exec n (k (exec c s).1) (exec c s).2

/-- What every call keeps, a program run alone keeps. -/
theorem run_keeps {exec : {β : Type} → Call β → σ → β × σ} {inv : σ → Prop}
    (keeps : ∀ {β : Type} (c : Call β) s, inv s → inv (exec c s).2) (p : Prog Call ε α) {s : σ} (holds : inv s) :
    inv (p.run exec s).2 := by
  induction p generalizing s with
  | done | fail => exact holds
  | call c k ih => exact ih _ (keeps c s holds)

/-- A program that was not stopped has run to its end. -/
theorem run_of_runFor {exec : {β : Type} → Call β → σ → β × σ} {n : Nat} {p : Prog Call ε α} {s s' : σ}
    {result : Except ε α} (ended : p.runFor exec n s = (some result, s')) : p.run exec s = (result, s') := by
  induction p generalizing n s with
  | done value =>
      cases n <;> cases ended <;> rfl
  | fail error =>
      cases n <;> cases ended <;> rfl
  | call c k ih =>
      cases n with
      | zero => cases ended
      | succ n => exact ih _ ended

section RunsWell

variable {exec : {β : Type} → Call β → σ → β × σ}

@[simp] theorem run_done (value : α) (s : σ) : (done value : Prog Call ε α).run exec s = (.ok value, s) := rfl
@[simp] theorem run_fail (error : ε) (s : σ) : (fail error : Prog Call ε α).run exec s = (.error error, s) := rfl
@[simp] theorem run_call (c : Call β) (k : β → Prog Call ε α) (s : σ) :
    (call c k).run exec s = (k (exec c s).1).run exec (exec c s).2 := rfl
@[simp] theorem run_request (c : Call α) (s : σ) :
    (request c : Prog Call ε α).run exec s = (.ok (exec c s).1, (exec c s).2) := rfl
@[simp] theorem run_ofExcept (value : Except ε α) (s : σ) : (ofExcept value : Prog Call ε α).run exec s = (value, s) := by
  cases value <;> rfl

theorem run_bind (p : Prog Call ε α) (f : α → Prog Call ε β) (s : σ) :
    (p.bind f).run exec s =
      match p.run exec s with
      | (.ok a, s') => (f a).run exec s'
      | (.error e, s') => (.error e, s') := by
  induction p generalizing s with
  | done | fail => rfl
  | call c k ih => exact ih _ _

theorem run_tryCatch (p : Prog Call ε α) (handler : ε → Prog Call ε α) (s : σ) :
    (p.tryCatch handler).run exec s =
      match p.run exec s with
      | (.ok a, s') => (.ok a, s')
      | (.error e, s') => (handler e).run exec s' := by
  induction p generalizing s with
  | done | fail => rfl
  | call c k ih => exact ih _ _

variable (exec) in
/-- The program comes to the result and leaves the object as it finds it. -/
def Observes (s : σ) (p : Prog Call ε α) (result : Except ε α) : Prop := p.run exec s = (result, s)

theorem Observes.bind {s : σ} {p : Prog Call ε α} {f : α → Prog Call ε β} {x : Except ε α} {g : α → Except ε β}
    (first : Observes exec s p x) (rest : ∀ a, x = .ok a → Observes exec s (f a) (g a)) :
    Observes exec s (p.bind f) (x >>= g) := by
  unfold Observes at *
  rw [run_bind, first]
  cases x with
  | error e => rfl
  | ok a => exact rest a rfl

theorem Observes.ofExcept (s : σ) (x : Except ε α) : Observes exec s (Prog.ofExcept x : Prog Call ε α) x :=
  run_ofExcept x s

theorem Observes.mapM {s : σ} {l : List α} {f : α → Prog Call ε β} {g : α → Except ε β}
    (each : ∀ a ∈ l, Observes exec s (f a) (g a)) : Observes exec s (l.mapM f) (l.mapM g) := by
  induction l with
  | nil => rfl
  | cons a rest ih =>
      rw [List.mapM_cons, List.mapM_cons]
      have others := ih fun b mem => each b (List.mem_cons_of_mem a mem)
      exact (each a List.mem_cons_self).bind fun b _ => others.bind fun bs _ => rfl

/-- What follows a program that only observes runs from the same object. -/
theorem Observes.run_bind {s : σ} {p : Prog Call ε α} {f : α → Prog Call ε β} {a : α}
    (observes : Observes exec s p (.ok a)) : (p.bind f).run exec s = (f a).run exec s := by
  rw [Prog.run_bind, observes]

/-! ### Invariants of a run

What a program keeps however it ends, and what holds besides where it ends normally. -/

variable (exec) in
def Keeps (inv : σ → Prop) (post : α → σ → Prop) (p : Prog Call ε α) (s : σ) : Prop :=
  inv (p.run exec s).2 ∧ ∀ a, (p.run exec s).1 = .ok a → post a (p.run exec s).2

section Keeps

variable {inv : σ → Prop} {post : α → σ → Prop} {s : σ}

theorem Keeps.done {a : α} (holds : inv s) (ends : post a s) : Keeps exec inv post (done a : Prog Call ε α) s :=
  ⟨holds, fun _ same => Except.ok.inj same ▸ ends⟩

theorem Keeps.fail {e : ε} (holds : inv s) : Keeps exec inv post (fail e : Prog Call ε α) s :=
  ⟨holds, fun _ same => nomatch same⟩

theorem Keeps.observes {p : Prog Call ε α} {x : Except ε α} (observes : Observes exec s p x) (holds : inv s)
    (ends : ∀ a, x = .ok a → post a s) : Keeps exec inv post p s := by
  unfold Keeps
  rw [observes]
  exact ⟨holds, ends⟩

/-- One call, from which the rest of the program goes on. -/
theorem Keeps.call {c : Call β} {k : β → Prog Call ε α}
    (rest : Keeps exec inv post (k (exec c s).1) (exec c s).2) : Keeps exec inv post (.call c k) s :=
  rest

theorem Keeps.bind {mid : α → σ → Prop} {post : β → σ → Prop} {p : Prog Call ε α} {f : α → Prog Call ε β}
    (first : Keeps exec inv mid p s) (rest : ∀ a s', inv s' → mid a s' → Keeps exec inv post (f a) s') :
    Keeps exec inv post (p.bind f) s := by
  unfold Keeps at first ⊢
  rw [run_bind]
  cases shape : p.run exec s with
  | mk result s' =>
      rw [shape] at first
      cases result with
      | error e => exact ⟨first.1, fun _ same => nomatch same⟩
      | ok a => exact rest a s' first.1 (first.2 a rfl)

theorem Keeps.tryCatch {p : Prog Call ε α} {handler : ε → Prog Call ε α} (first : Keeps exec inv post p s)
    (rest : ∀ e s', inv s' → Keeps exec inv post (handler e) s') :
    Keeps exec inv post (p.tryCatch handler) s := by
  induction p generalizing s with
  | done a => exact first
  | fail e => exact rest e s first.1
  | call c k ih => exact ih _ first

/-- A part that only observes leaves its value and the object for the rest. -/
theorem Keeps.observes_bind {post : β → σ → Prop} {p : Prog Call ε α} {f : α → Prog Call ε β} {x : Except ε α}
    (observes : Observes exec s p x) (holds : inv s) (rest : ∀ a, x = .ok a → Keeps exec inv post (f a) s) :
    Keeps exec inv post (p.bind f) s := by
  unfold Keeps
  rw [Prog.run_bind, observes]
  cases x with
  | error e => exact ⟨holds, fun _ same => nomatch same⟩
  | ok a => exact rest a rfl

theorem Keeps.weaken {inv' : σ → Prop} {post' : α → σ → Prop} {p : Prog Call ε α}
    (keeps : Keeps exec inv post p s) (holds : ∀ s', inv s' → inv' s')
    (imp : ∀ a s', inv s' → post a s' → post' a s') : Keeps exec inv' post' p s :=
  ⟨holds _ keeps.1, fun a same => imp a _ keeps.1 (keeps.2 a same)⟩

end Keeps

end RunsWell

variable (answer : {β : Type} → Call β → β)

end Sequential

/-- The same program with its calls seen as calls of a larger interface. -/
def lift {Call' : Type → Type} (embed : {β : Type} → Call β → Call' β) :
    Prog Call ε α → Prog Call' ε α
  | .done value => .done value
  | .fail error => .fail error
  | .call c k => .call (embed c) (fun reply => (k reply).lift embed)

/-! ## Which calls a program can make -/

/-- Every call the program can ever issue is allowed, whatever the replies. -/
def Uses (allowed : {β : Type} → Call β → Prop) : Prog Call ε α → Prop
  | .done _ | .fail _ => True
  | .call c k => allowed c ∧ ∀ reply, (k reply).Uses allowed

theorem Uses.bind {allowed : {β : Type} → Call β → Prop} {p : Prog Call ε α} {f : α → Prog Call ε β}
    (first : p.Uses allowed) (rest : ∀ a, (f a).Uses allowed) : (p.bind f).Uses allowed := by
  induction p with
  | done a => exact rest a
  | fail => trivial
  | call c k ih => exact ⟨first.1, fun reply => ih reply (first.2 reply)⟩

theorem Uses.mono {allowed also : {β : Type} → Call β → Prop} {p : Prog Call ε α} (uses : p.Uses allowed)
    (imp : ∀ {β : Type} (c : Call β), allowed c → also c) : p.Uses also := by
  induction p with
  | done | fail => trivial
  | call c k ih => exact ⟨imp c uses.1, fun reply => ih reply (uses.2 reply)⟩

/-- A call that was made, and its reply. -/
structure Exchange (Call : Type → Type) : Type 1 where
  {β : Type}
  call : Call β
  reply : β

/-- Every call the program can issue is allowed after the exchanges it has had by then. -/
def Obeys (allowed : List (Exchange Call) → {β : Type} → Call β → Prop) :
    List (Exchange Call) → Prog Call ε α → Prop
  | _, .done _ | _, .fail _ => True
  | past, .call c k => allowed past c ∧ ∀ reply, (k reply).Obeys allowed (past ++ [⟨c, reply⟩])

theorem Uses.obeys {allowed : List (Exchange Call) → {β : Type} → Call β → Prop} {p : Prog Call ε α}
    (uses : p.Uses fun c => ∀ past, allowed past c) (past : List (Exchange Call)) :
    p.Obeys allowed past := by
  induction p generalizing past with
  | done | fail => trivial
  | call c k ih => exact ⟨uses.1 past, fun reply => ih reply (uses.2 reply) _⟩

/-- Where the program returns, its value is accounted for by the exchanges it has had by then. -/
def Accounts (post : List (Exchange Call) → α → Prop) : List (Exchange Call) → Prog Call ε α → Prop
  | past, .done value => post past value
  | _, .fail _ => True
  | past, .call c k => ∀ reply, (k reply).Accounts post (past ++ [⟨c, reply⟩])

section Accounts

variable {post : List (Exchange Call) → α → Prop} {past : List (Exchange Call)} {p : Prog Call ε α}

theorem Accounts.bind {post : List (Exchange Call) → β → Prop} {mid : List (Exchange Call) → α → Prop}
    {f : α → Prog Call ε β} (first : p.Accounts mid past)
    (rest : ∀ past' a, mid past' a → (f a).Accounts post past') : (p.bind f).Accounts post past := by
  induction p generalizing past with
  | done a => exact rest past a first
  | fail => trivial
  | call c k ih => exact fun reply => ih reply (first reply)

theorem accounts_true (p : Prog Call ε α) (past : List (Exchange Call)) : p.Accounts (fun _ _ => True) past := by
  induction p generalizing past with
  | done | fail => trivial
  | call c k ih => exact fun reply => ih reply _

theorem Accounts.weaken {post' : List (Exchange Call) → α → Prop} (accounts : p.Accounts post past)
    (imp : ∀ past' a, post past' a → post' past' a) : p.Accounts post' past := by
  induction p generalizing past with
  | done a => exact imp past a accounts
  | fail => trivial
  | call c k ih => exact fun reply => ih reply (accounts reply)

/-- Where it does not matter what went before. -/
theorem Accounts.bind_of_forall {post : List (Exchange Call) → β → Prop} {f : α → Prog Call ε β}
    (rest : ∀ past' a, (f a).Accounts post past') : (p.bind f).Accounts post past :=
  (accounts_true p past).bind fun past' a _ => rest past' a

/-- What had been exchanged stays exchanged. -/
theorem Accounts.extends (past : List (Exchange Call)) :
    p.Accounts (fun past' _ => past <+: past') past := by
  suffices general : ∀ past', past <+: past' → p.Accounts (fun past'' _ => past <+: past'') past' from
    general past (List.prefix_refl past)
  induction p with
  | done a => exact fun past' within => within
  | fail => exact fun _ _ => trivial
  | call c k ih => exact fun past' within reply => ih reply _ (within.trans (List.prefix_append _ _))

end Accounts

/-! ## One client alone -/

section Alone

variable (exec : {β : Type} → Call β → σ → β × σ) (moves : σ → σ → Prop)

/-- Run alone from `s`, every call is one of the `moves` and the end satisfies `post`. -/
def Traces (post : Except ε α → σ → Prop) : Prog Call ε α → σ → Prop
  | .done value, s => post (.ok value) s
  | .fail error, s => post (.error error) s
  | .call c k, s => moves s (exec c s).2 ∧ (k (exec c s).1).Traces post (exec c s).2

variable {exec moves}

theorem Traces.bind {post : Except ε β → σ → Prop} {mid : Except ε α → σ → Prop} {p : Prog Call ε α}
    {f : α → Prog Call ε β} {s : σ} (first : p.Traces exec moves mid s)
    (failed : ∀ e s', mid (.error e) s' → post (.error e) s')
    (rest : ∀ a s', mid (.ok a) s' → (f a).Traces exec moves post s') :
    (p.bind f).Traces exec moves post s := by
  induction p generalizing s with
  | done a => exact rest a s first
  | fail e => exact failed e s first
  | call c k ih => exact ⟨first.1, ih _ first.2⟩

theorem Traces.weaken {post post' : Except ε α → σ → Prop} {p : Prog Call ε α} {s : σ}
    (traces : p.Traces exec moves post s) (imp : ∀ r s', post r s' → post' r s') :
    p.Traces exec moves post' s := by
  induction p generalizing s with
  | done a => exact imp _ s traces
  | fail e => exact imp _ s traces
  | call c k ih => exact ⟨traces.1, ih _ traces.2⟩

/-- A call first, then the rest from where it leads. -/
theorem Traces.request_bind {post : Except ε β → σ → Prop} {c : Call α} {f : α → Prog Call ε β} {s : σ}
    (moved : moves s (exec c s).2) (rest : (f (exec c s).1).Traces exec moves post (exec c s).2) :
    ((request c).bind f).Traces exec moves post s :=
  ⟨moved, rest⟩

/-- The end of a trace is one of the `moves` from its start. -/
theorem Traces.moved {post : Except ε α → σ → Prop} {p : Prog Call ε α} {s : σ} (refl : ∀ s, moves s s)
    (trans : ∀ {a b c}, moves a b → moves b c → moves a c) (traces : p.Traces exec moves post s) :
    p.Traces exec moves (fun r s' => post r s' ∧ moves s s') s := by
  induction p generalizing s with
  | done a => exact ⟨traces, refl s⟩
  | fail e => exact ⟨traces, refl s⟩
  | call c k ih =>
      refine ⟨traces.1, (ih _ traces.2).weaken ?_⟩
      intro r s' ends
      exact ⟨ends.1, trans traces.1 ends.2⟩

end Alone

/-! ## Rely-guarantee -/

section Safe

variable (exec : {β : Type} → Call β → σ → β × σ)
variable (moves : σ → σ → Prop) (meets : {β : Type} → Call β → σ → Prop)

/-- Started in `s` and disturbed only along `moves`, every own call that meets
    its condition is again one of the `moves`, and a normal end satisfies `post`. -/
def Safe (post : α → σ → Prop) : Prog Call ε α → σ → Prop
  | .done value, s => post value s
  | .fail _, _ => True
  | .call c k, s => ∀ s', moves s s' → meets c s' →
      moves s' (exec c s').2 ∧ (k (exec c s').1).Safe post (exec c s').2

variable {exec moves} {meets : {β : Type} → Call β → σ → Prop}

theorem Safe.bind {post : β → σ → Prop} {mid : α → σ → Prop} {p : Prog Call ε α}
    {f : α → Prog Call ε β} {s : σ} (first : p.Safe exec moves meets mid s)
    (rest : ∀ a s', mid a s' → (f a).Safe exec moves meets post s') :
    (p.bind f).Safe exec moves meets post s := by
  induction p generalizing s with
  | done a => exact rest a s first
  | fail => trivial
  | call c k ih =>
      intro s' moved meet
      exact ⟨(first s' moved meet).1, ih _ (first s' moved meet).2⟩

/-- A client stays safe while the others move, since `moves` composes. -/
theorem Safe.disturbed {post : α → σ → Prop} {p : Prog Call ε α} {s s' : σ}
    (trans : ∀ {a b c}, moves a b → moves b c → moves a c)
    (stable : ∀ a s s', moves s s' → post a s → post a s')
    (safe : p.Safe exec moves meets post s) (moved : moves s s') :
    p.Safe exec moves meets post s' := by
  cases p with
  | done a => exact stable a s s' moved safe
  | fail => trivial
  | call c k =>
      intro s'' moved' meet
      exact safe s'' (trans moved moved') meet

end Safe

end Prog

/-! ## A client that is started again -/

section Restarts

variable {Call : Type → Type} {ε σ ρ : Type} {α : Type}
variable (exec : {β : Type} → Call β → σ → β × σ) (start : ρ → Prog Call ε α)

/-- A client as far as it has run, and the object it calls. -/
structure Process (Call : Type → Type) (ε α σ : Type) where
  program : Prog Call ε α
  shared : σ

/-- The client issues its next call, or is dropped where it stands and started anew. -/
inductive Turn (ρ : Type) where
  | call
  | restart (request : ρ)

def Process.step (p : Process Call ε α σ) : Turn ρ → Process Call ε α σ
  | .restart request => ⟨start request, p.shared⟩
  | .call =>
      match p.program with
      | .call c k => ⟨k (exec c p.shared).1, (exec c p.shared).2⟩
      | .done _ | .fail _ => p

/-- The client after the turns. -/
def Process.run (p : Process Call ε α σ) (turns : List (Turn ρ)) : Process Call ε α σ :=
  turns.foldl (Process.step exec start) p

theorem Process.run_append (p : Process Call ε α σ) (first rest : List (Turn ρ)) :
    p.run exec start (first ++ rest) = (p.run exec start first).run exec start rest :=
  List.foldl_append

variable {exec start} {moves : σ → σ → Prop} {post : Except ε α → σ → Prop}

/-- One call brings the client one step along its trace. -/
theorem Process.step_traces {p : Process Call ε α σ}
    (traces : p.program.Traces exec moves post p.shared) :
    (p.step exec start .call).program.Traces exec moves post (p.step exec start .call).shared := by
  simp only [Process.step]
  cases shape : p.program with
  | done | fail =>
      rw [shape] at traces
      simpa only [shape] using traces
  | call c k =>
      rw [shape] at traces
      exact traces.2

/-- Calls alone bring the client along its trace. -/
theorem Process.run_traces (start : ρ → Prog Call ε α) {p : Process Call ε α σ}
    (traces : p.program.Traces exec moves post p.shared) (n : Nat) : (p.run exec start (List.replicate n .call)).program.Traces exec moves post
      (p.run exec start (List.replicate n .call)).shared := by
  induction n generalizing p with
  | zero => exact traces
  | succ n ih =>
      rw [List.replicate_succ]
      exact ih (Process.step_traces traces)

/-- The client has come to its end, in a way that satisfies `post`. -/
def Process.Ended (post : Except ε α → σ → Prop) (p : Process Call ε α σ) : Prop :=
  match p.program with
  | .done value => post (.ok value) p.shared
  | .fail error => post (.error error) p.shared
  | .call _ _ => False

/-- A client that only calls comes to its end. -/
theorem Process.exists_ended (start : ρ → Prog Call ε α) {p : Process Call ε α σ}
    (traces : p.program.Traces exec moves post p.shared) :
    ∃ n, (p.run exec start (List.replicate n .call)).Ended post := by
  obtain ⟨program, s⟩ := p
  induction program generalizing s with
  | done value => exact ⟨0, traces⟩
  | fail e => exact ⟨0, traces⟩
  | call c k ih =>
      obtain ⟨n, ended⟩ := ih _ _ traces.2
      exact ⟨n + 1, ended⟩

section Turns

variable {inv : σ → Prop} (refl : ∀ s, moves s s) (trans : ∀ {a b c}, moves a b → moves b c → moves a c)
variable (keeps : ∀ {s s'}, inv s → moves s s' → inv s')
variable (alone : ∀ request s, inv s → (start request).Traces exec moves (fun _ _ => True) s)

include refl alone

theorem Process.step_moves {p : Process Call ε α σ}
    (traces : p.program.Traces exec moves (fun _ _ => True) p.shared) (holds : inv p.shared) (turn : Turn ρ) :
    moves p.shared (p.step exec start turn).shared ∧
      (p.step exec start turn).program.Traces exec moves (fun _ _ => True) (p.step exec start turn).shared := by
  cases turn with
  | restart request => exact ⟨refl _, alone request _ holds⟩
  | call =>
      refine ⟨?_, Process.step_traces traces⟩
      simp only [Process.step]
      cases shape : p.program with
      | done | fail => exact refl _
      | call c k =>
          rw [shape] at traces
          exact traces.1

include trans keeps

/-- Whatever the turns, a client whose every start keeps to `moves` has kept to them. -/
theorem Process.run_moves {p : Process Call ε α σ}
    (traces : p.program.Traces exec moves (fun _ _ => True) p.shared) (holds : inv p.shared)
    (turns : List (Turn ρ)) :
    moves p.shared (p.run exec start turns).shared ∧
      (p.run exec start turns).program.Traces exec moves (fun _ _ => True) (p.run exec start turns).shared := by
  induction turns generalizing p with
  | nil => exact ⟨refl _, traces⟩
  | cons turn rest ih =>
      obtain ⟨moved, next⟩ := Process.step_moves refl alone traces holds turn
      obtain ⟨later, last⟩ := ih next (keeps holds moved)
      exact ⟨trans moved later, last⟩

end Turns

end Restarts

/-! ## Pools of clients -/

section Pool

variable {Call : Type → Type} {ε σ ι : Type} {α β : Type} [DecidableEq ι]
variable (exec : {β : Type} → Call β → σ → β × σ)

/-- The clients as far as they have run, and the object they share. -/
structure Pool (Call : Type → Type) (ε α σ ι : Type) where
  clients : ι → Prog Call ε α
  shared : σ

/-- Client `i` issues its next call; a finished client does nothing. -/
def Pool.step (pool : Pool Call ε α σ ι) (i : ι) : Pool Call ε α σ ι :=
  match pool.clients i with
  | .call c k =>
      { clients := Function.update pool.clients i (k (exec c pool.shared).1)
        shared := (exec c pool.shared).2 }
  | .done _ | .fail _ => pool

/-- The pool after the clients were scheduled in the given order. -/
def Pool.run (pool : Pool Call ε α σ ι) (schedule : List ι) : Pool Call ε α σ ι :=
  schedule.foldl (Pool.step exec) pool

/-- Every step of the schedule meets its condition in the state it is made. -/
def Pool.Meets (meets : ι → {β : Type} → Call β → σ → Prop) :
    Pool Call ε α σ ι → List ι → Prop
  | _, [] => True
  | pool, i :: rest =>
      (match pool.clients i with
        | .call c _ => meets i c pool.shared
        | .done _ | .fail _ => True) ∧
      (pool.step exec i).Meets meets rest

instance Pool.decidableMeets (meets : ι → {β : Type} → Call β → σ → Prop)
    [∀ i (β : Type) (c : Call β) s, Decidable (meets i c s)] :
    ∀ (pool : Pool Call ε α σ ι) (schedule : List ι), Decidable (pool.Meets exec meets schedule)
  | _, [] => isTrue trivial
  | pool, i :: rest =>
      have := Pool.decidableMeets meets (pool.step exec i) rest
      have : Decidable (match pool.clients i with
          | .call c _ => meets i c pool.shared
          | .done _ | .fail _ => True) :=
        match pool.clients i with
        | .call c _ => inferInstanceAs (Decidable (meets i c pool.shared))
        | .done _ | .fail _ => isTrue trivial
      inferInstanceAs (Decidable (_ ∧ (pool.step exec i).Meets exec meets rest))

/-- The exchange client `i` has when it is scheduled. -/
def Pool.exchange (pool : Pool Call ε α σ ι) (i : ι) : Option (Prog.Exchange Call) :=
  match pool.clients i with
  | .call c _ => some ⟨c, (exec c pool.shared).1⟩
  | .done _ | .fail _ => none

/-- The exchanges client `i` has over a schedule. -/
def Pool.exchanges (i : ι) : Pool Call ε α σ ι → List ι → List (Prog.Exchange Call)
  | _, [] => []
  | pool, j :: rest =>
      (if j = i then (pool.exchange exec j).toList else []) ++ (pool.step exec j).exchanges i rest

@[simp] theorem Pool.run_nil (pool : Pool Call ε α σ ι) : pool.run exec [] = pool := rfl
@[simp] theorem Pool.run_cons (pool : Pool Call ε α σ ι) (i : ι) (rest : List ι) :
    pool.run exec (i :: rest) = (pool.step exec i).run exec rest := rfl

theorem Pool.run_append (pool : Pool Call ε α σ ι) (first rest : List ι) :
    pool.run exec (first ++ rest) = (pool.run exec first).run exec rest :=
  List.foldl_append

variable {exec} {moves : σ → σ → Prop} {meets : ι → {β : Type} → Call β → σ → Prop}

theorem Pool.step_invariant (inv : σ → Prop) (keeps : ∀ {β : Type} (c : Call β) s, inv s → inv (exec c s).2)
    {pool : Pool Call ε α σ ι} (start : inv pool.shared) (i : ι) : inv (pool.step exec i).shared := by
  unfold Pool.step
  split
  · exact keeps _ _ start
  · exact start
  · exact start

/-- A client that is scheduled alone runs to its end. -/
theorem Pool.exists_run_alone (pool : Pool Call ε α σ ι) (i : ι) :
    ∃ n, (pool.run exec (List.replicate n i)).shared = ((pool.clients i).run exec pool.shared).2 := by
  suffices general : ∀ (p : Prog Call ε α) (pool : Pool Call ε α σ ι), pool.clients i = p →
      ∃ n, (pool.run exec (List.replicate n i)).shared = (p.run exec pool.shared).2 from general _ pool rfl
  intro p
  induction p with
  | done value => exact fun _ _ => ⟨0, rfl⟩
  | fail e => exact fun _ _ => ⟨0, rfl⟩
  | call c k ih =>
      intro pool next
      have moved : pool.step exec i = ⟨Function.update pool.clients i (k (exec c pool.shared).1),
          (exec c pool.shared).2⟩ := by
        simp only [Pool.step, next]
      have there : (pool.step exec i).clients i = k (exec c pool.shared).1 := by
        rw [moved]
        exact Function.update_self ..
      obtain ⟨n, ended⟩ := ih (exec c pool.shared).1 (pool.step exec i) there
      refine ⟨n + 1, ?_⟩
      rw [List.replicate_succ, Pool.run_cons, ended, moved, Prog.run_call]

/-- What every call keeps holds after every schedule. -/
theorem Pool.run_invariant (inv : σ → Prop) (keeps : ∀ {β : Type} (c : Call β) s, inv s → inv (exec c s).2)
    {pool : Pool Call ε α σ ι} (start : inv pool.shared) (schedule : List ι) :
    inv (pool.run exec schedule).shared := by
  induction schedule generalizing pool with
  | nil => exact start
  | cons i rest ih => exact ih (Pool.step_invariant inv keeps start i)

/-- A step of a condition in the middle of a schedule. -/
theorem Pool.Meets.at {pool : Pool Call ε α σ ι} {first : List ι} {i : ι} {rest : List ι}
    (meet : pool.Meets exec meets (first ++ i :: rest)) {β : Type} {c : Call β} {k : β → Prog Call ε α}
    (next : (pool.run exec first).clients i = .call c k) : meets i c (pool.run exec first).shared := by
  induction first generalizing pool with
  | nil =>
      have own := meet.1
      rw [show pool.clients i = .call c k from next] at own
      exact own
  | cons j first ih => exact ih meet.2 next

section Obeys

variable {allowed : ι → List (Prog.Exchange Call) → {β : Type} → Call β → Prop}

theorem Pool.step_obeys {pool : Pool Call ε α σ ι} {past : ι → List (Prog.Exchange Call)}
    (obeys : ∀ i, (pool.clients i).Obeys (allowed i) (past i)) (i j : ι) :
    ((pool.step exec i).clients j).Obeys (allowed j)
      (past j ++ if i = j then (pool.exchange exec i).toList else []) := by
  have own := obeys i
  unfold Pool.step Pool.exchange
  cases shape : pool.clients i with
  | done | fail => simpa using obeys j
  | call c k =>
      rw [shape] at own
      by_cases same : i = j
      · subst same
        simpa using own.2 _
      · simpa [Function.update_of_ne (Ne.symm same), same] using obeys j

/-- Over every schedule a client only makes the calls its exchanges allow it. -/
theorem Pool.run_obeys (allowed : ι → List (Prog.Exchange Call) → {β : Type} → Call β → Prop)
    (past : ι → List (Prog.Exchange Call)) {pool : Pool Call ε α σ ι}
    (obeys : ∀ i, (pool.clients i).Obeys (allowed i) (past i)) (schedule : List ι) (i : ι) :
    ((pool.run exec schedule).clients i).Obeys (allowed i) (past i ++ pool.exchanges exec i schedule) := by
  induction schedule generalizing pool past with
  | nil => simpa [Pool.exchanges] using obeys i
  | cons j rest ih =>
      simpa [Pool.exchanges] using ih _ (Pool.step_obeys obeys j)

end Obeys

section Accounts

variable {post : ι → List (Prog.Exchange Call) → α → Prop}

theorem Pool.step_accounts {pool : Pool Call ε α σ ι} {past : ι → List (Prog.Exchange Call)}
    (accounts : ∀ i, (pool.clients i).Accounts (post i) (past i)) (i j : ι) :
    ((pool.step exec i).clients j).Accounts (post j)
      (past j ++ if i = j then (pool.exchange exec i).toList else []) := by
  have own := accounts i
  unfold Pool.step Pool.exchange
  cases shape : pool.clients i with
  | done | fail => simpa using accounts j
  | call c k =>
      rw [shape] at own
      by_cases same : i = j
      · subst same
        simpa using own _
      · simpa [Function.update_of_ne (Ne.symm same), same] using accounts j

variable (exec) in
/-- Over every schedule what a client returns is accounted for by its exchanges. -/
theorem Pool.run_accounts (past : ι → List (Prog.Exchange Call)) {pool : Pool Call ε α σ ι}
    (accounts : ∀ i, (pool.clients i).Accounts (post i) (past i)) (schedule : List ι) (i : ι) :
    ((pool.run exec schedule).clients i).Accounts (post i) (past i ++ pool.exchanges exec i schedule) := by
  induction schedule generalizing pool past with
  | nil => simpa [Pool.exchanges] using accounts i
  | cons j rest ih =>
      simpa [Pool.exchanges] using ih _ (Pool.step_accounts accounts j)

end Accounts

theorem Pool.exchange_eq_some {pool : Pool Call ε α σ ι} {i : ι} {c : Call β} {reply : β}
    (had : pool.exchange exec i = some ⟨c, reply⟩) :
    (exec c pool.shared).1 = reply ∧ (pool.step exec i).shared = (exec c pool.shared).2 ∧
      ∃ k, pool.clients i = .call c k := by
  unfold Pool.exchange at had
  unfold Pool.step
  cases shape : pool.clients i with
  | done | fail => simp [shape] at had
  | call c' k =>
      rw [shape] at had
      cases had
      exact ⟨rfl, rfl, k, rfl⟩

/-- An exchange a client had, it had at one of its steps. -/
theorem Pool.mem_exchanges {pool : Pool Call ε α σ ι} {schedule : List ι} {i : ι} {exchange : Prog.Exchange Call}
    (mem : exchange ∈ pool.exchanges exec i schedule) :
    ∃ first rest, schedule = first ++ i :: rest ∧ (pool.run exec first).exchange exec i = some exchange := by
  induction schedule generalizing pool with
  | nil => cases mem
  | cons j rest ih =>
      rcases List.mem_append.mp mem with now | later
      · split at now
        · rename_i same
          subst same
          exact ⟨[], rest, rfl, by simpa using now⟩
        · cases now
      · obtain ⟨first, rest', split, had⟩ := ih later
        exact ⟨j :: first, rest', by rw [split]; rfl, had⟩

theorem Pool.Meets.take {pool : Pool Call ε α σ ι} {first rest : List ι}
    (meet : pool.Meets exec meets (first ++ rest)) : pool.Meets exec meets first := by
  induction first generalizing pool with
  | nil => trivial
  | cons i first ih => exact ⟨meet.1, ih meet.2⟩

section Safe

variable {post : ι → α → σ → Prop}
variable (refl : ∀ s, moves s s) (trans : ∀ {a b c}, moves a b → moves b c → moves a c)
variable (stable : ∀ i a s s', moves s s' → post i a s → post i a s')

include refl trans stable

theorem Pool.step_safe {pool : Pool Call ε α σ ι}
    (safe : ∀ i, (pool.clients i).Safe exec moves (meets i) (post i) pool.shared) (i : ι)
    (meet : match pool.clients i with
      | .call c _ => meets i c pool.shared
      | .done _ | .fail _ => True) :
    moves pool.shared (pool.step exec i).shared ∧
      ∀ j, ((pool.step exec i).clients j).Safe exec moves (meets j) (post j) (pool.step exec i).shared := by
  have own := safe i
  unfold Pool.step
  split
  · rename_i c k shape
    rw [shape] at own meet
    obtain ⟨moved, next⟩ := own pool.shared (refl _) meet
    refine ⟨moved, fun j => ?_⟩
    by_cases same : j = i
    · subst same
      simpa using next
    · dsimp only
      rw [Function.update_of_ne same]
      exact Prog.Safe.disturbed trans (stable j) (safe j) moved
  · exact ⟨refl _, safe⟩
  · exact ⟨refl _, safe⟩

/-- Safe clients keep to `moves` over every schedule and are safe where it ends. -/
theorem Pool.run_safe {pool : Pool Call ε α σ ι} {schedule : List ι}
    (safe : ∀ i, (pool.clients i).Safe exec moves (meets i) (post i) pool.shared)
    (meet : pool.Meets exec meets schedule) :
    moves pool.shared (pool.run exec schedule).shared ∧
      ∀ i, ((pool.run exec schedule).clients i).Safe exec moves (meets i) (post i)
        (pool.run exec schedule).shared := by
  induction schedule generalizing pool with
  | nil => exact ⟨refl _, safe⟩
  | cons i rest ih =>
      obtain ⟨moved, next⟩ := Pool.step_safe refl trans stable safe i meet.1
      obtain ⟨later, last⟩ := ih next meet.2
      exact ⟨trans moved later, last⟩

end Safe

end Pool

end Neurons.Lib
