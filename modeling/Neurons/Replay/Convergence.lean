import Mathlib.Tactic.ByContra
import Neurons.Replay.EventReplay

/-! # When replay does not depend on the order of arrival

An event that is new to the store only moves its own target, so every target is a small machine
run by its own events in the order they arrive. The machine forgets that order only if
its deltas all say the same, or if none of them gets past a tombstone.
-/

namespace Neurons.Replay

open Neurons.Lib

/-! ## One target -/

/-- What the store knows of one target. -/
structure TargetView where
  current : Option BrainEventEnvelope
  tombstone : Option BrainEventEnvelope

namespace TargetView

def blank : TargetView := ⟨none, none⟩

/-- One more event of the target. -/
def next (view : TargetView) (event : BrainEventEnvelope) : TargetView :=
  if event.tombstone then ⟨none, some event⟩
  else
    match view.tombstone with
    | none => { view with current := some event }
    | some tombstone => if resolvesTombstone event tombstone then { view with current := some event } else view

def after (events : List BrainEventEnvelope) : TargetView := events.foldl next blank

@[simp] theorem after_nil : after [] = blank := rfl

@[simp] theorem after_snoc (events : List BrainEventEnvelope) (event : BrainEventEnvelope) :
    after (events ++ [event]) = (after events).next event := by
  simp [after]

theorem next_of_tombstone {view : TargetView} {event : BrainEventEnvelope} (kind : event.tombstone = true) :
    view.next event = ⟨none, some event⟩ := by
  simp [next, kind]

theorem next_tombstone_of_delta {view : TargetView} {event : BrainEventEnvelope} (kind : event.tombstone = false) :
    (view.next event).tombstone = view.tombstone := by
  simp only [next, kind, Bool.false_eq_true, if_false]
  split
  · rfl
  · split <;> rfl

/-- The tombstone kept is one of the target's events. -/
theorem mem_of_tombstone {events : List BrainEventEnvelope} {tombstone : BrainEventEnvelope}
    (kept : (after events).tombstone = some tombstone) : tombstone ∈ events ∧ tombstone.tombstone = true := by
  induction events using List.reverseRecOn with
  | nil => simp [blank] at kept
  | append_singleton events event ih =>
      rw [after_snoc] at kept
      cases kind : event.tombstone with
      | true =>
          rw [next_of_tombstone kind] at kept
          obtain rfl := Option.some.inj kept
          exact ⟨by simp, kind⟩
      | false =>
          rw [next_tombstone_of_delta kind] at kept
          obtain ⟨mem, isTombstone⟩ := ih kept
          exact ⟨List.mem_append_left _ mem, isTombstone⟩

theorem tombstone_isSome (events : List BrainEventEnvelope) :
    (after events).tombstone.isSome = events.any (·.tombstone) := by
  induction events using List.reverseRecOn with
  | nil => rfl
  | append_singleton events event ih =>
      rw [after_snoc, List.any_append]
      cases kind : event.tombstone with
      | true => simp [next_of_tombstone kind, kind]
      | false => simp [next_tombstone_of_delta kind, ih, kind]

/-- Without a tombstone the last delta is current. -/
theorem after_deltas {events : List BrainEventEnvelope} (deltas : ∀ event ∈ events, event.tombstone = false) :
    after events = ⟨events.getLast?, none⟩ := by
  induction events using List.reverseRecOn with
  | nil => rfl
  | append_singleton events event ih =>
      have before := ih fun earlier mem => deltas earlier (List.mem_append_left _ mem)
      have kind := deltas event (by simp)
      simp [before, next, kind]

/-- Deltas that resolve no tombstone leave a tombstoned target without a current event. -/
theorem after_unresolved {events : List BrainEventEnvelope} (entombed : ∃ event ∈ events, event.tombstone = true)
    (unresolved : ∀ delta ∈ events, delta.tombstone = false → ∀ tombstone ∈ events, tombstone.tombstone = true →
      resolvesTombstone delta tombstone = false) :
    (after events).current = none := by
  induction events using List.reverseRecOn with
  | nil => simp at entombed
  | append_singleton events event ih =>
      rw [after_snoc]
      cases kind : event.tombstone with
      | true => rw [next_of_tombstone kind]
      | false =>
          have earlier : ∃ event ∈ events, event.tombstone = true := by
            obtain ⟨tombstone, mem, isTombstone⟩ := entombed
            rcases List.mem_append.mp mem with old | new
            · exact ⟨tombstone, old, isTombstone⟩
            · rw [List.mem_singleton.mp new] at isTombstone
              exact absurd (kind.symm.trans isTombstone) (by simp)
          have before := ih earlier fun delta mem isDelta tombstone also =>
            unresolved delta (List.mem_append_left _ mem) isDelta tombstone (List.mem_append_left _ also)
          have kept : (after events).tombstone.isSome := by
            rw [tombstone_isSome, List.any_eq_true]
            exact earlier
          obtain ⟨tombstone, found⟩ := Option.isSome_iff_exists.mp kept
          obtain ⟨mem, isTombstone⟩ := mem_of_tombstone found
          have blocked := unresolved event (by simp) kind tombstone (List.mem_append_left _ mem) isTombstone
          simp [next, kind, found, blocked, before]

end TargetView

/-! ## The store is one machine for each target -/

def ReplayState.view (state : ReplayState) (target : String) : TargetView :=
  ⟨state.current.get? target, state.tombstoned.get? target⟩

/-- An event with a new key moves its own target. -/
theorem applyEvent_view {batch : Batch} {event : BrainEventEnvelope}
    (fresh : batch.state.seen.get? event.idempotencyKey = none) (target : String) :
    (applyEvent batch event).state.view target
      = if event.targetId = target then (batch.state.view target).next event else batch.state.view target := by
  simp only [applyEvent, fresh]
  by_cases here : event.targetId = target
  · subst here
    cases kind : event.tombstone with
    | true =>
        have open_ : batch.state.blocks event = false := by
          simp only [ReplayState.blocks, kind]
          split <;> rfl
        simp [open_, Batch.accept, Batch.remember, kind, ReplayState.view, TargetView.next, Table.get?_erase]
    | false =>
        cases found : batch.state.tombstoned.get? event.targetId with
        | none =>
            simp [ReplayState.blocks, found, Batch.accept, Batch.remember, kind, ReplayState.view, TargetView.next]
        | some tombstone =>
            cases resolved : resolvesTombstone event tombstone <;>
              simp [ReplayState.blocks, found, resolved, Batch.accept, Batch.remember, Batch.setAside, kind,
                ReplayState.view, TargetView.next]
  · have elsewhere : ¬ target = event.targetId := fun same => here same.symm
    by_cases blocked : batch.state.blocks event
    · simp [blocked, here, Batch.remember, Batch.setAside, ReplayState.view]
    · cases kind : event.tombstone <;>
        simp [blocked, here, elsewhere, Batch.accept, Batch.remember, kind, ReplayState.view, Table.get?_erase,
          Table.get?_set]

theorem applyEvent_seen {batch : Batch} {event : BrainEventEnvelope}
    (fresh : batch.state.seen.get? event.idempotencyKey = none) :
    (applyEvent batch event).state.seen = batch.state.seen.set event.idempotencyKey event := by
  simp only [applyEvent, fresh]
  by_cases blocked : batch.state.blocks event
  · simp [blocked, Batch.remember, Batch.setAside]
  · cases kind : event.tombstone <;> simp [blocked, Batch.accept, Batch.remember, kind]

/-- An event the store has seen changes nothing. -/
theorem applyEvent_again {batch : Batch} {event : BrainEventEnvelope}
    (seen : batch.state.seen.get? event.idempotencyKey = some event) : (applyEvent batch event).state = batch.state := by
  simp [applyEvent, seen]

/-! ## Runs of the store -/

/-- The store has seen just these events, and every target is where its own events put it. -/
structure Reflects (state : ReplayState) (arrived : List BrainEventEnvelope) : Prop where
  seen : ∀ event ∈ arrived, state.seen.get? event.idempotencyKey = some event
  unseen : ∀ key, (∀ event ∈ arrived, event.idempotencyKey ≠ key) → state.seen.get? key = none
  view : ∀ target, state.view target = .after (arrived.filter (·.targetId = target))

theorem Reflects.empty : Reflects .empty [] where
  seen event mem := by simp at mem
  unseen key _ := rfl
  view target := rfl

theorem Reflects.snoc {batch : Batch} {arrived : List BrainEventEnvelope} (reflects : Reflects batch.state arrived)
    {event : BrainEventEnvelope} (new : ∀ earlier ∈ arrived, earlier.idempotencyKey ≠ event.idempotencyKey) :
    Reflects (applyEvent batch event).state (arrived ++ [event]) := by
  have fresh := reflects.unseen event.idempotencyKey new
  refine ⟨?_, ?_, ?_⟩
  · intro known mem
    rw [applyEvent_seen fresh, Table.get?_set]
    rcases List.mem_append.mp mem with old | last
    · rw [if_neg (new known old)]
      exact reflects.seen known old
    · rw [List.mem_singleton.mp last, if_pos rfl]
  · intro key apart
    have other : key ≠ event.idempotencyKey := fun same => apart event (by simp) same.symm
    rw [applyEvent_seen fresh, Table.get?_set, if_neg other]
    exact reflects.unseen key fun earlier mem => apart earlier (List.mem_append_left _ mem)
  · intro target
    rw [applyEvent_view fresh, reflects.view]
    by_cases here : event.targetId = target <;> simp [here]

theorem Reflects.foldl {batch : Batch} {arrived events : List BrainEventEnvelope}
    (reflects : Reflects batch.state arrived) (distinct : ((arrived ++ events).map (·.idempotencyKey)).Nodup) :
    Reflects (events.foldl applyEvent batch).state (arrived ++ events) := by
  induction events generalizing batch arrived with
  | nil => simpa using reflects
  | cons event events ih =>
      have longer : arrived ++ event :: events = (arrived ++ [event]) ++ events := by simp
      rw [longer] at distinct ⊢
      have new : ∀ earlier ∈ arrived, earlier.idempotencyKey ≠ event.idempotencyKey := by
        intro earlier mem same
        have front := (List.nodup_append.mp (List.map_append ▸ distinct)).1
        rw [List.map_append, List.nodup_append] at front
        exact front.2.2 _ (List.mem_map_of_mem mem) _ (by simp) same
      exact ih (reflects.snoc new) distinct

/-- The order the events of all batches take effect in. -/
def arrival (batches : List (List BrainEventEnvelope)) : List BrainEventEnvelope := batches.flatMap (sortOn orderKey)

theorem arrival_perm (batches : List (List BrainEventEnvelope)) : (arrival batches).Perm batches.flatten := by
  induction batches with
  | nil => exact .nil
  | cons batch batches ih => exact (sortOn_perm orderKey batch).append ih

theorem Reflects.batches {state : ReplayState} {arrived : List BrainEventEnvelope} (reflects : Reflects state arrived)
    {batches : List (List BrainEventEnvelope)}
    (distinct : ((arrived ++ arrival batches).map (·.idempotencyKey)).Nodup) :
    Reflects (applyBatches state batches) (arrived ++ arrival batches) := by
  induction batches generalizing state arrived with
  | nil => simpa [arrival, applyBatches] using reflects
  | cons batch batches ih =>
      have longer : arrived ++ arrival (batch :: batches) = (arrived ++ sortOn orderKey batch) ++ arrival batches := by
        simp [arrival]
      rw [longer] at distinct ⊢
      have front := (List.nodup_append.mp (List.map_append ▸ distinct)).1
      have first : Reflects (apply state batch).2 (arrived ++ sortOn orderKey batch) := by
        have start : Reflects (Batch.mk state [] [] [] []).state arrived := reflects
        exact start.foldl front
      exact ih first distinct

/-- Seen events leave the store as it is. -/
theorem Reflects.again {state : ReplayState} {arrived : List BrainEventEnvelope} (reflects : Reflects state arrived)
    {events : List BrainEventEnvelope} (known : ∀ event ∈ events, event ∈ arrived) : (apply state events).2 = state := by
  have unchanged : ∀ (rest : List BrainEventEnvelope) (batch : Batch), (∀ event ∈ rest, event ∈ arrived) →
      batch.state = state → (rest.foldl applyEvent batch).state = state := by
    intro rest
    induction rest with
    | nil => exact fun batch _ same => same
    | cons event rest ih =>
        intro batch all same
        refine ih _ (fun later mem => all later (List.mem_cons_of_mem _ mem)) ?_
        rw [applyEvent_again, same]
        rw [same]
        exact reflects.seen event (all event (by simp))
  refine unchanged _ _ (fun event mem => ?_) rfl
  exact known event ((mem_sortOn orderKey).mp mem)

/-! ## Convergence -/

/-- The same current payload for every target, and the same tombstoned targets. -/
def Agree (state other : ReplayState) : Prop :=
  ∀ target, state.currentPayload target = other.currentPayload target ∧ state.tombstones target = other.tombstones target

/-- However the events are split into batches and in whichever order these arrive, the store ends
    as after one batch of all events, and events it has applied change nothing when they come again. -/
structure Converges (events : List BrainEventEnvelope) : Prop where
  agree : ∀ batches : List (List BrainEventEnvelope), batches.flatten.Perm events →
    Agree (applyBatches .empty batches) (apply .empty events).2
  again : ∀ earlier later : List (List BrainEventEnvelope), (earlier ++ later).flatten.Perm events →
    ∀ repeated : List BrainEventEnvelope, (∀ event ∈ repeated, event ∈ earlier.flatten) →
      (apply (applyBatches .empty earlier) repeated).2 = applyBatches .empty earlier

/-- No delta resolves a tombstone of its target, and the deltas of a target without a tombstone
    have one payload. -/
structure OrderFree (events : List BrainEventEnvelope) : Prop where
  unresolved : ∀ delta ∈ events, delta.tombstone = false → ∀ tombstone ∈ events, tombstone.tombstone = true →
    tombstone.targetId = delta.targetId → resolvesTombstone delta tombstone = false
  alike : ∀ delta ∈ events, ∀ other ∈ events, other.targetId = delta.targetId →
    (∀ event ∈ events, event.targetId = delta.targetId → event.tombstone = false) → other.payload = delta.payload

section Orders

variable {events : List BrainEventEnvelope}

theorem reflects_arrival (distinct : (events.map (·.idempotencyKey)).Nodup)
    {batches : List (List BrainEventEnvelope)} (perm : batches.flatten.Perm events) :
    Reflects (applyBatches .empty batches) (arrival batches) := by
  have arrived := ((arrival_perm batches).trans perm).map (·.idempotencyKey)
  exact Reflects.empty.batches (by simpa using arrived.nodup_iff.mpr distinct)

theorem reflects_once (distinct : (events.map (·.idempotencyKey)).Nodup) :
    Reflects (apply .empty events).2 (sortOn orderKey events) := by
  have single : Reflects (applyBatches .empty [events]) (arrival [events]) := reflects_arrival distinct (by simp)
  rw [arrival, List.flatMap_singleton] at single
  exact single

theorem Reflects.currentPayload {state : ReplayState} {arrived : List BrainEventEnvelope}
    (reflects : Reflects state arrived) (target : String) :
    state.currentPayload target = (TargetView.after (arrived.filter (·.targetId = target))).current.map (·.payload) := by
  rw [← reflects.view]
  rfl

theorem Reflects.tombstones {state : ReplayState} {arrived : List BrainEventEnvelope}
    (reflects : Reflects state arrived) (target : String) :
    state.tombstones target = arrived.any (fun event => event.targetId = target ∧ event.tombstone) := by
  have kept := TargetView.tombstone_isSome (arrived.filter (·.targetId = target))
  rw [← reflects.view] at kept
  simp only [ReplayState.tombstones]
  rw [show (state.tombstoned.get? target).isSome = (state.view target).tombstone.isSome from rfl, kept, List.any_filter]
  simp

/-- Two orders of the same events that forget their order leave a target with the same payload. -/
theorem OrderFree.payload_eq (free : OrderFree events) {first second : List BrainEventEnvelope}
    (firstPerm : first.Perm events) (secondPerm : second.Perm events) (target : String) :
    (TargetView.after (first.filter (·.targetId = target))).current.map (·.payload)
      = (TargetView.after (second.filter (·.targetId = target))).current.map (·.payload) := by
  have inFirst : ∀ event, event ∈ first.filter (·.targetId = target) ↔ event ∈ events ∧ event.targetId = target := by
    intro event
    simp [firstPerm.mem_iff]
  have inSecond : ∀ event, event ∈ second.filter (·.targetId = target) ↔ event ∈ events ∧ event.targetId = target := by
    intro event
    simp [secondPerm.mem_iff]
  by_cases entombed : ∃ event ∈ events, event.targetId = target ∧ event.tombstone = true
  · obtain ⟨tombstone, mem, here, kind⟩ := entombed
    have silent : ∀ order : List BrainEventEnvelope,
        (∀ event, event ∈ order ↔ event ∈ events ∧ event.targetId = target) → (TargetView.after order).current = none := by
      intro order members
      apply TargetView.after_unresolved
      · exact ⟨tombstone, (members tombstone).mpr ⟨mem, here⟩, kind⟩
      · intro delta isIn isDelta other alsoIn isTombstone
        obtain ⟨known, same⟩ := (members delta).mp isIn
        obtain ⟨alsoKnown, also⟩ := (members other).mp alsoIn
        exact free.unresolved delta known isDelta other alsoKnown isTombstone (also.trans same.symm)
    rw [silent _ inFirst, silent _ inSecond]
  · have deltas : ∀ event ∈ events, event.targetId = target → event.tombstone = false := by
      intro event mem here
      by_contra kind
      exact entombed ⟨event, mem, here, by simpa using kind⟩
    rw [TargetView.after_deltas fun event mem => deltas event ((inFirst event).mp mem).1 ((inFirst event).mp mem).2,
      TargetView.after_deltas fun event mem => deltas event ((inSecond event).mp mem).1 ((inSecond event).mp mem).2]
    have sameEvents : (first.filter (·.targetId = target)).Perm (second.filter (·.targetId = target)) :=
      (firstPerm.trans secondPerm.symm).filter _
    cases last : (first.filter (·.targetId = target)).getLast? with
    | none =>
        rw [List.getLast?_eq_none_iff] at last
        rw [last] at sameEvents
        rw [sameEvents.nil_eq.symm]
        rfl
    | some delta =>
        cases also : (second.filter (·.targetId = target)).getLast? with
        | none =>
            rw [List.getLast?_eq_none_iff] at also
            rw [also] at sameEvents
            simp [sameEvents.eq_nil] at last
        | some other =>
            obtain ⟨mem, here⟩ := (inFirst delta).mp (List.mem_of_getLast? last)
            obtain ⟨alsoMem, alsoHere⟩ := (inSecond other).mp (List.mem_of_getLast? also)
            have one := free.alike delta mem other alsoMem (alsoHere.trans here.symm) fun event isIn same =>
              deltas event isIn (same.trans here)
            simp [one]

/-- One batch for each event, in a chosen order. -/
theorem arrival_singletons (order : List BrainEventEnvelope) : arrival (order.map ([·])) = order := by
  induction order with
  | nil => rfl
  | cons event order ih =>
      rw [List.map_cons, arrival, List.flatMap_cons, ← arrival, ih]
      rfl

/-- A converging store gives a target the same payload in any order of the events. -/
theorem Converges.payload_of_order (converges : Converges events) (distinct : (events.map (·.idempotencyKey)).Nodup)
    {order : List BrainEventEnvelope} (perm : order.Perm events) (target : String) :
    (TargetView.after (order.filter (·.targetId = target))).current.map (·.payload)
      = (apply .empty events).2.currentPayload target := by
  have flat : ((order.map ([·])).flatten).Perm events := by
    refine (arrival_perm (order.map ([·]))).symm.trans ?_
    rwa [arrival_singletons]
  have reflects := reflects_arrival distinct flat
  rw [arrival_singletons] at reflects
  rw [← reflects.currentPayload]
  exact (converges.agree _ flat target).1

/-- Two members of a list can be brought to its end. -/
theorem perm_snoc_pair {event other : BrainEventEnvelope} (mem : event ∈ events) (also : other ∈ events)
    (apart : other ≠ event) :
    ((events.erase event).erase other ++ [event, other]).Perm events := by
  have inner : other ∈ events.erase event := (List.mem_erase_of_ne apart).mpr also
  have first := List.perm_cons_erase mem
  have second := List.perm_cons_erase inner
  exact (List.perm_append_comm.trans (second.symm.cons event)).trans first.symm

theorem perm_snoc {event : BrainEventEnvelope} (mem : event ∈ events) : (events.erase event ++ [event]).Perm events :=
  List.perm_append_comm.trans (List.perm_cons_erase mem).symm

/-- In a converging store no delta resolves a tombstone of its target. -/
theorem Converges.unresolved (converges : Converges events) (distinct : (events.map (·.idempotencyKey)).Nodup)
    {delta tombstone : BrainEventEnvelope} (mem : delta ∈ events) (isDelta : delta.tombstone = false)
    (also : tombstone ∈ events) (isTombstone : tombstone.tombstone = true) (here : tombstone.targetId = delta.targetId) :
    resolvesTombstone delta tombstone = false := by
  by_contra resolves
  rw [Bool.not_eq_false] at resolves
  have apart : delta ≠ tombstone := by
    intro same
    rw [same, isTombstone] at isDelta
    cases isDelta
  -- the tombstone first lets the delta through, the delta first is taken away
  have through := converges.payload_of_order distinct (perm_snoc_pair also mem apart) delta.targetId
  have taken := converges.payload_of_order distinct (perm_snoc_pair mem also apart.symm) delta.targetId
  rw [List.filter_append, ← taken, List.filter_append] at through
  simp [here, TargetView.after, TargetView.next, isTombstone, isDelta, resolves] at through

/-- In a converging store the deltas of a target without a tombstone have one payload. -/
theorem Converges.alike (converges : Converges events) (distinct : (events.map (·.idempotencyKey)).Nodup)
    {delta other : BrainEventEnvelope} (mem : delta ∈ events) (also : other ∈ events)
    (here : other.targetId = delta.targetId)
    (deltas : ∀ event ∈ events, event.targetId = delta.targetId → event.tombstone = false) :
    other.payload = delta.payload := by
  have last : ∀ event ∈ events, event.targetId = delta.targetId →
      (apply .empty events).2.currentPayload delta.targetId = some event.payload := by
    intro event isIn same
    have kinds : ∀ known ∈ (events.erase event ++ [event]).filter (·.targetId = delta.targetId),
        known.tombstone = false := by
      intro known isKnown
      obtain ⟨listed, target⟩ := List.mem_filter.mp isKnown
      exact deltas known ((perm_snoc isIn).mem_iff.mp listed) (by simpa using target)
    rw [← converges.payload_of_order distinct (perm_snoc isIn), TargetView.after_deltas kinds, List.filter_append]
    simp [same]
  have one := (last other also here).symm.trans (last delta mem rfl)
  exact Option.some.inj one

end Orders

/-- Replay of events with distinct keys converges exactly when the order of arrival has nothing to
    decide. -/
theorem replay_converges_iff {events : List BrainEventEnvelope} (distinct : (events.map (·.idempotencyKey)).Nodup) :
    Converges events ↔ OrderFree events := by
  constructor
  · intro converges
    exact {
      unresolved := fun delta mem isDelta tombstone also isTombstone here =>
        converges.unresolved distinct mem isDelta also isTombstone here
      alike := fun delta mem other also here deltas => converges.alike distinct mem also here deltas }
  · intro free
    have once := reflects_once distinct
    refine ⟨?_, ?_⟩
    · intro batches perm target
      have reflects := reflects_arrival distinct perm
      have arrived := (arrival_perm batches).trans perm
      refine ⟨?_, ?_⟩
      · rw [reflects.currentPayload, once.currentPayload]
        exact free.payload_eq arrived (sortOn_perm orderKey events) target
      · rw [reflects.tombstones, once.tombstones]
        exact (arrived.trans (sortOn_perm orderKey events).symm).any_eq
    · intro earlier later perm repeated known
      have flat : earlier.flatten.Sublist (earlier ++ later).flatten := by simp
      have keys := (perm.map (·.idempotencyKey)).nodup_iff.mpr distinct
      have reflects := reflects_arrival (keys.sublist (flat.map _)) (List.Perm.refl earlier.flatten)
      exact reflects.again fun event mem => (arrival_perm earlier).mem_iff.mpr (known event mem)

/-! An update that arrives late, after a later one. -/

def taskEvent (eventId idempotencyKey occurredAt task : String) : BrainEventEnvelope where
  eventId := eventId
  idempotencyKey := idempotencyKey
  occurredAt := occurredAt
  payloadHash := "sha256:" ++ task
  payload := Dict.insert (Doc.ofFields [(.title, .str task)]) (.other "target_id") (.str "task:ctx")
  tombstone := false

def createdEvent : BrainEventEnvelope :=
  taskEvent "evt_001" "brain_event:task:create" "2026-06-18T00:01:00Z" "initial context task"

def updatedEvent : BrainEventEnvelope :=
  taskEvent "evt_002" "brain_event:task:update" "2026-06-18T00:02:00Z" "newer context task"

/-- The store goes back to the older payload. -/
theorem late_update_diverges :
    ¬ Converges [createdEvent, updatedEvent]
      ∧ (applyBatches .empty [[updatedEvent], [createdEvent]]).currentPayload "task:ctx" = some createdEvent.payload := by
  have late : (applyBatches .empty [[updatedEvent], [createdEvent]]).currentPayload "task:ctx"
      = some createdEvent.payload := by decide +kernel
  refine ⟨fun converges => ?_, late⟩
  have once : (apply .empty [createdEvent, updatedEvent]).2.currentPayload "task:ctx"
      = some updatedEvent.payload := by decide +kernel
  have apart : createdEvent.payload ≠ updatedEvent.payload := by decide +kernel
  have same := (converges.agree [[updatedEvent], [createdEvent]] (List.Perm.swap _ _ _) "task:ctx").1
  rw [late, once] at same
  exact apart (Option.some.inj same)

def deletedEvent : BrainEventEnvelope :=
  { taskEvent "evt_004" "brain_event:task:delete" "2026-06-18T00:03:00Z" "superseded" with tombstone := true }

/-- A target that has a tombstone nothing resolves converges. -/
theorem entombed_task_converges : Converges [createdEvent, updatedEvent, deletedEvent] :=
  (replay_converges_iff (by decide +kernel)).mpr
    { unresolved := by decide +kernel
      alike := by
        intro delta mem other also here deltas
        have oneTarget : ∀ event ∈ [createdEvent, updatedEvent, deletedEvent],
            deletedEvent.targetId = event.targetId := by decide +kernel
        cases deltas deletedEvent (by simp) (oneTarget delta mem) }

end Neurons.Replay
