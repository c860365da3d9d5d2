import Neurons.Json
import Neurons.Lib.Sorting

/-! # Replay of brain events

A store applies batches of events, each batch in the order of its time stamps, and keeps the
current event and the last tombstone of every target. An event is known by its idempotency key.
-/

namespace Neurons.Replay

open Neurons.Lib

/-- The fields of an envelope the replay reads. -/
structure BrainEventEnvelope where
  eventId : String
  idempotencyKey : String
  occurredAt : String
  payloadHash : String
  payload : Doc
  tombstone : Bool
  deriving DecidableEq

def targetFields : List Key :=
  [.other "target_id", .field .memoryId, .other "source_ref_id", .other "artifact_id", .other "episode_id"]

def BrainEventEnvelope.targetId (event : BrainEventEnvelope) : String :=
  match targetFields.findSome? (fun key => (Dict.get? event.payload key).filter Json.truthy) with
  | some value => value.text
  | none => event.idempotencyKey

/-- The names the event says it supersedes. -/
def BrainEventEnvelope.supersedes (event : BrainEventEnvelope) : List Json :=
  match event.payload.get? .supersedes with
  | some (.str name) => [.str name]
  | some (.arr names) => names
  | _ => []

def resolvesTombstone (event tombstone : BrainEventEnvelope) : Bool :=
  event.supersedes.contains (.str tombstone.eventId) || event.supersedes.contains (.str tombstone.idempotencyKey)

structure Quarantine where
  eventId : String
  idempotencyKey : String
  targetId : String
  reasonCode : String
  payloadHash : String
  deriving DecidableEq

def quarantine (event : BrainEventEnvelope) (reasonCode : String) : Quarantine :=
  ⟨event.eventId, event.idempotencyKey, event.targetId, reasonCode, event.payloadHash⟩

structure ReplayState where
  seen : Table String BrainEventEnvelope
  current : Table String BrainEventEnvelope
  tombstoned : Table String BrainEventEnvelope
  quarantined : List Quarantine

def ReplayState.empty : ReplayState := ⟨∅, ∅, ∅, []⟩

structure ReplayResult where
  applied : List String
  duplicates : List String
  tombstones : List String
  quarantined : List Quarantine
  currentPayloads : List Doc

/-- The store's state, and what the batch has come to so far. -/
structure Batch where
  state : ReplayState
  applied : List String
  duplicates : List String
  tombstones : List String
  quarantined : List Quarantine

def Batch.setAside (batch : Batch) (event : BrainEventEnvelope) (reasonCode : String) : Batch :=
  { batch with
    state := { batch.state with quarantined := batch.state.quarantined ++ [quarantine event reasonCode] }
    quarantined := batch.quarantined ++ [quarantine event reasonCode] }

def Batch.remember (batch : Batch) (event : BrainEventEnvelope) : Batch :=
  { batch with state := { batch.state with seen := batch.state.seen.set event.idempotencyKey event } }

/-- An event that is new to the store takes effect. -/
def Batch.accept (batch : Batch) (event : BrainEventEnvelope) : Batch :=
  let state := batch.state
  if event.tombstone then
    { batch with
      state := { state with
        current := state.current.erase event.targetId
        tombstoned := state.tombstoned.set event.targetId event }
      tombstones := batch.tombstones ++ [event.eventId]
      applied := batch.applied ++ [event.eventId] }
  else
    { batch with
      state := { state with current := state.current.set event.targetId event }
      applied := batch.applied ++ [event.eventId] }

/-- A delta after a tombstone that it does not name. -/
def ReplayState.blocks (state : ReplayState) (event : BrainEventEnvelope) : Bool :=
  match state.tombstoned.get? event.targetId with
  | some tombstone => !event.tombstone && !resolvesTombstone event tombstone
  | none => false

def applyEvent (batch : Batch) (event : BrainEventEnvelope) : Batch :=
  match batch.state.seen.get? event.idempotencyKey with
  | some prior =>
      if prior.payloadHash = event.payloadHash ∧ prior.tombstone = event.tombstone then
        { batch with duplicates := batch.duplicates ++ [event.eventId] }
      else
        batch.setAside event "idempotency_conflict"
  | none =>
      if batch.state.blocks event then
        (batch.setAside event "current_delta_after_tombstone").remember event
      else
        (batch.remember event).accept event

def orderKey (event : BrainEventEnvelope) : String ×ₗ String := toLex (event.occurredAt, event.eventId)

def applyInOrder (state : ReplayState) (events : List BrainEventEnvelope) : Batch :=
  events.foldl applyEvent ⟨state, [], [], [], []⟩

/-- `apply`: what it reports, and the state it leaves. -/
def apply (state : ReplayState) (events : List BrainEventEnvelope) : ReplayResult × ReplayState :=
  let batch := applyInOrder state (sortOn orderKey events)
  (⟨batch.applied, batch.duplicates, batch.tombstones, batch.quarantined,
    batch.state.current.values.map (·.payload)⟩, batch.state)

/-- The batches are applied one after another. -/
def applyBatches (state : ReplayState) (batches : List (List BrainEventEnvelope)) : ReplayState :=
  batches.foldl (fun state batch => (apply state batch).2) state

/-- The payload a target currently has. -/
def ReplayState.currentPayload (state : ReplayState) (target : String) : Option Doc :=
  (state.current.get? target).map (·.payload)

def ReplayState.tombstones (state : ReplayState) (target : String) : Bool :=
  (state.tombstoned.get? target).isSome

end Neurons.Replay
