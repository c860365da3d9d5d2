import Mathlib.Data.Finset.Sort
import Mathlib.Tactic.Ring
import Neurons.Json

/-! # The one-off graph replay

Authority rows are handed to the graph adapter one by one. A checkpoint file lists the keys
that are completed, the keys that are given up, and how often the others have been retried.
-/

namespace Neurons.Replay

open Neurons.Lib

/-- What Python and its libraries do to a text. -/
structure Host where
  redactText : String → String
  /-- `text.strip().lower()`. -/
  stripLower : String → String
  /-- `sha256(text).hexdigest()[:16]`. -/
  digest : String → String

/-- An exception: its class and its text. -/
structure Raised where
  typeName : String
  text : String
  deriving DecidableEq, Repr

/-! ## Keys -/

def keySep : String := "\x1f"

/-- The four parts an item is known by; only the first three make its key. -/
structure KeyParts where
  sourceType : String
  sourceId : String
  sourceRevision : String
  contentHash : String
  deriving DecidableEq, Repr

def canonicalKeyStr (parts : KeyParts) : String :=
  keySep.intercalate [parts.sourceType, parts.sourceId, parts.sourceRevision]

def keyDigest (host : Host) (parts : KeyParts) : String :=
  host.digest ("|".intercalate
    [parts.sourceType, parts.sourceId, parts.sourceRevision, parts.contentHash])

/-! ## The checkpoint -/

structure ReplayCheckpoint where
  completed : Finset String
  retryCounts : Dict String ℕ
  deadLetter : Finset String

/-- What the checkpoint file holds. -/
structure CheckpointFile where
  version : ℕ
  completed : List String
  retryCounts : Dict String ℕ
  deadLetter : List String

def checkpointVersion : ℕ := 1

namespace ReplayCheckpoint

def empty : ReplayCheckpoint := ⟨∅, ∅, ∅⟩

def retries (state : ReplayCheckpoint) (key : String) : ℕ := (state.retryCounts.get? key).getD 0

/-- The key is completed or given up. -/
def Settled (state : ReplayCheckpoint) (key : String) : Prop := key ∈ state.completed ∨ key ∈ state.deadLetter

instance (state : ReplayCheckpoint) (key : String) : Decidable (state.Settled key) :=
  inferInstanceAs (Decidable (_ ∨ _))

def complete (state : ReplayCheckpoint) (key : String) : ReplayCheckpoint :=
  { state with completed := insert key state.completed }

def giveUp (state : ReplayCheckpoint) (key : String) : ReplayCheckpoint :=
  { state with deadLetter := insert key state.deadLetter }

def retryLater (state : ReplayCheckpoint) (key : String) : ReplayCheckpoint :=
  { state with retryCounts := state.retryCounts.insert key (state.retries key + 1) }

end ReplayCheckpoint

def loadCheckpoint : Option CheckpointFile → ReplayCheckpoint
  | none => .empty
  | some file => ⟨file.completed.toFinset, file.retryCounts, file.deadLetter.toFinset⟩

def saveCheckpoint (state : ReplayCheckpoint) : CheckpointFile where
  version := checkpointVersion
  completed := state.completed.sort (· ≤ ·)
  retryCounts := state.retryCounts
  deadLetter := state.deadLetter.sort (· ≤ ·)

@[simp] theorem loadCheckpoint_save (state : ReplayCheckpoint) :
    loadCheckpoint (some (saveCheckpoint state)) = state := by
  simp [loadCheckpoint, saveCheckpoint]

/-! ## Payloads -/

section Payloads

variable (host : Host)

mutual

def redactValue : Json → Json
  | .str text => .str (host.redactText text)
  | .arr items => .arr (redactItems items)
  | .obj fields => .obj (redactFields fields)
  | value => value

def redactItems : List Json → List Json
  | [] => []
  | item :: items => redactValue item :: redactItems items

def redactFields : List (Key × Json) → List (Key × Json)
  | [] => []
  | (key, value) :: fields => (key, redactValue value) :: redactFields fields

end

def requiredKeyFields : List Field := [.sourceType, .sourceId, .sourceRevision, .contentHash]

/-- The redacted payload of one authority row; a row without one of the key's parts has none. -/
def buildRedactedEpisodePayload (item : Doc) : Except Raised Doc :=
  match requiredKeyFields.find? (fun field => item.text field = "") with
  | some field => .error ⟨"ValueError", "missing_" ++ field.name⟩
  | none =>
      let memoryId := if item.text .memoryId = "" then item.text .sourceId else item.text .memoryId
      .ok (Doc.ofFields [
        (.sourceType, .str (item.text .sourceType)),
        (.sourceId, .str (item.text .sourceId)),
        (.sourceRevision, .str (item.text .sourceRevision)),
        (.contentHash, .str (item.text .contentHash)),
        (.authorityMemoryId, .str memoryId),
        (.project, .str (item.text .project)),
        (.cardType, .str (item.text .cardType)),
        (.title, .str (host.redactText (item.text .title))),
        (.summary, .str (host.redactText (item.text .summary))),
        (.typedPayload, redactValue host ((item.value? .typedPayload).getD (.obj []))),
        (.lifecycleState, .str (item.text .lifecycleState)),
        (.currentness, .str (item.text .currentness))])

end Payloads

/-! ## The adapter -/

/-- What a call of the adapter comes to: a result, whose text is given unless it is `None`, or an
    exception of a class. -/
inductive Reply where
  | returned (result : Option String)
  | raised (typeName : String)
  deriving DecidableEq, Repr

/-- How an adapter answers a payload, after the payloads it was given before. -/
abbrev Answering := List Doc → Doc → Reply

/-- The ways an adapter can be called. -/
inductive Adapter where
  | upsertEpisode (answer : Answering)
  | addEpisode (answer : Answering)
  | callable (answer : Answering)
  | unsupported

def Adapter.reply (given : List Doc) (payload : Doc) : Adapter → Option Reply
  | .upsertEpisode answer | .addEpisode answer | .callable answer => some (answer given payload)
  | .unsupported => none

inductive Outcome where
  | inserted | duplicate | skippedDisabled | failed
  deriving DecidableEq, Repr

/-- The outcome an adapter's result stands for. -/
def normalizedOutcome (host : Host) (requireExplicitResult : Bool) : Option String → Outcome
  | none => if requireExplicitResult then .failed else .inserted
  | some result =>
      let text := host.stripLower result
      if requireExplicitResult then
        if text = "inserted" then .inserted else if text = "duplicate" then .duplicate else .failed
      else if text ∈ ["inserted", "projected", "ok", "success", "completed"] then .inserted
      else if text = "duplicate" then .duplicate
      else if text = "skipped_disabled" then .skippedDisabled
      else .failed

/-- What the seam makes of the adapter's reply; the class of the exception if there is one. -/
def callAdapterSeam (host : Host) (reply : Option Reply) (requireExplicitResult : Bool) : Except String Outcome :=
  match reply with
  | none => .error "TypeError"
  | some (.raised typeName) => .error typeName
  | some (.returned result) => .ok (normalizedOutcome host requireExplicitResult result)

/-! ## Failures -/

inductive Disposition where
  | retry | deadLetter
  deriving DecidableEq, Repr

structure ReplayFailure where
  keyDigest : String
  sourceType : String
  reasonCode : String
  disposition : Disposition
  deriving DecidableEq, Repr

def retryableReasonCodes : List String :=
  ["TimeoutError", "ConnectionError", "TemporaryFailure", "failed", "timeout", "unavailable", "error"]

def classifyFailure (reasonCode : String) (retriesUsed : ℕ) (maxRetries : ℤ) : Disposition :=
  if "missing_".toList.isPrefixOf reasonCode.toList
      ∨ reasonCode ∈ ["malformed_canonical_key", "unsupported_adapter_seam", "ValueError"] then
    .deadLetter
  else if reasonCode ∈ retryableReasonCodes ∧ (retriesUsed : ℤ) < maxRetries then
    .retry
  else
    .deadLetter

/-! ## A run -/

/-- A call of the adapter, and the key it was made for. -/
structure Call where
  key : String
  payload : Doc
  reply : Reply

structure GraphReplayReport where
  status : String
  attempted : ℕ
  projected : ℕ
  skippedDuplicate : ℕ
  retry : ℕ
  deadLetter : ℕ
  failures : List ReplayFailure
  deriving DecidableEq, Repr

/-- What one run is given. -/
structure Run where
  items : List Doc
  adapter : Adapter
  keyFn : Option (Doc → Except Raised KeyParts)

/-- Where a run stands between two items. -/
structure Progress where
  state : ReplayCheckpoint
  calls : List Call
  projected : ℕ
  skippedDuplicate : ℕ
  failures : List ReplayFailure

section Running

variable (host : Host) (maxRetries : ℤ)

def keyOf (keyFn : Option (Doc → Except Raised KeyParts)) (item : Doc) : Except Raised KeyParts :=
  match keyFn with
  | some f => f item
  | none =>
      (buildRedactedEpisodePayload host item).map fun probe =>
        ⟨probe.text .sourceType, probe.text .sourceId, probe.text .sourceRevision, probe.text .contentHash⟩

/-- The item with the four parts its key was made from. -/
def withKeyParts (item : Doc) (parts : KeyParts) : Doc :=
  item.update [(.sourceType, .str parts.sourceType), (.sourceId, .str parts.sourceId),
    (.sourceRevision, .str parts.sourceRevision), (.contentHash, .str parts.contentHash)]

/-- An item without a key is given up at once. -/
def unkeyed (progress : Progress) (item : Doc) (raised : Raised) : Progress :=
  let missing := "missing_".toList.isPrefixOf raised.text.toList
  { progress with
    failures := progress.failures ++ [{
      keyDigest := host.digest raised.text
      sourceType := if item.text .sourceType = "" then "unknown" else item.text .sourceType
      reasonCode := if missing then raised.text else raised.typeName
      disposition := .deadLetter }] }

def fail (progress : Progress) (parts : KeyParts) (reasonCode : String) : Progress :=
  let key := canonicalKeyStr parts
  let disposition := classifyFailure reasonCode (progress.state.retries key) maxRetries
  { progress with
    state := match disposition with
      | .retry => progress.state.retryLater key
      | .deadLetter => progress.state.giveUp key
    failures := progress.failures ++ [⟨keyDigest host parts, parts.sourceType, reasonCode, disposition⟩] }

def conclude (progress : Progress) (parts : KeyParts) : Except String Outcome → Progress
  | .error typeName => fail host maxRetries progress parts typeName
  | .ok .duplicate | .ok .skippedDisabled =>
      { progress with
        state := progress.state.complete (canonicalKeyStr parts)
        skippedDuplicate := progress.skippedDuplicate + 1 }
  | .ok .inserted =>
      { progress with
        state := progress.state.complete (canonicalKeyStr parts)
        projected := progress.projected + 1 }
  | .ok .failed => fail host maxRetries progress parts "failed"

/-- The item is handed to the adapter, unless its payload cannot be built. -/
def deliver (adapter : Adapter) (progress : Progress) (item : Doc) (parts : KeyParts) : Progress :=
  match buildRedactedEpisodePayload host (withKeyParts item parts) with
  | .error raised => fail host maxRetries progress parts raised.typeName
  | .ok payload =>
      let reply := adapter.reply (progress.calls.map Call.payload) payload
      let logged := match reply with
        | some reply => progress.calls ++ [⟨canonicalKeyStr parts, payload, reply⟩]
        | none => progress.calls
      conclude host maxRetries { progress with calls := logged } parts (callAdapterSeam host reply false)

def processItem (run : Run) (progress : Progress) (item : Doc) : Progress :=
  match keyOf host run.keyFn item with
  | .error raised => unkeyed host progress item raised
  | .ok parts =>
      if progress.state.Settled (canonicalKeyStr parts) then
        { progress with skippedDuplicate := progress.skippedDuplicate + 1 }
      else
        deliver host maxRetries run.adapter progress item parts

def processItems (run : Run) (progress : Progress) (items : List Doc) : Progress :=
  items.foldl (processItem host maxRetries run) progress

def Progress.begin (file : Option CheckpointFile) : Progress := ⟨loadCheckpoint file, [], 0, 0, []⟩

def Progress.report (progress : Progress) (attempted : ℕ) : GraphReplayReport where
  status :=
    if progress.failures ≠ [] ∧ progress.projected = 0 ∧ progress.skippedDuplicate = 0 then "failed"
    else if progress.failures ≠ [] then "partial"
    else "succeeded"
  attempted := attempted
  projected := progress.projected
  skippedDuplicate := progress.skippedDuplicate
  retry := progress.failures.countP (·.disposition = .retry)
  deadLetter := progress.failures.countP (·.disposition = .deadLetter)
  failures := progress.failures

/-- One run: its report, the file it leaves and the calls it made. -/
def runGraphReplay (file : Option CheckpointFile) (run : Run) : GraphReplayReport × CheckpointFile × List Call :=
  let progress := processItems host maxRetries run (.begin file) run.items
  (progress.report run.items.length, saveCheckpoint progress.state, progress.calls)

/-! ## Many runs with one file -/

/-- What the runs so far have left: the file, and every call and report. -/
structure History where
  file : Option CheckpointFile
  calls : List Call
  reports : List GraphReplayReport

def History.start : History := ⟨none, [], []⟩

def History.next (history : History) (run : Run) : History :=
  let (report, file, calls) := runGraphReplay host maxRetries history.file run
  ⟨some file, history.calls ++ calls, history.reports ++ [report]⟩

def replayed (runs : List Run) : History := runs.foldl (History.next host maxRetries) .start

def History.checkpoint (history : History) : ReplayCheckpoint := loadCheckpoint history.file

def History.callsFor (history : History) (key : String) : List Call := history.calls.filter (·.key = key)

end Running

end Neurons.Replay
