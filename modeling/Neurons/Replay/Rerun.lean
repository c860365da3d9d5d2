import Mathlib.Tactic.Linarith
import Neurons.Replay.GraphReplay

/-! # Reruns with one checkpoint file

An item moves at most one key: it is completed, put back for a later run or given up. A
settled key is not moved again, so the calls made for a key are those the checkpoint accounts for.
-/

namespace Neurons.Replay

open Neurons.Lib

variable (host : Host) (maxRetries : ℤ)

def Call.outcome (call : Call) : Option Outcome := (callAdapterSeam host (some call.reply) false).toOption

/-- The adapter reported the episode inserted or already present. -/
def Call.Stored (call : Call) : Prop := call.outcome host = some .inserted ∨ call.outcome host = some .duplicate

/-- The adapter answered that projection is disabled. -/
def Call.Disabled (call : Call) : Prop := call.outcome host = some .skippedDisabled

instance (call : Call) : Decidable (call.Stored host) := inferInstanceAs (Decidable (_ ∨ _))

instance (call : Call) : Decidable (call.Disabled host) := inferInstanceAs (Decidable (_ = _))

/-- What makes the replay complete the key of a call. -/
def Call.Completes (call : Call) : Prop := call.Stored host ∨ call.Disabled host

instance (call : Call) : Decidable (call.Completes host) := inferInstanceAs (Decidable (_ ∨ _))

/-! ## Moves -/

/-- What one item can do to the checkpoint, and the calls it makes. -/
inductive Move (state : ReplayCheckpoint) : List Call → ReplayCheckpoint → Prop where
  | stays : Move state [] state
  | abandons (key : String) (unsettled : ¬ state.Settled key) : Move state [] (state.giveUp key)
  | completes (call : Call) (unsettled : ¬ state.Settled call.key) (ends : call.Completes host) :
      Move state [call] (state.complete call.key)
  | retries (call : Call) (unsettled : ¬ state.Settled call.key) (fails : ¬ call.Completes host)
      (left : (state.retries call.key : ℤ) < maxRetries) : Move state [call] (state.retryLater call.key)
  | givesUp (call : Call) (unsettled : ¬ state.Settled call.key) (fails : ¬ call.Completes host) :
      Move state [call] (state.giveUp call.key)

inductive Moves (state : ReplayCheckpoint) : List Call → ReplayCheckpoint → Prop where
  | refl : Moves state [] state
  | snoc {calls added : List Call} {middle state' : ReplayCheckpoint} (before : Moves state calls middle)
      (last : Move host maxRetries middle added state') : Moves state (calls ++ added) state'

section Checkpoint

variable (state : ReplayCheckpoint) (key other : String)

@[simp] theorem settled_complete : (state.complete key).Settled other ↔ other = key ∨ state.Settled other := by
  simp [ReplayCheckpoint.Settled, ReplayCheckpoint.complete, or_assoc]

@[simp] theorem settled_giveUp : (state.giveUp key).Settled other ↔ other = key ∨ state.Settled other := by
  simp [ReplayCheckpoint.Settled, ReplayCheckpoint.giveUp, or_left_comm]

@[simp] theorem settled_retryLater : (state.retryLater key).Settled other ↔ state.Settled other := Iff.rfl

@[simp] theorem completed_complete : (state.complete key).completed = insert key state.completed := rfl

@[simp] theorem completed_giveUp : (state.giveUp key).completed = state.completed := rfl

@[simp] theorem completed_retryLater : (state.retryLater key).completed = state.completed := rfl

@[simp] theorem retries_complete : (state.complete key).retries other = state.retries other := rfl

@[simp] theorem retries_giveUp : (state.giveUp key).retries other = state.retries other := rfl

theorem retries_retryLater :
    (state.retryLater key).retries other = if other = key then state.retries key + 1 else state.retries other := by
  by_cases same : other = key <;>
    simp [ReplayCheckpoint.retries, ReplayCheckpoint.retryLater, Dict.get?_insert, same]

end Checkpoint

variable {host maxRetries}

/-! ## Settled keys are left alone -/

section Settled

variable {state state' : ReplayCheckpoint} {calls : List Call} {key : String}

theorem Move.keeps_settled (move : Move host maxRetries state calls state') (settled : state.Settled key) :
    state'.Settled key ∧ ∀ call ∈ calls, call.key ≠ key := by
  cases move with
  | stays => exact ⟨settled, by simp⟩
  | abandons other unsettled => exact ⟨by simp [settled], by simp⟩
  | completes call unsettled ends =>
      refine ⟨by simp [settled], ?_⟩
      intro made mem same
      rw [List.mem_singleton.mp mem] at same
      exact unsettled (same ▸ settled)
  | retries call unsettled fails left =>
      refine ⟨by simp [settled], ?_⟩
      intro made mem same
      rw [List.mem_singleton.mp mem] at same
      exact unsettled (same ▸ settled)
  | givesUp call unsettled fails =>
      refine ⟨by simp [settled], ?_⟩
      intro made mem same
      rw [List.mem_singleton.mp mem] at same
      exact unsettled (same ▸ settled)

theorem Moves.keeps_settled (moves : Moves host maxRetries state calls state') (settled : state.Settled key) :
    state'.Settled key ∧ ∀ call ∈ calls, call.key ≠ key := by
  induction moves with
  | refl => exact ⟨settled, by simp⟩
  | snoc before last ih =>
      have later := last.keeps_settled ih.1
      refine ⟨later.1, ?_⟩
      intro call mem
      rcases List.mem_append.mp mem with early | late
      · exact ih.2 call early
      · exact later.2 call late

theorem Moves.trans {middle : ReplayCheckpoint} {more : List Call} (first : Moves host maxRetries state calls middle)
    (second : Moves host maxRetries middle more state') : Moves host maxRetries state (calls ++ more) state' := by
  induction second with
  | refl => simpa using first
  | snoc before last ih =>
      rw [← List.append_assoc]
      exact .snoc ih last

end Settled

/-! ## What the checkpoint accounts for -/

/-- The checkpoint and the calls made so far. -/
structure Tracked (host : Host) (maxRetries : ℤ) (state : ReplayCheckpoint) (calls : List Call) : Prop where
  completing : ∀ key, calls.countP (fun call => call.key = key ∧ call.Completes host)
    = if key ∈ state.completed then 1 else 0
  retried : ∀ key, ¬ state.Settled key → calls.countP (·.key = key) = state.retries key
  allowed : ∀ key, (state.retries key : ℤ) ≤ max maxRetries 0
  bounded : ∀ key, (calls.countP (·.key = key) : ℤ) ≤ max maxRetries 0 + 1

namespace Tracked

variable {state state' : ReplayCheckpoint} {calls added : List Call}

theorem empty : Tracked host maxRetries .empty [] where
  completing key := by simp [ReplayCheckpoint.empty]
  retried key _ := rfl
  allowed key := le_max_right _ _
  bounded key := by simp; positivity

/-- A call for a key that is not settled stays within the bound. -/
theorem bounded_snoc (tracked : Tracked host maxRetries state calls) {call : Call}
    (unsettled : ¬ state.Settled call.key) (key : String) :
    ((calls ++ [call]).countP (·.key = key) : ℤ) ≤ max maxRetries 0 + 1 := by
  have before := tracked.bounded key
  by_cases same : call.key = key
  · have made := tracked.retried key (same ▸ unsettled)
    have allowed := tracked.allowed key
    simp only [List.countP_append, List.countP_singleton, made, same, decide_true, if_true]
    push_cast
    linarith
  · simpa [List.countP_append, List.countP_singleton, same] using before

/-- A call that does not complete its key leaves the completed keys accounted for. -/
theorem completing_snoc (tracked : Tracked host maxRetries state calls) {call : Call}
    (fails : ¬ call.Completes host) (key : String) :
    (calls ++ [call]).countP (fun call => call.key = key ∧ call.Completes host)
      = if key ∈ state.completed then 1 else 0 := by
  have before := tracked.completing key
  simpa [List.countP_append, List.countP_singleton, fails] using before

theorem retried_snoc (tracked : Tracked host maxRetries state calls) {call : Call} {key : String}
    (apart : key ≠ call.key) (unsettled : ¬ state.Settled key) :
    (calls ++ [call]).countP (·.key = key) = state.retries key := by
  have before := tracked.retried key unsettled
  simpa [List.countP_append, List.countP_singleton, apart.symm] using before

theorem move (tracked : Tracked host maxRetries state calls) (move : Move host maxRetries state added state') :
    Tracked host maxRetries state' (calls ++ added) := by
  cases move with
  | stays => simpa using tracked
  | abandons key unsettled =>
      rw [List.append_nil]
      exact {
        completing := tracked.completing
        retried := fun other still => tracked.retried other (by simp at still; exact still.2)
        allowed := tracked.allowed
        bounded := tracked.bounded }
  | completes call unsettled ends =>
      refine {
        completing := fun key => ?_
        retried := fun key still => ?_
        allowed := tracked.allowed
        bounded := tracked.bounded_snoc unsettled }
      · rw [List.countP_append, tracked.completing key]
        by_cases same : key = call.key
        · subst same
          have fresh : call.key ∉ state.completed := fun mem => unsettled (.inl mem)
          simp [fresh, ends]
        · simp [same, Ne.symm same]
      · simp only [settled_complete, not_or] at still
        exact tracked.retried_snoc still.1 still.2
  | retries call unsettled fails left =>
      refine {
        completing := tracked.completing_snoc fails
        retried := fun key still => ?_
        allowed := fun key => ?_
        bounded := tracked.bounded_snoc unsettled }
      · rw [retries_retryLater]
        split
        case isTrue same =>
          have before := tracked.retried call.key unsettled
          simp [List.countP_append, before, same]
        case isFalse apart => exact tracked.retried_snoc apart still
      · rw [retries_retryLater]
        split
        case isTrue same =>
          push_cast
          exact le_max_of_le_left (by omega)
        case isFalse apart => exact tracked.allowed key
  | givesUp call unsettled fails =>
      exact {
        completing := tracked.completing_snoc fails
        retried := fun key still => by
          simp only [settled_giveUp, not_or] at still
          exact tracked.retried_snoc still.1 still.2
        allowed := tracked.allowed
        bounded := tracked.bounded_snoc unsettled }

theorem moves (moves : Moves host maxRetries .empty calls state) : Tracked host maxRetries state calls := by
  induction moves with
  | refl => exact .empty
  | snoc before last ih => exact ih.move last

/-- A completed key was completed by one of the calls. -/
theorem completed_iff (tracked : Tracked host maxRetries state calls) (key : String) :
    key ∈ state.completed ↔ ∃ call ∈ calls, call.key = key ∧ call.Completes host := by
  have counted := tracked.completing key
  constructor
  · intro mem
    have positive : 0 < calls.countP (fun call => call.key = key ∧ call.Completes host) := by
      rw [counted, if_pos mem]
      exact Nat.one_pos
    obtain ⟨call, made, holds⟩ := List.countP_pos_iff.mp positive
    exact ⟨call, made, by simpa using holds⟩
  · rintro ⟨call, made, holds⟩
    by_contra outside
    rw [if_neg outside, List.countP_eq_zero] at counted
    exact counted call made (by simpa using holds)

/-- Two calls that complete a key are one call. -/
theorem completing_unique (tracked : Tracked host maxRetries state calls) {before after : List Call} {call : Call}
    (split : calls = before ++ call :: after) (ends : call.Completes host) :
    ∀ other ∈ before ++ after, other.key = call.key → ¬ other.Completes host := by
  intro other mem same also
  have counted := tracked.completing call.key
  have positive : 0 < (before ++ after).countP (fun other => other.key = call.key ∧ other.Completes host) :=
    List.countP_pos_iff.mpr ⟨other, mem, by simp [same, also]⟩
  have whole : calls.countP (fun other => other.key = call.key ∧ other.Completes host)
      = (before ++ after).countP (fun other => other.key = call.key ∧ other.Completes host) + 1 := by
    simp [split, List.countP_append, ends]
    omega
  rw [whole] at counted
  split at counted <;> omega

end Tracked

/-! ## The replay makes such moves -/

section Items

variable (host maxRetries)

/-- A failure moves its key, as the call made for it allows. -/
theorem fail_moves {progress : Progress} {parts : KeyParts} {reasonCode : String} {call : Call}
    (isFor : call.key = canonicalKeyStr parts) (unsettled : ¬ progress.state.Settled (canonicalKeyStr parts))
    (fails : ¬ call.Completes host) :
    Move host maxRetries progress.state [call] (fail host maxRetries progress parts reasonCode).state := by
  simp only [fail]
  rw [← isFor] at unsettled ⊢
  cases verdict : classifyFailure reasonCode (progress.state.retries call.key) maxRetries with
  | retry =>
      refine .retries call unsettled fails ?_
      simp only [classifyFailure] at verdict
      split at verdict
      · cases verdict
      · split at verdict
        case isTrue open_ => exact open_.2
        case isFalse => cases verdict
  | deadLetter => exact .givesUp call unsettled fails

/-- A class of exception that is not retried gives the key up without a call. -/
theorem fail_abandons {progress : Progress} {parts : KeyParts} {reasonCode : String}
    (unsettled : ¬ progress.state.Settled (canonicalKeyStr parts))
    (final : ∀ retriesUsed, classifyFailure reasonCode retriesUsed maxRetries = .deadLetter) :
    Move host maxRetries progress.state [] (fail host maxRetries progress parts reasonCode).state := by
  simp only [fail, final]
  exact .abandons _ unsettled

theorem classifyFailure_valueError (retriesUsed : ℕ) :
    classifyFailure "ValueError" retriesUsed maxRetries = .deadLetter := by
  simp [classifyFailure]

theorem classifyFailure_typeError (retriesUsed : ℕ) :
    classifyFailure "TypeError" retriesUsed maxRetries = .deadLetter := by
  simp [classifyFailure, retryableReasonCodes]

@[simp] theorem fail_calls (progress : Progress) (parts : KeyParts) (reasonCode : String) :
    (fail host maxRetries progress parts reasonCode).calls = progress.calls := rfl

@[simp] theorem conclude_calls (progress : Progress) (parts : KeyParts) (result : Except String Outcome) :
    (conclude host maxRetries progress parts result).calls = progress.calls := by
  rcases result with typeName | outcome
  · rfl
  · cases outcome <;> rfl

/-- What a call comes to moves the key it was made for. -/
theorem conclude_moves (progress : Progress) (parts : KeyParts) (call : Call)
    (isFor : call.key = canonicalKeyStr parts) (unsettled : ¬ progress.state.Settled (canonicalKeyStr parts)) :
    Move host maxRetries progress.state [call]
      (conclude host maxRetries progress parts (callAdapterSeam host (some call.reply) false)).state := by
  cases result : callAdapterSeam host (some call.reply) false with
  | error typeName =>
      refine fail_moves host maxRetries isFor unsettled ?_
      simp [Call.Completes, Call.Stored, Call.Disabled, Call.outcome, result, Except.toOption]
  | ok outcome =>
      cases outcome with
      | failed =>
          refine fail_moves host maxRetries isFor unsettled ?_
          simp [Call.Completes, Call.Stored, Call.Disabled, Call.outcome, result, Except.toOption]
      | inserted | duplicate | skippedDisabled =>
          simp only [conclude, ← isFor]
          refine .completes call (isFor ▸ unsettled) ?_
          simp [Call.Completes, Call.Stored, Call.Disabled, Call.outcome, result, Except.toOption]

theorem deliver_moves (adapter : Adapter) {progress : Progress} (item : Doc) {parts : KeyParts}
    (unsettled : ¬ progress.state.Settled (canonicalKeyStr parts)) :
    ∃ added, (deliver host maxRetries adapter progress item parts).calls = progress.calls ++ added
      ∧ Move host maxRetries progress.state added (deliver host maxRetries adapter progress item parts).state := by
  simp only [deliver]
  cases built : buildRedactedEpisodePayload host (withKeyParts item parts) with
  | error raised =>
      have valueError : raised.typeName = "ValueError" := by
        simp only [buildRedactedEpisodePayload] at built
        split at built
        · cases built
          rfl
        · cases built
      refine ⟨[], by simp, fail_abandons host maxRetries unsettled ?_⟩
      rw [valueError]
      exact classifyFailure_valueError maxRetries
  | ok payload =>
      cases answered : adapter.reply (progress.calls.map Call.payload) payload with
      | none =>
          simp only [answered]
          exact ⟨[], by simp, fail_abandons host maxRetries unsettled (classifyFailure_typeError maxRetries)⟩
      | some reply =>
          simp only [answered]
          let made : Call := ⟨canonicalKeyStr parts, payload, reply⟩
          exact ⟨[made], by simp [made],
            conclude_moves host maxRetries { progress with calls := progress.calls ++ [made] } parts made rfl unsettled⟩

@[simp] theorem unkeyed_state (progress : Progress) (item : Doc) (raised : Raised) :
    (unkeyed host progress item raised).state = progress.state := rfl

@[simp] theorem unkeyed_calls (progress : Progress) (item : Doc) (raised : Raised) :
    (unkeyed host progress item raised).calls = progress.calls := rfl

theorem processItem_moves (run : Run) (progress : Progress) (item : Doc) :
    ∃ added, (processItem host maxRetries run progress item).calls = progress.calls ++ added
      ∧ Move host maxRetries progress.state added (processItem host maxRetries run progress item).state := by
  rw [processItem]
  cases keyOf host run.keyFn item with
  | error raised =>
      refine ⟨[], ?_, ?_⟩
      · rw [unkeyed_calls, List.append_nil]
      · rw [unkeyed_state]
        exact .stays
  | ok parts =>
      by_cases settled : progress.state.Settled (canonicalKeyStr parts)
      · simp only [settled, if_true]
        exact ⟨[], by simp, .stays⟩
      · simp only [settled, if_false]
        exact deliver_moves host maxRetries run.adapter item settled

theorem processItems_moves (run : Run) (progress : Progress) (items : List Doc) :
    ∃ added, (processItems host maxRetries run progress items).calls = progress.calls ++ added
      ∧ Moves host maxRetries progress.state added (processItems host maxRetries run progress items).state := by
  induction items using List.reverseRecOn with
  | nil => exact ⟨[], by simp [processItems], .refl⟩
  | append_singleton items item ih =>
      obtain ⟨early, made, moves⟩ := ih
      obtain ⟨last, also, move⟩ :=
        processItem_moves host maxRetries run (processItems host maxRetries run progress items) item
      refine ⟨early ++ last, ?_, ?_⟩
      · simp only [processItems, List.foldl_append, List.foldl_cons, List.foldl_nil] at made also ⊢
        rw [also, made, List.append_assoc]
      · simp only [processItems, List.foldl_append, List.foldl_cons, List.foldl_nil] at moves move ⊢
        exact .snoc moves move

end Items

/-! ## Whole histories -/

section Histories

variable (host maxRetries)

@[simp] theorem replayed_nil : replayed host maxRetries [] = .start := rfl

theorem replayed_append (earlier later : List Run) :
    replayed host maxRetries (earlier ++ later)
      = later.foldl (History.next host maxRetries) (replayed host maxRetries earlier) := by
  simp [replayed]

@[simp] theorem replayed_snoc (earlier : List Run) (run : Run) :
    replayed host maxRetries (earlier ++ [run]) = (replayed host maxRetries earlier).next host maxRetries run := by
  simp [replayed_append]

/-- A run goes on from the checkpoint in the file. -/
theorem next_moves (history : History) (run : Run) :
    ∃ added, (history.next host maxRetries run).calls = history.calls ++ added
      ∧ Moves host maxRetries history.checkpoint added (history.next host maxRetries run).checkpoint := by
  obtain ⟨added, made, moves⟩ := processItems_moves host maxRetries run (.begin history.file) run.items
  refine ⟨added, ?_, ?_⟩
  · simpa [History.next, runGraphReplay, Progress.begin] using made
  · simp only [History.next, runGraphReplay, History.checkpoint, loadCheckpoint_save]
    exact moves

theorem foldl_moves (history : History) (later : List Run) :
    ∃ added, (later.foldl (History.next host maxRetries) history).calls = history.calls ++ added
      ∧ Moves host maxRetries history.checkpoint added
        (later.foldl (History.next host maxRetries) history).checkpoint := by
  induction later generalizing history with
  | nil => exact ⟨[], by simp, .refl⟩
  | cons run later ih =>
      obtain ⟨first, made, moves⟩ := next_moves host maxRetries history run
      obtain ⟨rest, also, more⟩ := ih (history.next host maxRetries run)
      exact ⟨first ++ rest, by rw [List.foldl_cons, also, made, List.append_assoc], moves.trans more⟩

theorem replayed_tracked (runs : List Run) :
    Tracked host maxRetries (replayed host maxRetries runs).checkpoint (replayed host maxRetries runs).calls := by
  obtain ⟨added, made, moves⟩ := foldl_moves host maxRetries .start runs
  have all : (replayed host maxRetries runs).calls = added := by simpa [replayed, History.start] using made
  rw [all]
  exact .moves moves

/-- Where a run stands after its first items is where a run over these items ends. -/
theorem next_of_split (history : History) (run : Run) {done rest : List Doc} (split : run.items = done ++ rest) :
    ∃ added, (history.next host maxRetries run).calls
        = (history.next host maxRetries { run with items := done }).calls ++ added
      ∧ Moves host maxRetries (history.next host maxRetries { run with items := done }).checkpoint added
        (history.next host maxRetries run).checkpoint := by
  obtain ⟨added, made, moves⟩ := processItems_moves host maxRetries run
    (processItems host maxRetries run (.begin history.file) done) rest
  have whole : processItems host maxRetries run (.begin history.file) run.items
      = processItems host maxRetries run (processItems host maxRetries run (.begin history.file) done) rest := by
    rw [split, processItems, processItems, processItems, List.foldl_append]
  have part : processItems host maxRetries { run with items := done } (.begin history.file) done
      = processItems host maxRetries run (.begin history.file) done := rfl
  refine ⟨added, ?_, ?_⟩
  · simp only [History.next, runGraphReplay, whole, part, made, List.append_assoc]
  · simp only [History.next, runGraphReplay, whole, part, History.checkpoint, loadCheckpoint_save]
    exact moves

end Histories

/-! ## Reports -/

section Reports

variable (host maxRetries)

/-- Every item is counted once. -/
def Progress.counted (progress : Progress) : ℕ :=
  progress.projected + progress.skippedDuplicate + progress.failures.length

theorem fail_counted (progress : Progress) (parts : KeyParts) (reasonCode : String) :
    (fail host maxRetries progress parts reasonCode).counted = progress.counted + 1 := by
  simp [Progress.counted, fail]
  omega

theorem conclude_counted (progress : Progress) (parts : KeyParts) (result : Except String Outcome) :
    (conclude host maxRetries progress parts result).counted = progress.counted + 1 := by
  cases result with
  | error typeName => exact fail_counted host maxRetries progress parts typeName
  | ok outcome =>
      cases outcome with
      | failed => exact fail_counted host maxRetries progress parts "failed"
      | inserted | duplicate | skippedDisabled =>
          simp only [Progress.counted, conclude]
          omega

theorem deliver_counted (adapter : Adapter) (progress : Progress) (item : Doc) (parts : KeyParts) :
    (deliver host maxRetries adapter progress item parts).counted = progress.counted + 1 := by
  simp only [deliver]
  cases buildRedactedEpisodePayload host (withKeyParts item parts) with
  | error raised => exact fail_counted host maxRetries progress parts raised.typeName
  | ok payload => exact conclude_counted host maxRetries _ parts _

theorem processItem_counted (run : Run) (progress : Progress) (item : Doc) :
    (processItem host maxRetries run progress item).counted = progress.counted + 1 := by
  rw [processItem]
  cases keyOf host run.keyFn item with
  | error raised =>
      have longer : (unkeyed host progress item raised).failures.length = progress.failures.length + 1 := by
        rw [unkeyed, List.length_append, List.length_singleton]
      rw [Progress.counted, longer, ← Nat.add_assoc]
      rfl
  | ok parts =>
      by_cases settled : progress.state.Settled (canonicalKeyStr parts)
      · simp only [settled, if_true, Progress.counted]
        omega
      · simp only [settled, if_false]
        exact deliver_counted host maxRetries run.adapter progress item parts

theorem processItems_counted (run : Run) (progress : Progress) (items : List Doc) :
    (processItems host maxRetries run progress items).counted = progress.counted + items.length := by
  induction items generalizing progress with
  | nil => rfl
  | cons item items ih =>
      have rest := ih (processItem host maxRetries run progress item)
      rw [processItem_counted] at rest
      rw [List.length_cons, processItems, List.foldl_cons]
      rw [processItems] at rest
      omega

theorem dispositions_length (failures : List ReplayFailure) :
    failures.countP (·.disposition = .retry) + failures.countP (·.disposition = .deadLetter) = failures.length := by
  induction failures with
  | nil => rfl
  | cons failure failures ih =>
      cases kind : failure.disposition <;> simp [kind] <;> omega

/-- The report's numbers add up to the items it was given. -/
def GraphReplayReport.Balanced (report : GraphReplayReport) : Prop :=
  report.attempted = report.projected + report.skippedDuplicate + report.retry + report.deadLetter

theorem report_balanced (file : Option CheckpointFile) (run : Run) :
    (runGraphReplay host maxRetries file run).1.Balanced := by
  have counted := processItems_counted host maxRetries run (.begin file) run.items
  have split := dispositions_length (processItems host maxRetries run (.begin file) run.items).failures
  simp only [Progress.counted] at counted
  simp only [runGraphReplay, GraphReplayReport.Balanced, Progress.report]
  have none_yet : (Progress.begin file).projected = 0 ∧ (Progress.begin file).skippedDuplicate = 0
      ∧ (Progress.begin file).failures = [] := ⟨rfl, rfl, rfl⟩
  simp only [none_yet, List.length_nil] at counted
  omega

theorem replayed_reports_balanced (runs : List Run) :
    ∀ report ∈ (replayed host maxRetries runs).reports, report.Balanced := by
  induction runs using List.reverseRecOn with
  | nil => simp [History.start]
  | append_singleton earlier run ih =>
      intro report mem
      rw [replayed_snoc] at mem
      rcases List.mem_append.mp mem with old | new
      · exact ih report old
      · rw [List.mem_singleton.mp new]
        exact report_balanced host maxRetries _ run

end Reports

/-! ## Safe to rerun -/

/-- What a sequence of replays with one checkpoint file is meant to keep. A limit below zero
    still allows the first call. -/
structure RerunSafe (host : Host) (maxRetries : ℤ) (runs : List Run) : Prop where
  completed_stored : ∀ key ∈ (replayed host maxRetries runs).checkpoint.completed,
    ∃ call ∈ (replayed host maxRetries runs).callsFor key, call.Stored host
  calls_le : ∀ key, (∀ call ∈ (replayed host maxRetries runs).callsFor key, ¬ call.Stored host) →
    (((replayed host maxRetries runs).callsFor key).length : ℤ) ≤ max maxRetries 0 + 1
  settled_uncalled : ∀ earlier run later done rest key, runs = earlier ++ run :: later → run.items = done ++ rest →
    (replayed host maxRetries (earlier ++ [{ run with items := done }])).checkpoint.Settled key →
    (replayed host maxRetries runs).callsFor key
      = (replayed host maxRetries (earlier ++ [{ run with items := done }])).callsFor key
  reports_balanced : ∀ report ∈ (replayed host maxRetries runs).reports, report.Balanced
  disabled_open : ∀ earlier later key, runs = earlier ++ later →
    (∀ call ∈ (replayed host maxRetries earlier).callsFor key, call.Disabled host) →
    key ∉ (replayed host maxRetries earlier).checkpoint.completed

theorem Call.Stored.not_disabled {call : Call} (stored : call.Stored host) : ¬ call.Disabled host := by
  intro disabled
  rcases stored with inserted | duplicate
  · exact absurd (inserted.symm.trans disabled) (by decide)
  · exact absurd (duplicate.symm.trans disabled) (by decide)

theorem callsFor_length_le (runs : List Run) (key : String) :
    (((replayed host maxRetries runs).callsFor key).length : ℤ) ≤ max maxRetries 0 + 1 := by
  have bounded := (replayed_tracked host maxRetries runs).bounded key
  rwa [List.countP_eq_length_filter] at bounded

/-- No call is made for a key that was settled at any point of any run. -/
theorem settled_uncalled (earlier : List Run) (run : Run) (later : List Run) {done rest : List Doc} {key : String}
    (split : run.items = done ++ rest)
    (settled : (replayed host maxRetries (earlier ++ [{ run with items := done }])).checkpoint.Settled key) :
    (replayed host maxRetries (earlier ++ run :: later)).callsFor key
      = (replayed host maxRetries (earlier ++ [{ run with items := done }])).callsFor key := by
  rw [replayed_append, List.foldl_cons]
  rw [replayed_snoc] at settled ⊢
  obtain ⟨first, made, moves⟩ := next_of_split host maxRetries (replayed host maxRetries earlier) run split
  obtain ⟨second, also, more⟩ :=
    foldl_moves host maxRetries ((replayed host maxRetries earlier).next host maxRetries run) later
  have uncalled := ((moves.trans more).keeps_settled settled).2
  have blank : (first ++ second).filter (·.key = key) = [] := by
    rw [List.filter_eq_nil_iff]
    intro call mem
    simpa using uncalled call mem
  rw [History.callsFor, also, made, List.append_assoc, List.filter_append, blank, List.append_nil]
  rfl

theorem mem_callsFor {history : History} {key : String} {call : Call} :
    call ∈ history.callsFor key ↔ call ∈ history.calls ∧ call.key = key := by
  simp [History.callsFor]

/-- The calls made by the runs so far stay in the history. -/
theorem calls_subset (earlier later : List Run) :
    ∀ call ∈ (replayed host maxRetries earlier).calls, call ∈ (replayed host maxRetries (earlier ++ later)).calls := by
  intro call mem
  obtain ⟨added, made, -⟩ := foldl_moves host maxRetries (replayed host maxRetries earlier) later
  rw [replayed_append, made]
  exact List.mem_append_left added mem

/-- Unless the adapter ever answers that projection is disabled, a key is completed for a
    stored episode only. -/
theorem completed_stored {runs : List Run}
    (enabled : ∀ call ∈ (replayed host maxRetries runs).calls, ¬ call.Disabled host) {key : String}
    (mem : key ∈ (replayed host maxRetries runs).checkpoint.completed) :
    ∃ call ∈ (replayed host maxRetries runs).callsFor key, call.Stored host := by
  obtain ⟨call, made, isFor, ends⟩ := ((replayed_tracked host maxRetries runs).completed_iff key).mp mem
  exact ⟨call, mem_callsFor.mpr ⟨made, isFor⟩, ends.resolve_right (enabled call made)⟩

/-- Replays with one checkpoint file are safe to rerun exactly when the adapter never answers a
    call with `skipped_disabled`. -/
theorem rerun_safe_iff (host : Host) (maxRetries : ℤ) (runs : List Run) :
    RerunSafe host maxRetries runs ↔ ∀ call ∈ (replayed host maxRetries runs).calls, ¬ call.Disabled host := by
  constructor
  · intro safe call made disabled
    have tracked := replayed_tracked host maxRetries runs
    have completed := (tracked.completed_iff call.key).mpr ⟨call, made, rfl, .inr disabled⟩
    obtain ⟨other, isFor, stored⟩ := safe.completed_stored call.key completed
    obtain ⟨also, same⟩ := mem_callsFor.mp isFor
    -- the disabled call completed the key, so no other call did
    obtain ⟨before, after, split⟩ := List.append_of_mem made
    have apart : other ≠ call := fun equal => (equal ▸ stored).not_disabled disabled
    have elsewhere : other ∈ before ++ after := by
      rw [split] at also
      simpa [apart] using also
    exact tracked.completing_unique split (.inr disabled) other elsewhere same (.inl stored)
  · intro enabled
    exact {
      completed_stored := fun key mem => completed_stored enabled mem
      calls_le := fun key _ => callsFor_length_le runs key
      settled_uncalled := by
        intro earlier run later done rest key split items settled
        subst split
        exact settled_uncalled earlier run later items settled
      reports_balanced := replayed_reports_balanced host maxRetries runs
      disabled_open := by
        intro earlier later key split disabled mem
        subst split
        obtain ⟨call, made, isFor, ends⟩ := ((replayed_tracked host maxRetries earlier).completed_iff key).mp mem
        exact enabled call (calls_subset earlier later call made) (disabled call (mem_callsFor.mpr ⟨made, isFor⟩)) }

/-! A card replayed while projection is off, and once more when it is on. -/

def plainHost : Host where
  redactText text := text
  stripLower text := text
  digest text := text

def replayedCard : Doc := .ofFields [
  (.sourceType, .str "memory_card"), (.sourceId, .str "mem-001"), (.sourceRevision, .str "sha256:aaa"),
  (.contentHash, .str "sha256:bbb"), (.title, .str "Replay decision")]

def disabledRun : Run := ⟨[replayedCard], .upsertEpisode fun _ _ => .returned (some "skipped_disabled"), none⟩

def enabledRun : Run := ⟨[replayedCard], .upsertEpisode fun _ _ => .returned (some "inserted"), none⟩

/-- The card answered as disabled is completed, and the enabled run passes it over. -/
theorem disabled_then_enabled :
    ¬ RerunSafe plainHost 3 [disabledRun, enabledRun]
      ∧ (replayed plainHost 3 [disabledRun, enabledRun]).reports.map (·.projected) = [0, 0] := by
  refine ⟨fun safe => ?_, by decide +kernel⟩
  have completed : "memory_card\x1fmem-001\x1fsha256:aaa"
      ∈ (replayed plainHost 3 [disabledRun, enabledRun]).checkpoint.completed := by decide +kernel
  have unstored : ∀ call ∈ (replayed plainHost 3 [disabledRun, enabledRun]).calls, ¬ call.Stored plainHost := by
    decide +kernel
  obtain ⟨call, isFor, stored⟩ := safe.completed_stored _ completed
  exact unstored call (mem_callsFor.mp isFor).1 stored

end Neurons.Replay
