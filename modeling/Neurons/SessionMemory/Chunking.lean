import Neurons.Lib.Decimal
import Neurons.Lib.Loop
import Neurons.Lib.Sorting
import Neurons.Source.Platform

/-! # Chunks of a transcript

The turns of a transcript are packed into chunks of bounded text; a turn that is
too long alone is split, and every part states its own position and the number of
parts in its header (`transcript_chunking.py`). The two searches for a fitting end
and for a consistent number of parts are `while True` loops.
-/

namespace Neurons.SessionMemory

open Neurons.Lib Neurons.Source

def maxTranscriptChunkTextChars : ℕ := 4096

/-- What the chunk builder reads of a session. -/
structure TranscriptSession where
  sessionIdHash : String
  provider : String
  project : String
  deriving DecidableEq, Repr

structure TranscriptTurn where
  turnIndex : Int
  role : String
  observedAt : String
  redactedText : String
  deriving DecidableEq, Repr

structure ParsedTranscript where
  session : TranscriptSession
  turns : List TranscriptTurn
  sourceStatus : String
  deriving DecidableEq, Repr

structure TurnTextPart where
  text : String
  partIndex : ℕ
  partCount : ℕ
  charStart : ℕ
  charEnd : ℕ
  deriving DecidableEq, Repr

/-- A chunk as its constructor is called, which redacts the text once more. `part` is given for
the parts of a long turn only. -/
structure ChunkDraft where
  chunkId : String
  session : TranscriptSession
  turnStartIndex : Int
  turnEndIndex : Int
  text : String
  sourceStatus : String
  part : Option TurnTextPart
  observedAtStart : String
  observedAtEnd : String
  deriving DecidableEq, Repr

/-- `text[start:end]`. -/
def slice (text : String) (start last : ℕ) : String :=
  String.ofList ((text.toList.drop start).take (last - start))

/-! ## Texts -/

section Texts

variable (parsed : ParsedTranscript)

def chunkPartPrefix (turn : TranscriptTurn) (partIndex partCount charStart charEnd : ℕ) : String :=
  "\n".intercalate [
    "session_id_hash: " ++ parsed.session.sessionIdHash,
    "turn_start_index: " ++ toString turn.turnIndex,
    "turn_part_index: " ++ toString partIndex,
    "turn_part_count: " ++ toString partCount,
    "char_start: " ++ toString charStart,
    "char_end: " ++ toString charEnd,
    "",
    turn.role ++ ": "]

def chunkPartText (turn : TranscriptTurn) (part : TurnTextPart) : String :=
  chunkPartPrefix parsed turn part.partIndex part.partCount part.charStart part.charEnd ++ part.text

def turnLine (turn : TranscriptTurn) : String := turn.role ++ ": " ++ turn.redactedText

def chunkText (turns : List TranscriptTurn) : String :=
  let lines := match (turns.map TranscriptTurn.turnIndex).min? with
    | none => ["session_id_hash: " ++ parsed.session.sessionIdHash]
    | some turnStart =>
        ["session_id_hash: " ++ parsed.session.sessionIdHash, "turn_start_index: " ++ toString turnStart]
  "\n\n".intercalate (lines ++ (sortOn TranscriptTurn.turnIndex turns).map turnLine)

/-! ## Splitting a long turn -/

/-- One round of the search for the end of a part: `charEnd` is the guess. -/
def fitRound (turn : TranscriptTurn) (text : String) (charStart partIndex partCount charEnd : ℕ) :
    Except PyError (Round ℕ ℕ) :=
  -- a prefix beyond the limit leaves 0 here, which is refused like what is below 0
  let available := maxTranscriptChunkTextChars
    - (chunkPartPrefix parsed turn partIndex partCount charStart charEnd).length
  if available = 0 then .error (.valueError "transcript chunk metadata exceeds chunk text limit")
  else
    let candidateEnd := min text.length (charStart + available)
    if candidateEnd ≤ charStart then .error (.valueError "transcript chunk split made no progress")
    else if candidateEnd = charEnd then .ok (.leave charEnd)
    else .ok (.again candidateEnd)

def fitTurnPartEnd (fuel : ℕ) (turn : TranscriptTurn) (text : String) (charStart partIndex partCount : ℕ) :
    Option (Except PyError ℕ) :=
  loop (fun charEnd => some (fitRound parsed turn text charStart partIndex partCount charEnd)) fuel
    (min text.length (charStart + maxTranscriptChunkTextChars))

/-- One round of the inner loop of `_split_turn_text`: the parts so far and where the next one starts. -/
def partRound (turn : TranscriptTurn) (partCount fuel : ℕ) :
    List TurnTextPart × ℕ → Option (Except PyError (Round (List TurnTextPart × ℕ) (List TurnTextPart)))
  | (parts, charStart) =>
      let text := turn.redactedText
      if charStart < text.length then
        (fitTurnPartEnd parsed fuel turn text charStart (parts.length + 1) partCount).map <|
          Except.map fun charEnd => .again (parts ++ [{
            text := slice text charStart charEnd
            partIndex := parts.length + 1
            partCount := partCount
            charStart := charStart
            charEnd := charEnd }], charEnd)
      else some (.ok (.leave parts))

/-- One round of the outer loop: the parts found under one number of parts have to be that many. -/
def countRound (turn : TranscriptTurn) (fuel partCount : ℕ) :
    Option (Except PyError (Round ℕ (List TurnTextPart))) :=
  (loop (partRound parsed turn partCount fuel) fuel ([], 0)).map <|
    Except.map fun parts => if parts.length = partCount then .leave parts else .again parts.length

def splitTurnText (fuel : ℕ) (turn : TranscriptTurn) : Option (Except PyError (List TurnTextPart)) :=
  loop (countRound parsed turn fuel) fuel 1

end Texts

/-! ## Building chunks -/

section Build

-- `readTime` moves the instant of an ISO text with an offset to UTC, which can overflow;
-- it gives `none` for a text that is no time or has no offset
variable (py : Platform) (readTime : String → Except PyError (Option Int)) (parsed : ParsedTranscript)

def nativeTimes : List String → Except PyError (Option (List Int))
  | [] => .ok (some [])
  | value :: rest => do
      match ← readTime (replaceZulu value) with
      | none => return none
      | some timestamp => return (← nativeTimes rest).map (timestamp :: ·)

def nativeTurnBounds (turns : List TranscriptTurn) : Except PyError (String × String) :=
  let values := (sortOn TranscriptTurn.turnIndex turns).map fun turn => strip turn.observedAt
  if values = [] ∨ "" ∈ values then return ("", "")
  else do
    match ← nativeTimes readTime values with
    | none => return ("", "")
    | some times =>
        if (times.zip times.tail).any fun (previous, current) => previous > current then return ("", "")
        else return (values.head?.getD "", values.getLast?.getD "")

/-- `"chunk_" + sha256(seed).hexdigest()[:16]`. -/
def chunkId (seed : String) : String := "chunk_" ++ String.ofList ((py.hexdigest (.text seed)).toList.take 16)

def buildChunkForTurns (turns : List TranscriptTurn) : Except PyError ChunkDraft :=
  match (turns.map TranscriptTurn.turnIndex).min?, (turns.map TranscriptTurn.turnIndex).max? with
  | some turnStart, some turnEnd => do
      let text := chunkText parsed (sortOn TranscriptTurn.turnIndex turns)
      let bounds ← nativeTurnBounds readTime turns
      return {
        chunkId := chunkId py (parsed.session.sessionIdHash ++ ":" ++ toString turnStart ++ ":"
          ++ toString turnEnd ++ ":" ++ text)
        session := parsed.session
        turnStartIndex := turnStart
        turnEndIndex := turnEnd
        text := text
        sourceStatus := parsed.sourceStatus
        part := none
        observedAtStart := bounds.1
        observedAtEnd := bounds.2 }
  | _, _ => .error (.valueError "min() arg is an empty sequence")

def draftOfPart (turn : TranscriptTurn) (bounds : String × String) (part : TurnTextPart) : ChunkDraft :=
  let text := chunkPartText parsed turn part
  { chunkId := chunkId py (parsed.session.sessionIdHash ++ ":" ++ toString turn.turnIndex ++ ":"
      ++ toString part.partIndex ++ ":" ++ toString part.partCount ++ ":" ++ toString part.charStart ++ ":"
      ++ toString part.charEnd ++ ":" ++ text)
    session := parsed.session
    turnStartIndex := turn.turnIndex
    turnEndIndex := turn.turnIndex
    text := text
    sourceStatus := parsed.sourceStatus
    part := some part
    observedAtStart := bounds.1
    observedAtEnd := bounds.2 }

def buildChunksForLongTurn (fuel : ℕ) (turn : TranscriptTurn) : ExceptT PyError Option (List ChunkDraft) := do
  let bounds ← ExceptT.mk (some (nativeTurnBounds readTime [turn]))
  let parts ← ExceptT.mk (splitTurnText parsed fuel turn)
  return parts.map (draftOfPart py parsed turn bounds)

/-- `chunks` with the turns collected so far, if there are any. -/
def flush (chunks : List ChunkDraft) (currentTurns : List TranscriptTurn) : Except PyError (List ChunkDraft) :=
  if currentTurns = [] then .ok chunks
  else do return chunks ++ [← buildChunkForTurns py readTime parsed currentTurns]

def packTurns (fuel : ℕ) : List ChunkDraft → List TranscriptTurn → List TranscriptTurn →
    ExceptT PyError Option (List ChunkDraft)
  | chunks, currentTurns, [] => ExceptT.mk (some (flush py readTime parsed chunks currentTurns))
  | chunks, currentTurns, turn :: rest => do
      if (chunkText parsed [turn]).length > maxTranscriptChunkTextChars then
        let chunks ← ExceptT.mk (some (flush py readTime parsed chunks currentTurns))
        let parts ← buildChunksForLongTurn py readTime parsed fuel turn
        packTurns fuel (chunks ++ parts) [] rest
      else if currentTurns ≠ []
          ∧ (chunkText parsed (currentTurns ++ [turn])).length > maxTranscriptChunkTextChars then
        let chunks ← ExceptT.mk (some (flush py readTime parsed chunks currentTurns))
        packTurns fuel chunks [turn] rest
      else packTurns fuel chunks (currentTurns ++ [turn]) rest

def buildTranscriptChunks (fuel : ℕ) : ExceptT PyError Option (List ChunkDraft) :=
  let orderedTurns := sortOn TranscriptTurn.turnIndex parsed.turns
  if orderedTurns = [] then throw (.valueError "transcript requires at least one turn")
  else packTurns py readTime parsed fuel [] [] orderedTurns

end Build

end Neurons.SessionMemory
