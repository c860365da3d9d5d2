import Neurons.Embedding.ReferenceHost
import Neurons.Outbox.EmbeddingOutbox

/-! # A Gemini store that runs

The library calls of the embedding outbox as they answer on the chunks of the concrete
runs: whole numbers for the coordinates of a vector, and a clock that stands still.
-/

namespace Neurons.Outbox

open Neurons.Lib
open Neurons.Source
open Neurons.Embedding (referenceHost chunkHash)

/-- `_validate_vector` on whole coordinates. -/
def referenceHalfvec (vector : List Int) : Except PyError (List Int) := do
  refuseIf (vector.length ≠ 3072) (.valueError ("Vector dimension mismatch: expected 3072, got " ++
    toString vector.length))
  return vector

def referenceGemini : Gemini (List Int) (List Int) (List Int) := ⟨referenceHost, referenceHalfvec⟩

/-- A clock that stands still. -/
def steadyClock (now : Int) : Clock := ⟨fun _ => now, fun _ => le_rfl⟩

/-- Store a chunk without its embedding. -/
def putChunk (text : String) (digit : Char) : Op (List Int) :=
  .insertChunk false ⟨"chunk", "project", text, chunkHash digit⟩ ⟨.pending, none, 1⟩ 0

/-- One claim of one job for thirty seconds. -/
def claimBy (workerId : String) (second : Int) : Op (List Int) :=
  .claim ⟨workerId, 1, 30, second * 1000000, fun _ => true⟩

end Neurons.Outbox
