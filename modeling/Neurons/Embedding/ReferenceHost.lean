import Neurons.Embedding.Leases
import Neurons.Steward.ReferenceRun

/-! # A host that runs

The library calls of the local outbox as they answer on the chunks of the concrete runs
of this development: whole numbers for the coordinates of a vector, and the steward's
library under the local profile.
-/

namespace Neurons.Embedding

open Neurons.Lib
open Neurons.Source

/-- `_validate_local_vector` on whole coordinates. -/
def referenceVector (vector : List Int) : Except PyError (List Int) := do
  refuseIf (vector.length ≠ 256) (.valueError ("Local vector dimension mismatch: expected 256, got " ++
    toString vector.length))
  refuseIf (∀ x ∈ vector, x = 0) (.valueError "local vector norm must be positive")
  return vector

def referenceHost : Host (List Int) (List Int) where
  lib := { Steward.referenceLibrary with localProfile := true }
  canonicalJson _ := none
  jsonb value := value
  localVector := referenceVector
  positiveNorm column := decide (∃ x ∈ column, x ≠ 0)

/-- A vector with every coordinate one. -/
def onesVector : List Int := List.replicate 256 1

/-- A content hash as an ingest path may assign one. -/
def chunkHash (digit : Char) : String := "sha256:" ++ String.ofList (List.replicate 64 digit)

/-- Store a chunk and enqueue it. -/
def putChunkOp (text : String) (digit : Char) : Op (List Int) :=
  .insertChunkWithLocalOutbox false ⟨"chunk", "project", text, chunkHash digit⟩ 0

/-- A claim of one job for one second. -/
def claimOp (maxRetries second : Int) : Op (List Int) :=
  .claim ⟨"worker", 1, 1, maxRetries, second * 1000000, fun _ => second * 1000000, fun _ => true⟩

/-- The worker reports its first claim of a job done, in the second after the claim. -/
def completeOp (outboxId : ℕ) (second : Int) : Op (List Int) :=
  .complete outboxId "worker" 1 onesVector (second * 1000000 + 1)

/-- The hash of the input of a chunk. -/
def textHash (text : String) : String := sha256Hash referencePlatform (.text text)

/-- Store a chunk, claim its job and report it done. -/
def embedOps : List (Op (List Int)) := [putChunkOp "text" 'a', claimOp 5 1, completeOp 1 1]

/-- The database with one embedded chunk. -/
def embeddedChunk : Db (List Int) := run (step referenceHost) .empty embedOps

end Neurons.Embedding
