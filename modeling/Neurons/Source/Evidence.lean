import Neurons.Source.Builders

/-! # Evidence bundles

A session's tool evidence records split into bounded bundles, none of which holds records of
different observed times.
-/

namespace Neurons.Source

open Neurons.Lib

/-- The fields of a record the bundler reads. -/
structure ToolEvidenceSummaryRecord where
  sessionIdHash : String
  provider : String
  project : String
  category : String
  outcome : String
  toolName : String
  commandSummary : String
  redactedSummary : String
  observedAt : String
  evidenceIndex : Int
  contentHash : String

/-! ## Parts -/

def headerBudgetChars : Int := 512

def recordLines (record : ToolEvidenceSummaryRecord) : List String :=
  ["### " ++ toString record.evidenceIndex ++ " " ++ record.category ++ "/" ++ record.outcome,
    "- tool: " ++ record.toolName,
    "- command: " ++ record.commandSummary,
    "- result: " ++ record.redactedSummary]

def evidenceSectionLines (record : ToolEvidenceSummaryRecord) : List String := "" :: recordLines record

def sectionLength (record : ToolEvidenceSummaryRecord) : Int :=
  ("\n".intercalate (evidenceSectionLines record)).length + 1

/-- The rest of the records, behind a part that has been begun. -/
def chunkFrom (maxChars : Int) (current : List ToolEvidenceSummaryRecord) (currentLen : Int) :
    List ToolEvidenceSummaryRecord → List (List ToolEvidenceSummaryRecord)
  | [] => if current = [] then [] else [current]
  | record :: rest =>
      if current ≠ [] ∧ maxChars < currentLen + sectionLength record then
        current :: chunkFrom maxChars [record] (headerBudgetChars + sectionLength record) rest
      else chunkFrom maxChars (current ++ [record]) (currentLen + sectionLength record) rest

/-- Split evidence records into ordered parts that each fit one bounded body. -/
def chunkToolEvidenceRecords (records : List ToolEvidenceSummaryRecord) (maxChars : Int) :
    List (List ToolEvidenceSummaryRecord) :=
  chunkFrom maxChars [] headerBudgetChars records

section Bundles

variable (py : Platform) (fmt : Formats)

def recordInterval (record : ToolEvidenceSummaryRecord) : Except PyError (Option (String × String)) :=
  normalizeObservedInterval py fmt record.observedAt record.observedAt

/-- The records of one sized part, cut wherever the interval changes. -/
def splitByInterval (part : List ToolEvidenceSummaryRecord) :
    Except PyError (List (List ToolEvidenceSummaryRecord)) := do
  let timed ← part.mapM fun record => do return (record, ← recordInterval py fmt record)
  return (timed.splitBy fun a b => a.2 == b.2).map fun group => group.map Prod.fst

/-- `"\n".join(lines).rstrip() + "\n"` over the sections of the records. -/
def bundleBody (records : List ToolEvidenceSummaryRecord) : String :=
  let lines := records.flatMap fun record => recordLines record ++ [""]
  let text := "\n".intercalate lines
  String.ofList ((text.toList.reverse.dropWhile isSpace).reverse) ++ "\n"

/-- The bundle of one part, which has a record. -/
def bundleOf (partIndex partCount : Nat) (part : List ToolEvidenceSummaryRecord) : Except PyError Doc :=
  match part with
  | [] => .error (.indexError "list index out of range")
  | first :: rest => do
      let interval := (← recordInterval py fmt first).getD ("", "")
      let indexes := rest.map (·.evidenceIndex)
      buildToolEvidenceBundleDocument py fmt {
        sessionIdHash := first.sessionIdHash
        provider := first.provider
        project := first.project
        partIndex, partCount
        evidenceIndexStart := indexes.foldl min first.evidenceIndex
        evidenceIndexEnd := indexes.foldl max first.evidenceIndex
        recordContentHashes := part.map (·.contentHash)
        body := bundleBody part
        observedAtStart := interval.1
        observedAtEnd := interval.2 }

/-- Build (but do not store) bounded tool_evidence_bundle documents. -/
def buildToolEvidenceBundleDocuments (records : List ToolEvidenceSummaryRecord) (maxChars : Int) :
    Except PyError (List Doc) := do
  match records with
  | [] => return []
  | first :: rest => do
      refuseIf (rest.any fun record => record.sessionIdHash ≠ first.sessionIdHash)
        (.valueError "tool evidence bundling is per-session; mixed session_id_hash given")
      let parts ← (chunkToolEvidenceRecords records maxChars).mapM (splitByInterval py fmt)
      let parts := parts.flatten
      (parts.zipIdx 1).mapM fun (part, partIndex) => bundleOf py fmt partIndex parts.length part

end Bundles

end Neurons.Source
