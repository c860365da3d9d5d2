import Mathlib.Tactic.IntervalCases
import Neurons.Lib.Lines
import Neurons.Source.Evidence
import Neurons.Source.ReferencePlatform

/-! # Packed evidence documents

`session_memory/transcript_packer.py` and `document_envelope.py`: the evidence records of a session are
split into parts, and each part is packed into one markdown document behind an envelope of metadata.
-/

namespace Neurons.Source.EvidencePacker

open Neurons.Lib

/-- What the packer reads of a session. -/
structure TranscriptSession where
  sessionIdHash : String
  provider : String
  project : String
  startedAt : String
  endedAt : String
  sourceStatus : String
  sourceLocatorHash : String

/-- The library calls of the packer. -/
structure Host where
  py : Platform
  fmt : Formats
  /-- the UTC stamp of a time: `none` where `datetime.fromisoformat` raises, `some none` where the time
      has no place in UTC -/
  utcStamp : String → Option (Option String)

inductive Scalar where
  | text (value : String)
  | int (value : Int)
  deriving DecidableEq, Repr

abbrev Metadata := List (String × Scalar)

structure PackedTranscriptDocument where
  kind : String
  title : String
  body : String
  metadata : Metadata
  filename : String
  deriving DecidableEq, Repr

def maxPackedTranscriptBodyChars : ℕ := 8192

def toolEvidenceSummaryRecordType : String := "tool_evidence_summary"

/-! ## Envelopes -/

/-- A character of `[A-Za-z0-9_.:/@+-]` -/
def isBareYaml (c : Char) : Bool :=
  ('A' ≤ c && c ≤ 'Z') || ('a' ≤ c && c ≤ 'z') || ('0' ≤ c && c ≤ '9') || c ∈ ['_', '.', ':', '/', '@', '+', '-']

def escapeYaml (c : Char) : List Char := if c = '\\' ∨ c = '"' then ['\\', c] else [c]

def yamlScalar : Scalar → String
  | .int n => toString n
  | .text value =>
      if value = "" then "\"\""
      else if value.toList.all isBareYaml then value
      else "\"" ++ String.ofList (value.toList.flatMap escapeYaml) ++ "\""

def yamlLine (entry : String × Scalar) : String := entry.1 ++ ": " ++ yamlScalar entry.2

/-- `_render_yaml` of flat metadata -/
def renderYaml (metadata : Metadata) : String := "\n".intercalate (metadata.map yamlLine) ++ "\n"

/-- What stands before the body of a document. -/
def envelope (metadata : Metadata) : String := "---\n" ++ renderYaml metadata ++ "---\n"

def boundBodyForEnvelope (metadata : Metadata) (body : String) (maxChars : ℕ) : Except PyError String :=
  let marker := "\n[truncated]\n"
  if maxChars ≤ (envelope metadata).length then
    .error (.valueError "document envelope metadata exceeds maximum document size")
  else
    let available := maxChars - (envelope metadata).length
    if body.length ≤ available then .ok body
    else if available ≤ marker.length then .ok (String.ofList (body.toList.take available))
    else .ok (String.ofList (body.toList.take (available - marker.length)) ++ marker)

def rstrip (text : String) : String := String.ofList (Lines.rstrip isSpace text.toList)

def splitlines (text : String) : List String := (Lines.splitlines text.toList).map String.ofList

def renderMarkdownDocument (metadata : Metadata) (bodyLines : List String) (maxChars : ℕ) : Except PyError String := do
  let body := rstrip ("\n".intercalate bodyLines) ++ "\n"
  return envelope metadata ++ (← boundBodyForEnvelope metadata body maxChars)

def truncatedTextMarker : String := "\n[truncated]"

def boundText (text : String) (maxChars : ℕ) : Except PyError String :=
  if text.length ≤ maxChars then .ok text
  else if maxChars ≤ truncatedTextMarker.length then
    .error (.valueError "bound_text: max_chars too small to mark truncation; refusing silent clamp")
  else .ok (String.ofList (text.toList.take (maxChars - truncatedTextMarker.length)) ++ truncatedTextMarker)

/-! ## Names -/

section Names

variable (host : Host)

def isSlugChar (c : Char) : Bool := ('a' ≤ c && c ≤ 'z') || ('0' ≤ c && c ≤ '9')

/-- `re.sub(r"[^a-z0-9]+", "-", text)` -/
def dashRuns (text : List Char) : List Char :=
  text.foldr (fun c rest => if isSlugChar c then c :: rest else if rest.head? = some '-' then rest else '-' :: rest) []

/-- `_slug` -/
def slug (value : String) : String :=
  let text := String.ofList (stripDashes (dashRuns (host.fmt.lower value).toList))
  if text = "" then "unknown" else text

def isHexLetter (c : Char) : Bool := ('a' ≤ c && c ≤ 'f') || ('A' ≤ c && c ≤ 'F') || ('0' ≤ c && c ≤ '9')

/-- `_hash_fragment` -/
def hashFragment (value : String) (length : ℕ) : String :=
  let hex := ((afterFirst ':' value).toList).filter isHexLetter
  if length ≤ hex.length then String.ofList ((hex.take length).map Char.toLower)
  else String.ofList ((host.py.hexdigest (.text (String.ofList hex))).toList.take length)

/-- `_compact_utc_timestamp` -/
def compactUtcTimestamp (value : String) : Except PyError String :=
  if value = "" then .ok "unknown-time"
  else
    match host.utcStamp (replaceZulu value) with
    | none =>
        let stamp := String.ofList ((slug host value).toList.take 32)
        .ok (if stamp = "" then "unknown-time" else stamp)
    | some none => .error (.overflowError "date value out of range")
    | some (some stamp) => .ok stamp

/-- `build_agent_id` -/
def buildAgentId (provider producer : String) : String := slug host provider ++ "-" ++ slug host producer

/-- `f"{n:0{width}d}"` -/
def padded (width : ℕ) (n : Int) : String :=
  let digits := toString n.natAbs
  let sign := if n < 0 then "-" else ""
  sign ++ "".pushn '0' (width - sign.length - digits.length) ++ digits

/-- `build_document_filename` for a packed transcript document -/
def buildDocumentFilename (kind provider project sessionIdHash : String) (turnStartIndex turnEndIndex : Int)
    (observedAtStart content : String) : Except PyError String := do
  let shortKind := if kind = "conversation_chunk" then "conv" else slug host kind
  let contentHash12 := String.ofList ((host.py.hexdigest (.text content)).toList.take 12)
  let observedUtc ← compactUtcTimestamp host observedAtStart
  return "ak-" ++ shortKind ++ "-" ++ slug host provider ++ "-" ++ slug host project ++ "-" ++
    hashFragment host sessionIdHash 12 ++ "-t" ++ padded 4 turnStartIndex ++ "-" ++ padded 4 turnEndIndex ++ "-" ++
    observedUtc ++ "-" ++ contentHash12 ++ ".md"

end Names

/-! ## Packing -/

/-- `sorted({...})` -/
def sortedSet (texts : List String) : List String := sortTexts texts.eraseDups

def categoriesOf (records : List ToolEvidenceSummaryRecord) : String :=
  ",".intercalate (sortedSet (records.map (·.category)))

def outcomesOf (records : List ToolEvidenceSummaryRecord) : String :=
  ",".intercalate (sortedSet (records.map (·.outcome)))

section Packing

variable (host : Host) (session : TranscriptSession)

/-- The first and the last observed time of the records, or those of the session. -/
def observedBounds (records : List ToolEvidenceSummaryRecord) : String × String :=
  let observed := (records.map (·.observedAt)).filter (· ≠ "")
  let observedAtStart := observed.min?.getD session.startedAt
  let ended := if session.endedAt ≠ "" then session.endedAt else observedAtStart
  (observedAtStart, observed.max?.getD ended)

/-- The least and the greatest index of the records, of which there is one. -/
def indexBounds (records : List ToolEvidenceSummaryRecord) : Int × Int :=
  let indexes := records.map (·.evidenceIndex)
  (indexes.min?.getD 0, indexes.max?.getD 0)

/-- `_tool_evidence_metadata` of a document without a knowledge id -/
def toolEvidenceMetadata (records : List ToolEvidenceSummaryRecord) (partIndex partCount : ℕ) : Metadata :=
  let observed := observedBounds session records
  let indexes := indexBounds records
  let manifestHash := sha256Hash host.py (.text ("\n".intercalate (sortTexts (records.map (·.contentHash)))))
  [("schema_version", .text "agent_knowledge_document.v2"),
    ("result_type", .text toolEvidenceSummaryRecordType),
    ("type", .text toolEvidenceSummaryRecordType),
    ("domain", .text "agent_memory"),
    ("knowledge_id", .text ""),
    ("provider", .text session.provider),
    ("project", .text session.project),
    ("agent_id", .text (buildAgentId host session.provider "tool-evidence")),
    ("session_id_hash", .text session.sessionIdHash),
    ("source_locator_hash", .text session.sourceLocatorHash),
    ("chunk_id", .text ("tool_evidence_" ++ hashFragment host session.sessionIdHash 16 ++ "_p" ++
      padded 3 partIndex)),
    ("turn_start_index", .int indexes.1),
    ("turn_end_index", .int indexes.2),
    ("part_index", .int partIndex),
    ("part_count", .int partCount),
    ("evidence_count", .int records.length),
    ("categories", .text (categoriesOf records)),
    ("outcomes", .text (outcomesOf records)),
    ("observed_at_start", .text observed.1),
    ("observed_at_end", .text observed.2),
    ("privacy_level", .text "private"),
    ("redaction_version", .text "redaction.v2"),
    ("parser_version", .text "tool-evidence-summary-packer.v1"),
    ("source_status", .text session.sourceStatus),
    ("content_manifest_hash", .text manifestHash),
    ("retrieval_tags", .text (",".intercalate
      [session.provider, session.project, "transcript-memory", toolEvidenceSummaryRecordType])),
    ("ledger_contract", .text "agent_knowledge_ledger.v3"),
    ("retention_policy", .text "private_indefinite_until_disabled"),
    ("currentness", .text "historical_tool_evidence_memory")]

/-- The lines before the evidence. -/
def contextLines (records : List ToolEvidenceSummaryRecord) (partIndex partCount : ℕ) : List String :=
  ["# Tool Evidence Summary",
    "",
    "## Context",
    "",
    "- provider: " ++ session.provider,
    "- project: " ++ session.project,
    "- session_id_hash: " ++ session.sessionIdHash,
    "- evidence_count: " ++ toString records.length,
    "- categories: " ++ categoriesOf records,
    "- part: " ++ toString partIndex ++ "/" ++ toString partCount,
    "- currentness: historical_tool_evidence_memory",
    "",
    "## Evidence"]

def contentLines (records : List ToolEvidenceSummaryRecord) (partIndex partCount : ℕ) : List String :=
  contextLines session records partIndex partCount ++ records.flatMap evidenceSectionLines

/-- Pack one bounded, redacted tool_evidence_summary source document. -/
def packToolEvidenceSummaryDocument (records : List ToolEvidenceSummaryRecord) (partIndex partCount : ℕ) :
    Except PyError PackedTranscriptDocument :=
  if records = [] then
    .error (.valueError "tool_evidence_summary packer requires at least one evidence record")
  else do
    let content := "\n".intercalate (contentLines session records partIndex partCount) ++ "\n"
    let contentBody ← boundText content maxPackedTranscriptBodyChars
    let metadata := toolEvidenceMetadata host session records partIndex partCount
    let body ← renderMarkdownDocument metadata (splitlines contentBody) maxPackedTranscriptBodyChars
    let indexes := indexBounds records
    let filename ← buildDocumentFilename host toolEvidenceSummaryRecordType session.provider session.project
      session.sessionIdHash indexes.1 indexes.2 (observedBounds session records).1 contentBody
    return {
      kind := toolEvidenceSummaryRecordType
      title := session.provider ++ " tool evidence summary " ++ toString partIndex ++ "/" ++ toString partCount
      body, metadata, filename }

/-- The parts of a session's evidence. -/
def evidenceParts (records : List ToolEvidenceSummaryRecord) : List (List ToolEvidenceSummaryRecord) :=
  chunkToolEvidenceRecords records maxPackedTranscriptBodyChars

/-- Pack a session's evidence into one or more bounded part documents. -/
def packToolEvidenceSummaryDocuments (records : List ToolEvidenceSummaryRecord) :
    Except PyError (List PackedTranscriptDocument) :=
  ((evidenceParts records).zipIdx 1).mapM fun part =>
    packToolEvidenceSummaryDocument host session part.1 part.2 (evidenceParts records).length

end Packing

/-! ## Parts -/

theorem chunkFrom_flatten (maxChars : Int) (rest current : List ToolEvidenceSummaryRecord) (currentLen : Int) :
    (chunkFrom maxChars current currentLen rest).flatten = current ++ rest := by
  induction rest generalizing current currentLen with
  | nil =>
      rw [chunkFrom]
      split
      · next none => simp [none]
      · simp
  | cons record rest ih =>
      rw [chunkFrom]
      split
      · simp [ih]
      · simp [ih]

theorem chunkFrom_ne_nil (maxChars : Int) (rest current : List ToolEvidenceSummaryRecord) (currentLen : Int) :
    ∀ part ∈ chunkFrom maxChars current currentLen rest, part ≠ [] := by
  induction rest generalizing current currentLen with
  | nil =>
      rw [chunkFrom]
      split
      · simp
      · next some => simpa using some
  | cons record rest ih =>
      rw [chunkFrom]
      split
      · next full =>
          rw [List.forall_mem_cons]
          exact ⟨full.1, ih _ _⟩
      · exact ih _ _

/-- The parts hold every record once and in order, and none is empty. -/
theorem evidenceParts_flatten (records : List ToolEvidenceSummaryRecord) :
    (evidenceParts records).flatten = records ∧ ∀ part ∈ evidenceParts records, part ≠ [] :=
  ⟨chunkFrom_flatten _ records [] _, chunkFrom_ne_nil _ records [] _⟩

/-! ## Documents -/

/-- The rendered section of a record. -/
def sectionText (record : ToolEvidenceSummaryRecord) : String := "\n".intercalate (evidenceSectionLines record) ++ "\n"

def sectionsText (records : List ToolEvidenceSummaryRecord) : String := String.join (records.map sectionText)

section Documents

variable (host : Host) (session : TranscriptSession) (records : List ToolEvidenceSummaryRecord)
  (partIndex partCount : ℕ)

def contextText : String := "\n".intercalate (contextLines session records partIndex partCount) ++ "\n"

/-- The content of a document is its context and the sections of its records. -/
theorem contentLines_text :
    "\n".intercalate (contentLines session records partIndex partCount) ++ "\n"
      = contextText session records partIndex partCount ++ sectionsText records := by
  have sections (lines : List String) (some : lines ≠ []) :
      "\n".intercalate (lines ++ records.flatMap evidenceSectionLines) ++ "\n"
        = "\n".intercalate lines ++ "\n" ++ sectionsText records := by
    induction records generalizing lines with
    | nil => simp [sectionsText]
    | cons record rest ih =>
        have more : evidenceSectionLines record ≠ [] := List.cons_ne_nil _ _
        rw [List.flatMap_cons, ← List.append_assoc, ih _ (by simp [more]),
          String.intercalate_append_of_ne_nil some more]
        simp [sectionsText, sectionText, String.append_assoc]
  exact sections _ (List.cons_ne_nil _ _)

/-- `"\n".join(lines)` of the context's lines as the document is rendered from them, with its newline. -/
def contextRendered : String :=
  "\n".intercalate (splitlines (contextText session records partIndex partCount)) ++ "\n"

/-- The body behind the envelope, before its bound. -/
def contentRendered : String :=
  rstrip ("\n".intercalate (splitlines
    (contextText session records partIndex partCount ++ sectionsText records))) ++ "\n"

/-- Neither the bound on the content nor that on the body has cut its text and put its marker. -/
structure Unmarked : Prop where
  content : boundText (contextText session records partIndex partCount ++ sectionsText records)
      maxPackedTranscriptBodyChars = .ok (contextText session records partIndex partCount ++ sectionsText records)
  body : boundBodyForEnvelope (toolEvidenceMetadata host session records partIndex partCount)
      (contentRendered session records partIndex partCount) maxPackedTranscriptBodyChars =
    .ok (contentRendered session records partIndex partCount)

/-- A document that holds its records in full: it ends in their sections, one after the other, no text was cut
    for it, and it is not too long. -/
structure Whole (doc : PackedTranscriptDocument) : Prop where
  sections : ∃ front, doc.body = front ++ sectionsText records
  unmarked : Unmarked host session records partIndex partCount
  small : doc.body.length ≤ maxPackedTranscriptBodyChars

/-- The records fit a document: there is room for the content, and behind the envelope for the context's lines
    and the sections; the sections have no line breaks but newlines and no white space at their end; and the
    first time has a place in UTC. -/
structure Fits : Prop where
  bounded : (contextText session records partIndex partCount ++ sectionsText records).length ≤
    maxPackedTranscriptBodyChars
  small : (envelope (toolEvidenceMetadata host session records partIndex partCount)).length +
    (contextRendered session records partIndex partCount ++ sectionsText records).length ≤ maxPackedTranscriptBodyChars
  newlines : ∀ line ∈ records.flatMap evidenceSectionLines, ∀ c ∈ line.toList, Lines.isLineBreak c = true → c = '\n'
  ends : ∀ record ∈ records.getLast?, ∃ c ∈ record.redactedSummary.toList.getLast?, isSpace c = false
  dated : ∃ stamp, compactUtcTimestamp host (observedBounds session records).1 = .ok stamp

end Documents

section Rendering

variable {host : Host} {session : TranscriptSession} {records : List ToolEvidenceSummaryRecord}
  {partIndex partCount : ℕ}

theorem intercalate_splitlines (text : String) :
    rstrip ("\n".intercalate (splitlines text)) ++ "\n" = String.ofList (Lines.relined isSpace text.toList) := by
  have lines : ((splitlines text).map String.toList) = Lines.splitlines text.toList := by
    simp [splitlines, Function.comp_def]
  have newline : "\n".toList = ['\n'] := rfl
  rw [← String.toList_inj, String.toList_append, rstrip, String.toList_ofList, String.toList_ofList,
    String.toList_intercalate, lines, newline, Lines.relined, Lines.joinLines, String.toList_ofList]

theorem mem_intercalate {c : Char} {lines : List String} (mem : ∃ line ∈ lines, c ∈ line.toList) :
    c ∈ ("\n".intercalate lines).toList := by
  induction lines with
  | nil => simp at mem
  | cons line lines ih =>
      by_cases more : lines = []
      · subst more
        simpa using mem
      · rw [String.intercalate_cons_of_ne_nil more, String.toList_append, List.mem_append]
        obtain ⟨other, isLine, mem⟩ := mem
        rcases List.mem_cons.mp isLine with rfl | isLine
        · exact .inl (by simp [mem])
        · exact .inr (ih ⟨other, isLine, mem⟩)

theorem mem_intercalate_iff {c : Char} {lines : List String} (mem : c ∈ ("\n".intercalate lines).toList) :
    c = '\n' ∨ ∃ line ∈ lines, c ∈ line.toList := by
  have newline : "\n".toList = ['\n'] := rfl
  rw [String.toList_intercalate, newline] at mem
  rcases Lines.mem_joinLines mem with same | ⟨line, isLine, mem⟩
  · exact .inl same
  · obtain ⟨other, isOther, rfl⟩ := List.mem_map.mp isLine
    exact .inr ⟨other, isOther, mem⟩

theorem sectionsText_eq (some : records ≠ []) :
    sectionsText records = "\n".intercalate (records.flatMap evidenceSectionLines) ++ "\n" := by
  induction records with
  | nil => exact absurd rfl some
  | cons record rest ih =>
      have filled (record : ToolEvidenceSummaryRecord) : evidenceSectionLines record ≠ [] := List.cons_ne_nil _ _
      by_cases last : rest = []
      · subst last
        simp [sectionsText, sectionText]
      · have more : rest.flatMap evidenceSectionLines ≠ [] := by
          obtain ⟨next, rest, rfl⟩ := List.exists_cons_of_ne_nil last
          simp [filled]
        rw [List.flatMap_cons, String.intercalate_append_of_ne_nil (filled record) more, sectionsText, List.map_cons,
          String.join_cons, ← sectionsText, ih last, sectionText]
        simp [String.append_assoc]

/-- The last character of the sections is that of the last summary, or the space before it. -/
theorem sections_getLast {record : ToolEvidenceSummaryRecord} (last : records.getLast? = some record) :
    ("\n".intercalate (records.flatMap evidenceSectionLines)).toList.getLast?
      = some (record.redactedSummary.toList.getLast?.getD ' ') := by
  obtain ⟨before, rfl⟩ := List.getLast?_eq_some_iff.mp last
  have lines : (before ++ [record]).flatMap evidenceSectionLines =
      (before.flatMap evidenceSectionLines ++ (evidenceSectionLines record).take 4) ++
        ["- result: " ++ record.redactedSummary] := by
    simp [evidenceSectionLines, recordLines]
  rw [lines, String.intercalate_append_of_ne_nil (by simp [evidenceSectionLines]) (by simp),
    String.intercalate_singleton, ← String.append_assoc, String.toList_append, List.getLast?_append]
  cases record.redactedSummary.toList.getLast? with
  | none => simp
  | some c => rfl

/-- The sections are kept by the rendering exactly when they have no other line breaks and end in no white space. -/
theorem relined_sections (some : records ≠ []) :
    Lines.relined isSpace (sectionsText records).toList = (sectionsText records).toList ↔
      (∀ line ∈ records.flatMap evidenceSectionLines, ∀ c ∈ line.toList, Lines.isLineBreak c = true → c = '\n') ∧
      ∀ record ∈ records.getLast?, ∃ c ∈ record.redactedSummary.toList.getLast?, isSpace c = false := by
  have newline : "\n".toList = ['\n'] := rfl
  rw [sectionsText_eq some, String.toList_append, newline, Lines.relined_eq_self_iff, Lines.rstrip_eq_self_iff]
  obtain ⟨record, last⟩ : ∃ record, records.getLast? = Option.some record := by
    cases last : records.getLast? with
    | none => exact absurd (List.getLast?_eq_none_iff.mp last) some
    | some record => exact ⟨record, rfl⟩
  rw [sections_getLast last, last]
  refine and_congr ⟨fun all line isLine c mem => ?_, fun all c mem ends => ?_⟩ ?_
  · exact all c (mem_intercalate ⟨line, isLine, mem⟩)
  · rcases mem_intercalate_iff mem with same | ⟨line, isLine, mem⟩
    · exact same
    · exact all line isLine c mem ends
  · cases summary : record.redactedSummary.toList.getLast? with
    | none =>
        have blank : isSpace ' ' = true := rfl
        simp [summary, blank]
    | some c => simp [summary]

/-- Sections begin with an empty line and hold more than white space. -/
theorem sections_begin (some : records ≠ []) :
    (sectionsText records).toList.head? = Option.some '\n' ∧ '#' ∈ (sectionsText records).toList := by
  obtain ⟨record, rest, rfl⟩ := List.exists_cons_of_ne_nil some
  have first : ∃ behind, sectionText record = "\n#" ++ behind := by
    refine ⟨"## " ++ toString record.evidenceIndex ++ " " ++ record.category ++ "/" ++ record.outcome ++ "\n" ++
      "\n".intercalate ((evidenceSectionLines record).drop 2) ++ "\n", ?_⟩
    have header (rest : String) : "\n" ++ ("### " ++ rest) = "\n#" ++ ("## " ++ rest) := by
      rw [← String.append_assoc, ← String.append_assoc]
      rfl
    simp [sectionText, evidenceSectionLines, recordLines, String.intercalate_cons_cons, String.append_assoc, header]
  obtain ⟨behind, first⟩ := first
  rw [sectionsText, List.map_cons, String.join_cons, first, String.toList_append, String.toList_append]
  exact ⟨rfl, by simp⟩

theorem sections_filled (some : records ≠ []) :
    Lines.rstrip isSpace (Lines.joinLines (Lines.splitlines (sectionsText records).toList)) ≠ [] :=
  Lines.rstrip_ne_nil (Lines.mem_joinLines_splitFrom (.inr (sections_begin some).2) rfl) rfl

/-- The content is rendered as the context's lines and then the sections' lines. -/
theorem relined_content (some : records ≠ []) :
    Lines.relined isSpace (contextText session records partIndex partCount ++ sectionsText records).toList =
      (contextRendered session records partIndex partCount).toList ++
        Lines.relined isSpace (sectionsText records).toList := by
  have newline : "\n".toList = ['\n'] := rfl
  have lines (text : String) : ((splitlines text).map String.toList) = Lines.splitlines text.toList := by
    simp [splitlines, Function.comp_def]
  rw [contextRendered, String.toList_append, String.toList_append, String.toList_intercalate, lines, contextText,
    String.toList_append, newline, List.append_assoc, List.singleton_append,
    Lines.relined_append _ (sections_filled some), List.append_assoc, List.singleton_append]
  rfl

theorem boundText_eq_self_iff {text : String} {maxChars : ℕ} :
    boundText text maxChars = .ok text ↔ text.length ≤ maxChars := by
  unfold boundText
  split
  · next small => exact iff_of_true rfl small
  · next large =>
      refine iff_of_false ?_ large
      split
      · exact nofun
      · next room =>
          have marker : truncatedTextMarker.length = 12 := rfl
          intro same
          have size := congrArg String.length (Except.ok.inj same)
          rw [String.length_append, String.length_ofList, List.length_take, String.length_toList] at size
          omega

theorem boundBody_eq_self_iff {metadata : Metadata} {text : String} {maxChars : ℕ} (filled : 0 < text.length) :
    boundBodyForEnvelope metadata text maxChars = .ok text ↔ (envelope metadata).length + text.length ≤ maxChars := by
  unfold boundBodyForEnvelope
  dsimp only
  split
  · next none => exact iff_of_false nofun (by omega)
  · next some =>
      split
      · next small => exact iff_of_true rfl (by omega)
      · next large =>
          refine iff_of_false ?_ (by omega)
          have marker : "\n[truncated]\n".length = 13 := rfl
          split
          · intro same
            have size := congrArg String.length (Except.ok.inj same)
            rw [String.length_ofList, List.length_take, String.length_toList] at size
            omega
          · intro same
            have size := congrArg String.length (Except.ok.inj same)
            rw [String.length_append, String.length_ofList, List.length_take, String.length_toList] at size
            omega

/-- Where nothing is cut, the body is the envelope, the context's lines and the sections' lines. -/
theorem pack_unmarked {doc : PackedTranscriptDocument} (some : records ≠ [])
    (packed : packToolEvidenceSummaryDocument host session records partIndex partCount = .ok doc)
    (unmarked : Unmarked host session records partIndex partCount) :
    (doc.body = envelope (toolEvidenceMetadata host session records partIndex partCount) ++
      contextRendered session records partIndex partCount ++
        String.ofList (Lines.relined isSpace (sectionsText records).toList)) ∧
      ∃ stamp, compactUtcTimestamp host (observedBounds session records).1 = .ok stamp := by
  have rendered := unmarked.body
  rw [contentRendered, intercalate_splitlines] at rendered
  simp only [packToolEvidenceSummaryDocument, if_neg some, contentLines_text, unmarked.content, ok_bind,
    renderMarkdownDocument, intercalate_splitlines, rendered, bind_eq_ok, pure_eq_ok, Except.ok.injEq] at packed
  obtain ⟨filename, named, rfl⟩ := packed
  simp only [buildDocumentFilename, bind_eq_ok] at named
  obtain ⟨stamp, dated, -⟩ := named
  have lines : String.ofList (Lines.relined isSpace
      (contextText session records partIndex partCount ++ sectionsText records).toList) =
      contextRendered session records partIndex partCount ++
        String.ofList (Lines.relined isSpace (sectionsText records).toList) := by
    rw [relined_content some, ← String.toList_inj, String.toList_ofList, String.toList_append, String.toList_ofList]
  exact ⟨(congrArg (envelope _ ++ ·) lines).trans String.append_assoc.symm, stamp, dated⟩

/-- Where nothing is cut is where both texts are short enough. -/
theorem unmarked_iff (some : records ≠ []) : Unmarked host session records partIndex partCount ↔
    (contextText session records partIndex partCount ++ sectionsText records).length ≤ maxPackedTranscriptBodyChars ∧
      (envelope (toolEvidenceMetadata host session records partIndex partCount)).length +
          ((contextRendered session records partIndex partCount).length +
            (Lines.relined isSpace (sectionsText records).toList).length) ≤ maxPackedTranscriptBodyChars := by
  have size : (String.ofList (Lines.relined isSpace
        (contextText session records partIndex partCount ++ sectionsText records).toList)).length =
      (contextRendered session records partIndex partCount).length +
        (Lines.relined isSpace (sectionsText records).toList).length := by
    rw [String.length_ofList, relined_content some, List.length_append, String.length_toList]
  have filled : 0 < (String.ofList (Lines.relined isSpace
      (contextText session records partIndex partCount ++ sectionsText records).toList)).length := by
    rw [String.length_ofList, Lines.relined, List.length_append, List.length_singleton]
    omega
  constructor
  · rintro ⟨content, body⟩
    rw [contentRendered, intercalate_splitlines, boundBody_eq_self_iff filled, size] at body
    exact ⟨boundText_eq_self_iff.mp content, body⟩
  · rintro ⟨content, body⟩
    refine ⟨boundText_eq_self_iff.mpr content, ?_⟩
    rw [contentRendered, intercalate_splitlines, boundBody_eq_self_iff filled, size]
    exact body

theorem Fits.unmarked (fits : Fits host session records partIndex partCount) (some : records ≠ []) :
    Unmarked host session records partIndex partCount := by
  have whole := (relined_sections some).mpr ⟨fits.newlines, fits.ends⟩
  have small := fits.small
  rw [String.length_append] at small
  rw [unmarked_iff some, whole, String.length_toList]
  exact ⟨fits.bounded, small⟩

/-- What stands before the sections of records that fit is the envelope and the context. -/
theorem Fits.body (fits : Fits host session records partIndex partCount) (some : records ≠ [])
    {doc : PackedTranscriptDocument}
    (packed : packToolEvidenceSummaryDocument host session records partIndex partCount = .ok doc) :
    doc.body = envelope (toolEvidenceMetadata host session records partIndex partCount) ++
      contextRendered session records partIndex partCount ++ sectionsText records := by
  have whole := (relined_sections some).mpr ⟨fits.newlines, fits.ends⟩
  rw [(pack_unmarked some packed (fits.unmarked some)).1, whole, String.ofList_toList]

/-- Exactly the records that fit are packed in full. -/
theorem pack_whole_iff (some : records ≠ []) :
    (∃ doc, packToolEvidenceSummaryDocument host session records partIndex partCount = .ok doc ∧
        Whole host session records partIndex partCount doc) ↔ Fits host session records partIndex partCount := by
  constructor
  · rintro ⟨doc, packed, ⟨front, ends⟩, unmarked, small⟩
    obtain ⟨body, dated⟩ := pack_unmarked some packed unmarked
    obtain ⟨bounded, room⟩ := (unmarked_iff some).mp unmarked
    have ended : (sectionsText records).toList.getLast? = Option.some '\n' := by
      rw [sectionsText_eq some, String.toList_append, List.getLast?_append]
      rfl
    have whole : Lines.relined isSpace (sectionsText records).toList = (sectionsText records).toList := by
      refine Lines.relined_of_suffix (sections_begin some).1 (sections_filled some) ?_
      have same := congrArg String.toList (ends.symm.trans body)
      rw [String.toList_append, String.toList_append, String.toList_ofList] at same
      have first : (sectionsText records).toList <:+ _ := ⟨front.toList, same⟩
      exact List.suffix_of_suffix_length_le (List.suffix_append _ _) first (Lines.length_relined_le ended)
    obtain ⟨newlines, last⟩ := (relined_sections some).mp whole
    rw [whole, String.length_toList] at room
    exact ⟨bounded, by rwa [String.length_append], newlines, last, dated⟩
  · intro fits
    have unmarked := fits.unmarked some
    obtain ⟨stamp, dated⟩ := fits.dated
    obtain ⟨filename, named⟩ : ∃ filename, buildDocumentFilename host toolEvidenceSummaryRecordType session.provider
        session.project session.sessionIdHash (indexBounds records).1 (indexBounds records).2
        (observedBounds session records).1 (contextText session records partIndex partCount ++ sectionsText records)
          = .ok filename := by
      simp only [buildDocumentFilename, dated, ok_bind]
      exact ⟨_, rfl⟩
    obtain ⟨doc, packed⟩ : ∃ doc, packToolEvidenceSummaryDocument host session records partIndex partCount = .ok doc := by
      have rendered := unmarked.body
      rw [contentRendered] at rendered
      simp only [packToolEvidenceSummaryDocument, if_neg some, contentLines_text, unmarked.content, ok_bind,
        renderMarkdownDocument, rendered, named, pure_eq_ok]
      exact ⟨_, rfl⟩
    have body := fits.body some packed
    refine ⟨doc, packed, ⟨_, body⟩, unmarked, ?_⟩
    rw [body, String.append_assoc, String.length_append]
    exact fits.small

end Rendering

/-! ## Sessions -/

theorem exists_forall₂_iff {α β : Type} {R : α → β → Prop} {l : List α} :
    (∃ l', List.Forall₂ R l l') ↔ ∀ a ∈ l, ∃ b, R a b := by
  induction l with
  | nil => simp
  | cons a l ih =>
      rw [List.forall_mem_cons, ← ih]
      constructor
      · rintro ⟨_, _ | ⟨here, rest⟩⟩
        exact ⟨⟨_, here⟩, _, rest⟩
      · rintro ⟨⟨b, here⟩, l', rest⟩
        exact ⟨b :: l', .cons here rest⟩

theorem forall₂_and_iff {α β : Type} {R S : α → β → Prop} {l : List α} {l' : List β} :
    List.Forall₂ R l l' ∧ List.Forall₂ S l l' ↔ List.Forall₂ (fun a b => R a b ∧ S a b) l l' := by
  constructor
  · rintro ⟨first, second⟩
    induction first with
    | nil => exact .nil
    | cons here _ ih =>
        cases second with
        | cons there rest => exact .cons ⟨here, there⟩ (ih rest)
  · intro both
    exact ⟨both.imp fun _ _ => And.left, both.imp fun _ _ => And.right⟩

/-- The documents of a session hold the sections of all its records. -/
def NothingLost (host : Host) (session : TranscriptSession) (records : List ToolEvidenceSummaryRecord) : Prop :=
  ∃ docs, packToolEvidenceSummaryDocuments host session records = .ok docs ∧
    List.Forall₂ (fun part doc => Whole host session part.1 part.2 (evidenceParts records).length doc)
      ((evidenceParts records).zipIdx 1) docs

/-- The documents hold all sections exactly when every part fits its document. -/
theorem nothingLost_iff_fits (host : Host) (session : TranscriptSession) (records : List ToolEvidenceSummaryRecord) :
    NothingLost host session records ↔
      ∀ part ∈ (evidenceParts records).zipIdx 1, Fits host session part.1 part.2 (evidenceParts records).length := by
  have filled := (evidenceParts_flatten records).2
  have each : NothingLost host session records ↔ ∃ docs, List.Forall₂ (fun part doc =>
      packToolEvidenceSummaryDocument host session part.1 part.2 (evidenceParts records).length = .ok doc ∧
        Whole host session part.1 part.2 (evidenceParts records).length doc) ((evidenceParts records).zipIdx 1) docs := by
    refine exists_congr fun docs => ?_
    rw [packToolEvidenceSummaryDocuments, mapM_eq_ok_iff, forall₂_and_iff]
  refine each.trans (exists_forall₂_iff.trans (forall₂_congr fun part mem => ?_))
  have some : part.1 ≠ [] := filled part.1 (List.fst_mem_of_mem_zipIdx mem)
  exact pack_whole_iff some

theorem length_intercalate {lines : List String} (some : lines ≠ []) :
    ("\n".intercalate lines).length + 1 = (lines.map fun line => line.length + 1).sum := by
  have newline : "\n".length = 1 := rfl
  induction lines with
  | nil => exact absurd rfl some
  | cons line lines ih =>
      by_cases more : lines = []
      · subst more
        simp
      · rw [String.intercalate_cons_of_ne_nil more, String.length_append, String.length_append, newline, List.map_cons,
          List.sum_cons, ← ih more]
        omega

theorem length_yamlLine (entry : String × Scalar) : entry.1.length + 2 ≤ (yamlLine entry).length := by
  have separator : ": ".length = 2 := rfl
  rw [yamlLine, String.length_append, String.length_append, separator]
  omega

theorem length_yamlLines (metadata : Metadata) :
    (metadata.map fun entry => entry.1.length + 3).sum ≤
      (metadata.map fun entry => (yamlLine entry).length + 1).sum := by
  induction metadata with
  | nil => exact le_rfl
  | cons entry rest ih =>
      have line := length_yamlLine entry
      rw [List.map_cons, List.map_cons, List.sum_cons, List.sum_cons]
      omega

/-- The header budget is too small for every document: the envelope alone is longer. -/
theorem headerBudget_lt_envelope (host : Host) (session : TranscriptSession) (records : List ToolEvidenceSummaryRecord)
    (partIndex partCount : ℕ) :
    headerBudgetChars + 32 ≤ (envelope (toolEvidenceMetadata host session records partIndex partCount)).length := by
  generalize made : toolEvidenceMetadata host session records partIndex partCount = metadata
  have size : metadata.length = 29 := made ▸ rfl
  have yaml : (renderYaml metadata).length = (metadata.map fun entry => (yamlLine entry).length + 1).sum := by
    have some : metadata.map yamlLine ≠ [] := by
      intro none
      have empty := congrArg List.length none
      simp [size] at empty
    rw [renderYaml, String.length_append, show "\n".length = 1 from rfl, length_intercalate some, List.map_map]
    rfl
  have keys : ((metadata.take 26).map fun entry => entry.1.length + 3).sum = 396 := by
    have named : (metadata.take 26).map Prod.fst = ["schema_version", "result_type", "type", "domain", "knowledge_id",
        "provider", "project", "agent_id", "session_id_hash", "source_locator_hash", "chunk_id", "turn_start_index",
        "turn_end_index", "part_index", "part_count", "evidence_count", "categories", "outcomes", "observed_at_start",
        "observed_at_end", "privacy_level", "redaction_version", "parser_version", "source_status",
        "content_manifest_hash", "retrieval_tags"] := made ▸ rfl
    have keyed : ((metadata.take 26).map fun entry => entry.1.length + 3) =
        ((metadata.take 26).map Prod.fst).map fun key => key.length + 3 := by
      rw [List.map_map]
      rfl
    rw [keyed, named]
    decide +kernel
  have last : ((metadata.drop 26).map fun entry => (yamlLine entry).length + 1).sum = 140 := by
    have fixed : metadata.drop 26 = [("ledger_contract", .text "agent_knowledge_ledger.v3"),
        ("retention_policy", .text "private_indefinite_until_disabled"),
        ("currentness", .text "historical_tool_evidence_memory")] := made ▸ rfl
    rw [fixed]
    decide +kernel
  have split : (metadata.map fun entry => (yamlLine entry).length + 1).sum =
      ((metadata.take 26).map fun entry => (yamlLine entry).length + 1).sum +
        ((metadata.drop 26).map fun entry => (yamlLine entry).length + 1).sum := by
    rw [← List.sum_append, ← List.map_append, List.take_append_drop]
  have first := length_yamlLines (metadata.take 26)
  have budget : headerBudgetChars = 512 := rfl
  have marker : "---\n".length = 4 := rfl
  rw [envelope, String.length_append, String.length_append, budget, yaml, split, last, marker]
  omega

/-! ## Seven long records -/

def longRecord (evidenceIndex : ℕ) : ToolEvidenceSummaryRecord where
  sessionIdHash := "sha256:1"
  provider := "codex"
  project := "neurons"
  category := "test_result"
  outcome := "pass"
  toolName := "exec_command"
  commandSummary := "pytest"
  redactedSummary := String.ofList (List.replicate 1023 'x')
  observedAt := "2026-05-27T23:21:00+00:00"
  evidenceIndex
  contentHash := "sha256:2"

def longSession : TranscriptSession where
  sessionIdHash := "sha256:1"
  provider := "codex"
  project := "neurons"
  startedAt := "2026-05-27T23:20:47+00:00"
  endedAt := "2026-05-27T23:59:00+00:00"
  sourceStatus := "source_locator_private_spool_only"
  sourceLocatorHash := "sha256:3"

def plainHost : Host := ⟨referencePlatform, plainFormats, fun _ => some (some "20260527T232100Z")⟩

def longRecords : List ToolEvidenceSummaryRecord := (List.range 7).map longRecord

theorem length_longSection {i : ℕ} (digit : i < 7) : (sectionText (longRecord i)).length = 1097 := by
  have newline : "\n".length = 1 := rfl
  have index : (toString ((i : ℕ) : Int)).length = 1 := by
    interval_cases i <;> rfl
  simp only [sectionText, evidenceSectionLines, recordLines, longRecord, String.intercalate_cons_cons,
    String.intercalate_singleton, String.length_append, String.length_ofList, List.length_replicate, newline, index]
  rfl

theorem sectionLength_eq (record : ToolEvidenceSummaryRecord) : sectionLength record = (sectionText record).length := by
  have newline : "\n".length = 1 := rfl
  rw [sectionLength, sectionText, String.length_append, newline]
  rfl

theorem length_sectionsText (records : List ToolEvidenceSummaryRecord) :
    (sectionsText records).length = (records.map fun record => (sectionText record).length).sum := by
  induction records with
  | nil => rfl
  | cons record rest ih =>
      rw [sectionsText, List.map_cons, String.join_cons, String.length_append, List.map_cons, List.sum_cons, ← ih]
      rfl

/-- They fill the budget of one part. -/
theorem evidenceParts_long : evidenceParts longRecords = [longRecords] := by
  have size {i : ℕ} (digit : i < 7) : sectionLength (longRecord i) = 1097 := by
    rw [sectionLength_eq, length_longSection digit]
    rfl
  simp [evidenceParts, chunkToolEvidenceRecords, longRecords, List.range_succ, chunkFrom, size, headerBudgetChars,
    maxPackedTranscriptBodyChars]

end Neurons.Source.EvidencePacker
