import Neurons.JsonSize
import Neurons.Steward.Trimming

/-! # The response to a context request

`_payload` and `tool_result` of a page of cards in context mode that asks for no evidence. The
cards of a context carry no authority source. `safe` is `_safe`, which masks and bounds a text.
-/

namespace Neurons.Steward

open Neurons.Lib
open Neurons.Source

section Payload

variable (safe : String → ℕ → String)

mutual

/-- `_safe_typed_value` -/
def safeTypedValue : Json → Json
  | .str s => .str (safe s 65536)
  | .arr items => .arr (safeTypedItems items)
  | .obj fields => .obj (safeTypedFields fields)
  | v => v

def safeTypedItems : List Json → List Json
  | [] => []
  | item :: rest => safeTypedValue item :: safeTypedItems rest

def safeTypedFields : List (Key × Json) → List (Key × Json)
  | [] => []
  | (k, item) :: rest => (.other (safe k.name 128), safeTypedValue item) :: safeTypedFields rest

end

/-- A field with its text, left out where the text is empty. -/
def stated (key : String) (text : String) : List (Key × Json) :=
  if text = "" then [] else [(.other key, .str text)]

/-- `_context_item` -/
def contextItem (card : ListedCard) : List (Key × Json) :=
  let row := card.row
  let identity := [(Key.other "id", Json.str (safe row.memoryId 180)), (.other "card_type", .str (safe row.cardType 64))]
  let texts := if row.cardType ∈ contextSectionTypes then [] else
    [(Key.other "title", Json.str (safe row.title 1000)), (.other "summary", .str (safe row.summary 65536)),
      (.other "content_hash", .str (safe row.contentHash 80))] ++
    match row.typedPayload with
    | .obj _ => [(.other "typed_payload", safeTypedValue safe row.typedPayload)]
    | _ => []
  identity ++ texts ++ ([(.other "currentness", .str (safe row.currentnessText 32))] : List (Key × Json)) ++
    if card.temporalConflict then [(.other "temporal_conflict", .bool true)] else []

/-- `_task_subject` -/
def taskSubject (row : CardRow) : String :=
  let explicit := match Dict.get? row.typed (.other "task") with
    | some (.str s) => s
    | _ => ""
  let state := row.textAt (.typed (.field .taskState))
  if strip explicit ≠ "" then explicit
  else if lower (strip state) ∈ taskStateTokens then
    let heading := row.firstText [.title, .summary]
    if heading = "" then state else heading
  else if strip state ≠ "" then state
  else row.firstText [.title, .summary]

/-- `_status_subject` -/
def statusSubject (row : CardRow) : String :=
  let raw := strip (row.firstText [.typed (.field .statusValue), .typed (.field .status)])
  if lower raw ∈ statusStateTokens then
    let title := strip row.title
    let summary := strip row.summary
    if title ≠ "" ∧ summary ≠ "" ∧ summary ≠ title then title ++ " — " ++ summary
    else if title ≠ "" then title
    else if summary ≠ "" then summary
    else raw
  else if raw ≠ "" then raw
  else row.firstText [.summary, .title]

/-- The section of a card and its entry there. -/
def contextEntry (card : ListedCard) : Option (String × List (Key × Json)) :=
  let row := card.row
  let identity := (Key.other "id", Json.str (safe row.memoryId 180))
  let typed (key : Key) := TextPlace.typed key
  if row.cardType = "decision" then
    some ("decisions", [identity,
      (.other "decision", .str (safe (row.firstText [typed (.field .decision), .summary, .title]) 65536))] ++
      stated "rationale" (safe (row.textAt (typed (.field .rationale))) 65536))
  else if row.cardType = "preference" then
    let scope := row.textAt (typed (.field .scope))
    some ("preferences", [identity,
      (.other "rule", .str (safe (row.firstText [typed (.other "rule"), typed (.field .preference), .summary, .title])
        65536)),
      (.other "scope", .str (safe (if scope = "" then "general" else scope) 256))])
  else if row.cardType ∈ ["task", "work", "work_unit"] then
    let subject := safe (taskSubject row) 65536
    let state := safe (row.firstText [typed (.field .taskState), typed (.field .status)]) 256
    some ("tasks", [identity, (.other "task", .str subject)] ++
      stated "task_state" (if state = subject then "" else state) ++
      stated "next_action" (safe (row.textAt (typed (.field .nextAction))) 65536) ++
      stated "blocker" (safe (row.textAt (typed (.field .blocker))) 65536))
  else if row.cardType = "status" then
    let subject := safe (statusSubject row) 65536
    let state := safe (row.firstText [typed (.field .statusValue), typed (.field .status)]) 256
    some ("statuses", [identity, (.other "status", .str subject)] ++
      stated "status_state" (if state = subject ∨ lower (strip state) ∉ statusStateTokens then "" else state) ++
      stated "observed_at" (safe (row.textAt (typed (.field .observedAt))) 256))
  else none

/-- The entries of a section. -/
def sectionOf (name : String) (cards : List ListedCard) : List Json :=
  cards.filterMap fun card =>
    match contextEntry safe card with
    | some (section', entry) => if section' = name then some (.obj entry) else none
    | none => none

/-- `_payload` in context mode; the metadata of the store and the instant asked for are given. -/
def contextPayload (metadata : List (Key × Json)) (encodeCursor : ListCursor → String) (request : ResolveRequest)
    (payload : SlimPayload) : Json :=
  let preferences := sectionOf safe "preferences" payload.items
  let rules := preferences.map fun entry =>
    match entry with
    | .obj fields => ((fields.find? (·.1 = .other "rule")).map Prod.snd).getD .null
    | _ => .null
  .obj (([(.other "schema_version", .str "lbrain_slim_context.v1"), (.other "project", .str request.project),
    (.other "decisions", .arr (sectionOf safe "decisions" payload.items)), (.other "preferences", .arr preferences),
    (.other "tasks", .arr (sectionOf safe "tasks" payload.items)),
    (.other "statuses", .arr (sectionOf safe "statuses" payload.items)),
    (.other "items", .arr (payload.items.map fun card => .obj (contextItem safe card))),
    (.other "active_guardrails", .arr rules),
    (.other "metadata", .obj (metadata ++ [(.other "has_more", .bool payload.hasMore)])),
    (.other "has_more", .bool payload.hasMore),
    (.other "next_cursor", (payload.nextCursor.map fun cursor => Json.str (encodeCursor cursor)).getD .null)] :
      List (Key × Json)) ++
    (if request.asOf.isSome then [(.other "temporal_view", .str "as_of")] else []) ++
    (payload.errorCode.map fun code => (Key.other "error_code", Json.str code)).toList)

/-- `tool_result_bytes`: the payload stands in the result twice, once as a text. -/
def toolResultSize (payload : Json) (isError : Bool) : ℕ :=
  let frame := Json.obj [(.other "content", .arr [.obj [(.other "type", .str "text"), (.other "text", .str "")]]),
    (.other "structuredContent", .null), (.other "isError", .bool isError)]
  Json.size Json.compact frame - Json.size Json.compact .null + Json.size Json.compact payload +
    Json.size Json.nested payload

end Payload

end Neurons.Steward
