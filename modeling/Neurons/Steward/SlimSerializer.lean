import Neurons.JsonSize
import Neurons.Lib.Base64
import Neurons.Lib.Trim
import Neurons.Source.Platform

/-! # Slim contexts

`llm_brain_core/slim_serializer.py`: a context shows one page of the decisions together with the
preferences, the guardrails and the gaps of a project, in at most 3072 bytes. A payload over the limit
goes through six stages that take decisions, texts and lists away from it; only the first one rewrites
the cursor.
-/

namespace Neurons.Steward.SlimSerializer

open Neurons.Lib
open Neurons.Source

/-! ## Cards -/

/-- A card; its `typed_payload` is a mapping where it has one. -/
structure SlimCard where
  fields : Doc
  mapped : ∀ v, fields.value? .typedPayload = some v → ∃ entries, v = .obj entries

/-- `card.get("typed_payload") or {}` -/
def SlimCard.typed (card : SlimCard) : Doc := ((card.fields.value? .typedPayload).bind Doc.ofJson?).getD ∅

/-- `a or b or … or fallback` -/
def firstTruthy (values : List (Option Json)) (fallback : Json) : Json :=
  (values.findSome? (Option.filter Json.truthy)).getD fallback

structure SlimDecision where
  id : Json
  title : String
  decision : String
  rationale : String
  currentness : String
  contentHash : String
  deriving DecidableEq

def SlimDecision.json (d : SlimDecision) : Json :=
  .obj [(.other "id", d.id), (.field .title, .str d.title), (.field .decision, .str d.decision),
    (.field .rationale, .str d.rationale), (.field .currentness, .str d.currentness),
    (.field .contentHash, .str d.contentHash)]

def slimDecision (d : SlimCard) : SlimDecision where
  id := firstTruthy [d.fields.get? .memoryId, Dict.get? d.fields (.other "id")] (.str "")
  title := (firstTruthy [d.fields.get? .title] (.str "")).text
  decision :=
    (firstTruthy [d.typed.get? .decision, d.fields.get? .decision, d.fields.get? .summary] (.str "")).text
  rationale := (firstTruthy [d.typed.get? .rationale, d.fields.get? .rationale] (.str "")).text
  currentness := (firstTruthy [d.fields.get? .currentness] (.str "current")).text
  contentHash := (firstTruthy [d.fields.get? .contentHash] (.str "")).text

structure SlimPreference where
  title : String
  rule : String
  scope : String
  deriving DecidableEq

def SlimPreference.json (p : SlimPreference) : Json :=
  .obj [(.field .title, .str p.title), (.other "rule", .str p.rule), (.field .scope, .str p.scope)]

def slimPreference (p : SlimCard) : SlimPreference where
  title := (firstTruthy [p.fields.get? .title, p.typed.get? .title, p.fields.get? .summary] (.str "")).text
  rule :=
    (firstTruthy [Dict.get? p.typed (.other "rule"), p.typed.get? .preference, Dict.get? p.fields (.other "rule"),
      p.fields.get? .summary, p.fields.get? .title] (.str "")).text
  scope := (firstTruthy [p.typed.get? .scope, p.fields.get? .scope] (.str "general")).text

/-! ## Cursors -/

/-- `base64.b64encode(f"offset:{place}")` -/
def pageCursor (place : ℕ) : String :=
  String.ofList (Base64.encode (Utf8.encode ("offset:" ++ toString place).toList))

/-- `base64.b64decode(cursor).decode("utf-8")`; none where it raises -/
def decodeCursor (cursor : String) : Option String :=
  if cursor.toList.all (·.toNat < 128) then
    ((Base64.decode cursor.toList).bind Utf8.decode).map String.ofList
  else none

/-- `text.split(separator)[-1]` -/
def afterLast (separator : Char) (text : String) : String :=
  String.ofList (text.toList.reverse.takeWhile (· != separator)).reverse

/-- The place that a cursor names; the start where it names none. -/
def startIdx (py : Platform) : Option String → ℕ
  | none => 0
  | some cursor =>
      if cursor = "" then 0
      else
        let offset := (decodeCursor cursor).bind fun decoded =>
          if hasPrefix "offset:" decoded then py.int (afterLast ':' decoded) else py.int decoded
        (offset.getD 0).toNat

/-! ## Payloads -/

structure Payload where
  project : String
  decisions : List SlimDecision
  preferences : List SlimPreference
  activeGuardrails : List String
  gaps : List String
  hasMore : Bool
  nextCursor : Option String
  /-- none where the payload has no such key -/
  recentContext : Option String
  deriving DecidableEq

def Payload.json (p : Payload) : Json :=
  .obj (([(.field .schemaVersion, .str "lbrain_slim_context.v1"), (.field .project, .str p.project),
    (.other "decisions", .arr (p.decisions.map SlimDecision.json)),
    (.other "preferences", .arr (p.preferences.map SlimPreference.json)),
    (.other "active_guardrails", .arr (p.activeGuardrails.map .str)), (.other "gaps", .arr (p.gaps.map .str)),
    (.other "has_more", .bool p.hasMore), (.other "next_cursor", p.nextCursor.elim .null .str)] :
      List (Key × Json)) ++
    p.recentContext.toList.map fun text => (.other "recent_context", .str text))

/-- `_calc_bytes` -/
def Payload.calcBytes (p : Payload) : ℕ := p.json.size Json.spaced

/-- The hard limit, in bytes. -/
def limitBytes : ℕ := 3072

def Payload.exceeds (p : Payload) : Bool := limitBytes < p.calcBytes

/-- The arguments of `serialize_slim` but for the cursor. -/
structure SlimRequest where
  project : String
  decisions : List SlimCard
  preferences : List SlimCard
  guardrails : List String
  recentContext : Option String
  gaps : Option (List String)
  limit : Int

/-- `max(1, limit)` -/
def SlimRequest.pageSize (request : SlimRequest) : ℕ := (max 1 request.limit).toNat

def SlimRequest.resolvedContext (request : SlimRequest) : String :=
  request.recentContext.getD ("Session context for " ++ request.project)

/-- The payload of a page before it is trimmed. -/
def SlimRequest.page (request : SlimRequest) (start : ℕ) : Payload where
  project := request.project
  decisions := ((request.decisions.drop start).take request.pageSize).map slimDecision
  preferences := request.preferences.map slimPreference
  activeGuardrails := request.guardrails
  gaps := request.gaps.getD []
  hasMore := start + request.pageSize < request.decisions.length
  nextCursor :=
    if start + request.pageSize < request.decisions.length then some (pageCursor (start + request.pageSize)) else none
  recentContext := if request.resolvedContext = "" then none else some request.resolvedContext

/-! ## What every trim leaves -/

def SlimDecision.bare (d : SlimDecision) : SlimDecision := { d with title := "", decision := "", rationale := "" }

/-- The payload with all the texts and lists empty that a trim may empty before it takes the decisions away. -/
def Payload.bare (p : Payload) : Payload :=
  { p with
    decisions := p.decisions.map SlimDecision.bare, preferences := [], activeGuardrails := [], gaps := []
    recentContext := p.recentContext.map fun _ => "" }

/-- The payload with all lists and texts empty. -/
def Payload.emptied (p : Payload) : Payload := { p.bare with decisions := [] }

/-- A text of a payload that a stage may cut. -/
structure TextSlot where
  /-- the text, empty where there is none -/
  read : Payload → String
  write : String → Payload → Payload
  bare_write : ∀ text p, (write text p).bare = p.bare

/-- A text of the first decision. -/
def decisionSlot (read : SlimDecision → String) (write : String → SlimDecision → SlimDecision)
    (bare_write : ∀ text d, (write text d).bare = d.bare) : TextSlot where
  read p := (p.decisions.head?.map read).getD ""
  write text p := { p with decisions := p.decisions.modifyHead (write text) }
  bare_write text p := by
    cases shape : p.decisions with
    | nil => simp [Payload.bare, shape]
    | cons d rest => simp [Payload.bare, shape, bare_write]

def decisionRationale : TextSlot := decisionSlot (·.rationale) (fun text d => { d with rationale := text }) fun _ _ => rfl
def decisionText : TextSlot := decisionSlot (·.decision) (fun text d => { d with decision := text }) fun _ _ => rfl
def decisionTitle : TextSlot := decisionSlot (·.title) (fun text d => { d with title := text }) fun _ _ => rfl

/-- A text of the first preference. -/
def preferenceSlot (read : SlimPreference → String) (write : String → SlimPreference → SlimPreference) : TextSlot where
  read p := (p.preferences.head?.map read).getD ""
  write text p := { p with preferences := p.preferences.modifyHead (write text) }
  bare_write _ _ := rfl

def preferenceRule : TextSlot := preferenceSlot (·.rule) fun text p => { p with rule := text }
def preferenceTitle : TextSlot := preferenceSlot (·.title) fun text p => { p with title := text }

def firstGuardrail : TextSlot where
  read p := p.activeGuardrails.head?.getD ""
  write text p := { p with activeGuardrails := p.activeGuardrails.modifyHead fun _ => text }
  bare_write _ _ := rfl

def recentText : TextSlot where
  read p := p.recentContext.getD ""
  write text p := { p with recentContext := p.recentContext.map fun _ => text }
  bare_write text p := by
    simp [Payload.bare, Function.comp_def]

/-! ## The stages -/

/-- `text[:count]` -/
def front (count : ℕ) (text : String) : String := String.ofList (text.toList.take count)

/-- A text without its last characters, or what stands for it where it is no longer than those. -/
def shorten (excess : ℕ) (short : String → String) (text : String) : String :=
  if excess < text.length then front (text.length - excess) text ++ "..." else short text

/-- `text[:20] + "..."` -/
def clipped (text : String) : String := front 20 text ++ "..."

/-- Cut a text by what a payload is over the limit. -/
def cut (slot : TextSlot) (short : String → String) (p : Payload) : Payload :=
  slot.write (shorten (p.calcBytes - limitBytes + 10) short (slot.read p)) p

/-- The cut of a text that is not empty, while the payload is over the limit. -/
def cutText (slot : TextSlot) (short : String → String) (p : Payload) : Payload :=
  if slot.read p ≠ "" ∧ p.exceeds then cut slot short p else p

/-- Take the last of several decisions away, and name the place behind the rest. -/
def popDecision (start : ℕ) (p : Payload) : Option Payload :=
  if 1 < p.decisions.length then
    some { p with
      decisions := p.decisions.dropLast, hasMore := true
      nextCursor := some (pageCursor (start + p.decisions.dropLast.length)) }
  else none

theorem popDecision_shrinks (start : ℕ) : Shrinks (popDecision start) (·.decisions.length) := by
  intro p p' popped
  unfold popDecision at popped
  split at popped
  · cases popped
    simp only [List.length_dropLast]
    omega
  · cases popped

/-- Stage 1 -/
def popDecisions (start : ℕ) (p : Payload) : Payload := trimWhile Payload.exceeds (popDecision_shrinks start) p

/-- Stage 2 -/
def cutDecision (p : Payload) : Payload :=
  if p.exceeds ∧ p.decisions ≠ [] then
    cutText decisionTitle clipped (cutText decisionText clipped (cutText decisionRationale (fun _ => "") p))
  else p

def popPreference (p : Payload) : Option Payload :=
  if 1 < p.preferences.length then some { p with preferences := p.preferences.dropLast } else none

theorem popPreference_shrinks : Shrinks popPreference (·.preferences.length) := by
  intro p p' popped
  unfold popPreference at popped
  split at popped
  · cases popped
    simp only [List.length_dropLast]
    omega
  · cases popped

/-- The end of stage 3: the texts of the preference that is left. -/
def cutPreference (p : Payload) : Payload :=
  if p.exceeds ∧ p.preferences ≠ [] then
    let shorter := cutText preferenceTitle clipped (cutText preferenceRule clipped p)
    if shorter.exceeds then { shorter with preferences := shorter.preferences.dropLast } else shorter
  else p

/-- Stage 3 -/
def trimPreferences (p : Payload) : Payload :=
  if p.exceeds ∧ p.preferences ≠ [] then cutPreference (trimWhile Payload.exceeds popPreference_shrinks p) else p

def popGuardrail (p : Payload) : Option Payload :=
  if 1 < p.activeGuardrails.length then some { p with activeGuardrails := p.activeGuardrails.dropLast } else none

theorem popGuardrail_shrinks : Shrinks popGuardrail (·.activeGuardrails.length) := by
  intro p p' popped
  unfold popGuardrail at popped
  split at popped
  · cases popped
    simp only [List.length_dropLast]
    omega
  · cases popped

/-- The end of stage 4: the guardrail that is left, which is cut also where it is empty. -/
def cutGuardrail (p : Payload) : Payload :=
  if p.exceeds ∧ p.activeGuardrails ≠ [] then
    let shorter := cut firstGuardrail clipped p
    if shorter.exceeds then { shorter with activeGuardrails := shorter.activeGuardrails.dropLast } else shorter
  else p

/-- Stage 4 -/
def trimGuardrails (p : Payload) : Payload :=
  if p.exceeds ∧ p.activeGuardrails ≠ [] then cutGuardrail (trimWhile Payload.exceeds popGuardrail_shrinks p) else p

/-- Stage 5 -/
def cutRecentContext (p : Payload) : Payload := cutText recentText (fun _ => "") p

/-- Take up to twenty characters off the end of a text. -/
def nibble (slot : TextSlot) (p : Payload) : Payload := slot.write (front ((slot.read p).length - 20) (slot.read p)) p

/-- A round of stage 6. -/
def lastResort (p : Payload) : Option Payload :=
  if recentText.read p ≠ "" then some (nibble recentText p)
  else if p.activeGuardrails ≠ [] then some { p with activeGuardrails := [] }
  else if p.preferences ≠ [] then some { p with preferences := [] }
  else if p.gaps ≠ [] then some { p with gaps := [] }
  else if p.decisions ≠ [] then
    if decisionRationale.read p ≠ "" then some (nibble decisionRationale p)
    else if decisionText.read p ≠ "" then some (nibble decisionText p)
    else if decisionTitle.read p ≠ "" then some (nibble decisionTitle p)
    else some { p with decisions := [] }
  else none

/-- What the rounds of stage 6 use up. -/
def Payload.weight (p : Payload) : ℕ :=
  (recentText.read p).length + p.activeGuardrails.length + p.preferences.length + p.gaps.length + p.decisions.length +
    ((decisionRationale.read p).length + (decisionText.read p).length + (decisionTitle.read p).length)

theorem length_front (count : ℕ) (text : String) : (front count text).length = min count text.length := by
  rw [front, String.length_ofList, List.length_take, String.length_toList]

theorem length_nibbled {text : String} (filled : text ≠ "") : (front (text.length - 20) text).length < text.length := by
  have long : text.length ≠ 0 := fun blank => filled (String.length_eq_zero_iff.mp blank)
  rw [length_front]
  omega

theorem Payload.weight_eq (p : Payload) :
    p.weight = (p.recentContext.getD "").length + p.activeGuardrails.length + p.preferences.length + p.gaps.length +
      p.decisions.length + (((p.decisions.head?.map (·.rationale)).getD "").length +
        ((p.decisions.head?.map (·.decision)).getD "").length + ((p.decisions.head?.map (·.title)).getD "").length) := rfl

/-- The texts that stage 6 nibbles at. -/
def nibbled : List TextSlot := [recentText, decisionRationale, decisionText, decisionTitle]

theorem nibble_weight {slot : TextSlot} (listed : slot ∈ nibbled) {p : Payload} (filled : slot.read p ≠ "") :
    (nibble slot p).weight < p.weight := by
  have shorter := length_nibbled filled
  simp only [nibbled, List.mem_cons, List.not_mem_nil, or_false] at listed
  rcases listed with rfl | rfl | rfl | rfl
  · cases context : p.recentContext with
    | none => simp [recentText, context] at filled
    | some text =>
        simp only [recentText, context, Option.getD_some] at shorter
        simp only [Payload.weight, nibble, recentText, context, decisionRationale, decisionText, decisionTitle,
          decisionSlot, Option.map_some, Option.getD_some]
        omega
  all_goals
    cases shape : p.decisions with
    | nil => simp [decisionRationale, decisionText, decisionTitle, decisionSlot, shape] at filled
    | cons d rest =>
        simp only [decisionRationale, decisionText, decisionTitle, decisionSlot, shape, List.head?_cons,
          Option.map_some, Option.getD_some] at shorter
        simp only [Payload.weight, nibble, recentText, decisionRationale, decisionText, decisionTitle, decisionSlot,
          shape, List.modifyHead_cons, List.head?_cons, Option.map_some, Option.getD_some, List.length_cons]
        omega

/-- No text or list but the decisions is left to take from. -/
structure Payload.Spent (p : Payload) : Prop where
  texts : ∀ slot ∈ nibbled, slot.read p = ""
  guardrails : p.activeGuardrails = []
  preferences : p.preferences = []
  gaps : p.gaps = []

/-- A round of stage 6 takes something that a trim may empty, or the decisions when nothing else is left. -/
theorem lastResort_some {p p' : Payload} (taken : lastResort p = some p') :
    (p'.bare = p.bare ∧ p'.weight < p.weight) ∨ (p.Spent ∧ p.decisions ≠ [] ∧ p' = { p with decisions := [] }) := by
  have nibbles (slot : TextSlot) (listed : slot ∈ nibbled) (filled : slot.read p ≠ "") :
      (nibble slot p).bare = p.bare ∧ (nibble slot p).weight < p.weight :=
    ⟨slot.bare_write _ p, nibble_weight listed filled⟩
  unfold lastResort at taken
  split at taken
  · next filled =>
      cases taken
      exact .inl (nibbles _ (by simp [nibbled]) filled)
  · next noRecent =>
    split at taken
    · next filled =>
        cases taken
        have long := List.length_pos_iff.mpr filled
        left
        refine ⟨rfl, ?_⟩
        simp only [Payload.weight_eq, List.length_nil]
        omega
    · next noGuardrails =>
      split at taken
      · next filled =>
          cases taken
          have long := List.length_pos_iff.mpr filled
          left
          refine ⟨rfl, ?_⟩
          simp only [Payload.weight_eq, List.length_nil]
          omega
      · next noPreferences =>
        split at taken
        · next filled =>
            cases taken
            have long := List.length_pos_iff.mpr filled
            left
            refine ⟨rfl, ?_⟩
            simp only [Payload.weight_eq, List.length_nil]
            omega
        · next noGaps =>
          split at taken
          · next filled =>
            split at taken
            · next rationale =>
                cases taken
                exact .inl (nibbles _ (by simp [nibbled]) rationale)
            · next noRationale =>
              split at taken
              · next text =>
                  cases taken
                  exact .inl (nibbles _ (by simp [nibbled]) text)
              · next noText =>
                split at taken
                · next title =>
                    cases taken
                    exact .inl (nibbles _ (by simp [nibbled]) title)
                · next noTitle =>
                    cases taken
                    right
                    refine ⟨⟨?_, by simpa using noGuardrails, by simpa using noPreferences, by simpa using noGaps⟩,
                      filled, rfl⟩
                    simp only [nibbled, List.forall_mem_cons]
                    exact ⟨by simpa using noRecent, by simpa using noRationale, by simpa using noText,
                      by simpa using noTitle, nofun⟩
          · cases taken

theorem lastResort_shrinks : Shrinks lastResort Payload.weight := by
  intro p p' taken
  rcases lastResort_some taken with ⟨-, lighter⟩ | ⟨spent, filled, rfl⟩
  · exact lighter
  · have long := List.length_pos_iff.mpr filled
    simp only [Payload.weight_eq, List.head?_nil, Option.map_none, Option.getD_none, List.length_nil, String.length_empty]
    omega

/-- Stage 6 -/
def lastRounds (p : Payload) : Payload := trimWhile Payload.exceeds lastResort_shrinks p

/-- The stages after the first. -/
def finish (p : Payload) : Payload := lastRounds (cutRecentContext (trimGuardrails (trimPreferences (cutDecision p))))

/-- `serialize_slim` -/
def serializeSlim (py : Platform) (request : SlimRequest) (cursor : Option String) : Payload :=
  let start := startIdx py cursor
  let payload := request.page start
  if payload.exceeds then finish (popDecisions start payload) else payload

/-! ## Sizes -/

/-- Everything of one payload takes no more bytes than in another. -/
structure Payload.Within (p q : Payload) : Prop where
  project : p.project = q.project
  decisions : List.SublistForall₂ (fun d e => d.json.size Json.spaced ≤ e.json.size Json.spaced) p.decisions q.decisions
  preferences : p.preferences.Sublist q.preferences
  guardrails : p.activeGuardrails.Sublist q.activeGuardrails
  gaps : p.gaps.Sublist q.gaps
  place : (Json.bool p.hasMore).size Json.spaced + (p.nextCursor.elim Json.null .str).size Json.spaced ≤
    (Json.bool q.hasMore).size Json.spaced + (q.nextCursor.elim Json.null .str).size Json.spaced
  recentContext : Option.Rel (fun s t => Json.textSize Json.spaced s ≤ Json.textSize Json.spaced t)
    p.recentContext q.recentContext

instance : Std.Refl (fun a b : Json => a.size Json.spaced ≤ b.size Json.spaced) := ⟨fun _ => le_rfl⟩

theorem arr_size_le {α : Type} {json : α → Json} {l l' : List α}
    (related : List.SublistForall₂ (fun a b => (json a).size Json.spaced ≤ (json b).size Json.spaced) l l') :
    (Json.arr (l.map json)).size Json.spaced ≤ (Json.arr (l'.map json)).size Json.spaced := by
  simp only [Json.size]
  apply Nat.add_le_add_left
  apply Json.itemsSize_le
  simpa using related

theorem sublist_size_le {α : Type} (json : α → Json) {l l' : List α} (shorter : l.Sublist l') :
    (Json.arr (l.map json)).size Json.spaced ≤ (Json.arr (l'.map json)).size Json.spaced := by
  simp only [Json.size]
  apply Nat.add_le_add_left
  apply Json.itemsSize_le
  exact (shorter.map json).sublistForall₂

theorem Payload.Within.calcBytes_le {p q : Payload} (within : p.Within q) : p.calcBytes ≤ q.calcBytes := by
  have decisions := arr_size_le within.decisions
  have preferences := sublist_size_le SlimPreference.json within.preferences
  have guardrails := sublist_size_le Json.str within.guardrails
  have gaps := sublist_size_le Json.str within.gaps
  have place := within.place
  have recent := within.recentContext
  unfold Payload.calcBytes Payload.json
  rw [within.project]
  generalize p.recentContext = context, q.recentContext = context' at recent ⊢
  simp only [Json.size] at decisions preferences guardrails gaps place ⊢
  cases recent with
  | none =>
      simp only [Option.toList_none, List.map_nil, List.append_nil, Json.size, Json.fieldsSize, List.isEmpty_cons]
      omega
  | some smaller =>
      simp only [Option.toList_some, List.map_cons, List.map_nil, List.cons_append, List.nil_append, Json.size,
        Json.fieldsSize, List.isEmpty_cons]
      omega

theorem SlimDecision.bare_size_le (d : SlimDecision) : d.bare.json.size Json.spaced ≤ d.json.size Json.spaced := by
  have quotes (text : String) := Json.quotes_le_textSize (w := Json.spaced) text
  simp only [SlimDecision.json, Json.size]
  apply Nat.add_le_add_left
  apply Json.fieldsSize_le
  simp [SlimDecision.bare, Json.size, quotes]

theorem bare_sublistForall₂ (decisions : List SlimDecision) :
    List.SublistForall₂ (fun d e => d.json.size Json.spaced ≤ e.json.size Json.spaced)
      (decisions.map SlimDecision.bare) decisions := by
  induction decisions with
  | nil => exact .nil
  | cons d rest ih => exact .cons d.bare_size_le ih

theorem sublistForall₂_of_sublist {decisions decisions' : List SlimDecision} (shorter : decisions.Sublist decisions') :
    List.SublistForall₂ (fun d e => d.json.size Json.spaced ≤ e.json.size Json.spaced) decisions decisions' := by
  induction shorter with
  | slnil => exact .nil
  | cons d _ ih => exact .cons_right ih
  | cons_cons d _ ih => exact .cons le_rfl ih

theorem recent_rel_refl (context : Option String) :
    Option.Rel (fun s t => Json.textSize Json.spaced s ≤ Json.textSize Json.spaced t) context context := by
  cases context with
  | none => exact .none
  | some text => exact .some le_rfl

theorem Payload.bare_within (p : Payload) : p.bare.Within p where
  project := rfl
  decisions := bare_sublistForall₂ p.decisions
  preferences := List.nil_sublist _
  guardrails := List.nil_sublist _
  gaps := List.nil_sublist _
  place := le_rfl
  recentContext := by
    cases shape : p.recentContext with
    | none => simp [Payload.bare, shape]
    | some text => simpa [Payload.bare, shape] using Option.Rel.some (Json.quotes_le_textSize text)

theorem Payload.emptied_within (p : Payload) : p.emptied.Within p.bare where
  project := rfl
  decisions := .nil
  preferences := List.nil_sublist _
  guardrails := List.nil_sublist _
  gaps := List.nil_sublist _
  place := le_rfl
  recentContext := recent_rel_refl _

theorem Payload.exceeds_of_within {p q : Payload} (within : p.Within q) (big : p.exceeds) : q.exceeds := by
  have smaller := within.calcBytes_le
  simp only [Payload.exceeds, decide_eq_true_eq] at *
  omega

/-! ## What the stages leave alone -/

@[simp]
theorem cutText_bare (slot : TextSlot) (short : String → String) (p : Payload) : (cutText slot short p).bare = p.bare := by
  unfold cutText
  split
  · exact slot.bare_write _ p
  · rfl

theorem cutDecision_bare (p : Payload) : (cutDecision p).bare = p.bare := by
  unfold cutDecision
  split <;> simp

theorem popPreference_bare (p p' : Payload) (popped : popPreference p = some p') : p'.bare = p.bare := by
  unfold popPreference at popped
  split at popped
  · cases popped
    rfl
  · cases popped

theorem cutPreference_bare (p : Payload) : (cutPreference p).bare = p.bare := by
  unfold cutPreference
  split
  · have shorter : (cutText preferenceTitle clipped (cutText preferenceRule clipped p)).bare = p.bare := by simp
    dsimp only
    split
    · exact shorter
    · exact shorter
  · rfl

theorem trimPreferences_bare (p : Payload) : (trimPreferences p).bare = p.bare := by
  unfold trimPreferences
  split
  · rw [cutPreference_bare]
    apply trimWhile_keeps popPreference_shrinks (p := fun q => q.bare = p.bare)
    · intro q q' popped same
      rw [popPreference_bare q q' popped, same]
    · rfl
  · rfl

theorem popGuardrail_bare (p p' : Payload) (popped : popGuardrail p = some p') : p'.bare = p.bare := by
  unfold popGuardrail at popped
  split at popped
  · cases popped
    rfl
  · cases popped

theorem cutGuardrail_bare (p : Payload) : (cutGuardrail p).bare = p.bare := by
  unfold cutGuardrail
  split
  · dsimp only
    split <;> rfl
  · rfl

theorem trimGuardrails_bare (p : Payload) : (trimGuardrails p).bare = p.bare := by
  unfold trimGuardrails
  split
  · rw [cutGuardrail_bare]
    apply trimWhile_keeps popGuardrail_shrinks (p := fun q => q.bare = p.bare)
    · intro q q' popped same
      rw [popGuardrail_bare q q' popped, same]
    · rfl
  · rfl

/-! ## The end of the stages -/

theorem Payload.Spent.eq_bare {p : Payload} (spent : p.Spent) (one : p.decisions.length ≤ 1) : p = p.bare := by
  obtain ⟨project, decisions, preferences, guardrails, gaps, hasMore, cursor, context⟩ := p
  obtain ⟨texts, rfl, rfl, rfl⟩ := spent
  simp only [nibbled, List.forall_mem_cons] at texts
  obtain ⟨recent, rationale, text, title, -⟩ := texts
  have contexts : context = context.map fun _ => "" := by
    cases context with
    | none => rfl
    | some blank =>
        rw [Option.map_some]
        exact congrArg some recent
  have bared : decisions = decisions.map SlimDecision.bare := by
    match decisions, one with
    | [], _ => rfl
    | [d], _ =>
        obtain ⟨id, dTitle, dText, dRationale, currentness, contentHash⟩ := d
        obtain rfl : dTitle = "" := title
        obtain rfl : dText = "" := text
        obtain rfl : dRationale = "" := rationale
        rfl
  rw [Payload.bare, ← bared, ← contexts]

theorem lastResort_none {p : Payload} (stuck : lastResort p = none) : p.Spent ∧ p.decisions = [] := by
  unfold lastResort at stuck
  split at stuck
  · cases stuck
  · next noRecent =>
    split at stuck
    · cases stuck
    · next noGuardrails =>
      split at stuck
      · cases stuck
      · next noPreferences =>
        split at stuck
        · cases stuck
        · next noGaps =>
          split at stuck
          · split at stuck
            · cases stuck
            · split at stuck
              · cases stuck
              · split at stuck <;> cases stuck
          · next noDecisions =>
              have gone : p.decisions = [] := by simpa using noDecisions
              refine ⟨⟨?_, by simpa using noGuardrails, by simpa using noPreferences, by simpa using noGaps⟩, gone⟩
              simp only [nibbled, List.forall_mem_cons]
              refine ⟨by simpa using noRecent, ?_, ?_, ?_, nofun⟩ <;>
                simp [decisionRationale, decisionText, decisionTitle, decisionSlot, gone]

theorem lastResort_emptied (p : Payload) : lastResort p.emptied = none := by
  have blank : recentText.read p.emptied = "" := by
    cases shape : p.recentContext <;> simp [recentText, Payload.emptied, Payload.bare, shape]
  rw [lastResort, if_neg (by simp [blank])]
  simp [Payload.emptied, Payload.bare]

/-- The last rounds take the decisions away only where the payload is over the limit without everything else. -/
theorem lastRounds_eq {p : Payload} (one : p.decisions.length ≤ 1) :
    (p.bare.exceeds = false → (lastRounds p).exceeds = false ∧ (lastRounds p).bare = p.bare) ∧
      (p.bare.exceeds = true → lastRounds p = p.emptied) := by
  unfold lastRounds
  fun_induction trimWhile Payload.exceeds lastResort_shrinks p with
  | case1 p big stuck =>
      obtain ⟨spent, gone⟩ := lastResort_none stuck
      have bared := spent.eq_bare one
      constructor
      · intro fits
        rw [← bared, big] at fits
        cases fits
      · intro _
        rw [Payload.emptied, ← bared, ← gone]
  | case2 p big p' taken ih =>
      rcases lastResort_some taken with ⟨same, -⟩ | ⟨spent, filled, rfl⟩
      · have one' : p'.decisions.length ≤ 1 := by
          have lengths := congrArg (fun q : Payload => q.decisions.length) same
          simp only [Payload.bare, List.length_map] at lengths
          omega
        have rest := ih one'
        rw [same] at rest
        refine ⟨rest.1, fun beyond => ?_⟩
        rw [rest.2 beyond, Payload.emptied, Payload.emptied, same]
      · have bared := spent.eq_bare one
        have ended : ({ p with decisions := [] } : Payload) = p.emptied := by
          rw [Payload.emptied, ← bared]
        constructor
        · intro fits
          rw [← bared, big] at fits
          cases fits
        · intro _
          rw [ended, trimWhile_of_stuck lastResort_shrinks (lastResort_emptied p)]
  | case3 p fits =>
      have fits' : p.exceeds = false := by simpa using fits
      constructor
      · intro _
        exact ⟨fits', rfl⟩
      · intro beyond
        rw [Payload.exceeds_of_within p.bare_within beyond] at fits'
        cases fits'

theorem finish_of_fits {p : Payload} (fits : p.exceeds = false) : finish p = p := by
  have decision : cutDecision p = p := if_neg (by simp [fits])
  have preferences : trimPreferences p = p := if_neg (by simp [fits])
  have guardrails : trimGuardrails p = p := if_neg (by simp [fits])
  have context : cutRecentContext p = p := if_neg (by simp [fits])
  rw [finish, decision, preferences, guardrails, context, lastRounds, trimWhile_of_fits lastResort_shrinks fits]

theorem finish_eq {p : Payload} (one : p.decisions.length ≤ 1) :
    (p.bare.exceeds = false → (finish p).exceeds = false ∧ (finish p).bare = p.bare) ∧
      (p.bare.exceeds = true → finish p = p.emptied) := by
  unfold finish
  have same : (cutRecentContext (trimGuardrails (trimPreferences (cutDecision p)))).bare = p.bare := by
    rw [cutRecentContext, cutText_bare, trimGuardrails_bare, trimPreferences_bare, cutDecision_bare]
  generalize cutRecentContext (trimGuardrails (trimPreferences (cutDecision p))) = q at same ⊢
  have lengths := congrArg (fun q : Payload => q.decisions.length) same
  simp only [Payload.bare, List.length_map] at lengths
  have ended := lastRounds_eq (p := q) (by omega)
  rw [same] at ended
  refine ⟨ended.1, fun beyond => ?_⟩
  rw [ended.2 beyond, Payload.emptied, Payload.emptied, same]

/-! ## What a page becomes -/

/-- The payload with the first decisions only, and the place behind them. -/
def Payload.truncated (start : ℕ) (p : Payload) (count : ℕ) : Payload :=
  { p with decisions := p.decisions.take count, hasMore := true, nextCursor := some (pageCursor (start + count)) }

/-- The payload that stage 1 does not shorten any more. -/
def Payload.lowest (start : ℕ) (p : Payload) : Payload :=
  if 1 < p.decisions.length then p.truncated start 1 else p

theorem popDecision_of_long (start : ℕ) {p : Payload} (long : 1 < p.decisions.length) :
    popDecision start p = some (p.truncated start (p.decisions.length - 1)) := by
  rw [popDecision, if_pos long, Payload.truncated, List.dropLast_eq_take, List.length_take,
    Nat.min_eq_left (Nat.sub_le _ _)]

theorem popDecision_truncated {start count : ℕ} {p : Payload} (some : 1 < count) (short : count ≤ p.decisions.length) :
    popDecision start (p.truncated start count) = Option.some (p.truncated start (count - 1)) := by
  have long : (p.truncated start count).decisions.length = count := by
    rw [Payload.truncated, List.length_take, Nat.min_eq_left short]
  rw [popDecision_of_long start (by omega), long]
  simp only [Payload.truncated, List.take_take, Nat.min_eq_left (Nat.sub_le count 1)]

/-- Stage 1 keeps decisions from the front, and stops at the first that fit or at the last one. -/
theorem popDecisions_cases (start : ℕ) {p : Payload} (big : p.exceeds = true) :
    popDecisions start p = p.lowest start ∧ p.decisions.length ≤ 1 ∨
      ∃ count, 1 ≤ count ∧ count < p.decisions.length ∧ popDecisions start p = p.truncated start count ∧
        (count = 1 ∨ (p.truncated start count).exceeds = false) := by
  by_cases long : 1 < p.decisions.length
  · right
    have first := popDecision_of_long start long
    have kept : ∃ count, 1 ≤ count ∧ count < p.decisions.length ∧ popDecisions start p = p.truncated start count := by
      rw [popDecisions, trimWhile_step (popDecision_shrinks start) big first]
      apply trimWhile_keeps (popDecision_shrinks start)
        (p := fun q => ∃ count, 1 ≤ count ∧ count < p.decisions.length ∧ q = p.truncated start count)
      · rintro q q' popped ⟨count, some, short, rfl⟩
        by_cases more : 1 < count
        · rw [popDecision_truncated more short.le] at popped
          cases popped
          exact ⟨count - 1, by omega, by omega, rfl⟩
        · have single : (p.truncated start count).decisions.length ≤ 1 := by
            rw [Payload.truncated, List.length_take]
            omega
          rw [popDecision, if_neg (by omega)] at popped
          cases popped
      · exact ⟨p.decisions.length - 1, by omega, by omega, rfl⟩
    obtain ⟨count, some, short, stopped⟩ := kept
    refine ⟨count, some, short, stopped, ?_⟩
    have ended : (popDecisions start p).exceeds = false ∨ popDecision start (popDecisions start p) = none :=
      trimWhile_stops (popDecision_shrinks start) p
    rw [stopped] at ended
    rcases ended with fits | stuck
    · exact .inr fits
    · left
      by_contra several
      rw [popDecision_truncated (by omega) short.le] at stuck
      cases stuck
  · left
    have stuck : popDecision start p = none := if_neg long
    refine ⟨?_, by omega⟩
    rw [popDecisions, trimWhile_of_stuck (popDecision_shrinks start) stuck, Payload.lowest, if_neg long]

/-- What the stages make of a page. -/
inductive Outcome (start : ℕ) (p : Payload) : Payload → Prop
  | whole (fits : p.exceeds = false) : Outcome start p p
  | several (count : ℕ) (big : p.exceeds = true) (more : 1 < count) (short : count < p.decisions.length)
      (fits : (p.truncated start count).exceeds = false) : Outcome start p (p.truncated start count)
  | one {r : Payload} (big : p.exceeds = true) (fits : r.exceeds = false) (kept : r.bare = (p.lowest start).bare) :
      Outcome start p r
  | none (big : p.exceeds = true) (beyond : (p.lowest start).bare.exceeds = true) :
      Outcome start p (p.lowest start).emptied

theorem Payload.lowest_length (start : ℕ) (p : Payload) : (p.lowest start).decisions.length ≤ 1 := by
  unfold Payload.lowest
  split
  · rw [Payload.truncated, List.length_take]
    omega
  · omega

theorem finish_lowest {start : ℕ} {p : Payload} (big : p.exceeds = true) : Outcome start p (finish (p.lowest start)) := by
  have ended := finish_eq (p.lowest_length start)
  cases beyond : (p.lowest start).bare.exceeds with
  | false =>
      obtain ⟨fits, kept⟩ := ended.1 beyond
      exact .one big fits kept
  | true =>
      rw [ended.2 beyond]
      exact .none big beyond

theorem serializeSlim_outcome (py : Platform) (request : SlimRequest) (cursor : Option String) :
    Outcome (startIdx py cursor) (request.page (startIdx py cursor)) (serializeSlim py request cursor) := by
  unfold serializeSlim
  generalize startIdx py cursor = start
  dsimp only
  split
  · next big =>
      rcases popDecisions_cases start big with ⟨popped, -⟩ | ⟨count, some, short, popped, ended⟩
      · rw [popped]
        exact finish_lowest big
      · rw [popped]
        by_cases single : count = 1
        · have last : (request.page start).truncated start count = (request.page start).lowest start := by
            rw [Payload.lowest, if_pos (by omega), single]
          rw [last]
          exact finish_lowest big
        · have fits := ended.resolve_left single
          rw [finish_of_fits fits]
          exact .several count big (by omega) short fits
  · next fits => exact .whole (by simpa using fits)

end Neurons.Steward.SlimSerializer
