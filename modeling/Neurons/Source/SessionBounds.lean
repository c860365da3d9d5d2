import Mathlib.Data.List.DropRight
import Mathlib.Data.List.TakeWhile
import Neurons.Lib.Extremum
import Neurons.Source.ReferencePlatform
import Neurons.Source.Validation
import Neurons.Source.WriteEffects

/-! # The time bounds of a session

A start is the least of the observed texts and an end the greatest, where a text that is an ISO
time goes before any that is none, and times go by their instants. So envelopes of one session
come to the same bounds in whatever order they are merged, as long as every instant has a year
that Python's `datetime` can hold in UTC.
-/

namespace Neurons.Source

open Neurons.Lib

/-! ## Stripped texts -/

theorem dropWhile_prefix_of_dropWhile {α : Type} {p : α → Bool} {l l' : List α} (pre : l' <+: l.dropWhile p) :
    l'.dropWhile p = l' := by
  rw [List.dropWhile_eq_self_iff]
  intro nonempty
  obtain ⟨rest, shape⟩ := pre
  have first : (l.dropWhile p).head? = some (l'[0]) := by
    rw [← shape, List.head?_append, List.head?_eq_getElem?, List.getElem?_eq_getElem nonempty]
    rfl
  have fails := List.head?_dropWhile_not p l
  rw [first] at fails
  simpa using fails

theorem strip_strip (text : String) : strip (strip text) = strip text := by
  simp only [strip, String.toList_ofList]
  have left : ((text.toList.dropWhile isSpace).rdropWhile isSpace).dropWhile isSpace =
      (text.toList.dropWhile isSpace).rdropWhile isSpace :=
    dropWhile_prefix_of_dropWhile (List.rdropWhile_prefix _ _)
  have right : ((text.toList.dropWhile isSpace).rdropWhile isSpace).rdropWhile isSpace =
      (text.toList.dropWhile isSpace).rdropWhile isSpace := List.rdropWhile_idempotent _ _
  change String.ofList ((((text.toList.dropWhile isSpace).rdropWhile isSpace).dropWhile isSpace).rdropWhile isSpace) = _
  rw [left, right]
  rfl

/-! ## Bounds as least texts -/

/-- Ends are compared the other way round. -/
def BoundKey : Bool → Type
  | false => ℕ ×ₗ ℤ ×ₗ String
  | true => (ℕ ×ₗ ℤ ×ₗ String)ᵒᵈ

instance : (latest : Bool) → LinearOrder (BoundKey latest)
  | false => inferInstanceAs (LinearOrder (ℕ ×ₗ ℤ ×ₗ String))
  | true => inferInstanceAs (LinearOrder (ℕ ×ₗ ℤ ×ₗ String)ᵒᵈ)

/-- How a text ranks as a bound: as a time, or as a text only. -/
def boundKey (py : Platform) : (latest : Bool) → String → BoundKey latest
  | false, text =>
      match parseObserved py text with
      | some instant => (toLex (0, toLex (instant, text)) : ℕ ×ₗ ℤ ×ₗ String)
      | none => (toLex (1, toLex (0, text)) : ℕ ×ₗ ℤ ×ₗ String)
  | true, text =>
      match parseObserved py text with
      | some instant => OrderDual.toDual (toLex (1, toLex (instant, text)) : ℕ ×ₗ ℤ ×ₗ String)
      | none => OrderDual.toDual (toLex (0, toLex (0, text)) : ℕ ×ₗ ℤ ×ₗ String)

section Bounds

variable {py : Platform} {latest : Bool}

theorem boundKey_injective : Function.Injective (boundKey py latest) := by
  have second {a b : ℕ} {i j : ℤ} {t u : String}
      (same : (toLex (a, toLex (i, t)) : ℕ ×ₗ ℤ ×ₗ String) = toLex (b, toLex (j, u))) : t = u := by
    simpa using congrArg (fun k => (ofLex (ofLex k).2).2) same
  intro t u same
  cases latest with
  | false =>
      simp only [boundKey] at same
      split at same <;> split at same <;> exact second same
  | true =>
      simp only [boundKey] at same
      split at same <;> split at same <;> exact second (congrArg OrderDual.ofDual same)

theorem mem_boundTexts {values : List String} {text : String} :
    text ∈ boundTexts values ↔ (∃ value ∈ values, strip value = text) ∧ text ≠ "" := by
  simp [boundTexts]

theorem mem_boundTimes {texts : List String} {i : ℤ} {t : String} :
    toLex (i, t) ∈ boundTimes py texts ↔ t ∈ texts ∧ parseObserved py t = some i := by
  simp only [boundTimes, List.mem_filterMap, Option.map_eq_some_iff, EmbeddingLike.apply_eq_iff_eq, Prod.mk.injEq]
  constructor
  · rintro ⟨u, mem, j, parsed, rfl, rfl⟩
    exact ⟨mem, parsed⟩
  · rintro ⟨mem, parsed⟩
    exact ⟨t, mem, i, parsed, rfl, rfl⟩

/-- A time ranks before a text that is none. -/
theorem boundKey_le_of_time {t u : String} {i : ℤ} (time : parseObserved py t = some i)
    (textOnly : parseObserved py u = none) : boundKey py latest t ≤ boundKey py latest u := by
  cases latest with
  | false =>
      simp only [boundKey, time, textOnly]
      exact Prod.Lex.left _ _ (by decide)
  | true =>
      simp only [boundKey, time, textOnly]
      change (toLex (0, _) : ℕ ×ₗ ℤ ×ₗ String) ≤ toLex (1, _)
      exact Prod.Lex.left _ _ (by decide)

/-- Times rank by their instants, then by their texts. -/
theorem boundKey_le_of_times {t u : String} {i j : ℤ} (time : parseObserved py t = some i)
    (time' : parseObserved py u = some j) : boundKey py latest t ≤ boundKey py latest u ↔
      if latest then (toLex (j, u) : ℤ ×ₗ String) ≤ toLex (i, t) else (toLex (i, t) : ℤ ×ₗ String) ≤ toLex (j, u) := by
  cases latest with
  | false =>
      simp only [boundKey, time, time']
      change (toLex (0, _) : ℕ ×ₗ ℤ ×ₗ String) ≤ toLex (0, _) ↔ _
      simp [Prod.Lex.toLex_le_toLex]
  | true =>
      simp only [boundKey, time, time']
      change (toLex (1, _) : ℕ ×ₗ ℤ ×ₗ String) ≤ toLex (1, _) ↔ _
      simp [Prod.Lex.toLex_le_toLex]

/-- Other texts rank by themselves. -/
theorem boundKey_le_of_texts {t u : String} (textOnly : parseObserved py t = none)
    (textOnly' : parseObserved py u = none) : boundKey py latest t ≤ boundKey py latest u ↔
      if latest then u ≤ t else t ≤ u := by
  cases latest with
  | false =>
      simp only [boundKey, textOnly, textOnly']
      change (toLex (1, _) : ℕ ×ₗ ℤ ×ₗ String) ≤ toLex (1, _) ↔ _
      simp [Prod.Lex.toLex_le_toLex]
  | true =>
      simp only [boundKey, textOnly, textOnly']
      change (toLex (0, _) : ℕ ×ₗ ℤ ×ₗ String) ≤ toLex (0, _) ↔ _
      simp [Prod.Lex.toLex_le_toLex]

/-- The text with the bound of the times, and the bound of the texts where there is no time. -/
theorem boundOf_eq (values : List String) :
    boundOf py values latest =
      ((if latest then (boundTimes py (boundTexts values)).max?
        else (boundTimes py (boundTexts values)).min?).map fun selected => (ofLex selected).2).getD
          ((if latest then (boundTexts values).max? else (boundTexts values).min?).getD "") := by
  unfold boundOf
  dsimp only
  cases if latest then (boundTimes py (boundTexts values)).max? else (boundTimes py (boundTexts values)).min? <;> rfl

theorem boundOf_eq_argmin (values : List String) :
    boundOf py values latest = ((boundTexts values).argmin (boundKey py latest)).getD "" := by
  rw [boundOf_eq]
  generalize boundTexts values = texts
  cases found : if latest then (boundTimes py texts).max? else (boundTimes py texts).min? with
  | some selected =>
      -- the bound among the times is the bound of all
      obtain ⟨i, t⟩ := selected
      have extreme : toLex (i, t) ∈ boundTimes py texts ∧ ∀ p ∈ boundTimes py texts,
          if latest then p ≤ toLex (i, t) else toLex (i, t) ≤ p := by
        cases latest with
        | false => exact List.min?_eq_some_iff.mp found
        | true => exact List.max?_eq_some_iff.mp found
      obtain ⟨listed, time⟩ := mem_boundTimes.mp extreme.1
      have least : texts.argmin (boundKey py latest) = some t := by
        refine (argmin_eq_some_iff boundKey_injective).mpr ⟨listed, fun u mem => ?_⟩
        cases time' : parseObserved py u with
        | none => exact boundKey_le_of_time time time'
        | some j => exact (boundKey_le_of_times time time').mpr (extreme.2 _ (mem_boundTimes.mpr ⟨mem, time'⟩))
      rw [least]
      rfl
  | none =>
      have empty : boundTimes py texts = [] := by
        cases latest with
        | false => exact List.min?_eq_none_iff.mp found
        | true => exact List.max?_eq_none_iff.mp found
      have textsOnly : ∀ t ∈ texts, parseObserved py t = none := by
        intro t mem
        cases time : parseObserved py t with
        | none => rfl
        | some i =>
            have listed := mem_boundTimes.mpr ⟨mem, time⟩
            rw [empty] at listed
            cases listed
      cases chosen : if latest then texts.max? else texts.min? with
      | none =>
          have none : texts = [] := by
            cases latest with
            | false => exact List.min?_eq_none_iff.mp chosen
            | true => exact List.max?_eq_none_iff.mp chosen
          rw [none]
          rfl
      | some t =>
          have extreme : t ∈ texts ∧ ∀ u ∈ texts, if latest then u ≤ t else t ≤ u := by
            cases latest with
            | false => exact List.min?_eq_some_iff.mp chosen
            | true => exact List.max?_eq_some_iff.mp chosen
          have least : texts.argmin (boundKey py latest) = some t :=
            (argmin_eq_some_iff boundKey_injective).mpr ⟨extreme.1, fun u mem =>
              (boundKey_le_of_texts (textsOnly t extreme.1) (textsOnly u mem)).mpr (extreme.2 u mem)⟩
          rw [least]
          rfl

theorem boundTexts_append (values values' : List String) :
    boundTexts (values ++ values') = boundTexts values ++ boundTexts values' := by
  simp [boundTexts]

/-- A bound is one of the texts it is chosen from, or blank. -/
theorem boundTexts_boundOf (values : List String) :
    boundTexts [boundOf py values latest] = ((boundTexts values).argmin (boundKey py latest)).toList := by
  rw [boundOf_eq_argmin]
  cases least : (boundTexts values).argmin (boundKey py latest) with
  | none => rfl
  | some text =>
      obtain ⟨⟨value, -, rfl⟩, nonempty⟩ := mem_boundTexts.mp (List.argmin_mem least)
      simp [boundTexts, strip_strip, nonempty]

/-- The bound of some of the values stands for all of them. -/
theorem boundOf_absorb (values rest : List String) :
    boundOf py (boundOf py values latest :: rest) latest =
      boundOf py (values ++ rest) latest := by
  have split : boundTexts (boundOf py values latest :: rest) =
      ((boundTexts values).argmin (boundKey py latest)).toList ++ boundTexts rest := by
    rw [← boundTexts_boundOf, ← boundTexts_append]
    rfl
  rw [boundOf_eq_argmin, split, argmin_absorb boundKey_injective, ← boundTexts_append,
    ← boundOf_eq_argmin]

/-- A bound depends only on which values there are. -/
theorem boundOf_congr {values values' : List String} (same : ∀ value, value ∈ values ↔ value ∈ values') :
    boundOf py values latest = boundOf py values' latest := by
  rw [boundOf_eq_argmin, boundOf_eq_argmin]
  have texts : ∀ text, text ∈ boundTexts values ↔ text ∈ boundTexts values' := by
    intro text
    simp only [mem_boundTexts, same]
  rw [argmin_eq_of_mem_iff boundKey_injective texts]

/-- A bound is at least as early, or as late, as every time among its values. -/
theorem boundOf_reaches {values : List String} {value : String} {i : ℤ} (mem : value ∈ values)
    (nonempty : strip value ≠ "") (time : parseObserved py (strip value) = some i) :
    ∃ j, parseObserved py (boundOf py values latest) = some j ∧ if latest then i ≤ j else j ≤ i := by
  have listed : strip value ∈ boundTexts values := mem_boundTexts.mpr ⟨⟨value, mem, rfl⟩, nonempty⟩
  rw [boundOf_eq_argmin]
  cases least : (boundTexts values).argmin (boundKey py latest) with
  | none =>
      rw [List.argmin_eq_none] at least
      rw [least] at listed
      cases listed
  | some text =>
      have below := List.le_of_mem_argmin listed least
      change ∃ j, parseObserved py text = some j ∧ _
      cases chosen : parseObserved py text with
      | none =>
          have same := boundKey_injective (le_antisymm below (boundKey_le_of_time time chosen))
          rw [← same, chosen] at time
          cases time
      | some j =>
          rw [boundKey_le_of_times chosen time] at below
          refine ⟨j, rfl, ?_⟩
          cases latest with
          | false => exact Prod.Lex.monotone_fst _ _ below
          | true => exact Prod.Lex.monotone_fst _ _ below

end Bounds

/-! ## Merging envelopes -/

section Merge

variable (py : Platform)

/-- The envelopes of one session, merged one after the other. -/
def foldEnvelopes (authoritative : Bool) (envelopes : List Doc) : Except PyError (Option Doc) :=
  envelopes.foldlM (fun existing incoming => some <$> mergeTranscriptSessionDocuments py existing incoming authoritative)
    none

/-- Valid envelopes of one session. -/
structure SameSession (envelopes : List Doc) : Prop where
  valid : ∀ e ∈ envelopes, validateForWrite py e = .ok ()
  session : ∀ e ∈ envelopes, docType? e = some .transcriptSession
  same : ∀ e ∈ envelopes, ∀ e' ∈ envelopes, ∀ f ∈ [Field.id, .sessionIdHash, .provider, .project], e.text f = e'.text f

variable {py} {authoritative : Bool} {existing incoming merged : Doc}

/-- A session document is valid where another with its id and its body is, and its own keys are plain. -/
theorem validateForWrite_of_session {d d' : Doc} (session : docType? d = some .transcriptSession)
    (session' : docType? d' = some .transcriptSession) (sameId : d'.get? .id = d.get? .id)
    (sameBody : d'.get? .body = d.get? .body) (plain : PlainKeys d → PlainKeys d')
    (valid : validateForWrite py d = .ok ()) : validateForWrite py d' = .ok () := by
  unfold validateForWrite at valid ⊢
  simp only [Doc.value?_congr sameId, sameBody, session, session', assertCouchdbOwned_of_docType session,
    assertCouchdbOwned_of_docType session', reduceCtorEq, Option.some.injEq, if_false, bind_eq_ok,
    refuseIf_eq_ok] at valid ⊢
  obtain ⟨⟨⟩, identified, ⟨⟩, -, ⟨⟩, keys, clean⟩ := valid
  have plain' := plain (assertNoSecretLikeMetadata_eq_ok.mp keys)
  exact ⟨(), identified, (), trivial, (), assertNoSecretLikeMetadata_eq_ok.mpr plain', clean⟩

theorem plainKeys_mergedIdentity (plain : PlainKeys existing) : PlainKeys (mergedIdentity existing incoming) := by
  have every : ∀ f ∈ identityFields, isSecretLikeKey f.name = false := by decide +kernel
  unfold mergedIdentity
  have bare : PlainKeys (existing.without bookkeepingFields) := plain.without _
  generalize existing.without bookkeepingFields = merged at bare
  generalize identityFields = fields at every
  induction fields generalizing merged with
  | nil => exact bare
  | cons f rest ih =>
      rw [List.forall_mem_cons] at every
      refine ih (adopt incoming merged f) ?_ every.2
      unfold adopt
      split
      · exact bare.set _ every.1
      · exact bare

theorem merge_none (valid : validateForWrite py incoming = .ok ()) (session : docType? incoming = some .transcriptSession) :
    mergeTranscriptSessionDocuments py none incoming authoritative = .ok (incoming.without bookkeepingFields) := by
  simp [mergeTranscriptSessionDocuments, valid, session, refuseIf]

variable (py) in
/-- No time of the envelope overflows. -/
def Representable (e : Doc) : Prop := ∀ b ∈ boundFields, ¬ Overflows py [e.text b.1]

theorem overflows_append {values values' : List String} :
    Overflows py (values ++ values') ↔ Overflows py values ∨ Overflows py values' := by
  simp only [Overflows, boundTexts_append, boundTimes, List.filterMap_append, List.mem_append, or_and_right, exists_or]

/-- The envelopes have the texts of one session. -/
def SameTexts (e e' : Doc) : Prop := ∀ f ∈ [Field.id, .sessionIdHash, .provider, .project], e.text f = e'.text f

theorem mergedEnvelope_bound {b : Field × Bool} (mem : b ∈ boundFields) :
    (mergedEnvelope py authoritative existing incoming).text b.1 =
      boundOf py [existing.text b.1, incoming.text b.1] b.2 := by
  simp only [boundFields, List.mem_cons, List.not_mem_nil, or_false] at mem
  rcases mem with rfl | rfl | rfl | rfl <;>
    exact Doc.text_of_str (by simp [mergedEnvelope, Doc.get?_set])

theorem mergedEnvelope_get? {f : Field} (other : f ∉ bookkeepingFields ++ [.startedAt, .observedAtStart, .endedAt,
      .observedAtEnd, .sourceHash, .materializedAt, .sourceStatus]) :
    (mergedEnvelope py authoritative existing incoming).get? f =
      if f ∈ identityFields then (presentField incoming f).or (existing.get? f) else existing.get? f := by
  rw [List.mem_append, not_or] at other
  obtain ⟨kept, rest⟩ := other
  rw [← mergedIdentity_get? existing incoming f kept]
  simp only [List.mem_cons, List.not_mem_nil, or_false, not_or] at rest
  simp [mergedEnvelope, Doc.get?_set, rest]

theorem plainKeys_mergedEnvelope (plain : PlainKeys existing) :
    PlainKeys (mergedEnvelope py authoritative existing incoming) := by
  have every : ∀ f ∈ [Field.startedAt, .observedAtStart, .endedAt, .observedAtEnd, .sourceHash, .materializedAt,
      .sourceStatus], isSecretLikeKey f.name = false := by decide +kernel
  exact (plainKeys_mergedIdentity plain).update fun f mem => every f (by simpa using mem)

theorem text_mergedEnvelope {f : Field} (same : existing.text f = incoming.text f) (mem : f ∈ identityFields)
    (other : f ∉ bookkeepingFields ++ [.startedAt, .observedAtStart, .endedAt,
      .observedAtEnd, .sourceHash, .materializedAt, .sourceStatus]) :
    (mergedEnvelope py authoritative existing incoming).text f = incoming.text f := by
  cases present : presentField incoming f with
  | none =>
      rw [← same]
      exact Doc.text_congr (by rw [mergedEnvelope_get? other, if_pos mem, present, Option.none_or])
  | some v =>
      have here : incoming.get? f = some v := by
        unfold presentField at present
        rw [Option.filter_eq_some_iff] at present
        exact present.1
      exact Doc.text_congr (by rw [mergedEnvelope_get? other, if_pos mem, present, Option.some_or, here])

variable (authoritative) in
/-- What a merge of two valid envelopes of one session writes is one of them again. -/
theorem mergedEnvelope_valid (valid' : validateForWrite py existing = .ok ()) (session : docType? incoming = some .transcriptSession)
    (session' : docType? existing = some .transcriptSession) (same : SameTexts existing incoming) :
    validateForWrite py (mergedEnvelope py authoritative existing incoming) = .ok () ∧
      docType? (mergedEnvelope py authoritative existing incoming) = some .transcriptSession ∧
      SameTexts (mergedEnvelope py authoritative existing incoming) incoming := by
  have typed : docType? (mergedEnvelope py authoritative existing incoming) = some .transcriptSession := by
    have spelled := docType?_eq_some_iff.mp session
    have present : presentField incoming .docType = some (.str SourceDocType.transcriptSession.text) := by
      rw [presentField, spelled]
      rfl
    rw [docType?_eq_some_iff, mergedEnvelope_get? (by decide), if_pos (by decide), present, Option.some_or]
  refine ⟨validateForWrite_of_session session' typed (by rw [mergedEnvelope_get? (by decide), if_neg (by decide)])
      (by rw [mergedEnvelope_get? (by decide), if_neg (by decide)]) plainKeys_mergedEnvelope valid', typed, ?_⟩
  intro f mem
  by_cases id : f = .id
  · subst id
    rw [← same .id (by decide)]
    exact Doc.text_congr (by rw [mergedEnvelope_get? (by decide), if_neg (by decide)])
  · have listed : f ∈ identityFields ∧ f ∉ bookkeepingFields ++ [.startedAt, .observedAtStart, .endedAt,
        .observedAtEnd, .sourceHash, .materializedAt, .sourceStatus] := by
      have every : ∀ f ∈ [Field.sessionIdHash, .provider, .project], f ∈ identityFields ∧
          f ∉ bookkeepingFields ++ [.startedAt, .observedAtStart, .endedAt, .observedAtEnd, .sourceHash,
            .materializedAt, .sourceStatus] := by decide
      exact every f ((List.mem_cons.mp mem).resolve_left id)
    exact text_mergedEnvelope (same f mem) listed.1 listed.2

/-- A merge of two valid envelopes of one session returns exactly where no time of either overflows. -/
theorem merge_some_iff (valid : validateForWrite py incoming = .ok ())
    (valid' : validateForWrite py existing = .ok ()) (session : docType? incoming = some .transcriptSession)
    (session' : docType? existing = some .transcriptSession) (same : SameTexts existing incoming) :
    mergeTranscriptSessionDocuments py (some existing) incoming authoritative = .ok merged ↔
      (Representable py existing ∧ Representable py incoming) ∧
        merged = mergedEnvelope py authoritative existing incoming := by
  have times : (∀ b ∈ boundFields, ¬ Overflows py [existing.text b.1, incoming.text b.1]) ↔
      Representable py existing ∧ Representable py incoming := by
    simp only [Representable, ← forall₂_and, ← not_or, ← overflows_append, List.singleton_append]
  have fields : SameSessionFields existing incoming := by
    intro f mem
    simp [same f (List.mem_cons_of_mem _ mem)]
  have valid'' := (mergedEnvelope_valid authoritative valid' session session' same).1
  rw [merge_some_eq_ok, times]
  constructor
  · rintro ⟨-, -, -, -, -, representable, -, rfl⟩
    exact ⟨representable, rfl⟩
  · rintro ⟨representable, rfl⟩
    exact ⟨valid, session, session', same .id (by decide), fields, representable, valid'', rfl⟩

/-! ## Folding envelopes -/

variable (py) in
/-- What has been merged of some envelopes, and the bounds it stands for. -/
structure Folded (envelopes done : List Doc) (m : Doc) : Prop where
  valid : validateForWrite py m = .ok ()
  session : docType? m = some .transcriptSession
  same : ∀ e ∈ envelopes, SameTexts m e
  bound : ∀ b ∈ boundFields, boundOf py [m.text b.1] b.2 = boundOf py (done.map (·.text b.1)) b.2

variable {envelopes done rest : List Doc} {e m : Doc}

theorem bound_representable {values : List String} {latest : Bool} (representable : ¬ Overflows py values) :
    ¬ Overflows py [boundOf py values latest] := by
  rintro ⟨⟨i, text⟩, mem, outside⟩
  obtain ⟨listed, time⟩ := mem_boundTimes.mp mem
  rw [boundTexts_boundOf, Option.mem_toList] at listed
  exact representable ⟨_, mem_boundTimes.mpr ⟨List.argmin_mem listed, time⟩, outside⟩

theorem mergedEnvelope_representable (representable : Representable py existing)
    (representable' : Representable py incoming) :
    Representable py (mergedEnvelope py authoritative existing incoming) := by
  intro b mem
  rw [mergedEnvelope_bound mem]
  apply bound_representable
  rw [← List.singleton_append, overflows_append, not_or]
  exact ⟨representable b mem, representable' b mem⟩

/-- The bounds after a merge are those of all that has been merged. -/
theorem Folded.bound_merged (folded : Folded py envelopes done m) {b : Field × Bool} (mem : b ∈ boundFields) :
    (mergedEnvelope py authoritative m e).text b.1 =
      boundOf py ((done ++ [e]).map (·.text b.1)) b.2 := by
  rw [mergedEnvelope_bound mem]
  calc boundOf py ([m.text b.1] ++ [e.text b.1]) b.2
      = boundOf py (boundOf py [m.text b.1] b.2 :: [e.text b.1]) b.2 :=
        (boundOf_absorb _ _).symm
    _ = boundOf py (boundOf py (done.map (·.text b.1)) b.2 :: [e.text b.1]) b.2 := by
        rw [folded.bound b mem]
    _ = boundOf py (done.map (·.text b.1) ++ [e.text b.1]) b.2 := boundOf_absorb _ _
    _ = boundOf py ((done ++ [e]).map (·.text b.1)) b.2 := by
        rw [List.map_append, List.map_cons, List.map_nil]

variable (authoritative) in
/-- One more envelope. -/
theorem Folded.step (folded : Folded py envelopes done m) (of : SameSession py envelopes) (mem : e ∈ envelopes) :
    Folded py envelopes (done ++ [e]) (mergedEnvelope py authoritative m e) := by
  obtain ⟨valid, session, same⟩ := mergedEnvelope_valid authoritative folded.valid (of.session e mem) folded.session
    (folded.same e mem)
  refine ⟨valid, session, fun e' mem' f listed => (same f listed).trans (of.same e mem e' mem' f listed), ?_⟩
  intro b listed
  rw [folded.bound_merged listed, boundOf_absorb, List.append_nil]

/-- The first envelope. -/
theorem folded_single (of : SameSession py envelopes) (mem : e ∈ envelopes) :
    Folded py envelopes [e] (e.without bookkeepingFields) := by
  have kept {f : Field} (other : f ∉ bookkeepingFields) : (e.without bookkeepingFields).get? f = e.get? f := by
    rw [Doc.get?_without, if_neg other]
  have typed : docType? (e.without bookkeepingFields) = some .transcriptSession :=
    (docType?_congr (kept (by decide))).trans (of.session e mem)
  refine ⟨validateForWrite_of_session (of.session e mem) typed (kept (by decide)) (kept (by decide))
    (fun plain => plain.without _) (of.valid e mem), typed, ?_, ?_⟩
  · intro e' mem' f listed
    have every : ∀ f ∈ [Field.id, .sessionIdHash, .provider, .project], f ∉ bookkeepingFields := by decide
    rw [Doc.text_congr (kept (every f listed))]
    exact of.same e mem e' mem' f listed
  · intro b listed
    have every : ∀ b ∈ boundFields, b.1 ∉ bookkeepingFields := by decide
    rw [Doc.text_congr (kept (every b listed))]
    rfl

theorem Folded.merge_iff (folded : Folded py envelopes done m) (of : SameSession py envelopes) (mem : e ∈ envelopes) :
    mergeTranscriptSessionDocuments py (some m) e authoritative = .ok merged ↔
      (Representable py m ∧ Representable py e) ∧ merged = mergedEnvelope py authoritative m e :=
  merge_some_iff (of.valid e mem) folded.valid (of.session e mem) folded.session (folded.same e mem)

theorem foldlM_cons_eq_ok {start : Option Doc} {last : Option Doc} : (e :: rest).foldlM (fun existing incoming =>
      some <$> mergeTranscriptSessionDocuments py existing incoming authoritative) start = .ok last ↔
    ∃ m, mergeTranscriptSessionDocuments py start e authoritative = .ok m ∧ rest.foldlM (fun existing incoming =>
      some <$> mergeTranscriptSessionDocuments py existing incoming authoritative) (some m) = .ok last := by
  rw [List.foldlM_cons, bind_eq_ok]
  cases mergeTranscriptSessionDocuments py start e authoritative <;> simp

variable (authoritative) in
/-- Representable envelopes are merged into their bounds. -/
theorem Folded.run (folded : Folded py envelopes done m) (of : SameSession py envelopes)
    (representable : Representable py m) (every : ∀ e ∈ rest, e ∈ envelopes ∧ Representable py e)
    (stands : ∀ b ∈ boundFields, m.text b.1 = boundOf py (done.map (·.text b.1)) b.2) :
    ∃ merged, rest.foldlM (fun existing incoming => some <$> mergeTranscriptSessionDocuments py existing incoming authoritative)
        (some m) = .ok (some merged) ∧ Folded py envelopes (done ++ rest) merged ∧ Representable py merged ∧
      ∀ b ∈ boundFields, merged.text b.1 = boundOf py ((done ++ rest).map (·.text b.1)) b.2 := by
  induction rest generalizing done m with
  | nil => exact ⟨m, rfl, by rwa [List.append_nil], representable, by rwa [List.append_nil]⟩
  | cons e rest ih =>
      rw [List.forall_mem_cons] at every
      obtain ⟨⟨mem, representable'⟩, every⟩ := every
      obtain ⟨merged, ran, folded', representable'', stands'⟩ := ih (folded.step authoritative of mem)
        (mergedEnvelope_representable representable representable') every fun b listed => folded.bound_merged listed
      rw [List.append_assoc, List.singleton_append] at folded' stands'
      refine ⟨merged, ?_, folded', representable'', stands'⟩
      exact foldlM_cons_eq_ok.mpr ⟨_, (folded.merge_iff of mem).mpr ⟨⟨representable, representable'⟩, rfl⟩, ran⟩

/-- Only representable envelopes are merged. -/
theorem Folded.representable_of_run (folded : Folded py envelopes done m) (of : SameSession py envelopes)
    (every : ∀ e ∈ rest, e ∈ envelopes) {last : Option Doc} (ran : rest.foldlM (fun existing incoming =>
      some <$> mergeTranscriptSessionDocuments py existing incoming authoritative) (some m) = .ok last) (some : rest ≠ []) :
    Representable py m ∧ ∀ e ∈ rest, Representable py e := by
  induction rest generalizing done m with
  | nil => exact absurd rfl some
  | cons e rest ih =>
      rw [List.forall_mem_cons] at every
      obtain ⟨mem, every⟩ := every
      obtain ⟨merged, done', ran⟩ := foldlM_cons_eq_ok.mp ran
      obtain ⟨⟨here, there⟩, rfl⟩ := (folded.merge_iff of mem).mp done'
      refine ⟨here, List.forall_mem_cons.mpr ⟨there, ?_⟩⟩
      cases rest with
      | nil => simp
      | cons e' rest => exact (ih (folded.step authoritative of mem) every ran (by simp)).2

variable (authoritative) in
/-- Two or more representable envelopes are merged into their bounds. -/
theorem foldEnvelopes_eq_ok {order : List Doc} (of : SameSession py envelopes) (several : 2 ≤ order.length)
    (every : ∀ e ∈ order, e ∈ envelopes ∧ Representable py e) :
    ∃ merged, foldEnvelopes py authoritative order = .ok (some merged) ∧ Folded py envelopes order merged ∧
      Representable py merged ∧
      ∀ b ∈ boundFields, merged.text b.1 = boundOf py (order.map (·.text b.1)) b.2 := by
  match order, several, every with
  | first :: second :: rest, _, every =>
      rw [List.forall_mem_cons, List.forall_mem_cons] at every
      obtain ⟨⟨mem, representable⟩, ⟨mem', representable'⟩, every⟩ := every
      have single := folded_single of mem
      have stored : Representable py (first.without bookkeepingFields) := by
        have kept : ∀ b ∈ boundFields, b.1 ∉ bookkeepingFields := by decide
        intro b listed
        rw [Doc.text_congr (e := first) (by rw [Doc.get?_without, if_neg (kept b listed)])]
        exact representable b listed
      obtain ⟨merged, ran, folded, final, stands⟩ := (single.step authoritative of mem').run authoritative of
        (mergedEnvelope_representable stored representable') every fun b listed => single.bound_merged listed
      refine ⟨merged, foldlM_cons_eq_ok.mpr ⟨_, merge_none (of.valid _ mem) (of.session _ mem), ?_⟩,
        folded, final, stands⟩
      exact foldlM_cons_eq_ok.mpr ⟨_, (single.merge_iff of mem').mpr ⟨⟨stored, representable'⟩, rfl⟩, ran⟩

theorem representable_of_foldEnvelopes {order : List Doc} {last : Option Doc} (of : SameSession py envelopes)
    (several : 2 ≤ order.length) (every : ∀ e ∈ order, e ∈ envelopes)
    (ran : foldEnvelopes py authoritative order = .ok last) : ∀ e ∈ order, Representable py e := by
  match order, several, every, ran with
  | first :: second :: rest, _, every, ran =>
      rw [List.forall_mem_cons] at every
      obtain ⟨mem, every⟩ := every
      obtain ⟨m, done, ran⟩ := foldlM_cons_eq_ok.mp ran
      rw [merge_none (of.valid _ mem) (of.session _ mem)] at done
      cases done
      obtain ⟨stored, others⟩ := (folded_single of mem).representable_of_run of every ran (by simp)
      refine List.forall_mem_cons.mpr ⟨fun b listed => ?_, others⟩
      have kept : ∀ b ∈ boundFields, b.1 ∉ bookkeepingFields := by decide
      rw [← Doc.text_congr (d := first.without bookkeepingFields) (by rw [Doc.get?_without, if_neg (kept b listed)])]
      exact stored b listed

/-- The times of an envelope are within the bounds. -/
def Reaches (py : Platform) (e merged : Doc) : Prop :=
  ∀ b ∈ boundFields, ∀ i, strip (e.text b.1) ≠ "" → parseObserved py (strip (e.text b.1)) = some i →
    ∃ j, parseObserved py (merged.text b.1) = some j ∧ if b.2 then i ≤ j else j ≤ i

/-- No merge moves a start later or an end earlier. -/
theorem merge_reaches (done : mergeTranscriptSessionDocuments py (some existing) incoming authoritative = .ok merged) :
    Reaches py existing merged ∧ Reaches py incoming merged := by
  obtain ⟨-, -, -, -, -, -, -, rfl⟩ := merge_some_eq_ok.mp done
  constructor <;> intro b mem i nonempty time <;> rw [mergedEnvelope_bound mem]
  · exact boundOf_reaches (by simp) nonempty time
  · exact boundOf_reaches (by simp) nonempty time

variable (py authoritative) in
/-- In every order the envelopes are merged into the same bounds, no merge moves a start later or an end earlier, and
    merging any of them again changes no bound. -/
def Converges (envelopes : List Doc) : Prop :=
  ∃ bounds : Field × Bool → String, ∀ order, order.Perm envelopes →
    (∃ merged, foldEnvelopes py authoritative order = .ok (some merged) ∧
      (∀ b ∈ boundFields, merged.text b.1 = bounds b) ∧
      ∀ e ∈ envelopes, ∃ again, mergeTranscriptSessionDocuments py (some merged) e authoritative = .ok again ∧
        ∀ b ∈ boundFields, again.text b.1 = bounds b) ∧
    ∀ done e rest before after, order = done ++ e :: rest →
      foldEnvelopes py authoritative done = .ok (some before) →
      mergeTranscriptSessionDocuments py (some before) e authoritative = .ok after → Reaches py before after ∧ Reaches py e after

/-- Two or more envelopes of one session converge exactly where no time of any of them overflows. -/
theorem foldEnvelopes_converges_iff (py : Platform) (authoritative : Bool) (envelopes : List Doc)
    (of : SameSession py envelopes) (several : 2 ≤ envelopes.length) :
    Converges py authoritative envelopes ↔ ∀ e ∈ envelopes, Representable py e := by
  constructor
  · rintro ⟨bounds, every⟩
    obtain ⟨⟨merged, ran, -⟩, -⟩ := every envelopes (.refl _)
    exact representable_of_foldEnvelopes of several (fun _ mem => mem) ran
  · intro representable
    refine ⟨fun b => boundOf py (envelopes.map (·.text b.1)) b.2, fun order perm => ⟨?_, ?_⟩⟩
    · obtain ⟨merged, ran, folded, final, stands⟩ := foldEnvelopes_eq_ok authoritative of
        (by rwa [perm.length_eq]) fun e mem => ⟨perm.mem_iff.mp mem, representable e (perm.mem_iff.mp mem)⟩
      refine ⟨merged, ran, fun b mem => ?_, fun e mem => ?_⟩
      · rw [stands b mem]
        exact boundOf_congr fun value => (perm.map _).mem_iff
      · refine ⟨_, (folded.merge_iff of mem).mpr ⟨⟨final, representable e mem⟩, rfl⟩, fun b listed => ?_⟩
        rw [folded.bound_merged listed]
        apply boundOf_congr
        intro value
        -- the envelope is among those already merged
        have again : value = e.text b.1 → value ∈ envelopes.map (·.text b.1) := by
          rintro rfl
          exact List.mem_map_of_mem mem
        rw [List.map_append, List.mem_append, (perm.map _).mem_iff, List.map_cons, List.map_nil, List.mem_singleton]
        exact or_iff_left_of_imp again
    · rintro done e rest before after - - merging
      exact merge_reaches merging

end Merge

/-! ## Two envelopes -/

section Envelopes

variable {py : Platform}

/-- An envelope of the first session that starts at a given time. -/
def startedEnvelope (startedAt : String) : Doc := Doc.ofFields [
  (.id, .str "transcript_session:first"),
  (.docType, .str SourceDocType.transcriptSession.text),
  (.startedAt, .str startedAt)]

/-- A platform that reads the first midnight of year 1, fourteen hours east of UTC: its instant, in microseconds, has
    no year in UTC. -/
def edgePlatform : Platform :=
  { referencePlatform with
    fromisoformat := fun text => if text = "0001-01-01T00:00:00+14:00" then some (-62135647200000000) else none }

theorem startedEnvelope_get? (startedAt : String) (f : Field) : (startedEnvelope startedAt).get? f =
    if f = .startedAt then some (.str startedAt)
    else if f = .docType then some (.str SourceDocType.transcriptSession.text)
    else if f = .id then some (.str "transcript_session:first")
    else none := by
  simp only [startedEnvelope, Doc.ofFields, Doc.update_cons, Doc.update_nil, Doc.get?_set, Doc.get?_empty]

theorem sameSession_started (starts : List String) : SameSession py (starts.map startedEnvelope) := by
  have every : ∀ f ∈ [Field.id, .docType, .startedAt], isSecretLikeKey f.name = false := by decide +kernel
  have plain (startedAt : String) : PlainKeys (startedEnvelope startedAt) :=
    plainKeys_empty.update fun f mem => every f (by simpa using mem)
  have typed (startedAt : String) : docType? (startedEnvelope startedAt) = some .transcriptSession := by
    simp [docType?_eq_some_iff, startedEnvelope_get?]
  have identified (startedAt : String) : (startedEnvelope startedAt).text .id = "transcript_session:first" :=
    Doc.text_of_str (by simp [startedEnvelope_get?])
  refine ⟨?_, ?_, ?_⟩
  · intro e mem
    obtain ⟨startedAt, -, rfl⟩ := List.mem_map.mp mem
    exact validateForWrite_ordinary (typed startedAt) (by decide) (by decide) (by simp [identified]) (plain startedAt)
      (by simp [startedEnvelope_get?])
  · intro e mem
    obtain ⟨startedAt, -, rfl⟩ := List.mem_map.mp mem
    exact typed startedAt
  · intro e mem e' mem' f listed
    obtain ⟨startedAt, -, rfl⟩ := List.mem_map.mp mem
    obtain ⟨startedAt', -, rfl⟩ := List.mem_map.mp mem'
    have other : ∀ f ∈ [Field.id, .sessionIdHash, .provider, .project], f ≠ .startedAt := by decide
    exact Doc.text_congr (by rw [startedEnvelope_get?, startedEnvelope_get?, if_neg (other f listed),
      if_neg (other f listed)])

theorem foldEnvelopes_converges_iff_two : Converges referencePlatform false
      (["yesterday", "today"].map startedEnvelope) ↔
    ∀ e ∈ ["yesterday", "today"].map startedEnvelope, Representable referencePlatform e :=
  foldEnvelopes_converges_iff referencePlatform false _ (sameSession_started _) (by decide)

/-- Midnight of year 1 east of UTC is no bound of its session in any order. -/
theorem edge_never_converges : SameSession edgePlatform (["0001-01-01T00:00:00+14:00", "today"].map startedEnvelope) ∧
    ¬ Converges edgePlatform false (["0001-01-01T00:00:00+14:00", "today"].map startedEnvelope) := by
  have of : SameSession edgePlatform (["0001-01-01T00:00:00+14:00", "today"].map startedEnvelope) :=
    sameSession_started _
  refine ⟨of, ?_⟩
  rintro ⟨bounds, every⟩
  obtain ⟨⟨merged, ran, -⟩, -⟩ := every _ (.refl _)
  have first := representable_of_foldEnvelopes of (by decide) (fun _ mem => mem) ran
    (startedEnvelope "0001-01-01T00:00:00+14:00") (by simp)
  have start : (startedEnvelope "0001-01-01T00:00:00+14:00").text .startedAt = "0001-01-01T00:00:00+14:00" :=
    Doc.text_of_str (by simp [startedEnvelope_get?])
  have read : replaceZulu "0001-01-01T00:00:00+14:00" = "0001-01-01T00:00:00+14:00" := by decide
  have time : toLex (-62135647200000000, "0001-01-01T00:00:00+14:00") ∈
      boundTimes edgePlatform (boundTexts ["0001-01-01T00:00:00+14:00"]) := by
    refine mem_boundTimes.mpr ⟨mem_boundTexts.mpr ⟨⟨_, List.mem_singleton_self _, by decide⟩, by decide⟩, ?_⟩
    rw [parseObserved, read]
    rfl
  apply first (.startedAt, false) (by decide)
  rw [start]
  exact ⟨_, time, by decide⟩

end Envelopes

end Neurons.Source
