import Neurons.Source.Resolution

/-! # The session hash does not depend on order

The resolver hashes the documents in the order of their member ids, the legacy
path in the order of their ids, the bounded reader in store order. All three sort
what they hash, and the observed bounds are a minimum and a maximum.
-/

namespace Neurons.Source

open Neurons.Lib

variable {py : Platform}

theorem boundTexts_perm {values values' : List String} (perm : values.Perm values') :
    (boundTexts values).Perm (boundTexts values') :=
  (perm.map strip).filter _

theorem boundTimes_perm {texts texts' : List String} (perm : texts.Perm texts') :
    (boundTimes py texts).Perm (boundTimes py texts') :=
  perm.filterMap _

theorem boundOf_perm {values values' : List String} (perm : values.Perm values') (latest : Bool) :
    boundOf py values latest = boundOf py values' latest := by
  have texts := boundTexts_perm perm
  have times : (boundTimes py _).Perm _ := boundTimes_perm texts
  cases latest with
  | false =>
      simp only [boundOf, Bool.false_eq_true, if_false]
      rw [min?_eq_of_perm times, min?_eq_of_perm texts]
  | true =>
      simp only [boundOf, if_true]
      rw [max?_eq_of_perm times, max?_eq_of_perm texts]

theorem chronologicalBound_perm {values values' : List String} (perm : values.Perm values')
    (latest : Bool) : chronologicalBound py values latest = chronologicalBound py values' latest := by
  have same : Overflows py values ↔ Overflows py values' := by
    simp only [Overflows, (boundTimes_perm (boundTexts_perm perm)).mem_iff]
  simp only [chronologicalBound, same, boundOf_perm perm]

theorem observedTimeBounds_perm {documents documents' : List Doc}
    (perm : documents.Perm documents') :
    observedTimeBounds py documents = observedTimeBounds py documents' := by
  simp only [observedTimeBounds, observedStarts, observedEnds,
    chronologicalBound_perm (perm.filterMap (firstText · [.observedAtStart, .startedAt])),
    chronologicalBound_perm (perm.filterMap (firstText · [.observedAtEnd, .endedAt, .observedAtStart]))]

theorem sortTexts_perm {texts texts' : List String} (perm : texts.Perm texts') :
    sortTexts texts = sortTexts texts' :=
  insertionSort_eq_of_perm perm

theorem buildSourceHash_perm {contents contents' coverages coverages' tokens tokens' bundleTokens
    bundleTokens' : List String} {observed : String × String} (content : contents.Perm contents')
    (coverage : coverages.Perm coverages') (token : tokens.Perm tokens')
    (bundleToken : bundleTokens.Perm bundleTokens') :
    buildSourceHash py contents coverages observed tokens bundleTokens =
      buildSourceHash py contents' coverages' observed tokens' bundleTokens' := by
  simp only [buildSourceHash, sortTexts_perm content, sortTexts_perm coverage,
    sortTexts_perm token, sortTexts_perm bundleToken]

/-- A loop that returns also returns over a reordered list, with its results reordered. -/
theorem mapM_perm {α β : Type} {f : α → Except PyError β} {l l' : List α} (perm : l.Perm l')
    {r : List β} (done : l.mapM f = .ok r) : ∃ r', l'.mapM f = .ok r' ∧ r.Perm r' := by
  induction perm generalizing r with
  | nil => exact ⟨r, done, .refl r⟩
  | cons a _ ih =>
      simp only [List.mapM_cons, bind_eq_ok, pure_eq_ok, Except.ok.injEq] at done ⊢
      obtain ⟨b, first, bs, others, rfl⟩ := done
      obtain ⟨bs', others', same⟩ := ih others
      exact ⟨b :: bs', ⟨b, first, bs', others', rfl⟩, same.cons b⟩
  | swap a a' l =>
      simp only [List.mapM_cons, bind_eq_ok, pure_eq_ok, Except.ok.injEq] at done ⊢
      obtain ⟨b, first, _, ⟨b', second, bs, others, rfl⟩, rfl⟩ := done
      exact ⟨b' :: b :: bs, ⟨b', second, _, ⟨b, first, bs, others, rfl⟩, rfl⟩, .swap ..⟩
  | trans _ _ ih ih' =>
      obtain ⟨r', done', same⟩ := ih done
      obtain ⟨r'', done'', same'⟩ := ih' done'
      exact ⟨r'', done'', same.trans same'⟩

theorem sourceHash_perm {documents documents' : List Doc} (perm : documents.Perm documents')
    {hash : String} (hashed : sourceHash py documents = .ok hash) :
    sourceHash py documents' = .ok hash := by
  unfold sourceHash at hashed ⊢
  simp only [bind_eq_ok, pure_eq_ok, Except.ok.injEq] at hashed ⊢
  obtain ⟨observed, bounds, chunkTokens, chunked, bundleTokens, bundled, rfl⟩ := hashed
  have ofType (t : SourceDocType) := perm.filter (fun d => decide (docType? d = some t))
  obtain ⟨chunkTokens', chunked', chunkPerm⟩ := mapM_perm (ofType .conversationChunk) chunked
  obtain ⟨bundleTokens', bundled', bundlePerm⟩ := mapM_perm (ofType .toolEvidenceBundle) bundled
  rw [observedTimeBounds_perm ((ofType .transcriptSession).append (ofType .conversationChunk))] at bounds
  refine ⟨observed, bounds, chunkTokens', chunked', bundleTokens', bundled', ?_⟩
  exact (buildSourceHash_perm ((ofType .conversationChunk).map _)
    ((ofType .toolEvidenceBundle).map _) chunkPerm bundlePerm).symm

end Neurons.Source
