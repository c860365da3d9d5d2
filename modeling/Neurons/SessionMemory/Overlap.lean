import Mathlib.Data.List.Infix
import Mathlib.Data.List.Enum
import Neurons.Lib.Covering
import Neurons.Source.Platform

/-! # Overlapping chunks

Before the chunks of a session become its memory, exact duplicates are collapsed and
a chunk is dropped when another one's turn window strictly contains its window and
the other's text contains its text (`chunk_overlap.py`).
-/

namespace Neurons.SessionMemory

open Neurons.Lib Neurons.Source

/-- What the overlap policy reads of a conversation chunk. -/
structure ChunkView where
  contentHash : String
  turnStartIndex : Int
  turnEndIndex : Int
  partIndex : Int
  partCount : Int
  charStart : Int
  charEnd : Int
  redactionVersion : String
  text : String
  deriving DecidableEq, Repr

/-- What two exact duplicates share. -/
structure SourceKey where
  contentHash : String
  turnStartIndex : Int
  turnEndIndex : Int
  partIndex : Int
  partCount : Int
  charStart : Int
  charEnd : Int
  redactionVersion : String
  deriving DecidableEq, Repr

/-- `int(value or default)`. -/
def orElse (value default : Int) : Int := if value = 0 then default else value

def ChunkView.sourceKey (view : ChunkView) : SourceKey where
  contentHash := view.contentHash
  turnStartIndex := view.turnStartIndex
  turnEndIndex := view.turnEndIndex
  partIndex := orElse view.partIndex 1
  partCount := orElse view.partCount 1
  charStart := orElse view.charStart 0
  charEnd := orElse view.charEnd 0
  redactionVersion := view.redactionVersion

def chunkTurnWindowStrictlyContains (container candidate : ChunkView) : Bool :=
  (container.turnStartIndex, container.turnEndIndex) ≠ (candidate.turnStartIndex, candidate.turnEndIndex)
    && container.turnStartIndex ≤ candidate.turnStartIndex
    && container.turnEndIndex ≥ candidate.turnEndIndex

/-- `part in whole` of two texts. -/
def Substring (part whole : String) : Prop := part.toList <:+: whole.toList

instance (part whole : String) : Decidable (Substring part whole) :=
  inferInstanceAs (Decidable (_ <:+: _))

theorem Substring.refl (text : String) : Substring text text := List.infix_rfl

theorem Substring.trans {first second third : String} (inner : Substring first second)
    (outer : Substring second third) : Substring first third :=
  List.IsInfix.trans inner outer

structure OverlapReport where
  inputCount : ℕ
  keptCount : ℕ
  keptIndexes : List ℕ
  exactDuplicateCount : ℕ
  subsumedOverlapCount : ℕ
  droppedCount : ℕ
  deriving DecidableEq, Repr

/-- Collapses exact duplicates of the views, each with its index, and counts them. -/
def collapseExact (seen : List SourceKey) : List (ChunkView × ℕ) → List (ChunkView × ℕ) × ℕ
  | [] => ([], 0)
  | (view, index) :: rest =>
      if view.sourceKey ∈ seen then
        let (deduped, count) := collapseExact seen rest
        (deduped, count + 1)
      else
        let (deduped, count) := collapseExact (view.sourceKey :: seen) rest
        ((view, index) :: deduped, count)

section Policy

-- `sanitize` is `sanitize_session_memory_chunk_text`
variable (sanitize : String → String)

/-- The text by which a view is compared. -/
def ChunkView.sanitized (view : ChunkView) : String := strip (sanitize view.text)

/-- One pass of the inner loop: the candidates that the container subsumes join the set. -/
def subsumedBy (container : (ChunkView × ℕ) × ℕ) (deduped : List (ChunkView × ℕ)) (subsumed : List ℕ) :
    List ℕ :=
  deduped.zipIdx.foldl (fun subsumed candidate =>
    if container.2 = candidate.2 ∨ candidate.2 ∈ subsumed then subsumed
    else if ¬ chunkTurnWindowStrictlyContains container.1.1 candidate.1.1 then subsumed
    else if candidate.1.1.sanitized sanitize ≠ ""
        ∧ Substring (candidate.1.1.sanitized sanitize) (container.1.1.sanitized sanitize) then
      candidate.2 :: subsumed
    else subsumed) subsumed

def subsumedPositions (deduped : List (ChunkView × ℕ)) : List ℕ :=
  deduped.zipIdx.foldl (fun subsumed container =>
    if container.1.1.sanitized sanitize = "" then subsumed
    else subsumedBy sanitize container deduped subsumed) []

def canonicalizeChunkViews (views : List ChunkView) : List ChunkView × OverlapReport :=
  let (deduped, exactDuplicateCount) := collapseExact [] views.zipIdx
  let subsumed := subsumedPositions sanitize deduped
  let keptPairs := (deduped.zipIdx.filter fun (_, position) => position ∉ subsumed).map Prod.fst
  let kept := keptPairs.map Prod.fst
  (kept, {
    inputCount := views.length
    keptCount := kept.length
    keptIndexes := keptPairs.map Prod.snd
    exactDuplicateCount := exactDuplicateCount
    subsumedOverlapCount := subsumed.length
    droppedCount := views.length - kept.length })

/-! ## What is dropped -/

/-- The container makes the candidate superfluous. -/
def Subsumes (container candidate : ChunkView) : Prop :=
  chunkTurnWindowStrictlyContains container candidate ∧ candidate.sanitized sanitize ≠ ""
    ∧ Substring (candidate.sanitized sanitize) (container.sanitized sanitize)

instance (container candidate : ChunkView) : Decidable (Subsumes sanitize container candidate) :=
  inferInstanceAs (Decidable (_ ∧ _ ∧ _))

theorem chunkTurnWindowStrictlyContains_iff {container candidate : ChunkView} :
    chunkTurnWindowStrictlyContains container candidate ↔
      container.turnStartIndex ≤ candidate.turnStartIndex ∧ candidate.turnEndIndex ≤ container.turnEndIndex
        ∧ (container.turnStartIndex < candidate.turnStartIndex
          ∨ candidate.turnEndIndex < container.turnEndIndex) := by
  simp only [chunkTurnWindowStrictlyContains, Bool.and_eq_true, decide_eq_true_eq, ne_eq, Prod.mk.injEq,
    decide_not, Bool.not_eq_true', decide_eq_false_iff_not]
  omega

variable {sanitize}

theorem not_subsumes_self (view : ChunkView) : ¬ Subsumes sanitize view view := by
  intro subsumes
  have window := chunkTurnWindowStrictlyContains_iff.mp subsumes.1
  omega

theorem Subsumes.trans {first second third : ChunkView} (outer : Subsumes sanitize first second)
    (inner : Subsumes sanitize second third) : Subsumes sanitize first third := by
  have wide := chunkTurnWindowStrictlyContains_iff.mp outer.1
  have narrow := chunkTurnWindowStrictlyContains_iff.mp inner.1
  refine ⟨?_, inner.2.1, inner.2.2.trans outer.2.2⟩
  apply chunkTurnWindowStrictlyContains_iff.mpr
  omega

theorem Subsumes.congr {first first' second second' : ChunkView} (keys : first.sourceKey = first'.sourceKey)
    (keys' : second.sourceKey = second'.sourceKey) (text : first.text = first'.text)
    (text' : second.text = second'.text) :
    Subsumes sanitize first second ↔ Subsumes sanitize first' second' := by
  simp only [ChunkView.sourceKey, SourceKey.mk.injEq] at keys keys'
  simp only [Subsumes, chunkTurnWindowStrictlyContains_iff, ChunkView.sanitized, text, text', keys, keys']

/-- Only what a text contains can be subsumed by it, so an empty container subsumes nothing. -/
theorem Subsumes.container_ne {container candidate : ChunkView} (subsumes : Subsumes sanitize container candidate) :
    container.sanitized sanitize ≠ "" := by
  intro empty
  obtain ⟨_, filled, inside⟩ := subsumes
  rw [empty] at inside
  apply filled
  apply String.toList_injective
  exact List.infix_nil.mp inside

/-! ### The loops -/

theorem collapseExact_eq (seen : List SourceKey) (pairs : List (ChunkView × ℕ)) :
    collapseExact seen pairs = (firsts (fun pair => pair.1.sourceKey) seen pairs,
      pairs.length - (firsts (fun pair => pair.1.sourceKey) seen pairs).length) := by
  induction pairs generalizing seen with
  | nil => rfl
  | cons pair rest ih =>
      have shorter (seen) := (firsts_sublist (fun pair : ChunkView × ℕ => pair.1.sourceKey) seen rest).length_le
      by_cases known : pair.1.sourceKey ∈ seen
      · simp only [collapseExact, firsts, known, if_true, ih, List.length_cons, Prod.mk.injEq, true_and]
        have := shorter seen
        omega
      · simp only [collapseExact, firsts, known, if_false, ih, List.length_cons, Prod.mk.injEq, true_and]
        omega

theorem mem_subsumedBy {container : (ChunkView × ℕ) × ℕ} {deduped : List (ChunkView × ℕ)}
    (inside : container ∈ deduped.zipIdx) {subsumed : List ℕ} {position : ℕ} :
    position ∈ subsumedBy sanitize container deduped subsumed ↔ position ∈ subsumed ∨
      ∃ candidate ∈ deduped.zipIdx, candidate.2 = position ∧ Subsumes sanitize container.1.1 candidate.1.1 := by
  unfold subsumedBy
  apply mem_foldl_iff
  intro subsumed candidate there position
  have apart : container.2 = candidate.2 → ¬ Subsumes sanitize container.1.1 candidate.1.1 := by
    intro same subsumes
    have one : container.1 = candidate.1 := by
      have := List.mem_zipIdx_iff_getElem?.mp inside
      have := List.mem_zipIdx_iff_getElem?.mp there
      simp_all
    exact not_subsumes_self _ (one ▸ subsumes)
  split
  · grind
  · split
    · grind [Subsumes]
    · grind [Subsumes]

theorem mem_subsumedPositions {deduped : List (ChunkView × ℕ)} {position : ℕ} :
    position ∈ subsumedPositions sanitize deduped ↔ position ∈ [] ∨
      ∃ container ∈ deduped.zipIdx, ∃ candidate ∈ deduped.zipIdx,
        candidate.2 = position ∧ Subsumes sanitize container.1.1 candidate.1.1 := by
  unfold subsumedPositions
  apply mem_foldl_iff
  intro subsumed container inside position
  split
  · rename_i empty
    have none (candidate : ChunkView) : ¬ Subsumes sanitize container.1.1 candidate :=
      fun subsumes => subsumes.container_ne empty
    simp [none]
  · exact mem_subsumedBy inside

theorem subsumed_iff {deduped : List (ChunkView × ℕ)} {candidate : (ChunkView × ℕ) × ℕ}
    (there : candidate ∈ deduped.zipIdx) : candidate.2 ∈ subsumedPositions sanitize deduped ↔
      ∃ container ∈ deduped, Subsumes sanitize container.1 candidate.1.1 := by
  rw [mem_subsumedPositions]
  constructor
  · rintro (absurd | ⟨container, inside, other, found, same, subsumes⟩)
    · cases absurd
    · have one : other = candidate := by
        have := List.mem_zipIdx_iff_getElem?.mp found
        have := List.mem_zipIdx_iff_getElem?.mp there
        exact Prod.ext (by simp_all) same
      subst one
      exact ⟨container.1, List.fst_mem_of_mem_zipIdx inside, subsumes⟩
  · rintro ⟨container, inside, subsumes⟩
    obtain ⟨i, at_⟩ := List.mem_iff_getElem?.mp inside
    exact .inr ⟨(container, i), List.mem_zipIdx_iff_getElem?.mpr at_, candidate, there, rfl, subsumes⟩

variable (sanitize) in
/-- The pairs of view and index that are left. -/
def keptPairs (views : List ChunkView) : List (ChunkView × ℕ) :=
  uncovered (fun container candidate => Subsumes sanitize container.1 candidate.1)
    (firsts (fun pair => pair.1.sourceKey) [] views.zipIdx)

theorem canonicalizeChunkViews_eq (views : List ChunkView) :
    (canonicalizeChunkViews sanitize views).1 = (keptPairs sanitize views).map Prod.fst ∧
      (canonicalizeChunkViews sanitize views).2.keptIndexes = (keptPairs sanitize views).map Prod.snd := by
  have kept (deduped : List (ChunkView × ℕ)) :
      (deduped.zipIdx.filter fun pair => pair.2 ∉ subsumedPositions sanitize deduped).map Prod.fst =
        uncovered (fun container candidate => Subsumes sanitize container.1 candidate.1) deduped := by
    have positions : (deduped.zipIdx.filter fun pair => pair.2 ∉ subsumedPositions sanitize deduped) =
        deduped.zipIdx.filter ((fun view => decide (∀ container ∈ deduped, ¬ Subsumes sanitize container.1 view.1))
          ∘ Prod.fst) := by
      apply List.filter_congr
      intro candidate there
      have left : candidate.2 ∈ subsumedPositions sanitize deduped ↔ _ := subsumed_iff there
      rw [Function.comp, decide_eq_decide, left]
      push Not
      rfl
    rw [positions, ← List.filter_map, List.zipIdx_map_fst, uncovered]
  simp only [canonicalizeChunkViews, collapseExact_eq, keptPairs, kept, and_self]

/-! ## What is kept -/

theorem keys_zipIdx (views : List ChunkView) :
    (views.zipIdx.map fun pair => pair.1.sourceKey) = views.map ChunkView.sourceKey := by
  calc views.zipIdx.map (fun pair => pair.1.sourceKey)
      = (views.zipIdx.map Prod.fst).map ChunkView.sourceKey := by rw [List.map_map]; rfl
    _ = views.map ChunkView.sourceKey := by rw [List.zipIdx_map_fst]

theorem mem_keptPairs {views : List ChunkView} {pair : ChunkView × ℕ} (kept : pair ∈ keptPairs sanitize views) :
    views[pair.2]? = some pair.1 :=
  List.mem_zipIdx_iff_getElem?.mp ((firsts_sublist _ _ _).subset ((uncovered_sublist _ _).subset kept))

theorem keptPairs_increasing (views : List ChunkView) :
    ((keptPairs sanitize views).map Prod.snd).Pairwise (· < ·) := by
  have inOrder : (keptPairs sanitize views).Sublist views.zipIdx :=
    (uncovered_sublist _ _).trans (firsts_sublist _ _ _)
  have indexes : (views.zipIdx.map Prod.snd).Pairwise (· < ·) := by
    rw [List.zipIdx_map_snd]
    exact List.pairwise_lt_range'
  exact indexes.sublist (inOrder.map Prod.snd)

theorem keptPairs_keys_nodup (views : List ChunkView) :
    ((keptPairs sanitize views).map fun pair => pair.1.sourceKey).Nodup :=
  firsts_nodup.sublist ((uncovered_sublist _ _).map _)

/-- Every pair of view and index has its text inside that of one that is left. -/
theorem exists_kept {views : List ChunkView}
    (determined : ∀ view ∈ views, ∀ other ∈ views, view.contentHash = other.contentHash → view.text = other.text)
    {view : ChunkView} (mem : view ∈ views) :
    ∃ pair ∈ keptPairs sanitize views, Substring (view.sanitized sanitize) (pair.1.sanitized sanitize) := by
  obtain ⟨i, at_⟩ := List.mem_iff_getElem?.mp mem
  obtain ⟨first, there, alike⟩ := exists_first (fun pair : ChunkView × ℕ => pair.1.sourceKey)
    (List.mem_zipIdx_iff_getElem?.mpr at_ : (view, i) ∈ views.zipIdx)
  have inside : first.1 ∈ views := List.fst_mem_of_mem_zipIdx ((firsts_sublist _ _ _).subset there)
  have sameHash : first.1.contentHash = view.contentHash := congrArg SourceKey.contentHash alike
  have sameText : first.1.sanitized sanitize = view.sanitized sanitize := by
    rw [ChunkView.sanitized, ChunkView.sanitized, determined first.1 inside view mem sameHash]
  obtain ⟨pair, kept, covers⟩ := exists_uncovered
    (fun container candidate : ChunkView × ℕ => Subsumes sanitize container.1 candidate.1)
    (fun pair => not_subsumes_self pair.1) (fun _ _ _ => Subsumes.trans) there
  refine ⟨pair, kept, ?_⟩
  rw [← sameText]
  rcases covers with rfl | subsumes
  · exact Substring.refl _
  · exact subsumes.2.2

/-- Nothing is dropped from views that are apart and of which none subsumes another. -/
theorem keptPairs_eq_self {views : List ChunkView} (nodup : (views.map ChunkView.sourceKey).Nodup)
    (apart : ∀ container ∈ views, ∀ candidate ∈ views, ¬ Subsumes sanitize container candidate) :
    keptPairs sanitize views = views.zipIdx := by
  have all : firsts (fun pair : ChunkView × ℕ => pair.1.sourceKey) [] views.zipIdx = views.zipIdx := by
    apply firsts_eq_self
    · rw [keys_zipIdx]
      exact nodup
    · simp
  rw [keptPairs, all, uncovered, List.filter_eq_self]
  intro candidate there
  rw [decide_eq_true_eq]
  intro container inside
  exact apart container.1 (List.fst_mem_of_mem_zipIdx inside) candidate.1 (List.fst_mem_of_mem_zipIdx there)

theorem keptPairs_keys_subset {views views' : List ChunkView} (perm : views.Perm views')
    (determined : ∀ view ∈ views, ∀ other ∈ views, view.contentHash = other.contentHash → view.text = other.text)
    {key : SourceKey} (mem : key ∈ (keptPairs sanitize views).map fun pair => pair.1.sourceKey) :
    key ∈ (keptPairs sanitize views').map fun pair => pair.1.sourceKey := by
  refine mem_keys_uncovered ?_ ?_ mem
  · intro a memA b memB alikeAB c memC d memD alikeCD
    have inside {pair : ChunkView × ℕ}
        (there : pair ∈ firsts (fun pair => pair.1.sourceKey) [] views.zipIdx) : pair.1 ∈ views :=
      List.fst_mem_of_mem_zipIdx ((firsts_sublist _ _ _).subset there)
    have inside' {pair : ChunkView × ℕ}
        (there : pair ∈ firsts (fun pair => pair.1.sourceKey) [] views'.zipIdx) : pair.1 ∈ views :=
      perm.mem_iff.mpr (List.fst_mem_of_mem_zipIdx ((firsts_sublist _ _ _).subset there))
    exact Subsumes.congr alikeAB alikeCD
      (determined _ (inside memA) _ (inside' memB) (congrArg SourceKey.contentHash alikeAB))
      (determined _ (inside memC) _ (inside' memD) (congrArg SourceKey.contentHash alikeCD))
  · intro key
    rw [mem_keys_firsts, mem_keys_firsts, keys_zipIdx, keys_zipIdx, (perm.map ChunkView.sourceKey).mem_iff]

variable (sanitize) in
/-- The policy loses no text, keeps the order, has nothing left to drop, and does not depend on the
order of its input but for the choice among exact duplicates. -/
theorem canonicalizeChunkViews_canonical (views : List ChunkView)
    (determined : ∀ view ∈ views, ∀ other ∈ views, view.contentHash = other.contentHash → view.text = other.text) :
    (∀ view ∈ views, ∃ kept ∈ (canonicalizeChunkViews sanitize views).1,
        Substring (view.sanitized sanitize) (kept.sanitized sanitize))
      ∧ (canonicalizeChunkViews sanitize views).2.keptIndexes.Pairwise (· < ·)
      ∧ (canonicalizeChunkViews sanitize views).2.keptIndexes.map (views[·]?) =
          (canonicalizeChunkViews sanitize views).1.map some
      ∧ (canonicalizeChunkViews sanitize (canonicalizeChunkViews sanitize views).1).1 =
          (canonicalizeChunkViews sanitize views).1
      ∧ ∀ views', views.Perm views' → ((canonicalizeChunkViews sanitize views).1.map ChunkView.sourceKey).Perm
          ((canonicalizeChunkViews sanitize views').1.map ChunkView.sourceKey) := by
  simp only [canonicalizeChunkViews_eq]
  refine ⟨?_, keptPairs_increasing views, ?_, ?_, ?_⟩
  · intro view mem
    obtain ⟨pair, kept, covers⟩ := exists_kept determined mem
    exact ⟨pair.1, List.mem_map_of_mem kept, covers⟩
  · rw [List.map_map, List.map_map]
    apply List.map_congr_left
    intro pair kept
    exact mem_keptPairs kept
  · rw [keptPairs_eq_self, List.zipIdx_map_fst]
    · rw [List.map_map]
      exact keptPairs_keys_nodup views
    · intro container inside candidate there
      obtain ⟨pair, kept, rfl⟩ := List.mem_map.mp inside
      obtain ⟨pair', kept', rfl⟩ := List.mem_map.mp there
      exact (mem_uncovered.mp kept').2 pair ((uncovered_sublist _ _).subset kept)
  · intro views' perm
    rw [List.map_map, List.map_map]
    apply (List.perm_ext_iff_of_nodup (keptPairs_keys_nodup views) (keptPairs_keys_nodup views')).mpr
    intro key
    constructor
    · exact keptPairs_keys_subset perm determined
    · apply keptPairs_keys_subset perm.symm
      intro view mem other mem'
      exact determined view (perm.mem_iff.mpr mem) other (perm.mem_iff.mpr mem')

end Policy

/-- The shorter of two overlapping chunks goes, and its text is still there. -/
theorem canonicalizeChunkViews_canonical_overlap :
    ∃ kept ∈ (canonicalizeChunkViews id [⟨"sha256:b", 2, 3, 1, 1, 0, 0, "redaction.v2", "beta gamma"⟩,
        ⟨"sha256:a", 1, 4, 1, 1, 0, 0, "redaction.v2", "alpha beta gamma delta"⟩]).1,
      Substring "beta gamma" (kept.sanitized id) :=
  (canonicalizeChunkViews_canonical id [⟨"sha256:b", 2, 3, 1, 1, 0, 0, "redaction.v2", "beta gamma"⟩,
    ⟨"sha256:a", 1, 4, 1, 1, 0, 0, "redaction.v2", "alpha beta gamma delta"⟩] (by decide)).1
      ⟨"sha256:b", 2, 3, 1, 1, 0, 0, "redaction.v2", "beta gamma"⟩ (by decide)

end Neurons.SessionMemory
