import Mathlib.Algebra.BigOperators.Group.List.Basic
import Mathlib.Algebra.Field.Basic
import Mathlib.Algebra.Field.Rat
import Mathlib.Data.Rat.Sqrt
import Mathlib.Tactic.NormNum
import Neurons.Embedding.Canonical
import Neurons.Lib.FifoTable

/-! # Bounded embeddings with chunk receipts

`rag_ingress/pg_embedding_chunks.py`: the embedding of a text is the mean of those of its chunks. An
attempt may stop between any two chunks; its sum and position are kept in a table of bounded size, the
vectors of the chunks in another, and both are shared by all texts.
-/

namespace Neurons.Embedding.BoundedChunks

open Neurons.Lib
open Neurons.Lib.Utf8
open Neurons.Lib.FifoTable

/-! ## Chunks -/

def chunkBytes : ℕ := 8192

/-- The pieces of the bytes of one slice, with their sizes; none where Python raises or does not end. -/
def pieces (data : List UInt8) : Option (List (String × ℕ)) :=
  if data = [] then some []
  else
    let stop := chunkEnd data chunkBytes 0
    if stop = 0 then none
    else do
      let chunk ← decode (data.take stop)
      return (String.ofList chunk, stop) :: (← pieces (data.drop stop))
termination_by data.length
decreasing_by
  rw [List.length_drop]
  have filled : 0 < data.length := List.length_pos_iff.mpr (by assumption)
  omega

/-- `text[offset:offset + CHUNK_BYTES]` for the offsets in `range(0, len(text), CHUNK_BYTES)` -/
def slices (text : List Char) : List (List Char) :=
  (List.range ((text.length + chunkBytes - 1) / chunkBytes)).map fun k => (text.drop (k * chunkBytes)).take chunkBytes

def iterEmbeddingChunks (text : String) : Option (List (String × ℕ)) := do
  return (← (slices text.toList).mapM fun slice => pieces (encode slice)).flatten

/-- What the chunks of a text are: none empty, each as large as its weight says and within the limit. -/
def Sized (chunks : List (String × ℕ)) : Prop :=
  ∀ chunk ∈ chunks, chunk.1 ≠ "" ∧ chunk.2 = utf8Length chunk.1 ∧ chunk.2 ≤ chunkBytes

theorem Sized.append {first second : List (String × ℕ)} (one : Sized first) (two : Sized second) :
    Sized (first ++ second) := by
  intro chunk mem
  rcases List.mem_append.mp mem with mem | mem
  · exact one chunk mem
  · exact two chunk mem

/-- The text of chunks one after another. -/
def joined (chunks : List (String × ℕ)) : List Char := chunks.flatMap (fun chunk => chunk.1.toList)

theorem joined_append (first second : List (String × ℕ)) : joined (first ++ second) = joined first ++ joined second :=
  List.flatMap_append

theorem pieces_encode (text : List Char) : ∃ chunks, pieces (encode text) = some chunks ∧ Sized chunks ∧
    joined chunks = text := by
  induction size : text.length using Nat.strong_induction_on generalizing text with
  | _ n ih =>
      by_cases empty : text = []
      · subst empty
        exact ⟨[], by rw [encode_nil, pieces, if_pos rfl], nofun, rfl⟩
      · have bytes : encode text ≠ [] := fun blank => empty (encode_eq_nil.mp blank)
        have inside : 0 < (encode text).length := List.length_pos_iff.mpr bytes
        have enough : 4 ≤ chunkBytes := by decide
        obtain ⟨⟨front, behind, split, stop⟩, progress, fits, -⟩ :=
          chunkEnd_encode enough (.start text) inside
        have filled : front ≠ [] := by
          intro blank
          rw [blank, encode_nil, List.length_nil] at stop
          omega
        have cut : encode text = encode front ++ encode behind := by rw [split, encode_append]
        have shorter : behind.length < n := by
          have longer := List.length_pos_iff.mpr filled
          rw [← size, split, List.length_append]
          omega
        obtain ⟨chunks, done, sized, whole⟩ := ih _ shorter behind rfl
        refine ⟨(String.ofList front, (encode front).length) :: chunks, ?_, ?_, ?_⟩
        · rw [pieces, if_neg bytes]
          simp only [← stop, if_neg (show ¬ (encode front).length = 0 by omega)]
          rw [cut, List.take_left, List.drop_left, decode_encode, done]
          rfl
        · intro chunk mem
          rcases List.mem_cons.mp mem with rfl | mem
          · refine ⟨?_, by simp [utf8Length], by simpa only [stop, Nat.zero_add] using fits⟩
            intro blank
            exact filled (by simpa using congrArg String.toList blank)
          · exact sized chunk mem
        · rw [split, ← whole]
          simp [joined]

theorem flatten_slices (text : List Char) : (slices text).flatten = text := by
  have part (n : ℕ) : ((List.range n).map fun k =>
      (text.drop (k * chunkBytes)).take chunkBytes).flatten = text.take (n * chunkBytes) := by
    induction n with
    | zero => simp
    | succ n ih =>
        rw [List.range_succ, List.map_append, List.flatten_append, ih, Nat.succ_mul, List.take_add]
        simp
  rw [slices, part]
  apply List.take_of_length_le
  have big : chunkBytes = 8192 := rfl
  rw [big]
  omega

/-- The chunks of a text are never empty, fit and are the text one after another. -/
theorem iterEmbeddingChunks_eq_some (text : String) : ∃ chunks, iterEmbeddingChunks text = some chunks ∧
    Sized chunks ∧ joined chunks = text.toList := by
  have each (parts : List (List Char)) : ∃ chunks, (parts.mapM fun slice => pieces (encode slice)) = some chunks ∧
      Sized chunks.flatten ∧ joined chunks.flatten = parts.flatten := by
    induction parts with
    | nil => exact ⟨[], rfl, nofun, rfl⟩
    | cons slice rest ih =>
        obtain ⟨chunks, done, sized, whole⟩ := pieces_encode slice
        obtain ⟨more, doneMore, sizedMore, wholeMore⟩ := ih
        refine ⟨chunks :: more, ?_, sized.append sizedMore, ?_⟩
        · rw [List.mapM_cons, done, doneMore]
          rfl
        · rw [List.flatten_cons, joined_append, whole, wholeMore, List.flatten_cons]
  obtain ⟨chunks, done, sized, whole⟩ := each (slices text.toList)
  refine ⟨chunks.flatten, ?_, sized, by rw [whole, flatten_slices]⟩
  rw [iterEmbeddingChunks, done]
  rfl

/-! ## Attempts -/

inductive EmbedError where
  /-- `InvalidProjectionText` -/
  | invalidTextNul
  /-- `EmbeddingChunksPending` -/
  | chunksPending
  | valueError (message : String)
  /-- `struct.pack` of a number that is too large for its format -/
  | overflow
  | unicode
  /-- what the provider raises -/
  | provider
  deriving DecidableEq, Repr

/-- The provider, the form of the stored vectors and the digests. -/
structure Host (K : Type*) where
  size : ℕ
  embed : String → List K
  /-- what a vector is read back as; none where it cannot be stored -/
  stored : List K → Option (List K)
  sqrt : K → K
  scope : String
  hexdigest : String → String
  /-- the content hash that goes with a text -/
  contentHash : String → String

/-- The two tables, in the order of their row ids. -/
structure Cache (K : Type*) where
  vectors : List (String × List K)
  progress : List (String × ℕ × List K)

def Cache.empty {K : Type*} : Cache K := ⟨[], []⟩

/-- An object on the cache, with what is left of its cycle budget. -/
structure Embedder where
  remaining : ℕ
  sessionBudget : ℕ
  cacheEntries : ℕ

/-- `BoundedPgEmbedding.__init__` -/
def Embedder.init (cycleBudget sessionBudget cacheEntries : ℕ) : Except EmbedError Embedder :=
  if min (min cycleBudget sessionBudget) cacheEntries < 1 then
    .error (.valueError "PG embedding budgets must be positive")
  else .ok ⟨cycleBudget, sessionBudget, cacheEntries⟩

/-- The variables of an attempt. -/
structure Session (K : Type*) where
  cache : Cache K
  remaining : ℕ
  requested : ℕ
  completed : ℕ
  total : List K

section Model

variable {K : Type*} [DivisionRing K] [DecidableEq K] (host : Host K)

def Host.progressKey (text : String) : String := host.hexdigest (host.scope ++ "\n" ++ host.contentHash text)

def Host.digest (chunk : String) : String := host.hexdigest (host.scope ++ "\n" ++ chunk)

/-- `_validated` -/
def validated (vector : List K) : Except EmbedError (List K) :=
  if vector.length ≠ host.size ∨ ∀ value ∈ vector, value = 0 then
    .error (.valueError "PG chunk embedding has invalid dimensions or norm")
  else .ok vector

/-- `total[index] += value * weight` for the values of a vector -/
def addWeighted (total vector : List K) (weight : ℕ) : List K :=
  total.zipWith (fun sum value => sum + value * weight) vector

/-- The vector of a chunk, from the table or from the provider; an attempt that stops leaves its variables. -/
def chunkVector (e : Embedder) (fails : Bool) (chunk : String) (s : Session K) :
    Except (EmbedError × Session K) (List K × Session K) :=
  match s.cache.vectors.lookup (host.digest chunk) with
  | none =>
      if s.remaining = 0 ∨ e.sessionBudget ≤ s.requested then .error (.chunksPending, s)
      else
        let s := { s with remaining := s.remaining - 1, requested := s.requested + 1 }
        if fails then .error (.provider, s)
        else
          match validated host (host.embed chunk) with
          | .error error => .error (error, s)
          | .ok vector =>
              match host.stored vector with
              | none => .error (.overflow, s)
              | some blob =>
                  let vectors := evict e.cacheEntries (insertOrIgnore (host.digest chunk) blob s.cache.vectors)
                  .ok (vector, { s with cache := { s.cache with vectors } })
  | some blob =>
      match validated host blob with
      | .error error => .error (error, s)
      | .ok vector => .ok (vector, s)

/-- One round of the loop over the chunks. -/
def embedChunk (e : Embedder) (fails : ℕ → Bool) (key : String) (s : Session K) (item : (String × ℕ) × ℕ) :
    Except (EmbedError × Session K) (Session K) :=
  if item.2 < s.completed then .ok s
  else do
    let (vector, s) ← chunkVector host e (fails item.2) item.1.1 s
    let total := addWeighted s.total vector item.1.2
    let completed := s.completed + 1
    let progress := evict e.cacheEntries (insertOrReplace key (completed, total) s.cache.progress)
    return { s with cache := { s.cache with progress }, completed, total }

/-- The vector that is returned. -/
def aggregate (s : Session K) : Except EmbedError (List K) :=
  if s.completed = 0 then .error (.valueError "PG embedding input is empty")
  else
    let norm := host.sqrt (s.total.map fun value => value * value).sum
    if norm = 0 then .error (.valueError "PG aggregate embedding has invalid norm")
    else .ok (s.total.map fun value => value / norm)

/-- What an attempt answers and leaves. -/
structure Outcome (K : Type*) where
  result : Except EmbedError (List K)
  embedder : Embedder
  cache : Cache K

/-- `_embed_locked` -/
def embedLocked (e : Embedder) (fails : ℕ → Bool) (text : String) (cache : Cache K) : Outcome K :=
  if '\x00' ∈ text.toList then ⟨.error .invalidTextNul, e, cache⟩
  else
    let key := host.progressKey text
    let previous := (cache.progress.lookup key).getD (0, List.replicate host.size 0)
    match iterEmbeddingChunks text with
    | none => ⟨.error .unicode, e, cache⟩
    | some chunks =>
        match chunks.zipIdx.foldlM (embedChunk host e fails key) ⟨cache, e.remaining, 0, previous.1, previous.2⟩ with
        | .error (error, s) => ⟨.error error, { e with remaining := s.remaining }, s.cache⟩
        | .ok s => ⟨aggregate host s, { e with remaining := s.remaining }, s.cache⟩

/-- `embed`: the lock may be held by another process. -/
def embed (e : Embedder) (locked : Bool) (fails : ℕ → Bool) (text : String) (cache : Cache K) : Outcome K :=
  if locked then ⟨.error .chunksPending, e, cache⟩ else embedLocked host e fails text cache

/-! ## Runs -/

/-- What happens to a cache: an object is made, or one of those there are embeds a text, and the provider
    may fail at any chunk. -/
inductive Event where
  | init (cycleBudget sessionBudget cacheEntries : ℕ)
  | embed (embedder : ℕ) (locked : Bool) (fails : ℕ → Bool) (text : String)

structure State (K : Type*) where
  cache : Cache K
  embedders : List Embedder

def State.start {K : Type*} : State K := ⟨.empty, []⟩

def step (s : State K) : Event → State K
  | .init cycleBudget sessionBudget cacheEntries =>
      match Embedder.init cycleBudget sessionBudget cacheEntries with
      | .error _ => s
      | .ok e => { s with embedders := s.embedders ++ [e] }
  | .embed i locked fails text =>
      match s.embedders[i]? with
      | none => s
      | some e =>
          let outcome := embed host e locked fails text s.cache
          ⟨outcome.cache, s.embedders.set i outcome.embedder⟩

def run (events : List Event) : State K := events.foldl (step host) .start

end Model

section Sums

variable {K : Type*} [DivisionRing K] (host : Host K)

/-! ## Sums of parts -/

/-- Each coordinate is summed over the vectors with their weights. -/
def weightedSum (size : ℕ) (parts : List (List K × ℕ)) : List K :=
  (List.range size).map fun i => (parts.map fun part => part.1.getD i 0 * (part.2 : K)).sum

theorem weightedSum_nil (size : ℕ) : weightedSum size [] = List.replicate size (0 : K) := by
  simp [weightedSum]

theorem addWeighted_weightedSum {size : ℕ} {parts : List (List K × ℕ)} {vector : List K} {weight : ℕ}
    (sized : vector.length = size) :
    addWeighted (weightedSum size parts) vector weight = weightedSum size (parts ++ [(vector, weight)]) := by
  apply List.ext_getElem
  · simp [addWeighted, weightedSum, sized]
  · intro i left right
    have inside : i < vector.length := by
      simp only [weightedSum, List.length_map, List.length_range] at right
      omega
    simp [addWeighted, weightedSum, inside]

/-! ## What the tables hold -/

/-- A chunk of one of the texts. -/
def IsChunk (texts : List String) (chunk : String) : Prop :=
  ∃ text ∈ texts, ∃ chunks, iterEmbeddingChunks text = some chunks ∧ chunk ∈ chunks.map Prod.fst

/-- The content hashes tell the texts apart, and the digests their chunks. -/
structure Told (texts : List String) : Prop where
  text : ∀ text ∈ texts, ∀ other ∈ texts, host.progressKey text = host.progressKey other → text = other
  chunk : ∀ chunk other, IsChunk texts chunk → IsChunk texts other → host.digest chunk = host.digest other →
    chunk = other

/-- A part of the sum: the vector of the chunk, as the provider gives it or as it is stored, and the bytes
    of the chunk. -/
def Part (chunk : String × ℕ) (part : List K × ℕ) : Prop :=
  (part.1 = host.embed chunk.1 ∨ host.stored (host.embed chunk.1) = some part.1) ∧ part.2 = chunk.2

/-- The total is the sum over the first chunks, each of them once. -/
def Counts (chunks : List (String × ℕ)) (completed : ℕ) (total : List K) : Prop :=
  completed ≤ chunks.length ∧
    ∃ parts, List.Forall₂ (Part host) (chunks.take completed) parts ∧ total = weightedSum host.size parts

structure Sound (texts : List String) (cache : Cache K) : Prop where
  vectors : Holds (fun key blob => ∃ chunk, IsChunk texts chunk ∧ key = host.digest chunk ∧
    host.stored (host.embed chunk) = some blob) cache.vectors
  progress : Holds (fun key row => ∃ text ∈ texts, key = host.progressKey text ∧
    ∃ chunks, iterEmbeddingChunks text = some chunks ∧ Counts host chunks row.1 row.2) cache.progress

variable {host} {texts : List String}

theorem sound_empty : Sound host texts Cache.empty := ⟨holds_nil, holds_nil⟩

theorem counts_zero (chunks : List (String × ℕ)) : Counts host chunks 0 (List.replicate host.size 0) :=
  ⟨Nat.zero_le _, [], .nil, (weightedSum_nil _).symm⟩

/-- The next chunk is added. -/
theorem Counts.add {chunks : List (String × ℕ)} {completed : ℕ} {total vector : List K} {chunk : String × ℕ}
    (counts : Counts host chunks completed total) (next : chunks[completed]? = some chunk)
    (sized : vector.length = host.size)
    (taken : vector = host.embed chunk.1 ∨ host.stored (host.embed chunk.1) = some vector) :
    Counts host chunks (completed + 1) (addWeighted total vector chunk.2) := by
  obtain ⟨-, parts, each, rfl⟩ := counts
  obtain ⟨inside, here⟩ := List.getElem?_eq_some_iff.mp next
  refine ⟨inside, parts ++ [(vector, chunk.2)], ?_, addWeighted_weightedSum sized⟩
  rw [List.take_succ_eq_append_getElem inside, here]
  exact List.rel_append each (.cons ⟨taken, rfl⟩ .nil)

end Sums

section Runs

variable {K : Type*} [DivisionRing K] [DecidableEq K] {host : Host K} {texts : List String} {e : Embedder}

/-! ## One attempt -/

theorem validated_eq_ok {vector values : List K} (done : validated host vector = .ok values) :
    values = vector ∧ vector.length = host.size := by
  unfold validated at done
  split at done
  · cases done
  · next good =>
      cases done
      exact ⟨rfl, not_not.mp fun other => good (.inl other)⟩

/-- The vector of a chunk is the provider's or the stored one, and only its receipt is added. -/
theorem chunkVector_eq_ok {fails : Bool} {chunk : String} {s s' : Session K} {vector : List K}
    (told : Told host texts) (known : IsChunk texts chunk) (sound : Sound host texts s.cache)
    (done : chunkVector host e fails chunk s = .ok (vector, s')) :
    vector.length = host.size ∧ (vector = host.embed chunk ∨ host.stored (host.embed chunk) = some vector) ∧
      s'.completed = s.completed ∧ s'.total = s.total ∧ Sound host texts s'.cache := by
  unfold chunkVector at done
  cases found : s.cache.vectors.lookup (host.digest chunk) with
  | some blob =>
      obtain ⟨other, itsChunk, sameDigest, isStored⟩ := sound.vectors.lookup found
      have same := told.chunk _ _ known itsChunk sameDigest
      subst same
      cases checked : validated host blob with
      | error error => simp [found, checked] at done
      | ok values =>
          simp only [found, checked, Except.ok.injEq, Prod.mk.injEq] at done
          obtain ⟨rfl, rfl⟩ := done
          obtain ⟨rfl, sized⟩ := validated_eq_ok checked
          exact ⟨sized, .inr isStored, rfl, rfl, sound⟩
  | none =>
      simp only [found] at done
      split at done
      · cases done
      · split at done
        · cases done
        · cases checked : validated host (host.embed chunk) with
          | error error => simp [checked] at done
          | ok values =>
              obtain ⟨rfl, sized⟩ := validated_eq_ok checked
              cases packed : host.stored (host.embed chunk) with
              | none => simp [checked, packed] at done
              | some blob =>
                  simp only [checked, packed, Except.ok.injEq, Prod.mk.injEq] at done
                  obtain ⟨rfl, rfl⟩ := done
                  have kept := (sound.vectors.insertOrIgnore ⟨chunk, known, rfl, packed⟩).evict e.cacheEntries
                  exact ⟨sized, .inl rfl, rfl, rfl, kept, sound.progress⟩

/-- An attempt that stops leaves the tables. -/
theorem chunkVector_eq_error {fails : Bool} {chunk : String} {s s' : Session K} {error : EmbedError}
    (done : chunkVector host e fails chunk s = .error (error, s')) : s'.cache = s.cache := by
  unfold chunkVector at done
  split at done
  · split at done
    · cases done
      rfl
    · split at done
      · cases done
        rfl
      · split at done
        · cases done
          rfl
        · split at done
          · cases done
            rfl
          · cases done
  · split at done
    · cases done
      rfl
    · cases done

/-- The rounds before a position are done, and what they counted is a sum over the first chunks. -/
structure Session.Reached (host : Host K) (texts : List String) (chunks : List (String × ℕ)) (position : ℕ)
    (s : Session K) : Prop where
  sound : Sound host texts s.cache
  counts : Counts host chunks s.completed s.total
  position : position ≤ s.completed

/-- A round takes the position one further, and counts its chunk unless it is counted already. -/
theorem embedChunk_eq_ok {fails : ℕ → Bool} {text : String} {chunks : List (String × ℕ)} {chunk : String × ℕ}
    {position : ℕ} {s s' : Session K} (told : Told host texts) (mem : text ∈ texts)
    (cut : iterEmbeddingChunks text = some chunks) (here : chunks[position]? = some chunk)
    (reached : s.Reached host texts chunks position)
    (done : embedChunk host e fails (host.progressKey text) s (chunk, position) = .ok s') :
    s'.Reached host texts chunks (position + 1) := by
  unfold embedChunk at done
  by_cases counted : position < s.completed
  · simp only [counted, if_true, Except.ok.injEq] at done
    subst done
    exact ⟨reached.sound, reached.counts, counted⟩
  · have behind := reached.position
    have at_ : s.completed = position := by omega
    simp only [counted, if_false] at done
    have known : IsChunk texts chunk.1 :=
      ⟨text, mem, chunks, cut, List.mem_map_of_mem (List.mem_of_getElem? here)⟩
    cases taken : chunkVector host e (fails position) chunk.1 s with
    | error stopped => simp [taken, bind, Except.bind] at done
    | ok result =>
        obtain ⟨vector, mid⟩ := result
        obtain ⟨sized, isPart, completed, total, sound⟩ := chunkVector_eq_ok told known reached.sound taken
        simp only [taken, bind, Except.bind, pure, Except.pure, Except.ok.injEq] at done
        subst done
        have counts : Counts host chunks (mid.completed + 1) (addWeighted mid.total vector chunk.2) := by
          rw [completed, total]
          exact reached.counts.add (at_ ▸ here) sized isPart
        have row : ∃ text' ∈ texts, host.progressKey text = host.progressKey text' ∧
            ∃ chunks, iterEmbeddingChunks text' = some chunks ∧
              Counts host chunks (mid.completed + 1) (addWeighted mid.total vector chunk.2) :=
          ⟨text, mem, rfl, chunks, cut, counts⟩
        have further : position + 1 ≤ mid.completed + 1 := by omega
        exact ⟨⟨sound.vectors, (sound.progress.insertOrReplace row).evict e.cacheEntries⟩, counts, further⟩

theorem embedChunk_eq_error {fails : ℕ → Bool} {key : String} {item : (String × ℕ) × ℕ} {s s' : Session K}
    {error : EmbedError} (done : embedChunk host e fails key s item = .error (error, s')) : s'.cache = s.cache := by
  unfold embedChunk at done
  split at done
  · cases done
  · cases taken : chunkVector host e (fails item.2) item.1.1 s with
    | error stopped =>
        simp only [taken, bind, Except.bind, Except.error.injEq] at done
        subst done
        exact chunkVector_eq_error taken
    | ok result => simp [taken, bind, Except.bind, pure, Except.pure] at done

/-- The loop from a position on. -/
theorem loop_reached (e : Embedder) (fails : ℕ → Bool) {text : String} {chunks : List (String × ℕ)} (told : Told host texts)
    (mem : text ∈ texts) (cut : iterEmbeddingChunks text = some chunks) (rest : List (String × ℕ)) {position : ℕ}
    {s : Session K} (split : chunks.drop position = rest) (reached : s.Reached host texts chunks position) :
    match (rest.zipIdx position).foldlM (embedChunk host e fails (host.progressKey text)) s with
    | .ok s' => s'.Reached host texts chunks chunks.length
    | .error (_, s') => Sound host texts s'.cache := by
  induction rest generalizing position s with
  | nil =>
      have whole : chunks.length ≤ position := List.drop_eq_nil_iff.mp split
      exact ⟨reached.sound, reached.counts, whole.trans reached.position⟩
  | cons chunk rest ih =>
      have here : chunks[position]? = some chunk := by
        rw [← List.head?_drop, split]
        rfl
      have behind : chunks.drop (position + 1) = rest := by
        rw [← List.tail_drop, split]
        rfl
      rw [List.zipIdx_cons, List.foldlM_cons]
      cases done : embedChunk host e fails (host.progressKey text) s (chunk, position) with
      | error stopped =>
          obtain ⟨error, s'⟩ := stopped
          have kept := embedChunk_eq_error done
          simp only [bind, Except.bind, kept]
          exact reached.sound
      | ok s' => exact ih behind (embedChunk_eq_ok told mem cut here reached done)

/-- An attempt keeps the tables sound, and what it returns is the aggregate of a sum over all chunks of the text. -/
theorem embedLocked_spec {fails : ℕ → Bool} {text : String} {cache : Cache K} (told : Told host texts)
    (mem : text ∈ texts) (sound : Sound host texts cache) :
    Sound host texts (embedLocked host e fails text cache).cache ∧
      ∀ vector, (embedLocked host e fails text cache).result = .ok vector →
        ∃ chunks s, iterEmbeddingChunks text = some chunks ∧ Counts host chunks s.completed s.total ∧
          s.completed = chunks.length ∧ aggregate host s = .ok vector := by
  unfold embedLocked
  split
  · exact ⟨sound, nofun⟩
  · obtain ⟨chunks, cut, -, -⟩ := iterEmbeddingChunks_eq_some text
    simp only [cut]
    have resumed : Counts host chunks
        ((cache.progress.lookup (host.progressKey text)).getD (0, List.replicate host.size 0)).1
        ((cache.progress.lookup (host.progressKey text)).getD (0, List.replicate host.size 0)).2 := by
      cases found : cache.progress.lookup (host.progressKey text) with
      | none => exact counts_zero chunks
      | some row =>
          -- the row is of this very text, so its position is one in these chunks
          obtain ⟨other, isText, sameKey, theirs, cutTheirs, counts⟩ := sound.progress.lookup found
          have same := told.text _ mem _ isText sameKey
          subst same
          rw [cut] at cutTheirs
          cases cutTheirs
          exact counts
    have begun : Session.Reached host texts chunks 0 ⟨cache, e.remaining, 0, _, _⟩ :=
      ⟨sound, resumed, Nat.zero_le _⟩
    have finish := loop_reached e fails told mem cut chunks rfl begun
    split at finish
    · next s' done =>
        simp only [done]
        refine ⟨finish.sound, fun vector returned => ?_⟩
        have all : s'.completed = chunks.length := le_antisymm finish.counts.1 finish.position
        exact ⟨chunks, s', rfl, finish.counts, all, returned⟩
    · next stopped error s' done =>
        simp only [done]
        exact ⟨finish, nofun⟩

/-! ## Attempts one after another -/

def Event.text? : Event → Option String
  | .init _ _ _ => none
  | .embed _ _ _ text => some text

/-- The texts of a run. -/
def textsOf (events : List Event) : List String := events.filterMap Event.text?

theorem embed_sound {locked : Bool} {fails : ℕ → Bool} {text : String} {cache : Cache K} (told : Told host texts)
    (mem : text ∈ texts) (sound : Sound host texts cache) :
    Sound host texts (embed host e locked fails text cache).cache := by
  unfold embed
  split
  · exact sound
  · exact (embedLocked_spec told mem sound).1

theorem step_sound {s : State K} {event : Event} (told : Told host texts) (mem : ∀ text ∈ event.text?, text ∈ texts)
    (sound : Sound host texts s.cache) : Sound host texts (step host s event).cache := by
  cases event with
  | init cycleBudget sessionBudget cacheEntries =>
      simp only [step]
      split <;> exact sound
  | embed i locked fails text =>
      simp only [step]
      split
      · exact sound
      · exact embed_sound told (mem text rfl) sound

/-- The tables stay sound, whoever embeds and however often it stops. -/
theorem run_sound (told : Told host texts) (events : List Event) (mem : ∀ text ∈ textsOf events, text ∈ texts) :
    Sound host texts (run host events).cache := by
  have go (s : State K) (sound : Sound host texts s.cache) :
      Sound host texts (events.foldl (step host) s).cache := by
    induction events generalizing s with
    | nil => exact sound
    | cons event rest ih =>
        have later : ∀ text ∈ textsOf rest, text ∈ texts := by
          intro text isText
          obtain ⟨other, isEvent, its⟩ := List.mem_filterMap.mp isText
          exact mem text (List.mem_filterMap.mpr ⟨other, List.mem_cons_of_mem _ isEvent, its⟩)
        refine ih later _ (step_sound told (fun text its => ?_) sound)
        exact mem text (List.mem_filterMap.mpr ⟨event, List.mem_cons_self, its⟩)
  exact go .start sound_empty

theorem aggregate_eq_ok {s : Session K} {vector : List K} (done : aggregate host s = .ok vector) :
    s.completed ≠ 0 ∧ host.sqrt (s.total.map fun value => value * value).sum ≠ 0 ∧
      vector = s.total.map fun value => value / host.sqrt (s.total.map fun value => value * value).sum := by
  unfold aggregate at done
  split at done
  · cases done
  · next some =>
      simp only at done
      split at done
      · cases done
      · next norm =>
          cases done
          exact ⟨some, norm, rfl⟩

variable (host)

/-- The length of a vector. -/
def norm (vector : List K) : K := host.sqrt (vector.map fun value => value * value).sum

/-- Every text is cut into chunks that are not empty, fit and are the text one after another. Whatever was
    embedded before, and wherever it stopped, what an attempt returns is the normalised sum that counts every
    chunk of its text once with its bytes. -/
theorem embed_counts_every_chunk_once :
    (∀ text, ∃ chunks, iterEmbeddingChunks text = some chunks ∧ Sized chunks ∧ joined chunks = text.toList) ∧
    ∀ (events : List Event) (e : Embedder) (locked : Bool) (fails : ℕ → Bool) (text : String) (vector : List K),
      Told host (text :: textsOf events) →
      (embed host e locked fails text (run host events).cache).result = .ok vector →
      ∃ chunks parts, iterEmbeddingChunks text = some chunks ∧ chunks ≠ [] ∧
        List.Forall₂ (Part host) chunks parts ∧ norm host (weightedSum host.size parts) ≠ 0 ∧
        vector = (weightedSum host.size parts).map fun value => value / norm host (weightedSum host.size parts) := by
  refine ⟨iterEmbeddingChunks_eq_some, ?_⟩
  intro events e locked fails text vector told returned
  have sound : Sound host (text :: textsOf events) (run host events).cache :=
    run_sound told events fun _ mem => List.mem_cons_of_mem _ mem
  have unlocked : (embedLocked host e fails text (run host events).cache).result = .ok vector := by
    unfold embed at returned
    split at returned
    · cases returned
    · exact returned
  obtain ⟨chunks, s, cut, ⟨-, parts, each, total⟩, all, made⟩ :=
    (embedLocked_spec told List.mem_cons_self sound).2 vector unlocked
  obtain ⟨some, length, rfl⟩ := aggregate_eq_ok made
  rw [all, List.take_length] at each
  rw [total] at length ⊢
  refine ⟨chunks, parts, cut, ?_, each, length, rfl⟩
  intro none
  exact some (by rw [all, none, List.length_nil])

end Runs

/-! ## A text of two chunks -/

def unitHost : Host ℚ where
  size := 1
  embed _ := [1]
  stored vector := some vector
  sqrt := Rat.sqrt
  scope := "scope"
  hexdigest text := text
  contentHash text := text

def longChunk : String := String.ofList (List.replicate chunkBytes 'a')

def longText : String := String.ofList (List.replicate chunkBytes 'a' ++ ['b'])

/-- The first attempt may ask the provider once. -/
def longEvents : List Event := [.init 2 1 4, .embed 0 false (fun _ => false) longText]

theorem pieces_of_le {text : List Char} (filled : text ≠ []) (small : (encode text).length ≤ chunkBytes) :
    pieces (encode text) = some [(String.ofList text, (encode text).length)] := by
  have bytes : encode text ≠ [] := fun blank => filled (encode_eq_nil.mp blank)
  have whole : chunkEnd (encode text) chunkBytes 0 = (encode text).length := by
    simp [chunkEnd, small]
  have some := List.length_pos_iff.mpr bytes
  rw [pieces, if_neg bytes]
  simp only [whole, if_neg (show ¬ (encode text).length = 0 by omega), List.take_length, decode_encode, List.drop_length]
  rw [pieces, if_pos rfl]
  rfl

theorem length_encode_replicate (n : ℕ) : (encode (List.replicate n 'a')).length = n := by
  induction n with
  | zero => rfl
  | succ n ih =>
      rw [List.replicate_succ, encode_cons, List.length_append, ih]
      have one : (String.utf8EncodeChar 'a').length = 1 := by decide
      omega

theorem iterEmbeddingChunks_longText : iterEmbeddingChunks longText = some [(longChunk, 8192), ("b", 1)] := by
  have long : pieces (encode (List.replicate chunkBytes 'a')) = some [(longChunk, 8192)] := by
    have size := length_encode_replicate chunkBytes
    have filled : List.replicate chunkBytes 'a' ≠ [] := by
      intro blank
      have none := congrArg List.length blank
      rw [List.length_replicate] at none
      exact absurd none (by decide)
    rw [pieces_of_le filled size.le, size]
    rfl
  have short : pieces (encode ['b']) = some [("b", 1)] := by
    rw [pieces_of_le (by simp) (by decide)]
    rfl
  have parts : slices longText.toList = [List.replicate chunkBytes 'a', ['b']] := by
    have count : ((List.replicate chunkBytes 'a' ++ ['b']).length + chunkBytes - 1) / chunkBytes = 2 := by
      rw [List.length_append, List.length_replicate]
      rfl
    have first : (List.replicate chunkBytes 'a' ++ ['b']).take chunkBytes = List.replicate chunkBytes 'a' :=
      List.take_left' (List.length_replicate)
    have second : (List.replicate chunkBytes 'a' ++ ['b']).drop chunkBytes = ['b'] :=
      List.drop_left' (List.length_replicate)
    rw [longText, String.toList_ofList, slices, count]
    simp only [List.range_succ, List.range_zero, List.nil_append, List.cons_append, List.map_cons, List.map_nil,
      Nat.zero_mul, Nat.one_mul, List.drop_zero, first, second]
    rfl
  rw [iterEmbeddingChunks, parts]
  simp only [List.mapM_cons, List.mapM_nil, long, short]
  rfl

theorem told_unitHost (texts : List String) : Told unitHost texts where
  text text _ other _ same := by
    simpa [Host.progressKey, unitHost] using same
  chunk chunk other _ _ same := by
    simpa [Host.digest, unitHost] using same

theorem unitHost_taken (s : Session ℚ) (e : Embedder) (chunk : String)
    (unknown : s.cache.vectors.lookup (unitHost.digest chunk) = none)
    (may : s.remaining ≠ 0 ∧ s.requested < e.sessionBudget) :
    chunkVector unitHost e false chunk s = .ok ([1], { s with
      cache := { s.cache with
        vectors := evict e.cacheEntries (insertOrIgnore (unitHost.digest chunk) [1] s.cache.vectors) }
      remaining := s.remaining - 1
      requested := s.requested + 1 }) := by
  have valid : validated unitHost (unitHost.embed chunk) = .ok [1] := by
    have one : validated unitHost [1] = .ok [1] := by decide +kernel
    exact one
  have stored : unitHost.stored [1] = some [1] := rfl
  have goesOn : ¬ (s.remaining = 0 ∨ e.sessionBudget ≤ s.requested) := by omega
  simp [chunkVector, unknown, if_neg goesOn, valid, stored]

section Resumed

variable {text first second : String}

/-- The tables behind the first chunk. -/
def firstCounted (text first : String) : Cache ℚ :=
  ⟨[(unitHost.digest first, [1])], [(unitHost.progressKey text, 1, [8192])]⟩

theorem second_unknown (apart : second ≠ first) :
    (firstCounted text first).vectors.lookup (unitHost.digest second) = none := by
  have digests : unitHost.digest second ≠ unitHost.digest first := by
    simpa [Host.digest, unitHost] using apart
  simp [firstCounted, List.lookup_cons, beq_eq_false_iff_ne.mpr digests]

theorem round_first : embedChunk unitHost ⟨2, 1, 4⟩ (fun _ => false) (unitHost.progressKey text)
    ⟨Cache.empty, 2, 0, 0, [0]⟩ ((first, 8192), 0) = .ok ⟨firstCounted text first, 1, 1, 1, [8192]⟩ := by
  have unknown : (Cache.empty : Cache ℚ).vectors.lookup (unitHost.digest first) = none := rfl
  have taken := unitHost_taken ⟨Cache.empty, 2, 0, 0, [0]⟩ ⟨2, 1, 4⟩ first unknown (by decide)
  simp only [embedChunk, Nat.lt_irrefl, if_false, taken]
  simp [firstCounted, Cache.empty, insertOrIgnore, insertOrReplace, evict, addWeighted, bind, Except.bind, pure,
    Except.pure]

theorem round_pending (apart : second ≠ first) :
    embedChunk unitHost ⟨2, 1, 4⟩ (fun _ => false) (unitHost.progressKey text)
        ⟨firstCounted text first, 1, 1, 1, [8192]⟩ ((second, 1), 1) =
      .error (.chunksPending, ⟨firstCounted text first, 1, 1, 1, [8192]⟩) := by
  simp [embedChunk, chunkVector, second_unknown apart, bind, Except.bind]

theorem round_second (text : String) (apart : second ≠ first) : ∃ cache,
    embedChunk unitHost ⟨1, 1, 4⟩ (fun _ => false) (unitHost.progressKey text)
        ⟨firstCounted text first, 1, 0, 1, [8192]⟩ ((second, 1), 1) = .ok ⟨cache, 0, 1, 2, [8193]⟩ := by
  have may : 1 ≠ 0 ∧ 0 < 1 := by decide
  have taken := unitHost_taken ⟨firstCounted text first, 1, 0, 1, [8192]⟩ ⟨1, 1, 4⟩ second (second_unknown apart) may
  have sum : addWeighted [(8192 : ℚ)] [1] 1 = [8193] := by
    simp only [addWeighted, List.zipWith_cons_cons, List.zipWith_nil_left]
    norm_num
  simp only [embedChunk, Nat.lt_irrefl, if_false, taken, bind, Except.bind, pure, Except.pure, sum]
  exact ⟨_, rfl⟩

/-- The first attempt stops before the second chunk. -/
theorem embed_pending (plain : '\x00' ∉ text.toList)
    (cut : iterEmbeddingChunks text = some [(first, 8192), (second, 1)]) (apart : second ≠ first) :
    embed unitHost ⟨2, 1, 4⟩ false (fun _ => false) text Cache.empty =
      ⟨.error .chunksPending, ⟨1, 1, 4⟩, firstCounted text first⟩ := by
  have nothing : (Cache.empty : Cache ℚ).progress.lookup (unitHost.progressKey text) = none := rfl
  have zero : List.replicate unitHost.size (0 : ℚ) = [0] := rfl
  have folded : [(first, 8192), (second, 1)].zipIdx.foldlM
      (embedChunk unitHost ⟨2, 1, 4⟩ (fun _ => false) (unitHost.progressKey text)) ⟨Cache.empty, 2, 0, 0, [0]⟩ =
        .error (.chunksPending, ⟨firstCounted text first, 1, 1, 1, [8192]⟩) := by
    simp only [List.zipIdx_cons, List.foldlM_cons, round_first, bind, Except.bind, Nat.zero_add, round_pending apart]
  simp only [embed, embedLocked, Bool.false_eq_true, if_false, if_neg plain, cut, nothing, Option.getD_none, zero, folded]

/-- The second one adds it. -/
theorem embed_resumed (plain : '\x00' ∉ text.toList)
    (cut : iterEmbeddingChunks text = some [(first, 8192), (second, 1)]) (apart : second ≠ first) :
    (embed unitHost ⟨1, 1, 4⟩ false (fun _ => false) text (firstCounted text first)).result = .ok [1] := by
  have counted : (firstCounted text first).progress.lookup (unitHost.progressKey text) = some (1, [8192]) := by
    simp [firstCounted]
  obtain ⟨cache, last⟩ := round_second text apart
  have skipped : embedChunk unitHost ⟨1, 1, 4⟩ (fun _ => false) (unitHost.progressKey text)
      ⟨firstCounted text first, 1, 0, 1, [8192]⟩ ((first, 8192), 0) =
        .ok ⟨firstCounted text first, 1, 0, 1, [8192]⟩ := rfl
  have folded : [(first, 8192), (second, 1)].zipIdx.foldlM
      (embedChunk unitHost ⟨1, 1, 4⟩ (fun _ => false) (unitHost.progressKey text))
      ⟨firstCounted text first, 1, 0, 1, [8192]⟩ = .ok ⟨cache, 0, 1, 2, [8193]⟩ := by
    simp only [List.zipIdx_cons, List.zipIdx_nil, List.foldlM_cons, List.foldlM_nil, skipped, bind, Except.bind,
      Nat.zero_add, last]
    rfl
  have length : unitHost.sqrt ([(8193 : ℚ)].map fun value => value * value).sum = 8193 := by
    simp only [List.map_cons, List.map_nil, List.sum_singleton, unitHost, Rat.sqrt_eq]
    norm_num
  have made : aggregate unitHost ⟨cache, 0, 1, 2, [8193]⟩ = .ok [1] := by
    simp only [aggregate, length]
    norm_num
  simp only [embed, embedLocked, Bool.false_eq_true, if_false, if_neg plain, cut, counted, Option.getD_some, folded, made]

end Resumed

theorem longText_plain : '\x00' ∉ longText.toList := by
  rw [longText, String.toList_ofList, List.mem_append, List.mem_replicate]
  rintro (⟨-, zero⟩ | zero)
  · exact absurd zero (by decide)
  · exact absurd (List.mem_singleton.mp zero) (by decide)

theorem longChunk_apart : "b" ≠ longChunk := by
  intro same
  have one : "b".toList.length = 1 := by decide
  have many : longChunk.toList.length = chunkBytes := by
    rw [longChunk, String.toList_ofList, List.length_replicate]
  rw [same, many] at one
  exact absurd one (by decide)

theorem longEvents_pending : (run unitHost longEvents).cache = firstCounted longText longChunk := by
  have opened : step unitHost .start (.init 2 1 4) = ⟨Cache.empty, [⟨2, 1, 4⟩]⟩ := rfl
  have stopped := embed_pending longText_plain iterEmbeddingChunks_longText longChunk_apart
  have attempted : (step unitHost ⟨Cache.empty, [⟨2, 1, 4⟩]⟩ (.embed 0 false (fun _ => false) longText)).cache =
      firstCounted longText longChunk := by
    simp only [step, List.getElem?_cons_zero, stopped]
  rw [run, longEvents, List.foldl_cons, List.foldl_cons, List.foldl_nil, opened, attempted]

theorem embed_longText : ∃ chunks parts, iterEmbeddingChunks longText = some chunks ∧ chunks ≠ [] ∧
    List.Forall₂ (Part unitHost) chunks parts ∧ norm unitHost (weightedSum unitHost.size parts) ≠ 0 ∧
    [1] = (weightedSum unitHost.size parts).map fun value => value / norm unitHost (weightedSum unitHost.size parts) := by
  refine (embed_counts_every_chunk_once unitHost).2 longEvents ⟨1, 1, 4⟩ false (fun _ => false) longText [1]
    (told_unitHost _) ?_
  rw [longEvents_pending]
  exact embed_resumed longText_plain iterEmbeddingChunks_longText longChunk_apart

end Neurons.Embedding.BoundedChunks
