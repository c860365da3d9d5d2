import Neurons.SessionMemory.Chunking
import Neurons.Source.ReferencePlatform

/-! # What the chunks of a transcript hold

The chunks share out the turns in order: a run of short turns makes one chunk, a
long turn makes the chunks of its parts, which lie side by side and give its text
back. Only a turn whose header alone is too long and whose text is empty is lost,
since a split of nothing has no parts.
-/

namespace Neurons.SessionMemory

open Neurons.Lib Neurons.Source

/-! ## Layouts -/

/-- The parts lie side by side from one position to another. -/
def Contiguous (start : ℕ) : List TurnTextPart → ℕ → Prop
  | [], last => start = last
  | part :: rest, last => part.charStart = start ∧ start ≤ part.charEnd ∧ Contiguous part.charEnd rest last

section Layout

variable (parsed : ParsedTranscript)

/-- The turn makes a chunk that is too long. -/
def TooLong (turn : TranscriptTurn) : Prop := maxTranscriptChunkTextChars < (chunkText parsed [turn]).length

/-- The parts of a long turn: numbered, under their own number, side by side over its text. -/
structure IsSplit (turn : TranscriptTurn) (parts : List TurnTextPart) : Prop where
  long : TooLong parsed turn
  numbered : parts.map TurnTextPart.partIndex = List.range' 1 parts.length
  counted : ∀ part ∈ parts, part.partCount = parts.length
  contiguous : Contiguous 0 parts turn.redactedText.length
  slices : ∀ part ∈ parts, part.text = slice turn.redactedText part.charStart part.charEnd
  whole : (parts.map fun part => part.text.toList).flatten = turn.redactedText.toList

/-- A chunk of several turns or the parts of one long turn. -/
inductive Piece
  | multi (turns : List TranscriptTurn)
  | split (turn : TranscriptTurn) (parts : List TurnTextPart)

def Piece.turns : Piece → List TranscriptTurn
  | .multi turns => turns
  | .split turn _ => [turn]

/-- The piece stands for some chunk. -/
def Piece.Filled : Piece → Prop
  | .multi turns => turns ≠ []
  | .split _ parts => parts ≠ []

/-- These chunks are those of the piece. -/
inductive Shows : Piece → List ChunkDraft → Prop
  | multi {turns : List TranscriptTurn} {draft : ChunkDraft} (short : ∀ turn ∈ turns, ¬ TooLong parsed turn)
      (first : (turns.map TranscriptTurn.turnIndex).min? = some draft.turnStartIndex)
      (last : (turns.map TranscriptTurn.turnIndex).max? = some draft.turnEndIndex)
      (text : draft.text = chunkText parsed turns) (part : draft.part = none) : Shows (.multi turns) [draft]
  | split {turn : TranscriptTurn} {parts : List TurnTextPart} {drafts : List ChunkDraft}
      (split : IsSplit parsed turn parts)
      (drafts_eq : List.Forall₂ (fun part draft => draft.part = some part
        ∧ draft.turnStartIndex = turn.turnIndex ∧ draft.turnEndIndex = turn.turnIndex
        ∧ draft.text = chunkPartText parsed turn part) parts drafts) : Shows (.split turn parts) drafts

/-- The chunks are those of pieces to which the turns belong in order. -/
def Layout (pieces : List Piece) (turns : List TranscriptTurn) (drafts : List ChunkDraft) : Prop :=
  pieces.flatMap Piece.turns = turns
    ∧ ∃ shown, List.Forall₂ (Shows parsed) pieces shown ∧ shown.flatten = drafts

/-- Every turn belongs to one piece with a chunk, no chunk is too long, and they come in order. -/
def LaidOut (drafts : List ChunkDraft) : Prop :=
  (∃ pieces, Layout parsed pieces (sortOn TranscriptTurn.turnIndex parsed.turns) drafts
      ∧ ∀ piece ∈ pieces, piece.Filled)
    ∧ (∀ draft ∈ drafts, draft.text.length ≤ maxTranscriptChunkTextChars)
    ∧ drafts.Pairwise fun draft later => draft.turnEndIndex ≤ later.turnStartIndex

variable {parsed}

theorem Layout.nil : Layout parsed [] [] [] := ⟨rfl, [], .nil, rfl⟩

theorem Layout.append {pieces pieces' : List Piece} {turns turns' : List TranscriptTurn}
    {drafts drafts' : List ChunkDraft} (layout : Layout parsed pieces turns drafts)
    (layout' : Layout parsed pieces' turns' drafts') :
    Layout parsed (pieces ++ pieces') (turns ++ turns') (drafts ++ drafts') := by
  obtain ⟨rfl, shown, shows_, rfl⟩ := layout
  obtain ⟨rfl, shown', shows', rfl⟩ := layout'
  exact ⟨by simp, shown ++ shown', List.rel_append shows_ shows', by simp⟩

theorem Layout.one {piece : Piece} {drafts : List ChunkDraft} (shows_ : Shows parsed piece drafts) :
    Layout parsed [piece] piece.turns drafts :=
  ⟨by simp, [drafts], .cons shows_ .nil, by simp⟩

/-! ## Slices -/

theorem slice_toList (text : String) (start last : ℕ) :
    (slice text start last).toList = (text.toList.drop start).take (last - start) := by
  rw [slice, String.toList_ofList]

theorem slice_length {text : String} {start last : ℕ} (inside : last ≤ text.length) :
    (slice text start last).length = last - start := by
  rw [← String.length_toList, slice_toList, List.length_take, List.length_drop, String.length_toList]
  omega

theorem Contiguous.le {parts : List TurnTextPart} {start last : ℕ} (contiguous : Contiguous start parts last) :
    start ≤ last := by
  induction parts generalizing start with
  | nil =>
      obtain rfl : start = last := contiguous
      exact le_rfl
  | cons part rest ih => exact contiguous.2.1.trans (ih contiguous.2.2)

theorem Contiguous.snoc {parts : List TurnTextPart} {start last : ℕ} (contiguous : Contiguous start parts last)
    {part : TurnTextPart} (begins : part.charStart = last) (ordered : last ≤ part.charEnd) :
    Contiguous start (parts ++ [part]) part.charEnd := by
  induction parts generalizing start with
  | nil =>
      obtain rfl : start = last := contiguous
      exact ⟨begins, ordered, rfl⟩
  | cons first rest ih => exact ⟨contiguous.1, contiguous.2.1, ih contiguous.2.2⟩

/-- Slices side by side give the text back. -/
theorem Contiguous.whole {parts : List TurnTextPart} {start last : ℕ} {text : String}
    (contiguous : Contiguous start parts last)
    (slices : ∀ part ∈ parts, part.text = slice text part.charStart part.charEnd) :
    (parts.map fun part => part.text.toList).flatten = (text.toList.drop start).take (last - start) := by
  induction parts generalizing start with
  | nil =>
      obtain rfl : start = last := contiguous
      simp
  | cons part rest ih =>
      obtain ⟨rfl, ordered, next⟩ := contiguous
      have later := next.le
      rw [List.map_cons, List.flatten_cons, ih next fun other mem => slices other (List.mem_cons_of_mem part mem),
        slices part (by simp), slice_toList]
      have split : last - part.charStart = (part.charEnd - part.charStart) + (last - part.charEnd) := by omega
      rw [split, List.take_add, List.drop_drop, Nat.add_sub_cancel' ordered]

/-! ## The parts of a long turn -/

variable (parsed) in
/-- What the inner loop has of a turn's parts: they cover its text up to `charStart`. -/
structure Covered (turn : TranscriptTurn) (partCount : ℕ) (parts : List TurnTextPart) (charStart : ℕ) : Prop where
  numbered : parts.map TurnTextPart.partIndex = List.range' 1 parts.length
  counted : ∀ part ∈ parts, part.partCount = partCount
  contiguous : Contiguous 0 parts charStart
  inside : charStart ≤ turn.redactedText.length
  slices : ∀ part ∈ parts, part.text = slice turn.redactedText part.charStart part.charEnd
  proper : ∀ part ∈ parts, part.charStart < part.charEnd ∧ part.charEnd ≤ turn.redactedText.length
  bounded : ∀ part ∈ parts, (chunkPartText parsed turn part).length ≤ maxTranscriptChunkTextChars

variable (parsed) in
/-- A part from `charStart` to `charEnd` makes progress and its text fits the limit. -/
def Fits (turn : TranscriptTurn) (text : String) (charStart partIndex partCount charEnd : ℕ) : Prop :=
  charStart < charEnd ∧ charEnd ≤ text.length
    ∧ (chunkPartPrefix parsed turn partIndex partCount charStart charEnd).length + (charEnd - charStart)
      ≤ maxTranscriptChunkTextChars

theorem fitRound_leave {turn : TranscriptTurn} {text : String} {charStart partIndex partCount guess charEnd : ℕ}
    (left : fitRound parsed turn text charStart partIndex partCount guess = .ok (.leave charEnd)) :
    Fits parsed turn text charStart partIndex partCount charEnd := by
  simp only [fitRound] at left
  split at left
  · cases left
  · split at left
    · cases left
    · split at left
      · rename_i some progress found
        obtain rfl : guess = charEnd := by simpa using left
        rw [Fits]
        omega
      · cases left

theorem fitTurnPartEnd_ok {fuel : ℕ} {turn : TranscriptTurn} {text : String}
    {charStart partIndex partCount charEnd : ℕ}
    (found : fitTurnPartEnd parsed fuel turn text charStart partIndex partCount = some (.ok charEnd)) :
    Fits parsed turn text charStart partIndex partCount charEnd := by
  refine loop_ok (fun _ => True) (Fits parsed turn text charStart partIndex partCount)
    (fun _ _ _ _ => trivial) ?_ trivial found
  intro guess last _ left
  exact fitRound_leave (Option.some.inj left)

/-- One more part keeps what the inner loop has. -/
theorem partRound_again {fuel partCount charStart charStart' : ℕ} {turn : TranscriptTurn}
    {parts parts' : List TurnTextPart} (covered : Covered parsed turn partCount parts charStart)
    (step : partRound parsed turn partCount fuel (parts, charStart) = some (.ok (.again (parts', charStart')))) :
    Covered parsed turn partCount parts' charStart' := by
  simp only [partRound] at step
  split at step
  · obtain ⟨outcome, fit, next⟩ := Option.map_eq_some_iff.mp step
    cases outcome with
    | error e => cases next
    | ok charEnd =>
        obtain ⟨rfl, rfl⟩ : parts ++ _ = parts' ∧ charEnd = charStart' := by
          simpa only [Except.map, Except.ok.injEq, Round.again.injEq, Prod.mk.injEq] using next
        obtain ⟨progress, inside, fits⟩ := fitTurnPartEnd_ok fit
        exact {
          numbered := by simp [covered.numbered, List.range'_1_concat, Nat.add_comm]
          counted := by
            intro part mem
            rcases List.mem_append.mp mem with old | new
            · exact covered.counted part old
            · rw [List.mem_singleton.mp new]
          contiguous := covered.contiguous.snoc rfl progress.le
          inside := inside
          slices := by
            intro part mem
            rcases List.mem_append.mp mem with old | new
            · exact covered.slices part old
            · rw [List.mem_singleton.mp new]
          proper := by
            intro part mem
            rcases List.mem_append.mp mem with old | new
            · exact covered.proper part old
            · rw [List.mem_singleton.mp new]
              exact ⟨progress, inside⟩
          bounded := by
            intro part mem
            rcases List.mem_append.mp mem with old | new
            · exact covered.bounded part old
            · rw [List.mem_singleton.mp new, chunkPartText, String.length_append, slice_length inside]
              exact fits }
  · simp at step

theorem parts_ok {fuel partCount : ℕ} {turn : TranscriptTurn} {parts : List TurnTextPart}
    (ended : loop (partRound parsed turn partCount fuel) fuel ([], 0) = some (.ok parts)) :
    Covered parsed turn partCount parts turn.redactedText.length := by
  refine loop_ok (fun state => Covered parsed turn partCount state.1 state.2)
    (fun made => Covered parsed turn partCount made turn.redactedText.length) ?_ ?_ ?_ ended
  · rintro ⟨made, charStart⟩ ⟨made', charStart'⟩ covered step
    exact partRound_again covered step
  · rintro ⟨made, charStart⟩ last covered step
    simp only [partRound] at step
    split at step
    · obtain ⟨outcome, _, next⟩ := Option.map_eq_some_iff.mp step
      cases outcome with
      | error e => cases next
      | ok charEnd => simp [Except.map] at next
    · obtain rfl : made = last := by simpa using step
      have inside := Covered.inside covered
      obtain rfl : charStart = turn.redactedText.length := by
        rename_i short
        have : charStart ≤ turn.redactedText.length := inside
        omega
      exact covered
  · exact {
      numbered := rfl
      counted := by simp
      contiguous := rfl
      inside := Nat.zero_le _
      slices := by simp
      proper := by simp
      bounded := by simp }

/-- The parts that the split returns cover the text and state their own number. -/
theorem splitTurnText_ok {fuel : ℕ} {turn : TranscriptTurn} {parts : List TurnTextPart}
    (returned : splitTurnText parsed fuel turn = some (.ok parts)) :
    Covered parsed turn parts.length parts turn.redactedText.length := by
  refine loop_ok (fun _ => True) (fun made => Covered parsed turn made.length made turn.redactedText.length)
    (fun _ _ _ _ => trivial) ?_ trivial returned
  intro partCount last _ step
  obtain ⟨outcome, ended, next⟩ := Option.map_eq_some_iff.mp step
  cases outcome with
  | error e => cases next
  | ok made =>
      by_cases same : made.length = partCount
      · obtain rfl : made = last := by simpa [Except.map, same] using next
        exact same ▸ parts_ok ended
      · simp [Except.map, same] at next

theorem Covered.isSplit {turn : TranscriptTurn} {parts : List TurnTextPart}
    (covered : Covered parsed turn parts.length parts turn.redactedText.length) (long : TooLong parsed turn) :
    IsSplit parsed turn parts where
  long := long
  numbered := covered.numbered
  counted := covered.counted
  contiguous := covered.contiguous
  slices := covered.slices
  whole := by
    rw [covered.contiguous.whole covered.slices, List.drop_zero, Nat.sub_zero, ← String.length_toList,
      List.take_length]

end Layout

/-! ## The packing loop -/

section Packing

variable {py : Platform} {readTime : String → Except PyError (Option Int)} {parsed : ParsedTranscript}

/-- `x >>= f` returns what `f` returns after `x`. -/
theorem returned_bind {α β : Type} {x : ExceptT PyError Option α} {f : α → ExceptT PyError Option β} {b : β}
    (returned : (x >>= f) = some (.ok b)) : ∃ a, x = some (.ok a) ∧ f a = some (.ok b) := by
  match x, returned with
  | some (.ok a), returned => exact ⟨a, rfl, returned⟩

theorem chunkText_sortOn (turns : List TranscriptTurn) :
    chunkText parsed (sortOn TranscriptTurn.turnIndex turns) = chunkText parsed turns := by
  have least : ((sortOn TranscriptTurn.turnIndex turns).map TranscriptTurn.turnIndex).min? =
      (turns.map TranscriptTurn.turnIndex).min? :=
    min?_eq_of_perm ((sortOn_perm TranscriptTurn.turnIndex turns).map _)
  simp only [chunkText, least, sortOn_sortOn]

variable (parsed) in
/-- What the loop has made of these turns. -/
structure Packed (pieces : List Piece) (turns : List TranscriptTurn) (drafts : List ChunkDraft) : Prop where
  layout : Layout parsed pieces turns drafts
  bounded : ∀ draft ∈ drafts, draft.text.length ≤ maxTranscriptChunkTextChars
  proper : ∀ draft ∈ drafts, ∀ part, draft.part = some part → ∃ turn ∈ turns,
    draft.turnStartIndex = turn.turnIndex ∧ part.charStart < part.charEnd
      ∧ part.charEnd ≤ turn.redactedText.length
  filled : ∀ piece ∈ pieces, piece.Filled ∨ ∃ turn ∈ turns, TooLong parsed turn ∧ turn.redactedText = ""

theorem Packed.nil : Packed parsed [] [] [] where
  layout := Layout.nil
  bounded := by simp
  proper := by simp
  filled := by simp

theorem Packed.append {pieces pieces' : List Piece} {turns turns' : List TranscriptTurn}
    {drafts drafts' : List ChunkDraft} (packed : Packed parsed pieces turns drafts)
    (packed' : Packed parsed pieces' turns' drafts') :
    Packed parsed (pieces ++ pieces') (turns ++ turns') (drafts ++ drafts') where
  layout := packed.layout.append packed'.layout
  bounded := by
    intro draft mem
    rcases List.mem_append.mp mem with before | after
    · exact packed.bounded draft before
    · exact packed'.bounded draft after
  proper := by
    intro draft mem part shown
    rcases List.mem_append.mp mem with before | after
    · obtain ⟨turn, inside, rest⟩ := packed.proper draft before part shown
      exact ⟨turn, List.mem_append_left _ inside, rest⟩
    · obtain ⟨turn, inside, rest⟩ := packed'.proper draft after part shown
      exact ⟨turn, List.mem_append_right _ inside, rest⟩
  filled := by
    intro piece mem
    rcases List.mem_append.mp mem with before | after
    · exact (packed.filled piece before).imp_right fun ⟨turn, inside, rest⟩ =>
        ⟨turn, List.mem_append_left _ inside, rest⟩
    · exact (packed'.filled piece after).imp_right fun ⟨turn, inside, rest⟩ =>
        ⟨turn, List.mem_append_right _ inside, rest⟩

theorem flush_packed {chunks chunks' : List ChunkDraft} {turns : List TranscriptTurn}
    (flushed : flush py readTime parsed chunks turns = .ok chunks')
    (short : ∀ turn ∈ turns, ¬ TooLong parsed turn)
    (fits : turns ≠ [] → (chunkText parsed turns).length ≤ maxTranscriptChunkTextChars) :
    ∃ pieces more, chunks' = chunks ++ more ∧ Packed parsed pieces turns more := by
  rw [flush] at flushed
  split at flushed
  · rename_i empty
    subst empty
    obtain rfl : chunks = chunks' := by simpa using flushed
    exact ⟨[], [], by simp, Packed.nil⟩
  · rename_i some
    obtain ⟨draft, built, rfl⟩ : ∃ draft, buildChunkForTurns py readTime parsed turns = .ok draft
        ∧ chunks ++ [draft] = chunks' := by
      cases built : buildChunkForTurns py readTime parsed turns with
      | error e => simp [built, bind, Except.bind] at flushed
      | ok draft => exact ⟨draft, rfl, by simpa [built, bind, Except.bind, pure, Except.pure] using flushed⟩
    rw [buildChunkForTurns] at built
    split at built
    · rename_i turnStart turnEnd first last
      cases bounds : nativeTurnBounds readTime turns with
      | error e => simp [bounds, bind, Except.bind] at built
      | ok interval =>
          obtain rfl : _ = draft := by simpa [bounds, bind, Except.bind, pure, Except.pure] using built
          refine ⟨[.multi turns], _, rfl, ?_, ?_, ?_, ?_⟩
          · exact Layout.one (.multi short first last (chunkText_sortOn turns) rfl)
          · intro draft mem
            rw [List.mem_singleton.mp mem, chunkText_sortOn]
            exact fits some
          · intro draft mem part shown
            rw [List.mem_singleton.mp mem] at shown
            cases shown
          · intro piece mem
            rw [List.mem_singleton.mp mem]
            exact .inl some
    · cases built

theorem longTurn_packed {fuel : ℕ} {turn : TranscriptTurn} {drafts : List ChunkDraft}
    (built : buildChunksForLongTurn py readTime parsed fuel turn = some (.ok drafts))
    (long : TooLong parsed turn) : ∃ pieces, Packed parsed pieces [turn] drafts := by
  obtain ⟨bounds, _, next⟩ := returned_bind built
  obtain ⟨parts, split, last⟩ := returned_bind next
  obtain rfl : parts.map (draftOfPart py parsed turn bounds) = drafts :=
    Except.ok.inj (Option.some.inj last)
  have covered := splitTurnText_ok split
  refine ⟨[.split turn parts], ?_, ?_, ?_, ?_⟩
  · apply Layout.one
    apply Shows.split (covered.isSplit long)
    rw [List.forall₂_map_right_iff, List.forall₂_same]
    intro part mem
    exact ⟨rfl, rfl, rfl, rfl⟩
  · intro draft mem
    obtain ⟨part, inside, rfl⟩ := List.mem_map.mp mem
    exact covered.bounded part inside
  · intro draft mem shown given
    obtain ⟨part, inside, rfl⟩ := List.mem_map.mp mem
    obtain rfl : part = shown := by simpa [draftOfPart] using given
    exact ⟨turn, by simp, rfl, covered.proper part inside⟩
  · intro piece mem
    rw [List.mem_singleton.mp mem]
    by_cases none : parts = []
    · right
      refine ⟨turn, by simp, long, ?_⟩
      have whole := covered.contiguous
      rw [none] at whole
      exact String.length_eq_zero_iff.mp whole.symm
    · exact .inl none

/-- The loop packs the turns it has collected and those that follow. -/
theorem packTurns_packed {fuel : ℕ} {chunks result : List ChunkDraft} {currentTurns rest : List TranscriptTurn}
    (returned : packTurns py readTime parsed fuel chunks currentTurns rest = some (.ok result))
    (short : ∀ turn ∈ currentTurns, ¬ TooLong parsed turn)
    (fits : currentTurns ≠ [] → (chunkText parsed currentTurns).length ≤ maxTranscriptChunkTextChars) :
    ∃ pieces more, result = chunks ++ more ∧ Packed parsed pieces (currentTurns ++ rest) more := by
  induction rest generalizing chunks currentTurns with
  | nil =>
      rw [List.append_nil]
      exact flush_packed (Option.some.inj returned) short fits
  | cons turn rest ih =>
      rw [packTurns] at returned
      by_cases long : (chunkText parsed [turn]).length > maxTranscriptChunkTextChars
      · rw [if_pos long] at returned
        obtain ⟨flushed, done, next⟩ := returned_bind returned
        obtain ⟨parts, built, later⟩ := returned_bind next
        obtain ⟨pieces, more, rfl, packed⟩ := flush_packed (Option.some.inj done) short fits
        obtain ⟨pieces', packed'⟩ := longTurn_packed built long
        obtain ⟨pieces'', more', rfl, packed''⟩ := ih later (by simp) (by simp)
        refine ⟨pieces ++ (pieces' ++ pieces''), more ++ (parts ++ more'), by simp, ?_⟩
        exact packed.append (packed'.append packed'')
      · rw [if_neg long] at returned
        have alone : (chunkText parsed [turn]).length ≤ maxTranscriptChunkTextChars := Nat.not_lt.mp long
        have shortTurn : ¬ TooLong parsed turn := long
        split at returned
        · obtain ⟨flushed, done, later⟩ := returned_bind returned
          obtain ⟨pieces, more, rfl, packed⟩ := flush_packed (Option.some.inj done) short fits
          obtain ⟨pieces', more', rfl, packed'⟩ := ih later (by simpa using shortTurn) (fun _ => alone)
          exact ⟨pieces ++ pieces', more ++ more', by simp, packed.append packed'⟩
        · rename_i room
          have collected : currentTurns ++ [turn] ≠ [] →
              (chunkText parsed (currentTurns ++ [turn])).length ≤ maxTranscriptChunkTextChars := by
            intro _
            by_cases first : currentTurns = []
            · simpa [first] using alone
            · by_contra beyond
              exact room ⟨first, Nat.not_le.mp beyond⟩
          obtain ⟨pieces, more, rfl, packed⟩ := ih returned (by
            intro other mem
            rcases List.mem_append.mp mem with before | new
            · exact short other before
            · rwa [List.mem_singleton.mp new]) collected
          exact ⟨pieces, more, rfl, by simpa using packed⟩

/-! ## The order of the chunks -/

theorem Shows.indexes {piece : Piece} {drafts : List ChunkDraft} (shows_ : Shows parsed piece drafts)
    {draft : ChunkDraft} (mem : draft ∈ drafts) :
    (∃ turn ∈ piece.turns, draft.turnStartIndex = turn.turnIndex)
      ∧ ∃ turn ∈ piece.turns, draft.turnEndIndex = turn.turnIndex := by
  cases shows_ with
  | multi short first last text part =>
      rw [List.mem_singleton.mp mem]
      obtain ⟨turn, inside, least⟩ := List.mem_map.mp (List.min?_mem first)
      obtain ⟨turn', inside', greatest⟩ := List.mem_map.mp (List.max?_mem last)
      exact ⟨⟨turn, inside, least.symm⟩, turn', inside', greatest.symm⟩
  | split split drafts_eq =>
      obtain ⟨i, low, rfl⟩ := List.mem_iff_getElem.mp mem
      have same := drafts_eq.get (by rw [drafts_eq.length_eq]; exact low) low
      exact ⟨⟨_, by simp [Piece.turns], same.2.1⟩, _, by simp [Piece.turns], same.2.2.1⟩

theorem Shows.ordered {piece : Piece} {drafts : List ChunkDraft} (shows_ : Shows parsed piece drafts) :
    drafts.Pairwise fun draft later => draft.turnEndIndex ≤ later.turnStartIndex := by
  cases shows_ with
  | multi short first last text part => exact List.pairwise_singleton _ _
  | @split turn parts _ split drafts_eq =>
      apply List.pairwise_of_forall_mem_list
      intro draft mem later mem'
      obtain ⟨_, other, there, ended⟩ := Shows.indexes (.split split drafts_eq) mem
      obtain ⟨⟨other', there', started⟩, _⟩ := Shows.indexes (.split split drafts_eq) mem'
      rw [ended, started, List.mem_singleton.mp there, List.mem_singleton.mp there']

theorem Layout.ordered {pieces : List Piece} {turns : List TranscriptTurn} {drafts : List ChunkDraft}
    (layout : Layout parsed pieces turns drafts)
    (sorted : turns.Pairwise fun turn later => turn.turnIndex < later.turnIndex) :
    drafts.Pairwise fun draft later => draft.turnEndIndex ≤ later.turnStartIndex := by
  obtain ⟨rfl, shown, shows_, rfl⟩ := layout
  induction shows_ with
  | nil => exact .nil
  | @cons piece drafts pieces shown one more ih =>
      rw [List.flatMap_cons, List.pairwise_append] at sorted
      rw [List.flatten_cons, List.pairwise_append]
      refine ⟨one.ordered, ih sorted.2.1, ?_⟩
      intro draft mem later mem'
      obtain ⟨_, turn, inside, ended⟩ := one.indexes mem
      obtain ⟨⟨turn', inside', started⟩, _⟩ : (∃ turn ∈ pieces.flatMap Piece.turns,
          later.turnStartIndex = turn.turnIndex) ∧ True := by
        refine ⟨?_, trivial⟩
        obtain ⟨some, found, within⟩ := List.mem_flatten.mp mem'
        obtain ⟨i, low, rfl⟩ := List.mem_iff_getElem.mp found
        obtain ⟨⟨turn, there, start⟩, _⟩ := (more.get (by rw [more.length_eq]; exact low) low).indexes within
        exact ⟨turn, List.mem_flatMap.mpr ⟨_, List.getElem_mem _, there⟩, start⟩
      rw [ended, started]
      exact (sorted.2.2 turn inside turn' inside').le

/-- Every piece of a layout has its chunks among those of the layout. -/
theorem Layout.shows {pieces : List Piece} {turns : List TranscriptTurn} {drafts : List ChunkDraft}
    (layout : Layout parsed pieces turns drafts) {piece : Piece} (mem : piece ∈ pieces) :
    ∃ some, Shows parsed piece some ∧ ∀ draft ∈ some, draft ∈ drafts := by
  obtain ⟨_, shown, shows_, rfl⟩ := layout
  obtain ⟨i, low, rfl⟩ := List.mem_iff_getElem.mp mem
  refine ⟨_, shows_.get low (by rw [← shows_.length_eq]; exact low), ?_⟩
  intro draft within
  exact List.mem_flatten.mpr ⟨_, List.getElem_mem _, within⟩

theorem sorted_turns (distinct : (parsed.turns.map TranscriptTurn.turnIndex).Nodup) :
    (sortOn TranscriptTurn.turnIndex parsed.turns).Pairwise fun turn later => turn.turnIndex < later.turnIndex := by
  have perm := (sortOn_perm TranscriptTurn.turnIndex parsed.turns).map TranscriptTurn.turnIndex
  have apart := List.pairwise_map.mp (perm.nodup_iff.mpr distinct)
  refine ((sortOn_pairwise TranscriptTurn.turnIndex parsed.turns).and apart).imp ?_
  intro turn later ⟨le, ne⟩
  exact lt_of_le_of_ne le ne

theorem buildTranscriptChunks_packed {fuel : ℕ} {chunks : List ChunkDraft}
    (returned : buildTranscriptChunks py readTime parsed fuel = some (.ok chunks)) :
    ∃ pieces, Packed parsed pieces (sortOn TranscriptTurn.turnIndex parsed.turns) chunks := by
  rw [buildTranscriptChunks] at returned
  split at returned
  · cases returned
  · obtain ⟨pieces, more, rfl, packed⟩ := packTurns_packed returned (by simp) (by simp)
    exact ⟨pieces, packed⟩

end Packing

/-- The chunks that are returned lay the transcript out, unless a turn without text is too long. -/
theorem buildTranscriptChunks_laidOut_iff (py : Platform) (readTime : String → Except PyError (Option Int))
    (parsed : ParsedTranscript) (distinct : (parsed.turns.map TranscriptTurn.turnIndex).Nodup) (fuel : ℕ)
    (chunks : List ChunkDraft)
    (returned : buildTranscriptChunks py readTime parsed fuel = some (.ok chunks)) :
    LaidOut parsed chunks ↔ ∀ turn ∈ parsed.turns, TooLong parsed turn → turn.redactedText ≠ "" := by
  obtain ⟨pieces, packed⟩ := buildTranscriptChunks_packed returned
  constructor
  · rintro ⟨⟨pieces', layout, filled⟩, _⟩ turn mem long empty
    have inside : turn ∈ pieces'.flatMap Piece.turns := by
      rw [layout.1]
      exact (mem_sortOn _).mpr mem
    obtain ⟨piece, there, own⟩ := List.mem_flatMap.mp inside
    obtain ⟨some, shows_, among⟩ := layout.shows there
    cases shows_ with
    | multi short first last text part => exact short turn own long
    | @split turn' parts _ split drafts_eq =>
        obtain rfl : turn = turn' := List.mem_singleton.mp own
        obtain ⟨part, rest, rfl⟩ := List.exists_cons_of_ne_nil (filled _ there)
        cases drafts_eq with
        | @cons _ draft _ _ same more =>
            -- the chunks are also those that the loop has packed, whose parts all have some text
            obtain ⟨other, among', start, some, within⟩ := packed.proper draft (among draft (by simp)) part same.1
            have one : other.turnIndex = turn.turnIndex := start.symm.trans same.2.1
            obtain rfl := List.inj_on_of_nodup_map distinct ((mem_sortOn _).mp among') mem one
            rw [empty] at within
            simp at within
            omega
  · intro texts
    refine ⟨⟨pieces, packed.layout, ?_⟩, packed.bounded, packed.layout.ordered (sorted_turns distinct)⟩
    intro piece mem
    rcases packed.filled piece mem with filled | ⟨turn, inside, long, empty⟩
    · exact filled
    · exact absurd empty (texts turn ((mem_sortOn _).mp inside) long)

/-! ## Transcripts of one turn -/

section OneTurn

variable {py : Platform} {readTime : String → Except PyError (Option Int)} {parsed : ParsedTranscript}
  {turn : TranscriptTurn}

theorem nativeTurnBounds_untimed (untimed : turn.observedAt = "") :
    nativeTurnBounds readTime [turn] = .ok ("", "") := by
  have empty : strip "" = "" := by decide
  simp [nativeTurnBounds, sortOn, untimed, empty, pure, Except.pure]

theorem buildTranscriptChunks_short (only : parsed.turns = [turn]) (untimed : turn.observedAt = "")
    (short : ¬ TooLong parsed turn) :
    ∃ chunks, chunks ≠ [] ∧ buildTranscriptChunks py readTime parsed 0 = some (.ok chunks) := by
  have short : ¬ (chunkText parsed [turn]).length > maxTranscriptChunkTextChars := short
  simp only [buildTranscriptChunks, only, sortOn, List.insertionSort_cons, List.insertionSort_nil,
    List.orderedInsert_nil, packTurns, if_neg short, List.cons_ne_nil, ne_eq, not_true_eq_false, false_and,
    if_false, List.nil_append, flush, buildChunkForTurns, nativeTurnBounds_untimed untimed]
  exact ⟨_, List.cons_ne_nil _ _, rfl⟩

theorem buildTranscriptChunks_lost (only : parsed.turns = [turn]) (untimed : turn.observedAt = "")
    (long : TooLong parsed turn) (empty : turn.redactedText = "") :
    buildTranscriptChunks py readTime parsed 3 = some (.ok []) := by
  have long : (chunkText parsed [turn]).length > maxTranscriptChunkTextChars := long
  have parts (partCount : ℕ) : loop (partRound parsed turn partCount 3) 3 ([], 0) = some (.ok []) := by
    simp only [loop, partRound, empty]
    rfl
  have count (partCount : ℕ) : countRound parsed turn 3 partCount =
      some (.ok (if 0 = partCount then .leave [] else .again 0)) := by
    rw [countRound, parts]
    rfl
  have split : splitTurnText parsed 3 turn = some (.ok []) := by
    simp only [splitTurnText, loop, count]
    rfl
  simp only [buildTranscriptChunks, only, sortOn, List.insertionSort_cons, List.insertionSort_nil,
    List.orderedInsert_nil, packTurns, if_pos long, List.cons_ne_nil, if_false, if_true, flush,
    buildChunksForLongTurn, nativeTurnBounds_untimed untimed, split]
  rfl

/-- Turns that are laid out have chunks. -/
theorem LaidOut.turns_nil (laidOut : LaidOut parsed []) : parsed.turns = [] := by
  obtain ⟨⟨pieces, layout, filled⟩, _⟩ := laidOut
  have none : pieces = [] := by
    by_contra some
    obtain ⟨piece, rest, rfl⟩ := List.exists_cons_of_ne_nil some
    obtain ⟨drafts, shows_, among⟩ := layout.shows (List.mem_cons_self)
    have empty : drafts = [] := List.eq_nil_iff_forall_not_mem.mpr fun draft mem => by
      simpa using among draft mem
    subst empty
    cases shows_ with
    | split split drafts_eq => exact filled _ List.mem_cons_self (List.forall₂_nil_right_iff.mp drafts_eq)
  have sorted : sortOn TranscriptTurn.turnIndex parsed.turns = [] := by
    rw [← layout.1, none, List.flatMap_nil]
  have perm := sortOn_perm TranscriptTurn.turnIndex parsed.turns
  rw [sorted] at perm
  exact perm.nil_eq.symm

end OneTurn

/-- No time is readable. -/
def noTimes (_ : String) : Except PyError (Option Int) := .ok none

def shortTranscript : ParsedTranscript where
  session := ⟨"sha256:1f", "claude", "neurons"⟩
  turns := [⟨0, "user", "", "go"⟩]
  sourceStatus := "source_locator_private_spool_only"

theorem buildTranscriptChunks_laidOut_iff_short : ∃ chunks,
    buildTranscriptChunks referencePlatform noTimes shortTranscript 0 = some (.ok chunks)
      ∧ LaidOut shortTranscript chunks := by
  have short : ∀ turn ∈ shortTranscript.turns, ¬ TooLong shortTranscript turn := by
    intro turn mem
    obtain rfl := List.mem_singleton.mp mem
    rw [TooLong]
    decide
  obtain ⟨chunks, -, returned⟩ : ∃ chunks, chunks ≠ [] ∧
      buildTranscriptChunks referencePlatform noTimes shortTranscript 0 = some (.ok chunks) :=
    buildTranscriptChunks_short rfl rfl (short _ (by decide))
  refine ⟨chunks, returned, ?_⟩
  apply (buildTranscriptChunks_laidOut_iff referencePlatform noTimes shortTranscript (by decide) 0 chunks
    returned).mpr
  intro turn mem long
  exact absurd long (short turn mem)

/-- A turn without text whose role alone is too long for a chunk. -/
def lostTurn : TranscriptTurn := ⟨0, String.ofList (List.replicate 4096 'r'), "", ""⟩

def lostTranscript : ParsedTranscript where
  session := ⟨"sha256:1f", "claude", "neurons"⟩
  turns := [lostTurn]
  sourceStatus := "source_locator_private_spool_only"

/-- The turn is in none of the chunks that are returned, which are none. -/
theorem lostTranscript_not_laidOut :
    buildTranscriptChunks referencePlatform noTimes lostTranscript 3 = some (.ok [])
      ∧ ¬ LaidOut lostTranscript [] := by
  have long : TooLong lostTranscript lostTurn := by
    have limit : maxTranscriptChunkTextChars = 4096 := rfl
    have colon : ": ".length = 2 := by decide
    rw [TooLong]
    simp only [chunkText, List.map_cons, List.map_nil, List.min?_singleton, sortOn, List.insertionSort_cons,
      List.insertionSort_nil, List.orderedInsert_nil, List.cons_append, List.nil_append, turnLine,
      String.intercalate_cons_cons, String.intercalate_singleton, String.length_append, lostTurn,
      String.length_ofList, List.length_replicate]
    omega
  constructor
  · exact buildTranscriptChunks_lost rfl rfl long rfl
  · intro laidOut
    cases laidOut.turns_nil

end Neurons.SessionMemory
