import Neurons.SessionMemory.Chunking

/-! # When the split of a long turn ends

The header of a part holds the position where the part ends, so the search for the
end corrects a guess until the room left by its digits is what it assumed. The search
misses an end exactly when the room falls in the gap below a power of ten; then it
goes back and forth between the two sides of the gap. The number of parts, which the
header holds too, is corrected upwards only.
-/

namespace Neurons.SessionMemory

open Neurons.Lib Neurons.Source

section Splitting

variable (parsed : ParsedTranscript) (turn : TranscriptTurn)

/-- The length of a part's header without its four numbers. -/
def headerLength : ℕ := (chunkPartPrefix parsed turn 0 0 0 0).length - 4

/-- What is left of the limit beside a header, where only the number of the end is not counted. -/
def room (partIndex partCount charStart : ℕ) : ℕ :=
  maxTranscriptChunkTextChars
    - (headerLength parsed turn + width partIndex + width partCount + width charStart)

/-- The first guess leaves no room for text. -/
def Refused (length partIndex partCount charStart : ℕ) : Prop :=
  room parsed turn partIndex partCount charStart
    ≤ width (min length (charStart + maxTranscriptChunkTextChars))

/-- The search for an end goes round in a circle: its room falls in the gap below a power of ten that
is a position of the text. -/
def Stuck (length partIndex partCount charStart : ℕ) : Prop :=
  charStart < length ∧ ¬ Refused parsed turn length partIndex partCount charStart
    ∧ Gap (charStart + room parsed turn partIndex partCount charStart) length

/-- Where a part ends. -/
def partEnd (length partIndex partCount charStart : ℕ) : ℕ :=
  cut (charStart + room parsed turn partIndex partCount charStart) length

variable {parsed turn}

theorem chunkPartPrefix_length (partIndex partCount charStart charEnd : ℕ) :
    (chunkPartPrefix parsed turn partIndex partCount charStart charEnd).length =
      headerLength parsed turn + width partIndex + width partCount + width charStart + width charEnd := by
  have zero : (Nat.repr 0).length = 1 := rfl
  simp only [headerLength, chunkPartPrefix, String.intercalate_cons_cons, String.intercalate_singleton,
    String.length_append, Nat.toString_eq_repr, width, zero]
  omega

theorem headerLength_eq : headerLength parsed turn = 100 + parsed.session.sessionIdHash.length
    + (toString turn.turnIndex).length + turn.role.length := by
  have labels : "session_id_hash: ".length = 17 ∧ "turn_start_index: ".length = 18
      ∧ "turn_part_index: ".length = 17 ∧ "turn_part_count: ".length = 17 ∧ "char_start: ".length = 12
      ∧ "char_end: ".length = 10 ∧ "".length = 0 ∧ ": ".length = 2 ∧ "\n".length = 1 := by decide
  have zero : (Nat.repr 0).length = 1 := rfl
  simp only [headerLength, chunkPartPrefix, String.intercalate_cons_cons, String.intercalate_singleton,
    String.length_append, Nat.toString_eq_repr, zero, labels]
  omega

/-! ## The search for an end -/

section Search

variable {text : String} {partIndex partCount charStart : ℕ}

theorem room_le : room parsed turn partIndex partCount charStart + 1 ≤ maxTranscriptChunkTextChars := by
  have := width_pos partIndex
  have limit : maxTranscriptChunkTextChars = 4096 := rfl
  rw [room]
  omega

theorem fitRound_error {charEnd : ℕ} (tight : room parsed turn partIndex partCount charStart ≤ width charEnd) :
    fitRound parsed turn text charStart partIndex partCount charEnd =
      .error (.valueError "transcript chunk metadata exceeds chunk text limit") := by
  have none : maxTranscriptChunkTextChars
      - (chunkPartPrefix parsed turn partIndex partCount charStart charEnd).length = 0 := by
    rw [chunkPartPrefix_length]
    rw [room] at tight
    omega
  simp only [fitRound, none, if_true]

/-- While there is room for the digits, a round of the search is one correction of the guess. -/
theorem fitRound_ok {charEnd : ℕ} (inside : charStart < text.length)
    (fits : width charEnd < room parsed turn partIndex partCount charStart) :
    fitRound parsed turn text charStart partIndex partCount charEnd =
      if correct (charStart + room parsed turn partIndex partCount charStart) text.length charEnd = charEnd then
        .ok (.leave charEnd)
      else .ok (.again (correct (charStart + room parsed turn partIndex partCount charStart) text.length charEnd)) := by
  have some : maxTranscriptChunkTextChars
      - (chunkPartPrefix parsed turn partIndex partCount charStart charEnd).length =
        room parsed turn partIndex partCount charStart - width charEnd := by
    rw [chunkPartPrefix_length, room]
    omega
  have shift : charStart + (room parsed turn partIndex partCount charStart - width charEnd) =
      charStart + room parsed turn partIndex partCount charStart - width charEnd := by omega
  simp only [fitRound, some, shift, ← correct.eq_def]
  rw [if_neg (by omega), if_neg (by rw [correct]; omega)]

/-- The guesses after the first are smaller than it. -/
theorem correct_le_guess {charEnd : ℕ} :
    correct (charStart + room parsed turn partIndex partCount charStart) text.length charEnd
      ≤ min text.length (charStart + maxTranscriptChunkTextChars) := by
  have below : room parsed turn partIndex partCount charStart + 1 ≤ _ := room_le
  rw [correct]
  omega

theorem fits_of_le {charEnd : ℕ} (accepted : ¬ Refused parsed turn text.length partIndex partCount charStart)
    (below : charEnd ≤ min text.length (charStart + maxTranscriptChunkTextChars)) :
    width charEnd < room parsed turn partIndex partCount charStart := by
  rw [Refused, Nat.not_le] at accepted
  exact (width_mono below).trans_lt accepted

theorem fit_refused (refused : Refused parsed turn text.length partIndex partCount charStart) :
    Settles (fun fuel => fitTurnPartEnd parsed fuel turn text charStart partIndex partCount)
      (.error (.valueError "transcript chunk metadata exceeds chunk text limit")) := by
  apply Ends.settles fun _ charEnd =>
    some (fitRound parsed turn text charStart partIndex partCount charEnd)
  apply Ends.raise
  rw [fitRound_error refused]
  exact Settles.const _

theorem fit_found (inside : charStart < text.length)
    (accepted : ¬ Refused parsed turn text.length partIndex partCount charStart)
    (free : ¬ Stuck parsed turn text.length partIndex partCount charStart) :
    Settles (fun fuel => fitTurnPartEnd parsed fuel turn text charStart partIndex partCount)
      (.ok (partEnd parsed turn text.length partIndex partCount charStart)) := by
  have noGap : ¬ Gap (charStart + room parsed turn partIndex partCount charStart) text.length :=
    fun gap => free ⟨inside, accepted, gap⟩
  have first := fits_of_le accepted le_rfl
  have space : 1 ≤ charStart + room parsed turn partIndex partCount charStart := by omega
  apply Ends.settles fun _ charEnd =>
    some (fitRound parsed turn text charStart partIndex partCount charEnd)
  -- every guess that the search can come to leads to the end
  have every := correct_induction (fun charEnd =>
    charEnd ≤ min text.length (charStart + maxTranscriptChunkTextChars) →
      Ends (fun _ charEnd => some (fitRound parsed turn text charStart partIndex partCount charEnd)) charEnd
        (.ok (partEnd parsed turn text.length partIndex partCount charStart))) space noGap
  refine every ?_ ?_ _ (min_le_left _ _) le_rfl
  · intro below
    apply Ends.leave
    rw [fitRound_ok inside (fits_of_le accepted below), correct_cut space noGap, if_pos rfl]
    exact Settles.const _
  · intro charEnd _ ih below
    have fits := fits_of_le accepted below
    by_cases fixed : correct (charStart + room parsed turn partIndex partCount charStart) text.length charEnd
        = charEnd
    · have found := (eq_cut_of_correct fixed (by omega)).1
      apply Ends.leave
      rw [fitRound_ok inside fits, if_pos fixed, partEnd, ← found]
      exact Settles.const _
    · refine Ends.again ?_ (ih correct_le_guess)
      rw [fitRound_ok inside fits, if_neg fixed]
      exact Settles.const _

theorem fit_stuck (stuck : Stuck parsed turn text.length partIndex partCount charStart) :
    NeverEnds (fun fuel => fitTurnPartEnd parsed fuel turn text charStart partIndex partCount) := by
  obtain ⟨inside, accepted, gap⟩ := stuck
  apply Spins.neverEnds fun _ charEnd =>
    some (fitRound parsed turn text charStart partIndex partCount charEnd)
  apply Spins.of_invariant (fun charEnd => charEnd ≤ min text.length (charStart + maxTranscriptChunkTextChars))
  · intro charEnd below
    have fits := fits_of_le accepted below
    have moves : correct (charStart + room parsed turn partIndex partCount charStart) text.length charEnd
        ≠ charEnd := by
      intro fixed
      exact (eq_cut_of_correct fixed (by omega)).2 gap
    refine ⟨correct (charStart + room parsed turn partIndex partCount charStart) text.length charEnd,
      correct_le_guess, fun _ => ?_⟩
    rw [fitRound_ok inside fits, if_neg moves]
  · exact le_rfl

/-- Past the end of the text the search is refused. -/
theorem fit_outside (outside : text.length ≤ charStart) :
    Halts (fun fuel => fitTurnPartEnd parsed fuel turn text charStart partIndex partCount) := by
  refine ⟨1, ?_⟩
  have refused (charEnd : ℕ) : ∃ e, fitRound parsed turn text charStart partIndex partCount charEnd = .error e := by
    simp only [fitRound]
    split
    · exact ⟨_, rfl⟩
    · rw [if_pos (by omega)]
      exact ⟨_, rfl⟩
  obtain ⟨e, raised⟩ := refused (min text.length (charStart + maxTranscriptChunkTextChars))
  simp only [fitTurnPartEnd, loop, raised, Option.isSome_some]

/-- The search for an end is in a circle or ends. -/
theorem fit_halts_iff : Halts (fun fuel => fitTurnPartEnd parsed fuel turn text charStart partIndex partCount) ↔
    ¬ Stuck parsed turn text.length partIndex partCount charStart := by
  constructor
  · intro halts stuck
    exact (fit_stuck stuck).not_halts halts
  · intro free
    by_cases inside : charStart < text.length
    · by_cases refused : Refused parsed turn text.length partIndex partCount charStart
      · exact (fit_refused refused).halts
      · exact (fit_found inside refused free).halts
    · exact fit_outside (by omega)

theorem charStart_lt_partEnd (inside : charStart < text.length)
    (accepted : ¬ Refused parsed turn text.length partIndex partCount charStart) :
    charStart < partEnd parsed turn text.length partIndex partCount charStart := by
  have limit : maxTranscriptChunkTextChars = 4096 := rfl
  have fits := fits_of_le accepted (show charStart + 1 ≤ min text.length _ by omega)
  exact Nat.lt_of_succ_le (le_cut (by omega) (show charStart + 1 + width (charStart + 1) ≤ _ by omega))

end Search

/-! ## The search for a number of parts -/

variable (parsed turn) in
/-- The split looks for the end of a part with this index and start, under this number of parts. -/
inductive Reached : ℕ → ℕ → ℕ → Prop
  | first : Reached 1 1 0
  | next {partCount partIndex charStart : ℕ} (reached : Reached partCount partIndex charStart)
      (inside : charStart < turn.redactedText.length)
      (accepted : ¬ Refused parsed turn turn.redactedText.length partIndex partCount charStart)
      (free : ¬ Stuck parsed turn turn.redactedText.length partIndex partCount charStart) :
      Reached partCount (partIndex + 1)
        (partEnd parsed turn turn.redactedText.length partIndex partCount charStart)
  | recount {partCount partIndex : ℕ} (reached : Reached partCount (partIndex + 1) turn.redactedText.length)
      (differs : partIndex ≠ partCount) : Reached partIndex 1 0

section Counts

variable {partCount : ℕ}

/-- The part that starts here, once its end is known. -/
def partAt (turn : TranscriptTurn) (parts : List TurnTextPart) (partCount charStart charEnd : ℕ) : TurnTextPart where
  text := slice turn.redactedText charStart charEnd
  partIndex := parts.length + 1
  partCount := partCount
  charStart := charStart
  charEnd := charEnd

theorem partRound_outside {parts : List TurnTextPart} {charStart : ℕ}
    (outside : turn.redactedText.length ≤ charStart) :
    Settles (partRound parsed turn partCount · (parts, charStart)) (.ok (.leave parts)) := by
  have stops (fuel : ℕ) : partRound parsed turn partCount fuel (parts, charStart) = some (.ok (.leave parts)) := by
    simp only [partRound]
    rw [if_neg (by omega)]
  simp only [stops]
  exact Settles.const _

theorem partRound_inside {parts : List TurnTextPart} {charStart : ℕ}
    (inside : charStart < turn.redactedText.length) (fuel : ℕ) :
    partRound parsed turn partCount fuel (parts, charStart) =
      (fitTurnPartEnd parsed fuel turn turn.redactedText charStart (parts.length + 1) partCount).map
        (Except.map fun charEnd => .again (parts ++ [partAt turn parts partCount charStart charEnd], charEnd)) := by
  simp only [partRound]
  rw [if_pos inside]
  rfl

theorem partRound_next {parts : List TurnTextPart} {charStart : ℕ} (inside : charStart < turn.redactedText.length)
    (accepted : ¬ Refused parsed turn turn.redactedText.length (parts.length + 1) partCount charStart)
    (free : ¬ Stuck parsed turn turn.redactedText.length (parts.length + 1) partCount charStart) :
    Settles (partRound parsed turn partCount · (parts, charStart))
      (.ok (.again (parts ++ [partAt turn parts partCount charStart
          (partEnd parsed turn turn.redactedText.length (parts.length + 1) partCount charStart)],
        partEnd parsed turn turn.redactedText.length (parts.length + 1) partCount charStart))) := by
  simp only [partRound_inside inside]
  exact (fit_found inside accepted free).map _

theorem partRound_refused {parts : List TurnTextPart} {charStart : ℕ} (inside : charStart < turn.redactedText.length)
    (refused : Refused parsed turn turn.redactedText.length (parts.length + 1) partCount charStart) :
    Settles (partRound parsed turn partCount · (parts, charStart))
      (.error (.valueError "transcript chunk metadata exceeds chunk text limit")) := by
  simp only [partRound_inside inside]
  exact (fit_refused refused).map _

theorem countRound_settles {r : Except PyError (List TurnTextPart)}
    (ends : Ends (partRound parsed turn partCount) ([], 0) r) :
    Settles (countRound parsed turn · partCount)
      (r.map fun parts => if parts.length = partCount then .leave parts else .again parts.length) :=
  (ends.settles (partRound parsed turn partCount)).map _

/-- A state of the inner loop that is reached is one that its run comes to. -/
theorem Reached.leads {partIndex charStart : ℕ} (reached : Reached parsed turn partCount partIndex charStart) :
    (∃ parts : List TurnTextPart, parts.length + 1 = partIndex
      ∧ (∀ r, Ends (partRound parsed turn partCount) (parts, charStart) r →
          Ends (partRound parsed turn partCount) ([], 0) r)
      ∧ (Spins (partRound parsed turn partCount) (parts, charStart) →
          Spins (partRound parsed turn partCount) ([], 0)))
    ∧ (Spins (countRound parsed turn) partCount → Spins (countRound parsed turn) 1) := by
  induction reached with
  | first => exact ⟨⟨[], rfl, fun _ ends => ends, fun spins => spins⟩, fun spins => spins⟩
  | @next partCount partIndex charStart reached inside accepted free ih =>
      obtain ⟨⟨parts, here, ends, spins⟩, counts⟩ := ih
      subst here
      have round := partRound_next inside accepted free
      refine ⟨⟨_, ?_, fun r later => ends r (Ends.again round later), fun later => spins (Spins.again round later)⟩,
        counts⟩
      simp
  | @recount partCount partIndex reached differs ih =>
      obtain ⟨⟨parts, here, ends, _⟩, counts⟩ := ih
      refine ⟨⟨[], rfl, fun _ ends => ends, fun spins => spins⟩, ?_⟩
      intro later
      apply counts
      have length : parts.length = partIndex := by omega
      have round := countRound_settles (ends _ (Ends.leave (partRound_outside le_rfl)))
      rw [Except.map, length, if_neg differs] at round
      exact Spins.again round later

theorem split_stuck {partIndex charStart : ℕ} (reached : Reached parsed turn partCount partIndex charStart)
    (stuck : Stuck parsed turn turn.redactedText.length partIndex partCount charStart) :
    NeverEnds (fun fuel => splitTurnText parsed fuel turn) := by
  obtain ⟨⟨parts, here, _, spins⟩, counts⟩ := reached.leads
  have part : Spins (partRound parsed turn partCount) (parts, charStart) := by
    apply Spins.stuck
    intro fuel
    have never := fit_stuck stuck fuel
    simp only [partRound_inside stuck.1, here, never, Option.map_none]
  have count : Spins (countRound parsed turn) partCount := by
    apply Spins.stuck
    intro fuel
    have never := (spins part).neverEnds (partRound parsed turn partCount) fuel
    simp only [countRound, never, Option.map_none]
  exact (counts count).neverEnds (countRound parsed turn)

/-! ### More parts need more parts -/

variable (parsed turn) in
/-- Where the parts start under a number of parts. -/
def partStart (partCount : ℕ) : ℕ → ℕ
  | 0 => 0
  | index + 1 => partEnd parsed turn turn.redactedText.length (index + 1) partCount (partStart partCount index)

theorem partEnd_mono {length partIndex partCount partCount' charStart charStart' : ℕ} (counts : partCount ≤ partCount')
    (starts : charStart' ≤ charStart) :
    partEnd parsed turn length partIndex partCount' charStart' ≤
      partEnd parsed turn length partIndex partCount charStart := by
  have wider := width_mono counts
  have slower := width_add_le charStart' (charStart - charStart')
  rw [Nat.add_sub_cancel' starts] at slower
  apply cut_mono
  simp only [room]
  omega

theorem partStart_mono {partCount' : ℕ} (counts : partCount ≤ partCount') (index : ℕ) :
    partStart parsed turn partCount' index ≤ partStart parsed turn partCount index := by
  induction index with
  | zero => exact le_rfl
  | succ index ih => exact partEnd_mono counts ih

theorem Reached.start {partIndex charStart : ℕ} (reached : Reached parsed turn partCount partIndex charStart) :
    ∃ index, partIndex = index + 1 ∧ charStart = partStart parsed turn partCount index
      ∧ index ≤ charStart ∧ charStart ≤ turn.redactedText.length
      ∧ ∀ before < index, partStart parsed turn partCount before < turn.redactedText.length := by
  induction reached with
  | first => exact ⟨0, rfl, rfl, le_rfl, Nat.zero_le _, by simp⟩
  | next reached inside accepted free ih =>
      obtain ⟨index, rfl, rfl, low, high, starts⟩ := ih
      have moves := charStart_lt_partEnd inside accepted
      refine ⟨index + 1, rfl, rfl, by omega, cut_le, ?_⟩
      intro before earlier
      rcases Nat.lt_or_ge before index with less | same
      · exact starts before less
      · obtain rfl : before = index := by omega
        exact inside
  | recount reached differs ih => exact ⟨0, rfl, rfl, le_rfl, Nat.zero_le _, by simp⟩

/-- A larger number in the header does not make for fewer parts. -/
theorem Reached.parts_mono {partCount' parts parts' : ℕ} (counts : partCount ≤ partCount')
    (made : Reached parsed turn partCount (parts + 1) turn.redactedText.length)
    (made' : Reached parsed turn partCount' (parts' + 1) turn.redactedText.length) : parts ≤ parts' := by
  obtain ⟨index, same, _, _, _, starts⟩ := made.start
  obtain ⟨index', same', end_, _⟩ := made'.start
  obtain rfl : parts = index := by omega
  obtain rfl : parts' = index' := by omega
  by_contra fewer
  have inside := starts parts' (by omega)
  have before : partStart parsed turn partCount' parts' ≤ partStart parsed turn partCount parts' :=
    partStart_mono counts parts'
  omega

/-- Where no search goes round in a circle the parts are found, or the metadata is refused. -/
theorem parts_end (free : ∀ partIndex charStart, Reached parsed turn partCount partIndex charStart →
      ¬ Stuck parsed turn turn.redactedText.length partIndex partCount charStart)
    (parts : List TurnTextPart) (charStart : ℕ)
    (reached : Reached parsed turn partCount (parts.length + 1) charStart) :
    ∃ r, Ends (partRound parsed turn partCount) (parts, charStart) r
      ∧ ∀ made, r = .ok made → Reached parsed turn partCount (made.length + 1) turn.redactedText.length := by
  induction left : turn.redactedText.length - charStart using Nat.strongRecOn generalizing parts charStart with
  | _ n ih =>
      by_cases inside : charStart < turn.redactedText.length
      · by_cases refused : Refused parsed turn turn.redactedText.length (parts.length + 1) partCount charStart
        · exact ⟨_, Ends.raise (partRound_refused inside refused), by simp⟩
        · have here := free _ _ reached
          have moves := charStart_lt_partEnd inside refused
          have next := reached.next inside refused here
          generalize found : partEnd parsed turn turn.redactedText.length (parts.length + 1) partCount charStart =
            charEnd at moves next
          obtain ⟨r, ends, made⟩ := ih (turn.redactedText.length - charEnd) (by omega)
            (parts ++ [partAt turn parts partCount charStart charEnd]) charEnd (by simpa using next) rfl
          subst found
          exact ⟨r, Ends.again (partRound_next inside refused here) ends, made⟩
      · obtain ⟨_, _, _, _, high, _⟩ := reached.start
        obtain rfl : charStart = turn.redactedText.length := by omega
        refine ⟨_, Ends.leave (partRound_outside le_rfl), ?_⟩
        rintro made same
        obtain rfl : parts = made := by simpa using same
        exact reached

/-- The numbers of parts that are tried only grow, so they end at one that is consistent. -/
theorem counts_end (free : ∀ partCount partIndex charStart, Reached parsed turn partCount partIndex charStart →
      ¬ Stuck parsed turn turn.redactedText.length partIndex partCount charStart)
    (partCount : ℕ) (tried : Reached parsed turn partCount 1 0)
    (came : partCount = 1 ∨ ∃ before ≤ partCount,
      Reached parsed turn before (partCount + 1) turn.redactedText.length) :
    ∃ r, Ends (countRound parsed turn) partCount r := by
  induction left : turn.redactedText.length - partCount using Nat.strongRecOn generalizing partCount with
  | _ n ih =>
      obtain ⟨r, ends, reached⟩ := parts_end (free partCount) [] 0 tried
      have round := countRound_settles ends
      match r, ends, reached, round with
      | .error e, _, _, round => exact ⟨_, Ends.raise round⟩
      | .ok made, ends, reached, round =>
          have made' := reached made rfl
          rw [Except.map] at round
          by_cases same : made.length = partCount
          · rw [if_pos same] at round
            exact ⟨_, Ends.leave round⟩
          · rw [if_neg same] at round
            have again : Reached parsed turn made.length 1 0 := made'.recount same
            obtain ⟨index, at_, end_, low, high, _⟩ := made'.start
            by_cases empty : made.length = 0
            · obtain rfl : index = 0 := by omega
              have none : turn.redactedText.length = 0 := end_
              have alone : Ends (partRound parsed turn made.length) ([], 0) (.ok []) :=
                Ends.leave (partRound_outside (by omega))
              have last := countRound_settles alone
              rw [Except.map, empty, List.length_nil, if_pos rfl] at last
              rw [empty] at round
              exact ⟨_, Ends.again round (Ends.leave last)⟩
            · have grows : partCount ≤ made.length := by
                rcases came with rfl | ⟨before, earlier, reachedBefore⟩
                · omega
                · exact reachedBefore.parts_mono earlier made'
              obtain ⟨r, ends⟩ := ih _ (by omega) made.length again (.inr ⟨partCount, grows, made'⟩) rfl
              exact ⟨r, Ends.again round ends⟩

end Counts

variable (parsed turn) in
/-- The two searches end, with a result or a refusal, but where an end is sought in the gap below a
power of ten. -/
theorem splitTurnText_halts_iff :
    (∀ text : String, ∀ charStart partIndex partCount,
      Halts (fun fuel => fitTurnPartEnd parsed fuel turn text charStart partIndex partCount) ↔
        ¬ Stuck parsed turn text.length partIndex partCount charStart)
    ∧ (Halts (fun fuel => splitTurnText parsed fuel turn) ↔
        ∀ partCount partIndex charStart, Reached parsed turn partCount partIndex charStart →
          ¬ Stuck parsed turn turn.redactedText.length partIndex partCount charStart) := by
  constructor
  · intro text charStart partIndex partCount
    exact fit_halts_iff
  · constructor
    · intro halts partCount partIndex charStart reached stuck
      exact (split_stuck reached stuck).not_halts halts
    · intro free
      obtain ⟨r, ends⟩ := counts_end free 1 .first (.inl rfl)
      exact (ends.settles (countRound parsed turn)).halts

end Splitting

/-! ## A role that ends at the gap -/

/-- A turn whose role leaves a room of 1003 characters beside the header of its first part. -/
def gapTurn : TranscriptTurn where
  turnIndex := 0
  role := String.ofList (List.replicate 2918 'r')
  observedAt := ""
  redactedText := String.ofList (List.replicate 4096 'x')

def gapTranscript : ParsedTranscript where
  session := ⟨"sha256:" ++ String.ofList (List.replicate 64 'a'), "claude", "neurons"⟩
  turns := [gapTurn]
  sourceStatus := "source_locator_private_spool_only"

theorem room_gapTurn : room gapTranscript gapTurn 1 1 0 = 1003 := by
  have limit : maxTranscriptChunkTextChars = 4096 := rfl
  have one : width 1 = 1 := rfl
  have zero : width 0 = 1 := rfl
  have hash : gapTranscript.session.sessionIdHash.length = 71 := by
    simp only [gapTranscript, String.length_append, String.length_ofList, List.length_replicate]
    decide
  have index : (toString gapTurn.turnIndex).length = 1 := rfl
  have role : gapTurn.role.length = 2918 := by
    rw [gapTurn, String.length_ofList, List.length_replicate]
  rw [room, limit, one, zero, headerLength_eq, hash, index, role]

/-- The ends 999 and 1000 are corrected to each other for ever. -/
theorem gapTurn_never_splits : maxTranscriptChunkTextChars < (chunkText gapTranscript [gapTurn]).length ∧
    ¬ Halts (fun fuel => splitTurnText gapTranscript fuel gapTurn) := by
  have limit : maxTranscriptChunkTextChars = 4096 := rfl
  have length : gapTurn.redactedText.length = 4096 := by
    rw [gapTurn, String.length_ofList, List.length_replicate]
  constructor
  · have colon : ": ".length = 2 := by decide
    simp only [chunkText, List.map_cons, List.map_nil, List.min?_singleton, sortOn, List.insertionSort_cons,
      List.insertionSort_nil, List.orderedInsert_nil, List.cons_append, List.nil_append, turnLine,
      String.intercalate_cons_cons, String.intercalate_singleton, String.length_append, length]
    omega
  · apply (split_stuck .first _).not_halts
    rw [length]
    refine ⟨by omega, ?_, 3, by omega, ?_, by omega⟩
    · rw [Refused, room_gapTurn]
      decide
    · rw [room_gapTurn]
      rfl

end Neurons.SessionMemory
