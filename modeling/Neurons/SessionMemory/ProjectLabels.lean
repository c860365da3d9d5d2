import Neurons.SessionMemory.Layout
import Neurons.Source.Builders

/-! # Project labels of a transcript

`transcript_model.py` canonicalizes the captured project in the constructor of a session, and the label of
the session again in that of each chunk. The two agree exactly where the text that names the project
is not itself a slug: the path branch returns a component as it stands, and the slug branch the rest of a
slug, without looking at it again.
-/

namespace Neurons.SessionMemory

open Neurons.Source

/-! ## Lower case -/

/-- Library calls whose `lower` leaves lower-case texts alone and makes no path separators. -/
structure LowerFormats extends Formats where
  fixed : ∀ text settled : String, settled.toList ⊆ (lower text).toList → lower settled = settled
  separators : ∀ text : String, ∀ c ∈ (lower text).toList, c = '/' ∨ c = '\\' → c ∈ text.toList

/-! ## Slugs -/

section Slugs

theorem splitAtFirst_some {pattern text before rest : List Char}
    (found : splitAtFirst pattern text = some (before, rest)) : text = before ++ pattern ++ rest := by
  unfold splitAtFirst at found
  obtain ⟨⟨front, tail⟩, mem, here⟩ := List.exists_of_findSome?_eq_some found
  dsimp only at here
  split at here
  · next starts =>
      cases here
      have whole : before ++ tail = text := by
        obtain ⟨i, inside, same⟩ := List.mem_iff_getElem.mp mem
        rw [List.getElem_zip, List.getElem_inits, List.getElem_tails, Prod.mk.injEq] at same
        rw [← same.1, ← same.2, List.take_append_drop]
      obtain ⟨rest, rfl⟩ := List.isPrefixOf_iff_prefix.mp starts
      rw [← whole, List.drop_left, List.append_assoc]
  · cases here

theorem collapseDashes_sublist (text : List Char) : (collapseDashes text).Sublist text := by
  fun_induction collapseDashes text with
  | case1 rest ih => exact ih.cons _
  | case2 c rest _ ih => exact ih.cons_cons c
  | case3 => exact .slnil

theorem stripDashes_sublist (text : List Char) : (stripDashes text).Sublist text := by
  unfold stripDashes
  have inner := (List.dropWhile_sublist (· = '-') (l := (text.dropWhile (· = '-')).reverse)).reverse
  rw [List.reverse_reverse] at inner
  exact inner.trans (List.dropWhile_sublist _)

/-- `re.sub(r"-+", "-", value.strip("-"))` -/
def normalSlug (value : String) : List Char := collapseDashes (stripDashes value.toList)

variable (fmt : Formats)

/-- The lower-case slug without a worktree, in which the markers are looked for. -/
def slugText (value : String) : String :=
  let text := fmt.lower (String.ofList (normalSlug value))
  match splitAtFirst "claude-worktrees".toList text.toList with
  | some (before, _) =>
      let kept := ((normalSlug value).take before.length).reverse.dropWhile (· = '-')
      fmt.lower (String.ofList kept.reverse)
  | none => text

/-- The text is that of a user's directory and has a marker in front of the rest. -/
def Behind (text tail : String) : Prop :=
  (slugAfter "openclaw-" text).or (slugAfter "projects-" text) = some tail

/-- A slug that stands for something else: nothing but dashes, or a marker before the name. -/
def Rewritten (slug : String) : Prop := normalSlug slug = [] ∨ ∃ tail, Behind (slugText fmt slug) tail

theorem canonicalizeProjectSlug_eq (value : String) :
    canonicalizeProjectSlug fmt value =
      if normalSlug value = [] then some ""
      else (slugAfter "openclaw-" (slugText fmt value)).or (slugAfter "projects-" (slugText fmt value)) := rfl

/-- The slug text is made of characters of the slug. -/
theorem slugText_eq (value : String) :
    ∃ kept : List Char, slugText fmt value = fmt.lower (String.ofList kept) ∧ kept.Sublist value.toList := by
  have normal : (normalSlug value).Sublist value.toList :=
    (collapseDashes_sublist _).trans (stripDashes_sublist _)
  unfold slugText
  dsimp only
  split
  · next before rest _ =>
      refine ⟨_, rfl, ?_⟩
      have cut := (List.dropWhile_sublist (· = '-') (l := ((normalSlug value).take before.length).reverse)).reverse
      rw [List.reverse_reverse] at cut
      exact (cut.trans (List.take_sublist _ _)).trans normal
  · exact ⟨_, rfl, normal⟩

theorem slugAfter_some {marker text tail : String} (found : slugAfter marker text = some tail) :
    ∃ before c rest, tail = String.ofList (c :: rest) ∧ text.toList = before ++ marker.toList ++ c :: rest := by
  unfold slugAfter at found
  split at found
  · split at found
    · next before c rest shape =>
        cases found
        exact ⟨before, c, rest, rfl, splitAtFirst_some shape⟩
    · cases found
  · cases found

/-- What stands behind a marker is not empty, and shorter than the text. -/
theorem Behind.suffix {text tail : String} (behind : Behind text tail) :
    tail ≠ "" ∧ tail.toList ⊆ text.toList ∧ tail.length < text.length := by
  have marked : ∃ marker : String, marker ≠ "" ∧ slugAfter marker text = some tail := by
    rcases Option.or_eq_some_iff.mp behind with first | ⟨-, second⟩
    · exact ⟨"openclaw-", by decide, first⟩
    · exact ⟨"projects-", by decide, second⟩
  obtain ⟨marker, filled, found⟩ := marked
  obtain ⟨before, c, rest, rfl, shape⟩ := slugAfter_some found
  have long : marker.toList.length ≠ 0 := by
    rw [String.length_toList]
    exact fun blank => filled (String.length_eq_zero_iff.mp blank)
  refine ⟨?_, ?_, ?_⟩
  · intro blank
    have chars := congrArg String.toList blank
    rw [String.toList_ofList] at chars
    cases chars
  · intro d mem
    rw [String.toList_ofList] at mem
    rw [shape]
    exact List.mem_append_right _ mem
  · have lengths := congrArg List.length shape
    rw [String.length_toList, List.length_append, List.length_append] at lengths
    rw [String.length_ofList]
    omega

end Slugs

section Labels

variable (fmt : LowerFormats)

/-- No slug is the text behind its own marker. -/
theorem Behind.ne {slug tail : String} (behind : Behind (slugText fmt.toFormats slug) tail) :
    tail ≠ slug := by
  rintro rfl
  obtain ⟨-, within, shorter⟩ := behind.suffix
  obtain ⟨kept, text, part⟩ := slugText_eq fmt.toFormats tail
  rw [text] at within shorter
  -- the characters of the slug are lower case, and so the slug text is no longer than the slug
  have settled : fmt.lower (String.ofList kept) = String.ofList kept := by
    apply fmt.fixed (String.ofList kept)
    rw [String.toList_ofList]
    exact fun c mem => within (part.subset mem)
  rw [settled, String.length_ofList] at shorter
  have lengths := part.length_le
  rw [String.length_toList] at lengths
  omega

theorem slug_eq_self_iff {fmt : LowerFormats} {slug : String} (filled : slug ≠ "") :
    (canonicalizeProjectSlug fmt.toFormats slug).getD slug = slug ↔ ¬ Rewritten fmt.toFormats slug := by
  rw [canonicalizeProjectSlug_eq]
  unfold Rewritten
  by_cases normal : normalSlug slug = []
  · simp [normal, filled.symm]
  · rw [if_neg normal]
    cases found : (slugAfter "openclaw-" (slugText fmt.toFormats slug)).or
        (slugAfter "projects-" (slugText fmt.toFormats slug)) with
    | none => simp [normal, Behind, found]
    | some tail =>
        have other := Behind.ne fmt found
        simp [normal, Behind, found, other]

/-! ## Paths -/

theorem mem_splitOn {a : Char} {text part : List Char} (mem : part ∈ text.splitOn a) :
    ∀ c ∈ part, c ∈ text ∧ c ≠ a := by
  induction text generalizing part with
  | nil =>
      rw [List.splitOn_nil, List.mem_singleton] at mem
      subst mem
      exact nofun
  | cons d rest ih =>
      rw [List.splitOn_cons_eq_if_modifyHead] at mem
      split at mem
      · rcases List.mem_cons.mp mem with rfl | later
        · exact nofun
        · intro c within
          exact (ih later c within).imp_left (List.mem_cons_of_mem d)
      · next other =>
          obtain ⟨first, others, shape⟩ := List.exists_cons_of_ne_nil (List.splitOn_ne_nil a rest)
          rw [shape, List.modifyHead_cons] at mem
          rcases List.mem_cons.mp mem with rfl | later
          · intro c within
            rcases List.mem_cons.mp within with rfl | within
            · exact ⟨List.mem_cons_self, by simpa using other⟩
            · exact (ih (shape ▸ List.mem_cons_self) c within).imp_left (List.mem_cons_of_mem d)
          · intro c within
            exact (ih (shape ▸ List.mem_cons_of_mem first later) c within).imp_left (List.mem_cons_of_mem d)

/-- The text has a path separator. -/
def HasSeparator (value : String) : Prop := '/' ∈ value.toList ∨ '\\' ∈ value.toList

instance (value : String) : Decidable (HasSeparator value) := by
  unfold HasSeparator
  infer_instance

/-- A component of a path is a text without separators. -/
theorem mem_pathParts {value part : String} (mem : part ∈ pathParts value) : part ≠ "" ∧ ¬ HasSeparator part := by
  obtain ⟨chars, listed, rfl⟩ := List.mem_map.mp mem
  obtain ⟨split, filled⟩ := List.mem_filter.mp listed
  have inside := mem_splitOn split
  constructor
  · intro blank
    have empty := congrArg String.toList blank
    rw [String.toList_ofList] at empty
    simp [empty] at filled
  · rw [HasSeparator, String.toList_ofList]
    rintro (slash | backslash)
    · exact (inside _ slash).2 rfl
    · obtain ⟨c, -, same⟩ := List.mem_map.mp (inside _ backslash).1
      split at same
      · cases same
      · next other => exact other same

/-- The component that names the project of a path: the one behind a marker, or the last one. -/
def namesProject (fmt : Formats) (parts : List String) : Option String :=
  (partAfter fmt ".openclaw" parts).or ((partAfter fmt "projects" parts).or parts.getLast?)

theorem namesProject_mem {fmt : Formats} {parts : List String} {part : String}
    (named : namesProject fmt (beforeWorktrees fmt parts) = some part) : part ∈ parts := by
  have kept : beforeWorktrees fmt parts ⊆ parts := by
    unfold beforeWorktrees
    dsimp only
    split
    · exact List.take_subset _ _
    · exact List.Subset.refl _
  apply kept
  have after {marker : String} (found : partAfter fmt marker (beforeWorktrees fmt parts) = some part) :
      part ∈ beforeWorktrees fmt parts := by
    unfold partAfter at found
    dsimp only at found
    split at found
    · exact List.mem_of_getElem? found
    · cases found
  rcases Option.or_eq_some_iff.mp named with first | ⟨-, others⟩
  · exact after first
  · rcases Option.or_eq_some_iff.mp others with second | ⟨-, last⟩
    · exact after second
    · exact List.mem_of_getLast? last

theorem canonicalizeProject_path {fmt : Formats} {value : String} (path : HasSeparator value) :
    canonicalizeProject fmt value =
      if pathParts value = [] then .ok ""
      else
        match namesProject fmt (beforeWorktrees fmt (pathParts value)) with
        | some part => .ok part
        | none => .error (.indexError "list index out of range") := by
  have filled : value ≠ "" := by
    rintro rfl
    rcases path with slash | backslash
    · cases slash
    · cases backslash
  have split : ¬ ('/' ∉ value.toList ∧ '\\' ∉ value.toList) := by
    rintro ⟨noSlash, noBackslash⟩
    exact path.elim noSlash noBackslash
  rw [canonicalizeProject, if_neg filled, canonicalizeProjectPath, if_neg split]
  by_cases empty : pathParts value = []
  · rw [if_pos empty, if_pos empty]
    rfl
  · rw [if_neg empty, if_neg empty]
    dsimp only
    rw [← namesProject]
    cases namesProject fmt (beforeWorktrees fmt (pathParts value)) with
    | none => rfl
    | some part => rfl

theorem canonicalizeProject_slug {fmt : Formats} {value : String} (plain : ¬ HasSeparator value) (filled : value ≠ "") :
    canonicalizeProject fmt value = .ok ((canonicalizeProjectSlug fmt value).getD value) := by
  have both : '/' ∉ value.toList ∧ '\\' ∉ value.toList := not_or.mp plain
  rw [canonicalizeProject, if_neg filled, canonicalizeProjectPath, if_pos both]
  rfl

theorem canonicalizeProject_blank (fmt : Formats) : canonicalizeProject fmt "" = .ok "" := rfl

/-! ## Labels put in again -/

/-- The project has a label that keeps when it is put in again. -/
def Keeps (fmt : Formats) (project : String) : Prop :=
  ∃ label, canonicalizeProject fmt project = .ok label ∧ canonicalizeProject fmt label = .ok label

/-- The text that names the project is there and no slug that stands for something else. -/
def Settled (fmt : Formats) (project : String) : Prop :=
  if HasSeparator project then
    pathParts project = [] ∨
      ∃ part, namesProject fmt (beforeWorktrees fmt (pathParts project)) = some part ∧ ¬ Rewritten fmt part
  else ∀ tail, Behind (slugText fmt project) tail → ¬ Rewritten fmt tail

variable {fmt}

theorem label_keeps_iff (fmt : LowerFormats) {label : String} (plain : ¬ HasSeparator label) (filled : label ≠ "") :
    canonicalizeProject fmt.toFormats label = .ok label ↔ ¬ Rewritten fmt.toFormats label := by
  rw [canonicalizeProject_slug plain filled, Except.ok.injEq, slug_eq_self_iff filled]

/-- The text behind the marker of a slug has no separators either. -/
theorem Behind.plain {slug tail : String} (plain : ¬ HasSeparator slug)
    (behind : Behind (slugText fmt.toFormats slug) tail) : ¬ HasSeparator tail := by
  obtain ⟨-, within, -⟩ := behind.suffix
  obtain ⟨kept, text, part⟩ := slugText_eq fmt.toFormats slug
  rw [text] at within
  have separator (c : Char) (mem : c ∈ tail.toList) (either : c = '/' ∨ c = '\\') : c ∈ slug.toList := by
    have inside := fmt.separators _ c (within mem) either
    rw [String.toList_ofList] at inside
    exact part.subset inside
  rintro (slash | backslash)
  · exact plain (.inl (separator _ slash (.inl rfl)))
  · exact plain (.inr (separator _ backslash (.inr rfl)))

theorem lower_blank : fmt.lower "" = "" := fmt.fixed "" "" (List.nil_subset _)

/-- A slug without characters has nothing behind a marker. -/
theorem not_behind_of_normalSlug {slug tail : String} (normal : normalSlug slug = []) :
    ¬ Behind (slugText fmt.toFormats slug) tail := by
  intro behind
  have shorter := behind.suffix.2.2
  obtain blank : slugText fmt.toFormats slug = "" := by
    unfold slugText
    rw [normal]
    dsimp only
    split
    · next before _ _ =>
        rw [List.take_nil]
        exact lower_blank
    · exact lower_blank
  rw [blank, String.length_empty] at shorter
  omega

theorem keeps_of_path {project : String} (path : HasSeparator project) :
    Keeps fmt.toFormats project ↔ pathParts project = [] ∨
      ∃ part, namesProject fmt.toFormats (beforeWorktrees fmt.toFormats (pathParts project)) = some part ∧
        ¬ Rewritten fmt.toFormats part := by
  unfold Keeps
  rw [canonicalizeProject_path path]
  by_cases empty : pathParts project = []
  · rw [if_pos empty]
    simp only [empty, true_or, iff_true]
    exact ⟨"", rfl, canonicalizeProject_blank _⟩
  · rw [if_neg empty]
    simp only [empty, false_or]
    cases named : namesProject fmt.toFormats (beforeWorktrees fmt.toFormats (pathParts project)) with
    | none => simp
    | some part =>
        obtain ⟨filled, plain⟩ := mem_pathParts (namesProject_mem named)
        have again := label_keeps_iff fmt plain filled
        constructor
        · rintro ⟨label, first, second⟩
          cases first
          exact ⟨part, rfl, again.mp second⟩
        · rintro ⟨part', same, settled⟩
          cases same
          exact ⟨part, rfl, again.mpr settled⟩

theorem keeps_of_slug {project : String} (plain : ¬ HasSeparator project) :
    Keeps fmt.toFormats project ↔
      ∀ tail, Behind (slugText fmt.toFormats project) tail → ¬ Rewritten fmt.toFormats tail := by
  by_cases filled : project = ""
  · subst filled
    constructor
    · intro _ tail behind
      exact absurd behind (not_behind_of_normalSlug rfl)
    · intro _
      exact ⟨"", canonicalizeProject_blank _, canonicalizeProject_blank _⟩
  · unfold Keeps
    rw [canonicalizeProject_slug plain filled, canonicalizeProjectSlug_eq]
    by_cases normal : normalSlug project = []
    · rw [if_pos normal]
      constructor
      · intro _ tail behind
        exact absurd behind (not_behind_of_normalSlug normal)
      · intro _
        exact ⟨"", rfl, canonicalizeProject_blank _⟩
    · rw [if_neg normal]
      cases found : (slugAfter "openclaw-" (slugText fmt.toFormats project)).or
          (slugAfter "projects-" (slugText fmt.toFormats project)) with
      | none =>
          have slug : (canonicalizeProjectSlug fmt.toFormats project).getD project = project := by
            rw [canonicalizeProjectSlug_eq, if_neg normal, found, Option.getD_none]
          constructor
          · intro _ tail behind
            rw [Behind, found] at behind
            cases behind
          · intro _
            refine ⟨project, rfl, ?_⟩
            rw [canonicalizeProject_slug plain filled, slug]
      | some tail =>
          have behind : Behind (slugText fmt.toFormats project) tail := found
          have again := label_keeps_iff fmt (Behind.plain plain behind) behind.suffix.1
          constructor
          · rintro ⟨label, first, second⟩ tail' behind'
            cases first
            rw [Behind, found] at behind'
            cases behind'
            exact again.mp second
          · intro settled
            exact ⟨tail, rfl, again.mpr (settled tail behind)⟩

theorem keeps_iff {project : String} : Keeps fmt.toFormats project ↔ Settled fmt.toFormats project := by
  unfold Settled
  split
  · next path => exact keeps_of_path path
  · next plain => exact keeps_of_slug plain

end Labels

/-! ## Sessions, chunks and records of one project -/

section Drafts

variable {py : Platform} {readTime : String → Except PyError (Option Int)} {parsed : ParsedTranscript}

/-- The chunks are all called with the session of the transcript. -/
def OfSession (parsed : ParsedTranscript) (drafts : List ChunkDraft) : Prop :=
  ∀ draft ∈ drafts, draft.session = parsed.session

theorem OfSession.append {first second : List ChunkDraft} (front : OfSession parsed first)
    (back : OfSession parsed second) : OfSession parsed (first ++ second) := by
  intro draft mem
  rcases List.mem_append.mp mem with before | behind
  · exact front draft before
  · exact back draft behind

theorem buildChunkForTurns_session {turns : List TranscriptTurn} {draft : ChunkDraft}
    (built : buildChunkForTurns py readTime parsed turns = .ok draft) : draft.session = parsed.session := by
  unfold buildChunkForTurns at built
  split at built
  · dsimp only at built
    cases bounds : nativeTurnBounds readTime turns with
    | error e =>
        rw [bounds] at built
        cases built
    | ok found =>
        rw [bounds] at built
        cases built
        rfl
  · cases built

theorem flush_ofSession {chunks chunks' : List ChunkDraft} {turns : List TranscriptTurn}
    (before : OfSession parsed chunks) (flushed : flush py readTime parsed chunks turns = .ok chunks') :
    OfSession parsed chunks' := by
  unfold flush at flushed
  split at flushed
  · cases flushed
    exact before
  · cases built : buildChunkForTurns py readTime parsed turns with
    | error e =>
        rw [built] at flushed
        cases flushed
    | ok draft =>
        rw [built] at flushed
        cases flushed
        apply before.append
        intro other mem
        rw [List.mem_singleton.mp mem]
        exact buildChunkForTurns_session built

theorem longTurn_ofSession {fuel : ℕ} {turn : TranscriptTurn} {drafts : List ChunkDraft}
    (built : buildChunksForLongTurn py readTime parsed fuel turn = some (.ok drafts)) : OfSession parsed drafts := by
  obtain ⟨bounds, -, next⟩ := returned_bind built
  obtain ⟨parts, -, last⟩ := returned_bind next
  cases last
  intro draft mem
  obtain ⟨part, -, rfl⟩ := List.mem_map.mp mem
  rfl

theorem packTurns_ofSession {fuel : ℕ} {chunks result : List ChunkDraft} {currentTurns rest : List TranscriptTurn}
    (before : OfSession parsed chunks)
    (returned : packTurns py readTime parsed fuel chunks currentTurns rest = some (.ok result)) :
    OfSession parsed result := by
  induction rest generalizing chunks currentTurns with
  | nil => exact flush_ofSession before (Option.some.inj returned)
  | cons turn rest ih =>
      rw [packTurns] at returned
      split at returned
      · obtain ⟨flushed, done, next⟩ := returned_bind returned
        obtain ⟨parts, built, later⟩ := returned_bind next
        have front := flush_ofSession before (Option.some.inj done)
        exact ih (front.append (longTurn_ofSession built)) later
      · split at returned
        · obtain ⟨flushed, done, later⟩ := returned_bind returned
          exact ih (flush_ofSession before (Option.some.inj done)) later
        · exact ih before returned

theorem buildTranscriptChunks_ofSession {fuel : ℕ} {drafts : List ChunkDraft}
    (returned : buildTranscriptChunks py readTime parsed fuel = some (.ok drafts)) : OfSession parsed drafts := by
  unfold buildTranscriptChunks at returned
  dsimp only at returned
  split at returned
  · cases returned
  · have start : OfSession parsed [] := by
      intro draft mem
      cases mem
    exact packTurns_ofSession start returned

end Drafts

/-- A transcript of a captured project: its session, with the label that the constructor gives it, and the
    chunks that are built of the session. -/
structure Ingest (py : Platform) (readTime : String → Except PyError (Option Int)) (fmt : Formats) (project : String)
    where
  parsed : ParsedTranscript
  fuel : ℕ
  drafts : List ChunkDraft
  labelled : canonicalizeProject fmt project = .ok parsed.session.project
  built : buildTranscriptChunks py readTime parsed fuel = some (.ok drafts)

section Ingests

variable {py : Platform} {readTime : String → Except PyError (Option Int)}

/-- The project that the constructor of a chunk writes. -/
def ChunkDraft.label (fmt : Formats) (draft : ChunkDraft) : Except PyError String :=
  canonicalizeProject fmt draft.session.project

/-- The chunks and a record of the project carry the label of the session. -/
def Ingest.OneLabel {fmt : Formats} {project : String} (ingest : Ingest py readTime fmt project) : Prop :=
  canonicalizeProject fmt project = .ok ingest.parsed.session.project ∧
    ∀ draft ∈ ingest.drafts, draft.label fmt = .ok ingest.parsed.session.project

theorem Ingest.oneLabel_iff {fmt : Formats} {project : String} (ingest : Ingest py readTime fmt project) :
    ingest.OneLabel ↔ ingest.drafts = [] ∨ Keeps fmt project := by
  have session := buildTranscriptChunks_ofSession ingest.built
  have keeps : Keeps fmt project ↔
      canonicalizeProject fmt ingest.parsed.session.project = .ok ingest.parsed.session.project := by
    unfold Keeps
    rw [ingest.labelled]
    constructor
    · rintro ⟨label, first, again⟩
      cases first
      exact again
    · intro again
      exact ⟨_, rfl, again⟩
  rw [keeps]
  constructor
  · intro one
    by_cases none : ingest.drafts = []
    · exact .inl none
    · obtain ⟨draft, mem⟩ := List.exists_mem_of_ne_nil _ none
      have label := one.2 draft mem
      rw [ChunkDraft.label, session draft mem] at label
      exact .inr label
  · intro either
    refine ⟨ingest.labelled, ?_⟩
    intro draft mem
    rw [ChunkDraft.label, session draft mem]
    rcases either with empty | again
    · rw [empty] at mem
      cases mem
    · exact again

/-- A project has a label that keeps exactly when the text that names it is there and is no slug for something else;
    and exactly then its session, its chunks and its records carry one label, where it has any chunks. -/
theorem one_label_iff (py : Platform) (readTime : String → Except PyError (Option Int)) (fmt : LowerFormats)
    (project : String) :
    (Keeps fmt.toFormats project ↔ Settled fmt.toFormats project) ∧
      ∀ ingest : Ingest py readTime fmt.toFormats project,
        ingest.OneLabel ↔ ingest.drafts = [] ∨ Settled fmt.toFormats project := by
  refine ⟨keeps_iff, ?_⟩
  intro ingest
  rw [ingest.oneLabel_iff, keeps_iff]

end Ingests

/-! ## The label of a worktree's transcripts -/

/-- A character that `lower` leaves as it is. -/
def Lowered (c : Char) : Prop := c.toLower = c ∧ c.toNat ≠ 0x212a ∧ c.toNat ≠ 0x130

instance (c : Char) : Decidable (Lowered c) := by
  unfold Lowered
  infer_instance

/-- A capital letter has a small one, which is no separator. -/
theorem lowered_of_upper : ∀ n ∈ List.range' 65 26,
    Lowered (Char.ofNat n).toLower ∧ (Char.ofNat n).toLower ≠ '/' ∧ (Char.ofNat n).toLower ≠ '\\' := by
  decide +kernel

theorem toLower_cases (c : Char) :
    c.toLower = c ∨ Lowered c.toLower ∧ c.toLower ≠ '/' ∧ c.toLower ≠ '\\' := by
  by_cases upper : 65 ≤ c.toNat ∧ c.toNat ≤ 90
  · right
    have letter := lowered_of_upper c.toNat (by simp only [List.mem_range'_1]; omega)
    rwa [Char.ofNat_toNat] at letter
  · left
    have other : ¬ ('A'.val ≤ c.val ∧ c.val ≤ 'Z'.val) := by
      simpa [UInt32.le_iff_toNat_le] using upper
    exact dif_neg other

theorem mem_lower {text : String} {c : Char} (mem : c ∈ (Source.lower text).toList) :
    Lowered c ∧ (c = '/' ∨ c = '\\' → c ∈ text.toList) := by
  rw [Source.lower, String.toList_ofList] at mem
  obtain ⟨d, inside, made⟩ := List.mem_flatMap.mp mem
  split at made
  · rw [List.mem_singleton.mp made]
    exact ⟨by decide, fun separator => absurd separator (by decide)⟩
  · next kelvin =>
      split at made
      · simp only [List.mem_cons, List.not_mem_nil, or_false] at made
        rcases made with rfl | rfl
        · exact ⟨by decide, fun separator => absurd separator (by decide)⟩
        · exact ⟨by decide, fun separator => absurd separator (by decide)⟩
      · next dotted =>
          obtain rfl := List.mem_singleton.mp made
          rcases toLower_cases d with fixed | ⟨lowered, noSlash, noBackslash⟩
          · rw [fixed]
            exact ⟨⟨fixed, kelvin, dotted⟩, fun _ => inside⟩
          · refine ⟨lowered, ?_⟩
            intro separator
            exact absurd separator (not_or.mpr ⟨noSlash, noBackslash⟩)

theorem lower_eq_self {text : String} (lowered : ∀ c ∈ text.toList, Lowered c) : Source.lower text = text := by
  have same : text.toList.flatMap (fun c =>
      if c.toNat = 0x212a then ['k']
      else if c.toNat = 0x130 then ['i', Char.ofNat 0x307]
      else [c.toLower]) = text.toList.flatMap fun c => [c] := by
    apply List.flatMap_congr
    intro c mem
    obtain ⟨fixed, kelvin, dotted⟩ := lowered c mem
    rw [if_neg kelvin, if_neg dotted, fixed]
  rw [Source.lower, same, List.flatMap_singleton', String.ofList_toList]

/-- The plain library calls, whose `lower` keeps the laws. -/
def plainLower : LowerFormats where
  toFormats := plainFormats
  fixed := fun _ _ within => lower_eq_self fun _ mem => (mem_lower (within mem)).1
  separators := fun _ _ mem => (mem_lower mem).2

/-- The directory in which Claude keeps the transcripts of a project. -/
def transcriptDirectory : String := "/Users/me/.claude/projects/-Users-me-Projects-neurons"

/-- A short transcript, with the label that its session gets of the directory. -/
def directoryTranscript : ParsedTranscript where
  session := ⟨"sha256:1f", "claude", "-Users-me-Projects-neurons"⟩
  turns := [⟨0, "user", "", "go"⟩]
  sourceStatus := "source_locator_private_spool_only"

/-- The session is labelled with the slug of the directory, its chunks with the name of the project. -/
theorem directoryTranscript_labels :
    canonicalizeProject plainLower.toFormats transcriptDirectory = .ok "-Users-me-Projects-neurons" ∧
      canonicalizeProject plainLower.toFormats "-Users-me-Projects-neurons" = .ok "neurons" ∧
      ¬ Keeps plainLower.toFormats transcriptDirectory ∧
      ∃ ingest : Ingest referencePlatform noTimes plainLower.toFormats transcriptDirectory, ¬ ingest.OneLabel := by
  have session : canonicalizeProject plainLower.toFormats transcriptDirectory = .ok "-Users-me-Projects-neurons" := by
    decide +kernel
  have chunk : canonicalizeProject plainLower.toFormats "-Users-me-Projects-neurons" = .ok "neurons" := by
    decide +kernel
  have changes : ¬ Keeps plainLower.toFormats transcriptDirectory := by
    rintro ⟨label, first, again⟩
    rw [session] at first
    cases first
    rw [chunk, Except.ok.injEq] at again
    exact absurd again (by decide)
  obtain ⟨drafts, filled, built⟩ : ∃ drafts, drafts ≠ [] ∧
      buildTranscriptChunks referencePlatform noTimes directoryTranscript 0 = some (.ok drafts) := by
    apply buildTranscriptChunks_short rfl rfl
    rw [TooLong]
    decide
  refine ⟨session, chunk, changes, ⟨directoryTranscript, 0, drafts, session, built⟩, ?_⟩
  rw [Ingest.oneLabel_iff]
  exact not_or.mpr ⟨filled, changes⟩

end Neurons.SessionMemory
