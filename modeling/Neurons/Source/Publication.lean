import Neurons.Lib.Rely
import Neurons.Source.Receipts
import Neurons.Source.ReferencePlatform
import Neurons.Source.Revisions

/-! # Writers of one projection state

Commits and pending marks write on condition that the state still has the revision they read,
and revision numbers only grow: what they replace is what they have read. The backfill writes
without a condition, but under an id that is never a session's.
-/

namespace Neurons.Source

open Neurons.Lib

/-! ## What each writer promises -/

section Promises

variable (docId : String)

/-- The receipt in a slot of the stored state. -/
def Slot.at (s : Store) (slot : Slot) : Option Json := slot.stored ((s.get docId).getD ∅)

/-- What any writer does to the state: it leaves it or revises it. -/
def Relied (s s' : Store) : Prop := s.Numbered → s'.Numbered ∧ Later (s.get docId) (s'.get docId)

/-- What this writer does: it leaves the receipts of the other backends, and a commit brings its own. -/
structure Promise (w : Writer) (s s' : Store) : Prop where
  relied : Relied docId s s'
  kept : s.Numbered → ∀ slot, w.slot? ≠ some slot → slot.at docId s' = slot.at docId s
  brings : s.Numbered → ∀ c clock, w = .commit c clock →
    c.slot.at docId s' = c.slot.at docId s ∨ c.Brings (c.slot.at docId s')
  untouched : w.isBackfill → s'.get docId = s.get docId

/-- What a writer makes of the state where it does not leave it. -/
structure Writer.Rewrites (w : Writer) (d d' : Doc) : Prop where
  writes : w.isBackfill = false
  kept : ∀ slot, w.slot? ≠ some slot → slot.stored d' = slot.stored d
  brings : ∀ c clock, w = .commit c clock → c.slot.stored d' = c.slot.stored d ∨ c.Brings (c.slot.stored d')
  projected : (∀ c clock, w = .commit c clock → c.ClaimsProjected) → ∀ slot : Slot, slot.Projected d → slot.Projected d'

/-- The writer leaves the state, or rewrites the one that is stored. -/
structure Revises (w : Writer) (s s' : Store) : Prop where
  relied : Relied docId s s'
  rewrote : s.Numbered → s'.get docId = s.get docId ∨
    ∃ d rev hash, s'.get docId = some (Store.stamp d docId rev hash) ∧ w.Rewrites ((s.get docId).getD ∅) d

variable {docId} {s s' : Store} {w : Writer} {py : Platform} {α : Type}

theorem Relied.refl (s : Store) : Relied docId s s := fun numbered => ⟨numbered, .inl rfl⟩

theorem Relied.trans {s'' : Store} (first : Relied docId s s') (second : Relied docId s' s'') :
    Relied docId s s'' := by
  intro numbered
  obtain ⟨numbered', later⟩ := first numbered
  obtain ⟨numbered'', later'⟩ := second numbered'
  exact ⟨numbered'', later.trans later'⟩

/-- A step that leaves the state keeps every promise. -/
theorem Revises.of_same (numbered : s.Numbered → s'.Numbered) (same : s'.get docId = s.get docId) :
    Revises docId w s s' where
  relied holds := ⟨numbered holds, .inl same⟩
  rewrote _ := .inl same

theorem Revises.promise (numbered : s.Numbered) (revises : Revises docId w s s') : Promise docId w s s' where
  relied := revises.relied
  kept _ slot other := by
    rcases revises.rewrote numbered with same | ⟨d, rev, hash, written, rewrites⟩
    · rw [Slot.at, same, Slot.at]
    · rw [Slot.at, written, Option.getD_some, Slot.stored_stamp, rewrites.kept slot other, Slot.at]
  brings _ c clock commits := by
    rcases revises.rewrote numbered with same | ⟨d, rev, hash, written, rewrites⟩
    · exact .inl (by rw [Slot.at, same, Slot.at])
    · rw [Slot.at, written, Option.getD_some, Slot.stored_stamp]
      exact rewrites.brings c clock commits
  untouched backfill := by
    rcases revises.rewrote numbered with same | ⟨d, rev, hash, written, rewrites⟩
    · exact same
    · rw [rewrites.writes] at backfill
      cases backfill

/-- A projection's receipt is only replaced by another's. -/
theorem Revises.projected (revises : Revises docId w s s') (numbered : s.Numbered)
    (claims : ∀ c clock, w = .commit c clock → c.ClaimsProjected) {slot : Slot}
    (projected : slot.Projected ((s.get docId).getD ∅)) : slot.Projected ((s'.get docId).getD ∅) := by
  rcases revises.rewrote numbered with same | ⟨d, rev, hash, written, rewrites⟩
  · rw [same]
    exact projected
  · rw [written, Option.getD_some]
    exact (rewrites.projected claims slot projected).congr (Slot.stored_stamp slot d docId rev hash)

/-- Rewriting that leaves every receipt. -/
theorem Writer.Rewrites.of_stored {d d' : Doc} (writes : w.isBackfill = false)
    (same : ∀ slot : Slot, slot.stored d' = slot.stored d) : w.Rewrites d d' where
  writes := writes
  kept slot _ := same slot
  brings c _ _ := .inl (same c.slot)
  projected _ slot projected := projected.congr (same slot)

/-- The state was read as `o`. -/
structure Held (docId : String) (o : Option Doc) (s : Store) : Prop where
  numbered : s.Numbered
  later : Later o (s.get docId)
  own : ∀ d, o = some d → d.text .id = docId
  counted : ∀ d, o = some d → ∃ n, Numbered d n

theorem Held.read (numbered : s.Numbered) : Held docId (s.get docId) s where
  numbered := numbered
  later := .inl rfl
  own _ found := Store.get_keyed found
  counted d found := numbered docId d found

theorem Held.relied {o : Option Doc} (held : Held docId o s) (relied : Relied docId s s') : Held docId o s' :=
  ⟨(relied held.numbered).1, held.later.trans (relied held.numbered).2, held.own, held.counted⟩

variable (py) in
/-- A write on condition that the state still is the one that was read. -/
theorem Held.putIfRevision {o : Option Doc} {d : Doc} (held : Held docId o s) (own : d.text .id = docId)
    (rewrites : w.Rewrites (o.getD ∅) d) :
    Revises docId w s ((Op.putIfRevision d ((o.map (·.text .rev)).getD "")).exec py s).2 := by
  unfold Op.exec
  cases performed : Op.perform py (.putIfRevision d ((o.map (·.text .rev)).getD "")) s with
  | error e => exact .of_same id rfl
  | ok result =>
      obtain ⟨reply, s'⟩ := result
      obtain ⟨⟨r, after⟩, done, same⟩ := except_map_eq_ok performed
      cases same
      rcases putIfRevision_revised held.numbered done with rfl | ⟨revised, rev⟩
      · exact .of_same id rfl
      · rw [own] at rev
        have unchanged : s.get docId = o := held.later.same py held.counted rev
        refine ⟨fun numbered => ⟨revised.numbered numbered, revised.later docId⟩, fun _ => .inr ?_⟩
        obtain ⟨n, hash, assigned, -⟩ := revised
        refine ⟨d, revText n hash, hash, ?_, by rwa [unchanged]⟩
        change after.get docId = _
        rw [assigned, Store.get_assign, Doc.text_congr (Store.get?_stamp d _ _ _ (by decide)), if_pos own.symm, own]

/-! ### Programs -/

section Programs

def StoreCall.Reads : {β : Type} → StoreCall β → Prop
  | _, .get _ | _, .findBySession _ _ => True
  | _, .write _ => False

theorem uses_resolve (sessionIdHash : String) :
    (resolveActiveSourceRevision py storeReader sessionIdHash).Uses StoreCall.Reads := by
  have get (docId : String) : (getDocument docId).Uses StoreCall.Reads := ⟨trivial, fun _ => trivial⟩
  have pure_ {α : Type} (x : Except PyError α) : (ofExcept x : StoreProgram α).Uses StoreCall.Reads := by
    rw [ofExcept_eq]
    exact .ofExcept x
  have member (revision : String) (membership : Doc) :
      (validateMemberAndSource py getDocument sessionIdHash revision membership).Uses StoreCall.Reads := by
    unfold validateMemberAndSource
    refine (get _).bind fun found => (pure_ _).bind fun fields => (get _).bind fun source => ?_
    cases source with
    | none => trivial
    | some source => exact (pure_ _).bind fun _ => trivial
  unfold resolveActiveSourceRevision
  refine (pure_ _).bind fun _ => Prog.Uses.bind (get _) fun pointer => ?_
  cases pointer with
  | none =>
      refine Prog.Uses.bind ?_ fun documents => pure_ _
      exact ⟨trivial, fun _ => ⟨trivial, fun _ => ⟨trivial, fun _ => trivial⟩⟩⟩
  | some pointer =>
      change (resolvePinned py getDocument sessionIdHash pointer).Uses StoreCall.Reads
      unfold resolvePinned
      refine (pure_ _).bind fun parsed => (get _).bind fun manifest => ?_
      cases manifest with
      | none => trivial
      | some manifest =>
          refine (pure_ _).bind fun members => ?_
          refine (Prog.Uses.mapM (member parsed.activeRevision) members).bind fun documents => ?_
          refine (pure_ _).bind fun hash => ?_
          split <;> trivial

theorem uses_currentSessionSourceHash (sessionIdHash : String) :
    (currentSessionSourceHash py sessionIdHash).Uses StoreCall.Reads := by
  refine (uses_resolve sessionIdHash).bind fun resolved => ?_
  split <;> trivial

variable {o : Option Doc}

/-- What was read stays read while a program only reads. -/
theorem Held.reads {p : StoreProgram α} (held : Held docId o s) (uses : p.Uses StoreCall.Reads) :
    p.Guarantees (StoreCall.exec py) (Relied docId) (Revises docId w) (fun _ s' => Held docId o s') s := by
  have safe : p.Guarantees (StoreCall.exec py) (Relied docId) (Revises docId w) (fun _ s' => Relied docId s s') s := by
    refine Prog.Guarantees.of_uses uses Relied.trans (Relied.refl s) ?_
    intro β c s reads
    cases c with
    | get | findBySession => exact ⟨.of_same id rfl, Relied.refl _⟩
    | write => cases reads
  exact safe.weaken fun _ _ relied => held.relied relied

theorem guarantees_get (numbered : s.Numbered) : (getDocument docId).Guarantees (StoreCall.exec py) (Relied docId)
    (Revises docId w) (fun found s' => Held docId found s') s := by
  intro s' relied
  exact ⟨.of_same id rfl, Held.read (relied numbered).1⟩

theorem guarantees_ofExcept {Q : α → Store → Prop} {x : Except PyError α} (holds : ∀ a, x = .ok a → Q a s) :
    (ofExcept x : StoreProgram α).Guarantees (StoreCall.exec py) (Relied docId) (Revises docId w) Q s := by
  rw [ofExcept_eq]
  cases x with
  | ok a => exact holds a rfl
  | error e => trivial

theorem Held.attemptOp {d : Doc} (held : Held docId o s) (own : d.text .id = docId)
    (rewrites : w.Rewrites (o.getD ∅) d) :
    (Source.attemptOp (.putIfRevision d ((o.map (·.text .rev)).getD ""))).Guarantees (StoreCall.exec py)
      (Relied docId) (Revises docId w) (fun _ s' => Relied docId s s') s := by
  intro s' relied
  have revises := Held.putIfRevision py (held.relied relied) own rewrites
  refine ⟨revises, ?_⟩
  have moved := relied.trans revises.relied
  change Prog.Guarantees _ _ _ _ (Prog.tryCatch (Prog.bind (Prog.ofExcept ((StoreCall.write _).exec py s').1) _) _) _
  cases ((StoreCall.write (.putIfRevision d ((o.map (·.text .rev)).getD ""))).exec py s').1 with
  | ok reply => exact moved
  | error e =>
      change Prog.Guarantees _ _ _ _ (if e.isA .sourceStoreConflict then .done false else .fail e) _
      split
      · exact moved
      · trivial

/-! ### The writers -/

variable {fmt : Formats} {checks : ReceiptChecks} {sessionIdHash : String}

theorem markPending_guarantees (attempts : ℕ) {provider project sourceHash : String} (numbered : s.Numbered)
    (writer : w.isBackfill = false) :
    (markPending py fmt sessionIdHash provider project sourceHash attempts).Guarantees (StoreCall.exec py)
      (Relied (projectionStateDocId sessionIdHash)) (Revises (projectionStateDocId sessionIdHash) w)
      (fun _ _ => True) s := by
  induction attempts generalizing s with
  | zero => trivial
  | succ attempts ih =>
      refine (guarantees_get numbered).bind fun existing s held => ?_
      refine (held.reads (uses_currentSessionSourceHash sessionIdHash)).bind fun current s held => ?_
      split
      · trivial
      split
      · trivial
      refine (guarantees_ofExcept (Q := fun state s' => Held _ existing s' ∧
        pendingState py fmt sessionIdHash provider project sourceHash (existing.getD ∅) = .ok state)
        fun state built => ⟨held, built⟩).bind fun state s both => ?_
      obtain ⟨held, built⟩ := both
      have own := (pendingState_eq_ok built).text_id
      refine (held.attemptOp own (.of_stored writer fun slot => pendingState_stored built slot)).bind
        fun written s' moved => ?_
      have numbered := (held.relied moved).numbered
      cases written with
      | false => exact ih numbered
      | true => exact (guarantees_get numbered).bind fun stored s _ => trivial

theorem Held.recordAttempt {state : Doc} (held : Held docId (some state) s) (attempt : Attempt)
    (clock : ℕ → String) (left : ℕ) (writer : w.isBackfill = false) :
    (Source.recordAttempt attempt state clock left).Guarantees (StoreCall.exec py) (Relied docId)
      (Revises docId w) (fun _ _ => True) s := by
  have own := held.own state rfl
  induction left generalizing s with
  | zero => trivial
  | succ left ih =>
      unfold Source.recordAttempt
      rw [own]
      refine Prog.Guarantees.bind (Q := fun found s' => Held docId found s' ∧ Held docId (some state) s' ∧
        found ≠ none) ?_ fun stored s both => ?_
      · intro s' relied
        have later := (held.relied relied).later
        -- Nobody deletes the state that was read.
        exact ⟨.of_same id rfl, Held.read (held.relied relied).numbered, held.relied relied, later.present⟩
      obtain ⟨read, held, present⟩ := both
      obtain ⟨current, rfl⟩ := Option.ne_none_iff_exists'.mp present
      refine (guarantees_ofExcept (Q := fun updated s' => (Held docId (some current) s' ∧
        Held docId (some state) s') ∧ withProjectionAttempt attempt (clock left) current = .ok updated)
        fun updated done => ⟨⟨read, held⟩, done⟩).bind fun updated s both => ?_
      obtain ⟨⟨read, held⟩, done⟩ := both
      have named : updated.text .id = docId :=
        (Doc.text_congr ((withProjectionAttempt_kept done).1 .id)).trans (read.own current rfl)
      refine (read.attemptOp named (.of_stored writer fun slot => withProjectionAttempt_stored done slot)).bind
        fun written s' moved => ?_
      cases written with
      | false => exact ih (held.relied moved)
      | true => exact (guarantees_get (held.relied moved).numbered).bind fun stored s _ => trivial

theorem Held.persist {existing : Option Doc} (held : Held docId existing s) (attempt : Attempt)
    (clock : ℕ → String) (writer : w.isBackfill = false) :
    (persistProjectionAttempt attempt (existing.getD ∅) clock).Guarantees (StoreCall.exec py) (Relied docId)
      (Revises docId w) (fun _ _ => True) s := by
  unfold persistProjectionAttempt
  split
  · trivial
  · rename_i audited
    cases existing with
    | none => exact absurd (.inr rfl) audited
    | some state => exact held.recordAttempt attempt clock 3 writer

theorem Commit.readBack_guarantees {c : Commit} {state : Doc} {persisted : Option Doc} (numbered : s.Numbered) :
    (c.readBack py state persisted).Guarantees (StoreCall.exec py) (Relied docId) (Revises docId w)
      (fun _ _ => True) s := by
  unfold Commit.readBack
  split
  · trivial
  · have held : Held docId _ s := Held.read numbered
    refine (held.reads (uses_currentSessionSourceHash _)).bind fun current s _ => ?_
    split
    · trivial
    · cases persisted with
      | none => trivial
      | some stored => simp only; split <;> trivial

/-- What a commit writes has the other backends' receipts and, where it has one of a projection,
    another of a projection. -/
theorem Commit.rewrites {c : Commit} (clock : ℕ → ℕ → String) {existing : Option Doc} {receipt base state : Doc}
    {attempt : Attempt} {recordedAt : String} (found : c.slot.receipt (existing.getD ∅) = .ok receipt)
    (spared : ¬ c.wouldDestroy receipt) (based : c.projectionState py fmt existing = .ok base)
    (audited : withProjectionAttempt attempt recordedAt base = .ok state) :
    (Writer.commit c clock).Rewrites (existing.getD ∅) state where
  writes := rfl
  kept slot other := by
    rw [withProjectionAttempt_stored audited]
    exact projectionState_stored based fun same => other (congrArg some same)
  brings c' _ same := by
    cases same
    rw [withProjectionAttempt_stored audited]
    exact .inr (projectionState_brings based)
  projected claims slot projected := by
    have based_ : slot.Projected base := by
      by_cases own : c.slot = slot
      · subst own
        exact projectionState_projected based (claims c clock rfl) found spared projected
      · exact projected.congr (projectionState_stored based own)
    exact based_.congr (withProjectionAttempt_stored audited slot)

theorem Commit.commitAttempts_guarantees {c : Commit} {clock : ℕ → ℕ → String} (left : ℕ) (numbered : s.Numbered) :
    (c.commitAttempts py fmt checks clock left).Guarantees (StoreCall.exec py) (Relied c.stateId)
      (Revises c.stateId (.commit c clock)) (fun _ _ => True) s := by
  induction left generalizing s with
  | zero => trivial
  | succ left ih =>
      have start : Held c.stateId _ s := Held.read numbered
      refine (start.reads (uses_currentSessionSourceHash _)).bind fun current s start => ?_
      refine (guarantees_get start.numbered).bind fun existing s held => ?_
      split
      · exact (held.persist _ _ rfl).bind fun _ _ _ => trivial
      refine (guarantees_ofExcept (Q := fun receipt s' => Held c.stateId existing s' ∧
        c.slot.receipt (existing.getD ∅) = .ok receipt) fun _ found => ⟨held, found⟩).bind fun receipt s both => ?_
      obtain ⟨held, found⟩ := both
      split
      · exact (held.persist _ _ rfl).bind fun _ _ _ => trivial
      rename_i spared
      split
      · refine (guarantees_ofExcept (Q := fun _ s' => Held c.stateId existing s') fun _ _ => held).bind
          fun differs s held => ?_
        split
        · exact (held.persist _ _ rfl).bind fun _ _ _ => trivial
        · trivial
      refine (guarantees_ofExcept (Q := fun state s' => Held c.stateId existing s' ∧
        c.projectionState py fmt existing = .ok state) fun _ done => ⟨held, done⟩).bind fun base s both => ?_
      obtain ⟨held, based⟩ := both
      refine (guarantees_ofExcept (Q := fun state s' => Held c.stateId existing s' ∧
        withProjectionAttempt c.attempt (clock left 3) base = .ok state) fun _ done => ⟨held, done⟩).bind
        fun state s both => ?_
      obtain ⟨held, audited⟩ := both
      have named : state.text .id = c.stateId :=
        (Doc.text_congr ((withProjectionAttempt_kept audited).1 .id)).trans (projectionState_id based held.own)
      have rewrites := Commit.rewrites clock found spared based audited
      refine (held.attemptOp named rewrites).bind fun written s' moved => ?_
      have numbered := (held.relied moved).numbered
      cases written with
      | false => exact ih numbered
      | true =>
          refine (guarantees_get numbered).bind fun persisted s read => ?_
          exact Commit.readBack_guarantees read.numbered

variable {render : ResolvedSourceRevision → Option Doc → Except PyError Materialized}

variable (py render) in
/-- A session that is not named by a hash does not resolve. -/
theorem materialize_fails {name : String} (unlike : ¬ hashLike name) :
    ∃ e, materializeSessionMemory py render name = .fail e := by
  cases refused : assertHashLike "session_id_hash" name with
  | ok => exact absurd (assertHashLike_eq_ok.mp refused) unlike
  | error e =>
      refine ⟨e, ?_⟩
      simp only [materializeSessionMemory, resolveActiveSourceRevision, refused, ofExcept_eq]
      rfl

/-- The backfill spells the session's hash out where the state's id has its digits only. -/
theorem stateId_ne {row : ReadyRow} (like : hashLike row.sessionIdHash) (like' : hashLike sessionIdHash) :
    row.stateId ≠ projectionStateDocId sessionIdHash := by
  have width {hash : String} (like : hashLike hash) : hash.length = 71 := by
    obtain ⟨hex, shape, digits⟩ := hashLike_shape like
    simp only [isHexDigest, Bool.and_eq_true, beq_iff_eq] at digits
    rw [← String.length_toList, shape]
    simp [digits.1]
  have digits : (hashHex sessionIdHash).length = 64 := by
    obtain ⟨hex, shape, digits⟩ := hashLike_shape like'
    simp only [isHexDigest, Bool.and_eq_true, beq_iff_eq] at digits
    have spelled := congrArg String.toList (hashHex_hashLike like')
    rw [shape, String.toList_append] at spelled
    have same : hex = (hashHex sessionIdHash).toList := by simpa using spelled
    rw [← String.length_toList, ← same, digits.1]
  intro same
  have spelled : SourceDocType.projectionState.text ++ ":" ++ row.sessionIdHash =
      SourceDocType.projectionState.text ++ ":" ++ hashHex sessionIdHash := same
  rw [String.append_right_inj] at spelled
  have widths := width like
  rw [spelled, digits] at widths
  omega

theorem uses_materialize {name : String} : (materializeSessionMemory py render name).Uses StoreCall.Reads := by
  refine (uses_resolve name).bind fun resolved => Prog.Uses.bind ⟨trivial, fun _ => trivial⟩ fun coverage => ?_
  rw [ofExcept_eq]
  exact .ofExcept _

variable (py) in
/-- A put elsewhere leaves the state. -/
theorem revises_put {d : Doc} (other : docId ≠ d.text .id) : Revises docId w s ((Op.put d).exec py s).2 := by
  unfold Op.exec
  cases performed : Op.perform py (.put d) s with
  | error e => exact .of_same id rfl
  | ok result =>
      obtain ⟨reply, s'⟩ := result
      obtain ⟨⟨r, after⟩, done, same⟩ := except_map_eq_ok performed
      cases same
      have same : after.get docId = s.get docId := by
        rcases (put_effect done).get_cases docId with same | ⟨here, -⟩
        · exact same
        · exact absurd here other
      refine .of_same (fun numbered => ?_) same
      rcases put_revised numbered done with rfl | revised
      · exact numbered
      · exact revised.numbered numbered

theorem publishReceipt_guarantees {profile : String} {side : PgSide} {row : ReadyRow} (numbered : s.Numbered)
    (like : hashLike sessionIdHash) :
    (publishReceipt py render profile side row).Guarantees (StoreCall.exec py)
      (Relied (projectionStateDocId sessionIdHash)) (Revises (projectionStateDocId sessionIdHash) w)
      (fun _ s' => s'.Numbered) s := by
  refine Prog.Guarantees.bind (Q := fun found s' => s'.Numbered ∧ ∀ d, found = some d → d.text .id = row.stateId)
    ?_ fun found s both => ?_
  · intro s' relied
    exact ⟨.of_same id rfl, (relied numbered).1, fun d found => Store.get_keyed found⟩
  obtain ⟨numbered, own⟩ := both
  cases found with
  | none => exact numbered
  | some state =>
      by_cases named : hashLike row.sessionIdHash
      · have held : Held (projectionStateDocId sessionIdHash) _ s := Held.read numbered
        refine (held.reads (Prog.Uses.attempt uses_materialize)).bind fun result s held => ?_
        cases result with
        | error e => exact held.numbered
        | ok materialized =>
            simp only
            split
            · exact held.numbered
            · rename_i receipt _
              have elsewhere : projectionStateDocId sessionIdHash ≠
                  (withLocalReceipt state profile receipt).text .id := by
                rw [withLocalReceipt, Doc.text_congr (get?_insert_other _ _ _ _), own state rfl]
                exact (stateId_ne named like).symm
              refine Prog.Guarantees.bind (Q := fun _ s' => s'.Numbered) ?_ fun _ _ numbered => numbered
              intro s' relied
              have promise : Revises _ w s' _ := revises_put py elsewhere
              have numbered := (promise.relied (relied held.numbered).1).1
              refine ⟨promise, ?_⟩
              change Prog.Guarantees _ _ _ _ (Prog.attempt (Prog.ofExcept ((StoreCall.write _).exec py s').1)) _
              cases ((StoreCall.write (.put (withLocalReceipt state profile receipt))).exec py s').1 <;> exact numbered
      · obtain ⟨e, failed⟩ := materialize_fails py render named
        simp only [failed]
        exact numbered

theorem publishReceipts_guarantees {profile : String} {rows : List (PgSide × ReadyRow)} (numbered : s.Numbered)
    (like : hashLike sessionIdHash) :
    (publishReceipts py render profile rows).Guarantees (StoreCall.exec py)
      (Relied (projectionStateDocId sessionIdHash)) (Revises (projectionStateDocId sessionIdHash) w)
      (fun _ _ => True) s := by
  induction rows generalizing s with
  | nil => trivial
  | cons entry rest ih =>
      obtain ⟨side, row⟩ := entry
      exact (publishReceipt_guarantees numbered like).bind fun _ _ numbered => ih numbered

/-- A commit or a mark revises the state whatever the others do. -/
theorem Writer.revises (w : Writer) (writes : w.isBackfill = false) (own : w.OfSession sessionIdHash)
    (numbered : s.Numbered) :
    (w.program py fmt checks render sessionIdHash).Guarantees (StoreCall.exec py)
      (Relied (projectionStateDocId sessionIdHash)) (Revises (projectionStateDocId sessionIdHash) w)
      (fun _ _ => True) s := by
  cases w with
  | backfill profile rows => cases writes
  | mark provider project sourceHash =>
      exact (markPending_guarantees 3 numbered rfl).bind fun _ _ _ => trivial
  | commit c clock =>
      refine Prog.Guarantees.bind (Q := fun _ _ => True) ?_ fun _ _ _ => trivial
      have same : projectionStateDocId sessionIdHash = c.stateId := by
        rw [Commit.stateId, show c.materialized.sessionIdHash = sessionIdHash from own]
      rw [same]
      exact (guarantees_ofExcept (Q := fun _ s' => s'.Numbered) fun _ _ => numbered).bind
        fun _ _ numbered => Commit.commitAttempts_guarantees 3 numbered

/-- Every writer keeps its promise whatever the others do. -/
theorem Writer.guarantees (w : Writer) (like : hashLike sessionIdHash) (own : w.OfSession sessionIdHash)
    (numbered : s.Numbered) :
    (w.program py fmt checks render sessionIdHash).Guarantees (StoreCall.exec py)
      (Relied (projectionStateDocId sessionIdHash)) (Revises (projectionStateDocId sessionIdHash) w)
      (fun _ _ => True) s := by
  cases writer : w.isBackfill with
  | false => exact w.revises writer own numbered
  | true =>
      cases w with
      | backfill profile rows => exact (publishReceipts_guarantees numbered like).bind fun _ _ _ => trivial
      | mark | commit => cases writer

end Programs

end Promises

/-! ## Any interleaving -/

section Interleaving

variable {py : Platform} {s s' : Store}

theorem classify_duplicate {existing : Doc} {docId incomingHash : String}
    (decided : classifyDocumentIdempotency py (some existing) docId incomingHash = .ok .duplicate) :
    payloadHash py existing = .ok incomingHash := by
  unfold classifyDocumentIdempotency classifyIdempotency at decided
  simp only [bind_eq_ok, refuseIf_eq_ok] at decided
  obtain ⟨hash, hashed, ⟨⟩, -, ⟨⟩, -, decided⟩ := decided
  split at decided
  · rename_i preserved shape
    have kept {text : String} : terminalPreservedOutcome? text ≠ some .duplicate := by
      unfold terminalPreservedOutcome?
      split <;> [skip; split] <;> simp
    cases decided
    rcases Option.or_eq_some_iff.mp shape with first | ⟨-, second⟩
    · exact absurd first kept
    · exact absurd second kept
  · split at decided
    · cases decided
    · split at decided
      · rename_i same
        rw [Doc.text_of_str (s := hash) (by simp [Doc.get?_set])] at same
        rw [hashed, same]
      · cases decided

/-- A conditional write that is answered has stored its document, or has found one with the same
    payload and counted as its retry. -/
theorem putIfRevision_stored {d : Doc} {rev : String} {reply : Reply}
    (answered : ((Op.putIfRevision d rev).exec py s).1 = .ok reply) :
    (∃ rev' hash, ((Op.putIfRevision d rev).exec py s).2.get (d.text .id) =
        some (Store.stamp d (d.text .id) rev' hash)) ∨
      ∃ stored, s.get (d.text .id) = some stored ∧ ((Op.putIfRevision d rev).exec py s).2 = s ∧
        payloadHash py stored = payloadHash py d := by
  unfold Op.exec at answered ⊢
  cases performed : Op.perform py (.putIfRevision d rev) s with
  | error e =>
      rw [performed] at answered
      cases answered
  | ok result =>
      obtain ⟨reply', s'⟩ := result
      obtain ⟨⟨r, after⟩, done, same⟩ := except_map_eq_ok performed
      cases same
      change (∃ rev' hash, after.get (d.text .id) = some (Store.stamp d (d.text .id) rev' hash)) ∨
        ∃ stored, s.get (d.text .id) = some stored ∧ after = s ∧ payloadHash py stored = payloadHash py d
      have own (rev hash : String) : (Store.stamp d (d.text .id) rev hash).text .id = d.text .id :=
        Doc.text_congr (Store.get?_stamp d _ _ _ (by decide))
      unfold Source.putIfRevision at done
      simp only [bind_eq_ok, refuseIf_eq_ok, not_not] at done
      obtain ⟨⟨⟩, -, ⟨⟩, -, ⟨⟩, -, hash, hashed, decision, decided, done⟩ := done
      split at done
      · rename_i retry
        cases done
        obtain ⟨existing, found⟩ := Option.isSome_iff_exists.mp retry.1
        rw [found, retry.2] at decided
        exact .inr ⟨existing, found, rfl, (classify_duplicate decided).trans hashed.symm⟩
      · split at done
        · simp only [bind_eq_ok, reduceCtorEq, and_false, exists_false] at done
        · simp only [bind_eq_ok] at done
          obtain ⟨⟨⟩, -, done⟩ := done
          split at done
          · cases done
            exact .inl ⟨_, _, by rw [Store.get_assign, own, if_pos rfl]⟩
          · rw [bind_eq_ok] at done
            obtain ⟨number, -, done⟩ := done
            cases done
            exact .inl ⟨_, _, by rw [Store.get_assign, own, if_pos rfl]⟩

variable (py : Platform) (fmt : Formats) (checks : ReceiptChecks)
variable (render : ResolvedSourceRevision → Option Doc → Except PyError Materialized)

/-- The writers of a session's state before any of them has run, on a store that was filled by
    the operations. -/
def writersAt {ι : Type} (writers : ι → Writer) (sessionIdHash : String) (before : List Op) :
    Pool StoreCall PyError (Option CommitStatus) Store ι where
  clients i := (writers i).program py fmt checks render sessionIdHash
  shared := Store.empty.run py before

theorem writers_guaranteed {ι : Type} [DecidableEq ι] {writers : ι → Writer} {sessionIdHash : String}
    (like : hashLike sessionIdHash) (own : ∀ i, (writers i).OfSession sessionIdHash) (before : List Op)
    (schedule : List ι) :
    ((writersAt py fmt checks render writers sessionIdHash before).run (StoreCall.exec py) schedule).Guaranteed
        (StoreCall.exec py) (Relied (projectionStateDocId sessionIdHash))
        (fun i => Revises (projectionStateDocId sessionIdHash) (writers i)) (fun _ _ _ => True) ∧
      ((writersAt py fmt checks render writers sessionIdHash before).run (StoreCall.exec py)
        schedule).shared.Numbered := by
  have numbered : (Store.empty.run py before).Numbered := Store.run_numbered before Store.empty_numbered
  constructor
  · refine Pool.Guaranteed.run (fun s => Relied.refl s) Relied.trans (fun _ _ _ _ _ _ => trivial)
      (fun _ _ _ revises => revises.relied) (fun i => ?_) schedule
    exact (writers i).guarantees like (own i) numbered
  · exact Pool.run_invariant Store.Numbered (fun c s holds => by
      cases c with
      | get | findBySession => exact holds
      | write op => exact op.exec_numbered holds) numbered schedule

/-! ### What a commit reports -/

section Reports

variable {fmt : Formats} {checks : ReceiptChecks}

/-- SHA-256 tells the state that is written from the one that is stored, where they differ in what is hashed. -/
def Distinguishes (py : Platform) (docId : String) : {β : Type} → StoreCall β → Store → Prop
  | _, .write (.putIfRevision d _), s => ∀ stored ∈ s.get docId, payloadHash py stored = payloadHash py d →
      payloadEncoded py stored = payloadEncoded py d
  | _, _, _ => True

instance (py : Platform) (docId : String) {β : Type} (c : StoreCall β) (s : Store) :
    Decidable (Distinguishes py docId c s) := by
  unfold Distinguishes
  split <;> infer_instance

/-- The exchange in which a commit that reports its write has written, or found, its receipt: the index
    relies on its write, a PostgreSQL backend reads the state back. -/
def Commit.Evidence (py : Platform) (c : Commit) : Prog.Exchange StoreCall → Prop
  | ⟨.get k, reply⟩ => k = c.stateId ∧ ∃ stored ∈ reply, c.Brings (c.slot.stored stored)
  | ⟨.write (.putIfRevision d _), reply⟩ => d.text .id = c.stateId ∧ c.Brings (c.slot.stored d) ∧
      payloadEncoded py d = .ok (.repr (d.without payloadExcludedFields).json) ∧ ∃ r, reply = .ok r
  | _ => False

theorem accounts_ofExcept {α : Type} (x : Except PyError α) (past : List (Prog.Exchange StoreCall)) :
    (ofExcept x : StoreProgram α).Accounts (fun past' a => past <+: past' ∧ x = .ok a) past := by
  rw [ofExcept_eq]
  cases x with
  | ok a => exact ⟨List.prefix_refl past, rfl⟩
  | error e => trivial

theorem attemptOp_accounts (op : Op) (past : List (Prog.Exchange StoreCall)) :
    (Source.attemptOp op).Accounts (fun past' written => past <+: past' ∧
      (written = true → ∃ r, ⟨.write op, .ok r⟩ ∈ past')) past := by
  intro reply
  change Prog.Accounts _ _ (Prog.tryCatch (Prog.bind (Prog.ofExcept reply) _) _)
  cases reply with
  | ok r => exact ⟨List.prefix_append _ _, fun _ => ⟨r, List.mem_append_right _ List.mem_cons_self⟩⟩
  | error e =>
      change Prog.Accounts _ _ (if e.isA .sourceStoreConflict then _ else _)
      split
      · exact ⟨List.prefix_append _ _, nofun⟩
      · trivial

/-- The index's state has no hash of its own that stands for its payload. -/
theorem mappingState_encoded {c : Commit} {existing state : Doc}
    (done : c.mappingState py fmt existing = .ok state) :
    payloadEncoded py state = .ok (.repr (state.without payloadExcludedFields).json) := by
  simp only [Commit.mappingState, bind_eq_ok] at done
  obtain ⟨fresh, stated, done⟩ := done
  cases done
  have same (f : Field) : (keepReceipts existing fresh).get? f = fresh.get? f := keepReceipts_get? existing fresh f
  have typed : docType? (keepReceipts existing fresh) = some .projectionState := by
    rw [docType?_eq_some_iff, same]
    exact docType?_eq_some_iff.mp (buildProjectionStateDocument_eq_ok stated).docType?
  have plain : ∀ f ∈ [Field.contentHash, .coverageHash], (keepReceipts existing fresh).value? f = none := by
    intro f mem
    unfold buildProjectionStateDocument baseDocument at stated
    simp only [bind_eq_ok, pure_eq_ok, Except.ok.injEq] at stated
    obtain ⟨⟨⟩, -, ⟨⟩, -, ⟨⟩, -, ⟨⟩, -, base, ⟨⟨⟩, -, ⟨⟩, -, label, -, rfl⟩, finalized⟩ := stated
    rw [Doc.value?, same, ← finalize_eq_ok finalized]
    simp only [List.mem_cons, List.not_mem_nil, or_false] at mem
    rcases mem with rfl | rfl <;> simp [Projection.fields, Doc.ofFields, Doc.get?_set]
  have absent : [Field.contentHash, .coverageHash].find?
      (fun f => ((keepReceipts existing fresh).value? f).isSome) = none := by
    rw [List.find?_eq_none]
    intro f mem
    simp [plain f mem]
  simp only [payloadEncoded, typed, absent]

/-- What the index writes is its state as it is; it has no audit of attempts. -/
theorem index_state {c : Commit} {existing : Option Doc} {recordedAt : String} {base state : Doc}
    (backend : c.backend = .qdrant) (based : c.projectionState py fmt existing = .ok base)
    (audited : withProjectionAttempt c.attempt recordedAt base = .ok state) :
    c.mappingState py fmt (existing.getD ∅) = .ok state := by
  have unaudited : base = state := by
    simpa [withProjectionAttempt, Commit.attempt, backend] using audited
  simpa only [Commit.projectionState, backend, unaudited] using based

variable {c : Commit} {clock : ℕ → ℕ → String}

/-- The read that follows a commit's write. -/
theorem readBack_accounts {state : Doc} {persisted : Option Doc} {past : List (Prog.Exchange StoreCall)}
    (index : c.backend = .qdrant → ∃ exchange ∈ past, c.Evidence py exchange)
    (brings : c.Brings (c.slot.stored state)) (read : ⟨.get c.stateId, persisted⟩ ∈ past) :
    (c.readBack py state persisted).Accounts
      (fun past' result => result.1 = .written → ∃ exchange ∈ past', c.Evidence py exchange) past := by
  unfold Commit.readBack
  split
  · rename_i backend
    exact fun _ => index backend
  · rename_i backend
    refine (Prog.Accounts.extends past).bind fun past' current within => ?_
    split
    · exact nofun
    · cases persisted with
      | none => trivial
      | some stored =>
          dsimp only
          split
          · rename_i same
            refine fun _ => ⟨_, within.subset read, rfl, stored, rfl, ?_⟩
            have receipts := nested_congr same
            cases shape : c.backend with
            | qdrant => exact absurd shape backend
            | pgvector | pgvectorLocal =>
                have slot : c.slot.stored stored = c.slot.stored state := by
                  simp only [Commit.slot, shape, Slot.stored, receipts]
                rw [slot]
                exact brings
          · trivial

theorem commitAttempts_accounts (left : ℕ) (past : List (Prog.Exchange StoreCall)) :
    (c.commitAttempts py fmt checks clock left).Accounts
      (fun past' result => result.1 = .written → ∃ exchange ∈ past', c.Evidence py exchange) past := by
  induction left generalizing past with
  | zero => trivial
  | succ left ih =>
      refine Prog.Accounts.bind_of_forall fun past current => ?_
      intro existing
      dsimp only [Prog.done_bind]
      split
      · exact Prog.Accounts.bind_of_forall fun _ _ => nofun
      refine Prog.Accounts.bind_of_forall fun past receipt => ?_
      split
      · exact Prog.Accounts.bind_of_forall fun _ _ => nofun
      split
      · refine Prog.Accounts.bind_of_forall fun _ differs => ?_
        split
        · exact Prog.Accounts.bind_of_forall fun _ _ => nofun
        · exact nofun
      refine (accounts_ofExcept _ _).bind fun past base both => ?_
      obtain ⟨-, based⟩ := both
      refine (accounts_ofExcept _ _).bind fun past state both => ?_
      obtain ⟨-, audited⟩ := both
      have brings : c.Brings (c.slot.stored state) := by
        rw [withProjectionAttempt_stored audited]
        exact projectionState_brings based
      refine (attemptOp_accounts _ _).bind fun past' written both => ?_
      obtain ⟨-, wrote⟩ := both
      cases written with
      | false => exact ih past'
      | true =>
          intro persisted
          refine readBack_accounts py (fun backend => ?_) brings (List.mem_append_right _ List.mem_cons_self)
          obtain ⟨r, mem⟩ := wrote rfl
          refine ⟨_, List.mem_append_left _ mem, ?_, brings, ?_, r, rfl⟩
          · have written := index_state py backend based audited
            simp only [Commit.mappingState, bind_eq_ok] at written
            obtain ⟨fresh, stated, same⟩ := written
            cases same
            rw [keepReceipts_id]
            exact (buildProjectionStateDocument_eq_ok stated).text_id
          · exact mappingState_encoded py (index_state py backend based audited)

end Reports

/-! ### Every run -/

/-- Over the steps `rest` after `first` the receipt in the slot has not changed, or it is the one of the last
    commit of its backend that changed it. -/
def LatestReceipt {ι : Type} (writers : ι → Writer) (slot : Slot) (receipt : List ι → Option Json)
    (first rest : List ι) : Prop :=
  receipt (first ++ rest) = receipt first ∨
    ∃ mid j tail c clock, rest = mid ++ j :: tail ∧ writers j = .commit c clock ∧ c.slot = slot ∧
      c.Brings (receipt (first ++ rest)) ∧ receipt (first ++ rest) = receipt (first ++ mid ++ [j])

theorem LatestReceipt.of_steps {ι : Type} {writers : ι → Writer} {slot : Slot} {receipt : List ι → Option Json}
    (step : ∀ steps k, receipt (steps ++ [k]) = receipt steps ∨ ∃ c clock, writers k = .commit c clock ∧
      c.slot = slot ∧ c.Brings (receipt (steps ++ [k]))) (first rest : List ι) :
    LatestReceipt writers slot receipt first rest := by
  induction rest using List.reverseRecOn with
  | nil => exact .inl (by rw [List.append_nil])
  | append_singleton rest k ih =>
      rw [LatestReceipt, ← List.append_assoc]
      rcases step (first ++ rest) k with same | ⟨c, clock, commits, own, brings⟩
      · rw [same]
        rcases ih with unchanged | ⟨mid, j, tail, c, clock, split, commits, own, brings, last⟩
        · exact .inl unchanged
        · exact .inr ⟨mid, j, tail ++ [k], c, clock, by simp [split], commits, own, brings, last⟩
      · exact .inr ⟨rest, k, [], c, clock, rfl, commits, own, brings, rfl⟩

/-- Only a payload of its own is hashed as the state it is. -/
theorem payloadEncoded_repr {d : Doc} {v : Json} (encoded : payloadEncoded py d = .ok (.repr v)) :
    v = (d.without payloadExcludedFields).json := by
  unfold payloadEncoded at encoded
  split at encoded
  · cases encoded
  · cases encoded
  · simp only [bind_eq_ok, pure_eq_ok, Except.ok.injEq, reduceCtorEq, and_false, exists_false] at encoded
  · split at encoded <;> cases encoded
    rfl

/-- What is left out of the payload is no part of a receipt. -/
theorem Slot.stored_of_payload (slot : Slot) {d e : Doc}
    (same : d.without payloadExcludedFields = e.without payloadExcludedFields) : slot.stored d = slot.stored e := by
  have texts {f : Field} (own : f ∉ payloadExcludedFields) : d.text f = e.text f := by
    have fields := congrArg (Doc.get? · f) same
    simp only [Doc.get?_without, own, if_false] at fields
    exact Doc.text_congr fields
  apply Slot.stored_congr
  · simp only [indexMapping, projectedHash, texts (f := .sessionMemoryKnowledgeId) (by decide),
      texts (f := .activeContentHash) (by decide), texts (f := .projectedSourceHash) (by decide),
      texts (f := .projectionStatus) (by decide), texts (f := .sourceHash) (by decide),
      texts (f := .materializedAt) (by decide)]
  · apply nested_congr
    have others := congrArg (Dict.get? · (.other "backend_receipts")) same
    simpa [Doc.without, Dict.get?_filter] using others

variable {ι : Type} [DecidableEq ι] {writers : ι → Writer} {sessionIdHash : String}

/-- A step of a writer leaves the receipts of other backends, and a commit brings its own. -/
theorem writers_promise (like : hashLike sessionIdHash) (own : ∀ i, (writers i).OfSession sessionIdHash)
    (before : List Op) (schedule : List ι) (i : ι) :
    let reached := (writersAt py fmt checks render writers sessionIdHash before).run (StoreCall.exec py) schedule
    reached.shared.Numbered ∧ Promise (projectionStateDocId sessionIdHash) (writers i) reached.shared
      (reached.step (StoreCall.exec py) i).shared := by
  intro reached
  obtain ⟨guaranteed, numbered⟩ := writers_guaranteed py fmt checks render like own before schedule
  exact ⟨numbered, (guaranteed.step (fun s => Relied.refl s) i fun _ => .of_same id rfl).promise numbered⟩

/-- A conditional write whose payload is told from the stored one leaves its state in place. -/
theorem putIfRevision_at {docId rev : String} {d : Doc} {reply : Reply} (named : d.text .id = docId)
    (encoded : payloadEncoded py d = .ok (.repr (d.without payloadExcludedFields).json))
    (distinct : Distinguishes py docId (.write (.putIfRevision d rev)) s)
    (answered : ((Op.putIfRevision d rev).exec py s).1 = .ok reply) (slot : Slot) :
    slot.at docId ((Op.putIfRevision d rev).exec py s).2 = slot.stored d := by
  subst named
  rcases putIfRevision_stored answered with ⟨rev', hash, stored⟩ | ⟨stored, found, kept, same⟩
  · rw [Slot.at, stored, Option.getD_some, Slot.stored_stamp]
  · have identity := distinct stored found same
    rw [encoded] at identity
    rw [kept, Slot.at, found, Option.getD_some]
    exact slot.stored_of_payload (Doc.json_injective (payloadEncoded_repr py identity)).symm

/-- A commit's report is accounted for by the exchange in which its receipt was in the state. -/
theorem commit_accounts (py : Platform) (fmt : Formats) (checks : ReceiptChecks) (c : Commit)
    (clock : ℕ → ℕ → String) (past : List (Prog.Exchange StoreCall)) :
    ((Writer.commit c clock).program py fmt checks render sessionIdHash).Accounts
      (fun past' result => result = some .written → ∃ exchange ∈ past', c.Evidence py exchange) past := by
  have attempts : (commitProjectionStateIfSourceCurrent py c fmt checks clock).Accounts
      (fun past' result => result.1 = .written → ∃ exchange ∈ past', c.Evidence py exchange) past :=
    Prog.Accounts.bind_of_forall fun past' _ => commitAttempts_accounts py 3 past'
  exact attempts.bind fun past' result accounted written => accounted (Option.some.inj written)

/-- A commit that reports that it wrote has had its receipt in the state. -/
theorem commit_reported (own : ∀ i, (writers i).OfSession sessionIdHash)
    (before : List Op) {schedule : List ι}
    (distinct : (writersAt py fmt checks render writers sessionIdHash before).Meets (StoreCall.exec py)
      (fun _ => Distinguishes py (projectionStateDocId sessionIdHash)) schedule)
    {i : ι} {c : Commit} {clock : ℕ → ℕ → String} (commits : writers i = .commit c clock)
    (reported : ((writersAt py fmt checks render writers sessionIdHash before).run (StoreCall.exec py)
      schedule).clients i = .done (some .written)) :
    ∃ first rest, schedule = first ++ rest ∧ c.Brings (c.slot.at (projectionStateDocId sessionIdHash)
      ((writersAt py fmt checks render writers sessionIdHash before).run (StoreCall.exec py) first).shared) := by
  have start (j : ι) : ((writersAt py fmt checks render writers sessionIdHash before).clients j).Accounts
      (fun past result => ∀ c clock, writers j = .commit c clock → result = some .written →
        ∃ exchange ∈ past, c.Evidence py exchange) [] := by
    unfold writersAt
    dsimp only
    cases shape : writers j with
    | backfill | mark => exact (Prog.accounts_true _ _).weaken fun _ _ _ _ _ commits => nomatch commits
    | commit c clock =>
        refine (commit_accounts render py fmt checks c clock []).weaken fun _ _ accounted _ _ same => ?_
        cases same
        exact accounted
  have accounted := Pool.run_accounts (StoreCall.exec py) (fun _ => []) start schedule i
  rw [reported] at accounted
  obtain ⟨exchange, mem, evidence⟩ := accounted c clock commits rfl
  obtain ⟨first, rest, split, had⟩ := Pool.mem_exchanges mem
  have named : c.stateId = projectionStateDocId sessionIdHash := by
    have ofSession := own i
    rw [commits] at ofSession
    rw [Commit.stateId, show c.materialized.sessionIdHash = sessionIdHash from ofSession]
  obtain ⟨call, reply⟩ := exchange
  obtain ⟨answered, stepped, k, next⟩ := Pool.exchange_eq_some had
  cases call with
  | findBySession => exact evidence.elim
  | get docId =>
      obtain ⟨rfl, stored, found, brings⟩ := evidence
      refine ⟨first, i :: rest, split, ?_⟩
      have there : Store.get _ c.stateId = some stored := answered.trans found
      rw [← named, Slot.at, there, Option.getD_some]
      exact brings
  | write op =>
      cases op with
      | putIfRevision d rev =>
          obtain ⟨own, brings, encoded, r, ok⟩ := evidence
          subst split
          refine ⟨first ++ [i], rest, by simp, ?_⟩
          have written := putIfRevision_at py (own.trans named) encoded (distinct.at next) (answered.trans ok) c.slot
          have after : ((writersAt py fmt checks render writers sessionIdHash before).run (StoreCall.exec py)
              (first ++ [i])).shared = _ := (congrArg Pool.shared (Pool.run_append ..)).trans stepped
          rw [after]
          exact written.symm ▸ brings
      | _ => exact evidence.elim

/-- No update of a session's projection state is lost, in any interleaving. A commit that reports
    that it wrote has had its receipt in the state; from wherever a receipt is in the state, the
    state keeps it until a later commit of the same backend brings its own; and no step of the
    backfill changes the state, so a pending mark stays what it was. -/
theorem projection_updates_kept {ι : Type} [DecidableEq ι] (writers : ι → Writer) (sessionIdHash : String)
    (like : hashLike sessionIdHash) (own : ∀ i, (writers i).OfSession sessionIdHash) (before : List Op)
    (schedule : List ι)
    (distinct : (writersAt py fmt checks render writers sessionIdHash before).Meets (StoreCall.exec py)
      (fun _ => Distinguishes py (projectionStateDocId sessionIdHash)) schedule) :
    let docId := projectionStateDocId sessionIdHash
    let run := (writersAt py fmt checks render writers sessionIdHash before).run (StoreCall.exec py)
    (∀ i c clock, writers i = .commit c clock → (run schedule).clients i = .done (some .written) →
        ∃ first rest, schedule = first ++ rest ∧ c.Brings (c.slot.at docId (run first).shared) ∧
          LatestReceipt writers c.slot (fun steps => c.slot.at docId (run steps).shared) first rest) ∧
      (∀ slot first rest, schedule = first ++ rest →
        LatestReceipt writers slot (fun steps => slot.at docId (run steps).shared) first rest) ∧
      ∀ first i rest, schedule = first ++ i :: rest → (writers i).isBackfill →
        (run (first ++ [i])).shared.get docId = (run first).shared.get docId := by
  intro docId run
  have next (steps : List ι) (k : ι) : run (steps ++ [k]) = (run steps).step (StoreCall.exec py) k :=
    Pool.run_append (StoreCall.exec py) _ steps [k]
  have promise (steps : List ι) (k : ι) : (run steps).shared.Numbered ∧
      Promise docId (writers k) (run steps).shared (run (steps ++ [k])).shared := by
    rw [next]
    exact writers_promise py fmt checks render like own before steps k
  have latest (slot : Slot) : ∀ first rest,
      LatestReceipt writers slot (fun steps => slot.at docId (run steps).shared) first rest := by
    refine LatestReceipt.of_steps fun steps k => ?_
    obtain ⟨numbered, promise⟩ := promise steps k
    by_cases other : (writers k).slot? = some slot
    · obtain ⟨c, clock, commits, rfl⟩ := Writer.slot?_eq_some other
      rcases promise.brings numbered c clock commits with same | brings
      · exact .inl same
      · exact .inr ⟨c, clock, commits, rfl, brings⟩
    · exact .inl (promise.kept numbered slot other)
  refine ⟨fun i c clock commits written => ?_, fun slot first rest _ => latest slot first rest,
    fun first i rest _ backfill => (promise first i).2.untouched backfill⟩
  obtain ⟨first, rest, split, brings⟩ :=
    commit_reported py fmt checks render own before distinct commits written
  exact ⟨first, rest, split, brings, latest c.slot first rest⟩

end Interleaving

/-! The backfill of a session that is pending, around a commit to PostgreSQL and a second mark. -/

def busySession : String := "sha256:8d03a2bc8e4b4cb8a7d2a3cf3ebb0e10a5b8cf4ebf8a4ae5a9a68b11d8e6c21e"

/-- The hash of a session without evidence. -/
def busySource : String := "sha256:fb9251a5a3ac76c0cd75287e73d1a0c5b85e6400209eb0c4b59f2755405b24a6"

def busyMaterialized : Materialized where
  sessionIdHash := busySession
  provider := "codex"
  project := "neurons"
  contentHash := busySession
  sourceHash := busySource
  materializedAt := "2026-01-01T00:00:00Z"
  fullyMaterialized := true

def busyRow : ReadyRow where
  chunkId := "chunk-1"
  project := "neurons"
  provider := "codex"
  sessionIdHash := busySession
  contentHash := busySession
  inputHash := busySession

/-- A PostgreSQL side that knows no receipt and accepts the one it builds. -/
def busySide : PgSide where
  holds _ _ := false
  localV1Id := "chunk-1"
  legacyV1Id := ""
  legacyV2Id := ""
  build scheme m := .ok (Doc.ofFields [(.sourceHash, .str m.sourceHash), (.kind, .str scheme)])
  accepts _ _ := true

def busyCommit : Commit where
  materialized := busyMaterialized
  status := .projected
  failureReason := ""
  failureSourceHash := ""
  ref := "pg-1"
  backend := .pgvector
  representationReceipt := none
  embeddingProfile := ""

inductive BusyWriter where
  | backfill | commit | mark
  deriving DecidableEq

def busyWriters : BusyWriter → Writer
  | .backfill => .backfill localEmbeddingProfileId [(busySide, busyRow)]
  | .commit => .commit busyCommit fun _ _ => "2026-01-01T00:00:00Z"
  | .mark => .mark "codex" "neurons" busySource

/-- The session, the document that the backfill writes, and the pending state. -/
def busyBefore : List Op :=
  let ofType (docId : String) (docType : SourceDocType) (others : List (Field × Json)) : Op :=
    .put (Doc.ofFields ((.id, .str docId) :: (.docType, .str docType.text) :: (.sessionIdHash, .str busySession) :: others))
  [ofType "transcript_session:busy" .transcriptSession [],
    ofType busyRow.stateId .projectionState [],
    ofType (projectionStateDocId busySession) .projectionState
      [(.sourceHash, .str busySource), (.projectionStatus, .str ProjectionStatus.pending.text)]]

def busySchedule : List BusyWriter :=
  [.mark, .mark, .backfill] ++ List.replicate 3 .mark ++ List.replicate 12 .commit ++ List.replicate 5 .backfill

theorem busy_distinct :
    (writersAt countingPlatform plainFormats ⟨fun _ => true, fun _ => true⟩ (fun _ _ => .ok busyMaterialized)
      busyWriters busySession busyBefore).Meets (StoreCall.exec countingPlatform)
    (fun _ => Distinguishes countingPlatform (projectionStateDocId busySession)) (busySchedule ++ [.backfill]) := by
  rw [countingPlatform_eq_forced]
  decide +kernel

theorem busy_written :
    ((writersAt countingPlatform plainFormats ⟨fun _ => true, fun _ => true⟩ (fun _ _ => .ok busyMaterialized)
      busyWriters busySession busyBefore).run (StoreCall.exec countingPlatform) (busySchedule ++ [.backfill])).clients .commit =
      .done (some .written) := by
  rw [countingPlatform_eq_forced]
  exact Prog.eq_done_of_value? (by decide +kernel)

/-- The commit's receipt is in the state at the end, and the backfill's last step has left it. -/
theorem projection_updates_kept_busy :
    let docId := projectionStateDocId busySession
    let run := (writersAt countingPlatform plainFormats ⟨fun _ => true, fun _ => true⟩ (fun _ _ => .ok busyMaterialized)
      busyWriters busySession busyBefore).run (StoreCall.exec countingPlatform)
    busyCommit.Brings (busyCommit.slot.at docId (run (busySchedule ++ [.backfill])).shared) ∧
      (run (busySchedule ++ [.backfill])).shared.get docId = (run busySchedule).shared.get docId := by
  have like : hashLike busySession := by
    rw [hashLike_eq_plain]
    decide +kernel
  have own : ∀ i, (busyWriters i).OfSession busySession := by
    intro i
    cases i with
    | backfill => trivial
    | commit => rfl
    | mark => trivial
  obtain ⟨reported, -, untouched⟩ := projection_updates_kept countingPlatform plainFormats
    ⟨fun _ => true, fun _ => true⟩ (fun _ _ => .ok busyMaterialized) busyWriters busySession like own busyBefore
    (busySchedule ++ [.backfill]) busy_distinct
  constructor
  · obtain ⟨first, rest, split, brings, latest⟩ := reported .commit busyCommit _ rfl busy_written
    rw [split]
    rcases latest with same | ⟨mid, j, tail, c, clock, -, commits, -, last, -⟩
    · exact (congrArg busyCommit.Brings same).mpr brings
    · -- There is one commit.
      cases j with
      | backfill | mark => cases commits
      | commit =>
          cases commits
          exact last
  · exact untouched busySchedule .backfill [] rfl rfl

end Neurons.Source
