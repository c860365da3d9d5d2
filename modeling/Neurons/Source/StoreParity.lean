import Neurons.Lib.Lockstep
import Neurons.Source.HttpStore
import Neurons.Source.Immutability
import Neurons.Source.ReferencePlatform
import Neurons.Source.Revisionless

/-! # The two stores side by side

One client drives either store through the same calls and takes every expected revision from
what it last read there. The stores answer alike, and hold the same documents but for their
revisions, as long as no step falls into one of the places where they were written apart: a
merge over a revision-scoped copy, a patch of an immutable document, and an expected
revision from before the document was deleted.
-/

namespace Neurons.Source

open Neurons.Lib

/-! ## Clients -/

/-- A revision as it was read; whether the document has been deleted since. -/
structure Seen where
  rev : String
  deleted : Bool
  deriving DecidableEq

structure Client (σ : Type) where
  store : σ
  seen : Table String Seen

/-- A call: a read, or an operation whose expected revision is the one last read. -/
inductive ClientCall where
  | read (docId : String)
  | perform (op : Op)

/-- What a caller learns, apart from the revision. -/
inductive Observed where
  | found (document : Option Doc)
  | stored (docId : String) (outcome : Outcome)
  | deleted (existed : Bool)
  | raised
  deriving DecidableEq

def Reply.observed : Reply → Observed
  | .stored revision => .stored revision.docId revision.outcome
  | .deleted existed => .deleted existed

/-- The operation with the revision its caller expects. -/
def Op.expecting (rev : String) : Op → Op
  | .putIfRevision d _ => .putIfRevision d rev
  | .patch p => .patch { p with expectedRev := rev }
  | op => op

/-- How a client reaches its store. -/
structure Access (σ : Type) where
  get : σ → String → Option Doc
  perform : Op → σ → Except PyError (Reply × σ)

namespace Client

variable {σ : Type}

/-- The revision that was last read; blank where none was. -/
def expected (client : Client σ) (docId : String) : String :=
  ((client.seen.get? docId).map Seen.rev).getD ""

def deletedSince (client : Client σ) (docId : String) : Bool :=
  ((client.seen.get? docId).map Seen.deleted).getD false

/-- What the client remembers after an answer. -/
def remember (client : Client σ) (op : Op) (reply : Reply) : Table String Seen :=
  match reply with
  | .deleted true => client.seen.set op.target ⟨client.expected op.target, true⟩
  | _ => client.seen

def act (access : Access σ) (client : Client σ) (call : ClientCall) : Observed × Client σ :=
  match call with
  | .read docId =>
      let document := access.get client.store docId
      (.found (document.map revless),
        ⟨client.store, client.seen.set docId ⟨(document.map (·.text .rev)).getD "", false⟩⟩)
  | .perform op =>
      match access.perform (op.expecting (client.expected op.target)) client.store with
      | .ok (reply, store) => (reply.observed, ⟨store, client.remember op reply⟩)
      | .error _ => (.raised, client)

theorem act_perform (access : Access σ) (client : Client σ) (op : Op) :
    (client.act access (.perform op)).1 =
      match access.perform (op.expecting (client.expected op.target)) client.store with
      | .ok (reply, _) => reply.observed
      | .error _ => .raised := by
  rw [act]
  cases access.perform (op.expecting (client.expected op.target)) client.store <;> rfl

end Client

section Access

variable (py : Platform)

def memoryAccess : Access Store := ⟨Store.get, Op.perform py⟩

def httpAccess (digest : Doc → String) : Access Couch := ⟨Couch.get, Http.perform py digest⟩

end Access

/-! ## The condition -/

section Condition

variable (py : Platform)

/-- The expected revision was read before the document was deleted, and the in-memory store
    has given it again since. -/
def Reissued (client : Client Store) (docId : String) : Prop :=
  client.deletedSince docId ∧ ∃ d ∈ client.store.get docId, d.text .rev = client.expected docId

instance (client : Client Store) (docId : String) : Decidable (Reissued client docId) := by
  unfold Reissued
  infer_instance

/-- The patch passes its checks, changes something, and no active revision refuses it. -/
def Patch.Reaches (p : Patch) (s : Store) (current : Doc) : Prop :=
  p.checkReplacement = .ok () ∧ p.check current = .ok () ∧
    ¬ (current.text .observedAtStart = p.observedAtStart ∧ current.text .observedAtEnd = p.observedAtEnd ∧
      p.keepsLocator current) ∧
    requireActiveSourceRevisionAllowsWrite py s p.docId current false = .ok ()

instance (p : Patch) (s : Store) (current : Doc) : Decidable (p.Reaches py s current) := by
  unfold Patch.Reaches
  infer_instance

/-- A patch that reaches its document finds no procedural original, and keeps the locator only of
    a mutable document whose payload identity it changes. -/
def Patch.Even (p : Patch) (s : Store) : Prop :=
  ∀ current ∈ s.get p.docId, p.Reaches py s current →
    docType? current ≠ some .repoUsagePattern ∧
    (p.keepsLocator current → ¬ isImmutableSourceDocument current ∧
      payloadHash py (p.updated current) ≠ payloadHash py current)

instance (p : Patch) (s : Store) : Decidable (p.Even py s) := by
  unfold Patch.Even
  infer_instance

/-- A merge that changes a stored envelope finds no revision-scoped copy there, and one that
    stores a revision-scoped envelope is not aimed at an origin of the active revision. -/
def EvenMerge (incoming : Doc) (sourceHashAuthoritative : Bool) (s : Store) : Prop :=
  match s.get (incoming.text .id) with
  | some current =>
      isRevisionScopedSourceCopy current →
        ∀ merged ∈ (mergeTranscriptSessionDocuments py (some current) incoming sourceHashAuthoritative).toOption,
        ∀ hash ∈ (payloadHash py merged).toOption,
          classifyDocumentIdempotency py (some current) (incoming.text .id) hash = .ok .duplicate ∨
            requireActiveSourceRevisionAllowsWrite py s (incoming.text .id) current false ≠ .ok ()
  | none =>
      isRevisionScopedSourceCopy incoming →
        requireActiveSourceRevisionAllowsWrite py s (incoming.text .id) incoming true = .ok () →
        requireActiveSourceRevisionAllowsWrite py s (incoming.text .id) incoming false = .ok ()

instance (incoming : Doc) (sourceHashAuthoritative : Bool) (s : Store) :
    Decidable (EvenMerge py incoming sourceHashAuthoritative s) := by
  unfold EvenMerge
  split <;> infer_instance

/-- The call does not fall where the two stores were written apart. -/
def EvenCall (client : Client Store) : ClientCall → Prop
  | .perform (.putIfRevision d _) => ¬ Reissued client (d.text .id)
  | .perform (.patch p) => ¬ Reissued client p.docId ∧
      Patch.Even py { p with expectedRev := client.expected p.docId } client.store
  | .perform (.merge incoming _ authoritative) => EvenMerge py incoming authoritative client.store
  | _ => True

instance (client : Client Store) (call : ClientCall) : Decidable (EvenCall py client call) := by
  unfold EvenCall
  split <;> infer_instance

end Condition

/-! ## Revisions -/

theorem toString_injective (py : Platform) {m n : ℕ} (same : toString m = toString n) : m = n := by
  have read := (py.int_repr m).symm.trans ((congrArg py.int same).trans (py.int_repr n))
  exact Int.ofNat.inj (Option.some.inj read)

theorem revText_ne (py : Platform) {m n : ℕ} (differ : m ≠ n) (hash hash' : String) :
    revText m hash ≠ revText n hash' := by
  intro same
  have numbers := congrArg (beforeFirst '-') same
  rw [beforeFirst_revText, beforeFirst_revText] at numbers
  exact differ (toString_injective py numbers)

theorem revText_ne_empty (n : ℕ) (hash : String) : revText n hash ≠ "" := by
  intro blank
  have shape := congrArg String.length blank
  simp [revText] at shape

theorem revOf_ne (py : Platform) {digest : Doc → String} {m n : ℕ} (differ : m ≠ n) (body body' : Doc) :
    Couch.revOf digest m body ≠ Couch.revOf digest n body' := by
  intro same
  have numbers := congrArg (beforeFirst '-') same
  rw [Couch.revOf, Couch.revOf, beforeFirst_numbered, beforeFirst_numbered] at numbers
  exact differ (toString_injective py numbers)

theorem revOf_ne_empty {digest : Doc → String} (n : ℕ) (body : Doc) : Couch.revOf digest n body ≠ "" := by
  intro blank
  have shape := congrArg String.length blank
  simp [Couch.revOf] at shape

/-! ## Two stores in step -/

section Pair

variable (digest : Doc → String)

/-- The document carries the in-memory revision number `n`. -/
def Numbered (d : Doc) (n : ℕ) : Prop := ∃ hash, d.text .rev = revText n hash

/-- The stores hold the same documents but for their revisions, and each has numbered its own. -/
structure Pair (s : Store) (c : Couch) : Prop where
  agree : SameButRev s.get c.get
  numbered : ∀ docId d, s.get docId = some d → ∃ n, Numbered d n
  counted : ∀ docId d, c.get docId = some d →
    ∃ body, d.text .rev = Couch.revOf digest (c.generation docId) body

/-- What the client of each store expects of a document it may have read. -/
inductive Expects (s : Store) (c : Couch) (docId : String) : Bool → String → String → Prop
  | nothing (deleted : Bool) : Expects s c docId deleted "" ""
  | current {d d' : Doc} (found : s.get docId = some d) (found' : c.get docId = some d') :
      Expects s c docId false (d.text .rev) (d'.text .rev)
  | older {d body : Doc} {n m g : ℕ} {hash : String} (found : s.get docId = some d)
      (numbered : Numbered d m) (behind : n < m) (generation : g < c.generation docId) :
      Expects s c docId false (revText n hash) (Couch.revOf digest g body)
  | gone {body : Doc} {g : ℕ} {rev : String} (named : rev ≠ "") (generation : g < c.generation docId) :
      Expects s c docId true rev (Couch.revOf digest g body)

variable {digest} {s : Store} {c : Couch}

theorem Pair.rev_ne_empty (pair : Pair digest s c) {docId : String} {d : Doc} (found : s.get docId = some d) :
    d.text .rev ≠ "" := by
  obtain ⟨n, hash, rev⟩ := pair.numbered docId d found
  rw [rev]
  exact revText_ne_empty n hash

theorem Pair.couch_rev_ne_empty (pair : Pair digest s c) {docId : String} {d : Doc}
    (found : c.get docId = some d) : d.text .rev ≠ "" := by
  obtain ⟨body, rev⟩ := pair.counted docId d found
  rw [rev]
  exact revOf_ne_empty _ body

/-- Both stores hold the expected revision or neither does. -/
theorem Expects.same (py : Platform) {docId : String} {deleted : Bool} {rev rev' : String}
    (expects : Expects digest s c docId deleted rev rev') (pair : Pair digest s c)
    (fresh : ¬ (deleted ∧ ∃ d ∈ s.get docId, d.text .rev = rev)) :
    ((s.get docId).map (·.text .rev)).getD "" = rev ↔ ((c.get docId).map (·.text .rev)).getD "" = rev' := by
  cases expects with
  | nothing =>
      cases found : s.get docId with
      | none => simp [pair.agree.missing found]
      | some d =>
          obtain ⟨d', found', -⟩ := pair.agree.found found
          simp [found', pair.rev_ne_empty found, pair.couch_rev_ne_empty found']
  | current found found' => simp [found, found']
  | older found numbered behind generation =>
      obtain ⟨hash, rev⟩ := numbered
      obtain ⟨d', found', -⟩ := pair.agree.found found
      obtain ⟨body, rev'⟩ := pair.counted docId d' found'
      simp [found, found', rev, rev', revText_ne py behind.ne', revOf_ne py generation.ne']
  | gone named generation =>
      cases found : s.get docId with
      | none => simp [pair.agree.missing found, named.symm, (revOf_ne_empty _ _).symm]
      | some d =>
          obtain ⟨d', found', -⟩ := pair.agree.found found
          obtain ⟨body, rev'⟩ := pair.counted docId d' found'
          have other : d.text .rev ≠ rev := fun same => fresh ⟨rfl, d, found, same⟩
          simp [found', rev', other, revOf_ne py generation.ne']

/-! ### What an operation does to both -/

variable (digest s c) in
/-- A write of the same document under its next revision in each store. -/
structure WroteBoth (docId : String) (stored body : Doc) : Prop where
  sameId : stored.text .id = docId
  sameId' : body.text .id = docId
  same : revless stored = revless body
  numbered : ∃ n, Numbered stored n ∧ ∀ d m, s.get docId = some d → Numbered d m → m < n

variable (digest s c) in
/-- The stores after an operation on `docId`, and whether it was deleted. -/
inductive Moves (docId : String) : Bool → Store → Couch → Prop
  | kept : Moves docId false s c
  | wrote {stored body : Doc} (both : WroteBoth s docId stored body) :
      Moves docId false (s.assign stored) (c.accept digest body)
  | removed {d : Doc} (found : s.get docId = some d) :
      Moves docId true (s.remove docId)
        ⟨c.docs.remove docId, c.generations.set docId (c.generation docId + 1)⟩

theorem accept_get (c : Couch) (body : Doc) (docId : String) : (c.accept digest body).get docId =
    if docId = body.text .id then
      some (body.set .rev (.str (Couch.revOf digest (c.generation (body.text .id) + 1) body)))
    else c.get docId := by
  have sameId (v : Json) : (body.set .rev v).text .id = body.text .id :=
    Doc.text_congr (by simp [Doc.get?_set])
  rw [Couch.get, Couch.accept, Store.get_assign, sameId]
  rfl

theorem accept_generation (c : Couch) (body : Doc) (docId : String) :
    (c.accept digest body).generation docId =
      if docId = body.text .id then c.generation (body.text .id) + 1 else c.generation docId := by
  simp only [Couch.generation, Couch.accept, Table.get?_set]
  split <;> rfl

theorem text_set_rev (d : Doc) (rev : String) : (d.set .rev (.str rev)).text .rev = rev :=
  Doc.text_of_str (by simp [Doc.get?_set])

theorem Moves.pair {docId : String} {deleted : Bool} {s' : Store} {c' : Couch} (pair : Pair digest s c)
    (moves : Moves digest s c docId deleted s' c') : Pair digest s' c' := by
  cases moves with
  | kept => exact pair
  | wrote both =>
      rename_i stored body
      refine ⟨fun docId' => ?_, fun docId' d found => ?_, fun docId' d found => ?_⟩
      · rw [Store.get_assign, accept_get, both.sameId, both.sameId']
        split
        · simp only [Option.map_some, revless_set_rev, both.same]
        · exact pair.agree docId'
      · rw [Store.get_assign] at found
        split at found
        · cases found
          obtain ⟨n, numbered, -⟩ := both.numbered
          exact ⟨n, numbered⟩
        · exact pair.numbered docId' d found
      · rw [accept_get] at found
        rw [accept_generation]
        split at found
        · cases found
          rename_i here
          rw [if_pos here]
          exact ⟨body, text_set_rev _ _⟩
        · rename_i elsewhere
          rw [if_neg elsewhere]
          exact pair.counted docId' d found
  | removed found =>
      refine ⟨fun docId' => ?_, fun docId' d found => ?_, fun docId' d found => ?_⟩
      · rw [Store.get_remove, Couch.get, Store.get_remove]
        split
        · rfl
        · exact pair.agree docId'
      · rw [Store.get_remove] at found
        split at found
        · cases found
        · exact pair.numbered docId' d found
      · rw [Couch.get, Store.get_remove] at found
        split at found
        · cases found
        · rename_i elsewhere
          have same : Couch.generation ⟨c.docs.remove docId,
              c.generations.set docId (c.generation docId + 1)⟩ docId' = c.generation docId' := by
            simp [Couch.generation, Table.get?_set, elsewhere]
          rw [same]
          exact pair.counted docId' d found

/-- An operation elsewhere leaves what is expected of a document. -/
theorem Expects.frame {s' : Store} {c' : Couch} {docId : String} {deleted : Bool} {rev rev' : String}
    (expects : Expects digest s c docId deleted rev rev') (same : s'.get docId = s.get docId)
    (same' : c'.get docId = c.get docId) (generation : c'.generation docId = c.generation docId) :
    Expects digest s' c' docId deleted rev rev' := by
  cases expects with
  | nothing => exact .nothing deleted
  | current found found' => exact .current (same.trans found) (same'.trans found')
  | older found numbered behind generation' =>
      exact .older (same.trans found) numbered behind (generation ▸ generation')
  | gone named generation' => exact .gone named (generation ▸ generation')

theorem Expects.wrote {docId : String} {deleted : Bool} {rev rev' : String} {stored body : Doc}
    (expects : Expects digest s c docId deleted rev rev') (pair : Pair digest s c)
    (both : WroteBoth s docId stored body) :
    Expects digest (s.assign stored) (c.accept digest body) docId deleted rev rev' := by
  have here : (s.assign stored).get docId = some stored := by
    rw [Store.get_assign, both.sameId, if_pos rfl]
  have generation : (c.accept digest body).generation docId = c.generation docId + 1 := by
    rw [accept_generation, both.sameId', if_pos rfl]
  obtain ⟨n, numbered, above⟩ := both.numbered
  cases expects with
  | nothing => exact .nothing deleted
  | current found found' =>
      obtain ⟨m, hash, held⟩ := pair.numbered docId _ found
      obtain ⟨body', held'⟩ := pair.counted docId _ found'
      rw [held, held']
      exact .older here numbered (above _ m found ⟨hash, held⟩) (by omega)
  | older found numbered' behind generation' =>
      exact .older here numbered (behind.trans (above _ _ found numbered')) (by omega)
  | gone named generation' => exact .gone named (by omega)

theorem Expects.removed {docId : String} {deleted : Bool} {rev rev' : String}
    (expects : Expects digest s c docId deleted rev rev') (pair : Pair digest s c) :
    Expects digest (s.remove docId)
      ⟨c.docs.remove docId, c.generations.set docId (c.generation docId + 1)⟩ docId true rev rev' := by
  have generation : Couch.generation ⟨c.docs.remove docId,
      c.generations.set docId (c.generation docId + 1)⟩ docId = c.generation docId + 1 := by
    simp [Couch.generation]
  cases expects with
  | nothing => exact .nothing true
  | current found found' =>
      obtain ⟨body', held'⟩ := pair.counted docId _ found'
      rw [held']
      exact .gone (pair.rev_ne_empty found) (by omega)
  | older found numbered behind generation' => exact .gone (revText_ne_empty _ _) (by omega)
  | gone named generation' => exact .gone named (by omega)

end Pair

/-! ## Operation by operation -/

section Operations

variable {py : Platform} {digest : Doc → String} {s : Store} {c : Couch}

section Same

variable {d d' : Doc} (same : revless d' = revless d)
include same

theorem same_get? {f : Field} (other : f ≠ .rev) : d'.get? f = d.get? f := by
  rw [← revless_get? other, same, revless_get? other]

theorem same_text {f : Field} (other : f ≠ .rev) : d'.text f = d.text f := Doc.text_congr (same_get? same other)

theorem same_isImmutable : isImmutableSourceDocument d' = isImmutableSourceDocument d := by
  rw [← revless_isImmutable, same, revless_isImmutable]

theorem same_isRevisionScoped : isRevisionScopedSourceCopy d' = isRevisionScopedSourceCopy d := by
  rw [← revless_isRevisionScoped, same, revless_isRevisionScoped]

theorem same_classify (docId hash : String) :
    classifyDocumentIdempotency py (some d') docId hash = classifyDocumentIdempotency py (some d) docId hash := by
  rw [← revless_classify, same, revless_classify]

end Same

theorem revless_revless (d : Doc) : revless (revless d) = revless d := revless_without (by decide)

theorem revless_stamp (d : Doc) (docId rev hash : String) : revless (Store.stamp d docId rev hash) =
    (revless d).update [(.idempotencyKey, .str docId), (.payloadHash, .str hash)] := by
  simp only [Store.stamp, Doc.update_cons, Doc.update_nil, revless_set (by decide : Field.payloadHash ≠ .rev),
    revless_set (by decide : Field.idempotencyKey ≠ .rev), revless_set_rev]

theorem revless_body (d : Doc) (docId hash rev : String) : revless (Http.body d docId hash rev) =
    (revless d).update [(.idempotencyKey, .str docId), (.payloadHash, .str hash)] := by
  have bare : revless (d.without [.rev]) = revless d := revless_revless d
  unfold Http.body
  split <;>
    simp only [Doc.update_cons, Doc.update_nil, revless_set (by decide : Field.payloadHash ≠ .rev),
      revless_set (by decide : Field.idempotencyKey ≠ .rev), revless_set_rev, bare]

theorem body_id (d : Doc) (docId hash rev : String) : (Http.body d docId hash rev).text .id = d.text .id := by
  rw [← revless_text (by decide), revless_body, ← revless_stamp d docId "" hash, revless_text (by decide)]
  exact Doc.text_congr (Store.get?_stamp _ _ _ _ (by decide))

theorem body_rev (d : Doc) (docId hash rev : String) : (Http.body d docId hash rev).text .rev = rev := by
  unfold Http.body
  split
  · rename_i blank
    rw [blank]
    exact text_of_missing (by simp [Doc.get?_set, Doc.get?_without])
  · exact text_set_rev _ _

variable (digest) in
theorem putDocument_body {d : Doc} {docId rev : String} (sameId : d.text .id = docId)
    (current : c.currentRev docId = rev) (hash : String) :
    ∃ next, c.putDocument digest (Http.body d docId hash rev) =
      (some next, c.accept digest (Http.body d docId hash rev)) := by
  refine ⟨_, if_pos ?_⟩
  rw [body_rev, body_id, sameId, current]

/-- The next number of a document: one, or one more than it has. -/
def IsNext (s : Store) (docId : String) (n : ℕ) : Prop := ∀ d m, s.get docId = some d → Numbered d m → m < n

theorem isNext_of_missing {docId : String} (missing : s.get docId = none) (n : ℕ) : IsNext s docId n := by
  intro d m found
  rw [missing] at found
  cases found

theorem isNext_of_found (py : Platform) {docId : String} {d : Doc} {n : ℕ} (found : s.get docId = some d)
    (numbered : Numbered d n) : IsNext s docId (n + 1) := by
  intro d' m found' numbered'
  cases found.symm.trans found'
  obtain ⟨hash, rev⟩ := numbered
  obtain ⟨hash', rev'⟩ := numbered'
  by_contra above
  exact revText_ne py (show n ≠ m by omega) hash hash' (rev.symm.trans rev')

theorem wroteBoth_stamp {d : Doc} {docId : String} (sameId : d.text .id = docId) {n : ℕ}
    (next : IsNext s docId n) (hash rev : String) :
    WroteBoth s docId (Store.stamp d docId (revText n hash) hash) (Http.body d docId hash rev) where
  sameId := (Doc.text_congr (Store.get?_stamp _ _ _ _ (by decide))).trans sameId
  sameId' := (body_id _ _ _ _).trans sameId
  same := by rw [revless_stamp, revless_body]
  numbered := ⟨n, ⟨hash, Doc.text_of_str (by simp [Store.stamp, Doc.get?_set])⟩, next⟩

variable (digest s c) in
/-- The same reply but for the revision, over stores that have moved together. -/
def Stores (docId : String) (a : StoredRevision × Store) (b : StoredRevision × Couch) : Prop :=
  a.1.docId = b.1.docId ∧ a.1.outcome = b.1.outcome ∧ Moves digest s c docId false a.2 b.2

theorem Stores.kept {docId rev rev' : String} (outcome : Outcome) :
    Stores digest s c docId (⟨docId, rev, outcome⟩, s) (⟨docId, rev', outcome⟩, c) :=
  ⟨rfl, rfl, .kept⟩

theorem Stores.wrote {docId rev rev' : String} {stored body : Doc} (outcome : Outcome)
    (both : WroteBoth s docId stored body) :
    Stores digest s c docId (⟨docId, rev, outcome⟩, s.assign stored)
      (⟨docId, rev', outcome⟩, c.accept digest body) :=
  ⟨rfl, rfl, .wrote both⟩

variable (pair : Pair digest s c)
include pair

theorem Pair.allowsWrite {docId : String} {d d' : Doc} (same : revless d' = revless d) (allowAppend : Bool) :
    requireActiveSourceRevisionAllowsWrite py s docId d allowAppend = .ok () ↔
      requireActiveSourceRevisionAllowsWrite py c.docs docId d' allowAppend = .ok () :=
  ⟨allowsWrite_agree pair.agree same, allowsWrite_agree pair.agree.symm same.symm⟩

theorem putIfAbsent_alike (d : Doc) :
    Alike (Stores digest s c (d.text .id)) (putIfAbsent py d s) (Http.putIfAbsent py digest d c) := by
  unfold putIfAbsent Http.putIfAbsent
  refine .bind_same fun _ _ => .bind_same fun hash _ => ?_
  cases found : s.get (d.text .id) with
  | some existing =>
      obtain ⟨existing', found', same⟩ := pair.agree.found found
      simp only [found', same_classify same]
      refine .bind_same fun decision _ => ?_
      split
      · exact .kept _
      · exact .guard (pair.allowsWrite same true) fun _ => .raise _ _
  | none =>
      have missing := pair.agree.missing found
      simp only [missing]
      refine .guard (pair.allowsWrite rfl true) fun _ => ?_
      have current : c.currentRev (d.text .id) = "" := by simp [Couch.currentRev, missing]
      obtain ⟨next, done⟩ := putDocument_body digest rfl current hash
      rw [done]
      exact .wrote _ (wroteBoth_stamp rfl (isNext_of_missing found 1) hash "")

theorem Pair.classify (docId hash : String) : classifyDocumentIdempotency py (c.get docId) docId hash =
    classifyDocumentIdempotency py (s.get docId) docId hash := by
  cases found : s.get docId with
  | none => rw [pair.agree.missing found]
  | some d =>
      obtain ⟨d', found', same⟩ := pair.agree.found found
      rw [found', same_classify same]

/-- The number of a stored document reads, and is followed by the next. -/
theorem Pair.nextRevNumber (py : Platform) {docId : String} {d : Doc} (found : s.get docId = some d) :
    ∃ n : ℕ, nextRevNumber py (d.text .rev) = .ok n ∧ IsNext s docId n := by
  obtain ⟨n, hash, rev⟩ := pair.numbered docId d found
  refine ⟨n + 1, ?_, isNext_of_found py found ⟨hash, rev⟩⟩
  rw [rev, nextRevNumber_revText]
  rfl

/-- Storing a document that both stores allow. -/
theorem write_alike {d : Doc} {existing existing' : Doc} {hash : String} {docId : String}
    (sameId : d.text .id = docId) (found : s.get docId = some existing)
    (found' : c.get docId = some existing') (outcome : Outcome) :
    Alike (Stores digest s c docId)
      (nextRevNumber py (existing.text .rev) >>= fun number =>
        (.ok (⟨docId, revText number hash, outcome⟩,
          s.assign (Store.stamp d docId (revText number hash) hash)) : Except PyError (StoredRevision × Store)))
      (Http.write py digest docId d hash (some existing') c >>= fun (rev, c') =>
        (.ok (⟨docId, rev, outcome⟩, c') : Except PyError (StoredRevision × Couch))) := by
  obtain ⟨n, read, next⟩ := pair.nextRevNumber py found
  have current : c.currentRev docId = existing'.text .rev := by simp [Couch.currentRev, found']
  obtain ⟨rev, done⟩ := putDocument_body digest sameId current hash
  rw [read]
  simp only [Http.write, Option.map_some, Option.getD_some, done, ok_bind]
  exact .wrote _ (wroteBoth_stamp sameId next hash _)

theorem put_alike (d : Doc) :
    Alike (Stores digest s c (d.text .id)) (put py d s) (Http.put py digest d c) := by
  unfold put Http.put
  refine .bind_same fun _ _ => ?_
  split
  · exact putIfAbsent_alike pair d
  · refine .bind_same fun hash _ => ?_
    simp only [pair.classify]
    refine .bind_same fun decision _ => ?_
    cases found : s.get (d.text .id) with
    | some existing =>
        obtain ⟨existing', found', same⟩ := pair.agree.found found
        simp only [found']
        split
        · exact .kept _
        · refine .guard (by simp [same_isImmutable same]) fun _ => ?_
          refine .guard (pair.allowsWrite same false) fun _ => ?_
          exact write_alike pair rfl found found' _
    | none =>
        have missing := pair.agree.missing found
        simp only [missing]
        refine .guard (pair.allowsWrite rfl false) fun _ => ?_
        have current : c.currentRev (d.text .id) = "" := by simp [Couch.currentRev, missing]
        obtain ⟨next, done⟩ := putDocument_body digest rfl current hash
        simp only [Http.write, Option.map_none, Option.getD_none, done, ok_bind]
        exact .wrote _ (wroteBoth_stamp rfl (isNext_of_missing found 1) hash "")

theorem putIfRevision_alike (d : Doc) {expectedRev expectedRev' : String}
    (expected : ((s.get (d.text .id)).map (·.text .rev)).getD "" = expectedRev ↔
      ((c.get (d.text .id)).map (·.text .rev)).getD "" = expectedRev') :
    Alike (Stores digest s c (d.text .id)) (putIfRevision py d expectedRev s)
      (Http.putIfRevision py digest d expectedRev' c) := by
  unfold putIfRevision Http.putIfRevision
  refine .bind_same fun _ _ => .bind_same fun _ _ => ?_
  refine .guard (by simpa using expected) fun _ => .bind_same fun hash _ => ?_
  simp only [pair.classify]
  refine .bind_same fun decision _ => ?_
  cases found : s.get (d.text .id) with
  | some existing =>
      obtain ⟨existing', found', same⟩ := pair.agree.found found
      simp only [found', Option.isSome_some, true_and, Option.any_some, Option.getD_some, Option.map_some,
        same_isRevisionScoped same]
      split
      · exact .kept _
      · split
        · exact .guard (pair.allowsWrite same false) fun _ => .raise _ _
        · refine .guard (pair.allowsWrite same false) fun _ => ?_
          obtain ⟨n, read, next⟩ := pair.nextRevNumber py found
          have current : c.currentRev (d.text .id) = existing'.text .rev := by simp [Couch.currentRev, found']
          obtain ⟨rev, done⟩ := putDocument_body digest rfl current hash
          rw [if_neg (pair.rev_ne_empty found), read, done]
          exact .wrote _ (wroteBoth_stamp rfl next hash _)
  | none =>
      have missing := pair.agree.missing found
      simp only [missing, Option.isSome_none, Bool.false_eq_true, false_and, if_false, Option.any_none, or_false,
        Option.getD_none, Option.map_none, if_true]
      split
      · exact .guard (pair.allowsWrite rfl false) fun _ => .raise _ _
      · refine .guard (pair.allowsWrite rfl false) fun _ => ?_
        have current : c.currentRev (d.text .id) = "" := by simp [Couch.currentRev, missing]
        obtain ⟨next, done⟩ := putDocument_body digest rfl current hash
        rw [done]
        exact .wrote _ (wroteBoth_stamp rfl (isNext_of_missing found 1) hash "")

/-! ### Deletion -/

theorem delete_alike (docId : String) :
    Alike (fun a b => a.1 = b.1 ∧ Moves digest s c docId a.1 a.2 b.2) (delete py docId s)
      (Http.delete py docId c) := by
  unfold delete Http.delete
  cases found : s.get docId with
  | none =>
      simp only [pair.agree.missing found]
      exact ⟨rfl, .kept⟩
  | some existing =>
      obtain ⟨existing', found', same⟩ := pair.agree.found found
      simp only [found', pair.couch_rev_ne_empty found', if_false]
      refine .guard ⟨allowsDelete_agree pair.agree same, allowsDelete_agree pair.agree.symm same.symm⟩ fun _ => ?_
      have current : existing'.text .rev = c.currentRev docId := by simp [Couch.currentRev, found']
      simp only [Couch.deleteDocument, current, if_true]
      exact ⟨rfl, .removed found⟩

/-! ### The merge -/

omit pair in
theorem merge_revless (existing incoming : Doc) (authoritative : Bool) :
    mergeTranscriptSessionDocuments py (some (revless existing)) incoming authoritative =
      mergeTranscriptSessionDocuments py (some existing) incoming authoritative := by
  have bare : (revless existing).without bookkeepingFields = existing.without bookkeepingFields :=
    revless_without (by decide)
  have value (f : Field) (other : f ≠ .rev) : firstValue (revless existing) incoming f =
      firstValue existing incoming f := by
    simp only [firstValue, revless_value? other]
  simp only [mergeTranscriptSessionDocuments, mergedIdentity, bare, revless_docType,
    revless_text (by decide : Field.id ≠ .rev), revless_text (by decide : Field.startedAt ≠ .rev),
    revless_text (by decide : Field.observedAtStart ≠ .rev), revless_text (by decide : Field.endedAt ≠ .rev),
    revless_text (by decide : Field.observedAtEnd ≠ .rev), revless_text (by decide : Field.sessionIdHash ≠ .rev),
    revless_text (by decide : Field.provider ≠ .rev), revless_text (by decide : Field.project ≠ .rev),
    value .sourceHash (by decide), value .materializedAt (by decide), value .sourceStatus (by decide),
    List.forM]

theorem Pair.merge (incoming : Doc) (authoritative : Bool) (docId : String) :
    mergeTranscriptSessionDocuments py (c.get docId) incoming authoritative =
      mergeTranscriptSessionDocuments py (s.get docId) incoming authoritative := by
  cases found : s.get docId with
  | none => rw [pair.agree.missing found]
  | some d =>
      obtain ⟨d', found', same⟩ := pair.agree.found found
      rw [found', ← merge_revless, same, merge_revless]

omit pair in
/-- Bookkeeping plays no part in the validation of an ordinary document. -/
theorem validateForWrite_bare {d d' : Doc} (same : ∀ f ∉ bookkeepingFields, d'.get? f = d.get? f)
    (ordinary : docType? d ≠ some .repoUsagePattern)
    (keys : ∀ k ∈ d'.keys, k ∈ d.keys ∨ ∃ f ∈ bookkeepingFields, k = .field f)
    (valid : validateForWrite py d = .ok ()) : validateForWrite py d' = .ok () := by
  have text (f : Field) (other : f ∉ bookkeepingFields) : d'.text f = d.text f := Doc.text_congr (same f other)
  have typed : docType? d' = docType? d := docType?_congr (same .docType (by decide))
  have pointer : validateActivePointer d' = validateActivePointer d := by
    simp only [validateActivePointer, text .sessionIdHash (by decide), text .id (by decide)]
  have plain : assertNoSecretLikeMetadata d.keys = .ok () → assertNoSecretLikeMetadata d'.keys = .ok () := by
    intro plain
    refine assertNoSecretLikeMetadata_eq_ok.mpr fun k mem => ?_
    rcases keys k mem with old | ⟨f, listed, rfl⟩
    · exact assertNoSecretLikeMetadata_eq_ok.mp plain k old
    · have every : ∀ f ∈ bookkeepingFields, isSecretLikeKey f.name = false := by decide +kernel
      exact every f listed
  unfold validateForWrite at valid ⊢
  simp only [Doc.value?_congr (same .id (by decide)), same .docType (by decide), same .body (by decide), typed,
    pointer, ordinary, if_false, bind_eq_ok, refuseIf_eq_ok] at valid ⊢
  obtain ⟨⟨⟩, named, ⟨⟩, owned, valid⟩ := valid
  refine ⟨(), named, (), owned, ?_⟩
  by_cases pointing : docType? d = some .activeSourceRevision
  · simp only [pointing, if_true, bind_eq_ok] at valid ⊢
    obtain ⟨⟨⟩, pointed, ⟨⟩, plain', clean⟩ := valid
    exact ⟨(), pointed, (), plain plain', clean⟩
  · simp only [pointing, if_false, bind_eq_ok] at valid ⊢
    obtain ⟨⟨⟩, plain', clean⟩ := valid
    exact ⟨(), plain plain', clean⟩

omit pair in
theorem validateForWrite_without {d : Doc} (ordinary : docType? d ≠ some .repoUsagePattern)
    (valid : validateForWrite py d = .ok ()) : validateForWrite py (d.without bookkeepingFields) = .ok () :=
  validateForWrite_bare (fun f other => by simp [Doc.get?_without, other]) ordinary
    (fun _ mem => .inl (mem_keys_without mem)) valid

omit pair in
theorem merge_none_ok {incoming merged : Doc} {authoritative : Bool}
    (done : mergeTranscriptSessionDocuments py none incoming authoritative = .ok merged) :
    merged = incoming.without bookkeepingFields := by
  unfold mergeTranscriptSessionDocuments at done
  simp only [bind_eq_ok, pure_eq_ok, Except.ok.injEq] at done
  obtain ⟨⟨⟩, -, ⟨⟩, -, rfl⟩ := done
  rfl

omit pair in
theorem merge_some_ok {existing incoming merged : Doc} {authoritative : Bool}
    (done : mergeTranscriptSessionDocuments py (some existing) incoming authoritative = .ok merged) :
    validateForWrite py merged = .ok () ∧ docType? existing = some .transcriptSession ∧
      isRevisionScopedSourceCopy merged = isRevisionScopedSourceCopy existing := by
  obtain ⟨-, -, session, -, -, -, valid, rfl⟩ := merge_some_eq_ok.mp done
  refine ⟨valid, session, ?_⟩
  simp [isRevisionScopedSourceCopy, mergedEnvelope, Doc.has, Doc.get?_set, mergedIdentity_get?, identityFields, bookkeepingFields]

omit pair in
theorem isImmutable_of_session {d : Doc} (session : docType? d = some .transcriptSession) :
    isImmutableSourceDocument d = isRevisionScopedSourceCopy d := by
  simp [isImmutableSourceDocument, hasImmutableDocType, session, isImmutableDocType]

omit pair in
theorem allowsWrite_congr {docId : String} {d d' : Doc} {allowAppend : Bool}
    (member : isSourceMember d' = isSourceMember d) (session : d'.text .sessionIdHash = d.text .sessionIdHash) :
    requireActiveSourceRevisionAllowsWrite py s docId d' allowAppend =
      requireActiveSourceRevisionAllowsWrite py s docId d allowAppend := by
  simp only [requireActiveSourceRevisionAllowsWrite, member, session]

omit pair in
/-- What is allowed without an append is allowed with one. -/
theorem allowsWrite_append {docId : String} {d : Doc}
    (allowed : requireActiveSourceRevisionAllowsWrite py s docId d false = .ok ()) :
    requireActiveSourceRevisionAllowsWrite py s docId d true = .ok () := by
  unfold requireActiveSourceRevisionAllowsWrite at allowed ⊢
  simp only at allowed ⊢
  split at allowed
  · rename_i plain
    rw [if_pos plain]
  · rename_i source
    rw [if_neg source]
    split at allowed
    · rfl
    · simp only [bind_eq_ok, refuseIf_eq_ok] at allowed ⊢
      obtain ⟨r, resolves, ⟨⟩, unlisted, origins, collected, -⟩ := allowed
      exact ⟨r, resolves, (), unlisted, origins, collected, by simp⟩

omit pair in
theorem payloadHash_ne_empty {d : Doc} {hash : String} (hashed : payloadHash py d = .ok hash) : hash ≠ "" := by
  have like (e : Encoded) : sha256Hash py e ≠ "" := hashLike_nonempty (hashLike_sha256Hash py e)
  unfold payloadHash at hashed
  split at hashed
  · cases hashed
    exact like _
  · cases hashed
    exact like _
  · simp only [bind_eq_ok, pure_eq_ok, Except.ok.injEq] at hashed
    obtain ⟨_, -, _, -, _, -, _, -, _, -, _, -, rfl⟩ := hashed
    exact like _
  · split at hashed <;> cases hashed <;> exact like _

omit pair in
theorem classify_missing {docId hash : String} (named : docId ≠ "") (nonblank : hash ≠ "") :
    classifyDocumentIdempotency py none docId hash = .ok .accepted := by
  simp [classifyDocumentIdempotency, classifyIdempotency, refuseIf, named, nonblank]

omit pair in
/-- A first put, of a mutable or an immutable document. -/
theorem put_missing {d : Doc} (valid : validateForWrite py d = .ok ()) (named : d.text .id ≠ "")
    (missing : s.get (d.text .id) = none) : put py d s =
      payloadHash py d >>= fun hash =>
        requireActiveSourceRevisionAllowsWrite py s (d.text .id) d (isImmutableSourceDocument d) >>= fun _ =>
          .ok (⟨d.text .id, revText 1 hash, .accepted⟩,
            s.assign (Store.stamp d (d.text .id) (revText 1 hash) hash)) := by
  cases hashed : payloadHash py d with
  | error e => simp [put, putIfAbsent, valid, hashed]
  | ok hash =>
      by_cases immutable : isImmutableSourceDocument d
      · simp [put, putIfAbsent, valid, hashed, immutable, missing]
      · simp [put, valid, hashed, immutable, missing, classify_missing named (payloadHash_ne_empty hashed)]

omit pair in
theorem text_id_ne_empty {d : Doc} (valid : validateForWrite py d = .ok ()) : d.text .id ≠ "" := by
  unfold validateForWrite at valid
  simp only [bind_eq_ok, refuseIf_eq_ok] at valid
  obtain ⟨⟨⟩, present, -⟩ := valid
  obtain ⟨v, held⟩ := Option.ne_none_iff_exists'.mp present
  have truthy := (Option.filter_eq_some_iff.mp held).2
  simp only [Doc.text, held, Option.map_some, Option.getD_some]
  intro blank
  rw [Json.eq_str_of_text_blank blank] at truthy
  simp [Json.truthy] at truthy

theorem merge_alike {incoming : Doc} {authoritative : Bool} (even : EvenMerge py incoming authoritative s)
    (maxAttempts : Int) :
    Alike (Stores digest s c (incoming.text .id))
      (mergeTranscriptSessionAggregate py incoming maxAttempts authoritative s)
      (Http.mergeTranscriptSessionAggregate py digest incoming maxAttempts authoritative c) := by
  unfold mergeTranscriptSessionAggregate Http.mergeTranscriptSessionAggregate
  refine .bind_same fun _ positive => ?_
  rw [refuseIf_eq_ok] at positive
  obtain ⟨n, attempts⟩ : ∃ n, maxAttempts.toNat = n + 1 := ⟨maxAttempts.toNat - 1, by omega⟩
  cases valid : validateForWrite py incoming with
  | error e =>
      simp only [mergeTranscriptSessionDocuments, valid, error_bind]
      exact .raise _ _
  | ok u =>
      have named := text_id_ne_empty valid
      simp only [named, if_false, ok_bind, attempts, Http.mergeAttempts, pair.merge, pair.classify]
      refine .bind_same fun merged merging => ?_
      obtain ⟨-, session, mergedSession, sameId⟩ := merge_ok merging
      unfold EvenMerge at even
      cases found : s.get (incoming.text .id) with
      | none =>
          have missing := pair.agree.missing found
          rw [found] at merging even
          have bare := merge_none_ok merging
          have validMerged : validateForWrite py merged = .ok () := by
            rw [bare]
            exact validateForWrite_without (by simp [session]) valid
          have copied : isImmutableSourceDocument merged = isRevisionScopedSourceCopy incoming := by
            rw [isImmutable_of_session mergedSession, bare]
            simp [isRevisionScopedSourceCopy, Doc.has, Doc.get?_without, bookkeepingFields]
          have allows (append : Bool) :
              requireActiveSourceRevisionAllowsWrite py s (incoming.text .id) merged append =
                requireActiveSourceRevisionAllowsWrite py s (incoming.text .id) incoming append :=
            allowsWrite_congr (by simp [isSourceMember, mergedSession, session])
              (Doc.text_congr (by simp [bare, Doc.get?_without, bookkeepingFields]))
          rw [put_missing validMerged (sameId ▸ named) (sameId ▸ found), sameId]
          refine .bind_same fun hash hashed => ?_
          simp only [missing, classify_missing named (payloadHash_ne_empty hashed), ok_bind, Option.isSome_none,
            Bool.false_eq_true, false_and, if_false, Option.getD_none, Option.any_none, refuseIf, Option.map_none]
          refine .guard ?_ fun _ => ?_
          · rw [← pair.allowsWrite rfl, allows, allows, copied]
            cases copy : isRevisionScopedSourceCopy incoming with
            | false => rfl
            | true => exact ⟨even copy, allowsWrite_append⟩
          · have current : c.currentRev (incoming.text .id) = "" := by simp [Couch.currentRev, missing]
            obtain ⟨next, done⟩ := putDocument_body digest sameId current hash
            rw [done]
            exact .wrote _ (wroteBoth_stamp sameId (isNext_of_missing found 1) hash "")
      | some existing =>
          obtain ⟨existing', found', same⟩ := pair.agree.found found
          rw [found] at merging even
          obtain ⟨validMerged, existingSession, copied⟩ := merge_some_ok merging
          have mutable := isImmutable_of_session existingSession
          simp only [found', Option.isSome_some, true_and, Option.getD_some, Option.any_some, Option.map_some,
            pair.couch_rev_ne_empty found', decide_false, Bool.false_eq_true, refuseIf, if_false, ok_bind]
          rw [put, validMerged, ok_bind, isImmutable_of_session mergedSession, copied]
          cases copy : isRevisionScopedSourceCopy existing with
          | false =>
              simp only [Bool.false_eq_true, if_false, sameId, found, mutable, copy, refuseIf, ok_bind]
              refine .bind_same fun hash _ => .bind_same fun decision _ => ?_
              split
              · exact .kept _
              · refine .guard (pair.allowsWrite same false) fun _ => ?_
                obtain ⟨m, read, next⟩ := pair.nextRevNumber py found
                have current : c.currentRev (incoming.text .id) = existing'.text .rev := by
                  simp [Couch.currentRev, found']
                obtain ⟨rev, done⟩ := putDocument_body digest sameId current hash
                rw [read, done]
                exact .wrote _ (wroteBoth_stamp sameId next hash _)
          | true =>
              simp only [if_true, putIfAbsent, validMerged, ok_bind, sameId, found]
              refine .bind_same fun hash hashed => .bind_same fun decision classified => ?_
              split
              · exact .kept _
              · rename_i fresh
                have refused : requireActiveSourceRevisionAllowsWrite py s (incoming.text .id) existing false ≠
                    .ok () := by
                  refine (even copy merged (by rw [merging]; rfl) hash (by rw [hashed]; rfl)).resolve_left fun duplicate => ?_
                  exact fresh (Except.ok.inj (classified.symm.trans duplicate))
                rw [ne_eq, pair.allowsWrite same] at refused
                cases denied : requireActiveSourceRevisionAllowsWrite py c.docs (incoming.text .id) existing' false with
                | ok u => exact absurd denied refused
                | error e =>
                    cases requireActiveSourceRevisionAllowsWrite py s (incoming.text .id) existing true <;>
                      exact .raise _ _

/-! ### The patch -/

section Patched

variable {p : Patch} {current current' : Doc} (same : revless current' = revless current)
include same

omit pair in
theorem same_key {k : Key} (other : k ≠ .field .rev) : Dict.get? current' k = Dict.get? current k := by
  have drop (d : Doc) : Dict.get? (revless d) k = Dict.get? d k := by
    simp [revless, Doc.without, Dict.get?_filter, other]
  rw [← drop, same, drop]

omit pair in
/-- The two ways of writing the patched times. -/
theorem patched_timed : SameMaterial (p.updated current) (current'.update
    [(.observedAtStart, .str p.observedAtStart), (.observedAtEnd, .str p.observedAtEnd)]) := by
  intro k other
  have kept : k ≠ .field .rev := by
    rintro rfl
    exact other (by decide)
  have before := same_key same kept
  simp only [Patch.updated, Doc.update_cons, Doc.update_nil, Doc.set, Dict.get?_insert, Doc.without,
    Dict.get?_filter, before]
  split
  · rfl
  · split
    · rfl
    · simp [other]

end Patched

omit pair in
theorem SameMaterial.set {d d' : Doc} (same : SameMaterial d d') (f : Field) (v : Json) :
    SameMaterial (d.set f v) (d'.set f v) := by
  intro k other
  rw [Doc.set, Doc.set, Dict.get?_insert, Dict.get?_insert, same k other]

omit pair in
theorem SameMaterial.symm {d d' : Doc} (same : SameMaterial d d') : SameMaterial d' d :=
  fun k other => (same k other).symm

omit pair in
theorem SameMaterial.keys {d d' : Doc} (same : SameMaterial d d') :
    ∀ k ∈ d'.keys, k ∈ d.keys ∨ ∃ f ∈ bookkeepingFields, k = .field f := by
  intro k mem
  by_cases listed : k ∈ bookkeepingFields.map Key.field
  · obtain ⟨f, kept, rfl⟩ := List.mem_map.mp listed
    exact .inr ⟨f, kept, rfl⟩
  · rw [mem_keys_iff, same k listed, ← mem_keys_iff] at mem
    exact .inl mem

omit pair in
theorem SameMaterial.valid {d d' : Doc} (same : SameMaterial d d')
    (ordinary : docType? d ≠ some .repoUsagePattern) :
    validateForWrite py d = .ok () ↔ validateForWrite py d' = .ok () := by
  constructor
  · exact validateForWrite_bare (fun f other => same.get? other) ordinary same.keys
  · exact validateForWrite_bare (fun f other => (same.get? other).symm) (same.docType ▸ ordinary) same.symm.keys

omit pair in
theorem SameMaterial.stored {d d' : Doc} (same : SameMaterial d d') (docId rev hash : String) :
    revless (Store.stamp d docId rev hash) =
      revless (d'.update [(.idempotencyKey, .str docId), (.payloadHash, .str hash)]) := by
  refine Dict.ext fun k => ?_
  simp only [revless, Store.stamp, Doc.update_cons, Doc.update_nil, Doc.without, Doc.set, Dict.get?_filter,
    Dict.get?_insert]
  by_cases listed : k ∈ bookkeepingFields.map Key.field
  · simp only [bookkeepingFields, List.map_cons, List.map_nil, List.mem_cons, List.not_mem_nil, or_false] at listed
    rcases listed with rfl | rfl | rfl <;> simp
  · have others := listed
    simp only [bookkeepingFields, List.map_cons, List.map_nil, List.mem_cons, List.not_mem_nil, or_false,
      not_or] at others
    simp [others, same k listed]

omit pair in
variable (digest) in
/-- The database takes a patched document that still has its revision. -/
theorem putDocument_patched {p : Patch} {current' written stored : Doc} (found' : c.get p.docId = some current')
    (same : SameMaterial written stored) (sameId : written.text .id = p.docId)
    (kept : stored.text .rev = current'.text .rev) (hash : String) :
    ∃ next, c.putDocument digest
        (stored.update [(.idempotencyKey, .str p.docId), (.payloadHash, .str hash)]) =
      (some next, c.accept digest
        (stored.update [(.idempotencyKey, .str p.docId), (.payloadHash, .str hash)])) := by
  refine ⟨_, if_pos ?_⟩
  have bodyId : (stored.update [(.idempotencyKey, .str p.docId), (.payloadHash, .str hash)]).text .id =
      p.docId := by
    rw [← sameId, ← same.text (by decide : Field.id ∉ bookkeepingFields)]
    exact Doc.text_congr (by simp [Doc.get?_set])
  rw [bodyId, Couch.currentRev, found', Option.map_some, Option.getD_some, ← kept]
  exact Doc.text_congr (by simp [Doc.get?_set])

/-- The write of a patched document, once both stores allow it. -/
theorem patch_write_alike {p : Patch} {current current' written stored : Doc}
    (found : s.get p.docId = some current) (found' : c.get p.docId = some current')
    (same : SameMaterial written stored) (ordinary : docType? written ≠ some .repoUsagePattern)
    (sameId : written.text .id = p.docId) (kept : stored.text .rev = current'.text .rev) :
    Alike (Stores digest s c p.docId)
      (validateForWrite py written >>= fun _ =>
        payloadHash py written >>= fun hash =>
        nextRevNumber py (current.text .rev) >>= fun number =>
        (.ok (⟨p.docId, revText number hash, .conflictResolved⟩,
          s.assign (Store.stamp written p.docId (revText number hash) hash)) :
            Except PyError (StoredRevision × Store)))
      (validateForWrite py stored >>= fun _ =>
        payloadHash py stored >>= fun hash =>
        match c.putDocument digest (stored.update
            [(.idempotencyKey, .str p.docId), (.payloadHash, .str hash)]) with
        | (some rev, c') => .ok (⟨p.docId, rev, .conflictResolved⟩, c')
        | (none, _) => .error (.conflict "conditional temporal patch revision changed")) := by
  refine .guard (same.valid ordinary) fun _ => ?_
  rw [same.payloadHash]
  refine .bind_same fun hash _ => ?_
  obtain ⟨n, read, next⟩ := pair.nextRevNumber py found
  obtain ⟨rev, sent⟩ := putDocument_patched digest found' same sameId kept hash
  rw [read, ok_bind]
  simp only [sent]
  refine .wrote _ ⟨?_, ?_, same.stored _ _ _, n, ⟨hash, ?_⟩, next⟩
  · exact (Doc.text_congr (Store.get?_stamp _ _ _ _ (by decide))).trans sameId
  · rw [← sameId, ← same.text (by decide : Field.id ∉ bookkeepingFields)]
    exact Doc.text_congr (by simp [Doc.get?_set])
  · exact Doc.text_of_str (by simp [Store.stamp, Doc.get?_set])

omit pair in
/-- Only the fields a patch leaves alone can keep a payload from being hashed. -/
theorem payloadHash_of_updated {p : Patch} {current : Doc} {hash : String}
    (hashed : payloadHash py (p.updated current) = .ok hash) : ∃ hash', payloadHash py current = .ok hash' := by
  have kept (f : Field) (other : f ∉ patchFields) : intField py (p.updated current) f = intField py current f := by
    simp only [intField, Doc.value?_congr (updated_get? other)]
  have typed : docType? (p.updated current) = docType? current := docType?_congr (updated_get? (by decide))
  unfold payloadHash at hashed ⊢
  rw [typed] at hashed
  split
  · exact ⟨_, rfl⟩
  · exact ⟨_, rfl⟩
  · rename_i chunk
    rw [chunk] at hashed
    simp only [kept .turnStartIndex (by decide), kept .turnEndIndex (by decide), kept .partIndex (by decide),
      kept .partCount (by decide), kept .charStart (by decide), kept .charEnd (by decide), bind_eq_ok] at hashed ⊢
    obtain ⟨turnStart, first, turnEnd, second, partIndex, third, partCount, fourth, charStart, fifth, charEnd, sixth,
      -⟩ := hashed
    exact ⟨_, turnStart, first, turnEnd, second, partIndex, third, partCount, fourth, charStart, fifth, charEnd,
      sixth, rfl⟩
  · split <;> exact ⟨_, rfl⟩

omit pair in
theorem classify_changed {docId hash : String} {d : Doc} {stored : String} (hashed : payloadHash py d = .ok stored)
    (differ : stored ≠ hash) (named : docId ≠ "") (nonblank : hash ≠ "") :
    ∃ decision, classifyDocumentIdempotency py (some d) docId hash = .ok decision ∧ decision ≠ .duplicate := by
  have held : (d.set .payloadHash (.str stored)).text .payloadHash = stored :=
    Doc.text_of_str (by simp [Doc.get?_set])
  simp only [classifyDocumentIdempotency, hashed, ok_bind, classifyIdempotency, refuseIf, named, nonblank, if_false,
    held, differ]
  split
  · rename_i preserved kept
    refine ⟨preserved, rfl, ?_⟩
    rintro rfl
    rcases Option.or_eq_some_iff.mp kept with first | ⟨-, second⟩
    · unfold terminalPreservedOutcome? at first
      split at first
      · cases first
      · split at first <;> cases first
    · unfold terminalPreservedOutcome? at second
      split at second
      · cases second
      · split at second <;> cases second
  · split
    · exact ⟨_, rfl, by decide⟩
    · exact ⟨_, rfl, by decide⟩

omit pair in
theorem isImmutable_updated (p : Patch) (current : Doc) :
    isImmutableSourceDocument (p.updated current) = isImmutableSourceDocument current := by
  have typed : docType? (p.updated current) = docType? current := docType?_congr (updated_get? (by decide))
  have marked (f : Field) (other : f ∉ patchFields) : (p.updated current).has f = current.has f := by
    simp only [Doc.has, updated_get? other]
  simp only [isImmutableSourceDocument, hasImmutableDocType, isRevisionScopedSourceCopy, typed,
    marked .sourceSnapshotSchemaVersion (by decide), marked .currentSourceScope (by decide)]

omit pair in
/-- The in-memory put of a patched mutable document. -/
theorem put_updated {p : Patch} {current : Doc} (found : s.get p.docId = some current) (mutable : ¬ isImmutableSourceDocument current)
    (changes : payloadHash py (p.updated current) ≠ payloadHash py current)
    (allowed : requireActiveSourceRevisionAllowsWrite py s p.docId current false = .ok ()) :
    put py (p.updated current) s =
      validateForWrite py (p.updated current) >>= fun _ =>
        payloadHash py (p.updated current) >>= fun hash =>
        nextRevNumber py (current.text .rev) >>= fun number =>
        .ok (⟨p.docId, revText number hash, .conflictResolved⟩,
          s.assign (Store.stamp (p.updated current) p.docId (revText number hash) hash)) := by
  have sameId : (p.updated current).text .id = p.docId :=
    (Doc.text_congr (updated_get? (by decide))).trans (Store.get_keyed found)
  have mutable' : isImmutableSourceDocument (p.updated current) = false := by
    rw [isImmutable_updated]
    simpa using mutable
  cases valid : validateForWrite py (p.updated current) with
  | error e => simp [put, valid]
  | ok u =>
      cases hashed : payloadHash py (p.updated current) with
      | error e => simp [put, valid, hashed, mutable']
      | ok hash =>
          obtain ⟨stored, storedHash⟩ := payloadHash_of_updated hashed
          have differ : stored ≠ hash := fun same => changes (by rw [hashed, storedHash, same])
          have named : p.docId ≠ "" := sameId ▸ text_id_ne_empty valid
          obtain ⟨decision, classified, fresh⟩ := classify_changed storedHash differ named
            (payloadHash_ne_empty hashed)
          simp [put, valid, hashed, mutable', sameId, found, classified, fresh, mutable, refuseIf, allowed]

theorem check_alike {p : Patch} {current current' : Doc} {rev' : String} (found : s.get p.docId = some current)
    (found' : c.get p.docId = some current') (same : revless current' = revless current)
    (expected : current.text .rev = p.expectedRev ↔ current'.text .rev = rev') :
    p.check current = .ok () ↔ Patch.check { p with expectedRev := rev' } current' = .ok () := by
  have held := pair.rev_ne_empty found
  have held' := pair.couch_rev_ne_empty found'
  have known : ¬ (p.expectedRev = "" ∨ current.text .rev ≠ p.expectedRev) ↔ current.text .rev = p.expectedRev := by
    constructor
    · intro passes
      by_contra other
      exact passes (.inr other)
    · rintro same (blank | other)
      · exact held (same.trans blank)
      · exact other same
  have known' : ¬ (rev' = "" ∨ current'.text .rev ≠ rev') ↔ current'.text .rev = rev' := by
    constructor
    · intro passes
      by_contra other
      exact passes (.inr other)
    · rintro same (blank | other)
      · exact held' (same.trans blank)
      · exact other same
  simp only [Patch.check, bind_eq_ok, refuseIf_eq_ok, same_text same (by decide : Field.contentHash ≠ .rev),
    same_text same (by decide : Field.sourceLocatorHash ≠ .rev), known, known', expected]

omit pair in
/-- A replacement that keeps the locator is the one that is stored. -/
theorem patched_same {p : Patch} {current current' : Doc} (same : revless current' = revless current)
    (like : p.checkReplacement = .ok ()) (keeps : p.keepsLocator current) :
    SameMaterial (p.updated current) (Http.patched p current') := by
  have timed := patched_timed (p := p) same
  unfold Http.patched
  cases replacement : p.replacementSourceLocatorHash with
  | none => exact timed
  | some locator =>
      unfold Patch.checkReplacement at like
      rw [replacement] at like
      have stored : current.get? .sourceLocatorHash = some (.str locator) := by
        refine (text_eq_hash_iff (assertHashLike_eq_ok.mp like)).mp ?_
        rcases keeps with missing | held
        · rw [missing] at replacement
          cases replacement
        · rw [replacement] at held
          exact (Option.some.inj held).symm
      intro k other
      show Dict.get? (Dict.insert _ _ _) k = _
      rw [Dict.get?_insert]
      split
      · rename_i here
        rw [here]
        have kept : (p.updated current).get? .sourceLocatorHash = current.get? .sourceLocatorHash := by
          simp [Patch.updated, bookkeepingFields, Doc.get?_set, Doc.get?_without]
        exact (kept.trans stored).symm
      · exact timed k other

omit pair in
theorem write_relocated {p : Patch} {current : Doc} {locator : String}
    (replacement : p.replacementSourceLocatorHash = some locator)
    (moved : current.text .sourceLocatorHash ≠ locator) : p.write py current s =
      validateForWrite py ((p.updated current).set .sourceLocatorHash (.str locator)) >>= fun _ =>
        payloadHash py ((p.updated current).set .sourceLocatorHash (.str locator)) >>= fun hash =>
        nextRevNumber py (current.text .rev) >>= fun number =>
        .ok (⟨p.docId, revText number hash, .conflictResolved⟩, s.assign (Store.stamp
          ((p.updated current).set .sourceLocatorHash (.str locator)) p.docId (revText number hash) hash)) := by
  unfold Patch.write
  rw [replacement]
  exact if_neg moved

theorem patch_alike {p : Patch} {rev' : String} (even : p.Even py s)
    (expected : ((s.get p.docId).map (·.text .rev)).getD "" = p.expectedRev ↔
      ((c.get p.docId).map (·.text .rev)).getD "" = rev') :
    Alike (Stores digest s c p.docId) (patchObservedTimeIfContentHash py p s)
      (Http.patchObservedTimeIfContentHash py digest { p with expectedRev := rev' } c) := by
  unfold patchObservedTimeIfContentHash Http.patchObservedTimeIfContentHash
  refine .bind_same fun _ like => ?_
  cases found : s.get p.docId with
  | none =>
      simp only [pair.agree.missing found]
      exact .raise _ _
  | some current =>
      obtain ⟨current', found', same⟩ := pair.agree.found found
      simp only [found', found, Option.map_some, Option.getD_some] at expected ⊢
      refine .guard (check_alike pair found found' same expected) fun checked => ?_
      have keeps : Patch.keepsLocator { p with expectedRev := rev' } current' ↔ p.keepsLocator current := by
        simp only [Patch.keepsLocator, same_text same (by decide : Field.sourceLocatorHash ≠ .rev)]
      simp only [same_text same (by decide : Field.observedAtStart ≠ .rev),
        same_text same (by decide : Field.observedAtEnd ≠ .rev), keeps]
      split
      · exact .kept _
      · rename_i changes
        refine .guard (pair.allowsWrite same false) fun allowed => ?_
        obtain ⟨ordinary, plain⟩ := even current found ⟨like, checked, changes, allowed⟩
        simp only [pair.couch_rev_ne_empty found', refuseIf, if_false, ok_bind]
        have kept : (Http.patched p current').text .rev = current'.text .rev := by
          unfold Http.patched
          split <;> exact Doc.text_congr (by simp [Doc.get?_set])
        have updatedId : (p.updated current).text .id = p.docId :=
          (Doc.text_congr (updated_get? (by decide))).trans (Store.get_keyed found)
        have updatedType : docType? (p.updated current) ≠ some .repoUsagePattern :=
          (docType?_congr (updated_get? (by decide))).trans_ne ordinary
        by_cases keeping : p.keepsLocator current
        · obtain ⟨mutable, differ⟩ := plain keeping
          have written : p.write py current s = put py (p.updated current) s := by
            unfold Patch.write
            rcases keeping with missing | held
            · rw [missing]
            · rw [held]
              exact if_pos rfl
          rw [written, put_updated found mutable differ allowed]
          exact patch_write_alike pair found found' (patched_same same like keeping) updatedType updatedId kept
        · obtain ⟨locator, replacement⟩ : ∃ locator, p.replacementSourceLocatorHash = some locator :=
            Option.ne_none_iff_exists'.mp fun missing => keeping (.inl missing)
          have moved : current.text .sourceLocatorHash ≠ locator := fun held =>
            keeping (.inr (replacement.trans (congrArg some held.symm)))
          have written : SameMaterial ((p.updated current).set .sourceLocatorHash (.str locator))
              (Http.patched p current') := by
            unfold Http.patched
            rw [replacement]
            exact (patched_timed (p := p) same).set _ _
          rw [write_relocated replacement moved]
          refine patch_write_alike pair found found' written ?_ ?_ kept
          · exact (docType?_congr (by simp [Doc.get?_set])).trans_ne updatedType
          · exact (Doc.text_congr (by simp [Doc.get?_set])).trans updatedId

omit pair in
theorem putIfAbsent_found {d existing : Doc} {r : StoredRevision} {s' : Store}
    (found : s.get (d.text .id) = some existing) (done : putIfAbsent py d s = .ok (r, s')) :
    r.outcome = .duplicate := by
  simp only [putIfAbsent, bind_eq_ok, found] at done
  obtain ⟨_, _, hash, _, decision, _, done⟩ := done
  split at done
  · cases done
    rfl
  · obtain ⟨_, _, done⟩ := bind_eq_ok.mp done
    cases done

/-- A patch that keeps the locator of an immutable document and changes its times: the in-memory
    store never writes it, the database does. -/
theorem patch_apart {p : Patch} {current : Doc} {rev' hash : String} (found : s.get p.docId = some current)
    (immutable : isImmutableSourceDocument current) (ordinary : docType? current ≠ some .repoUsagePattern)
    (reaches : p.Reaches py s current) (keeping : p.keepsLocator current)
    (valid : validateForWrite py (p.updated current) = .ok ())
    (hashed : payloadHash py (p.updated current) = .ok hash)
    (expected : current.text .rev = p.expectedRev ↔ ((c.get p.docId).map (·.text .rev)).getD "" = rev') :
    (∀ r s', patchObservedTimeIfContentHash py p s = .ok (r, s') → r.outcome = .duplicate) ∧
      ∃ rev c', Http.patchObservedTimeIfContentHash py digest { p with expectedRev := rev' } c =
        .ok (⟨p.docId, rev, .conflictResolved⟩, c') := by
  obtain ⟨like, checked, changes, allowed⟩ := reaches
  obtain ⟨current', found', same⟩ := pair.agree.found found
  simp only [found', Option.map_some, Option.getD_some] at expected
  have updatedId : (p.updated current).text .id = p.docId :=
    (Doc.text_congr (updated_get? (by decide))).trans (Store.get_keyed found)
  constructor
  · intro r s' done
    have written : p.write py current s = put py (p.updated current) s := by
      unfold Patch.write
      rcases keeping with missing | held
      · rw [missing]
      · rw [held]
        exact if_pos rfl
    have still : isImmutableSourceDocument (p.updated current) := by
      rw [isImmutable_updated]
      exact immutable
    simp only [patchObservedTimeIfContentHash, like, found, checked, if_neg changes, allowed, ok_bind, written,
      put_immutable valid still] at done
    exact putIfAbsent_found (updatedId ▸ found) done
  · have kept : (Http.patched p current').text .rev = current'.text .rev := by
      unfold Http.patched
      split <;> exact Doc.text_congr (by simp [Doc.get?_set])
    have checked' := (check_alike pair found found' same expected).mp checked
    have keeps' : Patch.keepsLocator { p with expectedRev := rev' } current' ↔ p.keepsLocator current := by
      simp only [Patch.keepsLocator, same_text same (by decide : Field.sourceLocatorHash ≠ .rev)]
    have changes' : ¬ (current'.text .observedAtStart = p.observedAtStart ∧
        current'.text .observedAtEnd = p.observedAtEnd ∧
        Patch.keepsLocator { p with expectedRev := rev' } current') := by
      rw [same_text same (by decide), same_text same (by decide), keeps']
      exact changes
    have like' : Patch.checkReplacement { p with expectedRev := rev' } = .ok () := like
    have material := patched_same same like keeping
    have ordinary' : docType? (p.updated current) ≠ some .repoUsagePattern :=
      (docType?_congr (updated_get? (by decide))).trans_ne ordinary
    have valid' := (material.valid ordinary').mp valid
    have hashed' := material.payloadHash.trans hashed
    obtain ⟨next, sent⟩ := putDocument_patched digest found' material updatedId kept hash
    refine ⟨next, c.accept digest ((Http.patched p current').update
      [(.idempotencyKey, .str p.docId), (.payloadHash, .str hash)]), ?_⟩
    have body' : Http.patched { p with expectedRev := rev' } current' = Http.patched p current' := rfl
    simp only [Http.patchObservedTimeIfContentHash, like', found', checked', if_neg changes', body', valid',
      hashed', (pair.allowsWrite same false).mp allowed, pair.couch_rev_ne_empty found', refuseIf, if_false,
      ok_bind, sent]
    rfl

end Operations

/-! ## Runs -/

section Runs

variable {py : Platform} {digest : Doc → String}

/-- The clients remember the same reads, each with its own store's revision. -/
structure InStep (digest : Doc → String) (mem : Client Store) (http : Client Couch) : Prop where
  pair : Pair digest mem.store http.store
  deleted : ∀ docId, http.deletedSince docId = mem.deletedSince docId
  expects : ∀ docId, Expects digest mem.store http.store docId (mem.deletedSince docId) (mem.expected docId)
    (http.expected docId)

variable {mem : Client Store} {http : Client Couch}

theorem expected_set {σ : Type} (store : σ) (seen : Table String Seen) (docId docId' : String) (entry : Seen) :
    Client.expected ⟨store, seen.set docId entry⟩ docId' =
      if docId' = docId then entry.rev else Client.expected ⟨store, seen⟩ docId' := by
  simp only [Client.expected, Table.get?_set]
  split <;> rfl

theorem deletedSince_set {σ : Type} (store : σ) (seen : Table String Seen) (docId docId' : String) (entry : Seen) :
    Client.deletedSince ⟨store, seen.set docId entry⟩ docId' =
      if docId' = docId then entry.deleted else Client.deletedSince ⟨store, seen⟩ docId' := by
  simp only [Client.deletedSince, Table.get?_set]
  split <;> rfl

theorem InStep.read (inStep : InStep digest mem http) (docId : String) :
    ((mem.act (memoryAccess py) (.read docId)).1 = (http.act (httpAccess py digest) (.read docId)).1) ∧
      InStep digest (mem.act (memoryAccess py) (.read docId)).2 (http.act (httpAccess py digest) (.read docId)).2 := by
  refine ⟨congrArg Observed.found (inStep.pair.agree docId), ⟨inStep.pair, fun docId' => ?_, fun docId' => ?_⟩⟩
  · simp only [Client.act, deletedSince_set]
    split
    · rfl
    · exact inStep.deleted docId'
  · simp only [Client.act, deletedSince_set, expected_set]
    split
    · rename_i here
      rw [here]
      cases found : mem.store.get docId with
      | none =>
          have missing := inStep.pair.agree.missing found
          simp only [memoryAccess, httpAccess, found, missing, Option.map_none, Option.getD_none]
          exact .nothing false
      | some d =>
          obtain ⟨d', found', -⟩ := inStep.pair.agree.found found
          simp only [memoryAccess, httpAccess, found, found', Option.map_some, Option.getD_some]
          exact .current found found'
    · exact inStep.expects docId'

/-- An operation elsewhere, or one that wrote, leaves every expectation its meaning. -/
theorem InStep.stays (inStep : InStep digest mem http) {docId : String} {s' : Store} {c' : Couch}
    (moves : Moves digest mem.store http.store docId false s' c') :
    InStep digest ⟨s', mem.seen⟩ ⟨c', http.seen⟩ := by
  refine ⟨moves.pair inStep.pair, inStep.deleted, fun docId' => ?_⟩
  have before := inStep.expects docId'
  cases moves with
  | kept => exact before
  | wrote both =>
      by_cases here : docId' = docId
      · subst here
        exact before.wrote inStep.pair both
      · refine before.frame ?_ ?_ ?_
        · rw [Store.get_assign, both.sameId, if_neg here]
        · rw [accept_get, both.sameId', if_neg here]
        · rw [accept_generation, both.sameId', if_neg here]

theorem InStep.removed (inStep : InStep digest mem http) {docId : String} {s' : Store} {c' : Couch}
    (moves : Moves digest mem.store http.store docId true s' c') :
    InStep digest ⟨s', mem.seen.set docId ⟨mem.expected docId, true⟩⟩
      ⟨c', http.seen.set docId ⟨http.expected docId, true⟩⟩ := by
  refine ⟨moves.pair inStep.pair, fun docId' => ?_, fun docId' => ?_⟩
  · rw [deletedSince_set, deletedSince_set]
    split
    · rfl
    · exact inStep.deleted docId'
  · have before := inStep.expects docId'
    rw [deletedSince_set, expected_set, expected_set]
    cases moves with
    | removed found =>
        split
        · rename_i here
          subst here
          exact before.removed inStep.pair
        · rename_i elsewhere
          refine before.frame ?_ ?_ ?_
          · rw [Store.get_remove, if_neg elsewhere]
          · rw [Couch.get, Store.get_remove, if_neg elsewhere]
            rfl
          · simp [Couch.generation, Table.get?_set, elsewhere]

/-- The operations as a client issues them, from clients in step. -/
theorem InStep.perform (inStep : InStep digest mem http) {op : Op} (even : EvenCall py mem (.perform op)) :
    Alike (fun a b => a.1.observed = b.1.observed ∧ InStep digest ⟨a.2, mem.remember op a.1⟩ ⟨b.2, http.remember op b.1⟩)
      (Op.perform py (op.expecting (mem.expected op.target)) mem.store)
      (Http.perform py digest (op.expecting (http.expected op.target)) http.store) := by
  have pair := inStep.pair
  have lift {docId : String} {x : Except PyError (StoredRevision × Store)} {y : Except PyError (StoredRevision × Couch)}
      (alike : Alike (Stores digest mem.store http.store docId) x y) :
      Alike (fun a b => a.1.observed = b.1.observed ∧
          InStep digest ⟨a.2, mem.remember op a.1⟩ ⟨b.2, http.remember op b.1⟩)
        (x.map (Prod.map Reply.stored id)) (y.map (Prod.map Reply.stored id)) := by
    refine alike.map fun a b stores => ⟨?_, inStep.stays stores.2.2⟩
    simp only [Prod.map_fst, Reply.observed, stores.1, stores.2.1]
  have expected (docId : String) (fresh : ¬ Reissued mem docId) :=
    (inStep.expects docId).same py pair fresh
  cases op with
  | put d => exact lift (put_alike pair d)
  | putIfAbsent d => exact lift (putIfAbsent_alike pair d)
  | putIfRevision d rev => exact lift (putIfRevision_alike pair d (expected _ even))
  | merge incoming attempts authoritative => exact lift (merge_alike pair even attempts)
  | patch p =>
      exact lift (patch_alike (p := { p with expectedRev := mem.expected p.docId }) pair even.2 (expected _ even.1))
  | delete docId =>
      refine (delete_alike pair docId).map fun a b ⟨same, moves⟩ => ?_
      obtain ⟨existed, s'⟩ := a
      obtain ⟨existed', c'⟩ := b
      simp only at same moves
      subst same
      refine ⟨rfl, ?_⟩
      cases existed with
      | false => exact inStep.stays moves
      | true => exact inStep.removed moves

theorem InStep.act (inStep : InStep digest mem http) {call : ClientCall} (even : EvenCall py mem call) :
    (mem.act (memoryAccess py) call).1 = (http.act (httpAccess py digest) call).1 ∧
      InStep digest (mem.act (memoryAccess py) call).2 (http.act (httpAccess py digest) call).2 := by
  cases call with
  | read docId => exact inStep.read docId
  | perform op =>
      have alike := inStep.perform even
      simp only [Client.act, memoryAccess, httpAccess]
      cases performed : Op.perform py (op.expecting (mem.expected op.target)) mem.store with
      | error e =>
          rw [performed] at alike
          cases performed' : Http.perform py digest (op.expecting (http.expected op.target)) http.store with
          | error e' => exact ⟨rfl, inStep⟩
          | ok b =>
              rw [performed'] at alike
              exact alike.elim
      | ok a =>
          rw [performed] at alike
          cases performed' : Http.perform py digest (op.expecting (http.expected op.target)) http.store with
          | error e' =>
              rw [performed'] at alike
              exact alike.elim
          | ok b =>
              rw [performed'] at alike
              exact alike

/-- A client of either store, which has read nothing and found nothing. -/
def freshMemory : Client Store := ⟨.empty, ∅⟩

def freshHttp : Client Couch := ⟨.empty, ∅⟩

theorem inStep_fresh : InStep digest freshMemory freshHttp where
  pair := ⟨fun _ => rfl, by simp [freshMemory, Store.empty, Store.get],
    by simp [freshHttp, Couch.empty, Couch.get, Store.empty, Store.get]⟩
  deleted _ := rfl
  expects _ := .nothing _

theorem inStep_run {calls : List ClientCall}
    (even : Along (fun client call => (client.act (memoryAccess py) call).2) (EvenCall py) freshMemory calls) :
    answers (fun client call => client.act (memoryAccess py) call) freshMemory calls =
        answers (fun client call => client.act (httpAccess py digest) call) freshHttp calls ∧
      InStep digest (run (fun client call => (Client.act (memoryAccess py) client call).2) freshMemory calls)
        (run (fun client call => (Client.act (httpAccess py digest) client call).2) freshHttp calls) :=
  answers_alike (fun client call => client.act (memoryAccess py) call)
    (fun client call => client.act (httpAccess py digest) call) (InStep digest) (EvenCall py)
    (fun _ _ _ inStep even => inStep.act even) inStep_fresh even

/-- The two stores answer every run of even calls alike, and end with the same documents but for
    their revisions. -/
theorem stores_in_parity (calls : List ClientCall)
    (even : Along (fun client call => (client.act (memoryAccess py) call).2) (EvenCall py) freshMemory calls) :
    answers (fun client call => client.act (memoryAccess py) call) freshMemory calls =
        answers (fun client call => client.act (httpAccess py digest) call) freshHttp calls ∧
      ∀ docId, ((run (fun client call => (Client.act (memoryAccess py) client call).2) freshMemory calls).store.get
          docId).map revless =
        ((run (fun client call => (Client.act (httpAccess py digest) client call).2) freshHttp calls).store.get
          docId).map revless := by
  obtain ⟨same, inStep⟩ := inStep_run even
  exact ⟨same, inStep.pair.agree⟩

/-! ### A copy that only one store patches -/

variable (py) in
/-- Store a revision-scoped copy and read it back. -/
def storeCopy : List ClientCall :=
  [.perform (.putIfAbsent (bundleCopy py)), .read "tool_evidence_bundle:snapshot:first"]

theorem storeCopy_even (last : ClientCall)
    (even : EvenCall py (run (fun client call => (Client.act (memoryAccess py) client call).2) freshMemory
      (storeCopy py)) last) :
    Along (fun client call => (client.act (memoryAccess py) call).2) (EvenCall py) freshMemory
      (storeCopy py ++ [last]) :=
  ⟨trivial, trivial, even, trivial⟩

/-- The stores agree that the copy, once stored, cannot be deleted. -/
theorem stores_in_parity_delete :
    answers (fun client call => client.act (memoryAccess referencePlatform) call) freshMemory
        (storeCopy referencePlatform ++ [.perform (.delete "tool_evidence_bundle:snapshot:first")]) =
      answers (fun client call => client.act (httpAccess referencePlatform (fun _ => "")) call) freshHttp
        (storeCopy referencePlatform ++ [.perform (.delete "tool_evidence_bundle:snapshot:first")]) :=
  (stores_in_parity _ (storeCopy_even (.perform (.delete "tool_evidence_bundle:snapshot:first")) trivial)).1

variable (py) in
/-- Give the copy the times of its session. -/
def bundleWindow : Patch where
  docId := "tool_evidence_bundle:snapshot:first"
  expectedContentHash := sha256Hash py (.text "hello")
  expectedRev := ""
  observedAtStart := "2026-07-05T00:00:00Z"
  observedAtEnd := "2026-07-06T00:00:00Z"
  expectedSourceLocatorHash := none
  replacementSourceLocatorHash := none

theorem storeCopy_memory : run (fun client call => (Client.act (memoryAccess py) client call).2) freshMemory
    (storeCopy py) = ⟨bundleCopyStore py, (∅ : Table String Seen).set "tool_evidence_bundle:snapshot:first"
      ⟨revText 1 (bundleCopyHash py), false⟩⟩ := by
  have stored : putIfAbsent py (bundleCopy py) .empty = _ :=
    putIfAbsent_fresh bundleCopy_valid bundleCopy_hashed rfl (allowsWrite_of_unpinned rfl)
  rw [bundleCopy_id, ← storedBundleCopy, ← bundleCopyStore] at stored
  have rev : (storedBundleCopy py).text .rev = revText 1 (bundleCopyHash py) :=
    Doc.text_of_str (by simp [storedBundleCopy, Store.stamp, Doc.get?_set])
  simp [storeCopy, run, Client.act, memoryAccess, Op.perform, Op.expecting, freshMemory, stored, Except.map,
    Client.remember, bundleCopyStore_get, rev]

variable (py) in
/-- The patch as the client of the in-memory store sends it. -/
def sentWindow : Patch := { bundleWindow py with expectedRev := revText 1 (bundleCopyHash py) }

theorem bundleWindow_reaches : (sentWindow py).Reaches py (bundleCopyStore py) (storedBundleCopy py) := by
  have content : (storedBundleCopy py).text .contentHash = sha256Hash py (.text "hello") :=
    Doc.text_of_str (by rw [storedBundleCopy_get? (by decide)]; simp [bundleCopy_get?])
  have rev : (storedBundleCopy py).text .rev = revText 1 (bundleCopyHash py) :=
    Doc.text_of_str (by simp [storedBundleCopy, Store.stamp, Doc.get?_set])
  have untimed : (storedBundleCopy py).text .observedAtStart = "" :=
    text_of_missing (by rw [storedBundleCopy_get? (by decide)]; simp [bundleCopy_get?])
  refine ⟨rfl, ?_, ?_, allowsWrite_of_unpinned (bundleCopyStore_unpinned _)⟩
  · have nonblank : revText 1 (bundleCopyHash py) ≠ "" := revText_ne_empty 1 _
    simp [Patch.check, sentWindow, bundleWindow, content, rev, refuseIf, nonblank]
  · simp [sentWindow, bundleWindow, untimed]

theorem timedBundleCopy_get? {f : Field} (other : f ∉ patchFields) :
    ((sentWindow py).updated (storedBundleCopy py)).get? f = (bundleCopy py).get? f := by
  have kept : f ∉ bookkeepingFields := fun mem => other (by revert mem; cases f <;> decide)
  rw [updated_get? other, storedBundleCopy_get? kept]

theorem timedBundleCopy_valid :
    validateForWrite py ((sentWindow py).updated (storedBundleCopy py)) = .ok () := by
  have plain : PlainKeys ((sentWindow py).updated (storedBundleCopy py)) := by
    refine PlainKeys.update (PlainKeys.without ?_ _) ?_
    · exact bundleCopy_plainKeys.update (by
        simp only [List.map_cons, List.map_nil]
        decide +kernel)
    · simp only [List.map_cons, List.map_nil]
      decide +kernel
  refine validateForWrite_ordinary (t := .toolEvidenceBundle) ?_ (by decide) (by decide) ?_ plain ?_
  · rw [docType?_congr (timedBundleCopy_get? (by decide)), bundleCopy_docType]
  · rw [Doc.text_congr (timedBundleCopy_get? (by decide)), bundleCopy_id]
    decide
  · rw [timedBundleCopy_get? (by decide)]
    simp [bundleCopy_get?]

theorem timedBundleCopy_hashed : ∃ hash,
    payloadHash py ((sentWindow py).updated (storedBundleCopy py)) = .ok hash := by
  rw [payloadHash, docType?_congr (timedBundleCopy_get? (by decide)), bundleCopy_docType]
  exact ⟨_, rfl⟩

/-- The copy is stored and read in both; the patch of its times is then refused by one store and
    written by the other. -/
theorem patch_bundleWindow_apart (py : Platform) (digest : Doc → String) :
    answers (fun client call => client.act (memoryAccess py) call) freshMemory
        (storeCopy py ++ [.perform (.patch (bundleWindow py))]) ≠
      answers (fun client call => client.act (httpAccess py digest) call) freshHttp
        (storeCopy py ++ [.perform (.patch (bundleWindow py))]) := by
  have even : Along (fun client call => (client.act (memoryAccess py) call).2) (EvenCall py) freshMemory
      (storeCopy py) := ⟨trivial, trivial, trivial⟩
  have inStep : InStep digest _ _ := (inStep_run even).2
  rw [storeCopy_memory] at inStep
  rw [answers_append, answers_append, storeCopy_memory]
  intro same
  have lasts := congrArg List.getLast? same
  simp only [List.getLast?_append, List.getLast?_singleton, Option.some_or, Option.some.injEq] at lasts
  generalize run _ freshHttp (storeCopy py) = http at inStep lasts
  have found : (bundleCopyStore py).get (sentWindow py).docId =
      some (storedBundleCopy py) := by
    rw [bundleCopyStore_get]
    simp [sentWindow, bundleWindow]
  have remembered : Client.expected (σ := Store) ⟨bundleCopyStore py,
      (∅ : Table String Seen).set "tool_evidence_bundle:snapshot:first"
        ⟨revText 1 (bundleCopyHash py), false⟩⟩ "tool_evidence_bundle:snapshot:first" =
          revText 1 (bundleCopyHash py) := by
    simp [Client.expected]
  have expected := (inStep.expects "tool_evidence_bundle:snapshot:first").same py inStep.pair
    (by simp [Client.deletedSince])
  rw [bundleCopyStore_get, if_pos rfl, Option.map_some, Option.getD_some, remembered] at expected
  obtain ⟨hash, hashed⟩ : ∃ hash, payloadHash py _ = .ok hash := timedBundleCopy_hashed
  have ordinary : docType? (storedBundleCopy py) ≠ some .repoUsagePattern := by
    rw [docType?_congr (storedBundleCopy_get? (by decide)), bundleCopy_docType]
    decide
  obtain ⟨refused, next, c', written⟩ := patch_apart inStep.pair found storedBundleCopy_immutable ordinary
    bundleWindow_reaches (.inl rfl) timedBundleCopy_valid hashed expected
  have sent : (httpAccess py digest).perform
      (Op.expecting (http.expected (bundleWindow py).docId) (.patch (bundleWindow py)))
      http.store = .ok (.stored ⟨"tool_evidence_bundle:snapshot:first", next, .conflictResolved⟩, c') :=
    congrArg (Except.map (Prod.map Reply.stored id)) written
  simp only [Client.act_perform, Op.target, sent, Reply.observed] at lasts
  rw [show (bundleWindow py).docId = "tool_evidence_bundle:snapshot:first" from rfl, remembered] at lasts
  simp only [memoryAccess, Op.expecting, Op.perform] at lasts
  cases done : patchObservedTimeIfContentHash py (sentWindow py)
      (bundleCopyStore py) with
  | error e =>
      rw [← sentWindow, done] at lasts
      cases lasts
  | ok result =>
      have outcome := refused _ _ done
      rw [← sentWindow, done] at lasts
      simp only [Except.map, Prod.map, Observed.stored.injEq] at lasts
      rw [outcome] at lasts
      cases lasts.2

theorem patch_answered_apart :
    answers (fun client call => client.act (memoryAccess referencePlatform) call) freshMemory
        (storeCopy referencePlatform ++ [.perform (.patch (bundleWindow referencePlatform))]) ≠
      answers (fun client call => client.act (httpAccess referencePlatform (fun _ => "")) call) freshHttp
        (storeCopy referencePlatform ++ [.perform (.patch (bundleWindow referencePlatform))]) :=
  patch_bundleWindow_apart referencePlatform (fun _ => "")

end Runs

end Neurons.Source
