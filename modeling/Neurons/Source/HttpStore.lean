import Neurons.Source.SourceStore

/-! # The HTTP source store

`CouchDBHttpSourceStore` (`couchdb_http_store.py`) over an ideal CouchDB: a `GET` answers
with the stored document, a `PUT` or `DELETE` goes through exactly when it names the current
`_rev`, and nothing fails on the way. The server counts the revisions of an id through its
deletions, so a revision it once gave is never given again.

Each operation is written out as the source has it, beside the in-memory one: the two
differ in what they delegate and in the order of their guards.
-/

namespace Neurons.Source

open Neurons.Lib

/-! ## The server -/

/-- A database: its documents, and for each id the number of revisions it has had. -/
structure Couch where
  docs : Store
  generations : Table String ℕ

namespace Couch

def empty : Couch := ⟨.empty, ∅⟩

def get (c : Couch) (docId : String) : Option Doc := c.docs.get docId

def generation (c : Couch) (docId : String) : ℕ := (c.generations.get? docId).getD 0

/-- The `_rev` of the stored document; blank where there is none. -/
def currentRev (c : Couch) (docId : String) : String := ((c.get docId).map (·.text .rev)).getD ""

variable (digest : Doc → String)

/-- The revision text of a write: its generation and the server's digest of the body. -/
def revOf (generation : ℕ) (body : Doc) : String := toString generation ++ "-" ++ digest body

/-- The database with a body stored as its next revision. -/
def accept (body : Doc) (c : Couch) : Couch where
  docs := c.docs.assign (body.set .rev (.str (revOf digest (c.generation (body.text .id) + 1) body)))
  generations := c.generations.set (body.text .id) (c.generation (body.text .id) + 1)

/-- `PUT /db/<id>`: the new revision, or nothing where the server answers 409. -/
def putDocument (body : Doc) (c : Couch) : Option String × Couch :=
  if body.text .rev = c.currentRev (body.text .id) then
    (some (revOf digest (c.generation (body.text .id) + 1) body), c.accept digest body)
  else (none, c)

/-- `DELETE /db/<id>?rev=<rev>`, which leaves a tombstone. -/
def deleteDocument (docId rev : String) (c : Couch) : Bool × Couch :=
  if rev = c.currentRev docId then
    (true, ⟨c.docs.remove docId, c.generations.set docId (c.generation docId + 1)⟩)
  else (false, c)

end Couch

/-! ## The operations -/

namespace Http

variable (py : Platform) (digest : Doc → String)

/-- `CouchDBError`, a `RuntimeError`. -/
def couchdbError (message : String) : PyError := ⟨.databaseError, message⟩

/-- The body of a write: the document with its bookkeeping, and the revision it replaces. -/
def body (d : Doc) (docId incomingHash rev : String) : Doc :=
  let stored := (d.without [.rev]).update
    [(.idempotencyKey, .str docId), (.payloadHash, .str incomingHash)]
  if rev = "" then stored else stored.set .rev (.str rev)

/-- The retry after a 409: the revision is read again. -/
def rewrite (docId : String) (d : Doc) (incomingHash : String) (c : Couch) :
    Except PyError (String × Couch) := do
  let current := c.get docId
  let stored ← match current with
    | some current => do
        let hash ← payloadHash py current
        pure (if hash = incomingHash then some (current.text .rev) else none)
    | none => pure none
  match stored with
  | some rev => return (rev, c)
  | none =>
      match c.putDocument digest (body d docId incomingHash ((current.map (·.text .rev)).getD "")) with
      | (some rev, c') => return (rev, c')
      | (none, _) => .error (couchdbError ("PUT " ++ docId ++ " failed: HTTP 409"))

/-- `_write`. -/
def write (docId : String) (d : Doc) (incomingHash : String) (existing : Option Doc) (c : Couch) :
    Except PyError (String × Couch) :=
  match c.putDocument digest (body d docId incomingHash ((existing.map (·.text .rev)).getD "")) with
  | (some rev, c') => .ok (rev, c')
  | (none, c) => rewrite py digest docId d incomingHash c

def putIfAbsent (d : Doc) (c : Couch) : Except PyError (StoredRevision × Couch) := do
  validateForWrite py d
  let docId := d.text .id
  let incomingHash ← payloadHash py d
  match c.get docId with
  | some existing => do
      let decision ← classifyDocumentIdempotency py (some existing) docId incomingHash
      if decision = .duplicate then
        return (⟨docId, existing.text .rev, .duplicate⟩, c)
      requireActiveSourceRevisionAllowsWrite py c.docs docId existing true
      .error (.conflict "immutable source document already exists")
  | none => do
      requireActiveSourceRevisionAllowsWrite py c.docs docId d true
      match c.putDocument digest (body d docId incomingHash "") with
      | (some rev, c') => return (⟨docId, rev, .accepted⟩, c')
      | (none, c) =>
          match c.get docId with
          | some current => do
              let hash ← payloadHash py current
              if hash = incomingHash then
                return (⟨docId, current.text .rev, .duplicate⟩, c)
              else .error (.conflict "immutable source document already exists")
          | none => .error (.conflict "immutable source document already exists")

def put (d : Doc) (c : Couch) : Except PyError (StoredRevision × Couch) := do
  validateForWrite py d
  if isImmutableSourceDocument d then
    putIfAbsent py digest d c
  else
    let docId := d.text .id
    let incomingHash ← payloadHash py d
    let existing := c.get docId
    let decision ← classifyDocumentIdempotency py existing docId incomingHash
    match existing with
    | some existing => do
        if decision = .duplicate then
          return (⟨docId, existing.text .rev, .duplicate⟩, c)
        refuseIf (isImmutableSourceDocument existing)
          (.conflict "immutable source document already exists")
        requireActiveSourceRevisionAllowsWrite py c.docs docId existing false
        let (rev, c') ← write py digest docId d incomingHash (some existing) c
        return (⟨docId, rev, .conflictResolved⟩, c')
    | none => do
        requireActiveSourceRevisionAllowsWrite py c.docs docId d false
        let (rev, c') ← write py digest docId d incomingHash none c
        return (⟨docId, rev, .accepted⟩, c')

/-- Write exactly one known revision and never retry a stale payload. -/
def putIfRevision (d : Doc) (expectedRev : String) (c : Couch) :
    Except PyError (StoredRevision × Couch) := do
  validateForWrite py d
  refuseIf (hasImmutableDocType d) (.conflict "immutable source document must be additive")
  let docId := d.text .id
  let current := c.get docId
  let currentRev := (current.map (·.text .rev)).getD ""
  refuseIf (currentRev ≠ expectedRev) (.conflict "conditional source revision changed")
  let incomingHash ← payloadHash py d
  let decision ← classifyDocumentIdempotency py current docId incomingHash
  if current.isSome ∧ decision = .duplicate then
    return (⟨docId, currentRev, .duplicate⟩, c)
  let sourceDocument := current.getD d
  if isRevisionScopedSourceCopy d ∨ current.any isRevisionScopedSourceCopy then
    requireActiveSourceRevisionAllowsWrite py c.docs docId sourceDocument false
    .error (.conflict "immutable source document must be additive")
  else
    requireActiveSourceRevisionAllowsWrite py c.docs docId sourceDocument false
    match c.putDocument digest (body d docId incomingHash currentRev) with
    | (some rev, c') =>
        return (⟨docId, rev, if current.isSome then .conflictResolved else .accepted⟩, c')
    | (none, _) => .error (.conflict "conditional source revision changed")

/-- The attempts of a merge: each reads, merges and writes; a 409 starts the next. -/
def mergeAttempts (incoming : Doc) (sourceHashAuthoritative : Bool) :
    ℕ → Couch → Except PyError (StoredRevision × Couch)
  | 0, _ => .error (.conflict "transcript session aggregate conflict retry exhausted")
  | attempts + 1, c => do
      let docId := incoming.text .id
      let current := c.get docId
      let merged ← mergeTranscriptSessionDocuments py current incoming sourceHashAuthoritative
      let incomingHash ← payloadHash py merged
      let decision ← classifyDocumentIdempotency py current docId incomingHash
      if current.isSome ∧ decision = .duplicate then
        return (⟨docId, (current.map (·.text .rev)).getD "", .duplicate⟩, c)
      requireActiveSourceRevisionAllowsWrite py c.docs docId (current.getD merged) false
      refuseIf (current.any (fun existing => existing.text .rev = ""))
        (.conflict "transcript session aggregate revision is missing")
      match c.putDocument digest
          (body merged docId incomingHash ((current.map (·.text .rev)).getD "")) with
      | (some rev, c') =>
          return (⟨docId, rev, if current.isSome then .conflictResolved else .accepted⟩, c')
      | (none, c) => mergeAttempts incoming sourceHashAuthoritative attempts c

def mergeTranscriptSessionAggregate (incoming : Doc) (maxAttempts : Int) (sourceHashAuthoritative : Bool)
    (c : Couch) : Except PyError (StoredRevision × Couch) := do
  refuseIf (maxAttempts < 1) (.storeError "aggregate merge max_attempts must be positive")
  validateForWrite py incoming
  mergeAttempts py digest incoming sourceHashAuthoritative maxAttempts.toNat c

/-- The stored document as a patch rewrites it, its bookkeeping still on it. -/
def patched (p : Patch) (current : Doc) : Doc :=
  let timed := current.update
    [(.observedAtStart, .str p.observedAtStart), (.observedAtEnd, .str p.observedAtEnd)]
  match p.replacementSourceLocatorHash with
  | some locator => timed.set .sourceLocatorHash (.str locator)
  | none => timed

/-- CAS temporal metadata without retrying over a concurrent source write. -/
def patchObservedTimeIfContentHash (p : Patch) (c : Couch) : Except PyError (StoredRevision × Couch) := do
  p.checkReplacement
  match c.get p.docId with
  | none => .error (.conflict "conditional temporal patch source is missing")
  | some current => do
      p.check current
      if current.text .observedAtStart = p.observedAtStart ∧
          current.text .observedAtEnd = p.observedAtEnd ∧ p.keepsLocator current then
        return (⟨p.docId, current.text .rev, .duplicate⟩, c)
      requireActiveSourceRevisionAllowsWrite py c.docs p.docId current false
      refuseIf (current.text .rev = "") (.conflict "conditional temporal patch revision is missing")
      let stored := patched p current
      validateForWrite py stored
      let incomingHash ← payloadHash py stored
      match c.putDocument digest (stored.update
          [(.idempotencyKey, .str p.docId), (.payloadHash, .str incomingHash)]) with
      | (some rev, c') => return (⟨p.docId, rev, .conflictResolved⟩, c')
      | (none, _) => .error (.conflict "conditional temporal patch revision changed")

def delete (docId : String) (c : Couch) : Except PyError (Bool × Couch) :=
  match c.get docId with
  | none => .ok (false, c)
  | some existing =>
      if existing.text .rev = "" then .ok (false, c)
      else do
        requireActiveSourceRevisionAllowsDelete py c.docs existing
        match c.deleteDocument docId (existing.text .rev) with
        | (true, c') => return (true, c')
        | (false, _) => .error (couchdbError ("DELETE " ++ docId ++ " failed: HTTP 409"))

/-- The operation's normal end: its reply and the database it leaves. -/
def perform (op : Op) (c : Couch) : Except PyError (Reply × Couch) :=
  match op with
  | .put d => (put py digest d c).map (Prod.map .stored id)
  | .putIfAbsent d => (putIfAbsent py digest d c).map (Prod.map .stored id)
  | .putIfRevision d rev => (putIfRevision py digest d rev c).map (Prod.map .stored id)
  | .merge d attempts authoritative =>
      (mergeTranscriptSessionAggregate py digest d attempts authoritative c).map (Prod.map .stored id)
  | .patch p => (patchObservedTimeIfContentHash py digest p c).map (Prod.map .stored id)
  | .delete docId => (delete py docId c).map (Prod.map .deleted id)

end Http

end Neurons.Source
