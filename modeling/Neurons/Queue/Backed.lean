import Mathlib.Data.Fin.VecNotation
import Neurons.Queue.Enqueue
import Neurons.Source.ReferencePlatform

/-! # Requests answered 202

A request is answered 202 when the stream acknowledges its message, and a duplicate is
acknowledged like a message that was stored. The idempotency store keeps a key from being
used for two contents, but only at one instance and until it restarts; the message id of a
request without a key may also be the key of another. So the id of a publish may be in the
duplicate window with another content.
-/

namespace Neurons.Queue

open Neurons.Lib
open Neurons.Source

variable {ι κ : Type}

/-! ## Runs -/

/-- Who acts: a request at an instance, an instance that restarts, or the duplicate window. -/
inductive Client (ι : Type) where
  | post (i : ι) (request : EnqueueRequest)
  | restart (i : ι)
  | expire (messageId : String)

section Clients

variable (py : Platform) (denylist : List NamedPattern)

def Client.program : Client ι → Prog (Call ι) JavaError (Option Response)
  | .post i request => (enqueue py denylist i request).bind fun response => .done (some response)
  | .restart i => .call (.restart i) fun _ => .done none
  | .expire messageId => .call (.expire messageId) fun _ => .done none

/-- The clients before any of them has acted. -/
def startingPool (clients : κ → Client ι) (world : World ι) :
    Pool (Call ι) JavaError (Option Response) (World ι) κ :=
  ⟨fun k => (clients k).program py denylist, world⟩

end Clients

/-- The history has a message with the content of the request. -/
def Backed (request : EnqueueRequest) (world : World ι) : Prop :=
  ∃ message ∈ world.history, message.job.contentHash = request.contentHash

instance (request : EnqueueRequest) (world : World ι) : Decidable (Backed request world) := by
  unfold Backed
  infer_instance

/-- Every request that was answered 202 is backed. -/
def AllBacked (clients : κ → Client ι) (pool : Pool (Call ι) JavaError (Option Response) (World ι) κ) : Prop :=
  ∀ k i request response, clients k = .post i request →
    (pool.clients k).value? = some (some response) → response.code = 202 → Backed request pool.shared

/-- The id is in the duplicate window only with the content of the message. -/
def SameContent (message : Message) (world : World ι) : Prop :=
  match world.window.get? message.messageId with
  | none => True
  | some sequence =>
      (world.history[sequence - 1]?).map (·.job.contentHash) = some message.job.contentHash

instance (message : Message) (world : World ι) : Decidable (SameContent message world) := by
  unfold SameContent
  split <;> infer_instance

/-- A publish that is acknowledged does not reuse an id of the window for another content. -/
def NoReuse {β : Type} (call : Call ι β) (world : World ι) : Prop :=
  match call with
  | .publish message => world.network 0 = .acknowledged → SameContent message world
  | .conflicts _ _ _ | .restart _ | .expire _ => True

instance {β : Type} (call : Call ι β) (world : World ι) : Decidable (NoReuse call world) := by
  unfold NoReuse
  split <;> infer_instance

/-! ## The history only grows -/

def Grows (before after : World ι) : Prop := before.history <+: after.history

theorem Grows.refl (world : World ι) : Grows world world := List.prefix_refl _

theorem Grows.trans {first middle last : World ι} (earlier : Grows first middle)
    (later : Grows middle last) : Grows first last :=
  List.IsPrefix.trans earlier later

theorem Backed.mono {request : EnqueueRequest} {before after : World ι} (grows : Grows before after)
    (backed : Backed request before) : Backed request after := by
  obtain ⟨message, mem, same⟩ := backed
  exact ⟨message, grows.subset mem, same⟩

theorem grows_receive (message : Message) (world : World ι) : Grows world (world.receive message).2 := by
  unfold World.receive
  split
  · exact Grows.refl world
  · exact List.prefix_append _ _

theorem grows_publish (message : Message) (world : World ι) : Grows world (world.publish message).2 := by
  unfold World.publish
  split
  · exact Grows.refl world
  · exact grows_receive message world.laterNetwork
  · exact grows_receive message world.laterNetwork

section Exec

variable [DecidableEq ι]

theorem grows_conflicts (i : ι) (idempotencyKey : Option String) (contentHash : String) (world : World ι) :
    Grows world (world.conflicts i idempotencyKey contentHash).2 := by
  unfold World.conflicts
  split
  · exact Grows.refl world
  · split <;> exact Grows.refl world

end Exec

/-! ## What an acknowledgement says -/

/-- A message that the broker gets is in the history by its content, unless its id is there
    with another one. -/
theorem mem_receive {message : Message} {world : World ι} (same : SameContent message world) :
    ∃ stored ∈ (world.receive message).2.history, stored.job.contentHash = message.job.contentHash := by
  unfold World.receive
  unfold SameContent at same
  cases found : world.window.get? message.messageId with
  | none => exact ⟨message, by simp, rfl⟩
  | some sequence =>
      simp only [found, Option.map_eq_some_iff] at same
      obtain ⟨stored, there, content⟩ := same
      exact ⟨stored, List.mem_of_getElem? there, content⟩

theorem mem_of_acknowledged {message : Message} {world : World ι} {ack : JetStreamPublishAck}
    (same : world.network 0 = .acknowledged → SameContent message world)
    (answered : (world.publish message).1 = .ok ack) :
    ∃ stored ∈ (world.publish message).2.history, stored.job.contentHash = message.job.contentHash := by
  unfold World.publish at answered ⊢
  cases outcome : world.network 0 with
  | refused | ackLost =>
      simp only [outcome] at answered
      cases answered
  | acknowledged =>
      have later : SameContent message world.laterNetwork := same outcome
      exact mem_receive later

/-! ## One request -/

/-- What a client's result says of the world. -/
def Client.Answered : Client ι → Option Response → World ι → Prop
  | .post _ request, some response, world => response.code = 202 → Backed request world
  | .post _ _, none, _ | .restart _, _, _ | .expire _, _, _ => True

theorem Client.answered_mono (client : Client ι) (result : Option Response) {before after : World ι}
    (grows : Grows before after) (answered : client.Answered result before) : client.Answered result after := by
  cases client with
  | restart | expire => trivial
  | post i request =>
      cases result with
      | none => trivial
      | some response =>
          intro is202
          exact (answered is202).mono grows

section Programs

variable [DecidableEq ι]

/-- Started anywhere, the publisher reports success only for a content of the history. -/
theorem publish_safe (job : IngestJob) (world : World ι) :
    (publish job : Prog (Call ι) JavaError PublishResult).Safe exec Grows NoReuse
      (fun result world' => result.accepted = true →
        ∃ stored ∈ world'.history, stored.job.contentHash = job.contentHash) world := by
  unfold publish
  cases subjectFor job.kind with
  | error e => trivial
  | ok subject =>
      intro later _ meet
      refine ⟨grows_publish _ later, ?_⟩
      intro accepted
      cases answer : (later.publish ⟨subject, messageIdFor job, job⟩).1 with
      | error e =>
          simp only [exec, answer, publishResult] at accepted
          cases accepted
      | ok ack => exact mem_of_acknowledged meet answer

theorem conflicts_safe (i : ι) (idempotencyKey contentHash : Option String) (world : World ι) :
    (conflicts i idempotencyKey contentHash).Safe exec Grows NoReuse (fun _ _ => True) world := by
  unfold conflicts
  cases contentHash with
  | none =>
      dsimp only
      split <;> trivial
  | some contentHash =>
      intro later _ _
      exact ⟨grows_conflicts i idempotencyKey contentHash later, trivial⟩

theorem enqueue_safe (py : Platform) (denylist : List NamedPattern) (i : ι) (request : EnqueueRequest)
    (world : World ι) :
    (enqueue py denylist i request).Safe exec Grows NoReuse
      (fun response world' => response.code = 202 → Backed request world') world := by
  have rejected : ∀ code status errors (world' : World ι), code ≠ 202 →
      (Response.rejected code status errors).code = 202 → Backed request world' := by
    intro code status errors world' other is202
    exact absurd is202 other
  unfold enqueue
  split
  · exact rejected _ _ _ world (by decide)
  split
  · exact rejected _ _ _ world (by decide)
  split
  · exact rejected _ _ _ world (by decide)
  apply (conflicts_safe i request.idempotencyKey request.contentHash world).bind
  intro conflict world' _
  cases conflict with
  | true => exact rejected _ _ _ world' (by decide)
  | false =>
      apply (publish_safe request.toIngestJob world').bind
      intro result last published
      cases shape : result.accepted with
      | false => exact rejected _ _ _ last (by decide)
      | true =>
          intro _
          exact published shape

/-! ## Every run -/

theorem Client.program_safe (py : Platform) (denylist : List NamedPattern) (client : Client ι)
    (world : World ι) :
    (client.program py denylist).Safe exec Grows NoReuse client.Answered world := by
  cases client with
  | restart i =>
      intro later _ _
      exact ⟨Grows.refl later, trivial⟩
  | expire messageId =>
      intro later _ _
      exact ⟨Grows.refl later, trivial⟩
  | post i request =>
      apply (enqueue_safe py denylist i request world).bind
      intro response world' backed
      exact backed

theorem accepted_requests_backed [DecidableEq κ] (py : Platform) (denylist : List NamedPattern) (clients : κ → Client ι)
    (world : World ι) (schedule : List κ)
    (meet : (startingPool py denylist clients world).Meets exec (fun _ => NoReuse) schedule) :
    AllBacked clients ((startingPool py denylist clients world).run exec schedule) := by
  have start : ∀ k, (((startingPool py denylist clients world).clients k).Safe exec Grows NoReuse
      (clients k).Answered world) := fun k => (clients k).program_safe py denylist world
  have safe := (Pool.run_safe Grows.refl Grows.trans
    (fun k result _ _ => (clients k).answered_mono result) start meet).2
  intro k i request response client ended is202
  have own := safe k
  rw [Prog.eq_done_of_value? ended, client] at own
  exact own is202

end Programs

/-! ## Two contents under one key -/

/-- A request with a body, under a key. -/
def keyed (key body : String) : EnqueueRequest where
  schemaVersion := some "rag_ingress_enqueue.v1"
  source := some (Dict.insertAll ∅ [(.field .provider, some "codex"), (.field .project, some "neurons")])
  payload := some
    { kind := some "redacted_rag_ready_document"
      redactionVersion := some "redaction.v2"
      document := some ⟨some "chunk.md", some "text/markdown", some body, none⟩ }
  contentHash := some (sha256Hash referencePlatform (.text body))
  targetProfile := some "index-transcript-memory"
  kind := some "conversation_chunk"
  idempotencyKey := some key

/-- A stream without a message, whose network fails nowhere. -/
def emptyStream : World Unit := ⟨"RAG_INGRESS_QUEUE", [], ∅, fun _ => ∅, fun _ => .acknowledged⟩

/-- One instance gets the first request, restarts, and gets the second. -/
def restarting (first second : EnqueueRequest) : Fin 3 → Client Unit :=
  ![.post () first, .restart (), .post () second]

/-- The pool after the three have come to their ends one after another. -/
def afterRestart (first second : EnqueueRequest) : Pool (Call Unit) JavaError (Option Response) (World Unit) (Fin 3) :=
  (startingPool referencePlatform [] (restarting first second) emptyStream).run exec [0, 0, 1, 2, 2]

theorem same_content_backed :
    let request := keyed "key" "schema_version: 1 result_type: a"
    (startingPool referencePlatform [] (restarting request request) emptyStream).Meets exec
      (fun _ => NoReuse) [0, 0, 1, 2, 2] ∧
    ((afterRestart request request).clients 2).value? = some (some (.queued "RAG_INGRESS_QUEUE:1")) ∧
    AllBacked (restarting request request) (afterRestart request request) := by
  intro request
  have meet : (startingPool referencePlatform [] (restarting request request) emptyStream).Meets exec
      (fun _ => NoReuse) [0, 0, 1, 2, 2] := by decide +kernel
  exact ⟨meet, by decide +kernel, accepted_requests_backed _ _ _ _ _ meet⟩

/-- After a restart the key takes a second content: it is answered 202 and stored nowhere. -/
theorem other_content_not_backed :
    let first := keyed "key" "schema_version: 1 result_type: a"
    let second := keyed "key" "schema_version: 1 result_type: b"
    ((afterRestart first second).clients 2).value? = some (some (.queued "RAG_INGRESS_QUEUE:1")) ∧
    ¬ Backed second (afterRestart first second).shared ∧
    ¬ AllBacked (restarting first second) (afterRestart first second) := by
  intro first second
  have answered : ((afterRestart first second).clients 2).value? = some (some (.queued "RAG_INGRESS_QUEUE:1")) := by
    decide +kernel
  have missing : ¬ Backed second (afterRestart first second).shared := by decide +kernel
  refine ⟨answered, missing, ?_⟩
  intro all
  exact missing (all 2 () second _ rfl answered rfl)

end Neurons.Queue
