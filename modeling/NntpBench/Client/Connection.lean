import NntpBench.Capabilities
import NntpBench.ReceiveAll
import NntpBench.Request

namespace NntpBench.Client

open Protocol

inductive SharedEngineError where
  | io
  | unexpectedEof
  | invalidStatusLine
  | capabilitiesUnavailable
  | connectionClosed
  deriving DecidableEq, Repr

def sharedEngineErrorFromClient : ClientError → SharedEngineError
  | .io => .io
  | .unexpectedEof => .unexpectedEof
  | .invalidStatusLine => .invalidStatusLine
  | .connectionClosed => .connectionClosed
  | .capabilitiesUnavailable => .capabilitiesUnavailable
  | .unexpectedArticleResponse _ => .connectionClosed

def SharedEngineError.toClient : SharedEngineError → ClientError
  | .io => .io
  | .unexpectedEof => .unexpectedEof
  | .invalidStatusLine => .invalidStatusLine
  | .capabilitiesUnavailable => .capabilitiesUnavailable
  | .connectionClosed => .connectionClosed

def requestKindRequiresCapabilities (kind : RequestKind) : Bool :=
  kind ∈ [.post, .ihave, .check, .takeThis, .authInfoUser, .authInfoPass, .startTls, .over, .xover,
    .hdr, .xhdr, .newGroups, .newNews]

def requestKindInvalidatesCapabilities (kind : RequestKind) : Bool :=
  kind ∈ [.authInfoUser, .authInfoPass, .authInfo, .modeReader, .startTls]

def requestKindRequiresBarrier (kind : RequestKind) : Bool :=
  !kind.coordination.allowsFollowingPipeline

def responseInvalidatesCapabilities (kind : RequestKind) (status : StatusCode) : Bool :=
  if !requestKindInvalidatesCapabilities kind then false
  else if kind ∈ [.authInfoUser, .authInfoPass, .authInfo] then
    status.code = 281 || status.code = 283
  else true

/-- `store_capability_transition`. The content of a response that has none is empty, as the
source's `content()` returns it. -/
def storeCapabilityTransition (capabilityList : Option CapabilityList) (kind : RequestKind)
    (response : OwnedResponse) (mark invalidate : Bool) :
    Except ClientError Unit × Option CapabilityList :=
  let clear (list : Option CapabilityList) : Except ClientError Unit × Option CapabilityList :=
    (.ok (), if invalidate && responseInvalidatesCapabilities kind response.status then none
      else list)
  if kind = .capabilities ∧ response.status.code = 101 then
    match CapabilityList.parse (response.content.getD []) with
    | none => (.error .capabilitiesUnavailable, capabilityList)
    | some list => clear (some list)
  else if mark then (.error .capabilitiesUnavailable, capabilityList)
  else clear capabilityList

/-- The ways a request enters the connection: `queue_request`, `queue_request_exchange`, the
continuation calls of `post_article` and `ihave_article`, and the probe that
`ensure_capabilities_negotiated` sends with `queue_request_unchecked`. -/
inductive Operation where
  | queueRequest (request : Request)
  | queueRequestExchange (request : Request)
  | postArticle (article : Bytes)
  | ihaveArticle (messageId : MessageId) (article : Bytes)
  | probe
  deriving DecidableEq

namespace Operation

def request : Operation → Request
  | .queueRequest request => request
  | .queueRequestExchange request => request
  | .postArticle _ => .post
  | .ihaveArticle messageId _ => .ihave messageId
  | .probe => .capabilities none

def kind (self : Operation) : RequestKind := self.request.kind

def article : Operation → Option Bytes
  | .postArticle article => some article
  | .ihaveArticle _ article => some article
  | _ => none

def markCapabilitiesOnSuccess : Operation → Bool
  | .queueRequest request => request.kind = .capabilities
  | .queueRequestExchange request => request.kind = .capabilities
  | _ => false

def invalidateCapabilitiesOnSuccess : Operation → Bool
  | .probe => false
  | self => requestKindInvalidatesCapabilities self.kind

/-- Whether the request goes through `enqueue_request`, which looks at the capability list after
it has the barrier. -/
def rechecks : Operation → Bool
  | .probe => false
  | _ => true

end Operation

/-- `QueuedRequest` and, once its article stays behind with the writer, `InFlightRequest`. The
identity stands for the request's one-shot channels. -/
structure Queued where
  id : Nat
  operation : Operation
  deriving DecidableEq

namespace Queued

def request (self : Queued) : Request := self.operation.request

def kind (self : Queued) : RequestKind := self.operation.kind

def article (self : Queued) : Option Bytes := self.operation.article

/-- Whether the request carries the barrier guard with it. -/
def guarded (self : Queued) : Bool := requestKindRequiresBarrier self.kind

def exclusive (self : Queued) : Bool := self.kind.coordination.requiresExclusiveConnection

def LARGE_PAYLOAD_BYTES : Nat := 8 * 1024

def large (self : Queued) : Bool :=
  match self.request with
  | .takeThis _ article => article.length > LARGE_PAYLOAD_BYTES
  | _ => false

/-- Whether the reader lets the writer send the article. -/
def proceeds (self : Queued) (status : StatusCode) : Bool :=
  (self.kind = .post && status.code = 340) || (self.kind = .ihave && status.code = 335)

end Queued

structure CompletedRequest where
  request : Request
  response : OwnedResponse
  deriving DecidableEq

/-- Where a call stands between its parts that other tasks can see. -/
inductive Stage where
  | waiting
  | locked
  | checking
  | sending
  | sent
  | pending
  | probing
  | probeLocked
  | probeCalling (child : Nat)
  | finished (result : Except ClientError CompletedRequest)
  | dropped

namespace Stage

/-- The stages in which the call itself holds the barrier guard. -/
def holds : Stage → Bool
  | .locked | .checking | .sending | .sent => true
  | _ => false

/-- The stages that end at an `await`, where the caller may drop the call. -/
def awaits : Stage → Bool
  | .waiting | .checking | .sending | .pending | .probing | .probeLocked | .probeCalling _ => true
  | _ => false

def holdsProbe : Stage → Bool
  | .probeLocked | .probeCalling _ => true
  | _ => false

def «over» : Stage → Bool
  | .finished _ | .dropped => true
  | _ => false

end Stage

structure Call where
  operation : Operation
  stage : Stage

/-- `queue_request_exchange` negotiates before it asks for the barrier. -/
def Operation.firstStage : Operation → Stage
  | .queueRequestExchange request =>
    if requestKindRequiresCapabilities request.kind then .probing else .waiting
  | _ => .waiting

/-- What the writer puts on the wire for a request: its command, and for a continuation the
article. -/
inductive Piece where
  | command (queued : Queued)
  | article (queued : Queued)
  deriving DecidableEq

namespace Piece

def queued : Piece → Queued
  | .command queued => queued
  | .article queued => queued

def bytes : Piece → Bytes
  | .command queued => queued.request.writeWireTo
  | .article queued => writeDotStuffedArticle (queued.article.getD [])

def command? : Piece → Option Queued
  | .command queued => some queued
  | .article _ => none

end Piece

inductive WriterState where
  /-- The top of the loop. -/
  | ready (held : Option Queued)
  /-- In `wait_until_idle`. -/
  | idling (first : Queued)
  | collecting (batch : List Queued)
  /-- `written` and `current` and `todo` are the batch. -/
  | writing (written : List Queued) (current : Queued) (todo : List Queued) (held : Option Queued)
  | registering (pending : List Queued) (held : Option Queued)
  /-- `begin_inflight` is done, the in-flight channel has not taken `current` yet. -/
  | sending (current : Queued) (pending : List Queued) (held : Option Queued)
  /-- Waits for the reader's word on the article. -/
  | awaiting (current : Queued) (pending : List Queued) (held : Option Queued)
  | posting (current : Queued) (pending : List Queued) (held : Option Queued)
  /-- In `poison_writer_engine`. -/
  | poisoning (error : SharedEngineError)
  | draining (error : SharedEngineError)
  | leaving
  | stopped
  deriving DecidableEq

namespace WriterState

/-- The writer's requests that are on the wire and not in the in-flight channel. -/
def written : WriterState → List Queued
  | .writing written _ _ _ => written
  | .registering pending _ => pending
  | .sending current pending _ => current :: pending
  | .awaiting _ pending _ => pending
  | .posting _ pending _ => pending
  | _ => []

/-- The writer's requests that are not, or not completely, on the wire. -/
def unwritten : WriterState → List Queued
  | .ready held => held.toList
  | .idling first => [first]
  | .collecting batch => batch
  | .writing _ current todo held => current :: (todo ++ held.toList)
  | .registering _ held => held.toList
  | .sending _ _ held => held.toList
  | .awaiting _ _ held => held.toList
  | .posting _ _ held => held.toList
  | _ => []

def tickets (self : WriterState) : List Queued := self.written ++ self.unwritten

def piece : WriterState → Option Piece
  | .writing _ current _ _ => some (.command current)
  | .posting current _ _ => some (.article current)
  | _ => none

def broken : WriterState → Bool
  | .poisoning _ | .draining _ | .leaving | .stopped => true
  | _ => false

def start (first : Queued) : WriterState :=
  if first.exclusive then .idling first
  else if first.large then .writing [] first [] none
  else .collecting [first]

def writeNext (written : List Queued) (todo : List Queued) (held : Option Queued) : WriterState :=
  match todo with
  | [] => .registering written held
  | current :: todo => .writing written current todo held

end WriterState

/-- The responses the reader received for one request; there is a second one when the article of
a continuation was asked for. -/
structure Exchange where
  queued : Queued
  first : OwnedResponse
  second : Option OwnedResponse

def Exchange.response (self : Exchange) : OwnedResponse := self.second.getD self.first

def Exchange.completed (self : Exchange) : CompletedRequest :=
  { request := self.queued.request, response := self.response }

def Exchange.transition (self : Exchange) (capabilityList : Option CapabilityList) :
    Except ClientError Unit × Option CapabilityList :=
  storeCapabilityTransition capabilityList self.queued.kind self.response
    self.queued.operation.markCapabilitiesOnSuccess
    self.queued.operation.invalidateCapabilitiesOnSuccess

/-- What is left to do after a response could not be received. -/
inductive FailStage where
  | deliver
  | endInflight
  | abortWriter
  | poison
  | drain
  | leave
  deriving DecidableEq

inductive ReaderState where
  /-- The top of the loop. -/
  | ready
  | receiving (queued : Queued)
  /-- The first response of a continuation is there, the writer has not been told. -/
  | deciding (queued : Queued) (first : OwnedResponse)
  /-- Waits for the response to the article. -/
  | finishing (queued : Queued) (first : OwnedResponse)
  | storing (exchange : Exchange)
  | closing (exchange : Exchange)
  | delivering (queued : Queued) (result : Except SharedEngineError CompletedRequest)
  /-- The response is delivered, the guard is still held. -/
  | releasing (queued : Queued)
  | ending (queued : Queued)
  | failing (queued : Queued) (error : SharedEngineError) (stage : FailStage)
  | stopped

namespace ReaderState

def stored (exchange : Exchange) : Except ClientError Unit → ReaderState
  | .ok () => .closing exchange
  | .error error => .delivering exchange.queued (.error (sharedEngineErrorFromClient error))

/-- The request the reader works on, until its response is delivered. -/
def active : ReaderState → List Queued
  | .receiving queued => [queued]
  | .deciding queued _ => [queued]
  | .finishing queued _ => [queued]
  | .storing exchange => [exchange.queued]
  | .closing exchange => [exchange.queued]
  | .delivering queued _ => [queued]
  | _ => []

/-- The request whose response sender the reader holds. -/
def opened : ReaderState → List Queued
  | .failing queued _ .deliver => [queued]
  | self => self.active

/-- The request that the reader holds, with its guard if it has one. -/
def tickets : ReaderState → List Queued
  | .releasing queued => [queued]
  | .failing queued _ _ => [queued]
  | self => self.active

/-- The request whose capability transition is still to come. -/
def unhandled : ReaderState → List Queued
  | .receiving queued => [queued]
  | .deciding queued _ => [queued]
  | .finishing queued _ => [queued]
  | .storing exchange => [exchange.queued]
  | _ => []

/-- The request for which the reader still has to call `end_inflight`. -/
def counted : ReaderState → List Queued
  | .releasing queued => [queued]
  | .ending queued => [queued]
  | .failing queued _ .deliver => [queued]
  | .failing queued _ .endInflight => [queued]
  | self => self.active

/-- The request whose `proceed` sender the reader holds. -/
def undecided : ReaderState → List Queued
  | .receiving queued => [queued]
  | .deciding queued _ => [queued]
  | _ => []

/-- A receive has failed or the task is gone. -/
def broken : ReaderState → Bool
  | .failing _ _ _ | .stopped => true
  | _ => false

end ReaderState

/-- The request channel and the in-flight channel are queues; the barrier is free when no call and
no queued request holds a guard; a response channel is open while its sender exists. -/
structure Connection where
  calls : Nat → Option Call
  /-- The last `Arc<ConnectionHandle>` is gone. -/
  handleDropped : Bool
  queue : List Queued
  writer : WriterState
  writerAborted : Bool
  /-- The pieces that are completely written, in order. -/
  wire : List Piece
  /-- The piece that is being written, or was when the writer stopped, and what of it is written. -/
  unfinished : Option (Piece × Bytes)
  inflight : List Queued
  /-- `gate.inflight`. -/
  count : Nat
  closed : Bool
  capabilityList : Option CapabilityList
  poisoned : Option SharedEngineError
  reader : ReaderState
  readerAborted : Bool
  receiver : BufferedResponseReceiver
  /-- What was sent on the response channels. -/
  responses : Nat → Option (Except SharedEngineError CompletedRequest)
  /-- The first response of each continuation for which the reader sent its word; the word is
  `Queued.proceeds`. -/
  decided : Nat → Option OwnedResponse
  /-- The exchanges whose capability transition has been made, in order. -/
  handled : List Exchange

namespace Connection

def new (events : List ReadEvent) (spare : Nat → Nat) : Connection where
  calls _ := none
  handleDropped := false
  queue := []
  writer := .ready none
  writerAborted := false
  wire := []
  unfinished := none
  inflight := []
  count := 0
  closed := false
  capabilityList := none
  poisoned := none
  reader := .ready
  readerAborted := false
  receiver := .new events spare
  responses _ := none
  decided _ := none
  handled := []

variable (self : Connection)

/-- Every request that carries its guard, oldest first. -/
def line : List Queued :=
  self.reader.tickets ++ self.inflight ++ self.writer.tickets ++ self.queue

/-- Every request whose response sender exists. -/
def opened : List Queued :=
  self.reader.opened ++ self.inflight ++ self.writer.tickets ++ self.queue

/-- Every request whose `proceed` sender exists. -/
def undecided : List Queued :=
  self.reader.undecided ++ self.inflight ++ self.writer.tickets ++ self.queue

/-- The requests that are not, or not completely, on the wire. -/
def unwritten : List Queued := self.writer.unwritten ++ self.queue

/-- The requests whose command is completely written, in the order of writing. -/
def written : List Queued := self.wire.filterMap Piece.command?

def sent : Bytes := self.unfinished.elim [] Prod.snd

def output : Bytes := self.wire.flatMap Piece.bytes ++ self.sent

def bytesOf (queued : Queued) : Bytes :=
  ((self.wire.map fun piece => (piece, piece.bytes)) ++ self.unfinished.toList).flatMap
    fun part => if part.1.queued = queued then part.2 else []

def holds (id : Nat) : Prop := ∃ call, self.calls id = some call ∧ call.stage.holds = true

/-- `send_barrier` can be locked. -/
def BarrierFree : Prop :=
  (∀ id, ¬ self.holds id) ∧ ∀ queued ∈ self.line, queued.guarded = false

/-- `capabilities_probe` can be locked. -/
def ProbeFree : Prop :=
  ∀ id call, self.calls id = some call → call.stage.holdsProbe = false

/-- The response channel of the request is open: nothing was sent on it and its sender exists. -/
def Open (id : Nat) : Prop := ∃ queued ∈ self.opened, queued.id = id

def setStage (id : Nat) (operation : Operation) (stage : Stage) : Connection :=
  { self with calls := Function.update self.calls id (some { operation, stage }) }

@[simp] theorem calls_setStage_self (id : Nat) (operation : Operation) (stage : Stage) :
    (self.setStage id operation stage).calls id = some ⟨operation, stage⟩ :=
  Function.update_self ..

theorem calls_setStage_of_ne {id other : Nat} (h : other ≠ id) (operation : Operation)
    (stage : Stage) : (self.setStage id operation stage).calls other = self.calls other :=
  Function.update_of_ne h ..

def fail (error : SharedEngineError) (requests : List Queued) :
    Nat → Option (Except SharedEngineError CompletedRequest) :=
  fun id => if id ∈ requests.map Queued.id then some (.error error) else self.responses id

def storePoisoned (error : SharedEngineError) : Option SharedEngineError :=
  self.poisoned.or (some error)

end Connection

end NntpBench.Client
