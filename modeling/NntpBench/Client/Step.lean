import NntpBench.Client.Connection
import NntpBench.Lib.Transitions

namespace NntpBench.Client

open Protocol

/-- What a call does that changes nothing but the call itself. -/
inductive CallStep (s : Connection) (id : Nat) (operation : Operation) : Stage → Stage → Prop where
  | lock (h : s.BarrierFree) : CallStep s id operation .waiting .locked
  | refuse (h : s.closed = true) :
    CallStep s id operation .locked (.finished (.error .connectionClosed))
  | accept (h : s.closed = false) :
    CallStep s id operation .locked
      (if operation.rechecks && requestKindRequiresCapabilities operation.kind then .checking
        else .sending)
  | recheck (h : s.capabilityList.isSome = true) : CallStep s id operation .checking .sending
  -- The guard is dropped before the probe, which takes the same mutex.
  | negotiate (h : s.capabilityList = none) : CallStep s id operation .checking .probing
  | lockProbe (h : s.ProbeFree) : CallStep s id operation .probing .probeLocked
  | negotiated (h : s.capabilityList.isSome = true) :
    CallStep s id operation .probeLocked .waiting
  | probed {child : Nat} {completed : CompletedRequest}
    (h : s.calls child = some ⟨.probe, .finished (.ok completed)⟩) :
    CallStep s id operation (.probeCalling child)
      (if completed.response.status.code = 101 then .waiting
        else .finished (.error .capabilitiesUnavailable))
  | probeFailed {child : Nat} {error : ClientError}
    (h : s.calls child = some ⟨.probe, .finished (.error error)⟩) :
    CallStep s id operation (.probeCalling child) (.finished (.error error))
  | sendFailed (h : s.writer = .stopped) :
    CallStep s id operation .sending (.finished (.error .connectionClosed))
  | unlock : CallStep s id operation .sent .pending
  | receive {result : Except SharedEngineError CompletedRequest}
    (h : s.responses id = some result) :
    CallStep s id operation .pending (.finished (result.mapError SharedEngineError.toClient))
  | receiveClosed (h : s.responses id = none) (hclosed : ¬ s.Open id) :
    CallStep s id operation .pending
      (.finished (.error ((s.poisoned.map SharedEngineError.toClient).getD .connectionClosed)))
  | drop {stage : Stage} (h : stage.awaits = true) : CallStep s id operation stage .dropped

section

-- `pipeline_depth.max(1)` of the two channels and the size of one read.
variable (pipelineDepth readChunkBytes : Nat)

inductive WriterStep (s : Connection) : Connection → Prop where
  | recv {queued : Queued} {rest : List Queued} (h : s.writer = .ready none)
    (hqueue : s.queue = queued :: rest) :
    WriterStep s { s with writer := .start queued, queue := rest }
  | takeHeld {queued : Queued} (h : s.writer = .ready (some queued)) :
    WriterStep s { s with writer := .start queued }
  | disconnected (h : s.writer = .ready none) (hqueue : s.queue = [])
    (hdropped : s.handleDropped = true) : WriterStep s { s with writer := .stopped }
  | idle {first : Queued} (h : s.writer = .idling first) (hidle : s.count = 0) :
    WriterStep s { s with writer := .writing [] first [] none }
  | collect {batch rest : List Queued} {queued : Queued} (h : s.writer = .collecting batch)
    (hqueue : s.queue = queued :: rest) (hlength : batch.length < 64)
    (halone : (queued.exclusive || queued.large) = false) :
    WriterStep s { s with writer := .collecting (batch ++ [queued]), queue := rest }
  | hold {batch rest : List Queued} {queued : Queued} (h : s.writer = .collecting batch)
    (hqueue : s.queue = queued :: rest) (hlength : batch.length < 64)
    (halone : (queued.exclusive || queued.large) = true) :
    WriterStep s { s with writer := .writeNext [] batch (some queued), queue := rest }
  | collected {batch : List Queued} (h : s.writer = .collecting batch)
    (hdone : s.queue = [] ∨ 64 ≤ batch.length) :
    WriterStep s { s with writer := .writeNext [] batch none }
  -- One `poll_write` of a command or an article.
  | write {piece : Piece} {chunk rest : Bytes} (h : s.writer.piece = some piece)
    (hbytes : piece.bytes = s.sent ++ chunk ++ rest) (hchunk : chunk ≠ []) :
    WriterStep s { s with unfinished := some (piece, s.sent ++ chunk) }
  | wrote {written todo : List Queued} {current : Queued} {held : Option Queued}
    (h : s.writer = .writing written current todo held)
    (hsent : s.sent = (Piece.command current).bytes) :
    WriterStep s { s with wire := s.wire ++ [.command current], unfinished := none
                          writer := .writeNext (written ++ [current]) todo held }
  | writeFailed (h : s.writer.piece.isSome = true) :
    WriterStep s { s with writer := .poisoning .io, responses := s.fail .io s.writer.tickets }
  | register {queued : Queued} {pending : List Queued} {held : Option Queued}
    (h : s.writer = .registering (queued :: pending) held) :
    WriterStep s { s with writer := .sending queued pending held, count := s.count + 1 }
  | inflight {current : Queued} {pending : List Queued} {held : Option Queued}
    (h : s.writer = .sending current pending held) (hreader : s.reader ≠ .stopped)
    (hroom : s.inflight.length < max pipelineDepth 1) :
    WriterStep s
      { s with inflight := s.inflight ++ [current]
               writer := if current.article.isSome then .awaiting current pending held
                         else .registering pending held }
  | inflightClosed {current : Queued} {pending : List Queued} {held : Option Queued}
    (h : s.writer = .sending current pending held) (hreader : s.reader = .stopped) :
    WriterStep s { s with writer := .poisoning .connectionClosed, count := s.count - 1
                          responses := s.fail .connectionClosed s.writer.tickets }
  | proceed {current : Queued} {pending : List Queued} {held : Option Queued}
    {first : OwnedResponse} (h : s.writer = .awaiting current pending held)
    (hdecided : s.decided current.id = some first)
    (hproceeds : current.proceeds first.status = true) :
    WriterStep s { s with writer := .posting current pending held }
  -- `proceed_rx.await.unwrap_or(false)`: a dropped sender counts as a refusal.
  | skip {current : Queued} {pending : List Queued} {held : Option Queued}
    (h : s.writer = .awaiting current pending held)
    (hdecided : (∃ first, s.decided current.id = some first ∧ current.proceeds first.status =
      false) ∨ (s.decided current.id = none ∧ current ∉ s.undecided)) :
    WriterStep s { s with writer := .registering pending held }
  | posted {current : Queued} {pending : List Queued} {held : Option Queued}
    (h : s.writer = .posting current pending held)
    (hsent : s.sent = (Piece.article current).bytes) :
    WriterStep s { s with wire := s.wire ++ [.article current], unfinished := none
                          writer := .registering pending held }
  | next {held : Option Queued} (h : s.writer = .registering [] held) :
    WriterStep s { s with writer := .ready held }
  | poison {error : SharedEngineError} (h : s.writer = .poisoning error) :
    WriterStep s { s with writer := .draining error, poisoned := s.storePoisoned error }
  | drain {error : SharedEngineError} {queued : Queued} {rest : List Queued}
    (h : s.writer = .draining error) (hqueue : s.queue = queued :: rest) :
    WriterStep s { s with queue := rest, responses := s.fail error [queued] }
  | drained {error : SharedEngineError} (h : s.writer = .draining error) (hqueue : s.queue = []) :
    WriterStep s { s with writer := .leaving }
  -- The channel goes with the task, and with it what was sent since.
  | leave (h : s.writer = .leaving) : WriterStep s { s with writer := .stopped, queue := [] }
  | aborted (h : s.writerAborted = true) : WriterStep s { s with writer := .stopped, queue := [] }

inductive ReaderStep (s : Connection) : Connection → Prop where
  | recv {queued : Queued} {rest : List Queued} (h : s.reader = .ready)
    (hinflight : s.inflight = queued :: rest) :
    ReaderStep s { s with reader := .receiving queued, inflight := rest }
  | disconnected (h : s.reader = .ready) (hinflight : s.inflight = [])
    (hwriter : s.writer = .stopped) : ReaderStep s { s with reader := .stopped }
  | received {queued : Queued} {response : OwnedResponse} {receiver : BufferedResponseReceiver}
    {rounds : Nat} (h : s.reader = .receiving queued)
    (hreceive : s.receiver.receiveFor queued.kind readChunkBytes rounds =
      (some (.ok response), receiver)) :
    ReaderStep s
      { s with receiver
               reader := if queued.article.isSome then .deciding queued response
                         else .storing ⟨queued, response, none⟩ }
  | decide {queued : Queued} {first : OwnedResponse} (h : s.reader = .deciding queued first) :
    ReaderStep s
      { s with decided := Function.update s.decided queued.id (some first)
               reader := if queued.proceeds first.status then .finishing queued first
                         else .storing ⟨queued, first, none⟩ }
  | finished {queued : Queued} {first response : OwnedResponse}
    {receiver : BufferedResponseReceiver} {rounds : Nat} (h : s.reader = .finishing queued first)
    (hreceive : s.receiver.receiveFor queued.kind readChunkBytes rounds =
      (some (.ok response), receiver)) :
    ReaderStep s { s with receiver, reader := .storing ⟨queued, first, some response⟩ }
  | receiveFailed {queued : Queued} {error : ClientError} {receiver : BufferedResponseReceiver}
    {rounds : Nat} (h : s.reader = .receiving queued ∨ ∃ first, s.reader = .finishing queued first)
    (hreceive : s.receiver.receiveFor queued.kind readChunkBytes rounds =
      (some (.error error), receiver)) :
    ReaderStep s
      { s with receiver, reader := .failing queued (sharedEngineErrorFromClient error) .deliver }
  | store {exchange : Exchange} (h : s.reader = .storing exchange) :
    ReaderStep s
      { s with capabilityList := (exchange.transition s.capabilityList).2
               handled := s.handled ++ [exchange]
               reader := .stored exchange (exchange.transition s.capabilityList).1 }
  | close {exchange : Exchange} (h : s.reader = .closing exchange) :
    ReaderStep s
      { s with closed := s.closed ||
                 (exchange.queued.kind = .quit && exchange.response.status.code = 205)
               reader := .delivering exchange.queued (.ok exchange.completed) }
  | deliver {queued : Queued} {result : Except SharedEngineError CompletedRequest}
    (h : s.reader = .delivering queued result) :
    ReaderStep s { s with responses := Function.update s.responses queued.id (some result)
                          reader := .releasing queued }
  | release {queued : Queued} (h : s.reader = .releasing queued) :
    ReaderStep s { s with reader := .ending queued }
  | ended {queued : Queued} (h : s.reader = .ending queued) :
    ReaderStep s { s with reader := .ready, count := s.count - 1 }
  | failDeliver {queued : Queued} {error : SharedEngineError}
    (h : s.reader = .failing queued error .deliver) :
    ReaderStep s { s with responses := s.fail error [queued]
                          reader := .failing queued error .endInflight }
  | failEnd {queued : Queued} {error : SharedEngineError}
    (h : s.reader = .failing queued error .endInflight) :
    ReaderStep s { s with reader := .failing queued error .abortWriter, count := s.count - 1 }
  | failAbort {queued : Queued} {error : SharedEngineError}
    (h : s.reader = .failing queued error .abortWriter) :
    ReaderStep s { s with reader := .failing queued error .poison, writerAborted := true }
  | failPoison {queued : Queued} {error : SharedEngineError}
    (h : s.reader = .failing queued error .poison) :
    ReaderStep s { s with reader := .failing queued error .drain
                          poisoned := s.storePoisoned error }
  | failDrain {queued next : Queued} {error : SharedEngineError} {rest : List Queued}
    (h : s.reader = .failing queued error .drain) (hinflight : s.inflight = next :: rest) :
    ReaderStep s { s with inflight := rest, responses := s.fail error [next] }
  | failDrained {queued : Queued} {error : SharedEngineError}
    (h : s.reader = .failing queued error .drain) (hinflight : s.inflight = []) :
    ReaderStep s { s with reader := .failing queued error .leave }
  -- The channel goes with the task, and so does the guard of the failed request.
  | failLeave {queued : Queued} {error : SharedEngineError}
    (h : s.reader = .failing queued error .leave) :
    ReaderStep s { s with reader := .stopped, inflight := [] }
  | aborted (h : s.readerAborted = true) :
    ReaderStep s { s with reader := .stopped, inflight := [] }

/-- An abort takes effect at an `await`, and the task may have run on until then: after an abort the
task may go on or stop. -/
inductive Step (s : Connection) : Connection → Prop where
  | start {id : Nat} {operation : Operation} (hid : s.calls id = none)
    (hhandle : s.handleDropped = false) (hpublic : operation ≠ .probe) :
    Step s (s.setStage id operation operation.firstStage)
  | call {id : Nat} {operation : Operation} {stage next : Stage}
    (h : s.calls id = some ⟨operation, stage⟩) (hcall : CallStep s id operation stage next) :
    Step s (s.setStage id operation next)
  | probe {id child : Nat} {operation : Operation} (h : s.calls id = some ⟨operation, .probeLocked⟩)
    (hlist : s.capabilityList = none) (hchild : s.calls child = none) :
    Step s ((s.setStage id operation (.probeCalling child)).setStage child .probe .waiting)
  | send {id : Nat} {operation : Operation} (h : s.calls id = some ⟨operation, .sending⟩)
    (hwriter : s.writer ≠ .stopped) (hroom : s.queue.length < max pipelineDepth 1) :
    Step s
      { s.setStage id operation (if (Queued.mk id operation).guarded then .pending else .sent) with
        queue := s.queue ++ [⟨id, operation⟩] }
  -- The calls and the pending responses keep the handle alive.
  | dropHandle (h : ∀ id call, s.calls id = some call → call.stage.over = true) :
    Step s { s with handleDropped := true, writerAborted := true, readerAborted := true }
  | writer {next : Connection} (h : WriterStep pipelineDepth s next) : Step s next
  | reader {next : Connection} (h : ReaderStep readChunkBytes s next) : Step s next

/-- The states of a connection whose server sends `events`, over all interleavings. -/
def Reachable (events : List ReadEvent) (spare : Nat → Nat) : Connection → Prop :=
  Transitions.Reachable (· = Connection.new events spare) (Step pipelineDepth readChunkBytes)

end

end NntpBench.Client
