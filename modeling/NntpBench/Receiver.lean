import NntpBench.Framing
import NntpBench.ResponseFrame

namespace NntpBench.Protocol

open Terminator

/-- `Article<Framed<Bytes>>`: a complete wire response with its boundaries. -/
structure FramedResponse where
  bytes : Bytes
  kind : RequestKind
  status : StatusCode
  statusLineEnd : Nat
  contentEnd : Nat
  initial : ResponseInitial
  deriving DecidableEq, Repr

structure ResponseContentRange where
  start : Nat
  stop : Nat
  le : start ≤ stop
  deriving Repr

namespace ResponseContentRange

instance : DecidableEq ResponseContentRange := fun a b =>
  decidable_of_iff (a.start = b.start ∧ a.stop = b.stop) (by cases a; cases b; simp)

def new (start stop responseLen : Nat) : Option ResponseContentRange :=
  if h : start ≤ stop ∧ stop ≤ responseLen then some ⟨start, stop, h.1⟩ else none

def slice (self : ResponseContentRange) (response : Bytes) : Option Bytes :=
  if self.stop ≤ response.length then some (response.extract self.start self.stop) else none

end ResponseContentRange

namespace FramedResponse

def genericContentRange (self : FramedResponse) : Option ResponseContentRange :=
  ResponseContentRange.new self.statusLineEnd self.contentEnd self.bytes.length

def content (self : FramedResponse) : Option Bytes :=
  self.genericContentRange.bind (·.slice self.bytes)

def validatedLayout (self : FramedResponse) : Except ArticleParseError ArticleLayout :=
  if ¬ (220 ≤ self.status.code ∧ self.status.code ≤ 223) then
    .error (.invalidStatusCode self.status.code)
  else do
    let firstLine ← validatedFirstLineFromInitial self.initial self.statusLineEnd
    let framed ← FramedArticle.fromKnownContentBounds self.bytes self.statusLineEnd self.contentEnd
      self.statusLineEnd
    framed.validateForStatusWithFirstLine self.status.code firstLine

end FramedResponse

/-- Responses as the receiver returns them. -/
inductive OwnedResponse where
  | generic (kind : RequestKind) (status : StatusCode) (bytes : Bytes)
    (content : ResponseContentRange)
  | article (framed : FramedResponse)
  deriving DecidableEq, Repr

namespace OwnedResponse

def kind : OwnedResponse → RequestKind
  | .generic kind _ _ _ => kind
  | .article framed => framed.kind

def status : OwnedResponse → StatusCode
  | .generic _ status _ _ => status
  | .article framed => framed.status

def asBytes : OwnedResponse → Bytes
  | .generic _ _ bytes _ => bytes
  | .article framed => framed.bytes

def content : OwnedResponse → Option Bytes
  | .generic _ _ bytes content => content.slice bytes
  | .article framed => framed.content

end OwnedResponse

inductive ClientError where
  | io
  | unexpectedEof
  | invalidStatusLine
  | capabilitiesUnavailable
  | connectionClosed
  | unexpectedArticleResponse (response : OwnedResponse)
  deriving DecidableEq, Repr

structure OwnedArticle where
  bytes : Bytes
  kind : RequestKind
  status : StatusCode
  layout : ArticleLayout
  deriving DecidableEq, Repr

def OwnedArticle.article (self : OwnedArticle) : Option Article :=
  self.layout.materialize self.bytes

def OwnedResponse.intoArticle (self : OwnedResponse) : Except ClientError OwnedArticle :=
  let expectedStatus :=
    match self.kind with
    | .article => 220
    | .head => 221
    | .body => 222
    | .stat => 223
    | _ => 0
  if self.status.code ≠ expectedStatus then .error (.unexpectedArticleResponse self)
  else
    match self with
    | .generic .. => .error (.unexpectedArticleResponse self)
    | .article framed =>
      match framed.validatedLayout with
      | .error _ => .error .invalidStatusLine
      | .ok layout => .ok { bytes := framed.bytes, kind := framed.kind, status := framed.status,
                            layout }

/-- A complete 101 whose capability lines are unusable is still one frame. -/
def FramedResponse.intoOwnedResponse (self : FramedResponse) : Except ClientError OwnedResponse :=
  if isArticlePair self.kind self.status.code then .ok (.article self)
  else if ¬ (self.statusLineEnd ≤ self.contentEnd ∧ self.contentEnd ≤ self.bytes.length) then
    .error .invalidStatusLine
  else
    let valid := validateFramedNonArticleResponseContent self.kind self.status
      (self.bytes.take self.statusLineEnd) (self.bytes.extract self.statusLineEnd self.contentEnd)
    if !valid && !(self.kind = .capabilities && self.status.code = 101) then
      .error .invalidStatusLine
    else
      match self.genericContentRange with
      | none => .error .invalidStatusLine
      | some content => .ok (.generic self.kind self.status self.bytes content)

def STREAMING_STATUS_LINE_BYTES : Nat := MAX_AUTHINFO_SASL_RESPONSE_LINE_BYTES

/-- `statusBuf` is the filled part of the source's fixed array. -/
structure StreamingResponseDecoder where
  kind : RequestKind
  status : Option StatusCode
  initial : Option ResponseInitial
  statusLineEnd : Nat
  framer : MultilineFramer
  statusBuf : Bytes
  deriving DecidableEq

inductive StreamingDecodeProgress where
  | needMore
  | complete (status : StatusCode) (consumed : Nat) (bounds : Option MultilineFrameBounds)
  deriving DecidableEq, Repr

namespace StreamingResponseDecoder

def new (kind : RequestKind) : StreamingResponseDecoder :=
  { kind, status := none, initial := none, statusLineEnd := 0, framer := MultilineFramer.default
    statusBuf := [] }

/-- The loop of `push` that fills the status buffer byte by byte; the result counts the bytes it
took from the chunk. -/
def scanStatus (self : StreamingResponseDecoder) (consumed : Nat) :
    Bytes → Except ClientError (StreamingResponseDecoder × Nat)
  | [] => .ok (self, consumed)
  | byte :: rest =>
    if self.statusBuf.length = STREAMING_STATUS_LINE_BYTES then .error .invalidStatusLine
    else
      let statusBuf := self.statusBuf ++ [byte]
      match ResponseInitial.parse self.kind statusBuf with
      | .complete initial =>
        .ok ({ self with statusBuf, status := some initial.status, initial := some initial
                         statusLineEnd := statusBuf.length }, consumed + 1)
      | .needMore => scanStatus { self with statusBuf } (consumed + 1) rest
      | .invalid => .error .invalidStatusLine

/-- The part of `push` that feeds the framer from `contentStart` on. -/
def pushContent (self : StreamingResponseDecoder) (status : StatusCode) (contentStart : Nat)
    (chunk : Bytes) : StreamingDecodeProgress × StreamingResponseDecoder :=
  if contentStart ≥ chunk.length then (.needMore, self)
  else
    match self.framer.push (chunk.drop contentStart) with
    | (.complete bounds, framer) =>
      (.complete status (contentStart + bounds.chunkConsumed) (some bounds), { self with framer })
    | (.needMore, framer) => (.needMore, { self with framer })

def push (self : StreamingResponseDecoder) (chunk : Bytes) :
    Except ClientError (StreamingDecodeProgress × StreamingResponseDecoder) :=
  match self.status with
  | some status => .ok (self.pushContent status 0 chunk)
  | none =>
    match self.scanStatus 0 chunk with
    | .error e => .error e
    | .ok (self, consumed) =>
      match self.initial with
      | none => .ok (.needMore, self)
      | some initial =>
        if !initial.descriptor.framing.isMultiline then
          .ok (.complete initial.status consumed none, self)
        else .ok (self.pushContent initial.status consumed chunk)

end StreamingResponseDecoder

structure ResponseDecoder where
  streaming : StreamingResponseDecoder
  scanned : Nat
  deriving DecidableEq

namespace ResponseDecoder

def new (kind : RequestKind) : ResponseDecoder := ⟨StreamingResponseDecoder.new kind, 0⟩

/-- `extract_framed`: the decoder, the bytes still pending, and a frame if one is complete. -/
def extractFramed (self : ResponseDecoder) (pending : Bytes) :
    Except ClientError (Option FramedResponse × ResponseDecoder × Bytes) :=
  match self.streaming.push (pending.drop self.scanned) with
  | .error e => .error e
  | .ok (.needMore, streaming) => .ok (none, ⟨streaming, pending.length⟩, pending)
  | .ok (.complete status consumed bounds, streaming) =>
    match streaming.initial with
    | none => .error .invalidStatusLine
    | some initial =>
      let frameEnd := self.scanned + consumed
      let contentEnd := bounds.elim streaming.statusLineEnd fun bounds =>
        streaming.statusLineEnd + bounds.contentEnd
      .ok (some { bytes := pending.take frameEnd, kind := streaming.kind, status
                  statusLineEnd := streaming.statusLineEnd, contentEnd, initial },
        ⟨streaming, pending.length⟩, pending.drop frameEnd)

end ResponseDecoder

inductive ReceiverState where
  | ready
  | unavailable
  deriving DecidableEq, Repr

/-- One completed `poll_read` of the socket. -/
inductive ReadEvent where
  | data (bytes : Bytes)
  | failed
  deriving DecidableEq, Repr

/-- `spare n` is the spare capacity of the buffer at the `n`-th read, which the allocator
chooses; the reader delivers the events in order and then end of file. -/
structure BufferedResponseReceiver where
  reader : List ReadEvent
  spare : Nat → Nat
  reads : Nat
  pending : Bytes
  state : ReceiverState

namespace BufferedResponseReceiver

def new (reader : List ReadEvent) (spare : Nat → Nat) : BufferedResponseReceiver :=
  { reader, spare, reads := 0, pending := [], state := .ready }

/-- `poll_read` into a buffer of `readLen` bytes: what does not fit stays with the reader. -/
def pollRead (readLen : Nat) : List ReadEvent → Option Bytes × List ReadEvent
  | [] => (some [], [])
  | .failed :: rest => (none, rest)
  | .data bytes :: rest =>
    (some (bytes.take readLen),
      if bytes.drop readLen = [] then rest else .data (bytes.drop readLen) :: rest)

/-- `read_into_pending_bytes`: the number of bytes read, or an I/O error. -/
def readIntoPendingBytes (self : BufferedResponseReceiver) (readChunkBytes : Nat) :
    Except ClientError Nat × BufferedResponseReceiver :=
  let readLen := min (max readChunkBytes 1) (max (self.spare self.reads) 1)
  match pollRead readLen self.reader with
  | (none, reader) => (.error .io, { self with reader, reads := self.reads + 1 })
  | (some bytes, reader) =>
    (.ok bytes.length,
      { self with reader, reads := self.reads + 1, pending := self.pending ++ bytes })

end BufferedResponseReceiver

/-- A receiver borrowed for one response, with that response's decoder. -/
structure Receiving where
  receiver : BufferedResponseReceiver
  decoder : ResponseDecoder

namespace Receiving

def new (receiver : BufferedResponseReceiver) (kind : RequestKind) : Receiving :=
  { receiver := { receiver with state := .unavailable }, decoder := ResponseDecoder.new kind }

def extract (self : Receiving) : Except ClientError (Option OwnedResponse) × Receiving :=
  match self.decoder.extractFramed self.receiver.pending with
  | .error e => (.error e, self)
  | .ok (none, decoder, _) => (.ok none, { self with decoder })
  | .ok (some framed, decoder, pending) =>
    match framed.intoOwnedResponse with
    | .error e => (.error e, { receiver := { self.receiver with pending }, decoder })
    | .ok response =>
      (.ok (some response),
        { receiver := { self.receiver with pending, state := .ready }, decoder })

def readAndExtract (self : Receiving) (readChunkBytes : Nat) :
    Except ClientError (Option OwnedResponse) × Receiving :=
  match self.receiver.readIntoPendingBytes readChunkBytes with
  | (.error e, receiver) => (.error e, { self with receiver })
  | (.ok 0, receiver) => (.error .unexpectedEof, { self with receiver })
  | (.ok (_ + 1), receiver) => extract { self with receiver }

def appendAndExtract (self : Receiving) (chunk : Bytes) :
    Except ClientError (Option OwnedResponse) × Receiving :=
  extract { self with receiver := { self.receiver with pending := self.receiver.pending ++ chunk } }

/-- The loop of `receive_fragments`: the result of each chunk up to the first response or
error. -/
def feed (self : Receiving) : List Bytes → List (Except ClientError (Option OwnedResponse))
  | [] => []
  | chunk :: rest =>
    match self.appendAndExtract chunk with
    | (.ok none, next) => .ok none :: next.feed rest
    | (result, _) => [result]

/-- The loop of `receive` for at most `rounds` reads; `none` when it still waits for more. -/
def receiveLoop (readChunkBytes : Nat) :
    Nat → Receiving → Option (Except ClientError OwnedResponse) × BufferedResponseReceiver
  | rounds, self =>
    match self.extract with
    | (.error e, next) => (some (.error e), next.receiver)
    | (.ok (some response), next) => (some (.ok response), next.receiver)
    | (.ok none, next) =>
      match rounds with
      | 0 => (none, next.receiver)
      | rounds + 1 =>
        match next.readAndExtract readChunkBytes with
        | (.error e, next) => (some (.error e), next.receiver)
        | (.ok (some response), next) => (some (.ok response), next.receiver)
        | (.ok none, next) => receiveLoop readChunkBytes rounds next

end Receiving

namespace BufferedResponseReceiver

/-- `receive` polled until it finishes or has made `rounds` reads; `none` while it waits. The
future does nothing before its first poll. -/
def receiveFor (self : BufferedResponseReceiver) (kind : RequestKind)
    (readChunkBytes rounds : Nat) :
    Option (Except ClientError OwnedResponse) × BufferedResponseReceiver :=
  match self.state with
  | .unavailable => (some (.error .connectionClosed), self)
  | .ready => Receiving.receiveLoop readChunkBytes rounds (Receiving.new self kind)

end BufferedResponseReceiver

end NntpBench.Protocol
