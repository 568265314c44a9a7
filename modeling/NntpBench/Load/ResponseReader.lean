import NntpBench.ReceiveAll

namespace NntpBench.Load

open Protocol Terminator DotTerminatedBlocks BufferedResponseReceiver

/-- The errors of the reader; `lineNotFound` is the `expect` on the end of a validated line. -/
inductive LoadReadError where
  | unexpectedEof
  | io
  | invalidInitialLine
  | missingMessageId
  | messageIdMismatch
  | responseTooLong
  | lineNotFound
  deriving DecidableEq, Repr

structure LoadResponseReader where
  buffer : Bytes
  start : Nat
  readBufferBytes : Nat
  maxResponseBytes : UInt64
  deriving DecidableEq, Repr

/-- The first `<`, with what follows it up to the next `>`. -/
def responseMessageId (line : Bytes) : Option Bytes :=
  (memchr 60 line).bind fun start =>
    (memchr 62 (line.drop start)).map fun fin => line.extract start (start + fin + 1)

/-- `checked_add` on a 64-bit `usize`, then the configured maximum. -/
def boundedResponseLen (responseLen added : Nat) (max : UInt64) : Except LoadReadError Nat :=
  if 2 ^ 64 ≤ responseLen + added then .error .responseTooLong
  else if max.toNat < responseLen + added then .error .responseTooLong
  else .ok (responseLen + added)

/-- The locals of `read_response` between two reads. -/
structure Reading where
  framer : MultilineFramer
  responseLen : Nat
  multiline : Bool

def Reading.default : Reading := ⟨MultilineFramer.default, 0, false⟩

namespace LoadResponseReader

def new (readBufferBytes : Nat) (maxResponseBytes : UInt64) : LoadResponseReader :=
  { buffer := [], start := 0, readBufferBytes := max readBufferBytes 1, maxResponseBytes }

def remaining (self : LoadResponseReader) : Bytes := self.buffer.drop self.start

def advance (self : LoadResponseReader) (count : Nat) : LoadResponseReader :=
  { self with start := self.start + count }

def validateInitialLine (self : LoadResponseReader) (kind : RequestKind)
    (expectedMessageId : Option Str) : Except LoadReadError (Option (Nat × Bool)) :=
  let data := self.remaining
  match ResponseInitial.parse kind data with
  | .needMore => .ok none
  | .invalid => .error .invalidInitialLine
  | .complete initial =>
    match findCrlfLineEnd data 0 with
    | none => .error .lineNotFound
    | some lineEnd =>
      let accepted := .ok (some (lineEnd, initial.descriptor.framing.isMultiline))
      match expectedMessageId with
      | none => accepted
      | some expected =>
        match responseMessageId (data.take lineEnd) with
        | none => .error .missingMessageId
        | some actual => if actual ≠ asBytes expected then .error .messageIdMismatch else accepted

def tryConsumeResponse (self : LoadResponseReader) (kind : RequestKind)
    (expectedMessageId : Option Str) : Except LoadReadError (Option Nat) × LoadResponseReader :=
  match self.validateInitialLine kind expectedMessageId with
  | .error error => (.error error, self)
  | .ok none => (.ok none, self)
  | .ok (some (lineEnd, multiline)) =>
    let data := self.remaining
    if !multiline then (.ok (some lineEnd), self.advance lineEnd)
    else
      match findDotTerminatedBlock data lineEnd with
      | none =>
        match boundedResponseLen 0 data.length self.maxResponseBytes with
        | .error error => (.error error, self)
        | .ok _ => (.ok none, self)
      | some block =>
        let consumed := block.blockEnd
        match boundedResponseLen 0 consumed self.maxResponseBytes with
        | .error error => (.error error, self)
        | .ok _ => (.ok (some consumed), self.advance consumed)

def compactIfNeeded (self : LoadResponseReader) : LoadResponseReader :=
  if self.start = 0 then self
  else if self.start = self.buffer.length then { self with buffer := [], start := 0 }
  else if self.readBufferBytes ≤ self.start then
    { self with buffer := self.buffer.drop self.start, start := 0 }
  else self

def scanContent (self : LoadResponseReader) (reading : Reading) :
    Except LoadReadError (Option Nat) × LoadResponseReader × Reading :=
  let data := self.remaining
  match reading.framer.push data with
  | (.complete bounds, framer) =>
    let consumed := bounds.chunkConsumed
    match boundedResponseLen reading.responseLen consumed self.maxResponseBytes with
    | .error error => (.error error, self, { reading with framer })
    | .ok frameLen => (.ok (some frameLen), self.advance consumed, { reading with framer })
  | (.needMore, framer) =>
    match boundedResponseLen reading.responseLen data.length self.maxResponseBytes with
    | .error error => (.error error, self, { reading with framer })
    | .ok responseLen =>
      (.ok none, { self with start := self.buffer.length }, { reading with framer, responseLen })

/-- A round of the loop up to its read: `none` where it goes on to read. -/
def scanResponse (self : LoadResponseReader) (kind : RequestKind)
    (expectedMessageId : Option Str) (reading : Reading) :
    Except LoadReadError (Option Nat) × LoadResponseReader × Reading :=
  if reading.multiline then self.scanContent reading
  else
    match self.validateInitialLine kind expectedMessageId with
    | .error error => (.error error, self, reading)
    | .ok none => (.ok none, self, reading)
    | .ok (some (lineEnd, isMultiline)) =>
      if !isMultiline then (.ok (some lineEnd), self.advance lineEnd, reading)
      else (self.advance lineEnd).scanContent
        { reading with responseLen := lineEnd, multiline := true }

end LoadResponseReader

/-- A reader and the socket it reads from. An event is what one `poll_read` left in the spare
capacity; the socket delivers its events in order and then end of file. -/
structure Connection where
  reader : LoadResponseReader
  socket : List ReadEvent
  deriving DecidableEq, Repr

namespace Connection

def stream (self : Connection) : Bytes := self.reader.remaining ++ unread self.socket

/-- The loop of `read_response`; `read_into_load_buffer` appends what the read delivers. -/
def readLoop (kind : RequestKind) (expectedMessageId : Option Str) (reader : LoadResponseReader)
    (reading : Reading) (socket : List ReadEvent) : Except LoadReadError Nat × Connection :=
  match reader.scanResponse kind expectedMessageId reading with
  | (.error error, reader, _) => (.error error, ⟨reader, socket⟩)
  | (.ok (some length), reader, _) => (.ok length, ⟨reader, socket⟩)
  | (.ok none, reader, reading) =>
    let reader := reader.compactIfNeeded
    match socket with
    | [] => (.error .unexpectedEof, ⟨reader, []⟩)
    | .failed :: socket => (.error .io, ⟨reader, socket⟩)
    | .data bytes :: socket =>
      if bytes = [] then (.error .unexpectedEof, ⟨reader, socket⟩)
      else readLoop kind expectedMessageId { reader with buffer := reader.buffer ++ bytes } reading
        socket

def readResponse (self : Connection) (kind : RequestKind) (expectedMessageId : Option Str) :
    Except LoadReadError Nat × Connection :=
  readLoop kind expectedMessageId self.reader Reading.default self.socket

end Connection

structure ExpectedResponse where
  kind : RequestKind
  messageId : Option Str
  deriving DecidableEq, Repr

/-- Successive calls of `read_response` up to the first failure: each length with what is left of
the stream after it. -/
def Connection.readAll (self : Connection) : List ExpectedResponse → List (Nat × Bytes)
  | [] => []
  | next :: more =>
    match self.readResponse next.kind next.messageId with
    | (.error _, _) => []
    | (.ok length, self) => (length, self.stream) :: self.readAll more

/-- The same with `try_consume_response`, where a response that is not complete is a failure. -/
def LoadResponseReader.consumeAll (self : LoadResponseReader) :
    List ExpectedResponse → List (Nat × Bytes)
  | [] => []
  | next :: more =>
    match self.tryConsumeResponse next.kind next.messageId with
    | (.ok (some length), self) => (length, self.remaining) :: self.consumeAll more
    | _ => []

def ExpectedResponse.accepts (self : ExpectedResponse) (statusLine : Bytes) : Bool :=
  match self.messageId with
  | none => true
  | some expected => responseMessageId statusLine = some (asBytes expected)

/-- The length of a multiline response whose first `head` bytes are its initial line. -/
def contentLength (max : UInt64) (head : Nat) (content : Bytes) : Option Nat :=
  (bounds content).bind fun (_, blockEnd) =>
    if head + blockEnd ≤ max.toNat then some (head + blockEnd) else none

/-- How many bytes of the stream the next response takes, if the reader may accept it. -/
def nextResponse (max : UInt64) (expected : ExpectedResponse) (stream : Bytes) : Option Nat :=
  match ResponseInitial.parse expected.kind stream, detectResponseLineEnd stream with
  | .complete initial, .completeAt fin =>
    if !expected.accepts (stream.take fin) then none
    else if initial.descriptor.framing.isMultiline then contentLength max fin (stream.drop fin)
    else some fin
  | _, _ => none

def splitAll (max : UInt64) (stream : Bytes) : List ExpectedResponse → List (Nat × Bytes)
  | [] => []
  | next :: more =>
    match nextResponse max next stream with
    | none => []
    | some length => (length, stream.drop length) :: splitAll max (stream.drop length) more

theorem boundedResponseLen_eq (responseLen added : Nat) (max : UInt64) :
    boundedResponseLen responseLen added max =
      if responseLen + added ≤ max.toNat then .ok (responseLen + added)
      else .error .responseTooLong := by
  have hmax := max.toNat_lt
  unfold boundedResponseLen
  split_ifs <;> first | rfl | omega

theorem lt_of_bounds_append {framer : MultilineFramer} {seen more : Bytes}
    (h : framer.Fed seen) {contentEnd blockEnd : Nat}
    (hbounds : bounds (seen ++ more) = some (contentEnd, blockEnd)) : seen.length < blockEnd := by
  rcases framer.push_spec h more with ⟨hnone, -, -⟩ | ⟨contentEnd', blockEnd', hsome, hlt, -⟩
  · rw [hnone] at hbounds
    exact absurd hbounds (by simp)
  · rw [hsome] at hbounds
    cases hbounds
    exact hlt

theorem contentLength_of_long {framer : MultilineFramer} {seen more : Bytes} {max : UInt64}
    {head : Nat} (h : framer.Fed seen) (hlong : ¬ head + seen.length ≤ max.toNat) :
    contentLength max head (seen ++ more) = none := by
  unfold contentLength
  rw [Option.bind_eq_none_iff]
  intro bounds hbounds
  have hlt := lt_of_bounds_append h hbounds
  exact if_neg (by omega)

namespace LoadResponseReader

variable {self : LoadResponseReader}

@[simp]
theorem remaining_advance (count : Nat) :
    (self.advance count).remaining = self.remaining.drop count := by
  simp [advance, remaining]

@[simp]
theorem remaining_compactIfNeeded : self.compactIfNeeded.remaining = self.remaining := by
  unfold compactIfNeeded
  split_ifs with hzero hall hdrain
  · rfl
  · simp [remaining, hall]
  · simp [remaining]
  · rfl

@[simp]
theorem maxResponseBytes_compactIfNeeded :
    self.compactIfNeeded.maxResponseBytes = self.maxResponseBytes := by
  unfold compactIfNeeded
  split_ifs <;> rfl

theorem start_le_compactIfNeeded (h : self.start ≤ self.buffer.length) :
    self.compactIfNeeded.start ≤ self.compactIfNeeded.buffer.length := by
  unfold compactIfNeeded
  split_ifs <;> simp [h]

theorem start_le_advance {count : Nat} (h : self.start ≤ self.buffer.length)
    (hcount : count ≤ self.remaining.length) :
    (self.advance count).start ≤ (self.advance count).buffer.length := by
  simp only [advance, remaining, List.length_drop] at hcount ⊢
  omega

theorem remaining_append (h : self.start ≤ self.buffer.length) (bytes : Bytes) :
    { self with buffer := self.buffer ++ bytes }.remaining = self.remaining ++ bytes :=
  List.drop_append_of_le_length h

theorem validateInitialLine_of_complete {expected : ExpectedResponse} {initial : ResponseInitial}
    {fin : Nat} (hparse : ResponseInitial.parse expected.kind self.remaining = .complete initial)
    (hfin : detectResponseLineEnd self.remaining = .completeAt fin) :
    (expected.accepts (self.remaining.take fin) = true ∧
      self.validateInitialLine expected.kind expected.messageId =
        .ok (some (fin, initial.descriptor.framing.isMultiline))) ∨
    (expected.accepts (self.remaining.take fin) = false ∧
      ∃ error, self.validateInitialLine expected.kind expected.messageId = .error error) := by
  unfold validateInitialLine ExpectedResponse.accepts
  simp only [hparse, findCrlfLineEnd_of_detect hfin]
  cases expected.messageId with
  | none => simp
  | some id =>
    cases responseMessageId (self.remaining.take fin) with
    | none => simp
    | some actual => by_cases h : actual = asBytes id <;> simp [h]

end LoadResponseReader

/-- The offset lies inside the vector; `max` is the configured maximum. -/
structure LoadResponseReader.Sound (max : UInt64) (reader : LoadResponseReader) : Prop where
  start_le : reader.start ≤ reader.buffer.length
  maxResponseBytes : reader.maxResponseBytes = max

/-- What the loop has scanned of a response: nothing, or an accepted initial line and bytes of the
content that do not complete it. -/
inductive Scanned (max : UInt64) (expected : ExpectedResponse) : Bytes → Reading → Prop
  | line : Scanned max expected [] Reading.default
  | content {line body : Bytes} {framer : MultilineFramer}
    (hline : ∀ content, nextResponse max expected (line ++ content) =
      contentLength max line.length content)
    (hbody : framer.Fed body) :
    Scanned max expected (line ++ body) ⟨framer, line.length + body.length, true⟩

/-- What a round over `data` (scanned before, and remaining) may report: a failure that no later
byte repairs, a response that is complete, or that the response goes on. -/
def Decides (max : UInt64) (expected : ExpectedResponse) (data : Bytes) :
    Except LoadReadError (Option Nat) × LoadResponseReader × Reading → Prop
  | (.error _, _, _) => ∀ more, nextResponse max expected (data ++ more) = none
  | (.ok (some length), reader, _) =>
    reader.Sound max ∧ length ≤ data.length ∧ reader.remaining = data.drop length ∧
      ∀ more, nextResponse max expected (data ++ more) = some length
  | (.ok none, reader, reading) =>
    reader.Sound max ∧ nextResponse max expected data = none ∧
      ∃ seen, seen ++ reader.remaining = data ∧ Scanned max expected seen reading

namespace LoadResponseReader

variable {self : LoadResponseReader} {max : UInt64} {expected : ExpectedResponse}

/-- One push of the unscanned bytes: the response ends in them, or it has grown too long, or all
of them belong to it. -/
theorem scanContent_decides (h : self.Sound max) {line body : Bytes} {framer : MultilineFramer}
    (hline : ∀ content, nextResponse max expected (line ++ content) =
      contentLength max line.length content)
    (hbody : framer.Fed body) :
    Decides max expected (line ++ body ++ self.remaining)
      (self.scanContent ⟨framer, line.length + body.length, true⟩) := by
  obtain ⟨hstart, rfl⟩ := h
  have hpush := framer.push_spec hbody self.remaining
  unfold scanContent
  dsimp only
  generalize framer.push self.remaining = result at hpush ⊢
  obtain ⟨progress, next⟩ := result
  rcases hpush with ⟨hnone, rfl, hnext⟩ | ⟨contentEnd, blockEnd, hsome, hlt, rfl⟩
  · have htotal : line.length + body.length + self.remaining.length =
        line.length + (body ++ self.remaining).length := by
      rw [List.length_append, Nat.add_assoc]
    simp only [boundedResponseLen_eq, htotal]
    split_ifs with hmax
    · refine ⟨⟨le_rfl, rfl⟩, ?_, line ++ (body ++ self.remaining), ?_, .content hline hnext⟩
      · rw [List.append_assoc, hline, contentLength, hnone, Option.bind_none]
      · simp [remaining]
    · intro more
      rw [List.append_assoc, List.append_assoc, hline, ← List.append_assoc]
      exact contentLength_of_long hnext hmax
  · have htotal : line.length + body.length + (blockEnd - body.length) = line.length +
        blockEnd := by
      omega
    obtain ⟨-, hle⟩ := bounds_spec hsome
    simp only [List.length_append] at hle
    have hnext : ∀ more, nextResponse self.maxResponseBytes expected
        (line ++ body ++ self.remaining ++ more) =
        if line.length + blockEnd ≤ self.maxResponseBytes.toNat then some (line.length + blockEnd)
        else none := by
      intro more
      rw [List.append_assoc, List.append_assoc, hline, ← List.append_assoc, contentLength,
        bounds_append_of_some more hsome, Option.bind_some]
    simp only [boundedResponseLen_eq, htotal]
    split_ifs with hmax
    · refine ⟨⟨start_le_advance hstart (by omega), rfl⟩, ?_, ?_,
        fun more => by rw [hnext, if_pos hmax]⟩
      · simp only [List.length_append]
        omega
      · have hsplit : line.length + blockEnd = (line ++ body).length +
            (blockEnd - body.length) := by
          rw [List.length_append]
          omega
        rw [remaining_advance, hsplit, ← List.drop_drop, List.drop_left]
    · intro more
      rw [hnext, if_neg hmax]

theorem nextResponse_of_line {data : Bytes} {initial : ResponseInitial} {fin : Nat}
    (hparse : ResponseInitial.parse expected.kind data = .complete initial)
    (hfin : detectResponseLineEnd data = .completeAt fin) (max : UInt64) (more : Bytes) :
    nextResponse max expected (data ++ more) =
      if !expected.accepts (data.take fin) then none
      else if initial.descriptor.framing.isMultiline then
        contentLength max fin (data.drop fin ++ more)
      else some fin := by
  have hle := le_length_of_completeAt hfin
  unfold nextResponse
  rw [ResponseInitial.parse_append more (by simp [hparse]), hparse,
    detectResponseLineEnd_append more (by simp [hfin]), hfin]
  simp only [List.take_append_of_le_length hle, List.drop_append_of_le_length hle]

theorem parse_take_of_complete {kind : RequestKind} {data : Bytes} {initial : ResponseInitial}
    {fin : Nat} (hparse : ResponseInitial.parse kind data = .complete initial)
    (hfin : detectResponseLineEnd data = .completeAt fin) :
    detectResponseLineEnd (data.take fin) = .completeAt fin ∧
      ResponseInitial.parse kind (data.take fin) = .complete initial := by
  have hdetect : detectResponseLineEnd (data.take fin) = .completeAt fin := by
    obtain ⟨line, rest, rfl, hline, rfl⟩ := detectResponseLineEnd_eq_completeAt hfin
    have htake : (line ++ CR :: LF :: rest).take (line.length + 2) = line ++ CR :: LF :: [] := by
      rw [List.take_length_add_append]
      rfl
    rw [htake]
    exact detectResponseLineEnd_line hline []
  refine ⟨hdetect, ?_⟩
  have hne : ResponseInitial.parse kind (data.take fin) ≠ .needMore := by
    rw [ResponseInitial.parse_of_completeAt hdetect]
    split_ifs
    · exact ResponseInitial.parseInitialLine_ne_needMore _ _ _
    · simp
  rw [← ResponseInitial.parse_append (data.drop fin) hne, List.take_append_drop, hparse]

theorem scanResponse_line_decides (h : self.Sound max) :
    Decides max expected self.remaining
      (self.scanResponse expected.kind expected.messageId Reading.default) := by
  -- The round that looks for the initial line.
  unfold scanResponse
  rw [if_neg (by decide : ¬ Reading.default.multiline = true)]
  cases hparse : ResponseInitial.parse expected.kind self.remaining with
  | needMore =>
    have hvalidate : self.validateInitialLine expected.kind expected.messageId = .ok none := by
      simp only [validateInitialLine, hparse]
    rw [hvalidate]
    refine ⟨h, ?_, [], List.nil_append _, .line⟩
    simp only [nextResponse, hparse]
  | invalid =>
    have hvalidate : self.validateInitialLine expected.kind expected.messageId =
        .error .invalidInitialLine := by
      simp only [validateInitialLine, hparse]
    rw [hvalidate]
    intro more
    unfold nextResponse
    rw [ResponseInitial.parse_append more (by simp [hparse]), hparse]
  | complete initial =>
    obtain ⟨fin, hfin, -, -⟩ := ResponseInitial.parse_eq_complete hparse
    have hle := le_length_of_completeAt hfin
    have hadvance : (self.advance fin).Sound max :=
      ⟨start_le_advance h.start_le hle, h.maxResponseBytes⟩
    have hnext := nextResponse_of_line hparse hfin max
    rcases validateInitialLine_of_complete hparse hfin with
      ⟨haccepts, hvalidate⟩ | ⟨haccepts, error, hvalidate⟩
    · rw [hvalidate]
      simp only [haccepts, Bool.not_true, Bool.false_eq_true, if_false] at hnext
      by_cases hmultiline : initial.descriptor.framing.isMultiline = true
      · obtain ⟨hlineFin, hlineParse⟩ := parse_take_of_complete hparse hfin
        have hlength : (self.remaining.take fin).length = fin := by
          rw [List.length_take, Nat.min_eq_left hle]
        have hline : ∀ content, nextResponse max expected (self.remaining.take fin ++ content) =
            contentLength max (self.remaining.take fin).length content := by
          intro content
          rw [nextResponse_of_line hlineParse hlineFin, List.take_take, Nat.min_self, haccepts,
            hmultiline, hlength, List.drop_of_length_le hlength.le]
          rfl
        have hscan := scanContent_decides hadvance hline MultilineFramer.fed_default
        rw [List.append_nil, remaining_advance, List.take_append_drop, hlength] at hscan
        simp only [hmultiline, Bool.not_true, Bool.false_eq_true, if_false]
        exact hscan
      · simp only [hmultiline, Bool.not_false, if_true, Bool.false_eq_true, if_false] at hnext ⊢
        exact ⟨hadvance, hle, remaining_advance fin, hnext⟩
    · rw [hvalidate]
      intro more
      rw [hnext, haccepts]
      rfl

theorem scanResponse_decides (h : self.Sound max) {seen : Bytes} {reading : Reading}
    (hseen : Scanned max expected seen reading) :
    Decides max expected (seen ++ self.remaining)
      (self.scanResponse expected.kind expected.messageId reading) := by
  cases hseen with
  | line => exact scanResponse_line_decides h
  | content hline hbody => exact scanContent_decides h hline hbody

theorem Sound.compactIfNeeded (h : self.Sound max) : self.compactIfNeeded.Sound max where
  start_le := start_le_compactIfNeeded h.start_le
  maxResponseBytes := by rw [maxResponseBytes_compactIfNeeded, h.maxResponseBytes]

theorem Sound.append (h : self.Sound max) (bytes : Bytes) :
    { self with buffer := self.buffer ++ bytes }.Sound max where
  start_le := by
    have hstart := h.start_le
    simp only [List.length_append]
    omega
  maxResponseBytes := h.maxResponseBytes

end LoadResponseReader

namespace Connection

/-- What every state between two calls satisfies. -/
structure Ready (max : UInt64) (connection : Connection) : Prop where
  sound : connection.reader.Sound max
  delivers : Delivers connection.socket

/-- What a call must return when the next response takes `length` bytes of the stream, and when
there is none that it may accept. -/
def Returns (max : UInt64) (stream : Bytes) (length : Option Nat)
    (result : Except LoadReadError Nat × Connection) : Prop :=
  match length with
  | none => ∃ error, result.1 = .error error
  | some length =>
    result.1 = .ok length ∧ length ≤ stream.length ∧ result.2.stream = stream.drop length ∧
      result.2.Ready max

theorem readLoop_returns {max : UInt64} {expected : ExpectedResponse} {seen : Bytes}
    {reader : LoadResponseReader} {reading : Reading} {socket : List ReadEvent}
    (hreader : reader.Sound max) (hsocket : Delivers socket)
    (hseen : Scanned max expected seen reading) :
    Returns max (seen ++ stream ⟨reader, socket⟩)
      (nextResponse max expected (seen ++ stream ⟨reader, socket⟩))
      (readLoop expected.kind expected.messageId reader reading socket) := by
  -- Each round of the loop takes one event off the socket and adds its bytes to the remaining ones.
  fun_induction readLoop expected.kind expected.messageId reader reading socket generalizing
    seen with
  | case1 socket reader reading error next reading' hscan =>
    have h := LoadResponseReader.scanResponse_decides hreader hseen
    rw [hscan] at h
    rw [stream, ← List.append_assoc, h]
    exact ⟨error, rfl⟩
  | case2 socket reader reading length next reading' hscan =>
    have h := LoadResponseReader.scanResponse_decides hreader hseen
    rw [hscan] at h
    obtain ⟨hsound, hle, hremaining, hnext⟩ := h
    rw [stream, ← List.append_assoc, hnext]
    refine ⟨rfl, hle.trans (by simp), ?_, hsound, hsocket⟩
    rw [List.drop_append_of_le_length hle, ← hremaining]
    rfl
  | case3 reader reading next reading' hscan =>
    have h := LoadResponseReader.scanResponse_decides hreader hseen
    rw [hscan] at h
    obtain ⟨-, hnext, -⟩ := h
    rw [stream, unread, List.append_nil, hnext]
    exact ⟨_, rfl⟩
  | case4 =>
    obtain ⟨bytes, hdata, -⟩ := hsocket .failed List.mem_cons_self
    exact absurd hdata (by simp)
  | case5 =>
    obtain ⟨bytes, hdata, hne⟩ := hsocket (.data []) List.mem_cons_self
    cases hdata
    exact absurd rfl hne
  | case6 reader reading next reading' hscan =>
    rename_i bytes socket hne ih
    have h := LoadResponseReader.scanResponse_decides hreader hseen
    rw [hscan] at h
    obtain ⟨hsound, -, seen', hsplit, hseen'⟩ := h
    have hrest : Delivers socket := fun event hmem => hsocket event (List.mem_cons_of_mem _ hmem)
    have hstream : seen' ++ stream ⟨{ next.compactIfNeeded with
          buffer := next.compactIfNeeded.buffer ++ bytes }, socket⟩ =
        seen ++ stream ⟨reader, .data bytes :: socket⟩ := by
      rw [stream, stream, LoadResponseReader.remaining_append hsound.compactIfNeeded.start_le,
        LoadResponseReader.remaining_compactIfNeeded, unread, ← List.append_assoc,
        ← List.append_assoc, hsplit, List.append_assoc, List.append_assoc]
    rw [← hstream]
    exact ih (hsound.compactIfNeeded.append bytes) hrest hseen'

theorem readResponse_returns {max : UInt64} {self : Connection} (h : self.Ready max)
    (expected : ExpectedResponse) :
    Returns max self.stream (nextResponse max expected self.stream)
      (self.readResponse expected.kind expected.messageId) :=
  readLoop_returns h.sound h.delivers .line

theorem readAll_eq_splitAll {max : UInt64} {self : Connection} (h : self.Ready max)
    (responses : List ExpectedResponse) : self.readAll responses = splitAll max self.stream
      responses := by
  induction responses generalizing self with
  | nil => rfl
  | cons next more ih =>
    have hcall := readResponse_returns h next
    rw [readAll, splitAll]
    generalize self.readResponse next.kind next.messageId = result at hcall ⊢
    obtain ⟨result, after⟩ := result
    cases hnext : nextResponse max next self.stream with
    | none =>
      rw [hnext] at hcall
      obtain ⟨error, rfl⟩ := hcall
      rfl
    | some length =>
      rw [hnext] at hcall
      obtain ⟨rfl, -, hstream, hready⟩ := hcall
      dsimp only at hstream hready ⊢
      rw [ih hready, hstream]

end Connection

namespace LoadResponseReader

theorem tryConsumeResponse_spec {max : UInt64} {self : LoadResponseReader} (h : self.Sound max)
    (expected : ExpectedResponse) :
    match nextResponse max expected self.remaining with
    | none => ∀ length, (self.tryConsumeResponse expected.kind expected.messageId).1 ≠
        .ok (some length)
    | some length => self.tryConsumeResponse expected.kind expected.messageId =
        (.ok (some length), self.advance length) ∧ length ≤ self.remaining.length := by
  -- `try_consume_response` on all the bytes of a stream.
  cases hparse : ResponseInitial.parse expected.kind self.remaining with
  | needMore => simp [nextResponse, hparse, tryConsumeResponse, validateInitialLine]
  | invalid => simp [nextResponse, hparse, tryConsumeResponse, validateInitialLine]
  | complete initial =>
    obtain ⟨fin, hfin, -, -⟩ := ResponseInitial.parse_eq_complete hparse
    have hle := le_length_of_completeAt hfin
    unfold nextResponse tryConsumeResponse
    rw [hparse, hfin]
    rcases validateInitialLine_of_complete hparse hfin with
      ⟨haccepts, hvalidate⟩ | ⟨haccepts, error, hvalidate⟩
    · simp only [hvalidate, haccepts, Bool.not_true, Bool.false_eq_true, if_false]
      by_cases hmultiline : initial.descriptor.framing.isMultiline = true
      · simp only [hmultiline, if_true, Bool.not_true, Bool.false_eq_true, if_false, contentLength,
          findDotTerminatedBlock_eq hle]
        cases hbounds : bounds (self.remaining.drop fin) with
        | none =>
          intro length
          simp only [Option.map_none, boundedResponseLen_eq]
          split_ifs <;> simp
        | some r =>
          obtain ⟨contentEnd, blockEnd⟩ := r
          obtain ⟨-, hblock⟩ := bounds_spec hbounds
          rw [List.length_drop] at hblock
          simp only [Option.map_some, Option.bind_some, boundedResponseLen_eq, Nat.zero_add,
            h.maxResponseBytes]
          split_ifs with hmax
          · exact ⟨rfl, by omega⟩
          · simp
      · simp [hmultiline, hle]
    · simp [hvalidate, haccepts]

theorem consumeAll_eq_splitAll {max : UInt64} {self : LoadResponseReader} (h : self.Sound max)
    (responses : List ExpectedResponse) :
    self.consumeAll responses = splitAll max self.remaining responses := by
  induction responses generalizing self with
  | nil => rfl
  | cons next more ih =>
    have hcall := tryConsumeResponse_spec h next
    rw [consumeAll, splitAll]
    cases hnext : nextResponse max next self.remaining with
    | none =>
      rw [hnext] at hcall
      dsimp only at hcall ⊢
      split
      · next length after heq => exact absurd (congrArg Prod.fst heq) (hcall length)
      · rfl
    | some length =>
      rw [hnext] at hcall
      obtain ⟨hcall, hle⟩ := hcall
      have hafter : (self.advance length).Sound max :=
        ⟨start_le_advance h.start_le hle, h.maxResponseBytes⟩
      rw [hcall]
      dsimp only
      rw [ih hafter, remaining_advance]

end LoadResponseReader

theorem splitAll_rest {max : UInt64} {stream : Bytes} {responses : List ExpectedResponse}
    {before after : List (Nat × Bytes)} {length : Nat} {rest : Bytes}
    (h : splitAll max stream responses = before ++ (length, rest) :: after) :
    rest = stream.drop ((before.map Prod.fst).sum + length) := by
  induction responses generalizing stream before with
  | nil => simp [splitAll] at h
  | cons next more ih =>
    rw [splitAll] at h
    cases hnext : nextResponse max next stream with
    | none => simp [hnext] at h
    | some first =>
      simp only [hnext] at h
      cases before with
      | nil =>
        cases h
        simp
      | cons entry before =>
        rw [List.cons_append, List.cons.injEq] at h
        obtain ⟨rfl, h⟩ := h
        rw [ih h, List.drop_drop, List.map_cons, List.sum_cons, Nat.add_assoc]

theorem checkContent_complete {framed : FramedResponse} {frame : ResponseFrame}
    (h : checkContent framed = .complete frame) :
    frame.consumed = framed.bytes.length ∧
      frame.statusLine = framed.bytes.take framed.statusLineEnd := by
  unfold checkContent at h
  cases hcontent : validateResponseContent framed.toFrame with
  | none => simp [hcontent] at h
  | some validation =>
    simp only [hcontent, ResponseFrameParse.complete.injEq] at h
    subst h
    exact ⟨rfl, rfl⟩

theorem nextResponse_of_frame {max : UInt64} {expected : ExpectedResponse} {stream : Bytes}
    {frame : ResponseFrame} (hframe : ResponseFrame.parse expected.kind stream = .complete frame)
    (hmax : frame.consumed ≤ max.toNat) (haccepts : expected.accepts frame.statusLine = true) :
    nextResponse max expected stream = some frame.consumed := by
  -- A response that `ResponseFrame::parse` accepts is the next one of the stream.
  rw [ResponseFrame.parse_eq] at hframe
  cases hparse : ResponseInitial.parse expected.kind stream with
  | needMore => simp [oneShot_of_needMore hparse] at hframe
  | invalid => simp [oneShot_of_invalid hparse] at hframe
  | complete initial =>
    obtain ⟨fin, hfin, -, -⟩ := ResponseInitial.parse_eq_complete hparse
    have hle := le_length_of_completeAt hfin
    rw [oneShot_of_complete hparse hfin] at hframe
    unfold oneShotBody at hframe
    unfold nextResponse
    rw [hparse, hfin]
    by_cases hmultiline : initial.descriptor.framing.isMultiline = true
    · simp only [hmultiline, if_true] at hframe ⊢
      cases hbounds : bounds (stream.drop fin) with
      | none => simp [hbounds] at hframe
      | some r =>
        obtain ⟨contentEnd, blockEnd⟩ := r
        obtain ⟨-, hblock⟩ := fin_lt_of_bounds hle hbounds
        simp only [hbounds] at hframe
        obtain ⟨hconsumed, hstatusLine⟩ := checkContent_complete hframe
        rw [List.length_take, Nat.min_eq_left hblock] at hconsumed
        rw [List.take_take, Nat.min_eq_left (Nat.le_add_right _ _)] at hstatusLine
        rw [hconsumed] at hmax ⊢
        simp only [← hstatusLine, haccepts, contentLength, hbounds, Option.bind_some, if_pos hmax]
        rfl
    · simp only [hmultiline, Bool.false_eq_true, if_false] at hframe ⊢
      obtain ⟨hconsumed, hstatusLine⟩ := checkContent_complete hframe
      rw [List.length_take, Nat.min_eq_left hle] at hconsumed
      rw [List.take_take, Nat.min_self] at hstatusLine
      rw [← hstatusLine, haccepts, hconsumed]
      rfl

theorem splitAll_append {max : UInt64} {stream : Bytes} {responses : List ExpectedResponse}
    (hall : (splitAll max stream responses).length = responses.length) (next : ExpectedResponse) :
    splitAll max stream (responses ++ [next]) = splitAll max stream responses ++
      splitAll max (stream.drop ((splitAll max stream responses).map Prod.fst).sum) [next] := by
  induction responses generalizing stream with
  | nil => simp [splitAll]
  | cons first more ih =>
    rw [List.cons_append, splitAll, splitAll]
    rw [splitAll] at hall
    cases hfirst : nextResponse max first stream with
    | none => simp [hfirst] at hall
    | some length =>
      simp only [hfirst, List.length_cons, Nat.add_right_cancel_iff] at hall
      dsimp only
      rw [ih hall, List.map_cons, List.sum_cons, ← List.drop_drop, List.cons_append]

/-- However non-empty reads deliver a stream, successive calls return the same lengths and fail at
the same response as a front-to-back parse of one buffer; a response that `ResponseFrame::parse`
completes, of a length within the maximum and with the expected Message-ID, is returned with the
length it consumes; and each success leaves the stream after its response. -/
theorem read_responses_follow_the_stream (readBufferBytes : Nat) (max : UInt64)
    (reads : List Bytes) (hreads : ∀ read ∈ reads, read ≠ []) (responses : List ExpectedResponse) :
    let start : Connection := ⟨.new readBufferBytes max, reads.map .data⟩
    let whole : LoadResponseReader := { LoadResponseReader.new readBufferBytes max with
      buffer := reads.flatten }
    start.readAll responses = whole.consumeAll responses ∧
    (∀ next frame, (start.readAll responses).length = responses.length →
      ResponseFrame.parse next.kind
        (reads.flatten.drop ((start.readAll responses).map Prod.fst).sum) = .complete frame →
      frame.consumed ≤ max.toNat →
      (∀ id ∈ next.messageId, responseMessageId frame.statusLine = some (asBytes id)) →
      ∃ rest, start.readAll (responses ++ [next]) =
        start.readAll responses ++ [(frame.consumed, rest)]) ∧
    ∀ before length rest after,
      start.readAll responses = before ++ (length, rest) :: after →
      rest = reads.flatten.drop ((before.map Prod.fst).sum + length) := by
  intro start whole
  have hdelivers : Delivers (reads.map .data) := by
    intro event hevent
    obtain ⟨read, hread, rfl⟩ := List.mem_map.mp hevent
    exact ⟨read, rfl, hreads read hread⟩
  have hready : start.Ready max := ⟨⟨le_rfl, rfl⟩, hdelivers⟩
  have hstream : start.stream = reads.flatten := by
    change [] ++ unread (reads.map .data) = reads.flatten
    rw [List.nil_append, unread_map_data]
  have hwhole : whole.Sound max := ⟨Nat.zero_le _, rfl⟩
  have hsplit : ∀ responses, start.readAll responses = splitAll max reads.flatten responses := by
    intro responses
    rw [Connection.readAll_eq_splitAll hready, hstream]
  refine ⟨?_, ?_, ?_⟩
  · rw [hsplit, LoadResponseReader.consumeAll_eq_splitAll hwhole]
    rfl
  · intro next frame hall hframe hmax hid
    have haccepts : next.accepts frame.statusLine = true := by
      unfold ExpectedResponse.accepts
      cases hmessageId : next.messageId with
      | none => rfl
      | some id => exact decide_eq_true (hid id hmessageId)
    rw [hsplit] at hall hframe
    rw [hsplit, hsplit, splitAll_append hall, splitAll, nextResponse_of_frame hframe hmax haccepts]
    exact ⟨_, rfl⟩
  · intro before length rest after h
    rw [hsplit] at h
    exact splitAll_rest h

/-- A body and the farewell behind it, cut inside the body's terminator and inside the next line. -/
theorem body_and_farewell_in_three_reads :
    let reads := [ascii "222 0 <a@b>\r\nx\r", ascii "\n.\r\n205 b", ascii "ye\r\n"]
    let responses : List ExpectedResponse := [⟨.body, some "<a@b>".toList⟩, ⟨.quit, none⟩]
    let start : Connection := ⟨.new 4 64, reads.map .data⟩
    let whole : LoadResponseReader := { LoadResponseReader.new 4 64 with buffer := reads.flatten }
    (∀ read ∈ reads, read ≠ []) ∧
      whole.consumeAll responses = [(19, ascii "205 bye\r\n"), (9, [])] ∧
      start.readAll responses = whole.consumeAll responses := by
  intro reads responses start whole
  have hreads : ∀ read ∈ reads, read ≠ [] := by decide
  have hwhole : whole.consumeAll responses = [(19, ascii "205 bye\r\n"), (9, [])] := by
    decide +kernel
  exact ⟨hreads, hwhole, (read_responses_follow_the_stream 4 64 reads hreads responses).1⟩

end NntpBench.Load
