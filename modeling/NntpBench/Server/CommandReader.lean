import NntpBench.ReceiveAll
import NntpBench.Transfer
import NntpBench.Server.ParsedCommand

namespace NntpBench.Server

open Protocol Terminator BufferedResponseReceiver

def MAX_COMMAND_LINE_BYTES : Nat := MAX_AUTHINFO_SASL_COMMAND_LINE_BYTES

def SERVER_READER_CAPACITY : Nat := 8 * 1024

/-- `io::ErrorKind`, as far as the modelled code chooses one. -/
inductive ErrorKind where
  | unexpectedEof
  | invalidData
  | invalidInput
  | other
  deriving DecidableEq, Repr

/-- The kind of each error; a failed read keeps the kind that the socket gave it. -/
def CommandReadError.kind : CommandReadError → ErrorKind
  | .io => .other
  | .truncatedLine => .unexpectedEof
  | .truncatedBody => .unexpectedEof
  | .bodyLineMissingCrlf => .invalidData
  | .bodyLineNotDotStuffed => .invalidData

/-- `tokio::io::BufReader`: the unread part of its buffer, and the socket behind it. -/
structure BufReader where
  buffer : Bytes
  socket : List ReadEvent
  deriving DecidableEq, Repr

namespace BufReader

def new (reads : List Bytes) : BufReader := ⟨[], reads.map .data⟩

def pending (self : BufReader) : Bytes := self.buffer ++ unread self.socket

/-- `fill_buf`: reads into the buffer only when it is empty. -/
def fillBuf (self : BufReader) : Except CommandReadError Unit × BufReader :=
  if self.buffer ≠ [] then (.ok (), self)
  else
    match pollRead SERVER_READER_CAPACITY self.socket with
    | (none, socket) => (.error .io, ⟨[], socket⟩)
    | (some bytes, socket) => (.ok (), ⟨bytes, socket⟩)

def consume (self : BufReader) (count : Nat) : BufReader :=
  { self with buffer := self.buffer.drop count }

@[simp]
theorem pending_fillBuf (self : BufReader) : self.fillBuf.2.pending = self.pending := by
  have hpoll := unread_pollRead SERVER_READER_CAPACITY self.socket
  unfold fillBuf
  split_ifs with hbuffer
  · rfl
  · rw [not_not] at hbuffer
    generalize pollRead SERVER_READER_CAPACITY self.socket = result at hpoll ⊢
    obtain ⟨bytes, socket⟩ := result
    cases bytes with
    | none => simpa [pending, hbuffer] using hpoll
    | some bytes => simpa [pending, hbuffer] using hpoll

theorem pending_of_fillBuf {self filled : BufReader} {result : Except CommandReadError Unit}
    (h : self.fillBuf = (result, filled)) : filled.pending = self.pending := by
  have hpending := self.pending_fillBuf
  rwa [h] at hpending

theorem length_pending_consume (self : BufReader) {count : Nat} (h : count ≤ self.buffer.length) :
    (self.consume count).pending.length + count = self.pending.length := by
  simp only [consume, pending, List.length_append, List.length_drop]
  omega

theorem pending_consume (self : BufReader) {count : Nat} (h : count ≤ self.buffer.length) :
    (self.consume count).pending = self.pending.drop count := by
  rw [consume, pending, pending, List.drop_append_of_le_length h]

/-- A reader whose buffer is within its capacity and whose reads all deliver something. -/
structure Live (reader : BufReader) : Prop where
  buffer_le : reader.buffer.length ≤ SERVER_READER_CAPACITY
  delivers : Delivers reader.socket

theorem Live.new {reads : List Bytes} (h : ∀ read ∈ reads, read ≠ []) :
    (BufReader.new reads).Live where
  buffer_le := Nat.zero_le _
  delivers := by
    intro event hevent
    obtain ⟨read, hread, rfl⟩ := List.mem_map.mp hevent
    exact ⟨read, rfl, h read hread⟩

theorem Live.consume {reader : BufReader} (h : reader.Live) (count : Nat) :
    (reader.consume count).Live where
  buffer_le := by
    have hbuffer := h.buffer_le
    simp only [BufReader.consume, List.length_drop]
    omega
  delivers := h.delivers

theorem fillBuf_of_ne_nil {reader : BufReader} (h : reader.buffer ≠ []) :
    reader.fillBuf = (.ok (), reader) := if_pos h

theorem Live.fillBuf {reader : BufReader} (h : reader.Live) :
    ∃ filled, reader.fillBuf = (.ok (), filled) ∧ filled.Live ∧ filled.pending = reader.pending ∧
      (filled.buffer = [] → filled.pending = []) := by
  -- While bytes are pending, filling the buffer leaves some of them in it.
  by_cases hbuffer : reader.buffer = []
  · by_cases hunread : unread reader.socket = []
    · have hsocket : reader.socket = [] := by
        cases hevents : reader.socket with
        | nil => rfl
        | cons event rest =>
          obtain ⟨bytes, rfl, hne⟩ := h.delivers event (by simp [hevents])
          simp [hevents, unread, hne] at hunread
      have hfill : reader.fillBuf = (.ok (), reader) := by
        obtain ⟨buffer, socket⟩ := reader
        simp only at hbuffer hsocket
        subst hbuffer hsocket
        rfl
      refine ⟨reader, hfill, h, rfl, fun _ => ?_⟩
      rw [pending, hbuffer, hunread, List.append_nil]
    · obtain ⟨chunk, rest, hpoll, hne, hsplit, hrest⟩ :=
        pollRead_spec h.delivers hunread (by decide : 0 < SERVER_READER_CAPACITY)
      have hfill : reader.fillBuf = (.ok (), ⟨chunk, rest⟩) := by
        rw [BufReader.fillBuf, if_neg (not_not.mpr hbuffer), hpoll]
      have hchunk : chunk.length ≤ SERVER_READER_CAPACITY := by
        cases hevents : reader.socket with
        | nil =>
          rw [hevents] at hunread
          exact absurd rfl hunread
        | cons event events =>
          obtain ⟨bytes, rfl, -⟩ := h.delivers event (by simp [hevents])
          rw [hevents, pollRead] at hpoll
          obtain ⟨hbytes, -⟩ := Prod.mk.inj hpoll
          rw [← Option.some.inj hbytes]
          exact List.length_take_le _ _
      exact ⟨⟨chunk, rest⟩, hfill, ⟨hchunk, hrest⟩, pending_of_fillBuf hfill,
        fun hnil => absurd hnil hne⟩
  · exact ⟨reader, fillBuf_of_ne_nil hbuffer, h, rfl, fun hnil => absurd hnil hbuffer⟩

end BufReader

/-- How much of the buffer belongs to the line: up to its first LF, or all of it. -/
def lineTake (available : Bytes) : Nat :=
  ((memchr LF available).map (· + 1)).getD available.length

theorem lineTake_spec {available : Bytes} (h : available ≠ []) :
    0 < lineTake available ∧ lineTake available ≤ available.length := by
  unfold lineTake
  have hpos := List.length_pos_of_ne_nil h
  cases hmem : memchr LF available with
  | none => simpa using hpos
  | some index =>
    obtain ⟨before, after, rfl, rfl, -⟩ := memchr_eq_some_iff.mp hmem
    simp

/-- `read_crlf_line_into`: `line` is what it holds of the line so far, `none` a clean end. -/
def readCrlfLineInto (reader : BufReader) (line : Bytes) :
    Except CommandReadError (Option Bytes) × BufReader :=
  match _hfill : reader.fillBuf with
  | (.error error, reader) => (.error error, reader)
  | (.ok _, filled) =>
    if _hempty : filled.buffer = [] then
      if line = [] then (.ok none, filled) else (.error .truncatedLine, filled)
    else
      let count := lineTake filled.buffer
      if line.length + count > MAX_COMMAND_LINE_BYTES then
        (.ok (some TOO_LONG_LINE), filled.consume count)
      else
        let line := line ++ filled.buffer.take count
        if [LF] <:+ line then (.ok (some line), filled.consume count)
        else readCrlfLineInto (filled.consume count) line
termination_by reader.pending.length
decreasing_by
  have hpending := reader.pending_fillBuf
  obtain ⟨hpos, hle⟩ := lineTake_spec _hempty
  have hlength := filled.length_pending_consume hle
  rw [_hfill] at hpending
  change filled.pending = reader.pending at hpending
  rw [← hpending]
  omega

def readBufferedCrlfLineInto (reader : BufReader) : Option (Bytes × BufReader) :=
  (findCrlfLineEnd reader.buffer 0).map fun take =>
    (if take > MAX_COMMAND_LINE_BYTES then TOO_LONG_LINE else reader.buffer.take take,
      reader.consume take)

def readDotTerminatedBody (reader : BufReader) (state : TakeThisBodyState) :
    Except CommandReadError Unit × BufReader :=
  match _hfill : reader.fillBuf with
  | (.error error, reader) => (.error error, reader)
  | (.ok _, filled) =>
    if _hempty : filled.buffer = [] then (.error .truncatedBody, filled)
    else
      match scanBody state 0 filled.buffer with
      | .complete consumed => (.ok (), filled.consume consumed)
      | .invalid error consumed => (.error error, filled.consume consumed)
      | .incomplete state => readDotTerminatedBody (filled.consume filled.buffer.length) state
termination_by reader.pending.length
decreasing_by
  have hpending := reader.pending_fillBuf
  have hpos := List.length_pos_of_ne_nil _hempty
  have hlength := filled.length_pending_consume (Nat.le_refl filled.buffer.length)
  rw [_hfill] at hpending
  change filled.pending = reader.pending at hpending
  rw [← hpending]
  omega

def shouldReadTransferBody (reader : BufReader) (line : Bytes) (command : ParsedCommand) : Bool :=
  if command.kind = .takeThis || isKnownTransferCommand line (ascii "TAKETHIS") then true
  else if !(command.kind = .post || command.kind = .ihave ||
      isKnownTransferCommand line (ascii "POST") || isKnownTransferCommand line (ascii "IHAVE"))
        then
    false
  else (reader.buffer.takeWhile (· ≠ LF)).contains 58

/-- `CommandBatch` and `CommandLineBatch`: a command's slot is the index of its line. -/
structure Batch where
  commands : List ParsedCommand
  lines : List Bytes
  deriving DecidableEq, Repr

def pushCommand (reader : BufReader) (line : Bytes) (batch : Batch) :
    Except CommandReadError Unit × BufReader × Batch :=
  let lineSlot := batch.commands.length
  let command := parseCommandLine line lineSlot
  let batch := { batch with lines := batch.lines ++ [line] }
  if shouldReadTransferBody reader line command then
    match readDotTerminatedBody reader .lineStart with
    | (.error error, reader) => (.error error, reader, batch)
    | (.ok _, reader) =>
      (.ok (), reader,
        { batch with commands := batch.commands ++ [{ command with hasTransferBody := true }] })
  else (.ok (), reader, { batch with commands := batch.commands ++ [command] })

def readBufferedCommands (slots : Nat) (reader : BufReader) (batch : Batch) :
    Except CommandReadError Unit × BufReader × Batch :=
  match slots with
  | 0 => (.ok (), reader, batch)
  | slots + 1 =>
    match readBufferedCrlfLineInto reader with
    | none => (.ok (), reader, batch)
    | some (line, reader) =>
      match pushCommand reader line batch with
      | (.error error, reader, batch) => (.error error, reader, batch)
      | (.ok _, reader, batch) => readBufferedCommands slots reader batch

def readCommandBatch (reader : BufReader) (maxPipelineDepth : Nat) :
    Except CommandReadError Bool × BufReader × Batch :=
  match readCrlfLineInto reader [] with
  | (.error error, reader) => (.error error, reader, ⟨[], []⟩)
  | (.ok none, reader) => (.ok false, reader, ⟨[], []⟩)
  | (.ok (some line), reader) =>
    match pushCommand reader line ⟨[], []⟩ with
    | (.error error, reader, batch) => (.error error, reader, batch)
    | (.ok _, reader, batch) =>
      match readBufferedCommands (maxPipelineDepth - 1) reader batch with
      | (.error error, reader, batch) => (.error error, reader, batch)
      | (.ok _, reader, batch) => (.ok true, reader, batch)

def nextBatchLineContainsColon (input : Bytes) (start : Nat) : Bool :=
  match getFrom input start with
  | none => false
  | some rest => (rest.take (lineTake rest)).contains 58

def forEachRequestLineFrom (input : Bytes) (slots start : Nat) : List RequestLine × Nat :=
  match slots with
  | 0 => ([], start)
  | slots + 1 =>
    match detectResponseLineEndFrom input start with
    | .needMore => ([], start)
    | .invalid => ([], start)
    | .completeAt fin =>
      let line := input.extract start fin
      let request := RequestLine.parse line
      let visit (start : Nat) : List RequestLine × Nat :=
        let (requests, stop) := forEachRequestLineFrom input slots start
        (request :: requests, stop)
      let takethis := request.kind = .takeThis || isKnownTransferCommand line (ascii "TAKETHIS")
      let postedBody :=
        (request.kind = .post || request.kind = .ihave ||
          isKnownTransferCommand line (ascii "POST") ||
          isKnownTransferCommand line (ascii "IHAVE")) &&
          nextBatchLineContainsColon input fin
      if takethis || postedBody then
        match scanDotTerminatedBody input fin with
        | .complete bodyEnd => visit bodyEnd
        | .incomplete => ([], start)
        | .invalid => ([], start)
      else visit fin

def forEachRequestLineInBatch (input : Bytes) (maxPipelineDepth : Nat) : List RequestLine × Nat :=
  forEachRequestLineFrom input maxPipelineDepth 0

end NntpBench.Server
