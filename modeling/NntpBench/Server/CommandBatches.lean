import NntpBench.Server.CommandReader
import NntpBench.Server.Leftovers
import NntpBench.Server.PendingWrites

namespace NntpBench.Server

open Protocol Terminator Writer ExceptBind

structure SessionRun (σ : Type) where
  writer : SessionWriter σ
  memory : SessionMemory

def SessionStats.countCommand (self : SessionStats) (kind : RequestKind) : SessionStats :=
  { self with
    commands := self.commands + 1
    articleRequests :=
      self.articleRequests + if kind = .article ∨ kind = .head ∨ kind = .stat then 1 else 0
    bodyRequests := self.bodyRequests + if kind = .body then 1 else 0 }

/-- How much of a stored article is read at once. -/
def FILE_BUFFER_BYTES : Nat := 64 * 1024

section Handling

variable {σ : Type} (writer : AsyncWrite UInt8 σ)

def writeFileChunks (bytes : Bytes) (self : SessionWriter σ) : Except WriteError
    (SessionWriter σ) :=
  if bytes = [] then .ok self
  else do
    let chunk := bytes.take FILE_BUFFER_BYTES
    let output ← writeAll writer chunk self.output
    writeFileChunks (bytes.drop FILE_BUFFER_BYTES)
      { self with output, sessionStats := self.sessionStats.addBytes chunk.length }
termination_by bytes.length
decreasing_by
  have hpos := List.length_pos_of_ne_nil ‹bytes ≠ []›
  rw [List.length_drop, FILE_BUFFER_BYTES]
  omega

/-- The four ways a reply is written. -/
def Reply.write (self : Reply) (session : SessionWriter σ) : Except ServerError (SessionWriter σ) :=
  match self with
  | .response bytes => (writeResponse writer session bytes).mapError .write
  | .article header payload => (writeArticle writer session header payload).mapError .write
  | .stored bytes =>
    (do
      let session ← session.flush writer
      writeResponse writer session bytes).mapError .write
  | .file contents => do
    let written ← (do
      let session ← session.flush writer
      writeFileChunks writer contents.bytes session).mapError ServerError.write
    match contents.readError with
    | some error => .error (.stored (.file error))
    | none => .ok written

variable (config : ServerConfig) (now : Nat)

/-- `handle_command`; the first component says whether the session ends. -/
def handleCommand (command : ParsedCommand) (commandLines : Option CommandLineBatch)
    (self : SessionRun σ) : Except ServerError (Bool × SessionRun σ) := do
  let counted :=
    { self.writer with sessionStats := self.writer.sessionStats.countCommand command.kind }
  let handled ← respond config now command commandLines self.memory
  let written ← handled.reply.write writer counted
  .ok (handled.close, ⟨written, handled.memory⟩)

end Handling

def MAX_BATCHED_ARTICLE_RESPONSES : Nat := 8

def MAX_BATCHED_ARTICLE_RESPONSE_BYTES : Nat := 8 * 1024 * 1024

/-- Where the header of a reply stands in `response_buffer`, and how much of the payload follows it.
-/
structure ArticleRange where
  headerStart : Nat
  headerEnd : Nat
  payloadLen : Nat
  deriving DecidableEq, Repr

def ArticleRange.responseLen (self : ArticleRange) : Nat :=
  (self.headerEnd - self.headerStart) + self.payloadLen + DOT_TERMINATOR.length

def collectArticleRanges (config : ServerConfig) (commandLines : CommandLineBatch) :
    List ParsedCommand → Bytes → List ArticleRange → Nat → Bytes × List ArticleRange
  | [], buffer, ranges, _ => (buffer, ranges)
  | command :: commands, buffer, ranges, batchBytes =>
    if command.kind ≠ .article then (buffer, ranges)
    else
      match commandMessageIdBytes command commandLines with
      | none => (buffer, ranges)
      | some messageId =>
        let extended := appendMessageIdArticleResponseHeader buffer messageId
        let payload := config.articlePayloadForHeader (extended.length - buffer.length)
        let range : ArticleRange := ⟨buffer.length, extended.length, payload.length⟩
        if ranges ≠ [] ∧ batchBytes + range.responseLen > MAX_BATCHED_ARTICLE_RESPONSE_BYTES then
          (extended.take range.headerStart, ranges)
        else
          collectArticleRanges config commandLines commands extended (ranges ++ [range])
            (batchBytes + range.responseLen)

section Batches

variable {σ : Type} (writer : AsyncWrite UInt8 σ) (config : ServerConfig) (now : Nat)

def writeBatchedMessageIdArticleResponses (commands : List ParsedCommand)
    (commandLines : CommandLineBatch) (self : SessionRun σ) :
    Except WriteError (Nat × SessionRun σ) :=
  if commands.length < 2 ∨ config.articleDir.isSome then .ok (0, self)
  else
    let (buffer, ranges) :=
      collectArticleRanges config commandLines (commands.take MAX_BATCHED_ARTICLE_RESPONSES)
        (clear self.memory.responseBuffer) [] 0
    let memory := { self.memory with responseBuffer := buffer }
    if ranges.length < 2 then .ok (0, { self with memory })
    else do
      let stats := self.writer.sessionStats
      let sessionStats :=
        { stats with
          commands := stats.commands + ranges.length
          articleRequests := stats.articleRequests + ranges.length
          bytesSent := stats.bytesSent + (ranges.map ArticleRange.responseLen).sum }
      let articles := ranges.map fun range =>
        (buffer.extract range.headerStart range.headerEnd, config.articlePayload.take
          range.payloadLen)
      let written ← writeArticleSlices writer { self.writer with sessionStats } articles
      .ok (articles.length, { writer := written, memory })

/-- The loop of `process_command_batch`; the first component says whether the session ends. -/
def processCommands (commandLines : CommandLineBatch) (commands : List ParsedCommand)
    (self : SessionRun σ) : Except ServerError (Bool × SessionRun σ) :=
  match commands with
  | [] => .ok (false, self)
  | command :: rest => do
    let (batched, self) ←
      (writeBatchedMessageIdArticleResponses writer config (command :: rest) commandLines
        self).mapError ServerError.write
    if batched ≠ 0 then processCommands commandLines ((command :: rest).drop batched) self
    else do
      let (close, self) ← handleCommand writer config now command (some commandLines) self
      if close then .ok (true, self) else processCommands commandLines rest self
termination_by commands.length
decreasing_by
  · rw [List.length_drop, List.length_cons]
    omega
  · exact Nat.lt_succ_self _

/-- `process_command_batch` with the lines of the batch kept. -/
def processCommandBatch (commandLines : CommandLineBatch) (commands : List ParsedCommand)
    (self : SessionRun σ) : Except ServerError (Bool × SessionRun σ) := do
  let (close, self) ← processCommands writer config now commandLines commands self
  let flushed ← (self.writer.flush writer).mapError ServerError.write
  .ok (close, { self with writer := flushed })

end Batches

/-- A line that the reader's buffer for a command line can hold. -/
structure CommandLine where
  bytes : Bytes
  fits : bytes.length ≤ MAX_COMMAND_LINE_BYTES

/-- What a command does on its own, without the buffers of a session. -/
def answerLine (config : ServerConfig) (now : Nat) (state : SessionState) (line : Bytes) :
    Except ServerError Handled :=
  respond config now (parseCommandLine line 0) (some (.ofLines [line])) ⟨state, [], []⟩

/-- What a session has done. -/
structure Served where
  stream : Bytes
  sessionState : SessionState
  sessionStats : SessionStats
  closed : Bool
  deriving DecidableEq, Repr

/-- The next command of a session; a session that has ended reads no further. -/
def Served.next (config : ServerConfig) (now : Nat) (self : Served) (line : CommandLine) : Served :=
  if self.closed then self
  else
    match answerLine config now self.sessionState line.bytes with
    | .error _ => { self with closed := true }
    | .ok handled =>
      { stream := self.stream ++ handled.reply.bytes
        sessionState := handled.memory.sessionState
        sessionStats :=
          (self.sessionStats.countCommand (RequestLine.parse line.bytes).kind).addBytes
            handled.reply.bytes.length
        closed := handled.close }

def SessionRun.served {σ : Type} (self : SessionRun σ) (closed : Bool) : Served :=
  ⟨self.writer.stream, self.memory.sessionState, self.writer.sessionStats, closed⟩

section OneCommand

variable {config : ServerConfig} (hdir : config.articleDir = none)
  (hindex : config.articleIndex = none)

def Reply.IsWhole : Reply → Prop
  | .file contents => contents.readError = none
  | _ => True

include hdir in
theorem storedArticleReply_of_noDir (kind : RequestKind) (articleId : Option Nat)
    (messageId : Option Str) : storedArticleReply config kind articleId messageId = .ok none := by
  rw [storedArticleReply, hdir]

include hdir in
theorem isWhole_handleRetrieval {command : ParsedCommand} {commandLines : Option CommandLineBatch}
    (memory : SessionMemory) (kind : RequestKind) (first : Bytes)
    (buildMessageId : Bytes → Str → Bytes)
    (buildSelected : Bytes → Nat → Bytes) :
    ∃ handled, handleRetrieval config command commandLines memory kind first buildMessageId
      buildSelected = .ok handled ∧ handled.reply.IsWhole := by
  unfold handleRetrieval
  cases articleSelectorError command commandLines memory.sessionState config true with
  | some response => exact ⟨_, rfl, trivial⟩
  | none =>
    dsimp only
    cases commandLines.bind (commandMessageId command) with
    | some messageId =>
      simp only [storedArticleReply_of_noDir hdir, ok_bind, hdir, Option.isSome_none,
        Bool.false_eq_true, if_false]
      split_ifs
      · exact ⟨_, rfl, trivial⟩
      · exact ⟨_, rfl, trivial⟩
    | none =>
      simp only [storedArticleReply_of_noDir hdir, ok_bind]
      split_ifs
      · exact ⟨_, rfl, trivial⟩
      · exact ⟨_, rfl, trivial⟩

include hdir in
theorem isWhole_handleArticle {command : ParsedCommand} {commandLines : Option CommandLineBatch}
    (memory : SessionMemory) :
    ∃ handled, handleArticle config command commandLines memory = .ok handled ∧
      handled.reply.IsWhole := by
  unfold handleArticle
  cases articleSelectorError command commandLines memory.sessionState config true with
  | some response => exact ⟨_, rfl, trivial⟩
  | none =>
    simp only [hdir, Option.isSome_none, Bool.false_eq_true, if_false]
    cases commandLines.bind (commandMessageId command) with
    | some messageId => exact ⟨_, rfl, trivial⟩
    | none =>
      dsimp only
      split_ifs
      · exact ⟨_, rfl, trivial⟩
      · exact ⟨_, rfl, trivial⟩

include hindex in
theorem isWhole_handleNavigation (memory : SessionMemory) (move : Nat → Option Nat)
    (missing : Bytes)
    (fixtureResponse : Nat → Bytes) :
    ∃ handled, handleNavigation config memory move missing fixtureResponse = .ok handled ∧
      handled.reply.IsWhole := by
  unfold handleNavigation navigateTo
  simp only [hindex]
  repeat' split
  all_goals exact ⟨_, rfl, trivial⟩

include hdir hindex in
theorem isWhole_respond (now : Nat) (command : ParsedCommand)
    (commandLines : Option CommandLineBatch) (memory : SessionMemory) :
    ∃ handled, respond config now command commandLines memory = .ok handled ∧
      handled.reply.IsWhole := by
  unfold respond
  split
  all_goals first
    | exact isWhole_handleArticle hdir memory
    | exact isWhole_handleRetrieval hdir memory _ _ _ _
    | exact isWhole_handleNavigation hindex memory _ _ _
    | exact ⟨_, rfl, trivial⟩
    | refine ⟨_, rfl, ?_⟩
      simp only [handleListVariant, handleGroup, handleListGroup, handleNewGroups, handleNewNews,
        handleOverview, hindex]
      repeat' split
      all_goals trivial

theorem respond_congr (config : ServerConfig) (now : Nat) (memory : SessionMemory)
    {command command' : ParsedCommand} {lines lines' : CommandLineBatch}
    (hcommand : { command with lineSlot := 0 } = { command' with lineSlot := 0 })
    (hargs : commandArgs command (some lines) = commandArgs command' (some lines'))
    (hids : commandMessageId command lines = commandMessageId command' lines') :
    respond config now command (some lines) memory = respond config now command' (some lines')
      memory := by
  obtain ⟨kind, articleId, slot, messageId, syntaxError, base64Error, hasBody, tooLong⟩ := command
  obtain ⟨kind', articleId', slot', messageId', syntaxError', base64Error', hasBody', tooLong'⟩ :=
    command'
  simp only [ParsedCommand.mk.injEq, true_and] at hcommand
  obtain ⟨rfl, rfl, rfl, rfl, rfl, rfl, rfl⟩ := hcommand
  unfold respond handleArticle handleHead handleStat handleBody handleRetrieval handleListVariant
    handleGroup
    handleListGroup handleNewGroups handleNewNews handleOverview articleSelectorError
      overviewSelectorError
    selectedArticleId unknownCommandResponse
  simp only [hargs, hids, Option.bind_some, Option.isNone_some]

include hindex in
theorem seen_respond_eq_answerLine (now : Nat) (kept : KeptCommand) (hslot : kept.slot < 2 ^ 16)
    (hline : kept.line.length < 2 ^ 16) (memory : SessionMemory) :
    seen (respond config now kept.command (some kept.commandLines) memory) =
      seen (answerLine config now memory.sessionState kept.line) := by
  -- Where a command stands in its batch and what the buffers hold does not show.
  have hheld : HoldsLines (.ofLines [kept.line]) [kept.line] := by
    apply holdsLines_ofLines
    · simpa using hline
    · rw [List.flatten_singleton]
      omega
  have hzero : (parseCommandLine kept.line 0).lineSlot = 0 :=
    lineSlot_parseCommandLine _ (by decide)
  let alone : KeptCommand := ⟨kept.line, 0, .ofLines [kept.line], by
    rw [hzero]
    exact hheld.line rfl⟩
  have hsame : respond config now kept.command (some kept.commandLines) memory =
      respond config now alone.command (some alone.commandLines) memory := by
    apply respond_congr
    · show { parseCommandLine kept.line kept.slot with lineSlot := 0 } =
        { parseCommandLine kept.line 0 with lineSlot := 0 }
      rw [parseCommandLine_slot kept.line hslot (by decide : 0 < 2 ^ 16)]
    · rw [kept.commandArgs_eq, alone.commandArgs_eq]
    · rw [kept.commandMessageId_eq, alone.commandMessageId_eq]
      rfl
  rw [hsame]
  exact seen_respond memory.sessionState memory.responseBuffer [] memory.auxResponseBuffer []
    (.inr hindex)

end OneCommand

section Sending

variable {σ : Type} {writer : AsyncWrite UInt8 σ} (h : writer.Accepts)

include h

theorem writeFileChunks_sent (bytes : Bytes) (self : SessionWriter σ)
    (hbuf : self.pendingWrite.buf = []) : ∃ after, writeFileChunks writer bytes self = .ok after ∧
      self.Sent after bytes (self.sessionStats.addBytes bytes.length) := by
  fun_induction writeFileChunks writer bytes self with
  | case1 self => exact ⟨self, rfl, ⟨(List.append_nil _).symm, rfl, rfl⟩⟩
  | case2 bytes self hne chunk ih =>
    obtain ⟨state, hwritten⟩ := delivers_writeAll h chunk self.output
    obtain ⟨after, hrest, hsent⟩ := ih ⟨state, self.output.delivered ++ chunk⟩ hbuf
    refine ⟨after, ?_, ⟨?_, hsent.capacity, ?_⟩⟩
    · rw [hwritten]
      exact hrest
    · have hstream := hsent.stream
      simp only [SessionWriter.stream, hbuf, List.append_nil, List.append_assoc] at hstream ⊢
      rw [hstream, List.take_append_drop]
    · rw [hsent.sessionStats, SessionStats.addBytes_addBytes, ← List.length_append,
        List.take_append_drop]

theorem Reply.write_sent {reply : Reply} (hwhole : reply.IsWhole) (session : SessionWriter σ) :
    ∃ after, reply.write writer session = .ok after ∧
      session.Sent after reply.bytes (session.sessionStats.addBytes reply.bytes.length) := by
  cases reply with
  | response bytes =>
    obtain ⟨after, hwritten, hsent⟩ := SessionWriter.writeResponse_sent h session bytes
    exact ⟨after, by rw [write, hwritten]; rfl, hsent⟩
  | article header payload =>
    obtain ⟨after, hwritten, hsent⟩ := SessionWriter.writeArticle_sent h session header payload
    exact ⟨after, by rw [write, hwritten]; rfl, hsent⟩
  | stored bytes =>
    obtain ⟨flushed, hflush, hfirst, -⟩ := SessionWriter.flush_sent h session
    obtain ⟨after, hwritten, hsecond⟩ := SessionWriter.writeResponse_sent h flushed bytes
    have hsent := hfirst.trans hsecond
    rw [hfirst.sessionStats] at hsent
    exact ⟨after, by rw [write, hflush, ok_bind, hwritten]; rfl, hsent⟩
  | file contents =>
    have hread : contents.readError = none := hwhole
    obtain ⟨flushed, hflush, hfirst, hbuf⟩ := SessionWriter.flush_sent h session
    obtain ⟨after, hwritten, hsecond⟩ := writeFileChunks_sent h contents.bytes flushed hbuf
    have hsent := hfirst.trans hsecond
    rw [hfirst.sessionStats] at hsent
    refine ⟨after, ?_, hsent⟩
    rw [write, hflush, ok_bind, hwritten]
    show (match contents.readError with
      | some error => Except.error (ServerError.stored (.file error))
      | none => Except.ok after) = .ok after
    rw [hread]

end Sending

end NntpBench.Server
