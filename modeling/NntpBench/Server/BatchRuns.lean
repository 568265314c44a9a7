import Mathlib
import NntpBench.Server.CommandBatches

namespace NntpBench.Server

open Protocol Terminator Writer ExceptBind
open Client.Vectored (vecSink vecSink_accepts)

variable {served : Served} {batch : List CommandLine}

/-- A command of a batch: its line, which the batch holds at its slot. -/
structure BatchEntry (commandLines : CommandLineBatch) where
  line : CommandLine
  slot : Nat
  slot_lt : slot < 2 ^ 16
  held : commandLines.line slot = line.bytes

namespace BatchEntry

variable {commandLines : CommandLineBatch}

def kept (self : BatchEntry commandLines) : KeptCommand where
  line := self.line.bytes
  slot := self.slot
  commandLines := commandLines
  kept := by
    rw [lineSlot_parseCommandLine _ self.slot_lt]
    exact self.held

def command (self : BatchEntry commandLines) : ParsedCommand :=
    parseCommandLine self.line.bytes self.slot

theorem length_lt (self : BatchEntry commandLines) : self.kept.line.length < 2 ^ 16 := by
  have hfits := self.line.fits
  unfold MAX_COMMAND_LINE_BYTES MAX_AUTHINFO_SASL_COMMAND_LINE_BYTES at hfits
  show self.line.bytes.length < 2 ^ 16
  omega

def AsksFor (self : BatchEntry commandLines) (messageId : MessageId) : Prop :=
  self.kept.request.kind = .article ∧ self.kept.request.messageId = some messageId

end BatchEntry

section Refinement

variable {σ : Type} {writer : AsyncWrite UInt8 σ} (h : writer.Accepts) {config : ServerConfig}
  (hdir : config.articleDir = none) (hindex : config.articleIndex = none) (now : Nat)
  {commandLines : CommandLineBatch}

theorem Served.next_closed (hclosed : served.closed = true) (line : CommandLine) :
    served.next config now line = served := by
  rw [Served.next, hclosed, if_pos rfl]

theorem Served.foldl_next_closed (hclosed : served.closed = true)
    (lines : List CommandLine) : lines.foldl (Served.next config now) served = served := by
  induction lines with
  | nil => rfl
  | cons line lines ih => rw [List.foldl_cons, next_closed now hclosed, ih]

theorem Served.next_eq (hopen : served.closed = false) {line : CommandLine} {handled : Handled}
    (hseen : seen (answerLine config now served.sessionState line.bytes) = seen (.ok handled)) :
    served.next config now line =
      ⟨served.stream ++ handled.reply.bytes, handled.memory.sessionState,
        (served.sessionStats.countCommand (RequestLine.parse line.bytes).kind).addBytes
          handled.reply.bytes.length, handled.close⟩ := by
  rw [Served.next, hopen, if_neg Bool.false_ne_true]
  cases hanswer : answerLine config now served.sessionState line.bytes with
  | error error =>
    rw [hanswer] at hseen
    cases hseen
  | ok alone =>
    rw [hanswer] at hseen
    have hparts := Except.ok.inj hseen
    simp only [Prod.mk.injEq] at hparts
    dsimp only
    rw [hparts.1, hparts.2.1, hparts.2.2]

include h hdir hindex in
theorem handleCommand_served (entry : BatchEntry commandLines) (self : SessionRun σ) :
    ∃ close after, handleCommand writer config now entry.command (some commandLines) self =
        .ok (close, after) ∧
      after.served close = (self.served false).next config now entry.line := by
  obtain ⟨handled, hrespond, hwhole⟩ :=
    isWhole_respond hdir hindex now entry.command (some commandLines) self.memory
  have hseen := seen_respond_eq_answerLine hindex now entry.kept entry.slot_lt entry.length_lt
    self.memory
  have hkind : entry.command.kind = (RequestLine.parse entry.line.bytes).kind :=
    kind_parseCommandLine _ _
  rw [show respond config now entry.kept.command (some entry.kept.commandLines) self.memory =
    .ok handled from hrespond] at hseen
  obtain ⟨written, hwrite, hsent⟩ := Reply.write_sent h hwhole
    { self.writer with sessionStats := self.writer.sessionStats.countCommand entry.command.kind }
  refine ⟨handled.close, ⟨written, handled.memory⟩, ?_, ?_⟩
  · simp only [handleCommand, hrespond, ok_bind, hwrite]
  · rw [Served.next_eq now rfl hseen.symm, ← hkind]
    show Served.mk written.stream _ written.sessionStats _ = _
    rw [hsent.stream, hsent.sessionStats]
    rfl

include hdir hindex in
theorem respond_of_asksFor {entry : BatchEntry commandLines} {messageId : MessageId}
    (hasks : entry.AsksFor messageId) (memory : SessionMemory) :
    ∃ handled, respond config now entry.kept.command (some entry.kept.commandLines) memory =
        .ok handled ∧
      handled.reply.bytes = messageIdArticleBytes messageId.value config ∧
      handled.memory.sessionState = memory.sessionState ∧ handled.close = false := by
  -- An ARTICLE command with a message-id is answered with a generated article.
  obtain ⟨hkind, hid⟩ := hasks
  have hretrieval : isRetrieval entry.kept.request.kind = true := by
    rw [hkind]
    rfl
  have herror : articleSelectorError entry.kept.command (some entry.kept.commandLines)
      memory.sessionState config true = none := by
    cases entry.kept.selection hretrieval with
    | current hargs hnumber hnone => simp [hid] at hnone
    | number articleId hargs hnumber hnone => simp [hid] at hnone
    | messageId found hargs hnumber hfound =>
      unfold articleSelectorError
      simp [entry.kept.commandArgs_eq, hargs, hnumber, hindex]
  have hmessageId : (some entry.kept.commandLines).bind (commandMessageId entry.kept.command) =
      some messageId.value := by
    rw [Option.bind_some, entry.kept.commandMessageId_eq, hid]
    rfl
  let header := buildArticleResponseHeaderInto memory.responseBuffer 0 (asBytes messageId.value)
  refine ⟨⟨.article header (config.articlePayloadForHeader header.length),
    { memory with responseBuffer := header }, false⟩, ?_, rfl, rfl, rfl⟩
  unfold respond
  rw [entry.kept.kind_command, hkind]
  dsimp only
  unfold handleArticle
  rw [herror]
  dsimp only
  rw [hmessageId, hdir]
  rfl

include hdir hindex in
theorem Served.next_of_asksFor {entry : BatchEntry commandLines} {messageId : MessageId}
    (hasks : entry.AsksFor messageId) (hopen : served.closed = false) :
    served.next config now entry.line =
      { served with
        stream := served.stream ++ messageIdArticleBytes messageId.value config
        sessionStats := (served.sessionStats.countCommand .article).addBytes
          (messageIdArticleBytes messageId.value config).length } := by
  obtain ⟨handled, hrespond, hbytes, hstate, hclose⟩ :=
    respond_of_asksFor hdir hindex now hasks ⟨served.sessionState, [], []⟩
  have hseen := seen_respond_eq_answerLine hindex now entry.kept entry.slot_lt entry.length_lt
    ⟨served.sessionState, [], []⟩
  rw [hrespond] at hseen
  have hkind : (RequestLine.parse entry.line.bytes).kind = .article := hasks.1
  rw [Served.next_eq now hopen hseen.symm, hbytes, hstate, hclose, hkind, ← hopen]

def SessionStats.countArticles (self : SessionStats) (count bytes : Nat) : SessionStats :=
  { self with
    commands := self.commands + count
    articleRequests := self.articleRequests + count
    bytesSent := self.bytesSent + bytes }

def articlesBytes (config : ServerConfig) (messageIds : List MessageId) : Bytes :=
  messageIds.flatMap fun messageId => messageIdArticleBytes messageId.value config

include hdir hindex in
theorem Served.foldl_of_asksFor {entries : List (BatchEntry commandLines)}
    {messageIds : List MessageId} (hall : List.Forall₂ BatchEntry.AsksFor entries messageIds)
    (hopen : served.closed = false) :
    (entries.map BatchEntry.line).foldl (Served.next config now) served =
      { served with
        stream := served.stream ++ articlesBytes config messageIds
        sessionStats := served.sessionStats.countArticles messageIds.length
          (articlesBytes config messageIds).length } := by
  induction hall generalizing served with
  | nil => simp [articlesBytes, SessionStats.countArticles]
  | @cons entry messageId entries messageIds hasks hall ih =>
    have hnext := Served.next_of_asksFor hdir hindex now hasks hopen
    have hstill : (served.next config now entry.line).closed = false := by rw [hnext, hopen]
    rw [List.map_cons, List.foldl_cons, ih hstill, hnext]
    have hbytes : articlesBytes config (messageId :: messageIds) =
        messageIdArticleBytes messageId.value config ++ articlesBytes config messageIds :=
      List.flatMap_cons
    rw [hbytes, List.length_append, List.length_cons]
    simp only [SessionStats.countArticles, SessionStats.countCommand, SessionStats.addBytes,
      List.append_assoc, Served.mk.injEq, SessionStats.mk.injEq, true_and, and_true]
    simp
    omega

end Refinement

section Collecting

variable (config : ServerConfig) {commandLines : CommandLineBatch}

def messageIdHeader (messageId : MessageId) : Bytes :=
  buildArticleResponseHeaderInto [] 0 (asBytes messageId.value)

def messageIdPayload (messageId : MessageId) : Bytes :=
  config.articlePayloadForHeader (messageIdHeader messageId).length

theorem messageIdArticleBytes_eq (messageId : MessageId) :
    messageIdArticleBytes messageId.value config =
      messageIdHeader messageId ++ messageIdPayload config messageId ++ DOT_TERMINATOR := rfl

theorem appendMessageIdArticleResponseHeader_eq (buffer : Bytes) (messageId : MessageId) :
    appendMessageIdArticleResponseHeader buffer (asBytes messageId.value) =
      buffer ++ messageIdHeader messageId := by
  have hzero : decimalText 0 = ascii "0" := by decide
  simp only [appendMessageIdArticleResponseHeader, messageIdHeader, buildArticleResponseHeaderInto,
    articleStatusLine, hzero, clear]
  simp [ascii]
  rfl

theorem take_length_messageIdPayload (messageId : MessageId) :
    config.articlePayload.take (messageIdPayload config messageId).length =
      messageIdPayload config messageId := by
  unfold messageIdPayload ServerConfig.articlePayloadForHeader preparedPayloadSlice
  cases config.payloadMode with
  | yenc => exact List.take_length
  | plain =>
    dsimp only
    rw [List.length_take, ← List.take_take, List.take_length]

/-- The ranges of some replies, the first of whose headers stands at `offset`. -/
def articleRanges (offset : Nat) : List MessageId → List ArticleRange
  | [] => []
  | messageId :: messageIds =>
    ⟨offset, offset + (messageIdHeader messageId).length,
      (messageIdPayload config messageId).length⟩ ::
      articleRanges (offset + (messageIdHeader messageId).length) messageIds

theorem length_articleRanges (offset : Nat) (messageIds : List MessageId) :
    (articleRanges config offset messageIds).length = messageIds.length := by
  induction messageIds generalizing offset with
  | nil => rfl
  | cons messageId messageIds ih => rw [articleRanges, List.length_cons, List.length_cons, ih]

theorem sum_articleRanges (offset : Nat) (messageIds : List MessageId) :
    ((articleRanges config offset messageIds).map ArticleRange.responseLen).sum =
      (articlesBytes config messageIds).length := by
  induction messageIds generalizing offset with
  | nil => rfl
  | cons messageId messageIds ih =>
    have hbytes : articlesBytes config (messageId :: messageIds) =
        messageIdArticleBytes messageId.value config ++ articlesBytes config messageIds :=
      List.flatMap_cons
    rw [articleRanges, List.map_cons, List.sum_cons, ih, hbytes, List.length_append,
      messageIdArticleBytes_eq, List.length_append, List.length_append, ArticleRange.responseLen]
    dsimp only
    rw [Nat.add_sub_cancel_left]

theorem slices_articleRanges (before : Bytes) (messageIds : List MessageId) :
    (articleRanges config before.length messageIds).map (fun range =>
      ((before ++ messageIds.flatMap messageIdHeader).extract range.headerStart range.headerEnd,
        config.articlePayload.take range.payloadLen)) =
      messageIds.map fun messageId =>
        (messageIdHeader messageId, messageIdPayload config messageId) := by
  induction messageIds generalizing before with
  | nil => rfl
  | cons messageId messageIds ih =>
    have hrest := ih (before ++ messageIdHeader messageId)
    rw [List.length_append, List.append_assoc] at hrest
    rw [articleRanges, List.map_cons, List.map_cons, List.flatMap_cons, hrest]
    congr 2
    · rw [List.extract_eq_take_drop, Nat.add_sub_cancel_left, List.drop_left, List.take_left]
    · exact take_length_messageIdPayload config messageId

theorem collectArticleRanges_cons (entry : BatchEntry commandLines)
    (entries : List (BatchEntry commandLines)) (buffer : Bytes) (ranges : List ArticleRange)
    (batchBytes : Nat) :
    collectArticleRanges config commandLines ((entry :: entries).map BatchEntry.command) buffer
      ranges
        batchBytes = (buffer, ranges) ∨
      ∃ messageId total, entry.AsksFor messageId ∧
        collectArticleRanges config commandLines ((entry :: entries).map BatchEntry.command) buffer
            ranges batchBytes =
          collectArticleRanges config commandLines (entries.map BatchEntry.command)
            (buffer ++ messageIdHeader messageId)
            (ranges ++ articleRanges config buffer.length [messageId]) total := by
  -- One round of the loop: it stops with what it has, or takes the reply of the entry.
  have hkind : entry.command.kind = entry.kept.request.kind := entry.kept.kind_command
  have hid : commandMessageIdBytes entry.command commandLines =
      entry.kept.request.messageId.map fun messageId => asBytes messageId.value :=
    entry.kept.commandMessageIdBytes_eq
  rw [List.map_cons, collectArticleRanges, hkind]
  by_cases harticle : entry.kept.request.kind = .article
  · rw [if_neg (not_not.mpr harticle), hid]
    cases hmessageId : entry.kept.request.messageId with
    | none => exact .inl rfl
    | some messageId =>
      have hlength : (buffer ++ messageIdHeader messageId).length - buffer.length =
          (messageIdHeader messageId).length := by
        rw [List.length_append, Nat.add_sub_cancel_left]
      rw [Option.map_some]
      dsimp only
      rw [appendMessageIdArticleResponseHeader_eq, hlength, List.take_left]
      split_ifs
      · exact .inl rfl
      · rw [List.length_append]
        exact .inr ⟨messageId, _, ⟨harticle, hmessageId⟩, rfl⟩
  · rw [if_pos harticle]
    exact .inl rfl

/-- What the loop collects is the replies of the first entries, which are all ARTICLE commands with
a message-id. -/
theorem collectArticleRanges_spec (entries : List (BatchEntry commandLines)) (buffer : Bytes)
    (ranges : List ArticleRange) (batchBytes : Nat) :
    ∃ (first rest : List (BatchEntry commandLines)) (messageIds : List MessageId),
      entries = first ++ rest ∧ List.Forall₂ BatchEntry.AsksFor first messageIds ∧
      collectArticleRanges config commandLines (entries.map BatchEntry.command) buffer ranges
        batchBytes =
        (buffer ++ messageIds.flatMap messageIdHeader,
          ranges ++ articleRanges config buffer.length messageIds) := by
  induction entries generalizing buffer ranges batchBytes with
  | nil =>
    refine ⟨[], [], [], rfl, .nil, ?_⟩
    simp [collectArticleRanges, articleRanges]
  | cons entry entries ih =>
    rcases collectArticleRanges_cons config entry entries buffer ranges batchBytes with
      hstop | ⟨messageId, total, hasks, hnext⟩
    · refine ⟨[], entry :: entries, [], rfl, .nil, ?_⟩
      rw [hstop]
      simp [articleRanges]
    · obtain ⟨first, rest, messageIds, rfl, hall, hcollect⟩ :=
        ih (buffer ++ messageIdHeader messageId)
          (ranges ++ articleRanges config buffer.length [messageId]) total
      refine ⟨entry :: first, rest, messageId :: messageIds, rfl, .cons hasks hall, ?_⟩
      rw [hnext, hcollect, List.length_append, List.flatMap_cons, List.append_assoc,
        List.append_assoc]
      rfl

end Collecting

section Batching

variable {σ : Type} {writer : AsyncWrite UInt8 σ} (h : writer.Accepts) {config : ServerConfig}
  (hdir : config.articleDir = none) (hindex : config.articleIndex = none) (now : Nat)
  {commandLines : CommandLineBatch}

include h hdir hindex in
/-- A run is answered as its commands would be one by one; or nothing is done but to the buffer. -/
theorem writeBatched_served (entries : List (BatchEntry commandLines)) (self : SessionRun σ) :
    ∃ batched after, writeBatchedMessageIdArticleResponses writer config
        (entries.map BatchEntry.command) commandLines self = .ok (batched, after) ∧
      batched ≤ entries.length ∧
      after.served false =
        ((entries.take batched).map BatchEntry.line).foldl (Served.next config now)
          (self.served false) := by
  unfold writeBatchedMessageIdArticleResponses
  split_ifs with hfew
  · exact ⟨0, self, rfl, Nat.zero_le _, rfl⟩
  · obtain ⟨first, rest, messageIds, hentries, hall, hcollect⟩ := collectArticleRanges_spec config
      (entries.take MAX_BATCHED_ARTICLE_RESPONSES) [] [] 0
    rw [← List.map_take, show clear self.memory.responseBuffer = [] from rfl, hcollect]
    dsimp only
    split_ifs with hshort
    · exact ⟨0, _, rfl, Nat.zero_le _, rfl⟩
    · have hslices := slices_articleRanges config [] messageIds
      have hlength : first.length = messageIds.length := hall.length_eq
      simp only [List.nil_append, List.length_nil] at hslices hshort ⊢
      rw [hslices, sum_articleRanges, length_articleRanges]
      obtain ⟨written, hwritten, hsent⟩ := SessionWriter.writeArticleSlices_sent h
        { self.writer with
          sessionStats := self.writer.sessionStats.countArticles messageIds.length
            (articlesBytes config messageIds).length }
        (messageIds.map fun messageId =>
          (messageIdHeader messageId, messageIdPayload config messageId))
      have hsplit : entries = first ++ (rest ++ entries.drop MAX_BATCHED_ARTICLE_RESPONSES) := by
        rw [← List.append_assoc, ← hentries, List.take_append_drop]
      have hle : first.length ≤ entries.length := by
        rw [hsplit, List.length_append]
        exact Nat.le_add_right _ _
      have htake : entries.take first.length = first := by
        rw [hsplit, List.take_left]
      refine ⟨first.length,
        ⟨written, { self.memory with responseBuffer := messageIds.flatMap messageIdHeader }⟩,
          ?_, hle, ?_⟩
      · rw [SessionStats.countArticles] at hwritten
        rw [hwritten, ok_bind, List.length_map, hlength]
      · rw [htake, Served.foldl_of_asksFor hdir hindex now hall rfl]
        show Served.mk written.stream _ written.sessionStats _ = _
        rw [hsent.stream, hsent.sessionStats, List.flatMap_map]
        rfl

include h hdir hindex in
theorem processCommands_served (entries : List (BatchEntry commandLines)) (self : SessionRun σ) :
    ∃ close after, processCommands writer config now commandLines (entries.map BatchEntry.command)
        self = .ok (close, after) ∧
      after.served close =
        (entries.map BatchEntry.line).foldl (Served.next config now) (self.served false) := by
  -- The loop answers the commands one after another, up to the one that ends the session.
  induction hcount : entries.length using Nat.strong_induction_on generalizing entries self with
  | _ count ih =>
    subst hcount
    cases entries with
    | nil =>
      refine ⟨false, self, ?_, rfl⟩
      rw [List.map_nil, processCommands]
    | cons entry entries =>
      obtain ⟨batched, after, hbatched, hle, hserved⟩ :=
        writeBatched_served h hdir hindex now (entry :: entries) self
      rw [List.map_cons] at hbatched
      rw [List.map_cons, processCommands, hbatched]
      simp only [Except.mapError, ok_bind]
      split_ifs with hsome
      · -- a run: the loop goes on behind it
        have hshorter : ((entry :: entries).drop batched).length < (entry :: entries).length := by
          rw [List.length_drop]
          omega
        obtain ⟨close, last, hrest, hlast⟩ :=
          ih _ hshorter ((entry :: entries).drop batched) after rfl
        refine ⟨close, last, ?_, ?_⟩
        · rw [← hrest, List.map_drop, List.map_cons]
        · rw [hlast, hserved, ← List.foldl_append, ← List.map_append, List.take_append_drop]
      · have hzero : batched = 0 := not_not.mp hsome
        rw [hzero, List.take_zero, List.map_nil, List.foldl_nil] at hserved
        obtain ⟨close, handled, hhandled, hnext⟩ :=
          handleCommand_served h hdir hindex now entry after
        rw [hserved] at hnext
        rw [hhandled, ok_bind, List.map_cons, List.foldl_cons, ← hnext]
        cases close with
        | true =>
          exact ⟨true, handled, rfl, (Served.foldl_next_closed now rfl _).symm⟩
        | false =>
          obtain ⟨close, last, hrest, hlast⟩ := ih _ (Nat.lt_succ_self _) entries handled rfl
          exact ⟨close, last, hrest, hlast⟩

/-- The lines of a batch are parsed with their slots, and the batch keeps them. -/
def batchCommands (batch : List CommandLine) : List ParsedCommand :=
  batch.mapIdx fun slot line => parseCommandLine line.bytes slot

def batchLines (batch : List CommandLine) : CommandLineBatch :=
  .ofLines (batch.map CommandLine.bytes)

def MAX_SERVER_PIPELINE_DEPTH : Nat := 1024

theorem length_batch_le (batch : List CommandLine) :
    (batch.map CommandLine.bytes).flatten.length ≤ batch.length * MAX_COMMAND_LINE_BYTES := by
  induction batch with
  | nil => exact Nat.zero_le _
  | cons line batch ih =>
    have hfits := line.fits
    rw [List.map_cons, List.flatten_cons, List.length_append, List.length_cons, Nat.succ_mul]
    omega

theorem holdsLines_batchLines (hsize : batch.length ≤ MAX_SERVER_PIPELINE_DEPTH) :
    HoldsLines (batchLines batch) (batch.map CommandLine.bytes) := by
  have htotal := length_batch_le batch
  unfold MAX_SERVER_PIPELINE_DEPTH at hsize
  unfold MAX_COMMAND_LINE_BYTES MAX_AUTHINFO_SASL_COMMAND_LINE_BYTES at htotal
  apply holdsLines_ofLines
  · intro line hline
    obtain ⟨command, -, rfl⟩ := List.mem_map.mp hline
    have hfits := command.fits
    unfold MAX_COMMAND_LINE_BYTES MAX_AUTHINFO_SASL_COMMAND_LINE_BYTES at hfits
    omega
  · omega

theorem exists_batchEntries (hsize : batch.length ≤ MAX_SERVER_PIPELINE_DEPTH) :
    ∃ entries : List (BatchEntry (batchLines batch)),
      entries.map BatchEntry.command = batchCommands batch ∧ entries.map BatchEntry.line =
        batch := by
  have hheld := holdsLines_batchLines hsize
  unfold MAX_SERVER_PIPELINE_DEPTH at hsize
  refine ⟨List.ofFn fun slot : Fin batch.length => ⟨batch[slot], slot, by omega, ?_⟩, ?_, ?_⟩
  · apply hheld.line
    simp
  · rw [List.map_ofFn, batchCommands, List.mapIdx_eq_ofFn]
    rfl
  · rw [List.map_ofFn]
    exact List.ofFn_getElem

variable (writer config) in
/-- The batches of a session, until one of them ends it. -/
def processBatches : List (List CommandLine) → SessionRun σ → Except ServerError
    (Bool × SessionRun σ)
  | [], self => .ok (false, self)
  | batch :: batches, self => do
    let (close, self) ←
      processCommandBatch writer config now (batchLines batch) (batchCommands batch) self
    if close then .ok (true, self) else processBatches batches self

include h hdir hindex in
theorem processCommandBatch_served (hsize : batch.length ≤ MAX_SERVER_PIPELINE_DEPTH)
    (self : SessionRun σ) :
    ∃ close after, processCommandBatch writer config now (batchLines batch) (batchCommands batch)
        self = .ok (close, after) ∧
      after.served close = batch.foldl (Served.next config now) (self.served false) ∧
      after.writer.pendingWrite.buf = [] := by
  obtain ⟨entries, hcommands, hlines⟩ := exists_batchEntries hsize
  obtain ⟨close, after, hprocess, hserved⟩ := processCommands_served h hdir hindex now entries self
  obtain ⟨flushed, hflush, hsent, hempty⟩ := SessionWriter.flush_sent h after.writer
  rw [hcommands] at hprocess
  rw [hlines] at hserved
  refine ⟨close, { after with writer := flushed }, ?_, ?_, hempty⟩
  · rw [processCommandBatch, hprocess, ok_bind]
    dsimp only
    rw [hflush]
    rfl
  · rw [← hserved]
    show Served.mk flushed.stream _ flushed.sessionStats _ = _
    rw [hsent.stream, hsent.sessionStats, List.append_nil]
    rfl

include h hdir hindex in
theorem processBatches_served {batches : List (List CommandLine)}
    (hsize : ∀ batch ∈ batches, batch.length ≤ MAX_SERVER_PIPELINE_DEPTH) (self : SessionRun σ) :
    ∃ close after, processBatches writer config now batches self = .ok (close, after) ∧
      after.served close = batches.flatten.foldl (Served.next config now) (self.served false) ∧
      (batches ≠ [] → after.writer.pendingWrite.buf = []) := by
  induction batches generalizing self with
  | nil => exact ⟨false, self, rfl, rfl, fun hne => absurd rfl hne⟩
  | cons batch batches ih =>
    rw [List.forall_mem_cons] at hsize
    obtain ⟨close, after, hbatch, hserved, hempty⟩ :=
      processCommandBatch_served h hdir hindex now hsize.1 self
    rw [processBatches, hbatch, ok_bind, List.flatten_cons, List.foldl_append, ← hserved]
    cases close with
    | true => exact ⟨true, after, rfl, (Served.foldl_next_closed now rfl _).symm, fun _ => hempty⟩
    | false =>
      obtain ⟨close, last, hrest, hlast, hflushed⟩ := ih hsize.2 after
      refine ⟨close, last, hrest, hlast, fun _ => ?_⟩
      by_cases hnil : batches = []
      · subst hnil
        obtain ⟨-, rfl⟩ := Prod.mk.inj (Except.ok.inj hrest)
        exact hempty
      · exact hflushed hnil

end Batching

/-- **How the commands of a session are cut into batches does not show**: the same bytes are
written, the session ends at the same command, in the same state and with the same counters. -/
theorem batches_answer_alike {σ : Type} {writer : AsyncWrite UInt8 σ} (h : writer.Accepts)
    (encodeStream : Bytes → Bytes) (args : ServerArgs) (hdir : args.articleDir = none) (now : Nat)
    (batches batches' : List (List CommandLine)) (hsame : batches.flatten = batches'.flatten)
    (hsize : ∀ batch ∈ batches, 1 ≤ batch.length ∧ batch.length ≤ MAX_SERVER_PIPELINE_DEPTH)
    (hsize' : ∀ batch ∈ batches', 1 ≤ batch.length ∧ batch.length ≤ MAX_SERVER_PIPELINE_DEPTH)
    (self : SessionRun σ) :
    ∃ close after after',
      processBatches writer (.fromBoundArgs encodeStream args) now batches self =
        .ok (close, after) ∧
      processBatches writer (.fromBoundArgs encodeStream args) now batches' self =
        .ok (close, after') ∧
      after.writer.output.delivered = after'.writer.output.delivered ∧
      after.memory.sessionState = after'.memory.sessionState ∧
      after.writer.sessionStats = after'.writer.sessionStats := by
  have hindex : (ServerConfig.fromBoundArgs encodeStream args).articleIndex = none :=
    articleIndex_of_noDir encodeStream hdir
  obtain ⟨close, after, hrun, hserved, hempty⟩ := processBatches_served h hdir hindex now
    (fun batch hbatch => (hsize batch hbatch).2) self
  obtain ⟨close', after', hrun', hserved', hempty'⟩ := processBatches_served h hdir hindex now
    (fun batch hbatch => (hsize' batch hbatch).2) self
  rw [← hsame, ← hserved] at hserved'
  simp only [SessionRun.served, Served.mk.injEq] at hserved'
  obtain ⟨hstream, hstate, hstats, rfl⟩ := hserved'
  refine ⟨_, after, after', hrun, hrun', ?_, hstate.symm, hstats.symm⟩
  -- no batch is empty, so there are no batches on either side or a flush has ended both runs
  have hnone : ∀ list : List (List CommandLine), (∀ batch ∈ list, 1 ≤ batch.length ∧ batch.length ≤
      MAX_SERVER_PIPELINE_DEPTH) → (list = [] ↔ list.flatten = []) := by
    intro list hlist
    refine ⟨fun hnil => by rw [hnil]; rfl, fun hflatten => ?_⟩
    rw [List.flatten_eq_nil_iff] at hflatten
    apply List.eq_nil_iff_forall_not_mem.mpr
    intro batch hbatch
    have hpos := (hlist batch hbatch).1
    rw [hflatten batch hbatch] at hpos
    exact absurd hpos (by decide)
  by_cases hnil : batches = []
  · have hnil' : batches' = [] := by
      rw [hnone batches' hsize', ← hsame, ← hnone batches hsize]
      exact hnil
    subst hnil hnil'
    rw [← (Prod.mk.inj (Except.ok.inj hrun)).2, ← (Prod.mk.inj (Except.ok.inj hrun')).2]
  · have hnil' : batches' ≠ [] := by
      rw [ne_eq, hnone batches' hsize', ← hsame, ← hnone batches hsize]
      exact hnil
    unfold SessionWriter.stream at hstream
    rw [hempty hnil, hempty' hnil', List.append_nil, List.append_nil] at hstream
    exact hstream.symm

def articleAB : CommandLine := ⟨ascii "ARTICLE <a@b>\r\n", by decide⟩

def firstRun : SessionRun Unit := ⟨⟨⟨(), []⟩, .new 4096, ⟨0, 0, 0, 0⟩⟩, .initial⟩

/-- Two ARTICLE commands in one batch or in two. -/
theorem two_articles_answered_alike :
    ∃ close after after',
      processBatches vecSink (.fromBoundArgs id ⟨16, 16, .plain, none, 1⟩) 0
        [[articleAB, articleAB]] firstRun = .ok (close, after) ∧
      processBatches vecSink (.fromBoundArgs id ⟨16, 16, .plain, none, 1⟩) 0
        [[articleAB], [articleAB]] firstRun = .ok (close, after') ∧
      after.writer.output.delivered = after'.writer.output.delivered ∧
      after.memory.sessionState = after'.memory.sessionState ∧
      after.writer.sessionStats = after'.writer.sessionStats :=
  batches_answer_alike vecSink_accepts id ⟨16, 16, .plain, none, 1⟩ rfl 0 [[articleAB, articleAB]]
    [[articleAB], [articleAB]] rfl (by decide) (by decide) firstRun

end NntpBench.Server
