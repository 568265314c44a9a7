import NntpBench.Vectored
import NntpBench.Server.Commands

namespace NntpBench.Server

open Protocol Terminator Writer ExceptBind

/-- `PendingWrite`; its `Vec` holds no more than its capacity. -/
structure PendingWrite where
  buf : Bytes
  capacity : Nat
  capacity_pos : 0 < capacity
  buf_le : buf.length ≤ capacity

namespace PendingWrite

def new (capacity : Nat) : PendingWrite where
  buf := []
  capacity := max capacity 1
  capacity_pos := Nat.lt_of_lt_of_le Nat.one_pos (Nat.le_max_right _ _)
  buf_le := Nat.zero_le _

def clear (self : PendingWrite) : PendingWrite :=
  { self with buf := [], buf_le := Nat.zero_le _ }

/-- `Vec::extend_from_slice`: the vector grows if the slice does not fit. -/
def extendFromSlice (self : PendingWrite) (slice : Bytes) : PendingWrite where
  buf := self.buf ++ slice
  capacity := max self.capacity (self.buf.length + slice.length)
  capacity_pos := Nat.lt_of_lt_of_le self.capacity_pos (Nat.le_max_left _ _)
  buf_le := by
    rw [List.length_append]
    exact Nat.le_max_right _ _

variable {σ : Type} (writer : AsyncWrite UInt8 σ) (self : PendingWrite) (response : Bytes)
  (out : Output UInt8 σ)

def flush : Except WriteError (PendingWrite × Output UInt8 σ) :=
  if self.buf.isEmpty then .ok (self, out)
  else do
    let out ← writeAll writer self.buf out
    .ok (self.clear, out)

def writeWithResponse : Except WriteError (PendingWrite × Output UInt8 σ) :=
  if self.buf.isEmpty then do
    let out ← writeAll writer response out
    .ok (self, out)
  else do
    let out ← writeAllVectored writer [self.buf, response] out
    .ok (self.clear, out)

def push : Except WriteError (PendingWrite × Output UInt8 σ) :=
  if response.length > self.capacity then self.writeWithResponse writer response out
  else if self.buf.length + response.length > self.capacity then do
    let (flushed, out) ← self.flush writer out
    .ok (flushed.extendFromSlice response, out)
  else .ok (self.extendFromSlice response, out)

variable {writer} {self response}

theorem clear_of_isEmpty (h : self.buf.isEmpty) : self.clear = self := by
  obtain ⟨buf, capacity, hpos, hle⟩ := self
  rw [List.isEmpty_iff] at h
  subst h
  rfl

theorem capacity_extendFromSlice (h : self.buf.length + response.length ≤ self.capacity) :
    (self.extendFromSlice response).capacity = self.capacity := Nat.max_eq_left h

theorem flush_spec (h : writer.Accepts) (self : PendingWrite) (out : Output UInt8 σ) :
    ∃ state, self.flush writer out = .ok (self.clear, ⟨state, out.delivered ++ self.buf⟩) := by
  unfold flush
  split_ifs with hempty
  · refine ⟨out.state, ?_⟩
    rw [clear_of_isEmpty hempty, List.isEmpty_iff.mp hempty, List.append_nil]
  · obtain ⟨state, hwritten⟩ := delivers_writeAll h self.buf out
    refine ⟨state, ?_⟩
    rw [hwritten]
    rfl

theorem writeWithResponse_spec (h : writer.Accepts) (hne : response ≠ []) (self : PendingWrite)
    (out : Output UInt8 σ) :
    ∃ state, self.writeWithResponse writer response out =
      .ok (self.clear, ⟨state, out.delivered ++ (self.buf ++ response)⟩) := by
  unfold writeWithResponse
  split_ifs with hempty
  · obtain ⟨state, hwritten⟩ := delivers_writeAll h response out
    refine ⟨state, ?_⟩
    rw [hwritten, clear_of_isEmpty hempty, List.isEmpty_iff.mp hempty]
    rfl
  · have hsome : [self.buf, response].flatten = [] → [self.buf, response] = [] := by
      intro hnil
      simp [hne] at hnil
    obtain ⟨state, hwritten⟩ := delivers_writeAllVectored h [self.buf, response] hsome out
    refine ⟨state, ?_⟩
    rw [hwritten]
    simp [ok_bind]

theorem push_spec (h : writer.Accepts) (self : PendingWrite) (response : Bytes)
    (out : Output UInt8 σ) : ∃ after out', self.push writer response out = .ok (after, out') ∧
      out'.delivered ++ after.buf = out.delivered ++ (self.buf ++ response) ∧
      after.capacity = self.capacity := by
  unfold push
  split_ifs with hlarge hfull
  · have hne : response ≠ [] := by
      rintro rfl
      exact absurd hlarge (Nat.not_lt_zero _)
    obtain ⟨state, hwritten⟩ := writeWithResponse_spec h hne self out
    exact ⟨_, _, hwritten, List.append_nil _, rfl⟩
  · obtain ⟨state, hflush⟩ := flush_spec h self out
    refine ⟨_, _, by rw [hflush]; rfl, ?_, ?_⟩
    · exact List.append_assoc _ _ _
    · -- the flushed buffer is empty, and the reply is not larger than it
      apply capacity_extendFromSlice
      show 0 + response.length ≤ self.capacity
      omega
  · exact ⟨_, _, rfl, rfl, capacity_extendFromSlice (by omega)⟩

end PendingWrite

/-- The counters of a session, without the number of its pipelined batches. -/
structure SessionStats where
  commands : Nat
  articleRequests : Nat
  bodyRequests : Nat
  bytesSent : Nat
  deriving DecidableEq, Repr

def SessionStats.addBytes (self : SessionStats) (count : Nat) : SessionStats :=
  { self with bytesSent := self.bytesSent + count }

/-- What `write_response` and its siblings are handed: the writer, the pending writes and the
counters. -/
structure SessionWriter (σ : Type) where
  output : Output UInt8 σ
  pendingWrite : PendingWrite
  sessionStats : SessionStats

/-- Replies up to this length wait in the buffer. -/
def MAX_PENDING_RESPONSE_BYTES : Nat := 4096

section Writing

variable {σ : Type} (writer : AsyncWrite UInt8 σ) (self : SessionWriter σ)

def SessionWriter.flush : Except WriteError (SessionWriter σ) := do
  let (pendingWrite, output) ← self.pendingWrite.flush writer self.output
  .ok { self with pendingWrite, output }

def writeResponse (response : Bytes) : Except WriteError (SessionWriter σ) :=
  let sessionStats := self.sessionStats.addBytes response.length
  let written :=
    if response.length ≤ MAX_PENDING_RESPONSE_BYTES then
      self.pendingWrite.push writer response self.output
    else self.pendingWrite.writeWithResponse writer response self.output
  written.map fun (pendingWrite, output) => { output, pendingWrite, sessionStats }

/-- Headers and payloads of articles behind all that is pending, each article in three slices. -/
def writeArticleSlices (articles : List (Bytes × Bytes)) : Except WriteError (SessionWriter σ) := do
  let (pendingWrite, output) ← self.pendingWrite.flush writer self.output
  let slices := articles.flatMap fun article => [article.1, article.2, DOT_TERMINATOR]
  let output ← writeAllVectored writer slices output
  .ok { self with pendingWrite, output }

/-- `write_message_id_article_response` behind its first two lines: the article is counted and
written. -/
def writeArticle (header payload : Bytes) : Except WriteError (SessionWriter σ) :=
  let sessionStats :=
    self.sessionStats.addBytes (header.length + payload.length + DOT_TERMINATOR.length)
  writeArticleSlices writer { self with sessionStats } [(header, payload)]

/-- `write_message_id_article_response`, which leaves the header in `response_buffer`. -/
def writeMessageIdArticleResponse (responseBuffer : Bytes) (messageId : Str)
    (config : ServerConfig) : Except WriteError (Bytes × SessionWriter σ) := do
  let header := buildArticleResponseHeaderInto responseBuffer 0 (asBytes messageId)
  let payload := config.articlePayloadForHeader header.length
  let written ← writeArticle writer self header payload
  .ok (header, written)

def messageIdArticleBytes (messageId : Str) (config : ServerConfig) : Bytes :=
  let header := buildArticleResponseHeaderInto [] 0 (asBytes messageId)
  header ++ config.articlePayloadForHeader header.length ++ DOT_TERMINATOR

end Writing

namespace SessionWriter

variable {σ : Type} {writer : AsyncWrite UInt8 σ}

/-- All that was written, and behind it what is pending. -/
def stream (self : SessionWriter σ) : Bytes := self.output.delivered ++ self.pendingWrite.buf

/-- `after` is `before` with `response` sent and the counters `stats`; the buffer has not grown. -/
structure Sent (before after : SessionWriter σ) (response : Bytes) (stats : SessionStats) :
    Prop where
  stream : after.stream = before.stream ++ response
  capacity : after.pendingWrite.capacity = before.pendingWrite.capacity
  sessionStats : after.sessionStats = stats

theorem Sent.trans {before middle after : SessionWriter σ} {first second : Bytes}
    {stats stats' : SessionStats} (h : Sent before middle first stats)
    (h' : Sent middle after second stats') : Sent before after (first ++ second) stats' where
  stream := by rw [h'.stream, h.stream, List.append_assoc]
  capacity := h'.capacity.trans h.capacity
  sessionStats := h'.sessionStats

theorem flush_sent (h : writer.Accepts) (self : SessionWriter σ) :
    ∃ after, self.flush writer = .ok after ∧ Sent self after [] self.sessionStats ∧
      after.pendingWrite.buf = [] := by
  obtain ⟨state, hflush⟩ := PendingWrite.flush_spec h self.pendingWrite self.output
  refine ⟨⟨⟨state, self.output.delivered ++ self.pendingWrite.buf⟩, self.pendingWrite.clear,
    self.sessionStats⟩, ?_, ⟨?_, rfl, rfl⟩, rfl⟩
  · rw [flush, hflush]
    rfl
  · show self.output.delivered ++ self.pendingWrite.buf ++ [] = self.stream ++ []
    rfl

theorem writeResponse_sent (h : writer.Accepts) (self : SessionWriter σ) (response : Bytes) :
    ∃ after, writeResponse writer self response = .ok after ∧
      Sent self after response (self.sessionStats.addBytes response.length) := by
  unfold writeResponse
  dsimp only
  split_ifs with hshort
  · obtain ⟨pendingWrite, output, hpush, hstream, hcapacity⟩ :=
      PendingWrite.push_spec h self.pendingWrite response self.output
    rw [hpush]
    refine ⟨_, rfl, ⟨?_, hcapacity, rfl⟩⟩
    show output.delivered ++ pendingWrite.buf = self.stream ++ response
    rw [hstream, stream, List.append_assoc]
  · have hne : response ≠ [] := by
      rintro rfl
      exact hshort (Nat.zero_le _)
    obtain ⟨state, hwritten⟩ :=
      PendingWrite.writeWithResponse_spec h hne self.pendingWrite self.output
    rw [hwritten]
    refine ⟨_, rfl, ⟨?_, rfl, rfl⟩⟩
    show self.output.delivered ++ (self.pendingWrite.buf ++ response) ++ [] = self.stream ++
      response
    rw [List.append_nil, stream, List.append_assoc]

theorem writeArticleSlices_sent (h : writer.Accepts) (self : SessionWriter σ)
    (articles : List (Bytes × Bytes)) :
    ∃ after, writeArticleSlices writer self articles = .ok after ∧
      Sent self after (articles.flatMap fun article => article.1 ++ article.2 ++ DOT_TERMINATOR)
        self.sessionStats := by
  generalize hslices : (articles.flatMap fun article => [article.1, article.2, DOT_TERMINATOR]) =
    slices
  have hflatten : slices.flatten =
      articles.flatMap fun article => article.1 ++ article.2 ++ DOT_TERMINATOR := by
    rw [← hslices]
    simp [List.flatMap, List.flatten_flatten, Function.comp_def]
  have hsome : slices.flatten = [] → slices = [] := by
    intro hnil
    rw [hflatten, List.flatMap_eq_nil_iff] at hnil
    have hnone : articles = [] := by
      cases articles with
      | nil => rfl
      | cons article articles =>
        have hdot := hnil article (by simp)
        simp [dot_terminator_eq] at hdot
    rw [← hslices, hnone]
    rfl
  obtain ⟨state, hflush⟩ := PendingWrite.flush_spec h self.pendingWrite self.output
  obtain ⟨last, hwritten⟩ := delivers_writeAllVectored h slices hsome
    ⟨state, self.output.delivered ++ self.pendingWrite.buf⟩
  refine ⟨⟨⟨last, self.stream ++ slices.flatten⟩, self.pendingWrite.clear, self.sessionStats⟩, ?_,
    ⟨?_, rfl, rfl⟩⟩
  · simp only [writeArticleSlices, hflush, ok_bind, hslices, hwritten]
    rfl
  · show self.stream ++ slices.flatten ++ [] = _
    rw [List.append_nil, hflatten]

theorem writeArticle_sent (h : writer.Accepts) (self : SessionWriter σ) (header payload : Bytes) :
    ∃ after, writeArticle writer self header payload = .ok after ∧
      Sent self after (header ++ payload ++ DOT_TERMINATOR)
        (self.sessionStats.addBytes (header ++ payload ++ DOT_TERMINATOR).length) := by
  obtain ⟨after, hwritten, hsent⟩ := writeArticleSlices_sent h { self with
    sessionStats :=
      self.sessionStats.addBytes (header.length + payload.length + DOT_TERMINATOR.length) }
    [(header, payload)]
  refine ⟨after, hwritten, ⟨?_, hsent.capacity, ?_⟩⟩
  · rw [hsent.stream, List.flatMap_singleton]
    rfl
  · rw [hsent.sessionStats, List.length_append, List.length_append]

theorem writeMessageIdArticleResponse_sent (h : writer.Accepts) (self : SessionWriter σ)
    (responseBuffer : Bytes) (messageId : Str) (config : ServerConfig) :
    ∃ after, writeMessageIdArticleResponse writer self responseBuffer messageId config =
        .ok (buildArticleResponseHeaderInto [] 0 (asBytes messageId), after) ∧
      Sent self after (messageIdArticleBytes messageId config)
        (self.sessionStats.addBytes (messageIdArticleBytes messageId config).length) := by
  have hheader : buildArticleResponseHeaderInto responseBuffer 0 (asBytes messageId) =
      buildArticleResponseHeaderInto [] 0 (asBytes messageId) := rfl
  unfold writeMessageIdArticleResponse messageIdArticleBytes
  rw [hheader]
  generalize buildArticleResponseHeaderInto [] 0 (asBytes messageId) = header
  dsimp only
  obtain ⟨after, hwritten, hsent⟩ :=
    writeArticle_sent h self header (config.articlePayloadForHeader header.length)
  exact ⟨after, by rw [hwritten]; rfl, hsent⟩

end SessionWriter

inductive WriteCall where
  | response (bytes : Bytes)
  | messageIdArticle (messageId : MessageId) (config : ServerConfig)
  | flush

def WriteCall.bytes : WriteCall → Bytes
  | .response bytes => bytes
  | .messageIdArticle messageId config => messageIdArticleBytes messageId.value config
  | .flush => []

variable {σ : Type} (writer : AsyncWrite UInt8 σ)

def WriteCall.run (state : Bytes × SessionWriter σ) :
    WriteCall → Except WriteError (Bytes × SessionWriter σ)
  | .response bytes => (writeResponse writer state.2 bytes).map fun after => (state.1, after)
  | .messageIdArticle messageId config =>
    writeMessageIdArticleResponse writer state.2 state.1 messageId.value config
  | .flush => (state.2.flush writer).map fun after => (state.1, after)

variable {writer}

theorem SessionStats.addBytes_addBytes (self : SessionStats) (first second : Nat) :
    (self.addBytes first).addBytes second = self.addBytes (first + second) := by
  simp [addBytes, Nat.add_assoc]

theorem WriteCall.run_sent (h : writer.Accepts) (call : WriteCall)
    (state : Bytes × SessionWriter σ) : ∃ after, call.run writer state = .ok after ∧
      state.2.Sent after.2 call.bytes (state.2.sessionStats.addBytes call.bytes.length) := by
  cases call with
  | response bytes =>
    obtain ⟨after, hwritten, hsent⟩ := SessionWriter.writeResponse_sent h state.2 bytes
    exact ⟨(state.1, after), by rw [run, hwritten]; rfl, hsent⟩
  | messageIdArticle messageId config =>
    obtain ⟨after, hwritten, hsent⟩ := SessionWriter.writeMessageIdArticleResponse_sent h state.2
      state.1 messageId.value config
    exact ⟨_, hwritten, hsent⟩
  | flush =>
    obtain ⟨after, hwritten, hsent, -⟩ := SessionWriter.flush_sent h state.2
    exact ⟨(state.1, after), by rw [run, hwritten]; rfl, hsent⟩

/-- **Whatever the writer takes at each call, all replies go out in order**: what it has received
and what is pending is the concatenation of the replies, the buffer stays within the capacity it
had, and the counter has grown by their lengths. -/
theorem pending_writes_keep_order (h : writer.Accepts) (calls : List WriteCall)
    (responseBuffer : Bytes)
    (session : SessionWriter σ) :
    ∃ after, calls.foldlM (fun state call => call.run writer state) (responseBuffer, session) =
        .ok after ∧
      after.2.output.delivered ++ after.2.pendingWrite.buf =
        session.output.delivered ++ session.pendingWrite.buf ++ calls.flatMap WriteCall.bytes ∧
      after.2.pendingWrite.capacity = session.pendingWrite.capacity ∧
      after.2.pendingWrite.buf.length ≤ session.pendingWrite.capacity ∧
      after.2.sessionStats =
        { session.sessionStats with
          bytesSent := session.sessionStats.bytesSent + (calls.flatMap WriteCall.bytes).length
            } := by
  have hrun : ∀ state : Bytes × SessionWriter σ,
      ∃ after, calls.foldlM (fun state call => call.run writer state) state = .ok after ∧
        state.2.Sent after.2 (calls.flatMap WriteCall.bytes)
          (state.2.sessionStats.addBytes (calls.flatMap WriteCall.bytes).length) := by
    induction calls with
    | nil => exact fun state => ⟨state, rfl, ⟨(List.append_nil _).symm, rfl, rfl⟩⟩
    | cons call calls ih =>
      intro state
      obtain ⟨middle, hcall, hfirst⟩ := call.run_sent h state
      obtain ⟨after, hcalls, hrest⟩ := ih middle
      refine ⟨after, ?_, ?_⟩
      · rw [List.foldlM_cons, hcall]
        exact hcalls
      · have hsent := hfirst.trans hrest
        rw [hfirst.sessionStats, SessionStats.addBytes_addBytes, ← List.length_append] at hsent
        exact hsent
  obtain ⟨after, hcalls, hsent⟩ := hrun (responseBuffer, session)
  refine ⟨after, hcalls, hsent.stream, hsent.capacity, ?_, hsent.sessionStats⟩
  rw [← show after.2.pendingWrite.capacity = session.pendingWrite.capacity from hsent.capacity]
  exact after.2.pendingWrite.buf_le

def threeByteSink : AsyncWrite UInt8 Unit where
  pollWrite _ buf := (min 3 buf.length, ())
  pollWriteVectored _ slices := (min 3 slices.flatten.length, ())

/-- A reply that waits, one that does not fit behind it and one that goes past the buffer, which
takes five calls of the writer. -/
theorem three_replies_keep_order :
    ∃ after, [ascii "200 a\r\n", ascii "b\r\n", ascii "a longer line\r\n"].foldlM
        (fun state bytes => (WriteCall.response bytes).run threeByteSink state)
        (([], ⟨⟨(), []⟩, .new 8, ⟨0, 0, 0, 0⟩⟩) : Bytes × SessionWriter Unit) = .ok after ∧
      after.2.output.delivered ++ after.2.pendingWrite.buf =
        ascii "200 a\r\nb\r\na longer line\r\n" ∧
      after.2.sessionStats.bytesSent = 25 := by
  have haccepts : threeByteSink.Accepts := by
    refine ⟨?_, fun _ _ => Nat.min_le_right .., ?_, fun _ _ => Nat.min_le_right ..⟩
    · exact fun _ _ hne => Nat.lt_min.mpr ⟨by decide, List.length_pos_iff.mpr hne⟩
    · exact fun _ _ hne => Nat.lt_min.mpr ⟨by decide, List.length_pos_iff.mpr hne⟩
  obtain ⟨after, hcalls, hstream, -, -, hstats⟩ := pending_writes_keep_order haccepts
    ([ascii "200 a\r\n", ascii "b\r\n", ascii "a longer line\r\n"].map WriteCall.response) []
    (⟨⟨(), []⟩, .new 8, ⟨0, 0, 0, 0⟩⟩ : SessionWriter Unit)
  refine ⟨after, ?_, ?_, ?_⟩
  · rw [← hcalls, List.foldlM_map]
  · rw [hstream]
    decide
  · rw [hstats]
    decide

end NntpBench.Server
