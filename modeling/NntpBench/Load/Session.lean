import NntpBench.Lib.Transitions
import NntpBench.Load.Workload

namespace NntpBench.Load

open Protocol Terminator BufferedResponseReceiver

variable {count : Nat}

def DURATION_MAX_NANOS : Nat := 2 ^ 64 * 10 ^ 9 - 1

def INSTANT_MAX_NANOS : Nat := 2 ^ 63 * 10 ^ 9 - 1

/-- Instants and durations are in nanoseconds. -/
structure OfferedLoadSchedule where
  started : Nat
  interval : Nat
  interval_pos : 0 < interval
  deriving DecidableEq, Repr

namespace OfferedLoadSchedule

def deadline (self : OfferedLoadSchedule) (requestIndex : UInt64) : Nat :=
  let delay := min (self.interval * (requestIndex.toNat % 2 ^ 32)) DURATION_MAX_NANOS
  if self.started + delay ≤ INSTANT_MAX_NANOS then self.started + delay else self.started

def dueCount (self : OfferedLoadSchedule) (now : Nat) : Nat :=
  if now < self.started then 0
  else min ((now - self.started) / self.interval + 1) (2 ^ 64 - 1)

/-- The clock behind the sleep of `issue_load_batch`, which takes as long as the first request has
until it is due, or `late` longer. -/
def wake (self : OfferedLoadSchedule) (issued : UInt64) (arrived late : Nat) : Nat :=
  if arrived ≤ self.deadline issued then arrived + (self.deadline issued - arrived) + late
  else arrived + late

end OfferedLoadSchedule

def saturatingAdd (left : UInt64) (right : Nat) : UInt64 := .ofNat
    (min (left.toNat + right) (2 ^ 64 - 1))

/-- The fields of a `LoadSession` that the loop reads; `schedule` is made from `offered_rate`. -/
structure LoadSession where
  segments : Option SegmentSet
  clientIndex : UInt64
  totalClients : UInt64
  requests : Option UInt64
  transferBytes : UInt64
  nextId : UInt64
  workloadPolicy : LoadWorkloadPolicy
  verificationPolicy : LoadVerificationPolicy
  schedule : Option OfferedLoadSchedule
  pipelineDepth : Nat
  commandMix : ClientCommandMix

structure LoadSessionOutcome where
  timedOutConnections : Nat := 0
  drainedRequests : Nat := 0
  incompleteRequests : Nat := 0
  scheduledRequests : Nat := 0
  issuedRequests : Nat := 0
  completedRequests : Nat := 0
  missedIssueDeadlines : Nat := 0
  peakBacklog : Nat := 0
  deriving DecidableEq, Repr

structure SessionStats where
  commands : Nat := 0
  articleRequests : Nat := 0
  bodyRequests : Nat := 0
  deriving DecidableEq, Repr

structure Stats where
  commands : Nat := 0
  articleRequests : Nat := 0
  bodyRequests : Nat := 0
  bytesSent : Nat := 0
  pipelineBatches : Nat := 0
  deriving DecidableEq, Repr

/-- The locals of `run_inner`, the bytes written to the stream, whether the session has set the stop
flag, and with which kind and message-id each response was read. -/
structure LoadState where
  connection : Connection
  written : Bytes := []
  stop : Bool := false
  issued : UInt64 := 0
  received : UInt64 := 0
  inFlight : Nat := 0
  issuedTimes : List Nat := []
  outcome : LoadSessionOutcome := {}
  sessionStats : SessionStats := {}
  stats : Stats := {}
  reads : List (RequestKind × Option MessageId) := []

inductive LoadExit where
  | finished
  | timedOut
  | failed (error : LoadError)
  deriving DecidableEq, Repr

def LOAD_STATS_FLUSH_COMMANDS : Nat := 1024

def flushLoadSessionStats (s : LoadState) : LoadState :=
  if s.sessionStats.commands = 0 then s
  else
    { s with
      stats :=
        { s.stats with
          commands := s.stats.commands + s.sessionStats.commands
          articleRequests := s.stats.articleRequests + s.sessionStats.articleRequests
          bodyRequests := s.stats.bodyRequests + s.sessionStats.bodyRequests }
      sessionStats := {} }

def timeoutOutcome (s : LoadState) : LoadState :=
  { s with outcome :=
    { s.outcome with timedOutConnections := 1, incompleteRequests := s.inFlight } }

inductive WriteEnd where
  | completed
  | failed
  | timedOut
  deriving DecidableEq, Repr

/-- What the environment does while a batch is issued. `stop` and `bytesSent` are loaded in each
round of the loop, and `delivered` bytes are out when a write does not complete. The clock is read
in front of the sleep and behind the write; `late` is what the sleep takes too long, and `writing`
what the write takes. -/
structure BatchInput where
  stop : Nat → Bool
  bytesSent : Nat → UInt64
  write : WriteEnd
  delivered : Nat
  timedOut : Bool
  arrived : Nat
  late : Nat
  writing : Nat

/-- What the environment does in a round of the session's loop. What the environment answers: the
loads of the shared stop flag and byte counter, the clock, and how writes and time limits end. -/
structure RoundInput where
  first : BatchInput
  responseTimedOut : Bool
  wasDraining : Bool
  bytesSent : UInt64
  refill : BatchInput

namespace LoadSession

def syntheticId (self : LoadSession) (requestIndex : UInt64) : UInt64 :=
  syntheticRequestId self.nextId self.clientIndex requestIndex self.totalClients self.workloadPolicy

def expectedMessageId (self : LoadSession) (commandId requestIndex : UInt64) :
    Except LoadError (Option MessageId) :=
  if !self.verificationPolicy.verifies requestIndex then .ok none
  else
    (requestMessageIdForCommand (clientCommandKind commandId self.commandMix)
      (self.syntheticId requestIndex) requestIndex self.segments self.clientIndex
      self.totalClients).map some

def transferLimitReached (self : LoadSession) (bytesSent : UInt64) : Bool :=
  self.transferBytes ≠ 0 && self.transferBytes ≤ bytesSent

def workloadRequest (self : LoadSession) (requestIndex : UInt64) : LoadWorkloadRequest where
  commandId := self.nextId + requestIndex
  syntheticId := self.syntheticId requestIndex
  requestIndex := requestIndex
  mix := self.commandMix
  segments := self.segments
  clientIndex := self.clientIndex
  totalClients := self.totalClients

/-- The `while` loop of `write_load_batch`, with `slots` requests left until its capacity. -/
def fillRequests (self : LoadSession) (s : LoadState) (input : BatchInput) (slots filled : Nat)
    (buffer : Bytes) : Except LoadError (Nat × Bytes) :=
  match slots with
  | 0 => .ok (filled, buffer)
  | slots + 1 =>
    if !(s.stop || input.stop filled) &&
        (self.requests.all fun requests => s.issued + .ofNat filled < requests) &&
        !self.transferLimitReached (input.bytesSent filled) then
      match appendLoadWorkloadRequest buffer (self.workloadRequest (s.issued + .ofNat filled)) with
      | .error error => .error error
      | .ok buffer => self.fillRequests s input slots (filled + 1) buffer
    else .ok (filled, buffer)

def writeLoadBatch (self : LoadSession) (capacity : Nat) (input : BatchInput) (s : LoadState) :
    Except LoadError Nat × LoadState :=
  match self.fillRequests s input capacity 0 [] with
  | .error error => (.error error, s)
  | .ok (filled, buffer) =>
    if filled = 0 then (.ok 0, s)
    else
      let partly := { s with written := s.written ++ buffer.take input.delivered }
      match input.write with
      | .failed => (.error .writeFailed, partly)
      | .timedOut => (.error .writeTimedOut, partly)
      | .completed =>
        (.ok filled, { s with
          written := s.written ++ buffer
          stats := { s.stats with pipelineBatches := s.stats.pipelineBatches + 1 } })

/-- The `for` loop of `issue_load_batch` over the requests of a batch, and the backlog after it. -/
def recordIssues (schedule : OfferedLoadSchedule) (issued : UInt64) (filled now : Nat)
    (outcome : LoadSessionOutcome) : LoadSessionOutcome :=
  let outcome := (List.range filled).foldl (fun outcome index =>
    let delay := now - schedule.deadline (saturatingAdd issued index)
    { outcome with
      scheduledRequests := outcome.scheduledRequests + 1
      issuedRequests := outcome.issuedRequests + 1
      missedIssueDeadlines := outcome.missedIssueDeadlines + if delay ≠ 0 then 1 else 0 }) outcome
  let backlog := schedule.dueCount now - (saturatingAdd issued filled).toNat
  { outcome with peakBacklog := max outcome.peakBacklog backlog }

def issueLoadBatch (self : LoadSession) (capacity : Nat) (input : BatchInput) (s : LoadState) :
    Except LoadError Nat × LoadState :=
  match self.writeLoadBatch capacity input s with
  | (.error error, s) => (.error error, s)
  | (.ok filled, s) =>
    match self.schedule with
    | none => (.ok filled, s)
    | some schedule =>
      let actualIssue := schedule.wake s.issued input.arrived input.late + input.writing
      (.ok filled, { s with
        outcome := recordIssues schedule s.issued filled actualIssue s.outcome
        issuedTimes := s.issuedTimes ++ List.replicate filled actualIssue })

/-- The state when the time limit of a batch drops it, in the sleep or in the write. -/
def cancelLoadBatch (self : LoadSession) (capacity : Nat) (input : BatchInput) (s : LoadState) :
    LoadState :=
  match self.fillRequests s input capacity 0 [] with
  | .error _ => s
  | .ok (_, buffer) => { s with written := s.written ++ buffer.take input.delivered }

/-- A batch under `time::timeout(self.drain_timeout, ..)`. -/
def timedLoadBatch (self : LoadSession) (capacity : Nat) (input : BatchInput) (s : LoadState) :
    Except LoadExit Nat × LoadState :=
  if input.timedOut then (.error .timedOut, timeoutOutcome (self.cancelLoadBatch capacity input s))
  else
    match self.issueLoadBatch capacity input s with
    | (.error error, s) => (.error (.failed error), s)
    | (.ok filled, s) => (.ok filled, s)

def issueWhenIdle (self : LoadSession) (input : BatchInput) (s : LoadState) :
    Except LoadExit Unit × LoadState :=
  if s.inFlight = 0 then
    match self.timedLoadBatch self.pipelineDepth input s with
    | (.error exit, s) => (.error exit, s)
    | (.ok filled, s) =>
      let inFlight := s.inFlight + filled
      (.ok (), { s with inFlight, issued := s.issued + .ofNat inFlight })
  else (.ok (), s)

def countResponse (self : LoadSession) (commandId : UInt64) (responseLen : Nat) (input : RoundInput)
    (s : LoadState) : LoadState :=
  let wasDraining := s.stop || input.wasDraining
  let outcome :=
    if self.schedule.isSome then
      { s.outcome with completedRequests := s.outcome.completedRequests + 1 }
    else s.outcome
  let outcome :=
    if wasDraining then { outcome with drainedRequests := outcome.drainedRequests + 1 } else outcome
  let sessionStats := { s.sessionStats with commands := s.sessionStats.commands + 1 }
  let sessionStats :=
    match (clientCommandKind commandId self.commandMix).val with
    | .article => { sessionStats with articleRequests := sessionStats.articleRequests + 1 }
    | .body => { sessionStats with bodyRequests := sessionStats.bodyRequests + 1 }
    | _ => sessionStats
  let s :=
    { s with
      outcome
      sessionStats
      received := s.received + 1
      inFlight := s.inFlight - 1
      issuedTimes := if self.schedule.isSome then s.issuedTimes.tail else s.issuedTimes
      stats := { s.stats with bytesSent := s.stats.bytesSent + responseLen } }
  let s :=
    if s.sessionStats.commands ≥ LOAD_STATS_FLUSH_COMMANDS then flushLoadSessionStats s else s
  { s with stop := s.stop || self.transferLimitReached input.bytesSent }

def receive (self : LoadSession) (input : RoundInput) (s : LoadState) :
    Except LoadExit Unit × LoadState :=
  let commandId := self.nextId + s.received
  let requestKind := requestKindForClientCommand commandId self.commandMix
  match self.expectedMessageId commandId s.received with
  | .error error => (.error (.failed error), s)
  | .ok expectedMessageId =>
    let s := { s with reads := s.reads ++ [(requestKind, expectedMessageId)] }
    if input.responseTimedOut then (.error .timedOut, timeoutOutcome s)
    else
      match s.connection.readResponse requestKind (expectedMessageId.map (·.value)) with
      | (.error error, connection) => (.error (.failed (.read error)), { s with connection })
      | (.ok responseLen, connection) =>
        (.ok (), self.countResponse commandId responseLen input { s with connection })

def refill (self : LoadSession) (input : BatchInput) (s : LoadState) :
    Except LoadExit Unit × LoadState :=
  if s.inFlight ≤ self.pipelineDepth / 2 then
    match self.timedLoadBatch (self.pipelineDepth - s.inFlight) input s with
    | (.error exit, s) => (.error exit, s)
    | (.ok filled, s) =>
      (.ok (), { s with issued := s.issued + .ofNat filled, inFlight := s.inFlight + filled })
  else (.ok (), s)

/-- One round of the loop, from one loop head to the next or to the end of the session. -/
def round (self : LoadSession) (input : RoundInput) (s : LoadState) :
    Except LoadExit Unit × LoadState :=
  match self.issueWhenIdle input.first s with
  | (.error exit, s) => (.error exit, s)
  | (.ok _, s) =>
    if s.inFlight = 0 then (.error .finished, flushLoadSessionStats s)
    else
      match self.receive input s with
      | (.error exit, s) => (.error exit, s)
      | (.ok _, s) => self.refill input.refill s

/-- The state at the first loop head, on a connection whose greeting has been read. -/
def Starts (s : LoadState) : Prop := ∃ connection, s = { connection }

def Step (self : LoadSession) (s next : LoadState) : Prop := ∃ input, self.round input s =
    (.ok (), next)

/-- The states at the loop heads of the session's runs. -/
abbrev LoopHead (self : LoadSession) (s : LoadState) : Prop :=
  Transitions.Reachable Starts self.Step s

variable {self : LoadSession}

def requestLine (self : LoadSession) (k : Nat) : Bytes := (self.workloadRequest (.ofNat k)).line

def requestBytes (self : LoadSession) (k count : Nat) : Bytes :=
  ((List.range' k count).map self.requestLine).flatten

theorem requestBytes_succ (k count : Nat) :
    self.requestBytes k (count + 1) = self.requestLine k ++ self.requestBytes (k + 1) count := rfl

theorem requestBytes_append (k count more : Nat) :
    self.requestBytes k (count + more) = self.requestBytes k count ++ self.requestBytes (k + count)
      more := by
  unfold requestBytes
  rw [← List.range'_append_1, List.map_append, List.flatten_append]

def WithinQuota (self : LoadSession) (count : Nat) : Prop :=
  ∀ requests, self.requests = some requests → count ≤ requests.toNat

theorem fillRequests_spec {s : LoadState} {issued : Nat} (hissued : s.issued = .ofNat issued)
    (input : BatchInput) (slots filled : Nat) (buffer : Bytes)
    (hquota : self.WithinQuota (issued + filled)) :
    ∃ more ≤ slots, self.WithinQuota (issued + (filled + more)) ∧
      self.fillRequests s input slots filled buffer =
        .ok (filled + more, buffer ++ self.requestBytes (issued + filled) more) := by
  have hindex : ∀ filled, s.issued + .ofNat filled = UInt64.ofNat (issued + filled) := by
    intro filled
    rw [hissued, UInt64.ofNat_add]
  induction slots generalizing filled buffer with
  | zero => exact ⟨0, le_rfl, hquota, by simp [fillRequests, requestBytes]⟩
  | succ slots ih =>
    rw [fillRequests]
    split_ifs with hgo
    · rw [LoadWorkloadRequest.appendLoadWorkloadRequest_eq, hindex]
      dsimp only
      have hnext : self.WithinQuota (issued + (filled + 1)) := by
        intro requests hrequests
        have hle := hquota requests hrequests
        have hlt := requests.toNat_lt
        simp only [hrequests, Option.all_some, hindex, Bool.and_eq_true, decide_eq_true_eq,
          UInt64.lt_iff_toNat_lt, UInt64.toNat_ofNat'] at hgo
        have hsmall : (issued + filled) % 2 ^ 64 = issued + filled := Nat.mod_eq_of_lt (by omega)
        omega
      obtain ⟨more, hmore, hwithin, hfill⟩ := ih (filled + 1)
        (buffer ++ (self.workloadRequest (.ofNat (issued + filled))).line) hnext
      refine ⟨more + 1, by omega, ?_, ?_⟩
      · have hcount : filled + (more + 1) = filled + 1 + more := by omega
        rw [hcount]
        exact hwithin
      · rw [hfill, requestBytes_succ, List.append_assoc, Nat.add_assoc issued, Nat.add_assoc filled,
          Nat.add_comm 1 more]
        rfl
    · exact ⟨0, Nat.zero_le _, hquota, by simp [requestBytes]⟩

/-- What a batch has done to the session when it returns `filled`. -/
structure Issued (session : LoadSession) (issued filled : Nat) (s next : LoadState) : Prop where
  written : next.written = s.written ++ session.requestBytes issued filled
  issued : next.issued = s.issued
  received : next.received = s.received
  inFlight : next.inFlight = s.inFlight
  reads : next.reads = s.reads
  times : session.schedule.isSome → next.issuedTimes.length = s.issuedTimes.length + filled

/-- What stays when a batch fails or is dropped. -/
structure Extends (s next : LoadState) : Prop where
  written : s.written <+: next.written
  reads : next.reads = s.reads

section

variable {s : LoadState} {issued : Nat} (hissued : s.issued = .ofNat issued)
  (hquota : self.WithinQuota issued) (capacity : Nat) (input : BatchInput)
include hissued hquota

theorem fillRequests_batch :
    ∃ filled ≤ capacity, self.WithinQuota (issued + filled) ∧
      self.fillRequests s input capacity 0 [] = .ok (filled, self.requestBytes issued filled) := by
  obtain ⟨filled, hle, hwithin, hfill⟩ := fillRequests_spec hissued input capacity 0 [] hquota
  rw [Nat.zero_add] at hwithin hfill
  rw [Nat.add_zero, List.nil_append] at hfill
  exact ⟨filled, hle, hwithin, hfill⟩

theorem writeLoadBatch_spec :
    (∃ error next, self.writeLoadBatch capacity input s = (.error error, next) ∧ Extends s next) ∨
    ∃ filled ≤ capacity, ∃ stats, self.WithinQuota (issued + filled) ∧
      self.writeLoadBatch capacity input s =
        (.ok filled,
          { s with written := s.written ++ self.requestBytes issued filled, stats }) := by
  obtain ⟨filled, hle, hwithin, hfill⟩ := fillRequests_batch hissued hquota capacity input
  unfold writeLoadBatch
  rw [hfill]
  dsimp only
  by_cases hnone : filled = 0
  · right
    refine ⟨0, Nat.zero_le _, s.stats, by rwa [← hnone], ?_⟩
    rw [if_pos hnone, requestBytes, List.range'_zero, List.map_nil, List.flatten_nil,
      List.append_nil]
  · rw [if_neg hnone]
    cases input.write with
    | failed => exact Or.inl ⟨_, _, rfl, List.prefix_append _ _, rfl⟩
    | timedOut => exact Or.inl ⟨_, _, rfl, List.prefix_append _ _, rfl⟩
    | completed => exact Or.inr ⟨filled, hle, _, hwithin, rfl⟩

theorem issueLoadBatch_spec :
    (∃ error next, self.issueLoadBatch capacity input s = (.error error, next) ∧ Extends s next) ∨
    ∃ filled ≤ capacity, ∃ next, self.WithinQuota (issued + filled) ∧
      self.issueLoadBatch capacity input s = (.ok filled, next) ∧
        Issued self issued filled s next := by
  unfold issueLoadBatch
  rcases writeLoadBatch_spec hissued hquota capacity input with
    ⟨error, next, hwrite, hextends⟩ | ⟨filled, hle, stats, hwithin, hwrite⟩
  · left
    rw [hwrite]
    exact ⟨error, next, rfl, hextends⟩
  · right
    rw [hwrite]
    dsimp only
    cases hschedule : self.schedule with
    | none => exact ⟨filled, hle, _, hwithin, rfl, rfl, rfl, rfl, rfl, rfl, by simp [hschedule]⟩
    | some schedule => exact ⟨filled, hle, _, hwithin, rfl, rfl, rfl, rfl, rfl, rfl, by simp⟩

theorem timedLoadBatch_spec :
    (∃ exit next, self.timedLoadBatch capacity input s = (.error exit, next) ∧ Extends s next) ∨
    ∃ filled ≤ capacity, ∃ next, self.WithinQuota (issued + filled) ∧
      self.timedLoadBatch capacity input s = (.ok filled, next) ∧
        Issued self issued filled s next := by
  unfold timedLoadBatch
  split_ifs with htimedOut
  · left
    obtain ⟨filled, -, -, hfill⟩ := fillRequests_batch hissued hquota capacity input
    refine ⟨.timedOut, _, rfl, ?_⟩
    unfold cancelLoadBatch
    rw [hfill]
    exact ⟨List.prefix_append _ _, rfl⟩
  · rcases issueLoadBatch_spec hissued hquota capacity input with
      ⟨error, next, hissue, hextends⟩ | ⟨filled, hle, next, hwithin, hissue, hdone⟩
    · left
      rw [hissue]
      exact ⟨.failed error, next, rfl, hextends⟩
    · right
      rw [hissue]
      exact ⟨filled, hle, next, hwithin, rfl, hdone⟩

end

/-- With which kind and message-id the response to the `k`-th request is to be read. -/
def expectation (self : LoadSession) (k : Nat) : RequestKind × Option MessageId :=
  let request := self.workloadRequest (.ofNat k)
  (requestKindForNormalizedClientCommand request.kind,
    if self.verificationPolicy.verifies (.ofNat k) then some request.messageId else none)

/-- The loop invariant, where `count` requests have been written. -/
structure Tracks (session : LoadSession) (count : Nat) (s : LoadState) : Prop where
  written : s.written = session.requestBytes 0 count
  issued : s.issued = .ofNat count
  received : s.received = .ofNat s.reads.length
  count_eq : count = s.reads.length + s.inFlight
  inFlight_le : s.inFlight ≤ session.pipelineDepth
  quota : session.WithinQuota count
  times : session.schedule.isSome → s.issuedTimes.length = s.inFlight
  reads : s.reads = (List.range s.reads.length).map session.expectation

/-- What holds also when the session ends: every response was read as the request that was written
in its place asks for. -/
structure Answered (session : LoadSession) (s : LoadState) : Prop where
  written : ∃ count, s.reads.length ≤ count ∧ session.requestBytes 0 count <+: s.written
  reads : s.reads = (List.range s.reads.length).map session.expectation

theorem Tracks.answered {s : LoadState} (h : Tracks self count s) : Answered self s where
  written := ⟨count, by have := h.count_eq; omega, by rw [h.written]⟩
  reads := h.reads

theorem Answered.of_extends {s next : LoadState} (h : Answered self s) (hnext : Extends s next) :
    Answered self next where
  written := by
    obtain ⟨count, hcount, hwritten⟩ := h.written
    exact ⟨count, by rwa [hnext.reads], hwritten.trans hnext.written⟩
  reads := by
    rw [hnext.reads]
    exact h.reads

theorem Tracks.of_issued {s next : LoadState} {filled : Nat} (h : Tracks self count s)
    (hfilled : filled ≤ self.pipelineDepth - s.inFlight)
    (hquota : self.WithinQuota (count + filled)) (hnext : Issued self count filled s next) :
    Tracks self (count + filled)
      { next with issued := next.issued + .ofNat filled, inFlight := next.inFlight + filled } where
  written := by
    -- The counters are brought up to date after a batch.
    rw [hnext.written, h.written, requestBytes_append, Nat.zero_add]
  issued := by
    rw [hnext.issued, h.issued, UInt64.ofNat_add]
  received := by
    rw [hnext.received, hnext.reads]
    exact h.received
  count_eq := by
    have hcount := h.count_eq
    dsimp only
    rw [hnext.reads, hnext.inFlight]
    omega
  inFlight_le := by
    have hle := h.inFlight_le
    dsimp only
    rw [hnext.inFlight]
    omega
  quota := hquota
  times := by
    intro hschedule
    rw [hnext.inFlight, hnext.times hschedule, h.times hschedule]
  reads := by
    rw [hnext.reads]
    exact h.reads

theorem issueWhenIdle_spec {s : LoadState} (h : Tracks self count s) (input : BatchInput) :
    (∃ exit next, self.issueWhenIdle input s = (.error exit, next) ∧ Answered self next) ∨
    ∃ count next, self.issueWhenIdle input s = (.ok (), next) ∧ Tracks self count next := by
  unfold issueWhenIdle
  split_ifs with hidle
  · rcases timedLoadBatch_spec h.issued h.quota self.pipelineDepth input with
      ⟨exit, next, hbatch, hextends⟩ | ⟨filled, hle, next, hwithin, hbatch, hissued⟩
    · left
      rw [hbatch]
      exact ⟨exit, next, rfl, h.answered.of_extends hextends⟩
    · right
      have hnone : next.inFlight = 0 := by rw [hissued.inFlight, hidle]
      have htracks := h.of_issued (by omega) hwithin hissued
      rw [hbatch]
      refine ⟨count + filled, _, rfl, ?_⟩
      rw [hnone, Nat.zero_add] at htracks ⊢
      exact htracks
  · exact Or.inr ⟨count, s, rfl, h⟩

theorem refill_spec {s : LoadState} (h : Tracks self count s) (input : BatchInput) :
    Answered self (self.refill input s).2 ∧ ((self.refill input s).1 = .ok () →
      ∃ count, Tracks self count (self.refill input s).2) := by
  unfold refill
  split_ifs with hhalf
  · rcases timedLoadBatch_spec h.issued h.quota (self.pipelineDepth - s.inFlight) input with
      ⟨exit, next, hbatch, hextends⟩ | ⟨filled, hle, next, hwithin, hbatch, hissued⟩
    · rw [hbatch]
      exact ⟨h.answered.of_extends hextends, by simp⟩
    · have htracks := h.of_issued hle hwithin hissued
      rw [hbatch]
      exact ⟨htracks.answered, fun _ => ⟨_, htracks⟩⟩
  · exact ⟨h.answered, fun _ => ⟨count, h⟩⟩

theorem expectedMessageId_eq (k : Nat) :
    self.expectedMessageId (self.nextId + .ofNat k) (.ofNat k) = .ok (self.expectation k).2 := by
  have hid := (self.workloadRequest (.ofNat k)).requestMessageIdForCommand_eq
    (clientCommandKind (self.nextId + .ofNat k) self.commandMix)
  have hmap :
    (requestMessageIdForCommand (clientCommandKind (self.nextId + .ofNat k) self.commandMix)
      (self.syntheticId (.ofNat k)) (.ofNat k) self.segments self.clientIndex
      self.totalClients).map some = .ok (some (self.workloadRequest (.ofNat k)).messageId) :=
    congrArg (Except.map some) hid
  unfold expectedMessageId expectation
  dsimp only
  by_cases hverifies : self.verificationPolicy.verifies (.ofNat k) = true
  · rw [hverifies, if_neg (by simp), hmap, if_pos rfl]
  · rw [Bool.not_eq_true] at hverifies
    rw [hverifies, if_pos (by simp), if_neg (by simp)]

theorem countResponse_fields (commandId : UInt64) (responseLen : Nat) (input : RoundInput)
    (s : LoadState) : let next := self.countResponse commandId responseLen input s
    next.written = s.written ∧ next.issued = s.issued ∧ next.received = s.received + 1 ∧
      next.inFlight = s.inFlight - 1 ∧ next.reads = s.reads ∧
      next.issuedTimes = if self.schedule.isSome then s.issuedTimes.tail else s.issuedTimes := by
  intro next
  simp only [next, countResponse, flushLoadSessionStats]
  split_ifs <;> exact ⟨rfl, rfl, rfl, rfl, rfl, rfl⟩

theorem Tracks.reads_succ {s next : LoadState} (h : Tracks self count s)
    (hreads : next.reads = s.reads ++ [self.expectation s.reads.length]) :
    next.reads.length = s.reads.length + 1 ∧
      next.reads = (List.range next.reads.length).map self.expectation := by
  have hlength : next.reads.length = s.reads.length + 1 := by
    rw [hreads, List.length_append, List.length_singleton]
  refine ⟨hlength, ?_⟩
  rw [hlength, List.range_succ, List.map_append, List.map_singleton, ← h.reads]
  exact hreads

theorem Tracks.answered_next {s next : LoadState} (h : Tracks self count s) (hbusy : s.inFlight ≠ 0)
    (hwritten : next.written = s.written)
    (hreads : next.reads = s.reads ++ [self.expectation s.reads.length]) : Answered self next := by
  obtain ⟨hlength, hnext⟩ := h.reads_succ hreads
  have hcount := h.count_eq
  exact ⟨⟨count, by omega, by rw [hwritten, h.written]⟩, hnext⟩

theorem receive_spec {s : LoadState} (h : Tracks self count s) (hbusy : s.inFlight ≠ 0)
    (input : RoundInput) :
    Answered self (self.receive input s).2 ∧ ((self.receive input s).1 = .ok () →
      Tracks self count (self.receive input s).2) := by
  have hcount := h.count_eq
  have hexpected : self.expectedMessageId (self.nextId + s.received) s.received =
      .ok (self.expectation s.reads.length).2 := by
    rw [h.received]
    exact expectedMessageId_eq s.reads.length
  have hkind : requestKindForClientCommand (self.nextId + s.received) self.commandMix =
      (self.expectation s.reads.length).1 := by
    rw [h.received]
    rfl
  unfold receive
  dsimp only
  rw [hexpected, hkind]
  dsimp only
  split_ifs with htimedOut
  · exact ⟨h.answered_next hbusy rfl rfl, by simp⟩
  · generalize s.connection.readResponse _ _ = response
    obtain ⟨result, connection⟩ := response
    cases result with
    | error error => exact ⟨h.answered_next hbusy rfl rfl, by simp⟩
    | ok responseLen =>
      dsimp only
      obtain ⟨hwritten, hissued, hreceived, hinFlight, hreads, htimes⟩ :=
        self.countResponse_fields (self.nextId + s.received) responseLen input
          { s with reads := s.reads ++ [self.expectation s.reads.length], connection }
      generalize self.countResponse _ _ _ _ = next at *
      dsimp only at *
      obtain ⟨hlength, hnext⟩ := h.reads_succ hreads
      refine ⟨h.answered_next hbusy hwritten hreads, fun _ => ?_⟩
      constructor
      · rw [hwritten, h.written]
      · rw [hissued, h.issued]
      · rw [hreceived, h.received, hlength, UInt64.ofNat_add]
        rfl
      · omega
      · have hle := h.inFlight_le
        omega
      · exact h.quota
      · intro hschedule
        rw [htimes, if_pos hschedule, List.length_tail, h.times hschedule, hinFlight]
      · exact hnext

theorem round_spec {s : LoadState} (h : Tracks self count s) (input : RoundInput) :
    Answered self (self.round input s).2 ∧ ((self.round input s).1 = .ok () →
      ∃ count, Tracks self count (self.round input s).2) := by
  unfold round
  rcases issueWhenIdle_spec h input.first with
    ⟨exit, next, hissue, hanswered⟩ | ⟨count, next, hissue, htracks⟩
  · rw [hissue]
    exact ⟨hanswered, by simp⟩
  · rw [hissue]
    dsimp only
    split_ifs with hidle
    · refine ⟨htracks.answered.of_extends ?_, by simp⟩
      unfold flushLoadSessionStats
      split_ifs <;> exact ⟨List.prefix_rfl, rfl⟩
    · obtain ⟨hanswered, hreceived⟩ := receive_spec htracks hidle input
      generalize self.receive input next = received at hanswered hreceived
      obtain ⟨result, after⟩ := received
      cases result with
      | error exit => exact ⟨hanswered, by simp⟩
      | ok _ => exact refill_spec (hreceived rfl) input.refill

theorem exists_tracks {s : LoadState} (h : self.LoopHead s) : ∃ count, Tracks self count s := by
  apply h.invariant
  · rintro s ⟨connection, rfl⟩
    refine ⟨0, rfl, rfl, rfl, rfl, Nat.zero_le _, ?_, fun _ => rfl, rfl⟩
    exact fun requests _ => Nat.zero_le _
  · rintro s next - ⟨count, htracks⟩ ⟨input, hround⟩
    obtain ⟨-, hnext⟩ := round_spec htracks input
    rw [hround] at hnext
    exact hnext rfl

theorem requestLine_eq (k : Nat) : ∃ before, self.requestLine k = before ++ [LF] ∧ LF ∉ before := by
  obtain ⟨content, hline, hclean⟩ := (self.workloadRequest (.ofNat k)).line_eq
  refine ⟨content ++ [CR], ?_, ?_⟩
  · rw [requestLine, hline, crlf_eq, List.append_assoc]
    rfl
  · rw [List.mem_append, not_or]
    exact ⟨hclean.lf, by decide⟩

theorem lfLines_written {written : Bytes} (h : self.requestBytes 0 count <+: written) :
    ∃ more, (lfLines written).1 = (List.range' 0 count).map self.requestLine ++ more := by
  obtain ⟨rest, rfl⟩ := h
  have hrest := lfCut_lfLines rest
  have hcut : LfCut (self.requestBytes 0 count ++ rest)
      ((List.range' 0 count).map self.requestLine ++ (lfLines rest).1) (lfLines rest).2 := by
    refine ⟨?_, ?_, hrest.tail_open⟩
    · rw [List.flatten_append, List.append_assoc, ← hrest.stream_eq]
      rfl
    · intro line hline
      rcases List.mem_append.mp hline with hmem | hmem
      · obtain ⟨k, -, rfl⟩ := List.mem_map.mp hmem
        exact requestLine_eq k
      · exact hrest.ends line hmem
  exact ⟨(lfLines rest).1, by rw [hcut.lfLines_eq]⟩

/-- Each response was read with the kind of the request line in its place and, when it is verified,
with the message-id of that line. -/
def ReadAsRequested (self : LoadSession) (s : LoadState) : Prop :=
  ∀ k kind expected, s.reads[k]? = some (kind, expected) →
    ∃ line messageId, (lfLines s.written).1[k]? = some line ∧
      (RequestLine.parse line).kind = kind ∧ (RequestLine.parse line).messageId = some messageId ∧
      expected = if self.verificationPolicy.verifies (.ofNat k) then some messageId else none

theorem Answered.readAsRequested {s : LoadState} (h : Answered self s) :
    self.ReadAsRequested s := by
  intro k kind expected hread
  obtain ⟨count, hcount, hwritten⟩ := h.written
  obtain ⟨more, hlines⟩ := lfLines_written hwritten
  obtain ⟨hk, -⟩ := List.getElem?_eq_some_iff.mp hread
  rw [h.reads, List.getElem?_map, List.getElem?_range hk, Option.map_some] at hread
  obtain ⟨hkind, hid⟩ := (self.workloadRequest (.ofNat k)).parse_line
  refine ⟨self.requestLine k, _, ?_, ?_, hid, ?_⟩
  · rw [hlines, List.getElem?_append_left (by simp; omega), List.getElem?_map,
      List.getElem?_range' (by omega)]
    simp
  · rw [requestLine, hkind]
    exact (Prod.mk.inj (Option.some.inj hread)).1
  · exact (Prod.mk.inj (Option.some.inj hread)).2.symm

theorem Tracks.length_lfLines {s : LoadState} (h : Tracks self count s) :
    (lfLines s.written).1.length = count := by
  have hcut : LfCut s.written ((List.range' 0 count).map self.requestLine) [] := by
    refine ⟨by rw [h.written, List.append_nil]; rfl, ?_, List.not_mem_nil⟩
    intro line hline
    obtain ⟨k, -, rfl⟩ := List.mem_map.mp hline
    exact requestLine_eq k
  rw [hcut.lfLines_eq]
  simp

/-- At every loop head the counters agree with the pipeline and its limits, and up to the next loop
head or the session's end every response is read as the request in its place asks for. -/
theorem loop_head_tracks_the_pipeline {s : LoadState} (h : self.LoopHead s)
    (hfew : (lfLines s.written).1.length < 2 ^ 64) :
    s.received ≤ s.issued ∧ s.issued.toNat - s.received.toNat = s.inFlight ∧
      s.inFlight ≤ self.pipelineDepth ∧
      (∀ requests, self.requests = some requests → s.issued ≤ requests) ∧
      (self.schedule.isSome → s.issuedTimes.length = s.inFlight) ∧
      self.ReadAsRequested s ∧ ∀ input, self.ReadAsRequested (self.round input s).2 := by
  obtain ⟨count, htracks⟩ := exists_tracks h
  rw [htracks.length_lfLines] at hfew
  have hcount := htracks.count_eq
  have hissued : s.issued.toNat = count := by
    rw [htracks.issued, UInt64.toNat_ofNat', Nat.mod_eq_of_lt hfew]
  have hreceived : s.received.toNat = s.reads.length := by
    rw [htracks.received, UInt64.toNat_ofNat', Nat.mod_eq_of_lt (by omega)]
  refine ⟨?_, by omega, htracks.inFlight_le, ?_, htracks.times, htracks.answered.readAsRequested,
    ?_⟩
  · rw [UInt64.le_iff_toNat_le]
    omega
  · intro requests hrequests
    rw [UInt64.le_iff_toNat_le, hissued]
    exact htracks.quota requests hrequests
  · intro input
    exact (round_spec htracks input).1.readAsRequested

/-- A session that verifies every STAT response, with a quota and a schedule, after a round. -/
theorem three_stat_requests_tracked :
    let self : LoadSession :=
      { segments := none, clientIndex := 0, totalClients := 1, requests := some 3,
        transferBytes := 0, nextId := 7, workloadPolicy := .disjoint, verificationPolicy := .full,
        schedule := some ⟨0, 10, by decide⟩, pipelineDepth := 2, commandMix := .stat }
    let batch : BatchInput := ⟨fun _ => false, fun _ => 0, .completed, 0, false, 5, 0, 0⟩
    let input : RoundInput := ⟨batch, false, false, 0, batch⟩
    let connection : Connection :=
      ⟨.new 16 64, [.data (ascii "223 0 <bench.7@nntpbench.local>\r\n")]⟩
    let s := (self.round input { connection }).2
    self.LoopHead s ∧ (lfLines s.written).1.length = 3 ∧ s.received = 1 ∧
      s.issued.toNat - s.received.toNat = s.inFlight ∧ s.inFlight ≤ 2 ∧ s.issued ≤ 3 ∧
      s.issuedTimes.length = s.inFlight ∧ self.ReadAsRequested s := by
  intro self batch input connection s
  have hround : (self.round input { connection }).1 = .ok () := by decide +kernel
  have hlines : (lfLines s.written).1.length = 3 := by decide +kernel
  have hreceived : s.received = 1 := by decide +kernel
  have hhead : self.LoopHead s :=
    (Transitions.reachable_of_initial ⟨connection, rfl⟩).tail ⟨input, Prod.ext hround rfl⟩
  obtain ⟨-, hpipeline, hdepth, hquota, htimes, hreads, -⟩ :=
    loop_head_tracks_the_pipeline hhead (by rw [hlines]; decide)
  exact ⟨hhead, hlines, hreceived, hpipeline, hdepth, hquota 3 rfl, htimes rfl, hreads⟩

end LoadSession

end NntpBench.Load
