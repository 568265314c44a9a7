import NntpBench.Load.Numbering
import NntpBench.Server.CommandReader
import NntpBench.Server.Dates

namespace NntpBench.Load

open Protocol Terminator ExceptBind
open Server (ErrorKind)

/-- `io::Error` with its message. -/
structure IoError where
  kind : ErrorKind
  message : String
  deriving DecidableEq, Repr

/-- `trim_ascii_line`: line ends are taken off at the end only. -/
def trimAsciiLine (line : Bytes) : Bytes :=
  (line.rdropWhile fun byte => byte = LF || byte = CR || isBlank byte).dropWhile isBlank

/-- How many bytes `shared_message_id_from_bytes` has for a message-id to which it adds the
brackets. -/
def SEGMENT_MESSAGE_ID_CAPACITY : Nat := 512

def sharedMessageIdFromBytes (value : Bytes) : Except IoError MessageId :=
  match fromUtf8 value with
  | none => .error ⟨.invalidData, "segment message-id is not utf-8"⟩
  | some value =>
    let bracketed := value.head? = some '<' ∧ value.getLast? = some '>'
    let normalized := if bracketed then value else '<' :: value ++ ['>']
    if ¬ bracketed ∧ (asBytes normalized).length > SEGMENT_MESSAGE_ID_CAPACITY then
      .error ⟨.invalidData, "segment message-id too long"⟩
    else
      match MessageId.fromBorrowed normalized with
      | none => .error ⟨.invalidData, "invalid segment message-id"⟩
      | some messageId => .ok messageId

def readSegmentLine (lineIndex : Nat) (line : Bytes) : Except IoError
    (Option (UInt64 × MessageId)) :=
  let line := trimAsciiLine line
  if line = [] then .ok none
  else
    match memchr HT line with
    | none =>
      .error ⟨.invalidData, s!"invalid segment line {lineIndex}: expected SIZE<TAB>MSGID"⟩
    | some tab =>
      match fromUtf8 (trimAsciiLine (line.take tab)) with
      | none => .error ⟨.invalidData, "segment size is not utf-8"⟩
      | some size =>
        match Server.parseUnsigned (2 ^ 64) size with
        | none => .error ⟨.invalidData, "invalid segment size"⟩
        | some declaredSize =>
          (sharedMessageIdFromBytes (trimAsciiLine (line.drop (tab + 1)))).map fun id =>
            some (.ofNat declaredSize, id)

/-- `read_segments` on the bytes of the file. What stands behind the last line end is a line if it
is not empty. -/
def readSegments (path : String) (file : Bytes) : Except IoError SegmentSet := do
  let segments ← ((file.splitOn LF).zipIdx 1).foldlM (fun segments (line, lineIndex) =>
    (readSegmentLine lineIndex line).map fun segment => segments ++ segment.toList) []
  if h : segments ≠ [] then
    .ok ⟨segments.map Prod.snd, segments.map Prod.fst, by simpa using h, by simp⟩
  else .error ⟨.invalidData, "no segments found in " ++ path⟩

def MAX_LATENCY_HISTOGRAM_BINS : Nat := 1000000

def latencyBinCount (rangeNanos precisionNanos : Nat) : Except IoError Nat :=
  if rangeNanos = 0 ∨ precisionNanos = 0 then
    .error ⟨.invalidInput, "latency range and precision must be non-zero"⟩
  else
    let binCount := (rangeNanos + precisionNanos - 1) / precisionNanos
    if binCount ≥ 2 ^ 64 then .error ⟨.invalidInput, "latency histogram is too large"⟩
    else if binCount = 0 ∨ binCount > MAX_LATENCY_HISTOGRAM_BINS then
      .error ⟨.invalidInput, "latency histogram exceeds configured bin limit"⟩
    else .ok binCount

/-- The arguments that `from_args` checks or that the model of a session uses; `segments` is a path
and `offeredRate` holds the bits of a float. -/
structure FetchArgs where
  segments : Option String
  requests : UInt64
  transferBytes : UInt64
  durationSecs : UInt64
  offeredRate : Option UInt64
  latencyRangeMs : UInt64
  latencyPrecisionUs : UInt64
  connections : UInt64
  clientOffset : UInt64
  totalClients : UInt64
  pipelineDepth : UInt64
  commandMix : ClientCommandMix
  startId : UInt64
  workloadPolicy : LoadWorkloadPolicy
  verificationPolicy : LoadVerificationPolicy
  readBufferBytes : UInt64
  maxResponseBytes : UInt64
  csv : Bool
  json : Bool

/-- `duration` is in nanoseconds. -/
structure LoadConfig where
  segments : Option SegmentSet
  requests : Option UInt64
  transferBytes : UInt64
  duration : Nat
  offeredRate : Option UInt64
  connections : UInt64
  clientOffset : UInt64
  totalClients : UInt64
  pipelineDepth : UInt64
  commandMix : ClientCommandMix
  startId : UInt64
  workloadPolicy : LoadWorkloadPolicy
  verificationPolicy : LoadVerificationPolicy
  readBufferBytes : UInt64
  maxResponseBytes : UInt64

/-- The clients of this process do not all have a number below the total. -/
def exceedsTotalClients (clientOffset connections totalClients : UInt64) : Bool :=
  clientOffset.toNat + connections.toNat > totalClients.toNat

/-- The segment file of the arguments; `files` opens and reads a file. -/
def segmentsOfPath (files : String → Except IoError Bytes) :
    Option String → Except IoError (Option SegmentSet)
  | none => .ok none
  | some path => do
    let file ← files path
    (readSegments path file).map some

def LoadConfig.fromArgs (files : String → Except IoError Bytes) (args : FetchArgs) :
    Except IoError LoadConfig :=
  let connections := max args.connections 1
  let totalClients := if args.totalClients = 0 then connections else args.totalClients
  if args.csv && args.json then
    .error ⟨.invalidInput, "csv and json output are mutually exclusive"⟩
  else if args.maxResponseBytes = 0 then
    .error ⟨.invalidInput, "max response bytes must be positive"⟩
  else if args.workloadPolicy = .disjoint &&
      exceedsTotalClients args.clientOffset connections totalClients then
    .error ⟨.invalidInput, "disjoint workload clients exceed total_clients"⟩
  else do
    let _ ← latencyBinCount (args.latencyRangeMs.toNat * 10 ^ 6)
      (args.latencyPrecisionUs.toNat * 10 ^ 3)
    let segments ← segmentsOfPath files args.segments
    .ok
      { segments
        requests := if args.requests ≠ 0 then some args.requests else none
        transferBytes := args.transferBytes
        duration := args.durationSecs.toNat * 10 ^ 9
        offeredRate := args.offeredRate
        connections
        clientOffset := args.clientOffset
        totalClients
        pipelineDepth := min (max args.pipelineDepth 1) 4096
        commandMix := args.commandMix
        startId := args.startId
        workloadPolicy := args.workloadPolicy
        verificationPolicy := args.verificationPolicy
        readBufferBytes := max args.readBufferBytes (.ofNat TERMINATOR_TAIL_SIZE)
        maxResponseBytes := args.maxResponseBytes }

/-- The quotas that `run_load` gives its connections. The number of a client is a checked sum, whose
overflow ends the loop. -/
def LoadConfig.quotas (self : LoadConfig) : List (Option UInt64) :=
  let range : ClientRange := ⟨self.clientOffset.toNat, self.connections.toNat⟩
  (range.clients.takeWhile (· < 2 ^ 64)).map fun globalIndex =>
    requestsForConnection self.requests self.totalClients (.ofNat globalIndex)

def FetchArgs.processClients (self : FetchArgs) : Nat := max self.connections.toNat 1

def FetchArgs.allClients (self : FetchArgs) : Nat :=
  if self.totalClients = 0 then self.processClients else self.totalClients.toNat

/-- The connections of this process, as far as they can be numbered, that are more than there are
clients in all. -/
def FetchArgs.surplusClients (self : FetchArgs) : Nat :=
  min self.processClients (2 ^ 64 - self.clientOffset.toNat) - self.allClients

theorem fields_of_fromArgs {files : String → Except IoError Bytes} {args : FetchArgs}
    {config : LoadConfig} (h : LoadConfig.fromArgs files args = .ok config) :
    config.requests = (if args.requests ≠ 0 then some args.requests else none) ∧
      config.connections = max args.connections 1 ∧ config.clientOffset = args.clientOffset ∧
      config.totalClients =
        if args.totalClients = 0 then max args.connections 1 else args.totalClients := by
  unfold LoadConfig.fromArgs at h
  dsimp only at h
  split_ifs at h
  all_goals
    obtain ⟨-, -, h⟩ := bind_eq_ok.mp h
    obtain ⟨segments, -, h⟩ := bind_eq_ok.mp h
    rw [← Except.ok.inj h]
    simp_all

theorem toNat_max_one (value : UInt64) : (max value 1).toNat = max value.toNat 1 := by
  show (if value ≤ 1 then 1 else value : UInt64).toNat = max value.toNat 1
  split_ifs with hle
  · rw [UInt64.le_iff_toNat_le] at hle
    exact (Nat.max_eq_right hle).symm
  · rw [UInt64.le_iff_toNat_le, not_le] at hle
    exact (Nat.max_eq_left hle.le).symm

theorem toNat_of_fromArgs {files : String → Except IoError Bytes} {args : FetchArgs}
    {config : LoadConfig} (h : LoadConfig.fromArgs files args = .ok config) :
    config.connections.toNat = args.processClients ∧ config.totalClients.toNat =
      args.allClients := by
  obtain ⟨-, hconnections, -, hclients⟩ := fields_of_fromArgs h
  have hprocess : config.connections.toNat = args.processClients := by
    rw [hconnections, toNat_max_one]
    rfl
  refine ⟨hprocess, ?_⟩
  rw [hclients, FetchArgs.allClients, ← hprocess, hconnections]
  split_ifs <;> rfl

theorem FetchArgs.allClients_pos (args : FetchArgs) : 0 < args.allClients := by
  unfold allClients processClients
  split_ifs with hzero
  · omega
  · rw [← UInt64.toNat_inj] at hzero
    exact Nat.pos_of_ne_zero hzero

theorem sum_quotas {config : LoadConfig} {requests : UInt64}
    (hrequests : config.requests = some requests)
    (hclients : 0 < config.totalClients) :
    (config.quotas.map fun quota => (quota.getD 0).toNat).sum =
      ((List.range' config.clientOffset.toNat
        (min config.connections.toNat (2 ^ 64 - config.clientOffset.toNat))).map
          (Strides.share requests.toNat config.totalClients.toNat)).sum := by
  unfold LoadConfig.quotas ClientRange.clients
  dsimp only
  rw [Strides.takeWhile_range', List.map_map]
  congr 1
  apply List.map_congr_left
  intro client hclient
  have hlt : client < 2 ^ 64 := by
    rw [List.mem_range'_1] at hclient
    omega
  obtain ⟨quota, hquota, hshare⟩ :=
    toNat_requestsForConnection requests hclients (UInt64.ofNat client)
  rw [Function.comp_apply, hrequests, hquota, Option.getD_some, hshare,
    UInt64.toNat_ofNat_of_lt' hlt]

/-- **The quotas of a process are within the requests of the run exactly if it has no surplus
connections or their shares fit into the part of the remainder that is before its first client.** -/
theorem quotas_within_requests_iff (files : String → Except IoError Bytes) (args : FetchArgs)
    (config : LoadConfig) (h : LoadConfig.fromArgs files args = .ok config)
    (hrequests : args.requests ≠ 0) :
    (config.quotas.map fun quota => (quota.getD 0).toNat).sum ≤ args.requests.toNat ↔
      args.surplusClients * (args.requests.toNat / args.allClients) ≤
        min (args.requests.toNat % args.allClients) args.clientOffset.toNat := by
  obtain ⟨hsome, -, hoffset, -⟩ := fields_of_fromArgs h
  obtain ⟨hprocess, hall⟩ := toNat_of_fromArgs h
  rw [if_pos hrequests] at hsome
  have hclients : 0 < config.totalClients := by
    rw [UInt64.lt_iff_toNat_lt, hall]
    exact args.allClients_pos
  rw [sum_quotas hsome hclients, hall, hprocess, hoffset,
    Strides.sum_share_range'_le_iff args.allClients_pos]
  rfl

/-- The arguments of a run of `requests` requests with the default of every other argument that is
not about clients. -/
def clientArgs (requests connections clientOffset totalClients : UInt64)
    (workloadPolicy : LoadWorkloadPolicy) : FetchArgs :=
  { segments := none, requests, transferBytes := 0, durationSecs := 0, offeredRate := none
    latencyRangeMs := 60000, latencyPrecisionUs := 1000, connections, clientOffset, totalClients
    pipelineDepth := 64, commandMix := .alternate, startId := 1, workloadPolicy
    verificationPolicy := .none, readBufferBytes := 262144, maxResponseBytes := 67108864
    csv := false, json := false }

def noFiles (_ : String) : Except IoError Bytes := .error ⟨.other, "not found"⟩

theorem quotas_within_ten_requests :
    ∃ config, LoadConfig.fromArgs noFiles (clientArgs 10 4 0 0 .shared) = .ok config ∧
      (config.quotas.map fun quota => (quota.getD 0).toNat).sum ≤ 10 := by
  have hok : (LoadConfig.fromArgs noFiles (clientArgs 10 4 0 0 .shared)).isOk := by decide +kernel
  obtain ⟨config, h⟩ := exists_ok_of_isOk hok
  exact ⟨config, h, (quotas_within_requests_iff noFiles (clientArgs 10 4 0 0 .shared) config h
    (by decide)).mpr (by decide +kernel)⟩

/-- Four connections of a run that is said to have one client: each of them sends all ten requests.
-/
theorem shared_connections_send_forty :
    ∃ config, LoadConfig.fromArgs noFiles (clientArgs 10 4 0 1 .shared) = .ok config ∧
      (config.quotas.map fun quota => (quota.getD 0).toNat).sum = 40 := by
  have hsum : (LoadConfig.fromArgs noFiles (clientArgs 10 4 0 1 .shared)).toOption.map
      (fun config => (config.quotas.map fun quota => (quota.getD 0).toNat).sum) = some 40 := by
    decide +kernel
  cases h : LoadConfig.fromArgs noFiles (clientArgs 10 4 0 1 .shared) with
  | error error =>
    rw [h] at hsum
    cases hsum
  | ok config =>
    rw [h] at hsum
    exact ⟨config, rfl, Option.some.inj hsum⟩

end NntpBench.Load
