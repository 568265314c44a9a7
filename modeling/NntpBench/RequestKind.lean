import NntpBench.Text

namespace NntpBench.Protocol

def MAX_ARTICLE_NUMBER : Nat := 2147483647
def MAX_INITIAL_RESPONSE_LINE_BYTES : Nat := 512
def MAX_COMMAND_ARGUMENT_BYTES : Nat := 497
def MAX_AUTHINFO_SASL_COMMAND_LINE_BYTES : Nat := 4096
def MAX_AUTHINFO_SASL_RESPONSE_LINE_BYTES : Nat := 4096

/-- A three-digit NNTP status; `parse` is the only way to get one from the wire. -/
structure StatusCode where
  code : Nat
  lower : 100 ≤ code
  upper : code < 600
  deriving DecidableEq, Repr

namespace StatusCode

def digit (byte : UInt8) : Option Nat :=
  if byte - 48 > 9 then none else some (byte - 48).toNat

def parse (data : Bytes) : Option StatusCode :=
  match data with
  | b0 :: b1 :: b2 :: _ =>
    match digit b0, digit b1, digit b2 with
    | some d0, some d1, some d2 =>
      if h : 100 ≤ d0 * 100 + d1 * 10 + d2 ∧ d0 * 100 + d1 * 10 + d2 < 600 then
        some ⟨d0 * 100 + d1 * 10 + d2, h.1, h.2⟩
      else none
    | _, _, _ => none
  | _ => none

def isError (self : StatusCode) : Bool := 400 ≤ self.code && self.code < 600

theorem digit_le {byte : UInt8} {value : Nat} (h : digit byte = some value) :
    value ≤ 9 := by
  unfold digit at h
  split_ifs at h with hlarge
  rw [← Option.some.inj h]
  exact UInt8.le_iff_toNat_le.mp (UInt8.not_lt.mp hlarge)

theorem code_of_two {rest : Bytes} {status : StatusCode}
    (h : parse (50 :: rest) = some status) : status.code < 300 := by
  match rest with
  | [] | [_] => cases h
  | b1 :: b2 :: rest =>
    have htwo : digit 50 = some 2 := by decide
    cases h1 : digit b1 with
    | none => simp [parse, htwo, h1] at h
    | some d1 =>
      cases h2 : digit b2 with
      | none => simp [parse, htwo, h1, h2] at h
      | some d2 =>
        have hd1 := digit_le h1
        have hd2 := digit_le h2
        simp only [parse, htwo, h1, h2] at h
        split_ifs at h
        rw [← Option.some.inj h]
        dsimp only
        omega

theorem parse_append {data : Bytes} (h : 3 ≤ data.length) (more : Bytes) :
    parse (data ++ more) = parse data := by
  match data, h with
  | b0 :: b1 :: b2 :: rest, _ => rfl

theorem length_of_parse {data : Bytes} {status : StatusCode} (h : parse data = some status) :
    3 ≤ data.length := by
  match data, h with
  | b0 :: b1 :: b2 :: rest, _ => simp

end StatusCode

inductive RequestKind where
  | article | body | head | stat
  | listActive | listActiveTimes | listNewsgroups | listOverviewFmt | listHeaders
  | listDistribPats
  | group | listGroup | last | next
  | list | help | capabilities | date
  | over | xover | hdr | xhdr
  | newGroups | newNews
  | post | ihave | check | takeThis
  | authInfoUser | authInfoPass | authInfo
  | startTls | modeReader | modeStream | quit
  | unknown
  deriving DecidableEq, Repr

/-- How a command shares a connection with the commands around it. -/
structure CommandCoordination where
  allowsFollowingPipeline : Bool
  requiresExclusiveConnection : Bool
  changesSessionState : Bool
  entersContinuation : Bool
  deriving DecidableEq, Repr

namespace CommandCoordination

def PIPELINED : CommandCoordination := ⟨true, false, false, false⟩
def SESSION_POINTER : CommandCoordination := ⟨true, false, true, false⟩
def CONTINUATION : CommandCoordination := ⟨false, true, false, true⟩
def AUTH_CONTINUATION : CommandCoordination := ⟨false, true, true, true⟩
def AUTH_STEP : CommandCoordination := ⟨false, true, true, false⟩
def TRANSPORT : CommandCoordination := ⟨false, true, true, false⟩
def READER_MODE : CommandCoordination := ⟨false, false, true, false⟩
def SESSION_END : CommandCoordination := ⟨false, true, true, false⟩
def UNKNOWN : CommandCoordination := ⟨false, false, false, false⟩

end CommandCoordination

def RequestKind.coordination : RequestKind → CommandCoordination
  | .article | .body | .head | .stat
  | .listActive | .listActiveTimes | .listNewsgroups | .listOverviewFmt | .listHeaders
  | .listDistribPats | .list | .help | .capabilities | .date
  | .over | .xover | .hdr | .xhdr | .newGroups | .newNews
  | .check | .takeThis | .modeStream => .PIPELINED
  | .group | .listGroup | .last | .next => .SESSION_POINTER
  | .post | .ihave => .CONTINUATION
  | .authInfo => .AUTH_CONTINUATION
  | .authInfoUser | .authInfoPass => .AUTH_STEP
  | .startTls => .TRANSPORT
  | .modeReader => .READER_MODE
  | .quit => .SESSION_END
  | .unknown => .UNKNOWN

inductive ResponseFraming where
  | singleLine
  | multiline
  | unexpected
  deriving DecidableEq, Repr

def ResponseFraming.isMultiline (self : ResponseFraming) : Bool := self = .multiline

structure ResponseDescriptor where
  kind : RequestKind
  status : Nat
  framing : ResponseFraming
  deriving DecidableEq, Repr

def isGenericErrorStatus (code : Nat) : Bool :=
  code ∈ [400, 401, 403, 480, 483, 500, 501, 502, 503, 504]

def isGenericErrorStatusForRequest (kind : RequestKind) (code : Nat) : Bool :=
  if kind ∈ [.capabilities, .quit] then code = 501
  else if kind ∈ [.head, .help, .stat] ∧ code = 500 then false
  else
    !((kind = .startTls && (code = 480 || code = 483)) ||
        (kind ∈ [.authInfoUser, .authInfoPass, .authInfo] && code = 480)) &&
      isGenericErrorStatus code

def responseInitialLineLimit (kind : RequestKind) (status : Option StatusCode) : Nat :=
  if kind = .authInfo ∧ (∃ code ∈ status, code.code = 283 ∨ code.code = 383) then
    MAX_AUTHINFO_SASL_RESPONSE_LINE_BYTES
  else MAX_INITIAL_RESPONSE_LINE_BYTES

def isSpecificErrorStatusForRequest (kind : RequestKind) (code : Nat) : Bool :=
  match kind with
  | .article | .body | .head | .stat => code ∈ [412, 420, 423, 430]
  | .group => code = 411
  | .listGroup => code ∈ [411, 412]
  | .last => code ∈ [412, 420, 422]
  | .next => code ∈ [412, 420, 421]
  | .over => code ∈ [412, 420, 423, 430]
  | .xover => code ∈ [412, 420]
  | .hdr => code ∈ [412, 420, 423, 430]
  | .xhdr => code ∈ [412, 420, 430]
  | .post => code ∈ [440, 441]
  | .ihave => 435 ≤ code && code ≤ 437
  | .check => code ∈ [431, 438]
  | .takeThis => code = 439
  | .authInfoUser | .authInfoPass | .authInfo => code ∈ [481, 482]
  | .startTls => code = 580
  | _ => false

def statusImpliesMultiline (code : Nat) : Bool :=
  code ∈ [100, 101, 211, 215, 220, 221, 222, 224, 225, 230, 231, 282, 288]

def RESPONSE_DESCRIPTORS : List ResponseDescriptor :=
  [⟨.article, 220, .multiline⟩, ⟨.head, 221, .multiline⟩, ⟨.body, 222, .multiline⟩,
    ⟨.stat, 223, .singleLine⟩,
    ⟨.group, 211, .singleLine⟩, ⟨.listGroup, 211, .multiline⟩, ⟨.last, 223, .singleLine⟩,
    ⟨.next, 223, .singleLine⟩,
    ⟨.date, 111, .singleLine⟩, ⟨.help, 100, .multiline⟩, ⟨.newGroups, 231, .multiline⟩,
    ⟨.newNews, 230, .multiline⟩, ⟨.list, 215, .multiline⟩, ⟨.listActive, 215, .multiline⟩,
    ⟨.listActiveTimes, 215, .multiline⟩, ⟨.listNewsgroups, 215, .multiline⟩,
    ⟨.listOverviewFmt, 215, .multiline⟩, ⟨.listHeaders, 215, .multiline⟩,
    ⟨.listDistribPats, 215, .multiline⟩,
    ⟨.over, 224, .multiline⟩, ⟨.xover, 224, .multiline⟩, ⟨.hdr, 225, .multiline⟩,
    ⟨.xhdr, 221, .multiline⟩,
    ⟨.post, 340, .singleLine⟩, ⟨.post, 240, .singleLine⟩, ⟨.ihave, 335, .singleLine⟩,
    ⟨.ihave, 235, .singleLine⟩,
    ⟨.check, 238, .singleLine⟩, ⟨.takeThis, 239, .singleLine⟩,
    ⟨.authInfoUser, 381, .singleLine⟩, ⟨.authInfoUser, 281, .singleLine⟩,
    ⟨.authInfoPass, 281, .singleLine⟩, ⟨.authInfo, 281, .singleLine⟩,
    ⟨.authInfo, 283, .singleLine⟩, ⟨.authInfo, 383, .singleLine⟩,
    ⟨.capabilities, 101, .multiline⟩, ⟨.modeReader, 200, .singleLine⟩,
    ⟨.modeReader, 201, .singleLine⟩, ⟨.modeStream, 203, .singleLine⟩,
    ⟨.quit, 205, .singleLine⟩, ⟨.startTls, 382, .singleLine⟩]

def responsesForRequest (kind : RequestKind) : List ResponseDescriptor :=
  RESPONSE_DESCRIPTORS.filter (·.kind = kind)

def ResponseDescriptor.forRequestStatus (kind : RequestKind) (status : StatusCode) :
    ResponseDescriptor :=
  if status.isError then
    if kind = .unknown || isGenericErrorStatusForRequest kind status.code ||
        isSpecificErrorStatusForRequest kind status.code then
      ⟨kind, status.code, .singleLine⟩
    else ⟨kind, status.code, .unexpected⟩
  else
    match (responsesForRequest kind).find? (·.status = status.code) with
    | some descriptor => descriptor
    | none =>
      if kind = .unknown ∧ statusImpliesMultiline status.code then
        ⟨kind, status.code, .multiline⟩
      else if kind = .unknown then ⟨kind, status.code, .singleLine⟩
      else ⟨kind, status.code, .unexpected⟩

/-- The pairs whose responses carry an article status line. -/
def isArticlePair (kind : RequestKind) (status : Nat) : Bool :=
  (kind = .article && status = 220) || (kind = .head && status = 221) ||
    (kind = .body && status = 222) || (kind = .stat && status = 223)

end NntpBench.Protocol
