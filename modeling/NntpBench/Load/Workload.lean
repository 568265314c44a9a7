import NntpBench.CommandRoundTrip
import NntpBench.Load.ResponseReader

namespace NntpBench.Load

open Protocol Terminator

inductive ClientCommandMix where
  | article
  | body
  | stat
  | alternate
  | mixed
  deriving DecidableEq, Repr

inductive LoadWorkloadPolicy where
  | disjoint
  | shared
  | «repeat»
  deriving DecidableEq, Repr

inductive LoadVerificationPolicy where
  | none
  | sampled
  | full
  deriving DecidableEq, Repr

def LoadVerificationPolicy.verifies (self : LoadVerificationPolicy)
    (requestIndex : UInt64) : Bool :=
  match self with
  | .none => false
  | .sampled => requestIndex % 100 = 0
  | .full => true

/-- The message-ids of a segment file, of which `read_segments` returns at least one, and the size
that the file declares for each. -/
structure SegmentSet where
  ids : List MessageId
  declaredSizes : List UInt64
  nonempty : ids ≠ []
  length_declaredSizes : declaredSizes.length = ids.length

inductive LoadError where
  | barrierCommand
  | invalidSyntheticMessageId
  | writeFailed
  | writeTimedOut
  | read (error : LoadReadError)
  deriving DecidableEq, Repr

def syntheticRequestId (startId clientIndex requestIndex totalClients : UInt64)
    (policy : LoadWorkloadPolicy) : UInt64 :=
  match policy with
  | .disjoint => startId + clientIndex + requestIndex * totalClients
  | .shared => startId + requestIndex
  | .repeat => startId

/-- The product wraps. The sum is a checked addition, whose overflow is not modelled: it does not
happen for the requests of a run. -/
def segmentRefForRequest (segments : SegmentSet) (clientIndex totalClients requestId : UInt64) :
    MessageId :=
  segments.ids.get ⟨(clientIndex + requestId * totalClients).toNat % segments.ids.length,
    Nat.mod_lt _ (List.length_pos_of_ne_nil segments.nonempty)⟩

def segmentForRequest (segments : SegmentSet) (clientIndex totalClients requestId : UInt64) :
    MessageId := segmentRefForRequest segments clientIndex totalClients requestId

def syntheticMessageId (id : UInt64) : Str :=
  "<bench.".toList ++ Nat.toDigits 10 id.toNat ++ "@nntpbench.local>".toList

/-- The mixes that stand for one command. -/
def ClientCommandMix.Normalized (self : ClientCommandMix) : Prop :=
  self ≠ .alternate ∧ self ≠ .mixed

instance (mix : ClientCommandMix) : Decidable mix.Normalized :=
  inferInstanceAs (Decidable (_ ∧ _))

/-- What `client_command_kind` returns; its callers' `unreachable!` arms do not arise. -/
abbrev NormalizedCommand := { mix : ClientCommandMix // mix.Normalized }

def clientCommandKind (id : UInt64) (mix : ClientCommandMix) : NormalizedCommand :=
  match mix with
  | .alternate => if id % 2 = 0 then ⟨.body, by decide⟩ else ⟨.article, by decide⟩
  | .mixed =>
    if id % 3 = 0 then ⟨.article, by decide⟩
    else if id % 3 = 1 then ⟨.body, by decide⟩
    else ⟨.stat, by decide⟩
  | .article => ⟨.article, by decide⟩
  | .body => ⟨.body, by decide⟩
  | .stat => ⟨.stat, by decide⟩

def requestKindForNormalizedClientCommand : NormalizedCommand → RequestKind
  | ⟨.article, _⟩ => .article
  | ⟨.body, _⟩ => .body
  | ⟨.stat, _⟩ => .stat
  | ⟨.alternate, h⟩ => absurd rfl h.1
  | ⟨.mixed, h⟩ => absurd rfl h.2

def requestKindForClientCommand (commandId : UInt64) (mix : ClientCommandMix) : RequestKind :=
  requestKindForNormalizedClientCommand (clientCommandKind commandId mix)

def commandVerb : NormalizedCommand → Bytes
  | ⟨.article, _⟩ => ascii "ARTICLE"
  | ⟨.body, _⟩ => ascii "BODY"
  | ⟨.stat, _⟩ => ascii "STAT"
  | ⟨.alternate, h⟩ => absurd rfl h.1
  | ⟨.mixed, h⟩ => absurd rfl h.2

def allowsThroughputPipeline (self : CommandCoordination) : Bool :=
  self.allowsFollowingPipeline && !self.requiresExclusiveConnection && !self.changesSessionState &&
    !self.entersContinuation

def SYNTHETIC_MESSAGE_ID_CAPACITY : Nat := 64

def requestMessageIdForCommand (_kind : NormalizedCommand) (commandId requestIndex : UInt64)
    (segments : Option SegmentSet) (clientIndex totalClients : UInt64) :
    Except LoadError MessageId :=
  match segments with
  | some segments => .ok (segmentForRequest segments clientIndex totalClients requestIndex)
  | none =>
    let messageId := syntheticMessageId commandId
    if (asBytes messageId).length > SYNTHETIC_MESSAGE_ID_CAPACITY then
      .error .invalidSyntheticMessageId
    else
      match MessageId.fromBorrowed messageId with
      | none => .error .invalidSyntheticMessageId
      | some messageId => .ok messageId

structure LoadWorkloadRequest where
  commandId : UInt64
  syntheticId : UInt64
  requestIndex : UInt64
  mix : ClientCommandMix
  segments : Option SegmentSet
  clientIndex : UInt64
  totalClients : UInt64

def appendLoadWorkloadRequest (buffer : Bytes) (workload : LoadWorkloadRequest) :
    Except LoadError Bytes :=
  let kind := clientCommandKind workload.commandId workload.mix
  let requestKind := requestKindForNormalizedClientCommand kind
  if !allowsThroughputPipeline requestKind.coordination then .error .barrierCommand
  else
    let buffer := buffer ++ commandVerb kind ++ [SP]
    let buffer :=
      match workload.segments with
      | some segments =>
        let messageId := segmentForRequest segments workload.clientIndex workload.totalClients
          workload.requestIndex
        buffer ++ asBytes messageId.value
      | none => buffer ++ asBytes (syntheticMessageId workload.syntheticId)
    .ok (buffer ++ CRLF)

theorem asBytes_syntheticMessageId (id : UInt64) :
    asBytes (syntheticMessageId id) =
      ascii "<bench." ++ decimalText id.toNat ++ ascii "@nntpbench.local>" := by
  have hopen : asBytes "<bench.".toList = ascii "<bench." := by decide +kernel
  have hclose : asBytes "@nntpbench.local>".toList = ascii "@nntpbench.local>" := by decide +kernel
  have hdigits : asBytes (Nat.toDigits 10 id.toNat) = decimalText id.toNat :=
    (asBytes_of_isDigit fun _ => isDigit_of_mem_toDigits).trans (decimalText_eq _).symm
  calc asBytes (syntheticMessageId id)
      = asBytes "<bench.".toList ++ asBytes (Nat.toDigits 10 id.toNat) ++
          asBytes "@nntpbench.local>".toList := by
        unfold syntheticMessageId
        simp only [asBytes, Utf8.encode_append]
    _ = ascii "<bench." ++ decimalText id.toNat ++ ascii "@nntpbench.local>" := by
        rw [hopen, hdigits, hclose]

theorem length_syntheticMessageId_le (id : UInt64) :
    (asBytes (syntheticMessageId id)).length ≤ SYNTHETIC_MESSAGE_ID_CAPACITY := by
  have hdigits : (decimalText id.toNat).length ≤ 20 :=
    length_decimalText_le (by decide) (id.toNat_lt.trans (by decide))
  have hopen : (ascii "<bench.").length = 7 := by decide
  have hclose : (ascii "@nntpbench.local>").length = 17 := by decide
  rw [asBytes_syntheticMessageId, List.length_append, List.length_append, hopen, hclose]
  unfold SYNTHETIC_MESSAGE_ID_CAPACITY
  omega

theorem validateMessageId_synthetic (id : UInt64) :
    validateMessageId (syntheticMessageId id) = true := by
  let inner := ascii "bench." ++ decimalText id.toNat ++ ascii "@nntpbench.local"
  have hbytes : asBytes (syntheticMessageId id) = 60 :: (inner ++ [62]) := by
    have hopen : ascii "<bench." = 60 :: ascii "bench." := by decide
    have hclose : ascii "@nntpbench.local>" = ascii "@nntpbench.local" ++ [62] := by decide
    rw [asBytes_syntheticMessageId, hopen, hclose]
    simp [inner]
  have hinner : inner.all isMessageIdByte = true := by
    have hdigits : (decimalText id.toNat).all isMessageIdByte = true := by
      rw [List.all_eq_true]
      intro byte hbyte
      have hdigit := isAsciiDigit_of_mem_decimalText hbyte
      simp only [isAsciiDigit, Bool.and_eq_true, decide_eq_true_eq] at hdigit
      have hlow : (0x21 : UInt8) ≤ 48 := by decide
      have hhigh : (57 : UInt8) ≤ 0x3d := by decide
      simp only [isMessageIdByte, Bool.or_eq_true, Bool.and_eq_true, decide_eq_true_eq]
      exact Or.inl ⟨UInt8.le_trans hlow hdigit.1, UInt8.le_trans hdigit.2 hhigh⟩
    have hopen : (ascii "bench.").all isMessageIdByte = true := by decide
    have hclose : (ascii "@nntpbench.local").all isMessageIdByte = true := by decide
    simp only [inner, List.all_append, hopen, hdigits, hclose, Bool.and_self]
  have hlength := length_syntheticMessageId_le id
  have hne : inner ≠ [] := by simp [inner, ascii]
  have hpos := List.length_pos_of_ne_nil hne
  have hhead : (syntheticMessageId id).head? = some '<' := by
    have hopen : "<bench.".toList.head? = some '<' := by decide
    unfold syntheticMessageId
    simp only [List.append_assoc, List.head?_append, hopen, Option.some_or]
  have hlast : (syntheticMessageId id).getLast? = some '>' := by
    have hclose : "@nntpbench.local>".toList.getLast? = some '>' := by decide
    unfold syntheticMessageId
    simp only [List.getLast?_append, hclose, Option.some_or]
  unfold SYNTHETIC_MESSAGE_ID_CAPACITY at hlength
  unfold validateMessageId
  rw [hbytes] at hlength ⊢
  simp only [List.length_cons, List.length_append, List.length_nil] at hlength
  simp only [hhead, hlast, List.extract_eq_take_drop, List.length_cons, List.length_append,
    List.length_nil, List.drop_succ_cons, List.drop_zero, Bool.and_eq_true, decide_eq_true_eq]
  have htake : (inner ++ [62]).take (inner.length + (0 + 1) + 1 - 1 - 1) = inner := by
    rw [Nat.zero_add, Nat.add_sub_cancel, Nat.add_sub_cancel, List.take_left]
  rw [htake]
  exact ⟨⟨⟨⟨by omega, by omega⟩, trivial⟩, trivial⟩, hinner⟩

namespace LoadWorkloadRequest

def messageId (self : LoadWorkloadRequest) : MessageId :=
  match self.segments with
  | some segments => segmentForRequest segments self.clientIndex self.totalClients self.requestIndex
  | none => ⟨syntheticMessageId self.syntheticId, validateMessageId_synthetic self.syntheticId⟩

def kind (self : LoadWorkloadRequest) : NormalizedCommand :=
    clientCommandKind self.commandId self.mix

def line (self : LoadWorkloadRequest) : Bytes :=
  commandBytes (commandVerb self.kind) (asBytes self.messageId.value)

theorem requestMessageIdForCommand_eq (self : LoadWorkloadRequest) (kind : NormalizedCommand) :
    requestMessageIdForCommand kind self.syntheticId self.requestIndex self.segments
      self.clientIndex
      self.totalClients = .ok self.messageId := by
  unfold requestMessageIdForCommand messageId
  cases self.segments with
  | some segments => rfl
  | none =>
    have hlength := length_syntheticMessageId_le self.syntheticId
    dsimp only
    rw [if_neg (by omega), MessageId.fromBorrowed, dif_pos (validateMessageId_synthetic _)]

theorem appendLoadWorkloadRequest_eq (self : LoadWorkloadRequest) (buffer : Bytes) :
    appendLoadWorkloadRequest buffer self = .ok (buffer ++ self.line) := by
  have hpipeline : ∀ kind : NormalizedCommand,
      allowsThroughputPipeline (requestKindForNormalizedClientCommand kind).coordination =
        true := by
    rintro ⟨kind, hkind⟩
    cases kind with
    | article | body | stat => rfl
    | alternate => exact absurd rfl hkind.1
    | mixed => exact absurd rfl hkind.2
  have hline : self.line = commandVerb self.kind ++ [SP] ++ asBytes self.messageId.value ++
      CRLF := by
    rw [line, commandBytes_of_ne_nil _ self.messageId.isArgument.nonempty]
    rfl
  unfold appendLoadWorkloadRequest
  rw [hline]
  dsimp only
  rw [hpipeline]
  unfold messageId kind
  cases self.segments <;> simp

def request (self : LoadWorkloadRequest) : Request :=
  match self.kind with
  | ⟨.article, _⟩ => .article (.messageId self.messageId)
  | ⟨.body, _⟩ => .body (.messageId self.messageId)
  | ⟨.stat, _⟩ => .stat (.messageId self.messageId)
  | ⟨.alternate, h⟩ => absurd rfl h.1
  | ⟨.mixed, h⟩ => absurd rfl h.2

theorem request_spec (self : LoadWorkloadRequest) :
    self.request.Constructed ∧ (∀ kind value, self.request ≠ .authInfo kind value) ∧
      self.request.command = (commandVerb self.kind, [asBytes self.messageId.value]) ∧
      self.request.kind = requestKindForNormalizedClientCommand self.kind := by
  unfold request
  generalize self.kind = kind
  obtain ⟨kind, hkind⟩ := kind
  cases kind with
  | article | body | stat => exact ⟨trivial, by simp, rfl, rfl⟩
  | alternate => exact absurd rfl hkind.1
  | mixed => exact absurd rfl hkind.2

theorem isArgument_commandVerb (self : LoadWorkloadRequest) : IsArgument
    (commandVerb self.kind) := by
  have hverb := self.request.isArgument_verb
  rwa [self.request_spec.2.2.1] at hverb

theorem spaced_messageId (self : LoadWorkloadRequest) : Spaced (asBytes self.messageId.value) :=
  self.messageId.isArgument.visible.spaced

theorem line_eq (self : LoadWorkloadRequest) :
    ∃ content, self.line = content ++ CRLF ∧ Clean content :=
  ⟨_, rfl, (spaced_line self.isArgument_commandVerb self.spaced_messageId).clean⟩

theorem parse_line (self : LoadWorkloadRequest) :
    (RequestLine.parse self.line).kind = requestKindForNormalizedClientCommand self.kind ∧
      (RequestLine.parse self.line).messageId = some self.messageId := by
  -- The server reads the line as the command and the message-id it was written for.
  obtain ⟨hconstructed, hauth, hcommand, hkind⟩ := self.request_spec
  have hclassify := Request.classify_command hconstructed hauth
  rw [hcommand, joinArgs_singleton] at hclassify
  have hid : (asBytes self.messageId.value).length ≤ 250 := by
    have hvalid := self.messageId.valid
    simp only [validateMessageId, Bool.and_eq_true, decide_eq_true_eq] at hvalid
    exact hvalid.1.1.1.2
  have hword : (commandVerb self.kind).length ≤ 7 := by
    generalize self.kind = kind
    obtain ⟨kind, hkind⟩ := kind
    cases kind with
    | article | body | stat => exact of_decide_eq_true rfl
    | alternate => exact absurd rfl hkind.1
    | mixed => exact absurd rfl hkind.2
  have hparse : RequestLine.parse self.line =
      ⟨requestKindForNormalizedClientCommand self.kind, commandVerb self.kind,
        asBytes self.messageId.value⟩ := by
    rw [line, parse_commandBytes self.isArgument_commandVerb self.spaced_messageId, hclassify,
      hkind]
    · rw [commandBytes_of_ne_nil _ self.messageId.isArgument.nonempty]
      have hblank : (ascii " ").length = 1 := by decide
      simp only [List.length_append, length_crlf, hblank]
      unfold MAX_INITIAL_RESPONSE_LINE_BYTES
      omega
    · unfold MAX_COMMAND_ARGUMENT_BYTES
      omega
  rw [hparse]
  exact ⟨rfl, by rw [messageId_of_spaced _ _ self.spaced_messageId, readMessageId_asBytes]⟩

end LoadWorkloadRequest

end NntpBench.Load
