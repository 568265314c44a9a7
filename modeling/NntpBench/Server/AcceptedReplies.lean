import NntpBench.Server.DateReply
import NntpBench.Server.GeneratedArticles
import NntpBench.Server.Sessions

namespace NntpBench.Server

open Protocol Terminator

variable {kind : RequestKind} {response : Bytes} {state : SessionState}

/-- The command is handled, and its reply is one frame. -/
def Accepted (kind : RequestKind) (outcome : Except ServerError Handled) : Prop :=
  ∃ handled, outcome = .ok handled ∧ IsFrame kind handled.reply.bytes

theorem accepted_ok {handled : Handled} (h : IsFrame kind handled.reply.bytes) :
    Accepted kind (.ok handled) :=
  ⟨handled, rfl, h⟩

def RETRIEVAL_REFUSALS : List Bytes :=
  [NO_NEWSGROUP_SELECTED, NO_CURRENT_ARTICLE, NO_ARTICLE_WITH_NUMBER, NO_ARTICLE_WITH_MESSAGE_ID]

theorem isFrame_retrieval_refusal (hkind : isRetrieval kind = true)
    (h : response ∈ RETRIEVAL_REFUSALS) : IsFrame kind response := by
  have hall : ∀ kind ∈ [RequestKind.article, .body, .head, .stat], ∀ response ∈ RETRIEVAL_REFUSALS,
      IsFrame kind response := by decide
  apply hall kind _ response h
  simpa [isRetrieval, or_assoc] using hkind

theorem mem_of_articleSelectorError {config : ServerConfig} {command : ParsedCommand}
    {commandLines : Option CommandLineBatch} {allowed : Bool}
    (h : articleSelectorError command commandLines state config allowed = some response) :
    response ∈ RETRIEVAL_REFUSALS := by
  unfold articleSelectorError at h
  dsimp only at h
  repeat' split at h
  all_goals
    first
    | simp [RETRIEVAL_REFUSALS, ← Option.some.inj h]
    | cases h

theorem mem_of_currentGroupContains {article : Nat}
    (h : state.currentGroupContains article none = true) : article ∈ [1, 2, 3] := by
  obtain ⟨articles, harticles, hmem⟩ := SessionState.currentGroupContains_iff.mp h
  obtain ⟨group, -, hnumbers⟩ := Option.bind_eq_some_iff.mp harticles
  cases group with
  | indexed name => cases hnumbers
  | fixture group =>
    have hfixture : ∀ group : FixtureGroup, group.articleNumbers ⊆ [1, 2, 3] := by
      intro group
      cases group <;> decide
    apply hfixture group
    rw [Option.some.inj hnumbers]
    exact hmem

section Arms

variable {encodeStream : Bytes → Bytes} (hyenc : YencLines encodeStream) {args : ServerArgs}
  (hdir : args.articleDir = none) {kept : KeptCommand} {memory : SessionMemory}
  (hpoints : memory.sessionState.Points none)

include hyenc hdir hpoints

theorem accepted_handleArticle (hkind : kept.request.kind = .article) :
    Accepted .article (handleArticle (.fromBoundArgs encodeStream args) kept.command
      (some kept.commandLines) memory) := by
  have hindex := articleIndex_of_noDir encodeStream hdir
  have hretrieval : isRetrieval kept.request.kind = true := by
    rw [hkind]
    rfl
  have hconfig : (ServerConfig.fromBoundArgs encodeStream args).articleDir.isSome = false := by
    show args.articleDir.isSome = false
    rw [hdir]
    rfl
  unfold handleArticle
  cases herror : articleSelectorError kept.command (some kept.commandLines) memory.sessionState
      (.fromBoundArgs encodeStream args) true with
  | some response =>
    exact accepted_ok (isFrame_retrieval_refusal rfl (mem_of_articleSelectorError herror))
  | none =>
    rw [← hindex] at hpoints
    dsimp only
    rw [hconfig, if_neg Bool.false_ne_true]
    rcases contains_of_articleSelectorError hretrieval hpoints herror with
      ⟨messageId, hid, -⟩ | ⟨hid, article, harticle, hcontains⟩
    · -- by message-id: the header and the payload are written behind each other
      rw [commandMessageId_some hid]
      apply accepted_ok
      obtain ⟨lines, hpayload⟩ := payloadLines_slice hyenc args.payloadMode args.articleBytes
        args.articleBytes (buildArticleResponseHeaderInto memory.responseBuffer 0
          (asBytes messageId.value)).length
      exact isFrame_generated_article messageId.valid (Nat.zero_le _) hpayload
    · rw [commandMessageId_none hid]
      rw [hindex] at hcontains
      have hselected : selectedArticleId kept.command memory = article := by
        rw [selectedArticleId, harticle, Option.getD_some]
      dsimp only
      rw [hselected]
      split_ifs with hfirst
      · exact accepted_ok (isFrame_articleResponse hyenc args)
      · apply accepted_ok
        obtain ⟨lines, hpayload⟩ := payloadLines_slice hyenc args.payloadMode args.articleBytes
          args.articleBytes (buildArticleResponseHeaderInto memory.responseBuffer article
            (selectedMessageId article)).length
        exact isFrame_selected_article (mem_of_currentGroupContains hcontains) hpayload

omit hyenc in
theorem accepted_handleRetrieval (hretrieval : isRetrieval kind = true)
    (hkind : kept.request.kind = kind) {first : Bytes} {buildMessageId : Bytes → Str → Bytes}
    {buildSelected : Bytes → Nat → Bytes} (hfirst : IsFrame kind first)
    (hmessageId : ∀ buffer messageId, validateMessageId messageId = true →
      IsFrame kind (buildMessageId buffer messageId))
    (hselected : ∀ buffer article, article ∈ [1, 2, 3] →
      IsFrame kind (buildSelected buffer article)) :
    Accepted kind (handleRetrieval (.fromBoundArgs encodeStream args) kept.command
      (some kept.commandLines) memory kind first buildMessageId buildSelected) := by
  -- The arms of HEAD, STAT and BODY, for the three kinds of replies they give.
  have hindex := articleIndex_of_noDir encodeStream hdir
  have hstored (articleId : Option Nat) (messageId : Option Str) :
      storedArticleReply (.fromBoundArgs encodeStream args) kind articleId messageId =
        .ok none := by
    unfold storedArticleReply ServerConfig.fromBoundArgs
    dsimp only
    rw [hdir]
  have hconfig : (ServerConfig.fromBoundArgs encodeStream args).articleDir.isSome = false := by
    show args.articleDir.isSome = false
    rw [hdir]
    rfl
  unfold handleRetrieval
  cases herror : articleSelectorError kept.command (some kept.commandLines) memory.sessionState
      (.fromBoundArgs encodeStream args) true with
  | some response =>
    exact accepted_ok (isFrame_retrieval_refusal hretrieval (mem_of_articleSelectorError herror))
  | none =>
    rw [← hindex] at hpoints
    dsimp only
    rcases contains_of_articleSelectorError (by rw [hkind]; exact hretrieval) hpoints herror with
      ⟨messageId, hid, -⟩ | ⟨hid, article, harticle, hcontains⟩
    · rw [commandMessageId_some hid]
      dsimp only
      rw [hstored, hconfig]
      dsimp only [bind, Except.bind]
      rw [if_neg Bool.false_ne_true]
      split_ifs
      · have hmem : NO_ARTICLE_WITH_MESSAGE_ID ∈ RETRIEVAL_REFUSALS := by simp [RETRIEVAL_REFUSALS]
        exact accepted_ok (isFrame_retrieval_refusal hretrieval hmem)
      · exact accepted_ok (hmessageId _ _ messageId.valid)
    · rw [commandMessageId_none hid]
      rw [hindex] at hcontains
      have hchosen : selectedArticleId kept.command memory = article := by
        rw [selectedArticleId, harticle, Option.getD_some]
      dsimp only
      rw [hstored, hchosen]
      dsimp only [bind, Except.bind]
      split_ifs
      · exact accepted_ok hfirst
      · exact accepted_ok (hselected _ _ (mem_of_currentGroupContains hcontains))

omit hyenc in
theorem accepted_handleHead (hkind : kept.request.kind = .head) :
    Accepted .head (handleHead (.fromBoundArgs encodeStream args) kept.command
      (some kept.commandLines) memory) := by
  apply accepted_handleRetrieval hdir hpoints rfl hkind
  · show IsFrame .head HEAD_RESPONSE
    rw [HEAD_RESPONSE_eq]
    exact isFrame_selected_head (by decide) []
  · exact fun buffer messageId hid => isFrame_generated_head hid (Nat.zero_le _) buffer
  · exact fun buffer article hmem => isFrame_selected_head hmem buffer

omit hyenc in
theorem accepted_handleStat (hkind : kept.request.kind = .stat) :
    Accepted .stat (handleStat (.fromBoundArgs encodeStream args) kept.command
      (some kept.commandLines) memory) := by
  apply accepted_handleRetrieval hdir hpoints rfl hkind
  · show IsFrame .stat STAT_RESPONSE
    rw [STAT_RESPONSE_eq]
    exact isFrame_selected_stat (by decide) []
  · exact fun buffer messageId hid => isFrame_generated_stat hid (Nat.zero_le _) buffer
  · exact fun buffer article hmem => isFrame_selected_stat hmem buffer

theorem accepted_handleBody (hkind : kept.request.kind = .body) :
    Accepted .body (handleBody (.fromBoundArgs encodeStream args) kept.command
      (some kept.commandLines) memory) := by
  apply accepted_handleRetrieval hdir hpoints rfl hkind
  · exact isFrame_bodyResponse hyenc args
  · intro buffer messageId hid
    obtain ⟨lines, hpayload⟩ := payloadLines_slice hyenc args.payloadMode args.bodyBytes
      args.bodyBytes (articleStatusLine "222" 0 (asBytes messageId) " body follows").length
    exact isFrame_generated_body hid (Nat.zero_le _) hpayload
  · intro buffer article hmem
    obtain ⟨lines, hpayload⟩ := payloadLines_slice hyenc args.payloadMode args.bodyBytes
      args.bodyBytes
      (articleStatusLine "222" article (selectedMessageId article) " body follows").length
    exact isFrame_selected_body hmem hpayload

end Arms

section Groups

variable {config : ServerConfig} (hindex : config.articleIndex = none) {kept : KeptCommand}
  {memory : SessionMemory}
include hindex

theorem isFrame_handleGroup :
    IsFrame .group (handleGroup config kept.command (some kept.commandLines)
      memory).reply.bytes := by
  unfold handleGroup
  dsimp only
  rw [hindex]
  dsimp only
  split
  · show IsFrame .group NO_SUCH_NEWSGROUP
    decide
  · next group _ => exact isFrame_groupResponseForGroup group

theorem isFrame_handleListGroup :
    IsFrame .listGroup (handleListGroup config kept.command (some kept.commandLines)
      memory).reply.bytes := by
  unfold handleListGroup
  dsimp only
  split
  · next response herror =>
    have hrefusal : ∀ response ∈ [NO_SUCH_NEWSGROUP, NO_NEWSGROUP_SELECTED],
        IsFrame .listGroup response := by decide
    apply hrefusal
    unfold listgroupStateError at herror
    split_ifs at herror
    · simp [SessionMemory.answer, Reply.bytes, ← Option.some.inj herror]
    · simp [SessionMemory.answer, Reply.bytes, ← Option.some.inj herror]
  · rw [hindex]
    exact isFrame_listgroupResponseForArgs _ _

theorem accepted_handleNavigation {move : Nat → Option Nat} {missing : Bytes}
    {fixtureResponse : Nat → Bytes} (hnavigates : Navigates config memory move fixtureResponse)
    (hmissing : ∀ response ∈ [NO_NEWSGROUP_SELECTED, NO_CURRENT_ARTICLE, missing],
      IsFrame kind response)
    (hfixture : ∀ article, (fixtureResponse article).head? = some 50 →
      IsFrame kind (fixtureResponse article)) :
    Accepted kind (handleNavigation config memory move missing fixtureResponse) := by
  simp only [List.forall_mem_cons, List.not_mem_nil, false_implies, implies_true,
    and_true] at hmissing
  unfold handleNavigation
  split_ifs
  · exact accepted_ok hmissing.1
  cases hcurrent : memory.sessionState.currentArticle with
  | none => exact accepted_ok hmissing.2.1
  | some current =>
    dsimp only
    cases hmove : move current with
    | none => exact accepted_ok hmissing.2.2
    | some article =>
      obtain ⟨-, hhead⟩ := hnavigates current article hcurrent hmove
      dsimp only
      unfold navigateTo
      rw [hindex]
      exact accepted_ok (hfixture article (hhead hindex))

theorem accepted_handleLast (hpoints : memory.sessionState.Points none) :
    Accepted .last (handleLast config memory) := by
  rw [← hindex] at hpoints
  apply accepted_handleNavigation hindex (navigates_last hpoints)
  · decide
  · intro article hhead
    unfold lastResponseForArticle at hhead ⊢
    split at hhead
    · decide
    · decide
    · exact absurd hhead (by decide)

theorem accepted_handleNext (hpoints : memory.sessionState.Points none) :
    Accepted .next (handleNext config memory) := by
  rw [← hindex] at hpoints
  apply accepted_handleNavigation hindex (navigates_next hpoints)
  · decide
  · intro article hhead
    unfold nextResponseForArticle at hhead ⊢
    split at hhead
    · decide
    · decide
    · exact absurd hhead (by decide)

end Groups

def SELECTOR_REFUSALS (kind : RequestKind) : List Bytes :=
  [NO_NEWSGROUP_SELECTED, NO_CURRENT_ARTICLE] ++
    (if kind = .hdr ∨ kind = .xhdr then [crlfText ["503 HDR field unavailable"]] else []) ++
    (if kind = .xover ∨ kind = .xhdr then [crlfText ["420 no article(s) selected"]]
      else [crlfText ["423 no articles in that range"], NO_ARTICLE_WITH_NUMBER]) ++
    (if kind = .xover then [] else [NO_ARTICLE_WITH_MESSAGE_ID])

theorem isFrame_selector_refusal : ∀ kind ∈ [RequestKind.over, .xover, .hdr, .xhdr],
    ∀ response ∈ SELECTOR_REFUSALS kind, IsFrame kind response := by
  decide

theorem missing_of_xover {line : Bytes} (h : (RequestLine.parse line).kind = .xover) :
    containsSubslice (lineArgs line) (ascii "missing") = false := by
  -- The arguments of XOVER are a range: they do not contain a letter.
  have hknown : (RequestLine.parse line).kind ≠ .unknown := by
    rw [h]
    decide
  obtain ⟨-, -, -, hclass⟩ := parse_of_known hknown
  rw [h] at hclass
  have hdirect := classifyDirectCommand_of_classify (ascii "XOVER") (by decide) hclass.symm
  obtain ⟨blanks, hblanks, hargs⟩ := lineArgs_eq hknown
  generalize (RequestLine.parse line).args = args at hdirect hargs
  have hrange : ∀ byte ∈ args, isAsciiDigit byte = true ∨ byte = 45 := by
    change kindIf .xover (args = [] || validateUtf8Arg validateListgroupRange args) =
      .xover at hdirect
    unfold kindIf at hdirect
    split_ifs at hdirect with hvalid
    simp only [Bool.or_eq_true, decide_eq_true_eq] at hvalid
    rcases hvalid with rfl | hvalid
    · intro byte hbyte
      cases hbyte
    · obtain ⟨value, hvalue, hvalid⟩ := (Option.any_eq_true _ _).mp hvalid
      unfold validateListgroupRange at hvalid
      split_ifs at hvalid
      rw [← Utf8.encode_of_decode hvalue]
      exact isRangeByte_of_validateNumberRange hvalid
  have hletter : (109 : UInt8) ∉ lineArgs line := by
    rw [hargs]
    split_ifs
    · simp
    · rw [List.mem_append, not_or]
      constructor
      · intro hmem
        rcases hrange _ hmem with hdigit | hdash
        · exact absurd hdigit (by decide)
        · exact absurd hdash (by decide)
      · intro hmem
        exact absurd (hblanks _ hmem) (by decide)
  unfold containsSubslice
  rw [decide_eq_false_iff_not]
  intro hinside
  exact hletter (hinside.subset (by decide))

theorem mem_of_overviewSelectorError {kept : KeptCommand}
    (hkind : kept.request.kind ∈ [RequestKind.over, .xover, .hdr, .xhdr])
    (h : overviewSelectorError kept.command (some kept.commandLines) state none = some response) :
    response ∈ SELECTOR_REFUSALS kept.request.kind := by
  have hmissing : kept.request.kind = .xover →
      containsSubslice (lineArgs kept.line) (ascii "missing") = false := missing_of_xover
  have hlegacy : ∀ kind ∈ [RequestKind.over, .xover, .hdr, .xhdr],
      legacyOverviewUses420ForMissingRange kind = decide (kind = .xover ∨ kind = .xhdr) := by decide
  unfold overviewSelectorError at h
  rw [kept.kind_command, kept.commandArgs_eq] at h
  dsimp only at h
  rw [hlegacy _ hkind] at h
  generalize kept.request.kind = kind at h hmissing ⊢
  unfold SELECTOR_REFUSALS
  split_ifs at h with hfield hcurrent hselected harticle hgroup hrange hlegacy hnumber hlegacy hid
  · simp only [Bool.and_eq_true, Bool.or_eq_true, decide_eq_true_eq] at hfield
    simp [← Option.some.inj h, hfield.1]
  · simp [← Option.some.inj h]
  · simp [← Option.some.inj h]
  · simp [← Option.some.inj h]
  · rw [decide_eq_true_eq] at hlegacy
    simp [← Option.some.inj h, hlegacy]
  · rw [decide_eq_true_eq] at hlegacy
    simp [← Option.some.inj h, hlegacy]
  · rw [decide_eq_true_eq] at hlegacy
    simp [← Option.some.inj h, hlegacy]
  · rw [decide_eq_true_eq] at hlegacy
    simp [← Option.some.inj h, hlegacy]
  · -- the selector names a message-id, which XOVER does not take
    rw [Bool.and_eq_true] at hid
    have hnot : kind ≠ .xover := by
      intro hxover
      rw [hmissing hxover] at hid
      exact absurd hid.2 Bool.false_ne_true
    simp [← Option.some.inj h, hnot]

theorem isFrame_handleOverview {config : ServerConfig} (hindex : config.articleIndex = none)
    {kept : KeptCommand} {memory : SessionMemory}
    (hkind : kept.request.kind ∈ [RequestKind.over, .xover, .hdr, .xhdr])
    {responseWithIndex : Bytes → Bytes → SessionState → ArticleStoreIndex → Built}
    {fixtureResponse : Bytes → SessionState → Bytes}
    (hfixture : ∀ args state, IsFrame kept.request.kind (fixtureResponse args state)) :
    IsFrame kept.request.kind (handleOverview config kept.command (some kept.commandLines) memory
      responseWithIndex fixtureResponse).reply.bytes := by
  unfold handleOverview
  dsimp only
  rw [hindex]
  cases herror : overviewSelectorError kept.command (some kept.commandLines) memory.sessionState
    none with
  | some response =>
    exact isFrame_selector_refusal _ hkind _ (mem_of_overviewSelectorError hkind herror)
  | none => exact hfixture _ _

theorem accepted_respond {encodeStream : Bytes → Bytes} (hyenc : YencLines encodeStream)
    {args : ServerArgs} (hdir : args.articleDir = none) (kept : KeptCommand)
    {memory : SessionMemory}
    (hpoints : memory.sessionState.Points none) {now : Nat} (hnow : now < YEAR_10000) :
    Accepted kept.request.kind (respond (.fromBoundArgs encodeStream args) now kept.command
      (some kept.commandLines) memory) := by
  -- The reply to a command whose line is kept is one frame.
  have hindex := articleIndex_of_noDir encodeStream hdir
  unfold respond
  rw [kept.kind_command]
  have hfixed (reply : Bytes) (h : fixedReply kept.request.kind = some reply) :
      Accepted kept.request.kind (.ok (memory.answer reply)) :=
    accepted_ok (isFrame_fixedReply _ reply h)
  have hoverview (responseWithIndex : Bytes → Bytes → SessionState → ArticleStoreIndex → Built)
      (fixtureResponse : Bytes → SessionState → Bytes)
      (hkind : kept.request.kind ∈ [RequestKind.over, .xover, .hdr, .xhdr])
      (hfixture : ∀ args state, IsFrame kept.request.kind (fixtureResponse args state)) :
      Accepted kept.request.kind
        (.ok (handleOverview (.fromBoundArgs encodeStream args) kept.command
        (some kept.commandLines) memory responseWithIndex fixtureResponse)) :=
    accepted_ok (isFrame_handleOverview hindex hkind hfixture)
  generalize hkind : kept.request.kind = kind at hfixed hoverview
  cases kind with
  | article => exact accepted_handleArticle hyenc hdir hpoints hkind
  | head => exact accepted_handleHead hdir hpoints hkind
  | stat => exact accepted_handleStat hdir hpoints hkind
  | body => exact accepted_handleBody hyenc hdir hpoints hkind
  | listActive =>
    apply accepted_ok
    rw [handleListVariant, hindex]
    exact isFrame_listActiveResponse _
  | listActiveTimes =>
    apply accepted_ok
    rw [handleListVariant, hindex]
    exact isFrame_listActiveTimesResponse _
  | listNewsgroups =>
    apply accepted_ok
    rw [handleListVariant, hindex]
    exact isFrame_listNewsgroupsResponse _
  | group => exact accepted_ok (isFrame_handleGroup hindex)
  | listGroup => exact accepted_ok (isFrame_handleListGroup hindex)
  | last => exact accepted_handleLast hindex hpoints
  | next => exact accepted_handleNext hindex hpoints
  | newGroups =>
    apply accepted_ok
    rw [handleNewGroups, hindex]
    exact isFrame_newgroupsResponse _ _
  | newNews =>
    apply accepted_ok
    rw [handleNewNews, hindex]
    exact isFrame_newnewsResponse _ _
  | «over» => exact hoverview _ _ (by decide) fun args state => isFrame_overResponseForArgs _
  | xover => exact hoverview _ _ (by decide) fun args state => isFrame_xoverResponseForArgs _
  | hdr => exact hoverview _ _ (by decide) fun args state => isFrame_hdrResponseForArgs _
  | xhdr => exact hoverview _ _ (by decide) fun args state => isFrame_xhdrResponseForArgs _
  | date => exact accepted_ok (isFrame_dateResponse hnow)
  | unknown => exact accepted_ok (isFrame_unknownCommandResponse kept.command)
  | quit => exact accepted_ok (isFrame_fixedReply .quit QUIT_RESPONSE rfl)
  | list | listOverviewFmt | listHeaders | listDistribPats | help | capabilities | post | ihave
  | check | takeThis | authInfoUser | authInfoPass | authInfo | startTls | modeReader | modeStream =>
    exact hfixed _ rfl

theorem kind_of_long {line : Bytes} (h : 2 ^ 16 ≤ line.length) :
    (RequestLine.parse line).kind = .unknown := by
  by_contra hknown
  have hlong : line.length > MAX_AUTHINFO_SASL_COMMAND_LINE_BYTES := by
    unfold MAX_AUTHINFO_SASL_COMMAND_LINE_BYTES
    omega
  apply hknown
  unfold RequestLine.parse
  rw [if_pos hlong]

/-- **Without stored articles, every reply is one frame that the client accepts for the kind of the
command line**, whatever was asked before. -/
theorem every_reply_is_one_frame (encodeStream : Bytes → Bytes) (args : ServerArgs)
    (hdir : args.articleDir = none) (hyenc : YencLines encodeStream) (reached : SessionMemory)
    (hreached : ReachableMemory (.fromBoundArgs encodeStream args) reached)
    (responseBuffer auxResponseBuffer line : Bytes) (slot : Nat) (commandLines : CommandLineBatch)
    (hkept : line.length < 2 ^ 16 → commandLines.line (parseCommandLine line slot).lineSlot = line)
    (now : Nat) (hnow : now < YEAR_10000) :
    ∃ handled, respond (.fromBoundArgs encodeStream args) now (parseCommandLine line slot)
        (some commandLines) ⟨reached.sessionState, responseBuffer, auxResponseBuffer⟩ =
          .ok handled ∧
      ∃ frame, ResponseFrame.parse (RequestLine.parse line).kind handled.reply.bytes =
        .complete frame ∧ frame.consumed = handled.reply.bytes.length := by
  have hpoints := hreached.points
  rw [articleIndex_of_noDir encodeStream hdir] at hpoints
  have hstate : (SessionMemory.mk reached.sessionState responseBuffer auxResponseBuffer
      ).sessionState.Points none := hpoints
  by_cases hshort : line.length < 2 ^ 16
  · exact accepted_respond hyenc hdir ⟨line, slot, commandLines, hkept hshort⟩ hstate hnow
  · have hkind := kind_of_long (Nat.le_of_not_lt hshort)
    have hcommand : (parseCommandLine line slot).kind = .unknown := by
      rw [kind_parseCommandLine, hkind]
    rw [hkind]
    unfold respond
    rw [hcommand]
    exact accepted_ok (isFrame_unknownCommandResponse _)

/-- A byte as yEnc writes it: NUL, LF, CR and `=` are escaped. -/
def yencByte (byte : UInt8) : Bytes :=
  let shifted := byte + 42
  if shifted ∈ [NUL, LF, CR, 61] then [61, shifted + 64] else [shifted]

/-- A line ends with the byte that takes it to 128 columns. -/
def yencDataLines : Bytes → Bytes → List Bytes
  | line, [] => if line = [] then [] else [line]
  | line, byte :: rest =>
    let line := line ++ yencByte byte
    if line.length < 128 then yencDataLines line rest else line :: yencDataLines [] rest

def crc32Step (crc : UInt32) : UInt32 :=
  if crc &&& 1 = 1 then (crc >>> 1) ^^^ 0xedb88320 else crc >>> 1

def crc32 (data : Bytes) : UInt32 :=
  ~~~data.foldl (fun crc byte => crc32Step^[8] (crc ^^^ byte.toUInt32)) 0xffffffff

def hexText (value : UInt32) : Bytes :=
  ([28, 24, 20, 16, 12, 8, 4, 0] : List UInt32).map fun shift =>
    (ascii "0123456789abcdef").getD ((value >>> shift) % 16).toNat 48

/-- What the yEnc encoder writes: the lines of one part, those that start with a dot stuffed. -/
def encodeYencStream (data : Bytes) : Bytes :=
  let size := decimalText data.length
  wireLines (([ascii "=ybegin line=128 size=" ++ size ++ ascii " name=nntpbench.bin"] ++
    yencDataLines [] data ++ [ascii "=yend size=" ++ size ++ ascii " crc32=" ++
      hexText (crc32 data)]).map
      stuffLine)

example : encodeYencStream [4] = crlfText ["=ybegin line=128 size=1 name=nntpbench.bin", "..",
    "=yend size=1 crc32=d56f2b94"] := by decide +kernel

theorem clean_yencByte (byte : UInt8) : Clean (yencByte byte) := by
  unfold yencByte
  dsimp only
  generalize byte + 42 = shifted
  split_ifs with hcritical
  · have hall : ∀ critical ∈ [NUL, LF, CR, 61], Clean [61, critical + 64] := by
      simp only [List.forall_mem_cons, List.not_mem_nil, false_implies, implies_true, and_true]
      exact ⟨⟨by decide, by decide, by decide⟩, ⟨by decide, by decide, by decide⟩,
        ⟨by decide, by decide, by decide⟩, ⟨by decide, by decide, by decide⟩⟩
    exact hall shifted hcritical
  · constructor <;> rintro hmem <;> rw [List.mem_singleton] at hmem <;> subst hmem <;>
      exact hcritical (by decide)

theorem clean_yencDataLines {line : Bytes} (hline : Clean line) (data : Bytes) :
    ∀ found ∈ yencDataLines line data, Clean found := by
  induction data generalizing line with
  | nil =>
    unfold yencDataLines
    split_ifs
    · exact List.forall_mem_nil _
    · simpa using hline
  | cons byte rest ih =>
    have hlonger := clean_append hline (clean_yencByte byte)
    unfold yencDataLines
    dsimp only
    split_ifs
    · exact ih hlonger
    · exact List.forall_mem_cons.mpr ⟨hlonger, ih clean_nil⟩

theorem clean_hexText (value : UInt32) : Clean (hexText value) := by
  have hdigit : ∀ byte ∈ hexText value, (48 :: ascii "0123456789abcdef").contains byte = true := by
    unfold hexText
    rw [List.forall_mem_map]
    intro shift _
    rw [List.contains_iff_mem, List.getD_eq_getElem?_getD]
    cases hget : (ascii "0123456789abcdef")[((value >>> shift) % 16).toNat]? with
    | none => exact List.mem_cons_self
    | some digit => exact List.mem_cons_of_mem _ (List.mem_of_getElem? hget)
  exact clean_of_forall hdigit (by decide) (by decide) (by decide)

theorem yencLines_encodeYencStream : YencLines encodeYencStream := by
  -- The encoder meets the assumption.
  have hpayload {lines : List Bytes} (hlines : ∀ line ∈ lines, Clean line) :
      PayloadLines (wireLines (lines.map stuffLine)) (lines.map stuffLine) := by
    refine ⟨rfl, ?_, ?_⟩
    · rw [List.forall_mem_map]
      exact fun line hline => wireLine_stuffLine ⟨(hlines line hline).cr, (hlines line hline).lf⟩
    · rw [List.forall_mem_map]
      exact fun line hline => nul_mem_stuffLine_iff.not.mpr (hlines line hline).nul
  intro size
  unfold encodeYencPayload
  split_ifs
  · have hclean : ∀ line ∈ [ascii "=ybegin line=128 size=0 name=nntpbench.bin",
        ascii "=yend size=0 crc32=00000000"], Clean line := by
      simp only [List.forall_mem_cons, List.not_mem_nil, false_implies, implies_true, and_true]
      exact ⟨⟨by decide, by decide, by decide⟩, ⟨by decide, by decide, by decide⟩⟩
    have hwritten : crlfText ["=ybegin line=128 size=0 name=nntpbench.bin",
        "=yend size=0 crc32=00000000"] =
          wireLines ([ascii "=ybegin line=128 size=0 name=nntpbench.bin",
          ascii "=yend size=0 crc32=00000000"].map stuffLine) := by decide
    rw [hwritten]
    exact ⟨_, hpayload hclean⟩
  · refine ⟨_, hpayload ?_⟩
    have hsize := (isArgument_decimalText (decodedPayload size 0x7ac385d1).length).clean
    simp only [List.forall_mem_append, List.forall_mem_singleton]
    refine ⟨⟨?_, clean_yencDataLines clean_nil _⟩, ?_⟩
    · exact clean_append (clean_append ⟨by decide, by decide, by decide⟩ hsize)
        ⟨by decide, by decide, by decide⟩
    · exact clean_append (clean_append (clean_append ⟨by decide, by decide, by decide⟩ hsize)
        ⟨by decide, by decide, by decide⟩) (clean_hexText _)
/-- At this size the payload has a line that starts with a dot. -/
theorem article_reply_is_one_frame :
    ∃ handled, respond (.fromBoundArgs encodeYencStream ⟨13760, 13760, .yenc, none, 1⟩) 0
        (parseCommandLine (ascii "ARTICLE <a@b>\r\n") 0)
        (some (.ofLines [ascii "ARTICLE <a@b>\r\n"])) ⟨.initial, [], []⟩ = .ok handled ∧
      ∃ frame, ResponseFrame.parse (RequestLine.parse (ascii "ARTICLE <a@b>\r\n")).kind
          handled.reply.bytes = .complete frame ∧
        frame.consumed = handled.reply.bytes.length :=
  every_reply_is_one_frame encodeYencStream ⟨13760, 13760, .yenc, none, 1⟩ rfl
    yencLines_encodeYencStream
    .initial (ReachableMemory.initial _) [] [] (ascii "ARTICLE <a@b>\r\n") 0 _ (fun _ => by decide)
      0
    (by decide)

end NntpBench.Server
