import NntpBench.Lib.Writer
import NntpBench.Server.Config

namespace NntpBench.Server

open Protocol Terminator Writer

/-- The state of the session and its two buffers, which are reused from command to command. -/
structure SessionMemory where
  sessionState : SessionState
  responseBuffer : Bytes
  auxResponseBuffer : Bytes
  deriving DecidableEq, Repr

/-- The start of `serve_session_inner`. -/
def SessionMemory.initial : SessionMemory := ⟨.initial, [], []⟩

/-- The four ways a reply is written. -/
inductive Reply where
  /-- `write_response`. -/
  | response (bytes : Bytes)
  /-- `write_message_id_article_response`: past the pending writes, in three slices. -/
  | article (header payload : Bytes)
  /-- `write_stored_article_response` for HEAD, BODY and STAT. -/
  | stored (bytes : Bytes)
  /-- `write_stored_article_response` for ARTICLE: the file as it is. -/
  | file (file : StoredFile)
  deriving DecidableEq, Repr

def Reply.bytes : Reply → Bytes
  | .response bytes => bytes
  | .article header payload => header ++ payload ++ DOT_TERMINATOR
  | .stored bytes => bytes
  | .file contents => contents.bytes

inductive ServerError where
  | write (error : WriteError)
  | stored (error : StoredArticleError)
  /-- `navigation article not found in article store index`. -/
  | navigationNotFound
  deriving DecidableEq, Repr

/-- What an arm of `handle_command` leaves; `close` ends the session. -/
structure Handled where
  reply : Reply
  memory : SessionMemory
  close : Bool
  deriving DecidableEq, Repr

def SessionMemory.answer (self : SessionMemory) (response : Bytes) : Handled :=
  ⟨.response response, self, false⟩

def SessionMemory.answerBuilt (self : SessionMemory) (response : Bytes) : Handled :=
  ⟨.response response, { self with responseBuffer := response }, false⟩

def SessionMemory.answerAux (self : SessionMemory) (response : Bytes) : Handled :=
  ⟨.response response, { self with auxResponseBuffer := response }, false⟩

def SessionMemory.withCurrentArticle (self : SessionMemory) (article : Option Nat) :
    SessionMemory :=
  { self with sessionState := { self.sessionState with currentArticle := article } }

def storedArticleMessageIdExists (config : ServerConfig) (messageId : Str) : Bool :=
  config.articleDir.any fun dir =>
    match openStoredArticleResponse dir none (some messageId) with
    | .ok file => file.isSome
    | .error _ => false

def articleSelectorError (command : ParsedCommand) (commandLines : Option CommandLineBatch)
    (state : SessionState) (config : ServerConfig) (currentSelectorAllowed : Bool) :
    Option Bytes :=
  let args := commandArgs command commandLines
  if args.isEmpty && currentSelectorAllowed then
    if !state.groupSelected then some NO_NEWSGROUP_SELECTED
    else if state.currentArticle.isNone then some NO_CURRENT_ARTICLE
    else none
  else if command.articleId.isSome && !state.groupSelected then some NO_NEWSGROUP_SELECTED
  else if command.articleId.any fun articleId =>
      !state.currentGroupContains articleId config.articleIndex then some NO_ARTICLE_WITH_NUMBER
  else
    match config.articleIndex with
    | some index =>
      if (commandLines.bind (commandMessageId command)).any fun messageId =>
          (index.articleEntryForMessageId messageId).isNone &&
            !storedArticleMessageIdExists config messageId then
        some NO_ARTICLE_WITH_MESSAGE_ID
      else none
    | none =>
      if command.messageId.isSome && commandLines.isNone && containsSubslice args (ascii "missing")
      then some NO_ARTICLE_WITH_MESSAGE_ID
      else none

def legacyOverviewUses420ForMissingRange (kind : RequestKind) : Bool :=
  kind = .xover || kind = .xhdr

/-- The selector is a number that is not one of the group's. -/
def selectorNumberIsMissing (state : SessionState) (index : Option ArticleStoreIndex)
    (selector : Bytes) : Bool :=
  selector.all isAsciiDigit &&
    ((fromUtf8 selector).bind (parseUnsigned (2 ^ 64))).any fun articleId =>
      !state.currentGroupContains articleId index

def overviewSelectorError (command : ParsedCommand) (commandLines : Option CommandLineBatch)
    (state : SessionState) (index : Option ArticleStoreIndex) : Option Bytes :=
  let args := commandArgs command commandLines
  let isHeaderQuery := command.kind = .hdr || command.kind = .xhdr
  let currentSelector :=
    match command.kind with
    | .over | .xover => args.isEmpty
    | .hdr | .xhdr => commandArgCount args = 1
    | _ => false
  let selector := overviewSelectorArg command.kind args
  if isHeaderQuery &&
      (headerQueryNameFromArgs args).any fun header => !hdrFieldIsSupported header then
    some (crlfText ["503 HDR field unavailable"])
  else if currentSelector then
    if !state.groupSelected then some NO_NEWSGROUP_SELECTED
    else if state.currentArticle.isNone then some NO_CURRENT_ARTICLE
    else none
  else if selector.any overviewSelectorRequiresGroup && !state.groupSelected then
    some NO_NEWSGROUP_SELECTED
  else if selector.any fun selector => overviewSelectorIsRange selector &&
      !overviewSelectorRangeSelectsArticles selector
        ((state.currentGroupArticles index).getD []) then
    if legacyOverviewUses420ForMissingRange command.kind then
      some (crlfText ["420 no article(s) selected"])
    else some (crlfText ["423 no articles in that range"])
  else if selector.any (selectorNumberIsMissing state index) ||
      command.articleId.any fun articleId => !state.currentGroupContains articleId index then
    if legacyOverviewUses420ForMissingRange command.kind then
      some (crlfText ["420 no article(s) selected"])
    else some NO_ARTICLE_WITH_NUMBER
  else if (command.messageId.isSome || selector.any fun value => ascii "<" <+: value) &&
      containsSubslice args (ascii "missing") then
    some NO_ARTICLE_WITH_MESSAGE_ID
  else none

def listgroupStateError (args : Bytes) (state : SessionState) : Option Bytes :=
  if (listgroupExplicitGroupArg args).any fun group => (fixtureGroupFromName group).isNone then
    some NO_SUCH_NEWSGROUP
  else if !state.groupSelected && args.isEmpty then some NO_NEWSGROUP_SELECTED
  else none

def currentArticleSelectorArgs (state : SessionState) : Option String :=
  match state.currentArticle with
  | some 1 => some "1"
  | some 2 => some "2"
  | some 3 => some "3"
  | _ => none

def currentOverviewArgs (args : Bytes) (state : SessionState) : Option Bytes :=
  if args.isEmpty then (currentArticleSelectorArgs state).map ascii else none

/-- The seven headers are compared with their case here. -/
def currentHeaderArgs (args : Bytes) (state : SessionState) : Option Bytes :=
  if commandArgCount args ≠ 1 then none
  else
    (currentArticleSelectorArgs state).bind fun current =>
      if HDR_FIELDS.contains args then some (args ++ ascii " " ++ ascii current) else none

def overResponse (args : Bytes) (state : SessionState) : Bytes :=
  overResponseForArgs ((currentOverviewArgs args state).getD args)

def xoverResponse (args : Bytes) (state : SessionState) : Bytes :=
  xoverResponseForArgs ((currentOverviewArgs args state).getD args)

def hdrResponse (args : Bytes) (state : SessionState) : Bytes :=
  hdrResponseForArgs ((currentHeaderArgs args state).getD args)

def xhdrResponse (args : Bytes) (state : SessionState) : Bytes :=
  xhdrResponseForArgs ((currentHeaderArgs args state).getD args)

section Arms

variable (config : ServerConfig) (now : Nat) (command : ParsedCommand)
  (commandLines : Option CommandLineBatch) (memory : SessionMemory)

def storedArticleReply (kind : RequestKind) (articleId : Option Nat) (messageId : Option Str) :
    Except ServerError (Option Reply) :=
  match config.articleDir with
  | none => .ok none
  | some dir =>
    match openStoredArticleResponse dir articleId messageId with
    | .error error => .error (.stored (.file error))
    | .ok none => .ok none
    | .ok (some file) =>
      if kind = .article then .ok (some (.file file))
      else
        match file.readToEnd with
        | .error error => .error (.stored (.file error))
        | .ok bytes =>
          match buildStoredArticleResponse kind bytes with
          | .error error => .error (.stored error)
          | .ok response => .ok (some (.stored response))

def articleNotFoundResponse (articleId : Option Nat) (messageId : Option Str) : Bytes :=
  if messageId.isSome then NO_ARTICLE_WITH_MESSAGE_ID
  else if articleId.isSome then NO_ARTICLE_WITH_NUMBER
  else NO_CURRENT_ARTICLE

/-- The article a retrieval without a message-id is about. -/
def selectedArticleId : Nat :=
  (command.articleId.or memory.sessionState.currentArticle).getD 1

def handleArticle : Except ServerError Handled :=
  match articleSelectorError command commandLines memory.sessionState config true with
  | some response => .ok (memory.answer response)
  | none =>
    let messageId := commandLines.bind (commandMessageId command)
    if config.articleDir.isSome then do
      let articleId :=
        if messageId.isSome then command.articleId
        else command.articleId.or memory.sessionState.currentArticle
      match ← storedArticleReply config .article articleId messageId with
      | some reply =>
        let memory :=
          match command.articleId with
          | some articleId => memory.withCurrentArticle (some articleId)
          | none => memory
        .ok ⟨reply, memory, false⟩
      | none => .ok (memory.answer (articleNotFoundResponse articleId messageId))
    else
      match messageId with
      | some messageId =>
        let header := buildArticleResponseHeaderInto memory.responseBuffer 0 (asBytes messageId)
        let payload := config.articlePayloadForHeader header.length
        .ok ⟨.article header payload, { memory with responseBuffer := header }, false⟩
      | none =>
        let articleId := selectedArticleId command memory
        let memory := memory.withCurrentArticle (some articleId)
        if articleId = 1 then .ok (memory.answer config.articleResponse)
        else
          .ok (memory.answerBuilt
            (buildSelectedArticleResponseInto memory.responseBuffer articleId config))

/-- The arms of HEAD, STAT and BODY, which differ in the kind of the stored reply, in the reply for
the first article and in the builders for the others. -/
def handleRetrieval (kind : RequestKind) (first : Bytes) (buildMessageId : Bytes → Str → Bytes)
    (buildSelected : Bytes → Nat → Bytes) : Except ServerError Handled :=
  match articleSelectorError command commandLines memory.sessionState config true with
  | some response => .ok (memory.answer response)
  | none =>
    match commandLines.bind (commandMessageId command) with
    | some messageId => do
      match ← storedArticleReply config kind none (some messageId) with
      | some reply => .ok ⟨reply, memory, false⟩
      | none =>
        if config.articleDir.isSome then
          .ok (memory.answer (articleNotFoundResponse none (some messageId)))
        else if containsSubslice (asBytes messageId) (ascii "missing") then
          .ok (memory.answer NO_ARTICLE_WITH_MESSAGE_ID)
        else .ok (memory.answerBuilt (buildMessageId memory.responseBuffer messageId))
    | none => do
      let articleId := selectedArticleId command memory
      let memory := memory.withCurrentArticle (some articleId)
      match ← storedArticleReply config kind (some articleId) none with
      | some reply => .ok ⟨reply, memory, false⟩
      | none =>
        if articleId = 1 then .ok (memory.answer first)
        else .ok (memory.answerBuilt (buildSelected memory.responseBuffer articleId))

def handleHead : Except ServerError Handled :=
  handleRetrieval config command commandLines memory .head config.headResponse
    buildMessageIdHeadResponseInto buildSelectedHeadResponseInto

def handleStat : Except ServerError Handled :=
  handleRetrieval config command commandLines memory .stat config.statResponse
    buildMessageIdStatResponseInto buildSelectedStatResponseInto

def handleBody : Except ServerError Handled :=
  handleRetrieval config command commandLines memory .body config.bodyResponse
    (buildMessageIdBodyResponseInto config) (buildSelectedBodyResponseInto config)

def handleListVariant (kind : RequestKind)
    (responseForIndexInto : Bytes → Bytes → ArticleStoreIndex → Bytes)
    (fixtureResponse : Bytes → Bytes) : Handled :=
  let args := listVariantWildmatArgs kind (commandArgs command commandLines)
  match config.articleIndex with
  | some index => memory.answerAux (responseForIndexInto memory.auxResponseBuffer args index)
  | none => memory.answer (fixtureResponse args)

def SessionState.selectGroup (group : SelectedGroup) (firstArticle : Option Nat) : SessionState :=
  ⟨true, some group, firstArticle⟩

/-- The state after GROUP or LISTGROUP with an index: an indexed group before a fixture group. -/
def selectIndexedGroup (index : ArticleStoreIndex) (state : SessionState) (groupName : Str)
    (fixtureName : Bytes) : SessionState :=
  match index.articleNumbersForGroup groupName with
  | some articles => .selectGroup (.indexed groupName) articles.head?
  | none =>
    match fixtureGroupFromName fixtureName with
    | some group => .selectGroup (.fixture group) group.firstArticle
    | none => { state with groupSelected := true }

def handleGroup : Handled :=
  let args := commandArgs command commandLines
  match config.articleIndex with
  | some index =>
    match groupResponseForArgsWithIndexInto memory.auxResponseBuffer args index with
    | none => memory.answer NO_SUCH_NEWSGROUP
    | some response =>
      let groupName := trim ((fromUtf8 args).getD [])
      let state := selectIndexedGroup index memory.sessionState groupName args
      ({ memory with sessionState := state } : SessionMemory).answerAux response
  | none =>
    match fixtureGroupFromName args with
    | none => memory.answer NO_SUCH_NEWSGROUP
    | some group =>
      let state := SessionState.selectGroup (.fixture group) group.firstArticle
      ({ memory with sessionState := state } : SessionMemory).answer (groupResponseForGroup group)

def SessionState.fixtureGroup (self : SessionState) : Option FixtureGroup :=
  match self.selectedGroup with
  | some (.fixture group) => some group
  | _ => none

def handleListGroup : Handled :=
  let args := commandArgs command commandLines
  match listgroupStateError args memory.sessionState with
  | some response => memory.answer response
  | none =>
    match config.articleIndex with
    | some index =>
      let currentGroup := memory.sessionState.selectedGroupName (some index)
      match listgroupResponseForArgsWithIndexInto memory.auxResponseBuffer args currentGroup
        index with
      | none => memory.answer NO_SUCH_NEWSGROUP
      | some response =>
        let groupName := listgroupGroupName args currentGroup
        let state := selectIndexedGroup index memory.sessionState groupName (asBytes groupName)
        ({ memory with sessionState := state } : SessionMemory).answerAux response
    | none =>
      let group :=
        (listgroupSelectedGroup args memory.sessionState.fixtureGroup).getD .altTest
      let state := SessionState.selectGroup (.fixture group) group.firstArticle
      ({ memory with sessionState := state } : SessionMemory).answer
        (listgroupResponseForArgs args (some group))

/-- The end of LAST and NEXT: the pointer moves, and the reply names the article. -/
def navigateTo (article : Nat) (fixtureResponse : Nat → Bytes) : Except ServerError Handled :=
  let memory := memory.withCurrentArticle (some article)
  match config.articleIndex with
  | some index =>
    match buildNavigationArticleResponseInto memory.responseBuffer index article with
    | some response => .ok (memory.answerBuilt response)
    | none => .error .navigationNotFound
  | none => .ok (memory.answer (fixtureResponse article))

/-- The guards LAST and NEXT share, and the pointer they move. -/
def handleNavigation (move : Nat → Option Nat) (missing : Bytes) (fixtureResponse : Nat → Bytes) :
    Except ServerError Handled :=
  if !memory.sessionState.groupSelected then .ok (memory.answer NO_NEWSGROUP_SELECTED)
  else
    match memory.sessionState.currentArticle with
    | none => .ok (memory.answer NO_CURRENT_ARTICLE)
    | some currentArticle =>
      match move currentArticle with
      | none => .ok (memory.answer missing)
      | some article => navigateTo config memory article fixtureResponse

def previousArticle (currentArticle : Nat) : Option Nat :=
  match config.articleIndex with
  | some index => memory.sessionState.currentGroupPreviousArticle currentArticle (some index)
  | none =>
    if currentArticle ≤ 1 then none
    else
      some ((memory.sessionState.currentGroupPreviousArticle currentArticle none).getD
        (currentArticle - 1))

def nextArticle (currentArticle : Nat) : Option Nat :=
  match config.articleIndex with
  | some index => memory.sessionState.currentGroupNextArticle currentArticle (some index)
  | none =>
    if currentArticle ≥ memory.sessionState.articleCount none then none
    else
      some ((memory.sessionState.currentGroupNextArticle currentArticle none).getD
        (currentArticle + 1))

def handleLast : Except ServerError Handled :=
  handleNavigation config memory (previousArticle config memory)
    (crlfText ["422 no previous article in this group"]) lastResponseForArticle

def handleNext : Except ServerError Handled :=
  handleNavigation config memory (nextArticle config memory)
    (crlfText ["421 no next article in this group"]) nextResponseForArticle

def handleNewGroups : Handled :=
  let args := commandArgs command commandLines
  match config.articleIndex with
  | some index =>
    memory.answerAux
      (newgroupsResponseForIndexInto memory.auxResponseBuffer args index (currentUtcYear now))
  | none => memory.answer (newgroupsResponse args (currentUtcYear now))

def handleNewNews : Handled :=
  let args := commandArgs command commandLines
  match config.articleIndex with
  | some index =>
    memory.answerAux
      (newnewsResponseForIndexInto memory.auxResponseBuffer args index (currentUtcYear now))
  | none => memory.answer (newnewsResponse args (currentUtcYear now))

/-- The arms of OVER, XOVER, HDR and XHDR: the index answers if it can, and a fixed reply
otherwise. -/
def handleOverview
    (responseWithIndex : Bytes → Bytes → SessionState → ArticleStoreIndex → Built)
    (fixtureResponse : Bytes → SessionState → Bytes) : Handled :=
  let args := commandArgs command commandLines
  let state := memory.sessionState
  match overviewSelectorError command commandLines state config.articleIndex with
  | some response => memory.answer response
  | none =>
    match config.articleIndex with
    | some index =>
      let built := responseWithIndex memory.auxResponseBuffer args state index
      if built.isReply then memory.answerAux built.buffer
      else
        ({ memory with auxResponseBuffer := built.buffer } : SessionMemory).answer
          (fixtureResponse args state)
    | none => memory.answer (fixtureResponse args state)

def unknownCommandResponse : Bytes :=
  if command.syntaxError then
    if command.lineTooLong then crlfText ["501 command line too long"]
    else if command.authinfoSaslBase64Error then crlfText ["504 base64 encoding error"]
    else crlfText ["501 command syntax error"]
  else crlfText ["500 unknown command"]

/-- The arms of `handle_command` at the time `now`, in seconds since the epoch. The arms and the
writing are separate, so that the reply can be spoken about without the writer. -/
def respond : Except ServerError Handled :=
  match command.kind with
  | .article => handleArticle config command commandLines memory
  | .head => handleHead config command commandLines memory
  | .stat => handleStat config command commandLines memory
  | .body => handleBody config command commandLines memory
  | .list => .ok (memory.answer LIST_RESPONSE)
  | .listActive =>
    .ok (handleListVariant config command commandLines memory .listActive
      listActiveResponseForIndexInto listActiveResponse)
  | .listActiveTimes =>
    .ok (handleListVariant config command commandLines memory .listActiveTimes
      listActiveTimesResponseForIndexInto listActiveTimesResponse)
  | .listNewsgroups =>
    .ok (handleListVariant config command commandLines memory .listNewsgroups
      listNewsgroupsResponseForIndexInto listNewsgroupsResponse)
  | .listOverviewFmt => .ok (memory.answer LIST_OVERVIEW_FMT_RESPONSE)
  | .listHeaders => .ok (memory.answer LIST_HEADERS_RESPONSE)
  | .listDistribPats => .ok (memory.answer LIST_DISTRIB_PATS_RESPONSE)
  | .group => .ok (handleGroup config command commandLines memory)
  | .listGroup => .ok (handleListGroup config command commandLines memory)
  | .last => handleLast config memory
  | .next => handleNext config memory
  | .newGroups => .ok (handleNewGroups config now command commandLines memory)
  | .newNews => .ok (handleNewNews config now command commandLines memory)
  | .post => .ok (memory.answer (crlfText ["440 posting not permitted"]))
  | .ihave => .ok (memory.answer (crlfText ["435 article not wanted"]))
  | .check | .takeThis | .authInfo | .startTls | .modeStream =>
    .ok (memory.answer COMMAND_UNAVAILABLE)
  | .authInfoUser | .authInfoPass =>
    .ok (memory.answer (crlfText ["483 command unavailable until TLS has been negotiated"]))
  | .over =>
    .ok (handleOverview config command commandLines memory overResponseForArgsWithIndex
      overResponse)
  | .xover =>
    .ok (handleOverview config command commandLines memory xoverResponseForArgsWithIndex
      xoverResponse)
  | .hdr =>
    .ok (handleOverview config command commandLines memory hdrResponseForArgsWithIndex hdrResponse)
  | .xhdr =>
    .ok (handleOverview config command commandLines memory xhdrResponseForArgsWithIndex
      xhdrResponse)
  | .capabilities => .ok (memory.answer CAPABILITIES_RESPONSE)
  | .help => .ok (memory.answer HELP_RESPONSE)
  | .date => .ok (memory.answer (dateResponseForUnixSeconds now))
  | .modeReader => .ok (memory.answer MODE_READER_RESPONSE)
  | .quit => .ok { memory.answer QUIT_RESPONSE with close := true }
  | .unknown => .ok (memory.answer (unknownCommandResponse command))

end Arms

end NntpBench.Server
