import NntpBench.Server.ArticleStore
import NntpBench.Server.Selectors

namespace NntpBench.Server

open Protocol Terminator

inductive SelectedGroup where
  | fixture (group : FixtureGroup)
  | indexed (name : Str)
  deriving DecidableEq, Repr

structure SessionState where
  groupSelected : Bool
  selectedGroup : Option SelectedGroup
  currentArticle : Option Nat
  deriving DecidableEq, Repr

namespace SelectedGroup

def articleNumbers (self : SelectedGroup) (index : Option ArticleStoreIndex) : Option (List Nat) :=
  match self with
  | fixture group => some group.articleNumbers
  | indexed name => index.bind fun index => index.articleNumbersForGroup name

def articleCount (self : SelectedGroup) (index : Option ArticleStoreIndex) : Nat :=
  ((self.articleNumbers index).map List.length).getD 0

def groupName (self : SelectedGroup) (index : Option ArticleStoreIndex) : Option Str :=
  match self with
  | fixture group => some group.name
  | indexed name => index.bind fun index => (index.articleNumbersForGroup name).map fun _ => name

end SelectedGroup

namespace SessionState

def initial : SessionState := ⟨false, none, none⟩

variable (self : SessionState)

def articleCount (index : Option ArticleStoreIndex) : Nat :=
  (self.selectedGroup.map fun group => group.articleCount index).getD
    FixtureGroup.altTest.articleCount

def currentGroupArticles (index : Option ArticleStoreIndex) : Option (List Nat) :=
  self.selectedGroup.bind fun group => group.articleNumbers index

def selectedGroupName (index : Option ArticleStoreIndex) : Option Str :=
  self.selectedGroup.bind fun group => group.groupName index

/-- The article numbers are in order, so the binary search of the source finds what they contain. -/
def currentGroupContains (articleId : Nat) (index : Option ArticleStoreIndex) : Bool :=
  (self.currentGroupArticles index).any fun articles => articles.contains articleId

def currentGroupPreviousArticle (articleId : Nat) (index : Option ArticleStoreIndex) :
    Option Nat := do
  let articles ← self.currentGroupArticles index
  let position ← articles.idxOf? articleId
  if position = 0 then none else articles[position - 1]?

def currentGroupNextArticle (articleId : Nat) (index : Option ArticleStoreIndex) :
    Option Nat := do
  let articles ← self.currentGroupArticles index
  let position ← articles.idxOf? articleId
  articles[position + 1]?

end SessionState

/-- `format_active_group_response_into`: the rows of the groups that are listed, behind whatever the
buffer holds. -/
def formatActiveGroupResponseInto (response statusLine args : Bytes) (index : ArticleStoreIndex)
    (formatLine : Str → ArticleStoreGroup → Bytes) : Bytes :=
  let listed := index.groups.toList.filter fun (name, _) => listsGroup args (asBytes name)
  response ++ statusLine ++ listed.flatMap (fun (name, group) => formatLine name group) ++
    DOT_TERMINATOR

/-- The last number and the first one. -/
def activeLine (name : Str) (group : ArticleStoreGroup) : Bytes :=
  asBytes name ++ ascii " " ++ decimalText (group.articleNumbers.getLastD 0) ++ ascii " " ++
    decimalText (group.articleNumbers.headD 0) ++ ascii " y" ++ CRLF

def listActiveResponseForIndexInto (response args : Bytes) (index : ArticleStoreIndex) : Bytes :=
  formatActiveGroupResponseInto response (crlfText ["215 list of newsgroups follows"]) args index
    activeLine

def activeTimesLine (name : Str) (group : ArticleStoreGroup) : Bytes :=
  asBytes name ++ ascii " " ++ decimalText group.activeTime ++ ascii " bench@nntpbench.local" ++
    CRLF

def listActiveTimesResponseForIndexInto (response args : Bytes) (index : ArticleStoreIndex) :
    Bytes :=
  formatActiveGroupResponseInto response (crlfText ["215 information follows"]) args index
    activeTimesLine

def newsgroupsLine (name : Str) (_ : ArticleStoreGroup) : Bytes :=
  asBytes name ++ ascii " article_dir-backed group" ++ CRLF

def listNewsgroupsResponseForIndexInto (response args : Bytes) (index : ArticleStoreIndex) :
    Bytes :=
  formatActiveGroupResponseInto response (crlfText ["215 information follows"]) args index
    newsgroupsLine

def clear (_ : Bytes) : Bytes := []

def newgroupsResponseForIndexInto (response args : Bytes) (index : ArticleStoreIndex)
    (currentYear : Nat) : Bytes :=
  let cutoff := newgroupsDatetimeTimestamp args currentYear
  let recent := index.groups.toList.filter fun (_, group) =>
    !cutoff.any fun cutoff => group.activeTime < cutoff
  clear response ++ crlfText ["231 list of new newsgroups follows"] ++
    recent.flatMap (fun (name, group) => activeLine name group) ++ DOT_TERMINATOR

def newnewsResponseForIndexInto (response args : Bytes) (index : ArticleStoreIndex)
    (currentYear : Nat) : Bytes :=
  let cutoff := newnewsDatetimeTimestamp args currentYear
  let wildmat := (firstCommandArg args).getD []
  let seen := index.articlesByNumber.toList.filter fun (_, entry) =>
    !(cutoff.any fun cutoff => entry.dateKey.getD 0 < cutoff) &&
      (wildmat.isEmpty || entry.newsgroups.any fun group => wildmatMatches wildmat (asBytes group))
  clear response ++ crlfText ["230 list of new articles follows"] ++
    seen.flatMap (fun (_, entry) => asBytes entry.messageId ++ CRLF) ++ DOT_TERMINATOR

def writeStatusLine (response : Bytes) (groupName : Str) (articles : List Nat) : Bytes :=
  clear response ++ ascii "211 " ++ decimalText articles.length ++ ascii " " ++
    decimalText (articles.headD 0) ++ ascii " " ++ decimalText (articles.getLastD 0) ++ ascii " " ++
    asBytes groupName ++ CRLF

def writeGroupResponse (response : Bytes) (groupName : Str) (articles : List Nat) : Bytes :=
  writeStatusLine response groupName articles

/-- The numbers inside the range, or all of them. -/
def writeListgroupResponse (response : Bytes) (groupName : Str) (articles : List Nat)
    (range : Option (Nat × Option Nat)) : Bytes :=
  let selected :=
    match range with
    | some (start, fin) =>
      articles.filter fun article => start ≤ article && article ≤ fin.getD (2 ^ 64 - 1)
    | none => articles
  writeStatusLine response groupName articles ++
    selected.flatMap (fun article => decimalText article ++ CRLF) ++ DOT_TERMINATOR

def groupResponseForArgsWithIndexInto (response args : Bytes) (index : ArticleStoreIndex) :
    Option Bytes := do
  let groupName := trim (← fromUtf8 args)
  match index.articleNumbersForGroup groupName with
  | some articles => some (writeGroupResponse response groupName articles)
  | none =>
    (fixtureGroupFromName args).map fun group =>
      writeGroupResponse response group.name group.articleNumbers

/-- The group a LISTGROUP command is about: the one it names, the current one or `alt.test`. -/
def listgroupGroupName (args : Bytes) (currentGroup : Option Str) : Str :=
  let explicit := ((listgroupExplicitGroupArg args).bind fromUtf8).map trim
  ((explicit.filter (· ≠ [])).or currentGroup).getD "alt.test".toList

def listgroupResponseForArgsWithIndexInto (response args : Bytes) (currentGroup : Option Str)
    (index : ArticleStoreIndex) : Option Bytes :=
  let groupName := listgroupGroupName args currentGroup
  match index.articleNumbersForGroup groupName with
  | some articles =>
    let range := (listgroupRangeArg args).bind listgroupRangeBounds
    some (writeListgroupResponse response groupName articles range)
  | none =>
    (fixtureGroupFromName (asBytes groupName)).map fun group =>
      writeListgroupResponse response groupName group.articleNumbers none

/-- `build_navigation_article_response_into`; without an entry the source fails. -/
def buildNavigationArticleResponseInto (response : Bytes) (index : ArticleStoreIndex)
    (articleId : Nat) : Option Bytes :=
  (index.articleEntry articleId).map fun entry =>
    clear response ++ ascii "223 " ++ decimalText articleId ++ ascii " " ++
      asBytes entry.messageId ++ ascii " article retrieved - request text separately" ++ CRLF

inductive IndexedArticleSelector where
  | number (articleNumber : Nat)
  | messageId (articleNumber : Nat)
  deriving DecidableEq, Repr

inductive HeaderMessageIdRowKey where
  | zero
  | messageId
  deriving DecidableEq, Repr

def messageIdFromSelector (selector : Bytes) : Option MessageId :=
  (fromUtf8 selector).bind fun selector => MessageId.fromStrOrWrap (trim selector)

def overviewRowForEntry (selector : IndexedArticleSelector) (entry : ArticleStoreEntry) : Bytes :=
  let key :=
    match selector with
    | .number articleNumber => decimalText articleNumber
    | .messageId _ => ascii "0"
  key ++ HT :: entry.subject ++ HT :: entry.sender ++ HT :: entry.date ++
    HT :: asBytes entry.messageId ++ HT :: entry.references ++
    HT :: decimalText entry.overviewBytes ++ HT :: decimalText entry.overviewLines ++ CRLF

/-- The value of a header in the index; a header it does not know has an empty one. -/
def headerValueForEntry (entry : ArticleStoreEntry) (headerName : Bytes) : Bytes :=
  let isHeader (name : String) : Bool := eqIgnoreAsciiCase headerName (ascii name)
  if isHeader "Message-ID" then asBytes entry.messageId
  else if isHeader ":bytes" then decimalText entry.overviewBytes
  else if isHeader ":lines" then decimalText entry.overviewLines
  else if isHeader "Subject" then entry.subject
  else if isHeader "From" then entry.sender
  else if isHeader "Date" then entry.date
  else if isHeader "References" then entry.references
  else []

def headerRowForEntry (headerName : Bytes) (messageIdRowKey : HeaderMessageIdRowKey)
    (selector : IndexedArticleSelector) (entry : ArticleStoreEntry) : Bytes :=
  let key :=
    match selector, messageIdRowKey with
    | .number articleNumber, _ => decimalText articleNumber
    | .messageId _, .zero => ascii "0"
    | .messageId _, .messageId => asBytes entry.messageId
  key ++ ascii " " ++ headerValueForEntry entry headerName ++ CRLF

/-- The buffer a builder leaves, and whether it is a reply: a builder may give up after it has
started to write. -/
structure Built where
  buffer : Bytes
  isReply : Bool
  deriving DecidableEq, Repr

section Rows

variable (index : ArticleStoreIndex) (row : IndexedArticleSelector → ArticleStoreEntry → Bytes)

def appendOneRow (response : Bytes) (articleNumber : Nat) (selector : IndexedArticleSelector) :
    Built :=
  match index.articleEntry articleNumber with
  | some entry => ⟨response ++ row selector entry ++ DOT_TERMINATOR, true⟩
  | none => ⟨response, false⟩

def appendRows (response : Bytes) : List Nat → Built
  | [] => ⟨response ++ DOT_TERMINATOR, true⟩
  | articleNumber :: rest =>
    match index.articleEntry articleNumber with
    | some entry => appendRows (response ++ row (.number articleNumber) entry) rest
    | none => ⟨response, false⟩

def appendCurrentRow (response : Bytes) (state : SessionState) : Built :=
  match state.currentArticle with
  | some articleNumber => appendOneRow index row response articleNumber (.number articleNumber)
  | none => ⟨response, false⟩

def appendSelectedRows (response : Bytes) (state : SessionState) (selector : Bytes) : Built :=
  if overviewSelectorIsMessageId selector then
    match (messageIdFromSelector selector).bind fun messageId =>
        index.articleNumberForMessageId messageId.value with
    | some articleNumber => appendOneRow index row response articleNumber (.messageId articleNumber)
    | none => ⟨response, false⟩
  else
    match listgroupRangeBounds selector with
    | some (start, fin) =>
      match state.currentGroupArticles (some index) with
      | some articles =>
        appendRows index row response
          (articles.filter fun article => start ≤ article && article ≤ fin.getD (2 ^ 64 - 1))
      | none => ⟨response, false⟩
    | none =>
      match parseArticleIdArg selector with
      | some articleNumber =>
        -- A number outside of the group ends the reply without its last line.
        if !state.currentGroupContains articleNumber (some index) then ⟨response, true⟩
        else appendOneRow index row response articleNumber (.number articleNumber)
      | none => ⟨response ++ DOT_TERMINATOR, true⟩

end Rows

def overviewResponseForIndexInto (response statusLine args : Bytes) (state : SessionState)
    (index : ArticleStoreIndex) : Built :=
  let response := clear response ++ statusLine
  if args = [] then appendCurrentRow index overviewRowForEntry response state
  else appendSelectedRows index overviewRowForEntry response state args

def headerResponseForIndexInto (response statusLine args : Bytes) (state : SessionState)
    (index : ArticleStoreIndex) (messageIdRowKey : HeaderMessageIdRowKey) : Built :=
  match headerQueryNameFromArgs args with
  | none => ⟨response, false⟩
  | some headerName =>
    let response := clear response ++ statusLine
    let row := headerRowForEntry headerName messageIdRowKey
    if commandArgCount args = 1 then appendCurrentRow index row response state
    else
      match overviewSelectorArg .hdr args with
      | none => ⟨response, false⟩
      | some selector => appendSelectedRows index row response state selector

def overResponseForArgsWithIndex (response args : Bytes) (state : SessionState)
    (index : ArticleStoreIndex) : Built :=
  overviewResponseForIndexInto response (crlfText ["224 Overview information follows"]) args state
    index

def xoverResponseForArgsWithIndex (response args : Bytes) (state : SessionState)
    (index : ArticleStoreIndex) : Built :=
  overviewResponseForIndexInto response (crlfText ["224 Overview information follows"]) args state
    index

def hdrResponseForArgsWithIndex (response args : Bytes) (state : SessionState)
    (index : ArticleStoreIndex) : Built :=
  headerResponseForIndexInto response (crlfText ["225 headers follow"]) args state index .zero

def xhdrResponseForArgsWithIndex (response args : Bytes) (state : SessionState)
    (index : ArticleStoreIndex) : Built :=
  headerResponseForIndexInto response (crlfText ["221 headers follow"]) args state index .messageId

end NntpBench.Server
