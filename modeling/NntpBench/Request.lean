import NntpBench.Transfer

namespace NntpBench.Protocol

open Terminator

inductive AuthInfoKind where
  | user
  | pass
  deriving DecidableEq, Repr

def AuthInfoKind.asWire : AuthInfoKind → Bytes
  | .user => ascii "USER"
  | .pass => ascii "PASS"

inductive ListKind where
  | active | activeTimes | newsgroups | overviewFmt | headers | distribPats
  deriving DecidableEq, Repr

def ListKind.asWire : ListKind → Bytes
  | .active => ascii "ACTIVE"
  | .activeTimes => ascii "ACTIVE.TIMES"
  | .newsgroups => ascii "NEWSGROUPS"
  | .overviewFmt => ascii "OVERVIEW.FMT"
  | .headers => ascii "HEADERS"
  | .distribPats => ascii "DISTRIB.PATS"

/-- The keyword of CAPABILITIES is a plain string here as in the source: only
`capabilities_keyword` checks it. -/
inductive Request where
  | article (articleRef : ArticleRef)
  | body (articleRef : ArticleRef)
  | head (articleRef : ArticleRef)
  | stat (articleRef : ArticleRef)
  | listVariant (kind : ListKind) (wildmat : Option Wildmat)
  | group (group : GroupName)
  | listGroup (group : Option GroupName) (range : Option ListGroupRange)
  | last
  | next
  | over (selector : Option ArticleSelector)
  | xover (selector : Option ListGroupRange)
  | hdr (header : HeaderName) (selector : Option ArticleSelector)
  | xhdr (header : HeaderName) (selector : Option ArticleSelector)
  | newGroups (date : NntpDate) (time : NntpTime) (gmt : Bool)
  | newNews (wildmat : Wildmat) (date : NntpDate) (time : NntpTime) (gmt : Bool)
  | post
  | ihave (messageId : MessageId)
  | check (messageId : MessageId)
  | takeThis (messageId : MessageId) (article : Bytes)
  | authInfo (kind : AuthInfoKind) (value : AuthInfoValue)
  | startTls
  | list
  | help
  | capabilities (keyword : Option Str)
  | date
  | modeReader
  | modeStream
  | quit
  deriving DecidableEq

namespace Request

def kind : Request → RequestKind
  | .article _ => .article
  | .body _ => .body
  | .head _ => .head
  | .stat _ => .stat
  | .listVariant .active _ => .listActive
  | .listVariant .activeTimes _ => .listActiveTimes
  | .listVariant .newsgroups _ => .listNewsgroups
  | .listVariant .overviewFmt _ => .listOverviewFmt
  | .listVariant .headers _ => .listHeaders
  | .listVariant .distribPats _ => .listDistribPats
  | .group _ => .group
  | .listGroup _ _ => .listGroup
  | .last => .last
  | .next => .next
  | .over _ => .over
  | .xover _ => .xover
  | .hdr _ _ => .hdr
  | .xhdr _ _ => .xhdr
  | .newGroups _ _ _ => .newGroups
  | .newNews _ _ _ _ => .newNews
  | .post => .post
  | .ihave _ => .ihave
  | .check _ => .check
  | .takeThis _ _ => .takeThis
  | .authInfo .user _ => .authInfoUser
  | .authInfo .pass _ => .authInfoPass
  | .startTls => .startTls
  | .list => .list
  | .help => .help
  | .capabilities _ => .capabilities
  | .date => .date
  | .modeReader => .modeReader
  | .modeStream => .modeStream
  | .quit => .quit

end Request

section Wire

variable (verb : Bytes)

def writeSimpleRequestWire : Bytes := verb ++ CRLF

def writeRequestWire (messageId : MessageId) : Bytes := verb ++ asBytes messageId.value ++ CRLF

def writeArticleRefRequestWire (articleRef : ArticleRef) : Bytes :=
  verb ++
    (match articleRef with
      | .current => []
      | .number value => ascii " " ++ decimalText value.toNat
      | .messageId messageId => ascii " " ++ asBytes messageId.value) ++ CRLF

def writeOneArgRequestWire (arg : Str) : Bytes := verb ++ asBytes arg ++ CRLF

def writeOptionalArg (arg : Option Str) : Bytes := arg.elim [] fun arg => ascii " " ++ asBytes arg

def writeOptionalArgRequestWire (arg : Option Str) : Bytes := verb ++ writeOptionalArg arg ++ CRLF

def writeHeaderQueryRequestWire (header : HeaderName) (selector : Option ArticleSelector) : Bytes :=
  verb ++ ascii " " ++ asBytes header.value ++ writeOptionalArg (selector.map (·.value)) ++ CRLF

def writeListgroupRequestWire (group : Option GroupName) (range : Option ListGroupRange) : Bytes :=
  ascii "LISTGROUP" ++ writeOptionalArg (group.map (·.value)) ++
    (match group, range with
      | some _, some range => ascii " " ++ asBytes range.value
      | _, _ => []) ++ CRLF

def writeDatetimeRequestWire (date : NntpDate) (time : NntpTime) (gmt : Bool) : Bytes :=
  verb ++ asBytes date.value ++ ascii " " ++ asBytes time.value ++
    (if gmt then ascii " GMT" else []) ++ CRLF

def writeNewnewsRequestWire (wildmat : Wildmat) (date : NntpDate) (time : NntpTime) (gmt : Bool) :
    Bytes :=
  ascii "NEWNEWS " ++ asBytes wildmat.value ++ ascii " " ++ asBytes date.value ++ ascii " " ++
    asBytes time.value ++ (if gmt then ascii " GMT" else []) ++ CRLF

def writeListRequestWire (kind : ListKind) (wildmat : Option Wildmat) : Bytes :=
  ascii "LIST " ++ kind.asWire ++ writeOptionalArg (wildmat.map (·.value)) ++ CRLF

def writeAuthinfoRequestWire (kind : AuthInfoKind) (value : AuthInfoValue) : Bytes :=
  ascii "AUTHINFO " ++ kind.asWire ++ ascii " " ++ value.value ++ CRLF

def writeTransferRequestWire (messageId : MessageId) (article : Bytes) : Bytes :=
  verb ++ asBytes messageId.value ++ CRLF ++ writeDotStuffedArticle article

end Wire

def Request.writeWireTo : Request → Bytes
  | .article articleRef => writeArticleRefRequestWire (ascii "ARTICLE") articleRef
  | .body articleRef => writeArticleRefRequestWire (ascii "BODY") articleRef
  | .head articleRef => writeArticleRefRequestWire (ascii "HEAD") articleRef
  | .stat articleRef => writeArticleRefRequestWire (ascii "STAT") articleRef
  | .listVariant kind wildmat => writeListRequestWire kind wildmat
  | .group name => writeOneArgRequestWire (ascii "GROUP ") name.value
  | .listGroup name range => writeListgroupRequestWire name range
  | .last => writeSimpleRequestWire (ascii "LAST")
  | .next => writeSimpleRequestWire (ascii "NEXT")
  | .over selector => writeOptionalArgRequestWire (ascii "OVER") (selector.map (·.value))
  | .xover selector => writeOptionalArgRequestWire (ascii "XOVER") (selector.map (·.value))
  | .hdr header selector => writeHeaderQueryRequestWire (ascii "HDR") header selector
  | .xhdr header selector => writeHeaderQueryRequestWire (ascii "XHDR") header selector
  | .newGroups day time gmt => writeDatetimeRequestWire (ascii "NEWGROUPS ") day time gmt
  | .newNews wildmat day time gmt => writeNewnewsRequestWire wildmat day time gmt
  | .post => writeSimpleRequestWire (ascii "POST")
  | .ihave messageId => writeRequestWire (ascii "IHAVE ") messageId
  | .check messageId => writeRequestWire (ascii "CHECK ") messageId
  | .takeThis messageId payload => writeTransferRequestWire (ascii "TAKETHIS ") messageId payload
  | .authInfo kind value => writeAuthinfoRequestWire kind value
  | .startTls => writeSimpleRequestWire (ascii "STARTTLS")
  | .list => writeSimpleRequestWire (ascii "LIST")
  | .help => writeSimpleRequestWire (ascii "HELP")
  | .capabilities none => writeSimpleRequestWire (ascii "CAPABILITIES")
  | .capabilities (some keyword) => writeOneArgRequestWire (ascii "CAPABILITIES ") keyword
  | .date => writeSimpleRequestWire (ascii "DATE")
  | .modeReader => writeSimpleRequestWire (ascii "MODE READER")
  | .modeStream => writeSimpleRequestWire (ascii "MODE STREAM")
  | .quit => writeSimpleRequestWire (ascii "QUIT")

/-- Which argument a constructor function rejected. -/
inductive InvalidArgument where
  | messageId | articleRef | groupName | range | selector | header | date | time | wildmat
  | authInfoValue | keyword
  deriving DecidableEq, Repr

def orInvalid {α : Type} (error : InvalidArgument) : Option α → Except InvalidArgument α
  | some value => .ok value
  | none => .error error

namespace Request

section ArticleRefs

variable (make : ArticleRef → Request)

def fromMessageId (messageId : Str) : Except InvalidArgument Request := do
  .ok (make (.messageId (← orInvalid .messageId (MessageId.fromStrOrWrap messageId))))

def fromNumber (number : UInt64) : Except InvalidArgument Request := do
  .ok (make (← orInvalid .articleRef (ArticleRef.fromNumber number)))

def fromSelector (selector : Str) : Except InvalidArgument Request := do
  .ok (make (← orInvalid .articleRef (ArticleRef.fromSelector selector)))

end ArticleRefs

def listgroupGroupRange (name range : Str) : Except InvalidArgument Request := do
  let name ← orInvalid .groupName (GroupName.fromOwned name)
  let range ← orInvalid .range (ListGroupRange.fromOwned range)
  .ok (.listGroup (some name) (some range))

def headerQuery (make : HeaderName → Option ArticleSelector → Request) (header selector : Str) :
    Except InvalidArgument Request := do
  let header ← orInvalid .header (HeaderName.fromOwned header)
  let selector ← orInvalid .selector (ArticleSelector.fromOwned selector)
  .ok (make header (some selector))

def newgroups (date time : Str) (gmt : Bool) : Except InvalidArgument Request := do
  let date ← orInvalid .date (NntpDate.fromOwned date)
  let time ← orInvalid .time (NntpTime.fromOwned time)
  .ok (.newGroups date time gmt)

def newnews (wildmat date time : Str) (gmt : Bool) : Except InvalidArgument Request := do
  let wildmat ← orInvalid .wildmat (Wildmat.fromOwned wildmat)
  let date ← orInvalid .date (NntpDate.fromOwned date)
  let time ← orInvalid .time (NntpTime.fromOwned time)
  .ok (.newNews wildmat date time gmt)

def takethis (messageId : Str) (payload : Bytes) : Except InvalidArgument Request := do
  .ok (.takeThis (← orInvalid .messageId (MessageId.fromStrOrWrap messageId)) payload)

def authinfoBytes (kind : AuthInfoKind) (value : Bytes) : Except InvalidArgument Request := do
  .ok (.authInfo kind (← orInvalid .authInfoValue (AuthInfoValue.fromOwnedBytes value)))

def listWildmat (kind : ListKind) (wildmat : Str) : Except InvalidArgument Request := do
  .ok (.listVariant kind (some (← orInvalid .wildmat (Wildmat.fromOwned wildmat))))

def capabilitiesKeyword (keyword : Str) : Except InvalidArgument Request :=
  if validateKeyword keyword then .ok (.capabilities (some keyword)) else .error .keyword

end Request

/-- A call of one of the public constructor functions of `Request`, with the caller's arguments. -/
inductive RequestCall where
  | article (messageId : Str) | articleCurrent | articleNumber (number : UInt64)
  | articleSelector (selector : Str)
  | body (messageId : Str) | bodyCurrent | bodyNumber (number : UInt64)
  | bodySelector (selector : Str)
  | head (messageId : Str) | headCurrent | headNumber (number : UInt64)
  | headSelector (selector : Str)
  | stat (messageId : Str) | statCurrent | statNumber (number : UInt64)
  | statSelector (selector : Str)
  | group (name : Str)
  | listgroup (name : Str) | listgroupCurrent | listgroupGroupRange (name range : Str)
  | last | next
  | over (selector : Str) | overCurrent | xover (selector : Str) | xoverCurrent
  | hdr (header selector : Str) | hdrCurrent (header : Str)
  | xhdr (header selector : Str) | xhdrCurrent (header : Str)
  | newgroups (date time : Str) (gmt : Bool)
  | newnews (wildmat date time : Str) (gmt : Bool)
  | post | ihave (messageId : Str) | check (messageId : Str)
  | takethis (messageId : Str) (payload : Bytes)
  | authinfoUser (value : Str) | authinfoUserBytes (value : Bytes)
  | authinfoPass (value : Str) | authinfoPassBytes (value : Bytes)
  | starttls
  | list | listActive | listActiveWildmat (wildmat : Str)
  | listActiveTimes | listActiveTimesWildmat (wildmat : Str)
  | listNewsgroups | listNewsgroupsWildmat (wildmat : Str)
  | listOverviewFmt | listHeaders | listDistribPats
  | help | capabilities | capabilitiesKeyword (keyword : Str)
  | date | modeReader | modeStream | quit
  deriving DecidableEq, Repr

def RequestCall.build : RequestCall → Except InvalidArgument Request
  | article messageId => Request.fromMessageId .article messageId
  | articleCurrent => .ok (.article .current)
  | articleNumber number => Request.fromNumber .article number
  | articleSelector selector => Request.fromSelector .article selector
  | body messageId => Request.fromMessageId .body messageId
  | bodyCurrent => .ok (.body .current)
  | bodyNumber number => Request.fromNumber .body number
  | bodySelector selector => Request.fromSelector .body selector
  | head messageId => Request.fromMessageId .head messageId
  | headCurrent => .ok (.head .current)
  | headNumber number => Request.fromNumber .head number
  | headSelector selector => Request.fromSelector .head selector
  | stat messageId => Request.fromMessageId .stat messageId
  | statCurrent => .ok (.stat .current)
  | statNumber number => Request.fromNumber .stat number
  | statSelector selector => Request.fromSelector .stat selector
  | group name => do .ok (.group (← orInvalid .groupName (GroupName.fromOwned name)))
  | listgroup name => do
    .ok (.listGroup (some (← orInvalid .groupName (GroupName.fromOwned name))) none)
  | listgroupCurrent => .ok (.listGroup none none)
  | listgroupGroupRange name range => Request.listgroupGroupRange name range
  | last => .ok .last
  | next => .ok .next
  | «over» selector => do
    .ok (.over (some (← orInvalid .selector (ArticleSelector.fromOwned selector))))
  | overCurrent => .ok (.over none)
  | xover selector => do
    .ok (.xover (some (← orInvalid .selector (ListGroupRange.fromOwned selector))))
  | xoverCurrent => .ok (.xover none)
  | hdr header selector => Request.headerQuery .hdr header selector
  | hdrCurrent header => do .ok (.hdr (← orInvalid .header (HeaderName.fromOwned header)) none)
  | xhdr header selector => Request.headerQuery .xhdr header selector
  | xhdrCurrent header => do .ok (.xhdr (← orInvalid .header (HeaderName.fromOwned header)) none)
  | newgroups day time gmt => Request.newgroups day time gmt
  | newnews wildmat day time gmt => Request.newnews wildmat day time gmt
  | post => .ok .post
  | ihave messageId => do
    .ok (.ihave (← orInvalid .messageId (MessageId.fromStrOrWrap messageId)))
  | check messageId => do
    .ok (.check (← orInvalid .messageId (MessageId.fromStrOrWrap messageId)))
  | takethis messageId payload => Request.takethis messageId payload
  | authinfoUser value => Request.authinfoBytes .user (asBytes value)
  | authinfoUserBytes value => Request.authinfoBytes .user value
  | authinfoPass value => Request.authinfoBytes .pass (asBytes value)
  | authinfoPassBytes value => Request.authinfoBytes .pass value
  | starttls => .ok .startTls
  | list => .ok .list
  | listActive => .ok (.listVariant .active none)
  | listActiveWildmat wildmat => Request.listWildmat .active wildmat
  | listActiveTimes => .ok (.listVariant .activeTimes none)
  | listActiveTimesWildmat wildmat => Request.listWildmat .activeTimes wildmat
  | listNewsgroups => .ok (.listVariant .newsgroups none)
  | listNewsgroupsWildmat wildmat => Request.listWildmat .newsgroups wildmat
  | listOverviewFmt => .ok (.listVariant .overviewFmt none)
  | listHeaders => .ok (.listVariant .headers none)
  | listDistribPats => .ok (.listVariant .distribPats none)
  | help => .ok .help
  | capabilities => .ok (.capabilities none)
  | capabilitiesKeyword keyword => Request.capabilitiesKeyword keyword
  | date => .ok .date
  | modeReader => .ok .modeReader
  | modeStream => .ok .modeStream
  | quit => .ok .quit

end NntpBench.Protocol
