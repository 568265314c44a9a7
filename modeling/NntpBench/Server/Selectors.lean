import NntpBench.Server.Dates
import NntpBench.Server.Replies

namespace NntpBench.Server

open Protocol Terminator

structure CommandLineSpan where
  start : Nat
  len : Nat
  deriving DecidableEq, Repr

/-- The lines of a batch behind each other; a span has 32 bits for its start and 16 for its
length. -/
structure CommandLineBatch where
  bytes : Bytes
  lines : List CommandLineSpan
  deriving DecidableEq, Repr

namespace CommandLineBatch

def clear : CommandLineBatch := ⟨[], []⟩

def copyLine (self : CommandLineBatch) (line : Bytes) : CommandLineBatch :=
  { bytes := self.bytes ++ line
    lines := self.lines ++
      [⟨min self.bytes.length (2 ^ 32 - 1), (toU16 line.length).getD (2 ^ 16 - 1)⟩] }

def ofLines (lines : List Bytes) : CommandLineBatch := lines.foldl copyLine clear

/-- `line`; indexing past the end, which panics in the source, gives nothing. -/
def line (self : CommandLineBatch) (slot : Nat) : Bytes :=
  match self.lines[slot]? with
  | some span => self.bytes.extract span.start (span.start + span.len)
  | none => []

def lineSlice (self : CommandLineBatch) (slot start len : Nat) : Bytes :=
  (self.line slot).extract start (start + len)

end CommandLineBatch

def commandMessageIdBytes (command : ParsedCommand) (commandLines : CommandLineBatch) :
    Option Bytes :=
  command.messageId.map fun range => commandLines.lineSlice command.lineSlot range.start range.len

/-- `command_message_id`: the message-id was validated when the line was parsed. -/
def commandMessageId (command : ParsedCommand) (commandLines : CommandLineBatch) : Option Str :=
  (commandMessageIdBytes command commandLines).bind fromUtf8

/-- `command_args(command, command_lines).unwrap_or_default()`. -/
def commandArgs (command : ParsedCommand) (commandLines : Option CommandLineBatch) : Bytes :=
  let args := do
    let line := lineContent ((← commandLines).line command.lineSlot)
    let split ← line.findIdx? isCommandWs
    some (skipCommandWs (line.drop split))
  args.getD []

def splitCommandArgOnce (args : Bytes) : Option (Bytes × Bytes) :=
  let args := skipCommandWs args
  (args.findIdx? isCommandWs).map fun split => (args.take split, skipCommandWs (args.drop split))

def firstCommandArg (args : Bytes) : Option Bytes :=
  let args := skipCommandWs args
  if args = [] then none else some (args.take ((args.findIdx? isCommandWs).getD args.length))

def nthCommandArg (args : Bytes) (index : Nat) : Option Bytes := (commandTokens args)[index]?

def commandArgCount (args : Bytes) : Nat := (commandTokens args).length

def containsSubslice (haystack needle : Bytes) : Bool := decide (needle <:+: haystack)

/-- `matches_from`: `*` takes any number of characters and `?` takes one. -/
def wildmatPatternMatches : Str → Str → Bool
  | [], [] => true
  | [], _ :: _ => false
  | '*' :: rest, [] => wildmatPatternMatches rest []
  | '*' :: rest, c :: group =>
    wildmatPatternMatches rest (c :: group) || wildmatPatternMatches ('*' :: rest) group
  | '?' :: rest, _ :: group => wildmatPatternMatches rest group
  | expected :: rest, actual :: group => expected == actual && wildmatPatternMatches rest group
  | _ :: _, [] => false
termination_by pattern group => pattern.length + group.length

/-- The last pattern that matches decides, and a negated one decides against the group. -/
def wildmatMatches (patterns group : Bytes) : Bool :=
  match fromUtf8 patterns, fromUtf8 group with
  | some patterns, some group =>
    let matched := (patterns.splitOn ',').foldl (fun matched pattern =>
      let negated := pattern.head? = some '!'
      if wildmatPatternMatches (if negated then pattern.tail else pattern) group then
        some (!decide negated)
      else matched) none
    matched.getD false
  | _, _ => false

def stripListVariantArgs (args keyword : Bytes) : Bytes :=
  if eqIgnoreAsciiCase args keyword then []
  else
    match splitCommandArgOnce args with
    | some (first, rest) => if eqIgnoreAsciiCase first keyword then rest else args
    | none => args

def listVariantWildmatArgs (kind : RequestKind) (args : Bytes) : Bytes :=
  match kind with
  | .listActive => stripListVariantArgs args (ascii "ACTIVE")
  | .listActiveTimes => stripListVariantArgs args (ascii "ACTIVE.TIMES")
  | .listNewsgroups => stripListVariantArgs args (ascii "NEWSGROUPS")
  | _ => args

/-- A group is listed when there is no wildmat or it matches. -/
def listsGroup (args group : Bytes) : Bool := args.isEmpty || wildmatMatches args group

/-- One of eight replies, by which of the three fixture groups are listed. -/
def chooseByGroups (args : Bytes) (full compAlt compEmpty comp altEmpty alt empty none : Bytes) :
    Bytes :=
  match listsGroup args (ascii "comp.lang.rust"), listsGroup args (ascii "alt.test"),
    listsGroup args (ascii "empty.test") with
  | true, true, true => full
  | true, true, false => compAlt
  | true, false, true => compEmpty
  | true, false, false => comp
  | false, true, true => altEmpty
  | false, true, false => alt
  | false, false, true => empty
  | false, false, false => none

def listActiveResponse (args : Bytes) : Bytes :=
  chooseByGroups args LIST_RESPONSE LIST_ACTIVE_COMP_ALT_RESPONSE
    LIST_ACTIVE_COMP_EMPTY_GROUP_RESPONSE LIST_ACTIVE_COMP_RESPONSE
    LIST_ACTIVE_ALT_EMPTY_GROUP_RESPONSE LIST_ACTIVE_ALT_RESPONSE LIST_ACTIVE_EMPTY_GROUP_RESPONSE
    LIST_EMPTY_RESPONSE

def listInfoResponseForGroups (args : Bytes) (responses : ListInfoResponses) : Bytes :=
  chooseByGroups args responses.full responses.compAlt responses.compEmpty responses.comp
    responses.altEmpty responses.alt responses.empty LIST_INFO_EMPTY_RESPONSE

def listActiveTimesResponse (args : Bytes) : Bytes :=
  listInfoResponseForGroups args LIST_ACTIVE_TIMES_RESPONSES

def listNewsgroupsResponse (args : Bytes) : Bytes :=
  listInfoResponseForGroups args LIST_NEWSGROUPS_RESPONSES

def FAR_FUTURE_DATETIME_KEY : Nat := 99991231235959

def newgroupsDatetimeKey (args : Bytes) (currentYear : Nat) : Option Nat := do
  let date ← firstCommandArg args
  let time ← nthCommandArg args 1
  normalizedNntpDatetimeKey date time currentYear

def newnewsDatetimeKey (args : Bytes) (currentYear : Nat) : Option Nat := do
  let date ← nthCommandArg args 1
  let time ← nthCommandArg args 2
  normalizedNntpDatetimeKey date time currentYear

def newgroupsDatetimeTimestamp (args : Bytes) (currentYear : Nat) : Option Nat := do
  let date ← firstCommandArg args
  let time ← nthCommandArg args 1
  nntpDatetimeTimestamp date time currentYear

def newnewsDatetimeTimestamp (args : Bytes) (currentYear : Nat) : Option Nat := do
  let date ← nthCommandArg args 1
  let time ← nthCommandArg args 2
  nntpDatetimeTimestamp date time currentYear

/-- The reply of the NEWGROUPS arm without an index. -/
def newgroupsResponse (args : Bytes) (currentYear : Nat) : Bytes :=
  if (newgroupsDatetimeKey args currentYear).any (FAR_FUTURE_DATETIME_KEY ≤ ·) then
    NEWGROUPS_EMPTY_RESPONSE
  else NEWGROUPS_RESPONSE

def newnewsResponse (args : Bytes) (currentYear : Nat) : Bytes :=
  if (newnewsDatetimeKey args currentYear).any (FAR_FUTURE_DATETIME_KEY ≤ ·) then
    NEWNEWS_EMPTY_RESPONSE
  else
    let wildmat := (firstCommandArg args).getD []
    if wildmat = [] ∨ wildmatMatches wildmat (ascii "alt.test") then NEWNEWS_RESPONSE
    else NEWNEWS_EMPTY_RESPONSE

inductive FixtureGroup where
  | altTest
  | compLangRust
  | emptyTest
  deriving DecidableEq, Repr

namespace FixtureGroup

def articleCount : FixtureGroup → Nat
  | altTest => 3
  | compLangRust => 1
  | emptyTest => 0

def articleNumbers : FixtureGroup → List Nat
  | altTest => [1, 2, 3]
  | compLangRust => [1]
  | emptyTest => []

def firstArticle : FixtureGroup → Option Nat
  | altTest | compLangRust => some 1
  | emptyTest => none

def name : FixtureGroup → Str
  | altTest => "alt.test".toList
  | compLangRust => "comp.lang.rust".toList
  | emptyTest => "empty.test".toList

end FixtureGroup

def fixtureGroupFromName (name : Bytes) : Option FixtureGroup :=
  if eqIgnoreAsciiCase name (ascii "alt.test") then some .altTest
  else if eqIgnoreAsciiCase name (ascii "comp.lang.rust") then some .compLangRust
  else if eqIgnoreAsciiCase name (ascii "empty.test") then some .emptyTest
  else none

def groupResponseForGroup : FixtureGroup → Bytes
  | .altTest => GROUP_RESPONSE
  | .compLangRust => GROUP_COMP_RESPONSE
  | .emptyTest => GROUP_EMPTY_RESPONSE

def NO_SUCH_NEWSGROUP : Bytes := crlfText ["411 no such newsgroup"]

def NO_NEWSGROUP_SELECTED : Bytes := crlfText ["412 no newsgroup selected"]

def NO_CURRENT_ARTICLE : Bytes := crlfText ["420 no current article selected"]

def NO_ARTICLE_WITH_NUMBER : Bytes := crlfText ["423 no article with that number"]

def NO_ARTICLE_WITH_MESSAGE_ID : Bytes := crlfText ["430 no article with that message-id"]

def COMMAND_UNAVAILABLE : Bytes := crlfText ["502 command unavailable"]

/-- The start of a range and its end; a single number is the range of itself. -/
def listgroupRangeBounds (range : Bytes) : Option (Nat × Option Nat) := do
  let value ← fromUtf8 range
  match splitOnce '-' value with
  | some (start, fin) =>
    let start ← parseUnsigned (2 ^ 64) start
    some (start, if fin = [] then none else parseUnsigned (2 ^ 64) fin)
  | none => (parseUnsigned (2 ^ 64) value).map fun value => (value, some value)

def listgroupExplicitGroupArg (args : Bytes) : Option Bytes := firstCommandArg args

def listgroupRangeArg (args : Bytes) : Option Bytes :=
  if (listgroupExplicitGroupArg args).isSome then nthCommandArg args 1 else none

def listgroupSelectedGroup (args : Bytes) (currentGroup : Option FixtureGroup) :
    Option FixtureGroup :=
  ((listgroupExplicitGroupArg args).bind fixtureGroupFromName).or currentGroup

def listgroupRangeSelectsArticles (range : Bytes) (group : FixtureGroup) : Bool :=
  match listgroupRangeBounds range with
  | none => false
  | some (start, fin) =>
    let high := group.articleCount
    let fin := min (fin.getD high) high
    start ≤ fin && start ≤ high

def listgroupRangeStartsAtSecond (range : Bytes) : Bool :=
  (listgroupRangeBounds range).any fun (start, _) => start = 2

def listgroupResponseForArgs (args : Bytes) (currentGroup : Option FixtureGroup) : Bytes :=
  if (listgroupExplicitGroupArg args).any fun group => (fixtureGroupFromName group).isNone then
    NO_SUCH_NEWSGROUP
  else
    let group := (listgroupSelectedGroup args currentGroup).getD .altTest
    let range := listgroupRangeArg args
    match group with
    | .emptyTest => LISTGROUP_EMPTY_GROUP_RESPONSE
    | .compLangRust =>
      if range.any fun range => !listgroupRangeSelectsArticles range group then
        LISTGROUP_COMP_EMPTY_RESPONSE
      else LISTGROUP_COMP_RESPONSE
    | .altTest =>
      match range with
      | none => LISTGROUP_RESPONSE
      | some range =>
        if !listgroupRangeSelectsArticles range group then LISTGROUP_EMPTY_RESPONSE
        else if listgroupRangeStartsAtSecond range then LISTGROUP_2_3_RESPONSE
        else LISTGROUP_RESPONSE

def lastResponseForArticle : Nat → Bytes
  | 1 => LAST_RESPONSE
  | 2 => NAVIGATION_ARTICLE_2_RESPONSE
  | _ => NO_ARTICLE_WITH_NUMBER

def nextResponseForArticle : Nat → Bytes
  | 2 => NEXT_RESPONSE
  | 3 => NAVIGATION_ARTICLE_3_RESPONSE
  | _ => NO_ARTICLE_WITH_NUMBER

def overviewSelectorIsMessageId (selector : Bytes) : Bool := decide (ascii "<" <+: selector)

def overviewSelectorRequiresGroup (selector : Bytes) : Bool := !decide (ascii "<" <+: selector)

def overviewSelectorIsRange (selector : Bytes) : Bool := selector.contains 45

/-- The interval of a selector written with a dash contains all of `first … last`. -/
def overviewSelectorRangeCovers (selector : Bytes) (first last : Nat) : Bool :=
  let bounds := do
    let (start, fin) ← splitOnce '-' (← fromUtf8 selector)
    let start ← parseUnsigned (2 ^ 64) start
    let fin ← if fin = [] then some (2 ^ 64 - 1) else parseUnsigned (2 ^ 64) fin
    some (start, fin)
  bounds.any fun (start, fin) => start ≤ first && last ≤ fin

def overviewSelectorRangeSelectsArticles (selector : Bytes) (articles : List Nat) : Bool :=
  match listgroupRangeBounds selector with
  | none => false
  | some (start, fin) =>
    articles.any fun article => start ≤ article && article ≤ fin.getD (2 ^ 64 - 1)

/-- `overview_selector_selects_second_only` and `overview_selector_selects_third_only`. -/
def overviewSelectorSelectsOnly (digit : String) (number : Nat) (selector : Bytes) : Bool :=
  selector = ascii digit ||
    (listgroupRangeBounds selector).any fun (start, fin) => start = number && fin = some number

def overviewSelectorSelectsFirstOnly (selector : Bytes) : Bool := selector = ascii "1"

def overviewSelectorSelectsSecondOnly : Bytes → Bool := overviewSelectorSelectsOnly "2" 2

def overviewSelectorSelectsThirdOnly : Bytes → Bool := overviewSelectorSelectsOnly "3" 3

def overviewSelectorIncludesFirstThroughThird (selector : Bytes) : Bool :=
  overviewSelectorRangeCovers selector 1 3

def overviewSelectorIncludesFirstTwo (selector : Bytes) : Bool :=
  overviewSelectorRangeCovers selector 1 2

def overviewSelectorIncludesSecondAndThird (selector : Bytes) : Bool :=
  overviewSelectorRangeCovers selector 2 3

/-- The part that `over_response_for_args` and `xover_response_for_args` share; they differ in the
reply to every other selector. -/
def overviewResponseForSelector (otherwise args : Bytes) : Bytes :=
  if overviewSelectorIsMessageId args then OVER_MESSAGE_ID_RESPONSE
  else if overviewSelectorIncludesFirstThroughThird args then OVER_ALL_RESPONSE
  else if overviewSelectorIncludesFirstTwo args then OVER_RANGE_RESPONSE
  else if overviewSelectorIncludesSecondAndThird args then OVER_2_PLUS_RESPONSE
  else if overviewSelectorSelectsSecondOnly args then OVER_2_RESPONSE
  else if overviewSelectorSelectsThirdOnly args then OVER_3_RESPONSE
  else otherwise

def overResponseForArgs (args : Bytes) : Bytes := overviewResponseForSelector OVER_RESPONSE args

def xoverResponseForArgs (args : Bytes) : Bytes :=
  if args.isEmpty then OVER_RESPONSE else overviewResponseForSelector XOVER_RESPONSE args

def overviewSelectorArg (kind : RequestKind) (args : Bytes) : Option Bytes :=
  match kind with
  | .over | .xover => if args = [] then none else some args
  | .hdr | .xhdr => nthCommandArg args 1
  | _ => none

def headerQueryNameFromArgs (args : Bytes) : Option Bytes := firstCommandArg args

def HDR_FIELDS : List Bytes :=
  [":bytes", ":lines", "Subject", "From", "Date", "Message-ID", "References"].map ascii

def hdrFieldIsSupported (field : Bytes) : Bool :=
  HDR_FIELDS.any fun supported => eqIgnoreAsciiCase field supported

def headerResponseForSelector (responses : HeaderResponses) (selector : Option Bytes) : Bytes :=
  if selector.any overviewSelectorIsMessageId then responses.messageId
  else if selector.any overviewSelectorSelectsFirstOnly then responses.first
  else if selector.any overviewSelectorIncludesSecondAndThird then responses.secondAndThird
  else if selector.any overviewSelectorSelectsSecondOnly then responses.second
  else if selector.any overviewSelectorSelectsThirdOnly then responses.third
  else responses.all

/-- The replies of HDR or of XHDR, one table per header; every other header has the table of
`Subject`. -/
structure HeaderTables where
  messageId : HeaderResponses
  sender : HeaderResponses
  date : HeaderResponses
  references : HeaderResponses
  bytes : HeaderResponses
  lines : HeaderResponses
  subject : HeaderResponses

def headerResponseForArgs (tables : HeaderTables) (args : Bytes) : Bytes :=
  let selector := overviewSelectorArg .hdr args
  let isHeader (name : String) : Bool :=
    (headerQueryNameFromArgs args).any fun header => eqIgnoreAsciiCase header (ascii name)
  let responses :=
    if isHeader "Message-ID" then tables.messageId
    else if isHeader "From" then tables.sender
    else if isHeader "Date" then tables.date
    else if isHeader "References" then tables.references
    else if isHeader ":bytes" then tables.bytes
    else if isHeader ":lines" then tables.lines
    else tables.subject
  headerResponseForSelector responses selector

def hdrResponseForArgs : Bytes → Bytes :=
  headerResponseForArgs
    { messageId := HDR_MESSAGE_ID_RESPONSES, sender := HDR_FROM_RESPONSES
      date := HDR_DATE_RESPONSES, references := HDR_REFERENCES_RESPONSES
      bytes := HDR_BYTES_RESPONSES, lines := HDR_LINES_RESPONSES, subject := HDR_SUBJECT_RESPONSES }

def xhdrResponseForArgs : Bytes → Bytes :=
  headerResponseForArgs
    { messageId := XHDR_MESSAGE_ID_RESPONSES, sender := XHDR_FROM_RESPONSES
      date := XHDR_DATE_RESPONSES, references := XHDR_REFERENCES_RESPONSES
      bytes := XHDR_BYTES_RESPONSES, lines := XHDR_LINES_RESPONSES
      subject := XHDR_SUBJECT_RESPONSES }

end NntpBench.Server
