import NntpBench.Request
import NntpBench.ResponseLine

namespace NntpBench.Protocol

open Terminator

def isCommandWs (byte : UInt8) : Bool := byte = SP || byte = HT

def skipCommandWs (line : Bytes) : Bytes := line.dropWhile isCommandWs

def stripCommandEolWs (line : Bytes) : Bytes := line.rdropWhile isCommandWs

def commandTokens (args : Bytes) : List Bytes :=
  (args.splitOnP isCommandWs).filter fun token => token ≠ []

def commandSpacingIsInvalid (line : Bytes) : Bool :=
  line = [] || line.head?.any isCommandWs ||
    line.any fun byte => isAsciiWhitespace byte && !isCommandWs byte

def asciiUpper (byte : UInt8) : UInt8 := if 97 ≤ byte && byte ≤ 122 then byte - 32 else byte

def eqIgnoreAsciiCaseConst (left right : Bytes) : Bool :=
  left.map asciiUpper = right.map asciiUpper

def validateUtf8Arg (validate : Str → Bool) (args : Bytes) : Bool := (fromUtf8 args).any validate

def validateCapabilitiesArgs (args : Bytes) : Bool :=
  match commandTokens args with
  | [keyword] => validateUtf8Arg validateKeyword keyword
  | _ => false

def validateArticleFetchSelector (args : Bytes) : Bool :=
  match fromUtf8 args with
  | none => false
  | some value =>
    if (asBytes value).all isAsciiDigit then (articleNumberTokenValue value).isSome
    else validateMessageId value

/-- The date, the time and the optional `GMT` at the end of the arguments. -/
def validateDatetimeTokens : List Bytes → Bool
  | [date, time] => validateUtf8Arg validateNntpDate date && validateUtf8Arg validateNntpTime time
  | [date, time, gmt] =>
    validateUtf8Arg validateNntpDate date && validateUtf8Arg validateNntpTime time &&
      eqIgnoreAsciiCaseConst gmt (ascii "GMT")
  | _ => false

def validateDiscoveryDatetimeArgs (args : Bytes) (allowWildmat : Bool) : Bool :=
  if allowWildmat then
    match commandTokens args with
    | [] => false
    | wildmat :: rest => validateUtf8Arg validateWildmat wildmat && validateDatetimeTokens rest
  else validateDatetimeTokens (commandTokens args)

def validateNewnewsArgs (args : Bytes) : Bool := validateDiscoveryDatetimeArgs args true

def validateSaslInitialResponse (value : Bytes) : Bool :=
  value = ascii "=" || validateSaslBase64 value

/-- The kind, or `unknown` when its arguments are not valid. -/
def kindIf (kind : RequestKind) (valid : Bool) : RequestKind := if valid then kind else .unknown

def classifyDirectCommand (kind : RequestKind) (args : Bytes) : RequestKind :=
  match kind with
  | .article | .body | .head | .stat => kindIf kind (args = [] || validateArticleFetchSelector args)
  | .group => kindIf kind (validateUtf8Arg validateGroupName args)
  | .listGroup =>
    if args = [] then kind
    else
      match commandTokens args with
      | [one] => kindIf kind (validateUtf8Arg validateGroupName one)
      | [group, range] =>
        kindIf kind
          (validateUtf8Arg validateGroupName group && validateUtf8Arg validateListgroupRange range)
      | _ => .unknown
  | .over => kindIf kind (args = [] || validateUtf8Arg validateArticleSelector args)
  | .xover => kindIf kind (args = [] || validateUtf8Arg validateListgroupRange args)
  | .hdr | .xhdr =>
    match commandTokens args with
    | [header] => kindIf kind (validateUtf8Arg validateHeaderName header)
    | [header, selector] =>
      kindIf kind
        (validateUtf8Arg validateHeaderName header &&
          validateUtf8Arg validateArticleSelector selector)
    | _ => .unknown
  | .ihave | .check | .takeThis => kindIf kind (validateUtf8Arg validateMessageId args)
  | .newGroups => kindIf kind (validateDiscoveryDatetimeArgs args false)
  | .newNews => kindIf kind (validateNewnewsArgs args)
  | .capabilities => kindIf kind (args = [] || validateCapabilitiesArgs args)
  | .date | .help | .last | .next | .post | .quit | .startTls => kindIf kind (args = [])
  | _ => kind

def splitAuthinfoSubcommandValue (args : Bytes) : Option (Bytes × Bytes) := do
  let split ← args.findIdx? isCommandWs
  let subcommand := args.take split
  let value := skipCommandWs (args.drop split)
  if subcommand ≠ [] ∧ value ≠ [] then some (subcommand, value) else none

def classifyAuthinfoSaslCommand (args : Bytes) : RequestKind :=
  match commandTokens args with
  | [subcommand, value] =>
    kindIf .authInfo
      (eqIgnoreAsciiCaseConst subcommand (ascii "SASL") && validateSaslMechanism value)
  | [subcommand, mechanism, initialResponse] =>
    kindIf .authInfo
      (eqIgnoreAsciiCaseConst subcommand (ascii "SASL") && validateSaslMechanism mechanism &&
        validateSaslInitialResponse initialResponse)
  | _ => .unknown

def classifyAuthinfoCommand (args : Bytes) : RequestKind :=
  match splitAuthinfoSubcommandValue args with
  | none => classifyAuthinfoSaslCommand args
  | some (subcommand, value) =>
    if eqIgnoreAsciiCaseConst subcommand (ascii "USER") && validateAuthInfoValueBytes value then
      .authInfoUser
    else if eqIgnoreAsciiCaseConst subcommand (ascii "PASS") && validateAuthInfoValueBytes
      value then
      .authInfoPass
    else classifyAuthinfoSaslCommand args

def LIST_SUBCOMMANDS : List (Bytes × RequestKind) :=
  [(ascii "ACTIVE", .listActive), (ascii "ACTIVE.TIMES", .listActiveTimes),
    (ascii "NEWSGROUPS", .listNewsgroups), (ascii "OVERVIEW.FMT", .listOverviewFmt),
    (ascii "HEADERS", .listHeaders), (ascii "DISTRIB.PATS", .listDistribPats)]

/-- What a subcommand allows behind it. -/
def classifySubcommandArgs (kind : RequestKind) (rest : List Bytes) : RequestKind :=
  match kind with
  | .listActive | .listActiveTimes | .listNewsgroups =>
    match rest with
    | [] => kind
    | [wildmat] => kindIf kind (validateUtf8Arg validateWildmat wildmat)
    | _ => .unknown
  | .authInfoUser | .authInfoPass =>
    match rest with
    | [value] =>
      kindIf kind (validateUtf8Arg (fun text => validateAuthInfoValueBytes (asBytes text)) value)
    | _ => .unknown
  | .listHeaders =>
    match rest with
    | [] => kind
    | [selector] =>
      kindIf kind
        (eqIgnoreAsciiCaseConst selector (ascii "MSGID") ||
          eqIgnoreAsciiCaseConst selector (ascii "RANGE"))
    | _ => .unknown
  | .listOverviewFmt | .listDistribPats => kindIf kind (rest = [])
  | _ => kind

def classifySubcommand (args : Bytes) (table : List (Bytes × RequestKind)) (default : RequestKind) :
    RequestKind :=
  match commandTokens args with
  | [] => default
  | subcommand :: rest =>
    match table.find? fun entry => eqIgnoreAsciiCaseConst subcommand entry.1 with
    | none => if subcommand = [] then default else .unknown
    | some (_, kind) => classifySubcommandArgs kind rest

inductive CommandKind where
  | direct (kind : RequestKind)
  | list
  | authInfo
  | mode
  deriving DecidableEq, Repr

def COMMAND_DESCRIPTORS : List (Bytes × CommandKind) :=
  [(ascii "ARTICLE", .direct .article), (ascii "AUTHINFO", .authInfo),
    (ascii "BODY", .direct .body),
    (ascii "CAPABILITIES", .direct .capabilities), (ascii "CHECK", .direct .check),
    (ascii "DATE", .direct .date), (ascii "GROUP", .direct .group), (ascii "HDR", .direct .hdr),
    (ascii "HEAD", .direct .head), (ascii "HELP", .direct .help), (ascii "IHAVE", .direct .ihave),
    (ascii "LAST", .direct .last), (ascii "LIST", .list), (ascii "LISTGROUP", .direct .listGroup),
    (ascii "MODE", .mode), (ascii "NEWGROUPS", .direct .newGroups),
    (ascii "NEWNEWS", .direct .newNews), (ascii "NEXT", .direct .next),
    (ascii "OVER", .direct .over), (ascii "POST", .direct .post), (ascii "QUIT", .direct .quit),
    (ascii "STARTTLS", .direct .startTls), (ascii "STAT", .direct .stat),
    (ascii "TAKETHIS", .direct .takeThis), (ascii "XHDR", .direct .xhdr),
    (ascii "XOVER", .direct .xover)]

def classifyRequestKind (verb args : Bytes) : RequestKind :=
  match COMMAND_DESCRIPTORS.find? fun entry => eqIgnoreAsciiCaseConst verb entry.1 with
  | none => .unknown
  | some (_, .direct kind) => classifyDirectCommand kind args
  | some (_, .list) => classifySubcommand args LIST_SUBCOMMANDS .list
  | some (_, .authInfo) => classifyAuthinfoCommand args
  | some (_, .mode) =>
    if eqIgnoreAsciiCaseConst args (ascii "READER") then .modeReader
    else if eqIgnoreAsciiCaseConst args (ascii "STREAM") then .modeStream
    else .unknown

structure RequestLine where
  kind : RequestKind
  verb : Bytes
  args : Bytes
  deriving DecidableEq, Repr

def splitVerb (line : Bytes) : Bytes × Bytes :=
  let split := (line.findIdx? isCommandWs).getD line.length
  (line.take split, if split < line.length then skipCommandWs (line.drop split) else [])

namespace RequestLine

def parse (raw : Bytes) : RequestLine :=
  if raw.length > MAX_AUTHINFO_SASL_COMMAND_LINE_BYTES then ⟨.unknown, raw, []⟩
  else
    match stripCompleteCrlfLine raw with
    | none => ⟨.unknown, raw, []⟩
    | some line =>
      let line := stripCommandEolWs line
      if commandSpacingIsInvalid line then ⟨.unknown, line, []⟩
      else
        let (verb, args) := splitVerb line
        let kind := classifyRequestKind verb args
        if (raw.length > MAX_INITIAL_RESPONSE_LINE_BYTES ∨
          args.length > MAX_COMMAND_ARGUMENT_BYTES) ∧ kind ≠ .authInfo then
          ⟨.unknown, verb, args⟩
        else ⟨kind, verb, args⟩

end RequestLine

/-- `find_message_id`: where the message-id is when the arguments are nothing else. -/
def findMessageId (args : Bytes) : Option (Nat × Nat) := do
  let start ← args.findIdx? fun byte => !isAsciiWhitespace byte
  let fromEnd ← args.reverse.findIdx? fun byte => !isAsciiWhitespace byte
  let fin := args.length - fromEnd
  let trimmed := args.extract start fin
  if trimmed.head? ≠ some 60 ∨ trimmed.getLast? ≠ some 62 ∨
      (trimmed.extract 1 (trimmed.length - 1)).any isAsciiWhitespace then none
  else
    let value ← fromUtf8 trimmed
    let _ ← MessageId.fromBorrowed value
    some (start, fin)

def RequestLine.messageId (self : RequestLine) : Option MessageId := do
  let (start, fin) ← findMessageId self.args
  let value ← fromUtf8 (self.args.extract start fin)
  MessageId.fromBorrowed value

end NntpBench.Protocol
