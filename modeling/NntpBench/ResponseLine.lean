import NntpBench.Terminator
import NntpBench.Validators

namespace NntpBench.Protocol

open Terminator

def isPChar (ch : Char) : Bool :=
  ch ≠ '\ufeff' && (0x80 ≤ ch.toNat || (0x21 ≤ ch.toNat && ch.toNat ≤ 0x7e))

def isUChar (ch : Char) : Bool :=
  let code := ch.toNat
  ch ≠ '\ufeff' &&
    ((1 ≤ code && code ≤ 8) || code = 9 || (0x0b ≤ code && code ≤ 0x0c) ||
      (0x0e ≤ code && code ≤ 0x7e) || 0x80 ≤ code)

def validateUText (value : Bytes) : Bool :=
  match fromUtf8 value with
  | some (first :: rest) => isPChar first && rest.all isUChar
  | _ => false

def validateUChars (value : Bytes) : Bool := (fromUtf8 value).any fun text => text.all isUChar

def validatePCharToken (value : Bytes) : Bool :=
  (fromUtf8 value).any fun token => token ≠ [] && token.all isPChar

def validateGenericResponseArguments (value : Bytes) : Bool := value = [] || validateUChars value

def validateOptionalTrailingComment (value : Bytes) : Bool :=
  value = [] || (stripStart (ascii " ") value).any validateUChars

/-- `split_required_response_tokens::<N>`: `N` tokens with single spaces between them, and what
follows the last one. -/
def splitRequiredResponseTokens : Nat → Bytes → Option (List Bytes × Bytes)
  | 0, value => if value = [] ∨ value.head? = some SP then some ([], value) else none
  | n + 1, value =>
    if value = [] ∨ value.head? = some SP then none
    else
      let fin := (memchr SP value).getD value.length
      let token := value.take fin
      let rest := value.drop fin
      if n = 0 then
        if rest = [] ∨ rest.head? = some SP then some ([token], rest) else none
      else if rest.head? ≠ some SP ∨ rest[1]? = some SP then none
      else
        (splitRequiredResponseTokens n (rest.drop 1)).map fun (tokens, last) =>
          (token :: tokens, last)

def isResponseDecimalToken (value : Bytes) : Bool := value ≠ [] && value.all isAsciiDigit

/-- At most sixteen digits, so the checked `u64` arithmetic of the source never fails. -/
def parseResponseArticleNumber (value : Bytes) : Option Nat :=
  if value = [] ∨ value.length > 16 ∨ !value.all isAsciiDigit then none
  else if decimalValue value ≤ MAX_ARTICLE_NUMBER then some (decimalValue value) else none

def validateGroupWatermarks (count low high : Nat) : Bool :=
  if low = 0 then count = 0 && high = 0
  else if count = 0 then high ≥ low || high + 1 = low
  else high ≥ low && count ≤ high - low + 1

def validateGroupWatermarkPair (low high : Nat) : Bool :=
  if low = 0 then high = 0 else high ≥ low || high + 1 = low

structure GroupResponseArguments where
  count : Nat
  low : Nat
  high : Nat
  group : Bytes
  trailingText : Bytes
  deriving DecidableEq, Repr

def parseGroupResponseArguments (value : Bytes) : Option GroupResponseArguments :=
  match splitRequiredResponseTokens 4 value with
  | some ([count, low, high, group], trailingText) => do
    let count ← parseResponseArticleNumber count
    let low ← parseResponseArticleNumber low
    let high ← parseResponseArticleNumber high
    some { count, low, high, group, trailingText }
  | _ => none

def validateGroupResponseArguments (value : Bytes) : Bool :=
  (parseGroupResponseArguments value).any fun arguments =>
    validateGroupWatermarks arguments.count arguments.low arguments.high &&
      isGroupNameToken arguments.group && validateOptionalTrailingComment arguments.trailingText

def validateDateResponseArgument (value : Bytes) : Bool :=
  match splitRequiredResponseTokens 1 value with
  | some ([timestamp], trailingText) =>
    timestamp.length = 14 && timestamp.all isAsciiDigit &&
      (fromUtf8 (timestamp.take 8)).any validateNntpDate &&
      (fromUtf8 (timestamp.drop 8)).any validateNntpTime &&
      validateOptionalTrailingComment trailingText
  | _ => false

def validateArticleStatusResponseArguments (value : Bytes) (allowZeroNumber : Bool) : Bool :=
  match splitRequiredResponseTokens 2 value with
  | some ([number, messageId], trailingText) =>
    (parseResponseArticleNumber number).any (fun number => allowZeroNumber || number ≠ 0) &&
      isMessageIdToken messageId && validateOptionalTrailingComment trailingText
  | _ => false

def validateMessageIdResponseArgument (value : Bytes) : Bool :=
  match splitRequiredResponseTokens 1 value with
  | some ([messageId], trailingText) =>
    isMessageIdToken messageId && validateOptionalTrailingComment trailingText
  | _ => false

def validateCapabilityLabelResponseArgument (value : Bytes) : Bool :=
  match splitRequiredResponseTokens 1 value with
  | some ([label], trailingText) =>
    isKeywordToken label && validateOptionalTrailingComment trailingText
  | _ => false

def validateSaslResponseArgument (value : Bytes) (allowZeroLength : Bool) : Bool :=
  match splitRequiredResponseTokens 1 value with
  | some ([token], trailingText) =>
    ((allowZeroLength && token = ascii "=") || validateSaslBase64 token) &&
      validateOptionalTrailingComment trailingText
  | _ => false

def responseArguments (content : Bytes) : Option Bytes :=
  match getFrom content 3 with
  | some [] => some []
  | some (byte :: arguments) => if byte = SP then some arguments else none
  | none => none

def validateResponseArguments (kind : RequestKind) (status : Nat) (arguments : Bytes) : Bool :=
  if kind = .date ∧ status = 111 then validateDateResponseArgument arguments
  else if status = 401 then validateCapabilityLabelResponseArgument arguments
  else if (kind = .group ∨ kind = .listGroup) ∧ status = 211 then
    validateGroupResponseArguments arguments
  else if isArticlePair kind status then validateArticleStatusResponseArguments arguments true
  else if (kind = .last ∨ kind = .next) ∧ status = 223 then
    validateArticleStatusResponseArguments arguments false
  else if (kind = .check ∧ status ∈ [238, 431, 438]) ∨ (kind = .takeThis ∧ status ∈ [239, 439]) then
    validateMessageIdResponseArgument arguments
  else if kind = .authInfo ∧ status = 283 then validateSaslResponseArgument arguments false
  else if kind = .authInfo ∧ status = 383 then validateSaslResponseArgument arguments true
  else validateGenericResponseArguments arguments

def validateResponseInitialLine (kind : RequestKind) (status : StatusCode) (line : Bytes) : Bool :=
  if line.length < 5 ∨ ¬ CRLF <:+ line then false
  else
    (responseArguments (line.take (line.length - CRLF.length))).any
      (validateResponseArguments kind status.code)

/-- Article fields of an initial line; the range is relative to the response bytes. -/
structure ResponseInitialArticle where
  articleNumber : Nat
  messageIdStart : Nat
  messageIdEnd : Nat
  deriving DecidableEq, Repr

def parseResponseInitialArticle (line : Bytes) : Option ResponseInitialArticle := do
  let content ← stripSuffix CRLF line
  if content[3]? ≠ some SP then none
  else
    let argumentsStart := 4
    let numberEnd ← (memchr SP (content.drop argumentsStart)).map (argumentsStart + ·)
    let number ← parseResponseArticleNumber (content.extract argumentsStart numberEnd)
    let messageIdStart := numberEnd + 1
    let messageIdEnd :=
      match memchr SP (content.drop messageIdStart) with
      | some offset => messageIdStart + offset
      | none => content.length
    if !isMessageIdToken (content.extract messageIdStart messageIdEnd) then none
    else if !validateOptionalTrailingComment (content.drop messageIdEnd) then none
    else some { articleNumber := number, messageIdStart, messageIdEnd }

structure ResponseInitial where
  status : StatusCode
  descriptor : ResponseDescriptor
  article : Option ResponseInitialArticle
  deriving DecidableEq, Repr

inductive ResponseInitialParse where
  | complete (initial : ResponseInitial)
  | needMore
  | invalid
  deriving DecidableEq, Repr

def parseInitialLine (kind : RequestKind) (status : Option StatusCode) (line : Bytes) :
    ResponseInitialParse :=
  match status with
  | none => .invalid
  | some status =>
    let descriptor := ResponseDescriptor.forRequestStatus kind status
    if descriptor.framing = .unexpected then .invalid
    else if isArticlePair kind status.code then
      match parseResponseInitialArticle line with
      | some article => .complete { status, descriptor, article := some article }
      | none => .invalid
    else if validateResponseInitialLine kind status line then
      .complete { status, descriptor, article := none }
    else .invalid

def ResponseInitial.parse (kind : RequestKind) (buffer : Bytes) : ResponseInitialParse :=
  let status := StatusCode.parse buffer
  match detectBoundedResponseLineEnd buffer (responseInitialLineLimit kind status) with
  | .completeAt lineEnd => parseInitialLine kind status (buffer.take lineEnd)
  | .needMore => .needMore
  | .invalid => .invalid
  | .tooLong => .invalid

end NntpBench.Protocol
