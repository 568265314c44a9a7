import NntpBench.Capabilities

namespace NntpBench.Protocol

open Terminator ListSearch

inductive InvalidHeaderReason where
  | leadingFold | emptyFold | missingHeader | missingColon | missingSpaceAfterColon
  | emptyName | invalidName | invalidContent
  deriving DecidableEq, Repr

inductive ArticleParseError where
  | notArticleResponse
  | invalidStatusCode (code : Nat)
  | invalidStatusPrefix
  | missingSeparator
  | missingTerminator
  | invalidHeader (reason : InvalidHeaderReason)
  | invalidBody
  | unexpectedBody
  | bufferTooShort
  | invalidArticleNumber
  | invalidMessageId
  deriving DecidableEq, Repr

def okOr {α : Type} (error : ArticleParseError) : Option α → Except ArticleParseError α
  | some value => .ok value
  | none => .error error

structure ArticleFrameRange where
  start : Nat
  stop : Nat
  le : start ≤ stop
  deriving DecidableEq, Repr

namespace ArticleFrameRange

def new (start stop : Nat) : Except ArticleParseError ArticleFrameRange :=
  if h : start ≤ stop then .ok ⟨start, stop, h⟩ else .error .bufferTooShort

def get (self : ArticleFrameRange) (buffer : Bytes) : Option Bytes :=
  if self.stop ≤ buffer.length then some (buffer.extract self.start self.stop) else none

def slice (self : ArticleFrameRange) (buffer : Bytes) : Except ArticleParseError Bytes :=
  okOr .bufferTooShort (self.get buffer)

end ArticleFrameRange

structure ValidatedFirstLine where
  messageId : ArticleFrameRange
  articleNumber : Nat
  deriving DecidableEq, Repr

structure ParsedFirstLine where
  messageId : MessageId
  messageIdRange : ArticleFrameRange
  articleNumber : Option Nat
  deriving DecidableEq

inductive HeaderTransformation where
  | none
  | unfold
  deriving DecidableEq, Repr

inductive BodyTransformation where
  | none
  | unstuff
  deriving DecidableEq, Repr

inductive ValidatedArticleContent where
  | article (headers : ArticleFrameRange) (headerTransformation : HeaderTransformation)
    (body : ArticleFrameRange) (bodyTransformation : BodyTransformation)
  | head (headers : ArticleFrameRange) (headerTransformation : HeaderTransformation)
  | body (body : ArticleFrameRange) (bodyTransformation : BodyTransformation)
  | stat (contentStart : Nat)
  deriving DecidableEq, Repr

structure ArticleLayout where
  firstLine : ValidatedFirstLine
  content : ValidatedArticleContent
  deriving DecidableEq, Repr

def articleNumberFromToken (value : Bytes) : Except ArticleParseError Nat :=
  okOr .invalidArticleNumber (parseResponseArticleNumber value)

def parseFirstLine (line : Bytes) : Except ArticleParseError ParsedFirstLine := do
  let firstSpace ← okOr .invalidStatusPrefix (memchr SP line)
  if firstSpace ≠ 3 then .error .invalidStatusPrefix
  else
    let secondSpace ← okOr .invalidArticleNumber
      ((memchr SP (line.drop (firstSpace + 1))).map (firstSpace + 1 + ·))
    let articleNumber ← articleNumberFromToken (line.extract (firstSpace + 1) secondSpace)
    let msgidStart := secondSpace + 1
    if (line)[msgidStart]? ≠ some 60 then .error .invalidMessageId
    else
      let msgidEnd ← okOr .invalidMessageId
        ((memchr 62 (line.drop msgidStart)).map (msgidStart + · + 1))
      if msgidEnd < line.length ∧ (line)[msgidEnd]? ≠ some SP then .error .invalidMessageId
      else if msgidEnd < line.length ∧ !validateOptionalTrailingComment (line.drop msgidEnd) then
        .error .invalidMessageId
      else
        let msgid ← okOr .invalidMessageId (fromUtf8 (line.extract msgidStart msgidEnd))
        let messageId ← okOr .invalidMessageId (MessageId.fromBorrowed msgid)
        let messageIdRange ← ArticleFrameRange.new msgidStart msgidEnd
        .ok { messageId, messageIdRange, articleNumber := some articleNumber }

def validateFirstLine (buffer : Bytes) (firstLine : ArticleFrameRange) :
    Except ArticleParseError ValidatedFirstLine := do
  let line ← firstLine.slice buffer
  let parsed ← parseFirstLine line
  let messageId ← ArticleFrameRange.new (firstLine.start + parsed.messageIdRange.start)
    (firstLine.start + parsed.messageIdRange.stop)
  let articleNumber ← okOr .invalidArticleNumber parsed.articleNumber
  .ok { messageId, articleNumber }

def validatedFirstLineFromInitial (initial : ResponseInitial) (statusLineEnd : Nat) :
    Except ArticleParseError ValidatedFirstLine := do
  let article ← okOr .invalidStatusPrefix initial.article
  if statusLineEnd < CRLF.length then .error .bufferTooShort
  else if article.messageIdEnd > statusLineEnd - CRLF.length then .error .bufferTooShort
  else
    let messageId ← ArticleFrameRange.new article.messageIdStart article.messageIdEnd
    .ok { messageId, articleNumber := article.articleNumber }

def findBlankLine (buf : Bytes) (start : Nat) : Except ArticleParseError Nat :=
  okOr .missingSeparator ((findSub (ascii "\r\n\r\n") (buf.drop start)).map (start + ·))

structure HeaderScan where
  pos : Nat
  hasHeader : Bool
  transformation : HeaderTransformation
  deriving DecidableEq, Repr

/-- One round of `validate_headers`: a line, and the bytes after it. -/
def validateHeaderLine (scan : HeaderScan) (line after : Bytes) :
    Except ArticleParseError HeaderScan :=
  let next := { scan with pos := scan.pos + line.length + CRLF.length }
  match line with
  | [] => .ok next
  | first :: _ =>
    if isBlank first then
      if scan.pos = 0 then .error (.invalidHeader .leadingFold)
      else if line.all isBlank then .error (.invalidHeader .emptyFold)
      else if NUL ∈ line then .error (.invalidHeader .invalidContent)
      else .ok { next with transformation := .unfold }
    else
      match memchr 58 line with
      | none => .error (.invalidHeader .missingColon)
      | some colonPos =>
        if colonPos = 0 then .error (.invalidHeader .emptyName)
        else if (line.take colonPos).any fun byte => isBlank byte || !(33 ≤ byte && byte ≤ 126) then
          .error (.invalidHeader .invalidName)
        else if colonPos + 1 = line.length then
          -- A field without a value is allowed only when a fold with a space follows.
          if after.head? = some SP then .ok { next with hasHeader := true }
          else .error (.invalidHeader .missingSpaceAfterColon)
        else if (line)[colonPos + 1]? ≠ some SP then
          .error (.invalidHeader .missingSpaceAfterColon)
        else if NUL ∈ line.drop (colonPos + 2) then .error (.invalidHeader .invalidContent)
        else .ok { next with hasHeader := true }

def validateHeaders (data : Bytes) : Except ArticleParseError HeaderTransformation :=
  match forStrictLines .bufferTooShort validateHeaderLine ⟨0, false, .none⟩ data with
  | .error e => .error e
  | .ok scan =>
    if scan.hasHeader then .ok scan.transformation else .error (.invalidHeader .missingHeader)

def validateBodyContent (buf : Bytes) : Except ArticleParseError BodyTransformation :=
  if NUL ∈ buf then .error .invalidBody
  else
    forStrictLines .invalidBody (fun transformation line _ =>
      if ascii "." <+: line then
        if ascii ".." <+: line then .ok .unstuff else .error .invalidBody
      else .ok transformation) .none buf

/-- The rest of `unfold_header_continuations`; `folding` while the blanks of a fold are skipped. -/
def unfoldFrom (folding : Bool) : Bytes → Bytes
  | [] => []
  | b :: rest =>
    if folding && isBlank b then unfoldFrom true rest
    else
      match rest with
      | c :: d :: after =>
        if b = CR && c = LF && isBlank d then SP :: unfoldFrom true after
        else b :: unfoldFrom false (c :: d :: after)
      | rest => b :: unfoldFrom false rest

def unfoldHeaderContinuations (buf : Bytes) : Bytes := unfoldFrom false buf

def unstuffFrom (lineStart : Bool) : Bytes → Bytes
  | [] => []
  | b :: rest =>
    if lineStart && b = DOT then unstuffFrom false rest
    else b :: unstuffFrom (b = LF) rest

def unstuffKnownDotLines (buf : Bytes) : Bytes := unstuffFrom true buf

structure Headers where
  data : Bytes
  deriving DecidableEq, Repr

namespace Headers

def fromTransformation (data : Bytes) : HeaderTransformation → Headers
  | .none => ⟨data⟩
  | .unfold => ⟨unfoldHeaderContinuations data⟩

def parse (data : Bytes) : Except ArticleParseError Headers := do
  let transformation ← validateHeaders data
  .ok (fromTransformation data transformation)

/-- One round of `get`: a line either ends the search, with a value or without one, or is passed
over. -/
def getLine (lookup line : Bytes) : Except (Option Bytes) Unit :=
  match line with
  | [] => .ok ()
  | first :: _ =>
    if isBlank first then .ok ()
    else
      match memchr 58 line with
      | none => .error none
      | some colonPos =>
        if eqIgnoreAsciiCase (line.take colonPos) lookup then
          .error (some ((line.drop (colonPos + 1)).dropWhile isBlank))
        else .ok ()

def get (self : Headers) (name : Str) : Option Bytes :=
  match forStrictLines none (fun _ line _ => getLine (asBytes name) line) () self.data with
  | .ok () => none
  | .error value => value

end Headers

def materializeBody (data : Bytes) : BodyTransformation → Bytes
  | .none => data
  | .unstuff => unstuffKnownDotLines data

/-- A parsed response; the message-id is its text. -/
structure Article where
  messageId : Str
  articleNumber : Option Nat
  headers : Option Headers
  body : Option Bytes
  deriving DecidableEq, Repr

/-- Where the source says `expect`, the model returns `none`. -/
def ArticleLayout.materialize (self : ArticleLayout) (buffer : Bytes) : Option Article := do
  let messageId ← (self.firstLine.messageId.get buffer).bind fromUtf8
  let articleNumber := some self.firstLine.articleNumber
  match self.content with
  | .article headers headerTransformation body bodyTransformation =>
    let headers ← headers.get buffer
    let body ← body.get buffer
    some { messageId, articleNumber
           headers := some (Headers.fromTransformation headers headerTransformation)
           body := some (materializeBody body bodyTransformation) }
  | .head headers headerTransformation =>
    let headers ← headers.get buffer
    some { messageId, articleNumber, body := none
           headers := some (Headers.fromTransformation headers headerTransformation) }
  | .body body bodyTransformation =>
    let body ← body.get buffer
    some { messageId, articleNumber, headers := none
           body := some (materializeBody body bodyTransformation) }
  | .stat _ => some { messageId, articleNumber, headers := none, body := none }

structure ValidatedArticleView where
  buffer : Bytes
  layout : ArticleLayout
  deriving DecidableEq, Repr

def ValidatedArticleView.materialize (self : ValidatedArticleView) : Option Article :=
  self.layout.materialize self.buffer

structure FramedArticle where
  buffer : Bytes
  firstLine : ArticleFrameRange
  content : ArticleFrameRange
  deriving DecidableEq, Repr

namespace FramedArticle

def fromKnownContentBounds (buffer : Bytes) (contentStart contentEnd statusLineEnd : Nat) :
    Except ArticleParseError FramedArticle :=
  if contentStart > contentEnd ∨ contentEnd > buffer.length then .error .bufferTooShort
  else if statusLineEnd < CRLF.length then .error .bufferTooShort
  else do
    let firstLineEnd := statusLineEnd - CRLF.length
    let firstLine ← ArticleFrameRange.new 0 firstLineEnd
    if firstLineEnd + CRLF.length ≠ contentStart ∨
        buffer.extract firstLineEnd contentStart ≠ CRLF then .error .bufferTooShort
    else
      let content ← ArticleFrameRange.new contentStart contentEnd
      .ok { buffer, firstLine, content }

def contentHead (self : FramedArticle) : Except ArticleParseError Bytes :=
  if self.content.stop ≤ self.buffer.length then .ok (self.buffer.take self.content.stop)
  else .error .bufferTooShort

def validateArticleContent (self : FramedArticle) :
    Except ArticleParseError ValidatedArticleContent := do
  let separator ← findBlankLine (← self.contentHead) self.content.start
  let headersEnd := separator + CRLF.length
  let headers ← ArticleFrameRange.new self.content.start headersEnd
  let headerTransformation ← validateHeaders (← headers.slice self.buffer)
  let bodyStart := headersEnd + CRLF.length
  if bodyStart > self.content.stop then .error .bufferTooShort
  else
    let body ← ArticleFrameRange.new bodyStart self.content.stop
    let bodyTransformation ← validateBodyContent (← body.slice self.buffer)
    .ok (.article headers headerTransformation body bodyTransformation)

def validateHeadContent (self : FramedArticle) :
    Except ArticleParseError ValidatedArticleContent := do
  match findBlankLine (← self.contentHead) self.content.start with
  | .ok _ => .error .unexpectedBody
  | .error _ =>
    let headerTransformation ← validateHeaders (← self.content.slice self.buffer)
    .ok (.head self.content headerTransformation)

def validateBody (self : FramedArticle) : Except ArticleParseError ValidatedArticleContent := do
  let bodyTransformation ← validateBodyContent (← self.content.slice self.buffer)
  .ok (.body self.content bodyTransformation)

def validateStatContent (self : FramedArticle) :
    Except ArticleParseError ValidatedArticleContent :=
  if self.content.start ≠ self.content.stop then .error .unexpectedBody
  else .ok (.stat self.content.start)

/-- The `match` of `validate_for_status_with_first_line` over the status. -/
def validateContent (self : FramedArticle) :
    Nat → Except ArticleParseError ValidatedArticleContent
  | 220 => self.validateArticleContent
  | 221 => self.validateHeadContent
  | 222 => self.validateBody
  | 223 => self.validateStatContent
  | code => .error (.invalidStatusCode code)

def validateForStatusWithFirstLine (self : FramedArticle) (status : Nat)
    (firstLine : ValidatedFirstLine) : Except ArticleParseError ArticleLayout := do
  let content ← self.validateContent status
  .ok { firstLine, content }

def validateForStatus (self : FramedArticle) (status : Nat) :
    Except ArticleParseError ArticleLayout := do
  let firstLine ← validateFirstLine self.buffer self.firstLine
  self.validateForStatusWithFirstLine status firstLine

def validate (self : FramedArticle) : Except ArticleParseError ValidatedArticleView := do
  let status ← okOr .invalidStatusPrefix (StatusCode.parse self.buffer)
  let layout ← self.validateForStatus status.code
  .ok { buffer := self.buffer, layout }

end FramedArticle

end NntpBench.Protocol
