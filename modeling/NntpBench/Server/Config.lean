import NntpBench.Server.IndexReplies

namespace NntpBench.Server

open Protocol Terminator

inductive PayloadMode where
  | yenc
  | plain
  deriving DecidableEq, Repr

/-- One round of the generator behind the binary payload. -/
def nextRandom (random : UInt32) : UInt32 :=
  let random := random ^^^ (random <<< 13)
  let random := random ^^^ (random >>> 17)
  random ^^^ (random <<< 5)

/-- The first `size` bytes of the generator: the low byte of each of its values. -/
def decodedPayload : Nat → UInt32 → Bytes
  | 0, _ => []
  | size + 1, random => (nextRandom random).toUInt8 :: decodedPayload size (nextRandom random)

/-- `encode_yenc_payload`; an empty file is not what the encoder can represent. The encoder is a
crate of its own and a parameter here. -/
def encodeYencPayload (encodeStream : Bytes → Bytes) (size : Nat) : Bytes :=
  if size = 0 then
    crlfText ["=ybegin line=128 size=0 name=nntpbench.bin", "=yend size=0 crc32=00000000"]
  else encodeStream (decodedPayload size 0x7ac385d1)

def bodyLineCopies (minBytes : Nat) : Nat := (minBytes + BODY_LINE.length - 1) / BODY_LINE.length

def repeatedPayloadAtLeast (minBytes : Nat) : Bytes :=
  (List.replicate (bodyLineCopies minBytes) BODY_LINE).flatten

def repeatedPayloadLenAtLeast (minBytes : Nat) : Nat := bodyLineCopies minBytes * BODY_LINE.length

def buildServerPayload (encodeStream : Bytes → Bytes) (mode : PayloadMode) (size : Nat) : Bytes :=
  match mode with
  | .plain => repeatedPayloadAtLeast size
  | .yenc => encodeYencPayload encodeStream size

def buildGeneratedResponse (start : Bytes) (targetBytes : Nat) : Bytes :=
  appendDotTerminator
    (start ++
      if start.length < targetBytes then repeatedPayloadAtLeast (targetBytes - start.length)
        else [])

def framePrebuiltPayload (start payload : Bytes) : Bytes := appendDotTerminator (start ++ payload)

def preparedPayloadSlice (mode : PayloadMode) (payload : Bytes) (targetBytes headerLen : Nat) :
    Bytes :=
  match mode with
  | .yenc => payload
  | .plain => payload.take (repeatedPayloadLenAtLeast (targetBytes - headerLen))

structure ServerArgs where
  bodyBytes : Nat
  articleBytes : Nat
  payloadMode : PayloadMode
  articleDir : Option ArticleDir
  pendingWriteBytes : Nat

structure ServerConfig where
  bodyBytes : Nat
  articleBytes : Nat
  payloadMode : PayloadMode
  bodyPayload : Bytes
  bodyResponse : Bytes
  articleResponse : Bytes
  articlePayload : Bytes
  articleDir : Option ArticleDir
  articleIndex : Option ArticleStoreIndex
  pendingWriteBytes : Nat

namespace ServerConfig

/-- `from_bound_args`. A directory that cannot be indexed leaves the server without an index. -/
def fromBoundArgs (encodeStream : Bytes → Bytes) (args : ServerArgs) : ServerConfig :=
  let bodyPayload := buildServerPayload encodeStream args.payloadMode args.bodyBytes
  let articlePayload := buildServerPayload encodeStream args.payloadMode args.articleBytes
  { bodyBytes := args.bodyBytes
    articleBytes := args.articleBytes
    payloadMode := args.payloadMode
    bodyPayload
    bodyResponse :=
      match args.payloadMode with
      | .plain => buildGeneratedResponse BODY_RESPONSE_PREFIX args.bodyBytes
      | .yenc => framePrebuiltPayload BODY_RESPONSE_PREFIX bodyPayload
    articleResponse :=
      match args.payloadMode with
      | .plain => buildGeneratedResponse ARTICLE_RESPONSE_PREFIX args.articleBytes
      | .yenc => framePrebuiltPayload ARTICLE_RESPONSE_PREFIX articlePayload
    articlePayload
    articleDir := args.articleDir
    articleIndex := args.articleDir.bind fun root => (ArticleStoreIndex.build root.entries).toOption
    pendingWriteBytes := max args.pendingWriteBytes 1 }

def headResponse (_ : ServerConfig) : Bytes := HEAD_RESPONSE

def statResponse (_ : ServerConfig) : Bytes := STAT_RESPONSE

def articlePayloadForHeader (self : ServerConfig) (headerLen : Nat) : Bytes :=
  preparedPayloadSlice self.payloadMode self.articlePayload self.articleBytes headerLen

def bodyPayloadForHeader (self : ServerConfig) (headerLen : Nat) : Bytes :=
  preparedPayloadSlice self.payloadMode self.bodyPayload self.bodyBytes headerLen

end ServerConfig

theorem articleIndex_of_noDir (encodeStream : Bytes → Bytes) {args : ServerArgs}
    (hdir : args.articleDir = none) :
    (ServerConfig.fromBoundArgs encodeStream args).articleIndex = none := by
  rw [ServerConfig.fromBoundArgs, hdir]
  rfl

theorem articleIndex_of_dir (encodeStream : Bytes → Bytes) {args : ServerArgs} {dir : ArticleDir}
    {index : ArticleStoreIndex} (hdir : args.articleDir = some dir)
    (hbuild : ArticleStoreIndex.build dir.entries = .ok index) :
    (ServerConfig.fromBoundArgs encodeStream args).articleIndex = some index := by
  rw [ServerConfig.fromBoundArgs, hdir, Option.bind_some, hbuild]
  rfl

def syntheticArticleHeaders (messageId : Bytes) : Bytes :=
  crlfText
    ["Path: nntpbench.local!mock", "From: Bench User <bench@nntpbench.local>",
     "Newsgroups: alt.binaries.bench", "Subject: nntpbench synthetic article"] ++
    ascii "Message-ID: " ++ messageId ++ CRLF ++ crlfText ["Date: Fri, 15 May 2026 00:00:00 +0000"]

def articleStatusLine (status : String) (articleId : Nat) (messageId : Bytes) (text : String) :
    Bytes :=
  ascii status ++ ascii " " ++ decimalText articleId ++ ascii " " ++ messageId ++ ascii text ++ CRLF

def buildArticleResponseHeaderInto (buffer : Bytes) (articleId : Nat) (messageId : Bytes) : Bytes :=
  clear buffer ++ articleStatusLine "220" articleId messageId " article follows" ++
    syntheticArticleHeaders messageId ++ CRLF

def appendMessageIdArticleResponseHeader (buffer messageId : Bytes) : Bytes :=
  buffer ++ ascii "220 0 " ++ messageId ++ ascii " article follows\r\n" ++
    syntheticArticleHeaders messageId ++ CRLF

def buildArticleResponseInto (buffer : Bytes) (articleId : Nat) (messageId : Bytes)
    (config : ServerConfig) : Bytes :=
  let header := buildArticleResponseHeaderInto buffer articleId messageId
  appendDotTerminator (header ++ config.articlePayloadForHeader header.length)

def buildBodyResponseInto (buffer : Bytes) (articleId : Nat) (messageId : Bytes)
    (config : ServerConfig) : Bytes :=
  let header := clear buffer ++ articleStatusLine "222" articleId messageId " body follows"
  appendDotTerminator (header ++ config.bodyPayloadForHeader header.length)

def buildHeadResponseInto (buffer : Bytes) (articleId : Nat) (messageId : Bytes) : Bytes :=
  appendDotTerminator
    (clear buffer ++ articleStatusLine "221" articleId messageId " article retrieved" ++
      syntheticArticleHeaders messageId)

def buildStatResponseInto (buffer : Bytes) (articleId : Nat) (messageId : Bytes) : Bytes :=
  clear buffer ++ articleStatusLine "223" articleId messageId " article retrieved"

/-- The message-id of a generated article that is named by its number. -/
def selectedMessageId (articleId : Nat) : Bytes :=
  ascii "<article." ++ decimalText articleId ++ ascii "@nntpbench.local>"

def buildSelectedArticleResponseInto (buffer : Bytes) (articleId : Nat) (config : ServerConfig) :
    Bytes :=
  buildArticleResponseInto buffer articleId (selectedMessageId articleId) config

def buildSelectedBodyResponseInto (config : ServerConfig) (buffer : Bytes) (articleId : Nat) :
    Bytes :=
  buildBodyResponseInto buffer articleId (selectedMessageId articleId) config

def buildMessageIdBodyResponseInto (config : ServerConfig) (buffer : Bytes) (messageId : Str) :
    Bytes :=
  buildBodyResponseInto buffer 0 (asBytes messageId) config

def buildSelectedHeadResponseInto (buffer : Bytes) (articleId : Nat) : Bytes :=
  buildHeadResponseInto buffer articleId (selectedMessageId articleId)

def buildMessageIdHeadResponseInto (buffer : Bytes) (messageId : Str) : Bytes :=
  buildHeadResponseInto buffer 0 (asBytes messageId)

def buildSelectedStatResponseInto (buffer : Bytes) (articleId : Nat) : Bytes :=
  buildStatResponseInto buffer articleId (selectedMessageId articleId)

def buildMessageIdStatResponseInto (buffer : Bytes) (messageId : Str) : Bytes :=
  buildStatResponseInto buffer 0 (asBytes messageId)

end NntpBench.Server
