import Mathlib
import NntpBench.ArticleParse
import NntpBench.Server.Dates

namespace NntpBench.Server

open Protocol Terminator

inductive FileError where
  | permissionDenied
  | notADirectory
  | isADirectory
  | other
  deriving DecidableEq, Repr

/-- What can be read of an open file: its bytes, and the error that ends them if there is one. -/
structure StoredFile where
  bytes : Bytes
  readError : Option FileError
  deriving DecidableEq, Repr

def StoredFile.readToEnd (self : StoredFile) : Except FileError Bytes :=
  match self.readError with
  | some error => .error error
  | none => .ok self.bytes

/-- An entry of a directory as `read_dir` lists it; `other` is neither a file nor a directory. -/
inductive DirEntry where
  | file (name : Str) (file : StoredFile)
  | dir (name : Str) (entries : List DirEntry)
  | other (name : Str)

/-- The directory of the articles: its entries, and what opening a path below it gives. A path that
is not found gives `none`. -/
structure ArticleDir where
  entries : List DirEntry
  openFile : List Bytes → Except FileError (Option StoredFile)

mutual

/-- `recurse` on one entry: files named by digits, but nothing below `msgid`. -/
def collectEntry : DirEntry → List StoredFile
  | .file name file => if name.all Char.isDigit then [file] else []
  | .dir name entries => if name = "msgid".toList then [] else collectArticlePaths entries
  | .other _ => []

def collectArticlePaths : List DirEntry → List StoredFile
  | [] => []
  | entry :: entries => collectEntry entry ++ collectArticlePaths entries

end

inductive ArticleStoreKey where
  | number (articleId : Nat)
  | messageId (messageId : Str)
  deriving DecidableEq, Repr

def threeDigits (value : Nat) : Bytes :=
  List.replicate (3 - (decimalText value).length) 48 ++ decimalText value

def articleIdTreePath (articleId : Nat) : List Bytes :=
  [threeDigits (articleId / 1000000), threeDigits (articleId / 1000 % 1000), decimalText articleId]

def HEX : Bytes := ascii "0123456789abcdef"

def hexLower (bytes : Bytes) : Bytes :=
  bytes.flatMap fun byte => [HEX.getD (byte.toNat / 16) 0, HEX.getD (byte.toNat % 16) 0]

/-- The path of a message-id, whose hex digits must fit 1024 bytes. -/
def messageIdTreePath (messageId : Bytes) : Option (List Bytes) :=
  if messageId.length * 2 > 1024 then none
  else some [ascii "msgid", (hexLower messageId).take 2, hexLower messageId]

def openArticleResponse (dir : ArticleDir) : ArticleStoreKey → Except FileError (Option StoredFile)
  | .number articleId => dir.openFile (articleIdTreePath articleId)
  | .messageId messageId =>
    match messageIdTreePath (asBytes messageId) with
    | some path => dir.openFile path
    | none => .error .other

/-- `open_stored_article_response`: by number first, then by message-id. -/
def openStoredArticleResponse (dir : ArticleDir) (articleId : Option Nat) (messageId : Option Str) :
    Except FileError (Option StoredFile) := do
  let byNumber ←
    match articleId with
    | some articleId => openArticleResponse dir (.number articleId)
    | none => .ok none
  match byNumber, messageId with
  | some file, _ => .ok (some file)
  | none, some messageId => openArticleResponse dir (.messageId messageId)
  | none, none => .ok none

/-- Why a stored file cannot be sent; the source has all of these as `InvalidData`. -/
inductive StoredArticleError where
  | file (error : FileError)
  | parse (error : ArticleParseError)
  | missingArticleNumber
  | missingHeaders
  | missingBody
  deriving DecidableEq, Repr

def appendDotStuffedBody (output body : Bytes) : Bytes :=
  if body.isEmpty then output
  else
    match _hend : findCrlfLineEnd body 0 with
    | none => output ++ body
    | some lineEnd =>
      let line := body.take (lineEnd - CRLF.length)
      let stuffing := if line.head? = some DOT then [DOT] else []
      appendDotStuffedBody (output ++ stuffing ++ line ++ CRLF) (body.drop lineEnd)
termination_by body.length
decreasing_by
  have hpos : 0 < lineEnd := by
    unfold findCrlfLineEnd at _hend
    obtain ⟨slice, -, hfound⟩ := Option.bind_eq_some_iff.mp _hend
    obtain ⟨relative, -, rfl⟩ := Option.map_eq_some_iff.mp hfound
    exact Nat.lt_of_lt_of_le (by decide) (Nat.le_add_left CRLF.length _)
  have hbody : 0 < body.length := List.length_pos_iff.mpr (by simpa using ‹¬body.isEmpty = true›)
  rw [List.length_drop]
  omega

def storedStatusLine (status : String) (articleNumber : Nat) (messageId : Str) (text : String) :
    Bytes :=
  ascii status ++ ascii " " ++ decimalText articleNumber ++ ascii " " ++ asBytes messageId ++
    ascii text ++ CRLF

def buildStoredArticleResponse (kind : RequestKind) (articleBytes : Bytes) :
    Except StoredArticleError Bytes :=
  if kind = .article then .ok articleBytes
  else
    match Article.parse articleBytes with
    | .error error => .error (.parse error)
    | .ok none => .error .missingArticleNumber
    | .ok (some article) =>
      match article.articleNumber with
      | none => .error .missingArticleNumber
      | some articleNumber =>
        match kind with
        | .head =>
          match article.headers with
          | none => .error .missingHeaders
          | some headers =>
            .ok (appendDotTerminator
              (storedStatusLine "221" articleNumber article.messageId " article retrieved" ++
                headers.data))
        | .body =>
          match article.body with
          | none => .error .missingBody
          | some body =>
            .ok (appendDotTerminator
              (appendDotStuffedBody
                (storedStatusLine "222" articleNumber article.messageId " body follows") body))
        | _ => .ok (storedStatusLine "223" articleNumber article.messageId " article retrieved")

/-- A group: its article numbers in order, each of them once. -/
structure ArticleStoreGroup where
  articleNumbers : List Nat
  activeTime : Nat
  sorted : articleNumbers.Pairwise (· < ·)
  deriving DecidableEq, Repr

structure ArticleStoreEntry where
  messageId : Str
  newsgroups : List Str
  dateKey : Option Nat
  subject : Bytes
  sender : Bytes
  date : Bytes
  references : Bytes
  overviewBytes : Nat
  overviewLines : Nat
  deriving DecidableEq, Repr

/-- A `BTreeMap` is a `TreeMap`, and so is the `HashMap`, over which nothing iterates. -/
structure ArticleStoreIndex where
  groups : Std.TreeMap Str ArticleStoreGroup
  articlesByNumber : Std.TreeMap Nat ArticleStoreEntry
  articlesByMessageId : Std.TreeMap Str Nat

namespace ArticleStoreIndex

def articleNumbersForGroup (self : ArticleStoreIndex) (name : Str) : Option (List Nat) :=
  self.groups[name]?.map ArticleStoreGroup.articleNumbers

def articleNumberForMessageId (self : ArticleStoreIndex) (messageId : Str) : Option Nat :=
  self.articlesByMessageId[messageId]?

def articleEntry (self : ArticleStoreIndex) (articleId : Nat) : Option ArticleStoreEntry :=
  self.articlesByNumber[articleId]?

def articleEntryForMessageId (self : ArticleStoreIndex) (messageId : Str) :
    Option ArticleStoreEntry :=
  (self.articleNumberForMessageId messageId).bind self.articleEntry

end ArticleStoreIndex

def parseNewsgroups (value : Bytes) : List Str :=
  match fromUtf8 value with
  | some value => ((value.splitOn ',').map trim).filter (· ≠ [])
  | none => []

def articleSizeForOverview (headers : Headers) (body : Bytes) : Nat :=
  headers.data.length + body.length + 2

def bodyLineCount (body : Bytes) : Nat := body.count LF

def headerOf (article : Article) (name : String) : Option Bytes :=
  article.headers.bind fun headers => headers.get name.toList

def articleStoreEntry (article : Article) (dateKey : Option Nat) : ArticleStoreEntry :=
  let body := article.body.getD []
  { messageId := article.messageId
    newsgroups := ((headerOf article "Newsgroups").map parseNewsgroups).getD []
    dateKey
    subject := (headerOf article "Subject").getD []
    sender := (headerOf article "From").getD []
    date := (headerOf article "Date").getD []
    references := (headerOf article "References").getD []
    overviewBytes :=
      (article.headers.map fun headers => articleSizeForOverview headers body).getD body.length
    overviewLines := bodyLineCount body }

structure ArticleStoreGroupBuilder where
  articleNumbers : List Nat
  activeTime : Nat

structure IndexBuilder where
  groups : Std.TreeMap Str ArticleStoreGroupBuilder
  articlesByNumber : Std.TreeMap Nat ArticleStoreEntry
  articlesByMessageId : Std.TreeMap Str Nat

inductive BuildError where
  | file (error : FileError)
  | panic (panic : Panic)
  deriving DecidableEq, Repr

namespace IndexBuilder

def empty : IndexBuilder := ⟨∅, ∅, ∅⟩

def addToGroup (articleNumber dateKey : Nat)
    (groups : Std.TreeMap Str ArticleStoreGroupBuilder) (groupName : Str) :
    Std.TreeMap Str ArticleStoreGroupBuilder :=
  groups.alter groupName fun builder =>
    let builder := builder.getD ⟨[], 0⟩
    some ⟨builder.articleNumbers ++ [articleNumber], max builder.activeTime dateKey⟩

def addArticle (self : IndexBuilder) (articleNumber : Nat) (entry : ArticleStoreEntry) :
    IndexBuilder :=
  { groups := entry.newsgroups.foldl (addToGroup articleNumber (entry.dateKey.getD 0)) self.groups
    articlesByNumber := self.articlesByNumber.insert articleNumber entry
    articlesByMessageId := self.articlesByMessageId.insert entry.messageId articleNumber }

/-- One file: it is passed over when it is not an article response with a number. -/
def addFile (self : IndexBuilder) (file : StoredFile) : Except BuildError IndexBuilder :=
  match file.readToEnd with
  | .error error => .error (.file error)
  | .ok bytes =>
    match Article.parse bytes with
    | .error _ => .ok self
    | .ok none => .ok self
    | .ok (some article) =>
      match article.articleNumber with
      | none => .ok self
      | some articleNumber =>
        match headerOf article "Date" with
        | none => .ok (self.addArticle articleNumber (articleStoreEntry article none))
        | some date =>
          match parseRfc2822DateKey date with
          | .error panic => .error (.panic panic)
          | .ok dateKey => .ok (self.addArticle articleNumber (articleStoreEntry article dateKey))

theorem pairwise_dedup_insertionSort (numbers : List Nat) :
    (numbers.insertionSort (· ≤ ·)).dedup.Pairwise (· < ·) := by
  have hle : (numbers.insertionSort (· ≤ ·)).dedup.Pairwise (· ≤ ·) :=
    (List.pairwise_insertionSort _ numbers).sublist (List.dedup_sublist _)
  have hne : (numbers.insertionSort (· ≤ ·)).dedup.Pairwise (· ≠ ·) := List.nodup_dedup _
  apply (hle.and hne).imp
  intro a b h
  omega

def finishGroup (builder : ArticleStoreGroupBuilder) : ArticleStoreGroup :=
  { articleNumbers := (builder.articleNumbers.insertionSort (· ≤ ·)).dedup
    activeTime := builder.activeTime
    sorted := pairwise_dedup_insertionSort builder.articleNumbers }

def finish (self : IndexBuilder) : ArticleStoreIndex :=
  { groups := self.groups.map fun _ builder => finishGroup builder
    articlesByNumber := self.articlesByNumber
    articlesByMessageId := self.articlesByMessageId }

end IndexBuilder

def ArticleStoreIndex.build (root : List DirEntry) : Except BuildError ArticleStoreIndex := do
  let builder ← (collectArticlePaths root).foldlM IndexBuilder.addFile IndexBuilder.empty
  .ok builder.finish

end NntpBench.Server
