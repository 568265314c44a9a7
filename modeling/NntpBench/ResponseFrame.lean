import NntpBench.Article

namespace NntpBench.Protocol

open Terminator

inductive ValidatedResponseContent where
  | generic
  | article (view : ValidatedArticleView)
  deriving DecidableEq, Repr

structure ResponseFrame where
  kind : RequestKind
  descriptor : ResponseDescriptor
  bytes : Bytes
  statusLine : Bytes
  content : Bytes
  terminator : Bytes
  contentStart : Nat
  contentEnd : Nat
  contentValidation : ValidatedResponseContent
  status : StatusCode
  consumed : Nat
  deriving DecidableEq, Repr

inductive ResponseFrameParse where
  | complete (frame : ResponseFrame)
  | needMore
  | invalid
  deriving DecidableEq, Repr

def validateResponseFrame (frame : ResponseFrame) :
    Except ArticleParseError ValidatedArticleView := do
  let framed ← FramedArticle.fromKnownContentBounds frame.bytes frame.contentStart frame.contentEnd
    frame.contentStart
  framed.validate

def validateResponseContent (frame : ResponseFrame) : Option ValidatedResponseContent :=
  if isArticlePair frame.kind frame.status.code then
    match validateResponseFrame frame with
    | .ok view => some (.article view)
    | .error _ => none
  else if !frame.descriptor.framing.isMultiline then some .generic
  else if validateNonArticleResponseContent frame.kind frame.statusLine frame.content then
    some .generic
  else none

namespace ResponseFrame

def frameBody (framing : ResponseFraming) (buffer : Bytes) (statusLineEnd : Nat) :
    Option (Nat × Bytes × Bytes) :=
  if framing.isMultiline then
    (findDotTerminatedBlock buffer statusLineEnd).map fun block =>
      (block.blockEnd, block.content, block.terminator)
  else some (statusLineEnd, [], [])

def parseBody (kind : RequestKind) (status : StatusCode) (descriptor : ResponseDescriptor)
    (buffer : Bytes) (statusLineEnd : Nat) : ResponseFrameParse :=
  match frameBody descriptor.framing buffer statusLineEnd with
  | none => .needMore
  | some (consumed, content, terminator) =>
    let frame : ResponseFrame :=
      { kind, descriptor, content, terminator, status, consumed
        bytes := buffer.take consumed
        statusLine := buffer.take statusLineEnd
        contentStart := statusLineEnd
        contentEnd := statusLineEnd + content.length
        contentValidation := .generic }
    match validateResponseContent frame with
    | some contentValidation => .complete { frame with contentValidation }
    | none => .invalid

def parse (kind : RequestKind) (buffer : Bytes) : ResponseFrameParse :=
  let status := StatusCode.parse buffer
  match detectBoundedResponseLineEnd buffer (responseInitialLineLimit kind status) with
  | .needMore => .needMore
  | .invalid => .invalid
  | .tooLong => .invalid
  | .completeAt statusLineEnd =>
    match status with
    | none => .invalid
    | some status =>
      let descriptor := ResponseDescriptor.forRequestStatus kind status
      if statusLineEnd < 5 then .invalid
      else if descriptor.framing = .unexpected then .invalid
      else if !validateResponseInitialLine kind status (buffer.take statusLineEnd) then .invalid
      else parseBody kind status descriptor buffer statusLineEnd

def article (self : ResponseFrame) : Except ArticleParseError (Option Article) :=
  match self.contentValidation with
  | .article view => .ok view.materialize
  | .generic => .error .notArticleResponse

end ResponseFrame

end NntpBench.Protocol
