import NntpBench.Lib.Except
import NntpBench.Lib.Writer
import NntpBench.Arguments
import NntpBench.Request

namespace NntpBench

open Writer

variable {σ : Type} (writer : AsyncWrite UInt8 σ)

def writeAllVectored (slices : List Bytes) (out : Output UInt8 σ) :
    Except WriteError (Output UInt8 σ) :=
  if slices.isEmpty then .ok out
  else
    match writer.pollWriteVectored out.state slices with
    | (written, state) =>
      if written = 0 then .error .writeZero
      else if written > slices.flatten.length then .error .pastEnd
      else
        writeAllVectored (advanceSlices slices written)
          ⟨state, out.delivered ++ slices.flatten.take written⟩
termination_by slices.flatten.length
decreasing_by
  rw [flatten_advanceSlices, List.length_drop]
  omega

variable {writer}

/-- The loop hands over all slices, as long as they are not a list of empty slices, for which the
writer has nothing to take. -/
theorem delivers_writeAllVectored (h : writer.Accepts) (slices : List Bytes)
    (hsome : slices.flatten = [] → slices = []) :
    Delivers (writeAllVectored writer slices) slices.flatten := by
  intro out
  fun_induction writeAllVectored writer slices out with
  | case1 slices out hempty =>
    refine ⟨out.state, ?_⟩
    rw [List.isEmpty_iff.mp hempty, List.flatten_nil, List.append_nil]
  | case2 slices out hempty state hpoll =>
    have hbytes : slices.flatten ≠ [] := fun hnil => hempty (by simp [hsome hnil])
    have hpos := h.pollWriteVectored_pos out.state slices hbytes
    rw [hpoll] at hpos
    omega
  | case3 slices out hempty written state hpoll hzero hpast =>
    have hle := h.pollWriteVectored_le out.state slices
    rw [hpoll] at hle
    omega
  | case4 slices out hempty written state hpoll hzero hpast ih =>
    -- what is left is either nothing at all or starts with bytes
    have hleft : (advanceSlices slices written).flatten = [] → advanceSlices slices written =
        [] := by
      intro hnil
      rw [flatten_advanceSlices, List.drop_eq_nil_iff] at hnil
      exact advanceSlices_of_le hnil
    obtain ⟨last, hrest⟩ := ih hleft
    refine ⟨last, ?_⟩
    rw [hrest, flatten_advanceSlices, List.append_assoc, List.take_append_drop]

end NntpBench

namespace NntpBench.Client.Vectored

open Writer Protocol Terminator

section Encoder

variable {σ : Type} (writer : AsyncWrite UInt8 σ) (verb : Bytes)

def writeSlices (slices : List Bytes) (out : Output UInt8 σ) : Except WriteError (Output UInt8 σ) :=
  writeAllVectored writer slices out

def writeSimpleRequestWire : Output UInt8 σ → Except WriteError (Output UInt8 σ) :=
  writeSlices writer [verb, CRLF]

def numberBuf (number : UInt64) : Except WriteError Bytes :=
  if (decimalText number.toNat).length ≤ 20 then .ok (decimalText number.toNat)
  else .error .invalidData

def writeArticleRefRequestWire (articleRef : ArticleRef) (out : Output UInt8 σ) :
    Except WriteError (Output UInt8 σ) :=
  match articleRef with
  | .current => writeSlices writer [verb, CRLF] out
  | .number number => do
    let digits ← numberBuf number
    writeSlices writer [verb, ascii " ", digits, CRLF] out
  | .messageId messageId => writeSlices writer [verb, ascii " ", asBytes messageId.value, CRLF] out

def writeMessageIdRequestWire (messageId : MessageId) :
    Output UInt8 σ → Except WriteError (Output UInt8 σ) :=
  writeSlices writer [verb, asBytes messageId.value, CRLF]

def writeOneArgRequestWire (arg : Str) : Output UInt8 σ → Except WriteError (Output UInt8 σ) :=
  writeSlices writer [verb, asBytes arg, CRLF]

def writeOptionalArgRequestWire (arg : Option Str) :
    Output UInt8 σ → Except WriteError (Output UInt8 σ) :=
  match arg with
  | some arg => writeSlices writer [verb, ascii " ", asBytes arg, CRLF]
  | none => writeSimpleRequestWire writer verb

def writeTwoArgRequestWire (left right : Str) : Output UInt8 σ → Except WriteError
    (Output UInt8 σ) :=
  writeSlices writer [verb, asBytes left, ascii " ", asBytes right, CRLF]

def writeHeaderQueryRequestWire (header : Str) (selector : Option ArticleSelector) :
    Output UInt8 σ → Except WriteError (Output UInt8 σ) :=
  match selector with
  | some selector =>
    writeSlices writer [verb, ascii " ", asBytes header, ascii " ", asBytes selector.value, CRLF]
  | none => writeSlices writer [verb, ascii " ", asBytes header, CRLF]

def writeListgroupRequestWire (group : Option GroupName) (range : Option ListGroupRange) :
    Output UInt8 σ → Except WriteError (Output UInt8 σ) :=
  match group, range with
  | none, none => writeSimpleRequestWire writer (ascii "LISTGROUP")
  | some group, none => writeOneArgRequestWire writer (ascii "LISTGROUP ") group.value
  | none, some _ => writeSimpleRequestWire writer (ascii "LISTGROUP")
  | some group, some range =>
    writeTwoArgRequestWire writer (ascii "LISTGROUP ") group.value range.value

def datetimeSuffix (gmt : Bool) : Bytes := if gmt then ascii " GMT\r\n" else CRLF

def writeDatetimeRequestWire (date time : Str) (gmt : Bool) :
    Output UInt8 σ → Except WriteError (Output UInt8 σ) :=
  writeSlices writer [verb, asBytes date, ascii " ", asBytes time, datetimeSuffix gmt]

def writeNewnewsRequestWire (wildmat date time : Str) (gmt : Bool) :
    Output UInt8 σ → Except WriteError (Output UInt8 σ) :=
  writeSlices writer
    [ascii "NEWNEWS ", asBytes wildmat, ascii " ", asBytes date, ascii " ", asBytes time,
      datetimeSuffix gmt]

def writeListRequestWire (kind : ListKind) (wildmat : Option Wildmat) :
    Output UInt8 σ → Except WriteError (Output UInt8 σ) :=
  match wildmat with
  | some wildmat =>
    writeSlices writer [ascii "LIST ", kind.asWire, ascii " ", asBytes wildmat.value, CRLF]
  | none => writeSlices writer [ascii "LIST ", kind.asWire, CRLF]

def writeAuthinfoRequestWire (kind : AuthInfoKind) (value : Bytes) :
    Output UInt8 σ → Except WriteError (Output UInt8 σ) :=
  writeSlices writer [ascii "AUTHINFO ", kind.asWire, ascii " ", value, CRLF]

def writeDotStuffedArticle (payload : Bytes) (out : Output UInt8 σ) :
    Except WriteError (Output UInt8 σ) :=
  if payload = [] then writeAll writer DOT_TERMINATOR out
  else do
    let out ← (crlfNormalizedPayloadLines payload).foldlM
      (fun out line =>
        if ascii "." <+: line then writeAllVectored writer [ascii ".", line, CRLF] out
        else writeAllVectored writer [line, CRLF] out)
      out
    writeAll writer DOT_TERMINATOR out

def writeTakethisRequestWire (messageId : MessageId) (payload : Bytes) (out : Output UInt8 σ) :
    Except WriteError (Output UInt8 σ) := do
  let out ← writeMessageIdRequestWire writer (ascii "TAKETHIS ") messageId out
  writeDotStuffedArticle writer payload out

def writeRequestWire : Request → Output UInt8 σ → Except WriteError (Output UInt8 σ)
  | .article articleRef => writeArticleRefRequestWire writer (ascii "ARTICLE") articleRef
  | .body articleRef => writeArticleRefRequestWire writer (ascii "BODY") articleRef
  | .head articleRef => writeArticleRefRequestWire writer (ascii "HEAD") articleRef
  | .stat articleRef => writeArticleRefRequestWire writer (ascii "STAT") articleRef
  | .listVariant kind wildmat => writeListRequestWire writer kind wildmat
  | .group name => writeOneArgRequestWire writer (ascii "GROUP ") name.value
  | .listGroup name range => writeListgroupRequestWire writer name range
  | .last => writeSimpleRequestWire writer (ascii "LAST")
  | .next => writeSimpleRequestWire writer (ascii "NEXT")
  | .over selector => writeOptionalArgRequestWire writer (ascii "OVER") (selector.map (·.value))
  | .xover selector => writeOptionalArgRequestWire writer (ascii "XOVER") (selector.map (·.value))
  | .hdr header selector => writeHeaderQueryRequestWire writer (ascii "HDR") header.value selector
  | .xhdr header selector => writeHeaderQueryRequestWire writer (ascii "XHDR") header.value selector
  | .newGroups day time gmt =>
    writeDatetimeRequestWire writer (ascii "NEWGROUPS ") day.value time.value gmt
  | .newNews wildmat day time gmt =>
    writeNewnewsRequestWire writer wildmat.value day.value time.value gmt
  | .post => writeSimpleRequestWire writer (ascii "POST")
  | .ihave messageId => writeMessageIdRequestWire writer (ascii "IHAVE ") messageId
  | .check messageId => writeMessageIdRequestWire writer (ascii "CHECK ") messageId
  | .takeThis messageId payload => writeTakethisRequestWire writer messageId payload
  | .authInfo kind value => writeAuthinfoRequestWire writer kind value.value
  | .startTls => writeSimpleRequestWire writer (ascii "STARTTLS")
  | .list => writeSimpleRequestWire writer (ascii "LIST")
  | .help => writeSimpleRequestWire writer (ascii "HELP")
  | .capabilities none => writeSimpleRequestWire writer (ascii "CAPABILITIES")
  | .capabilities (some keyword) => writeOneArgRequestWire writer (ascii "CAPABILITIES ") keyword
  | .date => writeSimpleRequestWire writer (ascii "DATE")
  | .modeReader => writeSimpleRequestWire writer (ascii "MODE READER")
  | .modeStream => writeSimpleRequestWire writer (ascii "MODE STREAM")
  | .quit => writeSimpleRequestWire writer (ascii "QUIT")

/-- `VecSink`: it takes every buffer whole, and of several slices the first that is not empty, which
is what a writer without a vectored write of its own does. -/
def vecSink : AsyncWrite UInt8 Unit where
  pollWrite _ buf := (buf.length, ())
  pollWriteVectored _ slices := (((slices.find? fun buf => !buf.isEmpty).getD []).length, ())

/-- The requests are encoded into `encode_buf` first. Its earlier content is cleared. -/
def writeRequestsBuffered (batch : List Request) (encodeBuf : Bytes) (out : Output UInt8 σ) :
    Except WriteError (Bytes × Output UInt8 σ) := do
  let encodeBuf := encodeBuf.take 0
  let sink ← batch.foldlM (fun sink request => writeRequestWire vecSink request sink)
    (⟨(), encodeBuf⟩ : Output UInt8 Unit)
  let out ← writeAll writer sink.delivered out
  .ok (sink.delivered, out)

end Encoder

theorem datetimeSuffix_eq (gmt : Bool) :
    datetimeSuffix gmt = (if gmt then ascii " GMT" else []) ++ CRLF := by
  cases gmt <;> rfl

section Agreement

variable {σ : Type} {writer : AsyncWrite UInt8 σ} (h : writer.Accepts)
include h

theorem delivers_writeSlices {slices : List Bytes} {line : Bytes}
    (hbytes : slices.flatten = line ++ CRLF) : Delivers (writeSlices writer slices)
    (line ++ CRLF) := by
  rw [← hbytes]
  apply delivers_writeAllVectored h slices
  intro hnil
  rw [hbytes] at hnil
  cases (List.append_eq_nil_iff.mp hnil).2

theorem delivers_writeSimpleRequestWire (verb : Bytes) :
    Delivers (writeSimpleRequestWire writer verb) (Protocol.writeSimpleRequestWire verb) := by
  apply delivers_writeSlices h
  simp

theorem delivers_writeArticleRefRequestWire (verb : Bytes) (articleRef : ArticleRef) :
    Delivers (writeArticleRefRequestWire writer verb articleRef)
      (Protocol.writeArticleRefRequestWire verb articleRef) := by
  cases articleRef with
  | current =>
    apply delivers_writeSlices h
    simp
  | number number =>
    -- a number of 64 bits has at most 20 digits, so the buffer holds it
    have hdigits : numberBuf number = .ok (decimalText number.toNat) := by
      have hlength : (decimalText number.toNat).length ≤ 20 := by
        apply length_decimalText_le (by decide)
        have hlt := number.toNat_lt
        omega
      rw [numberBuf, if_pos hlength]
    intro out
    simp only [writeArticleRefRequestWire, hdigits]
    apply delivers_writeSlices h
    simp
  | messageId messageId =>
    apply delivers_writeSlices h
    simp

theorem delivers_writeMessageIdRequestWire (verb : Bytes) (messageId : MessageId) :
    Delivers (writeMessageIdRequestWire writer verb messageId)
      (Protocol.writeRequestWire verb messageId) := by
  apply delivers_writeSlices h
  simp

theorem delivers_writeOneArgRequestWire (verb : Bytes) (arg : Str) :
    Delivers (writeOneArgRequestWire writer verb arg)
      (Protocol.writeOneArgRequestWire verb arg) := by
  apply delivers_writeSlices h
  simp

theorem delivers_writeOptionalArgRequestWire (verb : Bytes) (arg : Option Str) :
    Delivers (writeOptionalArgRequestWire writer verb arg)
      (Protocol.writeOptionalArgRequestWire verb arg) := by
  cases arg with
  | none =>
    have heq : Protocol.writeOptionalArgRequestWire verb none =
        Protocol.writeSimpleRequestWire verb := by
      simp [Protocol.writeOptionalArgRequestWire, Protocol.writeSimpleRequestWire, writeOptionalArg]
    rw [heq]
    exact delivers_writeSimpleRequestWire h verb
  | some arg =>
    apply delivers_writeSlices h
    simp [writeOptionalArg]

theorem delivers_writeHeaderQueryRequestWire (verb : Bytes) (header : HeaderName)
    (selector : Option ArticleSelector) :
    Delivers (writeHeaderQueryRequestWire writer verb header.value selector)
      (Protocol.writeHeaderQueryRequestWire verb header selector) := by
  cases selector with
  | none =>
    apply delivers_writeSlices h
    simp [writeOptionalArg]
  | some selector =>
    apply delivers_writeSlices h
    simp [writeOptionalArg]

theorem delivers_writeListgroupRequestWire (group : Option GroupName)
    (range : Option ListGroupRange) :
    Delivers (writeListgroupRequestWire writer group range)
      (Protocol.writeListgroupRequestWire group range) := by
  cases group with
  | none =>
    have heq : Protocol.writeListgroupRequestWire none range =
        Protocol.writeSimpleRequestWire (ascii "LISTGROUP") := by
      simp [Protocol.writeListgroupRequestWire, Protocol.writeSimpleRequestWire, writeOptionalArg]
    rw [heq]
    cases range <;> exact delivers_writeSimpleRequestWire h _
  | some group =>
    cases range with
    | none =>
      apply delivers_writeSlices h
      simp [writeOptionalArg, ascii]
    | some range =>
      apply delivers_writeSlices h
      simp [writeOptionalArg, ascii]

theorem delivers_writeListRequestWire (kind : ListKind) (wildmat : Option Wildmat) :
    Delivers (writeListRequestWire writer kind wildmat)
      (Protocol.writeListRequestWire kind wildmat) := by
  cases wildmat with
  | none =>
    apply delivers_writeSlices h
    simp [writeOptionalArg]
  | some wildmat =>
    apply delivers_writeSlices h
    simp [writeOptionalArg]

theorem delivers_writeDotStuffedArticle (payload : Bytes) :
    Delivers (writeDotStuffedArticle writer payload) (Protocol.writeDotStuffedArticle payload) := by
  by_cases hempty : payload = []
  · intro out
    unfold writeDotStuffedArticle Protocol.writeDotStuffedArticle
    rw [if_pos hempty, if_pos hempty]
    exact delivers_writeAll h DOT_TERMINATOR out
  · -- each line is delivered with its stuffing and its CRLF, then the terminator
    have hline : ∀ line ∈ crlfNormalizedPayloadLines payload,
        Delivers (fun out =>
          if ascii "." <+: line then writeAllVectored writer [ascii ".", line, CRLF] out
          else writeAllVectored writer [line, CRLF] out) (stuffLine line ++ CRLF) := by
      intro line _
      by_cases hdot : ascii "." <+: line
      · simp only [if_pos hdot]
        apply delivers_writeSlices h
        simp [stuffLine, hdot]
      · simp only [if_neg hdot]
        apply delivers_writeSlices h
        simp [stuffLine, hdot]
    have hall := (Delivers.foldlM _ hline).bind (delivers_writeAll h DOT_TERMINATOR)
    intro out
    unfold writeDotStuffedArticle Protocol.writeDotStuffedArticle
    rw [if_neg hempty, if_neg hempty]
    exact hall out

theorem delivers_writeRequestWire (request : Request) :
    Delivers (writeRequestWire writer request) request.writeWireTo := by
  -- The client's encoder delivers the bytes of the request, however the writer takes them.
  cases request with
  | article articleRef | body articleRef | head articleRef | stat articleRef =>
    exact delivers_writeArticleRefRequestWire h _ articleRef
  | listVariant kind wildmat => exact delivers_writeListRequestWire h kind wildmat
  | group name => exact delivers_writeOneArgRequestWire h _ name.value
  | listGroup name range => exact delivers_writeListgroupRequestWire h name range
  | «over» selector | xover selector => exact delivers_writeOptionalArgRequestWire h _ _
  | hdr header selector | xhdr header selector =>
    exact delivers_writeHeaderQueryRequestWire h _ header selector
  | newGroups day time gmt =>
    apply delivers_writeSlices h
    simp [datetimeSuffix_eq gmt]
  | newNews wildmat day time gmt =>
    apply delivers_writeSlices h
    simp [datetimeSuffix_eq gmt]
  | ihave messageId | check messageId => exact delivers_writeMessageIdRequestWire h _ messageId
  | takeThis messageId payload =>
    exact (delivers_writeMessageIdRequestWire h _ messageId).bind
      (delivers_writeDotStuffedArticle h payload)
  | authInfo kind value =>
    apply delivers_writeSlices h
    simp
  | capabilities keyword =>
    cases keyword with
    | none => exact delivers_writeSimpleRequestWire h _
    | some keyword => exact delivers_writeOneArgRequestWire h _ keyword
  | last | next | post | startTls | list | help | date | modeReader | modeStream | quit =>
    exact delivers_writeSimpleRequestWire h _

end Agreement

theorem vecSink_accepts : vecSink.Accepts where
  pollWrite_pos _ buf hne := List.length_pos_iff.mpr hne
  pollWrite_le _ buf := Nat.le_refl _
  pollWriteVectored_pos _ slices hne := by
    obtain ⟨buf, hmem, hbuf⟩ : ∃ buf ∈ slices, buf ≠ [] := by
      simpa [List.flatten_eq_nil_iff] using hne
    cases hfind : slices.find? fun buf => !buf.isEmpty with
    | none =>
      have hempty := List.find?_eq_none.mp hfind buf hmem
      simp [hbuf] at hempty
    | some first =>
      have hfirst := List.find?_some hfind
      simp only [vecSink, hfind, Option.getD_some]
      exact List.length_pos_iff.mpr (by simpa using hfirst)
  pollWriteVectored_le _ slices := by
    cases hfind : slices.find? fun buf => !buf.isEmpty with
    | none => simp [vecSink, hfind]
    | some first =>
      simp only [vecSink, hfind, Option.getD_some]
      exact (List.sublist_flatten_of_mem (List.mem_of_find?_eq_some hfind)).length_le

/-- Whatever part of the offered slices the writer takes at each call, the client delivers a request
as `write_wire_to` encodes it, and a batch of requests as one encoding after the other. -/
theorem client_writes_the_wire_form {σ : Type} (writer : AsyncWrite UInt8 σ) (h : writer.Accepts) :
    (∀ request : Request, Delivers (writeRequestWire writer request) request.writeWireTo) ∧
      ∀ (batch : List Request) (encodeBuf : Bytes) (out : Output UInt8 σ),
        ∃ state, writeRequestsBuffered writer batch encodeBuf out =
          .ok (batch.flatMap Request.writeWireTo,
            ⟨state, out.delivered ++ batch.flatMap Request.writeWireTo⟩) := by
  refine ⟨delivers_writeRequestWire h, ?_⟩
  intro batch encodeBuf out
  have hencode := Delivers.foldlM batch fun request _ =>
    delivers_writeRequestWire vecSink_accepts request
  obtain ⟨last, hsink⟩ := hencode ⟨(), encodeBuf.take 0⟩
  obtain ⟨state, hout⟩ := delivers_writeAll h (batch.flatMap Request.writeWireTo) out
  refine ⟨state, ?_⟩
  simp only [List.take_zero, List.nil_append] at hsink
  simp only [writeRequestsBuffered, List.take_zero, hsink, hout, ExceptBind.ok_bind]

def byteByByte : AsyncWrite UInt8 Unit where
  pollWrite _ buf := (min 1 buf.length, ())
  pollWriteVectored _ slices := (min 1 slices.flatten.length, ())

theorem takethis_written_byte_by_byte :
    Delivers (writeRequestWire byteByByte (.takeThis ⟨"<a@b>".toList, by decide⟩ (ascii "\n.x")))
      (ascii "TAKETHIS <a@b>\r\n\r\n..x\r\n.\r\n") := by
  have haccepts : byteByByte.Accepts := by
    constructor
    · intro state buf hne
      have hpos := List.length_pos_iff.mpr hne
      change 0 < min 1 buf.length
      omega
    · intro state buf
      exact Nat.min_le_right _ _
    · intro state slices hne
      have hpos := List.length_pos_iff.mpr hne
      change 0 < min 1 slices.flatten.length
      omega
    · intro state slices
      exact Nat.min_le_right _ _
  exact (client_writes_the_wire_form byteByByte haccepts).1 _

end NntpBench.Client.Vectored
