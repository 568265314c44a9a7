import NntpBench.Receive

namespace NntpBench.Protocol

open Terminator ListSearch ExceptBind

variable {kind : RequestKind} {buf line buffer : Bytes} {start firstLineEnd : Nat}
  {framed : FramedResponse} {status : StatusCode} {firstLine : ValidatedFirstLine}
  {parsed : ParsedFirstLine}

def parseStatusCode (buf : Bytes) : Except ArticleParseError Nat :=
  okOr .invalidStatusPrefix ((StatusCode.parse buf).map StatusCode.code)

def findTerminatorContentEnd (data : Bytes) (start : Nat) : Option Nat :=
  (getFrom data start).bind fun slice =>
    (findStreamingTerminatorEnd slice).map fun fin => start + fin - 3

def findArticleContentEnd (buf : Bytes) (start : Nat) : Option Nat :=
  (getFrom buf start).bind fun slice =>
    if DOT_TERMINATOR <+: slice then some start else findTerminatorContentEnd buf start

/-- The structural errors of a response whose terminator is missing. Only 220, 221 and 222 get
here. -/
def missingTerminatorError (buffer : Bytes) (status statusLineEnd : Nat) :
    Except ArticleParseError Nat :=
  match status with
  | 220 => do
    let separator ← findBlankLine buffer statusLineEnd
    let headersEnd := separator + CRLF.length
    let _ ← Headers.parse (buffer.extract statusLineEnd headersEnd)
    .error .missingTerminator
  | 221 =>
    match findBlankLine buffer statusLineEnd with
    | .ok _ => .error .unexpectedBody
    | .error _ => .error .missingTerminator
  | _ => .error .missingTerminator

def compatibilityContentEnd (buffer : Bytes) (status statusLineEnd : Nat) :
    Except ArticleParseError Nat :=
  if status = 223 then .ok buffer.length
  else
    match findArticleContentEnd buffer statusLineEnd with
    | some contentEnd => .ok contentEnd
    | none => missingTerminatorError buffer status statusLineEnd

def parseCompatibilityResponse (buffer : Bytes) (status : Nat) :
    Except ArticleParseError (Option Article) :=
  if ¬ (220 ≤ status ∧ status ≤ 223) then .error (.invalidStatusCode status)
  else do
    let firstLineEnd ← okOr .bufferTooShort (strictCrlfLineContentEndFrom buffer 0)
    let statusLineEnd := firstLineEnd + CRLF.length
    let firstLine ← validateFirstLine buffer (← ArticleFrameRange.new 0 firstLineEnd)
    let contentEnd ← compatibilityContentEnd buffer status statusLineEnd
    let framed ← FramedArticle.fromKnownContentBounds buffer statusLineEnd contentEnd statusLineEnd
    let layout ← framed.validateForStatusWithFirstLine status firstLine
    .ok (layout.materialize buffer)

def articleKind : Nat → Except ArticleParseError RequestKind
  | 220 => .ok .article
  | 221 => .ok .head
  | 222 => .ok .body
  | 223 => .ok .stat
  | status => .error (.invalidStatusCode status)

/-- `Article::parse`; an accepted article that cannot be read is a panic of the source. -/
def Article.parse (buf : Bytes) : Except ArticleParseError (Option Article) := do
  let statusCode ← parseStatusCode buf
  let kind ← articleKind statusCode
  match strictCrlfLineContentEndFrom buf 0 with
  | none => parseCompatibilityResponse buf statusCode
  | some firstLineEnd =>
    let _ ← parseFirstLine (buf.take firstLineEnd)
    match ResponseFrame.parse kind buf with
    | .complete frame =>
      if frame.consumed = buf.length then frame.article
      else parseCompatibilityResponse buf statusCode
    | .needMore => parseCompatibilityResponse buf statusCode
    | .invalid => parseCompatibilityResponse buf statusCode

def chunks (size : Nat) (data : Bytes) : List Bytes :=
  (List.range ((data.length + size - 1) / size)).map fun i =>
    data.extract (i * size) ((i + 1) * size)

def receiveFragments (kind : RequestKind) (response : Bytes) (chunkBytes : Nat) :
    Except ClientError OwnedResponse :=
  let receiver := BufferedResponseReceiver.new [] fun _ => 0
  match ((Receiving.new receiver kind).feed (chunks (max chunkBytes 1) response)).getLast? with
  | some (.ok (some response)) => .ok response
  | some (.error e) => .error e
  | some (.ok none) => .error .unexpectedEof
  | none => .error .unexpectedEof

def ownedFromBytes (kind : RequestKind) (bytes : Bytes) : Except ClientError OwnedResponse :=
  receiveFragments kind bytes bytes.length

theorem chunks_length {data : Bytes} (h : data ≠ []) : chunks data.length data = [data] := by
  have hpos := List.length_pos_iff.mpr h
  have hone : (data.length + data.length - 1) / data.length = 1 := by
    rw [Nat.div_eq_iff hpos]
    omega
  unfold chunks
  rw [hone]
  simp

theorem Receiving.feed_singleton (self : Receiving) (chunk : Bytes) :
    self.feed [chunk] = [(self.appendAndExtract chunk).1] := by
  unfold feed
  split
  · rename_i next heq
    rw [heq]
    rfl
  · rename_i result next _ heq
    rw [heq]

theorem ownedFromBytes_eq {bytes : Bytes} (hne : bytes ≠ []) :
    ownedFromBytes kind bytes =
      match (oneShot kind bytes).outcome with
      | .ok (some response) => .ok response
      | .ok none => .error .unexpectedEof
      | .error e => .error e := by
  have hpos := List.length_pos_iff.mpr hne
  have hmax : max bytes.length 1 = bytes.length := by omega
  have hseen := Receiving.seen_new (BufferedResponseReceiver.new [] fun _ => 0) kind
  have hresult := (Receiving.appendAndExtract_eq hseen rfl bytes).1
  rw [List.nil_append] at hresult
  simp only [ownedFromBytes, receiveFragments, hmax, chunks_length hne, Receiving.feed_singleton,
    hresult, List.getLast?_singleton]
  cases (oneShot kind bytes).outcome with
  | error e => rfl
  | ok response => cases response <;> rfl

theorem end_le_of_findBlankLine {separator : Nat}
    (h : findBlankLine buf start = .ok separator) : separator + 4 ≤ buf.length := by
  rw [findBlankLine, okOr_eq_ok] at h
  obtain ⟨i, hi, rfl⟩ := Option.map_eq_some_iff.mp h
  have hend := findSub_end_le hi
  have hlen : (ascii "\r\n\r\n").length = 4 := by decide
  rw [hlen, List.length_drop] at hend
  omega

section Extend

variable {range : ArticleFrameRange} {buffer : Bytes}

theorem ArticleFrameRange.stop_of_new {stop : Nat} (h : new start stop = .ok range) :
    range.stop = stop := by
  unfold new at h
  split_ifs at h
  cases h
  rfl

theorem ArticleFrameRange.get_append (h : range.stop ≤ buffer.length) (more : Bytes) :
    range.get (buffer ++ more) = range.get buffer := by
  have hle : range.stop ≤ (buffer ++ more).length := by
    rw [List.length_append]
    omega
  unfold get
  rw [if_pos h, if_pos hle, List.extract_eq_take_drop, List.extract_eq_take_drop, ← List.drop_take,
    ← List.drop_take, List.take_append_of_le_length h]

theorem ArticleFrameRange.get_append_of_some {data : Bytes} (h : range.get buffer = some data)
    (more : Bytes) : range.get (buffer ++ more) = some data := by
  have hle : range.stop ≤ buffer.length := by
    by_contra hgt
    rw [get, if_neg hgt] at h
    cases h
  rw [get_append hle, h]

theorem ArticleLayout.materialize_append {layout : ArticleLayout} {article : Article}
    (h : layout.materialize buffer = some article) (more : Bytes) :
    layout.materialize (buffer ++ more) = some article := by
  -- A layout that can be read from the response can be read in front of further bytes.
  have hget : ∀ {range : ArticleFrameRange} {data : Bytes}, range.get buffer = some data →
      range.get (buffer ++ more) = some data :=
    fun hsome => ArticleFrameRange.get_append_of_some hsome more
  unfold materialize at h ⊢
  obtain ⟨messageId, hid, h⟩ := Option.bind_eq_some_iff.mp h
  obtain ⟨bytes, hbytes, hutf8⟩ := Option.bind_eq_some_iff.mp hid
  rw [hget hbytes, Option.bind_some, hutf8]
  cases hcontent : layout.content with
  | article headers _ body _ =>
    simp only [hcontent] at h ⊢
    obtain ⟨headerBytes, hheaders, h⟩ := Option.bind_eq_some_iff.mp h
    obtain ⟨bodyBytes, hbody, h⟩ := Option.bind_eq_some_iff.mp h
    rw [hget hheaders, hget hbody]
    exact h
  | head headers _ =>
    simp only [hcontent] at h ⊢
    obtain ⟨headerBytes, hheaders, h⟩ := Option.bind_eq_some_iff.mp h
    rw [hget hheaders]
    exact h
  | body body _ =>
    simp only [hcontent] at h ⊢
    obtain ⟨bodyBytes, hbody, h⟩ := Option.bind_eq_some_iff.mp h
    rw [hget hbody]
    exact h
  | stat _ =>
    simp only [hcontent] at h ⊢
    exact h

namespace FramedArticle

variable {firstLine content : ArticleFrameRange} (h : content.stop ≤ buffer.length) (more : Bytes)
include h

theorem validateContent_append (status : Nat) :
    validateContent ⟨buffer ++ more, firstLine, content⟩ status =
      validateContent ⟨buffer, firstLine, content⟩ status := by
  -- The content checks look at the response only.
  have hlen : content.stop ≤ (buffer ++ more).length := by
    rw [List.length_append]
    omega
  have hhead : contentHead ⟨buffer ++ more, firstLine, content⟩ =
      .ok (buffer.take content.stop) := by
    simp only [contentHead, if_pos hlen, List.take_append_of_le_length h]
  have hhead' : contentHead ⟨buffer, firstLine, content⟩ = .ok (buffer.take content.stop) := by
    simp only [contentHead, if_pos h]
  have hslice : ∀ range : ArticleFrameRange, range.stop ≤ content.stop →
      range.slice (buffer ++ more) = range.slice buffer := by
    intro range hle
    rw [ArticleFrameRange.slice, ArticleFrameRange.slice,
      ArticleFrameRange.get_append (hle.trans h)]
  unfold validateContent
  split
  · unfold validateArticleContent
    simp only [hhead, hhead', ok_bind]
    cases hblank : findBlankLine (buffer.take content.stop) content.start with
    | error e => rfl
    | ok separator =>
      have hend := end_le_of_findBlankLine hblank
      rw [List.length_take] at hend
      have hcrlf : CRLF.length = 2 := length_crlf
      simp only [ok_bind]
      cases hheaders : ArticleFrameRange.new content.start (separator + CRLF.length) with
      | error e => rfl
      | ok headers =>
        have hstop := ArticleFrameRange.stop_of_new hheaders
        simp only [ok_bind, hslice headers (by omega)]
        congr 1
        funext headerBytes
        congr 1
        funext headerTransformation
        rw [if_neg (by omega), if_neg (by omega)]
        cases hbody : ArticleFrameRange.new (separator + CRLF.length + CRLF.length)
          content.stop with
        | error e => rfl
        | ok body =>
          have hbodyStop := ArticleFrameRange.stop_of_new hbody
          simp only [ok_bind, hslice body (by omega)]
  · unfold validateHeadContent
    simp only [hhead, hhead', ok_bind]
    rw [hslice content (Nat.le_refl _)]
  · unfold validateBody
    simp only [hslice content (Nat.le_refl _)]
  · rfl
  · rfl

end FramedArticle

end Extend

theorem FramedResponse.WellFramed.status_eq {more : Bytes} (h : framed.WellFramed line)
    (hstatus : StatusCode.parse (framed.bytes ++ more) = some status) : status = framed.status := by
  have happend := StatusCode.parse_append (StatusCode.length_of_parse h.status) more
  rw [h.status, hstatus] at happend
  exact Option.some.inj happend

def FramedResponse.extend (self : FramedResponse) (more : Bytes) : FramedResponse :=
  { self with bytes := self.bytes ++ more }

section Compatibility

variable {framed : FramedResponse} {line : Bytes} (h : framed.WellFramed line) (more : Bytes)
include h

theorem FramedResponse.WellFramed.extend : (framed.extend more).WellFramed line where
  statusLine := by
    rw [← h.statusLine]
    exact List.take_append_of_le_length (h.start_le.trans h.stop_le)
  statusLineEnd := h.statusLineEnd
  start_le := h.start_le
  stop_le := by
    have hle := h.stop_le
    change framed.contentEnd ≤ (framed.bytes ++ more).length
    rw [List.length_append]
    omega
  status := (StatusCode.parse_append (StatusCode.length_of_parse h.status) more).trans h.status
  initial := h.initial
  valid := h.valid

omit h in
theorem FramedResponse.validatedLayout_eq (h : framed.WellFramed line)
    (hpair : isArticlePair framed.kind framed.status.code = true)
    (hinitial : validatedFirstLineFromInitial framed.initial framed.statusLineEnd = .ok firstLine) :
    framed.validatedLayout = (framed.articleView line h).validateForStatusWithFirstLine
      framed.status.code firstLine := by
  unfold validatedLayout
  rw [if_neg (by simpa using code_range hpair), hinitial, fromKnownContentBounds_eq h]
  rfl

theorem FramedResponse.validatedLayout_extend
    (hpair : isArticlePair framed.kind framed.status.code = true) :
    (framed.extend more).validatedLayout = framed.validatedLayout := by
  obtain ⟨firstLine, -, -, hinitial, -, -⟩ := exists_firstLine h hpair
  have hcontent : ((framed.extend more).articleView line (h.extend more)).validateContent
      framed.status.code = (framed.articleView line h).validateContent framed.status.code :=
    FramedArticle.validateContent_append h.stop_le more _
  rw [validatedLayout_eq (h.extend more) hpair hinitial, validatedLayout_eq h hpair hinitial,
    FramedArticle.validateForStatusWithFirstLine, FramedArticle.validateForStatusWithFirstLine,
    ← hcontent]
  rfl

/-- Where the compatibility parser finds the content end of the response, it reads the layout the
receiver reads. -/
theorem parseCompatibilityResponse_eq
    (hpair : isArticlePair framed.kind framed.status.code = true)
    (hdetect : detectResponseLineEnd (framed.bytes ++ more) = .completeAt framed.statusLineEnd)
    (hend : compatibilityContentEnd (framed.bytes ++ more) framed.status.code framed.statusLineEnd =
      .ok framed.contentEnd) :
    parseCompatibilityResponse (framed.bytes ++ more) framed.status.code =
      framed.validatedLayout.map fun layout => layout.materialize (framed.bytes ++ more) := by
  have hmore := h.extend more
  obtain ⟨firstLine, messageId, hfirst, hinitial, -, -⟩ :=
    FramedResponse.exists_firstLine hmore hpair
  have hbounds := FramedResponse.fromKnownContentBounds_eq hmore
  have hcode := FramedResponse.code_range hpair
  have hline : strictCrlfLineContentEndFrom (framed.bytes ++ more) 0 = some line.length := by
    rw [strictCrlfLineContentEndFrom, detectResponseLineEndFrom, getFrom_zero]
    simp [hdetect, h.statusLineEnd]
  have hstatusLineEnd : line.length + CRLF.length = framed.statusLineEnd := by
    rw [length_crlf, h.statusLineEnd]
  have hnew : ArticleFrameRange.new 0 line.length = .ok ⟨0, line.length, Nat.zero_le _⟩ :=
    dif_pos (Nat.zero_le _)
  rw [← FramedResponse.validatedLayout_extend h more hpair,
    FramedResponse.validatedLayout_eq hmore hpair hinitial]
  unfold parseCompatibilityResponse
  rw [if_neg (by simpa using hcode)]
  simp only [hline, okOr, ok_bind, hstatusLineEnd, hend, hnew]
  change validateFirstLine (framed.extend more).bytes _ >>= _ = _
  rw [hfirst, ok_bind]
  change FramedArticle.fromKnownContentBounds (framed.extend more).bytes
    (framed.extend more).statusLineEnd (framed.extend more).contentEnd
    (framed.extend more).statusLineEnd >>= _ = _
  have hsame : (framed.extend more).status = framed.status := rfl
  rw [hbounds, ok_bind, hsame]
  cases FramedArticle.validateForStatusWithFirstLine
    ((framed.extend more).articleView line hmore) framed.status.code firstLine <;> rfl

end Compatibility

theorem findArticleContentEnd_eq (hstart : start ≤ buf.length) :
    findArticleContentEnd buf start =
      (DotTerminatedBlocks.bounds (buf.drop start)).map fun found => start + found.1 := by
  unfold findArticleContentEnd findTerminatorContentEnd DotTerminatedBlocks.bounds
  rw [getFrom_of_le hstart, Option.bind_some, Option.bind_some]
  split_ifs with hdot
  · rfl
  · cases hfind : findStreamingTerminatorEnd (buf.drop start) with
    | none => rfl
    | some fin =>
      have hfin : 5 ≤ fin := by
        obtain ⟨i, -, rfl⟩ := Option.map_eq_some_iff.mp hfind
        exact Nat.le_add_left _ _
      have hlen : DOT_TERMINATOR.length = 3 := by decide
      simp only [Option.map_some, hlen, Option.some.injEq]
      omega

theorem isMultiline_of_isArticlePair (h : isArticlePair kind status.code = true) :
    (ResponseDescriptor.forRequestStatus kind status).framing.isMultiline =
      decide (status.code ≠ 223) := by
  obtain ⟨code, lower, upper⟩ := status
  rcases isArticlePair_iff.mp h with ⟨rfl, rfl⟩ | ⟨rfl, rfl⟩ | ⟨rfl, rfl⟩ | ⟨rfl, rfl⟩ <;> rfl

theorem articleKind_of_isArticlePair {status : Nat}
    (h : isArticlePair kind status = true) : articleKind status = .ok kind := by
  rcases isArticlePair_iff.mp h with ⟨rfl, rfl⟩ | ⟨rfl, rfl⟩ | ⟨rfl, rfl⟩ | ⟨rfl, rfl⟩ <;> rfl

theorem oneShot_ends (h : oneShot kind buf = .complete framed) :
    detectResponseLineEnd buf = .completeAt framed.statusLineEnd ∧
      (framed.initial.descriptor.framing.isMultiline = true →
        findArticleContentEnd buf framed.statusLineEnd = some framed.contentEnd) ∧
      (framed.initial.descriptor.framing.isMultiline = false →
        framed.contentEnd = framed.bytes.length) := by
  cases hparse : ResponseInitial.parse kind buf with
  | needMore => simp [oneShot_of_needMore hparse] at h
  | invalid => simp [oneShot_of_invalid hparse] at h
  | complete initial =>
    obtain ⟨fin, hdetect, -, -⟩ := ResponseInitial.parse_eq_complete hparse
    have hfin := le_length_of_completeAt hdetect
    rw [oneShot_of_complete hparse hdetect, oneShotBody] at h
    split_ifs at h with hmulti
    · cases hbounds : DotTerminatedBlocks.bounds (buf.drop fin) with
      | none => simp [hbounds] at h
      | some found =>
        simp only [hbounds, OneShot.complete.injEq] at h
        subst h
        refine ⟨hdetect, fun _ => ?_, fun hsingle => ?_⟩
        · rw [findArticleContentEnd_eq hfin, hbounds]
          rfl
        · exact absurd hmulti (by simpa using hsingle)
    · cases h
      refine ⟨hdetect, fun htrue => absurd htrue hmulti, fun _ => ?_⟩
      rw [List.length_take, Nat.min_eq_left hfin]

theorem checkContent_of_layout (h : framed.WellFramed line)
    (hpair : isArticlePair framed.kind framed.status.code = true) :
    match framed.validatedLayout with
    | .ok layout => ∃ frame, checkContent framed = .complete frame ∧
        frame.consumed = framed.bytes.length ∧ frame.article = .ok (layout.materialize framed.bytes)
    | .error _ => checkContent framed = .invalid := by
  have hview := FramedResponse.validateResponseFrame_eq h hpair
  have hpair' : isArticlePair framed.toFrame.kind framed.toFrame.status.code = true := hpair
  unfold checkContent validateResponseContent
  rw [if_pos hpair', hview]
  cases framed.validatedLayout with
  | ok layout => exact ⟨_, rfl, rfl, rfl⟩
  | error e => rfl

theorem parseFirstLine_of_validateFirstLine {range : ArticleFrameRange}
    (h : validateFirstLine buffer range = .ok firstLine) :
    ∃ parsed, parseFirstLine (buffer.extract range.start range.stop) = .ok parsed := by
  obtain ⟨line, hline, h⟩ := bind_eq_ok.mp h
  obtain ⟨parsed, hparsed, -⟩ := bind_eq_ok.mp h
  have hget := FramedResponse.get_of_slice hline
  unfold ArticleFrameRange.get at hget
  split_ifs at hget
  cases hget
  exact ⟨parsed, hparsed⟩

theorem missingTerminatorError_ne_ok (buffer : Bytes) (status statusLineEnd contentEnd : Nat) :
    missingTerminatorError buffer status statusLineEnd ≠ .ok contentEnd := by
  unfold missingTerminatorError
  split
  · intro hok
    obtain ⟨separator, -, hok⟩ := bind_eq_ok.mp hok
    obtain ⟨headers, -, hok⟩ := bind_eq_ok.mp hok
    cases hok
  · split <;> exact nofun
  · exact nofun

theorem of_parseCompatibilityResponse {status : Nat} {article : Option Article}
    (h : parseCompatibilityResponse buffer status = .ok article) :
    ∃ firstLineEnd contentEnd, strictCrlfLineContentEndFrom buffer 0 = some firstLineEnd ∧
      compatibilityContentEnd buffer status (firstLineEnd + CRLF.length) = .ok contentEnd := by
  unfold parseCompatibilityResponse at h
  split_ifs at h
  obtain ⟨firstLineEnd, hline, h⟩ := bind_eq_ok.mp h
  obtain ⟨range, -, h⟩ := bind_eq_ok.mp h
  obtain ⟨firstLine, -, h⟩ := bind_eq_ok.mp h
  obtain ⟨contentEnd, hend, -⟩ := bind_eq_ok.mp h
  exact ⟨firstLineEnd, contentEnd, okOr_eq_ok.mp hline, hend⟩

theorem ResponseFrame.parse_ne_complete (h : ∀ framed, oneShot kind buf ≠ .complete framed)
    (frame : ResponseFrame) :
    ResponseFrame.parse kind buf ≠ .complete frame := by
  intro hframe
  rw [ResponseFrame.parse_eq] at hframe
  cases hone : oneShot kind buf with
  | needMore => simp [hone] at hframe
  | invalid => simp [hone] at hframe
  | complete framed => exact h framed hone

theorem parseStatusCode_eq
    (h : StatusCode.parse buf = some status) : parseStatusCode buf = .ok status.code := by
  rw [parseStatusCode, h]
  rfl

section Routes

variable {kind : RequestKind} {buf : Bytes} {status : StatusCode}
  (hstatus : StatusCode.parse buf = some status) (hpair : isArticlePair kind status.code = true)
include hstatus hpair

theorem Article.parse_eq (hline : strictCrlfLineContentEndFrom buf 0 = some firstLineEnd)
    (hfirst : parseFirstLine (buf.take firstLineEnd) = .ok parsed) :
    Article.parse buf =
      match ResponseFrame.parse kind buf with
      | .complete frame =>
        if frame.consumed = buf.length then frame.article
        else parseCompatibilityResponse buf status.code
      | .needMore => parseCompatibilityResponse buf status.code
      | .invalid => parseCompatibilityResponse buf status.code := by
  have hcode := parseStatusCode_eq hstatus
  unfold Article.parse
  simp only [hcode, articleKind_of_isArticlePair hpair, hline, hfirst, ok_bind]

theorem parseCompatibilityResponse_of_complete (hone : oneShot kind buf = .complete framed)
    (hstat : status.code = 223 → framed.bytes = buf) :
    parseCompatibilityResponse buf status.code =
      framed.validatedLayout.map fun layout => layout.materialize framed.bytes := by
  obtain ⟨rfl, ⟨more, rfl⟩, line, hframed⟩ := oneShot_complete hone
  obtain ⟨hdetect, hmulti, hsingle⟩ := oneShot_ends hone
  obtain rfl := hframed.status_eq hstatus
  have hframing : framed.initial.descriptor.framing.isMultiline =
      decide (framed.status.code ≠ 223) := by
    rw [hframed.initial]
    exact isMultiline_of_isArticlePair hpair
  have hend : compatibilityContentEnd (framed.bytes ++ more) framed.status.code
      framed.statusLineEnd = .ok framed.contentEnd := by
    unfold compatibilityContentEnd
    by_cases hcode : framed.status.code = 223
    · rw [if_pos hcode, ← hstat hcode, hsingle (by simp [hframing, hcode])]
    · rw [if_neg hcode, hmulti (by simp [hframing, hcode])]
  rw [parseCompatibilityResponse_eq hframed more hpair hdetect hend]
  cases hlayout : framed.validatedLayout with
  | error e => rfl
  | ok layout =>
    obtain ⟨article, harticle⟩ := FramedResponse.exists_article hframed hpair hlayout
    simp only [Except.map, ArticleLayout.materialize_append harticle more, harticle]

theorem Article.parse_of_complete (hone : oneShot kind buf = .complete framed)
    (hstat : status.code = 223 → framed.bytes = buf) :
    Article.parse buf =
      framed.validatedLayout.map fun layout => layout.materialize framed.bytes := by
  -- A response whose end is known is parsed as the receiver would lay it out.
  have hparse : ResponseFrame.parse kind buf = checkContent framed := by
    rw [ResponseFrame.parse_eq, hone]
  have hcompat := parseCompatibilityResponse_of_complete hstatus hpair hone hstat
  obtain ⟨rfl, ⟨more, rfl⟩, line, hframed⟩ := oneShot_complete hone
  have hdetect := (oneShot_ends hone).1
  obtain rfl := hframed.status_eq hstatus
  -- the first line is read from the whole buffer
  obtain ⟨firstLine, -, hfirst, -, -, -⟩ :=
    FramedResponse.exists_firstLine (hframed.extend more) hpair
  obtain ⟨parsed, hparsed⟩ := parseFirstLine_of_validateFirstLine hfirst
  have hline : strictCrlfLineContentEndFrom (framed.bytes ++ more) 0 = some line.length := by
    rw [strictCrlfLineContentEndFrom, detectResponseLineEndFrom, getFrom_zero]
    simp [hdetect, hframed.statusLineEnd]
  rw [Article.parse_eq hstatus hpair hline (by simpa [FramedResponse.extend] using hparsed), hparse]
  have hcheck := checkContent_of_layout hframed hpair
  cases hlayout : framed.validatedLayout with
  | error e =>
    rw [hlayout] at hcheck hcompat
    simp only [hcheck, hcompat]
  | ok layout =>
    rw [hlayout] at hcheck hcompat
    obtain ⟨frame, hcomplete, -, hread⟩ := hcheck
    simp only [hcomplete, hcompat, hread, Except.map, ite_self]

theorem Article.parse_eq_parseCompatibilityResponse (hcode : status.code ≠ 223) :
    Article.parse buf = parseCompatibilityResponse buf status.code := by
  -- `Article::parse` reads every response with content as the compatibility parser does.
  by_cases hfound : ∃ framed, oneShot kind buf = .complete framed
  · obtain ⟨framed, hone⟩ := hfound
    have hstat : status.code = 223 → framed.bytes = buf := fun h => absurd h hcode
    rw [Article.parse_of_complete hstatus hpair hone hstat,
      parseCompatibilityResponse_of_complete hstatus hpair hone hstat]
  · rw [not_exists] at hfound
    have hincomplete := ResponseFrame.parse_ne_complete hfound
    have hstatusCode := parseStatusCode_eq hstatus
    cases hline : strictCrlfLineContentEndFrom buf 0 with
    | none => simp only [Article.parse, hstatusCode, articleKind_of_isArticlePair hpair, hline,
        ok_bind]
    | some firstLineEnd =>
      cases hfirst : parseFirstLine (buf.take firstLineEnd) with
      | ok parsed =>
        rw [Article.parse_eq hstatus hpair hline hfirst]
        cases hparse : ResponseFrame.parse kind buf with
        | complete frame => exact absurd hparse (hincomplete frame)
        | needMore => rfl
        | invalid => rfl
      | error e =>
        have hcodes := FramedResponse.code_range hpair
        have hinside : firstLineEnd ≤ buf.length := by
          obtain ⟨line, rest, rfl, -, rfl⟩ := exists_line_of_strictCrlfLineContentEnd hline
          rw [List.length_append]
          omega
        have hnew : ArticleFrameRange.new 0 firstLineEnd = .ok ⟨0, firstLineEnd, Nat.zero_le _⟩ :=
          dif_pos (Nat.zero_le _)
        have hslice : ArticleFrameRange.slice ⟨0, firstLineEnd, Nat.zero_le _⟩ buf =
            .ok (buf.take firstLineEnd) := by
          unfold ArticleFrameRange.slice ArticleFrameRange.get
          rw [if_pos hinside, List.extract_eq_take_drop, List.drop_zero, Nat.sub_zero]
          rfl
        simp only [Article.parse, hstatusCode, articleKind_of_isArticlePair hpair, hline, hfirst,
          ok_bind, parseCompatibilityResponse, okOr, hnew, validateFirstLine, hslice]
        rw [if_neg (by simpa using hcodes)]
        rfl

omit hstatus hpair in
/-- A first line that the article parser accepts is accepted by the client, unless it is too long.
-/
theorem acceptedLine_of_firstLine {rest : Bytes}
    (hcode : StatusCode.parse (line ++ rest) = some status)
    (hpair : isArticlePair kind status.code = true) (hline : IsLineContent line)
    (hfirst : parseFirstLine line = .ok parsed)
    (hlimit : line.length + 2 ≤ MAX_INITIAL_RESPONSE_LINE_BYTES) : AcceptedLine kind status
      line := by
  obtain ⟨article, harticle⟩ := articleLine_of_parseFirstLine hfirst
  rw [StatusCode.parse_append harticle.range.1] at hcode
  refine ⟨hline, hcode, hlimit.trans (responseInitialLineLimit_ge kind _), ?_, ?_⟩
  · obtain ⟨code, lower, upper⟩ := status
    rcases isArticlePair_iff.mp hpair with ⟨rfl, rfl⟩ | ⟨rfl, rfl⟩ | ⟨rfl, rfl⟩ | ⟨rfl, rfl⟩ <;>
      exact nofun
  · rw [validateResponseInitialLine_of_isArticlePair hpair,
      articleLine_iff_parseResponseInitialArticle.mpr harticle]
    rfl

theorem undecided_of_firstLine
    (hlimit : ∀ fin, detectResponseLineEnd buf = .completeAt fin →
      fin ≤ MAX_INITIAL_RESPONSE_LINE_BYTES)
    (hone : ∀ framed, oneShot kind buf ≠ .complete framed)
    (hstrict : strictCrlfLineContentEndFrom buf 0 = some firstLineEnd)
    (hfirst : parseFirstLine (buf.take firstLineEnd) = .ok parsed) :
    status.code ≠ 223 ∧ oneShot kind buf = .needMore ∧
      findArticleContentEnd buf (firstLineEnd + 2) = none := by
  -- A valid first line within the limit leaves only the terminator to wait for.
  obtain ⟨line, rest, rfl, hline, rfl⟩ := exists_line_of_strictCrlfLineContentEnd hstrict
  rw [List.take_left] at hfirst
  have hdetect := detectResponseLineEnd_line hline rest
  have haccepted := acceptedLine_of_firstLine hstatus hpair hline hfirst (hlimit _ hdetect)
  have hframing := isMultiline_of_isArticlePair hpair
  by_cases hcode : status.code = 223
  · -- a response without content is complete at once
    have hsingle : (ResponseDescriptor.forRequestStatus kind status).framing.isMultiline =
        false := by
      rw [hframing, hcode]
      rfl
    exact absurd (haccepted.oneShot_single rest hsingle) (hone _)
  · have hmulti : (lineInitial kind status line).descriptor.framing.isMultiline = true := by
      show (ResponseDescriptor.forRequestStatus kind status).framing.isMultiline = true
      rw [hframing]
      exact decide_eq_true hcode
    rw [haccepted.oneShot_eq, oneShotBody, if_pos hmulti] at hone ⊢
    cases hbounds : DotTerminatedBlocks.bounds
        ((line ++ CR :: LF :: rest).drop (line.length + 2)) with
    | none =>
      refine ⟨hcode, rfl, ?_⟩
      rw [findArticleContentEnd_eq (le_length_of_completeAt hdetect), hbounds]
      rfl
    | some found =>
      rw [hbounds] at hone
      exact absurd rfl (hone _)

theorem Article.parse_of_incomplete
    (hlimit : ∀ fin, detectResponseLineEnd buf = .completeAt fin →
      fin ≤ MAX_INITIAL_RESPONSE_LINE_BYTES)
    (hone : ∀ framed, oneShot kind buf ≠ .complete framed) :
    ∃ e, Article.parse buf = .error e := by
  -- Where the receiver finds no complete response, `Article::parse` reports an error.
  have hcode := parseStatusCode_eq hstatus
  cases hstrict : strictCrlfLineContentEndFrom buf 0 with
  | none =>
    have hparse : Article.parse buf = parseCompatibilityResponse buf status.code := by
      simp only [Article.parse, hcode, articleKind_of_isArticlePair hpair, hstrict, ok_bind]
    cases hcompat : parseCompatibilityResponse buf status.code with
    | error e => exact ⟨e, hparse.trans hcompat⟩
    | ok article =>
      obtain ⟨firstLineEnd, -, hline, -⟩ := of_parseCompatibilityResponse hcompat
      rw [hstrict] at hline
      cases hline
  | some firstLineEnd =>
    cases hfirst : parseFirstLine (buf.take firstLineEnd) with
    | error e =>
      refine ⟨e, ?_⟩
      simp only [Article.parse, hcode, articleKind_of_isArticlePair hpair, hstrict, hfirst, ok_bind]
      rfl
    | ok parsed =>
      obtain ⟨hnotStat, hwait, hnone⟩ :=
        undecided_of_firstLine hstatus hpair hlimit hone hstrict hfirst
      have hneed : ResponseFrame.parse kind buf = .needMore := by
        rw [ResponseFrame.parse_eq, hwait]
      rw [Article.parse_eq hstatus hpair hstrict hfirst, hneed]
      cases hcompat : parseCompatibilityResponse buf status.code with
      | error e => exact ⟨e, rfl⟩
      | ok article =>
        obtain ⟨found, contentEnd, hline, hend⟩ := of_parseCompatibilityResponse hcompat
        rw [hstrict] at hline
        cases hline
        unfold compatibilityContentEnd at hend
        rw [if_neg hnotStat, length_crlf, hnone] at hend
        exact (missingTerminatorError_ne_ok _ _ _ _ hend).elim

end Routes

theorem messageId_of_parseFirstLine {content : Bytes} (h : parseFirstLine content = .ok parsed) :
    parsed.messageIdRange.stop ≤ content.length ∧
      isMessageIdToken (content.extract parsed.messageIdRange.start parsed.messageIdRange.stop) =
        true := by
  obtain ⟨article, hline⟩ := articleLine_of_parseFirstLine h
  have hcode : SP ∉ content.take 3 := by
    unfold parseFirstLine at h
    obtain ⟨firstSpace, hfirst, h⟩ := bind_eq_ok.mp h
    split_ifs at h with hthree
    rw [not_not] at hthree
    subst hthree
    obtain ⟨code, rest, rfl, hlen, hspace⟩ := memchr_eq_some_iff.mp (okOr_eq_ok.mp hfirst)
    rw [← hlen, List.take_left]
    exact hspace
  obtain ⟨again, hagain, hstart, hstop, -⟩ := parseFirstLine_of_articleLine hline hcode
  obtain rfl : again = parsed := Except.ok.inj (hagain.symm.trans h)
  obtain ⟨-, -, hend, hid⟩ := hline.range
  rw [hstart, hstop]
  exact ⟨hend, hid⟩

theorem messageId_of_validateFirstLine
    (h : validateFirstLine buffer ⟨0, firstLineEnd, Nat.zero_le _⟩ = .ok firstLine) :
    ∃ messageId, firstLine.messageId.get buffer = some messageId ∧
      isMessageIdToken messageId = true := by
  obtain ⟨line, hslice, h⟩ := bind_eq_ok.mp h
  obtain ⟨parsed, hparsed, h⟩ := bind_eq_ok.mp h
  obtain ⟨range, hrange, h⟩ := bind_eq_ok.mp h
  obtain ⟨number, -, h⟩ := bind_eq_ok.mp h
  cases h
  obtain ⟨hle, hid⟩ := messageId_of_parseFirstLine hparsed
  have hget := FramedResponse.get_of_slice hslice
  unfold ArticleFrameRange.get at hget
  split_ifs at hget with hinside
  cases hget
  unfold ArticleFrameRange.new at hrange
  split_ifs at hrange with horder
  cases hrange
  simp only [List.extract_eq_take_drop, List.drop_zero, Nat.sub_zero, Nat.zero_add,
    List.length_take] at hle hid ⊢
  have hstop : parsed.messageIdRange.stop ≤ buffer.length := by omega
  refine ⟨_, if_pos hstop, ?_⟩
  rw [← List.drop_take, List.take_take, Nat.min_eq_left (by omega), List.drop_take] at hid
  exact hid

theorem FramedArticle.buffer_of_bounds {contentStart contentEnd lineEnd : Nat}
    {framed : FramedArticle}
    (h : fromKnownContentBounds buffer contentStart contentEnd lineEnd = .ok framed) :
    framed.buffer = buffer := by
  unfold fromKnownContentBounds at h
  split_ifs at h
  obtain ⟨firstLine, -, h⟩ := bind_eq_ok.mp h
  split_ifs at h
  obtain ⟨content, -, h⟩ := bind_eq_ok.mp h
  cases h
  rfl

theorem parseCompatibilityResponse_ne_none (buffer : Bytes) (status : Nat) :
    parseCompatibilityResponse buffer status ≠ .ok none := by
  intro h
  unfold parseCompatibilityResponse at h
  split_ifs at h
  obtain ⟨firstLineEnd, -, h⟩ := bind_eq_ok.mp h
  obtain ⟨range, hrange, h⟩ := bind_eq_ok.mp h
  obtain ⟨firstLine, hfirst, h⟩ := bind_eq_ok.mp h
  obtain ⟨contentEnd, -, h⟩ := bind_eq_ok.mp h
  obtain ⟨framed, hframed, h⟩ := bind_eq_ok.mp h
  obtain ⟨layout, hlayout, hread⟩ := bind_eq_ok.mp h
  rw [ArticleFrameRange.new, dif_pos (Nat.zero_le _)] at hrange
  cases hrange
  obtain ⟨messageId, hget, hid⟩ := messageId_of_validateFirstLine hfirst
  obtain ⟨hsame, hreadable⟩ := FramedResponse.readable_of_validate hlayout
  rw [FramedArticle.buffer_of_bounds hframed] at hreadable
  rw [← hsame] at hget
  obtain ⟨article, harticle⟩ := FramedResponse.exists_materialize hget hid hreadable
  rw [harticle] at hread
  cases hread

theorem ResponseFrame.article_ne_none {frame : ResponseFrame}
    (h : ResponseFrame.parse kind buf = .complete frame) : frame.article ≠ .ok none := by
  rw [ResponseFrame.parse_eq] at h
  cases hone : oneShot kind buf with
  | needMore => simp [hone] at h
  | invalid => simp [hone] at h
  | complete framed =>
    simp only [hone] at h
    obtain ⟨rfl, -, line, hframed⟩ := oneShot_complete hone
    cases hpair : isArticlePair framed.kind framed.status.code with
    | true =>
      have hcheck := checkContent_of_layout hframed hpair
      cases hlayout : framed.validatedLayout with
      | error e =>
        rw [hlayout] at hcheck
        rw [hcheck] at h
        cases h
      | ok layout =>
        rw [hlayout] at hcheck
        obtain ⟨found, hfound, -, hread⟩ := hcheck
        rw [hfound] at h
        cases h
        obtain ⟨article, harticle⟩ := FramedResponse.exists_article hframed hpair hlayout
        rw [hread, harticle]
        simp
    | false =>
      have hgeneric : ∀ validation, validateResponseContent framed.toFrame = some validation →
          validation = .generic := by
        intro validation hsome
        have hnot : ¬ isArticlePair framed.toFrame.kind framed.toFrame.status.code = true := by
          simpa [FramedResponse.toFrame] using hpair
        unfold validateResponseContent at hsome
        rw [if_neg hnot] at hsome
        split_ifs at hsome <;> cases hsome <;> rfl
      unfold checkContent at h
      cases hcontent : validateResponseContent framed.toFrame with
      | none => simp [hcontent] at h
      | some validation =>
        rw [hcontent, hgeneric validation hcontent] at h
        cases h
        rintro ⟨⟩

theorem OwnedArticle.article_ne_none {bytes : Bytes} {response : OwnedResponse}
    {owned : OwnedArticle} (h : ownedFromBytes kind bytes = .ok response)
    (howned : response.intoArticle = .ok owned) : owned.article ≠ none := by
  -- The owned path reads only article responses, and those it has laid out.
  by_cases hne : bytes = []
  · subst hne
    cases h
  rw [ownedFromBytes_eq hne] at h
  cases hone : oneShot kind bytes with
  | needMore => simp [hone, OneShot.outcome] at h
  | invalid => simp [hone, OneShot.outcome] at h
  | complete framed =>
    obtain ⟨rfl, -, line, hframed⟩ := oneShot_complete hone
    cases hinto : framed.intoOwnedResponse with
    | error e => simp [hone, OneShot.outcome, hinto, Except.map] at h
    | ok found =>
      obtain rfl : found = response := by
        simpa [hone, OneShot.outcome, hinto, Except.map] using h
      cases hpair : isArticlePair framed.kind framed.status.code with
      | true =>
        rw [FramedResponse.intoOwnedResponse_of_isArticlePair hpair] at hinto
        cases hinto
        rw [FramedResponse.intoArticle_eq hpair] at howned
        cases hlayout : framed.validatedLayout with
        | error e => simp [hlayout] at howned
        | ok layout =>
          obtain ⟨article, harticle⟩ := FramedResponse.exists_article hframed hpair hlayout
          simp only [hlayout, Except.ok.injEq] at howned
          subst howned
          rw [OwnedArticle.article, harticle]
          simp
      | false =>
        rw [FramedResponse.intoOwnedResponse_generic hframed hpair] at hinto
        split_ifs at hinto
        cases hinto
        unfold OwnedResponse.intoArticle at howned
        dsimp only at howned
        split_ifs at howned

theorem Article.parse_ne_none (buf : Bytes) : Article.parse buf ≠ .ok none := by
  intro h
  obtain ⟨statusCode, -, h⟩ := bind_eq_ok.mp h
  obtain ⟨kind, -, h⟩ := bind_eq_ok.mp h
  split at h
  · exact parseCompatibilityResponse_ne_none _ _ h
  · obtain ⟨parsed, -, h⟩ := bind_eq_ok.mp h
    split at h
    · rename_i frame hframe
      split_ifs at h
      · exact ResponseFrame.article_ne_none hframe h
      · exact parseCompatibilityResponse_ne_none _ _ h
    · exact parseCompatibilityResponse_ne_none _ _ h
    · exact parseCompatibilityResponse_ne_none _ _ h

theorem routes_of_complete (hstatus : StatusCode.parse buf = some status)
    (hpair : isArticlePair kind status.code = true) (hone : oneShot kind buf = .complete framed)
    (hwhole : status.code = 223 → framed.bytes = buf) :
    ((∃ article, Article.parse buf = .ok article) ↔
        ∃ frame, ResponseFrame.parse kind buf = .complete frame) ∧
      ∀ frame, ResponseFrame.parse kind buf = .complete frame →
        ∃ article response owned, Article.parse buf = .ok (some article) ∧
          frame.article = .ok (some article) ∧ ownedFromBytes kind buf = .ok response ∧
          response.intoArticle = .ok owned ∧ owned.article = some article := by
  -- All routes on a response whose end is known.
  have hparse := Article.parse_of_complete hstatus hpair hone hwhole
  have hframe : ResponseFrame.parse kind buf = checkContent framed := by
    rw [ResponseFrame.parse_eq, hone]
  have hne : buf ≠ [] := by
    intro hnil
    have hlength := StatusCode.length_of_parse hstatus
    rw [hnil] at hlength
    exact absurd hlength (by decide)
  have howned : ownedFromBytes kind buf = match framed.intoOwnedResponse.map some with
      | .ok (some response) => .ok response
      | .ok none => .error .unexpectedEof
      | .error e => .error e := by
    rw [ownedFromBytes_eq hne, hone]
    rfl
  obtain ⟨rfl, ⟨more, hmore⟩, line, hframed⟩ := oneShot_complete hone
  rw [← hmore] at hstatus
  obtain rfl := hframed.status_eq hstatus
  have hcheck := checkContent_of_layout hframed hpair
  rw [hparse, hframe]
  cases hlayout : framed.validatedLayout with
  | error e =>
    rw [hlayout] at hcheck
    rw [hcheck]
    refine ⟨⟨?_, ?_⟩, ?_⟩
    · rintro ⟨article, harticle⟩
      cases harticle
    · rintro ⟨frame, hcomplete⟩
      cases hcomplete
    · intro frame hcomplete
      cases hcomplete
  | ok layout =>
    obtain ⟨article, harticle⟩ := FramedResponse.exists_article hframed hpair hlayout
    rw [hlayout] at hcheck
    obtain ⟨frame, hcomplete, -, hread⟩ := hcheck
    rw [hcomplete]
    refine ⟨⟨fun _ => ⟨frame, rfl⟩, fun _ => ⟨_, rfl⟩⟩, ?_⟩
    intro found hfound
    cases hfound
    refine ⟨article, .article framed, ⟨framed.bytes, framed.kind, framed.status, layout⟩,
      ?_, ?_, ?_, ?_, harticle⟩
    · rw [Except.map, harticle]
    · rw [hread, harticle]
    · rw [howned, FramedResponse.intoOwnedResponse_of_isArticlePair hpair]
      rfl
    · rw [FramedResponse.intoArticle_eq hpair, hlayout]

/-- A buffer whose first line is a status line of an article response of at most 512 bytes is
accepted by `Article::parse` exactly when the frame parser finds a complete frame, also in front of
further bytes, and then the frame, the owned path and `Article::parse` give the same article. No
route fails to read a layout it has validated. -/
theorem article_routes_agree (buf : Bytes) (kind : RequestKind) (status : StatusCode) (fin : Nat)
    (hstatus : StatusCode.parse buf = some status)
    (hpair : isArticlePair kind status.code = true) (hline : findCrlfLineEnd buf 0 = some fin)
    (hlimit : fin ≤ MAX_INITIAL_RESPONSE_LINE_BYTES)
    (hstat : status.code = 223 → fin = buf.length) :
    ((∃ article, Article.parse buf = .ok article) ↔
        ∃ frame, ResponseFrame.parse kind buf = .complete frame) ∧
      (∀ frame, ResponseFrame.parse kind buf = .complete frame →
        ∃ article response owned, Article.parse buf = .ok (some article) ∧
          frame.article = .ok (some article) ∧ ownedFromBytes kind buf = .ok response ∧
          response.intoArticle = .ok owned ∧ owned.article = some article) ∧
      ∀ (other : Bytes) (request : RequestKind), Article.parse other ≠ .ok none ∧
        (∀ frame, ResponseFrame.parse request other = .complete frame → frame.article ≠ .ok none) ∧
        ∀ response owned, ownedFromBytes request other = .ok response →
          response.intoArticle = .ok owned → owned.article ≠ none := by
  have hpanics : ∀ (other : Bytes) (request : RequestKind), Article.parse other ≠ .ok none ∧
      (∀ frame, ResponseFrame.parse request other = .complete frame → frame.article ≠ .ok none) ∧
      ∀ response owned, ownedFromBytes request other = .ok response →
        response.intoArticle = .ok owned → owned.article ≠ none := by
    intro other request
    exact ⟨Article.parse_ne_none other, fun frame => ResponseFrame.article_ne_none,
      fun response owned => OwnedArticle.article_ne_none⟩
  by_cases hfound : ∃ framed, oneShot kind buf = .complete framed
  · obtain ⟨framed, hone⟩ := hfound
    have hwhole : status.code = 223 → framed.bytes = buf := by
      intro hcode
      obtain ⟨-, hbytes, line, hframed⟩ := oneShot_complete hone
      have hdetect := findCrlfLineEnd_of_detect (oneShot_ends hone).1
      rw [hline] at hdetect
      cases hdetect
      have hstart := hframed.start_le
      have hstop := hframed.stop_le
      have hlength := hbytes.length_le
      have hfin := hstat hcode
      exact hbytes.eq_of_length (by omega)
    obtain ⟨haccept, hsame⟩ := routes_of_complete hstatus hpair hone hwhole
    exact ⟨haccept, hsame, hpanics⟩
  · simp only [not_exists] at hfound
    have hbound : ∀ stop, detectResponseLineEnd buf = .completeAt stop →
        stop ≤ MAX_INITIAL_RESPONSE_LINE_BYTES := by
      intro stop hstop
      rw [findCrlfLineEnd_of_detect hstop] at hline
      cases hline
      exact hlimit
    obtain ⟨e, herror⟩ := Article.parse_of_incomplete hstatus hpair hbound hfound
    have hnone := ResponseFrame.parse_ne_complete hfound
    refine ⟨⟨?_, ?_⟩, fun frame hframe => absurd hframe (hnone frame), hpanics⟩
    · rintro ⟨article, harticle⟩
      rw [herror] at harticle
      cases harticle
    · rintro ⟨frame, hframe⟩
      exact absurd hframe (hnone frame)

theorem packed_body_routes_agree :
    ∃ frame, ResponseFrame.parse .body (ascii "222 1 <a@b>\r\n..x\r\n.\r\n205 bye\r\n") =
        .complete frame ∧
      frame.article = .ok (some ⟨"<a@b>".toList, some 1, none, some (ascii ".x\r\n")⟩) := by
  have hparse : Article.parse (ascii "222 1 <a@b>\r\n..x\r\n.\r\n205 bye\r\n") =
      .ok (some ⟨"<a@b>".toList, some 1, none, some (ascii ".x\r\n")⟩) := by
    decide +kernel
  obtain ⟨haccept, hsame, -⟩ :=
    article_routes_agree (ascii "222 1 <a@b>\r\n..x\r\n.\r\n205 bye\r\n") .body
      ⟨222, by decide, by decide⟩ 13 (by decide +kernel) (by decide) (by decide +kernel) (by decide)
      (by decide)
  obtain ⟨frame, hframe⟩ := haccept.mp ⟨_, hparse⟩
  obtain ⟨article, response, owned, harticle, hread, -, -, -⟩ := hsame frame hframe
  rw [hparse] at harticle
  cases harticle
  exact ⟨frame, hframe, hread⟩

end NntpBench.Protocol
