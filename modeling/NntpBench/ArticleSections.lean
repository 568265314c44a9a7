import NntpBench.ArticleParse
import NntpBench.HeaderLines

namespace NntpBench.Protocol

open Terminator ListSearch ExceptBind DotTerminatedBlocks

variable {stop separator status : Nat} {line buf content : Bytes} {parsed : ParsedFirstLine}
  {article : Article} {lines : List Bytes}

/-- What a response of a status has in its content: headers, a body, or both. -/
def readSections (status : Nat) (content : Bytes) :
    Except ArticleParseError (Option Headers × Option Bytes) :=
  match status with
  | 220 => do
    let separator ← findBlankLine content 0
    let headers ← Headers.parse (content.take (separator + 2))
    let transformation ← validateBodyContent (content.drop (separator + 4))
    .ok (some headers, some (materializeBody (content.drop (separator + 4)) transformation))
  | 221 =>
    match findBlankLine content 0 with
    | .ok _ => .error .unexpectedBody
    | .error _ => do
      let headers ← Headers.parse content
      .ok (some headers, none)
  | 222 => do
    let transformation ← validateBodyContent content
    .ok (none, some (materializeBody content transformation))
  | code => .error (.invalidStatusCode code)

section View

variable (before content after : Bytes)

/-- The buffer of a response whose content stands between two other parts. -/
def contentView (firstLine : ArticleFrameRange) : FramedArticle :=
  { buffer := before ++ (content ++ after)
    firstLine
    content := ⟨before.length, before.length + content.length, Nat.le_add_right _ _⟩ }

theorem ArticleFrameRange.get_content {start : Nat} (hle : start ≤ stop)
    (hstop : stop ≤ content.length) :
    ArticleFrameRange.get ⟨before.length + start, before.length + stop, Nat.add_le_add_left hle _⟩
      (before ++ (content ++ after)) = some (content.extract start stop) := by
  have hlength : before.length + stop ≤ (before ++ (content ++ after)).length := by
    rw [List.length_append, List.length_append]
    omega
  rw [ArticleFrameRange.get, if_pos hlength]
  dsimp only
  rw [List.extract_eq_take_drop, List.extract_eq_take_drop, ← List.drop_drop, List.drop_left,
    Nat.add_sub_add_left, List.drop_append_of_le_length (hle.trans hstop),
    List.take_append_of_le_length]
  rw [List.length_drop]
  omega

theorem contentHead_view (firstLine : ArticleFrameRange) :
    (contentView before content after firstLine).contentHead = .ok (before ++ content) := by
  have hle : before.length + content.length ≤ (before ++ (content ++ after)).length := by
    rw [List.length_append, List.length_append]
    omega
  unfold FramedArticle.contentHead contentView
  rw [if_pos hle, List.take_length_add_append, List.take_left]

theorem findBlankLine_append :
    findBlankLine (before ++ content) before.length =
      (findBlankLine content 0).map (before.length + ·) := by
  unfold findBlankLine
  rw [List.drop_left, List.drop_zero]
  cases findSub (ascii "\r\n\r\n") content with
  | none => rfl
  | some separator => simp [okOr, Except.map]

theorem slice_content {start : Nat} (hle : start ≤ stop) (hstop : stop ≤ content.length) :
    ArticleFrameRange.slice ⟨before.length + start, before.length + stop, Nat.add_le_add_left hle _⟩
      (before ++ (content ++ after)) = .ok (content.extract start stop) := by
  rw [ArticleFrameRange.slice, ArticleFrameRange.get_content before content after hle hstop]
  rfl

def articleRanges (separator : Nat) (h : separator + 4 ≤ content.length) :
    ArticleFrameRange × ArticleFrameRange :=
  (⟨before.length + 0, before.length + (separator + 2), by omega⟩,
    ⟨before.length + (separator + 4), before.length + content.length, by omega⟩)

theorem validateArticleContent_view (firstLine : ArticleFrameRange)
    (h : findBlankLine content 0 = .ok separator) :
    (contentView before content after firstLine).validateArticleContent =
      (validateHeaders (content.take (separator + 2)) >>= fun headerTransformation =>
        validateBodyContent (content.drop (separator + 4)) >>= fun bodyTransformation =>
          .ok (.article (articleRanges before content separator (end_le_of_findBlankLine h)).1
            headerTransformation
              (articleRanges before content separator (end_le_of_findBlankLine h)).2
            bodyTransformation)) := by
  have hend := end_le_of_findBlankLine h
  have hheaders : ArticleFrameRange.new before.length (before.length + separator + 2) =
      .ok (articleRanges before content separator hend).1 := by
    rw [ArticleFrameRange.new, dif_pos (by omega)]
    rfl
  have hbody : ArticleFrameRange.new (before.length + separator + 2 + 2)
      (before.length + content.length) = .ok (articleRanges before content separator hend).2 := by
    rw [ArticleFrameRange.new, dif_pos (by omega)]
    rfl
  have hheaderSlice : (articleRanges before content separator hend).1.slice
      (before ++ (content ++ after)) = .ok (content.take (separator + 2)) := by
    rw [articleRanges, slice_content before content after (by omega) (by omega)]
    simp
  have hbodySlice : (articleRanges before content separator hend).2.slice
      (before ++ (content ++ after)) = .ok (content.drop (separator + 4)) := by
    rw [articleRanges, slice_content before content after (by omega) (by omega),
      List.extract_eq_take_drop, List.take_of_length_le]
    rw [List.length_drop]
  unfold FramedArticle.validateArticleContent
  rw [contentHead_view, ok_bind]
  have hblank := findBlankLine_append before content
  rw [h] at hblank
  change findBlankLine (before ++ content) before.length >>= _ = _
  rw [hblank]
  change (ArticleFrameRange.new before.length (before.length + separator + 2) >>= _) = _
  rw [hheaders, ok_bind]
  change ((articleRanges before content separator hend).1.slice (before ++ (content ++ after)) >>=
    _) = _
  rw [hheaderSlice, ok_bind]
  congr 1
  funext headerTransformation
  dsimp only
  rw [if_neg (by change ¬ before.length + separator + 2 + 2 > before.length +
    content.length; omega)]
  change (ArticleFrameRange.new (before.length + separator + 2 + 2)
    (before.length + content.length) >>= _) = _
  rw [hbody, ok_bind]
  change ((articleRanges before content separator hend).2.slice (before ++ (content ++ after)) >>=
    _) = _
  rw [hbodySlice, ok_bind]

theorem get_headerRange (h : separator + 4 ≤ content.length) :
    (articleRanges before content separator h).1.get (before ++ (content ++ after)) =
      some (content.take (separator + 2)) := by
  rw [articleRanges, ArticleFrameRange.get_content before content after (by omega) (by omega)]
  simp

theorem get_bodyRange (h : separator + 4 ≤ content.length) :
    (articleRanges before content separator h).2.get (before ++ (content ++ after)) =
      some (content.drop (separator + 4)) := by
  rw [articleRanges, ArticleFrameRange.get_content before content after (by omega) (by omega),
    List.extract_eq_take_drop, List.take_of_length_le]
  rw [List.length_drop]

theorem get_contentRange (h : before.length ≤ before.length + content.length) :
    ArticleFrameRange.get ⟨before.length, before.length + content.length, h⟩
      (before ++ (content ++ after)) = some content := by
  have hget := ArticleFrameRange.get_content before content after (Nat.zero_le content.length)
    (Nat.le_refl _)
  simpa using hget

theorem slice_contentRange (h : before.length ≤ before.length + content.length) :
    ArticleFrameRange.slice ⟨before.length, before.length + content.length, h⟩
      (before ++ (content ++ after)) = .ok content := by
  rw [ArticleFrameRange.slice, get_contentRange]
  rfl

theorem validateHeadContent_view (firstLine : ArticleFrameRange) :
    (contentView before content after firstLine).validateHeadContent =
      match findBlankLine content 0 with
      | .ok _ => .error .unexpectedBody
      | .error _ => validateHeaders content >>= fun headerTransformation =>
        .ok (.head ⟨before.length, before.length + content.length, Nat.le_add_right _ _⟩
          headerTransformation) := by
  have hblank := findBlankLine_append before content
  have hslice := slice_contentRange before content after (Nat.le_add_right _ _)
  unfold FramedArticle.validateHeadContent
  rw [contentHead_view, ok_bind]
  simp only [contentView]
  rw [hblank, hslice]
  cases findBlankLine content 0 <;> rfl

theorem validateBody_view (firstLine : ArticleFrameRange) :
    (contentView before content after firstLine).validateBody =
      (validateBodyContent content >>= fun bodyTransformation =>
        .ok (.body ⟨before.length, before.length + content.length, Nat.le_add_right _ _⟩
          bodyTransformation)) := by
  have hslice := slice_contentRange before content after (Nat.le_add_right _ _)
  unfold FramedArticle.validateBody
  simp only [contentView]
  rw [hslice, ok_bind]

def sectionsArticle (messageId : Option Str) (articleNumber : Nat)
    (sections : Option Headers × Option Bytes) : Option Article :=
  messageId.map fun messageId =>
    { messageId, articleNumber := some articleNumber, headers := sections.1, body := sections.2 }

theorem materialize_view (range : ArticleFrameRange) (firstLine : ValidatedFirstLine)
    (hstatus : status = 220 ∨ status = 221 ∨ status = 222) :
    ((contentView before content after range).validateForStatusWithFirstLine status firstLine).map
        (fun layout => layout.materialize (before ++ (content ++ after))) =
      (readSections status content).map
        (sectionsArticle ((firstLine.messageId.get (before ++ (content ++ after))).bind fromUtf8)
          firstLine.articleNumber) := by
  -- The layout of a response reads the sections of its content.
  generalize hid : (firstLine.messageId.get (before ++ (content ++ after))).bind fromUtf8 =
    messageId
  unfold FramedArticle.validateForStatusWithFirstLine FramedArticle.validateContent readSections
  rcases hstatus with rfl | rfl | rfl
  · -- an article
    cases hblank : findBlankLine content 0 with
    | error e =>
      have happend := findBlankLine_append before content
      rw [hblank] at happend
      unfold FramedArticle.validateArticleContent
      rw [contentHead_view, ok_bind]
      change Except.map _ ((findBlankLine (before ++ content) before.length >>= _) >>= _) = _
      rw [happend]
      rfl
    | ok separator =>
      rw [validateArticleContent_view before content after range hblank, ok_bind, Headers.parse]
      cases validateHeaders (content.take (separator + 2)) with
      | error e => rfl
      | ok headerTransformation =>
        simp only [ok_bind]
        cases validateBodyContent (content.drop (separator + 4)) with
        | error e => rfl
        | ok bodyTransformation =>
          simp only [ok_bind, Except.map, ArticleLayout.materialize, hid, get_headerRange,
            get_bodyRange]
          cases messageId <;> rfl
  · -- a head
    rw [validateHeadContent_view]
    cases findBlankLine content 0 with
    | ok separator => rfl
    | error e =>
      dsimp only
      rw [Headers.parse]
      cases validateHeaders content with
      | error e => rfl
      | ok headerTransformation =>
        simp only [ok_bind, Except.map, ArticleLayout.materialize, hid, get_contentRange]
        cases messageId <;> rfl
  · -- a body
    rw [validateBody_view]
    cases validateBodyContent content with
    | error e => rfl
    | ok bodyTransformation =>
      simp only [ok_bind, Except.map, ArticleLayout.materialize, hid, get_contentRange]
      cases messageId <;> rfl

end View

theorem le_max_of_parseResponseArticleNumber {value : Bytes} {number : Nat}
    (h : parseResponseArticleNumber value = some number) : number ≤ MAX_ARTICLE_NUMBER := by
  unfold parseResponseArticleNumber at h
  split_ifs at h with hinvalid hmax
  cases h
  exact hmax

theorem text_of_parseFirstLine (h : parseFirstLine line = .ok parsed) :
    fromUtf8 (line.extract parsed.messageIdRange.start parsed.messageIdRange.stop) =
        some parsed.messageId.value ∧
      ∃ number, parsed.articleNumber = some number ∧ number ≤ MAX_ARTICLE_NUMBER := by
  -- The fields of an accepted first line are its text.
  unfold parseFirstLine at h
  obtain ⟨firstSpace, -, h⟩ := bind_eq_ok.mp h
  split_ifs at h
  obtain ⟨secondSpace, -, h⟩ := bind_eq_ok.mp h
  obtain ⟨number, hnumber, h⟩ := bind_eq_ok.mp h
  dsimp only at h
  split_ifs at h
  obtain ⟨msgidEnd, -, h⟩ := bind_eq_ok.mp h
  split_ifs at h
  obtain ⟨msgid, hutf8, h⟩ := bind_eq_ok.mp h
  obtain ⟨messageId, hid, h⟩ := bind_eq_ok.mp h
  obtain ⟨range, hrange, h⟩ := bind_eq_ok.mp h
  cases h
  rw [okOr_eq_ok] at hutf8 hid
  rw [articleNumberFromToken, okOr_eq_ok] at hnumber
  unfold MessageId.fromBorrowed at hid
  split_ifs at hid with hvalid
  cases hid
  unfold ArticleFrameRange.new at hrange
  split_ifs at hrange
  cases hrange
  exact ⟨hutf8, number, rfl, le_max_of_parseResponseArticleNumber hnumber⟩

/-- A first line with the message-id and the number that are read from it. -/
def FirstLine (line : Bytes) (messageId : Str) (number : Nat) : Prop :=
  ∃ parsed, parseFirstLine line = .ok parsed ∧ parsed.messageId.value = messageId ∧
    parsed.articleNumber = some number

theorem slice_firstLine (line rest : Bytes) :
    ArticleFrameRange.slice ⟨0, line.length, Nat.zero_le _⟩ (line ++ CR :: LF :: rest) =
      .ok line := by
  have hle : line.length ≤ (line ++ CR :: LF :: rest).length := by
    rw [List.length_append]
    omega
  unfold ArticleFrameRange.slice ArticleFrameRange.get
  rw [if_pos hle, List.extract_eq_take_drop, List.drop_zero, Nat.sub_zero, List.take_left]
  rfl

section Response

variable {line : Bytes} (hline : IsLineContent line) (rest : Bytes)

theorem validateFirstLine_eq (h : parseFirstLine line = .ok parsed) :
    ∃ firstLine number, parsed.articleNumber = some number ∧
      validateFirstLine (line ++ CR :: LF :: rest) ⟨0, line.length, Nat.zero_le _⟩ = .ok firstLine ∧
      (firstLine.messageId.get (line ++ CR :: LF :: rest)).bind fromUtf8 =
        some parsed.messageId.value ∧
      firstLine.articleNumber = number := by
  obtain ⟨htext, number, hnumber, -⟩ := text_of_parseFirstLine h
  have hstop := (messageId_of_parseFirstLine h).1
  have hslice := slice_firstLine line rest
  have hnew : ArticleFrameRange.new (0 + parsed.messageIdRange.start)
      (0 + parsed.messageIdRange.stop) = .ok parsed.messageIdRange := by
    simp only [ArticleFrameRange.new, Nat.zero_add, dif_pos parsed.messageIdRange.le]
  refine ⟨⟨parsed.messageIdRange, number⟩, number, hnumber, ?_, ?_, rfl⟩
  · unfold validateFirstLine
    simp only [hslice, h, ok_bind, hnew, hnumber, okOr]
  · have hget : parsed.messageIdRange.get (line ++ CR :: LF :: rest) =
        some (line.extract parsed.messageIdRange.start parsed.messageIdRange.stop) := by
      have hwhole := ArticleFrameRange.get_append hstop (CR :: LF :: rest)
      rw [hwhole, ArticleFrameRange.get, if_pos hstop]
    rw [hget, Option.bind_some, htext]

include hline in
theorem strictCrlfLineContentEndFrom_line :
    strictCrlfLineContentEndFrom (line ++ CR :: LF :: rest) 0 = some line.length := by
  rw [strictCrlfLineContentEndFrom, detectResponseLineEndFrom, getFrom_zero]
  simp [detectResponseLineEnd_line hline rest]

variable {status : Nat} (hstatus : status = 220 ∨ status = 221 ∨ status = 222)
include hline hstatus

omit hline hstatus in
theorem fromKnownContentBounds_view {contentEnd : Nat} (hle : contentEnd ≤ rest.length) :
    FramedArticle.fromKnownContentBounds (line ++ CR :: LF :: rest) (line.length + 2)
      (line.length + 2 + contentEnd) (line.length + 2) =
        .ok (contentView (line ++ CRLF) (rest.take contentEnd) (rest.drop contentEnd)
          ⟨0, line.length, Nat.zero_le _⟩) := by
  have hlength : (rest.take contentEnd).length = contentEnd := by
    rw [List.length_take, Nat.min_eq_left hle]
  have hbefore : (line ++ CRLF).length = line.length + 2 := List.length_append
  have hbuffer : line ++ CR :: LF :: rest =
      (line ++ CRLF) ++ (rest.take contentEnd ++ rest.drop contentEnd) := by
    rw [List.take_append_drop, crlf_eq]
    simp
  have hinside : line.length + 2 + contentEnd ≤ (line ++ CR :: LF :: rest).length := by
    rw [List.length_append, List.length_cons, List.length_cons]
    omega
  have hcrlf : (line ++ CR :: LF :: rest).extract line.length (line.length + 2) = CRLF := by
    rw [List.extract_eq_take_drop, List.drop_left, Nat.add_sub_cancel_left]
    rfl
  unfold FramedArticle.fromKnownContentBounds contentView
  rw [if_neg (by omega), length_crlf, if_neg (by omega)]
  simp only [Nat.add_sub_cancel, ArticleFrameRange.new, Nat.zero_le, dif_pos, ok_bind, hcrlf,
    ne_eq, not_true_eq_false, or_false, if_false, Nat.le_add_right, hbefore, hlength, ← hbuffer]

theorem parseCompatibilityResponse_line (hfirst : parseFirstLine line = .ok parsed)
    {contentEnd blockEnd : Nat} (hbounds : bounds rest = some (contentEnd, blockEnd)) :
    ∃ number, parsed.articleNumber = some number ∧
      parseCompatibilityResponse (line ++ CR :: LF :: rest) status =
        (readSections status (rest.take contentEnd)).map
          (sectionsArticle (some parsed.messageId.value) number) := by
  -- What the compatibility parser makes of a response, from its first line and its content.
  obtain ⟨firstLine, number, hnumber, hvalid, htext, hsame⟩ := validateFirstLine_eq rest hfirst
  refine ⟨number, hnumber, ?_⟩
  have hend := bounds_spec hbounds
  have hle : contentEnd ≤ rest.length := by
    rw [length_dot_terminator] at hend
    omega
  have hbuffer : line ++ CR :: LF :: rest =
      (line ++ CRLF) ++ (rest.take contentEnd ++ rest.drop contentEnd) := by
    rw [List.take_append_drop, crlf_eq]
    simp
  have hdrop : (line ++ CR :: LF :: rest).drop (line.length + 2) = rest := by
    rw [← List.drop_drop, List.drop_left]
    rfl
  have hcontentEnd : compatibilityContentEnd (line ++ CR :: LF :: rest) status (line.length + 2) =
      .ok (line.length + 2 + contentEnd) := by
    have hinside : line.length + 2 ≤ (line ++ CR :: LF :: rest).length := by
      rw [List.length_append, List.length_cons, List.length_cons]
      omega
    unfold compatibilityContentEnd
    rw [if_neg (by omega), findArticleContentEnd_eq hinside, hdrop, hbounds]
    rfl
  have hview := @fromKnownContentBounds_view line rest _ hle
  have hmaterialize := materialize_view (line ++ CRLF) (rest.take contentEnd) (rest.drop contentEnd)
    ⟨0, line.length, Nat.zero_le _⟩ firstLine hstatus
  rw [← hbuffer, htext, hsame] at hmaterialize
  rw [← hmaterialize]
  have hnew : ArticleFrameRange.new 0 line.length = .ok ⟨0, line.length, Nat.zero_le _⟩ :=
    dif_pos (Nat.zero_le _)
  unfold parseCompatibilityResponse
  rw [if_neg (by omega), strictCrlfLineContentEndFrom_line hline]
  simp only [okOr, ok_bind, hnew, hvalid, length_crlf, hcontentEnd, hview]
  cases FramedArticle.validateForStatusWithFirstLine _ status firstLine <;> rfl

end Response

/-- A response of a status in a buffer, with its parts and the article they say. -/
structure ArticleResponse (status : Nat) (buf line content more : Bytes)
    (article : Article) : Prop where
  buf_eq : buf = line ++ CR :: LF :: (content ++ DOT_TERMINATOR ++ more)
  isLine : IsLineContent line
  ends : bounds (content ++ DOT_TERMINATOR ++ more) =
    some (content.length, content.length + DOT_TERMINATOR.length)
  firstLine : ∃ number, FirstLine line article.messageId number ∧
    article.articleNumber = some number
  sections : readSections status content = .ok (article.headers, article.body)

theorem eq_of_bounds {rest : Bytes} {contentEnd blockEnd : Nat}
    (h : bounds rest = some (contentEnd, blockEnd)) :
    ∃ more, rest = rest.take contentEnd ++ DOT_TERMINATOR ++ more ∧
      (rest.take contentEnd).length = contentEnd := by
  have hend := bounds_spec h
  rw [length_dot_terminator] at hend
  have hdot : DOT_TERMINATOR <+: rest.drop contentEnd := by
    by_cases hempty : DOT_TERMINATOR <+: rest
    · rw [bounds_of_empty hempty] at h
      cases h
      exact hempty
    · rw [bounds_of_content hempty] at h
      obtain ⟨i, hi, hpair⟩ := Option.map_eq_some_iff.mp h
      cases hpair
      obtain ⟨after, hafter⟩ := (findSub_eq_some_iff.mp hi).2.1
      refine ⟨after, ?_⟩
      rw [← List.drop_drop, ← hafter, terminator_eq]
      rfl
  obtain ⟨more, hmore⟩ := hdot
  refine ⟨more, ?_, ?_⟩
  · rw [List.append_assoc, hmore, List.take_append_drop]
  · rw [List.length_take]
    omega

theorem sectionsArticle_eq_some {messageId : Str} {number : Nat}
    {sections : Option Headers × Option Bytes}
    (h : sectionsArticle (some messageId) number sections = some article) :
    article.messageId = messageId ∧ article.articleNumber = some number ∧
      sections = (article.headers, article.body) := by
  cases h
  exact ⟨rfl, rfl, rfl⟩

theorem Article.parse_eq_ok_iff {status : StatusCode} (hstatus : StatusCode.parse buf = some status)
    (hcode : status.code = 220 ∨ status.code = 221 ∨ status.code = 222) :
    Article.parse buf = .ok (some article) ↔
      ∃ line content more, ArticleResponse status.code buf line content more article := by
  -- `Article::parse` on a response with content, in terms of its lines.
  have hpair : ∃ kind, isArticlePair kind status.code = true := by
    rcases hcode with h | h | h
    · exact ⟨.article, by rw [h]; rfl⟩
    · exact ⟨.head, by rw [h]; rfl⟩
    · exact ⟨.body, by rw [h]; rfl⟩
  obtain ⟨kind, hpair⟩ := hpair
  rw [Article.parse_eq_parseCompatibilityResponse hstatus hpair (by omega)]
  constructor
  · intro hparse
    obtain ⟨firstLineEnd, contentEnd, hend, hcontent⟩ := of_parseCompatibilityResponse hparse
    obtain ⟨line, rest, rfl, hline, rfl⟩ := exists_line_of_strictCrlfLineContentEnd hend
    have hdrop : (line ++ CR :: LF :: rest).drop (line.length + 2) = rest := by
      rw [← List.drop_drop, List.drop_left]
      rfl
    have hinside : line.length + 2 ≤ (line ++ CR :: LF :: rest).length := by
      rw [List.length_append, List.length_cons, List.length_cons]
      omega
    -- without an end of its block the response is refused
    cases hbounds : bounds rest with
    | none =>
      unfold compatibilityContentEnd at hcontent
      rw [if_neg (by omega), length_crlf, findArticleContentEnd_eq hinside, hdrop,
        hbounds] at hcontent
      exact (missingTerminatorError_ne_ok _ _ _ _ hcontent).elim
    | some found =>
      obtain ⟨contentEnd, blockEnd⟩ := found
      cases hfirst : parseFirstLine line with
      | error e =>
        have hslice : ArticleFrameRange.slice ⟨0, line.length, Nat.zero_le _⟩
            (line ++ CR :: LF :: rest) = .ok line := slice_firstLine line rest
        have hnew : ArticleFrameRange.new 0 line.length = .ok ⟨0, line.length, Nat.zero_le _⟩ :=
          dif_pos (Nat.zero_le _)
        unfold parseCompatibilityResponse validateFirstLine at hparse
        rw [if_neg (by omega), hend] at hparse
        simp only [okOr, ok_bind, hnew, hslice, hfirst] at hparse
        cases hparse
      | ok parsed =>
        obtain ⟨number, hnumber, hread⟩ :=
          parseCompatibilityResponse_line hline rest hcode hfirst hbounds
        obtain ⟨more, hmore, hlength⟩ := eq_of_bounds hbounds
        rw [hparse] at hread
        cases hsections : readSections status.code (rest.take contentEnd) with
        | error e =>
          rw [hsections] at hread
          cases hread
        | ok sections =>
          rw [hsections] at hread
          obtain ⟨hid, hnumber', hsame⟩ := sectionsArticle_eq_some (Except.ok.inj hread).symm
          refine ⟨line, rest.take contentEnd, more, by rw [← hmore], hline, ?_, ?_, ?_⟩
          · rw [← hmore, hbounds, hlength, (bounds_spec hbounds).1]
          · exact ⟨number, ⟨parsed, hfirst, hid.symm, hnumber⟩, hnumber'⟩
          · rw [hsections, hsame]
  · rintro ⟨line, content, more, rfl, hline, hends, ⟨number, ⟨parsed, hfirst, hid, hnumber⟩,
      harticle⟩, hsections⟩
    obtain ⟨found, hfound, hread⟩ := parseCompatibilityResponse_line hline _ hcode hfirst hends
    rw [hnumber] at hfound
    cases hfound
    rw [hread, List.append_assoc, List.take_left, hsections, hid]
    obtain ⟨messageId, articleNumber, headers, body⟩ := article
    cases harticle
    rfl

theorem separator_eq : ascii "\r\n\r\n" = CR :: LF :: CRLF := by decide

theorem findBlankLine_zero_eq_ok :
    findBlankLine content 0 = .ok separator ↔
      findSub (ascii "\r\n\r\n") content = some separator := by
  rw [findBlankLine, okOr_eq_ok, List.drop_zero]
  simp

theorem exists_separator_of_empty {first : Bytes} {rest : List Bytes} (h : [] ∈ rest) :
    ∃ i, ascii "\r\n\r\n" <+: (wireLines (first :: rest)).drop i := by
  obtain ⟨before, after, rfl⟩ := List.append_of_mem h
  -- the line before the empty one ends right in front of it
  obtain ⟨init, last, hinit⟩ : ∃ init last, first :: before = init ++ [last] :=
    ⟨_, _, (List.dropLast_append_getLast (List.cons_ne_nil first before)).symm⟩
  have hlines : first :: (before ++ [] :: after) = init ++ last :: [] :: after := by
    rw [← List.cons_append, hinit, List.append_assoc, List.singleton_append]
  refine ⟨(wireLines init).length + last.length, wireLines after, ?_⟩
  rw [hlines, wireLines_append, wireLines_cons, wireLines_cons, ← List.drop_drop, List.drop_left,
    List.drop_left]
  rfl

theorem content_of_separator (h : findBlankLine content 0 = .ok separator) :
    content = content.take (separator + 2) ++ CRLF ++ content.drop (separator + 4) := by
  rw [findBlankLine_zero_eq_ok, findSub_eq_some_iff] at h
  obtain ⟨hle, ⟨rest, hrest⟩, -⟩ := h
  have hsplit : content = content.take separator ++ (CRLF ++ CRLF ++ rest) := by
    have happend := (List.take_append_drop separator content).symm
    rw [← hrest, separator_eq] at happend
    exact happend
  have hlength : (content.take separator).length = separator := by
    rw [List.length_take, Nat.min_eq_left hle]
  generalize content.take separator = before at hsplit hlength
  subst hlength
  subst hsplit
  have htake : (before ++ (CRLF ++ CRLF ++ rest)).take (before.length + 2) = before ++ CRLF := by
    rw [List.take_length_add_append]
    rfl
  have hdrop : (before ++ (CRLF ++ CRLF ++ rest)).drop (before.length + 4) = rest := by
    rw [← List.drop_drop, List.drop_left]
    rfl
  rw [htake, hdrop]
  simp

theorem head_of_readSections {headers : Option Headers} {body : Option Bytes}
    (h : readSections 221 content = .ok (headers, body)) :
    ∃ parsed, findSub (ascii "\r\n\r\n") content = none ∧ Headers.parse content = .ok parsed ∧
      headers = some parsed ∧ body = none := by
  unfold readSections at h
  cases hblank : findBlankLine content 0 with
  | ok separator =>
    rw [hblank] at h
    cases h
  | error e =>
    rw [hblank] at h
    obtain ⟨parsed, hparsed, h⟩ := bind_eq_ok.mp h
    cases h
    refine ⟨parsed, ?_, hparsed, rfl, rfl⟩
    cases hfind : findSub (ascii "\r\n\r\n") content with
    | none => rfl
    | some separator =>
      rw [findBlankLine_zero_eq_ok.mpr hfind] at hblank
      cases hblank

theorem empty_not_mem_tail_of_headers (hlines : content.take stop = wireLines lines)
    (hnone : ∀ i, i + 4 ≤ stop → ¬ ascii "\r\n\r\n" <+: content.drop i) : [] ∉ lines.tail := by
  intro hmem
  cases lines with
  | nil => cases hmem
  | cons first rest =>
    obtain ⟨i, hi⟩ : ∃ i, ascii "\r\n\r\n" <+: (wireLines (first :: rest)).drop i :=
      exists_separator_of_empty hmem
    rw [← hlines, List.drop_take] at hi
    have hlength := hi.length_le
    have hfour : (ascii "\r\n\r\n").length = 4 := by decide
    rw [hfour, List.length_take] at hlength
    exact hnone i (by omega) (hi.trans (List.take_prefix _ _))

theorem empty_not_mem_of_headers (hlines : content.take stop = wireLines lines)
    (hempty : ¬ CRLF <+: content)
    (hnone : ∀ i, i + 4 ≤ stop → ¬ ascii "\r\n\r\n" <+: content.drop i) : [] ∉ lines := by
  have htail := empty_not_mem_tail_of_headers hlines hnone
  intro hmem
  cases lines with
  | nil => cases hmem
  | cons first rest =>
    have hfirst := (List.mem_cons.mp hmem).resolve_right htail
    apply hempty
    have hstart : CRLF <+: content.take stop := by
      rw [hlines, ← hfirst, wireLines_cons]
      exact ⟨wireLines rest, rfl⟩
    exact hstart.trans (List.take_prefix _ _)

/-- The headers and the body of a content, around its first empty line. -/
def SplitAtFirstEmptyLine (content headers body : Bytes) : Prop :=
  content = headers ++ CRLF ++ body ∧
    ∃ lines, headers = wireLines lines ∧ lines ≠ [] ∧ ∀ line ∈ lines, IsLineContent line ∧ line ≠ []

theorem not_crlf_isPrefix_line (hline : IsLineContent line) (hne : line ≠ [])
    (rest : Bytes) : ¬ CRLF <+: line ++ rest := by
  match line, hline, hne with
  | byte :: line, hline, _ =>
    intro hstart
    rw [crlf_eq, List.cons_append, List.cons_prefix_cons] at hstart
    exact (isLineContent_cons.mp hline).1 hstart.1.symm

theorem ne_nil_of_any (h : lines.any isFieldLine = true) : lines ≠ [] := by
  rintro rfl
  cases h

/-- The status line of a response and its content, up to the dot line that the parser finds. -/
structure IsContent (buf line content : Bytes) : Prop where
  isLine : IsLineContent line
  parts : ∃ more, buf = line ++ CRLF ++ content ++ DOT_TERMINATOR ++ more
  ends : findArticleContentEnd buf (line.length + 2) = some (line.length + 2 + content.length)

theorem IsContent.unique {line' content' : Bytes} (h : IsContent buf line content)
    (h' : IsContent buf line' content') : line = line' ∧ content = content' := by
  obtain ⟨more, hparts⟩ := h.parts
  obtain ⟨more', hparts'⟩ := h'.parts
  have hline : line ++ CR :: LF :: (content ++ DOT_TERMINATOR ++ more) =
      line' ++ CR :: LF :: (content' ++ DOT_TERMINATOR ++ more') := by
    rw [hparts, crlf_eq] at hparts'
    simpa using hparts'
  obtain ⟨rfl, hrest⟩ := line_append_inj h.isLine h'.isLine hline
  have hends := h.ends
  rw [h'.ends, Option.some.injEq] at hends
  have hcontent : content ++ (DOT_TERMINATOR ++ more) = content' ++ (DOT_TERMINATOR ++ more') := by
    simpa using hrest
  exact ⟨rfl, (List.append_inj hcontent (by omega)).1⟩

theorem ArticleResponse.isContent {more : Bytes}
    (h : ArticleResponse status buf line content more article) : IsContent buf line content := by
  refine ⟨h.isLine, ⟨more, ?_⟩, ?_⟩
  · rw [h.buf_eq, crlf_eq]
    simp
  · have hdrop : buf.drop (line.length + 2) = content ++ DOT_TERMINATOR ++ more := by
      rw [h.buf_eq, ← List.drop_drop, List.drop_left]
      rfl
    have hinside : line.length + 2 ≤ buf.length := by
      rw [h.buf_eq, List.length_append, List.length_cons, List.length_cons]
      omega
    rw [findArticleContentEnd_eq hinside, hdrop, h.ends]
    rfl

/-- The bytes of the header range and of the body range that `validate_article_content` finds, from
which the article is read. -/
def RawSections (buf line content : Bytes) (article : Article)
    (rawHeaders rawBody : Bytes) : Prop :=
  ∃ framed headers headerTransformation body bodyTransformation,
    FramedArticle.fromKnownContentBounds buf (line.length + 2) (line.length + 2 + content.length)
      (line.length + 2) = .ok framed ∧
    framed.validateArticleContent =
      .ok (.article headers headerTransformation body bodyTransformation) ∧
    headers.get buf = some rawHeaders ∧ body.get buf = some rawBody ∧
    article.headers = some (Headers.fromTransformation rawHeaders headerTransformation) ∧
    article.body = some (materializeBody rawBody bodyTransformation)

theorem ArticleResponse.exists_rawSections {more : Bytes}
    (h : ArticleResponse 220 buf line content more article) :
    ∃ separator headers, findBlankLine content 0 = .ok separator ∧
      Headers.parse (content.take (separator + 2)) = .ok headers ∧ article.headers = some headers ∧
      RawSections buf line content article (content.take (separator + 2))
        (content.drop (separator + 4)) := by
  -- The sections of an article, on both sides of its separator.
  have hsections := h.sections
  unfold readSections at hsections
  obtain ⟨separator, hblank, hsections⟩ := bind_eq_ok.mp hsections
  obtain ⟨headers, hheaders, hsections⟩ := bind_eq_ok.mp hsections
  obtain ⟨bodyTransformation, hbody, hsections⟩ := bind_eq_ok.mp hsections
  obtain ⟨hsameHeaders, hsameBody⟩ := Prod.mk.inj (Except.ok.inj hsections)
  obtain ⟨headerTransformation, hvalid, hread⟩ := bind_eq_ok.mp hheaders
  have hend := end_le_of_findBlankLine hblank
  have hinside : content.length ≤ (content ++ DOT_TERMINATOR ++ more).length := by
    rw [List.append_assoc, List.length_append]
    omega
  have hview := @fromKnownContentBounds_view line _ _ hinside
  rw [← h.buf_eq, List.append_assoc, List.take_left, List.drop_left] at hview
  have hlayout := validateArticleContent_view (line ++ CRLF) content (DOT_TERMINATOR ++ more)
    ⟨0, line.length, Nat.zero_le _⟩ hblank
  have hbuffer : buf = (line ++ CRLF) ++ (content ++ (DOT_TERMINATOR ++ more)) := by
    rw [h.buf_eq, crlf_eq]
    simp
  refine ⟨separator, headers, hblank, hheaders, hsameHeaders.symm, _,
    (articleRanges (line ++ CRLF) content separator hend).1, headerTransformation,
    (articleRanges (line ++ CRLF) content separator hend).2, bodyTransformation, hview, ?_, ?_,
      ?_, ?_,
    hsameBody.symm⟩
  · rw [hlayout, hvalid, hbody]
    rfl
  · rw [hbuffer]
    exact get_headerRange _ _ _ hend
  · rw [hbuffer]
    exact get_bodyRange _ _ _ hend
  · rw [← hsameHeaders, ← Except.ok.inj hread]

theorem not_crlf_isPrefix_wireLines (h : ∀ line ∈ lines, IsLineContent line ∧ line ≠ [])
    (hne : lines ≠ []) (rest : Bytes) :
    ¬ CRLF <+: wireLines lines ++ rest := by
  match lines, hne with
  | first :: others, _ =>
    rw [List.forall_mem_cons] at h
    rw [wireLines_cons, List.append_assoc]
    exact not_crlf_isPrefix_line h.1.1 h.1.2 _

/-- **An article is split at its first empty line exactly if it does not start with one.** In the
same way a head has no empty line exactly if it does not start with one. -/
theorem article_split_at_first_empty_line_iff (buf : Bytes) (status : StatusCode)
    (article : Article)
    (hstatus : StatusCode.parse buf = some status)
    (hparse : Article.parse buf = .ok (some article)) :
    (status.code = 220 → ∃ line content rawHeaders rawBody, IsContent buf line content ∧
      RawSections buf line content article rawHeaders rawBody ∧
      (SplitAtFirstEmptyLine content rawHeaders rawBody ↔ ¬ CRLF <+: content)) ∧
    (status.code = 221 → ∃ line content, IsContent buf line content ∧
      ((∃ lines, content = wireLines lines ∧ ∀ line ∈ lines, IsLineContent line ∧ line ≠ []) ↔
        ¬ CRLF <+: content)) := by
  constructor
  · intro hcode
    obtain ⟨line, content, more, hresponse⟩ :=
      (Article.parse_eq_ok_iff hstatus (Or.inl hcode)).mp hparse
    rw [hcode] at hresponse
    obtain ⟨separator, headers, hblank, hheaders, -, hraw⟩ := hresponse.exists_rawSections
    refine ⟨line, content, _, _, hresponse.isContent, hraw, ?_⟩
    have hcontent := content_of_separator hblank
    constructor
    · rintro ⟨-, lines, hlines, hne, hall⟩
      rw [hcontent, hlines, List.append_assoc]
      exact not_crlf_isPrefix_wireLines hall hne _
    · intro hstart
      obtain ⟨lines, hlines, hall⟩ := exists_wireLines_of_headers hheaders
      rw [hlines, Headers.parse_wireLines_iff hall] at hheaders
      refine ⟨hcontent, lines, hlines, ne_nil_of_any hheaders.2.1, ?_⟩
      intro line hline
      refine ⟨hall line hline, ?_⟩
      rintro rfl
      rw [findBlankLine_zero_eq_ok, findSub_eq_some_iff] at hblank
      exact empty_not_mem_of_headers hlines hstart (fun i hi => hblank.2.2 i (by omega)) hline
  · intro hcode
    obtain ⟨line, content, more, hresponse⟩ :=
      (Article.parse_eq_ok_iff hstatus (Or.inr (Or.inl hcode))).mp hparse
    rw [hcode] at hresponse
    refine ⟨line, content, hresponse.isContent, ?_⟩
    obtain ⟨headers, hnone, hheaders, -⟩ := head_of_readSections hresponse.sections
    obtain ⟨lines, hlines, hall⟩ := exists_wireLines_of_headers hheaders
    rw [hlines, Headers.parse_wireLines_iff hall] at hheaders
    constructor
    · rintro ⟨others, hothers, hnonempty⟩
      have hne : others ≠ [] := by
        rintro rfl
        obtain rfl : lines = [] := wireLines_eq_nil_iff.mp (hlines.symm.trans hothers)
        cases hheaders.2.1
      rw [hothers, ← List.append_nil (wireLines others)]
      exact not_crlf_isPrefix_wireLines hnonempty hne _
    · intro hstart
      refine ⟨lines, hlines, fun line hline => ⟨hall line hline, ?_⟩⟩
      rintro rfl
      have hwhole : content.take content.length = wireLines lines := by
        rw [List.take_length, hlines]
      apply empty_not_mem_of_headers hwhole hstart _ hline
      intro i hi hseparator
      exact findSub_eq_none_iff.mp hnone i (by omega) hseparator

/-- An article whose header block ends at its first empty line. -/
theorem article_split_at_first_empty_line_subject :
    ∃ article rawHeaders rawBody,
      Article.parse (ascii "220 1 <a@b>\r\nSubject: c\r\n\r\nbody\r\n.\r\n") = .ok (some article) ∧
      RawSections (ascii "220 1 <a@b>\r\nSubject: c\r\n\r\nbody\r\n.\r\n") (ascii "220 1 <a@b>")
        (ascii "Subject: c\r\n\r\nbody\r\n") article rawHeaders rawBody ∧
      SplitAtFirstEmptyLine (ascii "Subject: c\r\n\r\nbody\r\n") rawHeaders rawBody := by
  have hparse : Article.parse (ascii "220 1 <a@b>\r\nSubject: c\r\n\r\nbody\r\n.\r\n") =
      .ok (some ⟨"<a@b>".toList, some 1, some ⟨ascii "Subject: c\r\n"⟩,
        some (ascii "body\r\n")⟩) := by
    decide +kernel
  have hshape : IsContent (ascii "220 1 <a@b>\r\nSubject: c\r\n\r\nbody\r\n.\r\n")
      (ascii "220 1 <a@b>") (ascii "Subject: c\r\n\r\nbody\r\n") :=
    ⟨by decide, ⟨[], by decide⟩, by decide +kernel⟩
  obtain ⟨line, content, rawHeaders, rawBody, hcontent, hraw, hiff⟩ :=
    (article_split_at_first_empty_line_iff _ ⟨220, by decide, by decide⟩ _ (by decide) hparse).1 rfl
  obtain ⟨rfl, rfl⟩ := hcontent.unique hshape
  exact ⟨_, rawHeaders, rawBody, hparse, hraw, hiff.mpr (by decide)⟩

/-- A content that starts with an empty line: the header range starts with it too. -/
theorem article_keeps_a_leading_empty_line :
    Article.parse (ascii "220 1 <a@b>\r\n\r\nSubject: c\r\n\r\nbody\r\n.\r\n") =
      .ok (some ⟨"<a@b>".toList, some 1, some ⟨ascii "\r\nSubject: c\r\n"⟩,
        some (ascii "body\r\n")⟩) ∧
    Article.parse (ascii "221 1 <a@b>\r\n\r\nSubject: c\r\n.\r\n") =
      .ok (some ⟨"<a@b>".toList, some 1, some ⟨ascii "\r\nSubject: c\r\n"⟩, none⟩) := by
  decide +kernel

theorem of_validateFirstLine {buffer : Bytes} {range : ArticleFrameRange}
    {firstLine : ValidatedFirstLine}
    (h : validateFirstLine buffer range = .ok firstLine) :
    firstLine.articleNumber ≤ MAX_ARTICLE_NUMBER ∧
      ∃ messageId : MessageId,
        (firstLine.messageId.get buffer).bind fromUtf8 = some messageId.value := by
  -- A first line that was validated in a buffer has a number and a message-id of a first line.
  unfold validateFirstLine at h
  obtain ⟨line, hline, h⟩ := bind_eq_ok.mp h
  obtain ⟨parsed, hparsed, h⟩ := bind_eq_ok.mp h
  obtain ⟨idRange, hrange, h⟩ := bind_eq_ok.mp h
  obtain ⟨number, hnumber, h⟩ := bind_eq_ok.mp h
  cases h
  obtain ⟨htext, found, hfound, hmax⟩ := text_of_parseFirstLine hparsed
  rw [hfound] at hnumber
  cases hnumber
  refine ⟨hmax, parsed.messageId, ?_⟩
  have hstop := (messageId_of_parseFirstLine hparsed).1
  rw [ArticleFrameRange.slice, okOr_eq_ok, ArticleFrameRange.get] at hline
  split_ifs at hline with hinside
  have hextract := Option.some.inj hline
  unfold ArticleFrameRange.new at hrange
  split_ifs at hrange
  cases hrange
  have hlength : line.length = range.stop - range.start := by
    rw [← hextract, List.extract_eq_take_drop, List.length_take, List.length_drop]
    omega
  have hsame : buffer.extract (range.start + parsed.messageIdRange.start)
      (range.start + parsed.messageIdRange.stop) =
        line.extract parsed.messageIdRange.start parsed.messageIdRange.stop := by
    rw [← hextract]
    simp only [List.extract_eq_take_drop, List.drop_take, List.take_take, List.drop_drop]
    congr 1
    have hle := parsed.messageIdRange.le
    omega
  have hle := range.le
  rw [ArticleFrameRange.get, if_pos (show range.start + parsed.messageIdRange.stop ≤
    buffer.length by omega), Option.bind_some, hsame, htext]

theorem materialize_eq_some {layout : ArticleLayout} {buffer : Bytes}
    (h : layout.materialize buffer = some article) :
    article.articleNumber = some layout.firstLine.articleNumber ∧
      (layout.firstLine.messageId.get buffer).bind fromUtf8 = some article.messageId := by
  unfold ArticleLayout.materialize at h
  obtain ⟨messageId, hid, h⟩ := Option.bind_eq_some_iff.mp h
  rw [hid]
  dsimp only at h
  split at h
  · obtain ⟨headers, -, h⟩ := Option.bind_eq_some_iff.mp h
    obtain ⟨body, -, h⟩ := Option.bind_eq_some_iff.mp h
    rw [← Option.some.inj h]
    exact ⟨rfl, rfl⟩
  · obtain ⟨headers, -, h⟩ := Option.bind_eq_some_iff.mp h
    rw [← Option.some.inj h]
    exact ⟨rfl, rfl⟩
  · obtain ⟨body, -, h⟩ := Option.bind_eq_some_iff.mp h
    rw [← Option.some.inj h]
    exact ⟨rfl, rfl⟩
  · rw [← Option.some.inj h]
    exact ⟨rfl, rfl⟩

theorem of_validateForStatusWithFirstLine {framed : FramedArticle} {firstLine : ValidatedFirstLine}
    {layout : ArticleLayout}
    (h : framed.validateForStatusWithFirstLine status firstLine = .ok layout) :
    layout.firstLine = firstLine := by
  unfold FramedArticle.validateForStatusWithFirstLine at h
  obtain ⟨content, -, h⟩ := bind_eq_ok.mp h
  cases h
  rfl

theorem of_validate {framed : FramedArticle} {view : ValidatedArticleView}
    (h : framed.validate = .ok view) :
    ∃ range, validateFirstLine view.buffer range = .ok view.layout.firstLine := by
  unfold FramedArticle.validate at h
  obtain ⟨status, -, h⟩ := bind_eq_ok.mp h
  obtain ⟨layout, hlayout, h⟩ := bind_eq_ok.mp h
  obtain ⟨firstLine, hfirst, hlayout⟩ := bind_eq_ok.mp hlayout
  cases h
  refine ⟨framed.firstLine, ?_⟩
  rw [of_validateForStatusWithFirstLine hlayout]
  exact hfirst

theorem of_article {kind : RequestKind} {frame : ResponseFrame} {view : ValidatedArticleView}
    (h : ResponseFrame.parse kind buf = .complete frame)
    (hview : frame.contentValidation = .article view) :
    ∃ range, validateFirstLine view.buffer range = .ok view.layout.firstLine := by
  unfold ResponseFrame.parse at h
  dsimp only at h
  repeat' split at h
  all_goals try cases h
  unfold ResponseFrame.parseBody at h
  split at h
  · cases h
  dsimp only at h
  split at h
  rotate_left
  · cases h
  next contentValidation hcontent =>
  cases h
  rw [show contentValidation = _ from hview] at hcontent
  unfold validateResponseContent at hcontent
  split_ifs at hcontent
  · split at hcontent
    · next found hfound =>
      cases hcontent
      unfold validateResponseFrame at hfound
      obtain ⟨framed, -, hfound⟩ := bind_eq_ok.mp hfound
      exact of_validate hfound
    · cases hcontent
  · cases hcontent
  · cases hcontent

theorem Article.of_parse (h : Article.parse buf = .ok (some article)) :
    (∃ number, article.articleNumber = some number ∧ number ≤ MAX_ARTICLE_NUMBER) ∧
      ∃ messageId : MessageId, article.messageId = messageId.value := by
  -- An article that was parsed has a number and a message-id that a first line can have.
  have hlayout {layout : ArticleLayout} {buffer : Bytes} {range : ArticleFrameRange}
      (hfirst : validateFirstLine buffer range = .ok layout.firstLine)
      (harticle : layout.materialize buffer = some article) :
      (∃ number, article.articleNumber = some number ∧ number ≤ MAX_ARTICLE_NUMBER) ∧
        ∃ messageId : MessageId, article.messageId = messageId.value := by
    obtain ⟨hmax, messageId, hid⟩ := of_validateFirstLine hfirst
    obtain ⟨hnumber, htext⟩ := materialize_eq_some harticle
    rw [hid] at htext
    exact ⟨⟨_, hnumber, hmax⟩, messageId, (Option.some.inj htext).symm⟩
  have hcompatible (status : Nat)
      (hparse : parseCompatibilityResponse buf status = .ok (some article)) :
      (∃ number, article.articleNumber = some number ∧ number ≤ MAX_ARTICLE_NUMBER) ∧
        ∃ messageId : MessageId, article.messageId = messageId.value := by
    unfold parseCompatibilityResponse at hparse
    split_ifs at hparse
    simp only [bind_eq_ok] at hparse
    obtain ⟨firstLineEnd, -, range, -, firstLine, hfirst, contentEnd, -, framed, -, layout, hvalid,
      hparse⟩ :=
      hparse
    rw [← of_validateForStatusWithFirstLine hvalid] at hfirst
    exact hlayout hfirst (Except.ok.inj hparse)
  unfold Article.parse at h
  simp only [bind_eq_ok] at h
  obtain ⟨status, -, kind, -, h⟩ := h
  split at h
  · exact hcompatible _ h
  · obtain ⟨-, -, h⟩ := bind_eq_ok.mp h
    split at h
    · next frame hframe =>
      split_ifs at h
      · unfold ResponseFrame.article at h
        split at h
        · next view hview =>
          obtain ⟨range, hfirst⟩ := of_article hframe hview
          exact hlayout hfirst (Except.ok.inj h)
        · cases h
      · exact hcompatible _ h
    · exact hcompatible _ h
    · exact hcompatible _ h

end NntpBench.Protocol
