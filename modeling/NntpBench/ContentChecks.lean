import NntpBench.Lib.Except
import NntpBench.OneShot

namespace NntpBench.Protocol

open Terminator ExceptBind

theorem StatusCode.space_not_mem {data : Bytes} {status : StatusCode}
    (h : StatusCode.parse data = some status) : SP ∉ data.take 3 := by
  match data, h with
  | b0 :: b1 :: b2 :: rest, h =>
    have hspace : StatusCode.digit SP = none := by decide
    simp only [List.take_succ_cons, List.take_zero, List.mem_cons, List.not_mem_nil, or_false,
      not_or]
    refine ⟨?_, ?_, ?_⟩ <;> rintro rfl <;> simp [StatusCode.parse, hspace] at h

namespace FramedResponse

variable {framed : FramedResponse} {line : Bytes}

def articleView (framed : FramedResponse) (line : Bytes) (h : framed.WellFramed line) :
    FramedArticle :=
  { buffer := framed.bytes
    firstLine := ⟨0, line.length, Nat.zero_le _⟩
    content := ⟨framed.statusLineEnd, framed.contentEnd, h.start_le⟩ }

theorem fromKnownContentBounds_eq (h : framed.WellFramed line) :
    FramedArticle.fromKnownContentBounds framed.bytes framed.statusLineEnd framed.contentEnd
      framed.statusLineEnd = .ok (framed.articleView line h) := by
  have hstart := h.start_le
  have hstop := h.stop_le
  have hend := h.statusLineEnd
  have hcrlf : framed.bytes.extract line.length framed.statusLineEnd = CRLF := by
    rw [List.extract_eq_take_drop, ← List.drop_take, h.statusLine, List.drop_left]
  unfold FramedArticle.fromKnownContentBounds articleView
  rw [if_neg (by omega), if_neg (by rw [length_crlf]; omega)]
  simp only [length_crlf, show framed.statusLineEnd - 2 = line.length by omega, bind, Except.bind,
    ArticleFrameRange.new, Nat.zero_le, dif_pos, hcrlf, hstart, ne_eq, not_true_eq_false, or_false,
    ← hend, if_false]

theorem exists_firstLine (h : framed.WellFramed line)
    (hpair : isArticlePair framed.kind framed.status.code = true) :
    ∃ firstLine messageId,
      validateFirstLine framed.bytes ⟨0, line.length, Nat.zero_le _⟩ = .ok firstLine ∧
      validatedFirstLineFromInitial framed.initial framed.statusLineEnd = .ok firstLine ∧
      firstLine.messageId.get framed.bytes = some messageId ∧
      isMessageIdToken messageId = true := by
  -- The fields of an article's first line, as both paths read them.
  have hvalid := h.valid
  rw [validateResponseInitialLine_of_isArticlePair hpair, Option.isSome_iff_exists] at hvalid
  obtain ⟨article, harticle⟩ := hvalid
  have hinitial : framed.initial.article = some article := by
    rw [h.initial]
    simp only [hpair, if_true, harticle]
  have hline := articleLine_iff_parseResponseInitialArticle.mp harticle
  obtain ⟨hthree, hle, hend, hid⟩ := hline.range
  have hstop : line.length + 2 ≤ framed.bytes.length := by
    rw [← h.statusLineEnd]
    exact h.start_le.trans h.stop_le
  have hslice : ∀ start stop, stop ≤ line.length →
      framed.bytes.extract start stop = line.extract start stop := by
    intro start stop hstopLine
    rw [List.extract_eq_take_drop, List.extract_eq_take_drop, ← List.drop_take, ← List.drop_take,
      ← List.take_append_of_le_length hstopLine, ← h.statusLine, List.take_take, h.statusLineEnd,
      Nat.min_eq_left (by omega)]
  have hcode : SP ∉ line.take 3 := by
    have hwhole := hslice 0 3 hthree
    simp only [List.extract_eq_take_drop, List.drop_zero, Nat.sub_zero] at hwhole
    rw [← hwhole]
    exact StatusCode.space_not_mem h.status
  obtain ⟨parsed, hparsed, hstart, hstopEq, hnumber⟩ := parseFirstLine_of_articleLine hline hcode
  refine ⟨⟨⟨article.messageIdStart, article.messageIdEnd, hle⟩, article.articleNumber⟩,
    line.extract article.messageIdStart article.messageIdEnd, ?_, ?_, ?_, hid⟩
  · have hfirst : framed.bytes.extract 0 line.length = line := by
      rw [hslice 0 line.length (Nat.le_refl _)]
      simp
    unfold validateFirstLine ArticleFrameRange.slice ArticleFrameRange.get
    simp only [show line.length ≤ framed.bytes.length by omega, if_true, hfirst, okOr, bind,
      Except.bind, hparsed, hstart, hstopEq, hnumber, ArticleFrameRange.new, Nat.zero_add, hle,
      dif_pos]
  · unfold validatedFirstLineFromInitial
    have hfits : ¬ article.messageIdEnd > framed.statusLineEnd - 2 := by
      rw [h.statusLineEnd]
      omega
    have hlong : ¬ framed.statusLineEnd < 2 := by
      rw [h.statusLineEnd]
      omega
    simp only [hinitial, okOr, bind, Except.bind, length_crlf, hlong, hfits, if_false,
      ArticleFrameRange.new, hle, dif_pos]
  · have hinside : article.messageIdEnd ≤ framed.bytes.length := by omega
    simp only [ArticleFrameRange.get, if_pos hinside, hslice _ _ hend]

theorem code_range {kind : RequestKind} {status : Nat} (h : isArticlePair kind status = true) :
    220 ≤ status ∧ status ≤ 223 := by
  rcases isArticlePair_iff.mp h with ⟨-, rfl⟩ | ⟨-, rfl⟩ | ⟨-, rfl⟩ | ⟨-, rfl⟩ <;> decide

theorem validateResponseFrame_eq (h : framed.WellFramed line)
    (hpair : isArticlePair framed.kind framed.status.code = true) :
    validateResponseFrame framed.toFrame =
      framed.validatedLayout.map fun layout => ⟨framed.bytes, layout⟩ := by
  obtain ⟨firstLine, messageId, hfirst, hinitial, -, -⟩ := exists_firstLine h hpair
  have hstatus := h.status
  have hcode := code_range hpair
  have hbounds := fromKnownContentBounds_eq h
  unfold validateResponseFrame validatedLayout FramedArticle.validate
    FramedArticle.validateForStatus toFrame
  simp only [hbounds, hinitial, articleView, hstatus, hfirst, okOr, bind, Except.bind, hcode,
    and_self, not_true_eq_false, if_false]
  cases FramedArticle.validateForStatusWithFirstLine _ framed.status.code firstLine <;> rfl

theorem get_of_slice {range : ArticleFrameRange} {buffer data : Bytes}
    (h : range.slice buffer = .ok data) : range.get buffer = some data := by
  unfold ArticleFrameRange.slice at h
  cases hget : range.get buffer with
  | none => simp [hget, okOr] at h
  | some value =>
    simp only [hget, okOr, Except.ok.injEq] at h
    rw [h]

/-- The sections a validated content names can be read from the buffer. -/
def Readable (buffer : Bytes) : ValidatedArticleContent → Prop
  | .article headers _ body _ => (∃ h, headers.get buffer = some h) ∧ ∃ b, body.get buffer = some b
  | .head headers _ => ∃ h, headers.get buffer = some h
  | .body body _ => ∃ b, body.get buffer = some b
  | .stat _ => True

theorem readable_of_validate {view : FramedArticle} {status : Nat} {firstLine : ValidatedFirstLine}
    {layout : ArticleLayout}
    (h : view.validateForStatusWithFirstLine status firstLine = .ok layout) :
    layout.firstLine = firstLine ∧ Readable view.buffer layout.content := by
  unfold FramedArticle.validateForStatusWithFirstLine at h
  obtain ⟨content, hcontent, h⟩ := bind_eq_ok.mp h
  cases h
  refine ⟨rfl, ?_⟩
  unfold FramedArticle.validateContent at hcontent
  dsimp only
  split at hcontent
  · simp only [FramedArticle.validateArticleContent, bind_eq_ok] at hcontent
    obtain ⟨_, _, _, _, headers, _, _, hheaders, _, _, hrest⟩ := hcontent
    split_ifs at hrest
    obtain ⟨body, _, hrest⟩ := bind_eq_ok.mp hrest
    obtain ⟨_, hbody, hrest⟩ := bind_eq_ok.mp hrest
    obtain ⟨_, _, hrest⟩ := bind_eq_ok.mp hrest
    cases hrest
    exact ⟨⟨_, get_of_slice hheaders⟩, _, get_of_slice hbody⟩
  · simp only [FramedArticle.validateHeadContent, bind_eq_ok] at hcontent
    obtain ⟨_, _, hrest⟩ := hcontent
    split at hrest
    · cases hrest
    · obtain ⟨_, hheaders, hrest⟩ := bind_eq_ok.mp hrest
      obtain ⟨_, _, hrest⟩ := bind_eq_ok.mp hrest
      cases hrest
      exact ⟨_, get_of_slice hheaders⟩
  · simp only [FramedArticle.validateBody, bind_eq_ok] at hcontent
    obtain ⟨_, hbody, _, _, hrest⟩ := hcontent
    cases hrest
    exact ⟨_, get_of_slice hbody⟩
  · unfold FramedArticle.validateStatContent at hcontent
    split_ifs at hcontent
    cases hcontent
    trivial
  · cases hcontent

theorem exists_materialize {layout : ArticleLayout} {buffer messageId : Bytes}
    (hid : layout.firstLine.messageId.get buffer = some messageId)
    (hvalid : isMessageIdToken messageId = true) (h : Readable buffer layout.content) :
    ∃ article, layout.materialize buffer = some article := by
  obtain ⟨text, htext, -⟩ := (Option.any_eq_true _ _).mp hvalid
  unfold ArticleLayout.materialize
  rw [hid, Option.bind_some, htext]
  cases hcontent : layout.content with
  | article headers _ body _ =>
    rw [hcontent] at h
    obtain ⟨⟨headerBytes, hheaders⟩, bodyBytes, hbody⟩ := h
    simp [hheaders, hbody]
  | head headers _ =>
    rw [hcontent] at h
    obtain ⟨headerBytes, hheaders⟩ := h
    simp [hheaders]
  | body body _ =>
    rw [hcontent] at h
    obtain ⟨bodyBytes, hbody⟩ := h
    simp [hbody]
  | stat _ => exact ⟨_, rfl⟩

theorem exists_article (h : framed.WellFramed line)
    (hpair : isArticlePair framed.kind framed.status.code = true) {layout : ArticleLayout}
    (hlayout : framed.validatedLayout = .ok layout) :
    ∃ article, layout.materialize framed.bytes = some article := by
  obtain ⟨firstLine, messageId, -, hinitial, hid, hvalid⟩ := exists_firstLine h hpair
  unfold validatedLayout at hlayout
  rw [if_neg (by simpa using code_range hpair), hinitial, fromKnownContentBounds_eq h] at hlayout
  obtain ⟨hfirst, hreadable⟩ := readable_of_validate hlayout
  rw [← hfirst] at hid
  exact exists_materialize hid hvalid hreadable

theorem content_eq (h : framed.WellFramed line) :
    framed.content = some framed.toFrame.content := by
  unfold content genericContentRange ResponseContentRange.new
  rw [dif_pos ⟨h.start_le, h.stop_le⟩]
  simp only [Option.bind_some, ResponseContentRange.slice, if_pos h.stop_le, toFrame]

theorem intoOwnedResponse_of_isArticlePair
    (hpair : isArticlePair framed.kind framed.status.code = true) :
    framed.intoOwnedResponse = .ok (.article framed) := by
  rw [intoOwnedResponse, if_pos hpair]

theorem intoArticle_eq (hpair : isArticlePair framed.kind framed.status.code = true) :
    (OwnedResponse.article framed).intoArticle =
      match framed.validatedLayout with
      | .error _ => .error .invalidStatusLine
      | .ok layout => .ok { bytes := framed.bytes, kind := framed.kind, status := framed.status
                            layout } := by
  refine (if_neg ?_).trans rfl
  dsimp only [OwnedResponse.kind, OwnedResponse.status]
  rw [not_not]
  rcases isArticlePair_iff.mp hpair with ⟨hkind, hcode⟩ | ⟨hkind, hcode⟩ | ⟨hkind, hcode⟩ |
    ⟨hkind, hcode⟩ <;> rw [hkind, hcode]

theorem intoOwnedResponse_generic (h : framed.WellFramed line)
    (hpair : isArticlePair framed.kind framed.status.code = false) :
    framed.intoOwnedResponse =
      if (validateResponseContent framed.toFrame).isSome ∨
          (framed.kind = .capabilities ∧ framed.status.code = 101) then
        .ok (.generic framed.kind framed.status framed.bytes
          ⟨framed.statusLineEnd, framed.contentEnd, h.start_le⟩)
      else .error .invalidStatusLine := by
  have hvalid : validateFramedNonArticleResponseContent framed.kind framed.status
      (framed.bytes.take framed.statusLineEnd)
      (framed.bytes.extract framed.statusLineEnd framed.contentEnd) =
        (validateResponseContent framed.toFrame).isSome := by
    unfold validateFramedNonArticleResponseContent validateResponseContent toFrame
    simp only [hpair, Bool.false_eq_true, if_false, h.initial]
    split_ifs <;> simp_all
  unfold intoOwnedResponse
  rw [if_neg (by simp [hpair]), if_neg (by simp [h.start_le, h.stop_le]), hvalid]
  simp only [genericContentRange, ResponseContentRange.new,
    dif_pos (And.intro h.start_le h.stop_le)]
  cases (validateResponseContent framed.toFrame).isSome <;>
    by_cases hcap : framed.kind = .capabilities ∧ framed.status.code = 101 <;> simp [hcap]

/-- The response the receiver hands out for a frame the stateless parser accepts. -/
structure SameResponse (frame : ResponseFrame) (response : OwnedResponse) : Prop where
  bytes : response.asBytes = frame.bytes
  status : response.status = frame.status
  content : response.content = some frame.content
  article : isArticlePair frame.kind frame.status.code = true →
    ∃ owned article, response.intoArticle = .ok owned ∧ owned.article = some article ∧
      frame.article = .ok (some article)

theorem intoOwnedResponse_of_complete (h : framed.WellFramed line) {frame : ResponseFrame}
    (hcheck : checkContent framed = .complete frame) :
    frame.consumed = framed.bytes.length ∧
      ∃ response, framed.intoOwnedResponse = .ok response ∧ SameResponse frame response := by
  unfold checkContent at hcheck
  cases hcontent : validateResponseContent framed.toFrame with
  | none => simp [hcontent] at hcheck
  | some validation =>
    simp only [hcontent, ResponseFrameParse.complete.injEq] at hcheck
    subst hcheck
    refine ⟨rfl, ?_⟩
    cases hpair : isArticlePair framed.kind framed.status.code with
    | false =>
      refine ⟨.generic framed.kind framed.status framed.bytes
        ⟨framed.statusLineEnd, framed.contentEnd, h.start_le⟩, ?_, ⟨rfl, rfl, ?_, ?_⟩⟩
      · rw [intoOwnedResponse_generic h hpair, hcontent]
        exact if_pos (Or.inl rfl)
      · simp only [OwnedResponse.content, ResponseContentRange.slice, if_pos h.stop_le, toFrame]
      · intro htrue
        rw [show isArticlePair framed.kind framed.status.code = true from htrue] at hpair
        cases hpair
    | true =>
      refine ⟨_, intoOwnedResponse_of_isArticlePair hpair, ⟨rfl, rfl, content_eq h, ?_⟩⟩
      intro _
      have hview := validateResponseFrame_eq h hpair
      unfold validateResponseContent at hcontent
      rw [if_pos (show isArticlePair framed.toFrame.kind framed.toFrame.status.code = true from
        hpair), hview] at hcontent
      rw [intoArticle_eq hpair]
      cases hlayout : framed.validatedLayout with
      | error e => simp [hlayout, Except.map] at hcontent
      | ok layout =>
        simp only [hlayout, Except.map, Option.some.injEq] at hcontent
        subst hcontent
        obtain ⟨article, harticle⟩ := exists_article h hpair hlayout
        refine ⟨_, article, rfl, harticle, ?_⟩
        simp only [ResponseFrame.article, ValidatedArticleView.materialize, harticle]

theorem checkContent_ne_needMore (framed : FramedResponse) : checkContent framed ≠ .needMore := by
  unfold checkContent
  cases validateResponseContent framed.toFrame <;> simp

theorem kind_bytes_of_complete {frame : ResponseFrame}
    (hcheck : checkContent framed = .complete frame) :
    frame.kind = framed.kind ∧ frame.bytes = framed.bytes := by
  unfold checkContent at hcheck
  cases hcontent : validateResponseContent framed.toFrame with
  | none => simp [hcontent] at hcheck
  | some validation =>
    simp only [hcontent, ResponseFrameParse.complete.injEq] at hcheck
    subst hcheck
    exact ⟨rfl, rfl⟩

/-- Where the stateless parser rejects the content, the receiver does too, now or in
`into_article`. -/
theorem intoOwnedResponse_of_invalid (h : framed.WellFramed line)
    (hcheck : checkContent framed = .invalid) :
    (∃ e, framed.intoOwnedResponse = .error e) ∨
      ∃ response, framed.intoOwnedResponse = .ok response ∧ response.status = framed.status ∧
        ((framed.kind = .capabilities ∧ framed.status.code = 101) ∨
          (isArticlePair framed.kind framed.status.code = true ∧
            ∃ e, response.intoArticle = .error e)) := by
  unfold checkContent at hcheck
  cases hcontent : validateResponseContent framed.toFrame with
  | some validation => simp [hcontent] at hcheck
  | none =>
    cases hpair : isArticlePair framed.kind framed.status.code with
    | false =>
      rw [intoOwnedResponse_generic h hpair, hcontent]
      by_cases hcap : framed.kind = .capabilities ∧ framed.status.code = 101
      · exact Or.inr ⟨_, if_pos (Or.inr hcap), rfl, Or.inl hcap⟩
      · exact Or.inl ⟨.invalidStatusLine, if_neg (by simp [hcap])⟩
    | true =>
      refine Or.inr ⟨_, intoOwnedResponse_of_isArticlePair hpair, rfl, Or.inr ⟨rfl, ?_⟩⟩
      unfold validateResponseContent at hcontent
      rw [if_pos (show isArticlePair framed.toFrame.kind framed.toFrame.status.code = true from
        hpair), validateResponseFrame_eq h hpair] at hcontent
      rw [intoArticle_eq hpair]
      cases hlayout : framed.validatedLayout with
      | error e => exact ⟨_, rfl⟩
      | ok layout => simp [hlayout, Except.map] at hcontent

end FramedResponse

end NntpBench.Protocol
