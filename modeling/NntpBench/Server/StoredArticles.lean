import NntpBench.ReplyFrames
import NntpBench.StuffedHeaders
import NntpBench.Server.ArticleStore

namespace NntpBench.Server

open Protocol Terminator ListSearch ExceptBind DotTerminatedBlocks

theorem appendDotTerminator_lines (start : Bytes) (lines : List Bytes) :
    appendDotTerminator (start ++ CRLF ++ wireLines lines) =
      start ++ CRLF ++ wireLines lines ++ DOT_TERMINATOR := by
  have hend : CRLF <:+ start ++ CRLF ++ wireLines lines := by
    rcases List.eq_nil_or_concat lines with rfl | ⟨lines, last, rfl⟩
    · exact ⟨start, by simp [wireLines_nil]⟩
    · refine ⟨start ++ CRLF ++ wireLines lines ++ last, ?_⟩
      rw [List.concat_eq_append, wireLines_append, wireLines_cons, wireLines_nil, crlf_eq]
      simp
  rw [appendDotTerminator, if_pos hend]

theorem findCrlfLineEnd_line {line : Bytes} (h : IsLineContent line) (rest : Bytes) :
    findCrlfLineEnd (line ++ CR :: LF :: rest) 0 = some (line.length + 2) :=
  findCrlfLineEnd_of_detect (detectResponseLineEnd_line h rest)

theorem appendDotStuffedBody_wireLines {lines : List Bytes} (h : ∀ line ∈ lines, IsLineContent line)
    (output : Bytes) :
    appendDotStuffedBody output (wireLines lines) = output ++ wireLines (lines.map stuffLine) := by
  -- The lines of a body are stuffed one by one.
  induction lines generalizing output with
  | nil => simp [wireLines_nil, appendDotStuffedBody]
  | cons line lines ih =>
    rw [List.forall_mem_cons] at h
    have hfound := findCrlfLineEnd_line h.1 (wireLines lines)
    have htake : (line ++ CR :: LF :: wireLines lines).take (line.length + 2 - CRLF.length) =
        line := by
      rw [length_crlf, Nat.add_sub_cancel, List.take_left]
    have hdrop : (line ++ CR :: LF :: wireLines lines).drop (line.length + 2) =
        wireLines lines := by
      rw [← List.drop_drop, List.drop_left]
      rfl
    have hstuffed : (if line.head? = some DOT then [DOT] else []) ++ line = stuffLine line := by
      have hdot : ascii "." <+: line ↔ line.head? = some DOT := by
        cases line with
        | nil => simp [ascii]
        | cons byte line => simp [show ascii "." = [DOT] by decide, eq_comm]
      unfold stuffLine
      simp only [hdot]
      split_ifs <;> rfl
    rw [List.map_cons, wireLines_cons, wireLines_cons, appendDotStuffedBody.eq_def,
      if_neg (by simp)]
    split
    · next hnone =>
      rw [hfound] at hnone
      cases hnone
    · next lineEnd hsome =>
      rw [hfound] at hsome
      cases hsome
      dsimp only
      rw [htake, hdrop, ih h.2, List.append_assoc output, hstuffed, crlf_eq]
      simp

theorem storedStatusLine_eq (status : String) (number : Nat) (messageId : Str) (text : String) :
    storedStatusLine status number messageId text =
      articleFields (ascii status) (decimalText number) (asBytes messageId) (ascii text) ++
        CRLF := by
  have hspace : ascii " " = [SP] := by decide
  simp [storedStatusLine, articleFields, hspace]

/-- The replies to the four requests for an article that are made from a file say what the file
says. -/
structure StoredReplies (file : Bytes) (article : Article) : Prop where
  whole : IsArticleFrame .article file article
  head : ∃ reply, buildStoredArticleResponse .head file = .ok reply ∧
    IsArticleFrame .head reply { article with body := none }
  body : ∃ reply, buildStoredArticleResponse .body file = .ok reply ∧
    IsArticleFrame .body reply { article with headers := none }
  stat : ∃ reply, buildStoredArticleResponse .stat file = .ok reply ∧
    IsArticleFrame .stat reply { article with headers := none, body := none }

def replyLine (status : String) (number : Nat) (messageId : Str) (text : String) : Bytes :=
  articleFields (ascii status) (decimalText number) (asBytes messageId) (ascii text)

section Replies

variable {file : Bytes} {article : Article} {number : Nat}
  (hparse : Article.parse file = .ok (some article)) (hnumber : article.articleNumber = some number)
include hparse hnumber

theorem buildStoredArticleResponse_head {lines : List Bytes}
    (hheaders : article.headers = some ⟨wireLines lines⟩) :
    buildStoredArticleResponse .head file =
      .ok (replyLine "221" number article.messageId " article retrieved" ++
        CR :: LF :: (wireLines lines ++ DOT_TERMINATOR ++ [])) := by
  unfold buildStoredArticleResponse
  rw [if_neg (by decide), hparse]
  simp only [hnumber, hheaders]
  rw [storedStatusLine_eq, appendDotTerminator_lines, crlf_eq]
  simp [replyLine]

theorem buildStoredArticleResponse_body {lines : List Bytes}
    (h : ∀ line ∈ lines, IsLineContent line)
    (hbody : article.body = some (wireLines lines)) :
    buildStoredArticleResponse .body file =
      .ok (replyLine "222" number article.messageId " body follows" ++
        CR :: LF :: (wireLines (lines.map stuffLine) ++ DOT_TERMINATOR ++ [])) := by
  unfold buildStoredArticleResponse
  rw [if_neg (by decide), hparse]
  simp only [hnumber, hbody]
  rw [storedStatusLine_eq, appendDotStuffedBody_wireLines h, appendDotTerminator_lines, crlf_eq]
  simp [replyLine]

theorem buildStoredArticleResponse_stat :
    buildStoredArticleResponse .stat file =
      .ok (replyLine "223" number article.messageId " article retrieved" ++ CRLF) := by
  unfold buildStoredArticleResponse
  rw [if_neg (by decide), hparse]
  simp only [hnumber]
  rw [storedStatusLine_eq]
  rfl

end Replies

section Frames

variable {line content : Bytes} {article : Article} {headers body : List Bytes} {number : Nat}
  (hfirst : FirstLine line article.messageId number) (hnumber : article.articleNumber = some number)
  (h : ArticleLines content article headers body)
include hfirst hnumber h

theorem isArticleFrame_head (hattached : FoldsAttached headers) :
    IsArticleFrame .head (replyLine "221" number article.messageId " article retrieved" ++
      CR :: LF :: (wireLines (unfoldedLines headers) ++ DOT_TERMINATOR ++ []))
      { article with body := none } := by
  obtain ⟨hmax, hid⟩ := hfirst.bounds
  have htext : LineText (ascii "221") (ascii " article retrieved") := by decide
  have hcode : StatusCode.parse (ascii "221") = some ⟨221, by decide, by decide⟩ := by decide
  have hdot := ne_dot_of_headerLines (headerLines_unfoldedLines h.checked hattached)
  have hends := bounds_lines (isLineContent_unfoldedLines h.headerContent) hdot []
  have hsections :=
    readSections_unfoldedLines h.headerContent h.empty h.checked h.field hattached
  rw [hnumber, h.headers_eq]
  exact htext.isArticleFrame hid hmax hcode rfl (by decide) hends hsections

omit hnumber in
theorem foldsAttached_of_head {view : Article}
    (hframe : IsArticleFrame .head (replyLine "221" number article.messageId " article retrieved" ++
      CR :: LF :: (wireLines (unfoldedLines headers) ++ DOT_TERMINATOR ++ [])) view) :
    FoldsAttached headers := by
  obtain ⟨-, hid⟩ := hfirst.bounds
  have htext : LineText (ascii "221") (ascii " article retrieved") := by decide
  have hcode : StatusCode.parse (ascii "221") = some ⟨221, by decide, by decide⟩ := by decide
  have hparse := hframe.parse_eq (htext.status_append hcode _) rfl
  obtain ⟨found, head, more, hresponse⟩ :=
    (Article.parse_eq_ok_iff (htext.status_append hcode _) (Or.inr (Or.inl rfl))).mp hparse
  obtain ⟨parsed, -, hheaders, -⟩ := head_of_readSections hresponse.sections
  have hnotFold := isFold_of_headers hheaders
  obtain ⟨-, hrest⟩ := line_append_inj (htext.isLineContent hid) hresponse.isLine hresponse.buf_eq
  by_contra hattached
  have hfold := isFold_unfoldedLines h.empty hattached
  have hstart : isFold (head ++ (DOT_TERMINATOR ++ more)) = true := by
    rw [← List.append_assoc, ← hrest, List.append_assoc, isFold_append (ne_nil_of_isFold hfold)]
    exact hfold
  by_cases hnil : head = []
  · rw [hnil] at hstart
    cases hstart
  · rw [isFold_append hnil, hnotFold] at hstart
    cases hstart

theorem isArticleFrame_body :
    IsArticleFrame .body (replyLine "222" number article.messageId " body follows" ++
      CR :: LF :: (wireLines (body.map stuffLine) ++ DOT_TERMINATOR ++ []))
      { article with headers := none } := by
  obtain ⟨hmax, hid⟩ := hfirst.bounds
  have htext : LineText (ascii "222") (ascii " body follows") := by decide
  have hcode : StatusCode.parse (ascii "222") = some ⟨222, by decide, by decide⟩ := by decide
  have hends := bounds_wireLines (wireLine_of_stuffed h.bodyContent) []
  have hsections := readSections_body h.bodyContent h.nul
  rw [hnumber, h.body_eq]
  exact htext.isArticleFrame hid hmax hcode rfl (by decide) hends hsections

end Frames

/-- **The replies from a stored file agree with the file exactly if its status line is short enough,
nothing follows its dot line, and its headers do not start with the fold of an empty line.** -/
theorem stored_replies_agree_iff (file : Bytes) (article : Article) (status : StatusCode)
    (hstatus : StatusCode.parse file = some status) (hcode : status.code = 220)
    (hparse : Article.parse file = .ok (some article)) :
    ∃ line content, IsContent file line content ∧
      (StoredReplies file article ↔
        line.length + 2 ≤ MAX_INITIAL_RESPONSE_LINE_BYTES ∧
        file = line ++ CRLF ++ content ++ DOT_TERMINATOR ∧
        ¬ (CRLF <+: content ∧ isFold (content.drop 2) = true)) := by
  obtain ⟨line, content, more, hresponse⟩ :=
    (Article.parse_eq_ok_iff hstatus (Or.inl hcode)).mp hparse
  refine ⟨line, content, hresponse.isContent, ?_⟩
  have hpair : isArticlePair .article status.code = true := by
    rw [hcode]
    rfl
  obtain ⟨number, hfirst, hnumber⟩ := hresponse.firstLine
  have hsections := hresponse.sections
  rw [hcode] at hsections
  obtain ⟨headers, body, hlines⟩ := exists_articleLines hsections
  have hwhole := hresponse.isFrame_iff hpair hstatus (Or.inl hcode)
  have hmore : file = line ++ CRLF ++ content ++ DOT_TERMINATOR ↔ more = [] := by
    have hfile : file = line ++ CRLF ++ content ++ DOT_TERMINATOR ++ more := by
      rw [hresponse.buf_eq, crlf_eq]
      simp
    rw [hfile]
    exact List.append_right_eq_self
  have hattached := foldsAttached_iff hlines.headerContent hlines.empty hlines.field
    (CRLF ++ wireLines (body.map stuffLine))
  rw [← List.append_assoc, ← hlines.content_eq] at hattached
  have hhead := buildStoredArticleResponse_head hparse hnumber hlines.headers_eq
  rw [hmore, ← hattached, ← and_assoc, ← hwhole]
  constructor
  · intro hreplies
    refine ⟨hreplies.whole.isFrame, ?_⟩
    obtain ⟨reply, hreply, hframe⟩ := hreplies.head
    rw [hhead] at hreply
    cases hreply
    exact foldsAttached_of_head hfirst hlines hframe
  · rintro ⟨hframe, hfolds⟩
    obtain ⟨hlimit, rfl⟩ := hwhole.mp hframe
    obtain ⟨hmax, hid⟩ := hfirst.bounds
    refine ⟨hresponse.isArticleFrame hpair hstatus (Or.inl hcode) hlimit,
      ⟨_, hhead, isArticleFrame_head hfirst hnumber hlines hfolds⟩,
      ⟨_, buildStoredArticleResponse_body hparse hnumber hlines.bodyContent hlines.body_eq,
        isArticleFrame_body hfirst hnumber hlines⟩,
      ⟨_, buildStoredArticleResponse_stat hparse hnumber, ?_⟩⟩
    have htext : LineText (ascii "223") (ascii " article retrieved") := by decide
    have hstat : StatusCode.parse (ascii "223") = some ⟨223, by decide, by decide⟩ := by decide
    rw [hnumber]
    exact htext.isArticleFrame_stat hid hmax hstat rfl

/-- A folded header and a body line that starts with a dot. -/
theorem stored_replies_agree_folded :
    StoredReplies (ascii "220 1 <a@b>\r\nSubject: c\r\n d\r\n\r\n..e\r\n.\r\n")
      ⟨"<a@b>".toList, some 1, some ⟨ascii "Subject: c d\r\n"⟩, some (ascii ".e\r\n")⟩ := by
  have hshape : IsContent (ascii "220 1 <a@b>\r\nSubject: c\r\n d\r\n\r\n..e\r\n.\r\n")
      (ascii "220 1 <a@b>") (ascii "Subject: c\r\n d\r\n\r\n..e\r\n") :=
    ⟨by decide, ⟨[], by decide⟩, by decide +kernel⟩
  obtain ⟨line, content, hcontent, hiff⟩ := stored_replies_agree_iff
    (ascii "220 1 <a@b>\r\nSubject: c\r\n d\r\n\r\n..e\r\n.\r\n")
    ⟨"<a@b>".toList, some 1, some ⟨ascii "Subject: c d\r\n"⟩, some (ascii ".e\r\n")⟩
    ⟨220, by decide, by decide⟩ (by decide) rfl (by decide +kernel)
  obtain ⟨rfl, rfl⟩ := hcontent.unique hshape
  exact hiff.mpr (by decide +kernel)

theorem validateOptionalTrailingComment_asBytes {text : Str} (h : text.all isUChar = true) :
    validateOptionalTrailingComment (SP :: asBytes text) = true := by
  have hutf8 : fromUtf8 (asBytes text) = some text := Utf8.decode_encode text
  change validateUChars (asBytes text) = true
  rw [validateUChars, hutf8]
  exact h

theorem parse_commented {text : Str} (huchars : text.all isUChar = true)
    (hline : IsLineContent (asBytes text)) :
    Article.parse (ascii "220 1 <a@b> " ++ (asBytes text ++ ascii "\r\nA: b\r\n\r\nc\r\n.\r\n")) =
      .ok (some ⟨"<a@b>".toList, some 1, some ⟨ascii "A: b\r\n"⟩, some (ascii "c\r\n")⟩) := by
  have hfields : articleFields (ascii "220") (decimalText 1) (asBytes "<a@b>".toList)
      (SP :: asBytes text) = ascii "220 1 <a@b> " ++ asBytes text := rfl
  have hfirst : FirstLine (ascii "220 1 <a@b> " ++ asBytes text) "<a@b>".toList 1 := by
    rw [← hfields]
    exact firstLine_articleFields rfl (by decide) (validateOptionalTrailingComment_asBytes huchars)
      (by decide) (by decide)
  have hstatus : ∀ rest, StatusCode.parse (ascii "220 1 <a@b> " ++ rest) =
      some ⟨220, by decide, by decide⟩ := fun rest => rfl
  rw [Article.parse_eq_ok_iff (hstatus _) (.inl rfl)]
  refine ⟨_, ascii "A: b\r\n\r\nc\r\n", [], ?_, ?_, by decide +kernel, ⟨1, hfirst, rfl⟩,
    by decide +kernel⟩
  · rw [List.append_assoc]
    rfl
  · rw [isLineContent_append]
    exact ⟨by decide, hline⟩

theorem asBytes_replicate (n : Nat) : asBytes (List.replicate n 'x') = List.replicate n 120 := by
  induction n with
  | zero => rfl
  | succ n ih =>
    rw [List.replicate_succ, List.replicate_succ, ← ih]
    rfl

theorem isLineContent_replicate (n : Nat) : IsLineContent (List.replicate n 120) :=
  ⟨by simp [List.mem_replicate, CR], by simp [List.mem_replicate, LF]⟩

def longStatusFile : Bytes :=
  ascii "220 1 <a@b> " ++ (List.replicate 500 120 ++ ascii "\r\nA: b\r\n\r\nc\r\n.\r\n")

theorem parse_longStatusFile : Article.parse longStatusFile =
    .ok (some ⟨"<a@b>".toList, some 1, some ⟨ascii "A: b\r\n"⟩, some (ascii "c\r\n")⟩) := by
  rw [longStatusFile, ← asBytes_replicate]
  apply parse_commented
  · rw [List.all_replicate]
    decide
  · rw [asBytes_replicate]
    exact isLineContent_replicate 500

/-- Three files that `Article::parse` accepts: one with a byte behind its dot line, one whose HEAD
reply starts with a blank, and one with a status line that is too long. -/
theorem stored_replies_refused :
    Article.parse (ascii "220 1 <a@b>\r\nA: b\r\n\r\nc\r\n.\r\nx") =
      .ok (some ⟨"<a@b>".toList, some 1, some ⟨ascii "A: b\r\n"⟩, some (ascii "c\r\n")⟩) ∧
    ¬ IsFrame .article (ascii "220 1 <a@b>\r\nA: b\r\n\r\nc\r\n.\r\nx") ∧
    buildStoredArticleResponse .head
        (ascii "220 1 <a@b>\r\n\r\n x\r\nA: b\r\n\r\nc\r\n.\r\n") =
      .ok (ascii "221 1 <a@b> article retrieved\r\n x\r\nA: b\r\n.\r\n") ∧
    ¬ IsFrame .head (ascii "221 1 <a@b> article retrieved\r\n x\r\nA: b\r\n.\r\n") ∧
    Article.parse longStatusFile =
      .ok (some ⟨"<a@b>".toList, some 1, some ⟨ascii "A: b\r\n"⟩, some (ascii "c\r\n")⟩) ∧
    ¬ IsFrame .article longStatusFile := by
  refine ⟨?_, ?_, ?_, ?_, parse_longStatusFile, ?_⟩
  all_goals decide +kernel

end NntpBench.Server
