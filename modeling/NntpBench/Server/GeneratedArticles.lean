import NntpBench.Server.FixedReplies
import NntpBench.Server.StoredArticles

namespace NntpBench.Server

open Protocol Terminator ListSearch ExceptBind DotTerminatedBlocks

variable {lines : List Bytes} {payload : Bytes}

instance (name : Bytes) : Decidable (ValidName name) :=
  decidable_of_iff (name ≠ [] ∧ (∀ byte ∈ name, 33 ≤ byte ∧ byte ≤ 126) ∧ 58 ∉ name)
    ⟨fun ⟨h₁, h₂, h₃⟩ => ⟨h₁, h₂, h₃⟩, fun h => ⟨h.ne_nil, h.visible, h.colon⟩⟩

/-- A field on one line. -/
structure PlainField (line : Bytes) : Prop where
  content : IsLineContent line
  field : ∃ name value, line = name ++ 58 :: SP :: value ∧ ValidName name ∧ NUL ∉ value

theorem PlainField.isFold {line : Bytes} (h : PlainField line) : isFold line = false := by
  obtain ⟨name, value, rfl, hname, -⟩ := h.field
  obtain ⟨byte, rest, rfl⟩ := List.exists_cons_of_ne_nil hname.ne_nil
  exact hname.not_blank byte List.mem_cons_self

theorem PlainField.ne_nil {line : Bytes} (h : PlainField line) : line ≠ [] := by
  obtain ⟨name, value, rfl, hname, -⟩ := h.field
  simp

theorem headerLines_of_plainFields (h : ∀ line ∈ lines, PlainField line)
    (before : Bool) : HeaderLines before lines := by
  induction lines generalizing before with
  | nil => trivial
  | cons line lines ih =>
    rw [List.forall_mem_cons] at h
    refine ⟨?_, ih h.2 true⟩
    unfold CheckedLine
    rw [if_neg h.1.ne_nil, if_neg (by simp [h.1.isFold])]
    obtain ⟨name, value, hline, hname, hnul⟩ := h.1.field
    exact ⟨name, SP :: value, hline, hname, by simp, List.not_mem_cons_of_ne_of_not_mem (by decide)
      hnul⟩

theorem any_isFieldLine_of_plainFields (hne : lines ≠ [])
    (h : ∀ line ∈ lines, PlainField line) : lines.any isFieldLine = true := by
  obtain ⟨line, rest, rfl⟩ := List.exists_cons_of_ne_nil hne
  have hfirst := h line List.mem_cons_self
  simp [isFieldLine, hfirst.ne_nil, hfirst.isFold]

def syntheticHeaderLines (messageId : Bytes) : List Bytes :=
  [ascii "Path: nntpbench.local!mock", ascii "From: Bench User <bench@nntpbench.local>",
    ascii "Newsgroups: alt.binaries.bench", ascii "Subject: nntpbench synthetic article",
    ascii "Message-ID: " ++ messageId, ascii "Date: Fri, 15 May 2026 00:00:00 +0000"]

theorem syntheticArticleHeaders_eq (messageId : Bytes) :
    syntheticArticleHeaders messageId = wireLines (syntheticHeaderLines messageId) := by
  simp [syntheticArticleHeaders, syntheticHeaderLines, crlfText, wireLines]

theorem plainField_ascii (line name value : String)
    (h : ascii line = ascii name ++ 58 :: SP :: ascii value ∧ IsLineContent (ascii line) ∧
      ValidName (ascii name) ∧ NUL ∉ ascii value) : PlainField (ascii line) :=
  ⟨h.2.1, ascii name, ascii value, h.1, h.2.2⟩

theorem plainField_messageId {messageId : Str} (hid : validateMessageId messageId = true) :
    PlainField (ascii "Message-ID: " ++ asBytes messageId) := by
  have hclean := (MessageId.isArgument ⟨messageId, hid⟩).clean
  have hname : ascii "Message-ID: " = ascii "Message-ID" ++ [58, SP] := by decide
  refine ⟨?_, ascii "Message-ID", asBytes messageId, ?_, by decide, hclean.nul⟩
  · rw [isLineContent_append]
    exact ⟨by decide, hclean.cr, hclean.lf⟩
  · rw [hname, List.append_assoc]
    rfl

theorem plainField_synthetic {messageId : Str} (hid : validateMessageId messageId = true) :
    ∀ line ∈ syntheticHeaderLines (asBytes messageId), PlainField line := by
  simp only [syntheticHeaderLines, List.forall_mem_cons, List.not_mem_nil, false_implies,
    implies_true, and_true]
  refine ⟨?_, ?_, ?_, ?_, plainField_messageId hid, ?_⟩
  · exact plainField_ascii _ "Path" "nntpbench.local!mock" (by decide)
  · exact plainField_ascii _ "From" "Bench User <bench@nntpbench.local>" (by decide)
  · exact plainField_ascii _ "Newsgroups" "alt.binaries.bench" (by decide)
  · exact plainField_ascii _ "Subject" "nntpbench synthetic article" (by decide)
  · exact plainField_ascii _ "Date" "Fri, 15 May 2026 00:00:00 +0000" (by decide)

/-- The lines of a payload as they stand in a response. -/
structure PayloadLines (payload : Bytes) (lines : List Bytes) : Prop where
  payload_eq : payload = wireLines lines
  wire : ∀ line ∈ lines, WireLine line
  nul : ∀ line ∈ lines, NUL ∉ line

theorem payloadLines_replicate (count : Nat) :
    ∃ lines, PayloadLines (List.replicate count BODY_LINE).flatten lines := by
  let line := ascii "This is synthetic NNTP article payload for throughput and latency benchmarking"
  have hline : IsLineContent line ∧ ¬ ascii "." <+: line ∧ NUL ∉ line := by decide
  have hbody : BODY_LINE = line ++ CRLF := by simp [BODY_LINE, crlfText, line]
  refine ⟨List.replicate count line, ?_, ?_, ?_⟩
  · rw [hbody]
    simp [wireLines, List.flatMap_def]
  · intro copy hcopy
    rw [List.eq_of_mem_replicate hcopy]
    exact ⟨hline.1, fun hdot => absurd hdot hline.2.1⟩
  · intro copy hcopy
    rw [List.eq_of_mem_replicate hcopy]
    exact hline.2.2

/-- What is assumed of the yEnc encoder: it writes lines without NUL, and stuffs the dots they start
with. -/
def YencLines (encodeStream : Bytes → Bytes) : Prop :=
  ∀ size, ∃ lines, PayloadLines (encodeYencPayload encodeStream size) lines

section Payloads

variable {encodeStream : Bytes → Bytes} (hyenc : YencLines encodeStream)
include hyenc

theorem payloadLines_slice (mode : PayloadMode) (size targetBytes headerLen : Nat) :
    ∃ lines, PayloadLines
      (preparedPayloadSlice mode (buildServerPayload encodeStream mode size) targetBytes headerLen)
      lines := by
  cases mode with
  | yenc => exact hyenc size
  | plain =>
    unfold preparedPayloadSlice buildServerPayload repeatedPayloadAtLeast repeatedPayloadLenAtLeast
    dsimp only
    rw [Slices.take_flatten_replicate]
    exact payloadLines_replicate _

end Payloads

theorem articleStatusLine_eq (status : String) (number : Nat) (messageId : Str) (text : String) :
    articleStatusLine status number (asBytes messageId) text =
      replyLine status number messageId text ++ CRLF := by
  have hspace : ascii " " = [SP] := by decide
  simp [articleStatusLine, replyLine, articleFields, hspace]

section Frames

variable {messageId : Str} (hid : validateMessageId messageId = true) {number : Nat}
  (hnumber : number ≤ MAX_ARTICLE_NUMBER)
include hid hnumber

theorem isFrame_generated_stat (buffer : Bytes) :
    IsFrame .stat (buildStatResponseInto buffer number (asBytes messageId)) := by
  have htext : LineText (ascii "223") (ascii " article retrieved") := by decide
  have hcode : StatusCode.parse (ascii "223") = some ⟨223, by decide, by decide⟩ := by decide
  unfold buildStatResponseInto clear
  rw [List.nil_append, articleStatusLine_eq]
  exact (htext.isArticleFrame_stat hid hnumber hcode rfl).isFrame

theorem isFrame_generated_head (buffer : Bytes) :
    IsFrame .head (buildHeadResponseInto buffer number (asBytes messageId)) := by
  have htext : LineText (ascii "221") (ascii " article retrieved") := by decide
  have hcode : StatusCode.parse (ascii "221") = some ⟨221, by decide, by decide⟩ := by decide
  have hfields := plainField_synthetic hid
  have hlines := fun line hline => (hfields line hline).content
  have hheaders := headerLines_of_plainFields hfields false
  have hempty : [] ∉ (syntheticHeaderLines (asBytes messageId)).tail := fun hmem =>
    (hfields [] (List.mem_of_mem_tail hmem)).ne_nil rfl
  have hfield := any_isFieldLine_of_plainFields (by simp [syntheticHeaderLines]) hfields
  have hframe : IsArticleFrame .head _ _ := htext.isArticleFrame hid hnumber hcode rfl (by decide)
    (bounds_lines hlines (ne_dot_of_headerLines hheaders) [])
    (readSections_head hlines hempty hheaders hfield)
  unfold buildHeadResponseInto clear
  rw [List.nil_append, articleStatusLine_eq, syntheticArticleHeaders_eq, appendDotTerminator_lines]
  simpa [replyLine, crlf_eq] using hframe.isFrame

theorem isFrame_generated_body (h : PayloadLines payload lines) :
    IsFrame .body (appendDotTerminator
      (articleStatusLine "222" number (asBytes messageId) " body follows" ++ payload)) := by
  have htext : LineText (ascii "222") (ascii " body follows") := by decide
  have hcode : StatusCode.parse (ascii "222") = some ⟨222, by decide, by decide⟩ := by decide
  obtain ⟨raw, rfl, hraw⟩ := exists_map_stuffLine h.wire
  have hnul : ∀ line ∈ raw, NUL ∉ line := by
    intro line hline
    rw [← nul_mem_stuffLine_iff]
    exact h.nul _ (List.mem_map_of_mem hline)
  have hframe : IsArticleFrame .body _ _ := htext.isArticleFrame hid hnumber hcode rfl (by decide)
    (bounds_wireLines h.wire []) (readSections_body hraw hnul)
  rw [articleStatusLine_eq, h.payload_eq, appendDotTerminator_lines]
  simpa [replyLine, crlf_eq] using hframe.isFrame

theorem isFrame_generated_article (h : PayloadLines payload lines) :
    IsFrame .article (articleStatusLine "220" number (asBytes messageId) " article follows" ++
      syntheticArticleHeaders (asBytes messageId) ++ CRLF ++ payload ++ DOT_TERMINATOR) := by
  have htext : LineText (ascii "220") (ascii " article follows") := by decide
  have hcode : StatusCode.parse (ascii "220") = some ⟨220, by decide, by decide⟩ := by decide
  have hfields := plainField_synthetic hid
  have hheaders := headerLines_of_plainFields hfields false
  have hne : syntheticHeaderLines (asBytes messageId) ≠ [] := by simp [syntheticHeaderLines]
  rw [articleStatusLine_eq, syntheticArticleHeaders_eq, h.payload_eq]
  generalize syntheticHeaderLines (asBytes messageId) = fields at hfields hheaders hne
  have hheaderContent : ∀ line ∈ fields, IsLineContent line ∧ line ≠ [] := fun line hline =>
    ⟨(hfields line hline).content, (hfields line hline).ne_nil⟩
  -- the separator and the payload are lines as well
  have hcontent : wireLines fields ++ CRLF ++ wireLines lines =
      wireLines (fields ++ [] :: lines) := by
    rw [wireLines_append, wireLines_cons, crlf_eq]
    simp
  have hall : ∀ line ∈ fields ++ [] :: lines, IsLineContent line ∧ line ≠ [DOT] := by
    simp only [List.forall_mem_append, List.forall_mem_cons]
    refine ⟨?_, ⟨by decide, by decide⟩, ?_⟩
    · exact fun line hline =>
        ⟨(hheaderContent line hline).1, ne_dot_of_headerLines hheaders line hline⟩
    · exact fun line hline => ⟨(h.wire line hline).content, (h.wire line hline).ne_dot⟩
  have hends := bounds_lines (fun line hline => (hall line hline).1)
    (fun line hline => (hall line hline).2) []
  have hparsed : Headers.parse (wireLines fields) = .ok ⟨wireLines (unfoldedLines fields)⟩ :=
    (Headers.parse_wireLines_iff fun line hline => (hheaderContent line hline).1).mpr
      ⟨hheaders, any_isFieldLine_of_plainFields hne hfields, rfl⟩
  have hbody :=
    (validateBodyContent_wireLines_iff fun line hline => (h.wire line hline).content).mpr
    ⟨h.wire, h.nul, rfl⟩
  have hsections := readSections_lines hne hheaderContent (wireLines lines)
  rw [hparsed, ok_bind, hbody, ok_bind] at hsections
  rw [← hcontent] at hends
  have hframe : IsArticleFrame .article _ _ :=
    htext.isArticleFrame hid hnumber hcode rfl (by decide) hends hsections
  simpa [replyLine, crlf_eq] using hframe.isFrame

end Frames

theorem exists_selectedMessageId {articleId : Nat} (h : articleId ∈ [1, 2, 3]) :
    ∃ messageId, selectedMessageId articleId = asBytes messageId ∧
      validateMessageId messageId = true := by
  simp only [List.mem_cons, List.not_mem_nil, or_false] at h
  rcases h with rfl | rfl | rfl
  · exact ⟨"<article.1@nntpbench.local>".toList, by decide⟩
  · exact ⟨"<article.2@nntpbench.local>".toList, by decide⟩
  · exact ⟨"<article.3@nntpbench.local>".toList, by decide⟩

theorem le_max_of_mem {articleId : Nat} (h : articleId ∈ [1, 2, 3]) :
    articleId ≤ MAX_ARTICLE_NUMBER := by
  unfold MAX_ARTICLE_NUMBER
  simp only [List.mem_cons, List.not_mem_nil, or_false] at h
  omega

theorem messageIdLine_first :
    ascii "Message-ID: <article.1@nntpbench.local>" = ascii "Message-ID: " ++
      selectedMessageId 1 := by
  decide

theorem HEAD_RESPONSE_eq : HEAD_RESPONSE = buildSelectedHeadResponseInto [] 1 := by
  have hline : ascii "221 1 <article.1@nntpbench.local> article retrieved" ++ CRLF =
      articleStatusLine "221" 1 (selectedMessageId 1) " article retrieved" := by decide
  have hlines : HEAD_RESPONSE = ascii "221 1 <article.1@nntpbench.local> article retrieved" ++
      CRLF ++ wireLines (syntheticHeaderLines (selectedMessageId 1)) ++ DOT_TERMINATOR := by
    rw [syntheticHeaderLines, ← messageIdLine_first]
    exact crlfText_eq _ ["Path: nntpbench.local!mock", "From: Bench User <bench@nntpbench.local>",
      "Newsgroups: alt.binaries.bench", "Subject: nntpbench synthetic article",
      "Message-ID: <article.1@nntpbench.local>", "Date: Fri, 15 May 2026 00:00:00 +0000"]
  unfold buildSelectedHeadResponseInto buildHeadResponseInto clear
  rw [List.nil_append, ← hline, syntheticArticleHeaders_eq, appendDotTerminator_lines, hlines]

theorem STAT_RESPONSE_eq : STAT_RESPONSE = buildSelectedStatResponseInto [] 1 := by
  decide

theorem BODY_RESPONSE_PREFIX_eq :
    BODY_RESPONSE_PREFIX = articleStatusLine "222" 1 (selectedMessageId 1) " body follows" := by
  decide

theorem ARTICLE_RESPONSE_PREFIX_eq :
    ARTICLE_RESPONSE_PREFIX = articleStatusLine "220" 1 (selectedMessageId 1) " article follows" ++
      syntheticArticleHeaders (selectedMessageId 1) ++ CRLF := by
  have hline : ascii "220 1 <article.1@nntpbench.local> article follows" ++ CRLF =
      articleStatusLine "220" 1 (selectedMessageId 1) " article follows" := by decide
  rw [← hline]
  have hempty : ascii "" = [] := by decide
  simp [ARTICLE_RESPONSE_PREFIX, syntheticArticleHeaders, crlfText, messageIdLine_first, hempty]

theorem PayloadLines.appendDotTerminator_eq (h : PayloadLines payload lines) (start : Bytes) :
    appendDotTerminator (start ++ CRLF ++ payload) = start ++ CRLF ++ payload ++
      DOT_TERMINATOR := by
  rw [h.payload_eq, appendDotTerminator_lines]

section Selected

variable {articleId : Nat} (h : articleId ∈ [1, 2, 3])
include h

theorem isFrame_selected_body (hpayload : PayloadLines payload lines) :
    IsFrame .body (appendDotTerminator
      (articleStatusLine "222" articleId (selectedMessageId articleId) " body follows" ++
        payload)) := by
  obtain ⟨messageId, hselected, hid⟩ := exists_selectedMessageId h
  rw [hselected]
  exact isFrame_generated_body hid (le_max_of_mem h) hpayload

theorem isFrame_selected_article (hpayload : PayloadLines payload lines) :
    IsFrame .article (appendDotTerminator
      (articleStatusLine "220" articleId (selectedMessageId articleId) " article follows" ++
        syntheticArticleHeaders (selectedMessageId articleId) ++ CRLF ++ payload)) := by
  obtain ⟨messageId, hselected, hid⟩ := exists_selectedMessageId h
  rw [hselected, hpayload.appendDotTerminator_eq]
  exact isFrame_generated_article hid (le_max_of_mem h) hpayload

theorem isFrame_selected_head (buffer : Bytes) :
    IsFrame .head (buildSelectedHeadResponseInto buffer articleId) := by
  obtain ⟨messageId, hselected, hid⟩ := exists_selectedMessageId h
  rw [buildSelectedHeadResponseInto, hselected]
  exact isFrame_generated_head hid (le_max_of_mem h) buffer

theorem isFrame_selected_stat (buffer : Bytes) :
    IsFrame .stat (buildSelectedStatResponseInto buffer articleId) := by
  obtain ⟨messageId, hselected, hid⟩ := exists_selectedMessageId h
  rw [buildSelectedStatResponseInto, hselected]
  exact isFrame_generated_stat hid (le_max_of_mem h) buffer

end Selected

section Prepared

variable {encodeStream : Bytes → Bytes} (hyenc : YencLines encodeStream)
include hyenc

theorem exists_prepared (start : Bytes) (mode : PayloadMode) (size : Nat) :
    ∃ payload lines, PayloadLines payload lines ∧
      (match mode with
        | .plain => buildGeneratedResponse start size
        | .yenc => framePrebuiltPayload start (buildServerPayload encodeStream mode size)) =
        appendDotTerminator (start ++ payload) := by
  cases mode with
  | yenc =>
    obtain ⟨lines, hpayload⟩ := hyenc size
    exact ⟨_, lines, hpayload, rfl⟩
  | plain =>
    by_cases hshort : start.length < size
    · obtain ⟨lines, hpayload⟩ := payloadLines_replicate (bodyLineCopies (size - start.length))
      refine ⟨_, lines, hpayload, ?_⟩
      dsimp only
      rw [buildGeneratedResponse, if_pos hshort, repeatedPayloadAtLeast]
    · obtain ⟨lines, hpayload⟩ := payloadLines_replicate 0
      refine ⟨_, lines, hpayload, ?_⟩
      dsimp only
      rw [buildGeneratedResponse, if_neg hshort, List.replicate_zero, List.flatten_nil]

theorem isFrame_bodyResponse (args : ServerArgs) :
    IsFrame .body (ServerConfig.fromBoundArgs encodeStream args).bodyResponse := by
  obtain ⟨payload, lines, hpayload, hprepared⟩ :=
    exists_prepared hyenc BODY_RESPONSE_PREFIX args.payloadMode args.bodyBytes
  have hfirst : 1 ∈ [1, 2, 3] := by decide
  have hframe := isFrame_selected_body hfirst hpayload
  rw [← BODY_RESPONSE_PREFIX_eq, ← hprepared] at hframe
  exact hframe

theorem isFrame_articleResponse (args : ServerArgs) :
    IsFrame .article (ServerConfig.fromBoundArgs encodeStream args).articleResponse := by
  obtain ⟨payload, lines, hpayload, hprepared⟩ :=
    exists_prepared hyenc ARTICLE_RESPONSE_PREFIX args.payloadMode args.articleBytes
  have hfirst : 1 ∈ [1, 2, 3] := by decide
  have hframe := isFrame_selected_article hfirst hpayload
  rw [← ARTICLE_RESPONSE_PREFIX_eq, ← hprepared] at hframe
  exact hframe

end Prepared

end NntpBench.Server
