import NntpBench.Article
import NntpBench.Lib.Except

namespace NntpBench.Protocol

open Terminator ExceptBind

variable {data content : Bytes} {fin : Nat} {kind : RequestKind} {article : ResponseInitialArticle}

theorem responseInitialLineLimit_ge (kind : RequestKind) (status : Option StatusCode) :
    512 ≤ responseInitialLineLimit kind status := by
  unfold responseInitialLineLimit MAX_AUTHINFO_SASL_RESPONSE_LINE_BYTES
    MAX_INITIAL_RESPONSE_LINE_BYTES
  split_ifs <;> omega

theorem responseInitialLineLimit_le (kind : RequestKind) (status : Option StatusCode) :
    responseInitialLineLimit kind status ≤ 4096 := by
  unfold responseInitialLineLimit MAX_AUTHINFO_SASL_RESPONSE_LINE_BYTES
    MAX_INITIAL_RESPONSE_LINE_BYTES
  split_ifs <;> omega

theorem lt_of_needMore_of_completeAt {more : Bytes} (h : detectResponseLineEnd data = .needMore)
    (hmore : detectResponseLineEnd (data ++ more) = .completeAt fin) : data.length < fin := by
  obtain ⟨line, rest, hsplit, hline, rfl⟩ := detectResponseLineEnd_eq_completeAt hmore
  by_contra hle
  have hle : (line ++ [CR, LF]).length ≤ data.length := by
    simp only [List.length_append, List.length_cons, List.length_nil]
    omega
  have hstart : line ++ [CR, LF] <+: data ++ more := ⟨rest, by rw [hsplit]; simp⟩
  obtain ⟨after, rfl⟩ :=
    List.prefix_of_prefix_length_le hstart (List.prefix_append data more) hle
  rw [List.append_assoc] at h
  have hdone := detectResponseLineEnd_line hline after
  simp only [List.cons_append, List.nil_append] at h
  rw [hdone] at h
  exact absurd h (by simp)

theorem StatusCode.parse_append_of_completeAt (more : Bytes)
    (h : detectResponseLineEnd data = .completeAt fin) :
    StatusCode.parse (data ++ more) = StatusCode.parse data := by
  by_cases hlen : 3 ≤ data.length
  · exact StatusCode.parse_append hlen more
  · obtain ⟨line, rest, rfl, -, -⟩ := detectResponseLineEnd_eq_completeAt h
    simp only [List.length_append, List.length_cons] at hlen
    have hline : line = [] := List.eq_nil_of_length_eq_zero (by omega)
    have hrest : rest = [] := List.eq_nil_of_length_eq_zero (by omega)
    subst hline hrest
    cases more with
    | nil => rfl
    | cons b more =>
      have hcr : StatusCode.digit CR = none := by decide
      simp [StatusCode.parse, hcr]

namespace ResponseInitial

theorem parse_of_completeAt (h : detectResponseLineEnd data = .completeAt fin) :
    parse kind data =
      if fin ≤ responseInitialLineLimit kind (StatusCode.parse data) then
        parseInitialLine kind (StatusCode.parse data) (data.take fin)
      else .invalid := by
  unfold parse detectBoundedResponseLineEnd
  simp only [h]
  split_ifs <;> rfl

theorem parse_of_needMore (h : detectResponseLineEnd data = .needMore) :
    parse kind data =
      if responseInitialLineLimit kind (StatusCode.parse data) ≤ data.length then .invalid
      else .needMore := by
  unfold parse detectBoundedResponseLineEnd
  simp only [h, ge_iff_le]
  split_ifs <;> rfl

theorem parse_of_invalid
    (h : detectResponseLineEnd data = .invalid) : parse kind data = .invalid := by
  unfold parse detectBoundedResponseLineEnd
  simp only [h]

theorem parseInitialLine_ne_needMore (kind : RequestKind) (status : Option StatusCode)
    (line : Bytes) : parseInitialLine kind status line ≠ .needMore := by
  unfold parseInitialLine
  cases status with
  | none => simp
  | some status =>
    dsimp only
    split_ifs
    · simp
    · cases parseResponseInitialArticle line <;> simp
    · simp
    · simp

theorem parse_append (more : Bytes)
    (h : parse kind data ≠ .needMore) : parse kind (data ++ more) = parse kind data := by
  -- A decided initial line stays decided, with the same result, when more bytes arrive.
  cases hdetect : detectResponseLineEnd data with
  | completeAt fin =>
    have hmore : detectResponseLineEnd (data ++ more) = .completeAt fin := by
      rw [detectResponseLineEnd_append more (by simp [hdetect]), hdetect]
    have hfin : fin ≤ data.length := by
      obtain ⟨line, rest, rfl, -, rfl⟩ := detectResponseLineEnd_eq_completeAt hdetect
      simp only [List.length_append, List.length_cons]
      omega
    rw [parse_of_completeAt hmore, parse_of_completeAt hdetect,
      StatusCode.parse_append_of_completeAt more hdetect, List.take_append_of_le_length hfin]
  | invalid =>
    have hmore : detectResponseLineEnd (data ++ more) = .invalid := by
      rw [detectResponseLineEnd_append more (by simp [hdetect]), hdetect]
    rw [parse_of_invalid hmore, parse_of_invalid hdetect]
  | needMore =>
    rw [parse_of_needMore hdetect] at h ⊢
    split_ifs at h ⊢ with hlong
    · have hlimit := responseInitialLineLimit_ge kind (StatusCode.parse data)
      have hstatus := StatusCode.parse_append (by omega : 3 ≤ data.length) more
      cases hmore : detectResponseLineEnd (data ++ more) with
      | completeAt fin =>
        have hlt := lt_of_needMore_of_completeAt hdetect hmore
        rw [parse_of_completeAt hmore, hstatus, if_neg (by omega)]
      | invalid => exact parse_of_invalid hmore
      | needMore =>
        rw [parse_of_needMore hmore, hstatus, if_pos]
        simp only [List.length_append]
        omega
    · exact absurd rfl h

theorem length_lt_of_parse_needMore (h : parse kind data = .needMore) : data.length < 4096 := by
  cases hdetect : detectResponseLineEnd data with
  | completeAt fin =>
    rw [parse_of_completeAt hdetect] at h
    split_ifs at h
    exact absurd h (parseInitialLine_ne_needMore _ _ _)
  | invalid =>
    rw [parse_of_invalid hdetect] at h
    exact absurd h (by simp)
  | needMore =>
    rw [parse_of_needMore hdetect] at h
    split_ifs at h with hlong
    have := responseInitialLineLimit_le kind (StatusCode.parse data)
    omega

theorem parse_eq_complete {initial : ResponseInitial} (h : parse kind data = .complete initial) :
    ∃ fin, detectResponseLineEnd data = .completeAt fin ∧
      fin ≤ responseInitialLineLimit kind (StatusCode.parse data) ∧
      parseInitialLine kind (StatusCode.parse data) (data.take fin) = .complete initial := by
  cases hdetect : detectResponseLineEnd data with
  | completeAt fin =>
    rw [parse_of_completeAt hdetect] at h
    split_ifs at h with hlimit
    exact ⟨fin, rfl, hlimit, h⟩
  | invalid =>
    rw [parse_of_invalid hdetect] at h
    exact absurd h (by simp)
  | needMore =>
    rw [parse_of_needMore hdetect] at h
    split_ifs at h

end ResponseInitial

def articleFields (code number messageId comment : Bytes) : Bytes :=
  code ++ SP :: (number ++ SP :: (messageId ++ comment))

/-- The content of an article status line, cut into status digits, number, message-id and
comment, with the fields that are read from it. -/
inductive ArticleLine : Bytes → ResponseInitialArticle → Prop where
  | mk {code number messageId comment : Bytes} {n : Nat} (hcode : code.length = 3)
    (hnumber : parseResponseArticleNumber number = some n)
    (hmessageId : isMessageIdToken messageId = true)
    (hcomment : validateOptionalTrailingComment comment = true) :
    ArticleLine (articleFields code number messageId comment)
      ⟨n, 4 + number.length + 1, 4 + number.length + 1 + messageId.length⟩

theorem space_not_mem_number {number : Bytes} {n : Nat}
    (h : parseResponseArticleNumber number = some n) : SP ∉ number ∧ number ≠ [] := by
  unfold parseResponseArticleNumber at h
  split_ifs at h with hshape hmax
  simp only [not_or, Bool.not_eq_true, Bool.not_eq_false', List.all_eq_true] at hshape
  refine ⟨?_, hshape.1⟩
  intro hmem
  have hdigit := hshape.2.2 SP hmem
  exact absurd hdigit (by decide)

theorem not_mem_messageId {messageId : Bytes} (h : isMessageIdToken messageId = true) :
    ∃ inner, messageId = 60 :: (inner ++ [62]) ∧ 62 ∉ inner ∧ SP ∉ messageId := by
  obtain ⟨inner, rfl, hinner⟩ := messageIdToken_shape h
  refine ⟨inner, rfl, ?_, ?_⟩
  · intro hmem
    exact absurd (hinner 62 hmem) (by decide)
  · intro hmem
    simp only [List.mem_cons, List.mem_append, List.not_mem_nil, or_false] at hmem
    rcases hmem with heq | hmem | heq
    · exact absurd heq (by decide)
    · exact absurd (hinner SP hmem) (by decide)
    · exact absurd heq (by decide)

theorem comment_shape {comment : Bytes} (h : validateOptionalTrailingComment comment = true) :
    comment = [] ∨ ∃ text, comment = SP :: text := by
  unfold validateOptionalTrailingComment at h
  cases comment with
  | nil => exact Or.inl rfl
  | cons b text =>
    right
    simp only [stripStart, reduceCtorEq, decide_false, Bool.false_or] at h
    split_ifs at h with hstart
    · have hb : SP = b := by simpa [ascii] using hstart
      exact ⟨text, by rw [← hb]⟩
    · simp at h

theorem memchr_append_cons {needle : UInt8} {before : Bytes} (h : needle ∉ before)
    (after : Bytes) : memchr needle (before ++ needle :: after) = some before.length :=
  memchr_eq_some_iff.mpr ⟨before, after, rfl, rfl, h⟩

theorem memchr_token {token rest : Bytes} (htoken : SP ∉ token)
    (hrest : rest = [] ∨ ∃ tail, rest = SP :: tail) :
    (memchr SP (token ++ rest)).getD (token ++ rest).length = token.length := by
  rcases hrest with rfl | ⟨tail, rfl⟩
  · have hnone : memchr SP (token ++ []) = none := by
      rw [List.append_nil]
      exact memchr_eq_none_iff.mpr htoken
    rw [hnone]
    simp
  · rw [memchr_append_cons htoken]
    rfl

theorem exists_token_split (value : Bytes) :
    ∃ token rest, value = token ++ rest ∧ SP ∉ token ∧
      (rest = [] ∨ ∃ tail, rest = SP :: tail) := by
  cases hfind : memchr SP value with
  | none => exact ⟨value, [], by simp, memchr_eq_none_iff.mp hfind, Or.inl rfl⟩
  | some i =>
    obtain ⟨before, after, rfl, -, hnot⟩ := memchr_eq_some_iff.mp hfind
    exact ⟨before, SP :: after, rfl, hnot, Or.inr ⟨after, rfl⟩⟩

theorem stripSuffix_crlf_eq_some {line : Bytes} :
    stripSuffix CRLF line = some content ↔ line = content ++ CRLF := by
  unfold stripSuffix
  constructor
  · intro h
    split_ifs at h with hend
    obtain ⟨front, rfl⟩ := hend
    obtain rfl := Option.some.inj h
    simp
  · intro h
    subst h
    rw [if_pos (List.suffix_append _ _)]
    simp

section Fields

variable {code number messageId comment : Bytes}

theorem drop_articleFields (hcode : code.length = 3) (k : Nat) :
    (articleFields code number messageId comment).drop (4 + k) =
      (number ++ SP :: (messageId ++ comment)).drop k := by
  rw [articleFields, List.drop_append, List.drop_of_length_le (by omega), hcode]
  simp [show 4 + k - 3 = k + 1 by omega]

theorem drop_articleFields_messageId (hcode : code.length = 3) :
    (articleFields code number messageId comment).drop (4 + number.length + 1) =
      messageId ++ comment := by
  rw [Nat.add_assoc, drop_articleFields hcode, List.drop_append]
  simp

theorem drop_articleFields_comment (hcode : code.length = 3) :
    (articleFields code number messageId comment).drop
      (4 + number.length + 1 + messageId.length) = comment := by
  rw [← List.drop_drop, drop_articleFields_messageId hcode, List.drop_left]

theorem extract_articleFields_number (hcode : code.length = 3) :
    (articleFields code number messageId comment).extract 4 (4 + number.length) = number := by
  rw [List.extract_eq_take_drop, show 4 = 4 + 0 from rfl, drop_articleFields hcode]
  simp

theorem extract_articleFields_messageId (hcode : code.length = 3) :
    (articleFields code number messageId comment).extract (4 + number.length + 1)
      (4 + number.length + 1 + messageId.length) = messageId := by
  rw [List.extract_eq_take_drop, drop_articleFields_messageId hcode, Nat.add_sub_cancel_left,
    List.take_left]

theorem length_articleFields (hcode : code.length = 3) :
    (articleFields code number messageId comment).length =
      4 + number.length + 1 + messageId.length + comment.length := by
  simp only [articleFields, List.length_append, List.length_cons, hcode]
  omega

theorem memchr_articleFields_number (hcode : code.length = 3) (hnumber : SP ∉ number) :
    memchr SP ((articleFields code number messageId comment).drop 4) = some number.length := by
  rw [show 4 = 4 + 0 from rfl, drop_articleFields hcode, List.drop_zero]
  exact memchr_append_cons hnumber _

theorem parseResponseInitialArticle_fields (hcode : code.length = 3) (hnumber : SP ∉ number)
    (hmessageId : SP ∉ messageId) (hcomment : comment = [] ∨ ∃ text, comment = SP :: text) :
    parseResponseInitialArticle (articleFields code number messageId comment ++ CRLF) =
      (parseResponseArticleNumber number).bind fun n =>
        if !isMessageIdToken messageId then none
        else if !validateOptionalTrailingComment comment then none
        else some ⟨n, 4 + number.length + 1, 4 + number.length + 1 + messageId.length⟩ := by
  -- The streaming parser reads the fields between the spaces of the line.
  have hthird : (articleFields code number messageId comment)[3]? = some SP := by
    rw [articleFields, ← hcode]
    simp
  unfold parseResponseInitialArticle
  rw [stripSuffix_crlf_eq_some.mpr rfl]
  simp only [Option.bind_eq_bind, Option.bind_some, hthird, ne_eq, not_true_eq_false, if_false,
    memchr_articleFields_number hcode hnumber, Option.map_some,
    extract_articleFields_number hcode, drop_articleFields_messageId hcode]
  -- the message-id ends at the comment's space, or with the line
  rcases hcomment with hempty | ⟨text, htext⟩
  · have hnone : memchr SP (messageId ++ comment) = none := by
      rw [hempty, List.append_nil]
      exact memchr_eq_none_iff.mpr hmessageId
    have hlength : (articleFields code number messageId comment).length =
        4 + number.length + 1 + messageId.length := by
      rw [length_articleFields hcode, hempty]
      rfl
    simp only [hnone, hlength, extract_articleFields_messageId hcode,
      drop_articleFields_comment hcode]
  · have hsome : memchr SP (messageId ++ comment) = some messageId.length := by
      rw [htext]
      exact memchr_append_cons hmessageId text
    simp only [hsome, extract_articleFields_messageId hcode, drop_articleFields_comment hcode]

theorem splitRequiredResponseTokens_succ (n : Nat) {token rest : Bytes} (htoken : SP ∉ token)
    (hrest : rest = [] ∨ ∃ tail, rest = SP :: tail) :
    splitRequiredResponseTokens (n + 1) (token ++ rest) =
      if token = [] then none
      else if n = 0 then some ([token], rest)
      else if rest = [] ∨ rest[1]? = some SP then none
      else (splitRequiredResponseTokens n (rest.drop 1)).map fun (tokens, last) =>
        (token :: tokens, last) := by
  rw [splitRequiredResponseTokens]
  cases token with
  | nil => rcases hrest with rfl | ⟨tail, rfl⟩ <;> simp
  | cons b token =>
    have hb : b ≠ SP := by
      intro heq
      exact htoken (by simp [heq])
    have hfin := memchr_token htoken hrest
    rw [if_neg (by simp [hb])]
    dsimp only
    rw [hfin, List.take_left, List.drop_left]
    rcases hrest with rfl | ⟨tail, rfl⟩ <;> simp

theorem splitRequiredResponseTokens_fields (hnumber : number ≠ [] ∧ SP ∉ number)
    (hmessageId : messageId ≠ [] ∧ SP ∉ messageId)
    (hcomment : comment = [] ∨ ∃ text, comment = SP :: text) :
    splitRequiredResponseTokens 2 (number ++ SP :: (messageId ++ comment)) =
      some ([number, messageId], comment) := by
  have hsecond : (SP :: (messageId ++ comment))[1]? ≠ some SP := by
    intro h
    cases messageId with
    | nil => exact hmessageId.1 rfl
    | cons b rest =>
      have hb : b = SP := by simpa using h
      exact hmessageId.2 (by simp [hb])
  rw [splitRequiredResponseTokens_succ 1 hnumber.2 (Or.inr ⟨_, rfl⟩), if_neg hnumber.1,
    if_neg (by omega), if_neg (by simpa using hsecond), List.drop_one, List.tail_cons,
    splitRequiredResponseTokens_succ 0 hmessageId.2 hcomment, if_neg hmessageId.1, if_pos rfl]
  rfl

theorem exists_fields_of_splitRequiredResponseTokens {arguments : Bytes} {tokens : List Bytes}
    (h : splitRequiredResponseTokens 2 arguments = some (tokens, comment)) :
    ∃ number messageId, tokens = [number, messageId] ∧
      arguments = number ++ SP :: (messageId ++ comment) := by
  obtain ⟨number, rest, rfl, hnumber, hrest⟩ := exists_token_split arguments
  rw [splitRequiredResponseTokens_succ 1 hnumber hrest, if_neg (by omega : ¬ 1 = 0)] at h
  split_ifs at h with hempty hdouble
  rcases hrest with rfl | ⟨tail, rfl⟩
  · exact absurd (Or.inl rfl) hdouble
  · obtain ⟨messageId, last, rfl, hmessageId, hlast⟩ := exists_token_split tail
    rw [List.drop_one, List.tail_cons, splitRequiredResponseTokens_succ 0 hmessageId hlast,
      if_pos rfl] at h
    split_ifs at h with hidEmpty
    · simp at h
    · simp only [Option.map_some, Option.some.injEq, Prod.mk.injEq] at h
      obtain ⟨rfl, rfl⟩ := h
      exact ⟨number, messageId, rfl, rfl⟩

end Fields

theorem ArticleLine.range (h : ArticleLine content article) :
    3 ≤ content.length ∧ article.messageIdStart ≤ article.messageIdEnd ∧
      article.messageIdEnd ≤ content.length ∧
      isMessageIdToken (content.extract article.messageIdStart article.messageIdEnd) = true := by
  obtain ⟨hcode, -, hmessageId, -⟩ := h
  rw [extract_articleFields_messageId hcode, length_articleFields hcode]
  dsimp only
  exact ⟨by omega, by omega, by omega, hmessageId⟩

theorem articleLine_iff_parseResponseInitialArticle :
    parseResponseInitialArticle (content ++ CRLF) = some article ↔ ArticleLine content article := by
  apply Iff.intro
  · intro h
    have hthird : content[3]? = some SP := by
      by_contra hne
      rw [parseResponseInitialArticle, stripSuffix_crlf_eq_some.mpr rfl] at h
      simp [hne] at h
    have hsplit : content = content.take 3 ++ SP :: content.drop 4 := by
      obtain ⟨hlt, hget⟩ := List.getElem?_eq_some_iff.mp hthird
      rw [← hget, ← List.drop_eq_getElem_cons hlt, List.take_append_drop]
    have hcode : (content.take 3).length = 3 := by
      obtain ⟨hlt, -⟩ := List.getElem?_eq_some_iff.mp hthird
      rw [List.length_take]
      omega
    cases hspace : memchr SP (content.drop 4) with
    | none =>
      rw [parseResponseInitialArticle, stripSuffix_crlf_eq_some.mpr rfl] at h
      simp [hthird, hspace] at h
    | some numberLength =>
      obtain ⟨number, rest, hnumberSplit, -, hnumberSpace⟩ := memchr_eq_some_iff.mp hspace
      obtain ⟨messageId, comment, rfl, hidSpace, hcomment⟩ := exists_token_split rest
      rw [hnumberSplit, ← articleFields] at hsplit
      rw [hsplit, parseResponseInitialArticle_fields hcode hnumberSpace hidSpace hcomment] at h
      obtain ⟨n, hnumber, h⟩ := Option.bind_eq_some_iff.mp h
      split_ifs at h with hid hcommentValid
      cases h
      rw [hsplit]
      exact .mk hcode hnumber (by simpa using hid) (by simpa using hcommentValid)
  · rintro @⟨code, number, messageId, comment, n, hcode, hnumber, hmessageId, hcomment⟩
    obtain ⟨-, -, -, hidspace⟩ := not_mem_messageId hmessageId
    rw [parseResponseInitialArticle_fields hcode (space_not_mem_number hnumber).1 hidspace
      (comment_shape hcomment)]
    simp [hnumber, hmessageId, hcomment]

theorem articleLine_of_validateArticleStatusResponseArguments {code arguments : Bytes}
    (hcode : code.length = 3)
    (h : validateArticleStatusResponseArguments arguments true = true) :
    ∃ article, ArticleLine (code ++ SP :: arguments) article := by
  unfold validateArticleStatusResponseArguments at h
  cases hsplit : splitRequiredResponseTokens 2 arguments with
  | none => simp [hsplit] at h
  | some result =>
    obtain ⟨tokens, comment⟩ := result
    obtain ⟨number, messageId, rfl, rfl⟩ := exists_fields_of_splitRequiredResponseTokens hsplit
    simp only [hsplit, Bool.true_or, Bool.and_eq_true, Option.any_eq_true] at h
    obtain ⟨⟨⟨n, hnumber, -⟩, hmessageId⟩, hcomment⟩ := h
    exact ⟨_, .mk hcode hnumber hmessageId hcomment⟩

theorem validateArticleStatusResponseArguments_of_articleLine (h : ArticleLine content article) :
    ∃ arguments, responseArguments content = some arguments ∧
      validateArticleStatusResponseArguments arguments true = true := by
  obtain @⟨code, number, messageId, comment, n, hcode, hnumber, hmessageId, hcomment⟩ := h
  obtain ⟨hspace, hne⟩ := space_not_mem_number hnumber
  obtain ⟨inner, hinner, -, hidspace⟩ := not_mem_messageId hmessageId
  refine ⟨number ++ SP :: (messageId ++ comment), ?_, ?_⟩
  · unfold responseArguments getFrom
    rw [if_pos (by rw [length_articleFields hcode]; omega), articleFields, ← hcode,
      List.drop_left]
    simp
  · unfold validateArticleStatusResponseArguments
    rw [splitRequiredResponseTokens_fields ⟨hne, hspace⟩ ⟨by simp [hinner], hidspace⟩
      (comment_shape hcomment)]
    simp [hnumber, hmessageId, hcomment]

theorem isArticlePair_iff {status : Nat} :
    isArticlePair kind status = true ↔
      (kind = .article ∧ status = 220) ∨ (kind = .head ∧ status = 221) ∨
        (kind = .body ∧ status = 222) ∨ (kind = .stat ∧ status = 223) := by
  simp [isArticlePair, or_assoc]

theorem validateResponseArguments_of_isArticlePair {status : Nat}
    (h : isArticlePair kind status = true) (arguments : Bytes) :
    validateResponseArguments kind status arguments =
      validateArticleStatusResponseArguments arguments true := by
  rcases isArticlePair_iff.mp h with ⟨rfl, rfl⟩ | ⟨rfl, rfl⟩ | ⟨rfl, rfl⟩ | ⟨rfl, rfl⟩ <;> rfl

theorem validateResponseInitialLine_crlf (kind : RequestKind) (status : StatusCode)
    (content : Bytes) :
    validateResponseInitialLine kind status (content ++ CRLF) =
      (3 ≤ content.length &&
        (responseArguments content).any (validateResponseArguments kind status.code)) := by
  unfold validateResponseInitialLine
  by_cases hlen : 3 ≤ content.length
  · have hsuffix : CRLF <:+ content ++ CRLF := List.suffix_append content CRLF
    rw [if_neg (by simp only [List.length_append, length_crlf, not_or, not_not]
                   exact ⟨by omega, hsuffix⟩)]
    simp [hlen]
  · rw [if_pos (Or.inl (by simp only [List.length_append, length_crlf]; omega))]
    simp [hlen]

theorem validateResponseInitialLine_of_isArticlePair {status : StatusCode}
    (h : isArticlePair kind status.code = true) (content : Bytes) :
    validateResponseInitialLine kind status (content ++ CRLF) =
      (parseResponseInitialArticle (content ++ CRLF)).isSome := by
  -- For an article response the argument check says what the streaming parser says.
  rw [validateResponseInitialLine_crlf, Bool.eq_iff_iff]
  simp only [Bool.and_eq_true, decide_eq_true_eq, Option.any_eq_true,
    validateResponseArguments_of_isArticlePair h, Option.isSome_iff_exists,
    articleLine_iff_parseResponseInitialArticle]
  apply Iff.intro
  · rintro ⟨hlen, arguments, harguments, hvalid⟩
    unfold responseArguments at harguments
    rw [getFrom_of_le hlen] at harguments
    have hcode : (content.take 3).length = 3 := by
      rw [List.length_take]
      omega
    cases hrest : content.drop 3 with
    | nil =>
      simp only [hrest, Option.some.injEq] at harguments
      subst harguments
      exact absurd hvalid (by decide)
    | cons byte rest =>
      simp only [hrest] at harguments
      split_ifs at harguments with hbyte
      cases harguments
      have hsplit : content = content.take 3 ++ SP :: arguments := by
        rw [← hbyte, ← hrest, List.take_append_drop]
      rw [hsplit]
      exact articleLine_of_validateArticleStatusResponseArguments hcode hvalid
  · rintro ⟨article, harticle⟩
    exact ⟨harticle.range.1, validateArticleStatusResponseArguments_of_articleLine harticle⟩

theorem parseInitialLine_crlf (kind : RequestKind) (status : StatusCode) (content : Bytes) :
    parseInitialLine kind (some status) (content ++ CRLF) =
      if (ResponseDescriptor.forRequestStatus kind status).framing = .unexpected then .invalid
      else if !validateResponseInitialLine kind status (content ++ CRLF) then .invalid
      else .complete
        { status, descriptor := ResponseDescriptor.forRequestStatus kind status
          article :=
            if isArticlePair kind status.code then parseResponseInitialArticle (content ++ CRLF)
            else none } := by
  unfold parseInitialLine
  dsimp only
  by_cases hpair : isArticlePair kind status.code = true
  · rw [validateResponseInitialLine_of_isArticlePair hpair]
    simp only [hpair, if_true]
    cases parseResponseInitialArticle (content ++ CRLF) <;> simp
  · simp only [hpair, if_false, Bool.false_eq_true]
    cases validateResponseInitialLine kind status (content ++ CRLF) <;> simp

theorem parseFirstLine_of_articleLine (h : ArticleLine content article)
    (hcode : SP ∉ content.take 3) :
    ∃ parsed, parseFirstLine content = .ok parsed ∧
      parsed.messageIdRange.start = article.messageIdStart ∧
      parsed.messageIdRange.stop = article.messageIdEnd ∧
      parsed.articleNumber = some article.articleNumber := by
  -- The article parser cuts the message-id at its closing bracket and reads the same fields.
  obtain @⟨code, number, messageId, comment, n, hlen, hnumber, hmessageId, hcomment⟩ := h
  obtain ⟨hspace, -⟩ := space_not_mem_number hnumber
  obtain ⟨inner, hinner, hclose, -⟩ := not_mem_messageId hmessageId
  have hfirst : memchr SP (articleFields code number messageId comment) = some 3 := by
    have htake : (articleFields code number messageId comment).take 3 = code := by
      rw [articleFields, ← hlen, List.take_left]
    rw [htake] at hcode
    rw [articleFields, memchr_append_cons hcode, hlen]
  have hopen : (articleFields code number messageId comment)[4 + number.length + 1]? = some 60 := by
    rw [← List.head?_drop, drop_articleFields_messageId hlen, hinner]
    rfl
  have hbracket : memchr 62 (messageId ++ comment) = some (messageId.length - 1) := by
    have hsplit : messageId ++ comment = (60 :: inner) ++ 62 :: comment := by simp [hinner]
    have hnot : 62 ∉ 60 :: inner := by
      simp only [List.mem_cons, not_or]
      exact ⟨by decide, hclose⟩
    rw [hsplit, memchr_append_cons hnot, hinner]
    simp
  have hend : 4 + number.length + 1 + (messageId.length - 1) + 1 =
      4 + number.length + 1 + messageId.length := by
    rw [hinner, List.length_cons]
    omega
  have hnext : ¬ (4 + number.length + 1 + messageId.length <
        (articleFields code number messageId comment).length ∧
      (articleFields code number messageId comment)[4 + number.length + 1 + messageId.length]? ≠
        some SP) := by
    rintro ⟨hlt, hne⟩
    rw [← List.head?_drop, drop_articleFields_comment hlen] at hne
    rcases comment_shape hcomment with rfl | ⟨text, rfl⟩
    · rw [length_articleFields hlen] at hlt
      simp at hlt
    · simp at hne
  obtain ⟨text, htext, hvalid⟩ := (Option.any_eq_true _ _).mp hmessageId
  have hborrowed : MessageId.fromBorrowed text = some ⟨text, hvalid⟩ := by
    simp [MessageId.fromBorrowed, hvalid]
  refine ⟨⟨⟨text, hvalid⟩, ⟨4 + number.length + 1, 4 + number.length + 1 + messageId.length,
    by omega⟩, some n⟩, ?_, rfl, rfl, rfl⟩
  unfold parseFirstLine articleNumberFromToken
  simp only [hfirst, okOr, bind, Except.bind, ne_eq, not_true_eq_false, if_false,
    show 3 + 1 = 4 from rfl, memchr_articleFields_number hlen hspace, Option.map_some,
    extract_articleFields_number hlen, hnumber, hopen, drop_articleFields_messageId hlen, hbracket,
    hend, hnext, drop_articleFields_comment hlen, hcomment, Bool.not_true, Bool.false_eq_true,
    and_false, extract_articleFields_messageId hlen, htext, hborrowed, ArticleFrameRange.new]
  simp

theorem okOr_eq_ok {α : Type} {error : ArticleParseError} {value : Option α} {a : α} :
    okOr error value = .ok a ↔ value = some a := by
  cases value <;> simp [okOr]

theorem articleLine_of_parseFirstLine {parsed : ParsedFirstLine}
    (h : parseFirstLine content = .ok parsed) : ∃ article, ArticleLine content article := by
  -- The article parser accepts no other lines.
  unfold parseFirstLine at h
  obtain ⟨firstSpace, hfirst, h⟩ := bind_eq_ok.mp h
  split_ifs at h with hthree
  rw [not_not] at hthree
  subst hthree
  obtain ⟨secondSpace, hsecond, h⟩ := bind_eq_ok.mp h
  obtain ⟨n, hnumber, h⟩ := bind_eq_ok.mp h
  dsimp only at h
  split_ifs at h with hopen
  obtain ⟨msgidEnd, hend, h⟩ := bind_eq_ok.mp h
  split_ifs at h with hspace hcomment
  obtain ⟨msgid, hutf8, h⟩ := bind_eq_ok.mp h
  obtain ⟨messageId, hid, h⟩ := bind_eq_ok.mp h
  clear h
  rw [okOr_eq_ok] at hfirst hsecond hend hutf8 hid
  rw [articleNumberFromToken, okOr_eq_ok] at hnumber
  -- the line is cut at its two spaces and at the closing bracket
  obtain ⟨code, rest, rfl, hcode, -⟩ := memchr_eq_some_iff.mp hfirst
  obtain ⟨k, hk, rfl⟩ := Option.map_eq_some_iff.mp hsecond
  have hdrop : (code ++ SP :: rest).drop (3 + 1) = rest := by
    rw [← hcode]
    simp
  rw [hdrop] at hk
  obtain ⟨number, tail, rfl, rfl, -⟩ := memchr_eq_some_iff.mp hk
  obtain ⟨j, hj, rfl⟩ := Option.map_eq_some_iff.mp hend
  have htail : (code ++ SP :: (number ++ SP :: tail)).drop (3 + 1 + number.length + 1) = tail := by
    have hfields : (articleFields code number tail []).drop (4 + number.length + 1) = tail ++ [] :=
      drop_articleFields_messageId hcode
    rw [articleFields, List.append_nil] at hfields
    exact hfields
  rw [htail] at hj
  obtain ⟨inner, comment, rfl, rfl, -⟩ := memchr_eq_some_iff.mp hj
  have hfields : code ++ SP :: (number ++ SP :: (inner ++ 62 :: comment)) =
      articleFields code number (inner ++ [62]) comment := by
    simp [articleFields]
  have hstop : 3 + 1 + number.length + 1 + inner.length + 1 =
      4 + number.length + 1 + (inner ++ [62]).length := by
    simp only [List.length_append, List.length_singleton]
    omega
  rw [hfields] at hnumber hspace hcomment hutf8 ⊢
  rw [hstop] at hspace hcomment hutf8
  rw [extract_articleFields_number hcode] at hnumber
  rw [extract_articleFields_messageId hcode] at hutf8
  rw [drop_articleFields_comment hcode, length_articleFields hcode] at hcomment
  refine ⟨_, .mk hcode hnumber ?_ ?_⟩
  · rw [isMessageIdToken, hutf8, Option.any_some]
    unfold MessageId.fromBorrowed at hid
    split_ifs at hid with hvalid
    exact hvalid
  · by_cases hnil : comment = []
    · subst hnil
      decide
    · have hpos := List.length_pos_iff.mpr hnil
      by_contra hbad
      exact hcomment ⟨by omega, by simpa using hbad⟩

end NntpBench.Protocol
