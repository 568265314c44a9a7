import NntpBench.ArticleSections

namespace NntpBench.Protocol

open Terminator ListSearch ExceptBind

variable {line : Bytes} {lines : List Bytes}

theorem stuffLine_append (h : line ≠ []) (rest : Bytes) :
    stuffLine (line ++ rest) = stuffLine line ++ rest := by
  have hdot : ascii "." <+: line ++ rest ↔ ascii "." <+: line := by
    match line, h with
    | byte :: line, _ =>
      have hsingle : ascii "." = [DOT] := by decide
      simp [hsingle]
  unfold stuffLine
  by_cases hstart : ascii "." <+: line
  · rw [if_pos hstart, if_pos (hdot.mpr hstart), List.append_assoc]
  · rw [if_neg hstart, if_neg (mt hdot.mp hstart)]

theorem stuffLine_fold (h : isFold line = true) : stuffLine line = line := by
  apply stuffLine_of_not_dot
  rintro ⟨rest, rfl⟩
  cases h

theorem isFold_stuffLine (line : Bytes) : isFold (stuffLine line) = isFold line := by
  unfold stuffLine
  split_ifs with hdot
  · obtain ⟨rest, rfl⟩ := hdot
    rfl
  · rfl

theorem stuffLine_eq_nil_iff : stuffLine line = [] ↔ line = [] := by
  unfold stuffLine
  split_ifs with hdot
  · obtain ⟨rest, rfl⟩ := hdot
    constructor <;> exact nofun
  · exact Iff.rfl

theorem isFieldLine_stuffLine (line : Bytes) : isFieldLine (stuffLine line) = isFieldLine line := by
  rw [isFieldLine, isFieldLine, isFold_stuffLine]
  simp only [ne_eq, stuffLine_eq_nil_iff]

theorem ValidName.stuffed {name : Bytes} (h : ValidName name) : ValidName (stuffLine name) := by
  unfold stuffLine
  split_ifs with hdot
  · refine ⟨List.append_ne_nil_of_left_ne_nil (by decide) _, ?_, ?_⟩
    · rw [List.forall_mem_append]
      exact ⟨by decide, h.visible⟩
    · rw [List.mem_append, not_or]
      exact ⟨by decide, h.colon⟩
  · exact h

theorem head?_wireLines_stuffed (lines : List Bytes) :
    (wireLines (lines.map stuffLine)).head? = some SP ↔ (wireLines lines).head? = some SP := by
  cases lines with
  | nil => exact Iff.rfl
  | cons line lines =>
    rw [List.map_cons, wireLines_cons, wireLines_cons]
    unfold stuffLine
    split_ifs with hdot
    · obtain ⟨rest, rfl⟩ := hdot
      constructor <;> intro h <;> exact absurd h (by decide : ¬ some DOT = some SP)
    · cases line with
      | nil => exact Iff.rfl
      | cons byte line => exact Iff.rfl

theorem CheckedLine.stuffed {before : Bool} (h : CheckedLine before line (wireLines lines)) :
    CheckedLine before (stuffLine line) (wireLines (lines.map stuffLine)) := by
  unfold CheckedLine at h ⊢
  by_cases hnil : line = []
  · rw [if_pos (stuffLine_eq_nil_iff.mpr hnil)]
    trivial
  rw [if_neg hnil] at h
  rw [if_neg (mt stuffLine_eq_nil_iff.mp hnil), isFold_stuffLine]
  by_cases hfold : isFold line = true
  · rw [if_pos hfold] at h ⊢
    rw [stuffLine_fold hfold]
    exact h
  · rw [if_neg hfold] at h ⊢
    obtain ⟨name, value, hparts⟩ := h
    refine ⟨stuffLine name, value, ?_, hparts.name.stuffed, ?_, hparts.nul⟩
    · rw [hparts.line_eq, stuffLine_append hparts.name.ne_nil]
    · have hspace := hparts.space
      split_ifs at hspace ⊢ with hvalue
      · exact (head?_wireLines_stuffed lines).mpr hspace
      · exact hspace

theorem HeaderLines.stuffed {before : Bool} (h : HeaderLines before lines) :
    HeaderLines before (lines.map stuffLine) := by
  induction lines generalizing before with
  | nil => trivial
  | cons line lines ih =>
    rw [HeaderLines] at h
    exact ⟨h.1.stuffed, ih h.2⟩

theorem joinFolds_stuffed {current : Bytes} (hcurrent : current ≠ [])
    (h : ∀ line ∈ lines, line ≠ []) :
    joinFolds (stuffLine current) (lines.map stuffLine) = (joinFolds current lines).map
      stuffLine := by
  induction lines generalizing current with
  | nil => rfl
  | cons line lines ih =>
    rw [List.forall_mem_cons] at h
    rw [List.map_cons, joinFolds, joinFolds, isFold_stuffLine]
    split_ifs with hfold
    · rw [stuffLine_fold hfold, ← stuffLine_append hcurrent, ih (by simp) h.2]
    · rw [ih h.1 h.2, List.map_cons]

theorem unfoldedLines_stuffed (h : ∀ line ∈ lines, line ≠ []) :
    unfoldedLines (lines.map stuffLine) = (unfoldedLines lines).map stuffLine := by
  cases lines with
  | nil => rfl
  | cons line lines =>
    rw [List.forall_mem_cons] at h
    exact joinFolds_stuffed h.1 h.2

theorem exists_isPrefix_joinFolds {current : Bytes} (hline : line ∈ current :: lines)
    (hfold : isFold line = false) :
    ∃ joined ∈ joinFolds current lines, line <+: joined := by
  induction lines generalizing current with
  | nil =>
    rw [List.mem_singleton] at hline
    exact ⟨current, List.mem_cons_self, by rw [hline]⟩
  | cons next lines ih =>
    rcases List.mem_cons.mp hline with rfl | hrest
    · obtain ⟨rest, others, hjoin⟩ := exists_joinFolds_eq line (next :: lines)
      rw [hjoin]
      exact ⟨_, List.mem_cons_self, List.prefix_append _ _⟩
    · rw [joinFolds]
      split_ifs with hnext
      · apply ih
        rcases List.mem_cons.mp hrest with rfl | hrest
        · rw [hfold] at hnext
          cases hnext
        · exact List.mem_cons_of_mem _ hrest
      · obtain ⟨joined, hjoined, hstart⟩ := ih hrest
        exact ⟨joined, List.mem_cons_of_mem _ hjoined, hstart⟩

theorem exists_isPrefix_unfoldedLines (hline : line ∈ lines)
    (hfold : isFold line = false) : ∃ joined ∈ unfoldedLines lines, line <+: joined := by
  cases lines with
  | nil => cases hline
  | cons first lines => exact exists_isPrefix_joinFolds hline hfold

theorem unfoldedLines_map_stuffLine_iff (h : ∀ line ∈ lines, line ≠ []) :
    unfoldedLines (lines.map stuffLine) = unfoldedLines lines ↔
      ∀ line ∈ lines, ¬ ascii "." <+: line := by
  -- The unfolded block is not changed by stuffing exactly if no line starts with a dot.
  constructor
  · intro hsame line hline hdot
    have hfold : isFold line = false := by
      rw [Bool.eq_false_iff]
      intro hfold
      have hstuffed := stuffLine_fold hfold
      rw [stuffLine, if_pos hdot] at hstuffed
      have hlength := congrArg List.length hstuffed
      rw [List.length_append, show (ascii ".").length = 1 by decide] at hlength
      omega
    obtain ⟨joined, hjoined, hstart⟩ := exists_isPrefix_unfoldedLines hline hfold
    -- the joined line would have one dot more
    rw [unfoldedLines_stuffed h] at hsame
    have hfixed : stuffLine joined = joined := by
      have hid : (unfoldedLines lines).map stuffLine = (unfoldedLines lines).map id := by
        rw [hsame, List.map_id]
      exact List.map_inj_left.mp hid joined hjoined
    rw [stuffLine, if_pos (hdot.trans hstart)] at hfixed
    have hlength := congrArg List.length hfixed
    rw [List.length_append, show (ascii ".").length = 1 by decide] at hlength
    omega
  · intro hnone
    have hsame : lines.map stuffLine = lines := by
      nth_rewrite 2 [← List.map_id lines]
      exact List.map_congr_left fun line hline => stuffLine_of_not_dot (hnone line hline)
    rw [hsame]

theorem findBlankLine_wireLines (hne : lines ≠ [])
    (h : ∀ line ∈ lines, IsLineContent line ∧ line ≠ []) (rest : Bytes) :
    ∃ separator, findBlankLine (wireLines lines ++ CRLF ++ rest) 0 = .ok separator ∧
      separator + 2 = (wireLines lines).length := by
  simp only [findBlankLine_zero_eq_ok, separator_eq]
  induction lines with
  | nil => exact absurd rfl hne
  | cons line lines ih =>
    rw [List.forall_mem_cons] at h
    have hsplit : wireLines (line :: lines) ++ CRLF ++ rest =
        line ++ CR :: LF :: (wireLines lines ++ CRLF ++ rest) := by
      rw [wireLines_cons]
      simp
    rw [hsplit, findSub_crlf_line h.1.1, length_wireLines_cons]
    by_cases hlast : lines = []
    · refine ⟨line.length, ?_, ?_⟩
      · rw [hlast, if_pos]
        exact ⟨rest, rfl⟩
      · rw [hlast, wireLines_nil]
        rfl
    · obtain ⟨separator, hfound, hlength⟩ := ih hlast h.2
      have hnot : ¬ CRLF <+: wireLines lines ++ CRLF ++ rest := by
        rw [List.append_assoc]
        exact not_crlf_isPrefix_wireLines h.2 hlast _
      rw [if_neg hnot, hfound]
      exact ⟨separator + (line.length + 2), rfl, by omega⟩

theorem readSections_lines (hne : lines ≠ []) (h : ∀ line ∈ lines, IsLineContent line ∧ line ≠ [])
    (body : Bytes) :
    readSections 220 (wireLines lines ++ CRLF ++ body) =
      (Headers.parse (wireLines lines) >>= fun headers =>
        validateBodyContent body >>= fun transformation =>
          .ok (some headers, some (materializeBody body transformation))) := by
  obtain ⟨separator, hblank, hlength⟩ := findBlankLine_wireLines hne h body
  have htake : (wireLines lines ++ CRLF ++ body).take (separator + 2) = wireLines lines := by
    rw [hlength, List.append_assoc, List.take_left]
  have hdrop : (wireLines lines ++ CRLF ++ body).drop (separator + 4) = body := by
    have hfour : separator + 4 = (wireLines lines ++ CRLF).length := by
      rw [List.length_append, length_crlf]
      omega
    rw [hfour, List.drop_left]
  unfold readSections
  rw [hblank, ok_bind, htake, hdrop]
  rfl

theorem parse_stuffed_article {payload : Bytes} {parsed : ParsedFirstLine}
    (hline : IsLineContent line) (hstatus : (StatusCode.parse line).map StatusCode.code = some 220)
    (hfirst : parseFirstLine line = .ok parsed)
    (hlines : ∀ header ∈ lines, IsLineContent header ∧ header ≠ [])
    (hchecked : HeaderLines false lines) (hfield : lines.any isFieldLine = true)
    (hnul : NUL ∉ payload) :
    Article.parse (line ++ CRLF ++ writeDotStuffedArticle (wireLines lines ++ CRLF ++ payload)) =
      .ok (some { messageId := parsed.messageId.value, articleNumber := parsed.articleNumber
                  headers := some ⟨wireLines (unfoldedLines (lines.map stuffLine))⟩
                  body := some (wireLines (crlfNormalizedPayloadLines payload)) }) := by
  -- The article that is read from a stuffed block.
  have hcontent : ∀ header ∈ lines, IsLineContent header := fun header h => (hlines header h).1
  have hbodyLines : ∀ body ∈ crlfNormalizedPayloadLines payload, IsLineContent body :=
    fun body => isLineContent_of_mem
  have hall : ∀ raw ∈ lines ++ [] :: crlfNormalizedPayloadLines payload, IsLineContent raw := by
    rw [List.forall_mem_append, List.forall_mem_cons]
    exact ⟨hcontent, isLineContent_nil, hbodyLines⟩
  -- the block: stuffed header lines, the empty line, stuffed body lines
  have hblock : writeDotStuffedArticle (wireLines lines ++ CRLF ++ payload) =
      wireLines ((lines ++ [] :: crlfNormalizedPayloadLines payload).map stuffLine) ++
        DOT_TERMINATOR := by
    have hpayload : crlfNormalizedPayloadLines (CRLF ++ payload) =
        [] :: crlfNormalizedPayloadLines payload := rfl
    rw [writeDotStuffedArticle_eq, List.append_assoc, crlfNormalizedPayloadLines_wireLines hcontent,
      hpayload]
  have hsplit : wireLines ((lines ++ [] :: crlfNormalizedPayloadLines payload).map stuffLine) =
      wireLines (lines.map stuffLine) ++ CRLF ++
        wireLines ((crlfNormalizedPayloadLines payload).map stuffLine) := by
    have hempty : stuffLine [] = [] := by decide
    rw [List.map_append, List.map_cons, wireLines_append, wireLines_cons, hempty, List.append_assoc]
    rfl
  have hstuffed : ∀ header ∈ lines.map stuffLine, IsLineContent header ∧ header ≠ [] := by
    intro header hmem
    refine ⟨isLineContent_of_stuffed hcontent header hmem, ?_⟩
    obtain ⟨raw, hraw, rfl⟩ := List.mem_map.mp hmem
    exact mt stuffLine_eq_nil_iff.mp (hlines raw hraw).2
  have hheaders : Headers.parse (wireLines (lines.map stuffLine)) =
      .ok ⟨wireLines (unfoldedLines (lines.map stuffLine))⟩ := by
    rw [Headers.parse_wireLines_iff (isLineContent_of_stuffed hcontent)]
    refine ⟨hchecked.stuffed, ?_, rfl⟩
    rw [List.any_map]
    simpa [Function.comp_def, isFieldLine_stuffLine] using hfield
  obtain ⟨transformation, hbody⟩ := validateBodyContent_wireLines (stuffed_lines payload) (by
    intro raw hmem
    obtain ⟨inner, hinner, rfl⟩ := List.mem_map.mp hmem
    exact nul_not_mem_stuffLine hnul hinner)
  have hread := materializeBody_stuffed hbodyLines hbody
  obtain ⟨-, number, hnumber, -⟩ := text_of_parseFirstLine hfirst
  obtain ⟨status, hparse, hcode⟩ := Option.map_eq_some_iff.mp hstatus
  have hwhole : StatusCode.parse (line ++ CRLF ++
      writeDotStuffedArticle (wireLines lines ++ CRLF ++ payload)) = some status := by
    rw [List.append_assoc, StatusCode.parse_append (StatusCode.length_of_parse hparse), hparse]
  rw [Article.parse_eq_ok_iff hwhole (Or.inl hcode)]
  refine ⟨line, _, [], ?_, hline, bounds_wireLines (wireLine_of_stuffed hall) [],
    ⟨number, ⟨parsed, hfirst, rfl, hnumber⟩, hnumber⟩, ?_⟩
  · rw [hblock, crlf_eq]
    simp
  · have hne : lines.map stuffLine ≠ [] := by
      simpa using ne_nil_of_any hfield
    rw [hcode, hsplit, readSections_lines hne hstuffed, hheaders, ok_bind, hbody, ok_bind, hread]

/-- **A stuffed article reads back exactly if no header line starts with a dot.** The dots that the
sender adds are taken off the body lines, but not off the header lines. -/
theorem stuffed_article_reads_back_iff (line : Bytes) (lines : List Bytes) (payload : Bytes)
    (headers : Headers) (parsed : ParsedFirstLine) (hline : IsLineContent line)
    (hstatus : (StatusCode.parse line).map StatusCode.code = some 220)
    (hfirst : parseFirstLine line = .ok parsed)
    (hlines : ∀ header ∈ lines, IsLineContent header ∧ header ≠ [])
    (hheaders : Headers.parse (wireLines lines) = .ok headers) (hnul : NUL ∉ payload) :
    (∃ article,
      Article.parse (line ++ CRLF ++ writeDotStuffedArticle (wireLines lines ++ CRLF ++ payload)) =
        .ok (some article) ∧
      article.headers = some headers ∧
      article.body = some (wireLines (crlfNormalizedPayloadLines payload))) ↔
    ∀ header ∈ lines, ¬ ascii "." <+: header := by
  have hcontent : ∀ header ∈ lines, IsLineContent header := fun header h => (hlines header h).1
  obtain ⟨hchecked, hfield, hdata⟩ := (Headers.parse_wireLines_iff hcontent).mp hheaders
  obtain ⟨data⟩ := headers
  dsimp only at hdata
  subst hdata
  rw [parse_stuffed_article hline hstatus hfirst hlines hchecked hfield hnul,
    ← unfoldedLines_map_stuffLine_iff fun header h => (hlines header h).2]
  constructor
  · rintro ⟨article, harticle, hread, -⟩
    cases harticle
    have hsame : wireLines (unfoldedLines (lines.map stuffLine)) =
        wireLines (unfoldedLines lines) := by
      simpa using hread
    exact wireLines_inj (isLineContent_unfoldedLines (isLineContent_of_stuffed hcontent))
      (isLineContent_unfoldedLines hcontent) hsame
  · intro hsame
    rw [hsame]
    exact ⟨_, rfl, rfl, rfl⟩

/-- A dot at the start of a body line comes back as it was. -/
theorem stuffed_article_reads_back_subject :
    ∃ article,
      Article.parse (ascii "220 1 <a@b>" ++ CRLF ++
        writeDotStuffedArticle (wireLines [ascii "Subject: c"] ++ CRLF ++ ascii ".d")) =
          .ok (some article) ∧
      article.headers = some ⟨ascii "Subject: c\r\n"⟩ ∧
      article.body = some (wireLines (crlfNormalizedPayloadLines (ascii ".d"))) := by
  have hfirst : parseFirstLine (ascii "220 1 <a@b>") =
      .ok ⟨⟨"<a@b>".toList, by decide⟩, ⟨6, 11, by decide⟩, some 1⟩ := by
    decide +kernel
  have hiff := stuffed_article_reads_back_iff (ascii "220 1 <a@b>") [ascii "Subject: c"]
    (ascii ".d") ⟨ascii "Subject: c\r\n"⟩ _ (by decide) (by decide +kernel) hfirst (by decide)
    (by decide +kernel) (by decide)
  exact hiff.mpr (by decide)

/-- A header line that starts with a dot comes back with two. -/
theorem dotted_header_keeps_its_stuffing :
    Headers.parse (ascii ".X: c\r\n") = .ok ⟨ascii ".X: c\r\n"⟩ ∧
    Article.parse (ascii "220 1 <a@b>\r\n" ++
        writeDotStuffedArticle (ascii ".X: c\r\n" ++ CRLF ++ ascii "d")) =
      .ok (some ⟨"<a@b>".toList, some 1, some ⟨ascii "..X: c\r\n"⟩, some (ascii "d\r\n")⟩) := by
  decide +kernel

end NntpBench.Protocol
