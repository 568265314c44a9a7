import NntpBench.ArticleSections
import NntpBench.Arguments
import NntpBench.ReceiveAll

namespace NntpBench.Protocol

open Terminator ListSearch ExceptBind DotTerminatedBlocks

variable {kind : RequestKind} {article : Article} {lines : List Bytes} {buf content : Bytes}
  {status : StatusCode} {number : Nat}

instance (kind : RequestKind) (reply : Bytes) : Decidable (IsFrame kind reply) :=
  match h : ResponseFrame.parse kind reply with
  | .complete frame =>
    decidable_of_iff (frame.consumed = reply.length) (by simp [IsFrame, h])
  | .needMore => isFalse (by simp [IsFrame, h])
  | .invalid => isFalse (by simp [IsFrame, h])

/-- One frame, from which the client reads an article. -/
def IsArticleFrame (kind : RequestKind) (reply : Bytes) (article : Article) : Prop :=
  ∃ frame, ResponseFrame.parse kind reply = .complete frame ∧ frame.consumed = reply.length ∧
    frame.article = .ok (some article)

theorem IsArticleFrame.isFrame {reply : Bytes}
    (h : IsArticleFrame kind reply article) : IsFrame kind reply := by
  obtain ⟨frame, hparse, hconsumed, -⟩ := h
  exact ⟨frame, hparse, hconsumed⟩

instance (kind : RequestKind) (status : StatusCode) (line : Bytes) :
    Decidable (AcceptedLine kind status line) :=
  decidable_of_iff (IsLineContent line ∧ StatusCode.parse line = some status ∧
      line.length + 2 ≤ responseInitialLineLimit kind (some status) ∧
      (ResponseDescriptor.forRequestStatus kind status).framing ≠ .unexpected ∧
      validateResponseInitialLine kind status (line ++ CRLF) = true)
    ⟨fun ⟨h₁, h₂, h₃, h₄, h₅⟩ => ⟨h₁, h₂, h₃, h₄, h₅⟩,
      fun h => ⟨h.isLine, h.code, h.fits, h.expected, h.valid⟩⟩

namespace AcceptedLine

section Frames

variable {kind : RequestKind} {status : StatusCode} {line : Bytes}
  (h : AcceptedLine kind status line)
  (hpair : isArticlePair kind status.code = false)
include h hpair

theorem isFrame_single
    (hsingle : (ResponseDescriptor.forRequestStatus kind status).framing.isMultiline = false) :
    IsFrame kind (line ++ CRLF) := by
  have hone := h.oneShot_single [] hsingle
  have hparse : ResponseFrame.parse kind (line ++ CRLF) = checkContent
      ⟨line ++ CRLF, kind, status, line.length + 2, line.length + 2, lineInitial kind status
        line⟩ := by
    rw [ResponseFrame.parse_eq, crlf_eq, hone]
    rfl
  rw [IsFrame, hparse, checkContent, validateResponseContent, FramedResponse.toFrame]
  dsimp only
  rw [hpair, if_neg Bool.false_ne_true, lineInitial, hsingle]
  exact ⟨_, rfl, rfl⟩

theorem parse_block (content more : Bytes)
    (hmulti : (ResponseDescriptor.forRequestStatus kind status).framing.isMultiline = true)
    (hbounds : bounds (content ++ DOT_TERMINATOR ++ more) =
      some (content.length, content.length + DOT_TERMINATOR.length)) :
    ∃ frame : ResponseFrame, frame.status = status ∧ frame.content = content ∧
      frame.consumed = (line ++ CRLF ++ content ++ DOT_TERMINATOR).length ∧
      ResponseFrame.parse kind (line ++ CR :: LF :: (content ++ DOT_TERMINATOR ++ more)) =
        if validateNonArticleResponseContent kind (line ++ CRLF) content = true then .complete frame
        else .invalid := by
  have hlength : line.length + 2 = (line ++ CRLF).length := by
    rw [List.length_append, length_crlf]
  have hstatusLine : (line ++ CRLF ++ content ++ DOT_TERMINATOR).take (line.length + 2) =
      line ++ CRLF := by
    rw [hlength, List.append_assoc, List.take_left]
  have hcontent : (line ++ CRLF ++ content ++ DOT_TERMINATOR).extract (line.length + 2)
      (line.length + 2 + content.length) = content := by
    rw [List.extract_eq_take_drop, Nat.add_sub_cancel_left, hlength, List.append_assoc,
      List.drop_left, List.take_left]
  refine ⟨FramedResponse.toFrame ⟨line ++ CRLF ++ content ++ DOT_TERMINATOR, kind, status,
    line.length + 2, line.length + 2 + content.length, lineInitial kind status line⟩,
    rfl, hcontent, rfl, ?_⟩
  rw [ResponseFrame.parse_eq, h.oneShot_multiline content more hmulti hbounds]
  dsimp only
  rw [checkContent, validateResponseContent, FramedResponse.toFrame]
  dsimp only
  rw [hpair, if_neg Bool.false_ne_true, lineInitial, hmulti, if_neg (by decide),
    hstatusLine, hcontent]
  cases validateNonArticleResponseContent kind (line ++ CRLF) content <;> rfl

theorem isFrame_lines_iff
    (hmulti : (ResponseDescriptor.forRequestStatus kind status).framing.isMultiline = true)
    (hlines : ∀ line ∈ lines, IsLineContent line) (hdot : ∀ line ∈ lines, line ≠ [DOT]) :
    IsFrame kind (line ++ CRLF ++ wireLines lines ++ DOT_TERMINATOR) ↔
      validateNonArticleResponseContent kind (line ++ CRLF) (wireLines lines) = true := by
  have hreply : line ++ CRLF ++ wireLines lines ++ DOT_TERMINATOR =
      line ++ CR :: LF :: (wireLines lines ++ DOT_TERMINATOR ++ []) := by
    rw [crlf_eq]
    simp
  obtain ⟨frame, -, -, hconsumed, hparse⟩ := h.parse_block hpair (wireLines lines) [] hmulti
    (bounds_lines hlines hdot [])
  rw [← hreply] at hparse
  rw [IsFrame, hparse]
  split_ifs with hvalid
  · exact ⟨fun _ => hvalid, fun _ => ⟨frame, rfl, hconsumed⟩⟩
  · simp [hvalid]

end Frames

section Blocks

variable {kind : RequestKind} {status : StatusCode} {line : Bytes}
  (h : AcceptedLine kind status line)
  (hmulti : (ResponseDescriptor.forRequestStatus kind status).framing.isMultiline = true)
include h hmulti

theorem dot_not_mem_of_isFrame (hlines : ∀ line ∈ lines, IsLineContent line)
    (hframe : IsFrame kind (line ++ CRLF ++ wireLines lines ++ DOT_TERMINATOR)) :
    [DOT] ∉ lines := by
  -- A line that is the dot alone ends the block before its end.
  intro hmem
  obtain ⟨before, after, rfl, hfirst⟩ := List.eq_append_cons_of_mem hmem
  have hbefore : ∀ line ∈ before, IsLineContent line := fun line hline =>
    hlines line (List.mem_append_left _ hline)
  have hdot : ∀ line ∈ before, line ≠ [DOT] := by
    rintro line hline rfl
    exact hfirst hline
  have hone := h.oneShot_multiline (wireLines before) (wireLines after ++ DOT_TERMINATOR) hmulti
    (bounds_lines hbefore hdot _)
  have hreply : line ++ CRLF ++ wireLines (before ++ [DOT] :: after) ++ DOT_TERMINATOR =
      line ++ CR :: LF :: (wireLines before ++ DOT_TERMINATOR ++
        (wireLines after ++ DOT_TERMINATOR)) := by
    rw [wireLines_append, wireLines_cons, crlf_eq, show DOT_TERMINATOR = [DOT, CR, LF] by decide]
    simp
  obtain ⟨framed, -, hfound, hbytes, -⟩ := hframe.oneShot
  rw [hreply, hone] at hfound
  cases hfound
  have hlength := congrArg List.length hbytes
  rw [hreply] at hlength
  have hdots : 0 < DOT_TERMINATOR.length := by decide
  simp only [List.length_append, List.length_cons, length_crlf] at hlength
  omega

variable (hpair : isArticlePair kind status.code = false)
include hpair

theorem isFrame_block_iff (hlines : ∀ line ∈ lines, IsLineContent line) :
    IsFrame kind (line ++ CRLF ++ wireLines lines ++ DOT_TERMINATOR) ↔
      [DOT] ∉ lines ∧ validateNonArticleResponseContent kind (line ++ CRLF) (wireLines lines) =
        true := by
  constructor
  · intro hframe
    have hdot := h.dot_not_mem_of_isFrame hmulti hlines hframe
    refine ⟨hdot, (h.isFrame_lines_iff hpair hmulti hlines ?_).mp hframe⟩
    rintro line hline rfl
    exact hdot hline
  · rintro ⟨hdot, hvalid⟩
    refine (h.isFrame_lines_iff hpair hmulti hlines ?_).mpr hvalid
    rintro line hline rfl
    exact hdot hline

theorem isFrame_rows_iff {check : Bytes → Bool}

    (hcheck : ∀ statusLine content, validateNonArticleResponseContent kind statusLine content =
      allCrlfLines content check)
    (hlines : ∀ line ∈ lines, IsLineContent line) :
    IsFrame kind (line ++ CRLF ++ wireLines lines ++ DOT_TERMINATOR) ↔
      ∀ line ∈ lines, isBareDotLine line = false ∧ check line = true := by
  rw [h.isFrame_block_iff hmulti hpair hlines, hcheck, allCrlfLines_wireLines hlines,
    List.all_eq_true]
  simp only [Bool.and_eq_true, Bool.not_eq_true']
  constructor
  · exact fun ⟨_, hrows⟩ => hrows
  · intro hrows
    refine ⟨fun hdot => ?_, hrows⟩
    exact absurd (hrows _ hdot).1 (by decide)

end Blocks

end AcceptedLine

section Increasing

variable {α : Type} (read : α → Option Nat)

/-- One round of a loop that reads numbers and wants each to be above the one before it. -/
def increasingStep (previous : Option Nat) (item : α) : Option (Option Nat) :=
  match read item with
  | none => none
  | some number => if previous.any (number ≤ ·) then none else some (some number)

theorem increasing_iff {items : List α} {previous : Option Nat} :
    (items.foldlM (increasingStep read) previous).isSome = true ↔
      ∃ numbers, List.Forall₂ (fun item number => read item = some number) items numbers ∧
        numbers.Pairwise (· < ·) ∧ ∀ before ∈ previous, ∀ number ∈ numbers, before < number := by
  induction items generalizing previous with
  | nil =>
    simp only [List.foldlM_nil, List.forall₂_nil_left_iff]
    exact ⟨fun _ => ⟨[], rfl, .nil, by simp⟩, fun _ => rfl⟩
  | cons item items ih =>
    rw [List.foldlM_cons]
    constructor
    · intro h
      rw [increasingStep] at h
      cases hnumber : read item with
      | none =>
        rw [hnumber] at h
        cases h
      | some number =>
        rw [hnumber] at h
        dsimp only at h
        by_cases hafter : previous.any (number ≤ ·) = true
        · rw [if_pos hafter] at h
          cases h
        rw [if_neg hafter] at h
        obtain ⟨numbers, hrows, hsorted, hnext⟩ := ih.mp h
        have hless : ∀ later ∈ numbers, number < later := hnext number rfl
        refine ⟨number :: numbers, .cons hnumber hrows, List.pairwise_cons.mpr ⟨hless, hsorted⟩, ?_⟩
        rintro before hbefore later hlater
        have hfirst : before < number := by
          rw [hbefore] at hafter
          simpa using hafter
        rcases List.mem_cons.mp hlater with rfl | hlater
        · exact hfirst
        · exact hfirst.trans (hless later hlater)
    · rintro ⟨numbers, hrows, hsorted, hbefore⟩
      obtain ⟨number, others, hnumber, hothers, rfl⟩ := List.forall₂_cons_left_iff.mp hrows
      rw [List.pairwise_cons] at hsorted
      have hafter : ¬ previous.any (number ≤ ·) = true := by
        cases previous with
        | none => simp
        | some before => simpa using hbefore before rfl number List.mem_cons_self
      rw [increasingStep, hnumber]
      dsimp only
      rw [if_neg hafter]
      refine ih.mpr ⟨others, hothers, hsorted.2, ?_⟩
      rintro before hsome later hlater
      cases hsome
      exact hsorted.1 later hlater

end Increasing

/-- The row of an article in an overview, with the number of the article. -/
def IsOverviewRow (line : Bytes) (number : Nat) : Prop :=
  isBareDotLine line = false ∧
    validateOverviewResponseLineWithMinFields line 7 validateOverviewOptionalField = some number

instance (line : Bytes) (number : Nat) : Decidable (IsOverviewRow line number) :=
  inferInstanceAs (Decidable (_ ∧ _))

/-- One row of an overview, behind the number of the row before it. -/
def overviewStep (previous : Option Nat) (line : Bytes) : Option (Option Nat) :=
  match validateOverviewResponseLineWithMinFields line 7 validateOverviewOptionalField with
  | none => none
  | some articleNumber =>
    if previous.any (articleNumber ≤ ·) then none else some (some articleNumber)

theorem validateOverviewResponseContent_wireLines (h : ∀ line ∈ lines, IsLineContent line) :
    validateOverviewResponseContent (wireLines lines) = true ↔
      ∃ numbers, List.Forall₂ IsOverviewRow lines numbers ∧ numbers.Pairwise (· < ·) := by
  have hstep : (fun state line => if isBareDotLine line then none else overviewStep state line) =
      increasingStep fun line => if isBareDotLine line then none
        else validateOverviewResponseLineWithMinFields line 7 validateOverviewOptionalField := by
    funext state line
    unfold increasingStep overviewStep
    dsimp only
    split_ifs <;> rfl
  have hrow : ∀ line number, (if isBareDotLine line then none
      else validateOverviewResponseLineWithMinFields line 7 validateOverviewOptionalField) =
        some number ↔ IsOverviewRow line number := by
    intro line number
    simp [IsOverviewRow]
  change (validateCrlfLines (wireLines lines) none overviewStep).isSome = true ↔ _
  rw [validateCrlfLines_wireLines h none overviewStep, hstep, increasing_iff]
  simp [hrow]

theorem exists_frame_of_complete {framed : FramedResponse}
    (hstatus : StatusCode.parse buf = some status) (hpair : isArticlePair kind status.code = true)
    (hone : oneShot kind buf = .complete framed) (hstat : status.code = 223 → framed.bytes = buf)
    (hparse : parseCompatibilityResponse buf status.code = .ok (some article)) :
    ∃ frame, ResponseFrame.parse kind buf = .complete frame ∧
      frame.consumed = framed.bytes.length ∧ frame.article = .ok (some article) := by
  rw [parseCompatibilityResponse_of_complete hstatus hpair hone hstat] at hparse
  have hframe : ResponseFrame.parse kind buf = checkContent framed := by
    rw [ResponseFrame.parse_eq, hone]
  obtain ⟨rfl, ⟨more, rfl⟩, line, hframed⟩ := oneShot_complete hone
  obtain rfl := hframed.status_eq hstatus
  have hcheck := checkContent_of_layout hframed hpair
  rw [hframe]
  cases hlayout : framed.validatedLayout with
  | error e =>
    rw [hlayout] at hparse
    cases hparse
  | ok layout =>
    rw [hlayout] at hcheck hparse
    obtain ⟨frame, hcomplete, hconsumed, hread⟩ := hcheck
    exact ⟨frame, hcomplete, hconsumed, hread.trans hparse⟩

theorem responseInitialLineLimit_of_isArticlePair (h : isArticlePair kind status.code = true) :
    responseInitialLineLimit kind (some status) = MAX_INITIAL_RESPONSE_LINE_BYTES := by
  rcases isArticlePair_iff.mp h with ⟨rfl, -⟩ | ⟨rfl, -⟩ | ⟨rfl, -⟩ | ⟨rfl, -⟩ <;> rfl

section Frames

variable {kind : RequestKind} {status : StatusCode} {line : Bytes} {article : Article}
  (hpair : isArticlePair kind status.code = true)
include hpair

theorem ArticleResponse.exists_frame {more : Bytes} (hstatus : StatusCode.parse buf = some status)
    (hcode : status.code = 220 ∨ status.code = 221 ∨ status.code = 222)
    (h : ArticleResponse status.code buf line content more article)
    (hlimit : line.length + 2 ≤ MAX_INITIAL_RESPONSE_LINE_BYTES) :
    ∃ frame, ResponseFrame.parse kind buf = .complete frame ∧
      frame.consumed = (line ++ CRLF ++ content ++ DOT_TERMINATOR).length ∧
      frame.article = .ok (some article) := by
  obtain ⟨number, ⟨parsed, hfirst, -, -⟩, -⟩ := h.firstLine
  have hparse := (Article.parse_eq_ok_iff hstatus hcode).mpr ⟨line, content, more, h⟩
  have hnotStat : status.code ≠ 223 := by omega
  rw [Article.parse_eq_parseCompatibilityResponse hstatus hpair hnotStat] at hparse
  have haccepted : AcceptedLine kind status line := by
    rw [h.buf_eq] at hstatus
    exact acceptedLine_of_firstLine hstatus hpair h.isLine hfirst hlimit
  have hmulti : (ResponseDescriptor.forRequestStatus kind status).framing.isMultiline = true := by
    rw [isMultiline_of_isArticlePair hpair]
    exact decide_eq_true hnotStat
  have hone := haccepted.oneShot_multiline content more hmulti h.ends
  rw [← h.buf_eq] at hone
  exact exists_frame_of_complete hstatus hpair hone (fun hstat => absurd hstat hnotStat) hparse

/-- A response with content is one frame exactly if its status line is not too long and nothing
follows its dot line. -/
theorem ArticleResponse.isFrame_iff {more : Bytes} (hstatus : StatusCode.parse buf = some status)
    (hcode : status.code = 220 ∨ status.code = 221 ∨ status.code = 222)
    (h : ArticleResponse status.code buf line content more article) :
    IsFrame kind buf ↔ line.length + 2 ≤ MAX_INITIAL_RESPONSE_LINE_BYTES ∧ more = [] := by
  have hlength : buf.length = (line ++ CRLF ++ content ++ DOT_TERMINATOR).length + more.length := by
    rw [h.buf_eq, crlf_eq]
    simp only [List.length_append, List.length_cons, List.length_nil]
    omega
  constructor
  · rintro ⟨frame, hframe, hconsumed⟩
    have hlimit : line.length + 2 ≤ MAX_INITIAL_RESPONSE_LINE_BYTES := by
      cases hinitial : ResponseInitial.parse kind buf with
      | needMore => simp [ResponseFrame.parse_eq, oneShot_of_needMore hinitial] at hframe
      | invalid => simp [ResponseFrame.parse_eq, oneShot_of_invalid hinitial] at hframe
      | complete initial =>
        obtain ⟨fin, hfin, hle, -⟩ := ResponseInitial.parse_eq_complete hinitial
        rw [h.buf_eq, detectResponseLineEnd_line h.isLine] at hfin
        cases hfin
        rw [hstatus, responseInitialLineLimit_of_isArticlePair hpair] at hle
        exact hle
    obtain ⟨found, hfound, hend, -⟩ := h.exists_frame hpair hstatus hcode hlimit
    rw [hframe] at hfound
    cases hfound
    refine ⟨hlimit, List.length_eq_zero_iff.mp ?_⟩
    omega
  · rintro ⟨hlimit, rfl⟩
    obtain ⟨frame, hframe, hend, -⟩ := h.exists_frame hpair hstatus hcode hlimit
    exact ⟨frame, hframe, hend.trans hlength.symm⟩

theorem ArticleResponse.isArticleFrame (hstatus : StatusCode.parse buf = some status)
    (hcode : status.code = 220 ∨ status.code = 221 ∨ status.code = 222)
    (h : ArticleResponse status.code buf line content [] article)
    (hlimit : line.length + 2 ≤ MAX_INITIAL_RESPONSE_LINE_BYTES) :
    IsArticleFrame kind buf article := by
  obtain ⟨frame, hframe, hconsumed, hread⟩ := h.exists_frame hpair hstatus hcode hlimit
  refine ⟨frame, hframe, ?_, hread⟩
  rw [hconsumed, h.buf_eq, crlf_eq]
  simp

end Frames

theorem isArticleFrame_stat {line : Bytes} {messageId : Str}
    (hstatus : StatusCode.parse line = some status) (hcode : status.code = 223)
    (hline : IsLineContent line) (hfirst : FirstLine line messageId number)
    (hlimit : line.length + 2 ≤ MAX_INITIAL_RESPONSE_LINE_BYTES) :
    IsArticleFrame .stat (line ++ CRLF) ⟨messageId, some number, none, none⟩ := by
  -- A STAT reply is its status line.
  obtain ⟨parsed, hparsed, rfl, hnumber⟩ := hfirst
  have hpair : isArticlePair .stat status.code = true := by
    rw [hcode]
    rfl
  have hwhole : StatusCode.parse (line ++ CRLF) = some status := by
    rw [StatusCode.parse_append (StatusCode.length_of_parse hstatus), hstatus]
  have haccepted := acceptedLine_of_firstLine hwhole hpair hline hparsed hlimit
  have hsingle : (ResponseDescriptor.forRequestStatus .stat status).framing.isMultiline =
      false := by
    rw [isMultiline_of_isArticlePair hpair, hcode]
    rfl
  have hparse : parseCompatibilityResponse (line ++ CRLF) status.code =
      .ok (some ⟨parsed.messageId.value, some number, none, none⟩) := by
    obtain ⟨firstLine, found, hfound, hvalid, htext, hsame⟩ := validateFirstLine_eq [] hparsed
    rw [hnumber] at hfound
    cases hfound
    have hnew : ArticleFrameRange.new 0 line.length = .ok ⟨0, line.length, Nat.zero_le _⟩ :=
      dif_pos (Nat.zero_le _)
    have hview := @fromKnownContentBounds_view line [] 0 (Nat.zero_le _)
    have hend : (line ++ [CR, LF]).length = line.length + 2 := List.length_append
    rw [hcode, crlf_eq]
    unfold parseCompatibilityResponse compatibilityContentEnd
    rw [if_neg (by decide), strictCrlfLineContentEndFrom_line hline]
    simp only [okOr, ok_bind, hnew, hvalid, length_crlf, if_true, hend]
    have hlayout : (contentView (line ++ CRLF) [] [] ⟨0, line.length, Nat.zero_le _⟩
        ).validateForStatusWithFirstLine 223 firstLine =
          .ok ⟨firstLine, .stat (line ++ CRLF).length⟩ := by
      simp [FramedArticle.validateForStatusWithFirstLine, FramedArticle.validateContent,
        FramedArticle.validateStatContent, contentView, ok_bind]
    rw [Nat.add_zero] at hview
    rw [hview]
    simp only [List.take_nil, List.drop_nil, ok_bind, hlayout, ArticleLayout.materialize, htext]
    rw [hsame]
    rfl
  obtain ⟨frame, hframe, hconsumed, hread⟩ := exists_frame_of_complete hwhole hpair
    (haccepted.oneShot_single [] hsingle) (fun _ => rfl) hparse
  exact ⟨frame, hframe, hconsumed, hread⟩

theorem IsArticleFrame.parse_eq {reply : Bytes} (h : IsArticleFrame kind reply article)
    (hstatus : StatusCode.parse reply = some status)
    (hpair : isArticlePair kind status.code = true) :
    Article.parse reply = .ok (some article) := by
  obtain ⟨framed, -, hone, hbytes, -⟩ := h.isFrame.oneShot
  obtain ⟨frame, hparse, -, hread⟩ := h
  obtain ⟨-, hsame⟩ := routes_of_complete hstatus hpair hone fun _ => hbytes
  obtain ⟨found, -, -, hfound, hframe, -⟩ := hsame frame hparse
  rw [hread] at hframe
  cases hframe
  exact hfound

theorem findSub_separator_eq_none (h : ∀ line ∈ lines, IsLineContent line)
    (hempty : [] ∉ lines.tail) : findSub (ascii "\r\n\r\n") (wireLines lines) = none := by
  rw [separator_eq]
  induction lines with
  | nil => rfl
  | cons line lines ih =>
    rw [List.forall_mem_cons] at h
    rw [List.tail_cons] at hempty
    have hnext : ¬ CRLF <+: wireLines lines := by
      cases lines with
      | nil => decide
      | cons next lines =>
        rw [List.mem_cons, not_or] at hempty
        rw [wireLines_cons]
        exact not_crlf_isPrefix_line (h.2 next List.mem_cons_self) (Ne.symm hempty.1) _
    have hrest := ih h.2 fun hmem => hempty (List.mem_of_mem_tail hmem)
    rw [wireLines_cons, findSub_crlf_line h.1, if_neg hnext, hrest]
    rfl

theorem readSections_head (h : ∀ line ∈ lines, IsLineContent line) (hempty : [] ∉ lines.tail)
    (hlines : HeaderLines false lines) (hfield : lines.any isFieldLine = true) :
    readSections 221 (wireLines lines) = .ok (some ⟨wireLines (unfoldedLines lines)⟩, none) := by
  have hblank : findBlankLine (wireLines lines) 0 = .error .missingSeparator := by
    rw [findBlankLine, List.drop_zero, findSub_separator_eq_none h hempty]
    rfl
  have hheaders : Headers.parse (wireLines lines) = .ok ⟨wireLines (unfoldedLines lines)⟩ :=
    (Headers.parse_wireLines_iff h).mpr ⟨hlines, hfield, rfl⟩
  unfold readSections
  rw [hblank]
  dsimp only
  rw [hheaders]
  rfl

theorem readSections_body (h : ∀ line ∈ lines, IsLineContent line)
    (hnul : ∀ line ∈ lines, NUL ∉ line) :
    readSections 222 (wireLines (lines.map stuffLine)) = .ok (none, some (wireLines lines)) := by
  have hvalid : ∃ transformation,
      validateBodyContent (wireLines (lines.map stuffLine)) = .ok transformation := by
    simp only [validateBodyContent_wireLines_iff (isLineContent_of_stuffed h)]
    refine ⟨_, wireLine_of_stuffed h, ?_, rfl⟩
    intro line hline
    obtain ⟨raw, hraw, rfl⟩ := List.mem_map.mp hline
    rw [nul_mem_stuffLine_iff]
    exact hnul raw hraw
  obtain ⟨transformation, hvalid⟩ := hvalid
  unfold readSections
  rw [hvalid, ok_bind, materializeBody_stuffed h hvalid]
  rfl

theorem isFold_of_headers {headers : Headers}
    (h : Headers.parse content = .ok headers) : isFold content = false := by
  obtain ⟨lines, rfl, hall⟩ := exists_wireLines_of_headers h
  obtain ⟨hlines, hfield, -⟩ := (Headers.parse_wireLines_iff hall).mp h
  cases lines with
  | nil => rfl
  | cons first lines =>
    rw [isFold_wireLines_cons]
    exact hlines.head_not_fold

theorem empty_mem_of_tail_joinFolds {current : Bytes}
    (h : [] ∈ (joinFolds current lines).tail) : [] ∈ lines := by
  induction lines generalizing current with
  | nil => exact h
  | cons line lines ih =>
    rw [joinFolds] at h
    split_ifs at h with hfold
    · exact List.mem_cons_of_mem _ (ih h)
    · rw [List.tail_cons] at h
      obtain ⟨rest, others, heq⟩ := exists_joinFolds_eq line lines
      rw [heq] at h
      rcases List.mem_cons.mp h with hfirst | hothers
      · rw [(List.append_eq_nil_iff.mp hfirst.symm).1]
        exact List.mem_cons_self
      · apply List.mem_cons_of_mem
        apply ih
        rw [heq]
        exact hothers

theorem empty_not_mem_tail_unfoldedLines (h : [] ∉ lines.tail) :
    [] ∉ (unfoldedLines lines).tail := by
  cases lines with
  | nil => exact h
  | cons line lines => exact fun hmem => h (empty_mem_of_tail_joinFolds hmem)

theorem foldsAttached_of_empty_not_mem (h : [] ∉ lines) : FoldsAttached lines := by
  induction lines with
  | nil => exact .nil
  | cons line lines ih =>
    rw [List.mem_cons, not_or] at h
    rw [foldsAttached_cons_of_ne (Ne.symm h.1)]
    exact ih h.2

/-- The only fold that can belong to an empty line is the second line, behind an empty first one. -/
theorem foldsAttached_iff (h : ∀ line ∈ lines, IsLineContent line) (htail : [] ∉ lines.tail)
    (hfield : lines.any isFieldLine = true) (rest : Bytes) :
    FoldsAttached lines ↔
      ¬ (CRLF <+: wireLines lines ++ rest ∧ isFold ((wireLines lines ++ rest).drop 2) = true) := by
  match lines, h, htail, hfield with
  | [] :: [], _, _, hfield => cases hfield
  | [] :: second :: others, _, htail, _ =>
    rw [List.tail_cons] at htail
    have hstart : CRLF <+: wireLines ([] :: second :: others) ++ rest := by
      rw [wireLines_cons, crlf_eq]
      simp
    have hfold : isFold ((wireLines ([] :: second :: others) ++ rest).drop 2) = isFold second := by
      rw [wireLines_cons]
      show isFold (wireLines (second :: others) ++ rest) = isFold second
      rw [isFold_append (by simp [wireLines_cons]), isFold_wireLines_cons]
    rw [foldsAttached_empty, hfold]
    simp [hstart, foldsAttached_of_empty_not_mem htail]
  | (byte :: first) :: others, h, htail, _ =>
    have hne : byte :: first ≠ [] := List.cons_ne_nil _ _
    have hstart : ¬ CRLF <+: wireLines ((byte :: first) :: others) ++ rest := by
      rw [wireLines_cons, List.append_assoc]
      exact not_crlf_isPrefix_line (h _ List.mem_cons_self) hne _
    rw [foldsAttached_cons_of_ne hne]
    simp only [hstart, false_and, not_false_eq_true, iff_true]
    exact foldsAttached_of_empty_not_mem htail

theorem isFold_unfoldedLines (htail : [] ∉ lines.tail)
    (h : ¬ FoldsAttached lines) : isFold (wireLines (unfoldedLines lines)) = true := by
  match lines, htail, h with
  | [], _, h => exact absurd .nil h
  | (byte :: first) :: others, htail, h =>
    rw [foldsAttached_cons_of_ne (List.cons_ne_nil _ _)] at h
    exact absurd (foldsAttached_of_empty_not_mem htail) h
  | [] :: [], _, h => exact absurd (.singleton _) h
  | [] :: second :: others, htail, h =>
    have hsecond : isFold second = true := by
      rw [List.tail_cons] at htail
      rw [foldsAttached_empty] at h
      simpa [foldsAttached_of_empty_not_mem htail] using h
    obtain ⟨rest, lines, hjoin⟩ :=
      exists_joinFolds_eq (SP :: second.dropWhile isBlank) others
    rw [unfoldedLines, joinFolds, if_pos hsecond, List.nil_append, hjoin, isFold_wireLines_cons]
    rfl

/-- The lines of a header block, once they are unfolded, are a header block again if no fold belongs
to an empty line. -/
theorem readSections_unfoldedLines (h : ∀ line ∈ lines, IsLineContent line)
    (hempty : [] ∉ lines.tail) (hlines : HeaderLines false lines)
    (hfield : lines.any isFieldLine = true) (hattached : FoldsAttached lines) :
    readSections 221 (wireLines (unfoldedLines lines)) =
      .ok (some ⟨wireLines (unfoldedLines lines)⟩, none) := by
  have hnone := (unfoldedLines_attached_iff hlines).mpr hattached
  rw [readSections_head (isLineContent_unfoldedLines h) (empty_not_mem_tail_unfoldedLines hempty)
    (headerLines_unfoldedLines hlines hattached) (any_isFieldLine_unfoldedLines hfield),
    unfoldedLines_of_none hnone]

theorem ne_dot_of_headerLines {before : Bool} (h : HeaderLines before lines) :
    ∀ line ∈ lines, line ≠ [DOT] := by
  induction lines generalizing before with
  | nil => simp
  | cons line lines ih =>
    rw [HeaderLines] at h
    rw [List.forall_mem_cons]
    refine ⟨?_, ih h.2⟩
    rintro rfl
    have hchecked := h.1
    unfold CheckedLine at hchecked
    rw [if_neg (by decide), if_neg (by decide)] at hchecked
    obtain ⟨name, value, hparts⟩ := hchecked
    have hcolon : (58 : UInt8) ∈ [DOT] := by
      rw [hparts.line_eq]
      simp
    exact absurd hcolon (by decide)

/-- The lines of an article: its header lines, and the lines of its body, which are stuffed in the
content. -/
structure ArticleLines (content : Bytes) (article : Article) (headers body : List Bytes) :
    Prop where
  content_eq : content = wireLines headers ++ CRLF ++ wireLines (body.map stuffLine)
  headerContent : ∀ line ∈ headers, IsLineContent line
  empty : [] ∉ headers.tail
  checked : HeaderLines false headers
  field : headers.any isFieldLine = true
  bodyContent : ∀ line ∈ body, IsLineContent line
  nul : ∀ line ∈ body, NUL ∉ line
  headers_eq : article.headers = some ⟨wireLines (unfoldedLines headers)⟩
  body_eq : article.body = some (wireLines body)

theorem exists_articleLines (h : readSections 220 content = .ok (article.headers, article.body)) :
    ∃ headers body, ArticleLines content article headers body := by
  unfold readSections at h
  obtain ⟨separator, hblank, h⟩ := bind_eq_ok.mp h
  obtain ⟨headers, hheaders, h⟩ := bind_eq_ok.mp h
  obtain ⟨transformation, hvalid, h⟩ := bind_eq_ok.mp h
  obtain ⟨hsameHeaders, hsameBody⟩ := Prod.mk.inj (Except.ok.inj h)
  -- the header lines
  obtain ⟨lines, hlines, hcontent⟩ := exists_wireLines_of_headers hheaders
  rw [hlines, Headers.parse_wireLines_iff hcontent] at hheaders
  obtain ⟨hchecked, hfield, hdata⟩ := hheaders
  have hempty : [] ∉ lines.tail := by
    rw [findBlankLine_zero_eq_ok, findSub_eq_some_iff] at hblank
    exact empty_not_mem_tail_of_headers hlines fun i hi => hblank.2.2 i (by omega)
  -- the body lines
  obtain ⟨wire, hwire, hwireContent⟩ : ∃ wire, content.drop (separator + 4) = wireLines wire ∧
      ∀ line ∈ wire, IsLineContent line := by
    have hloop := hvalid
    unfold validateBodyContent at hloop
    split_ifs at hloop
    exact exists_wireLines_of_ok hloop
  rw [hwire] at hvalid hsameBody
  obtain ⟨hwireLines, hnul, -⟩ := (validateBodyContent_wireLines_iff hwireContent).mp hvalid
  obtain ⟨body, rfl, hbody⟩ := exists_map_stuffLine hwireLines
  refine ⟨lines, body, ?_, hcontent, hempty, hchecked, hfield, hbody, ?_, ?_, ?_⟩
  · rw [← hwire, ← hlines]
    exact content_of_separator hblank
  · intro line hline
    rw [← nul_mem_stuffLine_iff]
    exact hnul _ (List.mem_map_of_mem hline)
  · rw [← hsameHeaders, ← hdata]
  · rw [← hsameBody, materializeBody_stuffed hbody hvalid]

theorem FirstLine.bounds {line : Bytes} {messageId : Str} (h : FirstLine line messageId number) :
    number ≤ MAX_ARTICLE_NUMBER ∧ validateMessageId messageId = true := by
  obtain ⟨parsed, hparsed, rfl, hnumber⟩ := h
  obtain ⟨-, found, hfound, hmax⟩ := text_of_parseFirstLine hparsed
  rw [hnumber] at hfound
  cases hfound
  exact ⟨hmax, parsed.messageId.valid⟩

theorem parseResponseArticleNumber_decimalText (h : number ≤ MAX_ARTICLE_NUMBER) :
    parseResponseArticleNumber (decimalText number) = some number := by
  have hdigits : (decimalText number).all isAsciiDigit = true :=
    List.all_eq_true.mpr fun byte hmem => isAsciiDigit_of_mem_decimalText hmem
  have hlength : (decimalText number).length ≤ 16 := by
    apply length_decimalText_le (by decide)
    unfold MAX_ARTICLE_NUMBER at h
    omega
  have hne := (isArgument_decimalText number).nonempty
  unfold parseResponseArticleNumber
  rw [decimalValue_decimalText, if_neg, if_pos h]
  simp [hne, hdigits]
  omega

theorem firstLine_articleFields {code text : Bytes} {messageId : Str} {number : Nat}
    (hdigits : code.length = 3) (hspace : SP ∉ code)
    (hcomment : validateOptionalTrailingComment text = true)
    (hid : validateMessageId messageId = true) (hnumber : number ≤ MAX_ARTICLE_NUMBER) :
    FirstLine (articleFields code (decimalText number) (asBytes messageId) text) messageId
      number := by
  have hutf8 : fromUtf8 (asBytes messageId) = some messageId := Utf8.decode_encode messageId
  have htoken : isMessageIdToken (asBytes messageId) = true := by
    rw [isMessageIdToken, hutf8]
    exact hid
  have htake : (articleFields code (decimalText number) (asBytes messageId) text).take 3 =
      code := by
    rw [articleFields, ← hdigits, List.take_left]
  obtain ⟨parsed, hparsed, hstart, hstop, hread⟩ := parseFirstLine_of_articleLine
    (.mk hdigits (parseResponseArticleNumber_decimalText hnumber) htoken hcomment)
    (by rw [htake]; exact hspace)
  refine ⟨parsed, hparsed, ?_, hread⟩
  have htext := (text_of_parseFirstLine hparsed).1
  rw [hstart, hstop, extract_articleFields_messageId hdigits, hutf8] at htext
  exact (Option.some.inj htext).symm

/-- The status digits and the text of an article status line. -/
structure LineText (code text : Bytes) : Prop where
  digits : code.length = 3
  space : SP ∉ code
  codeLine : IsLineContent code
  textLine : IsLineContent text
  comment : validateOptionalTrailingComment text = true
  short : text.length ≤ 20

instance (code text : Bytes) : Decidable (LineText code text) :=
  decidable_of_iff (code.length = 3 ∧ SP ∉ code ∧ IsLineContent code ∧ IsLineContent text ∧
      validateOptionalTrailingComment text = true ∧ text.length ≤ 20)
    ⟨fun ⟨h₁, h₂, h₃, h₄, h₅, h₆⟩ => ⟨h₁, h₂, h₃, h₄, h₅, h₆⟩,
      fun h => ⟨h.digits, h.space, h.codeLine, h.textLine, h.comment, h.short⟩⟩

namespace LineText

variable {code text : Bytes} (h : LineText code text) {messageId : Str} {number : Nat}
  (hid : validateMessageId messageId = true)
include h hid

theorem isLineContent :
    IsLineContent (articleFields code (decimalText number) (asBytes messageId) text) := by
  have hnumber := (isArgument_decimalText number).clean
  have hmessageId := (MessageId.isArgument ⟨messageId, hid⟩).clean
  rw [articleFields, isLineContent_append, isLineContent_cons, isLineContent_append,
    isLineContent_cons, isLineContent_append]
  exact ⟨h.codeLine, by decide, by decide, ⟨hnumber.cr, hnumber.lf⟩, by decide, by decide,
    ⟨hmessageId.cr, hmessageId.lf⟩, h.textLine⟩

theorem length_le (hnumber : number ≤ MAX_ARTICLE_NUMBER) :
    (articleFields code (decimalText number) (asBytes messageId) text).length + 2 ≤
      MAX_INITIAL_RESPONSE_LINE_BYTES := by
  have hdigits : (decimalText number).length ≤ 10 := by
    apply length_decimalText_le (by decide)
    unfold MAX_ARTICLE_NUMBER at hnumber
    omega
  have hlength : (asBytes messageId).length ≤ 250 := by
    simp only [validateMessageId, Bool.and_eq_true, decide_eq_true_eq] at hid
    exact hid.1.1.1.2
  have hshort := h.short
  have hcode := h.digits
  unfold MAX_INITIAL_RESPONSE_LINE_BYTES
  simp only [articleFields, List.length_append, List.length_cons]
  omega

theorem firstLine (hnumber : number ≤ MAX_ARTICLE_NUMBER) :
    FirstLine (articleFields code (decimalText number) (asBytes messageId) text) messageId number :=
  firstLine_articleFields h.digits h.space h.comment hid hnumber

omit hid in
theorem status_append (hcode : StatusCode.parse code = some status) (rest : Bytes) :
    StatusCode.parse (articleFields code (decimalText number) (asBytes messageId) text ++ rest) =
      some status := by
  rw [articleFields, List.append_assoc, StatusCode.parse_append (Nat.le_of_eq h.digits.symm), hcode]

theorem isArticleFrame {headers : Option Headers} {body : Option Bytes}
    (hnumber : number ≤ MAX_ARTICLE_NUMBER) (hcode : StatusCode.parse code = some status)
    (hpair : isArticlePair kind status.code = true) (hnotStat : status.code ≠ 223)
    (hends : DotTerminatedBlocks.bounds (content ++ DOT_TERMINATOR ++ []) =
      some (content.length, content.length + DOT_TERMINATOR.length))
    (hsections : readSections status.code content = .ok (headers, body)) :
    IsArticleFrame kind (articleFields code (decimalText number) (asBytes messageId) text ++
      CR :: LF :: (content ++ DOT_TERMINATOR ++ [])) ⟨messageId, some number, headers, body⟩ := by
  have hcases : status.code = 220 ∨ status.code = 221 ∨ status.code = 222 := by
    rcases isArticlePair_iff.mp hpair with ⟨-, h⟩ | ⟨-, h⟩ | ⟨-, h⟩ | ⟨-, h⟩ <;> omega
  have hresponse : ArticleResponse status.code _ _ content [] ⟨messageId, some number, headers,
    body⟩ :=
    ⟨rfl, h.isLineContent hid, hends, ⟨number, h.firstLine hid hnumber, rfl⟩, hsections⟩
  exact hresponse.isArticleFrame hpair (h.status_append hcode _) hcases (h.length_le hid hnumber)

theorem isArticleFrame_stat (hnumber : number ≤ MAX_ARTICLE_NUMBER)
    (hcode : StatusCode.parse code = some status) (hstat : status.code = 223) :
    IsArticleFrame .stat (articleFields code (decimalText number) (asBytes messageId) text ++ CRLF)
      ⟨messageId, some number, none, none⟩ := by
  have hstatus : StatusCode.parse (articleFields code (decimalText number) (asBytes messageId)
      text) = some status := by
    rw [← List.append_nil (articleFields _ _ _ _), h.status_append hcode]
  exact Protocol.isArticleFrame_stat hstatus hstat (h.isLineContent hid) (h.firstLine hid hnumber)
    (h.length_le hid hnumber)

end LineText

end NntpBench.Protocol
