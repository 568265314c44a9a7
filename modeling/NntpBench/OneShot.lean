import NntpBench.InitialLine
import NntpBench.Receiver

namespace NntpBench.Protocol

open Terminator DotTerminatedBlocks

variable {kind : RequestKind} {data : Bytes} {initial : ResponseInitial} {fin : Nat}

inductive OneShot where
  | needMore
  | invalid
  | complete (framed : FramedResponse)
  deriving DecidableEq, Repr

def oneShotBody (kind : RequestKind) (initial : ResponseInitial) (fin : Nat) (data : Bytes) :
    OneShot :=
  if initial.descriptor.framing.isMultiline then
    match bounds (data.drop fin) with
    | none => .needMore
    | some (contentEnd, blockEnd) =>
      .complete { bytes := data.take (fin + blockEnd), kind, status := initial.status
                  statusLineEnd := fin, contentEnd := fin + contentEnd, initial }
  else
    .complete { bytes := data.take fin, kind, status := initial.status, statusLineEnd := fin
                contentEnd := fin, initial }

def oneShot (kind : RequestKind) (data : Bytes) : OneShot :=
  match ResponseInitial.parse kind data, detectResponseLineEnd data with
  | .complete initial, .completeAt fin => oneShotBody kind initial fin data
  | .needMore, _ => .needMore
  | _, _ => .invalid

theorem oneShot_of_needMore
    (h : ResponseInitial.parse kind data = .needMore) : oneShot kind data = .needMore := by
  simp [oneShot, h]

theorem oneShot_of_invalid
    (h : ResponseInitial.parse kind data = .invalid) : oneShot kind data = .invalid := by
  simp [oneShot, h]

theorem oneShot_of_complete (h : ResponseInitial.parse kind data = .complete initial)
    (hfin : detectResponseLineEnd data = .completeAt fin) :
    oneShot kind data = oneShotBody kind initial fin data := by
  simp [oneShot, h, hfin]

theorem le_length_of_completeAt
    (h : detectResponseLineEnd data = .completeAt fin) : fin ≤ data.length := by
  obtain ⟨line, rest, rfl, -, rfl⟩ := detectResponseLineEnd_eq_completeAt h
  simp only [List.length_append, List.length_cons]
  omega

theorem oneShotBody_append (hfin : fin ≤ data.length) (more : Bytes)
    (h : oneShotBody kind initial fin data ≠ .needMore) :
    oneShotBody kind initial fin (data ++ more) = oneShotBody kind initial fin data := by
  unfold oneShotBody at h ⊢
  split_ifs at h ⊢ with hmulti
  · rw [List.drop_append_of_le_length hfin]
    cases hbounds : bounds (data.drop fin) with
    | none => simp [hbounds] at h
    | some r =>
      obtain ⟨contentEnd, blockEnd⟩ := r
      obtain ⟨-, hle⟩ := bounds_spec hbounds
      rw [bounds_append_of_some more hbounds]
      simp only [List.length_drop] at hle
      simp only [List.take_append_of_le_length (show fin + blockEnd ≤ data.length by omega)]
  · rw [List.take_append_of_le_length hfin]

theorem oneShot_append (more : Bytes)
    (h : oneShot kind data ≠ .needMore) : oneShot kind (data ++ more) = oneShot kind data := by
  cases hparse : ResponseInitial.parse kind data with
  | needMore => exact absurd (oneShot_of_needMore hparse) h
  | invalid =>
    have hmore := ResponseInitial.parse_append more (by simp [hparse] :
      ResponseInitial.parse kind data ≠ .needMore)
    rw [oneShot_of_invalid hparse, oneShot_of_invalid (hmore.trans hparse)]
  | complete initial =>
    obtain ⟨fin, hfin, -, -⟩ := ResponseInitial.parse_eq_complete hparse
    have hmore := ResponseInitial.parse_append more (by simp [hparse] :
      ResponseInitial.parse kind data ≠ .needMore)
    have hfinMore := detectResponseLineEnd_append more (by simp [hfin] :
      detectResponseLineEnd data ≠ .needMore)
    rw [oneShot_of_complete hparse hfin] at h ⊢
    rw [oneShot_of_complete (hmore.trans hparse) (hfinMore.trans hfin)]
    exact oneShotBody_append (le_length_of_completeAt hfin) more h

/-- The frame that `ResponseFrame::parse` builds before it checks the content. -/
def FramedResponse.toFrame (self : FramedResponse) : ResponseFrame :=
  { kind := self.kind, descriptor := self.initial.descriptor, bytes := self.bytes
    statusLine := self.bytes.take self.statusLineEnd
    content := self.bytes.extract self.statusLineEnd self.contentEnd
    terminator := self.bytes.drop self.contentEnd
    contentStart := self.statusLineEnd, contentEnd := self.contentEnd
    contentValidation := .generic, status := self.status, consumed := self.bytes.length }

def checkContent (framed : FramedResponse) : ResponseFrameParse :=
  match validateResponseContent framed.toFrame with
  | some contentValidation => .complete { framed.toFrame with contentValidation }
  | none => .invalid

theorem toFrame_take {contentEnd frameEnd : Nat} (hfin : fin ≤ contentEnd)
    (hcontent : contentEnd ≤ frameEnd) (hframe : frameEnd ≤ data.length) :
    FramedResponse.toFrame ⟨data.take frameEnd, kind, initial.status, fin, contentEnd, initial⟩ =
      { kind, descriptor := initial.descriptor, status := initial.status, consumed := frameEnd
        content := data.extract fin contentEnd
        terminator := data.extract contentEnd frameEnd
        bytes := data.take frameEnd
        statusLine := data.take fin
        contentStart := fin
        contentEnd := fin + (data.extract fin contentEnd).length
        contentValidation := .generic } := by
  have hcontentSlice : (data.take frameEnd).extract fin contentEnd =
      data.extract fin contentEnd := by
    rw [List.extract_eq_take_drop, List.extract_eq_take_drop, List.drop_take, List.take_take,
      Nat.min_eq_left (by omega)]
  have hterminator : (data.take frameEnd).drop contentEnd = data.extract contentEnd frameEnd := by
    rw [List.extract_eq_take_drop, List.drop_take]
  have hlength : (data.take frameEnd).length = frameEnd := by
    rw [List.length_take, Nat.min_eq_left hframe]
  have hcontentEnd : fin + (data.extract fin contentEnd).length = contentEnd := by
    rw [List.extract_eq_take_drop, List.length_take, List.length_drop]
    omega
  simp only [FramedResponse.toFrame, hcontentSlice, hterminator, hlength, hcontentEnd,
    List.take_take, Nat.min_eq_left (hfin.trans hcontent)]

theorem fin_lt_of_bounds {contentEnd blockEnd : Nat} (hfin : fin ≤ data.length)
    (h : bounds (data.drop fin) = some (contentEnd, blockEnd)) :
    contentEnd ≤ blockEnd ∧ fin + blockEnd ≤ data.length := by
  obtain ⟨hend, hle⟩ := bounds_spec h
  rw [List.length_drop] at hle
  omega

theorem ResponseFrame.parseBody_eq (initial : ResponseInitial) (hfin : fin ≤ data.length) :
    ResponseFrame.parseBody kind initial.status initial.descriptor data fin =
      match oneShotBody kind initial fin data with
      | .needMore => .needMore
      | .invalid => .invalid
      | .complete framed => checkContent framed := by
  unfold ResponseFrame.parseBody ResponseFrame.frameBody oneShotBody checkContent
  split_ifs with hmulti
  · rw [findDotTerminatedBlock_eq hfin]
    cases hbounds : bounds (data.drop fin) with
    | none => rfl
    | some r =>
      obtain ⟨contentEnd, blockEnd⟩ := r
      obtain ⟨hcontent, hframe⟩ := fin_lt_of_bounds hfin hbounds
      have hsame : FramedResponse.toFrame ⟨data.take (fin + blockEnd), kind, initial.status, fin,
          fin + contentEnd, initial⟩ = _ :=
        toFrame_take (Nat.le_add_right fin contentEnd) (Nat.add_le_add_left hcontent fin) hframe
      dsimp only [Option.map_some]
      generalize FramedResponse.toFrame ⟨data.take (fin + blockEnd), kind, initial.status, fin,
        fin + contentEnd, initial⟩ = frame at hsame ⊢
      subst hsame
      rfl
  · have hsame : FramedResponse.toFrame ⟨data.take fin, kind, initial.status, fin, fin, initial⟩ =
        _ := toFrame_take (Nat.le_refl fin) (Nat.le_refl fin) hfin
    rw [List.extract_eq_take_drop, Nat.sub_self, List.take_zero] at hsame
    dsimp only
    generalize FramedResponse.toFrame ⟨data.take fin, kind, initial.status, fin, fin, initial⟩ =
      frame at hsame ⊢
    subst hsame
    rfl

theorem ResponseFrame.parse_eq (kind : RequestKind) (data : Bytes) :
    ResponseFrame.parse kind data =
      match oneShot kind data with
      | .needMore => .needMore
      | .invalid => .invalid
      | .complete framed => checkContent framed := by
  -- `ResponseFrame::parse` finds the response `oneShot` finds and then checks its content.
  unfold ResponseFrame.parse detectBoundedResponseLineEnd
  cases hdetect : detectResponseLineEnd data with
  | invalid => rw [oneShot_of_invalid (ResponseInitial.parse_of_invalid hdetect)]
  | needMore =>
    have hparse : ResponseInitial.parse kind data = _ := ResponseInitial.parse_of_needMore hdetect
    dsimp only
    split_ifs at hparse ⊢ with hlong
    · rw [oneShot_of_invalid hparse]
    · rw [oneShot_of_needMore hparse]
  | completeAt fin =>
    have hparse : ResponseInitial.parse kind data = _ := ResponseInitial.parse_of_completeAt hdetect
    have hfin := le_length_of_completeAt hdetect
    dsimp only
    split_ifs at hparse ⊢ with hlimit
    · cases hstatus : StatusCode.parse data with
      | none =>
        rw [hstatus] at hparse
        rw [oneShot_of_invalid hparse]
      | some status =>
        have hline : ∃ content, data.take fin = content ++ CRLF := by
          obtain ⟨line, rest, rfl, -, rfl⟩ := detectResponseLineEnd_eq_completeAt hdetect
          refine ⟨line, ?_⟩
          rw [List.take_append]
          simp [crlf_eq]
        obtain ⟨content, hcontent⟩ := hline
        rw [hstatus, hcontent, parseInitialLine_crlf] at hparse
        have hlength : fin = content.length + 2 := by
          have := congrArg List.length hcontent
          rw [List.length_take, Nat.min_eq_left hfin, List.length_append, length_crlf] at this
          exact this
        rw [← hcontent] at hparse
        dsimp only
        by_cases hshort : fin < 5
        · have hinvalid : validateResponseInitialLine kind status (data.take fin) = false := by
            rw [hcontent, validateResponseInitialLine_crlf]
            simp [show ¬ 3 ≤ content.length by omega]
          simp only [hinvalid, Bool.not_false, if_true, ite_self] at hparse
          rw [if_pos hshort, oneShot_of_invalid hparse]
        · rw [if_neg hshort]
          generalize (if isArticlePair kind status.code then
            parseResponseInitialArticle (data.take fin) else none) = article at hparse
          split_ifs at hparse ⊢ with hunexpected hvalid
          · rw [oneShot_of_invalid hparse]
          · rw [oneShot_of_invalid hparse]
          · rw [oneShot_of_complete hparse hdetect]
            exact ResponseFrame.parseBody_eq ⟨status, _, article⟩ hfin
    · rw [oneShot_of_invalid hparse]

/-- A framed response whose parts fit together; `line` is its status line without CRLF. -/
structure FramedResponse.WellFramed (framed : FramedResponse) (line : Bytes) : Prop where
  statusLine : framed.bytes.take framed.statusLineEnd = line ++ CRLF
  statusLineEnd : framed.statusLineEnd = line.length + 2
  start_le : framed.statusLineEnd ≤ framed.contentEnd
  stop_le : framed.contentEnd ≤ framed.bytes.length
  status : StatusCode.parse framed.bytes = some framed.status
  initial : framed.initial =
    { status := framed.status
      descriptor := ResponseDescriptor.forRequestStatus framed.kind framed.status
      article :=
        if isArticlePair framed.kind framed.status.code then
          parseResponseInitialArticle (line ++ CRLF)
        else none }
  valid : validateResponseInitialLine framed.kind framed.status (line ++ CRLF) = true

theorem ResponseInitial.parse_complete (h : ResponseInitial.parse kind data = .complete initial) :
    ∃ line, detectResponseLineEnd data = .completeAt (line.length + 2) ∧
      data.take (line.length + 2) = line ++ CRLF ∧
      StatusCode.parse data = some initial.status ∧
      validateResponseInitialLine kind initial.status (line ++ CRLF) = true ∧
      initial =
        { status := initial.status
          descriptor := ResponseDescriptor.forRequestStatus kind initial.status
          article :=
            if isArticlePair kind initial.status.code then
              parseResponseInitialArticle (line ++ CRLF)
            else none } := by
  obtain ⟨fin, hdetect, -, hline⟩ := ResponseInitial.parse_eq_complete h
  obtain ⟨line, rest, hsplit, -, rfl⟩ := detectResponseLineEnd_eq_completeAt hdetect
  have htake : data.take (line.length + 2) = line ++ CRLF := by
    rw [hsplit, List.take_append]
    simp [crlf_eq]
  rw [htake] at hline
  cases hstatus : StatusCode.parse data with
  | none => simp [hstatus, parseInitialLine] at hline
  | some status =>
    rw [hstatus, parseInitialLine_crlf] at hline
    generalize harticle : (if isArticlePair kind status.code then
      parseResponseInitialArticle (line ++ CRLF) else none) = article at hline
    split_ifs at hline with hunexpected hvalid
    cases hline
    refine ⟨line, hdetect, htake, rfl, by simpa using hvalid, ?_⟩
    rw [harticle]

theorem oneShot_complete {framed : FramedResponse} (h : oneShot kind data = .complete framed) :
    framed.kind = kind ∧ framed.bytes <+: data ∧ ∃ line, framed.WellFramed line := by
  cases hparse : ResponseInitial.parse kind data with
  | needMore => simp [oneShot_of_needMore hparse] at h
  | invalid => simp [oneShot_of_invalid hparse] at h
  | complete initial =>
    obtain ⟨line, hdetect, htake, hstatus, hvalid, hinitial⟩ :=
      ResponseInitial.parse_complete hparse
    have hfin := le_length_of_completeAt hdetect
    have hlen := StatusCode.length_of_parse hstatus
    rw [oneShot_of_complete hparse hdetect] at h
    obtain ⟨contentEnd, frameEnd, hcontent, hframe, hle, rfl⟩ :
        ∃ contentEnd frameEnd, line.length + 2 ≤ contentEnd ∧ contentEnd ≤ frameEnd ∧
          frameEnd ≤ data.length ∧
          framed = ⟨data.take frameEnd, kind, initial.status, line.length + 2, contentEnd,
            initial⟩ := by
      unfold oneShotBody at h
      split_ifs at h with hmulti
      · cases hbounds : bounds (data.drop (line.length + 2)) with
        | none => simp [hbounds] at h
        | some r =>
          obtain ⟨contentEnd, blockEnd⟩ := r
          obtain ⟨hcontent, hframe⟩ := fin_lt_of_bounds hfin hbounds
          simp only [hbounds] at h
          cases h
          exact ⟨_, _, Nat.le_add_right _ _, Nat.add_le_add_left hcontent _, hframe, rfl⟩
      · cases h
        exact ⟨_, _, Nat.le_refl _, Nat.le_refl _, hfin, rfl⟩
    have hthree : 3 ≤ line.length := by
      rw [validateResponseInitialLine_crlf] at hvalid
      simp only [Bool.and_eq_true, decide_eq_true_eq] at hvalid
      exact hvalid.1
    refine ⟨rfl, List.take_prefix _ _, line, ⟨?_, rfl, hcontent, ?_, ?_, hinitial, hvalid⟩⟩
    · rw [List.take_take, Nat.min_eq_left (hcontent.trans hframe), htake]
    · show contentEnd ≤ (data.take frameEnd).length
      rw [List.length_take]
      omega
    · have hshort : 3 ≤ (data.take frameEnd).length := by
        rw [List.length_take]
        omega
      rw [← StatusCode.parse_append hshort (data.drop frameEnd), List.take_append_drop]
      exact hstatus

/-- A status line, without its line end, that answers a request of a kind. -/
structure AcceptedLine (kind : RequestKind) (status : StatusCode) (line : Bytes) : Prop where
  isLine : IsLineContent line
  code : StatusCode.parse line = some status
  fits : line.length + 2 ≤ responseInitialLineLimit kind (some status)
  expected : (ResponseDescriptor.forRequestStatus kind status).framing ≠ .unexpected
  valid : validateResponseInitialLine kind status (line ++ CRLF) = true

def lineInitial (kind : RequestKind) (status : StatusCode) (line : Bytes) : ResponseInitial :=
  { status
    descriptor := ResponseDescriptor.forRequestStatus kind status
    article :=
      if isArticlePair kind status.code then parseResponseInitialArticle (line ++ CRLF) else none }

namespace AcceptedLine

variable {kind : RequestKind} {status : StatusCode} {line : Bytes}
  (h : AcceptedLine kind status line)
include h

theorem status_append (rest : Bytes) : StatusCode.parse (line ++ rest) = some status := by
  rw [StatusCode.parse_append (StatusCode.length_of_parse h.code), h.code]

theorem initial_parse (rest : Bytes) :
    ResponseInitial.parse kind (line ++ CR :: LF :: rest) =
      .complete (lineInitial kind status line) := by
  have htake : (line ++ CR :: LF :: rest).take (line.length + 2) = line ++ CRLF := by
    rw [List.take_append]
    simp [crlf_eq]
  rw [ResponseInitial.parse_of_completeAt (detectResponseLineEnd_line h.isLine rest),
    h.status_append, if_pos h.fits, htake, parseInitialLine_crlf, if_neg h.expected, h.valid]
  rfl

theorem oneShot_eq (rest : Bytes) :
    oneShot kind (line ++ CR :: LF :: rest) =
      oneShotBody kind (lineInitial kind status line) (line.length + 2)
        (line ++ CR :: LF :: rest) :=
  oneShot_of_complete (h.initial_parse rest) (detectResponseLineEnd_line h.isLine rest)

theorem oneShot_single (rest : Bytes)
    (hsingle : (ResponseDescriptor.forRequestStatus kind status).framing.isMultiline = false) :
    oneShot kind (line ++ CR :: LF :: rest) = .complete
      ⟨line ++ CRLF, kind, status, line.length + 2, line.length + 2, lineInitial kind status
        line⟩ := by
  have htake : (line ++ CR :: LF :: rest).take (line.length + 2) = line ++ CRLF := by
    rw [List.take_append]
    simp [crlf_eq]
  rw [h.oneShot_eq, oneShotBody, if_neg, htake]
  · rfl
  · rw [Bool.not_eq_true]
    exact hsingle

theorem oneShot_multiline (content more : Bytes)
    (hmulti : (ResponseDescriptor.forRequestStatus kind status).framing.isMultiline = true)
    (hbounds : bounds (content ++ DOT_TERMINATOR ++ more) =
      some (content.length, content.length + DOT_TERMINATOR.length)) :
    oneShot kind (line ++ CR :: LF :: (content ++ DOT_TERMINATOR ++ more)) = .complete
      ⟨line ++ CRLF ++ content ++ DOT_TERMINATOR, kind, status, line.length + 2,
        line.length + 2 + content.length, lineInitial kind status line⟩ := by
  -- Behind the line of a multiline response stands its block.
  have hdrop : (line ++ CR :: LF :: (content ++ DOT_TERMINATOR ++ more)).drop (line.length + 2) =
      content ++ DOT_TERMINATOR ++ more := by
    rw [← List.drop_drop, List.drop_left]
    rfl
  have htake : (line ++ CR :: LF :: (content ++ DOT_TERMINATOR ++ more)).take
      (line.length + 2 + (content.length + DOT_TERMINATOR.length)) =
        line ++ CRLF ++ content ++ DOT_TERMINATOR := by
    have hlength : line.length + 2 + (content.length + DOT_TERMINATOR.length) =
        (line ++ CRLF ++ content ++ DOT_TERMINATOR).length := by
      simp only [List.length_append, length_crlf]
      omega
    have hsplit : line ++ CR :: LF :: (content ++ DOT_TERMINATOR ++ more) =
        (line ++ CRLF ++ content ++ DOT_TERMINATOR) ++ more := by
      rw [crlf_eq]
      simp
    rw [hlength, hsplit, List.take_left]
  have hinitial : (lineInitial kind status line).descriptor.framing.isMultiline = true := hmulti
  rw [h.oneShot_eq, oneShotBody, if_pos hinitial, hdrop, hbounds]
  dsimp only
  rw [htake]
  rfl

end AcceptedLine

end NntpBench.Protocol
