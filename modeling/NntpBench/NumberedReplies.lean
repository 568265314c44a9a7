import NntpBench.ReplyFrames

namespace NntpBench.Protocol

open Terminator DotTerminatedBlocks

variable {low high : Nat} {line : Bytes} {lines : List Bytes} {status : StatusCode}

theorem exists_acceptedLine {kind : RequestKind} {buf : Bytes} {initial : ResponseInitial}
    (h : ResponseInitial.parse kind buf = .complete initial) :
    ∃ line rest, buf = line ++ CR :: LF :: rest ∧ AcceptedLine kind initial.status line := by
  obtain ⟨fin, hdetect, hfits, hparse⟩ := ResponseInitial.parse_eq_complete h
  obtain ⟨line, rest, rfl, hisLine, rfl⟩ := detectResponseLineEnd_eq_completeAt hdetect
  have htake : (line ++ CR :: LF :: rest).take (line.length + 2) = line ++ CRLF := by
    rw [List.take_append]
    simp [crlf_eq]
  refine ⟨line, rest, rfl, ?_⟩
  cases hstatus : StatusCode.parse (line ++ CR :: LF :: rest) with
  | none => simp [hstatus, parseInitialLine] at hparse
  | some status =>
    rw [htake, hstatus, parseInitialLine_crlf] at hparse
    rw [hstatus] at hfits
    generalize (if isArticlePair kind status.code then
      parseResponseInitialArticle (line ++ CRLF) else none) = article at hparse
    split_ifs at hparse with hunexpected hvalid
    have hvalid : validateResponseInitialLine kind status (line ++ CRLF) = true := by
      simpa using hvalid
    have hthree : 3 ≤ line.length := by
      rw [validateResponseInitialLine_crlf, Bool.and_eq_true, decide_eq_true_eq] at hvalid
      exact hvalid.1
    rw [StatusCode.parse_append hthree] at hstatus
    cases hparse
    exact ⟨hisLine, hstatus, hfits, hunexpected, hvalid⟩

theorem status_of_checkContent {framed : FramedResponse} {frame : ResponseFrame}
    (h : checkContent framed = .complete frame) : frame.status = framed.status := by
  unfold checkContent at h
  split at h
  · cases h
    rfl
  · cases h

theorem exists_block {kind : RequestKind} {buf : Bytes} {frame : ResponseFrame}
    (h : ResponseFrame.parse kind buf = .complete frame)
    (hmulti : (ResponseDescriptor.forRequestStatus kind frame.status).framing.isMultiline = true)
    (hpair : isArticlePair kind frame.status.code = false) :
    ∃ line more, buf = line ++ CR :: LF :: (frame.content ++ DOT_TERMINATOR ++ more) ∧
      AcceptedLine kind frame.status line ∧
      validateNonArticleResponseContent kind (line ++ CRLF) frame.content = true := by
  -- What a complete frame of a multiline response says about the bytes.
  have hone := h
  rw [ResponseFrame.parse_eq] at hone
  cases hinitial : ResponseInitial.parse kind buf with
  | needMore => simp [oneShot_of_needMore hinitial] at hone
  | invalid => simp [oneShot_of_invalid hinitial] at hone
  | complete initial =>
    obtain ⟨line, rest, rfl, hline⟩ := exists_acceptedLine hinitial
    have hdrop : (line ++ CR :: LF :: rest).drop (line.length + 2) = rest := by
      rw [← List.drop_drop, List.drop_left]
      rfl
    rw [hline.oneShot_eq, oneShotBody, hdrop] at hone
    split_ifs at hone with hframing
    · cases hbounds : bounds rest with
      | none => simp [hbounds] at hone
      | some ends =>
        obtain ⟨contentEnd, blockEnd⟩ := ends
        rw [hbounds] at hone
        have hstatus : frame.status = initial.status := status_of_checkContent hone
        obtain ⟨more, hrest, hlength⟩ := eq_of_bounds hbounds
        obtain ⟨hend, -⟩ := bounds_spec hbounds
        generalize rest.take contentEnd = content at hrest hlength
        subst hrest hend hlength
        rw [hstatus] at hmulti hpair
        obtain ⟨found, -, hcontent, -, hparse⟩ :=
          hline.parse_block hpair content more hmulti hbounds
        rw [h] at hparse
        split_ifs at hparse with hvalid
        cases hparse
        rw [hcontent, hstatus]
        exact ⟨line, more, rfl, hline, hvalid⟩
    · have hstatus : frame.status = initial.status := status_of_checkContent hone
      rw [hstatus] at hmulti
      exact absurd hmulti hframing

structure IsArticleNumber (text : Bytes) (number : Nat) : Prop where
  nonempty : text ≠ []
  length_le : text.length ≤ 16
  digits : ∀ byte ∈ text, isAsciiDigit byte = true
  value : decimalValue text = number
  number_le : number ≤ MAX_ARTICLE_NUMBER

theorem parseResponseArticleNumber_eq_some_iff {text : Bytes} {number : Nat} :
    parseResponseArticleNumber text = some number ↔ IsArticleNumber text number := by
  unfold parseResponseArticleNumber
  constructor
  · intro h
    split_ifs at h with hshape hmax
    simp only [not_or, Bool.not_eq_true, Bool.not_eq_false', List.all_eq_true, not_lt] at hshape
    cases h
    exact ⟨hshape.1, hshape.2.1, hshape.2.2, rfl, hmax⟩
  · intro h
    have hdigits : text.all isAsciiDigit = true := List.all_eq_true.mpr h.digits
    have hlength := h.length_le
    rw [if_neg (by simp [h.nonempty, hdigits]; omega), if_pos (h.value ▸ h.number_le), h.value]

/-- The numbers that LISTGROUP may answer with under the arguments of its status line. -/
structure GroupNumbers (count low high : Nat) (numbers : List Nat) : Prop where
  increasing : numbers.Pairwise (· < ·)
  range : ∀ number ∈ numbers, max low 1 ≤ number ∧ number ≤ high
  length_le : numbers.length ≤ count

/-- What the loop over the lines reads from one of them. -/
def readGroupNumber (low high : Nat) (line : Bytes) : Option Nat :=
  if isBareDotLine line then none
  else (parseResponseArticleNumber line).filter fun number =>
    ¬ (number = 0 ∨ low > high ∨ number < low ∨ number > high)

theorem isBareDotLine_of_digits (h : ∀ byte ∈ line, isAsciiDigit byte = true) : isBareDotLine line =
    false := by
  cases hbare : isBareDotLine line with
  | false => rfl
  | true =>
    have hstart : ascii "." <+: line := by
      simp only [isBareDotLine, Bool.and_eq_true, decide_eq_true_eq] at hbare
      exact hbare.1
    exact absurd (h DOT (hstart.subset (by decide))) (by decide)

theorem readGroupNumber_eq_some_iff {number : Nat} :
    readGroupNumber low high line = some number ↔
      IsArticleNumber line number ∧ max low 1 ≤ number ∧ number ≤ high := by
  have hdot : ∀ number, IsArticleNumber line number → isBareDotLine line = false := fun _ hnumber =>
    isBareDotLine_of_digits hnumber.digits
  unfold readGroupNumber
  rw [← parseResponseArticleNumber_eq_some_iff]
  simp only [← parseResponseArticleNumber_eq_some_iff] at hdot
  constructor
  · intro h
    split_ifs at h
    obtain ⟨hsome, hrange⟩ := Option.filter_eq_some_iff.mp h
    simp only [decide_eq_true_eq] at hrange
    exact ⟨hsome, by omega, by omega⟩
  · rintro ⟨hsome, hlow, hhigh⟩
    rw [if_neg (by simp [hdot number hsome]), hsome, Option.filter_some, if_pos]
    simp only [decide_eq_true_eq]
    omega

/-- One round of the loop over the lines, with the last number and how many there were. -/
def listgroupStep (low high : Nat) (state : Option Nat × Nat) (line : Bytes) : Option
    (Option Nat × Nat) :=
  match parseResponseArticleNumber line with
  | none => none
  | some articleNumber =>
    if articleNumber = 0 ∨ low > high ∨ articleNumber < low ∨ articleNumber > high ∨
        state.1.any (articleNumber ≤ ·) then none
    else some (some articleNumber, state.2 + 1)

theorem foldlM_listgroupStep (low high : Nat) (lines : List Bytes) :
    ∀ previous actual, lines.foldlM (fun state line => if isBareDotLine line then none
        else listgroupStep low high state line) (previous, actual) =
      (lines.foldlM (increasingStep (readGroupNumber low high)) previous).map fun last =>
        (last, actual + lines.length) := by
  -- The loop reads increasing numbers and counts the lines.
  induction lines with
  | nil => intro previous actual; rfl
  | cons line lines ih =>
    intro previous actual
    rw [List.foldlM_cons, List.foldlM_cons, increasingStep, readGroupNumber, listgroupStep]
    split_ifs with hdot
    · rfl
    cases hnumber : parseResponseArticleNumber line with
    | none => rfl
    | some number =>
      dsimp only
      rw [Option.filter_some]
      by_cases hrange : number = 0 ∨ low > high ∨ number < low ∨ number > high
      · rw [if_pos (by tauto), if_neg (by rw [decide_eq_true_eq, not_not]; exact hrange)]
        rfl
      · rw [if_pos (by simpa using hrange : decide _ = true)]
        dsimp only
        by_cases hafter : previous.any (number ≤ ·) = true
        · rw [if_pos (by tauto), if_pos hafter]
          rfl
        · rw [if_neg (by tauto), if_neg hafter]
          show List.foldlM _ (some number, actual + 1) lines = _
          rw [ih, List.length_cons, Nat.add_right_comm, Nat.add_assoc]
          rfl

theorem forall₂_readGroupNumber {numbers : List Nat} :
    List.Forall₂ (fun line number => readGroupNumber low high line = some number) lines numbers ↔
      List.Forall₂ IsArticleNumber lines numbers ∧
        ∀ number ∈ numbers, max low 1 ≤ number ∧ number ≤ high := by
  simp only [readGroupNumber_eq_some_iff]
  induction lines generalizing numbers with
  | nil => cases numbers <;> simp
  | cons line lines ih =>
    cases numbers with
    | nil => simp
    | cons number numbers =>
      rw [List.forall₂_cons, List.forall₂_cons, ih, List.forall_mem_cons]
      tauto

theorem validateListgroupResponseContent_wireLines {arguments : Bytes}
    {group : GroupResponseArguments} (hline : line = ascii "211 " ++ arguments)
    (hgroup : parseGroupResponseArguments arguments = some group)
    (hlines : ∀ line ∈ lines, IsLineContent line) :
    validateListgroupResponseContent (line ++ CRLF) (wireLines lines) = true ↔
      ∃ numbers, List.Forall₂ IsArticleNumber lines numbers ∧
        GroupNumbers group.count group.low group.high numbers := by
  have harguments : (do
      let line ← stripSuffix CRLF (line ++ CRLF)
      let arguments ← getFrom line 4
      parseGroupResponseArguments arguments) = some group := by
    have hfour : (ascii "211 ").length = 4 := rfl
    have hget : getFrom line 4 = some arguments := by
      rw [hline, getFrom, if_pos (by rw [List.length_append, hfour]; omega), ← hfour,
        List.drop_left]
    rw [stripSuffix_crlf_eq_some.mpr rfl]
    simp only [Option.bind_eq_bind, Option.bind_some, hget, hgroup]
  have hcount : ∀ actual, (actual ≤ group.count || decide (actual = 0)) =
      decide (actual ≤ group.count) := by
    intro actual
    rcases Nat.eq_zero_or_pos actual with rfl | hpos
    · simp
    · simp [Nat.pos_iff_ne_zero.mp hpos]
  have hloop : validateListgroupResponseContent (line ++ CRLF) (wireLines lines) =
      (validateCrlfLines (wireLines lines) ((none : Option Nat), 0)
        (listgroupStep group.low group.high)).any fun state => state.2 ≤ group.count := by
    unfold validateListgroupResponseContent
    dsimp only
    rw [harguments, Option.any_some]
    simp only [hcount]
    rfl
  rw [hloop, validateCrlfLines_wireLines hlines, foldlM_listgroupStep]
  constructor
  · intro h
    obtain ⟨state, hstate, hle⟩ := (Option.any_eq_true _ _).mp h
    obtain ⟨last, hlast, rfl⟩ := Option.map_eq_some_iff.mp hstate
    have hsome := Option.isSome_of_eq_some hlast
    obtain ⟨numbers, hread, hsorted, -⟩ := (increasing_iff _).mp hsome
    obtain ⟨hnumbers, hrange⟩ := forall₂_readGroupNumber.mp hread
    refine ⟨numbers, hnumbers, hsorted, hrange, ?_⟩
    have hlength := hnumbers.length_eq
    simp only [decide_eq_true_eq] at hle
    omega
  · rintro ⟨numbers, hnumbers, hgroup⟩
    have hread := forall₂_readGroupNumber.mpr ⟨hnumbers, hgroup.range⟩
    have hsome := (@increasing_iff _ (readGroupNumber group.low group.high) _ none).mpr
      ⟨numbers, hread, hgroup.increasing, by simp⟩
    obtain ⟨last, hlast⟩ := Option.isSome_iff_exists.mp hsome
    have hlength := hnumbers.length_eq
    have hle := hgroup.length_le
    rw [hlast, Option.map_some, Option.any_some, decide_eq_true_eq]
    show 0 + lines.length ≤ group.count
    omega

theorem splitRequiredResponseTokens_cons (n : Nat) {token next rest : Bytes}
    (htoken : token ≠ [] ∧ SP ∉ token)
    (hnext : next ≠ [] ∧ SP ∉ next) :
    splitRequiredResponseTokens (n + 2) (token ++ SP :: (next ++ rest)) =
      (splitRequiredResponseTokens (n + 1) (next ++ rest)).map fun (tokens, last) =>
        (token :: tokens, last) := by
  have hsecond : (SP :: (next ++ rest))[1]? ≠ some SP := by
    intro h
    cases next with
    | nil => exact hnext.1 rfl
    | cons byte next =>
      have hbyte : byte = SP := by simpa using h
      exact hnext.2 (by simp [hbyte])
  rw [splitRequiredResponseTokens_succ (n + 1) htoken.2 (Or.inr ⟨_, rfl⟩), if_neg htoken.1,
    if_neg (by omega), if_neg (by simpa using hsecond), List.drop_one, List.tail_cons]

theorem exists_token_of_split {n : Nat} {value last : Bytes} {tokens : List Bytes}
    (h : splitRequiredResponseTokens (n + 2) value = some (tokens, last)) :
    ∃ token rest others, value = token ++ SP :: rest ∧ tokens = token :: others ∧
      splitRequiredResponseTokens (n + 1) rest = some (others, last) := by
  obtain ⟨token, rest, rfl, htoken, hrest⟩ := exists_token_split value
  rw [splitRequiredResponseTokens_succ (n + 1) htoken hrest, if_neg (by omega : ¬ n + 1 = 0)] at h
  split_ifs at h with hempty hdouble
  rcases hrest with rfl | ⟨tail, rfl⟩
  · exact absurd (Or.inl rfl) hdouble
  obtain ⟨⟨others, final⟩, hothers, hpair⟩ := Option.map_eq_some_iff.mp h
  cases hpair
  exact ⟨token, tail, others, rfl, rfl, hothers⟩

/-- The status line of a group, with its numbers. -/
structure GroupLine (line : Bytes) (count low high : Nat) : Prop where
  isLine : IsLineContent line
  fits : line.length + 2 ≤ MAX_INITIAL_RESPONSE_LINE_BYTES
  fields : ∃ countText lowText highText group text,
    line = ascii "211 " ++
      (countText ++ SP :: (lowText ++ SP :: (highText ++ SP :: (group ++ text)))) ∧
      IsArticleNumber countText count ∧ IsArticleNumber lowText low ∧
        IsArticleNumber highText high ∧
      isGroupNameToken group = true ∧ validateOptionalTrailingComment text = true
  watermarks : validateGroupWatermarks count low high = true

theorem not_space_of_isGroupNameToken {group : Bytes} (h : isGroupNameToken group = true) :
    group ≠ [] ∧ SP ∉ group := by
  obtain ⟨value, hvalue, hvalid⟩ := (Option.any_eq_true _ _).mp h
  have hargument := GroupName.isArgument ⟨value, hvalid⟩
  rw [show asBytes value = group from Utf8.encode_of_decode hvalue] at hargument
  exact ⟨hargument.nonempty, hargument.visible.not_mem (by decide)⟩

theorem parseGroupResponseArguments_fields {countText lowText highText group text : Bytes}
    {count : Nat} (hcount : IsArticleNumber countText count) (hlow : IsArticleNumber lowText low)
    (hhigh : IsArticleNumber highText high) (hgroup : isGroupNameToken group = true)
    (htext : validateOptionalTrailingComment text = true) :
    parseGroupResponseArguments
        (countText ++ SP :: (lowText ++ SP :: (highText ++ SP :: (group ++ text)))) =
      some ⟨count, low, high, group, text⟩ := by
  rw [← parseResponseArticleNumber_eq_some_iff] at hcount hlow hhigh
  obtain ⟨hnot, hne⟩ := space_not_mem_number hcount
  obtain ⟨hnot', hne'⟩ := space_not_mem_number hlow
  obtain ⟨hnot'', hne''⟩ := space_not_mem_number hhigh
  have hname := not_space_of_isGroupNameToken hgroup
  unfold parseGroupResponseArguments
  rw [splitRequiredResponseTokens_cons 2 ⟨hne, hnot⟩ ⟨hne', hnot'⟩,
    splitRequiredResponseTokens_cons 1 ⟨hne', hnot'⟩ ⟨hne'', hnot''⟩,
    splitRequiredResponseTokens_cons 0 ⟨hne'', hnot''⟩ hname,
    splitRequiredResponseTokens_succ 0 hname.2 (comment_shape htext), if_neg hname.1, if_pos rfl]
  simp [hcount, hlow, hhigh]

theorem exists_fields_of_parseGroupResponseArguments {arguments : Bytes}
    {group : GroupResponseArguments}
    (h : parseGroupResponseArguments arguments = some group) :
    ∃ countText lowText highText, arguments = countText ++ SP ::
      (lowText ++ SP :: (highText ++ SP :: (group.group ++ group.trailingText))) ∧
      IsArticleNumber countText group.count ∧ IsArticleNumber lowText group.low ∧
      IsArticleNumber highText group.high := by
  unfold parseGroupResponseArguments at h
  split at h
  · rename_i countText lowText highText name text hsplit
    obtain ⟨_, rest, _, rfl, htokens, hsplit⟩ := exists_token_of_split hsplit
    cases htokens
    obtain ⟨_, rest, _, rfl, htokens, hsplit⟩ := exists_token_of_split hsplit
    cases htokens
    obtain ⟨_, rest, _, rfl, htokens, hsplit⟩ := exists_token_of_split hsplit
    cases htokens
    obtain ⟨token, last, rfl, htoken, hlast⟩ := exists_token_split rest
    rw [splitRequiredResponseTokens_succ 0 htoken hlast, if_pos rfl] at hsplit
    split_ifs at hsplit
    cases hsplit
    obtain ⟨count, hcount, h⟩ := Option.bind_eq_some_iff.mp h
    obtain ⟨low, hlow, h⟩ := Option.bind_eq_some_iff.mp h
    obtain ⟨high, hhigh, h⟩ := Option.bind_eq_some_iff.mp h
    cases h
    rw [parseResponseArticleNumber_eq_some_iff] at hcount hlow hhigh
    exact ⟨countText, lowText, highText, rfl, hcount, hlow, hhigh⟩
  · cases h

theorem status_eq_of_code {code : Nat} (hlower : 100 ≤ code) (hupper : code < 600)
    (h : status.code = code) : status = ⟨code, hlower, hupper⟩ := by
  cases status
  cases h
  rfl

theorem eq_of_digit {byte : UInt8} {value : Nat} (h : StatusCode.digit byte = some value) :
    byte = UInt8.ofNat value + 48 := by
  unfold StatusCode.digit at h
  split_ifs at h
  rw [← Option.some.inj h, UInt8.ofNat_toNat, UInt8.sub_add_cancel]

theorem exists_rest_of_211 (h : StatusCode.parse line = some status)
    (hcode : status.code = 211) : ∃ rest, line = ascii "211" ++ rest := by
  unfold StatusCode.parse at h
  split at h
  · rename_i rest
    split at h
    · rename_i d0 d1 d2 h0 h1 h2
      split_ifs at h
      have hsum : d0 * 100 + d1 * 10 + d2 = 211 := by
        rw [← hcode, ← Option.some.inj h]
      have hd1 := StatusCode.digit_le h1
      have hd2 := StatusCode.digit_le h2
      obtain rfl : d0 = 2 := by omega
      obtain rfl : d1 = 1 := by omega
      obtain rfl : d2 = 1 := by omega
      rw [eq_of_digit h0, eq_of_digit h1, eq_of_digit h2]
      exact ⟨rest, rfl⟩
    · cases h
  · cases h

theorem GroupLine.accepted {kind : RequestKind} {count : Nat} (h : GroupLine line count low high)
    (hkind : kind = .group ∨ kind = .listGroup) : AcceptedLine kind ⟨211, by decide, by decide⟩
      line := by
  obtain ⟨countText, lowText, highText, group, text, rfl, hcount, hlow, hhigh, hgroup, htext⟩ :=
    h.fields
  have hvalid : validateGroupResponseArguments
      (countText ++ SP :: (lowText ++ SP :: (highText ++ SP :: (group ++ text)))) = true := by
    rw [validateGroupResponseArguments, parseGroupResponseArguments_fields hcount hlow hhigh hgroup
      htext, Option.any_some, h.watermarks, hgroup, htext]
    rfl
  have hthree : 3 ≤ (ascii "211 " ++
      (countText ++ SP :: (lowText ++ SP :: (highText ++ SP :: (group ++ text))))).length := by
    simp [ascii]
  rcases hkind with rfl | rfl
  all_goals
    refine ⟨h.isLine, rfl, h.fits, by decide, ?_⟩
    rw [validateResponseInitialLine_crlf, Bool.and_eq_true, Option.any_eq_true]
    exact ⟨decide_eq_true hthree, _, rfl, hvalid⟩

theorem acceptedLine_listGroup_iff (hcode : status.code = 211) :
    AcceptedLine .listGroup status line ↔ ∃ count low high, GroupLine line count low high := by
  obtain rfl := status_eq_of_code (by decide) (by decide) hcode
  constructor
  · intro h
    obtain ⟨rest, rfl⟩ := exists_rest_of_211 h.code rfl
    have hvalid := h.valid
    rw [validateResponseInitialLine_crlf, Bool.and_eq_true, Option.any_eq_true] at hvalid
    obtain ⟨-, arguments, harguments, hvalid⟩ := hvalid
    have hrest : rest = SP :: arguments := by
      cases rest with
      | nil =>
        cases harguments
        exact absurd hvalid (by decide)
      | cons byte tail =>
        have hget : getFrom (ascii "211" ++ byte :: tail) 3 = some (byte :: tail) := by
          rw [getFrom, if_pos (by simp [ascii])]
          rfl
        rw [responseArguments, hget] at harguments
        dsimp only at harguments
        split_ifs at harguments with hbyte
        rw [hbyte, Option.some.inj harguments]
    subst hrest
    obtain ⟨group, hgroup, hchecks⟩ := (Option.any_eq_true _ _).mp hvalid
    rw [Bool.and_eq_true, Bool.and_eq_true] at hchecks
    obtain ⟨countText, lowText, highText, rfl, hcount, hlow, hhigh⟩ :=
      exists_fields_of_parseGroupResponseArguments hgroup
    exact ⟨group.count, group.low, group.high, h.isLine, h.fits,
      ⟨countText, lowText, highText, group.group, group.trailingText, rfl, hcount, hlow, hhigh,
        hchecks.1.2, hchecks.2⟩, hchecks.1.1⟩
  · rintro ⟨count, low, high, h⟩
    exact h.accepted (Or.inr rfl)

theorem exists_lines_of_listgroup {statusLine content : Bytes}
    (h : validateListgroupResponseContent statusLine content = true) :
    ∃ lines, content = wireLines lines ∧ ∀ line ∈ lines, IsLineContent line := by
  obtain ⟨group, -, h⟩ := (Option.any_eq_true _ _).mp h
  obtain ⟨state, hstate, -⟩ := (Option.any_eq_true _ _).mp h
  exact exists_wireLines_of_validateCrlfLines hstate

theorem GroupLine.validate_iff {count : Nat} (h : GroupLine line count low high)
    (hlines : ∀ line ∈ lines, IsLineContent line) :
    validateListgroupResponseContent (line ++ CRLF) (wireLines lines) = true ↔
      ∃ numbers, List.Forall₂ IsArticleNumber lines numbers ∧
        GroupNumbers count low high numbers := by
  obtain ⟨countText, lowText, highText, group, text, hline, hcount, hlow, hhigh, hgroup, htext⟩ :=
    h.fields
  exact validateListgroupResponseContent_wireLines hline
    (parseGroupResponseArguments_fields hcount hlow hhigh hgroup htext) hlines

theorem isLineContent_of_numbers {numbers : List Nat}
    (h : List.Forall₂ IsArticleNumber lines numbers) :
    ∀ line ∈ lines, IsLineContent line ∧ line ≠ [DOT] := by
  intro line hline
  obtain ⟨index, hindex, rfl⟩ := List.getElem_of_mem hline
  have hnumber := (List.forall₂_iff_get.mp h).2 index hindex (h.length_eq ▸ hindex)
  have hdigits := hnumber.digits
  refine ⟨⟨?_, ?_⟩, ?_⟩
  · exact fun hmem => absurd (hdigits CR hmem) (by decide)
  · exact fun hmem => absurd (hdigits LF hmem) (by decide)
  · intro hdot
    exact absurd (hdigits DOT (by rw [List.get_eq_getElem, hdot]; simp)) (by decide)

/-- An accepted row of an overview, whose number is the text before its first tab. -/
structure NumberedRow (row : Bytes) (number : Nat) : Prop where
  accepted : IsOverviewRow row number
  numbered : ∃ text fields, row = text ++ HT :: fields ∧ HT ∉ text ∧ IsArticleNumber text number

theorem numberedRow_of_isOverviewRow {row : Bytes} {number : Nat} (h : IsOverviewRow row number) :
    NumberedRow row number := by
  refine ⟨h, ?_⟩
  have hvalid := h.2
  unfold validateOverviewResponseLineWithMinFields at hvalid
  simp only [Option.bind_eq_bind, Option.bind_eq_some_iff] at hvalid
  obtain ⟨tab, htab, articleNumber, hnumber, hfields⟩ := hvalid
  obtain ⟨text, fields, rfl, rfl, hnot⟩ := memchr_eq_some_iff.mp htab
  rw [List.take_left] at hnumber
  split_ifs at hfields
  cases hfields
  exact ⟨text, fields, rfl, hnot, parseResponseArticleNumber_eq_some_iff.mp hnumber⟩

/-- Exactly which bytes are an answer to LISTGROUP, and that the rows of an answer to OVER increase.
-/
theorem numbered_replies_complete_iff (buf : Bytes) :
    ((∃ frame, ResponseFrame.parse .listGroup buf = .complete frame ∧ frame.status.code = 211) ↔
      ∃ line count low high lines numbers more,
        buf = line ++ CRLF ++ wireLines lines ++ DOT_TERMINATOR ++ more ∧
          GroupLine line count low high ∧
        List.Forall₂ IsArticleNumber lines numbers ∧ GroupNumbers count low high numbers) ∧
    ∀ frame, ResponseFrame.parse .over buf = .complete frame → frame.status.code = 224 →
      ∃ rows numbers, frame.content = wireLines rows ∧ (∀ row ∈ rows, IsLineContent row) ∧
        List.Forall₂ NumberedRow rows numbers ∧ numbers.Pairwise (· < ·) := by
  refine ⟨⟨?_, ?_⟩, ?_⟩
  · rintro ⟨frame, hparse, hcode⟩
    have hstatus := status_eq_of_code (by decide) (by decide) hcode
    obtain ⟨line, more, hbuf, haccepted, hvalid⟩ := exists_block hparse (by rw [hstatus]; decide)
      (by rw [hstatus]; rfl)
    obtain ⟨count, low, high, hline⟩ := (acceptedLine_listGroup_iff hcode).mp haccepted
    obtain ⟨lines, hcontent, hlines⟩ := exists_lines_of_listgroup hvalid
    rw [hcontent] at hvalid hbuf
    obtain ⟨numbers, hnumbers, hgroup⟩ := (hline.validate_iff hlines).mp hvalid
    refine ⟨line, count, low, high, lines, numbers, more, ?_, hline, hnumbers, hgroup⟩
    rw [hbuf, crlf_eq]
    simp
  · rintro ⟨line, count, low, high, lines, numbers, more, rfl, hline, hnumbers, hgroup⟩
    have hlines : ∀ line ∈ lines, IsLineContent line ∧ line ≠ [DOT] :=
      isLineContent_of_numbers hnumbers
    have haccepted : AcceptedLine .listGroup ⟨211, by decide, by decide⟩ line :=
      (acceptedLine_listGroup_iff rfl).mpr ⟨count, low, high, hline⟩
    have hvalid : validateNonArticleResponseContent .listGroup (line ++ CRLF) (wireLines lines) =
      true :=
      (hline.validate_iff fun line hmem => (hlines line hmem).1).mpr ⟨numbers, hnumbers, hgroup⟩
    obtain ⟨frame, hstatus, -, -, hparse⟩ :=
      haccepted.parse_block rfl (wireLines lines) more (by decide)
      (bounds_lines (fun line hmem => (hlines line hmem).1) (fun line hmem => (hlines line hmem).2)
        more)
    rw [if_pos hvalid] at hparse
    refine ⟨frame, ?_, by rw [hstatus]⟩
    rw [← hparse, crlf_eq]
    simp
  · intro frame hparse hcode
    have hstatus := status_eq_of_code (by decide) (by decide) hcode
    obtain ⟨line, more, -, -, hvalid⟩ :=
      exists_block hparse (by rw [hstatus]; decide) (by rw [hstatus]; rfl)
    obtain ⟨state, hstate⟩ := Option.isSome_iff_exists.mp hvalid
    obtain ⟨rows, hrows, hlines⟩ := exists_wireLines_of_validateCrlfLines hstate
    have hcontent : validateOverviewResponseContent frame.content = true := hvalid
    rw [hrows] at hcontent
    obtain ⟨numbers, hnumbers, hsorted⟩ := (validateOverviewResponseContent_wireLines hlines).mp
      hcontent
    exact ⟨rows, numbers, hrows, hlines,
      hnumbers.imp fun _ _ => numberedRow_of_isOverviewRow, hsorted⟩

end NntpBench.Protocol
