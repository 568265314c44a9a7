import NntpBench.Server.LineBoundaries

namespace NntpBench.Server

open Protocol Terminator BufferedResponseReceiver

variable {read line before left right : Bytes} {reads lines : List Bytes}

variable {depth : Nat}

theorem fillBuf_new (hle : read.length ≤ SERVER_READER_CAPACITY) (rest : List Bytes) :
    (BufReader.new (read :: rest)).fillBuf = (.ok (), ⟨read, rest.map .data⟩) := by
  have hdrop : read.drop SERVER_READER_CAPACITY = [] := List.drop_eq_nil_of_le hle
  simp only [BufReader.fillBuf, BufReader.new, List.map_cons, pollRead, List.take_of_length_le hle,
    hdrop, ne_eq, not_true_eq_false, if_false, if_true]

theorem readCrlfLineInto_open (hne : read ≠ []) (hlf : LF ∉ read)
    (hfits : line.length + read.length ≤ MAX_COMMAND_LINE_BYTES) (rest : List Bytes) :
    readCrlfLineInto (BufReader.new (read :: rest)) line =
      readCrlfLineInto (BufReader.new rest) (line ++ read) := by
  have hle : read.length ≤ SERVER_READER_CAPACITY := by
    have hmax : MAX_COMMAND_LINE_BYTES ≤ SERVER_READER_CAPACITY := by decide
    omega
  have hopen : ¬ [LF] <:+ line ++ read := by
    intro hsuffix
    have hlast := List.suffix_of_suffix_length_le hsuffix (List.suffix_append line read)
      (List.length_pos_of_ne_nil hne)
    exact hlf (hlast.subset List.mem_cons_self)
  rw [readCrlfLineInto_of_fill (fillBuf_new hle rest) hne]
  dsimp only
  rw [lineTake_of_notMem hlf, if_neg (by omega), List.take_length, if_neg hopen, BufReader.consume,
    List.drop_length]
  rfl

theorem readCrlfLineInto_overflow (hlf : LF ∉ read) (hle : read.length ≤ SERVER_READER_CAPACITY)
    (hlong : MAX_COMMAND_LINE_BYTES < line.length + read.length) (hne : read ≠ [])
    (rest : List Bytes) :
    readCrlfLineInto (BufReader.new (read :: rest)) line =
      (.ok (some TOO_LONG_LINE), BufReader.new rest) := by
  rw [readCrlfLineInto_of_fill (fillBuf_new hle rest) hne]
  dsimp only
  rw [lineTake_of_notMem hlf, if_pos hlong, BufReader.consume, List.drop_length]
  rfl

theorem readCrlfLineInto_lf {more : Bytes} (hbefore : LF ∉ before)
    (hle : (before ++ LF :: more).length ≤ SERVER_READER_CAPACITY) (rest : List Bytes) :
    readCrlfLineInto (BufReader.new ((before ++ LF :: more) :: rest)) line =
      (.ok (some (clipLine (line ++ (before ++ [LF])))), ⟨more, rest.map .data⟩) := by
  have hsplit : before ++ LF :: more = before ++ [LF] ++ more := by simp
  have hlength : (before ++ [LF]).length = before.length + 1 := by simp
  rw [readCrlfLineInto_of_fill (fillBuf_new hle rest) (by simp)]
  dsimp only
  rw [lineTake_line hbefore, hsplit, ← hlength, List.take_left, BufReader.consume, List.drop_left]
  by_cases hlong : line.length + (before ++ [LF]).length > MAX_COMMAND_LINE_BYTES
  · rw [if_pos hlong, clipLine_of_lt (by rw [List.length_append]; exact hlong)]
  · have hsuffix : [LF] <:+ line ++ (before ++ [LF]) := ⟨line ++ before, by simp⟩
    rw [if_neg hlong, if_pos hsuffix, clipLine_of_le (by rw [List.length_append]; omega)]

theorem readBufferedCommands_empty (slots : Nat) (socket : List ReadEvent) (batch : Batch) :
    readBufferedCommands slots ⟨[], socket⟩ batch = (.ok (), ⟨[], socket⟩, batch) := by
  cases slots <;> rfl

/-- Whatever is read later, these reads hand over these lines and leave the buffer empty. -/
def Hands (depth : Nat) (reads lines : List Bytes) : Prop :=
  ∀ rest, commandLines depth (BufReader.new (reads ++ rest)) =
    lines ++ commandLines depth (BufReader.new rest)

theorem Hands.nil : Hands depth [] [] := fun _ => rfl

theorem Hands.append {more others : List Bytes} (h : Hands depth reads lines)
    (hmore : Hands depth more others) : Hands depth (reads ++ more) (lines ++ others) := by
  intro rest
  rw [List.append_assoc, h, hmore, List.append_assoc]

theorem Hands.single
    (hread : ∀ rest, readCrlfLineInto (BufReader.new (reads ++ rest)) [] =
      (.ok (some line), BufReader.new rest))
    (hbody : takesBody line [] = false) : Hands depth reads [line] := by
  intro rest
  exact commandLines_of_line (hread rest) hbody (readBufferedCommands_empty _ _ _)

theorem hands_line (hends : ∃ before, line = before ++ [LF] ∧ LF ∉ before)
    (hfits : line.length ≤ MAX_COMMAND_LINE_BYTES + 1) (hplain : isTransferLine line = false) :
    Hands depth [line] [clipLine line] := by
  obtain ⟨before, rfl, hbefore⟩ := hends
  have hle : (before ++ [LF]).length ≤ SERVER_READER_CAPACITY := hfits.trans (by decide)
  apply Hands.single
  · intro rest
    exact readCrlfLineInto_lf hbefore hle rest
  · exact takesBody_clipLine (takesBody_of_not_transfer hplain _)

theorem hands_long (hlf : LF ∉ read) (hle : read.length ≤ SERVER_READER_CAPACITY)
    (hlong : MAX_COMMAND_LINE_BYTES < read.length) : Hands depth [read] [TOO_LONG_LINE] := by
  apply Hands.single
  · intro rest
    apply readCrlfLineInto_overflow hlf hle
    · rwa [List.length_nil, Nat.zero_add]
    · exact List.ne_nil_of_length_pos (by omega)
  · exact takesBody_tooLong _

theorem hands_long_two {first second : Bytes} (hfirst : LF ∉ first) (hsecond : LF ∉ second)
    (hlength : first.length = MAX_COMMAND_LINE_BYTES)
    (hne : second ≠ []) (hle : second.length < SERVER_READER_CAPACITY) :
    Hands depth [first, second] [TOO_LONG_LINE] ∧
      Hands depth [first, second ++ [LF]] [TOO_LONG_LINE] := by
  -- An overlong line in two reads, with LF behind it or not, is given up at the second.
  have hnotNil : first ≠ [] := List.ne_nil_of_length_pos (by rw [hlength]; decide)
  have hpos := List.length_pos_of_ne_nil hne
  have hopen : ∀ rest, readCrlfLineInto (BufReader.new (first :: rest)) [] =
      readCrlfLineInto (BufReader.new rest) first :=
    readCrlfLineInto_open hnotNil hfirst (by rw [List.length_nil]; omega)
  constructor
  · apply Hands.single _ (takesBody_tooLong _)
    intro rest
    change readCrlfLineInto (BufReader.new (first :: second :: rest)) [] = _
    rw [hopen]
    exact readCrlfLineInto_overflow hsecond (by omega) (by omega) hne rest
  · apply Hands.single _ (takesBody_tooLong _)
    intro rest
    have hroom : (second ++ [LF]).length ≤ SERVER_READER_CAPACITY := by
      rw [List.length_append, List.length_singleton]
      omega
    change readCrlfLineInto (BufReader.new (first :: (second ++ [LF]) :: rest)) [] = _
    rw [hopen, readCrlfLineInto_lf hsecond hroom, clipLine_of_lt]
    · rfl
    · simp only [List.length_append, List.length_singleton]
      omega

theorem exists_hands_overlong (depth : Nat) {content : Bytes} (hlf : LF ∉ content)
    (hlong : MAX_COMMAND_LINE_BYTES < content.length) :
    ∃ reads closed lines, reads.flatten = content ∧ closed.flatten = content ++ [LF] ∧
      [] ∉ reads ∧ [] ∉ closed ∧ Hands depth reads lines ∧ Hands depth closed lines := by
  -- An overlong line can be discarded in parts, the last one with its LF or without.
  induction hn : content.length using Nat.strong_induction_on generalizing content with
  | _ n ih =>
    by_cases hshort : content.length < 2 * (MAX_COMMAND_LINE_BYTES + 1)
    · have hcut : content.take MAX_COMMAND_LINE_BYTES ++ content.drop MAX_COMMAND_LINE_BYTES =
        content :=
        List.take_append_drop _ _
      have hlength : (content.take MAX_COMMAND_LINE_BYTES).length = MAX_COMMAND_LINE_BYTES := by
        rw [List.length_take]
        omega
      have hne : content.drop MAX_COMMAND_LINE_BYTES ≠ [] :=
        List.ne_nil_of_length_pos (by rw [List.length_drop]; omega)
      have hspace : (content.drop MAX_COMMAND_LINE_BYTES).length < SERVER_READER_CAPACITY := by
        have hcapacity : MAX_COMMAND_LINE_BYTES + 2 < SERVER_READER_CAPACITY := by decide
        rw [List.length_drop]
        omega
      have hfirst : content.take MAX_COMMAND_LINE_BYTES ≠ [] :=
        List.ne_nil_of_length_pos (by rw [hlength]; decide)
      obtain ⟨hopen, hclosed⟩ := hands_long_two
        (fun hmem => hlf (List.mem_of_mem_take hmem)) (fun hmem => hlf (List.mem_of_mem_drop hmem))
        hlength hne hspace
      refine ⟨_, _, _, ?_, ?_, ?_, ?_, hopen, hclosed⟩
      · simp [hcut]
      · simp [← List.append_assoc, hcut]
      · simp [hfirst.symm, hne.symm]
      · simp [hfirst.symm]
    · have hlength : (content.take (MAX_COMMAND_LINE_BYTES + 1)).length = MAX_COMMAND_LINE_BYTES +
          1 := by
        rw [List.length_take]
        omega
      have hcapacity : MAX_COMMAND_LINE_BYTES + 1 ≤ SERVER_READER_CAPACITY := by decide
      have hcut : content.take (MAX_COMMAND_LINE_BYTES + 1) ++
          content.drop (MAX_COMMAND_LINE_BYTES + 1) = content := List.take_append_drop _ _
      have hpart : Hands depth [content.take (MAX_COMMAND_LINE_BYTES + 1)] [TOO_LONG_LINE] :=
        hands_long (fun hmem => hlf (List.mem_of_mem_take hmem)) (by omega) (by omega)
      have hfirst : content.take (MAX_COMMAND_LINE_BYTES + 1) ≠ [] :=
        List.ne_nil_of_length_pos (by omega)
      have hdrop : (content.drop (MAX_COMMAND_LINE_BYTES + 1)).length =
          content.length - (MAX_COMMAND_LINE_BYTES + 1) := List.length_drop
      have hrestLf : LF ∉ content.drop (MAX_COMMAND_LINE_BYTES + 1) :=
        fun hmem => hlf (List.mem_of_mem_drop hmem)
      obtain ⟨reads, closed, lines, hreads, hclosed, hne, hclosedNe, hhands, hhandsClosed⟩ :=
        ih _ (by omega) hrestLf (by omega) hdrop
      refine ⟨_, _, _, ?_, ?_, ?_, ?_, hpart.append hhands, hpart.append hhandsClosed⟩
      · simp [hreads, hcut]
      · simp [hclosed, ← List.append_assoc, hcut]
      · simp [hne, hfirst.symm]
      · simp [hclosedNe, hfirst.symm]

theorem stripCompleteCrlfLine_bareLf (hlf : [LF] <:+ left) (hbare : ¬ CRLF <:+ left)
    (hright : right = [] ∨ CRLF <:+ right) :
    stripCompleteCrlfLine (left ++ right) = none := by
  by_contra hsome
  obtain ⟨content, hcontent⟩ := Option.ne_none_iff_exists'.mp hsome
  obtain ⟨hline, hclean⟩ := stripCompleteCrlfLine_eq_some hcontent
  rcases hright with rfl | ⟨rest, rfl⟩
  · rw [List.append_nil] at hline
    exact hbare ⟨content, hline.symm⟩
  · rw [← List.append_assoc] at hline
    have hleft := (List.append_inj' hline rfl).1
    refine absurd ?_ hclean.2
    rw [← hleft]
    exact List.mem_append_left _ (hlf.subset List.mem_cons_self)

theorem isTransferLine_bareLf (hlf : [LF] <:+ left) (hbare : ¬ CRLF <:+ left)
    (hright : CRLF <:+ right) : isTransferLine (left ++ right) = isTransferLine left := by
  -- The verb is in front of the LF.
  have hboth := stripCompleteCrlfLine_bareLf hlf hbare (Or.inr hright)
  have hleft : stripCompleteCrlfLine left = none := by
    rw [← List.append_nil left]
    exact stripCompleteCrlfLine_bareLf hlf hbare (Or.inl rfl)
  have hkind : ∀ line, stripCompleteCrlfLine line = none → (RequestLine.parse line).kind =
      .unknown := by
    intro line hline
    rw [RequestLine.parse, hline]
    split_ifs <;> rfl
  have hverb : lineVerb (left ++ right) = lineVerb left := by
    unfold lineVerb lineContent
    rw [hboth, hleft, Option.getD_none, Option.getD_none, List.findIdx?_append]
    cases hblank : left.findIdx? isAsciiWhitespace with
    | none =>
      rw [List.findIdx?_eq_none_iff] at hblank
      exact absurd (hblank LF (hlf.subset List.mem_cons_self)) (by decide)
    | some index =>
      obtain ⟨hindex, -⟩ := List.findIdx?_eq_some_iff_getElem.mp hblank
      simp only [Option.some_or, Option.getD_some]
      exact List.take_append_of_le_length (by omega)
  unfold isTransferLine isKnownTransferCommand
  rw [hkind _ hboth, hkind _ hleft, hverb]

theorem findCrlfLineEnd_bareLf (hcut : LfCut (left ++ right) [left, right] [])
    (hbare : ¬ CRLF <:+ left) (hright : CRLF <:+ right) :
    findCrlfLineEnd (left ++ right) 0 = some (left ++ right).length := by
  -- The search for CRLF passes over a bare LF.
  cases hfind : findCrlfLineEnd (left ++ right) 0 with
  | none =>
    obtain ⟨start, rfl⟩ := hright
    rw [findCrlfLineEnd, getFrom_zero, Option.bind_some, Option.map_eq_none_iff,
      ListSearch.findSub_eq_none_iff] at hfind
    refine absurd ?_ (hfind (left ++ start).length (by simp))
    rw [← List.append_assoc, List.drop_left]
  | some take =>
    obtain ⟨content, behind, hsplit, rfl, -⟩ := findCrlfLineEnd_split hfind
    have hlf : [LF] <:+ content ++ CRLF := ⟨content ++ [CR], by simp [crlf_eq]⟩
    rw [hsplit] at hcut
    obtain ⟨before, after, hlines, hbefore, hafter⟩ := hcut.split_of_lf (Or.inr hlf)
    rcases before with _ | ⟨line, _ | ⟨second, more⟩⟩
    · simp [crlf_eq] at hbefore
    · obtain ⟨rfl, -⟩ := List.cons.inj hlines
      refine absurd ⟨content, ?_⟩ hbare
      rw [hbefore, List.flatten_singleton]
    · simp only [List.cons_append, List.cons.injEq, List.nil_eq, List.append_eq_nil_iff] at hlines
      obtain ⟨rfl, rfl, rfl, -⟩ := hlines
      rw [hbefore]
      simp

/-- The reads of a line whose LF arrives together with the bytes behind it. -/
def lateLf (before more : Bytes) : List Bytes :=
  if before = [] then [LF :: more] else [before, LF :: more]

theorem flatten_lateLf (before more : Bytes) :
    (lateLf before more).flatten = before ++ LF :: more := by
  unfold lateLf
  split_ifs with hnil
  · simp [hnil]
  · simp

theorem nil_notMem_lateLf (before more : Bytes) : [] ∉ lateLf before more := by
  unfold lateLf
  split_ifs with hnil
  · simp
  · simp [Ne.symm hnil]

theorem readCrlfLineInto_lateLf {more : Bytes} (hbefore : LF ∉ before)
    (hfits : before.length ≤ MAX_COMMAND_LINE_BYTES)
    (hle : (LF :: more).length ≤ SERVER_READER_CAPACITY) (rest : List Bytes) :
    readCrlfLineInto (BufReader.new (lateLf before more ++ rest)) [] =
      (.ok (some (clipLine (before ++ [LF]))), ⟨more, rest.map .data⟩) := by
  have hlf : ∀ line, readCrlfLineInto (BufReader.new ((LF :: more) :: rest)) line =
      (.ok (some (clipLine (line ++ [LF]))), ⟨more, rest.map .data⟩) :=
    fun line => readCrlfLineInto_lf (List.not_mem_nil : LF ∉ []) hle rest
  unfold lateLf
  split_ifs with hnil
  · rw [hnil]
    exact hlf []
  · change readCrlfLineInto (BufReader.new (before :: (LF :: more) :: rest)) [] = _
    rw [readCrlfLineInto_open hnil hbefore (by rw [List.length_nil]; omega)]
    exact hlf before

theorem hands_bareLf (hdepth : 2 ≤ depth) (hbefore : LF ∉ before)
    (hfits : before.length ≤ MAX_COMMAND_LINE_BYTES) (hcut : LfCut (left ++ right) [left, right] [])
    (happart : ¬ Apart left right) (hplain : isTransferLine (before ++ [LF]) = false)
    (hplainLeft : isTransferLine left = false) :
    Hands depth (lateLf before (left ++ right)) [clipLine (before ++ [LF]),
      clipLine (left ++ right)] := by
  -- With the LF of the line before them, a bare-LF line and its neighbour are one line.
  simp only [Apart, not_or, not_not, not_le] at happart
  obtain ⟨hbare, hright, hsmall⟩ := happart
  obtain ⟨content, hleft, -⟩ := hcut.ends left (by simp)
  have hle : (LF :: (left ++ right)).length ≤ SERVER_READER_CAPACITY := by
    rw [List.length_cons, List.length_append]
    omega
  have hbody : takesBody (clipLine (left ++ right)) [] = false := by
    apply takesBody_clipLine (takesBody_of_not_transfer _ _)
    rw [isTransferLine_bareLf ⟨content, hleft.symm⟩ hbare hright]
    exact hplainLeft
  have hbuffered : ∀ (socket : List ReadEvent) (batch : Batch), ∃ commands,
      readBufferedCommands (depth - 1) ⟨left ++ right, socket⟩ batch =
        (.ok (), ⟨[], socket⟩, ⟨commands, batch.lines ++ [clipLine (left ++ right)]⟩) := by
    intro socket batch
    obtain ⟨slots, hslots⟩ : ∃ slots, depth - 1 = slots + 1 := ⟨depth - 2, by omega⟩
    have hline : readBufferedCrlfLineInto ⟨left ++ right, socket⟩ =
        some (clipLine (left ++ right), ⟨[], socket⟩) := by
      rw [readBufferedCrlfLineInto]
      dsimp only
      rw [findCrlfLineEnd_bareLf hcut hbare hright, Option.map_some, BufReader.consume,
        List.take_length, List.drop_length]
      rfl
    rw [hslots, readBufferedCommands, hline]
    dsimp only
    rw [pushCommand_plain hbody]
    dsimp only
    exact ⟨_, readBufferedCommands_empty _ _ _⟩
  intro rest
  obtain ⟨commands, hcommands⟩ := hbuffered (rest.map .data)
    ⟨[{ parseCommandLine (clipLine (before ++ [LF])) 0 with hasTransferBody := false }],
      [clipLine (before ++ [LF])]⟩
  exact commandLines_of_line (readCrlfLineInto_lateLf hbefore hfits hle rest)
    (takesBody_clipLine (takesBody_of_not_transfer hplain _)) hcommands

/-- Every delivery of the stream in non-empty reads hands over the same lines. -/
def FragmentationFree (depth : Nat) (stream : Bytes) : Prop :=
  ∀ reads others : List Bytes, [] ∉ reads → [] ∉ others → reads.flatten = stream →
    others.flatten = stream →
    commandLines depth (BufReader.new reads) = commandLines depth (BufReader.new others)

theorem exists_hands_line (hends : ∃ before, line = before ++ [LF] ∧ LF ∉ before)
    (hplain : isTransferLine line = false) :
    ∃ reads lines, reads.flatten = line ∧ [] ∉ reads ∧ Hands depth reads lines := by
  obtain ⟨before, rfl, hbefore⟩ := hends
  by_cases hlong : MAX_COMMAND_LINE_BYTES < before.length
  · obtain ⟨-, closed, lines, -, hclosed, -, hne, -, hhands⟩ :=
      exists_hands_overlong depth hbefore hlong
    exact ⟨closed, lines, hclosed, hne, hhands⟩
  · have hfits : (before ++ [LF]).length ≤ MAX_COMMAND_LINE_BYTES + 1 := by
      rw [List.length_append, List.length_singleton]
      omega
    exact ⟨_, _, by simp, by simp, hands_line ⟨before, rfl, hbefore⟩ hfits hplain⟩

theorem exists_hands_lines (hends : ∀ line ∈ lines, ∃ before, line = before ++ [LF] ∧ LF ∉ before)
    (hplain : ∀ line ∈ lines, isTransferLine line = false) :
    ∃ reads handed, reads.flatten = lines.flatten ∧ [] ∉ reads ∧ Hands depth reads handed := by
  induction lines with
  | nil => exact ⟨[], [], rfl, by simp, Hands.nil⟩
  | cons line lines ih =>
    rw [List.forall_mem_cons] at hends hplain
    obtain ⟨reads, handed, hreads, hne, hhands⟩ := exists_hands_line hends.1 hplain.1
    obtain ⟨more, others, hmore, hmoreNe, hhandsMore⟩ := ih hends.2 hplain.2
    refine ⟨reads ++ more, handed ++ others, ?_, ?_, hhands.append hhandsMore⟩
    · rw [List.flatten_append, hreads, hmore, List.flatten_cons]
    · simp [hne, hmoreNe]

/-- Where the number of lines does not depend on fragmentation, two deliveries of the same bytes
behind the same lines hand over equally many. -/
theorem FragmentationFree.length_eq {before others otherLines : List Bytes} {rest : Bytes}
    (h : FragmentationFree depth (before.flatten ++ (reads.flatten ++ rest)))
    (hends : ∀ line ∈ before, ∃ content, line = content ++ [LF] ∧ LF ∉ content)
    (hplain : ∀ line ∈ before, isTransferLine line = false) (hreads : [] ∉ reads)
    (hothers : [] ∉ others) (hsame : reads.flatten = others.flatten)
    (hhands : Hands depth reads lines) (hhandsOthers : Hands depth others otherLines) :
    lines.length = otherLines.length := by
  obtain ⟨start, first, hstart, hstartNe, hhandsStart⟩ := exists_hands_lines hends hplain
  obtain ⟨last, hlast, hlastNe⟩ : ∃ last : List Bytes, last.flatten = rest ∧ [] ∉ last := by
    by_cases hnil : rest = []
    · exact ⟨[], by simp [hnil], by simp⟩
    · exact ⟨[rest], by simp, by simp [Ne.symm hnil]⟩
  have hequal := h (start ++ reads ++ last) (start ++ others ++ last)
    (by simp [hstartNe, hreads, hlastNe])
    (by simp [hstartNe, hothers, hlastNe]) (by simp [hstart, hlast])
      (by simp [hstart, hlast, hsame])
  rw [(hhandsStart.append hhands) last, (hhandsStart.append hhandsOthers) last] at hequal
  have hlength := congrArg List.length hequal
  simp only [List.length_append] at hlength
  omega

section

variable {stream tail : Bytes} {lines : List Bytes}

theorem FragmentationFree.line_le (h : FragmentationFree depth stream)
    (hcut : LfCut stream lines tail) (hplain : ∀ line ∈ lines, isTransferLine line = false)
    (hline : line ∈ lines) :
    line.length ≤ MAX_COMMAND_LINE_BYTES + 1 := by
  by_contra hlong
  obtain ⟨before, after, rfl⟩ := List.append_of_mem hline
  obtain ⟨content, rfl, hcontent⟩ := hcut.ends line hline
  rw [List.length_append, List.length_singleton] at hlong
  -- The LF may come late, and is then a line of its own.
  obtain ⟨reads, closed, handed, hreads, hclosed, hne, hclosedNe, hhands, hhandsClosed⟩ :=
    exists_hands_overlong depth hcontent (by omega)
  have hlf : Hands depth [[LF]] [clipLine [LF]] :=
    hands_line ⟨[], rfl, List.not_mem_nil⟩ (by decide) (by decide +kernel)
  have hstream : stream = before.flatten ++
      ((reads ++ [[LF]]).flatten ++ (after.flatten ++ tail)) := by
    rw [hcut.stream_eq]
    simp [hreads]
  rw [hstream] at h
  have hlength := h.length_eq
    (fun line hline => hcut.ends line (List.mem_append_left _ hline))
    (fun line hline => hplain line (List.mem_append_left _ hline))
    (by simp [hne]) hclosedNe (by simp [hreads, hclosed]) (hhands.append hlf) hhandsClosed
  simp at hlength

theorem FragmentationFree.tail_lt (h : FragmentationFree depth stream)
    (hcut : LfCut stream lines tail)
    (hplain : ∀ line ∈ lines, isTransferLine line = false) :
    tail.length < 2 * (MAX_COMMAND_LINE_BYTES + 1) := by
  by_contra hlong
  have hcapacity : MAX_COMMAND_LINE_BYTES + 2 < SERVER_READER_CAPACITY := by decide
  -- One more byte in the first read makes two lines of the same bytes.
  obtain ⟨first, byte, second, rest, rfl, hfirst, hsecond⟩ : ∃ first byte second rest,
      tail = first ++ [byte] ++ second ++ rest ∧ first.length = MAX_COMMAND_LINE_BYTES ∧
        second.length = MAX_COMMAND_LINE_BYTES + 1 := by
    have hdrop : (tail.drop MAX_COMMAND_LINE_BYTES).length = tail.length - MAX_COMMAND_LINE_BYTES :=
      List.length_drop
    obtain ⟨byte, more, hmore⟩ := List.exists_cons_of_length_pos (by omega :
      0 < (tail.drop MAX_COMMAND_LINE_BYTES).length)
    rw [hmore, List.length_cons] at hdrop
    refine ⟨tail.take MAX_COMMAND_LINE_BYTES, byte, more.take (MAX_COMMAND_LINE_BYTES + 1),
      more.drop (MAX_COMMAND_LINE_BYTES + 1), ?_, ?_, ?_⟩
    · rw [List.append_assoc, List.take_append_drop, List.append_assoc, List.singleton_append,
        ← hmore, List.take_append_drop]
    · rw [List.length_take]
      omega
    · rw [List.length_take]
      omega
  have hopen := hcut.tail_open
  simp only [List.mem_append, not_or] at hopen
  obtain ⟨⟨⟨hfirstLf, hbyteLf⟩, hsecondLf⟩, -⟩ := hopen
  have htwo : Hands depth ([first ++ [byte]] ++ [second]) ([TOO_LONG_LINE] ++ [TOO_LONG_LINE]) := by
    apply Hands.append
    · apply hands_long (by simpa using ⟨hfirstLf, by simpa using hbyteLf⟩)
      · rw [List.length_append, List.length_singleton]
        omega
      · rw [List.length_append, List.length_singleton]
        omega
    · exact hands_long hsecondLf (by omega) (by omega)
  have hone : Hands depth [first, [byte] ++ second] [TOO_LONG_LINE] := by
    apply (hands_long_two hfirstLf _ hfirst _ _).1
    · simpa using ⟨by simpa using hbyteLf, hsecondLf⟩
    · simp
    · rw [List.length_append, List.length_singleton]
      omega
  have hstream : stream = lines.flatten ++ (([first ++ [byte]] ++ [second]).flatten ++ rest) := by
    rw [hcut.stream_eq]
    simp
  rw [hstream] at h
  have hlength := h.length_eq hcut.ends hplain (by
      have hne : second ≠ [] := List.ne_nil_of_length_pos (by omega)
      simp [hne.symm]) (by
      have hne : first ≠ [] := List.ne_nil_of_length_pos (by rw [hfirst]; decide)
      simp [hne.symm]) (by simp) htwo hone
  simp at hlength

theorem FragmentationFree.apart (h : FragmentationFree depth stream)
    (hcut : LfCut stream lines tail)
    (hplain : ∀ line ∈ lines, isTransferLine line = false) :
    depth ≤ 1 ∨ lines.tail.IsChain Apart := by
  by_cases hdepth : depth ≤ 1
  · exact Or.inl hdepth
  right
  rw [List.isChain_iff_forall_rel_of_append_cons_cons]
  intro left right between after htail
  by_contra happart
  -- `first` is the line before the two, `before` what is in front of it.
  obtain ⟨before, first, rfl⟩ : ∃ before first, lines = before ++ first :: left :: right ::
    after := by
    cases lines with
    | nil => simp at htail
    | cons head rest =>
      obtain ⟨before, first, hbefore⟩ := (List.eq_nil_or_concat (head :: between)).resolve_left
        (by simp)
      refine ⟨before, first, ?_⟩
      rw [List.tail_cons] at htail
      rw [htail, ← List.cons_append, hbefore]
      simp
  have hthree : ∀ line ∈ [first, left, right], line ∈ before ++ first :: left :: right ::
      after := by
    intro line hline
    simp only [List.mem_append, List.mem_cons, List.not_mem_nil, or_false] at hline ⊢
    tauto
  have hsingle : ∀ line ∈ [first, left, right], Hands depth [line] [clipLine line] := by
    intro line hline
    have hmem := hthree line hline
    exact hands_line (hcut.ends line hmem) (h.line_le hcut hplain hmem) (hplain line hmem)
  have hapartReads : Hands depth ([first] ++ ([left] ++ [right]))
      ([clipLine first] ++ ([clipLine left] ++ [clipLine right])) :=
    (hsingle first (by simp)).append ((hsingle left (by simp)).append (hsingle right (by simp)))
  have hpair : LfCut (left ++ right) [left, right] [] :=
    ⟨by simp, fun line hline => hcut.ends line (hthree line (List.mem_cons_of_mem _ hline)),
      List.not_mem_nil⟩
  have hfits := h.line_le hcut hplain (hthree first (by simp))
  obtain ⟨content, hfirst, hcontent⟩ := hcut.ends first (hthree first (by simp))
  rw [hfirst, List.length_append, List.length_singleton] at hfits
  have hplainFirst := hplain first (hthree first (by simp))
  rw [hfirst] at hplainFirst
  have hmerged := hands_bareLf (by omega : 2 ≤ depth) hcontent (by omega) hpair happart hplainFirst
    (hplain left (hthree left (by simp)))
  have hstream : stream =
      before.flatten ++ (([first] ++ ([left] ++ [right])).flatten ++ (after.flatten ++ tail)) := by
    rw [hcut.stream_eq]
    simp
  rw [hstream] at h
  have hne : [] ∉ [first] ++ ([left] ++ [right]) := by
    intro hnil
    obtain ⟨start, hstart, -⟩ := hcut.ends [] (hthree [] hnil)
    simp at hstart
  have hlength := h.length_eq (fun line hline => hcut.ends line (List.mem_append_left _ hline))
    (fun line hline => hplain line (List.mem_append_left _ hline)) hne (nil_notMem_lateLf _ _)
    (by simp [flatten_lateLf, hfirst]) hapartReads hmerged
  simp at hlength

end

/-- Without transfer commands, the command lines of a stream do not depend on how it is cut into
socket reads exactly when the stream is stable: no line is longer than the limit by more than its
LF, the tail is shorter than two overlong lines, and behind the first line no bare-LF line is in
the buffer with a CRLF line after it. -/
theorem fragmentation_free_iff_stable_lines {stream : Bytes}
    (hplain : ∀ line ∈ (lfLines stream).1, isTransferLine line = false) :
    FragmentationFree depth stream ↔ StableLines depth (lfLines stream).1 (lfLines stream).2 := by
  have hcut := lfCut_lfLines stream
  constructor
  · intro h
    exact ⟨fun line hline => h.line_le hcut hplain hline, h.tail_lt hcut hplain,
      h.apart hcut hplain⟩
  · intro hstable reads others hreads hothers hstream hotherStream
    have hlines : ∀ reads : List Bytes, [] ∉ reads → reads.flatten = stream →
        commandLines depth (BufReader.new reads) = handed (lfLines stream).1
          (lfLines stream).2 := by
      intro reads hreads hflatten
      apply commandLines_of_stable _ _ hstable hplain
      · exact BufReader.Live.new fun read hread hnil => hreads (hnil ▸ hread)
      · rw [BufReader.pending, BufReader.new, List.nil_append, unread_map_data, hflatten]
        exact hcut
    rw [hlines reads hreads hstream, hlines others hothers hotherStream]

theorem date_and_quit_are_fragmentation_free : FragmentationFree 2 (ascii "DATE\r\nQUIT\r\n") := by
  apply (fragmentation_free_iff_stable_lines (by decide +kernel)).mpr
  have hlines : lfLines (ascii "DATE\r\nQUIT\r\n") =
      ([ascii "DATE\r\n", ascii "QUIT\r\n"], []) := by decide +kernel
  rw [hlines]
  exact ⟨by decide +kernel, by decide, Or.inr (List.isChain_singleton _)⟩

/-- Three commands in one read are two: the second line is cut at its CRLF because it is not the
first of its batch. -/
theorem bare_lf_command_merges_with_the_next :
    (∀ line ∈ (lfLines (ascii "DATE\r\nDATE\nQUIT\r\n")).1, isTransferLine line = false) ∧
      commandLines 2 (BufReader.new [ascii "DATE\r\n", ascii "DATE\nQUIT\r\n"]) =
        [ascii "DATE\r\n", ascii "DATE\n", ascii "QUIT\r\n"] ∧
      commandLines 2 (BufReader.new [ascii "DATE\r\nDATE\nQUIT\r\n"]) =
        [ascii "DATE\r\n", ascii "DATE\nQUIT\r\n"] := by
  decide +kernel

end NntpBench.Server
